import AifyComms.DispatchRunUpdate

/-!
The message that tells a sender how its run ended: `_mirror_missing_dispatch_handoff`
of `api_core/dispatch_sweeps.py`, the chat copy of `api_core/dashboard_run_report.py`
for a run the dashboard started, the settlement that calls both, and the sweep for
runs that a reaper ended. The report a manager's run leaves for the operator goes
to another reader and is left out.

A PATCH reads the row before it holds the write lock; from its first UPDATE to its
commit it is alone, and settles the run on the row as it stands there. A sweep
mirrors from the row it selected, whatever the row has become since.
-/

namespace AifyComms.DispatchHandoff
open PyText Runs DispatchRunUpdate

/-- The run's row, with the link to the message that told its sender. -/
structure Row where
  run : Run
  handoffMessageId : String

/-- Who the run is between. -/
structure Parties where
  fromDashboard : Bool
  targetAgent : String

/-! ### Mirroring -/

def failedOrCancelled : List String := ["failed", "cancelled"]

/-- `_already_mirrored`. -/
def alreadyMirrored (row : Row) : Bool :=
  if normalise row.run.status ∈ failedOrCancelled then
    decide (strip row.handoffMessageId ≠ "") || decide (strip row.run.resultMessageId ≠ "")
  else decide (strip row.run.resultMessageId ≠ "")

/-- The spellings that `_normalize_runtime` maps to `claude-code`. -/
def claudeRuntimes : List String := ["claude", "claude-code", "claude_code"]

def deliverySummaries : List String :=
  ["Delivered to Claude resident session", "Delivered to Claude channel session"]

/-- `_is_delivery_only_claude_run`: a receipt of delivery is not the agent's reply. -/
def isDeliveryOnlyClaudeRun (run : Run) : Bool :=
  decide (normalise run.runtime ∈ claudeRuntimes) && decide (normalise run.status = "completed") &&
    deliverySummaries.any fun opening => opening.toList.isPrefixOf (strip run.summary).toList

def mirrors (row : Row) : Bool :=
  row.run.requireReply && !alreadyMirrored row && !isDeliveryOnlyClaudeRun row.run &&
    decide (normalise row.run.status ∈ terminalStatuses)

/-- `_mirror_missing_dispatch_handoff`, deciding on the row it was given and
writing to the one that stands: the new row and the message it stores. -/
def mirrorMissingDispatchHandoff (read current : Row) (messageId : String) : Row × List String :=
  if mirrors read then
    if normalise read.run.status ∈ failedOrCancelled then
      ({ current with handoffMessageId := messageId }, [messageId])
    else
      (⟨{ current.run with resultMessageId := messageId }, messageId⟩, [messageId])
  else (current, [])

/-- `_mirror_dashboard_run_summary_to_chat`. `explicit` is a message the agent
has itself sent to the dashboard since the run began, which is linked instead. -/
def mirrorDashboardRunSummary (parties : Parties) (read current : Row)
    (operatorClosed closedBefore : Bool) (explicit : Option String) (messageId : String) :
    Row × List String :=
  if !operatorClosed && parties.fromDashboard && decide (normalise read.run.status = "completed") &&
      decide (strip read.run.resultMessageId = "") && !isDeliveryOnlyClaudeRun read.run &&
      decide (strip current.run.resultMessageId = "") && !closedBefore &&
      decide (strip read.run.summary ≠ "") && decide (strip parties.targetAgent ≠ "") then
    match explicit with
    | some linked => ({ current with run := { current.run with resultMessageId := linked } }, [])
    | none =>
        ({ current with run := { current.run with resultMessageId := messageId } }, [messageId])
  else (current, [])

/-- What a settlement mints and finds. -/
structure Settlement where
  handoffId : String
  summaryId : String
  explicit : Option String

/-- `_settle_terminated_dispatch_run` on the row as it stands. -/
def settleTerminatedDispatchRun (parties : Parties) (row : Row) (operatorClosed closedBefore : Bool)
    (found : Settlement) : Row × List String :=
  let handoff := mirrorMissingDispatchHandoff row row found.handoffId
  let summary := mirrorDashboardRunSummary parties row handoff.1 operatorClosed closedBefore
    found.explicit found.summaryId
  (summary.1, handoff.2 ++ summary.2)

/-! ### The system -/

structure Pending where
  patch : Patch
  row : Row
  now : Nat

structure World where
  row : Row
  mirrored : List String
  closedBefore : Bool
  pending : Nat → Option Pending
  sweeps : Nat → Option Row

def initial (run : Run) : World := ⟨⟨run, ""⟩, [], false, fun _ => none, fun _ => none⟩

/-- Whether the request's write ends the run and settles it. An operator's close
that finds the run ended does not. -/
def settles (row run : Run) (patch : Patch) : Bool :=
  (effectiveStatus row patch).any (· ∈ terminalStatuses) &&
    (!operatorClose patch || decide (run.status ∉ terminalStatuses))

/-- The row that a PATCH which read `pending.row` commits, and the messages. -/
def patchRow (parties : Parties) (world : World) (pending : Pending) (found : Settlement) :
    Row × List String :=
  let run := (update pending.row.run world.row.run pending.patch pending.now none).run
  if settles pending.row.run world.row.run pending.patch then
    settleTerminatedDispatchRun parties ⟨run, world.row.handoffMessageId⟩
      (operatorClose pending.patch) world.closedBefore found
  else (⟨run, world.row.handoffMessageId⟩, [])

def closesRun (world : World) (pending : Pending) : Bool :=
  (update pending.row.run world.row.run pending.patch pending.now none).event.any
    (·.1 = "operator_closed")

/-- The rows `_sweep_unmirrored_failed_handoffs` selects. -/
def unmirroredFailed (row : Row) : Bool :=
  row.run.requireReply && decide (row.run.status ∈ failedOrCancelled) &&
    decide (row.handoffMessageId = "") && decide (row.run.resultMessageId = "") &&
    row.run.finishedAt.isSome

inductive Label where
  | read (request : Nat) (patch : Patch) (now : Nat)
  | write (request : Nat) (found : Settlement)
  | select (sweep : Nat)
  | sweep (sweep : Nat) (messageId : String)
  | reap (status : String) (now : Nat)
  | answer (messageId : String) (completes : Bool)

/-- The ids the service mints are not blank. A reaper ends a run that has not
ended, without settling it; a reply links itself to the run. -/
def step (parties : Parties) (world : World) : Label → Option World
  | .read request patch now =>
      match world.pending request with
      | some _ => none
      | none => some { world with
          pending := Function.update world.pending request (some ⟨patch, world.row, now⟩) }
  | .write request found =>
      match world.pending request with
      | some pending =>
          if strip found.handoffId = "" ∨ strip found.summaryId = "" ∨
              found.explicit.any (strip · = "") then none
          else
            let written := patchRow parties world pending found
            some { world with
              row := written.1
              mirrored := world.mirrored ++ written.2
              closedBefore := world.closedBefore || closesRun world pending
              pending := Function.update world.pending request none }
      | none => none
  | .select sweep =>
      if (world.sweeps sweep).isNone && unmirroredFailed world.row then
        some { world with sweeps := Function.update world.sweeps sweep (some world.row) }
      else none
  | .sweep sweep messageId =>
      match world.sweeps sweep with
      | some read =>
          if strip messageId = "" then none
          else
            let written := mirrorMissingDispatchHandoff read world.row messageId
            some { world with
              row := written.1
              mirrored := world.mirrored ++ written.2
              sweeps := Function.update world.sweeps sweep none }
      | none => none
  | .reap status now =>
      if status ∈ failedOrCancelled ∧ normalise world.row.run.status ∉ terminalStatuses then
        some { world with row := { world.row with
          run := { world.row.run with status := status, finishedAt := some now } } }
      else none
  | .answer messageId completes =>
      if strip messageId = "" then none
      else some { world with row := { world.row with
        run := { world.row.run with
          resultMessageId := messageId
          status := if completes then "completed" else world.row.run.status } } }

/-! ### When the marker is the truth -/

/-- A blank reply id that would clear the one recorded since the request's read. -/
def clearsReply (pending : Pending) : Bool :=
  pending.patch.resultMessageId.any (strip · = "") &&
    decide (strip pending.row.run.resultMessageId = "")

/-- The request writes a status over `run`, and not failed or cancelled. -/
def leavesFailure (pending : Pending) (run : Run) : Bool :=
  (effectiveStatus pending.row.run pending.patch).any (· ∉ failedOrCancelled) &&
    !(operatorClose pending.patch && decide (run.status ∈ terminalStatuses))

/-- Over a run whose sender has been told, a PATCH does not clear the reply that
told it, nor, where a notice of failure told it, write that it did not fail. A
sweep still finds the run failed or cancelled and its sender not told. -/
def actsOnWhatItRead (world : World) : Label → Bool
  | .write request _ =>
      match world.pending request with
      | some pending =>
          !alreadyMirrored world.row ||
            if strip world.row.run.resultMessageId ≠ "" then !clearsReply pending
            else !leavesFailure pending world.row.run
      | none => true
  | .sweep sweep _ =>
      (world.sweeps sweep).isNone ||
        (!alreadyMirrored world.row && decide (normalise world.row.run.status ∈ failedOrCancelled))
  | _ => true

def ActsOnWhatItRead (world : World) (label : Label) : Prop := actsOnWhatItRead world label = true

theorem alreadyMirrored_iff (row : Row) :
    alreadyMirrored row = true ↔ strip row.run.resultMessageId ≠ "" ∨
      (normalise row.run.status ∈ failedOrCancelled ∧ strip row.handoffMessageId ≠ "") := by
  unfold alreadyMirrored
  by_cases failed : normalise row.run.status ∈ failedOrCancelled
  · simp only [failed, if_true, Bool.or_eq_true, decide_eq_true_eq, true_and]
    exact or_comm
  · simp [failed]

theorem normalise_failedOrCancelled {status : String} (failed : status ∈ failedOrCancelled) :
    normalise status = status := by
  simp only [failedOrCancelled, List.mem_cons, List.not_mem_nil, or_false] at failed
  rcases failed with rfl | rfl <;> decide

/-! ### One settlement -/

theorem completed_not_failed {status : String} (completed : status = "completed") :
    status ∉ failedOrCancelled := by
  rw [completed]
  decide

@[simp] theorem mirrorMissingDispatchHandoff_told {read : Row} (told : alreadyMirrored read = true)
    (current : Row) (messageId : String) :
    mirrorMissingDispatchHandoff read current messageId = (current, []) := by
  simp [mirrorMissingDispatchHandoff, mirrors, told]

/-- A message stored is the only one, and its row says so. -/
structure StoresOnce (result : Row × List String) : Prop where
  once : result.2.length ≤ 1
  marked : result.2 ≠ [] → alreadyMirrored result.1 = true

theorem StoresOnce.nothing (row : Row) : StoresOnce (row, []) :=
  ⟨Nat.zero_le _, fun stored => absurd rfl stored⟩

theorem mirrorMissingDispatchHandoff_stores (row : Row) {messageId : String}
    (minted : strip messageId ≠ "") :
    StoresOnce (mirrorMissingDispatchHandoff row row messageId) := by
  unfold mirrorMissingDispatchHandoff
  by_cases due : mirrors row = true
  · rw [if_pos due]
    by_cases failed : normalise row.run.status ∈ failedOrCancelled
    · rw [if_pos failed]
      exact ⟨Nat.le_refl _, fun _ => (alreadyMirrored_iff _).mpr (.inr ⟨failed, minted⟩)⟩
    · rw [if_neg failed]
      exact ⟨Nat.le_refl _, fun _ => (alreadyMirrored_iff _).mpr (.inl minted)⟩
  · rw [if_neg due]
    exact StoresOnce.nothing row

/-- No chat copy is made of a failure, nor beside a recorded reply. -/
theorem mirrorDashboardRunSummary_nothing (parties : Parties) {read current : Row}
    (answered : normalise read.run.status ∈ failedOrCancelled ∨
      strip read.run.resultMessageId ≠ "" ∨ strip current.run.resultMessageId ≠ "")
    (operatorClosed closedBefore : Bool) (explicit : Option String) (messageId : String) :
    mirrorDashboardRunSummary parties read current operatorClosed closedBefore explicit messageId =
      (current, []) := by
  apply if_neg
  simp only [Bool.and_eq_true, decide_eq_true_eq]
  rintro ⟨⟨⟨⟨⟨⟨⟨⟨_, _⟩, completed⟩, noReply⟩, _⟩, stillNone⟩, _⟩, _⟩, _⟩
  rcases answered with failed | replied | recorded
  · exact completed_not_failed completed failed
  · exact replied noReply
  · exact recorded stillNone

theorem mirrorDashboardRunSummary_stores (parties : Parties) (read current : Row)
    (operatorClosed closedBefore : Bool) (explicit : Option String) {messageId : String}
    (minted : strip messageId ≠ "") :
    StoresOnce (mirrorDashboardRunSummary parties read current operatorClosed closedBefore explicit
      messageId) := by
  unfold mirrorDashboardRunSummary
  split
  · cases explicit with
    | some linked => exact StoresOnce.nothing _
    | none => exact ⟨Nat.le_refl _, fun _ => (alreadyMirrored_iff _).mpr (.inl minted)⟩
  · exact StoresOnce.nothing current

/-- A settlement stores nothing for a sender that has been told. -/
theorem settleTerminatedDispatchRun_told (parties : Parties) {row : Row}
    (told : alreadyMirrored row = true) (operatorClosed closedBefore : Bool) (found : Settlement) :
    settleTerminatedDispatchRun parties row operatorClosed closedBefore found = (row, []) := by
  have answered : normalise row.run.status ∈ failedOrCancelled ∨
      strip row.run.resultMessageId ≠ "" ∨ strip row.run.resultMessageId ≠ "" := by
    rcases (alreadyMirrored_iff row).mp told with replied | ⟨failed, _⟩
    · exact .inr (.inl replied)
    · exact .inl failed
  simp only [settleTerminatedDispatchRun, mirrorMissingDispatchHandoff_told told,
    mirrorDashboardRunSummary_nothing parties answered, List.append_nil]

/-- A settlement stores one message at most: the chat copy is not made of a run
whose handoff was mirrored just before. -/
theorem settleTerminatedDispatchRun_stores (parties : Parties) (row : Row)
    (operatorClosed closedBefore : Bool) {found : Settlement} (handoff : strip found.handoffId ≠ "")
    (summary : strip found.summaryId ≠ "") :
    StoresOnce (settleTerminatedDispatchRun parties row operatorClosed closedBefore found) := by
  have stored := mirrorMissingDispatchHandoff_stores row handoff
  simp only [settleTerminatedDispatchRun]
  by_cases due : mirrors row = true
  · have answered : normalise row.run.status ∈ failedOrCancelled ∨
        strip row.run.resultMessageId ≠ "" ∨
        strip (mirrorMissingDispatchHandoff row row found.handoffId).1.run.resultMessageId ≠ "" := by
      by_cases failed : normalise row.run.status ∈ failedOrCancelled
      · exact .inl failed
      · simp only [mirrorMissingDispatchHandoff, due, failed, if_true, if_false]
        exact .inr (.inr handoff)
    rw [mirrorDashboardRunSummary_nothing parties answered, List.append_nil]
    exact stored
  · have nothing : mirrorMissingDispatchHandoff row row found.handoffId = (row, []) := if_neg due
    rw [nothing]
    exact mirrorDashboardRunSummary_stores parties row row operatorClosed closedBefore found.explicit
      summary

/-! ### One write -/

theorem settle_none (run : Run) (effective : Option String) : settle run effective none = run := by
  unfold settle
  split <;> rfl

/-- A write leaves the result columns to an ended run, for an operator's close
that has none, or writes them. -/
theorem update_cases (row run : Run) (patch : Patch) (now : Nat) :
    (update row run patch now none).run = otherUpdates row run patch ∨
      ((operatorClose patch && decide (run.status ∈ terminalStatuses)) = false ∧
        (update row run patch now none).run =
          otherUpdates row (resultUpdates row run (effectiveStatus row patch) patch now) patch) := by
  cases operator : operatorClose patch with
  | false => exact .inr ⟨rfl, by simp only [update, operator, settle_none]; rfl⟩
  | true =>
      by_cases nothing : hasResultUpdates (effectiveStatus row patch) patch = true
      · by_cases ended : run.status ∈ terminalStatuses
        · exact .inl (by simp only [update, operator, nothing, ended, if_true]; rfl)
        · refine .inr ⟨by simp [ended], ?_⟩
          simp only [update, operator, nothing, ended, settle_none, if_true, if_false]
          rfl
      · exact .inl (by simp only [update, operator, nothing, if_true]; rfl)

theorem update_result (row run : Run) (patch : Patch) (now : Nat) :
    (update row run patch now none).run.resultMessageId =
      (otherUpdates row run patch).resultMessageId := by
  obtain only | ⟨_, both⟩ := update_cases row run patch now
  · rw [only]
  · rw [both]
    simp only [otherUpdates, resultUpdates]

theorem otherUpdates_result {pending : Pending} {run : Run}
    (replied : strip run.resultMessageId ≠ "") (kept : clearsReply pending = false) :
    strip (otherUpdates pending.row.run run pending.patch).resultMessageId ≠ "" := by
  simp only [otherUpdates]
  cases given : pending.patch.resultMessageId with
  | none => exact replied
  | some value =>
      by_cases blank : strip value = ""
      · have recorded : strip pending.row.run.resultMessageId ≠ "" := by
          simpa [clearsReply, given, blank] using kept
        simpa [blank, recorded] using replied
      · simp [blank, strip_strip]

/-- The UPDATE of a request that acts on what it read leaves a told sender told. -/
theorem update_told {row : Row} {pending : Pending} (told : alreadyMirrored row = true)
    (allowed : (if strip row.run.resultMessageId ≠ "" then !clearsReply pending
      else !leavesFailure pending row.run) = true) :
    alreadyMirrored ⟨(update pending.row.run row.run pending.patch pending.now none).run,
      row.handoffMessageId⟩ = true := by
  rw [alreadyMirrored_iff] at told ⊢
  by_cases replied : strip row.run.resultMessageId ≠ ""
  · rw [if_pos replied, Bool.not_eq_true'] at allowed
    left
    rw [update_result]
    exact otherUpdates_result replied allowed
  · rw [if_neg replied, Bool.not_eq_true'] at allowed
    obtain ⟨failed, handoff⟩ := told.resolve_left replied
    refine .inr ⟨?_, handoff⟩
    obtain only | ⟨open', both⟩ :=
      update_cases pending.row.run row.run pending.patch pending.now
    · rw [only]
      exact failed
    · rw [both, otherUpdates_status, resultUpdates_status]
      cases effective : effectiveStatus pending.row.run pending.patch with
      | none => exact failed
      | some status =>
          have stays : status ∈ failedOrCancelled := by
            simpa [leavesFailure, effective, open'] using allowed
          rw [Option.getD_some, normalise_failedOrCancelled stays]
          exact stays

/-! ### Runs -/

/-- One message at most, and once there is one the row says so. -/
structure ToldOnce (world : World) : Prop where
  once : world.mirrored.length ≤ 1
  marked : world.mirrored ≠ [] → alreadyMirrored world.row = true

/-- A step that stores at most one message for a sender not told, and nothing
for one that was. -/
theorem ToldOnce.store {before after : World} (toldOnce : ToldOnce before)
    {written : Row × List String} (stores : StoresOnce written)
    (silent : alreadyMirrored before.row = true →
      alreadyMirrored written.1 = true ∧ written.2 = [])
    (row : after.row = written.1) (mirrored : after.mirrored = before.mirrored ++ written.2) :
    ToldOnce after := by
  by_cases empty : before.mirrored = []
  · rw [empty, List.nil_append] at mirrored
    constructor
    · rw [mirrored]
      exact stores.once
    · rw [mirrored, row]
      exact stores.marked
  · obtain ⟨still, nothing⟩ := silent (toldOnce.marked empty)
    rw [nothing, List.append_nil] at mirrored
    constructor
    · rw [mirrored]
      exact toldOnce.once
    · intro _
      rw [row]
      exact still

theorem patchRow_stores (parties : Parties) (world : World) (pending : Pending)
    {found : Settlement} (handoff : strip found.handoffId ≠ "")
    (summary : strip found.summaryId ≠ "") :
    StoresOnce (patchRow parties world pending found) := by
  simp only [patchRow]
  split
  · exact settleTerminatedDispatchRun_stores parties _ _ _ handoff summary
  · exact StoresOnce.nothing _

theorem patchRow_told (parties : Parties) {world : World} {pending : Pending}
    (found : Settlement) (told : alreadyMirrored world.row = true)
    (allowed : (if strip world.row.run.resultMessageId ≠ "" then !clearsReply pending
      else !leavesFailure pending world.row.run) = true) :
    alreadyMirrored (patchRow parties world pending found).1 = true ∧
      (patchRow parties world pending found).2 = [] := by
  have kept := update_told told allowed
  simp only [patchRow]
  split
  · rw [settleTerminatedDispatchRun_told parties kept]
    exact ⟨kept, rfl⟩
  · exact ⟨kept, rfl⟩

/-- A sweep's notice marks the run it finds failed. -/
theorem mirrorMissingDispatchHandoff_sweep {current : Row} {messageId : String} (read : Row)
    (minted : strip messageId ≠ "")
    (failed : normalise current.run.status ∈ failedOrCancelled) :
    StoresOnce (mirrorMissingDispatchHandoff read current messageId) := by
  unfold mirrorMissingDispatchHandoff
  split
  · split
    · exact ⟨Nat.le_refl _, fun _ => (alreadyMirrored_iff _).mpr (.inr ⟨failed, minted⟩)⟩
    · exact ⟨Nat.le_refl _, fun _ => (alreadyMirrored_iff _).mpr (.inl minted)⟩
  · exact StoresOnce.nothing current

theorem failedOrCancelled_terminal {status : String} (failed : status ∈ failedOrCancelled) :
    status ∈ terminalStatuses := by
  simp only [failedOrCancelled, List.mem_cons, List.not_mem_nil, or_false] at failed
  rcases failed with rfl | rfl <;> decide

theorem step_write {parties : Parties} {before after : World} {request : Nat} {found : Settlement}
    (taken : step parties before (.write request found) = some after) :
    ∃ pending, before.pending request = some pending ∧ strip found.handoffId ≠ "" ∧
      strip found.summaryId ≠ "" ∧ after.row = (patchRow parties before pending found).1 ∧
      after.mirrored = before.mirrored ++ (patchRow parties before pending found).2 := by
  simp only [step] at taken
  split at taken
  · next pending held =>
      rw [Option.ite_none_left_eq_some] at taken
      obtain ⟨minted, is⟩ := taken
      simp only [not_or] at minted
      obtain ⟨handoff, summary, _⟩ := minted
      have written := Option.some.inj is
      refine ⟨pending, held, handoff, summary, ?_, ?_⟩
      · rw [← written]
      · rw [← written]
  · cases taken

theorem step_toldOnce {parties : Parties} {before after : World} {label : Label}
    (toldOnce : ToldOnce before) (allowed : ActsOnWhatItRead before label)
    (taken : step parties before label = some after) : ToldOnce after := by
  cases label with
  | read request patch now =>
      simp only [step] at taken
      split at taken
      · cases taken
      · cases taken
        exact ⟨toldOnce.once, toldOnce.marked⟩
  | write request found =>
      obtain ⟨pending, held, handoff, summary, row, mirrored⟩ := step_write taken
      refine toldOnce.store (patchRow_stores parties before pending handoff summary) ?_ row mirrored
      intro told
      apply patchRow_told parties found told
      simpa only [ActsOnWhatItRead, actsOnWhatItRead, held, told, Bool.not_true,
        Bool.false_or] using allowed
  | select sweep =>
      simp only [step, Option.ite_none_right_eq_some, Option.some.injEq] at taken
      obtain ⟨_, rfl⟩ := taken
      exact ⟨toldOnce.once, toldOnce.marked⟩
  | sweep sweep messageId =>
      simp only [step] at taken
      split at taken
      · next read held =>
          rw [Option.ite_none_left_eq_some, Option.some.injEq] at taken
          obtain ⟨minted, rfl⟩ := taken
          simp only [ActsOnWhatItRead, actsOnWhatItRead, held, Option.isNone_some, Bool.false_or,
            Bool.and_eq_true, Bool.not_eq_true', decide_eq_true_eq] at allowed
          obtain ⟨untold, failed⟩ := allowed
          refine toldOnce.store (mirrorMissingDispatchHandoff_sweep read minted failed) ?_ rfl rfl
          intro told
          rw [untold] at told
          cases told
      · cases taken
  | reap status now =>
      simp only [step, Option.ite_none_right_eq_some, Option.some.injEq] at taken
      obtain ⟨⟨_, live⟩, rfl⟩ := taken
      refine ⟨toldOnce.once, fun stored => (alreadyMirrored_iff _).mpr (.inl ?_)⟩
      -- A run that has not ended was told by a reply, which a reaper leaves.
      rcases (alreadyMirrored_iff _).mp (toldOnce.marked stored) with replied | ⟨failed, _⟩
      · exact replied
      · exact absurd (failedOrCancelled_terminal failed) live
  | answer messageId completes =>
      simp only [step, Option.ite_none_left_eq_some, Option.some.injEq] at taken
      obtain ⟨minted, rfl⟩ := taken
      exact ⟨toldOnce.once, fun _ => (alreadyMirrored_iff _).mpr (.inl minted)⟩

def asked : Parties := ⟨false, "coder"⟩

def owingRun : Run := { runningRun with requireReply := true }

def settlement (handoffId : String) : Settlement := ⟨handoffId, "chat", none⟩

/-- A worker reports a failure; a later PATCH reads the failed run and reports
its completion. -/
def reportedInTurn : List Label :=
  [.read 1 (report "failed") 5, .write 1 (settlement "notice"), .read 2 (report "completed") 6,
    .write 2 (settlement "result")]

/-- Both reports read the running run: a failure and a completion. -/
def reportedTogether : List Label :=
  [.read 1 (report "failed") 5, .read 2 (report "completed") 5, .write 1 (settlement "notice"),
    .write 2 (settlement "result")]

end AifyComms.DispatchHandoff
