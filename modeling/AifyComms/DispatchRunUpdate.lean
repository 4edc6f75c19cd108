import AifyComms.PyText
import AifyComms.Runs
import Mathlib.Logic.Function.Basic

/-!
`PATCH /dispatch/runs/(run_id)` of `routers/dispatch_messages/dispatch.py`: any
number of requests for one run over one database.

A request first reads the row, outside any transaction. Its first UPDATE takes
SQLite's write lock, which it holds to its commit, so its statements from there
on are one step and see the last committed row. The settlement of a finished
run looks at other tables; what it writes to this row is the reply message it
links, an input here. The agent row that `agentStatus` writes is left out.
-/

namespace AifyComms.DispatchRunUpdate
open PyText Runs

def terminalStatuses : List String := ["completed", "failed", "cancelled"]

structure Run where
  status : String
  startedAt : Option Nat
  finishedAt : Option Nat
  summary : String
  errorText : String
  resultMessageId : String
  externalThreadId : String
  externalTurnId : String
  runtime : String
  requireReply : Bool
  deriving DecidableEq

/-- `DispatchRunUpdate`. -/
structure Patch where
  status : Option String
  summary : Option String
  error : Option String
  resultMessageId : Option String
  requireReply : Option Bool
  externalThreadId : Option String
  externalTurnId : Option String
  runtime : Option String
  appendEvent : Option String
  eventType : Option String

def emptyPatch : Patch := ⟨none, none, none, none, none, none, none, none, none, none⟩

/-! ### One request -/

def requestedStatus (patch : Patch) : String := normalise (patch.status.getD "")

/-- The status the request will write, decided on the row it read: none, or the
requested one unless that row had already ended in another. -/
def effectiveStatus (row : Run) (patch : Patch) : Option String :=
  let currentStatus := normalise row.status
  if currentStatus ∈ terminalStatuses ∧ requestedStatus patch ≠ currentStatus then none
  else if requestedStatus patch = "" then none
  else some (requestedStatus patch)

def operatorClose (patch : Patch) : Bool := strip (patch.eventType.getD "") = "operator_closed"

def hasResultUpdates (effective : Option String) (patch : Patch) : Bool :=
  effective.isSome || patch.summary.isSome || patch.error.isSome

/-- The status, its stamps, the summary and the error. -/
def resultUpdates (row run : Run) (effective : Option String) (patch : Patch) (now : Nat) : Run :=
  { run with
    status := effective.getD run.status
    startedAt :=
      if effective = some "running" ∧ row.startedAt = none then some now else run.startedAt
    finishedAt :=
      if effective.any (· ∈ terminalStatuses) then some now else run.finishedAt
    summary := patch.summary.getD run.summary
    errorText := patch.error.getD run.errorText }

/-- The columns written whatever the status: a reply id never clears a recorded one. -/
def otherUpdates (row run : Run) (patch : Patch) : Run :=
  { run with
    resultMessageId := match patch.resultMessageId with
      | some value =>
          if strip value ≠ "" ∨ strip row.resultMessageId = "" then strip value
          else run.resultMessageId
      | none => run.resultMessageId
    externalThreadId := patch.externalThreadId.getD run.externalThreadId
    externalTurnId := patch.externalTurnId.getD run.externalTurnId
    runtime := patch.runtime.getD run.runtime
    requireReply := patch.requireReply.getD run.requireReply }

/-- `_settle_terminated_dispatch_run` on this row: `linked` is the reply it records. -/
def settle (run : Run) (effective linked : Option String) : Run :=
  if effective.any (· ∈ terminalStatuses) then
    { run with resultMessageId := linked.getD run.resultMessageId }
  else run

structure Written where
  run : Run
  alreadyTerminal : Bool
  event : Option (String × String)

def eventOf (patch : Patch) (alreadyTerminal : Bool) (currentStatus : String) :
    Option (String × String) :=
  match patch.appendEvent with
  | some text =>
      if text = "" then none
      else
        let eventType := patch.eventType.getD ""
        some (if eventType = "" then "info" else eventType,
          if alreadyTerminal then
            "Operator close on a run already " ++ currentStatus ++
              ": its status and result were kept."
          else text)
  | none => none

/-- The writes of one request that read `row`, on the committed `run`. An
operator's close tests the run in its own UPDATE; every other report does not. -/
def update (row run : Run) (patch : Patch) (now : Nat) (linked : Option String) : Written :=
  let effective := effectiveStatus row patch
  let already := operatorClose patch && decide (normalise row.status ∈ terminalStatuses)
  let written (result : Run) (alreadyTerminal : Bool) (currentStatus : String) : Written :=
    ⟨result, alreadyTerminal, eventOf patch alreadyTerminal currentStatus⟩
  if operatorClose patch then
    if !hasResultUpdates effective patch then
      written (otherUpdates row run patch) already (normalise row.status)
    -- The guarded UPDATE matches no row, so the run keeps its status and result.
    else if run.status ∈ terminalStatuses then
      written (otherUpdates row run patch) true run.status
    else
      written (settle (otherUpdates row (resultUpdates row run effective patch now) patch)
        effective linked) already (normalise row.status)
  else
    written (settle (otherUpdates row (resultUpdates row run effective patch now) patch)
      effective linked) already (normalise row.status)

/-! ### Any number of requests -/

/-- A request between its read and its first write. -/
structure Pending where
  patch : Patch
  row : Run
  now : Nat

structure World where
  run : Run
  events : List (String × String)
  pending : Nat → Option Pending
  writer : Option Written

def initial (run : Run) : World := ⟨run, [], fun _ => none, none⟩

inductive Label where
  | read (request : Nat) (patch : Patch) (now : Nat)
  | write (request : Nat) (linked : Option String)
  | commit
  | rollback

def step (world : World) : Label → Option World
  | .read request patch now =>
      match world.pending request with
      | some _ => none
      | none => some { world with
          pending := Function.update world.pending request (some ⟨patch, world.run, now⟩) }
  | .write request linked =>
      match world.pending request, world.writer with
      | some pending, none => some { world with
          pending := Function.update world.pending request none
          writer := some (update pending.row world.run pending.patch pending.now linked) }
      | _, _ => none
  | .commit =>
      match world.writer with
      | some written => some { world with
          run := written.run
          events := world.events ++ written.event.toList
          writer := none }
      | none => none
  | .rollback =>
      match world.writer with
      | some _ => some { world with writer := none }
      | none => none

/-! ### A finished run stays as it finished -/

def Run.ended (run : Run) : Bool := decide (run.status ∈ terminalStatuses)

/-- A report that is not an operator's close writes a status over an ended run
only when it read the run ended, or writes the status it ended in. -/
def readsBeforeItEnds (world : World) : Label → Bool
  | .write request _ =>
      match world.pending request with
      | some pending =>
          operatorClose pending.patch || !world.run.ended || pending.row.ended ||
            (effectiveStatus pending.row pending.patch).all (· = world.run.status)
      | none => true
  | _ => true

def ReadsBeforeItEnds (world : World) (label : Label) : Prop := readsBeforeItEnds world label = true

theorem normalise_terminal {status : String} (terminal : status ∈ terminalStatuses) :
    normalise status = status := by
  simp only [terminalStatuses, List.mem_cons, List.not_mem_nil, or_false] at terminal
  rcases terminal with rfl | rfl | rfl <;> decide

@[simp] theorem otherUpdates_status (row run : Run) (patch : Patch) :
    (otherUpdates row run patch).status = run.status := rfl

@[simp] theorem settle_status (run : Run) (effective linked : Option String) :
    (settle run effective linked).status = run.status := by
  unfold settle
  split <;> rfl

@[simp] theorem resultUpdates_status (row run : Run) (effective : Option String) (patch : Patch)
    (now : Nat) : (resultUpdates row run effective patch now).status =
      effective.getD run.status := rfl

/-- A request that read the run ended writes no other status. -/
theorem effectiveStatus_ended {row : Run} {patch : Patch} (ended : row.ended = true)
    {status : String} (effective : effectiveStatus row patch = some status) :
    status = row.status := by
  have terminal : row.status ∈ terminalStatuses := of_decide_eq_true ended
  simp only [effectiveStatus, normalise_terminal terminal] at effective
  by_cases differs : requestedStatus patch ≠ row.status
  · rw [if_pos ⟨terminal, differs⟩] at effective
    cases effective
  · rw [if_neg fun both => differs both.2] at effective
    by_cases blank : requestedStatus patch = ""
    · rw [if_pos blank] at effective
      cases effective
    · rw [if_neg blank] at effective
      rw [← Option.some.inj effective]
      exact not_not.mp differs

/-- The writes of a request keep an ended status when the request is an
operator's close or what it writes is that status. -/
theorem update_status {row run : Run} {patch : Patch} {now : Nat} {linked : Option String}
    (ended : run.ended = true)
    (agrees : operatorClose patch = true ∨
      ∀ status, effectiveStatus row patch = some status → status = run.status) :
    (update row run patch now linked).run.status = run.status := by
  have terminal : run.status ∈ terminalStatuses := of_decide_eq_true ended
  have reported : (∀ status, effectiveStatus row patch = some status → status = run.status) →
      (settle (otherUpdates row (resultUpdates row run (effectiveStatus row patch) patch now) patch)
        (effectiveStatus row patch) linked).status = run.status := by
    intro same
    rw [settle_status, otherUpdates_status, resultUpdates_status]
    cases effective : effectiveStatus row patch with
    | none => rfl
    | some status => exact same status effective
  unfold update
  by_cases operator : operatorClose patch = true
  · simp only [operator, if_true, terminal]
    split <;> rfl
  · simp only [operator, Bool.false_eq_true, if_false]
    exact reported (agrees.resolve_left operator)

/-- Every request in flight that read the run ended read the status it has now,
and an open write keeps an ended status. -/
structure Absorbing (world : World) : Prop where
  read : ∀ request pending, world.pending request = some pending → pending.row.ended = true →
    pending.row.status = world.run.status
  writer : ∀ written, world.writer = some written → world.run.ended = true →
    written.run.status = world.run.status

/-- A request allowed to write leaves the status of an ended run. -/
theorem Absorbing.update {world : World} {request : Nat} {pending : Pending}
    {linked : Option String} (absorbing : Absorbing world)
    (allowed : ReadsBeforeItEnds world (.write request linked))
    (found : world.pending request = some pending) (ended : world.run.ended = true) :
    (update pending.row world.run pending.patch pending.now linked).run.status =
      world.run.status := by
  apply update_status ended
  simp only [ReadsBeforeItEnds, readsBeforeItEnds, found, ended, Bool.not_true,
    Bool.or_false, Bool.or_eq_true] at allowed
  rcases allowed with (operator | rowEnded) | agrees
  · exact .inl operator
  · right
    intro status effective
    -- The request's own guard lets only the status it read through.
    rw [effectiveStatus_ended rowEnded effective]
    exact absorbing.read request pending found rowEnded
  · right
    intro status effective
    rw [effective] at agrees
    simpa using agrees

theorem step_absorbing {before after : World} {label : Label} (absorbing : Absorbing before)
    (allowed : ReadsBeforeItEnds before label) (taken : step before label = some after) :
    Absorbing after ∧ (before.run.ended = true → after.run.status = before.run.status) := by
  cases label with
  | read request patch now =>
      simp only [step] at taken
      split at taken
      · cases taken
      · cases taken
        refine ⟨⟨?_, absorbing.writer⟩, fun _ => rfl⟩
        intro other pending found ended
        obtain ⟨_, begun⟩ | old := update_some found
        · cases begun
          rfl
        · exact absorbing.read other pending old ended
  | write request linked =>
      simp only [step] at taken
      split at taken
      · next pending found _ =>
          cases taken
          refine ⟨⟨?_, ?_⟩, fun _ => rfl⟩
          · intro other held present ended
            obtain ⟨_, ⟨⟩⟩ | old := update_some present
            exact absorbing.read other held old ended
          · intro written same ended
            rw [← Option.some.inj same]
            exact absorbing.update allowed found ended
      · cases taken
  | commit =>
      simp only [step] at taken
      split at taken
      · next written held =>
          cases taken
          have kept := absorbing.writer written held
          refine ⟨⟨?_, fun _ absent => (nomatch absent)⟩, kept⟩
          intro request pending found ended
          have status := absorbing.read request pending found ended
          have runEnded : before.run.ended = true := by
            simpa [Run.ended, ← status] using ended
          exact status.trans (kept runEnded).symm
      · cases taken
  | rollback =>
      simp only [step] at taken
      split at taken
      · cases taken
        exact ⟨⟨absorbing.read, fun _ absent => (nomatch absent)⟩, fun _ => rfl⟩
      · cases taken

/-- In every run of requests whose reports read the run before it ended only if
they write it before it ended, a terminal status is never left. -/
theorem terminal_status_absorbing (run : Run) (middle world : World)
    (reached : Reaches step ReadsBeforeItEnds (initial run) middle)
    (onward : Reaches step ReadsBeforeItEnds middle world)
    (ended : middle.run.status ∈ terminalStatuses) : world.run.status = middle.run.status := by
  have start : Absorbing middle := by
    apply reached.invariant Absorbing
    · exact ⟨fun _ _ absent => (nomatch absent), fun _ absent => (nomatch absent)⟩
    · exact fun _ _ _ absorbing allowed taken => (step_absorbing absorbing allowed taken).1
  have holds : Absorbing world ∧ world.run.status = middle.run.status := by
    apply onward.invariant fun world => Absorbing world ∧ world.run.status = middle.run.status
    · exact ⟨start, rfl⟩
    · rintro before label after ⟨absorbing, same⟩ allowed taken
      obtain ⟨kept, status⟩ := step_absorbing absorbing allowed taken
      have stillEnded : before.run.ended = true := by
        simpa [Run.ended, same] using ended
      exact ⟨kept, (status stillEnded).trans same⟩
  exact holds.2

def runningRun : Run := ⟨"running", some 0, none, "", "", "", "", "", "", false⟩

def report (status : String) : Patch := { emptyPatch with status := some status }

/-- A run completes, and a worker that reads it only then reports `running`. -/
def lateReportRun : List Label :=
  [.read 1 (report "completed") 5, .write 1 none, .commit, .read 2 (report " Running ") 6,
    .write 2 none, .commit]

theorem terminal_status_absorbing_late_report :
    ∃ middle world, Reaches step ReadsBeforeItEnds (initial runningRun) middle ∧
      Reaches step ReadsBeforeItEnds middle world ∧ middle.run.status = "completed" ∧
      world.events = [] ∧ world.run.status = middle.run.status := by
  have first : (exec step readsBeforeItEnds (initial runningRun) (lateReportRun.take 3)).map
      (fun world => world.run.status) = some "completed" := by
    decide
  have second : (exec step readsBeforeItEnds
      ((exec step readsBeforeItEnds (initial runningRun) (lateReportRun.take 3)).getD
        (initial runningRun)) (lateReportRun.drop 3)).map (fun world => world.events) =
      some [] := by
    decide
  obtain ⟨middle, executed, status⟩ := Option.map_eq_some_iff.mp first
  rw [executed, Option.getD_some] at second
  have reached : Reaches step ReadsBeforeItEnds (initial runningRun) middle :=
    reaches_exec (fun _ _ granted => granted) executed
  obtain ⟨world, onward, events⟩ := reaches_observed _ _ _ _ (fun _ _ granted => granted) second
  refine ⟨middle, world, reached, onward, status, events, ?_⟩
  exact terminal_status_absorbing runningRun middle world reached onward (by rw [status]; decide)

/-- Two reports read the run while it runs; the completion commits between the
other's read and its UPDATE. -/
def staleReportRun : List Label :=
  [.read 1 (report "completed") 5, .read 2 (report "running") 5, .write 1 none, .commit,
    .write 2 none, .commit]

theorem completed_run_reopened :
    ∃ middle world, Reaches step anyStep (initial runningRun) middle ∧
      Reaches step anyStep middle world ∧ middle.run.status = "completed" ∧
      world.run.status = "running" := by
  have first : (exec step (fun _ _ => true) (initial runningRun) (staleReportRun.take 4)).map
      (fun world => world.run.status) = some "completed" := by
    decide
  have second : (exec step (fun _ _ => true)
      ((exec step (fun _ _ => true) (initial runningRun) (staleReportRun.take 4)).getD
        (initial runningRun)) (staleReportRun.drop 4)).map (fun world => world.run.status) =
      some "running" := by
    decide
  obtain ⟨middle, executed, status⟩ := Option.map_eq_some_iff.mp first
  rw [executed, Option.getD_some] at second
  obtain ⟨world, onward, reopened⟩ := reaches_observed _ _ _ _ (fun _ _ _ => trivial) second
  exact ⟨middle, world, reaches_exec (fun _ _ _ => trivial) executed, onward, status, reopened⟩

end AifyComms.DispatchRunUpdate
