import AifyComms.Attempts
import AifyComms.JsText
import Mathlib.Data.List.Nodup

/-!
The dispatches of one tick of the Claude channel: `pollLoop` of `claude-channel.js` from the
first claim to the last receipt, and `makeDispatchReceipts` of `channel-dispatch-receipts.mjs`.
What the claims, the notification and the reports come back with is given. No report is sent
twice, so its outcome is a function of the report.

`toLowerCase` is the text library's and stays a parameter. A notification keeps the runs it
carries; their texts are left out, and so are the controls, which follow the dispatches.
-/

namespace AifyComms.ChannelTick
open Attempts JsText

structure Run where
  id : String
  executionMode : String
  priority : String
  requireReply : Bool
  deriving DecidableEq

structure Answer where
  stopped : Bool
  release : Bool
  run : Option Run
  deriving DecidableEq

inductive Claim where
  | answered (answer : Answer)
  | failed (message : String)
  deriving DecidableEq

inductive Status where
  | delivered
  | completed
  | failed
  deriving DecidableEq

/-- The body of a PATCH of a run; a field it does not carry is empty. -/
structure Patch where
  runId : String
  status : Status
  appendEvent : String
  eventType : String
  error : String := ""
  summary : String := ""
  runtime : String := "claude-code"
  deriving DecidableEq

/-- The one notification of a tick: a run by itself, or the batch. -/
inductive Notification where
  | dispatch (run : Run) (priority : String)
  | dispatchBatch (runs : List Run) (priority : String)

def Notification.runs : Notification → List Run
  | .dispatch run _ => [run]
  | .dispatchBatch runs _ => runs

/-- What a tick did: the notifications that reached the session, the reports sent, and the
error that ended it. -/
structure Tick where
  emitted : List Notification
  sent : List Patch
  error : Option String

section
variable (toLowerCase : String → String)

def executionMode (run : Run) : String := toLowerCase (trim run.executionMode)

def isChannelRun (run : Run) : Bool := executionMode toLowerCase run = "channel"

def deliverable (run : Run) : Bool :=
  executionMode toLowerCase run = "channel" || executionMode toLowerCase run = "resident"

/-- The loop of claims, from claim `index` on with `limit` left. A stop or a release empties
the batch; the error of a claim leaves the loop, and the batch with it. -/
def fillBatch (claims : Nat → Claim) : Nat → Nat → List Run → Except String (List Run)
  | 0, _, batch => .ok batch
  | limit + 1, index, batch =>
      match claims index with
      | .failed message => .error message
      | .answered answer =>
          if answer.stopped then .ok []
          else if answer.release then .ok []
          else match answer.run with
            | none => .ok batch
            | some run =>
                if deliverable toLowerCase run then
                  fillBatch claims limit (index + 1) (batch ++ [run])
                else .ok batch

def deliveredPatch (run : Run) : Patch where
  runId := run.id
  status := if run.requireReply then .delivered else .completed
  appendEvent :=
    if isChannelRun toLowerCase run then "Delivered to Claude channel bridge"
    else "Delivered and completed by channel bridge"
  eventType := "delivered"

def failedPatch (error : String) (run : Run) : Patch where
  runId := run.id
  status := .failed
  error := error
  appendEvent := "Claude channel delivery failed: " ++ error
  eventType := "failed"

variable (reports : Patch → Option String)

/-- The receipts of a delivered batch, each with its own `try`: the PATCH that says so, and
when that is refused the PATCH that says it failed, whose error ends the tick. -/
def receipts (sent : List Patch) : List Run → List Patch × Option String
  | [] => (sent, none)
  | run :: rest =>
      match reports (deliveredPatch toLowerCase run) with
      | none => receipts (sent ++ [deliveredPatch toLowerCase run]) rest
      | some error =>
          match sendEach reports (sent ++ [deliveredPatch toLowerCase run])
              [failedPatch error run] with
          | (sent, some error) => (sent, some error)
          | (sent, none) => receipts sent rest

def highestPriority (batch : List Run) : String :=
  if batch.any fun run => run.priority = "urgent" then "urgent"
  else if batch.any fun run => run.priority = "high" then "high"
  else "normal"

/-- The delivery of a batch; `notified` is the error of the notification, if any. -/
def deliver (notified : Option String) : List Run → Tick
  | [] => ⟨[], [], none⟩
  | [run] =>
      let notification := Notification.dispatch run (firstTruthy [run.priority, "normal"])
      match notified with
      | some error =>
          ⟨[], (sendEach reports [] [failedPatch error run]).1, some error⟩
      | none =>
          match reports (deliveredPatch toLowerCase run) with
          | none => ⟨[notification], [deliveredPatch toLowerCase run], none⟩
          | some error =>
              ⟨[notification], [deliveredPatch toLowerCase run, failedPatch error run], some error⟩
  | batch =>
      match notified with
      | some error =>
          ⟨[], (sendEach reports [] (batch.map (failedPatch error))).1, some error⟩
      | none =>
          let notification := Notification.dispatchBatch batch (highestPriority batch)
          let result := receipts toLowerCase reports [] batch
          ⟨[notification], result.1, result.2⟩

/-- One tick of a bound channel. -/
def tick (claims : Nat → Claim) (notified : Option String) : Tick :=
  match fillBatch toLowerCase claims 20 0 [] with
  | .error message => ⟨[], [], some message⟩
  | .ok batch => deliver toLowerCase reports notified batch

/-- The run an answer carries: the service has handed it out. -/
def Claim.carried : Claim → Option Run
  | .answered answer => answer.run
  | .failed _ => none

/-- The answer that there is no run. -/
def Claim.isEmpty : Claim → Bool
  | .answered answer => !answer.stopped && !answer.release && answer.run.isNone
  | .failed _ => false

/-- The run an answer adds to the batch. -/
def Claim.taken : Claim → Option Run
  | .answered answer =>
      if answer.stopped || answer.release then none
      else answer.run.filter (deliverable toLowerCase)
  | .failed _ => none

/-- The runs taken by the claims from `index` on, with `limit` left. -/
def takenRuns (claims : Nat → Claim) : Nat → Nat → List Run
  | 0, _ => []
  | limit + 1, index =>
      match (claims index).taken toLowerCase with
      | some run => run :: takenRuns claims limit (index + 1)
      | none => []

/-- The first answer that adds no run, if it comes before the limit. -/
def ending (claims : Nat → Claim) : Nat → Nat → Option Claim
  | 0, _ => none
  | limit + 1, index =>
      match (claims index).taken toLowerCase with
      | some _ => ending claims limit (index + 1)
      | none => some (claims index)

/-- Every run the service handed out in the tick. -/
def claimedRuns (claims : Nat → Claim) : List Run :=
  takenRuns toLowerCase claims 20 0 ++
    ((ending toLowerCase claims 20 0).bind Claim.carried).toList

end

def Tick.timesEmitted (tick : Tick) (run : Run) : Nat :=
  ((tick.emitted.flatMap Notification.runs).map Run.id).count run.id

def Tick.statuses (tick : Tick) (run : Run) : List Status :=
  (tick.sent.filter fun patch => patch.runId = run.id).map Patch.status

/-- A run emitted once and reported delivered or completed, or not emitted and reported
failed. -/
def Tick.Honest (tick : Tick) (run : Run) : Prop :=
  (tick.timesEmitted run = 1 ∧
      (tick.statuses run = [.delivered] ∨ tick.statuses run = [.completed])) ∨
    (tick.timesEmitted run = 0 ∧ tick.statuses run = [.failed])

/-- The answers of one tick's claims: the service hands a run out once. -/
structure Claims (toLowerCase : String → String) where
  answer : Nat → Claim
  distinct : ((claimedRuns toLowerCase answer).map Run.id).Nodup

/-- The answer that ends the batch carries no run, and it is the empty answer or the first. -/
def EndsWell (toLowerCase : String → String) (claims : Nat → Claim) : Prop :=
  ∀ last ∈ ending toLowerCase claims 20 0,
    last.carried = none ∧ (last.isEmpty = true ∨ (claims 0).taken toLowerCase = none)

section Delivery
variable {toLowerCase : String → String} {reports : Patch → Option String}

/-- The one report of a run of a batch. -/
def receipt (toLowerCase : String → String) : Option String → Run → Patch
  | none => deliveredPatch toLowerCase
  | some error => failedPatch error

@[simp] theorem receipt_runId (notified : Option String) (run : Run) :
    (receipt toLowerCase notified run).runId = run.id := by
  cases notified <;> rfl

theorem receipts_passed (passed : ∀ patch, reports patch = none) (sent : List Patch)
    (batch : List Run) :
    receipts toLowerCase reports sent batch =
      (sent ++ batch.map (deliveredPatch toLowerCase), none) := by
  induction batch generalizing sent with
  | nil => simp [receipts]
  | cons run rest ih => simp [receipts, passed, ih]

theorem deliver_sent (passed : ∀ patch, reports patch = none) (notified : Option String)
    (batch : List Run) :
    (deliver toLowerCase reports notified batch).sent =
      batch.map (receipt toLowerCase notified) := by
  have sends : ∀ requests, sendEach reports [] requests = (requests, none) := fun requests => by
    simpa using sendEach_of_passed (fun request (_ : request ∈ requests) => passed request) []
  cases batch with
  | nil => rfl
  | cons run rest =>
      cases rest with
      | nil => cases notified <;> simp [deliver, passed, sends, receipt]
      | cons second later =>
          cases notified with
          | none => simp [deliver, receipts_passed passed, receipt]
          | some error => simp [deliver, sends, receipt]

theorem deliver_emitted (passed : ∀ patch, reports patch = none) (batch : List Run) :
    (deliver toLowerCase reports none batch).emitted.flatMap Notification.runs = batch := by
  cases batch with
  | nil => rfl
  | cons run rest =>
      cases rest with
      | nil => simp [deliver, passed, Notification.runs]
      | cons second later => simp [deliver, Notification.runs]

theorem deliver_silent (error : String) (batch : List Run) :
    (deliver toLowerCase reports (some error) batch).emitted = [] := by
  cases batch with
  | nil => rfl
  | cons run rest => cases rest <;> rfl

/-- The reports of one run of a batch. -/
theorem filter_receipts {batch : List Run} (distinct : (batch.map Run.id).Nodup)
    (notified : Option String) {run : Run} (member : run ∈ batch) :
    (batch.map (receipt toLowerCase notified)).filter (fun patch => patch.runId = run.id) =
      [receipt toLowerCase notified run] := by
  induction batch with
  | nil => cases member
  | cons first rest ih =>
      obtain ⟨newId, distinctRest⟩ := List.nodup_cons.mp distinct
      rw [List.map_cons, List.filter_cons]
      rcases List.mem_cons.mp member with rfl | inRest
      · have others : (rest.map (receipt toLowerCase notified)).filter
            (fun patch => patch.runId = run.id) = [] := by
          apply List.filter_eq_nil_iff.mpr
          intro patch sent
          obtain ⟨other, inRest, rfl⟩ := List.mem_map.mp sent
          have apart : other.id ≠ run.id := fun same => newId (same ▸ List.mem_map_of_mem inRest)
          simpa using apart
        simp [others]
      · have apart : first.id ≠ run.id := fun same => newId (same ▸ List.mem_map_of_mem inRest)
        simp [apart, ih distinctRest inRest]

theorem deliver_honest (passed : ∀ patch, reports patch = none) {batch : List Run}
    (distinct : (batch.map Run.id).Nodup) (notified : Option String) {run : Run}
    (member : run ∈ batch) : (deliver toLowerCase reports notified batch).Honest run := by
  have sent : (deliver toLowerCase reports notified batch).statuses run =
      [(receipt toLowerCase notified run).status] := by
    rw [Tick.statuses, deliver_sent passed, filter_receipts distinct notified member]
    rfl
  cases notified with
  | some error =>
      right
      constructor
      · simp [Tick.timesEmitted, deliver_silent]
      · simpa [receipt, failedPatch] using sent
  | none =>
      left
      constructor
      · rw [Tick.timesEmitted, deliver_emitted passed]
        exact List.count_eq_one_of_mem distinct (List.mem_map_of_mem member)
      · cases owed : run.requireReply with
        | true =>
            left
            simpa [receipt, deliveredPatch, owed] using sent
        | false =>
            right
            simpa [receipt, deliveredPatch, owed] using sent

/-- A run outside the batch has no report at all. -/
theorem not_honest_of_not_mem (passed : ∀ patch, reports patch = none) {batch : List Run}
    (notified : Option String) {run : Run} (outside : run.id ∉ batch.map Run.id) :
    ¬ (deliver toLowerCase reports notified batch).Honest run := by
  have unsent : (deliver toLowerCase reports notified batch).statuses run = [] := by
    rw [Tick.statuses, deliver_sent passed, List.map_eq_nil_iff]
    apply List.filter_eq_nil_iff.mpr
    intro patch sent
    obtain ⟨other, member, rfl⟩ := List.mem_map.mp sent
    have apart : other.id ≠ run.id := fun same => outside (same ▸ List.mem_map_of_mem member)
    simpa using apart
  simp [Tick.Honest, unsent]

end Delivery

/-- The batch outlives the answer that ends it. -/
def Claim.keepsBatch : Claim → Bool
  | .answered answer => !answer.stopped && !answer.release
  | .failed _ => false

/-- The runs a tick delivers. -/
def deliveredRuns (toLowerCase : String → String) (claims : Nat → Claim) : List Run :=
  if (ending toLowerCase claims 20 0).all Claim.keepsBatch then takenRuns toLowerCase claims 20 0
  else []

section Batch
variable {toLowerCase : String → String} {reports : Patch → Option String}

theorem fillBatch_of_taken {claims : Nat → Claim} {index : Nat} {run : Run}
    (adds : (claims index).taken toLowerCase = some run) (limit : Nat) (batch : List Run) :
    fillBatch toLowerCase claims (limit + 1) index batch =
      fillBatch toLowerCase claims limit (index + 1) (batch ++ [run]) := by
  cases here : claims index with
  | failed message => simp [here, Claim.taken] at adds
  | answered answer =>
      by_cases gone : (answer.stopped || answer.release) = true
      · simp [here, Claim.taken, gone] at adds
      · simp only [here, Claim.taken, gone, if_false, Bool.false_eq_true,
          Option.filter_eq_some_iff] at adds
        obtain ⟨carried, fit⟩ := adds
        simp only [Bool.or_eq_true, not_or] at gone
        simp [fillBatch, here, gone, carried, fit]

theorem fillBatch_of_ended {claims : Nat → Claim} {index : Nat}
    (adds : (claims index).taken toLowerCase = none) (limit : Nat) (batch : List Run) :
    (fillBatch toLowerCase claims (limit + 1) index batch).toOption.getD [] =
      if (claims index).keepsBatch then batch else [] := by
  cases here : claims index with
  | failed message => simp [fillBatch, here, Claim.keepsBatch, Except.toOption]
  | answered answer =>
      obtain ⟨stopped, release, run⟩ := answer
      cases stopped with
      | true => simp [fillBatch, here, Claim.keepsBatch, Except.toOption]
      | false =>
          cases release with
          | true => simp [fillBatch, here, Claim.keepsBatch, Except.toOption]
          | false =>
              cases run with
              | none => simp [fillBatch, here, Claim.keepsBatch, Except.toOption]
              | some run =>
                  simp [here, Claim.taken, Option.filter_eq_none_iff] at adds
                  simp [fillBatch, here, adds, Claim.keepsBatch, Except.toOption]

theorem takenRuns_succ (claims : Nat → Claim) (limit index : Nat) :
    takenRuns toLowerCase claims (limit + 1) index =
      ((claims index).taken toLowerCase).elim [] fun run =>
        run :: takenRuns toLowerCase claims limit (index + 1) := by
  rw [takenRuns]
  cases (claims index).taken toLowerCase <;> rfl

theorem fillBatch_eq (claims : Nat → Claim) (limit index : Nat) (batch : List Run) :
    (fillBatch toLowerCase claims limit index batch).toOption.getD [] =
      if (ending toLowerCase claims limit index).all Claim.keepsBatch then
        batch ++ takenRuns toLowerCase claims limit index
      else [] := by
  induction limit generalizing index batch with
  | zero => exact (List.append_nil batch).symm
  | succ limit ih =>
      cases adds : (claims index).taken toLowerCase with
      | some run =>
          rw [fillBatch_of_taken adds, ih]
          simp [ending, takenRuns_succ, adds]
      | none =>
          rw [fillBatch_of_ended adds]
          simp [ending, takenRuns_succ, adds]

theorem tick_honest_iff (claims : Nat → Claim) (notified : Option String) (run : Run) :
    (tick toLowerCase reports claims notified).Honest run ↔
      (deliver toLowerCase reports notified (deliveredRuns toLowerCase claims)).Honest run := by
  have filled : (fillBatch toLowerCase claims 20 0 []).toOption.getD [] =
      deliveredRuns toLowerCase claims := fillBatch_eq claims 20 0 []
  rw [← filled, tick]
  cases fillBatch toLowerCase claims 20 0 [] with
  | error message => exact Iff.rfl
  | ok batch => exact Iff.rfl

theorem takenRuns_eq_nil_iff (claims : Nat → Claim) (limit index : Nat) :
    takenRuns toLowerCase claims (limit + 1) index = [] ↔
      (claims index).taken toLowerCase = none := by
  cases here : (claims index).taken toLowerCase <;> simp [takenRuns_succ, here]

theorem Claim.isEmpty_iff (claim : Claim) :
    claim.isEmpty = true ↔ claim.keepsBatch = true ∧ claim.carried = none := by
  cases claim with
  | failed message => simp [Claim.isEmpty, Claim.keepsBatch]
  | answered answer => simp [Claim.isEmpty, Claim.keepsBatch, Claim.carried]

end Batch

/-- What is delivered is all that was claimed exactly when the batch ends well. -/
theorem claimed_delivered_iff {toLowerCase : String → String} (claims : Claims toLowerCase) :
    (∀ run ∈ claimedRuns toLowerCase claims.answer,
        run.id ∈ (deliveredRuns toLowerCase claims.answer).map Run.id) ↔
      EndsWell toLowerCase claims.answer := by
  have distinct := claims.distinct
  have first : takenRuns toLowerCase claims.answer 20 0 = [] ↔
      (claims.answer 0).taken toLowerCase = none := takenRuns_eq_nil_iff claims.answer 19 0
  simp only [EndsWell, ← first, claimedRuns, deliveredRuns] at distinct ⊢
  generalize takenRuns toLowerCase claims.answer 20 0 = taken at distinct
  generalize ending toLowerCase claims.answer 20 0 = last at distinct
  cases last with
  | none => simpa using fun run member => ⟨run, member, rfl⟩
  | some last =>
      simp only [Option.mem_def, Option.some.injEq, forall_eq', Option.all_some, Option.bind_some,
        Claim.isEmpty_iff] at distinct ⊢
      by_cases keeps : last.keepsBatch = true
      · cases carried : last.carried with
        | none => simpa [keeps] using fun run member => ⟨run, member, rfl⟩
        | some run =>
            -- The run that ended the batch is not one of those before it.
            have outside : run.id ∉ taken.map Run.id := by
              simp only [carried, Option.toList_some, List.map_append, List.map_cons,
                List.map_nil] at distinct
              intro inTaken
              exact (List.nodup_append.mp distinct).2.2 _ inTaken _ (by simp) rfl
            constructor
            · intro all
              exact absurd (all run (by simp)) (by simpa [keeps] using outside)
            · rintro ⟨absent, -⟩
              cases absent
      · have dropped : (∀ run ∈ taken ++ last.carried.toList, run.id ∈ ([] : List Run).map Run.id) ↔
            taken ++ last.carried.toList = [] := by
          simp [List.eq_nil_iff_forall_not_mem]
        rw [if_neg keeps, dropped, List.append_eq_nil_iff, Option.toList_eq_nil_iff]
        simp [keeps, and_comm]

theorem deliveredRuns_sublist (toLowerCase : String → String) (claims : Nat → Claim) :
    (deliveredRuns toLowerCase claims).Sublist (claimedRuns toLowerCase claims) := by
  unfold deliveredRuns claimedRuns
  split
  · exact List.sublist_append_left _ _
  · exact List.nil_sublist _

/-- Every run claimed in a tick has one honest outcome exactly when the batch ends well. -/
theorem tick_honest_iff_ends_well (toLowerCase : String → String)
    (claims : Claims toLowerCase) (notified : Option String) (reports : Patch → Option String)
    (passed : ∀ patch, reports patch = none) :
    (∀ run ∈ claimedRuns toLowerCase claims.answer,
        (tick toLowerCase reports claims.answer notified).Honest run) ↔
      EndsWell toLowerCase claims.answer := by
  have part := deliveredRuns_sublist toLowerCase claims.answer
  have distinct := claims.distinct.sublist (part.map Run.id)
  rw [← claimed_delivered_iff]
  simp only [tick_honest_iff]
  constructor
  · intro honest run claimed
    by_contra outside
    exact not_honest_of_not_mem passed notified outside (honest run claimed)
  · intro all run claimed
    obtain ⟨delivered, member, same⟩ := List.mem_map.mp (all run claimed)
    obtain rfl := List.inj_on_of_nodup_map claims.distinct (part.subset member) claimed same
    exact deliver_honest passed distinct notified member

def ordinary (id : String) : Run := ⟨id, "channel", "normal", false⟩

def handsOut (id : String) : Claim := .answered ⟨false, false, some (ordinary id)⟩

def nothing : Claim := .answered ⟨false, false, none⟩

/-- One run and then nothing. -/
def oneRun : Claims PyText.lower where
  answer := fun index => if index = 0 then handsOut "r1" else nothing
  distinct := by decide

theorem one_run_honest :
    ordinary "r1" ∈ claimedRuns PyText.lower oneRun.answer ∧
      (tick PyText.lower (fun _ => none) oneRun.answer none).Honest (ordinary "r1") := by
  have claimed : ordinary "r1" ∈ claimedRuns PyText.lower oneRun.answer := by decide
  have well : EndsWell PyText.lower oneRun.answer := by
    unfold EndsWell
    decide
  exact ⟨claimed, (tick_honest_iff_ends_well PyText.lower oneRun none (fun _ => none)
    fun _ => rfl).mpr well _ claimed⟩

/-- One run, and the next claim times out. -/
def runThenError : Claims PyText.lower where
  answer := fun index => if index = 0 then handsOut "r1" else .failed "timed out"
  distinct := by decide

/-- The run claimed before the claim that timed out is neither emitted nor reported. -/
theorem claimed_run_dropped :
    ordinary "r1" ∈ claimedRuns PyText.lower runThenError.answer ∧
      (tick PyText.lower (fun _ => none) runThenError.answer none).sent = [] ∧
      ¬ (tick PyText.lower (fun _ => none) runThenError.answer none).Honest (ordinary "r1") := by
  have unsent : (tick PyText.lower (fun _ => none) runThenError.answer none).sent = [] := by
    decide
  have noStatus : (tick PyText.lower (fun _ => none) runThenError.answer none).statuses
      (ordinary "r1") = [] := by simp [Tick.statuses, unsent]
  exact ⟨by decide, unsent, by simp [Tick.Honest, noStatus]⟩

end AifyComms.ChannelTick
