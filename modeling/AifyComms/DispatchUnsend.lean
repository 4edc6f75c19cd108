import AifyComms.DispatchQueueTracking

/-!
What an unsend takes out of the queue. A queued run is cancelled when the
message that opened it is unsent, with everything merged into it; a message
merged behind another stays in its run.
-/

namespace AifyComms.DispatchUnsend
open PyText TextLines DispatchBuffer DispatchQueue DispatchQueueTracking Runs

variable {world after : World}

/-- The unsend takes back these messages and no other: no queued run carries
one of them, and what was queued with one still is. -/
def TakesBack (before after : World) (ids : List Text) : Prop :=
  (∀ run ∈ after.runs, run.status = .queued → ∀ id ∈ ids, ¬ run.Carries id) ∧
    ∀ run ∈ before.runs, run.status = .queued → (∃ id ∈ ids, run.Carries id) →
      ∀ other, run.Carries other → other ∉ ids →
        ∃ still ∈ after.runs, still.status = .queued ∧ still.Carries other

/-- Every queued run that carries one of these messages carries no other. -/
def QueuedAlone (world : World) (ids : List Text) : Prop :=
  ∀ run ∈ world.runs, run.status = .queued → ∀ id ∈ ids, run.Carries id →
    ∀ other, run.Carries other → other ∈ ids

/-- Sends, claims, reports and unsends, without the replay sweep. -/
def Requests (_ : World) : Label → Prop
  | .select .. => False
  | .replay .. => False
  | _ => True

theorem reaches_requests_tracked (reached : Reaches step Requests emptyWorld world) :
    Tracked world := by
  refine reached.invariant Tracked tracked_emptyWorld fun before label next tracked allowed taken => ?_
  refine step_tracked tracked ?_ taken
  cases label with
  | select cutoff limit => exact allowed.elim
  | _ => trivial

/-- A queued run is named after the first send put into it. -/
theorem carries_messageId (tracked : Tracked world) {run : Run} (inRuns : run ∈ world.runs)
    (queued : run.status = .queued) : run.Carries run.messageId := by
  obtain ⟨first, later, items, merged⟩ := tracked.built run inRuns queued
  have opening : run.row.opening = (openRun first).opening := mergeSends_opening merged
  rw [Run.messageId, opening, Run.Carries, Run.ids, items]
  exact List.mem_cons_self

section Removal
variable {ids : List Text}

theorem removed_queued_iff (run : Run) :
    ((run.takeBack ids).forget ids).status = .queued ↔
      run.status = .queued ∧ run.messageId ∉ ids := (takeBack_spec ids run).2.2.2

theorem removed_carries_iff (run : Run) (id : Text) :
    ((run.takeBack ids).forget ids).Carries id ↔ run.Carries id := by
  have items : ((run.takeBack ids).forget ids).items = run.items := (takeBack_spec ids run).2.1
  rw [Run.Carries, Run.ids, items]
  rfl

/-- Removing messages takes them back exactly when nothing else is queued with them. -/
theorem removeMessages_takesBack_iff (tracked : Tracked world) :
    TakesBack world (removeMessages world ids) ids ↔ QueuedAlone world ids := by
  constructor
  · rintro ⟨gone, kept⟩ run inRuns queued id removed here other there
    by_contra outside
    -- A run that stays queued would still carry the removed message, so this one is cancelled.
    have cancelled : run.messageId ∈ ids := by
      by_contra stays
      have still : (run.takeBack ids).forget ids ∈ (removeMessages world ids).runs :=
        List.mem_map.mpr ⟨run, inRuns, rfl⟩
      exact gone _ still ((removed_queued_iff run).mpr ⟨queued, stays⟩) id removed
        ((removed_carries_iff run id).mpr here)
    obtain ⟨still, inAfter, stillQueued, carried⟩ :=
      kept run inRuns queued ⟨id, removed, here⟩ other there outside
    obtain ⟨old, inOld, rfl⟩ := List.mem_map.mp inAfter
    have same := tracked.run_eq inOld inRuns ((removed_carries_iff old other).mp carried) there
    exact ((removed_queued_iff old).mp stillQueued).2 (same ▸ cancelled)
  · intro alone
    constructor
    · intro run inAfter queued id removed here
      obtain ⟨old, inOld, rfl⟩ := List.mem_map.mp inAfter
      obtain ⟨wasQueued, stays⟩ := (removed_queued_iff old).mp queued
      have named := carries_messageId tracked inOld wasQueued
      exact stays (alone old inOld wasQueued id removed
        ((removed_carries_iff old id).mp here) _ named)
    · rintro run inRuns queued ⟨id, removed, here⟩ other there outside
      exact absurd (alone run inRuns queued id removed here other there) outside

end Removal

/-- **An unsend takes back exactly its message, in every reachable state, if and
only if every queued run that carries the message carries nothing else.** -/
theorem unsend_takesBack_iff (reached : Reaches step Requests emptyWorld world)
    {id requestedBy : Text} {mayOverride : Bool}
    (unsent : unsendMessage world id requestedBy mayOverride = .ok after) :
    ∃ message, messageOf world id = some message ∧
      (TakesBack world after (unsendIds world message) ↔
        QueuedAlone world (unsendIds world message)) := by
  obtain ⟨message, found, rfl⟩ := unsendMessage_ok unsent
  exact ⟨message, found, removeMessages_takesBack_iff (reaches_requests_tracked reached)⟩

/-! ### A run with one message and a run with two -/

/-- A send of `lead` to `coder`. -/
def leadSend (id : String) (minted : ∀ c ∈ id.toList, isSpace c = false) : Label :=
  .send ⟨"lead".toList, "info".toList, "Build".toList, "Go.".toList, "normal".toList, [],
    id.toList, [], minted, List.not_mem_nil⟩ "coder".toList true false ⟨true, false⟩ 0

theorem firstSend_minted : ∀ c ∈ "m-1".toList, isSpace c = false := spaceless (by decide)

theorem secondSend_minted : ∀ c ∈ "m-2".toList, isSpace c = false := spaceless (by decide)

def firstSend : Label := leadSend "m-1" firstSend_minted

def secondSend : Label := leadSend "m-2" secondSend_minted

def requests (_ : World) : Label → Bool
  | .select .. => false
  | .replay .. => false
  | _ => true

theorem requests_sound (world : World) (label : Label) (granted : requests world label = true) :
    Requests world label := by
  cases label with
  | select cutoff limit => cases granted
  | replay available requestedAt stamp => cases granted
  | _ => trivial

/-- The queue, and what an unsend of the first message would take. -/
def queueOf (world : World) : List (RunStatus × List Text) × Option (List Text) × Bool :=
  (world.runs.map fun run => (run.status, run.ids),
    (messageOf world "m-1".toList).map (unsendIds world),
    (unsendMessage world "m-1".toList "lead".toList false).toOption.isSome)

theorem run_of_queueOf {queue : List (RunStatus × List Text)} {rest : Option (List Text) × Bool}
    (seen : queueOf world = (queue, rest)) {run : Run} (inRuns : run ∈ world.runs) :
    (run.status, run.ids) ∈ queue := by
  have listed : world.runs.map (fun run => (run.status, run.ids)) = queue := congrArg Prod.fst seen
  rw [← listed]
  exact List.mem_map.mpr ⟨run, inRuns, rfl⟩

theorem unsend_of_queueOf {queue : List (RunStatus × List Text)}
    (seen : queueOf world = (queue, some ["m-1".toList], true)) :
    ∃ message after, messageOf world "m-1".toList = some message ∧
      unsendIds world message = ["m-1".toList] ∧
      unsendMessage world "m-1".toList "lead".toList false = .ok after := by
  have found := congrArg (fun queue => queue.2.1) seen
  have accepted := congrArg (fun queue => queue.2.2) seen
  obtain ⟨message, is, ids⟩ := Option.map_eq_some_iff.mp found
  cases unsent : unsendMessage world "m-1".toList "lead".toList false with
  | ok after => exact ⟨message, after, is, ids, rfl⟩
  | error refused =>
      simp only [queueOf, unsent] at accepted
      cases accepted

theorem single_send_taken_back :
    ∃ world after message, Reaches step Requests emptyWorld world ∧
      unsendMessage world "m-1".toList "lead".toList false = .ok after ∧
      messageOf world "m-1".toList = some message ∧
      TakesBack world after (unsendIds world message) := by
  have executed : (exec step requests emptyWorld [firstSend]).map queueOf =
      some ([(.queued, ["m-1".toList])], some ["m-1".toList], true) := by decide
  obtain ⟨world, reached, seen⟩ := reaches_observed _ _ _ _ requests_sound executed
  obtain ⟨message, after, found, ids, unsent⟩ := unsend_of_queueOf seen
  obtain ⟨same, foundAgain, exactly⟩ := unsend_takesBack_iff reached unsent
  obtain rfl : message = same := Option.some.inj (found.symm.trans foundAgain)
  refine ⟨world, after, message, reached, unsent, found, exactly.mpr ?_⟩
  intro run inRuns _ id _ _ other there
  have only := run_of_queueOf seen inRuns
  simp only [List.mem_singleton, Prod.mk.injEq] at only
  rw [ids]
  rw [Run.Carries, only.2] at there
  exact there

/-- The second message is merged into the run of the first, and goes with it. -/
theorem unsend_takes_a_merged_message_along :
    ¬ ∀ world after id requestedBy mayOverride message,
      Reaches step Requests emptyWorld world →
      unsendMessage world id requestedBy mayOverride = .ok after →
      messageOf world id = some message → TakesBack world after (unsendIds world message) := by
  intro claimed
  have executed : (exec step requests emptyWorld [firstSend, secondSend]).map queueOf =
      some ([(.queued, ["m-1".toList, "m-2".toList])], some ["m-1".toList], true) := by
    decide
  obtain ⟨world, reached, seen⟩ := reaches_observed _ _ _ _ requests_sound executed
  obtain ⟨message, after, found, ids, unsent⟩ := unsend_of_queueOf seen
  have exactly := claimed world after _ _ _ message reached unsent found
  obtain ⟨same, foundAgain, rfl⟩ := unsendMessage_ok unsent
  obtain rfl : message = same := Option.some.inj (found.symm.trans foundAgain)
  have alone := (removeMessages_takesBack_iff (reaches_requests_tracked reached)).mp exactly
  have listed : world.runs.map (fun run => (run.status, run.ids)) =
      [(.queued, ["m-1".toList, "m-2".toList])] := congrArg Prod.fst seen
  have inQueue : (RunStatus.queued, ["m-1".toList, "m-2".toList]) ∈
      world.runs.map fun run => (run.status, run.ids) := by
    rw [listed]
    exact List.mem_singleton_self _
  obtain ⟨run, inRuns, is⟩ := List.mem_map.mp inQueue
  obtain ⟨queued, runIds⟩ := Prod.mk.inj is
  have carries (id : Text) (inside : id ∈ ["m-1".toList, "m-2".toList]) : run.Carries id := by
    rw [Run.Carries, runIds]
    exact inside
  have taken := alone run inRuns queued "m-1".toList (by rw [ids]; decide) (carries _ (by decide))
    "m-2".toList (carries _ (by decide))
  rw [ids] at taken
  exact absurd taken (by decide)

end AifyComms.DispatchUnsend
