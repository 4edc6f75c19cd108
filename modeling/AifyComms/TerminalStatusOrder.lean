import AifyComms.TerminalStreamOrder

/-!
The status that wins. Along the line of a terminal's batches (committed, popped,
pending) the last status is the last one posted, as long as no failed write hands back a
status that is older than the last one posted: `_requeue_front` puts it in the place of
the pending one.
-/

namespace AifyComms.TerminalWriteQueue
open PyText TerminalOutput Runs

/-! ### The last status of a line -/

/-- A later status replaces an earlier one; a blank one does not. -/
def later (first second : String) : String := if second = "" then first else second

@[simp] theorem later_blank (first : String) : later first "" = first := if_pos rfl

@[simp] theorem blank_later (second : String) : later "" second = second := by
  unfold later
  split
  next blank => exact blank.symm
  · rfl

theorem later_assoc (first second third : String) :
    later (later first second) third = later first (later second third) := by
  unfold later
  by_cases blank : third = ""
  · simp [blank]
  · simp [blank]

@[simp] theorem lastStatus_nil : lastStatus [] = "" := rfl

theorem lastStatus_append (front back : List Batch) :
    lastStatus (front ++ back) = later (lastStatus front) (lastStatus back) := by
  unfold lastStatus later
  rw [List.reverse_append, List.find?_append]
  cases found : back.reverse.find? fun batch => decide (batch.status ≠ "") with
  | none => rfl
  | some batch =>
      have status := List.find?_some found
      rw [decide_eq_true_eq] at status
      exact (if_neg status).symm

@[simp] theorem lastStatus_singleton (batch : Batch) : lastStatus [batch] = batch.status := by
  unfold lastStatus
  by_cases blank : batch.status = ""
  · simp [blank]
  · simp [blank]

theorem lastStatus_cons (batch : Batch) (rest : List Batch) :
    lastStatus (batch :: rest) = later batch.status (lastStatus rest) := by
  have parts := lastStatus_append [batch] rest
  rw [lastStatus_singleton] at parts
  exact parts

/-- The batches handed back carry no status of their own. -/
theorem lastStatus_batches (state : PendingState) : lastStatus state.batches = state.status := by
  have retried : ∀ retry : List RetryBatch, lastStatus
      (retry.map fun batch => (⟨batch.output, "", batch.number⟩ : Batch)) = "" := by
    intro retry
    induction retry with
    | nil => rfl
    | cons batch rest ih =>
        rw [List.map_cons, lastStatus_cons, ih]
        rfl
  unfold PendingState.batches
  rw [lastStatus_append, retried, lastStatus_singleton, blank_later]

theorem lastStatus_retained (pending : Dict TerminalId PendingState) (terminal : TerminalId) :
    lastStatus (retained pending terminal) = (openedState pending terminal).status := by
  unfold retained openedState
  cases pending.get? terminal with
  | none => rfl
  | some state => exact lastStatus_batches state

theorem lastStatus_line (world : World) (terminal : TerminalId) :
    lastStatus (world.line terminal) = later (later (lastStatus (world.committed terminal))
      (lastStatus (world.popped terminal))) (openedState world.queue.pending terminal).status := by
  unfold World.line
  rw [lastStatus_append, lastStatus_append, lastStatus_retained]

/-! ### The status of the pending state -/

theorem carryStatus_status (state : PendingState) (status : String) :
    (carryStatus state status).status = later state.status status := by
  unfold carryStatus later
  split <;> rfl

theorem enqueuedState_status (limits : Limits) (queue : Queue) (terminal : TerminalId)
    (output status : String) (baseSeq : Nat) (autoschedule : Bool) :
    (enqueuedState limits queue terminal output status baseSeq autoschedule).1.status =
      later (openedState queue.pending terminal).status (strip status) := by
  have claimed : ∀ state, (claimNumber queue terminal state baseSeq).1.status = state.status := by
    intro state
    unfold claimNumber
    split <;> rfl
  have appended : ∀ state, (appendChunk limits state queue.nextOrdinal output).1.status =
      state.status := by
    intro state
    unfold appendChunk addChunk
    split <;> rfl
  have armed : ∀ state, (armFlush limits state (strip status) autoschedule).status =
      state.status := by
    intro state
    unfold armFlush
    split <;> rfl
  unfold enqueuedState openedState
  rw [armed, carryStatus_status, appended, claimed]

/-- The last status of a failed drain goes in the place of the pending one. -/
theorem requeueFront_status (queue : Queue) (terminal other : TerminalId) (batches : List Batch) :
    (openedState (requeueFront queue terminal batches).1.pending other).status =
      if terminal = other then later (openedState queue.pending other).status (lastStatus batches)
      else (openedState queue.pending other).status := by
  unfold requeueFront
  split
  next nothing =>
    rw [nothing.2, later_blank]
    split <;> rfl
  · dsimp only
    rw [openedState_set]
    by_cases same : terminal = other
    · subst same
      rw [if_pos rfl, if_pos rfl, carryStatus_status]
      rfl
    · rw [if_neg same, if_neg same]

/-! ### What was posted -/

/-- The process, and the last status that an accepted post carried for each terminal. -/
structure Posting where
  world : World
  posted : TerminalId → String

def postedAfter (posted : TerminalId → String) : Label → TerminalId → String
  | .enqueue terminal _ status _ _ =>
      if terminal = "" then posted
      else Function.update posted terminal (later (posted terminal) (strip status))
  | _ => posted

def post (limits : Limits) (posting : Posting) (label : Label) : Option Posting :=
  (step limits posting.world label).map fun world => ⟨world, postedAfter posting.posted label⟩

def beforePosts (rows : TerminalId → Row) : Posting := ⟨initial rows, fun _ => ""⟩

theorem posting_reaches {limits : Limits} {rows : TerminalId → Row} {posting : Posting}
    {allowed : Posting → Label → Prop}
    (run : Reaches (post limits) allowed (beforePosts rows) posting) :
    Reaches (step limits) anyStep (initial rows) posting.world := by
  induction run with
  | refl => exact .refl
  | tail label _ _ taken ih =>
      obtain ⟨world, moved, rfl⟩ := Option.map_eq_some_iff.mp taken
      exact .tail label ih trivial moved

/-- The last status on the line of a terminal is the last one posted for it. -/
def LatestLast (posting : Posting) : Prop :=
  ∀ terminal, lastStatus (posting.world.line terminal) = posting.posted terminal

/-- A write may raise only when what it hands back has no status, or the last posted
one. -/
def handsBackLatest (posting : Posting) : Label → Bool
  | .raise =>
      match posting.world.queue.writers with
      | .flush _ terminal batches :: _ =>
          lastStatus batches = "" || lastStatus batches = posting.posted terminal
      | _ => true
  | _ => true

def HandsBackLatest (posting : Posting) (label : Label) : Prop :=
  handsBackLatest posting label = true

theorem enqueued_latest (limits : Limits) (world : World) (terminal : TerminalId)
    (output status : String) (baseSeq : Nat) (autoschedule : Bool)
    (posted : TerminalId → String)
    (latest : ∀ terminal, lastStatus (world.line terminal) = posted terminal)
    (other : TerminalId) :
    lastStatus ((world.withQueue
        ((enqueue limits world.queue terminal output status baseSeq autoschedule).1,
          (enqueue limits world.queue terminal output status baseSeq autoschedule).2.2)).line
      other) = postedAfter posted (.enqueue terminal output status baseSeq autoschedule) other := by
  dsimp only [postedAfter]
  by_cases refused : terminal = "" ∨ (output = "" ∧ strip status = "")
  · have same : enqueue limits world.queue terminal output status baseSeq autoschedule =
        (world.queue, 0, []) := by
      unfold enqueue
      exact if_pos refused
    have kept : lastStatus ((world.withQueue (world.queue, [])).line other) = posted other := by
      rw [← latest other, lastStatus_line, lastStatus_line]
      unfold World.withQueue World.committed World.popped
      rw [List.append_nil]
    rw [same, kept]
    split
    · rfl
    next named =>
      have silent : strip status = "" := (refused.resolve_left named).2
      rw [silent, later_blank, Function.update_eq_self]
  · obtain ⟨named, _⟩ := not_or.mp refused
    obtain ⟨pending, writers, events, quiet, log⟩ :=
      enqueue_accepted limits world.queue baseSeq autoschedule refused
    have committed : (world.withQueue
        ((enqueue limits world.queue terminal output status baseSeq autoschedule).1,
          (enqueue limits world.queue terminal output status baseSeq autoschedule).2.2)).committed
        other = world.committed other := by
      unfold World.withQueue World.committed
      rw [log, List.flatMap_append, List.flatMap_append, (quiet_views quiet other).2.2.2.2,
        (appendEvents_others terminal world.queue.nextOrdinal output _ other).2]
      exact List.append_nil _
    have line := latest other
    rw [lastStatus_line] at line
    rw [lastStatus_line, committed, if_neg named]
    unfold World.withQueue World.popped at *
    dsimp only at *
    rw [writers, pending, openedState_set]
    by_cases same : terminal = other
    · subst same
      rw [if_pos rfl, enqueuedState_status, ← later_assoc, line, Function.update_self]
    · rw [if_neg same, line, Function.update_of_ne (Ne.symm same)]

/-- Nothing of a terminal that carries a status moves. -/
theorem latest_frame {before after : World} {events : List Event}
    (pending : after.queue.pending = before.queue.pending)
    (log : after.log = before.log ++ events) (terminal : TerminalId)
    (quiet : events.flatMap (committedFor terminal) = [])
    (popped : lastStatus (after.popped terminal) = lastStatus (before.popped terminal)) :
    lastStatus (after.line terminal) = lastStatus (before.line terminal) := by
  have committed : after.committed terminal = before.committed terminal := by
    unfold World.committed
    rw [log, List.flatMap_append, quiet, List.append_nil]
  rw [lastStatus_line, lastStatus_line, committed, popped, pending]

/-- A failed drain leaves the line, and its last status ends it. -/
theorem handedBack_latest {before after : World} {task : Option TaskId} {terminal : TerminalId}
    {batches : List Batch} {waiting : List Job}
    (holder : before.queue.writers = .flush task terminal batches :: waiting)
    (leaves : Leaves before after (requeueFront before.queue terminal batches).1.pending waiting
      (before.queue.inFlight - 1) (requeueFront before.queue terminal batches).2)
    (posted : TerminalId → String)
    (latest : ∀ terminal, lastStatus (before.line terminal) = posted terminal)
    (hands : lastStatus batches = "" ∨ lastStatus batches = posted terminal) (other : TerminalId) :
    lastStatus (after.line other) = posted other := by
  have committed : after.committed other = before.committed other := by
    obtain ⟨removed, events⟩ := requeueFront_events before.queue terminal batches
    have log := events ▸ leaves.log
    simp [World.committed, log, (discards_views terminal removed other).2.2.2]
  have popped : after.popped other = waiting.flatMap (Job.poppedFor other) := by
    unfold World.popped
    rw [leaves.writers]
  have line := latest other
  rw [lastStatus_line, popped_holder holder] at line
  rw [lastStatus_line, committed, popped, leaves.pending, requeueFront_status]
  by_cases same : terminal = other
  · subst same
    rw [if_pos rfl, lastStatus_append] at line
    rw [if_pos rfl]
    rcases hands with silent | last
    · rw [silent, blank_later] at line
      rw [silent, later_blank]
      exact line
    · by_cases blank : posted terminal = ""
      · rw [last, blank, blank_later] at line
        rw [last, blank, later_blank]
        exact line
      · rw [last, ← later_assoc]
        exact if_neg blank
  · rw [if_neg same, List.nil_append] at line
    rw [if_neg same]
    exact line

theorem move_latest {limits : Limits} {before after : World} {label : Label}
    (posted : TerminalId → String)
    (latest : ∀ terminal, lastStatus (before.line terminal) = posted terminal)
    (hands : handsBackLatest ⟨before, posted⟩ label = true)
    (other : ∀ terminal output status baseSeq autoschedule,
      label ≠ .enqueue terminal output status baseSeq autoschedule)
    (move : Move limits before after label) (terminal : TerminalId) :
    lastStatus (after.line terminal) = posted terminal := by
  cases move with
  | enqueued => exact absurd rfl (other _ _ _ _ _)
  | popped held leaves =>
      rw [line_popped held leaves terminal]
      exact latest terminal
  | committed quiet holder leaves =>
      rw [line_committed quiet holder leaves terminal]
      exact latest terminal
  | skipped empty holder leaves =>
      refine (latest_frame leaves.pending leaves.log terminal rfl ?_).trans (latest terminal)
      rw [popped_holder holder, popped_holder leaves.writers]
      split
      · rw [List.cons_append, lastStatus_cons]
        unfold Batch.isEmpty at empty
        rw [Bool.and_eq_true, decide_eq_true_eq, decide_eq_true_eq] at empty
        rw [empty.2, blank_later]
      · rfl
  | handedBack holder leaves =>
      refine handedBack_latest holder leaves posted latest ?_ terminal
      unfold handsBackLatest at hands
      rw [holder] at hands
      simpa using hands
  | finished holder leaves =>
      refine (latest_frame leaves.pending leaves.log terminal rfl ?_).trans (latest terminal)
      rw [popped_holder holder]
      unfold World.popped
      rw [leaves.writers]
      split <;> rfl
  | joined job leaves =>
      refine (latest_frame leaves.pending leaves.log terminal rfl ?_).trans (latest terminal)
      unfold World.popped
      rw [leaves.writers, List.flatMap_append, List.flatMap_singleton, poppedFor_other job,
        List.append_nil]
  | left quiet job holder leaves =>
      refine (latest_frame leaves.pending leaves.log terminal (quiet_views quiet terminal).2.2.2.2
        ?_).trans (latest terminal)
      unfold World.popped
      rw [leaves.writers, holder, List.flatMap_cons, poppedFor_other job, List.nil_append]
  | idle quiet leaves =>
      refine (latest_frame leaves.pending leaves.log terminal (quiet_views quiet terminal).2.2.2.2
        ?_).trans (latest terminal)
      unfold World.popped
      rw [leaves.writers]

theorem post_latest {limits : Limits} {before after : Posting} {label : Label}
    (latest : LatestLast before) (hands : HandsBackLatest before label)
    (taken : post limits before label = some after) : LatestLast after := by
  obtain ⟨world, moved, rfl⟩ := Option.map_eq_some_iff.mp taken
  cases label with
  | enqueue terminal output status baseSeq autoschedule =>
      obtain rfl := Option.some.inj moved
      exact enqueued_latest limits before.world terminal output status baseSeq autoschedule
        before.posted latest
  | _ =>
      exact move_latest before.posted latest hands (fun _ _ _ _ _ => Label.noConfusion)
        (step_move moved)

/-- The last status on a terminal's line is the last one posted, and once the queue has
drained it is the last one that a committed write was handed. -/
theorem last_status_wins (limits : Limits) (rows : TerminalId → Row) {posting : Posting}
    (run : Reaches (post limits) HandsBackLatest (beforePosts rows) posting)
    (terminal : TerminalId) :
    lastStatus (posting.world.line terminal) = posting.posted terminal ∧
      (flushAllNext posting.world.queue = .returned →
        lastStatus (posting.world.committed terminal) = posting.posted terminal) := by
  have latest : LatestLast posting := by
    refine run.invariant LatestLast (fun _ => rfl) ?_
    exact fun _ _ _ latest hands taken => post_latest latest hands taken
  refine ⟨latest terminal, fun returned => ?_⟩
  obtain ⟨_, conserved⟩ := reachable_conserved (posting_reaches run)
  obtain ⟨pending, written⟩ := returned_drained conserved returned
  have popped : posting.world.popped terminal = [] := by
    rw [World.popped, List.flatMap_eq_nil_iff]
    exact fun job listed => poppedFor_other (written job listed) terminal
  have line := latest terminal
  rw [lastStatus_line, popped, lastStatus_nil, later_blank, openedState, pending] at line
  exact line

def statusRow : Row := ⟨"", "running", 0, []⟩

/-- `running` is popped, `stopped` is posted, and the write of `running` raises. -/
def replacedRun : List Label :=
  [.enqueue "t" "" "running" 0 true, .directFlush "t", .enqueue "t" "" "stopped" 0 true, .raise,
    .directFlush "t", .select, .write 0, .finish]

theorem older_status_wins : ∃ posting,
    Reaches (post defaultLimits) anyStep (beforePosts fun _ => statusRow) posting ∧
      flushAllNext posting.world.queue = .returned ∧
      lastStatus (posting.world.committed "t") = "running" ∧ posting.posted "t" = "stopped" := by
  have executed : (exec (post defaultLimits) (fun _ _ => true) (beforePosts fun _ => statusRow)
      replacedRun).map (fun posting => (flushAllNext posting.world.queue,
        lastStatus (posting.world.committed "t"), posting.posted "t")) =
      some (.returned, "running", "stopped") := by
    decide
  obtain ⟨posting, run, seen⟩ := reaches_observed _ _ _ _ (fun _ _ _ => trivial) executed
  simp only [Prod.mk.injEq] at seen
  exact ⟨posting, run, seen.1, seen.2.1, seen.2.2⟩

/-- The write of `running` raises before `stopped` is posted. -/
def retriedStatusRun : List Label :=
  [.enqueue "t" "" "running" 0 true, .directFlush "t", .raise, .enqueue "t" "" "stopped" 0 true,
    .directFlush "t", .select, .write 0, .finish]

theorem last_status_wins_retried : ∃ posting,
    Reaches (post defaultLimits) HandsBackLatest (beforePosts fun _ => statusRow) posting ∧
      flushAllNext posting.world.queue = .returned ∧ posting.posted "t" = "stopped" ∧
      lastStatus (posting.world.committed "t") = posting.posted "t" := by
  have executed : (exec (post defaultLimits) handsBackLatest (beforePosts fun _ => statusRow)
      retriedStatusRun).map (fun posting => (flushAllNext posting.world.queue,
        posting.posted "t")) = some (.returned, "stopped") := by
    decide
  obtain ⟨posting, run, seen⟩ := reaches_observed _ _ _ _ (fun _ _ granted => granted) executed
  simp only [Prod.mk.injEq] at seen
  have wins := last_status_wins defaultLimits (fun _ => statusRow) run "t"
  exact ⟨posting, run, seen.1, seen.2, wins.2 seen.1⟩

end AifyComms.TerminalWriteQueue
