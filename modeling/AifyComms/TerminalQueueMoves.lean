import AifyComms.TerminalWriteQueue
import Mathlib.Algebra.BigOperators.Group.List.Basic
import Mathlib.Algebra.Ring.Nat

/-!
What one step of the write queue can do to the batches of a terminal. `Move`
says it once, for every label; the invariants over whole runs are read off it.
A terminal's batches stand in one line: those committed, those popped and not
yet written, those still in `_pending`.
-/

namespace AifyComms.TerminalWriteQueue
open PyText TerminalOutput

/-! ### Where a chunk or a batch is -/

def acceptedBy (terminal : TerminalId) : Event → List Chunk
  | .accepted owner chunk => if owner = terminal then [chunk] else []
  | _ => []

def discardedFrom (terminal : TerminalId) : Event → List Chunk
  | .discarded owner chunks _ => if owner = terminal then chunks else []
  | _ => []

def discardedChars (terminal : TerminalId) : Event → Nat
  | .discarded owner _ chars => if owner = terminal then chars else 0
  | _ => 0

def announcedChars (terminal : TerminalId) : Event → Nat
  | .announced owner chars => if owner = terminal then chars else 0
  | _ => 0

def committedFor (terminal : TerminalId) : Event → List Batch
  | .committed owner batch => if owner = terminal then [batch] else []
  | _ => []

def Job.poppedFor (terminal : TerminalId) : Job → List Batch
  | .flush _ owner batches => if owner = terminal then batches else []
  | _ => []

def Job.isFlush : Job → Bool
  | .flush _ _ _ => true
  | _ => false

theorem poppedFor_other {job : Job} (other : job.isFlush = false) (terminal : TerminalId) :
    job.poppedFor terminal = [] := by
  cases job with
  | flush task owner batches => cases other
  | settle owner => rfl
  | outside owner output status ownStatus => rfl

def World.accepted (world : World) (terminal : TerminalId) : List Chunk :=
  world.log.flatMap (acceptedBy terminal)

def World.discarded (world : World) (terminal : TerminalId) : List Chunk :=
  world.log.flatMap (discardedFrom terminal)

def World.committed (world : World) (terminal : TerminalId) : List Batch :=
  world.log.flatMap (committedFor terminal)

def World.popped (world : World) (terminal : TerminalId) : List Batch :=
  world.queue.writers.flatMap (Job.poppedFor terminal)

/-- The batches of the flush that holds the lock come first. -/
theorem popped_holder {world : World} {task : Option TaskId} {terminal : TerminalId}
    {batches : List Batch} {waiting : List Job}
    (holder : world.queue.writers = .flush task terminal batches :: waiting) (other : TerminalId) :
    world.popped other =
      (if terminal = other then batches else []) ++ waiting.flatMap (Job.poppedFor other) := by
  rw [World.popped, holder]
  rfl

def retained (pending : Dict TerminalId PendingState) (terminal : TerminalId) : List Batch :=
  match pending.get? terminal with
  | some state => state.batches
  | none => []

def droppedCount (pending : Dict TerminalId PendingState) (terminal : TerminalId) : Nat :=
  match pending.get? terminal with
  | some state => state.dropped
  | none => 0

/-- The pending state of a terminal, or the fresh one an enqueue would open. -/
def openedState (pending : Dict TerminalId PendingState) (terminal : TerminalId) : PendingState :=
  (pending.get? terminal).getD (newPendingState 0)

theorem retained_set (pending : Dict TerminalId PendingState) (terminal other : TerminalId)
    (state : PendingState) : retained (pending.set terminal state) other =
      if terminal = other then state.batches else retained pending other := by
  unfold retained
  rw [Dict.get?_set]
  by_cases same : terminal = other <;> simp [same]

theorem retained_erase (pending : Dict TerminalId PendingState) (terminal other : TerminalId) :
    retained (pending.erase terminal) other =
      if terminal = other then [] else retained pending other := by
  unfold retained
  rw [Dict.get?_erase]
  by_cases same : terminal = other
  · simp [same]
  · simp [same, Ne.symm same]

theorem droppedCount_erase (pending : Dict TerminalId PendingState) (terminal other : TerminalId) :
    droppedCount (pending.erase terminal) other =
      if terminal = other then 0 else droppedCount pending other := by
  unfold droppedCount
  rw [Dict.get?_erase]
  by_cases same : terminal = other
  · simp [same]
  · simp [same, Ne.symm same]

def chunksOf (batches : List Batch) : List Chunk := batches.flatMap fun batch => batch.output.chunks

/-- The numbers the batches claimed, in line order. -/
def numbersOf (batches : List Batch) : List Nat := batches.flatMap fun batch => ownNumber batch.seq

def totalChars (chunks : List Chunk) : Nat := (chunks.map fun chunk => chunk.text.length).sum

/-- An event that no view of a terminal's batches reads. -/
def Event.quiet : Event → Bool
  | .stored _ _ | .broadcast _ _ _ _ | .scheduled _ _ => true
  | _ => false

theorem quiet_views {events : List Event} (quiet : ∀ event ∈ events, event.quiet = true)
    (terminal : TerminalId) :
    events.flatMap (acceptedBy terminal) = [] ∧ events.flatMap (discardedFrom terminal) = [] ∧
      (events.map (discardedChars terminal)).sum = 0 ∧
      (events.map (announcedChars terminal)).sum = 0 ∧
      events.flatMap (committedFor terminal) = [] := by
  induction events with
  | nil => simp
  | cons event rest ih =>
      have tail := ih fun other member => quiet other (List.mem_cons_of_mem event member)
      have head := quiet event List.mem_cons_self
      cases event <;> simp_all [Event.quiet, acceptedBy, discardedFrom, discardedChars,
        announcedChars, committedFor]

@[simp] theorem chunksOf_append (left right : List Batch) :
    chunksOf (left ++ right) = chunksOf left ++ chunksOf right := List.flatMap_append

@[simp] theorem chunksOf_cons (batch : Batch) (rest : List Batch) :
    chunksOf (batch :: rest) = batch.output.chunks ++ chunksOf rest := List.flatMap_cons

@[simp] theorem chunksOf_nil : chunksOf [] = [] := rfl

@[simp] theorem totalChars_append (left right : List Chunk) :
    totalChars (left ++ right) = totalChars left + totalChars right := by
  simp [totalChars]

@[simp] theorem totalChars_cons (chunk : Chunk) (rest : List Chunk) :
    totalChars (chunk :: rest) = chunk.text.length + totalChars rest := by
  simp [totalChars]

@[simp] theorem totalChars_nil : totalChars [] = 0 := rfl

theorem join_length (texts : List String) :
    (String.join texts).length = (texts.map String.length).sum := by
  have general : ∀ start : String, (texts.foldl (· ++ ·) start).length =
      start.length + (texts.map String.length).sum := by
    induction texts with
    | nil => simp
    | cons text rest ih =>
        intro start
        rw [List.foldl_cons, ih, String.length_append, List.map_cons, List.sum_cons]
        omega
  simpa [String.join] using general ""

theorem output_length (output : Output) :
    output.text.length = output.notice.length + totalChars output.chunks := by
  rw [Output.text, String.length_append, join_length, List.map_map]
  rfl

/-! ### The two bounds -/

theorem bound_pending_spec (limit : Nat) (chunks : List Chunk) (chars dropped : Nat)
    (exact : chars = totalChars chunks) :
    chunks = (boundPendingLoop limit chunks chars dropped).1 ++
        (boundPendingLoop limit chunks chars dropped).2.1 ∧
      (boundPendingLoop limit chunks chars dropped).2.2.1 =
        totalChars (boundPendingLoop limit chunks chars dropped).2.1 ∧
      (boundPendingLoop limit chunks chars dropped).2.2.1 ≤ limit ∧
      (boundPendingLoop limit chunks chars dropped).2.2.2 =
        dropped + totalChars (boundPendingLoop limit chunks chars dropped).1 := by
  induction chunks generalizing chars dropped with
  | nil => simp_all [boundPendingLoop]
  | cons removed rest ih =>
      by_cases excess : limit < chars
      · have smaller : chars - removed.text.length = totalChars rest := by
          rw [exact, totalChars_cons]
          omega
        obtain ⟨split, count, bounded, added⟩ := ih _ (dropped + removed.text.length) smaller
        simp only [boundPendingLoop, excess, if_true]
        refine ⟨congrArg (List.cons removed) split, count, bounded, ?_⟩
        rw [added, totalChars_cons]
        omega
      · simp only [boundPendingLoop, excess, if_false]
        exact ⟨rfl, exact, Nat.le_of_not_lt excess, rfl⟩

def retryChars (retry : List RetryBatch) : Nat :=
  (retry.map fun batch => batch.output.text.length).sum

theorem bound_retry_spec (retry : List RetryBatch) (dropped : Nat) :
    retry = (boundRetryLoop retry dropped).1 ++ (boundRetryLoop retry dropped).2.1 ∧
      (boundRetryLoop retry dropped).2.1.length ≤ maxRetryBatches ∧
      (boundRetryLoop retry dropped).2.2 =
        dropped + retryChars (boundRetryLoop retry dropped).1 := by
  induction retry generalizing dropped with
  | nil => simp [boundRetryLoop, retryChars]
  | cons oldest rest ih =>
      by_cases excess : maxRetryBatches < (oldest :: rest).length
      · obtain ⟨split, bounded, added⟩ := ih (dropped + oldest.output.text.length)
        simp only [boundRetryLoop, excess, if_true]
        refine ⟨congrArg (List.cons oldest) split, bounded, ?_⟩
        rw [added]
        simp only [retryChars, List.map_cons, List.sum_cons]
        omega
      · simp only [boundRetryLoop, excess, if_false]
        exact ⟨rfl, Nat.le_of_not_lt excess, by simp [retryChars]⟩

/-! ### Enqueue, state by state -/

@[simp] theorem carryStatus_retry (state : PendingState) (status : String) :
    (carryStatus state status).retry = state.retry := by
  unfold carryStatus; split <;> rfl

@[simp] theorem carryStatus_chunks (state : PendingState) (status : String) :
    (carryStatus state status).chunks = state.chunks := by
  unfold carryStatus; split <;> rfl

@[simp] theorem carryStatus_chars (state : PendingState) (status : String) :
    (carryStatus state status).chars = state.chars := by
  unfold carryStatus; split <;> rfl

@[simp] theorem carryStatus_dropped (state : PendingState) (status : String) :
    (carryStatus state status).dropped = state.dropped := by
  unfold carryStatus; split <;> rfl

@[simp] theorem carryStatus_lastSeq (state : PendingState) (status : String) :
    (carryStatus state status).lastSeq = state.lastSeq := by
  unfold carryStatus; split <;> rfl

structure PendingState.WellFormed (limits : Limits) (state : PendingState) : Prop where
  chars : state.chars = totalChars state.chunks
  bounded : state.chars ≤ limits.maxPendingChars
  retry : state.retry.length ≤ maxRetryBatches
  numbered : state.lastSeq = 0 → state.chunks = []

theorem newPendingState_wellFormed (limits : Limits) (lastSeq : Nat) :
    (newPendingState lastSeq).WellFormed limits :=
  ⟨rfl, Nat.zero_le _, Nat.zero_le _, fun _ => rfl⟩

/-- What one accepted enqueue makes of the pending state: the new chunk goes to
the end, the bound takes from the front, and a missing number is claimed. -/
structure Enqueued (limits : Limits) (queue : Queue) (terminal : TerminalId) (output : String)
    (baseSeq : Nat) (before after : PendingState) (discarded : List Chunk) : Prop where
  retry : after.retry = before.retry
  chunks : before.chunks ++ (if output = "" then [] else [⟨queue.nextOrdinal, output⟩]) =
    discarded ++ after.chunks
  dropped : after.dropped = before.dropped + totalChars discarded
  lastSeq : after.lastSeq =
    if before.lastSeq = 0 then max baseSeq (queue.seqFloor terminal) + 1 else before.lastSeq
  wellFormed : after.WellFormed limits

theorem armFlush_fields (limits : Limits) (state : PendingState) (status : String)
    (autoschedule : Bool) :
    (armFlush limits state status autoschedule).retry = state.retry ∧
      (armFlush limits state status autoschedule).chunks = state.chunks ∧
      (armFlush limits state status autoschedule).chars = state.chars ∧
      (armFlush limits state status autoschedule).dropped = state.dropped ∧
      (armFlush limits state status autoschedule).lastSeq = state.lastSeq := by
  unfold armFlush
  split <;> exact ⟨rfl, rfl, rfl, rfl, rfl⟩

theorem claimNumber_fields (queue : Queue) (terminal : TerminalId) (state : PendingState)
    (baseSeq : Nat) :
    (claimNumber queue terminal state baseSeq).1.retry = state.retry ∧
      (claimNumber queue terminal state baseSeq).1.chunks = state.chunks ∧
      (claimNumber queue terminal state baseSeq).1.chars = state.chars ∧
      (claimNumber queue terminal state baseSeq).1.dropped = state.dropped ∧
      (claimNumber queue terminal state baseSeq).1.lastSeq =
        if state.lastSeq = 0 then max baseSeq (queue.seqFloor terminal) + 1 else state.lastSeq := by
  unfold claimNumber
  by_cases unclaimed : state.lastSeq = 0 <;> simp [unclaimed]

theorem appendChunk_spec (limits : Limits) (state : PendingState) (ordinal : Nat) (text : String)
    (exact : state.chars = totalChars state.chunks)
    (bounded : state.chars ≤ limits.maxPendingChars) :
    state.chunks ++ (if text = "" then [] else [⟨ordinal, text⟩]) =
        (appendChunk limits state ordinal text).2 ++
          (appendChunk limits state ordinal text).1.chunks ∧
      (appendChunk limits state ordinal text).1.chars =
        totalChars (appendChunk limits state ordinal text).1.chunks ∧
      (appendChunk limits state ordinal text).1.chars ≤ limits.maxPendingChars ∧
      (appendChunk limits state ordinal text).1.dropped =
        state.dropped + totalChars (appendChunk limits state ordinal text).2 := by
  by_cases blank : text = ""
  · simp [appendChunk, blank, ← exact, bounded]
  · simp only [appendChunk, blank, if_false, addChunk]
    apply bound_pending_spec
    rw [exact, totalChars_append, totalChars_cons, totalChars_nil, Nat.add_zero]

theorem appendChunk_fields (limits : Limits) (state : PendingState) (ordinal : Nat)
    (text : String) :
    (appendChunk limits state ordinal text).1.retry = state.retry ∧
      (appendChunk limits state ordinal text).1.lastSeq = state.lastSeq := by
  unfold appendChunk addChunk
  split <;> exact ⟨rfl, rfl⟩

/-- The pending state an accepted enqueue stores, and what its bound discards. -/
def enqueuedState (limits : Limits) (queue : Queue) (terminal : TerminalId) (output status : String)
    (baseSeq : Nat) (autoschedule : Bool) : PendingState × List Chunk :=
  let opened := (queue.pending.get? terminal).getD (newPendingState 0)
  let appended := appendChunk limits (claimNumber queue terminal opened baseSeq).1
    queue.nextOrdinal output
  (armFlush limits (carryStatus appended.1 (strip status)) (strip status) autoschedule, appended.2)

theorem enqueued_state_spec (limits : Limits) (queue : Queue) (terminal : TerminalId)
    (output status : String) (baseSeq : Nat) (autoschedule : Bool)
    (wellFormed : (openedState queue.pending terminal).WellFormed limits) :
    Enqueued limits queue terminal output baseSeq (openedState queue.pending terminal)
      (enqueuedState limits queue terminal output status baseSeq autoschedule).1
      (enqueuedState limits queue terminal output status baseSeq autoschedule).2 := by
  unfold openedState at wellFormed ⊢
  generalize opening : (queue.pending.get? terminal).getD (newPendingState 0) = opened
  rw [opening] at wellFormed
  obtain ⟨claimRetry, claimChunks, claimChars, claimDropped, claimSeq⟩ :=
    claimNumber_fields queue terminal opened baseSeq
  have spec := appendChunk_spec limits (claimNumber queue terminal opened baseSeq).1
    queue.nextOrdinal output (by rw [claimChars, claimChunks]; exact wellFormed.chars)
    (claimChars ▸ wellFormed.bounded)
  obtain ⟨appendRetry, appendSeq⟩ := appendChunk_fields limits
    (claimNumber queue terminal opened baseSeq).1 queue.nextOrdinal output
  generalize appending : appendChunk limits (claimNumber queue terminal opened baseSeq).1
    queue.nextOrdinal output = appended at spec appendRetry appendSeq
  obtain ⟨split, count, bounded, added⟩ := spec
  obtain ⟨armRetry, armChunks, armChars, armDropped, armSeq⟩ := armFlush_fields limits
    (carryStatus appended.1 (strip status)) (strip status) autoschedule
  simp only [enqueuedState, opening, appending]
  have retry : (armFlush limits (carryStatus appended.1 (strip status)) (strip status)
      autoschedule).retry = opened.retry := by
    rw [armRetry, carryStatus_retry, appendRetry, claimRetry]
  have lastSeq : (armFlush limits (carryStatus appended.1 (strip status)) (strip status)
      autoschedule).lastSeq =
        if opened.lastSeq = 0 then max baseSeq (queue.seqFloor terminal) + 1
        else opened.lastSeq := by
    rw [armSeq, carryStatus_lastSeq, appendSeq, claimSeq]
  refine ⟨retry, ?_, ?_, lastSeq, ?_, ?_, ?_, ?_⟩
  · rw [armChunks, carryStatus_chunks, ← split, claimChunks]
  · rw [armDropped, carryStatus_dropped, added, claimDropped]
  · rw [armChars, armChunks, carryStatus_chars, carryStatus_chunks, count]
  · rw [armChars, carryStatus_chars]
    exact bounded
  · rw [retry]
    exact wellFormed.retry
  · intro unclaimed
    rw [lastSeq] at unclaimed
    split at unclaimed <;> omega

/-! ### One step -/

/-- What a step that is not an enqueue leaves behind. -/
structure Leaves (before after : World) (pending : Dict TerminalId PendingState)
    (writers : List Job) (inFlight : Nat) (events : List Event) : Prop where
  pending : after.queue.pending = pending
  writers : after.queue.writers = writers
  inFlight : after.queue.inFlight = inFlight
  log : after.log = before.log ++ events
  seqFloor : after.queue.seqFloor = before.queue.seqFloor
  nextOrdinal : after.queue.nextOrdinal = before.queue.nextOrdinal

def AllQuiet (events : List Event) : Prop := ∀ event ∈ events, event.quiet = true

inductive Move (limits : Limits) (before after : World) : Label → Prop where
  | enqueued {terminal : TerminalId} {output status : String} {baseSeq : Nat} {autoschedule : Bool}
      {events : List Event} (quiet : AllQuiet events)
      (pending : after.queue.pending = before.queue.pending.set terminal
        (enqueuedState limits before.queue terminal output status baseSeq autoschedule).1)
      (writers : after.queue.writers = before.queue.writers)
      (inFlight : after.queue.inFlight = before.queue.inFlight)
      (log : after.log = before.log ++ (appendEvents terminal before.queue.nextOrdinal output
        (enqueuedState limits before.queue terminal output status baseSeq autoschedule).2 ++ events))
      (seqFloor : after.queue.seqFloor = (claimNumber before.queue terminal
        ((before.queue.pending.get? terminal).getD (newPendingState 0)) baseSeq).2)
      (nextOrdinal : after.queue.nextOrdinal =
        if output = "" then before.queue.nextOrdinal else before.queue.nextOrdinal + 1) :
      Move limits before after (.enqueue terminal output status baseSeq autoschedule)
  | popped {label : Label} {me : Option TaskId} {terminal : TerminalId} {state : PendingState}
      (held : before.queue.pending.get? terminal = some state)
      (leaves : Leaves before after (before.queue.pending.erase terminal)
        (before.queue.writers ++ [Job.flush me terminal state.batches]) (before.queue.inFlight + 1)
        [.announced terminal state.dropped]) : Move limits before after label
  | committed {label : Label} {task : Option TaskId} {terminal : TerminalId} {batch : Batch}
      {rest : List Batch} {waiting : List Job} {events : List Event} (quiet : AllQuiet events)
      (holder : before.queue.writers = .flush task terminal (batch :: rest) :: waiting)
      (leaves : Leaves before after before.queue.pending (.flush task terminal rest :: waiting)
        before.queue.inFlight (events ++ [Event.committed terminal batch])) :
      Move limits before after label
  | skipped {label : Label} {task : Option TaskId} {terminal : TerminalId} {batch : Batch}
      {rest : List Batch} {waiting : List Job} (empty : batch.isEmpty = true)
      (holder : before.queue.writers = .flush task terminal (batch :: rest) :: waiting)
      (leaves : Leaves before after before.queue.pending (.flush task terminal rest :: waiting)
        before.queue.inFlight []) : Move limits before after label
  | handedBack {task : Option TaskId} {terminal : TerminalId} {batches : List Batch}
      {waiting : List Job} (holder : before.queue.writers = .flush task terminal batches :: waiting)
      (leaves : Leaves before after (requeueFront before.queue terminal batches).1.pending waiting
        (before.queue.inFlight - 1) (requeueFront before.queue terminal batches).2) :
      Move limits before after .raise
  | finished {label : Label} {task : Option TaskId} {terminal : TerminalId} {waiting : List Job}
      (holder : before.queue.writers = .flush task terminal [] :: waiting)
      (leaves : Leaves before after before.queue.pending waiting (before.queue.inFlight - 1) []) :
      Move limits before after label
  | joined {label : Label} {job : Job} (other : job.isFlush = false)
      (leaves : Leaves before after before.queue.pending (before.queue.writers ++ [job])
        before.queue.inFlight []) : Move limits before after label
  | left {label : Label} {job : Job} {waiting : List Job} {events : List Event}
      (quiet : AllQuiet events) (other : job.isFlush = false)
      (holder : before.queue.writers = job :: waiting)
      (leaves : Leaves before after before.queue.pending waiting before.queue.inFlight events) :
      Move limits before after label
  | idle {label : Label} {events : List Event} (quiet : AllQuiet events)
      (leaves : Leaves before after before.queue.pending before.queue.writers
        before.queue.inFlight events) : Move limits before after label

theorem allQuiet_nil : AllQuiet [] := by
  intro event member
  cases member

theorem storedEvents_quiet (terminal : TerminalId) (update : Option RowUpdate) :
    AllQuiet (storedEvents terminal update) := by
  intro event member
  simp only [storedEvents, Option.mem_toList, Option.map_eq_some_iff] at member
  obtain ⟨_, _, rfl⟩ := member
  rfl

theorem allQuiet_append {left right : List Event} (first : AllQuiet left) (second : AllQuiet right) :
    AllQuiet (left ++ right) := by
  intro event member
  rcases List.mem_append.mp member with inLeft | inRight
  · exact first event inLeft
  · exact second event inRight

theorem scheduleEvents_quiet (limits : Limits) (terminal : TerminalId) (claims : Bool)
    (state : PendingState) (status : String) (autoschedule : Bool) :
    AllQuiet (scheduleEvents limits terminal claims state status autoschedule) := by
  intro event member
  unfold scheduleEvents at member
  split at member
  · rcases List.mem_append.mp member with inLeft | inRight
    · split at inLeft <;> simp at inLeft
      subst inLeft
      rfl
    · repeat' split at inRight
      all_goals simp at inRight
      all_goals subst inRight; rfl
  · cases member

/-- What a post that is not refused leaves in the queue. -/
theorem enqueue_accepted (limits : Limits) (queue : Queue) {terminal : TerminalId}
    {output status : String} (baseSeq : Nat) (autoschedule : Bool)
    (accepted : ¬(terminal = "" ∨ (output = "" ∧ strip status = ""))) :
    (enqueue limits queue terminal output status baseSeq autoschedule).1.pending =
        queue.pending.set terminal
          (enqueuedState limits queue terminal output status baseSeq autoschedule).1 ∧
      (enqueue limits queue terminal output status baseSeq autoschedule).1.writers =
        queue.writers ∧
      ∃ events, AllQuiet events ∧
        (enqueue limits queue terminal output status baseSeq autoschedule).2.2 =
          appendEvents terminal queue.nextOrdinal output
            (enqueuedState limits queue terminal output status baseSeq autoschedule).2 ++ events := by
  unfold enqueue
  rw [if_neg accepted]
  exact ⟨rfl, rfl, _, scheduleEvents_quiet _ _ _ _ _ _, rfl⟩

theorem writeTerminalOutput_quiet (world : World) (row : Row) (terminal : TerminalId)
    (output status : String) (seq : Option Nat) (settle : Bool) (number now : Nat) :
    ∃ events, AllQuiet events ∧
      (writeTerminalOutput world row terminal output status seq settle number now).log =
        world.log ++ events := by
  refine ⟨_, ?_, List.append_assoc _ _ _⟩
  apply allQuiet_append (storedEvents_quiet _ _)
  split
  · exact allQuiet_nil
  · intro event member
    rw [List.mem_singleton.mp member]
    rfl

theorem flushTerminal_move (limits : Limits) (world : World) (me : Option TaskId)
    (terminal : TerminalId) (label : Label) :
    Move limits world (world.withQueue (flushTerminal world.queue me terminal)) label := by
  have popping : Move limits world
      (world.withQueue (flushTerminal.popState me terminal world.queue)) label := by
    unfold flushTerminal.popState
    split
    · exact .idle allQuiet_nil ⟨rfl, rfl, rfl, rfl, rfl, rfl⟩
    · rename_i state held
      exact .popped held ⟨rfl, rfl, rfl, rfl, rfl, rfl⟩
  unfold flushTerminal
  split
  · split
    · exact popping
    · exact .idle allQuiet_nil ⟨rfl, rfl, rfl, rfl, rfl, rfl⟩
  · exact popping

theorem stepTask_move {limits : Limits} {before after : World} {label : Label}
    (taken : stepTask before label = some after) : Move limits before after label := by
  cases label <;> simp only [stepTask, reduceCtorEq] at taken
  case timerFlush terminal =>
    cases taken
    exact .idle allQuiet_nil ⟨rfl, rfl, rfl, (List.append_nil _).symm, rfl, rfl⟩
  case startFlush id =>
    split at taken
    · cases taken
      exact flushTerminal_move limits before _ _ _
    · cases taken
  case directFlush terminal =>
    cases taken
    exact flushTerminal_move limits before _ _ _
  case joinedDone id =>
    split at taken
    · split at taken
      · cases taken
      · cases taken
        exact .idle allQuiet_nil ⟨rfl, rfl, rfl, (List.append_nil _).symm, rfl, rfl⟩
    · cases taken
  case taskDone id =>
    split at taken
    · cases taken
      exact .idle allQuiet_nil ⟨rfl, rfl, rfl, (List.append_nil _).symm, rfl, rfl⟩
    · cases taken

/-- What handing `batches` back makes of a terminal's state: they go before the
batches retried already, and the oldest over the count are `removed`. -/
structure Requeued (batches : List Batch) (opened state : PendingState)
    (removed : List RetryBatch) : Prop where
  lined : keptBatches batches ++ opened.retry = removed ++ state.retry
  bounded : state.retry.length ≤ maxRetryBatches
  dropped : state.dropped = opened.dropped + retryChars removed
  chunks : state.chunks = opened.chunks
  chars : state.chars = opened.chars
  lastSeq : state.lastSeq = opened.lastSeq

theorem Requeued.wellFormed {limits : Limits} {batches : List Batch} {opened state : PendingState}
    {removed : List RetryBatch} (requeued : Requeued batches opened state removed)
    (valid : opened.WellFormed limits) : state.WellFormed limits := by
  refine ⟨?_, ?_, requeued.bounded, ?_⟩
  · rw [requeued.chars, requeued.chunks]
    exact valid.chars
  · rw [requeued.chars]
    exact valid.bounded
  · rw [requeued.lastSeq, requeued.chunks]
    exact valid.numbered

/-- `_requeue_front` changes nothing when no batch holds bytes or a status. -/
theorem requeueFront_spec (queue : Queue) (terminal : TerminalId) (batches : List Batch) :
    ((requeueFront queue terminal batches).1.pending = queue.pending ∧
        (requeueFront queue terminal batches).2 = [] ∧ keptBatches batches = []) ∨
      ∃ removed state,
        (requeueFront queue terminal batches).1.pending = queue.pending.set terminal state ∧
        (requeueFront queue terminal batches).2 = (removed.map fun batch : RetryBatch =>
          Event.discarded terminal batch.output.chunks batch.output.text.length) ∧
        Requeued batches (openedState queue.pending terminal) state removed := by
  unfold requeueFront
  split
  · rename_i nothing
    exact .inl ⟨rfl, rfl, nothing.1⟩
  · right
    unfold openedState
    generalize (queue.pending.get? terminal).getD (newPendingState 0) = opened
    obtain ⟨split, bounded, added⟩ := bound_retry_spec (keptBatches batches ++ opened.retry)
      opened.dropped
    refine ⟨_, _, rfl, rfl, ?_, ?_, ?_, ?_, ?_, ?_⟩
    · rw [carryStatus_retry]
      exact split
    · rw [carryStatus_retry]
      exact bounded
    · rw [carryStatus_dropped]
      exact added
    · rw [carryStatus_chunks]
    · rw [carryStatus_chars]
    · rw [carryStatus_lastSeq]

theorem requeueFront_frame (queue : Queue) (terminal : TerminalId) (batches : List Batch) :
    (requeueFront queue terminal batches).1.inFlight = queue.inFlight ∧
      (requeueFront queue terminal batches).1.seqFloor = queue.seqFloor ∧
      (requeueFront queue terminal batches).1.nextOrdinal = queue.nextOrdinal := by
  unfold requeueFront
  split <;> exact ⟨rfl, rfl, rfl⟩

theorem handBack_move (limits : Limits) (world : World) (task : Option TaskId)
    (terminal : TerminalId) (batches : List Batch) (waiting : List Job)
    (holder : world.queue.writers = .flush task terminal batches :: waiting) :
    Move limits world (handBack world task terminal batches waiting) .raise := by
  obtain ⟨inFlight, seqFloor, nextOrdinal⟩ := requeueFront_frame world.queue terminal batches
  refine .handedBack holder ⟨rfl, rfl, ?_, rfl, seqFloor, nextOrdinal⟩
  exact congrArg (· - 1) inFlight

theorem commitBatch_move (limits : Limits) (world : World) (row : Row) (now : Nat)
    (task : Option TaskId) (terminal : TerminalId) (batch : Batch) (rest : List Batch)
    (waiting : List Job) (label : Label)
    (holder : world.queue.writers = .flush task terminal (batch :: rest) :: waiting) :
    Move limits world (commitBatch world row now task terminal batch rest waiting) label := by
  obtain ⟨events, quiet, log⟩ := writeTerminalOutput_quiet world row terminal batch.output.text
    batch.status (some batch.seq) false batch.seq now
  refine .committed quiet holder ⟨rfl, rfl, rfl, ?_, rfl, rfl⟩
  simp only [commitBatch, log, List.append_assoc]

theorem stepHolder_move {limits : Limits} {before after : World} {holder : Job}
    {waiting : List Job} {label : Label} (held : before.queue.writers = holder :: waiting)
    (taken : stepHolder before holder waiting label = some after) :
    Move limits before after label := by
  cases label <;> simp only [stepHolder, reduceCtorEq] at taken
  case skip =>
    split at taken
    · split at taken
      · rename_i empty
        cases taken
        exact .skipped empty held ⟨rfl, rfl, rfl, (List.append_nil _).symm, rfl, rfl⟩
      · cases taken
    · cases taken
  case select =>
    split at taken
    · split at taken
      · cases taken
      · cases taken
        exact .idle allQuiet_nil ⟨rfl, rfl, rfl, (List.append_nil _).symm, rfl, rfl⟩
    · split at taken
      · cases taken
        exact .left allQuiet_nil rfl held ⟨rfl, rfl, rfl, (List.append_nil _).symm, rfl, rfl⟩
      · cases taken
        exact .idle allQuiet_nil ⟨rfl, rfl, rfl, (List.append_nil _).symm, rfl, rfl⟩
    · cases taken
  case write now =>
    split at taken
    · cases taken
      exact commitBatch_move limits before _ now _ _ _ _ waiting _ held
    · cases taken
      obtain ⟨events, quiet, log⟩ := writeTerminalOutput_quiet before _ _ "" "" _ true 0 now
      exact .left quiet rfl held ⟨rfl, rfl, rfl, log, rfl, rfl⟩
    · cases taken
  case raise =>
    split at taken
    · split at taken
      · cases taken
      · cases taken
        exact handBack_move limits before _ _ _ waiting held
    · cases taken
      exact .left allQuiet_nil rfl held ⟨rfl, rfl, rfl, (List.append_nil _).symm, rfl, rfl⟩
    · cases taken
      exact .left allQuiet_nil rfl held ⟨rfl, rfl, rfl, (List.append_nil _).symm, rfl, rfl⟩
    · cases taken
  case finish =>
    split at taken
    · cases taken
      exact .finished held ⟨rfl, rfl, rfl, (List.append_nil _).symm, rfl, rfl⟩
    · cases taken
  case append now =>
    split at taken
    · cases taken
      exact .left allQuiet_nil rfl held ⟨rfl, rfl, rfl, (List.append_nil _).symm, rfl, rfl⟩
    · cases taken

theorem stepCaller_move {limits : Limits} {before after : World} {label : Label}
    (taken : stepCaller before label = some after) : Move limits before after label := by
  cases label <;> simp only [stepCaller, reduceCtorEq] at taken
  case settle terminal seen =>
    split at taken
    · cases taken
      exact .joined rfl ⟨rfl, rfl, rfl, (List.append_nil _).symm, rfl, rfl⟩
    · cases taken
      exact .idle allQuiet_nil ⟨rfl, rfl, rfl, (List.append_nil _).symm, rfl, rfl⟩
  case outside terminal output status ownStatus =>
    split at taken
    · cases taken
      exact .joined rfl ⟨rfl, rfl, rfl, (List.append_nil _).symm, rfl, rfl⟩
    · cases taken
  case commit =>
    split at taken
    · cases taken
      exact .idle (storedEvents_quiet _ _) ⟨rfl, rfl, rfl, rfl, rfl, rfl⟩
    · cases taken
  case rollback =>
    split at taken
    · cases taken
      exact .idle allQuiet_nil ⟨rfl, rfl, rfl, (List.append_nil _).symm, rfl, rfl⟩
    · cases taken

theorem enqueue_move (limits : Limits) (world : World) (terminal : TerminalId)
    (output status : String) (baseSeq : Nat) (autoschedule : Bool) :
    Move limits world (world.withQueue
        ((enqueue limits world.queue terminal output status baseSeq autoschedule).1,
          (enqueue limits world.queue terminal output status baseSeq autoschedule).2.2))
      (.enqueue terminal output status baseSeq autoschedule) := by
  unfold enqueue
  dsimp only
  split
  · exact .idle allQuiet_nil ⟨rfl, rfl, rfl, rfl, rfl, rfl⟩
  · exact .enqueued (scheduleEvents_quiet _ _ _ _ _ _) rfl rfl rfl rfl rfl rfl

theorem step_move {limits : Limits} {before after : World} {label : Label}
    (taken : step limits before label = some after) : Move limits before after label := by
  have holderStep : ∀ (holder : Job) (waiting : List Job),
      before.queue.writers = holder :: waiting →
      stepHolder before holder waiting label = some after → Move limits before after label :=
    fun _ _ held taken => stepHolder_move held taken
  cases label with
  | enqueue terminal output status baseSeq autoschedule =>
      cases taken
      exact enqueue_move limits before terminal output status baseSeq autoschedule
  | timerFlush | startFlush | directFlush | joinedDone | taskDone => exact stepTask_move taken
  | skip | select | write | raise | finish | append =>
      simp only [step] at taken
      split at taken
      · cases taken
      · rename_i held
        exact holderStep _ _ held taken
  | settle | outside | commit | rollback => exact stepCaller_move taken

end AifyComms.TerminalWriteQueue
