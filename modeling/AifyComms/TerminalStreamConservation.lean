import AifyComms.TerminalQueueMoves

/-!
Every accepted chunk is in exactly one place. Over any run of the queue a chunk
is pending, in one handed-back batch, in one popped batch, in one committed
write, or discarded by a bound that counted its length.
-/

namespace AifyComms.TerminalWriteQueue
open PyText TerminalOutput Runs

def PendingState.retryChunks (state : PendingState) : List Chunk :=
  state.retry.flatMap fun batch => batch.output.chunks

theorem batches_chunks (state : PendingState) :
    chunksOf state.batches = state.retryChunks ++ state.chunks := by
  simp [PendingState.batches, PendingState.retryChunks, chunksOf, List.flatMap_map]

theorem chunks_nil_of_text (output : Output) (nonempty : ∀ chunk ∈ output.chunks, chunk.text ≠ "")
    (blank : output.text = "") : output.chunks = [] := by
  have count := output_length output
  rw [blank, String.length_empty] at count
  cases listed : output.chunks with
  | nil => rfl
  | cons chunk rest =>
      rw [listed, totalChars_cons] at count
      have short : chunk.text.length = 0 := by omega
      have present : chunk ∈ output.chunks := listed ▸ List.mem_cons_self
      exact absurd (String.length_eq_zero_iff.mp short) (nonempty chunk present)

def ordinalOf : Event → List Nat
  | .accepted _ chunk => [chunk.ordinal]
  | _ => []

def World.ordinals (world : World) : List Nat := world.log.flatMap ordinalOf

/-- Accepted posts are numbered in the order they were accepted. -/
structure Numbered (world : World) : Prop where
  increasing : world.ordinals.Pairwise (· < ·)
  bounded : ∀ ordinal ∈ world.ordinals, ordinal < world.queue.nextOrdinal
  nonempty : ∀ terminal, ∀ chunk ∈ world.accepted terminal, chunk.text ≠ ""

/-- The places of a terminal's chunks, the count its bounds keep, and the shape
of its pending state. -/
structure Conserved (limits : Limits) (world : World) : Prop where
  wellFormed : ∀ terminal state, world.queue.pending.get? terminal = some state →
    state.WellFormed limits
  places : ∀ terminal chunk, (world.accepted terminal).count chunk =
    (chunksOf (world.committed terminal)).count chunk +
      (chunksOf (world.popped terminal)).count chunk +
      (chunksOf (retained world.queue.pending terminal)).count chunk +
      (world.discarded terminal).count chunk
  counted : ∀ terminal, (world.log.map (discardedChars terminal)).sum =
    droppedCount world.queue.pending terminal + (world.log.map (announcedChars terminal)).sum
  lengths : ∀ terminal chunks chars, Event.discarded terminal chunks chars ∈ world.log →
    totalChars chunks ≤ chars
  inFlight : world.queue.inFlight = (world.queue.writers.filter Job.isFlush).length

/-! ### Ordinals -/

theorem quiet_ordinals {events : List Event} (quiet : AllQuiet events) :
    events.flatMap ordinalOf = [] := by
  apply List.flatMap_eq_nil_iff.mpr
  intro event member
  have := quiet event member
  cases event <;> simp_all [Event.quiet, ordinalOf]

theorem appendEvents_ordinals (terminal : TerminalId) (ordinal : Nat) (text : String)
    (discarded : List Chunk) :
    (appendEvents terminal ordinal text discarded).flatMap ordinalOf =
      if text = "" then [] else [ordinal] := by
  unfold appendEvents
  rw [List.flatMap_append, List.flatMap_map]
  by_cases blank : text = "" <;> simp [blank, ordinalOf]

theorem appendEvents_accepted (terminal : TerminalId) (ordinal : Nat) (text : String)
    (discarded : List Chunk) (other : TerminalId) :
    (appendEvents terminal ordinal text discarded).flatMap (acceptedBy other) =
      if terminal = other ∧ text ≠ "" then [⟨ordinal, text⟩] else [] := by
  unfold appendEvents
  rw [List.flatMap_append, List.flatMap_map]
  by_cases blank : text = "" <;> by_cases same : terminal = other <;>
    simp [blank, same, acceptedBy]

theorem requeueFront_events (queue : Queue) (terminal : TerminalId) (batches : List Batch) :
    ∃ removed : List RetryBatch, (requeueFront queue terminal batches).2 = removed.map
      fun batch => Event.discarded terminal batch.output.chunks batch.output.text.length := by
  rcases requeueFront_spec queue terminal batches with ⟨_, none, _⟩ | ⟨removed, _, _, events, _⟩
  · exact ⟨[], none⟩
  · exact ⟨removed, events⟩

theorem discards_accept_nothing (terminal : TerminalId) (removed : List RetryBatch)
    (other : TerminalId) :
    (removed.map fun batch => Event.discarded terminal batch.output.chunks
        batch.output.text.length).flatMap ordinalOf = [] ∧
      (removed.map fun batch => Event.discarded terminal batch.output.chunks
        batch.output.text.length).flatMap (acceptedBy other) = [] := by
  constructor <;> rw [List.flatMap_map] <;> exact List.flatMap_eq_nil_iff.mpr fun _ _ => rfl

/-- A step either accepts one chunk, numbered next, or accepts none. -/
theorem move_accepts {limits : Limits} {before after : World} {label : Label}
    (move : Move limits before after label) :
    (∃ terminal text, text ≠ "" ∧ after.ordinals = before.ordinals ++ [before.queue.nextOrdinal] ∧
        after.queue.nextOrdinal = before.queue.nextOrdinal + 1 ∧
        ∀ other, after.accepted other = before.accepted other ++
          if terminal = other then [⟨before.queue.nextOrdinal, text⟩] else []) ∨
      (after.ordinals = before.ordinals ∧
        after.queue.nextOrdinal = before.queue.nextOrdinal ∧
        ∀ other, after.accepted other = before.accepted other) := by
  have unchanged : ∀ {events : List Event}, after.log = before.log ++ events →
      events.flatMap ordinalOf = [] → (∀ other, events.flatMap (acceptedBy other) = []) →
      after.queue.nextOrdinal = before.queue.nextOrdinal →
      after.ordinals = before.ordinals ∧ after.queue.nextOrdinal = before.queue.nextOrdinal ∧
        ∀ other, after.accepted other = before.accepted other := by
    intro events log noOrdinal noChunk same
    refine ⟨?_, same, fun other => ?_⟩
    · simp [World.ordinals, log, noOrdinal]
    · simp [World.accepted, log, noChunk other]
  have silent : ∀ {events : List Event}, AllQuiet events → after.log = before.log ++ events →
      after.queue.nextOrdinal = before.queue.nextOrdinal →
      after.ordinals = before.ordinals ∧ after.queue.nextOrdinal = before.queue.nextOrdinal ∧
        ∀ other, after.accepted other = before.accepted other :=
    fun quiet log same => unchanged log (quiet_ordinals quiet)
      (fun other => (quiet_views quiet other).1) same
  cases move with
  | @enqueued terminal output status baseSeq autoschedule events quiet _ _ _ log _ nextOrdinal =>
      by_cases blank : output = ""
      · right
        apply unchanged log
        · simp [appendEvents_ordinals, quiet_ordinals quiet, blank]
        · intro other
          simp [appendEvents_accepted, (quiet_views quiet other).1, blank]
        · simpa [blank] using nextOrdinal
      · left
        refine ⟨terminal, output, blank, ?_, ?_, fun other => ?_⟩
        · simp [World.ordinals, log, appendEvents_ordinals, quiet_ordinals quiet, blank]
        · simpa [blank] using nextOrdinal
        · simp [World.accepted, log, appendEvents_accepted, (quiet_views quiet other).1, blank]
  | popped _ leaves =>
      exact .inr (unchanged leaves.log rfl (fun _ => rfl) leaves.nextOrdinal)
  | committed quiet _ leaves =>
      right
      apply unchanged leaves.log _ _ leaves.nextOrdinal
      · simp [quiet_ordinals quiet, ordinalOf]
      · intro other
        simp [(quiet_views quiet other).1, acceptedBy]
  | skipped _ _ leaves => exact .inr (silent allQuiet_nil leaves.log leaves.nextOrdinal)
  | @handedBack _ terminal batches _ _ leaves =>
      obtain ⟨removed, events⟩ := requeueFront_events before.queue terminal batches
      have log := leaves.log
      rw [events] at log
      exact .inr (unchanged log (discards_accept_nothing terminal removed terminal).1
        (fun other => (discards_accept_nothing terminal removed other).2) leaves.nextOrdinal)
  | finished _ leaves => exact .inr (silent allQuiet_nil leaves.log leaves.nextOrdinal)
  | joined _ leaves => exact .inr (silent allQuiet_nil leaves.log leaves.nextOrdinal)
  | left quiet _ _ leaves => exact .inr (silent quiet leaves.log leaves.nextOrdinal)
  | idle quiet leaves => exact .inr (silent quiet leaves.log leaves.nextOrdinal)

theorem move_numbered {limits : Limits} {before after : World} {label : Label}
    (move : Move limits before after label) (numbered : Numbered before) : Numbered after := by
  rcases move_accepts move with ⟨terminal, text, filled, ordinals, next, accepted⟩ |
    ⟨ordinals, next, accepted⟩
  · refine ⟨?_, ?_, ?_⟩
    · rw [ordinals, List.pairwise_append]
      refine ⟨numbered.increasing, List.pairwise_singleton _ _, ?_⟩
      intro earlier member latest last
      rw [List.mem_singleton.mp last]
      exact numbered.bounded earlier member
    · intro ordinal member
      rw [ordinals] at member
      rw [next]
      rcases List.mem_append.mp member with earlier | last
      · exact Nat.lt_succ_of_lt (numbered.bounded ordinal earlier)
      · rw [List.mem_singleton.mp last]
        exact Nat.lt_succ_self _
    · intro other chunk member
      rw [accepted other] at member
      rcases List.mem_append.mp member with earlier | last
      · exact numbered.nonempty other chunk earlier
      · split at last
        · rw [List.mem_singleton.mp last]
          exact filled
        · cases last
  · refine ⟨ordinals ▸ numbered.increasing, ?_, ?_⟩
    · intro ordinal member
      rw [ordinals] at member
      exact next ▸ numbered.bounded ordinal member
    · intro other chunk member
      exact numbered.nonempty other chunk (accepted other ▸ member)

/-! ### Places -/

theorem retained_chunks (pending : Dict TerminalId PendingState) (terminal : TerminalId) :
    chunksOf (retained pending terminal) =
      (openedState pending terminal).retryChunks ++ (openedState pending terminal).chunks := by
  unfold retained openedState
  cases pending.get? terminal with
  | none => rfl
  | some state => exact batches_chunks state

theorem droppedCount_opened (pending : Dict TerminalId PendingState) (terminal : TerminalId) :
    droppedCount pending terminal = (openedState pending terminal).dropped := by
  unfold droppedCount openedState
  cases pending.get? terminal <;> rfl

theorem openedState_set (pending : Dict TerminalId PendingState) (terminal other : TerminalId)
    (state : PendingState) : openedState (pending.set terminal state) other =
      if terminal = other then state else openedState pending other := by
  unfold openedState
  rw [Dict.get?_set]
  by_cases same : terminal = other <;> simp [same]

theorem kept_chunks (batches : List Batch)
    (nonempty : ∀ chunk ∈ chunksOf batches, chunk.text ≠ "") :
    (keptBatches batches).flatMap (fun batch => batch.output.chunks) = chunksOf batches := by
  induction batches with
  | nil => rfl
  | cons batch rest ih =>
      have tail := ih fun chunk member =>
        nonempty chunk (List.mem_append_right _ member)
      have head : batch.output.text = "" → batch.output.chunks = [] :=
        chunks_nil_of_text batch.output fun chunk member =>
          nonempty chunk (List.mem_append_left _ member)
      by_cases blank : batch.output.text = ""
      · simpa [keptBatches, blank, head blank] using tail
      · simpa [keptBatches, blank] using tail

/-- Handing back moves chunks between the retried and the removed batches only. -/
theorem Requeued.moved {batches : List Batch} {opened state : PendingState}
    {removed : List RetryBatch} (requeued : Requeued batches opened state removed)
    (nonempty : ∀ chunk ∈ chunksOf batches, chunk.text ≠ "") (chunk : Chunk) :
    (chunksOf batches).count chunk + opened.retryChunks.count chunk =
      (removed.flatMap fun batch => batch.output.chunks).count chunk +
        state.retryChunks.count chunk := by
  have flattened := congrArg
    (fun line => (line.flatMap fun batch : RetryBatch => batch.output.chunks).count chunk)
    requeued.lined
  simpa [kept_chunks batches nonempty, PendingState.retryChunks] using flattened

/-- Every chunk of a batch in line was accepted, so its text is not empty. -/
theorem placed_nonempty {limits : Limits} {world : World} (numbered : Numbered world)
    (conserved : Conserved limits world) (terminal : TerminalId) (chunk : Chunk)
    (member : chunk ∈ chunksOf (world.popped terminal)) : chunk.text ≠ "" := by
  apply numbered.nonempty terminal
  have present := List.count_pos_iff.mpr member
  have balance := conserved.places terminal chunk
  exact List.count_pos_iff.mp (by omega)

theorem appendEvents_discarded (terminal : TerminalId) (ordinal : Nat) (text : String)
    (discarded : List Chunk) (other : TerminalId) :
    (appendEvents terminal ordinal text discarded).flatMap (discardedFrom other) =
      if terminal = other then discarded else [] := by
  unfold appendEvents
  rw [List.flatMap_append, List.flatMap_map]
  by_cases blank : text = "" <;> by_cases same : terminal = other <;>
    simp [blank, same, discardedFrom]

theorem appendEvents_chars (terminal : TerminalId) (ordinal : Nat) (text : String)
    (discarded : List Chunk) (other : TerminalId) :
    ((appendEvents terminal ordinal text discarded).map (discardedChars other)).sum =
      if terminal = other then totalChars discarded else 0 := by
  by_cases blank : text = "" <;> by_cases same : terminal = other <;>
    simp [appendEvents, blank, same, discardedChars, totalChars, Function.comp_def]

theorem appendEvents_others (terminal : TerminalId) (ordinal : Nat) (text : String)
    (discarded : List Chunk) (other : TerminalId) :
    ((appendEvents terminal ordinal text discarded).map (announcedChars other)).sum = 0 ∧
      (appendEvents terminal ordinal text discarded).flatMap (committedFor other) = [] := by
  by_cases blank : text = "" <;>
    simp [appendEvents, blank, announcedChars, committedFor, List.flatMap_map, Function.comp_def]

theorem discards_views (terminal : TerminalId) (removed : List RetryBatch) (other : TerminalId) :
    (removed.map fun batch => Event.discarded terminal batch.output.chunks
        batch.output.text.length).flatMap (discardedFrom other) =
        (if terminal = other then removed.flatMap fun batch => batch.output.chunks else []) ∧
      ((removed.map fun batch => Event.discarded terminal batch.output.chunks
        batch.output.text.length).map (discardedChars other)).sum =
        (if terminal = other then retryChars removed else 0) ∧
      ((removed.map fun batch => Event.discarded terminal batch.output.chunks
        batch.output.text.length).map (announcedChars other)).sum = 0 ∧
      (removed.map fun batch => Event.discarded terminal batch.output.chunks
        batch.output.text.length).flatMap (committedFor other) = [] := by
  by_cases same : terminal = other <;>
    simp [List.flatMap_map, discardedFrom, discardedChars, announcedChars, committedFor, same,
      retryChars, Function.comp_def]

/-! ### One step -/

theorem opened_wellFormed {limits : Limits} {world : World} (conserved : Conserved limits world)
    (terminal : TerminalId) : (openedState world.queue.pending terminal).WellFormed limits := by
  unfold openedState
  cases held : world.queue.pending.get? terminal with
  | none => exact newPendingState_wellFormed limits 0
  | some state => exact conserved.wellFormed terminal state held

theorem set_wellFormed {limits : Limits} {world : World} {terminal : TerminalId}
    {state : PendingState} (conserved : Conserved limits world) (valid : state.WellFormed limits) :
    ∀ other found, (world.queue.pending.set terminal state).get? other = some found →
      found.WellFormed limits := by
  intro other found present
  rw [Dict.get?_set] at present
  split at present
  · exact Option.some.inj present ▸ valid
  · exact conserved.wellFormed other found present

/-- A step that moves no chunk and drops nothing. -/
theorem conserved_frame {limits : Limits} {before after : World} {events : List Event}
    (conserved : Conserved limits before) (quiet : AllQuiet events)
    (pending : after.queue.pending = before.queue.pending)
    (log : after.log = before.log ++ events)
    (popped : ∀ terminal, chunksOf (after.popped terminal) = chunksOf (before.popped terminal))
    (inFlight : after.queue.inFlight = (after.queue.writers.filter Job.isFlush).length) :
    Conserved limits after := by
  refine ⟨?_, ?_, ?_, ?_, inFlight⟩
  · rw [pending]
    exact conserved.wellFormed
  · intro terminal chunk
    obtain ⟨accepted, discarded, _, _, committed⟩ := quiet_views quiet terminal
    have balance := conserved.places terminal chunk
    simp only [World.accepted, World.committed, World.discarded] at balance ⊢
    rw [log, pending, popped]
    simpa [accepted, discarded, committed] using balance
  · intro terminal
    obtain ⟨_, _, discarded, announced, _⟩ := quiet_views quiet terminal
    rw [log, pending]
    simpa [discarded, announced] using conserved.counted terminal
  · intro terminal chunks chars member
    rw [log] at member
    rcases List.mem_append.mp member with earlier | added
    · exact conserved.lengths terminal chunks chars earlier
    · exact absurd (quiet _ added) (by simp [Event.quiet])

theorem enqueued_conserved {limits : Limits} {before after : World} {terminal : TerminalId}
    {output status : String} {baseSeq : Nat} {autoschedule : Bool} {events : List Event}
    (conserved : Conserved limits before) (quiet : AllQuiet events)
    (pending : after.queue.pending = before.queue.pending.set terminal
      (enqueuedState limits before.queue terminal output status baseSeq autoschedule).1)
    (writers : after.queue.writers = before.queue.writers)
    (inFlight : after.queue.inFlight = before.queue.inFlight)
    (log : after.log = before.log ++ (appendEvents terminal before.queue.nextOrdinal output
      (enqueuedState limits before.queue terminal output status baseSeq autoschedule).2 ++ events)) :
    Conserved limits after := by
  have spec := enqueued_state_spec limits before.queue terminal output status baseSeq autoschedule
    (opened_wellFormed conserved terminal)
  generalize enqueuedState limits before.queue terminal output status baseSeq autoschedule =
    result at spec pending log
  refine ⟨?_, ?_, ?_, ?_, ?_⟩
  · rw [pending]
    exact set_wellFormed conserved spec.wellFormed
  · intro other chunk
    obtain ⟨accepted, discarded, _, _, committed⟩ := quiet_views quiet other
    have balance := conserved.places other chunk
    have moved := congrArg (List.count chunk) spec.chunks
    simp only [World.accepted, World.committed, World.discarded, World.popped] at balance ⊢
    rw [log, writers, pending]
    simp only [List.flatMap_append, List.count_append, accepted, discarded, committed,
      appendEvents_accepted, appendEvents_discarded, (appendEvents_others _ _ _ _ _).2,
      retained_chunks, openedState_set] at balance moved ⊢
    by_cases same : terminal = other
    · subst same
      by_cases blank : output = "" <;>
        simp [blank, PendingState.retryChunks, spec.retry] at balance moved ⊢ <;> omega
    · simpa [same] using balance
  · intro other
    obtain ⟨_, _, discarded, announced, _⟩ := quiet_views quiet other
    have count := conserved.counted other
    rw [log, pending]
    simp only [List.map_append, List.sum_append, discarded, announced, appendEvents_chars,
      (appendEvents_others _ _ _ _ _).1, droppedCount_opened, openedState_set] at count ⊢
    by_cases same : terminal = other
    · subst same
      simp only [if_true, spec.dropped]
      omega
    · simpa [same] using count
  · intro other chunks chars member
    rw [log] at member
    rcases List.mem_append.mp member with earlier | added
    · exact conserved.lengths other chunks chars earlier
    rcases List.mem_append.mp added with appended | silent
    · unfold appendEvents at appended
      by_cases blank : output = "" <;> simp [blank] at appended <;>
        obtain ⟨chunk, _, _, rfl, rfl⟩ := appended <;> simp
    · exact absurd (quiet _ silent) (by simp [Event.quiet])
  · rw [inFlight, writers]
    exact conserved.inFlight

theorem popped_conserved {limits : Limits} {before after : World} {me : Option TaskId}
    {terminal : TerminalId} {state : PendingState} (conserved : Conserved limits before)
    (held : before.queue.pending.get? terminal = some state)
    (leaves : Leaves before after (before.queue.pending.erase terminal)
      (before.queue.writers ++ [Job.flush me terminal state.batches]) (before.queue.inFlight + 1)
      [.announced terminal state.dropped]) : Conserved limits after := by
  have current : retained before.queue.pending terminal = state.batches := by
    simp [retained, held]
  have count : droppedCount before.queue.pending terminal = state.dropped := by
    simp [droppedCount, held]
  refine ⟨?_, ?_, ?_, ?_, ?_⟩
  · intro other found present
    rw [leaves.pending, Dict.get?_erase] at present
    split at present
    · cases present
    · exact conserved.wellFormed other found present
  · intro other chunk
    have balance := conserved.places other chunk
    simp only [World.accepted, World.committed, World.discarded, World.popped] at balance ⊢
    rw [leaves.log, leaves.pending, leaves.writers, retained_erase]
    by_cases same : terminal = other
    · subst same
      rw [current] at balance
      simp [acceptedBy, discardedFrom, committedFor, Job.poppedFor] at balance ⊢
      omega
    · simpa [acceptedBy, discardedFrom, committedFor, Job.poppedFor, same] using balance
  · intro other
    have balance := conserved.counted other
    rw [leaves.log, leaves.pending, droppedCount_erase]
    by_cases same : terminal = other
    · subst same
      rw [count] at balance
      simp [discardedChars, announcedChars] at balance ⊢
      omega
    · simpa [discardedChars, announcedChars, same] using balance
  · intro other chunks chars member
    rw [leaves.log] at member
    simp only [List.mem_append, List.mem_singleton, reduceCtorEq, or_false] at member
    exact conserved.lengths other chunks chars member
  · rw [leaves.inFlight, leaves.writers, conserved.inFlight]
    simp [List.filter_cons, Job.isFlush]

theorem committed_conserved {limits : Limits} {before after : World} {task : Option TaskId}
    {terminal : TerminalId} {batch : Batch} {rest : List Batch} {waiting : List Job}
    {events : List Event} (conserved : Conserved limits before) (quiet : AllQuiet events)
    (holder : before.queue.writers = .flush task terminal (batch :: rest) :: waiting)
    (leaves : Leaves before after before.queue.pending (.flush task terminal rest :: waiting)
      before.queue.inFlight (events ++ [Event.committed terminal batch])) :
    Conserved limits after := by
  refine ⟨?_, ?_, ?_, ?_, ?_⟩
  · rw [leaves.pending]
    exact conserved.wellFormed
  · intro other chunk
    obtain ⟨accepted, discarded, _, _, committed⟩ := quiet_views quiet other
    have balance := conserved.places other chunk
    simp only [World.accepted, World.committed, World.discarded, World.popped] at balance ⊢
    rw [leaves.log, leaves.pending, leaves.writers]
    rw [holder] at balance
    by_cases same : terminal = other
    · simp [same, accepted, discarded, committed, acceptedBy, discardedFrom, committedFor,
        Job.poppedFor] at balance ⊢
      omega
    · simpa [same, accepted, discarded, committed, acceptedBy, discardedFrom, committedFor,
        Job.poppedFor] using balance
  · intro other
    obtain ⟨_, _, discarded, announced, _⟩ := quiet_views quiet other
    rw [leaves.log, leaves.pending]
    simpa [discarded, announced, discardedChars, announcedChars] using conserved.counted other
  · intro other chunks chars member
    rw [leaves.log] at member
    simp only [List.mem_append, List.mem_singleton, reduceCtorEq, or_false] at member
    rcases member with earlier | added
    · exact conserved.lengths other chunks chars earlier
    · exact absurd (quiet _ added) (by simp [Event.quiet])
  · rw [leaves.inFlight, leaves.writers, conserved.inFlight, holder]
    simp [List.filter_cons, Job.isFlush]

theorem handedBack_conserved {limits : Limits} {before after : World} {task : Option TaskId}
    {terminal : TerminalId} {batches : List Batch} {waiting : List Job} (numbered : Numbered before)
    (conserved : Conserved limits before)
    (holder : before.queue.writers = .flush task terminal batches :: waiting)
    (leaves : Leaves before after (requeueFront before.queue terminal batches).1.pending waiting
      (before.queue.inFlight - 1) (requeueFront before.queue terminal batches).2) :
    Conserved limits after := by
  have popped (other : TerminalId) : before.popped other =
      (if terminal = other then batches else []) ++ after.popped other := by
    rw [popped_holder holder, World.popped, leaves.writers]
  have nonempty : ∀ chunk ∈ chunksOf batches, chunk.text ≠ "" := by
    intro chunk member
    apply placed_nonempty numbered conserved terminal
    rw [popped terminal]
    simp [member]
  have inFlight : after.queue.inFlight = (after.queue.writers.filter Job.isFlush).length := by
    rw [leaves.inFlight, leaves.writers, conserved.inFlight, holder]
    simp [List.filter_cons, Job.isFlush]
  rcases requeueFront_spec before.queue terminal batches with
    ⟨samePending, none, nothing⟩ | ⟨removed, state, pending, events, requeued⟩
  · -- No batch holds bytes, so the popped ones leave without taking a chunk along.
    have empty : chunksOf batches = [] := by
      rw [← kept_chunks batches nonempty, nothing]
      rfl
    apply conserved_frame conserved allQuiet_nil (leaves.pending.trans samePending)
      (none ▸ leaves.log) _ inFlight
    intro other
    rw [popped other]
    by_cases same : terminal = other <;> simp [same, empty]
  · have log := events ▸ leaves.log
    refine ⟨?_, ?_, ?_, ?_, inFlight⟩
    · rw [leaves.pending, pending]
      exact set_wellFormed conserved (requeued.wellFormed (opened_wellFormed conserved terminal))
    · intro other chunk
      obtain ⟨discarded, _, _, committed⟩ := discards_views terminal removed other
      have accepted := (discards_accept_nothing terminal removed other).2
      have balance := conserved.places other chunk
      have moved := requeued.moved nonempty chunk
      rw [popped other] at balance
      simp only [World.accepted, World.committed, World.discarded] at balance ⊢
      rw [log, leaves.pending, pending]
      simp only [List.flatMap_append, List.count_append, chunksOf_append, discarded, committed,
        accepted, List.count_nil, chunksOf_nil, retained_chunks, openedState_set] at balance ⊢
      by_cases same : terminal = other
      · subst same
        simp only [if_true, requeued.chunks] at balance ⊢
        omega
      · simpa [same] using balance
    · intro other
      obtain ⟨_, discarded, announced, _⟩ := discards_views terminal removed other
      have balance := conserved.counted other
      rw [log, leaves.pending, pending]
      simp only [List.map_append, List.sum_append, discarded, announced, droppedCount_opened,
        openedState_set] at balance ⊢
      by_cases same : terminal = other
      · subst same
        simp only [if_true, requeued.dropped]
        omega
      · simpa [same] using balance
    · intro other lost count member
      rw [log] at member
      rcases List.mem_append.mp member with earlier | added
      · exact conserved.lengths other lost count earlier
      · obtain ⟨batch, _, same⟩ := List.mem_map.mp added
        cases same
        rw [output_length]
        omega

theorem move_conserved {limits : Limits} {before after : World} {label : Label}
    (move : Move limits before after label) (numbered : Numbered before)
    (conserved : Conserved limits before) : Conserved limits after := by
  cases move with
  | enqueued quiet pending writers inFlight log _ _ =>
      exact enqueued_conserved conserved quiet pending writers inFlight log
  | popped held leaves => exact popped_conserved conserved held leaves
  | committed quiet holder leaves => exact committed_conserved conserved quiet holder leaves
  | @skipped _ task terminal batch rest waiting empty holder leaves =>
      have blank : batch.output.text = "" := by
        simp only [Batch.isEmpty, Bool.and_eq_true, decide_eq_true_eq] at empty
        exact empty.1
      have noChunk : batch.output.chunks = [] := by
        apply chunks_nil_of_text batch.output _ blank
        intro chunk member
        apply placed_nonempty numbered conserved terminal
        simp [World.popped, holder, Job.poppedFor, member]
      apply conserved_frame conserved allQuiet_nil leaves.pending leaves.log
      · intro other
        by_cases same : terminal = other <;>
          simp [World.popped, leaves.writers, holder, Job.poppedFor, same, noChunk]
      · rw [leaves.inFlight, leaves.writers, conserved.inFlight, holder]
        simp [List.filter_cons, Job.isFlush]
  | handedBack holder leaves => exact handedBack_conserved numbered conserved holder leaves
  | finished holder leaves =>
      apply conserved_frame conserved allQuiet_nil leaves.pending leaves.log
      · intro other
        simp [World.popped, leaves.writers, holder, Job.poppedFor]
      · rw [leaves.inFlight, leaves.writers, conserved.inFlight, holder]
        simp [List.filter_cons, Job.isFlush]
  | @joined _ job other leaves =>
      have carriesNone : ∀ terminal, job.poppedFor terminal = [] := by
        intro terminal
        cases job <;> simp_all [Job.isFlush, Job.poppedFor]
      apply conserved_frame conserved allQuiet_nil leaves.pending leaves.log
      · intro terminal
        simp [World.popped, leaves.writers, carriesNone]
      · rw [leaves.inFlight, leaves.writers, conserved.inFlight]
        simp [List.filter_append, other]
  | @left _ job waiting _ quiet other holder leaves =>
      have carriesNone : ∀ terminal, job.poppedFor terminal = [] := by
        intro terminal
        cases job <;> simp_all [Job.isFlush, Job.poppedFor]
      apply conserved_frame conserved quiet leaves.pending leaves.log
      · intro terminal
        simp [World.popped, leaves.writers, holder, carriesNone]
      · rw [leaves.inFlight, leaves.writers, conserved.inFlight, holder]
        simp [other]
  | idle quiet leaves =>
      apply conserved_frame conserved quiet leaves.pending leaves.log
      · intro terminal
        simp [World.popped, leaves.writers]
      · rw [leaves.inFlight, leaves.writers, conserved.inFlight]

theorem reachable_conserved {limits : Limits} {rows : TerminalId → Row} {world : World}
    {allowed : World → Label → Prop}
    (run : Reaches (step limits) allowed (initial rows) world) :
    Numbered world ∧ Conserved limits world := by
  apply run.invariant fun world => Numbered world ∧ Conserved limits world
  · constructor
    · constructor <;> simp [initial, World.ordinals, World.accepted]
    · constructor <;> simp [initial, World.accepted, World.committed, World.popped, World.discarded,
        retained, droppedCount]
  · intro before label after holds _ taken
    have move := step_move taken
    exact ⟨move_numbered move holds.1, move_conserved move holds.1 holds.2⟩

/-! ### Whole runs -/

def World.pendingChunks (world : World) (terminal : TerminalId) : List Chunk :=
  (openedState world.queue.pending terminal).chunks

def World.retryChunks (world : World) (terminal : TerminalId) : List Chunk :=
  (openedState world.queue.pending terminal).retryChunks

theorem accepted_ordinals_sublist (world : World) (terminal : TerminalId) :
    ((world.accepted terminal).map Chunk.ordinal).Sublist world.ordinals := by
  unfold World.accepted World.ordinals
  induction world.log with
  | nil => exact List.Sublist.refl _
  | cons event rest ih =>
      rw [List.flatMap_cons, List.flatMap_cons, List.map_append]
      refine List.Sublist.append ?_ ih
      cases event <;> simp [acceptedBy, ordinalOf]
      split <;> simp_all

theorem accepted_nodup {world : World} (numbered : Numbered world) (terminal : TerminalId) :
    (world.accepted terminal).Nodup := by
  have increasing := numbered.increasing.sublist (accepted_ordinals_sublist world terminal)
  have distinct : ((world.accepted terminal).map Chunk.ordinal).Nodup :=
    increasing.imp fun less => Nat.ne_of_lt less
  exact List.Nodup.of_map Chunk.ordinal distinct

/-- `flush_all` returns with nothing pending and no popped batch still being written. -/
theorem returned_drained {limits : Limits} {world : World} (conserved : Conserved limits world)
    (returned : flushAllNext world.queue = .returned) :
    (∀ terminal, world.queue.pending.get? terminal = none) ∧
      ∀ job ∈ world.queue.writers, job.isFlush = false := by
  unfold flushAllNext at returned
  split at returned
  · cases returned
  split at returned
  · cases returned
  rename_i noKeys idle
  constructor
  · exact (Dict.keys_eq_nil_iff _).mp (not_not.mp noKeys)
  · have empty := conserved.inFlight.symm.trans (not_not.mp idle)
    intro job member
    have absent := List.filter_eq_nil_iff.mp (List.length_eq_zero_iff.mp empty) job member
    simpa using absent

/-- In every reachable state a chunk is in exactly one place when it was
accepted for the terminal, and in none when it was not. A discard counts at
least the chunks' length, and every count reaches a notice or is still in the
pending state. -/
theorem stream_conserved (limits : Limits) (rows : TerminalId → Row) (world : World)
    (run : Reaches (step limits) anyStep (initial rows) world) :
    (∀ terminal chunk,
      (world.pendingChunks terminal).count chunk + (world.retryChunks terminal).count chunk +
        (chunksOf (world.popped terminal)).count chunk +
        (chunksOf (world.committed terminal)).count chunk +
        (world.discarded terminal).count chunk =
      if chunk ∈ world.accepted terminal then 1 else 0) ∧
    (∀ terminal chunks chars, Event.discarded terminal chunks chars ∈ world.log →
      totalChars chunks ≤ chars) ∧
    (∀ terminal, (world.log.map (discardedChars terminal)).sum =
      droppedCount world.queue.pending terminal +
        (world.log.map (announcedChars terminal)).sum) ∧
    (∀ terminal state, world.queue.pending.get? terminal = some state →
      state.chars = totalChars state.chunks ∧ state.chars ≤ limits.maxPendingChars ∧
        state.retry.length ≤ 32) ∧
    (flushAllNext world.queue = .returned →
      (∀ terminal, world.queue.pending.get? terminal = none) ∧
        ∀ job ∈ world.queue.writers, job.isFlush = false) := by
  obtain ⟨numbered, conserved⟩ := reachable_conserved run
  refine ⟨?_, conserved.lengths, conserved.counted, ?_, returned_drained conserved⟩
  · intro terminal chunk
    have balance := conserved.places terminal chunk
    rw [retained_chunks, List.count_append] at balance
    have once : (world.accepted terminal).count chunk =
        if chunk ∈ world.accepted terminal then 1 else 0 :=
      (accepted_nodup numbered terminal).count
    rw [← once, balance]
    simp only [World.pendingChunks, World.retryChunks]
    omega
  · intro terminal state held
    have valid := conserved.wellFormed terminal state held
    exact ⟨valid.chars, valid.bounded, valid.retry⟩

def blankRow : Row := ⟨"", "running", 0, [0]⟩

/-- A post is popped, its write raises, and it is handed back while another
post joins the pending batch. -/
def handBackRun : List Label :=
  [.enqueue "t" "A" "" 0 false, .directFlush "t", .raise, .enqueue "t" "B" "" 0 false]

theorem stream_conserved_hand_back :
    ∃ world, Reaches (step defaultLimits) anyStep (initial fun _ => blankRow) world ∧
      world.accepted "t" = [⟨0, "A"⟩, ⟨1, "B"⟩] ∧
      (world.pendingChunks "t").count ⟨0, "A"⟩ + (world.retryChunks "t").count ⟨0, "A"⟩ +
        (chunksOf (world.popped "t")).count ⟨0, "A"⟩ +
        (chunksOf (world.committed "t")).count ⟨0, "A"⟩ +
        (world.discarded "t").count ⟨0, "A"⟩ = 1 := by
  have executed : (exec (step defaultLimits) (fun _ _ => true) (initial fun _ => blankRow)
      handBackRun).map (fun world => world.accepted "t") = some [⟨0, "A"⟩, ⟨1, "B"⟩] := by
    decide
  obtain ⟨world, run, seen⟩ := reaches_observed _ _ _ _ (fun _ _ _ => trivial) executed
  refine ⟨world, run, seen, ?_⟩
  have placed := (stream_conserved defaultLimits (fun _ => blankRow) world run).1 "t" ⟨0, "A"⟩
  rw [placed, seen]
  decide

end AifyComms.TerminalWriteQueue
