import AifyComms.TerminalStreamConservation

/-!
The order in which a terminal's batches commit. Numbers strictly increase along
the line of committed, popped and pending batches as long as no write raises
while a later batch of the same terminal waits for the write lock: the failed
batch is handed back to `_pending`, behind the one that waits.
-/

namespace AifyComms.TerminalWriteQueue
open PyText TerminalOutput Runs

def World.line (world : World) (terminal : TerminalId) : List Batch :=
  world.committed terminal ++ world.popped terminal ++ retained world.queue.pending terminal

/-- The batches of a failed drain that hold bytes. -/
def heldBatches (batches : List Batch) : List Batch :=
  batches.filter fun batch => batch.output.text ≠ ""

/-- A write may raise only when the drain hands back no numbered bytes, or no
numbered batch of the same terminal has been popped after it. -/
def handsBackInOrder (world : World) : Label → Bool
  | .raise =>
      match world.queue.writers with
      | .flush _ terminal batches :: waiting =>
          numbersOf (heldBatches batches) = [] ||
            numbersOf (waiting.flatMap (Job.poppedFor terminal)) = []
      | _ => true
  | _ => true

def HandsBackInOrder (world : World) (label : Label) : Prop := handsBackInOrder world label = true

/-! ### Projections of the line

Numbers and ordinals read the same two parts of a batch, its chunks and its
number; a notice or a status never moves them. -/

section Projection
variable (read : List Chunk → Nat → List Nat)

def along (batches : List Batch) : List Nat :=
  batches.flatMap fun batch => read batch.output.chunks batch.seq

theorem along_append (left right : List Batch) :
    along read (left ++ right) = along read left ++ along read right := List.flatMap_append

theorem along_sublist {shorter longer : List Batch} (kept : shorter.Sublist longer) :
    (along read shorter).Sublist (along read longer) := by
  induction kept with
  | slnil => exact List.Sublist.refl _
  | cons batch _ ih => exact ih.trans (List.sublist_append_right _ _)
  | cons_cons batch _ ih => exact (List.Sublist.refl _).append ih

def alongRetry (retry : List RetryBatch) : List Nat :=
  retry.flatMap fun batch => read batch.output.chunks batch.number

theorem along_batches (state : PendingState) :
    along read state.batches = alongRetry read state.retry ++ read state.chunks state.lastSeq := by
  simp [along, alongRetry, PendingState.batches, List.flatMap_map]

theorem along_retained (blank : read [] 0 = []) (pending : Dict TerminalId PendingState)
    (terminal : TerminalId) :
    along read (retained pending terminal) =
      alongRetry read (openedState pending terminal).retry ++
        read (openedState pending terminal).chunks (openedState pending terminal).lastSeq := by
  unfold retained openedState
  cases pending.get? terminal with
  | none => simp [along, alongRetry, newPendingState, blank]
  | some state => exact along_batches read state

theorem along_kept (batches : List Batch) :
    alongRetry read (keptBatches batches) = along read (heldBatches batches) := by
  simp [alongRetry, along, keptBatches, heldBatches, List.flatMap_map]

theorem line_popped {before after : World} {me : Option TaskId} {terminal : TerminalId}
    {state : PendingState} (held : before.queue.pending.get? terminal = some state)
    (leaves : Leaves before after (before.queue.pending.erase terminal)
      (before.queue.writers ++ [Job.flush me terminal state.batches]) (before.queue.inFlight + 1)
      [.announced terminal state.dropped]) (other : TerminalId) :
    after.line other = before.line other := by
  have current : retained before.queue.pending terminal = state.batches := by
    simp [retained, held]
  unfold World.line World.committed World.popped
  rw [leaves.log, leaves.writers, leaves.pending, retained_erase]
  by_cases same : terminal = other
  · subst same
    simp [current, committedFor, Job.poppedFor]
  · simp [committedFor, Job.poppedFor, same]

theorem line_committed {before after : World} {task : Option TaskId} {terminal : TerminalId}
    {batch : Batch} {rest : List Batch} {waiting : List Job} {events : List Event}
    (quiet : AllQuiet events)
    (holder : before.queue.writers = .flush task terminal (batch :: rest) :: waiting)
    (leaves : Leaves before after before.queue.pending (.flush task terminal rest :: waiting)
      before.queue.inFlight (events ++ [Event.committed terminal batch])) (other : TerminalId) :
    after.line other = before.line other := by
  obtain ⟨_, _, _, _, committed⟩ := quiet_views quiet other
  unfold World.line World.committed World.popped
  rw [leaves.log, leaves.writers, leaves.pending, holder]
  by_cases same : terminal = other <;> simp [committed, committedFor, Job.poppedFor, same]

/-- A step that moves no batch between places keeps the line. -/
theorem line_frame {before after : World} {events : List Event} (quiet : AllQuiet events)
    (pending : after.queue.pending = before.queue.pending)
    (log : after.log = before.log ++ events) (terminal : TerminalId)
    (popped : (after.popped terminal).Sublist (before.popped terminal)) :
    (after.line terminal).Sublist (before.line terminal) := by
  obtain ⟨_, _, _, _, committed⟩ := quiet_views quiet terminal
  have sameCommitted : after.committed terminal = before.committed terminal := by
    simp [World.committed, log, committed]
  unfold World.line
  rw [sameCommitted, pending]
  exact ((List.Sublist.refl _).append popped).append (List.Sublist.refl _)

theorem along_handedBack {before after : World} {task : Option TaskId} {terminal : TerminalId}
    {batches : List Batch} {waiting : List Job} (blank : read [] 0 = [])
    (holder : before.queue.writers = .flush task terminal batches :: waiting)
    (leaves : Leaves before after (requeueFront before.queue terminal batches).1.pending waiting
      (before.queue.inFlight - 1) (requeueFront before.queue terminal batches).2)
    (inOrder : along read (heldBatches batches) = [] ∨
      along read (waiting.flatMap (Job.poppedFor terminal)) = []) (other : TerminalId) :
    (along read (after.line other)).Sublist (along read (before.line other)) := by
  have held : (along read (heldBatches batches)).Sublist (along read batches) :=
    along_sublist read List.filter_sublist
  have stillPopped : after.popped other = waiting.flatMap (Job.poppedFor other) := by
    simp [World.popped, leaves.writers]
  have committed : after.committed other = before.committed other := by
    obtain ⟨removed, events⟩ := requeueFront_events before.queue terminal batches
    have log := events ▸ leaves.log
    simp [World.committed, log, (discards_views terminal removed other).2.2.2]
  unfold World.line
  rw [popped_holder holder, stillPopped, committed, leaves.pending]
  simp only [along_append, along_retained read blank, List.append_assoc]
  refine (List.Sublist.refl _).append ?_
  rcases requeueFront_spec before.queue terminal batches with
    ⟨samePending, _, _⟩ | ⟨removed, state, pending, _, requeued⟩
  · rw [samePending]
    exact List.sublist_append_right _ _
  · rw [pending, openedState_set]
    by_cases same : terminal = other
    · subst same
      have shorter : (alongRetry read state.retry).Sublist
          (along read (heldBatches batches) ++
            alongRetry read (openedState before.queue.pending terminal).retry) := by
        have flattened := congrArg (alongRetry read) requeued.lined
        simp only [alongRetry, List.flatMap_append] at flattened
        rw [← along_kept]
        unfold alongRetry
        rw [flattened]
        exact List.sublist_append_right _ _
      have tail : read state.chunks state.lastSeq = read
          (openedState before.queue.pending terminal).chunks
          (openedState before.queue.pending terminal).lastSeq := by
        rw [requeued.chunks, requeued.lastSeq]
      simp only [if_true, tail]
      -- Either nothing readable goes back behind the waiting batches, or nothing
      -- readable waits: then the retried batches stand where the popped ones stood.
      rcases inOrder with none | none
      · rw [none, List.nil_append] at shorter
        refine List.Sublist.trans ?_ (List.sublist_append_right _ _)
        exact (List.Sublist.refl _).append (shorter.append (List.Sublist.refl _))
      · rw [none, List.nil_append, List.nil_append, ← List.append_assoc]
        exact (shorter.trans (held.append (List.Sublist.refl _))).append (List.Sublist.refl _)
    · simp [same]

end Projection

def numberReading (_ : List Chunk) (number : Nat) : List Nat := ownNumber number

def ordinalReading (chunks : List Chunk) (_ : Nat) : List Nat := chunks.map Chunk.ordinal

/-- Chunks of a batch that claimed no number: there are none. -/
def unnumberedReading (chunks : List Chunk) (number : Nat) : List Nat :=
  if number = 0 then chunks.map Chunk.ordinal else []

theorem numbersOf_eq_along (batches : List Batch) :
    numbersOf batches = along numberReading batches := rfl

theorem ownNumber_eq_nil {number : Nat} : ownNumber number = [] ↔ number = 0 := by
  unfold ownNumber
  split <;> simp_all

/-- Without a number there are no chunks, so no ordinals either. -/
theorem ordinals_nil_of_numbers {batches : List Batch} (numbers : numbersOf batches = [])
    (numbered : along unnumberedReading batches = []) : along ordinalReading batches = [] := by
  apply List.flatMap_eq_nil_iff.mpr
  intro batch member
  have zero := ownNumber_eq_nil.1 (List.flatMap_eq_nil_iff.mp numbers batch member)
  have none := List.flatMap_eq_nil_iff.mp numbered batch member
  simpa [unnumberedReading, ordinalReading, zero] using none

/-! ### The invariant -/

/-- Along each terminal's line the numbers increase from `start` and the posts
stand in the order they were accepted. -/
structure InOrder (start : TerminalId → Nat) (world : World) : Prop where
  numbers : ∀ terminal, (start terminal :: numbersOf (world.line terminal)).Pairwise (· < ·)
  floor : ∀ terminal, ∀ number ∈ numbersOf (world.line terminal),
    number ≤ world.queue.seqFloor terminal
  numbered : ∀ terminal, along unnumberedReading (world.line terminal) = []
  ordinals : ∀ terminal, (along ordinalReading (world.line terminal)).Pairwise (· < ·)

theorem inOrder_shrinks {start : TerminalId → Nat} {before after : World}
    (inOrder : InOrder start before) (seqFloor : after.queue.seqFloor = before.queue.seqFloor)
    (numbers : ∀ terminal,
      (along numberReading (after.line terminal)).Sublist
        (along numberReading (before.line terminal)))
    (unnumbered : ∀ terminal,
      (along unnumberedReading (after.line terminal)).Sublist
        (along unnumberedReading (before.line terminal)))
    (ordinals : ∀ terminal,
      (along ordinalReading (after.line terminal)).Sublist
        (along ordinalReading (before.line terminal))) : InOrder start after where
  numbers terminal := (inOrder.numbers terminal).sublist ((numbers terminal).cons_cons _)
  floor terminal number member := by
    rw [seqFloor]
    exact inOrder.floor terminal number ((numbers terminal).subset member)
  numbered terminal := List.eq_nil_of_sublist_nil (inOrder.numbered terminal ▸ unnumbered terminal)
  ordinals terminal := (inOrder.ordinals terminal).sublist (ordinals terminal)

theorem inOrder_sublist {start : TerminalId → Nat} {before after : World}
    (inOrder : InOrder start before) (seqFloor : after.queue.seqFloor = before.queue.seqFloor)
    (kept : ∀ terminal, (after.line terminal).Sublist (before.line terminal)) :
    InOrder start after :=
  inOrder_shrinks inOrder seqFloor (fun terminal => along_sublist _ (kept terminal))
    (fun terminal => along_sublist _ (kept terminal))
    (fun terminal => along_sublist _ (kept terminal))

/-- Every chunk in line was accepted, so its ordinal is below the next one. -/
theorem line_ordinals_lt {limits : Limits} {world : World} (numbered : Numbered world)
    (conserved : Conserved limits world) (terminal : TerminalId) (ordinal : Nat)
    (member : ordinal ∈ along ordinalReading (world.line terminal)) :
    ordinal < world.queue.nextOrdinal := by
  obtain ⟨batch, inLine, read⟩ := List.mem_flatMap.mp member
  obtain ⟨chunk, inBatch, rfl⟩ := List.mem_map.mp read
  have present : chunk ∈ chunksOf (world.line terminal) :=
    List.mem_flatMap.mpr ⟨batch, inLine, inBatch⟩
  have counted := List.count_pos_iff.mpr present
  have balance := conserved.places terminal chunk
  simp only [World.line, chunksOf_append, List.count_append] at counted
  have accepted : chunk ∈ world.accepted terminal := List.count_pos_iff.mp (by omega)
  apply numbered.bounded
  exact (accepted_ordinals_sublist world terminal).subset (List.mem_map_of_mem accepted)

/-- An enqueue changes one line, and that one only at its pending batch: whatever
is read along it, the part in front stays. -/
structure LineGrows (before after : World) (terminal : TerminalId) (opened state : PendingState) :
    Prop where
  others : ∀ other, terminal ≠ other → after.line other = before.line other
  own : ∀ read : List Chunk → Nat → List Nat, read [] 0 = [] → ∃ front,
    along read (before.line terminal) = front ++ read opened.chunks opened.lastSeq ∧
      along read (after.line terminal) = front ++ read state.chunks state.lastSeq

theorem enqueued_lineGrows {before after : World} {terminal : TerminalId} {output : String}
    {discarded : List Chunk} {events : List Event} {state : PendingState} (quiet : AllQuiet events)
    (pending : after.queue.pending = before.queue.pending.set terminal state)
    (writers : after.queue.writers = before.queue.writers)
    (log : after.log = before.log ++
      (appendEvents terminal before.queue.nextOrdinal output discarded ++ events))
    (retry : state.retry = (openedState before.queue.pending terminal).retry) :
    LineGrows before after terminal (openedState before.queue.pending terminal) state := by
  have settled : ∀ other, after.committed other ++ after.popped other =
      before.committed other ++ before.popped other := by
    intro other
    simp [World.committed, World.popped, log, writers, (quiet_views quiet other).2.2.2.2,
      (appendEvents_others terminal before.queue.nextOrdinal output discarded other).2]
  constructor
  · intro other different
    rw [World.line, World.line, settled, pending, retained_set, if_neg different]
  · intro read blank
    refine ⟨along read (before.committed terminal ++ before.popped terminal) ++
      alongRetry read (openedState before.queue.pending terminal).retry, ?_, ?_⟩
    · rw [World.line, along_append, along_retained read blank, List.append_assoc]
    · rw [World.line, settled, along_append, pending, retained_set, if_pos rfl, along_batches,
        retry, List.append_assoc]

/-- A batch that had no number takes one, at the end of its line. -/
theorem LineGrows.numbers {before after : World} {terminal : TerminalId} {number : Nat}
    {opened state : PendingState} (grows : LineGrows before after terminal opened state)
    (lastSeq : state.lastSeq = if opened.lastSeq = 0 then number + 1 else opened.lastSeq) :
    numbersOf (after.line terminal) =
      if opened.lastSeq = 0 then numbersOf (before.line terminal) ++ [number + 1]
      else numbersOf (before.line terminal) := by
  obtain ⟨front, old, new⟩ := grows.own numberReading rfl
  rw [numbersOf_eq_along, numbersOf_eq_along, old, new, lastSeq]
  by_cases unclaimed : opened.lastSeq = 0 <;> simp [numberReading, ownNumber, unclaimed]

theorem LineGrows.ordinals {before after : World} {terminal : TerminalId} {ordinal : Nat}
    {output : String} {discarded : List Chunk} {opened state : PendingState}
    (grows : LineGrows before after terminal opened state)
    (chunks : opened.chunks ++ (if output = "" then [] else [⟨ordinal, output⟩]) =
      discarded ++ state.chunks) :
    (along ordinalReading (after.line terminal)).Sublist
      (along ordinalReading (before.line terminal) ++ [ordinal]) := by
  obtain ⟨front, old, new⟩ := grows.own ordinalReading rfl
  have suffix : state.chunks.Sublist (opened.chunks ++ [⟨ordinal, output⟩]) := by
    have tail : state.chunks.Sublist (discarded ++ state.chunks) := List.sublist_append_right _ _
    rw [← chunks] at tail
    refine tail.trans ((List.Sublist.refl _).append ?_)
    split
    · exact List.nil_sublist _
    · exact List.Sublist.refl _
  rw [old, new, List.append_assoc]
  refine (List.Sublist.refl _).append ?_
  simpa [ordinalReading] using suffix.map Chunk.ordinal

/-- The floor of a terminal rises with the number its batch claims. -/
theorem claimNumber_floor (queue : Queue) (terminal : TerminalId) (state : PendingState)
    (baseSeq : Nat) : (claimNumber queue terminal state baseSeq).2 =
      if state.lastSeq = 0 then
        Function.update queue.seqFloor terminal (max baseSeq (queue.seqFloor terminal) + 1)
      else queue.seqFloor := by
  unfold claimNumber
  split <;> rfl

theorem enqueued_inOrder {limits : Limits} {start : TerminalId → Nat} {before after : World}
    {terminal : TerminalId} {output status : String} {baseSeq : Nat} {autoschedule : Bool}
    {events : List Event} (numbered : Numbered before) (conserved : Conserved limits before)
    (inOrder : InOrder start before) (above : start terminal ≤ baseSeq) (quiet : AllQuiet events)
    (pending : after.queue.pending = before.queue.pending.set terminal
      (enqueuedState limits before.queue terminal output status baseSeq autoschedule).1)
    (writers : after.queue.writers = before.queue.writers)
    (log : after.log = before.log ++ (appendEvents terminal before.queue.nextOrdinal output
      (enqueuedState limits before.queue terminal output status baseSeq autoschedule).2 ++ events))
    (seqFloor : after.queue.seqFloor = (claimNumber before.queue terminal
      ((before.queue.pending.get? terminal).getD (newPendingState 0)) baseSeq).2) :
    InOrder start after := by
  have spec := enqueued_state_spec limits before.queue terminal output status baseSeq autoschedule
    (opened_wellFormed conserved terminal)
  have grows := enqueued_lineGrows quiet pending writers log spec.retry
  have numbers := grows.numbers spec.lastSeq
  have floor := seqFloor.trans (claimNumber_floor before.queue terminal
    (openedState before.queue.pending terminal) baseSeq)
  refine ⟨fun other => ?_, fun other number member => ?_, fun other => ?_, fun other => ?_⟩
  · by_cases same : terminal = other
    · subst same
      rw [numbers]
      split
      · refine pairwise_concat (inOrder.numbers terminal) ?_
        intro earlier member
        rcases List.mem_cons.mp member with rfl | inLine
        · omega
        · have := inOrder.floor terminal earlier inLine
          omega
      · exact inOrder.numbers terminal
    · rw [grows.others other same]
      exact inOrder.numbers other
  · by_cases same : terminal = other
    · subst same
      rw [numbers] at member
      rw [floor]
      split at member
      · rename_i unclaimed
        rw [if_pos unclaimed, Function.update_self]
        rcases List.mem_append.mp member with inLine | isLast
        · have := inOrder.floor terminal number inLine
          omega
        · rw [List.mem_singleton.mp isLast]
      · rename_i held
        rw [if_neg held]
        exact inOrder.floor terminal number member
    · rw [grows.others other same] at member
      have bound := inOrder.floor other number member
      rw [floor]
      split
      · rwa [Function.update_of_ne (Ne.symm same)]
      · exact bound
  · by_cases same : terminal = other
    · subst same
      obtain ⟨front, old, new⟩ := grows.own unnumberedReading rfl
      have none := inOrder.numbered terminal
      have claimed := spec.lastSeq
      rw [old, List.append_eq_nil_iff] at none
      rw [new, none.1, unnumberedReading, if_neg (by rw [claimed]; split <;> omega),
        List.append_nil]
    · rw [grows.others other same]
      exact inOrder.numbered other
  · by_cases same : terminal = other
    · subst same
      -- the new post is the youngest of all, and those before it keep their order
      exact (pairwise_concat (inOrder.ordinals terminal)
        (line_ordinals_lt numbered conserved terminal)).sublist (grows.ordinals spec.chunks)
    · rw [grows.others other same]
      exact inOrder.ordinals other

theorem handedBack_inOrder {start : TerminalId → Nat} {before after : World}
    {task : Option TaskId} {terminal : TerminalId} {batches : List Batch} {waiting : List Job}
    (inOrder : InOrder start before) (allowed : HandsBackInOrder before .raise)
    (holder : before.queue.writers = .flush task terminal batches :: waiting)
    (leaves : Leaves before after (requeueFront before.queue terminal batches).1.pending waiting
      (before.queue.inFlight - 1) (requeueFront before.queue terminal batches).2) :
    InOrder start after := by
  have popped : before.popped terminal =
      batches ++ waiting.flatMap (Job.poppedFor terminal) := by
    rw [popped_holder holder, if_pos rfl]
  have unnumbered : along unnumberedReading (before.popped terminal) = [] := by
    have none := inOrder.numbered terminal
    simp only [World.line, along_append, List.append_eq_nil_iff] at none
    exact none.1.2
  rw [popped, along_append, List.append_eq_nil_iff] at unnumbered
  have heldUnnumbered : along unnumberedReading (heldBatches batches) = [] :=
    List.eq_nil_of_sublist_nil (unnumbered.1 ▸ along_sublist _ List.filter_sublist)
  have guarded : numbersOf (heldBatches batches) = [] ∨
      numbersOf (waiting.flatMap (Job.poppedFor terminal)) = [] := by
    simpa [HandsBackInOrder, handsBackInOrder, holder] using allowed
  have ordinals : along ordinalReading (heldBatches batches) = [] ∨
      along ordinalReading (waiting.flatMap (Job.poppedFor terminal)) = [] := by
    rcases guarded with none | none
    · exact .inl (ordinals_nil_of_numbers none heldUnnumbered)
    · exact .inr (ordinals_nil_of_numbers none unnumbered.2)
  exact inOrder_shrinks inOrder leaves.seqFloor
    (along_handedBack numberReading rfl holder leaves guarded)
    (along_handedBack unnumberedReading rfl holder leaves (.inl heldUnnumbered))
    (along_handedBack ordinalReading rfl holder leaves ordinals)

/-- An enqueue starts from a number the row has held, at least `start`. -/
def BasedAbove (start : TerminalId → Nat) : Label → Prop
  | .enqueue terminal _ _ baseSeq _ => start terminal ≤ baseSeq
  | _ => True

theorem move_inOrder {limits : Limits} {start : TerminalId → Nat} {before after : World}
    {label : Label} (move : Move limits before after label) (numbered : Numbered before)
    (conserved : Conserved limits before) (based : BasedAbove start label)
    (allowed : HandsBackInOrder before label) (inOrder : InOrder start before) :
    InOrder start after := by
  cases move with
  | enqueued quiet pending writers _ log seqFloor _ =>
      exact enqueued_inOrder numbered conserved inOrder based quiet pending writers log seqFloor
  -- A pop and a commit move the border inside the line, not the batches.
  | popped held leaves =>
      exact inOrder_sublist inOrder leaves.seqFloor fun terminal =>
        line_popped held leaves terminal ▸ List.Sublist.refl _
  | committed quiet holder leaves =>
      exact inOrder_sublist inOrder leaves.seqFloor fun terminal =>
        line_committed quiet holder leaves terminal ▸ List.Sublist.refl _
  | @skipped _ _ owner _ _ _ _ holder leaves =>
      apply inOrder_sublist inOrder leaves.seqFloor
      intro terminal
      apply line_frame allQuiet_nil leaves.pending leaves.log
      by_cases same : owner = terminal <;>
        simp [World.popped, leaves.writers, holder, Job.poppedFor, same]
  | handedBack holder leaves => exact handedBack_inOrder inOrder allowed holder leaves
  | finished holder leaves =>
      apply inOrder_sublist inOrder leaves.seqFloor
      intro terminal
      apply line_frame allQuiet_nil leaves.pending leaves.log
      simp [World.popped, leaves.writers, holder, Job.poppedFor]
  | @joined _ job other leaves =>
      apply inOrder_sublist inOrder leaves.seqFloor
      intro terminal
      apply line_frame allQuiet_nil leaves.pending leaves.log
      have carriesNone : job.poppedFor terminal = [] := by
        cases job <;> simp_all [Job.isFlush, Job.poppedFor]
      simp [World.popped, leaves.writers, carriesNone]
  | @left _ job _ _ quiet other holder leaves =>
      apply inOrder_sublist inOrder leaves.seqFloor
      intro terminal
      apply line_frame quiet leaves.pending leaves.log
      simp [World.popped, leaves.writers, holder]
  | idle quiet leaves =>
      apply inOrder_sublist inOrder leaves.seqFloor
      intro terminal
      apply line_frame quiet leaves.pending leaves.log
      simp [World.popped, leaves.writers]

theorem initial_inOrder (start : TerminalId → Nat) (rows : TerminalId → Row) :
    InOrder start (initial rows) := by
  have empty : ∀ terminal, (initial rows).line terminal = [] := fun _ => rfl
  constructor <;> intro terminal <;> simp [empty, numbersOf, along]

theorem reachable_inOrder {limits : Limits} {rows : TerminalId → Row} {world : World}
    (run : Reaches (step limits) HandsBackInOrder (initial rows) world) :
    InOrder (fun _ => 0) world := by
  have holds : (Numbered world ∧ Conserved limits world) ∧ InOrder (fun _ => 0) world := by
    apply run.invariant fun world =>
      (Numbered world ∧ Conserved limits world) ∧ InOrder (fun _ => 0) world
    · have started : Reaches (step limits) anyStep (initial rows) (initial rows) := .refl
      exact ⟨reachable_conserved started, initial_inOrder _ rows⟩
    · intro before label after holds allowed taken
      obtain ⟨⟨numbered, conserved⟩, inOrder⟩ := holds
      have move := step_move taken
      have based : BasedAbove (fun _ => 0) label := by
        cases label <;> simp [BasedAbove]
      exact ⟨⟨move_numbered move numbered, move_conserved move numbered conserved⟩,
        move_inOrder move numbered conserved based allowed inOrder⟩
  exact holds.2

/-! ### The committed stream -/

/-- What the queue promises of the writes that commit: their numbers strictly
increase, and the posts reach the row in the order they were accepted. -/
def CommitsInOrder (world : World) (terminal : TerminalId) : Prop :=
  (numbersOf (world.committed terminal)).Pairwise (· < ·) ∧
    ((chunksOf (world.committed terminal)).map Chunk.ordinal).Pairwise (· < ·)

/-- In every run where a write raises only while no later numbered batch of its
terminal waits for the write lock, the committed stream is in order. -/
theorem stream_commits_in_order (limits : Limits) (rows : TerminalId → Row) (world : World)
    (run : Reaches (step limits) HandsBackInOrder (initial rows) world) (terminal : TerminalId) :
    CommitsInOrder world terminal := by
  have inOrder := reachable_inOrder run
  have front : (world.committed terminal).Sublist (world.line terminal) := by
    unfold World.line
    rw [List.append_assoc]
    exact List.sublist_append_left _ _
  have ordinals : (chunksOf (world.committed terminal)).map Chunk.ordinal =
      along ordinalReading (world.committed terminal) := List.map_flatMap
  constructor
  · exact (inOrder.numbers terminal).of_cons.sublist (along_sublist numberReading front)
  · rw [ordinals]
    exact (inOrder.ordinals terminal).sublist (along_sublist ordinalReading front)

/-- A write raises and is handed back, a post follows it, and both are drained
by one flush. -/
def retriedInOrderRun : List Label :=
  [.enqueue "t" "A" "" 0 false, .directFlush "t", .raise, .enqueue "t" "B" "" 0 false,
    .directFlush "t", .select, .write 0, .select, .write 0, .finish]

theorem stream_commits_in_order_retried :
    ∃ world, Reaches (step defaultLimits) HandsBackInOrder (initial fun _ => blankRow) world ∧
      numbersOf (world.committed "t") = [1, 2] ∧ CommitsInOrder world "t" := by
  have executed : (exec (step defaultLimits) handsBackInOrder (initial fun _ => blankRow)
      retriedInOrderRun).map (fun world => numbersOf (world.committed "t")) = some [1, 2] := by
    decide
  obtain ⟨world, run, seen⟩ := reaches_observed _ _ _ _ (fun _ _ granted => granted) executed
  exact ⟨world, run, seen,
    stream_commits_in_order defaultLimits (fun _ => blankRow) world run "t"⟩

/-- Two flushes of one terminal pop a batch each. The first write raises while
the second batch waits for the lock, so the second commits first. -/
def overtakenRun : List Label :=
  [.enqueue "t" "A" "" 0 false, .directFlush "t", .enqueue "t" "B" "" 0 false, .directFlush "t",
    .raise, .select, .write 0, .finish, .directFlush "t", .select, .write 0]

theorem stream_order_overtaken :
    ∃ world, Reaches (step defaultLimits) anyStep (initial fun _ => blankRow) world ∧
      numbersOf (world.committed "t") = [2, 1] ∧ ¬ CommitsInOrder world "t" := by
  have executed : (exec (step defaultLimits) (fun _ _ => true) (initial fun _ => blankRow)
      overtakenRun).map (fun world => numbersOf (world.committed "t")) = some [2, 1] := by
    decide
  obtain ⟨world, run, seen⟩ := reaches_observed _ _ _ _ (fun _ _ _ => trivial) executed
  refine ⟨world, run, seen, ?_⟩
  rintro ⟨numbers, _⟩
  rw [seen] at numbers
  revert numbers
  decide

end AifyComms.TerminalWriteQueue
