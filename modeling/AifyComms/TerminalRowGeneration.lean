import AifyComms.TerminalStreamOrder

/-!
The bytes of a terminal row and its `output_seq` are one generation: the number
is the highest among the batches folded into the bytes. The tail held in memory
may be ahead of the row, so a write that takes its number from the row, or
writes the tail without one, needs the two to agree first.
-/

namespace AifyComms.TerminalWriteQueue
open PyText TerminalOutput Runs

def highest (numbers : List Nat) : Nat := numbers.foldl max 0

theorem highest_append (front back : List Nat) :
    highest (front ++ back) = max (highest front) (highest back) := by
  have general : ∀ (numbers : List Nat) (start : Nat),
      numbers.foldl max start = max start (highest numbers) := by
    intro numbers
    induction numbers with
    | nil => simp [highest]
    | cons number rest ih =>
        intro start
        have fromZero := ih (max 0 number)
        simp only [highest, List.foldl_cons]
        rw [ih, fromZero]
        omega
  rw [highest, List.foldl_append, general]
  rfl

theorem highest_ownNumber (number : Nat) : highest (ownNumber number) = number := by
  unfold ownNumber
  split
  · next zero => simp [highest, zero]
  · simp [highest]

/-! ### One row and the tail held for it -/

/-- The number of what `currentTail` would return. -/
def lastNumber (row : Row) (held : Option Tail) : Nat :=
  match held with
  | some tail => tail.seq.getD row.outputSeq
  | none => row.outputSeq

theorem currentSeq_eq (buffers : Buffers) (terminal : TerminalId) (row : Row) :
    currentSeq buffers terminal row.outputSeq = lastNumber row (buffers terminal) := by
  unfold currentSeq lastNumber
  cases buffers terminal <;> rfl

/-- Row and tail each stand under the highest number folded into them, and the
tail is never behind the row. -/
structure Generation (row : Row) (held : Option Tail) : Prop where
  stored : highest row.numbers = row.outputSeq
  tail : ∀ tail, held = some tail → highest tail.numbers = lastNumber row held
  ahead : row.outputSeq ≤ lastNumber row held

theorem Generation.current {row : Row} {buffers : Buffers} {terminal : TerminalId}
    (generation : Generation row (buffers terminal)) :
    highest (currentNumbers buffers terminal row.numbers) =
      lastNumber row (buffers terminal) := by
  unfold currentNumbers
  cases holding : buffers terminal with
  | none => exact generation.stored
  | some tail =>
      rw [holding] at generation
      exact generation.tail tail rfl

theorem Generation.forgotten {row : Row} {held : Option Tail} (generation : Generation row held) :
    Generation row none :=
  ⟨generation.stored, fun _ absent => (nomatch absent), Nat.le_refl _⟩

/-! ### What one append does to both -/

/-- A recorded tail holds the numbers it was given, under the given number when
there is one; a tail that is not recorded is written at once. -/
theorem record_self (buffers : Buffers) (terminal : TerminalId) (tail : String)
    (seq : Option Nat) (numbers : List Nat) (now : Nat) :
    (∃ held, (record buffers terminal tail seq numbers now).1 terminal = some held ∧
        held.numbers = numbers ∧ held.seq = seq.or ((buffers terminal).bind Tail.seq)) ∨
      (terminal = "" ∧ (record buffers terminal tail seq numbers now) = (buffers, true)) := by
  unfold record
  split
  · next unnamed => exact .inr ⟨unnamed, rfl⟩
  · left
    split
    · next empty => exact ⟨_, Function.update_self _ _ _, rfl, by simp [empty]⟩
    · next held holding =>
        split <;> exact ⟨_, Function.update_self _ _ _, rfl, by simp [holding]⟩

/-- The interval since the tail was last written has passed, or no tail is held. -/
def tailDue (buffers : Buffers) (terminal : TerminalId) (now : Nat) : Bool :=
  match buffers terminal with
  | some held => tailFlushInterval ≤ now - held.flushedAt
  | none => true

theorem record_due {buffers : Buffers} (unnamed : buffers "" = none) {terminal : TerminalId}
    {tail : String} {seq : Option Nat} {numbers : List Nat} {now : Nat}
    (written : (record buffers terminal tail seq numbers now).2 = true) :
    tailDue buffers terminal now = true := by
  unfold record at written
  unfold tailDue
  split at written
  · next noName => rw [noName, unnamed]
  · cases holding : buffers terminal with
    | none => rfl
    | some held =>
        rw [holding] at written
        dsimp only at written
        split at written
        · next due => exact decide_eq_true due
        · cases written

def HoldsTail (after before : Option Tail) (seq : Option Nat) (numbers : List Nat) : Prop :=
  ∃ tail, after = some tail ∧ tail.numbers = numbers ∧ tail.seq = seq.or (before.bind Tail.seq)

/-- One append does nothing, writes the tail with its number, or only holds it. -/
inductive Appended (buffers : Buffers) (terminal : TerminalId) (row : Row) (status : String)
    (seq : Option Nat) (settle : Bool) (numbers : List Nat) (now : Nat) :
    Buffers × Option RowUpdate → Prop where
  | nothing : Appended buffers terminal row status seq settle numbers now (buffers, none)
  | written {after : Buffers} {update : RowUpdate} (others : ∀ other, other ≠ terminal →
        after other = buffers other)
      (output : update.output.isSome = true) (number : update.outputSeq = seq)
      (folded : update.numbers = numbers)
      (held : after terminal = none ∨
        HoldsTail (after terminal) (buffers terminal) seq numbers)
      (due : tailDue buffers terminal now = true ∨
        terminalStatusTransition row.status status ∈ endStatuses ∨ settle = true) :
      Appended buffers terminal row status seq settle numbers now (after, some update)
  | held {after : Buffers} {update : RowUpdate} (others : ∀ other, other ≠ terminal →
        after other = buffers other)
      (output : update.output = none) (number : update.outputSeq = none)
      (held : HoldsTail (after terminal) (buffers terminal) seq numbers) :
      Appended buffers terminal row status seq settle numbers now (after, some update)

theorem append_spec {buffers : Buffers} (unnamed : buffers "" = none) (terminal : TerminalId)
    (row : Row) (chunk status : String) (seq : Option Nat) (settle : Bool) (number now : Nat) :
    Appended buffers terminal row status seq settle
      (currentNumbers buffers terminal row.numbers ++ ownNumber number) now
      (appendTerminalOutput buffers terminal row chunk status seq settle number now) := by
  unfold appendTerminalOutput
  split
  · exact .nothing
  split
  · exact .nothing
  generalize currentNumbers buffers terminal row.numbers ++ ownNumber number = numbers
  generalize trimTerminalOutput (currentTail buffers terminal row.output ++ chunk) = tail
  dsimp only
  have recordOthers := fun other => record_other buffers terminal other tail seq numbers now
  have recordSelf := record_self buffers terminal tail seq numbers now
  have recordDue : (record buffers terminal tail seq numbers now).2 = true → _ :=
    record_due unnamed
  generalize record buffers terminal tail seq numbers now = recorded at *
  by_cases ending : terminalStatusTransition row.status status ∈ endStatuses
  · -- An ending status writes the tail and forgets the buffer.
    simp only [ending, decide_true, Bool.or_true, Bool.true_or, if_true]
    refine .written ?_ rfl rfl rfl (.inl (Function.update_self _ _ _)) (.inr (.inl ending))
    intro other different
    rw [forget, Function.update_of_ne different, markFlushed_other _ _ _ _ different,
      recordOthers other different]
  · simp only [ending, decide_false, Bool.or_false, Bool.false_eq_true, if_false]
    by_cases writes : (recorded.2 || settle) = true
    · simp only [writes, if_true]
      refine .written ?_ rfl rfl rfl ?_ ?_
      · intro other different
        rw [markFlushed_other _ _ _ _ different, recordOthers other different]
      · rw [markFlushed_self]
        rcases recordSelf with ⟨held, holds, folded, numbered⟩ | ⟨noName, unrecorded⟩
        · rw [holds]
          exact .inr ⟨_, rfl, folded, numbered⟩
        · left
          simp [unrecorded, noName, unnamed]
      · rcases Bool.or_eq_true_iff.mp writes with due | settling
        · exact .inl (recordDue due)
        · exact .inr (.inr settling)
    · simp only [writes]
      refine .held recordOthers rfl rfl ?_
      rcases recordSelf with ⟨held, holds, folded, numbered⟩ | ⟨_, unrecorded⟩
      · exact ⟨held, holds, folded, numbered⟩
      · rw [unrecorded] at writes
        exact absurd rfl writes

theorem Appended.others {buffers : Buffers} {terminal : TerminalId} {row : Row} {status : String}
    {seq : Option Nat} {settle : Bool} {numbers : List Nat} {now : Nat}
    {result : Buffers × Option RowUpdate}
    (appended : Appended buffers terminal row status seq settle numbers now result)
    (other : TerminalId) (different : other ≠ terminal) : result.1 other = buffers other := by
  cases appended with
  | nothing => rfl
  | written others => exact others other different
  | held others => exact others other different

/-- No tail is ever held under the empty id. -/
theorem append_unnamed {buffers : Buffers} (unnamed : buffers "" = none) (terminal : TerminalId)
    (row : Row) (chunk status : String) (seq : Option Nat) (settle : Bool) (number now : Nat) :
    (appendTerminalOutput buffers terminal row chunk status seq settle number now).1 "" = none := by
  by_cases noName : "" = terminal
  · subst noName
    unfold appendTerminalOutput
    split
    · exact unnamed
    split
    · exact unnamed
    simp only [record, if_true, Bool.true_or]
    split
    · exact Function.update_self _ _ _
    · rw [markFlushed_self, unnamed]
      rfl
  · rw [(append_spec unnamed terminal row chunk status seq settle number now).others "" noName,
      unnamed]

/-! ### What a step does to rows and tails -/

def Job.terminal : Job → TerminalId
  | .flush _ terminal _ => terminal
  | .settle terminal => terminal
  | .outside terminal _ _ _ => terminal

/-- A holder that reads the row before it writes. -/
def Job.selects : Job → Bool
  | .flush _ _ (batch :: _) => !batch.isEmpty
  | .settle _ => true
  | _ => false

/-- One `_write_terminal_output` from its append to its commit. -/
structure Wrote (before after : World) (terminal : TerminalId) (row : Row) (output status : String)
    (seq : Option Nat) (settle : Bool) (number now : Nat) : Prop where
  seen : before.seen = some row
  free : before.control = none
  buffers : after.buffers = (appendTerminalOutput before.buffers terminal row output status
    (some (seqOrRow seq row)) settle number now).1
  rows : after.rows = applyUpdate before.rows terminal (appendTerminalOutput before.buffers terminal
    row output status (some (seqOrRow seq row)) settle number now).2
  closed : after.control = none
  unseen : after.seen = none
  stored : ∀ owner value, Event.stored owner value ∈ after.log →
    Event.stored owner value ∈ before.log ∨ Event.stored owner value ∈ storedEvents terminal
      (appendTerminalOutput before.buffers terminal row output status
        (some (seqOrRow seq row)) settle number now).2

inductive RowMove (before after : World) : Label → Prop where
  | idle {label : Label} (rows : after.rows = before.rows) (buffers : after.buffers = before.buffers)
      (control : after.control = before.control ∨
        ∀ terminal update, after.control ≠ some (.appended terminal update))
      (seen : after.seen = none ∨ (after.seen = before.seen ∧
        (after.queue.writers.head? = before.queue.writers.head? ∨
          ∀ job, before.queue.writers.head? = some job → job.selects = false)))
      (stored : ∀ owner value, Event.stored owner value ∈ after.log →
        Event.stored owner value ∈ before.log) : RowMove before after label
  | selected {label : Label} {job : Job} (holder : before.queue.writers.head? = some job)
      (selects : job.selects = true) (writers : after.queue.writers = before.queue.writers)
      (seen : after.seen = some (before.rows job.terminal)) (rows : after.rows = before.rows)
      (buffers : after.buffers = before.buffers) (control : after.control = before.control)
      (log : after.log = before.log) : RowMove before after label
  | wroteBatch {now : Nat} {task : Option TaskId} {terminal : TerminalId} {batch : Batch}
      {rest : List Batch} {waiting : List Job} {row : Row}
      (holder : before.queue.writers = .flush task terminal (batch :: rest) :: waiting)
      (wrote : Wrote before after terminal row batch.output.text batch.status (some batch.seq) false
        batch.seq now)
      (logged : Event.committed terminal batch ∈ after.log) : RowMove before after (.write now)
  | settled {now : Nat} {terminal : TerminalId} {waiting : List Job} {row : Row}
      (holder : before.queue.writers = .settle terminal :: waiting)
      (wrote : Wrote before after terminal row "" "" ((before.buffers terminal).bind Tail.seq) true 0
        now) : RowMove before after (.write now)
  | appended {now : Nat} {terminal : TerminalId} {output status ownStatus : String}
      {waiting : List Job}
      (holder : before.queue.writers = .outside terminal output status ownStatus :: waiting)
      (rows : after.rows = before.rows) (seen : after.seen = none) (log : after.log = before.log)
      (buffers : after.buffers = (appendTerminalOutput before.buffers terminal
        { before.rows terminal with status := ownStatus } output status none false 0 now).1)
      (control : after.control = some (.appended terminal (appendTerminalOutput before.buffers
        terminal { before.rows terminal with status := ownStatus } output status none false 0
        now).2)) : RowMove before after (.append now)
  | committed {label : Label} {terminal : TerminalId} {update : Option RowUpdate}
      (holding : before.control = some (.appended terminal update))
      (rows : after.rows = applyUpdate before.rows terminal update)
      (buffers : after.buffers = before.buffers) (closed : after.control = none)
      (seen : after.seen = before.seen) (writers : after.queue.writers = before.queue.writers)
      (log : after.log = before.log ++ storedEvents terminal update) : RowMove before after label

/-- Events that write no `output_seq`. -/
def StoresNothing (events : List Event) : Prop :=
  ∀ owner value, Event.stored owner value ∉ events

theorem storesNothing_append {before after : World} {events : List Event}
    (log : after.log = before.log ++ events) (none : StoresNothing events) (owner : TerminalId)
    (value : Nat) (member : Event.stored owner value ∈ after.log) :
    Event.stored owner value ∈ before.log := by
  rw [log] at member
  rcases List.mem_append.mp member with earlier | added
  · exact earlier
  · exact absurd added (none owner value)

theorem enqueue_storesNothing (limits : Limits) (queue : Queue) (terminal : TerminalId)
    (output status : String) (baseSeq : Nat) (autoschedule : Bool) :
    StoresNothing (enqueue limits queue terminal output status baseSeq autoschedule).2.2 := by
  intro owner value member
  unfold enqueue at member
  dsimp only at member
  split at member
  · cases member
  · simp only [appendEvents, scheduleEvents, List.mem_append, List.mem_map] at member
    rcases member with (accepted | ⟨_, _, discarded⟩) | scheduled
    · split at accepted <;> simp at accepted
    · cases discarded
    · repeat' split at scheduled
      all_goals simp at scheduled

theorem flushTerminal_storesNothing (queue : Queue) (me : Option TaskId) (terminal : TerminalId) :
    StoresNothing (flushTerminal queue me terminal).2 := by
  have popping : StoresNothing (flushTerminal.popState me terminal queue).2 := by
    intro owner value member
    unfold flushTerminal.popState at member
    split at member <;> simp at member
  unfold flushTerminal
  split
  · split
    · exact popping
    · intro owner value member
      cases member
  · exact popping

theorem requeueFront_storesNothing (queue : Queue) (terminal : TerminalId) (batches : List Batch) :
    StoresNothing (requeueFront queue terminal batches).2 := by
  obtain ⟨removed, events⟩ := requeueFront_events queue terminal batches
  intro owner value member
  rw [events] at member
  obtain ⟨_, _, impossible⟩ := List.mem_map.mp member
  cases impossible

theorem flushTerminal_head (queue : Queue) (me : Option TaskId) (terminal : TerminalId) :
    (flushTerminal queue me terminal).1.writers.head? = queue.writers.head? ∨
      ∀ job, queue.writers.head? = some job → job.selects = false := by
  have popping : (flushTerminal.popState me terminal queue).1.writers.head? = queue.writers.head? ∨
      ∀ job, queue.writers.head? = some job → job.selects = false := by
    unfold flushTerminal.popState
    split
    · exact .inl rfl
    · cases queue.writers with
      | nil => exact .inr fun _ absent => (nomatch absent)
      | cons holder waiting => exact .inl rfl
  unfold flushTerminal
  split
  · split
    · exact popping
    · exact .inl rfl
  · exact popping

theorem joined_head (writers : List Job) (job : Job) :
    (writers ++ [job]).head? = writers.head? ∨
      ∀ holder, writers.head? = some holder → holder.selects = false := by
  cases writers with
  | nil => exact .inr fun _ absent => (nomatch absent)
  | cons holder waiting => exact .inl rfl

theorem flush_rowMove (world : World) (me : Option TaskId) (terminal : TerminalId)
    (label : Label) :
    RowMove world (world.withQueue (flushTerminal world.queue me terminal)) label :=
  .idle rfl rfl (.inl rfl) (.inr ⟨rfl, flushTerminal_head world.queue me terminal⟩)
    (storesNothing_append rfl (flushTerminal_storesNothing world.queue me terminal))

theorem quiet_rowMove {before after : World} {label : Label} (rows : after.rows = before.rows)
    (buffers : after.buffers = before.buffers) (control : after.control = before.control)
    (seen : after.seen = before.seen)
    (head : after.queue.writers.head? = before.queue.writers.head? ∨
      ∀ job, before.queue.writers.head? = some job → job.selects = false)
    (log : after.log = before.log) : RowMove before after label :=
  .idle rows buffers (.inl control) (.inr ⟨seen, head⟩) fun _ _ member => log ▸ member

theorem released_rowMove {before after : World} {label : Label} (rows : after.rows = before.rows)
    (buffers : after.buffers = before.buffers)
    (control : after.control = before.control ∨
      ∀ terminal update, after.control ≠ some (.appended terminal update))
    (seen : after.seen = none) (log : after.log = before.log) : RowMove before after label :=
  .idle rows buffers control (.inl seen) fun _ _ member => log ▸ member

theorem stepTask_rowMove {before after : World} {label : Label}
    (taken : stepTask before label = some after) : RowMove before after label := by
  cases label <;> simp only [stepTask, reduceCtorEq] at taken
  case timerFlush terminal =>
    cases taken
    exact quiet_rowMove rfl rfl rfl rfl (.inl rfl) rfl
  case startFlush id =>
    split at taken
    · cases taken
      exact flush_rowMove before _ _ _
    · cases taken
  case directFlush terminal =>
    cases taken
    exact flush_rowMove before _ _ _
  case joinedDone id =>
    split at taken
    · split at taken
      · cases taken
      · cases taken
        exact quiet_rowMove rfl rfl rfl rfl (.inl rfl) rfl
    · cases taken
  case taskDone id =>
    split at taken
    · cases taken
      exact quiet_rowMove rfl rfl rfl rfl (.inl rfl) rfl
    · cases taken

theorem writeTerminalOutput_stored (world : World) (row : Row) (terminal : TerminalId)
    (output status : String) (seq : Option Nat) (settle : Bool) (number now : Nat)
    (owner : TerminalId) (value : Nat) (member : Event.stored owner value ∈
      (writeTerminalOutput world row terminal output status seq settle number now).log) :
    Event.stored owner value ∈ world.log ∨ Event.stored owner value ∈ storedEvents terminal
      (appendTerminalOutput world.buffers terminal row output status
        (some (seqOrRow seq row)) settle number now).2 := by
  simp only [writeTerminalOutput, List.mem_append] at member
  rcases member with (earlier | stored) | broadcast
  · exact .inl earlier
  · exact .inr stored
  · split at broadcast <;> simp at broadcast

theorem stepHolder_rowMove {before after : World} {holder : Job} {waiting : List Job}
    {label : Label} (held : before.queue.writers = holder :: waiting)
    (taken : stepHolder before holder waiting label = some after) :
    RowMove before after label := by
  have head : before.queue.writers.head? = some holder := by rw [held]; rfl
  cases label <;> simp only [stepHolder, reduceCtorEq] at taken
  case skip =>
    split at taken
    · split at taken
      · next empty =>
          cases taken
          refine quiet_rowMove rfl rfl rfl rfl (.inr ?_) rfl
          intro job isHead
          cases head.symm.trans isHead
          simp [Job.selects, empty]
      · cases taken
    · cases taken
  case select =>
    split at taken
    · split at taken
      · cases taken
      · next filled =>
          cases taken
          exact .selected head (by simp [Job.selects, filled]) rfl rfl rfl rfl rfl rfl
    · split at taken
      · cases taken
        exact released_rowMove rfl rfl (.inl rfl) rfl rfl
      · cases taken
        exact .selected head rfl rfl rfl rfl rfl rfl rfl
    · cases taken
  case write now =>
    split at taken
    · next seen free =>
        cases taken
        refine .wroteBatch held ⟨seen, free, rfl, rfl, free, rfl, ?_⟩ (by simp [commitBatch])
        intro owner value member
        simp only [commitBatch, List.mem_append, List.mem_singleton, reduceCtorEq,
          or_false] at member
        exact writeTerminalOutput_stored _ _ _ _ _ _ _ _ _ owner value member
    · next seen free =>
        cases taken
        exact .settled held ⟨seen, free, rfl, rfl, free, rfl,
          writeTerminalOutput_stored _ _ _ _ _ _ _ _ _⟩
    · cases taken
  case raise =>
    split at taken
    · split at taken
      · cases taken
      · cases taken
        exact .idle rfl rfl (.inl rfl) (.inl rfl)
          (storesNothing_append rfl (requeueFront_storesNothing _ _ _))
    · cases taken
      exact released_rowMove rfl rfl (.inl rfl) rfl rfl
    · cases taken
      exact released_rowMove rfl rfl (.inr fun _ _ => by rintro ⟨⟩) rfl rfl
    · cases taken
  case finish =>
    split at taken
    · cases taken
      refine quiet_rowMove rfl rfl rfl rfl (.inr ?_) rfl
      intro job isHead
      cases head.symm.trans isHead
      rfl
    · cases taken
  case append now =>
    split at taken
    · cases taken
      exact .appended held rfl rfl rfl rfl rfl
    · cases taken

theorem stepCaller_rowMove {before after : World} {label : Label}
    (taken : stepCaller before label = some after) : RowMove before after label := by
  cases label <;> simp only [stepCaller, reduceCtorEq] at taken
  case settle terminal held =>
    split at taken
    · cases taken
      exact quiet_rowMove rfl rfl rfl rfl (joined_head _ _) rfl
    · cases taken
      exact quiet_rowMove rfl rfl rfl rfl (.inl rfl) rfl
  case outside terminal output status ownStatus =>
    split at taken
    · cases taken
      exact .idle rfl rfl (.inr fun _ _ => by rintro ⟨⟩) (.inr ⟨rfl, joined_head _ _⟩)
        fun _ _ member => member
    · cases taken
  case commit =>
    split at taken
    · next holding =>
        cases taken
        exact .committed holding rfl rfl rfl rfl rfl rfl
    · cases taken
  case rollback =>
    split at taken
    · cases taken
      exact .idle rfl rfl (.inr fun _ _ => by rintro ⟨⟩) (.inr ⟨rfl, .inl rfl⟩) fun _ _ member => member
    · cases taken

theorem step_rowMove {limits : Limits} {before after : World} {label : Label}
    (taken : step limits before label = some after) : RowMove before after label := by
  cases label with
  | enqueue terminal output status baseSeq autoschedule =>
      cases taken
      refine .idle rfl rfl (.inl rfl) (.inr ⟨rfl, .inl ?_⟩)
        (storesNothing_append rfl (enqueue_storesNothing _ _ _ _ _ _ _))
      simp only [World.withQueue, enqueue]
      split <;> rfl
  | timerFlush | startFlush | directFlush | joinedDone | taskDone => exact stepTask_rowMove taken
  | skip | select | write | raise | finish | append =>
      simp only [step] at taken
      split at taken
      · cases taken
      · next held => exact stepHolder_rowMove held taken
  | settle | outside | commit | rollback => exact stepCaller_rowMove taken

/-! ### Steps that keep bytes and number together -/

/-- The tail held in memory carries no number the row does not have. -/
def heldNumberStored (world : World) (terminal : TerminalId) : Bool :=
  currentSeq world.buffers terminal (world.rows terminal).outputSeq =
    (world.rows terminal).outputSeq

/-- An outside append that writes the held tail: the interval has passed, or the
status ends the terminal. -/
def outsideWritesTail (world : World) (terminal : TerminalId) (output status ownStatus : String)
    (now : Nat) : Bool :=
  (output ≠ "" || status ≠ "") && (tailDue world.buffers terminal now ||
    decide (terminalStatusTransition ownStatus status ∈ endStatuses))

/-- `rows` are the rows the run began with. A post's base is an `output_seq` its
row has held; the other three branches are the defects. -/
def keepsGeneration (rows : TerminalId → Row) (world : World) : Label → Bool
  | .enqueue terminal _ _ baseSeq _ =>
      baseSeq = (rows terminal).outputSeq || decide (Event.stored terminal baseSeq ∈ world.log)
  | .raise => handsBackInOrder world .raise
  | .write _ =>
      match world.queue.writers with
      | .flush _ terminal (batch :: _) :: _ => batch.seq ≠ 0 || heldNumberStored world terminal
      | _ => true
  | .append now =>
      match world.queue.writers with
      | .outside terminal output status ownStatus :: _ =>
          !outsideWritesTail world terminal output status ownStatus now ||
            heldNumberStored world terminal
      | _ => true
  | _ => true

def KeepsGeneration (rows : TerminalId → Row) (world : World) (label : Label) : Prop :=
  keepsGeneration rows world label = true

/-- A row and its tail stand under numbers of the committed line. -/
structure OneGeneration (start : TerminalId → Nat) (world : World) : Prop where
  unnamed : world.buffers "" = none
  generation : ∀ terminal, Generation (world.rows terminal) (world.buffers terminal)
  rowNumber : ∀ terminal,
    (world.rows terminal).outputSeq ∈ start terminal :: numbersOf (world.committed terminal)
  heldNumber : ∀ terminal, lastNumber (world.rows terminal) (world.buffers terminal) ∈
    start terminal :: numbersOf (world.committed terminal)
  seen : ∀ row, world.seen = some row → ∃ job, world.queue.writers.head? = some job ∧
    job.selects = true ∧ row.outputSeq = (world.rows job.terminal).outputSeq ∧
      highest row.numbers = row.outputSeq
  control : ∀ terminal update, world.control = some (.appended terminal (some update)) →
    update.outputSeq = none ∧
      (update.output.isSome = true → highest update.numbers = (world.rows terminal).outputSeq)
  stored : ∀ terminal value, Event.stored terminal value ∈ world.log → start terminal ≤ value

theorem lastNumber_congr {row row' : Row} (same : row'.outputSeq = row.outputSeq)
    (held : Option Tail) : lastNumber row' held = lastNumber row held := by
  unfold lastNumber
  rw [same]

theorem Generation.congr {row row' : Row} {held : Option Tail} (generation : Generation row held)
    (same : row'.outputSeq = row.outputSeq) (stored : highest row'.numbers = row'.outputSeq) :
    Generation row' held :=
  ⟨stored, fun tail holds => (generation.tail tail holds).trans (lastNumber_congr same held).symm,
    same ▸ (lastNumber_congr same held) ▸ generation.ahead⟩

theorem applyUpdate_self (rows : TerminalId → Row) (terminal : TerminalId) (update : RowUpdate) :
    applyUpdate rows terminal (some update) terminal = update.apply (rows terminal) :=
  Function.update_self _ _ _

theorem applyUpdate_other (rows : TerminalId → Row) (terminal other : TerminalId)
    (update : Option RowUpdate) (different : other ≠ terminal) :
    applyUpdate rows terminal update other = rows other := by
  cases update with
  | none => rfl
  | some update => exact Function.update_of_ne different _ _

/-- The row a write has read stands for the row it updates. -/
structure ReadRow (read row : Row) : Prop where
  number : read.outputSeq = row.outputSeq
  stored : highest read.numbers = read.outputSeq

theorem ReadRow.current {read row : Row} {buffers : Buffers} {terminal : TerminalId}
    (reading : ReadRow read row) (generation : Generation row (buffers terminal)) :
    highest (currentNumbers buffers terminal read.numbers) = lastNumber row (buffers terminal) := by
  have swapped := (generation.congr reading.number reading.stored).current
  rw [swapped, lastNumber_congr reading.number]

/-- A write whose number is the highest of what it folds keeps row and tail
together, and moves both only to that number. -/
theorem numbered_append {rows : TerminalId → Row} {buffers : Buffers} {terminal : TerminalId}
    {read : Row} {status : String} {settle : Bool} {used number now : Nat}
    {result : Buffers × Option RowUpdate} (reading : ReadRow read (rows terminal))
    (generation : Generation (rows terminal) (buffers terminal))
    (folded : max (lastNumber (rows terminal) (buffers terminal)) number = used)
    (appended : Appended buffers terminal read status (some used) settle
      (currentNumbers buffers terminal read.numbers ++ ownNumber number) now result) :
    Generation (applyUpdate rows terminal result.2 terminal) (result.1 terminal) ∧
      ((applyUpdate rows terminal result.2 terminal).outputSeq = (rows terminal).outputSeq ∨
        (applyUpdate rows terminal result.2 terminal).outputSeq = used) ∧
      (lastNumber (applyUpdate rows terminal result.2 terminal) (result.1 terminal) =
          lastNumber (rows terminal) (buffers terminal) ∨
        lastNumber (applyUpdate rows terminal result.2 terminal) (result.1 terminal) = used) ∧
      (∀ value, Event.stored terminal value ∈ storedEvents terminal result.2 → value = used) := by
  have total : highest (currentNumbers buffers terminal read.numbers ++ ownNumber number) =
      used := by
    rw [highest_append, highest_ownNumber, reading.current generation, folded]
  have behind : (rows terminal).outputSeq ≤ used :=
    generation.ahead.trans (folded ▸ Nat.le_max_left _ _)
  cases appended with
  | nothing => exact ⟨generation, .inl rfl, .inl rfl, by rintro _ ⟨⟩⟩
  | @written after update others output outputSeq numbers held due =>
      have number : (update.apply (rows terminal)).outputSeq = used := by
        simp [RowUpdate.apply, outputSeq]
      have stored : highest (update.apply (rows terminal)).numbers = used := by
        simpa [RowUpdate.apply, output, numbers] using total
      have events : ∀ value, Event.stored terminal value ∈ storedEvents terminal (some update) →
          value = used := by
        intro value member
        simpa [storedEvents, outputSeq] using member
      rw [applyUpdate_self]
      rcases held with forgotten | ⟨tail, holds, folds, numbered⟩
      · simp only [forgotten]
        exact ⟨⟨stored.trans number.symm, by rintro _ ⟨⟩, Nat.le_refl _⟩,
          .inr number, .inr number, events⟩
      · have last : lastNumber (update.apply (rows terminal)) (after terminal) = used := by
          simp [lastNumber, holds, numbered]
        refine ⟨⟨stored.trans number.symm, ?_, ?_⟩, .inr number, .inr last, events⟩
        · intro other same
          cases holds.symm.trans same
          rw [last, folds, total]
        · rw [number, last]
  | @held after update others output outputSeq held =>
      obtain ⟨tail, holds, folds, numbered⟩ := held
      have number : (update.apply (rows terminal)).outputSeq = (rows terminal).outputSeq := by
        simp [RowUpdate.apply, outputSeq]
      have stored : (update.apply (rows terminal)).numbers = (rows terminal).numbers := by
        simp [RowUpdate.apply, output]
      have last : lastNumber (update.apply (rows terminal)) (after terminal) = used := by
        simp [lastNumber, holds, numbered]
      rw [applyUpdate_self]
      refine ⟨⟨?_, ?_, ?_⟩, .inl number, .inr last, ?_⟩
      · rw [stored, number]
        exact generation.stored
      · intro other same
        cases holds.symm.trans same
        rw [last, folds, total]
      · rw [number, last]
        exact behind
      · intro value member
        simp [storedEvents, outputSeq] at member

/-! ### One step -/

theorem move_log {limits : Limits} {before after : World} {label : Label}
    (move : Move limits before after label) : ∃ events, after.log = before.log ++ events := by
  cases move with
  | enqueued _ _ _ _ log _ _ => exact ⟨_, log⟩
  | popped _ leaves => exact ⟨_, leaves.log⟩
  | committed _ _ leaves => exact ⟨_, leaves.log⟩
  | skipped _ _ leaves => exact ⟨_, leaves.log⟩
  | handedBack _ leaves => exact ⟨_, leaves.log⟩
  | finished _ leaves => exact ⟨_, leaves.log⟩
  | joined _ leaves => exact ⟨_, leaves.log⟩
  | left _ _ _ leaves => exact ⟨_, leaves.log⟩
  | idle _ leaves => exact ⟨_, leaves.log⟩

/-- The numbers a row of the terminal may stand under. -/
def World.stands (world : World) (start : TerminalId → Nat) (terminal : TerminalId) : List Nat :=
  start terminal :: numbersOf (world.committed terminal)

theorem stands_mono {limits : Limits} {before after : World} {label : Label}
    (move : Move limits before after label) (start : TerminalId → Nat) (terminal : TerminalId)
    {number : Nat} (member : number ∈ before.stands start terminal) :
    number ∈ after.stands start terminal := by
  obtain ⟨events, log⟩ := move_log move
  have grown : numbersOf (after.committed terminal) = numbersOf (before.committed terminal) ++
      numbersOf (events.flatMap (committedFor terminal)) := by
    simp [World.committed, log, numbersOf]
  rw [World.stands, grown, ← List.cons_append]
  exact List.mem_append_left _ member

theorem start_le_stands {start : TerminalId → Nat} {world : World} (inOrder : InOrder start world)
    {terminal : TerminalId} {number : Nat} (member : number ∈ world.stands start terminal) :
    start terminal ≤ number := by
  rcases List.mem_cons.mp member with rfl | committed
  · exact Nat.le_refl _
  · refine Nat.le_of_lt (List.rel_of_pairwise_cons (inOrder.numbers terminal) ?_)
    simp only [World.line, numbersOf, List.flatMap_append, List.append_assoc]
    exact List.mem_append_left _ committed

theorem stands_lt_popped {start : TerminalId → Nat} {world : World} (inOrder : InOrder start world)
    {terminal : TerminalId} {number waiting : Nat} (member : number ∈ world.stands start terminal)
    (popped : waiting ∈ numbersOf (world.popped terminal)) : number < waiting := by
  have ordered := inOrder.numbers terminal
  simp only [World.line, numbersOf, List.flatMap_append, List.append_assoc] at ordered
  rw [← List.cons_append, List.pairwise_append] at ordered
  exact ordered.2.2 number member waiting (List.mem_append_left _ popped)

/-- After the step the pairing holds, and no row has gone back. -/
structure Advances (start : TerminalId → Nat) (before after : World) : Prop where
  one : OneGeneration start after
  number : ∀ terminal, (before.rows terminal).outputSeq ≤ (after.rows terminal).outputSeq

/-- The pairing of one terminal after a step, whose row has not gone back. -/
structure PairedAt (start : TerminalId → Nat) (before after : World) (terminal : TerminalId) :
    Prop where
  generation : Generation (after.rows terminal) (after.buffers terminal)
  rowNumber : (after.rows terminal).outputSeq ∈ after.stands start terminal
  heldNumber : lastNumber (after.rows terminal) (after.buffers terminal) ∈
    after.stands start terminal
  number : (before.rows terminal).outputSeq ≤ (after.rows terminal).outputSeq

/-- A terminal whose row keeps its number and whose tail the step leaves alone. -/
theorem OneGeneration.renumbersNothing {limits : Limits} {start : TerminalId → Nat}
    {before after : World} {label : Label} {terminal : TerminalId}
    (one : OneGeneration start before) (move : Move limits before after label)
    (number : (after.rows terminal).outputSeq = (before.rows terminal).outputSeq)
    (stored : highest (after.rows terminal).numbers = (after.rows terminal).outputSeq)
    (buffers : after.buffers terminal = before.buffers terminal) :
    PairedAt start before after terminal := by
  refine ⟨?_, ?_, ?_, Nat.le_of_eq number.symm⟩
  · rw [buffers]
    exact (one.generation terminal).congr number stored
  · rw [number]
    exact stands_mono move start _ (one.rowNumber terminal)
  · rw [buffers, lastNumber_congr number]
    exact stands_mono move start _ (one.heldNumber terminal)

theorem OneGeneration.untouched {limits : Limits} {start : TerminalId → Nat}
    {before after : World} {label : Label} {terminal : TerminalId}
    (one : OneGeneration start before) (move : Move limits before after label)
    (row : after.rows terminal = before.rows terminal)
    (buffers : after.buffers terminal = before.buffers terminal) :
    PairedAt start before after terminal := by
  apply one.renumbersNothing move _ _ buffers <;> rw [row]
  exact (one.generation terminal).stored

theorem storedEvents_owner {terminal owner : TerminalId} {update : Option RowUpdate} {value : Nat}
    (member : Event.stored owner value ∈ storedEvents terminal update) : owner = terminal := by
  simp only [storedEvents, Option.mem_toList, Option.map_eq_some_iff] at member
  obtain ⟨_, _, same⟩ := member
  cases same
  rfl

theorem wrote_advances {limits : Limits} {start : TerminalId → Nat} {before after : World}
    {label : Label} {job : Job} {read : Row} {output status : String} {seq : Option Nat}
    {settle : Bool} {number now : Nat} (one : OneGeneration start before)
    (move : Move limits before after label) (inOrder : InOrder start after)
    (holder : before.queue.writers.head? = some job)
    (wrote : Wrote before after job.terminal read output status seq settle number now)
    (folded : ReadRow read (before.rows job.terminal) →
      max (lastNumber (before.rows job.terminal) (before.buffers job.terminal)) number =
        seqOrRow seq read)
    (member : seqOrRow seq read ∈ after.stands start job.terminal ∨
      seqOrRow seq read = lastNumber (before.rows job.terminal) (before.buffers job.terminal)) :
    Advances start before after := by
  obtain ⟨other, isHead, _, sameNumber, stored⟩ := one.seen read wrote.seen
  cases holder.symm.trans isHead
  have reading : ReadRow read (before.rows job.terminal) := ⟨sameNumber, stored⟩
  have stands : seqOrRow seq read ∈ after.stands start job.terminal := by
    rcases member with new | current
    · exact new
    · rw [current]
      exact stands_mono move start _ (one.heldNumber job.terminal)
  have appended := append_spec one.unnamed job.terminal read output status
    (some (seqOrRow seq read)) settle number now
  obtain ⟨generation, rowNumber, heldNumber, events⟩ := numbered_append reading
    (one.generation job.terminal) (folded reading) appended
  rw [← wrote.rows, ← wrote.buffers] at generation heldNumber
  rw [← wrote.rows] at rowNumber
  have written : PairedAt start before after job.terminal := by
    refine ⟨generation, ?_, ?_, ?_⟩
    · rcases rowNumber with kept | moved
      · rw [kept]
        exact stands_mono move start _ (one.rowNumber job.terminal)
      · rw [moved]
        exact stands
    · rcases heldNumber with kept | moved
      · rw [kept]
        exact stands_mono move start _ (one.heldNumber job.terminal)
      · rw [moved]
        exact stands
    · rcases rowNumber with kept | moved
      · exact Nat.le_of_eq kept.symm
      · rw [moved]
        exact (one.generation job.terminal).ahead.trans (folded reading ▸ Nat.le_max_left _ _)
  have paired (other : TerminalId) : PairedAt start before after other := by
    -- Only the job's terminal is written.
    by_cases same : other = job.terminal
    · exact same ▸ written
    · apply one.untouched move
      · rw [wrote.rows, applyUpdate_other _ _ _ _ same]
      · rw [wrote.buffers]
        exact appended.others other same
  refine ⟨⟨?_, fun other => (paired other).generation, fun other => (paired other).rowNumber,
    fun other => (paired other).heldNumber, ?_, ?_, ?_⟩, fun other => (paired other).number⟩
  · rw [wrote.buffers]
    exact append_unnamed one.unnamed _ _ _ _ _ _ _ _
  · intro row seen
    rw [wrote.unseen] at seen
    cases seen
  · intro terminal update holding
    rw [wrote.closed] at holding
    cases holding
  · intro owner value logged
    rcases wrote.stored owner value logged with earlier | added
    · exact one.stored owner value earlier
    · obtain rfl := storedEvents_owner added
      rw [events value added]
      exact start_le_stands inOrder stands

/-- The number a settle writes is the one the held tail carries. -/
theorem settle_number {row read : Row} {held : Option Tail} (reading : ReadRow read row)
    (generation : Generation row held) :
    seqOrRow (held.bind Tail.seq) read = lastNumber row held := by
  have ahead := generation.ahead
  rcases held with _ | tail
  · exact reading.number
  · cases carried : tail.seq with
    | none => simp [seqOrRow, lastNumber, carried, reading.number]
    | some number =>
        simp only [lastNumber, carried, Option.getD_some] at ahead
        by_cases zero : number = 0
        · have noNumber : row.outputSeq = 0 := by omega
          simp [seqOrRow, lastNumber, carried, reading.number, zero, noNumber]
        · simp [seqOrRow, lastNumber, carried, zero]

theorem wroteBatch_advances {limits : Limits} {start : TerminalId → Nat}
    {rows : TerminalId → Row} {before after : World} {now : Nat} {task : Option TaskId}
    {terminal : TerminalId} {batch : Batch} {rest : List Batch} {waiting : List Job} {read : Row}
    (one : OneGeneration start before) (move : Move limits before after (.write now))
    (ordered : InOrder start before) (inOrder : InOrder start after)
    (allowed : KeepsGeneration rows before (.write now))
    (holder : before.queue.writers = .flush task terminal (batch :: rest) :: waiting)
    (wrote : Wrote before after terminal read batch.output.text batch.status (some batch.seq) false
      batch.seq now) (logged : Event.committed terminal batch ∈ after.log) :
    Advances start before after := by
  have head : before.queue.writers.head? = some (.flush task terminal (batch :: rest)) := by
    rw [holder]
    rfl
  have next : batch.seq ≠ 0 → batch.seq ∈ numbersOf (before.popped terminal) := by
    intro numbered
    simp [World.popped, holder, Job.poppedFor, numbersOf, ownNumber, numbered]
  have stored : batch.seq = 0 → lastNumber (before.rows terminal) (before.buffers terminal) =
      (before.rows terminal).outputSeq := by
    intro unnumbered
    simpa [KeepsGeneration, keepsGeneration, holder, unnumbered, heldNumberStored,
      currentSeq_eq] using allowed
  apply wrote_advances one move inOrder head wrote
  · intro reading
    by_cases unnumbered : batch.seq = 0
    · simp only [unnumbered, seqOrRow, if_true, Nat.max_zero]
      exact (stored unnumbered).trans reading.number.symm
    -- A numbered batch is above every number committed before it, so it is the
    -- highest of what is folded with it.
    · have above := stands_lt_popped ordered (one.heldNumber terminal) (next unnumbered)
      simp only [seqOrRow, unnumbered, if_false]
      exact Nat.max_eq_right (Nat.le_of_lt above)
  · by_cases unnumbered : batch.seq = 0
    · right
      obtain ⟨job, isHead, _, sameNumber, _⟩ := one.seen read wrote.seen
      cases head.symm.trans isHead
      simp only [unnumbered, seqOrRow, if_true]
      exact sameNumber.trans (stored unnumbered).symm
    · left
      have committed : batch ∈ after.committed terminal :=
        List.mem_flatMap.mpr ⟨_, logged, by simp [committedFor]⟩
      simp only [seqOrRow, unnumbered, if_false]
      refine List.mem_cons_of_mem _ (List.mem_flatMap.mpr ⟨batch, committed, ?_⟩)
      simp [ownNumber, unnumbered]

/-- A tail held again without a number keeps the number it had. -/
theorem HoldsTail.keeps {row : Row} {after before : Option Tail} {numbers : List Nat}
    (generation : Generation row before) (total : highest numbers = lastNumber row before)
    (holds : HoldsTail after before none numbers) :
    Generation row after ∧ lastNumber row after = lastNumber row before := by
  obtain ⟨tail, rfl, folds, numbered⟩ := holds
  have last : lastNumber row (some tail) = lastNumber row before := by
    simp only [lastNumber, numbered, Option.none_or]
    cases before <;> rfl
  refine ⟨⟨generation.stored, ?_, last ▸ generation.ahead⟩, last⟩
  intro other same
  cases same
  rw [folds, total, last]

/-- An append without a number keeps row and tail together when the tail it
writes, if it writes one, has the row's number. -/
theorem unnumbered_append {row read : Row} {buffers : Buffers} {terminal : TerminalId}
    {status : String} {settle : Bool} {now : Nat} {result : Buffers × Option RowUpdate}
    (generation : Generation row (buffers terminal))
    (appended : Appended buffers terminal read status none settle
      (currentNumbers buffers terminal row.numbers ++ ownNumber 0) now result)
    (agrees : result.2 ≠ none → (tailDue buffers terminal now = true ∨
      terminalStatusTransition read.status status ∈ endStatuses ∨ settle = true) →
      lastNumber row (buffers terminal) = row.outputSeq) :
    Generation row (result.1 terminal) ∧
      (lastNumber row (result.1 terminal) = lastNumber row (buffers terminal) ∨
        lastNumber row (result.1 terminal) = row.outputSeq) ∧
      ∀ update, result.2 = some update → update.outputSeq = none ∧
        (update.output.isSome = true → highest update.numbers = row.outputSeq) := by
  have total : highest (currentNumbers buffers terminal row.numbers ++ ownNumber 0) =
      lastNumber row (buffers terminal) := by
    rw [highest_append, highest_ownNumber, generation.current, Nat.max_zero]
  cases appended with
  | nothing => exact ⟨generation, .inl rfl, fun _ absent => (nomatch absent)⟩
  | written others output number folded held due =>
      have stored := agrees nofun due
      refine ⟨?_, ?_, ?_⟩
      · rcases held with forgotten | holds
        · simp only [forgotten]
          exact generation.forgotten
        · exact (holds.keeps generation total).1
      · rcases held with forgotten | holds
        · simp only [forgotten]
          exact .inr rfl
        · exact .inl (holds.keeps generation total).2
      · intro update same
        cases same
        refine ⟨number, fun _ => ?_⟩
        rw [folded, total, stored]
  | held others output number held =>
      refine ⟨(held.keeps generation total).1, .inl (held.keeps generation total).2, ?_⟩
      intro update same
      cases same
      refine ⟨number, fun isSome => ?_⟩
      rw [output] at isSome
      cases isSome

/-- The guard of an outside append that changes something and writes the tail. -/
theorem outside_agrees {rows : TerminalId → Row} {world : World} {now : Nat}
    {terminal : TerminalId} {output status ownStatus : String} {waiting : List Job}
    (allowed : KeepsGeneration rows world (.append now))
    (holder : world.queue.writers = .outside terminal output status ownStatus :: waiting)
    (filled : ¬ (output = "" ∧ status = ""))
    (writes : tailDue world.buffers terminal now = true ∨
      terminalStatusTransition ownStatus status ∈ endStatuses) :
    lastNumber (world.rows terminal) (world.buffers terminal) =
      (world.rows terminal).outputSeq := by
  have writesTail : outsideWritesTail world terminal output status ownStatus now = true := by
    simp only [outsideWritesTail, Bool.and_eq_true, Bool.or_eq_true, decide_eq_true_eq]
    exact ⟨not_and_or.mp filled, writes⟩
  simpa [KeepsGeneration, keepsGeneration, holder, writesTail, heldNumberStored,
    currentSeq_eq] using allowed

theorem appended_advances {limits : Limits} {start : TerminalId → Nat}
    {rows : TerminalId → Row} {before after : World} {now : Nat} {terminal : TerminalId}
    {output status ownStatus : String} {waiting : List Job} (one : OneGeneration start before)
    (move : Move limits before after (.append now))
    (allowed : KeepsGeneration rows before (.append now))
    (holder : before.queue.writers = .outside terminal output status ownStatus :: waiting)
    (sameRows : after.rows = before.rows) (seen : after.seen = none)
    (log : after.log = before.log)
    (buffers : after.buffers = (appendTerminalOutput before.buffers terminal
      { before.rows terminal with status := ownStatus } output status none false 0 now).1)
    (control : after.control = some (.appended terminal (appendTerminalOutput before.buffers
      terminal { before.rows terminal with status := ownStatus } output status none false 0
      now).2)) : Advances start before after := by
  have appended := append_spec one.unnamed terminal
    { before.rows terminal with status := ownStatus } output status none false 0 now
  obtain ⟨kept, last, fromRow⟩ := unnumbered_append (one.generation terminal) appended (by
    intro changed writes
    apply outside_agrees allowed holder
    · rintro ⟨noOutput, noStatus⟩
      exact changed (by simp [appendTerminalOutput, noOutput, noStatus])
    · simpa using writes)
  rw [← buffers] at kept last
  rw [← sameRows] at kept last
  have held : PairedAt start before after terminal := by
    refine ⟨kept, ?_, ?_, sameRows ▸ Nat.le_refl _⟩
    · rw [sameRows]
      exact stands_mono move start _ (one.rowNumber terminal)
    · rcases last with current | fell
      · rw [current, sameRows]
        exact stands_mono move start _ (one.heldNumber terminal)
      · rw [fell, sameRows]
        exact stands_mono move start _ (one.rowNumber terminal)
  have paired (other : TerminalId) : PairedAt start before after other := by
    by_cases same : other = terminal
    · exact same ▸ held
    · apply one.untouched move (by rw [sameRows])
      rw [buffers]
      exact appended.others other same
  refine ⟨⟨?_, fun other => (paired other).generation, fun other => (paired other).rowNumber,
    fun other => (paired other).heldNumber, ?_, ?_, ?_⟩, fun other => (paired other).number⟩
  · rw [buffers]
    exact append_unnamed one.unnamed _ _ _ _ _ _ _ _
  · intro row present
    rw [seen] at present
    cases present
  · intro owner update holding
    rw [control] at holding
    simp only [Option.some.injEq, Control.appended.injEq] at holding
    rw [← holding.1, sameRows]
    exact fromRow update holding.2
  · intro owner value member
    rw [log] at member
    exact one.stored owner value member

theorem committed_advances {limits : Limits} {start : TerminalId → Nat} {before after : World}
    {label : Label} {terminal : TerminalId} {update : Option RowUpdate}
    (one : OneGeneration start before) (move : Move limits before after label)
    (holding : before.control = some (.appended terminal update))
    (rows : after.rows = applyUpdate before.rows terminal update)
    (buffers : after.buffers = before.buffers) (closed : after.control = none)
    (seen : after.seen = before.seen) (writers : after.queue.writers = before.queue.writers)
    (log : after.log = before.log ++ storedEvents terminal update) :
    Advances start before after := by
  have stored : ∀ other, (after.rows other).outputSeq = (before.rows other).outputSeq ∧
      highest (after.rows other).numbers = (after.rows other).outputSeq := by
    intro other
    have kept := (one.generation other).stored
    rw [rows]
    by_cases same : other = terminal
    · subst same
      cases update with
      | none => exact ⟨rfl, kept⟩
      | some update =>
          obtain ⟨number, folded⟩ := one.control other update holding
          rw [applyUpdate_self]
          have sameNumber : (update.apply (before.rows other)).outputSeq =
              (before.rows other).outputSeq := by
            simp [RowUpdate.apply, number]
          refine ⟨sameNumber, ?_⟩
          rw [sameNumber]
          by_cases writes : update.output.isSome = true
          · simp [RowUpdate.apply, writes, folded writes]
          · simp [RowUpdate.apply, writes, kept]
    · rw [applyUpdate_other _ _ _ _ same]
      exact ⟨rfl, kept⟩
  have paired (other : TerminalId) : PairedAt start before after other :=
    one.renumbersNothing move (stored other).1 (stored other).2 (by rw [buffers])
  refine ⟨⟨buffers ▸ one.unnamed, fun other => (paired other).generation,
    fun other => (paired other).rowNumber, fun other => (paired other).heldNumber, ?_, ?_, ?_⟩,
    fun other => (paired other).number⟩
  · intro row present
    rw [seen] at present
    obtain ⟨job, head, selects, number, numbers⟩ := one.seen row present
    exact ⟨job, writers ▸ head, selects, number.trans (stored job.terminal).1.symm, numbers⟩
  · intro owner found present
    rw [closed] at present
    cases present
  · intro owner value member
    rw [log] at member
    rcases List.mem_append.mp member with earlier | added
    · exact one.stored owner value earlier
    · cases update with
      | none => cases added
      | some update =>
          have number := (one.control terminal update holding).1
          simp [storedEvents, number] at added

theorem idle_advances {limits : Limits} {start : TerminalId → Nat} {before after : World}
    {label : Label} (one : OneGeneration start before) (move : Move limits before after label)
    (rows : after.rows = before.rows) (buffers : after.buffers = before.buffers)
    (control : after.control = before.control ∨
      ∀ terminal update, after.control ≠ some (.appended terminal update))
    (seen : ∀ row, after.seen = some row → ∃ job, after.queue.writers.head? = some job ∧
      job.selects = true ∧ row.outputSeq = (after.rows job.terminal).outputSeq ∧
        highest row.numbers = row.outputSeq)
    (stored : ∀ owner value, Event.stored owner value ∈ after.log →
      Event.stored owner value ∈ before.log) : Advances start before after := by
  have paired (other : TerminalId) : PairedAt start before after other :=
    one.untouched move (by rw [rows]) (by rw [buffers])
  refine ⟨⟨buffers ▸ one.unnamed, fun other => (paired other).generation,
    fun other => (paired other).rowNumber, fun other => (paired other).heldNumber, seen, ?_, ?_⟩,
    fun other => (paired other).number⟩
  · intro owner update holding
    rcases control with same | none
    · rw [same] at holding
      rw [rows]
      exact one.control owner update holding
    · exact absurd holding (none owner _)
  · intro owner value member
    exact one.stored owner value (stored owner value member)

theorem rowMove_advances {limits : Limits} {start : TerminalId → Nat}
    {rows : TerminalId → Row} {before after : World} {label : Label}
    (rowMove : RowMove before after label) (move : Move limits before after label)
    (ordered : InOrder start before) (inOrder : InOrder start after)
    (allowed : KeepsGeneration rows before label) (one : OneGeneration start before) :
    Advances start before after := by
  cases rowMove with
  | idle sameRows buffers control seen stored =>
      refine idle_advances one move sameRows buffers control ?_ stored
      intro row present
      rcases seen with unseen | ⟨same, sameHead | noReader⟩
      · rw [unseen] at present
        cases present
      · rw [same] at present
        rw [sameHead, sameRows]
        exact one.seen row present
      · rw [same] at present
        obtain ⟨job, head, selects, _⟩ := one.seen row present
        rw [noReader job head] at selects
        cases selects
  | @selected _ job holder selects writers seen sameRows buffers control log =>
      refine idle_advances one move sameRows buffers (.inl control) ?_
        fun _ _ member => log ▸ member
      intro row present
      cases seen.symm.trans present
      rw [writers, sameRows]
      exact ⟨job, holder, selects, rfl, (one.generation job.terminal).stored⟩
  | wroteBatch holder wrote logged =>
      exact wroteBatch_advances one move ordered inOrder allowed holder wrote logged
  | @settled now terminal waiting row holder wrote =>
      have head : before.queue.writers.head? = some (.settle terminal) := by
        rw [holder]
        rfl
      refine wrote_advances one move inOrder head wrote ?_ (.inr ?_)
      · intro reading
        rw [Nat.max_zero]
        exact (settle_number reading (one.generation terminal)).symm
      · obtain ⟨job, isHead, _, number, stored⟩ := one.seen row wrote.seen
        cases head.symm.trans isHead
        exact settle_number ⟨number, stored⟩ (one.generation terminal)
  | appended holder sameRows seen log buffers control =>
      exact appended_advances one move allowed holder sameRows seen log buffers control
  | committed holding newRows buffers closed seen writers log =>
      exact committed_advances one move holding newRows buffers closed seen writers log

/-! ### Whole runs -/

theorem based_of_keeps {rows : TerminalId → Row} {world : World} {label : Label}
    (one : OneGeneration (fun terminal => (rows terminal).outputSeq) world)
    (allowed : KeepsGeneration rows world label) :
    BasedAbove (fun terminal => (rows terminal).outputSeq) label := by
  cases label with
  | enqueue terminal output status baseSeq autoschedule =>
      simp only [KeepsGeneration, keepsGeneration, Bool.or_eq_true, decide_eq_true_eq] at allowed
      rcases allowed with initial | stored
      · exact Nat.le_of_eq initial.symm
      · exact one.stored terminal baseSeq stored
  | _ => trivial

theorem handsBack_of_keeps {rows : TerminalId → Row} {world : World} {label : Label}
    (allowed : KeepsGeneration rows world label) : HandsBackInOrder world label := by
  cases label with
  | raise => exact allowed
  | _ => rfl

/-- Everything the queue keeps true of a world, for the rows a run began with. -/
structure Sound (limits : Limits) (rows : TerminalId → Row) (world : World) : Prop where
  numbered : Numbered world
  conserved : Conserved limits world
  inOrder : InOrder (fun terminal => (rows terminal).outputSeq) world
  one : OneGeneration (fun terminal => (rows terminal).outputSeq) world

theorem initial_sound (limits : Limits) {rows : TerminalId → Row}
    (paired : ∀ terminal, highest (rows terminal).numbers = (rows terminal).outputSeq) :
    Sound limits rows (initial rows) := by
  have started : Reaches (step limits) anyStep (initial rows) (initial rows) := .refl
  obtain ⟨numbered, conserved⟩ := reachable_conserved started
  refine ⟨numbered, conserved, initial_inOrder _ rows, ?_⟩
  constructor
  · rfl
  · exact fun terminal => ⟨paired terminal, fun _ absent => (nomatch absent), Nat.le_refl _⟩
  · exact fun terminal => List.mem_cons_self
  · exact fun terminal => List.mem_cons_self
  · exact fun _ absent => (nomatch absent)
  · exact fun _ _ absent => (nomatch absent)
  · exact fun _ _ absent => (nomatch absent)

theorem step_sound {limits : Limits} {rows : TerminalId → Row} {before after : World}
    {label : Label} (sound : Sound limits rows before)
    (allowed : KeepsGeneration rows before label)
    (taken : step limits before label = some after) :
    Sound limits rows after ∧
      ∀ terminal, (before.rows terminal).outputSeq ≤ (after.rows terminal).outputSeq := by
  have move := step_move taken
  have inOrder := move_inOrder move sound.numbered sound.conserved (based_of_keeps sound.one allowed)
    (handsBack_of_keeps allowed) sound.inOrder
  have advances := rowMove_advances (step_rowMove taken) move sound.inOrder inOrder allowed sound.one
  exact ⟨⟨move_numbered move sound.numbered,
    move_conserved move sound.numbered sound.conserved, inOrder, advances.one⟩, advances.number⟩

/-- In every run whose steps keep bytes and number together, a row's number is
the highest folded into its bytes, and from any state on it never goes back. -/
theorem row_is_one_generation (limits : Limits) (rows : TerminalId → Row)
    (paired : ∀ terminal, highest (rows terminal).numbers = (rows terminal).outputSeq)
    (middle world : World)
    (reached : Reaches (step limits) (KeepsGeneration rows) (initial rows) middle)
    (onward : Reaches (step limits) (KeepsGeneration rows) middle world) (terminal : TerminalId) :
    (world.rows terminal).outputSeq = highest (world.rows terminal).numbers ∧
      (middle.rows terminal).outputSeq ≤ (world.rows terminal).outputSeq := by
  have start : Sound limits rows middle := by
    apply reached.invariant (Sound limits rows) (initial_sound limits paired)
    exact fun before label after sound allowed taken => (step_sound sound allowed taken).1
  have holds : Sound limits rows world ∧
      (middle.rows terminal).outputSeq ≤ (world.rows terminal).outputSeq := by
    apply onward.invariant fun world => Sound limits rows world ∧
      (middle.rows terminal).outputSeq ≤ (world.rows terminal).outputSeq
    · exact ⟨start, Nat.le_refl _⟩
    · rintro before label after ⟨sound, so⟩ allowed taken
      obtain ⟨kept, further⟩ := step_sound sound allowed taken
      exact ⟨kept, so.trans (further terminal)⟩
  exact ⟨(holds.1.one.generation terminal).stored.symm, holds.2⟩

/-- A retried batch, a newer one, and the settle of the tail they leave. -/
def settledRun : List Label :=
  [.enqueue "t" "A" "" 0 false, .directFlush "t", .raise, .directFlush "t", .select, .write 0,
    .skip, .finish, .enqueue "t" "B" "" 1 false, .directFlush "t", .select, .write 500, .finish,
    .settle "t" true, .select, .write 1300]

theorem row_is_one_generation_settled :
    ∃ world, Reaches (step defaultLimits) (KeepsGeneration fun _ => blankRow)
        (initial fun _ => blankRow) world ∧
      ((world.rows "t").output, (world.rows "t").outputSeq) = ("AB", 2) ∧
      (world.rows "t").outputSeq = highest (world.rows "t").numbers := by
  have executed : (exec (step defaultLimits) (keepsGeneration fun _ => blankRow)
      (initial fun _ => blankRow) settledRun).map
        (fun world => ((world.rows "t").output, (world.rows "t").outputSeq)) =
      some ("AB", 2) := by
    decide
  obtain ⟨world, run, seen⟩ := reaches_observed _ _ _ _ (fun _ _ granted => granted) executed
  exact ⟨world, run, seen, (row_is_one_generation defaultLimits (fun _ => blankRow)
    (fun _ => rfl) world world run .refl "t").1⟩

/-- The tail holds batch 2 while the row has batch 1; then a control completion
appends once the interval has passed. -/
def outsideRun : List Label :=
  [.enqueue "t" "A" "" 0 false, .directFlush "t", .select, .write 0, .finish,
    .enqueue "t" "B" "" 1 false, .directFlush "t", .select, .write 500, .finish,
    .outside "t" "C" "" "running", .append 1200, .commit]

/-- The tail holds batch 2 while the row has batch 1; then a post with an ending
status and no bytes is handed back, and its retry has claimed no number. -/
def unnumberedRun : List Label :=
  [.enqueue "t" "A" "" 0 false, .directFlush "t", .select, .write 0, .finish,
    .enqueue "t" "B" "" 1 false, .directFlush "t", .select, .write 500, .finish,
    .enqueue "t" "" "failed" 1 false, .directFlush "t", .raise, .directFlush "t", .select,
    .write 600]

theorem row_under_older_number :
    (∃ world, Reaches (step defaultLimits) anyStep (initial fun _ => blankRow) world ∧
      (world.rows "t").output = "ABC" ∧ (world.rows "t").outputSeq = 1 ∧
      highest (world.rows "t").numbers = 2) ∧
    ∃ world, Reaches (step defaultLimits) anyStep (initial fun _ => blankRow) world ∧
      (world.rows "t").output = "AB" ∧ (world.rows "t").outputSeq = 1 ∧
      highest (world.rows "t").numbers = 2 := by
  have outside : (exec (step defaultLimits) (fun _ _ => true) (initial fun _ => blankRow)
      outsideRun).map (fun world => world.rows "t") = some ⟨"ABC", "running", 1, [0, 1, 2]⟩ := by
    decide
  have unnumbered : (exec (step defaultLimits) (fun _ _ => true) (initial fun _ => blankRow)
      unnumberedRun).map (fun world => world.rows "t") = some ⟨"AB", "failed", 1, [0, 1, 2]⟩ := by
    decide
  constructor
  · obtain ⟨world, run, seen⟩ := reaches_observed _ _ _ _ (fun _ _ _ => trivial) outside
    refine ⟨world, run, ?_⟩
    rw [seen]
    decide
  · obtain ⟨world, run, seen⟩ := reaches_observed _ _ _ _ (fun _ _ _ => trivial) unnumbered
    refine ⟨world, run, ?_⟩
    rw [seen]
    decide

end AifyComms.TerminalWriteQueue
