import AifyComms.TerminalRowGeneration

/-!
What a drained shutdown has stored. `drain_terminal_output_writes` returns True when
`flush_all` finds nothing pending and nothing in flight. It does not look at the tail
buffer, which may hold bytes that no row has yet.

`took` is history: whether the control completion that has its transaction open took a
dirty tail into it.
-/

namespace AifyComms.TerminalWriteQueue
open PyText TerminalOutput Runs

/-! ### What a step does to the tails -/

def Job.isOutside : Job → Bool
  | .outside _ _ _ _ => true
  | _ => false

/-- The control completions that want `_write_lock`. -/
def World.outsiders (world : World) : List Job := world.queue.writers.filter Job.isOutside

/-- No row, no tail and no committed batch moves. -/
structure TailsStay (before after : World) : Prop where
  rows : after.rows = before.rows
  buffers : after.buffers = before.buffers
  seen : after.seen = none ∨ (after.seen = before.seen ∧
    (after.queue.writers.head? = before.queue.writers.head? ∨
      ∀ job, before.queue.writers.head? = some job → job.selects = false))
  committed : ∀ terminal, after.committed terminal = before.committed terminal

/-- One append by the holder of `_write_lock`, on the row it read, and its commit. -/
structure Folded (before after : World) (job : Job) (row : Row) (text status : String)
    (seq : Option Nat) (settle : Bool) (number now : Nat) (added : List Batch) : Prop where
  seen : before.seen = some row
  free : before.control = none
  buffers : after.buffers = (appendTerminalOutput before.buffers job.terminal row text status seq
    settle number now).1
  rows : after.rows = applyUpdate before.rows job.terminal (appendTerminalOutput before.buffers
    job.terminal row text status seq settle number now).2
  unseen : after.seen = none
  closed : after.control = none
  committed : ∀ terminal, after.committed terminal =
    before.committed terminal ++ if job.terminal = terminal then added else []

inductive TailMove (before after : World) : Label → Prop where
  | quiet {label : Label} (other : ∀ now, label ≠ .append now) (stay : TailsStay before after)
      (control : after.control = before.control) (outsiders : after.outsiders = before.outsiders) :
      TailMove before after label
  | arrived {label : Label} (job : Job) (outside : job.isOutside = true)
      (stay : TailsStay before after) (free : before.control = none)
      (control : after.control = some .waiting)
      (outsiders : after.outsiders = before.outsiders ++ [job]) : TailMove before after label
  | cancelled {label : Label} (job : Job) (rest : List Job) (stay : TailsStay before after)
      (control : after.control = none) (held : before.outsiders = job :: rest)
      (outsiders : after.outsiders = rest) : TailMove before after label
  | rolledBack (terminal : TerminalId) (update : Option RowUpdate)
      (holding : before.control = some (.appended terminal update)) (stay : TailsStay before after)
      (control : after.control = none) (outsiders : after.outsiders = before.outsiders) :
      TailMove before after .rollback
  | selected (job : Job) (waiting : List Job) (holder : before.queue.writers = job :: waiting)
      (selects : job.selects = true)
      (writes : (∃ task terminal batches, job = .flush task terminal batches) ∨
        pending before.buffers job.terminal ≠ none)
      (writers : after.queue.writers = before.queue.writers)
      (seen : after.seen = some (before.rows job.terminal)) (rows : after.rows = before.rows)
      (buffers : after.buffers = before.buffers) (control : after.control = before.control)
      (committed : ∀ terminal, after.committed terminal = before.committed terminal) :
      TailMove before after .select
  | wroteBatch {now : Nat} (task : Option TaskId) (terminal : TerminalId) (batch : Batch)
      (rest : List Batch) (waiting : List Job) (row : Row)
      (holder : before.queue.writers = .flush task terminal (batch :: rest) :: waiting)
      (folded : Folded before after (.flush task terminal (batch :: rest)) row batch.output.text
        batch.status (some (seqOrRow (some batch.seq) row)) false batch.seq now [batch])
      (outsiders : after.outsiders = before.outsiders) : TailMove before after (.write now)
  | settled {now : Nat} (terminal : TerminalId) (waiting : List Job) (row : Row) (seq : Option Nat)
      (holder : before.queue.writers = .settle terminal :: waiting)
      (folded : Folded before after (.settle terminal) row "" "" seq true 0 now [])
      (outsiders : after.outsiders = before.outsiders) : TailMove before after (.write now)
  | appended {now : Nat} (terminal : TerminalId) (output status ownStatus : String) (job : Job)
      (rest : List Job) (held : before.outsiders = job :: rest)
      (outsiders : after.outsiders = rest) (rows : after.rows = before.rows)
      (seen : after.seen = none)
      (buffers : after.buffers = (appendTerminalOutput before.buffers terminal
        { before.rows terminal with status := ownStatus } output status none false 0 now).1)
      (control : after.control = some (.appended terminal (appendTerminalOutput before.buffers
        terminal { before.rows terminal with status := ownStatus } output status none false 0
        now).2))
      (committed : ∀ other, after.committed other = before.committed other) :
      TailMove before after (.append now)
  | landed {label : Label} (terminal : TerminalId) (update : Option RowUpdate)
      (holding : before.control = some (.appended terminal update))
      (rows : after.rows = applyUpdate before.rows terminal update)
      (buffers : after.buffers = before.buffers) (control : after.control = none)
      (seen : after.seen = before.seen) (writers : after.queue.writers = before.queue.writers)
      (committed : ∀ other, after.committed other = before.committed other) :
      TailMove before after label

/-- The events that are no commit leave the committed batches. -/
theorem committed_append {before after : World} {events : List Event}
    (log : after.log = before.log ++ events) (terminal : TerminalId)
    (none : events.flatMap (committedFor terminal) = []) :
    after.committed terminal = before.committed terminal := by
  unfold World.committed
  rw [log, List.flatMap_append, none, List.append_nil]

theorem committed_quiet {before after : World} {events : List Event}
    (log : after.log = before.log ++ events) (quiet : AllQuiet events) (terminal : TerminalId) :
    after.committed terminal = before.committed terminal :=
  committed_append log terminal (quiet_views quiet terminal).2.2.2.2

theorem flushTerminal_tailMove (world : World) (me : Option TaskId) (terminal : TerminalId)
    {label : Label} (other : ∀ now, label ≠ .append now) :
    TailMove world (world.withQueue (flushTerminal world.queue me terminal)) label := by
  have popping : ∀ other, (flushTerminal.popState me terminal world.queue).2.flatMap
      (committedFor other) = [] := by
    intro other
    unfold flushTerminal.popState
    split <;> rfl
  have events : ∀ other, (flushTerminal world.queue me terminal).2.flatMap
      (committedFor other) = [] := by
    intro other
    unfold flushTerminal
    split
    · split
      · exact popping other
      · rfl
    · exact popping other
  have writers : (flushTerminal world.queue me terminal).1.writers.filter Job.isOutside =
      world.queue.writers.filter Job.isOutside := by
    have popped : (flushTerminal.popState me terminal world.queue).1.writers.filter Job.isOutside =
        world.queue.writers.filter Job.isOutside := by
      unfold flushTerminal.popState
      split
      · rfl
      · rw [List.filter_append, List.filter_cons_of_neg (by simp [Job.isOutside]), List.filter_nil,
          List.append_nil]
    unfold flushTerminal
    split
    · split
      · exact popped
      · rfl
    · exact popped
  exact .quiet other ⟨rfl, rfl, .inr ⟨rfl, flushTerminal_head world.queue me terminal⟩,
    fun other => committed_append rfl other (events other)⟩ rfl writers

/-- Only the queue's bookkeeping moves. -/
theorem quiet_tailMove {before after : World} {label : Label} (other : ∀ now, label ≠ .append now)
    (rows : after.rows = before.rows) (buffers : after.buffers = before.buffers)
    (control : after.control = before.control) (seen : after.seen = none ∨
      (after.seen = before.seen ∧ (after.queue.writers.head? = before.queue.writers.head? ∨
        ∀ job, before.queue.writers.head? = some job → job.selects = false)))
    (log : after.log = before.log) (outsiders : after.outsiders = before.outsiders) :
    TailMove before after label := by
  refine .quiet other ⟨rows, buffers, seen, fun terminal => ?_⟩ control outsiders
  unfold World.committed
  rw [log]

theorem stepTask_tailMove {before after : World} {label : Label}
    (taken : stepTask before label = some after) : TailMove before after label := by
  cases label with
  | timerFlush terminal =>
      obtain rfl := Option.some.inj taken
      exact quiet_tailMove (fun _ same => by cases same) rfl rfl rfl (.inr ⟨rfl, .inl rfl⟩) rfl rfl
  | startFlush id =>
      dsimp only [stepTask] at taken
      split at taken
      · obtain rfl := Option.some.inj taken
        exact flushTerminal_tailMove before _ _ fun _ same => by cases same
      · cases taken
  | directFlush terminal =>
      obtain rfl := Option.some.inj taken
      exact flushTerminal_tailMove before _ _ fun _ same => by cases same
  | joinedDone id =>
      dsimp only [stepTask] at taken
      split at taken
      · split at taken
        · cases taken
        · obtain rfl := Option.some.inj taken
          exact quiet_tailMove (fun _ same => by cases same) rfl rfl rfl
            (.inr ⟨rfl, .inl rfl⟩) rfl rfl
      · cases taken
  | taskDone id =>
      dsimp only [stepTask] at taken
      split at taken
      · obtain rfl := Option.some.inj taken
        exact quiet_tailMove (fun _ same => by cases same) rfl rfl rfl
          (.inr ⟨rfl, .inl rfl⟩) rfl rfl
      · cases taken
  | _ => cases taken

/-- What a holder that is a flush or a settle leaves of the control completions. -/
theorem outsiders_holder {world : World} {job : Job} {waiting : List Job}
    (holder : world.queue.writers = job :: waiting) (other : job.isOutside = false) :
    waiting.filter Job.isOutside = world.outsiders := by
  unfold World.outsiders
  rw [holder, List.filter_cons_of_neg (by rw [other]; exact Bool.false_ne_true)]

theorem outsiders_outside {world : World} {job : Job} {waiting : List Job}
    (holder : world.queue.writers = job :: waiting) (outside : job.isOutside = true) :
    world.outsiders = job :: waiting.filter Job.isOutside := by
  unfold World.outsiders
  rw [holder, List.filter_cons_of_pos outside]

theorem commitBatch_tailMove {world : World} {row : Row} (now : Nat) {task : Option TaskId}
    {terminal : TerminalId} {batch : Batch} {rest : List Batch} {waiting : List Job}
    (holder : world.queue.writers = .flush task terminal (batch :: rest) :: waiting)
    (seen : world.seen = some row) (free : world.control = none) :
    TailMove world (commitBatch world row now task terminal batch rest waiting) (.write now) := by
  obtain ⟨events, quiet, log⟩ := writeTerminalOutput_quiet world row terminal batch.output.text
    batch.status (some batch.seq) false batch.seq now
  refine .wroteBatch task terminal batch rest waiting row holder
    ⟨seen, free, rfl, rfl, rfl, free, fun other => ?_⟩ ?_
  · have silent := (quiet_views quiet other).2.2.2.2
    unfold World.committed commitBatch
    dsimp only
    rw [log, List.flatMap_append, List.flatMap_append, silent, List.append_nil,
      List.flatMap_singleton]
    rfl
  · refine Eq.trans ?_ (outsiders_holder holder rfl)
    exact List.filter_cons_of_neg (by simp [Job.isOutside])

theorem stepHolder_tailMove {before after : World} {holder : Job} {waiting : List Job}
    {label : Label} (held : before.queue.writers = holder :: waiting)
    (taken : stepHolder before holder waiting label = some after) :
    TailMove before after label := by
  have head : before.queue.writers.head? = some holder := by
    rw [held]
    rfl
  cases label with
  | skip =>
      dsimp only [stepHolder] at taken
      split at taken
      next task terminal batch rest =>
        split at taken
        next empty =>
          obtain rfl := Option.some.inj taken
          refine quiet_tailMove (fun _ same => by cases same) rfl rfl rfl
            (.inr ⟨rfl, .inr fun job isHead => ?_⟩) rfl ?_
          · obtain rfl := Option.some.inj (head.symm.trans isHead)
            simp [Job.selects, empty]
          · exact (List.filter_cons_of_neg (by simp [Job.isOutside])).trans
              (outsiders_holder held rfl)
        · cases taken
      · cases taken
  | select =>
      dsimp only [stepHolder] at taken
      split at taken
      next task terminal batch rest =>
        split at taken
        · cases taken
        next filled =>
          obtain rfl := Option.some.inj taken
          exact .selected _ waiting held (by simp [Job.selects, filled]) (.inl ⟨_, _, _, rfl⟩) rfl rfl
            rfl rfl rfl fun _ => rfl
      next terminal =>
        split at taken
        · obtain rfl := Option.some.inj taken
          exact quiet_tailMove (fun _ same => by cases same) rfl rfl rfl
            (.inl rfl) rfl (outsiders_holder held rfl)
        next dirty =>
          obtain rfl := Option.some.inj taken
          exact .selected _ waiting held rfl (.inr dirty) rfl rfl rfl rfl rfl fun _ => rfl
      · cases taken
  | write now =>
      dsimp only [stepHolder] at taken
      split at taken
      next task terminal batch rest row seen free =>
        obtain rfl := Option.some.inj taken
        exact commitBatch_tailMove now held seen free
      next terminal row seen free =>
        obtain rfl := Option.some.inj taken
        obtain ⟨events, quiet, log⟩ := writeTerminalOutput_quiet before row terminal "" ""
          ((before.buffers terminal).bind Tail.seq) true 0 now
        refine .settled terminal waiting row _ held
          ⟨seen, free, rfl, rfl, rfl, free, fun other => ?_⟩ (outsiders_holder held rfl)
        refine (committed_quiet log quiet other).trans ?_
        split <;> exact (List.append_nil _).symm
      · cases taken
  | raise =>
      dsimp only [stepHolder] at taken
      split at taken
      next task terminal batch rest =>
        split at taken
        · cases taken
        · obtain rfl := Option.some.inj taken
          obtain ⟨removed, events⟩ := requeueFront_events before.queue terminal (batch :: rest)
          refine .quiet (fun _ same => by cases same)
            ⟨rfl, rfl, .inl rfl, fun other => ?_⟩ rfl (outsiders_holder held rfl)
          refine committed_append rfl other ?_
          rw [events]
          exact (discards_views terminal removed other).2.2.2
      next terminal =>
        obtain rfl := Option.some.inj taken
        exact quiet_tailMove (fun _ same => by cases same) rfl rfl rfl
          (.inl rfl) rfl (outsiders_holder held rfl)
      next terminal output status ownStatus =>
        obtain rfl := Option.some.inj taken
        exact .cancelled _ _ ⟨rfl, rfl, .inl rfl, fun _ => rfl⟩ rfl (outsiders_outside held rfl) rfl
      · cases taken
  | finish =>
      dsimp only [stepHolder] at taken
      split at taken
      next task terminal =>
        obtain rfl := Option.some.inj taken
        refine quiet_tailMove (fun _ same => by cases same) rfl rfl rfl
          (.inr ⟨rfl, .inr fun job isHead => ?_⟩) rfl
          (outsiders_holder held rfl)
        obtain rfl := Option.some.inj (head.symm.trans isHead)
        rfl
      · cases taken
  | append now =>
      dsimp only [stepHolder] at taken
      split at taken
      next terminal output status ownStatus =>
        obtain rfl := Option.some.inj taken
        exact .appended terminal output status ownStatus _ _ (outsiders_outside held rfl) rfl rfl rfl
          rfl rfl fun _ => rfl
      · cases taken
  | _ => cases taken

theorem stepCaller_tailMove {before after : World} {label : Label}
    (taken : stepCaller before label = some after) : TailMove before after label := by
  cases label with
  | settle terminal held =>
      dsimp only [stepCaller] at taken
      split at taken
      · obtain rfl := Option.some.inj taken
        refine quiet_tailMove (fun _ same => by cases same) rfl rfl rfl
          (.inr ⟨rfl, joined_head _ _⟩) rfl ?_
        unfold World.outsiders
        rw [List.filter_append, List.filter_cons_of_neg (by simp [Job.isOutside]), List.filter_nil,
          List.append_nil]
      · obtain rfl := Option.some.inj taken
        exact quiet_tailMove (fun _ same => by cases same) rfl rfl rfl
          (.inr ⟨rfl, .inl rfl⟩) rfl rfl
  | outside terminal output status ownStatus =>
      dsimp only [stepCaller] at taken
      split at taken
      next free =>
        obtain rfl := Option.some.inj taken
        refine .arrived (.outside terminal output status ownStatus) rfl
          ⟨rfl, rfl, .inr ⟨rfl, joined_head _ _⟩, fun _ => rfl⟩ free rfl ?_
        unfold World.outsiders
        rw [List.filter_append]
        rfl
      · cases taken
  | commit =>
      dsimp only [stepCaller] at taken
      split at taken
      next terminal update holding =>
        obtain rfl := Option.some.inj taken
        exact .landed terminal update holding rfl rfl rfl rfl rfl
          (committed_quiet rfl (storedEvents_quiet terminal update))
      · cases taken
  | rollback =>
      dsimp only [stepCaller] at taken
      split at taken
      next terminal update holding =>
        obtain rfl := Option.some.inj taken
        exact .rolledBack terminal update holding ⟨rfl, rfl, .inr ⟨rfl, .inl rfl⟩, fun _ => rfl⟩ rfl
          rfl
      · cases taken
  | _ => cases taken

theorem step_tailMove {limits : Limits} {before after : World} {label : Label}
    (taken : step limits before label = some after) : TailMove before after label := by
  cases label with
  | enqueue terminal output status baseSeq autoschedule =>
      obtain rfl := Option.some.inj taken
      by_cases refused : terminal = "" ∨ (output = "" ∧ strip status = "")
      · have same : enqueue limits before.queue terminal output status baseSeq autoschedule =
            (before.queue, 0, []) := if_pos refused
        rw [same]
        exact quiet_tailMove (fun _ same => by cases same) rfl rfl rfl
          (.inr ⟨rfl, .inl rfl⟩) (List.append_nil _) rfl
      · obtain ⟨_, writers, events, quiet, log⟩ :=
          enqueue_accepted limits before.queue baseSeq autoschedule refused
        refine .quiet (fun _ same => by cases same)
          ⟨rfl, rfl, .inr ⟨rfl, .inl (congrArg List.head? writers)⟩,
          fun other => committed_append rfl other ?_⟩ rfl (congrArg (List.filter _) writers)
        rw [log, List.flatMap_append, (quiet_views quiet other).2.2.2.2,
          (appendEvents_others terminal before.queue.nextOrdinal output _ other).2]
        rfl
  | timerFlush | startFlush | directFlush | joinedDone | taskDone => exact stepTask_tailMove taken
  | skip | select | write | raise | finish | append =>
      dsimp only [step] at taken
      split at taken
      · cases taken
      next held => exact stepHolder_tailMove held taken
  | settle | outside | commit | rollback => exact stepCaller_tailMove taken

/-! ### Where the committed bytes are -/

/-- `text` has the texts of `batches` in order, among others, on top of what the row began
with, as appends and their trims make it. -/
def Holds (rows : TerminalId → Row) (batches : List Batch) (terminal : TerminalId)
    (text : String) : Prop :=
  ∃ pieces : List String,
    text = pieces.foldl (fun tail piece => trimTerminalOutput (tail ++ piece))
      (rows terminal).output ∧
    (batches.map fun batch => batch.output.text).Sublist pieces

theorem Holds.append {rows : TerminalId → Row} {batches : List Batch} {terminal : TerminalId}
    {text : String} (holds : Holds rows batches terminal text) (piece : String)
    (added : List Batch) (own : added.map (fun batch => batch.output.text) = [piece] ∨ added = []) :
    Holds rows (batches ++ added) terminal (trimTerminalOutput (text ++ piece)) := by
  obtain ⟨pieces, folded, among⟩ := holds
  refine ⟨pieces ++ [piece], ?_, ?_⟩
  · rw [List.foldl_append, ← folded]
    rfl
  · rw [List.map_append]
    rcases own with same | none
    · rw [same]
      exact among.append (List.Sublist.refl _)
    · rw [none]
      exact among.append (List.nil_sublist _)

/-- The rows once the control completion that has its transaction open commits. -/
def World.landing (world : World) : TerminalId → Row :=
  match world.control with
  | some (.appended terminal update) => applyUpdate world.rows terminal update
  | _ => world.rows

/-- The process, and whether the control completion that has its transaction open took a
dirty tail into it. -/
structure Draining where
  world : World
  took : Bool

def tookAfter (draining : Draining) (after : World) : Label → Bool
  | .append _ =>
      match after.control with
      | some (.appended terminal _) =>
          (pending draining.world.buffers terminal).isSome &&
            (pending after.buffers terminal).isNone
      | _ => false
  | _ => draining.took

def drainStep (limits : Limits) (draining : Draining) (label : Label) : Option Draining :=
  (step limits draining.world label).map fun after => ⟨after, tookAfter draining after label⟩

/-- A control completion that took a dirty tail is not rolled back, and where it forgot
that tail no flush of its terminal reads the row before its commit. -/
def KeepsTaken (draining : Draining) : Label → Prop
  | .rollback => draining.took = false
  | .select => ∀ task terminal batches waiting update,
      draining.world.queue.writers = .flush task terminal batches :: waiting →
      draining.world.control = some (.appended terminal update) → draining.took = true →
      draining.world.buffers terminal ≠ none
  | _ => True

/-- The committed bytes of a terminal are in the tail that is held, and where no tail is
dirty they are in the row once what is open is committed. -/
structure Shelved (rows : TerminalId → Row) (world : World) (took : Bool) : Prop where
  solo : world.outsiders = [] ∨
    (∃ job, world.outsiders = [job]) ∧ world.control = some .waiting
  held : ∀ terminal held, terminal ≠ "" → world.buffers terminal = some held →
    Holds rows (world.committed terminal) terminal held.tail
  stored : ∀ terminal, terminal ≠ "" → pending world.buffers terminal = none →
    Holds rows (world.committed terminal) terminal (world.landing terminal).output
  spare : ∀ terminal update, world.control = some (.appended terminal update) →
    took = false → terminal ≠ "" → pending world.buffers terminal = none →
    Holds rows (world.committed terminal) terminal (world.rows terminal).output
  read : ∀ row, world.seen = some row → ∃ job waiting,
    world.queue.writers = job :: waiting ∧ job.selects = true ∧
      (job.terminal ≠ "" → world.buffers job.terminal = none →
        Holds rows (world.committed job.terminal) job.terminal row.output)

theorem pending_of_none {buffers : Buffers} {terminal : TerminalId}
    (none : buffers terminal = none) : pending buffers terminal = Option.none := by
  unfold pending
  rw [none]
  rfl

theorem landing_plain {world : World}
    (plain : ∀ terminal update, world.control ≠ some (.appended terminal update)) :
    world.landing = world.rows := by
  unfold World.landing
  split
  next terminal update has => exact absurd has (plain terminal update)
  · rfl

theorem landing_appended {world : World} {terminal : TerminalId} {update : Option RowUpdate}
    (has : world.control = some (.appended terminal update)) :
    world.landing = applyUpdate world.rows terminal update := by
  unfold World.landing
  rw [has]

/-- What an append leaves holds the committed bytes, and the piece with them. -/
theorem appended_holds {rows : TerminalId → Row} {buffers : Buffers} {terminal : TerminalId}
    {batches : List Batch} (row : Row) (text : String) (added : List Batch) (named : terminal ≠ "")
    (held : ∀ held, buffers terminal = some held → Holds rows batches terminal held.tail)
    (absent : buffers terminal = none → Holds rows batches terminal row.output)
    (own : added.map (fun batch => batch.output.text) = [text] ∨ added = [])
    (status : String) (seq : Option Nat) (settle : Bool) (number now : Nat)
    (result : Buffers × Option RowUpdate)
    (appended : appendTerminalOutput buffers terminal row text status seq settle number now = result)
    (target : Row) :
    (result = (buffers, none)) ∨
      (∀ kept, result.1 terminal = some kept →
        Holds rows (batches ++ added) terminal kept.tail) ∧
      (pending result.1 terminal = none → ∃ update, result.2 = some update ∧
        Holds rows (batches ++ added) terminal (update.apply target).output) := by
  have before : Holds rows batches terminal (currentTail buffers terminal row.output) := by
    unfold currentTail
    cases holding : buffers terminal with
    | none => exact absent holding
    | some tail => exact held tail holding
  have after := before.append text added own
  rcases appendTerminalOutput_folds buffers named row text status seq settle number now with
    nothing | ⟨update, issued, folds⟩
  · exact .inl (appended.symm.trans nothing)
  · right
    rw [appended] at issued folds
    refine ⟨fun kept holding => ?_, fun clean => ⟨update, issued, ?_⟩⟩
    · rw [(folds.held kept holding).1]
      exact after
    · have output : update.output = some (trimTerminalOutput
          (currentTail buffers terminal row.output ++ text)) := by
        cases holding : result.1 terminal with
        | none => exact (folds.dropped holding).1
        | some kept =>
            unfold pending at clean
            rw [holding, Option.filter_eq_none_iff] at clean
            exact (folds.held kept holding).2.2 (Bool.eq_false_iff.mpr (clean kept rfl))
      dsimp only [RowUpdate.apply]
      rw [output]
      exact after

/-- A write of the queue is committed. -/
theorem folded_shelved {rows : TerminalId → Row} {before after : World} {took tookNow : Bool}
    {job : Job} {waiting : List Job} {row : Row} {text status : String} {seq : Option Nat}
    {settle : Bool} {number now : Nat} {added : List Batch}
    (shelved : Shelved rows before took) (holder : before.queue.writers = job :: waiting)
    (folded : Folded before after job row text status seq settle number now added)
    (own : added.map (fun batch => batch.output.text) = [text] ∨ added = [])
    (spoken : added = [] ∨ (appendTerminalOutput before.buffers job.terminal row text status seq
      settle number now).2 ≠ none)
    (outsiders : after.outsiders = before.outsiders) : Shelved rows after tookNow := by
  obtain ⟨reader, others, front, _, read⟩ := shelved.read row folded.seen
  obtain ⟨rfl, _⟩ := List.cons.inj (holder.symm.trans front)
  have plain : before.landing = before.rows := by
    refine landing_plain fun terminal update has => ?_
    rw [folded.free] at has
    cases has
  have settled : after.landing = after.rows := by
    refine landing_plain fun terminal update has => ?_
    rw [folded.closed] at has
    cases has
  have elsewhere : ∀ terminal, terminal ≠ job.terminal →
      after.buffers terminal = before.buffers terminal ∧
        after.rows terminal = before.rows terminal ∧
        after.committed terminal = before.committed terminal := by
    intro terminal different
    refine ⟨?_, ?_, ?_⟩
    · rw [folded.buffers]
      exact appendTerminalOutput_other _ _ _ _ _ _ _ _ different
    · rw [folded.rows]
      exact applyUpdate_other _ _ _ _ different
    · rw [folded.committed, if_neg (Ne.symm different), List.append_nil]
  have mine : after.committed job.terminal = before.committed job.terminal ++ added := by
    rw [folded.committed, if_pos rfl]
  have appended := fun named : job.terminal ≠ "" => appended_holds row text added named
    (fun held => shelved.held job.terminal held named) (read named) own status seq settle number now
    _ rfl (before.rows job.terminal)
  constructor
  case solo =>
    rcases shelved.solo with none | ⟨_, waits⟩
    · exact .inl (outsiders.trans none)
    · rw [folded.free] at waits
      cases waits
  case held =>
    intro terminal held named holding
    by_cases here : terminal = job.terminal
    · subst here
      rw [folded.buffers] at holding
      rw [mine]
      rcases appended named with nothing | ⟨kept, _⟩
      · have none := spoken.resolve_right fun issued => issued (by rw [nothing])
        rw [nothing] at holding
        rw [none, List.append_nil]
        exact shelved.held job.terminal held named holding
      · exact kept held holding
    · obtain ⟨buffers, _, committed⟩ := elsewhere terminal here
      rw [buffers] at holding
      rw [committed]
      exact shelved.held terminal held named holding
  case stored =>
    intro terminal named clean
    rw [settled]
    have unwritten := shelved.stored terminal named
    rw [plain] at unwritten
    by_cases here : terminal = job.terminal
    · subst here
      rw [folded.buffers] at clean
      rw [mine, folded.rows]
      rcases appended named with nothing | ⟨_, written⟩
      · have none := spoken.resolve_right fun issued => issued (by rw [nothing])
        rw [nothing] at clean
        rw [nothing, none, List.append_nil]
        exact unwritten clean
      · obtain ⟨update, issued, holds⟩ := written clean
        rw [issued, applyUpdate_self]
        exact holds
    · obtain ⟨buffers, rows', committed⟩ := elsewhere terminal here
      unfold pending at clean
      rw [buffers] at clean
      rw [rows', committed]
      exact unwritten clean
  case spare =>
    intro terminal update has
    rw [folded.closed] at has
    cases has
  case read =>
    intro other here
    rw [folded.unseen] at here
    cases here

/-- Where the tails stay, what the holder read stays too. -/
theorem stay_read {rows : TerminalId → Row} {before after : World} {took : Bool}
    (shelved : Shelved rows before took) (stay : TailsStay before after) (row : Row)
    (here : after.seen = some row) : ∃ job waiting, after.queue.writers = job :: waiting ∧
      job.selects = true ∧ (job.terminal ≠ "" → after.buffers job.terminal = none →
        Holds rows (after.committed job.terminal) job.terminal row.output) := by
  rcases stay.seen with unseen | ⟨same, head⟩
  · rw [unseen] at here
    cases here
  · rw [same] at here
    obtain ⟨job, waiting, front, selects, read⟩ := shelved.read row here
    have first : before.queue.writers.head? = some job := by
      rw [front]
      rfl
    rcases head with head | silent
    · rw [first, List.head?_eq_some_iff] at head
      obtain ⟨others, now⟩ := head
      refine ⟨job, others, now, selects, ?_⟩
      rw [stay.buffers, stay.committed]
      exact read
    · rw [silent job first] at selects
      cases selects

/-- Where the tails stay, the rows may still change with the open transaction. -/
theorem stay_shelved {rows : TerminalId → Row} {before after : World} {took tookNow : Bool}
    (shelved : Shelved rows before took) (stay : TailsStay before after)
    (solo : after.outsiders = [] ∨
      (∃ job, after.outsiders = [job]) ∧ after.control = some .waiting)
    (stored : ∀ terminal, terminal ≠ "" → pending before.buffers terminal = none →
      Holds rows (before.committed terminal) terminal (after.landing terminal).output)
    (spare : ∀ terminal update, after.control = some (.appended terminal update) →
      tookNow = false → terminal ≠ "" → pending before.buffers terminal = none →
      Holds rows (before.committed terminal) terminal (before.rows terminal).output) :
    Shelved rows after tookNow := by
  constructor
  case solo => exact solo
  case held =>
    intro terminal held
    rw [stay.buffers, stay.committed]
    exact shelved.held terminal held
  case stored =>
    intro terminal
    rw [stay.buffers, stay.committed]
    exact stored terminal
  case spare =>
    intro terminal
    rw [stay.buffers, stay.committed, stay.rows]
    exact spare terminal
  case read => exact stay_read shelved stay

/-- No transaction of a control completion is open with an append, before and after. -/
theorem plain_shelved {rows : TerminalId → Row} {before after : World} {took tookNow : Bool}
    (shelved : Shelved rows before took) (stay : TailsStay before after)
    (solo : after.outsiders = [] ∨
      (∃ job, after.outsiders = [job]) ∧ after.control = some .waiting)
    (plainBefore : ∀ terminal update, before.control ≠ some (.appended terminal update))
    (plainAfter : ∀ terminal update, after.control ≠ some (.appended terminal update)) :
    Shelved rows after tookNow := by
  refine stay_shelved shelved stay solo ?_ fun terminal update has =>
    absurd has (plainAfter terminal update)
  rw [landing_plain plainAfter, stay.rows, ← landing_plain plainBefore]
  exact shelved.stored

theorem selected_read {rows : TerminalId → Row} {world : World} {took : Bool} {job : Job}
    {waiting : List Job} (shelved : Shelved rows world took)
    (keeps : KeepsTaken ⟨world, took⟩ .select) (holder : world.queue.writers = job :: waiting)
    (writes : (∃ task terminal batches, job = .flush task terminal batches) ∨
      pending world.buffers job.terminal ≠ none)
    (named : job.terminal ≠ "") (none : world.buffers job.terminal = none) :
    Holds rows (world.committed job.terminal) job.terminal
      (world.rows job.terminal).output := by
  have clean := pending_of_none none
  have stored := shelved.stored job.terminal named clean
  by_cases open' : ∃ update, world.control = some (.appended job.terminal update)
  · obtain ⟨update, has⟩ := open'
    cases taken : took with
    | false => exact shelved.spare job.terminal update has taken named clean
    | true =>
        rcases writes with ⟨task, terminal, batches, rfl⟩ | dirty
        · exact absurd none (keeps task terminal batches waiting update holder has taken)
        · exact absurd clean dirty
  · cases has : world.control with
    | none =>
        rw [landing_plain (by rw [has]; exact nofun)] at stored
        exact stored
    | some control =>
        cases control with
        | waiting =>
            rw [landing_plain (by rw [has]; exact nofun)] at stored
            exact stored
        | appended terminal update =>
            have different : job.terminal ≠ terminal := by
              intro same
              rw [← same] at has
              exact open' ⟨update, has⟩
            rw [landing_appended has, applyUpdate_other _ _ _ _ different] at stored
            exact stored

/-- The batch that a flush read the row for is not an empty one, so its append writes. -/
theorem selects_writes {task : Option TaskId} {terminal : TerminalId} {batch : Batch}
    {rest : List Batch} (selects : (Job.flush task terminal (batch :: rest)).selects = true)
    (buffers : Buffers) (row : Row) (seq : Option Nat) (number now : Nat) :
    (appendTerminalOutput buffers terminal row batch.output.text batch.status seq false number
      now).2 ≠ none := by
  have filled : ¬(batch.output.text = "" ∧ batch.status = "" ∧ false = false) := by
    rintro ⟨text, status, _⟩
    simp [Job.selects, Batch.isEmpty, text, status] at selects
  unfold appendTerminalOutput
  rw [if_neg filled, if_neg (by simp)]
  intro none
  cases none

/-- A control completion appends: its transaction has the tail, or the buffer still has
it. -/
theorem appended_shelved {rows : TerminalId → Row} {before after : World} {took : Bool}
    {terminal : TerminalId} {output status ownStatus : String} {now : Nat}
    (shelved : Shelved rows before took) (waits : before.control = some .waiting)
    (outsiders : after.outsiders = []) (sameRows : after.rows = before.rows)
    (unseen : after.seen = none)
    (buffers : after.buffers = (appendTerminalOutput before.buffers terminal
      { before.rows terminal with status := ownStatus } output status none false 0 now).1)
    (control : after.control = some (.appended terminal (appendTerminalOutput before.buffers
      terminal { before.rows terminal with status := ownStatus } output status none false 0
      now).2))
    (committed : ∀ other, after.committed other = before.committed other) :
    Shelved rows after (tookAfter ⟨before, took⟩ after (.append now)) := by
  have plain : before.landing = before.rows := by
    refine landing_plain ?_
    rw [waits]
    exact nofun
  have stored := shelved.stored
  rw [plain] at stored
  have appended := fun named : terminal ≠ "" => appended_holds
    { before.rows terminal with status := ownStatus } output [] named
    (fun held => shelved.held terminal held named)
    (fun none => stored terminal named (pending_of_none none)) (.inr rfl) status none false 0 now _
    rfl (before.rows terminal)
  have elsewhere : ∀ other, other ≠ terminal → after.buffers other = before.buffers other := by
    intro other different
    rw [buffers]
    exact appendTerminalOutput_other _ _ _ _ _ _ _ _ different
  constructor
  case solo => exact .inl outsiders
  case held =>
    intro other held named holding
    rw [committed]
    by_cases here : other = terminal
    · subst here
      rw [buffers] at holding
      rcases appended named with nothing | ⟨kept, _⟩
      · rw [nothing] at holding
        exact shelved.held other held named holding
      · have holds := kept held holding
        rw [List.append_nil] at holds
        exact holds
    · rw [elsewhere other here] at holding
      exact shelved.held other held named holding
  case stored =>
    intro other named clean
    rw [committed, landing_appended control, sameRows]
    by_cases here : other = terminal
    · subst here
      rw [buffers] at clean
      rcases appended named with nothing | ⟨_, written⟩
      · rw [nothing] at clean ⊢
        exact stored other named clean
      · obtain ⟨update, issued, holds⟩ := written clean
        rw [issued, applyUpdate_self]
        rw [List.append_nil] at holds
        exact holds
    · unfold pending at clean
      rw [elsewhere other here] at clean
      rw [applyUpdate_other _ _ _ _ here]
      exact stored other named clean
  case spare =>
    intro other update has kept named clean
    rw [control] at has
    injection has with has
    injection has with same _
    subst same
    rw [committed, sameRows]
    refine stored terminal named ?_
    dsimp only [tookAfter] at kept
    rw [control] at kept
    dsimp only at kept
    rw [clean, Option.isNone_none, Bool.and_true, Option.isSome_eq_false_iff,
      Option.isNone_iff_eq_none] at kept
    exact kept
  case read =>
    intro row here
    rw [unseen] at here
    cases here

theorem landed_shelved {rows : TerminalId → Row} {before after : World} {took tookNow : Bool}
    {terminal : TerminalId} {update : Option RowUpdate} (shelved : Shelved rows before took)
    (holding : before.control = some (.appended terminal update))
    (stored : after.rows = applyUpdate before.rows terminal update)
    (buffers : after.buffers = before.buffers) (control : after.control = none)
    (seen : after.seen = before.seen) (writers : after.queue.writers = before.queue.writers)
    (committed : ∀ other, after.committed other = before.committed other) :
    Shelved rows after tookNow := by
  have plain : after.landing = after.rows := by
    refine landing_plain ?_
    rw [control]
    exact nofun
  constructor
  case solo =>
    unfold World.outsiders
    rw [writers]
    rcases shelved.solo with none | ⟨_, waits⟩
    · exact .inl none
    · rw [holding] at waits
      cases waits
  case held =>
    intro other held
    rw [buffers, committed]
    exact shelved.held other held
  case stored =>
    intro other
    rw [buffers, committed, plain, stored, ← landing_appended holding]
    exact shelved.stored other
  case spare =>
    intro other update has
    rw [control] at has
    cases has
  case read =>
    intro row
    rw [seen, writers, buffers]
    intro here
    obtain ⟨job, waiting, front, selects, read⟩ := shelved.read row here
    refine ⟨job, waiting, front, selects, ?_⟩
    rw [committed]
    exact read

theorem tailMove_shelved {rows : TerminalId → Row} {before after : World} {took : Bool}
    {label : Label} (shelved : Shelved rows before took) (keeps : KeepsTaken ⟨before, took⟩ label)
    (move : TailMove before after label) :
    Shelved rows after (tookAfter ⟨before, took⟩ after label) := by
  cases move with
  | quiet other stay control outsiders =>
      have same : tookAfter ⟨before, took⟩ after label = took := by
        cases label with
        | append now => exact absurd rfl (other now)
        | _ => rfl
      have landing : after.landing = before.landing := by
        unfold World.landing
        rw [control, stay.rows]
      rw [same]
      refine stay_shelved shelved stay ?_ ?_ ?_
      · rw [outsiders, control]
        exact shelved.solo
      · rw [landing]
        exact shelved.stored
      · rw [control]
        exact shelved.spare
  | arrived job outside stay free control outsiders =>
      have none : before.outsiders = [] := by
        refine shelved.solo.resolve_right fun waits => ?_
        have waits := waits.2
        rw [free] at waits
        cases waits
      refine plain_shelved shelved stay (.inr ⟨⟨job, ?_⟩, control⟩) ?_ ?_
      · rw [outsiders, none]
        rfl
      · rw [free]
        exact nofun
      · rw [control]
        exact nofun
  | cancelled job rest stay control held outsiders =>
      obtain ⟨alone, waits⟩ := shelved.solo.resolve_left (by rw [held]; exact List.cons_ne_nil _ _)
      obtain ⟨only, alone⟩ := alone
      rw [held] at alone
      obtain ⟨_, none⟩ := List.cons.inj alone
      refine plain_shelved shelved stay (.inl (outsiders.trans none)) ?_ ?_
      · rw [waits]
        exact nofun
      · rw [control]
        exact nofun
  | rolledBack terminal update holding stay control outsiders =>
      have kept : took = false := keeps
      have plain : after.landing = before.rows := by
        rw [landing_plain (by rw [control]; exact nofun), stay.rows]
      refine stay_shelved shelved stay ?_ ?_ ?_
      · rw [outsiders]
        refine .inl (shelved.solo.resolve_right fun waits => ?_)
        have waits := waits.2
        rw [holding] at waits
        cases waits
      · intro other named clean
        rw [plain]
        by_cases here : other = terminal
        · subst here
          exact shelved.spare other update holding kept named clean
        · have stored := shelved.stored other named clean
          rw [landing_appended holding, applyUpdate_other _ _ _ _ here] at stored
          exact stored
      · rw [control]
        exact nofun
  | selected job waiting holder selects writes writers seen sameRows buffers control committed =>
      have landing : after.landing = before.landing := by
        unfold World.landing
        rw [control, sameRows]
      have read := selected_read shelved keeps holder writes
      constructor
      case solo =>
        unfold World.outsiders
        rw [writers, control]
        exact shelved.solo
      case held =>
        intro terminal held
        rw [buffers, committed]
        exact shelved.held terminal held
      case stored =>
        intro terminal
        rw [buffers, committed, landing]
        exact shelved.stored terminal
      case spare =>
        intro terminal update
        rw [control, buffers, committed, sameRows]
        exact shelved.spare terminal update
      case read =>
        intro row here
        rw [seen] at here
        obtain rfl := Option.some.inj here
        refine ⟨job, waiting, writers.trans holder, selects, ?_⟩
        rw [buffers, committed]
        exact read
  | wroteBatch task terminal batch rest waiting row holder folded outsiders =>
      obtain ⟨reader, others, front, selects, _⟩ := shelved.read row folded.seen
      obtain ⟨rfl, _⟩ := List.cons.inj (holder.symm.trans front)
      exact folded_shelved shelved holder folded (.inl rfl)
        (.inr (selects_writes selects before.buffers row _ batch.seq _)) outsiders
  | settled terminal waiting row seq holder folded outsiders =>
      exact folded_shelved shelved holder folded (.inr rfl) (.inl rfl) outsiders
  | appended terminal output status ownStatus job rest held outsiders sameRows seen buffers control
      committed =>
      obtain ⟨alone, waits⟩ := shelved.solo.resolve_left (by rw [held]; exact List.cons_ne_nil _ _)
      obtain ⟨only, alone⟩ := alone
      rw [held] at alone
      obtain ⟨_, none⟩ := List.cons.inj alone
      exact appended_shelved shelved waits (outsiders.trans none) sameRows seen buffers control
        committed
  | landed terminal update holding stored buffers control seen writers committed =>
      exact landed_shelved shelved holding stored buffers control seen writers committed

/-! ### Over whole runs -/

def beforeDrain (rows : TerminalId → Row) : Draining := ⟨initial rows, false⟩

theorem initial_shelved (rows : TerminalId → Row) : Shelved rows (initial rows) false := by
  constructor
  case solo => exact .inl rfl
  case held => exact nofun
  case stored => exact fun terminal _ _ => ⟨[], rfl, List.Sublist.refl _⟩
  case spare => exact nofun
  case read => exact nofun

theorem drainStep_shelved {limits : Limits} {rows : TerminalId → Row} {before after : Draining}
    {label : Label} (shelved : Shelved rows before.world before.took)
    (keeps : KeepsTaken before label) (taken : drainStep limits before label = some after) :
    Shelved rows after.world after.took := by
  obtain ⟨world, moved, rfl⟩ := Option.map_eq_some_iff.mp taken
  exact tailMove_shelved shelved keeps (step_tailMove moved)

theorem draining_reaches {limits : Limits} {rows : TerminalId → Row} {draining : Draining}
    {allowed : Draining → Label → Prop}
    (run : Reaches (drainStep limits) allowed (beforeDrain rows) draining) :
    Reaches (step limits) anyStep (initial rows) draining.world := by
  induction run with
  | refl => exact .refl
  | tail label _ _ taken ih =>
      obtain ⟨world, moved, rfl⟩ := Option.map_eq_some_iff.mp taken
      exact .tail label ih trivial moved

/-- With nothing pending and nothing in flight, a chunk that was accepted is in a
committed batch or was discarded, and every discard was announced. -/
theorem drained_places {limits : Limits} {world : World} (conserved : Conserved limits world)
    (returned : flushAllNext world.queue = .returned) (terminal : TerminalId) :
    (∀ chunk ∈ world.accepted terminal, chunk ∈ world.discarded terminal ∨
      chunk ∈ chunksOf (world.committed terminal)) ∧
      (world.log.map (discardedChars terminal)).sum =
        (world.log.map (announcedChars terminal)).sum := by
  obtain ⟨pending, written⟩ := returned_drained conserved returned
  have popped : world.popped terminal = [] := by
    rw [World.popped, List.flatMap_eq_nil_iff]
    exact fun job listed => poppedFor_other (written job listed) terminal
  constructor
  · intro chunk listed
    have places := conserved.places terminal chunk
    have some := List.count_pos_iff.mpr listed
    rw [popped, retained, pending, chunksOf_nil, List.count_nil] at places
    by_cases gone : chunk ∈ world.discarded terminal
    · exact .inl gone
    · rw [List.count_eq_zero.mpr gone] at places
      exact .inr (List.count_pos_iff.mp (by omega))
  · have counted := conserved.counted terminal
    rw [droppedCount, pending] at counted
    rw [counted]
    exact Nat.zero_add _

/-- The second chunk is flushed within a second of the first. -/
def quickRun : List Label :=
  [.enqueue "t" "A" "" 0 true, .directFlush "t", .select, .write 0, .finish,
    .enqueue "t" "B" "" 0 true, .directFlush "t", .select, .write 5, .finish]

/-- `KeepsTaken` holds where nothing was taken. -/
def keepsTaken (draining : Draining) : Label → Bool
  | .rollback => !draining.took
  | .select => !draining.took
  | _ => true

theorem keepsTaken_sound (draining : Draining) (label : Label)
    (granted : keepsTaken draining label = true) : KeepsTaken draining label := by
  cases label with
  | rollback =>
      have kept : draining.took = false := by simpa [keepsTaken] using granted
      exact kept
  | select =>
      have kept : draining.took = false := by simpa [keepsTaken] using granted
      intro _ _ _ _ _ _ _ taken
      rw [kept] at taken
      cases taken
  | _ => trivial

/-- The same posts, the second one flushed after the interval. -/
def slowRun : List Label :=
  [.enqueue "t" "A" "" 0 true, .directFlush "t", .select, .write 0, .finish,
    .enqueue "t" "B" "" 0 true, .directFlush "t", .select, .write 2000, .finish]

end AifyComms.TerminalWriteQueue
