import AifyComms.TerminalWriters

/-!
The two locks of the terminal writers: a flush holds `_write_lock` and then asks for the
SQLite write lock, a control completion the other way round.
-/

namespace AifyComms.TerminalWriters
open Runs TerminalOutput

/-- A write of the queue holds `_write_lock` and waits for the database, which a control
completion has that waits for `_write_lock`. -/
def CircularWait (world : World) : Prop :=
  ∃ holder waiting pending control, world.writers = holder :: waiting ∧
    holder.isControl = false ∧ world.stage = .recorded pending ∧
    world.database = some (.control control .asked) ∧ .control control ∈ waiting

/-- A control completion asks for `_write_lock` when no job that holds it or waits for it
still has a write to make. -/
def AsksAlone (world : World) : Label → Prop
  | .ask => world.stage = .entered ∧ ∀ job ∈ world.writers, job.hasWrite world.buffers = false
  | _ => True

/-- Nothing ahead of a control completion that asked still writes. -/
def NothingAhead (world : World) : Prop :=
  ∀ control, world.database = some (.control control .asked) →
    ∃ front back, world.writers = front ++ .control control :: back ∧
      (∀ job ∈ front, job.hasWrite world.buffers = false) ∧
      (front ≠ [] → world.stage = .entered)

/-- A job of the queue at the head is ahead of the control completion. -/
theorem NothingAhead.behind {world : World} {holder : Job} {waiting : List Job} {control : Control}
    (nothing : NothingAhead world) (held : world.writers = holder :: waiting)
    (other : holder.isControl = false) (has : world.database = some (.control control .asked)) :
    ∃ front back, waiting = front ++ Job.control control :: back ∧
      holder.hasWrite world.buffers = false ∧
      (∀ job ∈ front, job.hasWrite world.buffers = false) ∧ world.stage = .entered := by
  obtain ⟨front, back, whole, silent, entered⟩ := nothing control has
  cases front with
  | nil =>
      rw [held, List.nil_append] at whole
      injection whole with same _
      rw [same] at other
      cases other
  | cons first rest =>
      rw [held, List.cons_append] at whole
      injection whole with same waits
      rw [List.forall_mem_cons, ← same] at silent
      exact ⟨rest, back, waits, silent.1, silent.2, entered (List.cons_ne_nil _ _)⟩

theorem nothingAhead_of_free {world : World}
    (free : ∀ control, world.database ≠ some (.control control .asked)) : NothingAhead world :=
  fun control has => absurd has (free control)

theorem move_nothingAhead {world after : World} {label : Label} (locks : Locks world)
    (nothing : NothingAhead world) (alone : AsksAlone world label)
    (move : Move world label after) : NothingAhead after := by
  cases move with
  | queued job named other =>
      intro control has
      obtain ⟨front, back, whole, silent, entered⟩ := nothing control has
      refine ⟨front, back ++ [job], ?_, silent, entered⟩
      dsimp only
      rw [whole, List.append_assoc, List.cons_append]
  | asked control begun =>
      intro other has
      injection has with has
      injection has with same _
      subst same
      exact ⟨world.writers, [], rfl, alone.2, fun _ => alone.1⟩
  | skipped terminal batch rest waiting held entered empty =>
      intro control has
      obtain ⟨front, back, whole, silent, others, _⟩ := nothing.behind held rfl has
      refine ⟨.flush terminal rest :: front, back, congrArg (List.cons _) whole, ?_,
        fun _ => entered⟩
      rw [List.forall_mem_cons]
      refine ⟨?_, others⟩
      simpa [Job.hasWrite, empty] using silent
  | selected holder waiting held other entered writes =>
      intro control has
      obtain ⟨_, _, _, silent, _, _⟩ := nothing.behind held other has
      rw [writes] at silent
      cases silent
  | released holder waiting held other entered =>
      intro control has
      obtain ⟨front, back, whole, _, others, _⟩ := nothing.behind held other has
      exact ⟨front, back, whole, others, fun _ => rfl⟩
  | recorded holder waiting folding held other read =>
      intro control has
      obtain ⟨_, _, _, _, _, entered⟩ := nothing.behind held other has
      rw [read] at entered
      cases entered
  | recordedControl control waiting now held entered =>
      intro other has
      obtain ⟨mine, _⟩ := locks.holder held
      have same : some (Owner.control other .asked) = some (.control control .asked) :=
        has.symm.trans mine
      injection same with same
      injection same with same _
      exact ⟨[], waiting, held.trans (by rw [same]; rfl), (fun _ ahead => by cases ahead),
        fun nonempty => absurd rfl nonempty⟩
  | updatedControl control waiting pending held issued =>
      intro other has
      obtain ⟨mine, _⟩ := locks.holder held
      have same : some (Owner.control other .asked) = some (.control control .asked) :=
        has.symm.trans mine
      injection same with same
      injection same with same _
      exact ⟨[], waiting, held.trans (by rw [same]; rfl), (fun _ ahead => by cases ahead),
        fun nonempty => absurd rfl nonempty⟩
  | gaveUp holder waiting held other =>
      intro control has
      rcases giveUp_database world holder.terminal waiting with ⟨free, _⟩ | ⟨same, _⟩
      · rw [free] at has
        cases has
      · rw [same] at has
        obtain ⟨front, back, whole, _, others, entered⟩ := nothing.behind held other has
        have released : world.giveUp holder.terminal waiting = world.release waiting := by
          unfold World.giveUp
          rw [entered]
        rw [released]
        exact ⟨front, back, whole, others, fun _ => rfl⟩
  | gaveUpControl control waiting held =>
      obtain ⟨_, _, free⟩ := giveUpControl_frame world control.terminal waiting
      exact nothingAhead_of_free fun other has => by rw [free] at has; cases has
  | opened => exact nothingAhead_of_free fun _ has => by cases has
  | updated => exact nothingAhead_of_free fun _ has => by cases has
  | committed => exact nothingAhead_of_free fun _ has => by cases has
  | left => exact nothingAhead_of_free fun _ has => by cases has
  | passed => exact nothingAhead_of_free fun _ has => by cases has
  | landed => exact nothingAhead_of_free fun _ has => by cases has
  | dropped => exact nothingAhead_of_free fun _ has => by cases has
  | cancelled => exact nothingAhead_of_free fun _ has => by cases has
  | lost => exact nothingAhead_of_free fun _ has => by cases has

/-- No circular wait, where every control completion asks for `_write_lock` with nothing
left to write ahead of it. -/
theorem no_circular_wait {rows : TerminalId → Row} {world : World}
    (run : Reaches step AsksAlone (initial rows) world) : ¬CircularWait world := by
  have invariant : Locks world ∧ NothingAhead world := by
    refine run.invariant (fun world => Locks world ∧ NothingAhead world)
      ⟨initial_locks rows, nothingAhead_of_free fun _ has => by cases has⟩ ?_
    rintro before label after ⟨locks, nothing⟩ alone taken
    exact ⟨step_locks locks taken, move_nothingAhead locks nothing alone (step_move taken)⟩
  rintro ⟨holder, waiting, pending, control, held, other, issued, has, _⟩
  obtain ⟨_, _, _, _, _, entered⟩ := invariant.2.behind held other has
  rw [issued] at entered
  cases entered

def isRecorded : Stage → Bool
  | .recorded _ => true
  | _ => false

def asker : Option Owner → Option Control
  | some (.control control .asked) => some control
  | _ => none

/-- A flush has read the row and issued its UPDATE when a control completion, which began
before that, asks for `_write_lock`. -/
theorem circular_wait_reached : ∃ world, Reaches step anyStep (initial fun _ => emptyRow) world ∧
    CircularWait world := by
  have executed : (exec step (fun _ _ => true) (initial fun _ => emptyRow)
      [.flush "t" [⟨"a", "", 1⟩], .select, .opens exitControl, .record 0, .ask]).map
      (fun world => (world.writers, isRecorded world.stage, asker world.database)) =
      some ([.flush "t" [⟨"a", "", 1⟩], .control exitControl], true, some exitControl) := by
    decide
  obtain ⟨world, run, seen⟩ := reaches_observed _ _ _ _ (fun _ _ _ => trivial) executed
  simp only [Prod.mk.injEq] at seen
  obtain ⟨held, recorded, has⟩ := seen
  refine ⟨world, run, ?_⟩
  cases stage : world.stage with
  | recorded pending =>
      unfold asker at has
      split at has
      next control asked =>
        obtain rfl := Option.some.inj has
        exact ⟨_, _, pending, _, held, rfl, stage, asked, List.mem_singleton_self _⟩
      · cases has
  | _ =>
      rw [stage] at recorded
      cases recorded

def isEntered : Stage → Bool
  | .entered => true
  | _ => false

/-- `AsksAlone` where no job waits at all, as a test of a run. -/
def asksNow (world : World) : Label → Bool
  | .ask => decide (world.writers = []) && isEntered world.stage
  | _ => true

/-- The same completion, once the flush has left: it gets `_write_lock` and appends. -/
theorem no_circular_wait_after : ∃ world,
    Reaches step AsksAlone (initial fun _ => emptyRow) world ∧
    asker world.database = some exitControl ∧ isRecorded world.stage = true ∧
    ¬CircularWait world := by
  have asks : ∀ world label, asksNow world label = true → AsksAlone world label := by
    intro world label granted
    cases label with
    | ask =>
        dsimp only [asksNow] at granted
        rw [Bool.and_eq_true, decide_eq_true_eq] at granted
        refine ⟨?_, by rw [granted.1]; intro job waits; cases waits⟩
        cases stage : world.stage with
        | entered => rfl
        | _ => simp [isEntered, stage] at granted
    | _ => trivial
  have executed : (exec step asksNow (initial fun _ => emptyRow)
      [.flush "t" [⟨"a", "", 1⟩], .select, .record 0, .update, .commit, .finish,
        .opens exitControl, .ask, .record 5]).map
      (fun world => (asker world.database, isRecorded world.stage)) =
      some (some exitControl, true) := by
    decide
  obtain ⟨world, run, seen⟩ := reaches_observed _ _ _ _ asks executed
  simp only [Prod.mk.injEq] at seen
  exact ⟨world, run, seen.1, seen.2, no_circular_wait run⟩

end AifyComms.TerminalWriters
