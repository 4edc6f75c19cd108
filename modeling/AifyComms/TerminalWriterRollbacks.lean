import AifyComms.TerminalWriterAgreement

/-!
What becomes of a piece whose transaction is rolled back: its number is in no row, in no
tail that is held and in nothing that can still get there.
-/

namespace AifyComms.TerminalWriters
open Runs TerminalOutput

def tailNumbers : Option Tail → List Nat
  | some held => held.numbers
  | none => []

/-- In a row, or in the tail that is there when the write under way fails. -/
def World.Kept (world : World) (number : Nat) : Prop :=
  ∃ terminal, number ∈ (world.rows terminal).numbers ∨ number ∈ tailNumbers (world.base terminal)

/-- In a row once the control completion that left the lock has committed. -/
def World.Lands (world : World) (number : Nat) : Prop :=
  ∃ terminal, number ∈ (world.landing terminal).numbers

/-- What the write under way has in its hands. -/
def Stage.numbers : Stage → List Nat
  | .entered => []
  | .selected row _ => row.numbers
  | .recorded pending | .writing pending =>
      pending.numbers ++ pending.update.toList.flatMap RowUpdate.numbers

def World.UnderWay (world : World) (number : Nat) : Prop :=
  number ∈ world.stage.numbers ∨ ∃ terminal, number ∈ tailNumbers (world.buffers terminal)

/-- Given out, and not rolled back. -/
def World.Stands (world : World) (number : Nat) : Prop :=
  number < world.next ∧ number ∉ world.rolledBack

structure Traceless (world : World) : Prop where
  bounded : ∀ number ∈ world.rolledBack, number < world.next
  kept : ∀ number, world.Kept number → world.Stands number
  lands : ∀ number, world.Lands number → world.Stands number
  underWay : ∀ number, world.UnderWay number → world.Stands number
  /-- What can still fail is in no row yet. -/
  issued : ∀ pending, world.stage.pending = some pending → ∀ number ∈ pending.numbers,
    ¬ world.Kept number ∧ ¬ world.Lands number
  left : ∀ control pending, leftBy world.database = some (control, pending) → control.Ends →
    ∀ number ∈ pending.numbers,
      world.Stands number ∧ ¬ world.Kept number ∧ ¬ world.UnderWay number

theorem base_kept {world : World} {number : Nat} (terminal : TerminalId)
    (listed : number ∈ tailNumbers (world.base terminal)) : world.Kept number :=
  ⟨terminal, .inr listed⟩

theorem rows_kept {world : World} {number : Nat} (terminal : TerminalId)
    (listed : number ∈ (world.rows terminal).numbers) : world.Kept number :=
  ⟨terminal, .inl listed⟩

/-- A tail that no write under way has changed is kept. -/
theorem idle_kept {world : World} {number : Nat} (idle : world.stage.pending = none)
    (terminal : TerminalId) (listed : number ∈ tailNumbers (world.buffers terminal)) :
    world.Kept number := by
  rw [← base_of_idle idle] at listed
  exact base_kept terminal listed

theorem pending_numbers {stage : Stage} {pending : Pending} (under : stage.pending = some pending)
    {number : Nat} (listed : number ∈ pending.numbers ∨
      number ∈ pending.update.toList.flatMap RowUpdate.numbers) : number ∈ stage.numbers := by
  cases stage with
  | entered => cases under
  | selected row before => cases under
  | recorded other =>
      obtain rfl := Option.some.inj under
      exact List.mem_append.mpr listed
  | writing other =>
      obtain rfl := Option.some.inj under
      exact List.mem_append.mpr listed

/-- The numbers that one UPDATE leaves in a row. -/
theorem landed_numbers {update : Option RowUpdate} {row : Row} {number : Nat}
    (listed : number ∈ (landUpdate update row).numbers) :
    number ∈ update.toList.flatMap RowUpdate.numbers ∨ number ∈ row.numbers := by
  cases update with
  | none => exact .inr listed
  | some update =>
      dsimp only [landUpdate, RowUpdate.apply] at listed
      split at listed
      · exact .inl (by simpa using listed)
      · exact .inr listed

/-- The numbers stay where they were or are gone, and those that are rolled back are in
none of these places. -/
theorem Traceless.rollsBack {world after : World} (traceless : Traceless world) (gone : List Nat)
    (pieces : after.pieces = world.pieces)
    (rolledBack : after.rolledBack = world.rolledBack ++ gone)
    (given : ∀ number ∈ gone, number < world.next)
    (kept : ∀ number, after.Kept number → world.Kept number ∧ number ∉ gone)
    (lands : ∀ number, after.Lands number →
      (world.Lands number ∨ world.Kept number) ∧ number ∉ gone)
    (underWay : ∀ number, after.UnderWay number →
      (world.UnderWay number ∨ world.Kept number) ∧ number ∉ gone)
    (issued : ∀ pending, after.stage.pending = some pending → world.stage.pending = some pending)
    (left : ∀ control pending, leftBy after.database = some (control, pending) →
      leftBy world.database = some (control, pending) ∧
        (control.Ends → ∀ number ∈ pending.numbers, number ∉ gone)) : Traceless after := by
  have stands : ∀ number, world.Stands number → number ∉ gone → after.Stands number := by
    intro number stands outside
    unfold World.Stands World.next
    rw [pieces, rolledBack, List.mem_append]
    exact ⟨stands.1, fun listed => listed.elim stands.2 outside⟩
  constructor
  case bounded =>
    unfold World.next
    rw [pieces, rolledBack, List.forall_mem_append]
    exact ⟨traceless.bounded, given⟩
  case kept =>
    intro number listed
    obtain ⟨before, outside⟩ := kept number listed
    exact stands number (traceless.kept number before) outside
  case lands =>
    intro number listed
    obtain ⟨before | before, outside⟩ := lands number listed
    · exact stands number (traceless.lands number before) outside
    · exact stands number (traceless.kept number before) outside
  case underWay =>
    intro number listed
    obtain ⟨before | before, outside⟩ := underWay number listed
    · exact stands number (traceless.underWay number before) outside
    · exact stands number (traceless.kept number before) outside
  case issued =>
    intro pending under number listed
    obtain ⟨notKept, notLanding⟩ := traceless.issued pending (issued pending under) number listed
    exact ⟨fun now => notKept (kept number now).1, fun now =>
      (lands number now).1.elim notLanding notKept⟩
  case left =>
    intro control pending has ends number listed
    obtain ⟨before, outside⟩ := left control pending has
    obtain ⟨stood, notKept, notUnder⟩ := traceless.left control pending before ends number listed
    exact ⟨stands number stood (outside ends number listed), fun now => notKept (kept number now).1,
      fun now => (underWay number now).1.elim notUnder notKept⟩

/-- A step that rolls nothing back. -/
theorem Traceless.shrinks {world after : World} (traceless : Traceless world)
    (pieces : after.pieces = world.pieces) (rolledBack : after.rolledBack = world.rolledBack)
    (kept : ∀ number, after.Kept number → world.Kept number)
    (lands : ∀ number, after.Lands number → world.Lands number)
    (underWay : ∀ number, after.UnderWay number → world.UnderWay number ∨ world.Kept number)
    (issued : ∀ pending, after.stage.pending = some pending → world.stage.pending = some pending)
    (left : ∀ control pending, leftBy after.database = some (control, pending) →
      leftBy world.database = some (control, pending)) : Traceless after :=
  traceless.rollsBack [] pieces (rolledBack.trans (List.append_nil _).symm) nofun
    (fun number listed => ⟨kept number listed, List.not_mem_nil⟩)
    (fun number listed => ⟨.inl (lands number listed), List.not_mem_nil⟩)
    (fun number listed => ⟨underWay number listed, List.not_mem_nil⟩) issued
    (fun control pending has => ⟨left control pending has, fun _ _ _ => List.not_mem_nil⟩)

/-- Who holds the lock and what is in the rows stays as it was. -/
theorem Traceless.of_frame {world after : World} (traceless : Traceless world)
    (pieces : after.pieces = world.pieces) (rolledBack : after.rolledBack = world.rolledBack)
    (rows : ∀ terminal, (after.rows terminal).numbers = (world.rows terminal).numbers)
    (landing : ∀ terminal, (after.landing terminal).numbers = (world.landing terminal).numbers)
    (base : after.base = world.base) (buffers : after.buffers = world.buffers)
    (numbers : after.stage.numbers = world.stage.numbers)
    (stage : after.stage.pending = world.stage.pending)
    (left : ∀ control pending, leftBy after.database = some (control, pending) →
      leftBy world.database = some (control, pending)) : Traceless after := by
  refine traceless.shrinks pieces rolledBack ?_ ?_ ?_ (fun pending under => stage ▸ under) left
  · rintro number ⟨terminal, listed⟩
    rw [rows, base] at listed
    exact ⟨terminal, listed⟩
  · rintro number ⟨terminal, listed⟩
    rw [landing] at listed
    exact ⟨terminal, listed⟩
  · intro number listed
    unfold World.UnderWay at listed
    rw [numbers, buffers] at listed
    exact .inl listed

/-- Nobody is inside the lock and nobody left it with a commit to come: the rows and the
tails are all there is. -/
theorem traceless_idle {world : World} (entered : world.stage = .entered)
    (free : leftBy world.database = none)
    (bounded : ∀ number ∈ world.rolledBack, number < world.next)
    (rows : ∀ terminal, ∀ number ∈ (world.rows terminal).numbers, world.Stands number)
    (held : ∀ terminal, ∀ number ∈ tailNumbers (world.buffers terminal), world.Stands number) :
    Traceless world := by
  have idle := pending_of_entered entered
  constructor
  case bounded => exact bounded
  case kept =>
    rintro number ⟨terminal, listed | listed⟩
    · exact rows terminal number listed
    · rw [base_of_idle idle] at listed
      exact held terminal number listed
  case lands =>
    rintro number ⟨terminal, listed⟩
    rw [landing_of_free free] at listed
    exact rows terminal number listed
  case underWay =>
    rintro number (listed | ⟨terminal, listed⟩)
    · rw [entered] at listed
      cases listed
    · exact held terminal number listed
  case issued =>
    intro pending under
    rw [idle] at under
    cases under
  case left =>
    intro control pending has
    rw [free] at has
    cases has

/-! ### Folding a chunk in -/

/-- Every number an append leaves was in the tail, in the row it was given, or is its
own. -/
theorem append_numbers (folding : Folding) (buffers : Buffers) {terminal : TerminalId}
    (named : terminal ≠ "") (number listed : Nat)
    (left : listed ∈ tailNumbers ((folding.append buffers terminal number).1 terminal) ∨
      listed ∈ (folding.append buffers terminal number).2.toList.flatMap RowUpdate.numbers) :
    listed ∈ tailNumbers (buffers terminal) ∨ listed ∈ folding.row.numbers ∨
      (listed = number ∧ (folding.append buffers terminal number).2.isSome) := by
  rcases append_folds folding buffers named number with nothing | ⟨update, issued, folds⟩
  · rw [nothing] at left
    exact left.elim .inl nofun
  have folded : listed ∈ folding.numbers buffers terminal number := by
    rcases left with left | left
    · cases after : (folding.append buffers terminal number).1 terminal with
      | none =>
          rw [after] at left
          cases left
      | some kept =>
          rw [after] at left
          rw [← (folds.held kept after).2.1]
          exact left
    · rw [issued] at left
      rw [← folds.numbered]
      simpa using left
  unfold Folding.numbers currentNumbers ownNumber at folded
  rw [issued]
  rcases List.mem_append.mp folded with before | own
  · cases holding : buffers terminal with
    | none =>
        rw [holding] at before
        exact .inr (.inl before)
    | some held =>
        rw [holding] at before
        exact .inl before
  · split at own
    · cases own
    · exact .inr (.inr ⟨List.mem_singleton.mp own, rfl⟩)

theorem record_next (world : World) (terminal : TerminalId) (folding : Folding) :
    (world.record terminal folding).next =
      world.next + (folding.append world.buffers terminal world.next).2.toList.length := by
  simp only [World.next, World.record, List.length_append, List.length_map]
  omega

theorem recorded_traceless {world : World} {holder : Job} {waiting : List Job} (folding : Folding)
    (traceless : Traceless world) (held : world.writers = holder :: waiting)
    (named : holder.terminal ≠ "") (idle : world.stage.pending = none)
    (before : folding.before = world.buffers holder.terminal)
    (read : ∀ number ∈ folding.row.numbers, world.UnderWay number ∨ world.Kept number) :
    Traceless (world.record holder.terminal folding) := by
  have base := record_base folding held idle before
  have next := record_next world holder.terminal folding
  have stands : ∀ number, world.Stands number →
      (world.record holder.terminal folding).Stands number := by
    rintro number ⟨given, outside⟩
    exact ⟨by omega, outside⟩
  have kept : ∀ number, (world.record holder.terminal folding).Kept number → world.Kept number := by
    rintro number ⟨terminal, listed⟩
    rw [base] at listed
    exact ⟨terminal, listed⟩
  have own : ∀ number, (folding.append world.buffers holder.terminal world.next).2.isSome →
      number = world.next → (world.record holder.terminal folding).Stands number := by
    intro number issued same
    obtain ⟨update, issued⟩ := Option.isSome_iff_exists.mp issued
    rw [issued] at next
    refine ⟨by rw [next, same]; exact Nat.lt_succ_self _, fun listed => ?_⟩
    have given := traceless.bounded number listed
    omega
  -- What is under way after the append was so before, is kept, or is the new number.
  have underWay : ∀ number, (world.record holder.terminal folding).UnderWay number →
      world.UnderWay number ∨ world.Kept number ∨ (number = world.next ∧
        (folding.append world.buffers holder.terminal world.next).2.isSome) := by
    have appended : ∀ number,
        (number ∈ tailNumbers ((folding.append world.buffers holder.terminal world.next).1
            holder.terminal) ∨
          number ∈ (folding.append world.buffers holder.terminal world.next).2.toList.flatMap
            RowUpdate.numbers) → world.UnderWay number ∨ world.Kept number ∨
          (number = world.next ∧
            (folding.append world.buffers holder.terminal world.next).2.isSome) := by
      intro number listed
      rcases append_numbers folding world.buffers named world.next number listed with
        tail | row | new
      · exact .inr (.inl (idle_kept idle holder.terminal tail))
      · exact (read number row).elim .inl fun kept => .inr (.inl kept)
      · exact .inr (.inr new)
    rintro number (listed | ⟨terminal, listed⟩)
    · rcases List.mem_append.mp listed with listed | listed
      · obtain ⟨update, issued, same⟩ := List.mem_map.mp listed
        have issued := Option.isSome_iff_exists.mpr ⟨update, Option.mem_toList.mp issued⟩
        exact .inr (.inr ⟨same.symm, issued⟩)
      · exact appended number (.inr listed)
    · by_cases here : terminal = holder.terminal
      · rw [here] at listed
        exact appended number (.inl listed)
      · have same := append_other folding world.buffers world.next here
        have listed : number ∈ tailNumbers
            ((folding.append world.buffers holder.terminal world.next).1 terminal) := listed
        rw [same] at listed
        exact .inr (.inl (idle_kept idle terminal listed))
  constructor
  case bounded =>
    intro number listed
    have given := traceless.bounded number listed
    omega
  case kept => exact fun number listed => stands number (traceless.kept number (kept number listed))
  case lands => exact fun number listed => stands number (traceless.lands number listed)
  case underWay =>
    intro number listed
    rcases underWay number listed with before | before | ⟨same, issued⟩
    · exact stands number (traceless.underWay number before)
    · exact stands number (traceless.kept number before)
    · exact own number issued same
  case issued =>
    intro pending under number listed
    obtain rfl := Option.some.inj under
    obtain ⟨update, _, same⟩ := List.mem_map.mp listed
    refine ⟨fun now => ?_, fun now => ?_⟩
    · have given := (traceless.kept number (kept number now)).1
      have same : world.next = number := same
      omega
    · have given := (traceless.lands number now).1
      have same : world.next = number := same
      omega
  case left =>
    intro control pending has ends number listed
    obtain ⟨stood, notKept, notUnder⟩ := traceless.left control pending has ends number listed
    refine ⟨stands number stood, fun now => notKept (kept number now), fun now => ?_⟩
    rcases underWay number now with before | before | ⟨same, _⟩
    · exact notUnder before
    · exact notKept before
    · have given := stood.1
      omega

/-! ### What goes back -/

theorem giveUp_rolledBack (world : World) (terminal : TerminalId) (waiting : List Job) :
    (world.giveUp terminal waiting).pieces = world.pieces ∧
      (world.giveUp terminal waiting).rolledBack =
        world.rolledBack ++ world.stage.pending.toList.flatMap Pending.numbers := by
  unfold World.giveUp
  cases world.stage <;> simp [Stage.pending, World.release]

theorem giveUpControl_rolledBack (world : World) (terminal : TerminalId) (waiting : List Job) :
    (world.giveUpControl terminal waiting).pieces = world.pieces ∧
      (world.giveUpControl terminal waiting).rolledBack =
        world.rolledBack ++ world.stage.pending.toList.flatMap Pending.numbers := by
  unfold World.giveUpControl
  cases world.stage <;> simp [Stage.pending, World.release]

/-- A write fails: its numbers are in nothing that stays. -/
theorem gaveUp_traceless {world after : World} (traceless : Traceless world)
    (entered : after.stage = .entered)
    (pieces : after.pieces = world.pieces)
    (rolledBack : after.rolledBack =
      world.rolledBack ++ world.stage.pending.toList.flatMap Pending.numbers)
    (rows : after.rows = world.rows) (landing : after.landing = world.landing)
    (buffers : ∀ terminal, after.buffers terminal = world.base terminal ∨
      after.buffers terminal = none)
    (left : ∀ control pending, leftBy after.database = some (control, pending) →
      leftBy world.database = some (control, pending)) : Traceless after := by
  have idle := pending_of_entered entered
  have gone : ∀ number ∈ world.stage.pending.toList.flatMap Pending.numbers,
      ∃ pending, world.stage.pending = some pending ∧ number ∈ pending.numbers := by
    intro number listed
    obtain ⟨pending, under, listed⟩ := List.mem_flatMap.mp listed
    exact ⟨pending, Option.mem_toList.mp under, listed⟩
  have kept : ∀ number, world.Kept number →
      number ∉ world.stage.pending.toList.flatMap Pending.numbers := by
    intro number stays listed
    obtain ⟨pending, under, listed⟩ := gone number listed
    exact (traceless.issued pending under number listed).1 stays
  have held : ∀ terminal number, number ∈ tailNumbers (after.buffers terminal) →
      world.Kept number := by
    intro terminal number listed
    rcases buffers terminal with same | none
    · rw [same] at listed
      exact base_kept terminal listed
    · rw [none] at listed
      cases listed
  refine traceless.rollsBack _ pieces rolledBack ?_ ?_ ?_ ?_ ?_ ?_
  · intro number listed
    obtain ⟨pending, under, listed⟩ := gone number listed
    exact (traceless.underWay number (.inl (pending_numbers under (.inl listed)))).1
  · rintro number ⟨terminal, listed | listed⟩
    · rw [rows] at listed
      exact ⟨rows_kept terminal listed, kept number (rows_kept terminal listed)⟩
    · rw [base_of_idle idle] at listed
      have stays := held terminal number listed
      exact ⟨stays, kept number stays⟩
  · rintro number ⟨terminal, listed⟩
    rw [landing] at listed
    refine ⟨.inl ⟨terminal, listed⟩, fun back => ?_⟩
    obtain ⟨pending, under, back⟩ := gone number back
    exact (traceless.issued pending under number back).2 ⟨terminal, listed⟩
  · rintro number (listed | ⟨terminal, listed⟩)
    · rw [entered] at listed
      cases listed
    · have stays := held terminal number listed
      exact ⟨.inr stays, kept number stays⟩
  · intro pending under
    rw [idle] at under
    cases under
  · intro control pending has
    refine ⟨left control pending has, fun ends number listed back => ?_⟩
    obtain ⟨other, under, back⟩ := gone number back
    have outside := (traceless.left control pending (left control pending has) ends number listed).2
    exact outside.2 (.inl (pending_numbers under (.inl back)))

/-- The transaction of a control completion that ended its terminal is rolled back. -/
theorem lost_traceless {world : World} {control : Control} {pending : Pending}
    (traceless : Traceless world) (has : world.database = some (.control control (.left pending)))
    (ends : control.Ends) : Traceless { world with
      database := none
      rolledBack := world.rolledBack ++ pending.numbers } := by
  have left := traceless.left control pending (by rw [has]; rfl) ends
  refine traceless.rollsBack pending.numbers rfl rfl (fun number listed => (left number listed).1.1)
    ?_ ?_ ?_ (fun _ under => under) nofun
  · intro number stays
    have stays : world.Kept number := stays
    exact ⟨stays, fun listed => (left number listed).2.1 stays⟩
  · rintro number ⟨terminal, listed⟩
    rw [landing_of_free rfl] at listed
    have stays := rows_kept terminal listed
    exact ⟨.inr stays, fun listed => (left number listed).2.1 stays⟩
  · intro number under
    have under : world.UnderWay number := under
    exact ⟨.inl under, fun listed => (left number listed).2.2 under⟩

/-- A write is committed: what its holder had in its hands is what stays. -/
theorem commits_traceless {world after : World} (traceless : Traceless world)
    (entered : after.stage = .entered) (free : leftBy after.database = none)
    (pieces : after.pieces = world.pieces) (rolledBack : after.rolledBack = world.rolledBack)
    (rows : ∀ terminal, ∀ number ∈ (after.rows terminal).numbers,
      world.UnderWay number ∨ world.Kept number)
    (buffers : after.buffers = world.buffers) : Traceless after := by
  have stands : ∀ number, world.UnderWay number ∨ world.Kept number → after.Stands number := by
    intro number listed
    unfold World.Stands World.next
    rw [pieces, rolledBack]
    exact listed.elim (traceless.underWay number) (traceless.kept number)
  refine traceless_idle entered free ?_ ?_ ?_
  · unfold World.next
    rw [pieces, rolledBack]
    exact traceless.bounded
  · exact fun terminal number listed => stands number (rows terminal number listed)
  · intro terminal number listed
    rw [buffers] at listed
    exact stands number (.inl (.inr ⟨terminal, listed⟩))

/-- A control completion leaves the lock: its numbers are in the row its commit lands. -/
theorem left_traceless {world : World} {control : Control} {waiting : List Job} {pending : Pending}
    (agreed : Agreed world) (traceless : Traceless world)
    (held : world.writers = .control control :: waiting) (wrote : world.stage = .writing pending) :
    Traceless { world.release waiting with
      database := some (.control control (.left pending)) } := by
  have under : world.stage.pending = some pending := by
    rw [wrote]
    rfl
  have tails : ∀ terminal number, number ∈ tailNumbers (world.buffers terminal) →
      world.Stands number := fun terminal number listed =>
    traceless.underWay number (.inr ⟨terminal, listed⟩)
  -- The tail of the terminal that ended is forgotten, and no other tail has the number.
  have forgotten : control.Ends → ∀ number ∈ pending.numbers, ∀ terminal,
      number ∉ tailNumbers (world.buffers terminal) := by
    intro ends number listed terminal back
    by_cases here : terminal = control.terminal
    · rw [here, agreed.ending control waiting pending held under ends] at back
      cases back
    · have different : terminal ≠ (Job.control control).terminal := here
      refine (traceless.issued pending under number listed).1 (base_kept terminal ?_)
      rw [base_of_pending held under, Function.update_of_ne different]
      exact back
  constructor
  case bounded => exact traceless.bounded
  case kept =>
    rintro number ⟨terminal, listed | listed⟩
    · exact traceless.kept number (rows_kept terminal listed)
    · rw [base_of_idle rfl] at listed
      exact tails terminal number listed
  case lands =>
    rintro number ⟨terminal, listed⟩
    rw [landing_of_left control pending rfl] at listed
    by_cases here : terminal = control.terminal
    · rw [here, Function.update_self] at listed
      rcases landed_numbers listed with update | row
      · exact traceless.underWay number (.inl (pending_numbers under (.inr update)))
      · exact traceless.kept number (rows_kept control.terminal row)
    · rw [Function.update_of_ne here] at listed
      exact traceless.kept number (rows_kept terminal listed)
  case underWay =>
    rintro number (listed | ⟨terminal, listed⟩)
    · cases listed
    · exact tails terminal number listed
  case issued => exact nofun
  case left =>
    intro other issued same ends number listed
    obtain ⟨rfl, rfl⟩ := Prod.mk.inj (Option.some.inj same)
    refine ⟨traceless.underWay number (.inl (pending_numbers under (.inl listed))), ?_, ?_⟩
    · rintro ⟨terminal, row | tail⟩
      · exact (traceless.issued pending under number listed).1 (rows_kept terminal row)
      · rw [base_of_idle rfl] at tail
        exact forgotten ends number listed terminal tail
    · rintro (stage | ⟨terminal, tail⟩)
      · cases stage
      · exact forgotten ends number listed terminal tail

/-- The control completion that left the lock commits. -/
theorem landed_traceless {world : World} {control : Control} {pending : Pending}
    (traceless : Traceless world)
    (has : world.database = some (.control control (.left pending))) :
    Traceless { world with
      rows := Function.update world.rows control.terminal
        (landUpdate pending.update (control.row (world.rows control.terminal)))
      database := none } := by
  have landing : world.landing = _ := landing_of_left control pending (by rw [has]; rfl)
  rw [← landing]
  constructor
  case bounded => exact traceless.bounded
  case kept =>
    rintro number ⟨terminal, listed | listed⟩
    · exact traceless.lands number ⟨terminal, listed⟩
    · exact traceless.kept number (base_kept terminal listed)
  case lands =>
    rintro number ⟨terminal, listed⟩
    rw [landing_of_free rfl] at listed
    exact traceless.lands number ⟨terminal, listed⟩
  case underWay => exact traceless.underWay
  case issued =>
    intro under stage number listed
    obtain ⟨notKept, notLanding⟩ := traceless.issued under stage number listed
    refine ⟨?_, ?_⟩
    · rintro ⟨terminal, row | tail⟩
      · exact notLanding ⟨terminal, row⟩
      · exact notKept (base_kept terminal tail)
    · rintro ⟨terminal, row⟩
      rw [landing_of_free rfl] at row
      exact notLanding ⟨terminal, row⟩
  case left => exact nofun

/-- No row and no tail moves; the lock and the database may change hands. -/
theorem Traceless.of_rows {world after : World} (traceless : Traceless world)
    (pieces : after.pieces = world.pieces) (rolledBack : after.rolledBack = world.rolledBack)
    (rows : after.rows = world.rows) (base : after.base = world.base)
    (buffers : after.buffers = world.buffers)
    (numbers : after.stage.numbers = world.stage.numbers)
    (stage : after.stage.pending = world.stage.pending)
    (left : leftBy after.database = leftBy world.database) : Traceless after := by
  refine traceless.of_frame pieces rolledBack ?_ ?_ base buffers numbers stage ?_
  · rw [rows]
    exact fun _ => rfl
  · rw [landing_congr left rows]
    exact fun _ => rfl
  · rw [left]
    exact fun _ _ has => has

theorem joined_base {world after : World} {job : Job} (locks : Locks world)
    (writers : after.writers = world.writers ++ [job]) (stage : after.stage = world.stage)
    (buffers : after.buffers = world.buffers) : after.base = world.base := by
  by_cases empty : world.writers = []
  · have idle := pending_of_entered (locks.idle empty)
    rw [base_of_idle idle, base_of_idle (by rw [stage]; exact idle), buffers]
  · refine base_congr ?_ (by rw [stage]) buffers
    rw [writers]
    exact appended_head job empty

theorem move_traceless {world after : World} {label : Label} (locks : Locks world)
    (agreed : Agreed world) (early : FailsEarly world label) (traceless : Traceless world)
    (move : Move world label after) : Traceless after := by
  cases move with
  | queued job named other =>
      exact traceless.of_rows rfl rfl rfl (joined_base locks rfl rfl rfl) rfl rfl rfl rfl
  | opened control named free =>
      exact traceless.of_rows rfl rfl rfl rfl rfl rfl rfl (by rw [free]; rfl)
  | asked control begun =>
      exact traceless.of_rows rfl rfl rfl (joined_base locks rfl rfl rfl) rfl rfl rfl
        (by rw [begun]; rfl)
  | skipped terminal batch rest waiting held entered empty =>
      refine traceless.of_rows rfl rfl rfl ?_ rfl rfl rfl rfl
      rw [base_of_idle (pending_of_entered entered), base_of_idle (by rw [entered]; rfl)]
  | selected holder waiting held other entered writes =>
      refine traceless.shrinks rfl rfl ?_ (fun _ listed => listed) ?_ nofun fun _ _ has => has
      · rintro number ⟨terminal, listed⟩
        rw [base_of_idle rfl, ← base_of_idle (pending_of_entered entered)] at listed
        exact ⟨terminal, listed⟩
      · rintro number (row | tail)
        · exact .inr (rows_kept holder.terminal row)
        · exact .inl (.inr tail)
  | released holder waiting held other entered =>
      refine traceless.of_rows rfl rfl rfl ?_ rfl ?_ (pending_of_entered entered).symm rfl
      · rw [base_of_idle (pending_of_entered entered), base_of_idle rfl]
        rfl
      · rw [entered]
        rfl
  | recorded holder waiting folding held other read =>
      have named := locks.namedJob holder (held ▸ List.mem_cons_self)
      refine recorded_traceless folding traceless held named (by rw [read]; rfl)
        (agreed.read _ _ _ _ held read) fun number listed => .inl (.inl ?_)
      rw [read]
      exact listed
  | recordedControl control waiting now held entered =>
      have named := locks.namedJob (.control control) (held ▸ List.mem_cons_self)
      have recorded := recorded_traceless (control.folding (world.rows control.terminal)
        (world.buffers control.terminal) now) traceless held named (pending_of_entered entered) rfl
        fun number listed => .inr (rows_kept control.terminal listed)
      exact recorded
  | updated holder waiting pending held other issued free =>
      exact traceless.of_rows rfl rfl rfl (base_congr rfl (by rw [issued]; rfl) rfl) rfl
        (by rw [issued]; rfl) (by rw [issued]; rfl) (by rw [free]; rfl)
  | updatedControl control waiting pending held issued =>
      exact traceless.of_rows rfl rfl rfl (base_congr rfl (by rw [issued]; rfl) rfl) rfl
        (by rw [issued]; rfl) (by rw [issued]; rfl) rfl
  | committed holder waiting rest pending held other wrote has left =>
      refine commits_traceless traceless rfl rfl rfl rfl ?_ rfl
      intro terminal number listed
      by_cases here : terminal = holder.terminal
      · dsimp only at listed
        rw [here, Function.update_self] at listed
        rcases landed_numbers listed with update | row
        · exact .inl (.inl (pending_numbers (by rw [wrote]; rfl) (.inr update)))
        · exact .inr (rows_kept holder.terminal row)
      · dsimp only at listed
        rw [Function.update_of_ne here] at listed
        exact .inr (rows_kept terminal listed)
  | left control waiting pending held wrote => exact left_traceless agreed traceless held wrote
  | gaveUp holder waiting held other =>
      obtain ⟨pieces, rolledBack⟩ := giveUp_rolledBack world holder.terminal waiting
      refine gaveUp_traceless traceless (giveUp_writers world holder.terminal waiting).2 pieces
        rolledBack (giveUp_rows world holder.terminal waiting) (giveUp_landing locks held other)
        (fun terminal => .inl (congrFun (giveUp_base agreed held) terminal)) ?_
      rw [giveUp_left locks held other]
      exact fun _ _ has => has
  | gaveUpControl control waiting held =>
      obtain ⟨pieces, rolledBack⟩ := giveUpControl_rolledBack world control.terminal waiting
      obtain ⟨_, entered, free⟩ := giveUpControl_frame world control.terminal waiting
      refine gaveUp_traceless traceless entered pieces rolledBack
        (giveUpControl_rows world control.terminal waiting) (giveUpControl_landing locks held)
        (giveUpControl_base agreed held fun pending => early control waiting pending held) ?_
      rw [free]
      exact nofun
  | passed control begun =>
      have rows : ∀ terminal, (Function.update world.rows control.terminal
          (control.row (world.rows control.terminal)) terminal).numbers =
          (world.rows terminal).numbers := by
        intro terminal
        by_cases here : terminal = control.terminal
        · rw [here, Function.update_self]
          rfl
        · rw [Function.update_of_ne here]
      refine traceless.of_frame rfl rfl rows ?_ rfl rfl rfl rfl nofun
      rw [landing_of_free rfl, landing_of_free (by rw [begun]; rfl)]
      exact rows
  | landed control pending has => exact landed_traceless traceless has
  | dropped control begun =>
      exact traceless.of_rows rfl rfl rfl rfl rfl rfl rfl (by rw [begun]; rfl)
  | cancelled control waits outside =>
      exact traceless.of_rows rfl rfl rfl (base_congr (cancelled_head outside) rfl rfl) rfl rfl rfl
        (by rw [waits]; rfl)
  | lost control pending has =>
      exact lost_traceless traceless has (early control pending (by rw [has]; rfl))

/-! ### Over whole runs -/

/-- Nothing that was rolled back is in a row or in a tail. -/
def RolledBackGone (world : World) : Prop :=
  ∀ number ∈ world.rolledBack, ∀ terminal, number ∉ (world.rows terminal).numbers ∧
    number ∉ tailNumbers (world.buffers terminal)

theorem Traceless.rolledBackGone {world : World} (traceless : Traceless world) :
    RolledBackGone world := by
  intro number gone terminal
  refine ⟨fun row => ?_, fun tail => ?_⟩
  · exact (traceless.kept number (rows_kept terminal row)).2 gone
  · exact (traceless.underWay number (.inr ⟨terminal, tail⟩)).2 gone

theorem initial_traceless {rows : TerminalId → Row}
    (fresh : ∀ terminal, (rows terminal).numbers = []) : Traceless (initial rows) := by
  refine traceless_idle rfl rfl nofun ?_ nofun
  intro terminal number listed
  have listed : number ∈ (rows terminal).numbers := listed
  rw [fresh] at listed
  cases listed

/-- The held tail and the durable row agree and keep nothing of a transaction that was
rolled back, where a control completion that leaves its terminal running does not fail
after its append. -/
theorem tail_agrees_with_row {rows : TerminalId → Row} {world : World}
    (fresh : ∀ terminal, (rows terminal).numbers = [])
    (run : Reaches step FailsEarly (initial rows) world) :
    HeldAsStored world ∧ RolledBackGone world := by
  have invariant : Locks world ∧ Agreed world ∧ Traceless world := by
    refine run.invariant (fun world => Locks world ∧ Agreed world ∧ Traceless world)
      ⟨initial_locks rows, initial_agreed rows, initial_traceless fresh⟩ ?_
    rintro before label after ⟨locks, agreed, traceless⟩ early taken
    exact ⟨step_locks locks taken, step_agreed locks early agreed taken,
      move_traceless locks agreed early traceless (step_move taken)⟩
  exact ⟨invariant.2.1.heldAsStored, invariant.2.2.rolledBackGone⟩

/-- `FailsEarly`, computed. -/
def failsEarly (world : World) : Label → Bool
  | .fail =>
      match world.writers, world.stage with
      | .control control :: _, .writing _ => decide control.Ends
      | _, _ => true
  | .controlFail => (leftBy world.database).all fun left => decide left.1.Ends
  | _ => true

theorem failsEarly_sound (world : World) (label : Label) (granted : failsEarly world label = true) :
    FailsEarly world label := by
  cases label with
  | fail =>
      intro control waiting pending held wrote
      simp only [failsEarly, held, wrote, decide_eq_true_eq] at granted
      exact granted
  | controlFail =>
      intro control pending left
      simp only [failsEarly, left, Option.all_some, decide_eq_true_eq] at granted
      exact granted
  | _ => trivial

/-- A control completion whose commit fails: the row goes back, the tail does not. -/
theorem commit_failure_keeps_tail : ∃ world,
    Reaches step anyStep (initial fun _ => emptyRow) world ∧ ¬HeldAsStored world ∧
      ¬RolledBackGone world := by
  have executed : (exec step (fun _ _ => true) (initial fun _ => emptyRow)
      [.opens exitControl, .ask, .record 0, .update, .leave, .controlFail]).map
      (fun world => (world.openAppends, world.buffers "t", world.rows "t", world.rolledBack)) =
      some ([], some ⟨"bye", none, 0, false, [1]⟩, emptyRow, [1]) := by
    decide
  obtain ⟨world, run, seen⟩ := reaches_observed _ _ _ _ (fun _ _ _ => trivial) executed
  simp only [Prod.mk.injEq] at seen
  obtain ⟨closed, held, row, gone⟩ := seen
  refine ⟨world, run, fun agrees => ?_, fun clean => ?_⟩
  · have same := agrees "t" _ (by rw [closed]; exact List.not_mem_nil) held rfl
    rw [row] at same
    exact absurd same (by decide)
  · have outside := (clean 1 (by rw [gone]; exact List.mem_singleton_self _) "t").2
    rw [held] at outside
    exact outside (List.mem_singleton_self _)

/-- A flush fails after its UPDATE, a control completion at its own, and the ones after
them are stored. -/
theorem tail_agrees_after_failures : ∃ world,
    Reaches step FailsEarly (initial fun _ => emptyRow) world ∧ world.rolledBack = [1, 2] ∧
      (world.buffers "t").map Tail.dirty = some false ∧ HeldAsStored world ∧
      RolledBackGone world := by
  have executed : (exec step failsEarly (initial fun _ => emptyRow)
      [.flush "t" [⟨"a", "", 1⟩], .select, .record 0, .update, .fail,
        .opens exitControl, .ask, .record 0, .fail,
        .flush "t" [⟨"a", "", 1⟩], .select, .record 5, .update, .commit, .finish,
        .opens exitControl, .ask, .record 2000, .update, .leave, .controlCommit]).map
      (fun world => (world.rolledBack, (world.buffers "t").map Tail.dirty)) =
      some ([1, 2], some false) := by
    decide
  obtain ⟨world, run, seen⟩ := reaches_observed _ _ _ _ failsEarly_sound executed
  simp only [Prod.mk.injEq] at seen
  obtain ⟨agrees, clean⟩ := tail_agrees_with_row (fun _ => rfl) run
  exact ⟨world, run, seen.1, seen.2, agrees, clean⟩

end AifyComms.TerminalWriters
