import AifyComms.TerminalWriters

/-!
The held tail and the durable row: whatever statement of either writer fails, a tail that
is not dirty is what the row has, and what was rolled back is in neither.
-/

namespace AifyComms.TerminalWriters
open Runs TerminalOutput

/-! ### What one append leaves behind -/

def Folding.tail (folding : Folding) (buffers : Buffers) (terminal : TerminalId) : String :=
  trimTerminalOutput (currentTail buffers terminal folding.row.output ++ folding.chunk)

def Folding.numbers (folding : Folding) (buffers : Buffers) (terminal : TerminalId)
    (number : Nat) : List Nat :=
  currentNumbers buffers terminal folding.row.numbers ++ ownNumber number

/-- The status that the append moves the terminal to ends it. -/
def Folding.Ends (folding : Folding) : Prop :=
  terminalStatusTransition folding.row.status folding.status ∈ endStatuses

theorem append_other (folding : Folding) (buffers : Buffers) {terminal other : TerminalId}
    (number : Nat) (different : other ≠ terminal) :
    (folding.append buffers terminal number).1 other = buffers other :=
  appendTerminalOutput_other buffers folding.row folding.chunk folding.status folding.seq
    folding.settle number folding.now different

theorem append_folds (folding : Folding) (buffers : Buffers) {terminal : TerminalId}
    (named : terminal ≠ "") (number : Nat) :
    folding.append buffers terminal number = (buffers, none) ∨
      ∃ update, (folding.append buffers terminal number).2 = some update ∧
        Folds (folding.tail buffers terminal) (folding.numbers buffers terminal number) folding.Ends
          ((folding.append buffers terminal number).1 terminal) update :=
  appendTerminalOutput_folds buffers named folding.row folding.chunk folding.status folding.seq
    folding.settle number folding.now

/-- An append that ends the terminal holds nothing of it any longer. -/
theorem append_ends (folding : Folding) (buffers : Buffers) (terminal : TerminalId) (number : Nat)
    (ends : folding.Ends) (running : folding.settle = false) :
    (folding.append buffers terminal number).1 terminal = none := by
  have status : folding.status ≠ "" := by
    intro empty
    unfold Folding.Ends at ends
    rw [empty] at ends
    have nothing : terminalStatusTransition folding.row.status "" = "" := by
      unfold terminalStatusTransition
      exact if_pos (by decide)
    rw [nothing] at ends
    exact absurd ends (by decide)
  have ends : terminalStatusTransition folding.row.status folding.status ∈ endStatuses := ends
  unfold Folding.append appendTerminalOutput
  rw [if_neg fun silent => status silent.2.1, if_neg (by rw [running]; simp)]
  simp only [ends, decide_true, if_true]
  exact Function.update_self ..

/-! ### The tail and the row -/

def Stage.pending : Stage → Option Pending
  | .recorded pending | .writing pending => some pending
  | _ => none

theorem pending_of_entered {world : World} (entered : world.stage = .entered) :
    world.stage.pending = none := by
  rw [entered]
  rfl

/-- The tail a terminal has when the write under way fails. -/
def World.base (world : World) (terminal : TerminalId) : Option Tail :=
  match world.writers, world.stage.pending with
  | holder :: _, some pending =>
      if holder.terminal = terminal then pending.before else world.buffers terminal
  | _, _ => world.buffers terminal

/-- The control completion that appended and left the lock, and has not committed. -/
def leftBy : Option Owner → Option (Control × Pending)
  | some (.control control (.left pending)) => some (control, pending)
  | _ => none

/-- The row a terminal has when the control completion that left the lock commits. -/
def World.landing (world : World) (terminal : TerminalId) : Row :=
  match leftBy world.database with
  | some (control, pending) =>
      if control.terminal = terminal then
        landUpdate pending.update (control.row (world.rows terminal))
      else world.rows terminal
  | none => world.rows terminal

/-- A tail that is not dirty is what the row has. -/
def Matches (held : Option Tail) (row : Row) : Prop :=
  ∀ tail, held = some tail → tail.dirty = false → row.output = tail.tail

/-- An UPDATE has the tail that is held now, where that is not dirty. -/
def Carries (pending : Pending) (held : Option Tail) : Prop :=
  (pending.update = none ∧ held = pending.before) ∨
    ∃ update, pending.update = some update ∧
      ∀ tail, held = some tail → tail.dirty = false → update.output = some tail.tail

/-- The status a control completion reports ends its terminal, so its append forgets the
tail. -/
def Control.Ends (control : Control) : Prop :=
  terminalStatusTransition control.ownStatus control.status ∈ endStatuses

instance (control : Control) : Decidable control.Ends := List.instDecidableMemOfLawfulBEq ..

structure Agreed (world : World) : Prop where
  base : ∀ terminal, Matches (world.base terminal) (world.landing terminal)
  carried : ∀ holder waiting pending, world.writers = holder :: waiting →
    world.stage.pending = some pending → Carries pending (world.buffers holder.terminal)
  read : ∀ holder waiting row before, world.writers = holder :: waiting →
    world.stage = .selected row before → before = world.buffers holder.terminal
  ending : ∀ control waiting pending, world.writers = .control control :: waiting →
    world.stage.pending = some pending → control.Ends → world.buffers control.terminal = none
  ended : ∀ control pending, leftBy world.database = some (control, pending) → control.Ends →
    world.base control.terminal = none

theorem base_of_idle {world : World} (idle : world.stage.pending = none) :
    world.base = world.buffers := by
  funext terminal
  unfold World.base
  rw [idle]
  split
  next absent => cases absent
  · rfl

theorem base_of_pending {world : World} {holder : Job} {waiting : List Job} {pending : Pending}
    (held : world.writers = holder :: waiting) (under : world.stage.pending = some pending) :
    world.base = Function.update world.buffers holder.terminal pending.before := by
  funext terminal
  unfold World.base
  rw [held, under]
  dsimp only
  by_cases here : holder.terminal = terminal
  · rw [if_pos here, here, Function.update_self]
  · rw [if_neg here, Function.update_of_ne (Ne.symm here)]

/-- The head of `_write_lock` and the stage decide what goes back. -/
theorem base_congr {world after : World} (head : after.writers.head? = world.writers.head?)
    (stage : after.stage.pending = world.stage.pending) (buffers : after.buffers = world.buffers) :
    after.base = world.base := by
  funext terminal
  unfold World.base
  rw [stage, buffers]
  cases before : world.writers with
  | nil =>
      rw [before, List.head?_nil, List.head?_eq_none_iff] at head
      rw [head]
  | cons holder waiting =>
      rw [before, List.head?_cons, List.head?_eq_some_iff] at head
      obtain ⟨others, same⟩ := head
      rw [same]
      cases world.stage.pending <;> rfl

theorem landing_of_free {world : World} (free : leftBy world.database = none) :
    world.landing = world.rows := by
  funext terminal
  unfold World.landing
  rw [free]

theorem landing_of_left {world : World} (control : Control) (pending : Pending)
    (has : leftBy world.database = some (control, pending)) :
    world.landing = Function.update world.rows control.terminal
      (landUpdate pending.update (control.row (world.rows control.terminal))) := by
  funext terminal
  unfold World.landing
  rw [has]
  dsimp only
  by_cases here : control.terminal = terminal
  · rw [if_pos here, here, Function.update_self]
  · rw [if_neg here, Function.update_of_ne (Ne.symm here)]

theorem landing_congr {world after : World}
    (database : leftBy after.database = leftBy world.database)
    (rows : after.rows = world.rows) : after.landing = world.landing := by
  funext terminal
  unfold World.landing
  rw [database, rows]

theorem agreed_entered {world : World} (entered : world.stage = .entered)
    (agree : ∀ terminal, Matches (world.buffers terminal) (world.landing terminal))
    (ended : ∀ control pending, leftBy world.database = some (control, pending) → control.Ends →
      world.buffers control.terminal = none) : Agreed world := by
  constructor
  case base =>
    rw [base_of_idle (by rw [entered]; rfl)]
    exact agree
  case carried =>
    intro holder waiting pending _ under
    rw [entered] at under
    cases under
  case read =>
    intro holder waiting row before _ here
    rw [entered] at here
    cases here
  case ending =>
    intro control waiting pending _ under
    rw [entered] at under
    cases under
  case ended =>
    rw [base_of_idle (by rw [entered]; rfl)]
    exact ended

/-- What an UPDATE lands agrees with the tail it was issued for. -/
theorem Carries.lands {pending : Pending} {held : Option Tail} {row : Row}
    (carries : Carries pending held) (before : Matches pending.before row) :
    Matches held (landUpdate pending.update row) := by
  rcases carries with ⟨nothing, same⟩ | ⟨update, issued, clean⟩
  · rw [nothing, same]
    exact before
  · intro tail holds notDirty
    rw [issued]
    dsimp only [landUpdate, RowUpdate.apply]
    rw [clean tail holds notDirty]
    rfl

/-- The agreement after the write under way is committed, to its own terminal's row. -/
theorem Agreed.commits {world : World} {holder : Job} {waiting : List Job} (agreed : Agreed world)
    (pending : Pending) (row : Row) (held : world.writers = holder :: waiting)
    (under : world.stage.pending = some pending)
    (same : row.output = (world.landing holder.terminal).output) (terminal : TerminalId) :
    Matches (world.buffers terminal)
      (Function.update world.landing holder.terminal (landUpdate pending.update row) terminal) := by
  have base := agreed.base
  rw [base_of_pending held under] at base
  by_cases here : terminal = holder.terminal
  · have before : Matches pending.before row := by
      have own := base holder.terminal
      rw [Function.update_self] at own
      intro tail holds clean
      rw [same]
      exact own tail holds clean
    rw [here, Function.update_self]
    exact (agreed.carried holder waiting pending held under).lands before
  · have others := base terminal
    rw [Function.update_of_ne here] at others
    rw [Function.update_of_ne here]
    exact others

/-- A write of the queue that fails leaves every tail as it was before. -/
theorem giveUp_base {world : World} {holder : Job} {waiting : List Job} (agreed : Agreed world)
    (held : world.writers = holder :: waiting) :
    (world.giveUp holder.terminal waiting).buffers = world.base := by
  unfold World.giveUp
  cases stage : world.stage with
  | entered => exact (base_of_idle (by rw [stage]; rfl)).symm
  | selected row before =>
      have same : restore world.buffers holder.terminal before = world.buffers := by
        rw [agreed.read holder waiting row before held stage]
        exact Function.update_eq_self ..
      exact same.trans (base_of_idle (by rw [stage]; rfl)).symm
  | recorded pending => exact (base_of_pending held (by rw [stage]; rfl)).symm
  | writing pending => exact (base_of_pending held (by rw [stage]; rfl)).symm

theorem giveUp_left {world : World} {holder : Job} {waiting : List Job} (locks : Locks world)
    (held : world.writers = holder :: waiting) (other : holder.isControl = false) :
    leftBy (world.giveUp holder.terminal waiting).database = leftBy world.database := by
  rcases giveUp_database world holder.terminal waiting with ⟨free, pending, wrote⟩ | ⟨same, _⟩
  · rw [free, locks.writing holder waiting pending held other wrote]
    rfl
  · rw [same]

theorem giveUp_rows (world : World) (terminal : TerminalId) (waiting : List Job) :
    (world.giveUp terminal waiting).rows = world.rows := by
  unfold World.giveUp
  split <;> rfl

theorem giveUp_landing {world : World} {holder : Job} {waiting : List Job} (locks : Locks world)
    (held : world.writers = holder :: waiting) (other : holder.isControl = false) :
    (world.giveUp holder.terminal waiting).landing = world.landing :=
  landing_congr (giveUp_left locks held other) (giveUp_rows world holder.terminal waiting)

/-- A control completion that leaves its terminal running fails only while its append can
still put the tail back. -/
def FailsEarly (world : World) : Label → Prop
  | .fail => ∀ control waiting pending, world.writers = .control control :: waiting →
      world.stage = .writing pending → control.Ends
  | .controlFail => ∀ control pending, leftBy world.database = some (control, pending) →
      control.Ends
  | _ => True

theorem Agreed.idle {world : World} (agreed : Agreed world) (idle : world.stage.pending = none)
    (terminal : TerminalId) : Matches (world.buffers terminal) (world.landing terminal) := by
  have base := agreed.base terminal
  rw [base_of_idle idle] at base
  exact base

theorem Agreed.idle_ended {world : World} (agreed : Agreed world)
    (idle : world.stage.pending = none) (control : Control) (pending : Pending)
    (has : leftBy world.database = some (control, pending)) (ends : control.Ends) :
    world.buffers control.terminal = none := by
  have none := agreed.ended control pending has ends
  rw [base_of_idle idle] at none
  exact none

/-- The holder and its write stay, and no output that is read here moves. -/
theorem Agreed.of_frame {world after : World} (agreed : Agreed world)
    (head : after.writers.head? = world.writers.head?)
    (stage : after.stage.pending = world.stage.pending)
    (read : ∀ row before, after.stage = .selected row before → world.stage = .selected row before)
    (buffers : after.buffers = world.buffers)
    (landing : ∀ terminal, (after.landing terminal).output = (world.landing terminal).output)
    (left : ∀ control pending, leftBy after.database = some (control, pending) →
      leftBy world.database = some (control, pending)) : Agreed after := by
  have holder : ∀ job waiting, after.writers = job :: waiting →
      ∃ others, world.writers = job :: others := by
    intro job waiting held
    rw [held, List.head?_cons, eq_comm, List.head?_eq_some_iff] at head
    exact head
  constructor
  case base =>
    rw [base_congr head stage buffers]
    intro terminal tail holds clean
    rw [landing]
    exact agreed.base terminal tail holds clean
  case carried =>
    intro job waiting pending held under
    obtain ⟨others, before⟩ := holder job waiting held
    rw [stage] at under
    rw [buffers]
    exact agreed.carried job others pending before under
  case read =>
    intro job waiting row tail held here
    obtain ⟨others, before⟩ := holder job waiting held
    rw [buffers]
    exact agreed.read job others row tail before (read row tail here)
  case ending =>
    intro control waiting pending held under ends
    obtain ⟨others, before⟩ := holder _ waiting held
    rw [stage] at under
    rw [buffers]
    exact agreed.ending control others pending before under ends
  case ended =>
    rw [base_congr head stage buffers]
    exact fun control pending has => agreed.ended control pending (left control pending has)

/-- What goes back when the UPDATE of an append fails is what was held. -/
theorem record_base {world : World} {holder : Job} {waiting : List Job} (folding : Folding)
    (held : world.writers = holder :: waiting) (idle : world.stage.pending = none)
    (before : folding.before = world.buffers holder.terminal) :
    (world.record holder.terminal folding).base = world.base := by
  have front : (world.record holder.terminal folding).writers = holder :: waiting := held
  rw [base_of_pending front rfl, base_of_idle idle]
  funext terminal
  by_cases here : terminal = holder.terminal
  · rw [here, Function.update_self]
    exact before
  · rw [Function.update_of_ne here]
    exact append_other folding world.buffers world.next here

/-- The chunk is folded in and its UPDATE issued; what goes back is what was held. -/
theorem recorded_agreed {world : World} {holder : Job} {waiting : List Job} (folding : Folding)
    (agreed : Agreed world) (held : world.writers = holder :: waiting)
    (named : holder.terminal ≠ "") (idle : world.stage.pending = none)
    (before : folding.before = world.buffers holder.terminal)
    (ending : ∀ control, holder = .control control → control.Ends →
      (folding.append world.buffers holder.terminal world.next).1 control.terminal = none) :
    Agreed (world.record holder.terminal folding) := by
  have under : (world.record holder.terminal folding).stage.pending =
      some ⟨folding.before, (folding.append world.buffers holder.terminal world.next).2,
        world.next⟩ := rfl
  have base := record_base folding held idle before
  constructor
  case base =>
    rw [base]
    exact agreed.base
  case carried =>
    intro job others pending head issued
    obtain rfl := Option.some.inj (under.symm.trans issued)
    obtain ⟨rfl, _⟩ := List.cons.inj (held.symm.trans head)
    rcases append_folds folding world.buffers named world.next with nothing | ⟨update, some, folds⟩
    · refine .inl ⟨congrArg Prod.snd nothing, ?_⟩
      have same := congrArg Prod.fst nothing
      dsimp only at same
      dsimp only [World.record]
      rw [same, before]
    · refine .inr ⟨update, some, ?_⟩
      intro tail holds clean
      obtain ⟨text, _, output⟩ := folds.held tail holds
      rw [text]
      exact output clean
  case read =>
    intro job others row tail _ here
    cases here
  case ending =>
    intro control others pending head _ ends
    obtain ⟨rfl, _⟩ := List.cons.inj (held.symm.trans head)
    exact ending control rfl ends
  case ended =>
    rw [base]
    exact agreed.ended

theorem Agreed.of_landing {world after : World} (agreed : Agreed world)
    (head : after.writers.head? = world.writers.head?)
    (stage : after.stage.pending = world.stage.pending)
    (read : ∀ row before, after.stage = .selected row before → world.stage = .selected row before)
    (buffers : after.buffers = world.buffers) (rows : after.rows = world.rows)
    (left : leftBy after.database = leftBy world.database) : Agreed after := by
  refine agreed.of_frame head stage read buffers (fun terminal => ?_) fun control pending has => ?_
  · rw [landing_congr left rows]
  · rw [← left]
    exact has

theorem appended_head {world : World} (job : Job) (stays : world.writers ≠ []) :
    (world.writers ++ [job]).head? = world.writers.head? := by
  cases before : world.writers with
  | nil => exact absurd before stays
  | cons holder waiting => rfl

theorem cancelled_head {world : World} {job : Job} (outside : world.writers.head? ≠ some job) :
    (world.writers.filter fun listed => decide (listed ≠ job)).head? = world.writers.head? := by
  cases before : world.writers with
  | nil => rfl
  | cons first rest =>
      rw [before] at outside
      have other : first ≠ job := fun same => outside (congrArg some same)
      have kept : (first :: rest).filter (fun listed => decide (listed ≠ job)) =
          first :: rest.filter (fun listed => decide (listed ≠ job)) :=
        List.filter_cons_of_pos (decide_eq_true other)
      rw [kept]
      rfl

/-- A job joins the lock, and no row moves. -/
theorem joined_agreed {world after : World} {job : Job} (locks : Locks world)
    (agreed : Agreed world) (writers : after.writers = world.writers ++ [job])
    (stage : after.stage = world.stage) (buffers : after.buffers = world.buffers)
    (rows : after.rows = world.rows) (left : leftBy after.database = leftBy world.database) :
    Agreed after := by
  by_cases empty : world.writers = []
  · have entered := locks.idle empty
    have idle := pending_of_entered entered
    refine agreed_entered (stage.trans entered) ?_ ?_
    · rw [buffers, landing_congr left rows]
      exact agreed.idle idle
    · rw [buffers, left]
      exact agreed.idle_ended idle
  · refine agreed.of_landing ?_ (by rw [stage]) ?_ buffers rows left
    · rw [writers]
      exact appended_head job empty
    · rw [stage]
      exact fun _ _ here => here

theorem gaveUp_agreed {world : World} {holder : Job} {waiting : List Job} (locks : Locks world)
    (agreed : Agreed world) (held : world.writers = holder :: waiting)
    (other : holder.isControl = false) : Agreed (world.giveUp holder.terminal waiting) := by
  have restored := giveUp_base agreed held
  refine agreed_entered (giveUp_writers world holder.terminal waiting).2 ?_ ?_
  · intro terminal
    rw [restored, giveUp_landing locks held other]
    exact agreed.base terminal
  · rw [restored]
    intro control pending has
    exact agreed.ended control pending (giveUp_left locks held other ▸ has)

/-- A control completion that fails early leaves every tail as it was before, or the one it
forgot. -/
theorem giveUpControl_base {world : World} {control : Control} {waiting : List Job}
    (agreed : Agreed world) (held : world.writers = .control control :: waiting)
    (early : ∀ pending, world.stage = .writing pending → control.Ends) (terminal : TerminalId) :
    (world.giveUpControl control.terminal waiting).buffers terminal = world.base terminal ∨
      (world.giveUpControl control.terminal waiting).buffers terminal = none := by
  unfold World.giveUpControl
  cases stage : world.stage with
  | entered => exact .inl (congrFun (base_of_idle (by rw [stage]; rfl)).symm terminal)
  | selected row before =>
      exact .inl (congrFun (base_of_idle (by rw [stage]; rfl)).symm terminal)
  | recorded pending =>
      exact .inl (congrFun (base_of_pending held (by rw [stage]; rfl)).symm terminal)
  | writing pending =>
      have under : world.stage.pending = some pending := by
        rw [stage]
        rfl
      by_cases here : terminal = control.terminal
      · rw [here]
        exact .inr (agreed.ending control waiting pending held under (early pending stage))
      · rw [base_of_pending held under]
        exact .inl (Function.update_of_ne here ..).symm

theorem giveUpControl_rows (world : World) (terminal : TerminalId) (waiting : List Job) :
    (world.giveUpControl terminal waiting).rows = world.rows := by
  unfold World.giveUpControl
  split <;> rfl

theorem giveUpControl_landing {world : World} {control : Control} {waiting : List Job}
    (locks : Locks world) (held : world.writers = .control control :: waiting) :
    (world.giveUpControl control.terminal waiting).landing = world.landing := by
  obtain ⟨has, _⟩ := locks.holder held
  obtain ⟨_, _, free⟩ := giveUpControl_frame world control.terminal waiting
  refine landing_congr ?_ (giveUpControl_rows world control.terminal waiting)
  rw [free, has]
  rfl

theorem gaveUpControl_agreed {world : World} {control : Control} {waiting : List Job}
    (locks : Locks world) (agreed : Agreed world)
    (held : world.writers = .control control :: waiting)
    (early : ∀ pending, world.stage = .writing pending → control.Ends) :
    Agreed (world.giveUpControl control.terminal waiting) := by
  obtain ⟨_, entered, free⟩ := giveUpControl_frame world control.terminal waiting
  refine agreed_entered entered ?_ ?_
  · intro terminal
    rw [giveUpControl_landing locks held]
    rcases giveUpControl_base agreed held early terminal with same | none
    · rw [same]
      exact agreed.base terminal
    · rw [none]
      exact nofun
  · intro other pending has
    rw [free] at has
    cases has

/-- The transaction of a control completion that ended its terminal is rolled back: its
row goes back, and no tail of it was held. -/
theorem lost_agreed {world : World} {control : Control} {pending : Pending} (agreed : Agreed world)
    (has : world.database = some (.control control (.left pending))) (ends : control.Ends) :
    Agreed { world with
      database := none
      rolledBack := world.rolledBack ++ pending.numbers } := by
  have left : leftBy world.database = some (control, pending) := by
    rw [has]
    rfl
  have none := agreed.ended control pending left ends
  constructor
  case base =>
    intro terminal
    rw [landing_of_free rfl]
    by_cases here : terminal = control.terminal
    · intro tail holds
      have holds : world.base terminal = some tail := holds
      rw [here, none] at holds
      cases holds
    · have base := agreed.base terminal
      rw [landing_of_left control pending left, Function.update_of_ne here] at base
      exact base
  case carried => exact agreed.carried
  case read => exact agreed.read
  case ending => exact agreed.ending
  case ended =>
    intro _ _ has
    cases has

theorem move_agreed {world after : World} {label : Label} (locks : Locks world)
    (early : FailsEarly world label) (agreed : Agreed world) (move : Move world label after) :
    Agreed after := by
  cases move with
  | queued job named other => exact joined_agreed locks agreed rfl rfl rfl rfl rfl
  | opened control named free =>
      exact agreed.of_landing rfl rfl (fun _ _ here => here) rfl rfl (by rw [free]; rfl)
  | asked control begun =>
      exact joined_agreed locks agreed rfl rfl rfl rfl (by rw [begun]; rfl)
  | skipped terminal batch rest waiting held entered empty =>
      have idle := pending_of_entered entered
      exact agreed_entered entered (agreed.idle idle) (agreed.idle_ended idle)
  | selected holder waiting held other entered writes =>
      have idle := pending_of_entered entered
      constructor
      case base =>
        rw [base_of_idle rfl]
        exact agreed.idle idle
      case carried => exact nofun
      case read =>
        intro job others row before head here
        obtain ⟨rfl, _⟩ := List.cons.inj (held.symm.trans head)
        injection here with _ same
        exact same.symm
      case ending => exact nofun
      case ended =>
        rw [base_of_idle rfl]
        exact agreed.idle_ended idle
  | released holder waiting held other entered =>
      have idle := pending_of_entered entered
      exact agreed_entered rfl (agreed.idle idle) (agreed.idle_ended idle)
  | recorded holder waiting folding held other read =>
      have named := locks.namedJob holder (held ▸ List.mem_cons_self)
      refine recorded_agreed folding agreed held named (by rw [read]; rfl)
        (agreed.read _ _ _ _ held read) ?_
      intro control same
      rw [same] at other
      cases other
  | recordedControl control waiting now held entered =>
      have named := locks.namedJob (.control control) (held ▸ List.mem_cons_self)
      have recorded := recorded_agreed (control.folding (world.rows control.terminal)
        (world.buffers control.terminal) now) agreed held named (by rw [entered]; rfl) rfl (by
          intro other same ends
          injection same with same
          subst same
          exact append_ends _ world.buffers control.terminal world.next ends rfl)
      exact recorded
  | updated holder waiting pending held other issued free =>
      exact agreed.of_landing rfl (by rw [issued]; rfl) nofun rfl rfl (by rw [free]; rfl)
  | updatedControl control waiting pending held issued =>
      exact agreed.of_landing rfl (by rw [issued]; rfl) nofun rfl rfl rfl
  | committed holder waiting rest pending held other wrote has left =>
      have commits := agreed.commits pending (world.rows holder.terminal) held (by rw [wrote]; rfl)
      rw [landing_of_free (by rw [has]; rfl)] at commits
      refine agreed_entered rfl ?_ nofun
      rw [landing_of_free rfl]
      exact commits rfl
  | left control waiting pending held wrote =>
      obtain ⟨has, _⟩ := locks.holder held
      have under : world.stage.pending = some pending := by
        rw [wrote]
        rfl
      have commits := agreed.commits pending (control.row (world.rows control.terminal)) held under
      rw [landing_of_free (by rw [has]; rfl)] at commits
      refine agreed_entered rfl ?_ ?_
      · rw [landing_of_left control pending rfl]
        exact commits rfl
      · intro other _ same
        obtain ⟨rfl, _⟩ := Prod.mk.inj (Option.some.inj same)
        exact agreed.ending control waiting pending held under
  | gaveUp holder waiting held other => exact gaveUp_agreed locks agreed held other
  | gaveUpControl control waiting held =>
      exact gaveUpControl_agreed locks agreed held fun pending =>
        early control waiting pending held
  | passed control begun =>
      refine agreed.of_frame rfl rfl (fun _ _ here => here) rfl (fun terminal => ?_) nofun
      rw [landing_of_free rfl, landing_of_free (by rw [begun]; rfl)]
      dsimp only
      by_cases here : terminal = control.terminal
      · rw [here, Function.update_self]
        rfl
      · rw [Function.update_of_ne here]
  | landed control pending has =>
      refine agreed.of_frame rfl rfl (fun _ _ here => here) rfl (fun terminal => ?_) nofun
      rw [landing_of_free rfl, landing_of_left control pending (by rw [has]; rfl)]
  | dropped control begun =>
      exact agreed.of_landing rfl rfl (fun _ _ here => here) rfl rfl (by rw [begun]; rfl)
  | cancelled control waits outside =>
      exact agreed.of_landing (cancelled_head outside) rfl (fun _ _ here => here) rfl rfl
        (by rw [waits]; rfl)
  | lost control pending has =>
      exact lost_agreed agreed has (early control pending (by rw [has]; rfl))

theorem step_agreed {world after : World} {label : Label} (locks : Locks world)
    (early : FailsEarly world label) (agreed : Agreed world)
    (taken : step world label = some after) : Agreed after :=
  move_agreed locks early agreed (step_move taken)

theorem initial_agreed (rows : TerminalId → Row) : Agreed (initial rows) :=
  agreed_entered rfl (fun _ => nofun) nofun

/-! ### Where no append is open -/

/-- The terminals with an append whose transaction is neither committed nor rolled back. -/
def World.openAppends (world : World) : List TerminalId :=
  (match world.writers, world.stage.pending with
    | holder :: _, some _ => [holder.terminal]
    | _, _ => []) ++ (leftBy world.database).toList.map fun left => left.1.terminal

/-- Where no append is open, the buffer and the row are the settled ones. -/
theorem closed_settled {world : World} {terminal : TerminalId}
    (closed : terminal ∉ world.openAppends) :
    world.base terminal = world.buffers terminal ∧
      world.landing terminal = world.rows terminal := by
  unfold World.openAppends at closed
  rw [List.mem_append, not_or] at closed
  refine ⟨?_, ?_⟩
  · unfold World.base
    split
    next holder waiting pending held under =>
      rw [held, under] at closed
      exact if_neg fun same => closed.1 (List.mem_singleton.mpr same.symm)
    · rfl
  · unfold World.landing
    split
    next control pending left =>
      rw [left] at closed
      exact if_neg fun same => closed.2 (List.mem_singleton.mpr same.symm)
    · rfl

/-- A tail that is held and not dirty is what the committed row has. -/
def HeldAsStored (world : World) : Prop :=
  ∀ terminal held, terminal ∉ world.openAppends → world.buffers terminal = some held →
    held.dirty = false → (world.rows terminal).output = held.tail

theorem Agreed.heldAsStored {world : World} (agreed : Agreed world) : HeldAsStored world := by
  intro terminal held closed holds clean
  obtain ⟨base, landing⟩ := closed_settled closed
  have agrees := agreed.base terminal
  rw [base, landing] at agrees
  exact agrees held holds clean

end AifyComms.TerminalWriters
