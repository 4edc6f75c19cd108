import AifyComms.TerminalWriterAgreement

/-!
No bytes are lost between the two writers: once every append is committed, the tail of a
terminal is the row it began with and every piece of either writer, in the order of the
appends and each once.
-/

namespace AifyComms.TerminalWriters
open Runs TerminalOutput

/-- A text, and the numbers of the pieces in it. -/
structure Content where
  text : String
  numbers : List Nat
  deriving DecidableEq

def rowContent (row : Row) : Content := ⟨row.output, row.numbers⟩

def tailContent (held : Tail) : Content := ⟨held.tail, held.numbers⟩

def Content.fold (content : Content) (piece : Piece) : Content :=
  ⟨trimTerminalOutput (content.text ++ piece.text), content.numbers ++ [piece.number]⟩

/-- What a terminal should have: the row it began with, and the pieces appended to it. -/
def expected (rows : TerminalId → Row) (pieces : List Piece) (terminal : TerminalId) : Content :=
  (pieces.filter fun piece => decide (piece.terminal = terminal)).foldl Content.fold
    (rowContent (rows terminal))

theorem expected_self (rows : TerminalId → Row) (pieces : List Piece) (piece : Piece) :
    expected rows (pieces ++ [piece]) piece.terminal =
      (expected rows pieces piece.terminal).fold piece := by
  simp [expected, List.filter_append, List.foldl_append]

theorem expected_other (rows : TerminalId → Row) (pieces : List Piece) {piece : Piece}
    {terminal : TerminalId} (different : terminal ≠ piece.terminal) :
    expected rows (pieces ++ [piece]) terminal = expected rows pieces terminal := by
  simp [expected, List.filter_append, Ne.symm different]

/-- The row a terminal has once the write under way is committed too. -/
def World.future (world : World) (terminal : TerminalId) : Row :=
  match world.writers, world.stage.pending with
  | holder :: _, some pending =>
      if holder.terminal = terminal then landUpdate pending.update (world.landing terminal)
      else world.landing terminal
  | _, _ => world.landing terminal

theorem future_of_idle {world : World} (idle : world.stage.pending = none) :
    world.future = world.landing := by
  funext terminal
  unfold World.future
  rw [idle]
  split
  next absent => cases absent
  · rfl

theorem future_of_pending {world : World} {holder : Job} {waiting : List Job} {pending : Pending}
    (held : world.writers = holder :: waiting) (under : world.stage.pending = some pending) :
    world.future = Function.update world.landing holder.terminal
      (landUpdate pending.update (world.landing holder.terminal)) := by
  funext terminal
  unfold World.future
  rw [held, under]
  dsimp only
  by_cases here : holder.terminal = terminal
  · rw [if_pos here, here, Function.update_self]
  · rw [if_neg here, Function.update_of_ne (Ne.symm here)]

def Label.succeeds : Label → Bool
  | .fail | .controlFail => false
  | _ => true

/-- No statement and no commit fails. -/
def Succeeds (_ : World) (label : Label) : Prop := label.succeeds = true

/-- No transaction fails, and a flush does not read the row of a terminal that a control
completion has ended and not yet committed. -/
def ReadsCommitted (world : World) : Label → Prop
  | .select => ∀ terminal batches waiting control pending,
      world.writers = .flush terminal batches :: waiting →
      leftBy world.database = some (control, pending) → control.Ends → terminal ≠ control.terminal
  | .fail | .controlFail => False
  | _ => True

theorem ReadsCommitted.failsEarly {world : World} {label : Label}
    (reads : ReadsCommitted world label) : FailsEarly world label := by
  cases label with
  | fail => exact reads.elim
  | controlFail => exact reads.elim
  | _ => trivial

/-- Where the bytes of a terminal are: in the tail that is held, or else in the row as the
writes under way leave it. -/
structure Whole (rows : TerminalId → Row) (world : World) : Prop where
  held : ∀ terminal held, world.buffers terminal = some held →
    tailContent held = expected rows world.pieces terminal
  absent : ∀ terminal, world.buffers terminal = none →
    rowContent (world.future terminal) = expected rows world.pieces terminal
  read : ∀ holder waiting row before, world.writers = holder :: waiting →
    world.stage = .selected row before → world.buffers holder.terminal = none →
    rowContent row = expected rows world.pieces holder.terminal
  running : ∀ control waiting pending, world.writers = .control control :: waiting →
    world.stage.pending = some pending → ¬ control.Ends →
    world.buffers control.terminal ≠ none ∨ pending.update = none
  left : ∀ control pending, leftBy world.database = some (control, pending) → ¬ control.Ends →
    world.base control.terminal ≠ none ∨ pending.update = none

/-- An append folds its piece into what the terminal had. -/
theorem folding_content (rows : TerminalId → Row) (pieces : List Piece) (folding : Folding)
    (buffers : Buffers) (terminal : TerminalId) (number : Nat)
    (held : ∀ held, buffers terminal = some held →
      tailContent held = expected rows pieces terminal)
    (absent : buffers terminal = none → rowContent folding.row = expected rows pieces terminal) :
    (⟨folding.tail buffers terminal, folding.numbers buffers terminal (number + 1)⟩ : Content) =
      expected rows (pieces ++ [⟨terminal, folding.chunk, number + 1⟩]) terminal := by
  have before : (⟨currentTail buffers terminal folding.row.output,
      currentNumbers buffers terminal folding.row.numbers⟩ : Content) =
      expected rows pieces terminal := by
    unfold currentTail currentNumbers
    cases holding : buffers terminal with
    | none => exact absent holding
    | some tail => exact held tail holding
  refine Eq.trans ?_ (expected_self rows pieces ⟨terminal, folding.chunk, number + 1⟩).symm
  dsimp only
  rw [← before]
  rfl

theorem record_future {world : World} {holder : Job} {waiting : List Job} (folding : Folding)
    (held : world.writers = holder :: waiting) :
    (world.record holder.terminal folding).future = Function.update world.landing holder.terminal
      (landUpdate (folding.append world.buffers holder.terminal world.next).2
        (world.landing holder.terminal)) := by
  have front : (world.record holder.terminal folding).writers = holder :: waiting := held
  exact future_of_pending front rfl

/-- An append with nothing to write leaves the tail, the row and the history. -/
theorem silent_whole {rows : TerminalId → Row} {world : World} {holder : Job}
    {waiting : List Job} (folding : Folding) (whole : Whole rows world)
    (held : world.writers = holder :: waiting) (idle : world.stage.pending = none)
    (before : folding.before = world.buffers holder.terminal)
    (nothing : folding.append world.buffers holder.terminal world.next = (world.buffers, none)) :
    Whole rows (world.record holder.terminal folding) := by
  have silent : (folding.append world.buffers holder.terminal world.next).2 = none := by
    rw [nothing]
  have buffers : (world.record holder.terminal folding).buffers = world.buffers := by
    dsimp only [World.record]
    rw [nothing]
  have pieces : (world.record holder.terminal folding).pieces = world.pieces := by
    dsimp only [World.record]
    rw [silent]
    exact List.append_nil _
  constructor
  case held =>
    rw [pieces, buffers]
    exact whole.held
  case absent =>
    rw [pieces, buffers, record_future folding held, silent]
    intro terminal none
    have content := whole.absent terminal none
    rw [future_of_idle idle] at content
    dsimp only [landUpdate]
    rw [Function.update_eq_self]
    exact content
  case read => exact nofun
  case running =>
    intro control others pending _ under _
    obtain rfl := Option.some.inj under
    exact .inr silent
  case left =>
    rw [record_base folding held idle before]
    exact whole.left

theorem recorded_whole {rows : TerminalId → Row} {world : World} {holder : Job}
    {waiting : List Job} (folding : Folding) (whole : Whole rows world)
    (held : world.writers = holder :: waiting) (named : holder.terminal ≠ "")
    (idle : world.stage.pending = none)
    (before : folding.before = world.buffers holder.terminal)
    (read : world.buffers holder.terminal = none →
      rowContent folding.row = expected rows world.pieces holder.terminal)
    (ends : ∀ control, holder = .control control → folding.Ends → control.Ends) :
    Whole rows (world.record holder.terminal folding) := by
  rcases append_folds folding world.buffers named world.next with nothing | ⟨update, issued, folds⟩
  · exact silent_whole folding whole held idle before nothing
  have pieces : (world.record holder.terminal folding).pieces =
      world.pieces ++ [⟨holder.terminal, folding.chunk, world.next⟩] := by
    dsimp only [World.record]
    rw [issued]
    rfl
  have content : (⟨folding.tail world.buffers holder.terminal,
      folding.numbers world.buffers holder.terminal world.next⟩ : Content) =
      expected rows (world.record holder.terminal folding).pieces holder.terminal := by
    rw [pieces]
    exact folding_content rows world.pieces folding world.buffers holder.terminal
      world.pieces.length (whole.held holder.terminal) read
  have other : ∀ terminal, terminal ≠ holder.terminal →
      expected rows (world.record holder.terminal folding).pieces terminal =
        expected rows world.pieces terminal := by
    intro terminal different
    rw [pieces]
    exact expected_other rows world.pieces different
  have elsewhere : ∀ terminal, terminal ≠ holder.terminal →
      (world.record holder.terminal folding).buffers terminal = world.buffers terminal :=
    fun terminal different => append_other folding world.buffers world.next different
  constructor
  case held =>
    intro terminal kept holds
    by_cases here : terminal = holder.terminal
    · subst here
      obtain ⟨text, numbers, _⟩ := folds.held kept holds
      rw [← content, tailContent, text, numbers]
    · rw [other terminal here]
      exact whole.held terminal kept ((elsewhere terminal here).symm.trans holds)
  case absent =>
    intro terminal none
    rw [record_future folding held]
    by_cases here : terminal = holder.terminal
    · subst here
      have wrote := (folds.dropped none).1
      rw [Function.update_self, issued, ← content]
      dsimp only [landUpdate, RowUpdate.apply, rowContent]
      rw [wrote, folds.numbered]
      rfl
    · have content := whole.absent terminal ((elsewhere terminal here).symm.trans none)
      rw [future_of_idle idle] at content
      rw [Function.update_of_ne here, other terminal here]
      exact content
  case read => exact nofun
  -- The tail goes only with an append that ends the terminal, and this one does not.
  case running =>
    intro control others pending head _ running
    obtain ⟨same, _⟩ := List.cons.inj (held.symm.trans head)
    refine .inl fun none => running (ends control same (folds.dropped ?_).2)
    rw [same]
    rw [same] at none
    exact none
  case left =>
    rw [record_base folding held idle before]
    exact whole.left

theorem landUpdate_content (update : Option RowUpdate) {row other : Row}
    (same : rowContent row = rowContent other) :
    rowContent (landUpdate update row) = rowContent (landUpdate update other) := by
  injection same with output numbers
  cases update with
  | none => exact congrArg₂ Content.mk output numbers
  | some update =>
      dsimp only [landUpdate, RowUpdate.apply, rowContent]
      rw [output, numbers]

theorem update_content {rows others : TerminalId → Row} {terminal : TerminalId} {row other : Row}
    (same : ∀ terminal, rowContent (rows terminal) = rowContent (others terminal))
    (here : rowContent row = rowContent other) (listed : TerminalId) :
    rowContent (Function.update rows terminal row listed) =
      rowContent (Function.update others terminal other listed) := by
  by_cases at' : listed = terminal
  · subst at'
    rw [Function.update_self, Function.update_self]
    exact here
  · rw [Function.update_of_ne at', Function.update_of_ne at']
    exact same listed

/-- What the commits lead to depends on the content of the rows they land in. -/
theorem future_content {world after : World} (head : after.writers.head? = world.writers.head?)
    (stage : after.stage.pending = world.stage.pending)
    (landing : ∀ terminal, rowContent (after.landing terminal) = rowContent (world.landing terminal))
    (terminal : TerminalId) :
    rowContent (after.future terminal) = rowContent (world.future terminal) := by
  cases under : world.stage.pending with
  | none =>
      rw [future_of_idle under, future_of_idle (stage.trans under)]
      exact landing terminal
  | some pending =>
      cases before : world.writers with
      | nil =>
          rw [before, List.head?_nil, List.head?_eq_none_iff] at head
          unfold World.future
          rw [head, before]
          exact landing terminal
      | cons holder waiting =>
          rw [before, List.head?_cons, List.head?_eq_some_iff] at head
          obtain ⟨others, same⟩ := head
          rw [future_of_pending same (stage.trans under), future_of_pending before under]
          exact update_content landing (landUpdate_content pending.update (landing holder.terminal))
            terminal

/-- Nobody is inside the lock. -/
theorem whole_entered {rows : TerminalId → Row} {world : World} (entered : world.stage = .entered)
    (held : ∀ terminal held, world.buffers terminal = some held →
      tailContent held = expected rows world.pieces terminal)
    (absent : ∀ terminal, world.buffers terminal = none →
      rowContent (world.landing terminal) = expected rows world.pieces terminal)
    (left : ∀ control pending, leftBy world.database = some (control, pending) → ¬ control.Ends →
      world.buffers control.terminal ≠ none ∨ pending.update = none) : Whole rows world := by
  have idle := pending_of_entered entered
  constructor
  case held => exact held
  case absent =>
    rw [future_of_idle idle]
    exact absent
  case read =>
    intro holder waiting row before _ here
    rw [entered] at here
    cases here
  case running =>
    intro control waiting pending _ under
    rw [idle] at under
    cases under
  case left =>
    rw [base_of_idle idle]
    exact left

/-- The holder and its write stay, and no content moves. -/
theorem Whole.of_frame {rows : TerminalId → Row} {world after : World} (whole : Whole rows world)
    (head : after.writers.head? = world.writers.head?)
    (stage : after.stage.pending = world.stage.pending)
    (read : ∀ row before, after.stage = .selected row before → world.stage = .selected row before)
    (pieces : after.pieces = world.pieces) (buffers : after.buffers = world.buffers)
    (future : ∀ terminal, rowContent (after.future terminal) = rowContent (world.future terminal))
    (left : ∀ control pending, leftBy after.database = some (control, pending) →
      leftBy world.database = some (control, pending)) : Whole rows after := by
  have holder : ∀ job waiting, after.writers = job :: waiting →
      ∃ others, world.writers = job :: others := by
    intro job waiting held
    rw [held, List.head?_cons, eq_comm, List.head?_eq_some_iff] at head
    exact head
  constructor
  case held =>
    rw [pieces, buffers]
    exact whole.held
  case absent =>
    rw [pieces, buffers]
    intro terminal none
    rw [future]
    exact whole.absent terminal none
  case read =>
    rw [pieces, buffers]
    intro job waiting row before held here
    obtain ⟨others, front⟩ := holder job waiting held
    exact whole.read job others row before front (read row before here)
  case running =>
    rw [stage, buffers]
    intro control waiting pending held
    obtain ⟨others, front⟩ := holder _ waiting held
    exact whole.running control others pending front
  case left =>
    rw [base_congr head stage buffers]
    exact fun control pending has => whole.left control pending (left control pending has)

theorem Whole.of_landing {rows : TerminalId → Row} {world after : World} (whole : Whole rows world)
    (head : after.writers.head? = world.writers.head?)
    (stage : after.stage.pending = world.stage.pending)
    (read : ∀ row before, after.stage = .selected row before → world.stage = .selected row before)
    (pieces : after.pieces = world.pieces) (buffers : after.buffers = world.buffers)
    (stored : after.rows = world.rows) (left : leftBy after.database = leftBy world.database) :
    Whole rows after := by
  refine whole.of_frame head stage read pieces buffers (future_content head stage ?_) ?_
  · rw [landing_congr left stored]
    exact fun _ => rfl
  · rw [left]
    exact fun _ _ has => has

theorem Whole.idle_absent {rows : TerminalId → Row} {world : World} (whole : Whole rows world)
    (idle : world.stage.pending = none) (terminal : TerminalId)
    (none : world.buffers terminal = none) :
    rowContent (world.landing terminal) = expected rows world.pieces terminal := by
  have content := whole.absent terminal none
  rw [future_of_idle idle] at content
  exact content

theorem Whole.idle_left {rows : TerminalId → Row} {world : World} (whole : Whole rows world)
    (idle : world.stage.pending = none) (control : Control) (pending : Pending)
    (has : leftBy world.database = some (control, pending)) (running : ¬ control.Ends) :
    world.buffers control.terminal ≠ none ∨ pending.update = none := by
  have left := whole.left control pending has running
  rw [base_of_idle idle] at left
  exact left

theorem joined_whole {rows : TerminalId → Row} {world after : World} {job : Job}
    (locks : Locks world) (whole : Whole rows world)
    (writers : after.writers = world.writers ++ [job]) (stage : after.stage = world.stage)
    (pieces : after.pieces = world.pieces) (buffers : after.buffers = world.buffers)
    (stored : after.rows = world.rows) (left : leftBy after.database = leftBy world.database) :
    Whole rows after := by
  by_cases empty : world.writers = []
  · have entered := locks.idle empty
    have idle := pending_of_entered entered
    refine whole_entered (stage.trans entered) ?_ ?_ ?_
    · rw [pieces, buffers]
      exact whole.held
    · rw [pieces, buffers, landing_congr left stored]
      exact whole.idle_absent idle
    · rw [buffers, left]
      exact whole.idle_left idle
  · refine whole.of_landing ?_ (by rw [stage]) ?_ pieces buffers stored left
    · rw [writers]
      exact appended_head job empty
    · rw [stage]
      exact fun _ _ here => here

/-- The row that a flush or a settle reads where no tail is held has everything. -/
theorem selected_whole {rows : TerminalId → Row} {world : World} {holder : Job}
    {waiting : List Job} (whole : Whole rows world) (reads : ReadsCommitted world .select)
    (held : world.writers = holder :: waiting) (other : holder.isControl = false)
    (idle : world.stage.pending = none) (writes : holder.hasWrite world.buffers = true)
    (none : world.buffers holder.terminal = none) :
    rowContent (world.rows holder.terminal) = expected rows world.pieces holder.terminal := by
  have content := whole.idle_absent idle holder.terminal none
  cases left : leftBy world.database with
  | none =>
      rw [landing_of_free left] at content
      exact content
  | some owner =>
      obtain ⟨control, pending⟩ := owner
      rw [landing_of_left control pending left] at content
      by_cases here : holder.terminal = control.terminal
      · rw [here, Function.update_self] at content
        by_cases ends : control.Ends
        · cases holder with
          | flush terminal batches =>
              exact absurd here (reads terminal batches waiting control pending held left ends)
          | settle terminal =>
              have writes : (TerminalOutput.pending world.buffers terminal).isSome = true := writes
              have none : world.buffers terminal = Option.none := none
              unfold TerminalOutput.pending at writes
              rw [none] at writes
              cases writes
          | control _ => cases other
        · rcases whole.idle_left idle control pending left ends with holds | silent
          · rw [here] at none
            exact absurd none holds
          · rw [silent] at content
            rw [here]
            exact content
      · rw [Function.update_of_ne here] at content
        exact content

/-- The status that a control completion leaves in the row is no content. -/
theorem row_content (control : Control) (row : Row) :
    rowContent (control.row row) = rowContent row := rfl

theorem folding_ends (control : Control) (row : Row) (before : Option Tail) (now : Nat) :
    (control.folding row before now).Ends ↔ control.Ends := Iff.rfl

theorem left_whole {rows : TerminalId → Row} {world : World} {control : Control}
    {waiting : List Job} {pending : Pending} (locks : Locks world) (whole : Whole rows world)
    (held : world.writers = .control control :: waiting) (wrote : world.stage = .writing pending) :
    Whole rows { world.release waiting with
      database := some (.control control (.left pending)) } := by
  have under : world.stage.pending = some pending := by
    rw [wrote]
    rfl
  have landing : world.landing = world.rows :=
    landing_of_free (by rw [(locks.holder held).1]; rfl)
  have content := whole.absent
  rw [future_of_pending held under, landing] at content
  refine whole_entered rfl whole.held ?_ ?_
  · rw [landing_of_left control pending rfl]
    intro terminal none
    exact (update_content (fun _ => rfl)
      (landUpdate_content pending.update (row_content control (world.rows control.terminal)))
      terminal).trans (content terminal none)
  · intro other _ same
    obtain ⟨rfl, rfl⟩ := Prod.mk.inj (Option.some.inj same)
    exact whole.running control waiting pending held under

theorem move_whole {rows : TerminalId → Row} {world after : World} {label : Label}
    (locks : Locks world) (agreed : Agreed world) (reads : ReadsCommitted world label)
    (whole : Whole rows world) (move : Move world label after) : Whole rows after := by
  cases move with
  | queued job named other => exact joined_whole locks whole rfl rfl rfl rfl rfl rfl
  | opened control named free =>
      exact whole.of_landing rfl rfl (fun _ _ here => here) rfl rfl rfl (by rw [free]; rfl)
  | asked control begun =>
      exact joined_whole locks whole rfl rfl rfl rfl rfl (by rw [begun]; rfl)
  | skipped terminal batch rest waiting held entered empty =>
      exact whole_entered entered whole.held (whole.idle_absent (pending_of_entered entered))
        (whole.idle_left (pending_of_entered entered))
  | selected holder waiting held other entered writes =>
      have read := selected_whole whole reads held other (pending_of_entered entered) writes
      constructor
      case held => exact whole.held
      case absent =>
        rw [future_of_idle rfl]
        exact whole.idle_absent (pending_of_entered entered)
      case read =>
        intro job others row before front here
        obtain ⟨rfl, _⟩ := List.cons.inj (held.symm.trans front)
        injection here with same _
        rw [← same]
        exact read
      case running => exact nofun
      case left =>
        rw [base_of_idle rfl]
        exact whole.idle_left (pending_of_entered entered)
  | released holder waiting held other entered =>
      exact whole_entered rfl whole.held (whole.idle_absent (pending_of_entered entered))
        (whole.idle_left (pending_of_entered entered))
  | recorded holder waiting folding held other read =>
      have named := locks.namedJob holder (held ▸ List.mem_cons_self)
      refine recorded_whole folding whole held named (by rw [read]; rfl)
        (agreed.read _ _ _ _ held read) (whole.read _ _ _ _ held read) ?_
      intro control same
      rw [same] at other
      cases other
  | recordedControl control waiting now held entered =>
      have named := locks.namedJob (.control control) (held ▸ List.mem_cons_self)
      have read : world.buffers control.terminal = none →
          rowContent (control.row (world.rows control.terminal)) =
            expected rows world.pieces control.terminal := by
        intro none
        have content := whole.idle_absent (pending_of_entered entered) control.terminal none
        rw [landing_of_free (by rw [(locks.holder held).1]; rfl)] at content
        exact content
      have ends : ∀ other, Job.control control = .control other →
          (control.folding (world.rows control.terminal) (world.buffers control.terminal) now).Ends →
          other.Ends := by
        intro other same ends
        obtain rfl := Job.control.inj same
        exact (folding_ends control _ _ now).mp ends
      have recorded := recorded_whole (control.folding (world.rows control.terminal)
        (world.buffers control.terminal) now) whole held named (pending_of_entered entered) rfl read ends
      exact recorded
  | updated holder waiting pending held other issued free =>
      exact whole.of_landing rfl (by rw [issued]; rfl) nofun rfl rfl rfl (by rw [free]; rfl)
  | updatedControl control waiting pending held issued =>
      exact whole.of_landing rfl (by rw [issued]; rfl) nofun rfl rfl rfl rfl
  | committed holder waiting rest pending held other wrote has left =>
      have content := whole.absent
      rw [future_of_pending held (by rw [wrote]; rfl), landing_of_free (by rw [has]; rfl)] at content
      refine whole_entered rfl whole.held ?_ nofun
      rw [landing_of_free rfl]
      exact content
  | left control waiting pending held wrote =>
      exact left_whole locks whole held wrote
  | gaveUp holder waiting held other => exact reads.elim
  | gaveUpControl control waiting held => exact reads.elim
  | passed control begun =>
      have before : world.landing = world.rows := landing_of_free (by rw [begun]; rfl)
      refine whole.of_frame rfl rfl (fun _ _ here => here) rfl rfl (future_content rfl rfl ?_) nofun
      rw [landing_of_free rfl, before]
      intro terminal
      have content : rowContent (Function.update world.rows control.terminal
          (control.row (world.rows control.terminal)) terminal) = rowContent (Function.update
            world.rows control.terminal (world.rows control.terminal) terminal) :=
        update_content (fun _ => rfl) (row_content control (world.rows control.terminal)) terminal
      rw [Function.update_eq_self] at content
      exact content
  | landed control pending has =>
      have before : world.landing = _ := landing_of_left control pending (by rw [has]; rfl)
      refine whole.of_frame rfl rfl (fun _ _ here => here) rfl rfl (future_content rfl rfl ?_) nofun
      rw [landing_of_free rfl, before]
      exact fun _ => rfl
  | dropped control begun => exact reads.elim
  | cancelled control waits outside => exact reads.elim
  | lost control pending has => exact reads.elim

theorem initial_whole (rows : TerminalId → Row) : Whole rows (initial rows) :=
  whole_entered rfl nofun (fun _ _ => rfl) nofun

/-! ### Over whole runs -/

/-- A step appends one piece at most, under a number of its own. -/
theorem move_pieces {world after : World} {label : Label} (move : Move world label after) :
    after.pieces = world.pieces ∨
      ∃ piece, after.pieces = world.pieces ++ [piece] ∧ piece.number = world.next := by
  have recorded : ∀ terminal (folding : Folding),
      (world.record terminal folding).pieces = world.pieces ∨ ∃ piece,
        (world.record terminal folding).pieces = world.pieces ++ [piece] ∧
          piece.number = world.next := by
    intro terminal folding
    dsimp only [World.record]
    cases (folding.append world.buffers terminal world.next).2 with
    | none => exact .inl (List.append_nil _)
    | some update => exact .inr ⟨_, rfl, rfl⟩
  cases move with
  | recorded holder waiting folding held other read => exact recorded holder.terminal folding
  | recordedControl control waiting now held entered => exact recorded control.terminal _
  | gaveUp holder waiting held other =>
      left
      unfold World.giveUp
      split <;> rfl
  | gaveUpControl control waiting held =>
      left
      unfold World.giveUpControl
      split <;> rfl
  | _ => exact .inl rfl

def Numbered (pieces : List Piece) : Prop :=
  pieces.map Piece.number = List.range' 1 pieces.length

theorem move_numbered {world after : World} {label : Label} (numbered : Numbered world.pieces)
    (move : Move world label after) : Numbered after.pieces := by
  rcases move_pieces move with same | ⟨piece, same, number⟩
  · rw [same]
    exact numbered
  · unfold Numbered at *
    rw [same, List.map_append, numbered, List.map_singleton, number, List.length_append,
      List.length_singleton, List.range'_concat]
    rw [World.next, Nat.one_mul, Nat.add_comm]

/-- The tail of a terminal: the one that is held, or else the row's. -/
def World.content (world : World) (terminal : TerminalId) : Content :=
  ⟨currentTail world.buffers terminal (world.rows terminal).output,
    currentNumbers world.buffers terminal (world.rows terminal).numbers⟩

theorem closed_future {world : World} {terminal : TerminalId}
    (closed : terminal ∉ world.openAppends) : world.future terminal = world.rows terminal := by
  obtain ⟨_, landing⟩ := closed_settled closed
  unfold World.openAppends at closed
  rw [List.mem_append, not_or] at closed
  unfold World.future
  split
  next holder waiting pending held under =>
    rw [held, under] at closed
    rw [if_neg fun same => closed.1 (List.mem_singleton.mpr same.symm)]
    exact landing
  · exact landing

theorem Whole.content {rows : TerminalId → Row} {world : World} (whole : Whole rows world)
    {terminal : TerminalId} (closed : terminal ∉ world.openAppends) :
    world.content terminal = expected rows world.pieces terminal := by
  unfold World.content currentTail currentNumbers
  cases holding : world.buffers terminal with
  | none =>
      have content := whole.absent terminal holding
      rw [closed_future closed] at content
      exact content
  | some held => exact whole.held terminal held holding

/-- Once the appends to a terminal are committed, its tail has every piece of either
writer once and in order, and the row has that tail unless one waits to be written. -/
theorem no_bytes_lost {rows : TerminalId → Row} {world : World}
    (run : Reaches step ReadsCommitted (initial rows) world) (terminal : TerminalId)
    (closed : terminal ∉ world.openAppends) :
    world.content terminal = expected rows world.pieces terminal ∧
      (world.pieces.map Piece.number).Nodup ∧
      (pending world.buffers terminal = none →
        (world.rows terminal).output = (world.content terminal).text) := by
  have invariant : Locks world ∧ Agreed world ∧ Whole rows world ∧ Numbered world.pieces := by
    refine run.invariant
      (fun world => Locks world ∧ Agreed world ∧ Whole rows world ∧ Numbered world.pieces)
      ⟨initial_locks rows, initial_agreed rows, initial_whole rows, rfl⟩ ?_
    rintro before label after ⟨locks, agreed, whole, numbered⟩ reads taken
    have move := step_move taken
    exact ⟨step_locks locks taken, step_agreed locks reads.failsEarly agreed taken,
      move_whole locks agreed reads whole move, move_numbered numbered move⟩
  obtain ⟨_, agreed, whole, numbered⟩ := invariant
  refine ⟨whole.content closed, ?_, fun clean => ?_⟩
  · rw [numbered]
    exact List.nodup_range'
  · unfold World.content currentTail
    cases holding : world.buffers terminal with
    | none => rfl
    | some held =>
        unfold pending at clean
        rw [holding, Option.filter_eq_none_iff] at clean
        exact agreed.heldAsStored terminal held closed holding
          (Bool.eq_false_iff.mpr (clean held rfl))

def readsCommitted (world : World) : Label → Bool
  | .select => (leftBy world.database).isNone
  | .fail | .controlFail => false
  | _ => true

theorem readsCommitted_sound (world : World) (label : Label)
    (granted : readsCommitted world label = true) : ReadsCommitted world label := by
  cases label with
  | select =>
      intro terminal batches waiting control pending _ left
      have granted : (leftBy world.database).isNone = true := granted
      rw [left] at granted
      cases granted
  | fail => cases granted
  | controlFail => cases granted
  | _ => trivial

def stopControl : Control := ⟨"t", "bye", "stopped", "running"⟩

/-- A control completion ends its terminal, and a flush reads the row before its commit. -/
theorem ended_tail_overwritten : ∃ world,
    Reaches step Succeeds (initial fun _ => emptyRow) world ∧ world.writers = [] ∧
      world.openAppends = [] ∧ world.pieces = [⟨"t", "bye", 1⟩, ⟨"t", "a", 2⟩] ∧
      world.content "t" = ⟨"a", [2]⟩ ∧ (world.rows "t").output = "a" := by
  have executed : (exec step (fun _ => Label.succeeds) (initial fun _ => emptyRow)
      [.opens stopControl, .ask, .record 0, .update, .leave, .flush "t" [⟨"a", "", 1⟩], .select,
        .record 5, .controlCommit, .update, .commit, .finish]).map
      (fun world => (world.writers, world.openAppends, world.pieces, world.content "t",
        (world.rows "t").output)) =
      some ([], [], [⟨"t", "bye", 1⟩, ⟨"t", "a", 2⟩], ⟨"a", [2]⟩, "a") := by
    decide
  have sound : ∀ world label, Label.succeeds label = true → Succeeds world label :=
    fun _ _ granted => granted
  obtain ⟨world, run, seen⟩ := reaches_observed _ _ _ _ sound executed
  simp only [Prod.mk.injEq] at seen
  exact ⟨world, run, seen.1, seen.2.1, seen.2.2.1, seen.2.2.2.1, seen.2.2.2.2⟩

/-- The same two writes, the commit before the read. -/
theorem no_bytes_lost_ended : ∃ world,
    Reaches step ReadsCommitted (initial fun _ => emptyRow) world ∧ "t" ∉ world.openAppends ∧
      world.pieces = [⟨"t", "bye", 1⟩, ⟨"t", "a", 2⟩] ∧
      world.content "t" = expected (fun _ => emptyRow) world.pieces "t" ∧
      (world.rows "t").output = "byea" := by
  have executed : (exec step readsCommitted (initial fun _ => emptyRow)
      [.opens stopControl, .ask, .record 0, .update, .leave, .flush "t" [⟨"a", "", 1⟩],
        .controlCommit, .select, .record 5, .update, .commit, .finish]).map
      (fun world => (world.openAppends, world.pieces, (world.rows "t").output)) =
      some ([], [⟨"t", "bye", 1⟩, ⟨"t", "a", 2⟩], "byea") := by
    decide
  obtain ⟨world, run, seen⟩ := reaches_observed _ _ _ _ readsCommitted_sound executed
  simp only [Prod.mk.injEq] at seen
  obtain ⟨closed, pieces, row⟩ := seen
  have outside : "t" ∉ world.openAppends := by
    rw [closed]
    exact List.not_mem_nil
  exact ⟨world, run, outside, pieces, (no_bytes_lost run "t" outside).1, row⟩

end AifyComms.TerminalWriters
