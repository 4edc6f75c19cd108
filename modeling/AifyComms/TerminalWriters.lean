import AifyComms.Runs
import AifyComms.TerminalOutput

/-!
The two writers of a terminal's row, statement by statement: `_write_terminal_output` and
`append_outside_the_queue` of `terminal_write_queue.py`, the second inside the
transaction of `update_terminal_control` (`routers/terminal_controls.py`).

`writers` is `_write_lock`: its holder first, then the waiters in FIFO order. `stage` is
how far the holder is with the write at hand, and `database` has the SQLite write lock. A
control completion waits for that lock with nothing in its hands, so it comes into being
when it gets it. A flush brings the batches it popped; a batch that fails goes back to
the queue and comes again with another flush.

`pieces` and `rolledBack` are history: what was folded into a tail, each under a number of
its own, and the numbers whose transaction was rolled back.
-/

namespace AifyComms.TerminalWriters
open Runs TerminalOutput

structure Batch where
  output : String
  status : String
  seq : Nat
  deriving DecidableEq

def Batch.isEmpty (batch : Batch) : Bool := batch.output = "" && batch.status = ""

/-- A control completion that reports output. `ownStatus` is the status its transaction
has left in the row before the append. -/
structure Control where
  terminal : TerminalId
  output : String
  status : String
  ownStatus : String
  deriving DecidableEq

/-- Who wants `_write_lock`. -/
inductive Job where
  | flush (terminal : TerminalId) (batches : List Batch)
  | settle (terminal : TerminalId)
  | control (control : Control)
  deriving DecidableEq

def Job.terminal : Job → TerminalId
  | .flush terminal _ | .settle terminal => terminal
  | .control completion => completion.terminal

def Job.isControl : Job → Bool
  | .control _ => true
  | _ => false

/-- Whether the job still has a write to make. -/
def Job.hasWrite (buffers : Buffers) : Job → Bool
  | .flush _ batches => batches.any fun batch => !batch.isEmpty
  | .settle terminal => (pending buffers terminal).isSome
  | .control _ => true

/-- What an UPDATE that is not committed leaves in the row, the tail to put back when the
write fails, and the number it goes under in the history. -/
structure Pending where
  before : Option Tail
  update : Option RowUpdate
  number : Nat

/-- The numbers that go with the UPDATE: one, or none where there is nothing to write. -/
def Pending.numbers (pending : Pending) : List Nat :=
  pending.update.toList.map fun _ => pending.number

/-- Where the holder is with its write: before its SELECT, with the row it read, with its
UPDATE issued, or with statements and the commit to come. -/
inductive Stage where
  | entered
  | selected (row : Row) (before : Option Tail)
  | recorded (pending : Pending)
  | writing (pending : Pending)

inductive Progress where
  | begun
  | asked
  | left (pending : Pending)

/-- Who has the SQLite write lock: the write of `_write_lock`'s holder, or a control
completion, from its `BEGIN IMMEDIATE` on. -/
inductive Owner where
  | write
  | control (control : Control) (progress : Progress)

structure Piece where
  terminal : TerminalId
  text : String
  number : Nat
  deriving DecidableEq

structure World where
  buffers : Buffers
  rows : TerminalId → Row
  writers : List Job
  stage : Stage
  database : Option Owner
  pieces : List Piece
  rolledBack : List Nat

def initial (rows : TerminalId → Row) : World where
  buffers := fun _ => none
  rows := rows
  writers := []
  stage := .entered
  database := none
  pieces := []
  rolledBack := []

/-! ### One write -/

def landUpdate (update : Option RowUpdate) (row : Row) : Row :=
  match update with
  | some update => update.apply row
  | none => row

/-- The row with what the transaction of a control completion wrote before its append. -/
def Control.row (control : Control) (row : Row) : Row :=
  { row with status := control.ownStatus }

/-- `restore`. -/
def restore (buffers : Buffers) (terminal : TerminalId) (before : Option Tail) : Buffers :=
  Function.update buffers terminal before

/-- The number of the next piece. -/
def World.next (world : World) : Nat := world.pieces.length + 1

/-- What `_append_terminal_output` gets, and the tail its caller would put back. -/
structure Folding where
  row : Row
  chunk : String
  status : String
  seq : Option Nat
  settle : Bool
  before : Option Tail
  now : Nat

def Folding.append (folding : Folding) (buffers : Buffers) (terminal : TerminalId)
    (number : Nat) : Buffers × Option RowUpdate :=
  appendTerminalOutput buffers terminal folding.row folding.chunk folding.status folding.seq
    folding.settle number folding.now

/-- `_append_terminal_output`, up to its UPDATE. -/
def World.record (world : World) (terminal : TerminalId) (folding : Folding) : World :=
  let appended := folding.append world.buffers terminal world.next
  { world with
    buffers := appended.1
    stage := .recorded ⟨folding.before, appended.2, world.next⟩
    pieces := world.pieces ++
      appended.2.toList.map fun _ => ⟨terminal, folding.chunk, world.next⟩ }

/-- How a batch is handed over. -/
def Batch.folding (batch : Batch) (row : Row) (before : Option Tail) (now : Nat) : Folding :=
  ⟨row, batch.output, batch.status, some (seqOrRow (some batch.seq) row), false, before, now⟩

/-- A settle writes no new bytes, under the number the tail is held with. -/
def settleFolding (held : Option Tail) (row : Row) (before : Option Tail) (now : Nat) : Folding :=
  ⟨row, "", "", some (seqOrRow (held.bind Tail.seq) row), true, before, now⟩

def Control.folding (control : Control) (row : Row) (before : Option Tail) (now : Nat) : Folding :=
  ⟨control.row row, control.output, control.status, none, false, before, now⟩

/-- The holder leaves `_write_lock`. -/
def World.release (world : World) (waiting : List Job) : World :=
  { world with writers := waiting, stage := .entered }

/-- A write of the queue raises: the tail it held is put back, and the row with it. -/
def World.giveUp (world : World) (terminal : TerminalId) (waiting : List Job) : World :=
  match world.stage with
  | .entered => world.release waiting
  | .selected _ before =>
      { world.release waiting with buffers := restore world.buffers terminal before }
  | .recorded pending =>
      { world.release waiting with
        buffers := restore world.buffers terminal pending.before
        rolledBack := world.rolledBack ++ pending.numbers }
  | .writing pending =>
      { world.release waiting with
        buffers := restore world.buffers terminal pending.before
        database := none
        rolledBack := world.rolledBack ++ pending.numbers }

/-- A control completion raises inside `_write_lock`: only a failed UPDATE puts the tail
back. Its connection is closed without a commit. -/
def World.giveUpControl (world : World) (terminal : TerminalId) (waiting : List Job) : World :=
  match world.stage with
  | .recorded pending =>
      { world.release waiting with
        buffers := restore world.buffers terminal pending.before
        database := none
        rolledBack := world.rolledBack ++ pending.numbers }
  | .writing pending =>
      { world.release waiting with
        database := none
        rolledBack := world.rolledBack ++ pending.numbers }
  | _ => { world.release waiting with database := none }

inductive Label where
  | flush (terminal : TerminalId) (batches : List Batch)
  | settle (terminal : TerminalId)
  | opens (control : Control)
  | ask
  | skip
  | select
  | record (now : Nat)
  | update
  | commit
  | finish
  | leave
  | fail
  | controlCommit
  | controlFail

/-- A step of the holder of `_write_lock`. -/
def stepHolder (world : World) (holder : Job) (waiting : List Job) : Label → Option World
  | .skip =>
      match holder, world.stage with
      | .flush terminal (batch :: rest), .entered =>
          if batch.isEmpty then some { world with writers := .flush terminal rest :: waiting }
          else none
      | _, _ => none
  | .select =>
      match holder, world.stage with
      | .flush terminal (batch :: _), .entered =>
          if batch.isEmpty then none
          else some { world with
            stage := .selected (world.rows terminal) (world.buffers terminal) }
      | .settle terminal, .entered =>
          -- The look under the lock: a write before this one may have stored the tail.
          if pending world.buffers terminal = none then some (world.release waiting)
          else some { world with
            stage := .selected (world.rows terminal) (world.buffers terminal) }
      | _, _ => none
  | .record now =>
      match holder, world.stage with
      | .flush terminal (batch :: _), .selected row before =>
          some (world.record terminal (batch.folding row before now))
      | .settle terminal, .selected row before =>
          some (world.record terminal (settleFolding (world.buffers terminal) row before now))
      -- Its SELECT is in its own transaction, which no other write can be ahead of.
      | .control control, .entered =>
          some (world.record control.terminal (control.folding (world.rows control.terminal)
            (world.buffers control.terminal) now))
      | _, _ => none
  | .update =>
      match holder.isControl, world.stage, world.database with
      | true, .recorded pending, _ => some { world with stage := .writing pending }
      | false, .recorded pending, none =>
          some { world with stage := .writing pending, database := some .write }
      | _, _, _ => none
  | .commit =>
      match holder, world.stage, world.database with
      | .flush terminal (_ :: rest), .writing pending, some .write =>
          some { world with
            rows := Function.update world.rows terminal
              (landUpdate pending.update (world.rows terminal))
            writers := .flush terminal rest :: waiting
            stage := .entered
            database := none }
      | .settle terminal, .writing pending, some .write =>
          some { world with
            rows := Function.update world.rows terminal
              (landUpdate pending.update (world.rows terminal))
            writers := waiting
            stage := .entered
            database := none }
      | _, _, _ => none
  | .finish =>
      match holder, world.stage with
      | .flush _ [], .entered => some (world.release waiting)
      | _, _ => none
  | .leave =>
      match holder, world.stage with
      | .control control, .writing pending =>
          some { world.release waiting with
            database := some (.control control (.left pending)) }
      | _, _ => none
  | .fail =>
      match holder with
      | .control control => some (world.giveUpControl control.terminal waiting)
      | _ => some (world.giveUp holder.terminal waiting)
  | _ => none

/-- A step of the control completion that has the SQLite write lock, outside
`_write_lock`. -/
def stepControl (world : World) (control : Control) (progress : Progress) :
    Label → Option World
  | .ask =>
      match progress with
      | .begun =>
          -- A completion that reports no output appends nothing.
          if control.output = "" then none
          else some { world with
            writers := world.writers ++ [.control control]
            database := some (.control control .asked) }
      | _ => none
  | .controlCommit =>
      match progress with
      -- A completion without output, as every other writer of the database.
      | .begun => some { world with
          rows := Function.update world.rows control.terminal
            (control.row (world.rows control.terminal))
          database := none }
      | .left pending => some { world with
          rows := Function.update world.rows control.terminal
            (landUpdate pending.update (control.row (world.rows control.terminal)))
          database := none }
      | .asked => none
  | .controlFail =>
      match progress with
      | .begun => some { world with database := none }
      -- Cancelled while it waits; the holder's own failure is `fail`.
      | .asked =>
          if world.writers.head? = some (.control control) then none
          else some { world with
            writers := world.writers.filter fun job => decide (job ≠ .control control)
            database := none }
      | .left pending => some { world with
          database := none
          rolledBack := world.rolledBack ++ pending.numbers }
  | _ => none

def step (world : World) (label : Label) : Option World :=
  match label with
  -- `enqueue` refuses the empty id, and a control is one of a row's.
  | .flush terminal batches =>
      if terminal = "" then none
      else some { world with writers := world.writers ++ [.flush terminal batches] }
  | .settle terminal =>
      if terminal = "" then none
      else some { world with writers := world.writers ++ [.settle terminal] }
  | .opens control =>
      if control.terminal = "" ∨ world.database.isSome then none
      else some { world with database := some (.control control .begun) }
  | .ask | .controlCommit | .controlFail =>
      match world.database with
      | some (.control control progress) => stepControl world control progress label
      | _ => none
  | _ =>
      match world.writers with
      | [] => none
      | holder :: waiting => stepHolder world holder waiting label

/-! ### What a step does -/

/-- Every step, with what it found. -/
inductive Move (world : World) : Label → World → Prop where
  | queued {label : Label} (job : Job) (named : job.terminal ≠ "") (other : job.isControl = false) :
      Move world label { world with writers := world.writers ++ [job] }
  | opened (control : Control) (named : control.terminal ≠ "") (free : world.database = none) :
      Move world (.opens control) { world with database := some (.control control .begun) }
  | asked (control : Control) (begun : world.database = some (.control control .begun)) :
      Move world .ask { world with
        writers := world.writers ++ [.control control]
        database := some (.control control .asked) }
  | skipped (terminal : TerminalId) (batch : Batch) (rest : List Batch) (waiting : List Job)
      (held : world.writers = .flush terminal (batch :: rest) :: waiting)
      (entered : world.stage = .entered) (empty : batch.isEmpty = true) :
      Move world .skip { world with writers := .flush terminal rest :: waiting }
  | selected (holder : Job) (waiting : List Job) (held : world.writers = holder :: waiting)
      (other : holder.isControl = false) (entered : world.stage = .entered)
      (writes : holder.hasWrite world.buffers = true) :
      Move world .select { world with
        stage := .selected (world.rows holder.terminal) (world.buffers holder.terminal) }
  | released {label : Label} (holder : Job) (waiting : List Job)
      (held : world.writers = holder :: waiting) (other : holder.isControl = false)
      (entered : world.stage = .entered) : Move world label (world.release waiting)
  | recorded (holder : Job) (waiting : List Job) (folding : Folding)
      (held : world.writers = holder :: waiting) (other : holder.isControl = false)
      (read : world.stage = .selected folding.row folding.before) :
      Move world (.record folding.now) (world.record holder.terminal folding)
  | recordedControl (control : Control) (waiting : List Job) (now : Nat)
      (held : world.writers = .control control :: waiting) (entered : world.stage = .entered) :
      Move world (.record now) (world.record control.terminal
        (control.folding (world.rows control.terminal) (world.buffers control.terminal) now))
  | updated (holder : Job) (waiting : List Job) (pending : Pending)
      (held : world.writers = holder :: waiting) (other : holder.isControl = false)
      (issued : world.stage = .recorded pending) (free : world.database = none) :
      Move world .update { world with stage := .writing pending, database := some .write }
  | updatedControl (control : Control) (waiting : List Job) (pending : Pending)
      (held : world.writers = .control control :: waiting)
      (issued : world.stage = .recorded pending) :
      Move world .update { world with stage := .writing pending }
  | committed (holder : Job) (waiting rest : List Job) (pending : Pending)
      (held : world.writers = holder :: waiting) (other : holder.isControl = false)
      (wrote : world.stage = .writing pending) (has : world.database = some .write)
      (left : rest = waiting ∨ ∃ batches, rest = .flush holder.terminal batches :: waiting) :
      Move world .commit { world with
        rows := Function.update world.rows holder.terminal
          (landUpdate pending.update (world.rows holder.terminal))
        writers := rest
        stage := .entered
        database := none }
  | left (control : Control) (waiting : List Job) (pending : Pending)
      (held : world.writers = .control control :: waiting)
      (wrote : world.stage = .writing pending) :
      Move world .leave { world.release waiting with
        database := some (.control control (.left pending)) }
  | gaveUp (holder : Job) (waiting : List Job) (held : world.writers = holder :: waiting)
      (other : holder.isControl = false) :
      Move world .fail (world.giveUp holder.terminal waiting)
  | gaveUpControl (control : Control) (waiting : List Job)
      (held : world.writers = .control control :: waiting) :
      Move world .fail (world.giveUpControl control.terminal waiting)
  | passed (control : Control) (begun : world.database = some (.control control .begun)) :
      Move world .controlCommit { world with
        rows := Function.update world.rows control.terminal
          (control.row (world.rows control.terminal))
        database := none }
  | landed (control : Control) (pending : Pending)
      (open' : world.database = some (.control control (.left pending))) :
      Move world .controlCommit { world with
        rows := Function.update world.rows control.terminal
          (landUpdate pending.update (control.row (world.rows control.terminal)))
        database := none }
  | dropped (control : Control) (begun : world.database = some (.control control .begun)) :
      Move world .controlFail { world with database := none }
  | cancelled (control : Control) (waits : world.database = some (.control control .asked))
      (outside : world.writers.head? ≠ some (.control control)) :
      Move world .controlFail { world with
        writers := world.writers.filter fun job => decide (job ≠ .control control)
        database := none }
  | lost (control : Control) (pending : Pending)
      (open' : world.database = some (.control control (.left pending))) :
      Move world .controlFail { world with
        database := none
        rolledBack := world.rolledBack ++ pending.numbers }

theorem stepControl_move {world after : World} {control : Control} {progress : Progress}
    {label : Label} (has : world.database = some (.control control progress))
    (taken : stepControl world control progress label = some after) : Move world label after := by
  cases label with
  | ask =>
      cases progress with
      | begun =>
          dsimp only [stepControl] at taken
          split at taken
          · cases taken
          · obtain rfl := Option.some.inj taken
            exact .asked control has
      | _ => cases taken
  | controlCommit =>
      cases progress with
      | begun =>
          obtain rfl := Option.some.inj taken
          exact .passed control has
      | asked => cases taken
      | left pending =>
          obtain rfl := Option.some.inj taken
          exact .landed control pending has
  | controlFail =>
      cases progress with
      | begun =>
          obtain rfl := Option.some.inj taken
          exact .dropped control has
      | asked =>
          dsimp only [stepControl] at taken
          split at taken
          · cases taken
          next outside =>
            obtain rfl := Option.some.inj taken
            exact .cancelled control has outside
      | left pending =>
          obtain rfl := Option.some.inj taken
          exact .lost control pending has
  | _ => cases taken

theorem stepHolder_move {world after : World} {holder : Job} {waiting : List Job} {label : Label}
    (held : world.writers = holder :: waiting)
    (taken : stepHolder world holder waiting label = some after) : Move world label after := by
  cases label with
  | skip =>
      dsimp only [stepHolder] at taken
      split at taken
      next terminal batch rest entered =>
        split at taken
        next empty =>
          obtain rfl := Option.some.inj taken
          exact .skipped terminal batch rest waiting held entered empty
        · cases taken
      · cases taken
  | select =>
      dsimp only [stepHolder] at taken
      split at taken
      next terminal batch rest entered =>
        split at taken
        · cases taken
        next full =>
          obtain rfl := Option.some.inj taken
          refine .selected _ waiting held rfl entered ?_
          simp [Job.hasWrite, full]
      next terminal entered =>
        split at taken
        · obtain rfl := Option.some.inj taken
          exact .released _ waiting held rfl entered
        next holds =>
          obtain rfl := Option.some.inj taken
          exact .selected _ waiting held rfl entered (Option.isSome_iff_ne_none.mpr holds)
      · cases taken
  | record now =>
      dsimp only [stepHolder] at taken
      split at taken
      next terminal batch rest row before read =>
        obtain rfl := Option.some.inj taken
        exact .recorded (.flush terminal (batch :: rest)) waiting (batch.folding row before now) held
          rfl read
      next terminal row before read =>
        obtain rfl := Option.some.inj taken
        exact .recorded (.settle terminal) waiting
          (settleFolding (world.buffers terminal) row before now) held rfl read
      next control entered =>
        obtain rfl := Option.some.inj taken
        exact .recordedControl control waiting now held entered
      · cases taken
  | update =>
      dsimp only [stepHolder] at taken
      split at taken
      next pending isControl issued =>
        obtain rfl := Option.some.inj taken
        cases holder with
        | control control => exact .updatedControl control waiting pending held issued
        | _ => cases isControl
      next pending other issued free =>
        obtain rfl := Option.some.inj taken
        exact .updated holder waiting pending held other issued free
      · cases taken
  | commit =>
      dsimp only [stepHolder] at taken
      split at taken
      next terminal batch rest pending wrote has =>
        obtain rfl := Option.some.inj taken
        exact .committed _ waiting _ pending held rfl wrote has (.inr ⟨rest, rfl⟩)
      next terminal pending wrote has =>
        obtain rfl := Option.some.inj taken
        exact .committed _ waiting _ pending held rfl wrote has (.inl rfl)
      · cases taken
  | finish =>
      dsimp only [stepHolder] at taken
      split at taken
      next terminal entered =>
        obtain rfl := Option.some.inj taken
        exact .released _ waiting held rfl entered
      · cases taken
  | leave =>
      dsimp only [stepHolder] at taken
      split at taken
      next control pending wrote =>
        obtain rfl := Option.some.inj taken
        exact .left control waiting pending held wrote
      · cases taken
  | fail =>
      cases holder with
      | control control =>
          obtain rfl := Option.some.inj taken
          exact .gaveUpControl control waiting held
      | flush terminal batches =>
          obtain rfl := Option.some.inj taken
          exact .gaveUp _ waiting held rfl
      | settle terminal =>
          obtain rfl := Option.some.inj taken
          exact .gaveUp _ waiting held rfl
  | _ => cases taken

theorem step_move {world after : World} {label : Label} (taken : step world label = some after) :
    Move world label after := by
  have byHolder : ∀ {label : Label}, (match world.writers with
      | [] => none
      | holder :: waiting => stepHolder world holder waiting label) = some after →
      Move world label after := by
    intro label taken
    split at taken
    · cases taken
    next job waiting held => exact stepHolder_move held taken
  have byControl : ∀ {label : Label}, (match world.database with
      | some (.control control progress) => stepControl world control progress label
      | _ => none) = some after → Move world label after := by
    intro label taken
    split at taken
    next control progress has => exact stepControl_move has taken
    · cases taken
  cases label with
  | flush terminal batches =>
      dsimp only [step] at taken
      split at taken
      · cases taken
      next named =>
        obtain rfl := Option.some.inj taken
        exact .queued (.flush terminal batches) named rfl
  | settle terminal =>
      dsimp only [step] at taken
      split at taken
      · cases taken
      next named =>
        obtain rfl := Option.some.inj taken
        exact .queued (.settle terminal) named rfl
  | opens control =>
      dsimp only [step] at taken
      split at taken
      · cases taken
      next granted =>
        simp only [not_or, Option.not_isSome_iff_eq_none] at granted
        obtain rfl := Option.some.inj taken
        exact .opened control granted.1 granted.2
  | ask => exact byControl taken
  | controlCommit => exact byControl taken
  | controlFail => exact byControl taken
  | skip => exact byHolder taken
  | select => exact byHolder taken
  | record now => exact byHolder taken
  | update => exact byHolder taken
  | commit => exact byHolder taken
  | finish => exact byHolder taken
  | leave => exact byHolder taken
  | fail => exact byHolder taken

/-! ### Who has the locks -/

/-- The control completion that wants `_write_lock`. -/
def wanted : Option Owner → List Job
  | some (.control control .asked) => [.control control]
  | _ => []

structure Locks (world : World) : Prop where
  controls : world.writers.filter Job.isControl = wanted world.database
  idle : world.writers = [] → world.stage = .entered
  writing : ∀ holder waiting pending, world.writers = holder :: waiting →
    holder.isControl = false → world.stage = .writing pending → world.database = some .write
  written : world.database = some .write → ∃ holder waiting pending,
    world.writers = holder :: waiting ∧ holder.isControl = false ∧ world.stage = .writing pending
  namedJob : ∀ job ∈ world.writers, job.terminal ≠ ""
  namedControl : ∀ control progress, world.database = some (.control control progress) →
    control.terminal ≠ ""

theorem initial_locks (rows : TerminalId → Row) : Locks (initial rows) := by
  constructor
  case controls => rfl
  case idle => intro _; rfl
  case writing =>
    intro holder waiting pending held
    cases held
  case written =>
    intro has
    cases has
  case namedJob =>
    intro job listed
    cases listed
  case namedControl =>
    intro control progress has
    cases has

/-- The holder is the control completion that asked. -/
theorem Locks.holder {world : World} {control : Control} {waiting : List Job} (locks : Locks world)
    (held : world.writers = .control control :: waiting) :
    world.database = some (.control control .asked) ∧ waiting.filter Job.isControl = [] := by
  have controls := locks.controls
  rw [held, List.filter_cons_of_pos rfl] at controls
  unfold wanted at controls
  split at controls
  next other has =>
    injection controls with same none
    injection same with same
    exact ⟨same ▸ has, none⟩
  · cases controls

theorem Locks.others {world : World} {holder : Job} {waiting : List Job} (locks : Locks world)
    (held : world.writers = holder :: waiting) (other : holder.isControl = false) :
    waiting.filter Job.isControl = wanted world.database := by
  have controls := locks.controls
  rw [held, List.filter_cons_of_neg (by rw [other]; exact Bool.false_ne_true)] at controls
  exact controls

theorem Locks.waiting_named {world : World} {holder : Job} {waiting : List Job}
    (locks : Locks world) (held : world.writers = holder :: waiting) :
    ∀ job ∈ waiting, job.terminal ≠ "" := by
  have named := locks.namedJob
  rw [held, List.forall_mem_cons] at named
  exact named.2

theorem Locks.not_writing {world : World} {stage : Stage} (locks : Locks world)
    (here : world.stage = stage) (other : ∀ pending, stage ≠ .writing pending) :
    world.database ≠ some .write := by
  intro has
  obtain ⟨_, _, pending, _, _, wrote⟩ := locks.written has
  exact other pending (here.symm.trans wrote)

/-- Nobody writes and nobody is inside: the lock and the database change hands. -/
theorem locks_entered {world : World} (controls : world.writers.filter Job.isControl =
      wanted world.database) (entered : world.stage = .entered)
    (free : world.database ≠ some .write) (namedJob : ∀ job ∈ world.writers, job.terminal ≠ "")
    (namedControl : ∀ control progress, world.database = some (.control control progress) →
      control.terminal ≠ "") : Locks world := by
  refine ⟨controls, fun _ => entered, ?_, ?_, namedJob, namedControl⟩
  · intro holder waiting pending _ _ wrote
    rw [entered] at wrote
    cases wrote
  · intro has
    exact absurd has free

/-- A control completion that is not waiting for `_write_lock` had the database, so no write
of the queue was under way when it let go. -/
theorem Locks.control_ends {world after : World} {control : Control} {progress : Progress}
    (locks : Locks world) (has : world.database = some (.control control progress))
    (served : wanted world.database = []) (writers : after.writers = world.writers)
    (stage : after.stage = world.stage) (free : after.database = none) : Locks after := by
  constructor
  case controls =>
    rw [writers, free]
    exact locks.controls.trans served
  case idle =>
    rw [writers, stage]
    exact locks.idle
  case writing =>
    intro holder waiting pending held other wrote
    rw [writers] at held
    rw [stage] at wrote
    have write := locks.writing holder waiting pending held other wrote
    rw [has] at write
    cases write
  case written =>
    intro write
    rw [free] at write
    cases write
  case namedJob =>
    rw [writers]
    exact locks.namedJob
  case namedControl =>
    intro _ _ held
    rw [free] at held
    cases held

theorem queued_locks {world : World} {job : Job} (locks : Locks world) (named : job.terminal ≠ "")
    (other : job.isControl = false) : Locks { world with writers := world.writers ++ [job] } := by
  have namedJob : ∀ listed ∈ world.writers ++ [job], listed.terminal ≠ "" := by
    rw [List.forall_mem_append, List.forall_mem_singleton]
    exact ⟨locks.namedJob, named⟩
  constructor
  case controls =>
    dsimp only
    rw [List.filter_append, locks.controls, List.filter_cons_of_neg (by rw [other]; exact
      Bool.false_ne_true), List.filter_nil, List.append_nil]
  case idle =>
    intro empty
    exact absurd empty (List.append_ne_nil_of_right_ne_nil _ (List.cons_ne_nil _ _))
  case writing =>
    intro holder waiting pending held queue wrote
    cases before : world.writers with
    | nil =>
        rw [locks.idle before] at wrote
        cases wrote
    | cons first rest =>
        dsimp only at held
        rw [before, List.cons_append] at held
        injection held with same _
        subst same
        exact locks.writing first rest pending before queue wrote
  case written =>
    intro has
    obtain ⟨holder, waiting, pending, held, queue, wrote⟩ := locks.written has
    refine ⟨holder, waiting ++ [job], pending, ?_, queue, wrote⟩
    dsimp only
    rw [held, List.cons_append]
  case namedJob => exact namedJob
  case namedControl => exact locks.namedControl

theorem asked_locks {world : World} {control : Control} (locks : Locks world)
    (begun : world.database = some (.control control .begun)) :
    Locks { world with
      writers := world.writers ++ [Job.control control]
      database := some (.control control .asked) } := by
  have named := locks.namedControl control .begun begun
  have namedJob : ∀ listed ∈ world.writers ++ [Job.control control], listed.terminal ≠ "" := by
    rw [List.forall_mem_append, List.forall_mem_singleton]
    exact ⟨locks.namedJob, named⟩
  constructor
  case controls =>
    dsimp only
    rw [List.filter_append, locks.controls, begun]
    rfl
  case idle =>
    intro empty
    exact absurd empty (List.append_ne_nil_of_right_ne_nil _ (List.cons_ne_nil _ _))
  case writing =>
    intro holder waiting pending held queue wrote
    cases before : world.writers with
    | nil =>
        rw [locks.idle before] at wrote
        cases wrote
    | cons first rest =>
        dsimp only at held
        rw [before, List.cons_append] at held
        injection held with same _
        subst same
        have write := locks.writing first rest pending before queue wrote
        rw [begun] at write
        cases write
  case written =>
    intro has
    cases has
  case namedJob => exact namedJob
  case namedControl =>
    intro other progress has
    injection has with has
    injection has with same _
    exact same ▸ named

theorem cancelled_locks {world : World} {control : Control} (locks : Locks world)
    (waits : world.database = some (.control control .asked))
    (outside : world.writers.head? ≠ some (.control control)) :
    Locks { world with
      writers := world.writers.filter fun job => decide (job ≠ .control control)
      database := none } := by
  have controls := locks.controls
  rw [waits] at controls
  cases before : world.writers with
  | nil =>
      rw [before] at controls
      cases controls
  | cons first rest =>
      rw [before] at outside
      have other : first ≠ .control control := fun same => outside (congrArg some same)
      have kept : (first :: rest).filter (fun job => decide (job ≠ .control control)) =
          first :: rest.filter (fun job => decide (job ≠ .control control)) :=
        List.filter_cons_of_pos (decide_eq_true other)
      constructor
      case controls =>
        rw [before] at controls
        dsimp only
        rw [List.filter_comm, controls]
        exact List.filter_cons_of_neg (by simp)
      case idle =>
        intro empty
        dsimp only at empty
        rw [kept] at empty
        cases empty
      case writing =>
        intro holder waiting pending held queue wrote
        dsimp only at held
        rw [kept] at held
        injection held with same _
        subst same
        have write := locks.writing first rest pending before queue wrote
        rw [waits] at write
        cases write
      case written =>
        intro has
        cases has
      case namedJob =>
        intro job listed
        have all := locks.namedJob
        rw [before] at all
        dsimp only at listed
        exact all job (List.mem_of_mem_filter listed)
      case namedControl =>
        intro _ _ has
        cases has

theorem giveUp_writers (world : World) (terminal : TerminalId) (waiting : List Job) :
    (world.giveUp terminal waiting).writers = waiting ∧
      (world.giveUp terminal waiting).stage = .entered := by
  unfold World.giveUp
  split <;> exact ⟨rfl, rfl⟩

theorem giveUp_database (world : World) (terminal : TerminalId) (waiting : List Job) :
    (world.giveUp terminal waiting).database = none ∧ (∃ pending, world.stage = .writing pending) ∨
      (world.giveUp terminal waiting).database = world.database ∧
        ∀ pending, world.stage ≠ .writing pending := by
  unfold World.giveUp
  cases world.stage with
  | entered => exact .inr ⟨rfl, fun _ same => by cases same⟩
  | selected row before => exact .inr ⟨rfl, fun _ same => by cases same⟩
  | recorded pending => exact .inr ⟨rfl, fun _ same => by cases same⟩
  | writing pending => exact .inl ⟨rfl, pending, rfl⟩

theorem giveUpControl_frame (world : World) (terminal : TerminalId) (waiting : List Job) :
    (world.giveUpControl terminal waiting).writers = waiting ∧
      (world.giveUpControl terminal waiting).stage = .entered ∧
      (world.giveUpControl terminal waiting).database = none := by
  unfold World.giveUpControl
  split <;> exact ⟨rfl, rfl, rfl⟩

theorem gaveUp_locks {world : World} {holder : Job} {waiting : List Job} (locks : Locks world)
    (held : world.writers = holder :: waiting) (other : holder.isControl = false) :
    Locks (world.giveUp holder.terminal waiting) := by
  obtain ⟨writers, entered⟩ := giveUp_writers world holder.terminal waiting
  have others := locks.others held other
  have named := locks.waiting_named held
  rcases giveUp_database world holder.terminal waiting with
    ⟨free, pending, wrote⟩ | ⟨same, idle⟩
  · have write := locks.writing holder waiting pending held other wrote
    refine locks_entered ?_ entered (by rw [free]; intro has; cases has)
      (by rw [writers]; exact named) ?_
    · rw [writers, others, write, free]
      rfl
    · intro control progress has
      rw [free] at has
      cases has
  · refine locks_entered ?_ entered ?_ (by rw [writers]; exact named) ?_
    · rw [writers, others, same]
    · rw [same]
      exact locks.not_writing rfl idle
    · rw [same]
      exact locks.namedControl

theorem move_locks {world after : World} {label : Label} (locks : Locks world)
    (move : Move world label after) : Locks after := by
  cases move with
  | queued job named other => exact queued_locks locks named other
  | opened control named free =>
      refine ⟨locks.controls.trans (by rw [free]; rfl), locks.idle, ?_,
        (fun has => by cases has), locks.namedJob, ?_⟩
      · intro holder waiting pending held other wrote
        have write := locks.writing holder waiting pending held other wrote
        rw [free] at write
        cases write
      · intro other progress has
        injection has with has
        injection has with same _
        exact same ▸ named
  | asked control begun => exact asked_locks locks begun
  | skipped terminal batch rest waiting held entered empty =>
      have free := locks.not_writing entered fun _ same => by cases same
      have named := locks.namedJob
      rw [held, List.forall_mem_cons] at named
      exact locks_entered ((List.filter_cons_of_neg (by simp [Job.isControl])).trans
        (locks.others held rfl)) entered free (List.forall_mem_cons.mpr named) locks.namedControl
  | selected holder waiting held other entered writes =>
      have free := locks.not_writing entered fun _ same => by cases same
      refine ⟨locks.controls, ?_, (fun _ _ _ _ _ wrote => by cases wrote),
        fun has => absurd has free, locks.namedJob, locks.namedControl⟩
      intro empty
      rw [held] at empty
      cases empty
  | released holder waiting held other entered =>
      exact locks_entered (locks.others held other) rfl
        (locks.not_writing entered fun _ same => by cases same) (locks.waiting_named held)
        locks.namedControl
  | recorded holder waiting folding held other read =>
      have free := locks.not_writing read fun _ same => by cases same
      refine ⟨locks.controls, ?_, (fun _ _ _ _ _ wrote => by cases wrote),
        fun has => absurd has free, locks.namedJob, locks.namedControl⟩
      intro empty
      have writers : world.writers = [] := empty
      rw [held] at writers
      cases writers
  | recordedControl control waiting now held entered =>
      have free := locks.not_writing entered fun _ same => by cases same
      refine ⟨locks.controls, ?_, (fun _ _ _ _ _ wrote => by cases wrote),
        fun has => absurd has free, locks.namedJob, locks.namedControl⟩
      intro empty
      have writers : world.writers = [] := empty
      rw [held] at writers
      cases writers
  | updated holder waiting pending held other issued free =>
      refine ⟨?_, ?_, fun _ _ _ _ _ _ => rfl, fun _ => ⟨holder, waiting, pending, held, other, rfl⟩,
        locks.namedJob, fun _ _ has => by cases has⟩
      · exact locks.controls.trans (by rw [free]; rfl)
      · intro empty
        rw [held] at empty
        cases empty
  | updatedControl control waiting pending held issued =>
      have free := locks.not_writing issued fun _ same => by cases same
      refine ⟨locks.controls, ?_, ?_, fun has => absurd has free, locks.namedJob,
        locks.namedControl⟩
      · intro empty
        rw [held] at empty
        cases empty
      · intro holder rest other front queue _
        rw [held] at front
        injection front with same _
        rw [← same] at queue
        cases queue
  | committed holder waiting rest pending held other wrote has left =>
      have others := locks.others held other
      have named := locks.namedJob
      rw [has] at others
      rw [held, List.forall_mem_cons] at named
      refine locks_entered ?_ rfl (fun has => by cases has) ?_ fun _ _ has => by cases has
      · rcases left with rfl | ⟨batches, rfl⟩
        · exact others
        · exact (List.filter_cons_of_neg (by simp [Job.isControl])).trans others
      · rcases left with rfl | ⟨batches, rfl⟩
        · exact named.2
        · exact List.forall_mem_cons.mpr named
  | left control waiting pending held wrote =>
      obtain ⟨has, none⟩ := locks.holder held
      refine locks_entered none rfl (fun has => by cases has) (locks.waiting_named held) ?_
      intro other progress now
      injection now with now
      injection now with same _
      exact same ▸ locks.namedControl control .asked has
  | gaveUp holder waiting held other => exact gaveUp_locks locks held other
  | gaveUpControl control waiting held =>
      obtain ⟨_, none⟩ := locks.holder held
      obtain ⟨writers, entered, free⟩ := giveUpControl_frame world control.terminal waiting
      refine locks_entered ?_ entered (by rw [free]; intro has; cases has) ?_
        (by rw [free]; intro _ _ has; cases has)
      · rw [writers, free]
        exact none
      · rw [writers]
        exact locks.waiting_named held
  | passed control begun => exact locks.control_ends begun (by rw [begun]; rfl) rfl rfl rfl
  | landed control pending has => exact locks.control_ends has (by rw [has]; rfl) rfl rfl rfl
  | dropped control begun => exact locks.control_ends begun (by rw [begun]; rfl) rfl rfl rfl
  | cancelled control waits outside => exact cancelled_locks locks waits outside
  | lost control pending has => exact locks.control_ends has (by rw [has]; rfl) rfl rfl rfl

/-- A terminal that has shown nothing yet. -/
def emptyRow : Row := ⟨"", "running", 0, []⟩

def exitControl : Control := ⟨"t", "bye", "", "running"⟩

theorem step_locks {world after : World} {label : Label} (locks : Locks world)
    (taken : step world label = some after) : Locks after := move_locks locks (step_move taken)

end AifyComms.TerminalWriters
