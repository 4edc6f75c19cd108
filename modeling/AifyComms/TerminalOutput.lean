import AifyComms.PyText
import Mathlib.Logic.Function.Basic

/-!
One append to a terminal row, from `api_core/terminal_output.py`, with the tail
buffer of `api_core/terminal_tail_buffer.py` and the status rule of
`api_core/terminal_status.py`. Times are ticks of one millisecond. `numbers` is
a ghost: the numbers of the batches whose bytes have been folded into the text
beside it. No definition reads it to decide anything.
-/

namespace AifyComms.TerminalOutput
open PyText

abbrev TerminalId := String

def activeStatuses : List String := ["starting", "attached", "running", "active", "idle"]

def monotonicStatuses : List String :=
  ["stopping", "stopped", "failed", "lost", "ended", "completed", "cancelled"]

def endStatuses : List String := ["stopped", "failed", "lost", "ended", "completed", "cancelled"]

def sessionStatuses : List String := activeStatuses ++ monotonicStatuses

/-- The status a terminal row moves to, or "" for "leave it alone". -/
def terminalStatusTransition (currentStatus nextStatus : String) : String :=
  let current := normalise currentStatus
  let nextValue := normalise nextStatus
  if nextValue = "" then ""
  else if nextValue ∉ sessionStatuses then ""
  else if current ∈ monotonicStatuses ∧ nextValue ∈ activeStatuses then ""
  else nextValue

def trimChars (maxChars : Nat) (value : List Char) : List Char :=
  if value.length ≤ maxChars then value
  else
    let tail := value.drop (value.length - maxChars)
    match tail.findIdx? (· = '\n') with
    | some newline => if newline < tail.length - 1 then tail.drop (newline + 1) else tail
    | none => tail

def trimTerminalOutput (text : String) : String := String.ofList (trimChars 65536 text.toList)

structure Row where
  output : String
  status : String
  outputSeq : Nat
  numbers : List Nat
  deriving DecidableEq

structure Tail where
  tail : String
  seq : Option Nat
  flushedAt : Nat
  dirty : Bool
  numbers : List Nat
  deriving DecidableEq

abbrev Buffers := TerminalId → Option Tail

def tailFlushInterval : Nat := 1000

def currentTail (buffers : Buffers) (terminal : TerminalId) (stored : String) : String :=
  match buffers terminal with
  | some held => held.tail
  | none => stored

def currentNumbers (buffers : Buffers) (terminal : TerminalId) (stored : List Nat) : List Nat :=
  match buffers terminal with
  | some held => held.numbers
  | none => stored

/-- The sequence describing what `currentTail` would return. -/
def currentSeq (buffers : Buffers) (terminal : TerminalId) (stored : Nat) : Nat :=
  match buffers terminal with
  | some held => held.seq.getD stored
  | none => stored

/-- Hold `tail`, and answer whether it should be written now. -/
def record (buffers : Buffers) (terminal : TerminalId) (tail : String) (seq : Option Nat)
    (numbers : List Nat) (now : Nat) : Buffers × Bool :=
  if terminal = "" then (buffers, true)
  else match buffers terminal with
    | none =>
        (Function.update buffers terminal (some ⟨tail, seq, now, false, numbers⟩), true)
    | some held =>
        if tailFlushInterval ≤ now - held.flushedAt then
          (Function.update buffers terminal
            (some ⟨tail, seq.or held.seq, now, false, numbers⟩), true)
        else
          (Function.update buffers terminal
            (some ⟨tail, seq.or held.seq, held.flushedAt, true, numbers⟩), false)

/-- What is held and not yet written. -/
def pending (buffers : Buffers) (terminal : TerminalId) : Option Tail :=
  (buffers terminal).filter fun held => held.dirty

def markFlushed (buffers : Buffers) (terminal : TerminalId) (now : Nat) : Buffers :=
  match buffers terminal with
  | some held =>
      Function.update buffers terminal (some { held with flushedAt := now, dirty := false })
  | none => buffers

def forget (buffers : Buffers) (terminal : TerminalId) : Buffers :=
  Function.update buffers terminal none

/-- The columns one UPDATE names. `numbers` goes with `output`. -/
structure RowUpdate where
  output : Option String
  outputSeq : Option Nat
  status : Option String
  numbers : List Nat

def RowUpdate.apply (update : RowUpdate) (row : Row) : Row where
  output := update.output.getD row.output
  status := update.status.getD row.status
  outputSeq := update.outputSeq.getD row.outputSeq
  numbers := if update.output.isSome then update.numbers else row.numbers

/-- The number a batch adds to the folded ones: none when it claimed no number. -/
def ownNumber (number : Nat) : List Nat := if number = 0 then [] else [number]

/-- `_append_terminal_output` up to its UPDATE: the buffer it leaves and the
columns it writes, or no write at all. `row` is the row the caller read. -/
def appendTerminalOutput (buffers : Buffers) (terminal : TerminalId) (row : Row)
    (chunk status : String) (seq : Option Nat) (settle : Bool) (number now : Nat) :
    Buffers × Option RowUpdate :=
  if chunk = "" ∧ status = "" ∧ settle = false then (buffers, none)
  else if settle = true ∧ pending buffers terminal = none then (buffers, none)
  else
    let nextOutput := trimTerminalOutput (currentTail buffers terminal row.output ++ chunk)
    let nextNumbers := currentNumbers buffers terminal row.numbers ++ ownNumber number
    let nextStatus := terminalStatusTransition row.status status
    let ending := decide (nextStatus ∈ endStatuses)
    let recorded := record buffers terminal nextOutput seq nextNumbers now
    -- `output` and `output_seq` go into the row together or not at all.
    let writeTail := recorded.2 || ending || settle
    let flushed := if writeTail then markFlushed recorded.1 terminal now else recorded.1
    -- The final tail of an ended terminal is in the row, so nothing is held any longer.
    let kept := if ending then forget flushed terminal else flushed
    (kept, some
      { output := if writeTail then some nextOutput else none
        outputSeq := if writeTail then seq else none
        status := if nextStatus ≠ "" ∧ nextStatus ≠ row.status then some nextStatus else none
        numbers := nextNumbers })

/-- `seq or int(terminal["output_seq"] or 0)`. -/
def seqOrRow (seq : Option Nat) (row : Row) : Nat :=
  match seq with
  | some number => if number = 0 then row.outputSeq else number
  | none => row.outputSeq

/-! ### The buffers of other terminals -/

theorem record_other (buffers : Buffers) (terminal other : TerminalId) (tail : String)
    (seq : Option Nat) (numbers : List Nat) (now : Nat) (different : other ≠ terminal) :
    (record buffers terminal tail seq numbers now).1 other = buffers other := by
  unfold record
  split
  · rfl
  · split
    · exact Function.update_of_ne different _ _
    · split <;> exact Function.update_of_ne different _ _

theorem markFlushed_other (buffers : Buffers) (terminal other : TerminalId) (now : Nat)
    (different : other ≠ terminal) : markFlushed buffers terminal now other = buffers other := by
  unfold markFlushed
  cases buffers terminal with
  | none => rfl
  | some held => exact Function.update_of_ne different _ _

theorem markFlushed_self (buffers : Buffers) (terminal : TerminalId) (now : Nat) :
    markFlushed buffers terminal now terminal = (buffers terminal).map
      fun held => { held with flushedAt := now, dirty := false } := by
  unfold markFlushed
  cases holding : buffers terminal with
  | none => simp [holding]
  | some held => simp

theorem appendTerminalOutput_other (buffers : Buffers) {terminal other : TerminalId} (row : Row)
    (chunk status : String) (seq : Option Nat) (settle : Bool) (number now : Nat)
    (different : other ≠ terminal) :
    (appendTerminalOutput buffers terminal row chunk status seq settle number now).1 other =
      buffers other := by
  unfold appendTerminalOutput
  split
  · rfl
  split
  · rfl
  generalize trimTerminalOutput (currentTail buffers terminal row.output ++ chunk) = tail
  generalize currentNumbers buffers terminal row.numbers ++ ownNumber number = numbers
  dsimp only
  have recorded := record_other buffers terminal other tail seq numbers now different
  have flushed := (markFlushed_other (record buffers terminal tail seq numbers now).1 terminal other
    now different).trans recorded
  split
  · refine (Function.update_of_ne different ..).trans ?_
    split
    · exact flushed
    · exact recorded
  · split
    · exact flushed
    · exact recorded

/-! ### What one append leaves behind -/

/-- What an append leaves of a tail: the buffer holds it, or the terminal ended and the
UPDATE has it; a tail that is not dirty is in the UPDATE too. -/
structure Folds (tail : String) (numbers : List Nat) (ended : Prop) (after : Option Tail)
    (update : RowUpdate) : Prop where
  numbered : update.numbers = numbers
  held : ∀ kept, after = some kept → kept.tail = tail ∧ kept.numbers = numbers ∧
    (kept.dirty = false → update.output = some tail)
  dropped : after = none → update.output = some tail ∧ ended

theorem record_holds (buffers : Buffers) {terminal : TerminalId} (named : terminal ≠ "")
    (tail : String) (seq : Option Nat) (numbers : List Nat) (now : Nat) :
    ∃ held, (record buffers terminal tail seq numbers now).1 terminal = some held ∧
      held.tail = tail ∧ held.numbers = numbers ∧
      held.dirty = !(record buffers terminal tail seq numbers now).2 := by
  unfold record
  rw [if_neg named]
  split
  · exact ⟨_, Function.update_self .., rfl, rfl, rfl⟩
  · split
    · exact ⟨_, Function.update_self .., rfl, rfl, rfl⟩
    · exact ⟨_, Function.update_self .., rfl, rfl, rfl⟩

/-- An append does nothing, or folds the chunk into the tail under its number. -/
theorem appendTerminalOutput_folds (buffers : Buffers) {terminal : TerminalId}
    (named : terminal ≠ "") (row : Row) (chunk status : String) (seq : Option Nat) (settle : Bool)
    (number now : Nat) :
    appendTerminalOutput buffers terminal row chunk status seq settle number now =
        (buffers, none) ∨
      ∃ update,
        (appendTerminalOutput buffers terminal row chunk status seq settle number now).2 =
          some update ∧
        Folds (trimTerminalOutput (currentTail buffers terminal row.output ++ chunk))
          (currentNumbers buffers terminal row.numbers ++ ownNumber number)
          (terminalStatusTransition row.status status ∈ endStatuses)
          ((appendTerminalOutput buffers terminal row chunk status seq settle number now).1 terminal)
          update := by
  unfold appendTerminalOutput
  split
  · exact .inl rfl
  split
  · exact .inl rfl
  refine .inr ⟨_, rfl, ?_⟩
  generalize trimTerminalOutput (currentTail buffers terminal row.output ++ chunk) = folded
  generalize currentNumbers buffers terminal row.numbers ++ ownNumber number = folding
  obtain ⟨held, holds, tail, numbers, dirty⟩ := record_holds buffers named folded seq folding now
  dsimp only
  have flushed := markFlushed_self (record buffers terminal folded seq folding now).1 terminal now
  rw [holds] at flushed
  generalize record buffers terminal folded seq folding now = recorded at *
  by_cases ending : terminalStatusTransition row.status status ∈ endStatuses
  · -- The final tail of an ended terminal is in the UPDATE and in no buffer.
    simp only [ending, decide_true, Bool.or_true, Bool.true_or, if_true]
    refine ⟨rfl, ?_, fun _ => ⟨rfl, trivial⟩⟩
    intro kept same
    rw [forget, Function.update_self] at same
    cases same
  · simp only [ending, decide_false, Bool.or_false, Bool.false_eq_true, if_false]
    by_cases writes : (recorded.2 || settle) = true
    · simp only [writes, if_true]
      rw [flushed]
      refine ⟨rfl, ?_, nofun⟩
      intro kept same
      obtain rfl := Option.some.inj same
      exact ⟨tail, numbers, fun _ => rfl⟩
    · simp only [writes]
      refine ⟨rfl, ?_, ?_⟩
      · intro kept same
        have same : recorded.1 terminal = some kept := same
        obtain rfl := Option.some.inj (holds.symm.trans same)
        refine ⟨tail, numbers, fun clean => ?_⟩
        have due : recorded.2 = true := by
          cases late : recorded.2 with
          | true => rfl
          | false =>
              rw [late, clean] at dirty
              cases dirty
        rw [due] at writes
        exact absurd rfl writes
      · intro same
        have same : recorded.1 terminal = none := same
        rw [holds] at same
        cases same

end AifyComms.TerminalOutput
