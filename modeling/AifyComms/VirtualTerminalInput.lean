import AifyComms.Runs
import Mathlib.Data.List.DropRight

/-!
What is typed into a terminal that has no process behind it, `createVirtualTerminalInputManager`
(`virtual-terminal-input.js`): keystrokes gather per terminal until a line end, and each
complete line is handed to `dispatch`, one at a time.

Texts are lists of UTF-16 units, as `length` and `slice` count them. A call of `drain` runs
up to its first `await` at once and goes on when the dispatch it waits for has settled, with
or without an error, so appends, removals and the drains of other terminals come between any
two lines.
-/

namespace AifyComms.VirtualTerminalInput
open Runs

abbrev Units := List Nat

/-! ### Lines -/

def carriageReturn : Nat := 0x0d

def lineFeed : Nat := 0x0a

def isEnd (unit : Nat) : Bool := unit == carriageReturn || unit == lineFeed

/-- `/\r\n|\r|\n/.exec(buffer)`: what stands before the first match, and what after it. -/
def firstLine : Units → Option (Units × Units)
  | [] => none
  | unit :: rest =>
      if unit = carriageReturn then
        some ([], if rest.head? = some lineFeed then rest.tail else rest)
      else if unit = lineFeed then some ([], rest)
      else (firstLine rest).map fun found => (unit :: found.1, found.2)

/-- The loop of `drain`: the lines that are not empty, and what is left in the buffer. -/
def takeLines : Nat → Units → List Units × Units
  | 0, buffer => ([], buffer)
  | fuel + 1, buffer =>
      match firstLine buffer with
      | none => ([], buffer)
      | some (line, rest) =>
          let later := takeLines fuel rest
          (if 0 < line.length then line :: later.1 else later.1, later.2)

/-- A text read on from the part `begun` of a line: the lines that a line end finishes and
that are not empty, and what is begun after the last line end. -/
def readOn (begun : Units) : Units → List Units × Units
  | [] => ([], begun)
  | unit :: rest =>
      if isEnd unit then
        let later := readOn [] rest
        (if begun = [] then later.1 else begun :: later.1, later.2)
      else readOn (begun ++ [unit]) rest

def finished (text : Units) : List Units := (readOn [] text).1

def unfinished (text : Units) : Units := (readOn [] text).2

/-! ### The manager -/

/-- An entry of `buffers`, with the terminal it was made for. -/
structure Entry where
  terminal : String
  agentId : String
  buffer : Units
  dispatching : Bool
  deriving DecidableEq

/-- A call of `drain` that waits for a dispatch, with the lines it has yet to hand over. -/
structure Drain where
  terminal : String
  entry : Nat
  later : List Units
  deriving DecidableEq

/-- A call of `dispatch`, and the entry whose line it was. -/
structure Dispatch where
  entry : Nat
  agentId : String
  line : Units
  deriving DecidableEq

/-- `buffers`, the entries made so far by number, the calls of `drain` that are waiting, the
calls of `dispatch` in their order, and all that was ever typed into each entry. -/
structure World where
  buffers : String → Option Nat
  entries : Nat → Entry
  made : Nat
  drains : Nat → Option Drain
  begun : Nat
  handed : List Dispatch
  typed : Nat → Units

def World.setEntry (world : World) (number : Nat) (entry : Entry) : World :=
  { world with entries := Function.update world.entries number entry }

/-- `dispatch(entry.agentId, line)`, with the agent the entry names by then. -/
def World.hand (world : World) (number : Nat) (line : Units) : World :=
  { world with handed := world.handed ++ [⟨number, (world.entries number).agentId, line⟩] }

/-- `for (const line of submissions)`, up to the first `await`. -/
def World.begin (world : World) (terminal : String) (number : Nat) (line : Units)
    (later : List Units) : World :=
  { (world.setEntry number { world.entries number with dispatching := true }).hand number line with
    drains := Function.update world.drains world.begun (some ⟨terminal, number, later⟩)
    begun := world.begun + 1 }

def drain (world : World) (terminal : String) : World :=
  match world.buffers terminal with
  | none => world
  | some number =>
      let entry := world.entries number
      if entry.dispatching then world
      else
        let taken := takeLines entry.buffer.length entry.buffer
        let emptied := world.setEntry number { entry with buffer := taken.2 }
        match taken.1 with
        | [] => emptied
        | line :: later => emptied.begin terminal number line later

/-- `buffer.slice(-maxBufferChars)`, where `slice(-0)` takes everything. -/
def lastUnits (most : Nat) (buffer : Units) : Units :=
  if most = 0 then buffer else buffer.drop (buffer.length - most)

def World.openEntry (world : World) (agentId terminal : String) : World × Nat :=
  match world.buffers terminal with
  | some number => (world, number)
  | none =>
      ({ world.setEntry world.made ⟨terminal, agentId, [], false⟩ with
          buffers := Function.update world.buffers terminal (some world.made)
          made := world.made + 1
          typed := Function.update world.typed world.made [] }, world.made)

/-- An entry after a chunk: `agentId || entry.agentId`, and the buffer cut to its last
`maxBufferChars` units when it is longer. -/
def Entry.more (most : Nat) (agentId : String) (chunk : Units) (entry : Entry) : Entry :=
  let buffer := entry.buffer ++ chunk
  { entry with
    agentId := if agentId = "" then entry.agentId else agentId
    buffer := if most < buffer.length then lastUnits most buffer else buffer }

def World.type (world : World) (most : Nat) (number : Nat) (agentId : String) (chunk : Units) :
    World :=
  { world.setEntry number ((world.entries number).more most agentId chunk) with
    typed := Function.update world.typed number (world.typed number ++ chunk) }

def append (most : Nat) (world : World) (agentId terminal : String) (chunk : Units) : World :=
  if terminal = "" then world
  else
    let opened := world.openEntry agentId terminal
    drain (opened.1.type most opened.2 agentId chunk) terminal

/-- `finally`. -/
def World.ended (world : World) (activation : Nat) (ending : Drain) : World :=
  { world.setEntry ending.entry { world.entries ending.entry with dispatching := false } with
    drains := Function.update world.drains activation none }

/-- The end of a drain, which drains again what arrived meanwhile. -/
def World.finish (world : World) (activation : Nat) (ending : Drain) : World :=
  let ended := world.ended activation ending
  match ended.buffers ending.terminal with
  | none => ended
  | some after =>
      if (ended.entries after).buffer.any isEnd then drain ended ending.terminal else ended

/-- The next round of the loop. -/
def World.goOn (world : World) (activation : Nat) (drain : Drain) (line : Units)
    (later : List Units) : World :=
  { world.hand drain.entry line with
    drains := Function.update world.drains activation (some { drain with later }) }

inductive Label where
  | append (agentId terminal : String) (chunk : Units)
  | settle (activation : Nat)
  | remove (terminal : String)
  | clear

/-- `settle` is the continuation of a drain whose dispatch has settled. -/
def step (most : Nat) (world : World) : Label → Option World
  | .append agentId terminal chunk => some (append most world agentId terminal chunk)
  | .settle activation => (world.drains activation).map fun drain =>
      match drain.later with
      | line :: later => world.goOn activation drain line later
      | [] => world.finish activation drain
  | .remove terminal =>
      some { world with buffers := Function.update world.buffers terminal none }
  | .clear => some { world with buffers := fun _ => none }

def initial : World where
  buffers _ := none
  entries _ := ⟨"", "", [], false⟩
  made := 0
  drains _ := none
  begun := 0
  handed := []
  typed _ := []

/-! ### What was typed, line by line -/

theorem readOn_end {unit : Nat} (ends : isEnd unit = true) (begun rest : Units) :
    readOn begun (unit :: rest) =
      (if begun = [] then (readOn [] rest).1 else begun :: (readOn [] rest).1,
        (readOn [] rest).2) :=
  if_pos ends

theorem readOn_unit {unit : Nat} (plain : ¬ isEnd unit = true) (begun rest : Units) :
    readOn begun (unit :: rest) = readOn (begun ++ [unit]) rest :=
  if_neg plain

theorem readOn_append (begun first second : Units) :
    readOn begun (first ++ second) =
      ((readOn begun first).1 ++ (readOn (readOn begun first).2 second).1,
        (readOn (readOn begun first).2 second).2) := by
  induction first generalizing begun with
  | nil => rfl
  | cons unit rest ih =>
      by_cases ends : isEnd unit = true
      · by_cases blank : begun = []
        · simp [readOn_end ends, blank, ih]
        · simp [readOn_end ends, blank, ih]
      · simp [readOn_unit ends, ih]

theorem readOn_plain (begun text : Units) (plain : text.any isEnd = false) :
    readOn begun text = ([], begun ++ text) := by
  induction text generalizing begun with
  | nil => rw [readOn, List.append_nil]
  | cons unit rest ih =>
      rw [List.any_cons, Bool.or_eq_false_iff] at plain
      simp [readOn_unit (Bool.eq_false_iff.mp plain.1), ih _ plain.2]

theorem readOn_left (begun text : Units) (plain : begun.any isEnd = false) :
    (readOn begun text).2.any isEnd = false := by
  induction text generalizing begun with
  | nil => exact plain
  | cons unit rest ih =>
      by_cases ends : isEnd unit = true
      · simpa [readOn_end ends] using ih [] rfl
      · have longer : (begun ++ [unit]).any isEnd = false := by
          simp [List.any_append, plain, ends]
        simpa [readOn_unit ends] using ih _ longer

theorem unfinished_plain (text : Units) : (unfinished text).any isEnd = false :=
  readOn_left [] text rfl

/-- A chunk finishes the line that was begun, whatever was cut before it. -/
theorem finished_append (first second : Units) :
    finished (first ++ second) = finished first ++ finished (unfinished first ++ second) := by
  rw [finished, finished, finished, readOn_append, readOn_append [] (unfinished first),
    readOn_plain [] (unfinished first) (unfinished_plain first)]
  rfl

theorem unfinished_append (first second : Units) :
    unfinished (first ++ second) = unfinished (unfinished first ++ second) := by
  rw [unfinished, unfinished, readOn_append, readOn_append [] (unfinished first),
    readOn_plain [] (unfinished first) (unfinished_plain first)]
  rfl

theorem firstLine_none {buffer : Units} (nothing : firstLine buffer = none) :
    buffer.any isEnd = false := by
  induction buffer with
  | nil => rfl
  | cons unit rest ih =>
      rw [firstLine] at nothing
      split at nothing
      · cases nothing
      · next notReturn =>
        split at nothing
        · cases nothing
        · next notFeed =>
          rw [Option.map_eq_none_iff] at nothing
          simp [isEnd, notReturn, notFeed, ih nothing]

/-- One round of the loop reads the text up to the line end that it found. -/
theorem firstLine_some {buffer line rest : Units} (found : firstLine buffer = some (line, rest))
    (begun : Units) :
    rest.length < buffer.length ∧ readOn begun buffer =
      (if begun ++ line = [] then (readOn [] rest).1 else (begun ++ line) :: (readOn [] rest).1,
        (readOn [] rest).2) := by
  induction buffer generalizing begun line with
  | nil => cases found
  | cons unit after ih =>
      rw [firstLine] at found
      split at found
      · next isReturn =>
        obtain ⟨rfl, rfl⟩ := Prod.mk.inj (Option.some.inj found)
        have ends : isEnd unit = true := by simp [isEnd, isReturn]
        split
        · next feed =>
          obtain ⟨tail, rfl⟩ := List.head?_eq_some_iff.mp feed
          -- The line feed of a pair ends an empty line, which nobody counts.
          have pair : readOn [] (lineFeed :: tail) = readOn [] tail := by
            simp [readOn, isEnd]
          refine ⟨by simp only [List.tail_cons, List.length_cons]; omega, ?_⟩
          simp only [readOn_end ends, List.append_nil, List.tail_cons, pair]
        · refine ⟨Nat.lt_succ_self _, ?_⟩
          simp only [readOn_end ends, List.append_nil]
      · split at found
        · next isFeed =>
          obtain ⟨rfl, rfl⟩ := Prod.mk.inj (Option.some.inj found)
          have ends : isEnd unit = true := by simp [isEnd, isFeed]
          refine ⟨Nat.lt_succ_self _, ?_⟩
          simp only [readOn_end ends, List.append_nil]
        · next notReturn notFeed =>
          obtain ⟨⟨inner, left⟩, innerFound, same⟩ := Option.map_eq_some_iff.mp found
          obtain ⟨rfl, rfl⟩ := Prod.mk.inj same
          have plain : isEnd unit = false := by simp [isEnd, notReturn, notFeed]
          obtain ⟨shorter, read⟩ := ih innerFound (begun ++ [unit])
          refine ⟨Nat.lt_succ_of_lt shorter, ?_⟩
          rw [readOn_unit (Bool.eq_false_iff.mp plain), read, List.append_assoc,
            List.singleton_append]

theorem takeLines_eq (fuel : Nat) (buffer : Units) (enough : buffer.length ≤ fuel) :
    takeLines fuel buffer = (finished buffer, unfinished buffer) := by
  induction fuel generalizing buffer with
  | zero =>
      rw [List.length_eq_zero_iff.mp (Nat.le_zero.mp enough)]
      rfl
  | succ fuel ih =>
      rw [takeLines]
      split
      · next nothing =>
        rw [finished, unfinished, readOn_plain [] buffer (firstLine_none nothing)]
        rfl
      · next line rest found =>
        obtain ⟨shorter, read⟩ := firstLine_some found []
        rw [ih rest (by omega), finished, unfinished, finished, unfinished, read]
        simp only [List.nil_append, List.length_pos_iff, ne_eq, ite_not]

theorem finished_plain {text : Units} (plain : text.any isEnd = false) : finished text = [] := by
  rw [finished, readOn_plain [] text plain]

theorem unfinished_of_plain {text : Units} (plain : text.any isEnd = false) :
    unfinished text = text := by
  rw [unfinished, readOn_plain [] text plain, List.nil_append]

/-! ### One step -/

theorem drain_cases (world : World) (terminal : String) :
    (drain world terminal = world ∧
        ∀ number, world.buffers terminal = some number →
          (world.entries number).dispatching = true) ∨
      ∃ number, world.buffers terminal = some number ∧
        (world.entries number).dispatching = false ∧
        ((finished (world.entries number).buffer = [] ∧
            drain world terminal = world.setEntry number
              { world.entries number with buffer := unfinished (world.entries number).buffer }) ∨
          ∃ line later, finished (world.entries number).buffer = line :: later ∧
            drain world terminal = (world.setEntry number
              { world.entries number with
                buffer := unfinished (world.entries number).buffer }).begin terminal number line
                later) := by
  cases held : world.buffers terminal with
  | none =>
      have same : drain world terminal = world := by simp only [drain, held]
      exact .inl ⟨same, fun _ impossible => nomatch impossible⟩
  | some number =>
      cases busy : (world.entries number).dispatching with
      | true =>
          have same : drain world terminal = world := by simp [drain, held, busy]
          exact .inl ⟨same, fun _ found => Option.some.inj found ▸ busy⟩
      | false =>
          have read := takeLines_eq _ (world.entries number).buffer (Nat.le_refl _)
          refine .inr ⟨number, rfl, busy, ?_⟩
          cases lines : finished (world.entries number).buffer with
          | nil => exact .inl ⟨rfl, by simp [drain, held, busy, read, lines]⟩
          | cons line later =>
              exact .inr ⟨line, later, rfl, by simp [drain, held, busy, read, lines]⟩

def World.linesOf (world : World) (number : Nat) : List Units :=
  (world.handed.filter fun call => decide (call.entry = number)).map Dispatch.line

theorem linesOf_hand (world : World) (number other : Nat) (line : Units) :
    (world.hand number line).linesOf other =
      world.linesOf other ++ if number = other then [line] else [] := by
  by_cases same : number = other
  · simp [World.linesOf, World.hand, same]
  · simp [World.linesOf, World.hand, same]

@[simp] theorem linesOf_begin (world : World) (terminal : String) (number other : Nat)
    (line : Units) (later : List Units) :
    (world.begin terminal number line later).linesOf other =
      world.linesOf other ++ if number = other then [line] else [] :=
  linesOf_hand _ number other line

@[simp] theorem linesOf_setEntry (world : World) (number other : Nat) (entry : Entry) :
    (world.setEntry number entry).linesOf other = world.linesOf other := rfl

/-- A drain of another entry begins, goes on or ends. -/
theorem drains_other {table : Nat → Option Drain} {moved number : Nat} {now : Option Drain}
    (before : ∀ {drain}, table moved = some drain → drain.entry ≠ number)
    (after : ∀ {drain}, now = some drain → drain.entry ≠ number) (activation : Nat)
    (drain : Drain) (own : drain.entry = number) :
    Function.update table moved now activation = some drain ↔ table activation = some drain := by
  by_cases same : activation = moved
  · subst same
    rw [Function.update_self]
    exact ⟨fun found => absurd own (after found), fun found => absurd own (before found)⟩
  · rw [Function.update_of_ne same]

/-- The drains that wait for lines of an entry: one while it is dispatching, none otherwise. -/
structure Single (world : World) (number : Nat) (waiting : List Units) : Prop where
  alone : ∀ {activation drain}, world.drains activation = some drain → drain.entry = number →
    (world.entries number).dispatching = true ∧ waiting = drain.later ∧
      drain.terminal = (world.entries number).terminal ∧
      ∀ {other second}, world.drains other = some second → second.entry = number →
        other = activation
  busy : (world.entries number).dispatching = true →
    ∃ activation drain, world.drains activation = some drain ∧ drain.entry = number
  idle : (world.entries number).dispatching = false → waiting = []

/-- Everything typed into an entry was handed over, is waiting for a drain, or is still in the
buffer. -/
structure Accounted (world : World) (number : Nat) : Prop where
  lines : ∃ waiting, Single world number waiting ∧
    finished (world.typed number) =
      world.linesOf number ++ waiting ++ finished (world.entries number).buffer
  tail : unfinished (world.typed number) = unfinished (world.entries number).buffer

structure Wired (world : World) : Prop where
  home : ∀ {terminal number}, world.buffers terminal = some number →
    number < world.made ∧ (world.entries number).terminal = terminal
  old : ∀ {activation drain}, world.drains activation = some drain →
    activation < world.begun ∧ drain.entry < world.made
  fresh : ∀ {call}, call ∈ world.handed → call.entry < world.made
  accounted : ∀ number, Accounted world number

/-- An entry whose terminal is open and that is not dispatching holds no complete line. -/
def Read (world : World) (number : Nat) : Prop :=
  ∀ terminal, world.buffers terminal = some number →
    (world.entries number).dispatching = false → (world.entries number).buffer.any isEnd = false

section Keeps
variable {world next : World} {number : Nat}

theorem Single.kept {waiting : List Units} (single : Single world number waiting)
    (drains : ∀ activation drain, drain.entry = number →
      (next.drains activation = some drain ↔ world.drains activation = some drain))
    (dispatching : (next.entries number).dispatching = (world.entries number).dispatching)
    (terminal : (next.entries number).terminal = (world.entries number).terminal) :
    Single next number waiting := by
  constructor
  · intro activation drain found own
    have earlier := single.alone ((drains activation drain own).mp found) own
    rw [dispatching, terminal]
    refine ⟨earlier.1, earlier.2.1, earlier.2.2.1, ?_⟩
    intro other second otherFound otherOwn
    exact earlier.2.2.2 ((drains other second otherOwn).mp otherFound) otherOwn
  · intro busy
    rw [dispatching] at busy
    obtain ⟨activation, drain, found, own⟩ := single.busy busy
    exact ⟨activation, drain, (drains activation drain own).mpr found, own⟩
  · intro idle
    rw [dispatching] at idle
    exact single.idle idle

/-- A step that concerns another entry. -/
theorem Accounted.kept (accounted : Accounted world number)
    (drains : ∀ activation drain, drain.entry = number →
      (next.drains activation = some drain ↔ world.drains activation = some drain))
    (entry : next.entries number = world.entries number)
    (typed : next.typed number = world.typed number)
    (lines : next.linesOf number = world.linesOf number) : Accounted next number := by
  obtain ⟨waiting, single, whole⟩ := accounted.lines
  constructor
  · refine ⟨waiting, single.kept drains (by rw [entry]) (by rw [entry]), ?_⟩
    rw [typed, lines, entry]
    exact whole
  · rw [typed, entry]
    exact accounted.tail

theorem Accounted.emptied (accounted : Accounted world number)
    (nothing : finished (world.entries number).buffer = []) :
    Accounted (world.setEntry number
      { world.entries number with buffer := unfinished (world.entries number).buffer }) number := by
  have plain := unfinished_plain (world.entries number).buffer
  obtain ⟨waiting, single, whole⟩ := accounted.lines
  constructor
  · refine ⟨waiting, single.kept (fun _ _ _ => Iff.rfl) ?_ ?_, ?_⟩
    · simp [World.setEntry]
    · simp [World.setEntry]
    · rw [nothing] at whole
      simpa [World.setEntry, World.linesOf, finished_plain plain] using whole
  · have tail := accounted.tail
    simpa [World.setEntry, unfinished_of_plain plain] using tail

/-- A drain takes all complete lines of the buffer and hands the first one over. -/
theorem Accounted.begun (wired : Wired world) (terminal : String)
    (held : world.buffers terminal = some number)
    (idle : (world.entries number).dispatching = false) {line : Units} {later : List Units}
    (taken : finished (world.entries number).buffer = line :: later) :
    Accounted ((world.setEntry number
      { world.entries number with
        buffer := unfinished (world.entries number).buffer }).begin terminal number line later)
      number := by
  have plain := unfinished_plain (world.entries number).buffer
  obtain ⟨waiting, single, whole⟩ := (wired.accounted number).lines
  have none : ∀ {activation drain}, world.drains activation = some drain →
      drain.entry ≠ number := by
    intro activation drain found own
    rw [(single.alone found own).1] at idle
    cases idle
  constructor
  · refine ⟨later, ⟨?_, ?_, ?_⟩, ?_⟩
    · intro activation drain found own
      rcases update_some found with ⟨rfl, same⟩ | earlier
      · cases same
        refine ⟨by simp [World.begin, World.setEntry, World.hand], rfl, ?_, ?_⟩
        · simp [World.begin, World.setEntry, World.hand, (wired.home held).2]
        · intro other second otherFound otherOwn
          rcases update_some otherFound with ⟨same, _⟩ | earlier
          · exact same
          · exact absurd otherOwn (none earlier)
      · exact absurd own (none earlier)
    · intro _
      exact ⟨world.begun, _, Function.update_self .., rfl⟩
    · intro stillIdle
      simp [World.begin, World.setEntry, World.hand] at stillIdle
    · have empty := single.idle idle
      rw [taken, empty] at whole
      simpa [World.begin, World.setEntry, World.hand, World.linesOf, finished_plain plain]
        using whole
  · have tail := (wired.accounted number).tail
    simpa [World.begin, World.setEntry, World.hand, unfinished_of_plain plain] using tail

theorem drain_wired (wired : Wired world) (terminal : String) : Wired (drain world terminal) := by
  rcases drain_cases world terminal with ⟨same, _⟩ | ⟨number, held, idle, ⟨nothing, emptied⟩ |
    ⟨line, later, taken, begun⟩⟩
  · rw [same]
    exact wired
  · rw [emptied]
    refine ⟨?_, wired.old, wired.fresh, ?_⟩
    · intro place other held
      have home := wired.home held
      by_cases same : other = number
      · subst same
        simpa [World.setEntry] using home
      · simpa [World.setEntry, Function.update_of_ne same] using home
    · intro other
      by_cases same : other = number
      · subst same
        exact (wired.accounted other).emptied nothing
      · exact (wired.accounted other).kept (fun _ _ _ => Iff.rfl) (Function.update_of_ne same ..)
          rfl rfl
  · rw [begun]
    refine ⟨?_, ?_, ?_, ?_⟩
    · intro place other held
      have home := wired.home held
      by_cases same : other = number
      · subst same
        simpa [World.begin, World.setEntry, World.hand] using home
      · simpa [World.begin, World.setEntry, World.hand, Function.update_of_ne same] using home
    · intro activation drain found
      rcases update_some found with ⟨rfl, same⟩ | earlier
      · cases same
        exact ⟨Nat.lt_succ_self _, (wired.home held).1⟩
      · exact ⟨Nat.lt_succ_of_lt (wired.old earlier).1, (wired.old earlier).2⟩
    · intro call member
      rcases List.mem_append.mp member with earlier | last
      · exact wired.fresh earlier
      · rw [List.mem_singleton.mp last]
        exact (wired.home held).1
    · intro other
      by_cases same : other = number
      · subst same
        exact Accounted.begun wired terminal held idle taken
      · have unused : ∀ {drain}, world.drains world.begun = some drain → drain.entry ≠ other :=
          fun found => absurd (wired.old found).1 (Nat.lt_irrefl _)
        refine (wired.accounted other).kept (drains_other unused ?_) ?_ rfl ?_
        · intro drain started
          rw [← Option.some.inj started]
          exact Ne.symm same
        · simp [World.begin, World.setEntry, World.hand, Function.update_of_ne same]
        · simp [Ne.symm same]

/-- After a drain of its terminal no entry is left with a complete line. -/
theorem drain_read (terminal : String)
    (read : ∀ other, world.buffers terminal ≠ some other → Read world other) (number : Nat) :
    Read (drain world terminal) number := by
  intro place placed idle
  rcases drain_cases world terminal with ⟨same, busy⟩ | ⟨held, own, stopped, ⟨nothing, emptied⟩ |
    ⟨line, later, taken, begun⟩⟩
  · rw [same] at placed idle ⊢
    by_cases here : world.buffers terminal = some number
    · rw [busy number here] at idle
      cases idle
    · exact read number here place placed idle
  · rw [emptied] at placed idle ⊢
    by_cases same : number = held
    · subst same
      simpa [World.setEntry] using unfinished_plain (world.entries number).buffer
    · have elsewhere : world.buffers terminal ≠ some number := by
        rw [own]
        exact fun equal => same (Option.some.inj equal).symm
      simp only [World.setEntry, Function.update_of_ne same] at idle ⊢
      exact read number elsewhere place placed idle
  · rw [begun] at placed idle ⊢
    by_cases same : number = held
    · subst same
      simp [World.begin, World.setEntry, World.hand] at idle
    · have elsewhere : world.buffers terminal ≠ some number := by
        rw [own]
        exact fun equal => same (Option.some.inj equal).symm
      simp only [World.begin, World.setEntry, World.hand, Function.update_of_ne same] at idle ⊢
      exact read number elsewhere place placed idle

/-- What a terminal has typed and nobody has read. -/
def World.pending (world : World) (terminal : String) : Units :=
  match world.buffers terminal with
  | some number => (world.entries number).buffer
  | none => []

theorem openEntry_wired (wired : Wired world) (agentId terminal : String) :
    Wired (world.openEntry agentId terminal).1 := by
  cases held : world.buffers terminal with
  | some number =>
      simp only [World.openEntry, held]
      exact wired
  | none =>
      simp only [World.openEntry, held]
      refine ⟨?_, ?_, ?_, ?_⟩
      · intro place number found
        rcases update_some found with ⟨rfl, same⟩ | earlier
        · cases same
          exact ⟨Nat.lt_succ_self _, by simp [World.setEntry]⟩
        · have home := wired.home earlier
          refine ⟨Nat.lt_succ_of_lt home.1, ?_⟩
          simpa [World.setEntry, Function.update_of_ne (Nat.ne_of_lt home.1)] using home.2
      · intro activation drain found
        exact ⟨(wired.old found).1, Nat.lt_succ_of_lt (wired.old found).2⟩
      · intro call member
        exact Nat.lt_succ_of_lt (wired.fresh member)
      · intro number
        by_cases new : number = world.made
        · subst new
          have unread : world.linesOf world.made = [] := by
            rw [World.linesOf, List.map_eq_nil_iff, List.filter_eq_nil_iff]
            intro call member
            simpa using Nat.ne_of_lt (wired.fresh member)
          constructor
          · refine ⟨[], ⟨?_, ?_, fun _ => rfl⟩, ?_⟩
            · intro activation drain found own
              exact absurd own (Nat.ne_of_lt (wired.old found).2)
            · intro busy
              simp [World.setEntry] at busy
            · simpa [World.setEntry, World.linesOf, finished, readOn] using unread
          · simp [World.setEntry]
        · exact (wired.accounted number).kept (fun _ _ _ => Iff.rfl)
            (Function.update_of_ne new ..) (Function.update_of_ne new ..) rfl

theorem openEntry_held (world : World) (agentId terminal : String) :
    (world.openEntry agentId terminal).1.buffers terminal =
        some (world.openEntry agentId terminal).2 ∧
      ((world.openEntry agentId terminal).1.entries
        (world.openEntry agentId terminal).2).buffer = world.pending terminal := by
  cases held : world.buffers terminal with
  | some number => simp [World.openEntry, World.pending, held]
  | none => simp [World.openEntry, World.pending, held, World.setEntry]

theorem openEntry_read (wired : Wired world) (read : ∀ other, Read world other)
    (agentId terminal : String) (other : Nat)
    (elsewhere : (world.openEntry agentId terminal).1.buffers terminal ≠ some other) :
    Read (world.openEntry agentId terminal).1 other := by
  cases held : world.buffers terminal with
  | some number =>
      simp only [World.openEntry, held]
      exact read other
  | none =>
      simp only [World.openEntry, held] at elsewhere ⊢
      intro place placed idle
      rcases update_some placed with ⟨rfl, same⟩ | earlier
      · rw [Function.update_self] at elsewhere
        exact absurd same elsewhere
      · have old := Nat.ne_of_lt (wired.home earlier).1
        simp only [World.setEntry, Function.update_of_ne old] at idle ⊢
        exact read other place earlier idle

/-- A chunk that the buffer has room for. -/
theorem type_wired (wired : Wired world) (most : Nat) (agentId : String) (chunk : Units)
    (fits : (world.entries number).buffer.length + chunk.length ≤ most) :
    Wired (world.type most number agentId chunk) := by
  have whole : ((world.entries number).more most agentId chunk).buffer =
      (world.entries number).buffer ++ chunk := by
    simp only [Entry.more]
    rw [if_neg]
    rw [List.length_append]
    omega
  refine ⟨?_, wired.old, wired.fresh, ?_⟩
  · intro place other held
    have home := wired.home held
    by_cases same : other = number
    · subst same
      simpa [World.type, World.setEntry, Entry.more] using home
    · simpa [World.type, World.setEntry, Function.update_of_ne same] using home
  · intro other
    by_cases same : other = number
    · subst same
      obtain ⟨waiting, single, lines⟩ := (wired.accounted other).lines
      have tail := (wired.accounted other).tail
      constructor
      · refine ⟨waiting, single.kept (fun _ _ _ => Iff.rfl) ?_ ?_, ?_⟩
        · simp [World.type, World.setEntry, Entry.more]
        · simp [World.type, World.setEntry, Entry.more]
        · have handed : (world.type most other agentId chunk).linesOf other =
              world.linesOf other := rfl
          rw [handed]
          simp only [World.type, World.setEntry, Function.update_self, whole]
          rw [finished_append, lines, tail, List.append_assoc, ← finished_append]
      · simp only [World.type, World.setEntry, Function.update_self, whole]
        rw [unfinished_append, tail, ← unfinished_append]
    · exact (wired.accounted other).kept (fun _ _ _ => Iff.rfl) (Function.update_of_ne same ..)
        (Function.update_of_ne same ..) rfl

theorem type_read (most : Nat) (agentId : String) (chunk : Units) {other : Nat}
    (same : other ≠ number) (read : Read world other) :
    Read (world.type most number agentId chunk) other := by
  intro place placed idle
  simp only [World.type, World.setEntry, Function.update_of_ne same] at idle ⊢
  exact read place placed idle

end Keeps

/-- Never more typed and unread than the buffer holds. -/
def Fits (most : Nat) (world : World) : Label → Prop
  | .append _ terminal chunk => (world.pending terminal).length + chunk.length ≤ most
  | _ => True

instance (most : Nat) (world : World) : DecidablePred (Fits most world)
  | .append _ terminal chunk =>
      inferInstanceAs (Decidable ((world.pending terminal).length + chunk.length ≤ most))
  | .settle _ => .isTrue trivial
  | .remove _ => .isTrue trivial
  | .clear => .isTrue trivial

/-- The two halves of what every run keeps. -/
structure Kept (world : World) : Prop where
  wired : Wired world
  read : ∀ number, Read world number

theorem append_kept {most : Nat} {world : World} (kept : Kept world) (agentId terminal : String)
    (chunk : Units) (fits : (world.pending terminal).length + chunk.length ≤ most) :
    Kept (append most world agentId terminal chunk) := by
  rw [append]
  split
  · exact kept
  · obtain ⟨held, same⟩ := openEntry_held world agentId terminal
    have typed : Wired ((world.openEntry agentId terminal).1.type most
        (world.openEntry agentId terminal).2 agentId chunk) := by
      apply type_wired (openEntry_wired kept.wired agentId terminal)
      rw [same]
      exact fits
    refine ⟨drain_wired typed terminal, drain_read terminal ?_⟩
    intro other elsewhere
    apply type_read
    · intro equal
      rw [equal] at elsewhere
      exact elsewhere held
    · exact openEntry_read kept.wired kept.read agentId terminal other elsewhere

/-- A drain goes on with its next line. -/
theorem goOn_kept {world : World} (kept : Kept world) {activation : Nat} {drain : Drain}
    (found : world.drains activation = some drain) {line : Units} {later : List Units}
    (next : drain.later = line :: later) : Kept (world.goOn activation drain line later) := by
  refine ⟨⟨kept.wired.home, ?_, ?_, ?_⟩, kept.read⟩
  · intro other second otherFound
    rcases update_some otherFound with ⟨rfl, same⟩ | earlier
    · have old := kept.wired.old found
      cases same
      exact old
    · exact kept.wired.old earlier
  · intro call member
    rcases List.mem_append.mp member with earlier | last
    · exact kept.wired.fresh earlier
    · rw [List.mem_singleton.mp last]
      exact (kept.wired.old found).2
  · intro number
    have handed : (world.goOn activation drain line later).linesOf number =
        world.linesOf number ++ if drain.entry = number then [line] else [] :=
      linesOf_hand world drain.entry number line
    by_cases own : drain.entry = number
    · subst own
      obtain ⟨waiting, single, whole⟩ := (kept.wired.accounted drain.entry).lines
      obtain ⟨busy, same, home, only⟩ := single.alone found rfl
      have here : ∀ {other second},
          (world.goOn activation drain line later).drains other = some second →
            second.entry = drain.entry → other = activation := by
        intro other second otherFound otherOwn
        rcases update_some otherFound with ⟨equal, _⟩ | earlier
        · exact equal
        · exact only earlier otherOwn
      refine ⟨⟨later, ⟨?_, ?_, ?_⟩, ?_⟩, (kept.wired.accounted drain.entry).tail⟩
      · intro other second otherFound otherOwn
        obtain rfl := here otherFound otherOwn
        have equal : some { drain with later } = some second :=
          (Function.update_self other _ world.drains).symm.trans otherFound
        cases equal
        exact ⟨busy, rfl, home, here⟩
      · intro _
        exact ⟨activation, _, Function.update_self .., rfl⟩
      · intro idle
        have stopped : (world.entries drain.entry).dispatching = false := idle
        rw [busy] at stopped
        cases stopped
      · rw [handed, if_pos rfl, List.append_assoc _ [line] later]
        rw [same, next] at whole
        exact whole
    · rw [if_neg own, List.append_nil] at handed
      refine (kept.wired.accounted number).kept (drains_other ?_ ?_) rfl rfl handed
      · intro other otherFound
        rw [found] at otherFound
        exact Option.some.inj otherFound ▸ own
      · intro other otherFound
        exact Option.some.inj otherFound ▸ own

theorem ended_wired {world : World} (wired : Wired world) {activation : Nat} {ending : Drain}
    (found : world.drains activation = some ending) (last : ending.later = []) :
    Wired (world.ended activation ending) := by
  refine ⟨?_, ?_, wired.fresh, ?_⟩
  · intro place number held
    have home := wired.home held
    by_cases same : number = ending.entry
    · subst same
      simpa [World.ended, World.setEntry] using home
    · simpa [World.ended, World.setEntry, Function.update_of_ne same] using home
  · intro other second otherFound
    rcases update_some otherFound with ⟨_, same⟩ | earlier
    · cases same
    · exact wired.old earlier
  · intro number
    by_cases same : number = ending.entry
    · subst same
      obtain ⟨waiting, single, whole⟩ := (wired.accounted ending.entry).lines
      obtain ⟨busy, nothing, home, only⟩ := single.alone found rfl
      constructor
      · refine ⟨[], ⟨?_, ?_, fun _ => rfl⟩, ?_⟩
        · intro other second otherFound own
          rcases update_some otherFound with ⟨_, same⟩ | earlier
          · cases same
          · rw [only earlier own] at otherFound
            simp [World.ended] at otherFound
        · intro stillBusy
          simp [World.ended, World.setEntry] at stillBusy
        · rw [nothing, last] at whole
          simpa [World.ended, World.setEntry, World.linesOf] using whole
      · have tail := (wired.accounted ending.entry).tail
        simpa [World.ended, World.setEntry] using tail
    · refine (wired.accounted number).kept (drains_other ?_ ?_) (Function.update_of_ne same ..)
        rfl rfl
      · intro drain held
        rw [found] at held
        exact Option.some.inj held ▸ Ne.symm same
      · intro drain impossible
        cases impossible

/-- Only the entry of the drain that ended can be left with a complete line. -/
theorem ended_read {world : World} (kept : Kept world) {activation : Nat} {ending : Drain}
    (found : world.drains activation = some ending) (number : Nat)
    (elsewhere : world.buffers ending.terminal ≠ some number) :
    Read (world.ended activation ending) number := by
  intro place placed idle
  by_cases same : number = ending.entry
  · subst same
    obtain ⟨waiting, single, _⟩ := (kept.wired.accounted ending.entry).lines
    have home := (single.alone found rfl).2.2.1
    have here : place = ending.terminal := (kept.wired.home placed).2.symm.trans home.symm
    rw [here] at placed
    exact absurd placed elsewhere
  · simp only [World.ended, World.setEntry, Function.update_of_ne same] at idle ⊢
    exact kept.read number place placed idle

theorem finish_kept {world : World} (kept : Kept world) {activation : Nat} {ending : Drain}
    (found : world.drains activation = some ending) (last : ending.later = []) :
    Kept (world.finish activation ending) := by
  have wired := ended_wired kept.wired found last
  have finish : world.finish activation ending =
      match world.buffers ending.terminal with
      | none => world.ended activation ending
      | some after =>
          if ((world.ended activation ending).entries after).buffer.any isEnd then
            drain (world.ended activation ending) ending.terminal
          else world.ended activation ending := rfl
  rw [finish]
  split
  · next closed =>
    refine ⟨wired, fun number => ended_read kept found number ?_⟩
    rw [closed]
    exact Option.some_ne_none number |>.symm
  · next after held =>
    split
    · exact ⟨drain_wired wired _, drain_read _ fun number => ended_read kept found number⟩
    · next plain =>
      refine ⟨wired, ?_⟩
      intro number
      by_cases here : world.buffers ending.terminal = some number
      · rw [held] at here
        cases here
        intro _ _ _
        simpa using plain
      · exact ended_read kept found number here

/-- A terminal that goes away takes nothing from the accounts of its entry. -/
theorem closed_kept {world : World} (kept : Kept world) {buffers : String → Option Nat}
    (fewer : ∀ {terminal number}, buffers terminal = some number →
      world.buffers terminal = some number) : Kept { world with buffers } := by
  refine ⟨⟨fun held => kept.wired.home (fewer held), kept.wired.old, kept.wired.fresh, ?_⟩, ?_⟩
  · intro number
    exact (kept.wired.accounted number).kept (fun _ _ _ => Iff.rfl) rfl rfl rfl
  · intro number place placed
    exact kept.read number place (fewer placed)

theorem step_kept {most : Nat} {world after : World} {label : Label} (kept : Kept world)
    (fits : Fits most world label) (taken : step most world label = some after) : Kept after := by
  cases label with
  | append agentId terminal chunk =>
      cases taken
      exact append_kept kept agentId terminal chunk fits
  | settle activation =>
      obtain ⟨drain, found, rfl⟩ := Option.map_eq_some_iff.mp taken
      split
      · next line later next => exact goOn_kept kept found next
      · next last => exact finish_kept kept found last
  | remove terminal =>
      cases taken
      apply closed_kept kept
      intro place number held
      rcases update_some held with ⟨_, impossible⟩ | earlier
      · cases impossible
      · exact earlier
  | clear =>
      cases taken
      exact closed_kept kept fun impossible => nomatch impossible

theorem initial_kept : Kept initial := by
  refine ⟨⟨?_, ?_, ?_, ?_⟩, ?_⟩
  · intro terminal number impossible
    cases impossible
  · intro activation drain impossible
    cases impossible
  · intro call impossible
    cases impossible
  · intro number
    refine ⟨⟨[], ⟨?_, ?_, fun _ => rfl⟩, rfl⟩, rfl⟩
    · intro activation drain impossible
      cases impossible
    · intro impossible
      cases impossible
  · intro number place impossible
    cases impossible

/-- What is typed into a terminal, in whatever chunks and however the dispatches end, is
handed over line by line: in order, one line at a time, every line once. While a dispatch of
the terminal is under way the remaining lines are those its drain still holds and those in the
buffer; while none is, every complete line has been handed over. -/
theorem typed_lines_handed {most : Nat} {world : World}
    (run : Reaches (step most) (Fits most) initial world) (number : Nat) :
    (∀ activation drain, world.drains activation = some drain → drain.entry = number →
      finished (world.typed number) = world.linesOf number ++ drain.later ++
          finished (world.entries number).buffer ∧
        ∀ other second, world.drains other = some second → second.entry = number →
          other = activation) ∧
      ((∀ activation drain, world.drains activation = some drain → drain.entry ≠ number) →
        ∀ terminal, world.buffers terminal = some number →
          world.linesOf number = finished (world.typed number) ∧
            (world.entries number).buffer = unfinished (world.typed number)) := by
  have kept := run.invariant Kept initial_kept fun _ _ _ held fits taken =>
    step_kept held fits taken
  obtain ⟨⟨waiting, single, whole⟩, tail⟩ := kept.wired.accounted number
  constructor
  · intro activation drain found own
    obtain ⟨_, same, _, only⟩ := single.alone found own
    rw [same] at whole
    exact ⟨whole, fun other second => only⟩
  · intro none terminal held
    have idle : (world.entries number).dispatching = false := by
      rw [← Bool.not_eq_true]
      intro busy
      obtain ⟨activation, drain, found, own⟩ := single.busy busy
      exact none activation drain found own
    have plain := kept.read number terminal held idle
    rw [single.idle idle, finished_plain plain, List.append_nil, List.append_nil] at whole
    rw [unfinished_of_plain plain] at tail
    exact ⟨whole.symm, tail.symm⟩

/-- `ab`, a line end, and `c`; then `d` and a pair of line ends while `ab` is under way. The
second line goes out when the first one has settled, and the pair ends no third one. -/
theorem typed_lines_handed_while_busy :
    ∃ world, Reaches (step 16) (Fits 16) initial world ∧
      world.drains 1 = some ⟨"t", 0, []⟩ ∧
      finished (world.typed 0) = [[0x61, 0x62], [0x63, 0x64]] ∧
      finished (world.typed 0) = world.linesOf 0 ++ [] ++ finished (world.entries 0).buffer := by
  have executed : (exec (step 16) (fun state label => decide (Fits 16 state label)) initial
      [.append "worker" "t" [0x61, 0x62, 0x0d, 0x63], .append "" "t" [0x64, 0x0d, 0x0a],
        .settle 0]).map (fun state => (state.drains 1, finished (state.typed 0))) =
        some (some ⟨"t", 0, []⟩, [[0x61, 0x62], [0x63, 0x64]]) := by decide
  obtain ⟨world, reached, seen⟩ :=
    reaches_observed _ _ _ _ (fun _ _ granted => of_decide_eq_true granted) executed
  obtain ⟨drained, lines⟩ := Prod.mk.inj seen
  exact ⟨world, reached, drained, lines,
    ((typed_lines_handed reached 0).1 1 _ drained rfl).1⟩

end AifyComms.VirtualTerminalInput
