import AifyComms.Runs
import Mathlib.Algebra.BigOperators.Group.List.Basic
import Mathlib.Algebra.Ring.Int.Defs
import Mathlib.Data.List.Perm.Basic

/-!
The console of a pi session, `_pushTerminalFrame`, `_flushTerminalBuffer`, `attachTerminalSink`
and `detachTerminalSink` of `pi-session.js`: frames wait in a bounded buffer and one flush at a
time hands them to the sink.

A flush runs up to its first `await` at once and goes on when the sink has settled, with or
without an error, so pushes and changes of the sink come between any two frames. Texts are
lists of UTF-16 units, as `length` counts them.
-/

namespace AifyComms.PiTerminalFrames
open Runs

/-- `MAX_TERMINAL_FRAME_BUFFER_CHARS`. -/
def maxTerminalFrameBufferChars : Nat := 65536

structure Frame where
  text : List Nat
  status : String
  deriving DecidableEq

def Frame.chars (frame : Frame) : Int := frame.text.length

/-- The fields of the session, the flushes that wait for a sink, and what became of the frames:
all that were pushed, those the bound dropped, and those a sink was called with. -/
structure World where
  terminalSink : Option Nat
  terminalBuffer : List Frame
  terminalBufferChars : Int
  flushing : Bool
  flushes : Nat → Bool
  begun : Nat
  pushed : List Frame
  dropped : List Frame
  handed : List (Nat × Frame)

def initial : World := ⟨none, [], 0, false, fun _ => false, 0, [], [], []⟩

/-- `_terminalBuffer.shift()` and the counter; the frame goes to the sink. -/
def World.handOver (world : World) (sink : Nat) (frame : Frame) (rest : List Frame) : World :=
  let chars := world.terminalBufferChars - frame.chars
  { world with
    terminalBuffer := rest
    terminalBufferChars := if chars < 0 then 0 else chars
    handed := world.handed ++ [(sink, frame)] }

/-- `_flushTerminalBuffer`, up to the first `await`. -/
def flushTerminalBuffer (world : World) : World :=
  match world.terminalSink, world.terminalBuffer with
  | some sink, frame :: rest =>
      if world.flushing then world
      else
        { world.handOver sink frame rest with
          flushing := true
          flushes := Function.update world.flushes world.begun true
          begun := world.begun + 1 }
  | _, _ => world

/-- The loop goes on, or ends and clears the flag. Nothing runs between its last test and the
one after it, so that one finds nothing to flush. -/
def World.resume (world : World) (flush : Nat) : World :=
  match world.terminalSink, world.terminalBuffer with
  | some sink, frame :: rest => world.handOver sink frame rest
  | _, _ => flushTerminalBuffer
      { world with flushing := false, flushes := Function.update world.flushes flush false }

/-- `while (chars > MAX && buffer.length > 1)`, with the frames it dropped. -/
def trim (most : Nat) : List Frame → Int → List Frame × Int × List Frame
  | first :: second :: rest, chars =>
      if (most : Int) < chars then
        let later := trim most (second :: rest) (chars - first.chars)
        (later.1, later.2.1, first :: later.2.2)
      else (first :: second :: rest, chars, [])
  | buffer, chars => (buffer, chars, [])

def pushTerminalFrame (most : Nat) (world : World) (frame : Frame) : World :=
  if frame.text = [] ∧ frame.status = "" then world
  else
    let kept := trim most (world.terminalBuffer ++ [frame])
      (world.terminalBufferChars + frame.chars)
    flushTerminalBuffer { world with
      terminalBuffer := kept.1
      terminalBufferChars := kept.2.1
      pushed := world.pushed ++ [frame]
      dropped := world.dropped ++ kept.2.2 }

inductive Label where
  | push (frame : Frame)
  | attach (sink : Option Nat)
  | detach
  | settle (flush : Nat)

/-- `settle` is the continuation of a flush whose sink has settled. What is attached may be no
function, and then it is no sink. -/
def step (most : Nat) (world : World) : Label → Option World
  | .push frame => some (pushTerminalFrame most world frame)
  | .attach sink => some (flushTerminalBuffer { world with terminalSink := sink })
  | .detach => some { world with terminalSink := none }
  | .settle flush => if world.flushes flush then some (world.resume flush) else none

/-! ### The bound -/

def charsOf (frames : List Frame) : Int := (frames.map Frame.chars).sum

theorem chars_nonneg (frame : Frame) : 0 ≤ frame.chars := Int.natCast_nonneg _

theorem charsOf_nonneg (frames : List Frame) : 0 ≤ charsOf frames := by
  induction frames with
  | nil => exact Int.le_refl 0
  | cons first rest ih =>
      have own := chars_nonneg first
      rw [charsOf, List.map_cons, List.sum_cons]
      exact Int.add_nonneg own ih

theorem charsOf_cons (first : Frame) (rest : List Frame) :
    charsOf (first :: rest) = first.chars + charsOf rest := by
  rw [charsOf, List.map_cons, List.sum_cons]
  rfl

theorem charsOf_concat (frames : List Frame) (last : Frame) :
    charsOf (frames ++ [last]) = charsOf frames + last.chars := by
  induction frames with
  | nil => simp [charsOf]
  | cons first rest ih => rw [List.cons_append, charsOf_cons, charsOf_cons, ih, Int.add_assoc]

/-- The trimmed buffer is what is left behind the dropped frames, counted right and within the
bound, and nothing is dropped from a buffer within it. -/
theorem trim_spec (most : Nat) (buffer : List Frame) :
    let kept := trim most buffer (charsOf buffer)
    kept.2.2 ++ kept.1 = buffer ∧ kept.2.1 = charsOf kept.1 ∧
      (charsOf kept.1 ≤ most ∨ kept.1.length ≤ 1) ∧
      (charsOf buffer ≤ most → kept.2.2 = []) := by
  induction buffer with
  | nil => exact ⟨rfl, rfl, .inr (Nat.zero_le 1), fun _ => rfl⟩
  | cons first rest ih =>
      cases rest with
      | nil => exact ⟨rfl, rfl, .inr (Nat.le_refl 1), fun _ => rfl⟩
      | cons second others =>
          have less : charsOf (first :: second :: others) - first.chars =
              charsOf (second :: others) := by
            rw [charsOf_cons]
            omega
          simp only [trim]
          split
          · next above =>
            rw [less]
            obtain ⟨whole, counted, bounded, _⟩ := ih
            refine ⟨by rw [List.cons_append, whole], counted, bounded, ?_⟩
            intro fits
            omega
          · next fits => exact ⟨rfl, rfl, .inl (Int.not_lt.mp fits), fun _ => rfl⟩

/-! ### What a run keeps -/

def World.handedFrames (world : World) : List Frame := world.handed.map Prod.snd

/-- Frames are handed over in the order they were pushed, and each one is handed over, dropped
or waiting; the counter counts those that wait. -/
structure Ordered (most : Nat) (world : World) : Prop where
  counted : world.terminalBufferChars = charsOf world.terminalBuffer
  bounded : charsOf world.terminalBuffer ≤ most ∨ world.terminalBuffer.length ≤ 1
  inOrder : (world.handedFrames ++ world.terminalBuffer).Sublist world.pushed
  whole : (world.handedFrames ++ world.dropped ++ world.terminalBuffer).Perm world.pushed

/-- The flag is set exactly while a flush waits for a sink, and there is never a second one. -/
structure Single (world : World) : Prop where
  alone : ∀ {flush}, world.flushes flush = true →
    world.flushing = true ∧ flush < world.begun ∧
      ∀ {other}, world.flushes other = true → other = flush
  busy : world.flushing = true → ∃ flush, world.flushes flush = true

/-- With a sink and no flush under way, nothing waits. -/
def Flushed (world : World) : Prop :=
  world.flushing = false → world.terminalSink = none ∨ world.terminalBuffer = []

structure Kept (most : Nat) (world : World) : Prop where
  ordered : Ordered most world
  single : Single world
  flushed : Flushed world

section Steps
variable {most : Nat} {world : World}

theorem handOver_ordered (ordered : Ordered most world) (sink : Nat) {frame : Frame}
    {rest : List Frame} (waiting : world.terminalBuffer = frame :: rest) :
    Ordered most (world.handOver sink frame rest) := by
  have handed : (world.handOver sink frame rest).handedFrames = world.handedFrames ++ [frame] := by
    simp [World.handedFrames, World.handOver]
  have own := chars_nonneg frame
  have others := charsOf_nonneg rest
  obtain ⟨counted, bounded, inOrder, whole⟩ := ordered
  rw [waiting] at counted bounded inOrder whole
  rw [charsOf_cons] at counted bounded
  constructor
  · simp only [World.handOver]
    split
    · omega
    · omega
  · refine bounded.imp ?_ ?_
    · intro fits
      exact Int.le_trans (Int.le_add_of_nonneg_left own) fits
    · intro short
      exact Nat.le_trans (Nat.le_succ _) short
  · rw [handed, List.append_assoc]
    exact inOrder
  · rw [handed]
    have moved : (frame :: (world.dropped ++ rest)).Perm (world.dropped ++ frame :: rest) :=
      List.perm_middle.symm
    have same := moved.append_left world.handedFrames
    refine List.Perm.trans ?_ whole
    simp only [World.handOver, List.append_assoc, List.singleton_append] at same ⊢
    exact same

theorem flush_kept (ordered : Ordered most world) (single : Single world) :
    Kept most (flushTerminalBuffer world) := by
  rw [flushTerminalBuffer]
  split
  · next sink frame rest attached waiting =>
    split
    · next busy =>
      refine ⟨ordered, single, ?_⟩
      intro idle
      rw [busy] at idle
      cases idle
    · next idle =>
      have none : ∀ {flush}, world.flushes flush ≠ true := fun under => idle (single.alone under).1
      have passed := handOver_ordered ordered sink waiting
      refine ⟨⟨passed.counted, passed.bounded, passed.inOrder, passed.whole⟩, ⟨?_, ?_⟩, ?_⟩
      · intro flush under
        have only : ∀ {other}, Function.update world.flushes world.begun true other = true →
            other = world.begun := by
          intro other otherUnder
          by_cases same : other = world.begun
          · exact same
          · rw [Function.update_of_ne same] at otherUnder
            exact absurd otherUnder none
        rw [only under]
        exact ⟨rfl, Nat.lt_succ_self _, only⟩
      · intro _
        exact ⟨world.begun, Function.update_self ..⟩
      · intro impossible
        cases impossible
  · next nothing =>
    refine ⟨ordered, single, ?_⟩
    intro _
    cases attached : world.terminalSink with
    | none => exact .inl rfl
    | some sink =>
        cases waiting : world.terminalBuffer with
        | nil => exact .inr rfl
        | cons frame rest => exact absurd waiting (nothing sink frame rest attached)

theorem push_kept (kept : Kept most world) (frame : Frame) :
    Kept most (pushTerminalFrame most world frame) := by
  rw [pushTerminalFrame]
  split
  · exact kept
  · obtain ⟨counted, _, inOrder, whole⟩ := kept.ordered
    obtain ⟨split, recounted, bounded, _⟩ := trim_spec most (world.terminalBuffer ++ [frame])
    rw [counted, ← charsOf_concat]
    refine flush_kept ⟨recounted, bounded, ?_, ?_⟩ ⟨kept.single.alone, kept.single.busy⟩
    · -- Whatever is dropped stood at the front of the buffer.
      have fewer : (trim most (world.terminalBuffer ++ [frame])
          (charsOf (world.terminalBuffer ++ [frame]))).1.Sublist
            (world.terminalBuffer ++ [frame]) := by
        have tail := List.sublist_append_right
          (trim most (world.terminalBuffer ++ [frame])
            (charsOf (world.terminalBuffer ++ [frame]))).2.2
          (trim most (world.terminalBuffer ++ [frame])
            (charsOf (world.terminalBuffer ++ [frame]))).1
        rwa [split] at tail
      have longer := inOrder.append (List.Sublist.refl [frame])
      rw [List.append_assoc] at longer
      exact ((List.Sublist.refl _).append fewer).trans longer
    · have more := whole.append_right [frame]
      rw [List.append_assoc, ← split, ← List.append_assoc] at more
      simp only [List.append_assoc] at more ⊢
      exact more

theorem resume_kept (kept : Kept most world) {flush : Nat} (under : world.flushes flush = true) :
    Kept most (world.resume flush) := by
  obtain ⟨busy, old, only⟩ := kept.single.alone under
  rw [World.resume]
  split
  · next sink frame rest attached waiting =>
    refine ⟨handOver_ordered kept.ordered sink waiting, ⟨kept.single.alone, kept.single.busy⟩, ?_⟩
    intro idle
    have impossible : world.flushing = false := idle
    rw [busy] at impossible
    cases impossible
  · have none : ∀ {other}, Function.update world.flushes flush false other ≠ true := by
      intro other otherUnder
      by_cases same : other = flush
      · rw [same, Function.update_self] at otherUnder
        cases otherUnder
      · rw [Function.update_of_ne same] at otherUnder
        exact same (only otherUnder)
    apply flush_kept
    · exact ⟨kept.ordered.counted, kept.ordered.bounded, kept.ordered.inOrder, kept.ordered.whole⟩
    · constructor
      · intro other otherUnder
        exact absurd otherUnder none
      · intro impossible
        cases impossible

theorem step_kept {after : World} {label : Label} (kept : Kept most world)
    (taken : step most world label = some after) : Kept most after := by
  cases label with
  | push frame =>
      cases taken
      exact push_kept kept frame
  | attach sink =>
      cases taken
      have ordered := kept.ordered
      exact flush_kept ⟨ordered.counted, ordered.bounded, ordered.inOrder, ordered.whole⟩
        ⟨kept.single.alone, kept.single.busy⟩
  | detach =>
      cases taken
      have ordered := kept.ordered
      exact ⟨⟨ordered.counted, ordered.bounded, ordered.inOrder, ordered.whole⟩,
        ⟨kept.single.alone, kept.single.busy⟩, fun _ => .inl rfl⟩
  | settle flush =>
      rw [step, Option.ite_none_right_eq_some] at taken
      cases taken.2
      exact resume_kept kept taken.1

end Steps

theorem initial_kept (most : Nat) : Kept most initial := by
  refine ⟨⟨rfl, .inl (Int.natCast_nonneg _), List.Sublist.refl _, List.Perm.refl _⟩, ⟨?_, ?_⟩, ?_⟩
  · intro flush impossible
    cases impossible
  · intro impossible
    cases impossible
  · intro _
    exact .inl rfl

/-- However pushes, sinks that come and go, and sinks that are slow or fail interleave: frames
reach the sink in the order they were pushed, one call at a time; each frame was handed over,
dropped by the bound or is waiting, and if none was dropped, none is missing. What waits is
within the bound or a single frame, and with a sink and no call under way nothing waits. -/
theorem frames_reach_sink {most : Nat} {world : World}
    (run : Reaches (step most) anyStep initial world) :
    (world.handedFrames ++ world.terminalBuffer).Sublist world.pushed ∧
      (world.handedFrames ++ world.dropped ++ world.terminalBuffer).Perm world.pushed ∧
      (world.dropped = [] → world.handedFrames ++ world.terminalBuffer = world.pushed) ∧
      (charsOf world.terminalBuffer ≤ most ∨ world.terminalBuffer.length ≤ 1) ∧
      (∀ first second, world.flushes first = true → world.flushes second = true →
        first = second) ∧
      ((∀ flush, world.flushes flush = false) → world.terminalSink ≠ none →
        world.terminalBuffer = []) := by
  have kept := run.invariant (Kept most) (initial_kept most) fun _ _ _ held _ taken =>
    step_kept held taken
  obtain ⟨_, bounded, inOrder, whole⟩ := kept.ordered
  refine ⟨inOrder, whole, ?_, bounded, ?_, ?_⟩
  · intro none
    rw [none, List.append_nil] at whole
    exact inOrder.eq_of_length whole.length_eq
  · intro first second firstUnder secondUnder
    exact (kept.single.alone secondUnder).2.2 firstUnder
  · intro none attached
    have idle : world.flushing = false := by
      rw [← Bool.not_eq_true]
      intro busy
      obtain ⟨flush, under⟩ := kept.single.busy busy
      rw [none flush] at under
      cases under
    exact (kept.flushed idle).resolve_left attached

/-- Two frames pushed before a sink is attached, and a third while the sink is at the first. -/
theorem frames_reach_sink_slow : ∃ world, Reaches (step 4) anyStep initial world ∧
    world.handed = [(7, ⟨[1, 2], ""⟩)] ∧ world.dropped = [⟨[3, 4], ""⟩] ∧
      (world.handedFrames ++ world.terminalBuffer).Sublist world.pushed := by
  have executed : (exec (step 4) (fun _ _ => true) initial
      [.push ⟨[1, 2], ""⟩, .push ⟨[3, 4], ""⟩, .attach (some 7), .push ⟨[5, 6, 7], ""⟩]).map
        (fun world => (world.handed, world.dropped)) =
      some ([(7, ⟨[1, 2], ""⟩)], [⟨[3, 4], ""⟩]) := by decide
  obtain ⟨world, reached, seen⟩ := reaches_observed _ _ _ _ (fun _ _ _ => trivial) executed
  obtain ⟨handed, dropped⟩ := Prod.mk.inj seen
  exact ⟨world, reached, handed, dropped, (frames_reach_sink reached).1⟩

end AifyComms.PiTerminalFrames
