import AifyComms.ConsoleCursor
import Mathlib.Order.Bounds.Basic

/-!
What `drainHeldFrames` of `new_dashboard/console-cursor.mjs` writes and what it keeps, for
every cursor and every list of held frames.

The run it writes is the longest one that the held frames allow, each number from the held
frame that came first with it. An overflowed queue is emptied and nothing of it is written.
-/

namespace AifyComms.HeldFrames
open ConsoleCursor

/-! ### A run of numbers -/

/-- `count` numbers, from `start` on. -/
def numbersFrom : Int → Nat → List Int
  | _, 0 => []
  | start, count + 1 => start :: numbersFrom (start + 1) count

theorem le_of_mem_numbersFrom {start number : Int} {count : Nat}
    (listed : number ∈ numbersFrom start count) : start ≤ number := by
  induction count generalizing start with
  | zero => cases listed
  | succ count ih =>
      rcases List.mem_cons.mp listed with rfl | later
      · exact Int.le_refl _
      · have above := ih later
        omega

def isNumbered (number : Int) (frame : Frame) : Bool := decide (frame.seq = number)

/-- The frames are the longest run of held frames that starts at `start`, and where a number
is held twice the one that came first. -/
structure LongestRun (held : List Frame) (start : Int) (written : List Frame) : Prop where
  numbers : written.map Frame.seq = numbersFrom start written.length
  first : ∀ frame ∈ written, held.find? (isNumbered frame.seq) = some frame
  stops : ∀ frame ∈ held, frame.seq ≠ start + written.length

theorem LongestRun.above {held written : List Frame} {start : Int}
    (run : LongestRun held start written) (frame : Frame) (listed : frame ∈ written) :
    start ≤ frame.seq := by
  have number : frame.seq ∈ numbersFrom start written.length := by
    rw [← run.numbers]
    exact List.mem_map_of_mem listed
  exact le_of_mem_numbersFrom number

/-- The frames written to the terminal one after another. -/
def paintFrames (frames : List Frame) (entry : Entry) : Entry :=
  frames.foldl (fun entry frame => paintFrame frame entry) entry

theorem paintFrames_screen (frames : List Frame) (entry : Entry) :
    (paintFrames frames entry).screen =
      entry.screen ++ frames.map fun frame => .frame frame.seq frame.output := by
  induction frames generalizing entry with
  | nil => simp [paintFrames]
  | cons frame rest ih =>
      have step : paintFrames (frame :: rest) entry = paintFrames rest (paintFrame frame entry) := rfl
      rw [step, ih]
      simp [paintFrame]

/-- The cursor goes over the frames written, and no further. -/
theorem paintFrames_lastSeq (frames : List Frame) (entry : Entry) :
    (paintFrames frames entry).lastSeq = (frames.getLast?.map Frame.seq).getD entry.lastSeq := by
  induction frames generalizing entry with
  | nil => rfl
  | cons frame rest ih =>
      have step : paintFrames (frame :: rest) entry = paintFrames rest (paintFrame frame entry) := rfl
      rw [step, ih]
      cases rest with
      | nil => rfl
      | cons next rest =>
          rw [List.getLast?_cons_cons, List.getLast?_eq_some_getLast (List.cons_ne_nil next rest)]
          rfl

/-- After a run from the number past the cursor, the cursor is that many numbers on. -/
theorem paintFrames_advances {frames : List Frame} {entry : Entry}
    (numbers : frames.map Frame.seq = numbersFrom (entry.lastSeq + 1) frames.length) :
    (paintFrames frames entry).lastSeq = entry.lastSeq + frames.length := by
  induction frames generalizing entry with
  | nil => simp [paintFrames]
  | cons frame rest ih =>
      obtain ⟨first, later⟩ := List.cons.inj numbers
      have step : paintFrames (frame :: rest) entry = paintFrames rest (paintFrame frame entry) := rfl
      have here : (paintFrame frame entry).lastSeq = entry.lastSeq + 1 := first
      rw [step, ih (by rw [here]; exact later), here, List.length_cons]
      push_cast
      omega

/-! ### The loop -/

def Sorted (frames : List Frame) : Prop := frames.Pairwise fun left right => left.seq ≤ right.seq

/-- What a loop over sorted frames writes, and what is left past its cursor. -/
structure Replays (frames : List Frame) (entry : Entry) (placed : Entry × List Frame)
    (written : List Frame) : Prop where
  painted : placed.1 = paintFrames written entry
  run : LongestRun frames (entry.lastSeq + 1) written
  left : placed.2.filter (fun frame => decide (placed.1.lastSeq < frame.seq)) =
    frames.filter fun frame => decide (placed.1.lastSeq < frame.seq)

theorem Replays.lastSeq {frames : List Frame} {entry : Entry} {placed : Entry × List Frame}
    {written : List Frame} (replays : Replays frames entry placed written) :
    placed.1.lastSeq = entry.lastSeq + written.length := by
  rw [replays.painted]
  exact paintFrames_advances replays.run.numbers

/-- A frame that the cursor has passed is skipped. -/
theorem Replays.skip {frame : Frame} {rest : List Frame} {entry : Entry}
    {placed : Entry × List Frame} {written : List Frame}
    (replays : Replays rest entry placed written) (passed : frame.seq ≤ entry.lastSeq) :
    Replays (frame :: rest) entry placed written := by
  have last := replays.lastSeq
  constructor
  · exact replays.painted
  · constructor
    · exact replays.run.numbers
    · intro other listed
      have above := replays.run.above other listed
      rw [List.find?_cons_of_neg]
      · exact replays.run.first other listed
      · rw [isNumbered, decide_eq_true_eq]
        omega
    · intro other listed
      rcases List.mem_cons.mp listed with rfl | later
      · omega
      · exact replays.run.stops other later
  · rw [replays.left, List.filter_cons_of_neg]
    rw [decide_eq_true_eq]
    omega

/-- Sorted frames that start past a gap are left whole. -/
theorem Replays.gap {frame : Frame} {rest : List Frame} {entry : Entry}
    (sorted : Sorted (frame :: rest)) (gap : entry.lastSeq + 1 < frame.seq) :
    Replays (frame :: rest) entry (entry, frame :: rest) [] := by
  constructor
  · rfl
  · constructor
    · rfl
    · intro other listed
      cases listed
    · intro other listed
      rw [List.length_nil]
      rcases List.mem_cons.mp listed with rfl | later
      · omega
      · have behind := List.rel_of_pairwise_cons sorted later
        omega
  · rfl

/-- A run over what follows a frame just written goes on from it. -/
theorem LongestRun.cons {frame : Frame} {rest written : List Frame}
    (run : LongestRun rest (frame.seq + 1) written) :
    LongestRun (frame :: rest) frame.seq (frame :: written) := by
  constructor
  · rw [List.map_cons, run.numbers]
    rfl
  · intro other listed
    rcases List.mem_cons.mp listed with rfl | later
    · exact List.find?_cons_of_pos (decide_eq_true rfl)
    · have above := run.above other later
      rw [List.find?_cons_of_neg]
      · exact run.first other later
      · rw [isNumbered, decide_eq_true_eq]
        omega
  · intro other listed
    rw [List.length_cons]
    rcases List.mem_cons.mp listed with rfl | later
    · push_cast
      omega
    · have differs := run.stops other later
      push_cast
      omega

/-- A frame just written is not among those left past the cursor. -/
theorem Replays.written_left {frame : Frame} {rest : List Frame} {entry : Entry}
    {placed : Entry × List Frame} {written : List Frame}
    (replays : Replays rest (paintFrame frame entry) placed written) :
    placed.2.filter (fun other => decide (placed.1.lastSeq < other.seq)) =
      (frame :: rest).filter fun other => decide (placed.1.lastSeq < other.seq) := by
  have last : placed.1.lastSeq = frame.seq + written.length := replays.lastSeq
  rw [replays.left, List.filter_cons_of_neg]
  rw [decide_eq_true_eq]
  omega

theorem replayRun_replays (frames : List Frame) (entry : Entry) (sorted : Sorted frames) :
    ∃ written, Replays frames entry (replayRun frames entry) written := by
  induction frames generalizing entry with
  | nil =>
      refine ⟨[], rfl, ⟨rfl, ?_, ?_⟩, rfl⟩
      · intro frame listed
        cases listed
      · intro frame listed
        cases listed
  | cons frame rest ih =>
      have later : Sorted rest := List.Pairwise.of_cons sorted
      rw [replayRun_cons]
      split
      · next passed =>
          obtain ⟨written, replays⟩ := ih entry later
          exact ⟨written, replays.skip passed⟩
      · next ahead =>
          split
          · next differs => exact ⟨[], Replays.gap sorted (by omega)⟩
          · next adjacent =>
              have next : frame.seq = entry.lastSeq + 1 := not_not.mp adjacent
              obtain ⟨written, replays⟩ := ih (paintFrame frame entry) later
              refine ⟨frame :: written, replays.painted, ?_, replays.written_left⟩
              rw [← next]
              exact replays.run.cons

/-! ### The frames past the cursor -/

theorem find_orderedInsert (frame : Frame) (frames : List Frame) (number : Int) :
    (frames.orderedInsert (fun left right => left.seq ≤ right.seq) frame).find? (isNumbered number) =
      (frame :: frames).find? (isNumbered number) := by
  induction frames with
  | nil => rfl
  | cons first rest ih =>
      rw [List.orderedInsert_cons]
      split
      · rfl
      · next above =>
          -- The frame goes behind one with a lower number, which cannot have the same one.
          by_cases here : frame.seq = number
          · have notFirst : ¬isNumbered number first = true := by
              rw [isNumbered, decide_eq_true_eq]
              omega
            have isFrame : isNumbered number frame = true := decide_eq_true here
            rw [List.find?_cons_of_neg notFirst, ih, List.find?_cons_of_pos isFrame,
              List.find?_cons_of_pos isFrame]
          · have notFrame : ¬isNumbered number frame = true := by
              rw [isNumbered, decide_eq_true_eq]
              exact here
            rw [List.find?_cons_of_neg notFrame]
            by_cases first' : isNumbered number first = true
            · rw [List.find?_cons_of_pos first', List.find?_cons_of_pos first']
            · rw [List.find?_cons_of_neg first', List.find?_cons_of_neg first', ih,
                List.find?_cons_of_neg notFrame]

/-- Sorting leaves, of the frames with one number, the first one first. -/
theorem find_insertionSort (frames : List Frame) (number : Int) :
    (frames.insertionSort fun left right => left.seq ≤ right.seq).find? (isNumbered number) =
      frames.find? (isNumbered number) := by
  induction frames with
  | nil => rfl
  | cons frame rest ih =>
      rw [List.insertionSort_cons, find_orderedInsert]
      by_cases here : isNumbered number frame = true
      · rw [List.find?_cons_of_pos here, List.find?_cons_of_pos here]
      · rw [List.find?_cons_of_neg here, List.find?_cons_of_neg here, ih]

theorem find_heldPast (entry : Entry) {number : Int} (past : entry.lastSeq < number) :
    (heldPast entry).find? (isNumbered number) = entry.pendingFrames.find? (isNumbered number) := by
  rw [heldPast, find_insertionSort, List.find?_filter]
  congr 1
  funext frame
  by_cases numbered : frame.seq = number
  · simp [isNumbered, numbered, past]
  · simp [isNumbered, numbered]

theorem mem_heldPast_iff {entry : Entry} {frame : Frame} :
    frame ∈ heldPast entry ↔ frame ∈ entry.pendingFrames ∧ entry.lastSeq < frame.seq := by
  rw [heldPast, List.mem_insertionSort, List.mem_filter, decide_eq_true_eq]

theorem heldPast_sorted (entry : Entry) : Sorted (heldPast entry) := by
  have total : Std.Total fun left right : Frame => left.seq ≤ right.seq :=
    ⟨fun left right => Int.le_total left.seq right.seq⟩
  have trans : IsTrans Frame fun left right => left.seq ≤ right.seq :=
    ⟨fun _ _ _ first second => Int.le_trans first second⟩
  exact List.pairwise_insertionSort _ _

theorem LongestRun.ofPast {entry : Entry} {start : Int} {written : List Frame}
    (run : LongestRun (heldPast entry) start written) (past : entry.lastSeq < start) :
    LongestRun entry.pendingFrames start written := by
  constructor
  · exact run.numbers
  · intro frame listed
    have above := run.above frame listed
    rw [← find_heldPast entry (by omega)]
    exact run.first frame listed
  · intro frame listed same
    have held : frame ∈ heldPast entry := mem_heldPast_iff.2 ⟨listed, by omega⟩
    exact run.stops frame held same

/-! ### The drain -/

/-- Where a replay of sorted frames starts, and what it leaves. -/
structure Places (frames : List Frame) (entry : Entry) (placed : Entry × List Frame) (start : Int)
    (written : List Frame) : Prop where
  painted : placed.1 = paintFrames written entry
  run : LongestRun frames start written
  left : placed.2.filter (fun frame => decide (placed.1.lastSeq < frame.seq)) =
    frames.filter fun frame => decide (placed.1.lastSeq < frame.seq)
  nothing : frames = [] → written = []
  known : 0 ≤ entry.lastSeq → start = entry.lastSeq + 1
  unknown : entry.lastSeq < 0 → ∀ first rest, frames = first :: rest → start = first.seq

theorem replay_places (frames : List Frame) (entry : Entry) (sorted : Sorted frames) :
    ∃ start written, Places frames entry (replay frames entry) start written := by
  cases frames with
  | nil =>
      obtain ⟨written, replays⟩ := replayRun_replays [] entry sorted
      refine ⟨entry.lastSeq + 1, [], rfl, ⟨rfl, ?_, ?_⟩, rfl, fun _ => rfl, fun _ => rfl, ?_⟩
      · intro frame listed
        cases listed
      · intro frame listed
        cases listed
      · intro _ first rest shape
        cases shape
  | cons first rest =>
      rw [replay]
      split
      · next unknown =>
          obtain ⟨written, replays⟩ := replayRun_replays rest (paintFrame first entry)
            (List.Pairwise.of_cons sorted)
          refine ⟨first.seq, first :: written, replays.painted, replays.run.cons,
            replays.written_left, ?_, ?_, ?_⟩
          · intro empty
            cases empty
          · intro known
            omega
          · intro _ head tail shape
            rw [(List.cons.inj shape).1]
      · next known =>
          obtain ⟨written, replays⟩ := replayRun_replays (first :: rest) entry sorted
          refine ⟨entry.lastSeq + 1, written, replays.painted, replays.run, replays.left, ?_,
            fun _ => rfl, ?_⟩
          · intro empty
            cases empty
          · intro unknown
            exact absurd unknown known

/-- The numbers held past the cursor. -/
def numbersPast (entry : Entry) : Set Int :=
  { number | entry.lastSeq < number ∧ ∃ frame ∈ entry.pendingFrames, frame.seq = number }

/-- Where the run starts: past a known position, or at the lowest number held past an
unknown one. -/
def Starts (entry : Entry) (start : Int) : Prop :=
  (0 ≤ entry.lastSeq ∧ start = entry.lastSeq + 1) ∨
    (entry.lastSeq < 0 ∧ IsLeast (numbersPast entry) start)

theorem Starts.past {entry : Entry} {start : Int} (starts : Starts entry start) :
    entry.lastSeq < start := by
  rcases starts with ⟨_, rfl⟩ | ⟨_, least⟩
  · omega
  · exact least.1.1

theorem heldPast_head {entry : Entry} {first : Frame} {rest : List Frame}
    (shape : heldPast entry = first :: rest) : IsLeast (numbersPast entry) first.seq := by
  have sorted := heldPast_sorted entry
  rw [shape] at sorted
  constructor
  · have member : first ∈ heldPast entry := by
      rw [shape]
      exact List.mem_cons_self
    obtain ⟨held, past⟩ := mem_heldPast_iff.1 member
    exact ⟨past, first, held, rfl⟩
  · rintro number ⟨past, frame, held, rfl⟩
    have member : frame ∈ first :: rest := by
      rw [← shape]
      exact mem_heldPast_iff.2 ⟨held, past⟩
    rcases List.mem_cons.mp member with rfl | later
    · exact Int.le_refl _
    · exact List.rel_of_pairwise_cons sorted later

theorem Places.starts {entry before : Entry} {placed : Entry × List Frame} {start other : Int}
    {written : List Frame} (places : Places (heldPast entry) before placed start written)
    (same : before.lastSeq = entry.lastSeq) (starts : Starts entry other) : start = other := by
  rcases starts with ⟨known, rfl⟩ | ⟨unknown, least⟩
  · rw [← same] at known ⊢
    exact places.known known
  · obtain ⟨past, frame, held, numbered⟩ := least.1
    cases shape : heldPast entry with
    | nil =>
        have member : frame ∈ heldPast entry := mem_heldPast_iff.2 ⟨held, by omega⟩
        rw [shape] at member
        cases member
    | cons first rest =>
        rw [places.unknown (by omega) first rest shape]
        exact (heldPast_head shape).unique least

/-- What a drain writes, where it stops and what it keeps. -/
structure Drains (entry after : Entry) (owed : Bool) (written : List Frame) : Prop where
  screen : after.screen = entry.screen ++ written.map fun frame => .frame frame.seq frame.output
  run : ∀ start, Starts entry start → LongestRun entry.pendingFrames start written
  nothing : (∀ frame ∈ entry.pendingFrames, frame.seq ≤ entry.lastSeq) → written = []
  lastSeq : after.lastSeq = (written.getLast?.map Frame.seq).getD entry.lastSeq
  kept : after.pendingFrames.Perm
    (entry.pendingFrames.filter fun frame => decide (after.lastSeq < frame.seq))
  owed : owed = true ↔ ∃ frame ∈ entry.pendingFrames, after.lastSeq < frame.seq

/-- The cursor does not go back over a run that starts past it. -/
theorem Places.onward {entry before : Entry} {placed : Entry × List Frame} {start : Int}
    {written : List Frame} (places : Places (heldPast entry) before placed start written)
    (same : before.lastSeq = entry.lastSeq) : entry.lastSeq ≤ placed.1.lastSeq := by
  rw [places.painted, paintFrames_lastSeq]
  cases last : written.getLast? with
  | none => exact same ▸ Int.le_refl _
  | some frame =>
      have found := places.run.first frame (List.mem_of_getLast? last)
      have past := (mem_heldPast_iff.1 (List.mem_of_find?_eq_some found)).2
      rw [Option.map_some, Option.getD_some]
      omega

/-- What is left of the frames past the cursor is what is left of all those held. -/
theorem heldPast_left {entry : Entry} {last : Int} (onward : entry.lastSeq ≤ last) :
    ((heldPast entry).filter fun frame => decide (last < frame.seq)).Perm
      (entry.pendingFrames.filter fun frame => decide (last < frame.seq)) := by
  have sorted : (heldPast entry).Perm
      (entry.pendingFrames.filter fun frame => decide (entry.lastSeq < frame.seq)) :=
    List.perm_insertionSort _ _
  have left := sorted.filter fun frame => decide (last < frame.seq)
  rw [List.filter_filter] at left
  refine left.trans (.of_eq (List.filter_congr ?_))
  intro frame _
  by_cases past : last < frame.seq
  · have before : entry.lastSeq < frame.seq := by omega
    simp [past, before]
  · simp [past]

theorem drainHeldFrames_drains (entry : Entry) (intact : entry.pendingOverflowed = false) :
    ∃ written, Drains entry (drainHeldFrames entry).1 (drainHeldFrames entry).2 written := by
  obtain ⟨start, written, places⟩ :=
    replay_places (heldPast entry) { entry with pendingFrames := [] } (heldPast_sorted entry)
  have onward := places.onward rfl
  have kept := heldPast_left onward
  rw [← places.left] at kept
  have drained : drainHeldFrames entry =
      (let placed := replay (heldPast entry) { entry with pendingFrames := [] }
       let remainder := placed.2.filter fun frame => decide (placed.1.lastSeq < frame.seq)
       ({ placed.1 with pendingFrames := remainder }, !remainder.isEmpty)) := by
    rw [drainHeldFrames, intact]
    rfl
  rw [drained]
  refine ⟨written, ?_, ?_, ?_, ?_, kept, ?_⟩
  · exact (congrArg Entry.screen places.painted).trans (paintFrames_screen written _)
  · intro other starts
    rw [← places.starts rfl starts]
    exact places.run.ofPast ((places.starts rfl starts).symm ▸ starts.past)
  · intro passed
    apply places.nothing
    rw [List.eq_nil_iff_forall_not_mem]
    intro frame member
    obtain ⟨held, past⟩ := mem_heldPast_iff.1 member
    exact absurd past (not_lt.mpr (passed frame held))
  · exact (congrArg Entry.lastSeq places.painted).trans (paintFrames_lastSeq written _)
  · rw [Bool.not_eq_true', List.isEmpty_eq_false_iff_exists_mem]
    constructor
    · rintro ⟨frame, member⟩
      obtain ⟨held, past⟩ := List.mem_filter.mp (kept.mem_iff.mp member)
      exact ⟨frame, held, of_decide_eq_true past⟩
    · rintro ⟨frame, held, past⟩
      exact ⟨frame, kept.mem_iff.mpr (List.mem_filter.mpr ⟨held, decide_eq_true past⟩)⟩

/-- **For every cursor and every list of held frames, a queue that did not overflow is written
as the longest run from where the console is, and the rest is kept; an overflowed one is
emptied.** -/
theorem drained_to_longest_run (entry : Entry) :
    (entry.pendingOverflowed = false →
      ∃ written, Drains entry (drainHeldFrames entry).1 (drainHeldFrames entry).2 written) ∧
    (entry.pendingOverflowed = true → drainHeldFrames entry =
      ({ entry with pendingFrames := [], pendingOverflowed := false }, false)) := by
  constructor
  · exact drainHeldFrames_drains entry
  · intro overflowed
    rw [drainHeldFrames, overflowed]
    rfl

/-- A console that shows a snapshot of everything up to a number. -/
def consoleAt (lastSeq : Int) (held : List Frame) : Entry :=
  ⟨"t", lastSeq, true, held, false, 0, [.snapshot lastSeq "screen"], true⟩

example : (drainHeldFrames (consoleAt 5 [⟨9, "i"⟩, ⟨7, "g"⟩, ⟨6, "f"⟩, ⟨7, "again"⟩, ⟨4, "d"⟩])).1.screen =
    [.snapshot 5 "screen", .frame 6 "f", .frame 7 "g"] := by decide

/-- A frame held after the queue overflowed is dropped with the mark, and a frame numbered as an
unknown position is spelled is passed over. -/
theorem held_frames_dropped :
    (¬∃ written, Drains { consoleAt 5 [⟨6, "f"⟩] with pendingOverflowed := true }
      (drainHeldFrames { consoleAt 5 [⟨6, "f"⟩] with pendingOverflowed := true }).1
      (drainHeldFrames { consoleAt 5 [⟨6, "f"⟩] with pendingOverflowed := true }).2 written) ∧
    (drainHeldFrames (consoleAt (-1) [⟨-1, "a"⟩])).1.screen = (consoleAt (-1) []).screen := by
  constructor
  · rintro ⟨written, drains⟩
    have owed := drains.owed.mpr ⟨⟨6, "f"⟩, by decide, by decide⟩
    revert owed
    decide
  · decide

end AifyComms.HeldFrames
