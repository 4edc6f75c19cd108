import Mathlib.Data.List.Sort

/-!
Where a browser console's cursor is, and which frames it holds while nobody knows:
`new_dashboard/console-cursor.mjs`.

The terminal is the list of what was written to it since its last reset. A cursor of -1
is how a console spells that its position is unknown.
-/

namespace AifyComms.ConsoleCursor

/-- A `terminal_output` frame, as the socket delivers it. -/
structure Frame where
  seq : Int
  output : String
  deriving DecidableEq

/-- One write to the terminal: a snapshot with the number its answer gave it, a frame, or
a note of the dashboard's own. -/
inductive Painted where
  | snapshot (seq : Int) (text : String)
  | frame (seq : Int) (output : String)
  | note (text : String)
  deriving DecidableEq

/-- The fields of a console's entry that the cursor rules read and write. `shown` is
history: a snapshot has been painted. -/
structure Entry where
  terminalId : String
  lastSeq : Int
  resyncing : Bool
  pendingFrames : List Frame
  pendingOverflowed : Bool
  resyncPasses : Nat
  screen : List Painted
  shown : Bool
  deriving DecidableEq

/-- `MAX_HELD_FRAMES`. -/
def maxHeldFrames : Nat := 512

/-- `holdFrame`. -/
def holdFrame (frame : Frame) (entry : Entry) : Entry :=
  if maxHeldFrames ≤ entry.pendingFrames.length then
    { entry with pendingFrames := [], pendingOverflowed := true }
  else { entry with pendingFrames := entry.pendingFrames ++ [frame] }

/-- A number in an answer: not mentioned, `null`, or told. -/
inductive Told where
  | absent
  | unknown
  | number (seq : Int)
  deriving DecidableEq

/-- The `terminal` object of a console's GET. -/
structure Answer where
  outputSeq : Told
  seq : Told
  snapshot : String
  output : String
  deriving DecidableEq

/-- `cursorFromSnapshot`. -/
def cursorFromSnapshot (answer : Answer) (current : Int) : Int :=
  match answer.outputSeq, answer.seq with
  | .number told, _ => told
  | .unknown, _ => -1
  | .absent, .number told => told
  | .absent, .unknown => -1
  | .absent, .absent => current

/-- `entry.term.write` of a frame, and the cursor over it. -/
def paintFrame (frame : Frame) (entry : Entry) : Entry :=
  { entry with
    lastSeq := frame.seq
    screen := entry.screen ++ [.frame frame.seq frame.output] }

/-- The loop of `drainHeldFrames`: what it painted, and the frames it stopped at. -/
def replayRun : List Frame → Entry → Entry × List Frame
  | [], entry => (entry, [])
  | frame :: rest, entry =>
      if frame.seq ≤ entry.lastSeq then replayRun rest entry
      else if frame.seq ≠ entry.lastSeq + 1 then (entry, frame :: rest)
      else replayRun rest (paintFrame frame entry)

/-- The frames past the cursor, by number. -/
def heldPast (entry : Entry) : List Frame :=
  (entry.pendingFrames.filter fun frame => decide (entry.lastSeq < frame.seq)).insertionSort
    fun left right => left.seq ≤ right.seq

/-- The replay: an unknown position is seeded with the lowest held frame. -/
def replay : List Frame → Entry → Entry × List Frame
  | [], entry => (entry, [])
  | first :: rest, entry =>
      if entry.lastSeq < 0 then replayRun rest (paintFrame first entry)
      else replayRun (first :: rest) entry

/-- `drainHeldFrames`. The flag says that frames are left that this pass could not place. -/
def drainHeldFrames (entry : Entry) : Entry × Bool :=
  if entry.pendingOverflowed then
    ({ entry with pendingFrames := [], pendingOverflowed := false }, false)
  else
    let placed := replay (heldPast entry) { entry with pendingFrames := [] }
    let remainder := placed.2.filter fun frame => decide (placed.1.lastSeq < frame.seq)
    ({ placed.1 with pendingFrames := remainder }, !remainder.isEmpty)

def Answer.painted (answer : Answer) : String :=
  if answer.snapshot ≠ "" then answer.snapshot else answer.output

/-- `term.reset()`, the snapshot, and the cursor after it. -/
def paintSnapshot (answer : Answer) (entry : Entry) : Entry :=
  let seq := cursorFromSnapshot answer entry.lastSeq
  { entry with
    lastSeq := seq
    screen := [.snapshot seq answer.painted]
    shown := true }

def writeNote (text : String) (entry : Entry) : Entry :=
  { entry with screen := entry.screen ++ [.note text] }

/-! ### The frames on the screen -/

/-- What the screen shows of the stream. -/
def streamOf (screen : List Painted) : List Painted :=
  screen.filter fun painted =>
    match painted with
    | .note _ => false
    | _ => true

/-- `count` frames of a stream, from the one after `last`. -/
def framesAfter (stream : Int → String) (last : Int) (count : Nat) : List Painted :=
  (List.range count).map fun index : Nat => .frame (last + 1 + index) (stream (last + 1 + index))

@[simp] theorem streamOf_append (left right : List Painted) :
    streamOf (left ++ right) = streamOf left ++ streamOf right :=
  List.filter_append ..

@[simp] theorem streamOf_framesAfter (stream : Int → String) (last : Int) (count : Nat) :
    streamOf (framesAfter stream last count) = framesAfter stream last count := by
  unfold streamOf framesAfter
  rw [List.filter_eq_self]
  intro painted listed
  obtain ⟨index, _, rfl⟩ := List.mem_map.mp listed
  rfl

theorem framesAfter_append (stream : Int → String) (last : Int) (first second : Nat) :
    framesAfter stream last first ++ framesAfter stream (last + first) second =
      framesAfter stream last (first + second) := by
  unfold framesAfter
  rw [List.range_add, List.map_append, List.map_map]
  refine congrArg _ (List.map_congr_left ?_)
  intro index _
  have same : last + first + 1 + index = last + 1 + ((first + index : Nat) : Int) := by
    push_cast
    omega
  rw [Function.comp_apply, same]

/-- The frames held are frames of the stream. -/
def Authentic (stream : Int → String) (frames : List Frame) : Prop :=
  ∀ frame ∈ frames, frame.output = stream frame.seq

/-- The entry goes on from where it was: each next frame of the stream, once. -/
def Continues (stream : Int → String) (before after : Entry) : Prop :=
  ∃ count : Nat, after.lastSeq = before.lastSeq + count ∧
    after.screen = before.screen ++ framesAfter stream before.lastSeq count

theorem continues_same {stream : Int → String} {before after : Entry}
    (lastSeq : after.lastSeq = before.lastSeq) (screen : after.screen = before.screen) :
    Continues stream before after := by
  refine ⟨0, ?_, ?_⟩
  · omega
  · rw [screen, framesAfter, List.range_zero, List.map_nil, List.append_nil]

theorem Continues.trans {stream : Int → String} {first second third : Entry}
    (one : Continues stream first second) (two : Continues stream second third) :
    Continues stream first third := by
  obtain ⟨count, last, screen⟩ := one
  obtain ⟨more, lastAfter, screenAfter⟩ := two
  refine ⟨count + more, ?_, ?_⟩
  · omega
  · rw [screenAfter, screen, last, List.append_assoc, framesAfter_append]

theorem paintFrame_continues {stream : Int → String} {frame : Frame} {entry : Entry}
    (next : frame.seq = entry.lastSeq + 1) (output : frame.output = stream frame.seq) :
    Continues stream entry (paintFrame frame entry) := by
  refine ⟨1, next, ?_⟩
  simp [paintFrame, framesAfter, output, next]

theorem replayRun_cons (frame : Frame) (rest : List Frame) (entry : Entry) :
    replayRun (frame :: rest) entry =
      if frame.seq ≤ entry.lastSeq then replayRun rest entry
      else if frame.seq ≠ entry.lastSeq + 1 then (entry, frame :: rest)
      else replayRun rest (paintFrame frame entry) := rfl

theorem replayRun_continues {stream : Int → String} (frames : List Frame) (entry : Entry)
    (authentic : Authentic stream frames) :
    Continues stream entry (replayRun frames entry).1 := by
  induction frames generalizing entry with
  | nil => exact continues_same rfl rfl
  | cons frame rest ih =>
      have later : Authentic stream rest := fun other listed =>
        authentic other (List.mem_cons_of_mem _ listed)
      rw [replayRun_cons]
      split
      · exact ih entry later
      · split
        · exact continues_same rfl rfl
        next next =>
          have painted := paintFrame_continues (not_not.mp next)
            (authentic frame List.mem_cons_self)
          exact painted.trans (ih (paintFrame frame entry) later)

/-- A run writes the screen and the cursor, and nothing else. -/
theorem replayRun_writes (frames : List Frame) (entry : Entry) :
    ∃ lastSeq screen, (replayRun frames entry).1 =
      { entry with lastSeq := lastSeq, screen := screen } := by
  induction frames generalizing entry with
  | nil => exact ⟨entry.lastSeq, entry.screen, rfl⟩
  | cons frame rest ih =>
      rw [replayRun_cons]
      split
      · exact ih entry
      · split
        · exact ⟨entry.lastSeq, entry.screen, rfl⟩
        · obtain ⟨lastSeq, screen, same⟩ := ih (paintFrame frame entry)
          exact ⟨lastSeq, screen, same⟩

theorem replay_writes (frames : List Frame) (entry : Entry) :
    ∃ lastSeq screen, (replay frames entry).1 =
      { entry with lastSeq := lastSeq, screen := screen } := by
  cases frames with
  | nil => exact ⟨entry.lastSeq, entry.screen, rfl⟩
  | cons first rest =>
      rw [replay]
      split
      · obtain ⟨lastSeq, screen, same⟩ := replayRun_writes rest (paintFrame first entry)
        exact ⟨lastSeq, screen, same⟩
      · exact replayRun_writes (first :: rest) entry

/-- What a run stops at are frames it was given. -/
theorem replayRun_rest (frames : List Frame) (entry : Entry) :
    ∀ frame ∈ (replayRun frames entry).2, frame ∈ frames := by
  induction frames generalizing entry with
  | nil =>
      intro frame listed
      exact listed
  | cons first rest ih =>
      intro frame listed
      rw [replayRun_cons] at listed
      split at listed
      · exact List.mem_cons_of_mem _ (ih entry frame listed)
      · split at listed
        · exact listed
        · exact List.mem_cons_of_mem _ (ih _ frame listed)

theorem replay_rest (frames : List Frame) (entry : Entry) :
    ∀ frame ∈ (replay frames entry).2, frame ∈ frames := by
  cases frames with
  | nil =>
      intro frame listed
      exact listed
  | cons first rest =>
      intro frame listed
      rw [replay] at listed
      split at listed
      · exact List.mem_cons_of_mem _ (replayRun_rest rest _ frame listed)
      · exact replayRun_rest (first :: rest) _ frame listed

theorem mem_heldPast {entry : Entry} {frame : Frame} (listed : frame ∈ heldPast entry) :
    frame ∈ entry.pendingFrames :=
  List.mem_of_mem_filter ((List.mem_insertionSort _).mp listed)

/-- What an entry shows once a snapshot was painted: that snapshot, and then each frame of
the stream after it, up to the cursor. -/
def Contiguous (stream : Int → String) (entry : Entry) : Prop :=
  ∃ (first : Nat) (text : String) (count : Nat), entry.lastSeq = first + count ∧
    streamOf entry.screen = .snapshot first text :: framesAfter stream first count

/-- The frames an entry holds are of the stream, and what it shows is contiguous. -/
structure Sound (stream : Int → String) (entry : Entry) : Prop where
  held : Authentic stream entry.pendingFrames
  contiguous : entry.shown = true → Contiguous stream entry

theorem contiguous_known {stream : Int → String} {entry : Entry}
    (contiguous : Contiguous stream entry) : 0 ≤ entry.lastSeq := by
  obtain ⟨first, _, count, last, _⟩ := contiguous
  omega

theorem continues_contiguous {stream : Int → String} {before after : Entry}
    (continues : Continues stream before after) (contiguous : Contiguous stream before) :
    Contiguous stream after := by
  obtain ⟨first, text, count, last, screen⟩ := contiguous
  obtain ⟨more, lastAfter, screenAfter⟩ := continues
  refine ⟨first, text, count + more, ?_, ?_⟩
  · omega
  · rw [screenAfter, streamOf_append, screen, streamOf_framesAfter, last, List.cons_append,
      framesAfter_append]

theorem holdFrame_sound {stream : Int → String} {frame : Frame} {entry : Entry}
    (output : frame.output = stream frame.seq) (sound : Sound stream entry) :
    Sound stream (holdFrame frame entry) := by
  unfold holdFrame
  split
  · refine ⟨?_, sound.contiguous⟩
    intro other listed
    cases listed
  · refine ⟨?_, sound.contiguous⟩
    intro other listed
    rcases List.mem_append.mp listed with earlier | last
    · exact sound.held other earlier
    · exact List.mem_singleton.mp last ▸ output

theorem replay_continues {stream : Int → String} (frames : List Frame) (entry : Entry)
    (authentic : Authentic stream frames) (known : 0 ≤ entry.lastSeq) :
    Continues stream entry (replay frames entry).1 := by
  cases frames with
  | nil => exact continues_same rfl rfl
  | cons first rest =>
      rw [replay, if_neg (not_lt.mpr known)]
      exact replayRun_continues (first :: rest) entry authentic

theorem drainHeldFrames_sound {stream : Int → String} {entry : Entry} (sound : Sound stream entry) :
    Sound stream (drainHeldFrames entry).1 := by
  have held : Authentic stream (heldPast entry) := fun frame listed =>
    sound.held frame (mem_heldPast listed)
  unfold drainHeldFrames
  split
  · refine ⟨?_, sound.contiguous⟩
    intro frame listed
    cases listed
  · constructor
    · intro frame listed
      exact held frame (replay_rest _ _ frame (List.mem_of_mem_filter listed))
    · intro shown
      obtain ⟨lastSeq, screen, same⟩ := replay_writes (heldPast entry)
        { entry with pendingFrames := [] }
      have before : entry.shown = true := by
        have after := shown
        dsimp only at after
        rw [same] at after
        exact after
      have contiguous := sound.contiguous before
      exact continues_contiguous
        (replay_continues (heldPast entry) { entry with pendingFrames := [] } held
          (contiguous_known contiguous)) contiguous

theorem drainHeldFrames_terminal (entry : Entry) :
    (drainHeldFrames entry).1.terminalId = entry.terminalId := by
  unfold drainHeldFrames
  split
  · rfl
  · obtain ⟨lastSeq, screen, same⟩ := replay_writes (heldPast entry)
      { entry with pendingFrames := [] }
    dsimp only
    rw [same]

theorem paintSnapshot_sound {stream : Int → String} {answer : Answer} {seq : Nat} {entry : Entry}
    (numbered : answer.outputSeq = .number seq) (sound : Sound stream entry) :
    Sound stream (paintSnapshot answer entry) := by
  refine ⟨sound.held, ?_⟩
  intro _
  have cursor : cursorFromSnapshot answer entry.lastSeq = seq := by
    rw [cursorFromSnapshot, numbered]
  refine ⟨seq, answer.painted, 0, ?_, ?_⟩
  · have last : (paintSnapshot answer entry).lastSeq = seq := cursor
    omega
  · rw [paintSnapshot, cursor]
    rfl

theorem writeNote_sound {stream : Int → String} {text : String} {entry : Entry}
    (sound : Sound stream entry) : Sound stream (writeNote text entry) := by
  refine ⟨sound.held, ?_⟩
  intro shown
  obtain ⟨first, snapshot, count, last, screen⟩ := sound.contiguous shown
  refine ⟨first, snapshot, count, last, ?_⟩
  rw [writeNote, streamOf_append, screen]
  exact List.append_nil _

theorem paintNext_sound {stream : Int → String} {frame : Frame} {entry : Entry}
    (next : 0 ≤ entry.lastSeq → frame.seq = entry.lastSeq + 1)
    (output : frame.output = stream frame.seq) (sound : Sound stream entry) :
    Sound stream (paintFrame frame entry) := by
  refine ⟨sound.held, ?_⟩
  intro shown
  have contiguous := sound.contiguous shown
  exact continues_contiguous (paintFrame_continues (next (contiguous_known contiguous)) output)
    contiguous

end AifyComms.ConsoleCursor
