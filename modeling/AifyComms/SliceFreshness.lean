import AifyComms.ChangeRefresh

/-!
The dashboard's refreshes as one slice sees them. A slice that shows older data than its
last change is covered by one of three things: a full refresh that is still owed, the
slice's own place among the pending ones, or the fetches under way, whose answers will
either be current or be found to have been overwritten.

The two fetches that can be under way are compared by their generations, so the third case
depends on which of them started first.
-/

namespace AifyComms.SliceFreshness
open ChangeRefresh

structure BundleView where
  startedAt : Nat
  generation : Nat
  paintsBefore : Nat
  progress : Progress

structure FlushView where
  generation : Nat
  progress : Progress

/-- What of a page concerns one slice. `owed` is a full refresh that is queued, timed or held
back by a hidden page; `flush` is a flush that fetches the slice. -/
@[ext]
structure View where
  connected : Bool
  owed : Bool
  wanted : Option Nat
  shownGeneration : Nat
  painted : Option Paint
  paints : Nat
  generation : Nat
  clock : Nat
  moment : Nat
  bundle : Option BundleView
  flush : Option FlushView
  change : Option Nat
  screen : Option Shown

/-- The data a fetch has read, if it has, is no older than the last change. -/
def Covers (change : Option Nat) : Progress → Prop
  | .read moment => ∀ at_, change = some at_ → at_ ≤ moment
  | .painted moment => ∀ at_, change = some at_ → at_ ≤ moment
  | _ => True

namespace View

/-- The slice was last painted with data read no earlier than its last change. -/
def Current (view : View) : Prop :=
  ∀ at_, view.change = some at_ → ∃ shown, view.screen = some shown ∧ at_ ≤ shown.read

def paintedOlder (view : View) (bundle : BundleView) : Bool :=
  view.painted.any fun painted =>
    decide (painted.generation < bundle.generation ∧ bundle.paintsBefore < painted.seq)

/-- The slice is pending since before the bundle started, so the bundle will take it off the
pending ones. -/
def Stuck (view : View) : Prop :=
  ∃ bundle at_, view.bundle = some bundle ∧ view.wanted = some at_ ∧ at_ < bundle.startedAt

/-- A bundle that no flush can paint over from here on leaves the slice current, or its
acknowledgement asks for the slice again. -/
def BundleLands (view : View) (bundle : BundleView) : Prop :=
  bundle.progress = .failed ∨ bundle.generation < view.shownGeneration ∨
    view.paintedOlder bundle = true ∨
    (bundle.progress.isOpen = false ∧ view.Current) ∨
    (bundle.progress.isOpen = true ∧ Covers view.change bundle.progress)

def FlushLands (view : View) (flush : FlushView) : Prop :=
  flush.progress = .failed ∨ flush.generation < view.shownGeneration ∨
    (flush.progress.isOpen = false ∧ view.Current) ∨
    (flush.progress.isOpen = true ∧ Covers view.change flush.progress)

/-- A flush and a bundle that started before it. Acknowledged first, the bundle leaves the
slice to the flush, so the flush has to cover the change. -/
def BothLand (view : View) (bundle : BundleView) (flush : FlushView) : Prop :=
  flush.progress = .failed ∨ bundle.progress = .failed ∨
    bundle.generation < view.shownGeneration ∨ view.paintedOlder bundle = true ∨
    (flush.progress.isOpen = true ∧ Covers view.change flush.progress) ∨
    ∃ moment, flush.progress = .painted moment ∧ Covers view.change (.painted moment) ∧
      (bundle.progress.isOpen = true ∨ view.Current ∨
        ∃ older, bundle.progress = .painted older ∧
          view.screen = some ⟨older, bundle.generation⟩)

/-- The fetches under way leave the slice current, or ask for it again. A flush that started
before the bundle and has painted the slice is found by the bundle's acknowledgement, or
finds the bundle itself. -/
def Held (view : View) : Prop :=
  match view.bundle, view.flush with
  | none, none => view.Current
  | some bundle, none => view.BundleLands bundle
  | none, some flush => view.FlushLands flush
  | some bundle, some flush =>
      if flush.generation < bundle.generation then
        (flush.progress.isOpen = false ∧ flush.progress ≠ .failed) ∨ view.BundleLands bundle
      else view.BothLand bundle flush

def Tracked (view : View) : Prop :=
  view.connected = true →
    view.owed = true ∨ (view.wanted.isSome = true ∧ ¬ view.Stuck) ∨ view.Held

/-- How the counters and the clock relate the fetches under way. -/
structure Ordered (view : View) : Prop where
  bundle : ∀ bundle, view.bundle = some bundle →
    bundle.startedAt ≤ view.clock ∧ bundle.generation ≤ view.generation ∧
      bundle.paintsBefore ≤ view.paints
  flush : ∀ flush, view.flush = some flush → flush.generation ≤ view.generation
  apart : ∀ bundle flush, view.bundle = some bundle → view.flush = some flush →
    flush.generation ≠ bundle.generation
  change : ∀ at_, view.change = some at_ → at_ ≤ view.moment
  stuck : ∀ flush, view.flush = some flush → ∀ bundle at_, view.bundle = some bundle →
    view.wanted = some at_ → at_ < bundle.startedAt → flush.generation < bundle.generation

structure Kept (view : View) : Prop where
  ordered : view.Ordered
  tracked : view.Tracked

/-! ### What does not touch the slice -/

theorem Held.congr {view after : View} (bundle : after.bundle = view.bundle)
    (flush : after.flush = view.flush)
    (shownGeneration : after.shownGeneration = view.shownGeneration)
    (painted : after.painted = view.painted) (change : after.change = view.change)
    (screen : after.screen = view.screen) (held : view.Held) : after.Held := by
  unfold Held BundleLands FlushLands BothLand paintedOlder Current at held ⊢
  rw [bundle, flush, shownGeneration, painted, change, screen]
  exact held

theorem Stuck.congr {view after : View} (bundle : after.bundle = view.bundle)
    (wanted : after.wanted = view.wanted) (stuck : after.Stuck) : view.Stuck := by
  unfold Stuck at stuck ⊢
  rw [← bundle, ← wanted]
  exact stuck

/-- Time passes, other slices are painted and fetched, and a full refresh may become owed. -/
structure Later (view after : View) : Prop where
  connected : after.connected = view.connected
  wanted : after.wanted = view.wanted
  shownGeneration : after.shownGeneration = view.shownGeneration
  painted : after.painted = view.painted
  bundle : after.bundle = view.bundle
  flush : after.flush = view.flush
  change : after.change = view.change
  screen : after.screen = view.screen
  owed : view.owed = true → after.owed = true
  clock : view.clock ≤ after.clock
  moment : view.moment ≤ after.moment
  generation : view.generation ≤ after.generation
  paints : view.paints ≤ after.paints

theorem Later.ordered {view after : View} (later : Later view after) (ordered : view.Ordered) :
    after.Ordered where
  bundle := by
    intro bundle running
    rw [later.bundle] at running
    obtain ⟨started, generation, paints⟩ := ordered.bundle bundle running
    exact ⟨Nat.le_trans started later.clock, Nat.le_trans generation later.generation,
      Nat.le_trans paints later.paints⟩
  flush := by
    intro flush running
    rw [later.flush] at running
    exact Nat.le_trans (ordered.flush flush running) later.generation
  apart := by
    rw [later.bundle, later.flush]
    exact ordered.apart
  change := by
    intro at_ changed
    rw [later.change] at changed
    exact Nat.le_trans (ordered.change at_ changed) later.moment
  stuck := by
    rw [later.bundle, later.flush, later.wanted]
    exact ordered.stuck

theorem Later.kept {view after : View} (later : Later view after) (kept : view.Kept) :
    after.Kept where
  ordered := later.ordered kept.ordered
  tracked := by
    intro connected
    rw [later.connected] at connected
    rcases kept.tracked connected with owed | ⟨wanted, free⟩ | held
    · exact .inl (later.owed owed)
    · refine .inr (.inl ⟨?_, fun stuck => free (stuck.congr later.bundle later.wanted)⟩)
      rw [later.wanted]
      exact wanted
    · exact .inr (.inr (held.congr later.bundle later.flush later.shownGeneration later.painted
        later.change later.screen))

/-! ### The full refresh -/

/-- The slice is no longer pending, and the last change may be a new one. -/
theorem Ordered.cleared {view : View} (ordered : view.Ordered) (connected : Bool)
    (change : Option Nat) (known : ∀ at_, change = some at_ → at_ ≤ view.moment) :
    Ordered { view with connected := connected, wanted := none, change := change } where
  bundle := ordered.bundle
  flush := ordered.flush
  apart := ordered.apart
  change := known
  stuck := by
    intro flush _ bundle at_ _ wanted
    cases wanted

/-- A bundle that starts, whatever is owed beside it. -/
def launched (view : View) (owed : Bool) : View :=
  { view with
    owed := owed
    generation := view.generation + 1
    bundle := some ⟨view.clock, view.generation + 1, view.paints, .waiting⟩ }

theorem launched_kept {view : View} (ordered : view.Ordered) (owed : Bool) :
    (view.launched owed).Kept where
  ordered :=
    { bundle := by
        intro bundle running
        obtain rfl := Option.some.inj running
        exact ⟨Nat.le_refl _, Nat.le_refl _, Nat.le_refl _⟩
      flush := fun flush running => Nat.le_succ_of_le (ordered.flush flush running)
      apart := by
        intro bundle flush running fetching
        obtain rfl := Option.some.inj running
        exact Nat.ne_of_lt (Nat.lt_succ_of_le (ordered.flush flush fetching))
      change := ordered.change
      stuck := by
        intro flush fetching bundle at_ running _ _
        obtain rfl := Option.some.inj running
        exact Nat.lt_succ_of_le (ordered.flush flush fetching) }
  tracked := by
    intro _
    have lands : (view.launched owed).BundleLands
        ⟨view.clock, view.generation + 1, view.paints, .waiting⟩ :=
      .inr (.inr (.inr (.inr ⟨rfl, trivial⟩)))
    refine .inr (.inr ?_)
    cases fetching : view.flush with
    | none => simpa only [Held, launched, fetching] using lands
    | some flush =>
        have older := Nat.lt_succ_of_le (ordered.flush flush fetching)
        simp only [Held, launched, fetching, if_pos older]
        exact .inr lands

/-- What a call of `refresh` comes to: a page that owes one, or a bundle that starts. -/
def Refreshed (view after : View) : Prop :=
  (after = { view with owed := true }) ∨
    (view.bundle = none ∧ ∃ owed, after = view.launched owed)

theorem Refreshed.kept {view after : View} (refreshed : Refreshed view after)
    (ordered : view.Ordered) : after.Kept := by
  rcases refreshed with rfl | ⟨_, owed, rfl⟩
  · exact ⟨⟨ordered.bundle, ordered.flush, ordered.apart, ordered.change, ordered.stuck⟩,
      fun _ => .inl rfl⟩
  · exact launched_kept ordered owed

/-! ### The socket -/

theorem closed_kept {view : View} (ordered : view.Ordered) :
    Kept { view with connected := false, wanted := none } where
  ordered := ordered.cleared false view.change ordered.change
  tracked := fun connected => by cases connected

/-- An event that follows the last one and names the slice. -/
def named (view : View) : View :=
  { view with change := some view.moment, wanted := some (view.wanted.getD view.clock) }

/-- A time that a slice is wanted at since now or since before is before the bundle's start
only if it was. -/
theorem wanted_before {view : View} (ordered : view.Ordered) {bundle : BundleView} {at_ : Nat}
    (running : view.bundle = some bundle) (wanted : some (view.wanted.getD view.clock) = some at_)
    (before : at_ < bundle.startedAt) : view.wanted = some at_ := by
  obtain rfl := Option.some.inj wanted
  cases pending : view.wanted with
  | some since => rfl
  | none =>
      rw [pending] at before
      exact absurd (ordered.bundle bundle running).1 (Nat.not_le_of_lt before)

/-- A bundle that has yet to read the slice, or failed to, covers whatever changed. -/
theorem BundleLands.unread {view : View} {bundle : BundleView}
    (unread : bundle.progress = .waiting ∨ bundle.progress = .failed) :
    view.BundleLands bundle := by
  rcases unread with waiting | failed
  · refine .inr (.inr (.inr (.inr ?_)))
    rw [waiting]
    exact ⟨rfl, trivial⟩
  · exact .inl failed

theorem named_kept {view : View} (kept : view.Kept)
    (unread : ∀ bundle at_, view.bundle = some bundle → view.wanted = some at_ →
      at_ < bundle.startedAt → bundle.progress = .waiting ∨ bundle.progress = .failed) :
    view.named.Kept where
  ordered :=
    { bundle := kept.ordered.bundle
      flush := kept.ordered.flush
      apart := kept.ordered.apart
      change := by
        intro at_ changed
        obtain rfl := Option.some.inj changed
        exact Nat.le_refl _
      stuck := by
        intro flush fetching bundle at_ running wanted before
        exact kept.ordered.stuck flush fetching bundle at_ running
          (wanted_before kept.ordered running wanted before) before }
  tracked := by
    intro connected
    by_cases stuck : view.named.Stuck
    · obtain ⟨bundle, at_, running, wanted, before⟩ := stuck
      have running : view.bundle = some bundle := running
      have since := wanted_before kept.ordered running wanted before
      have lands : view.named.BundleLands bundle := .unread (unread bundle at_ running since before)
      refine .inr (.inr ?_)
      cases fetching : view.flush with
      | none => simpa only [Held, named, running, fetching] using lands
      | some flush =>
          have older := kept.ordered.stuck flush fetching bundle at_ running since before
          simp only [Held, named, running, fetching, if_pos older]
          exact .inr lands
    · exact .inr (.inl ⟨rfl, stuck⟩)

/-! ### A flush starts -/

/-- A flush that fetches the slice, or finds the page hidden. -/
def flushing (view : View) (hidden : Bool) : View :=
  { view with
    wanted := none
    generation := view.generation + 1
    flush := some ⟨view.generation + 1, if hidden then .skipped else .waiting⟩
    owed := view.owed || hidden }

theorem flushing_kept {view : View} (ordered : view.Ordered) (hidden : Bool) :
    (view.flushing hidden).Kept where
  ordered :=
    { bundle := by
        intro bundle running
        obtain ⟨started, generation, paints⟩ := ordered.bundle bundle running
        exact ⟨started, Nat.le_succ_of_le generation, paints⟩
      flush := by
        intro flush fetching
        obtain rfl := Option.some.inj fetching
        exact Nat.le_refl _
      apart := by
        intro bundle flush running fetching
        obtain rfl := Option.some.inj fetching
        exact Nat.ne_of_gt (Nat.lt_succ_of_le (ordered.bundle bundle running).2.1)
      change := ordered.change
      stuck := by
        intro flush _ bundle at_ _ wanted
        cases wanted }
  tracked := by
    intro _
    cases hidden with
    | true => exact .inl (Bool.or_true _)
    | false =>
        refine .inr (.inr ?_)
        cases running : view.bundle with
        | none =>
            simp only [Held, flushing, running]
            exact .inr (.inr (.inr ⟨rfl, trivial⟩))
        | some bundle =>
            have older := Nat.lt_succ_of_le (ordered.bundle bundle running).2.1
            simp only [Held, flushing, running, if_neg (Nat.not_lt_of_gt older)]
            exact .inr (.inr (.inr (.inr (.inl ⟨rfl, trivial⟩))))

/-! ### The bundle reads, paints and fails -/

def bundleAt (view : View) (bundle : BundleView) (progress : Progress) : View :=
  { view with bundle := some { bundle with progress := progress } }

/-- Moving a fetch or the screen leaves what the counters say. -/
theorem Ordered.bundleAt {view : View} (ordered : view.Ordered) {bundle : BundleView}
    (running : view.bundle = some bundle) (progress : Progress) (screen : Option Shown) :
    Ordered { view.bundleAt bundle progress with screen := screen } where
  bundle := by
    intro moved same
    obtain rfl := Option.some.inj same
    exact ordered.bundle bundle running
  flush := ordered.flush
  apart := by
    intro moved flush same fetching
    obtain rfl := Option.some.inj same
    exact ordered.apart bundle flush running fetching
  change := ordered.change
  stuck := by
    intro flush fetching moved at_ same
    obtain rfl := Option.some.inj same
    exact ordered.stuck flush fetching bundle at_ running

/-- To keep the slice tracked, a move of the bundle has only to keep what is held. -/
theorem Kept.bundleAt {view : View} (kept : view.Kept) {bundle : BundleView}
    (running : view.bundle = some bundle) (progress : Progress) (screen : Option Shown)
    (held : view.Held → Held { view.bundleAt bundle progress with screen := screen }) :
    Kept { view.bundleAt bundle progress with screen := screen } where
  ordered := kept.ordered.bundleAt running progress screen
  tracked := by
    intro connected
    rcases kept.tracked connected with owed | ⟨wanted, free⟩ | before
    · exact .inl owed
    · refine .inr (.inl ⟨wanted, ?_⟩)
      rintro ⟨moved, at_, same, since, earlier⟩
      obtain rfl := Option.some.inj same
      exact free ⟨bundle, at_, running, since, earlier⟩
    · exact .inr (.inr (held before))

theorem bundleReads_kept {view : View} (kept : view.Kept) {bundle : BundleView}
    (running : view.bundle = some bundle) (waiting : bundle.progress = .waiting) :
    (view.bundleAt bundle (.read view.moment)).Kept := by
  refine kept.bundleAt running _ view.screen fun held => ?_
  have lands : (view.bundleAt bundle (.read view.moment)).BundleLands
      { bundle with progress := .read view.moment } :=
    .inr (.inr (.inr (.inr ⟨rfl, kept.ordered.change⟩)))
  cases fetching : view.flush with
  | none => simpa only [Held, View.bundleAt, fetching] using lands
  | some flush =>
      simp only [Held, View.bundleAt, running, fetching] at held ⊢
      split
      next => exact .inr lands
      next newer =>
        rw [if_neg newer] at held
        rcases held with failed | failed | shown | older | ahead | ⟨moment, painted, covers, _⟩
        · exact .inl failed
        · rw [waiting] at failed
          cases failed
        · exact .inr (.inr (.inl shown))
        · exact .inr (.inr (.inr (.inl older)))
        · exact .inr (.inr (.inr (.inr (.inl ahead))))
        · exact .inr (.inr (.inr (.inr (.inr ⟨moment, painted, covers, .inl rfl⟩))))

/-- Data no older than the last change makes the slice current. -/
theorem current_of_covers {view : View} {moment generation : Nat}
    (covers : Covers view.change (.painted moment))
    (screen : view.screen = some ⟨moment, generation⟩) : view.Current := by
  intro at_ changed
  exact ⟨_, screen, covers at_ changed⟩

theorem bundlePaints_kept {view : View} (kept : view.Kept) {bundle : BundleView} {moment : Nat}
    (running : view.bundle = some bundle) (read : bundle.progress = .read moment) :
    Kept { view.bundleAt bundle (.painted moment) with
      screen := some ⟨moment, bundle.generation⟩ } := by
  refine kept.bundleAt running _ _ fun held => ?_
  have lands : view.BundleLands bundle →
      BundleLands { view.bundleAt bundle (.painted moment) with
        screen := some ⟨moment, bundle.generation⟩ } { bundle with progress := .painted moment } := by
    unfold BundleLands
    rw [read]
    rintro (failed | shown | older | ⟨closed, _⟩ | ⟨_, covers⟩)
    · cases failed
    · exact .inr (.inl shown)
    · exact .inr (.inr (.inl older))
    · cases closed
    · exact .inr (.inr (.inr (.inl ⟨rfl, current_of_covers covers rfl⟩)))
  cases fetching : view.flush with
  | none =>
      simp only [Held, View.bundleAt, running, fetching] at held ⊢
      exact lands held
  | some flush =>
      simp only [Held, View.bundleAt, running, fetching] at held ⊢
      split
      next earlier =>
        rw [if_pos earlier] at held
        exact held.imp id lands
      next newer =>
        rw [if_neg newer] at held
        rcases held with failed | failed | shown | older | ahead | ⟨seen, painted, covers, _⟩
        · exact .inl failed
        · rw [read] at failed
          cases failed
        · exact .inr (.inr (.inl shown))
        · exact .inr (.inr (.inr (.inl older)))
        · exact .inr (.inr (.inr (.inr (.inl ahead))))
        · exact .inr (.inr (.inr (.inr (.inr
            ⟨seen, painted, covers, .inr (.inr ⟨moment, rfl, rfl⟩)⟩))))

theorem bundleFails_kept {view : View} (kept : view.Kept) {bundle : BundleView}
    (running : view.bundle = some bundle) : (view.bundleAt bundle .failed).Kept := by
  refine kept.bundleAt running _ view.screen fun _ => ?_
  cases fetching : view.flush with
  | none =>
      simp only [Held, View.bundleAt, fetching]
      exact .inl rfl
  | some flush =>
      simp only [Held, View.bundleAt, fetching]
      split
      · exact .inr (.inl rfl)
      · exact .inr (.inl rfl)

/-! ### The flush reads, paints and fails -/

def flushAt (view : View) (flush : FlushView) (progress : Progress) : View :=
  { view with flush := some { flush with progress := progress } }

theorem Kept.flushAt {view : View} (kept : view.Kept) {flush : FlushView}
    (fetching : view.flush = some flush) (progress : Progress) (screen : Option Shown)
    (held : view.Held → Held { view.flushAt flush progress with screen := screen }) :
    Kept { view.flushAt flush progress with screen := screen } where
  ordered :=
    { bundle := kept.ordered.bundle
      flush := by
        intro moved same
        obtain rfl := Option.some.inj same
        exact kept.ordered.flush flush fetching
      apart := by
        intro bundle moved running same
        obtain rfl := Option.some.inj same
        exact kept.ordered.apart bundle flush running fetching
      change := kept.ordered.change
      stuck := by
        intro moved same
        obtain rfl := Option.some.inj same
        exact kept.ordered.stuck flush fetching }
  tracked := by
    intro connected
    rcases kept.tracked connected with owed | waiting | before
    · exact .inl owed
    · exact .inr (.inl waiting)
    · exact .inr (.inr (held before))

theorem flushReads_kept {view : View} (kept : view.Kept) {flush : FlushView}
    (fetching : view.flush = some flush) (waiting : flush.progress = .waiting) :
    (view.flushAt flush (.read view.moment)).Kept := by
  refine kept.flushAt fetching _ view.screen fun held => ?_
  cases running : view.bundle with
  | none =>
      simp only [Held, View.flushAt, running]
      exact .inr (.inr (.inr ⟨rfl, kept.ordered.change⟩))
  | some bundle =>
      simp only [Held, View.flushAt, running, fetching] at held ⊢
      split
      next earlier =>
        rw [if_pos earlier] at held
        rcases held with ⟨closed, _⟩ | lands
        · rw [waiting] at closed
          cases closed
        · exact .inr lands
      next => exact .inr (.inr (.inr (.inr (.inl ⟨rfl, kept.ordered.change⟩))))

theorem flushPaints_kept {view : View} (kept : view.Kept) {flush : FlushView} {moment : Nat}
    (fetching : view.flush = some flush) (read : flush.progress = .read moment) :
    Kept { view.flushAt flush (.painted moment) with
      screen := some ⟨moment, flush.generation⟩ } := by
  refine kept.flushAt fetching _ _ fun held => ?_
  cases running : view.bundle with
  | none =>
      simp only [Held, View.flushAt, running, fetching, FlushLands, read] at held ⊢
      rcases held with failed | shown | ⟨closed, _⟩ | ⟨_, covers⟩
      · cases failed
      · exact .inr (.inl shown)
      · cases closed
      · exact .inr (.inr (.inl ⟨rfl, current_of_covers covers rfl⟩))
  | some bundle =>
      simp only [Held, View.flushAt, running, fetching] at held ⊢
      split
      next => exact .inl ⟨rfl, by simp⟩
      next newer =>
        rw [if_neg newer] at held
        unfold BothLand at held
        rw [read] at held
        rcases held with failed | failed | shown | older | ⟨_, covers⟩ | ⟨_, painted, _⟩
        · cases failed
        · exact .inr (.inl failed)
        · exact .inr (.inr (.inl shown))
        · exact .inr (.inr (.inr (.inl older)))
        · exact .inr (.inr (.inr (.inr (.inr
            ⟨moment, rfl, covers, .inr (.inl (current_of_covers covers rfl))⟩))))
        · cases painted

theorem flushFails_kept {view : View} (kept : view.Kept) {flush : FlushView}
    (fetching : view.flush = some flush) (unpainted : flush.progress.isOpen = true) :
    (view.flushAt flush .failed).Kept := by
  refine kept.flushAt fetching _ view.screen fun held => ?_
  cases running : view.bundle with
  | none =>
      simp only [Held, View.flushAt, running]
      exact .inl rfl
  | some bundle =>
      simp only [Held, View.flushAt, running, fetching] at held ⊢
      split
      next earlier =>
        rw [if_pos earlier] at held
        rcases held with ⟨closed, _⟩ | lands
        · rw [unpainted] at closed
          cases closed
        · exact .inr lands
      next => exact .inl rfl

/-! ### What a finished fetch reports -/

/-- The slice is wanted from now on, if it was not before. -/
def wantedFrom (wanted : Option Nat) (clock : Nat) (lost : Bool) : Option Nat :=
  if lost then some (wanted.getD clock) else wanted

/-- What the acknowledgement of a fetch writes for a slice that did not fail. -/
def shownAt (view : View) (generation seq paints : Nat) : View :=
  { view with
    shownGeneration := generation
    painted := some ⟨generation, seq⟩
    paints := paints }

/-- The bundle reported the slice failed, or its acknowledgement finds it overwritten. -/
def bundleLost (view : View) (bundle : BundleView) : Bool :=
  bundle.progress == .failed || decide (bundle.generation < view.shownGeneration) ||
    view.paintedOlder bundle

def keptSince (view : View) (startedAt : Nat) : Option Nat :=
  if view.wanted.any fun at_ => decide (at_ < startedAt) then none else view.wanted

/-- `fullyRefreshed`, for a slice that its bundle painted or failed. -/
def bundleDone (view : View) (bundle : BundleView) (seq paints : Nat) : View :=
  { (if bundle.progress = .failed then { view with paints := paints }
      else view.shownAt bundle.generation seq paints) with
    bundle := none
    wanted := wantedFrom (view.keptSince bundle.startedAt) view.clock
      (view.connected && view.bundleLost bundle) }

theorem bundleDone_ordered {view : View} (ordered : view.Ordered) (bundle : BundleView)
    (seq paints : Nat) : (view.bundleDone bundle seq paints).Ordered := by
  have others : ∀ after : View, after.bundle = none → after.flush = view.flush →
      after.generation = view.generation → after.change = view.change →
      after.moment = view.moment → after.Ordered := by
    intro after none flush generation change moment
    constructor
    · intro bundle running
      rw [none] at running
      cases running
    · rw [flush, generation]
      exact ordered.flush
    · intro bundle flush running
      rw [none] at running
      cases running
    · rw [change, moment]
      exact ordered.change
    · intro flush _ bundle at_ running
      rw [none] at running
      cases running
  unfold bundleDone
  split
  · exact others _ rfl rfl rfl rfl rfl
  · exact others _ rfl rfl rfl rfl rfl

/-- Without a bundle nothing is forgotten before it is fetched. -/
theorem free_of_no_bundle {view : View} (none : view.bundle = none) : ¬ view.Stuck := by
  rintro ⟨bundle, _, running, _⟩
  rw [none] at running
  cases running

theorem keptSince_of_free {view : View} {bundle : BundleView}
    (running : view.bundle = some bundle) (free : ¬ view.Stuck) :
    view.keptSince bundle.startedAt = view.wanted := by
  unfold keptSince
  split
  next before =>
    obtain ⟨at_, since, earlier⟩ := (Option.any_eq_true _ _).mp before
    exact absurd ⟨bundle, at_, running, since, of_decide_eq_true earlier⟩ free
  next => rfl

/-- What is held after a bundle that painted the slice and was not found overwritten. -/
theorem bundleDone_held {view : View} {bundle : BundleView} {wanted : Option Nat}
    {seq paints : Nat}
    (held : view.Held) (running : view.bundle = some bundle)
    (closed : bundle.progress.isOpen = false) (landed : bundle.progress ≠ .failed)
    (newest : ¬ bundle.generation < view.shownGeneration)
    (undisturbed : view.paintedOlder bundle = false)
    (newer : ∀ flush, view.flush = some flush → bundle.generation < flush.generation →
      ∀ moment older, flush.progress = .painted moment → bundle.progress = .painted older →
        view.screen = some ⟨older, bundle.generation⟩ → ¬ older < moment)
    (ordered : view.Ordered) :
    Held { view.shownAt bundle.generation seq paints with bundle := none, wanted := wanted } := by
  have current : view.BundleLands bundle → view.Current := by
    rintro (failed | shown | older | ⟨_, current⟩ | ⟨unfinished, _⟩)
    · exact absurd failed landed
    · exact absurd shown newest
    · rw [undisturbed] at older
      cases older
    · exact current
    · rw [closed] at unfinished
      cases unfinished
  cases fetching : view.flush with
  | none =>
      simp only [Held, running, fetching, shownAt] at held ⊢
      exact current held
  | some flush =>
      simp only [Held, running, fetching, shownAt] at held ⊢
      by_cases earlier : flush.generation < bundle.generation
      · exact .inr (.inl earlier)
      · have later : bundle.generation < flush.generation :=
          Nat.lt_of_le_of_ne (Nat.le_of_not_lt earlier)
            (ordered.apart bundle flush running fetching).symm
        rw [if_neg earlier] at held
        rcases held with failed | failed | shown | older | ahead |
          ⟨moment, painted, covers, unfinished | current | ⟨older, paintedOlder, screen⟩⟩
        · exact .inl failed
        · exact absurd failed landed
        · exact absurd shown newest
        · rw [undisturbed] at older
          cases older
        · exact .inr (.inr (.inr ahead))
        · rw [closed] at unfinished
          cases unfinished
        · refine .inr (.inr (.inl ⟨?_, current⟩))
          rw [painted]
          rfl
        · have fresh : moment ≤ older :=
            Nat.le_of_not_lt (newer flush fetching later moment older painted paintedOlder screen)
          refine .inr (.inr (.inl ⟨?_, ?_⟩))
          · rw [painted]
            rfl
          · intro at_ changed
            exact ⟨_, screen, Nat.le_trans (covers at_ changed) fresh⟩

theorem bundleDone_kept {view : View} (kept : view.Kept) {bundle : BundleView}
    (running : view.bundle = some bundle) (closed : bundle.progress.isOpen = false)
    (newer : ∀ flush, view.flush = some flush → bundle.generation < flush.generation →
      ∀ moment older, flush.progress = .painted moment → bundle.progress = .painted older →
        view.screen = some ⟨older, bundle.generation⟩ → ¬ older < moment)
    (seq paints : Nat) : (view.bundleDone bundle seq paints).Kept where
  ordered := bundleDone_ordered kept.ordered bundle seq paints
  tracked := by
    by_cases lost : view.bundleLost bundle = true
    · -- Whatever the bundle lost is asked for again while the socket is up.
      intro connected
      have connected : view.connected = true := by
        unfold bundleDone at connected
        split at connected
        · exact connected
        · exact connected
      refine .inr (.inl ⟨?_, free_of_no_bundle ?_⟩)
      · simp only [bundleDone, connected, lost, Bool.true_and, wantedFrom, if_true, Option.isSome_some]
      · rfl
    · have settled : bundle.progress ≠ .failed ∧ ¬ bundle.generation < view.shownGeneration ∧
          view.paintedOlder bundle = false := by
        simpa [bundleLost, and_assoc] using lost
      obtain ⟨landed, newest, undisturbed⟩ := settled
      have after : view.bundleDone bundle seq paints =
          { view.shownAt bundle.generation seq paints with
            bundle := none
            wanted := view.keptSince bundle.startedAt } := by
        unfold bundleDone wantedFrom
        rw [if_neg landed, if_neg (by simp [lost])]
      rw [after]
      intro connected
      rcases kept.tracked connected with owed | ⟨wanted, free⟩ | held
      · exact .inl owed
      · refine .inr (.inl ⟨?_, free_of_no_bundle rfl⟩)
        rw [← keptSince_of_free running free] at wanted
        exact wanted
      · exact .inr (.inr (bundleDone_held held running closed landed newest undisturbed newer
          kept.ordered))

def flushLost (view : View) (flush : FlushView) : Bool :=
  flush.progress == .failed || decide (flush.generation < view.shownGeneration)

/-- The rest of `flush`, for a slice that it fetched. -/
def flushDone (view : View) (flush : FlushView) (seq paints : Nat) : View :=
  { (if flush.progress = .failed then { view with paints := paints }
      else view.shownAt flush.generation seq paints) with
    flush := none
    wanted := wantedFrom view.wanted view.clock (view.connected && view.flushLost flush) }

theorem flushDone_ordered {view : View} (ordered : view.Ordered) (flush : FlushView)
    {paints : Nat} (seq : Nat) (grown : view.paints ≤ paints) :
    (view.flushDone flush seq paints).Ordered := by
  have others : ∀ after : View, after.flush = none → after.bundle = view.bundle →
      after.clock = view.clock → after.paints = paints →
      after.generation = view.generation → after.change = view.change →
      after.moment = view.moment → after.Ordered := by
    intro after none same clock counted generation change moment
    constructor
    · intro bundle running
      rw [same] at running
      rw [clock, generation, counted]
      obtain ⟨started, older, before⟩ := ordered.bundle bundle running
      exact ⟨started, older, Nat.le_trans before grown⟩
    · intro flush fetching
      rw [none] at fetching
      cases fetching
    · intro bundle flush _ fetching
      rw [none] at fetching
      cases fetching
    · rw [change, moment]
      exact ordered.change
    · intro flush fetching
      rw [none] at fetching
      cases fetching
  unfold flushDone
  split
  · exact others _ rfl rfl rfl rfl rfl rfl rfl
  · exact others _ rfl rfl rfl rfl rfl rfl rfl

/-- A bundle under way finds what a flush paints: the flush is older than the bundle and
paints while it runs, or it is newer than the bundle. -/
theorem bundleLands_of_shownAt {view : View} (ordered : view.Ordered) {flush : FlushView}
    {bundle : BundleView} {seq : Nat} (paints : Nat) (fetching : view.flush = some flush)
    (running : view.bundle = some bundle) (counted : view.paints < seq) :
    (view.shownAt flush.generation seq paints).BundleLands bundle := by
  by_cases earlier : flush.generation < bundle.generation
  · have during := Nat.lt_of_le_of_lt (ordered.bundle bundle running).2.2 counted
    refine .inr (.inr (.inl ?_))
    simp [paintedOlder, shownAt, earlier, during]
  · exact .inr (.inl (Nat.lt_of_le_of_ne (Nat.le_of_not_lt earlier)
      (ordered.apart bundle flush running fetching).symm))

theorem flushDone_landed {view : View} (kept : view.Kept) {flush : FlushView} {seq paints : Nat}
    (fetching : view.flush = some flush) (closed : flush.progress.isOpen = false)
    (landed : flush.progress ≠ .failed) (counted : view.paints < seq) :
    (view.flushDone flush seq paints).Tracked := by
  intro connected
  have connected : view.connected = true := by
    unfold flushDone at connected
    rw [if_neg landed] at connected
    exact connected
  cases running : view.bundle with
  | some bundle =>
      refine .inr (.inr ?_)
      have lands := bundleLands_of_shownAt kept.ordered paints fetching running counted
      unfold flushDone
      rw [if_neg landed]
      simp only [Held, shownAt, running]
      exact lands
  | none =>
      have alone : (view.flushDone flush seq paints).bundle = none := by
        unfold flushDone
        rw [if_neg landed]
        exact running
      by_cases lost : flush.generation < view.shownGeneration
      · refine .inr (.inl ⟨?_, free_of_no_bundle alone⟩)
        simp [flushDone, wantedFrom, flushLost, connected, lost]
      · have after : view.flushDone flush seq paints =
            { view.shownAt flush.generation seq paints with flush := none } := by
          unfold flushDone wantedFrom flushLost
          rw [if_neg landed, if_neg (by simp [landed, lost])]
          rfl
        rw [after]
        rcases kept.tracked connected with owed | ⟨wanted, _⟩ | held
        · exact .inl owed
        · exact .inr (.inl ⟨wanted, free_of_no_bundle running⟩)
        · refine .inr (.inr ?_)
          simp only [Held, shownAt, running, fetching] at held ⊢
          rcases held with failed | shown | ⟨_, current⟩ | ⟨unfinished, _⟩
          · exact absurd failed landed
          · exact absurd shown lost
          · exact current
          · rw [closed] at unfinished
            cases unfinished

/-- A slice whose fetch failed is wanted again. It may have been wanted since before the
bundle under way started; then the bundle was not painted over, since the flush never painted. -/
theorem flushDone_failed {view : View} (kept : view.Kept) {flush : FlushView} (seq paints : Nat)
    (fetching : view.flush = some flush) (failed : flush.progress = .failed) :
    (view.flushDone flush seq paints).Tracked := by
  have after : ∀ _ : view.connected = true, view.flushDone flush seq paints =
      { view with
        paints := paints
        flush := none
        wanted := some (view.wanted.getD view.clock) } := by
    intro connected
    unfold flushDone wantedFrom flushLost
    rw [if_pos failed, if_pos (by simp [connected, failed])]
  intro connected
  have connected : view.connected = true := by
    unfold flushDone at connected
    rw [if_pos failed] at connected
    exact connected
  rw [after connected]
  by_cases stuck : Stuck { view with
      paints := paints, flush := none, wanted := some (view.wanted.getD view.clock) }
  · obtain ⟨bundle, at_, running, wanted, before⟩ := stuck
    have running : view.bundle = some bundle := running
    have since := wanted_before kept.ordered running wanted before
    have older := kept.ordered.stuck flush fetching bundle at_ running since before
    rcases kept.tracked connected with owed | ⟨_, free⟩ | held
    · exact .inl owed
    · exact absurd ⟨bundle, at_, running, since, before⟩ free
    · refine .inr (.inr ?_)
      simp only [Held, running, fetching, if_pos older] at held ⊢
      rcases held with ⟨_, landed⟩ | lands
      · exact absurd failed landed
      · exact lands
  · exact .inr (.inl ⟨rfl, stuck⟩)

theorem flushDone_kept {view : View} (kept : view.Kept) {flush : FlushView} {seq paints : Nat}
    (fetching : view.flush = some flush) (closed : flush.progress.isOpen = false)
    (counted : view.paints < seq) (grown : view.paints ≤ paints) :
    (view.flushDone flush seq paints).Kept where
  ordered := flushDone_ordered kept.ordered flush seq grown
  tracked := by
    by_cases failed : flush.progress = .failed
    · exact flushDone_failed kept seq paints fetching failed
    · exact flushDone_landed kept fetching closed failed counted

end View

end AifyComms.SliceFreshness
