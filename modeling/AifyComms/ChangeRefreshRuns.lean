import AifyComms.Runs
import AifyComms.SliceFreshness

/-!
Runs of the dashboard's page: change events, full refreshes and flushes in any interleaving.
Each step of the page is one of the moves of `SliceFreshness` for every slice it shows, so a
slice stays tracked, and once nothing is under way it is current.
-/

namespace AifyComms.ChangeRefreshRuns
open ChangeRefresh SliceFreshness Runs

/-! ### The loops of the driver -/

/-- A loop body that makes its slice pending and does nothing else. -/
def Pends (now : Nat) (body : ChangeDrivenRefresh → Slice → ChangeDrivenRefresh) : Prop :=
  ∀ driver slice, ∃ due, body driver slice = driver.pend now due slice

theorem want_pends (now : Nat) (earliest : ChangeDrivenRefresh → Slice → Nat) :
    Pends now fun driver slice => driver.want now (earliest driver slice) slice :=
  fun _ _ => ⟨_, rfl⟩

theorem refetch_pends (now : Nat) : Pends now (ChangeDrivenRefresh.refetch now) :=
  fun _ _ => ⟨_, rfl⟩

/-- The wanted times once some slices are wanted. -/
def wantedWith (now : Nat) (slices : List Slice) (wantedAt : Slice → Option Nat) (slice : Slice) :
    Option Nat :=
  if slice ∈ slices then some ((wantedAt slice).getD now) else wantedAt slice

theorem wantedWith_nil (now : Nat) (wantedAt : Slice → Option Nat) :
    wantedWith now [] wantedAt = wantedAt := by
  funext slice
  exact if_neg List.not_mem_nil

/-- What making some slices pending comes to. -/
structure Pended (now : Nat) (slices : List Slice) (driver after : ChangeDrivenRefresh) :
    Prop where
  frame : after = { driver with
    pending := after.pending
    wantedAt := wantedWith now slices driver.wantedAt }
  pending : ∀ slice, (after.pending slice).isSome = true ↔
    slice ∈ slices ∨ (driver.pending slice).isSome = true

theorem foldl_pended {now : Nat} {body : ChangeDrivenRefresh → Slice → ChangeDrivenRefresh}
    (pends : Pends now body) (slices : List Slice) (driver : ChangeDrivenRefresh) :
    Pended now slices driver (slices.foldl body driver) := by
  induction slices generalizing driver with
  | nil => exact ⟨by rw [wantedWith_nil]; rfl, by simp⟩
  | cons first rest ih =>
      obtain ⟨due, one⟩ := pends driver first
      have more := ih (body driver first)
      rw [List.foldl_cons]
      generalize rest.foldl body (body driver first) = after at more ⊢
      rw [one] at more
      constructor
      · rw [more.frame]
        simp only [ChangeDrivenRefresh.pend, ChangeDrivenRefresh.mk.injEq, true_and, and_true]
        funext slice
        unfold wantedWith
        by_cases same : slice = first
        · subst same
          simp
        · simp [same]
      · intro slice
        rw [more.pending, List.mem_cons]
        by_cases same : slice = first
        · subst same
          simp [ChangeDrivenRefresh.pend]
        · simp [ChangeDrivenRefresh.pend, same]

theorem Pended.trans {now : Nat} {first second : List Slice}
    {driver middle after : ChangeDrivenRefresh} (one : Pended now first driver middle)
    (two : Pended now second middle after) : Pended now (first ++ second) driver after := by
  constructor
  · rw [two.frame, one.frame]
    simp only [ChangeDrivenRefresh.mk.injEq, true_and, and_true]
    funext slice
    unfold wantedWith
    by_cases inFirst : slice ∈ first <;> by_cases inSecond : slice ∈ second <;>
      simp [inFirst, inSecond]
  · intro slice
    rw [two.pending, one.pending, List.mem_append, or_assoc, or_left_comm]

theorem wantChanged_pended (now : Nat) (event : ChangeEvent) (driver : ChangeDrivenRefresh) :
    Pended now
      (slicesReading event.tables Slice.all ++ slicesReading event.liveness livenessSlices)
      driver (driver.wantChanged now event) :=
  (foldl_pended (want_pends now fun _ _ => now + changeDebounceMs) _ driver).trans
    (foldl_pended (want_pends now _) _ _)

theorem recoverSlices_pended (now : Nat) (failed overwritten : List Slice)
    (driver : ChangeDrivenRefresh) :
    Pended now (if driver.connected then failed ++ overwritten else []) driver
      (driver.recoverSlices now failed overwritten) := by
  unfold ChangeDrivenRefresh.recoverSlices
  split
  · exact (foldl_pended (want_pends now fun _ _ => now + retryAfterMs) failed driver).trans
      (foldl_pended (refetch_pends now) overwritten _)
  · exact foldl_pended (refetch_pends now) [] driver

/-- Forgetting some slices, in any order. -/
theorem foldl_forget (slices : List Slice) (driver : ChangeDrivenRefresh) :
    slices.foldl (fun driver slice => driver.forget slice) driver =
      { driver with
        pending := fun slice => if slice ∈ slices then none else driver.pending slice
        wantedAt := fun slice => if slice ∈ slices then none else driver.wantedAt slice } := by
  induction slices generalizing driver with
  | nil => simp
  | cons first rest ih =>
      rw [List.foldl_cons, ih]
      simp only [ChangeDrivenRefresh.forget, ChangeDrivenRefresh.mk.injEq, true_and, and_true]
      constructor <;>
      · funext slice
        by_cases same : slice = first <;> simp [same]

/-! ### The flush's timer -/

theorem scheduleFlush_frame (driver : ChangeDrivenRefresh) :
    driver.scheduleFlush = { driver with flushTimer := driver.scheduleFlush.flushTimer } := by
  unfold ChangeDrivenRefresh.scheduleFlush
  split
  · rfl
  · split
    · rfl
    · split <;> rfl

/-- Whatever is pending while no flush is under way has a timer. -/
def Armed (driver : ChangeDrivenRefresh) : Prop :=
  driver.inFlight = none → driver.flushTimer = none → ∀ slice, driver.pending slice = none

theorem scheduleFlush_armed (driver : ChangeDrivenRefresh) : Armed driver.scheduleFlush := by
  unfold ChangeDrivenRefresh.scheduleFlush
  split
  next none =>
    intro _ _ slice
    have empty := List.min?_eq_none_iff.mp none
    exact List.filterMap_eq_nil_iff.mp empty slice (Slice.mem_all slice)
  next due _ =>
    split
    next inFlight =>
      intro landed
      rw [landed] at inFlight
      cases inFlight
    · split
      next armed =>
        intro _ unarmed
        rw [unarmed] at armed
        cases armed
      · intro _ unarmed
        cases unarmed

/-! ### The acknowledgement -/

theorem shown_shownGeneration (driver : ChangeDrivenRefresh) (generation : Nat)
    {slice first : Slice} (differ : slice ≠ first) :
    (driver.shown first generation).shownGeneration slice = driver.shownGeneration slice :=
  Function.update_of_ne differ _ _

theorem shown_paintedAt (driver : ChangeDrivenRefresh) (generation : Nat)
    {slice first : Slice} (differ : slice ≠ first) :
    (driver.shown first generation).paintedAt slice = driver.paintedAt slice :=
  Function.update_of_ne differ _ _

section Acknowledge
variable (generation loaded : Nat) (paintedDuring : ChangeDrivenRefresh → Slice → Bool)

/-- What an acknowledgement leaves alone. -/
structure Acknowledged (driver after : ChangeDrivenRefresh) : Prop where
  connected : after.connected = driver.connected
  pending : after.pending = driver.pending
  wantedAt : after.wantedAt = driver.wantedAt
  flushTimer : after.flushTimer = driver.flushTimer
  inFlight : after.inFlight = driver.inFlight
  generation : after.generation = driver.generation
  paints : driver.paints ≤ after.paints

theorem acknowledge_acknowledged (slices : List Slice) (driver : ChangeDrivenRefresh) :
    Acknowledged driver (driver.acknowledge generation loaded paintedDuring slices).1 := by
  induction slices generalizing driver with
  | nil => exact ⟨rfl, rfl, rfl, rfl, rfl, rfl, Nat.le_refl _⟩
  | cons first rest ih =>
      rw [ChangeDrivenRefresh.acknowledge]
      split
      · have rest := ih (driver.shown first generation)
        exact ⟨rest.connected, rest.pending, rest.wantedAt, rest.flushTimer, rest.inFlight,
          rest.generation, Nat.le_of_succ_le rest.paints⟩
      · have rest := ih { driver.shown first generation with
          loadedAt := Function.update driver.loadedAt first (some loaded) }
        exact ⟨rest.connected, rest.pending, rest.wantedAt, rest.flushTimer, rest.inFlight,
          rest.generation, Nat.le_of_succ_le rest.paints⟩

theorem acknowledge_others {slices : List Slice} {slice : Slice} (driver : ChangeDrivenRefresh)
    (other : slice ∉ slices) :
    let done := driver.acknowledge generation loaded paintedDuring slices
    done.1.shownGeneration slice = driver.shownGeneration slice ∧
      done.1.paintedAt slice = driver.paintedAt slice ∧ slice ∉ done.2 := by
  induction slices generalizing driver with
  | nil => exact ⟨rfl, rfl, List.not_mem_nil⟩
  | cons first rest ih =>
      obtain ⟨differ, absent⟩ := not_or.mp (fun here => other (List.mem_cons.mpr here))
      dsimp only
      rw [ChangeDrivenRefresh.acknowledge]
      have sameGeneration := shown_shownGeneration driver generation differ
      have samePaint := shown_paintedAt driver generation differ
      split
      · obtain ⟨shownGeneration, paintedAt, missing⟩ := ih (driver.shown first generation) absent
        exact ⟨shownGeneration.trans sameGeneration, paintedAt.trans samePaint, fun here =>
          (List.mem_cons.mp here).elim differ missing⟩
      · obtain ⟨shownGeneration, paintedAt, missing⟩ := ih
          { driver.shown first generation with
            loadedAt := Function.update driver.loadedAt first (some loaded) } absent
        exact ⟨shownGeneration.trans sameGeneration, paintedAt.trans samePaint, missing⟩

/-- A slice that is acknowledged shows the fetch, and is reported overwritten when a later
fetch had painted it or an older one did in the meantime. -/
theorem acknowledge_landed {slices : List Slice} {slice : Slice} (driver : ChangeDrivenRefresh)
    (here : slice ∈ slices) (once : slices.Nodup)
    (ownPaint : ∀ one two : ChangeDrivenRefresh, one.paintedAt slice = two.paintedAt slice →
      paintedDuring one slice = paintedDuring two slice) :
    let done := driver.acknowledge generation loaded paintedDuring slices
    done.1.shownGeneration slice = some generation ∧
      (∃ seq, driver.paints < seq ∧ done.1.paintedAt slice = some ⟨generation, seq⟩) ∧
      (slice ∈ done.2 ↔
        (driver.overwroteNewer slice generation || paintedDuring driver slice) = true) := by
  induction slices generalizing driver with
  | nil => cases here
  | cons first rest ih =>
      obtain ⟨absent, once⟩ := List.nodup_cons.mp once
      dsimp only
      rw [ChangeDrivenRefresh.acknowledge]
      by_cases same : slice = first
      · -- The slice's own turn: what follows leaves it alone.
        subst same
        split
        next lost =>
          obtain ⟨shownGeneration, paintedAt, _⟩ := acknowledge_others generation loaded
            paintedDuring (driver.shown slice generation) absent
          simp only [ChangeDrivenRefresh.shown, Function.update_self] at shownGeneration paintedAt
          exact ⟨shownGeneration, ⟨_, Nat.lt_succ_self _, paintedAt⟩,
            iff_of_true List.mem_cons_self lost⟩
        next settled =>
          obtain ⟨shownGeneration, paintedAt, missing⟩ := acknowledge_others generation loaded
            paintedDuring { driver.shown slice generation with
              loadedAt := Function.update driver.loadedAt slice (some loaded) } absent
          simp only [ChangeDrivenRefresh.shown, Function.update_self] at shownGeneration paintedAt
          exact ⟨shownGeneration, ⟨_, Nat.lt_succ_self _, paintedAt⟩, iff_of_false missing settled⟩
      · have later := (List.mem_cons.mp here).resolve_left same
        have judged : ∀ shown : ChangeDrivenRefresh,
            shown.shownGeneration slice = driver.shownGeneration slice →
            shown.paintedAt slice = driver.paintedAt slice →
            ((shown.overwroteNewer slice generation || paintedDuring shown slice) = true ↔
              (driver.overwroteNewer slice generation || paintedDuring driver slice) = true) := by
          intro shown sameGeneration samePaint
          unfold ChangeDrivenRefresh.overwroteNewer
          rw [sameGeneration, ownPaint shown driver samePaint]
        have sameGeneration := shown_shownGeneration driver generation same
        have samePaint := shown_paintedAt driver generation same
        split
        · obtain ⟨shownGeneration, ⟨seq, counted, paintedAt⟩, lost⟩ :=
            ih (driver.shown first generation) later once
          refine ⟨shownGeneration, ⟨seq, Nat.lt_of_succ_lt counted, paintedAt⟩, ?_⟩
          rw [List.mem_cons, or_iff_right same]
          exact lost.trans (judged _ sameGeneration samePaint)
        · obtain ⟨shownGeneration, ⟨seq, counted, paintedAt⟩, lost⟩ := ih
            { driver.shown first generation with
              loadedAt := Function.update driver.loadedAt first (some loaded) } later once
          exact ⟨shownGeneration, ⟨seq, Nat.lt_of_succ_lt counted, paintedAt⟩,
            lost.trans (judged _ sameGeneration samePaint)⟩

/-- The acknowledgement of a fetch of `slices` that failed for some of them, as one slice of
them sees it. -/
theorem acknowledge_fetched {slices : List Slice} {slice : Slice} (driver : ChangeDrivenRefresh)
    (progress : Slice → Progress) (here : slice ∈ slices) (once : slices.Nodup)
    (ownPaint : ∀ one two : ChangeDrivenRefresh, one.paintedAt slice = two.paintedAt slice →
      paintedDuring one slice = paintedDuring two slice) :
    let done := driver.acknowledge generation loaded paintedDuring
      (slices.filter fun slice => progress slice != .failed)
    ∃ seq, driver.paints < seq ∧
      done.1.shownGeneration slice =
        (if progress slice = .failed then driver.shownGeneration slice else some generation) ∧
      done.1.paintedAt slice =
        (if progress slice = .failed then driver.paintedAt slice else some ⟨generation, seq⟩) ∧
      (slice ∈ slices.filter (fun slice => progress slice == .failed) ++ done.2 ↔
        (progress slice == .failed ||
          (driver.overwroteNewer slice generation || paintedDuring driver slice)) = true) := by
  dsimp only
  rw [List.mem_append, List.mem_filter, Bool.or_eq_true]
  by_cases failed : progress slice = .failed
  · have absent : slice ∉ slices.filter fun slice => progress slice != .failed := by
      simp [failed]
    obtain ⟨shownGeneration, paintedAt, _⟩ := acknowledge_others generation loaded paintedDuring
      driver absent
    refine ⟨driver.paints + 1, Nat.lt_succ_self _, ?_, ?_, ?_⟩
    · rw [if_pos failed]
      exact shownGeneration
    · rw [if_pos failed]
      exact paintedAt
    · have reported := beq_iff_eq.mpr failed
      exact iff_of_true (.inl ⟨here, reported⟩) (.inl reported)
  · have present : slice ∈ slices.filter fun slice => progress slice != .failed := by
      simp [here, failed]
    obtain ⟨shownGeneration, ⟨seq, counted, paintedAt⟩, lost⟩ :=
      acknowledge_landed generation loaded paintedDuring driver present (once.filter _) ownPaint
    refine ⟨seq, counted, ?_, ?_, ?_⟩
    · rw [if_neg failed]
      exact shownGeneration
    · rw [if_neg failed]
      exact paintedAt
    · have unreported : ¬ (progress slice == .failed) = true := by simp [failed]
      rw [or_iff_right (fun reported => unreported reported.2), or_iff_right unreported]
      exact lost

end Acknowledge

/-! ### The view of a slice -/

def viewBundle (bundle : Bundle) (slice : Slice) : BundleView :=
  ⟨bundle.startedAt, bundle.generation, bundle.paintsBefore, bundle.progress slice⟩

def viewFlush (flush : Flush) (slice : Slice) : Option FlushView :=
  (flush.fetches slice).map fun progress => ⟨flush.generation, progress⟩

def view (page : Page) (slice : Slice) : View where
  connected := page.driver.connected
  owed := page.refreshQueued || page.refreshTimer || page.stale
  wanted := page.driver.wantedAt slice
  shownGeneration := (page.driver.shownGeneration slice).getD 0
  painted := page.driver.paintedAt slice
  paints := page.driver.paints
  generation := page.driver.generation
  clock := page.clock
  moment := page.moment
  bundle := page.bundle.map fun bundle => viewBundle bundle slice
  flush := page.driver.inFlight.bind fun flush => viewFlush flush slice
  change := page.lastChange slice
  screen := page.screen slice

theorem all_nodup : Slice.all.Nodup := by
  decide

/-- Wanting some slices while connected, as one slice sees it. -/
theorem wantedWith_connected {slices : List Slice} {slice : Slice} {lost connected : Bool}
    (now : Nat) (wantedAt : Slice → Option Nat) (asked : slice ∈ slices ↔ lost = true) :
    wantedWith now (if connected then slices else []) wantedAt slice =
      View.wantedFrom (wantedAt slice) now (connected && lost) := by
  unfold wantedWith View.wantedFrom
  cases connected with
  | false => simp
  | true =>
      cases lost with
      | false => simp [asked]
      | true => simp [asked]

/-- What of a driver is written only by a fetch that starts or lands, and by the socket. -/
structure Core where
  connected : Bool
  inFlight : Option Flush
  generation : Nat
  shownGeneration : Slice → Option Nat
  paintedAt : Slice → Option Paint
  paints : Nat

def core (driver : ChangeDrivenRefresh) : Core :=
  ⟨driver.connected, driver.inFlight, driver.generation, driver.shownGeneration,
    driver.paintedAt, driver.paints⟩

theorem Pended.core {now : Nat} {slices : List Slice} {driver after : ChangeDrivenRefresh}
    (pended : Pended now slices driver after) : core after = core driver := by
  rw [pended.frame]
  rfl

theorem Pended.wantedAt {now : Nat} {slices : List Slice} {driver after : ChangeDrivenRefresh}
    (pended : Pended now slices driver after) :
    after.wantedAt = wantedWith now slices driver.wantedAt := by
  rw [pended.frame]

theorem scheduleFlush_core (driver : ChangeDrivenRefresh) :
    core driver.scheduleFlush = core driver := by
  rw [scheduleFlush_frame]
  rfl

theorem scheduleFlush_wantedAt (driver : ChangeDrivenRefresh) :
    driver.scheduleFlush.wantedAt = driver.wantedAt := by
  rw [scheduleFlush_frame]

/-- What the acknowledgement of a fetch and the recovery after it leave of a slice that the
fetch was for. `wanted` is the slice's time before the recovery. -/
structure Landed (slice : Slice) (generation now seq : Nat) (failed lost : Bool)
    (wanted : Option Nat) (driver after : ChangeDrivenRefresh) : Prop where
  connected : after.connected = driver.connected
  inFlight : after.inFlight = driver.inFlight
  started : after.generation = driver.generation
  paints : driver.paints ≤ after.paints
  counted : driver.paints < seq
  shownGeneration : after.shownGeneration slice =
    if failed then driver.shownGeneration slice else some generation
  paintedAt : after.paintedAt slice =
    if failed then driver.paintedAt slice else some ⟨generation, seq⟩
  wantedAt : after.wantedAt slice =
    View.wantedFrom wanted now (driver.connected && (failed || lost))

/-- `keep` is what happens to the pending slices between the acknowledgement and the recovery. -/
theorem recoverSlices_landed {slices : List Slice} {slice : Slice}
    (keep : ChangeDrivenRefresh → ChangeDrivenRefresh) (now generation loaded : Nat)
    (paintedDuring : ChangeDrivenRefresh → Slice → Bool) (driver : ChangeDrivenRefresh)
    (progress : Slice → Progress) (here : slice ∈ slices) (once : slices.Nodup)
    (ownPaint : ∀ one two : ChangeDrivenRefresh, one.paintedAt slice = two.paintedAt slice →
      paintedDuring one slice = paintedDuring two slice)
    (keeps : ∀ driver, core (keep driver) = core driver) :
    let done := driver.acknowledge generation loaded paintedDuring
      (slices.filter fun slice => progress slice != .failed)
    ∃ seq, Landed slice generation now seq (progress slice == .failed)
      (driver.overwroteNewer slice generation || paintedDuring driver slice)
      ((keep done.1).wantedAt slice) driver
      ((keep done.1).recoverSlices now (slices.filter fun slice => progress slice == .failed)
        done.2) := by
  obtain ⟨seq, counted, shownGeneration, paintedAt, lost⟩ :=
    acknowledge_fetched generation loaded paintedDuring driver progress here once ownPaint
  have acknowledged := acknowledge_acknowledged generation loaded paintedDuring
    (slices.filter fun slice => progress slice != .failed) driver
  dsimp only at lost ⊢
  generalize driver.acknowledge generation loaded paintedDuring
    (slices.filter fun slice => progress slice != .failed) = done
    at acknowledged shownGeneration paintedAt lost ⊢
  have pended := recoverSlices_pended now (slices.filter fun slice => progress slice == .failed)
    done.2 (keep done.1)
  generalize (keep done.1).recoverSlices now _ done.2 = after at pended ⊢
  have same : core after = core done.1 := pended.core.trans (keeps done.1)
  have up : (keep done.1).connected = driver.connected :=
    Eq.trans (congrArg Core.connected (keeps done.1)) acknowledged.connected
  have wanted := (congrFun pended.wantedAt slice).trans (wantedWith_connected now _ lost)
  rw [up] at wanted
  refine ⟨seq, ?_⟩
  constructor
  case connected => exact Eq.trans (congrArg Core.connected same) acknowledged.connected
  case inFlight => exact Eq.trans (congrArg Core.inFlight same) acknowledged.inFlight
  case started => exact Eq.trans (congrArg Core.generation same) acknowledged.generation
  case paints =>
    exact Nat.le_trans acknowledged.paints (Nat.le_of_eq (congrArg Core.paints same).symm)
  case counted => exact counted
  case shownGeneration =>
    simp only [beq_iff_eq]
    exact Eq.trans (congrFun (congrArg Core.shownGeneration same) slice) shownGeneration
  case paintedAt =>
    simp only [beq_iff_eq]
    exact Eq.trans (congrFun (congrArg Core.paintedAt same) slice) paintedAt
  case wantedAt => exact wanted

theorem Landed.scheduled {slice : Slice} {generation now seq : Nat} {failed lost : Bool}
    {wanted : Option Nat} {driver after : ChangeDrivenRefresh}
    (landed : Landed slice generation now seq failed lost wanted driver after) :
    Landed slice generation now seq failed lost wanted driver after.scheduleFlush := by
  rw [scheduleFlush_frame]
  exact ⟨landed.connected, landed.inFlight, landed.started, landed.paints, landed.counted,
    landed.shownGeneration, landed.paintedAt, landed.wantedAt⟩

/-- What `fullyRefreshed` leaves of a slice. -/
theorem fullyRefreshed_landed (now : Nat) (bundle : Bundle) (driver : ChangeDrivenRefresh)
    (slice : Slice) :
    ∃ seq, Landed slice bundle.generation now seq (bundle.progress slice == .failed)
      (driver.overwroteNewer slice bundle.generation ||
        driver.paintedOlderSince slice bundle.paintsBefore bundle.generation)
      ((driver.forgetBefore bundle.startedAt).wantedAt slice) driver
      (driver.fullyRefreshed now bundle) := by
  have acknowledged := acknowledge_acknowledged bundle.generation bundle.startedAt
    (fun driver slice =>
      driver.paintedOlderSince slice bundle.paintsBefore bundle.generation)
    (Slice.all.filter fun slice => bundle.progress slice != .failed) driver
  obtain ⟨seq, landed⟩ := recoverSlices_landed (·.forgetBefore bundle.startedAt) now
    bundle.generation bundle.startedAt (fun driver slice =>
      driver.paintedOlderSince slice bundle.paintsBefore bundle.generation)
    driver bundle.progress (Slice.mem_all slice) all_nodup
    (by
      intro one two same
      unfold ChangeDrivenRefresh.paintedOlderSince
      rw [same])
    (fun _ => rfl)
  have kept : ∀ done : ChangeDrivenRefresh, done.wantedAt = driver.wantedAt →
      (done.forgetBefore bundle.startedAt).wantedAt slice =
        (driver.forgetBefore bundle.startedAt).wantedAt slice := by
    intro done same
    unfold ChangeDrivenRefresh.forgetBefore
    rw [same]
  rw [kept _ acknowledged.wantedAt] at landed
  refine ⟨seq, ?_⟩
  unfold ChangeDrivenRefresh.fullyRefreshed
  refine Landed.scheduled ?_
  exact ⟨landed.connected, landed.inFlight, landed.started, landed.paints, landed.counted,
    landed.shownGeneration, landed.paintedAt, landed.wantedAt⟩

/-- What the rest of `flush` leaves of a slice that the flush fetched. -/
theorem flushed_landed {flush : Flush} {slice : Slice} (now : Nat) (driver : ChangeDrivenRefresh)
    (here : slice ∈ flush.due) (once : flush.due.Nodup) :
    ∃ seq, Landed slice flush.generation now seq (flush.progress slice == .failed)
      (driver.overwroteNewer slice flush.generation) (driver.wantedAt slice)
      { driver with inFlight := none } (driver.flushed now flush) := by
  have acknowledged := acknowledge_acknowledged flush.generation now (fun _ _ => false)
    (flush.due.filter fun slice => flush.progress slice != .failed)
    { driver with inFlight := none }
  obtain ⟨seq, landed⟩ := recoverSlices_landed id now flush.generation now (fun _ _ => false)
    { driver with inFlight := none } flush.progress here once (fun _ _ _ => rfl) (fun _ => rfl)
  rw [Bool.or_false] at landed
  refine ⟨seq, ?_⟩
  unfold ChangeDrivenRefresh.flushed
  refine Landed.scheduled ?_
  have wanted := landed.wantedAt
  simp only [id_eq, acknowledged.wantedAt] at wanted
  exact ⟨landed.connected, landed.inFlight, landed.started, landed.paints, landed.counted,
    landed.shownGeneration, landed.paintedAt, wanted⟩

/-- A bundle that lands, for one slice. -/
theorem view_finishRefresh (page : Page) (bundle : Bundle) (slice : Slice) :
    ∃ seq paints, view (finishRefresh bundle page) slice =
      (view page slice).bundleDone (viewBundle bundle slice) seq paints := by
  obtain ⟨seq, landed⟩ := fullyRefreshed_landed page.clock bundle page.driver slice
  refine ⟨seq, (page.driver.fullyRefreshed page.clock bundle).paints, ?_⟩
  have owed : (false || (page.refreshTimer || page.refreshQueued) || page.stale) =
      (page.refreshQueued || page.refreshTimer || page.stale) := by
    rw [Bool.false_or, Bool.or_comm page.refreshTimer]
  have lost := Bool.or_assoc (bundle.progress slice == .failed)
    (page.driver.overwroteNewer slice bundle.generation)
    (page.driver.paintedOlderSince slice bundle.paintsBefore bundle.generation)
  have wanted := landed.wantedAt
  rw [← lost] at wanted
  unfold View.bundleDone
  by_cases failed : (viewBundle bundle slice).progress = .failed
  · rw [if_pos failed]
    have reported : (bundle.progress slice == .failed) = true := beq_iff_eq.mpr failed
    apply View.ext
    case connected => exact landed.connected
    case owed => exact owed
    case wanted => exact wanted
    case shownGeneration => exact congrArg (·.getD 0) (landed.shownGeneration.trans (if_pos reported))
    case painted => exact landed.paintedAt.trans (if_pos reported)
    case generation => exact landed.started
    case flush => exact congrArg (·.bind fun flush => viewFlush flush slice) landed.inFlight
    all_goals rfl
  · rw [if_neg failed]
    have unreported : ¬ (bundle.progress slice == .failed) = true := fun reported =>
      failed (beq_iff_eq.mp reported)
    apply View.ext
    case connected => exact landed.connected
    case owed => exact owed
    case wanted => exact wanted
    case shownGeneration =>
      exact congrArg (·.getD 0) (landed.shownGeneration.trans (if_neg unreported))
    case painted => exact landed.paintedAt.trans (if_neg unreported)
    case generation => exact landed.started
    case flush => exact congrArg (·.bind fun flush => viewFlush flush slice) landed.inFlight
    all_goals rfl

theorem viewFlush_due {flush : Flush} {slice : Slice} (here : slice ∈ flush.due) :
    viewFlush flush slice = some ⟨flush.generation, flush.progress slice⟩ := by
  unfold viewFlush Flush.fetches
  rw [if_pos here, Option.map_some]

theorem viewFlush_other {flush : Flush} {slice : Slice} (other : slice ∉ flush.due) :
    viewFlush flush slice = none := by
  unfold viewFlush Flush.fetches
  rw [if_neg other, Option.map_none]

/-- A flush that lands, for a slice that it fetched. -/
theorem view_flushed {page : Page} {flush : Flush} {slice : Slice} (here : slice ∈ flush.due)
    (once : flush.due.Nodup) :
    ∃ seq paints, page.driver.paints < seq ∧ page.driver.paints ≤ paints ∧
      view { page with driver := page.driver.flushed page.clock flush } slice =
        (view page slice).flushDone ⟨flush.generation, flush.progress slice⟩ seq paints := by
  obtain ⟨seq, landed⟩ := flushed_landed page.clock page.driver here once
  refine ⟨seq, (page.driver.flushed page.clock flush).paints, landed.counted, landed.paints, ?_⟩
  unfold View.flushDone
  by_cases failed : flush.progress slice = .failed
  · rw [if_pos failed]
    have reported : (flush.progress slice == .failed) = true := beq_iff_eq.mpr failed
    apply View.ext
    case connected => exact landed.connected
    case wanted => exact landed.wantedAt
    case shownGeneration => exact congrArg (·.getD 0) (landed.shownGeneration.trans (if_pos reported))
    case painted => exact landed.paintedAt.trans (if_pos reported)
    case generation => exact landed.started
    case flush => exact congrArg (·.bind fun flush => viewFlush flush slice) landed.inFlight
    all_goals rfl
  · rw [if_neg failed]
    have unreported : ¬ (flush.progress slice == .failed) = true := fun reported =>
      failed (beq_iff_eq.mp reported)
    apply View.ext
    case connected => exact landed.connected
    case wanted => exact landed.wantedAt
    case shownGeneration =>
      exact congrArg (·.getD 0) (landed.shownGeneration.trans (if_neg unreported))
    case painted => exact landed.paintedAt.trans (if_neg unreported)
    case generation => exact landed.started
    case flush => exact congrArg (·.bind fun flush => viewFlush flush slice) landed.inFlight
    all_goals rfl

/-- A flush that lands says nothing of the slices it did not fetch. -/
theorem view_flushed_other {page : Page} {flush : Flush} {slice : Slice}
    (inFlight : page.driver.inFlight = some flush) (other : slice ∉ flush.due) :
    View.Later (view page slice)
      (view { page with driver := page.driver.flushed page.clock flush } slice) := by
  have absent : slice ∉ flush.due.filter fun slice => flush.progress slice != .failed :=
    fun here => other (List.mem_filter.mp here).1
  have unfailed : slice ∉ flush.due.filter fun slice => flush.progress slice == .failed :=
    fun here => other (List.mem_filter.mp here).1
  obtain ⟨shownGeneration, paintedAt, missing⟩ := acknowledge_others flush.generation page.clock
    (fun _ _ => false) { page.driver with inFlight := none } absent
  have acknowledged := acknowledge_acknowledged flush.generation page.clock (fun _ _ => false)
    (flush.due.filter fun slice => flush.progress slice != .failed)
    { page.driver with inFlight := none }
  generalize settled : page.driver.flushed page.clock flush = after
  unfold ChangeDrivenRefresh.flushed at settled
  dsimp only at settled missing
  generalize ChangeDrivenRefresh.acknowledge flush.generation page.clock (fun _ _ => false)
    (flush.due.filter fun slice => flush.progress slice != .failed)
    { page.driver with inFlight := none } = done
    at acknowledged shownGeneration paintedAt missing settled
  have pended := recoverSlices_pended page.clock
    (flush.due.filter fun slice => flush.progress slice == .failed) done.2 done.1
  have same : core after = core done.1 := by
    rw [← settled, scheduleFlush_core]
    exact pended.core
  have wanted : after.wantedAt slice = page.driver.wantedAt slice := by
    rw [← settled, scheduleFlush_wantedAt, pended.wantedAt, acknowledged.wantedAt]
    refine if_neg ?_
    split
    · exact fun here => (List.mem_append.mp here).elim unfailed missing
    · exact List.not_mem_nil
  have before : (view page slice).flush = none := by
    simp only [view, inFlight, Option.bind_some, viewFlush_other other]
  constructor
  case connected => exact Eq.trans (congrArg Core.connected same) acknowledged.connected
  case wanted => exact wanted
  case shownGeneration =>
    exact congrArg (·.getD 0)
      (Eq.trans (congrFun (congrArg Core.shownGeneration same) slice) shownGeneration)
  case painted => exact Eq.trans (congrFun (congrArg Core.paintedAt same) slice) paintedAt
  case flush =>
    rw [before]
    exact congrArg (·.bind fun flush => viewFlush flush slice)
      (Eq.trans (congrArg Core.inFlight same) acknowledged.inFlight)
  case generation =>
    exact Nat.le_of_eq
      (Eq.trans (congrArg Core.generation same) acknowledged.generation).symm
  case paints =>
    exact Nat.le_trans acknowledged.paints (Nat.le_of_eq (congrArg Core.paints same).symm)
  case owed => exact id
  case clock => exact Nat.le_refl _
  case moment => exact Nat.le_refl _
  all_goals rfl

/-! ### The driver's own invariant -/

structure Wired (driver : ChangeDrivenRefresh) : Prop where
  paired : ∀ slice, (driver.pending slice).isSome = true ↔ (driver.wantedAt slice).isSome = true
  offline : driver.connected = false → ∀ slice, driver.pending slice = none
  due : ∀ flush, driver.inFlight = some flush → flush.due.Nodup
  armed : Armed driver

/-- Whatever else held, what ends with `scheduleFlush` has its timer. -/
theorem scheduleFlush_wired {driver : ChangeDrivenRefresh}
    (paired : ∀ slice, (driver.pending slice).isSome = true ↔ (driver.wantedAt slice).isSome = true)
    (offline : driver.connected = false → ∀ slice, driver.pending slice = none)
    (due : ∀ flush, driver.inFlight = some flush → flush.due.Nodup) :
    Wired driver.scheduleFlush := by
  have armed := scheduleFlush_armed driver
  rw [scheduleFlush_frame] at armed ⊢
  exact ⟨paired, offline, due, armed⟩

theorem Pended.paired {now : Nat} {slices : List Slice} {driver after : ChangeDrivenRefresh}
    (pended : Pended now slices driver after)
    (paired : ∀ slice, (driver.pending slice).isSome = true ↔ (driver.wantedAt slice).isSome = true)
    (slice : Slice) :
    (after.pending slice).isSome = true ↔ (after.wantedAt slice).isSome = true := by
  rw [pended.pending, pended.wantedAt, paired]
  unfold wantedWith
  by_cases here : slice ∈ slices
  · simp [here]
  · simp [here]

theorem Pended.offline {now : Nat} {slices : List Slice} {driver after : ChangeDrivenRefresh}
    (pended : Pended now slices driver after) (nothing : driver.connected = false → slices = [])
    (offline : driver.connected = false → ∀ slice, driver.pending slice = none)
    (down : after.connected = false) (slice : Slice) : after.pending slice = none := by
  have down : driver.connected = false := (congrArg Core.connected pended.core).symm.trans down
  refine Option.not_isSome_iff_eq_none.mp fun pending => ?_
  rcases (pended.pending slice).mp pending with here | before
  · rw [nothing down] at here
    cases here
  · rw [offline down slice] at before
    cases before

theorem clearPending_wired {driver : ChangeDrivenRefresh}
    (due : ∀ flush, driver.inFlight = some flush → flush.due.Nodup) :
    Wired driver.clearPending where
  paired _ := Iff.rfl
  offline _ _ := rfl
  due := due
  armed _ _ _ := rfl

theorem wantChanged_wired {driver : ChangeDrivenRefresh} (wired : Wired driver)
    (up : driver.connected = true) (now : Nat) (event : ChangeEvent) :
    Wired (driver.wantChanged now event).scheduleFlush := by
  have pended := wantChanged_pended now event driver
  refine scheduleFlush_wired (pended.paired wired.paired) (pended.offline ?_ wired.offline) ?_
  · intro down
    rw [up] at down
    cases down
  · intro flush inFlight
    exact wired.due flush ((congrArg Core.inFlight pended.core).symm.trans inFlight)

theorem recoverSlices_wired {driver : ChangeDrivenRefresh} (now : Nat)
    (failed overwritten : List Slice)
    (paired : ∀ slice, (driver.pending slice).isSome = true ↔ (driver.wantedAt slice).isSome = true)
    (offline : driver.connected = false → ∀ slice, driver.pending slice = none)
    (due : ∀ flush, driver.inFlight = some flush → flush.due.Nodup) :
    let recovered := driver.recoverSlices now failed overwritten
    Wired recovered.scheduleFlush ∧ Wired recovered.cancelFlush.scheduleFlush := by
  have pended := recoverSlices_pended now failed overwritten driver
  have nothing : driver.connected = false →
      (if driver.connected then failed ++ overwritten else []) = [] := by
    intro down
    rw [down]
    rfl
  have flights : ∀ flush, (driver.recoverSlices now failed overwritten).inFlight = some flush →
      flush.due.Nodup := fun flush inFlight =>
    due flush ((congrArg Core.inFlight pended.core).symm.trans inFlight)
  have paired := pended.paired paired
  have offline := pended.offline nothing offline
  exact ⟨scheduleFlush_wired paired offline flights, scheduleFlush_wired paired offline flights⟩

theorem fullyRefreshed_wired {driver : ChangeDrivenRefresh} (wired : Wired driver) (now : Nat)
    (bundle : Bundle) : Wired (driver.fullyRefreshed now bundle) := by
  have acknowledged := acknowledge_acknowledged bundle.generation bundle.startedAt
    (fun driver slice =>
      driver.paintedOlderSince slice bundle.paintsBefore bundle.generation)
    (Slice.all.filter fun slice => bundle.progress slice != .failed) driver
  unfold ChangeDrivenRefresh.fullyRefreshed
  refine (recoverSlices_wired now _ _ ?_ ?_ ?_).2
  · intro slice
    unfold ChangeDrivenRefresh.forgetBefore
    rw [acknowledged.pending, acknowledged.wantedAt]
    dsimp only
    split
    · exact Iff.rfl
    · exact wired.paired slice
  · intro down slice
    have down : driver.connected = false := acknowledged.connected.symm.trans down
    unfold ChangeDrivenRefresh.forgetBefore
    rw [acknowledged.pending]
    dsimp only
    rw [wired.offline down slice, ite_self]
  · intro flush inFlight
    exact wired.due flush (acknowledged.inFlight.symm.trans inFlight)

theorem flushed_wired {driver : ChangeDrivenRefresh} (wired : Wired driver) (now : Nat)
    (flush : Flush) : Wired (driver.flushed now flush) := by
  have acknowledged := acknowledge_acknowledged flush.generation now (fun _ _ => false)
    (flush.due.filter fun slice => flush.progress slice != .failed)
    { driver with inFlight := none }
  unfold ChangeDrivenRefresh.flushed
  refine (recoverSlices_wired now _ _ ?_ ?_ ?_).1
  · rw [acknowledged.pending, acknowledged.wantedAt]
    exact wired.paired
  · intro down
    rw [acknowledged.pending]
    exact wired.offline (acknowledged.connected.symm.trans down)
  · intro flush inFlight
    cases acknowledged.inFlight.symm.trans inFlight

/-! ### The steps of the page -/

section Page
variable {visible : Slice → Bool}

/-- Every slice the page shows is tracked. -/
structure Good (visible : Slice → Bool) (page : Page) : Prop where
  wired : Wired page.driver
  kept : ∀ slice, visible slice = true → (view page slice).Kept

theorem refresh_refreshed {page : Page} {slice : Slice} (shown : visible slice = true) :
    View.Refreshed (view page slice) (view (refresh visible page) slice) := by
  unfold refresh
  split
  · refine .inl ?_
    apply View.ext
    case owed => exact Bool.or_true _
    all_goals rfl
  · split
    · refine .inl ?_
      apply View.ext
      case owed => rfl
      all_goals rfl
    next idle =>
      have idle : page.bundle = none := Option.not_isSome_iff_eq_none.mp idle
      refine .inr ⟨?_, (view page slice).owed, ?_⟩
      · unfold view
        rw [idle, Option.map_none]
      · have waiting : starting visible slice = .waiting := if_pos shown
        apply View.ext
        case bundle => exact congrArg (fun progress => some
          (⟨page.clock, page.driver.generation + 1, page.driver.paints, progress⟩ : BundleView)) waiting
        all_goals rfl

theorem refresh_wired {page : Page} (wired : Wired page.driver) :
    Wired (refresh visible page).driver := by
  unfold refresh
  split
  · exact wired
  · split
    · exact wired
    · exact ⟨wired.paired, wired.offline, wired.due, wired.armed⟩

/-- A full refresh leaves every slice tracked, whatever it found: it needs only the order of
the fetches under way. -/
theorem refresh_good {page : Page} (wired : Wired page.driver)
    (ordered : ∀ slice, visible slice = true → (view page slice).Ordered) :
    Good visible (refresh visible page) where
  wired := refresh_wired wired
  kept slice shown := (refresh_refreshed shown).kept (ordered slice shown)

theorem recover_good {page : Page} {driver : ChangeDrivenRefresh}
    {lastChange : Slice → Option Nat} (good : Good visible page)
    (inFlight : driver.inFlight = page.driver.inFlight)
    (generation : driver.generation = page.driver.generation)
    (paints : driver.paints = page.driver.paints)
    (known : ∀ slice at_, visible slice = true → lastChange slice = some at_ → at_ ≤ page.moment) :
    Good visible (recover visible { page with driver := driver, lastChange := lastChange }) := by
  unfold recover
  refine refresh_good (clearPending_wired ?_) fun slice shown => ?_
  · intro flush running
    exact good.wired.due flush (inFlight.symm.trans running)
  · have cleared := (good.kept slice shown).ordered.cleared driver.connected (lastChange slice)
      fun at_ changed => known slice at_ shown changed
    constructor
    case bundle =>
      intro bundle running
      obtain ⟨started, older, before⟩ := cleared.bundle bundle running
      exact ⟨started, Nat.le_trans older (Nat.le_of_eq generation.symm),
        Nat.le_trans before (Nat.le_of_eq paints.symm)⟩
    case flush =>
      intro flush fetching
      refine Nat.le_trans (cleared.flush flush ?_) (Nat.le_of_eq generation.symm)
      exact (congrArg (·.bind fun flush => viewFlush flush slice) inFlight).symm.trans fetching
    case apart =>
      intro bundle flush running fetching
      refine cleared.apart bundle flush running ?_
      exact (congrArg (·.bind fun flush => viewFlush flush slice) inFlight).symm.trans fetching
    case change => exact cleared.change
    case stuck =>
      intro flush _ bundle at_ _ wanted
      cases wanted

/-! ### Change events -/

theorem names_iff (event : ChangeEvent) (slice : Slice) :
    slice ∈ slicesReading event.tables Slice.all ++ slicesReading event.liveness livenessSlices ↔
      event.names slice = true := by
  unfold ChangeEvent.names
  rw [List.mem_append, Bool.or_eq_true, decide_eq_true_iff, decide_eq_true_iff]

theorem noteChange_known {page : Page} (good : Good visible page) (event : ChangeEvent)
    (slice : Slice) (at_ : Nat) (shown : visible slice = true)
    (changed : (noteChange event page).lastChange slice = some at_) : at_ ≤ page.moment := by
  unfold noteChange at changed
  dsimp only at changed
  split at changed
  · obtain rfl := Option.some.inj changed
    exact Nat.le_refl _
  · exact (good.kept slice shown).ordered.change at_ changed

/-- An event that follows the last one, as a slice sees it. -/
theorem view_changed (page : Page) (event : ChangeEvent) (slice : Slice) :
    let after := { noteChange event page with
      driver := ((page.driver.baseline event).wantChanged page.clock event).scheduleFlush }
    view after slice =
      if event.names slice then (view page slice).named else view page slice := by
  have pended := wantChanged_pended page.clock event (page.driver.baseline event)
  have same : core ((page.driver.baseline event).wantChanged page.clock event).scheduleFlush =
      core page.driver := by
    rw [scheduleFlush_core, pended.core]
    rfl
  have wanted : ((page.driver.baseline event).wantChanged page.clock event).scheduleFlush.wantedAt
      slice = if event.names slice then some ((page.driver.wantedAt slice).getD page.clock)
        else page.driver.wantedAt slice := by
    rw [scheduleFlush_wantedAt, pended.wantedAt]
    unfold wantedWith
    simp only [names_iff]
    rfl
  dsimp only
  generalize ((page.driver.baseline event).wantChanged page.clock event).scheduleFlush = driver
    at same wanted ⊢
  have change : ∀ named : Bool, event.names slice = named →
      (noteChange event page).lastChange slice =
        if named then some page.moment else page.lastChange slice := by
    intro named same
    unfold noteChange
    rw [← same]
  split
  next named =>
    rw [if_pos named] at wanted
    apply View.ext
    case connected => exact congrArg Core.connected same
    case wanted => exact wanted
    case shownGeneration => exact congrArg (fun kept => (kept.shownGeneration slice).getD 0) same
    case painted => exact congrArg (fun kept => kept.paintedAt slice) same
    case paints => exact congrArg Core.paints same
    case generation => exact congrArg Core.generation same
    case flush => exact congrArg (fun kept => kept.inFlight.bind fun flush => viewFlush flush slice) same
    case change => exact change true named
    all_goals rfl
  next unnamed =>
    rw [if_neg unnamed] at wanted
    apply View.ext
    case connected => exact congrArg Core.connected same
    case wanted => exact wanted
    case shownGeneration => exact congrArg (fun kept => (kept.shownGeneration slice).getD 0) same
    case painted => exact congrArg (fun kept => kept.paintedAt slice) same
    case paints => exact congrArg Core.paints same
    case generation => exact congrArg Core.generation same
    case flush => exact congrArg (fun kept => kept.inFlight.bind fun flush => viewFlush flush slice) same
    case change => exact change false (Bool.eq_false_iff.mpr unnamed)
    all_goals rfl

/-- No change names a slice that the bundle under way has read, when that slice is pending
since before the bundle started. -/
def ChangesNoticed (visible : Slice → Bool) (page : Page) (event : ChangeEvent) : Prop :=
  page.driver.connected = true → page.driver.missed event = false →
    ∀ slice, visible slice = true → event.names slice = true →
      ∀ bundle at_, page.bundle = some bundle → page.driver.wantedAt slice = some at_ →
        at_ < bundle.startedAt →
        bundle.progress slice = .waiting ∨ bundle.progress slice = .failed

theorem changed_good {page : Page} {event : ChangeEvent} (good : Good visible page)
    (noticed : ChangesNoticed visible page event) :
    Good visible (changed visible event (noteChange event page)) := by
  unfold changed
  split
  next down =>
    have down : page.driver.connected = false := by simpa [noteChange] using down
    refine ⟨good.wired, fun slice shown => ⟨?_, fun up => ?_⟩⟩
    · have ordered := (good.kept slice shown).ordered
      exact ⟨ordered.bundle, ordered.flush, ordered.apart,
        fun at_ changed => noteChange_known good event slice at_ shown changed, ordered.stuck⟩
    · have up : page.driver.connected = true := up
      rw [down] at up
      cases up
  next up =>
    have up : page.driver.connected = true := by simpa [noteChange] using up
    dsimp only
    split
    · have recovered : Good visible (recover visible { page with
          driver := page.driver.baseline event
          lastChange := (noteChange event page).lastChange }) :=
        recover_good good rfl rfl rfl (noteChange_known good event)
      exact recovered
    next followed =>
      have wired : Wired (page.driver.baseline event) :=
        ⟨good.wired.paired, good.wired.offline, good.wired.due, good.wired.armed⟩
      refine ⟨wantChanged_wired wired up page.clock event, fun slice shown => ?_⟩
      refine Eq.mpr (congrArg View.Kept (view_changed page event slice)) ?_
      split
      next named =>
        refine View.named_kept (good.kept slice shown) fun bundle at_ running wanted before => ?_
        obtain ⟨actual, underWay, rfl⟩ := Option.map_eq_some_iff.mp running
        exact noticed up (Bool.eq_false_iff.mpr followed) slice shown named actual at_ underWay
          wanted before
      · exact good.kept slice shown

/-! ### The flush -/

theorem due_nodup (driver : ChangeDrivenRefresh) (now : Nat) :
    (Slice.all.filter fun slice =>
      (driver.pending slice).any fun at_ => decide (at_ ≤ now)).Nodup :=
  all_nodup.filter _

theorem flush_wired {page : Page} (wired : Wired page.driver) :
    Wired (flush visible page).driver := by
  unfold flush
  dsimp only
  split
  next idle =>
    refine ⟨wired.paired, wired.offline, wired.due, ?_⟩
    intro landed _
    -- The timer of a flush that does nothing: another one is under way, or nothing is pending.
    rcases (Bool.or_eq_true _ _).mp idle with down | inFlight
    · exact wired.offline (by simpa [ChangeDrivenRefresh.cancelFlush] using down)
    · rw [landed] at inFlight
      cases inFlight
  next ready =>
    split
    · exact scheduleFlush_wired wired.paired wired.offline wired.due
    · rw [foldl_forget]
      constructor
      case paired =>
        intro slice
        dsimp only
        split
        · exact Iff.rfl
        · exact wired.paired slice
      case offline =>
        intro down slice
        dsimp only
        split
        · rfl
        · exact wired.offline down slice
      case due =>
        intro flush started
        obtain rfl := Option.some.inj started
        exact due_nodup _ _
      case armed =>
        intro landed
        cases landed

/-- A flush that starts, for a slice that it is to fetch. -/
theorem viewFlush_started {due : List Slice} {slice : Slice} (shown : visible slice = true)
    (here : slice ∈ due) (generation : Nat) (hidden : Bool) :
    viewFlush ⟨due, generation, if hidden then fun _ => .skipped else starting visible⟩ slice =
      some ⟨generation, if hidden then .skipped else .waiting⟩ := by
  rw [viewFlush_due here]
  cases hidden with
  | true => rfl
  | false =>
      have waiting : starting visible slice = .waiting := if_pos shown
      exact congrArg (fun progress => some (⟨generation, progress⟩ : FlushView)) waiting

theorem flush_kept {page : Page} {slice : Slice} (shown : visible slice = true)
    (kept : (view page slice).Kept) : (view (flush visible page) slice).Kept := by
  unfold flush
  dsimp only
  split
  · exact kept
  next ready =>
    have landed : page.driver.inFlight = none := by
      simp only [ChangeDrivenRefresh.cancelFlush, Bool.or_eq_true, not_or] at ready
      exact Option.not_isSome_iff_eq_none.mp ready.2
    split
    · rw [scheduleFlush_frame]
      exact kept
    · rw [foldl_forget]
      generalize (Slice.all.filter fun slice =>
        (page.driver.cancelFlush.pending slice).any fun at_ => decide (at_ ≤ page.clock)) = due
      by_cases here : slice ∈ due
      · refine Eq.mpr (congrArg View.Kept ?_)
          (View.flushing_kept kept.ordered page.hidden)
        apply View.ext
        case owed => exact (Bool.or_assoc _ _ _).symm
        case wanted => exact if_pos here
        case flush => exact viewFlush_started shown here _ page.hidden
        all_goals rfl
      · have before : (view page slice).flush = none := by
          simp only [view, landed, Option.bind_none]
        refine View.Later.kept ?_ kept
        constructor
        case wanted => exact if_neg here
        case flush =>
          rw [before]
          exact if_neg here |> congrArg (Option.map _)
        case owed =>
          intro owed
          simp only [view, Bool.or_eq_true] at owed ⊢
          exact owed.imp id .inl
        case generation => exact Nat.le_succ _
        case clock => exact Nat.le_refl _
        case moment => exact Nat.le_refl _
        case paints => exact Nat.le_refl _
        all_goals rfl

/-! ### Slices read, painted and failed -/

theorem view_moveBundle (page : Page) (bundle : Bundle) (slice : Slice) (progress : Progress) :
    view (page.moveBundle bundle slice progress) slice =
      (view page slice).bundleAt (viewBundle bundle slice) progress := by
  apply View.ext
  case bundle =>
    exact congrArg (fun progress => some { viewBundle bundle slice with progress := progress })
      (Function.update_self slice progress bundle.progress)
  all_goals rfl

theorem view_moveBundle_other {page : Page} {bundle : Bundle} {slice other : Slice}
    (running : page.bundle = some bundle) (differ : other ≠ slice) (progress : Progress) :
    view (page.moveBundle bundle slice progress) other = view page other := by
  apply View.ext
  case bundle =>
    have same := Function.update_of_ne differ progress bundle.progress
    refine Eq.trans ?_ (congrArg (Option.map fun bundle => viewBundle bundle other) running).symm
    exact congrArg (fun progress => some { viewBundle bundle other with progress := progress }) same
  all_goals rfl

theorem fetches_moved (flush : Flush) (slice other : Slice) (progress : Progress) :
    Flush.fetches { flush with progress := Function.update flush.progress slice progress } other =
      if other = slice then (flush.fetches other).map fun _ => progress else flush.fetches other := by
  unfold Flush.fetches
  by_cases here : other ∈ flush.due
  · by_cases same : other = slice
    · subst same
      simp [here]
    · simp [here, same]
  · simp [here]

theorem view_moveFlush {page : Page} {flush : Flush} {slice : Slice} {before : Progress}
    (fetching : flush.fetches slice = some before) (progress : Progress) :
    view (page.moveFlush flush slice progress) slice =
      (view page slice).flushAt ⟨flush.generation, before⟩ progress := by
  apply View.ext
  case flush =>
    have moved := fetches_moved flush slice slice progress
    rw [if_pos rfl, fetching, Option.map_some] at moved
    exact congrArg (Option.map fun progress => (⟨flush.generation, progress⟩ : FlushView)) moved
  all_goals rfl

theorem view_moveFlush_other {page : Page} {flush : Flush} {slice other : Slice}
    (running : page.driver.inFlight = some flush) (differ : other ≠ slice) (progress : Progress) :
    view (page.moveFlush flush slice progress) other = view page other := by
  apply View.ext
  case flush =>
    have moved := fetches_moved flush slice other progress
    rw [if_neg differ] at moved
    refine Eq.trans ?_ (congrArg (Option.bind · fun flush => viewFlush flush other) running).symm
    exact congrArg (Option.map fun progress => (⟨flush.generation, progress⟩ : FlushView)) moved
  all_goals rfl

theorem view_paint (page : Page) (slice : Slice) (read generation : Nat) :
    view (page.paint slice read generation) slice =
      { view page slice with screen := some ⟨read, generation⟩ } := by
  apply View.ext
  case screen => exact Function.update_self _ _ _
  all_goals rfl

theorem view_paint_other {page : Page} {slice other : Slice} (differ : other ≠ slice)
    (read generation : Nat) : view (page.paint slice read generation) other = view page other := by
  apply View.ext
  case screen => exact Function.update_of_ne differ _ _
  all_goals rfl

/-- A step that moves one slice of the bundle has that slice to answer for. -/
theorem moveBundle_good {page : Page} {bundle : Bundle} (good : Good visible page)
    (running : page.bundle = some bundle) (slice : Slice) (progress : Progress)
    (moved : visible slice = true → (view page slice).bundle = some (viewBundle bundle slice) →
      ((view page slice).bundleAt (viewBundle bundle slice) progress).Kept) :
    Good visible (page.moveBundle bundle slice progress) where
  wired := good.wired
  kept other shown := by
    by_cases same : other = slice
    · subst same
      rw [view_moveBundle]
      exact moved shown (congrArg (Option.map fun bundle => viewBundle bundle other) running)
    · rw [view_moveBundle_other running same]
      exact good.kept other shown

theorem paintBundle_good {page : Page} {bundle : Bundle} {slice : Slice} {moment : Nat}
    (good : Good visible page) (running : page.bundle = some bundle)
    (read : bundle.progress slice = .read moment) :
    Good visible ((page.moveBundle bundle slice (.painted moment)).paint slice moment
      bundle.generation) where
  wired := good.wired
  kept other shown := by
    by_cases same : other = slice
    · subst same
      rw [view_paint, view_moveBundle]
      exact View.bundlePaints_kept (good.kept other shown)
        (congrArg (Option.map fun bundle => viewBundle bundle other) running) read
    · rw [view_paint_other same, view_moveBundle_other running same]
      exact good.kept other shown

theorem moveFlush_wired {page : Page} {flush : Flush} (wired : Wired page.driver)
    (running : page.driver.inFlight = some flush) (slice : Slice) (progress : Progress) :
    Wired (page.moveFlush flush slice progress).driver where
  paired := wired.paired
  offline := wired.offline
  due := by
    intro moved same
    obtain rfl := Option.some.inj same
    exact wired.due flush running
  armed := by
    intro landed
    cases landed

theorem view_fetching {page : Page} {flush : Flush} {slice : Slice} {progress : Progress}
    (running : page.driver.inFlight = some flush)
    (fetching : flush.fetches slice = some progress) :
    (view page slice).flush = some ⟨flush.generation, progress⟩ := by
  simp only [view, running, Option.bind_some, viewFlush, fetching, Option.map_some]

theorem moveFlush_good {page : Page} {flush : Flush} {slice : Slice} {before : Progress}
    (good : Good visible page) (running : page.driver.inFlight = some flush)
    (fetching : flush.fetches slice = some before) (progress : Progress)
    (moved : visible slice = true → (view page slice).flush = some ⟨flush.generation, before⟩ →
      ((view page slice).flushAt ⟨flush.generation, before⟩ progress).Kept) :
    Good visible (page.moveFlush flush slice progress) where
  wired := moveFlush_wired good.wired running slice progress
  kept other shown := by
    by_cases same : other = slice
    · subst same
      rw [view_moveFlush fetching]
      exact moved shown (view_fetching running fetching)
    · rw [view_moveFlush_other running same]
      exact good.kept other shown

theorem paintFlush_good {page : Page} {flush : Flush} {slice : Slice} {moment : Nat}
    (good : Good visible page) (running : page.driver.inFlight = some flush)
    (fetching : flush.fetches slice = some (.read moment)) :
    Good visible ((page.moveFlush flush slice (.painted moment)).paint slice moment
      flush.generation) where
  wired := moveFlush_wired good.wired running slice _
  kept other shown := by
    by_cases same : other = slice
    · subst same
      rw [view_paint, view_moveFlush fetching]
      exact View.flushPaints_kept (good.kept other shown) (view_fetching running fetching) rfl
    · rw [view_paint_other same, view_moveFlush_other running same]
      exact good.kept other shown

/-! ### Fetches that land -/

/-- A bundle that is acknowledged before a flush that started later has not painted data over
what that flush read after it. -/
def PaintsInOrder (page : Page) : Prop :=
  ∀ bundle flush, page.bundle = some bundle → page.driver.inFlight = some flush →
    bundle.generation < flush.generation → ∀ slice ∈ flush.due, ∀ moment older,
      flush.progress slice = .painted moment → bundle.progress slice = .painted older →
      page.screen slice = some ⟨older, bundle.generation⟩ → ¬ older < moment

theorem finishRefresh_good {page : Page} {bundle : Bundle} (good : Good visible page)
    (running : page.bundle = some bundle)
    (closed : ¬ (Slice.all.any fun slice => (bundle.progress slice).isOpen) = true)
    (inOrder : PaintsInOrder page) : Good visible (finishRefresh bundle page) where
  wired := fullyRefreshed_wired good.wired page.clock bundle
  kept slice shown := by
    obtain ⟨seq, paints, landed⟩ := view_finishRefresh page bundle slice
    rw [landed]
    have settled : (bundle.progress slice).isOpen = false := by
      refine Bool.eq_false_iff.mpr fun unfinished => closed ?_
      exact List.any_eq_true.mpr ⟨slice, Slice.mem_all slice, unfinished⟩
    refine View.bundleDone_kept (good.kept slice shown)
      (congrArg (Option.map fun bundle => viewBundle bundle slice) running) settled ?_ seq paints
    intro seen fetching later moment older painted paintedOlder screen
    obtain ⟨flush, inFlight, fetched⟩ := Option.bind_eq_some_iff.mp fetching
    by_cases here : slice ∈ flush.due
    · rw [viewFlush_due here] at fetched
      obtain rfl := Option.some.inj fetched
      exact inOrder bundle flush running inFlight later slice here moment older painted
        paintedOlder screen
    · rw [viewFlush_other here] at fetched
      cases fetched

theorem flushed_good {page : Page} {flush : Flush} (good : Good visible page)
    (running : page.driver.inFlight = some flush)
    (closed : ¬ (flush.due.any fun slice => (flush.progress slice).isOpen) = true) :
    Good visible { page with driver := page.driver.flushed page.clock flush } where
  wired := flushed_wired good.wired page.clock flush
  kept slice shown := by
    by_cases here : slice ∈ flush.due
    · obtain ⟨seq, paints, counted, grown, landed⟩ :=
        view_flushed here (good.wired.due flush running)
      rw [landed]
      have settled : (flush.progress slice).isOpen = false := by
        refine Bool.eq_false_iff.mpr fun unfinished => closed ?_
        exact List.any_eq_true.mpr ⟨slice, here, unfinished⟩
      have fetching : (view page slice).flush = some ⟨flush.generation, flush.progress slice⟩ :=
        view_fetching running (if_pos here)
      exact View.flushDone_kept (good.kept slice shown) fetching settled counted grown
    · exact (view_flushed_other running here).kept (good.kept slice shown)

/-! ### Runs -/

/-- What a run must meet before a step: a change is noticed, and paints land in the order of
what they read. -/
def Allowed (visible : Slice → Bool) (page : Page) : Label → Prop
  | .changed event => ChangesNoticed visible page event
  | .bundleDone => PaintsInOrder page
  | _ => True

/-- A step that moves neither the driver's slices nor a fetch. -/
theorem Good.later {page after : Page} (good : Good visible page) (wired : Wired after.driver)
    (later : ∀ slice, View.Later (view page slice) (view after slice)) : Good visible after where
  wired := wired
  kept slice shown := (later slice).kept (good.kept slice shown)

theorem Wired.polling {driver : ChangeDrivenRefresh} (wired : Wired driver) (pollTimer : Bool) :
    Wired { driver with pollTimer := pollTimer } :=
  ⟨wired.paired, wired.offline, wired.due, wired.armed⟩

theorem Good.polling {page : Page} (good : Good visible page) (pollTimer : Bool) :
    Good visible { page with driver := { page.driver with pollTimer := pollTimer } } :=
  ⟨good.wired.polling pollTimer, good.kept⟩

theorem armPoll_good {page : Page} (good : Good visible page) :
    Good visible { page with driver := page.driver.armPoll } := by
  unfold ChangeDrivenRefresh.armPoll
  split
  · exact good
  · exact good.polling true

theorem closed_good {page : Page} (good : Good visible page) :
    Good visible { page with driver := page.driver.closed } where
  wired := by
    unfold ChangeDrivenRefresh.closed ChangeDrivenRefresh.armPoll
    have cleared := clearPending_wired good.wired.due
    exact ⟨cleared.paired, fun _ _ => rfl, cleared.due, cleared.armed⟩
  kept slice shown := by
    unfold ChangeDrivenRefresh.closed ChangeDrivenRefresh.armPoll
    exact View.closed_kept (good.kept slice shown).ordered

theorem act_good {page after : Page} {label : Label} (good : Good visible page)
    (allowed : Allowed visible page label) (taken : act visible page label = some after) :
    Good visible after := by
  have ordered : ∀ slice, visible slice = true → (view page slice).Ordered :=
    fun slice shown => (good.kept slice shown).ordered
  cases label with
  | tick milliseconds =>
      obtain rfl := Option.some.inj taken
      refine good.later good.wired fun slice => ?_
      exact ⟨rfl, rfl, rfl, rfl, rfl, rfl, rfl, rfl, id, Nat.le_add_right _ _, Nat.le_refl _,
        Nat.le_refl _, Nat.le_refl _⟩
  | opened =>
      obtain rfl := Option.some.inj taken
      have known := fun slice at_ shown => (ordered slice shown).change at_
      have recovered : Good visible (recover visible { page with driver := page.driver.opened }) :=
        recover_good good rfl rfl rfl known
      exact recovered
  | closed =>
      obtain rfl := Option.some.inj taken
      exact closed_good good
  | changed event =>
      obtain rfl := Option.some.inj taken
      exact changed_good good allowed
  | hide =>
      obtain rfl := Option.some.inj taken
      exact ⟨good.wired, good.kept⟩
  | showAgain =>
      obtain rfl := Option.some.inj taken
      unfold showPage
      split
      · refine refresh_good good.wired fun slice shown => ?_
        have before := ordered slice shown
        exact ⟨before.bundle, before.flush, before.apart, before.change, before.stuck⟩
      · exact ⟨good.wired, good.kept⟩
  | refresh =>
      obtain rfl := Option.some.inj taken
      exact refresh_good good.wired ordered
  | refreshSoon =>
      obtain rfl := Option.some.inj taken
      refine good.later good.wired fun slice => ?_
      refine ⟨rfl, rfl, rfl, rfl, rfl, rfl, rfl, rfl, fun _ => ?_, Nat.le_refl _, Nat.le_refl _,
        Nat.le_refl _, Nat.le_refl _⟩
      exact (congrArg (· || page.stale) (Bool.or_true _)).trans (Bool.true_or _)
  | refreshTimerFires =>
      obtain ⟨_, same⟩ := Option.ite_none_right_eq_some.mp taken
      obtain rfl := Option.some.inj same
      refine refresh_good good.wired fun slice shown => ?_
      have before := ordered slice shown
      exact ⟨before.bundle, before.flush, before.apart, before.change, before.stuck⟩
  | armPoll =>
      obtain rfl := Option.some.inj taken
      exact armPoll_good good
  | pollFires =>
      obtain ⟨_, same⟩ := Option.ite_none_right_eq_some.mp taken
      obtain rfl := Option.some.inj same
      exact armPoll_good (refresh_good (good.polling false).wired ordered)
  | flushFires =>
      obtain ⟨_, same⟩ := Option.ite_none_right_eq_some.mp taken
      obtain rfl := Option.some.inj same
      exact ⟨flush_wired good.wired, fun slice shown => flush_kept shown (good.kept slice shown)⟩
  | bundleReads slice =>
      obtain ⟨bundle, running, taken⟩ := Option.bind_eq_some_iff.mp taken
      split at taken
      next waiting =>
        obtain rfl := Option.some.inj taken
        exact moveBundle_good good running slice _ fun shown seen =>
          View.bundleReads_kept (good.kept slice shown) seen waiting
      · cases taken
  | bundlePaints slice =>
      obtain ⟨bundle, running, taken⟩ := Option.bind_eq_some_iff.mp taken
      split at taken
      next moment read =>
        obtain rfl := Option.some.inj taken
        exact paintBundle_good good running read
      · cases taken
  | bundleFails slice =>
      obtain ⟨bundle, running, taken⟩ := Option.bind_eq_some_iff.mp taken
      obtain ⟨_, same⟩ := Option.ite_none_left_eq_some.mp taken
      obtain rfl := Option.some.inj same
      exact moveBundle_good good running slice _ fun shown seen =>
        View.bundleFails_kept (good.kept slice shown) seen
  | bundleDone =>
      obtain ⟨bundle, running, taken⟩ := Option.bind_eq_some_iff.mp taken
      obtain ⟨closed, same⟩ := Option.ite_none_left_eq_some.mp taken
      obtain rfl := Option.some.inj same
      exact finishRefresh_good good running closed allowed
  | flushReads slice =>
      obtain ⟨flush, running, taken⟩ := Option.bind_eq_some_iff.mp taken
      split at taken
      next waiting =>
        obtain rfl := Option.some.inj taken
        exact moveFlush_good good running waiting _ fun shown seen =>
          View.flushReads_kept (good.kept slice shown) seen rfl
      · cases taken
  | flushPaints slice =>
      obtain ⟨flush, running, taken⟩ := Option.bind_eq_some_iff.mp taken
      split at taken
      next moment read =>
        obtain rfl := Option.some.inj taken
        exact paintFlush_good good running read
      · cases taken
  | flushFails slice =>
      obtain ⟨flush, running, taken⟩ := Option.bind_eq_some_iff.mp taken
      split at taken
      next progress fetching =>
        obtain ⟨unpainted, same⟩ := Option.ite_none_right_eq_some.mp taken
        obtain rfl := Option.some.inj same
        exact moveFlush_good good running fetching _ fun shown seen =>
          View.flushFails_kept (good.kept slice shown) seen unpainted
      · cases taken
  | flushDone =>
      obtain ⟨flush, running, taken⟩ := Option.bind_eq_some_iff.mp taken
      obtain ⟨closed, same⟩ := Option.ite_none_left_eq_some.mp taken
      obtain rfl := Option.some.inj same
      exact flushed_good good running closed

theorem step_good {page after : Page} {label : Label} (good : Good visible page)
    (allowed : Allowed visible page label) (taken : step visible page label = some after) :
    Good visible after := by
  obtain ⟨acted, done, rfl⟩ := Option.map_eq_some_iff.mp taken
  refine (act_good good allowed done).later (act_good good allowed done).wired fun slice => ?_
  exact ⟨rfl, rfl, rfl, rfl, rfl, rfl, rfl, rfl, id, Nat.le_refl _, Nat.le_succ _,
    Nat.le_refl _, Nat.le_refl _⟩

theorem initial_good : Good visible initial where
  wired :=
    { paired := fun _ => Iff.rfl
      offline := fun _ _ => rfl
      due := fun _ running => by cases running
      armed := fun _ _ _ => rfl }
  kept slice _ :=
    { ordered :=
        { bundle := fun _ running => by cases running
          flush := fun _ fetching => by cases fetching
          apart := fun _ _ running => by cases running
          change := fun _ changed => by cases changed
          stuck := fun _ fetching => by cases fetching }
      tracked := fun connected => by cases connected }

theorem reached_good {page : Page}
    (run : Reaches (step visible) (Allowed visible) initial page) : Good visible page :=
  run.invariant (Good visible) initial_good fun _ _ _ good allowed taken =>
    step_good good allowed taken

theorem quiescent_current {page : Page} {slice : Slice} {at_ : Nat}
    (run : Reaches (step visible) (Allowed visible) initial page) (shown : visible slice = true)
    (connected : page.driver.connected = true) (quiet : Quiescent page)
    (changed : page.lastChange slice = some at_) :
    ∃ painted, page.screen slice = some painted ∧ at_ ≤ painted.read := by
  obtain ⟨landed, unarmed, _, idle, unqueued, untimed, fresh⟩ := quiet
  have good := reached_good run
  rcases (good.kept slice shown).tracked connected with owed | ⟨wanted, _⟩ | held
  · simp [view, unqueued, untimed, fresh] at owed
  · have pending := (good.wired.paired slice).mpr wanted
    rw [good.wired.armed landed unarmed slice] at pending
    cases pending
  · have current : (view page slice).Current := by
      simpa only [View.Held, view, idle, landed, Option.map_none, Option.bind_none] using held
    exact current at_ changed

end Page

/-! ### The chat page -/

/-- The slices of a page that is neither the environments' nor the files', with no channel
open. -/
def chatPage (slice : Slice) : Bool :=
  slice != .spawnRequests && slice != .files && slice != .conversation

def channelsChanged (seq : Int) : Label :=
  .changed
    { seq := seq
      serverInstance := "service-1"
      tables := ["channels"]
      liveness := [] }

def bundleFetches (slices : List Slice) : List Label :=
  slices.flatMap fun slice => [.bundleReads slice, .bundlePaints slice]

def flushFetches (slices : List Slice) : List Label :=
  [Label.flushFires] ++
    slices.flatMap (fun slice => [Label.flushReads slice, Label.flushPaints slice]) ++
    [Label.flushDone]

def quietSeen (page : Page) : Bool :=
  page.driver.connected && page.driver.inFlight.isNone && page.driver.flushTimer.isNone &&
    !page.driver.pollTimer && page.bundle.isNone && !page.refreshQueued && !page.refreshTimer &&
    !page.stale

theorem quietSeen_quiet {page : Page} (seen : quietSeen page = true) :
    page.driver.connected = true ∧ Quiescent page := by
  simp only [quietSeen, Bool.and_eq_true, Option.isNone_iff_eq_none, Bool.not_eq_true'] at seen
  obtain ⟨⟨⟨⟨⟨⟨⟨connected, landed⟩, unarmed⟩, unpolled⟩, idle⟩, unqueued⟩, untimed⟩, fresh⟩ := seen
  exact ⟨connected, landed, unarmed, unpolled, idle, unqueued, untimed, fresh⟩

def sliceSeen (slice : Slice) (page : Page) : Bool × Option Nat × Option Shown :=
  (quietSeen page, page.lastChange slice, page.screen slice)

/-- A change while nothing is pending, and a bundle that lands while no flush is under way. -/
def apart (page : Page) : Label → Bool
  | .changed _ => Slice.all.all fun slice => (page.driver.wantedAt slice).isNone
  | .bundleDone => page.driver.inFlight.isNone
  | _ => true

theorem apart_allowed (page : Page) (label : Label) (granted : apart page label = true) :
    Allowed chatPage page label := by
  cases label with
  | changed event =>
      intro _ _ slice _ _ bundle at_ _ wanted _
      have none := List.all_eq_true.mp granted slice (Slice.mem_all slice)
      rw [wanted] at none
      cases none
  | bundleDone =>
      intro bundle flush _ inFlight
      have none := Option.isNone_iff_eq_none.mp granted
      rw [inFlight] at none
      cases none
  | _ => trivial

/-- A change that arrives once the bundle has read everything: the channels are fetched again
after the debounce, the statistics after their floor. -/
def changeDuringBundle : List Label :=
  [Label.tick 1000, Label.opened] ++ bundleFetches (Slice.all.filter chatPage) ++
    [Label.tick 500, channelsChanged 1, Label.bundleDone, Label.tick 1000] ++
    flushFetches [.channels] ++ [Label.tick 30000] ++ flushFetches [.stats]

theorem quiescent_current_chat : ∃ page, Reaches (step chatPage) (Allowed chatPage) initial page ∧
    Quiescent page ∧ page.lastChange .stats = some 21 ∧
    ∃ painted, page.screen .stats = some painted ∧ 21 ≤ painted.read := by
  have executed : (exec (step chatPage) apart initial changeDuringBundle).map (sliceSeen .stats) =
      some (true, some 21, some ⟨30, 3⟩) := by
    decide
  obtain ⟨page, run, seen⟩ := reaches_observed _ _ _ _ apart_allowed executed
  simp only [sliceSeen, Prod.mk.injEq] at seen
  obtain ⟨connected, quiet⟩ := quietSeen_quiet seen.1
  exact ⟨page, run, quiet, seen.2.1, quiescent_current run rfl connected quiet seen.2.1⟩

/-- The statistics wait out their floor since a first change. A bundle starts and reads them, a
second change names them, and the bundle's acknowledgement drops both. -/
def changeDropped : List Label :=
  [Label.tick 1000, Label.opened] ++ bundleFetches (Slice.all.filter chatPage) ++
    [Label.bundleDone, Label.tick 1000, channelsChanged 1, Label.tick 250] ++
    flushFetches [.channels] ++ [Label.tick 750, Label.refresh] ++
    bundleFetches (Slice.all.filter chatPage) ++
    [Label.tick 500, channelsChanged 2, Label.bundleDone, Label.tick 250] ++
    flushFetches [.channels]

theorem bundle_drops_change : ∃ page painted, Reaches (step chatPage) anyStep initial page ∧
    chatPage .stats = true ∧ page.driver.connected = true ∧ Quiescent page ∧
    page.lastChange .stats = some 49 ∧ page.screen .stats = some painted ∧ painted.read < 49 := by
  have executed : (exec (step chatPage) (fun _ _ => true) initial changeDropped).map
      (sliceSeen .stats) = some (true, some 49, some ⟨42, 3⟩) := by
    decide
  obtain ⟨page, run, seen⟩ := reaches_observed _ _ _ _ (fun _ _ _ => trivial) executed
  simp only [sliceSeen, Prod.mk.injEq] at seen
  obtain ⟨connected, quiet⟩ := quietSeen_quiet seen.1
  exact ⟨page, _, run, rfl, connected, quiet, seen.2.1, seen.2.2, by decide⟩

/-- The bundle has read the channels when they change. A flush reads and paints them, and the
bundle paints what it read over that. Acknowledged before the flush, the bundle finds nothing
that started later. -/
def bundlePaintsOver : List Label :=
  [Label.tick 1000, Label.opened] ++ bundleFetches (Slice.all.filter chatPage) ++
    [Label.bundleDone, Label.tick 1000, Label.refresh] ++
    bundleFetches (Slice.all.filter fun slice => chatPage slice && slice != .channels) ++
    [Label.bundleReads .channels, channelsChanged 1, Label.tick 250, Label.flushFires,
      Label.flushReads .channels, Label.flushPaints .channels, Label.bundlePaints .channels,
      Label.bundleDone, Label.flushDone, Label.tick 30000] ++
    flushFetches [.stats]

theorem bundle_paints_over : ∃ page painted, Reaches (step chatPage) anyStep initial page ∧
    chatPage .channels = true ∧ page.driver.connected = true ∧ Quiescent page ∧
    page.lastChange .channels = some 40 ∧ page.screen .channels = some painted ∧
    painted.read < 40 := by
  have executed : (exec (step chatPage) (fun _ _ => true) initial bundlePaintsOver).map
      (sliceSeen .channels) = some (true, some 40, some ⟨39, 2⟩) := by
    decide
  obtain ⟨page, run, seen⟩ := reaches_observed _ _ _ _ (fun _ _ _ => trivial) executed
  simp only [sliceSeen, Prod.mk.injEq] at seen
  obtain ⟨connected, quiet⟩ := quietSeen_quiet seen.1
  exact ⟨page, _, run, rfl, connected, quiet, seen.2.1, seen.2.2, by decide⟩

end AifyComms.ChangeRefreshRuns
