import AifyComms.HermesDelivery
import AifyComms.Runs

/-!
The turn detector of a managed hermes session, `hermes-gateway-turn-detector.js`: the
debounced state machine, and the timer loop that posts its edges. The timer does not wait
for a tick, so ticks overlap; a step is what runs between two awaits of one of them.

A tick is under way while it waits, and stands in `ticks` with what it waits for. Whether a
post succeeds is not asked: its error is swallowed and the tick goes on. `edges`, `posts`
and `handing` are history; `handing` lists the ticks inside `onTurnEdge` in the order in
which they took their edges. `gate` is what `shouldFireTurnStart` answers.
-/

namespace AifyComms.GatewayTurns
open HermesDelivery Runs

/-! ### The detector -/

inductive Edge where
  | start
  | ended
  deriving DecidableEq

/-- Whether the detector is in flight after the edge. -/
def Edge.working : Edge → Bool
  | .start => true
  | .ended => false

structure Detector where
  inFlight : Bool
  idleStreak : Nat
  deriving DecidableEq

def defaultIdleDebounceTicks : Nat := 3

def threshold (idleDebounce : Nat) : Nat :=
  max 1 (if idleDebounce = 0 then defaultIdleDebounceTicks else idleDebounce)

def Detector.observe (idleDebounce : Nat) (detector : Detector) (status : String) :
    Detector × Option Edge :=
  if isGatewaySessionWorking status then
    (⟨true, 0⟩, if detector.inFlight then none else some .start)
  else if isGatewaySessionIdle status then
    if detector.inFlight then
      if threshold idleDebounce ≤ detector.idleStreak + 1 then (⟨false, 0⟩, some .ended)
      else ({ detector with idleStreak := detector.idleStreak + 1 }, none)
    -- Idle before a working status was seen ends nothing.
    else (detector, none)
  else (detector, none)

/-! ### The loop -/

/-- What a tick waits for. -/
inductive Phase where
  | reading
  | refreshing (status : String)
  | clearing (status : String)
  | handing (edge : Edge)
  | posting
  deriving DecidableEq

structure Settings where
  intervalMs : Nat
  idleDebounce : Nat
  workingRefreshMs : Nat
  idleRefreshMs : Nat
  onTurnEdge : Bool

structure Loop where
  stopped : Bool
  detector : Detector
  inFlight : Bool
  workingAccumMs : Nat
  clearAccumMs : Nat
  ticks : Nat → Option Phase
  next : Nat
  handing : List (Nat × Edge)
  edges : List Edge
  posts : List Edge

def initial : Loop := ⟨false, ⟨false, 0⟩, false, 0, 0, fun _ => none, 0, [], [], []⟩

inductive Label where
  | fire
  | answered (tick : Nat) (status : Option String) (gate : Bool)
  | settled (tick : Nat) (gate : Bool)
  | stop

def Loop.wait (loop : Loop) (tick : Nat) (phase : Phase) : Loop :=
  { loop with ticks := Function.update loop.ticks tick (some phase) }

/-- The tick runs on: it waits for nothing. -/
def Loop.resume (loop : Loop) (tick : Nat) : Loop :=
  { loop with ticks := Function.update loop.ticks tick none }

def Loop.post (loop : Loop) (tick : Nat) (edge : Edge) (phase : Phase) : Loop :=
  { loop.wait tick phase with posts := loop.posts ++ [edge] }

/-- After `onTurnEdge`: the mirror takes the edge, and it is posted. -/
def Loop.act (loop : Loop) (tick : Nat) (edge : Edge) (gate : Bool) : Loop :=
  let mirrored := { loop with inFlight := edge.working, clearAccumMs := 0 }
  match edge with
  | .start => if gate then mirrored.post tick .start .posting else mirrored
  | .ended => mirrored.post tick .ended .posting

def Loop.observe (settings : Settings) (loop : Loop) (tick : Nat) (status : String)
    (gate : Bool) : Loop :=
  let seen := loop.detector.observe settings.idleDebounce status
  match seen.2 with
  | none => { loop with detector := seen.1 }
  | some edge =>
      let taken := { loop with detector := seen.1, edges := loop.edges ++ [edge] }
      if loop.stopped then taken
      else if settings.onTurnEdge then
        { taken.wait tick (.handing edge) with handing := loop.handing ++ [(tick, edge)] }
      else taken.act tick edge gate

/-- Keep-cleared: an idle agent's end is posted again. -/
def Loop.keepCleared (settings : Settings) (loop : Loop) (tick : Nat) (status : String)
    (gate : Bool) : Loop :=
  if settings.idleRefreshMs ≠ 0 ∧ loop.inFlight = false ∧ isGatewaySessionIdle status then
    let accum := loop.clearAccumMs + settings.intervalMs
    if settings.idleRefreshMs ≤ accum ∧ loop.stopped = false then
      { loop with clearAccumMs := 0 }.post tick .ended (.clearing status)
    else { loop with clearAccumMs := accum }.observe settings tick status gate
  else if isGatewaySessionIdle status then loop.observe settings tick status gate
  else { loop with clearAccumMs := 0 }.observe settings tick status gate

/-- Keep-fresh: a working agent's start is posted again. -/
def Loop.keepFresh (settings : Settings) (loop : Loop) (tick : Nat) (status : String)
    (gate : Bool) : Loop :=
  if settings.workingRefreshMs ≠ 0 ∧ isGatewaySessionWorking status then
    let accum := loop.workingAccumMs + settings.intervalMs
    if settings.workingRefreshMs ≤ accum ∧ loop.stopped = false ∧ gate then
      { loop with workingAccumMs := 0 }.post tick .start (.refreshing status)
    else { loop with workingAccumMs := accum }.keepCleared settings tick status gate
  else { loop with workingAccumMs := 0 }.keepCleared settings tick status gate

def step (settings : Settings) (loop : Loop) : Label → Option Loop
  | .fire =>
      if loop.stopped then none
      else some { loop.wait loop.next .reading with next := loop.next + 1 }
  | .answered tick status gate =>
      if loop.ticks tick = some .reading then
        match status with
        | none => some (loop.resume tick)
        | some status => some ((loop.resume tick).keepFresh settings tick status gate)
      else none
  | .settled tick gate =>
      match loop.ticks tick with
      | some (.refreshing status) =>
          some ((loop.resume tick).keepCleared settings tick status gate)
      | some (.clearing status) => some ((loop.resume tick).observe settings tick status gate)
      | some (.handing edge) =>
          some ({ loop.resume tick with
            handing := loop.handing.filter fun pair => pair.1 ≠ tick }.act tick edge gate)
      | some .posting => some (loop.resume tick)
      | _ => none
  | .stop => some { loop with stopped := true }

/-- Every tick that was started has finished. -/
def Finished (loop : Loop) : Prop := ∀ tick < loop.next, loop.ticks tick = none

/-- The last post is for the last edge, and the mirror is the detector's flag. -/
def Agreed (loop : Loop) : Prop :=
  (∀ edge, loop.edges.getLast? = some edge → loop.posts.getLast? = some edge) ∧
    loop.inFlight = loop.detector.inFlight

/-- The turn-start gate is open and the loop is not stopped. -/
def Running : Label → Prop
  | .answered _ _ gate => gate = true
  | .settled _ gate => gate = true
  | .stop => False
  | .fire => True

/-- A tick comes back from `onTurnEdge` before every tick that took its edge later. -/
def InOrder (loop : Loop) : Label → Prop
  | .settled tick _ => ∀ edge, loop.ticks tick = some (.handing edge) →
      loop.handing.head? = some (tick, edge)
  | _ => True

/-! ### What overlapping ticks keep -/

theorem working_inj {edge other : Edge} (same : edge.working = other.working) : edge = other := by
  cases edge <;> cases other <;> first | rfl | cases same

theorem idle_not_working {status : String} (idle : isGatewaySessionIdle status = true) :
    isGatewaySessionWorking status = false := by
  unfold isGatewaySessionIdle at idle
  unfold isGatewaySessionWorking
  rw [decide_eq_true_iff] at idle
  rw [decide_eq_false_iff_not]
  intro working
  rw [working] at idle
  revert idle
  decide

theorem observe_cases (idleDebounce : Nat) (detector : Detector) (status : String) :
    ((detector.observe idleDebounce status).2 = none ∧
        (detector.observe idleDebounce status).1.inFlight = detector.inFlight ∧
        (isGatewaySessionWorking status = true → detector.inFlight = true)) ∨
      ∃ edge, (detector.observe idleDebounce status).2 = some edge ∧
        (detector.observe idleDebounce status).1.inFlight = edge.working := by
  unfold Detector.observe
  by_cases working : isGatewaySessionWorking status = true
  · cases flying : detector.inFlight with
    | true => exact .inl (by simp [working])
    | false => exact .inr ⟨.start, by simp [working, Edge.working]⟩
  · by_cases idle : isGatewaySessionIdle status = true
    · cases flying : detector.inFlight with
      | false => exact .inl (by simp [working, idle, flying])
      | true =>
          by_cases long : threshold idleDebounce ≤ detector.idleStreak + 1
          · exact .inr ⟨.ended, by simp [working, idle, long, Edge.working]⟩
          · exact .inl (by simp [working, idle, long])
    · exact .inl (by simp [working, idle])

/-- What every step keeps, whatever was posted. -/
structure Kept (settings : Settings) (loop : Loop) : Prop where
  running : loop.stopped = false
  numbered : ∀ tick phase, loop.ticks tick = some phase → tick < loop.next
  waiting : ∀ pair ∈ loop.handing, loop.ticks pair.1 = some (.handing pair.2)
  once : (loop.handing.map fun pair => pair.1).Nodup
  sync : settings.onTurnEdge = false → loop.handing = []
  last : ∀ edge, loop.edges.getLast? = some edge → loop.detector.inFlight = edge.working
  refreshed : ∀ tick status, loop.ticks tick = some (.refreshing status) →
    isGatewaySessionWorking status = true

/-- The detector's flag: the mirror's, unless edges wait, and then that of the last one. -/
def Follows (loop : Loop) (mirror : Bool) : Prop :=
  loop.detector.inFlight = (loop.handing.getLast?.map fun pair => pair.2.working).getD mirror

/-- The invariant. With no edge waiting, the last post is for the last edge, unless a start
was posted that the detector is about to see: `seen`, by the tick that runs, or by one that
waits for that post. -/
structure Agrees (settings : Settings) (seen : Bool) (loop : Loop) : Prop
    extends Kept settings loop where
  follows : Follows loop loop.inFlight
  posted : loop.handing = [] → ∀ edge, loop.edges.getLast? = some edge →
    loop.posts.getLast? = some edge ∨
      (edge = .ended ∧ (seen = true ∨ ∃ tick status, loop.ticks tick = some (.refreshing status)))

variable {settings : Settings} {loop : Loop} {seen : Bool} {tick : Nat}

theorem kept_wait (kept : Kept settings loop) (free : loop.ticks tick = none)
    (below : tick < loop.next) {phase : Phase}
    (working : ∀ status, phase = .refreshing status → isGatewaySessionWorking status = true) :
    Kept settings (loop.wait tick phase) := by
  refine ⟨kept.running, ?_, ?_, kept.once, kept.sync, kept.last, ?_⟩
  · intro other held here
    rcases update_some here with ⟨rfl, _⟩ | before
    · exact below
    · exact kept.numbered other held before
  · intro pair listed
    have held := kept.waiting pair listed
    have other : pair.1 ≠ tick := by
      rintro rfl
      rw [free] at held
      cases held
    exact (Function.update_of_ne other _ _).trans held
  · intro other status here
    rcases update_some here with ⟨_, now⟩ | before
    · exact working status (Option.some.inj now)
    · exact kept.refreshed other status before

theorem kept_resume (kept : Kept settings loop)
    (idle : ∀ pair ∈ loop.handing, pair.1 ≠ tick) : Kept settings (loop.resume tick) := by
  have fewer : ∀ other phase, (loop.resume tick).ticks other = some phase →
      loop.ticks other = some phase := by
    intro other phase here
    rcases update_some here with ⟨_, now⟩ | before
    · cases now
    · exact before
  refine ⟨kept.running, ?_, ?_, kept.once, kept.sync, kept.last, ?_⟩
  · exact fun other phase here => kept.numbered other phase (fewer other phase here)
  · intro pair listed
    exact (Function.update_of_ne (idle pair listed) _ _).trans (kept.waiting pair listed)
  · exact fun other status here => kept.refreshed other status (fewer other _ here)

theorem resume_free (loop : Loop) (tick : Nat) : (loop.resume tick).ticks tick = none :=
  Function.update_self ..

theorem agrees_accums (agrees : Agrees settings seen loop) (working clear : Nat) :
    Agrees settings seen { loop with workingAccumMs := working, clearAccumMs := clear } :=
  ⟨⟨agrees.running, agrees.numbered, agrees.waiting, agrees.once, agrees.sync, agrees.last,
    agrees.refreshed⟩, agrees.follows, agrees.posted⟩

theorem agrees_resume (agrees : Agrees settings false loop) {phase : Phase}
    (here : loop.ticks tick = some phase) (idle : ∀ edge, phase ≠ .handing edge)
    (moves : seen = true ∨ ∀ status, phase ≠ .refreshing status) :
    Agrees settings seen (loop.resume tick) := by
  have other : ∀ pair ∈ loop.handing, pair.1 ≠ tick := by
    rintro pair listed rfl
    exact idle _ (Option.some.inj (here.symm.trans (agrees.waiting pair listed)))
  refine ⟨kept_resume agrees.toKept other, agrees.follows, ?_⟩
  intro none edge last
  rcases agrees.posted none edge last with same | ⟨ended, before | ⟨waits, status, held⟩⟩
  · exact .inl same
  · cases before
  · refine .inr ⟨ended, ?_⟩
    rcases moves with seen | moves
    · exact .inl seen
    · refine .inr ⟨waits, status, ?_⟩
      have apart : waits ≠ tick := by
        rintro rfl
        exact moves status (Option.some.inj (here.symm.trans held))
      exact (Function.update_of_ne apart _ _).trans held

/-- A post that is for the last edge, or a start that its tick will show to the detector. -/
theorem agrees_post (kept : Kept settings loop) (follows : Follows loop loop.inFlight)
    (free : loop.ticks tick = none) (below : tick < loop.next) {edge : Edge} {phase : Phase}
    (working : ∀ status, phase = .refreshing status → isGatewaySessionWorking status = true)
    (posted : loop.handing = [] → ∀ last, loop.edges.getLast? = some last →
      last = edge ∨ (last = .ended ∧ ∃ status, phase = .refreshing status)) :
    Agrees settings false (loop.post tick edge phase) := by
  have waits := kept_wait kept free below working
  refine ⟨⟨waits.running, waits.numbered, waits.waiting, waits.once, waits.sync, waits.last,
    waits.refreshed⟩, follows, ?_⟩
  intro none last isLast
  rcases posted none last isLast with rfl | ⟨ended, status, rfl⟩
  · exact .inl List.getLast?_concat
  · exact .inr ⟨ended, .inr ⟨tick, status, Function.update_self ..⟩⟩

theorem agrees_act (kept : Kept settings loop) (free : loop.ticks tick = none)
    (below : tick < loop.next) {edge : Edge} (follows : Follows loop edge.working)
    (posted : loop.handing = [] → ∀ last, loop.edges.getLast? = some last → last = edge) :
    Agrees settings false (loop.act tick edge true) := by
  have mirrored : Kept settings { loop with inFlight := edge.working, clearAccumMs := 0 } :=
    ⟨kept.running, kept.numbered, kept.waiting, kept.once, kept.sync, kept.last, kept.refreshed⟩
  have posting : Agrees settings false
      ({ loop with inFlight := edge.working, clearAccumMs := 0 }.post tick edge .posting) :=
    agrees_post mirrored follows free below (fun _ same => by cases same)
      fun none last isLast => .inl (posted none last isLast)
  cases edge with
  | start => exact posting
  | ended => exact posting

/-- `onTurnEdge` is called: the edge waits behind those taken before it. -/
theorem agrees_handed (kept : Kept settings loop) (free : loop.ticks tick = none)
    (below : tick < loop.next) (handed : settings.onTurnEdge = true) {edge : Edge}
    (flag : loop.detector.inFlight = edge.working) :
    Agrees settings false { loop.wait tick (.handing edge) with
      handing := loop.handing ++ [(tick, edge)] } := by
  have waits : Kept settings (loop.wait tick (.handing edge)) :=
    kept_wait kept free below fun _ same => by cases same
  refine ⟨⟨waits.running, waits.numbered, ?_, ?_, ?_, waits.last, waits.refreshed⟩, ?_, ?_⟩
  · intro pair listed
    rcases List.mem_append.mp listed with before | now
    · exact waits.waiting pair before
    · rw [List.mem_singleton.mp now]
      exact Function.update_self ..
  · rw [List.map_append, List.map_singleton]
    refine pairwise_concat kept.once ?_
    rintro first listed rfl
    obtain ⟨pair, before, same⟩ := List.mem_map.mp listed
    have held := kept.waiting pair before
    rw [same, free] at held
    cases held
  · intro off
    rw [handed] at off
    cases off
  · unfold Follows
    rw [List.getLast?_concat]
    exact flag
  · intro none
    exact absurd none (List.concat_ne_nil _ _)

theorem agrees_observe (agrees : Agrees settings seen loop) (free : loop.ticks tick = none)
    (below : tick < loop.next) {status : String}
    (shown : seen = true → isGatewaySessionWorking status = true) :
    Agrees settings false (loop.observe settings tick status true) := by
  have cases := observe_cases settings.idleDebounce loop.detector status
  unfold Loop.observe
  generalize loop.detector.observe settings.idleDebounce status = result at cases ⊢
  obtain ⟨detector, directive⟩ := result
  rcases cases with ⟨rfl, flag, flying⟩ | ⟨edge, rfl, flag⟩
  · dsimp only at flag ⊢
    refine ⟨⟨agrees.running, agrees.numbered, agrees.waiting, agrees.once, agrees.sync, ?_,
      agrees.refreshed⟩, ?_, ?_⟩
    · intro edge last
      dsimp only at last ⊢
      rw [flag]
      exact agrees.last edge last
    · have follows := agrees.follows
      unfold Follows at follows ⊢
      dsimp only
      rw [flag]
      exact follows
    · intro none edge last
      rcases agrees.posted none edge last with same | ⟨rfl, saw | waits⟩
      · exact .inl same
      -- The start that was posted would have been an edge.
      · have off := agrees.last .ended last
        rw [flying (shown saw)] at off
        cases off
      · exact .inr ⟨rfl, .inr waits⟩
  · dsimp only at flag ⊢
    rw [if_neg (by rw [agrees.running]; exact Bool.false_ne_true)]
    have kept : Kept settings { loop with
        detector := detector
        edges := loop.edges ++ [edge] } := by
      refine ⟨agrees.running, agrees.numbered, agrees.waiting, agrees.once, agrees.sync, ?_,
        agrees.refreshed⟩
      intro last isLast
      rw [List.getLast?_concat] at isLast
      rw [← Option.some.inj isLast]
      exact flag
    by_cases handed : settings.onTurnEdge = true
    · rw [if_pos handed]
      exact agrees_handed kept free below handed flag
    · rw [if_neg handed]
      have none := agrees.sync (Bool.not_eq_true _ ▸ handed)
      refine agrees_act kept free below ?_ fun _ last isLast => ?_
      · unfold Follows
        dsimp only
        rw [none]
        exact flag
      · rw [List.getLast?_concat] at isLast
        exact (Option.some.inj isLast).symm

theorem agrees_keepCleared (agrees : Agrees settings seen loop) (free : loop.ticks tick = none)
    (below : tick < loop.next) {status : String}
    (shown : seen = true → isGatewaySessionWorking status = true) :
    Agrees settings false (loop.keepCleared settings tick status true) := by
  have accum := fun clear => agrees_accums agrees loop.workingAccumMs clear
  unfold Loop.keepCleared
  dsimp only
  split
  case isTrue proven =>
    split
    · refine agrees_post (accum 0).toKept (accum 0).follows free below
        (fun _ same => by cases same) fun none last isLast => .inl ?_
      -- No edge waits and the mirror is clear, so the last edge was an end.
      have flag := agrees.last last isLast
      have follows := agrees.follows
      unfold Follows at follows
      rw [none, proven.2.1] at follows
      exact working_inj (flag.symm.trans follows)
    · have longer := accum (loop.clearAccumMs + settings.intervalMs)
      exact agrees_observe longer free below shown
  case isFalse =>
    split
    · exact agrees_observe agrees free below shown
    · exact agrees_observe (accum 0) free below shown

theorem agrees_keepFresh (agrees : Agrees settings false loop) (free : loop.ticks tick = none)
    (below : tick < loop.next) (status : String) :
    Agrees settings false (loop.keepFresh settings tick status true) := by
  have accum := fun working => agrees_accums agrees working loop.clearAccumMs
  have unseen : false = true → isGatewaySessionWorking status = true := fun no => by cases no
  unfold Loop.keepFresh
  dsimp only
  split
  case isTrue working =>
    split
    · refine agrees_post (accum 0).toKept (accum 0).follows free below ?_ ?_
      · rintro shown same
        rw [← Phase.refreshing.inj same]
        exact working.2
      · intro _ last _
        cases last with
        | start => exact .inl rfl
        | ended => exact .inr ⟨rfl, status, rfl⟩
    · have longer := accum (loop.workingAccumMs + settings.intervalMs)
      exact agrees_keepCleared longer free below unseen
  case isFalse => exact agrees_keepCleared (accum 0) free below unseen

/-- The tick at the head of those that wait comes back. -/
theorem agrees_handed_back (agrees : Agrees settings false loop) {edge : Edge}
    (here : loop.ticks tick = some (.handing edge))
    (first : loop.handing.head? = some (tick, edge)) :
    Agrees settings false ({ loop.resume tick with
      handing := loop.handing.filter fun pair => pair.1 ≠ tick }.act tick edge true) := by
  obtain ⟨rest, queue⟩ := List.head?_eq_some_iff.mp first
  have once := agrees.once
  rw [queue, List.map_cons, List.nodup_cons] at once
  have apart : ∀ pair ∈ rest, pair.1 ≠ tick := by
    intro pair listed same
    exact once.1 (List.mem_map.mpr ⟨pair, listed, same⟩)
  have left : loop.handing.filter (fun pair => pair.1 ≠ tick) = rest := by
    rw [queue, List.filter_cons_of_neg (by simp), List.filter_eq_self]
    exact fun pair listed => decide_eq_true (apart pair listed)
  rw [left]
  have shorter : Kept settings { loop with handing := rest } := by
    refine ⟨agrees.running, agrees.numbered, ?_, once.2, ?_, agrees.last, agrees.refreshed⟩
    · exact fun pair listed =>
        agrees.waiting pair (queue ▸ List.mem_cons_of_mem _ listed)
    · intro off
      rw [agrees.sync off] at queue
      cases queue
  have follows := agrees.follows
  unfold Follows at follows
  rw [queue, List.getLast?_cons] at follows
  refine agrees_act (kept_resume shorter apart) (resume_free loop tick)
    (agrees.numbered tick _ here) ?_ ?_
  · unfold Follows
    refine follows.trans ?_
    dsimp only [Loop.resume]
    cases rest.getLast? <;> rfl
  · intro none last isLast
    dsimp only [Loop.resume] at none
    rw [none] at follows
    exact working_inj ((agrees.last last isLast).symm.trans follows)

theorem agrees_fire (agrees : Agrees settings false loop) :
    Agrees settings false { loop.wait loop.next .reading with next := loop.next + 1 } := by
  have free : loop.ticks loop.next = none := by
    cases here : loop.ticks loop.next with
    | none => rfl
    | some phase => exact absurd (agrees.numbered _ _ here) (Nat.lt_irrefl _)
  have room : Kept settings { loop with next := loop.next + 1 } :=
    ⟨agrees.running, fun tick phase here => Nat.lt_succ_of_lt (agrees.numbered tick phase here),
      agrees.waiting, agrees.once, agrees.sync, agrees.last, agrees.refreshed⟩
  have waits : Kept settings ({ loop with next := loop.next + 1 }.wait loop.next .reading) :=
    kept_wait room free (Nat.lt_succ_self _) fun _ same => by cases same
  refine ⟨waits, agrees.follows, ?_⟩
  intro none edge last
  refine (agrees.posted none edge last).imp id (And.imp id (Or.imp id ?_))
  rintro ⟨tick, status, held⟩
  refine ⟨tick, status, ?_⟩
  have other : tick ≠ loop.next := by
    rintro rfl
    rw [free] at held
    cases held
  exact (Function.update_of_ne other _ _).trans held

theorem agrees_step {label : Label} {after : Loop} (agrees : Agrees settings false loop)
    (running : Running label) (inOrder : InOrder loop label)
    (taken : step settings loop label = some after) : Agrees settings false after := by
  cases label with
  | fire =>
      dsimp only [step] at taken
      rw [if_neg (by rw [agrees.running]; exact Bool.false_ne_true)] at taken
      obtain rfl := Option.some.inj taken
      exact agrees_fire agrees
  | answered tick status gate =>
      dsimp only [step] at taken
      obtain rfl : gate = true := running
      by_cases here : loop.ticks tick = some .reading
      · rw [if_pos here] at taken
        have resumed : Agrees settings false (loop.resume tick) :=
          agrees_resume agrees here (fun _ same => by cases same) (.inr fun _ same => by cases same)
        cases status with
        | none => exact Option.some.inj taken ▸ resumed
        | some status =>
            obtain rfl := Option.some.inj taken
            exact agrees_keepFresh resumed (resume_free loop tick) (agrees.numbered tick _ here)
              status
      · rw [if_neg here] at taken
        cases taken
  | settled tick gate =>
      dsimp only [step] at taken
      obtain rfl : gate = true := running
      cases here : loop.ticks tick with
      | none =>
          rw [here] at taken
          cases taken
      | some phase =>
          rw [here] at taken
          have below := agrees.numbered tick _ here
          cases phase with
          | reading => cases taken
          | refreshing status =>
              obtain rfl := Option.some.inj taken
              have resumed : Agrees settings true (loop.resume tick) :=
                agrees_resume agrees here (fun _ same => by cases same) (.inl rfl)
              exact agrees_keepCleared resumed (resume_free loop tick) below
                fun _ => agrees.refreshed tick status here
          | clearing status =>
              obtain rfl := Option.some.inj taken
              have resumed : Agrees settings false (loop.resume tick) :=
                agrees_resume agrees here (fun _ same => by cases same)
                  (.inr fun _ same => by cases same)
              exact agrees_observe resumed (resume_free loop tick) below fun no => by cases no
          | handing edge =>
              obtain rfl := Option.some.inj taken
              exact agrees_handed_back agrees here (inOrder edge here)
          | posting =>
              obtain rfl := Option.some.inj taken
              exact agrees_resume agrees here (fun _ same => by cases same)
                (.inr fun _ same => by cases same)
  | stop => exact running.elim

/-- With the gate open, once every started tick has finished the last post is for the last
edge and the mirror is the detector's flag, in every run in which the ticks come back from
`onTurnEdge` in the order of their edges. -/
theorem last_post_is_last_edge (settings : Settings) {loop : Loop}
    (run : Reaches (step settings) (fun loop label => Running label ∧ InOrder loop label)
      initial loop) (finished : Finished loop) : Agreed loop := by
  have agrees : Agrees settings false loop := by
    refine run.invariant _ ?_ fun before label after agrees allowed taken =>
      agrees_step agrees allowed.1 allowed.2 taken
    refine ⟨⟨rfl, ?_, ?_, List.nodup_nil, fun _ => rfl, ?_, ?_⟩, rfl, ?_⟩
    · exact fun _ _ here => by cases here
    · exact fun _ listed => absurd listed List.not_mem_nil
    · exact fun _ last => by cases last
    · exact fun _ _ here => by cases here
    · exact fun _ _ last => by cases last
  have still : ∀ tick phase, loop.ticks tick ≠ some phase := by
    intro tick phase here
    have done := finished tick (agrees.numbered tick phase here)
    rw [here] at done
    cases done
  have none : loop.handing = [] :=
    List.eq_nil_iff_forall_not_mem.mpr fun pair listed =>
      still _ _ (agrees.waiting pair listed)
  constructor
  · intro edge last
    rcases agrees.posted none edge last with same | ⟨_, no | ⟨tick, status, here⟩⟩
    · exact same
    · cases no
    · exact absurd here (still _ _)
  · have follows := agrees.follows
    unfold Follows at follows
    rw [none] at follows
    exact follows.symm

def managedSettings : Settings := ⟨3000, 1, 45000, 45000, true⟩

/-- What is seen of a loop at the end of a run. -/
def Loop.observed (loop : Loop) : List Edge × List Edge × Bool × Bool × List (Option Phase) :=
  (loop.edges, loop.posts, loop.inFlight, loop.detector.inFlight,
    (List.range loop.next).map loop.ticks)

theorem finished_of_observed (drained : ∀ phase ∈ loop.observed.2.2.2.2, phase = none) :
    Finished loop :=
  fun _ below => drained _ (List.mem_map_of_mem (List.mem_range.mpr below))

/-- Decides `Running`. -/
def isRunning (_ : Loop) : Label → Bool
  | .answered _ _ gate => gate
  | .settled _ gate => gate
  | .stop => false
  | .fire => true

theorem isRunning_sound (loop : Loop) (label : Label) (granted : isRunning loop label = true) :
    Running label := by
  cases label with
  | fire => trivial
  | answered tick status gate => exact granted
  | settled tick gate => exact granted
  | stop => cases granted

/-- Decides `Running` and `InOrder`. -/
def isInOrder (loop : Loop) : Label → Bool
  | .settled tick gate =>
      gate && match loop.ticks tick with
        | some (.handing edge) => decide (loop.handing.head? = some (tick, edge))
        | _ => true
  | label => isRunning loop label

theorem isInOrder_sound (loop : Loop) (label : Label) (granted : isInOrder loop label = true) :
    Running label ∧ InOrder loop label := by
  cases label with
  | fire => exact ⟨trivial, trivial⟩
  | answered tick status gate => exact ⟨granted, trivial⟩
  | settled tick gate =>
      obtain ⟨running, first⟩ := Bool.and_eq_true_iff.mp granted
      refine ⟨running, fun edge here => ?_⟩
      rw [here] at first
      exact of_decide_eq_true first
  | stop => cases granted

/-- Two ticks whose edges overlap. -/
def overlapping : List Label :=
  [.fire, .fire, .answered 0 (some "working") true, .answered 1 (some "idle") true]

theorem last_post_is_last_edge_in_order :
    ∃ loop, Reaches (step managedSettings) (fun loop label => Running label ∧ InOrder loop label)
        initial loop ∧ Finished loop ∧ loop.edges = [.start, .ended] ∧ Agreed loop := by
  obtain ⟨loop, run, saw⟩ : ∃ loop,
      Reaches (step managedSettings) (fun loop label => Running label ∧ InOrder loop label)
        initial loop ∧
        loop.observed = ([.start, .ended], [.start, .ended], false, false, [none, none]) :=
    reaches_observed isInOrder
      (overlapping ++ [Label.settled 0 true, Label.settled 1 true, Label.settled 1 true,
        Label.settled 0 true])
      _ _ isInOrder_sound rfl
  have finished : Finished loop := finished_of_observed (by rw [saw]; decide)
  exact ⟨loop, run, finished, congrArg (·.1) saw, last_post_is_last_edge managedSettings run finished⟩

/-- The end's `onTurnEdge` comes back before the start's. -/
theorem start_posted_after_its_end :
    ∃ loop, Reaches (step managedSettings) (fun _ label => Running label) initial loop ∧
      Finished loop ∧ loop.edges = [.start, .ended] ∧ loop.posts = [.ended, .start] ∧
      loop.inFlight = true ∧ loop.detector.inFlight = false ∧ ¬ Agreed loop := by
  obtain ⟨loop, run, saw⟩ : ∃ loop,
      Reaches (step managedSettings) (fun _ label => Running label) initial loop ∧
        loop.observed = ([.start, .ended], [.ended, .start], true, false, [none, none]) :=
    reaches_observed isRunning
      (overlapping ++ [Label.settled 1 true, Label.settled 0 true, Label.settled 1 true,
        Label.settled 0 true])
      _ _ isRunning_sound rfl
  have finished : Finished loop := finished_of_observed (by rw [saw]; decide)
  simp only [Loop.observed, Prod.mk.injEq] at saw
  obtain ⟨edges, posts, mirror, flag, _⟩ := saw
  refine ⟨loop, run, finished, edges, posts, mirror, flag, fun agreed => ?_⟩
  have same := agreed.2
  rw [mirror, flag] at same
  cases same

end AifyComms.GatewayTurns
