import AifyComms.JsText
import AifyComms.Runs

/-!
The runs a bridge has launched and not yet seen end: `runDispatchPass` of
`dispatch-loop.mjs`, with `local-active-run.mjs`, `run-outcome.mjs` and
`dispatch-state.js`, and the reconciliation of `comms_register`.

A step is what runs between two awaits. A launch has a number, which stands for its
controller: a run that is claimed again is launched again under its old id. `launched` and
`last` are the history of the launches; nothing reads them but a settlement, for the agent
it was started for. The merging of a batch into one prompt is left out, and so are the
reports to the service that no later step reads.
-/

namespace AifyComms.LocalRuns
open JsText Runs

abbrev AgentId := String

/-- An entry of `ACTIVE_RUNS`. -/
structure Entry where
  runId : String
  number : Nat
  deriving DecidableEq

/-- The run as the service has it, with the fields each of which may carry the agent and
the bridge, in the order they are read. -/
structure BackendRun where
  ids : List String
  status : String
  agents : List String
  bridges : List String

def terminalRunStatuses : List String :=
  ["completed", "failed", "cancelled", "expired", "answered", "operator_closed"]

/-- `shouldDropLocalActiveRun`: the reason to drop the entry, or `none`. -/
def shouldDropLocalActiveRun (runId : String) (backend : Option BackendRun)
    (bridgeId agentId : String) : Option String :=
  if trim runId = "" then none
  else match backend with
    | none => some "backend_missing"
    | some run =>
        let backendRunId := trim (firstTruthy run.ids)
        let backendAgentId := trim (firstTruthy run.agents)
        let backendBridgeId := trim (firstTruthy run.bridges)
        if backendRunId ≠ "" ∧ backendRunId ≠ trim runId then some "backend_not_owned"
        else if PyText.lower (trim run.status) ∈ terminalRunStatuses then some "backend_terminal"
        else if trim agentId ≠ "" ∧ backendAgentId ≠ "" ∧ backendAgentId ≠ trim agentId then
          some "backend_not_owned"
        else if trim bridgeId ≠ "" ∧ backendBridgeId ≠ "" ∧ backendBridgeId ≠ trim bridgeId then
          some "backend_not_owned"
        else none

/-- What the GET of a run came back with. -/
inductive Answer where
  | found (run : Option BackendRun)
  | missing
  | failed

structure Launched where
  agentId : AgentId
  runId : String
  settled : Bool
  dropped : Bool
  deriving DecidableEq

/-- Where the one dispatch pass is. `claiming` holds the runs claimed so far, and
`starting` waits for the PATCH that reports the first of them running. -/
inductive Pass where
  | idle
  | between
  | reconciling (agentId : AgentId) (active : Entry)
  | controls (agentId : AgentId)
  | claiming (agentId : AgentId) (batch : List String)
  | starting (agentId : AgentId) (runId : String)
  deriving DecidableEq

structure Bridge where
  activeRuns : AgentId → Option Entry
  pass : Pass
  registering : Nat → Option (AgentId × Entry)
  launched : Nat → Option Launched
  last : AgentId → Option Nat
  next : Nat

def initial : Bridge :=
  ⟨fun _ => none, .idle, fun _ => none, fun _ => none, fun _ => none, 0⟩

inductive Label where
  | startPass
  | visit (agentId : AgentId)
  | passReconciled (answer : Answer)
  | controlsDone
  | claimed (runId : String)
  | claimsDone
  | leave
  | launch
  | endPass
  | register (party : Nat) (agentId : AgentId)
  | registerReconciled (party : Nat) (answer : Answer)
  | settle (number : Nat)
  | forget (agentId : AgentId)

def Bridge.update (bridge : Bridge) (number : Nat) (change : Launched → Launched) : Bridge :=
  { bridge with
    launched := Function.update bridge.launched number ((bridge.launched number).map change) }

/-- `clearLocalActiveRun`. The interrupted controller settles at any later time. -/
def clearLocalActiveRun (bridge : Bridge) (agentId : AgentId) (active : Entry) : Bridge :=
  if active.runId = "" then bridge
  else
    { bridge.update active.number fun run => { run with dropped := true } with
      activeRuns := Function.update bridge.activeRuns agentId none }

def judge (bridgeId : String) (bridge : Bridge) (agentId : AgentId) (active : Entry)
    (backend : Option BackendRun) : Bridge × Bool :=
  match shouldDropLocalActiveRun active.runId backend bridgeId agentId with
  | some _ => (clearLocalActiveRun bridge agentId active, true)
  | none => (bridge, false)

/-- `reconcileLocalActiveRun`, once the service answered: the bridge, and whether the entry
was dropped. -/
def reconcileLocalActiveRun (bridgeId : String) (bridge : Bridge) (agentId : AgentId)
    (active : Entry) (answer : Answer) : Bridge × Bool :=
  if active.runId = "" then (bridge, false)
  else match answer with
    | .failed => (bridge, false)
    | .missing => judge bridgeId bridge agentId active none
    | .found run => judge bridgeId bridge agentId active run

/-- `launchRuntimeRun` and the entry made for it. -/
def Bridge.start (bridge : Bridge) (agentId : AgentId) (runId : String) : Bridge :=
  { bridge with
    activeRuns := Function.update bridge.activeRuns agentId (some ⟨runId, bridge.next⟩)
    pass := .between
    launched := Function.update bridge.launched bridge.next (some ⟨agentId, runId, false, false⟩)
    last := Function.update bridge.last agentId (some bridge.next)
    next := bridge.next + 1 }

/-- The `always` of a launched run: its promise settled and was reported. -/
def Bridge.settle (bridge : Bridge) (number : Nat) (run : Launched) : Bridge :=
  { bridge.update number fun run => { run with settled := true } with
    activeRuns := Function.update bridge.activeRuns run.agentId none }

/-- `forgetRemoteAgent`: the runs of the agent are dropped. -/
def forgetRemoteAgent (bridge : Bridge) (agentId : AgentId) : Bridge :=
  { bridge with
    activeRuns := Function.update bridge.activeRuns agentId none
    launched := fun number => (bridge.launched number).map fun run =>
      if run.agentId = agentId then { run with dropped := true } else run }

def step (bridgeId : String) (bridge : Bridge) : Label → Option Bridge
  | .startPass => if bridge.pass = .idle then some { bridge with pass := .between } else none
  | .visit agentId =>
      if bridge.pass = .between then
        match bridge.activeRuns agentId with
        | some active => some { bridge with pass := .reconciling agentId active }
        | none => some { bridge with pass := .claiming agentId [] }
      else none
  | .passReconciled answer =>
      match bridge.pass with
      | .reconciling agentId active =>
          let done := reconcileLocalActiveRun bridgeId bridge agentId active answer
          some { done.1 with pass := if done.2 then .claiming agentId [] else .controls agentId }
      | _ => none
  | .controlsDone =>
      match bridge.pass with
      | .controls _ => some { bridge with pass := .between }
      | _ => none
  | .claimed runId =>
      match bridge.pass with
      | .claiming agentId batch =>
          if batch.length < 20 then
            some { bridge with pass := .claiming agentId (batch ++ [runId]) }
          else none
      | _ => none
  | .claimsDone =>
      match bridge.pass with
      | .claiming agentId (runId :: _) => some { bridge with pass := .starting agentId runId }
      | _ => none
  -- Every `continue` of the pass: the agent is gone, refused, or has no work.
  | .leave =>
      match bridge.pass with
      | .claiming _ _ | .starting _ _ => some { bridge with pass := .between }
      | _ => none
  | .launch =>
      match bridge.pass with
      | .starting agentId runId => some (bridge.start agentId runId)
      | _ => none
  -- The pass is through its agents, or an await of it threw.
  | .endPass => if bridge.pass = .idle then none else some { bridge with pass := .idle }
  | .register party agentId =>
      (bridge.activeRuns agentId).map fun active =>
        { bridge with
          registering := Function.update bridge.registering party (some (agentId, active)) }
  | .registerReconciled party answer =>
      (bridge.registering party).map fun under =>
        { (reconcileLocalActiveRun bridgeId bridge under.1 under.2 answer).1 with
          registering := Function.update bridge.registering party none }
  | .settle number =>
      match bridge.launched number with
      | some run => if run.settled then none else some (bridge.settle number run)
      | none => none
  | .forget agentId => some (forgetRemoteAgent bridge agentId)

/-! ### What the entries say -/

/-- The agent that the pass is about to launch a run for. -/
def Pass.claims : Pass → Option AgentId
  | .claiming agentId _ => some agentId
  | .starting agentId _ => some agentId
  | _ => none

/-- The entry that the pass found and asks the service about. -/
def Pass.asks : Pass → Option (AgentId × Entry)
  | .reconciling agentId active => some (agentId, active)
  | _ => none

/-- An agent whose last launched run has neither settled nor been dropped has its entry. -/
def Present (bridge : Bridge) : Prop :=
  ∀ agentId number run, bridge.last agentId = some number →
    bridge.launched number = some run → run.settled = false → run.dropped = false →
    bridge.activeRuns agentId = some ⟨run.runId, number⟩

structure Sound (bridge : Bridge) : Prop where
  numbered : ∀ agentId number, bridge.last agentId = some number →
    number < bridge.next ∧ ∃ run, bridge.launched number = some run ∧ run.agentId = agentId
  entries : ∀ agentId active, bridge.activeRuns agentId = some active →
    bridge.last agentId = some active.number
  free : ∀ agentId, bridge.pass.claims = some agentId → bridge.activeRuns agentId = none
  asked : ∀ agentId active, bridge.pass.asks = some (agentId, active) →
    ∀ now, bridge.activeRuns agentId = some now → now = active
  present : Present bridge

/-- The agent has the entry of this launch, or none. -/
def Bridge.Owns (bridge : Bridge) (agentId : AgentId) (number : Nat) : Prop :=
  ∀ active, bridge.activeRuns agentId = some active → active.number = number

/-- Whoever removes an entry removes its own: a run that settles, and a reconciliation of
`comms_register` that drops the run it asked about. -/
def RemovesOwn (bridge : Bridge) : Label → Prop
  | .settle number => ∀ run, bridge.launched number = some run → bridge.Owns run.agentId number
  | .registerReconciled party _ => ∀ agentId active,
      bridge.registering party = some (agentId, active) → bridge.Owns agentId active.number
  | _ => True

/-! ### One step -/

theorem update_none_some {active : AgentId → Option Entry} {agentId other : AgentId} {entry : Entry}
    (here : Function.update active agentId none other = some entry) : active other = some entry := by
  by_cases same : other = agentId
  · rw [same, Function.update_self] at here
    cases here
  · rwa [Function.update_of_ne same] at here

theorem update_none_none {active : AgentId → Option Entry} {agentId other : AgentId}
    (none : active other = none) : Function.update active agentId Option.none other = Option.none := by
  by_cases same : other = agentId
  · rw [same, Function.update_self]
  · rw [Function.update_of_ne same, none]

theorem sound_pass {bridge : Bridge} (sound : Sound bridge) {pass : Pass}
    (free : ∀ agentId, pass.claims = some agentId → bridge.activeRuns agentId = none)
    (asked : ∀ agentId active, pass.asks = some (agentId, active) →
      bridge.activeRuns agentId = some active) : Sound { bridge with pass := pass } := by
  refine ⟨sound.numbered, sound.entries, free, ?_, sound.present⟩
  intro agentId active asks now here
  exact Option.some.inj (here.symm.trans (asked agentId active asks))

/-- A mark on a launch that its own agent lost the entry for. -/
theorem sound_removed {bridge : Bridge} (sound : Sound bridge) {agentId : AgentId} {number : Nat}
    (owns : bridge.Owns agentId number) (mark : Launched → Launched)
    (agent : ∀ run, (mark run).agentId = run.agentId)
    (ended : ∀ run, (mark run).settled = true ∨ (mark run).dropped = true) :
    Sound { bridge.update number mark with
      activeRuns := Function.update bridge.activeRuns agentId none } := by
  have fewer : ∀ other active, Function.update bridge.activeRuns agentId none other =
      some active → bridge.activeRuns other = some active := fun _ _ => update_none_some
  constructor
  case numbered =>
    intro other last isLast
    obtain ⟨below, run, launched, named⟩ := sound.numbered other last isLast
    refine ⟨below, ?_⟩
    by_cases same : last = number
    · subst same
      refine ⟨mark run, ?_, (agent run).trans named⟩
      dsimp only [Bridge.update]
      rw [Function.update_self, launched]
      rfl
    · refine ⟨run, ?_, named⟩
      dsimp only [Bridge.update]
      rw [Function.update_of_ne same]
      exact launched
  case entries => exact fun other active here => sound.entries other active (fewer other active here)
  case free => exact fun other claims => update_none_none (sound.free other claims)
  case asked =>
    exact fun other active asks now here => sound.asked other active asks now (fewer other now here)
  case present =>
    intro other last run isLast launched running kept
    dsimp only [Bridge.update] at isLast launched
    by_cases marked : last = number
    · subst marked
      rw [Function.update_self, Option.map_eq_some_iff] at launched
      obtain ⟨earlier, _, rfl⟩ := launched
      rcases ended earlier with hasEnded | hasEnded
      · rw [hasEnded] at running
        cases running
      · rw [hasEnded] at kept
        cases kept
    · rw [Function.update_of_ne marked] at launched
      have here := sound.present other last run isLast launched running kept
      -- The entry that went was of another launch, so this agent is another one.
      have different : other ≠ agentId := by
        rintro rfl
        exact marked (owns _ here)
      exact (Function.update_of_ne different _ _).trans here

theorem sound_started {bridge : Bridge} (sound : Sound bridge) (agentId : AgentId)
    (runId : String) : Sound (bridge.start agentId runId) := by
  have fresh : ∀ other number, bridge.last other = some number → number ≠ bridge.next :=
    fun other number isLast => (sound.numbered other number isLast).1.ne
  constructor
  case numbered =>
    intro other number isLast
    dsimp only [Bridge.start] at isLast ⊢
    by_cases same : other = agentId
    · rw [same, Function.update_self] at isLast
      obtain rfl := Option.some.inj isLast
      exact ⟨Nat.lt_succ_self _, _, Function.update_self .., same.symm⟩
    · rw [Function.update_of_ne same] at isLast
      rw [Function.update_of_ne (fresh other number isLast)]
      obtain ⟨below, known⟩ := sound.numbered other number isLast
      exact ⟨Nat.lt_succ_of_lt below, known⟩
  case entries =>
    intro other active here
    dsimp only [Bridge.start] at here ⊢
    by_cases same : other = agentId
    · rw [same, Function.update_self] at here ⊢
      rw [← Option.some.inj here]
    · rw [Function.update_of_ne same] at here ⊢
      exact sound.entries other active here
  case free => exact fun _ claims => by cases claims
  case asked => exact fun _ _ asks => by cases asks
  case present =>
    intro other number run isLast launched running kept
    dsimp only [Bridge.start] at isLast launched ⊢
    by_cases same : other = agentId
    · rw [same, Function.update_self] at isLast ⊢
      obtain rfl := Option.some.inj isLast
      rw [Function.update_self] at launched
      rw [← Option.some.inj launched]
    · rw [Function.update_of_ne same] at isLast ⊢
      rw [Function.update_of_ne (fresh other number isLast)] at launched
      exact sound.present other number run isLast launched running kept

theorem sound_forgotten {bridge : Bridge} (sound : Sound bridge) (agentId : AgentId) :
    Sound (forgetRemoteAgent bridge agentId) := by
  have fewer : ∀ other active, Function.update bridge.activeRuns agentId none other =
      some active → bridge.activeRuns other = some active := fun _ _ => update_none_some
  constructor
  case numbered =>
    intro other number isLast
    obtain ⟨below, run, launched, named⟩ := sound.numbered other number isLast
    refine ⟨below, _, congrArg (Option.map _) launched, ?_⟩
    dsimp only
    split <;> exact named
  case entries => exact fun other active here => sound.entries other active (fewer other active here)
  case free => exact fun other claims => update_none_none (sound.free other claims)
  case asked =>
    exact fun other active asks now here => sound.asked other active asks now (fewer other now here)
  case present =>
    intro other number run isLast launched running kept
    obtain ⟨_, earlier, before, named⟩ := sound.numbered other number isLast
    have marked := (congrArg (Option.map _) before).symm.trans launched
    rw [Option.map_some, Option.some.injEq] at marked
    by_cases same : earlier.agentId = agentId
    · rw [if_pos same] at marked
      rw [← marked] at kept
      cases kept
    · rw [if_neg same] at marked
      subst marked
      rw [named] at same
      exact (Function.update_of_ne same _ _).trans
        (sound.present other number earlier isLast before running kept)

/-- The launch that the entry is of is dropped, and the agent's entry goes. -/
def Bridge.drop (bridge : Bridge) (agentId : AgentId) (number : Nat) : Bridge :=
  { bridge.update number fun run => { run with dropped := true } with
    activeRuns := Function.update bridge.activeRuns agentId none }

theorem reconcile_cases (bridgeId : String) (bridge : Bridge) (agentId : AgentId) (active : Entry)
    (answer : Answer) :
    reconcileLocalActiveRun bridgeId bridge agentId active answer = (bridge, false) ∨
      reconcileLocalActiveRun bridgeId bridge agentId active answer =
        (bridge.drop agentId active.number, true) := by
  unfold reconcileLocalActiveRun
  split
  · exact .inl rfl
  next named =>
    have judged : ∀ backend, judge bridgeId bridge agentId active backend = (bridge, false) ∨
        judge bridgeId bridge agentId active backend =
          (bridge.drop agentId active.number, true) := by
      intro backend
      unfold judge
      split
      · rw [clearLocalActiveRun, if_neg named]
        exact .inr rfl
      · exact .inl rfl
    cases answer with
    | failed => exact .inl rfl
    | missing => exact judged none
    | found run => exact judged run

theorem step_sound {bridgeId : String} {bridge after : Bridge} {label : Label}
    (sound : Sound bridge) (own : RemovesOwn bridge label)
    (taken : step bridgeId bridge label = some after) : Sound after := by
  cases label with
  | startPass =>
      obtain ⟨_, rfl⟩ := Option.ite_none_right_eq_some.mp taken |>.imp id Option.some.inj
      exact sound_pass sound (fun _ claims => by cases claims) fun _ _ asks => by cases asks
  | endPass =>
      obtain ⟨_, rfl⟩ := Option.ite_none_left_eq_some.mp taken |>.imp id Option.some.inj
      exact sound_pass sound (fun _ claims => by cases claims) fun _ _ asks => by cases asks
  | visit agentId =>
      obtain ⟨_, visits⟩ := Option.ite_none_right_eq_some.mp taken
      split at visits
      next active here =>
        obtain rfl := Option.some.inj visits
        refine sound_pass sound (fun _ claims => by cases claims) ?_
        intro other asked asks
        obtain ⟨rfl, rfl⟩ := Prod.mk.inj (Option.some.inj asks)
        exact here
      next absent =>
        obtain rfl := Option.some.inj visits
        refine sound_pass sound ?_ fun _ _ asks => by cases asks
        intro other claims
        exact Option.some.inj claims ▸ absent
  | passReconciled answer =>
      dsimp only [step] at taken
      split at taken
      next agentId active here =>
        obtain rfl := Option.some.inj taken
        rcases reconcile_cases bridgeId bridge agentId active answer with same | same <;> rw [same]
        · exact sound_pass sound (fun _ claims => by cases claims) fun _ _ asks => by cases asks
        · have owns : bridge.Owns agentId active.number := by
            intro now held
            rw [sound.asked agentId active (by rw [here]; rfl) now held]
          have removed : Sound (bridge.drop agentId active.number) :=
            sound_removed sound owns _ (fun _ => rfl) fun _ => .inr rfl
          refine sound_pass removed ?_ fun _ _ asks => by cases asks
          intro other claims
          obtain rfl := Option.some.inj claims
          exact Function.update_self ..
      · cases taken
  | controlsDone =>
      dsimp only [step] at taken
      split at taken
      · obtain rfl := Option.some.inj taken
        exact sound_pass sound (fun _ claims => by cases claims) fun _ _ asks => by cases asks
      · cases taken
  | claimed runId =>
      dsimp only [step] at taken
      split at taken
      next agentId batch here =>
        obtain ⟨_, rfl⟩ := Option.ite_none_right_eq_some.mp taken |>.imp id Option.some.inj
        refine sound_pass sound ?_ fun _ _ asks => by cases asks
        intro other claims
        exact sound.free other (by rw [here]; exact claims)
      · cases taken
  | claimsDone =>
      dsimp only [step] at taken
      split at taken
      next agentId runId rest here =>
        obtain rfl := Option.some.inj taken
        refine sound_pass sound ?_ fun _ _ asks => by cases asks
        intro other claims
        exact sound.free other (by rw [here]; exact claims)
      · cases taken
  | leave =>
      dsimp only [step] at taken
      split at taken
      · obtain rfl := Option.some.inj taken
        exact sound_pass sound (fun _ claims => by cases claims) fun _ _ asks => by cases asks
      · obtain rfl := Option.some.inj taken
        exact sound_pass sound (fun _ claims => by cases claims) fun _ _ asks => by cases asks
      · cases taken
  | launch =>
      dsimp only [step] at taken
      split at taken
      next agentId runId _ =>
        obtain rfl := Option.some.inj taken
        exact sound_started sound agentId runId
      · cases taken
  | register party agentId =>
      obtain ⟨active, _, rfl⟩ := Option.map_eq_some_iff.mp taken
      exact ⟨sound.numbered, sound.entries, sound.free, sound.asked, sound.present⟩
  | registerReconciled party answer =>
      obtain ⟨⟨agentId, active⟩, under, rfl⟩ := Option.map_eq_some_iff.mp taken
      dsimp only
      rcases reconcile_cases bridgeId bridge agentId active answer with same | same <;> rw [same]
      · exact ⟨sound.numbered, sound.entries, sound.free, sound.asked, sound.present⟩
      · have removed : Sound (bridge.drop agentId active.number) :=
          sound_removed sound (own agentId active under) _ (fun _ => rfl) fun _ => .inr rfl
        exact ⟨removed.numbered, removed.entries, removed.free, removed.asked, removed.present⟩
  | settle number =>
      dsimp only [step] at taken
      split at taken
      next run launched =>
        obtain ⟨_, rfl⟩ := Option.ite_none_left_eq_some.mp taken |>.imp id Option.some.inj
        exact sound_removed sound (own run launched) _ (fun _ => rfl) fun _ => .inl rfl
      · cases taken
  | forget agentId =>
      obtain rfl := Option.some.inj taken
      exact sound_forgotten sound agentId

/-! ### Whole runs -/

theorem initial_sound : Sound initial := by
  constructor
  case numbered => exact fun _ _ isLast => by cases isLast
  case entries => exact fun _ _ here => by cases here
  case free => exact fun _ claims => by cases claims
  case asked => exact fun _ _ asks => by cases asks
  case present => exact fun _ _ _ isLast => by cases isLast

/-- No launch beside a run: the last one of the agent has settled or was dropped. -/
def LaunchesAlone (bridge : Bridge) : Prop :=
  ∀ agentId number run, bridge.pass.claims = some agentId → bridge.last agentId = some number →
    bridge.launched number = some run → run.settled = true ∨ run.dropped = true

theorem sound_launchesAlone {bridge : Bridge} (sound : Sound bridge) : LaunchesAlone bridge := by
  intro agentId number run claims isLast launched
  by_contra both
  rw [not_or, Bool.not_eq_true, Bool.not_eq_true] at both
  have here := sound.present agentId number run isLast launched both.1 both.2
  rw [sound.free agentId claims] at here
  cases here

/-- Where whoever removes an entry removes its own, an agent whose last run is under way
has its entry, and no pass launches a second run beside it. -/
theorem one_local_turn {bridgeId : String} {bridge : Bridge}
    (run : Reaches (step bridgeId) RemovesOwn initial bridge) :
    Present bridge ∧ LaunchesAlone bridge := by
  have sound : Sound bridge := run.invariant Sound initial_sound
    fun _ _ _ sound own taken => step_sound sound own taken
  exact ⟨sound.present, sound_launchesAlone sound⟩

/-- A pass visits the agent, claims a run for it and starts it. -/
def launches (agentId runId : String) : List Label :=
  [.startPass, .visit agentId, .claimed runId, .claimsDone, .launch, .endPass]

/-- The pass finds that the service has ended the run it knows, and starts another. -/
def replaces (agentId runId : String) (answer : Answer) : List Label :=
  [.startPass, .visit agentId, .passReconciled answer, .claimed runId, .claimsDone, .launch, .endPass]

def ended : Answer := .found (some ⟨["r1"], "completed", ["coder"], []⟩)

def removesOwn (bridge : Bridge) : Label → Bool
  | .settle number => (bridge.launched number).all fun run =>
      (bridge.activeRuns run.agentId).all fun active => decide (active.number = number)
  | .registerReconciled party _ => (bridge.registering party).all fun under =>
      (bridge.activeRuns under.1).all fun active => decide (active.number = under.2.number)
  | _ => true

theorem removesOwn_sound (bridge : Bridge) (label : Label) (granted : removesOwn bridge label = true) :
    RemovesOwn bridge label := by
  cases label with
  | settle number =>
      intro run launched active here
      simpa [removesOwn, launched, here] using granted
  | registerReconciled party answer =>
      intro agentId active under now here
      simpa [removesOwn, under, here] using granted
  | _ => trivial

/-- The dropped run settles before the next one is launched. -/
theorem one_local_turn_settled : ∃ bridge, Reaches (step "b") RemovesOwn initial bridge ∧
    bridge.last "coder" = some 1 ∧ bridge.activeRuns "coder" = some ⟨"r2", 1⟩ ∧
    Present bridge := by
  have executed : (exec (step "b") removesOwn initial (launches "coder" "r1" ++
      [Label.startPass, Label.visit "coder", Label.passReconciled ended, Label.settle 0,
        Label.claimed "r2", Label.claimsDone, Label.launch])).map (fun bridge =>
          (bridge.last "coder", bridge.activeRuns "coder")) =
      some (some 1, some ⟨"r2", 1⟩) := by
    decide
  obtain ⟨bridge, run, seen⟩ := reaches_observed _ _ _ _ removesOwn_sound executed
  obtain ⟨last, active⟩ := Prod.mk.inj seen
  exact ⟨bridge, run, last, active, (one_local_turn run).1⟩

/-- A dropped run that settles after the next one was launched takes its entry, and the
next pass launches a third run beside the second. -/
theorem late_settlement_takes_entry : ∃ bridge, Reaches (step "b") anyStep initial bridge ∧
    bridge.last "coder" = some 1 ∧ bridge.launched 1 = some ⟨"coder", "r2", false, false⟩ ∧
    bridge.activeRuns "coder" = none ∧ ¬ Present bridge ∧ ¬ LaunchesAlone bridge := by
  have executed : (exec (step "b") (fun _ _ => true) initial (launches "coder" "r1" ++
      replaces "coder" "r2" ended ++ [Label.settle 0, Label.startPass, Label.visit "coder",
        Label.claimed "r3"])).map
      (fun bridge => (bridge.pass.claims, bridge.last "coder", bridge.launched 1,
        bridge.activeRuns "coder")) =
      some (some "coder", some 1, some ⟨"coder", "r2", false, false⟩, none) := by
    decide
  obtain ⟨bridge, run, seen⟩ := reaches_observed _ _ _ _ (fun _ _ _ => trivial) executed
  simp only [Prod.mk.injEq] at seen
  obtain ⟨claims, last, launched, active⟩ := seen
  refine ⟨bridge, run, last, launched, active, ?_, ?_⟩
  · intro present
    have here := present "coder" 1 _ last launched rfl rfl
    rw [active] at here
    cases here
  · intro alone
    have beside := alone "coder" 1 _ claims last launched
    simp at beside

end AifyComms.LocalRuns
