import AifyComms.HostProof
import AifyComms.Runs

/-!
Which bridge is handed a control of an environment: `_claim_environment_control_once`
(`service/environment_claim.py`), with the stop that a heartbeat queues for the bridge it
supersedes (`api_core/superseded_bridge_stops.py`).

A heartbeat holds the write lock from its first read to its commit, so it is one step. A
claim takes no lock before its UPDATE: its two reads are steps of their own, and an UPDATE
is one with the commit that follows it. Rows stand in the order they were inserted.
-/

namespace AifyComms.EnvironmentControls
open PyText HostProof Runs

/-! ### The table -/

inductive Action where
  | stop
  | forget
  deriving DecidableEq

inductive ControlStatus where
  | pending
  | claimed
  | completed
  | failed
  deriving DecidableEq

/-- A row of `environment_controls`. -/
structure Control where
  id : String
  environmentId : String
  bridgeId : String
  machineId : String
  action : Action
  status : ControlStatus
  requestedBy : String
  requestedAt : String
  claimedAt : String
  handledAt : String
  error : String
  deriving DecidableEq

def isSupersedeStop (control : Control) : Bool :=
  decide (control.action = .stop ∧ control.requestedBy = "server:superseded-bridge")

def pendingIn (controls : List Control) (id : String) : Bool :=
  controls.any fun row => decide (row.id = id ∧ row.status = .pending)

/-- `UPDATE … WHERE id = ? AND status = 'pending'`. -/
def updatePending (controls : List Control) (id : String) (change : Control → Control) :
    List Control :=
  controls.map fun row => if row.id = id ∧ row.status = .pending then change row else row

/-! ### The stop of a superseded bridge -/

/-- The bridge that an accepted beat supersedes, in `arbitrate_claim`. -/
def supersededBridge (py : Stdlib) (clock : Nat) (beat : EnvironmentBeat)
    (existing : Option Environment) : String :=
  existing.elim "" fun row =>
    let outranks := isHostTier py beat.metadata && !isHostTier py row.metadata
    -- an incumbent that is silent, or outranked, has no standing
    let started := if hasLiveBridge py clock row.metadata && !outranks
      then bridgeStartedAt py row.metadata else ""
    let incoming := bridgeStartedAt py beat.metadata
    if strip row.bridgeId = "" ∨ strip beat.bridgeId = "" ∨ strip row.bridgeId = strip beat.bridgeId
    then ""
    else if outranks || decide (incoming ≠ "") && (decide (started = "") || decide (started < incoming))
    then strip row.bridgeId
    else ""

/-- `SUPERSEDE_STOP_STALE_SECONDS`. -/
def supersedeStopStaleSeconds : Nat := 300

/-- The stops that a superseding beat drains: those that were never claimed. -/
def isDrained (py : Stdlib) (clock : Nat) (envId : String) (row : Control) : Bool :=
  decide (row.environmentId = envId ∧ row.action = .stop ∧ row.status = .pending ∧
    row.requestedBy = "server:superseded-bridge" ∧
    row.requestedAt < py.iso (clock - supersedeStopStaleSeconds))

def drained (py : Stdlib) (clock : Nat) (envId now : String) (row : Control) : Control :=
  if isDrained py clock envId row then
    { row with
      status := .failed
      handledAt := now
      error := "stale superseded-bridge stop drained (target bridge never claimed)" }
  else row

def hasOpenStop (controls : List Control) (envId bridgeId : String) : Bool :=
  controls.any fun row => decide (row.environmentId = envId ∧ row.bridgeId = bridgeId ∧
    row.action = .stop ∧ (row.status = .pending ∨ row.status = .claimed))

/-- `_queue_stop_for_superseded_bridge`; the id it draws is an input. -/
def queueStopForSupersededBridge (py : Stdlib) (clock : Nat) (beat : EnvironmentBeat)
    (superseded newId : String) (controls : List Control) : List Control :=
  if superseded = "" then controls
  else
    let rows := controls.map (drained py clock beat.envId (py.iso beat.now))
    if hasOpenStop rows beat.envId superseded then rows
    else rows ++ [⟨newId, beat.envId, superseded, beat.machineId, .stop, .pending,
      "server:superseded-bridge", py.iso beat.now, "", "", ""⟩]

/-! ### The claim -/

/-- `EnvironmentControlClaim`; a machine that is missing is empty. -/
structure EnvironmentControlClaim where
  environmentId : String
  bridgeId : String
  machineId : String
  deriving DecidableEq

/-- `ORDER BY requested_at ASC LIMIT 1`: of equal times the first row. -/
def earliest : List Control → Option Control
  | [] => none
  | row :: rest =>
      match earliest rest with
      | none => some row
      | some other => if other.requestedAt < row.requestedAt then some other else some row

def candidateFor (controls : List Control) (req : EnvironmentControlClaim) : Option Control :=
  earliest (controls.filter fun row => decide (row.environmentId = req.environmentId ∧
    row.status = .pending ∧ (row.bridgeId = "" ∨ row.bridgeId = req.bridgeId)))

/-- `env_bridge_id`. -/
def ownerOf (env : Option Environment) : String := strip (env.elim "" Environment.bridgeId)

def claimerIsCurrentOwner (env : Option Environment) (req : EnvironmentControlClaim) : Bool :=
  decide (ownerOf env ≠ "" ∧ ownerOf env = req.bridgeId)

def requestedBeforeBridgeStart (py : Stdlib) (env : Option Environment) (control : Control) : Bool :=
  let started := py.epoch (env.elim "" fun row => textAt row.metadata "bridgeStartedAt")
  decide (0 < py.epoch control.requestedAt ∧ 0 < started ∧ py.epoch control.requestedAt < started)

/-- A stop that the environment's owner must never honor. -/
def isStaleStop (py : Stdlib) (env : Option Environment) (req : EnvironmentControlClaim)
    (control : Control) : Bool :=
  decide (control.action = .stop) && claimerIsCurrentOwner env req &&
    (isSupersedeStop control || requestedBeforeBridgeStart py env control)

def staleError (req : EnvironmentControlClaim) (control : Control) : String :=
  let reason := if isSupersedeStop control
    then "superseded-bridge stop targeted the current live owner"
    else String.join ["requested before bridge \"", req.bridgeId, "\" started"]
  String.join ["Stale stop control ignored: ", reason, "."]

/-- How far a claim is: what it read, and the UPDATE it is about to run. -/
inductive Progress where
  | looking
  | found (candidate : Control)
  | voiding (candidate : Control)
  | taking (candidate : Control) (env : Option Environment)

structure Claim where
  req : EnvironmentControlClaim
  progress : Progress

/-- The answer of a claim that won its row; `owner` is the environment's at that commit. -/
structure Handout where
  req : EnvironmentControlClaim
  control : Control
  currentEnvironment : Option Environment
  owner : String

structure World where
  clock : Nat
  hosts : Hosts
  controls : List Control
  claims : Nat → Option Claim
  handed : List Handout

def World.environment (world : World) (envId : String) : Option Environment :=
  world.hosts.environments.get? envId

def World.setClaim (world : World) (party : Nat) (claim : Option Claim) : World :=
  { world with claims := Function.update world.claims party claim }

def World.setControls (world : World) (controls : List Control) : World :=
  { world with controls }

def World.hand (world : World) (handout : Handout) : World :=
  { world with handed := world.handed ++ [handout] }

def takeControl (py : Stdlib) (clock : Nat) (req : EnvironmentControlClaim) (row : Control) : Control :=
  { row with status := .claimed, machineId := req.machineId, claimedAt := py.iso clock }

def voidControl (py : Stdlib) (clock : Nat) (req : EnvironmentControlClaim) (candidate row : Control) :
    Control :=
  { row with status := .failed, handledAt := py.iso clock, error := staleError req candidate }

/-- The next statement of a claim. -/
def advance (py : Stdlib) (world : World) (party : Nat) (claim : Claim) : World :=
  match claim.progress with
  | .looking =>
      world.setClaim party
        ((candidateFor world.controls claim.req).map fun candidate => ⟨claim.req, .found candidate⟩)
  | .found candidate =>
      let env := world.environment claim.req.environmentId
      world.setClaim party (some ⟨claim.req,
        if isStaleStop py env claim.req candidate then .voiding candidate else .taking candidate env⟩)
  | .voiding candidate =>
      (world.setClaim party (some ⟨claim.req, .looking⟩)).setControls
        (updatePending world.controls candidate.id (voidControl py world.clock claim.req candidate))
  | .taking candidate env =>
      -- the rowcount: a claim that lost the row is told that there is nothing
      if pendingIn world.controls candidate.id then
        ((world.setClaim party none).setControls
          (updatePending world.controls candidate.id (takeControl py world.clock claim.req))).hand
            ⟨claim.req, candidate, env, ownerOf (world.environment claim.req.environmentId)⟩
      else world.setClaim party none

/-! ### The heartbeats -/

/-- Whether `record_environment_heartbeat` writes the beat. -/
def accepts (py : Stdlib) (clock : Nat) (presented : String) (beat : EnvironmentBeat)
    (hosts : Hosts) : Bool :=
  let existing := hosts.environments.get? beat.envId
  decide ((judgeHostProof py hosts.proofs (machinesOf beat existing) presented).refusal = "") &&
    !staysForgotten py beat existing && (arbitrateClaim py clock beat existing).isNone

def isWritten : Outcome → Bool
  | .written => true
  | _ => false

def serveBeat (py : Stdlib) (world : World) (presented : String) (beat : EnvironmentBeat)
    (newId : String) : World :=
  let recorded := recordEnvironmentHeartbeat py world.clock presented beat world.hosts
  let superseded := supersededBridge py world.clock beat (world.environment beat.envId)
  { world with
    hosts := recorded.1
    controls := if isWritten recorded.2
      then queueStopForSupersededBridge py world.clock beat superseded newId world.controls
      else world.controls }

inductive Label where
  | tick (elapsed : Nat)
  | beat (presented : String) (beat : EnvironmentBeat) (newId : String)
  | claim (party : Nat) (req : EnvironmentControlClaim)
  | advance (party : Nat)
  | abandon (party : Nat)

/-- A beat draws an id that no row has. -/
def step (py : Stdlib) (world : World) : Label → Option World
  | .tick elapsed => some { world with clock := world.clock + elapsed }
  | .beat presented beat newId =>
      if newId ∈ world.controls.map Control.id then none
      else some (serveBeat py world presented beat newId)
  | .claim party req =>
      if (world.claims party).isSome then none else some (world.setClaim party (some ⟨req, .looking⟩))
  | .advance party => (world.claims party).map (advance py world party)
  | .abandon party => some (world.setClaim party none)

def initial (hosts : Hosts) (controls : List Control) (clock : Nat) : World :=
  ⟨clock, hosts, controls, fun _ => none, []⟩

/-! ### What a write leaves of the table -/

section Table
variable {controls : List Control} {id : String}

theorem pendingIn_iff : pendingIn controls id = true ↔
    ∃ row ∈ controls, row.id = id ∧ row.status = .pending := by
  simp only [pendingIn, List.any_eq_true, decide_eq_true_eq]

theorem pendingIn_known (pending : pendingIn controls id = true) : id ∈ controls.map Control.id := by
  obtain ⟨row, member, named, _⟩ := pendingIn_iff.1 pending
  exact List.mem_map.mpr ⟨row, member, named⟩

/-- A write that keeps the ids and makes no row pending. -/
structure Settling (change : Control → Control) : Prop where
  id : ∀ row, (change row).id = row.id
  pending : ∀ row, (change row).status = .pending → row.status = .pending

theorem Settling.ids {change : Control → Control} (settling : Settling change)
    (controls : List Control) : (controls.map change).map Control.id = controls.map Control.id := by
  rw [List.map_map]
  exact List.map_congr_left fun row _ => settling.id row

theorem Settling.pendingIn {change : Control → Control} (settling : Settling change)
    (pending : pendingIn (controls.map change) id = true) : pendingIn controls id = true := by
  obtain ⟨row, member, named, waits⟩ := pendingIn_iff.1 pending
  obtain ⟨before, known, rfl⟩ := List.mem_map.mp member
  apply pendingIn_iff.2
  exact ⟨before, known, (settling.id before).symm.trans named, settling.pending before waits⟩

/-- A write of a pending row that settles it. -/
structure Closing (change : Control → Control) : Prop where
  id : ∀ row, (change row).id = row.id
  closed : ∀ row, (change row).status ≠ .pending

theorem Closing.settling {change : Control → Control} (closing : Closing change) (id : String) :
    Settling fun row => if row.id = id ∧ row.status = .pending then change row else row := by
  constructor
  case id =>
    intro row
    split
    · exact closing.id row
    · rfl
  case pending =>
    intro row waits
    split at waits
    · exact absurd waits (closing.closed row)
    · exact waits

/-- The row of an UPDATE that took place is not pending afterwards. -/
theorem Closing.settled {change : Control → Control} (closing : Closing change) :
    pendingIn (updatePending controls id change) id = false := by
  apply Bool.eq_false_iff.mpr
  intro pending
  obtain ⟨row, member, named, waits⟩ := pendingIn_iff.1 pending
  obtain ⟨before, _, rfl⟩ := List.mem_map.mp member
  by_cases hit : before.id = id ∧ before.status = .pending
  · rw [if_pos hit] at waits
    exact closing.closed before waits
  · rw [if_neg hit] at named waits
    exact hit ⟨named, waits⟩

theorem takeControl_closing (py : Stdlib) (clock : Nat) (req : EnvironmentControlClaim) :
    Closing (takeControl py clock req) := by
  constructor
  case id => exact fun _ => rfl
  case closed =>
    intro row waits
    cases waits

theorem voidControl_closing (py : Stdlib) (clock : Nat) (req : EnvironmentControlClaim)
    (candidate : Control) : Closing (voidControl py clock req candidate) := by
  constructor
  case id => exact fun _ => rfl
  case closed =>
    intro row waits
    cases waits

theorem drained_settling (py : Stdlib) (clock : Nat) (envId now : String) :
    Settling (drained py clock envId now) := by
  constructor
  case id =>
    intro row
    unfold drained
    split <;> rfl
  case pending =>
    intro row waits
    unfold drained at waits
    split at waits
    · cases waits
    · exact waits

theorem queueStop_ids (py : Stdlib) (clock : Nat) (beat : EnvironmentBeat) (superseded newId : String)
    (known : id ∈ controls.map Control.id) : id ∈
      (queueStopForSupersededBridge py clock beat superseded newId controls).map Control.id := by
  unfold queueStopForSupersededBridge
  have rows := (drained_settling py clock beat.envId (py.iso beat.now)).ids controls
  split
  · exact known
  · dsimp only
    split
    · rw [rows]
      exact known
    · rw [List.map_append, rows]
      exact List.mem_append_left _ known

/-- What is still pending after a beat was so before, and was not drained. -/
theorem queueStop_survivor {py : Stdlib} {clock : Nat} {beat : EnvironmentBeat}
    {superseded newId : String} (old : id ≠ newId)
    (pending : pendingIn
      (queueStopForSupersededBridge py clock beat superseded newId controls) id = true) :
    ∃ row ∈ controls, row.id = id ∧ row.status = .pending ∧
      (superseded ≠ "" → isDrained py clock beat.envId row = false) := by
  obtain ⟨row, member, named, waits⟩ := pendingIn_iff.1 pending
  unfold queueStopForSupersededBridge at member
  by_cases none' : superseded = ""
  · rw [if_pos none'] at member
    exact ⟨row, member, named, waits, fun some' => absurd none' some'⟩
  · rw [if_neg none'] at member
    have rows : row ∈ controls.map (drained py clock beat.envId (py.iso beat.now)) := by
      dsimp only at member
      split at member
      · exact member
      · rcases List.mem_append.mp member with before | new
        · exact before
        · rw [List.mem_singleton.mp new] at named
          exact absurd named.symm old
    obtain ⟨before, there, rfl⟩ := List.mem_map.mp rows
    have survives : isDrained py clock beat.envId before = false := by
      apply Bool.eq_false_iff.mpr
      intro drains
      rw [drained, if_pos drains] at waits
      cases waits
    rw [drained, survives] at named waits
    exact ⟨before, there, named, waits, fun _ => survives⟩

theorem earliest_mem {row : Control} (found : earliest controls = some row) : row ∈ controls := by
  induction controls with
  | nil => cases found
  | cons first rest ih =>
      rw [earliest] at found
      split at found
      · obtain rfl := Option.some.inj found
        exact List.mem_cons_self
      · next other later =>
          split at found
          · exact List.mem_cons_of_mem _ (ih (later.trans found))
          · obtain rfl := Option.some.inj found
            exact List.mem_cons_self

theorem candidate_known {req : EnvironmentControlClaim} {row : Control}
    (found : candidateFor controls req = some row) : row.id ∈ controls.map Control.id :=
  List.mem_map_of_mem (List.mem_of_mem_filter (earliest_mem found))

end Table

/-! ### What a heartbeat leaves of the owner -/

/-- A beat is written where the proof, the tombstone and the arbitration let it, and changes
nothing elsewhere. -/
theorem heartbeat_accepts (py : Stdlib) (clock : Nat) (presented : String) (beat : EnvironmentBeat)
    (hosts : Hosts) :
    isWritten (recordEnvironmentHeartbeat py clock presented beat hosts).2 =
        accepts py clock presented beat hosts ∧
      (recordEnvironmentHeartbeat py clock presented beat hosts).1.environments =
        if accepts py clock presented beat hosts
        then hosts.environments.set beat.envId
          (registeredRow py beat (hosts.environments.get? beat.envId))
        else hosts.environments := by
  unfold recordEnvironmentHeartbeat accepts
  dsimp only
  by_cases refused : (judgeHostProof py hosts.proofs
      (machinesOf beat (hosts.environments.get? beat.envId)) presented).refusal = ""
  · rw [if_neg (not_not.mpr refused)]
    by_cases forgotten : staysForgotten py beat (hosts.environments.get? beat.envId) = true
    · simp [forgotten, isWritten]
    · by_cases arbitrated : arbitrateClaim py clock beat (hosts.environments.get? beat.envId) = none
      · simp [refused, forgotten, arbitrated, isWritten]
      · obtain ⟨claimer, held⟩ := Option.ne_none_iff_exists'.mp arbitrated
        simp [forgotten, held, isWritten]
  · simp [refused, isWritten]

/-- The owner that a written row has. -/
theorem registered_owner (py : Stdlib) (beat : EnvironmentBeat) (existing : Option Environment) :
    ownerOf (some (registeredRow py beat existing)) =
      if strip beat.bridgeId = "" then ownerOf existing else strip beat.bridgeId := by
  cases existing with
  | none =>
      by_cases silent : strip beat.bridgeId = ""
      · rw [if_pos silent]
        exact silent
      · rw [if_neg silent]
        rfl
  | some row =>
      have written : (registeredRow py beat (some row)).bridgeId =
          kept beat.bridgeId row.bridgeId := by
        rw [registeredRow, Option.elim_some, updatedRow]
      rw [ownerOf, Option.elim_some, written, kept]
      by_cases silent : strip beat.bridgeId = ""
      · rw [if_pos silent, if_pos silent]
        rfl
      · rw [if_neg silent, if_neg silent, strip_strip]

/-- The owner changes only with an accepted beat of the new owner. -/
theorem serveBeat_owner (py : Stdlib) (world : World) (presented : String) (beat : EnvironmentBeat)
    (newId envId : String) :
    ownerOf ((serveBeat py world presented beat newId).environment envId) =
      if accepts py world.clock presented beat world.hosts = true ∧ beat.envId = envId ∧
          strip beat.bridgeId ≠ "" then strip beat.bridgeId
      else ownerOf (world.environment envId) := by
  have recorded := (heartbeat_accepts py world.clock presented beat world.hosts).2
  unfold World.environment serveBeat
  dsimp only
  rw [recorded]
  by_cases accepted : accepts py world.clock presented beat world.hosts = true
  · rw [if_pos accepted, Dict.get?_set]
    by_cases same : beat.envId = envId
    · subst same
      rw [if_pos rfl, registered_owner]
      by_cases silent : strip beat.bridgeId = ""
      · simp [silent]
      · simp [silent, accepted]
    · simp [same]
  · simp [accepted]

theorem serveBeat_controls (py : Stdlib) (world : World) (presented : String)
    (beat : EnvironmentBeat) (newId : String) :
    (serveBeat py world presented beat newId).controls =
      if accepts py world.clock presented beat world.hosts then
        queueStopForSupersededBridge py world.clock beat
          (supersededBridge py world.clock beat (world.environment beat.envId)) newId world.controls
      else world.controls := by
  rw [serveBeat, (heartbeat_accepts py world.clock presented beat world.hosts).1]

/-! ### What is handed out -/

/-- No control is handed out twice, and no supersede stop to the bridge that owned the
environment at that commit. -/
structure HandedWell (world : World) : Prop where
  once : (world.handed.map fun handout => handout.control.id).Nodup
  apart : ∀ handout ∈ world.handed, isSupersedeStop handout.control = true →
    ¬ (handout.owner ≠ "" ∧ handout.owner = handout.req.bridgeId)

/-- The control a claim has read. -/
def Progress.control : Progress → Option Control
  | .looking => none
  | .found candidate => some candidate
  | .voiding candidate => some candidate
  | .taking candidate _ => some candidate

def World.owned (world : World) (req : EnvironmentControlClaim) : Prop :=
  claimerIsCurrentOwner (world.environment req.environmentId) req = true

structure Sound (world : World) : Prop extends HandedWell world where
  spent : ∀ handout ∈ world.handed, handout.control.id ∈ world.controls.map Control.id ∧
    pendingIn world.controls handout.control.id = false
  known : ∀ party claim candidate, world.claims party = some claim →
    claim.progress.control = some candidate → candidate.id ∈ world.controls.map Control.id
  taking : ∀ party req candidate env, world.claims party = some ⟨req, .taking candidate env⟩ →
    isSupersedeStop candidate = true → pendingIn world.controls candidate.id = true →
    ¬ world.owned req

theorem initial_sound (hosts : Hosts) (controls : List Control) (clock : Nat) :
    Sound (initial hosts controls clock) := by
  constructor
  case toHandedWell =>
    constructor
    · exact List.nodup_nil
    · intro handout member
      cases member
  case spent =>
    intro handout member
    cases member
  case known =>
    intro party claim candidate held
    cases held
  case taking =>
    intro party req candidate env held
    cases held

/-- What a write leaves of the rows there were: none goes, and none becomes pending. -/
structure Keeps (before after : List Control) : Prop where
  ids : ∀ id ∈ before.map Control.id, id ∈ after.map Control.id
  pending : ∀ id ∈ before.map Control.id, pendingIn after id = true → pendingIn before id = true

theorem keeps_refl (controls : List Control) : Keeps controls controls :=
  ⟨fun _ member => member, fun _ _ pending => pending⟩

theorem Settling.keeps {change : Control → Control} (settling : Settling change)
    (controls : List Control) : Keeps controls (controls.map change) := by
  constructor
  · rw [settling.ids]
    exact fun _ member => member
  · intro id _ pending
    exact settling.pendingIn pending

variable {py : Stdlib} {world : World}

/-- Every step but the one that hands a control out: the claims that are new to their
statement hold what is asked of them, and the owners changed with no claim on its way to
take a stop that is still pending. -/
theorem Sound.frame (sound : Sound world) (after : World)
    (keeps : Keeps world.controls after.controls) (handed : after.handed = world.handed)
    (claims : ∀ party claim, after.claims party = some claim → world.claims party = some claim ∨
      (∀ candidate, claim.progress.control = some candidate →
        candidate.id ∈ after.controls.map Control.id) ∧
      ∀ candidate env, claim.progress = .taking candidate env → isSupersedeStop candidate = true →
        ¬ after.owned claim.req)
    (owners : ∀ party req candidate env, world.claims party = some ⟨req, .taking candidate env⟩ →
      isSupersedeStop candidate = true → pendingIn after.controls candidate.id = true →
      after.owned req → world.owned req) : Sound after := by
  constructor
  case toHandedWell =>
    constructor
    · rw [handed]
      exact sound.once
    · rw [handed]
      exact sound.apart
  case spent =>
    intro handout member
    rw [handed] at member
    obtain ⟨there, settled⟩ := sound.spent handout member
    refine ⟨keeps.ids _ there, Bool.eq_false_iff.mpr fun pending => ?_⟩
    exact Bool.eq_false_iff.mp settled (keeps.pending _ there pending)
  case known =>
    intro party claim candidate held reads
    rcases claims party claim held with before | ⟨there, _⟩
    · exact keeps.ids _ (sound.known party claim candidate before reads)
    · exact there candidate reads
  case taking =>
    intro party req candidate env held stops pending owns
    rcases claims party _ held with before | ⟨_, apart⟩
    · have there := sound.known party _ candidate before rfl
      have owned := owners party req candidate env before stops pending owns
      exact sound.taking party req candidate env before stops (keeps.pending _ there pending) owned
    · exact apart candidate env rfl stops owns

/-- A claim moves on, and the tables stay. -/
theorem Sound.setClaim (sound : Sound world) (party : Nat) (next : Option Claim)
    (reads : ∀ claim candidate, next = some claim → claim.progress.control = some candidate →
      candidate.id ∈ world.controls.map Control.id)
    (apart : ∀ claim candidate env, next = some claim → claim.progress = .taking candidate env →
      isSupersedeStop candidate = true → ¬ world.owned claim.req) :
    Sound (world.setClaim party next) := by
  apply sound.frame (world.setClaim party next) (keeps_refl world.controls) rfl
  · intro other claim held
    rcases update_some held with ⟨_, moved⟩ | before
    · refine .inr ⟨fun candidate reading => reads claim candidate moved reading, ?_⟩
      intro candidate env takes
      exact apart claim candidate env moved takes
    · exact .inl before
  · intro _ _ _ _ _ _ _ owns
    exact owns

/-- An UPDATE of a pending row, by a claim that then looks again or ends. -/
theorem Sound.update (sound : Sound world) (party : Nat) (next : Option Claim)
    (looks : ∀ claim, next = some claim → claim.progress = .looking) (id : String)
    {change : Control → Control} (closing : Closing change) :
    Sound ((world.setClaim party next).setControls (updatePending world.controls id change)) := by
  have moved : Sound (world.setClaim party next) := by
    apply sound.setClaim party next
    · intro claim candidate now reads
      rw [looks claim now] at reads
      cases reads
    · intro claim candidate env now takes
      rw [looks claim now] at takes
      cases takes
  have keeps : Keeps world.controls (updatePending world.controls id change) :=
    (closing.settling id).keeps world.controls
  apply moved.frame ((world.setClaim party next).setControls
    (updatePending world.controls id change)) keeps rfl
  · intro other claim held
    exact .inl held
  · intro _ _ _ _ _ _ _ owns
    exact owns

/-- The control that a won row hands out was not handed out before. -/
theorem Sound.hand (sound : Sound world) {handout : Handout}
    (fresh : handout.control.id ∉ world.handed.map fun handout => handout.control.id)
    (there : handout.control.id ∈ world.controls.map Control.id)
    (settled : pendingIn world.controls handout.control.id = false)
    (apart : isSupersedeStop handout.control = true →
      ¬ (handout.owner ≠ "" ∧ handout.owner = handout.req.bridgeId)) :
    Sound (world.hand handout) := by
  constructor
  case toHandedWell =>
    constructor
    · rw [World.hand, List.map_append]
      apply pairwise_concat sound.once
      rintro id member rfl
      exact fresh member
    · intro other member stops
      rcases List.mem_append.mp member with old | new
      · exact sound.apart other old stops
      · rw [List.mem_singleton.mp new] at stops ⊢
        exact apart stops
  case spent =>
    intro other member
    rcases List.mem_append.mp member with old | new
    · exact sound.spent other old
    · rw [List.mem_singleton.mp new]
      exact ⟨there, settled⟩
  case known => exact sound.known
  case taking => exact sound.taking

theorem Sound.advance (sound : Sound world) {party : Nat} {claim : Claim}
    (held : world.claims party = some claim) : Sound (advance py world party claim) := by
  obtain ⟨req, progress⟩ := claim
  cases progress with
  | looking =>
      apply sound.setClaim
      · intro next candidate now reads
        obtain ⟨row, found, rfl⟩ := Option.map_eq_some_iff.mp now
        obtain rfl := Option.some.inj reads
        exact candidate_known found
      · intro next candidate env now takes
        obtain ⟨row, found, rfl⟩ := Option.map_eq_some_iff.mp now
        cases takes
  | found candidate =>
      have there := sound.known party _ candidate held rfl
      apply sound.setClaim
      · intro next other now reads
        obtain rfl := Option.some.inj now
        dsimp only at reads
        split at reads
        · obtain rfl := Option.some.inj reads
          exact there
        · obtain rfl := Option.some.inj reads
          exact there
      · intro next other env now takes stops owns
        obtain rfl := Option.some.inj now
        dsimp only at takes owns
        split at takes
        · cases takes
        · next kept =>
            -- the guard read the owner that the environment has now
            obtain ⟨rfl, _⟩ := Progress.taking.inj takes
            apply kept
            have isStop : candidate.action = .stop := (of_decide_eq_true stops).1
            have owner : claimerIsCurrentOwner (world.environment req.environmentId) req = true := owns
            simp [isStaleStop, isStop, stops, owner]
  | voiding candidate =>
      apply sound.update _ _ _ _ (voidControl_closing py world.clock req candidate)
      intro next now
      obtain rfl := Option.some.inj now
      rfl
  | taking candidate env =>
      dsimp only [EnvironmentControls.advance]
      split
      · next pending =>
          have there := sound.known party _ candidate held rfl
          have closing := takeControl_closing py world.clock req
          apply (sound.update party none (fun _ now => by cases now) candidate.id closing).hand
          · intro again
            obtain ⟨handout, member, same⟩ := List.mem_map.mp again
            have spent := (sound.spent handout member).2
            rw [same] at spent
            exact Bool.eq_false_iff.mp spent pending
          · exact ((closing.settling candidate.id).keeps world.controls).ids _ there
          · exact closing.settled
          · intro stops owner
            apply sound.taking party req candidate env held stops pending
            exact decide_eq_true owner
      · apply sound.setClaim
        · intro next candidate now
          cases now
        · intro next candidate env now
          cases now

/-! ### Runs -/

/-- A beat gives the environment back to a bridge whose claim has read another owner and is
about to take that bridge's stop: the beat is accepted, and the stop is still pending and
not one that it drains. -/
def TakesBack (py : Stdlib) (world : World) (presented : String) (beat : EnvironmentBeat) : Prop :=
  ∃ party req candidate env, world.claims party = some ⟨req, .taking candidate env⟩ ∧
    isSupersedeStop candidate = true ∧ req.environmentId = beat.envId ∧
    strip beat.bridgeId ≠ "" ∧ req.bridgeId = strip beat.bridgeId ∧
    accepts py world.clock presented beat world.hosts = true ∧
    ∃ row ∈ world.controls, row.id = candidate.id ∧ row.status = .pending ∧
      (supersededBridge py world.clock beat (world.environment beat.envId) ≠ "" →
        isDrained py world.clock beat.envId row = false)

def Allowed (py : Stdlib) (world : World) : Label → Prop
  | .beat presented beat _ => ¬ TakesBack py world presented beat
  | _ => True

theorem Sound.beat (sound : Sound world) {presented newId : String} {beat : EnvironmentBeat}
    (fresh : newId ∉ world.controls.map Control.id) (kept : ¬ TakesBack py world presented beat) :
    Sound (serveBeat py world presented beat newId) := by
  have rows := serveBeat_controls py world presented beat newId
  have keeps : Keeps world.controls (serveBeat py world presented beat newId).controls := by
    rw [rows]
    split
    · constructor
      · intro id known
        exact queueStop_ids py world.clock beat _ newId known
      · intro id known pending
        have old : id ≠ newId := fun drawn => fresh (drawn ▸ known)
        obtain ⟨row, member, named, waits, _⟩ := queueStop_survivor old pending
        exact pendingIn_iff.2 ⟨row, member, named, waits⟩
    · exact keeps_refl world.controls
  apply sound.frame _ keeps rfl
  · intro party claim held
    exact .inl held
  · intro party req candidate env held stops pending owns
    have there := sound.known party _ candidate held rfl
    have owner := serveBeat_owner py world presented beat newId req.environmentId
    by_cases taken : accepts py world.clock presented beat world.hosts = true ∧
        beat.envId = req.environmentId ∧ strip beat.bridgeId ≠ ""
    · obtain ⟨accepted, same, named⟩ := taken
      rw [if_pos ⟨accepted, same, named⟩] at owner
      rw [rows, if_pos accepted] at pending
      have old : candidate.id ≠ newId := fun drawn => fresh (drawn ▸ there)
      obtain ⟨row, survivor⟩ := queueStop_survivor old pending
      have claimer : strip beat.bridgeId = req.bridgeId :=
        owner.symm.trans (of_decide_eq_true owns).2
      exact absurd ⟨party, req, candidate, env, held, stops, same.symm, named, claimer.symm, accepted,
        row, survivor⟩ kept
    · rw [if_neg taken] at owner
      simpa only [World.owned, claimerIsCurrentOwner, owner] using owns

theorem sound_step (py : Stdlib) (before : World) (label : Label) (after : World)
    (sound : Sound before) (allowed : Allowed py before label)
    (taken : step py before label = some after) : Sound after := by
  cases label with
  | tick elapsed =>
      obtain rfl := Option.some.inj taken
      apply sound.frame { before with clock := before.clock + elapsed } (keeps_refl _) rfl
      · intro party claim held
        exact .inl held
      · intro _ _ _ _ _ _ _ owns
        exact owns
  | beat presented beat newId =>
      dsimp only [step] at taken
      split at taken
      · cases taken
      · next fresh =>
          obtain rfl := Option.some.inj taken
          exact sound.beat fresh allowed
  | claim party req =>
      dsimp only [step] at taken
      split at taken
      · cases taken
      · obtain rfl := Option.some.inj taken
        apply sound.setClaim
        · intro claim candidate now reads
          obtain rfl := Option.some.inj now
          cases reads
        · intro claim candidate env now takes
          obtain rfl := Option.some.inj now
          cases takes
  | advance party =>
      obtain ⟨claim, held, rfl⟩ := Option.map_eq_some_iff.mp taken
      exact sound.advance held
  | abandon party =>
      obtain rfl := Option.some.inj taken
      apply sound.setClaim
      · intro claim candidate now
        cases now
      · intro claim candidate env now
        cases now

/-- A pending row that a beat does not drain is pending after it. -/
theorem queueStop_leaves {controls : List Control} {clock : Nat} {beat : EnvironmentBeat}
    {superseded newId : String} {row : Control} (member : row ∈ controls)
    (waits : row.status = .pending)
    (survives : superseded ≠ "" → isDrained py clock beat.envId row = false) :
    pendingIn (queueStopForSupersededBridge py clock beat superseded newId controls) row.id = true := by
  apply pendingIn_iff.2
  unfold queueStopForSupersededBridge
  by_cases none' : superseded = ""
  · rw [if_pos none']
    exact ⟨row, member, rfl, waits⟩
  · have kept : drained py clock beat.envId (py.iso beat.now) row = row := by
      rw [drained, survives none']
      rfl
    have there : row ∈ controls.map (drained py clock beat.envId (py.iso beat.now)) :=
      List.mem_map.mpr ⟨row, member, kept⟩
    rw [if_neg none']
    dsimp only
    split
    · exact ⟨row, there, rfl, waits⟩
    · exact ⟨row, List.mem_append_left _ there, rfl, waits⟩

/-- After a beat that takes the environment back, the claim's UPDATE hands the owner its stop. -/
theorem taken_back_stops {presented newId : String} {beat : EnvironmentBeat}
    (back : TakesBack py world presented beat) :
    ∃ party next, step py (serveBeat py world presented beat newId) (.advance party) = some next ∧
      ¬ HandedWell next := by
  obtain ⟨party, req, candidate, env, held, stops, same, named, claimer, accepted, row, member,
    sameRow, waits, survives⟩ := back
  have owner := serveBeat_owner py world presented beat newId req.environmentId
  rw [if_pos ⟨accepted, same.symm, named⟩] at owner
  have pending : pendingIn (serveBeat py world presented beat newId).controls candidate.id = true := by
    rw [serveBeat_controls, if_pos accepted, ← sameRow]
    exact queueStop_leaves member waits survives
  have there : (serveBeat py world presented beat newId).claims party =
      some ⟨req, .taking candidate env⟩ := held
  refine ⟨party, _, congrArg (Option.map _) there, ?_⟩
  intro well
  dsimp only [advance] at well
  rw [if_pos pending] at well
  apply well.apart _ (List.mem_append_right _ List.mem_cons_self) stops
  dsimp only
  rw [owner]
  exact ⟨named, claimer.symm⟩

/-- A run without such a beat hands every control out once and no owner its own stop; and
any beat that takes an environment back makes the next UPDATE of that claim break this. -/
theorem own_stop_withheld {hosts : Hosts} {controls : List Control} {clock : Nat}
    (run : Reaches (step py) (Allowed py) (initial hosts controls clock) world) :
    HandedWell world ∧ ∀ presented beat newId after, ¬ Allowed py world (.beat presented beat newId) →
      step py world (.beat presented beat newId) = some after →
      ∃ party next, step py after (.advance party) = some next ∧ ¬ HandedWell next := by
  constructor
  · have sound := run.invariant Sound (initial_sound hosts controls clock) (sound_step py)
    exact sound.toHandedWell
  · intro presented beat newId after back taken
    dsimp only [step] at taken
    split at taken
    · cases taken
    · obtain rfl := Option.some.inj taken
      exact taken_back_stops (not_not.mp back)

/-! ### Two bridges of one machine -/

/-- A time and its text. -/
structure Moment where
  time : Nat
  text : String

def nightTimes : List Moment :=
  [⟨1791071820, "2026-10-03T23:57:00Z"⟩, ⟨1791071920, "2026-10-03T23:58:40Z"⟩,
    ⟨1791072000, "2026-10-04T00:00:00Z"⟩, ⟨1791072120, "2026-10-04T00:02:00Z"⟩,
    ⟨1791072220, "2026-10-04T00:03:40Z"⟩]

/-- The library at those times. -/
def nightLibrary : Stdlib where
  sha256 := id
  lower := lower
  showList := fun roots => toString roots
  iso := fun time => (nightTimes.find? fun known => known.time == time).elim "" Moment.text
  isoUtc := fun text => (nightTimes.find? fun known => known.text == text).map fun known =>
    String.ofList (known.text.toList.dropLast ++ "+00:00".toList)
  epoch := fun text => (nightTimes.find? fun known => known.text == text).elim 0 Moment.time

def devbox : String := "linux:devbox:default"

/-- An online beat of a bridge of the machine. -/
def beatOf (bridgeId started : String) (now : Nat) : EnvironmentBeat :=
  ⟨devbox, "", "linux:devbox", "linux", "linux", bridgeId, "", "", "", [], now, none, none,
    Dict.empty.set "bridgeStartedAt" (.text started), "online"⟩

def claimOf (bridgeId : String) : EnvironmentControlClaim := ⟨devbox, bridgeId, "linux:devbox"⟩

/-- The second bridge starts two minutes later and takes the environment. -/
def takeover : List Label :=
  [.beat "" (beatOf "env-1" "2026-10-04T00:00:00Z" 1791072000) "envctl-1", .tick 120,
    .beat "" (beatOf "env-2" "2026-10-04T00:02:00Z" 1791072120) "envctl-1"]

/-- The first one claims its stop; the second is silent, and before the UPDATE the first
beats again. -/
def beatMeanwhile : List Label :=
  [.tick 100, .claim 1 (claimOf "env-1"), .advance 1, .advance 1,
    .beat "" (beatOf "env-1" "2026-10-04T00:00:00Z" 1791072220) "envctl-2", .advance 1]

structure Seen where
  id : String
  requestedBy : String
  claimer : String
  owner : String
  deriving DecidableEq

def handedSeen (world : World) : List Seen :=
  world.handed.map fun handout => ⟨handout.control.id, handout.control.requestedBy,
    handout.req.bridgeId, handout.owner⟩

def nightStart : World := initial ⟨Dict.empty, Dict.empty⟩ [] 1791072000

/-- A beat that is refused gives nothing back. -/
def onlyRefused (world : World) : Label → Bool
  | .beat presented beat _ => !accepts nightLibrary world.clock presented beat world.hosts
  | _ => true

theorem onlyRefused_allowed (world : World) (label : Label) (granted : onlyRefused world label = true) :
    Allowed nightLibrary world label := by
  cases label with
  | beat presented beat newId =>
      rintro ⟨_, _, _, _, _, _, _, _, _, accepted, _⟩
      rw [onlyRefused, accepted] at granted
      cases granted
  | _ => trivial

def takenOver : World := (exec (step nightLibrary) (fun _ _ => true) nightStart takeover).getD nightStart

/-- The superseded bridge beats in vain, and is handed its stop once. -/
theorem superseded_bridge_stopped :
    ∃ world, Reaches (step nightLibrary) (Allowed nightLibrary)
        (initial takenOver.hosts takenOver.controls 1791072120) world ∧
      handedSeen world = [⟨"envctl-1", "server:superseded-bridge", "env-1", "env-2"⟩] ∧
      HandedWell world := by
  have executed : (exec (step nightLibrary) onlyRefused
      (initial takenOver.hosts takenOver.controls 1791072120)
      [.claim 1 (claimOf "env-1"), .claim 2 (claimOf "env-1"), .advance 1, .advance 2, .advance 2,
        .advance 1, .beat "" (beatOf "env-1" "2026-10-04T00:00:00Z" 1791072120) "envctl-2",
        .advance 1, .advance 2]).map handedSeen =
        some [⟨"envctl-1", "server:superseded-bridge", "env-1", "env-2"⟩] := by
    decide
  obtain ⟨world, run, seen⟩ := reaches_observed _ _ _ _ onlyRefused_allowed executed
  exact ⟨world, run, seen, (own_stop_withheld run).1⟩

/-- The owner by then, the first bridge is handed the stop of its own succession. -/
theorem owner_handed_own_stop :
    ∃ world, Reaches (step nightLibrary) anyStep nightStart world ∧
      handedSeen world = [⟨"envctl-1", "server:superseded-bridge", "env-1", "env-1"⟩] ∧
      ¬ HandedWell world := by
  have executed : (exec (step nightLibrary) (fun _ _ => true) nightStart
      (takeover ++ beatMeanwhile)).map (fun world => (handedSeen world,
        world.handed.any fun handout => isSupersedeStop handout.control &&
          decide (handout.owner ≠ "" ∧ handout.owner = handout.req.bridgeId))) =
      some ([⟨"envctl-1", "server:superseded-bridge", "env-1", "env-1"⟩], true) := by
    decide
  obtain ⟨world, run, observed⟩ := reaches_observed _ _ _ _ (fun _ _ _ => trivial) executed
  obtain ⟨seen, broken⟩ := Prod.mk.inj observed
  refine ⟨world, run, seen, ?_⟩
  intro well
  obtain ⟨handout, member, own⟩ := List.any_eq_true.mp broken
  obtain ⟨stops, owner⟩ := (Bool.and_eq_true _ _).mp own
  exact well.apart handout member stops (of_decide_eq_true owner)

end AifyComms.EnvironmentControls
