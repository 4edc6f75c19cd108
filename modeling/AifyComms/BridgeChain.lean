import AifyComms.SessionHandles
import Mathlib.Data.List.Sort

/-!
The bridges of one resident agent on one machine, each superseded by a later one:
`api_core/nested_session_handback.py`, the same-mode gate and the bridge rows of a
registration (`same_mode_bridge_gate.py`, `bridge_registration.py`), the loss of
`routers/agents/session_lease.py` and the heartbeat of `routers/agents/liveness.py`.

A registration holds the write lock from its first read and is one step. A loss
reads the agent's row and settles later, under the lock of its first UPDATE. A
heartbeat of a superseded bridge reads its own row, the agent's row, the chain
behind the owner one link at a time and the owner's row, and only then writes.

Channel sidecars hold no session handle and are left out, as are terminals, runs
and the agent's other columns. The runs in flight that the gate counts are an input.
-/

namespace AifyComms.BridgeChain
open PyText Runs SpawnRequests SessionHandles

/-! ### The rows -/

structure Offer where
  madeAt : Nat
  lostBridge : String
  deriving DecidableEq

/-- A row of `bridge_instances`. A stamp that cannot be read is 0. -/
structure Bridge where
  sessionHandle : String
  supersededBy : String
  supersededAt : Option Nat
  handbackOffer : Option Offer
  lastSeen : Nat
  startedAt : Nat
  deriving DecidableEq

/-- The agent's row. `owner` is `runtime_state.bridgeInstanceId`. -/
structure Agent where
  owner : String
  status : String
  launchMode : String
  statusNote : String
  lastSeen : Nat

abbrev Bridges := Dict String Bridge

/-! ### The chain behind a bridge -/

def maxChain : Nat := 64

structure Walk where
  seen : List String
  chain : List String
  frontier : List String

def Walk.start (bridgeId : String) : Walk := ⟨[bridgeId], [], [bridgeId]⟩

def Walk.done (walk : Walk) : Bool := walk.frontier.isEmpty || decide (maxChain ≤ walk.chain.length)

/-- The bridges with the handle that one of the frontier superseded. -/
def directlyBehind (bridges : Bridges) (handle : String) (frontier : List String) : List String :=
  (bridges.entries.filter fun entry =>
    decide (entry.2.sessionHandle = handle) && decide (entry.2.supersededBy ∈ frontier)).map Prod.fst

/-- One SELECT of the walk. -/
def Walk.next (bridges : Bridges) (handle : String) (walk : Walk) : Walk :=
  let frontier := (directlyBehind bridges handle walk.frontier).filter (· ∉ walk.seen)
  ⟨walk.seen ++ frontier, walk.chain ++ frontier, frontier⟩

def Walk.run (bridges : Bridges) (handle : String) : Nat → Walk → Walk
  | 0, walk => walk
  | fuel + 1, walk =>
      if walk.done then walk else Walk.run bridges handle fuel (walk.next bridges handle)

def handleOf (bridges : Bridges) (bridgeId : String) : String :=
  (bridges.get? bridgeId).elim "" fun row => strip row.sessionHandle

/-- `_same_handle_chain_behind` where no other request commits meanwhile. -/
def sameHandleChainBehind (bridges : Bridges) (bridgeId : String) : List String :=
  if handleOf bridges bridgeId = "" then []
  else (Walk.run bridges (handleOf bridges bridgeId) (maxChain + 1) (Walk.start bridgeId)).chain

theorem run_done {bridges : Bridges} {handle : String} {walk : Walk} (done : walk.done = true)
    (fuel : Nat) : walk.run bridges handle fuel = walk := by
  cases fuel with
  | zero => rfl
  | succ fuel => rw [Walk.run, if_pos done]

-- Every SELECT but the last one lengthens the chain, up to the bound on it.
theorem walk_ends (bridges : Bridges) (handle : String) (fuel : Nat) (walk : Walk)
    (enough : maxChain ≤ walk.chain.length + fuel) : (walk.run bridges handle fuel).done = true := by
  induction fuel generalizing walk with
  | zero =>
      have long : maxChain ≤ walk.chain.length := enough
      simp only [Walk.run, Walk.done, long, decide_true, Bool.or_true]
  | succ fuel ih =>
      by_cases done : walk.done = true
      · rwa [run_done done]
      · rw [Walk.run, if_neg done]
        by_cases last : (walk.next bridges handle).frontier = []
        · have ended : (walk.next bridges handle).done = true := by
            rw [Walk.done, last, List.isEmpty_nil, Bool.true_or]
          rwa [run_done ended]
        · apply ih
          have longer : (walk.next bridges handle).chain.length =
              walk.chain.length + (walk.next bridges handle).frontier.length :=
            List.length_append
          have found := List.length_pos_iff.mpr last
          omega

/-- The chain is complete: the walk is over within its bound. -/
theorem same_handle_chain_complete (bridges : Bridges) (bridgeId : String) :
    (Walk.run bridges (handleOf bridges bridgeId) (maxChain + 1) (Walk.start bridgeId)).done = true := by
  apply walk_ends
  simp only [Walk.start, List.length_nil]
  omega

/-! ### Registering -/

/-- `max(15, lease_seconds or 150)`. -/
def silence (lease : Nat) : Nat := max 15 (if lease = 0 then 150 else lease)

def fresh (lease clock : Nat) (row : Bridge) : Bool :=
  decide (row.lastSeen ≠ 0) && decide (clock - row.lastSeen ≤ silence lease)

/-- `_fresh_same_mode_bridge_conflict`: the live one, of the freshest first. -/
def freshConflict (bridges : Bridges) (lease clock : Nat) (bridgeId : String) :
    Option (String × Bridge) :=
  ((bridges.entries.filter fun entry => decide (entry.1 ≠ bridgeId) &&
    decide (entry.2.supersededBy = "")).insertionSort fun left right =>
      right.2.lastSeen ≤ left.2.lastSeen).find? fun entry => fresh lease clock entry.2

structure Registration where
  bridgeId : String
  sessionHandle : String
  startedAt : Nat
  status : String
  launchMode : String
  inFlight : Nat
  force : Bool
  handleHeldElsewhere : Bool

/-- `_enforce_same_mode_bridge_gate`: whether the registration proceeds. Where it
takes the session over, the write below supersedes the conflicting bridge too. -/
def gateAdmits (bridges : Bridges) (lease clock : Nat) (req : Registration) : Bool :=
  if req.bridgeId = "" || req.force then true
  else match freshConflict bridges lease clock req.bridgeId with
    | none => true
    | some (_, held) =>
        decide (strip req.sessionHandle ≠ "") &&
          decide (strip req.sessionHandle = strip held.sessionHandle) &&
          -- A process that started earlier does not take the session back.
          !(decide (req.startedAt ≠ 0) && decide (held.startedAt ≠ 0) &&
            decide (req.startedAt < held.startedAt)) &&
          decide (req.inFlight = 0)

/-- The handle that is recorded: another live agent's is not. -/
def recordedHandle (req : Registration) : String :=
  if req.handleHeldElsewhere then "" else sanitizeSessionHandle req.sessionHandle

def supersede (bridgeId : String) (now : Nat) (row : Bridge) : Bridge :=
  if row.supersededBy = "" then { row with supersededBy := bridgeId, supersededAt := some now }
  else row

/-- `_record_bridge_registration`: the bridge's row is replaced, and every other
row that is not superseded is superseded by it. -/
def recordBridge (bridges : Bridges) (req : Registration) (now : Nat) : Bridges :=
  (bridges.mapValues fun _ row => supersede req.bridgeId now row).set req.bridgeId
    ⟨recordedHandle req, "", none, none, now, req.startedAt⟩

/-! ### Losing -/

/-- `was_stopped`. -/
def wasStopped (agent : Agent) : Bool :=
  decide (agent.status = "stopped") || decide (normalise agent.launchMode = "none")

def lossNote (reason : String) : String :=
  orElse reason "Resident runtime bridge was lost and no managed backing was available."

def handbackNote : String :=
  "The bridge that took this session over closed; the session's own bridge reclaims it when it beats."

/-- `_settle_lost_resident_when_no_transition` for a resident agent. -/
def restLost (beforeLoss : Agent) (reason : String) (now : Nat) (agent : Agent) : Agent :=
  if wasStopped beforeLoss then
    { agent with
      status := "stopped", statusNote := lossNote reason, launchMode := "none", lastSeen := now }
  else { agent with status := "offline", statusNote := lossNote reason, lastSeen := now }

/-- A loss between its read of the agent's row and its writes. -/
structure Loss where
  bridgeId : String
  reason : String
  beforeLoss : Agent
  now : Nat

def markLost (now : Nat) (row : Bridge) : Bridge :=
  { row with
    supersededBy := if row.supersededBy = "" then "resident-lost" else row.supersededBy
    supersededAt := some (row.supersededAt.getD now) }

/-- The first UPDATE of a loss that names its bridge. -/
def markRow (loss : Loss) (id : String) (row : Bridge) : Bridge :=
  if loss.bridgeId ≠ "" ∧ id = loss.bridgeId then markLost loss.now row else row

/-- The bridges a loss offers the session to: `offer_handback`. -/
def offeredBy (bridges : Bridges) (loss : Loss) : List String :=
  if loss.bridgeId = "" || wasStopped loss.beforeLoss then []
  else sameHandleChainBehind bridges loss.bridgeId

def offerRow (loss : Loss) (chain : List String) (id : String) (row : Bridge) : Bridge :=
  if id ∈ chain then { row with handbackOffer := some ⟨loss.now, loss.bridgeId⟩ } else row

/-- The agent a loss leaves, with the bridges it offers the session to. -/
def lostAgent (loss : Loss) (chain : List String) (agent : Agent) : Agent :=
  let rested := restLost loss.beforeLoss loss.reason loss.now agent
  if chain = [] then rested
  else { rested with
    status := "offline", launchMode := orElse loss.beforeLoss.launchMode "detached"
    statusNote := handbackNote }

/-! ### Beating -/

/-- What a heartbeat has read so far. `since` counts the changes of ownership when
the owner was read, `heard` the owner's beats when the owner's row was. -/
inductive Phase where
  | superseded
  | mine (offer : Option Offer) (supersededBy : String)
  | owned (offer : Option Offer) (supersededBy owner : String) (since : Nat)
  | walking (offer : Option Offer) (supersededBy owner : String) (since : Nat) (handle : String)
      (walk : Walk)
  | reclaiming (owner : String) (since : Nat) (offered : Bool) (heard : Nat)
  | beating

structure Beat where
  bridgeId : String
  now : Nat
  phase : Phase

/-- The two tables and the clock. `offered` are the pairs of a lost bridge and one
it offered the session to; `changes` counts registrations and reclaims, `heard` the
owner's beats. -/
structure Store where
  clock : Nat
  agent : Agent
  bridges : Bridges
  offered : List (String × String)
  changes : Nat
  heard : Nat

structure World where
  store : Store
  losses : Nat → Option Loss
  beats : Nat → Option Beat

def initial (clock : Nat) (agent : Agent) : World :=
  ⟨⟨clock, { agent with owner := "" }, Dict.empty, [], 0, 0⟩, fun _ => none, fun _ => none⟩

/-- `_is_silent`. -/
def isSilent (lease clock : Nat) (owner : Option Bridge) : Bool :=
  !owner.any (fresh lease clock)

/-- Whether the offer a bridge carries names the owner. -/
def offers (offer : Option Offer) (supersededBy owner : String) : Bool :=
  offer.any fun made => decide (orElse made.lostBridge supersededBy = owner)

/-- The next read of a heartbeat: `none` ends it, its bridge being superseded. -/
def advance (lease : Nat) (store : Store) (beat : Beat) : Option Phase :=
  match beat.phase with
  | .superseded => (store.bridges.get? beat.bridgeId).map fun row =>
      .mine row.handbackOffer row.supersededBy
  | .mine offer supersededBy =>
      if store.agent.owner = "" ∨ store.agent.owner = beat.bridgeId then none
      else some (.owned offer supersededBy store.agent.owner store.changes)
  | .owned offer supersededBy owner since =>
      if handleOf store.bridges owner = "" then none
      else some (.walking offer supersededBy owner since (handleOf store.bridges owner)
        (Walk.start owner))
  | .walking offer supersededBy owner since handle walk =>
      if walk.done then
        if beat.bridgeId ∈ walk.chain ∧ (offers offer supersededBy owner = true ∨
            isSilent lease store.clock (store.bridges.get? owner) = true) then
          some (.reclaiming owner since (offers offer supersededBy owner) store.heard)
        else none
      else some (.walking offer supersededBy owner since handle (walk.next store.bridges handle))
  | .reclaiming _ _ _ _ => none
  | .beating => none

def free (row : Bridge) : Bridge :=
  { row with supersededBy := "", supersededAt := none, handbackOffer := none }

def standBehind (bridgeId : String) (now : Nat) (row : Bridge) : Bridge :=
  if row.supersededBy = "" then
    { row with supersededBy := bridgeId, supersededAt := some (row.supersededAt.getD now) }
  else row

/-- The writes of `reclaim_on_beat`. -/
def reclaim (store : Store) (beat : Beat) (owner : String) : Store :=
  { store with
    agent := { store.agent with owner := beat.bridgeId }
    bridges := (store.bridges.modify beat.bridgeId free).modify owner
      (standBehind beat.bridgeId beat.now)
    changes := store.changes + 1 }

def beatAgent (now : Nat) (agent : Agent) : Agent :=
  { agent with
    status := if agent.status = "stopped" then agent.status else "active"
    lastSeen := now }

def beatBridge (now : Nat) (row : Bridge) : Bridge := { row with lastSeen := now }

inductive Label where
  | register (req : Registration)
  | lose (loss : Nat) (bridgeId reason : String)
  | settleLoss (loss : Nat)
  | beat (beat : Nat) (bridgeId : String)
  | read (beat : Nat)
  | write (beat : Nat)
  | stop
  | tick (seconds : Nat)

def registeredAgent (req : Registration) (now : Nat) (agent : Agent) : Agent :=
  { agent with
    status := normalise (orElse req.status "idle"), launchMode := normalise req.launchMode
    lastSeen := now }

/-- The writes of a registration that names its bridge. -/
def registered (store : Store) (req : Registration) : Store :=
  { store with
    agent := { registeredAgent req store.clock store.agent with owner := req.bridgeId }
    bridges := recordBridge store.bridges req store.clock
    changes := store.changes + 1 }

def register (lease : Nat) (store : Store) (req : Registration) : Store :=
  if gateAdmits store.bridges lease store.clock req then
    if req.bridgeId = "" then { store with agent := registeredAgent req store.clock store.agent }
    else registered store req
  else store

def settleLoss (store : Store) (loss : Loss) : Store :=
  let marked := store.bridges.mapValues (markRow loss)
  let chain := offeredBy marked loss
  { store with
    agent := lostAgent loss chain store.agent
    bridges := marked.mapValues (offerRow loss chain)
    offered := store.offered ++ chain.map fun id => (loss.bridgeId, id) }

/-- What every beat writes in the end. -/
def beaten (store : Store) (beat : Beat) : Store :=
  { store with
    agent := beatAgent beat.now store.agent
    bridges := store.bridges.modify beat.bridgeId (beatBridge beat.now)
    heard := if beat.bridgeId = store.agent.owner then store.heard + 1 else store.heard }

/-- The writes of one heartbeat's transaction. -/
def writeBeat (store : Store) (beat : Beat) : Option (Store × Option Beat) :=
  match beat.phase with
  | .reclaiming owner _ _ _ => some (reclaim store beat owner, some { beat with phase := .beating })
  | .beating => some (beaten store beat, none)
  | _ => none

/-- A heartbeat after its first SELECT. -/
def begun (store : Store) (bridgeId : String) : Beat :=
  ⟨bridgeId, store.clock,
    if (store.bridges.get? bridgeId).any fun row => decide (row.supersededBy ≠ "")
    then .superseded else .beating⟩

/-- The agent is stopped by another route. -/
def stop (store : Store) : Store :=
  { store with agent := { store.agent with status := "stopped", launchMode := "none" } }

def tick (seconds : Nat) (store : Store) : Store := { store with clock := store.clock + seconds }

def step (lease : Nat) (world : World) : Label → Option World
  | .register req => some { world with store := register lease world.store req }
  | .lose loss bridgeId reason =>
      if (world.losses loss).isSome then none
      -- A bridge that is not the owner loses nothing.
      else if bridgeId ≠ "" ∧ world.store.agent.owner ≠ "" ∧ bridgeId ≠ world.store.agent.owner
      then some world
      else some { world with
        losses := Function.update world.losses loss
          (some ⟨bridgeId, reason, world.store.agent, world.store.clock⟩) }
  | .settleLoss loss => (world.losses loss).map fun lost =>
      { world with
        store := settleLoss world.store lost, losses := Function.update world.losses loss none }
  | .beat beat bridgeId =>
      if bridgeId = "" ∨ (world.beats beat).isSome then none
      else some { world with
        beats := Function.update world.beats beat (some (begun world.store bridgeId)) }
  | .read beat =>
      (world.beats beat).bind fun reading =>
        match reading.phase with
        | .reclaiming _ _ _ _ => none
        | .beating => none
        | _ => some { world with
            beats := Function.update world.beats beat
              ((advance lease world.store reading).map fun phase => { reading with phase := phase }) }
  | .write beat =>
      (world.beats beat).bind fun writing => (writeBeat world.store writing).map fun written =>
        { world with store := written.1, beats := Function.update world.beats beat written.2 }
  | .stop => some { world with store := stop world.store }
  | .tick seconds => some { world with store := tick seconds world.store }

/-! ### One owner -/

/-- `a` is superseded by `b`. -/
def Link (bridges : Bridges) (a b : String) : Prop :=
  ∃ row, bridges.get? a = some row ∧ row.supersededBy = b ∧ b ≠ ""

/-- `a` stands behind `b` in the session `handle`. -/
def Behind (bridges : Bridges) (handle a b : String) : Prop :=
  Relation.TransGen (fun left right => Link bridges left right ∧
    (bridges.get? left).any (fun row => decide (row.sessionHandle = handle)) = true) a b

/-- The superseded-by relation has no cycle. -/
def Acyclic (bridges : Bridges) : Prop := ∀ id, ¬ Relation.TransGen (Link bridges) id id

/-- Every bridge with a handle that is not superseded is the owner named. -/
def OneOwner (store : Store) : Prop :=
  ∀ id row, store.bridges.get? id = some row → row.sessionHandle ≠ "" → row.supersededBy = "" →
    id = store.agent.owner

/-- A beat that moves the ownership moves it to its own bridge, which stands
behind the owner in the owner's session, and the owner's loss offered it the
session or the owner is silent; and it leaves a stopped agent stopped. -/
def BeatsFairly (lease : Nat) (before after : Store) (bridgeId : String) : Prop :=
  (after.agent.owner ≠ before.agent.owner →
    after.agent.owner = bridgeId ∧
      Behind before.bridges (handleOf before.bridges before.agent.owner) bridgeId before.agent.owner ∧
      ((before.agent.owner, bridgeId) ∈ before.offered ∨
        isSilent lease before.clock (before.bridges.get? before.agent.owner) = true)) ∧
  (before.agent.status = "stopped" → after.agent.status = "stopped")

/-- A heartbeat reclaims only if no registration and no other reclaim was committed
since it read the owner and, where nothing was offered, no beat of the owner since it
read the owner's row; and no bridge is named as the mark of a loss. -/
def undisturbed (world : World) : Label → Bool
  | .register req => decide (req.bridgeId ≠ "resident-lost")
  | .write beat =>
      (world.beats beat).all fun writing =>
        match writing.phase with
        | .reclaiming _ since offered heard =>
            decide (since = world.store.changes) && (offered || decide (heard = world.store.heard))
        | _ => true
  | _ => true

def Undisturbed (world : World) (label : Label) : Prop := undisturbed world label = true

end AifyComms.BridgeChain
