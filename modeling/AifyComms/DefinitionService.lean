import AifyComms.LifecycleRequests
import AifyComms.Runs

/-!
The routes that write agent definitions, definition requests and lifecycle requests, as
steps of one system: `routers/agent_definitions.py`, `routers/definition_requests.py`,
`routers/agent_lifecycle_requests.py`, the spawn of a created agent
(`definition_creation.py`) and the removal a done request owes (`agent_remove.py`,
`reconcilers/owed_removals.py`).

A step is one transaction. A removal takes two or three of them and waits in between, so
it is a party of its own, and may stop for good after any of them. A request without its
machine's host proof is refused before it reads anything, and is no step.
-/

namespace AifyComms.DefinitionService
open PyText DefinitionSnapshot DefinitionPush
open DefinitionRequests (Target Brief removedIncarnation settledRefusal removalRefusal)
open LifecycleRequests (Lifecycle LaunchRules queueLifecycle queuedRow)

/-! ### The spawn of a created agent -/

/-- A start that `spawn_created` queued, remembered over a whole run. -/
structure Spawned where
  creationId : String
  lifecycleId : String
  lifetime : Lifetime
  deriving DecidableEq

structure Spawning where
  requests : DefinitionRequests.Requests
  lifecycle : LifecycleRequests.Requests
  spawned : List Spawned

/-- The lifetime the host reported for a creation. -/
def createdLifetime (row : DefinitionRequests.Request) : Option Lifetime :=
  row.resultIncarnation.map fun incarnation => ⟨row.machineId, row.storeId, incarnation⟩

def settleSpawn (consequence : DefinitionRequests.Consequence) (row : DefinitionRequests.Request) :
    DefinitionRequests.Request := { row with consequence := consequence }

def spawnRow (id : String) (row : DefinitionRequests.Request) (held : Definition) (now : Nat) :
    LifecycleRequests.Request :=
  queuedRow row.agentId held .spawn row.requestedBy none true
    (.created row.agentId row.requestedBy id) row.brief now

/-- One owed creation. A refusal is recorded; a failed insert ends the transaction. -/
def spawnOne (definitions : Dict String Definition) (now : Nat) (state : Spawning)
    (entry : String × DefinitionRequests.Request) : Option Spawning :=
  match definitions.get? entry.2.agentId with
  | none => some state
  | some held =>
      if some held.lifetime ≠ createdLifetime entry.2 then
        some { state with
          requests := state.requests.modify entry.1 (settleSpawn (.nothingSpawned
            (String.join [entry.2.agentId, " is now defined by ", held.machineId,
              " at another lifetime"]))) }
      else
        let lifecycleId := "spawn-" ++ entry.1
        match queueLifecycle state.lifecycle lifecycleId (spawnRow entry.1 entry.2 held now) with
        | .error refusal =>
            if refusal.status = 500 then none
            else some { state with
              requests := state.requests.modify entry.1
                (settleSpawn (.nothingSpawned refusal.detail)) }
        | .ok lifecycle =>
            some {
              requests := state.requests.modify entry.1 (settleSpawn (.spawnQueued lifecycleId))
              lifecycle := lifecycle
              spawned := state.spawned ++ [⟨entry.1, lifecycleId, held.lifetime⟩] }

/-- The creations of a machine that its host has done and that were not spawned. -/
def owedSpawns (machineId : String) (requests : DefinitionRequests.Requests) :
    List (String × DefinitionRequests.Request) :=
  requests.entries.filter fun entry => decide (entry.2.machineId = machineId) &&
    decide (entry.2.status = .done) && decide (entry.2.consequence = .spawnPending)

def spawnAll (definitions : Dict String Definition) (now : Nat) :
    List (String × DefinitionRequests.Request) → Spawning → Option Spawning
  | [], state => some state
  | entry :: rest, state => (spawnOne definitions now state entry).bind (spawnAll definitions now rest)

/-- `spawn_created`. -/
def spawnCreated (definitions : Dict String Definition) (machineId : String) (now : Nat)
    (state : Spawning) : Option Spawning :=
  spawnAll definitions now (owedSpawns machineId state.requests) state

/-! ### The world -/

/-- A push that was applied, remembered over a whole run. -/
structure Applied where
  machineId : String
  storeId : String
  revision : Nat
  digest : String
  deriving DecidableEq

/-- A removal under way, for the request it was started with. -/
inductive Removal where
  | begun (id : String) (target : Target)
  | stopping (id : String) (target : Target)
  | finished (id : String) (why : String)

/-- `lastHeld`, `applied` and `spawned` are history: the last definition held for each
agent id, the applied pushes and the queued starts. -/
structure World where
  tables : Tables
  requests : DefinitionRequests.Requests
  lifecycle : Lifecycle
  removals : Nat → Option Removal
  lastHeld : String → Option Lifetime
  applied : List Applied
  spawned : List Spawned

def initial : World where
  tables := ⟨.empty, .empty, .empty, .empty, .empty⟩
  requests := .empty
  lifecycle := ⟨.empty, .empty, .empty, .empty, [], [], []⟩
  removals := fun _ => none
  lastHeld := fun _ => none
  applied := []
  spawned := []

/-- The rules the service is run with. -/
structure Service where
  rules : Rules
  launch : LaunchRules
  iso : Nat → String

/-- The tables after a transaction, and what was held last. -/
def World.commit (world : World) (tables : Tables) : World :=
  { world with
    tables := tables
    lastHeld := fun id => (heldAt tables id).or (world.lastHeld id) }

def World.spawning (world : World) : Spawning :=
  ⟨world.requests, world.lifecycle.requests, world.spawned⟩

def World.spawn (world : World) (state : Spawning) : World :=
  { world with
    requests := state.requests
    lifecycle := { world.lifecycle with requests := state.lifecycle }
    spawned := state.spawned }

def appliedBy (body : Push) (result : Result) : List Applied :=
  match result.outcome with
  | .applied => [⟨strip (body.machineId.getD ""), strip (body.storeId.getD ""),
      body.revision.getD 0, body.snapshotDigest.getD ""⟩]
  | .replay => []

/-- `push_agent_definitions`: a refused push commits what it counted, an accepted one spawns
the created agents it published, and is rolled back if that fails. -/
def push (service : Service) (environment : Option Environment) (body : Push) (switch : Switch)
    (now : Nat) (world : World) : World :=
  let done := applyDefinitionPush service.rules (removedIncarnation world.requests) environment
    body switch now world.tables
  match done.2 with
  | .error _ => world.commit done.1
  | .ok result =>
      match spawnCreated done.1.definitions (strip (body.machineId.getD "")) now world.spawning with
      | none => world
      | some state =>
          { (world.commit done.1).spawn state with applied := world.applied ++ appliedBy body result }

/-- The transaction of `report_definition_change`: the report, then the spawns it completes. -/
def report (environment : Option Environment) (id : String) (body : DefinitionRequests.Report)
    (now : Nat) (world : World) : World :=
  let done := DefinitionRequests.report environment id body now world.requests
  match done.2 with
  | .error _ => world
  | .ok record =>
      match spawnCreated world.tables.definitions record.2.machineId now
          { world.spawning with requests := done.1 } with
      | none => world
      | some state => world.spawn state

/-- `_remove_agent_record`: the agent goes with its sessions and terminals, and a tombstone
stays. -/
def World.removeAgent (world : World) (agentId actor reason : String) (now : Nat) : World :=
  { world.commit { world.tables with
      agents := world.tables.agents.erase agentId
      tombstones := world.tables.tombstones.set agentId ⟨now, actor, reason⟩ } with
    lifecycle := { world.lifecycle with
      terminals := world.lifecycle.terminals.filter fun id =>
        (world.lifecycle.terminals.get? id).all fun row => decide (row.agentId ≠ agentId)
      sessions := world.lifecycle.sessions.filter fun id =>
        (world.lifecycle.sessions.get? id).all fun row => decide (row.agentId ≠ agentId) } }

/-- The fence of `finish_removal`. -/
def removalFence (world : World) (id : String) (target : Target) : String :=
  if settledRefusal id world.requests ≠ "" then settledRefusal id world.requests
  else removalRefusal world.tables target

def World.removal (world : World) (party : Nat) (removal : Option Removal) : World :=
  { world with removals := Function.update world.removals party removal }

/-- The transaction of `remove_agent` that deletes, once its fence has let it. -/
def World.deleteAgent (world : World) (party : Nat) (id : String) (target : Target) (now : Nat) :
    World :=
  match world.tables.agents.get? target.agentId with
  | none => world.removal party (some (.finished id ""))
  | some _ =>
      (world.removeAgent target.agentId "aify-env" "definition_removed" now).removal party
        (some (.finished id ""))

/-- The first transaction of `remove_agent`: the fence, and with it the stop of a managed
agent's worker or the removal of any other agent. -/
def removalFirst (party : Nat) (now : Nat) (world : World) : Option World :=
  match world.removals party with
  | some (.begun id target) =>
      let why := removalFence world id target
      if why ≠ "" then some (world.removal party (some (.finished id why)))
      else if (world.tables.agents.get? target.agentId).any fun row =>
          decide (normalizeSessionMode row.sessionMode = "managed") then
        some ((world.commit { world.tables with
          agents := world.tables.agents.modify target.agentId fun row =>
            { row with lastSeen := now } }).removal party (some (.stopping id target)))
      else some (world.deleteAgent party id target now)
  | _ => none

/-- The fence is asked again after the wait, in the transaction that deletes. -/
def removalSecond (party : Nat) (now : Nat) (world : World) : Option World :=
  match world.removals party with
  | some (.stopping id target) =>
      let why := removalFence world id target
      if why ≠ "" then some (world.removal party (some (.finished id why)))
      else some (world.deleteAgent party id target now)
  | _ => none

def removalSettle (party : Nat) (world : World) : Option World :=
  match world.removals party with
  | some (.finished id why) =>
      some { world.removal party none with
        requests := DefinitionRequests.settleRemoval id why world.requests }
  | _ => none

/-- A report or the sweep finds a removal owed and starts it. -/
def beginRemoval (party : Nat) (id : String) (world : World) : Option World :=
  match world.removals party, world.requests.get? id with
  | none, some row =>
      if row.consequence = .pending then
        some (world.removal party (some (.begun id row.toTarget)))
      else none
  | _, _ => none

/-- `finish_lifecycle_removal`, after the report of a done delete. -/
def finishLifecycleRemoval (id : String) (now : Nat) (world : World) : Option World :=
  match world.lifecycle.requests.get? id with
  | some row =>
      if row.action = .delete ∧ row.status = .done then
        if removalRefusal world.tables row.toTarget ≠ "" then some world
        else match world.tables.agents.get? row.agentId with
          | none => some world
          | some _ =>
              some (world.removeAgent row.agentId row.requestedBy "definition_removed" now)
      else none
  | none => none

/-- Any other write of an agent's row keeps what the definitions wrote of it. -/
def writtenAgent (old : Option AgentRow) (row : AgentRow) : AgentRow :=
  { row with
    definitionState := (old.map AgentRow.definitionState).getD .undefined
    definitionWithdrawn := old.bind AgentRow.definitionWithdrawn }

inductive Label where
  | push (environment : Option Environment) (body : Push) (switch : Switch) (now : Nat)
  | release (agentId machineId : String)
  | reset (machineId : String)
  | admission (agentId : String) (patch : DefinitionRequests.Patch) (operator : Option String)
      (id : String) (now : Nat)
  | creation (agentId machineId : String) (agent : Agent) (brief : Option Brief)
      (requestedBy id : String) (now : Nat)
  | read (now : Nat)
  | claim (environment : Option Environment) (bridgeId machineId : String) (now : Nat)
  | report (environment : Option Environment) (id : String) (body : DefinitionRequests.Report)
      (now : Nat)
  | beginRemoval (party : Nat) (id : String)
  | removalFirst (party : Nat) (now : Nat)
  | removalSecond (party : Nat) (now : Nat)
  | removalSettle (party : Nat)
  | removalStops (party : Nat)
  | lifecycleAdmit (agentId : String) (body : LifecycleRequests.Submit) (proof : Option String)
      (brief : Option Brief) (now : Nat)
  | lifecycleClaim (environment : Option Environment) (bridgeId machineId : String)
      (declared : LifecycleRequests.Field (List String)) (now : Nat)
  | launch (environment : Option Environment) (id bridgeId machineId : String)
      (minted : LifecycleRequests.Minted) (now : Nat)
  | attach (environment : Option Environment) (id : String) (body : LifecycleRequests.Attachment)
      (messageId : String) (now : Nat)
  | lifecycleResult (environment : Option Environment) (id : String)
      (body : LifecycleRequests.ResultReport) (now : Nat)
  | lifecycleRemoval (id : String) (now : Nat)
  | agentWritten (id : String) (row : AgentRow)
  | agentRemoved (id actor reason : String) (now : Nat)
  | tombstoneCleared (id : String)
  | terminalWritten (id : String) (row : Option LifecycleRequests.Terminal)

def writeTerminal (id : String) (row : Option LifecycleRequests.Terminal)
    (terminals : Dict String LifecycleRequests.Terminal) : Dict String LifecycleRequests.Terminal :=
  match row with
  | some row => terminals.set id row
  | none => terminals.erase id

def step (service : Service) (world : World) : Label → Option World
  | .push environment body switch now => some (push service environment body switch now world)
  | .release agentId machineId => some (world.commit (release agentId machineId world.tables).1)
  | .reset machineId => some (world.commit (resetDefinitionStore machineId world.tables))
  | .admission agentId patch operator id now => some { world with
      requests := (DefinitionRequests.admission world.tables agentId patch operator id now
        world.requests).1 }
  | .creation agentId machineId agent brief requestedBy id now => some { world with
      requests := (DefinitionRequests.admitCreation world.tables agentId machineId agent brief
        requestedBy id now world.requests).1 }
  | .read now => some { world with
      requests := DefinitionRequests.expireUnclaimed now world.requests }
  | .claim environment bridgeId machineId now => some { world with
      requests := (DefinitionRequests.claim world.tables environment bridgeId machineId now
        world.requests).1 }
  | .report environment id body now => some (report environment id body now world)
  | .beginRemoval party id => beginRemoval party id world
  | .removalFirst party now => removalFirst party now world
  | .removalSecond party now => removalSecond party now world
  | .removalSettle party => removalSettle party world
  | .removalStops party => some (world.removal party none)
  | .lifecycleAdmit agentId body proof brief now => some { world with
      lifecycle := (LifecycleRequests.admitLifecycle world.tables agentId body proof now brief
        world.lifecycle).1 }
  | .lifecycleClaim environment bridgeId machineId declared now => some { world with
      lifecycle := (LifecycleRequests.claimLifecycleRequests service.iso world.tables environment
        bridgeId machineId declared now world.lifecycle).1 }
  | .launch environment id bridgeId machineId minted now => some { world with
      lifecycle := (LifecycleRequests.prepareLaunch service.launch world.tables environment id
        bridgeId machineId minted now world.lifecycle).1 }
  | .attach environment id body messageId now => some { world with
      lifecycle := (LifecycleRequests.attach world.tables environment id body messageId now
        world.lifecycle).1 }
  | .lifecycleResult environment id body now => some { world with
      lifecycle := (LifecycleRequests.reportLifecycleResult environment id body now
        world.lifecycle).1 }
  | .lifecycleRemoval id now => finishLifecycleRemoval id now world
  | .agentWritten id row => some (world.commit { world.tables with
      agents := world.tables.agents.set id (writtenAgent (world.tables.agents.get? id) row) })
  | .agentRemoved id actor reason now => some (world.removeAgent id actor reason now)
  | .tombstoneCleared id => some (world.commit { world.tables with
      tombstones := world.tables.tombstones.filter fun other => !noCase other id })
  | .terminalWritten id row => some { world with
      lifecycle := { world.lifecycle with
        terminals := writeTerminal id row world.lifecycle.terminals } }

/-! ### What the spawn of created agents does -/

/-- What one owed creation leaves: nothing yet, why nothing was spawned, or its start. -/
inductive SpawnDone (definitions : Dict String Definition) (now : Nat) (state : Spawning)
    (entry : String × DefinitionRequests.Request) : Spawning → Prop where
  | unpublished : SpawnDone definitions now state entry state
  | nothing (why : String) : SpawnDone definitions now state entry { state with
      requests := state.requests.modify entry.1 (settleSpawn (.nothingSpawned why)) }
  | queued (held : Definition) (lifecycle : LifecycleRequests.Requests)
      (found : definitions.get? entry.2.agentId = some held)
      (reported : createdLifetime entry.2 = some held.lifetime)
      (inserted : queueLifecycle state.lifecycle ("spawn-" ++ entry.1)
        (spawnRow entry.1 entry.2 held now) = .ok lifecycle) :
      SpawnDone definitions now state entry {
        requests := state.requests.modify entry.1
          (settleSpawn (.spawnQueued ("spawn-" ++ entry.1)))
        lifecycle := lifecycle
        spawned := state.spawned ++ [⟨entry.1, "spawn-" ++ entry.1, held.lifetime⟩] }

theorem spawnOne_done {definitions : Dict String Definition} {now : Nat} {state next : Spawning}
    {entry : String × DefinitionRequests.Request}
    (spawned : spawnOne definitions now state entry = some next) :
    SpawnDone definitions now state entry next := by
  unfold spawnOne at spawned
  split at spawned
  · cases spawned
    exact .unpublished
  next held found =>
    split at spawned
    · cases spawned
      exact .nothing _
    next reported =>
      dsimp only at spawned
      split at spawned
      · split at spawned
        · cases spawned
        · cases spawned
          exact .nothing _
      next lifecycle inserted =>
        cases spawned
        exact .queued held lifecycle found (not_not.mp reported).symm inserted

/-- A creation of the list that has not been looked at yet is still as the list has it. -/
def StillOwed (list : List (String × DefinitionRequests.Request)) (state : Spawning) : Prop :=
  ∀ entry ∈ list, state.requests.get? entry.1 = some entry.2 ∧ entry.2.status = .done ∧
    entry.2.consequence = .spawnPending

theorem spawn_done_owed {definitions : Dict String Definition} {now : Nat} {state next : Spawning}
    {entry : String × DefinitionRequests.Request}
    {rest : List (String × DefinitionRequests.Request)}
    (distinct : ((entry :: rest).map Prod.fst).Nodup) (owed : StillOwed (entry :: rest) state)
    (done : SpawnDone definitions now state entry next) : StillOwed rest next := by
  intro other member
  obtain ⟨found, status, consequence⟩ := owed other (List.mem_cons_of_mem _ member)
  have differ : other.1 ≠ entry.1 := by
    intro same
    rw [List.map_cons, List.nodup_cons] at distinct
    exact distinct.1 (same ▸ List.mem_map_of_mem member)
  refine ⟨?_, status, consequence⟩
  cases done with
  | unpublished => exact found
  | nothing why => simp only [Dict.get?_modify, if_neg differ, found]
  | queued held lifecycle _ _ _ => simp only [Dict.get?_modify, if_neg differ, found]

/-- What holds of the requests before, and is kept by each owed creation, holds after. -/
theorem spawnAll_invariant {definitions : Dict String Definition} {now : Nat}
    {list : List (String × DefinitionRequests.Request)} {state finish : Spawning}
    (holds : Spawning → Prop) (distinct : (list.map Prod.fst).Nodup) (owed : StillOwed list state)
    (ran : spawnAll definitions now list state = some finish) (initially : holds state)
    (preserved : ∀ before entry after, holds before → before.requests.get? entry.1 = some entry.2 →
      entry.2.status = .done → entry.2.consequence = .spawnPending →
      SpawnDone definitions now before entry after → holds after) : holds finish := by
  induction list generalizing state with
  | nil =>
      cases ran
      exact initially
  | cons entry rest ih =>
      rw [spawnAll, Option.bind_eq_some_iff] at ran
      obtain ⟨next, spawned, remaining⟩ := ran
      have done := spawnOne_done spawned
      obtain ⟨found, status, consequence⟩ := owed entry List.mem_cons_self
      rw [List.map_cons, List.nodup_cons] at distinct
      exact ih distinct.2 (spawn_done_owed (List.nodup_cons.mpr distinct) owed done) remaining
        (preserved state entry next initially found status consequence done)

theorem spawnCreated_invariant {definitions : Dict String Definition} {machineId : String}
    {now : Nat} {state finish : Spawning} (holds : Spawning → Prop)
    (ran : spawnCreated definitions machineId now state = some finish) (initially : holds state)
    (preserved : ∀ before entry after, holds before → before.requests.get? entry.1 = some entry.2 →
      entry.2.status = .done → entry.2.consequence = .spawnPending →
      SpawnDone definitions now before entry after → holds after) : holds finish := by
  refine spawnAll_invariant holds ?_ ?_ ran initially preserved
  · exact (List.Sublist.map Prod.fst List.filter_sublist).nodup state.requests.distinct
  · intro entry member
    obtain ⟨listed, judged⟩ := List.mem_filter.mp member
    simp only [Bool.and_eq_true, decide_eq_true_eq] at judged
    exact ⟨(Dict.get?_eq_some_iff state.requests entry.1 entry.2).mpr listed, judged.1.2, judged.2⟩

theorem spawn_done_keeps {definitions : Dict String Definition} {now : Nat}
    {before after : Spawning} {entry : String × DefinitionRequests.Request}
    (found : before.requests.get? entry.1 = some entry.2) (status : entry.2.status = .done)
    (owing : entry.2.consequence = .spawnPending)
    (done : SpawnDone definitions now before entry after) :
    DefinitionRequests.Keeps before.requests after.requests := by
  cases done with
  | unpublished => exact .refl _
  | nothing why =>
      apply DefinitionRequests.keeps_modify
      intro row present
      rw [found, Option.some.injEq] at present
      subst present
      exact .single (.spawn _ _ status owing (.inr ⟨why, rfl⟩))
  | queued held lifecycle _ _ _ =>
      apply DefinitionRequests.keeps_modify
      intro row present
      rw [found, Option.some.injEq] at present
      subst present
      exact .single (.spawn _ _ status owing (.inl ⟨_, rfl⟩))

theorem spawnCreated_keeps {definitions : Dict String Definition} {machineId : String} {now : Nat}
    {state finish : Spawning} (ran : spawnCreated definitions machineId now state = some finish) :
    DefinitionRequests.Keeps state.requests finish.requests := by
  refine spawnCreated_invariant
    (fun current => DefinitionRequests.Keeps state.requests current.requests) ran (.refl _) ?_
  intro before entry after kept found status owing done
  exact kept.trans (spawn_done_keeps found status owing done)

/-! ### What a step does, table by table -/

/-- What a push leaves: nothing, what its refusal counted, or what it wrote with the starts
it completed. -/
theorem push_committed {service : Service} {environment : Option Environment} {body : Push}
    {switch : Switch} {now : Nat} {world : World} {done : Tables × Except Refusal Result}
    (ran : applyDefinitionPush service.rules (removedIncarnation world.requests) environment body
      switch now world.tables = done) :
    push service environment body switch now world = world ∨
    (∃ refusal, done.2 = .error refusal ∧
      push service environment body switch now world = world.commit done.1) ∨
    ∃ result state, done.2 = .ok result ∧
      spawnCreated done.1.definitions (strip (body.machineId.getD "")) now world.spawning =
        some state ∧
      push service environment body switch now world =
        { (world.commit done.1).spawn state with
          applied := world.applied ++ appliedBy body result } := by
  unfold push
  rw [ran]
  dsimp only
  cases answered : done.2 with
  | error refusal => exact .inr (.inl ⟨refusal, rfl, rfl⟩)
  | ok result =>
      dsimp only
      cases spawned : spawnCreated done.1.definitions (strip (body.machineId.getD "")) now
          world.spawning with
      | none => exact .inl rfl
      | some state => exact .inr (.inr ⟨result, state, rfl, rfl, rfl⟩)

theorem report_committed {environment : Option Environment} {id : String}
    {body : DefinitionRequests.Report} {now : Nat} {world : World}
    {done : DefinitionRequests.Answer (String × DefinitionRequests.Request)}
    (ran : DefinitionRequests.report environment id body now world.requests = done) :
    report environment id body now world = world ∨
    ∃ record state, done.2 = .ok record ∧
      spawnCreated world.tables.definitions record.2.machineId now
        { world.spawning with requests := done.1 } = some state ∧
      report environment id body now world = world.spawn state := by
  unfold report
  rw [ran]
  dsimp only
  cases answered : done.2 with
  | error refusal => exact .inl rfl
  | ok record =>
      dsimp only
      cases spawned : spawnCreated world.tables.definitions record.2.machineId now
          { world.spawning with requests := done.1 } with
      | none => exact .inl rfl
      | some state => exact .inr ⟨record, state, rfl, spawned, rfl⟩

/-- What a removal's transaction leaves: its own phase moves, and at most the agent goes. -/
inductive RemovalMoved (world : World) : World → Prop where
  | phase (party : Nat) (removal : Option Removal) : RemovalMoved world (world.removal party removal)
  | stopped (party : Nat) (id agentId : String) (target : Target) (now : Nat) :
      RemovalMoved world ((world.commit { world.tables with
        agents := world.tables.agents.modify agentId fun row => { row with lastSeen := now } }).removal
          party (some (.stopping id target)))
  | deleted (party : Nat) (id agentId actor reason : String) (now : Nat) :
      RemovalMoved world ((world.removeAgent agentId actor reason now).removal party
        (some (.finished id "")))

theorem deleteAgent_moved (world : World) (party : Nat) (id : String) (target : Target) (now : Nat) :
    RemovalMoved world (world.deleteAgent party id target now) := by
  unfold World.deleteAgent
  split
  · exact .phase party _
  · exact .deleted party id _ _ _ now

theorem removalFirst_moved {party now : Nat} {world after : World}
    (taken : removalFirst party now world = some after) : RemovalMoved world after := by
  unfold removalFirst at taken
  split at taken
  · dsimp only at taken
    split at taken
    · cases taken
      exact .phase party _
    split at taken
    · cases taken
      exact .stopped party _ _ _ now
    · cases taken
      exact deleteAgent_moved world party _ _ now
  · cases taken

theorem removalSecond_moved {party now : Nat} {world after : World}
    (taken : removalSecond party now world = some after) : RemovalMoved world after := by
  unfold removalSecond at taken
  split at taken
  · dsimp only at taken
    split at taken
    · cases taken
      exact .phase party _
    · cases taken
      exact deleteAgent_moved world party _ _ now
  · cases taken

theorem RemovalMoved.requests {world after : World} (moved : RemovalMoved world after) :
    after.requests = world.requests := by
  cases moved <;> rfl

theorem RemovalMoved.lifecycle {world after : World} (moved : RemovalMoved world after) :
    after.lifecycle.requests = world.lifecycle.requests ∧
      after.lifecycle.launches = world.lifecycle.launches ∧
      after.lifecycle.opened = world.lifecycle.opened ∧
      after.lifecycle.handed = world.lifecycle.handed ∧ after.spawned = world.spawned := by
  cases moved <;> exact ⟨rfl, rfl, rfl, rfl, rfl⟩

theorem beginRemoval_some {party : Nat} {id : String} {world after : World}
    (taken : beginRemoval party id world = some after) :
    ∃ row, world.requests.get? id = some row ∧ row.consequence = .pending ∧
      after = world.removal party (some (.begun id row.toTarget)) := by
  unfold beginRemoval at taken
  split at taken
  next row _ found =>
    rw [Option.ite_none_right_eq_some] at taken
    cases taken.2
    exact ⟨row, found, taken.1, rfl⟩
  · cases taken

theorem removalSettle_some {party : Nat} {world after : World}
    (taken : removalSettle party world = some after) :
    ∃ id why, world.removals party = some (.finished id why) ∧
      after = { world.removal party none with
        requests := DefinitionRequests.settleRemoval id why world.requests } := by
  unfold removalSettle at taken
  split at taken
  next id why found =>
    cases taken
    exact ⟨id, why, found, rfl⟩
  · cases taken

theorem finishLifecycleRemoval_some {id : String} {now : Nat} {world after : World}
    (taken : finishLifecycleRemoval id now world = some after) :
    after = world ∨ ∃ row, world.lifecycle.requests.get? id = some row ∧
      removalRefusal world.tables row.toTarget = "" ∧
      after = world.removeAgent row.agentId row.requestedBy "definition_removed" now := by
  unfold finishLifecycleRemoval at taken
  split at taken
  next row found =>
    split at taken
    · split at taken
      · cases taken
        exact .inl rfl
      next fenced =>
        split at taken
        · cases taken
          exact .inl rfl
        · cases taken
          exact .inr ⟨row, found, not_not.mp fenced, rfl⟩
    · cases taken
  · cases taken

/-- What a step other than a spawn does to the lifecycle requests: its rows move, or one is
asked for. -/
inductive LifecycleMoved (before after : LifecycleRequests.Requests) : Prop where
  | moved (rows : LifecycleRequests.Proceeds before after)
      (none : ∀ id, before.get? id = none → after.get? id = none)
  | asked (id agentId requestedBy : String) (action : LifecycleRequests.Action)
      (lifetime : Option String) (revision : Option Nat) (fresh : Bool)
      (row : LifecycleRequests.Request) (queued : queueLifecycle before id row = .ok after)
      (waits : row.status = .pending)
      (intent : row.intent = .asked agentId action requestedBy lifetime revision fresh)

theorem lifecycle_same (requests : LifecycleRequests.Requests) : LifecycleMoved requests requests :=
  .moved (LifecycleRequests.Proceeds.refl requests) fun _ absent => absent

/-- A transaction that spawned what its report or its push completed. -/
structure SpawnedBy (before after : World) (definitions : Dict String Definition)
    (machineId : String) (now : Nat) (start finish : Spawning) : Prop where
  ran : spawnCreated definitions machineId now start = some finish
  kept : DefinitionRequests.Keeps before.requests start.requests
  lifecycle : start.lifecycle = before.lifecycle.requests
  spawned : start.spawned = before.spawned
  requestsAfter : after.requests = finish.requests
  lifecycleAfter : after.lifecycle = { before.lifecycle with requests := finish.lifecycle }
  spawnedAfter : after.spawned = finish.spawned

/-- A step writes the lifecycle tables itself and spawns nothing, or spawns. -/
def LifecycleStep (before after : World) : Prop :=
  LifecycleMoved before.lifecycle.requests after.lifecycle.requests ∧
      LifecycleRequests.LaunchesProceed before.lifecycle after.lifecycle ∧
      after.spawned = before.spawned ∨
    ∃ definitions machineId now start finish,
      SpawnedBy before after definitions machineId now start finish

theorem lifecycle_unchanged {before after : World}
    (requests : after.lifecycle.requests = before.lifecycle.requests)
    (launches : after.lifecycle.launches = before.lifecycle.launches)
    (opened : after.lifecycle.opened = before.lifecycle.opened)
    (handed : after.lifecycle.handed = before.lifecycle.handed)
    (spawned : after.spawned = before.spawned) : LifecycleStep before after := by
  refine .inl ⟨?_, LifecycleRequests.launches_same launches opened handed, spawned⟩
  rw [requests]
  exact lifecycle_same _

theorem push_lifecycle (service : Service) (environment : Option Environment) (body : Push)
    (switch : Switch) (now : Nat) (world : World) :
    LifecycleStep world (push service environment body switch now world) := by
  generalize ran : applyDefinitionPush service.rules (removedIncarnation world.requests) environment
    body switch now world.tables = done
  rcases push_committed ran with same | ⟨_, _, same⟩ | ⟨_, state, _, spawned, same⟩ <;> rw [same]
  · exact lifecycle_unchanged rfl rfl rfl rfl rfl
  · exact lifecycle_unchanged rfl rfl rfl rfl rfl
  · exact .inr ⟨_, _, _, _, state, spawned, .refl _, rfl, rfl, rfl, rfl, rfl⟩

theorem report_lifecycle (environment : Option Environment) (id : String)
    (body : DefinitionRequests.Report) (now : Nat) (world : World) :
    LifecycleStep world (report environment id body now world) := by
  have kept := DefinitionRequests.report_keeps environment id body now world.requests
  generalize ran : DefinitionRequests.report environment id body now world.requests = done at kept
  rcases report_committed ran with same | ⟨_, state, _, spawned, same⟩ <;> rw [same]
  · exact lifecycle_unchanged rfl rfl rfl rfl rfl
  · exact .inr ⟨_, _, _, _, state, spawned, kept, rfl, rfl, rfl, rfl, rfl⟩

theorem removalMoved_lifecycle {before after : World} (moved : RemovalMoved before after) :
    LifecycleStep before after := by
  obtain ⟨requests, launches, opened, handed, spawned⟩ := moved.lifecycle
  exact lifecycle_unchanged requests launches opened handed spawned

theorem step_lifecycle {service : Service} {before after : World} {label : Label}
    (taken : step service before label = some after) : LifecycleStep before after := by
  cases label with
  | push environment body switch now =>
      obtain rfl := Option.some.inj taken
      exact push_lifecycle service environment body switch now before
  | report environment id body now =>
      obtain rfl := Option.some.inj taken
      exact report_lifecycle environment id body now before
  | beginRemoval party id =>
      obtain ⟨row, _, _, rfl⟩ := beginRemoval_some taken
      exact lifecycle_unchanged rfl rfl rfl rfl rfl
  | removalFirst party now => exact removalMoved_lifecycle (removalFirst_moved taken)
  | removalSecond party now => exact removalMoved_lifecycle (removalSecond_moved taken)
  | removalSettle party =>
      obtain ⟨id, why, _, rfl⟩ := removalSettle_some taken
      exact lifecycle_unchanged rfl rfl rfl rfl rfl
  | lifecycleRemoval id now =>
      rcases finishLifecycleRemoval_some taken with rfl | ⟨row, _, _, rfl⟩ <;>
        exact lifecycle_unchanged rfl rfl rfl rfl rfl
  | lifecycleAdmit agentId body proof brief now =>
      obtain rfl := Option.some.inj taken
      rcases LifecycleRequests.admitLifecycle_cases before.tables agentId body proof now brief
          before.lifecycle with same | ⟨id, action, held, requests, queued, same⟩ <;> rw [same]
      · exact lifecycle_unchanged rfl rfl rfl rfl rfl
      · exact .inl ⟨.asked id _ _ action _ _ _ _ queued rfl rfl,
          LifecycleRequests.launches_same rfl rfl rfl, rfl⟩
  | lifecycleClaim environment bridgeId machineId declared now =>
      obtain rfl := Option.some.inj taken
      obtain ⟨requests, proceeds, none, same⟩ := LifecycleRequests.claim_proceeds service.iso
        before.tables environment bridgeId machineId declared now before.lifecycle
      rw [same]
      exact .inl ⟨.moved proceeds none, LifecycleRequests.launches_same rfl rfl rfl, rfl⟩
  | launch environment id bridgeId machineId minted now =>
      obtain rfl := Option.some.inj taken
      rcases LifecycleRequests.prepareLaunch_cases service.launch before.tables environment id
          bridgeId machineId minted now before.lifecycle with same | ⟨absent, row, request, launch, same⟩
      · rw [same]
        exact lifecycle_unchanged rfl rfl rfl rfl rfl
      · rw [same]
        exact .inl ⟨lifecycle_same _,
          LifecycleRequests.openLaunch_proceeds absent row bridgeId request launch minted now, rfl⟩
  | attach environment id body messageId now =>
      obtain rfl := Option.some.inj taken
      rcases LifecycleRequests.attach_cases before.tables environment id body messageId now
          before.lifecycle with same | ⟨request, prepared, receipt, found, unattached, same⟩
      · rw [same]
        exact lifecycle_unchanged rfl rfl rfl rfl rfl
      · rw [same]
        exact .inl ⟨lifecycle_same _, LifecycleRequests.recordAttachment_proceeds found unattached
          request receipt body messageId now, rfl⟩
  | lifecycleResult environment id body now =>
      obtain rfl := Option.some.inj taken
      rcases LifecycleRequests.reportLifecycleResult_cases environment id body now
          before.lifecycle with same | ⟨row, found, claimed, terminal, same⟩
      · rw [same]
        exact lifecycle_unchanged rfl rfl rfl rfl rfl
      · rw [same]
        obtain ⟨requests, launches, opened, handed⟩ := LifecycleRequests.settleUnstarted_frame id body
          now { before.lifecycle with
            requests := before.lifecycle.requests.modify id
              (LifecycleRequests.recordResult (LifecycleRequests.settledOf row body)) }
        refine .inl ⟨?_, LifecycleRequests.launches_same launches opened handed, rfl⟩
        dsimp only
        rw [requests]
        refine .moved (LifecycleRequests.result_proceeds found claimed terminal) ?_
        intro other absent
        dsimp only
        rw [Dict.get?_modify, absent]
        split <;> rfl
  | _ =>
      obtain rfl := Option.some.inj taken
      exact lifecycle_unchanged rfl rfl rfl rfl rfl

/-! ### One host and one agent -/

def coderAgent : Agent :=
  ⟨"coder", "coder", "codex", "managed", "/srv/app", "", "", "", [], true, none⟩

def coderDigest : String := "4615ac09718d392270816eaff3ba7be25a71488873921014a2b8198efca7ca1a"

def coderEntry (incarnation : Nat) : Entry :=
  .valid ⟨"coder", incarnation, 1, true, "", coderDigest, coderAgent⟩

/-- The rules and digests, at the one agent and its snapshots. -/
def devboxRules : Rules where
  agentProblems _ _ := []
  definitionDigest _ := coderDigest
  snapshotDigest entries :=
    if entries = [] then "4f53cda18c2baa0c0354bb5f9a3ecbe5ed12ab4d8e11ba873c2f11161202b945"
    else if entries = [coderEntry 1] then
      "f53637ec16b6f856033aac991c4ed1517e584299e7b341072ccc2b7f9ed8659b"
    else "1c357d5ebcc01e3fa009e82692792205e2c6b6c2ce099aa2d6bf2d949281db9a"

def devbox : Service where
  rules := devboxRules
  launch :=
    { online := fun _ => true
      supports := fun _ runtime => decide (runtime = "codex")
      workspaceFor := fun _ workspace => .ok workspace
      consoleArgv := fun _ _ _ _ => ["codex"]
      launchEnv := fun _ _ _ _ _ _ => [] }
  iso := toString

def devboxEnvironment : Environment := ⟨"env-1", "bridge-1", "devbox"⟩

def pushBody (storeId : String) (revision : Nat) (entries : List Entry) : Push :=
  ⟨some "bridge-1", some "devbox", some storeId, some (devboxRules.snapshotDigest entries),
    some revision, some entries⟩

def pushes (storeId : String) (revision : Nat) (entries : List Entry) (now : Nat) : Label :=
  .push (some devboxEnvironment) (pushBody storeId revision entries) (fun _ => none) now

def claims (now : Nat) : Label := .claim (some devboxEnvironment) "bridge-1" "devbox" now

def reportsDone (id : String) (incarnation now : Nat) : Label :=
  .report (some devboxEnvironment) id
    ⟨"bridge-1", "devbox", some .done, some "done", some incarnation, some 1⟩ now

/-- The operator asks for the removal of the agent, and the host claims the request. -/
def asksRemoval (id : String) (now : Nat) : List Label :=
  [.admission "coder" .remove (some "dashboard") id now, claims (now + 1)]

end AifyComms.DefinitionService
