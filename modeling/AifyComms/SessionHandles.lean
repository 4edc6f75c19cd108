import AifyComms.SpawnRequests
import Mathlib.Logic.Function.Basic

/-!
The routes that give an agent a session handle: the PATCH of
`routers/agents/session_handle.py`, the confirm of `routers/agents/session_lease.py`
and a spawn's running report, with `_session_handle_live_owner` of
`api_core/agent_sessions.py`.

A PATCH reads its agent's row, then the owners of the handle, then writes: three
steps, each on the last commit, the write holding the lock to its commit. The
confirm and the report hold it from their first read and are one step. Which
bridges may report, the auto-confirm setting and whether a terminal started fresh
are inputs. A beat moves an agent's `last_seen`, the clock moves by itself.
-/

namespace AifyComms.SessionHandles
open PyText Runs SpawnRequests

/-! ### Handles and their owners -/

structure Agent where
  sessionHandle : String
  pendingSessionId : String
  lastSeen : Nat
  sessionMode : String
  statusNote : String
  deriving DecidableEq

def isNameStart (c : Char) : Bool := c.isAlpha || c = '_'

def isNameChar (c : Char) : Bool := c.isAlphanum || c = '_'

/-- The characters from a variable's name on: `[A-Za-z_][A-Za-z0-9_]*\}?\Z`. -/
def isVariable : List Char → Bool
  | [] => false
  | first :: rest => isNameStart first &&
      (rest.all isNameChar || (decide (rest.getLast? = some '}') && rest.dropLast.all isNameChar))

/-- `_SHELL_PLACEHOLDER_HANDLE_RE`. -/
def isPlaceholder (handle : String) : Bool :=
  match handle.toList with
  | '$' :: '{' :: rest => isVariable rest
  | '$' :: rest => isVariable rest
  | _ => false

/-- `_sanitize_session_handle`. -/
def sanitizeSessionHandle (handle : String) : String :=
  if isPlaceholder (strip handle) then "" else strip handle

/-- `max(60, int(lease_seconds or 150))`. -/
def cutoff (lease : Nat) : Nat := max 60 (if lease = 0 then 150 else lease)

/-- A `last_seen` that cannot be read is 0. -/
def live (lease now : Nat) (agent : Agent) : Bool :=
  decide (agent.lastSeen ≠ 0) && decide (now - agent.lastSeen ≤ cutoff lease)

/-- Another agent, live, that holds exactly this handle. -/
def heldElsewhere (lease now : Nat) (handle agentId : String) (entry : String × Agent) : Bool :=
  decide (entry.2.sessionHandle = handle) && decide (entry.1 ≠ agentId) && live lease now entry.2

/-- `_session_handle_live_owner`: the owner and its mode. -/
def sessionHandleLiveOwner (agents : Dict String Agent) (lease now : Nat) (handle agentId : String) :
    Option (String × String) :=
  if strip handle = "" then none
  else (agents.entries.find? (heldElsewhere lease now (strip handle) agentId)).map fun entry =>
    (entry.1, entry.2.sessionMode)

/-! ### The requests -/

/-- A PATCH after its first read. -/
structure Patch where
  agentId : String
  handle : String
  requestedBy : String
  persisted : String
  now : Nat

/-- What a PATCH goes on to write. `seen` are the clock and the rows its owner
query read, where it asked. -/
inductive Phase where
  | read (patch : Patch)
  | refusing (patch : Patch) (owner : String × String)
  | parking (patch : Patch)
  | binding (patch : Patch) (seen : Option (Nat × List (String × Agent)))

structure World where
  clock : Nat
  agents : Dict String Agent
  patches : Nat → Option Phase
  spawns : Nat → Option (Order × Row)

def initial (clock : Nat) (agents : Dict String Agent) (spawns : Nat → Option (Order × Row)) : World :=
  ⟨clock, agents, fun _ => none, spawns⟩

def heartbeat (patch : Patch) : Bool := decide (strip patch.requestedBy = "bridge-heartbeat")

/-- The handle differs from the one the agent had at the first read. -/
def asksOwner (patch : Patch) : Bool :=
  decide (patch.handle ≠ "") && decide (patch.handle ≠ patch.persisted)

/-- The first read of a PATCH. A handle too long is refused, as is an agent that
is not there; a heartbeat of a bridge that may not report is ignored. -/
def openPatch (world : World) (agentId sessionHandle requestedBy : String) (mayReport : Bool) :
    Option Patch :=
  if 512 < (sanitizeSessionHandle sessionHandle).length then none
  else (world.agents.get? agentId).bind fun agent =>
    let patch : Patch := ⟨agentId, sanitizeSessionHandle sessionHandle, requestedBy,
      strip agent.sessionHandle, world.clock⟩
    if heartbeat patch && !mayReport then none else some patch

/-- The owner query and what follows from it. -/
def checkOwner (lease : Nat) (world : World) (patch : Patch) (autoConfirm freshStart : Bool) : Phase :=
  match (if asksOwner patch then
      sessionHandleLiveOwner world.agents lease world.clock patch.handle patch.agentId else none) with
  | some owner => .refusing patch owner
  | none =>
      if heartbeat patch && asksOwner patch && decide (patch.persisted ≠ "") &&
          (!autoConfirm || freshStart) then .parking patch
      else .binding patch (if asksOwner patch then some (world.clock, world.agents.entries) else none)

def callerName (patch : Patch) : String := orElse patch.requestedBy "an unnamed caller"

/-- `_refuse_colliding_session_handle`. -/
def refuseColliding (patch : Patch) (owner : String × String) (agent : Agent) : Agent :=
  { agent with
    pendingSessionId := patch.handle
    statusNote := "session-collision: reported id '" ++ patch.handle ++
      "' is already owned by live agent '" ++ owner.1 ++ "' (" ++ owner.2 ++
      "); kept own handle. Two live agents must not share one session id."
    lastSeen := patch.now }

/-- `_park_pending_session_handle_change`. -/
def parkPending (patch : Patch) (agent : Agent) : Agent :=
  { agent with
    pendingSessionId := patch.handle
    statusNote := "session-changed: reported id '" ++ patch.handle ++ "' differs from pinned '" ++
      patch.persisted ++ "'. Confirm new or keep current."
    lastSeen := patch.now }

def bindHandle (patch : Patch) (agent : Agent) : Agent :=
  { agent with
    sessionHandle := patch.handle
    pendingSessionId := ""
    statusNote := (if patch.handle = "" then "Session handle cleared by " else "Session handle set by ") ++
      callerName patch ++ "."
    lastSeen := patch.now }

/-- The UPDATE of a PATCH: the agent's row may be gone. -/
def writePatch (agents : Dict String Agent) : Phase → Option (Dict String Agent)
  | .read _ => none
  | .refusing patch owner => some (agents.modify patch.agentId (refuseColliding patch owner))
  | .parking patch => some (agents.modify patch.agentId (parkPending patch))
  | .binding patch _ => some (agents.modify patch.agentId (bindHandle patch))

/-- `confirm_agent_session`. -/
def confirmAgentSession (lease clock : Nat) (agents : Dict String Agent) (agentId requestedBy : String) :
    Option (Dict String Agent) :=
  match agents.get? agentId with
  | none => none
  | some agent =>
      let pending := strip agent.pendingSessionId
      if pending = "" then none
      else match sessionHandleLiveOwner agents lease clock pending agentId with
        | some _ => none
        | none => some (agents.set agentId { agent with
            sessionHandle := pending
            pendingSessionId := ""
            statusNote := "session-changed resolved: re-pinned to '" ++ pending ++ "' by " ++
              orElse requestedBy "operator" ++ "."
            lastSeen := clock })

/-- The agent row of a running report, as far as handles go. -/
def spawnAgent (handle : String) (clock : Nat) (agent : Option Agent) : Agent where
  sessionHandle := handle
  pendingSessionId := agent.elim "" Agent.pendingSessionId
  lastSeen := clock
  sessionMode := "managed"
  statusNote := agent.elim "" Agent.statusNote

/-- A report: the agent row it leaves where it is a running one. -/
def reportSpawn (world : World) (order : Order) (row : Row) (report : Report) (context : Context) :
    Except (Nat × String) (Dict String Agent × Row) :=
  match admission order row report context with
  | .error refusal => .error refusal
  | .ok (status, _) =>
      .ok (if status = .running then world.agents.set order.agentId
          (spawnAgent (effectiveHandle row report) world.clock (world.agents.get? order.agentId))
        else world.agents, writeRow row status report context)

def seenAt (clock : Nat) (agent : Agent) : Agent := { agent with lastSeen := clock }

inductive Label where
  | patch (request : Nat) (agentId sessionHandle requestedBy : String) (mayReport : Bool)
  | check (request : Nat) (autoConfirm freshStart : Bool)
  | write (request : Nat)
  | confirm (agentId requestedBy : String)
  | report (spawn : Nat) (report : Report) (context : Context)
  | beat (agentId : String)
  | tick (seconds : Nat)

def step (lease : Nat) (world : World) : Label → Option World
  | .patch request agentId sessionHandle requestedBy mayReport =>
      if (world.patches request).isSome then none
      else (openPatch world agentId sessionHandle requestedBy mayReport).map fun patch =>
        { world with patches := Function.update world.patches request (some (.read patch)) }
  | .check request autoConfirm freshStart =>
      match world.patches request with
      | some (.read patch) => some { world with
          patches := Function.update world.patches request
            (some (checkOwner lease world patch autoConfirm freshStart)) }
      | _ => none
  | .write request =>
      (world.patches request).bind fun phase =>
        (writePatch world.agents phase).map fun agents => { world with
          agents := agents, patches := Function.update world.patches request none }
  | .confirm agentId requestedBy =>
      (confirmAgentSession lease world.clock world.agents agentId requestedBy).map fun agents =>
        { world with agents := agents }
  | .report spawn report context =>
      (world.spawns spawn).bind fun request =>
        match reportSpawn world request.1 request.2 report context with
        | .ok (agents, row) => some { world with
            agents := agents
            spawns := Function.update world.spawns spawn (some (request.1, row)) }
        | .error _ => none
  | .beat agentId => some { world with
      agents := world.agents.modify agentId (seenAt world.clock) }
  | .tick seconds => some { world with clock := world.clock + seconds }

/-! ### Adopting a free handle -/

def holds (agents : Dict String Agent) (agentId handle : String) : Bool :=
  (agents.get? agentId).any fun agent => decide (agent.sessionHandle = handle)

/-- No other agent holds the handle live. -/
def free (lease now : Nat) (agents : Dict String Agent) (handle agentId : String) : Bool :=
  agents.entries.all fun entry => !heldElsewhere lease now handle agentId entry

/-- Every other holder of the handle is as the query read it: it held the handle
then and has not been seen since. -/
def unmoved (agents : Dict String Agent) (handle agentId : String) (seen : List (String × Agent)) :
    Bool :=
  agents.entries.all fun entry => decide (entry.1 = agentId) ||
    decide (entry.2.sessionHandle ≠ handle) || seen.any fun old =>
      decide (old.1 = entry.1 ∧ old.2.sessionHandle = handle ∧ old.2.lastSeen = entry.2.lastSeen)

/-- A write gives its agent no handle, or one it holds, or one that nobody took up
or was seen with since the write's owner query; where the route asks nobody, one
that is free. -/
def adoptsFree (lease : Nat) (world : World) : Label → Bool
  | .write request =>
      match world.patches request with
      | some (.binding patch seen) =>
          decide (patch.handle = "") || holds world.agents patch.agentId patch.handle ||
            match seen with
            | some query => unmoved world.agents patch.handle patch.agentId query.2
            | none => free lease world.clock world.agents patch.handle patch.agentId
      | _ => true
  | .report spawn report _ =>
      match world.spawns spawn with
      | some (order, row) =>
          decide (requested report ≠ some .running) || decide (effectiveHandle row report = "") ||
            holds world.agents order.agentId (effectiveHandle row report) ||
            free lease world.clock world.agents (effectiveHandle row report) order.agentId
      | none => true
  | _ => true

def AdoptsFree (lease : Nat) (world : World) (label : Label) : Prop :=
  adoptsFree lease world label = true

/-- A commit adopts no handle that another live agent holds. -/
def SharesNothing (lease : Nat) (before after : World) : Prop :=
  ∀ agentId agent, after.agents.get? agentId = some agent → agent.sessionHandle ≠ "" →
    holds before.agents agentId agent.sessionHandle = false →
    ∀ other holder, after.agents.get? other = some holder → other ≠ agentId →
      holder.sessionHandle = agent.sessionHandle → live lease after.clock holder = false

theorem live_expired {lease now later : Nat} {agent : Agent} (passed : now ≤ later)
    (expired : live lease now agent = false) : live lease later agent = false := by
  simp only [live, Bool.and_eq_false_iff, decide_eq_false_iff_not, not_not, Nat.not_le] at expired ⊢
  omega

theorem heldElsewhere_eq_false {lease now : Nat} {handle agentId : String} {entry : String × Agent} :
    heldElsewhere lease now handle agentId entry = false ↔
      (entry.2.sessionHandle = handle → entry.1 ≠ agentId → live lease now entry.2 = false) := by
  simp only [heldElsewhere, Bool.and_eq_false_iff, decide_eq_false_iff_not, not_not]
  tauto

theorem free_iff {lease now : Nat} {agents : Dict String Agent} {handle agentId : String} :
    free lease now agents handle agentId = true ↔ ∀ other holder, agents.get? other = some holder →
      holder.sessionHandle = handle → other ≠ agentId → live lease now holder = false := by
  simp only [free, List.all_eq_true, Bool.not_eq_true', heldElsewhere_eq_false, Prod.forall,
    Dict.get?_eq_some_iff]

theorem sanitizeSessionHandle_stripped (handle : String) :
    strip (sanitizeSessionHandle handle) = sanitizeSessionHandle handle := by
  unfold sanitizeSessionHandle
  split
  · decide
  · exact strip_strip handle

/-- The owner query that finds nobody. -/
theorem liveOwner_none {agents : Dict String Agent} {lease now : Nat} {handle agentId : String}
    (given : handle ≠ "") (stripped : strip handle = handle)
    (nobody : sessionHandleLiveOwner agents lease now handle agentId = none) :
    ∀ entry ∈ agents.entries, heldElsewhere lease now handle agentId entry = false := by
  rw [sessionHandleLiveOwner, stripped, if_neg given, Option.map_eq_none_iff,
    List.find?_eq_none] at nobody
  intro entry inside
  exact Bool.eq_false_iff.mpr (nobody entry inside)

theorem free_of_nobody {agents : Dict String Agent} {lease now : Nat} {handle agentId : String}
    (nobody : ∀ entry ∈ agents.entries, heldElsewhere lease now handle agentId entry = false) :
    free lease now agents handle agentId = true := by
  simp only [free, List.all_eq_true, Bool.not_eq_true']
  exact nobody

/-- A handle nobody held live at the query is free while its holders stay unmoved. -/
theorem free_of_unmoved {agents : Dict String Agent} {lease asked now : Nat}
    {handle agentId : String} {seen : List (String × Agent)} (passed : asked ≤ now)
    (nobody : ∀ entry ∈ seen, heldElsewhere lease asked handle agentId entry = false)
    (still : unmoved agents handle agentId seen = true) :
    free lease now agents handle agentId = true := by
  apply free_of_nobody
  intro entry inside
  rw [heldElsewhere_eq_false]
  intro same differs
  simp only [unmoved, List.all_eq_true, Bool.or_eq_true, decide_eq_true_eq, List.any_eq_true]
    at still
  rcases still entry inside with (own | other) | ⟨old, read, sameId, sameHandle, sameSeen⟩
  · exact absurd own differs
  · exact absurd same other
  · have expired := heldElsewhere_eq_false.1 (nobody old read) sameHandle (sameId ▸ differs)
    have later := live_expired passed expired
    simpa only [live, sameSeen] using later

/-! ### One write -/

/-- One agent's row is written, with a handle that is none, its own or free. -/
structure SetsFree (lease : Nat) (before after : World) (agentId handle : String) : Prop where
  clock : after.clock = before.clock
  others : ∀ other, other ≠ agentId → after.agents.get? other = before.agents.get? other
  own : ∀ agent, after.agents.get? agentId = some agent → agent.sessionHandle = handle
  allowed : handle = "" ∨ holds before.agents agentId handle = true ∨
    free lease before.clock before.agents handle agentId = true

theorem SetsFree.shares {lease : Nat} {before after : World} {owner handle : String}
    (setsFree : SetsFree lease before after owner handle) : SharesNothing lease before after := by
  intro agentId agent present nonempty adopted other holder held differs same
  by_cases own : agentId = owner
  · subst own
    have is := setsFree.own agent present
    rw [is] at nonempty adopted same
    rw [setsFree.others other differs] at held
    rw [setsFree.clock]
    rcases setsFree.allowed with none' | holding | isFree
    · exact absurd none' nonempty
    · rw [holding] at adopted
      cases adopted
    · exact free_iff.1 isFree other holder held same differs
  · rw [setsFree.others agentId own] at present
    -- The row of any other agent is as it was.
    simp [holds, present] at adopted

/-- A step that leaves every handle adopts none. -/
theorem SharesNothing.of_kept {lease : Nat} {before after : World}
    (kept : ∀ agentId agent, after.agents.get? agentId = some agent →
      holds before.agents agentId agent.sessionHandle = true) : SharesNothing lease before after := by
  intro agentId agent present _ adopted
  rw [kept agentId agent present] at adopted
  cases adopted

theorem holds_self {agents : Dict String Agent} {agentId : String} {agent : Agent}
    (present : agents.get? agentId = some agent) :
    holds agents agentId agent.sessionHandle = true := by
  simp [holds, present]

/-- An UPDATE that leaves the handle of its row leaves every handle. -/
theorem SharesNothing.of_modify {lease : Nat} {before after : World} {change : Agent → Agent}
    {owner : String} (is : after.agents = before.agents.modify owner change)
    (keeps : ∀ agent, (change agent).sessionHandle = agent.sessionHandle) :
    SharesNothing lease before after := by
  apply SharesNothing.of_kept
  intro agentId agent present
  rw [is, Dict.get?_modify] at present
  split at present
  · obtain ⟨old, found, rfl⟩ := Option.map_eq_some_iff.mp present
    rw [keeps]
    exact holds_self found
  · exact holds_self present

/-! ### Every run -/

/-- An admitted PATCH carries a stripped handle, and its owner query found nobody. -/
structure Asked (lease : Nat) (world : World) : Prop where
  reading : ∀ request patch, world.patches request = some (.read patch) →
    strip patch.handle = patch.handle
  found : ∀ request patch asked seen, world.patches request = some (.binding patch (some (asked, seen))) →
    asked ≤ world.clock ∧
      ∀ entry ∈ seen, heldElsewhere lease asked patch.handle patch.agentId entry = false

/-- A request changes phase; the clock may have moved. -/
theorem Asked.enter {lease : Nat} {world : World} (asked : Asked lease world) (request : Nat)
    (phase : Option Phase) {clock : Nat} (passed : world.clock ≤ clock)
    (reading : ∀ patch, phase = some (.read patch) → strip patch.handle = patch.handle)
    (found : ∀ patch at' seen, phase = some (.binding patch (some (at', seen))) → at' ≤ clock ∧
      ∀ entry ∈ seen, heldElsewhere lease at' patch.handle patch.agentId entry = false)
    (agents : Dict String Agent) (spawns : Nat → Option (Order × Row)) :
    Asked lease ⟨clock, agents, Function.update world.patches request phase, spawns⟩ := by
  constructor
  · intro other patch holds
    obtain ⟨_, entered⟩ | old := update_some holds
    · exact reading patch entered
    · exact asked.reading other patch old
  · intro other patch at' seen holds
    obtain ⟨_, entered⟩ | old := update_some holds
    · exact found patch at' seen entered
    · obtain ⟨before, nobody⟩ := asked.found other patch at' seen old
      exact ⟨Nat.le_trans before passed, nobody⟩

theorem Asked.later {lease : Nat} {world : World} (asked : Asked lease world) {clock : Nat}
    (passed : world.clock ≤ clock) (agents : Dict String Agent)
    (spawns : Nat → Option (Order × Row)) :
    Asked lease ⟨clock, agents, world.patches, spawns⟩ where
  reading := asked.reading
  found := fun request patch at' seen holds =>
    ⟨Nat.le_trans (asked.found request patch at' seen holds).1 passed,
      (asked.found request patch at' seen holds).2⟩

theorem openPatch_stripped {world : World} {agentId sessionHandle requestedBy : String}
    {mayReport : Bool} {patch : Patch}
    (opened : openPatch world agentId sessionHandle requestedBy mayReport = some patch) :
    strip patch.handle = patch.handle := by
  simp only [openPatch, Option.ite_none_left_eq_some, Option.bind_eq_some_iff,
    Option.some.injEq] at opened
  obtain ⟨_, agent, _, _, rfl⟩ := opened
  simp only [sanitizeSessionHandle_stripped]

theorem checkOwner_asked {lease : Nat} {world : World} {patch other : Patch}
    {autoConfirm freshStart : Bool} {at' : Nat} {seen : List (String × Agent)}
    (stripped : strip patch.handle = patch.handle)
    (binds : checkOwner lease world patch autoConfirm freshStart = .binding other (some (at', seen))) :
    at' ≤ world.clock ∧
      ∀ entry ∈ seen, heldElsewhere lease at' other.handle other.agentId entry = false := by
  unfold checkOwner at binds
  split at binds
  · cases binds
  · next nobody =>
      split at binds
      · cases binds
      · obtain ⟨rfl, asks⟩ := Phase.binding.inj binds
        rw [Option.ite_none_right_eq_some, Option.some.injEq, Prod.mk.injEq] at asks
        obtain ⟨asks, rfl, rfl⟩ := asks
        rw [if_pos asks] at nobody
        have given : patch.handle ≠ "" := by
          simp only [asksOwner, Bool.and_eq_true, decide_eq_true_eq] at asks
          exact asks.1
        exact ⟨Nat.le_refl _, liveOwner_none given stripped nobody⟩

theorem checkOwner_not_read {lease : Nat} {world : World} {patch other : Patch}
    {autoConfirm freshStart : Bool} :
    checkOwner lease world patch autoConfirm freshStart ≠ .read other := by
  unfold checkOwner
  split
  · rintro ⟨⟩
  · split <;> rintro ⟨⟩

theorem step_asked {lease : Nat} {before after : World} {label : Label} (asked : Asked lease before)
    (taken : step lease before label = some after) : Asked lease after := by
  cases label with
  | patch request agentId sessionHandle requestedBy mayReport =>
      simp only [step, Option.ite_none_left_eq_some, Option.map_eq_some_iff] at taken
      obtain ⟨_, patch, opened, rfl⟩ := taken
      apply asked.enter request _ (Nat.le_refl _)
      · rintro other ⟨⟩
        exact openPatch_stripped opened
      · rintro other at' seen ⟨⟩
  | check request autoConfirm freshStart =>
      simp only [step] at taken
      split at taken
      · next patch reading =>
          cases taken
          apply asked.enter request _ (Nat.le_refl _)
          · intro other is
            exact absurd (Option.some.inj is) checkOwner_not_read
          · intro other at' seen is
            exact checkOwner_asked (asked.reading request patch reading) (Option.some.inj is)
      · cases taken
  | write request =>
      simp only [step, Option.bind_eq_some_iff, Option.map_eq_some_iff] at taken
      obtain ⟨phase, _, agents, _, rfl⟩ := taken
      apply asked.enter request none (Nat.le_refl _)
      · rintro patch ⟨⟩
      · rintro patch at' seen ⟨⟩
  | confirm agentId requestedBy =>
      simp only [step, Option.map_eq_some_iff] at taken
      obtain ⟨agents, _, rfl⟩ := taken
      exact asked.later (Nat.le_refl _) agents before.spawns
  | report spawn report context =>
      simp only [step, Option.bind_eq_some_iff] at taken
      obtain ⟨request, _, taken⟩ := taken
      split at taken
      · cases taken
        exact asked.later (Nat.le_refl _) _ _
      · cases taken
  | beat agentId =>
      cases taken
      exact asked.later (Nat.le_refl _) _ _
  | tick seconds =>
      cases taken
      exact asked.later (Nat.le_add_right _ _) _ _

/-- The write of a PATCH that binds its handle. -/
theorem bind_shares {lease : Nat} {world : World} {patch : Patch}
    {seen : Option (Nat × List (String × Agent))} {request : Nat} (asked : Asked lease world)
    (binding : world.patches request = some (.binding patch seen))
    (allowed : AdoptsFree lease world (.write request)) {patches : Nat → Option Phase} :
    SharesNothing lease world ⟨world.clock, world.agents.modify patch.agentId (bindHandle patch),
      patches, world.spawns⟩ := by
  have writes : SetsFree lease world ⟨world.clock,
      world.agents.modify patch.agentId (bindHandle patch), patches, world.spawns⟩
      patch.agentId patch.handle := by
    constructor
    · rfl
    · intro other differs
      exact (Dict.get?_modify ..).trans (if_neg differs)
    · intro agent present
      rw [Dict.get?_modify, if_pos rfl, Option.map_eq_some_iff] at present
      obtain ⟨old, _, rfl⟩ := present
      rfl
    · simp only [AdoptsFree, adoptsFree, binding, Bool.or_eq_true, decide_eq_true_eq] at allowed
      rcases allowed with (none' | own) | isFree
      · exact .inl none'
      · exact .inr (.inl own)
      · right
        right
        cases seen with
        | none => exact isFree
        | some query =>
            obtain ⟨passed, nobody⟩ := asked.found request patch query.1 query.2 binding
            exact free_of_unmoved passed nobody isFree
  exact writes.shares

/-- A row set to a handle that is none, its own or free. -/
theorem set_shares {lease : Nat} {world : World} {agentId : String} {agent : Agent}
    (allowed : agent.sessionHandle = "" ∨ holds world.agents agentId agent.sessionHandle = true ∨
      free lease world.clock world.agents agent.sessionHandle agentId = true)
    {spawns : Nat → Option (Order × Row)} : SharesNothing lease world
      ⟨world.clock, world.agents.set agentId agent, world.patches, spawns⟩ := by
  have writes : SetsFree lease world ⟨world.clock, world.agents.set agentId agent, world.patches,
      spawns⟩ agentId agent.sessionHandle := by
    constructor
    · rfl
    · intro other differs
      exact Dict.get?_set_ne _ _ (Ne.symm differs)
    · intro row present
      rw [Dict.get?_set_self] at present
      rw [Option.some.inj present]
    · exact allowed
  exact writes.shares

theorem confirm_shares {lease : Nat} {world : World} {agents : Dict String Agent}
    {agentId requestedBy : String}
    (confirmed : confirmAgentSession lease world.clock world.agents agentId requestedBy = some agents) :
    SharesNothing lease world { world with agents := agents } := by
  unfold confirmAgentSession at confirmed
  split at confirmed
  · cases confirmed
  · next agent found =>
      rw [Option.ite_none_left_eq_some] at confirmed
      obtain ⟨given, confirmed⟩ := confirmed
      split at confirmed
      · cases confirmed
      · next nobody =>
          cases confirmed
          apply set_shares
          exact .inr (.inr (free_of_nobody (liveOwner_none given (strip_strip _) nobody)))

/-- A running report's agent row is set to the handle the condition judged. -/
theorem report_shares {lease : Nat} {world : World} {spawn : Nat} {order : Order} {row newRow : Row}
    {report : Report} {context : Context} {agents : Dict String Agent}
    (present : world.spawns spawn = some (order, row))
    (reported : reportSpawn world order row report context = .ok (agents, newRow))
    (allowed : AdoptsFree lease world (.report spawn report context))
    {spawns : Nat → Option (Order × Row)} :
    SharesNothing lease world { world with agents := agents, spawns := spawns } := by
  unfold reportSpawn at reported
  split at reported
  · cases reported
  · next status spec admitted =>
      cases reported
      obtain ⟨asked, _, _⟩ := admission_ok admitted
      split
      · next running =>
          apply set_shares
          simp only [AdoptsFree, adoptsFree, present, asked, running, ne_eq, not_true_eq_false,
            decide_false, Bool.false_or, Bool.or_eq_true, decide_eq_true_eq] at allowed
          rcases allowed with (none' | own) | isFree
          · exact .inl none'
          · exact .inr (.inl own)
          · exact .inr (.inr isFree)
      · exact SharesNothing.of_kept fun _ _ held => holds_self held

theorem step_shares {lease : Nat} {before after : World} {label : Label} (asked : Asked lease before)
    (allowed : AdoptsFree lease before label) (taken : step lease before label = some after) :
    SharesNothing lease before after := by
  cases label with
  | patch request agentId sessionHandle requestedBy mayReport =>
      simp only [step, Option.ite_none_left_eq_some, Option.map_eq_some_iff] at taken
      obtain ⟨_, patch, _, rfl⟩ := taken
      exact SharesNothing.of_kept fun _ _ present => holds_self present
  | check request autoConfirm freshStart =>
      simp only [step] at taken
      split at taken
      · cases taken
        exact SharesNothing.of_kept fun _ _ present => holds_self present
      · cases taken
  | write request =>
      simp only [step, Option.bind_eq_some_iff, Option.map_eq_some_iff] at taken
      obtain ⟨phase, held, agents, written, rfl⟩ := taken
      cases phase with
      | read patch => cases written
      | refusing patch owner =>
          cases written
          exact SharesNothing.of_modify rfl fun _ => rfl
      | parking patch =>
          cases written
          exact SharesNothing.of_modify rfl fun _ => rfl
      | binding patch seen =>
          cases written
          exact bind_shares asked held allowed
  | confirm agentId requestedBy =>
      simp only [step, Option.map_eq_some_iff] at taken
      obtain ⟨agents, confirmed, rfl⟩ := taken
      exact confirm_shares confirmed
  | report spawn report context =>
      simp only [step, Option.bind_eq_some_iff] at taken
      obtain ⟨⟨order, row⟩, present, taken⟩ := taken
      split at taken
      · next agents newRow reported =>
          cases taken
          exact report_shares present reported allowed
      · cases taken
  | beat agentId =>
      cases taken
      exact SharesNothing.of_modify rfl fun _ => rfl
  | tick seconds =>
      cases taken
      exact SharesNothing.of_kept fun _ _ present => holds_self present

/-- **In every run of PATCHes, confirms, running reports and beats whose writes
meet the condition, no commit gives an agent a handle that another live agent
holds.** -/
theorem handles_adopted_free (lease clock : Nat) (agents : Dict String Agent)
    (spawns : Nat → Option (Order × Row)) (before after : World) (label : Label)
    (reached : Reaches (step lease) (AdoptsFree lease) (initial clock agents spawns) before)
    (allowed : AdoptsFree lease before label) (taken : step lease before label = some after) :
    SharesNothing lease before after := by
  have asked : Asked lease before := by
    apply reached.invariant (Asked lease)
    · constructor
      · rintro _ _ ⟨⟩
      · rintro _ _ _ _ ⟨⟩
    · exact fun _ _ _ asked _ taken => step_asked asked taken
  exact step_shares asked allowed taken

/-! ### Two agents and one handle -/

def agentWith (handle : String) (lastSeen : Nat) : Agent := ⟨handle, "", lastSeen, "resident", ""⟩

/-- `lead` was last seen at 1000 with a handle, `coder` has none. -/
def twoAgents : Dict String Agent :=
  (Dict.empty.set "lead" (agentWith "h1" 1000)).set "coder" (agentWith "" 1000)

def coderSpawn (spawn : Nat) : Option (Order × Row) :=
  if spawn = 0 then some (coderOrder, { queuedRow with status := .claimed, claimedByBridgeId := "env-1" })
  else none

structure Held where
  agentId : String
  handle : String
  live : Bool
  deriving DecidableEq

def heldBy (world : World) (agentId : String) : Option Held :=
  (world.agents.get? agentId).map fun agent =>
    ⟨agentId, agent.sessionHandle, live 150 world.clock agent⟩

def bothHandles (world : World) : List (Option Held) := [heldBy world "lead", heldBy world "coder"]

/-- `coder` asks for the handle of the live `lead`, and again once `lead` is no
longer seen. -/
def askedInTurn : List Label :=
  [.patch 1 "coder" "h1" "dashboard" true, .check 1 true false, .write 1, .tick 200,
    .patch 2 "coder" "h1" "dashboard" true, .check 2 true false]

theorem expired_handle_adopted :
    ∃ before after, Reaches (step 150) (AdoptsFree 150) (initial 1000 twoAgents coderSpawn) before ∧
      step 150 before (.write 2) = some after ∧
      bothHandles before = [some ⟨"lead", "h1", false⟩, some ⟨"coder", "", false⟩] ∧
      bothHandles after = [some ⟨"lead", "h1", false⟩, some ⟨"coder", "h1", true⟩] ∧
      SharesNothing 150 before after := by
  have first : (exec (step 150) (adoptsFree 150) (initial 1000 twoAgents coderSpawn)
      askedInTurn).map bothHandles =
      some [some ⟨"lead", "h1", false⟩, some ⟨"coder", "", false⟩] := by decide
  have second : (exec (step 150) (adoptsFree 150) (initial 1000 twoAgents coderSpawn)
      (askedInTurn ++ [Label.write 2])).map bothHandles =
      some [some ⟨"lead", "h1", false⟩, some ⟨"coder", "h1", true⟩] := by decide
  obtain ⟨before, after, reached, allowed, taken, handlesBefore, handlesAfter⟩ :=
    reaches_last _ _ _ _ _ _ (fun _ _ granted => granted) first second
  exact ⟨before, after, reached, taken, handlesBefore, handlesAfter,
    handles_adopted_free 150 1000 twoAgents coderSpawn before after (.write 2) reached allowed taken⟩

/-- `lead` binds the handle between `coder`'s owner query and its UPDATE. -/
def askedTogether : List Label :=
  [.patch 1 "lead" "h2" "dashboard" true, .check 1 true false,
    .patch 2 "coder" "h2" "dashboard" true, .check 2 true false, .write 1]

def spawnReport : Label :=
  .report 0 ⟨"running", some "env-1", none, some "h1", none, []⟩ (contextAt 1000 "a" "m")

theorem shared_of_handles {before after : World} {handle : String} {wasLive isLive : Bool}
    (old : bothHandles before = [some ⟨"lead", handle, true⟩, some ⟨"coder", "", wasLive⟩])
    (new : bothHandles after = [some ⟨"lead", handle, true⟩, some ⟨"coder", handle, isLive⟩])
    (given : handle ≠ "") : ¬ SharesNothing 150 before after := by
  simp only [bothHandles, heldBy, List.cons.injEq, Option.map_eq_some_iff, Held.mk.injEq, true_and,
    and_true] at old new
  obtain ⟨_, agent, found, none', _⟩ := old
  obtain ⟨⟨holder, lead, held, seen⟩, adopter, coder, adopted, _⟩ := new
  intro shares
  have expired := shares "coder" adopter coder (by rw [adopted]; exact given)
    (by simp [holds, found, none', adopted, Ne.symm given]) "lead" holder lead (by decide)
    (held.trans adopted.symm)
  rw [seen] at expired
  cases expired

/-- By a PATCH that lost a race, and by a running report, `coder` is given the
handle of the live `lead`. -/
theorem live_handle_shared :
    (∃ before after, Reaches (step 150) anyStep (initial 1000 twoAgents coderSpawn) before ∧
      step 150 before (.write 2) = some after ∧ ¬ SharesNothing 150 before after) ∧
    (∃ before after, Reaches (step 150) anyStep (initial 1000 twoAgents coderSpawn) before ∧
      step 150 before spawnReport = some after ∧ ¬ SharesNothing 150 before after) := by
  have raced : (exec (step 150) (fun _ _ => true) (initial 1000 twoAgents coderSpawn)
      askedTogether).map bothHandles =
      some [some ⟨"lead", "h2", true⟩, some ⟨"coder", "", true⟩] := by decide
  have bound : (exec (step 150) (fun _ _ => true) (initial 1000 twoAgents coderSpawn)
      (askedTogether ++ [Label.write 2])).map bothHandles =
      some [some ⟨"lead", "h2", true⟩, some ⟨"coder", "h2", true⟩] := by decide
  have idle : (exec (step 150) (fun _ _ => true) (initial 1000 twoAgents coderSpawn)
      []).map bothHandles =
      some [some ⟨"lead", "h1", true⟩, some ⟨"coder", "", true⟩] := by decide
  have reported : (exec (step 150) (fun _ _ => true) (initial 1000 twoAgents coderSpawn)
      ([] ++ [spawnReport])).map bothHandles =
      some [some ⟨"lead", "h1", true⟩, some ⟨"coder", "h1", true⟩] := by decide
  constructor
  · obtain ⟨before, after, reached, _, taken, old, new⟩ :=
      reaches_last _ _ _ _ _ _ (fun _ _ _ => trivial) raced bound
    exact ⟨before, after, reached, taken, shared_of_handles old new (by decide)⟩
  · obtain ⟨before, after, reached, _, taken, old, new⟩ :=
      reaches_last _ _ _ _ _ _ (fun _ _ _ => trivial) idle reported
    exact ⟨before, after, reached, taken, shared_of_handles old new (by decide)⟩

end AifyComms.SessionHandles
