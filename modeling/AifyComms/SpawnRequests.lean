import AifyComms.Dict
import AifyComms.PyText
import AifyComms.Runs

/-!
One spawn request from its claim to its end: `update_spawn_request` of
`routers/spawn_requests.py`, `_settle_running_spawn` and
`_hand_settled_spawn_to_dispatch` of `api_core/running_spawn.py`, the claim of
`api_core/spawn_requests_io.py` and the stop of `api_core/agent_sessions.py`.

Each of them holds SQLite's write lock from its first read to its commit, so each
is one step. Terminals, bridge rows, capabilities and telemetry are left out; the
host's proof and the wrapper setting are inputs, as are the ids that are minted.
-/

namespace AifyComms.SpawnRequests
open PyText Runs

/-! ### The rows -/

inductive Status where
  | queued
  | claimed
  | starting
  | running
  | failed
  | cancelled
  deriving DecidableEq

def Status.name : Status → String
  | .queued => "queued"
  | .claimed => "claimed"
  | .starting => "starting"
  | .running => "running"
  | .failed => "failed"
  | .cancelled => "cancelled"

/-- `SPAWN_REQUEST_PATCHABLE_STATUSES`: nothing moves a request back to unclaimed. -/
def patchableStatuses : List Status := [.claimed, .starting, .running, .failed, .cancelled]

def finals : List Status := [.failed, .cancelled]

/-- The columns of the request that no report writes. -/
structure Order where
  id : String
  spawnSpecId : String
  agentId : String
  role : String
  name : String
  runtime : String
  workspace : String
  createdBy : String
  subject : String
  initialMessage : String
  priority : String
  mode : String

structure Row where
  status : Status
  claimedByBridgeId : String
  claimMachineId : String
  claimedAt : Option Nat
  processId : String
  sessionHandle : String
  sessionId : String
  error : String
  startedAt : Option Nat
  finishedAt : Option Nat
  updatedAt : Nat
  deriving DecidableEq

structure Spec where
  model : String
  standingInstructions : String
  runtimeConfig : String

structure Agent where
  role : String
  name : String
  cwd : String
  model : String
  instructions : String
  status : String
  statusNote : String
  runtime : String
  machineId : String
  launchMode : String
  sessionMode : String
  sessionHandle : String
  managedBy : String
  runtimeConfig : String
  runtimeState : List (String × String)
  lastSeen : Nat

structure Session where
  id : String
  runtime : String
  workspace : String
  mode : String
  ownerBridgeId : String
  processId : String
  sessionHandle : String
  spawnRequestId : String
  status : String
  startedAt : Nat
  lastSeen : Nat
  endedAt : Option Nat

/-- The brief as `messages` stores it. -/
structure Brief where
  id : String
  fromAgent : String
  toAgent : String
  subject : String
  body : String
  priority : String
  timestamp : Nat

/-- The call to `_create_dispatch_runs` for a brief. -/
structure Dispatch where
  targetAgent : String
  messageId : String
  executionMode : String
  requestedRuntime : String

/-- `used` are the session ids that running reports have used. -/
structure World where
  row : Row
  agent : Option Agent
  sessions : List Session
  briefs : List Brief
  dispatches : List Dispatch
  used : List String

/-- `SpawnRequestUpdate`. -/
structure Report where
  status : String
  bridgeId : Option String
  processId : Option String
  sessionHandle : Option String
  error : Option String
  runtimeState : List (String × String)

/-- What a request finds or mints besides the rows. -/
structure Context where
  now : Nat
  sessionSuffix : String
  messageId : String
  proofRefusal : Option String
  spec : Option Spec
  defined : Bool
  wrapperBacked : Bool

/-! ### A report -/

/-- `value or fallback`. -/
def orElse (value fallback : String) : String := if value = "" then fallback else value

def requested (report : Report) : Option Status :=
  patchableStatuses.find? fun status => status.name = normalise report.status

def fromClaimer (row : Row) (report : Report) : Bool :=
  decide (row.claimedByBridgeId = "") || decide (row.claimedByBridgeId = report.bridgeId.getD "")

/-- The checks that precede every write: the status asked for and the spec. -/
def admission (order : Order) (row : Row) (report : Report) (context : Context) :
    Except (Nat × String) (Status × Spec) :=
  match requested report with
  | none => .error (400, "Unsupported spawn request status \"" ++ report.status ++ "\"")
  | some status =>
      if row.status ∈ finals ∧ status ≠ row.status then
        .error (409, "Spawn request \"" ++ order.id ++ "\" is already " ++ row.status.name ++
          "; late bridge update \"" ++ status.name ++ "\" was ignored.")
      else if !fromClaimer row report then
        .error (409, "Spawn request \"" ++ order.id ++ "\" is claimed by another bridge")
      else match context.proofRefusal with
        | some refusal => .error (403, refusal)
        | none =>
            match context.spec with
            | none => .error (500, "Spawn spec \"" ++ order.spawnSpecId ++ "\" missing")
            | some spec => .ok (status, spec)

def mintedSession (context : Context) : String := "sess_" ++ context.sessionSuffix

/-- `session_id or f"sess_…"`. -/
def sessionFor (row : Row) (context : Context) : String := orElse row.sessionId (mintedSession context)

def effectiveHandle (row : Row) (report : Report) : String :=
  orElse (report.sessionHandle.getD "") row.sessionHandle

/-- `_runtime_state_with_handle`. -/
def runtimeStateWithHandle (runtime : String) (state : List (String × String)) (handle : String) :
    List (String × String) :=
  if strip handle = "" then state
  else if normalise runtime = "codex" then Dict.setEntry "threadId" (strip handle) state
  else Dict.setEntry "sessionId" (strip handle) state

def runtimeState (order : Order) (row : Row) (report : Report) : List (String × String) :=
  let named := if report.bridgeId.getD "" = "" then report.runtimeState
    else Dict.setEntry "bridgeInstanceId" (report.bridgeId.getD "") report.runtimeState
  runtimeStateWithHandle order.runtime named (effectiveHandle row report)

/-- The agent row of the spawn. A defined agent keeps its descriptive columns, a
claim that named no machine keeps the one on the row. -/
def upsertAgent (order : Order) (row : Row) (report : Report) (context : Context) (spec : Spec)
    (agent : Option Agent) : Agent where
  role := (agent.filter fun _ => context.defined).elim (orElse order.role "coder") Agent.role
  name := (agent.filter fun _ => context.defined).elim (orElse order.name order.agentId) Agent.name
  cwd := order.workspace
  model := spec.model
  instructions :=
    (agent.filter fun _ => context.defined).elim spec.standingInstructions Agent.instructions
  status := "idle"
  statusNote := agent.elim "" Agent.statusNote
  runtime := order.runtime
  machineId := orElse row.claimMachineId (agent.elim "" Agent.machineId)
  launchMode := "managed"
  sessionMode := "managed"
  sessionHandle := effectiveHandle row report
  managedBy := orElse order.createdBy "dashboard"
  runtimeConfig := spec.runtimeConfig
  runtimeState := runtimeState order row report
  lastSeen := context.now

/-- `_upsert_running_agent_session`. -/
def upsertSession (order : Order) (row : Row) (report : Report) (context : Context)
    (startedAt : Option Nat) (sessions : List Session) : List Session :=
  let new : Session := ⟨sessionFor row context, order.runtime, order.workspace,
    orElse order.mode "managed-warm", orElse (report.bridgeId.getD "") row.claimedByBridgeId,
    report.processId.getD "", effectiveHandle row report, order.id, "running",
    startedAt.getD context.now, context.now, none⟩
  if sessions.any (·.id = new.id) then
    sessions.map fun session => if session.id = new.id then
      { new with spawnRequestId := session.spawnRequestId, startedAt := session.startedAt }
    else session
  else sessions ++ [new]

def liveSessions : List String := ["starting", "running", "recovering", "restarting"]

/-- Every other live session of the agent ends. -/
def endOthers (sessionId : String) (now : Nat) (sessions : List Session) : List Session :=
  sessions.map fun session =>
    if session.id ≠ sessionId ∧ session.status ∈ liveSessions then
      { session with
        status := "ended"
        endedAt := some (session.endedAt.getD now)
        lastSeen := session.endedAt.getD session.lastSeen }
    else session

/-- `_hand_settled_spawn_to_dispatch`. -/
def handSettledSpawnToDispatch (order : Order) (context : Context) (world : World) : World :=
  let sender := orElse order.createdBy "dashboard"
  { world with
    briefs := world.briefs ++ [⟨context.messageId, sender, order.agentId,
      orElse order.subject ("Spawn " ++ order.agentId), order.initialMessage,
      orElse order.priority "normal", context.now⟩]
    dispatches := world.dispatches ++ [⟨order.agentId, context.messageId,
      if context.wrapperBacked then "channel" else "managed", order.runtime⟩] }

def hasBrief (order : Order) : Bool := decide (strip order.initialMessage ≠ "")

/-- `_settle_running_spawn`. The brief is handed over by the report that finds
the request not yet running. -/
def settleRunningSpawn (order : Order) (spec : Spec) (report : Report) (context : Context)
    (startedAt : Option Nat) (world : World) : World :=
  let sessionId := sessionFor world.row context
  let settled : World := { world with
    agent := some (upsertAgent order world.row report context spec world.agent)
    sessions := endOthers sessionId context.now
      (upsertSession order world.row report context startedAt world.sessions)
    used := world.used ++ [sessionId] }
  if world.row.status ≠ .running ∧ hasBrief order = true then
    handSettledSpawnToDispatch order context settled
  else settled

def startedAt (row : Row) (status : Status) (now : Nat) : Option Nat :=
  if status = .starting ∧ row.startedAt = none then some now else row.startedAt

/-- The UPDATE that ends a report. -/
def writeRow (row : Row) (status : Status) (report : Report) (context : Context) : Row :=
  if row.status ∈ finals then row
  else { row with
    status := status
    processId := orElse (report.processId.getD "") row.processId
    sessionHandle := effectiveHandle row report
    sessionId := if status = .running then sessionFor row context else row.sessionId
    error := report.error.getD ""
    updatedAt := context.now
    startedAt := startedAt row status context.now
    finishedAt := if status ∈ finals then some context.now else row.finishedAt }

def updateSpawnRequest (order : Order) (report : Report) (context : Context) (world : World) :
    Except (Nat × String) World :=
  match admission order world.row report context with
  | .error refusal => .error refusal
  | .ok (status, spec) =>
      let settled := if status = .running then
          settleRunningSpawn order spec report context (startedAt world.row status context.now) world
        else world
      .ok { settled with row := writeRow world.row status report context }

/-! ### Claims and stops -/

/-- `_claim_spawn_request_once` where it takes this request. -/
def claim (bridgeId machineId : String) (now : Nat) (row : Row) : Row :=
  if row.status = .queued then
    { row with
      status := .claimed, claimedByBridgeId := bridgeId, claimMachineId := machineId
      claimedAt := some now, updatedAt := now }
  else row

def pending : List Status := [.queued, .claimed, .starting]

def stopText (sessionId : String) (takeover : Bool) : String :=
  "Session \"" ++ sessionId ++ "\" was " ++
    (if takeover then "paused for CLI takeover" else "stopped from the dashboard") ++
    " before spawn completed."

def takeoverNote : String :=
  "Paused for direct CLI takeover. Launch the agent's CLI under its *-aify launcher to drive this session; an agent no host defines is not restarted from the dashboard (define it in aify-env to have it managed again)."

def residentStopNote : String :=
  "Resident session stop requested from dashboard; live bridge should terminate the CLI host."

def stopAgent (takeover : Bool) (now : Nat) (agent : Agent) : Agent :=
  if takeover then
    { agent with status := "stopped", statusNote := takeoverNote, launchMode := "none", lastSeen := now }
  else if normalise agent.sessionMode ≠ "managed" then
    { agent with
      status := "stopped", statusNote := residentStopNote, launchMode := "none", lastSeen := now }
  else
    { agent with status := if agent.status = "stopped" then "stopped" else "offline", lastSeen := now }

/-- The stop or the takeover of one of the agent's sessions: `control_session` and
`_settle_agent_for_session_control`. -/
def stop (sessionId : String) (takeover : Bool) (now : Nat) (world : World) : World :=
  { world with
    row := if world.row.status ∈ pending then
        { world.row with
          status := .cancelled, error := stopText sessionId takeover
          finishedAt := some now, updatedAt := now }
      else world.row
    agent := world.agent.map (stopAgent takeover now)
    sessions := world.sessions.map fun session =>
      if session.id = sessionId then
        { session with
          status := if takeover then "cli-takeover" else "stopped"
          lastSeen := now
          endedAt := if takeover then session.endedAt else some now }
      else session }

inductive Label where
  | report (report : Report) (context : Context)
  | claim (bridgeId machineId : String) (now : Nat)
  | stop (sessionId : String) (takeover : Bool) (now : Nat)

def step (order : Order) (world : World) : Label → Option World
  | .report report context =>
      match updateSpawnRequest order report context world with
      | .ok after => some after
      | .error _ => some world
  | .claim bridgeId machineId now =>
      some { world with row := claim bridgeId machineId now world.row }
  | .stop sessionId takeover now => some (stop sessionId takeover now world)

def queuedRow : Row := ⟨.queued, "", "", none, "", "", "", "", none, none, 0⟩

def initial (agent : Option Agent) (sessions : List Session) : World :=
  ⟨queuedRow, agent, sessions, [], [], []⟩

/-! ### One report -/

theorem orElse_of_ne {value : String} (given : value ≠ "") (fallback : String) :
    orElse value fallback = value := if_neg given

theorem mintedSession_ne (context : Context) : mintedSession context ≠ "" := by
  intro empty
  have letters := congrArg String.toList empty
  rw [mintedSession, String.toList_append, String.toList_empty, List.append_eq_nil_iff] at letters
  exact absurd letters.1 (by decide)

theorem sessionFor_ne (row : Row) (context : Context) : sessionFor row context ≠ "" := by
  unfold sessionFor orElse
  split
  · exact mintedSession_ne context
  · assumption

theorem requested_patchable {report : Report} {status : Status}
    (asked : requested report = some status) : status ∈ patchableStatuses :=
  List.mem_of_find?_eq_some asked

theorem admission_ok {order : Order} {row : Row} {report : Report} {context : Context} {status : Status}
    {spec : Spec} (admitted : admission order row report context = .ok (status, spec)) :
    requested report = some status ∧ (row.status ∈ finals → status = row.status) ∧
      fromClaimer row report = true := by
  unfold admission at admitted
  split at admitted
  · cases admitted
  · next asked =>
      split at admitted
      · cases admitted
      · next kept =>
          split at admitted
          · cases admitted
          · next claimer =>
              split at admitted
              · cases admitted
              · split at admitted
                · cases admitted
                · cases admitted
                  refine ⟨asked, fun final => ?_, by simpa using claimer⟩
                  by_contra differs
                  exact kept ⟨final, differs⟩

/-- What an accepted report leaves, with what it settles on the way. -/
theorem updateSpawnRequest_ok {order : Order} {report : Report} {context : Context}
    {world after : World} (updated : updateSpawnRequest order report context world = .ok after) :
    ∃ status spec, requested report = some status ∧ fromClaimer world.row report = true ∧
      (world.row.status ∈ finals → status = world.row.status) ∧
      after = { (if status = .running then settleRunningSpawn order spec report context
        (startedAt world.row status context.now) world else world) with
          row := writeRow world.row status report context } := by
  unfold updateSpawnRequest at updated
  split at updated
  · cases updated
  · next status spec admitted =>
      obtain ⟨asked, final, claimer⟩ := admission_ok admitted
      exact ⟨status, spec, asked, claimer, final, (Except.ok.inj updated).symm⟩

theorem writeRow_final {row : Row} (final : row.status ∈ finals) (status : Status) (report : Report)
    (context : Context) : writeRow row status report context = row := if_pos final

/-- A report on a failed or cancelled request changes nothing at all. -/
theorem step_report_final {order : Order} {world after : World} {report : Report}
    {context : Context} (final : world.row.status ∈ finals)
    (taken : step order world (.report report context) = some after) : after = world := by
  dsimp only [step] at taken
  split at taken
  · next result updated =>
      cases taken
      obtain ⟨status, spec, _, _, same, rfl⟩ := updateSpawnRequest_ok updated
      have notRunning : status ≠ .running := by
        rintro rfl
        rw [← same final] at final
        exact absurd final (by decide)
      rw [if_neg notRunning, writeRow_final final]
  · cases taken
    rfl

/-! ### Every run -/

/-- The claimer reports `claimed` or `starting` of a running request that carries
a brief. -/
def stepsBack (order : Order) (row : Row) (report : Report) : Bool :=
  hasBrief order && decide (row.status = .running) && fromClaimer row report &&
    (requested report).any fun status => decide (status = .claimed ∨ status = .starting)

def neverStepsBack (order : Order) (world : World) : Label → Bool
  | .report report _ => !stepsBack order world.row report
  | _ => true

def NeverStepsBack (order : Order) (world : World) (label : Label) : Prop :=
  neverStepsBack order world label = true

def begun : List Status := [.running, .failed, .cancelled]

/-- The brief is out only once the request runs or has ended, and every running
report used the session the row names. -/
structure Once (order : Order) (world : World) : Prop where
  dispatched : world.dispatches.length = world.briefs.length
  once : world.briefs.length ≤ 1
  handed : world.briefs ≠ [] → hasBrief order = true ∧ world.row.status ∈ begun
  used : ∀ id ∈ world.used, id = world.row.sessionId ∧ id ≠ ""

/-- A change of the row that keeps its session and does not undo a start. -/
theorem Once.setRow {order : Order} {world : World} (once : Once order world) {row : Row}
    (session : row.sessionId = world.row.sessionId)
    (kept : hasBrief order = true → world.row.status ∈ begun → row.status ∈ begun)
    (agent : Option Agent) (sessions : List Session) :
    Once order { world with row := row, agent := agent, sessions := sessions } where
  dispatched := once.dispatched
  once := once.once
  handed := fun out => ⟨(once.handed out).1, kept (once.handed out).1 (once.handed out).2⟩
  used := by
    intro id inside
    dsimp only at inside ⊢
    rw [session]
    exact once.used id inside

theorem Once.claim {order : Order} {world : World} (once : Once order world)
    (bridgeId machineId : String) (now : Nat) :
    Once order { world with row := claim bridgeId machineId now world.row } := by
  unfold SpawnRequests.claim
  split
  · next queued =>
      refine once.setRow (by rfl) (fun _ begins => ?_) _ _
      rw [queued] at begins
      exact absurd begins (by decide)
  · exact once

theorem Once.stop {order : Order} {world : World} (once : Once order world) (sessionId : String)
    (takeover : Bool) (now : Nat) : Once order (stop sessionId takeover now world) := by
  unfold SpawnRequests.stop
  split
  · have ended : Status.cancelled ∈ begun := by decide
    exact once.setRow (by rfl) (fun _ _ => ended) _ _
  · exact once.setRow rfl (fun _ begins => begins) _ _

/-- The session of a running report is the one every earlier one used. -/
theorem Once.sessionFor {order : Order} {world : World} (once : Once order world)
    (context : Context) {id : String} (inside : id ∈ world.used) :
    id = sessionFor world.row context := by
  obtain ⟨rfl, given⟩ := once.used id inside
  exact (orElse_of_ne given _).symm

/-- A running report hands the brief over only from a state in which it has not
been handed over. -/
theorem Once.settle {order : Order} {world : World} (once : Once order world) (spec : Spec)
    (report : Report) (context : Context) (started : Option Nat) (row : Row)
    (open' : world.row.status ∉ finals) (running : row.status = .running)
    (session : row.sessionId = SpawnRequests.sessionFor world.row context) :
    Once order { settleRunningSpawn order spec report context started world with row := row } := by
  have used : ∀ id ∈ world.used ++ [SpawnRequests.sessionFor world.row context],
      id = row.sessionId ∧ id ≠ "" := by
    intro id inside
    rw [session]
    rcases List.mem_append.mp inside with old | new
    · exact ⟨once.sessionFor context old, (once.used id old).2⟩
    · obtain rfl := List.mem_singleton.mp new
      exact ⟨rfl, sessionFor_ne world.row context⟩
  have begins : row.status ∈ begun := by
    rw [running]
    decide
  unfold settleRunningSpawn
  split
  · next due =>
      have unhanded : world.briefs = [] := by
        by_contra out
        have status := (once.handed out).2
        simp only [begun, finals, List.mem_cons, List.not_mem_nil, or_false, not_or] at status open'
        rcases status with is | is | is
        · exact due.1 is
        · exact open'.1 is
        · exact open'.2 is
      have none' : world.dispatches = [] := by
        have lengths := once.dispatched
        rw [unhanded] at lengths
        exact List.length_eq_zero_iff.mp lengths
      constructor
      · simp [handSettledSpawnToDispatch, unhanded, none']
      · simp [handSettledSpawnToDispatch, unhanded]
      · exact fun _ => ⟨due.2, begins⟩
      · exact used
  · exact ⟨once.dispatched, once.once, fun out => ⟨(once.handed out).1, begins⟩, used⟩

theorem Once.report {order : Order} {world after : World} (once : Once order world)
    {report : Report} {context : Context} (allowed : stepsBack order world.row report = false)
    (updated : updateSpawnRequest order report context world = .ok after) : Once order after := by
  obtain ⟨status, spec, asked, claimer, same, rfl⟩ := updateSpawnRequest_ok updated
  by_cases final : world.row.status ∈ finals
  · have notRunning : status ≠ .running := by
      rintro rfl
      rw [← same final] at final
      exact absurd final (by decide)
    rw [if_neg notRunning, writeRow_final final]
    exact once
  · by_cases running : status = .running
    · rw [if_pos running]
      apply once.settle _ _ _ _ _ final
      · simp [writeRow, final, running]
      · simp [writeRow, final, running]
    · rw [if_neg running]
      apply once.setRow
      · simp [writeRow, final, running]
      · intro brief begins
        have wasRunning : world.row.status = .running := by
          simp only [begun, finals, List.mem_cons, List.not_mem_nil, or_false, not_or]
            at begins final
          exact begins.resolve_right fun ended => ended.elim final.1 final.2
        -- From running only an end is left: the other statuses would step back.
        simp only [stepsBack, brief, wasRunning, claimer, asked, decide_true, Bool.and_self,
          Bool.true_and, Option.any_some, decide_eq_false_iff_not, not_or] at allowed
        have patchable := requested_patchable asked
        simp only [writeRow, final, if_false]
        cases status with
        | queued => exact absurd patchable (by decide)
        | claimed => exact absurd rfl allowed.1
        | starting => exact absurd rfl allowed.2
        | running => exact absurd rfl running
        | failed => decide
        | cancelled => decide

theorem step_once {order : Order} {before after : World} {label : Label}
    (once : Once order before) (allowed : NeverStepsBack order before label)
    (taken : step order before label = some after) : Once order after := by
  cases label with
  | report report context =>
      dsimp only [step] at taken
      split at taken
      · next result updated =>
          cases taken
          exact once.report (by simpa [NeverStepsBack, neverStepsBack] using allowed) updated
      · cases taken
        exact once
  | claim bridgeId machineId now =>
      cases taken
      exact once.claim bridgeId machineId now
  | stop sessionId takeover now =>
      cases taken
      exact once.stop sessionId takeover now

/-- **In every run of reports, claims and stops in which no report takes a running
request back, the brief is stored and dispatched at most once, all running reports
use one session, and a failed or cancelled request is changed by no report.** -/
theorem spawn_becomes_agent_once (order : Order) (agent : Option Agent) (sessions : List Session)
    (world : World)
    (reached : Reaches (step order) (NeverStepsBack order) (initial agent sessions) world) :
    world.briefs.length ≤ 1 ∧ world.dispatches.length ≤ 1 ∧
      (∀ left ∈ world.used, ∀ right ∈ world.used, left = right) ∧
      (world.row.status ∈ finals → ∀ report context after,
        step order world (.report report context) = some after → after = world) := by
  have once : Once order world := by
    apply reached.invariant (Once order)
    · constructor
      · rfl
      · exact Nat.zero_le _
      · exact fun out => absurd rfl out
      · rintro _ ⟨⟩
    · exact fun _ _ _ once allowed taken => step_once once allowed taken
  refine ⟨once.once, once.dispatched ▸ once.once, ?_, ?_⟩
  · intro left inLeft right inRight
    rw [(once.used left inLeft).1, (once.used right inRight).1]
  · exact fun final _ _ _ taken => step_report_final final taken

def coderOrder : Order :=
  ⟨"spawn-1", "spec-1", "coder", "coder", "", "codex", "/work", "dashboard", "", "Start.", "", ""⟩

def reportOf (status : String) : Report := ⟨status, some "env-1", none, none, none, []⟩

def contextAt (now : Nat) (suffix messageId : String) : Context :=
  ⟨now, suffix, messageId, none, some ⟨"", "", ""⟩, false, false⟩

/-- What the run left: the briefs' ids, the sessions used and the status. -/
def outcome (world : World) : List String × List String × Status :=
  (world.briefs.map Brief.id, world.used, world.row.status)

/-- The running report is sent twice, then a stop and a failure come late. -/
def retriedReports : List Label :=
  [.claim "env-1" "pc" 1, .report (reportOf "starting") (contextAt 2 "a" "m1"),
    .report (reportOf "running") (contextAt 3 "b" "m2"),
    .report (reportOf "Running ") (contextAt 4 "c" "m3"), .stop "sess_b" false 5,
    .report (reportOf "failed") (contextAt 6 "d" "m4"),
    .report (reportOf "running") (contextAt 7 "e" "m5")]

theorem retried_spawn_once :
    ∃ world, Reaches (step coderOrder) (NeverStepsBack coderOrder) (initial none []) world ∧
      outcome world = (["m2"], ["sess_b", "sess_b"], .failed) ∧ world.briefs.length ≤ 1 := by
  have executed : (exec (step coderOrder) (neverStepsBack coderOrder) (initial none [])
      retriedReports).map outcome = some (["m2"], ["sess_b", "sess_b"], .failed) := by
    decide
  obtain ⟨world, reached, seen⟩ := reaches_observed _ _ _ _ (fun _ _ granted => granted) executed
  exact ⟨world, reached, seen, (spawn_becomes_agent_once coderOrder none [] world reached).1⟩

/-- The starting report arrives after the running one, which is sent again. -/
def lateStarting : List Label :=
  [.claim "env-1" "pc" 1, .report (reportOf "running") (contextAt 2 "a" "m1"),
    .report (reportOf "starting") (contextAt 3 "b" "m2"),
    .report (reportOf "running") (contextAt 4 "c" "m3")]

theorem late_starting_repeats_brief :
    ∃ world, Reaches (step coderOrder) anyStep (initial none []) world ∧
      outcome world = (["m1", "m3"], ["sess_a", "sess_a"], .running) := by
  have executed : (exec (step coderOrder) (fun _ _ => true) (initial none []) lateStarting).map
      outcome = some (["m1", "m3"], ["sess_a", "sess_a"], .running) := by
    decide
  exact reaches_observed _ _ _ _ (fun _ _ _ => trivial) executed

end AifyComms.SpawnRequests
