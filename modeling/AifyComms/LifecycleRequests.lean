import AifyComms.DefinitionRequests
import AifyComms.TerminalOutput
import AifyComms.SpawnRequests

/-!
Lifecycle requests of defined agents: `api_core/agent_lifecycle_requests.py`, and the
launches a claimed one prepares, `api_core/lifecycle_launch.py`. As with definition
requests, each function runs in one transaction and a refusal rolls it back.

The capability, workspace and launch-environment rules a prepared launch is built by are
parameters; so is the text of a time.
-/

namespace AifyComms.LifecycleRequests
open PyText DefinitionSnapshot DefinitionPush DefinitionRequests
open TerminalOutput (terminalStatusTransition)
open SpawnRequests (orElse)

inductive Status where
  | pending
  | claimed
  | done
  | refused
  | failed
  deriving DecidableEq

/-- `OPEN_STATUSES`. -/
def Status.isOpen : Status → Bool
  | .pending | .claimed => true
  | _ => false

/-- `TERMINAL`. -/
def Status.isTerminal : Status → Bool
  | .done | .refused | .failed => true
  | _ => false

/-- `ACTIONS`. -/
inductive Action where
  | start
  | stop
  | restart
  | kill
  | spawn
  | delete
  | release
  deriving DecidableEq

def Action.name : Action → String
  | .start => "start"
  | .stop => "stop"
  | .restart => "restart"
  | .kill => "kill"
  | .spawn => "spawn"
  | .delete => "delete"
  | .release => "release"

/-- `LAUNCHING_ACTIONS`. -/
def Action.launches : Action → Bool
  | .start | .restart | .spawn => true
  | _ => false

/-- What a request asks, as the service records it to tell a repeat from another one. -/
inductive Intent where
  | asked (agentId : String) (action : Action) (requestedBy : String)
      (expectedLifetime : Option String) (expectedRevision : Option Nat) (freshContext : Bool)
  | created (agentId : String) (requestedBy createdBy : String)
  deriving DecidableEq

/-- A row of `agent_lifecycle_requests`, which has the request id as its key. -/
structure Request extends Target where
  expectedLifetime : Option String
  action : Action
  requestedBy : String
  freshContext : Bool
  intent : Intent
  brief : Option Brief
  status : Status
  outcome : String
  resultLifetime : Option String
  resultIncarnation : Option Nat
  resultRevision : Option Nat
  createdAt : Nat
  claimedAt : Option Nat
  finishedAt : String
  deriving DecidableEq

abbrev Requests := Dict String Request

/-- What a prepared launch tells the host. -/
structure Launch where
  terminalId : String
  agentId : String
  runtime : String
  argv : List String
  cwd : String
  sessionHandle : String
  env : List (String × String)
  herdrSpace : Bool
  storeId : String
  incarnation : Nat
  revision : Nat
  deriving DecidableEq

/-- The receipt of an attachment. -/
structure Receipt where
  requestId : String
  terminalId : String
  handle : String
  processId : Nat
  lifetime : String
  cols : Option Nat
  rows : Option Nat
  deriving DecidableEq

/-- A row of `lifecycle_launches`, which has the request id as its key. -/
structure LaunchRow where
  environmentId : String
  bridgeId : String
  sessionId : String
  terminalId : String
  specId : String
  launch : Launch
  attachment : Option Receipt
  createdAt : Nat
  deriving DecidableEq

structure Terminal where
  sessionId : String
  agentId : String
  environmentId : String
  bridgeId : String
  runtime : String
  workspace : String
  argv : List String
  status : String
  error : String
  processId : String
  cols : Nat
  rows : Nat
  requestedBy : String
  updatedAt : Nat
  deriving DecidableEq

structure Session where
  agentId : String
  environmentId : String
  terminalId : String
  specId : String
  sessionHandle : String
  status : String
  terminalStatus : String
  processId : String
  lastSeen : Nat
  endedAt : Option Nat
  deriving DecidableEq

/-- `opened` and `handed` remember, over a whole run, the terminals that launches made
and the briefs that attachments handed over, with the request of each. -/
structure Lifecycle where
  requests : Requests
  launches : Dict String LaunchRow
  terminals : Dict String Terminal
  sessions : Dict String Session
  specs : List String
  opened : List (String × String)
  handed : List (String × SpawnRequests.Brief)

abbrev Answer (Value : Type) := Lifecycle × Except Refusal Value

def refuse {Value : Type} (state : Lifecycle) (status : Nat) (detail : List String) : Answer Value :=
  (state, .error ⟨status, String.join detail⟩)

/-- `lifecycle_record`: every column but the intent and the brief. -/
structure Record where
  id : String
  target : Target
  expectedLifetime : Option String
  action : Action
  requestedBy : String
  freshContext : Bool
  status : Status
  outcome : String
  resultLifetime : Option String
  resultIncarnation : Option Nat
  resultRevision : Option Nat
  createdAt : Nat
  claimedAt : Option Nat
  finishedAt : String
  deriving DecidableEq

def lifecycleRecord (id : String) (row : Request) : Record where
  id := id
  target := row.toTarget
  expectedLifetime := row.expectedLifetime
  action := row.action
  requestedBy := row.requestedBy
  freshContext := row.freshContext
  status := row.status
  outcome := row.outcome
  resultLifetime := row.resultLifetime
  resultIncarnation := row.resultIncarnation
  resultRevision := row.resultRevision
  createdAt := row.createdAt
  claimedAt := row.claimedAt
  finishedAt := row.finishedAt

/-- A field of a body: not sent, sent with another type, or sent. -/
inductive Field (Value : Type) where
  | absent
  | wrong
  | given (value : Value)
  deriving DecidableEq

def Field.or {Value : Type} (field : Field Value) (default : Value) : Value :=
  match field with
  | .given value => value
  | _ => default

def Field.value? {Value : Type} (field : Field Value) : Option Value :=
  match field with
  | .given value => some value
  | _ => none

/-- The body of a submission. -/
structure Submit where
  requestId : Option String
  action : Option Action
  requestedBy : String
  expectedLifetime : Field (Option String)
  expectedRevision : Field Nat
  freshContext : Field Bool
  deriving DecidableEq

def isAlphanumeric (c : Char) : Bool :=
  ('A' ≤ c && c ≤ 'Z') || ('a' ≤ c && c ≤ 'z') || ('0' ≤ c && c ≤ '9')

/-- `[A-Za-z0-9][A-Za-z0-9._-]{0,127}`. -/
def isRequestId (id : String) : Bool :=
  match id.toList with
  | [] => false
  | first :: rest =>
      isAlphanumeric first && decide (rest.length ≤ 127) &&
        rest.all fun c => isAlphanumeric c || c == '.' || c == '_' || c == '-'

def intentOf (agentId : String) (action : Action) (body : Submit) : Intent :=
  .asked agentId action body.requestedBy (body.expectedLifetime.or none)
    body.expectedRevision.value? (body.freshContext.or false)

/-- What is wrong with the fields that are judged once the request id and the agent are. -/
def submitProblem (body : Submit) : Option String :=
  if body.action = none then
    some "action: one of start, stop, restart, kill, spawn, delete, release"
  else if body.expectedLifetime = .absent ∨ body.expectedLifetime = .wrong ∨
      body.expectedLifetime = .given (some "") then
    some "expectedLifetime: explicitly name a lifetime string or null"
  else if body.freshContext = .wrong then some "freshContext: a boolean"
  else if body.expectedRevision = .wrong ∨
      body.expectedRevision.value?.any fun revision => !isCounter revision then
    some "expectedRevision: a definition revision counter"
  else none

/-- The request of the agent that is open. -/
def openRequest (requests : Requests) (agentId : String) : Option String :=
  (requests.entries.find? fun entry =>
    decide (entry.2.agentId = agentId) && entry.2.status.isOpen).map Prod.fst

def queuedRow (agentId : String) (held : Definition) (action : Action) (actor : String)
    (expectedLifetime : Option String) (freshContext : Bool) (intent : Intent)
    (brief : Option Brief) (now : Nat) : Request where
  toTarget := ⟨agentId, held.machineId, held.storeId, held.incarnation, held.revision⟩
  expectedLifetime := expectedLifetime
  action := action
  requestedBy := actor
  freshContext := freshContext
  intent := intent
  brief := brief
  status := .pending
  outcome := ""
  resultLifetime := none
  resultIncarnation := none
  resultRevision := none
  createdAt := now
  claimedAt := none
  finishedAt := ""

/-- `queue_lifecycle`: refused while the agent has another one open. The id is the primary
key: a repeated one is no refusal but a failed insert. -/
def queueLifecycle (requests : Requests) (id : String) (row : Request) : Except Refusal Requests :=
  match openRequest requests row.agentId with
  | some waitingId =>
      .error ⟨409, String.join ["agent has an open lifecycle request ", waitingId]⟩
  | none =>
      if (requests.get? id).isSome then
        .error ⟨500, "UNIQUE constraint failed: agent_lifecycle_requests.id"⟩
      else .ok (requests.set id row)

/-- `admit_lifecycle`. `proof` is the actor the lifecycle proof names. -/
def admitLifecycle (tables : Tables) (agentId : String) (body : Submit) (proof : Option String)
    (now : Nat) (brief : Option Brief) (state : Lifecycle) : Answer Record :=
  if proof = none then refuse state 403 ["lifecycle proof required"]
  else if strip body.requestedBy = "" then
    refuse state 422 ["requestedBy: explicitly name a nonempty caller actor string"]
  else if proof ≠ some body.requestedBy then
    refuse state 403 ["lifecycle proof does not match caller actor"]
  else match body.requestId with
    | none => refuse state 422 ["requestId: 1 to 128 ASCII letters, digits, dot, underscore or ",
        "hyphen; first character must be alphanumeric"]
    | some id =>
        if !isRequestId id then
          refuse state 422 ["requestId: 1 to 128 ASCII letters, digits, dot, underscore or ",
            "hyphen; first character must be alphanumeric"]
        else match state.requests.get? id, tables.definitions.get? agentId with
          | none, none => refuse state 404 ["agent has no owning definition"]
          | old, held =>
              match submitProblem body, body.action with
              | some problem, _ => refuse state 422 [problem]
              | none, none => refuse state 422 []
              | none, some action =>
                  match old, held with
                  | some old, _ =>
                      if old.intent ≠ intentOf agentId action body then
                        refuse state 409 ["requestId already records a different intent"]
                      else (state, .ok (lifecycleRecord id old))
                  | none, none => refuse state 404 ["agent has no owning definition"]
                  | none, some held =>
                      if body.expectedRevision.or held.revision ≠ held.revision then
                        refuse state 409 ["definition revision moved"]
                      else
                        let row := queuedRow agentId held action body.requestedBy
                          (body.expectedLifetime.or none) (body.freshContext.or false)
                          (intentOf agentId action body) brief now
                        match queueLifecycle state.requests id row with
                        | .error refusal => (state, .error refusal)
                        | .ok requests =>
                            ({ state with requests := requests }, .ok (lifecycleRecord id row))

/-- `host_actions`, of a declaration that is a list of names or absent. -/
def hostActions (declared : Option (List String)) (action : Action) : Bool :=
  match declared with
  | none => decide (action ≠ .release)
  | some names => decide (action.name ∈ names)

/-- `unrunnable_outcome`. -/
def unrunnableOutcome (action : Action) : String :=
  String.join ["its host's aify-env does not run `", action.name, "`; ",
    if action = .release then "aify-env e70321d" else "a newer aify-env",
    " does, after the operator next restarts aify-env"]

/-- Why a claim does not hand out this request, or "". -/
def notHanded (tables : Tables) (currentStore : String) (declared : Option (List String))
    (row : Request) : String :=
  let held := tables.definitions.get? row.agentId
  let why := undeliverable row.toTarget (decide (row.status = .claimed)) held currentStore
  if why ≠ "" then why
  else if held.map (fun held => (held.incarnation, held.revision)) ≠
      some (row.expectedIncarnation, row.expectedRevision) then
    "definition incarnation or revision moved"
  else if !hostActions declared row.action then unrunnableOutcome row.action
  else ""

def claimRow (iso : Nat → String) (tables : Tables) (machineId currentStore : String)
    (declared : Option (List String)) (now : Nat) (row : Request) : Request :=
  if row.machineId = machineId ∧ row.status.isOpen then
    let why := notHanded tables currentStore declared row
    if why = "" then { row with status := .claimed, claimedAt := some (row.claimedAt.getD now) }
    else if row.status = .pending then
      { row with status := .refused, outcome := why, finishedAt := iso now }
    else row
  else row

def handedOut (tables : Tables) (machineId : String) (declared : Option (List String))
    (requests : Requests) : List String :=
  ((requests.entries.filter fun entry =>
    decide (entry.2.machineId = machineId) && entry.2.status.isOpen &&
      decide (notHanded tables (storeOf tables.stores machineId) declared entry.2 = "")).insertionSort
    fun left right => left.2.createdAt < right.2.createdAt ∨
      left.2.createdAt = right.2.createdAt ∧ left.1 ≤ right.1).map Prod.fst

/-- `claim_lifecycle_requests`. -/
def claimLifecycleRequests (iso : Nat → String) (tables : Tables)
    (environment : Option Environment) (bridgeId machineId : String)
    (declared : Field (List String)) (now : Nat) (state : Lifecycle) : Answer (List Record) :=
  let why := fenceRefusal environment bridgeId machineId
  if why ≠ "" then refuse state 409 ["lifecycle claim refused: ", why]
  else if declared = .wrong then
    refuse state 422
      ["actions: a list of the lifecycle action names this host runs, or absent"]
  else
    let claimed := state.requests.mapValues fun _ => claimRow iso tables machineId
      (storeOf tables.stores machineId) declared.value? now
    ({ state with requests := claimed },
      .ok ((handedOut tables machineId declared.value? state.requests).filterMap fun id =>
        (claimed.get? id).map (lifecycleRecord id)))

/-! ### The launch -/

/-- The rules a launch is built by: whether the environment is online and runs this
runtime in a terminal, the workspace it gives, the console's command line, and the
launch's environment. -/
structure LaunchRules where
  online : Environment → Bool
  supports : Environment → String → Bool
  workspaceFor : Environment → String → Except Refusal String
  consoleArgv : String → String → String → String → List String
  launchEnv : Definition → Option AgentRow → String → String → String → Bool → List (String × String)

/-- `StartBinding`, or why the definition may not be started: `binding_for`. -/
def startRefusal (agentId : String) (definition : Definition) : String :=
  if definition.hostState ≠ .valid then
    String.join ["Agent \"", agentId, "\" has an invalid definition on ", definition.machineId, " (",
      orElse (String.intercalate ", " definition.hostProblems) "unreadable",
      "); fix it there to start it"]
  else if !definition.available then
    String.join ["Agent \"", agentId, "\" is defined on ", definition.machineId,
      ", which cannot run it: ", definition.unavailableReason]
  else if definition.body.mode = "resident" then
    String.join ["Agent \"", agentId, "\" is defined in aify-env on ", definition.machineId,
      " as resident; start it through its launcher on that host"]
  else ""

/-- `_admitted`: the request and the definition a launch operation is for. -/
def admitted (tables : Tables) (environment : Option Environment) (id bridgeId machineId : String)
    (attachmentReplay : Bool) (state : Lifecycle) : Except Refusal (Environment × Request × Definition) :=
  let why := fenceRefusal environment bridgeId machineId
  if why ≠ "" then .error ⟨409, why⟩
  else match environment, state.requests.get? id with
    | none, _ => .error ⟨409, why⟩
    | some _, none => .error ⟨404, "no lifecycle request"⟩
    | some row, some request =>
        if (request.status ≠ .claimed ∧ ¬ (attachmentReplay ∧ request.status.isTerminal)) ∨
            !request.action.launches then
          .error ⟨409, "launch requires a claimed start, restart or spawn"⟩
        else match tables.definitions.get? request.agentId with
          | none => .error ⟨409, "lifecycle definition ownership moved"⟩
          | some definition =>
              if request.machineId ≠ machineId ∨
                  (definition.lifetime, definition.revision) ≠
                    (request.toTarget.lifetime, request.expectedRevision) ∨
                  storeOf tables.stores request.machineId ≠ request.storeId ∨
                  tables.stores.get? request.machineId = none then
                .error ⟨409, "lifecycle definition ownership moved"⟩
              else if startRefusal request.agentId definition ≠ "" then
                .error ⟨409, startRefusal request.agentId definition⟩
              else .ok (row, request, definition)

/-- The minted ids of a launch. -/
structure Minted where
  sessionId : String
  terminalId : String
  specId : String
  deriving DecidableEq

/-- An id of the launch is one a table already has: the insert fails and rolls back. -/
def collides (minted : Minted) (state : Lifecycle) : Bool :=
  (state.sessions.get? minted.sessionId).isSome || (state.terminals.get? minted.terminalId).isSome ||
    decide (minted.specId ∈ state.specs) ||
    state.launches.values.any fun row =>
      decide (row.sessionId = minted.sessionId) || decide (row.terminalId = minted.terminalId) ||
        decide (row.specId = minted.specId)

def launchOf (rules : LaunchRules) (request : Request) (definition : Definition)
    (agent : Option AgentRow) (handle workspace terminalId : String) : Launch :=
  let runtime := harnessRuntime definition.body.harness
  { terminalId := terminalId
    agentId := request.agentId
    runtime := runtime
    argv := rules.consoleArgv request.agentId runtime handle workspace
    cwd := workspace
    sessionHandle := handle
    env := rules.launchEnv definition agent handle workspace terminalId request.freshContext
    herdrSpace := (agent.map AgentRow.herdrSpace).getD true
    storeId := definition.storeId
    incarnation := definition.incarnation
    revision := definition.revision }

/-- The rows a launch inserts. -/
def openLaunch (id : String) (environment : Environment) (bridgeId : String) (request : Request)
    (launch : Launch) (minted : Minted) (now : Nat) (state : Lifecycle) : Lifecycle :=
  { state with
    specs := state.specs ++ [minted.specId]
    sessions := state.sessions.set minted.sessionId
      ⟨request.agentId, environment.id, minted.terminalId, minted.specId, launch.sessionHandle,
        "starting", "starting", "", now, none⟩
    terminals := state.terminals.set minted.terminalId
      ⟨minted.sessionId, request.agentId, environment.id, bridgeId, launch.runtime, launch.cwd,
        launch.argv, "starting", "", "", 0, 0, request.requestedBy, now⟩
    launches := state.launches.set id
      ⟨environment.id, bridgeId, minted.sessionId, minted.terminalId, minted.specId, launch, none,
        now⟩
    opened := state.opened ++ [(id, minted.terminalId)] }

/-- The native session a launch resumes: none for a fresh one, or one of another runtime. -/
def resumedHandle (request : Request) (agent : Option AgentRow) (runtime : String) : String :=
  if request.freshContext ∨ agent.map AgentRow.runtime ≠ some runtime then ""
  else (agent.map AgentRow.sessionHandle).getD ""

/-- `prepare_launch`. -/
def prepareLaunch (rules : LaunchRules) (tables : Tables) (environment : Option Environment)
    (id bridgeId machineId : String) (minted : Minted) (now : Nat) (state : Lifecycle) :
    Answer Launch :=
  match admitted tables environment id bridgeId machineId false state with
  | .error refusal => (state, .error refusal)
  | .ok (row, request, definition) =>
      let runtime := harnessRuntime definition.body.harness
      if !rules.online row || !rules.supports row runtime then
        refuse state 409 ["environment cannot run this terminal runtime"]
      else match state.launches.get? id with
        | some old =>
            if (old.environmentId, old.bridgeId) ≠ (row.id, bridgeId) then
              refuse state 409 ["prepared launch belongs to another environment or bridge"]
            else (state, .ok old.launch)
        | none =>
            match rules.workspaceFor row definition.body.workspace with
            | .error refusal => (state, .error refusal)
            | .ok workspace =>
                let agent := tables.agents.get? request.agentId
                let handle := resumedHandle request agent runtime
                if runtime = "pi" ∧ strip handle = "" then
                  refuse state 409 ["pi launch requires an actual native session handle"]
                else if collides minted state then
                  refuse state 500 ["UNIQUE constraint failed"]
                else
                  let launch := launchOf rules request definition agent handle workspace
                    minted.terminalId
                  (openLaunch id row bridgeId request launch minted now state, .ok launch)

/-- The body of an attachment. -/
structure Attachment where
  bridgeId : String
  machineId : String
  terminalId : String
  handle : Option String
  lifetime : Option String
  processId : Field Nat
  cols : Field Nat
  rows : Field Nat
  deriving DecidableEq

def sizeProblem (field : Field Nat) : Bool :=
  match field with
  | .absent => false
  | .wrong => true
  | .given size => decide (size = 0)

def attachmentProblem (body : Attachment) : Option String :=
  if strip (body.handle.getD "") = "" then some "handle: nonempty actual runner value required"
  else if strip (body.lifetime.getD "") = "" then
    some "lifetime: nonempty actual runner value required"
  else if body.processId = .absent ∨ sizeProblem body.processId then
    some "processId: positive integer required"
  else if sizeProblem body.cols then some "cols: positive integer required"
  else if sizeProblem body.rows then some "rows: positive integer required"
  else none

def receiptOf (id : String) (prepared : LaunchRow) (body : Attachment) : Receipt where
  requestId := id
  terminalId := prepared.terminalId
  handle := body.handle.getD ""
  processId := body.processId.or 0
  lifetime := body.lifetime.getD ""
  cols := body.cols.value?
  rows := body.rows.value?

def attachTerminal (body : Attachment) (now : Nat) (row : Terminal) : Terminal :=
  { row with
    status := "attached"
    processId := toString (body.processId.or 0)
    cols := body.cols.or row.cols
    rows := body.rows.or row.rows
    updatedAt := now }

def attachSession (body : Attachment) (now : Nat) (row : Session) : Session :=
  { row with
    status := "running"
    terminalStatus := "attached"
    processId := toString (body.processId.or 0)
    lastSeen := now }

/-- The message `_hand_settled_spawn_to_dispatch` stores for a brief. -/
def briefMessage (request : Request) (brief : Brief) (messageId : String) (now : Nat) :
    SpawnRequests.Brief :=
  ⟨messageId, orElse request.requestedBy "dashboard", request.agentId,
    orElse brief.subject ("Spawn " ++ request.agentId), brief.body, orElse brief.priority "normal",
    now⟩

/-- The writes of an attachment: its receipt, the terminal and session it is for, and the
brief of the request. -/
def recordAttachment (id : String) (request : Request) (prepared : LaunchRow) (receipt : Receipt)
    (body : Attachment) (messageId : String) (now : Nat) (state : Lifecycle) : Lifecycle :=
  { state with
    launches := state.launches.modify id fun row => { row with attachment := some receipt }
    terminals := state.terminals.modify prepared.terminalId (attachTerminal body now)
    sessions := state.sessions.modify prepared.sessionId (attachSession body now)
    handed := state.handed ++
      (request.brief.map fun brief => (id, briefMessage request brief messageId now)).toList }

/-- `attach`. -/
def attach (tables : Tables) (environment : Option Environment) (id : String) (body : Attachment)
    (messageId : String) (now : Nat) (state : Lifecycle) : Answer Receipt :=
  let prepared := state.launches.get? id
  let replay := prepared.any fun prepared => prepared.attachment.isSome
  match admitted tables environment id body.bridgeId body.machineId replay state, prepared with
  | .error refusal, _ => (state, .error refusal)
  | .ok _, none => refuse state 409 ["attachment requires the exact prepared terminal"]
  | .ok (row, request, _), some prepared =>
      if (prepared.environmentId, prepared.bridgeId, prepared.terminalId) ≠
          (row.id, body.bridgeId, body.terminalId) then
        refuse state 409 ["attachment requires the exact prepared terminal"]
      else match attachmentProblem body with
        | some problem => refuse state 422 [problem]
        | none =>
            let receipt := receiptOf id prepared body
            match prepared.attachment with
            | some old =>
                if old ≠ receipt then
                  refuse state 409 ["lifecycle attachment receipt is immutable"]
                else (state, .ok old)
            | none =>
                if (state.terminals.get? prepared.terminalId).all fun terminal =>
                    decide (terminalStatusTransition terminal.status "attached" = "") then
                  refuse state 409 ["prepared terminal has already ended"]
                else (recordAttachment id request prepared receipt body messageId now state,
                  .ok receipt)

/-! ### The result -/

/-- The body of a result. -/
structure ResultReport where
  bridgeId : String
  machineId : String
  status : Option Status
  outcome : Option String
  resultLifetime : Field (Option String)
  finishedAt : Option String
  resultIncarnation : Option Nat
  resultRevision : Option Nat
  deriving DecidableEq

def explicitResult (body : ResultReport) : Bool :=
  body.status.any Status.isTerminal && body.outcome.isSome &&
    decide (body.finishedAt.getD "" ≠ "") && body.resultLifetime.value?.isSome

/-- The terminal result a report names. -/
structure Settled where
  status : Status
  outcome : String
  resultLifetime : Option String
  finishedAt : String
  resultIncarnation : Option Nat
  resultRevision : Option Nat
  deriving DecidableEq

def Request.settled (row : Request) : Settled :=
  ⟨row.status, row.outcome, row.resultLifetime, row.finishedAt, row.resultIncarnation,
    row.resultRevision⟩

/-- A done delete reports the counters of its removal. -/
def removalReceipt (row : Request) (body : ResultReport) : Bool :=
  decide (row.action = .delete) && decide (body.status = some .done)

def settledOf (row : Request) (body : ResultReport) : Settled :=
  ⟨body.status.getD row.status, body.outcome.getD "", body.resultLifetime.or none,
    body.finishedAt.getD "",
    if removalReceipt row body then body.resultIncarnation else none,
    if removalReceipt row body then body.resultRevision else none⟩

def recordResult (settled : Settled) (row : Request) : Request :=
  { row with
    status := settled.status
    outcome := settled.outcome
    resultLifetime := settled.resultLifetime
    finishedAt := settled.finishedAt
    resultIncarnation := settled.resultIncarnation
    resultRevision := settled.resultRevision }

def failTerminal (outcome : String) (now : Nat) (row : Terminal) : Terminal :=
  if row.status = "starting" ∧ row.processId = "" then
    { row with status := "failed", error := outcome, updatedAt := now }
  else row

def failSession (now : Nat) (row : Session) : Session :=
  if row.status = "starting" ∧ row.processId = "" then
    { row with status := "failed", terminalStatus := "failed", endedAt := some now, lastSeen := now }
  else row

/-- `settle_unstarted`. -/
def settleUnstarted (id : String) (body : ResultReport) (now : Nat) (state : Lifecycle) : Lifecycle :=
  if body.status ≠ some .refused ∨ body.resultLifetime.or none ≠ none then state
  else match state.launches.get? id with
    | none => state
    | some prepared =>
        if prepared.attachment.isSome then state
        else { state with
          terminals := state.terminals.modify prepared.terminalId
            (failTerminal (body.outcome.getD "") now)
          sessions := state.sessions.modify prepared.sessionId (failSession now) }

/-- `report_lifecycle_result`. -/
def reportLifecycleResult (environment : Option Environment) (id : String) (body : ResultReport)
    (now : Nat) (state : Lifecycle) : Answer Record :=
  let why := fenceRefusal environment body.bridgeId body.machineId
  if why ≠ "" then refuse state 409 ["lifecycle report refused: ", why]
  else if !explicitResult body then
    refuse state 422
      ["status, outcome, resultLifetime and finishedAt: explicit terminal result required"]
  else match state.requests.get? id with
    | none => refuse state 404 ["no lifecycle request"]
    | some row =>
        if row.machineId ≠ body.machineId then
          refuse state 409 ["lifecycle request belongs to another machine"]
        else if removalReceipt row body ∧ ¬ (isCounter (body.resultIncarnation.getD 0) = true ∧
            isCounter (body.resultRevision.getD 0) = true) then
          refuse state 422
            ["a done delete reports resultIncarnation and resultRevision from its removal"]
        else if row.status.isTerminal then
          if row.settled ≠ settledOf row body then
            refuse state 409 ["terminal lifecycle result is immutable"]
          else (state, .ok (lifecycleRecord id row))
        else if row.status ≠ .claimed then
          refuse state 409 ["lifecycle request was never claimed"]
        else
          (settleUnstarted id body now
            { state with requests := state.requests.modify id (recordResult (settledOf row body)) },
            .ok (lifecycleRecord id (recordResult (settledOf row body) row)))

/-! ### How a request moves -/

/-- One write of one row. -/
inductive Move : Request → Request → Prop where
  | claim (row : Request) (now : Nat) (waiting : row.status.isOpen = true) :
      Move row { row with status := .claimed, claimedAt := some (row.claimedAt.getD now) }
  | refuse (row : Request) (why finishedAt : String) (waiting : row.status = .pending) :
      Move row { row with status := .refused, outcome := why, finishedAt := finishedAt }
  | result (row : Request) (settled : Settled) (claimed : row.status = .claimed)
      (terminal : settled.status.isTerminal = true) : Move row (recordResult settled row)

/-- The columns that say what a request asks. -/
structure Asked where
  target : Target
  expectedLifetime : Option String
  action : Action
  requestedBy : String
  freshContext : Bool
  intent : Intent
  brief : Option Brief
  createdAt : Nat

def Request.asked (row : Request) : Asked :=
  ⟨row.toTarget, row.expectedLifetime, row.action, row.requestedBy, row.freshContext, row.intent,
    row.brief, row.createdAt⟩

theorem move_asked {before after : Request} (move : Move before after) :
    after.asked = before.asked := by
  cases move <;> rfl

theorem move_terminal {before after : Request} (move : Move before after) :
    before.status.isTerminal = false := by
  cases move with
  | claim now waiting => cases status : before.status <;> simp_all [Status.isOpen, Status.isTerminal]
  | refuse why finishedAt waiting => rw [waiting]; rfl
  | result settled claimed terminal => rw [claimed]; rfl

theorem move_open {before after : Request} (move : Move before after)
    (waiting : after.status.isOpen = true) : before.status.isOpen = true := by
  cases move with
  | claim now opened => exact opened
  | refuse why finishedAt pending => rw [pending]; rfl
  | result settled claimed terminal => rw [claimed]; rfl

/-- What one transaction does to a row: nothing, or one write. -/
def Moves (before after : Request) : Prop := after = before ∨ Move before after

theorem moves_asked {before after : Request} (moves : Moves before after) :
    after.asked = before.asked := by
  rcases moves with rfl | move
  · rfl
  · exact move_asked move

theorem moves_terminal {before after : Request} (moves : Moves before after)
    (terminal : before.status.isTerminal = true) : after = before := by
  rcases moves with same | move
  · exact same
  · rw [move_terminal move] at terminal
    cases terminal

theorem moves_open {before after : Request} (moves : Moves before after)
    (waiting : after.status.isOpen = true) : before.status.isOpen = true := by
  rcases moves with rfl | move
  · exact waiting
  · exact move_open move waiting

/-! ### How the tables move -/

/-- A prepared launch stays as it is, or gets its receipt. -/
def LaunchMoves (before after : LaunchRow) : Prop :=
  after = before ∨
    before.attachment = none ∧ ∃ receipt, after = { before with attachment := some receipt }

/-- Every row moves and none goes; a request that appears is waiting, and is the only one of
its agent that is open. -/
structure Proceeds (before after : Requests) : Prop where
  moved : ∀ id row, before.get? id = some row → ∃ later, after.get? id = some later ∧ Moves row later
  added : ∀ id row, after.get? id = some row → before.get? id = none →
    row.status = .pending ∧
      ∀ other another, after.get? other = some another → another.agentId = row.agentId →
        another.status.isOpen = true → other = id

/-- The launches move, and a terminal is opened or a brief handed over only with the write
that records it. -/
structure LaunchesProceed (before after : Lifecycle) : Prop where
  moved : ∀ id row, before.launches.get? id = some row →
    ∃ later, after.launches.get? id = some later ∧ LaunchMoves row later
  opened : after.opened = before.opened ∨
    ∃ id row, after.opened = before.opened ++ [(id, row.terminalId)] ∧
      before.launches.get? id = none ∧ after.launches.get? id = some row
  handed : after.handed = before.handed ∨
    ∃ id message row later, after.handed = before.handed ++ [(id, message)] ∧
      before.launches.get? id = some row ∧ row.attachment = none ∧
      after.launches.get? id = some later ∧ later.attachment.isSome = true

theorem Proceeds.refl (requests : Requests) : Proceeds requests requests := by
  refine ⟨fun _ row found => ⟨row, found, .inl rfl⟩, ?_⟩
  intro id row found absent
  rw [absent] at found
  cases found

theorem launches_same {before after : Lifecycle} (launches : after.launches = before.launches)
    (opened : after.opened = before.opened) (handed : after.handed = before.handed) :
    LaunchesProceed before after :=
  ⟨fun _ row found => ⟨row, launches ▸ found, .inl rfl⟩, .inl opened, .inl handed⟩

theorem proceeds_mapValues (requests : Requests) (change : String → Request → Request)
    (moves : ∀ id row, requests.get? id = some row → Moves row (change id row)) :
    Proceeds requests (requests.mapValues change) := by
  constructor
  · intro id row found
    refine ⟨change id row, ?_, moves id row found⟩
    rw [Dict.get?_mapValues, found]
    rfl
  · intro id row found absent
    rw [Dict.get?_mapValues, absent] at found
    cases found

theorem openRequest_none {requests : Requests} {agentId : String}
    (free : openRequest requests agentId = none) {id : String} {row : Request}
    (found : requests.get? id = some row) (named : row.agentId = agentId) :
    row.status.isOpen = false := by
  rw [openRequest, Option.map_eq_none_iff, List.find?_eq_none] at free
  have judged := free (id, row) ((Dict.get?_eq_some_iff requests id row).mp found)
  rw [Bool.and_eq_true, decide_eq_true_eq, not_and] at judged
  exact Bool.eq_false_iff.mpr (judged named)

theorem queueLifecycle_ok {requests after : Requests} {id : String} {row : Request}
    (queued : queueLifecycle requests id row = .ok after) :
    openRequest requests row.agentId = none ∧ requests.get? id = none ∧ after = requests.set id row := by
  unfold queueLifecycle at queued
  split at queued
  · cases queued
  next free =>
    split at queued
    · cases queued
    next absent =>
      rw [Bool.not_eq_true, Option.isSome_eq_false_iff, Option.isNone_iff_eq_none] at absent
      cases queued
      exact ⟨free, absent, rfl⟩

theorem queueLifecycle_proceeds {requests after : Requests} {id : String} {row : Request}
    (queued : queueLifecycle requests id row = .ok after) (waits : row.status = .pending) :
    Proceeds requests after := by
  obtain ⟨free, absent, rfl⟩ := queueLifecycle_ok queued
  constructor
  · intro other earlier found
    refine ⟨earlier, ?_, .inl rfl⟩
    have differ : id ≠ other := by
      intro same
      rw [← same, absent] at found
      cases found
    rw [Dict.get?_set_ne _ _ differ]
    exact found
  · intro other added found gone
    have same : id = other := by
      by_contra differ
      rw [Dict.get?_set_ne _ _ differ, gone] at found
      cases found
    subst same
    rw [Dict.get?_set_self, Option.some.injEq] at found
    subst found
    refine ⟨waits, ?_⟩
    intro another otherRow present named waiting
    by_contra differ
    rw [Dict.get?_set_ne _ _ (Ne.symm differ)] at present
    rw [openRequest_none free present named] at waiting
    cases waiting

theorem admitLifecycle_cases (tables : Tables) (agentId : String) (body : Submit)
    (proof : Option String) (now : Nat) (brief : Option Brief) (state : Lifecycle) :
    (admitLifecycle tables agentId body proof now brief state).1 = state ∨
    ∃ id action held requests,
      queueLifecycle state.requests id (queuedRow agentId held action body.requestedBy
        (body.expectedLifetime.or none) (body.freshContext.or false)
        (intentOf agentId action body) brief now) = .ok requests ∧
      (admitLifecycle tables agentId body proof now brief state).1 =
        { state with requests := requests } := by
  unfold admitLifecycle
  split
  · exact .inl rfl
  split
  · exact .inl rfl
  split
  · exact .inl rfl
  split
  · exact .inl rfl
  next id _ =>
    split
    · exact .inl rfl
    split
    · exact .inl rfl
    split
    · exact .inl rfl
    · exact .inl rfl
    next action _ _ =>
      split
      · split <;> exact .inl rfl
      · exact .inl rfl
      next held _ _ =>
        split
        · exact .inl rfl
        dsimp only
        cases queued : queueLifecycle state.requests id (queuedRow agentId held action
            body.requestedBy (body.expectedLifetime.or none) (body.freshContext.or false)
            (intentOf agentId action body) brief now) with
        | error refusal => exact .inl rfl
        | ok requests => exact .inr ⟨id, action, held, requests, queued, rfl⟩

/-- A submission whose own fields are in order: its proof names its caller, its id has the
form of one, and every other field is of its type. -/
structure WellFormed (body : Submit) (proof : Option String) (id : String) (action : Action) : Prop where
  caller : strip body.requestedBy ≠ ""
  proven : proof = some body.requestedBy
  named : body.requestId = some id
  form : isRequestId id = true
  fields : submitProblem body = none
  asks : body.action = some action

/-- A repeated request id: the stored record for the same intent, a refusal for another. -/
theorem admitLifecycle_again {tables : Tables} {agentId : String} {body : Submit}
    {proof : Option String} {now : Nat} {brief : Option Brief} {state : Lifecycle} {id : String}
    {action : Action} {old : Request} (formed : WellFormed body proof id action)
    (stored : state.requests.get? id = some old) :
    admitLifecycle tables agentId body proof now brief state =
      (state, if old.intent = intentOf agentId action body then .ok (lifecycleRecord id old)
        else .error ⟨409, "requestId already records a different intent"⟩) := by
  unfold admitLifecycle
  simp only [formed.caller, formed.proven, formed.named, formed.form, formed.fields,
    formed.asks, stored, if_false, ne_eq, not_true_eq_false, Bool.not_true, Bool.false_eq_true,
    reduceCtorEq]
  by_cases same : old.intent = intentOf agentId action body
  · simp [same]
  · simp [same, refuse, String.join]

theorem claim_proceeds (iso : Nat → String) (tables : Tables) (environment : Option Environment)
    (bridgeId machineId : String) (declared : Field (List String)) (now : Nat) (state : Lifecycle) :
    ∃ requests, Proceeds state.requests requests ∧
      (∀ id, state.requests.get? id = none → requests.get? id = none) ∧
      (claimLifecycleRequests iso tables environment bridgeId machineId declared now state).1 =
        { state with requests := requests } := by
  unfold claimLifecycleRequests
  dsimp only
  split
  · exact ⟨state.requests, Proceeds.refl _, fun _ absent => absent, rfl⟩
  split
  · exact ⟨state.requests, Proceeds.refl _, fun _ absent => absent, rfl⟩
  · refine ⟨_, ?_, ?_, rfl⟩
    · apply proceeds_mapValues
      intro _ row _
      unfold claimRow
      dsimp only
      split
      next waiting =>
        split
        · exact .inr (.claim row now waiting.2)
        split
        next pending => exact .inr (.refuse row _ _ pending)
        · exact .inl rfl
      · exact .inl rfl
    · intro id absent
      rw [Dict.get?_mapValues, absent]
      rfl

theorem prepareLaunch_cases (rules : LaunchRules) (tables : Tables)
    (environment : Option Environment) (id bridgeId machineId : String) (minted : Minted)
    (now : Nat) (state : Lifecycle) :
    (prepareLaunch rules tables environment id bridgeId machineId minted now state).1 = state ∨
    state.launches.get? id = none ∧ ∃ row request launch,
      (prepareLaunch rules tables environment id bridgeId machineId minted now state).1 =
        openLaunch id row bridgeId request launch minted now state := by
  unfold prepareLaunch
  split
  · exact .inl rfl
  next row request definition _ =>
    dsimp only
    split
    · exact .inl rfl
    split
    · split <;> exact .inl rfl
    next absent =>
      split
      · exact .inl rfl
      split
      · exact .inl rfl
      split
      · exact .inl rfl
      · exact .inr ⟨absent, row, request, _, rfl⟩

theorem attach_cases (tables : Tables) (environment : Option Environment) (id : String)
    (body : Attachment) (messageId : String) (now : Nat) (state : Lifecycle) :
    (attach tables environment id body messageId now state).1 = state ∨
    ∃ request prepared receipt, state.launches.get? id = some prepared ∧
      prepared.attachment = none ∧
      (attach tables environment id body messageId now state).1 =
        recordAttachment id request prepared receipt body messageId now state := by
  unfold attach
  dsimp only
  split
  · exact .inl rfl
  · exact .inl rfl
  next row request _ prepared _ found =>
    split
    · exact .inl rfl
    split
    · exact .inl rfl
    split
    · split <;> exact .inl rfl
    next unattached =>
      split
      · exact .inl rfl
      · exact .inr ⟨request, prepared, _, found, unattached, rfl⟩

theorem settleUnstarted_frame (id : String) (body : ResultReport) (now : Nat) (state : Lifecycle) :
    (settleUnstarted id body now state).requests = state.requests ∧
      (settleUnstarted id body now state).launches = state.launches ∧
      (settleUnstarted id body now state).opened = state.opened ∧
      (settleUnstarted id body now state).handed = state.handed := by
  unfold settleUnstarted
  split
  · exact ⟨rfl, rfl, rfl, rfl⟩
  split
  · exact ⟨rfl, rfl, rfl, rfl⟩
  split <;> exact ⟨rfl, rfl, rfl, rfl⟩

theorem explicitResult_terminal {body : ResultReport} {status : Status}
    (explicit : explicitResult body = true) :
    (body.status.getD status).isTerminal = true := by
  simp only [explicitResult, Bool.and_eq_true] at explicit
  obtain ⟨⟨⟨terminal, _⟩, _⟩, _⟩ := explicit
  rw [Option.any_eq_true] at terminal
  obtain ⟨told, named, terminal⟩ := terminal
  rw [named]
  exact terminal

theorem reportLifecycleResult_cases (environment : Option Environment) (id : String)
    (body : ResultReport) (now : Nat) (state : Lifecycle) :
    (reportLifecycleResult environment id body now state).1 = state ∨
    ∃ row, state.requests.get? id = some row ∧ row.status = .claimed ∧
      (settledOf row body).status.isTerminal = true ∧
      (reportLifecycleResult environment id body now state).1 = settleUnstarted id body now
        { state with requests := state.requests.modify id (recordResult (settledOf row body)) } := by
  unfold reportLifecycleResult
  dsimp only
  split
  · exact .inl rfl
  split
  · exact .inl rfl
  next explicit =>
    rw [Bool.not_eq_true, Bool.not_eq_false'] at explicit
    split
    · exact .inl rfl
    next row found =>
      split
      · exact .inl rfl
      split
      · exact .inl rfl
      split
      · split <;> exact .inl rfl
      split
      · exact .inl rfl
      next claimed =>
        exact .inr ⟨row, found, not_not.mp claimed, explicitResult_terminal explicit, rfl⟩

/-- Whatever a repeated request id comes with, an answer is the stored record, to the intent
it was stored with. -/
theorem admitLifecycle_answers {tables : Tables} {agentId : String} {body : Submit}
    {proof : Option String} {now : Nat} {brief : Option Brief} {state : Lifecycle} {id : String}
    {old : Request} {record : Record} (named : body.requestId = some id)
    (stored : state.requests.get? id = some old)
    (answered : (admitLifecycle tables agentId body proof now brief state).2 = .ok record) :
    record = lifecycleRecord id old ∧
      ∃ action, body.action = some action ∧ old.intent = intentOf agentId action body := by
  unfold admitLifecycle at answered
  simp only [named, stored] at answered
  split at answered
  · cases answered
  split at answered
  · cases answered
  split at answered
  · cases answered
  split at answered
  · cases answered
  split at answered
  · cases answered
  · cases answered
  next action _ asks =>
    split at answered
    · cases answered
    next same =>
      cases answered
      exact ⟨rfl, action, asks, not_not.mp same⟩

theorem admitLifecycle_stored {tables : Tables} {agentId : String} {body : Submit}
    {proof : Option String} {now : Nat} {brief : Option Brief} {state : Lifecycle} {id : String}
    {old : Request} (named : body.requestId = some id) (stored : state.requests.get? id = some old) :
    (admitLifecycle tables agentId body proof now brief state).1 = state := by
  unfold admitLifecycle
  simp only [named, stored]
  split
  · rfl
  split
  · rfl
  split
  · rfl
  split
  · rfl
  split
  · rfl
  · rfl
  · split <;> rfl

theorem openLaunch_proceeds {state : Lifecycle} {id : String} (absent : state.launches.get? id = none)
    (row : Environment) (bridgeId : String) (request : Request) (launch : Launch) (minted : Minted)
    (now : Nat) : LaunchesProceed state (openLaunch id row bridgeId request launch minted now state) := by
  refine ⟨?_, ?_, .inl rfl⟩
  · intro other earlier found
    refine ⟨earlier, ?_, .inl rfl⟩
    have differ : id ≠ other := by
      intro same
      rw [← same, absent] at found
      cases found
    simp only [openLaunch, Dict.get?_set_ne _ _ differ, found]
  · exact .inr ⟨id, _, rfl, absent, Dict.get?_set_self _ _ _⟩

theorem recordAttachment_proceeds {state : Lifecycle} {id : String} {prepared : LaunchRow}
    (found : state.launches.get? id = some prepared) (unattached : prepared.attachment = none)
    (request : Request) (receipt : Receipt) (body : Attachment) (messageId : String) (now : Nat) :
    LaunchesProceed state
      (recordAttachment id request prepared receipt body messageId now state) := by
  have attached : (recordAttachment id request prepared receipt body messageId now
      state).launches.get? id = some { prepared with attachment := some receipt } := by
    simp [recordAttachment, Dict.get?_modify, found]
  refine ⟨?_, .inl rfl, ?_⟩
  · intro other earlier present
    by_cases same : other = id
    · subst same
      rw [found, Option.some.injEq] at present
      subst present
      exact ⟨_, attached, .inr ⟨unattached, receipt, rfl⟩⟩
    · refine ⟨earlier, ?_, .inl rfl⟩
      simp only [recordAttachment, Dict.get?_modify, if_neg same, present]
  · cases told : request.brief with
    | none =>
        refine .inl ?_
        simp [recordAttachment, told]
    | some brief =>
        refine .inr ⟨id, briefMessage request brief messageId now, prepared, _, ?_, found, unattached,
          attached, rfl⟩
        simp [recordAttachment, told]

theorem result_proceeds {requests : Requests} {id : String} {row : Request} {settled : Settled}
    (found : requests.get? id = some row) (claimed : row.status = .claimed)
    (terminal : settled.status.isTerminal = true) :
    Proceeds requests (requests.modify id (recordResult settled)) := by
  apply proceeds_mapValues
  intro other another present
  split
  next same =>
    rw [same, found, Option.some.injEq] at present
    subst present
    exact .inr (.result row settled claimed terminal)
  · exact .inl rfl

/-! ### Invariants -/

def OneOpen (requests : Requests) : Prop :=
  ∀ left right leftRow rightRow, requests.get? left = some leftRow →
    requests.get? right = some rightRow → leftRow.agentId = rightRow.agentId →
    leftRow.status.isOpen = true → rightRow.status.isOpen = true → left = right

theorem asked_agentId {before after : Request} (same : after.asked = before.asked) :
    after.agentId = before.agentId := congrArg (fun asked => asked.target.agentId) same

theorem proceeds_oneOpen {before after : Requests} (proceeds : Proceeds before after)
    (one : OneOpen before) : OneOpen after := by
  refine Dict.OneMarked.next one ?_ ?_
  · intro id row found
    obtain ⟨later, present, moves⟩ := proceeds.moved id row found
    exact ⟨later, present, asked_agentId (moves_asked moves), moves_open moves⟩
  · intro id row found absent
    exact (proceeds.added id row found absent).2

/-- Each opened terminal is the one of its request's launch, each brief went with an
attachment, and no request opened or handed over twice. -/
structure OncePerRequest (state : Lifecycle) : Prop where
  opened : ∀ pair ∈ state.opened, ∃ row, state.launches.get? pair.1 = some row ∧
    row.terminalId = pair.2
  openedOnce : (state.opened.map Prod.fst).Nodup
  handed : ∀ pair ∈ state.handed, ∃ row, state.launches.get? pair.1 = some row ∧
    row.attachment.isSome = true
  handedOnce : (state.handed.map Prod.fst).Nodup

theorem launch_moves_terminal {before after : LaunchRow} (moves : LaunchMoves before after) :
    after.terminalId = before.terminalId := by
  rcases moves with rfl | ⟨_, receipt, rfl⟩ <;> rfl

theorem launch_moves_attachment {before after : LaunchRow} {receipt : Receipt}
    (moves : LaunchMoves before after) (attached : before.attachment = some receipt) :
    after.attachment = some receipt := by
  rcases moves with rfl | ⟨none, _, rfl⟩
  · exact attached
  · rw [none] at attached
    cases attached

theorem nodup_concat {Key Value : Type} {list : List (Key × Value)} {key : Key} {value : Value}
    (distinct : (list.map Prod.fst).Nodup) (fresh : key ∉ list.map Prod.fst) :
    ((list ++ [(key, value)]).map Prod.fst).Nodup := by
  rw [List.map_append, List.nodup_append]
  refine ⟨distinct, List.nodup_singleton _, ?_⟩
  intro first member second same equal
  rw [List.map_singleton, List.mem_singleton] at same
  rw [equal, same] at member
  exact fresh member

theorem launches_proceed_once {before after : Lifecycle} (proceeds : LaunchesProceed before after)
    (once : OncePerRequest before) : OncePerRequest after := by
  have openedKept : ∀ pair ∈ before.opened, ∃ row, after.launches.get? pair.1 = some row ∧
      row.terminalId = pair.2 := by
    intro pair member
    obtain ⟨row, found, terminal⟩ := once.opened pair member
    obtain ⟨later, after, moves⟩ := proceeds.moved pair.1 row found
    exact ⟨later, after, (launch_moves_terminal moves).trans terminal⟩
  have handedKept : ∀ pair ∈ before.handed, ∃ row, after.launches.get? pair.1 = some row ∧
      row.attachment.isSome = true := by
    intro pair member
    obtain ⟨row, found, attached⟩ := once.handed pair member
    obtain ⟨later, after, moves⟩ := proceeds.moved pair.1 row found
    obtain ⟨receipt, stored⟩ := Option.isSome_iff_exists.mp attached
    exact ⟨later, after, by rw [launch_moves_attachment moves stored]; rfl⟩
  refine ⟨?_, ?_, ?_, ?_⟩
  · rcases proceeds.opened with same | ⟨id, row, extended, _, found⟩
    · rw [same]
      exact openedKept
    · rw [extended]
      intro pair member
      rcases List.mem_append.mp member with earlier | last
      · exact openedKept pair earlier
      · rw [List.mem_singleton.mp last]
        exact ⟨row, found, rfl⟩
  · rcases proceeds.opened with same | ⟨id, row, extended, absent, _⟩
    · rw [same]
      exact once.openedOnce
    · rw [extended]
      refine nodup_concat once.openedOnce ?_
      intro listed
      obtain ⟨pair, member, rfl⟩ := List.mem_map.mp listed
      obtain ⟨old, found, _⟩ := once.opened pair member
      rw [absent] at found
      cases found
  · rcases proceeds.handed with same | ⟨id, message, row, later, extended, _, _, found, attached⟩
    · rw [same]
      exact handedKept
    · rw [extended]
      intro pair member
      rcases List.mem_append.mp member with earlier | last
      · exact handedKept pair earlier
      · rw [List.mem_singleton.mp last]
        exact ⟨later, found, attached⟩
  · rcases proceeds.handed with same | ⟨id, message, row, later, extended, found, none, _, _⟩
    · rw [same]
      exact once.handedOnce
    · rw [extended]
      refine nodup_concat once.handedOnce ?_
      intro listed
      obtain ⟨pair, member, rfl⟩ := List.mem_map.mp listed
      obtain ⟨old, present, attached⟩ := once.handed pair member
      rw [found, Option.some.injEq] at present
      subst present
      rw [none] at attached
      cases attached

end AifyComms.LifecycleRequests
