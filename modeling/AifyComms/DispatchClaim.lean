import AifyComms.Dict
import AifyComms.PyText
import Mathlib.Data.List.Sort

/-!
`POST /dispatch/claim`: one attempt of `dispatch_claim.py`, a single write
transaction, with the run selection of `claim_run_selection.py`, and the
console delivery of `console_input_queue.py` that starts a turn of its own.

A stamp is a whole number of seconds, `none` where the column is NULL; the
service compares stamps as text of one fixed format, which is their order in
time. The clock is read in milliseconds. The gates that read no run (the
agent's row, its machine and mode, the bridge's own standing, the console
owner) are inputs, as is the mode `_agent_execution_mode` finds for the agent.
-/

namespace AifyComms.DispatchClaim
open PyText

/-! ### The tables -/

structure Run where
  targetAgent : String
  status : String
  dispatchMode : String
  executionMode : String
  requestedRuntime : String
  runtime : String
  claimMachineId : String
  claimBridgeId : String
  summary : String
  errorText : String
  resultMessageId : String
  queueIfBusy : Bool
  steerIfBusy : Bool
  requestedAt : Nat
  claimedAt : Option Nat
  startedAt : Option Nat
  finishedAt : Option Nat
  deriving DecidableEq

/-- A row of `bridge_instances`; `lastSeen` is 0 when its text names no time. -/
structure Bridge where
  id : String
  agentId : String
  lastSeen : Nat
  supersededBy : String
  bridgeKind : String

structure Control where
  id : String
  runId : String
  action : String
  status : String
  responseText : String
  requestedAt : Nat
  handledAt : Option Nat

structure Event where
  runId : String
  eventType : String
  body : String
  deriving DecidableEq

structure Db where
  runs : Dict String Run
  bridges : List Bridge
  controls : List Control
  events : List Event

/-- `UPDATE dispatch_runs SET … WHERE id = ?`. -/
def Db.update (db : Db) (id : String) (change : Run → Run) : Db :=
  match db.runs.get? id with
  | some run => { db with runs := db.runs.set id (change run) }
  | none => db

def Db.append (db : Db) (runId eventType body : String) : Db :=
  { db with events := db.events ++ [⟨runId, eventType, body⟩] }

/-- `_fail_pending_controls_for_run`. -/
def Db.failPendingControls (db : Db) (runId responseText : String) (handledAt : Nat) : Db :=
  let pending (control : Control) : Bool :=
    control.runId = runId ∧ control.status ∈ ["pending", "claimed"]
  let ordered := (db.controls.filter pending).insertionSort fun left right =>
    left.requestedAt < right.requestedAt ∨
      left.requestedAt = right.requestedAt ∧ left.id ≤ right.id
  { db with
    controls := db.controls.map fun control =>
      if pending control then
        { control with status := "failed", responseText := responseText,
                       handledAt := some handledAt }
      else control
    events := db.events ++ ordered.map fun control =>
      ⟨runId, "control:" ++ control.action ++ ":failed", responseText⟩ }

def runtimeAliases : List (String × String) :=
  [("claude", "claude-code"), ("claude-code", "claude-code"), ("claude_code", "claude-code"),
    ("codex", "codex"), ("hermes", "hermes"), ("hermes-agent", "hermes"),
    ("hermes_agent", "hermes"), ("oh-my-pi", "pi"), ("oh_my_pi", "pi"), ("opencode", "opencode"),
    ("omp", "pi"), ("pi", "pi"), ("pi-agent", "pi"), ("pi_agent", "pi"), ("generic", "generic")]

def normalizeRuntime (runtime : String) : String :=
  let key := normalise (if runtime = "" then "generic" else runtime)
  (runtimeAliases.lookup key).getD (if key = "" then "generic" else key)

/-! ### The active run -/

def Run.active (run : Run) : Bool := decide (run.status ∈ ["claimed", "running"])

/-- `COALESCE(started_at, claimed_at, requested_at)`. -/
def Run.activeSince (run : Run) : Nat := (run.startedAt.or run.claimedAt).getD run.requestedAt

/-- The agent's claimed and running runs, the longest active first. -/
def Db.activeRuns (db : Db) (agentId : String) : List (String × Run) :=
  (db.runs.entries.filter fun entry =>
    entry.2.targetAgent = agentId ∧ entry.2.active).insertionSort
      fun left right => left.2.activeSince ≤ right.2.activeSince

/-- `_get_dispatch_state_for_agent`: of them all, the first. -/
def Db.activeRun (db : Db) (agentId : String) : Option (String × Run) :=
  (db.activeRuns agentId).head?

structure ClaimRequest where
  agentId : String
  machineId : Option String
  bridgeId : Option String
  executionModes : List String

structure View where
  known : Bool
  busy : Bool

/-- What the transaction reads besides the runs and bridges. `view` is `none`
when it cannot be read. -/
structure Circumstances where
  now : Nat
  activeRunStaleMinutes : Int
  turnedAway : Option String
  consoleOwner : Option String
  view : Option View
  capabilities : List String
  agentRuntime : String
  executionMode : String → Option String × Option String

def Circumstances.seconds (c : Circumstances) : Nat := c.now / 1000

structure Block where
  runId : String
  reason : String
  ownerBridgeId : String
  ownerBridgeKind : String
  currentBridgeId : String
  retryAfterSeconds : Option Int
  hint : String
  deriving DecidableEq

def activeRunBridgeStaleSeconds : Int := 120

def unownedStaleSeconds (minutes : Int) : Int :=
  max 300 ((if minutes = 0 then 30 else minutes) * 60)

/-- Milliseconds since a stamp, negative when it lies ahead of the clock. -/
def age (now stamp : Nat) : Int := (now : Int) - 1000 * stamp

def retryAfter (staleSeconds spent : Int) : Int := max 1 ((1000 * staleSeconds - spent) / 1000)

/-- The owner's bridge, as long as it is neither superseded nor silent. -/
def heartbeating (db : Db) (agentId owner : String) (now : Nat) : Option Bridge :=
  (db.bridges.find? fun bridge => bridge.id = owner ∧ bridge.agentId = agentId).filter
    fun bridge => strip bridge.supersededBy = "" ∧ bridge.lastSeen ≠ 0 ∧
      age now bridge.lastSeen < 1000 * activeRunBridgeStaleSeconds

/-- The staleness rule: why an active run keeps the claim from going on, or
`none` when the claim takes it for dead. -/
def activeRunBlock (db : Db) (req : ClaimRequest) (c : Circumstances) (id : String) (run : Run) :
    Option Block :=
  let owner := strip run.claimBridgeId
  let current := req.bridgeId.getD ""
  -- The caller's own run: it is answered without a reason or a time to wait.
  if owner ≠ "" ∧ req.bridgeId = some owner then some ⟨id, "", owner, "", current, none, ""⟩
  else match (if owner = "" then none else heartbeating db req.agentId owner c.now) with
    | some bridge => some ⟨id, "active_run_owner_bridge_still_heartbeating", owner,
        bridge.bridgeKind, current,
        some (retryAfter activeRunBridgeStaleSeconds (age c.now bridge.lastSeen)),
        "The active run owner bridge is still heartbeating; waiting avoids killing a live wrapper-managed turn."⟩
    | none =>
        let staleSeconds := if owner = "" then unownedStaleSeconds c.activeRunStaleMinutes
          else activeRunBridgeStaleSeconds
        -- A run whose stamps name no time is past every window.
        let spent := if run.activeSince = 0 then 1000 * (staleSeconds + 1)
          else age c.now run.activeSince
        if spent < 1000 * staleSeconds then
          some ⟨id, "active_run_owned_by_previous_bridge", owner, "", current,
            some (retryAfter staleSeconds spent),
            if owner = "" then
              "An unowned terminal turn is still within its stale timeout. Waiting avoids interrupting a visible PTY turn."
            else
              "A previous bridge claimed this run recently. Waiting avoids killing a run that may still complete."⟩
        else none

/-- `f"{req.bridgeId}"`. -/
def bridgeText (req : ClaimRequest) : String := req.bridgeId.getD "None"

def failStaleRun (db : Db) (req : ClaimRequest) (c : Circumstances) (id : String) (run : Run) : Db :=
  let owner := strip run.claimBridgeId
  let ownerLabel := if owner = "" then "unowned" else owner
  let failed := db.update id fun run => { run with
    status := "failed"
    summary := "Auto-healed: bridge \"" ++ ownerLabel ++ "\" replaced by \"" ++ bridgeText req ++ "\""
    finishedAt := some c.seconds }
  (failed.append id "auto_heal" ("Stale run cleanup: " ++ ownerLabel ++ " -> " ++ bridgeText req))
    |>.failPendingControls id ("Stale run cleaned by live bridge \"" ++ bridgeText req ++ "\".")
      c.seconds

/-- The gate: the first active run blocks the claim or is failed. -/
def clearActiveRun (db : Db) (req : ClaimRequest) (c : Circumstances) : Except Block Db :=
  -- One active run is read and judged, and the state is not read again.
  match db.activeRun req.agentId with
  | none => .ok db
  | some (id, run) =>
      match activeRunBlock db req c id run with
      | some block => .error block
      | none => .ok (failStaleRun db req c id run)

/-! ### The queue -/

inductive Gate where
  | withhold
  | hold
  | steer
  | proceed
  deriving DecidableEq

def claimDecision (view : View) (steerable : Bool) : Gate :=
  if !view.known then .withhold
  else if view.busy then (if steerable then .steer else .hold)
  else .proceed

def supportedModes (req : ClaimRequest) : List String :=
  (req.executionModes.map normalise).filter (· ≠ "")

/-- The first 25 queued runs that satisfy `keep`, in the order they were requested. -/
def Db.queued (db : Db) (agentId : String) (keep : Run → Bool) : List (String × Run) :=
  ((db.runs.entries.filter fun entry =>
    entry.2.targetAgent = agentId ∧ entry.2.status = "queued" ∧ keep entry.2).insertionSort
      fun left right => left.2.requestedAt ≤ right.2.requestedAt).take 25

def modeOf (run : Run) : String :=
  normalise (if run.executionMode = "" then "managed" else run.executionMode)

/-- `_has_claimable_steerable_run`. -/
def hasClaimableSteerableRun (db : Db) (req : ClaimRequest) (c : Circumstances) : Bool :=
  "steer" ∈ c.capabilities && (db.queued req.agentId fun _ => true).any fun entry =>
    let run := entry.2
    !run.queueIfBusy && run.steerIfBusy && modeOf run ∈ ["channel", "resident"] &&
      (supportedModes req = [] || modeOf run ∈ supportedModes req) &&
      (strip run.requestedRuntime = "" ||
        normalizeRuntime (strip run.requestedRuntime) = c.agentRuntime)

def gate (db : Db) (req : ClaimRequest) (c : Circumstances) : Gate :=
  match c.view with
  | none => .withhold
  | some view =>
      claimDecision view (view.known && view.busy && hasClaimableSteerableRun db req c)

/-- A queued run this agent cannot work is ended where it stands. -/
def skip (db : Db) (c : Circumstances) (id status : String) (error : Option String)
    (event : String) : Db :=
  (db.update id fun run => { run with
    status := status
    errorText := error.getD run.errorText
    finishedAt := some c.seconds }).append id "skipped" event

/-- `_select_claimable_run`: the first run the bridge can take. -/
def selectClaimableRun (req : ClaimRequest) (c : Circumstances) (holdExplicitQueue : Bool) :
    Db → List (String × Run) → Db × Option (String × Run)
  | db, [] => (db, none)
  | db, (id, run) :: rest =>
      let dispatchMode := normalise run.dispatchMode
      let finalStatus := if dispatchMode = "require_start" then "failed" else "cancelled"
      -- A busy agent takes steered work only; the rest stays queued for later.
      if holdExplicitQueue && (run.queueIfBusy || !run.steerIfBusy) then
        selectClaimableRun req c holdExplicitQueue db rest
      else if supportedModes req ≠ [] ∧ modeOf run ∉ supportedModes req then
        selectClaimableRun req c holdExplicitQueue db rest
      else if dispatchMode = "message_only" then
        selectClaimableRun req c holdExplicitQueue
          (skip db c id "cancelled" none "Dispatch mode is message_only") rest
      else if run.requestedRuntime ≠ "" ∧ normalizeRuntime run.requestedRuntime ≠ c.agentRuntime then
        selectClaimableRun req c holdExplicitQueue db rest
      else
        let (mode, reason) := c.executionMode run.requestedRuntime
        if reason.getD "" ≠ "" ∨ mode.getD "" = "" then
          let text := if reason.getD "" = "" then "active dispatch unavailable" else reason.getD ""
          selectClaimableRun req c holdExplicitQueue (skip db c id finalStatus (some text) text) rest
        else if run.executionMode ≠ "" ∧ run.executionMode ≠ mode.getD "" then
          let text := "Run execution mode \"" ++ run.executionMode ++
            "\" does not match the current capabilities of agent \"" ++ req.agentId ++ "\" (" ++
            mode.getD "" ++ ")."
          selectClaimableRun req c holdExplicitQueue (skip db c id finalStatus (some text) text) rest
        else (db, some (id, run))

def markClaimed (db : Db) (req : ClaimRequest) (c : Circumstances) (id : String) : Db :=
  (db.update id fun run => { run with
    status := "claimed"
    claimedAt := some c.seconds
    claimMachineId := req.machineId.getD ""
    claimBridgeId := req.bridgeId.getD ""
    runtime := c.agentRuntime }).append id "claimed" ("machine=" ++ req.machineId.getD "")

/-! ### The attempt -/

inductive Answer where
  | turnedAway (reason : String)
  | blockedBy (block : Block)
  | consoleOwner (reason : String)
  | noRun
  | handedOut (runId : String)
  deriving DecidableEq

def claimFromQueue (db : Db) (req : ClaimRequest) (c : Circumstances) : Db × Answer :=
  let decision := gate db req c
  if decision = .withhold ∨ decision = .hold then (db, .noRun)
  else
    match selectClaimableRun req c (decision = .steer) db
        (db.queued req.agentId fun run => run.resultMessageId = "") with
    | (selected, none) => (selected, .noRun)
    | (selected, some (id, _)) => (markClaimed selected req c id, .handedOut id)

/-- `_claim_dispatch_once`. Every return commits what was written before it. -/
def claimDispatchOnce (db : Db) (req : ClaimRequest) (c : Circumstances) : Db × Answer :=
  match c.turnedAway with
  | some reason => (db, .turnedAway reason)
  | none =>
      match clearActiveRun db req c with
      | .error block => (db, .blockedBy block)
      | .ok cleared =>
          match c.consoleOwner with
          | some reason => (cleared, .consoleOwner reason)
          | none => claimFromQueue cleared req c

/-! ### A turn typed into a console -/

def runtimesThatTrackATurn : List String := ["claude-code", "codex", "hermes", "opencode", "pi"]

/-- `_record_terminal_delivery_contract`: a message typed into a console joins
the turn typed there before it, or is recorded as a turn of its own. -/
def recordTerminalDeliveryContract (db : Db) (runId recipientId runtime terminalId controlId
    sourceMessageId : String) (now : Nat) : Db :=
  let normalized := normalizeRuntime runtime
  let tracks := decide (normalized ∈ runtimesThatTrackATurn)
  let existing := if tracks then
      (db.activeRuns recipientId).find? fun entry => entry.2.dispatchMode = "terminal" ∧
        entry.2.executionMode = "managed" ∧ entry.2.runtime = normalized
    else none
  match existing with
  | some (parent, _) =>
      (db.append parent "terminal_delivered" ("Additional dashboard input delivered into terminal " ++
        terminalId ++ " with control " ++ controlId)).append parent "terminal_coalesced"
          ("Coalesced message " ++ (if sourceMessageId = "" then "unknown" else sourceMessageId) ++
            " into active terminal-backed turn")
  | none =>
      let contract : Run :=
        ⟨recipientId, if tracks then "running" else "delivered", "terminal", "managed", "",
          normalized, "", "", "", "", "", false, false, now, none,
          if tracks then some now else none, none⟩
      let delivered := { db with runs := db.runs.set runId contract }.append runId "terminal_delivered"
        ("Delivered into terminal " ++ terminalId ++ " with control " ++ controlId)
      if tracks then
        delivered.append runId "running" "Awaiting explicit reply from terminal-backed turn"
      else delivered

end AifyComms.DispatchClaim
