import Mathlib.Data.List.Nodup

/-!
One aify-env publication: the validator of `api_core/agent_state_ingest.py`
over a decoded JSON document, and the detached fields of
`agent_state_mirror.prepare`. `ofJson` makes every check in the order the
validator makes it and under the validator's message, and hands over the
fields that the store and the mirror read. Fields that are only checked
(`inputs`, causes, processes, turns, launches) are checked and dropped.
-/

namespace AifyComms.AgentState

/-- A decoded document. `_decode` refuses an object with a key twice. -/
inductive Json where
  | null
  | bool (value : Bool)
  | int (value : Int)
  | float
  | str (value : String)
  | arr (items : List Json)
  | obj (fields : List (String × Json))

namespace Json

/-- `value.get(key)`, and `value[key]` where the key is known to be there. -/
def get (value : Json) (key : String) : Json :=
  match value with
  | .obj fields => (fields.lookup key).getD .null
  | _ => .null

def has (value : Json) (key : String) : Bool :=
  match value with
  | .obj fields => (fields.lookup key).isSome
  | _ => false

def isNull : Json → Bool
  | .null => true
  | _ => false

end Json

/-- `InvalidPublication` with its message, or the checked value. -/
abbrev Checked := Except String

def require (condition : Bool) (message : String) : Checked Unit :=
  if condition then .ok () else .error message

def checkObject (value : Json) (required optional : List String) : Checked Unit :=
  match value with
  | .obj fields =>
      let keys := fields.map Prod.fst
      require (required.all (· ∈ keys) && keys.all (· ∈ required ++ optional))
        "missing or unknown fields"
  | _ => .error "expected object"

def text : Json → Checked String
  | .str value => if value = "" then .error "expected nonempty string" else .ok value
  | _ => .error "expected nonempty string"

def safeInteger : Nat := 9007199254740991

def integer (minimum : Nat) : Json → Checked Nat
  | .int value =>
      if (minimum : Int) ≤ value ∧ value ≤ safeInteger then .ok value.toNat
      else .error "expected safe integer"
  | _ => .error "expected safe integer"

def flag : Json → Checked Bool
  | .bool value => .ok value
  | _ => .error "expected boolean"

/-- A word of a vocabulary, as what `parse` makes of it. -/
def word {α : Type} (parse : String → Option α) : Json → Checked α
  | .str value =>
      match parse value with
      | some meaning => .ok meaning
      | none => .error "unrecognised vocabulary"
  | _ => .error "unrecognised vocabulary"

def oneOf (vocabulary : List String) (value : String) : Option String :=
  if value ∈ vocabulary then some value else none

/-- `None` passes; anything else is checked. -/
def optional {α : Type} (check : Json → Checked α) (value : Json) : Checked (Option α) :=
  if value.isNull then .ok none else some <$> check value

/-! ### Records -/

inductive State where
  | unknown | stopped | misconfigured | working | blocked | shell | idle | starting | available
  | offline
  deriving DecidableEq

def State.ofWord : String → Option State
  | "unknown" => some .unknown
  | "stopped" => some .stopped
  | "misconfigured" => some .misconfigured
  | "working" => some .working
  | "blocked" => some .blocked
  | "shell" => some .shell
  | "idle" => some .idle
  | "starting" => some .starting
  | "available" => some .available
  | "offline" => some .offline
  | _ => none

def causes : List String :=
  ["unrecognised", "operator-stop", "conflict", "config", "identity-unknown", "screen", "turn-open",
    "at-prompt", "starting", "startable", "absent", "turn-unknown"]

def processStates : List String := ["running", "starting", "exited", "none", "unknown"]

def verifiedWords : List String := ["yes", "no", "unknown"]

/-- `record_of`: what the mirror holds of one published record. -/
structure Record where
  agentId : String
  lifetime : Option String
  state : State
  busy : Bool
  deriving DecidableEq

def checkLaunch (launch : Json) : Checked Unit := do
  checkObject launch ["cwd", "definition"] []
  let _ ← optional text (launch.get "cwd")
  let definition := launch.get "definition"
  if definition.isNull then return ()
  checkObject definition ["storeId", "incarnation", "revision"] []
  let _ ← text (definition.get "storeId")
  let _ ← integer 1 (definition.get "incarnation")
  let _ ← integer 1 (definition.get "revision")

def checkProcess (process : Json) : Checked Unit := do
  checkObject process ["state", "verified", "pid"] []
  let _ ← word (oneOf processStates) (process.get "state")
  let _ ← word (oneOf verifiedWords) (process.get "verified")
  let _ ← optional (integer 1) (process.get "pid")

def checkTurn (turn : Json) : Checked Unit := do
  checkObject turn ["open", "startedAtUs", "lastEventAtUs", "awaitingInput", "busyIf"] ["ageMs"]
  if turn.has "ageMs" then
    let _ ← integer 0 (turn.get "ageMs")
  let _ ← flag (turn.get "open")
  let _ ← flag (turn.get "awaitingInput")
  let _ ← integer 0 (turn.get "startedAtUs")
  let _ ← integer 0 (turn.get "lastEventAtUs")
  let busyIf := turn.get "busyIf"
  checkObject busyIf ["strict", "verifiedRenewal"] []
  -- The values in the object's own order; both are checked by the same rule.
  let _ ← flag (busyIf.get "strict")
  let _ ← flag (busyIf.get "verifiedRenewal")

/-- `_record`, then `record_of`. -/
def record (value : Json) : Checked Record := do
  checkObject value ["agentId", "lifetime", "state", "stateCause", "busy", "process", "turn"]
    ["name", "role", "launch"]
  let _ ← optional text (value.get "name")
  let _ ← optional text (value.get "role")
  let _ ← optional checkLaunch (value.get "launch")
  let agentId ← text (value.get "agentId")
  let lifetime ← optional text (value.get "lifetime")
  let state ← word State.ofWord (value.get "state")
  let _ ← word (oneOf causes) (value.get "stateCause")
  let busy ← flag (value.get "busy")
  checkProcess (value.get "process")
  let _ ← optional checkTurn (value.get "turn")
  return ⟨agentId, lifetime, state, busy⟩

/-! ### Publications -/

inductive Kind where
  | snapshot
  | changes
  | unavailable
  | retired
  deriving DecidableEq

def Kind.ofWord : String → Option Kind
  | "snapshot" => some .snapshot
  | "changes" => some .changes
  | "unavailable" => some .unavailable
  | "retired" => some .retired
  | _ => none

/-- A removed agent's id and the lifetime that ended. -/
structure Removed where
  agentId : String
  lifetime : String
  deriving DecidableEq

/-- A publisher: machine and instance. -/
abbrev Key := String × String

/-- A publication that passed the validator: no agent is listed twice. -/
structure Publication where
  kind : Kind
  key : Key
  generation : Nat
  incarnationId : String
  number : Nat
  reason : Option String
  agents : List Record
  removed : List Removed
  build : Option String
  reportEveryMs : Option Nat
  distinct : (agents.map Record.agentId).Nodup

def isBuild (value : String) : Bool :=
  let chars := value.toList
  decide (1 ≤ chars.length) && decide (chars.length ≤ 200) &&
    chars.all fun c => 0x21 ≤ c.toNat && c.toNat ≤ 0x7e

def build : Json → Checked String
  | .str value => if isBuild value then .ok value else .error "expected build string"
  | _ => .error "expected build string"

/-- `REPORT_EVERY_MS_BOUNDS`. -/
def isReportInterval (value : Int) : Bool := 1000 ≤ value && value ≤ 3600000

def reportEvery : Json → Checked Nat
  | .int value =>
      if isReportInterval value then .ok value.toNat
      else .error "expected reportEveryMs within bounds"
  | _ => .error "expected reportEveryMs within bounds"

/-- A field that may be missing but never null. -/
def whenPresent {α : Type} (check : Json → Checked α) (body : Json) (key : String) :
    Checked (Option α) :=
  if body.has key then some <$> check (body.get key) else .ok none

def commonFields : List String :=
  ["kind", "machineId", "instance", "generation", "incarnationId", "publication", "inputs"]

/-- The fields a body of this kind may have, and its own reason or completeness. -/
def checkKind (body : Json) : Kind → Checked (Option String)
  | .unavailable => do
      checkObject body (commonFields ++ ["reason"]) ["build", "reportEveryMs"]
      some <$> text (body.get "reason")
  | .retired => do
      checkObject body (commonFields ++ ["reason"]) ["build"]
      some <$> word (oneOf ["shutdown"]) (body.get "reason")
  | .snapshot => do
      checkObject body (commonFields ++ ["complete", "agents"]) ["removed", "build", "reportEveryMs"]
      match body.get "complete" with
      | .bool true => .ok none
      | _ => .error "snapshot must be complete"
  | .changes => do
      checkObject body (commonFields ++ ["agents", "removed"]) ["build", "reportEveryMs"]
      return none

def checkInputs : Json → Checked Unit
  | .obj fields =>
      require (fields.all fun field => match field.2 with
        | .str _ => true
        | _ => false) "inputs must be string object"
  | _ => .error "inputs must be string object"

/-- A list of records in which no agent is listed twice. -/
abbrev DistinctRecords := { records : List Record // (records.map Record.agentId).Nodup }

def DistinctRecords.add (records : DistinctRecords) (added : Record)
    (absent : added.agentId ∉ records.1.map Record.agentId) : DistinctRecords := by
  refine ⟨records.1 ++ [added], ?_⟩
  rw [List.map_append, List.map_singleton]
  exact records.2.append (List.nodup_singleton _) (by simpa using absent)

/-- The loop over `agents`: each record is checked, then compared with the ids before it. -/
def agentRecords : List Json → DistinctRecords → Checked DistinctRecords
  | [], records => .ok records
  | item :: rest, records => do
      let checked ← record item
      if absent : checked.agentId ∉ records.1.map Record.agentId then
        agentRecords rest (records.add checked absent)
      else .error "duplicate agentId"

def removedRecords : List Json → Checked (List Removed)
  | [] => .ok []
  | item :: rest => do
      checkObject item ["agentId", "lifetime"] []
      let agentId ← text (item.get "agentId")
      let lifetime ← text (item.get "lifetime")
      let others ← removedRecords rest
      return ⟨agentId, lifetime⟩ :: others

/-- The rows of a data publication; the other kinds carry none. -/
def rows (body : Json) : Kind → Checked (DistinctRecords × List Removed)
  | .unavailable | .retired => .ok (⟨[], List.nodup_nil⟩, [])
  | .snapshot | .changes =>
      match body.get "agents", (if body.has "removed" then body.get "removed" else .arr []) with
      | .arr agents, .arr removed => do
          let records ← agentRecords agents ⟨[], List.nodup_nil⟩
          return (records, ← removedRecords removed)
      | _, _ => .error "expected row arrays"

/-- `_validate`, with the fields `prepare` detaches. -/
def ofJson (body : Json) : Checked Publication := do
  match body with
  | .obj _ => pure ()
  | _ => .error "expected publication object"
  let kind ← word Kind.ofWord (body.get "kind")
  let reason ← checkKind body kind
  let built ← whenPresent build body "build"
  let reportEveryMs ← whenPresent reportEvery body "reportEveryMs"
  let machineId ← text (body.get "machineId")
  let instanceId ← text (body.get "instance")
  let incarnationId ← text (body.get "incarnationId")
  let generation ← integer 1 (body.get "generation")
  let number ← integer 1 (body.get "publication")
  checkInputs (body.get "inputs")
  let (records, removed) ← rows body kind
  return ⟨kind, (machineId, instanceId), generation, incarnationId, number, reason, records.1,
    removed, built, reportEveryMs, records.2⟩

end AifyComms.AgentState
