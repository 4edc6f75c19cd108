import AifyComms.DefinitionPush
import Mathlib.Logic.Relation

/-!
An operator's change to a defined agent, queued for the host that owns it:
`api_core/definition_requests.py`, and the admission of a creation in
`definition_creation.py`. Each function runs in its caller's transaction, which is
rolled back when it refuses, so a refusal leaves the requests as they were.
-/

namespace AifyComms.DefinitionRequests
open PyText DefinitionSnapshot DefinitionPush

inductive Status where
  | pending
  | claimed
  | done
  | refused
  | expired
  | superseded
  deriving DecidableEq

def Status.name : Status → String
  | .pending => "pending"
  | .claimed => "claimed"
  | .done => "done"
  | .refused => "refused"
  | .expired => "expired"
  | .superseded => "superseded"

/-- `OPEN_STATUSES`. -/
def Status.isOpen : Status → Bool
  | .pending | .claimed => true
  | _ => false

/-- `_FINISHED`. -/
def Status.isFinished : Status → Bool
  | .done | .refused | .expired => true
  | _ => false

/-- A patch: `{"remove": true}`, an object of fields with their JSON texts, the whole
agent of a creation, or no object. -/
inductive Patch where
  | remove
  | fields (list : List (String × String))
  | agent (definition : Agent)
  | other
  deriving DecidableEq

/-- What the service itself owes or did about a done request; the column's text. -/
inductive Consequence where
  | none
  | pending
  | removed
  | nothingRemoved (why : String)
  | spawnPending
  | spawnQueued (lifecycleId : String)
  | nothingSpawned (why : String)
  deriving DecidableEq

def Consequence.text : Consequence → String
  | .none => ""
  | .pending => "pending"
  | .removed => "removed"
  | .nothingRemoved why => "nothing removed: " ++ why
  | .spawnPending => "spawn pending"
  | .spawnQueued lifecycleId => "spawn queued " ++ lifecycleId
  | .nothingSpawned why => "nothing spawned: " ++ why

/-- The definition a request is for, as it was held when the request was made. -/
structure Target where
  agentId : String
  machineId : String
  storeId : String
  expectedIncarnation : Nat
  expectedRevision : Nat
  deriving DecidableEq

def Target.lifetime (target : Target) : Lifetime :=
  ⟨target.machineId, target.storeId, target.expectedIncarnation⟩

/-- The first message of a spawned agent. -/
structure Brief where
  subject : String
  body : String
  priority : String
  deriving DecidableEq

/-- A row of `definition_requests`, which has the request id as its key. -/
structure Request extends Target where
  patch : Patch
  requestedBy : String
  status : Status
  outcome : String
  resultIncarnation : Option Nat
  resultRevision : Option Nat
  createdAt : Nat
  expiresAt : Nat
  claimedAt : Option Nat
  finishedAt : Option Nat
  consequence : Consequence
  brief : Option Brief
  deriving DecidableEq

abbrev Requests := Dict String Request

/-- `request_record`: every column but the brief. -/
def requestRecord (id : String) (row : Request) : String × Request := (id, { row with brief := none })

def requestTtlSeconds : Nat := 600

/-- `EDITABLE_FIELDS`. -/
def editableFields : List String :=
  ["name", "role", "harness", "mode", "workspace", "model", "effort", "instructions", "env",
    "herdrSpace"]

/-- `is_creation`: lifetime 0, revision 0. -/
def isCreation (target : Target) : Bool :=
  decide (target.expectedIncarnation = 0) && decide (target.expectedRevision = 0)

/-- `is_removal`. -/
def isRemoval (patch : Patch) : Bool := decide (patch = .remove)

/-- `json_type(patch, '$.remove') = 'true'`. -/
def Patch.removes : Patch → Bool
  | .remove => true
  | .fields list => list.any fun field => decide (field = ("remove", "true"))
  | _ => false

def fieldProblem (name : String) : String :=
  String.join ["patch: '", name, "' is not an agent field a request may change"]

/-- `patch_problems`. -/
def patchProblems : Patch → List String
  | .remove => []
  | .fields list =>
      if list.isEmpty then
        ["patch: an object of agent fields to change, or \x7b\"remove\": true\x7d"]
      else (((list.map Prod.fst).insertionSort (· ≤ ·)).filter fun name =>
        decide (name ∉ editableFields)).map fieldProblem
  | .agent definition => if definition.secrets.isSome then [fieldProblem "secrets"] else []
  | .other => ["patch: an object of agent fields to change, or \x7b\"remove\": true\x7d"]

def expiredText : String := "no host claimed it within 10 minutes"

def expire (now : Nat) (row : Request) : Request :=
  if row.status = .pending ∧ row.expiresAt ≤ now then
    { row with status := .expired, outcome := expiredText, finishedAt := some now }
  else row

/-- `expire_unclaimed`. -/
def expireUnclaimed (now : Nat) (requests : Requests) : Requests :=
  requests.mapValues fun _ => expire now

/-- `_undeliverable`. -/
def undeliverable (target : Target) (claimed : Bool) (held : Option Definition)
    (currentStore : String) : String :=
  let when := if claimed then "after" else "before"
  if target.storeId ≠ currentStore then "made for a store this machine has since replaced"
  else if isCreation target then
    match held with
    | some held =>
        if (held.machineId, held.storeId) ≠ (target.machineId, target.storeId) then
          String.join [target.agentId, " was defined on ", held.machineId, " ", when,
            " its host claimed this"]
        else ""
    | none => ""
  else match held with
    | none => String.join ["the definition was withdrawn ", when, " its host claimed this"]
    | some held =>
        if held.machineId ≠ target.machineId ∨ held.storeId ≠ target.storeId then
          String.join ["the definition moved to ", held.machineId, " ", when,
            " its host claimed this"]
        else ""

/-- `_settle_undeliverable`. -/
def settleUndeliverable (reason : String) (now : Nat) (row : Request) : Request :=
  if row.status = .claimed then
    { row with status := .superseded, outcome := reason, finishedAt := none }
  else { row with status := .refused, outcome := reason, finishedAt := some now }

def storeOf (stores : Dict String StoreRow) (machineId : String) : String :=
  ((stores.get? machineId).map StoreRow.storeId).getD ""

/-- One waiting request, judged by the rule a claim uses. -/
def settleWaiting (held : Option Definition) (currentStore : String) (now : Nat) (row : Request) :
    Request :=
  let reason := undeliverable row.toTarget (decide (row.status = .claimed)) held currentStore
  if reason ≠ "" then settleUndeliverable reason now row else row

/-- `_refuse_undeliverable`. -/
def refuseUndeliverable (stores : Dict String StoreRow) (agentId : String)
    (held : Option Definition) (now : Nat) (requests : Requests) : Requests :=
  requests.mapValues fun _ row =>
    if row.agentId = agentId ∧ row.status.isOpen then
      settleWaiting held (storeOf stores row.machineId) now row
    else row

/-- The request of the agent that is waiting for its host. -/
def waiting (requests : Requests) (agentId : String) : Option String :=
  (requests.entries.find? fun entry =>
    decide (entry.2.agentId = agentId) && entry.2.status.isOpen).map Prod.fst

def queued (target : Target) (patch : Patch) (requestedBy : String) (brief : Option Brief)
    (now : Nat) : Request where
  toTarget := target
  patch := patch
  requestedBy := requestedBy
  status := .pending
  outcome := ""
  resultIncarnation := none
  resultRevision := none
  createdAt := now
  expiresAt := now + requestTtlSeconds
  claimedAt := none
  finishedAt := none
  consequence := .none
  brief := brief

abbrev Answer (Value : Type) := Requests × Except Refusal Value

def refuse {Value : Type} (requests : Requests) (status : Nat) (detail : List String) : Answer Value :=
  (requests, .error ⟨status, String.join detail⟩)

/-- The insert. Its id is the primary key: a repeated one fails and rolls back. -/
def insert (before requests : Requests) (id : String) (row : Request) : Answer (String × Request) :=
  if (requests.get? id).isSome then
    refuse before 500 ["UNIQUE constraint failed: definition_requests.id"]
  else (requests.set id row, .ok (requestRecord id row))

/-- `admit`. `operator` is the actor the operator's proof names, and `id` the minted one. -/
def admission (tables : Tables) (agentId : String) (patch : Patch) (operator : Option String)
    (id : String) (now : Nat) (requests : Requests) : Answer (String × Request) :=
  match operator with
  | none =>
      refuse requests 403 ["only the operator may change \"", agentId, "\", which a host defines"]
  | some actor =>
      match tables.definitions.get? agentId with
      | none =>
          refuse requests 404 ["\"", agentId,
            "\" is not defined by any host, so there is no definition to change"]
      | some held =>
          if patchProblems patch ≠ [] then
            refuse requests 422 [String.intercalate "; " (patchProblems patch)]
          else
            let settled := refuseUndeliverable tables.stores agentId (some held) now
              (expireUnclaimed now requests)
            match waiting settled agentId with
            | some waitingId =>
                refuse requests 409 ["\"", agentId, "\" already has a change waiting for its host (",
                  waitingId, "); ask again once that one is done. If that host is gone for good, ",
                  "release the definition from it (POST /agent-definitions/", agentId, "/release)"]
            | none =>
                insert requests settled id (queued
                  ⟨agentId, held.machineId, held.storeId, held.incarnation, held.revision⟩ patch
                  actor none now)

/-- `admit_creation`. Its caller has found that no host defines the id. -/
def admitCreation (tables : Tables) (agentId machineId : String) (agent : Agent)
    (brief : Option Brief) (requestedBy id : String) (now : Nat) (requests : Requests) :
    Answer (String × Request) :=
  if (tables.definitions.get? agentId).isSome then
    refuse requests 409 ["\"", agentId, "\" is already defined"]
  else match tables.stores.get? machineId with
    | none =>
        refuse requests 409 ["the host on ",
          if machineId = "" then "an unknown machine" else machineId,
          " has published no agent definitions, so it cannot define \"", agentId,
          "\"; check `aify-env doctor` there"]
    | some store =>
        match waiting requests agentId with
        | some waitingId =>
            refuse requests 409 ["\"", agentId, "\" already has a request waiting for its host (",
              waitingId, ")"]
        | none =>
            insert requests requests id (queued ⟨agentId, machineId, store.storeId, 0, 0⟩
              (.agent agent) requestedBy brief now)

def markClaimed (now : Nat) (row : Request) : Request :=
  { row with status := .claimed, claimedAt := some (row.claimedAt.getD now) }

/-- A waiting request of the claiming machine: handed out, or settled. -/
def claimRow (definitions : Dict String Definition) (machineId currentStore : String) (now : Nat)
    (row : Request) : Request :=
  if row.machineId = machineId ∧ row.status.isOpen then
    let reason := undeliverable row.toTarget (decide (row.status = .claimed))
      (definitions.get? row.agentId) currentStore
    if reason ≠ "" then settleUndeliverable reason now row else markClaimed now row
  else row

/-- The ids a claim hands out, oldest first. -/
def delivered (tables : Tables) (machineId : String) (requests : Requests) : List String :=
  ((requests.entries.filter fun entry =>
    decide (entry.2.machineId = machineId) && entry.2.status.isOpen &&
      decide (undeliverable entry.2.toTarget (decide (entry.2.status = .claimed))
        (tables.definitions.get? entry.2.agentId) (storeOf tables.stores machineId) = "")).insertionSort
    fun left right => left.2.createdAt < right.2.createdAt ∨
      left.2.createdAt = right.2.createdAt ∧ left.1 ≤ right.1).map Prod.fst

/-- `claim`. Each row is judged on the definitions and the store alone, so the rows are
settled independently of each other. -/
def claim (tables : Tables) (environment : Option Environment) (bridgeId machineId : String)
    (now : Nat) (requests : Requests) : Answer (List (String × Request)) :=
  let refusal := fenceRefusal environment bridgeId machineId
  if refusal ≠ "" then refuse requests 409 ["definition request claim refused: ", refusal]
  else
    let current := expireUnclaimed now requests
    let handed := current.mapValues fun _ =>
      claimRow tables.definitions machineId (storeOf tables.stores machineId) now
    (handed, .ok ((delivered tables machineId current).filterMap fun id =>
      (handed.get? id).map (requestRecord id)))

/-- The body of a host's report. `status` is `none` for any text but the two. -/
structure Report where
  bridgeId : String
  machineId : String
  status : Option Status
  outcome : Option String
  resultIncarnation : Option Nat
  resultRevision : Option Nat
  deriving DecidableEq

/-- `report_problems`. -/
def reportProblems (body : Report) : List String :=
  if body.status ≠ some .done ∧ body.status ≠ some .refused then ["status: done or refused"]
  else if body.outcome = none then ["outcome: a string"]
  else if body.status = some .done ∧ ¬ (isCounter (body.resultIncarnation.getD 0) = true ∧
      isCounter (body.resultRevision.getD 0) = true) then
    [String.join ["resultIncarnation, resultRevision: a done request names the lifetime and ",
      "revision it left"]]
  else []

/-- `result`, as the report names it. -/
def resultOf (body : Report) : Option Nat × Option Nat :=
  if body.status = some .done then (body.resultIncarnation, body.resultRevision) else (none, none)

/-- What the service owes about a request its host reports on. -/
def owed (body : Report) (row : Request) : Consequence :=
  if body.status ≠ some .done then .none
  else if isRemoval row.patch then .pending
  else if isCreation row.toTarget then .spawnPending
  else .none

def reported (body : Report) (now : Nat) (row : Request) : Request :=
  { row with
    status := body.status.getD row.status
    outcome := body.outcome.getD ""
    resultIncarnation := (resultOf body).1
    resultRevision := (resultOf body).2
    finishedAt := some now
    consequence := owed body row }

def repeats (body : Report) (row : Request) : Bool :=
  decide (some row.status = body.status) && decide (row.resultIncarnation = (resultOf body).1) &&
    decide (row.resultRevision = (resultOf body).2)

/-- `report`. -/
def report (environment : Option Environment) (id : String) (body : Report) (now : Nat)
    (requests : Requests) : Answer (String × Request) :=
  let refusal := fenceRefusal environment body.bridgeId body.machineId
  if refusal ≠ "" then refuse requests 409 ["definition request report refused: ", refusal]
  else if reportProblems body ≠ [] then
    refuse requests 422 [String.intercalate "; " (reportProblems body)]
  else
    let current := expireUnclaimed now requests
    match current.get? id with
    | none => refuse requests 404 ["no definition request ", id]
    | some row =>
        if row.machineId ≠ strip body.machineId then
          refuse requests 409 ["definition request ", id, " is for ", row.machineId]
        else if row.status.isFinished then
          if repeats body row then (current, .ok (requestRecord id row))
          else refuse requests 409 ["definition request ", id, " is already ", row.status.name]
        else if row.status ≠ .claimed ∧ row.status ≠ .superseded then
          refuse requests 409 ["definition request ", id, " was never claimed; claim it first"]
        else
          (current.modify id (reported body now), .ok (requestRecord id (reported body now row)))

def settle (why : String) (row : Request) : Request :=
  if row.consequence = .pending then
    { row with consequence := if why = "" then .removed else .nothingRemoved why }
  else row

/-- `settle_removal`. -/
def settleRemoval (id why : String) (requests : Requests) : Requests := requests.modify id (settle why)

/-- `settled_refusal`. -/
def settledRefusal (id : String) (requests : Requests) : String :=
  if (requests.get? id).any fun row => decide (row.consequence = .pending) then ""
  else "another report has already settled it"

/-- `_agent_tombstone`. -/
def hasTombstone (tables : Tables) (agentId : String) : Bool :=
  tables.tombstones.keys.any fun id => noCase id agentId

def movedText (found : Lifetime) : String :=
  String.join ["the definition is now ", found.machineId, " store ", found.storeId, " lifetime ",
    toString found.incarnation, ", not the one this removal was for"]

/-- `removal_refusal`. -/
def removalRefusal (tables : Tables) (target : Target) : String :=
  match heldAt tables target.agentId with
  | some found => if found = target.lifetime then "" else movedText found
  | none =>
      match tables.agents.get? target.agentId with
      | some row =>
          if row.definitionWithdrawn = some target.lifetime then ""
          else "the definition this removal was for ended another way"
      | none =>
          if hasTombstone tables target.agentId then ""
          else "the definition this removal was for ended another way"

/-- `_removed_incarnation`. -/
def removedIncarnation (requests : Requests) : RemovalHistory := fun agentId storeId =>
  ((requests.entries.filter fun entry =>
    noCase entry.2.agentId agentId && decide (entry.2.storeId = storeId) &&
      decide (entry.2.status = .done) &&
      (decide (entry.2.consequence = .pending) || decide (entry.2.consequence = .removed)) &&
      entry.2.patch.removes).map fun entry => entry.2.expectedIncarnation).foldl max 0

/-! ### How a request moves -/

/-- One write of one row. -/
inductive Move : Request → Request → Prop where
  | expire (row : Request) (now : Nat) (waiting : row.status = .pending) :
      Move row { row with status := .expired, outcome := expiredText, finishedAt := some now }
  | settleUndeliverable (row : Request) (reason : String) (now : Nat)
      (waiting : row.status.isOpen = true) : Move row (settleUndeliverable reason now row)
  | markClaimed (row : Request) (now : Nat) (waiting : row.status.isOpen = true) :
      Move row (markClaimed now row)
  | report (row : Request) (body : Report) (now : Nat)
      (claimed : row.status = .claimed ∨ row.status = .superseded)
      (told : body.status = some .done ∨ body.status = some .refused) :
      Move row (reported body now row)
  | settle (row : Request) (why : String) (owing : row.consequence = .pending) :
      Move row (settle why row)
  | spawn (row : Request) (consequence : Consequence) (done : row.status = .done)
      (owing : row.consequence = .spawnPending)
      (settled : (∃ id, consequence = .spawnQueued id) ∨ ∃ why, consequence = .nothingSpawned why) :
      Move row { row with consequence := consequence }

abbrev Moves : Request → Request → Prop := Relation.ReflTransGen Move

/-- The columns that say what a request asks. -/
structure Asked where
  target : Target
  patch : Patch
  requestedBy : String
  brief : Option Brief

def Request.asked (row : Request) : Asked := ⟨row.toTarget, row.patch, row.requestedBy, row.brief⟩

/-- What a finished request's host reported. -/
structure Reported where
  status : Status
  outcome : String
  resultIncarnation : Option Nat
  resultRevision : Option Nat
  finishedAt : Option Nat
  deriving DecidableEq

def Request.told (row : Request) : Reported :=
  ⟨row.status, row.outcome, row.resultIncarnation, row.resultRevision, row.finishedAt⟩

/-- A request that is not finished owes nothing, and only a done one owes. -/
def Owes (row : Request) : Prop := row.status ≠ .done → row.consequence = .none

theorem move_asked {before after : Request} (move : Move before after) :
    after.asked = before.asked := by
  cases move with
  | settleUndeliverable reason now waiting =>
      unfold settleUndeliverable
      split <;> rfl
  | settle why owing =>
      unfold settle
      split <;> rfl
  | _ => rfl

theorem move_finished {before after : Request} (move : Move before after)
    (finished : before.status.isFinished = true) : after.told = before.told := by
  cases move with
  | expire now waiting => simp [waiting, Status.isFinished] at finished
  | settleUndeliverable reason now waiting =>
      cases status : before.status <;> simp [status, Status.isOpen, Status.isFinished] at *
  | markClaimed now waiting =>
      cases status : before.status <;> simp [status, Status.isOpen, Status.isFinished] at *
  | report body now claimed told =>
      rcases claimed with claimed | claimed <;> simp [claimed, Status.isFinished] at finished
  | settle why owing =>
      unfold settle
      split <;> rfl
  | spawn consequence done owing settled => rfl

theorem move_open {before after : Request} (move : Move before after)
    (waiting : after.status.isOpen = true) : before.status.isOpen = true := by
  cases move with
  | expire now waiting => cases waiting
  | settleUndeliverable reason now opened => exact opened
  | markClaimed now opened => exact opened
  | report body now claimed told =>
      rcases told with told | told <;> simp [reported, told, Status.isOpen] at waiting
  | settle why owing =>
      unfold settle at waiting
      split at waiting <;> exact waiting
  | spawn consequence done owing settled => exact waiting

theorem move_owes {before after : Request} (move : Move before after) (owes : Owes before) :
    Owes after := by
  intro notDone
  cases move with
  | expire now waiting => exact owes (by rw [waiting]; decide)
  | settleUndeliverable reason now waiting =>
      have clear : before.consequence = .none := by
        apply owes
        intro done
        rw [done] at waiting
        cases waiting
      unfold settleUndeliverable
      split <;> exact clear
  | markClaimed now waiting =>
      apply owes
      intro done
      rw [done] at waiting
      cases waiting
  | report body now claimed told =>
      rcases told with told | told
      · exact absurd (by simp [reported, told]) notDone
      · simp [reported, owed, told]
  | settle why owing =>
      have done : before.status = .done := by
        by_contra other
        exact absurd (owes other) (by rw [owing]; decide)
      refine absurd ?_ notDone
      unfold settle
      split <;> exact done
  | spawn consequence done owing settled => exact absurd done notDone

/-- A consequence that is neither owed nor empty stays. -/
theorem move_settled {before after : Request} (move : Move before after) (owes : Owes before)
    (settled : before.consequence ≠ .none ∧ before.consequence ≠ .pending ∧
      before.consequence ≠ .spawnPending) : after.consequence = before.consequence := by
  have done : before.status = .done := by
    by_contra other
    exact settled.1 (owes other)
  cases move with
  | expire now waiting => rfl
  | settleUndeliverable reason now waiting =>
      unfold settleUndeliverable
      split <;> rfl
  | markClaimed now waiting => rfl
  | report body now claimed told => rcases claimed with claimed | claimed <;> simp [done] at claimed
  | settle why owing => exact absurd owing settled.2.1
  | spawn consequence done owing _ => exact absurd owing settled.2.2

theorem moves_asked {before after : Request} (moves : Moves before after) :
    after.asked = before.asked := by
  induction moves with
  | refl => rfl
  | tail _ move ih => exact (move_asked move).trans ih

theorem moves_finished {before after : Request} (moves : Moves before after)
    (finished : before.status.isFinished = true) : after.told = before.told := by
  induction moves with
  | refl => rfl
  | tail _ move ih =>
      refine (move_finished move ?_).trans ih
      have same := congrArg Reported.status ih
      simp only [Request.told] at same
      rw [same]
      exact finished

theorem moves_open {before after : Request} (moves : Moves before after)
    (waiting : after.status.isOpen = true) : before.status.isOpen = true := by
  induction moves with
  | refl => exact waiting
  | tail _ move ih => exact ih (move_open move waiting)

theorem moves_owes {before after : Request} (moves : Moves before after) (owes : Owes before) :
    Owes after := by
  induction moves with
  | refl => exact owes
  | tail _ move ih => exact move_owes move ih

theorem moves_settled {before after : Request} (moves : Moves before after) (owes : Owes before)
    (settled : before.consequence ≠ .none ∧ before.consequence ≠ .pending ∧
      before.consequence ≠ .spawnPending) : after.consequence = before.consequence := by
  induction moves with
  | refl => rfl
  | tail earlier move ih =>
      refine (move_settled move (moves_owes earlier owes) ?_).trans ih
      rw [ih]
      exact settled

/-! ### How the requests move -/

/-- Every row moves, none goes, and a row that appears is waiting, owes nothing, and is the
only one of its agent that waits. -/
structure Proceeds (before after : Requests) : Prop where
  moved : ∀ id row, before.get? id = some row → ∃ later, after.get? id = some later ∧ Moves row later
  added : ∀ id row, after.get? id = some row → before.get? id = none →
    row.status = .pending ∧ row.consequence = .none ∧
      ∀ other another, after.get? other = some another → another.agentId = row.agentId →
        another.status.isOpen = true → other = id

/-- No row appears. -/
structure Keeps (before after : Requests) : Prop where
  moved : ∀ id row, before.get? id = some row → ∃ later, after.get? id = some later ∧ Moves row later
  none : ∀ id, before.get? id = none → after.get? id = none

theorem Keeps.proceeds {before after : Requests} (keeps : Keeps before after) :
    Proceeds before after := by
  refine ⟨keeps.moved, ?_⟩
  intro id row found absent
  rw [keeps.none id absent] at found
  cases found

theorem Keeps.refl (requests : Requests) : Keeps requests requests :=
  ⟨fun _ row found => ⟨row, found, .refl⟩, fun _ absent => absent⟩

theorem Keeps.trans {first second third : Requests} (one : Keeps first second)
    (two : Keeps second third) : Keeps first third := by
  refine ⟨?_, fun id absent => two.none id (one.none id absent)⟩
  intro id row found
  obtain ⟨middle, between, moves⟩ := one.moved id row found
  obtain ⟨later, after, rest⟩ := two.moved id middle between
  exact ⟨later, after, moves.trans rest⟩

theorem keeps_mapValues (requests : Requests) (change : String → Request → Request)
    (moves : ∀ id row, requests.get? id = some row → Moves row (change id row)) :
    Keeps requests (requests.mapValues change) := by
  constructor
  · intro id row found
    refine ⟨change id row, ?_, moves id row found⟩
    rw [Dict.get?_mapValues, found]
    rfl
  · intro id absent
    rw [Dict.get?_mapValues, absent]
    rfl

theorem keeps_modify (requests : Requests) (key : String) (change : Request → Request)
    (moves : ∀ row, requests.get? key = some row → Moves row (change row)) :
    Keeps requests (requests.modify key change) := by
  apply keeps_mapValues
  intro id row found
  split
  next same => exact moves row (same ▸ found)
  · exact .refl

theorem expireUnclaimed_keeps (now : Nat) (requests : Requests) :
    Keeps requests (expireUnclaimed now requests) := by
  apply keeps_mapValues
  intro _ row _
  unfold expire
  split
  next overdue => exact .single (.expire row now overdue.1)
  · exact .refl

theorem refuseUndeliverable_keeps (stores : Dict String StoreRow) (agentId : String)
    (held : Option Definition) (now : Nat) (requests : Requests) :
    Keeps requests (refuseUndeliverable stores agentId held now requests) := by
  apply keeps_mapValues
  intro _ row _
  split
  next waiting =>
    unfold settleWaiting
    dsimp only
    split
    · exact .single (.settleUndeliverable row _ now waiting.2)
    · exact .refl
  · exact .refl

theorem settleRemoval_keeps (id why : String) (requests : Requests) :
    Keeps requests (settleRemoval id why requests) := by
  apply keeps_modify
  intro row _
  by_cases owing : row.consequence = .pending
  · exact .single (.settle row why owing)
  · rw [settle, if_neg owing]

theorem waiting_none {requests : Requests} {agentId : String} (free : waiting requests agentId = none)
    {id : String} {row : Request} (found : requests.get? id = some row)
    (named : row.agentId = agentId) : row.status.isOpen = false := by
  rw [waiting, Option.map_eq_none_iff, List.find?_eq_none] at free
  have judged := free (id, row) ((Dict.get?_eq_some_iff requests id row).mp found)
  rw [Bool.and_eq_true, decide_eq_true_eq, not_and] at judged
  exact Bool.eq_false_iff.mpr (judged named)

theorem insert_proceeds {before requests : Requests} {id : String} {row : Request}
    (keeps : Keeps before requests) (waits : row.status = .pending)
    (clear : row.consequence = .none) (free : waiting requests row.agentId = none) :
    Proceeds before (insert before requests id row).1 := by
  unfold insert
  split
  · exact (Keeps.refl before).proceeds
  next absent =>
    rw [Bool.not_eq_true, Option.isSome_eq_false_iff, Option.isNone_iff_eq_none] at absent
    constructor
    · intro other earlier found
      obtain ⟨later, after, moves⟩ := keeps.moved other earlier found
      refine ⟨later, ?_, moves⟩
      have differ : id ≠ other := by
        intro same
        rw [← same, absent] at after
        cases after
      rw [Dict.get?_set_ne _ _ differ]
      exact after
    · intro other added found gone
      have same : id = other := by
        by_contra differ
        rw [Dict.get?_set_ne _ _ differ, keeps.none other gone] at found
        cases found
      subst same
      rw [Dict.get?_set_self, Option.some.injEq] at found
      subst found
      refine ⟨waits, clear, ?_⟩
      intro another otherRow present named waiting
      by_contra differ
      rw [Dict.get?_set_ne _ _ (Ne.symm differ)] at present
      rw [waiting_none free present named] at waiting
      cases waiting

theorem admission_proceeds (tables : Tables) (agentId : String) (patch : Patch)
    (operator : Option String) (id : String) (now : Nat) (requests : Requests) :
    Proceeds requests (admission tables agentId patch operator id now requests).1 := by
  have unchanged := (Keeps.refl requests).proceeds
  unfold admission
  cases operator with
  | none => exact unchanged
  | some actor =>
      cases tables.definitions.get? agentId with
      | none => exact unchanged
      | some held =>
          dsimp only
          split
          · exact unchanged
          split
          · exact unchanged
          next free =>
            exact insert_proceeds ((expireUnclaimed_keeps now requests).trans
              (refuseUndeliverable_keeps _ _ _ now _)) rfl rfl free

theorem admitCreation_proceeds (tables : Tables) (agentId machineId : String) (agent : Agent)
    (brief : Option Brief) (requestedBy id : String) (now : Nat) (requests : Requests) :
    Proceeds requests
      (admitCreation tables agentId machineId agent brief requestedBy id now requests).1 := by
  have unchanged := (Keeps.refl requests).proceeds
  unfold admitCreation
  split
  · exact unchanged
  split
  · exact unchanged
  split
  · exact unchanged
  next free => exact insert_proceeds (Keeps.refl requests) rfl rfl free

theorem claim_keeps (tables : Tables) (environment : Option Environment)
    (bridgeId machineId : String) (now : Nat) (requests : Requests) :
    Keeps requests (claim tables environment bridgeId machineId now requests).1 := by
  unfold claim
  dsimp only
  split
  · exact Keeps.refl requests
  · apply (expireUnclaimed_keeps now requests).trans
    dsimp only
    apply keeps_mapValues
    intro _ row _
    unfold claimRow
    split
    next waiting =>
      dsimp only
      split
      · exact .single (.settleUndeliverable row _ now waiting.2)
      · exact .single (.markClaimed row now waiting.2)
    · exact .refl

/-- A report that answered, and what it found: a finished request it repeats, or one its
host had claimed. -/
inductive Answered (body : Report) (now : Nat) (id : String) (before after : Requests)
    (record : String × Request) : Prop where
  | again (row : Request) (found : (expireUnclaimed now before).get? id = some row)
      (finished : row.status.isFinished = true) (same : repeats body row = true)
      (told : body.status = some .done ∨ body.status = some .refused)
      (left : after = expireUnclaimed now before) (answer : record = requestRecord id row)
  | first (row : Request) (found : (expireUnclaimed now before).get? id = some row)
      (claimed : row.status = .claimed ∨ row.status = .superseded)
      (told : body.status = some .done ∨ body.status = some .refused)
      (left : after = (expireUnclaimed now before).modify id (reported body now))
      (answer : record = requestRecord id (reported body now row))

theorem reportProblems_nil {body : Report} (accepted : reportProblems body = []) :
    body.status = some .done ∨ body.status = some .refused := by
  unfold reportProblems at accepted
  split at accepted
  · cases accepted
  next known =>
    by_contra neither
    rw [not_or] at neither
    exact known neither

theorem report_cases (environment : Option Environment) (id : String) (body : Report) (now : Nat)
    (requests : Requests) :
    ((report environment id body now requests).1 = requests ∧
      ∃ refusal, (report environment id body now requests).2 = .error refusal) ∨
    ∃ record, (report environment id body now requests).2 = .ok record ∧
      Answered body now id requests (report environment id body now requests).1 record := by
  unfold report
  dsimp only
  split
  · exact .inl ⟨rfl, _, rfl⟩
  split
  · exact .inl ⟨rfl, _, rfl⟩
  next accepted =>
    have told := reportProblems_nil (not_not.mp accepted)
    cases found : (expireUnclaimed now requests).get? id with
    | none => exact .inl ⟨rfl, _, rfl⟩
    | some row =>
        dsimp only
        split
        · exact .inl ⟨rfl, _, rfl⟩
        split
        next finished =>
          split
          next same => exact .inr ⟨_, rfl, .again row found finished same told rfl rfl⟩
          · exact .inl ⟨rfl, _, rfl⟩
        split
        · exact .inl ⟨rfl, _, rfl⟩
        next claimed =>
          rw [not_and_or, not_not, not_not] at claimed
          exact .inr ⟨_, rfl, .first row found claimed told rfl rfl⟩

theorem report_keeps (environment : Option Environment) (id : String) (body : Report) (now : Nat)
    (requests : Requests) : Keeps requests (report environment id body now requests).1 := by
  rcases report_cases environment id body now requests with ⟨same, _⟩ | ⟨record, _, answered⟩
  · rw [same]
    exact Keeps.refl requests
  · have expired := expireUnclaimed_keeps now requests
    cases answered with
    | again row found finished same told left answer => exact left ▸ expired
    | first row found claimed told left answer =>
        rw [left]
        refine expired.trans (keeps_modify _ id _ ?_)
        intro other present
        rw [found, Option.some.injEq] at present
        subst present
        exact .single (.report row body now claimed told)

/-- An expiry leaves a finished request as it is. -/
theorem expire_finished (now : Nat) {requests : Requests} {id : String} {row : Request}
    (found : requests.get? id = some row) (finished : row.status.isFinished = true) :
    (expireUnclaimed now requests).get? id = some row := by
  rw [expireUnclaimed, Dict.get?_mapValues, found, Option.map_some, Option.some.injEq]
  apply if_neg
  intro overdue
  rw [overdue.1] at finished
  cases finished

end AifyComms.DefinitionRequests
