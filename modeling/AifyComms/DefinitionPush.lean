import AifyComms.DefinitionSnapshot
import Mathlib.Data.List.Sort

/-!
Applying a host's agent-definition snapshot: `api_core/definition_push.py`, with the
operator's release and store reset of `routers/agent_definitions.py`.

A push is one transaction, so it is one function of the tables it reads and writes. The
removal history it asks (`_removed_incarnation`) is read from the definition requests,
and is an argument here. Of the `agents` columns those are kept that a definition writes
or a launch reads.
-/

namespace AifyComms.DefinitionPush
open PyText DefinitionSnapshot

/-- Which definition of an agent this is: `{machineId, storeId, incarnation}`. -/
structure Lifetime where
  machineId : String
  storeId : String
  incarnation : Nat
  deriving DecidableEq

inductive HostState where
  | valid
  | invalid
  deriving DecidableEq

/-- A row of `agent_definitions`, which has the agent id as its key. -/
structure Definition where
  machineId : String
  storeId : String
  incarnation : Nat
  revision : Nat
  definitionDigest : String
  body : Agent
  available : Bool
  unavailableReason : String
  hostState : HostState
  hostProblems : List String
  updatedAt : Nat
  deriving DecidableEq

def Definition.lifetime (definition : Definition) : Lifetime :=
  ⟨definition.machineId, definition.storeId, definition.incarnation⟩

inductive DefinitionState where
  | undefined
  | defined
  | withdrawn
  deriving DecidableEq

/-- A row of `agents`. -/
structure AgentRow where
  name : String
  role : String
  instructions : String
  herdrSpace : Bool
  runtime : String
  sessionMode : String
  cwd : String
  model : String
  machineId : String
  effort : String
  sessionHandle : String
  definitionState : DefinitionState
  definitionWithdrawn : Option Lifetime
  registeredAt : Nat
  lastSeen : Nat
  deriving DecidableEq

/-- What a revision left unresolved, stored with it so that its replay says it again. -/
structure Unresolved where
  refused : List String
  invalid : List String
  kept : List String
  deriving DecidableEq

/-- A row of `definition_stores`, which has the machine as its key. -/
structure StoreRow where
  storeId : String
  revision : Nat
  snapshotDigest : String
  environmentId : String
  updatedAt : Nat
  pushedAt : Nat
  outcome : Option Unresolved
  deriving DecidableEq

def StoreRow.current (row : StoreRow) : Current :=
  ⟨row.storeId, row.revision, row.snapshotDigest⟩

/-- A row of `definition_stores_retired`, keyed by machine and store. -/
structure RetiredRow where
  retiredBy : String
  retiredAt : Nat
  lastRefusedAt : Option Nat
  refusedCount : Nat
  deriving DecidableEq

structure Tombstone where
  removedAt : Nat
  removedBy : String
  reason : String
  deriving DecidableEq

structure Tables where
  stores : Dict String StoreRow
  retired : Dict (String × String) RetiredRow
  definitions : Dict String Definition
  agents : Dict String AgentRow
  tombstones : Dict String Tombstone

/-- The body of a push. -/
structure Push where
  bridgeId : Option String
  machineId : Option String
  storeId : Option String
  snapshotDigest : Option String
  revision : Option Nat
  entries : Option (List Entry)

inductive Outcome where
  | applied
  | replay
  deriving DecidableEq

structure Result where
  outcome : Outcome
  applied : List String
  kept : List String
  withdrawn : List String
  refused : List (String × String)
  invalid : List String
  outcomeRecorded : Bool
  followed : List String
  deriving DecidableEq

/-- An HTTP refusal. -/
structure Refusal where
  status : Nat
  detail : String
  deriving DecidableEq

/-- `COLLATE NOCASE`: SQLite folds the ASCII letters only. -/
def noCase (left right : String) : Bool :=
  decide (left.toList.map Char.toLower = right.toList.map Char.toLower)

/-- `is_operator_actor`. -/
def isOperatorActor (actor : String) : Bool :=
  decide (normalise actor ∈ ["dashboard", "operator"])

/-- `HARNESS_RUNTIME`. -/
def harnessRuntime (harness : String) : String :=
  if harness = "claude" then "claude-code" else harness

/-- `_normalize_session_mode`. -/
def normalizeSessionMode (mode : String) : String :=
  if normalise mode = "managed" then "managed" else "resident"

def requiredText (name : String) (value : Option String) : List String :=
  if strip (value.getD "") = "" then [String.join [name, ": a non-empty string is required"]] else []

/-- `push_body_problems`. -/
def pushBodyProblems (body : Push) : List String :=
  requiredText "bridgeId" body.bridgeId ++ requiredText "machineId" body.machineId ++
    requiredText "storeId" body.storeId ++ requiredText "snapshotDigest" body.snapshotDigest ++
    (if isCounter (body.revision.getD 0) then []
      else ["revision: a whole number from 1 is required"])

/-- `_removed_incarnation`, as an argument: the newest incarnation of an agent id that a
done removal took from a store. -/
abbrev RemovalHistory := String → String → Nat

/-- `_id_refusal`. -/
def idRefusal (taken : RemovalHistory) (id : String) (incarnation : Option Nat)
    (owner : Option String) (machineId storeId : String) : String :=
  if owner.any fun owner => decide (owner ≠ "") && decide (owner ≠ machineId) then
    String.join ["defined on ", owner.getD ""]
  else if isOperatorActor id then "reserved for the operator and cannot be an agent id"
  else if taken id storeId ≠ 0 ∧ incarnation.getD 0 ≤ taken id storeId then
    String.join ["incarnation ", incarnation.elim "None" toString,
      " is no newer than incarnation ", toString (taken id storeId),
      ", which the operator removed; define it again (`aify-env agents set`) to restore it"]
  else ""

def Entry.given : Entry → Option Nat
  | .valid entry => some entry.incarnation
  | _ => none

/-- `_ensure_agent_row`. -/
def ensureAgentRow (entry : Defined) (machineId : String) (now : Nat)
    (agents : Dict String AgentRow) : Dict String AgentRow :=
  match agents.get? entry.id with
  | some row =>
      agents.set entry.id { row with
        name := entry.definition.name
        role := entry.definition.role
        instructions := entry.definition.instructions
        herdrSpace := entry.definition.herdrSpace
        definitionState := .defined }
  | none =>
      agents.set entry.id
        { name := entry.definition.name
          role := entry.definition.role
          instructions := entry.definition.instructions
          herdrSpace := entry.definition.herdrSpace
          runtime := harnessRuntime entry.definition.harness
          sessionMode := entry.definition.mode
          cwd := entry.definition.workspace
          model := entry.definition.model
          machineId := machineId
          effort := entry.definition.effort
          sessionHandle := ""
          definitionState := .defined
          definitionWithdrawn := none
          registeredAt := now
          lastSeen := now }

def definitionOf (entry : Defined) (machineId storeId : String) (now : Nat) : Definition where
  machineId := machineId
  storeId := storeId
  incarnation := entry.incarnation
  revision := entry.revision
  definitionDigest := entry.definitionDigest
  body := entry.definition
  available := entry.available
  unavailableReason := if entry.available then "" else entry.unavailableReason
  hostState := .valid
  hostProblems := []
  updatedAt := now

def broken (problems : List String) (now : Nat) (definition : Definition) : Definition :=
  { definition with
    hostState := .invalid
    hostProblems := problems.insertionSort (· ≤ ·)
    updatedAt := now }

/-- One entry of `_apply_entries`. `held` is what the tables held before the first one. -/
def applyEntry (taken : RemovalHistory) (machineId storeId : String) (now : Nat)
    (held : Dict String Definition) (state : Tables × Result) (entry : Entry) : Tables × Result :=
  let owner := (held.get? entry.id).map Definition.machineId
  let refusal := idRefusal taken entry.id (Entry.given entry) owner machineId storeId
  if refusal ≠ "" then
    (state.1, { state.2 with refused := state.2.refused ++ [(entry.id, refusal)] })
  else match entry with
    | .valid entry =>
        ({ state.1 with
          definitions := state.1.definitions.set entry.id (definitionOf entry machineId storeId now)
          agents := ensureAgentRow entry machineId now state.1.agents
          tombstones := state.1.tombstones.filter fun id => !noCase id entry.id },
        { state.2 with applied := state.2.applied ++ [entry.id] })
    | .invalid id problems =>
        if owner = some machineId then
          ({ state.1 with definitions := state.1.definitions.modify id (broken problems now) },
            { state.2 with kept := state.2.kept ++ [id] })
        else (state.1, { state.2 with invalid := state.2.invalid ++ [id] })
    | .malformed _ _ => state

def withdrawRow (lifetime : Lifetime) (row : AgentRow) : AgentRow :=
  { row with definitionState := .withdrawn, definitionWithdrawn := some lifetime }

/-- The definition goes, the agent stays and remembers which one it lost. -/
def withdraw (state : Tables × Result) (held : String × Definition) : Tables × Result :=
  ({ state.1 with
    definitions := state.1.definitions.erase held.1
    agents := state.1.agents.modify held.1 (withdrawRow held.2.lifetime) },
  { state.2 with withdrawn := state.2.withdrawn ++ [held.1] })

def owned (machineId : String) (entries : List Entry) (held : Dict String Definition) :
    List (String × Definition) :=
  held.entries.filter fun definition =>
    decide (definition.2.machineId = machineId) && decide (definition.1 ∉ entries.map Entry.id)

def nothingApplied : Result := ⟨.applied, [], [], [], [], [], true, []⟩

/-- `_apply_entries`. -/
def applyEntries (taken : RemovalHistory) (machineId storeId : String) (entries : List Entry)
    (now : Nat) (tables : Tables) : Tables × Result :=
  (owned machineId entries tables.definitions).foldl withdraw
    (entries.foldl (applyEntry taken machineId storeId now tables.definitions)
      (tables, nothingApplied))

/-- What `switch_session_mode` writes for an agent whose record follows its definition to
managed: its runtime and session handle. `none` while a resident drives it, while that is
not known, or while the switch is refused. -/
abbrev Switch := String → Option (String × String)

def followRow (machineId : String) (definitions : Dict String Definition) (switch : Switch)
    (id : String) (row : AgentRow) : AgentRow :=
  match definitions.get? id, switch id with
  | some definition, some (runtime, handle) =>
      if definition.machineId = machineId ∧ definition.body.mode = "managed" ∧
          normalizeSessionMode row.sessionMode = "resident" then
        { row with sessionMode := "managed", runtime := runtime, sessionHandle := handle }
      else row
  | _, _ => row

/-- `_follow_managed`. -/
def followManaged (machineId : String) (switch : Switch) (tables : Tables) : Tables :=
  { tables with
    agents := tables.agents.mapValues (followRow machineId tables.definitions switch) }

def followed (machineId : String) (switch : Switch) (tables : Tables) : List String :=
  tables.definitions.keys.filter fun id => (tables.agents.get? id).any fun row =>
    decide (followRow machineId tables.definitions switch id row ≠ row)

def freeSince : String := "free since this revision was applied; a fresh revision defines it"

/-- `_replayed`. -/
def replayed (taken : RemovalHistory) (machineId storeId : String) (recorded : Option Unresolved)
    (entries : List Entry) (definitions : Dict String Definition) : Result :=
  let unresolved := recorded.getD ⟨[], [], []⟩
  let judged (id : String) : String :=
    idRefusal taken id ((entries.find? fun entry => decide (entry.id = id)).bind Entry.given)
      ((definitions.get? id).map Definition.machineId) machineId storeId
  { outcome := .replay
    applied := []
    kept := unresolved.kept
    withdrawn := []
    refused := unresolved.refused.map fun id =>
      (id, if judged id = "" then freeSince else judged id)
    invalid := unresolved.invalid
    outcomeRecorded := recorded.isSome
    followed := [] }

def retiredStores (machineId : String) (retired : Dict (String × String) RetiredRow) : List String :=
  (retired.keys.filter fun key => decide (key.1 = machineId)).map Prod.snd

def countRefused (now : Nat) (row : RetiredRow) : RetiredRow :=
  { row with refusedCount := row.refusedCount + 1, lastRefusedAt := some now }

/-- `INSERT OR IGNORE INTO definition_stores_retired`. -/
def retire (machineId replaced storeId : String) (now : Nat)
    (retired : Dict (String × String) RetiredRow) : Dict (String × String) RetiredRow :=
  match retired.get? (machineId, replaced) with
  | some _ => retired
  | none => retired.set (machineId, replaced) ⟨storeId, now, none, 0⟩

def unresolvedOf (result : Result) : Unresolved :=
  ⟨result.refused.map Prod.fst, result.invalid, result.kept⟩

/-- The push that becomes or advances the machine's current store. -/
def advance (taken : RemovalHistory) (environmentId machineId storeId digest : String)
    (revision : Nat) (entries : List Entry) (switch : Switch) (now : Nat) (tables : Tables) :
    Tables × Result :=
  let stored := { tables with
    retired := match tables.stores.get? machineId with
      | some row =>
          if row.storeId ≠ storeId then retire machineId row.storeId storeId now tables.retired
          else tables.retired
      | none => tables.retired
    stores := tables.stores.set machineId
      ⟨storeId, revision, digest, environmentId, now, now,
        (tables.stores.get? machineId).bind StoreRow.outcome⟩ }
  let written := applyEntries taken machineId storeId entries now stored
  let moved := followManaged machineId switch written.1
  ({ moved with
    stores := moved.stores.modify machineId fun row =>
      { row with outcome := some (unresolvedOf written.2) } },
    { written.2 with followed := followed machineId switch written.1 })

def retiredDetail (machineId storeId : String) (retired : Dict (String × String) RetiredRow) :
    String :=
  String.join ["definition store ", storeId, " was retired on ", machineId, " by store ",
    ((retired.get? (machineId, storeId)).map RetiredRow.retiredBy).getD "", " at ",
    toString (((retired.get? (machineId, storeId)).map RetiredRow.retiredAt).getD 0),
    ": two stores claim machine ", machineId]

/-- The push in the order of its machine's stores, once its body has been judged. -/
def applyOrdered (taken : RemovalHistory) (environmentId machineId storeId digest : String)
    (revision : Nat) (entries : List Entry) (switch : Switch) (now : Nat) (tables : Tables) :
    Tables × Except Refusal Result :=
  let current := tables.stores.get? machineId
  match pushOrder (current.map StoreRow.current) (retiredStores machineId tables.retired) storeId
      revision digest with
  | .retired =>
      ({ tables with retired := tables.retired.modify (machineId, storeId) (countRefused now) },
        .error ⟨409, retiredDetail machineId storeId tables.retired⟩)
  | .stale =>
      (tables, .error ⟨409, String.join ["stale: store ", storeId, " is already at revision ",
        toString ((current.map StoreRow.revision).getD 0)]⟩)
  | .conflict =>
      (tables, .error ⟨409, String.join ["conflict: store ", storeId, " revision ",
        toString revision, " was already applied with another digest; nothing applied"]⟩)
  | .replay =>
      (followManaged machineId switch { tables with
        stores := tables.stores.modify machineId fun row => { row with pushedAt := now } },
        .ok { replayed taken machineId storeId (current.bind StoreRow.outcome) entries
            tables.definitions with
          followed := followed machineId switch tables })
  | .apply | .newStore =>
      let applied := advance taken environmentId machineId storeId digest revision entries switch
        now tables
      (applied.1, .ok applied.2)

/-- `apply_definition_push`. -/
def applyDefinitionPush (rules : Rules) (taken : RemovalHistory)
    (environment : Option Environment) (body : Push) (switch : Switch) (now : Nat)
    (tables : Tables) : Tables × Except Refusal Result :=
  let machineId := strip (body.machineId.getD "")
  let digest := body.snapshotDigest.getD ""
  if pushBodyProblems body ≠ [] then
    (tables, .error ⟨422, String.intercalate "; " (pushBodyProblems body)⟩)
  else if fenceRefusal environment (body.bridgeId.getD "") machineId ≠ "" then
    (tables, .error ⟨409, String.join ["definition push refused: ",
      fenceRefusal environment (body.bridgeId.getD "") machineId]⟩)
  else if snapshotProblems rules body.entries digest ≠ [] then
    (tables, .error ⟨422, String.intercalate "; " (snapshotProblems rules body.entries digest)⟩)
  else
    applyOrdered taken ((environment.map Environment.id).getD "") machineId
      (strip (body.storeId.getD "")) digest (body.revision.getD 0) (body.entries.getD []) switch
      now tables

/-- `release_agent_definition`. -/
def release (agentId machineId : String) (tables : Tables) : Tables × Except Refusal String :=
  let expected := strip machineId
  match tables.definitions.get? agentId with
  | none => (tables, .error ⟨404, String.join ["\"", agentId, "\" has no definition to release"]⟩)
  | some held =>
      if expected = "" then
        (tables, .error ⟨422, "machineId: name the machine whose definition is being released"⟩)
      else if held.machineId ≠ expected then
        (tables, .error ⟨409, String.join ["\"", agentId, "\" is defined on ", held.machineId,
          ", not ", expected, "; nothing released"]⟩)
      else
        ({ tables with
          definitions := tables.definitions.erase agentId
          agents := tables.agents.modify agentId fun row =>
            { row with definitionState := .withdrawn } }, .ok expected)

/-- `reset_definition_store`. -/
def resetDefinitionStore (machineId : String) (tables : Tables) : Tables :=
  { tables with retired := tables.retired.filter fun key => decide (key.1 ≠ machineId) }

/-! ### What a push does to one agent -/

def withdrawnOf (tables : Tables) (id : String) : Option Lifetime :=
  (tables.agents.get? id).bind AgentRow.definitionWithdrawn

def heldAt (tables : Tables) (id : String) : Option Lifetime :=
  (tables.definitions.get? id).map Definition.lifetime

/-- The entries installed a definition of the id, one that nothing refused. -/
def Installed (taken : RemovalHistory) (machineId storeId : String) (entries : List Entry)
    (id : String) (after : Tables) : Prop :=
  ∃ entry, .valid entry ∈ entries ∧ entry.id = id ∧
    (taken id storeId = 0 ∨ taken id storeId < entry.incarnation) ∧
    heldAt after id = some ⟨machineId, storeId, entry.incarnation⟩

theorem not_refused_newer {taken : RemovalHistory} {id machineId storeId : String}
    {incarnation : Nat} {owner : Option String}
    (free : idRefusal taken id (some incarnation) owner machineId storeId = "") :
    taken id storeId = 0 ∨ taken id storeId < incarnation := by
  unfold idRefusal at free
  split at free
  · simp [String.join] at free
  split at free
  · simp at free
  split at free
  · simp [String.join] at free
  next newer =>
    by_cases never : taken id storeId = 0
    · exact .inl never
    · refine .inr ?_
      by_contra older
      exact newer ⟨never, Nat.le_of_not_lt older⟩

theorem ensure_agent_row_withdrawn (entry : Defined) (machineId : String) (now : Nat)
    (agents : Dict String AgentRow) (id : String) (other : entry.id ≠ id) :
    (ensureAgentRow entry machineId now agents).get? id = agents.get? id := by
  unfold ensureAgentRow
  split <;> exact Dict.get?_set_ne _ _ other

/-- The id is held and remembered as it was, and no entry of it was applied. -/
def Untouched (before after : Tables × Result) (id : String) : Prop :=
  heldAt after.1 id = heldAt before.1 id ∧ withdrawnOf after.1 id = withdrawnOf before.1 id ∧
    (id ∈ after.2.applied ↔ id ∈ before.2.applied)

theorem untouched_refl (state : Tables × Result) (id : String) : Untouched state state id :=
  ⟨rfl, rfl, Iff.rfl⟩

theorem Untouched.trans {first second third : Tables × Result} {id : String}
    (one : Untouched first second id) (two : Untouched second third id) :
    Untouched first third id :=
  ⟨two.1.trans one.1, two.2.1.trans one.2.1, two.2.2.trans one.2.2⟩

/-- An entry leaves an id as it was, or installs it. -/
theorem apply_entry_id (taken : RemovalHistory) (machineId storeId : String) (now : Nat)
    (held : Dict String Definition) (state : Tables × Result) (entry : Entry) (id : String) :
    Untouched state (applyEntry taken machineId storeId now held state entry) id ∨
      Installed taken machineId storeId [entry] id
        (applyEntry taken machineId storeId now held state entry).1 := by
  unfold applyEntry
  dsimp only
  split
  · exact .inl (untouched_refl state id)
  next free =>
    cases entry with
    | malformed problem more => exact .inl (untouched_refl state id)
    | invalid name problems =>
        dsimp only
        split
        · refine .inl ⟨?_, rfl, Iff.rfl⟩
          simp only [heldAt, Dict.get?_modify]
          split
          · rw [Option.map_map]
            rfl
          · rfl
        · exact .inl (untouched_refl state id)
    | valid entry =>
        by_cases same : entry.id = id
        · subst same
          refine .inr ⟨entry, List.mem_singleton_self _, rfl, ?_, ?_⟩
          · exact not_refused_newer (not_not.mp free)
          · simp [heldAt, definitionOf, Definition.lifetime]
        · refine .inl ⟨?_, ?_, ?_⟩
          · simp only [heldAt, Dict.get?_set_ne _ _ same]
          · simp only [withdrawnOf, ensure_agent_row_withdrawn entry machineId now _ id same]
          · simp [Ne.symm same]

theorem apply_entries_id (taken : RemovalHistory) (machineId storeId : String) (now : Nat)
    (held : Dict String Definition) (entries : List Entry) (state : Tables × Result) (id : String) :
    Untouched state (entries.foldl (applyEntry taken machineId storeId now held) state) id ∨
      Installed taken machineId storeId entries id
        (entries.foldl (applyEntry taken machineId storeId now held) state).1 := by
  -- Induction from the last entry: it leaves the id as the ones before it left it, or installs it.
  induction entries using List.reverseRecOn with
  | nil => exact .inl (untouched_refl state id)
  | append_singleton entries entry ih =>
      rw [List.foldl_concat]
      rcases apply_entry_id taken machineId storeId now held
          (entries.foldl (applyEntry taken machineId storeId now held) state) entry id with
        same | ⟨installed, member, named, newer, now⟩
      · rcases ih with before | ⟨earlier, member, named, newer, now⟩
        · exact .inl (before.trans same)
        · exact .inr ⟨earlier, List.mem_append_left _ member, named, newer, same.1.trans now⟩
      · exact .inr ⟨installed, List.mem_append_right _ member, named, newer, now⟩

theorem withdraw_other (state : Tables × Result) (held : String × Definition) (id : String)
    (other : held.1 ≠ id) :
    heldAt (withdraw state held).1 id = heldAt state.1 id ∧
      withdrawnOf (withdraw state held).1 id = withdrawnOf state.1 id := by
  constructor
  · simp only [heldAt, withdraw, Dict.get?_erase, if_neg (Ne.symm other)]
  · simp only [withdrawnOf, withdraw, Dict.get?_modify, if_neg (Ne.symm other)]

theorem withdraw_self (state : Tables × Result) (held : String × Definition) :
    heldAt (withdraw state held).1 held.1 = none ∧
      withdrawnOf (withdraw state held).1 held.1 =
        (state.1.agents.get? held.1).map fun _ => held.2.lifetime := by
  constructor
  · simp [heldAt, withdraw, Dict.get?_erase]
  · simp only [withdrawnOf, withdraw, Dict.get?_modify, if_true]
    cases state.1.agents.get? held.1 <;> rfl

/-- Withdrawing leaves an id as it was, or takes the definition it is listed with. -/
theorem withdraw_all (list : List (String × Definition)) (state : Tables × Result) (id : String) :
    (heldAt (list.foldl withdraw state).1 id = heldAt state.1 id ∧
      withdrawnOf (list.foldl withdraw state).1 id = withdrawnOf state.1 id) ∨
    ∃ held ∈ list, held.1 = id ∧ heldAt (list.foldl withdraw state).1 id = none ∧
      ∀ lifetime, withdrawnOf (list.foldl withdraw state).1 id = some lifetime →
        lifetime = held.2.lifetime := by
  induction list using List.reverseRecOn with
  | nil => exact .inl ⟨rfl, rfl⟩
  | append_singleton list last ih =>
      rw [List.foldl_concat]
      by_cases same : last.1 = id
      · subst same
        obtain ⟨gone, remembered⟩ := withdraw_self (list.foldl withdraw state) last
        refine .inr ⟨last, List.mem_append_right _ (List.mem_singleton_self _), rfl, gone, ?_⟩
        intro lifetime found
        rw [remembered, Option.map_eq_some_iff] at found
        exact found.choose_spec.2.symm
      · obtain ⟨sameHeld, sameWithdrawn⟩ := withdraw_other (list.foldl withdraw state) last id same
        rcases ih with ⟨heldBefore, withdrawnBefore⟩ | ⟨held, member, named, gone, remembered⟩
        · exact .inl ⟨sameHeld.trans heldBefore, sameWithdrawn.trans withdrawnBefore⟩
        · refine .inr ⟨held, List.mem_append_left _ member, named, sameHeld.trans gone, ?_⟩
          intro lifetime found
          exact remembered lifetime (sameWithdrawn ▸ found)

/-- What a push does to one id: nothing, an installation, or the withdrawal of the
definition the machine held. -/
inductive Pushed (taken : RemovalHistory) (machineId storeId : String) (entries : List Entry)
    (before after : Tables) (id : String) : Prop where
  | kept (held : heldAt after id = heldAt before id)
      (withdrawn : withdrawnOf after id = withdrawnOf before id)
  | installed (entry : Installed taken machineId storeId entries id after)
  | withdrawn (lifetime : Lifetime) (held : heldAt before id = some lifetime)
      (gone : heldAt after id = none)
      (remembered : ∀ other, withdrawnOf after id = some other → other = lifetime)

theorem applyEntries_pushed (taken : RemovalHistory) (machineId storeId : String)
    (entries : List Entry) (now : Nat) (tables : Tables) (id : String) :
    Pushed taken machineId storeId entries tables
      (applyEntries taken machineId storeId entries now tables).1 id := by
  have entriesDone := apply_entries_id taken machineId storeId now tables.definitions entries
    (tables, nothingApplied) id
  rcases withdraw_all (owned machineId entries tables.definitions)
      (entries.foldl (applyEntry taken machineId storeId now tables.definitions)
        (tables, nothingApplied)) id with
    ⟨sameHeld, sameWithdrawn⟩ | ⟨held, member, named, gone, remembered⟩
  · rcases entriesDone with ⟨heldBefore, withdrawnBefore, _⟩ | ⟨entry, present, same, newer, now⟩
    · exact .kept (sameHeld.trans heldBefore) (sameWithdrawn.trans withdrawnBefore)
    · exact .installed ⟨entry, present, same, newer, sameHeld.trans now⟩
  · have listed : tables.definitions.get? id = some held.2 := by
      rw [Dict.get?_eq_some_iff, ← named]
      exact List.mem_of_mem_filter member
    exact .withdrawn held.2.lifetime (by rw [heldAt, listed]; rfl) gone remembered

theorem withdraw_all_applied (list : List (String × Definition)) (state : Tables × Result) :
    (list.foldl withdraw state).2.applied = state.2.applied := by
  induction list using List.reverseRecOn with
  | nil => rfl
  | append_singleton list last ih =>
      rw [List.foldl_concat]
      exact ih

/-- What a push says it applied, it installed: an id it carries is not one it withdraws. -/
theorem applied_installed {taken : RemovalHistory} {machineId storeId : String}
    {entries : List Entry} {now : Nat} {tables : Tables} {id : String}
    (listed : id ∈ (applyEntries taken machineId storeId entries now tables).2.applied) :
    Installed taken machineId storeId entries id
      (applyEntries taken machineId storeId entries now tables).1 := by
  unfold applyEntries at listed ⊢
  rw [withdraw_all_applied] at listed
  rcases apply_entries_id taken machineId storeId now tables.definitions entries
      (tables, nothingApplied) id with same | ⟨entry, member, named, newer, now⟩
  · exact absurd (same.2.2.mp listed) List.not_mem_nil
  · refine ⟨entry, member, named, newer, ?_⟩
    rcases withdraw_all (owned machineId entries tables.definitions)
        (entries.foldl (applyEntry taken machineId storeId _ tables.definitions)
          (tables, nothingApplied)) id with ⟨sameHeld, _⟩ | ⟨held, taken, same, _⟩
    · exact sameHeld.trans now
    · obtain ⟨_, absent⟩ := List.mem_filter.mp taken
      rw [Bool.and_eq_true, decide_eq_true_eq, decide_eq_true_eq] at absent
      exact absurd (List.mem_map.mpr ⟨.valid entry, member, named.trans same.symm⟩) absent.2

theorem follow_row_withdrawn (machineId : String) (definitions : Dict String Definition)
    (switch : Switch) (id : String) (row : AgentRow) :
    (followRow machineId definitions switch id row).definitionWithdrawn =
      row.definitionWithdrawn := by
  unfold followRow
  split
  · split <;> rfl
  · rfl

theorem followManaged_id (machineId : String) (switch : Switch) (tables : Tables) (id : String) :
    heldAt (followManaged machineId switch tables) id = heldAt tables id ∧
      withdrawnOf (followManaged machineId switch tables) id = withdrawnOf tables id := by
  refine ⟨rfl, ?_⟩
  simp only [withdrawnOf, followManaged, Dict.get?_mapValues]
  cases tables.agents.get? id with
  | none => rfl
  | some row => exact follow_row_withdrawn machineId tables.definitions switch id row

/-! ### What a push does to the stores -/

theorem apply_entry_stores (taken : RemovalHistory) (machineId storeId : String) (now : Nat)
    (held : Dict String Definition) (state : Tables × Result) (entry : Entry) :
    (applyEntry taken machineId storeId now held state entry).1.stores = state.1.stores ∧
      (applyEntry taken machineId storeId now held state entry).1.retired = state.1.retired ∧
      (applyEntry taken machineId storeId now held state entry).2.outcome = state.2.outcome := by
  unfold applyEntry
  dsimp only
  split
  · exact ⟨rfl, rfl, rfl⟩
  · cases entry with
    | malformed problem more => exact ⟨rfl, rfl, rfl⟩
    | invalid name problems =>
        dsimp only
        split <;> exact ⟨rfl, rfl, rfl⟩
    | valid entry => exact ⟨rfl, rfl, rfl⟩

theorem apply_entries_stores (taken : RemovalHistory) (machineId storeId : String)
    (entries : List Entry) (now : Nat) (tables : Tables) :
    (applyEntries taken machineId storeId entries now tables).1.stores = tables.stores ∧
      (applyEntries taken machineId storeId entries now tables).1.retired = tables.retired ∧
      (applyEntries taken machineId storeId entries now tables).2.outcome = .applied := by
  have entriesDone : ∀ (list : List Entry) (held : Dict String Definition) (state : Tables × Result),
      (list.foldl (applyEntry taken machineId storeId now held) state).1.stores = state.1.stores ∧
        (list.foldl (applyEntry taken machineId storeId now held) state).1.retired =
          state.1.retired ∧
        (list.foldl (applyEntry taken machineId storeId now held) state).2.outcome =
          state.2.outcome := by
    intro list held state
    induction list using List.reverseRecOn with
    | nil => exact ⟨rfl, rfl, rfl⟩
    | append_singleton list entry ih =>
        rw [List.foldl_concat]
        obtain ⟨stores, retired, outcome⟩ := apply_entry_stores taken machineId storeId now held
          (list.foldl (applyEntry taken machineId storeId now held) state) entry
        exact ⟨stores.trans ih.1, retired.trans ih.2.1, outcome.trans ih.2.2⟩
  have withdrawn : ∀ (list : List (String × Definition)) (state : Tables × Result),
      (list.foldl withdraw state).1.stores = state.1.stores ∧
        (list.foldl withdraw state).1.retired = state.1.retired ∧
        (list.foldl withdraw state).2.outcome = state.2.outcome := by
    intro list state
    induction list using List.reverseRecOn with
    | nil => exact ⟨rfl, rfl, rfl⟩
    | append_singleton list held ih =>
        rw [List.foldl_concat]
        exact ih
  obtain ⟨stores, retired, outcome⟩ := withdrawn (owned machineId entries tables.definitions)
    (entries.foldl (applyEntry taken machineId storeId now tables.definitions)
      (tables, nothingApplied))
  obtain ⟨storesBefore, retiredBefore, outcomeBefore⟩ :=
    entriesDone entries tables.definitions (tables, nothingApplied)
  exact ⟨stores.trans storesBefore, retired.trans retiredBefore, outcome.trans outcomeBefore⟩

theorem mem_retiredStores (machineId storeId : String) (retired : Dict (String × String) RetiredRow) :
    storeId ∈ retiredStores machineId retired ↔ (machineId, storeId) ∈ retired.keys := by
  constructor
  · intro member
    obtain ⟨⟨machine, store⟩, listed, same⟩ := List.mem_map.mp member
    rw [List.mem_filter, decide_eq_true_eq] at listed
    obtain ⟨present, rfl⟩ := listed
    exact same ▸ present
  · intro present
    exact List.mem_map.mpr ⟨_, List.mem_filter.mpr ⟨present, decide_eq_true rfl⟩, rfl⟩

theorem mem_retire (machineId replaced storeId : String) (now : Nat)
    (retired : Dict (String × String) RetiredRow) (key : String × String) :
    key ∈ (retire machineId replaced storeId now retired).keys ↔
      key ∈ retired.keys ∨ key = (machineId, replaced) := by
  unfold retire
  split
  next row present =>
    constructor
    · exact .inl
    · rintro (listed | rfl)
      · exact listed
      · rw [Dict.mem_keys_iff, present]
        exact Option.some_ne_none row
  next absent =>
    rw [Dict.mem_keys_iff, Dict.get?_set, Dict.mem_keys_iff]
    by_cases same : (machineId, replaced) = key
    · simp [same]
    · simp [same, Ne.symm same]

/-- What a push that changes no definition leaves: at most a refusal counted, or the time
of the push and the modes of agents whose record follows their definition. -/
structure Unmoved (before after : Tables) : Prop where
  current : ∀ machineId, (after.stores.get? machineId).map StoreRow.current =
    (before.stores.get? machineId).map StoreRow.current
  retired : after.retired.keys = before.retired.keys
  definitions : after.definitions = before.definitions
  withdrawn : ∀ id, withdrawnOf after id = withdrawnOf before id
  tombstones : after.tombstones = before.tombstones

/-- What an applied push is, and what it leaves. -/
structure Advanced (taken : RemovalHistory) (machineId storeId digest : String) (revision : Nat)
    (entries : List Entry) (before : Tables) (after : Tables) (applied : List String) : Prop where
  live : (machineId, storeId) ∉ before.retired.keys
  later : ∀ row, before.stores.get? machineId = some row → row.storeId = storeId →
    row.revision < revision
  current : (after.stores.get? machineId).map StoreRow.current = some ⟨storeId, revision, digest⟩
  others : ∀ other, other ≠ machineId → after.stores.get? other = before.stores.get? other
  retired : ∀ key, key ∈ after.retired.keys ↔ key ∈ before.retired.keys ∨
    ∃ row, before.stores.get? machineId = some row ∧ row.storeId ≠ storeId ∧
      key = (machineId, row.storeId)
  pushed : ∀ id, Pushed taken machineId storeId entries before after id
  installed : ∀ id ∈ applied, Installed taken machineId storeId entries id after

theorem advance_advanced {taken : RemovalHistory}
    {environmentId machineId storeId digest : String} {revision : Nat} {entries : List Entry}
    {switch : Switch} {now : Nat} {tables : Tables}
    (order : pushOrder ((tables.stores.get? machineId).map StoreRow.current)
        (retiredStores machineId tables.retired) storeId revision digest = .apply ∨
      pushOrder ((tables.stores.get? machineId).map StoreRow.current)
        (retiredStores machineId tables.retired) storeId revision digest = .newStore) :
    Advanced taken machineId storeId digest revision entries tables
      (advance taken environmentId machineId storeId digest revision entries switch now tables).1
      (advance taken environmentId machineId storeId digest revision entries switch now
        tables).2.applied := by
  obtain ⟨live, later⟩ := push_order_applies order
  rw [mem_retiredStores] at live
  unfold advance
  dsimp only
  generalize stored : ({ tables with retired := _, stores := _ } : Tables) = ready
  obtain ⟨storesSame, retiredSame, _⟩ :=
    apply_entries_stores taken machineId storeId entries now ready
  constructor
  · exact live
  · intro row found same
    exact later row.current (by rw [found]; rfl) same
  · simp only [followManaged, Dict.get?_modify, if_true, storesSame]
    rw [← stored, Dict.get?_set_self]
    rfl
  · intro other differ
    simp only [followManaged, Dict.get?_modify, if_neg differ, storesSame]
    rw [← stored, Dict.get?_set_ne _ _ (Ne.symm differ)]
  · intro key
    simp only [followManaged, retiredSame]
    rw [← stored]
    dsimp only
    cases found : tables.stores.get? machineId with
    | none => simp
    | some row =>
        dsimp only
        split
        next other =>
          rw [mem_retire]
          simp [other]
        next same => simp [not_not.mp same]
  · intro id
    have done := applyEntries_pushed taken machineId storeId entries now ready id
    have heldSame : heldAt ready id = heldAt tables id := by
      rw [← stored]
      rfl
    have withdrawnSame : withdrawnOf ready id = withdrawnOf tables id := by
      rw [← stored]
      rfl
    obtain ⟨followHeld, followWithdrawn⟩ := followManaged_id machineId switch
      (applyEntries taken machineId storeId entries now ready).1 id
    cases done with
    | kept held withdrawn =>
        exact .kept (followHeld.trans (held.trans heldSame))
          (followWithdrawn.trans (withdrawn.trans withdrawnSame))
    | installed entry =>
        obtain ⟨entry, member, named, newer, now⟩ := entry
        exact .installed ⟨entry, member, named, newer, followHeld.trans now⟩
    | withdrawn lifetime held gone remembered =>
        exact .withdrawn lifetime (heldSame ▸ held) (followHeld.trans gone)
          fun other found => remembered other (followWithdrawn ▸ found)
  · intro id listed
    obtain ⟨entry, member, named, newer, now⟩ := applied_installed listed
    exact ⟨entry, member, named, newer,
      (followManaged_id machineId switch _ id).1.trans now⟩

theorem advance_outcome (taken : RemovalHistory)
    (environmentId machineId storeId digest : String) (revision : Nat) (entries : List Entry)
    (switch : Switch) (now : Nat) (tables : Tables) :
    (advance taken environmentId machineId storeId digest revision entries switch now
      tables).2.outcome = .applied :=
  (apply_entries_stores taken machineId storeId entries now _).2.2

theorem unmoved_refl (tables : Tables) : Unmoved tables tables :=
  ⟨fun _ => rfl, rfl, rfl, fun _ => rfl, rfl⟩

theorem applyOrdered_cases (taken : RemovalHistory)
    (environmentId machineId storeId digest : String) (revision : Nat) (entries : List Entry)
    (switch : Switch) (now : Nat) (tables : Tables) :
    (Unmoved tables (applyOrdered taken environmentId machineId storeId digest revision entries
        switch now tables).1 ∧
      ∀ result, (applyOrdered taken environmentId machineId storeId digest revision entries
        switch now tables).2 = .ok result → result.outcome = .replay) ∨
    ∃ result, (applyOrdered taken environmentId machineId storeId digest revision entries
        switch now tables).2 = .ok result ∧ result.outcome = .applied ∧
      Advanced taken machineId storeId digest revision entries tables
        (applyOrdered taken environmentId machineId storeId digest revision entries switch now
          tables).1 result.applied := by
  unfold applyOrdered
  dsimp only
  cases order : pushOrder ((tables.stores.get? machineId).map StoreRow.current)
      (retiredStores machineId tables.retired) storeId revision digest with
  | retired =>
      exact .inl ⟨⟨fun _ => rfl, Dict.keys_modify _ _ _, rfl, fun _ => rfl, rfl⟩, by rintro _ ⟨⟩⟩
  | stale => exact .inl ⟨unmoved_refl tables, by rintro _ ⟨⟩⟩
  | conflict => exact .inl ⟨unmoved_refl tables, by rintro _ ⟨⟩⟩
  | replay =>
      refine .inl ⟨⟨?_, rfl, rfl, ?_, rfl⟩, ?_⟩
      · intro other
        simp only [followManaged, Dict.get?_modify]
        split
        · rw [Option.map_map]
          rfl
        · rfl
      · intro id
        exact (followManaged_id machineId switch _ id).2
      · rintro _ ⟨⟩
        rfl
  | apply =>
      exact .inr ⟨_, rfl, advance_outcome .., advance_advanced (.inl order)⟩
  | newStore =>
      exact .inr ⟨_, rfl, advance_outcome .., advance_advanced (.inr order)⟩

/-- A push is refused or a replay and moves no definition, or it is applied. -/
theorem push_cases (rules : Rules) (taken : RemovalHistory) (environment : Option Environment)
    (body : Push) (switch : Switch) (now : Nat) (tables : Tables) :
    (Unmoved tables (applyDefinitionPush rules taken environment body switch now tables).1 ∧
      ∀ result, (applyDefinitionPush rules taken environment body switch now tables).2 =
        .ok result → result.outcome = .replay) ∨
    ∃ result, (applyDefinitionPush rules taken environment body switch now tables).2 = .ok result ∧
      result.outcome = .applied ∧
      snapshotProblems rules body.entries (body.snapshotDigest.getD "") = [] ∧
      Advanced taken (strip (body.machineId.getD "")) (strip (body.storeId.getD ""))
        (body.snapshotDigest.getD "") (body.revision.getD 0) (body.entries.getD []) tables
        (applyDefinitionPush rules taken environment body switch now tables).1 result.applied := by
  unfold applyDefinitionPush
  dsimp only
  split
  · exact .inl ⟨unmoved_refl tables, by rintro _ ⟨⟩⟩
  split
  · exact .inl ⟨unmoved_refl tables, by rintro _ ⟨⟩⟩
  split
  · exact .inl ⟨unmoved_refl tables, by rintro _ ⟨⟩⟩
  next accepted =>
    rcases applyOrdered_cases taken ((environment.map Environment.id).getD "")
        (strip (body.machineId.getD "")) (strip (body.storeId.getD ""))
        (body.snapshotDigest.getD "") (body.revision.getD 0) (body.entries.getD []) switch now
        tables with unmoved | ⟨result, answered, outcome, advanced⟩
    · exact .inl unmoved
    · exact .inr ⟨result, answered, outcome, not_not.mp accepted, advanced⟩

/-- A replay says that it applied nothing. -/
theorem replay_applied (rules : Rules) (taken : RemovalHistory) (environment : Option Environment)
    (body : Push) (switch : Switch) (now : Nat) (tables : Tables) :
    ∀ result, (applyDefinitionPush rules taken environment body switch now tables).2 = .ok result →
      result.outcome = .replay → result.applied = [] := by
  intro result answered replays
  unfold applyDefinitionPush at answered
  dsimp only at answered
  split at answered
  · cases answered
  split at answered
  · cases answered
  split at answered
  · cases answered
  unfold applyOrdered at answered
  dsimp only at answered
  split at answered
  · cases answered
  · cases answered
  · cases answered
  · cases answered
    rfl
  all_goals
    cases answered
    rw [advance_outcome] at replays
    cases replays

/-! ### Release -/

theorem release_cases (agentId machineId : String) (tables : Tables) :
    (release agentId machineId tables).1 = tables ∨
    ∃ held, tables.definitions.get? agentId = some held ∧ held.machineId = strip machineId ∧
      (release agentId machineId tables).1 = { tables with
        definitions := tables.definitions.erase agentId
        agents := tables.agents.modify agentId fun row =>
          { row with definitionState := .withdrawn } } := by
  unfold release
  cases found : tables.definitions.get? agentId with
  | none => exact .inl rfl
  | some held =>
      dsimp only
      split
      · exact .inl rfl
      split
      · exact .inl rfl
      next here => exact .inr ⟨held, rfl, not_not.mp here, rfl⟩

end AifyComms.DefinitionPush
