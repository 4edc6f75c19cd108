import AifyComms.Dict
import AifyComms.PyText

/-!
A host's agent-definition snapshot, as the service judges it:
`api_core/definition_snapshot.py`. Nothing here reads a table or the clock.

A body arrives as JSON. A field of another JSON type than the one the service asks for
is `none`, and an entry whose fields do not have their types is `malformed`, with what
`entry_problems` says of it. The rules of a definition's `agent` object
(`definition_schema.py`) and the two digests are parameters.
-/

namespace AifyComms.DefinitionSnapshot
open PyText

/-- A definition's `agent` object. -/
structure Agent where
  name : String
  role : String
  harness : String
  mode : String
  workspace : String
  model : String
  effort : String
  instructions : String
  env : List (String × String)
  herdrSpace : Bool
  secrets : Option (String × List String)
  deriving DecidableEq

/-- An entry in state `valid`. -/
structure Defined where
  id : String
  incarnation : Nat
  revision : Nat
  available : Bool
  unavailableReason : String
  definitionDigest : String
  definition : Agent
  deriving DecidableEq

inductive Entry where
  | malformed (problem : String) (more : List String)
  | invalid (id : String) (problems : List String)
  | valid (entry : Defined)
  deriving DecidableEq

def Entry.id : Entry → String
  | .malformed _ _ => ""
  | .invalid id _ => id
  | .valid entry => entry.id

/-- `entry.get("incarnation", 0)`. -/
def Entry.incarnation : Entry → Nat
  | .valid entry => entry.incarnation
  | _ => 0

structure Rules where
  agentProblems : Agent → String → List String
  definitionDigest : Agent → String
  snapshotDigest : List Entry → String

def unavailableHarness : String := "harness-not-installed"

/-- `is_counter`, of a whole number. -/
def isCounter (value : Nat) : Bool := 1 ≤ value && value ≤ 2 ^ 53 - 1

def isHexDigit (c : Char) : Bool := ('0' ≤ c && c ≤ '9') || ('a' ≤ c && c ≤ 'f')

def isSha256Hex (digest : String) : Bool :=
  digest.toList.length == 64 && digest.toList.all isHexDigit

def counterProblem (id field : String) (value : Nat) : List String :=
  if isCounter value then []
  else [String.join [id, ": ", field, " must be a whole number from 1"]]

def availabilityProblem (entry : Defined) : List String :=
  if !entry.available && entry.unavailableReason ≠ unavailableHarness then
    [String.join [entry.id, ": an unavailable entry says why (", unavailableHarness, ")"]]
  else []

def definitionProblem (rules : Rules) (entry : Defined) : List String :=
  match rules.agentProblems entry.definition entry.id with
  | [] =>
      if !isSha256Hex entry.definitionDigest then
        [String.join [entry.id, ": definitionDigest must be lower-case sha-256 hex"]]
      else if rules.definitionDigest entry.definition ≠ entry.definitionDigest then
        [String.join [entry.id, ": definitionDigest does not match the definition"]]
      else []
  | problems => problems.map fun problem => String.join [entry.id, ": ", problem]

/-- `entry_problems`. -/
def entryProblems (rules : Rules) : Entry → List String
  | .malformed problem more => problem :: more
  | .invalid id problems =>
      if problems.isEmpty then
        [String.join [id, ": problems must be a non-empty list of strings"]]
      else []
  | .valid entry =>
      counterProblem entry.id "incarnation" entry.incarnation ++
        counterProblem entry.id "revision" entry.revision ++
        availabilityProblem entry ++ definitionProblem rules entry

/-- `snapshot_problems`. -/
def snapshotProblems (rules : Rules) (entries : Option (List Entry)) (claimed : String) :
    List String :=
  match entries with
  | none => ["entries: not a list"]
  | some entries =>
      match entries.flatMap (entryProblems rules) with
      | [] =>
          if ¬ (entries.map Entry.id).Nodup then ["entries: an id appears twice"]
          else if rules.snapshotDigest entries ≠ claimed then
            ["snapshotDigest: does not match the entries"]
          else []
      | found => found

/-- The columns of an `environments` row that a host's request is fenced by. -/
structure Environment where
  id : String
  bridgeId : String
  machineId : String
  deriving DecidableEq

/-- `fence_refusal`. -/
def fenceRefusal (environment : Option Environment) (bridgeId machineId : String) : String :=
  match environment with
  | none => "no such environment"
  | some row =>
      if strip row.bridgeId = "" then
        "this environment has no accepted claimer yet; beat first"
      else if strip row.bridgeId ≠ strip bridgeId then
        String.join ["not the current claimer of this environment (that is ",
          strip row.bridgeId, ")"]
      else if strip row.machineId ≠ strip machineId then
        String.join ["machineId does not match this environment's machine (", row.machineId, ")"]
      else ""

inductive PushOrder where
  | apply
  | replay
  | conflict
  | stale
  | retired
  | newStore
  deriving DecidableEq

/-- The snapshot a machine's current store was last applied at. -/
structure Current where
  storeId : String
  revision : Nat
  snapshotDigest : String
  deriving DecidableEq

/-- `push_order`. -/
def pushOrder (current : Option Current) (retired : List String) (storeId : String)
    (revision : Nat) (digest : String) : PushOrder :=
  if storeId ∈ retired then .retired
  else match current with
    | none => .apply
    | some current =>
        if storeId ≠ current.storeId then .newStore
        else if current.revision < revision then .apply
        else if revision < current.revision then .stale
        else if digest = current.snapshotDigest then .replay
        else .conflict

/-! ### What is accepted -/

theorem snapshot_accepted {rules : Rules} {entries : Option (List Entry)} {claimed : String}
    (accepted : snapshotProblems rules entries claimed = []) :
    ∃ list, entries = some list ∧ (∀ entry ∈ list, entryProblems rules entry = []) ∧
      (list.map Entry.id).Nodup ∧ rules.snapshotDigest list = claimed := by
  cases entries with
  | none => simp [snapshotProblems] at accepted
  | some list =>
      rw [snapshotProblems] at accepted
      split at accepted
      · next none =>
          split at accepted
          · cases accepted
          next distinct =>
            split at accepted
            · cases accepted
            next matching =>
              exact ⟨list, rfl, List.flatMap_eq_nil_iff.mp none, not_not.mp distinct,
                not_not.mp matching⟩
      · next _ differ => exact absurd accepted differ

/-- A push the order applies is of a store that is not retired: the machine's first one,
another one than its current, or its current one at a later revision. -/
theorem push_order_applies {current : Option Current} {retired : List String}
    {storeId digest : String} {revision : Nat}
    (applies : pushOrder current retired storeId revision digest = .apply ∨
      pushOrder current retired storeId revision digest = .newStore) :
    storeId ∉ retired ∧ ∀ held, current = some held → held.storeId = storeId →
      held.revision < revision := by
  unfold pushOrder at applies
  split at applies
  · simp at applies
  next live =>
    refine ⟨live, ?_⟩
    intro held recorded same
    subst recorded
    by_contra behind
    simp only [same, ne_eq, not_true_eq_false, if_false, behind] at applies
    split at applies
    · simp at applies
    · split at applies <;> simp at applies

end AifyComms.DefinitionSnapshot
