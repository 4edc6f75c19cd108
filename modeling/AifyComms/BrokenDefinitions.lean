import AifyComms.DefinitionRuns
import AifyComms.DefinitionOwnership
import AifyComms.SnapshotDigest

/-!
A definition file that its host can no longer read. The host pushes an invalid entry for it,
and the push is to keep the last good definition, mark it invalid and report its id as kept:
`_id_refusal` and `_apply_entries` of `api_core/definition_push.py`.

An invalid entry has no incarnation, and `_id_refusal` reads one as 0. So a done removal of
any earlier incarnation refuses it.
-/

namespace AifyComms.BrokenDefinitions
open PyText DefinitionSnapshot DefinitionPush DefinitionService Runs
open DefinitionRequests (removedIncarnation)

/-! ### What a push does with an invalid entry -/

/-- An entry of an id its machine owns is refused by the removals of that id alone. -/
theorem own_refusal_iff {taken : RemovalHistory} {machineId storeId id : String} :
    idRefusal taken id none (some machineId) machineId storeId = "" ↔
      isOperatorActor id = false ∧ taken id storeId = 0 := by
  have here : ((some machineId).any fun owner =>
      decide (owner ≠ "") && decide (owner ≠ machineId)) = false := by simp
  unfold idRefusal
  rw [here, if_neg Bool.false_ne_true]
  split
  next reserved => simp [reserved]
  next free =>
    split
    next removed => simp [String.join, removed.1]
    next kept =>
      rw [Option.getD_none] at kept
      have never : taken id storeId = 0 := by
        by_contra some
        exact kept ⟨some, Nat.zero_le _⟩
      simp [never, free]

/-- The machine owns the id, and nothing refuses an invalid entry of it. -/
def Keeps (taken : RemovalHistory) (machineId storeId : String) (held : Dict String Definition)
    (id : String) : Prop :=
  (held.get? id).map Definition.machineId = some machineId ∧
    idRefusal taken id none ((held.get? id).map Definition.machineId) machineId storeId = ""

theorem keeps_iff {taken : RemovalHistory} {machineId storeId id : String}
    {held : Dict String Definition} :
    Keeps taken machineId storeId held id ↔
      (held.get? id).map Definition.machineId = some machineId ∧ isOperatorActor id = false ∧
        taken id storeId = 0 := by
  unfold Keeps
  refine and_congr_right fun own => ?_
  rw [own, own_refusal_iff]

section Entries
variable (taken : RemovalHistory) (machineId storeId : String) (now : Nat)
  (held : Dict String Definition)

/-- An entry writes the definition of its own id only, and keeps no other. -/
theorem applyEntry_other (state : Tables × Result) {entry : Entry} {id : String}
    (other : entry.id ≠ id) :
    (applyEntry taken machineId storeId now held state entry).1.definitions.get? id =
        state.1.definitions.get? id ∧
      (id ∈ (applyEntry taken machineId storeId now held state entry).2.kept ↔
        id ∈ state.2.kept) := by
  unfold applyEntry
  dsimp only
  split
  · exact ⟨rfl, Iff.rfl⟩
  · cases entry with
    | malformed problem more => exact ⟨rfl, Iff.rfl⟩
    | invalid name problems =>
        have differ : id ≠ name := Ne.symm other
        dsimp only
        split
        · refine ⟨?_, ?_⟩
          · rw [Dict.get?_modify, if_neg differ]
          · rw [List.mem_append, List.mem_singleton]
            exact or_iff_left differ
        · exact ⟨rfl, Iff.rfl⟩
    | valid entry => exact ⟨Dict.get?_set_ne _ _ other, Iff.rfl⟩

theorem applyEntry_others (entries : List Entry) (state : Tables × Result) {id : String}
    (absent : id ∉ entries.map Entry.id) :
    (entries.foldl (applyEntry taken machineId storeId now held) state).1.definitions.get? id =
        state.1.definitions.get? id ∧
      (id ∈ (entries.foldl (applyEntry taken machineId storeId now held) state).2.kept ↔
        id ∈ state.2.kept) := by
  induction entries generalizing state with
  | nil => exact ⟨rfl, Iff.rfl⟩
  | cons entry rest ih =>
      rw [List.map_cons, List.mem_cons, not_or] at absent
      rw [List.foldl_cons]
      obtain ⟨same, kept⟩ := applyEntry_other taken machineId storeId now held state
        (Ne.symm absent.1)
      obtain ⟨sameRest, keptRest⟩ := ih (applyEntry taken machineId storeId now held state entry)
        absent.2
      exact ⟨sameRest.trans same, keptRest.trans kept⟩

/-- The invalid entry of an id, by the owner the id had before the push. -/
theorem applyEntry_invalid (state : Tables × Result) (id : String) (problems : List String) :
    (Keeps taken machineId storeId held id →
      id ∈ (applyEntry taken machineId storeId now held state (.invalid id problems)).2.kept ∧
      (applyEntry taken machineId storeId now held state
          (.invalid id problems)).1.definitions.get? id =
        (state.1.definitions.get? id).map (broken problems now)) ∧
    (¬ Keeps taken machineId storeId held id →
      (applyEntry taken machineId storeId now held state (.invalid id problems)).2.kept =
          state.2.kept ∧
        (applyEntry taken machineId storeId now held state (.invalid id problems)).1 =
          state.1) := by
  unfold applyEntry
  dsimp only [Entry.id, Entry.given]
  constructor
  · rintro ⟨own, free⟩
    rw [if_neg (not_not.mpr free), if_pos own]
    refine ⟨List.mem_append_right _ (List.mem_singleton_self _), ?_⟩
    rw [Dict.get?_modify, if_pos rfl]
  · intro fails
    split
    · exact ⟨rfl, rfl⟩
    next free =>
      rw [if_neg fun own => fails ⟨own, not_not.mp free⟩]
      exact ⟨rfl, rfl⟩

/-- A listed entry stands at one place. -/
theorem split_at_id {entries : List Entry} (distinct : (entries.map Entry.id).Nodup)
    {entry : Entry} (listed : entry ∈ entries) :
    ∃ front back, entries = front ++ entry :: back ∧ entry.id ∉ front.map Entry.id ∧
      entry.id ∉ back.map Entry.id := by
  obtain ⟨front, back, rfl⟩ := List.append_of_mem listed
  rw [List.map_append, List.map_cons] at distinct
  have alone := List.nodup_middle.mp distinct
  rw [List.nodup_cons, List.mem_append, not_or] at alone
  exact ⟨front, back, rfl, alone.1.1, alone.1.2⟩

/-- What the push leaves of an id with an invalid entry: its definition marked and the id
kept, or its definition as it was. -/
theorem applyEntries_invalid {entries : List Entry} (tables : Tables)
    (distinct : (entries.map Entry.id).Nodup) {id : String} {problems : List String}
    (listed : Entry.invalid id problems ∈ entries) :
    (Keeps taken machineId storeId tables.definitions id →
      id ∈ (applyEntries taken machineId storeId entries now tables).2.kept ∧
      (applyEntries taken machineId storeId entries now tables).1.definitions.get? id =
        (tables.definitions.get? id).map (broken problems now)) ∧
    (¬ Keeps taken machineId storeId tables.definitions id →
      id ∉ (applyEntries taken machineId storeId entries now tables).2.kept ∧
      (applyEntries taken machineId storeId entries now tables).1.definitions.get? id =
        tables.definitions.get? id) := by
  have present : id ∉ (owned machineId entries tables.definitions).map Prod.fst := by
    rw [mem_owned]
    exact fun both => both.2 (List.mem_map.mpr ⟨_, listed, rfl⟩)
  obtain ⟨result, definitions⟩ := withdraw_all_result (owned machineId entries tables.definitions)
    (entries.foldl (applyEntry taken machineId storeId now tables.definitions)
      (tables, nothingApplied))
  obtain ⟨front, back, rfl, before, behind⟩ := split_at_id distinct listed
  change id ∉ front.map Entry.id at before
  change id ∉ back.map Entry.id at behind
  unfold applyEntries
  rw [result, definitions, if_neg present, List.foldl_append, List.foldl_cons]
  obtain ⟨sameFront, keptFront⟩ := applyEntry_others taken machineId storeId now
    tables.definitions front (tables, nothingApplied) before
  generalize front.foldl (applyEntry taken machineId storeId now tables.definitions)
    (tables, nothingApplied) = state at sameFront keptFront ⊢
  obtain ⟨keeps, leaves⟩ := applyEntry_invalid taken machineId storeId now tables.definitions state
    id problems
  generalize applyEntry taken machineId storeId now tables.definitions state
    (.invalid id problems) = middle at keeps leaves ⊢
  obtain ⟨sameBack, keptBack⟩ := applyEntry_others taken machineId storeId now
    tables.definitions back middle behind
  constructor
  · intro holds
    obtain ⟨kept, marked⟩ := keeps holds
    exact ⟨keptBack.mpr kept, sameBack.trans (marked.trans (by rw [sameFront]))⟩
  · intro fails
    obtain ⟨kept, left⟩ := leaves fails
    refine ⟨fun listed => ?_, sameBack.trans (by rw [left, sameFront])⟩
    rw [keptBack, kept, keptFront] at listed
    cases listed

/-- A definition the push leaves was there before, or it is one of the machine's own and not
under an operator's name. -/
def Comes (machineId : String) (before : Dict String Definition) (after : Tables × Result) : Prop :=
  ∀ id definition, after.1.definitions.get? id = some definition →
    before.get? id = some definition ∨
      definition.machineId = machineId ∧ isOperatorActor id = false

theorem not_operator {id : String} {incarnation : Option Nat} {owner : Option String}
    (free : idRefusal taken id incarnation owner machineId storeId = "") :
    isOperatorActor id = false := by
  unfold idRefusal at free
  split at free
  · simp [String.join] at free
  split at free
  · simp at free
  next named => exact Bool.eq_false_iff.mpr named

theorem applyEntry_comes {state : Tables × Result} (entry : Entry)
    (comes : Comes machineId held state) :
    Comes machineId held (applyEntry taken machineId storeId now held state entry) := by
  unfold applyEntry
  dsimp only
  split
  · exact comes
  next free =>
    have named := not_operator taken machineId storeId (not_not.mp free)
    cases entry with
    | malformed problem more => exact comes
    | invalid name problems =>
        dsimp only
        split
        next own =>
          intro id definition found
          dsimp only at found
          rw [Dict.get?_modify] at found
          split at found
          next same =>
            subst same
            obtain ⟨old, present, rfl⟩ := Option.map_eq_some_iff.mp found
            refine .inr ⟨?_, named⟩
            rcases comes id old present with before | ⟨mine, _⟩
            · rw [Entry.id, before] at own
              exact Option.some.inj own
            · exact mine
          · exact comes id definition found
        · exact comes
    | valid entry =>
        intro id definition found
        dsimp only at found
        rw [Dict.get?_set] at found
        split at found
        next same =>
          subst same
          obtain rfl := Option.some.inj found
          exact .inr ⟨rfl, named⟩
        · exact comes id definition found

theorem applyEntries_comes (entries : List Entry) (tables : Tables) :
    Comes machineId tables.definitions
      (applyEntries taken machineId storeId entries now tables) := by
  have folded : Comes machineId tables.definitions
      (entries.foldl (applyEntry taken machineId storeId now tables.definitions)
        (tables, nothingApplied)) := by
    induction entries using List.reverseRecOn with
    | nil => exact fun _ _ found => .inl found
    | append_singleton entries entry ih =>
        rw [List.foldl_concat]
        exact applyEntry_comes taken machineId storeId now tables.definitions entry ih
  intro id definition found
  obtain ⟨_, definitions⟩ := withdraw_all_result (owned machineId entries tables.definitions)
    (entries.foldl (applyEntry taken machineId storeId now tables.definitions)
      (tables, nothingApplied))
  unfold applyEntries at found
  rw [definitions] at found
  split at found
  · cases found
  · exact folded id definition found

end Entries

/-! ### What a push leaves -/

/-- No entry was applied: each store has the digest and the outcome it had, and no definition
is new. -/
structure Narrowed (before after : Tables) : Prop where
  stores : ∀ machineId row, after.stores.get? machineId = some row →
    ∃ old, before.stores.get? machineId = some old ∧ old.snapshotDigest = row.snapshotDigest ∧
      old.outcome = row.outcome
  definitions : ∀ id definition, after.definitions.get? id = some definition →
    before.definitions.get? id = some definition

/-- The entries were applied, and the store's row has what they left unresolved. -/
structure Applies (taken : RemovalHistory) (machineId storeId digest : String)
    (entries : List Entry) (now : Nat) (before after : Tables) (result : Result) : Prop where
  written : ∃ ready, ready.definitions = before.definitions ∧
    after.definitions = (applyEntries taken machineId storeId entries now ready).1.definitions ∧
    result.kept = (applyEntries taken machineId storeId entries now ready).2.kept
  row : ∃ row, after.stores.get? machineId = some row ∧ row.snapshotDigest = digest ∧
    row.outcome = some (unresolvedOf result)
  others : ∀ other, other ≠ machineId → after.stores.get? other = before.stores.get? other

theorem narrowed_same {before after : Tables} (stores : after.stores = before.stores)
    (definitions : after.definitions = before.definitions) : Narrowed before after := by
  constructor
  · intro machineId row found
    exact ⟨row, stores ▸ found, rfl, rfl⟩
  · intro id definition found
    exact definitions ▸ found

theorem replay_current {current : Option Current} {retired : List String}
    {storeId digest : String} {revision : Nat}
    (replays : pushOrder current retired storeId revision digest = .replay) :
    ∃ held, current = some held ∧ held.snapshotDigest = digest := by
  unfold pushOrder at replays
  split at replays
  · cases replays
  cases current with
  | none => cases replays
  | some held =>
      dsimp only at replays
      split at replays
      · cases replays
      split at replays
      · cases replays
      split at replays
      · cases replays
      split at replays
      next same => exact ⟨held, rfl, same.symm⟩
      · cases replays

theorem advance_applies (taken : RemovalHistory)
    (environmentId machineId storeId digest : String) (revision : Nat) (entries : List Entry)
    (switch : Switch) (now : Nat) (tables : Tables) :
    Applies taken machineId storeId digest entries now tables
      (advance taken environmentId machineId storeId digest revision entries switch now tables).1
      (advance taken environmentId machineId storeId digest revision entries switch now
        tables).2 := by
  unfold advance
  dsimp only
  generalize stored : ({ tables with retired := _, stores := _ } : Tables) = ready
  obtain ⟨storesSame, _, _⟩ := apply_entries_stores taken machineId storeId entries now ready
  refine ⟨⟨ready, ?_, rfl, rfl⟩, ?_, ?_⟩
  · rw [← stored]
  · dsimp only [followManaged]
    rw [Dict.get?_modify, if_pos rfl, storesSame, ← stored, Dict.get?_set_self]
    exact ⟨_, rfl, rfl, rfl⟩
  · intro other differ
    dsimp only [followManaged]
    rw [Dict.get?_modify, if_neg differ, storesSame, ← stored, Dict.get?_set_ne _ _ (Ne.symm differ)]

/-- Where a push falls in the order of its machine's stores. -/
def orderOf (body : Push) (tables : Tables) : PushOrder :=
  pushOrder ((tables.stores.get? (strip (body.machineId.getD ""))).map StoreRow.current)
    (retiredStores (strip (body.machineId.getD "")) tables.retired) (strip (body.storeId.getD ""))
    (body.revision.getD 0) (body.snapshotDigest.getD "")

/-- An accepted replay says what its store's row has recorded. -/
structure Replayed (rules : Rules) (body : Push) (before after : Tables) (result : Result) : Prop where
  order : orderOf body before = .replay
  outcome : result.outcome = .replay
  sound : snapshotProblems rules body.entries (body.snapshotDigest.getD "") = []
  unchanged : after.definitions = before.definitions
  recorded : ∃ row, before.stores.get? (strip (body.machineId.getD "")) = some row ∧
    row.snapshotDigest = body.snapshotDigest.getD "" ∧
    result.kept = (row.outcome.getD ⟨[], [], []⟩).kept

/-- A push is refused or a replay, or its entries are applied. -/
theorem push_moves (rules : Rules) (taken : RemovalHistory) (environment : Option Environment)
    (body : Push) (switch : Switch) (now : Nat) (tables : Tables) :
    (Narrowed tables (applyDefinitionPush rules taken environment body switch now tables).1 ∧
      ∀ result, (applyDefinitionPush rules taken environment body switch now tables).2 =
        .ok result → Replayed rules body tables
          (applyDefinitionPush rules taken environment body switch now tables).1 result) ∨
    ∃ result, (applyDefinitionPush rules taken environment body switch now tables).2 = .ok result ∧
      result.outcome = .applied ∧ orderOf body tables ≠ .replay ∧
      snapshotProblems rules body.entries (body.snapshotDigest.getD "") = [] ∧
      Applies taken (strip (body.machineId.getD "")) (strip (body.storeId.getD ""))
        (body.snapshotDigest.getD "") (body.entries.getD []) now tables
        (applyDefinitionPush rules taken environment body switch now tables).1 result := by
  unfold applyDefinitionPush
  dsimp only
  split
  · exact .inl ⟨narrowed_same rfl rfl, by rintro _ ⟨⟩⟩
  split
  · exact .inl ⟨narrowed_same rfl rfl, by rintro _ ⟨⟩⟩
  split
  · exact .inl ⟨narrowed_same rfl rfl, by rintro _ ⟨⟩⟩
  next accepted =>
  have sound := not_not.mp accepted
  have order : orderOf body tables = pushOrder ((tables.stores.get?
    (strip (body.machineId.getD ""))).map StoreRow.current)
    (retiredStores (strip (body.machineId.getD "")) tables.retired) (strip (body.storeId.getD ""))
    (body.revision.getD 0) (body.snapshotDigest.getD "") := rfl
  unfold applyOrdered
  dsimp only
  split
  · exact .inl ⟨narrowed_same rfl rfl, by rintro _ ⟨⟩⟩
  · exact .inl ⟨narrowed_same rfl rfl, by rintro _ ⟨⟩⟩
  · exact .inl ⟨narrowed_same rfl rfl, by rintro _ ⟨⟩⟩
  next replays =>
    refine .inl ⟨⟨?_, fun _ _ found => found⟩, ?_⟩
    · intro machineId row found
      dsimp only [followManaged] at found
      rw [Dict.get?_modify] at found
      split at found
      · obtain ⟨old, present, rfl⟩ := Option.map_eq_some_iff.mp found
        exact ⟨old, present, rfl, rfl⟩
      · exact ⟨row, found, rfl, rfl⟩
    · rintro _ ⟨⟩
      obtain ⟨held, current, digest⟩ := replay_current replays
      obtain ⟨row, found, rfl⟩ := Option.map_eq_some_iff.mp current
      refine ⟨order.trans replays, rfl, sound, rfl, row, found, digest, ?_⟩
      rw [found]
      rfl
  next applies =>
    exact .inr ⟨_, rfl, advance_outcome .., by rw [order, applies]; decide, sound,
      advance_applies ..⟩
  next applies =>
    exact .inr ⟨_, rfl, advance_outcome .., by rw [order, applies]; decide, sound,
      advance_applies ..⟩

/-! ### Over runs -/

section Runs
variable {service : Service}

theorem removalMoved_narrowed {before after : World} (moved : RemovalMoved before after) :
    Narrowed before.tables after.tables := by
  cases moved <;> exact narrowed_same rfl rfl

/-- A step other than a push applies no entry. -/
theorem step_narrowed {before after : World} {label : Label}
    (taken : step service before label = some after)
    (other : ∀ environment body switch now, label ≠ .push environment body switch now) :
    Narrowed before.tables after.tables := by
  cases label with
  | push environment body switch now => exact absurd rfl (other environment body switch now)
  | release agentId machineId =>
      obtain rfl := Option.some.inj taken
      rcases release_cases agentId machineId before.tables with same | ⟨held, _, _, same⟩
      · rw [same]
        exact narrowed_same rfl rfl
      · rw [same]
        refine ⟨fun _ row found => ⟨row, found, rfl, rfl⟩, fun id definition found => ?_⟩
        dsimp only [World.commit] at found
        rw [Dict.get?_erase] at found
        split at found
        · cases found
        · exact found
  | report environment id body now =>
      obtain rfl := Option.some.inj taken
      rcases report_committed rfl with same | ⟨record, state, _, _, same⟩
      · rw [same]
        exact narrowed_same rfl rfl
      · rw [same]
        exact narrowed_same rfl rfl
  | beginRemoval party id =>
      obtain ⟨row, _, _, rfl⟩ := beginRemoval_some taken
      exact narrowed_same rfl rfl
  | removalFirst party now => exact removalMoved_narrowed (removalFirst_moved taken)
  | removalSecond party now => exact removalMoved_narrowed (removalSecond_moved taken)
  | removalSettle party =>
      obtain ⟨id, why, _, rfl⟩ := removalSettle_some taken
      exact narrowed_same rfl rfl
  | lifecycleRemoval id now =>
      rcases finishLifecycleRemoval_some taken with rfl | ⟨row, _, _, rfl⟩ <;>
        exact narrowed_same rfl rfl
  | _ =>
      obtain rfl := Option.some.inj taken
      exact narrowed_same rfl rfl

/-- A push applies no entry, or it is accepted and its entries are applied. -/
theorem push_step_cases (environment : Option Environment) (body : Push) (switch : Switch)
    (now : Nat) (world : World) :
    Narrowed world.tables (push service environment body switch now world).tables ∨
    ∃ result, orderOf body world.tables ≠ .replay ∧
      snapshotProblems service.rules body.entries (body.snapshotDigest.getD "") = [] ∧
      Applies (removedIncarnation world.requests) (strip (body.machineId.getD ""))
        (strip (body.storeId.getD "")) (body.snapshotDigest.getD "") (body.entries.getD []) now
        world.tables (push service environment body switch now world).tables result := by
  have moves := push_moves service.rules (removedIncarnation world.requests) environment body
    switch now world.tables
  generalize ran : applyDefinitionPush service.rules (removedIncarnation world.requests)
    environment body switch now world.tables = done at moves
  rcases push_committed ran with same | ⟨refusal, refused, same⟩ | ⟨result, state, _, _, same⟩
  · rw [same]
    exact .inl (narrowed_same rfl rfl)
  · rw [same]
    rcases moves with ⟨narrowed, _⟩ | ⟨result, answered, _⟩
    · exact .inl narrowed
    · rw [refused] at answered
      cases answered
  · rw [same]
    rcases moves with ⟨narrowed, _⟩ | ⟨result, _, _, order, sound, applies⟩
    · exact .inl narrowed
    · exact .inr ⟨result, order, sound, applies⟩

/-- No definition is under an operator's name. -/
def Named (tables : Tables) : Prop :=
  ∀ id definition, tables.definitions.get? id = some definition → isOperatorActor id = false

theorem reached_named {allowed : World → Label → Prop} {world : World}
    (run : Reaches (step service) allowed initial world) : Named world.tables := by
  refine run.invariant (fun world => Named world.tables) ?_ ?_
  · intro id definition found
    cases found
  intro before label after named _ taken
  have narrow : Narrowed before.tables after.tables → Named after.tables :=
    fun narrowed id definition found => named id definition (narrowed.definitions id definition found)
  by_cases isPush : ∃ environment body switch now, label = .push environment body switch now
  · obtain ⟨environment, body, switch, now, rfl⟩ := isPush
    obtain rfl := Option.some.inj taken
    rcases push_step_cases environment body switch now before with narrowed | ⟨_, _, _, applies⟩
    · exact narrow narrowed
    · intro id definition found
      obtain ⟨ready, same, written, _⟩ := applies.written
      rw [written] at found
      rcases applyEntries_comes _ _ _ _ _ ready id definition found with old | ⟨_, free⟩
      · rw [same] at old
        exact named id definition old
      · exact free
  · refine narrow (step_narrowed taken fun environment body switch now same => ?_)
    exact isPush ⟨environment, body, switch, now, same⟩

/-- No removal of the id counts against the store: `_removed_incarnation` finds none. -/
def NeverRemoved (world : World) (body : Push) (id : String) : Prop :=
  removedIncarnation world.requests id (strip (body.storeId.getD "")) = 0

/-- The push has an invalid entry of an id whose definition its machine holds. -/
structure Carries (world : World) (body : Push) (id : String) (problems : List String)
    (held : Definition) : Prop where
  listed : Entry.invalid id problems ∈ body.entries.getD []
  found : world.tables.definitions.get? id = some held
  own : held.machineId = strip (body.machineId.getD "")

/-- A push that is no replay has invalid entries only of ids that were never removed from its
store, where its machine holds their definitions. -/
def Unremoved (world : World) : Label → Prop
  | .push _ body _ _ => orderOf body world.tables ≠ .replay →
      ∀ id problems held, Carries world body id problems held → NeverRemoved world body id
  | _ => True

/-- The row of a store is of entries whose invalid ones are all marked and kept, as long as
the machine holds their definitions. -/
def Recorded (rules : Rules) (definitions : Dict String Definition) (machineId : String)
    (row : StoreRow) : Prop :=
  ∃ entries outcome, snapshotProblems rules (some entries) row.snapshotDigest = [] ∧
    row.outcome = some outcome ∧ ∀ id problems held, Entry.invalid id problems ∈ entries →
      definitions.get? id = some held → held.machineId = machineId →
      id ∈ outcome.kept ∧ ∃ time before, held = broken problems time before

def AllRecorded (rules : Rules) (tables : Tables) : Prop :=
  ∀ machineId row, tables.stores.get? machineId = some row →
    Recorded rules tables.definitions machineId row

theorem narrowed_recorded {rules : Rules} {before after : Tables}
    (recorded : AllRecorded rules before) (narrowed : Narrowed before after) :
    AllRecorded rules after := by
  intro machineId row found
  obtain ⟨old, present, digest, told⟩ := narrowed.stores machineId row found
  obtain ⟨entries, outcome, sound, told', marked⟩ := recorded machineId old present
  refine ⟨entries, outcome, digest ▸ sound, told ▸ told', ?_⟩
  intro id problems held listed here own
  exact marked id problems held listed (narrowed.definitions id held here) own

/-- What an applied push does with an invalid entry of an id its machine holds. -/
theorem applies_invalid {rules : Rules} {world : World} {body : Push} {now : Nat} {after : Tables}
    {result : Result} {id : String} {problems : List String} {held : Definition}
    (named : Named world.tables)
    (sound : snapshotProblems rules body.entries (body.snapshotDigest.getD "") = [])
    (applies : Applies (removedIncarnation world.requests) (strip (body.machineId.getD ""))
      (strip (body.storeId.getD "")) (body.snapshotDigest.getD "") (body.entries.getD []) now
      world.tables after result)
    (carries : Carries world body id problems held) :
    (NeverRemoved world body id →
      id ∈ result.kept ∧ after.definitions.get? id = some (broken problems now held)) ∧
    (¬ NeverRemoved world body id →
      id ∉ result.kept ∧ after.definitions.get? id = some held) := by
  obtain ⟨entries, given, _, distinct, _⟩ := snapshot_accepted sound
  obtain ⟨ready, same, written, kept⟩ := applies.written
  obtain ⟨listed, found, own⟩ := carries
  rw [given, Option.getD_some] at listed written kept
  obtain ⟨keeps, leaves⟩ := applyEntries_invalid (removedIncarnation world.requests)
    (strip (body.machineId.getD "")) (strip (body.storeId.getD "")) now ready distinct listed
  rw [same, keeps_iff, found, Option.map_some, own] at keeps leaves
  have reserved := named id held found
  rw [written, kept]
  constructor
  · intro never
    exact keeps ⟨rfl, reserved, never⟩
  · intro removed
    exact leaves fun all => removed all.2.2

/-- A definition an applied push leaves to an invalid entry was there before. -/
theorem applies_before {rules : Rules} {world : World} {body : Push} {now : Nat} {after : Tables}
    {result : Result} {id : String} {problems : List String} {held : Definition}
    (sound : snapshotProblems rules body.entries (body.snapshotDigest.getD "") = [])
    (applies : Applies (removedIncarnation world.requests) (strip (body.machineId.getD ""))
      (strip (body.storeId.getD "")) (body.snapshotDigest.getD "") (body.entries.getD []) now
      world.tables after result)
    (listed : Entry.invalid id problems ∈ body.entries.getD [])
    (found : after.definitions.get? id = some held) :
    ∃ old, world.tables.definitions.get? id = some old ∧ old.machineId = held.machineId := by
  obtain ⟨entries, given, _, distinct, _⟩ := snapshot_accepted sound
  obtain ⟨ready, same, written, _⟩ := applies.written
  rw [given, Option.getD_some] at listed written
  obtain ⟨keeps, leaves⟩ := applyEntries_invalid (removedIncarnation world.requests)
    (strip (body.machineId.getD "")) (strip (body.storeId.getD "")) now ready distinct listed
  rw [written] at found
  by_cases kept : Keeps (removedIncarnation world.requests) (strip (body.machineId.getD ""))
      (strip (body.storeId.getD "")) ready.definitions id
  · rw [(keeps kept).2, same] at found
    obtain ⟨old, present, rfl⟩ := Option.map_eq_some_iff.mp found
    exact ⟨old, present, rfl⟩
  · rw [(leaves kept).2, same] at found
    exact ⟨held, found, rfl⟩

/-- The machine's own row is of the pushed entries; a definition of another machine is one the
push did not write. -/
theorem applies_recorded {rules : Rules} {world : World} {body : Push} {now : Nat} {after : Tables}
    {result : Result} (named : Named world.tables) (recorded : AllRecorded rules world.tables)
    (sound : snapshotProblems rules body.entries (body.snapshotDigest.getD "") = [])
    (applies : Applies (removedIncarnation world.requests) (strip (body.machineId.getD ""))
      (strip (body.storeId.getD "")) (body.snapshotDigest.getD "") (body.entries.getD []) now
      world.tables after result)
    (unremoved : ∀ id problems held, Carries world body id problems held →
      NeverRemoved world body id) : AllRecorded rules after := by
  intro machineId row found
  by_cases same : machineId = strip (body.machineId.getD "")
  · obtain ⟨own, present, digest, told⟩ := applies.row
    rw [same, present] at found
    obtain rfl := Option.some.inj found
    obtain ⟨entries, given, _, _, _⟩ := snapshot_accepted sound
    refine ⟨entries, unresolvedOf result, ?_, told, ?_⟩
    · rw [digest, ← given]
      exact sound
    intro id problems held listed here mine
    have inside : Entry.invalid id problems ∈ body.entries.getD [] := by
      rw [given]
      exact listed
    obtain ⟨old, before, machine⟩ := applies_before sound applies inside here
    have carries : Carries world body id problems old :=
      ⟨inside, before, machine.trans (mine.trans same)⟩
    obtain ⟨kept, marked⟩ := (applies_invalid named sound applies carries).1
      (unremoved id problems old carries)
    rw [marked] at here
    exact ⟨kept, now, old, (Option.some.inj here).symm⟩
  · rw [applies.others machineId same] at found
    obtain ⟨entries, outcome, accepted, told, marked⟩ := recorded machineId row found
    refine ⟨entries, outcome, accepted, told, ?_⟩
    intro id problems held listed here mine
    obtain ⟨ready, definitions, written, _⟩ := applies.written
    rw [written] at here
    rcases applyEntries_comes _ _ _ _ _ ready id held here with old | ⟨theirs, _⟩
    · rw [definitions] at old
      exact marked id problems held listed old mine
    · exact absurd (mine.symm.trans theirs) same

theorem reached_recorded {world : World} (run : Reaches (step service) Unremoved initial world) :
    AllRecorded service.rules world.tables := by
  induction run with
  | refl =>
      intro machineId row found
      cases found
  | @tail before after label earlier unremoved taken ih =>
      by_cases isPush : ∃ environment body switch now, label = .push environment body switch now
      · obtain ⟨environment, body, switch, now, rfl⟩ := isPush
        obtain rfl := Option.some.inj taken
        rcases push_step_cases environment body switch now before with
          narrowed | ⟨result, order, sound, applies⟩
        · exact narrowed_recorded ih narrowed
        · exact applies_recorded (reached_named earlier) ih sound applies (unremoved order)
      · refine narrowed_recorded ih (step_narrowed taken fun environment body switch now same => ?_)
        exact isPush ⟨environment, body, switch, now, same⟩

/-! ### An accepted push -/

/-- The answer of the route to a push it accepts: a failed spawn rolls the push back. -/
def answer (service : Service) (environment : Option Environment) (body : Push) (switch : Switch)
    (now : Nat) (world : World) : Option Result :=
  let done := applyDefinitionPush service.rules (removedIncarnation world.requests) environment
    body switch now world.tables
  match done.2 with
  | .error _ => none
  | .ok result =>
      (spawnCreated done.1.definitions (strip (body.machineId.getD "")) now world.spawning).map
        fun _ => result

/-- The push keeps the definition, marked invalid and with nothing else changed, and reports
its id as kept. -/
def Kept (after : World) (result : Result) (id : String) (problems : List String)
    (held : Definition) : Prop :=
  id ∈ result.kept ∧ ∃ time, after.tables.definitions.get? id = some (broken problems time held)

theorem answer_committed {environment : Option Environment} {body : Push} {switch : Switch}
    {now : Nat} {world : World} {result : Result}
    (answered : answer service environment body switch now world = some result) :
    (applyDefinitionPush service.rules (removedIncarnation world.requests) environment body switch
        now world.tables).2 = .ok result ∧
      (push service environment body switch now world).tables =
        (applyDefinitionPush service.rules (removedIncarnation world.requests) environment body
          switch now world.tables).1 := by
  unfold answer at answered
  dsimp only at answered
  generalize ran : applyDefinitionPush service.rules (removedIncarnation world.requests)
    environment body switch now world.tables = done at answered ⊢
  cases told : done.2 with
  | error refusal =>
      rw [told] at answered
      cases answered
  | ok given =>
      rw [told] at answered
      obtain ⟨state, spawned, rfl⟩ := Option.map_eq_some_iff.mp answered
      refine ⟨rfl, ?_⟩
      unfold push
      rw [ran]
      dsimp only
      rw [told]
      dsimp only
      rw [spawned]
      rfl

end Runs

/-! ### The digest of the entries -/

section Digests
open JsonText (Str ascii IsText)

/-- A pushed entry as the digest reads it. Its definition is not read: the entry has the
digest of it. -/
def pushedEntry : Entry → SnapshotDigest.Entry
  | .malformed _ _ => .invalid [] []
  | .invalid id problems => .invalid (ascii id) (problems.map ascii)
  | .valid entry =>
      .valid (ascii entry.id) entry.incarnation entry.revision (ascii entry.definitionDigest)
        entry.available (ascii entry.unavailableReason) .null

/-- The digest of a snapshot is `snapshot_digest`, over an injective SHA-256. -/
structure Digests (rules : Rules) (sha256Hex : Str → String) : Prop where
  injective : Function.Injective sha256Hex
  snapshots : ∀ entries, rules.snapshotDigest entries =
    SnapshotDigest.snapshotDigest sha256Hex (entries.map pushedEntry)

theorem isText_ascii (text : String) : IsText (ascii text) := by
  refine ⟨?_, List.Pairwise.isChain (List.pairwise_of_forall_mem_list ?_)⟩
  · intro point listed
    obtain ⟨c, _, rfl⟩ := List.mem_map.mp listed
    have valid : c.toNat < 0xd800 ∨ (0xdfff < c.toNat ∧ c.toNat < 0x110000) := c.valid
    omega
  · intro first listed second _ both
    obtain ⟨c, _, rfl⟩ := List.mem_map.mp listed
    have plain := Utf16.toNat_not_surrogate c
    simp only [JsonText.isHigh, Utf16.isSurrogate, Bool.and_eq_true, Bool.and_eq_false_imp,
      decide_eq_true_eq, decide_eq_false_iff_not] at both plain
    omega

theorem ascii_injective : Function.Injective ascii := by
  intro first second same
  have points : Function.Injective Char.toNat := fun _ _ => Char.toNat_inj.mp
  exact String.toList_injective (List.map_injective_iff.mpr points same)

theorem textual_pushedEntry (entry : Entry) : (pushedEntry entry).Textual := by
  cases entry with
  | malformed problem more => exact ⟨isText_ascii "", fun _ listed => absurd listed List.not_mem_nil⟩
  | invalid id problems =>
      refine ⟨isText_ascii id, fun text listed => ?_⟩
      obtain ⟨problem, _, rfl⟩ := List.mem_map.mp listed
      exact isText_ascii problem
  | valid entry => exact ⟨isText_ascii _, isText_ascii _, isText_ascii _⟩

/-- Two accepted snapshots of one digest have the same invalid entries, their problems in some
order. -/
theorem same_invalid {rules : Rules} {sha256Hex : Str → String} (digests : Digests rules sha256Hex)
    {entries others : List Entry} {claimed : String}
    (sound : snapshotProblems rules (some entries) claimed = [])
    (also : snapshotProblems rules (some others) claimed = []) {id : String}
    {problems : List String} (listed : Entry.invalid id problems ∈ entries) :
    ∃ theirs, Entry.invalid id theirs ∈ others ∧ problems.Perm theirs := by
  obtain ⟨_, given, _, _, digest⟩ := snapshot_accepted sound
  obtain rfl := Option.some.inj given
  obtain ⟨_, alsoGiven, formed, _, alsoDigest⟩ := snapshot_accepted also
  obtain rfl := Option.some.inj alsoGiven
  have same := digest.trans alsoDigest.symm
  rw [digests.snapshots, digests.snapshots] at same
  have textual : ∀ list : List Entry, ∀ entry ∈ list.map pushedEntry, entry.Textual := by
    intro list entry inside
    obtain ⟨pushed, _, rfl⟩ := List.mem_map.mp inside
    exact textual_pushedEntry pushed
  obtain ⟨theirs, inside, perm⟩ := SnapshotDigest.invalid_of_same_digest digests.injective
    (textual entries) (textual others) same (List.mem_map_of_mem listed)
  obtain ⟨other, present, shape⟩ := List.mem_map.mp inside
  cases other with
  | malformed problem more => cases formed _ present
  | valid entry => cases shape
  | invalid otherId otherProblems =>
      obtain ⟨ids, texts⟩ := SnapshotDigest.Entry.invalid.inj shape
      obtain rfl := ascii_injective ids
      subst texts
      exact ⟨otherProblems, present, (List.map_perm_map_iff ascii_injective).mp perm⟩

end Digests

theorem broken_perm {problems theirs : List String} (perm : problems.Perm theirs) (time : Nat)
    (definition : Definition) : broken problems time definition = broken theirs time definition := by
  have sorted : problems.insertionSort (· ≤ ·) = theirs.insertionSort (· ≤ ·) := by
    refine List.Perm.eq_of_pairwise (fun _ _ _ _ => le_antisymm)
      (List.pairwise_insertionSort _ problems) (List.pairwise_insertionSort _ theirs) ?_
    exact (List.perm_insertionSort _ problems).trans
      (perm.trans (List.perm_insertionSort _ theirs).symm)
  rw [broken, broken, sorted]

section Main
variable {service : Service} {sha256Hex : JsonText.Str → String} {environment : Option Environment}
  {body : Push} {switch : Switch} {now : Nat} {world : World} {result : Result} {id : String}
  {problems : List String} {held : Definition}

/-- A push that is no replay keeps the definition exactly when its id was never removed from the
store. -/
theorem applied_kept_iff {allowed : World → Label → Prop}
    (run : Reaches (step service) allowed initial world)
    (answered : answer service environment body switch now world = some result)
    (order : orderOf body world.tables ≠ .replay) (carries : Carries world body id problems held) :
    Kept (push service environment body switch now world) result id problems held ↔
      NeverRemoved world body id := by
  obtain ⟨accepted, tables⟩ := answer_committed answered
  rcases push_moves service.rules (removedIncarnation world.requests) environment body switch now
      world.tables with ⟨_, replays⟩ | ⟨other, told, _, _, sound, applies⟩
  · exact absurd (replays result accepted).order order
  · rw [accepted, Except.ok.injEq] at told
    subst told
    obtain ⟨keeps, leaves⟩ := applies_invalid (reached_named run) sound applies carries
    unfold Kept
    rw [tables]
    constructor
    · rintro ⟨kept, _⟩
      by_contra removed
      exact (leaves removed).1 kept
    · intro never
      exact ⟨(keeps never).1, now, (keeps never).2⟩

/-- A replay finds the definition marked and its id kept by the push it repeats. -/
theorem replayed_kept (digests : Digests service.rules sha256Hex)
    (run : Reaches (step service) Unremoved initial world)
    (answered : answer service environment body switch now world = some result)
    (order : orderOf body world.tables = .replay) (carries : Carries world body id problems held) :
    Kept (push service environment body switch now world) result id problems held := by
  obtain ⟨accepted, tables⟩ := answer_committed answered
  rcases push_moves service.rules (removedIncarnation world.requests) environment body switch now
      world.tables with ⟨_, replays⟩ | ⟨_, _, _, other, _⟩
  · obtain ⟨_, _, sound, unchanged, row, found, digest, kept⟩ := replays result accepted
    obtain ⟨entries, outcome, recorded, told, marked⟩ := reached_recorded run _ row found
    obtain ⟨pushed, given, _⟩ := snapshot_accepted sound
    have listed : Entry.invalid id problems ∈ pushed := by
      have inside := carries.listed
      rwa [given] at inside
    rw [given, ← digest] at sound
    obtain ⟨theirs, inside, perm⟩ := same_invalid digests sound recorded listed
    obtain ⟨listedKept, time, before, shape⟩ := marked id theirs held inside carries.found carries.own
    refine ⟨?_, time, ?_⟩
    · rw [kept, told]
      exact listedKept
    · rw [tables, unchanged, carries.found, broken_perm perm, shape]
      rfl
  · exact absurd order other

/-- An invalid entry of an id whose definition the machine holds keeps that definition, marked
invalid, and its id is reported as kept, exactly when no done removal of the id counts against the
store; and so in every run in which that holds of each push when it is applied, whether the push
is applied or a replay. -/
theorem invalid_entry_keeps_definition (digests : Digests service.rules sha256Hex) :
    (∀ world, Reaches (step service) anyStep initial world →
      ∀ environment body switch now result id problems held,
        answer service environment body switch now world = some result →
        orderOf body world.tables ≠ .replay → Carries world body id problems held →
        (Kept (push service environment body switch now world) result id problems held ↔
          NeverRemoved world body id)) ∧
    (∀ world, Reaches (step service) Unremoved initial world →
      ∀ environment body switch now result id problems held,
        Unremoved world (.push environment body switch now) →
        answer service environment body switch now world = some result →
        Carries world body id problems held →
        Kept (push service environment body switch now world) result id problems held) := by
  constructor
  · intro world run environment body switch now result id problems held answered order carries
    exact applied_kept_iff run answered order carries
  · intro world run environment body switch now result id problems held unremoved answered carries
    by_cases order : orderOf body world.tables = .replay
    · exact replayed_kept digests run answered order carries
    · exact (applied_kept_iff run answered order carries).mpr
        (unremoved order id problems held carries)

end Main

/-! ### A file that breaks -/

section Broken
open JsonText (Str ascii)

def coderText : Str :=
  ascii "[\x7b\"available\":true,\"definitionDigest\":\"" ++ ascii coderDigest ++
    ascii "\",\"id\":\"coder\",\"incarnation\":1,\"revision\":1," ++ ascii "\"state\":\"valid\"\x7d]"

def brokenText : Str :=
  ascii "[\x7b\"id\":\"coder\",\"problems\":[" ++
    ascii "\"not an object\"],\"state\":\"invalid\"\x7d]"

def unary (text : Str) : List Char := text.flatMap fun point => List.replicate point 'a' ++ ['b']

/-- SHA-256 on the two texts. -/
def hexOf (text : Str) : String :=
  if text = coderText then "f53637ec16b6f856033aac991c4ed1517e584299e7b341072ccc2b7f9ed8659b"
  else if text = brokenText then
    "d65da0ac4fe8302fdb61a3d60bff2a2e1eec3ce3d5b39e303984fc051d402a1a"
  else String.ofList ('-' :: unary text)

theorem unary_injective : Function.Injective unary := by
  have first : ∀ (count other : Nat) (rest others : List Char),
      List.replicate count 'a' ++ 'b' :: rest = List.replicate other 'a' ++ 'b' :: others →
      count = other ∧ rest = others := by
    intro count
    induction count with
    | zero =>
        intro other rest others same
        cases other with
        | zero => exact ⟨rfl, (List.cons.inj same).2⟩
        | succ other => cases same
    | succ count ih =>
        intro other rest others same
        cases other with
        | zero => cases same
        | succ other =>
            obtain ⟨rfl, later⟩ := ih other rest others (List.cons.inj same).2
            exact ⟨rfl, later⟩
  intro text
  induction text with
  | nil =>
      intro other same
      cases other with
      | nil => rfl
      | cons point rest =>
          have empty := congrArg List.length same
          simp [unary] at empty
  | cons point rest ih =>
      intro other same
      cases other with
      | nil =>
          have empty := congrArg List.length same
          simp [unary] at empty
      | cons point' rest' =>
          simp only [unary, List.flatMap_cons, List.append_assoc, List.singleton_append] at same
          obtain ⟨rfl, later⟩ := first _ _ _ _ same
          rw [ih later]

theorem ofList_ne {text : String} {rest : List Char} (other : text.toList.head? ≠ some '-') :
    String.ofList ('-' :: rest) ≠ text := by
  rintro rfl
  rw [String.toList_ofList] at other
  exact other rfl

theorem hexOf_injective : Function.Injective hexOf := by
  refine SnapshotDigest.twoValues_injective ?_ (by decide) (fun text => ofList_ne (by decide))
    fun text => ofList_ne (by decide)
  intro first second same
  exact unary_injective (List.cons.inj (String.ofList_injective same)).2

def fileRules : Rules where
  agentProblems _ _ := []
  definitionDigest _ := coderDigest
  snapshotDigest entries := SnapshotDigest.snapshotDigest hexOf (entries.map pushedEntry)

def filebox : Service := { devbox with rules := fileRules }

def brokenEntry : Entry := .invalid "coder" ["not an object"]

/-- The host pushes the broken file. -/
def brokenBody (revision : Nat) : Push :=
  ⟨some "bridge-1", some "devbox", some "s1",
    some "d65da0ac4fe8302fdb61a3d60bff2a2e1eec3ce3d5b39e303984fc051d402a1a", some revision,
    some [brokenEntry]⟩

def brokenAnswer (service : Service) (revision : Nat) (world : World) : Option Result :=
  answer service (some devboxEnvironment) (brokenBody revision) (fun _ => none) 90 world

def brokenPush (service : Service) (revision : Nat) (world : World) : World :=
  push service (some devboxEnvironment) (brokenBody revision) (fun _ => none) 90 world

/-- The first push of the agent's definition. -/
def isCoderPush (_ : World) : Label → Bool
  | .push _ body _ _ => decide (body.entries = some [coderEntry 1])
  | _ => false

theorem isCoderPush_sound (world : World) (label : Label)
    (granted : isCoderPush world label = true) : Unremoved world label := by
  cases label with
  | push environment body switch now =>
      intro _ id problems held carries
      have inside := carries.listed
      rw [of_decide_eq_true granted, Option.getD_some, List.mem_singleton] at inside
      cases inside
  | _ => cases granted

def brokenSeen (service : Service) (revision : Nat) (world : World) :
    Option Result × Option Definition × Nat :=
  (brokenAnswer service revision world, world.tables.definitions.get? "coder",
    removedIncarnation world.requests "coder" "s1")

def coderHeld (incarnation time : Nat) : Definition :=
  ⟨"devbox", "s1", incarnation, 1, coderDigest, coderAgent, true, "", .valid, [], time⟩

theorem brokenBody_carries (revision : Nat) {world : World} {held : Definition}
    (found : world.tables.definitions.get? "coder" = some held) (own : held.machineId = "devbox") :
    Carries world (brokenBody revision) "coder" ["not an object"] held := by
  refine ⟨List.mem_singleton_self _, found, own.trans ?_⟩
  have stripped : strip "devbox" = "devbox" := by decide
  exact stripped.symm

theorem invalid_entry_keeps_definition_coder : ∃ world,
    Digests filebox.rules hexOf ∧ Reaches (step filebox) Unremoved initial world ∧
    brokenAnswer filebox 2 world = some ⟨.applied, [], ["coder"], [], [], [], true, []⟩ ∧
    Kept (brokenPush filebox 2 world) ⟨.applied, [], ["coder"], [], [], [], true, []⟩ "coder"
      ["not an object"] (coderHeld 1 10) := by
  have executed : (exec (step filebox) isCoderPush initial
      [pushes "s1" 1 [coderEntry 1] 10]).map (brokenSeen filebox 2) =
        some (some ⟨.applied, [], ["coder"], [], [], [], true, []⟩, some (coderHeld 1 10), 0) := by
    decide +kernel
  have digests : Digests filebox.rules hexOf := ⟨hexOf_injective, fun _ => rfl⟩
  obtain ⟨world, run, seen⟩ := reaches_observed _ _ _ _ isCoderPush_sound executed
  simp only [brokenSeen, Prod.mk.injEq] at seen
  obtain ⟨answered, found, removed⟩ := seen
  have carries := brokenBody_carries 2 found rfl
  refine ⟨world, digests, run, answered, ?_⟩
  refine (invalid_entry_keeps_definition digests).2 world run _ _ _ _ _ _ _ _ ?_ answered carries
  intro _ id problems held other
  have inside := other.listed
  rw [brokenBody, Option.getD_some, List.mem_singleton] at inside
  cases inside
  have stripped : strip "s1" = "s1" := by decide
  exact (congrArg (removedIncarnation world.requests "coder") stripped).trans removed

/-- The digests of the snapshots pushed around a removal. -/
def removedRules : Rules where
  agentProblems _ _ := []
  definitionDigest _ := coderDigest
  snapshotDigest entries :=
    if entries = [brokenEntry] then
      "d65da0ac4fe8302fdb61a3d60bff2a2e1eec3ce3d5b39e303984fc051d402a1a"
    else devboxRules.snapshotDigest entries

def removedbox : Service := { devbox with rules := removedRules }

/-- The first definition is removed and its removal done; the host defines the agent again. -/
def definedAgain : List Label :=
  [pushes "s1" 1 [coderEntry 1] 10] ++ asksRemoval "r1" 20 ++
    [reportsDone "r1" 1 50, .beginRemoval 0 "r1", .removalFirst 0 60, .removalSecond 0 65,
      .removalSettle 0, pushes "s1" 2 [] 70, pushes "s1" 3 [coderEntry 2] 80]

/-- The file of the second definition breaks: its entry is refused for the removal of the first,
and the definition is neither marked invalid nor reported as kept. -/
theorem broken_file_refused : ∃ world result,
    Reaches (step removedbox) anyStep initial world ∧
    brokenAnswer removedbox 4 world = some result ∧ result.outcome = .applied ∧
    Carries world (brokenBody 4) "coder" ["not an object"] (coderHeld 2 80) ∧
    result.refused = [("coder", String.join ["incarnation None is no newer than incarnation 1, ",
      "which the operator removed; define it again (`aify-env agents set`) to restore it"])] ∧
    ¬ Kept (brokenPush removedbox 4 world) result "coder" ["not an object"] (coderHeld 2 80) := by
  have executed : (exec (step removedbox) (fun _ _ => true) initial definedAgain).map
      (brokenSeen removedbox 4) = some (some ⟨.applied, [], [], [], [("coder", String.join
        ["incarnation None is no newer than incarnation 1, ",
          "which the operator removed; define it again (`aify-env agents set`) to restore it"])],
        [], true, []⟩, some (coderHeld 2 80), 1) := by
    decide +kernel
  obtain ⟨world, run, seen⟩ := reaches_observed _ _ _ _ (fun _ _ _ => trivial) executed
  simp only [brokenSeen, Prod.mk.injEq] at seen
  obtain ⟨answered, found, _⟩ := seen
  refine ⟨world, _, run, answered, rfl, brokenBody_carries 4 found rfl, rfl, ?_⟩
  rintro ⟨kept, _⟩
  cases kept

end Broken

end AifyComms.BrokenDefinitions
