import AifyComms.DefinitionService

/-!
What a push touches and what it says of each entry. An entry is refused, applied, kept or
invalid by the owner its id had before the push; a definition of the machine that no entry
names is withdrawn. So the definition of an id whose entry is refused stays as it was.
-/

namespace AifyComms.DefinitionPush
open PyText DefinitionSnapshot

/-- The ids a push reports, entry by entry. -/
def Result.reported (result : Result) : List String :=
  result.applied ++ result.kept ++ result.refused.map Prod.fst ++ result.invalid

/-- A machine other than `machineId` owns this definition. -/
def Definition.foreign (machineId : String) (definition : Definition) : Prop :=
  definition.machineId ≠ "" ∧ definition.machineId ≠ machineId

/-- What entries leave: each one reported once more, no id of the machine's own called
invalid, and every other machine's definition as it was. `held` is what the tables held
before the first one. -/
structure Judged (machineId : String) (held : Dict String Definition) (entries : List Entry)
    (before after : Tables × Result) : Prop where
  reported : after.2.reported.Perm (before.2.reported ++ entries.map Entry.id)
  invalid : ∀ id ∈ after.2.invalid, id ∈ before.2.invalid ∨
    (held.get? id).map Definition.machineId ≠ some machineId
  foreign : ∀ id definition, held.get? id = some definition → definition.foreign machineId →
    after.1.definitions.get? id = before.1.definitions.get? id
  withdrawn : after.2.withdrawn = before.2.withdrawn

section Judging
variable {taken : RemovalHistory} {machineId storeId : String} {now : Nat}
  {held : Dict String Definition}

theorem Judged.trans {first second third : Tables × Result} {front back : List Entry}
    (one : Judged machineId held front first second)
    (two : Judged machineId held back second third) :
    Judged machineId held (front ++ back) first third := by
  refine ⟨?_, ?_, ?_, two.withdrawn.trans one.withdrawn⟩
  · refine two.reported.trans ((one.reported.append_right _).trans ?_)
    rw [List.map_append, List.append_assoc]
  · intro id listed
    rcases two.invalid id listed with earlier | other
    · exact one.invalid id earlier
    · exact .inr other
  · intro id definition owned foreign
    exact (two.foreign id definition owned foreign).trans (one.foreign id definition owned foreign)

theorem refused_foreign {id : String} {incarnation : Option Nat} {definition : Definition}
    (owned : held.get? id = some definition) (foreign : definition.foreign machineId) :
    idRefusal taken id incarnation ((held.get? id).map Definition.machineId) machineId storeId ≠
      "" := by
  have elsewhere : ((held.get? id).map Definition.machineId).any
      (fun owner => decide (owner ≠ "") && decide (owner ≠ machineId)) = true := by
    rw [owned]
    simp [foreign.1, foreign.2]
  unfold idRefusal
  rw [if_pos elsewhere]
  simp [String.join]

/-- One more entry is reported, in one of the lists. -/
theorem reported_concat {before after : Result} (id : String)
    (counted : ∀ other, after.reported.count other =
      before.reported.count other + [id].count other) :
    after.reported.Perm (before.reported ++ [id]) := by
  rw [List.perm_iff_count]
  intro other
  rw [counted, List.count_append]

theorem applyEntry_judged (rules : Rules) {entry : Entry} (formed : entryProblems rules entry = [])
    (state : Tables × Result) :
    Judged machineId held [entry] state
      (applyEntry taken machineId storeId now held state entry) := by
  unfold applyEntry
  dsimp only
  split
  · refine ⟨reported_concat entry.id ?_, fun id listed => .inl listed, fun _ _ _ _ => rfl, rfl⟩
    intro other
    simp only [Result.reported, List.map_append, List.count_append, List.map_cons, List.map_nil]
    omega
  · rename_i free
    have free := not_not.mp free
    cases entry with
    | malformed problem more => cases formed
    | invalid id problems =>
        dsimp only
        split
        · rename_i own
          refine ⟨reported_concat id ?_, fun id listed => .inl listed, ?_, rfl⟩
          · intro other
            simp only [Result.reported, List.count_append]
            omega
          · intro other definition owned foreign
            rw [Dict.get?_modify, if_neg]
            rintro rfl
            exact refused_foreign owned foreign free
        · rename_i other
          refine ⟨reported_concat id ?_, ?_, fun _ _ _ _ => rfl, rfl⟩
          · intro other
            simp only [Result.reported, List.count_append]
            omega
          · intro listed member
            rcases List.mem_append.mp member with earlier | last
            · exact .inl earlier
            · rw [List.mem_singleton.mp last]
              exact .inr other
    | valid entry =>
        refine ⟨reported_concat entry.id ?_, fun id listed => .inl listed, ?_, rfl⟩
        · intro other
          simp only [Result.reported, List.count_append]
          omega
        · intro other definition owned foreign
          refine Dict.get?_set_ne _ _ ?_
          rintro rfl
          exact refused_foreign owned foreign free

theorem applyEntry_all_judged (rules : Rules) (entries : List Entry)
    (formed : ∀ entry ∈ entries, entryProblems rules entry = []) (state : Tables × Result) :
    Judged machineId held entries state
      (entries.foldl (applyEntry taken machineId storeId now held) state) := by
  induction entries using List.reverseRecOn with
  | nil =>
      refine ⟨?_, fun id listed => .inl listed, fun _ _ _ _ => rfl, rfl⟩
      rw [List.map_nil, List.append_nil]
      exact List.Perm.refl _
  | append_singleton entries entry ih =>
      rw [List.foldl_concat]
      have earlier := ih fun other listed => formed other (List.mem_append_left _ listed)
      exact earlier.trans (applyEntry_judged rules (formed entry (by simp)) _)

/-- Withdrawing takes the listed definitions, says so, and touches no other. -/
theorem withdraw_all_result (list : List (String × Definition)) (state : Tables × Result) :
    (list.foldl withdraw state).2 =
        { state.2 with withdrawn := state.2.withdrawn ++ list.map Prod.fst } ∧
      ∀ id, (list.foldl withdraw state).1.definitions.get? id =
        if id ∈ list.map Prod.fst then none else state.1.definitions.get? id := by
  induction list using List.reverseRecOn with
  | nil =>
      refine ⟨?_, fun _ => rfl⟩
      rw [List.foldl_nil, List.map_nil, List.append_nil]
  | append_singleton list last ih =>
      rw [List.foldl_concat]
      constructor
      · rw [withdraw, ih.1, List.map_append, ← List.append_assoc]
        rfl
      · intro id
        simp only [withdraw, Dict.get?_erase, ih.2, List.map_append, List.mem_append,
          List.map_cons, List.map_nil, List.mem_singleton]
        by_cases same : id = last.1
        · rw [if_pos same, if_pos (.inr same)]
        · rw [if_neg same]
          simp only [same, or_false]

theorem mem_owned {entries : List Entry} {id : String} :
    id ∈ (owned machineId entries held).map Prod.fst ↔
      (∃ definition, held.get? id = some definition ∧ definition.machineId = machineId) ∧
        id ∉ entries.map Entry.id := by
  unfold owned
  constructor
  · intro listed
    obtain ⟨⟨name, definition⟩, member, rfl⟩ := List.mem_map.mp listed
    rw [List.mem_filter, Bool.and_eq_true, decide_eq_true_eq, decide_eq_true_eq] at member
    exact ⟨⟨definition, (Dict.get?_eq_some_iff _ _ _).mpr member.1, member.2.1⟩, member.2.2⟩
  · rintro ⟨⟨definition, found, own⟩, absent⟩
    refine List.mem_map.mpr ⟨(id, definition), List.mem_filter.mpr ⟨?_, ?_⟩, rfl⟩
    · exact (Dict.get?_eq_some_iff _ _ _).mp found
    · simp [own, absent]

end Judging

/-! ### An applied push -/

section Applied
variable {taken : RemovalHistory} {machineId storeId : String} {now : Nat} {entries : List Entry}
  {tables : Tables}

/-- The entries are judged, and then the machine's definitions that none of them names are
withdrawn. -/
theorem applyEntries_spec (rules : Rules)
    (formed : ∀ entry ∈ entries, entryProblems rules entry = []) :
    ∃ state, Judged machineId tables.definitions entries (tables, nothingApplied) state ∧
      (applyEntries taken machineId storeId entries now tables).2 = { state.2 with
        withdrawn := (owned machineId entries tables.definitions).map Prod.fst } ∧
      ∀ id, (applyEntries taken machineId storeId entries now tables).1.definitions.get? id =
        if id ∈ (owned machineId entries tables.definitions).map Prod.fst then none
        else state.1.definitions.get? id := by
  have judged : Judged machineId tables.definitions entries (tables, nothingApplied)
      (entries.foldl (applyEntry taken machineId storeId now tables.definitions)
        (tables, nothingApplied)) := applyEntry_all_judged rules entries formed _
  obtain ⟨result, definitions⟩ := withdraw_all_result (owned machineId entries tables.definitions)
    (entries.foldl (applyEntry taken machineId storeId now tables.definitions)
      (tables, nothingApplied))
  rw [judged.withdrawn] at result
  exact ⟨_, judged, result, definitions⟩

theorem applyEntries_foreign (rules : Rules)
    (formed : ∀ entry ∈ entries, entryProblems rules entry = []) {id : String}
    {definition : Definition} (found : tables.definitions.get? id = some definition)
    (foreign : definition.foreign machineId) :
    (applyEntries taken machineId storeId entries now tables).1.definitions.get? id =
      some definition := by
  obtain ⟨state, judged, _, definitions⟩ := applyEntries_spec rules formed
  rw [definitions, if_neg, judged.foreign id definition found foreign]
  · exact found
  · intro listed
    obtain ⟨⟨mine, again, own⟩, _⟩ := mem_owned.1 listed
    rw [Option.some.inj (found.symm.trans again)] at foreign
    exact foreign.2 own

/-- The entries are what the push reports. -/
theorem applyEntries_reported (rules : Rules)
    (formed : ∀ entry ∈ entries, entryProblems rules entry = []) :
    (applyEntries taken machineId storeId entries now tables).2.reported.Perm
      (entries.map Entry.id) := by
  obtain ⟨state, judged, result, _⟩ := applyEntries_spec rules formed
  rw [result]
  exact judged.reported

/-- An entry of the machine's own id is refused, applied or kept. -/
theorem reported_own (rules : Rules) (formed : ∀ entry ∈ entries, entryProblems rules entry = [])
    {id : String} {definition : Definition} (found : tables.definitions.get? id = some definition)
    (own : definition.machineId = machineId) :
    id ∈ entries.map Entry.id ↔
      id ∈ (applyEntries taken machineId storeId entries now tables).2.applied ∨
        id ∈ (applyEntries taken machineId storeId entries now tables).2.kept ∨
        id ∈ (applyEntries taken machineId storeId entries now tables).2.refused.map Prod.fst := by
  have valid : id ∉ (applyEntries taken machineId storeId entries now tables).2.invalid := by
    obtain ⟨state, judged, result, _⟩ := applyEntries_spec rules formed
    rw [result]
    intro listed
    rcases judged.invalid id listed with earlier | other
    · cases earlier
    · rw [found] at other
      exact other (congrArg some own)
  rw [← (applyEntries_reported rules formed).mem_iff]
  unfold Result.reported
  rw [List.mem_append, List.mem_append, List.mem_append]
  tauto

/-- Withdrawn is what the machine owned and no entry applied, kept or refused. -/
theorem applyEntries_withdrawn (rules : Rules)
    (formed : ∀ entry ∈ entries, entryProblems rules entry = []) (id : String) :
    id ∈ (applyEntries taken machineId storeId entries now tables).2.withdrawn ↔
      (∃ definition, tables.definitions.get? id = some definition ∧
        definition.machineId = machineId) ∧
      id ∉ (applyEntries taken machineId storeId entries now tables).2.applied ∧
      id ∉ (applyEntries taken machineId storeId entries now tables).2.kept ∧
      id ∉ (applyEntries taken machineId storeId entries now tables).2.refused.map Prod.fst := by
  have listed : id ∈ (applyEntries taken machineId storeId entries now tables).2.withdrawn ↔
      id ∈ (owned machineId entries tables.definitions).map Prod.fst := by
    obtain ⟨state, _, result, _⟩ := applyEntries_spec rules formed
    rw [result]
  rw [listed, mem_owned]
  constructor
  · rintro ⟨⟨definition, found, own⟩, absent⟩
    rw [reported_own rules formed found own, not_or, not_or] at absent
    exact ⟨⟨definition, found, own⟩, absent⟩
  · rintro ⟨⟨definition, found, own⟩, absent⟩
    rw [reported_own rules formed found own, not_or, not_or]
    exact ⟨⟨definition, found, own⟩, absent⟩

theorem applyEntries_gone (rules : Rules)
    (formed : ∀ entry ∈ entries, entryProblems rules entry = []) {id : String}
    (listed : id ∈ (applyEntries taken machineId storeId entries now tables).2.withdrawn) :
    (applyEntries taken machineId storeId entries now tables).1.definitions.get? id = none := by
  obtain ⟨state, _, result, definitions⟩ := applyEntries_spec rules formed
  rw [result] at listed
  rw [definitions, if_pos listed]

end Applied

/-! ### An accepted push -/

section Accepted
variable {rules : Rules} {taken : RemovalHistory} {environment : Option Environment} {body : Push}
  {switch : Switch} {now : Nat} {tables : Tables} {result : Result}

/-- A push that advances applies its entries to the definitions held before it. -/
theorem advance_entries (taken : RemovalHistory)
    (environmentId machineId storeId digest : String) (revision : Nat) (entries : List Entry)
    (switch : Switch) (now : Nat) (tables : Tables) :
    ∃ stored followed, stored.definitions = tables.definitions ∧
      (advance taken environmentId machineId storeId digest revision entries switch now
        tables).1.definitions =
        (applyEntries taken machineId storeId entries now stored).1.definitions ∧
      (advance taken environmentId machineId storeId digest revision entries switch now tables).2 =
        { (applyEntries taken machineId storeId entries now stored).2 with followed := followed } := by
  refine ⟨_, _, ?_, rfl, rfl⟩
  rfl

/-- An accepted push is a replay, which moves no definition, or its entries are applied. -/
theorem accepted_cases
    (accepted : (applyDefinitionPush rules taken environment body switch now tables).2 =
      .ok result) :
    (result.outcome = .replay ∧ result.withdrawn = [] ∧
      (applyDefinitionPush rules taken environment body switch now tables).1.definitions =
        tables.definitions) ∨
    (result.outcome = .applied ∧
      snapshotProblems rules body.entries (body.snapshotDigest.getD "") = [] ∧
      ∃ stored followed, stored.definitions = tables.definitions ∧
        (applyDefinitionPush rules taken environment body switch now tables).1.definitions =
          (applyEntries taken (strip (body.machineId.getD "")) (strip (body.storeId.getD ""))
            (body.entries.getD []) now stored).1.definitions ∧
        result = { (applyEntries taken (strip (body.machineId.getD ""))
          (strip (body.storeId.getD "")) (body.entries.getD []) now stored).2 with
            followed := followed }) := by
  revert accepted
  unfold applyDefinitionPush
  dsimp only
  split
  · exact fun refused => nomatch refused
  split
  · exact fun refused => nomatch refused
  split
  · exact fun refused => nomatch refused
  rename_i sound
  have sound := not_not.mp sound
  unfold applyOrdered
  dsimp only
  split
  · exact fun refused => nomatch refused
  · exact fun refused => nomatch refused
  · exact fun refused => nomatch refused
  · intro answered
    obtain rfl := Except.ok.inj answered
    exact .inl ⟨rfl, rfl, rfl⟩
  · intro answered
    obtain rfl := Except.ok.inj answered
    exact .inr ⟨advance_outcome .., sound, advance_entries ..⟩
  · intro answered
    obtain rfl := Except.ok.inj answered
    exact .inr ⟨advance_outcome .., sound, advance_entries ..⟩

end Accepted

/-- An accepted push leaves every other machine's definition as it was. When it is applied it
reports each entry once, and withdraws exactly the machine's definitions that it neither
applied, kept nor refused; a replay moves no definition. No id has two owners afterwards. -/
theorem push_touches_own_definitions (rules : Rules) (taken : RemovalHistory)
    (environment : Option Environment) (body : Push) (switch : Switch) (now : Nat)
    (tables after : Tables) (result : Result)
    (accepted : applyDefinitionPush rules taken environment body switch now tables =
      (after, .ok result)) :
    (∀ id definition, tables.definitions.get? id = some definition →
      definition.foreign (strip (body.machineId.getD "")) →
      after.definitions.get? id = some definition) ∧
    (result.outcome = .applied →
      (∀ entry ∈ body.entries.getD [], result.reported.count entry.id = 1) ∧
      ∀ id, id ∈ result.withdrawn ↔
        (∃ definition, tables.definitions.get? id = some definition ∧
          definition.machineId = strip (body.machineId.getD "")) ∧
        id ∉ result.applied ∧ id ∉ result.kept ∧ id ∉ result.refused.map Prod.fst) ∧
    (result.outcome = .replay → after.definitions = tables.definitions) ∧
    (∀ id ∈ result.withdrawn, after.definitions.get? id = none) ∧
    after.definitions.keys.Nodup := by
  have answered : (applyDefinitionPush rules taken environment body switch now tables).2 =
      .ok result := by rw [accepted]
  rcases accepted_cases answered with
    ⟨replays, none, unmoved⟩ | ⟨applies, sound, stored, followed, same, definitions, rfl⟩
  · rw [accepted] at unmoved
    refine ⟨?_, ?_, fun _ => unmoved, ?_, after.definitions.distinct⟩
    · intro id definition found _
      rw [unmoved]
      exact found
    · intro applies
      rw [replays] at applies
      cases applies
    · intro id listed
      rw [none] at listed
      cases listed
  · rw [accepted] at definitions
    obtain ⟨entries, given, formed, distinct, _⟩ := snapshot_accepted sound
    rw [given, Option.getD_some] at definitions applies ⊢
    rw [← same]
    refine ⟨?_, fun _ => ⟨?_, ?_⟩, ?_, ?_, after.definitions.distinct⟩
    · intro id definition found foreign
      rw [definitions]
      exact applyEntries_foreign rules formed found foreign
    · intro entry listed
      refine Eq.trans (List.Perm.count_eq ?_ entry.id)
        (List.count_eq_one_of_mem distinct (List.mem_map_of_mem listed))
      exact applyEntries_reported rules formed
    · exact applyEntries_withdrawn rules formed
    · intro replays
      rw [applies] at replays
      cases replays
    · intro id listed
      rw [definitions]
      exact applyEntries_gone rules formed listed

/-! ### Two machines -/

/-- A definition stored at the first revision of store `s1`. -/
def storedOn (machineId : String) : Definition :=
  ⟨machineId, "s1", 1, 1, DefinitionService.coderDigest, DefinitionService.coderAgent, true, "",
    .valid, [], 5⟩

/-- The devbox defines `coder` and `reviewer`, the laptop `tester`. -/
def twoMachines : Tables where
  stores := Dict.empty.set "devbox" ⟨"s1", 1, "", "env-1", 5, 5, none⟩
  retired := Dict.empty
  definitions := ((Dict.empty.set "coder" (storedOn "devbox")).set "reviewer"
    (storedOn "devbox")).set "tester" (storedOn "laptop")
  agents := Dict.empty
  tombstones := Dict.empty

/-- The devbox's next push, against the removals that were done. -/
def devboxPush (taken : RemovalHistory) (entries : List Entry) : Tables × Except Refusal Result :=
  applyDefinitionPush DefinitionService.devboxRules taken
    (some DefinitionService.devboxEnvironment) (DefinitionService.pushBody "s1" 2 entries)
    (fun _ => none) 9 twoMachines

theorem answered_ok {answer : Tables × Except Refusal Result} {result : Result}
    (told : answer.2.toOption = some result) : answer = (answer.1, .ok result) := by
  obtain ⟨after, refusal | given⟩ := answer
  · cases told
  · rw [Option.some.inj told]

theorem push_touches_own_definitions_devbox :
    ∃ after result, devboxPush (fun _ _ => 0)
        [DefinitionService.coderEntry 2, .invalid "draft" ["not an object"],
          .invalid "tester" ["not an object"]] = (after, .ok result) ∧
      result.withdrawn = ["reviewer"] ∧ result.reported.count "coder" = 1 ∧
      after.definitions.get? "tester" = some (storedOn "laptop") := by
  have told : (devboxPush (fun _ _ => 0) [DefinitionService.coderEntry 2,
      .invalid "draft" ["not an object"], .invalid "tester" ["not an object"]]).2.toOption =
      some ⟨.applied, ["coder"], [], ["reviewer"], [("tester", "defined on laptop")], ["draft"],
        true, []⟩ := by
    decide
  have accepted := answered_ok told
  obtain ⟨others, applied, _⟩ := push_touches_own_definitions _ _ _ _ _ _ _ _ _ accepted
  refine ⟨_, _, accepted, rfl, ?_, ?_⟩
  · exact (applied rfl).1 (DefinitionService.coderEntry 2) List.mem_cons_self
  · exact others "tester" (storedOn "laptop") (by decide) (by constructor <;> decide)

/-- The operator removed the first incarnation of `coder`, and the host still pushes it: the
entry is refused and the definition is neither applied, kept nor withdrawn. -/
theorem refused_definition_stays :
    ∃ after result, devboxPush (fun _ _ => 1) [DefinitionService.coderEntry 1] =
        (after, .ok result) ∧
      result.outcome = .applied ∧ twoMachines.definitions.get? "coder" = some (storedOn "devbox") ∧
      "coder" ∉ result.applied ∧ "coder" ∉ result.kept ∧ "coder" ∉ result.withdrawn ∧
      after.definitions.get? "coder" = some (storedOn "devbox") := by
  have told : (devboxPush (fun _ _ => 1) [DefinitionService.coderEntry 1]).2.toOption =
      some ⟨.applied, [], [], ["reviewer"], [("coder", String.join
        ["incarnation 1 is no newer than incarnation 1, which the operator removed; ",
          "define it again (`aify-env agents set`) to restore it"])], [], true, []⟩ := by
    decide +kernel
  exact ⟨_, _, answered_ok told, rfl, by decide, by decide, by decide, by decide, by decide⟩

end AifyComms.DefinitionPush
