import Mathlib.Data.List.Induction
import Mathlib.Data.List.Nodup
import Mathlib.Tactic.Tauto

/-!
Insertion-ordered dictionaries with distinct keys. Setting a present key keeps
its position, setting a new one appends, and erasing closes the gap, so the
order of `keys` and `values` is the iteration order of the host language. A
table with a primary key is the same structure: an upsert is `set`, a delete
is `filter`.
-/

namespace AifyComms

universe u v
variable {Key : Type u} {Value : Type v} [DecidableEq Key]

structure Dict (Key : Type u) (Value : Type v) where
  entries : List (Key × Value)
  distinct : (entries.map Prod.fst).Nodup

namespace Dict

def lookupEntry (key : Key) : List (Key × Value) → Option Value
  | [] => none
  | entry :: rest => if entry.1 = key then some entry.2 else lookupEntry key rest

def setEntry (key : Key) (value : Value) : List (Key × Value) → List (Key × Value)
  | [] => [(key, value)]
  | entry :: rest =>
      if entry.1 = key then (key, value) :: rest else entry :: setEntry key value rest

theorem lookup_nil (key : Key) : lookupEntry key ([] : List (Key × Value)) = none := rfl

theorem lookup_cons (key : Key) (entry : Key × Value) (rest : List (Key × Value)) :
    lookupEntry key (entry :: rest) =
      if entry.1 = key then some entry.2 else lookupEntry key rest := rfl

theorem set_entry_nil (key : Key) (value : Value) : setEntry key value [] = [(key, value)] := rfl

theorem set_entry_cons (key : Key) (value : Value) (entry : Key × Value)
    (rest : List (Key × Value)) :
    setEntry key value (entry :: rest) =
      if entry.1 = key then (key, value) :: rest else entry :: setEntry key value rest := rfl

theorem set_entry_keys (key : Key) (value : Value) (entries : List (Key × Value)) (other : Key) :
    other ∈ (setEntry key value entries).map Prod.fst ↔
      other = key ∨ other ∈ entries.map Prod.fst := by
  induction entries with
  | nil => simp [set_entry_nil]
  | cons entry rest ih =>
      by_cases hit : entry.1 = key
      · simp only [set_entry_cons, hit, if_true, List.map_cons, List.mem_cons]
        tauto
      · simp only [set_entry_cons, hit, if_false, List.map_cons, List.mem_cons, ih]
        tauto

theorem set_entry_distinct (key : Key) (value : Value) (entries : List (Key × Value))
    (distinct : (entries.map Prod.fst).Nodup) :
    ((setEntry key value entries).map Prod.fst).Nodup := by
  induction entries with
  | nil => simp [set_entry_nil]
  | cons entry rest ih =>
      rw [List.map_cons, List.nodup_cons] at distinct
      by_cases hit : entry.1 = key
      · simp only [set_entry_cons, hit, if_true, List.map_cons, List.nodup_cons]
        exact hit ▸ distinct
      · simp only [set_entry_cons, hit, if_false, List.map_cons, List.nodup_cons, set_entry_keys]
        refine ⟨?_, ih distinct.2⟩
        rw [false_or]
        exact distinct.1

theorem lookup_set_entry (key : Key) (value : Value) (entries : List (Key × Value)) (other : Key) :
    lookupEntry other (setEntry key value entries) =
      if key = other then some value else lookupEntry other entries := by
  induction entries with
  | nil => simp [set_entry_nil, lookup_cons, lookup_nil]
  | cons entry rest ih =>
      by_cases hit : entry.1 = key
      · by_cases same : key = other <;> simp [set_entry_cons, lookup_cons, hit, same]
      · simp only [set_entry_cons, hit, if_false, lookup_cons, ih]
        by_cases first : entry.1 = other
        · have differ : key ≠ other := fun same => hit (first.trans same.symm)
          simp [first, differ]
        · simp [first]

theorem lookup_none_iff (key : Key) (entries : List (Key × Value)) :
    lookupEntry key entries = none ↔ key ∉ entries.map Prod.fst := by
  induction entries with
  | nil => simp [lookup_nil]
  | cons entry rest ih =>
      by_cases hit : entry.1 = key
      · simp [lookup_cons, hit]
      · simp only [lookup_cons, hit, if_false, List.map_cons, List.mem_cons, ih, not_or]
        tauto

theorem lookup_some_iff (key : Key) (value : Value) (entries : List (Key × Value))
    (distinct : (entries.map Prod.fst).Nodup) :
    lookupEntry key entries = some value ↔ (key, value) ∈ entries := by
  induction entries with
  | nil => simp [lookup_nil]
  | cons entry rest ih =>
      rw [List.map_cons, List.nodup_cons] at distinct
      by_cases hit : entry.1 = key
      · have absent : (key, value) ∉ rest := by
          intro present
          exact distinct.1 (hit ▸ List.mem_map_of_mem (f := Prod.fst) present)
        subst hit
        simp [lookup_cons, absent, Prod.ext_iff, eq_comm]
      · have differ : (key, value) ≠ entry := fun same => hit (congrArg Prod.fst same).symm
        simp [lookup_cons, hit, ih distinct.2, differ]

theorem lookup_filter (keep : Key → Bool) (entries : List (Key × Value)) (key : Key) :
    lookupEntry key (entries.filter fun entry => keep entry.1) =
      if keep key then lookupEntry key entries else none := by
  induction entries with
  | nil => simp [lookup_nil]
  | cons entry rest ih =>
      by_cases hit : entry.1 = key
      · by_cases kept : keep key = true
        · simp [hit, kept, lookup_cons]
        · simp [hit, kept, ih]
      · by_cases kept : keep entry.1 = true <;> simp [hit, kept, lookup_cons, ih]

def empty : Dict Key Value := ⟨[], List.nodup_nil⟩

def get? (dict : Dict Key Value) (key : Key) : Option Value := lookupEntry key dict.entries

def set (dict : Dict Key Value) (key : Key) (value : Value) : Dict Key Value :=
  ⟨setEntry key value dict.entries, set_entry_distinct key value dict.entries dict.distinct⟩

def filter (dict : Dict Key Value) (keep : Key → Bool) : Dict Key Value where
  entries := dict.entries.filter fun entry => keep entry.1
  distinct := (List.Sublist.map Prod.fst List.filter_sublist).nodup dict.distinct

def erase (dict : Dict Key Value) (key : Key) : Dict Key Value :=
  dict.filter fun other => other ≠ key

def mapValues (dict : Dict Key Value) (change : Key → Value → Value) : Dict Key Value where
  entries := dict.entries.map fun entry => (entry.1, change entry.1 entry.2)
  distinct := by
    rw [List.map_map]
    exact dict.distinct

def modify (dict : Dict Key Value) (key : Key) (change : Value → Value) : Dict Key Value :=
  dict.mapValues fun other value => if other = key then change value else value

def keys (dict : Dict Key Value) : List Key := dict.entries.map Prod.fst

def values (dict : Dict Key Value) : List Value := dict.entries.map Prod.snd

def setAll (dict : Dict Key Value) (entries : List (Key × Value)) : Dict Key Value :=
  entries.foldl (fun current entry => current.set entry.1 entry.2) dict

@[simp] theorem get?_empty (key : Key) : (empty : Dict Key Value).get? key = none := rfl

theorem get?_set (dict : Dict Key Value) (key other : Key) (value : Value) :
    (dict.set key value).get? other = if key = other then some value else dict.get? other :=
  lookup_set_entry key value dict.entries other

@[simp] theorem get?_set_self (dict : Dict Key Value) (key : Key) (value : Value) :
    (dict.set key value).get? key = some value := by
  simp [get?_set]

theorem get?_set_ne (dict : Dict Key Value) {key other : Key} (value : Value)
    (differ : key ≠ other) : (dict.set key value).get? other = dict.get? other := by
  simp [get?_set, differ]

@[simp] theorem get?_filter (dict : Dict Key Value) (keep : Key → Bool) (key : Key) :
    (dict.filter keep).get? key = if keep key then dict.get? key else none :=
  lookup_filter keep dict.entries key

theorem get?_erase (dict : Dict Key Value) (key other : Key) :
    (dict.erase key).get? other = if other = key then none else dict.get? other := by
  by_cases same : other = key <;> simp [erase, same]

theorem lookup_map (change : Key → Value → Value) (entries : List (Key × Value)) (key : Key) :
    lookupEntry key (entries.map fun entry => (entry.1, change entry.1 entry.2)) =
      (lookupEntry key entries).map (change key) := by
  induction entries with
  | nil => rfl
  | cons entry rest ih =>
      simp only [List.map_cons, lookup_cons, ih]
      split
      · next same => rw [Option.map_some, same]
      · rfl

@[simp] theorem get?_mapValues (dict : Dict Key Value) (change : Key → Value → Value) (key : Key) :
    (dict.mapValues change).get? key = (dict.get? key).map (change key) :=
  lookup_map change dict.entries key

theorem get?_modify (dict : Dict Key Value) (key other : Key) (change : Value → Value) :
    (dict.modify key change).get? other =
      if other = key then (dict.get? other).map change else dict.get? other := by
  rw [modify, get?_mapValues]
  split
  · rfl
  · exact Option.map_id_apply

theorem get?_eq_none_iff (dict : Dict Key Value) (key : Key) :
    dict.get? key = none ↔ key ∉ dict.keys :=
  lookup_none_iff key dict.entries

theorem get?_eq_some_iff (dict : Dict Key Value) (key : Key) (value : Value) :
    dict.get? key = some value ↔ (key, value) ∈ dict.entries :=
  lookup_some_iff key value dict.entries dict.distinct

theorem mem_keys_iff (dict : Dict Key Value) (key : Key) :
    key ∈ dict.keys ↔ dict.get? key ≠ none := by
  rw [ne_eq, get?_eq_none_iff, not_not]

omit [DecidableEq Key] in
theorem keys_mapValues (dict : Dict Key Value) (change : Key → Value → Value) :
    (dict.mapValues change).keys = dict.keys := by
  unfold mapValues keys
  rw [List.map_map]
  rfl

theorem keys_modify (dict : Dict Key Value) (key : Key) (change : Value → Value) :
    (dict.modify key change).keys = dict.keys := keys_mapValues dict _

theorem keys_eq_nil_iff (dict : Dict Key Value) :
    dict.keys = [] ↔ ∀ key, dict.get? key = none := by
  constructor
  · intro none key
    rw [get?_eq_none_iff, none]
    exact List.not_mem_nil
  · intro absent
    apply List.eq_nil_iff_forall_not_mem.mpr
    intro key
    exact (get?_eq_none_iff dict key).mp (absent key)

-- A bulk update is read back as: the last entry for the key, else the old value.
theorem get?_setAll (dict : Dict Key Value) (entries : List (Key × Value)) (key : Key) :
    (dict.setAll entries).get? key =
      ((lookupEntry key entries.reverse).or (dict.get? key)) := by
  induction entries using List.reverseRecOn with
  | nil => simp [setAll, lookup_nil]
  | append_singleton entries entry ih =>
      have unfoldLast : dict.setAll (entries ++ [entry]) =
          (dict.setAll entries).set entry.1 entry.2 := by
        simp [setAll, List.foldl_append]
      rw [unfoldLast, get?_set, ih]
      by_cases hit : entry.1 = key <;> simp [lookup_cons, hit]

theorem lookup_reverse (entries : List (Key × Value)) (distinct : (entries.map Prod.fst).Nodup)
    (key : Key) : lookupEntry key entries.reverse = lookupEntry key entries := by
  have reversed : ((entries.reverse).map Prod.fst).Nodup := by
    rw [List.map_reverse]
    exact List.nodup_reverse.mpr distinct
  cases found : lookupEntry key entries with
  | none =>
      rw [lookup_none_iff] at found ⊢
      rwa [List.map_reverse, List.mem_reverse]
  | some value =>
      rw [lookup_some_iff key value entries distinct] at found
      rw [lookup_some_iff key value _ reversed]
      exact List.mem_reverse.mpr found

/-- Values that know their key rebuild the dictionary. -/
theorem get?_rebuild (dict : Dict Key Value) (keyOf : Value → Key)
    (keyed : ∀ entry ∈ dict.entries, keyOf entry.2 = entry.1) (key : Key) :
    ((empty : Dict Key Value).setAll (dict.values.map fun value => (keyOf value, value))).get? key =
      dict.get? key := by
  have same : dict.values.map (fun value => (keyOf value, value)) = dict.entries := by
    rw [values, List.map_map]
    conv_rhs => rw [← List.map_id dict.entries]
    apply List.map_congr_left
    intro entry member
    simp [keyed entry member]
  rw [same, get?_setAll, lookup_reverse _ dict.distinct, get?_empty, Option.or_none]
  rfl

theorem get?_setAll_congr {left right : Dict Key Value}
    (same : ∀ key, left.get? key = right.get? key) (entries : List (Key × Value)) (key : Key) :
    (left.setAll entries).get? key = (right.setAll entries).get? key := by
  rw [get?_setAll, get?_setAll, same]

/-! ### At most one marked row of a name -/

/-- No two marked rows share a name. -/
def OneMarked {Name : Type*} (name : Value → Name) (marked : Value → Bool)
    (dict : Dict Key Value) : Prop :=
  ∀ left right leftRow rightRow, dict.get? left = some leftRow → dict.get? right = some rightRow →
    name leftRow = name rightRow → marked leftRow = true → marked rightRow = true → left = right

/-- It stays so where rows keep their names, none becomes marked, and a row that appears is
the only marked one of its name. -/
theorem OneMarked.next {Name : Type*} {name : Value → Name} {marked : Value → Bool}
    {before after : Dict Key Value} (one : OneMarked name marked before)
    (moved : ∀ key row, before.get? key = some row → ∃ later, after.get? key = some later ∧
      name later = name row ∧ (marked later = true → marked row = true))
    (added : ∀ key row, after.get? key = some row → before.get? key = none →
      ∀ other another, after.get? other = some another → name another = name row →
        marked another = true → other = key) :
    OneMarked name marked after := by
  intro left right leftRow rightRow leftFound rightFound named leftMarked rightMarked
  cases leftBefore : before.get? left with
  | none =>
      exact (added left leftRow leftFound leftBefore right rightRow rightFound named.symm
        rightMarked).symm
  | some leftOld =>
      cases rightBefore : before.get? right with
      | none =>
          exact added right rightRow rightFound rightBefore left leftRow leftFound named leftMarked
      | some rightOld =>
          obtain ⟨leftLater, leftSame, leftNamed, leftWas⟩ := moved left leftOld leftBefore
          obtain ⟨rightLater, rightSame, rightNamed, rightWas⟩ := moved right rightOld rightBefore
          obtain rfl := Option.some.inj (leftFound.symm.trans leftSame)
          obtain rfl := Option.some.inj (rightFound.symm.trans rightSame)
          refine one left right leftOld rightOld leftBefore rightBefore ?_ (leftWas leftMarked)
            (rightWas rightMarked)
          rw [← leftNamed, ← rightNamed]
          exact named

end Dict
end AifyComms
