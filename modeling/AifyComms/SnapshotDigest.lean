import AifyComms.JsonRoundTrip
import AifyComms.Utf16

/-!
The canonical text of a value and the digest of a snapshot's entries: `canonical`,
`_utf16_order`, `_digested` and `snapshot_digest` of `api_core/definition_snapshot.py`.
SHA-256 of a text, in hex, is a parameter.
-/

namespace AifyComms.SnapshotDigest
open JsonText

def canonical (value : Json) : Str := escapeSurrogates (dumps value)

/-- `text.encode("utf-16-be", "surrogatepass")`. -/
def utf16Order (text : Str) : List Nat :=
  (text.flatMap Utf16.units).flatMap fun unit => [unit / 0x100, unit % 0x100]

/-- What the digest reads of a pushed entry, and its `definition`. -/
inductive Entry where
  | invalid (id : Str) (problems : List Str)
  | valid (id : Str) (incarnation revision : Int) (definitionDigest : Str) (available : Bool)
      (unavailableReason : Str) (definition : Json)

def Entry.id : Entry → Str
  | .invalid id _ => id
  | .valid id _ _ _ _ _ _ => id

def sortTexts (texts : List Str) : List Str := texts.insertionSort (· ≤ ·)

def digested : Entry → Json
  | .invalid id problems =>
      .obj [(ascii "id", .str id), (ascii "state", .str (ascii "invalid")),
        (ascii "problems", .arr ((sortTexts problems).map .str))]
  | .valid id incarnation revision definitionDigest available unavailableReason _ =>
      .obj ([(ascii "id", .str id), (ascii "state", .str (ascii "valid")),
          (ascii "incarnation", .int incarnation), (ascii "revision", .int revision),
          (ascii "definitionDigest", .str definitionDigest), (ascii "available", .bool available)] ++
        if available then [] else [(ascii "unavailableReason", .str unavailableReason)])

/-- `sorted(entries, key=lambda entry: _utf16_order(entry["id"]))`. -/
def ordered (entries : List Entry) : List Entry :=
  entries.insertionSort fun first second => utf16Order first.id ≤ utf16Order second.id

section Digests
variable {Digest : Type} (sha256Hex : Str → Digest)

def definitionDigest (agent : Json) : Digest := sha256Hex (canonical agent)

def snapshotDigest (entries : List Entry) : Digest :=
  sha256Hex (canonical (.arr ((ordered entries).map digested)))

end Digests

/-! ### The canonical text -/

theorem canonical_eq (value : Json) : canonical value = text (sortKeys value) :=
  escapeSurrogates_dumps value

/-- The text has no surrogate, so it has a UTF-8 encoding. -/
theorem canonical_plain (value : Json) : ∀ point ∈ canonical value, isSurrogate point = false := by
  intro point listed
  obtain ⟨source, _, inside⟩ := List.mem_flatMap.mp listed
  split at inside
  · exact not_surrogate_of_lt ((hexEscape_lt inside).trans (by decide))
  case isFalse plain =>
    rw [List.mem_singleton.mp inside]
    exact Bool.not_eq_true _ ▸ plain

theorem canonical_eq_iff {value other : Json} (valid : Valid value) (also : Valid other) :
    canonical value = canonical other ↔ Same value other := by
  rw [canonical_eq, canonical_eq]
  constructor
  · intro same
    have read := congrArg loads same
    rw [loads_text (valid_sortKeys valid), loads_text (valid_sortKeys also)] at read
    exact same_of_sortKeys valid also (Option.some.inj read)
  · intro same
    rw [sortKeys_of_same same valid also]

/-- A value with its keys in order is the same value. -/
theorem same_sortKeys {value : Json} (valid : Valid value) : Same value (sortKeys value) := by
  induction valid with
  | null => exact .null
  | bool value => exact .bool value
  | int value => exact .int value
  | str => exact .str _
  | @arr items _ ih =>
      rw [sortKeys_arr]
      refine .arr (List.length_map _).symm ?_
      rintro ⟨item, sorted⟩ pair
      obtain ⟨index, bound, here⟩ := List.mem_iff_getElem.mp pair
      rw [List.getElem_zip, List.getElem_map, Prod.mk.injEq] at here
      obtain ⟨rfl, rfl⟩ := here
      exact ih _ (List.getElem_mem _)
  | @obj members nodup _ _ ih =>
      rw [sortKeys_obj]
      refine .obj ?_ ?_
      · rw [← keys_sortValues members]
        exact (perm_sortMembers _).symm.map Prod.fst
      · intro key value sorted here there
        obtain ⟨before, listed, rfl⟩ := mem_sortValues.1 ((perm_sortMembers _).mem_iff.mp there)
        rw [← value_unique nodup here listed]
        exact ih _ here

theorem loads_canonical {value : Json} (valid : Valid value) :
    ∃ back, loads (canonical value) = some back ∧ Same value back := by
  refine ⟨sortKeys value, ?_, same_sortKeys valid⟩
  rw [canonical_eq]
  exact loads_text (valid_sortKeys valid)

/-! ### The order of the ids -/

theorem pairUp_units {text : Str} (isText : IsText text) :
    pairUp ((text.flatMap Utf16.units).map fun unit => (unit, true)) = text := by
  obtain ⟨points, paired⟩ := isText
  unfold Paired at paired
  induction text with
  | nil => rfl
  | cons point rest ih =>
      have small := points point List.mem_cons_self
      have later := ih (fun other listed => points other (List.mem_cons_of_mem _ listed)) paired.tail
      rw [List.flatMap_cons, List.map_append]
      by_cases plain : point < 0x10000
      · rw [Utf16.units, if_pos plain, List.map_singleton, List.singleton_append]
        cases rest with
        | nil => rfl
        | cons next others =>
            obtain ⟨unit, more, shape, unpaired⟩ : ∃ unit more,
                (next :: others).flatMap Utf16.units = unit :: more ∧
                  ¬ (isHigh point = true ∧ isLow unit = true) := by
              rw [List.isChain_cons_cons] at paired
              rw [List.flatMap_cons, Utf16.units]
              split
              · exact ⟨next, _, rfl, paired.1⟩
              · refine ⟨_, _, rfl, fun both => ?_⟩
                have low := both.2
                have bound := points next (List.mem_cons_of_mem _ List.mem_cons_self)
                simp only [isLow, Bool.and_eq_true, decide_eq_true_eq] at low
                omega
            rw [shape] at later ⊢
            rw [List.map_cons] at later ⊢
            rw [pairUp, later, if_neg]
            simp only [Bool.and_eq_true]
            exact fun both => unpaired ⟨both.1.2, both.2⟩
      · rw [Utf16.units, if_neg plain, List.map_cons, List.map_singleton, List.cons_append,
          List.singleton_append, pairUp, later, if_pos]
        · refine congrArg (· :: rest) ?_
          dsimp only
          omega
        · simp only [isHigh, isLow, Bool.and_eq_true, decide_eq_true_eq, true_and]
          omega

theorem bytes_injective {first second : List Nat}
    (same : (first.flatMap fun unit => [unit / 0x100, unit % 0x100]) =
      second.flatMap fun unit => [unit / 0x100, unit % 0x100]) : first = second := by
  induction first generalizing second with
  | nil =>
      cases second with
      | nil => rfl
      | cons unit rest => cases same
  | cons unit rest ih =>
      cases second with
      | nil => cases same
      | cons other others =>
          simp only [List.flatMap_cons, List.cons_append, List.nil_append, List.cons.injEq] at same
          rw [ih same.2.2, show unit = other by omega]

theorem utf16Order_injective {first second : Str} (isText : IsText first) (also : IsText second)
    (same : utf16Order first = utf16Order second) : first = second := by
  have units := bytes_injective same
  rw [← pairUp_units isText, ← pairUp_units also, units]

/-! ### The digested form of an entry -/

/-- The same entry as far as the digest goes: its problems in any order, why it is unavailable
only when it is, its definition with the keys in any order. -/
inductive SameEntry : Entry → Entry → Prop where
  | invalid {id : Str} {problems others : List Str} : problems.Perm others →
      SameEntry (.invalid id problems) (.invalid id others)
  | valid {id definitionDigest reason otherReason : Str} {incarnation revision : Int}
      {available : Bool} {definition other : Json} :
      (available = false → reason = otherReason) → Same definition other →
      SameEntry (.valid id incarnation revision definitionDigest available reason definition)
        (.valid id incarnation revision definitionDigest available otherReason other)

/-- What `entry_problems` holds an entry to, of what the digest reads: texts are texts, and the
digest of a valid entry is that of its definition. -/
inductive Admitted (sha256Hex : Str → Str) : Entry → Prop where
  | invalid {id : Str} {problems : List Str} : IsText id → (∀ problem ∈ problems, IsText problem) →
      Admitted sha256Hex (.invalid id problems)
  | valid {id digest reason : Str} {incarnation revision : Int} {available : Bool}
      {definition : Json} : IsText id → IsText digest → IsText reason → Valid definition →
      digest = definitionDigest sha256Hex definition →
      Admitted sha256Hex (.valid id incarnation revision digest available reason definition)

/-- Every text of the entry is one. -/
def Entry.Textual : Entry → Prop
  | .invalid id problems => IsText id ∧ ∀ problem ∈ problems, IsText problem
  | .valid id _ _ digest _ reason _ => IsText id ∧ IsText digest ∧ IsText reason

theorem Admitted.textual {sha256Hex : Str → Str} {entry : Entry}
    (admitted : Admitted sha256Hex entry) : entry.Textual := by
  cases admitted with
  | invalid named texts => exact ⟨named, texts⟩
  | valid named digest reason _ _ => exact ⟨named, digest, reason⟩

theorem SameEntry.id_eq {entry other : Entry} (same : SameEntry entry other) :
    entry.id = other.id := by
  cases same <;> rfl

theorem perm_sortTexts (texts : List Str) : (sortTexts texts).Perm texts :=
  List.perm_insertionSort _ texts

theorem sortTexts_eq_iff {texts others : List Str} :
    sortTexts texts = sortTexts others ↔ texts.Perm others := by
  constructor
  · intro same
    have perm := perm_sortTexts texts
    rw [same] at perm
    exact perm.symm.trans (perm_sortTexts others)
  · intro perm
    refine List.Perm.eq_of_pairwise (fun _ _ _ _ => le_antisymm)
      (List.pairwise_insertionSort _ texts) (List.pairwise_insertionSort _ others) ?_
    exact (perm_sortTexts texts).trans (perm.trans (perm_sortTexts others).symm)

theorem same_str {text other : Str} : Same (.str text) (.str other) ↔ text = other := by
  constructor
  · intro same
    cases same
    rfl
  · rintro rfl
    exact .str text

theorem same_arr {items others : List Json} :
    Same (.arr items) (.arr others) ↔ List.Forall₂ Same items others := by
  rw [List.forall₂_iff_zip]
  constructor
  · intro same
    cases same with
    | arr length each => exact ⟨length, fun pair => each _ pair⟩
  · rintro ⟨length, each⟩
    exact .arr length fun pair listed => each listed

theorem same_texts {texts others : List Str} :
    Same (.arr (texts.map .str)) (.arr (others.map .str)) ↔ texts = others := by
  rw [same_arr, List.forall₂_map_left_iff, List.forall₂_map_right_iff]
  simp only [same_str, List.forall₂_eq_eq_eq]

theorem same_obj {keys : List Str} (nodup : keys.Nodup) {members others : List (Str × Json)}
    (here : members.map Prod.fst = keys) (there : others.map Prod.fst = keys) :
    Same (.obj members) (.obj others) ↔
      List.Forall₂ (fun member other => Same member.2 other.2) members others := by
  have both := here.trans there.symm
  have length := congrArg List.length both
  rw [List.length_map, List.length_map] at length
  have aligned : ∀ {member other}, (member, other) ∈ members.zip others → member.1 = other.1 := by
    intro member other pair
    obtain ⟨index, bound, here⟩ := List.mem_iff_getElem.mp pair
    rw [List.getElem_zip, Prod.mk.injEq] at here
    obtain ⟨rfl, rfl⟩ := here
    rw [List.length_zip] at bound
    have each := congrArg (·[index]?) both
    simpa [show index < members.length by omega, show index < others.length by omega] using each
  rw [List.forall₂_iff_zip]
  constructor
  · intro same
    cases same with
    | obj _ each =>
        refine ⟨length, fun {member other} pair => ?_⟩
        obtain ⟨here, there⟩ := List.of_mem_zip pair
        exact each member.1 member.2 other.2 here (aligned pair ▸ there)
  · rintro ⟨_, each⟩
    refine .obj (both ▸ List.Perm.refl _) fun key value other listed also => ?_
    -- a key stands at one place, the same in both
    obtain ⟨index, bound, first⟩ := List.mem_iff_getElem.mp listed
    have pair : (members[index], others[index]) ∈ members.zip others := by
      have zipped : index < (members.zip others).length := by
        rw [List.length_zip]
        omega
      have member := List.getElem_mem zipped
      rwa [List.getElem_zip] at member
    have second : others[index] = (key, other) := by
      refine List.inj_on_of_nodup_map (there ▸ nodup) (List.getElem_mem _) also ?_
      rw [← aligned pair, first]
    have same := each pair
    rwa [first, second] at same

theorem not_same_of_length {members others : List (Str × Json)}
    (different : members.length ≠ others.length) : ¬ Same (.obj members) (.obj others) := by
  intro same
  cases same with
  | obj keys _ =>
      have length := keys.length_eq
      rw [List.length_map, List.length_map] at length
      exact different length

theorem same_int {value other : Int} : Same (.int value) (.int other) ↔ value = other := by
  constructor
  · intro same
    cases same
    rfl
  · rintro rfl
    exact .int value

theorem same_bool {value other : Bool} : Same (.bool value) (.bool other) ↔ value = other := by
  constructor
  · intro same
    cases same
    rfl
  · rintro rfl
    exact .bool value

theorem nodup_invalid_keys : [ascii "id", ascii "state", ascii "problems"].Nodup := by
  decide

theorem nodup_unavailable_keys : [ascii "id", ascii "state", ascii "incarnation", ascii "revision",
    ascii "definitionDigest", ascii "available", ascii "unavailableReason"].Nodup := by
  decide

theorem nodup_available_keys : [ascii "id", ascii "state", ascii "incarnation", ascii "revision",
    ascii "definitionDigest", ascii "available"].Nodup := by
  decide

theorem same_digested_invalid {id otherId : Str} {problems others : List Str} :
    Same (digested (.invalid id problems)) (digested (.invalid otherId others)) ↔
      id = otherId ∧ problems.Perm others := by
  refine (same_obj nodup_invalid_keys rfl rfl).trans ?_
  simp only [List.forall₂_cons, List.forall₂_nil_left_iff, same_str, same_texts,
    sortTexts_eq_iff, true_and, and_true]

theorem same_digested_valid {id digest reason otherId otherDigest otherReason : Str}
    {incarnation revision otherIncarnation otherRevision : Int} {available otherAvailable : Bool}
    {definition other : Json} :
    Same (digested (.valid id incarnation revision digest available reason definition))
        (digested (.valid otherId otherIncarnation otherRevision otherDigest otherAvailable otherReason
          other)) ↔
      id = otherId ∧ incarnation = otherIncarnation ∧ revision = otherRevision ∧
        digest = otherDigest ∧ available = otherAvailable ∧
        (available = false → reason = otherReason) := by
  cases available with
  | false =>
      cases otherAvailable with
      | false =>
          refine (same_obj nodup_unavailable_keys rfl rfl).trans ?_
          simp only [List.forall₂_cons, List.forall₂_nil_left_iff, same_str, same_int, same_bool,
            true_and, and_true, if_false, Bool.false_eq_true, List.cons_append, List.nil_append,
            forall_const]
      | true =>
          refine iff_of_false (not_same_of_length (by simp)) ?_
          rintro ⟨_, _, _, _, same, _⟩
          cases same
  | true =>
      cases otherAvailable with
      | false =>
          refine iff_of_false (not_same_of_length (by simp)) ?_
          rintro ⟨_, _, _, _, same, _⟩
          cases same
      | true =>
          refine (same_obj nodup_available_keys rfl rfl).trans ?_
          simp only [List.forall₂_cons, List.forall₂_nil_left_iff, same_str, same_int, same_bool,
            true_and, and_true, if_true, List.append_nil, reduceCtorEq, false_implies]

/-- A valid entry has more keys than an invalid one. -/
theorem not_same_digested {id otherId digest reason : Str} {problems : List Str}
    {incarnation revision : Int} {available : Bool} {definition : Json} :
    let other := digested (.valid otherId incarnation revision digest available reason definition)
    ¬ Same (digested (.invalid id problems)) other ∧
      ¬ Same other (digested (.invalid id problems)) := by
  cases available with
  | false => exact ⟨not_same_of_length (by simp), not_same_of_length (by simp)⟩
  | true => exact ⟨not_same_of_length (by simp), not_same_of_length (by simp)⟩

theorem isText_of_lt {text : Str} (small : ∀ point ∈ text, point < 0xd800) : IsText text := by
  refine ⟨fun point listed => (small point listed).trans (by decide), ?_⟩
  refine List.Pairwise.isChain (List.pairwise_of_forall_mem_list ?_)
  intro first listed second _ both
  have high := both.1
  simp only [isHigh, Bool.and_eq_true, decide_eq_true_eq] at high
  have := small first listed
  omega

theorem valid_obj {keys : List Str} (nodup : keys.Nodup) (texts : ∀ key ∈ keys, IsText key)
    {members : List (Str × Json)} (here : members.map Prod.fst = keys)
    (values : ∀ value ∈ members.map Prod.snd, Valid value) : Valid (.obj members) := by
  subst here
  exact .obj nodup (fun member listed => texts _ (List.mem_map_of_mem listed))
    fun member listed => values _ (List.mem_map_of_mem listed)

theorem isText_keys {keys : List Str} (small : ∀ key ∈ keys, ∀ point ∈ key, point < 0xd800) :
    ∀ key ∈ keys, IsText key :=
  fun key listed => isText_of_lt (small key listed)

theorem valid_digested {entry : Entry} (texts : entry.Textual) : Valid (digested entry) := by
  have states : Valid (.str (ascii "valid")) ∧ Valid (.str (ascii "invalid")) :=
    ⟨.str (isText_of_lt (by decide)), .str (isText_of_lt (by decide))⟩
  cases entry with
  | invalid id problems =>
      refine valid_obj nodup_invalid_keys (isText_keys (by decide)) rfl ?_
      simp only [List.map_cons, List.map_nil, List.forall_mem_cons, List.not_mem_nil,
        false_implies, implies_true, and_true]
      refine ⟨.str texts.1, states.2, .arr fun item listed => ?_⟩
      obtain ⟨problem, here, rfl⟩ := List.mem_map.mp listed
      exact .str (texts.2 problem ((perm_sortTexts problems).mem_iff.mp here))
  | valid id incarnation revision digest available reason definition =>
      obtain ⟨named, digestText, reasonText⟩ := texts
      cases available with
      | false =>
          refine valid_obj nodup_unavailable_keys (isText_keys (by decide)) rfl ?_
          simp only [List.map_cons, List.map_nil, List.forall_mem_cons, List.not_mem_nil,
            false_implies, implies_true, and_true, Bool.false_eq_true, if_false, List.cons_append,
            List.nil_append]
          exact ⟨.str named, states.1, .int _, .int _, .str digestText, .bool _, .str reasonText⟩
      | true =>
          refine valid_obj nodup_available_keys (isText_keys (by decide)) rfl ?_
          simp only [List.map_cons, List.map_nil, List.forall_mem_cons, List.not_mem_nil,
            false_implies, implies_true, and_true, if_true, List.append_nil]
          exact ⟨.str named, states.1, .int _, .int _, .str digestText, .bool _⟩

/-- The digest of an admitted entry is that of its definition, so entries with the same digested
form have the same definition. -/
theorem same_digested_iff {sha256Hex : Str → Str} (injective : Function.Injective sha256Hex)
    {entry other : Entry} (admitted : Admitted sha256Hex entry) (also : Admitted sha256Hex other) :
    Same (digested entry) (digested other) ↔ SameEntry entry other := by
  cases admitted with
  | @invalid id problems =>
      cases also with
      | @invalid otherId others =>
          rw [same_digested_invalid]
          constructor
          · rintro ⟨rfl, perm⟩
            exact .invalid perm
          · intro same
            cases same with
            | invalid perm => exact ⟨rfl, perm⟩
      | valid =>
          refine iff_of_false not_same_digested.1 fun same => ?_
          cases same
  | @valid id digest reason incarnation revision available definition _ _ _ valid names =>
      cases also with
      | invalid =>
          refine iff_of_false not_same_digested.2 fun same => ?_
          cases same
      | @valid otherId otherDigest otherReason otherIncarnation otherRevision otherAvailable other _ _ _
          alsoValid alsoNames =>
          rw [same_digested_valid]
          constructor
          · rintro ⟨rfl, rfl, rfl, digests, rfl, reasons⟩
            have texts := injective (names.symm.trans (digests.trans alsoNames))
            subst digests
            exact .valid reasons ((canonical_eq_iff valid alsoValid).mp texts)
          · intro same
            cases same with
            | valid reasons _ => exact ⟨rfl, rfl, rfl, rfl, rfl, reasons⟩

/-! ### Snapshots -/

/-- A JSON value without floats. -/
structure Value where
  json : Json
  valid : Valid json

/-- The entries of a push that `snapshot_problems` finds nothing wrong with: each admitted, and
no id twice. -/
structure Snapshot (sha256Hex : Str → Str) where
  entries : List Entry
  admitted : ∀ entry ∈ entries, Admitted sha256Hex entry
  distinct : (entries.map Entry.id).Nodup

theorem Admitted.isText {sha256Hex : Str → Str} {entry : Entry}
    (admitted : Admitted sha256Hex entry) : IsText entry.id := by
  cases admitted with
  | invalid named _ => exact named
  | valid named _ _ _ _ => exact named

theorem perm_ordered (entries : List Entry) : (ordered entries).Perm entries :=
  List.perm_insertionSort _ entries

theorem valid_ordered {entries : List Entry} (texts : ∀ entry ∈ entries, entry.Textual) :
    Valid (.arr ((ordered entries).map digested)) := by
  refine .arr fun item listed => ?_
  obtain ⟨entry, inside, rfl⟩ := List.mem_map.mp listed
  exact valid_digested (texts entry ((perm_ordered entries).mem_iff.mp inside))

/-- Two lists of entries have one digest when their ordered entries have the same digested
forms. -/
theorem snapshotDigest_eq_iff_digested {Digest : Type} {sha256Hex : Str → Digest}
    (injective : Function.Injective sha256Hex) {entries others : List Entry}
    (texts : ∀ entry ∈ entries, entry.Textual) (also : ∀ entry ∈ others, entry.Textual) :
    snapshotDigest sha256Hex entries = snapshotDigest sha256Hex others ↔
      List.Forall₂ (fun entry other => Same (digested entry) (digested other)) (ordered entries)
        (ordered others) := by
  rw [snapshotDigest, snapshotDigest, injective.eq_iff,
    canonical_eq_iff (valid_ordered texts) (valid_ordered also), same_arr,
    List.forall₂_map_left_iff, List.forall₂_map_right_iff]

theorem exists_matched {related : Entry → Entry → Prop} {entries others : List Entry}
    (matched : List.Forall₂ related entries others) {entry : Entry} (listed : entry ∈ entries) :
    ∃ other ∈ others, related entry other := by
  induction matched with
  | nil => cases listed
  | @cons _ other _ _ here _ ih =>
      rcases List.mem_cons.mp listed with rfl | later
      · exact ⟨other, List.mem_cons_self, here⟩
      · obtain ⟨found, inside, related⟩ := ih later
        exact ⟨found, List.mem_cons_of_mem _ inside, related⟩

/-- With one digest, an invalid entry of the first list is one of the second, its problems in
some order. -/
theorem invalid_of_same_digest {Digest : Type} {sha256Hex : Str → Digest}
    (injective : Function.Injective sha256Hex) {entries others : List Entry}
    (texts : ∀ entry ∈ entries, entry.Textual) (also : ∀ entry ∈ others, entry.Textual)
    (same : snapshotDigest sha256Hex entries = snapshotDigest sha256Hex others) {id : Str}
    {problems : List Str} (listed : Entry.invalid id problems ∈ entries) :
    ∃ theirs, Entry.invalid id theirs ∈ others ∧ problems.Perm theirs := by
  have forms := (snapshotDigest_eq_iff_digested injective texts also).mp same
  have here := (perm_ordered entries).mem_iff.mpr listed
  obtain ⟨other, there, matched⟩ := exists_matched forms here
  cases other with
  | invalid otherId theirs =>
      obtain ⟨rfl, perm⟩ := same_digested_invalid.1 matched
      exact ⟨theirs, (perm_ordered others).mem_iff.mp there, perm⟩
  | valid => exact absurd matched not_same_digested.1

/-- In the order of their ids. -/
def InOrder (entries : List Entry) : Prop :=
  (entries.map fun entry => utf16Order entry.id).Pairwise (· ≤ ·)

theorem inOrder_ordered (entries : List Entry) : InOrder (ordered entries) :=
  List.pairwise_map.mpr (List.pairwise_insertionSort
    (fun first second : Entry => utf16Order first.id ≤ utf16Order second.id) entries)

/-- Entries with distinct ids have one order. -/
theorem eq_of_inOrder {sha256Hex : Str → Str} {entries others : List Entry}
    (admitted : ∀ entry ∈ entries, Admitted sha256Hex entry)
    (distinct : (entries.map Entry.id).Nodup) (sorted : InOrder entries) (also : InOrder others)
    (perm : entries.Perm others) : entries = others := by
  refine List.Perm.eq_of_pairwise ?_ (List.pairwise_map.mp sorted) (List.pairwise_map.mp also) perm
  intro first second here there below above
  have listed := perm.mem_iff.mpr there
  have ids := utf16Order_injective (admitted first here).isText (admitted second listed).isText
    (le_antisymm below above)
  exact List.inj_on_of_nodup_map distinct here listed ids

theorem inOrder_of_same {entries others : List Entry}
    (same : List.Forall₂ SameEntry entries others) (sorted : InOrder others) : InOrder entries := by
  have keys : (entries.map fun entry => utf16Order entry.id) =
      others.map fun entry => utf16Order entry.id := by
    clear sorted
    induction same with
    | nil => rfl
    | cons first _ ih => rw [List.map_cons, List.map_cons, first.id_eq, ih]
  unfold InOrder
  rwa [keys]

/-- A list matched with a permuted one is matched after a permutation of its own. -/
theorem same_perm {entries middle others : List Entry}
    (same : List.Forall₂ SameEntry entries middle) (perm : middle.Perm others) :
    ∃ moved, entries.Perm moved ∧ List.Forall₂ SameEntry moved others := by
  have both : Relation.Comp (List.Forall₂ SameEntry) List.Perm entries others :=
    ⟨middle, same, perm⟩
  rwa [List.forall₂_comp_perm_eq_perm_comp_forall₂] at both

section Identity
variable {sha256Hex : Str → Str}

theorem Snapshot.admitted_ordered (snapshot : Snapshot sha256Hex) :
    ∀ entry ∈ ordered snapshot.entries, Admitted sha256Hex entry :=
  fun entry listed => snapshot.admitted entry ((perm_ordered _).mem_iff.mp listed)

theorem Snapshot.distinct_ordered (snapshot : Snapshot sha256Hex) :
    ((ordered snapshot.entries).map Entry.id).Nodup :=
  ((perm_ordered _).map Entry.id).nodup_iff.mpr snapshot.distinct

/-- The digest tells the ordered entries apart as far as `SameEntry` does. -/
theorem snapshotDigest_eq_iff_ordered (injective : Function.Injective sha256Hex)
    (snapshot other : Snapshot sha256Hex) :
    snapshotDigest sha256Hex snapshot.entries = snapshotDigest sha256Hex other.entries ↔
      List.Forall₂ SameEntry (ordered snapshot.entries) (ordered other.entries) := by
  rw [snapshotDigest_eq_iff_digested injective (fun entry listed => (snapshot.admitted entry listed).textual)
    (fun entry listed => (other.admitted entry listed).textual), List.forall₂_iff_zip,
    List.forall₂_iff_zip]
  refine and_congr_right fun _ => forall_congr' fun entry => forall_congr' fun matched =>
    forall_congr' fun pair => ?_
  obtain ⟨here, there⟩ := List.of_mem_zip pair
  exact same_digested_iff injective (snapshot.admitted_ordered entry here)
    (other.admitted_ordered matched there)

theorem snapshotDigest_eq_iff (injective : Function.Injective sha256Hex)
    (snapshot other : Snapshot sha256Hex) :
    snapshotDigest sha256Hex snapshot.entries = snapshotDigest sha256Hex other.entries ↔
      ∃ entries, snapshot.entries.Perm entries ∧ List.Forall₂ SameEntry entries other.entries := by
  rw [snapshotDigest_eq_iff_ordered injective]
  constructor
  · intro same
    obtain ⟨entries, perm, matched⟩ := same_perm same (perm_ordered other.entries)
    exact ⟨entries, (perm_ordered snapshot.entries).symm.trans perm, matched⟩
  · rintro ⟨entries, perm, same⟩
    obtain ⟨moved, permMoved, matched⟩ := same_perm same (perm_ordered other.entries).symm
    -- the moved entries have the ids of a sorted list, so they are sorted themselves
    have all := (perm_ordered snapshot.entries).trans (perm.trans permMoved)
    rw [eq_of_inOrder snapshot.admitted_ordered snapshot.distinct_ordered
      (inOrder_ordered snapshot.entries) (inOrder_of_same matched (inOrder_ordered other.entries)) all]
    exact matched

end Identity

/-- Values are told apart by their texts and snapshots by their digests, whatever order the
members of an object, the entries or the problems of an entry are in. -/
theorem digests_identify_snapshots (sha256Hex : Str → Str) (injective : Function.Injective sha256Hex) :
    (∀ value : Value, ∃ back, loads (canonical value.json) = some back ∧ Same value.json back) ∧
    (∀ value other : Value,
      canonical value.json = canonical other.json ↔ Same value.json other.json) ∧
    (∀ snapshot other : Snapshot sha256Hex,
      snapshotDigest sha256Hex snapshot.entries = snapshotDigest sha256Hex other.entries ↔
        ∃ entries, snapshot.entries.Perm entries ∧
          List.Forall₂ SameEntry entries other.entries) :=
  ⟨fun value => loads_canonical value.valid,
    fun value other => canonical_eq_iff value.valid other.valid,
    fun snapshot other => snapshotDigest_eq_iff injective snapshot other⟩

/-! ### A snapshot, and what no digest tells apart -/

/-- A function with two values of its own stays injective when the rest has neither. -/
theorem twoValues_injective {Key Value : Type} [DecidableEq Key] {a b : Key} {x y : Value}
    {rest : Key → Value} (injective : Function.Injective rest) (differ : x ≠ y)
    (notFirst : ∀ key, rest key ≠ x) (notSecond : ∀ key, rest key ≠ y) :
    Function.Injective fun key => if key = a then x else if key = b then y else rest key := by
  intro first second same
  dsimp only at same
  split at same
  next isA =>
    split at same
    next alsoA => exact isA.trans alsoA.symm
    split at same
    · exact absurd same differ
    · exact absurd same.symm (notFirst second)
  next =>
    split at same
    next isB =>
      split at same
      · exact absurd same.symm differ
      split at same
      next alsoB => exact isB.trans alsoB.symm
      · exact absurd same.symm (notSecond second)
    next =>
      split at same
      · exact absurd same (notFirst first)
      split at same
      · exact absurd same (notSecond first)
      · exact injective same

def coderText : Str := ascii "\x7b\"name\":\"coder\"\x7d"

def coderHex : Str := ascii "65809411e8cf19e80d6bb084fb06430fc7b8aef6a19ae29beca098317329a069"

def sampleText : Str :=
  ascii "[\x7b\"available\":true,\"definitionDigest\":\"" ++
    coderHex ++
    ascii "\",\"id\":\"coder\",\"incarnation\":1," ++
    ascii "\"revision\":2,\"state\":\"valid\"\x7d," ++
    ascii "\x7b\"id\":\"notes.json\",\"problems\":[\"" ++
    ascii "id: not a string\",\"name: missing\"]," ++
    ascii "\"state\":\"invalid\"\x7d]"

def sampleHex : Str := ascii "78addfa1572e9ab2714bd1f11e34bbf6982240154e200cf76062d2a41542e3b7"

/-- SHA-256 on the two texts of the sample. -/
def hexOf (text : Str) : Str :=
  if text = coderText then coderHex else if text = sampleText then sampleHex else 0x2d :: text

theorem hexOf_injective : Function.Injective hexOf :=
  twoValues_injective List.cons_injective (by decide) (fun text same => by cases same)
    fun text same => by cases same

def coderEntry : Entry :=
  .valid (ascii "coder") 1 2 coderHex true [] (.obj [(ascii "name", .str (ascii "coder"))])

def notesEntry (problems : List Str) : Entry := .invalid (ascii "notes.json") problems

theorem admitted_coder : Admitted hexOf coderEntry := by
  refine .valid (isText_of_lt (by decide)) (isText_of_lt (by decide)) (isText_of_lt (by decide)) ?_
    (by decide)
  exact valid_obj (List.nodup_singleton (ascii "name")) (isText_keys (by decide)) rfl
    (List.forall_mem_singleton.mpr (.str (isText_of_lt (by decide))))

theorem admitted_notes {problems : List Str}
    (small : ∀ problem ∈ problems, ∀ point ∈ problem, point < 0xd800) :
    Admitted hexOf (notesEntry problems) :=
  .invalid (isText_of_lt (by decide)) (isText_keys small)

def sample : Snapshot hexOf where
  entries := [notesEntry [ascii "name: missing", ascii "id: not a string"], coderEntry]
  admitted := List.forall_mem_cons.mpr
    ⟨admitted_notes (by decide), List.forall_mem_singleton.mpr admitted_coder⟩
  distinct := by decide

def shuffled : Snapshot hexOf where
  entries := [coderEntry, notesEntry [ascii "id: not a string", ascii "name: missing"]]
  admitted := List.forall_mem_cons.mpr
    ⟨admitted_coder, List.forall_mem_singleton.mpr (admitted_notes (by decide))⟩
  distinct := by decide

theorem canonical_sample :
    canonical (.arr ((ordered sample.entries).map digested)) = sampleText := by
  decide +kernel

theorem snapshotDigest_sample : snapshotDigest hexOf sample.entries = sampleHex := by
  rw [snapshotDigest, canonical_sample, hexOf, if_neg (by decide), if_pos rfl]

theorem digests_identify_snapshots_sample :
    snapshotDigest hexOf sample.entries = sampleHex ∧
      snapshotDigest hexOf sample.entries = snapshotDigest hexOf shuffled.entries := by
  refine ⟨snapshotDigest_sample, ?_⟩
  refine ((digests_identify_snapshots hexOf hexOf_injective).2.2 sample shuffled).mpr
    ⟨_, List.Perm.swap _ _ _, ?_⟩
  refine .cons (.valid (fun _ => rfl) ?_) (.cons (.invalid (List.Perm.swap _ _ _)) .nil)
  exact (same_obj (List.nodup_singleton (ascii "name")) rfl rfl).mpr (.cons (.str _) .nil)

/-- Two entries that differ in the order of their problems have one digest, and two entries of
one id have a digest for each order. -/
theorem digest_of_problems_and_repeated_ids :
    notesEntry [ascii "x", ascii "y"] ≠ notesEntry [ascii "y", ascii "x"] ∧
    (∀ sha256Hex : Str → Str,
      snapshotDigest sha256Hex [notesEntry [ascii "x", ascii "y"]] =
        snapshotDigest sha256Hex [notesEntry [ascii "y", ascii "x"]]) ∧
    (∀ sha256Hex : Str → Str, Function.Injective sha256Hex →
      snapshotDigest sha256Hex [notesEntry [ascii "x"], notesEntry [ascii "y"]] ≠
        snapshotDigest sha256Hex [notesEntry [ascii "y"], notesEntry [ascii "x"]]) := by
  have sorted : sortTexts [ascii "x", ascii "y"] = sortTexts [ascii "y", ascii "x"] := by decide
  refine ⟨fun same => absurd (Entry.invalid.inj same).2 (by decide), fun sha256Hex => ?_, ?_⟩
  · have one : ∀ entry, ordered [entry] = [entry] := fun entry => rfl
    rw [snapshotDigest, snapshotDigest, one, one, List.map_singleton, List.map_singleton,
      notesEntry, notesEntry, digested, digested, sorted]
  intro sha256Hex injective same
  have different : canonical (.arr ((ordered [notesEntry [ascii "x"], notesEntry [ascii "y"]]).map
      digested)) ≠ canonical (.arr ((ordered [notesEntry [ascii "y"], notesEntry [ascii "x"]]).map
      digested)) := by decide
  exact different (injective same)

end AifyComms.SnapshotDigest
