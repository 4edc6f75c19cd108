import Mathlib
import AifyComms.Dict
import AifyComms.PyText
import AifyComms.Runs

/-!
The keys issued to other machines: `parse_external_keys` and `ExternalKeyring.match` of
`api_core/external_keys.py`.

A Python string may hold lone surrogates, which `encode("utf-8", "ignore")` leaves out, so a
text here is a list of characters and surrogates.
-/

namespace AifyComms.ExternalKeys

/-! ### Texts -/

inductive Point where
  | char (c : Char)
  | surrogate (unit : Fin 0x800)
  deriving DecidableEq

abbrev Text := List Point

def text (plain : String) : Text := plain.toList.map .char

def Point.char? : Point → Option Char
  | .char c => some c
  | .surrogate _ => none

def Point.is (test : Char → Bool) (point : Point) : Bool := point.char?.any test

/-- `str.strip`. -/
def strip (raw : Text) : Text :=
  let blank := Point.is PyText.isSpace
  ((raw.dropWhile blank).reverse.dropWhile blank).reverse

/-- `str.lower` of a machine label, which is ASCII. -/
def lower (label : Text) : Text :=
  label.map fun point =>
    match point with
    | .char c => .char c.toLower
    | .surrogate unit => .surrogate unit

/-- `encode("utf-8", "ignore")`. -/
def encode (raw : Text) : ByteArray := (String.ofList (raw.filterMap Point.char?)).toUTF8

/-! ### The entries of the setting -/

/-- One entry that is not blank: its number in the setting, what stands before the first colon,
whether there is one, and what stands behind it. -/
structure Entry where
  position : Nat
  label : Text
  sep : Bool
  key : Text
  deriving DecidableEq

def colon : Point := .char ':'

def readEntry (position : Nat) (raw : Text) : Option Entry :=
  let entry := strip raw
  if entry = [] then none
  else some
    { position := position
      label := strip (entry.takeWhile (· ≠ colon))
      sep := decide (colon ∈ entry)
      key := strip ((entry.dropWhile (· ≠ colon)).drop 1) }

/-- `enumerate(str(raw or "").split(","), start=1)`, without the blank ones. -/
def entries (raw : Text) : List Entry :=
  ((raw.splitOn (.char ',')).zipIdx 1).filterMap fun piece => readEntry piece.2 piece.1

/-- `_LABEL`. -/
def isLabel (label : Text) : Bool :=
  match label with
  | [] => false
  | first :: rest => first.is Char.isAlphanum &&
      rest.all (Point.is fun c => c.isAlphanum || c = '.' || c = '_' || c = '-') &&
      decide (rest.length ≤ 63)

/-- `MIN_EXTERNAL_KEY_LENGTH`. -/
def minExternalKeyLength : Nat := 16

def Entry.name (entry : Entry) : Text :=
  if isLabel entry.label then text "'" ++ entry.label ++ text "'"
  else text ("entry " ++ toString entry.position)

/-! ### Reading them one by one -/

structure Parsed where
  keys : Dict Text Text
  seenKeys : Dict Text Text
  rejected : List Text

def Parsed.reject (parsed : Parsed) (entry : Entry) (why : Text) : Parsed :=
  { parsed with rejected := parsed.rejected ++ [entry.name ++ text ": " ++ why] }

/-- The entry names no machine. -/
def Entry.misnamed (entry : Entry) : Bool := !entry.sep || !isLabel entry.label

/-- The name is that of an entry that stands. -/
def Parsed.inUse (parsed : Parsed) (label : Text) : Bool :=
  decide (lower label ∈ parsed.keys.keys.map lower)

def isReserved (reserved : List Text) (key : Text) : Bool :=
  decide (key ∈ reserved.filter (· ≠ []))

/-- The body of the loop of `parse_external_keys`. -/
def readOne (reserved : List Text) (parsed : Parsed) (entry : Entry) : Parsed :=
  if entry.misnamed then
    parsed.reject entry (text ("expected <machine-name>:<key>, where the name is letters, digits, " ++
      "dot, dash or underscore"))
  else if entry.key.length < minExternalKeyLength then
    parsed.reject entry (text ("the key is shorter than " ++ toString minExternalKeyLength ++
      " characters"))
  else if isReserved reserved entry.key then
    parsed.reject entry (text "the key is the same as API_KEY or OPERATOR_KEY")
  else if parsed.inUse entry.label then parsed.reject entry (text "the name is used twice")
  else match parsed.seenKeys.get? entry.key with
    -- Neither can be told apart from the other, so neither is believed.
    | some other =>
        { parsed.reject entry (text "the key is the same as the one for '" ++ other ++
            text "', so both are refused") with keys := parsed.keys.erase other }
    | none =>
        { parsed with
          keys := parsed.keys.set entry.label entry.key
          seenKeys := parsed.seenKeys.set entry.key entry.label }

def readAll (reserved : List Text) (listed : List Entry) : Parsed :=
  listed.foldl (readOne reserved) ⟨Dict.empty, Dict.empty, []⟩

/-- `parse_external_keys`. -/
def parseExternalKeys (reserved : List Text) (raw : Text) : Parsed := readAll reserved (entries raw)

/-- `ExternalKeyring.match`. -/
def matchKey (keys : Dict Text Text) (presented : Text) : Text :=
  if presented = [] then []
  else keys.entries.foldl (fun found entry =>
    if encode presented = encode entry.2 then entry.1 else found) []

/-! ### When the claim of an entry is believed -/

/-- The entry is refused for its name: it names no machine, or one that stands. -/
def nameRefused (parsed : Parsed) (entry : Entry) : Bool :=
  entry.misnamed || parsed.inUse entry.label

/-- The key is refused for itself. -/
def keyRefused (reserved : List Text) (entry : Entry) : Bool :=
  decide (entry.key.length < minExternalKeyLength) || isReserved reserved entry.key

/-- The entry gets as far as the keys seen before it. -/
def reachesKeys (reserved : List Text) (parsed : Parsed) (entry : Entry) : Bool :=
  !nameRefused parsed entry && !keyRefused reserved entry

/-- What reading an entry does: nothing but a refusal, the end of an earlier entry with its key,
or the entry is taken up. -/
inductive Reads (reserved : List Text) (parsed : Parsed) (entry : Entry) (next : Parsed) : Prop where
  | refused (short : reachesKeys reserved parsed entry = false) (keys : next.keys = parsed.keys)
      (seen : next.seenKeys = parsed.seenKeys)
  | clears (reaches : reachesKeys reserved parsed entry = true) (other : Text)
      (known : parsed.seenKeys.get? entry.key = some other)
      (keys : next.keys = parsed.keys.erase other) (seen : next.seenKeys = parsed.seenKeys)
  | takes (reaches : reachesKeys reserved parsed entry = true)
      (unknown : parsed.seenKeys.get? entry.key = none)
      (keys : next.keys = parsed.keys.set entry.label entry.key)
      (seen : next.seenKeys = parsed.seenKeys.set entry.key entry.label)

theorem readOne_reads (reserved : List Text) (parsed : Parsed) (entry : Entry) :
    Reads reserved parsed entry (readOne reserved parsed entry) := by
  unfold readOne
  by_cases misnamed : entry.misnamed = true
  · rw [if_pos misnamed]
    exact .refused (by simp [reachesKeys, nameRefused, misnamed]) rfl rfl
  · rw [if_neg misnamed]
    by_cases short : entry.key.length < minExternalKeyLength
    · rw [if_pos short]
      exact .refused (by simp [reachesKeys, keyRefused, short]) rfl rfl
    · rw [if_neg short]
      by_cases secret : isReserved reserved entry.key = true
      · rw [if_pos secret]
        exact .refused (by simp [reachesKeys, keyRefused, secret]) rfl rfl
      · rw [if_neg secret]
        by_cases inUse : parsed.inUse entry.label = true
        · rw [if_pos inUse]
          exact .refused (by simp [reachesKeys, nameRefused, inUse]) rfl rfl
        · rw [if_neg inUse]
          have reaches : reachesKeys reserved parsed entry = true := by
            simp [reachesKeys, nameRefused, keyRefused, misnamed, short, secret, inUse]
          split
          · next other known => exact .clears reaches other known rfl rfl
          · next unknown => exact .takes reaches unknown rfl rfl

theorem readAll_concat (reserved : List Text) (listed : List Entry) (entry : Entry) :
    readAll reserved (listed ++ [entry]) = readOne reserved (readAll reserved listed) entry := by
  simp [readAll, List.foldl_append]

/-- The entry is taken up after those before it. -/
def Taken (reserved : List Text) (before : List Entry) (entry : Entry) : Prop :=
  reachesKeys reserved (readAll reserved before) entry = true ∧
    (readAll reserved before).seenKeys.get? entry.key = none

/-- The entry repeats a key that was first seen under this name. -/
def Clears (reserved : List Text) (before : List Entry) (entry : Entry) (label : Text) : Prop :=
  reachesKeys reserved (readAll reserved before) entry = true ∧
    (readAll reserved before).seenKeys.get? entry.key = some label

/-- The entry is taken up, and no later one clears its name. -/
def KeptAt (reserved : List Text) (before : List Entry) (entry : Entry) (after : List Entry) : Prop :=
  Taken reserved before entry ∧ ∀ middle later rest, after = middle ++ later :: rest →
    ¬Clears reserved (before ++ entry :: middle) later entry.label

def Kept (reserved : List Text) (listed : List Entry) (entry : Entry) : Prop :=
  ∃ before after, listed = before ++ entry :: after ∧ KeptAt reserved before entry after

/-! ### The keys seen -/

section Seen
variable {reserved : List Text} {before : List Entry} {entry : Entry}

theorem seen_onward {key label : Text}
    (seen : (readAll reserved before).seenKeys.get? key = some label) (more : List Entry) :
    (readAll reserved (before ++ more)).seenKeys.get? key = some label := by
  induction more using List.reverseRecOn with
  | nil => rwa [List.append_nil]
  | append_singleton more last ih =>
      rw [← List.append_assoc, readAll_concat]
      cases readOne_reads reserved (readAll reserved (before ++ more)) last with
      | refused _ _ same => rwa [same]
      | clears _ _ _ _ same => rwa [same]
      | takes _ unknown _ set =>
          have differs : last.key ≠ key := by
            intro same
            rw [same, ih] at unknown
            cases unknown
          rw [set, Dict.get?_set_ne _ _ differs]
          exact ih

/-- An entry that got as far as the keys seen leaves its own seen. -/
theorem seen_of_reaches (reaches : reachesKeys reserved (readAll reserved before) entry = true)
    (after : List Entry) :
    ∃ label, (readAll reserved (before ++ entry :: after)).seenKeys.get? entry.key = some label := by
  have here : ∃ label,
      (readAll reserved (before ++ [entry])).seenKeys.get? entry.key = some label := by
    rw [readAll_concat]
    cases readOne_reads reserved (readAll reserved before) entry with
    | refused short =>
        rw [reaches] at short
        cases short
    | clears _ other known _ same =>
        rw [same]
        exact ⟨other, known⟩
    | takes _ _ _ set =>
        rw [set]
        exact ⟨entry.label, Dict.get?_set_self _ _ _⟩
  obtain ⟨label, seen⟩ := here
  refine ⟨label, ?_⟩
  rw [List.append_cons]
  exact seen_onward seen after

theorem Taken.seen (taken : Taken reserved before entry) (after : List Entry) :
    (readAll reserved (before ++ entry :: after)).seenKeys.get? entry.key = some entry.label := by
  rw [List.append_cons]
  apply seen_onward
  rw [readAll_concat]
  cases readOne_reads reserved (readAll reserved before) entry with
  | refused short =>
      rw [taken.1] at short
      cases short
  | clears _ other known =>
      rw [taken.2] at known
      cases known
  | takes _ _ _ set =>
      rw [set]
      exact Dict.get?_set_self _ _ _

end Seen

/-! ### The entries that stand -/

/-- No two entries have one number. -/
def Numbered (listed : List Entry) : Prop := (listed.map Entry.position).Nodup

theorem Numbered.init {listed : List Entry} {last : Entry} (numbered : Numbered (listed ++ [last])) :
    Numbered listed := by
  rw [Numbered, List.map_append] at numbered
  exact (List.nodup_append.mp numbered).1

theorem Numbered.last {listed : List Entry} {last : Entry} (numbered : Numbered (listed ++ [last])) :
    last ∉ listed := by
  intro member
  rw [Numbered, List.map_append, List.nodup_append] at numbered
  exact numbered.2.2 _ (List.mem_map_of_mem member) _ (List.mem_singleton_self _) rfl

section Standing
variable {reserved : List Text} {listed : List Entry} {last entry : Entry}

theorem kept_concat_old (numbered : Numbered (listed ++ [last])) (old : entry ∈ listed) :
    Kept reserved (listed ++ [last]) entry ↔
      Kept reserved listed entry ∧ ¬Clears reserved listed last entry.label := by
  constructor
  · rintro ⟨before, after, split, taken, stands⟩
    rcases List.eq_nil_or_concat after with rfl | ⟨earlier, final, rfl⟩
    · obtain ⟨_, same⟩ := List.append_inj' split rfl
      rw [(List.cons.inj same).1] at numbered
      exact absurd old numbered.last
    · rw [List.concat_eq_append, ← List.cons_append, ← List.append_assoc] at split
      obtain ⟨rfl, same⟩ := List.append_inj' split rfl
      obtain rfl := (List.cons.inj same).1
      rw [List.concat_eq_append] at stands
      refine ⟨⟨before, earlier, rfl, taken, ?_⟩, stands earlier last [] rfl⟩
      intro middle later rest within
      refine stands middle later (rest ++ [last]) ?_
      rw [within, List.append_assoc, List.cons_append]
  · rintro ⟨⟨before, after, rfl, taken, stands⟩, spared⟩
    refine ⟨before, after ++ [last], by simp, taken, ?_⟩
    intro middle later rest within
    rcases List.eq_nil_or_concat rest with rfl | ⟨earlier, final, rfl⟩
    · obtain ⟨rfl, same⟩ := List.append_inj' within rfl
      obtain rfl := (List.cons.inj same).1
      exact spared
    · rw [List.concat_eq_append, ← List.cons_append, ← List.append_assoc] at within
      obtain ⟨same, _⟩ := List.append_inj' within rfl
      exact stands middle later earlier same

theorem kept_concat_new (numbered : Numbered (listed ++ [last])) :
    Kept reserved (listed ++ [last]) last ↔ Taken reserved listed last := by
  constructor
  · rintro ⟨before, after, split, taken, _⟩
    rcases List.eq_nil_or_concat after with rfl | ⟨earlier, final, rfl⟩
    · obtain ⟨rfl, _⟩ := List.append_inj' split rfl
      exact taken
    · rw [List.concat_eq_append, ← List.cons_append, ← List.append_assoc] at split
      obtain ⟨rfl, _⟩ := List.append_inj' split rfl
      exact absurd (List.mem_append_right _ List.mem_cons_self) numbered.last
  · intro taken
    refine ⟨listed, [], rfl, taken, ?_⟩
    intro middle later rest within
    cases middle <;> cases within

theorem setEntry_absent {label : Text} (key : Text) {held : List (Text × Text)}
    (absent : label ∉ held.map Prod.fst) : Dict.setEntry label key held = held ++ [(label, key)] := by
  induction held with
  | nil => rfl
  | cons first rest ih =>
      rw [List.map_cons, List.mem_cons, not_or] at absent
      rw [Dict.set_entry_cons, if_neg (Ne.symm absent.1), ih absent.2, List.cons_append]

/-- The name of an entry that gets as far as the keys seen is not one that stands. -/
theorem reachesKeys_absent {parsed : Parsed} (reaches : reachesKeys reserved parsed entry = true) :
    lower entry.label ∉ parsed.keys.keys.map lower := by
  simp only [reachesKeys, nameRefused, Parsed.inUse, Bool.and_eq_true, Bool.not_eq_true',
    Bool.or_eq_false_iff, decide_eq_false_iff_not] at reaches
  exact reaches.1.2

def Entry.pair (entry : Entry) : Text × Text := (entry.label, entry.key)

open Classical in
/-- The entries that stand, in the order of the setting. -/
noncomputable def standing (reserved : List Text) (listed : List Entry) : List Entry :=
  listed.filter fun entry => decide (Kept reserved listed entry)

open Classical in
theorem mem_standing : entry ∈ standing reserved listed ↔ Kept reserved listed entry := by
  rw [standing, List.mem_filter, decide_eq_true_eq]
  constructor
  · exact And.right
  · intro kept
    refine ⟨?_, kept⟩
    obtain ⟨before, after, rfl, _⟩ := kept
    exact List.mem_append_right _ List.mem_cons_self

open Classical in
theorem standing_concat (numbered : Numbered (listed ++ [last])) :
    standing reserved (listed ++ [last]) =
      (standing reserved listed).filter (fun entry =>
          decide (¬Clears reserved listed last entry.label)) ++
        if Taken reserved listed last then [last] else [] := by
  rw [standing, standing, List.filter_append, List.filter_filter]
  congr 1
  · apply List.filter_congr
    intro entry old
    rw [kept_concat_old numbered old, Bool.decide_and, Bool.and_comm]
  · by_cases taken : Taken reserved listed last
    · rw [if_pos taken]
      exact List.filter_cons_of_pos (decide_eq_true ((kept_concat_new numbered).mpr taken))
    · rw [if_neg taken]
      refine List.filter_cons_of_neg ?_
      rw [decide_eq_true_eq, kept_concat_new numbered]
      exact taken

/-- **The keyring is the entries that stand.** -/
theorem readAll_keys (reserved : List Text) (listed : List Entry) (numbered : Numbered listed) :
    (readAll reserved listed).keys.entries = (standing reserved listed).map Entry.pair := by
  induction listed using List.reverseRecOn with
  | nil => rfl
  | append_singleton listed last ih =>
      have held := ih numbered.init
      rw [readAll_concat, standing_concat numbered]
      cases readOne_reads reserved (readAll reserved listed) last with
      | refused short keys =>
          have notTaken : ¬Taken reserved listed last := fun taken =>
            absurd (taken.1.symm.trans short) (by decide)
          have spares : ∀ label, ¬Clears reserved listed last label := fun label clears =>
            absurd (clears.1.symm.trans short) (by decide)
          rw [keys, held, if_neg notTaken, List.append_nil]
          simp [spares]
      | clears reaches other known keys =>
          have notTaken : ¬Taken reserved listed last := fun taken =>
            absurd (taken.2.symm.trans known) (by simp)
          have cleared : ∀ label, Clears reserved listed last label ↔ label = other := by
            intro label
            rw [Clears, known, Option.some.injEq]
            exact ⟨fun both => both.2.symm, fun same => ⟨reaches, same.symm⟩⟩
          have erased : ((readAll reserved listed).keys.erase other).entries =
              (readAll reserved listed).keys.entries.filter fun held => decide (held.1 ≠ other) := rfl
          rw [keys, if_neg notTaken, List.append_nil, erased, held, List.filter_map]
          refine congrArg (List.map Entry.pair) (List.filter_congr fun entry _ => ?_)
          exact decide_eq_decide.mpr (not_congr (cleared entry.label)).symm
      | takes reaches unknown keys =>
          have spares : ∀ label, ¬Clears reserved listed last label := fun label clears =>
            absurd (clears.2.symm.trans unknown) (by simp)
          have absent : last.label ∉ (readAll reserved listed).keys.entries.map Prod.fst :=
            fun member => reachesKeys_absent reaches (List.mem_map_of_mem member)
          have added : ((readAll reserved listed).keys.set last.label last.key).entries =
              (readAll reserved listed).keys.entries ++ [last.pair] := setEntry_absent _ absent
          rw [keys, added, held, if_pos ⟨reaches, unknown⟩, List.map_append]
          simp [spares]

end Standing

/-! ### What stands is unlike -/

theorem readAll_lower (reserved : List Text) (listed : List Entry) :
    (readAll reserved listed).keys.keys.Pairwise fun left right => lower left ≠ lower right := by
  induction listed using List.reverseRecOn with
  | nil => exact List.Pairwise.nil
  | append_singleton listed last ih =>
      rw [readAll_concat]
      cases readOne_reads reserved (readAll reserved listed) last with
      | refused _ keys => rwa [keys]
      | clears _ other _ keys =>
          rw [keys]
          exact ih.sublist (List.Sublist.map Prod.fst List.filter_sublist)
      | takes reaches _ keys =>
          have unlike := reachesKeys_absent reaches
          have absent : last.label ∉ (readAll reserved listed).keys.entries.map Prod.fst :=
            fun member => unlike (List.mem_map_of_mem member)
          have added : ((readAll reserved listed).keys.set last.label last.key).keys =
              (readAll reserved listed).keys.keys ++ [last.label] := by
            have appended := congrArg (List.map Prod.fst) (setEntry_absent last.key absent)
            rwa [List.map_append] at appended
          rw [keys, added]
          apply Runs.pairwise_concat ih
          intro label member same
          exact unlike (same ▸ List.mem_map_of_mem member)

/-- A key that stands was first seen under its name. -/
theorem readAll_seen (reserved : List Text) (listed : List Entry) {label key : Text}
    (held : (readAll reserved listed).keys.get? label = some key) :
    (readAll reserved listed).seenKeys.get? key = some label := by
  induction listed using List.reverseRecOn with
  | nil => cases held
  | append_singleton listed last ih =>
      rw [readAll_concat] at held ⊢
      cases readOne_reads reserved (readAll reserved listed) last with
      | refused _ keys seen =>
          rw [keys] at held
          rw [seen]
          exact ih held
      | clears _ other _ keys seen =>
          rw [keys, Dict.get?_erase] at held
          rw [seen]
          exact ih (Option.ite_none_left_eq_some.mp held).2
      | takes _ unknown keys seen =>
          rw [keys, Dict.get?_set] at held
          rw [seen, Dict.get?_set]
          by_cases isLast : last.label = label
          · rw [if_pos isLast] at held
            rw [if_pos (Option.some.inj held), isLast]
          · rw [if_neg isLast] at held
            have before := ih held
            have differs : last.key ≠ key := by
              intro same
              rw [same, before] at unknown
              cases unknown
            rw [if_neg differs]
            exact before

theorem readAll_get_iff (reserved : List Text) {listed : List Entry} (numbered : Numbered listed)
    (label key : Text) :
    (readAll reserved listed).keys.get? label = some key ↔
      ∃ entry, Kept reserved listed entry ∧ entry.pair = (label, key) := by
  rw [Dict.get?_eq_some_iff, readAll_keys reserved listed numbered, List.mem_map]
  simp only [mem_standing]

/-! ### A key on one entry -/

/-- How many entries carry the key. -/
def carriers (listed : List Entry) (key : Text) : Nat :=
  listed.countP fun entry => decide (entry.key = key)

theorem carriers_split (before : List Entry) (entry : Entry) (after : List Entry) :
    carriers (before ++ entry :: after) entry.key =
      carriers before entry.key + 1 + carriers after entry.key := by
  simp only [carriers, List.countP_append, List.countP_cons, decide_true, if_true]
  omega

theorem carriers_pos {listed : List Entry} {entry : Entry} (member : entry ∈ listed) :
    0 < carriers listed entry.key :=
  List.countP_pos_iff.mpr ⟨entry, member, decide_eq_true rfl⟩

/-- No entry that is refused for its name carries the key of an entry that stands. -/
def KeysApart (reserved : List Text) (listed : List Entry) : Prop :=
  ∀ before entry after, listed = before ++ entry :: after → KeptAt reserved before entry after →
    ∀ front other back, listed = front ++ other :: back → other.key = entry.key →
      nameRefused (readAll reserved front) other = false

section Carriers
variable {reserved : List Text} {before after : List Entry} {entry : Entry}

/-- Another entry with a key that may be issued, and that is not refused for its name, gets as
far as the keys seen. -/
theorem reachesKeys_of_same {parsed other : Parsed} {rival : Entry}
    (reaches : reachesKeys reserved parsed entry = true) (same : rival.key = entry.key)
    (named : nameRefused other rival = false) : reachesKeys reserved other rival = true := by
  simp only [reachesKeys, Bool.and_eq_true, Bool.not_eq_true'] at reaches ⊢
  refine ⟨named, ?_⟩
  rw [keyRefused, same]
  exact reaches.2

/-- An entry that stands is then the only one with its key. -/
theorem KeptAt.alone (kept : KeptAt reserved before entry after)
    (named : ∀ front other back, before ++ entry :: after = front ++ other :: back →
      other.key = entry.key → nameRefused (readAll reserved front) other = false) :
    carriers (before ++ entry :: after) entry.key = 1 := by
  have none' : carriers before entry.key = 0 := by
    rw [carriers, List.countP_eq_zero]
    intro other member same
    rw [decide_eq_true_eq] at same
    obtain ⟨front, back, rfl⟩ := List.append_of_mem member
    have reaches := reachesKeys_of_same kept.1.1 same
      (named front other (back ++ entry :: after) (by simp) same)
    obtain ⟨label, seen⟩ := seen_of_reaches reaches back
    rw [same, kept.1.2] at seen
    cases seen
  have noLater : carriers after entry.key = 0 := by
    rw [carriers, List.countP_eq_zero]
    intro other member same
    rw [decide_eq_true_eq] at same
    obtain ⟨middle, rest, rfl⟩ := List.append_of_mem member
    have reaches := reachesKeys_of_same kept.1.1 same
      (named (before ++ entry :: middle) other rest (by simp) same)
    refine kept.2 middle other rest rfl ⟨reaches, ?_⟩
    rw [same]
    exact kept.1.seen middle
  rw [carriers_split, none', noLater]

/-- A split at another entry with the key of the only one is the same split. -/
theorem split_of_alone {front back : List Entry} {other : Entry}
    (alone : carriers (before ++ entry :: after) entry.key = 1) (same : other.key = entry.key)
    (split : before ++ entry :: after = front ++ other :: back) : front = before ∧ other = entry := by
  have once := alone
  rw [carriers_split] at once
  rcases List.append_eq_append_iff.mp split with ⟨more, shape, rest⟩ | ⟨more, shape, rest⟩
  · cases more with
    | nil =>
        rw [List.nil_append] at rest
        rw [List.append_nil] at shape
        exact ⟨shape, (List.cons.inj rest).1.symm⟩
    | cons first more =>
        have later : other ∈ after := by
          rw [(List.cons.inj rest).2]
          exact List.mem_append_right _ List.mem_cons_self
        have counted := carriers_pos later
        rw [same] at counted
        omega
  · cases more with
    | nil =>
        rw [List.nil_append] at rest
        rw [List.append_nil] at shape
        exact ⟨shape.symm, (List.cons.inj rest).1⟩
    | cons first more =>
        have earlier : other ∈ before := by
          rw [shape, ← (List.cons.inj rest).1]
          exact List.mem_append_right _ List.mem_cons_self
        have counted := carriers_pos earlier
        rw [same] at counted
        omega

end Carriers

/-- Every key of the keyring was issued to one entry, exactly when the keys are apart. -/
theorem issued_once_iff (reserved : List Text) {listed : List Entry} (numbered : Numbered listed) :
    (∀ label key, (readAll reserved listed).keys.get? label = some key → carriers listed key = 1) ↔
      KeysApart reserved listed := by
  constructor
  · intro once before entry after split kept front other back otherSplit same
    have held : (readAll reserved listed).keys.get? entry.label = some entry.key :=
      (readAll_get_iff reserved numbered _ _).mpr ⟨entry, ⟨before, after, split, kept⟩, rfl⟩
    have alone := once _ _ held
    subst split
    obtain ⟨rfl, rfl⟩ := split_of_alone alone same otherSplit
    have reaches := kept.1.1
    rw [reachesKeys, Bool.and_eq_true, Bool.not_eq_true'] at reaches
    exact reaches.1
  · intro apart label key held
    obtain ⟨entry, ⟨before, after, rfl, kept⟩, same⟩ := (readAll_get_iff reserved numbered _ _).mp held
    obtain ⟨_, rfl⟩ := Prod.mk.inj same
    exact kept.alone (apart before entry after rfl kept)

/-! ### Presented strings -/

/-- No lone surrogates. -/
def isPlain (raw : Text) : Bool := raw.all fun point => point.char?.isSome

/-- A text without its lone surrogates. -/
def plainOf (raw : Text) : Text := (raw.filterMap Point.char?).map .char

theorem encode_eq_iff (left right : Text) : encode left = encode right ↔ plainOf left = plainOf right := by
  have chars : Function.Injective Point.char := fun _ _ same => Point.char.inj same
  rw [plainOf, plainOf, (List.map_injective_iff.mpr chars).eq_iff, encode, encode]
  constructor
  · intro same
    exact String.ofList_injective (String.toByteArray_inj.mp same)
  · intro same
    rw [same]

theorem isPlain_plainOf (raw : Text) : isPlain (plainOf raw) = true := by
  rw [isPlain, plainOf, List.all_eq_true]
  intro point member
  obtain ⟨c, _, rfl⟩ := List.mem_map.mp member
  rfl

theorem plainOf_plain {raw : Text} (plain : isPlain raw = true) : plainOf raw = raw := by
  induction raw with
  | nil => rfl
  | cons first rest ih =>
      rw [isPlain, List.all_cons, Bool.and_eq_true] at plain
      cases first with
      | char c =>
          have step : plainOf (Point.char c :: rest) = Point.char c :: plainOf rest := rfl
          rw [step, ih plain.2]
      | surrogate unit => cases plain.1

/-- A loop that keeps the label of the last entry with a property. -/
theorem foldl_last (test : Entry → Prop) [DecidablePred test] (listed : List Entry) (found : Text) :
    ((∀ entry ∈ listed, ¬test entry) ∧
      listed.foldl (fun found entry => if test entry then entry.label else found) found = found) ∨
    ∃ before entry after, listed = before ++ entry :: after ∧ test entry ∧
      (∀ later ∈ after, ¬test later) ∧
      listed.foldl (fun found entry => if test entry then entry.label else found) found =
        entry.label := by
  induction listed using List.reverseRecOn with
  | nil =>
      left
      refine ⟨?_, rfl⟩
      intro entry member
      cases member
  | append_singleton listed last ih =>
      rw [List.foldl_append, List.foldl_cons, List.foldl_nil]
      by_cases passes : test last
      · right
        refine ⟨listed, last, [], rfl, passes, ?_, if_pos passes⟩
        intro later member
        cases member
      · rw [if_neg passes]
        rcases ih with ⟨fails, same⟩ | ⟨before, entry, after, split, here, fails, same⟩
        · left
          refine ⟨?_, same⟩
          intro entry member
          rcases List.mem_append.mp member with old | new
          · exact fails entry old
          · exact List.mem_singleton.mp new ▸ passes
        · right
          refine ⟨before, entry, after ++ [last], by simp [split], here, ?_, same⟩
          intro later member
          rcases List.mem_append.mp member with old | new
          · exact fails later old
          · exact List.mem_singleton.mp new ▸ passes

/-- The entry stands, and the string presented is its key for the comparison. -/
def Opens (reserved : List Text) (listed : List Entry) (presented : Text) (entry : Entry) : Prop :=
  Kept reserved listed entry ∧ plainOf presented = plainOf entry.key

/-- A match is the last entry that the string opens. -/
theorem matchKey_cases (reserved : List Text) {listed : List Entry} (numbered : Numbered listed)
    {presented : Text} (given : presented ≠ []) :
    ((∀ entry ∈ listed, ¬Opens reserved listed presented entry) ∧
      matchKey (readAll reserved listed).keys presented = []) ∨
    ∃ before entry after, listed = before ++ entry :: after ∧ Opens reserved listed presented entry ∧
      (∀ later ∈ after, ¬Opens reserved listed presented later) ∧
      matchKey (readAll reserved listed).keys presented = entry.label := by
  classical
  have loop : matchKey (readAll reserved listed).keys presented =
      listed.foldl (fun found entry =>
        if Opens reserved listed presented entry then entry.label else found) [] := by
    rw [matchKey, if_neg given, readAll_keys reserved listed numbered, List.foldl_map, standing,
      List.foldl_filter]
    congr 1
    funext found entry
    by_cases kept : Kept reserved listed entry
    · simp [Opens, kept, encode_eq_iff, Entry.pair]
    · simp [Opens, kept]
  rw [loop]
  exact foldl_last _ listed []

/-- A key with lone surrogates that stands is followed by one that stands and is that key
without them, unless nothing is left of it. -/
def SurrogatesShadowed (reserved : List Text) (listed : List Entry) : Prop :=
  ∀ before entry after, listed = before ++ entry :: after → Kept reserved listed entry →
    isPlain entry.key = false → plainOf entry.key ≠ [] →
      ∃ later ∈ after, Kept reserved listed later ∧ later.key = plainOf entry.key

theorem Kept.reaches {reserved : List Text} {listed : List Entry} {entry : Entry}
    (kept : Kept reserved listed entry) : entry.label ≠ [] ∧ entry.key ≠ [] ∧
      isReserved reserved entry.key = false := by
  obtain ⟨before, after, _, taken, _⟩ := kept
  have reaches := taken.1
  simp only [reachesKeys, nameRefused, keyRefused, Entry.misnamed, Bool.and_eq_true,
    Bool.not_eq_true', Bool.or_eq_false_iff, Bool.not_eq_false', decide_eq_false_iff_not] at reaches
  obtain ⟨⟨⟨_, named⟩, _⟩, long, free⟩ := reaches
  refine ⟨?_, ?_, free⟩
  · intro empty
    rw [empty] at named
    cases named
  · intro empty
    rw [empty] at long
    exact long (by decide)

section Matching
variable {reserved : List Text} {listed : List Entry}

/-- Where the surrogates are shadowed, what a plain string opens last is the entry with it. -/
theorem key_of_last (shadowed : SurrogatesShadowed reserved listed) {presented : Text}
    (plain : isPlain presented = true) (given : presented ≠ []) {before after : List Entry}
    {entry : Entry} (split : listed = before ++ entry :: after)
    (opens : Opens reserved listed presented entry)
    (last : ∀ later ∈ after, ¬Opens reserved listed presented later) : entry.key = presented := by
  have same := opens.2
  rw [plainOf_plain plain] at same
  by_cases plainKey : isPlain entry.key = true
  · rw [plainOf_plain plainKey] at same
    exact same.symm
  · obtain ⟨later, member, kept, isPlainKey⟩ := shadowed before entry after split opens.1
      (Bool.not_eq_true _ ▸ plainKey) (same ▸ given)
    refine absurd ⟨kept, ?_⟩ (last later member)
    rw [isPlainKey, ← same, plainOf_plain plain]

variable (numbered : Numbered listed)
include numbered

/-- Two entries that stand with one key have one name. -/
theorem label_of_key {left right : Entry} (leftKept : Kept reserved listed left)
    (rightKept : Kept reserved listed right) (same : left.key = right.key) :
    left.label = right.label := by
  have leftHeld := (readAll_get_iff reserved numbered _ _).mpr ⟨left, leftKept, rfl⟩
  have rightHeld := (readAll_get_iff reserved numbered _ _).mpr ⟨right, rightKept, rfl⟩
  have leftSeen := readAll_seen reserved listed leftHeld
  have rightSeen := readAll_seen reserved listed rightHeld
  rw [same, rightSeen] at leftSeen
  exact (Option.some.inj leftSeen).symm

/-- A plain string opens what it is the key of, exactly when the surrogates are shadowed. -/
theorem matches_iff :
    (∀ presented, isPlain presented = true → ∀ label, label ≠ [] →
      (matchKey (readAll reserved listed).keys presented = label ↔
        (readAll reserved listed).keys.get? label = some presented)) ↔
      SurrogatesShadowed reserved listed := by
  constructor
  · intro exact' before entry after split kept lone left
    -- The string that the key is without its surrogates opens something, which is its own key.
    have opens : Opens reserved listed (plainOf entry.key) entry :=
      ⟨kept, plainOf_plain (isPlain_plainOf entry.key)⟩
    have member : entry ∈ listed := by
      rw [split]
      exact List.mem_append_right _ List.mem_cons_self
    rcases matchKey_cases reserved numbered left with ⟨fails, _⟩ |
      ⟨front, last, back, lastSplit, lastOpens, later, matched⟩
    · exact absurd opens (fails entry member)
    · have held := (exact' _ (isPlain_plainOf entry.key) last.label lastOpens.1.reaches.1).mp matched
      have own := (readAll_get_iff reserved numbered _ _).mpr ⟨last, lastOpens.1, rfl⟩
      have isKey : last.key = plainOf entry.key := Option.some.inj (own.symm.trans held)
      have differs : last ≠ entry := by
        intro same
        rw [same] at isKey
        rw [isKey, isPlain_plainOf] at lone
        cases lone
      refine ⟨last, ?_, lastOpens.1, isKey⟩
      rw [split] at lastSplit
      rcases List.append_eq_append_iff.mp lastSplit with ⟨more, _, rest⟩ | ⟨more, _, rest⟩
      · cases more with
        | nil => exact absurd (List.cons.inj rest).1.symm differs
        | cons first more =>
            rw [(List.cons.inj rest).2]
            exact List.mem_append_right _ List.mem_cons_self
      · cases more with
        | nil => exact absurd (List.cons.inj rest).1 differs
        | cons first more =>
            have behind : entry ∈ back := by
              rw [(List.cons.inj rest).2]
              exact List.mem_append_right _ List.mem_cons_self
            exact absurd opens (later entry behind)
  · intro shadowed presented plain label named
    constructor
    · intro matched
      have given : presented ≠ [] := by
        intro empty
        rw [empty] at matched
        exact named matched.symm
      rcases matchKey_cases reserved numbered given with ⟨_, nothing⟩ |
        ⟨before, entry, after, split, opens, last, isLabel⟩
      · exact absurd (matched.symm.trans nothing) named
      · have isKey := key_of_last shadowed plain given split opens last
        refine (readAll_get_iff reserved numbered _ _).mpr ⟨entry, opens.1, ?_⟩
        rw [Entry.pair, isKey, ← isLabel, matched]
    · intro held
      obtain ⟨entry, kept, same⟩ := (readAll_get_iff reserved numbered _ _).mp held
      obtain ⟨rfl, rfl⟩ := Prod.mk.inj same
      rcases matchKey_cases reserved numbered kept.reaches.2.1 with ⟨fails, _⟩ |
        ⟨before, last, after, split, opens, later, isLabel⟩
      · refine absurd ⟨kept, rfl⟩ (fails entry ?_)
        obtain ⟨before, after, rfl, _⟩ := kept
        exact List.mem_append_right _ List.mem_cons_self
      · have isKey := key_of_last shadowed plain kept.reaches.2.1 split opens later
        rw [isLabel]
        exact label_of_key numbered opens.1 kept isKey

end Matching

/-! ### The setting -/

theorem entries_numbered (raw : Text) : Numbered (entries raw) := by
  have indices : ((raw.splitOn (.char ',')).zipIdx 1).Pairwise fun left right => left.2 < right.2 := by
    have mapped : (((raw.splitOn (.char ',')).zipIdx 1).map Prod.snd).Pairwise (· < ·) := by
      rw [List.zipIdx_map_snd]
      exact List.pairwise_lt_range'
    exact List.pairwise_map.mp mapped
  rw [Numbered, List.Nodup, List.pairwise_map, entries]
  refine List.Pairwise.filterMap _ ?_ indices
  intro left right ahead first readLeft second readRight
  have positions : ∀ (piece : Text × Nat) entry,
      entry ∈ readEntry piece.2 piece.1 → entry.position = piece.2 := by
    intro piece entry read
    simp only [readEntry, Option.mem_def] at read
    rw [Option.ite_none_left_eq_some] at read
    rw [← Option.some.inj read.2]
  rw [positions left first readLeft, positions right second readRight]
  exact Nat.ne_of_lt ahead

/-- Every key of the keyring was issued to one entry of the setting and is not a reserved one,
names are unlike but for case, and a plain string opens a name exactly when it is its key. -/
structure Unambiguous (reserved : List Text) (raw : Text) : Prop where
  once : ∀ label key, (parseExternalKeys reserved raw).keys.get? label = some key →
    carriers (entries raw) key = 1
  free : ∀ label key, (parseExternalKeys reserved raw).keys.get? label = some key →
    isReserved reserved key = false
  unlike : (parseExternalKeys reserved raw).keys.keys.Pairwise fun left right =>
    lower left ≠ lower right
  opens : ∀ presented, isPlain presented = true → ∀ label, label ≠ [] →
    (matchKey (parseExternalKeys reserved raw).keys presented = label ↔
      (parseExternalKeys reserved raw).keys.get? label = some presented)

/-- **For every setting and every reserved keys, the keyring is unambiguous exactly when no entry
that is refused for its name carries the key of one that stands, and the keys that stand with
lone surrogates are shadowed.** -/
theorem unambiguous_iff (reserved : List Text) (raw : Text) :
    Unambiguous reserved raw ↔
      KeysApart reserved (entries raw) ∧ SurrogatesShadowed reserved (entries raw) := by
  have numbered := entries_numbered raw
  constructor
  · intro unambiguous
    exact ⟨(issued_once_iff reserved numbered).mp unambiguous.once,
      (matches_iff numbered).mp unambiguous.opens⟩
  · rintro ⟨apart, shadowed⟩
    refine ⟨(issued_once_iff reserved numbered).mpr apart, ?_, readAll_lower reserved (entries raw),
      (matches_iff numbered).mpr shadowed⟩
    intro label key held
    obtain ⟨entry, kept, same⟩ := (readAll_get_iff reserved numbered _ _).mp held
    rw [← (Prod.mk.inj same).2]
    exact kept.reaches.2.2

/-- The second entry is refused for its name, and the third is believed with its key. -/
def renewedTwice : Text :=
  text "pc2:0123456789abcdef,pc2:fedcba9876543210,laptop:fedcba9876543210"

theorem refused_entry_shares_key : ¬Unambiguous [] renewedTwice := by
  intro unambiguous
  have held : (parseExternalKeys [] renewedTwice).keys.get? (text "laptop") =
      some (text "fedcba9876543210") := by decide
  have once := unambiguous.once _ _ held
  have twice : carriers (entries renewedTwice) (text "fedcba9876543210") = 2 := by decide
  rw [twice] at once
  cases once

end AifyComms.ExternalKeys
