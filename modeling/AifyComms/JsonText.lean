import Mathlib.Data.List.Sort
import Mathlib.Data.List.Lex
import Mathlib.Data.Nat.Digits.Defs

/-!
JSON values without floats, the text `json.dumps` writes for one with sorted keys and no
spaces, and the reader `json.loads`. A string is a list of code points, in which a surrogate
may stand alone. An object has its members in the order they were put there.

The interpreter's own limits, on the digits of a number and on the nesting, are not
modelled.
-/

namespace AifyComms.JsonText

abbrev Str := List Nat

inductive Json where
  | null
  | bool (value : Bool)
  | int (value : Int)
  | str (value : Str)
  | arr (items : List Json)
  | obj (members : List (Str × Json))

def ascii (text : String) : Str := text.toList.map Char.toNat

def isHigh (point : Nat) : Bool := 0xd800 ≤ point && point < 0xdc00

def isLow (point : Nat) : Bool := 0xdc00 ≤ point && point < 0xe000

/-! ### Writing -/

def hexDigit (digit : Nat) : Nat := if digit < 10 then 0x30 + digit else 0x57 + digit

/-- A backslash, `u` and four hexadecimal digits, in lower case. -/
def hexEscape (point : Nat) : Str :=
  [0x5c, 0x75, hexDigit (point / 0x1000 % 0x10), hexDigit (point / 0x100 % 0x10),
    hexDigit (point / 0x10 % 0x10), hexDigit (point % 0x10)]

/-- `ESCAPE_DCT` of the encoder. -/
def escape (point : Nat) : Str :=
  if point = 0x5c then [0x5c, 0x5c]
  else if point = 0x22 then [0x5c, 0x22]
  else if point = 0x08 then [0x5c, 0x62]
  else if point = 0x0c then [0x5c, 0x66]
  else if point = 0x0a then [0x5c, 0x6e]
  else if point = 0x0d then [0x5c, 0x72]
  else if point = 0x09 then [0x5c, 0x74]
  else if point < 0x20 then hexEscape point
  else [point]

def quoted (text : Str) : Str := 0x22 :: text.flatMap escape ++ [0x22]

def natDigits (value : Nat) : Str :=
  if value = 0 then [0x30] else (Nat.digits 10 value).reverse.map (0x30 + ·)

def intText : Int → Str
  | .ofNat value => natDigits value
  | .negSucc value => 0x2d :: natDigits (value + 1)

/-- The parts with commas between them. -/
def commas : List Str → Str
  | [] => []
  | [part] => part
  | part :: rest => part ++ 0x2c :: commas rest

/-- Members by their keys, as code points. -/
def sortMembers {Value : Type} (members : List (Str × Value)) : List (Str × Value) :=
  members.insertionSort fun first second => first.1 ≤ second.1

mutual

/-- `json.dumps(value, ensure_ascii=False, sort_keys=True, separators=(",", ":"))`. -/
def dumps : Json → Str
  | .null => ascii "null"
  | .bool true => ascii "true"
  | .bool false => ascii "false"
  | .int value => intText value
  | .str value => quoted value
  | .arr items => 0x5b :: commas (dumpsItems items) ++ [0x5d]
  | .obj members =>
      0x7b :: commas ((sortMembers (dumpsMembers members)).map fun member =>
        quoted member.1 ++ 0x3a :: member.2) ++ [0x7d]

def dumpsItems : List Json → List Str
  | [] => []
  | item :: rest => dumps item :: dumpsItems rest

def dumpsMembers : List (Str × Json) → List (Str × Str)
  | [] => []
  | member :: rest => (member.1, dumps member.2) :: dumpsMembers rest

end

/-! ### Reading -/

def skip (text : Str) : Str :=
  text.dropWhile fun point => point = 0x20 || point = 0x09 || point = 0x0a || point = 0x0d

def hexValue (point : Nat) : Option Nat :=
  if 0x30 ≤ point ∧ point ≤ 0x39 then some (point - 0x30)
  else if 0x61 ≤ point ∧ point ≤ 0x66 then some (point - 0x57)
  else if 0x41 ≤ point ∧ point ≤ 0x46 then some (point - 0x37)
  else none

def hexValues (a b c d : Nat) : Option Nat :=
  match hexValue a, hexValue b, hexValue c, hexValue d with
  | some a, some b, some c, some d => some (a * 0x1000 + b * 0x100 + c * 0x10 + d)
  | _, _, _, _ => none

/-- `BACKSLASH` of the scanner. -/
def unescape (point : Nat) : Option Nat :=
  if point = 0x22 then some 0x22
  else if point = 0x5c then some 0x5c
  else if point = 0x2f then some 0x2f
  else if point = 0x62 then some 0x08
  else if point = 0x66 then some 0x0c
  else if point = 0x6e then some 0x0a
  else if point = 0x72 then some 0x0d
  else if point = 0x74 then some 0x09
  else none

/-- The rest of a string after its opening quote, each point with whether it was written by
its number, and what stands after the closing quote. -/
def scanString : Str → Option (List (Nat × Bool) × Str)
  | [] => none
  | point :: rest =>
      if point = 0x22 then some ([], rest)
      else if point = 0x5c then
        match rest with
        | 0x75 :: a :: b :: c :: d :: rest =>
            match hexValues a b c d, scanString rest with
            | some value, some (points, rest) => some ((value, true) :: points, rest)
            | _, _ => none
        | escaped :: rest =>
            match unescape escaped, scanString rest with
            | some value, some (points, rest) => some ((value, false) :: points, rest)
            | _, _ => none
        | [] => none
      else if point < 0x20 then none
      else match scanString rest with
        | some (points, rest) => some ((point, false) :: points, rest)
        | none => none

/-- Two surrogates written by their numbers, a high and then a low one, are one point. -/
def pairUp : List (Nat × Bool) → Str
  | [] => []
  | [single] => [single.1]
  | first :: second :: rest =>
      if first.2 && second.2 && isHigh first.1 && isLow second.1 then
        (0x10000 + (first.1 - 0xd800) * 0x400 + (second.1 - 0xdc00)) :: pairUp rest
      else first.1 :: pairUp (second :: rest)

def readString (text : Str) : Option (Str × Str) :=
  (scanString text).map fun scanned => (pairUp scanned.1, scanned.2)

def isDigit (point : Nat) : Bool := 0x30 ≤ point && point ≤ 0x39

/-- Whether a number goes on as a float. -/
def isFloatTail : Str → Bool
  | 0x2e :: digit :: _ => isDigit digit
  | 0x65 :: sign :: digit :: _ =>
      isDigit sign || ((sign = 0x2b || sign = 0x2d) && isDigit digit)
  | 0x45 :: sign :: digit :: _ =>
      isDigit sign || ((sign = 0x2b || sign = 0x2d) && isDigit digit)
  | [0x65, digit] => isDigit digit
  | [0x45, digit] => isDigit digit
  | _ => false

/-- `0|[1-9][0-9]*`, when no float goes on from there. -/
def readNat (text : Str) : Option (Nat × Str) :=
  match text with
  | [] => none
  | first :: rest =>
      if !isDigit first then none
      else if first = 0x30 then if isFloatTail rest then none else some (0, rest)
      else if isFloatTail (rest.dropWhile isDigit) then none
      else some ((first :: rest.takeWhile isDigit).foldl
        (fun value digit => value * 10 + (digit - 0x30)) 0, rest.dropWhile isDigit)

def readInt : Str → Option (Int × Str)
  | 0x2d :: rest => (readNat rest).map fun read => (-(read.1 : Int), read.2)
  | text => (readNat text).map fun read => ((read.1 : Int), read.2)

/-- A member put in a `dict`: a key that is there keeps its place and takes the value. -/
def put {Value : Type} : List (Str × Value) → Str × Value → List (Str × Value)
  | [], member => [member]
  | first :: rest, member =>
      if first.1 = member.1 then member :: rest else first :: put rest member

def dict {Value : Type} (members : List (Str × Value)) : List (Str × Value) :=
  members.foldl put []

mutual

/-- `scan_once`, at the first point of a value. -/
def readValue : Nat → Str → Option (Json × Str)
  | 0, _ => none
  | _ + 1, [] => none
  | fuel + 1, first :: rest =>
      if first = 0x22 then (readString rest).map fun read => (.str read.1, read.2)
      else if first = 0x5b then
        let inside := skip rest
        if inside.head? = some 0x5d then some (.arr [], inside.tail)
        else (readItems fuel inside).map fun read => (.arr read.1, read.2)
      else if first = 0x7b then
        let inside := skip rest
        if inside.head? = some 0x7d then some (.obj [], inside.tail)
        else (readMembers fuel inside).map fun read => (.obj (dict read.1), read.2)
      else if ascii "null" <+: first :: rest then some (.null, (first :: rest).drop 4)
      else if ascii "true" <+: first :: rest then some (.bool true, (first :: rest).drop 4)
      else if ascii "false" <+: first :: rest then some (.bool false, (first :: rest).drop 5)
      else (readInt (first :: rest)).map fun read => (.int read.1, read.2)

/-- The items of an array, one at least, and its end. -/
def readItems : Nat → Str → Option (List Json × Str)
  | 0, _ => none
  | fuel + 1, text =>
      (readValue fuel text).bind fun item =>
        let after := skip item.2
        if after.head? = some 0x5d then some ([item.1], after.tail)
        else if after.head? = some 0x2c then
          (readItems fuel (skip after.tail)).map fun read => (item.1 :: read.1, read.2)
        else none

/-- The members of an object, one at least, and its end. -/
def readMembers : Nat → Str → Option (List (Str × Json) × Str)
  | 0, _ => none
  | fuel + 1, text =>
      if text.head? = some 0x22 then
        (readString text.tail).bind fun key =>
          let colon := skip key.2
          if colon.head? = some 0x3a then
            (readValue fuel (skip colon.tail)).bind fun value =>
              let after := skip value.2
              if after.head? = some 0x7d then some ([(key.1, value.1)], after.tail)
              else if after.head? = some 0x2c then
                (readMembers fuel (skip after.tail)).map fun read =>
                  ((key.1, value.1) :: read.1, read.2)
              else none
          else none
      else none

end

/-- `json.loads(text)`. -/
def loads (text : Str) : Option Json :=
  match readValue (text.length + 1) (skip text) with
  | some (value, rest) => if skip rest = [] then some value else none
  | none => none

/-- A point that stands for itself in a string. -/
theorem scanString_plain {point : Nat} (solid : 0x20 ≤ point) (notQuote : point ≠ 0x22)
    (notEscape : point ≠ 0x5c) (rest : Str) :
    scanString (point :: rest) =
      (scanString rest).map fun scanned => ((point, false) :: scanned.1, scanned.2) := by
  rw [scanString.eq_def]
  dsimp only
  rw [if_neg notQuote, if_neg notEscape, if_neg (Nat.not_lt_of_le solid)]
  cases scanString rest <;> rfl

/-! ### Values -/

/-- Induction over a value, by the items and the members it has. -/
theorem Json.induct {holds : Json → Prop} (null : holds .null) (bool : ∀ value, holds (.bool value))
    (int : ∀ value, holds (.int value)) (str : ∀ value, holds (.str value))
    (arr : ∀ items, (∀ item ∈ items, holds item) → holds (.arr items))
    (obj : ∀ members, (∀ member ∈ members, holds member.2) → holds (.obj members)) :
    ∀ value, holds value := by
  intro value
  refine @Json.rec holds (fun items => ∀ item ∈ items, holds item)
    (fun members => ∀ member ∈ members, holds member.2) (fun member => holds member.2)
    null bool int str arr obj ?_ ?_ ?_ ?_ ?_ value
  · exact fun _ listed => absurd listed List.not_mem_nil
  · exact fun item rest first others => List.forall_mem_cons.mpr ⟨first, others⟩
  · exact fun _ listed => absurd listed List.not_mem_nil
  · exact fun member rest first others => List.forall_mem_cons.mpr ⟨first, others⟩
  · exact fun _ _ holds => holds

/-- No high surrogate with a low one after it: such a pair is one point. -/
def Paired (text : Str) : Prop :=
  text.IsChain fun first second => ¬ (isHigh first = true ∧ isLow second = true)

/-- A text of a value. -/
structure IsText (text : Str) : Prop where
  points : ∀ point ∈ text, point < 0x110000
  paired : Paired text

/-- A value: its texts are texts, and no object has a key twice. -/
inductive Valid : Json → Prop where
  | null : Valid .null
  | bool (value : Bool) : Valid (.bool value)
  | int (value : Int) : Valid (.int value)
  | str {value : Str} : IsText value → Valid (.str value)
  | arr {items : List Json} : (∀ item ∈ items, Valid item) → Valid (.arr items)
  | obj {members : List (Str × Json)} : (members.map Prod.fst).Nodup →
      (∀ member ∈ members, IsText member.1) → (∀ member ∈ members, Valid member.2) →
      Valid (.obj members)

/-- The same value, whatever order the members of its objects are in. -/
inductive Same : Json → Json → Prop where
  | null : Same .null .null
  | bool (value : Bool) : Same (.bool value) (.bool value)
  | int (value : Int) : Same (.int value) (.int value)
  | str (value : Str) : Same (.str value) (.str value)
  | arr {items others : List Json} : items.length = others.length →
      (∀ pair ∈ items.zip others, Same pair.1 pair.2) → Same (.arr items) (.arr others)
  | obj {members others : List (Str × Json)} :
      (members.map Prod.fst).Perm (others.map Prod.fst) →
      (∀ key value other, (key, value) ∈ members → (key, other) ∈ others → Same value other) →
      Same (.obj members) (.obj others)

/-! ### Keys in order -/

mutual

/-- The value with the members of every object sorted. -/
def sortKeys : Json → Json
  | .arr items => .arr (sortItems items)
  | .obj members => .obj (sortMembers (sortValues members))
  | value => value

def sortItems : List Json → List Json
  | [] => []
  | item :: rest => sortKeys item :: sortItems rest

def sortValues : List (Str × Json) → List (Str × Json)
  | [] => []
  | member :: rest => (member.1, sortKeys member.2) :: sortValues rest

end

theorem sortItems_eq (items : List Json) : sortItems items = items.map sortKeys := by
  induction items with
  | nil => rfl
  | cons item rest ih => exact congrArg (sortKeys item :: ·) ih

theorem sortValues_eq (members : List (Str × Json)) :
    sortValues members = members.map fun member => (member.1, sortKeys member.2) := by
  induction members with
  | nil => rfl
  | cons member rest ih => exact congrArg ((member.1, sortKeys member.2) :: ·) ih

theorem sortKeys_arr (items : List Json) : sortKeys (.arr items) = .arr (items.map sortKeys) :=
  congrArg Json.arr (sortItems_eq items)

theorem sortKeys_obj (members : List (Str × Json)) :
    sortKeys (.obj members) = .obj (sortMembers (sortValues members)) := rfl

theorem dumpsItems_eq (items : List Json) : dumpsItems items = items.map dumps := by
  induction items with
  | nil => rfl
  | cons item rest ih => exact congrArg (dumps item :: ·) ih

theorem dumpsMembers_eq (members : List (Str × Json)) :
    dumpsMembers members = members.map fun member => (member.1, dumps member.2) := by
  induction members with
  | nil => rfl
  | cons member rest ih => exact congrArg ((member.1, dumps member.2) :: ·) ih

theorem dumps_arr (items : List Json) :
    dumps (.arr items) = 0x5b :: commas (items.map dumps) ++ [0x5d] :=
  congrArg (fun listed => 0x5b :: commas listed ++ [0x5d]) (dumpsItems_eq items)

theorem dumps_obj (members : List (Str × Json)) :
    dumps (.obj members) = 0x7b :: commas ((sortMembers (members.map fun member =>
      (member.1, dumps member.2))).map fun member => quoted member.1 ++ 0x3a :: member.2) ++ [0x7d] :=
  congrArg (fun listed => 0x7b :: commas ((sortMembers listed).map fun member =>
    quoted member.1 ++ 0x3a :: member.2) ++ [0x7d]) (dumpsMembers_eq members)

section Members
variable {Value Other : Type}

theorem perm_sortMembers (members : List (Str × Value)) : (sortMembers members).Perm members :=
  List.perm_insertionSort _ members

/-- Sorting by key does not look at the values. -/
theorem sortMembers_map (change : Value → Other) (members : List (Str × Value)) :
    sortMembers (members.map fun member => (member.1, change member.2)) =
      (sortMembers members).map fun member => (member.1, change member.2) := by
  unfold sortMembers
  exact (List.map_insertionSort (fun first second : Str × Value => first.1 ≤ second.1)
    (fun first second : Str × Other => first.1 ≤ second.1) _ members fun _ _ _ _ => Iff.rfl).symm

theorem value_unique {members : List (Str × Value)} (nodup : (members.map Prod.fst).Nodup)
    {key : Str} {value other : Value} (here : (key, value) ∈ members)
    (there : (key, other) ∈ members) : value = other := by
  have same := List.inj_on_of_nodup_map nodup here there rfl
  exact (Prod.mk.inj same).2

/-- With no key twice, the sorted members are the same for every order. -/
theorem sortMembers_perm {members others : List (Str × Value)}
    (nodup : (members.map Prod.fst).Nodup) (perm : members.Perm others) :
    sortMembers members = sortMembers others := by
  have sorted := fun list : List (Str × Value) =>
    List.pairwise_insertionSort (fun first second => first.1 ≤ second.1) list
  refine List.Perm.eq_of_pairwise ?_ (sorted members) (sorted others)
    ((perm_sortMembers members).trans (perm.trans (perm_sortMembers others).symm))
  intro first second here there below above
  have listed := (perm_sortMembers members).mem_iff.mp here
  have also := perm.mem_iff.mpr ((perm_sortMembers others).mem_iff.mp there)
  exact List.inj_on_of_nodup_map nodup listed also (le_antisymm below above)

end Members

theorem keys_sortValues (members : List (Str × Json)) :
    (sortValues members).map Prod.fst = members.map Prod.fst := by
  rw [sortValues_eq, List.map_map]
  rfl

theorem mem_sortValues {members : List (Str × Json)} {key : Str} {value : Json} :
    (key, value) ∈ sortValues members ↔ ∃ before, (key, before) ∈ members ∧ sortKeys before = value := by
  rw [sortValues_eq, List.mem_map]
  constructor
  · rintro ⟨⟨name, before⟩, listed, same⟩
    obtain ⟨rfl, sorted⟩ := Prod.mk.inj same
    exact ⟨before, listed, sorted⟩
  · rintro ⟨before, listed, rfl⟩
    exact ⟨(key, before), listed, rfl⟩

theorem valid_sortKeys {value : Json} (valid : Valid value) : Valid (sortKeys value) := by
  induction valid with
  | null => exact .null
  | bool value => exact .bool value
  | int value => exact .int value
  | str text => exact .str text
  | arr _ ih =>
      rw [sortKeys_arr]
      refine .arr fun sorted listed => ?_
      obtain ⟨item, inside, rfl⟩ := List.mem_map.mp listed
      exact ih item inside
  | @obj members nodup texts _ ih =>
      rw [sortKeys_obj]
      have listed : ∀ member ∈ sortMembers (sortValues members), ∃ before ∈ members,
          before.1 = member.1 ∧ sortKeys before.2 = member.2 := by
        intro member inside
        obtain ⟨before, here, sorted⟩ := mem_sortValues.1 ((perm_sortMembers _).mem_iff.mp inside)
        exact ⟨(member.1, before), here, rfl, sorted⟩
      refine .obj ?_ ?_ ?_
      · rw [((perm_sortMembers (sortValues members)).map Prod.fst).nodup_iff, keys_sortValues]
        exact nodup
      · intro member inside
        obtain ⟨before, here, key, _⟩ := listed member inside
        exact key ▸ texts before here
      · intro member inside
        obtain ⟨before, here, _, sorted⟩ := listed member inside
        exact sorted ▸ ih before here

/-- Values that are the same have the same sorted form. -/
theorem sortKeys_of_same {value other : Json} (same : Same value other) (valid : Valid value)
    (also : Valid other) : sortKeys value = sortKeys other := by
  induction same with
  | null => rfl
  | bool value => rfl
  | int value => rfl
  | str value => rfl
  | @arr items others length _ ih =>
      cases valid with
      | arr valid =>
          cases also with
          | arr also =>
              rw [sortKeys_arr, sortKeys_arr]
              congr 1
              refine List.ext_getElem (by rw [List.length_map, List.length_map, length]) ?_
              intro index here there
              rw [List.length_map] at here there
              rw [List.getElem_map, List.getElem_map]
              have pair : (items[index], others[index]) ∈ items.zip others := by
                have zipped : index < (items.zip others).length := by
                  rw [List.length_zip]
                  omega
                have member := List.getElem_mem zipped
                rwa [List.getElem_zip] at member
              exact ih _ pair (valid _ (List.getElem_mem here)) (also _ (List.getElem_mem there))
  | @obj members others keys _ ih =>
      cases valid with
      | obj nodup _ valid =>
          cases also with
          | obj alsoNodup _ also =>
              rw [sortKeys_obj, sortKeys_obj]
              congr 1
              have nodupSorted : ((sortValues members).map Prod.fst).Nodup := by
                rwa [keys_sortValues]
              have alsoSorted : ((sortValues others).map Prod.fst).Nodup := by
                rwa [keys_sortValues]
              refine sortMembers_perm nodupSorted ?_
              rw [List.perm_ext_iff_of_nodup (List.Nodup.of_map _ nodupSorted)
                (List.Nodup.of_map _ alsoSorted)]
              rintro ⟨key, sorted⟩
              rw [mem_sortValues, mem_sortValues]
              constructor
              · rintro ⟨value, here, rfl⟩
                obtain ⟨⟨name, other⟩, there, rfl⟩ :=
                  List.mem_map.mp (keys.mem_iff.mp (List.mem_map_of_mem here))
                exact ⟨other, there, (ih _ value other here there (valid _ here) (also _ there)).symm⟩
              · rintro ⟨other, there, rfl⟩
                obtain ⟨⟨name, value⟩, here, rfl⟩ :=
                  List.mem_map.mp (keys.mem_iff.mpr (List.mem_map_of_mem there))
                exact ⟨value, here, ih _ value other here there (valid _ here) (also _ there)⟩

theorem same_of_sortKeys {value : Json} (valid : Valid value) :
    ∀ {other : Json}, Valid other → sortKeys value = sortKeys other → Same value other := by
  induction value using Json.induct with
  | null =>
      intro other _ same
      cases other <;> cases same
      exact .null
  | bool value =>
      intro other _ same
      cases other <;> cases same
      exact .bool value
  | int value =>
      intro other _ same
      cases other <;> cases same
      exact .int value
  | str value =>
      intro other _ same
      cases other <;> cases same
      exact .str value
  | arr items ih =>
      intro other also same
      cases valid with
      | arr valid =>
          cases also with
          | @arr others also =>
              rw [sortKeys_arr, sortKeys_arr, Json.arr.injEq] at same
              have length := congrArg List.length same
              rw [List.length_map, List.length_map] at length
              refine .arr length ?_
              rintro ⟨item, other⟩ pair
              obtain ⟨index, bound, here⟩ := List.mem_iff_getElem.mp pair
              rw [List.getElem_zip, Prod.mk.injEq] at here
              obtain ⟨rfl, rfl⟩ := here
              rw [List.length_zip] at bound
              refine ih _ (List.getElem_mem _) (valid _ (List.getElem_mem _))
                (also _ (List.getElem_mem _)) ?_
              have each := congrArg (·[index]?) same
              simpa [show index < items.length by omega, show index < others.length by omega] using each
          | _ => cases same
  | obj members ih =>
      intro other also same
      cases valid with
      | obj nodup _ valid =>
          cases also with
          | @obj others alsoNodup _ also =>
              rw [sortKeys_obj, sortKeys_obj, Json.obj.injEq] at same
              have perm : (sortValues members).Perm (sortValues others) :=
                (perm_sortMembers _).symm.trans (same ▸ perm_sortMembers _)
              refine .obj ?_ ?_
              · rw [← keys_sortValues members, ← keys_sortValues others]
                exact perm.map Prod.fst
              · intro key value other here there
                have sorted := perm.mem_iff.mp (mem_sortValues.2 ⟨value, here, rfl⟩)
                obtain ⟨found, listed, equal⟩ := mem_sortValues.1 sorted
                rw [value_unique alsoNodup listed there] at equal
                exact ih _ here (valid _ here) (also _ there) equal.symm
          | _ => cases same

end AifyComms.JsonText
