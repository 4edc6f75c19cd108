import AifyComms.JsonText
import Mathlib.Data.Nat.Digits.Lemmas
import Mathlib.Tactic.Ring

/-!
What is written of a value is read back. The surrogates of the written text are escaped by
their numbers, so the text itself has none.
-/

namespace AifyComms.JsonText

/-! ### The text of a value whose keys are in order -/

def isSurrogate (point : Nat) : Bool := isHigh point || isLow point

/-- Every surrogate of a text by its number. -/
def escapeSurrogates (text : Str) : Str :=
  text.flatMap fun point => if isSurrogate point then hexEscape point else [point]

def escapeAll (point : Nat) : Str :=
  if isSurrogate point then hexEscape point else escape point

def quotedAll (text : Str) : Str := 0x22 :: text.flatMap escapeAll ++ [0x22]

mutual

def text : Json → Str
  | .null => ascii "null"
  | .bool true => ascii "true"
  | .bool false => ascii "false"
  | .int value => intText value
  | .str value => quotedAll value
  | .arr items => 0x5b :: commas (textItems items) ++ [0x5d]
  | .obj members => 0x7b :: commas (textMembers members) ++ [0x7d]

def textItems : List Json → List Str
  | [] => []
  | item :: rest => text item :: textItems rest

def textMembers : List (Str × Json) → List Str
  | [] => []
  | member :: rest => (quotedAll member.1 ++ 0x3a :: text member.2) :: textMembers rest

end

theorem textItems_eq (items : List Json) : textItems items = items.map text := by
  induction items with
  | nil => rfl
  | cons item rest ih => exact congrArg (text item :: ·) ih

theorem textMembers_eq (members : List (Str × Json)) :
    textMembers members = members.map fun member => quotedAll member.1 ++ 0x3a :: text member.2 := by
  induction members with
  | nil => rfl
  | cons member rest ih => exact congrArg ((quotedAll member.1 ++ 0x3a :: text member.2) :: ·) ih

theorem text_arr (items : List Json) :
    text (.arr items) = 0x5b :: commas (items.map text) ++ [0x5d] :=
  congrArg (fun listed => 0x5b :: commas listed ++ [0x5d]) (textItems_eq items)

theorem text_obj (members : List (Str × Json)) :
    text (.obj members) =
      0x7b :: commas (members.map fun member => quotedAll member.1 ++ 0x3a :: text member.2) ++ [0x7d] :=
  congrArg (fun listed => 0x7b :: commas listed ++ [0x7d]) (textMembers_eq members)

/-! ### Escaping after writing -/

theorem escapeSurrogates_append (first second : Str) :
    escapeSurrogates (first ++ second) = escapeSurrogates first ++ escapeSurrogates second :=
  List.flatMap_append

theorem escapeSurrogates_cons {point : Nat} (plain : isSurrogate point = false) (rest : Str) :
    escapeSurrogates (point :: rest) = point :: escapeSurrogates rest := by
  unfold escapeSurrogates
  rw [List.flatMap_cons, plain]
  rfl

theorem escapeSurrogates_plain {text : Str} (plain : ∀ point ∈ text, isSurrogate point = false) :
    escapeSurrogates text = text := by
  induction text with
  | nil => rfl
  | cons point rest ih =>
      rw [escapeSurrogates_cons (plain point List.mem_cons_self),
        ih fun other listed => plain other (List.mem_cons_of_mem _ listed)]

theorem not_surrogate_of_lt {point : Nat} (small : point < 0xd800) : isSurrogate point = false := by
  simp only [isSurrogate, isHigh, isLow, Bool.or_eq_false_iff, Bool.and_eq_false_imp,
    decide_eq_true_eq, decide_eq_false_iff_not]
  omega

theorem hexDigit_lt {digit : Nat} (small : digit < 0x10) : hexDigit digit < 0x80 := by
  unfold hexDigit
  split <;> omega

theorem hexEscape_lt {point unit : Nat} (listed : unit ∈ hexEscape point) : unit < 0x80 := by
  simp only [hexEscape, List.mem_cons, List.not_mem_nil, or_false] at listed
  rcases listed with rfl | rfl | rfl | rfl | rfl | rfl
  · decide
  · decide
  all_goals exact hexDigit_lt (Nat.mod_lt _ (by decide))

/-- The escape of a point is ASCII, or the point itself. -/
theorem escape_cases (point : Nat) :
    (∀ unit ∈ escape point, unit < 0x80) ∨ escape point = [point] := by
  unfold escape
  split
  · exact .inl (by decide)
  split
  · exact .inl (by decide)
  split
  · exact .inl (by decide)
  split
  · exact .inl (by decide)
  split
  · exact .inl (by decide)
  split
  · exact .inl (by decide)
  split
  · exact .inl (by decide)
  split
  · exact .inl fun _ => hexEscape_lt
  · exact .inr rfl

theorem escape_surrogate {point : Nat} (surrogate : isSurrogate point = true) :
    escape point = [point] := by
  simp only [isSurrogate, isHigh, isLow, Bool.or_eq_true, Bool.and_eq_true,
    decide_eq_true_eq] at surrogate
  unfold escape
  repeat rw [if_neg (by omega)]

theorem escapeSurrogates_escape (point : Nat) :
    escapeSurrogates (escape point) = escapeAll point := by
  unfold escapeAll
  split
  case isTrue surrogate =>
    rw [escape_surrogate surrogate]
    unfold escapeSurrogates
    rw [List.flatMap_singleton, if_pos surrogate]
  case isFalse plain =>
    refine escapeSurrogates_plain fun unit listed => ?_
    rcases escape_cases point with small | single
    · exact not_surrogate_of_lt ((small unit listed).trans (by decide))
    · rw [single, List.mem_singleton] at listed
      rw [listed]
      exact Bool.not_eq_true _ ▸ plain

theorem escapeSurrogates_quoted (value : Str) :
    escapeSurrogates (quoted value) = quotedAll value := by
  have inner : escapeSurrogates (value.flatMap escape) = value.flatMap escapeAll := by
    induction value with
    | nil => rfl
    | cons point rest ih =>
        rw [List.flatMap_cons, List.flatMap_cons, escapeSurrogates_append, ih,
          escapeSurrogates_escape]
  unfold quoted quotedAll
  rw [List.cons_append, escapeSurrogates_cons (by decide), escapeSurrogates_append, inner]
  rfl

theorem natDigits_lt {value point : Nat} (listed : point ∈ natDigits value) :
    0x30 ≤ point ∧ point ≤ 0x39 := by
  unfold natDigits at listed
  split at listed
  · rw [List.mem_singleton] at listed
    omega
  · obtain ⟨digit, isDigit, rfl⟩ := List.mem_map.mp listed
    have small := Nat.digits_lt_base (by decide : 1 < 10) (List.mem_reverse.mp isDigit)
    omega

theorem escapeSurrogates_int (value : Int) : escapeSurrogates (intText value) = intText value := by
  refine escapeSurrogates_plain fun point listed => not_surrogate_of_lt ?_
  cases value with
  | ofNat value =>
      have := natDigits_lt listed
      omega
  | negSucc value =>
      rcases List.mem_cons.mp listed with rfl | digit
      · decide
      · have := natDigits_lt digit
        omega

theorem commas_cons (part next : Str) (others : List Str) :
    commas (part :: next :: others) = part ++ 0x2c :: commas (next :: others) := rfl

theorem escapeSurrogates_commas (parts : List Str) :
    escapeSurrogates (commas parts) = commas (parts.map escapeSurrogates) := by
  induction parts with
  | nil => rfl
  | cons part rest ih =>
      cases rest with
      | nil => rfl
      | cons next others =>
          rw [List.map_cons, List.map_cons, commas_cons, commas_cons, escapeSurrogates_append,
            escapeSurrogates_cons (by decide), ih, List.map_cons]

/-- Escaping what `json.dumps` wrote is writing the sorted value with everything escaped. -/
theorem escapeSurrogates_dumps (value : Json) : escapeSurrogates (dumps value) = text (sortKeys value) := by
  induction value using Json.induct with
  | null => rfl
  | bool value => cases value <;> rfl
  | int value => exact escapeSurrogates_int value
  | str value => exact escapeSurrogates_quoted value
  | arr items ih =>
      have each : (items.map dumps).map escapeSurrogates = (items.map sortKeys).map text := by
        rw [List.map_map, List.map_map]
        exact List.map_congr_left ih
      rw [dumps_arr, sortKeys_arr, text_arr, List.cons_append,
        escapeSurrogates_cons (by decide), escapeSurrogates_append, escapeSurrogates_commas, each]
      rfl
  | obj members ih =>
      have each : ((sortMembers members).map fun member =>
            quoted member.1 ++ 0x3a :: dumps member.2).map escapeSurrogates =
          (sortMembers members).map fun member =>
            quotedAll member.1 ++ 0x3a :: text (sortKeys member.2) := by
        rw [List.map_map]
        refine List.map_congr_left fun member listed => ?_
        have sorted := ih member ((perm_sortMembers members).mem_iff.mp listed)
        dsimp only [Function.comp_apply]
        rw [escapeSurrogates_append, escapeSurrogates_cons (by decide), sorted,
          escapeSurrogates_quoted]
      rw [dumps_obj, sortKeys_obj, text_obj, sortValues_eq, sortMembers_map,
        sortMembers_map, List.map_map, List.map_map, List.cons_append,
        escapeSurrogates_cons (by decide), escapeSurrogates_append, escapeSurrogates_commas]
      exact congrArg (fun inside => 0x7b :: (commas inside ++ [0x7d])) each

/-! ### Reading strings -/

/-- The points that are written by their numbers. -/
def byNumber (point : Nat) : Bool :=
  isSurrogate point ||
    decide (point < 0x20 ∧ point ≠ 0x08 ∧ point ≠ 0x09 ∧ point ≠ 0x0a ∧ point ≠ 0x0c ∧ point ≠ 0x0d)

theorem hexValue_hexDigit {digit : Nat} (small : digit < 0x10) :
    hexValue (hexDigit digit) = some digit := by
  unfold hexDigit hexValue
  split
  · rw [if_pos (by omega)]
    exact congrArg some (by omega)
  · rw [if_neg (by omega), if_pos (by omega)]
    exact congrArg some (by omega)

theorem scanString_hexEscape {point : Nat} (small : point < 0x10000) (rest : Str) :
    scanString (hexEscape point ++ rest) =
      (scanString rest).map fun scanned => ((point, true) :: scanned.1, scanned.2) := by
  have value : hexValues (hexDigit (point / 0x1000 % 0x10)) (hexDigit (point / 0x100 % 0x10))
      (hexDigit (point / 0x10 % 0x10)) (hexDigit (point % 0x10)) = some point := by
    unfold hexValues
    rw [hexValue_hexDigit (Nat.mod_lt _ (by decide)), hexValue_hexDigit (Nat.mod_lt _ (by decide)),
      hexValue_hexDigit (Nat.mod_lt _ (by decide)), hexValue_hexDigit (Nat.mod_lt _ (by decide))]
    exact congrArg some (by omega)
  simp only [hexEscape, List.cons_append, List.nil_append, scanString, value]
  cases scanString rest <;> rfl

/-- A point that has an escape of its own. -/
theorem scanString_short {letter point : Nat} (isShort : unescape letter = some point)
    (notNumber : letter ≠ 0x75) (rest : Str) :
    scanString (0x5c :: letter :: rest) =
      (scanString rest).map fun scanned => ((point, false) :: scanned.1, scanned.2) := by
  rw [scanString.eq_def]
  dsimp only
  rw [if_neg (by decide), if_pos rfl]
  split
  case h_1 same =>
    rw [List.cons.injEq] at same
    exact absurd same.1 notNumber
  case h_2 same =>
    obtain ⟨rfl, rfl⟩ := List.cons.inj same
    rw [isShort]
    cases scanString rest <;> rfl
  case h_3 same => cases same

/-- One point, as it is written, is read as that point. -/
theorem scanString_escapeAll (point : Nat) (rest : Str) :
    scanString (escapeAll point ++ rest) =
      (scanString rest).map fun scanned => ((point, byNumber point) :: scanned.1, scanned.2) := by
  unfold escapeAll byNumber
  by_cases surrogate : isSurrogate point = true
  · rw [if_pos surrogate, surrogate, Bool.true_or]
    simp only [isSurrogate, isHigh, isLow, Bool.or_eq_true, Bool.and_eq_true,
      decide_eq_true_eq] at surrogate
    exact scanString_hexEscape (by omega) rest
  · rw [if_neg surrogate]
    rw [Bool.not_eq_true] at surrogate
    rw [surrogate, Bool.false_or]
    by_cases special : point = 0x5c ∨ point = 0x22 ∨ point = 0x08 ∨ point = 0x0c ∨ point = 0x0a ∨
        point = 0x0d ∨ point = 0x09
    · have plain : decide (point < 0x20 ∧ point ≠ 0x08 ∧ point ≠ 0x09 ∧ point ≠ 0x0a ∧
          point ≠ 0x0c ∧ point ≠ 0x0d) = false := by
        rw [decide_eq_false_iff_not]
        omega
      rw [plain]
      rcases special with rfl | rfl | rfl | rfl | rfl | rfl | rfl <;>
        exact scanString_short rfl (by decide) rest
    · simp only [not_or] at special
      unfold escape
      repeat rw [if_neg (by omega)]
      by_cases control : point < 0x20
      · rw [if_pos control, decide_eq_true (by omega)]
        exact scanString_hexEscape (by omega) rest
      · rw [if_neg control, decide_eq_false (by omega)]
        exact scanString_plain (by omega) special.2.1 special.1 rest

theorem scanString_written (value rest : Str) :
    scanString (value.flatMap escapeAll ++ 0x22 :: rest) =
      some (value.map fun point => (point, byNumber point), rest) := by
  induction value with
  | nil =>
      rw [scanString.eq_def]
      rfl
  | cons point others ih =>
      rw [List.flatMap_cons, List.append_assoc, scanString_escapeAll, ih]
      rfl

/-- No two of its points were one before. -/
theorem pairUp_written {value : Str} (paired : Paired value) :
    pairUp (value.map fun point => (point, byNumber point)) = value := by
  unfold Paired at paired
  induction value with
  | nil => rfl
  | cons point rest ih =>
      cases rest with
      | nil => rfl
      | cons next others =>
          rw [List.isChain_cons_cons] at paired
          rw [List.map_cons, List.map_cons, pairUp, if_neg]
          · exact congrArg (point :: ·) (ih paired.2)
          · simp only [Bool.and_eq_true]
            exact fun both => paired.1 ⟨both.1.2, both.2⟩

theorem readString_written {value : Str} (paired : Paired value) (rest : Str) :
    readString (value.flatMap escapeAll ++ 0x22 :: rest) = some (value, rest) := by
  unfold readString
  rw [scanString_written, Option.map_some, pairUp_written paired]

/-! ### Reading numbers -/

/-- What may follow a number. -/
def Stops (rest : Str) : Prop :=
  isFloatTail rest = false ∧ ∀ point ∈ rest.head?, isDigit point = false

theorem foldl_digits (digits : List Nat) :
    (digits.reverse.map (0x30 + ·)).foldl (fun value digit => value * 10 + (digit - 0x30)) 0 =
      Nat.ofDigits 10 digits := by
  induction digits with
  | nil => rfl
  | cons digit rest ih =>
      rw [List.reverse_cons, List.map_append, List.foldl_append, ih, List.map_singleton,
        List.foldl_cons, List.foldl_nil, Nat.ofDigits_cons, Nat.add_sub_cancel_left]
      ring

theorem takeWhile_stops {digits rest : Str} (all : ∀ point ∈ digits, isDigit point = true)
    (stops : Stops rest) : (digits ++ rest).takeWhile isDigit = digits ∧
      (digits ++ rest).dropWhile isDigit = rest := by
  have none : rest.takeWhile isDigit = [] ∧ rest.dropWhile isDigit = rest := by
    cases rest with
    | nil => exact ⟨rfl, rfl⟩
    | cons point others =>
        have stop := stops.2 point rfl
        exact ⟨List.takeWhile_cons_of_neg (by simp [stop]), List.dropWhile_cons_of_neg (by simp [stop])⟩
  rw [List.takeWhile_append_of_pos all, List.dropWhile_append_of_pos all, none.1, none.2,
    List.append_nil]
  exact ⟨rfl, rfl⟩

theorem isDigit_natDigits {value point : Nat} (listed : point ∈ natDigits value) :
    isDigit point = true := by
  have bounds := natDigits_lt listed
  unfold isDigit
  simp only [Bool.and_eq_true, decide_eq_true_eq]
  exact bounds

theorem natDigits_ne_nil (value : Nat) : natDigits value ≠ [] := by
  unfold natDigits
  split
  case isTrue => exact List.cons_ne_nil _ _
  case isFalse positive =>
    intro none
    rw [List.map_eq_nil_iff, List.reverse_eq_nil_iff] at none
    exact Nat.digits_ne_nil_iff_ne_zero.mpr positive none

theorem readNat_written (value : Nat) {rest : Str} (stops : Stops rest) :
    readNat (natDigits value ++ rest) = some (value, rest) := by
  have isDigits : ∀ point ∈ natDigits value, isDigit point = true := fun _ => isDigit_natDigits
  by_cases zero : value = 0
  · subst zero
    change readNat (0x30 :: rest) = some (0, rest)
    unfold readNat
    simp only [stops.1]
    rfl
  · have written : natDigits value = (Nat.digits 10 value).reverse.map (0x30 + ·) := if_neg zero
    have leading : ∀ point ∈ (natDigits value).head?, point ≠ 0x30 := by
      intro point first
      rw [written, List.head?_map, List.head?_reverse] at first
      obtain ⟨digit, last, rfl⟩ := Option.map_eq_some_iff.mp first
      have nonzero := Nat.getLast_digit_ne_zero 10 zero
      rw [List.getLast?_eq_some_getLast (Nat.digits_ne_nil_iff_ne_zero.mpr zero)] at last
      rw [Option.some.inj last] at nonzero
      omega
    have folds : (natDigits value).foldl (fun value digit => value * 10 + (digit - 0x30)) 0 =
        value := by
      rw [written, foldl_digits, Nat.ofDigits_digits]
    cases digits : natDigits value with
    | nil => exact absurd digits (natDigits_ne_nil value)
    | cons first others =>
        rw [digits] at isDigits leading folds
        have tail := takeWhile_stops (fun point listed => isDigits point (List.mem_cons_of_mem _ listed))
          stops
        unfold readNat
        rw [List.cons_append]
        dsimp only
        rw [isDigits first List.mem_cons_self, if_neg (by decide), if_neg (leading first rfl), tail.1,
          tail.2, stops.1, if_neg (by decide), folds]

theorem readInt_written (value : Int) {rest : Str} (stops : Stops rest) :
    readInt (intText value ++ rest) = some (value, rest) := by
  cases value with
  | ofNat value =>
      have read := readNat_written value stops
      rw [intText]
      unfold readInt
      split
      case h_1 minus =>
        -- A number that is not negative starts with a digit.
        cases digits : natDigits value with
        | nil => exact absurd digits (natDigits_ne_nil value)
        | cons first others =>
            have bounds := natDigits_lt (digits ▸ List.mem_cons_self : first ∈ natDigits value)
            rw [digits, List.cons_append, List.cons.injEq] at minus
            omega
      case h_2 =>
        rw [read]
        rfl
  | negSucc value =>
      rw [intText, List.cons_append, readInt, readNat_written (value + 1) stops]
      rfl

/-! ### Reading values -/

/-- A point that starts a value: no space, and no end of an array or object. -/
def Opens (point : Nat) : Prop :=
  point ≠ 0x20 ∧ point ≠ 0x09 ∧ point ≠ 0x0a ∧ point ≠ 0x0d ∧ point ≠ 0x5d ∧ point ≠ 0x7d

instance : DecidablePred Opens := fun _ => inferInstanceAs (Decidable (_ ∧ _))

theorem skip_cons {point : Nat} (opens : Opens point) (rest : Str) :
    skip (point :: rest) = point :: rest := by
  obtain ⟨a, b, c, d, _⟩ := opens
  refine List.dropWhile_cons_of_neg ?_
  simp only [Bool.or_eq_true, decide_eq_true_eq]
  omega

theorem text_opens (value : Json) : ∃ first rest, text value = first :: rest ∧ Opens first := by
  cases value with
  | null => exact ⟨0x6e, ascii "ull", rfl, by decide⟩
  | bool value =>
      cases value with
      | true => exact ⟨0x74, ascii "rue", rfl, by decide⟩
      | false => exact ⟨0x66, ascii "alse", rfl, by decide⟩
  | str value => exact ⟨_, _, rfl, by decide⟩
  | arr items => exact ⟨_, _, rfl, by decide⟩
  | obj members => exact ⟨_, _, rfl, by decide⟩
  | int value =>
      cases value with
      | negSucc value => exact ⟨_, _, rfl, by decide⟩
      | ofNat value =>
          obtain ⟨first, rest, digits⟩ := List.exists_cons_of_ne_nil (natDigits_ne_nil value)
          have bounds := natDigits_lt (digits ▸ List.mem_cons_self : first ∈ natDigits value)
          refine ⟨first, rest, digits, ?_⟩
          unfold Opens
          omega

theorem skip_text (value : Json) (rest : Str) : skip (text value ++ rest) = text value ++ rest := by
  obtain ⟨first, others, written, opens⟩ := text_opens value
  rw [written, List.cons_append]
  exact skip_cons opens _

theorem skip_commas {first : Nat} (opens : Opens first) (others : Str) (parts : List Str)
    (rest : Str) :
    skip (commas ((first :: others) :: parts) ++ rest) = commas ((first :: others) :: parts) ++ rest := by
  cases parts with
  | nil => exact skip_cons opens _
  | cons next more => exact skip_cons opens _

/-- A value is read where it is written, with fuel for its length. -/
def Reads (value : Json) : Prop :=
  ∀ fuel rest, (text value).length ≤ fuel → Stops rest →
    readValue fuel (text value ++ rest) = some (value, rest)

theorem stops_cons {point : Nat} (ends : point = 0x2c ∨ point = 0x5d ∨ point = 0x7d) (rest : Str) :
    Stops (point :: rest) := by
  rcases ends with rfl | rfl | rfl
  all_goals exact ⟨rfl, fun _ first => by cases first; rfl⟩

theorem readItems_written {items : List Json} (some_ : items ≠ [])
    (reads : ∀ item ∈ items, Reads item) (fuel : Nat) (rest : Str)
    (enough : (commas (textItems items)).length < fuel) :
    readItems fuel (commas (textItems items) ++ 0x5d :: rest) = some (items, rest) := by
  induction items generalizing fuel with
  | nil => exact absurd rfl some_
  | cons item others ih =>
      cases fuel with
      | zero => cases enough
      | succ fuel =>
          have first := reads item List.mem_cons_self
          cases others with
          | nil =>
              change (text item).length < fuel + 1 at enough
              change readItems (fuel + 1) (text item ++ 0x5d :: rest) = some ([item], rest)
              rw [readItems, first fuel _ (by omega) (stops_cons (.inr (.inl rfl)) rest)]
              rfl
          | cons next more =>
              have shape : commas (textItems (item :: next :: more)) =
                  text item ++ 0x2c :: commas (textItems (next :: more)) := rfl
              rw [shape, List.length_append, List.length_cons] at enough
              have tail := ih (List.cons_ne_nil _ _)
                (fun item listed => reads item (List.mem_cons_of_mem _ listed)) fuel (by omega)
              have gap : skip (commas (textItems (next :: more)) ++ 0x5d :: rest) =
                  commas (textItems (next :: more)) ++ 0x5d :: rest := by
                obtain ⟨first, others, written, opens⟩ := text_opens next
                rw [textItems, written]
                exact skip_commas opens others _ _
              rw [shape, List.append_assoc, List.cons_append, readItems,
                first fuel _ (by omega) (stops_cons (.inl rfl) _), Option.bind_some]
              change (readItems fuel (skip (commas (textItems (next :: more)) ++ 0x5d :: rest))).map
                (fun read => (item :: read.1, read.2)) = some (item :: next :: more, rest)
              rw [gap, tail]
              rfl

/-- One member is read, whatever the rest of the object is. -/
theorem readMembers_first {member : Str × Json} (paired : Paired member.1) (reads : Reads member.2)
    {fuel : Nat} (enough : (text member.2).length ≤ fuel) {after : Str} (stops : Stops after) :
    readMembers (fuel + 1) ((quotedAll member.1 ++ 0x3a :: text member.2) ++ after) =
      if (skip after).head? = some 0x7d then some ([member], (skip after).tail)
      else if (skip after).head? = some 0x2c then
        (readMembers fuel (skip (skip after).tail)).map fun read => (member :: read.1, read.2)
      else none := by
  have shape : (quotedAll member.1 ++ 0x3a :: text member.2) ++ after =
      0x22 :: (member.1.flatMap escapeAll ++ 0x22 :: 0x3a :: (text member.2 ++ after)) := by
    simp [quotedAll]
  rw [shape, readMembers, List.head?_cons, if_pos rfl, List.tail_cons,
    readString_written paired, Option.bind_some]
  dsimp only
  rw [skip_cons (by decide), List.head?_cons, if_pos rfl, List.tail_cons, skip_text,
    reads fuel after enough stops, Option.bind_some]

theorem readMembers_written {members : List (Str × Json)} (some_ : members ≠ [])
    (texts : ∀ member ∈ members, Paired member.1) (reads : ∀ member ∈ members, Reads member.2)
    (fuel : Nat) (rest : Str) (enough : (commas (textMembers members)).length < fuel) :
    readMembers fuel (commas (textMembers members) ++ 0x7d :: rest) = some (members, rest) := by
  induction members generalizing fuel with
  | nil => exact absurd rfl some_
  | cons member others ih =>
      cases fuel with
      | zero => cases enough
      | succ fuel =>
          have paired := texts member List.mem_cons_self
          have first := reads member List.mem_cons_self
          cases others with
          | nil =>
              change (quotedAll member.1 ++ 0x3a :: text member.2).length < fuel + 1 at enough
              rw [List.length_append, List.length_cons] at enough
              exact readMembers_first paired first (by omega) (stops_cons (.inr (.inr rfl)) rest)
          | cons next more =>
              have shape : commas (textMembers (member :: next :: more)) =
                  (quotedAll member.1 ++ 0x3a :: text member.2) ++
                    0x2c :: commas (textMembers (next :: more)) := rfl
              rw [shape, List.length_append, List.length_append, List.length_cons,
                List.length_cons] at enough
              have tail := ih (List.cons_ne_nil _ _)
                (fun member listed => texts member (List.mem_cons_of_mem _ listed))
                (fun member listed => reads member (List.mem_cons_of_mem _ listed)) fuel (by omega)
              have gap : skip (commas (textMembers (next :: more)) ++ 0x7d :: rest) =
                  commas (textMembers (next :: more)) ++ 0x7d :: rest :=
                skip_commas (by decide) _ _ _
              rw [shape, List.append_assoc, List.cons_append,
                readMembers_first paired first (by omega) (stops_cons (.inl rfl) _)]
              change (readMembers fuel (skip (commas (textMembers (next :: more)) ++ 0x7d :: rest))).map
                (fun read => (member :: read.1, read.2)) = some (member :: next :: more, rest)
              rw [gap, tail]
              rfl

theorem put_new {Value : Type} {members : List (Str × Value)} {member : Str × Value}
    (fresh : member.1 ∉ members.map Prod.fst) : put members member = members ++ [member] := by
  induction members with
  | nil => rfl
  | cons first rest ih =>
      rw [List.map_cons, List.mem_cons, not_or] at fresh
      rw [put, if_neg (Ne.symm fresh.1), ih fresh.2, List.cons_append]

theorem foldl_put {Value : Type} {members : List (Str × Value)} :
    ∀ {before : List (Str × Value)}, ((before ++ members).map Prod.fst).Nodup →
      members.foldl put before = before ++ members := by
  induction members with
  | nil => exact fun _ => (List.append_nil _).symm
  | cons member rest ih =>
      intro before nodup
      have fresh : member.1 ∉ before.map Prod.fst := by
        rw [List.map_append, List.map_cons, List.nodup_append] at nodup
        exact fun listed => nodup.2.2 _ listed _ List.mem_cons_self rfl
      have same : before ++ member :: rest = before ++ [member] ++ rest := by
        rw [List.append_assoc, List.singleton_append]
      rw [same] at nodup ⊢
      rw [List.foldl_cons, put_new fresh, ih nodup]

theorem dict_of_nodup {Value : Type} {members : List (Str × Value)}
    (nodup : (members.map Prod.fst).Nodup) : dict members = members :=
  foldl_put nodup

theorem intText_first (value : Int) :
    ∃ first others, intText value = first :: others ∧ 0x2d ≤ first ∧ first ≤ 0x39 := by
  cases value with
  | negSucc value => exact ⟨_, _, rfl, by decide, by decide⟩
  | ofNat value =>
      obtain ⟨first, rest, digits⟩ := List.exists_cons_of_ne_nil (natDigits_ne_nil value)
      have bounds := natDigits_lt (digits ▸ List.mem_cons_self : first ∈ natDigits value)
      exact ⟨first, rest, digits, by omega, bounds.2⟩

theorem readValue_int (fuel : Nat) (value : Int) {rest : Str} (stops : Stops rest) :
    readValue (fuel + 1) (intText value ++ rest) = some (.int value, rest) := by
  have read := readInt_written value stops
  obtain ⟨first, others, written, low, high⟩ := intText_first value
  rw [written, List.cons_append] at read ⊢
  have other : ∀ letter word, letter ≠ first → ¬ (letter :: word <+: first :: (others ++ rest)) :=
    fun letter word differ front => differ (List.cons_prefix_cons.mp front).1
  have notNull : ¬ (ascii "null" <+: first :: (others ++ rest)) :=
    other 0x6e (ascii "ull") (by omega)
  have notTrue : ¬ (ascii "true" <+: first :: (others ++ rest)) :=
    other 0x74 (ascii "rue") (by omega)
  have notFalse : ¬ (ascii "false" <+: first :: (others ++ rest)) :=
    other 0x66 (ascii "alse") (by omega)
  rw [readValue, if_neg (by omega), if_neg (by omega), if_neg (by omega), if_neg notNull,
    if_neg notTrue, if_neg notFalse, read]
  rfl

theorem head_opens {first : Nat} (opens : Opens first) (others : Str) (parts : List Str)
    (rest : Str) {close : Nat} (closes : close = 0x5d ∨ close = 0x7d) :
    (commas ((first :: others) :: parts) ++ rest).head? ≠ some close := by
  obtain ⟨_, _, _, _, notArray, notObject⟩ := opens
  have head : (commas ((first :: others) :: parts) ++ rest).head? = some first := by
    cases parts <;> rfl
  rw [head, Ne, Option.some.injEq]
  omega

theorem reads_of_valid {value : Json} (valid : Valid value) : Reads value := by
  induction valid with
  | null =>
      intro fuel rest enough _
      cases fuel with
      | zero => cases enough
      | succ fuel => rfl
  | bool value =>
      intro fuel rest enough _
      cases fuel with
      | zero => cases value <;> cases enough
      | succ fuel => cases value <;> rfl
  | int value =>
      intro fuel rest enough stops
      change (intText value).length ≤ fuel at enough
      cases fuel with
      | zero =>
          obtain ⟨first, others, written, _⟩ := intText_first value
          rw [written] at enough
          cases enough
      | succ fuel => exact readValue_int fuel value stops
  | @str value isText =>
      intro fuel rest enough _
      cases fuel with
      | zero => cases enough
      | succ fuel =>
          change readValue (fuel + 1) ((0x22 :: value.flatMap escapeAll ++ [0x22]) ++ rest) = _
          rw [List.cons_append, List.cons_append, List.append_assoc, List.singleton_append,
            readValue, if_pos rfl, readString_written isText.paired]
          rfl
  | @arr items _ reads =>
      intro fuel rest enough _
      cases fuel with
      | zero => cases enough
      | succ fuel =>
          cases items with
          | nil => rfl
          | cons item others =>
              obtain ⟨first, more, written, opens⟩ := text_opens item
              have inside : textItems (item :: others) = (first :: more) :: textItems others := by
                rw [textItems, written]
              have read := readItems_written (List.cons_ne_nil item others) reads fuel rest
              rw [text, List.cons_append, List.length_cons, List.length_append] at enough
              rw [text, List.cons_append, List.cons_append, List.append_assoc, List.singleton_append,
                readValue, if_neg (by decide), if_pos rfl]
              dsimp only
              have length : (commas (textItems (item :: others))).length < fuel := by
                rw [List.length_singleton] at enough
                omega
              have result := read length
              rw [inside] at result ⊢
              rw [skip_commas opens, if_neg (head_opens opens _ _ _ (.inl rfl)), result]
              rfl
  | @obj members nodup texts _ reads =>
      intro fuel rest enough _
      cases fuel with
      | zero => cases enough
      | succ fuel =>
          cases members with
          | nil => rfl
          | cons member others =>
              have opens : Opens 0x22 := by decide
              have read := readMembers_written (List.cons_ne_nil member others)
                (fun member listed => (texts member listed).paired) reads fuel rest
              rw [text, List.cons_append, List.length_cons, List.length_append] at enough
              have length : (commas (textMembers (member :: others))).length < fuel := by
                rw [List.length_singleton] at enough
                omega
              rw [text, List.cons_append, List.cons_append, List.append_assoc, List.singleton_append,
                readValue, if_neg (by decide), if_neg (by decide), if_pos rfl]
              dsimp only
              have inside : skip (commas (textMembers (member :: others)) ++ 0x7d :: rest) =
                  commas (textMembers (member :: others)) ++ 0x7d :: rest := skip_commas opens _ _ _
              have goes : (commas (textMembers (member :: others)) ++ 0x7d :: rest).head? ≠ some 0x7d :=
                head_opens opens _ _ _ (.inr rfl)
              rw [inside, if_neg goes, read length, Option.map_some, dict_of_nodup nodup]

/-- What is written of a value is read back as that value. -/
theorem loads_text {value : Json} (valid : Valid value) : loads (text value) = some value := by
  have read := reads_of_valid valid ((text value).length + 1) [] (Nat.le_succ _)
    ⟨rfl, fun _ first => by cases first⟩
  have gap := skip_text value []
  rw [List.append_nil] at read gap
  unfold loads
  rw [gap, read]
  rfl

end AifyComms.JsonText
