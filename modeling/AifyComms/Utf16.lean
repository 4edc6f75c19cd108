import Mathlib.Data.List.DropRight
import Mathlib.Data.Char

/-!
Texts as UTF-16. A code point below 0x10000 is one unit, and any other is a pair of
surrogates, which no character of a text is by itself.
-/

namespace AifyComms.Utf16

def isSurrogate (unit : Nat) : Bool := 0xd800 ≤ unit && unit < 0xe000

def units (point : Nat) : List Nat :=
  if point < 0x10000 then [point]
  else [0xd800 + (point - 0x10000) / 0x400, 0xdc00 + (point - 0x10000) % 0x400]

def encode (text : List Char) : List Nat := text.flatMap fun c => units c.toNat

/-! ### One character -/

theorem toNat_not_surrogate (c : Char) : isSurrogate c.toNat = false := by
  have valid : c.toNat < 0xd800 ∨ (0xdfff < c.toNat ∧ c.toNat < 0x110000) := c.valid
  unfold isSurrogate
  rcases valid with low | high
  · simp only [Bool.and_eq_false_imp, decide_eq_true_eq, decide_eq_false_iff_not]
    omega
  · simp only [Bool.and_eq_false_imp, decide_eq_true_eq, decide_eq_false_iff_not]
    omega

/-- A character is one unit that is no surrogate, or two that are. -/
theorem units_cases (c : Char) :
    (c.toNat < 0x10000 ∧ units c.toNat = [c.toNat]) ∨
      (0x10000 ≤ c.toNat ∧ ∃ high low, units c.toNat = [high, low] ∧ isSurrogate high = true ∧
        isSurrogate low = true) := by
  by_cases plain : c.toNat < 0x10000
  · exact .inl ⟨plain, if_pos plain⟩
  · have valid : c.toNat < 0xd800 ∨ (0xdfff < c.toNat ∧ c.toNat < 0x110000) := c.valid
    refine .inr ⟨Nat.le_of_not_lt plain, _, _, if_neg plain, ?_, ?_⟩
    · simp only [isSurrogate, Bool.and_eq_true, decide_eq_true_eq]
      omega
    · simp only [isSurrogate, Bool.and_eq_true, decide_eq_true_eq]
      omega

theorem units_injective {first second : Nat} (same : units first = units second) :
    first = second := by
  unfold units at same
  split at same <;> split at same <;> simp only [List.cons.injEq, reduceCtorEq, and_true,
    and_false] at same <;> omega

theorem units_length_pos (c : Char) : 1 ≤ (units c.toNat).length := by
  rcases units_cases c with ⟨_, one⟩ | ⟨_, high, low, two, _⟩
  · rw [one]
    exact le_refl _
  · rw [two]
    exact Nat.le_succ _

/-! ### Texts -/

@[simp] theorem encode_nil : encode [] = [] := rfl

@[simp] theorem encode_cons (c : Char) (rest : List Char) :
    encode (c :: rest) = units c.toNat ++ encode rest := rfl

@[simp] theorem encode_append (first second : List Char) :
    encode (first ++ second) = encode first ++ encode second := List.flatMap_append

theorem encode_singleton {c : Char} (plain : c.toNat < 0x10000) : encode [c] = [c.toNat] := by
  rw [encode_cons, encode_nil, List.append_nil]
  exact if_pos plain

theorem length_le_encode (text : List Char) : text.length ≤ (encode text).length := by
  induction text with
  | nil => exact le_refl _
  | cons c rest ih =>
      rw [encode_cons, List.length_append, List.length_cons]
      have := units_length_pos c
      omega

/-- What a text starts with, by units, is what it starts with by characters, up to the first
surrogate. -/
theorem encode_plain_prefix {text : List Char} {plain rest : List Nat}
    (bare : ∀ unit ∈ plain, isSurrogate unit = false) (same : encode text = plain ++ rest) :
    ∃ front back, text = front ++ back ∧ encode front = plain ∧ encode back = rest := by
  induction plain generalizing text with
  | nil => exact ⟨[], text, rfl, rfl, same⟩
  | cons unit plain ih =>
      cases text with
      | nil => cases same
      | cons c text =>
          rw [encode_cons] at same
          rcases units_cases c with ⟨_, one⟩ | ⟨_, high, low, two, surrogate, _⟩
          · rw [one, List.cons_append, List.cons_append, List.cons.injEq] at same
            obtain ⟨front, back, rfl, encoded, left⟩ :=
              ih (fun unit listed => bare unit (List.mem_cons_of_mem _ listed)) same.2
            refine ⟨c :: front, back, rfl, ?_, left⟩
            rw [encode_cons, one, encoded, same.1]
            rfl
          · rw [two, List.cons_append, List.cons_append, List.cons_append, List.cons.injEq] at same
            have plainUnit := bare unit List.mem_cons_self
            rw [← same.1, surrogate] at plainUnit
            cases plainUnit

/-- A last unit that is no surrogate is the last character. -/
theorem encode_plain_last {text : List Char} {front : List Nat} {unit : Nat}
    (bare : isSurrogate unit = false) (same : encode text = front ++ [unit]) :
    ∃ before last, text = before ++ [last] ∧ encode before = front ∧ last.toNat = unit := by
  rcases List.eq_nil_or_concat text with rfl | ⟨before, last, rfl⟩
  · cases front <;> cases same
  · rw [List.concat_eq_append, encode_append, encode_cons, encode_nil, List.append_nil] at same
    rcases units_cases last with ⟨_, one⟩ | ⟨_, high, low, two, _, surrogate⟩
    · rw [one] at same
      obtain ⟨sameFront, sameLast⟩ := List.append_inj' same rfl
      exact ⟨before, last, by rw [List.concat_eq_append], sameFront, (List.cons.inj sameLast).1⟩
    · rw [two, show [high, low] = [high] ++ [low] from rfl, ← List.append_assoc] at same
      obtain ⟨_, sameLast⟩ := List.append_inj' same rfl
      rw [(List.cons.inj sameLast).1, bare] at surrogate
      cases surrogate

theorem encode_injective {first second : List Char} (same : encode first = encode second) :
    first = second := by
  induction first generalizing second with
  | nil =>
      cases second with
      | nil => rfl
      | cons c rest =>
          have long := units_length_pos c
          have lengths := congrArg List.length same
          rw [encode_cons, List.length_append, encode_nil, List.length_nil] at lengths
          omega
  | cons c rest ih =>
      cases second with
      | nil =>
          have long := units_length_pos c
          have lengths := congrArg List.length same
          rw [encode_cons, List.length_append, encode_nil, List.length_nil] at lengths
          omega
      | cons d others =>
          rw [encode_cons, encode_cons] at same
          have lengths : (units c.toNat).length = (units d.toNat).length := by
            have first := congrArg List.head? same
            rcases units_cases c with ⟨_, one⟩ | ⟨_, high, low, two, surrogate, _⟩ <;>
              rcases units_cases d with ⟨_, one'⟩ | ⟨_, high', low', two', surrogate', _⟩
            · rw [one, one']
              rfl
            · rw [one, two'] at first
              have bare := toNat_not_surrogate c
              rw [Option.some.inj first, surrogate'] at bare
              cases bare
            · rw [two, one'] at first
              have bare := toNat_not_surrogate d
              rw [← Option.some.inj first, surrogate] at bare
              cases bare
            · rw [two, two']
              rfl
          obtain ⟨sameUnits, sameRest⟩ := List.append_inj same lengths
          rw [ih sameRest, Char.toNat_inj.mp (units_injective sameUnits)]

theorem encode_starts {first second : List Char} (front : first <+: second) :
    encode first <+: encode second := by
  obtain ⟨rest, rfl⟩ := front
  exact ⟨encode rest, (encode_append first rest).symm⟩

end AifyComms.Utf16
