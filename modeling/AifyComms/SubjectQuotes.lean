import AifyComms.DispatchBuffer
import AifyComms.JsText
import AifyComms.Utf16

/-!
A foreign subject as the bridge quotes it, `quoteUntrustedSubject` of `quote-subject.mjs`,
beside the service's `_quote_untrusted_subject`. The service counts and cuts characters and
the bridge UTF-16 units; U+0085 is a space to the service only, and U+FEFF to the bridge
only.
-/

namespace AifyComms.SubjectQuotes
open PyText TextLines DispatchBuffer Utf16

/-! ### The bridge -/

/-- White space and line terminators of JavaScript; all of them are one unit. -/
def isSpaceUnit (n : Nat) : Bool :=
  (0x09 ≤ n && n ≤ 0x0d) || n == 0x20 || n == 0xa0 || n == 0x1680 ||
    (0x2000 ≤ n && n ≤ 0x200a) || n == 0x2028 || n == 0x2029 || n == 0x202f || n == 0x205f ||
    n == 0x3000 || n == 0xfeff

def isControlUnit (unit : Nat) : Bool := unit < 0x20 || unit == 0x7f

/-- `replace(CONTROL_RUN, " ")`; the flag says that a run has begun. -/
def collapseUnits : Bool → List Nat → List Nat
  | _, [] => []
  | inRun, unit :: rest =>
      if isControlUnit unit then
        if inRun then collapseUnits true rest else 0x20 :: collapseUnits true rest
      else unit :: collapseUnits false rest

def trimEnd (units : List Nat) : List Nat := units.rdropWhile isSpaceUnit

def trim (units : List Nat) : List Nat := trimEnd (units.dropWhile isSpaceUnit)

def ellipsis : Nat := 0x2026

/-- `text.slice(0, limit - 1).trimEnd()` and the ellipsis, when the text is too long. -/
def clipUnits (text : List Nat) (limit : Nat) : List Nat :=
  if limit < text.length then trimEnd (text.take (limit - 1)) ++ [ellipsis] else text

def unquote (unit : Nat) : Nat := if unit = 0x22 then 0x27 else unit

def quoteUntrustedSubject (subject : List Nat) (limit : Nat) : List Nat :=
  let text := clipUnits (trim (collapseUnits false subject)) limit
  let text := if text = [] then encode "(no subject)".toList else text
  0x22 :: text.map unquote ++ [0x22]

/-! ### Units and characters -/

theorem surrogate_not_space {unit : Nat} (surrogate : isSurrogate unit = true) :
    isSpaceUnit unit = false := by
  simp only [isSurrogate, Bool.and_eq_true, decide_eq_true_eq] at surrogate
  simp only [isSpaceUnit, Bool.or_eq_false_iff, Bool.and_eq_false_imp, decide_eq_true_eq,
    decide_eq_false_iff_not, beq_eq_false_iff_ne]
  omega

theorem surrogate_not_control {unit : Nat} (surrogate : isSurrogate unit = true) :
    isControlUnit unit = false := by
  simp only [isSurrogate, Bool.and_eq_true, decide_eq_true_eq] at surrogate
  simp only [isControlUnit, Bool.or_eq_false_iff, decide_eq_false_iff_not, beq_eq_false_iff_ne]
  omega

theorem space_not_surrogate {unit : Nat} (space : isSpaceUnit unit = true) :
    isSurrogate unit = false := by
  cases surrogate : isSurrogate unit with
  | false => rfl
  | true =>
      rw [surrogate_not_space surrogate] at space
      cases space

theorem astral_not_space {c : Char} (astral : 0x10000 ≤ c.toNat) :
    isSpaceUnit c.toNat = false := by
  simp only [isSpaceUnit, Bool.or_eq_false_iff, Bool.and_eq_false_imp, decide_eq_true_eq,
    decide_eq_false_iff_not, beq_eq_false_iff_ne]
  omega

theorem collapseUnits_encode (inRun : Bool) (subject : Text) :
    collapseUnits inRun (encode subject) = encode (collapseControls inRun subject) := by
  induction subject generalizing inRun with
  | nil => rfl
  | cons c rest ih =>
      rw [encode_cons]
      rcases units_cases c with ⟨plain, one⟩ | ⟨astral, high, low, two, isHigh, isLow⟩
      · rw [one]
        by_cases control : isControlUnit c.toNat = true
        · have same : isControl c = true := control
          cases inRun <;> simp [collapseUnits, collapseControls, control, same, ih, units]
        · have same : ¬ isControl c = true := control
          simp [collapseUnits, collapseControls, control, same, ih, one]
      · have other : isControl c = false := by
          simp only [isControl, Bool.or_eq_false_iff, decide_eq_false_iff_not, beq_eq_false_iff_ne]
          omega
        simp [two, collapseUnits, collapseControls, surrogate_not_control isHigh,
          surrogate_not_control isLow, other, ih]

theorem dropWhile_encode (text : Text) :
    (encode text).dropWhile isSpaceUnit = encode (text.dropWhile JsText.isSpace) := by
  induction text with
  | nil => rfl
  | cons c rest ih =>
      rw [encode_cons]
      rcases units_cases c with ⟨plain, one⟩ | ⟨astral, high, low, two, isHigh, isLow⟩
      · by_cases space : isSpaceUnit c.toNat = true
        · have char : JsText.isSpace c = true := space
          rw [one, List.singleton_append, List.dropWhile_cons_of_pos space, ih,
            List.dropWhile_cons_of_pos char]
        · have char : ¬ JsText.isSpace c = true := space
          rw [one, List.singleton_append, List.dropWhile_cons_of_neg space,
            List.dropWhile_cons_of_neg char, encode_cons, one]
          rfl
      · have other : ¬ JsText.isSpace c = true := by
          rw [show JsText.isSpace c = isSpaceUnit c.toNat from rfl, astral_not_space astral]
          exact Bool.false_ne_true
        rw [List.dropWhile_cons_of_neg other, encode_cons, two, List.cons_append,
          List.dropWhile_cons_of_neg]
        rw [surrogate_not_space isHigh]
        exact Bool.false_ne_true

theorem trimEnd_encode (text : Text) :
    trimEnd (encode text) = encode (text.rdropWhile JsText.isSpace) := by
  unfold trimEnd
  induction text using List.reverseRecOn with
  | nil => rfl
  | append_singleton text c ih =>
      rw [encode_append, encode_cons, encode_nil, List.append_nil]
      rcases units_cases c with ⟨plain, one⟩ | ⟨astral, high, low, two, isHigh, isLow⟩
      · by_cases space : isSpaceUnit c.toNat = true
        · have char : JsText.isSpace c = true := space
          rw [one, List.rdropWhile_concat_pos _ _ _ space, ih,
            List.rdropWhile_concat_pos _ _ _ char]
        · have char : ¬ JsText.isSpace c = true := space
          rw [one, List.rdropWhile_concat_neg _ _ _ space, List.rdropWhile_concat_neg _ _ _ char,
            encode_append, encode_singleton plain]
      · have other : ¬ JsText.isSpace c = true := by
          rw [show JsText.isSpace c = isSpaceUnit c.toNat from rfl, astral_not_space astral]
          exact Bool.false_ne_true
        have last : ¬ isSpaceUnit low = true := by
          rw [surrogate_not_space isLow]
          exact Bool.false_ne_true
        rw [List.rdropWhile_concat_neg _ _ _ other, two,
          show [high, low] = [high] ++ [low] from rfl, ← List.append_assoc,
          List.rdropWhile_concat_neg _ _ _ last, encode_append, encode_cons, two, encode_nil,
          List.append_nil, List.append_assoc]
        rfl

/-! ### Two notions of space -/

section Spaces
variable {Letter : Type*} (p q : Letter → Bool)

/-- No letter of the spaces at the front is a space to one side only. -/
def Starts (text : List Letter) : Prop :=
  ∀ c ∈ text.takeWhile fun c => p c || q c, p c = true ∧ q c = true

/-- No letter of the spaces at the end is a space to one side only. -/
def Ends (text : List Letter) : Prop :=
  ∀ c ∈ text.rtakeWhile fun c => p c || q c, p c = true ∧ q c = true

theorem rdropWhile_length_le (text : List Letter) : (text.rdropWhile p).length ≤ text.length :=
  (List.rdropWhile_prefix p text).length_le

theorem rdropWhile_eq_iff_ends (text : List Letter) :
    text.rdropWhile p = text.rdropWhile q ↔ Ends p q text := by
  unfold Ends
  induction text using List.reverseRecOn with
  | nil => simp
  | append_singleton text c ih =>
      cases isP : p c <;> cases isQ : q c
      · simp [isP, isQ]
      · have shorter := rdropWhile_length_le q text
        refine iff_of_false (fun same => ?_) (fun ends => ?_)
        · have lengths := congrArg List.length same
          rw [List.rdropWhile_concat_neg _ _ _ (by simp [isP]),
            List.rdropWhile_concat_pos _ _ _ isQ, List.length_append, List.length_singleton]
            at lengths
          omega
        · have both := ends c (by simp [isQ])
          rw [isP] at both
          cases both.1
      · have shorter := rdropWhile_length_le p text
        refine iff_of_false (fun same => ?_) (fun ends => ?_)
        · have lengths := congrArg List.length same
          rw [List.rdropWhile_concat_pos _ _ _ isP,
            List.rdropWhile_concat_neg _ _ _ (by simp [isQ]), List.length_append,
            List.length_singleton] at lengths
          omega
        · have both := ends c (by simp [isP])
          rw [isQ] at both
          cases both.2
      · rw [List.rdropWhile_concat_pos _ _ _ isP, List.rdropWhile_concat_pos _ _ _ isQ, ih,
          List.rtakeWhile_concat_pos _ _ _ (by simp [isP])]
        simp [isP, isQ, or_imp, forall_and]

/-- The spaces at the front are the same, or the first that is not has one side stop there. -/
theorem starts_cases (text : List Letter) :
    (Starts p q text ∧ text.dropWhile p = text.dropWhile q ∧
        ∀ c ∈ (text.dropWhile p).head?, p c = false ∧ q c = false) ∨
      (¬ Starts p q text ∧ ∃ odd rest,
        (p odd = true ∧ q odd = false ∧ text.dropWhile q = odd :: rest) ∨
          (p odd = false ∧ q odd = true ∧ text.dropWhile p = odd :: rest)) := by
  unfold Starts
  induction text with
  | nil => exact .inl (by simp)
  | cons c rest ih =>
      cases isP : p c <;> cases isQ : q c
      · exact .inl (by simp [isP, isQ])
      · refine .inr ⟨fun starts => ?_, c, rest, .inr ⟨isP, isQ, by simp [isP]⟩⟩
        have both := starts c (by simp [isQ])
        rw [isP] at both
        cases both.1
      · refine .inr ⟨fun starts => ?_, c, rest, .inl ⟨isP, isQ, by simp [isQ]⟩⟩
        have both := starts c (by simp [isP])
        rw [isQ] at both
        cases both.2
      · simpa [isP, isQ] using ih

theorem rdropWhile_append_spaces {text spaces : List Letter} (all : ∀ c ∈ spaces, p c = true) :
    (text ++ spaces).rdropWhile p = text.rdropWhile p := by
  induction spaces using List.reverseRecOn with
  | nil => rw [List.append_nil]
  | append_singleton spaces c ih =>
      rw [← List.append_assoc, List.rdropWhile_concat_pos _ _ _ (all c (by simp))]
      exact ih fun d listed => all d (List.mem_append_left _ listed)

/-- A text that starts with no space keeps its first letter. -/
theorem rdropWhile_cons {c : Letter} (solid : p c = false) (rest : List Letter) :
    (c :: rest).rdropWhile p = c :: rest.rdropWhile p := by
  induction rest using List.reverseRecOn with
  | nil => simp [List.rdropWhile_singleton, solid]
  | append_singleton rest d ih =>
      rw [← List.cons_append, List.rdropWhile_concat, List.rdropWhile_concat, ih]
      split <;> simp

/-- A cut that is followed by a solid letter had nothing to strip. -/
theorem cut_solid {text : List Letter} {length : Nat} {last : Letter} (solid : p last = false)
    (after : (text.take length).rdropWhile p ++ [last] <+: text) :
    (text.take length).rdropWhile p = text.take length ∧ (text.take length).length = length := by
  have split : (text.take length).rdropWhile p ++ (text.take length).rtakeWhile p =
      text.take length := List.rdropWhile_append_rtakeWhile
  have whole : (text.take length).rdropWhile p = text.take length := by
    cases spaces : (text.take length).rtakeWhile p with
    | nil => rwa [spaces, List.append_nil] at split
    | cons space rest =>
        have isSpace := List.mem_rtakeWhile_imp (spaces ▸ List.mem_cons_self)
        rw [spaces] at split
        have front : (text.take length).rdropWhile p ++ [space] <+: text := by
          refine List.IsPrefix.trans ⟨rest, ?_⟩ (List.take_prefix length text)
          rw [List.append_assoc, List.singleton_append, split]
        have same := List.prefix_of_prefix_length_le front after (by simp)
        have equal := same.eq_of_length (by simp)
        rw [List.append_cancel_left_eq, List.cons.injEq] at equal
        rw [equal.1, solid] at isSpace
        cases isSpace
  refine ⟨whole, ?_⟩
  rw [whole] at after
  have longer := after.length_le
  rw [List.length_append, List.length_singleton, List.length_take] at longer
  rw [List.length_take]
  omega

end Spaces

/-! ### What each side shows -/

theorem rstrip_eq (text : Text) : rstrip text = text.rdropWhile isSpace := rfl

theorem stripText_stripText (text : Text) : stripText (stripText text) = stripText text := by
  unfold stripText lstrip
  rw [rstrip_eq, rstrip_eq]
  cases front : text.dropWhile isSpace with
  | nil => rfl
  | cons c rest =>
      have solid : isSpace c = false := by
        have head := List.head?_dropWhile_not isSpace text
        rw [front] at head
        simpa using head
      rw [rdropWhile_cons isSpace solid, List.dropWhile_cons_of_neg (by simp [solid]),
        rdropWhile_cons isSpace solid, List.rdropWhile_idempotent]

/-- The service's text of a subject whose spaces at the front are gone. -/
def serviceShown (limit : Nat) (text : Text) : Text :=
  if (rstrip text).length ≤ limit then rstrip text else rstrip (text.take (limit - 1)) ++ ['…']

/-- The bridge's text of it. -/
def bridgeShown (limit : Nat) (text : Text) : List Nat :=
  if limit < (encode (text.rdropWhile JsText.isSpace)).length then
    trimEnd ((encode text).take (limit - 1)) ++ [ellipsis]
  else encode (text.rdropWhile JsText.isSpace)

theorem take_of_starts {Letter : Type*} {front text : List Letter} (within : front <+: text)
    {length : Nat} (long : length ≤ front.length) : front.take length = text.take length := by
  obtain ⟨rest, rfl⟩ := within
  exact (List.take_append_of_le_length long).symm

theorem clipText_stripText (limit : Nat) (text : Text) :
    clipText (stripText text) limit = serviceShown limit (lstrip text) := by
  unfold clipText serviceShown
  rw [stripText_stripText]
  dsimp only [stripText]
  split
  case isTrue => rfl
  case isFalse long =>
    have longer : limit - 1 ≤ (rstrip (lstrip text)).length := by omega
    have cut : (rstrip (lstrip text)).take (limit - 1) = (lstrip text).take (limit - 1) :=
      take_of_starts (List.rdropWhile_prefix isSpace _) longer
    rw [cut]

theorem clipUnits_trim (limit : Nat) (text : Text) :
    clipUnits (trim (encode text)) limit = bridgeShown limit (text.dropWhile JsText.isSpace) := by
  unfold clipUnits bridgeShown trim
  rw [dropWhile_encode, trimEnd_encode]
  split
  case isTrue long =>
    rw [take_of_starts (encode_starts (List.rdropWhile_prefix JsText.isSpace _)) (by omega)]
  case isFalse => rfl

def noSubject : Text := "(no subject)".toList

theorem unquote_encode (text : Text) :
    encode (text.map fun c => if c = '"' then '\'' else c) = (encode text).map unquote := by
  induction text with
  | nil => rfl
  | cons c rest ih =>
      rw [List.map_cons, encode_cons, encode_cons, List.map_append, ih]
      congr 1
      by_cases quote : c = '"'
      · subst quote
        rfl
      · rw [if_neg quote]
        have other : c.toNat ≠ 0x22 := fun same => quote (Char.toNat_inj.mp same)
        rcases units_cases c with ⟨plain, one⟩ | ⟨astral, high, low, two, isHigh, isLow⟩
        · rw [one, List.map_singleton, unquote, if_neg other]
        · simp only [isSurrogate, Bool.and_eq_true, decide_eq_true_eq] at isHigh isLow
          rw [two, List.map_cons, List.map_singleton, unquote, unquote, if_neg (by omega),
            if_neg (by omega)]

/-- The two quotes are the same exactly when what they quote is, quotes made apostrophes. -/
theorem quotes_eq_iff (subject : Text) (limit : Nat) :
    quoteUntrustedSubject (encode subject) limit =
        encode (DispatchBuffer.quoteUntrustedSubject subject limit) ↔
      (if bridgeShown limit ((collapseControls false subject).dropWhile JsText.isSpace) = [] then
          encode noSubject
        else bridgeShown limit ((collapseControls false subject).dropWhile JsText.isSpace)).map
          unquote =
      (encode (orElse (serviceShown limit (lstrip (collapseControls false subject)))
        noSubject)).map unquote := by
  unfold quoteUntrustedSubject DispatchBuffer.quoteUntrustedSubject
  rw [collapseUnits_encode, clipUnits_trim]
  dsimp only
  rw [clipText_stripText, List.cons_append, List.cons_append, encode_cons, encode_append,
    unquote_encode, show units '"'.toNat = [0x22] from rfl, show encode ['"'] = [0x22] from rfl,
    List.singleton_append]
  constructor
  · intro same
    exact (List.append_inj' (List.cons.inj same).2 rfl).1
  · intro same
    exact congrArg (fun middle => 0x22 :: (middle ++ [0x22])) same

/-! ### Cuts of one text -/

theorem prefix_of_unquoted {front other text : List Nat} (within : front <+: text)
    (also : other <+: text) (same : front.map unquote = other.map unquote) : front = other := by
  have lengths := congrArg List.length same
  rw [List.length_map, List.length_map] at lengths
  exact (List.prefix_of_prefix_length_le within also lengths.le).eq_of_length lengths

theorem unquote_ellipsis {unit : Nat} (same : unquote unit = unquote ellipsis) : unit = ellipsis := by
  unfold unquote ellipsis at same
  unfold ellipsis
  split at same
  · cases same
  · simpa using same

/-- A cut with its ellipsis is the same as a cut without. -/
theorem ellipsis_of_unquoted {front other text : List Nat} (within : front <+: text)
    (also : other <+: text) (same : (front ++ [ellipsis]).map unquote = other.map unquote) :
    other = front ++ [ellipsis] := by
  have lengths := congrArg List.length same
  rw [List.length_map, List.length_map, List.length_append, List.length_singleton] at lengths
  obtain ⟨rest, rfl⟩ := List.prefix_of_prefix_length_le within also (by omega)
  rw [List.length_append] at lengths
  obtain ⟨unit, rfl⟩ := List.length_eq_one_iff.mp (by omega : rest.length = 1)
  rw [List.map_append, List.map_append, List.append_cancel_left_eq] at same
  rw [unquote_ellipsis (List.cons.inj same).1.symm]

theorem concat_of_unquoted {front other text : List Nat} (within : front <+: text)
    (also : other <+: text)
    (same : (front ++ [ellipsis]).map unquote = (other ++ [ellipsis]).map unquote) :
    front = other := by
  rw [List.map_append, List.map_append, List.append_cancel_right_eq] at same
  exact prefix_of_unquoted within also same

/-- When the two sides show the same of a text that starts with no space. Nobody clips it,
and the spaces at its end are spaces to both; or only one clips it, and what the other shows
ends at the limit in an ellipsis of its own; or both clip it, the bridge between two
characters, and what the service keeps beyond that is space. -/
def AgreeAt (limit : Nat) (text : Text) : Prop :=
  if (rstrip text).length ≤ limit then
    if (encode (text.rdropWhile JsText.isSpace)).length ≤ limit then
      Ends isSpace JsText.isSpace text
    else ∃ shown, rstrip text = shown ++ ['…'] ∧ (encode (rstrip text)).length = limit ∧
      shown.rdropWhile JsText.isSpace = shown
  else if (encode (text.rdropWhile JsText.isSpace)).length ≤ limit then
    ∃ shown, text.rdropWhile JsText.isSpace = shown ++ ['…'] ∧ shown.length + 1 = limit ∧
      rstrip shown = shown
  else ∃ kept, (encode (text.take kept)).length = limit - 1 ∧
    (∀ c ∈ (text.take (limit - 1)).drop kept, isSpace c = true) ∧
    Ends isSpace JsText.isSpace (text.take kept)

theorem bridge_clips_iff {limit : Nat} {text : Text} (positive : 1 ≤ limit) :
    encode (rstrip text) = trimEnd ((encode text).take (limit - 1)) ++ [ellipsis] ↔
      ∃ shown, rstrip text = shown ++ ['…'] ∧ (encode (rstrip text)).length = limit ∧
        shown.rdropWhile JsText.isSpace = shown := by
  have within : encode (rstrip text) <+: encode text :=
    encode_starts (List.rdropWhile_prefix isSpace text)
  constructor
  · intro same
    have exactly := cut_solid isSpaceUnit rfl (same ▸ within)
    obtain ⟨shown, last, service, front, isLast⟩ := encode_plain_last rfl same
    have dots : last = '…' := Char.toNat_inj.mp isLast
    subst dots
    refine ⟨shown, service, ?_, ?_⟩
    · rw [same, List.length_append, List.length_singleton, trimEnd, exactly.1, exactly.2]
      omega
    · refine encode_injective ?_
      rw [← trimEnd_encode, front]
      exact List.rdropWhile_idempotent _ _
  · rintro ⟨shown, service, length, solid⟩
    have encoded : encode (rstrip text) = encode shown ++ [ellipsis] := by
      rw [service, encode_append, encode_singleton (by decide)]
      rfl
    rw [encoded, List.length_append, List.length_singleton] at length
    have front : encode shown <+: encode text :=
      (List.prefix_append _ _).trans (encoded ▸ within)
    have cut : (encode text).take (limit - 1) = encode shown := by
      rw [← take_of_starts front (by omega), List.take_of_length_le (by omega)]
    rw [encoded, cut, trimEnd_encode, solid]

theorem service_clips_iff {limit : Nat} {text : Text} (positive : 1 ≤ limit) :
    encode (rstrip (text.take (limit - 1)) ++ ['…']) = encode (text.rdropWhile JsText.isSpace) ↔
      ∃ shown, text.rdropWhile JsText.isSpace = shown ++ ['…'] ∧ shown.length + 1 = limit ∧
        rstrip shown = shown := by
  have within : text.rdropWhile JsText.isSpace <+: text := List.rdropWhile_prefix _ text
  constructor
  · intro same
    have bridge := encode_injective same
    have exactly := cut_solid isSpace (by decide) (bridge ▸ within)
    refine ⟨_, bridge.symm, ?_, ?_⟩
    · rw [rstrip_eq, exactly.1, exactly.2]
      omega
    · exact List.rdropWhile_idempotent _ _
  · rintro ⟨shown, bridge, length, solid⟩
    have front : shown <+: text := (List.prefix_append _ _).trans (bridge ▸ within)
    have cut : text.take (limit - 1) = shown := by
      rw [← take_of_starts front (by omega), List.take_of_length_le (by omega)]
    rw [cut, solid, bridge]

theorem space_of_encode {text : Text} (all : ∀ unit ∈ encode text, isSpaceUnit unit = true) :
    ∀ c ∈ text, JsText.isSpace c = true := by
  intro c listed
  have inside : ∀ unit ∈ units c.toNat, isSpaceUnit unit = true := fun unit here =>
    all unit (List.mem_flatMap.mpr ⟨c, listed, here⟩)
  rcases units_cases c with ⟨_, one⟩ | ⟨_, high, low, two, surrogate, _⟩
  · exact inside c.toNat (one ▸ List.mem_cons_self)
  · have space := inside high (two ▸ List.mem_cons_self)
    rw [surrogate_not_space surrogate] at space
    cases space

/-- The spaces that the bridge trims from its cut are characters of the text. -/
theorem cut_at_character {length : Nat} {text : Text} (long : length ≤ (encode text).length)
    (same : encode (rstrip (text.take length)) = trimEnd ((encode text).take length)) :
    ∃ spaces, rstrip (text.take length) ++ spaces <+: text ∧
      (encode (rstrip (text.take length) ++ spaces)).length = length ∧
      ∀ c ∈ spaces, JsText.isSpace c = true := by
  have cut : trimEnd ((encode text).take length) ++
      ((encode text).take length).rtakeWhile isSpaceUnit = (encode text).take length :=
    List.rdropWhile_append_rtakeWhile
  have blank : ∀ unit ∈ ((encode text).take length).rtakeWhile isSpaceUnit,
      isSpaceUnit unit = true := fun unit listed => List.mem_rtakeWhile_imp listed
  obtain ⟨after, whole⟩ : rstrip (text.take length) <+: text :=
    (List.rdropWhile_prefix isSpace _).trans (List.take_prefix length text)
  have encoded : encode after =
      ((encode text).take length).rtakeWhile isSpaceUnit ++ (encode text).drop length := by
    have split : encode (rstrip (text.take length)) ++ encode after =
        encode (rstrip (text.take length)) ++
          (((encode text).take length).rtakeWhile isSpaceUnit ++ (encode text).drop length) := by
      rw [← encode_append, whole, ← List.append_assoc, same, cut, List.take_append_drop]
    exact List.append_cancel_left split
  obtain ⟨spaces, back, rfl, isSpaces, _⟩ := encode_plain_prefix
    (fun unit listed => space_not_surrogate (blank unit listed)) encoded
  refine ⟨spaces, ⟨back, by rw [List.append_assoc, whole]⟩, ?_, ?_⟩
  · rw [encode_append, isSpaces, same, cut, List.length_take, Nat.min_eq_left long]
  · exact space_of_encode (isSpaces ▸ blank)

theorem both_clip_iff {length : Nat} {text : Text} (long : length ≤ text.length) :
    encode (rstrip (text.take length)) = trimEnd ((encode text).take length) ↔
      ∃ kept, (encode (text.take kept)).length = length ∧
        (∀ c ∈ (text.take length).drop kept, isSpace c = true) ∧
        Ends isSpace JsText.isSpace (text.take kept) := by
  have longer : length ≤ (encode text).length := long.trans (length_le_encode text)
  constructor
  · intro same
    obtain ⟨spaces, front, exactly, blank⟩ := cut_at_character longer same
    have cut : rstrip (text.take length) ++ (text.take length).rtakeWhile isSpace =
        text.take length := List.rdropWhile_append_rtakeWhile
    have blankToo : ∀ c ∈ (text.take length).rtakeWhile isSpace, isSpace c = true :=
      fun c listed => List.mem_rtakeWhile_imp listed
    have kept : text.take (rstrip (text.take length) ++ spaces).length =
        rstrip (text.take length) ++ spaces := (List.prefix_iff_eq_take.mp front).symm
    have shorter := length_le_encode (rstrip (text.take length) ++ spaces)
    have inner : spaces <+: (text.take length).rtakeWhile isSpace := by
      have within : rstrip (text.take length) ++ spaces <+:
          rstrip (text.take length) ++ (text.take length).rtakeWhile isSpace := by
        rw [cut]
        exact List.prefix_of_prefix_length_le front (List.take_prefix length text)
          (by rw [List.length_take]; omega)
      exact (List.prefix_append_right_inj _).mp within
    have beyond : (text.take length).drop (rstrip (text.take length)).length =
        (text.take length).rtakeWhile isSpace := by
      have dropped := congrArg (List.drop (rstrip (text.take length)).length) cut
      rw [List.drop_left] at dropped
      exact dropped.symm
    refine ⟨_, kept ▸ exactly, ?_, ?_⟩
    · intro c listed
      rw [List.length_append, ← List.drop_drop, beyond] at listed
      exact blankToo c (List.mem_of_mem_drop listed)
    · rw [kept, ← rdropWhile_eq_iff_ends]
      have solid : (rstrip (text.take length)).rdropWhile JsText.isSpace =
          rstrip (text.take length) := by
        refine encode_injective ?_
        rw [← trimEnd_encode, same]
        exact List.rdropWhile_idempotent _ _
      rw [rdropWhile_append_spaces isSpace fun c listed => blankToo c (inner.subset listed),
        rdropWhile_append_spaces JsText.isSpace blank, solid]
      exact List.rdropWhile_idempotent _ _
  · rintro ⟨kept, exactly, spaces, ends⟩
    have cut : (encode text).take length = encode (text.take kept) := by
      rw [← take_of_starts (encode_starts (List.take_prefix kept text)) exactly.ge,
        List.take_of_length_le exactly.le]
    have shorter := length_le_encode (text.take kept)
    have inner : (text.take length).take kept = text.take kept := by
      rw [List.length_take, exactly] at shorter
      rw [List.take_take]
      exact List.take_eq_take_iff.mpr (by omega)
    have stripped : rstrip (text.take length) = rstrip (text.take kept) := by
      rw [← List.take_append_drop kept (text.take length), inner]
      exact rdropWhile_append_spaces isSpace spaces
    rw [stripped, cut, trimEnd_encode]
    exact congrArg encode ((rdropWhile_eq_iff_ends isSpace JsText.isSpace _).mpr ends)

theorem encode_dots (text : Text) : encode (text ++ ['…']) = encode text ++ [ellipsis] := by
  rw [encode_append]
  rfl

theorem shown_eq_iff {limit : Nat} (positive : 1 ≤ limit) (text : Text) :
    (bridgeShown limit text).map unquote = (encode (serviceShown limit text)).map unquote ↔
      AgreeAt limit text := by
  have service : encode (rstrip text) <+: encode text :=
    encode_starts (List.rdropWhile_prefix isSpace text)
  have bridge : encode (text.rdropWhile JsText.isSpace) <+: encode text :=
    encode_starts (List.rdropWhile_prefix JsText.isSpace text)
  have cutBridge : trimEnd ((encode text).take (limit - 1)) <+: encode text :=
    (List.rdropWhile_prefix isSpaceUnit _).trans (List.take_prefix _ _)
  have cutService : encode (rstrip (text.take (limit - 1))) <+: encode text :=
    encode_starts ((List.rdropWhile_prefix isSpace _).trans (List.take_prefix _ _))
  unfold bridgeShown serviceShown AgreeAt
  by_cases shortService : (rstrip text).length ≤ limit
  · rw [if_pos shortService, if_pos shortService]
    by_cases shortBridge : (encode (text.rdropWhile JsText.isSpace)).length ≤ limit
    · rw [if_neg (Nat.not_lt_of_le shortBridge), if_pos shortBridge, ← rdropWhile_eq_iff_ends]
      refine ⟨fun same => ?_, fun same => ?_⟩
      · exact (encode_injective (prefix_of_unquoted bridge service same)).symm
      · rw [← same]
        rfl
    · rw [if_pos (Nat.lt_of_not_le shortBridge), if_neg shortBridge, ← bridge_clips_iff positive]
      refine ⟨ellipsis_of_unquoted cutBridge service, fun same => ?_⟩
      rw [same]
  · rw [if_neg shortService, if_neg shortService]
    by_cases shortBridge : (encode (text.rdropWhile JsText.isSpace)).length ≤ limit
    · rw [if_neg (Nat.not_lt_of_le shortBridge), if_pos shortBridge, ← service_clips_iff positive,
        encode_dots]
      refine ⟨fun same => (ellipsis_of_unquoted cutService bridge same.symm).symm, fun same => ?_⟩
      rw [same]
    · have long : limit - 1 ≤ text.length := by
        have within := (List.rdropWhile_prefix isSpace text).length_le
        rw [← rstrip_eq] at within
        omega
      rw [if_pos (Nat.lt_of_not_le shortBridge), if_neg shortBridge, ← both_clip_iff long,
        encode_dots]
      refine ⟨fun same => (concat_of_unquoted cutBridge cutService same).symm, fun same => ?_⟩
      rw [same]

/-! ### The first letter -/

theorem space_plain {c : Char} (space : isSpace c = true ∨ JsText.isSpace c = true) :
    c.toNat < 0x10000 ∧ c.toNat ≠ 0x22 ∧ c.toNat ≠ 0x27 := by
  simp only [isSpace, JsText.isSpace, Bool.or_eq_true, Bool.and_eq_true, decide_eq_true_eq,
    beq_iff_eq] at space
  omega

/-- A space is no other character's first unit, nor what a quote becomes. -/
theorem eq_of_first_unit {space c : Char}
    (isEither : isSpace space = true ∨ JsText.isSpace space = true)
    (same : (units space.toNat).head?.map unquote = (units c.toNat).head?.map unquote) :
    space = c := by
  obtain ⟨plain, notQuote, notApostrophe⟩ := space_plain isEither
  have first : units space.toNat = [space.toNat] := if_pos plain
  rw [first, List.head?_cons, Option.map_some, unquote, if_neg notQuote] at same
  rcases units_cases c with ⟨_, one⟩ | ⟨_, high, low, two, surrogate, _⟩
  · rw [one, List.head?_cons, Option.map_some, Option.some.injEq, unquote] at same
    split at same
    · exact absurd same notApostrophe
    · exact Char.toNat_inj.mp same
  · simp only [isSurrogate, Bool.and_eq_true, decide_eq_true_eq] at surrogate
    rw [two, List.head?_cons, Option.map_some, Option.some.injEq, unquote, if_neg (by omega)] at same
    have bare := toNat_not_surrogate space
    rw [same] at bare
    simp only [isSurrogate, Bool.and_eq_false_imp, decide_eq_true_eq, decide_eq_false_iff_not] at bare
    omega

theorem head_rdropWhile {Letter : Type*} {p : Letter → Bool} {text : List Letter} {c : Letter}
    (first : text.head? = some c) (solid : p c = false) : (text.rdropWhile p).head? = some c := by
  cases text with
  | nil => cases first
  | cons d rest =>
      obtain rfl := Option.some.inj first
      rw [rdropWhile_cons p solid]
      rfl

theorem head_take {Letter : Type*} {text : List Letter} {length : Nat} (positive : 1 ≤ length) :
    (text.take length).head? = text.head? := by
  cases length with
  | zero => cases positive
  | succ length => cases text <;> rfl

theorem head_encode (c : Char) (rest : Text) :
    (encode (c :: rest)).head? = (units c.toNat).head? := by
  rw [encode_cons]
  rcases units_cases c with ⟨_, one⟩ | ⟨_, high, low, two, _⟩
  · rw [one]
    rfl
  · rw [two]
    rfl

theorem head_encode_of {text : Text} {c : Char} (first : text.head? = some c) :
    (encode text).head? = (units c.toNat).head? := by
  cases text with
  | nil => cases first
  | cons d rest =>
      obtain rfl := Option.some.inj first
      exact head_encode d rest

/-- The first unit of a character that is no space to the bridge is no space either. -/
theorem first_unit {c : Char} (solid : JsText.isSpace c = false) :
    ∃ unit, (units c.toNat).head? = some unit ∧ isSpaceUnit unit = false := by
  rcases units_cases c with ⟨_, one⟩ | ⟨_, high, low, two, surrogate, _⟩
  · exact ⟨c.toNat, by rw [one]; rfl, solid⟩
  · exact ⟨high, by rw [two]; rfl, surrogate_not_space surrogate⟩

theorem head_bridgeShown {limit : Nat} (several : 2 ≤ limit) {c : Char}
    (solid : JsText.isSpace c = false) (rest : Text) :
    (bridgeShown limit (c :: rest)).head? = (units c.toNat).head? := by
  obtain ⟨unit, first, solidUnit⟩ := first_unit solid
  unfold bridgeShown
  split
  · have cut : ((encode (c :: rest)).take (limit - 1)).head? = some unit := by
      rw [head_take (by omega), head_encode, first]
    rw [first, List.head?_append, trimEnd, head_rdropWhile cut solidUnit]
    rfl
  · rw [rdropWhile_cons JsText.isSpace solid, head_encode]

theorem head_serviceShown {limit : Nat} (several : 2 ≤ limit) {c : Char}
    (solid : isSpace c = false) (rest : Text) :
    (serviceShown limit (c :: rest)).head? = some c := by
  unfold serviceShown
  split
  · exact head_rdropWhile rfl solid
  · have cut : (rstrip ((c :: rest).take (limit - 1))).head? = some c := by
      refine head_rdropWhile ?_ solid
      rw [head_take (by omega)]
      rfl
    rw [List.head?_append, cut]
    rfl

/-- The bridge's text with its fallback. -/
def bridgeText (limit : Nat) (text : Text) : List Nat :=
  if bridgeShown limit text = [] then encode noSubject else bridgeShown limit text

/-- What stands after the spaces of one side starts with none. -/
theorem dropWhile_cases {Letter : Type*} (p : Letter → Bool) (text : List Letter) :
    text.dropWhile p = [] ∨ ∃ c rest, text.dropWhile p = c :: rest ∧ p c = false := by
  cases front : text.dropWhile p with
  | nil => exact .inl rfl
  | cons c rest =>
      have head := List.head?_dropWhile_not p text
      rw [front] at head
      exact .inr ⟨c, rest, rfl, by simpa using head⟩

theorem bridgeText_nil (limit : Nat) : bridgeText limit [] = encode noSubject := rfl

theorem bridgeText_cons {limit : Nat} (several : 2 ≤ limit) {c : Char}
    (solid : JsText.isSpace c = false) (rest : Text) :
    bridgeText limit (c :: rest) = bridgeShown limit (c :: rest) := by
  refine if_neg fun none => ?_
  have head := head_bridgeShown several solid rest
  obtain ⟨unit, first, _⟩ := first_unit solid
  rw [none, first] at head
  cases head

theorem orElse_cons {limit : Nat} (several : 2 ≤ limit) {c : Char} (solid : isSpace c = false)
    (rest : Text) :
    orElse (serviceShown limit (c :: rest)) noSubject = serviceShown limit (c :: rest) := by
  refine if_neg fun none => ?_
  have head := head_serviceShown several solid rest
  rw [none] at head
  cases head

theorem head_bridgeText {limit : Nat} (several : 2 ≤ limit) (text : Text) :
    ∃ c, JsText.isSpace c = false ∧
      (bridgeText limit (text.dropWhile JsText.isSpace)).head? = (units c.toNat).head? := by
  rcases dropWhile_cases JsText.isSpace text with none | ⟨c, rest, front, solid⟩
  · rw [none]
    exact ⟨'(', by decide, rfl⟩
  · rw [front, bridgeText_cons several solid]
    exact ⟨c, solid, head_bridgeShown several solid rest⟩

theorem head_serviceText {limit : Nat} (several : 2 ≤ limit) (text : Text) :
    ∃ c, isSpace c = false ∧
      (encode (orElse (serviceShown limit (lstrip text)) noSubject)).head? =
        (units c.toNat).head? := by
  rcases dropWhile_cases isSpace text with none | ⟨c, rest, front, solid⟩
  · rw [show lstrip text = [] from none]
    exact ⟨'(', by decide, rfl⟩
  · rw [show lstrip text = c :: rest from front, orElse_cons several solid]
    exact ⟨c, solid, head_encode_of (head_serviceShown several solid rest)⟩

/-- When the two sides quote a subject the same: the spaces at its front, its control
characters made spaces, are spaces to both, and they agree on what stands after them. -/
def Agree (subject : Text) (limit : Nat) : Prop :=
  Starts isSpace JsText.isSpace (collapseControls false subject) ∧
    AgreeAt limit (lstrip (collapseControls false subject))

theorem texts_eq_iff {limit : Nat} (several : 2 ≤ limit) (text : Text) :
    (bridgeText limit (text.dropWhile JsText.isSpace)).map unquote =
        (encode (orElse (serviceShown limit (lstrip text)) noSubject)).map unquote ↔
      Starts isSpace JsText.isSpace text ∧ AgreeAt limit (lstrip text) := by
  rcases starts_cases isSpace JsText.isSpace text with
    ⟨starts, front, solid⟩ | ⟨odd, space, rest, stops⟩
  · rw [← front, show text.dropWhile isSpace = lstrip text from rfl, and_iff_right starts]
    rw [show text.dropWhile isSpace = lstrip text from rfl] at solid
    cases stripped : lstrip text with
    | nil =>
        refine iff_of_true rfl ?_
        unfold AgreeAt
        rw [if_pos (show (rstrip []).length ≤ limit from Nat.zero_le _),
          if_pos (show (encode (List.rdropWhile JsText.isSpace [])).length ≤ limit from Nat.zero_le _)]
        exact fun c listed => absurd listed List.not_mem_nil
    | cons c rest =>
        rw [stripped] at solid
        have both := solid c rfl
        rw [bridgeText_cons several both.2, orElse_cons several both.1]
        exact shown_eq_iff (by omega) (c :: rest)
  · refine iff_of_false (fun same => ?_) fun agree => odd agree.1
    have heads := congrArg List.head? same
    rw [List.head?_map, List.head?_map] at heads
    rcases stops with ⟨isP, isQ, front⟩ | ⟨isP, isQ, front⟩
    · obtain ⟨c, solid, head⟩ := head_serviceText several text
      rw [front, bridgeText_cons several isQ, head_bridgeShown several isQ, head] at heads
      rw [eq_of_first_unit (.inl isP) heads, solid] at isP
      cases isP
    · obtain ⟨c, solid, head⟩ := head_bridgeText several text
      have shown : (encode (orElse (serviceShown limit (lstrip text)) noSubject)).head? =
          (units space.toNat).head? := by
        rw [show lstrip text = space :: rest from front, orElse_cons several isP]
        exact head_encode_of (head_serviceShown several isP rest)
      rw [head, shown] at heads
      rw [eq_of_first_unit (.inr isQ) heads.symm, solid] at isQ
      cases isQ

/-- The service and the bridge quote a subject the same exactly when they agree on it. -/
theorem quotes_same_iff (subject : Text) {limit : Nat} (several : 2 ≤ limit) :
    quoteUntrustedSubject (encode subject) limit =
        encode (DispatchBuffer.quoteUntrustedSubject subject limit) ↔ Agree subject limit := by
  rw [quotes_eq_iff]
  exact texts_eq_iff several (collapseControls false subject)

theorem quotes_same_iff_quoted :
    quoteUntrustedSubject (encode "say \"go\"\n".toList) 80 =
        encode (DispatchBuffer.quoteUntrustedSubject "say \"go\"\n".toList 80) ∧
      Agree "say \"go\"\n".toList 80 := by
  have same : quoteUntrustedSubject (encode "say \"go\"\n".toList) 80 =
      encode (DispatchBuffer.quoteUntrustedSubject "say \"go\"\n".toList 80) := by decide
  exact ⟨same, (quotes_same_iff _ (by decide)).mp same⟩

/-- Forty-one characters of two units each: the service shows them all, and the bridge cuts
between the units of the fortieth. -/
theorem emoji_quoted_differently :
    DispatchBuffer.quoteUntrustedSubject (List.replicate 41 '😀') 80 =
        '"' :: List.replicate 41 '😀' ++ ['"'] ∧
      quoteUntrustedSubject (encode (List.replicate 41 '😀')) 80 =
        0x22 :: encode (List.replicate 39 '😀') ++ [0xd83d, ellipsis, 0x22] ∧
      quoteUntrustedSubject (encode (List.replicate 41 '😀')) 80 ≠
        encode (DispatchBuffer.quoteUntrustedSubject (List.replicate 41 '😀') 80) := by
  decide

end AifyComms.SubjectQuotes
