import AifyComms.KeptSub
import AifyComms.TextLines
import Mathlib.Data.List.Forall2

/-!
Credentials taken out of text that is stored and served (service/secret_redaction.py). A first
sweep replaces what follows the word `bearer`, a second one the value after a credential's name
and a separator. Every string of a stored configuration goes through both.

In both patterns what follows a repeated or optional part is never part of it: a name stops at a
character no name has, a gap at one no gap has. Each part has therefore one length at which the
rest can match, and the patterns are read here with that length (`NamedParts` is the second
pattern as it is written). The one character class that needs the Unicode tables is a parameter,
with what the patterns rely on.
-/

namespace AifyComms.SecretRedaction
open PyText TextLines KeptSub

/-- `REDACTED`. -/
def redacted : Text := "[redacted]".toList

/-- The small letter a character counts as where a pattern ignores case. Four characters outside
ASCII count as one inside it: the capital I with a dot, the small i without one, the long s and
the Kelvin sign. -/
def fold (c : Char) : Char :=
  if c.toNat = 0x130 ∨ c.toNat = 0x131 then 'i'
  else if c.toNat = 0x17f then 's'
  else if c.toNat = 0x212a then 'k'
  else c.toLower

def isQuote (c : Char) : Bool := c == '"' || c == '\''

def isSeparator (c : Char) : Bool := c == ':' || c == '='

/-- `[^\s"'&,;}]`. -/
def isValue (c : Char) : Bool := !(isSpace c || ['"', '\'', '&', ',', ';', '}'].contains c)

/-- `[A-Za-z0-9._~+/=-]` with case ignored. -/
def isToken (c : Char) : Bool :=
  (fold c).isAlphanum || ['.', '_', '~', '+', '/', '=', '-'].contains (fold c)

/-- `\w`: what counts as an ASCII letter, digit or underscore is a word character, and spaces and
the marks of the patterns are not. -/
structure Classes where
  isWord : Char → Bool
  word : ∀ c, (fold c).isAlphanum = true ∨ fold c = '_' → isWord c = true
  space : ∀ c, isSpace c = true → isWord c = false
  mark : ∀ c ∈ ['"', '\'', ':', '=', '&', ',', ';', '}'], isWord c = false

/-- `[\w-]`. -/
def Classes.isName (classes : Classes) (c : Char) : Bool := classes.isWord c || c == '-'

/-- `token|api[_-]?key|secret|password|passwd|authorization`. -/
def credentialNames : List Text :=
  ["token", "apikey", "api_key", "api-key", "secret", "password", "passwd",
    "authorization"].map String.toList

/-- `["']?`. -/
def quote : Text → Text
  | [] => []
  | c :: _ => if isQuote c then [c] else []

/-- `["']? \s* [:=] \s* ["']?`. -/
def gapAt (text : Text) : Option Text :=
  let opened := text.drop (quote text).length
  match opened.dropWhile isSpace with
  | [] => none
  | c :: rest =>
      if isSeparator c then
        some (quote text ++ opened.takeWhile isSpace ++
          c :: (rest.takeWhile isSpace ++ quote (rest.dropWhile isSpace)))
      else none

/-- The word a `bearer` scheme starts with, and a value already replaced, are not the value:
`bearer\b|\[redacted\]`. -/
def exempt (classes : Classes) (text : Text) : Bool :=
  ("bearer".toList.isPrefixOf (text.map fold) && !((text.drop 6).head?.any classes.isWord)) ||
    redacted.isPrefixOf (text.map fold)

/-- `[\w-]*?` and a credential's name after it. -/
def endsCredential (name : Text) : Bool :=
  credentialNames.any fun credential => credential.isSuffixOf (name.map fold)

/-- `_NAMED`: the lengths of its first group and of the value. -/
def named (classes : Classes) : Find Char := fun _ text =>
  let name := (text.drop (quote text).length).takeWhile classes.isName
  if endsCredential name then
    match gapAt (text.drop (quote text ++ name).length) with
    | none => none
    | some gap =>
        let kept := quote text ++ name ++ gap
        let rest := text.drop kept.length
        let value := rest.takeWhile isValue
        if exempt classes rest || value.length < 6 then none
        else some (kept.length, value.length)
  else none

/-- `_BEARER`: the lengths of its first group and of the token. -/
def bearer (classes : Classes) : Find Char := fun before text =>
  let rest := text.drop 6
  let spaces := rest.takeWhile isSpace
  let token := (rest.dropWhile isSpace).takeWhile isToken
  if !(before.any classes.isWord) && "bearer".toList.isPrefixOf (text.map fold) &&
      !spaces.isEmpty && 6 ≤ token.length then some (6 + spaces.length, token.length)
  else none

section Items
variable {Item : Type} (classes : Classes) (letter : Item → Char) (marker : List Item)

/-- `redact_secrets` over letters that may carry more than themselves. -/
def redactItems (text : List Item) : List Item :=
  if text.isEmpty then []
  else sub (named classes) letter marker (sub (bearer classes) letter marker text)

end Items

/-- `redact_secrets`. -/
def redactSecrets (classes : Classes) (text : Text) : Text :=
  redactItems classes id redacted text

/-- A stored runtime configuration or state. -/
inductive Config (Other : Type) where
  | text (value : Text)
  | dict (items : List (Text × Config Other))
  | list (items : List (Config Other))
  | other (value : Other)

variable {Other : Type}

mutual

/-- `redact_config`. -/
def redactConfig (classes : Classes) : Config Other → Config Other
  | .text value => .text (redactSecrets classes value)
  | .dict items => .dict (redactValues classes items)
  | .list items => .list (redactList classes items)
  | .other value => .other value

def redactValues (classes : Classes) : List (Text × Config Other) → List (Text × Config Other)
  | [] => []
  | (key, item) :: rest => (key, redactConfig classes item) :: redactValues classes rest

def redactList (classes : Classes) : List (Config Other) → List (Config Other)
  | [] => []
  | item :: rest => redactConfig classes item :: redactList classes rest

end

mutual

/-- The strings of a configuration, at every depth, without the keys. -/
def strings : Config Other → List Text
  | .text value => [value]
  | .dict items => stringsOfValues items
  | .list items => stringsOfList items
  | .other _ => []

def stringsOfValues : List (Text × Config Other) → List Text
  | [] => []
  | (_, item) :: rest => strings item ++ stringsOfValues rest

def stringsOfList : List (Config Other) → List Text
  | [] => []
  | item :: rest => strings item ++ stringsOfList rest

end

/-! ### Characters -/

/-- What a credential's name is written with, as small letters. -/
def isKey (c : Char) : Bool := c.isAlphanum || c == '_' || c == '-'

theorem fold_plain {c : Char} (small : c.toNat < 65 ∨ 90 < c.toNat)
    (far : c.toNat ≠ 0x130 ∧ c.toNat ≠ 0x131 ∧ c.toNat ≠ 0x17f ∧ c.toNat ≠ 0x212a) :
    fold c = c := by
  simp only [fold, far.1, far.2.1, far.2.2.1, far.2.2.2, or_self, if_false]
  unfold Char.toLower
  rw [dif_neg]
  intro upper
  rw [ge_iff_le, UInt32.le_iff_toNat_le, UInt32.le_iff_toNat_le] at upper
  have low : 65 ≤ c.toNat := upper.1
  have high : c.toNat ≤ 90 := upper.2
  omega

theorem fold_space {c : Char} (space : isSpace c = true) : fold c = c := by
  simp only [isSpace, Bool.or_eq_true, Bool.and_eq_true, decide_eq_true_eq, beq_iff_eq] at space
  exact fold_plain (by omega) (by omega)

theorem fold_mark : ∀ c ∈ ['"', '\'', ':', '=', '&', ',', ';', '}'],
    fold c = c ∧ isKey c = false ∧ c ≠ '-' := chars_of_all (by decide)

theorem alphanum_inked {c : Char} (letter : c.isAlphanum = true) : isSpace c = false := by
  have upperA : 'A'.val.toNat = 65 := rfl
  have upperZ : 'Z'.val.toNat = 90 := rfl
  have lowerA : 'a'.val.toNat = 97 := rfl
  have lowerZ : 'z'.val.toNat = 122 := rfl
  have zero : '0'.val.toNat = 48 := rfl
  have nine : '9'.val.toNat = 57 := rfl
  have code : c.toNat = c.val.toNat := rfl
  by_contra space
  rw [Bool.not_eq_false] at space
  simp only [isSpace, Bool.or_eq_true, Bool.and_eq_true, decide_eq_true_eq, beq_iff_eq] at space
  unfold Char.isAlphanum Char.isAlpha Char.isUpper Char.isLower Char.isDigit at letter
  simp only [Bool.or_eq_true, Bool.and_eq_true, decide_eq_true_eq, UInt32.le_iff_toNat_le,
    ge_iff_le] at letter
  omega

theorem isKey_space {c : Char} (space : isSpace c = true) : isKey c = false := by
  by_contra key
  rw [Bool.not_eq_false, isKey, Bool.or_eq_true, Bool.or_eq_true, beq_iff_eq, beq_iff_eq] at key
  rcases key with (letter | rfl) | rfl
  · rw [alphanum_inked letter] at space
    cases space
  · cases space
  · cases space

theorem fold_hyphen {c : Char} (hyphen : fold c = '-') : c = '-' := by
  unfold fold at hyphen
  split_ifs at hyphen
  · cases hyphen
  · cases hyphen
  · cases hyphen
  · exact toLower_plain hyphen (by decide)

section Key
variable {c : Char} (key : isKey (fold c) = true)
include key

theorem key_inked : isSpace c = false := by
  by_contra space
  rw [Bool.not_eq_false] at space
  rw [fold_space space, isKey_space space] at key
  cases key

theorem key_unmarked : c ∉ ['"', '\'', ':', '=', '&', ',', ';', '}'] := by
  intro mark
  rw [(fold_mark c mark).1, (fold_mark c mark).2.1] at key
  cases key

theorem key_isQuote : isQuote c = false := by
  have unmarked := key_unmarked key
  simp only [List.mem_cons, not_or] at unmarked
  simp [isQuote, unmarked]

theorem key_isSeparator : isSeparator c = false := by
  have unmarked := key_unmarked key
  simp only [List.mem_cons, not_or] at unmarked
  simp [isSeparator, unmarked]

theorem key_isValue : isValue c = true := by
  have unmarked := key_unmarked key
  simp only [List.mem_cons, not_or] at unmarked
  simp [isValue, key_inked key, unmarked]

theorem key_isName (classes : Classes) : classes.isName c = true := by
  rw [isKey, Bool.or_eq_true, Bool.or_eq_true, beq_iff_eq, beq_iff_eq] at key
  rw [Classes.isName, Bool.or_eq_true, beq_iff_eq]
  rcases key with word | hyphen
  · exact .inl (classes.word c word)
  · exact .inr (fold_hyphen hyphen)

theorem key_isToken : isToken c = true := by
  rw [isKey, Bool.or_eq_true, Bool.or_eq_true, beq_iff_eq, beq_iff_eq] at key
  rcases key with (letter | underscore) | hyphen
  · simp [isToken, letter]
  · simp [isToken, underscore]
  · simp [isToken, hyphen]

end Key

/-- What a gap is written with. -/
def isGapChar (c : Char) : Bool := isQuote c || isSpace c || isSeparator c

theorem gapChar_cases {c : Char} (gap : isGapChar c = true) :
    isSpace c = true ∨ c ∈ ['"', '\'', ':', '='] := by
  simp only [isGapChar, isQuote, isSeparator, Bool.or_eq_true, beq_iff_eq] at gap
  simp only [List.mem_cons, List.not_mem_nil, or_false]
  rcases gap with (quote | space) | separator
  · exact .inr (quote.elim .inl fun single => .inr (.inl single))
  · exact .inl space
  · exact .inr (.inr (.inr separator))

theorem key_isGapChar {c : Char} (key : isKey (fold c) = true) : isGapChar c = false := by
  simp [isGapChar, key_isQuote key, key_inked key, key_isSeparator key]

theorem gapChar_isName (classes : Classes) {c : Char} (gap : isGapChar c = true) :
    classes.isName c = false := by
  have other : classes.isWord c = false ∧ c ≠ '-' := by
    rcases gapChar_cases gap with space | mark
    · exact ⟨classes.space c space, by rintro rfl; cases space⟩
    · have all : c ∈ ['"', '\'', ':', '=', '&', ',', ';', '}'] :=
        List.mem_append_left ['&', ',', ';', '}'] mark
      exact ⟨classes.mark c all, (fold_mark c all).2.2⟩
  simp [Classes.isName, other]

theorem gapChar_fold {c : Char} (gap : isGapChar c = true) : fold c ≠ 'b' := by
  rcases gapChar_cases gap with space | mark
  · rw [fold_space space]
    rintro rfl
    cases space
  · have letters : ∀ c ∈ ['"', '\'', ':', '='], fold c ≠ 'b' := chars_of_all (by decide)
    exact letters c mark

/-! ### The gap between a name and its value -/

theorem quote_append {lead rest : Text} (only : quote lead = lead)
    (ends : ∀ c ∈ rest.head?, isQuote c = false) : quote (lead ++ rest) = lead := by
  cases lead with
  | nil =>
      cases rest with
      | nil => rfl
      | cons c rest => simp [quote, ends c rfl]
  | cons c lead =>
      rw [quote] at only
      split_ifs at only with mark
      obtain rfl := (List.cons_eq_cons.mp only).2.symm
      simp [quote, mark]

theorem quote_drop (text : Text) : quote text ++ text.drop (quote text).length = text := by
  cases text with
  | nil => rfl
  | cons c rest =>
      rw [quote]
      split_ifs <;> rfl

theorem quote_quote (text : Text) : quote (quote text) = quote text := by
  cases text with
  | nil => rfl
  | cons c rest =>
      rw [quote]
      split_ifs with mark
      · simp [quote, mark]
      · rfl

theorem isQuote_of_mem {lead : Text} (only : quote lead = lead) : ∀ c ∈ lead, isQuote c = true := by
  cases lead with
  | nil => simp
  | cons c lead =>
      rw [quote] at only
      split_ifs at only with mark
      obtain rfl := (List.cons_eq_cons.mp only).2.symm
      simpa using mark

/-- An optional quote, spaces, a separator, spaces and an optional quote. -/
def IsGap (gap : Text) : Prop :=
  ∃ opening before separator after closing,
    gap = opening ++ (before ++ separator :: (after ++ closing)) ∧ quote opening = opening ∧
      (∀ c ∈ before, isSpace c = true) ∧ isSeparator separator = true ∧
      (∀ c ∈ after, isSpace c = true) ∧ quote closing = closing

theorem IsGap.chars {gap : Text} (shape : IsGap gap) : ∀ c ∈ gap, isGapChar c = true := by
  obtain ⟨opening, before, separator, after, closing, rfl, quoted, spaces, mark, more, closed⟩ :=
    shape
  intro c inside
  simp only [List.mem_append, List.mem_cons] at inside
  rw [isGapChar, Bool.or_eq_true, Bool.or_eq_true]
  rcases inside with inside | inside | rfl | inside | inside
  · exact .inl (.inl (isQuote_of_mem quoted c inside))
  · exact .inl (.inr (spaces c inside))
  · exact .inr mark
  · exact .inl (.inr (more c inside))
  · exact .inl (.inl (isQuote_of_mem closed c inside))

theorem IsGap.ne_nil {gap : Text} (shape : IsGap gap) : gap ≠ [] := by
  obtain ⟨opening, before, separator, after, closing, rfl, -⟩ := shape
  simp

theorem isQuote_cases {c : Char} (mark : isQuote c = true) : c = '"' ∨ c = '\'' := by
  simpa [isQuote] using mark

theorem isSeparator_cases {c : Char} (mark : isSeparator c = true) : c = ':' ∨ c = '=' := by
  simpa [isSeparator] using mark

theorem space_isQuote {c : Char} (space : isSpace c = true) : isQuote c = false := by
  by_contra mark
  rw [Bool.not_eq_false] at mark
  rcases isQuote_cases mark with rfl | rfl <;> cases space

theorem value_plain {c : Char} (value : isValue c = true) : isQuote c = false ∧ isSpace c = false := by
  constructor
  · by_contra mark
    rw [Bool.not_eq_false] at mark
    rcases isQuote_cases mark with rfl | rfl <;> cases value
  · by_contra space
    rw [Bool.not_eq_false] at space
    rw [isValue, space] at value
    cases value

/-- A gap is read whole before a value. -/
theorem gapAt_append {gap rest : Text} {first : Char} (shape : IsGap gap)
    (value : isValue first = true) : gapAt (gap ++ first :: rest) = some gap := by
  obtain ⟨opening, before, separator, after, closing, rfl, quoted, spaces, mark, more, closed⟩ :=
    shape
  obtain ⟨unquoted, inked⟩ := value_plain value
  have sign : isQuote separator = false ∧ isSpace separator = false := by
    rcases isSeparator_cases mark with rfl | rfl <;> decide
  have parts : opening ++ (before ++ separator :: (after ++ closing)) ++ first :: rest =
      opening ++ (before ++ separator :: (after ++ (closing ++ first :: rest))) := by simp
  have opens : ∀ c ∈ (before ++ separator :: (after ++ (closing ++ first :: rest))).head?,
      isQuote c = false := by
    intro c head
    cases before with
    | nil =>
        obtain rfl := Option.some_inj.mp head
        exact sign.1
    | cons d before =>
        obtain rfl := Option.some_inj.mp head
        exact space_isQuote (spaces d List.mem_cons_self)
  have stops : ∀ c ∈ (closing ++ first :: rest).head?, isSpace c = false := by
    intro c head
    cases closing with
    | nil =>
        obtain rfl := Option.some_inj.mp head
        exact inked
    | cons d closing =>
        obtain rfl := Option.some_inj.mp head
        have quote := isQuote_of_mem closed d List.mem_cons_self
        rcases isQuote_cases quote with rfl | rfl <;> decide
  have ends : ∀ c ∈ (first :: rest).head?, isQuote c = false := by simp [unquoted]
  have sep : ∀ c ∈ (separator :: (after ++ (closing ++ first :: rest))).head?,
      isSpace c = false := by simp [sign.2]
  rw [parts, gapAt, quote_append quoted opens]
  simp only [List.drop_left, dropWhile_run spaces sep, takeWhile_run spaces sep, mark, if_true,
    takeWhile_run more stops, dropWhile_run more stops, quote_append closed ends]
  rw [List.append_assoc]

theorem gapAt_some {text gap : Text} (found : gapAt text = some gap) :
    IsGap gap ∧ ∃ rest, text = gap ++ rest := by
  rw [gapAt] at found
  split at found
  · cases found
  · next separator rest shape =>
    split_ifs at found with mark
    obtain rfl := Option.some_inj.mp found
    have whole := quote_drop text
    have spaces := List.takeWhile_append_dropWhile (p := isSpace)
      (l := text.drop (quote text).length)
    have more := List.takeWhile_append_dropWhile (p := isSpace) (l := rest)
    have closed := quote_drop (rest.dropWhile isSpace)
    constructor
    · refine ⟨quote text, _, separator, _, _, by rw [List.append_assoc], quote_quote text,
        fun c => List.mem_takeWhile_imp, mark, fun c => List.mem_takeWhile_imp, quote_quote _⟩
    · refine ⟨(rest.dropWhile isSpace).drop (quote (rest.dropWhile isSpace)).length, ?_⟩
      rw [shape] at spaces
      rw [List.append_assoc, List.append_assoc, List.cons_append, List.append_assoc, closed, more,
        spaces, whole]

/-! ### Credentials -/

/-- A credential's name, a gap and a value of six characters or more, up to where it ends. The
value is neither the scheme word nor a value already replaced. -/
structure Credential (classes : Classes) (name gap value after : Text) : Prop where
  listed : name.map fold ∈ credentialNames
  shape : IsGap gap
  chars : ∀ c ∈ value, isValue c = true
  long : 6 ≤ value.length
  ends : ∀ c ∈ after.head?, isValue c = false
  held : exempt classes value = false

section Credential
variable {classes : Classes} {name gap value after : Text}

theorem isKey_name (listed : name.map fold ∈ credentialNames) :
    ∀ c ∈ name, isKey (fold c) = true := by
  intro c inside
  have keys : ∀ d ∈ credentialNames.flatten, isKey d = true := chars_of_all (by decide)
  exact keys _ (List.mem_flatten_of_mem listed (List.mem_map_of_mem inside))

theorem name_ne_nil (listed : name.map fold ∈ credentialNames) : name ≠ [] := by
  rintro rfl
  exact absurd listed (by decide)

theorem ending_cases {c : Char} (ending : isValue c = false) :
    isSpace c = true ∨ c ∈ ['"', '\'', '&', ',', ';', '}'] := by
  rw [isValue, Bool.not_eq_false', Bool.or_eq_true, List.contains_iff_mem] at ending
  exact ending

theorem ending_fold {c : Char} (ending : isValue c = false) : fold c = c := by
  rcases ending_cases ending with space | mark
  · exact fold_space space
  · have same : ∀ c ∈ ['"', '\'', '&', ',', ';', '}'], fold c = c :=
      chars_of_all (by decide)
    exact same c mark

theorem ending_isWord {c : Char} (ending : isValue c = false) : classes.isWord c = false := by
  rcases ending_cases ending with space | mark
  · exact classes.space c space
  · have marks : ['"', '\'', '&', ',', ';', '}'] ⊆ ['"', '\'', ':', '=', '&', ',', ';', '}'] := by
      decide
    exact classes.mark c (marks mark)

/-- What a value starts with is not seen past its end. -/
theorem starts_append {pattern : Text} (values : ∀ c ∈ pattern, isValue c = true)
    (ends : ∀ c ∈ after.head?, isValue c = false) :
    pattern.isPrefixOf ((value ++ after).map fold) = pattern.isPrefixOf (value.map fold) := by
  rw [Bool.eq_iff_iff, List.isPrefixOf_iff_prefix, List.isPrefixOf_iff_prefix, List.map_append]
  refine ⟨fun starts => ?_, fun starts => starts.trans (List.prefix_append _ _)⟩
  rcases List.prefix_or_prefix_of_prefix starts (List.prefix_append _ _) with inside | ⟨more, rfl⟩
  · exact inside
  · rw [List.prefix_append_right_inj] at starts
    cases more with
    | nil => simp
    | cons d more =>
        cases after with
        | nil => cases List.prefix_nil.mp starts
        | cons c after =>
            have ending := ends c rfl
            obtain ⟨rfl, -⟩ := List.cons_prefix_cons.mp starts
            have inside := values (fold c) (by simp)
            rw [ending_fold ending, ending] at inside
            cases inside

/-- Whether a value is exempt is seen from the value alone. -/
theorem exempt_append (long : 6 ≤ value.length) (ends : ∀ c ∈ after.head?, isValue c = false) :
    exempt classes (value ++ after) = exempt classes value := by
  have boundary : ((value ++ after).drop 6).head?.any classes.isWord =
      (value.drop 6).head?.any classes.isWord := by
    rw [List.drop_append_of_le_length long]
    cases value.drop 6 with
    | cons c rest => rfl
    | nil =>
        cases after with
        | nil => rfl
        | cons c after => simpa using ending_isWord (ends c rfl)
  have schemeValues : ∀ c ∈ "bearer".toList, isValue c = true :=
    chars_of_all (by decide)
  have markerValues : ∀ c ∈ redacted, isValue c = true := chars_of_all (by decide)
  rw [exempt, exempt, boundary, starts_append schemeValues ends, starts_append markerValues ends]

theorem name_isQuote {c : Char} (name : classes.isName c = true) : isQuote c = false := by
  by_contra mark
  rw [Bool.not_eq_false] at mark
  rw [gapChar_isName classes (by simp [isGapChar, mark])] at name
  cases name

theorem gap_head (shape : IsGap gap) (rest : Text) :
    ∀ c ∈ (gap ++ rest).head?, classes.isName c = false := by
  intro c head
  have first : c ∈ gap.head? := by
    obtain ⟨d, more, rfl⟩ := List.exists_cons_of_ne_nil shape.ne_nil
    exact head
  exact gapChar_isName classes (shape.chars c (List.mem_of_head? first))

theorem gapAt_value (shape : IsGap gap) (long : 6 ≤ value.length)
    (chars : ∀ c ∈ value, isValue c = true) (after : Text) :
    gapAt (gap ++ (value ++ after)) = some gap := by
  cases value with
  | nil => exact absurd long (by decide)
  | cons c value => exact gapAt_append shape (chars c List.mem_cons_self)

/-- The second pattern as it is written: a quote or none, a name that ends with a credential's, a
gap, and six characters of a value or more where the value is not exempt. -/
structure NamedParts (classes : Classes) (lead front name gap value rest : Text) : Prop where
  lead : quote lead = lead
  front : ∀ c ∈ front, classes.isName c = true
  listed : name.map fold ∈ credentialNames
  shape : IsGap gap
  chars : ∀ c ∈ value, isValue c = true
  long : 6 ≤ value.length
  held : exempt classes (value ++ rest) = false

section Parts
variable {lead front rest : Text} (parts : NamedParts classes lead front name gap value rest)
include parts

theorem NamedParts.names : ∀ c ∈ front ++ name, classes.isName c = true := by
  intro c inside
  rcases List.mem_append.mp inside with early | late
  · exact parts.front c early
  · exact key_isName (isKey_name parts.listed c late) classes

/-- However a text is taken apart as the pattern asks, the same match is found: with this first
group, and with the value as far as it goes. -/
theorem NamedParts.found (before : Option Char) :
    named classes before (lead ++ (front ++ name ++ (gap ++ (value ++ rest)))) =
      some ((lead ++ (front ++ name) ++ gap).length,
        ((value ++ rest).takeWhile isValue).length) := by
  have gapped := gapAt_value parts.shape parts.long parts.chars rest
  have names := parts.names
  have ends : endsCredential (front ++ name) = true := by
    rw [endsCredential, List.any_eq_true]
    refine ⟨name.map fold, parts.listed, ?_⟩
    rw [List.isSuffixOf_iff_suffix, List.map_append]
    exact List.suffix_append _ _
  obtain ⟨c, more, shape⟩ : ∃ c more, front ++ name = c :: more :=
    List.exists_cons_of_ne_nil (by simp [name_ne_nil parts.listed])
  generalize front ++ name = whole at names ends shape
  have opens : quote (lead ++ (whole ++ (gap ++ (value ++ rest)))) = lead := by
    refine quote_append parts.lead fun d head => ?_
    rw [shape] at head names
    obtain rfl := Option.some_inj.mp head
    exact name_isQuote (names c List.mem_cons_self)
  have reach : (lead ++ (whole ++ (gap ++ (value ++ rest)))).drop (lead ++ whole).length =
      gap ++ (value ++ rest) := by
    rw [← List.append_assoc, List.drop_left]
  have left : (lead ++ (whole ++ (gap ++ (value ++ rest)))).drop (lead ++ whole ++ gap).length =
      value ++ rest := by
    rw [← List.append_assoc, ← List.append_assoc, List.drop_left]
  have long : ¬ ((value ++ rest).takeWhile isValue).length < 6 := by
    rw [List.takeWhile_append_of_pos parts.chars, List.length_append]
    have := parts.long
    omega
  rw [named]
  simp only [opens, List.drop_left, takeWhile_run names (gap_head parts.shape _), ends, if_true,
    reach, gapped, left, parts.held, long, decide_false, Bool.or_self, Bool.false_eq_true, if_false]

end Parts

/-- What is found is what the pattern asks for. -/
theorem named_some {before : Option Char} {text : Text} {kept hidden : Nat}
    (found : named classes before text = some (kept, hidden)) :
    ∃ lead front name gap value rest,
      text = lead ++ (front ++ name ++ (gap ++ (value ++ rest))) ∧
      NamedParts classes lead front name gap value rest ∧
      kept = (lead ++ (front ++ name) ++ gap).length ∧ hidden = value.length ∧
      ∀ c ∈ rest.head?, isValue c = false := by
  simp only [named] at found
  split at found
  · next ends =>
    split at found
    · cases found
    · next gap gapped =>
      split_ifs at found with short
      rw [Bool.or_eq_true, not_or, decide_eq_true_eq, Nat.not_lt, Bool.not_eq_true] at short
      obtain ⟨rfl, rfl⟩ := Prod.mk.injEq .. ▸ Option.some_inj.mp found
      obtain ⟨shape, rest, last⟩ := gapAt_some gapped
      have names : ∀ c ∈ (text.drop (quote text).length).takeWhile classes.isName,
          classes.isName c = true := fun c => List.mem_takeWhile_imp
      have split := quote_drop text
      rw [← List.takeWhile_append_dropWhile (p := classes.isName)
        (l := text.drop (quote text).length), ← List.append_assoc] at split
      generalize (text.drop (quote text).length).takeWhile classes.isName = whole at *
      have lead := quote_quote text
      generalize quote text = quoted at *
      rw [← split, List.drop_left] at last
      rw [last] at split
      subst split
      have left : (quoted ++ whole ++ (gap ++ rest)).drop (quoted ++ whole ++ gap).length =
          rest := by
        rw [← List.append_assoc, List.drop_left]
      rw [left] at short ⊢
      -- The name the pattern asks for is the end of all the characters a name can have here.
      rw [endsCredential, List.any_eq_true] at ends
      obtain ⟨credential, listed, suffix⟩ := ends
      obtain ⟨most, same⟩ := List.isSuffixOf_iff_suffix.mp suffix
      obtain ⟨front, name, rfl, -, rfl⟩ := List.map_eq_append_iff.mp same.symm
      have value := List.takeWhile_append_dropWhile (p := isValue) (l := rest)
      refine ⟨quoted, front, name, gap, rest.takeWhile isValue, rest.dropWhile isValue, ?_,
        ⟨lead, fun c inside => names c (by simp [inside]), listed, shape,
          fun c => List.mem_takeWhile_imp, short.2, ?_⟩, rfl, rfl, head?_dropWhile⟩
      · rw [value, List.append_assoc]
      · rw [value]
        exact short.1
  · cases found

/-- A credential is found where its name starts. -/
theorem named_append (held : Credential classes name gap value after) (before : Option Char) :
    named classes before (name ++ (gap ++ (value ++ after))) =
      some ((name ++ gap).length, value.length) := by
  have parts : NamedParts classes [] [] name gap value after :=
    { held with
      lead := rfl
      front := by simp
      held := by rw [exempt_append held.long held.ends, held.held] }
  have found := parts.found before
  rw [takeWhile_run held.chars held.ends] at found
  exact found

theorem named_lawful (classes : Classes) : Lawful (named classes) where
  kept found := by
    obtain ⟨lead, front, name, gap, value, rest, -, parts, rfl, -⟩ := named_some found
    exact List.length_pos_iff.mpr (by simp [parts.shape.ne_nil])
  within found := by
    obtain ⟨lead, front, name, gap, value, rest, rfl, -, rfl, rfl, -⟩ := named_some found
    simp only [List.length_append]
    omega

/-- A match near a credential ends before its name, takes the name into a value of its own, or is
the credential's. -/
theorem named_near (held : Credential classes name gap value after) {before : Option Char}
    {tail : Text} {kept hidden : Nat}
    (found : named classes before (tail ++ (name ++ (gap ++ (value ++ after)))) =
      some (kept, hidden)) :
    kept + hidden ≤ tail.length ∨
    (kept ≤ tail.length ∧ tail.length + name.length ≤ kept + hidden) ∨
    (kept = (tail ++ (name ++ gap)).length ∧ hidden = value.length) := by
  obtain ⟨lead, front, name', gap', value', rest, same, parts, rfl, rfl, ends⟩ := named_some found
  have names := parts.names
  have shape := parts.shape
  generalize front ++ name' = word at *
  have keys := isKey_name held.listed
  have nonempty := name_ne_nil held.listed
  -- The quote a match starts with stands before the name.
  obtain ⟨tail, rfl, named⟩ :=
    run_before (isQuote_of_mem parts.lead) (fun c inside => key_isQuote (keys c inside)) same.symm
      nonempty
  clear same
  rcases run_covers (gap_head shape _) (fun c inside => key_isName (keys c inside) classes) named
      nonempty with ⟨tail, -, rfl, gapped⟩ | ⟨more, rfl, gapped⟩
  · -- The name it finds is an earlier one, and so is the gap.
    obtain ⟨tail, rfl, valued⟩ :=
      run_before shape.chars (fun c inside => key_isGapChar (keys c inside)) gapped nonempty
    rcases run_covers ends (fun c inside => key_isValue (keys c inside)) valued nonempty with
      ⟨tail, -, rfl, -⟩ | ⟨more, rfl, -⟩
    · left
      simp only [List.length_append]
      omega
    · right
      left
      simp only [List.length_append]
      omega
  · -- It ends with the credential's name, and what follows can be read in one way only.
    have all : ∀ c ∈ more, classes.isName c = true := fun c inside => names c (by simp [inside])
    obtain ⟨_, none, -⟩ := run_before all
      (fun c inside => gapChar_isName classes (held.shape.chars c inside))
      (by simpa using gapped.symm : more ++ (gap' ++ (value' ++ rest)) = [] ++ (gap ++ (value ++ after)))
      held.shape.ne_nil
    obtain ⟨rfl, -⟩ := List.append_eq_nil_iff.mp none.symm
    rw [List.nil_append] at gapped
    have same : gap = gap' := by
      have mine := gapAt_value held.shape held.long held.chars after
      rw [gapped, gapAt_value shape parts.long parts.chars rest] at mine
      exact (Option.some_inj.mp mine).symm
    subst same
    have valued := List.append_cancel_left gapped
    have last : value = value' := by
      rw [← takeWhile_run held.chars held.ends, valued, takeWhile_run parts.chars ends]
    subst last
    right
    right
    simp only [List.length_append, List.length_nil, and_true]
    omega

/-! ### The first sweep -/

/-- The parts of a match: the scheme word, spaces and a token that goes as far as it can. -/
theorem bearer_some {before : Option Char} {text : Text} {kept hidden : Nat}
    (found : bearer classes before text = some (kept, hidden)) :
    ∃ word spaces token rest, text = word ++ (spaces ++ (token ++ rest)) ∧
      word.map fold = "bearer".toList ∧ spaces ≠ [] ∧ (∀ c ∈ spaces, isSpace c = true) ∧
      (∀ c ∈ rest.head?, isToken c = false) ∧ kept = (word ++ spaces).length ∧
      hidden = token.length := by
  simp only [bearer] at found
  split_ifs at found with taken
  simp only [Bool.and_eq_true, Bool.not_eq_true'] at taken
  obtain ⟨⟨⟨-, starts⟩, spaced⟩, -⟩ := taken
  obtain ⟨rfl, rfl⟩ := Prod.mk.injEq .. ▸ Option.some_inj.mp found
  have spaces := List.takeWhile_append_dropWhile (p := isSpace) (l := text.drop 6)
  have token := List.takeWhile_append_dropWhile (p := isToken)
    (l := (text.drop 6).dropWhile isSpace)
  have word : (text.take 6).map fold = "bearer".toList := by
    rw [List.map_take]
    exact (List.prefix_iff_eq_take.mp (List.isPrefixOf_iff_prefix.mp starts)).symm
  have length : (text.take 6).length = 6 := by
    rw [← List.length_map (f := fold), word]
    rfl
  refine ⟨text.take 6, (text.drop 6).takeWhile isSpace,
    ((text.drop 6).dropWhile isSpace).takeWhile isToken,
    ((text.drop 6).dropWhile isSpace).dropWhile isToken, ?_, word, ?_,
    fun c => List.mem_takeWhile_imp, head?_dropWhile, ?_, rfl⟩
  · rw [token, spaces, List.take_append_drop]
  · simpa using spaced
  · rw [List.length_append, length]

theorem bearer_lawful (classes : Classes) : Lawful (bearer classes) where
  kept found := by
    obtain ⟨word, spaces, token, rest, -, -, some, -, -, rfl, -⟩ := bearer_some found
    exact List.length_pos_iff.mpr (by simp [some])
  within found := by
    obtain ⟨word, spaces, token, rest, rfl, -, -, -, -, rfl, rfl⟩ := bearer_some found
    simp only [List.length_append]
    omega

/-- No credential's name overlaps the scheme word. -/
theorem scheme_apart : ∀ credential ∈ credentialNames, ∀ skipped < 6,
    ¬ credential <+: "bearer".toList.drop skipped ∧
      ¬ "bearer".toList.drop skipped <+: credential := by decide

/-- A match near a credential's name ends before it or takes it into the token. -/
theorem bearer_near (listed : name.map fold ∈ credentialNames) {before : Option Char}
    {tail rest : Text} {kept hidden : Nat}
    (found : bearer classes before (tail ++ (name ++ rest)) = some (kept, hidden)) :
    kept + hidden ≤ tail.length ∨
    (kept ≤ tail.length ∧ tail.length + name.length ≤ kept + hidden) := by
  obtain ⟨word, spaces, token, later, same, scheme, -, blank, ends, rfl, rfl⟩ := bearer_some found
  have keys := isKey_name listed
  have nonempty := name_ne_nil listed
  have length : word.length = 6 := by
    rw [← List.length_map (f := fold), scheme]
    rfl
  rcases Nat.lt_or_ge tail.length word.length with inside | fits
  · -- The scheme word would run into the name.
    obtain ⟨more, rfl, split⟩ := split_of_le same (Nat.le_of_lt inside)
    have cut : more.map fold = "bearer".toList.drop tail.length := by
      rw [← scheme, List.map_append, ← List.length_map (f := fold), List.drop_left]
    have apart := scheme_apart _ listed tail.length (by omega)
    rw [← cut] at apart
    have first : name <+: more ++ (spaces ++ (token ++ later)) := split ▸ List.prefix_append _ _
    rcases List.prefix_or_prefix_of_prefix first (List.prefix_append more _) with short | short
    · exact absurd (short.map fold) apart.1
    · exact absurd (short.map fold) apart.2
  · obtain ⟨tail, rfl, spaced⟩ := split_of_le same.symm fits
    clear same
    obtain ⟨tail, rfl, tokened⟩ :=
      run_before blank (fun c inside => key_inked (keys c inside)) spaced nonempty
    rcases run_covers ends (fun c inside => key_isToken (keys c inside)) tokened nonempty with
      ⟨tail, -, rfl, -⟩ | ⟨more, rfl, -⟩
    · left
      simp only [List.length_append]
      omega
    · right
      simp only [List.length_append]
      omega

/-- From a credential's name to the end of its value no match starts that replaces any of it. -/
theorem bearer_over (held : Credential classes name gap value after) {before : Option Char}
    {first : Char} {more rest : Text} {kept hidden : Nat}
    (inside : first :: more <:+ name ++ (gap ++ value))
    (found : bearer classes before (first :: more ++ rest) = some (kept, hidden)) :
    more.length + 1 < kept := by
  obtain ⟨word, spaces, token, later, same, scheme, some, blank, -, rfl, -⟩ := bearer_some found
  have letter : fold first = 'b' := by
    cases word with
    | nil => cases scheme
    | cons c word =>
        obtain ⟨rfl, -⟩ := List.cons_eq_cons.mp same
        exact (List.cons_eq_cons.mp scheme).1
  -- Only a value has the letter the scheme word starts with.
  have absent : ∀ c ∈ name ++ gap, fold c ≠ 'b' := by
    intro c listed
    rcases List.mem_append.mp listed with named | gapped
    · have letters : ∀ credential ∈ credentialNames, 'b' ∉ credential := by decide
      intro b
      exact letters _ held.listed (b ▸ List.mem_map_of_mem named)
    · exact gapChar_fold (held.shape.chars c gapped)
  have valued : first :: more <:+ value := by
    rw [← List.append_assoc] at inside
    obtain ⟨front, split⟩ := inside
    rcases List.append_eq_append_iff.mp split with ⟨most, whole, last⟩ | ⟨most, -, last⟩
    · cases most with
      | nil => exact ⟨[], by simpa using last⟩
      | cons c most =>
          obtain ⟨rfl, -⟩ := List.cons_eq_cons.mp last
          exact absurd letter (absent first (by simp [whole]))
    · exact ⟨most, last.symm⟩
  by_contra short
  rw [← List.append_assoc] at same
  obtain ⟨extra, split, -⟩ := split_of_le same.symm (by simpa using short)
  obtain ⟨space, spaces, rfl⟩ := List.exists_cons_of_ne_nil some
  have listed : space ∈ value := valued.subset (by simp [split])
  have inked := (value_plain (held.chars space listed)).2
  rw [blank space List.mem_cons_self] at inked
  cases inked

end Credential

/-! ### Both sweeps -/

section Sweeps
variable {Item : Type} {letter : Item → Char} {classes : Classes}
variable {marker left name gap value after out : List Item}

/-- The first sweep replaces a credential's name or leaves the credential as it is. -/
theorem swept_bearer
    (held : Credential classes (name.map letter) (gap.map letter) (value.map letter)
      (after.map letter))
    (swept : Swept (bearer classes) letter marker (left ++ (name ++ (gap ++ (value ++ after)))) out) :
    (∀ item ∈ out, item ∈ marker ∨ item ∈ left ∨ item ∈ gap ∨ item ∈ value ∨ item ∈ after) ∨
    ∃ front later, out = front ++ (name ++ (gap ++ (value ++ later))) ∧
      (∀ item ∈ front, item ∈ marker ∨ item ∈ left) ∧ later.head? = after.head? ∧
      ∀ item ∈ later, item ∈ marker ∨ item ∈ after := by
  have nonempty : name ≠ [] := fun none => name_ne_nil held.listed (by simp [none])
  have near : ∀ before tail kept hidden,
      bearer classes before ((tail ++ (name ++ (gap ++ (value ++ after)))).map letter) =
        some (kept, hidden) →
      kept + hidden ≤ tail.length ∨
      (kept ≤ tail.length ∧ tail.length + name.length ≤ kept + hidden) := by
    intro before tail kept hidden found
    rw [List.map_append, List.map_append] at found
    simpa using bearer_near held.listed found
  rcases swept.meets nonempty (fun before tail kept hidden found =>
      (near before tail kept hidden found).imp_right .inl) with
    lost | ⟨front, tail, later, rfl, mem, -, met, rfl | ⟨before, kept, hidden, found, keeps⟩⟩
  · left
    simpa only [List.mem_append] using lost
  · have passage : [] ++ (name ++ (gap ++ (value ++ after))) = name ++ (gap ++ value) ++ after := by
      simp
    rw [passage] at met
    obtain ⟨later, rfl, head, rest⟩ := met.over fun before item more kept hidden inside found => by
      have here : (item :: more).map letter <:+
          name.map letter ++ (gap.map letter ++ value.map letter) := by
        rw [← List.map_append, ← List.map_append]
        exact inside.map letter
      rw [List.map_append] at found
      simpa using bearer_over held here found
    exact .inr ⟨front, later, by simp, mem, head, rest⟩
  · have some := List.length_pos_iff.mpr nonempty
    rcases near before tail kept hidden found with ends | ⟨starts, -⟩
    · omega
    · omega

/-- The second sweep replaces a credential's name or its value. -/
theorem swept_named
    (held : Credential classes (name.map letter) (gap.map letter) (value.map letter)
      (after.map letter))
    (swept : Swept (named classes) letter marker (left ++ (name ++ (gap ++ (value ++ after)))) out) :
    (∀ item ∈ out, item ∈ marker ∨ item ∈ left ∨ item ∈ gap ∨ item ∈ value ∨ item ∈ after) ∨
    ∀ item ∈ out, item ∈ marker ∨ item ∈ left ∨ item ∈ name ∨ item ∈ gap ∨ item ∈ after := by
  have nonempty : name ≠ [] := fun none => name_ne_nil held.listed (by simp [none])
  have near : ∀ before tail kept hidden,
      named classes before ((tail ++ (name ++ (gap ++ (value ++ after)))).map letter) =
        some (kept, hidden) →
      kept + hidden ≤ tail.length ∨
      (kept ≤ tail.length ∧ tail.length + name.length ≤ kept + hidden) ∨
      (kept = (tail ++ (name ++ gap)).length ∧ hidden = value.length) := by
    intro before tail kept hidden found
    simp only [List.map_append] at found
    simpa using named_near held found
  rcases swept.meets nonempty (fun before tail kept hidden found => by
      refine (near before tail kept hidden found).imp_right (.imp_right fun exact => ?_)
      simp only [List.length_append] at exact
      omega) with lost | ⟨front, tail, later, rfl, mem, inside, met, reached⟩
  · left
    simpa only [List.mem_append] using lost
  · right
    -- Either way the match found here is the credential's.
    have found : ∀ before,
        named classes before ((tail ++ (name ++ (gap ++ (value ++ after)))).map letter) =
          some ((tail ++ (name ++ gap)).length, value.length) := by
      intro before
      rcases reached with rfl | ⟨_, kept, hidden, found, keeps⟩
      · simpa using named_append held before
      · have some := List.length_pos_iff.mpr nonempty
        rcases near _ tail kept hidden found with ends | ⟨starts, -⟩ | ⟨rfl, rfl⟩
        · omega
        · omega
        · exact found
    have parts : tail ++ (name ++ (gap ++ (value ++ after))) =
        tail ++ (name ++ gap) ++ (value ++ after) := by simp
    generalize shape : tail ++ (name ++ (gap ++ (value ++ after))) = text at met found
    cases met with
    | done => simp [nonempty] at shape
    | pass before missing =>
        rw [found before] at missing
        cases missing
    | @hide before kept hidden rest later _ also swept =>
        rw [found before] at also
        obtain ⟨keptLength, hiddenLength⟩ := Prod.mk.injEq .. ▸ Option.some_inj.mp also
        rw [parts, List.append_assoc kept] at shape
        obtain ⟨rfl, last⟩ := List.append_inj shape keptLength
        obtain ⟨rfl, rfl⟩ := List.append_inj last hiddenLength
        intro item listed
        simp only [List.mem_append] at listed
        rcases listed with early | ((tailed | named | gapped) | marks) | late
        · exact (mem item early).imp_right .inl
        · exact .inr (.inl (inside.subset tailed))
        · exact .inr (.inr (.inl named))
        · exact .inr (.inr (.inr (.inl gapped)))
        · exact .inl marks
        · exact (swept.mem late).imp_right fun after => .inr (.inr (.inr after))

variable (marker left) in
/-- Of a credential's name and its value, one is replaced. -/
theorem redactItems_hides
    (held : Credential classes (name.map letter) (gap.map letter) (value.map letter)
      (after.map letter)) :
    (∀ item ∈ redactItems classes letter marker (left ++ (name ++ (gap ++ (value ++ after)))),
      item ∈ marker ∨ item ∈ left ∨ item ∈ gap ∨ item ∈ value ∨ item ∈ after) ∨
    ∀ item ∈ redactItems classes letter marker (left ++ (name ++ (gap ++ (value ++ after)))),
      item ∈ marker ∨ item ∈ left ∨ item ∈ name ∨ item ∈ gap ∨ item ∈ after := by
  have nonempty : name ≠ [] := fun none => name_ne_nil held.listed (by simp [none])
  have filled : (left ++ (name ++ (gap ++ (value ++ after)))).isEmpty = false := by
    simp [nonempty]
  rw [redactItems, filled, if_neg Bool.false_ne_true]
  have first : Swept (bearer classes) letter marker (left ++ (name ++ (gap ++ (value ++ after)))) _ :=
    swept_sub (bearer_lawful classes) _
  generalize sub (bearer classes) letter marker _ = between at first
  have second : Swept (named classes) letter marker between _ :=
    swept_sub (named_lawful classes) between
  generalize sub (named classes) letter marker between = out at second
  rcases swept_bearer held first with lost | ⟨front, later, rfl, mem, head, rest⟩
  · left
    intro item listed
    rcases second.mem listed with marks | listed
    · exact .inl marks
    · exact lost item listed
  · have still : Credential classes (name.map letter) (gap.map letter) (value.map letter)
        (later.map letter) := by
      refine { held with ends := ?_ }
      rw [List.head?_map, head, ← List.head?_map]
      exact held.ends
    rcases swept_named still second with lost | hidden
    · left
      intro item listed
      rcases lost item listed with marks | early | inside | inside | late
      · exact .inl marks
      · exact (mem item early).imp_right .inl
      · exact .inr (.inr (.inl inside))
      · exact .inr (.inr (.inr (.inl inside)))
      · exact (rest item late).imp_right fun after => .inr (.inr (.inr after))
    · right
      intro item listed
      rcases hidden item listed with marks | early | inside | inside | late
      · exact .inl marks
      · exact (mem item early).imp_right .inl
      · exact .inr (.inr (.inl inside))
      · exact .inr (.inr (.inr (.inl inside)))
      · exact (rest item late).imp_right fun after => .inr (.inr (.inr after))

/-- Both sweeps keep the order of what they keep. -/
theorem redactItems_sublist {Mark : Type} {mark : Item → Option Mark}
    (unmarked : marker.filterMap mark = []) (text : List Item) :
    ((redactItems classes letter marker text).filterMap mark).Sublist (text.filterMap mark) := by
  rw [redactItems]
  split_ifs
  · simp
  · have first : Swept (bearer classes) letter marker text _ := swept_sub (bearer_lawful classes) _
    have second : Swept (named classes) letter marker
        (sub (bearer classes) letter marker text) _ := swept_sub (named_lawful classes) _
    exact (second.sublist unmarked).trans (first.sublist unmarked)

theorem mem_redactItems {text : List Item} {item : Item}
    (listed : item ∈ redactItems classes letter marker text) : item ∈ marker ∨ item ∈ text := by
  rw [redactItems] at listed
  split_ifs at listed
  · cases listed
  · have first : Swept (bearer classes) letter marker text _ := swept_sub (bearer_lawful classes) _
    have second : Swept (named classes) letter marker
        (sub (bearer classes) letter marker text) _ := swept_sub (named_lawful classes) _
    rcases second.mem listed with marks | listed
    · exact .inl marks
    · exact first.mem listed

end Sweeps

/-! ### What is left of a text -/

/-- A redacted text, each character with its place in the text or, in a marker, with none. -/
structure Trace (text out : Text) (traced : List (Char × Option Nat)) : Prop where
  reads : traced.map Prod.fst = out
  ordered : (traced.filterMap Prod.snd).Pairwise (· < ·)
  own : ∀ c i, (c, some i) ∈ traced → text[i]? = some c
  marks : ∀ c, (c, none) ∈ traced → c ∈ redacted

/-- No character of the passage is left. -/
def Gone (traced : List (Char × Option Nat)) (start length : Nat) : Prop :=
  ∀ i, start ≤ i → i < start + length → some i ∉ traced.map Prod.snd

/-- Of every credential in the text the value is gone, unless the name itself is. -/
def Redacts (classes : Classes) (text out : Text) : Prop :=
  ∃ traced, Trace text out traced ∧ ∀ front name gap value after,
    text = front ++ (name ++ (gap ++ (value ++ after))) →
    Credential classes name gap value after →
    Gone traced front.length name.length ∨
      Gone traced (front ++ (name ++ gap)).length value.length

/-- A text whose characters know their places, counted from `start`. -/
def placed (start : Nat) : Text → List (Char × Option Nat)
  | [] => []
  | c :: rest => (c, some start) :: placed (start + 1) rest

theorem map_placed (start : Nat) (text : Text) : (placed start text).map Prod.fst = text := by
  induction text generalizing start with
  | nil => rfl
  | cons c rest ih => rw [placed, List.map_cons, ih]

theorem placed_append (start : Nat) (first second : Text) :
    placed start (first ++ second) = placed start first ++ placed (start + first.length) second := by
  induction first generalizing start with
  | nil => simp [placed]
  | cons c rest ih =>
      rw [List.cons_append, placed, placed, ih, List.length_cons, List.cons_append]
      congr 3
      omega

theorem mem_placed {start : Nat} {text : Text} {item : Char × Option Nat}
    (listed : item ∈ placed start text) :
    ∃ i, item.2 = some (start + i) ∧ text[i]? = some item.1 := by
  induction text generalizing start with
  | nil => cases listed
  | cons c rest ih =>
      rcases List.mem_cons.mp listed with rfl | later
      · exact ⟨0, rfl, rfl⟩
      · obtain ⟨i, place, own⟩ := ih later
        refine ⟨i + 1, ?_, by simpa using own⟩
        rw [place]
        congr 1
        omega

theorem placed_range {start i : Nat} {text : Text} {item : Char × Option Nat}
    (listed : item ∈ placed start text) (place : item.2 = some i) :
    start ≤ i ∧ i < start + text.length := by
  obtain ⟨j, also, own⟩ := mem_placed listed
  rw [place, Option.some_inj] at also
  have bound := (List.getElem?_eq_some_iff.mp own).1
  omega

theorem ordered_placed (start : Nat) (text : Text) :
    ((placed start text).filterMap Prod.snd).Pairwise (· < ·) := by
  induction text generalizing start with
  | nil => exact .nil
  | cons c rest ih =>
      have shape : (placed start (c :: rest)).filterMap Prod.snd =
          start :: (placed (start + 1) rest).filterMap Prod.snd := rfl
      rw [shape, List.pairwise_cons]
      refine ⟨fun later listed => ?_, ih _⟩
      obtain ⟨item, placed, mark⟩ := List.mem_filterMap.mp listed
      obtain ⟨i, place, -⟩ := mem_placed placed
      rw [mark, Option.some_inj] at place
      omega

def traced (classes : Classes) (text : Text) : List (Char × Option Nat) :=
  redactItems classes Prod.fst (redacted.map (·, none)) (placed 0 text)

theorem map_redactItems {Item : Type} (classes : Classes) (letter : Item → Char)
    (marker text : List Item) :
    (redactItems classes letter marker text).map letter =
      redactItems classes id (marker.map letter) (text.map letter) := by
  rw [redactItems, redactItems, List.isEmpty_map]
  split_ifs
  · rfl
  · have same : ∀ item, id (letter item) = letter item := fun _ => rfl
    rw [map_sub letter same, map_sub letter same]

theorem traced_trace (classes : Classes) (text : Text) :
    Trace text (redactSecrets classes text) (traced classes text) where
  reads := by
    have marker : (redacted.map (·, (none : Option Nat))).map Prod.fst = redacted := by
      decide
    rw [traced, map_redactItems, map_placed, marker, redactSecrets]
  ordered := by
    have unmarked : (redacted.map (·, (none : Option Nat))).filterMap Prod.snd = [] := by
      decide
    exact (ordered_placed 0 text).sublist (redactItems_sublist unmarked (placed 0 text))
  own c i listed := by
    rcases mem_redactItems listed with marks | listed
    · obtain ⟨_, -, shape⟩ := List.mem_map.mp marks
      cases shape
    · obtain ⟨j, place, own⟩ := mem_placed listed
      obtain rfl : i = j := by simpa using place
      exact own
  marks c listed := by
    rcases mem_redactItems listed with marks | listed
    · obtain ⟨_, inside, shape⟩ := List.mem_map.mp marks
      cases shape
      exact inside
    · obtain ⟨j, place, -⟩ := mem_placed listed
      cases place

theorem redactSecrets_redacts (classes : Classes) (text : Text) :
    Redacts classes text (redactSecrets classes text) := by
  refine ⟨traced classes text, traced_trace classes text, ?_⟩
  rintro front name gap value after rfl held
  rw [traced, placed_append, placed_append, placed_append, placed_append]
  have placedHeld : Credential classes ((placed (0 + front.length) name).map Prod.fst)
      ((placed (0 + front.length + name.length) gap).map Prod.fst)
      ((placed (0 + front.length + name.length + gap.length) value).map Prod.fst)
      ((placed (0 + front.length + name.length + gap.length + value.length) after).map
        Prod.fst) := by
    simpa only [map_placed] using held
  rcases redactItems_hides (redacted.map (·, none)) (placed 0 front) placedHeld with lost | hidden
  · left
    intro i low high listed
    obtain ⟨item, kept, place⟩ := List.mem_map.mp listed
    rcases lost item kept with marks | early | inside | inside | late
    · obtain ⟨_, -, rfl⟩ := List.mem_map.mp marks
      cases place
    · have range := placed_range early place
      omega
    · have range := placed_range inside place
      omega
    · have range := placed_range inside place
      omega
    · have range := placed_range late place
      omega
  · right
    intro i low high listed
    simp only [List.length_append] at low high
    obtain ⟨item, kept, place⟩ := List.mem_map.mp listed
    rcases hidden item kept with marks | early | inside | inside | late
    · obtain ⟨_, -, rfl⟩ := List.mem_map.mp marks
      cases place
    · have range := placed_range early place
      omega
    · have range := placed_range inside place
      omega
    · have range := placed_range inside place
      omega
    · have range := placed_range late place
      omega

/-! ### Configurations -/

mutual

theorem strings_redactConfig (classes : Classes) (config : Config Other) :
    strings (redactConfig classes config) = (strings config).map (redactSecrets classes) := by
  cases config with
  | text value => rfl
  | dict items => exact strings_redactValues classes items
  | list items => exact strings_redactList classes items
  | other value => rfl

theorem strings_redactValues (classes : Classes) (items : List (Text × Config Other)) :
    stringsOfValues (redactValues classes items) =
      (stringsOfValues items).map (redactSecrets classes) := by
  cases items with
  | nil => rfl
  | cons item rest =>
      obtain ⟨key, item⟩ := item
      rw [redactValues, stringsOfValues, stringsOfValues, List.map_append,
        strings_redactConfig classes item, strings_redactValues classes rest]

theorem strings_redactList (classes : Classes) (items : List (Config Other)) :
    stringsOfList (redactList classes items) =
      (stringsOfList items).map (redactSecrets classes) := by
  cases items with
  | nil => rfl
  | cons item rest =>
      rw [redactList, stringsOfList, stringsOfList, List.map_append,
        strings_redactConfig classes item, strings_redactList classes rest]

end

/-- `\w` of ASCII texts. -/
def asciiClasses : Classes where
  isWord c := (fold c).isAlphanum || fold c == '_'
  word c word := by simpa using word
  space c space := by
    have other := isKey_space space
    rw [isKey, Bool.or_eq_false_iff] at other
    rw [fold_space space]
    exact other.1
  mark := chars_of_all (by decide)

end AifyComms.SecretRedaction
