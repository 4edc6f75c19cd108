import AifyComms.UpdateStatements

/-!
How `written_table` reads the front of an UPDATE statement once the passes were made: its table,
and the SET behind which the columns stand. Where it marks the statement, both are the
statement's own.
-/

namespace AifyComms.UpdateReading
open PyText WrittenTables WrittenPasses UpdateStatements

/-! ### Reading the words of a statement -/

/-- A text behind a word: no character of a name comes first. -/
def Stops (text : Text) : Prop := ∀ char, text.head? = some char → inName char = false

/-- A text behind a name: no character of a word comes first. -/
def Ends (text : Text) : Prop := ∀ char, text.head? = some char → isWord char = false

/-- A word as the passes leave it. -/
structure Worded (letters : Text) : Prop where
  some : letters ≠ []
  inside : ∀ char ∈ letters, inName char = true ∧ isSpace char = false

def Blank (text : Text) : Prop := ∀ char ∈ text, isSpace char = true

def Inked (text : Text) : Prop := ∀ char, text.head? = some char → isSpace char = false

theorem inName_of_isWord {char : Char} (word : isWord char = true) : inName char = true := by
  rw [inName, word]
  rfl

theorem ends_of_stops {text : Text} (stops : Stops text) : Ends text := by
  intro char first
  have outside := stops char first
  rw [inName, Bool.or_eq_false_iff, Bool.or_eq_false_iff] at outside
  exact outside.1.1

theorem dropWhile_blank {gap rest : Text} (blank : Blank gap) (inked : Inked rest) :
    (gap ++ rest).dropWhile isSpace = rest := by
  rw [List.dropWhile_append_of_pos blank]
  cases rest with
  | nil => rfl
  | cons char rest => exact List.dropWhile_cons_of_neg (by rw [inked char rfl]; exact Bool.false_ne_true)

theorem spaces_blank {gap rest after : Text} (blank : Blank gap) (inked : Inked rest)
    (found : spaces (gap ++ rest) = some after) : after = rest := by
  unfold spaces at found
  split at found
  · rw [dropWhile_blank blank inked] at found
    exact (Option.some.inj found).symm
  · cases found

theorem spaces_inked {text : Text} (inked : Inked text) : spaces text = none := by
  unfold spaces
  split
  next blank =>
    obtain ⟨char, first, space⟩ := (Option.any_eq_true _ _).mp blank
    rw [inked char first] at space
    cases space
  · rfl

/-- A keyword found at a word is that word, or a part of it. -/
theorem keyword_word {name : String} (letters : Letters name) {word rest after : Text}
    (stops : Stops rest) (found : keyword name (word ++ rest) = some after) :
    (word.map Char.toLower = name.toList ∧ after = rest) ∨
      ∃ char more, after = char :: more ∧ char ∈ word := by
  obtain ⟨front, shape, same⟩ := keyword_iff.1 found
  rcases List.append_eq_append_iff.mp shape with ⟨beyond, rfl, rest'⟩ | ⟨back, rfl, rfl⟩
  · cases beyond with
    | nil => exact .inl ⟨by rw [← same, List.append_nil], rest'.symm⟩
    | cons char beyond =>
        -- the keyword would reach past the word
        have listed : char.toLower ∈ name.toList := by
          rw [← same, List.map_append]
          exact List.mem_append_right _ List.mem_cons_self
        have inside := inName_of_isWord (isWord_of_lower (letters.2 _ listed))
        rw [stops char (by rw [rest']; rfl)] at inside
        cases inside
  · cases back with
    | nil => exact .inl ⟨by rw [← same, List.append_nil], rfl⟩
    | cons char back =>
        exact .inr ⟨char, back ++ rest, rfl, List.mem_append_right _ List.mem_cons_self⟩

/-- What follows a keyword and a blank at a word: the keyword is the word. -/
theorem keyword_spaced {name : String} (letters : Letters name) {word rest middle after : Text}
    (worded : Worded word) (stops : Stops rest)
    (found : keyword name (word ++ rest) = some middle) (spaced : spaces middle = some after) :
    word.map Char.toLower = name.toList ∧ middle = rest := by
  rcases keyword_word letters stops found with same | ⟨char, more, rfl, listed⟩
  · exact same
  · rw [spaces_inked] at spaced
    · cases spaced
    · intro first here
      obtain rfl := Option.some.inj here
      exact (worded.inside _ listed).2

theorem word_spaced {letters rest middle after : Text} (worded : Worded letters)
    (stops : Stops rest) (found : word (letters ++ rest) = some middle)
    (spaced : spaces middle = some after) : middle = rest := by
  unfold word at found
  split at found
  · obtain rfl := Option.some.inj found
    rw [List.dropWhile_append] at spaced ⊢
    split
    · cases rest with
      | nil => rfl
      | cons char rest =>
          refine List.dropWhile_cons_of_neg fun inside => ?_
          have also := inName_of_isWord inside
          rw [stops char rfl] at also
          cases also
    next left =>
      -- a part of the word is left, and no blank follows
      rw [if_neg left] at spaced
      rw [spaces_inked] at spaced
      · cases spaced
      · intro char first
        have some : letters.dropWhile isWord ≠ [] := by
          intro empty
          rw [empty] at left
          exact left rfl
        obtain ⟨front, more, shape⟩ := List.exists_cons_of_ne_nil some
        rw [shape, List.cons_append] at first
        obtain rfl := Option.some.inj first
        refine (worded.inside _ ?_).2
        exact (List.dropWhile_sublist isWord).subset (shape ▸ List.mem_cons_self)
  · cases found

/-! ### Pieces after the passes -/

/-- Behind each piece stands what it does not clash with, once the passes were made. -/
def kept (after : Text) : List Piece → Prop
  | [] => True
  | piece :: rest => ¬ (text 3 rest ++ after).head?.any piece.clashes = true ∧ kept after rest

/-- A piece that the passes read as it is. -/
def Clean (piece : Piece) : Prop := piece.valid = true ∧ piece.plain = true

theorem word_inked {char : Char} (word : isWord char = true) : isSpace char = false := by
  have upperA : 'A'.val.toNat = 65 := rfl
  have upperZ : 'Z'.val.toNat = 90 := rfl
  have lowerA : 'a'.val.toNat = 97 := rfl
  have lowerZ : 'z'.val.toNat = 122 := rfl
  have zero : '0'.val.toNat = 48 := rfl
  have nine : '9'.val.toNat = 57 := rfl
  have underscore : '_'.val.toNat = 95 := rfl
  have code : char.toNat = char.val.toNat := rfl
  by_contra space
  rw [Bool.not_eq_false] at space
  simp only [isSpace, Bool.or_eq_true, Bool.and_eq_true, decide_eq_true_eq, beq_iff_eq] at space
  unfold isWord Char.isAlphanum Char.isAlpha Char.isUpper Char.isLower Char.isDigit at word
  simp only [Bool.or_eq_true, Bool.and_eq_true, decide_eq_true_eq, UInt32.le_iff_toNat_le, ge_iff_le,
    Char.ext_iff, ← UInt32.toNat_inj] at word
  omega

theorem ascii_inked {char : Char} (inside : inName char = true) (ascii : char.toNat < 0x80) :
    isSpace char = false := by
  unfold inName at inside
  rw [Bool.or_eq_true, Bool.or_eq_true, decide_eq_true_eq, beq_iff_eq] at inside
  rcases inside with (word | rfl) | wide
  · exact word_inked word
  · decide
  · omega

theorem worded_of_clean {letters : Text} (clean : Clean (.word letters)) : Worded letters := by
  obtain ⟨valid, plain⟩ := clean
  rw [Piece.valid, Bool.and_eq_true, Bool.not_eq_true', List.isEmpty_eq_false_iff,
    List.all_eq_true] at valid
  rw [Piece.plain, List.all_eq_true] at plain
  refine ⟨valid.1, fun char listed => ⟨valid.2 char listed, ?_⟩⟩
  exact ascii_inked (valid.2 char listed) (of_decide_eq_true (plain char listed))

/-- The passes leave blanks of a gap. -/
theorem gap_chars {gap : List Piece} (gaps : gap.all Piece.isGap = true)
    (clean : ∀ piece ∈ gap, Clean piece) :
    ∀ char ∈ text 3 gap, isSpace char = true ∧ inName char = false := by
  intro char listed
  obtain ⟨piece, member, here⟩ := List.mem_flatMap.mp listed
  have isGap := List.all_eq_true.mp gaps piece member
  cases piece with
  | blank space =>
      obtain rfl := List.mem_singleton.mp here
      have valid := (clean _ member).1
      simp only [Piece.valid, List.contains_eq_mem, List.mem_cons, List.not_mem_nil, or_false,
        decide_eq_true_eq] at valid
      rcases valid with rfl | rfl | rfl | rfl | rfl <;> decide
  | line comment =>
      have either : char = ' ' ∨ char = '\n' := by simpa [Piece.text] using here
      rcases either with rfl | rfl <;> decide
  | block comment =>
      have one : char = ' ' := by simpa [Piece.text] using here
      rw [one]
      decide
  | string literal => cases isGap
  | quoted quote name => cases isGap
  | word letters => cases isGap
  | mark mark => cases isGap

theorem gap_blank {gap : List Piece} (gaps : gap.all Piece.isGap = true)
    (clean : ∀ piece ∈ gap, Clean piece) : Blank (text 3 gap) :=
  fun char listed => (gap_chars gaps clean char listed).1

theorem lower_ascii {letters : Text} (ascii : ∀ char ∈ letters, char.toNat < 0x80) :
    (lower (String.ofList letters)).toList = letters.map Char.toLower := by
  rw [lower, String.toList_ofList, String.toList_ofList]
  refine List.map_congr_left fun char listed => ?_
  have small := ascii char listed
  rw [lowerChar, if_neg (by omega)]

theorem word_ascii {letters : Text} (clean : Clean (.word letters)) :
    ∀ char ∈ letters, char.toNat < 0x80 := by
  intro char listed
  exact of_decide_eq_true (List.all_eq_true.mp clean.2 char listed)

theorem isWordOf_word {piece : Piece} {names : List String} (word : piece.isWordOf names = true) :
    ∃ letters, piece = .word letters := by
  unfold Piece.isWordOf at word
  split at word
  · exact ⟨_, rfl⟩
  · cases word

/-- A word of the statement, letter by letter. -/
theorem isWordOf_iff {letters : Text} (clean : Clean (.word letters)) (names : List String) :
    (Piece.word letters).isWordOf names = true ↔
      ∃ name ∈ names, letters.map Char.toLower = name.toList := by
  rw [Piece.isWordOf, List.contains_iff_mem, ← lower_ascii (word_ascii clean)]
  constructor
  · intro listed
    exact ⟨_, listed, rfl⟩
  · rintro ⟨name, listed, same⟩
    rw [String.toList_inj.mp same]
    exact listed

theorem stops_of_kept {letters : Text} {rest : List Piece} {after : Text}
    (kept : kept after (.word letters :: rest)) : Stops (text 3 rest ++ after) := by
  intro char first
  have apart := kept.1
  rw [first] at apart
  exact Bool.eq_false_iff.mpr apart

theorem stops_behind {piece : Piece} {rest : List Piece} {after : Text}
    (kept : kept after (piece :: rest)) :
    ∀ letters, piece = .word letters → Stops (text 3 rest ++ after) := by
  rintro letters rfl
  exact stops_of_kept kept

theorem kept_append {after : Text} {front back : List Piece} (all : kept after (front ++ back)) :
    kept (text 3 back ++ after) front ∧ kept after back := by
  induction front with
  | nil => exact ⟨trivial, all⟩
  | cons piece front ih =>
      rw [List.cons_append] at all
      obtain ⟨apart, rest⟩ := all
      rw [text_append, List.append_assoc] at apart
      exact ⟨⟨apart, (ih rest).1⟩, (ih rest).2⟩

/-- The text of a name starts with ink, and with a letter of a word only where it is bare. -/
theorem name_starts {piece : Piece} (clean : Clean piece) (named : piece.name.isSome = true)
    (rest : Text) :
    (∃ letters, piece = .word letters ∧ Worded letters) ∨
      ∃ char more, piece.text 3 ++ rest = char :: more ∧ isWord char = false ∧
        isSpace char = false := by
  cases piece with
  | word letters => exact .inl ⟨letters, rfl, worded_of_clean clean⟩
  | quoted quote name =>
      refine .inr ⟨quote.opens, doubled quote.closes name ++ [quote.closes] ++ rest, rfl, ?_⟩
      cases quote <;> decide
  | string literal => exact .inr ⟨'\'', '\'' :: rest, rfl, by decide, by decide⟩
  | blank char => cases named
  | line comment => cases named
  | block comment => cases named
  | mark char => cases named

theorem name_inked {piece : Piece} (clean : Clean piece) (named : piece.name.isSome = true)
    (rest : Text) : Inked (piece.text 3 ++ rest) := by
  intro char first
  rcases name_starts clean named rest with ⟨letters, rfl, worded⟩ | ⟨letter, more, shape, _, ink⟩
  · obtain ⟨letter, more, rfl⟩ := List.exists_cons_of_ne_nil worded.some
    obtain rfl := Option.some.inj first
    exact (worded.inside _ List.mem_cons_self).2
  · rw [shape] at first
    obtain rfl := Option.some.inj first
    exact ink

/-! ### SET -/

def setting (text : Text) : Option Text := (keyword "set" text).bind spaces

def aliased (text : Text) : Option Text :=
  if (keyword "set" text).any wordEnds then none
  else (word text).bind fun text => (spaces text).bind setting

theorem updateSet_eq (rest : Text) :
    updateSet rest = (spaces rest).bind fun text =>
      (((keyword "as" text).bind fun text => (spaces text).bind aliased).or (aliased text)).or
        (setting text) := rfl

/-- What stands before SET: names with blanks behind them. -/
structure Qualified (items : List Item) (after : Text) : Prop where
  names : ∀ item ∈ items, Parts.validName item = true
  gaps : ∀ item ∈ items, item.gap.all Piece.isGap = true
  clean : ∀ piece ∈ items.flatMap Item.pieces, Clean piece
  apart : kept after (items.flatMap Item.pieces)

section Set
variable {items : List Item} {set after found : Text}

theorem Qualified.tail {item : Item} (qualified : Qualified (item :: items) after) :
    Qualified items after := by
  obtain ⟨names, gaps, clean, apart⟩ := qualified
  rw [List.flatMap_cons] at clean apart
  rw [List.forall_mem_cons] at names gaps
  exact ⟨names.2, gaps.2, fun piece member => clean piece (List.mem_append_right _ member),
    (kept_append apart).2⟩

/-- The first item, which is a name, and what stands behind it. -/
theorem Qualified.head {item : Item} (qualified : Qualified (item :: items) after) :
    Clean item.piece ∧ item.piece.name.isSome = true ∧
      item.piece.isWordOf ["or", "set"] = false ∧ Blank (text 3 item.gap) ∧
      kept after (item.piece :: (item.gap ++ items.flatMap Item.pieces)) := by
  obtain ⟨names, gaps, clean, apart⟩ := qualified
  have named := names item List.mem_cons_self
  rw [Parts.validName, Bool.and_eq_true, Bool.not_eq_true'] at named
  rw [List.flatMap_cons, Item.pieces, List.cons_append] at clean apart
  rw [List.forall_mem_cons] at clean
  refine ⟨clean.1, named.1, named.2, gap_blank (gaps item List.mem_cons_self) ?_, apart⟩
  exact fun piece member => clean.2 piece (List.mem_append_left _ member)

theorem inked_items (qualified : Qualified items after) (inked : Inked after) :
    Inked (text 3 (items.flatMap Item.pieces) ++ after) := by
  cases items with
  | nil => exact inked
  | cons item items =>
      obtain ⟨clean, named, _⟩ := qualified.head
      rw [List.flatMap_cons, Item.pieces, List.cons_append, text_cons, List.append_assoc]
      exact name_inked clean named _

/-- The statement's SET, in any case, and a text behind it that ends the word. -/
structure Sets (set after : Text) : Prop where
  word : Worded set
  same : set.map Char.toLower = "set".toList
  stops : Stops after

theorem letters_set : Letters "set" := by decide

theorem letters_as : Letters "as" := by decide

theorem sets_inked (sets : Sets set after) : Inked (set ++ after) := by
  intro char first
  obtain ⟨letter, more, rfl⟩ := List.exists_cons_of_ne_nil sets.word.some
  obtain rfl := Option.some.inj first
  exact (sets.word.inside _ List.mem_cons_self).2

theorem sets_keyword (sets : Sets set after) : keyword "set" (set ++ after) = some after :=
  keyword_iff.2 ⟨set, rfl, sets.same⟩

theorem setting_items (qualified : Qualified items (set ++ after)) (sets : Sets set after)
    (read : setting (text 3 (items.flatMap Item.pieces) ++ (set ++ after)) = some found) :
    items = [] ∧ found = after.dropWhile isSpace := by
  obtain ⟨middle, key, spaced⟩ := Option.bind_eq_some_iff.mp read
  cases items with
  | nil =>
      refine ⟨rfl, ?_⟩
      have same := (sets_keyword sets).symm.trans key
      obtain rfl := Option.some.inj same
      unfold spaces at spaced
      split at spaced
      · exact (Option.some.inj spaced).symm
      · cases spaced
  | cons item items =>
      obtain ⟨clean, named, other, _, apart⟩ := qualified.head
      rw [List.flatMap_cons, Item.pieces, List.cons_append, text_cons, List.append_assoc] at key
      rcases name_starts clean named _ with ⟨letters, bare, worded⟩ | ⟨char, more, shape, plain, _⟩
      · -- the keyword would be the whole name
        rw [bare] at clean other key apart
        obtain ⟨same, _⟩ := keyword_spaced letters_set worded (stops_of_kept apart) key spaced
        have isSet := (isWordOf_iff clean ["or", "set"]).mpr ⟨"set", by decide, same⟩
        rw [isSet] at other
        cases other
      · rw [shape, keyword_plain letters_set plain] at key
        cases key

/-- A name before SET that is not AS. -/
theorem aliased_items (qualified : Qualified items (set ++ after)) (sets : Sets set after)
    (read : aliased (text 3 (items.flatMap Item.pieces) ++ (set ++ after)) = some found) :
    found = after.dropWhile isSpace := by
  unfold aliased at read
  split at read
  · cases read
  next unset =>
    obtain ⟨middle, key, worded⟩ := Option.bind_eq_some_iff.mp read
    obtain ⟨rest, spaced, last⟩ := Option.bind_eq_some_iff.mp worded
    clear read worded
    cases items with
    | nil =>
        -- the word would be SET itself
        refine absurd ?_ unset
        rw [List.flatMap_nil, text, List.flatMap_nil, List.nil_append, sets_keyword sets,
          Option.any_some, wordEnds]
        cases first : after.head? with
        | none => rfl
        | some char =>
            rw [Option.any_some, ends_of_stops sets.stops char first]
            rfl
    | cons item items =>
        obtain ⟨clean, named, _, blank, apart⟩ := qualified.head
        rw [List.flatMap_cons, Item.pieces, List.cons_append, text_cons, List.append_assoc] at key
        rcases name_starts clean named _ with ⟨letters, bare, worded⟩ |
          ⟨char, more, shape, plain, _⟩
        · rw [bare] at key apart
          have same := word_spaced worded (stops_of_kept apart) key spaced
          rw [same, text_append, List.append_assoc] at spaced
          have later := spaces_blank blank (inked_items qualified.tail (sets_inked sets)) spaced
          rw [later] at last
          exact (setting_items qualified.tail sets last).2
        · rw [shape] at key
          unfold word at key
          rw [List.head?_cons, Option.any_some, plain] at key
          cases key

/-- What `_update_columns` reads behind SET. -/
theorem updateSet_items {gap : Text} (blank : Blank gap) (qualified : Qualified items (set ++ after))
    (sets : Sets set after)
    (read : updateSet (gap ++ (text 3 (items.flatMap Item.pieces) ++ (set ++ after))) = some found) :
    found = after.dropWhile isSpace := by
  rw [updateSet_eq] at read
  obtain ⟨text, front, tried⟩ := Option.bind_eq_some_iff.mp read
  rw [spaces_blank blank (inked_items qualified (sets_inked sets)) front] at tried
  clear read front
  rcases Option.or_eq_some_iff.mp tried with named | ⟨_, direct⟩
  · rcases Option.or_eq_some_iff.mp named with marked | ⟨_, bare⟩
    · clear tried named
      obtain ⟨middle, key, spacing⟩ := Option.bind_eq_some_iff.mp marked
      obtain ⟨rest, spaced, last⟩ := Option.bind_eq_some_iff.mp spacing
      clear marked spacing
      cases items with
      | nil =>
          exfalso
          obtain ⟨same, _⟩ := keyword_spaced letters_as sets.word sets.stops key spaced
          rw [sets.same] at same
          cases same
      | cons item items =>
          obtain ⟨clean, named, _, blank, apart⟩ := qualified.head
          rw [List.flatMap_cons, Item.pieces, List.cons_append, text_cons,
            List.append_assoc] at key
          rcases name_starts clean named _ with ⟨letters, bare, worded⟩ |
            ⟨char, more, shape, plain, _⟩
          · rw [bare] at key apart
            obtain ⟨_, same⟩ := keyword_spaced letters_as worded (stops_of_kept apart) key spaced
            rw [same, text_append, List.append_assoc] at spaced
            rw [spaces_blank blank (inked_items qualified.tail (sets_inked sets)) spaced] at last
            exact aliased_items qualified.tail sets last
          · rw [shape, keyword_plain letters_as plain] at key
            cases key
    · exact aliased_items qualified sets bare
  · exact (setting_items qualified sets direct).2

end Set

/-! ### The table -/

/-- A name of ASCII letters, digits and `_`, bare or in quotes. -/
def plainName : Piece → Bool
  | .word name | .quoted _ name => name.head?.any isLetter && name.all isWord
  | _ => false

theorem doubled_unlisted {quote : Char} {inside : Text} (none : quote ∉ inside) :
    doubled quote inside = inside := by
  induction inside with
  | nil => rfl
  | cons char inside ih =>
      rw [List.mem_cons, not_or] at none
      rw [doubled, List.flatMap_cons, if_neg (Ne.symm none.1), List.singleton_append]
      exact congrArg (char :: ·) (ih none.2)

theorem span_word (letters rest : Text) (all : ∀ char ∈ letters, isWord char = true)
    (stops : Ends rest) :
    (letters ++ rest).takeWhile isWord = letters ∧ (letters ++ rest).dropWhile isWord = rest := by
  rw [List.takeWhile_append_of_pos all, List.dropWhile_append_of_pos all]
  cases rest with
  | nil => exact ⟨List.append_nil _, rfl⟩
  | cons char rest =>
      have other : ¬ isWord char = true := by
        rw [stops char rfl]
        exact Bool.false_ne_true
      rw [List.takeWhile_cons_of_neg other, List.dropWhile_cons_of_neg other]
      exact ⟨List.append_nil _, rfl⟩

/-- The characters before and after a name that are its quotes. -/
def closing : Piece → Text → Text
  | .word _, rest => skipQuote "\"`]" rest
  | _, rest => rest

/-- A plain name is read whole. -/
theorem name_reads {piece : Piece} (plain : plainName piece = true) {rest : Text}
    (ends : ∀ letters, piece = .word letters → Ends rest) :
    name (piece.text 3 ++ rest) =
      some (lower (String.ofList (piece.name.getD [])), closing piece rest) := by
  cases piece with
  | word letters =>
      rw [plainName, Bool.and_eq_true, List.all_eq_true] at plain
      obtain ⟨first, letter⟩ : ∃ first, letters.head? = some first ∧ isLetter first = true :=
        (Option.any_eq_true _ _).mp plain.1
      have unquoted : skipQuote "\"`[" (letters ++ rest) = letters ++ rest := by
        rw [skipQuote, if_neg]
        rw [List.head?_append, letter.1, Option.some_or, Option.any_some]
        intro quote
        have quotes : ∀ char ∈ "\"`[".toList, isWord char = false := chars_of_all (by decide)
        have other := quotes first (List.contains_iff_mem.mp quote)
        rw [isWord_of_isLetter letter.2] at other
        cases other
      obtain ⟨taken, left⟩ := span_word letters rest plain.2 (ends letters rfl)
      rw [Piece.text, name, unquoted, List.head?_append, letter.1, Option.some_or, Option.any_some, if_pos letter.2,
        taken, left]
      rfl
  | quoted quote inside =>
      rw [plainName, Bool.and_eq_true, List.all_eq_true] at plain
      obtain ⟨first, letter⟩ : ∃ first, inside.head? = some first ∧ isLetter first = true :=
        (Option.any_eq_true _ _).mp plain.1
      have closes : isWord quote.closes = false := by cases quote <;> decide
      have unlisted : quote.closes ∉ inside := by
        intro listed
        rw [plain.2 _ listed] at closes
        cases closes
      obtain ⟨taken, left⟩ := span_word inside (quote.closes :: rest) plain.2 fun char here => by
        obtain rfl := Option.some.inj here
        exact closes
      have opened : skipQuote "\"`[" (quote.opens :: (inside ++ quote.closes :: rest)) =
          inside ++ quote.closes :: rest := by
        cases quote <;> rfl
      have closed : skipQuote "\"`]" (quote.closes :: rest) = rest := by
        cases quote <;> rfl
      rw [Piece.text, doubled_unlisted unlisted, List.cons_append, List.cons_append,
        List.append_assoc, List.singleton_append, name, opened, List.head?_append, letter.1, Option.some_or, Option.any_some, if_pos letter.2,
        taken, left, closed]
      rfl
  | blank char => cases plain
  | line comment => cases plain
  | block comment => cases plain
  | string literal => cases plain
  | mark char => cases plain

theorem tableAndRest_reads {gap rest : Text} {piece : Piece} {found : String × Text}
    (blank : Blank gap) (clean : Clean piece) (plain : plainName piece = true)
    (stops : ∀ letters, piece = .word letters → Stops rest)
    (read : tableAndRest (gap ++ (piece.text 3 ++ rest)) = some found) :
    found = (lower (String.ofList (piece.name.getD [])), closing piece rest) := by
  have named : piece.name.isSome = true := by
    cases piece with
    | word letters => rfl
    | quoted quote inside => rfl
    | blank char => cases plain
    | line comment => cases plain
    | block comment => cases plain
    | string literal => cases plain
    | mark char => cases plain
  obtain ⟨middle, spaced, name⟩ := Option.bind_eq_some_iff.mp read
  rw [spaces_blank blank (name_inked clean named rest) spaced,
    name_reads plain fun letters word => ends_of_stops (stops letters word)] at name
  exact (Option.some.inj name).symm

theorem letters_or : Letters "or" := by decide

/-- Without a conflict clause the name behind UPDATE is read. -/
theorem optionalOr_name {gap rest : Text} {piece : Piece} {found : String × Text}
    (blank : Blank gap) (clean : Clean piece) (named : piece.name.isSome = true)
    (other : piece.isWordOf ["or", "set"] = false)
    (stops : ∀ letters, piece = .word letters → Stops rest)
    (read : optionalOr (gap ++ (piece.text 3 ++ rest)) tableAndRest = some found) :
    tableAndRest (gap ++ (piece.text 3 ++ rest)) = some found := by
  rcases Option.or_eq_some_iff.mp read with conflict | ⟨_, direct⟩
  · exfalso
    obtain ⟨start, spaced, keyed⟩ := Option.bind_eq_some_iff.mp conflict
    obtain ⟨middle, key, later⟩ := Option.bind_eq_some_iff.mp keyed
    obtain ⟨after, spaced', _⟩ := Option.bind_eq_some_iff.mp later
    rw [spaces_blank blank (name_inked clean named rest) spaced] at key
    rcases name_starts clean named rest with ⟨letters, rfl, worded⟩ | ⟨char, more, shape, plain, _⟩
    · obtain ⟨same, _⟩ := keyword_spaced letters_or worded (stops letters rfl) key spaced'
      rw [(isWordOf_iff clean _).mpr ⟨"or", by decide, same⟩] at other
      cases other
    · rw [shape, keyword_plain letters_or plain] at key
      cases key
  · exact direct

/-- With a conflict clause the name behind it is read, or OR is. -/
theorem optionalOr_conflict {gap gap' gap'' or action rest : Text} {found : String × Text}
    (blank : Blank gap) (blank' : Blank gap') (cleanOr : Clean (.word or))
    (same : or.map Char.toLower = "or".toList) (stops : Stops (gap' ++ (action ++ (gap'' ++ rest))))
    (worded : Worded action) (stops' : Stops (gap'' ++ rest))
    (read : optionalOr (gap ++ (or ++ (gap' ++ (action ++ (gap'' ++ rest))))) tableAndRest =
      some found) :
    found.1 = "or" ∨ tableAndRest (gap'' ++ rest) = some found := by
  have inkedAction : Inked (action ++ (gap'' ++ rest)) := by
    intro char first
    obtain ⟨letter, more, rfl⟩ := List.exists_cons_of_ne_nil worded.some
    obtain rfl := Option.some.inj first
    exact (worded.inside _ List.mem_cons_self).2
  have inkedOr := name_inked cleanOr rfl (gap' ++ (action ++ (gap'' ++ rest)))
  rcases Option.or_eq_some_iff.mp read with conflict | ⟨_, direct⟩
  · refine .inr ?_
    obtain ⟨start, spaced, keyed⟩ := Option.bind_eq_some_iff.mp conflict
    obtain ⟨middle, key, later⟩ := Option.bind_eq_some_iff.mp keyed
    obtain ⟨next, spaced', word'⟩ := Option.bind_eq_some_iff.mp later
    obtain ⟨last, acted, table⟩ := Option.bind_eq_some_iff.mp word'
    obtain ⟨_, spaced'', _⟩ := Option.bind_eq_some_iff.mp table
    rw [spaces_blank blank inkedOr spaced] at key
    obtain ⟨_, rfl⟩ := keyword_spaced letters_or (worded_of_clean cleanOr) stops key spaced'
    rw [spaces_blank blank' inkedAction spaced'] at acted
    rw [word_spaced worded stops' acted spaced''] at table
    exact table
  · refine .inl ?_
    have plain : plainName (.word or) = true := by
      have letters : ∀ char ∈ or, isLetter char = true := by
        intro char listed
        have lower : char.toLower ∈ "or".toList := same ▸ List.mem_map_of_mem listed
        exact isLetter_of_lower (letters_or.2 _ lower)
      rw [plainName, Bool.and_eq_true, List.all_eq_true, Option.any_eq_true]
      refine ⟨?_, fun char listed => isWord_of_isLetter (letters char listed)⟩
      obtain ⟨first, more, rfl⟩ := List.exists_cons_of_ne_nil (worded_of_clean cleanOr).some
      exact ⟨first, rfl, letters first List.mem_cons_self⟩
    rw [tableAndRest_reads blank cleanOr plain (fun letters word => ?_) direct]
    · refine String.toList_inj.mp ?_
      rw [Piece.name, Option.getD_some, lower_ascii (word_ascii cleanOr), same]
    · exact stops

/-- An UPDATE is read by its table and the columns behind it. -/
theorem matchWrite_update {gap verb rest : Text} (blank : Blank gap) (worded : Worded verb)
    (same : verb.map Char.toLower = "update".toList) :
    matchWrite (gap ++ (verb ++ rest)) = (optionalOr rest tableAndRest).map fun found =>
      Write.mk found.1 (updateColumns found.2) := by
  have key : keyword "update" (verb ++ rest) = some rest := keyword_iff.2 ⟨verb, rfl, same⟩
  obtain ⟨first, more, rfl⟩ := List.exists_cons_of_ne_nil worded.some
  have start : first.toLower = 'u' := (List.cons.inj same).1
  have dropped : (gap ++ (first :: more ++ rest)).dropWhile isSpace = first :: more ++ rest := by
    refine dropWhile_blank blank fun char here => ?_
    obtain rfl := Option.some.inj here
    exact (worded.inside _ List.mem_cons_self).2
  have other : ∀ name : String, name.toList.head? ≠ some 'u' → name.toList ≠ [] →
      keyword name (first :: more ++ rest) = none := by
    intro name differ nonempty
    exact keyword_ne (by rw [start]; exact differ) nonempty
  rw [matchWrite, dropped, inserting, deleting, other "insert" (by decide) (by decide),
    other "replace" (by decide) (by decide), other "delete" (by decide) (by decide), key]
  simp

/-! ### The front of the statement -/

/-- A quoted name that would be read whole. -/
def readable : Piece → Bool
  | .quoted quote name => plainName (.quoted quote name)
  | _ => true

theorem updateSet_inked {text : Text} (inked : Inked text) : updateSet text = none := by
  rw [updateSet_eq, spaces_inked inked]
  rfl

/-- A quote read as the end of the table's name leaves no SET to read. -/
theorem updateSet_skipped {items : List Item} {gap set after found : Text} (blank : Blank gap)
    (qualified : Qualified items (set ++ after)) (sets : Sets set after)
    (quotes : ∀ item ∈ items, readable item.piece = true)
    (read : updateSet (skipQuote "\"`]"
      (gap ++ (text 3 (items.flatMap Item.pieces) ++ (set ++ after)))) = some found) :
    updateSet (gap ++ (text 3 (items.flatMap Item.pieces) ++ (set ++ after))) = some found := by
  have marks : ∀ char ∈ "\"`]".toList, isSpace char = false ∧ inName char = false :=
    chars_of_all (by decide)
  unfold skipQuote at read
  split at read
  next skipped =>
    exfalso
    obtain ⟨char, first, quote⟩ := (Option.any_eq_true _ _).mp skipped
    obtain ⟨ink, outside⟩ := marks char (List.contains_iff_mem.mp quote)
    cases gap with
    | cons space gap =>
        obtain rfl := Option.some.inj first
        rw [blank _ List.mem_cons_self] at ink
        cases ink
    | nil =>
        cases items with
        | nil =>
            obtain ⟨letter, more, rfl⟩ := List.exists_cons_of_ne_nil sets.word.some
            obtain rfl := Option.some.inj first
            rw [(sets.word.inside _ List.mem_cons_self).1] at outside
            cases outside
        | cons item items =>
            obtain ⟨clean, named, _⟩ := qualified.head
            have plain := quotes item List.mem_cons_self
            rw [List.nil_append, List.flatMap_cons, Item.pieces, List.cons_append, text_cons,
              List.append_assoc] at first read
            cases shape : item.piece with
            | word letters =>
                rw [shape] at clean first
                obtain ⟨letter, more, rfl⟩ :=
                  List.exists_cons_of_ne_nil (worded_of_clean clean).some
                obtain rfl := Option.some.inj first
                rw [((worded_of_clean clean).inside _ List.mem_cons_self).1] at outside
                cases outside
            | quoted mark inside =>
                -- what is left starts with a letter of the name
                rw [shape] at plain read
                rw [readable, plainName, Bool.and_eq_true] at plain
                obtain ⟨letter, start, isLetter⟩ := (Option.any_eq_true _ _).mp plain.1
                cases inside with
                | nil => cases start
                | cons head inside =>
                    obtain rfl := Option.some.inj start
                    have word := isWord_of_isLetter isLetter
                    rw [updateSet_inked] at read
                    · cases read
                    · intro char here
                      have same : char = head := by
                        rw [Piece.text, doubled, List.flatMap_cons] at here
                        split at here
                        · exact (Option.some.inj here).symm
                        · exact (Option.some.inj here).symm
                      rw [same]
                      exact word_inked word
            | string literal =>
                rw [shape] at first
                obtain rfl := Option.some.inj first
                cases quote
            | blank space =>
                rw [shape] at named
                cases named
            | line comment =>
                rw [shape] at named
                cases named
            | block comment =>
                rw [shape] at named
                cases named
            | mark mark =>
                rw [shape] at named
                cases named
  · exact read

section Front
variable {parts : Parts} {after : Text}

/-- What is behind the verb: a conflict clause or none, and then a name. -/
theorem optionalOr_reads {gap rest : Text} {piece : Piece} {found : String × Text}
    (blank : Blank gap) (conflicts : parts.validConflict = true)
    (gaps : ∀ item ∈ parts.conflict, item.gap.all Piece.isGap = true)
    (cleans : ∀ piece ∈ parts.conflict.flatMap Item.pieces, Clean piece)
    (apart : kept (piece.text 3 ++ rest) (parts.conflict.flatMap Item.pieces))
    (clean : Clean piece) (named : piece.name.isSome = true)
    (other : piece.isWordOf ["or", "set"] = false)
    (stops : ∀ letters, piece = .word letters → Stops rest)
    (read : optionalOr (gap ++ (text 3 (parts.conflict.flatMap Item.pieces) ++
      (piece.text 3 ++ rest))) tableAndRest = some found) :
    found.1 = "or" ∨
      ∃ gap, Blank gap ∧ tableAndRest (gap ++ (piece.text 3 ++ rest)) = some found := by
  unfold Parts.validConflict at conflicts
  split at conflicts
  next none =>
    rw [none] at read
    exact .inr ⟨gap, blank, optionalOr_name blank clean named other stops read⟩
  next or action both =>
    rw [both, List.forall_mem_cons, List.forall_mem_cons] at gaps
    rw [both] at cleans apart read
    rw [Bool.and_eq_true] at conflicts
    simp only [List.flatMap_cons, List.flatMap_nil, List.append_nil, Item.pieces, List.cons_append,
      text_cons, text_append, List.append_assoc] at cleans apart read
    obtain ⟨isOr, isAction⟩ := conflicts
    have cleanOr := cleans or.piece List.mem_cons_self
    have cleanAction := cleans action.piece
      (List.mem_cons_of_mem _ (List.mem_append_right _ List.mem_cons_self))
    have blankOr := gap_blank gaps.1 fun piece member =>
      cleans piece (List.mem_cons_of_mem _ (List.mem_append_left _ member))
    have blankAction := gap_blank gaps.2.1 fun piece member =>
      cleans piece (List.mem_cons_of_mem _ (List.mem_append_right _
        (List.mem_cons_of_mem _ member)))
    obtain ⟨orText, bareOr⟩ := isWordOf_word isOr
    obtain ⟨actionText, bareAction⟩ := isWordOf_word isAction
    rw [bareOr, bareAction] at apart read
    rw [bareOr] at cleanOr isOr
    rw [bareAction] at cleanAction
    have stopsOr := stops_of_kept apart
    have stopsAction := stops_of_kept (kept_append apart.2).2
    simp only [text_append, text_cons, List.append_assoc] at stopsOr
    obtain ⟨name, listed, same⟩ := (isWordOf_iff cleanOr _).mp isOr
    rw [List.mem_singleton.mp listed] at same
    rcases optionalOr_conflict blank blankOr cleanOr same stopsOr (worded_of_clean cleanAction)
      stopsAction read with isOr | table
    · exact .inl isOr
    · exact .inr ⟨_, blankAction, table⟩
  · cases conflicts

/-- What `_update_columns` finds in the text behind SET. -/
def columnsOf (set : Text) : List String :=
  ((((searchWords ["where", "returning", "from"] none (peel set)).map Prod.fst).getD
    (peel set)).splitOn ',').filterMap assigned

theorem updateColumns_some {rest : Text} {columns : List String}
    (found : updateColumns rest = some columns) :
    ∃ set, updateSet rest = some set ∧ columns = columnsOf set := by
  obtain ⟨set, read, found⟩ := Option.bind_eq_some_iff.mp found
  refine ⟨set, read, ?_⟩
  dsimp only at found
  split at found
  · cases found
  · exact (Option.some.inj found).symm

/-- The names of the front can be read. -/
structure Named (parts : Parts) : Prop where
  table : plainName parts.table.piece = true
  schema : ∀ schema ∈ parts.schema.head?, plainName schema.piece = true ∧
    livenessWrites (lower (String.ofList (schema.piece.name.getD []))) = none
  qualifier : ∀ item ∈ parts.qualifier, readable item.piece = true

/-- The front of a valid statement, once the passes were made, and the text behind it. -/
structure Fronted (parts : Parts) (after : Text) : Prop where
  valid : parts.valid = true
  clean : ∀ piece ∈ parts.items.flatMap Item.pieces, Clean piece
  apart : kept after (parts.items.flatMap Item.pieces)
  named : Named parts

theorem livenessWrites_of_live {write : Write} (live : write.liveness = true) :
    livenessWrites write.table ≠ none := by
  intro undeclared
  rw [Write.liveness, undeclared] at live
  cases live

theorem valid_fields (valid : parts.valid = true) :
    parts.lead.all Piece.isGap = true ∧ (∀ item ∈ parts.items, item.gap.all Piece.isGap = true) ∧
      parts.validCommon = true ∧ parts.verb.piece.isWordOf ["update"] = true ∧
      parts.validConflict = true ∧ parts.validSchema = true ∧
      Parts.validName parts.table = true ∧ (∀ item ∈ parts.qualifier, Parts.validName item = true) ∧
      parts.set.piece.isWordOf ["set"] = true ∧
      (∀ assignment ∈ parts.assignments, assignment.valid = true) ∧
      lexed parts.tail parts.pieces = true := by
  simp only [Parts.valid, Bool.and_eq_true, List.all_eq_true] at valid
  obtain ⟨⟨⟨⟨⟨⟨⟨⟨⟨⟨⟨⟨lead, gaps⟩, common⟩, verb⟩, conflict⟩, schema⟩, table⟩, qualifier⟩, set⟩, _⟩,
    assignments⟩, _⟩, lexed⟩ := valid
  refine ⟨List.all_eq_true.mpr lead, fun item member => List.all_eq_true.mpr (gaps item member),
    common, verb, conflict, schema, table, qualifier, set, assignments, lexed⟩

theorem items_pieces (parts : Parts) :
    parts.items.flatMap Item.pieces = parts.verb.piece :: (parts.verb.gap ++
      (parts.conflict.flatMap Item.pieces ++ (parts.schema.flatMap Item.pieces ++
        (parts.table.piece :: (parts.table.gap ++
          (parts.qualifier.flatMap Item.pieces ++ (parts.set.piece :: parts.set.gap))))))) := by
  simp [Parts.items, Item.pieces]

/-- Behind the table stands a qualifier or none, and SET. -/
theorem table_reads {gap found : Text} {piece : Piece} (fronted : Fronted parts after)
    (blank : Blank gap)
    (read : updateSet (closing piece (gap ++ (text 3 (parts.qualifier.flatMap Item.pieces) ++
      (parts.set.piece.text 3 ++ (text 3 parts.set.gap ++ after))))) = some found) :
    found = after.dropWhile isSpace := by
  obtain ⟨valid, clean, apart, named⟩ := fronted
  obtain ⟨_, gaps, _, _, _, _, _, qualifier, set, _⟩ := valid_fields valid
  rw [items_pieces] at clean apart
  have behind : ∀ item ∈ parts.qualifier, item ∈ parts.items := by
    intro item member
    simp [Parts.items, member]
  have last : parts.set ∈ parts.items := by simp [Parts.items]
  -- the pieces from the qualifier on
  have apart' := (kept_append (kept_append (kept_append (kept_append apart.2).2).2).2.2).2
  have clean' : ∀ piece ∈ parts.qualifier.flatMap Item.pieces ++ parts.set.piece :: parts.set.gap,
      Clean piece := fun piece member => clean piece (List.mem_cons_of_mem _
    (List.mem_append_right _ (List.mem_append_right _ (List.mem_append_right _
      (List.mem_cons_of_mem _ (List.mem_append_right _ member))))))
  have cleanSet := clean' _ (List.mem_append_right _ List.mem_cons_self)
  have blankSet : Blank (text 3 parts.set.gap) := gap_blank (gaps _ last) fun piece member =>
    clean' _ (List.mem_append_right _ (List.mem_cons_of_mem _ member))
  obtain ⟨letters, bare⟩ := isWordOf_word set
  rw [bare] at set cleanSet read apart'
  obtain ⟨name, listed, same⟩ := (isWordOf_iff cleanSet _).mp set
  rw [List.mem_singleton.mp listed] at same
  have sets : Sets letters (text 3 parts.set.gap ++ after) :=
    ⟨worded_of_clean cleanSet, same, stops_of_kept (kept_append apart').2⟩
  have qualified : Qualified parts.qualifier (letters ++ (text 3 parts.set.gap ++ after)) := by
    refine ⟨qualifier, fun item member => gaps item (behind item member),
      fun piece member => clean' piece (List.mem_append_left _ member), ?_⟩
    have front := (kept_append apart').1
    rw [text_cons, List.append_assoc] at front
    exact front
  have direct : updateSet (gap ++ (text 3 (parts.qualifier.flatMap Item.pieces) ++
      (letters ++ (text 3 parts.set.gap ++ after)))) = some found := by
    unfold closing at read
    split at read
    · exact updateSet_skipped blank qualified sets named.qualifier read
    · exact read
  rw [updateSet_items blank qualified sets direct, List.dropWhile_append_of_pos blankSet]

/-- A statement that is marked is read by its own table and its own SET. -/
theorem front_reads {lead : Text} {write : Write} (fronted : Fronted parts after)
    (blank : Blank lead)
    (read : matchWrite (lead ++ (text 3 (parts.items.flatMap Item.pieces) ++ after)) = some write)
    (live : write.liveness = true) :
    write.table = lower (String.ofList (parts.table.piece.name.getD [])) ∧
      ∀ columns, write.columns = some columns → columns = columnsOf (after.dropWhile isSpace) := by
  have declared := livenessWrites_of_live live
  obtain ⟨_, gaps, _, verb, conflict, schema, table, _, _, _⟩ := valid_fields fronted.valid
  have clean := fronted.clean
  have apart := fronted.apart
  rw [items_pieces] at clean apart read
  rw [Parts.validName, Bool.and_eq_true, Bool.not_eq_true'] at table
  obtain ⟨verbText, bareVerb⟩ := isWordOf_word verb
  have cleanVerb := clean _ List.mem_cons_self
  have blankVerb : Blank (text 3 parts.verb.gap) :=
    gap_blank (gaps _ (by simp [Parts.items])) fun piece member =>
      clean piece (List.mem_cons_of_mem _ (List.mem_append_left _ member))
  rw [bareVerb] at verb cleanVerb read
  obtain ⟨name, listed, same⟩ := (isWordOf_iff cleanVerb _).mp verb
  rw [List.mem_singleton.mp listed] at same
  rw [text_cons, List.append_assoc, Piece.text,
    matchWrite_update blank (worded_of_clean cleanVerb) same] at read
  obtain ⟨found, reads, rfl⟩ := Option.map_eq_some_iff.mp read
  dsimp only at declared ⊢
  rw [text_append, List.append_assoc, text_append, List.append_assoc] at reads
  -- the pieces from the conflict clause on
  have apart' := (kept_append apart.2).2
  have clean' : ∀ piece ∈ parts.conflict.flatMap Item.pieces ++
      (parts.schema.flatMap Item.pieces ++ (parts.table.piece :: (parts.table.gap ++
        (parts.qualifier.flatMap Item.pieces ++ (parts.set.piece :: parts.set.gap))))), Clean piece :=
    fun piece member => clean piece (List.mem_cons_of_mem _ (List.mem_append_right _ member))
  have conflictGaps : ∀ item ∈ parts.conflict, item.gap.all Piece.isGap = true :=
    fun item member => gaps item (by simp [Parts.items, member])
  have conflictClean : ∀ piece ∈ parts.conflict.flatMap Item.pieces, Clean piece :=
    fun piece member => clean' piece (List.mem_append_left _ member)
  have conflictApart := (kept_append apart').1
  have namesApart := (kept_append apart').2
  have namesClean := fun piece member => clean' piece (List.mem_append_right _ member)
  unfold Parts.validSchema at schema
  split at schema
  next none =>
    rw [none, List.flatMap_nil, List.nil_append] at reads conflictApart namesApart namesClean
    rw [text_cons, List.append_assoc] at reads conflictApart
    have stops := stops_behind namesApart
    have cleanTable := namesClean _ List.mem_cons_self
    rcases optionalOr_reads blankVerb conflict conflictGaps conflictClean conflictApart cleanTable
      table.1 table.2 stops reads with isOr | ⟨gap, blank, direct⟩
    · rw [isOr] at declared
      exact absurd rfl declared
    · rw [tableAndRest_reads blank cleanTable fronted.named.table stops direct]
      refine ⟨rfl, fun columns found => ?_⟩
      obtain ⟨set, read, rfl⟩ := updateColumns_some found
      dsimp only at read
      rw [text_append, List.append_assoc, text_append, List.append_assoc, text_cons,
        List.append_assoc] at read
      have blankTable : Blank (text 3 parts.table.gap) :=
        gap_blank (gaps _ (by simp [Parts.items])) fun piece member =>
          namesClean piece (List.mem_cons_of_mem _ (List.mem_append_left _ member))
      rw [table_reads fronted blankTable read]
  next schemaItem dot both =>
    -- the schema is read as the table, and it is no table of the liveness writes
    exfalso
    rw [both] at reads conflictApart namesApart namesClean
    simp only [List.flatMap_cons, Item.pieces, List.cons_append, List.append_assoc]
      at namesApart namesClean reads conflictApart
    rw [text_cons, List.append_assoc] at reads conflictApart
    rw [Bool.and_eq_true, Parts.validName, Bool.and_eq_true, Bool.not_eq_true'] at schema
    obtain ⟨plain, undeclared⟩ := fronted.named.schema schemaItem (by rw [both]; rfl)
    have stops := stops_behind namesApart
    have cleanSchema := namesClean _ List.mem_cons_self
    rcases optionalOr_reads blankVerb conflict conflictGaps conflictClean conflictApart cleanSchema
      schema.1.1 schema.1.2 stops reads with isOr | ⟨gap, blank, direct⟩
    · rw [isOr] at declared
      exact declared rfl
    · rw [tableAndRest_reads blank cleanSchema plain stops direct] at declared
      exact declared undeclared
  · cases schema

end Front

end AifyComms.UpdateReading
