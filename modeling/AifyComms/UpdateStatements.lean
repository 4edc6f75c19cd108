import AifyComms.WrittenPasses

/-!
An UPDATE statement as its author writes it: blanks, comments, string literals, quoted names,
words and marks, and the parts of the statement over them. `Update.assigned` says which columns
it assigns; its text is what `written_table` is given.
-/

namespace AifyComms.UpdateStatements
open PyText WrittenTables WrittenPasses

/-! ### Pieces of a text -/

def backtick : Char := Char.ofNat 0x60

inductive Quote where
  | double
  | back
  | bracket
  deriving DecidableEq

def Quote.opens : Quote → Char
  | .double => '"'
  | .back => backtick
  | .bracket => '['

def Quote.closes : Quote → Char
  | .double => '"'
  | .back => backtick
  | .bracket => ']'

inductive Piece where
  | blank (char : Char)
  | line (text : Text)
  | block (text : Text)
  | string (text : Text)
  | quoted (quote : Quote) (text : Text)
  | word (text : Text)
  | mark (char : Char)
  deriving DecidableEq

/-- A character of a bare name: a letter, a digit, `_`, `$` or any that is not ASCII. -/
def inName (char : Char) : Bool := isWord char || char == '$' || decide (0x80 ≤ char.toNat)

def hasPair (first second : Char) : Text → Bool
  | one :: two :: rest => (one == first && two == second) || hasPair first second (two :: rest)
  | _ => false

def doubled (quote : Char) (text : Text) : Text :=
  text.flatMap fun char => if char = quote then [char, char] else [char]

/-- The text of a piece once `passed` passes were made: line comments go first, then block
comments, then what is in string literals. -/
def Piece.text (passed : Nat) : Piece → Text
  | .blank char => [char]
  | .line text => if passed = 0 then '-' :: '-' :: text ++ ['\n'] else [' ', '\n']
  | .block text => if passed < 2 then '/' :: '*' :: text ++ ['*', '/'] else [' ']
  | .string text => if passed < 3 then '\'' :: doubled '\'' text ++ ['\''] else ['\'', '\'']
  | .quoted quote text => quote.opens :: doubled quote.closes text ++ [quote.closes]
  | .word text => text
  | .mark char => [char]

def Piece.valid : Piece → Bool
  | .blank char => [' ', '\t', '\n', '\r', Char.ofNat 12].contains char
  | .line text => !text.contains '\n'
  | .block text => !hasPair '*' '/' text
  | .string _ => true
  | .quoted quote text => decide (quote ≠ .bracket) || !text.contains ']'
  | .word text => !text.isEmpty && text.all inName
  | .mark char =>
      decide (0x20 < char.toNat) && decide (char.toNat < 0x7f) && !inName char &&
        !(['\'', '"', backtick, '['].contains char)

/-- With this character behind it, the piece would be read as another one. -/
def Piece.clashes (next : Char) : Piece → Bool
  | .word _ => inName next
  | .mark char => (char == '-' && next == '-') || (char == '/' && next == '*')
  | .string _ => next == '\''
  | .quoted quote _ => decide (quote ≠ .bracket) && next == quote.closes
  | _ => false

def text (passed : Nat) (pieces : List Piece) : Text := pieces.flatMap (Piece.text passed)

/-- The text of these pieces, with `after` behind it, is read as these pieces. -/
def lexed (after : Text) : List Piece → Bool
  | [] => true
  | piece :: rest =>
      piece.valid && !((text 0 rest ++ after).head?.any piece.clashes) && lexed after rest

def Piece.isGap : Piece → Bool
  | .blank _ | .line _ | .block _ => true
  | _ => false

/-- What a piece names, where a name is asked for. -/
def Piece.name : Piece → Option Text
  | .word text | .quoted _ text | .string text => some text
  | _ => none

def Piece.isWordOf (words : List String) : Piece → Bool
  | .word text => words.contains (lower (String.ofList text))
  | _ => false

/-- How deep in parentheses the pieces end. -/
def nesting : Nat → List Piece → Option Nat
  | level, [] => some level
  | level, .mark char :: rest => (deeper level char).bind fun level => nesting level rest
  | level, _ :: rest => nesting level rest

/-- The pieces outside parentheses. -/
def unnested : Nat → List Piece → List Piece
  | _, [] => []
  | level, piece :: rest =>
      if piece = .mark '(' then unnested (level + 1) rest
      else if piece = .mark ')' then unnested (level - 1) rest
      else if level = 0 then piece :: unnested 0 rest
      else unnested level rest

/-! ### The statement -/

structure Item where
  piece : Piece
  gap : List Piece

def Item.pieces (item : Item) : List Piece := item.piece :: item.gap

inductive Target where
  | column (name : Piece)
  | columns (inside : List Piece)

def Target.pieces : Target → List Piece
  | .column name => [name]
  | .columns inside => .mark '(' :: inside ++ [.mark ')']

def Target.names : Target → List Text
  | .column name => name.name.toList
  | .columns inside => inside.filterMap Piece.name

def Target.valid : Target → Bool
  | .column name => name.name.isSome
  | .columns inside =>
      inside.all fun piece => piece.isGap || piece.name.isSome || decide (piece = .mark ',')

/-- One assignment, and the blanks behind the comma that may follow it. -/
structure Assignment where
  target : Target
  gap : List Piece
  value : List Piece
  next : List Piece

def Assignment.pieces (assignment : Assignment) : List Piece :=
  assignment.target.pieces ++ assignment.gap ++ .mark '=' :: assignment.value

def Assignment.valid (assignment : Assignment) : Bool :=
  assignment.target.valid && assignment.gap.all Piece.isGap && assignment.next.all Piece.isGap &&
    decide (nesting 0 assignment.value = some 0) &&
    !(unnested 0 assignment.value).contains (.mark ',')

/-- The columns an assignment assigns, as the database compares them. -/
def Assignment.columns (assignment : Assignment) : List String :=
  assignment.target.names.map fun name => lower (String.ofList name)

/-- The assignments, with commas between them. -/
def list : List Assignment → List Piece
  | [] => []
  | [last] => last.pieces
  | first :: rest => first.pieces ++ .mark ',' :: first.next ++ list rest

/-- The parts of an UPDATE statement. `common` is its WITH clause, `qualifier` what stands
between the table and SET (an alias, an index hint), `tail` everything after the assignments. -/
structure Parts where
  lead : List Piece
  common : List Piece
  verb : Item
  conflict : List Item
  schema : List Item
  table : Item
  qualifier : List Item
  set : Item
  assignments : List Assignment
  tail : Text

namespace Parts

def items (parts : Parts) : List Item :=
  parts.verb :: parts.conflict ++ parts.schema ++ parts.table :: parts.qualifier ++ [parts.set]

def opening (parts : Parts) : List Piece :=
  parts.lead ++ parts.common ++ parts.items.flatMap Item.pieces

def pieces (parts : Parts) : List Piece := parts.opening ++ list parts.assignments

def validCommon (parts : Parts) : Bool :=
  match parts.common with
  | [] => true
  | first :: _ => first.isWordOf ["with"] && decide (nesting 0 parts.common = some 0) &&
      !(unnested 0 parts.common).any (Piece.isWordOf ["update"])

def validConflict (parts : Parts) : Bool :=
  match parts.conflict with
  | [] => true
  | [or, action] => or.piece.isWordOf ["or"] &&
      action.piece.isWordOf ["rollback", "abort", "replace", "fail", "ignore"]
  | _ => false

/-- A bare name that is no word of the statement's own. -/
def validName (item : Item) : Bool :=
  item.piece.name.isSome && !item.piece.isWordOf ["or", "set"]

def validSchema (parts : Parts) : Bool :=
  match parts.schema with
  | [] => true
  | [schema, dot] => validName schema && decide (dot.piece = .mark '.')
  | _ => false

def validTail (parts : Parts) : Bool :=
  parts.tail.isEmpty || parts.tail.head? == some ';' ||
    ["from", "where", "returning", "order", "limit"].any fun word =>
      (keyword word parts.tail).any wordEnds

def valid (parts : Parts) : Bool :=
  parts.lead.all Piece.isGap && parts.items.all (fun item => item.gap.all Piece.isGap) &&
    parts.validCommon && parts.verb.piece.isWordOf ["update"] && parts.validConflict &&
    parts.validSchema && validName parts.table && parts.qualifier.all validName &&
    parts.set.piece.isWordOf ["set"] && !parts.assignments.isEmpty &&
    parts.assignments.all Assignment.valid && parts.validTail && lexed parts.tail parts.pieces

end Parts

structure Update extends Parts where
  wellFormed : toParts.valid = true

namespace Update

def sql (update : Update) : String := String.ofList (text 0 update.pieces ++ update.tail)

def tableName (update : Update) : String :=
  lower (String.ofList (update.table.piece.name.getD []))

/-- The columns the statement assigns. -/
def assigned (update : Update) : List String := update.assignments.flatMap Assignment.columns

end Update

/-! ### What the passes leave of the pieces -/

/-- The passes read this piece as it is: no mark of a comment in it but its own, no quote of a
string and no parenthesis in a quoted name, and no character that is not ASCII in a name. -/
def Piece.plain (piece : Piece) : Bool :=
  match piece with
  | .block _ => !hasPair '-' '-' (piece.text 0)
  | .string _ => !hasPair '-' '-' (piece.text 0) && !hasPair '/' '*' (piece.text 0)
  | .quoted _ text => !hasPair '-' '-' (piece.text 0) && !hasPair '/' '*' (piece.text 0) &&
      text.all fun char => !(['\'', '(', ')'].contains char) && decide (char.toNat < 0x80)
  | .word text => text.all fun char => decide (char.toNat < 0x80)
  | _ => true

theorem keeps_unpaired {pass : Text → Text} {first second : Char}
    (keeps : ∀ char rest, ¬ (char = first ∧ rest.head? = some second) →
      pass (char :: rest) = char :: pass rest)
    {front back : Text} (none : hasPair first second front = false)
    (ends : front.getLast? = some first → back.head? ≠ some second) :
    pass (front ++ back) = front ++ pass back := by
  induction front with
  | nil => rfl
  | cons char rest ih =>
      cases rest with
      | nil =>
          refine keeps char back fun pair => ?_
          exact ends (by rw [pair.1]; rfl) pair.2
      | cons next rest =>
          rw [hasPair, Bool.or_eq_false_iff] at none
          rw [List.getLast?_cons_cons] at ends
          rw [List.cons_append, keeps, ih none.2 ends, List.cons_append]
          · rfl
          rintro ⟨rfl, following⟩
          obtain rfl : next = second := Option.some.inj following
          rw [beq_self_eq_true, beq_self_eq_true] at none
          cases none.1

theorem keeps_unlisted {pass : Text → Text} {opens : Char}
    (keeps : ∀ char rest, char ≠ opens → pass (char :: rest) = char :: pass rest)
    {front : Text} (none : opens ∉ front) (back : Text) :
    pass (front ++ back) = front ++ pass back := by
  induction front with
  | nil => rfl
  | cons char rest ih =>
      rw [List.mem_cons, not_or] at none
      rw [List.cons_append, keeps char _ (Ne.symm none.1), ih none.2, List.cons_append]

theorem dropLine_unpaired (inside : Bool) {char : Char} {rest : Text}
    (unpaired : ¬ (char = '-' ∧ rest.head? = some '-')) :
    dropLineComments inside (char :: rest) =
      if inside then
        if char = '\n' then char :: dropLineComments false rest else dropLineComments true rest
      else char :: dropLineComments false rest := by
  rw [dropLineComments]
  rintro more rfl rfl
  exact unpaired ⟨rfl, rfl⟩

theorem dropLine_keeps (char : Char) (rest : Text)
    (unpaired : ¬ (char = '-' ∧ rest.head? = some '-')) :
    dropLineComments false (char :: rest) = char :: dropLineComments false rest := by
  rw [dropLine_unpaired false unpaired]
  rfl

theorem dropLine_inside {char : Char} (sameLine : char ≠ '\n') (rest : Text) :
    dropLineComments true (char :: rest) = dropLineComments true rest := by
  induction rest generalizing char with
  | nil => rw [dropLine_unpaired true (by simp), if_pos rfl, if_neg sameLine]
  | cons next rest ih =>
      by_cases pair : char = '-' ∧ next = '-'
      · obtain ⟨rfl, rfl⟩ := pair
        rw [ih (by decide)]
        rfl
      · rw [dropLine_unpaired true (by simpa using pair), if_pos rfl, if_neg sameLine]

theorem dropLine_comment {comment : Text} (oneLine : '\n' ∉ comment) (rest : Text) :
    dropLineComments true (comment ++ '\n' :: rest) = '\n' :: dropLineComments false rest := by
  induction comment with
  | nil =>
      rw [List.nil_append, dropLine_unpaired true (by simp), if_pos rfl, if_pos rfl]
  | cons char comment ih =>
      rw [List.mem_cons, not_or] at oneLine
      rw [List.cons_append, dropLine_inside (Ne.symm oneLine.1), ih oneLine.2]

theorem blockComment_keeps (char : Char) (rest : Text)
    (unpaired : ¬ (char = '/' ∧ rest.head? = some '*')) :
    replaced blockComment [' '] (char :: rest) = char :: replaced blockComment [' '] rest := by
  refine replaced_none ?_
  unfold blockComment
  split
  next same =>
    obtain ⟨rfl, rfl⟩ := List.cons.inj same
    exact absurd ⟨rfl, rfl⟩ unpaired
  · rfl

theorem closeBlock_comment {comment : Text} (open' : hasPair '*' '/' comment = false) (rest : Text) :
    closeBlock (comment ++ '*' :: '/' :: rest) = some rest := by
  induction comment with
  | nil => rw [List.nil_append, closeBlock]
  | cons char comment ih =>
      have inner : hasPair '*' '/' comment = false := by
        cases comment with
        | nil => rfl
        | cons next comment =>
            rw [hasPair, Bool.or_eq_false_iff] at open'
            exact open'.2
      rw [List.cons_append, closeBlock, ih inner]
      rintro more rfl same
      cases comment with
      | nil => cases (List.cons.inj same).1
      | cons next comment =>
          obtain ⟨rfl, _⟩ := List.cons.inj same
          cases open'

theorem string_keeps (char : Char) (rest : Text) (unquoted : char ≠ '\'') :
    replaced stringLiteral ['\'', '\''] (char :: rest) =
      char :: replaced stringLiteral ['\'', '\''] rest := by
  refine replaced_none ?_
  unfold stringLiteral
  split
  next same =>
    obtain ⟨rfl, _⟩ := List.cons.inj same
    exact absurd rfl unquoted
  · rfl

theorem closeString_literal (literal : Text) {rest : Text} (ends : rest.head? ≠ some '\'') :
    closeString (doubled '\'' literal ++ '\'' :: rest) = some rest := by
  induction literal with
  | nil =>
      rw [doubled, List.flatMap_nil, List.nil_append, closeString]
      rintro more rfl
      exact ends rfl
  | cons char literal ih =>
      rw [doubled, List.flatMap_cons]
      by_cases quote : char = '\''
      · subst quote
        rw [if_pos rfl, List.append_assoc]
        change closeString ('\'' :: '\'' :: (doubled '\'' literal ++ '\'' :: rest)) = some rest
        rw [closeString, ih, Option.getD_some]
      · rw [if_neg quote, List.append_assoc, List.singleton_append]
        change closeString (char :: (doubled '\'' literal ++ '\'' :: rest)) = some rest
        rw [closeString, ih]
        · rintro more rfl
          exact absurd rfl quote
        · rintro rfl
          exact absurd rfl quote

section Passes
variable {rest : Text}

theorem word_unlisted {letters : Text} (valid : (Piece.word letters).valid = true) {opens : Char}
    (outside : inName opens = false) : opens ∉ letters := by
  intro listed
  rw [Piece.valid, Bool.and_eq_true, List.all_eq_true] at valid
  rw [valid.2 opens listed] at outside
  cases outside

theorem blank_unlisted {char : Char} (opens : Char) (valid : (Piece.blank char).valid = true)
    (ink : (Piece.blank opens).valid = false) : opens ∉ [char] := by
  intro listed
  rw [List.mem_singleton.mp listed, valid] at ink
  cases ink

theorem mem_doubled {quote char : Char} {inside : Text} (listed : char ∈ doubled quote inside) :
    char ∈ inside := by
  obtain ⟨from', member, here⟩ := List.mem_flatMap.mp listed
  split at here
  · have same : char = from' := by simpa using here
    exact same ▸ member
  · exact List.mem_singleton.mp here ▸ member

theorem line_piece {piece : Piece} (valid : piece.valid = true) (plain : piece.plain = true)
    (apart : ¬ rest.head?.any piece.clashes = true) :
    dropLineComments false (piece.text 0 ++ rest) =
      piece.text 1 ++ dropLineComments false rest := by
  have unlisted : ∀ {front : Text}, '-' ∉ front →
      dropLineComments false (front ++ rest) = front ++ dropLineComments false rest :=
    fun none => keeps_unlisted (fun char rest other => dropLine_keeps char rest fun pair =>
      other pair.1) none rest
  cases piece with
  | blank char => exact unlisted (blank_unlisted '-' valid (by decide))
  | line comment =>
      have oneLine : '\n' ∉ comment := by simpa [Piece.valid] using valid
      have dropped := dropLine_comment oneLine rest
      simp only [Piece.text, if_pos, List.cons_append, List.append_assoc, List.nil_append,
        dropLineComments, if_neg Bool.false_ne_true, dropped]
      rfl
  | block comment =>
      refine keeps_unpaired dropLine_keeps ?_ fun ends => ?_
      · simpa [Piece.plain] using plain
      · simp [Piece.text, List.getLast?_cons, List.getLast?_append] at ends
  | string literal =>
      refine keeps_unpaired dropLine_keeps ?_ fun ends => ?_
      · simp only [Piece.plain, Bool.and_eq_true, Bool.not_eq_true'] at plain
        exact plain.1
      · simp [Piece.text, List.getLast?_cons, List.getLast?_append] at ends
  | quoted quote name =>
      refine keeps_unpaired dropLine_keeps ?_ fun ends => ?_
      · simp only [Piece.plain, Bool.and_eq_true, Bool.not_eq_true'] at plain
        exact plain.1.1
      · cases quote <;> simp [Piece.text, Quote.opens, Quote.closes, backtick, List.getLast?_cons,
          List.getLast?_append] at ends
  | word letters => exact unlisted (word_unlisted valid (by decide))
  | mark char =>
      refine dropLine_keeps char rest fun pair => ?_
      obtain ⟨rfl, next⟩ := pair
      rw [next] at apart
      exact apart rfl

theorem block_piece {piece : Piece} (valid : piece.valid = true) (plain : piece.plain = true)
    (apart : ¬ rest.head?.any piece.clashes = true) :
    replaced blockComment [' '] (piece.text 1 ++ rest) =
      piece.text 2 ++ replaced blockComment [' '] rest := by
  have unlisted : ∀ {front : Text}, '/' ∉ front →
      replaced blockComment [' '] (front ++ rest) = front ++ replaced blockComment [' '] rest :=
    fun none => keeps_unlisted (fun char rest other => blockComment_keeps char rest fun pair =>
      other pair.1) none rest
  cases piece with
  | blank char => exact unlisted (blank_unlisted '/' valid (by decide))
  | line comment => exact unlisted (by simp [Piece.text])
  | block comment =>
      have open' : hasPair '*' '/' comment = false := by simpa [Piece.valid] using valid
      have closed : blockComment ('/' :: '*' :: (comment ++ '*' :: '/' :: rest)) = some rest :=
        closeBlock_comment open' rest
      have gone : replaced blockComment [' '] ('/' :: '*' :: (comment ++ '*' :: '/' :: rest)) =
          [' '] ++ replaced blockComment [' '] rest := replaced_some blockComment_shrinks closed
      simpa [Piece.text] using gone
  | string literal =>
      refine keeps_unpaired blockComment_keeps ?_ fun ends => ?_
      · simp only [Piece.plain, Bool.and_eq_true, Bool.not_eq_true'] at plain
        exact plain.2
      · simp [Piece.text, List.getLast?_cons, List.getLast?_append] at ends
  | quoted quote name =>
      refine keeps_unpaired blockComment_keeps ?_ fun ends => ?_
      · simp only [Piece.plain, Bool.and_eq_true, Bool.not_eq_true'] at plain
        exact plain.1.2
      · cases quote <;> simp [Piece.text, Quote.opens, Quote.closes, backtick, List.getLast?_cons,
          List.getLast?_append] at ends
  | word letters => exact unlisted (word_unlisted valid (by decide))
  | mark char =>
      refine blockComment_keeps char rest fun pair => ?_
      obtain ⟨rfl, next⟩ := pair
      rw [next] at apart
      exact apart rfl

theorem string_piece {piece : Piece} (valid : piece.valid = true) (plain : piece.plain = true)
    (apart : ¬ rest.head?.any piece.clashes = true) :
    replaced stringLiteral ['\'', '\''] (piece.text 2 ++ rest) =
      piece.text 3 ++ replaced stringLiteral ['\'', '\''] rest := by
  have unlisted : ∀ {front : Text}, '\'' ∉ front →
      replaced stringLiteral ['\'', '\''] (front ++ rest) =
        front ++ replaced stringLiteral ['\'', '\''] rest :=
    fun none => keeps_unlisted string_keeps none rest
  cases piece with
  | blank char => exact unlisted (blank_unlisted '\'' valid (by decide))
  | line comment => exact unlisted (by simp [Piece.text])
  | block comment => exact unlisted (by simp [Piece.text])
  | string literal =>
      have next : rest.head? ≠ some '\'' := by
        intro next
        rw [next] at apart
        exact apart rfl
      have closed : stringLiteral ('\'' :: (doubled '\'' literal ++ '\'' :: rest)) = some rest :=
        closeString_literal literal next
      have gone : replaced stringLiteral ['\'', '\'']
            ('\'' :: (doubled '\'' literal ++ '\'' :: rest)) =
          ['\'', '\''] ++ replaced stringLiteral ['\'', '\''] rest :=
        replaced_some stringLiteral_shrinks closed
      simpa [Piece.text] using gone
  | quoted quote name =>
      refine unlisted fun listed => ?_
      simp only [Piece.plain, Bool.and_eq_true, List.all_eq_true] at plain
      have unquoted : '\'' ∉ doubled quote.closes name := by
        intro inside
        have clear := plain.2 _ (mem_doubled inside)
        cases clear.1
      simp only [Piece.text, List.cons_append, List.mem_cons, List.mem_append, List.not_mem_nil,
        or_false] at listed
      rcases listed with opens | inside | closes
      · cases quote <;> cases opens
      · exact unquoted inside
      · cases quote <;> cases closes
  | word letters => exact unlisted (word_unlisted valid (by decide))
  | mark char =>
      refine unlisted fun listed => ?_
      rw [← List.mem_singleton.mp listed] at valid
      cases valid

end Passes

theorem text_cons (passed : Nat) (piece : Piece) (rest : List Piece) :
    text passed (piece :: rest) = piece.text passed ++ text passed rest := List.flatMap_cons

theorem text_append (passed : Nat) (front back : List Piece) :
    text passed (front ++ back) = text passed front ++ text passed back := List.flatMap_append

theorem lexed_append (after : Text) (front back : List Piece) :
    lexed after (front ++ back) = (lexed (text 0 back ++ after) front && lexed after back) := by
  induction front with
  | nil => rfl
  | cons piece front ih =>
      rw [List.cons_append, lexed, lexed, ih, text_append, List.append_assoc, Bool.and_assoc,
        Bool.and_assoc, Bool.and_assoc]

/-- The character at the front of a piece stays, or becomes a blank. -/
theorem head_text {piece : Piece} (valid : piece.valid = true) (passed : Nat) :
    ∃ char, (∀ rest, (piece.text passed ++ rest).head? = some char) ∧
      ((∀ rest, (piece.text 0 ++ rest).head? = some char) ∨ char = ' ') := by
  cases piece with
  | line comment =>
      by_cases first : passed = 0
      · exact ⟨'-', by simp [Piece.text, first], .inl fun _ => rfl⟩
      · exact ⟨' ', by simp [Piece.text, first], .inr rfl⟩
  | block comment =>
      by_cases early : passed < 2
      · exact ⟨'/', by simp [Piece.text, early], .inl fun _ => rfl⟩
      · exact ⟨' ', by simp [Piece.text, early], .inr rfl⟩
  | string literal =>
      by_cases early : passed < 3
      · exact ⟨'\'', by simp [Piece.text, early], .inl fun _ => rfl⟩
      · exact ⟨'\'', by simp [Piece.text, early], .inl fun _ => rfl⟩
  | word letters =>
      cases letters with
      | nil => cases valid
      | cons char letters => exact ⟨char, fun _ => rfl, .inl fun _ => rfl⟩
  | blank char => exact ⟨_, fun _ => rfl, .inl fun _ => rfl⟩
  | quoted quote name => exact ⟨_, fun _ => rfl, .inl fun _ => rfl⟩
  | mark char => exact ⟨_, fun _ => rfl, .inl fun _ => rfl⟩

theorem clashes_blank (piece : Piece) : piece.clashes ' ' = false := by
  cases piece with
  | mark char => simp [Piece.clashes]
  | quoted quote name => cases quote <;> rfl
  | blank char => rfl
  | line comment => rfl
  | block comment => rfl
  | string literal => rfl
  | word letters => rfl

/-- Before an equals sign the pieces stay apart, however many passes were made. -/
theorem apart_text {piece : Piece} {rest : List Piece} {later : Text} (passed : Nat) (after : Text)
    (read : lexed ('=' :: later) rest = true)
    (apart : ¬ (text 0 rest ++ '=' :: later).head?.any piece.clashes = true) :
    ¬ (text passed rest ++ '=' :: after).head?.any piece.clashes = true := by
  cases rest with
  | nil => exact apart
  | cons next rest =>
      rw [lexed, Bool.and_eq_true, Bool.and_eq_true] at read
      rw [text_cons, List.append_assoc] at apart ⊢
      obtain ⟨char, here, same⟩ := head_text read.1.1 passed
      rw [here]
      rcases same with first | rfl
      · rw [first] at apart
        exact apart
      · rw [Option.any_some, clashes_blank]
        exact Bool.false_ne_true

/-- A pass over pieces that it reads one by one. -/
theorem pass_pieces {pass : Text → Text} {passed : Nat} {later : Text}
    (equals : ∀ rest, pass ('=' :: rest) = '=' :: pass rest)
    (each : ∀ (piece : Piece) (rest : Text), piece.valid = true → piece.plain = true →
      ¬ rest.head?.any piece.clashes = true →
      pass (piece.text passed ++ rest) = piece.text (passed + 1) ++ pass rest)
    {pieces : List Piece} (read : lexed ('=' :: later) pieces = true)
    (plain : ∀ piece ∈ pieces, piece.plain = true) (after : Text) :
    pass (text passed pieces ++ '=' :: after) = text (passed + 1) pieces ++ '=' :: pass after := by
  induction pieces with
  | nil => exact equals after
  | cons piece rest ih =>
      rw [List.forall_mem_cons] at plain
      rw [lexed, Bool.and_eq_true, Bool.and_eq_true, Bool.not_eq_true'] at read
      obtain ⟨⟨valid, apart⟩, read⟩ := read
      rw [text_cons, List.append_assoc, each piece _ valid plain.1, ih read plain.2, text_cons,
        List.append_assoc]
      exact apart_text passed after read (Bool.not_eq_true _ ▸ apart)

/-- Comments become blanks and string literals empty, up to an equals sign. -/
theorem passes_pieces {pieces : List Piece} {later : Text}
    (read : lexed ('=' :: later) pieces = true) (plain : ∀ piece ∈ pieces, piece.plain = true) :
    ∃ after, replaced stringLiteral ['\'', '\''] (replaced blockComment [' ']
      (dropLineComments false (text 0 pieces ++ '=' :: later))) = text 3 pieces ++ '=' :: after := by
  have lines := pass_pieces (fun rest => dropLine_keeps '=' rest fun pair => by cases pair.1)
    (fun piece rest => line_piece) read plain later
  have blocks := pass_pieces (fun rest => blockComment_keeps '=' rest fun pair => by cases pair.1)
    (fun piece rest => block_piece) read plain (dropLineComments false later)
  have strings := pass_pieces (fun rest => string_keeps '=' rest (by decide))
    (fun piece rest => string_piece) read plain
    (replaced blockComment [' '] (dropLineComments false later))
  exact ⟨_, by rw [lines, blocks, strings]⟩

end AifyComms.UpdateStatements
