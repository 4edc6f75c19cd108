import AifyComms.WrittenTables

/-!
The passes of `written_table` over a text, from left to right: what a substitution does at
each place, and what a text whose parentheses close is peeled to, whatever follows it.
-/

namespace AifyComms.WrittenPasses
open PyText WrittenTables

abbrev Text := List Char

/-! ### Substitution -/

/-- What is found is at least a character. -/
def Shrinks (found : Text → Option Text) : Prop :=
  ∀ text after, found text = some after → after.length < text.length

def replaced (found : Text → Option Text) (instead text : Text) : Text :=
  substitute found instead text.length text

section Replaced
variable {found : Text → Option Text} {instead : Text} (shrinks : Shrinks found)

theorem substitute_cons (fuel : Nat) (char : Char) (rest : Text) :
    substitute found instead (fuel + 1) (char :: rest) =
      (found (char :: rest)).elim (char :: substitute found instead fuel rest)
        fun after => instead ++ substitute found instead fuel after := by
  rw [substitute]
  cases found (char :: rest) <;> rfl

include shrinks

theorem substitute_enough (fuel more : Nat) (text : Text) (enough : text.length ≤ fuel)
    (also : text.length ≤ more) :
    substitute found instead fuel text = substitute found instead more text := by
  induction fuel generalizing more text with
  | zero =>
      rw [List.length_eq_zero_iff.mp (Nat.le_zero.mp enough)]
      cases more <;> rfl
  | succ fuel ih =>
      cases text with
      | nil => cases more <;> rfl
      | cons char rest =>
          cases more with
          | zero => cases also
          | succ more =>
              rw [List.length_cons] at enough also
              rw [substitute_cons, substitute_cons]
              cases here : found (char :: rest) with
              | none =>
                  rw [Option.elim_none, Option.elim_none, ih more rest (by omega) (by omega)]
              | some after =>
                  have shorter := shrinks _ _ here
                  rw [List.length_cons] at shorter
                  rw [Option.elim_some, Option.elim_some, ih more after (by omega) (by omega)]

omit shrinks in
theorem replaced_none {char : Char} {rest : Text} (none : found (char :: rest) = none) :
    replaced found instead (char :: rest) = char :: replaced found instead rest := by
  rw [replaced, List.length_cons, substitute_cons, none, Option.elim_none, replaced]

theorem replaced_some {char : Char} {rest after : Text}
    (here : found (char :: rest) = some after) :
    replaced found instead (char :: rest) = instead ++ replaced found instead after := by
  have shorter := shrinks _ _ here
  rw [List.length_cons] at shorter
  rw [replaced, List.length_cons, substitute_cons, here, Option.elim_some, replaced,
    substitute_enough shrinks _ after.length after (by omega) le_rfl]

end Replaced

theorem closeBlock_shrinks (text after : Text) (closed : closeBlock text = some after) :
    after.length < text.length := by
  fun_induction closeBlock text with
  | case1 => cases closed
  | case2 rest =>
      obtain rfl := Option.some.inj closed
      exact Nat.lt_succ_of_lt (Nat.lt_succ_self _)
  | case3 char rest _ ih => exact Nat.lt_succ_of_lt (ih closed)

theorem closeString_shrinks (text after : Text) (closed : closeString text = some after) :
    after.length < text.length := by
  fun_induction closeString text generalizing after with
  | case1 => cases closed
  | case2 rest ih =>
      obtain rfl := Option.some.inj closed
      cases later : closeString rest with
      | none => simp
      | some last =>
          have shorter := ih last later
          simp only [Option.getD_some, List.length_cons]
          omega
  | case3 rest =>
      obtain rfl := Option.some.inj closed
      simp
  | case4 char rest _ _ ih => exact Nat.lt_succ_of_lt (ih after closed)

theorem closeParens_shrinks (text after : Text) (closed : closeParens text = some after) :
    after.length < text.length := by
  fun_induction closeParens text with
  | case1 => cases closed
  | case2 rest =>
      obtain rfl := Option.some.inj closed
      simp
  | case3 => cases closed
  | case4 char rest _ _ ih => exact Nat.lt_succ_of_lt (ih closed)

theorem blockComment_shrinks : Shrinks blockComment := by
  intro text after found
  unfold blockComment at found
  split at found
  · exact Nat.lt_succ_of_lt (Nat.lt_succ_of_lt (closeBlock_shrinks _ _ found))
  · cases found

theorem stringLiteral_shrinks : Shrinks stringLiteral := by
  intro text after found
  unfold stringLiteral at found
  split at found
  · exact Nat.lt_succ_of_lt (closeString_shrinks _ _ found)
  · cases found

theorem parentheses_shrinks : Shrinks parentheses := by
  intro text after found
  unfold parentheses at found
  split at found
  · exact Nat.lt_succ_of_lt (closeParens_shrinks _ _ found)
  · cases found

/-! ### Peeling -/

/-- One pass of `_peel`. -/
def pass (text : Text) : Text := replaced parentheses [] text

def deeper (level : Nat) (char : Char) : Option Nat :=
  if char = '(' then some (level + 1)
  else if char = ')' then if level = 0 then none else some (level - 1)
  else some level

/-- How deep in parentheses a text ends, where none closes that is not open. -/
def depth : Nat → Text → Option Nat
  | level, [] => some level
  | level, char :: rest => (deeper level char).bind fun level => depth level rest

/-- The text outside parentheses. -/
def outside : Nat → Text → Text
  | _, [] => []
  | level, char :: rest =>
      if char = '(' then outside (level + 1) rest
      else if char = ')' then outside (level - 1) rest
      else if level = 0 then char :: outside 0 rest
      else outside level rest

theorem depth_cons (level : Nat) (char : Char) (rest : Text) :
    depth level (char :: rest) = (deeper level char).bind fun level => depth level rest := rfl

theorem outside_cons (level : Nat) (char : Char) (rest : Text) :
    outside level (char :: rest) =
      if char = '(' then outside (level + 1) rest
      else if char = ')' then outside (level - 1) rest
      else if level = 0 then char :: outside 0 rest
      else outside level rest := rfl

theorem depth_append (level : Nat) (front back : Text) :
    depth level (front ++ back) = (depth level front).bind fun level => depth level back := by
  induction front generalizing level with
  | nil => rfl
  | cons char rest ih =>
      rw [List.cons_append, depth_cons, depth_cons]
      cases deeper level char with
      | none => rfl
      | some next => exact ih next

theorem outside_append {front : Text} {level ends : Nat} (closed : depth level front = some ends)
    (back : Text) : outside level (front ++ back) = outside level front ++ outside ends back := by
  induction front generalizing level with
  | nil =>
      obtain rfl := Option.some.inj closed
      rfl
  | cons char rest ih =>
      rw [depth_cons, deeper] at closed
      rw [List.cons_append, outside_cons, outside_cons]
      split at closed
      next opens => rw [if_pos opens, if_pos opens, ih closed]
      next unopened =>
        rw [if_neg unopened, if_neg unopened]
        split at closed
        next closes =>
          rw [if_pos closes, if_pos closes]
          split at closed
          · cases closed
          · rw [ih closed]
        next unclosed =>
          rw [if_neg unclosed, if_neg unclosed]
          split
          next top =>
            subst top
            rw [ih closed, List.cons_append]
          · rw [ih closed]

theorem outside_plain {text : Text} (unopened : '(' ∉ text) (unclosed : ')' ∉ text) :
    outside 0 text = text ∧ depth 0 text = some 0 := by
  induction text with
  | nil => exact ⟨rfl, rfl⟩
  | cons char rest ih =>
      rw [List.mem_cons, not_or] at unopened unclosed
      obtain ⟨same, level⟩ := ih unopened.2 unclosed.2
      have here : deeper 0 char = some 0 := by
        rw [deeper, if_neg (Ne.symm unopened.1), if_neg (Ne.symm unclosed.1)]
      constructor
      · rw [outside_cons, if_neg (Ne.symm unopened.1), if_neg (Ne.symm unclosed.1), if_pos rfl, same]
      · rw [depth_cons, here]
        exact level

theorem outside_free (text : Text) (level : Nat) : '(' ∉ outside level text ∧ ')' ∉ outside level text := by
  induction text generalizing level with
  | nil => exact ⟨List.not_mem_nil, List.not_mem_nil⟩
  | cons char rest ih =>
      rw [outside_cons]
      split
      · exact ih _
      next unopened =>
        split
        · exact ih _
        next unclosed =>
          split
          · rw [List.mem_cons, not_or, List.mem_cons, not_or]
            exact ⟨⟨Ne.symm unopened, (ih 0).1⟩, Ne.symm unclosed, (ih 0).2⟩
          · exact ih _

/-- A pair that is found ends where the text is as deep as before it. -/
theorem closeParens_depth {text after : Text} (level : Nat) (closed : closeParens text = some after) :
    depth (level + 1) text = depth level after ∧
      outside (level + 1) text = outside level after := by
  fun_induction closeParens text with
  | case1 => cases closed
  | case2 rest =>
      obtain rfl := Option.some.inj closed
      exact ⟨rfl, rfl⟩
  | case3 => cases closed
  | case4 char rest unclosed unopened ih =>
      rw [depth_cons, deeper, if_neg unopened, if_neg unclosed, outside_cons, if_neg unopened,
        if_neg unclosed, if_neg (Nat.succ_ne_zero level)]
      exact ih closed

/-- In a text that closes, the next parenthesis is in view. -/
theorem closeParens_append {text : Text} {level : Nat} (closes : depth (level + 1) text = some 0)
    (later : Text) :
    closeParens (text ++ later) = (closeParens text).map (· ++ later) ∧
      (closeParens text = none → '(' ∈ text) := by
  fun_induction closeParens text with
  | case1 => cases closes
  | case2 rest => exact ⟨rfl, fun none => by cases none⟩
  | case3 rest => exact ⟨rfl, fun _ => List.mem_cons_self⟩
  | case4 char rest unclosed unopened ih =>
      rw [depth_cons, deeper, if_neg unopened, if_neg unclosed] at closes
      obtain ⟨same, opens⟩ := ih closes
      refine ⟨?_, fun none => List.mem_cons_of_mem _ (opens none)⟩
      rw [List.cons_append, closeParens, same]
      · exact unclosed
      · exact unopened

theorem parentheses_ne {char : Char} (plain : char ≠ '(') (rest : Text) :
    parentheses (char :: rest) = none := by
  unfold parentheses
  split
  next same =>
    obtain ⟨rfl, _⟩ := List.cons.inj same
    exact absurd rfl plain
  · rfl

/-- What one pass does to a text that closes, whatever follows it. -/
structure Passed (level : Nat) (text : Text) : Prop where
  split : ∀ later, pass (text ++ later) = pass text ++ pass later
  closes : depth level (pass text) = some 0
  kept : outside level (pass text) = outside level text
  shorter : (pass text).length ≤ text.length
  strict : '(' ∈ text → (pass text).length < text.length

theorem passed_pair {level : Nat} {rest after : Text} (closes : depth (level + 1) rest = some 0)
    (found : closeParens rest = some after) (ih : Passed level after) :
    Passed level ('(' :: rest) := by
  have gone : pass ('(' :: rest) = pass after := replaced_some parentheses_shrinks found
  have less : (pass ('(' :: rest)).length < ('(' :: rest).length := by
    have shorter := closeParens_shrinks _ _ found
    have passed := ih.shorter
    rw [gone, List.length_cons]
    omega
  refine ⟨fun later => ?_, gone ▸ ih.closes, ?_, less.le, fun _ => less⟩
  · have also : parentheses ('(' :: (rest ++ later)) = some (after ++ later) := by
      rw [parentheses, (closeParens_append closes later).1, found, Option.map_some]
    rw [gone, ← ih.split]
    exact replaced_some parentheses_shrinks also
  · rw [gone, ih.kept, outside_cons, if_pos rfl, (closeParens_depth level found).2]

theorem passed_open {level : Nat} {rest : Text} (closes : depth (level + 1) rest = some 0)
    (found : closeParens rest = none) (ih : Passed (level + 1) rest) :
    Passed level ('(' :: rest) := by
  have stays : pass ('(' :: rest) = '(' :: pass rest := replaced_none found
  have less := ih.strict ((closeParens_append closes []).2 found)
  have longer : (pass ('(' :: rest)).length < ('(' :: rest).length := by
    rw [stays, List.length_cons, List.length_cons]
    omega
  refine ⟨fun later => ?_, ?_, ?_, longer.le, fun _ => longer⟩
  · have also : parentheses ('(' :: (rest ++ later)) = none := by
      rw [parentheses, (closeParens_append closes later).1, found, Option.map_none]
    rw [stays, List.cons_append, List.cons_append, ← ih.split]
    exact replaced_none also
  · rw [stays, depth_cons, deeper, if_pos rfl]
    exact ih.closes
  · rw [stays, outside_cons, if_pos rfl, ih.kept, outside_cons, if_pos rfl]

theorem passed_char {level next : Nat} {char : Char} {rest : Text} (plain : char ≠ '(')
    (here : deeper level char = some next) (ih : Passed next rest) : Passed level (char :: rest) := by
  have stays : ∀ tail, pass (char :: tail) = char :: pass tail :=
    fun tail => replaced_none (parentheses_ne plain tail)
  refine ⟨fun later => ?_, ?_, ?_, ?_, fun listed => ?_⟩
  · rw [List.cons_append, stays, stays, ih.split, List.cons_append]
  · rw [stays, depth_cons, here]
    exact ih.closes
  · have kept := ih.kept
    rw [deeper, if_neg plain] at here
    rw [stays, outside_cons, if_neg plain, outside_cons, if_neg plain]
    split at here
    next shut =>
      split at here
      · cases here
      · obtain rfl := Option.some.inj here
        rw [if_pos shut, if_pos shut, kept]
    next unshut =>
      obtain rfl := Option.some.inj here
      rw [if_neg unshut, if_neg unshut]
      split
      next top =>
        subst top
        rw [kept]
      · exact kept
  · rw [stays]
    exact Nat.succ_le_succ ih.shorter
  · rw [stays]
    exact Nat.succ_lt_succ (ih.strict ((List.mem_cons.mp listed).resolve_left (Ne.symm plain)))

theorem pass_closed (bound : Nat) : ∀ (text : Text) (level : Nat), text.length ≤ bound →
    depth level text = some 0 → Passed level text := by
  induction bound with
  | zero =>
      intro text level short closes
      obtain rfl := List.length_eq_zero_iff.mp (Nat.le_zero.mp short)
      exact ⟨fun _ => rfl, closes, rfl, le_rfl, fun opens => by cases opens⟩
  | succ bound ih =>
      intro text level short closes
      cases text with
      | nil => exact ⟨fun _ => rfl, closes, rfl, le_rfl, fun opens => by cases opens⟩
      | cons char rest =>
          rw [List.length_cons] at short
          by_cases opens : char = '('
          · subst opens
            rw [depth_cons, deeper, if_pos rfl] at closes
            cases found : closeParens rest with
            | some after =>
                have shorter := closeParens_shrinks _ _ found
                have same := (closeParens_depth level found).1
                exact passed_pair closes found (ih after level (by omega) (same ▸ closes))
            | none => exact passed_open closes found (ih rest (level + 1) (by omega) closes)
          · rw [depth_cons] at closes
            obtain ⟨next, here, closes⟩ := Option.bind_eq_some_iff.mp closes
            exact passed_char opens here (ih rest next (by omega) closes)

theorem unclosed_of_unopened {text : Text} (closes : depth 0 text = some 0)
    (unopened : '(' ∉ text) : ')' ∉ text := by
  induction text with
  | nil => exact List.not_mem_nil
  | cons char rest ih =>
      rw [List.mem_cons, not_or] at unopened
      rw [depth_cons, deeper, if_neg (Ne.symm unopened.1)] at closes
      split at closes
      · cases closes
      next unclosed =>
        rw [List.mem_cons, not_or]
        exact ⟨Ne.symm unclosed, ih closes unopened.2⟩

theorem pass_shrinks (bound : Nat) : ∀ text : Text, text.length ≤ bound →
    pass text = text ∨ (pass text).length < text.length := by
  induction bound with
  | zero =>
      intro text short
      rw [List.length_eq_zero_iff.mp (Nat.le_zero.mp short)]
      exact .inl rfl
  | succ bound ih =>
      intro text short
      cases text with
      | nil => exact .inl rfl
      | cons char rest =>
          rw [List.length_cons] at short
          cases found : parentheses (char :: rest) with
          | none =>
              have stays : pass (char :: rest) = char :: pass rest := replaced_none found
              rw [stays]
              rcases ih rest (by omega) with same | shorter
              · exact .inl (by rw [same])
              · exact .inr (Nat.succ_lt_succ shorter)
          | some after =>
              have gone : pass (char :: rest) = pass after :=
                replaced_some parentheses_shrinks found
              have shorter := parentheses_shrinks _ _ found
              rw [List.length_cons] at shorter
              refine .inr ?_
              rw [gone, List.length_cons]
              rcases ih after (by omega) with same | less
              · rw [same]
                exact shorter
              · omega

/-- A text that closes is peeled to what is outside its parentheses, whatever follows it. -/
theorem peel_front {front : Text} (closes : depth 0 front = some 0) (back : Text) :
    ∃ left, peel (front ++ back) = outside 0 front ++ left := by
  have loop : ∀ (fuel : Nat) (front back : Text), depth 0 front = some 0 →
      (front ++ back).length ≤ fuel →
      ∃ left, peelLoop fuel (front ++ back) = outside 0 front ++ left := by
    intro fuel
    induction fuel with
    | zero =>
        intro front back _ short
        have empty := List.length_eq_zero_iff.mp (Nat.le_zero.mp short)
        rw [(List.append_eq_nil_iff.mp empty).1, (List.append_eq_nil_iff.mp empty).2]
        exact ⟨[], rfl⟩
    | succ fuel ih =>
        intro front back closes short
        have passed := pass_closed _ front 0 le_rfl closes
        have round : substitute parentheses [] (front ++ back).length (front ++ back) =
            pass front ++ pass back := passed.split back
        rw [peelLoop, round]
        split
        next same =>
          -- nothing was found, so the text has no parentheses
          have backShorter : (pass back).length ≤ back.length := by
            rcases pass_shrinks _ back le_rfl with equal | less
            · rw [equal]
            · exact less.le
          have lengths := congrArg List.length same
          rw [List.length_append, List.length_append] at lengths
          have unopened : '(' ∉ front := by
            intro opens
            have less := passed.strict opens
            omega
          rw [(outside_plain unopened (unclosed_of_unopened closes unopened)).1]
          exact ⟨back, rfl⟩
        next changed =>
          have less : (pass front ++ pass back).length < (front ++ back).length := by
            rw [← passed.split back] at changed ⊢
            exact (pass_shrinks _ (front ++ back) le_rfl).resolve_left changed
          obtain ⟨left, rest⟩ := ih (pass front) (pass back) passed.closes (by omega)
          exact ⟨left, by rw [rest, passed.kept]⟩
  exact loop _ front back closes le_rfl

/-! ### Words -/

/-- A keyword of the source. -/
def Letters (name : String) : Prop := name.toList ≠ [] ∧ ∀ char ∈ name.toList, char.isLower = true

instance (name : String) : Decidable (Letters name) :=
  decidable_of_iff (name.toList ≠ [] ∧ name.toList.all Char.isLower = true)
    (and_congr_right' List.all_eq_true)

/-- A property of the characters of a closed text, tested one by one. -/
theorem isLetter_of_lower {char : Char} (lower : char.toLower.isLower = true) :
    isLetter char = true := by
  rw [isLetter]
  unfold Char.isAlpha
  rw [Bool.or_eq_true, Bool.or_eq_true]
  by_cases upper : char.isUpper = true
  · exact .inl (.inl upper)
  · have same : char.toLower = char := by
      unfold Char.toLower
      rw [dif_neg]
      unfold Char.isUpper at upper
      simpa using upper
    exact .inl (.inr (same ▸ lower))

theorem isWord_of_isLetter {char : Char} (letter : isLetter char = true) : isWord char = true := by
  rw [isLetter, Bool.or_eq_true] at letter
  rw [isWord, Char.isAlphanum, Bool.or_eq_true, Bool.or_eq_true]
  exact letter.imp_left .inl

theorem isWord_of_lower {char : Char} (lower : char.toLower.isLower = true) : isWord char = true :=
  isWord_of_isLetter (isLetter_of_lower lower)

theorem keyword_iff {name : String} {text after : Text} :
    keyword name text = some after ↔
      ∃ front, text = front ++ after ∧ front.map Char.toLower = name.toList := by
  unfold keyword
  constructor
  · intro found
    split at found
    next same =>
      obtain rfl := Option.some.inj found
      exact ⟨text.take name.length, (List.take_append_drop _ _).symm, same⟩
    · cases found
  · rintro ⟨front, rfl, same⟩
    have length : name.length = front.length := by
      rw [← String.length_toList, ← same, List.length_map]
    rw [length, List.take_left, List.drop_left, if_pos same]

/-- A keyword does not start with this letter. -/
theorem keyword_ne {name : String} {char : Char} {rest : Text}
    (other : name.toList.head? ≠ some char.toLower) (some : name.toList ≠ []) :
    keyword name (char :: rest) = none := by
  cases found : keyword name (char :: rest) with
  | none => rfl
  | some after =>
      obtain ⟨front, shape, same⟩ := keyword_iff.1 found
      cases front with
      | nil => exact absurd same.symm some
      | cons first front =>
          obtain ⟨rfl, _⟩ := List.cons.inj shape
          rw [← same] at other
          exact absurd rfl other

theorem keyword_plain {name : String} (letters : Letters name) {char : Char} {rest : Text}
    (plain : isWord char = false) : keyword name (char :: rest) = none := by
  refine keyword_ne (fun first => ?_) letters.1
  have listed : char.toLower ∈ name.toList := List.mem_of_head? first
  rw [isWord_of_lower (letters.2 _ listed)] at plain
  cases plain

/-- A keyword that ends before a character of no word is seen whether or not the text goes on. -/
theorem keyword_view {name : String} (letters : Letters name) {last : Char}
    (plain : isWord last = false) (text later : Text) :
    (keyword name (text ++ last :: later)).any wordEnds =
      (keyword name (text ++ [last])).any wordEnds := by
  have inside : ∀ more after, keyword name (text ++ last :: more) = some after →
      ∃ front back, text = front ++ back ∧ front.map Char.toLower = name.toList ∧
        after = back ++ last :: more := by
    intro more after found
    obtain ⟨front, shape, same⟩ := keyword_iff.1 found
    rcases List.append_eq_append_iff.mp shape with ⟨beyond, rfl, rest⟩ | ⟨back, rfl, rfl⟩
    · cases beyond with
      | nil => exact ⟨text, [], (List.append_nil text).symm, by rw [← same, List.append_nil], rest.symm⟩
      | cons first beyond =>
          -- the keyword would hold the character
          obtain ⟨rfl, _⟩ := List.cons.inj rest
          have listed : last.toLower ∈ name.toList := by
            rw [← same, List.map_append]
            exact List.mem_append_right _ List.mem_cons_self
          rw [isWord_of_lower (letters.2 _ listed)] at plain
          cases plain
    · exact ⟨front, back, rfl, same, rfl⟩
  have across : ∀ more other, (keyword name (text ++ last :: more)).any wordEnds = true →
      (keyword name (text ++ last :: other)).any wordEnds = true := by
    intro more other ends
    obtain ⟨after, found, ends⟩ := (Option.any_eq_true _ _).mp ends
    obtain ⟨front, back, rfl, same, rfl⟩ := inside more after found
    have also : keyword name (front ++ back ++ last :: other) = some (back ++ last :: other) :=
      keyword_iff.2 ⟨front, by rw [List.append_assoc], same⟩
    rw [also]
    cases back <;> exact ends
  rw [Bool.eq_iff_iff]
  exact ⟨across later [], across [] later⟩

theorem searchWords_cons (words : List String) (after : Option Char) (char : Char) (rest : Text) :
    searchWords words after (char :: rest) =
      if (words.any fun name => (keyword name (char :: rest)).any wordEnds) && !after.any isWord then
        some ([], char :: rest)
      else (searchWords words (some char) rest).map fun found => (char :: found.1, found.2) := rfl

theorem searchWords_nothing {words : List String} (letters : ∀ name ∈ words, Letters name)
    {last : Char} (plain : isWord last = false) {text : Text} (later : Text) {after : Option Char}
    (none : searchWords words after (text ++ [last]) = none) :
    searchWords words after (text ++ last :: later) =
      (searchWords words (some last) later).map fun found =>
        (text ++ last :: found.1, found.2) := by
  induction text generalizing after with
  | nil =>
      have here : (words.any fun name => (keyword name (last :: later)).any wordEnds) = false := by
        rw [List.any_eq_false]
        intro name listed
        rw [keyword_plain (letters name listed) plain]
        exact Bool.false_ne_true
      rw [List.nil_append, searchWords_cons, here]
      rfl
  | cons char text ih =>
      rw [List.cons_append, searchWords_cons] at none ⊢
      have same : (words.any fun name => (keyword name (char :: (text ++ last :: later))).any wordEnds) =
          words.any fun name => (keyword name (char :: (text ++ [last]))).any wordEnds := by
        rw [Bool.eq_iff_iff, List.any_eq_true, List.any_eq_true]
        refine exists_congr fun name => and_congr_right fun listed => ?_
        rw [← List.cons_append, ← List.cons_append, keyword_view (letters name listed) plain]
      rw [same]
      split at none
      · cases none
      next unseen =>
        rw [if_neg unseen, ih (Option.map_eq_none_iff.mp none), Option.map_map]
        rfl

theorem searchWords_here {words : List String} {name : String} (listed : name ∈ words)
    {after : Option Char} (alone : after.any isWord = false) {text rest : Text}
    (found : keyword name text = some rest) (ends : wordEnds rest = true) (some : text ≠ []) :
    searchWords words after text = Option.some ([], text) := by
  obtain ⟨char, more, rfl⟩ := List.exists_cons_of_ne_nil some
  have here : (words.any fun name => (keyword name (char :: more)).any wordEnds) = true := by
    rw [List.any_eq_true]
    refine ⟨name, listed, ?_⟩
    rw [found]
    exact ends
  rw [searchWords_cons, here, alone]
  rfl

/-! ### Segments -/

theorem splitOn_front {sep : Char} {label : Text} (free : sep ∉ label) (text : Text) :
    ∃ first others, (label ++ text).splitOn sep = (label ++ first) :: others := by
  induction label with
  | nil =>
      cases parts : text.splitOn sep with
      | nil => exact absurd parts (List.splitOn_ne_nil _ _)
      | cons first others => exact ⟨first, others, parts⟩
  | cons char label ih =>
      rw [List.mem_cons, not_or] at free
      obtain ⟨first, others, parts⟩ := ih free.2
      refine ⟨first, others, ?_⟩
      rw [List.cons_append, List.splitOn_cons_eq_if_modifyHead,
        if_neg (by rw [beq_iff_eq]; exact Ne.symm free.1), parts]
      rfl

end AifyComms.WrittenPasses
