import Mathlib.Data.List.Infix

/-!
Words to look for in a text that all start with one mark, which stands nowhere else in them,
and none of which starts another. Two such words never overlap, so a text can be read letter
by letter: a letter starts a word, is inside the word that started before it, or is plain.
-/

namespace AifyComms.MarkedWords

universe u
variable {Letter : Type u} [DecidableEq Letter]

/-- The length of the word the text starts with. -/
def wordAt (words : List (List Letter)) (text : List Letter) : Option Nat :=
  (words.find? fun word => word.isPrefixOf text).map List.length

/-- The leftmost place where `found` answers: the text before it and the text after the
length it gives. -/
def search (found : List Letter → Option Nat) :
    List Letter → Option (List Letter × List Letter)
  | [] => none
  | letter :: rest =>
      match found (letter :: rest) with
      | some length => some ([], (letter :: rest).drop length)
      | none => (search found rest).map fun split => (letter :: split.1, split.2)

/-- The words start with the mark, have it nowhere else, and none starts another. -/
structure Marked (mark : Letter) (words : List (List Letter)) : Prop where
  starts : ∀ word ∈ words, ∃ tail, word = mark :: tail ∧ mark ∉ tail
  apart : ∀ word ∈ words, ∀ other ∈ words, word <+: other → word = other

variable {mark : Letter} {words : List (List Letter)} {text later : List Letter} {length : Nat}

theorem wordAt_some (found : wordAt words text = some length) :
    ∃ word ∈ words, word <+: text ∧ word.length = length := by
  obtain ⟨word, first, rfl⟩ := Option.map_eq_some_iff.mp found
  have starts := List.find?_some first
  exact ⟨word, List.mem_of_find?_eq_some first, List.isPrefixOf_iff_prefix.mp starts, rfl⟩

theorem wordAt_eq_none : wordAt words text = none ↔ ∀ word ∈ words, ¬ word <+: text := by
  unfold wordAt
  rw [Option.map_eq_none_iff, List.find?_eq_none]
  refine forall_congr' fun word => imp_congr_right fun _ => ?_
  rw [List.isPrefixOf_iff_prefix]

theorem wordAt_of_prefix (marked : Marked mark words) {word : List Letter} (listed : word ∈ words)
    (starts : word <+: text) : wordAt words text = some word.length := by
  cases found : wordAt words text with
  | none => exact absurd starts (wordAt_eq_none.1 found word listed)
  | some length =>
      obtain ⟨other, alsoListed, also, rfl⟩ := wordAt_some found
      rcases List.prefix_or_prefix_of_prefix starts also with before | before
      · rw [marked.apart word listed other alsoListed before]
      · rw [marked.apart other alsoListed word listed before]

/-- A word in full view is seen, one that the view cuts is not, and no word is seen that is
not there. -/
theorem wordAt_view (marked : Marked mark words) (text later : List Letter) :
    (wordAt words (text ++ later) = none ∧ wordAt words text = none) ∨
    (∃ length, wordAt words (text ++ later) = some length ∧ wordAt words text = some length ∧
      length ≤ text.length) ∨
    ∃ length, wordAt words (text ++ later) = some length ∧ wordAt words text = none ∧
      text.length < length := by
  cases whole : wordAt words (text ++ later) with
  | none =>
      refine .inl ⟨rfl, wordAt_eq_none.2 fun word listed starts => ?_⟩
      exact wordAt_eq_none.1 whole word listed (starts.trans (List.prefix_append _ _))
  | some length =>
      obtain ⟨word, listed, starts, rfl⟩ := wordAt_some whole
      by_cases fits : word.length ≤ text.length
      · have inside := List.prefix_of_prefix_length_le starts (List.prefix_append text later) fits
        exact .inr (.inl ⟨_, rfl, wordAt_of_prefix marked listed inside, fits⟩)
      · refine .inr (.inr ⟨_, rfl, wordAt_eq_none.2 fun other alsoListed also => ?_, by omega⟩)
        have shorter := also.length_le
        have before := List.prefix_of_prefix_length_le (also.trans (List.prefix_append _ later))
          starts (by omega)
        rw [marked.apart other alsoListed word listed before] at shorter
        exact fits shorter

/-- A word found at a letter: the letter is the mark, and the rest of the word has none. -/
theorem wordAt_cons (marked : Marked mark words) {letter : Letter}
    (found : wordAt words (letter :: text) = some length) :
    letter = mark ∧ 1 ≤ length ∧ length ≤ text.length + 1 ∧ mark ∉ text.take (length - 1) := by
  obtain ⟨word, listed, starts, rfl⟩ := wordAt_some found
  obtain ⟨tail, rfl, unmarked⟩ := marked.starts word listed
  obtain ⟨rfl, inside⟩ := List.cons_prefix_cons.mp starts
  refine ⟨rfl, by simp, ?_, ?_⟩
  · exact Nat.succ_le_succ inside.length_le
  · rw [List.length_cons, Nat.add_sub_cancel, ← List.prefix_iff_eq_take.mp inside]
    exact unmarked

theorem wordAt_unmarked (marked : Marked mark words) {letter : Letter} (plain : letter ≠ mark) :
    wordAt words (letter :: text) = none := by
  cases found : wordAt words (letter :: text) with
  | none => rfl
  | some length => exact absurd (wordAt_cons marked found).1 plain

/-- No word reaches across the next mark. -/
theorem wordAt_before_mark (marked : Marked mark words) {letter : Letter} (front back : List Letter) :
    wordAt words (letter :: front ++ mark :: back) = wordAt words (letter :: front) := by
  rcases wordAt_view marked (letter :: front) (mark :: back) with ⟨whole, seen⟩ | ⟨length, whole, seen, _⟩ | ⟨length, whole, _, cut⟩
  · rw [whole, seen]
  · rw [whole, seen]
  · rw [List.cons_append] at whole
    obtain ⟨_, _, _, unmarked⟩ := wordAt_cons marked whole
    rw [List.length_cons] at cut
    have reached : front ++ [mark] <+: (front ++ mark :: back).take (length - 1) := by
      rw [List.prefix_take_iff, List.length_append, List.length_singleton]
      exact ⟨⟨back, by simp⟩, by omega⟩
    exact absurd (reached.subset (List.mem_append_right _ (List.mem_singleton_self _))) unmarked

omit [DecidableEq Letter] in
theorem search_none {found : List Letter → Option Nat} (missing : search found text = none) :
    ∀ front back, text = front ++ back → back ≠ [] → found back = none := by
  induction text with
  | nil =>
      intro front back split some
      exact absurd (List.append_eq_nil_iff.mp split.symm).2 some
  | cons letter rest ih =>
      rw [search] at missing
      split at missing
      · cases missing
      next none =>
        intro front back split some
        cases front with
        | nil => rw [← List.nil_append back, ← split, none]
        | cons first front =>
            exact ih (Option.map_eq_none_iff.mp missing) front back (List.cons.inj split).2 some

omit [DecidableEq Letter] in
theorem search_some {found : List Letter → Option Nat} {before after : List Letter}
    (split : search found text = some (before, after)) :
    ∃ rest length, text = before ++ rest ∧ rest ≠ [] ∧ found rest = some length ∧
      after = rest.drop length ∧
      ∀ front back, before = front ++ back → back ≠ [] → found (back ++ rest) = none := by
  induction text generalizing before with
  | nil => cases split
  | cons letter rest ih =>
      rw [search] at split
      split at split
      next length here =>
        obtain ⟨rfl, rfl⟩ := Prod.mk.inj (Option.some.inj split)
        refine ⟨letter :: rest, length, rfl, List.cons_ne_nil _ _, here, rfl, ?_⟩
        intro front back empty some
        exact absurd (List.append_eq_nil_iff.mp empty.symm).2 some
      next none =>
        obtain ⟨⟨first, last⟩, inside, same⟩ := Option.map_eq_some_iff.mp split
        obtain ⟨rfl, rfl⟩ := Prod.mk.inj same
        obtain ⟨tail, length, rfl, some, here, after, free⟩ := ih inside
        refine ⟨tail, length, rfl, some, here, after, ?_⟩
        intro front back shape nonempty
        cases front with
        | nil =>
            rw [List.nil_append] at shape
            rw [← shape]
            exact none
        | cons head front => exact free front back (List.cons.inj shape).2 nonempty

end AifyComms.MarkedWords
