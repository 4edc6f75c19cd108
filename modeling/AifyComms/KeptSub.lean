import Mathlib.Data.List.Basic

/-!
Left-to-right replacement by a pattern whose match is a kept part and a replaced part, which is
`pattern.sub` with the first group and a marker as the replacement. The text's letters are read
through `letter`, so one sweep serves a plain text and a text that carries its positions.

Besides the sweep itself: what it keeps comes from the text or from the marker, and how a run of
letters of one kind lies in a text that is also split another way.
-/

namespace AifyComms.KeptSub

universe u v w
variable {Letter : Type u} {Item : Type v} {Other : Type w}

/-- The lengths of the kept part and of the replaced part of a match at the start of a text, of
which the letter before is also known. -/
abbrev Find (Letter : Type u) := Option Letter → List Letter → Option (Nat × Nat)

def subWith (find : Find Letter) (letter : Item → Letter) (marker : List Item) :
    Nat → Option Letter → List Item → List Item
  | 0, _, text => text
  | _ + 1, _, [] => []
  | fuel + 1, before, item :: rest =>
      match find before ((item :: rest).map letter) with
      | none => item :: subWith find letter marker fuel (some (letter item)) rest
      | some (kept, hidden) =>
          (item :: rest).take kept ++ marker ++
            subWith find letter marker fuel
              (((item :: rest).take (kept + hidden)).getLast?.map letter)
              ((item :: rest).drop (kept + hidden))

/-- Every match takes at least one letter, so as many steps as letters are enough. -/
def sub (find : Find Letter) (letter : Item → Letter) (marker text : List Item) : List Item :=
  subWith find letter marker text.length none text

structure Lawful (find : Find Letter) : Prop where
  kept : ∀ {before text kept hidden}, find before text = some (kept, hidden) → 0 < kept
  within : ∀ {before text kept hidden},
    find before text = some (kept, hidden) → kept + hidden ≤ text.length

/-- What a sweep does to a text, step by step. -/
inductive Swept (find : Find Letter) (letter : Item → Letter) (marker : List Item) :
    List Item → List Item → Prop where
  | done : Swept find letter marker [] []
  | pass (before : Option Letter) {item : Item} {rest out : List Item}
      (missing : find before ((item :: rest).map letter) = none)
      (swept : Swept find letter marker rest out) :
      Swept find letter marker (item :: rest) (item :: out)
  | hide (before : Option Letter) {kept hidden rest out : List Item} (some : kept ≠ [])
      (found : find before ((kept ++ hidden ++ rest).map letter) =
        .some (kept.length, hidden.length))
      (swept : Swept find letter marker rest out) :
      Swept find letter marker (kept ++ hidden ++ rest) (kept ++ marker ++ out)

variable {find : Find Letter} {letter : Item → Letter} {marker text out : List Item}

theorem swept_subWith (lawful : Lawful find) (fuel : Nat) (before : Option Letter)
    (text : List Item) (enough : text.length ≤ fuel) :
    Swept find letter marker text (subWith find letter marker fuel before text) := by
  induction fuel generalizing before text with
  | zero =>
      rw [List.length_eq_zero_iff.mp (Nat.le_zero.mp enough)]
      exact .done
  | succ fuel ih =>
      cases text with
      | nil => exact .done
      | cons item rest =>
          rw [List.length_cons, Nat.add_le_add_iff_right] at enough
          cases found : find before ((item :: rest).map letter) with
          | none =>
              simp only [subWith, found]
              exact .pass before found (ih _ rest enough)
          | some lengths =>
              obtain ⟨kept, hidden⟩ := lengths
              have positive := lawful.kept found
              have within := lawful.within found
              simp only [subWith, found]
              rw [List.length_map, List.length_cons] at within
              have shorter : ((item :: rest).drop (kept + hidden)).length ≤ fuel := by
                rw [List.length_drop, List.length_cons]
                omega
              have step := ih (((item :: rest).take (kept + hidden)).getLast?.map letter) _ shorter
              -- The three parts of the text, in the order the match leaves them.
              have parts : (item :: rest).take kept ++ ((item :: rest).drop kept).take hidden ++
                  (item :: rest).drop (kept + hidden) = item :: rest := by
                rw [← List.take_add, List.take_append_drop]
              have keptLength : ((item :: rest).take kept).length = kept := by
                rw [List.length_take, List.length_cons]
                omega
              have hiddenLength : (((item :: rest).drop kept).take hidden).length = hidden := by
                rw [List.length_take, List.length_drop, List.length_cons]
                omega
              have taken : (item :: rest).take kept ≠ [] := by
                rw [← List.length_pos_iff, keptLength]
                exact positive
              have hide : Swept find letter marker
                  ((item :: rest).take kept ++ ((item :: rest).drop kept).take hidden ++
                    (item :: rest).drop (kept + hidden)) _ :=
                .hide before taken (by rw [parts, keptLength, hiddenLength, found]) step
              rwa [parts] at hide

theorem swept_sub (lawful : Lawful find) (text : List Item) :
    Swept find letter marker text (sub find letter marker text) :=
  swept_subWith lawful text.length none text (Nat.le_refl _)

/-- A sweep reads nothing of a text but its letters. -/
theorem map_subWith {other : Other → Letter} (read : Item → Other)
    (same : ∀ item, other (read item) = letter item) (fuel : Nat) (before : Option Letter)
    (text : List Item) :
    (subWith find letter marker fuel before text).map read =
      subWith find other (marker.map read) fuel before (text.map read) := by
  induction fuel generalizing before text with
  | zero => rfl
  | succ fuel ih =>
      cases text with
      | nil => rfl
      | cons item rest =>
          have letters : (read item :: rest.map read).map other = (item :: rest).map letter := by
            simp [same]
          rw [List.map_cons, subWith, subWith, letters]
          cases find before ((item :: rest).map letter) with
          | none => simp only [List.map_cons, ih, same]
          | some lengths =>
              obtain ⟨kept, hidden⟩ := lengths
              have last : (((read item :: rest.map read).take (kept + hidden)).getLast?.map other) =
                  ((item :: rest).take (kept + hidden)).getLast?.map letter := by
                rw [← List.map_cons, ← List.map_take, List.getLast?_map, Option.map_map]
                exact congrArg (Option.map · _) (funext same)
              simp only [List.map_append, ih, last]
              rw [List.map_take, List.map_drop, List.map_cons]

theorem map_sub {other : Other → Letter} (read : Item → Other)
    (same : ∀ item, other (read item) = letter item) (text : List Item) :
    (sub find letter marker text).map read = sub find other (marker.map read) (text.map read) := by
  rw [sub, map_subWith read same, sub, List.length_map]

theorem Swept.mem (swept : Swept find letter marker text out) {item : Item} (kept : item ∈ out) :
    item ∈ marker ∨ item ∈ text := by
  induction swept with
  | done => exact .inr kept
  | pass _ _ _ ih =>
      rcases List.mem_cons.mp kept with rfl | later
      · exact .inr List.mem_cons_self
      · exact (ih later).imp_right (List.mem_cons_of_mem _)
  | hide _ _ _ _ ih =>
      rcases List.mem_append.mp kept with first | later
      · rcases List.mem_append.mp first with early | marks
        · exact .inr (List.mem_append_left _ (List.mem_append_left _ early))
        · exact .inl marks
      · exact (ih later).imp_right (List.mem_append_right _)

/-- What is kept keeps its order. -/
theorem Swept.sublist {mark : Item → Option Other} (unmarked : marker.filterMap mark = [])
    (swept : Swept find letter marker text out) :
    (out.filterMap mark).Sublist (text.filterMap mark) := by
  induction swept with
  | done => exact .slnil
  | pass _ _ _ ih =>
      rw [List.filterMap_cons, List.filterMap_cons]
      split
      · exact ih
      · exact ih.cons_cons _
  | hide _ _ _ _ ih =>
      rw [List.filterMap_append, List.filterMap_append, unmarked, List.append_nil,
        List.filterMap_append, List.filterMap_append, List.append_assoc]
      exact (List.Sublist.refl _).append (ih.trans (List.sublist_append_right _ _))

/-- A match keeps the letter it starts with. -/
theorem Swept.head? (swept : Swept find letter marker text out) : out.head? = text.head? := by
  cases swept with
  | done => rfl
  | pass => rfl
  | hide _ some =>
      obtain ⟨item, rest, rfl⟩ := List.exists_cons_of_ne_nil some
      rfl

theorem split_of_le {first second third fourth : List Item}
    (same : first ++ second = third ++ fourth) (le : first.length ≤ third.length) :
    ∃ more, third = first ++ more ∧ second = more ++ fourth := by
  have starts : third <+: first ++ second := same ▸ List.prefix_append _ _
  obtain ⟨more, rfl⟩ := List.prefix_of_prefix_length_le (List.prefix_append _ _) starts le
  exact ⟨more, rfl, by simpa using same⟩

/-- A passage of which every match that starts in it keeps the rest, and more, stays whole. -/
theorem Swept.over {passage rest : List Item}
    (beyond : ∀ before item more kept hidden, item :: more <:+ passage →
      find before ((item :: more ++ rest).map letter) = some (kept, hidden) →
      more.length + 1 < kept)
    (swept : Swept find letter marker (passage ++ rest) out) :
    ∃ later, out = passage ++ later ∧ later.head? = rest.head? ∧
      ∀ item ∈ later, item ∈ marker ∨ item ∈ rest := by
  induction passage generalizing out with
  | nil => exact ⟨out, rfl, swept.head?, fun item listed => swept.mem listed⟩
  | cons first passage ih =>
      have keeps := fun before kept hidden =>
        beyond before first passage kept hidden List.suffix_rfl
      generalize shape : first :: passage ++ rest = text at swept
      cases swept with
      | done => cases shape
      | pass before _ swept =>
          cases shape
          obtain ⟨later, rfl, head, mem⟩ :=
            ih (fun before item more kept hidden inside => beyond before item more kept hidden
              (inside.trans (List.suffix_cons _ _))) swept
          exact ⟨later, rfl, head, mem⟩
      | @hide before kept hidden after later _ found swept =>
          rw [← shape] at found
          have long := keeps before _ _ found
          -- The kept part reaches into what follows the passage.
          rw [List.append_assoc] at shape
          obtain ⟨more, rfl, last⟩ := split_of_le shape (Nat.le_of_lt long)
          have extra : more ≠ [] := by
            rintro rfl
            simp at long
          obtain ⟨item, more, rfl⟩ := List.exists_cons_of_ne_nil extra
          refine ⟨item :: more ++ marker ++ later, by simp, by simp [last], ?_⟩
          intro other listed
          rw [last]
          rcases List.mem_append.mp listed with early | late
          · rcases List.mem_append.mp early with inside | marks
            · exact .inr (List.mem_append_left _ inside)
            · exact .inl marks
          · exact (swept.mem late).imp_right fun inside =>
              List.mem_append_right _ (List.mem_append_right _ inside)

/-- How a match at the start of a text lies to a word further on, of which the text before has
length `before`: it ends before the word, it hides the word, or it keeps the word. -/
def Beside (before word kept hidden : Nat) : Prop :=
  kept + hidden ≤ before ∨ (kept ≤ before ∧ before + word ≤ kept + hidden) ∨
    before + word ≤ kept

/-- A sweep over a text with a word in it hides the word, or it comes to the word, or to a match
that keeps it, with all of it still there. -/
theorem Swept.meets {left word rest : List Item} (some : word ≠ [])
    (beside : ∀ before tail kept hidden,
      find before ((tail ++ (word ++ rest)).map letter) = .some (kept, hidden) →
      Beside tail.length word.length kept hidden)
    (swept : Swept find letter marker (left ++ (word ++ rest)) out) :
    (∀ item ∈ out, item ∈ marker ∨ item ∈ left ∨ item ∈ rest) ∨
    ∃ front tail later, out = front ++ later ∧ (∀ item ∈ front, item ∈ marker ∨ item ∈ left) ∧
      tail <:+ left ∧ Swept find letter marker (tail ++ (word ++ rest)) later ∧
      (tail = [] ∨ ∃ before kept hidden,
        find before ((tail ++ (word ++ rest)).map letter) = .some (kept, hidden) ∧
          tail.length + word.length ≤ kept) := by
  generalize shape : left ++ (word ++ rest) = text at swept
  induction swept generalizing left with
  | done =>
      simp only [List.append_eq_nil_iff] at shape
      exact absurd shape.2.1 some
  | @pass before item after out missing swept ih =>
      cases left with
      | nil =>
          refine .inr ⟨[], [], item :: out, rfl, by simp, List.suffix_rfl, ?_, .inl rfl⟩
          rw [shape]
          exact .pass before missing swept
      | cons _ left =>
          cases shape
          rcases ih rfl with lost | ⟨front, tail, later, rfl, mem, inside, met⟩
          · refine .inl fun other listed => ?_
            rcases List.mem_cons.mp listed with rfl | listed
            · exact .inr (.inl List.mem_cons_self)
            · exact (lost other listed).imp_right (.imp_left (List.mem_cons_of_mem _))
          · refine .inr ⟨item :: front, tail, later, rfl, fun other listed => ?_,
              inside.trans (List.suffix_cons _ _), met⟩
            rcases List.mem_cons.mp listed with rfl | listed
            · exact .inr List.mem_cons_self
            · exact (mem other listed).imp_right (List.mem_cons_of_mem _)
  | @hide before kept hidden after out nonempty found swept ih =>
      have found' := found
      rw [← shape] at found'
      rcases beside before left _ _ found' with ends | ⟨starts, covers⟩ | keeps
      · rw [← List.length_append] at ends
        obtain ⟨more, rfl, last⟩ := split_of_le shape.symm ends
        rcases ih last.symm with lost | ⟨front, tail, later, rfl, mem, inside, met⟩
        · refine .inl fun other listed => ?_
          simp only [List.mem_append] at listed ⊢
          rcases listed with (kept | marks) | listed
          · exact .inr (.inl (.inl (.inl kept)))
          · exact .inl marks
          · exact (lost other listed).imp_right (.imp_left .inr)
        · refine .inr ⟨kept ++ marker ++ front, tail, later, by simp, fun other listed => ?_,
            inside.trans (List.suffix_append _ _), met⟩
          simp only [List.mem_append] at listed ⊢
          rcases listed with (kept | marks) | listed
          · exact .inr (.inl (.inl kept))
          · exact .inl marks
          · exact (mem other listed).imp_right .inr
      · -- The part the match replaces takes the word, so only what stands around it is left.
        rw [← List.length_append, ← List.length_append] at covers
        obtain ⟨more, -, last⟩ := split_of_le (by simpa using shape) covers
        rw [List.append_assoc] at shape
        obtain ⟨between, rfl, -⟩ := split_of_le shape.symm starts
        refine .inl fun other listed => ?_
        simp only [List.mem_append] at listed ⊢
        rcases listed with (kept | marks) | listed
        · exact .inr (.inl (.inl kept))
        · exact .inl marks
        · refine (swept.mem listed).imp_right fun inside => .inr ?_
          rw [last]
          exact List.mem_append_right _ inside
      · refine .inr ⟨[], left, _, rfl, by simp, List.suffix_rfl, ?_,
          .inr ⟨before, _, _, found', keeps⟩⟩
        rw [shape]
        exact .hide before nonempty found swept

/-! ### Runs of one kind -/

variable {kind : Item → Bool} {run left right : List Item}

/-- A run ends before another one of a different kind. -/
theorem run_before {second rest : List Item} (all : ∀ item ∈ run, kind item = true)
    (other : ∀ item ∈ second, kind item = false) (same : run ++ right = left ++ (second ++ rest))
    (some : second ≠ []) :
    ∃ more, left = run ++ more ∧ right = more ++ (second ++ rest) := by
  obtain ⟨stop, second, rfl⟩ := List.exists_cons_of_ne_nil some
  rcases List.append_eq_append_iff.mp same with ⟨more, whole, last⟩ | ⟨more, whole, last⟩
  · exact ⟨more, whole, last⟩
  · cases more with
    | nil => exact ⟨[], by simpa using whole.symm, by simpa using last.symm⟩
    | cons item more =>
        obtain ⟨rfl, -⟩ := List.cons_eq_cons.mp last
        have inside := all stop (by simp [whole])
        rw [other stop List.mem_cons_self] at inside
        cases inside

/-- A run that goes as far as it can ends before another one or takes all of it. -/
theorem run_covers {second rest : List Item}
    (ends : ∀ item ∈ right.head?, kind item = false) (also : ∀ item ∈ second, kind item = true)
    (same : run ++ right = left ++ (second ++ rest)) (some : second ≠ []) :
    (∃ more, more ≠ [] ∧ left = run ++ more ∧ right = more ++ (second ++ rest)) ∨
    ∃ more, run = left ++ second ++ more ∧ rest = more ++ right := by
  rcases List.append_eq_append_iff.mp same with ⟨more, whole, last⟩ | ⟨more, whole, last⟩
  · cases more with
    | cons item more => exact .inl ⟨_, List.cons_ne_nil _ _, whole, last⟩
    | nil =>
        -- The run would stop at the first letter of the second one.
        obtain ⟨item, second, rfl⟩ := List.exists_cons_of_ne_nil some
        have stops := ends item (by simp [last])
        rw [also item List.mem_cons_self] at stops
        cases stops
  · rcases List.append_eq_append_iff.mp last with ⟨rest', whole', last'⟩ | ⟨rest', whole', last'⟩
    · exact .inr ⟨rest', by rw [whole, whole', List.append_assoc], last'⟩
    · cases rest' with
      | nil => exact .inr ⟨[], by simp [whole, whole'], by simpa using last'.symm⟩
      | cons item rest' =>
          have stops := ends item (by simp [last'])
          rw [also item (by simp [whole'])] at stops
          cases stops

theorem takeWhile_run (all : ∀ item ∈ run, kind item = true)
    (ends : ∀ item ∈ right.head?, kind item = false) : (run ++ right).takeWhile kind = run := by
  rw [List.takeWhile_append_of_pos all]
  cases right with
  | nil => simp
  | cons item right => simp [ends item rfl]

theorem dropWhile_run (all : ∀ item ∈ run, kind item = true)
    (ends : ∀ item ∈ right.head?, kind item = false) : (run ++ right).dropWhile kind = right := by
  rw [List.dropWhile_append_of_pos all]
  cases right with
  | nil => rfl
  | cons item right => simp [ends item rfl]

theorem head?_dropWhile {text : List Item} :
    ∀ item ∈ (text.dropWhile kind).head?, kind item = false := by
  intro item first
  have stops := List.head?_dropWhile_not kind text
  rw [Option.mem_def.mp first] at stops
  simpa using stops

end AifyComms.KeptSub
