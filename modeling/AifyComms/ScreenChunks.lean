import Mathlib
import AifyComms.LiveScreen

/-!
A live screen fed in chunks, against one fed the same text whole. What is handed on is the
same text, in pieces. The loop of `feed` looks for a switch of screens or for a whole-screen
clear in one piece at a time, so it does not see one that the end of a piece cuts.

A piece is read letter by letter here, with the text in view behind it: the rest of the piece
for the screen fed in chunks, the rest of the whole text for the other.
-/

namespace AifyComms.ScreenChunks
open MarkedWords LiveScreen

/-- The words that switch screens: out of the alternate one, or into it. -/
def switchWords (inAlt : Bool) : List Text := if inAlt then leaveWords else enterWords

theorem marked_of {words : List Text}
    (starts : ∀ word ∈ words, word.head? = some esc ∧ esc ∉ word.tail)
    (apart : ∀ word ∈ words, ∀ other ∈ words, word <+: other → word = other) :
    Marked esc words := by
  refine ⟨fun word listed => ?_, apart⟩
  obtain ⟨first, unmarked⟩ := starts word listed
  cases word with
  | nil => cases first
  | cons letter tail => exact ⟨tail, by rw [Option.some.inj first], unmarked⟩

theorem marked_switch (inAlt : Bool) : Marked esc (switchWords inAlt) := by
  cases inAlt with
  | false => exact marked_of (by decide) (by decide)
  | true => exact marked_of (by decide) (by decide)

theorem marked_clear : Marked esc clearWords := marked_of (by decide) (by decide)

/-! ### Letter by letter -/

def paint (live : Live) (text : Text) : Live :=
  if live.inAlt then live.feedAlt text else live.feedMain text

def switch (live : Live) : Live := if live.inAlt then live.leaveAlt else live.enterAlt

/-- A clear that starts here is on the main screen. -/
def clears (inAlt : Bool) (text : Text) : Bool := !inAlt && (wordAt clearWords text).isSome

def unmark (cleared : Bool) (live : Live) : Live :=
  { live with reconstructed := live.reconstructed && !cleared }

/-- One letter, with the text in view behind it. The number is how many letters are left of the
switch it stands in. -/
def step (state : Live × Nat) (letter : Char) (ahead : Text) : Live × Nat :=
  match state.2 with
  | skip + 1 => (state.1, skip)
  | 0 =>
      match wordAt (switchWords state.1.inAlt) (letter :: ahead) with
      | some length => (switch state.1, length - 1)
      | none => (paint (unmark (clears state.1.inAlt (letter :: ahead)) state.1) [letter], 0)

/-- A text, with `after` in view behind it. -/
def walk (after : Text) : Live × Nat → Text → Live × Nat
  | state, [] => state
  | state, letter :: rest => walk after (step state letter (rest ++ after)) rest

theorem walk_append (after front back : Text) (state : Live × Nat) :
    walk after state (front ++ back) = walk after (walk (back ++ after) state front) back := by
  induction front generalizing state with
  | nil => rfl
  | cons letter rest ih =>
      rw [List.cons_append, walk, walk, ih, List.append_assoc]

theorem walk_skip (after : Text) (live : Live) (skip : Nat) (text : Text) (fits : skip ≤ text.length) :
    walk after (live, skip) text = walk after (live, 0) (text.drop skip) := by
  induction skip generalizing text with
  | zero => rfl
  | succ skip ih =>
      cases text with
      | nil => cases fits
      | cons letter rest => exact ih rest (Nat.le_of_succ_le_succ fits)

/-- A text handed on to one screen. -/
def take (live : Live) (text : Text) : Live :=
  if live.inAlt then live.feedAlt text else (live.clear text).feedMain text

theorem take_inAlt (live : Live) (text : Text) : (take live text).inAlt = live.inAlt := by
  unfold take
  split
  · rfl
  · unfold Live.clear
    split <;> rfl

theorem take_nil (live : Live) : take live [] = live := by
  unfold take
  split
  · rw [Live.feedAlt, List.append_nil]
  · rw [Live.clear, search, Option.isSome_none, if_neg Bool.false_ne_true, Live.feedMain,
      List.append_nil]

theorem take_cons (live : Live) (letter : Char) (text ahead : Text)
    (view : wordAt clearWords (letter :: ahead) = wordAt clearWords (letter :: text)) :
    take (paint (unmark (clears live.inAlt (letter :: ahead)) live) [letter]) text =
      take live (letter :: text) := by
  unfold take paint unmark clears
  rw [view]
  cases shown : live.inAlt with
  | true => simp [Live.feedAlt, shown]
  | false =>
      simp only [Live.feedMain, Live.clear, shown, Bool.not_false, Bool.true_and, Bool.false_eq_true,
        if_false, search]
      cases wordAt clearWords (letter :: text) with
      | some length => simp
      | none => cases search (wordAt clearWords) text <;> simp [shown]

theorem paint_inAlt (cleared : Bool) (live : Live) (text : Text) :
    (paint (unmark cleared live) text).inAlt = live.inAlt := by
  cases shown : live.inAlt <;> simp [paint, unmark, shown, Live.feedAlt, Live.feedMain]

/-- A clear is in view up to the end or the next escape. -/
theorem clear_view (letter : Char) (text : Text) {rest : Text}
    (bounded : rest = [] ∨ ∃ more, rest = esc :: more) :
    wordAt clearWords (letter :: (text ++ rest)) = wordAt clearWords (letter :: text) := by
  rcases bounded with rfl | ⟨more, rfl⟩
  · rw [List.append_nil]
  · exact wordAt_before_mark marked_clear text more

/-- A text in which no switch starts, up to the end or the next escape. -/
theorem walk_take {text rest : Text} (bounded : rest = [] ∨ ∃ more, rest = esc :: more) :
    ∀ live : Live, (∀ front back, text = front ++ back → back ≠ [] →
      wordAt (switchWords live.inAlt) (back ++ rest) = none) →
      walk rest (live, 0) text = (take live text, 0) := by
  induction text with
  | nil =>
      intro live _
      rw [walk, take_nil]
  | cons letter text ih =>
      intro live free
      have none := free [] (letter :: text) rfl (List.cons_ne_nil _ _)
      rw [List.cons_append] at none
      rw [walk, step]
      dsimp only
      rw [none]
      dsimp only
      rw [ih, take_cons live letter text (text ++ rest) (clear_view letter text bounded)]
      intro front back split some
      rw [paint_inAlt]
      exact free (letter :: front) back (by rw [split, List.cons_append]) some

/-- One round of the loop of `feed`. -/
theorem walk_round {live : Live} {chunk before after : Text}
    (found : search (wordAt (switchWords live.inAlt)) chunk = some (before, after)) :
    walk [] (live, 0) chunk = walk [] (switch (take live before), 0) after := by
  obtain ⟨rest, length, rfl, some, here, rfl, free⟩ := search_some found
  obtain ⟨letter, more, rfl⟩ := List.exists_cons_of_ne_nil some
  obtain ⟨rfl, least, most, _⟩ := wordAt_cons (marked_switch live.inAlt) here
  rw [walk_append, List.append_nil, walk_take (.inr ⟨more, rfl⟩) live free, walk, step]
  dsimp only
  rw [take_inAlt, List.append_nil, here]
  dsimp only
  rw [walk_skip _ _ _ _ (by omega)]
  congr 1
  obtain ⟨count, rfl⟩ := Nat.exists_eq_add_of_le' least
  rw [Nat.add_sub_cancel, List.drop_succ_cons]

/-- The last round: no switch is found. -/
theorem walk_last {live : Live} {chunk : Text}
    (missing : search (wordAt (switchWords live.inAlt)) chunk = none) :
    walk [] (live, 0) chunk = (take live chunk, 0) := by
  refine walk_take (.inl rfl) live fun front back split some => ?_
  rw [List.append_nil]
  exact search_none missing front back split some

theorem search_shorter {live : Live} {chunk before after : Text}
    (found : search (wordAt (switchWords live.inAlt)) chunk = some (before, after)) :
    after.length < chunk.length := by
  obtain ⟨rest, length, rfl, some, here, rfl, _⟩ := search_some found
  obtain ⟨letter, more, rfl⟩ := List.exists_cons_of_ne_nil some
  obtain ⟨_, least, _, _⟩ := wordAt_cons (marked_switch live.inAlt) here
  rw [List.length_append, List.length_drop, List.length_cons]
  omega

/-- The loop of `feed` reads its chunk letter by letter. -/
theorem route_eq (fuel : Nat) (live : Live) (chunk : Text) (enough : chunk.length < fuel) :
    walk [] (live, 0) chunk = (route fuel live chunk, 0) := by
  induction fuel generalizing live chunk with
  | zero => omega
  | succ fuel ih =>
      by_cases empty : chunk = []
      · rw [route, if_pos empty, empty]
        rfl
      rw [route, if_neg empty]
      have round : ∀ before after,
          search (wordAt (switchWords live.inAlt)) chunk = some (before, after) →
          walk [] (live, 0) chunk = (route fuel (switch (take live before)) after, 0) := by
        intro before after found
        have shorter := search_shorter found
        rw [walk_round found, ih _ _ (by omega)]
      cases shown : live.inAlt with
      | true =>
          rw [shown] at round
          rw [if_pos rfl]
          cases found : search (wordAt leaveWords) chunk with
          | none => rw [walk_last (by rw [shown]; exact found), take, if_pos shown]
          | some split =>
              rw [round split.1 split.2 found, switch, if_pos (by rw [take_inAlt, shown]), take,
                if_pos shown]
      | false =>
          have onMain : ¬ live.inAlt = true := by
            rw [shown]
            exact Bool.false_ne_true
          rw [shown] at round
          rw [if_neg Bool.false_ne_true]
          cases found : search (wordAt enterWords) chunk with
          | none => rw [walk_last (by rw [shown]; exact found), take, if_neg onMain]
          | some split =>
              rw [round split.1 split.2 found, switch, if_neg (by rw [take_inAlt]; exact onMain),
                take, if_neg onMain]

/-! ### What a letter does -/

theorem step_skip {state : Live × Nat} {skip : Nat} (inside : state.2 = skip + 1) (letter : Char)
    (ahead : Text) : step state letter ahead = (state.1, skip) := by
  unfold step
  rw [inside]

theorem step_switch {state : Live × Nat} {letter : Char} {ahead : Text} {length : Nat}
    (outside : state.2 = 0)
    (found : wordAt (switchWords state.1.inAlt) (letter :: ahead) = some length) :
    step state letter ahead = (switch state.1, length - 1) := by
  unfold step
  rw [outside]
  dsimp only
  rw [found]

theorem step_paint {state : Live × Nat} {letter : Char} {ahead : Text} (outside : state.2 = 0)
    (missing : wordAt (switchWords state.1.inAlt) (letter :: ahead) = none) :
    step state letter ahead =
      (paint (unmark (clears state.1.inAlt (letter :: ahead)) state.1) [letter], 0) := by
  unfold step
  rw [outside]
  dsimp only
  rw [missing]

/-- A switch that starts in a piece ends in it, as far as the piece is in view. -/
theorem step_fits {state : Live × Nat} {letter : Char} {rest : Text}
    (fits : state.2 ≤ rest.length + 1) : (step state letter rest).2 ≤ rest.length := by
  cases inside : state.2 with
  | succ skip =>
      rw [step_skip inside]
      rw [inside] at fits
      exact Nat.le_of_succ_le_succ fits
  | zero =>
      cases found : wordAt (switchWords state.1.inAlt) (letter :: rest) with
      | none =>
          rw [step_paint inside found]
          exact Nat.zero_le _
      | some length =>
          rw [step_switch inside found]
          obtain ⟨_, _, most, _⟩ := wordAt_cons (marked_switch _) found
          dsimp only
          omega

/-- How many alternate screens there were. -/
def count (live : Live) : Nat := live.dropped.length + live.inAlt.toNat

/-- How much was painted on them. -/
def total (live : Live) : Nat :=
  (live.dropped.map List.length).sum + if live.inAlt then live.alt.length else 0

theorem paint_fields (cleared : Bool) (live : Live) (text : Text) :
    (paint (unmark cleared live) text).inAlt = live.inAlt ∧
      (paint (unmark cleared live) text).dropped = live.dropped ∧
      (live.inAlt = true → (paint (unmark cleared live) text).alt = live.alt ++ text ∧
        (paint (unmark cleared live) text).main = live.main) ∧
      (live.inAlt = false → (paint (unmark cleared live) text).alt = live.alt ∧
        (paint (unmark cleared live) text).main = live.main ++ text) := by
  cases shown : live.inAlt <;> simp [paint, unmark, shown, Live.feedAlt, Live.feedMain]

theorem count_paint (cleared : Bool) (live : Live) (text : Text) :
    count (paint (unmark cleared live) text) = count live := by
  obtain ⟨inAlt, dropped, _⟩ := paint_fields cleared live text
  rw [count, inAlt, dropped, count]

theorem total_paint (cleared : Bool) (live : Live) (text : Text) :
    total (paint (unmark cleared live) text) =
      total live + if live.inAlt then text.length else 0 := by
  obtain ⟨inAlt, dropped, alt, _⟩ := paint_fields cleared live text
  rw [total, inAlt, dropped, total]
  cases shown : live.inAlt with
  | false => rfl
  | true =>
      rw [if_pos rfl, if_pos rfl, if_pos rfl, (alt shown).1, List.length_append]
      omega

theorem switch_leave {live : Live} (shown : live.inAlt = true) :
    (switch live).inAlt = false ∧ (switch live).dropped = live.dropped ++ [live.alt] ∧
      (switch live).main = live.main ∧ count (switch live) = count live ∧
      total (switch live) = total live := by
  rw [switch, if_pos shown]
  refine ⟨rfl, rfl, rfl, ?_, ?_⟩
  · simp [count, Live.leaveAlt, shown]
  · simp [total, Live.leaveAlt, shown]

theorem switch_enter {live : Live} (shown : live.inAlt = false) :
    (switch live).inAlt = true ∧ (switch live).alt = [] ∧ (switch live).dropped = live.dropped ∧
      (switch live).main = live.main ∧ count (switch live) = count live + 1 ∧
      total (switch live) = total live := by
  rw [switch, if_neg (by rw [shown]; exact Bool.false_ne_true)]
  refine ⟨rfl, rfl, rfl, rfl, ?_, ?_⟩
  · simp [count, Live.enterAlt, shown]
  · simp [total, Live.enterAlt, shown]

/-! ### After a cut -/

/-- No escape among the next letters. -/
def Quiet (length : Nat) (rest : Text) : Prop := esc ∉ rest.take length

/-- The two screens once a switch was cut: the one fed in chunks has missed an enter and is still
behind; or it is on the same screen again, after fewer alternate screens or with less on them; or
it has missed a leave, which is being painted; or it has painted one. -/
inductive Apart (whole chunked : Live × Nat) (rest : Text) : Prop where
  | behind (ahead : whole.1.inAlt = true) (back : chunked.1.inAlt = false) (outside : chunked.2 = 0)
      (fewer : count chunked.1 < count whole.1) (less : total chunked.1 ≤ total whole.1)
      (quiet : Quiet whole.2 rest)
  | level (mode : whole.1.inAlt = chunked.1.inAlt)
      (order : whole.1.inAlt = true → whole.2 ≤ chunked.2) (quiet : Quiet whole.2 rest)
      (alsoQuiet : Quiet chunked.2 rest) (fewer : count chunked.1 ≤ count whole.1)
      (less : total chunked.1 ≤ total whole.1)
      (strict : count chunked.1 < count whole.1 ∨ total chunked.1 < total whole.1)
  | missed (seen left : Text) (word : seen ++ left ∈ leaveWords) (painted : seen <:+ chunked.1.alt)
      (coming : left <+: rest) (quiet : esc ∉ left) (inAlt : chunked.1.inAlt = true)
      (outside : chunked.2 = 0)
  | torn (word text : Text) (leaves : word ∈ leaveWords)
      (shown : text ∈ chunked.1.dropped ∨ chunked.1.inAlt = true ∧ text = chunked.1.alt)
      (inside : word <:+: text)

section Apart
variable {whole chunked : Live × Nat} {letter : Char} {rest later : Text}

theorem quiet_zero (rest : Text) : Quiet 0 rest := List.not_mem_nil

theorem quiet_succ {skip : Nat} (quiet : Quiet (skip + 1) (letter :: rest)) :
    letter ≠ esc ∧ Quiet skip rest := by
  unfold Quiet at quiet
  rw [List.take_succ_cons, List.mem_cons, not_or] at quiet
  exact ⟨Ne.symm quiet.1, quiet.2⟩

theorem quiet_found {inAlt : Bool} {length : Nat}
    (found : wordAt (switchWords inAlt) (letter :: rest) = some length) :
    Quiet (length - 1) rest :=
  (wordAt_cons (marked_switch inAlt) found).2.2.2

/-- A letter other than the escape is painted, or is inside a switch. -/
theorem step_plain (state : Live × Nat) (plain : letter ≠ esc) (outside : state.2 = 0)
    (ahead : Text) :
    step state letter ahead =
      (paint (unmark (clears state.1.inAlt (letter :: ahead)) state.1) [letter], 0) :=
  step_paint outside (wordAt_unmarked (marked_switch _) plain)

theorem torn_step (letter : Char) (rest : Text) (fate : ∃ word text, word ∈ leaveWords ∧
      (text ∈ chunked.1.dropped ∨ chunked.1.inAlt = true ∧ text = chunked.1.alt) ∧ word <:+: text) :
    ∃ word text, word ∈ leaveWords ∧ (text ∈ (step chunked letter rest).1.dropped ∨
      (step chunked letter rest).1.inAlt = true ∧ text = (step chunked letter rest).1.alt) ∧
      word <:+: text := by
  obtain ⟨word, text, leaves, shown, inside⟩ := fate
  cases skip : chunked.2 with
  | succ count =>
      rw [step_skip skip]
      exact ⟨word, text, leaves, shown, inside⟩
  | zero =>
      cases found : wordAt (switchWords chunked.1.inAlt) (letter :: rest) with
      | none =>
          rw [step_paint skip found]
          obtain ⟨inAlt, dropped, alt, _⟩ := paint_fields
            (clears chunked.1.inAlt (letter :: rest)) chunked.1 [letter]
          rcases shown with earlier | ⟨current, rfl⟩
          · exact ⟨word, text, leaves, .inl (dropped ▸ earlier), inside⟩
          · refine ⟨word, _, leaves, .inr ⟨inAlt.trans current, rfl⟩, ?_⟩
            rw [(alt current).1]
            exact inside.trans (List.prefix_append _ _).isInfix
      | some length =>
          rw [step_switch skip found]
          cases current : chunked.1.inAlt with
          | true =>
              obtain ⟨_, dropped, _⟩ := switch_leave current
              rcases shown with earlier | ⟨_, rfl⟩
              · refine ⟨word, text, leaves, .inl ?_, inside⟩
                rw [dropped]
                exact List.mem_append_left _ earlier
              · refine ⟨word, _, leaves, .inl ?_, inside⟩
                rw [dropped]
                exact List.mem_append_right _ (List.mem_singleton_self _)
          | false =>
              obtain ⟨_, _, dropped, _⟩ := switch_enter current
              rcases shown with earlier | ⟨other, _⟩
              · exact ⟨word, text, leaves, .inl (dropped ▸ earlier), inside⟩
              · rw [current] at other
                cases other

/-- A missed leave is painted to its end. -/
theorem missed_step {seen left : Text} (word : seen ++ left ∈ leaveWords)
    (painted : seen <:+ chunked.1.alt) (coming : left <+: letter :: (rest ++ later))
    (quiet : esc ∉ left) (inAlt : chunked.1.inAlt = true) (outside : chunked.2 = 0) :
    Apart (step whole letter (rest ++ later)) (step chunked letter rest) (rest ++ later) := by
  cases left with
  | nil =>
      rw [List.append_nil] at word
      obtain ⟨word, text, leaves, shown, inside⟩ := torn_step letter rest
        ⟨seen, chunked.1.alt, word, .inr ⟨inAlt, rfl⟩, painted.isInfix⟩
      exact .torn word text leaves shown inside
  | cons next left =>
      obtain ⟨rfl, following⟩ := List.cons_prefix_cons.mp coming
      rw [List.mem_cons, not_or] at quiet
      rw [step_plain chunked (Ne.symm quiet.1) outside]
      obtain ⟨same, _, alt, _⟩ := paint_fields (clears chunked.1.inAlt (next :: rest)) chunked.1
        [next]
      refine .missed (seen ++ [next]) left ?_ ?_ following quiet.2 (same.trans inAlt) rfl
      · rw [List.append_assoc]
        exact word
      · dsimp only
        rw [(alt inAlt).1]
        exact List.suffix_append_self_iff.mpr painted

theorem quiet_append {length : Nat} (fits : length ≤ rest.length) (quiet : Quiet length rest)
    (later : Text) : Quiet length (rest ++ later) := by
  unfold Quiet
  rw [List.take_append_of_le_length fits]
  exact quiet

theorem not_enter_of_leave {text : Text} {length : Nat}
    (found : wordAt leaveWords text = some length) : wordAt enterWords text = none := by
  obtain ⟨leave, listed, starts, _⟩ := wordAt_some found
  rw [wordAt_eq_none]
  intro enter alsoListed also
  have differ : ∀ leave ∈ leaveWords, ∀ enter ∈ enterWords, ¬ leave <+: enter ∧ ¬ enter <+: leave := by
    decide
  rcases List.prefix_or_prefix_of_prefix starts also with before | before
  · exact (differ leave listed enter alsoListed).1 before
  · exact (differ leave listed enter alsoListed).2 before

/-- The end of a piece cuts a switch: the enter is missed, or the leave. -/
theorem cut_apart {length : Nat} (mode : whole.1.inAlt = chunked.1.inAlt) (outside : whole.2 = 0)
    (alsoOutside : chunked.2 = 0) (fewer : count chunked.1 ≤ count whole.1)
    (less : total chunked.1 ≤ total whole.1)
    (found : wordAt (switchWords whole.1.inAlt) (letter :: (rest ++ later)) = some length)
    (missing : wordAt (switchWords chunked.1.inAlt) (letter :: rest) = none) :
    Apart (step whole letter (rest ++ later)) (step chunked letter rest) (rest ++ later) := by
  rw [step_switch outside found, step_paint alsoOutside missing]
  obtain ⟨inAlt, _, alt, _⟩ := paint_fields (clears chunked.1.inAlt (letter :: rest)) chunked.1
    [letter]
  cases shown : whole.1.inAlt with
  | false =>
      obtain ⟨ahead, _, _, _, more, same⟩ := switch_enter shown
      refine .behind ahead (inAlt.trans (mode ▸ shown)) rfl ?_ ?_ (quiet_found found)
      · rw [count_paint, more]
        omega
      · rw [total_paint, if_neg (by rw [← mode, shown]; exact Bool.false_ne_true), same]
        exact less
  | true =>
      have current : chunked.1.inAlt = true := mode ▸ shown
      rw [shown] at found
      obtain ⟨word, listed, starts, _⟩ := wordAt_some found
      obtain ⟨tail, rfl, plain⟩ := (marked_switch true).starts word listed
      obtain ⟨rfl, coming⟩ := List.cons_prefix_cons.mp starts
      refine .missed [esc] tail listed ?_ coming plain (inAlt.trans current) rfl
      rw [(alt current).1]
      exact List.suffix_append _ _

theorem behind_step (ahead : whole.1.inAlt = true) (back : chunked.1.inAlt = false)
    (outside : chunked.2 = 0) (fewer : count chunked.1 < count whole.1)
    (less : total chunked.1 ≤ total whole.1) (quiet : Quiet whole.2 (letter :: (rest ++ later))) :
    Apart (step whole letter (rest ++ later)) (step chunked letter rest) (rest ++ later) := by
  have onMain : ¬ chunked.1.inAlt = true := by
    rw [back]
    exact Bool.false_ne_true
  obtain ⟨inAlt, _⟩ := paint_fields (clears chunked.1.inAlt (letter :: rest)) chunked.1 [letter]
  have painted := count_paint (clears chunked.1.inAlt (letter :: rest)) chunked.1 [letter]
  have unpainted := total_paint (clears chunked.1.inAlt (letter :: rest)) chunked.1 [letter]
  rw [if_neg onMain, Nat.add_zero] at unpainted
  cases skip : whole.2 with
  | succ skipped =>
      rw [skip] at quiet
      obtain ⟨plain, quiet⟩ := quiet_succ quiet
      rw [step_skip skip, step_plain chunked plain outside]
      exact .behind ahead (inAlt.trans back) rfl (painted ▸ fewer) (unpainted ▸ less) quiet
  | zero =>
      cases found : wordAt (switchWords whole.1.inAlt) (letter :: (rest ++ later)) with
      | some length =>
          have leaves : wordAt leaveWords (letter :: (rest ++ later)) = some length := by
            rw [ahead] at found
            exact found
          have missing : wordAt (switchWords chunked.1.inAlt) (letter :: rest) = none := by
            rw [back, wordAt_eq_none]
            intro word listed starts
            refine wordAt_eq_none.1 (not_enter_of_leave leaves) word listed ?_
            exact starts.trans (List.prefix_append (letter :: rest) later)
          obtain ⟨left, _, _, sameCount, sameTotal⟩ := switch_leave ahead
          rw [step_switch skip found, step_paint outside missing]
          refine .level (left.trans (inAlt.trans back).symm) ?_ (quiet_found found) (quiet_zero _) ?_ ?_
            (.inl ?_)
          · rw [left]
            exact fun other => absurd other Bool.false_ne_true
          · rw [painted, sameCount]
            exact fewer.le
          · rw [unpainted, sameTotal]
            exact less
          · rw [painted, sameCount]
            exact fewer
      | none =>
          rw [step_paint skip found]
          obtain ⟨still, _⟩ := paint_fields (clears whole.1.inAlt (letter :: (rest ++ later)))
            whole.1 [letter]
          have sameCount := count_paint (clears whole.1.inAlt (letter :: (rest ++ later)))
            whole.1 [letter]
          have moreTotal := total_paint (clears whole.1.inAlt (letter :: (rest ++ later)))
            whole.1 [letter]
          rw [if_pos ahead, List.length_singleton] at moreTotal
          cases entered : wordAt (switchWords chunked.1.inAlt) (letter :: rest) with
          | none =>
              rw [step_paint outside entered]
              refine .behind (still.trans ahead) (inAlt.trans back) rfl ?_ ?_ (quiet_zero _)
              · rw [painted, sameCount]
                exact fewer
              · rw [unpainted, moreTotal]
                omega
          | some length =>
              obtain ⟨_, _, most, _⟩ := wordAt_cons (marked_switch _) entered
              obtain ⟨inside, _, _, _, moreCount, sameTotal⟩ := switch_enter back
              rw [step_switch outside entered]
              refine .level ((still.trans ahead).trans inside.symm) (fun _ => Nat.zero_le _)
                (quiet_zero _) (quiet_append (by omega) (quiet_found entered) later) ?_ ?_ (.inr ?_)
              · rw [moreCount, sameCount]
                exact fewer
              · rw [sameTotal, moreTotal]
                omega
              · rw [sameTotal, moreTotal]
                omega

/-- Painting and switching keep what is on screen and what is counted. -/
theorem level_paint {view : Text} (mode : whole.1.inAlt = chunked.1.inAlt)
    (fewer : count chunked.1 ≤ count whole.1) (less : total chunked.1 ≤ total whole.1)
    (strict : count chunked.1 < count whole.1 ∨ total chunked.1 < total whole.1)
    (cleared alsoCleared : Bool) :
    Apart (paint (unmark cleared whole.1) [letter], 0)
      (paint (unmark alsoCleared chunked.1) [letter], 0) view := by
  have wholeTotal := total_paint cleared whole.1 [letter]
  have chunkedTotal := total_paint alsoCleared chunked.1 [letter]
  rw [mode] at wholeTotal
  refine .level ?_ (fun _ => le_rfl) (quiet_zero _) (quiet_zero _) ?_ ?_ ?_
  · rw [paint_inAlt, paint_inAlt, mode]
  · rw [count_paint, count_paint]
    exact fewer
  · rw [wholeTotal, chunkedTotal]
    omega
  · rw [count_paint, count_paint, wholeTotal, chunkedTotal]
    omega

theorem level_switch {view : Text} {length : Nat} (mode : whole.1.inAlt = chunked.1.inAlt)
    (fewer : count chunked.1 ≤ count whole.1) (less : total chunked.1 ≤ total whole.1)
    (strict : count chunked.1 < count whole.1 ∨ total chunked.1 < total whole.1)
    (quiet : Quiet length view) :
    Apart (switch whole.1, length) (switch chunked.1, length) view := by
  cases shown : whole.1.inAlt with
  | true =>
      obtain ⟨left, _, _, sameCount, sameTotal⟩ := switch_leave shown
      obtain ⟨alsoLeft, _, _, alsoCount, alsoTotal⟩ := switch_leave (mode ▸ shown)
      refine .level (left.trans alsoLeft.symm) (fun _ => le_rfl) quiet quiet ?_ ?_ ?_
      · rw [sameCount, alsoCount]
        exact fewer
      · rw [sameTotal, alsoTotal]
        exact less
      · rw [sameCount, alsoCount, sameTotal, alsoTotal]
        exact strict
  | false =>
      obtain ⟨inside, _, _, _, moreCount, sameTotal⟩ := switch_enter shown
      obtain ⟨alsoInside, _, _, _, alsoCount, alsoTotal⟩ := switch_enter (mode ▸ shown)
      refine .level (inside.trans alsoInside.symm) (fun _ => le_rfl) quiet quiet ?_ ?_ ?_
      · rw [moreCount, alsoCount]
        omega
      · rw [sameTotal, alsoTotal]
        exact less
      · rw [moreCount, alsoCount, sameTotal, alsoTotal]
        omega

theorem level_step (mode : whole.1.inAlt = chunked.1.inAlt)
    (order : whole.1.inAlt = true → whole.2 ≤ chunked.2)
    (quiet : Quiet whole.2 (letter :: (rest ++ later)))
    (alsoQuiet : Quiet chunked.2 (letter :: (rest ++ later)))
    (fewer : count chunked.1 ≤ count whole.1) (less : total chunked.1 ≤ total whole.1)
    (strict : count chunked.1 < count whole.1 ∨ total chunked.1 < total whole.1) :
    Apart (step whole letter (rest ++ later)) (step chunked letter rest) (rest ++ later) := by
  cases skip : whole.2 with
  | succ skipped =>
      rw [skip] at quiet order
      obtain ⟨plain, quiet⟩ := quiet_succ quiet
      rw [step_skip skip]
      cases alsoSkip : chunked.2 with
      | succ alsoSkipped =>
          rw [alsoSkip] at alsoQuiet order
          rw [step_skip alsoSkip]
          exact .level mode (fun inAlt => Nat.le_of_succ_le_succ (order inAlt)) quiet
            (quiet_succ alsoQuiet).2 fewer less strict
      | zero =>
          -- only on the main screen can the one fed whole be inside a switch alone
          have onMain : whole.1.inAlt = false := by
            rw [alsoSkip] at order
            rw [← Bool.not_eq_true]
            exact fun inAlt => absurd (order inAlt) (Nat.not_succ_le_zero _)
          have unpainted := total_paint (clears chunked.1.inAlt (letter :: rest)) chunked.1 [letter]
          rw [if_neg (by rw [← mode, onMain]; exact Bool.false_ne_true), Nat.add_zero] at unpainted
          rw [step_plain chunked plain alsoSkip]
          refine .level ?_ ?_ quiet (quiet_zero _) ?_ ?_ ?_
          · rw [paint_inAlt, mode]
          · rw [onMain]
            exact fun inAlt => absurd inAlt Bool.false_ne_true
          · rw [count_paint]
            exact fewer
          · rw [unpainted]
            exact less
          · rw [count_paint, unpainted]
            exact strict
  | zero =>
      cases alsoSkip : chunked.2 with
      | succ alsoSkipped =>
          rw [alsoSkip] at alsoQuiet
          obtain ⟨plain, alsoQuiet⟩ := quiet_succ alsoQuiet
          have painted := total_paint (clears whole.1.inAlt (letter :: (rest ++ later))) whole.1
            [letter]
          rw [step_skip alsoSkip, step_plain whole plain skip]
          refine .level ?_ (fun _ => Nat.zero_le _) (quiet_zero _) alsoQuiet ?_ ?_ ?_
          · rw [paint_inAlt, mode]
          · rw [count_paint]
            exact fewer
          · rw [painted]
            exact Nat.le_add_right_of_le less
          · rw [count_paint, painted]
            exact strict.imp_right fun fewer => Nat.lt_add_right _ fewer
      | zero =>
          have view := wordAt_view (marked_switch whole.1.inAlt) (letter :: rest) later
          rw [List.cons_append] at view
          rcases view with ⟨missing, alsoMissing⟩ | ⟨length, found, alsoFound, _⟩ |
            ⟨length, found, missing, _⟩
          · rw [step_paint skip missing, step_paint alsoSkip (mode ▸ alsoMissing)]
            exact level_paint mode fewer less strict _ _
          · rw [step_switch skip found, step_switch alsoSkip (mode ▸ alsoFound)]
            exact level_switch mode fewer less strict (quiet_found found)
          · exact cut_apart mode skip alsoSkip fewer less found (mode ▸ missing)

/-- Once apart, the two screens stay apart. -/
theorem apart_step (apart : Apart whole chunked (letter :: (rest ++ later))) :
    Apart (step whole letter (rest ++ later)) (step chunked letter rest) (rest ++ later) := by
  cases apart with
  | behind ahead back outside fewer less quiet =>
      exact behind_step ahead back outside fewer less quiet
  | level mode order quiet alsoQuiet fewer less strict =>
      exact level_step mode order quiet alsoQuiet fewer less strict
  | missed seen left word painted coming quiet inAlt outside =>
      exact missed_step word painted coming quiet inAlt outside
  | torn word text leaves shown inside =>
      obtain ⟨word, text, leaves, shown, inside⟩ := torn_step letter rest
        ⟨word, text, leaves, shown, inside⟩
      exact .torn word text leaves shown inside

theorem apart_walk {piece : Text} (apart : Apart whole chunked (piece ++ later)) :
    Apart (walk later whole piece) (walk [] chunked piece) later := by
  induction piece generalizing whole chunked with
  | nil => exact apart
  | cons letter rest ih =>
      rw [walk, walk, List.append_nil]
      exact ih (apart_step apart)

theorem apart_pieces {pieces : List Text} (apart : Apart whole chunked pieces.flatten) :
    Apart (walk [] whole pieces.flatten) (pieces.foldl (walk []) chunked) [] := by
  induction pieces generalizing whole chunked with
  | nil => exact apart
  | cons piece pieces ih =>
      rw [List.flatten_cons, walk_append, List.append_nil, List.foldl_cons]
      exact ih (apart_walk apart)

/-! ### What is never on a screen that is fed whole -/

/-- No leave stands on an alternate screen, or starts on the one that is up. -/
structure Clean (whole : Live × Nat) (rest : Text) : Prop where
  dropped : ∀ text ∈ whole.1.dropped, ∀ word ∈ leaveWords, ¬ word <:+: text
  alt : whole.1.inAlt = true → ∀ front back, whole.1.alt = front ++ back → back ≠ [] →
    wordAt leaveWords (back ++ rest) = none
  entering : whole.1.inAlt = true → whole.2 ≠ 0 → whole.1.alt = []

theorem clean_alt (clean : Clean whole rest) (inAlt : whole.1.inAlt = true) :
    ∀ word ∈ leaveWords, ¬ word <:+: whole.1.alt := by
  rintro word listed ⟨front, back, shape⟩
  obtain ⟨tail, rfl, _⟩ := (marked_switch true).starts word listed
  have none := clean.alt inAlt front (esc :: tail ++ back)
    (by rw [← shape, List.append_assoc]) (List.cons_ne_nil _ _)
  refine wordAt_eq_none.1 none (esc :: tail) listed ?_
  rw [List.append_assoc]
  exact List.prefix_append _ _

theorem clean_paint (clean : Clean whole (letter :: rest)) (outside : whole.2 = 0)
    (missing : wordAt (switchWords whole.1.inAlt) (letter :: rest) = none) :
    Clean (step whole letter rest) rest := by
  rw [step_paint outside missing]
  obtain ⟨same, dropped, painted, _⟩ := paint_fields (clears whole.1.inAlt (letter :: rest)) whole.1
    [letter]
  refine ⟨?_, fun inAlt front back shape some => ?_, fun _ inside => absurd rfl inside⟩
  · rw [dropped]
    exact clean.dropped
  · rw [same] at inAlt
    rw [(painted inAlt).1] at shape
    -- the new letter ends the text that is looked at
    obtain ⟨body, last, rfl⟩ := List.eq_nil_or_concat' back |>.resolve_left some
    rw [← List.append_assoc] at shape
    obtain ⟨earlier, rfl⟩ := List.append_singleton_inj.mp shape
    rw [List.append_assoc, List.singleton_append]
    by_cases empty : body = []
    · rw [empty, List.nil_append]
      rw [inAlt] at missing
      exact missing
    · exact clean.alt inAlt front body earlier empty

theorem clean_switch {length : Nat} (clean : Clean whole (letter :: rest)) (outside : whole.2 = 0)
    (found : wordAt (switchWords whole.1.inAlt) (letter :: rest) = some length) :
    Clean (step whole letter rest) rest := by
  rw [step_switch outside found]
  cases shown : whole.1.inAlt with
  | true =>
      obtain ⟨left, dropped, _⟩ := switch_leave shown
      refine ⟨?_, fun inAlt => ?_, fun inAlt => ?_⟩
      · rw [dropped]
        intro text listed word leaves
        rcases List.mem_append.mp listed with earlier | current
        · exact clean.dropped text earlier word leaves
        · rw [List.mem_singleton.mp current]
          exact clean_alt clean shown word leaves
      · rw [left] at inAlt
        cases inAlt
      · rw [left] at inAlt
        cases inAlt
  | false =>
      obtain ⟨_, empty, dropped, _⟩ := switch_enter shown
      refine ⟨?_, fun _ front back shape some => ?_, fun _ _ => empty⟩
      · rw [dropped]
        exact clean.dropped
      · rw [empty] at shape
        exact absurd (List.append_eq_nil_iff.mp shape.symm).2 some

theorem clean_step (clean : Clean whole (letter :: rest)) : Clean (step whole letter rest) rest := by
  cases skip : whole.2 with
  | succ skipped =>
      have entering : whole.1.inAlt = true → whole.1.alt = [] :=
        fun inAlt => clean.entering inAlt (by rw [skip]; exact Nat.succ_ne_zero _)
      rw [step_skip skip]
      refine ⟨clean.dropped, fun inAlt front back shape some => ?_, fun inAlt _ => entering inAlt⟩
      rw [entering inAlt] at shape
      exact absurd (List.append_eq_nil_iff.mp shape.symm).2 some
  | zero =>
      cases found : wordAt (switchWords whole.1.inAlt) (letter :: rest) with
      | none => exact clean_paint clean skip found
      | some length => exact clean_switch clean skip found

theorem clean_walk {text : Text} (clean : Clean whole text) : Clean (walk [] whole text) [] := by
  induction text generalizing whole with
  | nil => exact clean
  | cons letter rest ih =>
      rw [walk, List.append_nil]
      exact ih (clean_step clean)

theorem clean_fresh (reconstructed : Bool) (text : Text) : Clean (fresh reconstructed, 0) text := by
  refine ⟨fun text listed => ?_, fun inAlt => ?_, fun inAlt => ?_⟩
  · cases listed
  · cases inAlt
  · cases inAlt

/-- Two screens that end apart do not show the same. -/
theorem apart_shown (apart : Apart whole chunked []) (clean : Clean whole []) :
    chunked.1.shown ≠ whole.1.shown := by
  intro same
  obtain ⟨inAlt, _, _, alt, dropped⟩ := Shown.mk.inj same
  have counted : count chunked.1 = count whole.1 := by rw [count, count, inAlt, dropped]
  have totalled : total chunked.1 = total whole.1 := by rw [total, total, inAlt, dropped, alt]
  cases apart with
  | behind ahead back =>
      rw [back, ahead] at inAlt
      cases inAlt
  | level _ _ _ _ _ _ strict => omega
  | missed seen left word painted coming _ current =>
      rw [List.prefix_nil.mp coming, List.append_nil] at word
      rw [alt] at painted
      exact clean_alt clean (inAlt.symm.trans current) seen word painted.isInfix
  | torn word text leaves shown inside =>
      rcases shown with earlier | ⟨current, rfl⟩
      · exact clean.dropped text (dropped ▸ earlier) word leaves inside
      · rw [alt] at inside
        exact clean_alt clean (inAlt.symm.trans current) word leaves inside

end Apart

end AifyComms.ScreenChunks
