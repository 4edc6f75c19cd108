import AifyComms.ScreenChunks
import Mathlib.Data.List.Infix

/-!
When a live screen fed in chunks shows what it shows when it is fed the text whole: where the
switches of screens and the clears stand in the text that is handed on, and which of them the
end of a piece cuts.
-/

namespace AifyComms.ScreenCuts
open MarkedWords LiveScreen ScreenChunks

inductive Kind where
  | switch
  | clear
  deriving DecidableEq

/-- A switch or a clear, from its escape to past its last letter. -/
structure Span where
  kind : Kind
  start : Nat
  stop : Nat
  deriving DecidableEq

/-- The switches that a screen fed the text whole acts on, and the clears of its main screen. -/
def spans : Bool → Nat → Nat → Text → List Span
  | _, _, _, [] => []
  | inAlt, skip + 1, offset, _ :: rest => spans inAlt skip (offset + 1) rest
  | inAlt, 0, offset, letter :: rest =>
      match wordAt (switchWords inAlt) (letter :: rest) with
      | some length =>
          ⟨.switch, offset, offset + length⟩ :: spans (!inAlt) (length - 1) (offset + 1) rest
      | none =>
          match if inAlt then none else wordAt clearWords (letter :: rest) with
          | some length => ⟨.clear, offset, offset + length⟩ :: spans inAlt 0 (offset + 1) rest
          | none => spans inAlt 0 (offset + 1) rest

/-- Where the pieces that are handed on end. -/
def cuts (chunks : List Text) : List Nat :=
  chunks.inits.map fun front => (fedText front.flatten).length

/-- No piece ends inside the span. -/
def Span.uncut (cuts : List Nat) (span : Span) : Bool :=
  cuts.all fun cut => decide (cut ≤ span.start) || decide (span.stop ≤ cut)

/-! ### The pieces -/

/-- The pieces that are handed on, after what is held back. -/
def handed : Text → List Text → List Text
  | _, [] => []
  | pending, chunk :: chunks =>
      fedText (pending ++ chunk) :: handed (hold (pending ++ chunk)).2 chunks

/-- Where they end. -/
def boundaries : Nat → List Text → List Nat
  | _, [] => []
  | offset, piece :: pieces => (offset + piece.length) :: boundaries (offset + piece.length) pieces

theorem hold_later (text later : Text) :
    (hold (text ++ later)).2 = (hold ((hold text).2 ++ later)).2 := by
  rw [hold_append]

theorem handed_flatten (text : Text) (chunks : List Text) :
    fedText text ++ (handed (hold text).2 chunks).flatten = fedText (text ++ chunks.flatten) := by
  induction chunks generalizing text with
  | nil => rw [handed, List.flatten_nil, List.append_nil, List.append_nil]
  | cons chunk chunks ih =>
      rw [handed, List.flatten_cons, List.flatten_cons, ← List.append_assoc, ← fedText_append,
        ← hold_later, ih, List.append_assoc]

theorem boundaries_handed (text : Text) (chunks : List Text) :
    (chunks.inits.map fun front => (fedText (text ++ front.flatten)).length) =
      (fedText text).length :: boundaries (fedText text).length (handed (hold text).2 chunks) := by
  induction chunks generalizing text with
  | nil => simp [handed, boundaries]
  | cons chunk chunks ih =>
      have longer : (fedText text).length + (fedText ((hold text).2 ++ chunk)).length =
          (fedText (text ++ chunk)).length := by
        rw [fedText_append text chunk, List.length_append]
      have later := ih (text ++ chunk)
      rw [handed, boundaries, longer, ← hold_later, ← later]
      simp [Function.comp_def]

theorem cuts_eq (chunks : List Text) : cuts chunks = boundaries 0 ([] :: handed [] chunks) :=
  boundaries_handed [] chunks

/-! ### A screen and its pieces -/

def holding (pending : Text) (state : Live × Nat) : Live × Nat :=
  ({ state.1 with pending := pending }, state.2)

theorem step_holding (pending : Text) (state : Live × Nat) (letter : Char) (ahead : Text) :
    step (holding pending state) letter ahead = holding pending (step state letter ahead) := by
  cases skip : state.2 with
  | succ skipped =>
      have alsoSkip : (holding pending state).2 = skipped + 1 := skip
      rw [step_skip skip, step_skip alsoSkip]
      rfl
  | zero =>
      have alsoSkip : (holding pending state).2 = 0 := skip
      cases found : wordAt (switchWords state.1.inAlt) (letter :: ahead) with
      | some length =>
          rw [step_switch skip found, step_switch alsoSkip found]
          cases shown : state.1.inAlt <;>
            simp [holding, switch, shown, Live.leaveAlt, Live.enterAlt]
      | none =>
          rw [step_paint skip found, step_paint alsoSkip found]
          cases shown : state.1.inAlt <;>
            simp [holding, paint, unmark, shown, Live.feedAlt, Live.feedMain]

theorem walk_holding (pending after : Text) (state : Live × Nat) (text : Text) :
    walk after (holding pending state) text = holding pending (walk after state text) := by
  induction text generalizing state with
  | nil => rfl
  | cons letter rest ih => rw [walk, walk, step_holding, ih]

theorem pieces_holding (pending : Text) (state : Live × Nat) (pieces : List Text) :
    pieces.foldl (walk []) (holding pending state) =
      holding pending (pieces.foldl (walk []) state) := by
  induction pieces generalizing state with
  | nil => rfl
  | cons piece pieces ih => rw [List.foldl_cons, List.foldl_cons, walk_holding, ih]

theorem feed_walk (live : Live) (chunk : Text) :
    (feed live chunk, 0) = holding (hold (live.pending ++ chunk)).2
      (walk [] (live, 0) (fedText (live.pending ++ chunk))) := by
  rw [← walk_holding]
  exact (route_eq _ _ _ (Nat.lt_succ_self _)).symm

theorem feed_pending (live : Live) (chunk : Text) :
    (feed live chunk).pending = (hold (live.pending ++ chunk)).2 :=
  congrArg (fun state => state.1.pending) (feed_walk live chunk)

theorem feeds_walk (live : Live) (chunks : List Text) :
    (chunks.foldl feed live).shown =
      ((handed live.pending chunks).foldl (walk []) (live, 0)).1.shown := by
  induction chunks generalizing live with
  | nil => rfl
  | cons chunk chunks ih =>
      rw [List.foldl_cons, ih, feed_walk, feed_pending, pieces_holding, handed, List.foldl_cons]
      rfl

/-! ### What is listed at a letter -/

section Listed
variable {inAlt : Bool} {offset length : Nat} {letter : Char} {rest : Text}

theorem spans_skip (inAlt : Bool) (skip offset : Nat) (letter : Char) (rest : Text) :
    spans inAlt (skip + 1) offset (letter :: rest) = spans inAlt skip (offset + 1) rest := rfl

theorem spans_here (inAlt : Bool) (offset : Nat) (letter : Char) (rest : Text) :
    spans inAlt 0 offset (letter :: rest) =
      match wordAt (switchWords inAlt) (letter :: rest) with
      | some length =>
          ⟨.switch, offset, offset + length⟩ :: spans (!inAlt) (length - 1) (offset + 1) rest
      | none =>
          match if inAlt then none else wordAt clearWords (letter :: rest) with
          | some length => ⟨.clear, offset, offset + length⟩ :: spans inAlt 0 (offset + 1) rest
          | none => spans inAlt 0 (offset + 1) rest := rfl

theorem spans_switch (found : wordAt (switchWords inAlt) (letter :: rest) = some length)
    (offset : Nat) :
    spans inAlt 0 offset (letter :: rest) =
      ⟨.switch, offset, offset + length⟩ :: spans (!inAlt) (length - 1) (offset + 1) rest := by
  rw [spans_here, found]

theorem spans_clear (missing : wordAt (switchWords inAlt) (letter :: rest) = none)
    (onMain : inAlt = false) (found : wordAt clearWords (letter :: rest) = some length)
    (offset : Nat) :
    spans inAlt 0 offset (letter :: rest) =
      ⟨.clear, offset, offset + length⟩ :: spans inAlt 0 (offset + 1) rest := by
  subst onMain
  rw [spans_here, missing]
  dsimp only
  rw [if_neg Bool.false_ne_true, found]

theorem spans_plain (missing : wordAt (switchWords inAlt) (letter :: rest) = none)
    (unclear : clears inAlt (letter :: rest) = false) (offset : Nat) :
    spans inAlt 0 offset (letter :: rest) = spans inAlt 0 (offset + 1) rest := by
  rw [spans_here, missing]
  dsimp only
  unfold clears at unclear
  cases inAlt with
  | true => rw [if_pos rfl]
  | false =>
      rw [Bool.not_false, Bool.true_and, Option.isSome_eq_false_iff, Option.isNone_iff_eq_none]
        at unclear
      rw [if_neg Bool.false_ne_true, unclear]

theorem spans_start (inAlt : Bool) (skip offset : Nat) (text : Text) :
    ∀ span ∈ spans inAlt skip offset text, offset ≤ span.start := by
  induction text generalizing inAlt skip offset with
  | nil =>
      intro span listed
      rw [spans] at listed
      cases listed
  | cons letter rest ih =>
      have later : ∀ inAlt skip, ∀ span ∈ spans inAlt skip (offset + 1) rest, offset ≤ span.start :=
        fun inAlt skip span listed => Nat.le_of_succ_le (ih inAlt skip (offset + 1) span listed)
      cases skip with
      | succ skip =>
          rw [spans_skip]
          exact later inAlt skip
      | zero =>
          rw [spans_here]
          split
          · exact List.forall_mem_cons.mpr ⟨le_rfl, later _ _⟩
          · split
            · exact List.forall_mem_cons.mpr ⟨le_rfl, later _ _⟩
            · exact later _ _

end Listed

theorem boundaries_after (offset : Nat) (pieces : List Text) :
    ∀ cut ∈ boundaries offset pieces, offset ≤ cut := by
  induction pieces generalizing offset with
  | nil =>
      intro cut listed
      cases listed
  | cons piece pieces ih =>
      refine List.forall_mem_cons.mpr ⟨Nat.le_add_right _ _, fun cut listed => ?_⟩
      exact (Nat.le_add_right _ _).trans (ih _ cut listed)

theorem boundaries_letter (offset : Nat) (letter : Char) (rest : Text) (pieces : List Text) :
    boundaries offset ((letter :: rest) :: pieces) = boundaries (offset + 1) (rest :: pieces) := by
  have same : offset + (letter :: rest).length = offset + 1 + rest.length := by
    rw [List.length_cons]
    omega
  rw [boundaries, boundaries, same]

/-- A span that starts at this letter is cut if the piece is too short for it. -/
theorem uncut_here {kind : Kind} {offset length : Nat} {rest : Text}
    (pieces : List Text) :
    (Span.mk kind offset (offset + length)).uncut (boundaries (offset + 1) (rest :: pieces)) =
      decide (length ≤ rest.length + 1) := by
  rw [Bool.eq_iff_iff, Span.uncut, List.all_eq_true, decide_eq_true_eq]
  constructor
  · intro all
    have here := all (offset + 1 + rest.length) List.mem_cons_self
    rw [Bool.or_eq_true, decide_eq_true_eq, decide_eq_true_eq] at here
    dsimp only at here
    omega
  · intro fits cut listed
    rw [Bool.or_eq_true, decide_eq_true_eq, decide_eq_true_eq]
    dsimp only
    rw [boundaries] at listed
    rcases List.mem_cons.mp listed with rfl | beyond
    · omega
    · have further := boundaries_after _ _ cut beyond
      omega

theorem uncut_from {offset : Nat} {span : Span} (starts : offset ≤ span.start) (cuts : List Nat) :
    span.uncut (offset :: cuts) = span.uncut cuts := by
  rw [Span.uncut, List.all_cons, decide_eq_true starts, Bool.true_or, Bool.true_and]
  rfl

/-! ### Both screens at a letter -/

/-- The two screens have the same on them. -/
structure Alike (whole chunked : Live × Nat) : Prop where
  skip : whole.2 = chunked.2
  inAlt : whole.1.inAlt = chunked.1.inAlt
  main : whole.1.main = chunked.1.main
  alt : whole.1.alt = chunked.1.alt
  dropped : whole.1.dropped = chunked.1.dropped

theorem alike_paint {whole chunked : Live × Nat} (alike : Alike whole chunked)
    (cleared alsoCleared : Bool) (text : Text) :
    Alike (paint (unmark cleared whole.1) text, 0) (paint (unmark alsoCleared chunked.1) text, 0) := by
  obtain ⟨_, inAlt, main, alt, dropped⟩ := alike
  obtain ⟨mode, kept, onAlt, onMain⟩ := paint_fields cleared whole.1 text
  obtain ⟨alsoMode, alsoKept, alsoOnAlt, alsoOnMain⟩ := paint_fields alsoCleared chunked.1 text
  refine ⟨rfl, ?_, ?_, ?_, ?_⟩
  · rw [mode, alsoMode, inAlt]
  · cases shown : whole.1.inAlt with
    | true => rw [(onAlt shown).2, (alsoOnAlt (inAlt ▸ shown)).2, main]
    | false => rw [(onMain shown).2, (alsoOnMain (inAlt ▸ shown)).2, main]
  · cases shown : whole.1.inAlt with
    | true => rw [(onAlt shown).1, (alsoOnAlt (inAlt ▸ shown)).1, alt]
    | false => rw [(onMain shown).1, (alsoOnMain (inAlt ▸ shown)).1, alt]
  · rw [kept, alsoKept, dropped]

theorem alike_switch {whole chunked : Live × Nat} (alike : Alike whole chunked) (skip : Nat) :
    Alike (switch whole.1, skip) (switch chunked.1, skip) := by
  obtain ⟨_, inAlt, main, alt, dropped⟩ := alike
  unfold switch
  rw [← inAlt]
  split
  · exact ⟨rfl, rfl, main, rfl, by rw [Live.leaveAlt, Live.leaveAlt, dropped, alt]⟩
  · exact ⟨rfl, rfl, main, rfl, dropped⟩

theorem alike_count {whole chunked : Live × Nat} (alike : Alike whole chunked) :
    count chunked.1 = count whole.1 ∧ total chunked.1 = total whole.1 := by
  constructor
  · rw [count, count, alike.inAlt, alike.dropped]
  · rw [total, total, alike.inAlt, alike.dropped, alike.alt]

theorem paint_reconstructed (cleared : Bool) (live : Live) (text : Text) :
    (paint (unmark cleared live) text).reconstructed = (live.reconstructed && !cleared) := by
  cases shown : live.inAlt <;> simp [paint, unmark, shown, Live.feedAlt, Live.feedMain]

theorem switch_kept (live : Live) :
    (switch live).reconstructed = live.reconstructed ∧ (switch live).inAlt = !live.inAlt := by
  cases shown : live.inAlt <;> simp [switch, shown, Live.leaveAlt, Live.enterAlt]

/-- What one letter does to both screens, and what is listed at it. -/
inductive Read (whole chunked whole' chunked' : Live × Nat) (offset : Nat) (rest later : Text)
    (listed following : List Span) : Prop where
  | plain (same : listed = following) (alike : Alike whole' chunked')
      (flag : whole'.1.reconstructed = whole.1.reconstructed)
      (alsoFlag : chunked'.1.reconstructed = chunked.1.reconstructed)
  | switched (length : Nat) (fits : length ≤ rest.length + 1)
      (first : listed = ⟨.switch, offset, offset + length⟩ :: following)
      (alike : Alike whole' chunked') (flag : whole'.1.reconstructed = whole.1.reconstructed)
      (alsoFlag : chunked'.1.reconstructed = chunked.1.reconstructed)
  | cleared (length : Nat)
      (first : listed = ⟨.clear, offset, offset + length⟩ :: following)
      (alike : Alike whole' chunked') (flag : whole'.1.reconstructed = false)
      (alsoFlag : chunked'.1.reconstructed =
        (chunked.1.reconstructed && !decide (length ≤ rest.length + 1)))
  | torn (length : Nat) (cut : rest.length + 1 < length)
      (first : listed = ⟨.switch, offset, offset + length⟩ :: following)
      (apart : Apart whole' chunked' (rest ++ later))

section Read
variable {whole chunked : Live × Nat} {letter : Char} {rest later : Text}

/-- On the main screen a clear in view is seen, and one that the piece cuts is not. -/
theorem read_main (alike : Alike whole chunked) (outside : whole.2 = 0)
    (onMain : whole.1.inAlt = false)
    (missing : wordAt (switchWords whole.1.inAlt) (letter :: (rest ++ later)) = none)
    (alsoMissing : wordAt (switchWords chunked.1.inAlt) (letter :: rest) = none) (offset : Nat) :
    Read whole chunked (step whole letter (rest ++ later)) (step chunked letter rest) offset rest
      later (spans whole.1.inAlt whole.2 offset (letter :: (rest ++ later)))
      (spans (step whole letter (rest ++ later)).1.inAlt (step whole letter (rest ++ later)).2
        (offset + 1) (rest ++ later)) := by
  have alsoOnMain : chunked.1.inAlt = false := alike.inAlt ▸ onMain
  have seen : ∀ text, clears whole.1.inAlt text = (wordAt clearWords text).isSome := by
    intro text
    rw [clears, onMain, Bool.not_false, Bool.true_and]
  have alsoSeen : ∀ text, clears chunked.1.inAlt text = (wordAt clearWords text).isSome := by
    intro text
    rw [clears, alsoOnMain, Bool.not_false, Bool.true_and]
  rw [step_paint outside missing, step_paint (alike.skip ▸ outside) alsoMissing, outside,
    paint_inAlt]
  have together := alike_paint alike (clears whole.1.inAlt (letter :: (rest ++ later)))
    (clears chunked.1.inAlt (letter :: rest)) [letter]
  have view := wordAt_view marked_clear (letter :: rest) later
  rw [List.cons_append] at view
  rcases view with ⟨none, alsoNone⟩ | ⟨length, found, alsoFound, fits⟩ | ⟨length, found, lost, cut⟩
  · have unclear : clears whole.1.inAlt (letter :: (rest ++ later)) = false := by
      rw [seen, none, Option.isSome_none]
    refine .plain (spans_plain missing unclear offset) together ?_ ?_
    · rw [paint_reconstructed, unclear, Bool.not_false, Bool.and_true]
    · rw [paint_reconstructed, alsoSeen, alsoNone, Option.isSome_none, Bool.not_false,
        Bool.and_true]
  · refine .cleared length (spans_clear missing onMain found offset) together ?_ ?_
    · rw [paint_reconstructed, seen, found, Option.isSome_some, Bool.not_true, Bool.and_false]
    · rw [List.length_cons] at fits
      rw [paint_reconstructed, alsoSeen, alsoFound, Option.isSome_some, decide_eq_true fits]
  · refine .cleared length (spans_clear missing onMain found offset) together ?_ ?_
    · rw [paint_reconstructed, seen, found, Option.isSome_some, Bool.not_true, Bool.and_false]
    · rw [List.length_cons] at cut
      rw [paint_reconstructed, alsoSeen, lost, Option.isSome_none,
        decide_eq_false (Nat.not_le_of_lt cut)]

theorem read_alt (alike : Alike whole chunked) (outside : whole.2 = 0)
    (inAlt : whole.1.inAlt = true)
    (missing : wordAt (switchWords whole.1.inAlt) (letter :: (rest ++ later)) = none)
    (alsoMissing : wordAt (switchWords chunked.1.inAlt) (letter :: rest) = none) (offset : Nat) :
    Read whole chunked (step whole letter (rest ++ later)) (step chunked letter rest) offset rest
      later (spans whole.1.inAlt whole.2 offset (letter :: (rest ++ later)))
      (spans (step whole letter (rest ++ later)).1.inAlt (step whole letter (rest ++ later)).2
        (offset + 1) (rest ++ later)) := by
  have unclear : ∀ text, clears whole.1.inAlt text = false := by
    intro text
    rw [clears, inAlt, Bool.not_true, Bool.false_and]
  rw [step_paint outside missing, step_paint (alike.skip ▸ outside) alsoMissing, outside,
    paint_inAlt, ← alike.inAlt]
  refine .plain (spans_plain missing (unclear _) offset) (alike_paint alike _ _ _) ?_ ?_
  · rw [paint_reconstructed, unclear, Bool.not_false, Bool.and_true]
  · rw [paint_reconstructed, unclear, Bool.not_false, Bool.and_true]

theorem read_letter (alike : Alike whole chunked) (letter : Char) (rest later : Text)
    (offset : Nat) :
    Read whole chunked (step whole letter (rest ++ later)) (step chunked letter rest) offset rest
      later (spans whole.1.inAlt whole.2 offset (letter :: (rest ++ later)))
      (spans (step whole letter (rest ++ later)).1.inAlt (step whole letter (rest ++ later)).2
        (offset + 1) (rest ++ later)) := by
  cases skip : whole.2 with
  | succ skipped =>
      have alsoSkip : chunked.2 = skipped + 1 := alike.skip ▸ skip
      rw [step_skip skip, step_skip alsoSkip]
      refine .plain (spans_skip _ _ _ _ _) ⟨rfl, ?_, ?_, ?_, ?_⟩ rfl rfl
      · exact alike.inAlt
      · exact alike.main
      · exact alike.alt
      · exact alike.dropped
  | zero =>
      have alsoSkip : chunked.2 = 0 := alike.skip ▸ skip
      have view := wordAt_view (marked_switch whole.1.inAlt) (letter :: rest) later
      rw [List.cons_append] at view
      rcases view with ⟨missing, alsoMissing⟩ | ⟨length, found, alsoFound, fits⟩ |
        ⟨length, found, lost, cut⟩
      · rw [alike.inAlt] at alsoMissing
        rw [← skip]
        cases shown : whole.1.inAlt with
        | true =>
            rw [← shown]
            exact read_alt alike skip shown missing alsoMissing offset
        | false =>
            rw [← shown]
            exact read_main alike skip shown missing alsoMissing offset
      · rw [alike.inAlt] at alsoFound
        rw [step_switch skip found, step_switch alsoSkip alsoFound]
        refine .switched length fits ?_ (alike_switch alike _) (switch_kept _).1
          (switch_kept _).1
        rw [spans_switch found, (switch_kept _).2]
      · rw [alike.inAlt] at lost
        obtain ⟨counted, totalled⟩ := alike_count alike
        refine .torn length cut ?_
          (cut_apart alike.inAlt skip alsoSkip counted.le totalled.le found lost)
        rw [spans_switch found, step_switch skip found, (switch_kept _).2]

end Read

/-! ### Both screens to the end -/

/-- Both screens have read the same text: no piece cut a switch, and each is marked as far as it
saw no clear; or a piece cut a switch, and they are apart. -/
inductive Outcome (whole chunked whole' chunked' : Live × Nat) (listed : List Span)
    (cuts : List Nat) : Prop where
  | alike (alike : Alike whole' chunked')
      (uncut : ∀ span ∈ listed, span.kind = .switch → span.uncut cuts = true)
      (flag : whole'.1.reconstructed =
        (whole.1.reconstructed && listed.all fun span => span.kind != .clear))
      (alsoFlag : chunked'.1.reconstructed = (chunked.1.reconstructed &&
        listed.all fun span => span.kind != .clear || !span.uncut cuts))
  | apart (apart : Apart whole' chunked' [])
      (cut : ∃ span ∈ listed, span.kind = .switch ∧ span.uncut cuts = false)

theorem outcome_letter {whole chunked middle middle' last last' : Live × Nat} {offset : Nat}
    {rest later : Text} {pieces : List Text} {listed following : List Span}
    (read : Read whole chunked middle middle' offset rest later listed following)
    (parted : Apart middle middle' (rest ++ later) → Apart last last' [])
    (ih : Alike middle middle' →
      Outcome middle middle' last last' following (boundaries (offset + 1) (rest :: pieces))) :
    Outcome whole chunked last last' listed (boundaries (offset + 1) (rest :: pieces)) := by
  cases read with
  | torn length cut first apart =>
      refine .apart (parted apart) ⟨_, first ▸ List.mem_cons_self, rfl, ?_⟩
      rw [uncut_here]
      exact decide_eq_false (Nat.not_le_of_lt cut)
  | plain same alike flag alsoFlag =>
      rw [same]
      cases ih alike with
      | alike ended uncut wholeFlag chunkedFlag =>
          exact .alike ended uncut (flag ▸ wholeFlag) (alsoFlag ▸ chunkedFlag)
      | apart apart cut => exact .apart apart cut
  | switched length fits first alike flag alsoFlag =>
      rw [first]
      cases ih alike with
      | alike ended uncut wholeFlag chunkedFlag =>
          refine .alike ended (List.forall_mem_cons.mpr ⟨fun _ => ?_, uncut⟩) ?_ ?_
          · rw [uncut_here]
            exact decide_eq_true fits
          · rw [wholeFlag, flag]
            rfl
          · rw [chunkedFlag, alsoFlag]
            rfl
      | apart apart cut =>
          obtain ⟨span, member, switches, cut⟩ := cut
          exact .apart apart ⟨span, List.mem_cons_of_mem _ member, switches, cut⟩
  | cleared length first alike flag alsoFlag =>
      rw [first]
      cases ih alike with
      | alike ended uncut wholeFlag chunkedFlag =>
          refine .alike ended (List.forall_mem_cons.mpr ⟨fun other => ?_, uncut⟩) ?_ ?_
          · cases other
          · rw [wholeFlag, flag, Bool.false_and, List.all_cons]
            exact (Bool.and_false _).symm
          · rw [chunkedFlag, alsoFlag, List.all_cons, uncut_here, Bool.and_assoc]
            rfl
      | apart apart cut =>
          obtain ⟨span, member, switches, cut⟩ := cut
          exact .apart apart ⟨span, List.mem_cons_of_mem _ member, switches, cut⟩

/-- The end of a piece is nowhere inside what comes after it. -/
theorem outcome_piece {whole chunked last last' : Live × Nat} {offset : Nat} {listed : List Span}
    {cuts : List Nat} (starts : ∀ span ∈ listed, offset ≤ span.start)
    (ended : Outcome whole chunked last last' listed cuts) :
    Outcome whole chunked last last' listed (offset :: cuts) := by
  cases ended with
  | alike alike uncut flag alsoFlag =>
      refine .alike alike (fun span member switches => ?_) flag ?_
      · rw [uncut_from (starts span member)]
        exact uncut span member switches
      · rw [alsoFlag]
        congr 1
        rw [Bool.eq_iff_iff, List.all_eq_true, List.all_eq_true]
        refine forall_congr' fun span => forall_congr' fun member => ?_
        rw [uncut_from (starts span member)]
  | apart apart cut =>
      obtain ⟨span, member, switches, cut⟩ := cut
      refine .apart apart ⟨span, member, switches, ?_⟩
      rw [uncut_from (starts span member)]
      exact cut

theorem outcome_walk {whole chunked : Live × Nat} {pieces : List Text}
    (ended : ∀ whole chunked offset, Alike whole chunked →
      Outcome whole chunked (walk [] whole pieces.flatten) (pieces.foldl (walk []) chunked)
        (spans whole.1.inAlt whole.2 offset pieces.flatten) (boundaries offset ([] :: pieces)))
    (piece : Text) (offset : Nat) (alike : Alike whole chunked) :
    Outcome whole chunked (walk [] whole (piece ++ pieces.flatten))
      (pieces.foldl (walk []) (walk [] chunked piece))
      (spans whole.1.inAlt whole.2 offset (piece ++ pieces.flatten))
      (boundaries offset (piece :: pieces)) := by
  induction piece generalizing whole chunked offset with
  | nil => exact ended whole chunked offset alike
  | cons letter rest ih =>
      rw [List.cons_append, walk, walk, List.append_nil, List.append_nil, boundaries_letter]
      refine outcome_letter (read_letter alike letter rest pieces.flatten offset) ?_ (ih (offset + 1))
      intro apart
      rw [walk_append, List.append_nil]
      exact apart_pieces (apart_walk apart)

theorem outcome_pieces (pieces : List Text) : ∀ whole chunked offset, Alike whole chunked →
    Outcome whole chunked (walk [] whole pieces.flatten) (pieces.foldl (walk []) chunked)
      (spans whole.1.inAlt whole.2 offset pieces.flatten) (boundaries offset ([] :: pieces)) := by
  induction pieces with
  | nil =>
      intro whole chunked offset alike
      rw [List.flatten_nil, walk, List.foldl_nil, spans]
      refine .alike alike (fun span member => ?_) ?_ ?_
      · cases member
      · exact (Bool.and_true _).symm
      · exact (Bool.and_true _).symm
  | cons piece pieces ih =>
      intro whole chunked offset alike
      exact outcome_piece (spans_start _ _ _ _) (outcome_walk ih piece offset alike)

theorem outcome_fresh (reconstructed : Bool) (chunks : List Text) :
    Outcome (fresh reconstructed, 0) (fresh reconstructed, 0)
      (walk [] (fresh reconstructed, 0) (fedText chunks.flatten))
      ((handed [] chunks).foldl (walk []) (fresh reconstructed, 0))
      (spans false 0 0 (fedText chunks.flatten)) (cuts chunks) := by
  have fed : (handed [] chunks).flatten = fedText chunks.flatten := handed_flatten [] chunks
  rw [cuts_eq, ← fed]
  exact outcome_pieces _ _ _ 0 ⟨rfl, rfl, rfl, rfl, rfl⟩

theorem chunks_walk (reconstructed : Bool) (chunks : List Text) :
    (chunks.foldl feed (fresh reconstructed)).shown =
      ((handed [] chunks).foldl (walk []) (fresh reconstructed, 0)).1.shown :=
  feeds_walk (fresh reconstructed) chunks

theorem whole_walk (reconstructed : Bool) (text : Text) :
    (feed (fresh reconstructed) text).shown =
      (walk [] (fresh reconstructed, 0) (fedText text)).1.shown :=
  feeds_walk (fresh reconstructed) [text]

/-- Both flags end alike, unless the only clears the text has are cut. -/
theorem flags_iff (reconstructed : Bool) (listed : List Span) (cuts : List Nat) :
    (reconstructed && listed.all fun span => span.kind != .clear || !span.uncut cuts) =
        (reconstructed && listed.all fun span => span.kind != .clear) ↔
      (reconstructed = true → (∃ span ∈ listed, span.kind = .clear) →
        ∃ span ∈ listed, span.kind = .clear ∧ span.uncut cuts = true) := by
  cases reconstructed with
  | false =>
      constructor
      · intro _ marked
        cases marked
      · intro _
        rfl
  | true =>
      rw [Bool.true_and, Bool.true_and, Bool.eq_iff_iff]
      constructor
      · intro same _ some
        obtain ⟨span, member, clears⟩ := some
        by_contra none
        have unseen : (listed.all fun span => span.kind != .clear || !span.uncut cuts) = true := by
          rw [List.all_eq_true]
          intro other alsoMember
          rw [Bool.or_eq_true, bne_iff_ne, Bool.not_eq_true']
          by_cases clear : other.kind = .clear
          · refine .inr (Bool.eq_false_iff.mpr fun whole => none ⟨other, alsoMember, clear, whole⟩)
          · exact .inl clear
        have free := List.all_eq_true.mp (same.mp unseen) span member
        exact bne_iff_ne.mp free clears
      · intro found
        constructor
        · intro unseen
          rw [List.all_eq_true]
          intro span member
          rw [bne_iff_ne]
          intro clears
          obtain ⟨other, alsoMember, clear, whole⟩ := found rfl ⟨span, member, clears⟩
          have missed := List.all_eq_true.mp unseen other alsoMember
          rw [clear, whole] at missed
          cases missed
        · intro free
          rw [List.all_eq_true] at free ⊢
          intro span member
          rw [free span member, Bool.true_or]

/-- A screen fed in chunks shows what it shows when it is fed the text whole just when no piece
ends inside a switch of screens, and a screen rebuilt from the log that gets a clear gets one
that no piece ends in. -/
theorem chunks_show_same_iff_uncut (reconstructed : Bool) (chunks : List Text) :
    (chunks.foldl feed (fresh reconstructed)).shown =
        (feed (fresh reconstructed) chunks.flatten).shown ↔
      (∀ span ∈ spans false 0 0 (fedText chunks.flatten), span.kind = .switch →
        span.uncut (cuts chunks) = true) ∧
      (reconstructed = true →
        (∃ span ∈ spans false 0 0 (fedText chunks.flatten), span.kind = .clear) →
        ∃ span ∈ spans false 0 0 (fedText chunks.flatten), span.kind = .clear ∧
          span.uncut (cuts chunks) = true) := by
  have clean := clean_walk (clean_fresh reconstructed (fedText chunks.flatten))
  rw [chunks_walk, whole_walk]
  cases outcome_fresh reconstructed chunks with
  | alike alike uncut flag alsoFlag =>
      rw [← flags_iff]
      obtain ⟨_, inAlt, main, alt, dropped⟩ := alike
      rw [Live.shown, Live.shown, Shown.mk.injEq, inAlt, main, alt, dropped, flag, alsoFlag]
      constructor
      · intro same
        exact ⟨uncut, same.2.1⟩
      · intro same
        exact ⟨rfl, same.2, rfl, rfl, rfl⟩
  | apart apart cut =>
      constructor
      · intro same
        exact absurd same (apart_shown apart clean)
      · intro same
        obtain ⟨span, member, switches, cut⟩ := cut
        have whole := same.1 span member switches
        rw [cut] at whole
        cases whole

/-- The clear `ESC [ 2 J`, cut before its last letter: the screen stays marked as rebuilt. -/
theorem cut_clear_stays_marked :
    ([['a', 'b', esc, '[', '2'], ['J', 'c', 'd']].foldl feed (fresh true)).reconstructed = true ∧
      (feed (fresh true) [['a', 'b', esc, '[', '2'], ['J', 'c', 'd']].flatten).reconstructed =
        false := by
  decide

/-- A private sequence between the halves of an enter is stripped, and the enter is whole only
when the text is. -/
example :
    (feed (fresh false) (esc :: "[?10".toList ++ esc :: "[>1u49h".toList)).inAlt = true ∧
      ([esc :: "[?10".toList ++ esc :: "[>1u".toList, "49h".toList].foldl feed
        (fresh false)).inAlt = false := by
  decide

end AifyComms.ScreenCuts
