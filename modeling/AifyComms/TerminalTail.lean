import AifyComms.Runs
import AifyComms.TerminalOutput

/-!
The stored tail of one terminal over a sequence of appends. Each append trims the tail
that the one before it left, so what a tail is of the whole output is carried through the
composition of trims.
-/

namespace AifyComms.TerminalTail
open TerminalOutput Runs

/-! ### Trimming -/

/-- The last `limit` characters. -/
def window (limit : Nat) (text : List Char) : List Char := text.drop (text.length - limit)

/-- The tail of a longer text: it begins a line, or is the last `limit` characters, none of
which but the final one ends a line. -/
structure Cut (limit : Nat) (whole tail : List Char) : Prop where
  longer : limit < whole.length
  bounded : tail.length ≤ limit
  line : (∃ before, whole = before ++ '\n' :: tail) ∨
    (tail = window limit whole ∧ '\n' ∉ tail.dropLast)

theorem window_append (limit : Nat) (before text : List Char) (fills : limit ≤ text.length) :
    window limit (before ++ text) = window limit text := by
  unfold window
  rw [List.length_append, List.drop_append, List.drop_of_length_le (by omega), List.nil_append]
  congr 1
  omega

theorem length_window (limit : Nat) (text : List Char) (fills : limit ≤ text.length) :
    (window limit text).length = limit := by
  unfold window
  rw [List.length_drop]
  omega

theorem window_suffix (limit : Nat) (text : List Char) : window limit text <:+ text :=
  List.drop_suffix _ _

/-- A text that is too long is cut after its first line break in the window, where more
than the break follows. -/
theorem trimChars_cut {limit : Nat} {text : List Char} (longer : limit < text.length) :
    Cut limit text (trimChars limit text) := by
  have fills : (window limit text).length = limit := length_window limit text (by omega)
  have cut : ¬ text.length ≤ limit := by omega
  obtain ⟨before, split⟩ := window_suffix limit text
  cases found : (window limit text).findIdx? (· = '\n') with
  | none =>
      have whole : trimChars limit text = window limit text := by
        unfold window at found ⊢
        simp only [trimChars, if_neg cut, found]
      rw [whole]
      rw [List.findIdx?_eq_none_iff] at found
      refine ⟨longer, fills.le, .inr ⟨rfl, fun listed => ?_⟩⟩
      simpa using found _ ((List.dropLast_subset _ listed))
  | some newline =>
      have whole : trimChars limit text =
          if newline < (window limit text).length - 1 then (window limit text).drop (newline + 1)
          else window limit text := by
        unfold window at found ⊢
        simp only [trimChars, if_neg cut, found]
      rw [whole]
      obtain ⟨inside, isBreak, first⟩ := List.findIdx?_eq_some_iff_getElem.mp found
      have breaks : window limit text =
          (window limit text).take newline ++ '\n' :: (window limit text).drop (newline + 1) := by
        rw [← of_decide_eq_true isBreak, ← List.drop_eq_getElem_cons inside, List.take_append_drop]
      split
      · refine ⟨longer, ?_, .inl ⟨before ++ (window limit text).take newline, ?_⟩⟩
        · rw [List.length_drop]
          omega
        · rw [List.append_assoc, ← breaks, split]
      next last =>
        refine ⟨longer, fills.le, .inr ⟨rfl, fun listed => ?_⟩⟩
        obtain ⟨index, earlier, same⟩ := List.mem_iff_getElem.mp listed
        rw [List.length_dropLast] at earlier
        rw [List.getElem_dropLast] at same
        have different := first index (by omega)
        simp [same] at different

/-- The tail is all there is, or was cut. -/
def Kept (limit : Nat) (whole tail : List Char) : Prop := tail = whole ∨ Cut limit whole tail

theorem trimChars_kept (limit : Nat) (text : List Char) : Kept limit text (trimChars limit text) := by
  by_cases fits : text.length ≤ limit
  · exact .inl (if_pos fits)
  · exact .inr (trimChars_cut (by omega))

/-- Trimming the trimmed tail and a chunk is as good as trimming the whole. -/
theorem Kept.append {limit : Nat} {whole tail : List Char} (kept : Kept limit whole tail)
    (chunk : List Char) : Kept limit (whole ++ chunk) (trimChars limit (tail ++ chunk)) := by
  rcases kept with rfl | cut
  · exact trimChars_kept limit _
  have longer : limit < (whole ++ chunk).length := by
    have := cut.longer
    rw [List.length_append]
    omega
  -- What was cut off stands before the new window, so both windows are the same.
  obtain ⟨before, split⟩ : ∃ before, whole ++ chunk = before ++ (tail ++ chunk) := by
    rcases cut.line with ⟨before, rfl⟩ | ⟨rfl, _⟩
    · exact ⟨before ++ ['\n'], by simp⟩
    · obtain ⟨before, split⟩ := window_suffix limit whole
      exact ⟨before, by rw [← List.append_assoc, split]⟩
  by_cases fits : (tail ++ chunk).length ≤ limit
  · rw [trimChars, if_pos fits]
    refine .inr ⟨longer, fits, ?_⟩
    rcases cut.line with ⟨earlier, rfl⟩ | ⟨same, silent⟩
    · exact .inl ⟨earlier, by simp⟩
    · have full := length_window limit whole cut.longer.le
      have none : chunk = [] := by
        rw [← same] at full
        rw [List.length_append] at fits
        exact List.length_eq_zero_iff.mp (by omega)
      rw [none, List.append_nil, List.append_nil]
      exact .inr ⟨same, silent⟩
  · have again : Cut limit (tail ++ chunk) (trimChars limit (tail ++ chunk)) :=
      trimChars_cut (by omega)
    refine .inr ⟨longer, again.bounded, ?_⟩
    rw [split]
    rcases again.line with ⟨earlier, begins⟩ | ⟨same, silent⟩
    · exact .inl ⟨before ++ earlier, by rw [List.append_assoc, ← begins]⟩
    · have fills : limit ≤ (tail ++ chunk).length := by omega
      exact .inr ⟨same.trans (window_append limit before _ fills).symm, silent⟩

/-! ### Appends to one terminal -/

/-- One call of `_append_terminal_output`. An UPDATE that raises puts the buffer back. -/
structure Append where
  chunk : String
  status : String
  seq : Option Nat
  settle : Bool
  number : Nat
  now : Nat
  lands : Bool

/-- The buffers and the row of one terminal. `appended` is the history of the chunks. -/
structure Shelf where
  buffers : Buffers
  row : Row
  appended : List String

def Shelf.tail (terminal : TerminalId) (shelf : Shelf) : String :=
  currentTail shelf.buffers terminal shelf.row.output

def append (terminal : TerminalId) (shelf : Shelf) (call : Append) : Option Shelf :=
  match appendTerminalOutput shelf.buffers terminal shelf.row call.chunk call.status call.seq
      call.settle call.number call.now with
  | (_, none) => some shelf
  | (buffers, some update) =>
      if call.lands then
        some ⟨buffers, update.apply shelf.row, shelf.appended ++ [call.chunk]⟩
      else some shelf

theorem append_cases {terminal : TerminalId} (named : terminal ≠ "") {shelf after : Shelf}
    {call : Append} (taken : append terminal shelf call = some after) :
    after = shelf ∨ (after.appended = shelf.appended ++ [call.chunk] ∧
      after.tail terminal = trimTerminalOutput (shelf.tail terminal ++ call.chunk)) := by
  unfold append at taken
  rcases appendTerminalOutput_folds shelf.buffers named shelf.row call.chunk call.status call.seq
    call.settle call.number call.now with nothing | ⟨update, issued, folds⟩
  · rw [nothing] at taken
    exact .inl (Option.some.inj taken).symm
  generalize appendTerminalOutput shelf.buffers terminal shelf.row call.chunk call.status call.seq
    call.settle call.number call.now = done at taken issued folds
  obtain ⟨buffers, written⟩ := done
  subst issued
  dsimp only at taken folds
  split at taken
  · obtain rfl := Option.some.inj taken
    refine .inr ⟨rfl, ?_⟩
    dsimp only [Shelf.tail, currentTail]
    cases held : buffers terminal with
    | some kept => exact (folds.held kept held).1
    | none =>
        have output := (folds.dropped held).1
        dsimp only [RowUpdate.apply]
        rw [output]
        rfl
  · exact .inl (Option.some.inj taken).symm

/-- What the terminal printed since the run began, after the tail it began with. -/
def printed (terminal : TerminalId) (start shelf : Shelf) : List Char :=
  (start.tail terminal).toList ++ shelf.appended.flatMap String.toList

theorem toList_trimTerminalOutput (text : String) :
    (trimTerminalOutput text).toList = trimChars 65536 text.toList := String.toList_ofList

theorem reachable_kept {terminal : TerminalId} (named : terminal ≠ "") {start shelf : Shelf}
    (fresh : start.appended = []) (run : Reaches (append terminal) anyStep start shelf) :
    Kept 65536 (printed terminal start shelf) (shelf.tail terminal).toList ∧
      (shelf.appended ≠ [] → (shelf.tail terminal).toList.length ≤ 65536) := by
  refine run.invariant (fun shelf =>
    Kept 65536 (printed terminal start shelf) (shelf.tail terminal).toList ∧
      (shelf.appended ≠ [] → (shelf.tail terminal).toList.length ≤ 65536)) ?_ ?_
  · refine ⟨.inl ?_, fun some => absurd fresh some⟩
    rw [printed, fresh]
    exact (List.append_nil _).symm
  · rintro before call after ⟨kept, bounded⟩ _ taken
    rcases append_cases named taken with rfl | ⟨appended, tail⟩
    · exact ⟨kept, bounded⟩
    · have text : (after.tail terminal).toList =
          trimChars 65536 ((before.tail terminal).toList ++ call.chunk.toList) := by
        rw [tail, toList_trimTerminalOutput, String.toList_append]
      have more : printed terminal start after =
          printed terminal start before ++ call.chunk.toList := by
        rw [printed, appended, List.flatMap_append, List.flatMap_singleton, ← List.append_assoc]
        rfl
      rw [text, more]
      refine ⟨kept.append _, fun _ => ?_⟩
      by_cases fits : ((before.tail terminal).toList ++ call.chunk.toList).length ≤ 65536
      · rw [trimChars, if_pos fits]
        exact fits
      · exact (trimChars_cut (by omega)).bounded

/-- The tail after any sequence of appends is a suffix of what was printed, of at most
65536 characters. It is all of it while that fits, and once something has been cut off it
begins a line, unless the last 65536 characters hold no line break before their final
one. -/
theorem stored_tail_true_suffix {terminal : TerminalId} (named : terminal ≠ "")
    {start shelf : Shelf} (fresh : start.appended = [])
    (run : Reaches (append terminal) anyStep start shelf) (some : shelf.appended ≠ []) :
    (shelf.tail terminal).toList <:+ printed terminal start shelf ∧
      (shelf.tail terminal).toList.length ≤ 65536 ∧
      ((printed terminal start shelf).length ≤ 65536 →
        (shelf.tail terminal).toList = printed terminal start shelf) ∧
      ((shelf.tail terminal).toList ≠ printed terminal start shelf →
        (∃ before, printed terminal start shelf = before ++ '\n' :: (shelf.tail terminal).toList) ∨
          '\n' ∉ (window 65536 (printed terminal start shelf)).dropLast) := by
  obtain ⟨kept, bounded⟩ := reachable_kept named fresh run
  refine ⟨?_, bounded some, ?_, ?_⟩
  · rcases kept with same | ⟨_, _, ⟨before, begins⟩ | ⟨same, _⟩⟩
    · exact same ▸ List.suffix_refl _
    · exact ⟨before ++ ['\n'], by rw [begins]; simp⟩
    · exact same ▸ window_suffix _ _
  · intro fits
    rcases kept with same | cut
    · exact same
    · exact absurd cut.longer (by omega)
  · intro differs
    rcases kept with same | ⟨_, _, begins | ⟨same, silent⟩⟩
    · exact absurd same differs
    · exact .inl begins
    · exact .inr (same ▸ silent)

def blankShelf : Shelf := ⟨fun _ => none, ⟨"$ ", "running", 0, []⟩, []⟩

/-- Two chunks after a prompt, the second of which a failed UPDATE puts off once. -/
theorem stored_tail_true_suffix_prompt : ∃ shelf,
    Reaches (append "t") anyStep blankShelf shelf ∧ shelf.appended = ["ls\n", "src\n"] ∧
    shelf.tail "t" = "$ ls\nsrc\n" ∧
    (shelf.tail "t").toList <:+ printed "t" blankShelf shelf := by
  have executed : (exec (append "t") (fun _ _ => true) blankShelf
      [⟨"ls\n", "", some 1, false, 1, 0, true⟩, ⟨"src\n", "", some 2, false, 2, 5, false⟩,
        ⟨"src\n", "", some 2, false, 2, 9, true⟩]).map
      (fun shelf => (shelf.appended, shelf.tail "t")) =
      some (["ls\n", "src\n"], "$ ls\nsrc\n") := by
    decide
  obtain ⟨shelf, run, seen⟩ := reaches_observed _ _ _ _ (fun _ _ _ => trivial) executed
  obtain ⟨appended, tail⟩ := Prod.mk.inj seen
  refine ⟨shelf, run, appended, tail, (stored_tail_true_suffix (by decide) rfl run ?_).1⟩
  rw [appended]
  exact List.cons_ne_nil _ _

end AifyComms.TerminalTail
