import Mathlib.Data.String.Basic
import Mathlib.Data.List.DropRight

/-!
The text operations the service applies to free-text fields. `strip` removes
the characters Python calls whitespace. `lower` is compared with ASCII
vocabularies only: it maps ASCII capitals and the one other character whose
lower case is a single ASCII letter (the Kelvin sign), and leaves every other
character alone, so membership in such a vocabulary is Python's.
-/

namespace AifyComms.PyText

def isSpace (c : Char) : Bool :=
  let n := c.toNat
  (0x09 ≤ n && n ≤ 0x0d) || (0x1c ≤ n && n ≤ 0x20) || n == 0x85 || n == 0xa0 || n == 0x1680 ||
    (0x2000 ≤ n && n ≤ 0x200a) || n == 0x2028 || n == 0x2029 || n == 0x202f || n == 0x205f ||
    n == 0x3000

def strip (text : String) : String :=
  String.ofList ((text.toList.dropWhile isSpace).reverse.dropWhile isSpace).reverse

def lowerChar (c : Char) : Char := if c.toNat = 0x212a then 'k' else c.toLower

def lower (text : String) : String := String.ofList (text.toList.map lowerChar)

/-- `str(value or "").strip().lower()`. -/
def normalise (text : String) : String := lower (strip text)

example : normalise " Completed\n" = "completed" := by decide

/-- What is left after dropping at both ends has nothing to drop at either. -/
theorem dropWhile_ends_idempotent {α : Type*} (p : α → Bool) (items : List α) :
    (((items.dropWhile p).rdropWhile p).dropWhile p).rdropWhile p =
      (items.dropWhile p).rdropWhile p := by
  have kept : ((items.dropWhile p).rdropWhile p).dropWhile p =
      (items.dropWhile p).rdropWhile p := by
    cases trimmed : (items.dropWhile p).rdropWhile p with
    | nil => rfl
    | cons first rest =>
        -- The first item left is the first one of the list that is not dropped.
        have leading : first :: rest <+: items.dropWhile p :=
          trimmed ▸ List.rdropWhile_prefix p _
        obtain ⟨trailing, whole⟩ := leading
        have stays := List.head?_dropWhile_not p items
        rw [← whole] at stays
        simp only [List.cons_append, List.head?_cons] at stays
        exact List.dropWhile_cons_of_neg (by simpa using stays)
  rw [kept, List.rdropWhile_idempotent]

theorem strip_strip (text : String) : strip (strip text) = strip text := by
  have again : strip (strip text) =
      String.ofList ((((text.toList.dropWhile isSpace).rdropWhile isSpace).dropWhile
        isSpace).rdropWhile isSpace) := by
    rw [strip, strip, String.toList_ofList, List.rdropWhile, List.rdropWhile]
  rw [again, dropWhile_ends_idempotent, strip, List.rdropWhile]

theorem normalise_strip_ne {text : String} (stays : strip text ≠ "") :
    normalise (strip text) ≠ "" := by
  intro blank
  refine stays ?_
  have chars := congrArg String.toList blank
  rw [normalise, strip_strip, lower, String.toList_ofList, String.toList_empty,
    List.map_eq_nil_iff] at chars
  exact String.toList_eq_nil_iff.mp chars

theorem toLower_plain {c d : Char} (lowered : c.toLower = d) (plain : d.isAlpha = false) : c = d := by
  unfold Char.toLower at lowered
  split at lowered
  · next upper =>
    exfalso
    subst lowered
    unfold Char.isAlpha Char.isUpper Char.isLower at plain
    simp only [Bool.or_eq_false_iff, Bool.and_eq_false_iff, decide_eq_false_iff_not, ge_iff_le,
      UInt32.le_iff_toNat_le] at plain upper
    simp at plain upper
    omega
  · exact lowered

/-- What holds of every character of a text is checked character by character. -/
theorem chars_of_all {holds : Char → Prop} [DecidablePred holds] {text : List Char}
    (all : text.all (fun char => decide (holds char)) = true) : ∀ char ∈ text, holds char :=
  fun char member => of_decide_eq_true (List.all_eq_true.mp all char member)

end AifyComms.PyText
