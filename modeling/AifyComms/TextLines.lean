import AifyComms.PyText
import Mathlib.Data.List.DropRight

/-!
Texts as lists of characters, read line by line. A line ends at a line feed and
at nothing else, which is what `^` and `$` mean in a multi-line pattern. The
laws say how splitting, joining, stripping and replacing meet each other, so
that a scan of a composed text is a scan of its parts.
-/

namespace AifyComms.TextLines
open PyText

abbrev Text := List Char

def newline : Char := '\n'

def lines (text : Text) : List Text := text.splitOn newline

/-- `"\n".join(parts)`. -/
def joinLines (parts : List Text) : Text := [newline].intercalate parts

def mapLines (edit : Text → Text) (text : Text) : Text := joinLines ((lines text).map edit)

def lstrip (text : Text) : Text := text.dropWhile isSpace

def rstrip (text : Text) : Text := (text.reverse.dropWhile isSpace).reverse

def stripText (text : Text) : Text := rstrip (lstrip text)

/-- `text.replace(old, new)`: occurrences from the left, none overlapping. The
first argument counts the characters of a replaced occurrence still to skip. -/
def replaceFrom (old new : Text) : Nat → Text → Text
  | _, [] => []
  | skip + 1, _ :: rest => replaceFrom old new skip rest
  | 0, c :: rest =>
      if old.isPrefixOf (c :: rest) then new ++ replaceFrom old new (old.length - 1) rest
      else c :: replaceFrom old new 0 rest

def replaceAll (old new text : Text) : Text := replaceFrom old new 0 text

/-- The text before the last occurrence of `pattern`, as `text[:text.rfind(pattern)]`. -/
def beforeLast (pattern : Text) : Text → Option Text
  | [] => if pattern.isPrefixOf [] then some [] else none
  | c :: rest =>
      match beforeLast pattern rest with
      | some found => some (c :: found)
      | none => if pattern.isPrefixOf (c :: rest) then some [] else none

/-! ### Lines -/

@[simp] theorem lines_nil : lines [] = [[]] := rfl

/-- What holds of the characters of a literal holds of its text. -/
theorem of_chars {p : List Char → Prop} {cs : List Char} (holds : p cs) :
    p (String.ofList cs).toList := by
  rwa [String.toList_ofList]

theorem lines_ne_nil (text : Text) : lines text ≠ [] := List.splitOn_ne_nil _ _

@[simp] theorem lines_newline (left right : Text) :
    lines (left ++ newline :: right) = lines left ++ lines right :=
  List.splitOn_append_cons_self left right

theorem lines_single {text : Text} (oneLine : newline ∉ text) : lines text = [text] :=
  List.splitOn_eq_singleton oneLine

theorem lines_cons {c : Char} (other : c ≠ newline) (text : Text) :
    lines (c :: text) = (lines text).modifyHead (c :: ·) := by
  simp [lines, List.splitOn_cons_eq_if_modifyHead, other]

/-- Text put in front of a first line belongs to that line. -/
theorem lines_append {label : Text} (oneLine : newline ∉ label) (text : Text) :
    ∃ first, lines (label ++ text) = (label ++ first) :: (lines text).tail := by
  induction label with
  | nil =>
      obtain ⟨first, rest, split⟩ := List.exists_cons_of_ne_nil (lines_ne_nil text)
      exact ⟨first, by simp [split]⟩
  | cons c label ih =>
      simp only [List.mem_cons, not_or] at oneLine
      obtain ⟨first, split⟩ := ih oneLine.2
      refine ⟨first, ?_⟩
      rw [List.cons_append, lines_cons (Ne.symm oneLine.1), split]
      rfl

@[simp] theorem joinLines_cons_cons (first second : Text) (rest : List Text) :
    joinLines (first :: second :: rest) = first ++ newline :: joinLines (second :: rest) := by
  simp [joinLines]

@[simp] theorem joinLines_singleton (only : Text) : joinLines [only] = only := by
  simp [joinLines]

theorem joinLines_cons {rest : List Text} (more : rest ≠ []) (first : Text) :
    joinLines (first :: rest) = first ++ newline :: joinLines rest := by
  cases rest with
  | nil => exact absurd rfl more
  | cons second rest => exact joinLines_cons_cons first second rest

theorem joinLines_append {left right : List Text} (some : left ≠ []) (more : right ≠ []) :
    joinLines (left ++ right) = joinLines left ++ newline :: joinLines right := by
  induction left with
  | nil => exact absurd rfl some
  | cons first rest ih =>
      cases rest with
      | nil => simp [joinLines_cons more]
      | cons second rest =>
          have remaining := ih (List.cons_ne_nil second rest)
          simp only [List.cons_append, joinLines_cons_cons, List.append_assoc] at remaining ⊢
          rw [remaining]

theorem lines_joinLines {parts : List Text} (some : parts ≠ []) :
    lines (joinLines parts) = parts.flatMap lines := by
  induction parts with
  | nil => exact absurd rfl some
  | cons first rest ih =>
      cases rest with
      | nil => simp
      | cons second rest =>
          rw [joinLines_cons_cons, lines_newline, ih (List.cons_ne_nil second rest)]
          simp

theorem prefix_before_newline {wanted left right : Text} (oneLine : newline ∉ wanted)
    (found : wanted <+: left ++ newline :: right) : wanted <+: left := by
  induction wanted generalizing left with
  | nil => exact List.nil_prefix
  | cons c wanted ih =>
      simp only [List.mem_cons, not_or] at oneLine
      cases left with
      | nil => exact absurd (List.cons_prefix_cons.mp found).1.symm oneLine.1
      | cons d left =>
          obtain ⟨rfl, rest⟩ := List.cons_prefix_cons.mp found
          exact List.cons_prefix_cons.mpr ⟨rfl, ih oneLine.2 rest⟩

theorem joinLines_lines (text : Text) : joinLines (lines text) = text :=
  List.intercalate_splitOn newline

theorem prefix_joinLines {first : Text} (rest : List Text) : first <+: joinLines (first :: rest) := by
  cases rest with
  | nil => simp
  | cons second rest =>
      rw [joinLines_cons_cons]
      exact List.prefix_append _ _

theorem prefix_first_line {wanted first : Text} {rest : List Text} (oneLine : newline ∉ wanted)
    (found : wanted <+: joinLines (first :: rest)) : wanted <+: first := by
  cases rest with
  | nil => simpa using found
  | cons second rest =>
      rw [joinLines_cons_cons] at found
      exact prefix_before_newline oneLine found

/-- An edit of each line that brings in no such opening leaves the text without it. -/
theorem prefix_of_mapLines {wanted : Text} {edit : Text → Text} (oneLine : newline ∉ wanted)
    (kept : ∀ line, wanted <+: edit line → wanted <+: line) (text : Text)
    (found : wanted <+: mapLines edit text) : wanted <+: text := by
  obtain ⟨first, rest, split⟩ := List.exists_cons_of_ne_nil (lines_ne_nil text)
  rw [mapLines, split, List.map_cons] at found
  have opens : wanted <+: first := kept first (prefix_first_line oneLine found)
  rw [← joinLines_lines text, split]
  exact opens.trans (prefix_joinLines rest)

/-! ### Stripping -/

theorem rstrip_append (left right : Text) :
    rstrip (left ++ right) = if rstrip right = [] then rstrip left else left ++ rstrip right := by
  simp only [rstrip, List.reverse_append, List.dropWhile_append, List.isEmpty_iff,
    List.reverse_eq_nil_iff]
  split <;> simp

theorem rstrip_rstrip (text : Text) : rstrip (rstrip text) = rstrip text := by
  simp [rstrip, List.dropWhile_idempotent]

/-- A text that no strip shortens on the right. -/
def Solid (text : Text) : Prop := text ≠ [] ∧ rstrip text = text

instance (text : Text) : Decidable (Solid text) := inferInstanceAs (Decidable (_ ∧ _))

theorem Solid.append {right : Text} (solid : Solid right) (left : Text) : Solid (left ++ right) := by
  refine ⟨by simp [solid.1], ?_⟩
  rw [rstrip_append, solid.2, if_neg solid.1]

theorem Solid.joinLines {last : Text} (solid : Solid last) (parts : List Text) :
    Solid (joinLines (parts ++ [last])) := by
  cases parts with
  | nil => simpa using solid
  | cons first rest =>
      rw [joinLines_append (List.cons_ne_nil first rest) (List.cons_ne_nil last []),
        joinLines_singleton, List.append_cons]
      exact solid.append _

theorem solid_rstrip {text : Text} (some : rstrip text ≠ []) : Solid (rstrip text) :=
  ⟨some, rstrip_rstrip text⟩

theorem stripText_cons {first : Char} (opens : isSpace first = false) (text : Text) :
    stripText (first :: text) = rstrip (first :: text) := by
  simp [stripText, lstrip, opens]

/-! ### Scanning

A scan reads each line on its own. -/

section Scan
variable {Found : Type} (read : Text → List Found)

def scan (text : Text) : List Found := (lines text).flatMap read

/-- What a scan finds below the first line. -/
def scanBelow (text : Text) : List Found := (lines text).tail.flatMap read

@[simp] theorem scan_newline (left right : Text) :
    scan read (left ++ newline :: right) = scan read left ++ scan read right := by
  simp [scan]

theorem scan_joinLines {parts : List Text} (some : parts ≠ []) :
    scan read (joinLines parts) = parts.flatMap (scan read) := by
  simp only [scan, lines_joinLines some, List.flatMap_assoc]
  rfl

theorem scan_single {text : Text} (oneLine : newline ∉ text) : scan read text = read text := by
  simp [scan, lines_single oneLine]

/-- Behind a label that no pattern begins with, only the further lines of a field are read. -/
theorem scan_label {label : Text} (oneLine : newline ∉ label)
    (silent : ∀ text, read (label ++ text) = []) (text : Text) :
    scan read (label ++ text) = scanBelow read text := by
  obtain ⟨first, split⟩ := lines_append oneLine text
  simp [scan, scanBelow, split, silent]

end Scan

/-! ### Replacing and searching -/

/-- A replacement brings in no prefix that avoids its first character. -/
theorem prefix_of_replaceAll {old new wanted : Text} {c : Char} (starts : new.head? = some c)
    (avoids : c ∉ wanted) (text : Text) (found : wanted <+: replaceAll old new text) :
    wanted <+: text := by
  obtain ⟨more, rfl⟩ := List.head?_eq_some_iff.mp starts
  induction wanted generalizing text with
  | nil => exact List.nil_prefix
  | cons d wanted ih =>
      simp only [List.mem_cons, not_or] at avoids
      cases text with
      | nil => simp [replaceAll, replaceFrom] at found
      | cons e text =>
          simp only [replaceAll, replaceFrom] at found
          split at found
          · exact absurd (List.cons_prefix_cons.mp found).1.symm avoids.1
          · obtain ⟨rfl, rest⟩ := List.cons_prefix_cons.mp found
            exact List.cons_prefix_cons.mpr ⟨rfl, ih avoids.2 text rest⟩

theorem not_prefix_replaceAll {old new : Text} {c : Char} (starts : new.head? = some c)
    (avoids : c ∉ old) (some : old ≠ []) (text : Text) : ¬ old <+: replaceAll old new text := by
  intro found
  have inText := prefix_of_replaceAll starts avoids text found
  obtain ⟨more, rfl⟩ := List.head?_eq_some_iff.mp starts
  obtain ⟨d, rest, rfl⟩ := List.exists_cons_of_ne_nil some
  obtain ⟨tail, rfl⟩ := inText
  have matched : (d :: rest).isPrefixOf (d :: (rest ++ tail)) = true := by simp
  simp only [replaceAll, List.cons_append, replaceFrom, matched, if_true] at found
  exact avoids (List.mem_cons.mpr (.inl (List.cons_prefix_cons.mp found).1.symm))

theorem beforeLast_short {pattern text : Text} (short : text.length < pattern.length) :
    beforeLast pattern text = none := by
  induction text with
  | nil =>
      have some : pattern ≠ [] := by rintro rfl; simp at short
      simp [beforeLast, some]
  | cons c text ih =>
      have missing : ¬ pattern <+: c :: text := fun found => absurd found.length_le (by omega)
      simp only [List.length_cons] at short
      simp [beforeLast, ih (by omega), missing]

theorem beforeLast_append {pattern : Text} (some : pattern ≠ []) (front : Text) :
    beforeLast pattern (front ++ pattern) = .some front := by
  induction front with
  | nil =>
      obtain ⟨c, rest, rfl⟩ := List.exists_cons_of_ne_nil some
      have none := beforeLast_short (show rest.length < (c :: rest).length by simp)
      simp [beforeLast, none]
  | cons c front ih => simp [beforeLast, ih]

end AifyComms.TextLines
