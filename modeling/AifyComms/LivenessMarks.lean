import AifyComms.UpdateReading

/-!
When the liveness mark of an UPDATE statement is right: every assignment that is in view of the
passes is found, so a mark is given only where all of them are of liveness columns.
-/

namespace AifyComms.LivenessMarks
open PyText WrittenTables WrittenPasses UpdateStatements UpdateReading

/-! ### The assignments -/

theorem depth_skip {plain : Text} (unopened : '(' ∉ plain) (unclosed : ')' ∉ plain) (level : Nat)
    (rest : Text) : depth level (plain ++ rest) = depth level rest := by
  induction plain with
  | nil => rfl
  | cons char plain ih =>
      rw [List.mem_cons, not_or] at unopened unclosed
      rw [List.cons_append, depth_cons, deeper, if_neg (Ne.symm unopened.1), if_neg (Ne.symm unclosed.1)]
      exact ih unopened.2 unclosed.2

/-- Only marks are parentheses. -/
theorem unparenthesised {piece : Piece} (clean : Clean piece) (other : ∀ char, piece ≠ .mark char) :
    '(' ∉ piece.text 3 ∧ ')' ∉ piece.text 3 := by
  cases piece with
  | mark char => exact absurd rfl (other char)
  | blank char => exact ⟨blank_unlisted '(' clean.1 (by decide), blank_unlisted ')' clean.1 (by decide)⟩
  | line comment => simp [Piece.text]
  | block comment => simp [Piece.text]
  | string literal => simp [Piece.text]
  | word letters => exact ⟨word_unlisted clean.1 (by decide), word_unlisted clean.1 (by decide)⟩
  | quoted quote name =>
      obtain ⟨_, plain⟩ := clean
      simp only [Piece.plain, Bool.and_eq_true, List.all_eq_true] at plain
      have inside : ∀ char ∈ doubled quote.closes name, char ≠ '(' ∧ char ≠ ')' := by
        intro char listed
        have clear := (plain.2 _ (mem_doubled listed)).1
        constructor
        · rintro rfl
          cases clear
        · rintro rfl
          cases clear
      rw [Piece.text]
      cases quote <;>
        simp [Quote.opens, Quote.closes, backtick] <;>
        exact ⟨fun listed => (inside _ listed).1 rfl, fun listed => (inside _ listed).2 rfl⟩

theorem nesting_mark (level : Nat) (char : Char) (rest : List Piece) :
    nesting level (.mark char :: rest) =
      (deeper level char).bind fun level => nesting level rest := rfl

theorem nesting_skip {piece : Piece} (other : ∀ char, piece ≠ .mark char) (level : Nat)
    (rest : List Piece) : nesting level (piece :: rest) = nesting level rest := by
  rw [nesting]
  exact other

/-- The pieces nest as their text does. -/
theorem depth_text {pieces : List Piece} (clean : ∀ piece ∈ pieces, Clean piece) (level : Nat) :
    depth level (text 3 pieces) = nesting level pieces := by
  induction pieces generalizing level with
  | nil => rfl
  | cons piece rest ih =>
      rw [List.forall_mem_cons] at clean
      rw [text_cons]
      by_cases mark : ∃ char, piece = .mark char
      · obtain ⟨char, rfl⟩ := mark
        rw [Piece.text, List.singleton_append, depth_cons, nesting_mark]
        cases deeper level char with
        | none => rfl
        | some next => exact ih clean.2 next
      · have other : ∀ char, piece ≠ .mark char := fun char same => mark ⟨char, same⟩
        obtain ⟨unopened, unclosed⟩ := unparenthesised clean.1 other
        rw [depth_skip unopened unclosed, ih clean.2, nesting_skip other]

theorem nesting_append (level : Nat) (front back : List Piece) :
    nesting level (front ++ back) = (nesting level front).bind fun level => nesting level back := by
  induction front generalizing level with
  | nil => rfl
  | cons piece front ih =>
      rw [List.cons_append]
      by_cases mark : ∃ char, piece = .mark char
      · obtain ⟨char, rfl⟩ := mark
        rw [nesting_mark, nesting_mark]
        cases deeper level char with
        | none => rfl
        | some next => exact ih next
      · have other : ∀ char, piece ≠ .mark char := fun char same => mark ⟨char, same⟩
        rw [nesting_skip other, nesting_skip other, ih]

/-- Pieces with no parenthesis among them. -/
theorem nesting_flat {pieces : List Piece}
    (flat : ∀ piece ∈ pieces, piece ≠ .mark '(' ∧ piece ≠ .mark ')') (level : Nat) :
    nesting level pieces = some level := by
  induction pieces generalizing level with
  | nil => rfl
  | cons piece rest ih =>
      rw [List.forall_mem_cons] at flat
      by_cases mark : ∃ char, piece = .mark char
      · obtain ⟨char, rfl⟩ := mark
        have same : deeper level char = some level := by
          rw [deeper, if_neg fun same => flat.1.1 (by rw [same]),
            if_neg fun same => flat.1.2 (by rw [same])]
        rw [nesting_mark, same]
        exact ih flat.2 level
      · rw [nesting_skip fun char same => mark ⟨char, same⟩]
        exact ih flat.2 level

/-- The assignments before one of them, with the commas. -/
def listed (done : List Assignment) : List Piece :=
  done.flatMap fun assignment => assignment.pieces ++ .mark ',' :: assignment.next

/-- The list of assignments up to the equals sign of one of them. -/
def view (done : List Assignment) (assignment : Assignment) : List Piece :=
  listed done ++ (assignment.target.pieces ++ assignment.gap)

theorem list_view (done : List Assignment) (assignment : Assignment) (rest : List Assignment) :
    ∃ later, list (done ++ assignment :: rest) =
      view done assignment ++ Piece.mark '=' :: later := by
  induction done with
  | nil =>
      cases rest with
      | nil =>
          refine ⟨assignment.value, ?_⟩
          simp [list, view, listed, Assignment.pieces]
      | cons next rest =>
          refine ⟨assignment.value ++ Piece.mark ',' :: (assignment.next ++ list (next :: rest)), ?_⟩
          simp [list, view, listed, Assignment.pieces]
  | cons first done ih =>
      obtain ⟨later, same⟩ := ih
      refine ⟨later, ?_⟩
      have some : done ++ assignment :: rest ≠ [] := by simp
      obtain ⟨head, tail, shape⟩ := List.exists_cons_of_ne_nil some
      rw [List.cons_append, shape, list, ← shape, same]
      · simp [view, listed]
      · intro none
        cases none

theorem gap_flat {gap : List Piece} (gaps : gap.all Piece.isGap = true) :
    ∀ piece ∈ gap, piece ≠ .mark '(' ∧ piece ≠ .mark ')' := by
  intro piece member
  have isGap := List.all_eq_true.mp gaps piece member
  constructor
  · rintro rfl
    cases isGap
  · rintro rfl
    cases isGap

theorem target_nesting {target : Target} (valid : target.valid = true) :
    nesting 0 target.pieces = some 0 := by
  cases target with
  | column name =>
      refine nesting_flat (fun piece member => ?_) 0
      rw [List.mem_singleton.mp member]
      constructor
      · rintro rfl
        cases valid
      · rintro rfl
        cases valid
  | columns inside =>
      rw [Target.valid, List.all_eq_true] at valid
      have flat : nesting 1 inside = some 1 := by
        refine nesting_flat (fun piece member => ?_) 1
        have one := valid piece member
        constructor
        · rintro rfl
          cases one
        · rintro rfl
          cases one
      rw [Target.pieces, List.cons_append, nesting_mark]
      change nesting 1 (inside ++ [Piece.mark ')']) = some 0
      rw [nesting_append, flat]
      rfl

theorem Assignment.fields {assignment : Assignment} (valid : assignment.valid = true) :
    assignment.target.valid = true ∧ assignment.gap.all Piece.isGap = true ∧
      assignment.next.all Piece.isGap = true ∧ nesting 0 assignment.value = some 0 := by
  simp only [Assignment.valid, Bool.and_eq_true, decide_eq_true_eq] at valid
  exact ⟨valid.1.1.1.1, valid.1.1.1.2, valid.1.1.2, valid.1.2⟩

theorem pieces_nesting {assignment : Assignment} (valid : assignment.valid = true) :
    nesting 0 assignment.pieces = some 0 := by
  obtain ⟨target, gap, _, value⟩ := Assignment.fields valid
  have equals : nesting 0 (.mark '=' :: assignment.value) = some 0 := value
  rw [Assignment.pieces, nesting_append, nesting_append, target_nesting target, Option.bind_some,
    nesting_flat (gap_flat gap), Option.bind_some, equals]

theorem listed_nesting {done : List Assignment}
    (valid : ∀ assignment ∈ done, assignment.valid = true) : nesting 0 (listed done) = some 0 := by
  induction done with
  | nil => rfl
  | cons first done ih =>
      rw [List.forall_mem_cons] at valid
      obtain ⟨_, _, next, _⟩ := Assignment.fields valid.1
      have comma : nesting 0 (.mark ',' :: first.next) = some 0 := nesting_flat (gap_flat next) 0
      rw [listed, List.flatMap_cons, nesting_append, nesting_append, pieces_nesting valid.1,
        Option.bind_some, comma, Option.bind_some]
      exact ih valid.2

theorem view_nesting {done : List Assignment} {assignment : Assignment}
    (valid : ∀ other ∈ done, other.valid = true) (also : assignment.valid = true) :
    nesting 0 (view done assignment) = some 0 := by
  obtain ⟨target, gap, _, _⟩ := Assignment.fields also
  rw [view, nesting_append, listed_nesting valid, Option.bind_some, nesting_append,
    target_nesting target, Option.bind_some, nesting_flat (gap_flat gap)]

/-! ### Columns in view -/

/-- The text up to an equals sign ends with this name at the start of an assignment. -/
def InView (name : Text) (visible : Text) : Prop :=
  ∃ gap, Blank gap ∧ (visible = gap ++ name ∨ ∃ front, visible = front ++ ',' :: (gap ++ name))

theorem blank_ne {char : Char} (ink : isSpace char = false) {gap : Text} (blank : Blank gap) :
    char ∉ gap := by
  intro listed
  rw [blank char listed] at ink
  cases ink

/-- Blanks in front change nothing. -/
theorem inView_trim {gap visible name : Text} (blank : Blank gap) (inked : Inked name)
    (seen : InView name (gap ++ visible)) : InView name visible := by
  obtain ⟨inner, innerBlank, whole | ⟨front, whole⟩⟩ := seen
  · rcases List.append_eq_append_iff.mp whole with ⟨beyond, rfl, rest⟩ | ⟨beyond, rfl, rest⟩
    · refine ⟨beyond, fun char listed => innerBlank char (List.mem_append_right _ listed), .inl rest⟩
    · -- the blanks end before the name
      cases beyond with
      | nil =>
          have empty : Blank [] := fun char listed => by cases listed
          exact ⟨[], empty, .inl rest.symm⟩
      | cons char beyond =>
          have ink := inked char (by rw [rest]; rfl)
          exact absurd (List.mem_append_right _ List.mem_cons_self) (blank_ne ink blank)
  · rcases List.append_eq_append_iff.mp whole with ⟨beyond, rfl, rest⟩ | ⟨beyond, rfl, rest⟩
    · exact ⟨inner, innerBlank, .inr ⟨beyond, rest⟩⟩
    · cases beyond with
      | nil => exact ⟨inner, innerBlank, .inr ⟨[], rest.symm⟩⟩
      | cons char beyond =>
          obtain ⟨rfl, _⟩ := List.cons.inj rest
          exact absurd (List.mem_append_right _ List.mem_cons_self)
            (blank_ne (by decide) blank)

theorem searchWords_after {words : List String} {after other : Option Char}
    (same : after.any isWord = other.any isWord) (text : Text) :
    searchWords words after text = searchWords words other text := by
  cases text with
  | nil => rfl
  | cons char rest => rw [searchWords_cons, searchWords_cons, same]

theorem space_plain {char : Char} (space : isSpace char = true) : isWord char = false := by
  cases word : isWord char with
  | false => rfl
  | true =>
      rw [word_inked word] at space
      cases space

theorem searchWords_trim {words : List String} {gap visible : Text} (blank : Blank gap)
    (none : searchWords words none (gap ++ visible) = none) :
    searchWords words Option.none visible = Option.none := by
  induction gap with
  | nil => exact none
  | cons space gap ih =>
      have isSpace := blank space List.mem_cons_self
      rw [List.cons_append, searchWords_cons] at none
      split at none
      · cases none
      · refine ih (fun char listed => blank char (List.mem_cons_of_mem _ listed)) ?_
        rw [← Option.map_eq_none_iff.mp none]
        refine searchWords_after ?_ _
        rw [Option.any_some, space_plain isSpace, Option.any_none]

theorem letters_ends : ∀ name ∈ ["where", "returning", "from"], Letters name := by decide

theorem name_uncomma {piece : Piece} (plain : plainName piece = true) : ',' ∉ piece.text 3 := by
  have outside : ∀ {letters : Text}, (∀ char ∈ letters, isWord char = true) → ',' ∉ letters := by
    intro letters all listed
    cases all ',' listed
  cases piece with
  | word letters =>
      rw [plainName, Bool.and_eq_true, List.all_eq_true] at plain
      exact outside plain.2
  | quoted quote name =>
      rw [plainName, Bool.and_eq_true, List.all_eq_true] at plain
      have inside : ',' ∉ doubled quote.closes name := fun listed =>
        outside plain.2 (mem_doubled listed)
      rw [Piece.text]
      cases quote <;> simpa [Quote.opens, Quote.closes, backtick] using inside
  | blank char => cases plain
  | line comment => cases plain
  | block comment => cases plain
  | string literal => cases plain
  | mark char => cases plain

/-- The start of an assignment is read by its column. -/
theorem assigned_reads {piece : Piece} {before gap : Text} (clean : Clean piece)
    (plain : plainName piece = true) (blank : Blank before) (blank' : Blank gap) (rest : Text) :
    assigned (before ++ (piece.text 3 ++ gap ++ '=' :: rest)) =
      some (lower (String.ofList (piece.name.getD []))) := by
  have named : piece.name.isSome = true := by
    cases piece <;> first | rfl | cases plain
  have inkedName : Inked (piece.text 3 ++ gap ++ '=' :: rest) := by
    rw [List.append_assoc]
    exact name_inked clean named _
  have equals : Inked ('=' :: rest) := by
    intro char first
    obtain rfl := Option.some.inj first
    decide
  have ends : Ends (gap ++ '=' :: rest) := by
    intro char first
    cases gap with
    | nil =>
        obtain rfl := Option.some.inj first
        decide
    | cons space gap =>
        obtain rfl := Option.some.inj first
        exact space_plain (blank' _ List.mem_cons_self)
  have kept : closing piece (gap ++ '=' :: rest) = gap ++ '=' :: rest := by
    unfold closing
    split
    · rw [skipQuote, if_neg]
      intro quote
      obtain ⟨char, first, quoted⟩ := (Option.any_eq_true _ _).mp quote
      have marks : ∀ char ∈ "\"`]".toList, isSpace char = false ∧ char ≠ '=' :=
        chars_of_all (by decide)
      obtain ⟨ink, other⟩ := marks char (List.contains_iff_mem.mp quoted)
      cases gap with
      | nil => exact other (Option.some.inj first).symm
      | cons space gap =>
          obtain rfl := Option.some.inj first
          exact blank_ne ink blank' List.mem_cons_self
    · rfl
  rw [assigned, dropWhile_blank blank inkedName, List.append_assoc,
    name_reads plain fun _ _ => ends, Option.bind_some, kept, dropWhile_blank blank' equals]
  rfl

/-- A name in view is a segment's column, as long as no word ends the list before it. -/
theorem column_mem {piece : Piece} {gap visible rest : Text} (clean : Clean piece)
    (plain : plainName piece = true) (blank : Blank gap)
    (seen : InView (piece.text 3 ++ gap) visible) :
    lower (String.ofList (piece.name.getD [])) ∈
      ((visible ++ '=' :: rest).splitOn ',').filterMap assigned := by
  obtain ⟨before, blank', shape⟩ := seen
  have free : ',' ∉ before ++ (piece.text 3 ++ gap) ++ ['='] := by
    simp only [List.mem_append, not_or]
    exact ⟨⟨blank_ne (by decide) blank', name_uncomma plain, blank_ne (by decide) blank⟩, by decide⟩
  obtain ⟨first, others, parts⟩ := splitOn_front free rest
  have segment : before ++ (piece.text 3 ++ gap) ++ ['='] ++ first ∈
      (visible ++ '=' :: rest).splitOn ',' := by
    have here : before ++ (piece.text 3 ++ gap) ++ ['='] ++ first ∈
        (before ++ (piece.text 3 ++ gap) ++ '=' :: rest).splitOn ',' := by
      rw [← List.singleton_append, ← List.append_assoc, parts]
      exact List.mem_cons_self
    rcases shape with rfl | ⟨front, rfl⟩
    · exact here
    · rw [List.append_assoc, List.cons_append, List.splitOn_append_cons_self]
      exact List.mem_append_right _ here
  refine List.mem_filterMap.mpr ⟨_, segment, ?_⟩
  have read := assigned_reads clean plain blank' blank first
  simpa using read

theorem columnsOf_mem {piece : Piece} {gap whole after : Text} (clean : Clean piece)
    (plain : plainName piece = true) (blank : Blank gap) (closes : depth 0 whole = some 0)
    (seen : InView (piece.text 3 ++ gap) (outside 0 whole))
    (unended : searchWords ["where", "returning", "from"] none (outside 0 whole ++ ['=']) = none) :
    lower (String.ofList (piece.name.getD [])) ∈
      columnsOf ((whole ++ '=' :: after).dropWhile isSpace) := by
  have named : piece.name.isSome = true := by
    cases piece <;> first | rfl | cases plain
  have leading : Blank (whole.takeWhile isSpace) :=
    fun char listed => List.mem_takeWhile_imp listed
  have split := List.takeWhile_append_dropWhile (p := isSpace) (l := whole)
  generalize whole.takeWhile isSpace = front at leading split
  generalize rest' : whole.dropWhile isSpace = rest at split
  have dropped : (whole ++ '=' :: after).dropWhile isSpace = rest ++ '=' :: after := by
    rw [List.dropWhile_append, rest']
    split
    next empty =>
      rw [List.isEmpty_iff.mp empty]
      rfl
    · rfl
  obtain ⟨same, level⟩ := outside_plain (blank_ne (by decide) leading) (blank_ne (by decide) leading)
  rw [← split] at closes seen unended
  rw [depth_append, level] at closes
  have open' : depth 0 rest = some 0 := closes
  rw [outside_append level, same] at seen unended
  rw [List.append_assoc] at unended
  have visible := inView_trim leading (name_inked clean named gap) seen
  have unended' := searchWords_trim leading unended
  -- what is peeled
  have ending : depth 0 (rest ++ ['=']) = some 0 := by
    rw [depth_append, open']
    rfl
  obtain ⟨left, peeled⟩ := peel_front ending after
  rw [outside_append open', List.append_assoc, List.append_assoc] at peeled
  change peel (rest ++ '=' :: after) = outside 0 rest ++ '=' :: left at peeled
  rw [dropped, columnsOf, peeled, searchWords_nothing letters_ends (by decide) left unended']
  cases searchWords ["where", "returning", "from"] (some '=') left with
  | none => exact column_mem clean plain blank visible
  | some found => exact column_mem clean plain blank visible

theorem outside_gap {gap : Text} (blank : Blank gap) : outside 0 gap = gap ∧ depth 0 gap = some 0 :=
  outside_plain (blank_ne (by decide) blank) (blank_ne (by decide) blank)

theorem plainName_flat {name : Piece} (plain : plainName name = true) (char : Char) :
    name ≠ .mark char := by
  rintro rfl
  cases plain

/-- A single column stands in view behind the assignments before it. -/
theorem view_inView {done : List Assignment} {assignment : Assignment} {name : Piece}
    (valid : ∀ other ∈ done, other.valid = true) (also : assignment.valid = true)
    (clean : ∀ piece ∈ view done assignment, Clean piece) (column : assignment.target = .column name)
    (plain : plainName name = true) :
    InView (name.text 3 ++ text 3 assignment.gap) (outside 0 (text 3 (view done assignment))) := by
  obtain ⟨_, gaps, _, _⟩ := Assignment.fields also
  have empty : Blank [] := fun char listed => by cases listed
  rw [view, column, Target.pieces, List.singleton_append] at clean ⊢
  have cleanName : Clean name := clean name (List.mem_append_right _ List.mem_cons_self)
  have blank : Blank (text 3 assignment.gap) := gap_blank gaps fun piece member =>
    clean piece (List.mem_append_right _ (List.mem_cons_of_mem _ member))
  obtain ⟨unopened, unclosed⟩ := unparenthesised cleanName (plainName_flat plain)
  -- the name and its gap have no parentheses
  have flat : outside 0 (text 3 (name :: assignment.gap)) = name.text 3 ++ text 3 assignment.gap := by
    rw [text_cons]
    refine (outside_plain ?_ ?_).1
    · rw [List.mem_append, not_or]
      exact ⟨unopened, blank_ne (by decide) blank⟩
    · rw [List.mem_append, not_or]
      exact ⟨unclosed, blank_ne (by decide) blank⟩
  rcases List.eq_nil_or_concat' done with rfl | ⟨front, last, rfl⟩
  · exact ⟨[], empty, .inl flat⟩
  · have lastValid := valid last (List.mem_append_right _ (List.mem_singleton_self _))
    obtain ⟨_, _, next, _⟩ := Assignment.fields lastValid
    have frontNesting : nesting 0 (listed front ++ last.pieces) = some 0 := by
      rw [nesting_append, listed_nesting fun other member => valid other (List.mem_append_left _ member),
        Option.bind_some, pieces_nesting lastValid]
    have shape : listed (front ++ [last]) =
        listed front ++ last.pieces ++ Piece.mark ',' :: last.next := by
      simp [listed]
    rw [shape] at clean ⊢
    have cleanFront : ∀ piece ∈ listed front ++ last.pieces, Clean piece := fun piece member =>
      clean piece (List.mem_append_left _ (List.mem_append_left _ member))
    have blankNext : Blank (text 3 last.next) := gap_blank next fun piece member =>
      clean piece (List.mem_append_left _ (List.mem_append_right _ (List.mem_cons_of_mem _ member)))
    refine ⟨text 3 last.next, blankNext, .inr ⟨outside 0 (text 3 (listed front ++ last.pieces)), ?_⟩⟩
    have closes : depth 0 (text 3 (listed front ++ last.pieces)) = some 0 := by
      rw [depth_text cleanFront, frontNesting]
    rw [List.append_assoc, text_append, outside_append closes]
    congr 1
    rw [List.cons_append, text_cons, Piece.text, List.singleton_append, outside_cons, if_neg (by decide),
      if_neg (by decide), if_pos rfl, text_append, outside_append (outside_gap blankNext).2,
      (outside_gap blankNext).1, flat]

theorem view_start {done : List Assignment} {assignment : Assignment}
    (valid : ∀ other ∈ done, other.valid = true) (also : assignment.valid = true) :
    ∃ (target : Target) (gap more : List Piece),
      view done assignment = target.pieces ++ (gap ++ more) ∧ target.valid = true ∧
        gap.all Piece.isGap = true ∧ (more = [] ∨ ∃ rest, more = .mark '=' :: rest) := by
  cases done with
  | nil =>
      obtain ⟨target, gap, _, _⟩ := Assignment.fields also
      refine ⟨assignment.target, assignment.gap, [], ?_, target, gap, .inl rfl⟩
      simp [view, listed]
  | cons first done =>
      obtain ⟨target, gap, _, _⟩ := Assignment.fields (valid first List.mem_cons_self)
      refine ⟨first.target, first.gap, .mark '=' :: (first.value ++ (Piece.mark ',' :: first.next ++
        (listed done ++ (assignment.target.pieces ++ assignment.gap)))), ?_, target, gap,
        .inr ⟨_, rfl⟩⟩
      simp [view, listed, Assignment.pieces]

theorem outside_inner {inner : Text} (unopened : '(' ∉ inner) (unclosed : ')' ∉ inner)
    (rest : Text) : outside 1 (inner ++ rest) = outside 1 rest := by
  induction inner with
  | nil => rfl
  | cons char inner ih =>
      rw [List.mem_cons, not_or] at unopened unclosed
      rw [List.cons_append, outside_cons, if_neg (Ne.symm unopened.1), if_neg (Ne.symm unclosed.1),
        if_neg Nat.one_ne_zero, ih unopened.2 unclosed.2]

theorem inside_flat {inside : List Piece} (valid : (Target.columns inside).valid = true)
    (clean : ∀ piece ∈ inside, Clean piece) : '(' ∉ text 3 inside ∧ ')' ∉ text 3 inside := by
  rw [Target.valid, List.all_eq_true] at valid
  have each : ∀ piece ∈ inside, '(' ∉ piece.text 3 ∧ ')' ∉ piece.text 3 := by
    intro piece member
    by_cases mark : ∃ char, piece = .mark char
    · obtain ⟨char, rfl⟩ := mark
      have comma : Piece.mark char = .mark ',' := by simpa [Piece.isGap, Piece.name] using valid _ member
      rw [comma]
      decide
    · exact unparenthesised (clean piece member) fun char same => mark ⟨char, same⟩
  constructor
  · intro listed
    obtain ⟨piece, member, here⟩ := List.mem_flatMap.mp listed
    exact (each piece member).1 here
  · intro listed
    obtain ⟨piece, member, here⟩ := List.mem_flatMap.mp listed
    exact (each piece member).2 here

/-- Behind a list of columns stands a blank or the equals sign. -/
theorem gap_stops {gap more : List Piece} {later : Text} (gaps : gap.all Piece.isGap = true)
    (clean : ∀ piece ∈ gap, Clean piece) (equals : more = [] ∨ ∃ rest, more = .mark '=' :: rest) :
    Stops (outside 0 (text 3 (gap ++ more)) ++ '=' :: later) := by
  have blank := gap_blank gaps clean
  obtain ⟨same, level⟩ := outside_gap blank
  rw [text_append, outside_append level, same]
  intro char first
  cases shape : text 3 gap with
  | cons space rest =>
      rw [shape] at first
      obtain rfl := Option.some.inj first
      exact (gap_chars gaps clean _ (shape ▸ List.mem_cons_self)).2
  | nil =>
      rw [shape] at first
      rcases equals with rfl | ⟨rest, rfl⟩
      · obtain rfl := Option.some.inj first
        decide
      · rw [text_cons, Piece.text, List.singleton_append, outside_cons, if_neg (by decide),
          if_neg (by decide), if_pos rfl] at first
        obtain rfl := Option.some.inj first
        decide

/-- Behind a SET with no blank after it stands no letter of a word, peeled or not. -/
theorem view_stops {done : List Assignment} {assignment : Assignment} {after : Text} (later : Text)
    (valid : ∀ other ∈ done, other.valid = true) (also : assignment.valid = true)
    (clean : ∀ piece ∈ view done assignment, Clean piece)
    (stops : Stops (text 3 (view done assignment) ++ '=' :: after)) :
    Stops (outside 0 (text 3 (view done assignment)) ++ '=' :: later) := by
  obtain ⟨target, gap, more, shape, targetValid, gaps, equals⟩ := view_start valid also
  rw [shape] at clean stops ⊢
  have cleanGap : ∀ piece ∈ gap, Clean piece := fun piece member =>
    clean piece (List.mem_append_right _ (List.mem_append_left _ member))
  have cleanTarget : ∀ piece ∈ target.pieces, Clean piece := fun piece member =>
    clean piece (List.mem_append_left _ member)
  have closes : depth 0 (text 3 target.pieces) = some 0 := by
    rw [depth_text cleanTarget, target_nesting targetValid]
  rw [text_append, outside_append closes]
  cases target with
  | column name =>
      have cleanName := cleanTarget name List.mem_cons_self
      have flat : ∀ char, name ≠ .mark char := by
        rintro char rfl
        cases targetValid
      obtain ⟨unopened, unclosed⟩ := unparenthesised cleanName flat
      have alone : text 3 [name] = name.text 3 := by rw [text_cons]; exact List.append_nil _
      rw [Target.pieces, alone, (outside_plain unopened unclosed).1, List.append_assoc]
      rw [Target.pieces, text_append, alone, List.append_assoc] at stops
      obtain ⟨char, first, _⟩ := head_text cleanName.1 3
      intro other here
      rw [first] at here
      exact stops other (by rw [first]; exact here)
  | columns inside =>
      obtain ⟨unopened, unclosed⟩ := inside_flat targetValid fun piece member =>
        cleanTarget piece (List.mem_cons_of_mem _ (List.mem_append_left _ member))
      have gone : outside 0 (text 3 (Target.columns inside).pieces) = [] := by
        rw [Target.pieces, List.cons_append, text_cons, text_append]
        change outside 1 (text 3 inside ++ [')']) = []
        rw [outside_inner unopened unclosed]
        rfl
      rw [gone, List.nil_append]
      exact gap_stops gaps cleanGap equals

/-! ### The mark -/

/-- The text before UPDATE once parentheses are peeled. -/
def prelude (parts : Parts) : Text := outside 0 (text 3 (parts.lead ++ parts.common))

/-- UPDATE is the first word of a write that stands alone in the peeled text. -/
def alone (parts : Parts) : Bool :=
  (searchWords ["insert", "replace", "update", "delete"] none (prelude parts)).isNone &&
    !((prelude parts).getLast?.any isWord)

/-- The assignment is in view: the passes read all before its equals sign as it is written, the
names of the front can be read, it assigns one column by a plain name, and no word that ends the
list stands alone before it outside parentheses. -/
structure Seen (parts : Parts) (done : List Assignment) (assignment : Assignment) : Prop where
  plain : ∀ piece ∈ parts.opening ++ view done assignment, piece.plain = true
  named : Named parts
  alone : alone parts = true
  column : ∃ name, assignment.target = .column name ∧ plainName name = true
  unended : searchWords ["where", "returning", "from"] none
    (outside 0 (text 3 (view done assignment)) ++ ['=']) = none

/-- The column is one that `LIVENESS_WRITES` declares of the table. -/
def declares (table column : String) : Bool :=
  match livenessWrites table with
  | none => false
  | some .wholeTable => true
  | some (.columns columns) => columns.contains column

theorem lexed_valid {after : Text} {pieces : List Piece} (read : lexed after pieces = true) :
    ∀ piece ∈ pieces, piece.valid = true := by
  induction pieces with
  | nil =>
      intro piece member
      cases member
  | cons piece rest ih =>
      rw [lexed, Bool.and_eq_true, Bool.and_eq_true] at read
      exact List.forall_mem_cons.mpr ⟨read.1.1, ih read.2⟩

theorem kept_of_lexed {pieces : List Piece} {later : Text} (after : Text)
    (read : lexed ('=' :: later) pieces = true) : kept ('=' :: after) pieces := by
  induction pieces with
  | nil => trivial
  | cons piece rest ih =>
      rw [lexed, Bool.and_eq_true, Bool.and_eq_true, Bool.not_eq_true'] at read
      exact ⟨apart_text 3 after read.2 (Bool.not_eq_true _ ▸ read.1.2), ih read.2⟩

/-- Only the last piece sees the text behind the pieces. -/
theorem kept_change {pieces : List Piece} {after other : Text}
    (valid : ∀ piece ∈ pieces, piece.valid = true) (all : kept after pieces)
    (last : ∀ piece ∈ pieces.getLast?, ¬ other.head?.any piece.clashes = true) :
    kept other pieces := by
  induction pieces with
  | nil => trivial
  | cons piece rest ih =>
      rw [List.forall_mem_cons] at valid
      cases rest with
      | nil => exact ⟨last piece rfl, trivial⟩
      | cons next rest =>
          refine ⟨?_, ih valid.2 all.2 last⟩
          obtain ⟨char, first, _⟩ := head_text (valid.2 next List.mem_cons_self) 3
          have apart := all.1
          rw [text_cons, List.append_assoc, first] at apart
          rw [text_cons, List.append_assoc, first]
          exact apart

theorem gap_unclashing {piece : Piece} (gap : piece.isGap = true) (next : Char) :
    piece.clashes next = false := by
  cases piece with
  | blank char => rfl
  | line comment => rfl
  | block comment => rfl
  | string literal => cases gap
  | quoted quote name => cases gap
  | word letters => cases gap
  | mark char => cases gap

section Mark
variable {parts : Parts} {done : List Assignment} {assignment : Assignment} {later : Text}

/-- Everything that is known of the text before the equals sign. -/
structure Read (parts : Parts) (done : List Assignment) (assignment : Assignment) (later : Text) :
    Prop where
  valid : parts.valid = true
  doneValid : ∀ other ∈ done, other.valid = true
  also : assignment.valid = true
  lexed : lexed ('=' :: later) (parts.opening ++ view done assignment) = true
  seen : Seen parts done assignment

theorem Read.clean (read : Read parts done assignment later) :
    ∀ piece ∈ parts.opening ++ view done assignment, Clean piece :=
  fun piece member => ⟨lexed_valid read.lexed piece member, read.seen.plain piece member⟩

theorem Read.fronted (read : Read parts done assignment later) (after : Text) :
    Fronted parts (text 3 (view done assignment) ++ '=' :: after) := by
  have all := kept_of_lexed after read.lexed
  rw [Parts.opening, List.append_assoc] at all
  refine ⟨read.valid, fun piece member => read.clean piece ?_,
    (kept_append (kept_append all).2).1, read.seen.named⟩
  exact List.mem_append_left _ (List.mem_append_right _ member)

theorem Read.peeled (read : Read parts done assignment later) (after : Text) :
    Fronted parts (outside 0 (text 3 (view done assignment)) ++ '=' :: after) := by
  obtain ⟨valid, clean, apart, named⟩ := read.fronted after
  obtain ⟨_, gaps, _, _, _, _, _, _, _, _⟩ := valid_fields valid
  refine ⟨valid, clean, kept_change (fun piece member => (clean piece member).1) apart ?_, named⟩
  intro last final
  rw [items_pieces] at final apart
  have setFirst := (kept_append (kept_append (kept_append (kept_append (kept_append
    apart.2).2).2).2.2).2).2
  have lastOf : last ∈ (parts.set.piece :: parts.set.gap).getLast? := by
    simpa [List.getLast?_cons, List.getLast?_append] using final
  cases gap : parts.set.gap with
  | nil =>
      rw [gap] at lastOf setFirst
      obtain rfl := Option.some.inj lastOf
      intro clash
      obtain ⟨letters, bare⟩ : ∃ letters, parts.set.piece = .word letters := by
        obtain ⟨_, _, _, _, _, _, _, _, set, _⟩ := valid_fields valid
        exact isWordOf_word set
      rw [bare] at clash setFirst
      have stops := stops_of_kept setFirst
      have peeled := view_stops after read.doneValid read.also
        (fun piece member => read.clean piece (List.mem_append_right _ member)) stops
      obtain ⟨char, first, inside⟩ := (Option.any_eq_true _ _).mp clash
      have within : inName char = true := inside
      rw [peeled char first] at within
      cases within
  | cons next rest =>
      intro clash
      have member : last ∈ parts.set.gap := by
        rw [gap] at lastOf ⊢
        rw [List.getLast?_cons_cons] at lastOf
        exact List.mem_of_getLast? lastOf
      have isGap := List.all_eq_true.mp (gaps parts.set (by simp [Parts.items])) last member
      obtain ⟨char, _, clashes⟩ := (Option.any_eq_true _ _).mp clash
      rw [gap_unclashing isGap] at clashes
      cases clashes

theorem letters_writes : ∀ name ∈ ["insert", "replace", "update", "delete"], Letters name := by
  decide

theorem Read.opening_depth (read : Read parts done assignment later) :
    depth 0 (text 3 (parts.lead ++ parts.common)) = some 0 := by
  obtain ⟨lead, _, common, _⟩ := valid_fields read.valid
  have nested : nesting 0 parts.common = some 0 := by
    unfold Parts.validCommon at common
    split at common
    next none =>
      rw [none]
      rfl
    · rw [Bool.and_eq_true, Bool.and_eq_true, decide_eq_true_eq] at common
      exact common.1.2
  have clean : ∀ piece ∈ parts.lead ++ parts.common, Clean piece := fun piece member =>
    read.clean piece (List.mem_append_left _ (List.mem_append_left _ member))
  rw [depth_text clean, nesting_append, nesting_flat (gap_flat lead), Option.bind_some, nested]

theorem isWordOf_flat {piece : Piece} {names : List String} (word : piece.isWordOf names = true)
    (char : Char) : piece ≠ .mark char := by
  rintro rfl
  cases word

theorem validName_flat {item : Item} (named : Parts.validName item = true) (char : Char) :
    item.piece ≠ .mark char := by
  intro mark
  rw [Parts.validName, mark] at named
  cases named

/-- Words, names and a dot: no item of the front is a parenthesis. -/
theorem item_flat (valid : parts.valid = true) {item : Item} (member : item ∈ parts.items) :
    item.piece ≠ .mark '(' ∧ item.piece ≠ .mark ')' := by
  obtain ⟨_, _, _, verb, conflict, schema, table, qualifier, set, _⟩ := valid_fields valid
  simp only [Parts.items, List.mem_cons, List.mem_append, List.not_mem_nil, or_false,
    or_assoc] at member
  rcases member with rfl | inConflict | inSchema | rfl | inQualifier | rfl
  · exact ⟨isWordOf_flat verb _, isWordOf_flat verb _⟩
  · unfold Parts.validConflict at conflict
    split at conflict
    next none =>
      rw [none] at inConflict
      cases inConflict
    next or action both =>
      rw [both] at inConflict
      rw [Bool.and_eq_true] at conflict
      rcases List.mem_cons.mp inConflict with rfl | last
      · exact ⟨isWordOf_flat conflict.1 _, isWordOf_flat conflict.1 _⟩
      · rw [List.mem_singleton.mp last]
        exact ⟨isWordOf_flat conflict.2 _, isWordOf_flat conflict.2 _⟩
    · cases conflict
  · unfold Parts.validSchema at schema
    split at schema
    next none =>
      rw [none] at inSchema
      cases inSchema
    next name dot both =>
      rw [both] at inSchema
      rw [Bool.and_eq_true, decide_eq_true_eq] at schema
      rcases List.mem_cons.mp inSchema with rfl | last
      · exact ⟨validName_flat schema.1 _, validName_flat schema.1 _⟩
      · rw [List.mem_singleton.mp last, schema.2]
        decide
    · cases schema
  · exact ⟨validName_flat table _, validName_flat table _⟩
  · exact ⟨validName_flat (qualifier _ inQualifier) _, validName_flat (qualifier _ inQualifier) _⟩
  · exact ⟨isWordOf_flat set _, isWordOf_flat set _⟩

theorem items_flat (valid : parts.valid = true)
    (clean : ∀ piece ∈ parts.items.flatMap Item.pieces, Clean piece) :
    outside 0 (text 3 (parts.items.flatMap Item.pieces)) =
        text 3 (parts.items.flatMap Item.pieces) ∧
      depth 0 (text 3 (parts.items.flatMap Item.pieces)) = some 0 := by
  obtain ⟨_, gaps, _⟩ := valid_fields valid
  have flat : ∀ piece ∈ parts.items.flatMap Item.pieces,
      '(' ∉ piece.text 3 ∧ ')' ∉ piece.text 3 := by
    intro piece member
    obtain ⟨item, listed, here⟩ := List.mem_flatMap.mp member
    have unparen : piece ≠ .mark '(' ∧ piece ≠ .mark ')' := by
      rcases List.mem_cons.mp here with rfl | inGap
      · exact item_flat valid listed
      · exact gap_flat (gaps item listed) piece inGap
    by_cases mark : ∃ char, piece = .mark char
    · obtain ⟨char, rfl⟩ := mark
      constructor
      · intro opens
        exact unparen.1 (by rw [List.mem_singleton.mp opens])
      · intro closes
        exact unparen.2 (by rw [List.mem_singleton.mp closes])
    · exact unparenthesised (clean piece member) fun char same => mark ⟨char, same⟩
  refine outside_plain (fun opens => ?_) fun closes => ?_
  · obtain ⟨piece, member, here⟩ := List.mem_flatMap.mp opens
    exact (flat piece member).1 here
  · obtain ⟨piece, member, here⟩ := List.mem_flatMap.mp closes
    exact (flat piece member).2 here

/-- Behind the verb a word ends. -/
theorem verb_keyword {after : Text} (fronted : Fronted parts after) :
    ∃ rest, keyword "update" (text 3 (parts.items.flatMap Item.pieces) ++ after) = some rest ∧
      wordEnds rest = true ∧ text 3 (parts.items.flatMap Item.pieces) ++ after ≠ [] := by
  obtain ⟨valid, clean, apart, _⟩ := fronted
  obtain ⟨_, _, _, verb, _⟩ := valid_fields valid
  rw [items_pieces] at clean apart ⊢
  obtain ⟨letters, bare⟩ := isWordOf_word verb
  have cleanVerb := clean _ List.mem_cons_self
  rw [bare] at verb cleanVerb apart ⊢
  obtain ⟨name, listed, same⟩ := (isWordOf_iff cleanVerb _).mp verb
  rw [List.mem_singleton.mp listed] at same
  have ends := ends_of_stops (stops_of_kept apart)
  rw [text_cons, List.append_assoc, Piece.text]
  refine ⟨_, keyword_iff.2 ⟨letters, rfl, same⟩, ?_, ?_⟩
  · rw [wordEnds]
    cases first : (text 3 _ ++ after).head? with
    | none => rfl
    | some char =>
        rw [Option.any_some, ends char first]
        rfl
  · exact List.append_ne_nil_of_left_ne_nil (worded_of_clean cleanVerb).some _

/-- In the peeled text UPDATE is found. -/
theorem verb_found {after : Text} (fronted : Fronted parts after) (alone : alone parts = true) :
    searchWords ["insert", "replace", "update", "delete"] none
      (prelude parts ++ (text 3 (parts.items.flatMap Item.pieces) ++ after)) =
        some (prelude parts, text 3 (parts.items.flatMap Item.pieces) ++ after) := by
  obtain ⟨rest, key, ends, some⟩ := verb_keyword fronted
  rw [LivenessMarks.alone, Bool.and_eq_true, Option.isNone_iff_eq_none, Bool.not_eq_true'] at alone
  generalize prelude parts = before at alone
  obtain ⟨none, last⟩ := alone
  rcases List.eq_nil_or_concat' before with rfl | ⟨front, char, rfl⟩
  · exact searchWords_here (by decide) rfl key ends some
  · rw [List.getLast?_concat, Option.any_some] at last
    rw [List.append_assoc, List.singleton_append, searchWords_nothing letters_writes last _ none]
    have lone : (Option.some char).any isWord = false := last
    have here : searchWords ["insert", "replace", "update", "delete"] (Option.some char)
        (text 3 (parts.items.flatMap Item.pieces) ++ after) =
        Option.some ([], text 3 (parts.items.flatMap Item.pieces) ++ after) :=
      searchWords_here (by decide) lone key ends some
    rw [here]
    rfl

/-- The text behind the passes, up to and past the equals sign. -/
def passedText (parts : Parts) (done : List Assignment) (assignment : Assignment) (after : Text) :
    Text :=
  text 3 (parts.lead ++ parts.common) ++ (text 3 (parts.items.flatMap Item.pieces) ++
    (text 3 (view done assignment) ++ '=' :: after))

/-- Behind a WITH clause the write is read from the statement's own UPDATE. -/
theorem Read.matched_common (read : Read parts done assignment later) {after : Text} {write : Write}
    (found : (searchWords ["insert", "replace", "update", "delete"] none
      (peel (passedText parts done assignment after))).bind (fun found => matchWrite found.2) =
        some write) :
    ∃ left, matchWrite (text 3 (parts.items.flatMap Item.pieces) ++
      (outside 0 (text 3 (view done assignment)) ++ '=' :: left)) = some write := by
  have viewClean : ∀ piece ∈ view done assignment, Clean piece := fun piece member =>
    read.clean piece (List.mem_append_right _ member)
  obtain ⟨same, itemsDepth⟩ := items_flat read.valid (read.fronted []).clean
  have viewDepth : depth 0 (text 3 (view done assignment)) = some 0 := by
    rw [depth_text viewClean, view_nesting read.doneValid read.also]
  have closes : depth 0 (text 3 (parts.lead ++ parts.common) ++
      (text 3 (parts.items.flatMap Item.pieces) ++ (text 3 (view done assignment) ++ ['=']))) =
      some 0 := by
    rw [depth_append, read.opening_depth, Option.bind_some, depth_append, itemsDepth,
      Option.bind_some, depth_append, viewDepth]
    rfl
  obtain ⟨left, peeled⟩ := peel_front closes after
  rw [outside_append read.opening_depth, outside_append itemsDepth, same,
    outside_append viewDepth] at peeled
  have equals : outside 0 ['='] = ['='] := rfl
  simp only [List.append_assoc, List.singleton_append, equals] at peeled
  refine ⟨left, ?_⟩
  rw [passedText, peeled] at found
  have verb := verb_found (read.peeled left) read.seen.alone
  rw [prelude] at verb
  rw [verb] at found
  exact found

/-- Without one it is read from the start. -/
theorem Read.matched_plain (read : Read parts done assignment later) {after : Text} {write : Write}
    (unwithed : ¬ startsWith (passedText parts done assignment after) = true)
    (found : matchWrite (passedText parts done assignment after) = some write) :
    matchWrite (text 3 parts.lead ++ (text 3 (parts.items.flatMap Item.pieces) ++
      (text 3 (view done assignment) ++ '=' :: after))) = some write := by
  unfold passedText at unwithed found
  cases shape : parts.common with
  | nil =>
      rw [shape, List.append_nil] at found
      exact found
  | cons first rest =>
      -- the statement starts with WITH
      refine absurd ?_ unwithed
      obtain ⟨lead, _, common, _⟩ := valid_fields read.valid
      rw [Parts.validCommon, shape, Bool.and_eq_true, Bool.and_eq_true] at common
      have all := kept_of_lexed after read.lexed
      have clean := read.clean
      rw [Parts.opening, List.append_assoc, List.append_assoc, shape, List.cons_append] at all clean
      have blank : Blank (text 3 parts.lead) := gap_blank lead fun piece member =>
        clean piece (List.mem_append_left _ member)
      have cleanFirst := clean first (List.mem_append_right _ List.mem_cons_self)
      obtain ⟨letters, rfl⟩ := isWordOf_word common.1.1
      obtain ⟨name, listed, same⟩ := (isWordOf_iff cleanFirst _).mp common.1.1
      rw [List.mem_singleton.mp listed] at same
      have ends := ends_of_stops (stops_of_kept (kept_append all).2)
      rw [startsWith, shape, text_append, List.append_assoc, text_cons, List.append_assoc,
        dropWhile_blank blank (name_inked cleanFirst rfl _), Piece.text,
        keyword_iff.2 ⟨letters, rfl, same⟩, Option.any_some, wordEnds]
      rw [text_append, text_append, List.append_assoc, List.append_assoc] at ends
      cases head : (text 3 rest ++ (text 3 (parts.items.flatMap Item.pieces) ++
          (text 3 (view done assignment) ++ '=' :: after))).head? with
      | none => rfl
      | some char =>
          rw [Option.any_some, ends char head]
          rfl

/-- A statement that is marked has its assignment in view among the columns found. -/
theorem Read.found (read : Read parts done assignment later) {write : Write}
    (found : writtenTableOf (text 0 (parts.opening ++ view done assignment) ++ '=' :: later) =
      some write)
    (live : write.liveness = true) :
    write.table = lower (String.ofList (parts.table.piece.name.getD [])) ∧
      ∀ columns, write.columns = some columns → ∀ column ∈ assignment.columns, column ∈ columns := by
  obtain ⟨name, column, plain⟩ := read.seen.column
  have viewClean : ∀ piece ∈ view done assignment, Clean piece := fun piece member =>
    read.clean piece (List.mem_append_right _ member)
  have cleanName : Clean name := by
    refine viewClean name (List.mem_append_right _ (List.mem_append_left _ ?_))
    rw [column]
    exact List.mem_cons_self
  obtain ⟨_, gaps, _, _⟩ := Assignment.fields read.also
  have blank : Blank (text 3 assignment.gap) := gap_blank gaps fun piece member =>
    viewClean piece (List.mem_append_right _ (List.mem_append_right _ member))
  have viewDepth : depth 0 (text 3 (view done assignment)) = some 0 := by
    rw [depth_text viewClean, view_nesting read.doneValid read.also]
  have seen := view_inView read.doneValid read.also viewClean column plain
  have one : ∀ column' ∈ assignment.columns,
      column' = lower (String.ofList (name.name.getD [])) := by
    intro column' member
    rw [Assignment.columns, column, Target.names] at member
    cases named : name.name with
    | none =>
        rw [named] at member
        cases member
    | some letters =>
        rw [named] at member
        exact List.mem_singleton.mp member
  obtain ⟨after, passed⟩ := passes_pieces read.lexed read.seen.plain
  have shape : text 3 (parts.opening ++ view done assignment) ++ '=' :: after =
      passedText parts done assignment after := by
    rw [passedText, Parts.opening, text_append, text_append, List.append_assoc, List.append_assoc]
  have whole : writtenTableOf (text 0 (parts.opening ++ view done assignment) ++ '=' :: later) =
      if startsWith (passedText parts done assignment after) then
        (searchWords ["insert", "replace", "update", "delete"] none
          (peel (passedText parts done assignment after))).bind fun found => matchWrite found.2
      else matchWrite (passedText parts done assignment after) := by
    rw [← shape, ← passed]
    rfl
  rw [whole] at found
  split at found
  next withed =>
    obtain ⟨left, matched⟩ := read.matched_common found
    have empty : Blank [] := fun char listed => by cases listed
    obtain ⟨table, columns⟩ := front_reads (read.peeled left) empty matched live
    refine ⟨table, fun found' some column' member => ?_⟩
    rw [columns found' some, one column' member]
    obtain ⟨unopened, unclosed⟩ := outside_free (text 3 (view done assignment)) 0
    obtain ⟨same, level⟩ := outside_plain unopened unclosed
    refine columnsOf_mem cleanName plain blank level ?_ ?_
    · rw [same]
      exact seen
    · rw [same]
      exact read.seen.unended
  next unwithed =>
    have matched := read.matched_plain unwithed found
    obtain ⟨lead, _⟩ := valid_fields read.valid
    have blankLead : Blank (text 3 parts.lead) := gap_blank lead fun piece member =>
      read.clean piece (List.mem_append_left _ (List.mem_append_left _ (List.mem_append_left _ member)))
    obtain ⟨table, columns⟩ := front_reads (read.fronted after) blankLead matched live
    refine ⟨table, fun found' some column' member => ?_⟩
    rw [columns found' some, one column' member]
    exact columnsOf_mem cleanName plain blank viewDepth seen read.seen.unended

end Mark

/-- The assignment only assigns declared columns. -/
def Harmless (table : String) (assignment : Assignment) : Prop :=
  ∀ column ∈ assignment.columns, declares table column = true

/-- `UPDATE agents SET`, these assignments, and the rest. -/
def agentsParts (assignments : List Assignment) (tail : String) : Parts where
  lead := []
  common := []
  verb := ⟨.word "UPDATE".toList, [.blank ' ']⟩
  conflict := []
  schema := []
  table := ⟨.word "agents".toList, [.blank ' ']⟩
  qualifier := []
  set := ⟨.word "SET".toList, [.blank ' ']⟩
  assignments := assignments
  tail := tail.toList

def assigns (column value : Piece) : Assignment where
  target := .column column
  gap := [.blank ' ']
  value := [.blank ' ', value]
  next := [.blank ' ']

/-- `UPDATE agents SET last_seen = 'now, (at) it''s', "Status" = ?`. -/
def heartbeat : Update where
  toParts := agentsParts [assigns (.word "last_seen".toList) (.string "now, (at) it's".toList),
    assigns (.quoted .double "Status".toList) (.mark '?')] ""
  wellFormed := by decide

theorem heartbeat_seen (done : List Assignment) (assignment : Assignment) (rest : List Assignment)
    (shape : heartbeat.assignments = done ++ assignment :: rest) :
    Seen heartbeat.toParts done assignment := by
  have named : Named heartbeat.toParts := by
    refine ⟨by decide, fun schema member => ?_, fun item member => ?_⟩
    · cases member
    · cases member
  cases done with
  | nil =>
      obtain ⟨rfl, _⟩ := List.cons.inj shape
      exact ⟨by decide, named, by decide, ⟨_, rfl, by decide⟩, by decide⟩
  | cons first done =>
      obtain ⟨rfl, later⟩ := List.cons.inj shape
      clear shape
      cases done with
      | nil =>
          obtain ⟨rfl, _⟩ := List.cons.inj later
          exact ⟨by decide, named, by decide, ⟨_, rfl, by decide⟩, by decide⟩
      | cons second done =>
          have none := (List.cons.inj later).2
          cases done <;> cases none

/-- `UPDATE agents SET last_seen = '--', name = 'x'`. -/
def renamed : Update where
  toParts := agentsParts [assigns (.word "last_seen".toList) (.string "--".toList),
    assigns (.word "name".toList) (.string "x".toList)] ""
  wellFormed := by decide

end AifyComms.LivenessMarks
