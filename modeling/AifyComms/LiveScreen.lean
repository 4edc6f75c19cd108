import AifyComms.MarkedWords

/-!
A terminal's live screen, fed chunk by chunk: `strip_private_sgr` and `_LiveScreen.feed` of
`terminal_snapshot.py`.

A screen of pyte is the text it was fed: `feed(a)` and then `feed(b)` is `feed(a + b)`. The
main screen lives as long as the terminal; each alternate screen is dropped when it is left,
and `dropped` remembers what was on it.
-/

namespace AifyComms.LiveScreen
open MarkedWords

abbrev Text := List Char

def esc : Char := Char.ofNat 0x1b

/-! ### Private sequences -/

/-- `[0-9;:]`. -/
def isParameter (c : Char) : Bool := ('0' ≤ c && c ≤ '9') || c == ';' || c == ':'

/-- `[@-~]`. -/
def isFinal (c : Char) : Bool := '@' ≤ c && c ≤ '~'

/-- What ends a private sequence of this kind. -/
def ends (kind c : Char) : Bool :=
  if kind = '?' then c == 'm' else isFinal c

def isKind (c : Char) : Bool := c == '<' || c == '>' || c == '=' || c == '?'

/-- The length of the `_PRIVATE_CSI_RE` match the text starts with. -/
def privateAt : Text → Option Nat
  | first :: '[' :: kind :: rest =>
      if first = esc ∧ isKind kind then
        match rest.dropWhile isParameter with
        | last :: _ => if ends kind last then some ((rest.takeWhile isParameter).length + 4) else none
        | [] => none
      else none
  | _ => none

/-- The text without the matches, from a place `skip` letters before the end of one. -/
def stripFrom : Nat → Text → Text
  | _, [] => []
  | skip + 1, _ :: rest => stripFrom skip rest
  | 0, c :: rest =>
      match privateAt (c :: rest) with
      | some length => stripFrom (length - 1) rest
      | none => c :: stripFrom 0 rest

/-- `strip_private_sgr`. -/
def stripPrivateSgr (text : Text) : Text := stripFrom 0 text

/-- `$`: the end of the text, or before the newline that ends it. -/
def atEnd (text : Text) : Bool := text == [] || text == ['\n']

/-- Whether `_UNTERMINATED_PRIVATE_CSI_RE` matches at the start of the text. -/
def unterminated : Text → Bool
  | first :: rest =>
      first == esc && (atEnd rest || match rest with
        | '[' :: more => atEnd more || match more with
          | kind :: parameters => isKind kind && atEnd (parameters.dropWhile isParameter)
          | [] => false
        | _ => false)
  | [] => false

/-- The chunk before its unterminated private sequence, and that sequence. -/
def hold : Text → Text × Text
  | [] => ([], [])
  | c :: rest => if unterminated (c :: rest) then ([], c :: rest) else (c :: (hold rest).1, (hold rest).2)

/-! ### The screens -/

/-- `_ALT_ENTER_RE`. -/
def enterWords : List Text :=
  [[esc, '[', '?', '1', '0', '4', '9', 'h'], [esc, '[', '?', '1', '0', '4', '7', 'h'],
    [esc, '[', '?', '4', '7', 'h']]

/-- `_ALT_LEAVE_RE`. -/
def leaveWords : List Text :=
  [[esc, '[', '?', '1', '0', '4', '9', 'l'], [esc, '[', '?', '1', '0', '4', '7', 'l'],
    [esc, '[', '?', '4', '7', 'l']]

/-- `_FULL_CLEAR_RE`. -/
def clearWords : List Text := [[esc, '[', '2', 'J'], [esc, 'c']]

structure Live where
  inAlt : Bool
  pending : Text
  reconstructed : Bool
  main : Text
  alt : Text
  dropped : List Text
  deriving DecidableEq

/-- A new screen, and whether it is rebuilt from the stored log. -/
def fresh (reconstructed : Bool) : Live := ⟨false, [], reconstructed, [], [], []⟩

def Live.feedMain (live : Live) (text : Text) : Live := { live with main := live.main ++ text }

def Live.feedAlt (live : Live) (text : Text) : Live := { live with alt := live.alt ++ text }

def Live.enterAlt (live : Live) : Live := { live with inAlt := true, alt := [] }

def Live.leaveAlt (live : Live) : Live :=
  { live with inAlt := false, alt := [], dropped := live.dropped ++ [live.alt] }

/-- A whole-screen clear of the main screen. -/
def Live.clear (live : Live) (main : Text) : Live :=
  if (search (wordAt clearWords) main).isSome then { live with reconstructed := false } else live

/-- The loop of `feed`. -/
def route : Nat → Live → Text → Live
  | 0, live, _ => live
  | fuel + 1, live, chunk =>
      if chunk = [] then live
      else if live.inAlt then
        match search (wordAt leaveWords) chunk with
        | none => live.feedAlt chunk
        | some (before, after) => route fuel (live.feedAlt before).leaveAlt after
      else
        match search (wordAt enterWords) chunk with
        | none => (live.clear chunk).feedMain chunk
        | some (before, after) => route fuel ((live.clear before).feedMain before).enterAlt after

/-- `feed`. -/
def feed (live : Live) (chunk : Text) : Live :=
  let split := hold (live.pending ++ chunk)
  let text := stripPrivateSgr split.1
  route (text.length + 1) { live with pending := split.2 } text

/-- What is on the screens, and what is said of them. -/
structure Shown where
  inAlt : Bool
  reconstructed : Bool
  main : Text
  alt : Text
  dropped : List Text
  deriving DecidableEq

def Live.shown (live : Live) : Shown :=
  ⟨live.inAlt, live.reconstructed, live.main, live.alt, live.dropped⟩

/-! ### What is fed -/

/-- A private sequence as far as its parameters. -/
inductive Open : Text → Prop where
  | escape : Open [esc]
  | bracket : Open [esc, '[']
  | parameters {kind : Char} {parameters : Text} (isPrivate : isKind kind = true)
      (all : ∀ c ∈ parameters, isParameter c = true) :
      Open (esc :: '[' :: kind :: parameters)

theorem atEnd_iff {text : Text} : atEnd text = true ↔ text = [] ∨ text = ['\n'] := by
  unfold atEnd
  rw [Bool.or_eq_true, beq_iff_eq, beq_iff_eq]

theorem unterminated_iff {text : Text} :
    unterminated text = true ↔ ∃ body tail, text = body ++ tail ∧ Open body ∧ atEnd tail = true := by
  constructor
  · intro holds
    unfold unterminated at holds
    split at holds
    next first rest =>
      rw [Bool.and_eq_true, Bool.or_eq_true, beq_iff_eq] at holds
      obtain ⟨rfl, ended | bracketed⟩ := holds
      · exact ⟨[esc], rest, rfl, .escape, ended⟩
      split at bracketed
      next more =>
        rw [Bool.or_eq_true] at bracketed
        rcases bracketed with ended | kinded
        · exact ⟨[esc, '['], more, rfl, .bracket, ended⟩
        split at kinded
        next kind parameters =>
          rw [Bool.and_eq_true] at kinded
          refine ⟨esc :: '[' :: kind :: parameters.takeWhile isParameter,
            parameters.dropWhile isParameter, ?_, .parameters kinded.1 ?_, kinded.2⟩
          · simp [List.takeWhile_append_dropWhile]
          · exact fun c listed => List.all_eq_true.mp (List.all_takeWhile) c listed
        · cases kinded
      · cases bracketed
    · cases holds
  · rintro ⟨body, tail, rfl, opened, ended⟩
    cases opened with
    | escape => simp [unterminated, ended]
    | bracket => simp [unterminated, ended]
    | @parameters kind parameters isPrivate all =>
        have left : (parameters ++ tail).dropWhile isParameter = tail := by
          rw [List.dropWhile_append_of_pos all]
          rcases atEnd_iff.1 ended with rfl | rfl
          · rfl
          · rfl
        simp [unterminated, isPrivate, left, ended]

theorem open_of_prefix {text body : Text} (opened : Open body) (starts : text <+: body)
    (some : text ≠ []) : Open text := by
  have escape : ∀ {rest : Text}, text <+: esc :: rest → ∃ more, text = esc :: more ∧ more <+: rest :=
    fun starts => (List.prefix_cons_iff.mp starts).resolve_left some
  cases opened with
  | escape =>
      obtain ⟨more, rfl, inside⟩ := escape starts
      rw [List.prefix_nil.mp inside]
      exact .escape
  | bracket =>
      obtain ⟨more, rfl, inside⟩ := escape starts
      rcases List.prefix_cons_iff.mp inside with rfl | ⟨rest, rfl, within⟩
      · exact .escape
      · rw [List.prefix_nil.mp within]
        exact .bracket
  | parameters isPrivate all =>
      obtain ⟨more, rfl, inside⟩ := escape starts
      rcases List.prefix_cons_iff.mp inside with rfl | ⟨rest, rfl, within⟩
      · exact .escape
      rcases List.prefix_cons_iff.mp within with rfl | ⟨front, rfl, short⟩
      · exact .bracket
      · exact .parameters isPrivate fun c listed => all c (short.subset listed)

/-- A private sequence that was held back is held back from its first letter on. -/
theorem unterminated_of_append {text later : Text} (some : text ≠ [])
    (holds : unterminated (text ++ later) = true) : unterminated text = true := by
  rw [unterminated_iff] at holds ⊢
  obtain ⟨body, tail, whole, opened, ended⟩ := holds
  rcases List.append_eq_append_iff.mp whole with ⟨rest, rfl, _⟩ | ⟨rest, rfl, rfl⟩
  · exact ⟨text, [], (List.append_nil text).symm,
      open_of_prefix opened (List.prefix_append text rest) some, rfl⟩
  · refine ⟨body, rest, rfl, opened, atEnd_iff.2 ?_⟩
    rcases atEnd_iff.1 ended with none | one
    · exact .inl (List.append_eq_nil_iff.mp none).1
    · rcases List.append_eq_singleton_iff.mp one with ⟨rfl, _⟩ | ⟨rfl, _⟩
      · exact .inl rfl
      · exact .inr rfl

theorem hold_cons (c : Char) (rest : Text) :
    hold (c :: rest) =
      if unterminated (c :: rest) then ([], c :: rest) else (c :: (hold rest).1, (hold rest).2) := rfl

theorem hold_whole (text : Text) : (hold text).1 ++ (hold text).2 = text := by
  induction text with
  | nil => rfl
  | cons c rest ih =>
      rw [hold_cons]
      split
      · rfl
      · rw [List.cons_append, ih]

theorem hold_append (text later : Text) :
    hold (text ++ later) = ((hold text).1 ++ (hold ((hold text).2 ++ later)).1,
      (hold ((hold text).2 ++ later)).2) := by
  induction text with
  | nil => rfl
  | cons c rest ih =>
      by_cases held : unterminated (c :: rest) = true
      · have whole : hold (c :: rest) = ([], c :: rest) := by rw [hold_cons, if_pos held]
        rw [whole, List.nil_append]
      · have still : ¬ unterminated (c :: (rest ++ later)) = true :=
          fun holds => held (unterminated_of_append (List.cons_ne_nil _ _) holds)
        have split : hold (c :: rest) = (c :: (hold rest).1, (hold rest).2) := by
          rw [hold_cons, if_neg held]
        rw [split, List.cons_append, hold_cons, if_neg still, ih]
        rfl

/-- What is held back is nothing, or an unterminated private sequence. -/
theorem hold_held (text : Text) : (hold text).2 = [] ∨ unterminated (hold text).2 = true := by
  induction text with
  | nil => exact .inl rfl
  | cons c rest ih =>
      rw [hold_cons]
      split
      next held => exact .inr held
      · exact ih

/-- No unterminated private sequence starts in what is not held back. -/
theorem hold_free {text front back : Text} (split : (hold text).1 = front ++ back)
    (some : back ≠ []) : ¬ unterminated (back ++ (hold text).2) = true := by
  induction text generalizing front with
  | nil =>
      have empty := List.append_eq_nil_iff.mp split.symm
      exact absurd empty.2 some
  | cons c rest ih =>
      rw [hold_cons] at split ⊢
      split at split
      next held =>
        have empty := List.append_eq_nil_iff.mp split.symm
        exact absurd empty.2 some
      next free =>
        rw [if_neg free]
        cases front with
        | nil =>
            rw [List.nil_append] at split
            rw [← split, List.cons_append, hold_whole]
            exact free
        | cons first front =>
            exact ih (List.cons.inj split).2

theorem not_isParameter_of_ends {kind last : Char} (ended : ends kind last = true) :
    isParameter last = false := by
  have lower : '@' ≤ last := by
    unfold ends at ended
    split at ended
    · rw [beq_iff_eq] at ended
      rw [ended]
      decide
    · unfold isFinal at ended
      rw [Bool.and_eq_true, decide_eq_true_eq] at ended
      exact ended.1
  unfold isParameter
  rw [Bool.or_eq_false_iff, Bool.or_eq_false_iff, Bool.and_eq_false_iff]
  refine ⟨⟨.inr ?_, ?_⟩, ?_⟩
  · rw [decide_eq_false_iff_not]
    exact fun upper => absurd (Char.le_trans lower upper) (by decide)
  · rw [beq_eq_false_iff_ne]
    rintro rfl
    exact absurd lower (by decide)
  · rw [beq_eq_false_iff_ne]
    rintro rfl
    exact absurd lower (by decide)

/-- A match is a private sequence as far as its parameters, and the letter that ends it. -/
theorem privateAt_iff {text : Text} {length : Nat} :
    privateAt text = some length ↔ ∃ kind parameters last rest,
      text = esc :: '[' :: kind :: (parameters ++ last :: rest) ∧ isKind kind = true ∧
        (∀ c ∈ parameters, isParameter c = true) ∧ ends kind last = true ∧
        length = parameters.length + 4 := by
  constructor
  · intro found
    unfold privateAt at found
    split at found
    next first kind rest =>
      split at found
      next shape =>
        obtain ⟨rfl, isPrivate⟩ := shape
        split at found
        next last more left =>
          split at found
          next ended =>
            refine ⟨kind, rest.takeWhile isParameter, last, more, ?_, isPrivate,
              fun c listed => List.all_eq_true.mp List.all_takeWhile c listed, ended,
              (Option.some.inj found).symm⟩
            rw [← left, List.takeWhile_append_dropWhile]
          · cases found
        · cases found
      · cases found
    · cases found
  · rintro ⟨kind, parameters, last, rest, rfl, isPrivate, all, ended, rfl⟩
    have plain := not_isParameter_of_ends ended
    have left : (parameters ++ last :: rest).dropWhile isParameter = last :: rest := by
      rw [List.dropWhile_append_of_pos all, List.dropWhile_cons, if_neg (by rw [plain]; decide)]
    have taken : (parameters ++ last :: rest).takeWhile isParameter = parameters := by
      rw [List.takeWhile_append_of_pos all, List.takeWhile_cons, if_neg (by rw [plain]; decide),
        List.append_nil]
    rw [privateAt, if_pos ⟨rfl, isPrivate⟩, left, taken]
    dsimp only
    rw [if_pos ended]

theorem privateAt_append {text : Text} {length : Nat} (later : Text)
    (found : privateAt text = some length) : privateAt (text ++ later) = some length := by
  obtain ⟨kind, parameters, last, rest, rfl, isPrivate, all, ended, rfl⟩ := privateAt_iff.1 found
  refine privateAt_iff.2 ⟨kind, parameters, last, rest ++ later, ?_, isPrivate, all, ended, rfl⟩
  simp

/-- A match of the longer text that fits in the shorter one is a match of that. -/
theorem privateAt_of_append {text later : Text} {length : Nat}
    (found : privateAt (text ++ later) = some length) (fits : length ≤ text.length) :
    privateAt text = some length := by
  obtain ⟨kind, parameters, last, rest, whole, isPrivate, all, ended, rfl⟩ :=
    privateAt_iff.1 found
  have starts : esc :: '[' :: kind :: (parameters ++ [last]) <+: text := by
    refine List.prefix_of_prefix_length_le ⟨rest, ?_⟩ (List.prefix_append text later) ?_
    · rw [whole]
      simp
    · simp only [List.length_cons, List.length_append, List.length_nil]
      omega
  obtain ⟨more, rfl⟩ := starts
  refine privateAt_iff.2 ⟨kind, parameters, last, more, ?_, isPrivate, all, ended, rfl⟩
  simp

theorem privateAt_le {text : Text} {length : Nat} (found : privateAt text = some length) :
    length ≤ text.length := by
  obtain ⟨kind, parameters, last, rest, rfl, _, _, _, rfl⟩ := privateAt_iff.1 found
  simp only [List.length_cons, List.length_append]
  omega

theorem unterminated_cons {text : Text} (holds : unterminated text = true) :
    ∃ rest, text = esc :: rest := by
  obtain ⟨body, tail, rfl, opened, _⟩ := unterminated_iff.1 holds
  cases opened <;> exact ⟨_, rfl⟩

/-- A match that the shorter text cuts: what there is of it is an unterminated sequence, and
the rest of it does not start with an escape. -/
theorem privateAt_cut {text later : Text} {length : Nat} (some : text ≠ [])
    (found : privateAt (text ++ later) = Option.some length) (cut : text.length < length) :
    unterminated text = true ∧ later.head? ≠ Option.some esc := by
  obtain ⟨kind, parameters, last, rest, whole, isPrivate, all, ended, rfl⟩ :=
    privateAt_iff.1 found
  have inside : text <+: esc :: '[' :: kind :: parameters := by
    refine List.prefix_of_prefix_length_le (List.prefix_append text later) ?_ ?_
    · rw [whole]
      exact ⟨last :: rest, by simp⟩
    · simp only [List.length_cons]
      omega
  obtain ⟨back, body⟩ := inside
  constructor
  · refine unterminated_iff.2 ⟨text, [], (List.append_nil text).symm, ?_, rfl⟩
    exact open_of_prefix (.parameters isPrivate all) ⟨back, body⟩ some
  · have tail : later = back ++ last :: rest := by
      have same : text ++ later = text ++ (back ++ last :: rest) := by
        rw [whole, ← List.append_assoc, body]
        simp
      exact List.append_cancel_left same
    -- the sequence has no escape after its first letter
    have plain : ∀ c ∈ '[' :: kind :: parameters, c ≠ esc := by
      rw [List.forall_mem_cons, List.forall_mem_cons]
      refine ⟨by decide, ?_, fun c listed => ?_⟩
      · rintro rfl
        cases isPrivate
      · rintro rfl
        cases all esc listed
    obtain ⟨first, front, rfl⟩ := List.exists_cons_of_ne_nil some
    rw [List.cons_append, List.cons.injEq] at body
    rw [tail]
    cases back with
    | nil =>
        intro starts
        obtain rfl : last = esc := Option.some.inj starts
        unfold ends at ended
        split at ended <;> cases ended
    | cons c more =>
        intro starts
        obtain rfl : c = esc := Option.some.inj starts
        exact plain esc (body.2 ▸ List.mem_append_right front List.mem_cons_self) rfl

theorem stripFrom_append {text later : Text} (uncut : ∀ front back length, text = front ++ back →
      back ≠ [] → privateAt (back ++ later) = some length → length ≤ back.length) :
    ∀ skip, skip ≤ text.length →
      stripFrom skip (text ++ later) = stripFrom skip text ++ stripFrom 0 later := by
  induction text with
  | nil =>
      intro skip fits
      obtain rfl := Nat.le_zero.mp fits
      rfl
  | cons c rest ih =>
      have inner : ∀ skip, skip ≤ rest.length →
          stripFrom skip (rest ++ later) = stripFrom skip rest ++ stripFrom 0 later := by
        refine ih fun front back length split => ?_
        exact uncut (c :: front) back length (by rw [split, List.cons_append])
      intro skip fits
      cases skip with
      | succ skip => exact inner skip (Nat.le_of_succ_le_succ fits)
      | zero =>
          rw [List.cons_append, stripFrom, stripFrom]
          cases found : privateAt (c :: (rest ++ later)) with
          | none =>
              have none : privateAt (c :: rest) = none := by
                cases here : privateAt (c :: rest) with
                | none => rfl
                | some length =>
                    have also := privateAt_append later here
                    rw [List.cons_append, found] at also
                    cases also
              rw [none]
              dsimp only
              rw [inner 0 (Nat.zero_le _), List.cons_append]
          | some length =>
              have short := uncut [] (c :: rest) length rfl (List.cons_ne_nil _ _) found
              rw [privateAt_of_append found short]
              dsimp only
              rw [List.length_cons] at short
              exact inner (length - 1) (by omega)

/-- The text that a screen fed `text` is handed on. -/
def fedText (text : Text) : Text := stripPrivateSgr (hold text).1

/-- A later chunk adds to what was handed on before, and holds back what the whole text
would. -/
theorem fedText_append (text later : Text) :
    fedText (text ++ later) = fedText text ++ fedText ((hold text).2 ++ later) := by
  unfold fedText stripPrivateSgr
  rw [hold_append]
  refine stripFrom_append ?_ 0 (Nat.zero_le _)
  intro front back length split some found
  by_contra cut
  obtain ⟨opened, unescaped⟩ := privateAt_cut some found (Nat.lt_of_not_le cut)
  rcases hold_held text with none | held
  · have free := hold_free split some
    rw [none, List.append_nil] at free
    exact free opened
  · -- the held sequence starts with an escape, and so does what is handed on of it
    obtain ⟨more, escaped⟩ := unterminated_cons held
    have whole := hold_whole ((hold text).2 ++ later)
    cases handed : (hold ((hold text).2 ++ later)).1 with
    | nil =>
        rw [handed, List.append_nil] at found
        exact cut (privateAt_le found)
    | cons c rest =>
        rw [handed, escaped, List.cons_append, List.cons_append, List.cons.injEq] at whole
        rw [handed, List.head?_cons, whole.1] at unescaped
        exact unescaped rfl

end AifyComms.LiveScreen
