import AifyComms.DispatchBufferForgery

/-!
A message that is delivered by typing it into a console session, `_console_dispatch_input_body`
of `api_core/console_input_queue.py`: one bracketed paste and then Enter.

A terminal ends a paste at the first `ESC[201~`, or at `\x9b201~` where it reads 8-bit
controls, and reads what follows as keys. `keys` is that reader; the rest is the service.
-/

namespace AifyComms.ConsolePaste
open PyText TextLines DispatchBuffer

def escape : Char := '\x1b'

/-- The 8-bit form of `ESC [`. -/
def introducer : Char := '\u009b'

/-- `_TERMINAL_CONTROL_RE`: C0 but tab and line feed, DEL, and C1. -/
def isTerminalControl (c : Char) : Bool :=
  let n := c.toNat
  n ≤ 0x08 || (0x0b ≤ n && n ≤ 0x1f) || (0x7f ≤ n && n ≤ 0x9f)

/-- `f"\\x{ord(c):02x}"`; a control has two digits. -/
def escaped (c : Char) : Text :=
  ['\\', 'x', Nat.digitChar (c.toNat / 16), Nat.digitChar (c.toNat % 16)]

def inertChar (c : Char) : Text := if isTerminalControl c then escaped c else [c]

/-- `_inert_for_terminal`. -/
def inertForTerminal (text : Text) : Text := text.flatMap inertChar

/-- What a delivery reads of its request, with the recipient, the message and the sender as
`_describe_sender` words it. -/
structure Delivery where
  fromAgent : Text
  messageType : Text
  subject : Text
  body : Text
  recipientId : Text
  messageId : Text
  sender : Text

def Delivery.bodyText (delivery : Delivery) : Text :=
  stripText (replaceAll "\r".toList "\n".toList
    (replaceAll "\r\n".toList "\n".toList delivery.body))

def Delivery.subjectLine (delivery : Delivery) : Text :=
  let subject := stripText delivery.subject
  if subject = [] then [] else "Subject: ".toList ++ quoteUntrustedSubject subject 240

def replyHint : Text :=
  "Reply in the dashboard when appropriate, using the available aify-comms tools.".toList

def Delivery.heading (delivery : Delivery) : List Text :=
  ["AIFY dashboard message".toList,
    "From: ".toList ++ orElse delivery.sender delivery.fromAgent,
    "To: ".toList ++ delivery.recipientId,
    "Type: ".toList ++ delivery.messageType,
    delivery.subjectLine,
    "MessageId: ".toList ++ delivery.messageId]

/-- The parts of the message; those that are empty are left out, the blank lines with them. -/
def Delivery.parts (delivery : Delivery) : List Text :=
  (delivery.heading ++ [[], delivery.bodyText, [], replyHint]).filter fun part => decide (part ≠ [])

def Delivery.message (delivery : Delivery) : Text := joinLines delivery.parts

def pasteStart : Text := escape :: "[200~".toList

def pasteEnd : Text := escape :: "[201~".toList

/-- `_console_dispatch_input_body`. -/
def consoleDispatchInputBody (delivery : Delivery) : Text :=
  pasteStart ++ (inertForTerminal delivery.message ++ (pasteEnd ++ ['\r']))

/-! ### The terminal -/

def starts : List Text := [pasteStart, introducer :: "200~".toList]

def ends : List Text := [pasteEnd, introducer :: "201~".toList]

/-- What follows one of the marks, if the text begins with one. -/
def afterMark (marks : List Text) (text : Text) : Option Text :=
  (marks.find? fun mark => mark.isPrefixOf text).map fun mark => text.drop mark.length

/-- The text of a paste up to its first end, and what follows that. -/
def pasted : Text → Option (Text × Text)
  | [] => none
  | c :: rest =>
      match afterMark ends (c :: rest) with
      | some after => some ([], after)
      | none => (pasted rest).map fun read => (c :: read.1, read.2)

/-- What the program in the terminal gets: single keys, whole pastes, and last a paste that
has not ended. -/
inductive Key where
  | typed (c : Char)
  | paste (text : Text)
  | unended (text : Text)
  deriving DecidableEq

def keysWith : Nat → Text → List Key
  | 0, _ => []
  | _, [] => []
  | fuel + 1, c :: rest =>
      match afterMark starts (c :: rest) with
      | none => .typed c :: keysWith fuel rest
      | some inside =>
          match pasted inside with
          | some (text, after) => .paste text :: keysWith fuel after
          | none => [.unended inside]

def keys (text : Text) : List Key := keysWith text.length text

/-- What is written to a terminal: deliveries, and between them keys of an operator that
start no sequence. -/
inductive Written where
  | sent (delivery : Delivery)
  | key (c : Char) (plain : c ≠ escape ∧ c ≠ introducer)

def Written.text : Written → Text
  | .sent delivery => consoleDispatchInputBody delivery
  | .key c _ => [c]

/-- What the program should get of it. -/
def Written.keys : Written → List Key
  | .sent delivery => [.paste (inertForTerminal delivery.message), .typed '\r']
  | .key c _ => [.typed c]

/-! ### Inert text -/

theorem escaped_inert {c d : Char} (member : d ∈ escaped c) (control : isTerminalControl c = true) :
    isTerminalControl d = false := by
  have digits : ∀ n < 16, isTerminalControl (Nat.digitChar n) = false := by decide
  have small : c.toNat / 16 < 16 := by
    simp only [isTerminalControl, Bool.or_eq_true, Bool.and_eq_true, decide_eq_true_eq] at control
    omega
  simp only [escaped, List.mem_cons, List.not_mem_nil, or_false] at member
  rcases member with rfl | rfl | rfl | rfl
  · decide
  · decide
  · exact digits _ small
  · exact digits _ (Nat.mod_lt _ (by decide))

/-- Nothing in an inert text is a control to the terminal but tab and line feed. -/
theorem inert_not_control {text : Text} {c : Char} (member : c ∈ inertForTerminal text) :
    isTerminalControl c = false := by
  obtain ⟨original, _, inside⟩ := List.mem_flatMap.mp member
  rw [inertChar] at inside
  split at inside
  · next control => exact escaped_inert inside control
  · next plain =>
    rw [List.mem_singleton.mp inside]
    exact Bool.not_eq_true _ |>.mp plain

theorem inert_plain {text : Text} {c : Char} (member : c ∈ inertForTerminal text) :
    c ≠ escape ∧ c ≠ introducer := by
  have plain := inert_not_control member
  constructor
  · rintro rfl
    exact absurd plain (by decide)
  · rintro rfl
    exact absurd plain (by decide)

theorem inertChar_oneLine {c : Char} (other : c ≠ newline) : newline ∉ inertChar c := by
  intro member
  rw [inertChar] at member
  split at member
  · next control =>
    have digits : ∀ n < 16, newline ≠ Nat.digitChar n := by decide
    have small : c.toNat / 16 < 16 := by
      simp only [isTerminalControl, Bool.or_eq_true, Bool.and_eq_true, decide_eq_true_eq] at control
      omega
    simp only [escaped, List.mem_cons, List.not_mem_nil, or_false] at member
    rcases member with bad | bad | bad | bad
    · exact absurd bad (by decide)
    · exact absurd bad (by decide)
    · exact digits _ small bad
    · exact digits _ (Nat.mod_lt _ (by decide)) bad
  · exact other (List.mem_singleton.mp member).symm

theorem inertChar_newline : inertChar newline = [newline] := by decide

theorem lines_front {label : Text} (oneLine : newline ∉ label) (text : Text) :
    lines (label ++ text) = (lines text).modifyHead (label ++ ·) := by
  induction label with
  | nil =>
      obtain ⟨first, rest, split⟩ := List.exists_cons_of_ne_nil (lines_ne_nil text)
      rw [List.nil_append, split]
      rfl
  | cons c label ih =>
      rw [List.mem_cons, not_or] at oneLine
      rw [List.cons_append, lines_cons (Ne.symm oneLine.1), ih oneLine.2,
        List.modifyHead_modifyHead]
      rfl

/-- Making a text inert leaves its lines where they are. -/
theorem lines_inert (text : Text) :
    lines (inertForTerminal text) = (lines text).map inertForTerminal := by
  induction text with
  | nil => rfl
  | cons c rest ih =>
      have front : inertForTerminal (c :: rest) = inertChar c ++ inertForTerminal rest := rfl
      by_cases same : c = newline
      · subst same
        have split := lines_newline [] rest
        have inertSplit := lines_newline [] (inertForTerminal rest)
        rw [List.nil_append] at split inertSplit
        rw [front, inertChar_newline, List.singleton_append, inertSplit, split, ih]
        rfl
      · obtain ⟨first, others, split⟩ := List.exists_cons_of_ne_nil (lines_ne_nil rest)
        rw [front, lines_front (inertChar_oneLine same), ih, lines_cons same, split]
        rfl

/-! ### Reading the terminal -/

theorem afterMark_plain {marks : List Text} {c : Char} {rest : Text}
    (opened : ∀ mark ∈ marks, mark.head? = some escape ∨ mark.head? = some introducer)
    (plain : c ≠ escape ∧ c ≠ introducer) : afterMark marks (c :: rest) = none := by
  rw [afterMark, Option.map_eq_none_iff, List.find?_eq_none]
  intro mark member begins
  obtain ⟨after, same⟩ := List.isPrefixOf_iff_prefix.mp begins
  cases mark with
  | nil =>
      rcases opened [] member with impossible | impossible
      · cases impossible
      · cases impossible
  | cons first others =>
      obtain ⟨rfl, _⟩ := List.cons.inj same
      rcases opened _ member with opens | opens
      · exact plain.1 (Option.some.inj opens)
      · exact plain.2 (Option.some.inj opens)

theorem starts_open : ∀ mark ∈ starts,
    mark.head? = some escape ∨ mark.head? = some introducer := by
  intro mark member
  simp only [starts, List.mem_cons, List.not_mem_nil, or_false] at member
  rcases member with rfl | rfl
  · exact .inl rfl
  · exact .inr rfl

theorem ends_open : ∀ mark ∈ ends,
    mark.head? = some escape ∨ mark.head? = some introducer := by
  intro mark member
  simp only [ends, List.mem_cons, List.not_mem_nil, or_false] at member
  rcases member with rfl | rfl
  · exact .inl rfl
  · exact .inr rfl

theorem afterMark_first (mark : Text) (marks : List Text) (rest : Text) :
    afterMark (mark :: marks) (mark ++ rest) = some rest := by
  have begins : mark.isPrefixOf (mark ++ rest) = true :=
    List.isPrefixOf_iff_prefix.mpr (List.prefix_append mark rest)
  have found : (mark :: marks).find? (fun other => other.isPrefixOf (mark ++ rest)) = some mark :=
    List.find?_cons_of_pos begins
  rw [afterMark, found, Option.map_some, List.drop_left]

/-- A paste of plain text lasts up to its own end. -/
theorem pasted_plain {text : Text} (plain : ∀ c ∈ text, c ≠ escape ∧ c ≠ introducer)
    (rest : Text) : pasted (text ++ (pasteEnd ++ rest)) = some (text, rest) := by
  induction text with
  | nil =>
      have ended : afterMark ends (pasteEnd ++ rest) = some rest := afterMark_first ..
      rw [List.nil_append, pasteEnd, List.cons_append, pasted]
      rw [pasteEnd, List.cons_append] at ended
      rw [ended]
  | cons c others ih =>
      have inside : afterMark ends (c :: (others ++ (pasteEnd ++ rest))) = none :=
        afterMark_plain ends_open (plain c List.mem_cons_self)
      have later : ∀ d ∈ others, _ := fun d member => plain d (List.mem_cons_of_mem _ member)
      rw [List.cons_append, pasted, inside, ih later]
      rfl

theorem keysWith_sent (delivery : Delivery) (fuel : Nat) (rest : Text) :
    keysWith (fuel + 2) (consoleDispatchInputBody delivery ++ rest) =
      .paste (inertForTerminal delivery.message) :: .typed '\r' :: keysWith fuel rest := by
  have whole : consoleDispatchInputBody delivery ++ rest =
      pasteStart ++ (inertForTerminal delivery.message ++ (pasteEnd ++ '\r' :: rest)) := by
    simp [consoleDispatchInputBody]
  have opened : afterMark starts (pasteStart ++
      (inertForTerminal delivery.message ++ (pasteEnd ++ '\r' :: rest))) =
        some (inertForTerminal delivery.message ++ (pasteEnd ++ '\r' :: rest)) :=
    afterMark_first ..
  have inside : pasted (inertForTerminal delivery.message ++ (pasteEnd ++ '\r' :: rest)) =
      some (inertForTerminal delivery.message, '\r' :: rest) :=
    pasted_plain (fun _ member => inert_plain member) _
  have enter : afterMark starts ('\r' :: rest) = none :=
    afterMark_plain starts_open ⟨by decide, by decide⟩
  rw [whole]
  rw [pasteStart, List.cons_append] at opened ⊢
  rw [keysWith, opened]
  simp only [inside]
  rw [keysWith, enter]

theorem keysWith_written (written : List Written) (fuel : Nat)
    (enough : (written.flatMap Written.text).length ≤ fuel) :
    keysWith fuel (written.flatMap Written.text) = written.flatMap Written.keys := by
  induction written generalizing fuel with
  | nil => cases fuel with
    | zero => rfl
    | succ fuel => rfl
  | cons first others ih =>
      rw [List.flatMap_cons, List.length_append] at enough
      rw [List.flatMap_cons, List.flatMap_cons]
      cases first with
      | sent delivery =>
          have long : 2 ≤ (Written.sent delivery).text.length := by
            simp only [Written.text, consoleDispatchInputBody, List.length_append]
            have enter : (['\r'] : Text).length = 1 := rfl
            have start : 1 ≤ pasteStart.length := Nat.le_add_left ..
            omega
          obtain ⟨left, rfl⟩ := Nat.exists_eq_add_of_le' (Nat.le_trans long
            (Nat.le_trans (Nat.le_add_right _ _) enough))
          have read := keysWith_sent delivery left (others.flatMap Written.text)
          rw [show Written.text (.sent delivery) = consoleDispatchInputBody delivery from rfl, read,
            ih left (by omega)]
          rfl
      | key c plain =>
          obtain ⟨left, rfl⟩ :=
            Nat.exists_eq_add_of_le' (Nat.le_trans (Nat.le_add_right 1 _) enough)
          have typed : afterMark starts (c :: others.flatMap Written.text) = none :=
            afterMark_plain starts_open plain
          have one : (Written.key c plain).text.length = 1 := rfl
          rw [show Written.text (.key c plain) = [c] from rfl, List.singleton_append, keysWith,
            typed]
          simp only
          rw [ih left (by omega)]
          rfl

/-! ### The lines of a delivery -/

/-- The names a delivery carries are of one line each. -/
def Delivery.OneLine (delivery : Delivery) : Prop :=
  newline ∉ orElse delivery.sender delivery.fromAgent ∧ newline ∉ delivery.recipientId ∧
    newline ∉ delivery.messageType ∧ newline ∉ delivery.messageId

theorem labelled_oneLine {label text : Text} (plain : newline ∉ label) (oneLine : newline ∉ text) :
    newline ∉ label ++ text := by
  rw [List.mem_append, not_or]
  exact ⟨plain, oneLine⟩

theorem subjectLine_oneLine (delivery : Delivery) : newline ∉ delivery.subjectLine := by
  rw [Delivery.subjectLine]
  split
  · exact List.not_mem_nil
  · exact labelled_oneLine (by decide)
      (DispatchBufferForgery.newline_not_mem_quoteUntrustedSubject _ _)

theorem heading_oneLine {delivery : Delivery} (oneLine : delivery.OneLine) :
    ∀ part ∈ delivery.heading, newline ∉ part := by
  obtain ⟨sender, recipient, kind, message⟩ := oneLine
  intro part member
  simp only [Delivery.heading, List.mem_cons, List.not_mem_nil, or_false] at member
  rcases member with rfl | rfl | rfl | rfl | rfl | rfl
  · decide
  · exact labelled_oneLine (by decide) sender
  · exact labelled_oneLine (by decide) recipient
  · exact labelled_oneLine (by decide) kind
  · exact subjectLine_oneLine delivery
  · exact labelled_oneLine (by decide) message

theorem flatMap_lines_oneLine {parts : List Text} (oneLine : ∀ part ∈ parts, newline ∉ part) :
    parts.flatMap lines = parts := by
  induction parts with
  | nil => rfl
  | cons first rest ih =>
      rw [List.flatMap_cons, lines_single (oneLine first List.mem_cons_self),
        ih fun part member => oneLine part (List.mem_cons_of_mem _ member), List.singleton_append]

theorem replyHint_ne_nil : replyHint ≠ [] := by
  intro empty
  exact absurd (String.toList_eq_nil_iff.mp empty) (by decide)

/-- The lines an agent reads: the heading, a line each, the body and the hint. -/
def Delivery.shownLines (delivery : Delivery) : List Text :=
  delivery.heading.filter (fun part => decide (part ≠ [])) ++
    ((if delivery.bodyText = [] then [] else lines delivery.bodyText) ++ lines replyHint)

theorem filter_closing {body hint : Text} (some : hint ≠ []) :
    [[], body, [], hint].filter (fun part => decide (part ≠ [])) =
      (if body = [] then [] else [body]) ++ [hint] := by
  by_cases empty : body = []
  · simp [empty, some]
  · simp [empty, some]

theorem flatMap_closing (body hint : Text) :
    ((if body = [] then [] else [body]) ++ [hint]).flatMap lines =
      (if body = [] then [] else lines body) ++ lines hint := by
  by_cases empty : body = []
  · simp [empty]
  · simp [empty]

theorem message_lines {delivery : Delivery} (oneLine : delivery.OneLine) :
    lines delivery.message = delivery.shownLines := by
  have parts : delivery.parts = delivery.heading.filter (fun part => decide (part ≠ [])) ++
      ((if delivery.bodyText = [] then [] else [delivery.bodyText]) ++ [replyHint]) := by
    rw [Delivery.parts, List.filter_append, filter_closing replyHint_ne_nil]
  have some : delivery.parts ≠ [] := by
    rw [parts]
    exact List.append_ne_nil_of_right_ne_nil _ (List.append_ne_nil_of_right_ne_nil _
      (List.cons_ne_nil _ _))
  have single : ∀ part ∈ delivery.heading.filter (fun part => decide (part ≠ [])),
      newline ∉ part := fun part member =>
    heading_oneLine oneLine part (List.mem_filter.mp member).1
  rw [Delivery.message, lines_joinLines some, parts, List.flatMap_append, flatMap_closing,
    flatMap_lines_oneLine single, Delivery.shownLines]

/-- Whatever is sent, and whatever an operator types in between, a terminal reads each delivery
as one paste and Enter, with no control in the paste but tab and line feed. Where the names it
carries are of one line, the paste is the heading line by line, then the body, then the hint,
so that no subject adds a line and nothing in a body comes before the heading. -/
theorem deliveries_read_as_pastes (written : List Written) :
    keys (written.flatMap Written.text) = written.flatMap Written.keys ∧
      ∀ delivery : Delivery,
        (∀ c ∈ inertForTerminal delivery.message, isTerminalControl c = false) ∧
          (delivery.OneLine → lines (inertForTerminal delivery.message) =
            delivery.shownLines.map inertForTerminal) := by
  refine ⟨keysWith_written written _ (Nat.le_refl _), ?_⟩
  intro delivery
  refine ⟨fun _ member => inert_not_control member, ?_⟩
  intro oneLine
  rw [lines_inert, message_lines oneLine]

end AifyComms.ConsolePaste
