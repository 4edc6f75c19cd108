import AifyComms.DispatchBuffer
import Mathlib.Algebra.BigOperators.Group.List.Basic
import Mathlib.Algebra.Ring.Nat

/-!
What the readers of a merged buffer can be made to see. Every line of a buffer
is the service's own or a line that a send's texts bring in: the further lines
of its sender, type and priority, and its body as it is shown. Both readers
find what the service wrote plus what those lines say, so the buffer is read
back as it was built exactly when no such line passes for structure.
-/

namespace AifyComms.DispatchBufferForgery
open PyText TextLines DispatchBuffer
open SendNonce (dedupePreserve)

/-! ### One-line texts -/

theorem newline_not_mem_of_tokens {text : Text} (solid : ∀ c ∈ text, isSpace c = false) :
    newline ∉ text := by
  intro inside
  exact absurd (solid newline inside) (by decide)

theorem mem_of_mem_rstrip {c : Char} {text : Text} (inside : c ∈ rstrip text) : c ∈ text := by
  have dropped := List.mem_reverse.mp inside
  exact List.mem_reverse.mp ((List.dropWhile_sublist _).subset dropped)

theorem mem_of_mem_stripText {c : Char} {text : Text} (inside : c ∈ stripText text) : c ∈ text :=
  (List.dropWhile_sublist _).subset (mem_of_mem_rstrip inside)

theorem newline_not_mem_clipText {text : Text} (oneLine : newline ∉ text) (limit : Nat) :
    newline ∉ clipText text limit := by
  have stripped : newline ∉ stripText text := fun inside => oneLine (mem_of_mem_stripText inside)
  simp only [clipText]
  split
  · exact stripped
  · simp only [List.mem_append, List.mem_singleton, not_or]
    refine ⟨fun inside => stripped (List.mem_of_mem_take (mem_of_mem_rstrip inside)), by decide⟩

theorem newline_not_mem_collapseControls (inRun : Bool) (text : Text) :
    newline ∉ collapseControls inRun text := by
  induction text generalizing inRun with
  | nil => simp [collapseControls]
  | cons c text ih =>
      have space : newline ≠ ' ' := by decide
      simp only [collapseControls]
      split
      · split
        · exact ih true
        · simp [ih true, space]
      · rename_i shown
        have other : newline ≠ c := by
          rintro rfl
          exact shown (by decide)
        simp [ih false, other]

theorem newline_not_mem_quoteUntrustedSubject (subject : Text) (limit : Nat) :
    newline ∉ quoteUntrustedSubject subject limit := by
  have collapsed : newline ∉ stripText (collapseControls false subject) := fun inside =>
    newline_not_mem_collapseControls false subject (mem_of_mem_stripText inside)
  have clipped := newline_not_mem_clipText collapsed limit
  have shown : newline ∉ orElse (clipText (stripText (collapseControls false subject)) limit)
      "(no subject)".toList := by
    simp only [orElse]
    split
    · decide
    · exact clipped
  simp only [quoteUntrustedSubject, List.cons_append, List.mem_cons, List.mem_append,
    List.mem_map, List.not_mem_nil, or_false, not_or]
  refine ⟨by decide, ?_, by decide⟩
  rintro ⟨c, inside, mapped⟩
  split at mapped
  · exact absurd mapped (by decide)
  · exact shown (mapped ▸ inside)

/-! ### The lines of one item -/

/-- The lines that the sender, the type and the priority bring in, above the item's id. -/
def fieldLines (send : Send) : List Text :=
  (lines (orElse send.fromAgent "unknown".toList)).tail ++
    (lines (orElse send.messageType "request".toList)).tail ++
    (lines (orElse send.priority "normal".toList)).tail

/-- The lines that the reply link and the body bring in. -/
def bodyLines (send : Send) : List Text :=
  if send.messageId = [] then
    (lines send.inReplyTo).tail ++ lines (stripText (neutraliseBufferMarkers send.body))
  else lines (bodyPreview send)

def broughtLines (send : Send) : List Text := fieldLines send ++ bodyLines send

section Item
variable {Found : Type} {read : Text → List Found} {opener : List Found}

/-- A reader of structural lines: it finds nothing in a line that opens as
neither marker does, and the same in every item's own marker. -/
structure Structural (read : Text → List Found) (opener : List Found) : Prop where
  silent : ∀ line, ¬ itemOpen <+: line → ¬ messageIdLabel <+: line → read line = []
  marked : ∀ index, read (itemMarker index) = opener

/-- What a reader finds in one item. -/
def itemFinds (read : Text → List Found) (opener : List Found) (send : Send) : List Found :=
  opener ++ (fieldLines send).flatMap read ++
    (if send.messageId = [] then [] else read (messageIdLabel ++ ' ' :: send.messageId)) ++
    (bodyLines send).flatMap read

theorem not_prefix_of_head {wanted line : Text} {c d : Char} (wants : wanted.head? = some c)
    (has : line.head? = some d) (other : c ≠ d) : ¬ wanted <+: line := by
  rintro ⟨rest, rfl⟩
  cases wanted with
  | nil => simp at wants
  | cons e wanted =>
      simp only [List.head?_cons, Option.some.injEq, List.cons_append] at wants has
      exact other (wants.symm.trans has)

theorem Structural.silent_head (structural : Structural read opener) {line : Text} {c : Char}
    (has : line.head? = some c) (noItem : c ≠ '=') (noId : c ≠ 'M') : read line = [] :=
  structural.silent line (not_prefix_of_head rfl has (Ne.symm noItem))
    (not_prefix_of_head rfl has (Ne.symm noId))

theorem Structural.empty (structural : Structural read opener) : read [] = [] :=
  structural.silent [] (by decide) (by decide)

/-- A field is read below its first line only. -/
theorem Structural.field (structural : Structural read opener) {c : Char} {label : Text}
    (starts : label.head? = some c) (oneLine : newline ∉ label) (noItem : c ≠ '=') (noId : c ≠ 'M')
    (text : Text) : scan read (label ++ text) = (lines text).tail.flatMap read := by
  refine scan_label read oneLine (fun _ => ?_) text
  exact structural.silent_head (by simp [List.head?_append, starts]) noItem noId

theorem Structural.line (structural : Structural read opener) {c : Char} {line : Text}
    (starts : line.head? = some c) (oneLine : newline ∉ line) (noItem : c ≠ '=')
    (noId : c ≠ 'M') : scan read line = [] := by
  rw [scan_single read oneLine]
  exact structural.silent_head starts noItem noId

theorem Structural.labelled (structural : Structural read opener) {c : Char} {label text : Text}
    (starts : label.head? = some c) (oneLabel : newline ∉ label) (oneLine : newline ∉ text)
    (noItem : c ≠ '=') (noId : c ≠ 'M') : scan read (label ++ text) = [] := by
  rw [structural.field starts oneLabel noItem noId, lines_single oneLine]
  rfl

theorem solid_clipText {text : Text} {limit : Nat} (some : clipText text limit ≠ []) :
    Solid (clipText text limit) := by
  simp only [clipText] at some ⊢
  split at some
  · rename_i short
    rw [if_pos short]
    exact solid_rstrip some
  · rename_i long
    rw [if_neg long]
    exact Solid.append (by decide) _

theorem fullTextClose_eq : fullTextClose =
    "\") — a dispatched message is already marked read, so a plain comms_inbox ".toList ++
      "will NOT list it.".toList := String.toList_append

theorem solid_fullTextClose : Solid fullTextClose :=
  fullTextClose_eq ▸ Solid.append (of_chars (p := Solid) (by decide)) _

theorem fullTextClose_oneLine : newline ∉ fullTextClose := by
  rw [fullTextClose_eq, List.mem_append, not_or]
  exact ⟨of_chars (p := fun text => newline ∉ text) (by decide),
    of_chars (p := fun text => newline ∉ text) (by decide)⟩

/-- An item ends in a solid line, but for the body of a send without a message
when it is empty. -/
theorem itemTail_ends (send : Send) :
    ∃ front last, Solid last ∧
      (itemTail send = front ++ [last] ∨ itemTail send = front ++ [last] ++ [[]]) := by
  have label : Solid "Body:".toList := by decide
  simp only [itemTail]
  split
  · generalize (if send.inReplyTo = [] then [] else [_]) = reply
    by_cases none : stripText (neutraliseBufferMarkers send.body) = []
    · exact ⟨reply, _, label, .inr (by simp [none])⟩
    · exact ⟨reply ++ ["Body:".toList], _, solid_rstrip none, .inl (by simp only [List.append_assoc]; rfl)⟩
  · split
    · exact ⟨[_], _, (solid_fullTextClose.append _).append _, .inl rfl⟩
    · rename_i shown
      exact ⟨[_, _, _], _, solid_clipText shown, .inl rfl⟩

theorem itemHead_eq (index : Nat) (send : Send) :
    ∃ more, itemHead index send = itemMarker index :: more := ⟨_, rfl⟩

theorem joinLines_opens (index : Nat) (send : Send) (rest : List Text) :
    ∃ text, joinLines (itemHead index send ++ rest) = '=' :: text := by
  obtain ⟨more, head⟩ := itemHead_eq index send
  rw [head, List.cons_append]
  by_cases none : more ++ rest = []
  · rw [none]
    exact ⟨_, rfl⟩
  · rw [joinLines_cons none]
    exact ⟨_, rfl⟩

/-- The strip of a rendered item takes off at most one empty last line. -/
theorem Structural.rendered (structural : Structural read opener) (index : Nat) (send : Send) :
    scan read (renderPendingDispatchItem index send) =
      (itemHead index send ++ itemTail send).flatMap (scan read) := by
  obtain ⟨text, opens⟩ := joinLines_opens index send (itemTail send)
  have stripped : renderPendingDispatchItem index send =
      rstrip (joinLines (itemHead index send ++ itemTail send)) := by
    rw [renderPendingDispatchItem, opens, stripText_cons (by decide)]
  obtain ⟨front, last, solid, whole | short⟩ := itemTail_ends send
  · rw [stripped, whole, ← List.append_assoc, (solid.joinLines _).2,
      scan_joinLines read (by simp)]
  · have blank : rstrip [newline] = [] := by decide
    rw [stripped, short, ← List.append_assoc, ← List.append_assoc,
      joinLines_append (by simp) (List.cons_ne_nil [] []), joinLines_singleton, rstrip_append,
      if_pos blank, (solid.joinLines _).2, scan_joinLines read (by simp)]
    simp [scan, structural.empty]

theorem newline_not_mem_itemMarker (index : Nat) : newline ∉ itemMarker index := by
  have digits : newline ∉ Nat.toDigits 10 index := by
    intro inside
    exact absurd (Nat.isDigit_of_mem_toDigits (by decide) (by decide) inside) (by decide)
  have opens : newline ∉ itemOpen := by decide
  have closes : newline ∉ itemClose := by decide
  simp [itemMarker, digits, opens, closes]

theorem Structural.head (structural : Structural read opener) (index : Nat) (send : Send) :
    (itemHead index send).flatMap (scan read) = opener ++ (fieldLines send).flatMap read := by
  have marker : scan read (itemMarker index) = opener := by
    rw [scan_single read (newline_not_mem_itemMarker index), structural.marked]
  have subject : scan read ("Subject: ".toList ++
      quoteUntrustedSubject (neutraliseBufferMarkers send.subject) 240) = [] :=
    structural.labelled (c := 'S') (by decide) (by decide)
      (newline_not_mem_quoteUntrustedSubject _ _) (by decide) (by decide)
  have time : (if send.requestedAt = [] then [] else ["At: ".toList ++ send.requestedAt]).flatMap
      (scan read) = [] := by
    split
    · rfl
    · rw [List.flatMap_singleton]
      exact structural.labelled (c := 'A') (by decide) (by decide) send.clockStamp
        (by decide) (by decide)
  have sender (text : Text) : scan read ("From: ".toList ++ text) = (lines text).tail.flatMap read :=
    structural.field (c := 'F') (by decide) (by decide) (by decide) (by decide) text
  have kind (text : Text) : scan read ("Type: ".toList ++ text) = (lines text).tail.flatMap read :=
    structural.field (c := 'T') (by decide) (by decide) (by decide) (by decide) text
  have urgency (text : Text) :
      scan read ("Priority: ".toList ++ text) = (lines text).tail.flatMap read :=
    structural.field (c := 'P') (by decide) (by decide) (by decide) (by decide) text
  rw [itemHead, List.flatMap_append, time]
  simp only [List.flatMap_cons, List.flatMap_nil, marker, sender, kind, subject, urgency,
    fieldLines, List.flatMap_append, List.append_nil, List.nil_append, List.append_assoc]

theorem Structural.tail (structural : Structural read opener) (send : Send) :
    (itemTail send).flatMap (scan read) =
      (if send.messageId = [] then [] else read (messageIdLabel ++ ' ' :: send.messageId)) ++
        (bodyLines send).flatMap read := by
  have noNewline := newline_not_mem_of_tokens send.mintedId
  by_cases backed : send.messageId = []
  · have label : scan read "Body:".toList = [] :=
      structural.line (c := 'B') (by decide) (by decide) (by decide) (by decide)
    have reply : (if send.inReplyTo = [] then []
        else ["InReplyTo: ".toList ++ send.inReplyTo]).flatMap (scan read) =
          (lines send.inReplyTo).tail.flatMap read := by
      split
      · rename_i none
        simp [none]
      · rw [List.flatMap_singleton]
        exact structural.field (c := 'I') (by decide) (by decide) (by decide) (by decide) _
    rw [itemTail, if_pos backed, if_pos backed, List.flatMap_append, reply, bodyLines,
      if_pos backed, List.flatMap_append]
    simp only [List.flatMap_cons, List.flatMap_nil, label, List.nil_append, List.append_nil]
    rfl
  · have named : scan read (messageIdLabel ++ ' ' :: send.messageId) =
        read (messageIdLabel ++ ' ' :: send.messageId) := by
      have label : newline ∉ messageIdLabel := by decide
      have space : newline ≠ ' ' := by decide
      exact scan_single read (by simp [label, space, noNewline])
    have close := fullTextClose_oneLine
    have whole : scan read (fullTextOpen ++ (send.messageId ++ fullTextClose)) = [] :=
      structural.labelled (c := 'F') (of_chars (p := fun text => text.head? = some 'F') rfl)
        (of_chars (p := fun text => newline ∉ text) (by decide)) (by simp [noNewline, close])
        (by decide) (by decide)
    have label : scan read "Body preview:".toList = [] :=
      structural.line (c := 'B') (by decide) (by decide) (by decide) (by decide)
    have preview : (if bodyPreview send = [] then []
        else ["Body preview:".toList, bodyPreview send]).flatMap (scan read) =
          (lines (bodyPreview send)).flatMap read := by
      split
      · rename_i none
        simp [none, structural.empty]
      · simp only [List.flatMap_cons, List.flatMap_nil, label, List.nil_append, List.append_nil]
        rfl
    rw [itemTail, if_neg backed, if_neg backed, List.flatMap_append, preview, bodyLines,
      if_neg backed]
    simp only [List.flatMap_cons, List.flatMap_nil, named, whole, List.append_nil]

/-- What a reader finds in a rendered item. -/
theorem Structural.item (structural : Structural read opener) (index : Nat) (send : Send) :
    scan read (renderPendingDispatchItem index send) = itemFinds read opener send := by
  rw [structural.rendered, List.flatMap_append, structural.head, structural.tail, itemFinds]
  simp only [List.append_assoc]

end Item

/-! ### The whole buffer -/

/-- No stored body of a single send passes for a buffer. -/
theorem not_header_neutralised (text : Text) :
    ¬ mergedDispatchHeader <+: neutraliseBufferMarkers text := by
  intro found
  have oneLine : newline ∉ mergedDispatchHeader :=
    of_chars (p := fun text => newline ∉ text) (by decide)
  have unquoted := prefix_of_mapLines oneLine (fun line opens => ?_) _ found
  · have unmarked := prefix_of_mapLines oneLine (fun line opens => ?_) _ unquoted
    · exact not_prefix_replaceAll (c := '(') (by decide) (by decide) (by decide) _ unmarked
    · split at opens
      · exact prefix_of_replaceAll (c := '-') (by decide) (by decide) line opens
      · exact opens
  · split at opens
    · exact absurd opens (not_prefix_of_head (c := '[') (d := '>') (by decide)
        rfl (by decide))
    · exact opens

section Buffer
variable {Found : Type} {read : Text → List Found} {opener : List Found}

/-- A buffer of these items, as a reader sees it: everything above the footer. -/
def BufferOf (read : Text → List Found) (opener : List Found) (items : List Send) (body : Text) :
    Prop :=
  ∃ front, body = front ++ newline :: mergedDispatchFooter ∧ mergedDispatchHeader <+: front ∧
    scan read front = items.flatMap (itemFinds read opener)

theorem BufferOf.header {items : List Send} {body : Text}
    (buffer : BufferOf read opener items body) : mergedDispatchHeader <+: body := by
  obtain ⟨front, rfl, header, _⟩ := buffer
  exact header.trans (List.prefix_append _ _)

theorem BufferOf.scan {items : List Send} {body : Text} (structural : Structural read opener)
    (buffer : BufferOf read opener items body) :
    scan read body = items.flatMap (itemFinds read opener) := by
  obtain ⟨front, rfl, _, found⟩ := buffer
  have footer : TextLines.scan read mergedDispatchFooter = [] :=
    structural.line (c := '[') (of_chars (p := fun text => text.head? = some '[') rfl)
      (of_chars (p := fun text => newline ∉ text) (by decide)) (by decide) (by decide)
  rw [scan_newline, found, footer, List.append_nil]

theorem notice_eq : bufferIntro.getD 1 [] =
    "Additional dispatches arrived while another run was active (cap: ".toList ++
      (toString dispatchBufferCap).toList ++ " items).".toList := by
  change ("Additional dispatches arrived while another run was active (cap: " ++
    toString dispatchBufferCap ++ " items).").toList = _
  rw [String.toList_append, String.toList_append]

theorem advice_eq : bufferIntro.getD 2 [] =
    "Process the buffered items in order. For message-backed items, use comms_inbox(...) ".toList ++
      "if you need the full original text.".toList := String.toList_append

theorem scan_bufferIntro (structural : Structural read opener) :
    bufferIntro.flatMap (scan read) = [] := by
  have header : scan read mergedDispatchHeader = [] :=
    structural.line (c := '[') (of_chars (p := fun text => text.head? = some '[') rfl)
      (of_chars (p := fun text => newline ∉ text) (by decide)) (by decide) (by decide)
  have notice : scan read (bufferIntro.getD 1 []) = [] := by
    rw [notice_eq, List.append_assoc]
    refine structural.labelled (c := 'A') (of_chars (p := fun text => text.head? = some 'A') rfl)
      (of_chars (p := fun text => newline ∉ text) (by decide)) ?_ (by decide) (by decide)
    rw [List.mem_append, not_or]
    exact ⟨by decide, of_chars (p := fun text => newline ∉ text) (by decide)⟩
  have advice : scan read (bufferIntro.getD 2 []) = [] := by
    rw [advice_eq]
    exact structural.labelled (c := 'P') (of_chars (p := fun text => text.head? = some 'P') rfl)
      (of_chars (p := fun text => newline ∉ text) (by decide))
      (of_chars (p := fun text => newline ∉ text) (by decide)) (by decide) (by decide)
  have blank : scan read [] = [] := by simp [TextLines.scan, structural.empty]
  have parts : bufferIntro = [mergedDispatchHeader, bufferIntro.getD 1 [], bufferIntro.getD 2 [], []] := rfl
  rw [parts]
  simp only [List.flatMap_cons, List.flatMap_nil, header, notice, advice, blank, List.append_nil]

theorem solid_footer : Solid mergedDispatchFooter := of_chars (p := Solid) (by decide)

theorem bufferIntro_eq : ∃ rest, bufferIntro = mergedDispatchHeader :: rest := ⟨_, rfl⟩

theorem header_joinLines (items : List Text) :
    mergedDispatchHeader <+: joinLines (bufferIntro ++ items) := by
  obtain ⟨rest, intro⟩ := bufferIntro_eq
  rw [intro]
  exact prefix_joinLines _

/-- The first merge builds the buffer out of the stored run and the second send. -/
theorem append_opened (structural : Structural read opener) (first send : Send) :
    ∃ body, appendPendingDispatchBody (openRun first) send = some (body, 2) ∧
      BufferOf read opener [(openRun first).opening, send] body := by
  have single : mergedDispatchHeader.isPrefixOf (openRun first).body = false := by
    rw [← Bool.not_eq_true, List.isPrefixOf_iff_prefix]
    exact not_header_neutralised first.body
  simp only [appendPendingDispatchBody, single, Bool.false_eq_true, if_false]
  generalize shownFirst : renderPendingDispatchItem 1 _ = firstItem
  generalize shownSecond : renderPendingDispatchItem 2 send = secondItem
  have blank : scan read [] = [] := by simp [TextLines.scan, structural.empty]
  have above : joinLines (bufferIntro ++ [firstItem, [], secondItem, mergedDispatchFooter]) =
      joinLines (bufferIntro ++ [firstItem, [], secondItem]) ++ newline :: mergedDispatchFooter := by
    rw [← joinLines_singleton mergedDispatchFooter, ← joinLines_append (by simp) (by simp),
      joinLines_singleton]
    simp
  have opens : ∃ text, joinLines (bufferIntro ++ [firstItem, [], secondItem,
      mergedDispatchFooter]) = '[' :: text := by
    obtain ⟨rest, header⟩ := header_joinLines [firstItem, [], secondItem, mergedDispatchFooter]
    exact ⟨_, header.symm⟩
  have whole : stripText (joinLines (bufferIntro ++ [firstItem, [], secondItem,
      mergedDispatchFooter])) =
      joinLines (bufferIntro ++ [firstItem, [], secondItem, mergedDispatchFooter]) := by
    have ends := solid_footer.joinLines (bufferIntro ++ [firstItem, [], secondItem])
    simp only [List.append_assoc, List.cons_append, List.nil_append] at ends
    obtain ⟨text, starts⟩ := opens
    rw [starts, stripText_cons (by decide), ← starts, ends.2]
  refine ⟨_, rfl, joinLines (bufferIntro ++ [firstItem, [], secondItem]), ?_, header_joinLines _, ?_⟩
  · rw [whole, above]
  · rw [scan_joinLines read (by simp), List.flatMap_append, scan_bufferIntro structural]
    simp only [List.flatMap_cons, List.flatMap_nil, blank, List.nil_append, List.append_nil,
      ← shownFirst, ← shownSecond, structural.item]
    rfl

/-- A later merge puts its item between the buffer and the footer. -/
theorem append_buffer (structural : Structural read opener) {items : List Send} {run : QueuedRun}
    (buffer : BufferOf read opener items run.body) {send : Send} {merged : Text × Nat}
    (appended : appendPendingDispatchBody run send = some merged) :
    BufferOf read opener (items ++ [send]) merged.1 := by
  have header : mergedDispatchHeader.isPrefixOf run.body = true := by
    rw [List.isPrefixOf_iff_prefix]
    exact buffer.header
  obtain ⟨front, body, opens, found⟩ := buffer
  have cut : beforeLast mergedDispatchFooter run.body = some (front ++ [newline]) := by
    rw [body, List.append_cons]
    exact beforeLast_append (by decide) _
  simp only [appendPendingDispatchBody, header, if_true, cut, Option.map_some] at appended
  split at appended
  · exact absurd appended (by simp)
  · rw [← Option.some.inj appended]
    generalize shown : renderPendingDispatchItem _ send = item
    have blank : scan read [] = [] := by simp [TextLines.scan, structural.empty]
    refine ⟨front ++ newline :: newline :: newline :: item, ?_, opens.trans (List.prefix_append _ _), ?_⟩
    · simp [body]
    · rw [scan_newline, found, ← List.nil_append (newline :: newline :: item), scan_newline,
        ← List.nil_append (newline :: item), scan_newline, blank, ← shown, structural.item]
      simp

theorem foldlM_buffer (structural : Structural read opener) {items later : List Send}
    {run final : QueuedRun} (buffer : BufferOf read opener items run.body)
    (merged : later.foldlM mergeSend run = some final) :
    final.opening = run.opening ∧ BufferOf read opener (items ++ later) final.body := by
  induction later generalizing items run with
  | nil =>
      cases merged
      exact ⟨rfl, by simpa using buffer⟩
  | cons send later ih =>
      rw [List.foldlM_cons] at merged
      obtain ⟨next, step, rest⟩ := Option.bind_eq_some_iff.mp merged
      obtain ⟨appended, written, rfl⟩ := Option.map_eq_some_iff.mp step
      obtain ⟨opening, grown⟩ := ih (append_buffer structural buffer written) rest
      exact ⟨opening, by simpa using grown⟩

/-- **What a merged run reads back**: the finds of its items, in the order they were merged. -/
theorem mergeSends_buffer (structural : Structural read opener) {first : Send}
    {later : List Send} (some : later ≠ []) {run : QueuedRun}
    (merged : mergeSends first later = .some run) :
    run.opening = (openRun first).opening ∧
      BufferOf read opener ((openRun first).opening :: later) run.body := by
  cases later with
  | nil => exact absurd rfl some
  | cons second later =>
      obtain ⟨body, appended, buffer⟩ := append_opened structural first second
      have step : mergeSend (openRun first) second = .some { openRun first with body := body } := by
        rw [mergeSend, appended]
        rfl
      rw [mergeSends, List.foldlM_cons, step] at merged
      exact foldlM_buffer structural buffer merged

end Buffer

/-! ### The two readers -/

def markerRead (line : Text) : List Unit := if isItemMarker line then [()] else []

def idRead (line : Text) : List Text := (messageIdField line).toList

theorem isDecimal_of_isDigit {c : Char} (digit : c.isDigit = true) : isDecimal c = true := by
  have range : 48 ≤ c.toNat ∧ c.toNat ≤ 57 := by
    simpa [Char.isDigit, UInt32.le_iff_toNat_le] using digit
  simp only [isDecimal, decimalZeros, List.any_cons, Bool.or_eq_true, Bool.and_eq_true,
    decide_eq_true_eq]
  exact .inl ⟨range.1, by omega⟩

theorem itemMarker_isItemMarker (index : Nat) : isItemMarker (itemMarker index) = true := by
  have digits : ∀ c ∈ (toString index).toList, isDecimal c = true := by
    intro c inside
    have digit : c ∈ Nat.toDigits 10 index := by simpa using inside
    exact isDecimal_of_isDigit (Nat.isDigit_of_mem_toDigits (by decide) (by decide) digit)
  have taken : ((toString index).toList ++ itemClose).takeWhile isDecimal =
      (toString index).toList := by
    rw [List.takeWhile_append_of_pos digits]
    simp [show itemClose.takeWhile isDecimal = [] by decide]
  have left : ((toString index).toList ++ itemClose).dropWhile isDecimal = itemClose := by
    rw [List.dropWhile_append_of_pos digits]
    decide
  have after : (itemMarker index).drop itemOpen.length =
      (toString index).toList ++ itemClose := by
    rw [itemMarker, List.append_assoc, List.drop_left]
  have opens : itemOpen.isPrefixOf (itemMarker index) = true := by
    rw [List.isPrefixOf_iff_prefix, itemMarker, List.append_assoc]
    exact List.prefix_append _ _
  rw [isItemMarker, after, taken, left, opens]
  simp

theorem markerRead_silent {line : Text} (noItem : ¬ itemOpen <+: line) : markerRead line = [] := by
  have missing : itemOpen.isPrefixOf line = false := by
    rw [← Bool.not_eq_true, List.isPrefixOf_iff_prefix]
    exact noItem
  simp [markerRead, isItemMarker, missing]

theorem markerRead_structural : Structural markerRead [()] where
  silent line noItem _ := markerRead_silent noItem
  marked index := by simp [markerRead, itemMarker_isItemMarker]

theorem idRead_silent {line : Text} (noId : ¬ messageIdLabel <+: line) : idRead line = [] := by
  have missing : messageIdLabel.isPrefixOf line = false := by
    rw [← Bool.not_eq_true, List.isPrefixOf_iff_prefix]
    exact noId
  simp [idRead, messageIdField, missing]

theorem idRead_structural : Structural idRead [] where
  silent line _ noId := idRead_silent noId
  marked index := idRead_silent (not_prefix_of_head (c := 'M') (d := '=') (by decide) rfl (by decide))

theorem idRead_own {id : Text} (solid : ∀ c ∈ id, isSpace c = false) (some : id ≠ []) :
    idRead (messageIdLabel ++ ' ' :: id) = [id] := by
  have nonblank : id.dropWhile isBlank = id := by
    cases id with
    | nil => rfl
    | cons c id =>
        have notSpace := solid c (by simp)
        have : isBlank c = false := by
          simp only [isBlank, Bool.or_eq_false_iff, beq_eq_false_iff_ne]
          exact ⟨by rintro rfl; exact absurd notSpace (by decide),
            by rintro rfl; exact absurd notSpace (by decide)⟩
        simp [this]
  have after : ((messageIdLabel ++ ' ' :: id).drop messageIdLabel.length).dropWhile isBlank = id := by
    rw [List.drop_left]
    simpa [isBlank] using nonblank
  have taken : id.takeWhile (!isSpace ·) = id := by
    rw [List.takeWhile_eq_self_iff]
    simpa using solid
  have left : id.dropWhile (!isSpace ·) = [] := by
    rw [List.dropWhile_eq_nil_iff]
    simpa using solid
  have opens : messageIdLabel.isPrefixOf (messageIdLabel ++ ' ' :: id) = true := by
    rw [List.isPrefixOf_iff_prefix]
    exact List.prefix_append _ _
  simp only [idRead, messageIdField]
  rw [after, taken, left, opens]
  simp [some]

/-! ### Reading a merged run back -/

/-- The item markers that a send's own texts bring in. -/
def broughtMarkers (send : Send) : Nat := (broughtLines send).countP isItemMarker

/-- The message ids that a send's own texts name as the service would. -/
def broughtIds (send : Send) : List Text := (broughtLines send).flatMap idRead

theorem countP_eq_length (parts : List Text) :
    parts.countP isItemMarker = (parts.flatMap markerRead).length := by
  induction parts with
  | nil => rfl
  | cons part parts ih =>
      by_cases marked : isItemMarker part = true
      · simp [markerRead, marked, ih, Nat.add_comm]
      · simp [markerRead, marked, ih]

theorem itemFinds_markers (send : Send) :
    (itemFinds markerRead [()] send).length = 1 + broughtMarkers send := by
  have named : markerRead (messageIdLabel ++ ' ' :: send.messageId) = [] :=
    markerRead_silent (not_prefix_of_head (c := '=') (d := 'M') (by decide) rfl (by decide))
  simp only [itemFinds, named, ite_self, List.append_nil, List.length_append, broughtMarkers,
    broughtLines, List.countP_append, countP_eq_length, List.length_singleton]
  omega

theorem itemFinds_ids (send : Send) :
    itemFinds idRead [] send =
      (fieldLines send).flatMap idRead ++
        (if send.messageId = [] then [] else [send.messageId]) ++
        (bodyLines send).flatMap idRead := by
  by_cases none : send.messageId = []
  · simp [itemFinds, none]
  · simp [itemFinds, none, idRead_own send.mintedId none]

variable {first : Send} {later : List Send} {run : QueuedRun}

/-- The count is the number of sends plus every marker they bring in. -/
theorem pendingDispatchCount_merged (some : later ≠ [])
    (merged : mergeSends first later = .some run) :
    pendingDispatchCount run.body =
      (first :: later).length +
        (((openRun first).opening :: later).map broughtMarkers).sum := by
  obtain ⟨_, buffer⟩ := mergeSends_buffer markerRead_structural some merged
  have header : mergedDispatchHeader.isPrefixOf run.body = true := by
    rw [List.isPrefixOf_iff_prefix]
    exact buffer.header
  have found := buffer.scan markerRead_structural
  rw [scan] at found
  rw [pendingDispatchCount, if_pos header, countP_eq_length, found]
  generalize (openRun first).opening = stored
  have total (items : List Send) : (items.flatMap (itemFinds markerRead [()])).length =
      items.length + (items.map broughtMarkers).sum := by
    induction items with
    | nil => rfl
    | cons send items ih =>
        simp only [List.flatMap_cons, List.length_append, itemFinds_markers, ih, List.length_cons,
          List.map_cons, List.sum_cons]
        omega
  rw [total]
  rfl

theorem dispatchSourceMessageIds_merged (some : later ≠ [])
    (merged : mergeSends first later = .some run) :
    dispatchSourceMessageIds run = dedupePreserve ((stripText first.messageId ::
      ((openRun first).opening :: later).flatMap (itemFinds idRead [])).map String.ofList) := by
  obtain ⟨opening, buffer⟩ := mergeSends_buffer idRead_structural some merged
  have header : mergedDispatchHeader.isPrefixOf run.body = true := by
    rw [List.isPrefixOf_iff_prefix]
    exact buffer.header
  have found := buffer.scan idRead_structural
  have read : (lines run.body).filterMap messageIdField = scan idRead run.body :=
    List.filterMap_eq_flatMap_toList _ _
  rw [dispatchSourceMessageIds, if_pos header, read, found, opening]
  rfl

/-! ### First occurrences -/

def keepFirst (kept : List String) (value : String) : List String :=
  if value = "" ∨ value ∈ kept then kept else kept ++ [value]

theorem dedupePreserve_eq (values : List String) :
    dedupePreserve values = values.foldl keepFirst [] := rfl

theorem mem_keepFirst {kept : List String} {value other : String} :
    other ∈ keepFirst kept value ↔ other ∈ kept ∨ other = value ∧ value ≠ "" := by
  simp only [keepFirst]
  split
  · rename_i known
    constructor
    · exact .inl
    · rintro (here | ⟨rfl, some⟩)
      · exact here
      · exact known.resolve_left some
  · rename_i unknown
    simp only [not_or] at unknown
    simp [unknown.1]

theorem mem_foldl_keepFirst {values kept : List String} {other : String} :
    other ∈ values.foldl keepFirst kept ↔ other ∈ kept ∨ other ∈ values ∧ other ≠ "" := by
  induction values generalizing kept with
  | nil => simp
  | cons value values ih =>
      rw [List.foldl_cons, ih, mem_keepFirst]
      constructor
      · rintro ((here | ⟨rfl, some⟩) | ⟨later, some⟩)
        · exact .inl here
        · exact .inr ⟨by simp, some⟩
        · exact .inr ⟨by simp [later], some⟩
      · rintro (here | ⟨inside, some⟩)
        · exact .inl (.inl here)
        · obtain rfl | later := List.mem_cons.mp inside
          · exact .inl (.inr ⟨rfl, some⟩)
          · exact .inr ⟨later, some⟩

theorem foldl_keepFirst_known {values kept : List String}
    (known : ∀ value ∈ values, value = "" ∨ value ∈ kept) : values.foldl keepFirst kept = kept := by
  induction values with
  | nil => rfl
  | cons value values ih =>
      have first : keepFirst kept value = kept := if_pos (known value (by simp))
      rw [List.foldl_cons, first]
      exact ih fun other inside => known other (by simp [inside])

/-- Values that are all known but one leave what that one alone leaves. -/
theorem foldl_keepFirst_new {values kept : List String} {new : String}
    (known : ∀ value ∈ values, value = "" ∨ value ∈ kept ∨ value = new)
    (there : new = "" ∨ new ∈ values) : values.foldl keepFirst kept = keepFirst kept new := by
  induction values with
  | nil =>
      have empty : new = "" := by simpa using there
      simp [keepFirst, empty]
  | cons value values ih =>
      rw [List.foldl_cons]
      by_cases same : value = new
      · subst same
        refine foldl_keepFirst_known fun other inside => ?_
        obtain empty | here | rfl := known other (by simp [inside])
        · exact .inl empty
        · exact .inr (mem_keepFirst.2 (.inl here))
        · by_cases empty : other = ""
          · exact .inl empty
          · exact .inr (mem_keepFirst.2 (.inr ⟨rfl, empty⟩))
      · have first : keepFirst kept value = kept := by
          obtain empty | here | new := known value (by simp)
          · exact if_pos (.inl empty)
          · exact if_pos (.inr here)
          · exact absurd new same
        rw [first]
        refine ih (fun other inside => known other (by simp [inside])) (there.imp_right ?_)
        intro inside
        exact (List.mem_cons.mp inside).resolve_left (Ne.symm same)

/-! ### Unforgeability -/

def idOf (send : Send) : String := String.ofList send.messageId

/-- The items of a merged run as they are rendered: the first from its stored row. -/
def mergedItems (first : Send) (later : List Send) : List Send := (openRun first).opening :: later

/-- The buffer is read back as it was built. -/
def ReadsBack (sends : List Send) (run : QueuedRun) : Prop :=
  pendingDispatchCount run.body = sends.length ∧
    dispatchSourceMessageIds run = dedupePreserve (sends.map idOf)

/-- No line that an item's own texts bring in is an item marker, and each that
names a message names one the buffer already holds when the item joins it. -/
def Unforged (items : List Send) : Prop :=
  ∀ k send, items[k]? = some send → ∀ line ∈ broughtLines send,
    isItemMarker line = false ∧
      ∀ id, messageIdField line = some id →
        ∃ other ∈ items.take (max (k + 1) 2), other.messageId = id

theorem messageIdField_ne_nil {line id : Text} (named : messageIdField line = some id) : id ≠ [] := by
  simp only [messageIdField] at named
  split at named
  · rename_i matched
    simp only [Bool.and_eq_true, Bool.not_eq_true', List.isEmpty_eq_false_iff] at matched
    exact Option.some.inj named ▸ matched.1.2
  · exact absurd named (by simp)

theorem mem_broughtIds {send : Send} {id : Text} :
    id ∈ broughtIds send ↔ ∃ line ∈ broughtLines send, messageIdField line = some id := by
  simp [broughtIds, idRead]

theorem mem_itemIds {send : Send} {id : Text} :
    id ∈ itemFinds idRead [] send ↔
      id ∈ broughtIds send ∨ send.messageId ≠ [] ∧ id = send.messageId := by
  rw [itemFinds_ids, broughtIds, broughtLines, List.flatMap_append]
  by_cases none : send.messageId = []
  · simp [none]
  · simp only [none, if_false, List.mem_append, List.mem_singleton, ne_eq, not_false_eq_true,
      true_and]
    tauto

theorem idOf_eq_empty {send : Send} : idOf send = "" ↔ send.messageId = [] := by
  rw [idOf, String.ofList_eq_empty_iff]

/-- Items that name only known ids leave what their own ids leave. -/
theorem foldl_items {items : List Send} {kept : List String}
    (known : ∀ k send, items[k]? = some send → ∀ id ∈ broughtIds send,
      String.ofList id ∈ kept ∨ String.ofList id ∈ (items.take (k + 1)).map idOf) :
    ((items.flatMap (itemFinds idRead [])).map String.ofList).foldl keepFirst kept =
      (items.map idOf).foldl keepFirst kept := by
  induction items generalizing kept with
  | nil => rfl
  | cons send items ih =>
      have block : ((itemFinds idRead [] send).map String.ofList).foldl keepFirst kept =
          keepFirst kept (idOf send) := by
        refine foldl_keepFirst_new ?_ ?_
        · intro value inside
          obtain ⟨id, found, rfl⟩ := List.mem_map.mp inside
          obtain brought | ⟨_, rfl⟩ := mem_itemIds.1 found
          · obtain here | own := known 0 send rfl id brought
            · exact .inr (.inl here)
            · exact .inr (.inr (by simpa using own))
          · exact .inr (.inr rfl)
        · by_cases none : send.messageId = []
          · exact .inl (idOf_eq_empty.2 none)
          · exact .inr (List.mem_map.mpr ⟨_, mem_itemIds.2 (.inr ⟨none, rfl⟩), rfl⟩)
      rw [List.flatMap_cons, List.map_append, List.foldl_append, block, List.map_cons,
        List.foldl_cons]
      refine ih fun k later at_k id brought => ?_
      obtain here | among := known (k + 1) later at_k id brought
      · exact .inl (mem_keepFirst.2 (.inl here))
      · rw [List.take_succ_cons, List.map_cons] at among
        obtain own | among := List.mem_cons.mp among
        · have some : idOf send ≠ "" := by
            obtain ⟨line, _, named⟩ := mem_broughtIds.1 brought
            rw [← own, ne_eq, String.ofList_eq_empty_iff]
            exact messageIdField_ne_nil named
          exact .inl (mem_keepFirst.2 (.inr ⟨own, some⟩))
        · exact .inr among

theorem stripText_tokens {text : Text} (solid : ∀ c ∈ text, isSpace c = false) :
    stripText text = text := by
  have unpadded : ∀ {part : Text}, (∀ c ∈ part, isSpace c = false) → part.dropWhile isSpace = part := by
    intro part clear
    cases part with
    | nil => rfl
    | cons c part => simp [clear c (by simp)]
  have left : lstrip text = text := unpadded solid
  have right : text.reverse.dropWhile isSpace = text.reverse :=
    unpadded fun c inside => solid c (List.mem_reverse.mp inside)
  rw [stripText, left, rstrip, right, List.reverse_reverse]

theorem mergeSends_prefix {some : List Send} (merged : mergeSends first later = .some run)
    (part : some <+: later) : ∃ mid, mergeSends first some = .some mid := by
  obtain ⟨rest, rfl⟩ := part
  rw [mergeSends, List.foldlM_append] at merged
  obtain ⟨mid, taken, _⟩ := Option.bind_eq_some_iff.mp merged
  exact ⟨mid, taken⟩

theorem Unforged.prefix {items some : List Send} (unforged : Unforged items)
    (part : some <+: items) (two : 2 ≤ some.length) : Unforged some := by
  intro k send at_k line brought
  have inSome : k < some.length := (List.getElem?_eq_some_iff.mp at_k).1
  obtain ⟨rest, rfl⟩ := part
  have inItems : (some ++ rest)[k]? = .some send := by
    rw [List.getElem?_append_left inSome]
    exact at_k
  obtain ⟨noMarker, named⟩ := unforged k send inItems line brought
  refine ⟨noMarker, fun id found => ?_⟩
  have early : (some ++ rest).take (max (k + 1) 2) = some.take (max (k + 1) 2) :=
    List.take_append_of_le_length (by omega)
  rw [← early]
  exact named id found

theorem Unforged.known {items : List Send} (unforged : Unforged items) {k : Nat} {send : Send}
    (at_k : items[k]? = some send) {id : Text} (brought : id ∈ broughtIds send) :
    String.ofList id ≠ "" ∧ String.ofList id ∈ (items.take (max (k + 1) 2)).map idOf := by
  obtain ⟨line, here, named⟩ := mem_broughtIds.1 brought
  obtain ⟨other, among, rfl⟩ := (unforged k send at_k line here).2 id named
  refine ⟨?_, List.mem_map.mpr ⟨other, among, rfl⟩⟩
  rw [ne_eq, String.ofList_eq_empty_iff]
  exact messageIdField_ne_nil named

/-- The first two items join the buffer together, so either may name the other. -/
theorem Unforged.foldl_pair {second : Send} {rest : List Send}
    (unforged : Unforged (mergedItems first (second :: rest))) :
    ((itemFinds idRead [] (openRun first).opening ++ itemFinds idRead [] second).map
      String.ofList).foldl keepFirst (keepFirst [] (idOf first)) =
      keepFirst (keepFirst [] (idOf first)) (idOf second) := by
  have among {value : String} (pair : value = idOf first ∨ value = idOf second) :
      value = "" ∨ value ∈ keepFirst [] (idOf first) ∨ value = idOf second := by
    obtain rfl | rfl := pair
    · by_cases empty : idOf first = ""
      · exact .inl empty
      · exact .inr (.inl (mem_keepFirst.2 (.inr ⟨rfl, empty⟩)))
    · exact .inr (.inr rfl)
  have named {k : Nat} (early : k < 2) {send : Send}
      (at_k : (mergedItems first (second :: rest))[k]? = some send) {id : Text}
      (brought : id ∈ broughtIds send) :
      String.ofList id = idOf first ∨ String.ofList id = idOf second := by
    have two := (unforged.known at_k brought).2
    rw [max_eq_right (by omega)] at two
    simpa [mergedItems, idOf, openRun] using two
  refine foldl_keepFirst_new ?_ ?_
  · intro value inside
    obtain ⟨id, found, rfl⟩ := List.mem_map.mp inside
    obtain found | found := List.mem_append.mp found
    · obtain brought | ⟨_, rfl⟩ := mem_itemIds.1 found
      · exact among (named (k := 0) (by omega) rfl brought)
      · exact among (.inl rfl)
    · obtain brought | ⟨_, rfl⟩ := mem_itemIds.1 found
      · exact among (named (k := 1) (by omega) rfl brought)
      · exact among (.inr rfl)
  · by_cases none : second.messageId = []
    · exact .inl (idOf_eq_empty.2 none)
    · refine .inr (List.mem_map.mpr ⟨second.messageId, List.mem_append.mpr (.inr ?_), rfl⟩)
      exact mem_itemIds.2 (.inr ⟨none, rfl⟩)

theorem Unforged.foldl_ids {second : Send} {rest : List Send}
    (unforged : Unforged (mergedItems first (second :: rest))) :
    ((first.messageId :: (mergedItems first (second :: rest)).flatMap (itemFinds idRead [])).map
      String.ofList).foldl keepFirst [] =
      ((first :: second :: rest).map idOf).foldl keepFirst [] := by
  have pair := unforged.foldl_pair
  simp only [mergedItems, List.flatMap_cons, ← List.append_assoc, List.map_cons, List.map_append,
    List.foldl_cons, List.foldl_append] at pair ⊢
  rw [show String.ofList first.messageId = idOf first from rfl, pair]
  refine foldl_items fun k send at_k id brought => ?_
  have inItems : (mergedItems first (second :: rest))[k + 2]? = some send := by
    simpa [mergedItems] using at_k
  obtain ⟨some, known⟩ := unforged.known inItems brought
  rw [max_eq_left (by omega), mergedItems, List.take_succ_cons, List.take_succ_cons,
    List.map_cons, List.map_cons] at known
  obtain own | known := List.mem_cons.mp known
  · exact .inl (mem_keepFirst.2 (.inl (mem_keepFirst.2 (.inr ⟨own, own ▸ some⟩))))
  · obtain own | known := List.mem_cons.mp known
    · exact .inl (mem_keepFirst.2 (.inr ⟨own, own ▸ some⟩))
    · exact .inr known

/-- A line that names a message names one of the sends merged by then. -/
theorem named_known
    (readsBack : ∀ joined, joined <+: later → joined ≠ [] →
      ∀ mid, mergeSends first joined = .some mid → ReadsBack (first :: joined) mid)
    (some : later ≠ []) (merged : mergeSends first later = .some run) {k : Nat} {send : Send}
    (at_k : (mergedItems first later)[k]? = .some send) {line id : Text}
    (brought : line ∈ broughtLines send) (named : messageIdField line = .some id) :
    ∃ other ∈ (mergedItems first later).take (max (k + 1) 2), other.messageId = id := by
  -- The merge at which both this item and the first two are in the buffer.
  have joinedSome : later.take (max k 1) ≠ [] := by
    rw [ne_eq, List.take_eq_nil_iff]
    exact not_or.mpr ⟨by omega, some⟩
  obtain ⟨mid, taken⟩ := mergeSends_prefix merged (List.take_prefix (max k 1) later)
  obtain ⟨_, ids⟩ := readsBack _ (List.take_prefix _ _) joinedSome mid taken
  have items : (mergedItems first later).take (max (k + 1) 2) =
      mergedItems first (later.take (max k 1)) := by
    rw [show max (k + 1) 2 = max k 1 + 1 by omega, mergedItems, List.take_succ_cons]
    rfl
  have among : send ∈ mergedItems first (later.take (max k 1)) := by
    rw [← items]
    have early : k < max (k + 1) 2 := by omega
    exact List.mem_of_getElem? ((List.getElem?_take_of_lt early).trans at_k)
  have found : id ∈ (mergedItems first (later.take (max k 1))).flatMap (itemFinds idRead []) :=
    List.mem_flatMap.mpr ⟨send, among,
      mem_itemIds.2 (.inl (mem_broughtIds.2 ⟨line, brought, named⟩))⟩
  have nonempty : String.ofList id ≠ "" := by
    rw [ne_eq, String.ofList_eq_empty_iff]
    exact messageIdField_ne_nil named
  have read : String.ofList id ∈ dispatchSourceMessageIds mid := by
    rw [dispatchSourceMessageIds_merged joinedSome taken, dedupePreserve_eq]
    have listed := List.mem_cons_of_mem (stripText first.messageId) found
    exact mem_foldl_keepFirst.2 (.inr ⟨List.mem_map.mpr ⟨id, listed, rfl⟩, nonempty⟩)
  rw [ids, dedupePreserve_eq] at read
  obtain inside | ⟨inside, _⟩ := mem_foldl_keepFirst.1 read
  · exact absurd inside (by simp)
  · rw [items]
    obtain ⟨other, sent, same⟩ := List.mem_map.mp inside
    obtain rfl | later := List.mem_cons.mp sent
    · exact ⟨_, List.mem_cons_self, String.ofList_injective same⟩
    · exact ⟨other, by simp [mergedItems, later], String.ofList_injective same⟩

/-- A merged run that nothing forges reads back. -/
theorem Unforged.readsBack (unforged : Unforged (mergedItems first later)) (some : later ≠ [])
    (merged : mergeSends first later = .some run) : ReadsBack (first :: later) run := by
  constructor
  · have none : ((mergedItems first later).map broughtMarkers).sum = 0 := by
      rw [List.sum_eq_zero_iff_forall_eq_nat]
      intro count inside
      obtain ⟨send, among, rfl⟩ := List.mem_map.mp inside
      obtain ⟨k, at_k⟩ := List.getElem?_of_mem among
      rw [broughtMarkers, List.countP_eq_zero]
      intro line brought
      simp [(unforged k send at_k line brought).1]
    rw [pendingDispatchCount_merged some merged]
    exact Nat.add_eq_left.mpr none
  · obtain ⟨second, rest, rfl⟩ := List.exists_cons_of_ne_nil some
    rw [dispatchSourceMessageIds_merged some merged, stripText_tokens first.mintedId,
      dedupePreserve_eq, dedupePreserve_eq]
    exact unforged.foldl_ids

/-- Texts that bring in no structural line at all forge nothing. -/
theorem unforged_of_quiet {items : List Send}
    (quiet : ∀ send ∈ items, ∀ line ∈ broughtLines send,
      isItemMarker line = false ∧ messageIdField line = none) : Unforged items := by
  intro k send at_k line brought
  obtain ⟨noMarker, unnamed⟩ := quiet send (List.mem_of_getElem? at_k) line brought
  refine ⟨noMarker, fun id named => ?_⟩
  exact absurd (unnamed.symm.trans named) (by simp)

/-- A send with a message, of the given id and body. -/
def sampleSend (id body : String) (minted : ∀ c ∈ id.toList, isSpace c = false) : Send :=
  ⟨"lead".toList, "request".toList, "Build".toList, body.toList, "normal".toList, [], id.toList,
    "2026-08-18T10:00:00Z".toList, minted, by decide⟩

def openingSend : Send := sampleSend "m-1" "Build." (spaceless (by decide))

def quietSend : Send := sampleSend "m-2" "Test." (spaceless (by decide))

/-- The marker is no marker to the neutraliser, for its leading blank, and one
to the reader, since the preview is stripped. -/
def paddedSend : Send := sampleSend "m-2" " === ITEM 9 ===" (spaceless (by decide))

/-- A second send is always merged: only a full buffer refuses one. -/
theorem mergeSends_pair (first second : Send) : ∃ run, mergeSends first [second] = some run := by
  obtain ⟨body, appended, _⟩ := append_opened markerRead_structural first second
  exact ⟨{ openRun first with body := body }, by simp [mergeSends, mergeSend, appended]⟩

end AifyComms.DispatchBufferForgery
