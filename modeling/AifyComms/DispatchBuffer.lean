import AifyComms.SendNonce
import AifyComms.TextLines

/-!
The merged buffer of pending dispatches: `api_core/dispatch_text.py`,
`api_core/dispatch_buffer.py` and the readers of `api_core/claim_gating.py`.
A queued run that takes a second send becomes one text with a header, one
block per send and a footer. The number of items and the ids of their messages
are later read back from that text by its lines.
-/

namespace AifyComms.DispatchBuffer
open PyText TextLines
open SendNonce (dedupePreserve)

def mergedDispatchHeader : Text := "[AIFY PENDING DISPATCHES]".toList

def mergedDispatchFooter : Text := "[/AIFY PENDING DISPATCHES]".toList

def dispatchBufferCap : Nat := 10

/-! ### The two line patterns -/

/-- The code points of the zeros of Unicode's decimal digits, which a pattern's
`\d` matches (Unicode 15.0). Each zero is followed by its nine other digits. -/
def decimalZeros : List Nat :=
  [0x30, 0x660, 0x6f0, 0x7c0, 0x966, 0x9e6, 0xa66, 0xae6, 0xb66, 0xbe6, 0xc66, 0xce6, 0xd66,
    0xde6, 0xe50, 0xed0, 0xf20, 0x1040, 0x1090, 0x17e0, 0x1810, 0x1946, 0x19d0, 0x1a80, 0x1a90,
    0x1b50, 0x1bb0, 0x1c40, 0x1c50, 0xa620, 0xa8d0, 0xa900, 0xa9d0, 0xa9f0, 0xaa50, 0xabf0,
    0xff10, 0x104a0, 0x10d30, 0x11066, 0x110f0, 0x11136, 0x111d0, 0x112f0, 0x11450, 0x114d0,
    0x11650, 0x116c0, 0x11730, 0x118e0, 0x11950, 0x11c50, 0x11d50, 0x11da0, 0x11f50, 0x16a60,
    0x16ac0, 0x16b50, 0x1d7ce, 0x1d7d8, 0x1d7e2, 0x1d7ec, 0x1d7f6, 0x1e140, 0x1e2f0, 0x1e4f0,
    0x1e950, 0x1fbf0]

def isDecimal (c : Char) : Bool := decimalZeros.any fun start =>
  start ≤ c.toNat && c.toNat < start + 10

def itemOpen : Text := "=== ITEM ".toList

def itemClose : Text := " ===".toList

/-- `^=== ITEM \d+ ===$` on one line. -/
def isItemMarker (line : Text) : Bool :=
  let after := line.drop itemOpen.length
  itemOpen.isPrefixOf line && !(after.takeWhile isDecimal).isEmpty &&
    after.dropWhile isDecimal == itemClose

def messageIdLabel : Text := "MessageId:".toList

def isBlank (c : Char) : Bool := c == ' ' || c == '\t'

/-- `^MessageId:[ \t]*(\S+)[ \t]*$` on one line: the id it names. -/
def messageIdField (line : Text) : Option Text :=
  let after := (line.drop messageIdLabel.length).dropWhile isBlank
  let id := after.takeWhile (!isSpace ·)
  if messageIdLabel.isPrefixOf line && !id.isEmpty &&
      (after.dropWhile (!isSpace ·)).all isBlank then some id
  else none

/-! ### Rendering -/

/-- `_neutralise_buffer_markers`. -/
def neutraliseBufferMarkers (text : Text) : Text :=
  let neutralised := replaceAll mergedDispatchFooter "(/AIFY PENDING DISPATCHES)".toList text
  let neutralised := replaceAll mergedDispatchHeader "(AIFY PENDING DISPATCHES)".toList neutralised
  let neutralised := mapLines (fun line =>
    if isItemMarker line then replaceAll "===".toList "---".toList line else line) neutralised
  mapLines (fun line =>
    if messageIdLabel.isPrefixOf line then "> ".toList ++ line else line) neutralised

/-- `_clip_text`. -/
def clipText (text : Text) (limit : Nat) : Text :=
  let value := stripText text
  if value.length ≤ limit then value else rstrip (value.take (limit - 1)) ++ ['…']

def isControl (c : Char) : Bool := c.toNat < 0x20 || c.toNat == 0x7f

/-- Each run of control characters becomes one space; the flag says that one has begun. -/
def collapseControls : Bool → Text → Text
  | _, [] => []
  | inRun, c :: rest =>
      if isControl c then
        if inRun then collapseControls true rest else ' ' :: collapseControls true rest
      else c :: collapseControls false rest

def orElse (text fallback : Text) : Text := if text = [] then fallback else text

/-- `_quote_untrusted_subject`. -/
def quoteUntrustedSubject (subject : Text) (limit : Nat) : Text :=
  let text := stripText (collapseControls false subject)
  let text := orElse (clipText text limit) "(no subject)".toList
  '"' :: (text.map fun c => if c = '"' then '\'' else c) ++ ['"']

/-- One send to one recipient. Its message id is minted by the service, empty
when there is none, and its stamp is the service's clock. -/
structure Send where
  fromAgent : Text
  messageType : Text
  subject : Text
  body : Text
  priority : Text
  inReplyTo : Text
  messageId : Text
  requestedAt : Text
  mintedId : ∀ c ∈ messageId, isSpace c = false
  clockStamp : newline ∉ requestedAt

theorem spaceless {text : Text} (checked : text.all (fun c => !isSpace c) = true) :
    ∀ c ∈ text, isSpace c = false := by
  intro c inside
  have shown := List.all_eq_true.mp checked c inside
  exact Bool.not_eq_true' _ |>.mp shown

def bodyPreview (send : Send) : Text := clipText (neutraliseBufferMarkers send.body) 240

def fullTextOpen : Text := "Full text: comms_inbox(agentId=\"<you>\", messageId=\"".toList

def fullTextClose : Text :=
  ("\") — a dispatched message is already marked read, so a plain comms_inbox " ++
    "will NOT list it.").toList

def itemMarker (index : Nat) : Text := itemOpen ++ (toString index).toList ++ itemClose

/-- The marker of an item, its four fields and its time. -/
def itemHead (index : Nat) (send : Send) : List Text :=
  [itemMarker index,
    "From: ".toList ++ orElse send.fromAgent "unknown".toList,
    "Type: ".toList ++ orElse send.messageType "request".toList,
    "Subject: ".toList ++ quoteUntrustedSubject (neutraliseBufferMarkers send.subject) 240,
    "Priority: ".toList ++ orElse send.priority "normal".toList] ++
  (if send.requestedAt = [] then [] else ["At: ".toList ++ send.requestedAt])

/-- A message is named and previewed; a body without one is shown whole. -/
def itemTail (send : Send) : List Text :=
  if send.messageId = [] then
    (if send.inReplyTo = [] then [] else ["InReplyTo: ".toList ++ send.inReplyTo]) ++
      ["Body:".toList, stripText (neutraliseBufferMarkers send.body)]
  else
    [messageIdLabel ++ ' ' :: send.messageId, fullTextOpen ++ (send.messageId ++ fullTextClose)] ++
      (if bodyPreview send = [] then [] else ["Body preview:".toList, bodyPreview send])

/-- `_render_pending_dispatch_item`. -/
def renderPendingDispatchItem (index : Nat) (send : Send) : Text :=
  stripText (joinLines (itemHead index send ++ itemTail send))

/-! ### The queued run -/

/-- A queued run: the send it was created for, with the columns as they were
inserted, and its body. A merge also rewrites the subject, the type and the
priority, which nothing below reads once the body is a buffer. -/
structure QueuedRun where
  opening : Send
  body : Text

/-- `_pending_dispatch_count`. -/
def pendingDispatchCount (body : Text) : Nat :=
  if mergedDispatchHeader.isPrefixOf body then (lines body).countP isItemMarker
  else if stripText body = [] then 0 else 1

/-- The INSERT of `_create_dispatch_runs`: the body is neutralised as it is stored. -/
def openRun (send : Send) : QueuedRun :=
  ⟨{ send with body := neutraliseBufferMarkers send.body },
    neutraliseBufferMarkers send.body⟩

def bufferIntro : List Text :=
  [mergedDispatchHeader,
    ("Additional dispatches arrived while another run was active (cap: " ++
      toString dispatchBufferCap ++ " items).").toList,
    ("Process the buffered items in order. For message-backed items, use comms_inbox(...) " ++
      "if you need the full original text.").toList,
    []]

/-- `_append_pending_dispatch_body`: the merged body and its number of items. -/
def appendPendingDispatchBody (existing : QueuedRun) (send : Send) : Option (Text × Nat) :=
  if mergedDispatchHeader.isPrefixOf existing.body then
    let currentCount := pendingDispatchCount existing.body
    if dispatchBufferCap ≤ currentCount then none
    else
      let count := currentCount + 1
      (beforeLast mergedDispatchFooter existing.body).map fun kept =>
        (kept ++ newline :: newline :: renderPendingDispatchItem count send ++
          newline :: existing.body.drop kept.length, count)
  else
    let firstItem := renderPendingDispatchItem 1 { existing.opening with body := existing.body }
    let secondItem := renderPendingDispatchItem 2 send
    some (stripText (joinLines (bufferIntro ++
      [firstItem, [], secondItem, mergedDispatchFooter])), 2)

def mergeSend (run : QueuedRun) (send : Send) : Option QueuedRun :=
  (appendPendingDispatchBody run send).map fun merged => { run with body := merged.1 }

/-- The queued run that a first send and then later ones, each merged into it, leave. -/
def mergeSends (first : Send) (later : List Send) : Option QueuedRun :=
  later.foldlM mergeSend (openRun first)

/-! ### Reading back -/

/-- `_dispatch_source_message_ids`. -/
def dispatchSourceMessageIds (run : QueuedRun) : List String :=
  let primary := [stripText run.opening.messageId]
  let merged :=
    if mergedDispatchHeader.isPrefixOf run.body then (lines run.body).filterMap messageIdField
    else []
  dedupePreserve ((primary ++ merged).map String.ofList)

end AifyComms.DispatchBuffer
