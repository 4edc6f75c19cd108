import AifyComms.PyText
import AifyComms.Runs
import Mathlib.Data.List.Sort
import Mathlib.Data.Prod.Lex
import Mathlib.Logic.Function.Basic
import Mathlib.Order.BoundedOrder.Basic

/-!
`POST /messages/send` with a `clientNonce`: `send_nonce.py`, the handler
`send_message` and the two partial unique indexes of `db.py`.

Any number of requests of one sender share one database. Each SELECT is a step
of its own and sees the last commit. The first INSERT of a request takes
SQLite's write lock, which the request keeps until it commits or gives up, and
only the request itself sees its rows before the commit. What the launch steps
decide, and which dispatch runs come of it, are inputs.
-/

namespace AifyComms.SendNonce
open PyText Runs

/-! ### The request -/

/-- `MessageSend`, with the machine the key middleware proved for it. -/
structure MessageSend where
  fromAgent : String
  toAgent : Option String
  toRole : Option String
  type : String
  subject : String
  body : String
  priority : String
  inReplyTo : Option String
  trigger : Bool
  steer : Option Bool
  queueIfBusy : Bool
  requireReply : Option Bool
  clientNonce : Option String
  origin : String
  externalMachine : String
  deriving DecidableEq

def isSelectorSpace (c : Char) : Bool :=
  let n := c.toNat
  (0x09 ≤ n && n ≤ 0x0d) || n == 0x20 || n == 0xa0 || n == 0x1680 || (0x2000 ≤ n && n ≤ 0x200a) ||
    n == 0x2028 || n == 0x2029 || n == 0x202f || n == 0x205f || n == 0x3000 || n == 0xfeff

structure MessageTargets where
  toAgent : Option String
  toRole : Option String
  error : String
  deriving DecidableEq

def meaningful (text : String) : Bool := text.toList.any fun c => !isSelectorSpace c

/-- A blank selector counts as absent; any other keeps its exact spelling. -/
def selectMessageTargets (toAgent toRole : Option String) : MessageTargets :=
  let direct := toAgent.filter meaningful
  let role := toRole.filter meaningful
  ⟨direct, role,
    if direct.isSome ∧ role.isSome then "Use either 'to' or 'toRole', not both"
    else if direct.isNone ∧ role.isNone then "Need 'to' or 'toRole'"
    else ""⟩

def targetsOf (req : MessageSend) : MessageTargets := selectMessageTargets req.toAgent req.toRole

/-- The request as the handler goes on with it. -/
def withTargets (req : MessageSend) : MessageSend :=
  { req with toAgent := (targetsOf req).toAgent, toRole := (targetsOf req).toRole }

def rstrip (text : List Char) : List Char := (text.reverse.dropWhile isSpace).reverse

def endsTruncated (text : List Char) : Bool :=
  let before := text.take (text.length - "[truncated]".length)
  "[truncated]".toList.isSuffixOf (text.map lowerChar) &&
    ("...".toList.isSuffixOf before || "…".toList.isSuffixOf before)

/-- `_reject_sender_truncated_body`: the mark, perhaps inside a closing fence. -/
def bodyTruncated (body : String) : Bool :=
  let text := rstrip body.toList
  endsTruncated text ||
    ("```".toList.isSuffixOf text && endsTruncated (rstrip (text.take (text.length - 3))))

/-- What the caller asked for: the dictionary `send_fingerprint` hashes. -/
structure SendIdentity where
  type : String
  subject : String
  body : String
  priority : String
  inReplyTo : String
  toAgent : String
  toRole : String
  trigger : Bool
  steer : Option Bool
  queueIfBusy : Bool
  requireReply : Option Bool
  origin : String
  deriving DecidableEq

def orNormal (priority : String) : String := if priority = "" then "normal" else priority

def identity (req : MessageSend) : SendIdentity where
  type := req.type
  subject := req.subject
  body := req.body
  priority := orNormal req.priority
  inReplyTo := req.inReplyTo.getD ""
  toAgent := req.toAgent.getD ""
  toRole := req.toRole.getD ""
  trigger := req.trigger
  steer := req.steer
  queueIfBusy := req.queueIfBusy
  requireReply := req.requireReply
  origin := req.origin

/-! ### The tables -/

structure MessageRow where
  id : String
  fromAgent : String
  toAgent : String
  type : String
  subject : String
  body : String
  priority : String
  dispatchRequested : Bool
  inReplyTo : Option String
  clientNonce : String
  sendFingerprint : String
  noncePrimary : Bool
  origin : String
  externalMachine : String
  timestamp : Nat
  deriving DecidableEq

/-- A row of `dispatch_runs`, as far as a send writes or reads it. -/
structure Run where
  id : String
  messageId : Option String
  fromAgent : String
  targetAgent : String
  deriving DecidableEq

structure Agent where
  id : String
  role : String

@[ext]
structure Tables where
  messages : List MessageRow
  runs : List Run

/-- `INSERT OR IGNORE` ignores a row that breaks the primary key or one of the
partial unique indexes. -/
def ignored (messages : List MessageRow) (row : MessageRow) : Bool :=
  messages.any fun other =>
    other.id = row.id ∨
    (row.clientNonce ≠ "" ∧ other.fromAgent = row.fromAgent ∧
      other.clientNonce = row.clientNonce ∧
      (other.toAgent = row.toAgent ∨ other.noncePrimary ∧ row.noncePrimary))

/-! ### The lookup by nonce -/

def conflict (nonce what : String) : String :=
  "clientNonce \"" ++ nonce ++ "\" was already used for a different message (" ++ what ++
    "). A nonce names one logical send; use a fresh one for each new message."

/-- `ORDER BY nonce_primary DESC, timestamp ASC, id ASC`. -/
def rank (row : MessageRow) : Bool ×ₗ Nat ×ₗ String :=
  toLex (!row.noncePrimary, toLex (row.timestamp, row.id))

def nonceRows (messages : List MessageRow) (sender nonce : String) : List MessageRow :=
  (messages.filter fun row => row.fromAgent = sender ∧ row.clientNonce = nonce).insertionSort
    fun left right => rank left ≤ rank right

/-- The id the first attempt answered with: a fan-out stores it with the
recipient appended. -/
def logicalSendId (first : MessageRow) (rows : List MessageRow) : String :=
  let suffix := '-' :: first.toAgent.toList
  let rowId := first.id.toList
  if 1 < rows.length ∧ suffix <:+ rowId then
    String.ofList (rowId.take (rowId.length - suffix.length))
  else first.id

/-- How a request differs from a send whose rows carry no fingerprint. -/
def legacyMismatch (first : MessageRow) (rows : List MessageRow) (req : MessageSend)
    (inReplyTo : Option String) : Option String :=
  let fields := [("type", first.type, req.type), ("subject", first.subject, req.subject),
    ("body", first.body, req.body), ("priority", first.priority, orNormal req.priority),
    ("in_reply_to", first.inReplyTo.getD "", inReplyTo.getD "")]
  match fields.find? fun field => field.2.1 ≠ field.2.2 with
  | some field => some ("another " ++ field.1)
  | none =>
      if req.toAgent.getD "" ≠ "" ∧ req.toAgent.getD "" ∉ rows.map (·.toAgent) then some "another recipient"
      else if (rows.filter (·.toAgent ≠ "dashboard")).any (·.dispatchRequested ≠ req.trigger) then
        some (if req.trigger then "a triggered send" else "an untriggered send")
      else none

def priorSendForNonce (messages : List MessageRow) (req : MessageSend) (nonce fingerprint : String)
    (inReplyTo : Option String) : Except String (Option String) :=
  match nonceRows messages req.fromAgent nonce with
  | [] => .ok none
  | first :: others =>
      if first.sendFingerprint ≠ "" then
        if first.sendFingerprint ≠ fingerprint then
          .error (conflict nonce "another payload, recipient or delivery option")
        else .ok (some (logicalSendId first (first :: others)))
      else match legacyMismatch first (first :: others) req inReplyTo with
        | some what => .error (conflict nonce what)
        | none => .ok (some (logicalSendId first (first :: others)))

/-! ### What a send resolves to -/

def parentCandidate (req : MessageSend) : String := strip (req.inReplyTo.getD "")

def isMessage (messages : List MessageRow) (id : String) : Bool := messages.any (·.id = id)

/-- The message a run named in place of one stands for. -/
def parentOfRun (runs : List Run) (id : String) : Option String :=
  match runs.find? (·.id = id) with
  | some run =>
      let resolved := strip (run.messageId.getD "")
      if resolved = "" then none else some resolved
  | none => none

/-- `_resolve_reply_parent_message_id` on tables that stay as they are. -/
def resolveReplyParent (tables : Tables) (req : MessageSend) : Option String :=
  if parentCandidate req = "" then none
  else if isMessage tables.messages (parentCandidate req) then some (parentCandidate req)
  else parentOfRun tables.runs (parentCandidate req)

def dedupePreserve (values : List String) : List String :=
  values.foldl (fun result value => if value = "" ∨ value ∈ result then result
    else result ++ [value]) []

def resolveRecipientIds (agents : List Agent) (req : MessageSend) : List String :=
  let direct := if req.toAgent.getD "" = "" then [] else [req.toAgent.getD ""]
  let byRole := if req.toRole.getD "" = "" then []
    else (agents.filter fun agent => agent.role = req.toRole.getD "" ∧
      agent.id ≠ req.fromAgent).map (·.id)
  dedupePreserve (direct ++ byRole)

def isReply (parent : Option String) (req : MessageSend) : Bool :=
  parent.getD "" ≠ "" || normalise req.type = "response"

/-- The reserved dashboard sink and a registered agent are inboxes. -/
def isInbox (agents : List Agent) (recipient : String) : Bool :=
  recipient = "dashboard" || agents.any (·.id = recipient)

def provenMachine (messages : List MessageRow) (recipient : String) : Bool :=
  messages.any fun row => row.fromAgent = recipient ∧ row.externalMachine ≠ ""

def declaredOrigin (messages : List MessageRow) (recipient : String) : Bool :=
  messages.any fun row => row.fromAgent = recipient ∧ row.origin ≠ ""

/-- A recipient `unresolved_new_destinations` does not report. -/
def resolved (agents : List Agent) (messages : List MessageRow) (recipient : String) : Bool :=
  isInbox agents recipient || provenMachine messages recipient || declaredOrigin messages recipient

def recipientMessageId (msgId : String) (recipients : List String) (recipient : String) : String :=
  if 1 < recipients.length then msgId ++ "-" ++ recipient else msgId

/-! ### The requests of one sender under one nonce -/

/-- `digest` is SHA-256 of the identity's JSON and `mint` the id a request makes
up from the clock and a random UUID. -/
structure Sends where
  sender : String
  nonce : String
  requests : Nat → MessageSend
  digest : SendIdentity → String
  mint : Nat → String
  now : Nat → Nat
  agents : List Agent
  tables : Tables
  nonce_given : nonce ≠ ""
  same_sender : ∀ k, (requests k).fromAgent = sender
  same_nonce : ∀ k, strip ((requests k).clientNonce.getD "") = nonce
  digest_nonempty : ∀ asked, digest asked ≠ ""
  collision_free : ∀ j k, digest (identity (withTargets (requests j))) =
    digest (identity (withTargets (requests k))) →
    identity (withTargets (requests j)) = identity (withTargets (requests k))
  mint_nonempty : ∀ k, mint k ≠ ""
  mint_fresh : ∀ k recipients recipient,
    isMessage tables.messages (recipientMessageId (mint k) recipients recipient) = false
  nonce_unused : ∀ row ∈ tables.messages, row.fromAgent = sender → row.clientNonce ≠ nonce

inductive Answer where
  | stored (messageId : String)
  | replayed (messageId : String)
  | badTargets (error : String)
  | truncatedBody
  | notTheSender
  | noRecipients
  | unstartable (recipients : List String)
  | nonceConflict (error : String)
  | outcomeUnknown
  deriving DecidableEq

/-- The id an answer reports a stored message under. -/
def Answer.messageId : Answer → Option String
  | .stored id => some id
  | .replayed id => some id
  | _ => none

def Answer.refused : Answer → Bool
  | .stored _ => false
  | .replayed _ => false
  | .outcomeUnknown => false
  | _ => true

/-- Where a request stands: `index` counts the rows its insert loop has tried,
`staged` are the rows it has inserted and not yet committed. -/
inductive Phase where
  | arrived
  | admitted
  | parentMissed
  | threaded (parent : Option String)
  | addressed (parent : Option String) (recipients : List String)
  | checking (parent : Option String) (recipients rest unresolved : List String)
  | checkingOrigin (parent : Option String) (recipients : List String) (recipient : String)
      (rest unresolved : List String)
  | launching (parent : Option String) (recipients : List String)
  | inserting (parent : Option String) (recipients launchable : List String) (index : Nat)
      (rest : List String) (staged : List MessageRow)
  | lost (parent : Option String)
  | creating (recipients launchable : List String) (staged : List MessageRow)
  | committing (staged : List MessageRow) (made : List Run)
  | answered (answer : Answer)

structure World where
  tables : Tables
  writer : Option Nat
  phase : Nat → Phase

inductive Label where
  | begin (k : Nat) (genuine : Bool)
  | next (k : Nat)
  | launch (k : Nat) (started : String → Bool)
  | create (k : Nat) (made : String → Option String)

namespace Sends
variable (sends : Sends)

def req (k : Nat) : MessageSend := withTargets (sends.requests k)

def fingerprint (k : Nat) : String := sends.digest (identity (sends.req k))

/-- `prior_send_for_nonce` as request `k` calls it. -/
def prior (k : Nat) (messages : List MessageRow) (parent : Option String) :
    Except String (Option String) :=
  priorSendForNonce messages (sends.req k) sends.nonce (sends.fingerprint k) parent

def messageRow (k : Nat) (parent : Option String) (recipients : List String) (index : Nat)
    (recipient : String) : MessageRow where
  id := recipientMessageId (sends.mint k) recipients recipient
  fromAgent := (sends.req k).fromAgent
  toAgent := recipient
  type := (sends.req k).type
  subject := (sends.req k).subject
  body := (sends.req k).body
  priority := (sends.req k).priority
  dispatchRequested := (sends.req k).trigger && recipient ≠ "dashboard"
  inReplyTo := parent
  clientNonce := sends.nonce
  sendFingerprint := sends.fingerprint k
  noncePrimary := index = 0
  origin := (sends.req k).origin
  externalMachine := (sends.req k).externalMachine
  timestamp := sends.now k

/-- The gates before the lookup. `genuine` is what the checks of the sender's
name and key say: `validate_sender`, the operator's proof, an external key. -/
def begin (k : Nat) (genuine : Bool) : Phase :=
  if (targetsOf (sends.requests k)).error ≠ "" then
    .answered (.badTargets (targetsOf (sends.requests k)).error)
  else if bodyTruncated (sends.req k).body then .answered .truncatedBody
  else if !genuine then .answered .notTheSender
  else .admitted

/-- After the first lookup. -/
def lookedUp (k : Nat) (parent : Option String) (recipients : List String) :
    Except String (Option String) → Phase
  | .error text => .answered (.nonceConflict text)
  | .ok (some id) => .answered (.replayed id)
  | .ok none =>
      if recipients = [] then .answered .noRecipients
      -- A reply is stored and threaded even where nobody could be woken.
      else if isReply parent (sends.req k) then .launching parent recipients
      else .checking parent recipients recipients []

/-- After the lost race's reread. -/
def reread : Except String (Option String) → Answer
  | .error text => .nonceConflict text
  | .ok (some id) => if id = "" then .outcomeUnknown else .replayed id
  | .ok none => .outcomeUnknown

/-- One turn of the insert loop: the row that reserves the nonce ends it when it
is ignored. -/
def insertNext (k : Nat) (messages : List MessageRow) (parent : Option String)
    (recipients launchable : List String) (index : Nat) (staged : List MessageRow) :
    List String → Phase
  | [] => if staged = [] then .lost parent else .creating recipients launchable staged
  | recipient :: rest =>
      let row := sends.messageRow k parent recipients index recipient
      if ignored (messages ++ staged) row then
        -- Losing the first row loses the nonce; a later row ignored is passed over.
        .inserting parent recipients launchable (index + 1) (if index = 0 then [] else rest) staged
      else .inserting parent recipients launchable (index + 1) rest (staged ++ [row])

/-- The runs `_create_dispatch_runs` inserts: `made` gives the id of the new run,
or of the contract run of a steer, where the recipient gets one. -/
def createDispatchRuns (k : Nat) (recipients launchable : List String)
    (made : String → Option String) : List Run :=
  if (sends.req k).trigger then
    launchable.filterMap fun recipient => (made recipient).map fun id =>
      ⟨id, some (recipientMessageId (sends.mint k) recipients recipient),
        (sends.req k).fromAgent, recipient⟩
  else []

def launchable (k : Nat) (recipients : List String) (started : String → Bool) : List String :=
  if (sends.req k).trigger then (recipients.filter (· ≠ "dashboard")).filter started else []

/-- The next statement of request `k` that depends on nothing but the tables. -/
def next (world : World) (k : Nat) : Option World :=
  let messages := world.tables.messages
  let enter (phase : Phase) : Option World :=
    some { world with phase := Function.update world.phase k phase }
  match world.phase k with
  | .admitted =>
      if parentCandidate (sends.req k) = "" then enter (.threaded none)
      else if isMessage messages (parentCandidate (sends.req k)) then
        enter (.threaded (some (parentCandidate (sends.req k))))
      else enter .parentMissed
  | .parentMissed =>
      enter (.threaded (parentOfRun world.tables.runs (parentCandidate (sends.req k))))
  | .threaded parent =>
      enter (.addressed parent (resolveRecipientIds sends.agents (sends.req k)))
  | .addressed parent recipients =>
      enter (sends.lookedUp k parent recipients (sends.prior k messages parent))
  | .checking parent recipients [] unresolved =>
      if unresolved = [] then enter (.launching parent recipients)
      else enter (.answered (.unstartable unresolved))
  | .checking parent recipients (recipient :: rest) unresolved =>
      if isInbox sends.agents recipient || provenMachine messages recipient then
        enter (.checking parent recipients rest unresolved)
      else enter (.checkingOrigin parent recipients recipient rest unresolved)
  | .checkingOrigin parent recipients recipient rest unresolved =>
      if declaredOrigin messages recipient then
        enter (.checking parent recipients rest unresolved)
      else enter (.checking parent recipients rest (unresolved ++ [recipient]))
  | .inserting parent recipients launchable index rest staged =>
      -- The first INSERT takes the write lock even when it is ignored.
      if world.writer = none ∨ world.writer = some k then
        some { world with
          writer := some k
          phase := Function.update world.phase k
            (sends.insertNext k messages parent recipients launchable index staged rest) }
      else none
  | .lost parent =>
      some { world with
        writer := none
        phase := Function.update world.phase k
          (.answered (reread (sends.prior k messages parent))) }
  | .committing staged made =>
      some {
        -- Rows and runs become visible together.
        tables := ⟨messages ++ staged, world.tables.runs ++ made⟩
        writer := none
        phase := Function.update world.phase k (.answered (.stored (sends.mint k))) }
  | _ => none

def step (world : World) : Label → Option World
  | .begin k genuine =>
      match world.phase k with
      | .arrived => some { world with
          phase := Function.update world.phase k (sends.begin k genuine) }
      | _ => none
  | .next k => sends.next world k
  | .launch k started =>
      match world.phase k with
      | .launching parent recipients => some { world with
          phase := Function.update world.phase k
            (.inserting parent recipients (sends.launchable k recipients started) 0 recipients []) }
      | _ => none
  | .create k made =>
      match world.phase k with
      | .creating recipients launchable staged => some { world with
          phase := Function.update world.phase k
            (.committing staged (sends.createDispatchRuns k recipients launchable made)) }
      | _ => none

def initial : World := ⟨sends.tables, none, fun _ => .arrived⟩

end Sends

end AifyComms.SendNonce
