import AifyComms.DispatchBuffer
import AifyComms.Runs
import Mathlib.Data.List.Sort

/-!
The queue of dispatch runs and the messages behind it: `_create_dispatch_runs`
of `api_core/dispatch_runs.py` with its merge into a queued run, the channel
send, the claim of a run, the unsend of `message_removal.py` and the sweep that
replays channel copies no run was made for.

A request takes SQLite's write lock before it reads the queue, so each is one
step. The sweep reads its rows before its first write and is two. A run also
records, as a ghost, the sends that were put into it; the model never reads it.
-/

namespace AifyComms.DispatchQueue
open PyText TextLines DispatchBuffer

inductive RunStatus where
  | queued
  | claimed
  | running
  | delivered
  | completed
  | failed
  | cancelled
  deriving DecidableEq

/-- A row of `dispatch_runs`; its `message_id` is the opening send's. -/
structure Run where
  runId : Nat
  targetAgent : Text
  status : RunStatus
  requireReply : Bool
  resultMessageId : Text
  row : QueuedRun
  items : List Send

def Run.messageId (run : Run) : Text := run.row.opening.messageId

/-- The messages that were put into a run. -/
def Run.ids (run : Run) : List Text := run.items.map (·.messageId)

def Run.Carries (run : Run) (id : Text) : Prop := id ∈ run.ids

instance (run : Run) (id : Text) : Decidable (run.Carries id) := inferInstanceAs (Decidable (_ ∈ _))

inductive Source where
  | direct
  | channel
  deriving DecidableEq

/-- A row of `messages`. The canonical post of a channel has no recipient. -/
structure Message where
  content : Send
  toAgent : Text
  channel : Text
  source : Source
  dispatchRequested : Bool
  timestamp : Nat

def Message.id (message : Message) : Text := message.content.messageId

/-- `minted` lists, as a ghost, every message id the service has ever made. -/
structure World where
  runs : List Run
  runItems : List (Text × Nat)
  messages : List Message
  receipts : List (Text × Text)
  sweep : List Message
  nextRun : Nat
  minted : List Text

def emptyWorld : World := ⟨[], [], [], [], [], 0, []⟩

/-! ### Creating runs -/

/-- `_find_mergeable_queued_run`: rows stand in the order they were requested. -/
def findMergeableQueuedRun (world : World) (target sender : Text) : Option Run :=
  world.runs.find? fun run => run.targetAgent = target ∧ run.row.opening.fromAgent = sender ∧
    run.status = .queued

def insertRun (world : World) (send : Send) (target : Text) (status : RunStatus)
    (requireReply : Bool) : World :=
  { world with
    runs := world.runs ++
      [⟨world.nextRun, target, status, requireReply, [], openRun send, [send]⟩]
    nextRun := world.nextRun + 1 }

/-- The guarded UPDATE of a merge, and the row that records the merged message. -/
def mergeIntoRun (world : World) (into : Run) (row : QueuedRun) (send : Send)
    (requireReply : Bool) : World :=
  { world with
    runs := world.runs.map fun run =>
      if run.runId = into.runId then
        { run with
          row := row
          requireReply := run.requireReply || requireReply
          items := run.items ++ [send] }
      else run
    runItems :=
      if send.messageId = [] ∨ send.messageId ∈ world.runItems.map (·.1) then world.runItems
      else world.runItems ++ [(send.messageId, into.runId)] }

/-- How the live-send checks answer for one recipient. -/
structure Route where
  launchable : Bool
  steered : Bool
  deriving DecidableEq

/-- `_create_dispatch_runs` for one recipient. A steered send goes into the
active run as a control, and leaves a delivered run for its reply. -/
def createDispatchRun (world : World) (send : Send) (target : Text)
    (steered requireReply allowMerge : Bool) : World :=
  if steered then
    if send.messageId = [] then world else insertRun world send target .delivered requireReply
  else
    match if allowMerge then findMergeableQueuedRun world target send.fromAgent else none with
    | some run =>
        match mergeSend run.row send with
        | some row => mergeIntoRun world run row send requireReply
        -- The buffer is full: the send is rejected and the buffer kept.
        | none => world
    | none => insertRun world send target .queued requireReply

/-! ### Sending -/

/-- The operator's inbox, which is read and never woken. -/
def dashboard : Text := "dashboard".toList

def storeMessages (world : World) (new : List Message) : World :=
  { world with messages := world.messages ++ new, minted := world.minted ++ new.map (·.id) }

def directMessage (send : Send) (target : Text) (trigger : Bool) (timestamp : Nat) : Message :=
  ⟨send, target, [], .direct, trigger && decide (target ≠ dashboard), timestamp⟩

def sendMessage (world : World) (send : Send) (target : Text) (trigger requireReply : Bool)
    (route : Route) (timestamp : Nat) : World :=
  let stored := storeMessages world [directMessage send target trigger timestamp]
  if trigger && route.launchable then
    createDispatchRun stored send target route.steered requireReply true
  else stored

/-- A member of a channel. Agent names are checked when an agent registers. -/
structure Member where
  name : Text
  route : Route
  safeName : ∀ c ∈ name, isSpace c = false

/-- The copy of a channel post that one member gets. -/
def copyFor (post : Send) (member : Member) : Send :=
  { post with
    messageId := post.messageId ++ '-' :: member.name
    mintedId := by
      intro c inside
      simp only [List.mem_append, List.mem_cons] at inside
      obtain own | rfl | name := inside
      · exact post.mintedId c own
      · decide
      · exact member.safeName c name }

def fanoutDedupWindow : Nat := 30000

/-- `_has_recent_direct_delivery_for_channel_fanout`. -/
def hasRecentDirectDelivery (world : World) (post : Send) (recipient : Text) (timestamp : Nat) :
    Bool :=
  world.messages.any fun message =>
    message.content.fromAgent = post.fromAgent ∧ message.toAgent = recipient ∧
      message.source = .direct ∧ message.content.messageType = post.messageType ∧
      message.content.body = post.body ∧ timestamp ≤ message.timestamp + fanoutDedupWindow ∧
      message.timestamp ≤ timestamp + fanoutDedupWindow

structure ChannelPost where
  channel : Text
  request : Send
  members : List Member
  trigger : Bool
  timestamp : Nat

/-- The post as it is stored: its subject is made of the channel and the body. -/
def ChannelPost.send (post : ChannelPost) : Send :=
  { post.request with
    subject := '#' :: post.channel ++ ": ".toList ++ post.request.body.take 80
    priority := orElse post.request.priority "normal".toList
    inReplyTo := [] }

/-- The members that get a copy. -/
def ChannelPost.recipients (post : ChannelPost) (world : World) : List Member :=
  post.members.filter fun member => member.name ≠ post.request.fromAgent ∧
    hasRecentDirectDelivery world post.send member.name post.timestamp = false

/-- The recipients the live-send checks let a run be made for. -/
def ChannelPost.launched (post : ChannelPost) (world : World) : List Member :=
  if post.trigger then
    (post.recipients world).filter fun member =>
      member.name ≠ dashboard ∧ member.route.launchable
  else []

def ChannelPost.copyMessage (post : ChannelPost) (member : Member) : Message :=
  ⟨copyFor post.send member, member.name, post.channel, .channel,
    post.trigger && decide (member.name ≠ dashboard), post.timestamp⟩

/-- The canonical post and a copy for each recipient. -/
def ChannelPost.messages (post : ChannelPost) (world : World) : List Message :=
  ⟨post.send, [], post.channel, .channel, post.trigger, post.timestamp⟩ ::
    (post.recipients world).map post.copyMessage

/-- `send_channel_message` by a member: the post, a copy for each recipient and
a run for each that can be woken. -/
def sendChannelMessage (world : World) (post : ChannelPost) : World :=
  (post.launched world).foldl
    (fun world member =>
      createDispatchRun world (copyFor post.send member) member.name member.route.steered false true)
    (storeMessages world (post.messages world))

/-! ### Claiming and finishing -/

def Run.claim (runId : Nat) (run : Run) : Run :=
  if run.runId = runId ∧ run.status = .queued then { run with status := .claimed } else run

/-- `_mark_dispatch_source_messages_read`, for the messages that still exist. -/
def receiptsOf (world : World) (run : Run) : List (Text × Text) :=
  ((dispatchSourceMessageIds run.row).map (·.toList)).filterMap fun id =>
    if id ∈ world.messages.map (·.id) ∧ (id, run.targetAgent) ∉ world.receipts then
      some (id, run.targetAgent)
    else none

def claimRun (world : World) (runId : Nat) : World :=
  { world with
    runs := world.runs.map (Run.claim runId)
    receipts := world.receipts ++
      (world.runs.filter fun run => run.runId = runId ∧ run.status = .queued).flatMap
        (receiptsOf world) }

/-- A run is reported running, delivered, completed, failed or cancelled. -/
def settleRun (world : World) (runId : Nat) (status : RunStatus) (resultMessageId : Text) : World :=
  { world with
    runs := world.runs.map fun run =>
      if run.runId = runId then
        { run with status := status, resultMessageId := resultMessageId }
      else run }

/-! ### Unsending -/

inductive UnsendError where
  | noActor
  | notFound
  | forbidden
  | unresolvedCopy
  deriving DecidableEq

def messageOf (world : World) (id : Text) : Option Message :=
  world.messages.find? fun message => message.id = id

/-- The ids a permitted unsend takes back: a channel post takes its copies along. -/
def unsendIds (world : World) (message : Message) : List Text :=
  message.id :: if message.source = .channel ∧ message.toAgent = [] then
    (world.messages.filter fun copy =>
      (message.id ++ ['-']).isPrefixOf copy.id ∧ copy.channel = message.channel ∧
        copy.source = .channel).map (·.id)
  else []

/-- A queued run of one of these messages is cancelled; a delivered one still
owing a reply is withdrawn. -/
def Run.takeBack (ids : List Text) (run : Run) : Run :=
  if run.status = .queued ∧ run.messageId ∈ ids then { run with status := .cancelled }
  else if run.messageId ∈ ids ∧ run.status = .delivered ∧ run.requireReply ∧
      run.resultMessageId = [] then
    { run with status := .cancelled, requireReply := false }
  else run

def forgetId (ids : List Text) (send : Send) : Send :=
  if send.messageId ∈ ids then { send with messageId := [], mintedId := by simp } else send

/-- The links a deleted message leaves behind are cleared. Those of replies are
left out: an item shows one only when it has no message of its own. -/
def Run.forget (ids : List Text) (run : Run) : Run :=
  { run with
    row := { run.row with opening := forgetId ids run.row.opening }
    resultMessageId := if run.resultMessageId ∈ ids then [] else run.resultMessageId }

def removeMessages (world : World) (ids : List Text) : World :=
  { world with
    runs := world.runs.map fun run => (run.takeBack ids).forget ids
    messages := world.messages.filter fun message => message.id ∉ ids
    receipts := world.receipts.filter fun receipt => receipt.1 ∉ ids }

/-- `unsend_message`. The caller is the author of the message, or of the post
a copy belongs to, or a proven operator. -/
def unsendMessage (world : World) (id requestedBy : Text) (mayOverride : Bool) :
    Except UnsendError World :=
  let actor := stripText requestedBy
  if actor = [] then .error .noActor
  else match messageOf world id with
  | none => .error .notFound
  | some message =>
      if mayOverride = false ∧ actor ≠ stripText message.content.fromAgent then .error .forbidden
      else if message.source = .channel ∧ message.toAgent ≠ [] then
        match (beforeLast ['-'] id).bind (messageOf world) with
        | some canonical =>
            if canonical.source ≠ .channel then .error .unresolvedCopy
            else if mayOverride = false ∧ actor ≠ stripText canonical.content.fromAgent then
              .error .forbidden
            else .ok (removeMessages world (unsendIds world message))
        | none => .error .unresolvedCopy
      else .ok (removeMessages world (unsendIds world message))

/-! ### Replaying channel copies -/

/-- `_select_undelivered_channel_messages`. -/
def undelivered (world : World) (cutoff : Nat) (message : Message) : Bool :=
  message.source = .channel ∧ message.toAgent ≠ [] ∧ message.toAgent ≠ dashboard ∧
    message.dispatchRequested ∧ cutoff ≤ message.timestamp ∧
    (message.id, message.toAgent) ∉ world.receipts ∧
    ∀ run ∈ world.runs, run.messageId ≠ message.id

/-- The rows a sweep reads, oldest first. -/
def undeliveredMessages (world : World) (cutoff limit : Nat) : List Message :=
  ((world.messages.filter (undelivered world cutoff)).insertionSort
    fun left right => left.timestamp ≤ right.timestamp).take limit

/-- The stored columns a replay reads; a reply link is not among them. -/
def replaySend (message : Message) (requestedAt : Text) (stamp : newline ∉ requestedAt) : Send :=
  { message.content with
    messageType := orElse message.content.messageType "message".toList
    priority := orElse message.content.priority "normal".toList
    inReplyTo := []
    requestedAt := requestedAt
    clockStamp := stamp }

/-- The sweep's writes: a run of its own for each selected copy whose member's
environment is available again. -/
def replaySelected (world : World) (available : Text → Bool) (requestedAt : Text)
    (stamp : newline ∉ requestedAt) : World :=
  (world.sweep.filter fun message => available message.toAgent).foldl
    (fun world message =>
      createDispatchRun world (replaySend message requestedAt stamp) message.toAgent
        false false false)
    { world with sweep := [] }

/-! ### The system -/

inductive Label where
  | send (send : Send) (target : Text) (trigger requireReply : Bool) (route : Route)
      (timestamp : Nat)
  | channelSend (post : ChannelPost)
  | claim (runId : Nat)
  | settle (runId : Nat) (status : RunStatus) (resultMessageId : Text)
  | unsend (id actor : Text) (mayOverride : Bool)
  | select (cutoff limit : Nat)
  | replay (available : Text → Bool) (requestedAt : Text) (stamp : newline ∉ requestedAt)

/-- Ids the service has just minted: none is empty, repeated or in use. -/
def Fresh (world : World) (ids : List Text) : Prop :=
  ids.Nodup ∧ ∀ id ∈ ids, id ≠ [] ∧ id ∉ world.minted

instance (world : World) (ids : List Text) : Decidable (Fresh world ids) :=
  inferInstanceAs (Decidable (_ ∧ _))

/-- A refused unsend changes nothing, and nothing puts a run back in the queue. -/
def step (world : World) : Label → Option World
  | .send send target trigger requireReply route timestamp =>
      if Fresh world [send.messageId] then
        some (sendMessage world send target trigger requireReply route timestamp)
      else none
  | .channelSend post =>
      if post.request.fromAgent ∉ post.members.map (·.name) then some world
      else if Fresh world ((post.messages world).map (·.id)) then
        some (sendChannelMessage world post)
      else none
  | .claim runId => some (claimRun world runId)
  | .settle runId status resultMessageId =>
      if status = .queued then none else some (settleRun world runId status resultMessageId)
  | .unsend id actor mayOverride =>
      match unsendMessage world id actor mayOverride with
      | .ok after => some after
      | .error _ => some world
  | .select cutoff limit =>
      if world.sweep.isEmpty then
        some { world with sweep := undeliveredMessages world cutoff limit }
      else none
  | .replay available requestedAt stamp => some (replaySelected world available requestedAt stamp)

end AifyComms.DispatchQueue
