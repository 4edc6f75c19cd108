import AifyComms.DispatchHandoff
import AifyComms.Dict
import Mathlib.Data.List.Infix

/-!
The answer recorded on a dispatch run, `result_message_id`: the two functions of
`api_core/reply_linking.py` that link a reply to the run, `_mark_dispatch_run_answered`
(`api_core/dispatch_run_state.py`), and the PATCHes, settlements and sweeps of
`AifyComms.DispatchHandoff` beside them, with the messages they store.

A send inserts its messages before it links them, so it holds the write lock while it reads
the run and the message recorded on it: a reply is one step. Messages are not deleted.
-/

namespace AifyComms.RealAnswers
open PyText Runs DispatchRunUpdate DispatchHandoff

/-! ### The texts of a mirror -/

/-- What the code takes from elsewhere: the word characters of `re`, and
`_signals_completion` of `api_core/reply_contract.py`, which reads a message's words. -/
structure Texts where
  isWord : Char → Bool
  signalsCompletion : String → Bool

/-- The run's columns that are not written here. -/
structure Contract where
  id : String
  subject : String
  fromAgent : String
  targetAgent : String
  messageId : String
  itemMessageIds : List String
  executionMode : String
  dispatchMode : String
  requestedAt : Nat

/-- `value or fallback`. -/
def orElse (value fallback : String) : String := if value = "" then fallback else value

/-- `needle in text`. -/
def isIn (needle text : String) : Bool := decide (needle.toList <:+: text.toList)

def throttleWords : List String :=
  ["temporarily limiting requests", "rate limit", "rate-limit", "ratelimit", "hit your limit",
    "usage limit", "too many requests", "overloaded", "quota exceeded", "usage quota"]

/-- `re.search(r"\b(429|529)\b", text)`, letter by letter. -/
def standsAlone (texts : Texts) : Bool → List Char → Bool
  | _, [] => false
  | insideWord, c :: rest =>
      (!insideWord && ["429", "529"].any fun code =>
        code.toList.isPrefixOf (c :: rest) && !(((c :: rest).drop 3).head?.any texts.isWord)) ||
      standsAlone texts (texts.isWord c) rest

/-- `_is_provider_rate_limit_error`. -/
def isProviderRateLimitError (texts : Texts) (text : String) : Bool :=
  throttleWords.any (isIn · (lower text)) || standsAlone texts false (lower text).toList

/-- `TURN_ENDED_WITHOUT_REPLY`. -/
def turnEndedWithoutReply : String := String.join
  ["Turn ended without a reply — this RUN was closed, which is NOT the same as the agent stopping: ",
    "the worker may still be alive and working. Cause NOT DETERMINED; possible: a model-provider ",
    "throttle (429/529), a provider safety or policy refusal, a mid-turn interrupt, or a stall. ",
    "Failed by reconcile so the run isn't stranded as 'delivered'. Before treating the agent as dead, ",
    "read its console (comms_console_tail) or comms_agent_info — this line is bookkeeping about one ",
    "run, not evidence about the process."]

/-- `NO_WORKER_LEFT_TO_REPLY`. -/
def noWorkerLeftToReply : String := String.join
  ["No reply, and nothing is left that could send one: the agent has no live worker or session to ",
    "finish this run (it stopped, crashed or was restarted). Failed by reconcile so the run isn't ",
    "stranded as 'delivered'. Resend when the agent is back; an available managed agent cold-starts ",
    "on send."]

/-- `is_service_authored`. -/
def isServiceAuthored (text : String) : Bool :=
  let candidate := strip text
  decide (candidate ≠ "") &&
    ([turnEndedWithoutReply, noWorkerLeftToReply].any (fun reason =>
      isIn reason candidate || isIn candidate reason) ||
    ["Failed by reconcile so the run isn't stranded", "Turn was INTERRUPTED by"].any (isIn · candidate))

/-- `_auto_handoff_subject_for_run`. -/
def autoHandoffSubject (contract : Contract) (run : Run) : String :=
  let subject := strip (orElse contract.subject (orElse contract.id "dispatch result"))
  if normalise run.status = "failed" then "[FAILED] " ++ subject
  else if normalise run.status = "cancelled" then "[CANCELLED] " ++ subject
  else "Re: " ++ subject

def throttleNote (contract : Contract) : String :=
  String.join ["⚠️ ", orElse (strip contract.targetAgent) "The agent",
    " couldn't respond — its model provider is rate-limiting / at a usage ",
    "limit right now (a provider-side throttle, not your request). Please retry shortly."]

/-- `_auto_handoff_body_for_run`. -/
def autoHandoffBody (texts : Texts) (contract : Contract) (run : Run) : String :=
  let fromDashboard := decide (strip contract.fromAgent = "dashboard")
  let under (intro detail : String) := String.join [intro, "\n\n", detail]
  if normalise run.status = "failed" then
    let detail := strip (orElse run.errorText (orElse run.summary "Run failed."))
    if isProviderRateLimitError texts detail && !isServiceAuthored detail then
      under (throttleNote contract) detail
    else if fromDashboard then under "The run failed before the agent sent a chat reply." detail
    else under ("Auto-mirrored dispatch failure because no explicit reply message was recorded for the " ++
      "run.") detail
  else if normalise run.status = "cancelled" then
    let detail := strip (orElse run.summary "Run cancelled.")
    if fromDashboard then under "The run was cancelled before the agent sent a chat reply." detail
    else under ("Auto-mirrored dispatch cancellation because no explicit reply message was recorded for " ++
      "the run.") detail
  else strip (orElse run.summary "Run completed.")

/-! ### The messages -/

/-- A row of `messages`. `mirror` says that a settlement or a sweep wrote it, which the row
itself does not record. -/
structure Message where
  fromAgent : String
  toAgent : String
  messageType : String
  subject : String
  body : String
  inReplyTo : String
  mirror : Bool

abbrev Messages := Dict String Message

/-- `_is_replaceable_auto_handoff_message`. -/
def isReplaceableAutoHandoffMessage (texts : Texts) (contract : Contract) (run : Run) :
    Option Message → Bool
  | none => true
  | some existing =>
      "Auto-mirrored dispatch ".toList.isPrefixOf existing.body.toList ||
      decide (existing.body = autoHandoffBody texts contract run ∧
        strip existing.subject = autoHandoffSubject contract run ∧
        strip existing.fromAgent = strip contract.targetAgent ∧
        strip existing.toAgent = strip contract.fromAgent ∧
        strip existing.inReplyTo = strip contract.messageId)

/-! ### A reply -/

/-- `_HANDOFF_REPLY_TYPES`. -/
def handoffReplyTypes : List String := ["response", "review", "error", "approval"]

/-- `_message_satisfies_reply_contract`. -/
def satisfiesReplyContract (texts : Texts) (messageType subject body : String) : Bool :=
  decide (normalise messageType ∈ handoffReplyTypes) ||
    (decide (normalise messageType = "info") &&
      texts.signalsCompletion (String.join [subject, "\n", body]))

/-- A send, with the row it stores. It is threaded when it names the message it answers. -/
structure Reply where
  id : String
  message : Message
  timestampMs : Nat

/-- `_UNTHREADED_HANDOFF_WINDOW_MS`. -/
def unthreadedHandoffWindowMs : Nat := 24 * 60 * 60 * 1000

/-- A terminal turn of Claude's that is under way takes an unthreaded reply it does not owe. -/
def isActiveTerminalTurn (dispatchMode runtime status : String) : Bool :=
  decide (dispatchMode = "terminal" ∧ runtime = "claude-code" ∧ status ∈ ["claimed", "running"])

/-- Whether a reply may close the run, before the message recorded on it is looked at: the
reply's contract, and the run's columns in the SELECT. -/
def mayAnswer (texts : Texts) (contract : Contract) (run : Run) (reply : Reply) : Bool :=
  if reply.message.inReplyTo ≠ "" then
    (decide (normalise reply.message.messageType = "request") ||
      satisfiesReplyContract texts reply.message.messageType "" reply.message.body) &&
    decide (contract.targetAgent = reply.message.fromAgent ∧
      (contract.messageId = reply.message.inReplyTo ∨
        reply.message.inReplyTo ∈ contract.itemMessageIds))
  else
    satisfiesReplyContract texts reply.message.messageType reply.message.subject reply.message.body &&
    decide (reply.message.fromAgent ≠ "" ∧ reply.message.toAgent ≠ "" ∧ reply.id ≠ "" ∧
      contract.targetAgent = reply.message.fromAgent ∧ contract.fromAgent = reply.message.toAgent ∧
      run.status ∈ ["delivered", "claimed", "running", "completed", "failed", "cancelled"] ∧
      (reply.timestampMs - unthreadedHandoffWindowMs) / 1000 ≤ contract.requestedAt ∧
      contract.requestedAt ≤ reply.timestampMs / 1000) &&
    (run.requireReply || isActiveTerminalTurn contract.dispatchMode run.runtime run.status)

/-- `_mark_dispatch_run_answered`, on the row as it stands. -/
def markDispatchRunAnswered (contract : Contract) (run : Run) (replyId currentStatus : String)
    (executionMode : String) (now : Nat) : Run :=
  let status := normalise currentStatus
  let working := decide (status ∈ ["claimed", "running"])
  if decide (status ∈ ["queued", "delivered"]) ||
      (decide (normalise executionMode ∈ ["channel", "resident"]) && working) ||
      (decide (normalise contract.dispatchMode = "terminal") && working) then
    { run with
      resultMessageId := replyId
      status := "completed"
      finishedAt := some (run.finishedAt.getD now) }
  else { run with resultMessageId := replyId }

/-- `_link_reply_message_to_dispatch_run` and `_link_unthreaded_reply_to_recent_dispatch_run`
on the run that their SELECT found. -/
def linkReply (texts : Texts) (contract : Contract) (messages : Messages) (run : Run) (reply : Reply)
    (now : Nat) : Run :=
  if mayAnswer texts contract run reply then
    if strip run.resultMessageId ≠ "" ∧ isReplaceableAutoHandoffMessage texts contract run
        (messages.get? (strip run.resultMessageId)) = false then run
    else markDispatchRunAnswered contract run reply.id run.status contract.executionMode now
  else run

/-- Whether `_link_unthreaded_completion_message_for_run` looks for a message that answers the
row it was given. -/
def seeksCompletion (contract : Contract) (read : Run) : Bool :=
  (read.requireReply || (decide (normalise read.runtime ∈ claudeRuntimes) &&
      isActiveTerminalTurn (normalise contract.dispatchMode) "claude-code" (normalise read.status))) &&
    decide (strip read.resultMessageId = "" ∧ strip contract.fromAgent ≠ "" ∧
      strip contract.targetAgent ≠ "" ∧ contract.requestedAt ≠ 0)

/-! ### The system -/

structure World where
  state : DispatchHandoff.World
  messages : Messages

def World.run (world : World) : Run := world.state.row.run

def World.answer (world : World) : String := world.run.resultMessageId

def parties (contract : Contract) : Parties :=
  ⟨decide (strip contract.fromAgent = "dashboard"), contract.targetAgent⟩

/-- What `_mirror_missing_dispatch_handoff` stores. -/
def handoffMessage (texts : Texts) (contract : Contract) (run : Run) : Message :=
  ⟨strip contract.targetAgent, strip contract.fromAgent,
    if normalise run.status = "failed" then "error" else "response",
    autoHandoffSubject contract run, autoHandoffBody texts contract run, contract.messageId, true⟩

/-- What `_mirror_dashboard_run_summary_to_chat` stores. -/
def summaryMessage (contract : Contract) (run : Run) : Message :=
  ⟨strip contract.targetAgent, "dashboard", "response", autoHandoffSubject contract run,
    strip run.summary, strip contract.messageId, true⟩

/-- The world after a settlement or a sweep on `told`, with the messages it stored. -/
def World.settled (texts : Texts) (contract : Contract) (world : World) (told : Run)
    (handoffId : String) (state : DispatchHandoff.World) : World :=
  ⟨state, (state.mirrored.drop world.state.mirrored.length).foldl (fun messages id =>
    messages.set id (if id = handoffId then handoffMessage texts contract told
      else summaryMessage contract told)) world.messages⟩

def World.isNew (world : World) (id : String) : Bool := (world.messages.get? id).isNone

def World.moved (world : World) (state : DispatchHandoff.World) : World :=
  { world with state := state }

def World.linked (world : World) (run : Run) : World :=
  world.moved { world.state with row := { world.state.row with run := run } }

def World.stores (world : World) (id : String) (message : Message) : World :=
  { world with messages := world.messages.set id message }

/-- The rows `repair_dispatch_handoffs` mirrors. -/
def repairable (row : Row) : Bool :=
  row.run.requireReply && decide (row.run.status ∈ terminalStatuses) &&
    decide (row.run.resultMessageId = "") && !isDeliveryOnlyClaudeRun row.run

inductive Label where
  | read (request : Nat) (patch : Patch) (now : Nat)
  | write (request : Nat) (found : Settlement)
  | select (sweep : Nat)
  | sweep (sweep : Nat) (messageId : String)
  | reconcile (sweep : Nat) (messageId : String) (now : Nat)
  | reap (status : String) (now : Nat)
  | reply (reply : Reply) (now : Nat)
  | send (messageId : String) (message : Message)
  | steered (messageId : String) (now : Nat)

/-- The messages that `_link_unthreaded_completion_message_for_run` may link. -/
def isCompletion (texts : Texts) (contract : Contract) (message : Message) : Bool :=
  decide (message.fromAgent = strip contract.targetAgent ∧
    message.toAgent = strip contract.fromAgent ∧ message.inReplyTo = "") &&
  satisfiesReplyContract texts message.messageType message.subject message.body

/-- The ids minted here name no message yet. A sweep, a repair and a reconciler act on the row
they selected. `send` stores what answers no run or another one, and `steered` is the
settlement of the run that this one was steered into. -/
def step (texts : Texts) (contract : Contract) (world : World) : Label → Option World
  | .read request patch now =>
      (DispatchHandoff.step (parties contract) world.state (.read request patch now)).map world.moved
  | .write request found =>
      if world.isNew found.handoffId && world.isNew found.summaryId &&
          decide (found.handoffId ≠ found.summaryId) then
        (DispatchHandoff.step (parties contract) world.state (.write request found)).map fun state =>
          world.settled texts contract state.row.run found.handoffId state
      else none
  | .select sweep =>
      match world.state.sweeps sweep with
      | some _ => none
      | none => some (world.moved { world.state with
          sweeps := Function.update world.state.sweeps sweep (some world.state.row) })
  | .sweep sweep messageId =>
      match world.state.sweeps sweep with
      | some read =>
          if (unmirroredFailed read || repairable read) && world.isNew messageId then
            (DispatchHandoff.step (parties contract) world.state (.sweep sweep messageId)).map
              fun state => world.settled texts contract read.run messageId state
          else none
      | none => none
  | .reconcile sweep messageId now =>
      match world.state.sweeps sweep with
      | some read =>
          if decide (read.run.status ∈ ["claimed", "running"]) && seeksCompletion contract read.run &&
              (world.messages.get? messageId).any (isCompletion texts contract) then
            some (world.linked (markDispatchRunAnswered contract world.run messageId
              read.run.status contract.executionMode now))
          else none
      | none => none
  | .reap status now =>
      (DispatchHandoff.step (parties contract) world.state (.reap status now)).map world.moved
  | .reply reply now =>
      if world.isNew reply.id && decide (strip reply.id ≠ "") then
        -- The reply is stored first, and by an agent or the operator.
        let stored := world.stores reply.id { reply.message with mirror := false }
        some (stored.linked (linkReply texts contract stored.messages world.run reply now))
      else none
  | .send messageId message =>
      if world.isNew messageId then some (world.stores messageId message) else none
  | .steered messageId now =>
      if world.run.status = "delivered" ∧ world.answer = "" ∧ strip messageId ≠ "" then
        some (world.linked (markDispatchRunAnswered contract world.run (strip messageId)
          "delivered" "" now))
      else none

/-! ### When an answer stays -/

/-- The run's answer names a message that the service did not mirror. -/
structure RealAnswer (world : World) : Prop where
  named : strip world.answer ≠ ""
  written : ∃ message, world.messages.get? (strip world.answer) = some message ∧
    message.mirror = false

/-- The reply id a PATCH carries is the one recorded, or a blank one from a request that read
one recorded. -/
def patchKeeps (answer : String) (pending : DispatchHandoff.Pending) : Bool :=
  pending.patch.resultMessageId.all fun value =>
    decide (strip value = answer) ||
      (decide (strip value = "") && decide (strip pending.row.run.resultMessageId ≠ ""))

/-- The message recorded does not read as a mirror when a reply could answer the run; a PATCH
carries no other reply id; a repair did not select the run completed, nor a reconciler as
unanswered, before the answer came. -/
def keepsAnswer (texts : Texts) (contract : Contract) (world : World) : Label → Bool
  | .write request _ => (world.state.pending request).all (patchKeeps world.answer)
  | .sweep sweep _ => (world.state.sweeps sweep).all fun read =>
      !mirrors read || decide (normalise read.run.status ∈ failedOrCancelled)
  | .reconcile sweep _ _ => (world.state.sweeps sweep).all fun read =>
      !seeksCompletion contract read.run
  | .reply reply _ =>
      !mayAnswer texts contract world.run reply || !isReplaceableAutoHandoffMessage texts contract
        world.run (world.messages.get? (strip world.answer))
  | _ => true

def KeepsAnswer (texts : Texts) (contract : Contract) (world : World) (label : Label) : Prop :=
  keepsAnswer texts contract world label = true

/-! ### Each writer of the answer -/

@[simp] theorem markDispatchRunAnswered_result (contract : Contract) (run : Run)
    (replyId currentStatus executionMode : String) (now : Nat) :
    (markDispatchRunAnswered contract run replyId currentStatus executionMode now).resultMessageId =
      replyId := by
  simp only [markDispatchRunAnswered]
  split <;> rfl

/-- A reply leaves the answer exactly when it may not answer the run, or what is recorded does
not read as a mirror, or is the reply itself. -/
theorem linkReply_keeps_iff (texts : Texts) (contract : Contract) (messages : Messages) (run : Run)
    (reply : Reply) (now : Nat) (named : strip run.resultMessageId ≠ "") :
    (linkReply texts contract messages run reply now).resultMessageId = run.resultMessageId ↔
      (mayAnswer texts contract run reply = true →
        isReplaceableAutoHandoffMessage texts contract run
            (messages.get? (strip run.resultMessageId)) = false ∨
          reply.id = run.resultMessageId) := by
  unfold linkReply
  by_cases may : mayAnswer texts contract run reply = true
  · rw [if_pos may]
    cases replaceable : isReplaceableAutoHandoffMessage texts contract run
        (messages.get? (strip run.resultMessageId)) with
    | false => simp [named]
    | true => simp [may]
  · simp [may]

theorem otherUpdates_keeps_iff (row run : Run) (patch : Patch) (named : strip run.resultMessageId ≠ "") :
    (otherUpdates row run patch).resultMessageId = run.resultMessageId ↔
      ∀ value, patch.resultMessageId = some value →
        strip value = run.resultMessageId ∨ (strip value = "" ∧ strip row.resultMessageId ≠ "") := by
  cases given : patch.resultMessageId with
  | none => simp [otherUpdates, given]
  | some value =>
      have differs : run.resultMessageId ≠ "" := by
        intro blank
        rw [blank] at named
        exact named (by decide)
      by_cases blank : strip value = ""
      · by_cases recorded : strip row.resultMessageId = ""
        · simp [otherUpdates, given, blank, recorded, differs.symm]
        · simp [otherUpdates, given, blank, recorded]
      · simp [otherUpdates, given, blank]

/-- A settlement leaves an answer that the write before it left. -/
theorem patchRow_keeps (contract : Contract) (world : DispatchHandoff.World)
    (pending : DispatchHandoff.Pending) (found : Settlement)
    (named : strip world.row.run.resultMessageId ≠ "")
    (keeps : patchKeeps world.row.run.resultMessageId pending = true) :
    (patchRow (parties contract) world pending found).1.run.resultMessageId =
        world.row.run.resultMessageId ∧
      (patchRow (parties contract) world pending found).2 = [] := by
  have kept : (update pending.row.run world.row.run pending.patch pending.now none).run.resultMessageId =
      world.row.run.resultMessageId := by
    rw [update_result, otherUpdates_keeps_iff _ _ _ named]
    intro value given
    simpa [patchKeeps, given] using keeps
  simp only [patchRow]
  split
  · rw [settleTerminatedDispatchRun_told]
    · exact ⟨kept, rfl⟩
    · rw [alreadyMirrored_iff, kept]
      exact .inl named
  · exact ⟨kept, rfl⟩

/-- A sweep that selected a failed run writes a notice beside the answer. -/
theorem mirrorMissingDispatchHandoff_keeps {read : Row} (current : Row) (messageId : String)
    (keeps : mirrors read = true → normalise read.run.status ∈ failedOrCancelled) :
    (mirrorMissingDispatchHandoff read current messageId).1.run = current.run := by
  unfold mirrorMissingDispatchHandoff
  by_cases due : mirrors read = true
  · rw [if_pos due, if_pos (keeps due)]
  · rw [if_neg due]

/-! ### Every message stays stored -/

def Extends (before after : Messages) : Prop :=
  ∀ id message, before.get? id = some message → after.get? id = some message

theorem Extends.refl (messages : Messages) : Extends messages messages := fun _ _ stored => stored

theorem World.isNew_ne {world : World} {new id : String} {message : Message}
    (isNew : world.isNew new = true) (stored : world.messages.get? id = some message) : new ≠ id := by
  intro same
  rw [World.isNew, same, stored] at isNew
  cases isNew

theorem World.stores_extends {world : World} {id : String} (message : Message)
    (isNew : world.isNew id = true) : Extends world.messages (world.stores id message).messages := by
  intro other kept stored
  rw [World.stores, Dict.get?_set_ne _ _ (World.isNew_ne isNew stored)]
  exact stored

/-- A settlement that stored nothing. -/
theorem World.settled_nothing (texts : Texts) (contract : Contract) (world : World) (told : Run)
    (handoffId : String) {state : DispatchHandoff.World}
    (nothing : state.mirrored = world.state.mirrored ++ []) :
    (world.settled texts contract told handoffId state).messages = world.messages := by
  simp [World.settled, nothing]

/-- A settlement that stored its notice. -/
theorem World.settled_notice (texts : Texts) (contract : Contract) (world : World) (told : Run)
    (handoffId : String) {state : DispatchHandoff.World}
    (notice : state.mirrored = world.state.mirrored ++ [handoffId]) :
    (world.settled texts contract told handoffId state).messages =
      (world.stores handoffId (handoffMessage texts contract told)).messages := by
  simp [World.settled, World.stores, notice]

/-! ### Runs -/

/-- One step leaves the answer and every message. -/
structure Leaves (before after : World) : Prop where
  answer : after.answer = before.answer
  messages : Extends before.messages after.messages

theorem RealAnswer.next {before after : World} (real : RealAnswer before) (leaves : Leaves before after) :
    RealAnswer after := by
  obtain ⟨message, stored, written⟩ := real.written
  constructor
  · rw [leaves.answer]
    exact real.named
  · rw [leaves.answer]
    exact ⟨message, leaves.messages _ _ stored, written⟩

theorem step_write_leaves {texts : Texts} {contract : Contract} {before after : World} {request : Nat}
    {found : Settlement} (real : RealAnswer before)
    (allowed : KeepsAnswer texts contract before (.write request found))
    (taken : step texts contract before (.write request found) = some after) :
    Leaves before after := by
  obtain ⟨_, executed⟩ := Option.ite_none_right_eq_some.mp taken
  obtain ⟨state, wrote, rfl⟩ := Option.map_eq_some_iff.mp executed
  obtain ⟨pending, held, _, _, row, mirrored⟩ := step_write wrote
  have keeps : patchKeeps before.answer pending = true := by
    simpa [KeepsAnswer, keepsAnswer, held] using allowed
  obtain ⟨kept, nothing⟩ := patchRow_keeps contract before.state pending found real.named keeps
  rw [nothing] at mirrored
  constructor
  · rw [← row] at kept
    exact kept
  · rw [World.settled_nothing texts contract before _ _ mirrored]
    exact Extends.refl _

theorem step_sweep_leaves {texts : Texts} {contract : Contract} {before after : World} {sweep : Nat}
    {messageId : String} (allowed : KeepsAnswer texts contract before (.sweep sweep messageId))
    (taken : step texts contract before (.sweep sweep messageId) = some after) :
    Leaves before after := by
  simp only [step] at taken
  split at taken
  · next read held =>
      obtain ⟨selected, executed⟩ := Option.ite_none_right_eq_some.mp taken
      obtain ⟨state, swept, rfl⟩ := Option.map_eq_some_iff.mp executed
      have isNew : before.isNew messageId = true := (Bool.and_eq_true_iff.mp selected).2
      simp only [DispatchHandoff.step, held] at swept
      obtain ⟨_, written⟩ := Option.ite_none_left_eq_some.mp swept
      obtain rfl := Option.some.inj written
      have keeps : mirrors read = true → normalise read.run.status ∈ failedOrCancelled := by
        intro due
        simpa [KeepsAnswer, keepsAnswer, held, due] using allowed
      constructor
      · exact congrArg Run.resultMessageId (mirrorMissingDispatchHandoff_keeps _ messageId keeps)
      · by_cases due : mirrors read = true
        · rw [World.settled_notice]
          · exact World.stores_extends _ isNew
          · simp [mirrorMissingDispatchHandoff, due, keeps due]
        · rw [World.settled_nothing]
          · exact Extends.refl _
          · simp [mirrorMissingDispatchHandoff, due]
  · cases taken

theorem step_reply_leaves {texts : Texts} {contract : Contract} {before after : World} {reply : Reply}
    {now : Nat} (real : RealAnswer before)
    (allowed : KeepsAnswer texts contract before (.reply reply now))
    (taken : step texts contract before (.reply reply now) = some after) :
    Leaves before after := by
  obtain ⟨fresh, linked⟩ := Option.ite_none_right_eq_some.mp taken
  obtain rfl := Option.some.inj linked
  have isNew : before.isNew reply.id = true := (Bool.and_eq_true_iff.mp fresh).1
  obtain ⟨message, stored, _⟩ := real.written
  have extended := World.stores_extends { reply.message with mirror := false } isNew
  constructor
  · refine (linkReply_keeps_iff texts contract _ before.run reply now real.named).mpr fun may => .inl ?_
    -- The message the reply finds recorded is the one that was there before it was stored.
    have found := extended _ _ stored
    simp only [World.answer] at found stored
    rw [found]
    simpa [KeepsAnswer, keepsAnswer, may, World.answer, stored] using allowed
  · exact extended

theorem step_leaves {texts : Texts} {contract : Contract} {before after : World} {label : Label}
    (real : RealAnswer before) (allowed : KeepsAnswer texts contract before label)
    (taken : step texts contract before label = some after) : Leaves before after := by
  cases label with
  | read request patch now =>
      obtain ⟨state, read, rfl⟩ := Option.map_eq_some_iff.mp taken
      simp only [DispatchHandoff.step] at read
      split at read
      · cases read
      · obtain rfl := Option.some.inj read
        exact ⟨rfl, Extends.refl _⟩
  | write request found => exact step_write_leaves real allowed taken
  | select sweep =>
      simp only [step] at taken
      split at taken
      · cases taken
      · obtain rfl := Option.some.inj taken
        exact ⟨rfl, Extends.refl _⟩
  | sweep sweep messageId => exact step_sweep_leaves allowed taken
  | reconcile sweep messageId now =>
      simp only [step] at taken
      split at taken
      · next read held =>
          obtain ⟨seeks, _⟩ := Option.ite_none_right_eq_some.mp taken
          have answered : seeksCompletion contract read.run = false := by
            simpa [KeepsAnswer, keepsAnswer, held] using allowed
          simp [answered] at seeks
      · cases taken
  | reap status now =>
      obtain ⟨state, reaped, rfl⟩ := Option.map_eq_some_iff.mp taken
      obtain ⟨_, written⟩ := Option.ite_none_right_eq_some.mp reaped
      obtain rfl := Option.some.inj written
      exact ⟨rfl, Extends.refl _⟩
  | reply reply now => exact step_reply_leaves real allowed taken
  | send messageId message =>
      obtain ⟨isNew, stored⟩ := Option.ite_none_right_eq_some.mp taken
      obtain rfl := Option.some.inj stored
      exact ⟨rfl, World.stores_extends message isNew⟩
  | steered messageId now =>
      -- A settlement closes the runs steered into its own only where they have no answer.
      obtain ⟨⟨_, unanswered, _⟩, _⟩ := Option.ite_none_right_eq_some.mp taken
      refine absurd ?_ real.named
      rw [unanswered]
      decide

/-- **In every run of replies, PATCHes, settlements and sweeps that keep the answer, an answer
that the service did not mirror stays the run's answer.** -/
theorem real_answer_kept (texts : Texts) (contract : Contract) (before after : World)
    (real : RealAnswer before)
    (reached : Reaches (step texts contract) (KeepsAnswer texts contract) before after) :
    after.answer = before.answer ∧ RealAnswer after := by
  apply reached.invariant fun world => world.answer = before.answer ∧ RealAnswer world
  · exact ⟨rfl, real⟩
  · intro middle label next kept allowed taken
    have leaves := step_leaves kept.2 allowed taken
    exact ⟨leaves.answer.trans kept.1, kept.2.next leaves⟩

/-- Word characters of ASCII texts; an `info` message claims completion with a word of its own. -/
def asciiTexts : Texts := ⟨fun c => c.isAlphanum || c == '_', fun text => isIn " done" (lower text)⟩

/-- A manager asks a coder to ship. -/
def shipping : Contract :=
  ⟨"run-1", "Ship the thing", "manager-bot", "sc-coder", "msg-1", [], "managed", "start", 1000⟩

def shippingRun : World :=
  ⟨DispatchHandoff.initial owingRun, Dict.empty⟩

def coderReply (id body : String) : Reply :=
  ⟨id, ⟨"sc-coder", "manager-bot", "response", "Re: Ship the thing", body, "msg-1", false⟩, 1500000⟩

/-- The coder answers; the bridge reports the completion, the coder writes again, and a late
report finds the run ended. -/
def answeredFirst : List Label := [.reply (coderReply "reply-1" "Shipped: see the branch.") 5]

def reportedAfter : List Label :=
  [.read 1 (report "completed") 6, .write 1 ⟨"handoff-1", "chat-1", none⟩,
    .reply (coderReply "reply-2" "One more note.") 7, .read 2 (report "failed") 8,
    .write 2 ⟨"handoff-2", "chat-2", none⟩]

/-- What of a world says whose words the answer is. -/
def World.seen (world : World) : String × Option Bool :=
  (world.answer, (world.messages.get? (strip world.answer)).map Message.mirror)

theorem realAnswer_of_seen {world : World} {answer : String} (named : strip answer ≠ "")
    (seen : world.seen = (answer, some false)) : RealAnswer world := by
  obtain ⟨is, mirror⟩ := Prod.mk.inj seen
  constructor
  · rw [is]
    exact named
  · exact Option.map_eq_some_iff.mp mirror

theorem shipped_answer_kept :
    ∃ before after,
      Reaches (step asciiTexts shipping) anyStep shippingRun before ∧ RealAnswer before ∧
      Reaches (step asciiTexts shipping) (KeepsAnswer asciiTexts shipping) before after ∧
      before.answer = "reply-1" ∧ after.run.status = "completed" ∧ after.answer = before.answer := by
  have first : (exec (step asciiTexts shipping) (fun _ _ => true) shippingRun answeredFirst).map
      World.seen = some ("reply-1", some false) := by decide
  have second : ((exec (step asciiTexts shipping) (fun _ _ => true) shippingRun answeredFirst).bind
      fun before => exec (step asciiTexts shipping) (keepsAnswer asciiTexts shipping) before
        reportedAfter).map (fun world => world.run.status) = some "completed" := by decide
  obtain ⟨before, executed, seen⟩ := Option.map_eq_some_iff.mp first
  rw [executed, Option.bind_some] at second
  obtain ⟨after, onward, status⟩ := reaches_observed _ _ _ _ (fun _ _ granted => granted) second
  have real : RealAnswer before := realAnswer_of_seen (by decide) seen
  have kept := real_answer_kept asciiTexts shipping before after real onward
  exact ⟨before, after, reaches_exec (fun _ _ _ => trivial) executed, real, onward,
    congrArg Prod.fst seen, status, kept.1⟩

/-- The coder quotes a mirror it was shown, and writes again. -/
def quotedMirror : Label :=
  .reply (coderReply "reply-1" "Auto-mirrored dispatch failure is what I saw; the fix is pushed.") 5

def wroteAgain : Label := .reply (coderReply "reply-2" "One more note.") 6

theorem quoted_answer_replaced :
    ∃ before after,
      Reaches (step asciiTexts shipping) anyStep shippingRun before ∧ RealAnswer before ∧
      step asciiTexts shipping before wroteAgain = some after ∧
      before.answer = "reply-1" ∧ after.answer = "reply-2" := by
  have first : (exec (step asciiTexts shipping) (fun _ _ => true) shippingRun
      [quotedMirror]).map World.seen = some ("reply-1", some false) := by decide
  have second : (exec (step asciiTexts shipping) (fun _ _ => true) shippingRun
      ([quotedMirror] ++ [wroteAgain])).map World.seen = some ("reply-2", some false) := by
    decide
  obtain ⟨before, after, reached, _, taken, seen, replaced⟩ :=
    reaches_last _ _ _ _ _ _ (fun _ _ _ => trivial) first second
  exact ⟨before, after, reached, realAnswer_of_seen (by decide) seen, taken,
    congrArg Prod.fst seen, congrArg Prod.fst replaced⟩

end AifyComms.RealAnswers
