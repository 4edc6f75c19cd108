import AifyComms.SendNonce

/-!
Which other machine a sender id belongs to: `refuse_external_impersonation` of
`api_core/external_keys.py` and the part of `send_message` around it. The machine
is the label of the external key a request carried; it is written to every row
the request stores, and ownership is a query over those rows.

The two queries of the check run before any write, each on the last commit. The
UPDATE of `_touch_agent` then takes the write lock, so the rest of the request is
one step: it gives up, or inserts its rows and commits. What decides between the
two is an input, as are the ids it mints.
-/

namespace AifyComms.ExternalSenders
open PyText Runs SendNonce

/-! ### The check -/

/-- SQLite's `NOCASE`, and `str.lower` on a name that `SAFE_NAME_RE` admits. -/
def fold (name : String) : String := String.ofList (name.toList.map Char.toLower)

def isNameChar (c : Char) : Bool := c.isAlphanum || c = '.' || c = '_' || c = '-'

/-- `SAFE_NAME_RE`. -/
def safeName (name : String) : Bool :=
  match name.toList with
  | [] => false
  | first :: rest => first.isAlphanum && rest.all isNameChar && decide (rest.length ≤ 127)

def serviceSenders : List String := ["dashboard", "operator", "aify-comms", "_system"]

structure Refusal where
  status : Nat
  detail : String
  deriving DecidableEq

def invalidSender : Refusal :=
  ⟨400, "Invalid sender (from_agent): must be 1-128 alphanumeric chars, dots, hyphens, underscores."⟩

def unnamed (machine : String) : Refusal :=
  ⟨400, "A message sent with the external key for '" ++ machine ++
    "' must name its sender (from_agent)."⟩

def livesHere (sender machine : String) : Refusal :=
  ⟨403, "'" ++ sender ++ "' is an agent on this service, and the external key for '" ++ machine ++
    "' speaks only for agents on that machine. Send as the agent's own id there."⟩

def ownedElsewhere (sender owner machine : String) : Refusal :=
  ⟨403, "'" ++ sender ++ "' has already sent here with the key for '" ++ owner ++
    "', so the key for '" ++ machine ++ "' cannot speak for it. Each machine's agents need names of their own."⟩

def registered (agents : List String) (sender : String) : Bool :=
  agents.any fun agent => fold agent = fold sender

/-- A row that another machine's key carried under the same id. -/
def fromOtherMachine (sender machine : String) (row : MessageRow) : Bool :=
  decide (fold row.fromAgent = fold sender) && decide (row.externalMachine ≠ "") &&
    decide (row.externalMachine ≠ machine)

def otherMachine (messages : List MessageRow) (sender machine : String) : Option String :=
  (messages.find? (fromOtherMachine sender machine)).map MessageRow.externalMachine

/-! ### The rows of a send -/

/-- What the rest of the handler resolves and mints. -/
structure Sent where
  messageId : String
  recipients : List String
  parent : Option String
  fingerprint : String
  timestamp : Nat

def clientNonce (req : MessageSend) : String := strip (req.clientNonce.getD "")

def messageRow (req : MessageSend) (sent : Sent) (index : Nat) (recipient : String) : MessageRow where
  id := recipientMessageId sent.messageId sent.recipients recipient
  fromAgent := req.fromAgent
  toAgent := recipient
  type := req.type
  subject := req.subject
  body := req.body
  priority := req.priority
  dispatchRequested := req.trigger && recipient ≠ "dashboard"
  inReplyTo := sent.parent
  clientNonce := clientNonce req
  sendFingerprint := sent.fingerprint
  noncePrimary := decide (clientNonce req ≠ "") && decide (index = 0)
  origin := req.origin
  externalMachine := req.externalMachine
  timestamp := sent.timestamp

/-- The insert loop: a row that loses the nonce ends it. -/
def insertRows (messages : List MessageRow) (req : MessageSend) (sent : Sent) :
    Nat → List String → List MessageRow → List MessageRow
  | _, [], staged => staged
  | index, recipient :: rest, staged =>
      let row := messageRow req sent index recipient
      if ignored (messages ++ staged) row then
        if row.noncePrimary then staged else insertRows messages req sent (index + 1) rest staged
      else insertRows messages req sent (index + 1) rest (staged ++ [row])

/-! ### Any number of machines -/

/-- Where a request stands. `seen` are the messages its ownership query read. -/
inductive Phase where
  | asksRoster (req : MessageSend)
  | asksOwner (req : MessageSend)
  | admitted (req : MessageSend) (seen : List MessageRow)

structure World where
  agents : List String
  messages : List MessageRow
  requests : Nat → Option Phase
  refusals : List (Nat × Refusal)

def emptyWorld : World := ⟨[], [], fun _ => none, []⟩

/-- What precedes the queries. A request with no external key is not asked. -/
def begin (req : MessageSend) : Except Refusal Phase :=
  if req.fromAgent ≠ "" ∧ !safeName req.fromAgent then .error invalidSender
  else if req.externalMachine = "" then .ok (.admitted req [])
  else if req.fromAgent = "" then .error (unnamed req.externalMachine)
  else if fold req.fromAgent ∈ serviceSenders.map fold then
    .error (livesHere req.fromAgent req.externalMachine)
  else .ok (.asksRoster req)

def askRoster (agents : List String) (req : MessageSend) : Except Refusal Phase :=
  if registered agents req.fromAgent then .error (livesHere req.fromAgent req.externalMachine)
  else .ok (.asksOwner req)

def askOwner (messages : List MessageRow) (req : MessageSend) : Except Refusal Phase :=
  match otherMachine messages req.fromAgent req.externalMachine with
  | some owner => .error (ownedElsewhere req.fromAgent owner req.externalMachine)
  | none => .ok (.admitted req messages)

def enter (world : World) (request : Nat) : Except Refusal Phase → World
  | .ok phase => { world with requests := Function.update world.requests request (some phase) }
  | .error refusal => { world with
      requests := Function.update world.requests request none
      refusals := world.refusals ++ [(request, refusal)] }

inductive Label where
  | arrive (request : Nat) (req : MessageSend)
  | query (request : Nat)
  | write (request : Nat) (sent : Sent)
  | giveUp (request : Nat)
  | register (agent : String)
  | unregister (agent : String)
  | delete (ids : List String)

def step (world : World) : Label → Option World
  | .arrive request req =>
      match world.requests request with
      | some _ => none
      | none => some (enter world request (begin req))
  | .query request =>
      match world.requests request with
      | some (.asksRoster req) => some (enter world request (askRoster world.agents req))
      | some (.asksOwner req) => some (enter world request (askOwner world.messages req))
      | _ => none
  | .write request sent =>
      match world.requests request with
      | some (.admitted req _) => some { world with
          messages := world.messages ++ insertRows world.messages req sent 0 sent.recipients []
          requests := Function.update world.requests request none }
      | _ => none
  | .giveUp request =>
      match world.requests request with
      | some (.admitted _ _) =>
          some { world with requests := Function.update world.requests request none }
      | _ => none
  | .register agent => some { world with agents := world.agents ++ [agent] }
  | .unregister agent => some { world with agents := world.agents.filter (· ≠ agent) }
  | .delete ids => some { world with messages := world.messages.filter fun row => row.id ∉ ids }

/-! ### One machine per sender -/

/-- A request with an external key writes only if no other machine's message under
its sender's id was committed after its ownership query. -/
def undisturbed (world : World) : Label → Bool
  | .write request _ =>
      match world.requests request with
      | some (.admitted req seen) =>
          decide (req.externalMachine = "") || world.messages.all fun row =>
            decide (row ∈ seen) || !fromOtherMachine req.fromAgent req.externalMachine row
      | _ => true
  | _ => true

def Undisturbed (world : World) (label : Label) : Prop := undisturbed world label = true

/-- Any two rows of one id that external keys carried name one machine. -/
def OneMachine (messages : List MessageRow) : Prop :=
  ∀ left ∈ messages, ∀ right ∈ messages, left.externalMachine ≠ "" → right.externalMachine ≠ "" →
    fold left.fromAgent = fold right.fromAgent → left.externalMachine = right.externalMachine

theorem otherMachine_eq_none {messages : List MessageRow} {sender machine : String} :
    otherMachine messages sender machine = none ↔
      ∀ row ∈ messages, fromOtherMachine sender machine row = false := by
  simp [otherMachine]

theorem fromOtherMachine_eq_false {sender machine : String} {row : MessageRow} :
    fromOtherMachine sender machine row = false ↔ (fold row.fromAgent = fold sender →
      row.externalMachine ≠ "" → row.externalMachine = machine) := by
  simp only [fromOtherMachine, Bool.and_eq_false_iff, decide_eq_false_iff_not, not_not]
  tauto

theorem mem_insertRows {messages : List MessageRow} {req : MessageSend} {sent : Sent}
    {row : MessageRow} {recipients : List String} {index : Nat} {staged : List MessageRow}
    (inside : row ∈ insertRows messages req sent index recipients staged) :
    row ∈ staged ∨ ∃ place recipient, row = messageRow req sent place recipient := by
  induction recipients generalizing index staged with
  | nil => exact .inl inside
  | cons recipient rest ih =>
      simp only [insertRows] at inside
      split at inside
      · split at inside
        · exact .inl inside
        · exact ih inside
      · rcases ih inside with kept | new
        · rcases List.mem_append.mp kept with old | added
          · exact .inl old
          · exact .inr ⟨index, recipient, List.mem_singleton.mp added⟩
        · exact .inr new

/-- Rows of one request belong to its sender and its machine. -/
theorem inserted_row {messages : List MessageRow} {req : MessageSend} {sent : Sent}
    {row : MessageRow} (inside : row ∈ insertRows messages req sent 0 sent.recipients []) :
    row.fromAgent = req.fromAgent ∧ row.externalMachine = req.externalMachine := by
  rcases mem_insertRows inside with absent | ⟨place, recipient, rfl⟩
  · cases absent
  · exact ⟨rfl, rfl⟩

theorem OneMachine.subset {messages kept : List MessageRow} (owned : OneMachine messages)
    (subset : ∀ row ∈ kept, row ∈ messages) : OneMachine kept :=
  fun left inLeft right inRight => owned left (subset left inLeft) right (subset right inRight)

/-- Rows of one sender and one machine join the stored ones when no stored row of
that sender is another machine's. -/
theorem OneMachine.insert {messages new : List MessageRow} {sender machine : String}
    (owned : OneMachine messages)
    (unowned : machine ≠ "" → ∀ row ∈ messages, fromOtherMachine sender machine row = false)
    (same : ∀ row ∈ new, row.fromAgent = sender ∧ row.externalMachine = machine) :
    OneMachine (messages ++ new) := by
  intro left inLeft right inRight leftExternal rightExternal sameId
  rcases List.mem_append.mp inLeft with leftOld | leftNew
  · rcases List.mem_append.mp inRight with rightOld | rightNew
    · exact owned left leftOld right rightOld leftExternal rightExternal sameId
    · obtain ⟨rfl, rfl⟩ := same right rightNew
      exact fromOtherMachine_eq_false.1 (unowned rightExternal left leftOld) sameId leftExternal
  · obtain ⟨rfl, rfl⟩ := same left leftNew
    rcases List.mem_append.mp inRight with rightOld | rightNew
    · exact (fromOtherMachine_eq_false.1 (unowned leftExternal right rightOld) sameId.symm
        rightExternal).symm
    · exact (same right rightNew).2.symm

/-- The stored rows keep one machine an id, and what an admitted request's query
read held no other machine's. -/
structure Owned (world : World) : Prop where
  rows : OneMachine world.messages
  checked : ∀ request req seen, world.requests request = some (.admitted req seen) →
    req.externalMachine ≠ "" →
    ∀ row ∈ seen, fromOtherMachine req.fromAgent req.externalMachine row = false

theorem begin_admitted {req other : MessageSend} {seen : List MessageRow}
    (admits : begin req = .ok (.admitted other seen)) : other.externalMachine = "" := by
  unfold begin at admits
  repeat' split at admits
  all_goals cases admits
  assumption

theorem askRoster_admitted {agents : List String} {req other : MessageSend}
    {seen : List MessageRow} : askRoster agents req ≠ .ok (.admitted other seen) := by
  unfold askRoster
  split <;> simp

theorem askOwner_admitted {messages seen : List MessageRow} {req other : MessageSend}
    (admits : askOwner messages req = .ok (.admitted other seen)) :
    ∀ row ∈ seen, fromOtherMachine other.fromAgent other.externalMachine row = false := by
  unfold askOwner at admits
  split at admits
  · cases admits
  · next unowned =>
      cases admits
      exact otherMachine_eq_none.1 unowned

/-- A request enters a phase; only its own admission is new. -/
theorem Owned.enter {world : World} (owned : Owned world) (request : Nat)
    {answer : Except Refusal Phase}
    (checked : ∀ req seen, answer = .ok (.admitted req seen) → req.externalMachine ≠ "" →
      ∀ row ∈ seen, fromOtherMachine req.fromAgent req.externalMachine row = false) :
    Owned (enter world request answer) := by
  have others (value : Option Phase)
      (own : ∀ req seen, value = some (.admitted req seen) → req.externalMachine ≠ "" →
        ∀ row ∈ seen, fromOtherMachine req.fromAgent req.externalMachine row = false) :
      ∀ other req seen, Function.update world.requests request value other =
        some (.admitted req seen) → req.externalMachine ≠ "" →
        ∀ row ∈ seen, fromOtherMachine req.fromAgent req.externalMachine row = false := by
    intro other req seen holds
    obtain ⟨_, entered⟩ | old := update_some holds
    · exact own req seen entered
    · exact owned.checked other req seen old
  cases answer with
  | ok phase =>
      refine ⟨owned.rows, others (some phase) fun req seen is => ?_⟩
      cases is
      exact checked req seen rfl
  | error refusal =>
      exact ⟨owned.rows, others none (by rintro _ _ ⟨⟩)⟩

theorem Owned.leave {world : World} (owned : Owned world) (request : Nat)
    {messages : List MessageRow} (rows : OneMachine messages) :
    Owned { world with
      messages := messages, requests := Function.update world.requests request none } := by
  refine ⟨rows, fun other req seen holds => ?_⟩
  obtain ⟨_, ⟨⟩⟩ | old := update_some holds
  exact owned.checked other req seen old

theorem step_owned {before after : World} {label : Label} (owned : Owned before)
    (allowed : Undisturbed before label) (taken : step before label = some after) :
    Owned after := by
  cases label with
  | arrive request req =>
      simp only [step] at taken
      split at taken
      · cases taken
      · cases taken
        apply owned.enter
        intro other seen admits external
        exact absurd (begin_admitted admits) external
  | query request =>
      simp only [step] at taken
      split at taken
      · cases taken
        exact owned.enter request fun _ _ admits => absurd admits askRoster_admitted
      · cases taken
        exact owned.enter request fun _ _ admits _ => askOwner_admitted admits
      · cases taken
  | write request sent =>
      simp only [step] at taken
      split at taken
      · next req seen admitted =>
          cases taken
          apply owned.leave
          apply owned.rows.insert _ fun row inside => inserted_row inside
          intro external row stored
          simp only [Undisturbed, undisturbed, admitted, external, decide_false, Bool.false_or,
            List.all_eq_true, Bool.or_eq_true, decide_eq_true_eq, Bool.not_eq_true'] at allowed
          rcases allowed row stored with read | quiet
          · exact owned.checked request req seen admitted external row read
          · exact quiet
      · cases taken
  | giveUp request =>
      simp only [step] at taken
      split at taken
      · cases taken
        exact owned.leave request owned.rows
      · cases taken
  | register agent =>
      cases taken
      exact ⟨owned.rows, owned.checked⟩
  | unregister agent =>
      cases taken
      exact ⟨owned.rows, owned.checked⟩
  | delete ids =>
      cases taken
      exact ⟨owned.rows.subset fun row inside => (List.mem_filter.mp inside).1, owned.checked⟩

/-- **In every run of sends from any machines whose ownership query still stands
when they write, no id has messages of two machines.** -/
theorem sender_keeps_machine (world : World)
    (reached : Reaches step Undisturbed emptyWorld world) : OneMachine world.messages := by
  have owned : Owned world := by
    apply reached.invariant Owned
    · constructor
      · rintro _ ⟨⟩
      · rintro _ _ _ ⟨⟩
    · exact fun _ _ _ owned allowed taken => step_owned owned allowed taken
  exact owned.rows

def externalSend (sender machine : String) : MessageSend where
  fromAgent := sender
  toAgent := some "lead"
  toRole := none
  type := "info"
  subject := ""
  body := "Ready."
  priority := "normal"
  inReplyTo := none
  trigger := false
  steer := none
  queueIfBusy := false
  requireReply := none
  clientNonce := none
  origin := ""
  externalMachine := machine

def sentAs (messageId : String) : Sent := ⟨messageId, ["lead"], none, "", 0⟩

def stored (world : World) : List (String × String) × List (Nat × Nat) :=
  (world.messages.map fun row => (row.fromAgent, row.externalMachine),
    world.refusals.map fun entry => (entry.1, entry.2.status))

/-- `pc2` sends as `lap-mgr` after the laptop did. -/
def sentInTurn : List Label :=
  [.arrive 1 (externalSend "lap-mgr" "laptop"), .query 1, .query 1, .write 1 (sentAs "1-a"),
    .arrive 2 (externalSend "Lap-Mgr" "pc2"), .query 2, .query 2]

theorem second_machine_refused :
    ∃ world, Reaches step Undisturbed emptyWorld world ∧
      stored world = ([("lap-mgr", "laptop")], [(2, 403)]) ∧ OneMachine world.messages := by
  have executed : (exec step undisturbed emptyWorld sentInTurn).map stored =
      some ([("lap-mgr", "laptop")], [(2, 403)]) := by decide
  obtain ⟨world, reached, seen⟩ := reaches_observed _ _ _ _ (fun _ _ granted => granted) executed
  exact ⟨world, reached, seen, sender_keeps_machine world reached⟩

/-- Both machines ask who owns the id before either has written. -/
def sentTogether : List Label :=
  [.arrive 1 (externalSend "lap-mgr" "laptop"), .query 1, .query 1,
    .arrive 2 (externalSend "Lap-Mgr" "pc2"), .query 2, .query 2,
    .write 1 (sentAs "1-a"), .write 2 (sentAs "2-b")]

theorem two_machines_one_sender :
    ∃ world, Reaches step anyStep emptyWorld world ∧ ¬ OneMachine world.messages := by
  have executed : (exec step (fun _ _ => true) emptyWorld sentTogether).map stored =
      some ([("lap-mgr", "laptop"), ("Lap-Mgr", "pc2")], []) := by decide
  obtain ⟨world, reached, seen⟩ := reaches_observed _ _ _ _ (fun _ _ _ => trivial) executed
  refine ⟨world, reached, fun owned => ?_⟩
  have rows := congrArg Prod.fst seen
  have at' (pair : String × String) (listed : pair ∈ [("lap-mgr", "laptop"), ("Lap-Mgr", "pc2")]) :
      ∃ row ∈ world.messages, row.fromAgent = pair.1 ∧ row.externalMachine = pair.2 := by
    rw [← show world.messages.map (fun row => (row.fromAgent, row.externalMachine)) =
      [("lap-mgr", "laptop"), ("Lap-Mgr", "pc2")] from rows] at listed
    obtain ⟨row, inside, rfl⟩ := List.mem_map.mp listed
    exact ⟨row, inside, rfl, rfl⟩
  obtain ⟨left, inLeft, leftId, leftMachine⟩ := at' ("lap-mgr", "laptop") (by simp)
  obtain ⟨right, inRight, rightId, rightMachine⟩ := at' ("Lap-Mgr", "pc2") (by simp)
  have same := owned left inLeft right inRight (by rw [leftMachine]; decide)
    (by rw [rightMachine]; decide) (by rw [leftId, rightId]; decide)
  rw [leftMachine, rightMachine] at same
  exact absurd same (by decide)

end AifyComms.ExternalSenders
