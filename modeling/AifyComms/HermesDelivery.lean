import AifyComms.JsText

/-!
Delivering one run to a managed hermes session: `deliverRun` of
`hermes-delivery-run.mjs`, with the reports of `hermes-run-reporting.mjs` and the gateway
predicates of `hermes-gateway-protocol.js`.

What each call comes back with is an argument. A request to the gateway that rejects may
still have been accepted there: it rejects on a timeout and on a closed socket too. The
texts that name the gateway are arguments, its URL being redacted in them.
-/

namespace AifyComms.HermesDelivery
open JsText

/-! ### The gateway's words -/

def gatewayIdleStatuses : List String := ["idle", "ready", "done", "complete", "completed", "finished"]

def isGatewaySessionIdle (status : String) : Bool :=
  decide (PyText.lower (trim status) ∈ gatewayIdleStatuses)

def isGatewaySessionWorking (status : String) : Bool :=
  decide (PyText.lower (trim status) = "working")

/-! ### The open window -/

/-- The loop's `inFlight` record. -/
structure InFlight where
  submittedAt : Nat
  completed : Bool
  runId : String
  observedWorking : Bool
  dispatchTurnOpen : Bool
  idleStreak : Nat
  deriving DecidableEq

/-- A delivered turn opens the window. -/
def InFlight.opened (window : InFlight) (runId : String) (now : Nat) : InFlight :=
  { window with
    submittedAt := now
    completed := false
    runId := runId
    observedWorking := false
    dispatchTurnOpen := true }

/-- Nothing was delivered. -/
def InFlight.closed (window : InFlight) : InFlight :=
  { window with submittedAt := 0, runId := "", dispatchTurnOpen := false }

/-! ### Calls -/

/-- An error, and whether `isGatewayConnectRefused` takes it for a dead gateway. -/
structure Failure where
  message : String
  refused : Bool

inductive Attach where
  | session
  | none
  | threw (error : Failure)

/-- What `session.steer` comes back with. A rejected request may have been queued. -/
inductive Steer where
  | queued
  | refused
  | rejected (queued : Bool)
  deriving DecidableEq

/-- What `prompt.submit` comes back with. `busy` is what `isSessionBusyError` recognises. -/
inductive Submit where
  | accepted
  | busy
  | rejected (error : Failure) (accepted : Bool)

/-- The calls of one delivery. A report is `none` when it succeeds. Whether the notice, the
turn reports and the reports of a failure succeed is not asked: their errors are
swallowed. -/
structure Calls where
  attach : Attach
  activeList : Option String
  steer : Steer
  submit : Submit
  delivered : Option Failure
  requeued : Option Failure

structure Run where
  id : String
  steerIfBusy : Bool

/-- The texts and the bounds that a delivery is given. -/
structure Settings where
  agentId : String
  redactedUrl : String
  attachWaitMs : Nat
  threshold : Nat

/-- What a delivery does, in order. `accepted` is the gateway's side of it. -/
inductive Event where
  | turnBusy
  | notice
  | accepted
  | delivered
  | failed (cause : String)
  | requeued (reason : String)
  | gatewayDead
  | turnCleared
  deriving DecidableEq

structure Outcome where
  events : List Event
  window : InFlight
  emptyAttach : String → Nat

def noTuiAttachedMessage (url : String) (attempts : Nat) : String :=
  String.join ["No visible hermes TUI attached to gateway ", url,
    " (session.active_list empty across ", toString attempts, " consecutive delivery attempts). ",
    "The visible TUI is not a client of this gateway — relaunch this agent's ",
    "hermes-aify session so the TUI attaches (HERMES_TUI_GATEWAY_URL) and can render messages."]

def notAttachedReason (settings : Settings) (attempts : Nat) : String :=
  String.join ["agent '", settings.agentId, "' session not attached within ",
    toString settings.attachWaitMs, "ms (attempt ", toString attempts, "/",
    toString settings.threshold, ")"]

def gatewayUnreachableMessage (url : String) : String :=
  String.join ["Hermes gateway unreachable at ", url, " (connection refused). ",
    "The gateway host likely died; restart this agent's hermes-aify session to get a fresh gateway."]

def steerRefused : String := "Hermes rejected the non-interrupting steer; retry after turn-end"

def becameBusy : String := "Hermes session became busy before prompt.submit; retry after turn-end"

/-- The `catch` of the whole delivery. -/
def caught (settings : Settings) (error : Failure) : List Event :=
  if error.refused then
    [.failed (gatewayUnreachableMessage settings.redactedUrl), .gatewayDead, .turnCleared]
  else [.failed error.message, .turnCleared]

/-- No session attached: put back, or failed once that happened often enough in a row. -/
def notAttached (settings : Settings) (run : Run) (emptyAttach : String → Nat) :
    List Event × (String → Nat) :=
  let attempts := (if run.id = "" then 0 else emptyAttach run.id) + 1
  let counted (count : Nat) : String → Nat :=
    if run.id = "" then emptyAttach else Function.update emptyAttach run.id count
  if settings.threshold ≤ attempts then
    ([.failed (noTuiAttachedMessage settings.redactedUrl attempts), .turnCleared], counted 0)
  else ([.requeued (notAttachedReason settings attempts), .turnCleared], counted attempts)

/-- Whether the text goes by `session.steer`. -/
def steers (run : Run) (calls : Calls) : Bool :=
  run.steerIfBusy && calls.activeList.any isGatewaySessionWorking

/-- The report that the run was delivered, and the window it opens. A steered text joins
the turn that is open. -/
def report (settings : Settings) (run : Run) (calls : Calls) (now : Nat) (window : InFlight)
    (steered : Bool) : List Event × InFlight :=
  match calls.delivered with
  | none => ([.delivered], if steered then window else window.opened run.id now)
  | some error => (.delivered :: caught settings error, window.closed)

/-- The run goes back on the queue, which may fail as the delivery itself. -/
def putBack (settings : Settings) (calls : Calls) (reason : String) (window after : InFlight) :
    List Event × InFlight :=
  match calls.requeued with
  | none => ([.requeued reason], after)
  | some error => (.requeued reason :: caught settings error, window.closed)

/-- The text goes to the attached session. -/
def hand (settings : Settings) (run : Run) (calls : Calls) (now : Nat) (window : InFlight) :
    List Event × InFlight :=
  if steers run calls then
    match calls.steer with
    | .queued =>
        let reported := report settings run calls now window true
        (.accepted :: reported.1, reported.2)
    | .refused => putBack settings calls steerRefused window window
    | .rejected queued =>
        let back := putBack settings calls steerRefused window window
        (if queued then .accepted :: back.1 else back.1, back.2)
  else
    match calls.submit with
    | .accepted =>
        let reported := report settings run calls now window false
        (.accepted :: reported.1, reported.2)
    -- Another turn is active, so the busy flag stays.
    | .busy => putBack settings calls becameBusy window window.closed
    | .rejected error accepted =>
        (if accepted then .accepted :: caught settings error else caught settings error,
          window.closed)

/-- `deliverRun`. -/
def deliverRun (settings : Settings) (run : Run) (calls : Calls) (now : Nat) (window : InFlight)
    (emptyAttach : String → Nat) : Outcome :=
  match calls.attach with
  | .threw error => ⟨.turnBusy :: caught settings error, window.closed, emptyAttach⟩
  | .none =>
      let done := notAttached settings run emptyAttach
      ⟨.turnBusy :: done.1, window.closed, done.2⟩
  | .session =>
      let done := hand settings run calls now window
      ⟨.turnBusy :: .notice :: done.1, done.2,
        if run.id = "" then emptyAttach else Function.update emptyAttach run.id 0⟩

/-! ### What is reported of an accepted text -/

/-- The run is reported as failed or put back on the queue. -/
def Event.undelivered : Event → Bool
  | .failed _ => true
  | .requeued _ => true
  | _ => false

/-- No report that the run was not delivered, once its text is accepted. -/
def Truthful (events : List Event) : Prop :=
  .accepted ∈ events → ∀ event ∈ events, event.undelivered = false

/-- Whatever accepts the text answers, and the run is then reported as delivered. -/
def Heard (run : Run) (calls : Calls) : Prop :=
  match calls.attach with
  | .session =>
      if steers run calls then
        match calls.steer with
        | .queued => calls.delivered = none
        | .rejected queued => queued = false
        | .refused => True
      else
        match calls.submit with
        | .accepted => calls.delivered = none
        | .rejected _ accepted => accepted = false
        | .busy => True
  | _ => True

theorem caught_failed (settings : Settings) (error : Failure) :
    ∃ cause, .failed cause ∈ caught settings error := by
  unfold caught
  split
  · exact ⟨_, List.mem_cons_self⟩
  · exact ⟨_, List.mem_cons_self⟩

theorem caught_silent (settings : Settings) (error : Failure) :
    .accepted ∉ caught settings error := by
  unfold caught
  split <;> simp

theorem notAttached_silent (settings : Settings) (run : Run) (emptyAttach : String → Nat) :
    .accepted ∉ (notAttached settings run emptyAttach).1 := by
  unfold notAttached
  by_cases enough : settings.threshold ≤ (if run.id = "" then 0 else emptyAttach run.id) + 1
  · simp [enough]
  · simp [enough]

theorem putBack_silent (settings : Settings) (calls : Calls) (reason : String)
    (window after : InFlight) : .accepted ∉ (putBack settings calls reason window after).1 := by
  unfold putBack
  split
  · simp
  · simp [caught_silent]

theorem putBack_requeued (settings : Settings) (calls : Calls) (reason : String)
    (window after : InFlight) :
    .requeued reason ∈ (putBack settings calls reason window after).1 := by
  unfold putBack
  split <;> exact List.mem_cons_self

/-- What a delivery is judged by: the text accepted at most once, and reported truthfully
exactly under the condition. -/
def Judged (events : List Event) (condition : Prop) : Prop :=
  events.count .accepted ≤ 1 ∧ (Truthful events ↔ condition)

theorem judged_silent {events : List Event} {condition : Prop} (silent : .accepted ∉ events)
    (holds : condition) : Judged events condition :=
  ⟨by rw [List.count_eq_zero.mpr silent]; exact Nat.zero_le 1,
    iff_of_true (fun accepted => absurd accepted silent) holds⟩

theorem judged_accepted {before after : List Event} {condition : Prop}
    (first : .accepted ∉ before) (again : .accepted ∉ after)
    (exact : (∀ event ∈ before ++ after, event.undelivered = false) ↔ condition) :
    Judged (before ++ Event.accepted :: after) condition := by
  constructor
  · rw [List.count_append, List.count_cons_self, List.count_eq_zero.mpr first,
      List.count_eq_zero.mpr again]
  · refine Iff.trans ⟨fun truthful event listed => ?_, fun clean _ event listed => ?_⟩ exact
    · refine truthful (List.mem_append_right _ List.mem_cons_self) event ?_
      rcases List.mem_append.mp listed with listed | listed
      · exact List.mem_append_left _ listed
      · exact List.mem_append_right _ (List.mem_cons_of_mem _ listed)
    · rcases List.mem_append.mp listed with listed | listed
      · exact clean event (List.mem_append_left _ listed)
      · rcases List.mem_cons.mp listed with rfl | listed
        · rfl
        · exact clean event (List.mem_append_right _ listed)

/-- What stands before the text is handed over. -/
def opening : List Event := [.turnBusy, .notice]

/-- An event that says the run was not delivered cannot follow an accepted text. -/
theorem judged_undelivered {after : List Event} {condition : Prop} {event : Event}
    (again : .accepted ∉ after) (listed : event ∈ after) (undelivered : event.undelivered = true)
    (fails : ¬ condition) : Judged (opening ++ Event.accepted :: after) condition := by
  refine judged_accepted (by simp [opening]) again (iff_of_false (fun clean => ?_) fails)
  have delivered := clean event (List.mem_append_right _ listed)
  rw [undelivered] at delivered
  cases delivered

theorem judged_report (settings : Settings) (run : Run) (calls : Calls) (now : Nat)
    (window : InFlight) (steered : Bool) :
    Judged (opening ++ Event.accepted :: (report settings run calls now window steered).1)
      (calls.delivered = none) := by
  unfold report
  cases calls.delivered with
  | none =>
      refine judged_accepted (by simp [opening]) (by simp) (iff_of_true ?_ rfl)
      simp [opening, Event.undelivered]
  | some error =>
      obtain ⟨cause, failed⟩ := caught_failed settings error
      refine judged_undelivered ?_ (List.mem_cons_of_mem _ failed) rfl (by simp)
      simp [caught_silent]

theorem judged_hand (settings : Settings) (run : Run) (calls : Calls) (now : Nat)
    (window : InFlight) (attached : calls.attach = .session) :
    Judged (opening ++ (hand settings run calls now window).1) (Heard run calls) := by
  unfold hand Heard
  rw [attached]
  have back : ∀ reason after, .accepted ∉
      opening ++ (putBack settings calls reason window after).1 := by
    intro reason after
    simp [opening, putBack_silent]
  dsimp only
  by_cases steering : steers run calls = true
  · rw [if_pos steering, if_pos steering]
    cases calls.steer with
    | queued => exact judged_report settings run calls now window true
    | refused => exact judged_silent (back _ _) trivial
    | rejected queued =>
        cases queued with
        | false => exact judged_silent (back _ _) rfl
        | true =>
            have silent := putBack_silent settings calls steerRefused window window
            exact judged_undelivered silent (putBack_requeued ..) rfl (by simp)
  · rw [if_neg steering, if_neg steering]
    cases calls.submit with
    | accepted => exact judged_report settings run calls now window false
    | busy => exact judged_silent (back _ _) trivial
    | rejected error accepted =>
        cases accepted with
        | false => exact judged_silent (by simp [opening, caught_silent]) rfl
        | true =>
            obtain ⟨cause, failed⟩ := caught_failed settings error
            exact judged_undelivered (caught_silent settings error) failed rfl (by simp)

/-- The text is accepted at most once, and a run whose text was accepted is never reported
undelivered if and only if whatever accepts the text answers and the delivered report
succeeds. -/
theorem accepted_never_undelivered_iff (settings : Settings) (run : Run) (calls : Calls)
    (now : Nat) (window : InFlight) (emptyAttach : String → Nat) :
    (deliverRun settings run calls now window emptyAttach).events.count .accepted ≤ 1 ∧
      (Truthful (deliverRun settings run calls now window emptyAttach).events ↔
        Heard run calls) := by
  cases attached : calls.attach with
  | session =>
      have judged := judged_hand settings run calls now window attached
      unfold deliverRun
      rw [attached]
      exact judged
  | threw error =>
      have judged : Judged (.turnBusy :: caught settings error) (Heard run calls) := by
        refine judged_silent (by simp [caught_silent]) ?_
        unfold Heard
        rw [attached]
        trivial
      unfold deliverRun
      rw [attached]
      exact judged
  | none =>
      have judged : Judged (.turnBusy :: (notAttached settings run emptyAttach).1)
          (Heard run calls) := by
        refine judged_silent (by simp [notAttached_silent]) ?_
        unfold Heard
        rw [attached]
        trivial
      unfold deliverRun
      rw [attached]
      exact judged

def hermesSettings : Settings := ⟨"hermes-dev", "ws://127.0.0.1:9147/api/ws", 25000, 5⟩

def openRun : Run := ⟨"r1", false⟩

def emptyWindow : InFlight := ⟨0, false, "", false, false, 0⟩

/-- The session takes the text, and the service refuses the report of it. -/
def reportFails : Calls :=
  ⟨.session, none, .refused, .accepted, some ⟨"HTTP 503", false⟩, none⟩

/-- The accepted run is reported as failed. -/
theorem accepted_run_reported_failed :
    (deliverRun hermesSettings openRun reportFails 7 emptyWindow fun _ => 0).events =
        [.turnBusy, .notice, .accepted, .delivered, .failed "HTTP 503", .turnCleared] ∧
      ¬ Truthful (deliverRun hermesSettings openRun reportFails 7 emptyWindow fun _ => 0).events := by
  have events : (deliverRun hermesSettings openRun reportFails 7 emptyWindow fun _ => 0).events =
      [.turnBusy, .notice, .accepted, .delivered, .failed "HTTP 503", .turnCleared] := rfl
  refine ⟨events, ?_⟩
  rw [events]
  intro truthful
  have clean := truthful (by simp) (.failed "HTTP 503") (by simp)
  cases clean

end AifyComms.HermesDelivery
