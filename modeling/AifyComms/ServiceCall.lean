import AifyComms.JsText
import AifyComms.Utf16
import Mathlib.Data.List.Infix

/-!
A request of the bridge to the service, `httpCall` of `aify-service-endpoint.mjs`: attempts
over failover URLs, decided from the status of the answer and from the text of the error.

Texts of errors and bodies are UTF-16 units, since the body is cut by units. What every send
comes back with is given, and so is the URL that is active when an attempt begins: another
call may have moved it. `toUpperCase` is the text library's and stays a parameter.
-/

namespace AifyComms.ServiceCall
open JsText Utf16

abbrev Text := List Nat

def text (written : String) : Text := encode written.toList

/-- An error as the code reads it; a missing field is empty. -/
structure CallError where
  name : Text
  code : Text
  message : Text
  status : Option Nat
  deriving DecidableEq

/-- What one send comes back with: `fetch` fails, or there is an answer, whose body may fail
to arrive. -/
inductive Outcome where
  | refused (error : CallError)
  | answered (status : Nat) (body : Except CallError Text)

structure Request where
  method : String
  endpoint : String
  /-- `clientNonce` of the body, when there is a body. -/
  clientNonce : Option String
  timeoutMs : Nat

def retriablePostPaths : List String := ["/agents", "/channels/join"]

/-- `^before[^/]+after$`. -/
def fitsPattern (before after path : String) : Bool :=
  let segment := ((path.toList.drop before.length).reverse.drop after.length).reverse
  path.toList = before.toList ++ segment ++ after.toList && segment ≠ [] && !segment.contains '/'

def isRetriableRequest (toUpperCase : String → String) (request : Request) : Bool :=
  let method := toUpperCase request.method
  let path := request.endpoint
  if method = "GET" || method = "PATCH" || method = "DELETE" then true
  else if method ≠ "POST" then false
  else retriablePostPaths.contains path || fitsPattern "/agents/" "/heartbeat" path ||
    path = "/environments/heartbeat" || fitsPattern "/channels/" "/join" path ||
    (path = "/messages/send" && request.clientNonce.any fun nonce => trim nonce ≠ "")

def transientWords : List String :=
  ["econnreset", "econnrefused", "etimedout", "eai_again", "enotfound", "epipe",
    "socket hang up", "fetch failed", "network"]

/-- The case folding of a pattern without the unicode flag, on its ASCII letters. -/
def foldUnit (unit : Nat) : Nat := if 0x41 ≤ unit && unit ≤ 0x5a then unit + 0x20 else unit

def isTransientHttpError (error : CallError) : Bool :=
  error.name = text "AbortError" || error.name = text "TimeoutError" ||
    transientWords.any fun word =>
      decide (text word <:+: (error.code ++ text " " ++ error.message).map foldUnit)

def uniqueFrom (seen : List String) : List String → List String
  | [] => []
  | url :: rest =>
      if url = "" || seen.contains url then uniqueFrom seen rest
      else url :: uniqueFrom (url :: seen) rest

def uniqueServerUrls (urls : List String) : List String := uniqueFrom [] urls

def errorBodyLimit : Nat := 300

/-- The error made of an answer that is not ok. -/
def statusError (status : Nat) (body : Text) : CallError where
  name := text "Error"
  code := []
  message := text ("HTTP " ++ toString status ++ ": ") ++ body.take errorBodyLimit
  status := some status

def timeoutError (request : Request) : CallError where
  name := text "TimeoutError"
  code := []
  message := text ("HTTP " ++ request.method ++ " " ++ request.endpoint ++ " timed out after " ++
    toString request.timeoutMs ++ "ms")
  status := none

/-- What the call does after one send. -/
inductive Verdict where
  | returned (status : Nat) (body : Except CallError Text)
  | threw (error : CallError)
  | next (error : CallError)

def Verdict.goesOn : Verdict → Bool
  | .next _ => true
  | _ => false

inductive Result where
  | returned (url : String) (status : Nat) (body : Except CallError Text)
  | threw (error : Option CallError)

/-- A finished call: what it sent and came back with, how it ended, and the URL it made the
active one. -/
structure Call where
  sent : List (String × Outcome)
  result : Result
  active : Option String

def httpRetryAttempts : Nat := 3

section
variable (request : Request) (retriable : Bool)

def maxAttempts : Nat := if retriable then httpRetryAttempts else 1

/-- The `catch` around one send. -/
def caught (error : CallError) : Verdict :=
  let lastError := if error.name = text "AbortError" then timeoutError request else error
  if error.status = some 401 || !isTransientHttpError error || !retriable then .threw lastError
  else .next lastError

def judge (attempt : Nat) : Outcome → Verdict
  | .refused error => caught request retriable error
  | .answered status body =>
      if 200 ≤ status ∧ status < 300 then .returned status body
      else match body with
        | .error error => caught request retriable error
        | .ok body =>
            if retriable && 500 ≤ status && status < 600 && attempt < maxAttempts retriable then
              .next (statusError status body)
            else caught request retriable (statusError status body)

variable (outcomes : Nat → Outcome)

/-- The inner loop: either the call ends here, or every URL was tried. -/
def tryUrls (attempt : Nat) : List (String × Outcome) → Option CallError → List String →
    Call ⊕ (List (String × Outcome) × Option CallError)
  | sent, lastError, [] => .inr (sent, lastError)
  | sent, _, url :: rest =>
      let outcome := outcomes sent.length
      let sent := sent ++ [(url, outcome)]
      match judge request retriable attempt outcome with
      | .returned status body => .inl ⟨sent, .returned url status body, some url⟩
      | .threw error => .inl ⟨sent, .threw (some error), none⟩
      | .next error => tryUrls attempt sent (some error) rest

variable (serverUrls : List String) (actives : Nat → String)

/-- The outer loop, from `attempt` on with `left` attempts left. -/
def tryAttempts : Nat → Nat → List (String × Outcome) → Option CallError → Call
  | 0, _, sent, lastError => ⟨sent, .threw lastError, none⟩
  | left + 1, attempt, sent, lastError =>
      match tryUrls request retriable outcomes attempt sent lastError
          (uniqueServerUrls (actives attempt :: serverUrls)) with
      | .inl call => call
      | .inr (sent, lastError) => tryAttempts left (attempt + 1) sent lastError

end

def noServiceUrl : CallError where
  name := text "Error"
  code := []
  message := text ("no aify-comms service URL is configured (AIFY_SERVER_URL); " ++
    "re-run install.sh with the service's endpoint")
  status := none

/-- Where the bridge sends to: whether a primary URL is configured, and the list of all. -/
structure Endpoint where
  isRemote : Bool
  serverUrls : List String

def httpCall (toUpperCase : String → String) (endpoint : Endpoint) (actives : Nat → String)
    (outcomes : Nat → Outcome) (request : Request) : Call :=
  let retriable := isRetriableRequest toUpperCase request
  if endpoint.isRemote then
    tryAttempts request retriable outcomes endpoint.serverUrls actives (maxAttempts retriable) 1
      [] none
  else ⟨[], .threw (some noServiceUrl), none⟩

/-- A 4xx answer. -/
def Outcome.clientError : Outcome → Bool
  | .refused _ => false
  | .answered status _ => 400 ≤ status && status < 500

/-- A request that is not retriable is sent at most once, nothing is sent after a 4xx answer,
and a result comes from a 2xx answer whose URL is then the active one. -/
structure Call.Safe (call : Call) (retriable : Bool) : Prop where
  once : retriable = false → call.sent.length ≤ 1
  lastClientError : ∀ before url outcome after, call.sent = before ++ (url, outcome) :: after →
    outcome.clientError = true → after = []
  returned : ∀ url status body, call.result = .returned url status body →
    (200 ≤ status ∧ status < 300) ∧ call.sent.getLast? = some (url, .answered status body) ∧
      call.active = some url

/-- A 4xx answer that the call takes for a passing failure: the body reads like one, or did
not arrive. -/
def disguised (retriable : Bool) : Outcome → Bool
  | .refused _ => false
  | .answered status body =>
      retriable && 400 ≤ status && status < 500 &&
        match body with
        | .ok body => status ≠ 401 && isTransientHttpError (statusError status body)
        | .error error => error.status ≠ some 401 && isTransientHttpError error

/-! ### The two loops as one -/

/-- An attempt at a URL. -/
abbrev Slot := Nat × String

def slots (serverUrls : List String) (actives : Nat → String) : Nat → Nat → List Slot
  | 0, _ => []
  | left + 1, attempt =>
      (uniqueServerUrls (actives attempt :: serverUrls)).map (fun url => (attempt, url)) ++
        slots serverUrls actives left (attempt + 1)

section Slots
variable (request : Request) (retriable : Bool) (outcomes : Nat → Outcome)

def trySlots : List (String × Outcome) → Option CallError → List Slot → Call
  | sent, lastError, [] => ⟨sent, .threw lastError, none⟩
  | sent, _, (attempt, url) :: rest =>
      let outcome := outcomes sent.length
      let sent := sent ++ [(url, outcome)]
      match judge request retriable attempt outcome with
      | .returned status body => ⟨sent, .returned url status body, some url⟩
      | .threw error => ⟨sent, .threw (some error), none⟩
      | .next error => trySlots sent (some error) rest

theorem trySlots_append (attempt : Nat) (urls : List String) (more : List Slot)
    (sent : List (String × Outcome)) (lastError : Option CallError) :
    trySlots request retriable outcomes sent lastError
        (urls.map (fun url => (attempt, url)) ++ more) =
      (tryUrls request retriable outcomes attempt sent lastError urls).elim id
        fun rest => trySlots request retriable outcomes rest.1 rest.2 more := by
  induction urls generalizing sent lastError with
  | nil => rfl
  | cons url rest ih =>
      simp only [List.map_cons, List.cons_append, trySlots, tryUrls]
      cases judge request retriable attempt (outcomes sent.length) with
      | returned status body => rfl
      | threw error => rfl
      | next error => exact ih _ _

theorem tryAttempts_eq (serverUrls : List String) (actives : Nat → String)
    (left attempt : Nat) (sent : List (String × Outcome)) (lastError : Option CallError) :
    tryAttempts request retriable outcomes serverUrls actives left attempt sent lastError =
      trySlots request retriable outcomes sent lastError
        (slots serverUrls actives left attempt) := by
  induction left generalizing attempt sent lastError with
  | zero => rfl
  | succ left ih =>
      rw [slots, trySlots_append, tryAttempts]
      cases tryUrls request retriable outcomes attempt sent lastError
          (uniqueServerUrls (actives attempt :: serverUrls)) with
      | inl call => rfl
      | inr rest => exact ih _ _ _

/-- What is sent from the `index`-th send on. -/
def sends : Nat → List Slot → List (String × Outcome)
  | _, [] => []
  | index, (attempt, url) :: rest =>
      (url, outcomes index) ::
        if (judge request retriable attempt (outcomes index)).goesOn then sends (index + 1) rest
        else []

theorem trySlots_sent (given : List Slot) (sent : List (String × Outcome))
    (lastError : Option CallError) :
    (trySlots request retriable outcomes sent lastError given).sent =
      sent ++ sends request retriable outcomes sent.length given := by
  induction given generalizing sent lastError with
  | nil => simp [trySlots, sends]
  | cons slot rest ih =>
      obtain ⟨attempt, url⟩ := slot
      simp only [trySlots, sends]
      cases judge request retriable attempt (outcomes sent.length) with
      | returned status body => simp [Verdict.goesOn]
      | threw error => simp [Verdict.goesOn]
      | next error => simp [Verdict.goesOn, ih]

end Slots

section Verdicts
variable {request : Request} {retriable : Bool}

theorem caught_goesOn (error : CallError) :
    (caught request retriable error).goesOn =
      (retriable && error.status ≠ some 401 && isTransientHttpError error) := by
  unfold caught
  by_cases unauthorised : error.status = some 401
  · simp [unauthorised, Verdict.goesOn]
  · cases isTransientHttpError error <;> cases retriable <;> simp [unauthorised, Verdict.goesOn]

/-- After a 4xx answer the call goes on exactly when it takes it for a passing failure. -/
theorem judge_clientError {outcome : Outcome} (client : outcome.clientError = true)
    (attempt : Nat) :
    (judge request retriable attempt outcome).goesOn = disguised retriable outcome := by
  cases outcome with
  | refused error => cases client
  | answered status body =>
      simp only [Outcome.clientError, Bool.and_eq_true, decide_eq_true_eq] at client
      have notOk : ¬ (200 ≤ status ∧ status < 300) := by omega
      have notServer : ¬ 500 ≤ status := by omega
      cases body with
      | error error =>
          simp [judge, notOk, caught_goesOn, disguised, client, Bool.and_assoc]
      | ok body =>
          simp [judge, notOk, notServer, caught_goesOn, disguised, client, statusError,
            Bool.and_assoc]

theorem clientError_of_disguised {outcome : Outcome}
    (disguise : disguised retriable outcome = true) : outcome.clientError = true := by
  cases outcome with
  | refused error => cases disguise
  | answered status body =>
      simp only [disguised, Bool.and_eq_true] at disguise
      simp only [Outcome.clientError, disguise.1.1.2, disguise.1.2, Bool.and_self]

theorem judge_not_retriable (attempt : Nat) (outcome : Outcome) :
    (judge request false attempt outcome).goesOn = false := by
  cases outcome with
  | refused error => simp [judge, caught_goesOn]
  | answered status body =>
      by_cases fine : 200 ≤ status ∧ status < 300
      · simp [judge, fine, Verdict.goesOn]
      · cases body with
        | error error => simp [judge, fine, caught_goesOn]
        | ok body => simp [judge, fine, caught_goesOn]

theorem caught_ne_returned (error : CallError) (status : Nat) (body : Except CallError Text) :
    caught request retriable error ≠ .returned status body := by
  simp only [caught]
  split
  · intro same
    cases same
  · intro same
    cases same

theorem judge_returned {attempt : Nat} {outcome : Outcome} {status : Nat}
    {body : Except CallError Text}
    (answered : judge request retriable attempt outcome = .returned status body) :
    outcome = .answered status body ∧ 200 ≤ status ∧ status < 300 := by
  cases outcome with
  | refused error => exact absurd answered (caught_ne_returned _ _ _)
  | answered got text =>
      by_cases fine : 200 ≤ got ∧ got < 300
      · simp only [judge, fine, and_self, if_true, Verdict.returned.injEq] at answered
        obtain ⟨rfl, rfl⟩ := answered
        exact ⟨rfl, fine⟩
      · simp only [judge, fine, if_false] at answered
        cases text with
        | error error => exact absurd answered (caught_ne_returned _ _ _)
        | ok text =>
            dsimp only at answered
            split at answered
            · cases answered
            · exact absurd answered (caught_ne_returned _ _ _)

end Verdicts

section Runs
variable {request : Request} {retriable : Bool} {outcomes : Nat → Outcome}

theorem trySlots_returned {given : List Slot} {sent : List (String × Outcome)}
    {lastError : Option CallError} {url : String} {status : Nat} {body : Except CallError Text}
    (ended : (trySlots request retriable outcomes sent lastError given).result =
      .returned url status body) :
    (200 ≤ status ∧ status < 300) ∧
      (trySlots request retriable outcomes sent lastError given).sent.getLast? =
        some (url, .answered status body) ∧
      (trySlots request retriable outcomes sent lastError given).active = some url := by
  induction given generalizing sent lastError with
  | nil => cases ended
  | cons slot rest ih =>
      obtain ⟨attempt, tried⟩ := slot
      simp only [trySlots] at ended ⊢
      cases verdict : judge request retriable attempt (outcomes sent.length) with
      | returned got text =>
          simp only [verdict, Result.returned.injEq] at ended
          obtain ⟨rfl, rfl, rfl⟩ := ended
          obtain ⟨came, fine⟩ := judge_returned verdict
          exact ⟨fine, by simp [came], rfl⟩
      | threw error =>
          simp only [verdict] at ended
          cases ended
      | next error =>
          simp only [verdict] at ended
          exact ih ended

theorem sends_length_not_retriable (given : List Slot) (index : Nat) :
    (sends request false outcomes index given).length ≤ 1 := by
  cases given with
  | nil => simp [sends]
  | cons slot rest => simp [sends, judge_not_retriable]

theorem sends_ne_nil {given : List Slot} (some' : given ≠ []) (index : Nat) :
    sends request retriable outcomes index given ≠ [] := by
  cases given with
  | nil => exact absurd rfl some'
  | cons slot rest => simp [sends]

/-- Nothing is sent after a 4xx answer exactly when no such answer that the call comes to,
with a slot behind it, is disguised. The index runs along the slots. -/
theorem sends_lastClientError_iff (request : Request) (retriable : Bool)
    (outcomes : Nat → Outcome) (given : List Slot) (index : Nat) :
    (∀ before url outcome after,
        sends request retriable outcomes index given = before ++ (url, outcome) :: after →
          outcome.clientError = true → after = []) ↔
      ∀ place, place + 1 < given.length →
        (∀ earlier < place, ∀ slot ∈ given[earlier]?,
          (judge request retriable slot.1 (outcomes (index + earlier))).goesOn = true) →
        disguised retriable (outcomes (index + place)) = false := by
  induction given generalizing index with
  | nil => simp [sends]
  | cons slot rest ih =>
      obtain ⟨attempt, url⟩ := slot
      have later := ih (index + 1)
      constructor
      · intro lastClientError place inside reached
        cases place with
        | zero =>
            by_contra hidden
            have disguise : disguised retriable (outcomes index) = true := by simpa using hidden
            have client := clientError_of_disguised disguise
            have goes : (judge request retriable attempt (outcomes index)).goesOn = true :=
              (judge_clientError client attempt).trans disguise
            have nothing := lastClientError [] url (outcomes index)
              (sends request retriable outcomes (index + 1) rest) (by simp [sends, goes]) client
            exact sends_ne_nil (List.length_pos_iff.mp (by simpa using inside)) _ nothing
        | succ place =>
            have goes := reached 0 (Nat.succ_pos _) (attempt, url) rfl
            rw [Nat.add_zero] at goes
            have shifted := later.mp (fun before tried outcome after split client =>
              lastClientError ((url, outcomes index) :: before) tried outcome after
                (by simp [sends, goes, split]) client) place (by simpa using inside)
              (fun earlier less slot member => by
                have goesToo := reached (earlier + 1) (Nat.succ_lt_succ less) slot
                  (by simpa using member)
                rwa [← Nat.add_assoc, Nat.add_right_comm] at goesToo)
            rwa [Nat.add_right_comm, Nat.add_assoc] at shifted
      · intro honest before tried outcome after split client
        cases goes : (judge request retriable attempt (outcomes index)).goesOn with
        | false =>
            have alone : [(url, outcomes index)] = before ++ (tried, outcome) :: after := by
              simpa [sends, goes] using split
            have lengths := congrArg List.length alone
            simp only [List.length_cons, List.length_nil, List.length_append] at lengths
            exact List.eq_nil_of_length_eq_zero (by omega)
        | true =>
            simp only [sends, goes, if_true] at split
            cases before with
            | nil =>
                obtain ⟨same, rfl⟩ := List.cons.inj split
                obtain ⟨-, rfl⟩ := Prod.mk.inj same
                cases rest with
                | nil => rfl
                | cons second more =>
                    have plain := honest 0 (by simp) (fun earlier less => absurd less (by simp))
                    rw [Nat.add_zero, ← judge_clientError client attempt, goes] at plain
                    cases plain
            | cons head before =>
                obtain ⟨-, tail⟩ := List.cons.inj split
                refine later.mpr ?_ before tried outcome after tail client
                intro place inside reached
                have shifted := honest (place + 1) (by simpa using inside)
                  (fun earlier less slot member => by
                    cases earlier with
                    | zero =>
                        obtain rfl := Option.some.inj member
                        simpa using goes
                    | succ earlier =>
                        have goesToo := reached earlier (Nat.lt_of_succ_lt_succ less) slot
                          (by simpa using member)
                        rwa [Nat.add_right_comm, Nat.add_assoc] at goesToo)
                rwa [← Nat.add_assoc, Nat.add_right_comm] at shifted

end Runs

/-- No 4xx answer that the call comes to before its last possible send is disguised. -/
def Undisguised (toUpperCase : String → String) (endpoint : Endpoint) (actives : Nat → String)
    (outcomes : Nat → Outcome) (request : Request) : Prop :=
  let retriable := isRetriableRequest toUpperCase request
  let tried := slots endpoint.serverUrls actives (maxAttempts retriable) 1
  endpoint.isRemote = true → ∀ place, place + 1 < tried.length →
    (∀ earlier < place, ∀ slot ∈ tried[earlier]?,
      (judge request retriable slot.1 (outcomes earlier)).goesOn = true) →
    disguised retriable (outcomes place) = false

/-- A request is repeated only when that is safe exactly when no 4xx answer is disguised. -/
theorem httpCall_safe_iff (toUpperCase : String → String) (endpoint : Endpoint)
    (actives : Nat → String) (outcomes : Nat → Outcome) (request : Request) :
    (httpCall toUpperCase endpoint actives outcomes request).Safe
        (isRetriableRequest toUpperCase request) ↔
      Undisguised toUpperCase endpoint actives outcomes request := by
  unfold Undisguised httpCall
  generalize isRetriableRequest toUpperCase request = retriable
  cases remote : endpoint.isRemote with
  | false =>
      simp only [Bool.false_eq_true, if_false, false_imp_iff, iff_true]
      constructor
      · intro _
        exact Nat.zero_le _
      · intro before url outcome after split
        simp at split
      · intro url status body ended
        cases ended
  | true =>
      simp only [if_true, tryAttempts_eq, forall_const]
      generalize slots endpoint.serverUrls actives (maxAttempts retriable) 1 = tried
      have sent := trySlots_sent request retriable outcomes tried [] none
      have last := sends_lastClientError_iff request retriable outcomes tried 0
      simp only [List.nil_append, List.length_nil, Nat.zero_add] at sent last
      rw [← last, ← sent]
      constructor
      · intro safe
        exact safe.lastClientError
      · intro lastClientError
        refine ⟨?_, lastClientError, fun url status body ended => trySlots_returned ended⟩
        rintro rfl
        rw [sent]
        exact sends_length_not_retriable tried 0

/-- A service under two addresses, and a read of it. -/
def twoAddresses : Endpoint := ⟨true, ["http://one", "http://two"]⟩

def readAgents : Request := ⟨"GET", "/agents", none, 20000⟩

/-- The service refuses the request as malformed, in words of its own. -/
def refusedInWords : Outcome := .answered 400 (.ok (text "unknown network"))

/-- A 400 whose text names a network is sent again, to the other address first. -/
theorem client_error_repeated :
    ¬ (httpCall id twoAddresses (fun _ => "http://one") (fun _ => refusedInWords)
      readAgents).Safe (isRetriableRequest id readAgents) := by
  intro safe
  have sent : (httpCall id twoAddresses (fun _ => "http://one") (fun _ => refusedInWords)
      readAgents).sent = ("http://one", refusedInWords) :: ("http://two", refusedInWords) ::
        [("http://one", refusedInWords), ("http://two", refusedInWords),
          ("http://one", refusedInWords), ("http://two", refusedInWords)] := rfl
  have nothing := safe.lastClientError [] "http://one" refusedInWords _ sent rfl
  cases nothing

end AifyComms.ServiceCall
