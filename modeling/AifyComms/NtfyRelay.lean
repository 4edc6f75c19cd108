import AifyComms.Dict
import AifyComms.PyText
import AifyComms.Runs
import Mathlib.Algebra.Order.Ring.Rat
import Mathlib.Tactic.Linarith

/-!
The relay of mobile alerts, `NtfyRelay` of `service/ntfy.py`: `enqueue` with its coalescing
map and its bounded queue, and the worker that takes from the queue.

`enqueue` is a plain function on one event loop, so a call is one step, and so is the
worker's `get`. What the worker does with an alert it took changes neither the map nor the
queue. Times are what `time.monotonic` gave, as rational numbers.
-/

namespace AifyComms.NtfyRelay
open PyText Runs

/-! ### The alert of an event -/

/-- The `to` of an event: a text, a collection of them, or anything else. -/
inductive Addressed where
  | one (name : String)
  | many (names : List String)
  | other

/-- The fields of an event that are read here, with an empty text for an absent one. -/
structure EventData where
  addressed : Addressed
  sender : String
  channel : String
  subject : String
  body : String

/-- `value or fallback`. -/
def orElse (value fallback : String) : String := if value = "" then fallback else value

/-- `_recipients`. -/
def recipients (data : EventData) : List String :=
  match data.addressed with
  | .one name => [normalise name]
  | .many names => names.map normalise
  | .other => []

def notifiableEvents : List String := ["message_sent", "channel_message"]

/-- `qualifies`. -/
def qualifies (event : String) (data : EventData) (channelJoined : Option Bool) : Bool :=
  if event ∉ notifiableEvents then false
  else if event = "channel_message" then
    if strip data.channel = "" then false else channelJoined.getD false
  else decide ("dashboard" ∈ recipients data)

/-- `coalesce_key`. `lowered` is `str.lower`. -/
def coalesceKey (lowered : String → String) (event : String) (data : EventData) : String :=
  String.join [event, "|", lowered (strip (orElse data.sender (orElse data.channel "?"))), "|",
    lowered (strip data.subject)]

/-- `text[:180]`. -/
def clipped (text : String) : String := String.ofList (text.toList.take 180)

/-- `build_alert`. -/
def buildAlert (event : String) (data : EventData) : String × String :=
  let sender := strip (orElse data.sender "agent")
  if event = "channel_message" then
    (String.join ["#", strip (orElse data.channel "channel"), " — ", sender],
      orElse (clipped (strip data.body)) "(no body)")
  else
    (String.join [sender, " → you"], orElse (clipped (strip data.subject)) "(no subject)")

/-! ### The relay -/

structure Item where
  title : String
  body : String
  key : String
  deriving DecidableEq

/-- What `enqueue` answers. -/
inductive Outcome where
  | disabled
  | notForOperator
  | coalesced
  | droppedFull
  | queued
  deriving DecidableEq

structure Config where
  url : String
  maxsize : Nat

structure Relay where
  queue : List Item
  lastFired : Dict String ℚ
  droppedFull : Nat
  coalesced : Nat

/-- `COALESCE_WINDOW_SECONDS`. -/
def coalesceWindowSeconds : ℚ := 90

/-- `_prune`. -/
def prune (time : ℚ) (lastFired : Dict String ℚ) : Dict String ℚ :=
  lastFired.filter fun key =>
    !(lastFired.get? key).any fun fired => decide (coalesceWindowSeconds * 10 < time - fired)

/-- `asyncio.Queue.full`: a bound of 0 is no bound. -/
def full (config : Config) (queue : List Item) : Bool :=
  decide (0 < config.maxsize ∧ config.maxsize ≤ queue.length)

/-- Whether an alert of this key fired within the window. -/
def firedWithin (relay : Relay) (key : String) (time : ℚ) : Bool :=
  (relay.lastFired.get? key).any fun previous => decide (time - previous < coalesceWindowSeconds)

/-- `enqueue`, from the key on. -/
def enqueueAlert (config : Config) (relay : Relay) (item : Item) (time : ℚ) : Relay × Outcome :=
  if firedWithin relay item.key time then
    ({ relay with coalesced := relay.coalesced + 1 }, .coalesced)
  else
    let fired := prune time (relay.lastFired.set item.key time)
    if full config relay.queue then
      ({ relay with lastFired := fired, droppedFull := relay.droppedFull + 1 }, .droppedFull)
    else ({ relay with lastFired := fired, queue := relay.queue ++ [item] }, .queued)

def alertOf (lowered : String → String) (event : String) (data : EventData) : Item :=
  ⟨(buildAlert event data).1, (buildAlert event data).2, coalesceKey lowered event data⟩

/-- `enqueue`. -/
def enqueue (lowered : String → String) (config : Config) (relay : Relay) (event : String)
    (data : EventData) (channelJoined : Option Bool) (time : ℚ) : Relay × Outcome :=
  if strip config.url = "" then (relay, .disabled)
  else if !qualifies event data channelJoined then (relay, .notForOperator)
  else enqueueAlert config relay (alertOf lowered event data) time

/-! ### Calls and drains -/

/-- An alert that `enqueue` was called with, and what became of it. -/
structure Alert where
  item : Item
  time : ℚ
  outcome : Outcome
  deriving DecidableEq

/-- The relay, the clock, what the worker took so far, and every alert in the order of the
calls. -/
structure World where
  relay : Relay
  now : ℚ
  taken : List Item
  alerts : List Alert

def initial (now : ℚ) : World := ⟨⟨[], Dict.empty, 0, 0⟩, now, [], []⟩

inductive Label where
  | enqueue (event : String) (data : EventData) (channelJoined : Option Bool) (time : ℚ)
  | drain

def isAlert (outcome : Outcome) : Bool := decide (outcome ∉ [.disabled, .notForOperator])

def step (lowered : String → String) (config : Config) (world : World) : Label → Option World
  | .enqueue event data channelJoined time =>
      if world.now ≤ time then
        let answer := enqueue lowered config world.relay event data channelJoined time
        some { world with
          relay := answer.1
          now := time
          alerts := if isAlert answer.2 then
            world.alerts ++ [⟨alertOf lowered event data, time, answer.2⟩] else world.alerts }
      else none
  | .drain =>
      match world.relay.queue with
      | [] => none
      | item :: rest => some { world with
          relay := { world.relay with queue := rest }
          taken := world.taken ++ [item] }

/-- An alert of the key was refused for a full queue within the window before `time`. -/
def refusedWithin (alerts : List Alert) (key : String) (time : ℚ) : Bool :=
  alerts.any fun alert => decide (alert.outcome = .droppedFull ∧ alert.item.key = key ∧
    time - alert.time < coalesceWindowSeconds)

/-- A call that raises an alert comes after no refused one of its key within the window. -/
def followsNoRefusal (lowered : String → String) (config : Config) (world : World) : Label → Bool
  | .enqueue event data channelJoined time =>
      decide (strip config.url = "") || !qualifies event data channelJoined ||
        !refusedWithin world.alerts (coalesceKey lowered event data) time
  | .drain => true

def FollowsNoRefusal (lowered : String → String) (config : Config) (world : World)
    (label : Label) : Prop :=
  followsNoRefusal lowered config world label = true

/-- Every coalesced alert comes within the window after one of its key that was queued. -/
def Justified (alerts : List Alert) : Prop :=
  ∀ before alert after, alerts = before ++ alert :: after → alert.outcome = .coalesced →
    ∃ queued ∈ before, queued.outcome = .queued ∧ queued.item.key = alert.item.key ∧
      queued.time ≤ alert.time ∧ alert.time - queued.time < coalesceWindowSeconds

/-- What was put on the queue so far, taken or not, is each alert that was neither coalesced
nor refused, once and in order. -/
def PutOnce (world : World) : Prop :=
  world.taken ++ world.relay.queue =
    (world.alerts.filter fun alert =>
      decide (alert.outcome ≠ .coalesced ∧ alert.outcome ≠ .droppedFull)).map Alert.item

/-! ### One call -/

/-- An alert that was not coalesced is recorded in the map. -/
def Alert.recorded (alert : Alert) : Prop := alert.outcome ≠ .coalesced

theorem Alert.recorded_of {alert : Alert}
    (outcome : alert.outcome = .droppedFull ∨ alert.outcome = .queued) : alert.recorded := by
  rw [Alert.recorded]
  rcases outcome with is | is <;> rw [is] <;> decide

/-- What a call does to an alert: it is coalesced, refused, or queued. -/
inductive Enqueues (config : Config) (relay after : Relay) (item : Item) (time : ℚ) :
    Outcome → Prop where
  | coalesced (fired : firedWithin relay item.key time = true)
      (same : after.lastFired = relay.lastFired) (queue : after.queue = relay.queue) :
      Enqueues config relay after item time .coalesced
  | droppedFull (quiet : firedWithin relay item.key time = false)
      (records : after.lastFired = prune time (relay.lastFired.set item.key time))
      (queue : after.queue = relay.queue) : Enqueues config relay after item time .droppedFull
  | queued (quiet : firedWithin relay item.key time = false)
      (records : after.lastFired = prune time (relay.lastFired.set item.key time))
      (queue : after.queue = relay.queue ++ [item]) : Enqueues config relay after item time .queued

theorem enqueueAlert_enqueues (config : Config) (relay : Relay) (item : Item) (time : ℚ) :
    Enqueues config relay (enqueueAlert config relay item time).1 item time
      (enqueueAlert config relay item time).2 := by
  unfold enqueueAlert
  by_cases fired : firedWithin relay item.key time = true
  · rw [if_pos fired]
    exact .coalesced fired rfl rfl
  · rw [if_neg fired]
    have quiet : firedWithin relay item.key time = false := Bool.not_eq_true _ ▸ fired
    by_cases noRoom : full config relay.queue = true
    · rw [if_pos noRoom]
      exact .droppedFull quiet rfl rfl
    · rw [if_neg noRoom]
      exact .queued quiet rfl rfl

/-- What a step can do: a call that raises no alert, one that does, or a drain. -/
inductive Moves (lowered : String → String) (config : Config) (world next : World) : Label → Prop where
  | silent {event : String} {data : EventData} {joined : Option Bool} {time : ℚ}
      (onward : world.now ≤ time) (none' : strip config.url = "" ∨ qualifies event data joined = false)
      (is : next = { world with now := time }) :
      Moves lowered config world next (.enqueue event data joined time)
  | alert {event : String} {data : EventData} {joined : Option Bool} {time : ℚ}
      (onward : world.now ≤ time) (enabled : strip config.url ≠ "")
      (due : qualifies event data joined = true) (outcome : Outcome)
      (enqueues : Enqueues config world.relay next.relay (alertOf lowered event data) time outcome)
      (clock : next.now = time) (taken : next.taken = world.taken)
      (alerts : next.alerts = world.alerts ++ [⟨alertOf lowered event data, time, outcome⟩]) :
      Moves lowered config world next (.enqueue event data joined time)
  | drain (item : Item) (rest : List Item) (queue : world.relay.queue = item :: rest)
      (is : next = { world with
        relay := { world.relay with queue := rest }, taken := world.taken ++ [item] }) :
      Moves lowered config world next .drain

theorem Enqueues.isAlert {config : Config} {relay after : Relay} {item : Item} {time : ℚ}
    {outcome : Outcome} (enqueues : Enqueues config relay after item time outcome) :
    isAlert outcome = true := by
  cases enqueues <;> rfl

theorem step_moves {lowered : String → String} {config : Config} {world next : World} {label : Label}
    (taken : step lowered config world label = some next) :
    Moves lowered config world next label := by
  cases label with
  | enqueue event data joined time =>
      obtain ⟨onward, is⟩ := Option.ite_none_right_eq_some.mp taken
      obtain rfl := Option.some.inj is
      by_cases enabled : strip config.url = ""
      · refine .silent onward (.inl enabled) ?_
        simp only [enqueue, enabled, if_true]
        rfl
      · by_cases due : qualifies event data joined = true
        · have answer : enqueue lowered config world.relay event data joined time =
              enqueueAlert config world.relay (alertOf lowered event data) time := by
            simp [enqueue, enabled, due]
          have enqueues := enqueueAlert_enqueues config world.relay (alertOf lowered event data) time
          refine .alert onward enabled due
            (enqueueAlert config world.relay (alertOf lowered event data) time).2 ?_ rfl rfl ?_
          · rw [answer]
            exact enqueues
          · rw [answer, if_pos enqueues.isAlert]
        · refine .silent onward (.inr (Bool.not_eq_true _ ▸ due)) ?_
          simp only [enqueue, enabled, due, if_false]
          rfl
  | drain =>
      simp only [step] at taken
      split at taken
      · cases taken
      · next item rest queue =>
          exact .drain item rest queue (Option.some.inj taken).symm

/-! ### The map and the alerts -/

theorem prune_get {time fired : ℚ} {lastFired : Dict String ℚ} {key : String}
    (held : (prune time lastFired).get? key = some fired) : lastFired.get? key = some fired := by
  rw [prune, Dict.get?_filter] at held
  exact (Option.ite_none_right_eq_some.mp held).2

/-- What fired within the window is not pruned. -/
theorem get_prune {time fired : ℚ} {lastFired : Dict String ℚ} {key : String}
    (held : lastFired.get? key = some fired) (recent : time - fired < coalesceWindowSeconds) :
    (prune time lastFired).get? key = some fired := by
  have young : ¬coalesceWindowSeconds * 10 < time - fired := by
    unfold coalesceWindowSeconds at recent ⊢
    linarith
  rw [prune, Dict.get?_filter, held]
  simp [young]

theorem firedWithin_iff (relay : Relay) (key : String) (time : ℚ) :
    firedWithin relay key time = true ↔ ∃ fired, relay.lastFired.get? key = some fired ∧
      time - fired < coalesceWindowSeconds := by
  simp [firedWithin, Option.any_eq_true]

/-- The map holds, of the alerts that were not coalesced, each that is within the window, and
nothing else. Two of one key are a window apart. -/
structure Recorded (world : World) : Prop where
  raised : ∀ alert ∈ world.alerts, isAlert alert.outcome = true
  past : ∀ alert ∈ world.alerts, alert.time ≤ world.now
  held : ∀ alert ∈ world.alerts, alert.recorded → world.now - alert.time < coalesceWindowSeconds →
    world.relay.lastFired.get? alert.item.key = some alert.time
  source : ∀ key fired, world.relay.lastFired.get? key = some fired →
    ∃ alert ∈ world.alerts, alert.recorded ∧ alert.item.key = key ∧ alert.time = fired
  apart : world.alerts.Pairwise fun earlier later => earlier.recorded → later.recorded →
    earlier.item.key = later.item.key → coalesceWindowSeconds ≤ later.time - earlier.time

/-- Time alone moves nothing. -/
theorem Recorded.later {world : World} {time : ℚ} (recorded : Recorded world)
    (onward : world.now ≤ time) : Recorded { world with now := time } := by
  constructor
  · exact recorded.raised
  · intro alert listed
    exact (recorded.past alert listed).trans onward
  · intro alert listed isRecorded recent
    apply recorded.held alert listed isRecorded
    linarith
  · exact recorded.source
  · exact recorded.apart

section Calls
variable {world next : World} {alert : Alert} {time : ℚ}

/-- A coalesced alert leaves the map. -/
theorem Recorded.coalesced (recorded : Recorded world) (onward : world.now ≤ alert.time)
    (clock : next.now = alert.time) (alerts : next.alerts = world.alerts ++ [alert])
    (isCoalesced : alert.outcome = .coalesced)
    (same : next.relay.lastFired = world.relay.lastFired) : Recorded next := by
  have notRecorded : ¬alert.recorded := fun isRecorded => isRecorded isCoalesced
  have raised : isAlert alert.outcome = true := by
    rw [isCoalesced]
    rfl
  have later := recorded.later onward
  constructor
  · intro other listed
    rw [alerts] at listed
    rcases List.mem_append.mp listed with old | new
    · exact recorded.raised other old
    · rw [List.mem_singleton.mp new]
      exact raised
  · intro other listed
    rw [alerts] at listed
    rw [clock]
    rcases List.mem_append.mp listed with old | new
    · exact later.past other old
    · rw [List.mem_singleton.mp new]
  · intro other listed isRecorded recent
    rw [alerts] at listed
    rw [clock] at recent
    rw [same]
    rcases List.mem_append.mp listed with old | new
    · exact later.held other old isRecorded recent
    · rw [List.mem_singleton.mp new] at isRecorded
      exact absurd isRecorded notRecorded
  · intro key fired held
    rw [same] at held
    obtain ⟨other, listed, facts⟩ := recorded.source key fired held
    rw [alerts]
    exact ⟨other, List.mem_append_left _ listed, facts⟩
  · rw [alerts]
    apply pairwise_concat recorded.apart
    intro other _ _ isRecorded
    exact absurd isRecorded notRecorded

/-- An alert that nothing in the map coalesces is a window past every one of its key. -/
theorem Recorded.quiet (recorded : Recorded world) (onward : world.now ≤ alert.time)
    (quiet : firedWithin world.relay alert.item.key alert.time = false) {other : Alert}
    (listed : other ∈ world.alerts) (isRecorded : other.recorded)
    (sameKey : other.item.key = alert.item.key) :
    coalesceWindowSeconds ≤ alert.time - other.time := by
  by_contra near
  rw [not_le] at near
  have held := recorded.held other listed isRecorded (by linarith)
  rw [sameKey] at held
  have fired : firedWithin world.relay alert.item.key alert.time = true :=
    (firedWithin_iff _ _ _).mpr ⟨other.time, held, near⟩
  rw [quiet] at fired
  cases fired

/-- An alert that was not coalesced is recorded, whether it found room or not. -/
theorem Recorded.records (recorded : Recorded world) (onward : world.now ≤ alert.time)
    (clock : next.now = alert.time) (alerts : next.alerts = world.alerts ++ [alert])
    (isRecorded : alert.recorded) (raised : isAlert alert.outcome = true)
    (quiet : firedWithin world.relay alert.item.key alert.time = false)
    (records : next.relay.lastFired =
      prune alert.time (world.relay.lastFired.set alert.item.key alert.time)) : Recorded next := by
  have later := recorded.later onward
  constructor
  · intro other listed
    rw [alerts] at listed
    rcases List.mem_append.mp listed with old | new
    · exact recorded.raised other old
    · rw [List.mem_singleton.mp new]
      exact raised
  · intro other listed
    rw [alerts] at listed
    rw [clock]
    rcases List.mem_append.mp listed with old | new
    · exact later.past other old
    · rw [List.mem_singleton.mp new]
  · intro other listed otherRecorded recent
    rw [alerts] at listed
    rw [clock] at recent
    rw [records]
    apply get_prune _ recent
    rcases List.mem_append.mp listed with old | new
    · have differs : alert.item.key ≠ other.item.key := by
        intro sameKey
        have far := recorded.quiet onward quiet old otherRecorded sameKey.symm
        linarith
      rw [Dict.get?_set_ne _ _ differs]
      exact later.held other old otherRecorded recent
    · rw [List.mem_singleton.mp new]
      exact Dict.get?_set_self _ _ _
  · intro key fired held
    rw [records] at held
    have set := prune_get held
    rw [alerts]
    by_cases isKey : alert.item.key = key
    · rw [← isKey, Dict.get?_set_self] at set
      exact ⟨alert, List.mem_append_right _ (List.mem_singleton_self _), isRecorded, isKey,
        Option.some.inj set⟩
    · rw [Dict.get?_set_ne _ _ isKey] at set
      obtain ⟨other, listed, facts⟩ := recorded.source key fired set
      exact ⟨other, List.mem_append_left _ listed, facts⟩
  · rw [alerts]
    apply pairwise_concat recorded.apart
    intro other listed otherRecorded _ sameKey
    exact recorded.quiet onward quiet listed otherRecorded sameKey

end Calls

theorem move_recorded {lowered : String → String} {config : Config} {world next : World}
    {label : Label} (recorded : Recorded world) (moves : Moves lowered config world next label) :
    Recorded next := by
  cases moves with
  | silent onward _ is =>
      rw [is]
      exact recorded.later onward
  | alert onward _ _ outcome enqueues clock _ alerts =>
      cases enqueues with
      | coalesced _ same _ => exact recorded.coalesced onward clock alerts rfl same
      | droppedFull quiet records _ =>
          exact recorded.records onward clock alerts (Alert.recorded_of (.inl rfl)) rfl quiet records
      | queued quiet records _ =>
          exact recorded.records onward clock alerts (Alert.recorded_of (.inr rfl)) rfl quiet records
  | drain item rest _ is =>
      rw [is]
      exact ⟨recorded.raised, recorded.past, recorded.held, recorded.source, recorded.apart⟩

/-! ### The queue -/

theorem move_putOnce {lowered : String → String} {config : Config} {world next : World}
    {label : Label} (putOnce : PutOnce world) (moves : Moves lowered config world next label) :
    PutOnce next := by
  unfold PutOnce at putOnce ⊢
  cases moves with
  | silent _ _ is =>
      rw [is]
      exact putOnce
  | alert _ _ _ outcome enqueues _ taken alerts =>
      rw [alerts, taken, List.filter_append, List.map_append, ← putOnce]
      cases enqueues with
      | coalesced _ _ queue => simp [queue]
      | droppedFull _ _ queue => simp [queue]
      | queued _ _ queue => simp [queue]
  | drain item rest queue is =>
      rw [is, ← putOnce, queue, List.append_assoc]
      rfl

/-! ### What coalesces an alert -/

/-- What justifies the next alert. -/
def QueuedWithin (alerts : List Alert) (key : String) (time : ℚ) : Prop :=
  ∃ queued ∈ alerts, queued.outcome = .queued ∧ queued.item.key = key ∧ queued.time ≤ time ∧
    time - queued.time < coalesceWindowSeconds

theorem justified_concat_iff {alerts : List Alert} {alert : Alert} (justified : Justified alerts) :
    Justified (alerts ++ [alert]) ↔
      (alert.outcome = .coalesced → QueuedWithin alerts alert.item.key alert.time) := by
  constructor
  · intro all
    exact all alerts alert [] rfl
  · intro last before other after split isCoalesced
    rcases List.eq_nil_or_concat after with rfl | ⟨earlier, final, rfl⟩
    · obtain ⟨same, isLast⟩ := List.append_inj' split rfl
      obtain rfl := List.cons.inj isLast |>.1
      subst same
      exact last isCoalesced
    · rw [List.concat_eq_append, ← List.cons_append, ← List.append_assoc] at split
      obtain ⟨same, _⟩ := List.append_inj' split rfl
      exact justified before other earlier same isCoalesced

/-- Two alerts of one key that were not coalesced are a window apart. -/
theorem Recorded.distant {world : World} {left right : Alert} (recorded : Recorded world)
    (leftListed : left ∈ world.alerts) (rightListed : right ∈ world.alerts) (differs : left ≠ right)
    (leftRecorded : left.recorded) (rightRecorded : right.recorded)
    (sameKey : left.item.key = right.item.key) :
    coalesceWindowSeconds ≤ right.time - left.time ∨
      coalesceWindowSeconds ≤ left.time - right.time := by
  obtain ⟨before, after, split⟩ := List.append_of_mem leftListed
  have apart := recorded.apart
  rw [split] at apart rightListed
  rw [List.pairwise_append] at apart
  rcases List.mem_append.mp rightListed with earlier | here
  · right
    exact apart.2.2 right earlier left List.mem_cons_self rightRecorded leftRecorded sameKey.symm
  · rcases List.mem_cons.mp here with same | later
    · exact absurd same.symm differs
    · left
      exact List.rel_of_pairwise_cons apart.2.1 later leftRecorded rightRecorded sameKey

/-- What is in the map within the window was queued or refused within it. -/
theorem Recorded.fired {world : World} {key : String} {time : ℚ} (recorded : Recorded world)
    (onward : world.now ≤ time) (fired : firedWithin world.relay key time = true) :
    refusedWithin world.alerts key time = true ∨ QueuedWithin world.alerts key time := by
  obtain ⟨since, held, near⟩ := (firedWithin_iff _ _ _).mp fired
  obtain ⟨alert, listed, isRecorded, isKey, rfl⟩ := recorded.source key since held
  have raised := recorded.raised alert listed
  cases outcome : alert.outcome with
  | disabled =>
      rw [outcome] at raised
      cases raised
  | notForOperator =>
      rw [outcome] at raised
      cases raised
  | coalesced => exact absurd outcome isRecorded
  | droppedFull =>
      left
      rw [refusedWithin, List.any_eq_true]
      exact ⟨alert, listed, decide_eq_true ⟨outcome, isKey, near⟩⟩
  | queued =>
      right
      exact ⟨alert, listed, outcome, isKey, (recorded.past alert listed).trans onward, near⟩

/-- An alert that follows a refused one of its key within the window is coalesced, and no
queued one justifies that. -/
theorem Recorded.refused {world : World} {key : String} {time : ℚ} (recorded : Recorded world)
    (onward : world.now ≤ time) (refused : refusedWithin world.alerts key time = true) :
    firedWithin world.relay key time = true ∧ ¬QueuedWithin world.alerts key time := by
  rw [refusedWithin, List.any_eq_true] at refused
  obtain ⟨alert, listed, facts⟩ := refused
  obtain ⟨isRefused, isKey, near⟩ := of_decide_eq_true facts
  have isRecorded := Alert.recorded_of (.inl isRefused)
  have held := recorded.held alert listed isRecorded (by linarith)
  rw [isKey] at held
  refine ⟨(firedWithin_iff _ _ _).mpr ⟨_, held, near⟩, ?_⟩
  rintro ⟨queued, queuedListed, isQueued, queuedKey, _, queuedNear⟩
  have differs : alert ≠ queued := by
    intro same
    rw [same, isQueued] at isRefused
    cases isRefused
  have past := recorded.past alert listed
  have queuedPast := recorded.past queued queuedListed
  rcases recorded.distant listed queuedListed differs isRecorded (Alert.recorded_of (.inr isQueued))
    (isKey.trans queuedKey.symm) with far | far
  · linarith
  · linarith

/-- After a step every coalesced alert is justified, exactly when the step followed no refusal. -/
theorem move_justified_iff {lowered : String → String} {config : Config} {world next : World}
    {label : Label} (recorded : Recorded world) (justified : Justified world.alerts)
    (moves : Moves lowered config world next label) :
    Justified next.alerts ↔ FollowsNoRefusal lowered config world label := by
  cases moves with
  | silent _ raisesNone is =>
      rw [is]
      refine iff_of_true justified ?_
      rcases raisesNone with disabled | other
      · simp [FollowsNoRefusal, followsNoRefusal, disabled]
      · simp [FollowsNoRefusal, followsNoRefusal, other]
  | @alert event data joined time onward enabled due outcome enqueues _ _ alerts =>
      have follows : FollowsNoRefusal lowered config world (.enqueue event data joined time) ↔
          refusedWithin world.alerts (coalesceKey lowered event data) time = false := by
        simp [FollowsNoRefusal, followsNoRefusal, enabled, due]
      rw [follows, alerts, justified_concat_iff justified]
      cases refused : refusedWithin world.alerts (coalesceKey lowered event data) time with
      | true =>
          obtain ⟨fired, notQueued⟩ := recorded.refused onward refused
          have isCoalesced : outcome = .coalesced := by
            cases enqueues with
            | coalesced => rfl
            | droppedFull quiet => exact absurd (fired.symm.trans quiet) (by decide)
            | queued quiet => exact absurd (fired.symm.trans quiet) (by decide)
          refine iff_of_false (fun last => notQueued (last isCoalesced)) (by decide)
      | false =>
          refine iff_of_true (fun isCoalesced => ?_) rfl
          have fired : firedWithin world.relay (coalesceKey lowered event data) time = true := by
            cases enqueues with
            | coalesced fired => exact fired
            | droppedFull => cases isCoalesced
            | queued => cases isCoalesced
          rcases recorded.fired onward fired with again | queued
          · rw [refused] at again
            cases again
          · exact queued
  | drain item rest _ is =>
      rw [is]
      exact iff_of_true justified rfl

/-! ### Runs -/

/-- What holds in every run, and with it what holds while no alert follows a refused one. -/
structure Sound (world : World) : Prop where
  recorded : Recorded world
  putOnce : PutOnce world
  justified : Justified world.alerts

theorem initial_sound (now : ℚ) : Sound (initial now) := by
  refine ⟨⟨?_, ?_, ?_, ?_, List.Pairwise.nil⟩, rfl, ?_⟩
  · intro alert listed
    cases listed
  · intro alert listed
    cases listed
  · intro alert listed
    cases listed
  · intro key fired held
    cases held
  · intro before alert after split
    cases before <;> cases split

/-- **In every run of calls and drains in which no alert follows a refused one of its key within
the window, an alert is coalesced only after a queued one of its key within the window, and
every other that was not refused is put on the queue once. The next step keeps this exactly
when it meets the condition.** -/
theorem suppressed_by_queued (lowered : String → String) (config : Config) (now : ℚ) (world : World)
    (reached : Reaches (step lowered config) (FollowsNoRefusal lowered config) (initial now) world) :
    Justified world.alerts ∧ PutOnce world ∧
      ∀ label next, step lowered config world label = some next →
        (Justified next.alerts ↔ FollowsNoRefusal lowered config world label) ∧ PutOnce next := by
  have sound : Sound world := by
    apply reached.invariant Sound (initial_sound now)
    intro before label after sound follows taken
    have moves := step_moves taken
    exact ⟨move_recorded sound.recorded moves, move_putOnce sound.putOnce moves,
      (move_justified_iff sound.recorded sound.justified moves).mpr follows⟩
  refine ⟨sound.justified, sound.putOnce, ?_⟩
  intro label next taken
  have moves := step_moves taken
  exact ⟨move_justified_iff sound.recorded sound.justified moves, move_putOnce sound.putOnce moves⟩

def oneSlot : Config := ⟨"https://ntfy.example/topic", 1⟩

def letter (sender subject : String) : EventData := ⟨.one "dashboard", sender, "", subject, ""⟩

def mail (sender subject : String) (time : ℚ) : Label :=
  .enqueue "message_sent" (letter sender subject) none time

def alerted (sender subject : String) (time : ℚ) (outcome : Outcome) : Alert :=
  ⟨alertOf lower "message_sent" (letter sender subject), time, outcome⟩

/-- A burst of one sender's, a drain, and the same subject again after the window. -/
def burst : List Label :=
  [mail "sc-manager" "take it" 0, mail "SC-Manager" "take it" 30, .drain, mail "sc-manager" "take it" 91]

def World.outcomes (world : World) : List Outcome := world.alerts.map Alert.outcome

theorem burst_coalesced :
    ∃ world, Reaches (step lower oneSlot) (FollowsNoRefusal lower oneSlot) (initial 0) world ∧
      world.outcomes = [.queued, .coalesced, .queued] ∧ Justified world.alerts ∧ PutOnce world := by
  have executed : (exec (step lower oneSlot) (followsNoRefusal lower oneSlot) (initial 0) burst).map
      World.outcomes = some [.queued, .coalesced, .queued] := by decide +kernel
  obtain ⟨world, reached, outcomes⟩ :=
    reaches_observed _ _ _ _ (fun _ _ granted => granted) executed
  obtain ⟨justified, putOnce, _⟩ := suppressed_by_queued lower oneSlot 0 world reached
  exact ⟨world, reached, outcomes, justified, putOnce⟩

/-- Another sender's alert fills the queue, this one's is refused, the worker makes room, and
this one's next alert comes a second later. -/
def refusedThenAgain : List Label :=
  [mail "sc-coder" "done" 0, mail "sc-manager" "take it" 1, .drain, mail "sc-manager" "take it" 2]

-- A run is evaluated with the arithmetic of its times, which Lean does not unfold by itself.
attribute [local semireducible] Rat.add Rat.mul Rat.sub

theorem refused_alert_suppresses :
    ∃ world, Reaches (step lower oneSlot) anyStep (initial 0) world ∧
      world.outcomes = [.queued, .droppedFull, .coalesced] ∧ ¬Justified world.alerts := by
  have executed : (exec (step lower oneSlot) (fun _ _ => true) (initial 0) refusedThenAgain).map
      World.alerts = some [alerted "sc-coder" "done" 0 .queued,
        alerted "sc-manager" "take it" 1 .droppedFull,
        alerted "sc-manager" "take it" 2 .coalesced] := by decide
  obtain ⟨world, reached, alerts⟩ := reaches_observed _ _ _ _ (fun _ _ _ => trivial) executed
  refine ⟨world, reached, by rw [World.outcomes, alerts]; rfl, fun justified => ?_⟩
  rw [alerts] at justified
  obtain ⟨queued, listed, isQueued, sameKey, _⟩ := justified [_, _] _ [] rfl rfl
  rcases List.mem_cons.mp listed with rfl | later
  · revert sameKey
    decide
  · rw [List.mem_singleton.mp later] at isQueued
    cases isQueued

end AifyComms.NtfyRelay
