import AifyComms.AgentStateMirror

/-!
What comms reads of an agent, from `api_core/operational_view.py`: the agent's holders on
its machine, each classified by the age of its publisher's last report, and the view and
the claim gate over them.

The mirror's records have passed the validator, so a row's `busy` is a Bool; a holder keeps
the source's `bool | None`. Texts in the service's one format compare as the instants they
name, so the latest `applied_at` is the largest stamp.
-/

namespace AifyComms.OperationalView
open AgentState hiding View

/-- One publisher's record of the agent. -/
structure Holder where
  availability : Availability
  busy : Option Bool
  state : State
  lifetime : Option String
  appliedAt : Option Stamp
  deriving DecidableEq

/-- Every record of the agent on its machine, and whether a publisher there could hold it
unseen. -/
structure Holders where
  holders : List Holder
  unreadable : Bool
  deriving DecidableEq

/-- The mirror and the clock as one question reads them. -/
structure Binding where
  view : Option AgentState.View
  time : Stamp
  loss : Bool

/-! ### The holders -/

/-- A publisher of the agent's machine, with its rows of the agent. -/
structure Candidate where
  publisher : Publisher
  availability : Availability
  rows : List Record

def candidates (view : AgentState.View) (time : Stamp) (machine agentId : String) :
    List Candidate :=
  (view.entries.filter fun entry => entry.1.1 = machine).map fun entry =>
    ⟨entry.2, availabilityOf entry.2 time, entry.2.rows.filter fun row => row.agentId = agentId⟩

/-- A live peer lists this agent. -/
def Candidate.covers (candidate : Candidate) : Bool :=
  candidate.availability = .fresh && !candidate.rows.isEmpty

def Candidate.holders (candidate : Candidate) : List Holder :=
  candidate.rows.map fun row =>
    ⟨candidate.availability, some row.busy, row.state, row.lifetime,
      candidate.publisher.dataAppliedAt⟩

/-- The candidates left when silence yields to a live peer. -/
def remaining (found : List Candidate) (time : Stamp) : List Candidate :=
  found.filter fun candidate =>
    !(found.any Candidate.covers && reportAge candidate.publisher time = .stale)

/-- `holders_of`. A failed binding is all unknown. -/
def holdersOf (binding : Binding) (machine agentId : String) : Holders :=
  match binding.loss, binding.view with
  | false, some view =>
      let kept := remaining (candidates view binding.time machine agentId) binding.time
      -- The rows of a publisher that is not fresh cannot be trusted to say the agent is absent.
      ⟨kept.flatMap Candidate.holders,
        kept.any fun candidate => candidate.availability ≠ .fresh && candidate.rows.isEmpty⟩
  | _, _ => ⟨[], true⟩

/-! ### The view -/

inductive Eligibility where
  | known
  | unknown
  deriving DecidableEq

/-- The status vocabulary, and `unknown`. -/
inductive Word where
  | working | shell | online | available | blocked | offline | stopped | misconfigured | starting
  | unknown
  deriving DecidableEq

/-- comms' own facts about the agent. -/
structure Messaging where
  runOccupied : Bool
  runRunning : Bool
  operatorStopped : Bool
  wakeHandleAbsent : Bool
  deliveryPathMissing : String
  usageLimitedUntil : Option String

structure View where
  status : Word
  lastKnown : Option (Word × Stamp)
  deliverable : Bool
  eligibility : Eligibility
  busy : Option Bool
  holdsDelivery : Option Bool
  runOccupied : Bool
  usageLimitedUntil : Option String
  deriving DecidableEq

def Holder.isFresh (holder : Holder) : Bool := holder.availability = .fresh

/-- `_busy`: a fresh busy is true whatever else is unknown. -/
def busyOf (holders : Holders) : Eligibility × Option Bool :=
  let fresh := holders.holders.filter Holder.isFresh
  if fresh.any fun holder => holder.busy = some true then
    let known := holders.holders ≠ [] ∧ holders.unreadable = false ∧
      fresh.length = holders.holders.length
    (if known then .known else .unknown, some true)
  else if holders.holders = [] ∨ holders.unreadable = true ∨
      fresh.length ≠ holders.holders.length then (.unknown, none)
  -- A missing or malformed busy is not known idle.
  else if fresh.any fun holder => holder.busy ≠ some false then (.unknown, none)
  else (.known, some false)

/-- `_status_word`: aify-env's `idle` is `online` here. -/
def statusWord : State → Word
  | .idle => .online
  | .working => .working
  | .shell => .shell
  | .available => .available
  | .blocked => .blocked
  | .offline => .offline
  | .stopped => .stopped
  | .misconfigured => .misconfigured
  | .starting => .starting
  | .unknown => .unknown

/-- The later of two stamps; the first where they are equal. -/
def laterHolder (best : State × Stamp) (next : State × Stamp) : State × Stamp :=
  match best.2, next.2 with
  | some held, some offered => if held < offered then next else best
  | none, some _ => next
  | _, none => best

def lastKnown (holders : Holders) : Option (Word × Stamp) :=
  match holders.holders.filterMap fun holder =>
      holder.appliedAt.map fun stamp => (holder.state, stamp) with
  | [] => none
  | first :: rest =>
      let latest := rest.foldl laterHolder first
      some (statusWord latest.1, latest.2)

def promotable (state : State) : Bool := state ∈ [State.idle, .shell, .starting, .available]

def usageBlockable (word : Word) : Bool :=
  word ∈ [Word.online, .shell, .starting, .available, .working]

/-- The word of the one fresh holder, with a run comms delivered and the pool's limit. -/
def freshWord (state : State) (messaging : Messaging) : Word × Option String :=
  let status := if messaging.runRunning && promotable state then Word.working else statusWord state
  match messaging.usageLimitedUntil with
  | some reset => if usageBlockable status then (.blocked, some reset) else (status, none)
  | none => (status, none)

def viewStatus (holders : Holders) (messaging : Messaging) (eligibility : Eligibility) :
    Word × Option (Word × Stamp) × Option String :=
  if messaging.operatorStopped then (.stopped, none, none)
  else if messaging.wakeHandleAbsent then (.offline, none, none)
  else if eligibility = .unknown then (.unknown, lastKnown holders, none)
  else match holders.holders.filter Holder.isFresh with
    | [holder] =>
        let served := freshWord holder.state messaging
        (served.1, none, served.2)
    -- Two fresh holders are a conflict: neither one's word is served.
    | _ => (.unknown, none, none)

def commsView (holders : Holders) (messaging : Messaging) : View :=
  let read := busyOf holders
  let served := viewStatus holders messaging read.1
  { status := served.1
    lastKnown := served.2.1
    deliverable := messaging.deliveryPathMissing = ""
    eligibility := read.1
    busy := read.2
    holdsDelivery :=
      if read.2 = some true then some true else if read.1 = .known then some false else none
    runOccupied := messaging.runOccupied
    usageLimitedUntil := if served.1 = .blocked then served.2.2 else none }

/-! ### The readers -/

inductive Decision where
  | withhold
  | steer
  | hold
  | proceed
  deriving DecidableEq

/-- `claim_decision`: unknown withholds, also beside a fresh busy holder. -/
def claimDecision (view : View) (steerableRun : Bool) : Decision :=
  if view.eligibility ≠ .known then .withhold
  else if view.busy = some true then if steerableRun then .steer else .hold
  else .proceed

def sendTimeHold (view : View) (queueIfBusy occupied : Bool) : Bool :=
  if view.eligibility ≠ .known then true
  else queueIfBusy && (occupied || view.busy = some true)

def reminderPaused (view : View) : Bool :=
  view.busy ≠ some false || view.eligibility ≠ .known || view.runOccupied

def strandedProtected (view : View) : Bool :=
  view.busy ≠ some false || view.eligibility ≠ .known

/-- What the gate does not know, no other reader acts on either. -/
theorem withheld_holds_back (view : View) (steerableRun queueIfBusy occupied : Bool)
    (withheld : claimDecision view steerableRun = .withhold) :
    sendTimeHold view queueIfBusy occupied = true ∧ reminderPaused view = true ∧
      strandedProtected view = true := by
  have unknown : view.eligibility ≠ .known := by
    intro known
    unfold claimDecision at withheld
    rw [if_neg (not_not_intro known)] at withheld
    split at withheld
    · split at withheld <;> cases withheld
    · cases withheld
  simp [sendTimeHold, reminderPaused, strandedProtected, unknown]

/-! ### When the gate proceeds -/

/-- A publisher of the machine, as the mirror has it. -/
def OnMachine (view : AgentState.View) (machine : String) (publisher : Publisher) : Prop :=
  ∃ inst, view.get? (machine, inst) = some publisher

/-- What the gate has read where it proceeds: a live publisher lists the agent, all such say
it is idle, and every other publisher of the machine has been silent for its own limit. -/
structure KnownIdle (view : AgentState.View) (machine agentId : String) (time : Stamp) :
    Prop where
  listed : ∃ publisher, OnMachine view machine publisher ∧
    availabilityOf publisher time = .fresh ∧ ∃ row ∈ publisher.rows, row.agentId = agentId
  idle : ∀ publisher, OnMachine view machine publisher → availabilityOf publisher time = .fresh →
    ∀ row ∈ publisher.rows, row.agentId = agentId → row.busy = false
  silent : ∀ publisher, OnMachine view machine publisher →
    availabilityOf publisher time ≠ .fresh → reportAge publisher time = .stale

/-- The gate's answer for an agent, with the mirror read at `time`. -/
def claimAt (view : AgentState.View) (machine agentId : String) (time : Stamp)
    (messaging : Messaging) (steerableRun : Bool) : Decision :=
  claimDecision (commsView (holdersOf ⟨some view, time, false⟩ machine agentId) messaging)
    steerableRun

theorem claimDecision_proceed {holders : Holders} {messaging : Messaging} {steerableRun : Bool} :
    claimDecision (commsView holders messaging) steerableRun = .proceed ↔
      busyOf holders = (.known, some false) := by
  have told : (commsView holders messaging).eligibility = (busyOf holders).1 ∧
      (commsView holders messaging).busy = (busyOf holders).2 := ⟨rfl, rfl⟩
  unfold claimDecision
  rw [told.1, told.2]
  have known : ∀ busy, busyOf holders = (.known, busy) → busy = some true ∨ busy = some false := by
    intro busy same
    unfold busyOf at same
    dsimp only at same
    split at same
    · exact .inl (congrArg Prod.snd same).symm
    · split at same
      · cases same
      · split at same
        · cases same
        · exact .inr (congrArg Prod.snd same).symm
  generalize busyOf holders = read at known ⊢
  obtain ⟨eligibility, busy⟩ := read
  cases eligibility with
  | unknown => simp
  | known =>
      rcases known busy rfl with rfl | rfl
      · cases steerableRun <;> simp
      · simp

/-- Known idle: some holder, none unseen, and each one fresh and not busy. -/
theorem busyOf_idle {holders : Holders} :
    busyOf holders = (.known, some false) ↔
      holders.holders ≠ [] ∧ holders.unreadable = false ∧
        ∀ holder ∈ holders.holders, holder.isFresh = true ∧ holder.busy = some false := by
  have full : (holders.holders.filter Holder.isFresh).length = holders.holders.length ↔
      ∀ holder ∈ holders.holders, holder.isFresh = true :=
    List.length_filter_eq_length_iff
  unfold busyOf
  dsimp only
  constructor
  · intro idle
    split at idle
    · have busy : some true = some false := congrArg Prod.snd idle
      cases busy
    · split at idle
      · cases idle
      · rename_i readable
        split at idle
        · cases idle
        · rename_i quiet
          rw [not_or, not_or] at readable
          obtain ⟨some, unseen, counted⟩ := readable
          have fresh := full.mp (not_not.mp counted)
          refine ⟨some, by simpa using unseen, fun holder listed => ⟨fresh holder listed, ?_⟩⟩
          have kept : holder ∈ holders.holders.filter Holder.isFresh :=
            List.mem_filter.mpr ⟨listed, fresh holder listed⟩
          by_contra busy
          exact quiet (List.any_eq_true.mpr ⟨holder, kept, by simpa using busy⟩)
  · rintro ⟨some, seen, all⟩
    have counted := full.mpr fun holder listed => (all holder listed).1
    have unbusy : ∀ holder ∈ holders.holders.filter Holder.isFresh, holder.busy = Option.some false :=
      fun holder kept => (all holder (List.mem_of_mem_filter kept)).2
    rw [if_neg, if_neg, if_neg]
    · intro found
      obtain ⟨holder, kept, busy⟩ := List.any_eq_true.mp found
      rw [unbusy holder kept] at busy
      simp at busy
    · rw [not_or, not_or]
      exact ⟨some, by simpa using seen, not_not_intro counted⟩
    · intro found
      obtain ⟨holder, kept, busy⟩ := List.any_eq_true.mp found
      rw [unbusy holder kept] at busy
      simp at busy

section Gate
variable {view : AgentState.View} {machine agentId : String} {time : Stamp}

/-- The candidate that a publisher of the machine is. -/
def candidateOf (agentId : String) (time : Stamp) (publisher : Publisher) : Candidate :=
  ⟨publisher, availabilityOf publisher time,
    publisher.rows.filter fun row => row.agentId = agentId⟩

theorem mem_candidates {candidate : Candidate} :
    candidate ∈ candidates view time machine agentId ↔
      ∃ publisher, OnMachine view machine publisher ∧
        candidate = candidateOf agentId time publisher := by
  unfold candidates
  rw [List.mem_map]
  constructor
  · rintro ⟨⟨⟨owner, inst⟩, publisher⟩, listed, rfl⟩
    obtain ⟨entry, same⟩ := List.mem_filter.mp listed
    have same : owner = machine := by simpa using same
    subst same
    exact ⟨publisher, ⟨inst, (Dict.get?_eq_some_iff _ _ _).mpr entry⟩, rfl⟩
  · rintro ⟨publisher, ⟨inst, held⟩, rfl⟩
    refine ⟨((machine, inst), publisher), List.mem_filter.mpr ⟨?_, by simp⟩, rfl⟩
    exact (Dict.get?_eq_some_iff _ _ _).mp held

theorem fresh_report {publisher : Publisher} (fresh : availabilityOf publisher time = .fresh) :
    reportAge publisher time = .fresh := by
  unfold availabilityOf at fresh
  repeat' split at fresh
  all_goals first
    | exact fresh
    | cases fresh

theorem mem_rows {publisher : Publisher} {row : Record} :
    row ∈ (candidateOf agentId time publisher).rows ↔
      row ∈ publisher.rows ∧ row.agentId = agentId := by
  simp [candidateOf]

theorem covers_iff {publisher : Publisher} :
    (candidateOf agentId time publisher).covers = true ↔
      availabilityOf publisher time = .fresh ∧ ∃ row ∈ publisher.rows, row.agentId = agentId := by
  rw [Candidate.covers, Bool.and_eq_true, decide_eq_true_eq, Bool.not_eq_true',
    List.isEmpty_eq_false_iff_exists_mem]
  simp only [mem_rows]
  rfl

/-- A candidate stays unless it is silent and a live peer lists the agent. -/
theorem mem_remaining {candidate : Candidate} :
    candidate ∈ remaining (candidates view time machine agentId) time ↔
      candidate ∈ candidates view time machine agentId ∧
        ¬((candidates view time machine agentId).any Candidate.covers = true ∧
          reportAge candidate.publisher time = .stale) := by
  rw [remaining, List.mem_filter, Bool.not_eq_true', ← Bool.not_eq_true, Bool.and_eq_true,
    decide_eq_true_eq]

/-- Known idle, in terms of the candidates that remain. -/
theorem kept_idle {kept : List Candidate} :
    busyOf ⟨kept.flatMap Candidate.holders, kept.any fun candidate =>
        candidate.availability ≠ .fresh && candidate.rows.isEmpty⟩ = (.known, some false) ↔
      (∃ candidate ∈ kept, ∃ row, row ∈ candidate.rows) ∧
        ∀ candidate ∈ kept, candidate.availability = .fresh ∧
          ∀ row ∈ candidate.rows, row.busy = false := by
  rw [busyOf_idle]
  dsimp only
  constructor
  · rintro ⟨some, seen, all⟩
    have held : ∀ candidate ∈ kept, ∀ row ∈ candidate.rows,
        candidate.availability = .fresh ∧ row.busy = false := by
      intro candidate listed row present
      have holds := all _ (List.mem_flatMap.mpr ⟨candidate, listed, List.mem_map_of_mem present⟩)
      simpa [Holder.isFresh] using holds
    refine ⟨?_, fun candidate listed => ⟨?_, fun row present => (held candidate listed row
      present).2⟩⟩
    · obtain ⟨holder, present⟩ := List.exists_mem_of_ne_nil _ some
      obtain ⟨candidate, listed, made⟩ := List.mem_flatMap.mp present
      obtain ⟨row, present, _⟩ := List.mem_map.mp made
      exact ⟨candidate, listed, row, present⟩
    · by_contra absent
      have seen := List.any_eq_false.mp seen candidate listed
      cases rows : candidate.rows with
      | nil => simp [absent, rows] at seen
      | cons row rest =>
          exact absent (held candidate listed row (rows ▸ List.mem_cons_self)).1
  · rintro ⟨⟨candidate, listed, row, present⟩, all⟩
    refine ⟨?_, ?_, ?_⟩
    · intro none
      have made := List.flatMap_eq_nil_iff.mp none candidate listed
      rw [Candidate.holders, List.map_eq_nil_iff] at made
      rw [made] at present
      cases present
    · rw [List.any_eq_false]
      intro other listed
      simp [(all other listed).1]
    · intro holder present
      obtain ⟨other, listed, made⟩ := List.mem_flatMap.mp present
      obtain ⟨held, own, rfl⟩ := List.mem_map.mp made
      obtain ⟨fresh, idle⟩ := all other listed
      simp [Holder.isFresh, fresh, idle held own]

theorem holders_idle :
    busyOf (holdersOf ⟨some view, time, false⟩ machine agentId) = (.known, some false) ↔
      KnownIdle view machine agentId time := by
  have remains : ∀ publisher, OnMachine view machine publisher →
      (candidateOf agentId time publisher ∈ remaining (candidates view time machine agentId) time ↔
        ¬((candidates view time machine agentId).any Candidate.covers = true ∧
          reportAge publisher time = .stale)) := by
    intro publisher there
    rw [mem_remaining]
    exact and_iff_right (mem_candidates.2 ⟨publisher, there, rfl⟩)
  have stays : ∀ publisher, OnMachine view machine publisher →
      availabilityOf publisher time = .fresh →
      candidateOf agentId time publisher ∈
        remaining (candidates view time machine agentId) time := by
    intro publisher there fresh
    rw [remains publisher there, fresh_report fresh]
    rintro ⟨_, stale⟩
    cases stale
  dsimp only [holdersOf]
  rw [kept_idle]
  constructor
  · rintro ⟨⟨candidate, listed, row, present⟩, all⟩
    refine ⟨?_, ?_, ?_⟩
    · obtain ⟨publisher, there, rfl⟩ := mem_candidates.1 (mem_remaining.1 listed).1
      exact ⟨publisher, there, (all _ listed).1, row, mem_rows.1 present⟩
    · intro publisher there fresh row listed same
      exact (all _ (stays publisher there fresh)).2 row (mem_rows.2 ⟨listed, same⟩)
    · intro publisher there absent
      by_contra heard
      exact absent (all _ ((remains publisher there).mpr fun yields => heard yields.2)).1
  · intro idle
    obtain ⟨publisher, there, fresh, row, listed, same⟩ := idle.listed
    refine ⟨⟨_, stays publisher there fresh, row, mem_rows.2 ⟨listed, same⟩⟩, ?_⟩
    have covered : (candidates view time machine agentId).any Candidate.covers = true :=
      List.any_eq_true.mpr ⟨_, mem_candidates.2 ⟨publisher, there, rfl⟩,
        covers_iff.2 ⟨fresh, row, listed, same⟩⟩
    intro candidate kept
    obtain ⟨other, present, rfl⟩ := mem_candidates.1 (mem_remaining.1 kept).1
    have live : availabilityOf other time = .fresh := by
      by_contra absent
      exact (remains other present).mp kept ⟨covered, idle.silent other present absent⟩
    refine ⟨live, fun row listed => ?_⟩
    obtain ⟨held, own⟩ := mem_rows.1 listed
    exact idle.idle other present live row held own

theorem claimAt_proceed {messaging : Messaging} {steerableRun : Bool} :
    claimAt view machine agentId time messaging steerableRun = .proceed ↔
      KnownIdle view machine agentId time :=
  claimDecision_proceed.trans holders_idle

/-! ### A publisher that is marked invalid -/

/-- An invalidated publisher is lost and has no report, so on the agent's machine it neither
is live nor yields; on another machine nothing changes. -/
theorem knownIdle_of_invalidate {key : Key}
    (idle : KnownIdle (invalidate view key) machine agentId time) :
    KnownIdle view machine agentId time := by
  obtain ⟨owner, inst⟩ := key
  by_cases here : owner = machine
  · subst here
    obtain ⟨publisher, held, loss, report⟩ : ∃ publisher,
        (invalidate view (owner, inst)).get? (owner, inst) = some publisher ∧
          publisher.loss = true ∧ publisher.report = none :=
      ⟨_, Dict.get?_set_self .., rfl, rfl⟩
    have absent : availabilityOf publisher time ≠ .fresh := by
      rw [availabilityOf, if_pos loss]
      decide
    have stale := idle.silent publisher ⟨inst, held⟩ absent
    rw [reportAge, report] at stale
    cases stale
  · have same : ∀ publisher, OnMachine (invalidate view (owner, inst)) machine publisher ↔
        OnMachine view machine publisher := by
      intro publisher
      have kept : ∀ other, (invalidate view (owner, inst)).get? (machine, other) =
          view.get? (machine, other) :=
        fun other => Dict.get?_set_ne _ _ fun hit => here (congrArg Prod.fst hit)
      unfold OnMachine
      simp only [kept]
    obtain ⟨⟨publisher, there, listed⟩, quiet, silent⟩ := idle
    exact ⟨⟨publisher, (same publisher).mp there, listed⟩,
      fun other there => quiet other ((same other).mpr there),
      fun other there => silent other ((same other).mpr there)⟩

end Gate

/-- Where the gate proceeds, a fresh publisher lists the agent, every fresh one that lists it
says it is not busy, and every other publisher of the machine has a stale report. An
invalidated publisher turns no answer into that one. -/
theorem claim_gate_safe (view : AgentState.View) (machine agentId : String) (time : Stamp)
    (messaging : Messaging) (steerableRun : Bool) :
    (claimAt view machine agentId time messaging steerableRun = .proceed →
      (∃ publisher, OnMachine view machine publisher ∧ availabilityOf publisher time = .fresh ∧
        ∃ row ∈ publisher.rows, row.agentId = agentId) ∧
      (∀ publisher, OnMachine view machine publisher → availabilityOf publisher time = .fresh →
        ∀ row ∈ publisher.rows, row.agentId = agentId → row.busy = false) ∧
      ∀ publisher, OnMachine view machine publisher → availabilityOf publisher time ≠ .fresh →
        reportAge publisher time = .stale) ∧
    ∀ (key : Key) (again : Bool),
      claimAt view machine agentId time messaging steerableRun = .hold ∨
        claimAt view machine agentId time messaging steerableRun = .withhold →
      claimAt (invalidate view key) machine agentId time messaging again ≠ .proceed := by
  constructor
  · intro proceeds
    have idle := claimAt_proceed.1 proceeds
    exact ⟨idle.listed, idle.idle, idle.silent⟩
  · intro key again held proceeds
    have idle := knownIdle_of_invalidate (claimAt_proceed.1 proceeds)
    have before : claimAt view machine agentId time messaging steerableRun = .proceed :=
      claimAt_proceed.2 idle
    rw [before] at held
    rcases held with held | held <;> cases held

/-- No fact of comms' own. -/
def noMessaging : Messaging := ⟨false, false, false, false, "", none⟩

/-- Second 100, in microseconds. -/
def second100 : Stamp := some 100000000

/-- A complete publisher that announced a report every ten seconds. -/
def reporting (received : Int) (restored : Bool) (rows : List Record) : Publisher :=
  { noPublisher with
    complete := !restored
    restored := restored
    rows := rows
    report := some (some received, some 10000) }

/-- A live publisher that lists the agent, and one that was restored at start and has been
silent since. -/
def restoredPeer (busy : Bool) : AgentState.View :=
  (Dict.empty.set ("host", "live") (reporting 90000000 false [⟨"a", none, .idle, busy⟩])).set
    ("host", "old") (reporting 10000000 true [⟨"a", none, .working, true⟩])

theorem claim_gate_safe_restored :
    claimAt (restoredPeer false) "host" "a" second100 noMessaging false = .proceed ∧
      claimAt (restoredPeer true) "host" "a" second100 noMessaging false = .hold ∧
      (∀ publisher, OnMachine (restoredPeer false) "host" publisher →
        availabilityOf publisher second100 ≠ .fresh → reportAge publisher second100 = .stale) ∧
      claimAt (invalidate (restoredPeer true) ("host", "live")) "host" "a" second100 noMessaging
        false ≠ .proceed :=
  ⟨by decide, by decide,
    ((claim_gate_safe (restoredPeer false) "host" "a" second100 noMessaging false).1
      (by decide)).2.2,
    (claim_gate_safe (restoredPeer true) "host" "a" second100 noMessaging false).2 ("host", "live")
      false (.inl (by decide))⟩

/-- The gate proceeds beside a publisher that is not fresh and not merely stale. -/
theorem restored_publisher_yields :
    claimAt (restoredPeer false) "host" "a" second100 noMessaging false = .proceed ∧
      ∃ publisher, OnMachine (restoredPeer false) "host" publisher ∧
        availabilityOf publisher second100 = .restored := by
  refine ⟨by decide, reporting 10000000 true [⟨"a", none, .working, true⟩], ⟨"old", ?_⟩, ?_⟩
  · exact Dict.get?_set_self ..
  · decide

end AifyComms.OperationalView
