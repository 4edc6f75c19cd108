import AifyComms.GatewayTurns
import Mathlib.Order.Interval.Finset.Nat

/-!
How a managed hermes turn window ends: the probe of `hermes-inflight.mjs` with the
decisions of `hermes-turn-repulse.js`, the detector's callbacks of
`hermes-turn-detector-callbacks.mjs`, and the deliveries that open windows, all writing the
one `inFlight` record of `runDeliveryLoop`.

A step is what runs between two awaits. The timer of the probe does not wait for it, so
probes overlap; a delivery writes the record in its last step. `opened`, `worked`, `reads`,
`since`, `counted` and `blurred` are history that no step reads, and `ended` is what the
last step did to the window.
-/

namespace AifyComms.TurnWindows
open JsText HermesDelivery Runs

/-! ### Decisions -/

/-- A run as the service has it. -/
structure Report where
  status : String
  requireReply : Bool
  deriving DecidableEq

def fetchRunStatus (runId : String) (answer : Option Report) : Report :=
  if trim runId = "" then ⟨"", false⟩
  else match answer with
    | some report => ⟨trim report.status, report.requireReply⟩
    | none => ⟨"", false⟩

def terminalRunStatuses : List String := ["completed", "failed", "cancelled", "stopped"]

def isTerminalRunStatus (status : String) : Bool :=
  decide (PyText.lower (trim status) ∈ terminalRunStatuses)

/-- A finished status: terminal, or delivered with no reply owed. -/
def shouldLatchComplete (report : Report) : Bool :=
  isTerminalRunStatus report.status ||
    (decide (PyText.lower (trim report.status) = "delivered") && !report.requireReply)

def shouldManagedHostRepulse (window : InFlight) (now maxWindowMs : Nat) : Bool :=
  decide (window.submittedAt ≠ 0 ∧ window.completed = false ∧ window.submittedAt ≤ now ∧
    now - window.submittedAt < maxWindowMs)

def shouldApplyGatewayTurnEnd (window : InFlight) : Bool :=
  !window.dispatchTurnOpen || window.observedWorking

/-! ### The host -/

inductive Reading where
  | working
  | idle
  deriving DecidableEq

/-- The run that a status was asked for, and how many windows had been opened by then. -/
structure Asked where
  runId : String
  opened : Nat
  deriving DecidableEq

/-- What a probe found before it fails a run whose turn never started. -/
structure Unstarted where
  asked : Asked
  waited : Nat
  report : Report
  gwStatus : String
  worked : Bool
  deriving DecidableEq

/-- What a probe waits for: the gateway's status, the run's status in the start-timeout
check, the gateway's status again, the report that the run failed, and the run's status in
the backstop. `index` is the place of the idle reading among `reads`. -/
inductive Phase where
  | gateway
  | starting (asked : Asked) (submittedAt waited : Nat) (gwStatus : String) (index : Nat)
  | confirming (asked : Asked) (submittedAt waited : Nat) (report : Report)
  | failing (found : Unstarted)
  | finishing (asked : Asked)
  deriving DecidableEq

/-- Which of its three ways the probe ended a window. -/
inductive Ending where
  | idled
  | unstarted (found : Unstarted)
  | finished (asked : Asked) (report : Report)
  deriving DecidableEq

structure Settings where
  delivery : HermesDelivery.Settings
  maxWindowMs : Nat
  startTimeoutMs : Nat
  idleDebounce : Nat

structure Host where
  window : InFlight
  emptyAttach : String → Nat
  probes : Nat → Option Phase
  next : Nat
  opened : Nat
  worked : Bool
  reads : List Reading
  since : Nat
  counted : List Nat
  blurred : Bool
  ended : Option (InFlight × Ending)

def initial : Host :=
  ⟨⟨0, false, "", false, false, 0⟩, fun _ => 0, fun _ => none, 0, 0, false, [], 0, [], false, none⟩

inductive Label where
  | deliver (run : Run) (calls : Calls) (now : Nat)
  | turnStart
  | turnEnd
  | probe (now : Nat)
  | gateway (probe : Nat) (status : Option String) (now : Nat)
  | runStatus (probe : Nat) (answer : Option Report)
  | failed (probe : Nat) (reported : Bool)

def Host.wait (host : Host) (probe : Nat) (phase : Phase) : Host :=
  { host with probes := Function.update host.probes probe (some phase) }

def Host.resume (host : Host) (probe : Nat) : Host :=
  { host with probes := Function.update host.probes probe none, ended := none }

/-- The idle reading of a start-timeout check that waits for its run's status. -/
def Phase.index : Phase → Option Nat
  | .starting _ _ _ _ index => some index
  | _ => none

def Host.index (host : Host) (probe : Nat) : Option Nat := (host.probes probe).bind Phase.index

/-- Whether a start-timeout check waits for its run's status. -/
def Host.checking (host : Host) : Bool :=
  (List.range host.next).any fun probe => (host.index probe).isSome

/-- The probe reads the gateway working: the streak starts over. -/
def Host.readWorking (host : Host) : Host :=
  { host with
    window := { host.window with observedWorking := true, idleStreak := 0 }
    worked := true
    reads := host.reads ++ [.working]
    since := host.reads.length + 1
    counted := []
    blurred := host.checking }

/-- The start-timeout check reads it working: the streak stays. -/
def Host.confirmWorking (host : Host) : Host :=
  { host with
    window := { host.window with observedWorking := true }
    worked := true
    reads := host.reads ++ [.working]
    since := host.reads.length + 1
    blurred := true }

def Host.readIdle (host : Host) : Host := { host with reads := host.reads ++ [.idle] }

/-- The backstop asks for the status of the run. -/
def Host.ask (host : Host) (probe : Nat) : Host :=
  host.wait probe (.finishing ⟨host.window.runId, host.opened⟩)

/-- An idle reading counts once working was observed, and the last of them ends the turn. -/
def Host.count (settings : Settings) (host : Host) (probe : Nat) (gwStatus : String)
    (index : Nat) : Host :=
  if host.window.observedWorking && isGatewaySessionIdle gwStatus then
    if GatewayTurns.threshold settings.idleDebounce ≤ host.window.idleStreak + 1 then
      { host with
        window := { host.window with
          completed := true
          runId := ""
          observedWorking := false
          dispatchTurnOpen := false
          idleStreak := 0 }
        counted := []
        ended := some (host.window, .idled) }
    else
      { host with
        window := { host.window with idleStreak := host.window.idleStreak + 1 }
        counted := index :: host.counted }
  else host.ask probe

/-- The probe has the gateway's status. -/
def Host.read (settings : Settings) (host : Host) (probe : Nat) (gwStatus : String)
    (now : Nat) : Host :=
  if isGatewaySessionWorking gwStatus then host.readWorking.ask probe
  else if isGatewaySessionIdle gwStatus then
    if host.window.observedWorking = false ∧
        host.window.submittedAt + settings.startTimeoutMs ≤ now then
      host.readIdle.wait probe (.starting ⟨host.window.runId, host.opened⟩ host.window.submittedAt
        (now - host.window.submittedAt) gwStatus host.reads.length)
    else host.readIdle.count settings probe gwStatus host.reads.length
  else host.ask probe

/-- The start-timeout check has the gateway's status again. -/
def Host.confirm (host : Host) (probe : Nat) (asked : Asked) (submittedAt waited : Nat)
    (report : Report) (gwStatus : String) : Host :=
  if isGatewaySessionWorking gwStatus then host.confirmWorking
  else if isGatewaySessionIdle gwStatus then
    if host.window.runId ≠ asked.runId ∨ host.window.submittedAt ≠ submittedAt ∨
        host.window.observedWorking = true then host.readIdle
    else
      host.readIdle.wait probe
        (.failing ⟨⟨asked.runId, host.opened⟩, waited, report, gwStatus, host.worked⟩)
  else host

def isAttached : Attach → Bool
  | .session => true
  | _ => false

def isAccepted : Submit → Bool
  | .accepted => true
  | _ => false

/-- A delivery that opens a window. -/
def opens (run : Run) (calls : Calls) : Bool :=
  isAttached calls.attach && !steers run calls && isAccepted calls.submit && calls.delivered.isNone

def Host.deliver (settings : Settings) (host : Host) (run : Run) (calls : Calls) (now : Nat) :
    Host :=
  let outcome := deliverRun settings.delivery run calls now host.window host.emptyAttach
  { host with
    window := outcome.window
    emptyAttach := outcome.emptyAttach
    opened := if opens run calls then host.opened + 1 else host.opened
    worked := if opens run calls then false else host.worked
    ended := none }

def step (settings : Settings) (host : Host) : Label → Option Host
  | .deliver run calls now => some (host.deliver settings run calls now)
  | .turnStart =>
      if host.window.dispatchTurnOpen then
        some { host with
          window := { host.window with observedWorking := true }
          worked := true
          ended := none }
      else none
  | .turnEnd =>
      if shouldApplyGatewayTurnEnd host.window then
        some { host with
          window := { host.window with dispatchTurnOpen := false, completed := true }
          ended := none }
      else some { host with ended := none }
  | .probe now =>
      if shouldManagedHostRepulse host.window now settings.maxWindowMs then
        some { host.wait host.next .gateway with next := host.next + 1, ended := none }
      else some { host with ended := none }
  | .gateway probe status now =>
      match host.probes probe with
      -- A read that throws counts as a status that is neither working nor idle.
      | some .gateway => some ((host.resume probe).read settings probe (status.getD "") now)
      | some (.confirming asked submittedAt waited report) =>
          match status with
          | some gwStatus =>
              some ((host.resume probe).confirm probe asked submittedAt waited report gwStatus)
          | none => some (host.resume probe)
      | _ => none
  | .runStatus probe answer =>
      match host.probes probe with
      | some (.starting asked submittedAt waited gwStatus index) =>
          let report := fetchRunStatus asked.runId answer
          if report.status = "delivered" ∧ report.requireReply = true then
            some ((host.resume probe).wait probe (.confirming asked submittedAt waited report))
          else some ((host.resume probe).count settings probe gwStatus index)
      | some (.finishing asked) =>
          let report := fetchRunStatus asked.runId answer
          if shouldLatchComplete report then
            some { host.resume probe with
              window := { host.window with completed := true, runId := "" }
              ended := some (host.window, .finished asked report) }
          else some (host.resume probe)
      | _ => none
  | .failed probe reported =>
      match host.probes probe with
      | some (.failing found) =>
          if reported then
            some { host.resume probe with
              window := { host.window with
                completed := true
                runId := ""
                dispatchTurnOpen := false
                idleStreak := 0 }
              counted := []
              ended := some (host.window, .unstarted found) }
          else some (host.resume probe)
      | _ => none

/-! ### Evidence -/

/-- The window is of the run that was asked about, or ended already, unless a delivery has
opened one since. -/
def Asked.Own (asked : Asked) (opened : Nat) (runId : String) : Prop :=
  asked.opened = opened → runId = asked.runId ∨ runId = ""

/-- The run was delivered, owes a reply, and no turn of it started in time. -/
structure Found (settings : Settings) (found : Unstarted) : Prop where
  answered : ∃ answer, found.report = fetchRunStatus found.asked.runId answer
  delivered : found.report.status = "delivered" ∧ found.report.requireReply = true
  waited : settings.startTimeoutMs ≤ found.waited
  idle : isGatewaySessionIdle found.gwStatus = true
  unworked : found.worked = false

/-- What each way of ending a window rests on. -/
def Evidence (settings : Settings) (host : Host) (window : InFlight) : Ending → Prop
  | .finished asked report =>
      (∃ answer, report = fetchRunStatus asked.runId answer) ∧ shouldLatchComplete report = true ∧
        asked.Own host.opened window.runId
  | .idled =>
      host.worked = true ∧ (host.blurred = false →
        List.replicate (GatewayTurns.threshold settings.idleDebounce) .idle <:+ host.reads)
  | .unstarted found => Found settings found ∧ found.asked.Own host.opened window.runId

def Told (settings : Settings) (host : Host) : Prop :=
  ∀ window ending, host.ended = some (window, ending) → Evidence settings host window ending

/-! ### The idle streak -/

/-- `counted` are the readings that the streak stands for. Unless blurred, they and those
that a check holds back are all later than the last working one. -/
structure Streak (host : Host) : Prop where
  numbered : ∀ probe phase, host.probes probe = some phase → probe < host.next
  length : host.window.idleStreak = host.counted.length
  nodup : host.counted.Nodup
  listed : ∀ index ∈ host.counted, index < host.reads.length
  checks : ∀ probe index, host.index probe = some index →
    index < host.reads.length ∧ index ∉ host.counted
  apart : ∀ probe other index, host.index probe = some index → host.index other = some index →
    probe = other
  bound : host.since ≤ host.reads.length
  idle : ∀ index, host.since ≤ index → index < host.reads.length →
    host.reads[index]? = some .idle
  clear : host.blurred = false → (∀ index ∈ host.counted, host.since ≤ index) ∧
    ∀ probe index, host.index probe = some index → host.since ≤ index

variable {settings : Settings} {host after : Host} {probe : Nat}

/-- A step that reads nothing of the gateway. -/
theorem Streak.next (streak : Streak host)
    (probes : ∀ probe phase, after.probes probe = some phase →
      probe < after.next ∧ (phase.index = none ∨ host.probes probe = some phase))
    (same : after.window.idleStreak = after.counted.length ∧
      (after.counted = host.counted ∨ after.counted = []))
    (reads : after.reads = host.reads ∧ after.since = host.since ∧ after.blurred = host.blurred) :
    Streak after := by
  have held : ∀ probe index, after.index probe = some index → host.index probe = some index := by
    intro probe index here
    obtain ⟨phase, waits, isIndex⟩ := Option.bind_eq_some_iff.mp here
    rcases (probes probe phase waits).2 with none | before
    · rw [none] at isIndex
      cases isIndex
    · exact Option.bind_eq_some_iff.mpr ⟨phase, before, isIndex⟩
  have fewer : ∀ index ∈ after.counted, index ∈ host.counted := by
    intro index listed
    rcases same.2 with same | none
    · rwa [same] at listed
    · rw [none] at listed
      cases listed
  obtain ⟨sameReads, sameSince, sameBlurred⟩ := reads
  refine ⟨fun probe phase waits => (probes probe phase waits).1, same.1, ?_, ?_, ?_, ?_, ?_, ?_, ?_⟩
  · rcases same.2 with same | none
    · rw [same]
      exact streak.nodup
    · rw [none]
      exact List.nodup_nil
  · intro index listed
    rw [sameReads]
    exact streak.listed index (fewer index listed)
  · intro probe index here
    rw [sameReads]
    have check := streak.checks probe index (held probe index here)
    exact ⟨check.1, fun listed => check.2 (fewer index listed)⟩
  · exact fun probe other index here there =>
      streak.apart probe other index (held _ _ here) (held _ _ there)
  · rw [sameReads, sameSince]
    exact streak.bound
  · rw [sameReads, sameSince]
    exact streak.idle
  · rw [sameSince, sameBlurred]
    intro clear
    have before := streak.clear clear
    exact ⟨fun index listed => before.1 index (fewer index listed),
      fun probe index here => before.2 probe index (held probe index here)⟩

theorem Streak.resume (streak : Streak host) (probe : Nat) : Streak (host.resume probe) := by
  refine streak.next ?_ ⟨streak.length, .inl rfl⟩ ⟨rfl, rfl, rfl⟩
  intro other phase here
  rcases update_some here with ⟨_, now⟩ | before
  · cases now
  · exact ⟨streak.numbered other phase before, .inr before⟩

theorem Streak.wait (streak : Streak host) (below : probe < host.next) {phase : Phase}
    (unindexed : phase.index = none) : Streak (host.wait probe phase) := by
  refine streak.next ?_ ⟨streak.length, .inl rfl⟩ ⟨rfl, rfl, rfl⟩
  intro other held here
  rcases update_some here with ⟨rfl, now⟩ | before
  · obtain rfl := Option.some.inj now
    exact ⟨below, .inl unindexed⟩
  · exact ⟨streak.numbered other held before, .inr before⟩

theorem index_resume (host : Host) (probe : Nat) : (host.resume probe).index probe = none := by
  unfold Host.index Host.resume
  dsimp only
  rw [Function.update_self]
  rfl

/-- No check is under way. -/
theorem index_of_checking (streak : Streak host) (none : host.checking = false) (probe : Nat) :
    host.index probe = Option.none := by
  unfold Host.checking at none
  rw [List.any_eq_false] at none
  cases here : host.index probe with
  | none => rfl
  | some index =>
      obtain ⟨phase, waits, _⟩ := Option.bind_eq_some_iff.mp here
      have absent := none probe (List.mem_range.mpr (streak.numbered probe phase waits))
      rw [here] at absent
      exact absurd rfl absent

theorem Streak.readWorking (streak : Streak host) : Streak host.readWorking := by
  have longer : host.readWorking.reads.length = host.reads.length + 1 := List.length_append
  refine ⟨streak.numbered, rfl, List.nodup_nil, ?_, ?_, streak.apart, longer.ge, ?_, ?_⟩
  · exact fun _ listed => absurd listed List.not_mem_nil
  · intro probe index here
    rw [longer]
    exact ⟨Nat.lt_succ_of_lt (streak.checks probe index here).1, List.not_mem_nil⟩
  · intro index later below
    rw [longer] at below
    exact absurd below (Nat.not_lt_of_le later)
  · intro clear
    refine ⟨fun _ listed => absurd listed List.not_mem_nil, fun probe index here => ?_⟩
    rw [show host.readWorking.index probe = host.index probe from rfl,
      index_of_checking streak clear] at here
    cases here

theorem Streak.confirmWorking (streak : Streak host) : Streak host.confirmWorking := by
  have longer : host.confirmWorking.reads.length = host.reads.length + 1 := List.length_append
  refine ⟨streak.numbered, streak.length, streak.nodup, ?_, ?_, streak.apart, longer.ge, ?_, ?_⟩
  · intro index listed
    rw [longer]
    exact Nat.lt_succ_of_lt (streak.listed index listed)
  · intro probe index here
    rw [longer]
    exact (streak.checks probe index here).imp_left Nat.lt_succ_of_lt
  · intro index later below
    rw [longer] at below
    exact absurd below (Nat.not_lt_of_le later)
  · exact fun clear => by cases clear

theorem Streak.readIdle (streak : Streak host) : Streak host.readIdle := by
  have longer : host.readIdle.reads.length = host.reads.length + 1 := List.length_append
  refine ⟨streak.numbered, streak.length, streak.nodup, ?_, ?_, streak.apart, ?_, ?_, streak.clear⟩
  · intro index listed
    rw [longer]
    exact Nat.lt_succ_of_lt (streak.listed index listed)
  · intro probe index here
    rw [longer]
    exact (streak.checks probe index here).imp_left Nat.lt_succ_of_lt
  · exact streak.bound.trans (longer ▸ Nat.le_succ _)
  · intro index later below
    rw [longer] at below
    rcases Nat.lt_succ_iff_lt_or_eq.mp below with older | rfl
    · exact (List.getElem?_append_left older).trans (streak.idle index later older)
    · exact List.getElem?_concat_length

/-- A reading that neither the streak nor a check has. -/
structure Fresh (host : Host) (index : Nat) : Prop where
  below : index < host.reads.length
  uncounted : index ∉ host.counted
  unheld : ∀ probe, host.index probe ≠ some index
  later : host.blurred = false → host.since ≤ index

theorem fresh_readIdle (streak : Streak host) : Fresh host.readIdle host.reads.length := by
  refine ⟨?_, ?_, ?_, fun _ => streak.bound⟩
  · rw [show host.readIdle.reads.length = host.reads.length + 1 from List.length_append]
    exact Nat.lt_succ_self _
  · exact fun listed => Nat.lt_irrefl _ (streak.listed _ listed)
  · exact fun probe here => Nat.lt_irrefl _ (streak.checks probe _ here).1

/-- The readings that the streak counts are the last ones, all idle. -/
theorem replicate_suffix_reads (streak : Streak host) {index : Nat} (fresh : Fresh host index)
    (clear : host.blurred = false) {length : Nat} (enough : length ≤ host.window.idleStreak + 1) :
    List.replicate length .idle <:+ host.reads := by
  have within : ∀ counted ∈ index :: host.counted, counted ∈ Finset.Ico host.since host.reads.length := by
    intro counted listed
    rw [Finset.mem_Ico]
    rcases List.mem_cons.mp listed with rfl | listed
    · exact ⟨fresh.later clear, fresh.below⟩
    · exact ⟨(streak.clear clear).1 counted listed, streak.listed counted listed⟩
  have nodup : (index :: host.counted).Nodup := List.nodup_cons.mpr ⟨fresh.uncounted, streak.nodup⟩
  have many : host.counted.length + 1 ≤ host.reads.length - host.since := by
    have card := Finset.card_le_card fun counted listed =>
      within counted (List.mem_toFinset.mp listed)
    rwa [List.toFinset_card_of_nodup nodup, Nat.card_Ico, List.length_cons] at card
  have tail : host.reads.drop host.since =
      List.replicate (host.reads.length - host.since) .idle := by
    refine List.eq_replicate_iff.mpr ⟨List.length_drop, fun reading listed => ?_⟩
    obtain ⟨place, below, rfl⟩ := List.mem_iff_getElem.mp listed
    rw [List.length_drop] at below
    rw [List.getElem_drop]
    have idle := streak.idle (host.since + place) (Nat.le_add_right _ _) (by omega)
    rw [List.getElem?_eq_getElem (by omega)] at idle
    exact Option.some.inj idle
  rw [streak.length] at enough
  have short : List.replicate length Reading.idle <:+
      List.replicate (host.reads.length - host.since) .idle :=
    List.suffix_replicate_iff.mpr ⟨by simp; omega, by simp⟩
  exact short.trans (tail ▸ List.drop_suffix _ _)

theorem Streak.starting (streak : Streak host) (below : probe < host.next) {index : Nat}
    (fresh : Fresh host index) (asked : Asked) (submittedAt waited : Nat) (gwStatus : String) :
    Streak (host.wait probe (.starting asked submittedAt waited gwStatus index)) := by
  have held : ∀ other place, (host.wait probe
      (.starting asked submittedAt waited gwStatus index)).index other = some place →
      (other = probe ∧ place = index) ∨ host.index other = some place := by
    intro other place here
    obtain ⟨phase, waits, isIndex⟩ := Option.bind_eq_some_iff.mp here
    rcases update_some waits with ⟨same, now⟩ | before
    · obtain rfl := Option.some.inj now
      exact .inl ⟨same, (Option.some.inj isIndex).symm⟩
    · exact .inr (Option.bind_eq_some_iff.mpr ⟨phase, before, isIndex⟩)
  refine ⟨?_, streak.length, streak.nodup, streak.listed, ?_, ?_, streak.bound, streak.idle, ?_⟩
  · intro other phase here
    rcases update_some here with ⟨rfl, _⟩ | before
    · exact below
    · exact streak.numbered other phase before
  · intro other place here
    rcases held other place here with ⟨_, rfl⟩ | before
    · exact ⟨fresh.below, fresh.uncounted⟩
    · exact streak.checks other place before
  · intro one other place here there
    rcases held one place here with ⟨rfl, rfl⟩ | before
    · rcases held other place there with ⟨rfl, _⟩ | before
      · rfl
      · exact absurd before (fresh.unheld other)
    · rcases held other place there with ⟨_, rfl⟩ | later
      · exact absurd before (fresh.unheld one)
      · exact streak.apart one other place before later
  · intro clear
    refine ⟨(streak.clear clear).1, fun other place here => ?_⟩
    rcases held other place here with ⟨_, rfl⟩ | before
    · exact fresh.later clear
    · exact (streak.clear clear).2 other place before

theorem Streak.count (streak : Streak host) (below : probe < host.next) {index : Nat}
    (fresh : Fresh host index) (gwStatus : String) :
    Streak (host.count settings probe gwStatus index) := by
  have kept : ∀ other phase, host.probes other = some phase →
      other < host.next ∧ (phase.index = none ∨ host.probes other = some phase) :=
    fun other phase here => ⟨streak.numbered other phase here, .inr here⟩
  unfold Host.count
  split
  · split
    · exact streak.next kept ⟨rfl, .inr rfl⟩ ⟨rfl, rfl, rfl⟩
    · refine ⟨streak.numbered, ?_, ?_, ?_, ?_, streak.apart, streak.bound, streak.idle, ?_⟩
      · exact congrArg (· + 1) streak.length
      · exact List.nodup_cons.mpr ⟨fresh.uncounted, streak.nodup⟩
      · intro counted listed
        rcases List.mem_cons.mp listed with rfl | listed
        · exact fresh.below
        · exact streak.listed counted listed
      · intro other place here
        have check := streak.checks other place here
        refine ⟨check.1, fun listed => ?_⟩
        rcases List.mem_cons.mp listed with rfl | listed
        · exact fresh.unheld other here
        · exact check.2 listed
      · intro clear
        refine ⟨fun counted listed => ?_, (streak.clear clear).2⟩
        rcases List.mem_cons.mp listed with rfl | listed
        · exact fresh.later clear
        · exact (streak.clear clear).1 counted listed
  · exact streak.wait below rfl

/-- A check that comes back gives its reading to the streak. -/
theorem fresh_resume (streak : Streak host) {index : Nat} (held : host.index probe = some index) :
    Fresh (host.resume probe) index := by
  have check := streak.checks probe index held
  refine ⟨check.1, check.2, fun other here => ?_, fun clear => (streak.clear clear).2 probe index held⟩
  by_cases same : other = probe
  · rw [same, index_resume] at here
    cases here
  · have before : host.index other = some index := by
      unfold Host.index Host.resume at here
      dsimp only at here
      rwa [Function.update_of_ne same] at here
    exact same (streak.apart other probe index before held)

/-! ### The window and what was asked -/

/-- The run that a probe asked about and will end the window for. -/
def Phase.asks : Phase → Option Asked
  | .failing found => some found.asked
  | .finishing asked => some asked
  | _ => none

/-- What a probe knows while it waits. -/
def Phase.Knows (settings : Settings) : Phase → Prop
  | .starting _ _ waited _ _ => settings.startTimeoutMs ≤ waited
  | .confirming asked _ waited report =>
      (∃ answer, report = fetchRunStatus asked.runId answer) ∧
        (report.status = "delivered" ∧ report.requireReply = true) ∧
        settings.startTimeoutMs ≤ waited
  | .failing found => Found settings found
  | _ => True

structure Windowed (settings : Settings) (host : Host) : Prop where
  seen : host.window.observedWorking = true → host.worked = true
  kept : host.window.runId ≠ "" → host.worked = true → host.window.observedWorking = true
  knows : ∀ probe phase, host.probes probe = some phase → phase.Knows settings
  asks : ∀ probe phase asked, host.probes probe = some phase → phase.asks = some asked →
    asked.opened ≤ host.opened ∧ asked.Own host.opened host.window.runId

/-- The window was opened anew, or it is the same one or none. -/
def Succeeds (host after : Host) : Prop :=
  host.opened < after.opened ∨
    (after.opened = host.opened ∧
      (after.window.runId = host.window.runId ∨ after.window.runId = ""))

theorem own_next {asked : Asked} (next : Succeeds host after)
    (own : asked.opened ≤ host.opened ∧ asked.Own host.opened host.window.runId) :
    asked.opened ≤ after.opened ∧ asked.Own after.opened after.window.runId := by
  rcases next with newer | ⟨same, sameRun | none⟩
  · exact ⟨own.1.trans newer.le, fun current => absurd current (own.1.trans_lt newer).ne⟩
  · rw [same, sameRun]
    exact own
  · exact ⟨same ▸ own.1, fun _ => .inr none⟩

theorem Windowed.next (windowed : Windowed settings host) (next : Succeeds host after)
    (probes : ∀ probe phase, after.probes probe = some phase → host.probes probe = some phase)
    (seen : after.window.observedWorking = true → after.worked = true)
    (kept : after.window.runId ≠ "" → after.worked = true → after.window.observedWorking = true) :
    Windowed settings after :=
  ⟨seen, kept, fun probe phase here => windowed.knows probe phase (probes probe phase here),
    fun probe phase asked here asks =>
      own_next next (windowed.asks probe phase asked (probes probe phase here) asks)⟩

theorem Windowed.resume (windowed : Windowed settings host) (probe : Nat) :
    Windowed settings (host.resume probe) := by
  refine windowed.next (.inr ⟨rfl, .inl rfl⟩) ?_ windowed.seen windowed.kept
  intro other phase here
  rcases update_some here with ⟨_, now⟩ | before
  · cases now
  · exact before

theorem Windowed.wait (windowed : Windowed settings host) {phase : Phase}
    (knows : phase.Knows settings)
    (asks : ∀ asked, phase.asks = some asked →
      asked = ⟨host.window.runId, host.opened⟩) : Windowed settings (host.wait probe phase) := by
  refine ⟨windowed.seen, windowed.kept, ?_, ?_⟩
  · intro other held here
    rcases update_some here with ⟨_, now⟩ | before
    · exact Option.some.inj now ▸ knows
    · exact windowed.knows other held before
  · intro other held asked here asking
    rcases update_some here with ⟨_, now⟩ | before
    · rw [← Option.some.inj now] at asking
      rw [asks asked asking]
      exact ⟨le_refl _, fun _ => .inl rfl⟩
    · exact windowed.asks other held asked before asking

theorem Windowed.ask (windowed : Windowed settings host) : Windowed settings (host.ask probe) :=
  windowed.wait trivial fun _ asks => (Option.some.inj asks).symm

/-- A reading of working, by either read of the probe. -/
theorem Windowed.worked (windowed : Windowed settings host)
    (same : after.probes = host.probes ∧ after.opened = host.opened ∧
      after.window.runId = host.window.runId)
    (working : after.window.observedWorking = true ∧ after.worked = true) :
    Windowed settings after :=
  windowed.next (.inr ⟨same.2.1, .inl same.2.2⟩) (fun _ _ here => same.1 ▸ here)
    (fun _ => working.2) fun _ _ => working.1

/-- The window is ended, or only its streak is written. -/
theorem Windowed.quiet (windowed : Windowed settings host)
    (probes : ∀ probe phase, after.probes probe = some phase → host.probes probe = some phase)
    (same : after.opened = host.opened ∧ after.worked = host.worked)
    (written : after.window.runId = "" ∨ after.window.runId = host.window.runId ∧
      after.window.observedWorking = host.window.observedWorking)
    (seen : after.window.observedWorking = true → host.window.observedWorking = true) :
    Windowed settings after := by
  refine windowed.next (.inr ⟨same.1, ?_⟩) probes ?_ ?_
  · rcases written with none | kept
    · exact .inr none
    · exact .inl kept.1
  · exact fun observed => same.2 ▸ windowed.seen (seen observed)
  · intro open_ worked
    rcases written with none | ⟨sameRun, sameFlag⟩
    · exact absurd none open_
    · rw [sameRun] at open_
      rw [same.2] at worked
      rw [sameFlag]
      exact windowed.kept open_ worked

/-! ### One step -/

/-- Every fact of a reachable host. -/
structure Sound (settings : Settings) (host : Host) : Prop where
  streak : Streak host
  windowed : Windowed settings host
  told : Told settings host

theorem told_of_none (none : host.ended = none) : Told settings host := by
  intro window ending ended
  rw [none] at ended
  cases ended

theorem putBack_window (settings : HermesDelivery.Settings) (calls : Calls) (reason : String)
    (window then_ : InFlight) :
    (putBack settings calls reason window then_).2 = then_ ∨
      (putBack settings calls reason window then_).2 = window.closed := by
  unfold putBack
  cases calls.requeued with
  | none => exact .inl rfl
  | some error => exact .inr rfl

/-- A delivery opens a window, leaves the one there is, or closes it. -/
theorem deliver_window (settings : HermesDelivery.Settings) (run : Run) (calls : Calls) (now : Nat)
    (window : InFlight) (emptyAttach : String → Nat) :
    (opens run calls = true ∧
        (deliverRun settings run calls now window emptyAttach).window = window.opened run.id now) ∨
      (opens run calls = false ∧
        ((deliverRun settings run calls now window emptyAttach).window = window ∨
          (deliverRun settings run calls now window emptyAttach).window = window.closed)) := by
  unfold deliverRun opens
  cases calls.attach with
  | threw error => exact .inr ⟨rfl, .inr rfl⟩
  | none => exact .inr ⟨rfl, .inr rfl⟩
  | session =>
      dsimp only
      unfold hand
      cases steering : steers run calls with
      | true =>
          rw [if_pos rfl]
          refine .inr ⟨rfl, ?_⟩
          cases calls.steer with
          | queued =>
              unfold report
              cases calls.delivered with
              | none => exact .inl rfl
              | some error => exact .inr rfl
          | refused => exact putBack_window settings calls steerRefused window window
          | rejected queued => exact putBack_window settings calls steerRefused window window
      | false =>
          rw [if_neg Bool.false_ne_true]
          cases calls.submit with
          | accepted =>
              unfold report
              cases calls.delivered with
              | none => exact .inl ⟨rfl, rfl⟩
              | some error => exact .inr ⟨rfl, .inr rfl⟩
          | busy =>
              refine .inr ⟨rfl, ?_⟩
              exact (putBack_window settings calls becameBusy window window.closed).elim .inr .inr
          | rejected error accepted => exact .inr ⟨rfl, .inr rfl⟩

theorem sound_deliver (sound : Sound settings host) (run : Run) (calls : Calls) (now : Nat) :
    Sound settings (host.deliver settings run calls now) := by
  have kept : ∀ probe phase, host.probes probe = some phase →
      probe < host.next ∧ (phase.index = none ∨ host.probes probe = some phase) :=
    fun probe phase here => ⟨sound.streak.numbered probe phase here, .inr here⟩
  have opened := deliver_window settings.delivery run calls now host.window host.emptyAttach
  unfold Host.deliver
  generalize deliverRun settings.delivery run calls now host.window host.emptyAttach = outcome
    at opened ⊢
  refine ⟨sound.streak.next kept ⟨?_, .inl rfl⟩ ⟨rfl, rfl, rfl⟩, ?_, told_of_none rfl⟩
  · have same : outcome.window.idleStreak = host.window.idleStreak := by
      rcases opened with ⟨_, window⟩ | ⟨_, window | window⟩ <;> rw [window] <;> rfl
    exact same.trans sound.streak.length
  · rcases opened with ⟨opens, window⟩ | ⟨opens, window | window⟩
    · refine sound.windowed.next (.inl ?_) (fun _ _ here => here) ?_ ?_
      · dsimp only
        rw [if_pos opens]
        exact Nat.lt_succ_self _
      · dsimp only
        rw [window]
        exact fun no => by cases no
      · dsimp only
        rw [if_pos opens]
        exact fun _ no => by cases no
    · refine sound.windowed.quiet (fun _ _ here => here) ?_ ?_ ?_
      · dsimp only
        rw [opens]
        exact ⟨rfl, rfl⟩
      · exact .inr ⟨congrArg InFlight.runId window, congrArg InFlight.observedWorking window⟩
      · exact fun observed => window ▸ observed
    · refine sound.windowed.quiet (fun _ _ here => here) ?_ ?_ ?_
      · dsimp only
        rw [opens]
        exact ⟨rfl, rfl⟩
      · exact .inl (congrArg InFlight.runId window)
      · exact fun observed => (congrArg InFlight.observedWorking window).symm.trans observed

theorem sound_count (streak : Streak host) (windowed : Windowed settings host)
    (none : host.ended = none) (below : probe < host.next) {index : Nat}
    (fresh : Fresh host index) (gwStatus : String) :
    Sound settings (host.count settings probe gwStatus index) := by
  have counts : Streak (host.count settings probe gwStatus index) :=
    streak.count below fresh gwStatus
  refine ⟨counts, ?_, ?_⟩
  · unfold Host.count
    split
    · split
      · exact windowed.quiet (fun _ _ here => here) ⟨rfl, rfl⟩ (.inl rfl) fun no => by cases no
      · exact windowed.quiet (fun _ _ here => here) ⟨rfl, rfl⟩ (.inr ⟨rfl, rfl⟩) id
    · exact windowed.ask
  · unfold Host.count
    split
    case isTrue working =>
      split
      case isTrue enough =>
        intro window ending ended
        cases ended
        refine ⟨windowed.seen (Bool.and_eq_true_iff.mp working).1, fun clear => ?_⟩
        exact replicate_suffix_reads streak fresh clear enough
      case isFalse => exact told_of_none none
    case isFalse => exact told_of_none none

theorem sound_read (streak : Streak host) (windowed : Windowed settings host)
    (none : host.ended = none) (below : probe < host.next) (gwStatus : String) (now : Nat) :
    Sound settings (host.read settings probe gwStatus now) := by
  have idled : Windowed settings host.readIdle :=
    windowed.quiet (fun _ _ here => here) ⟨rfl, rfl⟩ (.inr ⟨rfl, rfl⟩) id
  have fresh := fresh_readIdle streak
  unfold Host.read
  split
  · have worked : Windowed settings host.readWorking :=
      windowed.worked ⟨rfl, rfl, rfl⟩ ⟨rfl, rfl⟩
    exact ⟨streak.readWorking.wait below rfl, worked.ask, told_of_none none⟩
  · split
    · split
      case isTrue late =>
        have long : settings.startTimeoutMs ≤ now - host.window.submittedAt := by
          have := late.2
          omega
        refine ⟨streak.readIdle.starting below fresh _ _ _ _, ?_, told_of_none none⟩
        exact idled.wait long fun _ asks => by cases asks
      case isFalse => exact sound_count streak.readIdle idled none below fresh gwStatus
    · exact ⟨streak.wait below rfl, windowed.ask, told_of_none none⟩

theorem fetchRunStatus_blank (answer : Option Report) : fetchRunStatus "" answer = ⟨"", false⟩ :=
  if_pos (by decide)

theorem sound_confirm (streak : Streak host) (windowed : Windowed settings host)
    (none : host.ended = none) (below : probe < host.next) {asked : Asked}
    {submittedAt waited : Nat} {report : Report}
    (knows : (Phase.confirming asked submittedAt waited report).Knows settings)
    (gwStatus : String) :
    Sound settings (host.confirm probe asked submittedAt waited report gwStatus) := by
  obtain ⟨⟨answer, answered⟩, delivered, long⟩ := knows
  have idled : Windowed settings host.readIdle :=
    windowed.quiet (fun _ _ here => here) ⟨rfl, rfl⟩ (.inr ⟨rfl, rfl⟩) id
  unfold Host.confirm
  split
  · exact ⟨streak.confirmWorking, windowed.worked ⟨rfl, rfl, rfl⟩ ⟨rfl, rfl⟩, told_of_none none⟩
  · split
    case isTrue idle =>
      split
      case isTrue => exact ⟨streak.readIdle, idled, told_of_none none⟩
      case isFalse same =>
        simp only [not_or, not_not, Bool.not_eq_true] at same
        -- A blank id has no status, so the window is open and its flag tells what was observed.
        have named : host.window.runId ≠ "" := by
          intro blank
          rw [answered, ← same.1, blank, fetchRunStatus_blank] at delivered
          exact absurd delivered.1 (by decide)
        have unworked : host.worked = false := by
          cases worked : host.worked with
          | false => rfl
          | true =>
              have observed := windowed.kept named worked
              rw [same.2.2] at observed
              cases observed
        refine ⟨streak.readIdle.wait below rfl, idled.wait ?_ ?_, told_of_none none⟩
        · exact ⟨⟨answer, answered⟩, delivered, long, idle, unworked⟩
        · intro asking asks
          rw [← Option.some.inj asks, ← same.1]
          rfl
    case isFalse => exact ⟨streak, windowed, told_of_none none⟩

theorem sound_probe (sound : Sound settings host) :
    Sound settings { host.wait host.next .gateway with next := host.next + 1, ended := none } := by
  have fewer : ∀ probe phase, (host.wait host.next .gateway).probes probe = some phase →
      probe < host.next + 1 ∧ (phase.index = none ∨ host.probes probe = some phase) := by
    intro probe phase here
    rcases update_some here with ⟨rfl, now⟩ | before
    · obtain rfl := Option.some.inj now
      exact ⟨Nat.lt_succ_self _, .inl rfl⟩
    · exact ⟨Nat.lt_succ_of_lt (sound.streak.numbered probe phase before), .inr before⟩
  have waits : Windowed settings (host.wait host.next .gateway) :=
    sound.windowed.wait trivial fun _ asks => by cases asks
  refine ⟨sound.streak.next fewer ⟨sound.streak.length, .inl rfl⟩ ⟨rfl, rfl, rfl⟩, ?_,
    told_of_none rfl⟩
  exact waits.next (.inr ⟨rfl, .inl rfl⟩) (fun _ _ here => here) waits.seen waits.kept

/-- A step that only writes the window, ending it or not. -/
theorem sound_written (sound : Sound settings host) (same : after.next = host.next ∧
      after.opened = host.opened ∧ after.worked = host.worked ∧ after.reads = host.reads ∧
      after.since = host.since ∧ after.blurred = host.blurred)
    (probes : ∀ probe phase, after.probes probe = some phase → host.probes probe = some phase)
    (counted : after.window.idleStreak = after.counted.length ∧
      (after.counted = host.counted ∨ after.counted = []))
    (written : after.window.runId = "" ∨ after.window.runId = host.window.runId ∧
      after.window.observedWorking = host.window.observedWorking)
    (seen : after.window.observedWorking = true → host.window.observedWorking = true)
    (told : Told settings after) : Sound settings after := by
  obtain ⟨next, opened, worked, reads⟩ := same
  refine ⟨sound.streak.next ?_ counted reads, ?_, told⟩
  · intro probe phase here
    have before := probes probe phase here
    exact ⟨next ▸ sound.streak.numbered probe phase before, .inr before⟩
  · exact sound.windowed.quiet probes ⟨opened, worked⟩ written seen

theorem sound_step {label : Label} (sound : Sound settings host)
    (taken : step settings host label = some after) : Sound settings after := by
  have still : Sound settings { host with ended := none } :=
    sound_written sound ⟨rfl, rfl, rfl, rfl, rfl, rfl⟩ (fun _ _ here => here)
      ⟨sound.streak.length, .inl rfl⟩ (.inr ⟨rfl, rfl⟩) id (told_of_none rfl)
  have resumed : ∀ probe, Sound settings (host.resume probe) := fun probe =>
    ⟨sound.streak.resume probe, sound.windowed.resume probe, told_of_none rfl⟩
  cases label with
  | deliver run calls now =>
      obtain rfl := Option.some.inj taken
      exact sound_deliver sound run calls now
  | turnStart =>
      obtain ⟨_, rfl⟩ := Option.ite_none_right_eq_some.mp taken |>.imp id Option.some.inj
      have kept : ∀ probe phase, host.probes probe = some phase →
          probe < host.next ∧ (phase.index = none ∨ host.probes probe = some phase) :=
        fun probe phase here => ⟨sound.streak.numbered probe phase here, .inr here⟩
      exact ⟨sound.streak.next kept ⟨sound.streak.length, .inl rfl⟩ ⟨rfl, rfl, rfl⟩,
        sound.windowed.worked ⟨rfl, rfl, rfl⟩ ⟨rfl, rfl⟩, told_of_none rfl⟩
  | turnEnd =>
      dsimp only [step] at taken
      split at taken
      · obtain rfl := Option.some.inj taken
        exact sound_written sound ⟨rfl, rfl, rfl, rfl, rfl, rfl⟩ (fun _ _ here => here)
          ⟨sound.streak.length, .inl rfl⟩ (.inr ⟨rfl, rfl⟩) id (told_of_none rfl)
      · exact Option.some.inj taken ▸ still
  | probe now =>
      dsimp only [step] at taken
      split at taken
      · exact Option.some.inj taken ▸ sound_probe sound
      · exact Option.some.inj taken ▸ still
  | gateway probe status now =>
      dsimp only [step] at taken
      cases here : host.probes probe with
      | none =>
          rw [here] at taken
          cases taken
      | some phase =>
          rw [here] at taken
          have below : probe < (host.resume probe).next := sound.streak.numbered probe phase here
          cases phase with
          | gateway =>
              obtain rfl := Option.some.inj taken
              exact sound_read (resumed probe).streak (resumed probe).windowed rfl below _ now
          | confirming asked submittedAt waited report =>
              have knows := sound.windowed.knows probe _ here
              cases status with
              | none => exact Option.some.inj taken ▸ resumed probe
              | some gwStatus =>
                  obtain rfl := Option.some.inj taken
                  exact sound_confirm (resumed probe).streak (resumed probe).windowed rfl below
                    knows gwStatus
          | starting asked submittedAt waited gwStatus index => cases taken
          | failing found => cases taken
          | finishing asked => cases taken
  | runStatus probe answer =>
      dsimp only [step] at taken
      cases here : host.probes probe with
      | none =>
          rw [here] at taken
          cases taken
      | some phase =>
          rw [here] at taken
          have below : probe < (host.resume probe).next := sound.streak.numbered probe phase here
          have knows := sound.windowed.knows probe _ here
          cases phase with
          | starting asked submittedAt waited gwStatus index =>
              dsimp only at taken
              split at taken
              case isTrue delivered =>
                obtain rfl := Option.some.inj taken
                refine ⟨(resumed probe).streak.wait below rfl, ?_, told_of_none rfl⟩
                exact (resumed probe).windowed.wait ⟨⟨answer, rfl⟩, delivered, knows⟩
                  fun _ asks => by cases asks
              case isFalse =>
                obtain rfl := Option.some.inj taken
                have held : host.index probe = some index :=
                  Option.bind_eq_some_iff.mpr ⟨_, here, rfl⟩
                exact sound_count (resumed probe).streak (resumed probe).windowed rfl below
                  (fresh_resume sound.streak held) gwStatus
          | finishing asked =>
              dsimp only at taken
              split at taken
              case isTrue latch =>
                obtain rfl := Option.some.inj taken
                refine sound_written (resumed probe) ⟨rfl, rfl, rfl, rfl, rfl, rfl⟩
                  (fun _ _ here => here) ⟨sound.streak.length, .inl rfl⟩ (.inl rfl) id ?_
                intro window ending ended
                cases ended
                exact ⟨⟨answer, rfl⟩, latch, (sound.windowed.asks probe _ asked here rfl).2⟩
              case isFalse => exact Option.some.inj taken ▸ resumed probe
          | gateway => cases taken
          | confirming asked submittedAt waited report => cases taken
          | failing found => cases taken
  | failed probe reported =>
      dsimp only [step] at taken
      cases here : host.probes probe with
      | none =>
          rw [here] at taken
          cases taken
      | some phase =>
          rw [here] at taken
          cases phase with
          | failing found =>
              dsimp only at taken
              cases reported with
              | true =>
                  obtain rfl := Option.some.inj taken
                  refine sound_written (resumed probe) ⟨rfl, rfl, rfl, rfl, rfl, rfl⟩
                    (fun _ _ here => here) ⟨rfl, .inr rfl⟩ (.inl rfl) id ?_
                  intro window ending ended
                  cases ended
                  exact ⟨sound.windowed.knows probe _ here,
                    (sound.windowed.asks probe _ found.asked here rfl).2⟩
              | false => exact Option.some.inj taken ▸ resumed probe
          | gateway => cases taken
          | starting asked submittedAt waited gwStatus index => cases taken
          | confirming asked submittedAt waited report => cases taken
          | finishing asked => cases taken

theorem sound_initial (settings : Settings) : Sound settings initial := by
  refine ⟨⟨?_, rfl, List.nodup_nil, ?_, ?_, ?_, le_refl _, ?_, fun _ => ⟨?_, ?_⟩⟩,
    ⟨?_, ?_, ?_, ?_⟩, told_of_none rfl⟩
  · exact fun _ _ here => by cases here
  · exact fun _ listed => absurd listed List.not_mem_nil
  · exact fun _ _ here => by cases here
  · exact fun _ _ _ here => by cases here
  · exact fun _ _ below => absurd below (Nat.not_lt_zero _)
  · exact fun _ listed => absurd listed List.not_mem_nil
  · exact fun _ _ here => by cases here
  · exact fun no => by cases no
  · exact fun _ no => by cases no
  · exact fun _ _ here => by cases here
  · exact fun _ _ _ here => by cases here

/-- Every ending of a window by the probe, in every interleaving, rests on a finished status
of the run, on a working state and then sustained idle, or on a turn that never started. -/
theorem window_ended_on_evidence (settings : Settings) {window : InFlight} {ending : Ending}
    (run : Reaches (step settings) anyStep initial host)
    (ended : host.ended = some (window, ending)) : Evidence settings host window ending := by
  have sound : Sound settings host :=
    run.invariant _ (sound_initial settings) fun _ _ _ sound _ taken => sound_step sound taken
  exact sound.told window ending ended

def managedSettings : Settings :=
  ⟨⟨"hermes-dev", "ws://127.0.0.1:9147/api/ws", 25000, 5⟩, 900000, 90000, 3⟩

/-- The delivery of a run to an attached session. -/
def delivery : Label :=
  .deliver ⟨"r1", false⟩ ⟨.session, none, .refused, .accepted, none, none⟩ 1000

/-- A probe that reads the gateway. -/
def probing (probe now : Nat) (status : String) : List Label :=
  [.probe now, .gateway probe (some status) now]

def openedWindow : InFlight := ⟨1000, false, "r1", false, true, 0⟩

theorem window_ended_on_evidence_idle :
    ∃ host, Reaches (step managedSettings) anyStep initial host ∧
      host.ended = some ({ openedWindow with observedWorking := true, idleStreak := 2 }, .idled) ∧
      host.worked = true ∧ List.replicate 3 .idle <:+ host.reads := by
  obtain ⟨host, run, saw⟩ : ∃ host, Reaches (step managedSettings) anyStep initial host ∧
      (host.ended, host.blurred) =
        (some ({ openedWindow with observedWorking := true, idleStreak := 2 }, .idled), false) :=
    reaches_observed (fun _ _ => true)
      (delivery :: probing 0 2000 "working" ++ probing 1 47000 "idle" ++ probing 2 92000 "idle" ++
        probing 3 137000 "idle")
      (fun host : Host => (host.ended, host.blurred)) _ (fun _ _ _ => trivial) rfl
  rw [Prod.mk.injEq] at saw
  have evidence := window_ended_on_evidence managedSettings run saw.1
  exact ⟨host, run, saw.1, evidence.1, evidence.2 saw.2⟩

/-- The ending rests on a finished status of the run whose window is open, or on a working
state and then sustained idle. -/
def OwnEvidence (settings : Settings) (host : Host) (window : InFlight) (ending : Ending) : Prop :=
  (∃ asked report, ending = .finished asked report ∧ shouldLatchComplete report = true ∧
      window.runId = asked.runId) ∨
    (host.worked = true ∧
      List.replicate (GatewayTurns.threshold settings.idleDebounce) .idle <:+ host.reads)

def unstarted : Unstarted := ⟨⟨"r1", 1⟩, 94000, ⟨"delivered", true⟩, "idle", false⟩

/-- The gateway stays idle, and the probe fails the run. -/
theorem window_ended_unstarted :
    ∃ host, Reaches (step managedSettings) anyStep initial host ∧
      host.ended = some (openedWindow, .unstarted unstarted) ∧
      ¬ OwnEvidence managedSettings host openedWindow (.unstarted unstarted) := by
  obtain ⟨host, run, saw⟩ : ∃ host, Reaches (step managedSettings) anyStep initial host ∧
      (host.ended, host.worked) = (some (openedWindow, .unstarted unstarted), false) :=
    reaches_observed (fun _ _ => true)
      (delivery :: probing 0 95000 "idle" ++ [Label.runStatus 0 (some ⟨"delivered", true⟩),
        Label.gateway 0 (some "idle") 95000, Label.failed 0 true])
      (fun host : Host => (host.ended, host.worked)) _ (fun _ _ _ => trivial) rfl
  rw [Prod.mk.injEq] at saw
  refine ⟨host, run, saw.1, ?_⟩
  rintro (⟨asked, report, same, _⟩ | ⟨worked, _⟩)
  · cases same
  · rw [saw.2] at worked
    cases worked

end AifyComms.TurnWindows
