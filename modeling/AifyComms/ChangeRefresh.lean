import Mathlib.Logic.Function.Basic

/-!
What drives the dashboard's refreshes: `ChangeDrivenRefresh` (`change-refresh.mjs`), the
tables each slice reads (`slice-tables.mjs`), and the page around it: the coalesced full
refresh (`app.js`) and the gate of a hidden tab (`refresh-visibility.mjs`).

Times are milliseconds of the page's clock. A map of the source is a function to `Option`;
the order of its keys only orders the fetches of one flush.
-/

namespace AifyComms.ChangeRefresh

/-! ### The slices and their tables -/

inductive Slice where
  | agents
  | contracts
  | messages
  | runs
  | sessions
  | environments
  | spawnRequests
  | stats
  | settings
  | channels
  | conversation
  | files
  deriving DecidableEq, Repr

/-- The keys of `SLICE_TABLES`. -/
def Slice.all : List Slice :=
  [.agents, .contracts, .messages, .runs, .sessions, .environments, .spawnRequests, .stats,
    .settings, .channels, .conversation, .files]

/-- `SLICE_TABLES`. -/
def sliceTables : Slice → List String
  | .agents =>
      ["agents", "agent_sessions", "agent_tombstones", "bridge_instances", "claimer_leases",
        "environments", "terminal_sessions", "dispatch_runs", "dispatch_controls", "spawn_specs",
        "spawn_requests", "settings", "agent_definitions", "messages", "read_receipts"]
  | .contracts =>
      ["dispatch_runs", "dispatch_events", "messages", "read_receipts", "agents", "settings"]
  | .messages => ["messages", "read_receipts", "agents", "dispatch_runs"]
  | .runs => ["dispatch_runs", "dispatch_controls", "dispatch_events", "agents", "messages"]
  | .sessions =>
      ["agent_sessions", "terminal_sessions", "terminal_controls", "agents", "environments",
        "spawn_specs", "bridge_instances"]
  | .environments =>
      ["environments", "environment_controls", "bridge_instances", "agents", "agent_sessions",
        "terminal_sessions", "spawn_requests", "spawn_specs", "settings", "definition_stores"]
  | .spawnRequests => ["spawn_requests", "spawn_specs", "environments"]
  | .stats =>
      ["messages", "dispatch_runs", "dispatch_controls", "agents", "channels",
        "shared_artifacts", "read_receipts", "agent_sessions", "agent_tombstones",
        "environments", "spawn_requests"]
  | .settings => ["settings"]
  | .channels => ["channels", "channel_members", "messages", "read_receipts"]
  | .conversation => ["messages", "read_receipts", "channels", "channel_members"]
  | .files => ["shared_artifacts"]

/-- `LIVENESS_SLICES`. -/
def livenessSlices : List Slice := [.agents, .sessions, .environments]

def slicesReading (tables : List String) (among : List Slice) : List Slice :=
  among.filter fun slice => (sliceTables slice).any fun table => tables.contains table

theorem Slice.mem_all (slice : Slice) : slice ∈ Slice.all := by
  cases slice <;> decide

/-! ### The state -/

/-- `CHANGE_DEBOUNCE_MS`. -/
def changeDebounceMs : Nat := 250

/-- `LIVENESS_INTERVAL_MS`. -/
def livenessIntervalMs : Nat := 60000

/-- `SLICE_MIN_INTERVAL_MS`, with its default. -/
def sliceMinIntervalMs : Slice → Nat
  | .stats => 30000
  | _ => 0

/-- `RETRY_AFTER_MS`. -/
def retryAfterMs : Nat := 5000

/-- A `data_changed` event. -/
structure ChangeEvent where
  seq : Int
  serverInstance : String
  tables : List String
  liveness : List String

/-- An entry of `paintedAt`. -/
structure Paint where
  generation : Nat
  seq : Nat
  deriving DecidableEq

/-- How far a fetch is with one slice. `skipped` is a slice the page does not read, or any
slice of a flush that found the page hidden: it is neither read nor painted, and nothing
tells the caller so. -/
inductive Progress where
  | waiting
  | read (moment : Nat)
  | painted (moment : Nat)
  | failed
  | skipped
  deriving DecidableEq

def Progress.isOpen : Progress → Bool
  | .waiting => true
  | .read _ => true
  | _ => false

/-- A `flush` that awaits its `refreshSlices`. -/
structure Flush where
  due : List Slice
  generation : Nat
  progress : Slice → Progress

/-- How far the flush is with a slice that it fetches. -/
def Flush.fetches (flush : Flush) (slice : Slice) : Option Progress :=
  if slice ∈ flush.due then some (flush.progress slice) else none

/-- `flushTimer` holds `flushAt` while the timer is armed, and `inFlight` the flush that
set it. -/
structure ChangeDrivenRefresh where
  connected : Bool
  serverInstance : Option String
  seq : Int
  pending : Slice → Option Nat
  wantedAt : Slice → Option Nat
  loadedAt : Slice → Option Nat
  flushTimer : Option Nat
  inFlight : Option Flush
  pollTimer : Bool
  generation : Nat
  shownGeneration : Slice → Option Nat
  paintedAt : Slice → Option Paint
  paints : Nat

namespace ChangeDrivenRefresh

/-! ### What is pending -/

def forget (slice : Slice) (driver : ChangeDrivenRefresh) : ChangeDrivenRefresh :=
  { driver with
    pending := Function.update driver.pending slice none
    wantedAt := Function.update driver.wantedAt slice none }

/-- What `want` and `refetch` write. -/
def pend (now due : Nat) (slice : Slice) (driver : ChangeDrivenRefresh) : ChangeDrivenRefresh :=
  { driver with
    pending := Function.update driver.pending slice
      (some (((driver.pending slice).map fun already => min already due).getD due))
    wantedAt := Function.update driver.wantedAt slice
      (some ((driver.wantedAt slice).getD now)) }

/-- Fetch a slice again soon, past its floor. -/
def refetch (now : Nat) (driver : ChangeDrivenRefresh) (slice : Slice) : ChangeDrivenRefresh :=
  driver.pend now (now + changeDebounceMs) slice

def floor (driver : ChangeDrivenRefresh) (slice : Slice) : Nat :=
  (driver.loadedAt slice).getD 0 + sliceMinIntervalMs slice

def want (now earliest : Nat) (driver : ChangeDrivenRefresh) (slice : Slice) :
    ChangeDrivenRefresh :=
  driver.pend now (max earliest (driver.floor slice)) slice

def cancelFlush (driver : ChangeDrivenRefresh) : ChangeDrivenRefresh :=
  { driver with flushTimer := none }

/-- The times the pending slices may be fetched at. -/
def dueTimes (driver : ChangeDrivenRefresh) : List Nat := Slice.all.filterMap driver.pending

def scheduleFlush (driver : ChangeDrivenRefresh) : ChangeDrivenRefresh :=
  match driver.dueTimes.min? with
  | none => driver
  | some due =>
      if driver.inFlight.isSome then driver
      else if driver.flushTimer.any fun flushAt => decide (flushAt ≤ due) then driver
      else { driver with flushTimer := some due }

/-! ### The socket -/

/-- `recover`, before its full refresh. -/
def clearPending (driver : ChangeDrivenRefresh) : ChangeDrivenRefresh :=
  { driver with
    pending := fun _ => none
    wantedAt := fun _ => none
    flushTimer := none }

/-- `opened`, before its recovery. -/
def opened (driver : ChangeDrivenRefresh) : ChangeDrivenRefresh :=
  { driver with
    connected := true
    serverInstance := none
    pollTimer := false }

def armPoll (driver : ChangeDrivenRefresh) : ChangeDrivenRefresh :=
  if driver.connected then driver else { driver with pollTimer := true }

def closed (driver : ChangeDrivenRefresh) : ChangeDrivenRefresh :=
  armPoll { driver.clearPending with
    connected := false
    serverInstance := none }

/-- A skipped event, or a service that restarted. -/
def missed (event : ChangeEvent) (driver : ChangeDrivenRefresh) : Bool :=
  driver.serverInstance.any fun known =>
    decide (event.serverInstance ≠ known ∨ event.seq ≠ driver.seq + 1)

def baseline (event : ChangeEvent) (driver : ChangeDrivenRefresh) : ChangeDrivenRefresh :=
  { driver with
    serverInstance := some event.serverInstance
    seq := event.seq }

/-- The part of `changed` for an event that follows the last one. -/
def wantChanged (now : Nat) (event : ChangeEvent) (driver : ChangeDrivenRefresh) :
    ChangeDrivenRefresh :=
  let changed := (slicesReading event.tables Slice.all).foldl
    (want now (now + changeDebounceMs)) driver
  (slicesReading event.liveness livenessSlices).foldl
    (fun driver slice => driver.want now
      (max (now + changeDebounceMs) ((driver.loadedAt slice).getD 0 + livenessIntervalMs)) slice)
    changed

/-! ### What a finished fetch reports -/

/-- The writes of `shown`. -/
def shown (slice : Slice) (generation : Nat) (driver : ChangeDrivenRefresh) :
    ChangeDrivenRefresh :=
  { driver with
    shownGeneration := Function.update driver.shownGeneration slice (some generation)
    paintedAt := Function.update driver.paintedAt slice (some ⟨generation, driver.paints + 1⟩)
    paints := driver.paints + 1 }

/-- What `shown` answers false for: a fetch that started later had painted the slice. -/
def overwroteNewer (driver : ChangeDrivenRefresh) (slice : Slice) (generation : Nat) : Bool :=
  decide (generation < (driver.shownGeneration slice).getD 0)

def paintedOlderSince (driver : ChangeDrivenRefresh) (slice : Slice)
    (paintsBefore generation : Nat) : Bool :=
  (driver.paintedAt slice).any fun painted =>
    decide (painted.generation < generation ∧ paintsBefore < painted.seq)

/-- The loop of `fullyRefreshed` and of `flush` over the slices that did not fail: the
slices it finds overwritten, beside the state. -/
def acknowledge (generation loaded : Nat) (paintedDuring : ChangeDrivenRefresh → Slice → Bool) :
    List Slice → ChangeDrivenRefresh → ChangeDrivenRefresh × List Slice
  | [], driver => (driver, [])
  | slice :: rest, driver =>
      if driver.overwroteNewer slice generation || paintedDuring driver slice then
        let done := acknowledge generation loaded paintedDuring rest (driver.shown slice generation)
        (done.1, slice :: done.2)
      else
        acknowledge generation loaded paintedDuring rest
          { driver.shown slice generation with
            loadedAt := Function.update driver.loadedAt slice (some loaded) }

/-- The slices wanted before a time are forgotten. -/
def forgetBefore (startedAt : Nat) (driver : ChangeDrivenRefresh) : ChangeDrivenRefresh :=
  let covered (slice : Slice) : Bool :=
    (driver.wantedAt slice).any fun at_ => decide (at_ < startedAt)
  { driver with
    pending := fun slice => if covered slice then none else driver.pending slice
    wantedAt := fun slice => if covered slice then none else driver.wantedAt slice }

/-- What failed is retried and what was overwritten is fetched again, while connected. -/
def recoverSlices (now : Nat) (failed overwritten : List Slice) (driver : ChangeDrivenRefresh) :
    ChangeDrivenRefresh :=
  if driver.connected then
    overwritten.foldl (refetch now) (failed.foldl (want now (now + retryAfterMs)) driver)
  else driver

end ChangeDrivenRefresh

/-- A full bundle under way: what `fullRefreshStarting` returned, and how far it is. -/
structure Bundle where
  startedAt : Nat
  generation : Nat
  paintsBefore : Nat
  progress : Slice → Progress

namespace ChangeDrivenRefresh

def fullyRefreshed (now : Nat) (bundle : Bundle) (driver : ChangeDrivenRefresh) :
    ChangeDrivenRefresh :=
  let failed := Slice.all.filter fun slice => bundle.progress slice == .failed
  let landed := Slice.all.filter fun slice => bundle.progress slice != .failed
  let acknowledged := driver.acknowledge bundle.generation bundle.startedAt
    (fun driver slice =>
      driver.paintedOlderSince slice bundle.paintsBefore bundle.generation) landed
  let kept := acknowledged.1.forgetBefore bundle.startedAt
  (kept.recoverSlices now failed acknowledged.2).cancelFlush.scheduleFlush

/-- The rest of `flush`, after its `refreshSlices`. -/
def flushed (now : Nat) (flush : Flush) (driver : ChangeDrivenRefresh) : ChangeDrivenRefresh :=
  let failed := flush.due.filter fun slice => flush.progress slice == .failed
  let landed := flush.due.filter fun slice => flush.progress slice != .failed
  let acknowledged := { driver with inFlight := none }.acknowledge flush.generation now
    (fun _ _ => false) landed
  (acknowledged.1.recoverSlices now failed acknowledged.2).scheduleFlush

end ChangeDrivenRefresh

/-! ### The page -/

/-- The data of a slice on the screen: when it was read, and by which fetch. -/
structure Shown where
  read : Nat
  generation : Nat
  deriving DecidableEq

/-- The page around the driver. `moment` counts its steps; with it `lastChange` records the
last event that names the slice, and `screen` what is painted. No code reads these three. -/
structure Page where
  driver : ChangeDrivenRefresh
  bundle : Option Bundle
  refreshQueued : Bool
  refreshTimer : Bool
  hidden : Bool
  stale : Bool
  clock : Nat
  moment : Nat
  lastChange : Slice → Option Nat
  screen : Slice → Option Shown

def initial : Page where
  driver :=
    { connected := false
      serverInstance := none
      seq := 0
      pending := fun _ => none
      wantedAt := fun _ => none
      loadedAt := fun _ => none
      flushTimer := none
      inFlight := none
      pollTimer := false
      generation := 0
      shownGeneration := fun _ => none
      paintedAt := fun _ => none
      paints := 0 }
  bundle := none
  refreshQueued := false
  refreshTimer := false
  hidden := false
  stale := false
  clock := 0
  moment := 0
  lastChange := fun _ => none
  screen := fun _ => none

section Steps
variable (visible : Slice → Bool)

/-- The progress of a fetch that starts: only what the page reads is fetched. -/
def starting (slice : Slice) : Progress :=
  if visible slice then .waiting else .skipped

/-- `refresh` of `app.js`, to its first await. -/
def refresh (page : Page) : Page :=
  if page.hidden then { page with stale := true }
  else if page.bundle.isSome then { page with refreshQueued := true }
  else
    { page with
      bundle := some
        { startedAt := page.clock
          generation := page.driver.generation + 1
          paintsBefore := page.driver.paints
          progress := starting visible }
      driver := { page.driver with generation := page.driver.generation + 1 } }

def recover (page : Page) : Page :=
  refresh visible { page with driver := page.driver.clearPending }

/-- Does the event name a table that the slice reads? A liveness entry names one for the
slices that show liveness. -/
def ChangeEvent.names (event : ChangeEvent) (slice : Slice) : Bool :=
  decide (slice ∈ slicesReading event.tables Slice.all) ||
    decide (slice ∈ slicesReading event.liveness livenessSlices)

def noteChange (event : ChangeEvent) (page : Page) : Page :=
  { page with
    lastChange := fun slice =>
      if event.names slice then some page.moment else page.lastChange slice }

def changed (event : ChangeEvent) (page : Page) : Page :=
  if !page.driver.connected then page
  else
    let known := page.driver.baseline event
    if page.driver.missed event then recover visible { page with driver := known }
    else { page with driver := (known.wantChanged page.clock event).scheduleFlush }

/-- The timer of `scheduleFlush`, and `flush` to its await. -/
def flush (page : Page) : Page :=
  let driver := page.driver.cancelFlush
  let due := Slice.all.filter fun slice =>
    (driver.pending slice).any fun at_ => decide (at_ ≤ page.clock)
  if !driver.connected || driver.inFlight.isSome then { page with driver := driver }
  else if due.isEmpty then { page with driver := driver.scheduleFlush }
  else
    let forgotten := due.foldl (fun driver slice => driver.forget slice) driver
    { page with
      driver :=
        { forgotten with
          generation := forgotten.generation + 1
          inFlight := some
            { due := due
              generation := forgotten.generation + 1
              progress := if page.hidden then fun _ => .skipped else starting visible } }
      stale := page.stale || page.hidden }

/-- The `visibilitychange` of a page that is shown again. -/
def showPage (page : Page) : Page :=
  if page.stale then refresh visible { page with hidden := false, stale := false }
  else { page with hidden := false }

/-- The poll's timer. -/
def poll (page : Page) : Page :=
  let refreshed := refresh visible { page with driver := { page.driver with pollTimer := false } }
  { refreshed with driver := refreshed.driver.armPoll }

/-- The end of `refresh`, once its bundle is painted. -/
def finishRefresh (bundle : Bundle) (page : Page) : Page :=
  { page with
    driver := page.driver.fullyRefreshed page.clock bundle
    bundle := none
    refreshTimer := page.refreshTimer || page.refreshQueued
    refreshQueued := false }

inductive Label where
  | tick (milliseconds : Nat)
  | opened
  | closed
  | changed (event : ChangeEvent)
  | hide
  | showAgain
  | refresh
  | refreshSoon
  | refreshTimerFires
  | armPoll
  | pollFires
  | flushFires
  | bundleReads (slice : Slice)
  | bundlePaints (slice : Slice)
  | bundleFails (slice : Slice)
  | bundleDone
  | flushReads (slice : Slice)
  | flushPaints (slice : Slice)
  | flushFails (slice : Slice)
  | flushDone

def Page.moveBundle (page : Page) (bundle : Bundle) (slice : Slice) (progress : Progress) : Page :=
  { page with bundle := some { bundle with
      progress := Function.update bundle.progress slice progress } }

def Page.moveFlush (page : Page) (flush : Flush) (slice : Slice) (progress : Progress) : Page :=
  { page with driver := { page.driver with inFlight := some { flush with
      progress := Function.update flush.progress slice progress } } }

def Page.paint (page : Page) (slice : Slice) (read generation : Nat) : Page :=
  { page with screen := Function.update page.screen slice (some ⟨read, generation⟩) }

/-- What a step does, before the step is counted. A fetch reads a slice at the service, paints
it or finds that it failed, slice by slice and in any order. The full cycle can paint a slice
and still report it failed, as it does with the inbox in place of the recent messages; a
loader of a flush throws before it paints. -/
def act (page : Page) : Label → Option Page
  | .tick milliseconds => some { page with clock := page.clock + milliseconds }
  | .opened => some (recover visible { page with driver := page.driver.opened })
  | .closed => some { page with driver := page.driver.closed }
  | .changed event => some (changed visible event (noteChange event page))
  | .hide => some { page with hidden := true }
  | .showAgain => some (showPage visible page)
  | .refresh => some (refresh visible page)
  | .refreshSoon => some { page with refreshTimer := true }
  | .refreshTimerFires =>
      if page.refreshTimer then some (refresh visible { page with refreshTimer := false }) else none
  | .armPoll => some { page with driver := page.driver.armPoll }
  | .pollFires => if page.driver.pollTimer then some (poll visible page) else none
  | .flushFires => if page.driver.flushTimer.isSome then some (flush visible page) else none
  | .bundleReads slice =>
      page.bundle.bind fun bundle =>
        match bundle.progress slice with
        | .waiting => some (page.moveBundle bundle slice (.read page.moment))
        | _ => none
  | .bundlePaints slice =>
      page.bundle.bind fun bundle =>
        match bundle.progress slice with
        | .read moment =>
            some ((page.moveBundle bundle slice (.painted moment)).paint slice moment
              bundle.generation)
        | _ => none
  | .bundleFails slice =>
      page.bundle.bind fun bundle =>
        if bundle.progress slice = .skipped then none
        else some (page.moveBundle bundle slice .failed)
  | .bundleDone =>
      page.bundle.bind fun bundle =>
        if Slice.all.any fun slice => (bundle.progress slice).isOpen then none
        else some (finishRefresh bundle page)
  | .flushReads slice =>
      page.driver.inFlight.bind fun flush =>
        match flush.fetches slice with
        | some .waiting => some (page.moveFlush flush slice (.read page.moment))
        | _ => none
  | .flushPaints slice =>
      page.driver.inFlight.bind fun flush =>
        match flush.fetches slice with
        | some (.read moment) =>
            some ((page.moveFlush flush slice (.painted moment)).paint slice moment
              flush.generation)
        | _ => none
  | .flushFails slice =>
      page.driver.inFlight.bind fun flush =>
        match flush.fetches slice with
        | some progress =>
            if progress.isOpen then some (page.moveFlush flush slice .failed) else none
        | none => none
  | .flushDone =>
      page.driver.inFlight.bind fun flush =>
        if flush.due.any fun slice => (flush.progress slice).isOpen then none
        else some { page with driver := page.driver.flushed page.clock flush }

def step (page : Page) (label : Label) : Option Page :=
  (act visible page label).map fun after => { after with moment := after.moment + 1 }

end Steps

/-- Nothing in flight, no timer armed, no full refresh outstanding. -/
def Quiescent (page : Page) : Prop :=
  page.driver.inFlight = none ∧ page.driver.flushTimer = none ∧
    page.driver.pollTimer = false ∧ page.bundle = none ∧ page.refreshQueued = false ∧
    page.refreshTimer = false ∧ page.stale = false

end AifyComms.ChangeRefresh
