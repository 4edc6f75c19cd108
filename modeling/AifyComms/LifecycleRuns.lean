import AifyComms.DefinitionService

/-!
Lifecycle requests, launches and attachments over whole runs.
-/

namespace AifyComms.LifecycleRuns
open LifecycleRequests Runs
open DefinitionService (Service World Label step initial SpawnDone LifecycleMoved)

variable {service : Service}

/-- What one transaction does to the requests: each write proceeds from the one before it. -/
abbrev Evolves : Requests → Requests → Prop := Relation.ReflTransGen Proceeds

theorem moved_evolves {before after : Requests} (moved : LifecycleMoved before after) :
    Evolves before after := by
  cases moved with
  | moved rows none => exact .single rows
  | asked id _ _ _ _ _ _ row queued waits intent => exact .single (queueLifecycle_proceeds queued waits)

theorem step_evolves {before after : World} {label : Label}
    (taken : step service before label = some after) :
    Evolves before.lifecycle.requests after.lifecycle.requests ∧
      LaunchesProceed before.lifecycle after.lifecycle := by
  rcases DefinitionService.step_lifecycle taken with
    ⟨moved, launches, _⟩ | ⟨definitions, machineId, now, start, finish, spawned⟩
  · exact ⟨moved_evolves moved, launches⟩
  · rw [spawned.lifecycleAfter]
    refine ⟨?_, launches_same rfl rfl rfl⟩
    refine DefinitionService.spawnCreated_invariant
      (fun state => Evolves before.lifecycle.requests state.lifecycle) spawned.ran
      (spawned.lifecycle ▸ .refl) ?_
    intro current entry next evolves _ _ _ done
    cases done with
    | unpublished => exact evolves
    | nothing why => exact evolves
    | queued held lifecycle _ _ inserted => exact evolves.tail (queueLifecycle_proceeds inserted rfl)

theorem evolves_oneOpen {before after : Requests} (evolves : Evolves before after)
    (one : OneOpen before) : OneOpen after := by
  induction evolves with
  | refl => exact one
  | tail _ proceeds ih => exact proceeds_oneOpen proceeds ih

/-- A row keeps what it asks, and keeps everything once it is terminal. -/
def Held (row now : Request) : Prop :=
  now.asked = row.asked ∧ (row.status.isTerminal = true → now = row)

theorem evolves_row {before after : Requests} (evolves : Evolves before after) {id : String}
    {row : Request} (found : before.get? id = some row) :
    ∃ now, after.get? id = some now ∧ Held row now := by
  induction evolves with
  | refl => exact ⟨row, found, rfl, fun _ => rfl⟩
  | tail _ proceeds ih =>
      obtain ⟨middle, present, asked, terminal⟩ := ih
      obtain ⟨now, after, moves⟩ := proceeds.moved id middle present
      refine ⟨now, after, (moves_asked moves).trans asked, ?_⟩
      intro settled
      obtain rfl := terminal settled
      exact moves_terminal moves settled

theorem later_row {world later : World} (run : Reaches (step service) anyStep world later)
    {id : String} {row : Request} (found : world.lifecycle.requests.get? id = some row) :
    ∃ now, later.lifecycle.requests.get? id = some now ∧ Held row now := by
  refine run.invariant
    (fun current => ∃ now, current.lifecycle.requests.get? id = some now ∧ Held row now)
    ⟨row, found, rfl, fun _ => rfl⟩ ?_
  rintro before label after ⟨middle, present, asked, terminal⟩ _ taken
  obtain ⟨now, after, askedNow, terminalNow⟩ := evolves_row (step_evolves taken).1 present
  refine ⟨now, after, askedNow.trans asked, ?_⟩
  intro settled
  obtain rfl := terminal settled
  exact terminalNow settled

/-- A prepared launch keeps its terminal, and its receipt once it has one. -/
theorem later_launch {world later : World} (run : Reaches (step service) anyStep world later)
    {id : String} {row : LaunchRow} (found : world.lifecycle.launches.get? id = some row) :
    ∃ now, later.lifecycle.launches.get? id = some now ∧ now.terminalId = row.terminalId ∧
      ∀ receipt, row.attachment = some receipt → now.attachment = some receipt := by
  refine run.invariant (fun current => ∃ now, current.lifecycle.launches.get? id = some now ∧
    now.terminalId = row.terminalId ∧
    ∀ receipt, row.attachment = some receipt → now.attachment = some receipt)
    ⟨row, found, rfl, fun _ attached => attached⟩ ?_
  rintro before label after ⟨middle, present, terminal, receipts⟩ _ taken
  obtain ⟨now, after, moves⟩ := (step_evolves taken).2.moved id middle present
  refine ⟨now, after, (launch_moves_terminal moves).trans terminal, ?_⟩
  intro receipt attached
  exact launch_moves_attachment moves (receipts receipt attached)

/-- A repeated request id is answered with the stored record when it asks the same, and
refused otherwise, and writes nothing. -/
def Idempotent (world : World) : Prop :=
  ∀ agentId body proof now brief id old, body.requestId = some id →
    world.lifecycle.requests.get? id = some old →
    (admitLifecycle world.tables agentId body proof now brief world.lifecycle).1 = world.lifecycle ∧
    (∀ record,
      (admitLifecycle world.tables agentId body proof now brief world.lifecycle).2 = .ok record →
      record = lifecycleRecord id old ∧
        ∃ action, body.action = some action ∧ old.intent = intentOf agentId action body) ∧
    ∀ action, WellFormed body proof id action → old.intent = intentOf agentId action body →
      (admitLifecycle world.tables agentId body proof now brief world.lifecycle).2 =
        .ok (lifecycleRecord id old)

theorem idempotent (world : World) : Idempotent world := by
  intro agentId body proof now brief id old named stored
  refine ⟨?_, ?_, ?_⟩
  · exact admitLifecycle_stored named stored
  · intro record answered
    exact admitLifecycle_answers named stored answered
  · intro action formed same
    rw [admitLifecycle_again formed stored, if_pos same]

theorem lifecycle_single_file {world : World} (run : Reaches (step service) anyStep initial world) :
    Idempotent world ∧ OneOpen world.lifecycle.requests ∧ OncePerRequest world.lifecycle ∧
    ∀ later, Reaches (step service) anyStep world later →
      (∀ id row, world.lifecycle.requests.get? id = some row →
        ∃ now, later.lifecycle.requests.get? id = some now ∧ Held row now) ∧
      ∀ id row, world.lifecycle.launches.get? id = some row →
        ∃ now, later.lifecycle.launches.get? id = some now ∧ now.terminalId = row.terminalId ∧
          ∀ receipt, row.attachment = some receipt → now.attachment = some receipt := by
  have invariant : OneOpen world.lifecycle.requests ∧ OncePerRequest world.lifecycle := by
    refine run.invariant
      (fun world => OneOpen world.lifecycle.requests ∧ OncePerRequest world.lifecycle) ?_ ?_
    · refine ⟨?_, ?_, .nil, ?_, .nil⟩
      · intro left right leftRow rightRow found
        cases found
      · intro pair listed
        cases listed
      · intro pair listed
        cases listed
    · rintro before label after ⟨one, once⟩ _ taken
      obtain ⟨evolves, launches⟩ := step_evolves taken
      exact ⟨evolves_oneOpen evolves one, launches_proceed_once launches once⟩
  refine ⟨idempotent world, invariant.1, invariant.2, ?_⟩
  intro later continued
  exact ⟨fun id row found => later_row continued found,
    fun id row found => later_launch continued found⟩

def startAsked : Submit :=
  ⟨some "start-1", some .start, "dashboard", .given none, .absent, .absent⟩

def startAttached : Attachment :=
  ⟨"bridge-1", "devbox", "term-1", some "pane-1", some "life-1", .given 7, .absent, .absent⟩

/-- A start that is asked for, claimed, launched twice, attached twice and reported. -/
def startRun : List Label :=
  [DefinitionService.pushes "s1" 1 [DefinitionService.coderEntry 1] 10,
    .lifecycleAdmit "coder" startAsked (some "dashboard") (some ⟨"hello", "work", "normal"⟩) 20,
    .lifecycleClaim (some DefinitionService.devboxEnvironment) "bridge-1" "devbox" .absent 30,
    .launch (some DefinitionService.devboxEnvironment) "start-1" "bridge-1" "devbox"
      ⟨"sess-1", "term-1", "spec-1"⟩ 40,
    .launch (some DefinitionService.devboxEnvironment) "start-1" "bridge-1" "devbox"
      ⟨"sess-2", "term-2", "spec-2"⟩ 41,
    .attach (some DefinitionService.devboxEnvironment) "start-1" startAttached "m-1" 50,
    .attach (some DefinitionService.devboxEnvironment) "start-1" startAttached "m-2" 51,
    .lifecycleResult (some DefinitionService.devboxEnvironment) "start-1"
      ⟨"bridge-1", "devbox", some .done, some "running", .given (some "life-1"),
        some "2026-10-04T10:00:00Z", none, none⟩ 60]

theorem lifecycle_single_file_start : ∃ world,
    Reaches (step DefinitionService.devbox) anyStep initial world ∧
    (world.lifecycle.opened, world.lifecycle.handed.map fun brief => (brief.1, brief.2.id),
      (world.lifecycle.requests.get? "start-1").map Request.status) =
        ([("start-1", "term-1")], [("start-1", "m-1")], some .done) ∧
    Idempotent world ∧ OneOpen world.lifecycle.requests ∧ OncePerRequest world.lifecycle := by
  have executed : (exec (step DefinitionService.devbox) (fun _ _ => true) initial startRun).map
      (fun world => (world.lifecycle.opened,
        world.lifecycle.handed.map fun brief => (brief.1, brief.2.id),
        (world.lifecycle.requests.get? "start-1").map Request.status)) =
      some ([("start-1", "term-1")], [("start-1", "m-1")], some .done) := by
    decide
  obtain ⟨world, run, seen⟩ := reaches_observed _ _ _ _ (fun _ _ _ => trivial) executed
  have single := lifecycle_single_file run
  exact ⟨world, run, seen, single.1, single.2.1, single.2.2.1⟩

end AifyComms.LifecycleRuns
