import AifyComms.DefinitionService

/-!
The states of definition requests over whole runs, and the one start of a created agent.
-/

namespace AifyComms.DefinitionRequestRuns
open PyText DefinitionSnapshot DefinitionPush DefinitionRequests Runs
open DefinitionService (Service World Label step initial Spawned Spawning SpawnDone createdLifetime)

variable {service : Service}

/-! ### One step -/

theorem push_keeps (environment : Option Environment) (body : Push) (switch : Switch) (now : Nat)
    (world : World) :
    Keeps world.requests (DefinitionService.push service environment body switch now world).requests := by
  generalize ran : applyDefinitionPush service.rules (removedIncarnation world.requests) environment
    body switch now world.tables = done
  rcases DefinitionService.push_committed ran with
    same | ⟨_, _, same⟩ | ⟨_, state, _, spawned, same⟩ <;> rw [same]
  · exact Keeps.refl _
  · exact Keeps.refl _
  · exact DefinitionService.spawnCreated_keeps spawned

theorem report_step_keeps (environment : Option Environment) (id : String) (body : Report)
    (now : Nat) (world : World) :
    Keeps world.requests (DefinitionService.report environment id body now world).requests := by
  have kept := report_keeps environment id body now world.requests
  generalize ran : report environment id body now world.requests = done at kept
  rcases DefinitionService.report_committed ran with same | ⟨_, state, _, spawned, same⟩ <;> rw [same]
  · exact Keeps.refl _
  · exact kept.trans (DefinitionService.spawnCreated_keeps spawned)

theorem step_proceeds {before after : World} {label : Label}
    (taken : step service before label = some after) : Proceeds before.requests after.requests := by
  have unchanged := (Keeps.refl before.requests).proceeds
  cases label with
  | push environment body switch now =>
      obtain rfl := Option.some.inj taken
      exact (push_keeps environment body switch now before).proceeds
  | report environment id body now =>
      obtain rfl := Option.some.inj taken
      exact (report_step_keeps environment id body now before).proceeds
  | admission agentId patch operator id now =>
      obtain rfl := Option.some.inj taken
      exact admission_proceeds before.tables agentId patch operator id now before.requests
  | creation agentId machineId agent brief requestedBy id now =>
      obtain rfl := Option.some.inj taken
      exact admitCreation_proceeds before.tables agentId machineId agent brief requestedBy id now
        before.requests
  | read now =>
      obtain rfl := Option.some.inj taken
      exact (expireUnclaimed_keeps now before.requests).proceeds
  | claim environment bridgeId machineId now =>
      obtain rfl := Option.some.inj taken
      exact (claim_keeps before.tables environment bridgeId machineId now before.requests).proceeds
  | beginRemoval party id =>
      obtain ⟨row, _, _, rfl⟩ := DefinitionService.beginRemoval_some taken
      exact unchanged
  | removalFirst party now =>
      rw [(DefinitionService.removalFirst_moved taken).requests]
      exact unchanged
  | removalSecond party now =>
      rw [(DefinitionService.removalSecond_moved taken).requests]
      exact unchanged
  | removalSettle party =>
      obtain ⟨id, why, _, rfl⟩ := DefinitionService.removalSettle_some taken
      exact (settleRemoval_keeps id why before.requests).proceeds
  | lifecycleRemoval id now =>
      rcases DefinitionService.finishLifecycleRemoval_some taken with rfl | ⟨row, _, _, rfl⟩ <;>
        exact unchanged
  | _ =>
      obtain rfl := Option.some.inj taken
      exact unchanged

/-! ### Whole runs -/

def OneOpen (requests : Requests) : Prop :=
  ∀ left right leftRow rightRow, requests.get? left = some leftRow →
    requests.get? right = some rightRow → leftRow.agentId = rightRow.agentId →
    leftRow.status.isOpen = true → rightRow.status.isOpen = true → left = right

def AllOwe (requests : Requests) : Prop := ∀ id row, requests.get? id = some row → Owes row

theorem asked_agentId {before after : Request} (same : after.asked = before.asked) :
    after.agentId = before.agentId := congrArg (fun asked => asked.target.agentId) same

theorem proceeds_oneOpen {before after : Requests} (proceeds : Proceeds before after)
    (one : OneOpen before) : OneOpen after := by
  refine Dict.OneMarked.next one ?_ ?_
  · intro id row found
    obtain ⟨later, present, moves⟩ := proceeds.moved id row found
    exact ⟨later, present, asked_agentId (moves_asked moves), moves_open moves⟩
  · intro id row found absent
    exact (proceeds.added id row found absent).2.2

theorem proceeds_owes {before after : Requests} (proceeds : Proceeds before after)
    (owe : AllOwe before) : AllOwe after := by
  intro id row found
  cases earlier : before.get? id with
  | none =>
      intro _
      exact (proceeds.added id row found earlier).2.1
  | some old =>
      obtain ⟨later, same, moves⟩ := proceeds.moved id old earlier
      rw [found, Option.some.injEq] at same
      subst same
      exact moves_owes moves (owe id old earlier)

theorem reached_requests {world : World} (run : Reaches (step service) anyStep initial world) :
    OneOpen world.requests ∧ AllOwe world.requests := by
  refine run.invariant (fun world => OneOpen world.requests ∧ AllOwe world.requests) ?_ ?_
  · constructor
    · intro left right leftRow rightRow found
      cases found
    · intro id row found
      cases found
  · rintro before label after ⟨one, owe⟩ _ taken
    have proceeds := step_proceeds taken
    exact ⟨proceeds_oneOpen proceeds one, proceeds_owes proceeds owe⟩

/-- A row that a run has reached only moves from then on. -/
theorem later_row {world later : World} (run : Reaches (step service) anyStep world later)
    {id : String} {row : Request} (found : world.requests.get? id = some row) :
    ∃ now, later.requests.get? id = some now ∧ Moves row now := by
  refine run.invariant (fun current => ∃ now, current.requests.get? id = some now ∧ Moves row now)
    ⟨row, found, .refl⟩ ?_
  rintro before label after ⟨middle, present, moves⟩ _ taken
  obtain ⟨now, after, rest⟩ := (step_proceeds taken).moved id middle present
  exact ⟨now, after, moves.trans rest⟩

theorem finished_stays {world later : World} (run : Reaches (step service) anyStep world later)
    {id : String} {row : Request} (found : world.requests.get? id = some row)
    (finished : row.status.isFinished = true) :
    ∃ now, later.requests.get? id = some now ∧ now.asked = row.asked ∧ now.told = row.told := by
  obtain ⟨now, present, moves⟩ := later_row run found
  exact ⟨now, present, moves_asked moves, moves_finished moves finished⟩

/-- A report of what a finished request already says: the stored record, and no row but an
overdue one changes. -/
theorem report_again {environment : Option Environment} {id : String} {body : Report} {now : Nat}
    {requests : Requests} {row : Request} (found : requests.get? id = some row)
    (finished : row.status.isFinished = true) (same : repeats body row = true)
    (fenced : fenceRefusal environment body.bridgeId body.machineId = "")
    (formed : reportProblems body = []) (named : row.machineId = strip body.machineId) :
    report environment id body now requests =
      (expireUnclaimed now requests, .ok (requestRecord id row)) ∧
    (expireUnclaimed now requests).get? id = some row := by
  have still := expire_finished now found finished
  refine ⟨?_, still⟩
  unfold report
  simp [fenced, formed, still, named, finished, same]

theorem reported_repeats {body : Report} {now : Nat} {row : Request}
    (told : body.status = some .done ∨ body.status = some .refused) :
    (reported body now row).status.isFinished = true ∧ repeats body (reported body now row) = true := by
  rcases told with told | told <;> simp [reported, repeats, resultOf, told, Status.isFinished]

/-- A finished row keeps what a report compares it with. -/
theorem told_repeats {body : Report} {row now : Request} (same : now.told = row.told)
    (repeated : repeats body row = true) : repeats body now = true := by
  have status := congrArg Reported.status same
  have incarnation := congrArg Reported.resultIncarnation same
  have revision := congrArg Reported.resultRevision same
  simp only [Request.told] at status incarnation revision
  rw [repeats, status, incarnation, revision]
  exact repeated

/-- An expiry that left a row other than expired left it as it was. -/
theorem expire_other {now : Nat} {requests : Requests} {id : String} {row : Request}
    (found : (expireUnclaimed now requests).get? id = some row) (other : row.status ≠ .expired) :
    requests.get? id = some row := by
  rw [expireUnclaimed, Dict.get?_mapValues, Option.map_eq_some_iff] at found
  obtain ⟨old, present, same⟩ := found
  unfold expire at same
  split at same
  · subst same
    exact absurd rfl other
  · exact same ▸ present

/-- A request that accepts a report was claimed by a host; one that answers again says what
the report says. -/
def AcceptsClaimed (requests : Requests) : Prop :=
  ∀ environment id body now record, (report environment id body now requests).2 = .ok record →
    ∃ row, requests.get? id = some row ∧
      (row.status = .claimed ∨ row.status = .superseded ∨
        row.status.isFinished = true ∧ repeats body row = true) ∧
      ∃ left, (report environment id body now requests).1.get? id = some left ∧
        left.status.isFinished = true ∧ repeats body left = true

theorem accepts_claimed (requests : Requests) : AcceptsClaimed requests := by
  intro environment id body now record answered
  rcases report_cases environment id body now requests with ⟨_, refusal, refused⟩ | ⟨other, _, how⟩
  · rw [refused] at answered
    cases answered
  cases how with
  | again row found finished same told left _ =>
      have other : row.status ≠ .expired := by
        intro expired
        rw [repeats, expired] at same
        rcases told with told | told <;> simp [told] at same
      refine ⟨row, expire_other found other, .inr (.inr ⟨finished, same⟩), row, ?_, finished, same⟩
      rw [left]
      exact found
  | first row found claimed told left _ =>
      have other : row.status ≠ .expired := by
        rcases claimed with claimed | claimed <;> simp [claimed]
      refine ⟨row, expire_other found other, ?_, reported body now row, ?_, reported_repeats told⟩
      · rcases claimed with claimed | superseded
        · exact .inl claimed
        · exact .inr (.inl superseded)
      · rw [left, Dict.get?_modify, if_pos rfl, found]
        rfl

/-- What a removal's request says the service did about it. -/
def SettledRemoval (consequence : Consequence) : Prop :=
  consequence = .removed ∨ ∃ why, consequence = .nothingRemoved why

theorem settled_removal_stays {consequence : Consequence} (settled : SettledRemoval consequence) :
    consequence ≠ .none ∧ consequence ≠ .pending ∧ consequence ≠ .spawnPending := by
  rcases settled with rfl | ⟨why, rfl⟩ <;> simp

theorem requests_state_machine {world : World} (run : Reaches (step service) anyStep initial world) :
    OneOpen world.requests ∧ AcceptsClaimed world.requests ∧
    ∀ later, Reaches (step service) anyStep world later → ∀ id row,
      world.requests.get? id = some row →
      ∃ now, later.requests.get? id = some now ∧ now.asked = row.asked ∧
        (row.status.isFinished = true → now.told = row.told) ∧
        (SettledRemoval row.consequence → now.consequence = row.consequence) ∧
        ∀ environment body time, row.status.isFinished = true → repeats body row = true →
          fenceRefusal environment body.bridgeId body.machineId = "" → reportProblems body = [] →
          row.machineId = strip body.machineId →
          report environment id body time later.requests =
              (expireUnclaimed time later.requests, .ok (requestRecord id now)) ∧
            (expireUnclaimed time later.requests).get? id = some now := by
  obtain ⟨one, owe⟩ := reached_requests run
  refine ⟨one, accepts_claimed world.requests, ?_⟩
  intro later continued id row found
  obtain ⟨now, present, moves⟩ := later_row continued found
  refine ⟨now, present, moves_asked moves, moves_finished moves, ?_, ?_⟩
  · intro settled
    exact moves_settled moves (owe id row found) (settled_removal_stays settled)
  · intro environment body time finished same fenced formed named
    have told := moves_finished moves finished
    have still : now.status.isFinished = true := by
      have status := congrArg Reported.status told
      simp only [Request.told] at status
      rw [status]
      exact finished
    refine report_again present still (told_repeats told same) fenced formed ?_
    have target := congrArg (fun asked => asked.target.machineId) (moves_asked moves)
    exact target.trans named

/-- A removal that its host reports, and that is then done and settled. -/
def settledRun : List Label :=
  [.beginRemoval 0 "r1", .removalFirst 0 60, .removalSecond 0 65, .removalSettle 0,
    DefinitionService.reportsDone "r1" 1 70]

def reportedRun : List Label :=
  [DefinitionService.pushes "s1" 1 [DefinitionService.coderEntry 1] 10] ++
    DefinitionService.asksRemoval "r1" 20 ++ [DefinitionService.reportsDone "r1" 1 50]

theorem requests_state_machine_removal : ∃ world later row now,
    Reaches (step DefinitionService.devbox) anyStep initial world ∧
    Reaches (step DefinitionService.devbox) anyStep world later ∧
    OneOpen world.requests ∧ world.requests.get? "r1" = some row ∧
    (row.status, row.consequence) = (.done, .pending) ∧ later.requests.get? "r1" = some now ∧
    (now.status, now.consequence) = (.done, .removed) ∧ now.told = row.told := by
  have executed : (exec (step DefinitionService.devbox) (fun _ _ => true) initial reportedRun).map
      (fun world => (world.requests.get? "r1").map fun row => (row.status, row.consequence)) =
        some (some (.done, .pending)) := by
    decide
  have settles : (exec (step DefinitionService.devbox) (fun _ _ => true) initial
      (reportedRun ++ settledRun)).map
      (fun world => (world.requests.get? "r1").map fun row => (row.status, row.consequence)) =
        some (some (.done, .removed)) := by
    decide
  obtain ⟨world, later, run, continued, before, after⟩ :=
    reaches_both _ _ _ _ _ _ (fun _ _ _ => trivial) executed settles
  rw [Option.map_eq_some_iff] at before after
  obtain ⟨row, found, told⟩ := before
  obtain ⟨now, present, settled⟩ := after
  obtain ⟨one, _, moves⟩ := requests_state_machine run
  obtain ⟨other, same, _, finished, _⟩ := moves later continued "r1" row found
  rw [present, Option.some.injEq] at same
  subst same
  have done : row.status.isFinished = true := by
    rw [(Prod.mk.inj told).1]
    rfl
  exact ⟨world, later, row, now, run, continued, one, found, told, present, settled, finished done⟩

/-! ### The start of a created agent -/

/-- Every start that was queued is of a done creation, at the lifetime its host reported, and
is the one its consequence names; and every start in the lifecycle queue is one of these. -/
structure SpawnedOnce (requests : Requests) (lifecycle : LifecycleRequests.Requests)
    (spawned : List Spawned) : Prop where
  owed : AllOwe requests
  told : ∀ start ∈ spawned, ∃ row, requests.get? start.creationId = some row ∧ row.status = .done ∧
    createdLifetime row = some start.lifetime ∧ row.consequence = .spawnQueued start.lifecycleId
  once : (spawned.map Spawned.creationId).Nodup
  queued : ∀ id row agentId requestedBy creationId, lifecycle.get? id = some row →
    row.intent = .created agentId requestedBy creationId →
    ⟨creationId, id, row.toTarget.lifetime⟩ ∈ spawned

theorem createdLifetime_moves {before after : Request} (moves : Moves before after)
    (done : before.status = .done) : createdLifetime after = createdLifetime before := by
  have finished : before.status.isFinished = true := by
    rw [done]
    rfl
  have told := congrArg Reported.resultIncarnation (moves_finished moves finished)
  have machine := congrArg (fun asked => asked.target.machineId) (moves_asked moves)
  have store := congrArg (fun asked => asked.target.storeId) (moves_asked moves)
  simp only [Request.told, Request.asked] at told machine store
  rw [createdLifetime, told, machine, store, createdLifetime]

theorem spawnedOnce_requests {before after : Requests} {lifecycle : LifecycleRequests.Requests}
    {spawned : List Spawned} (proceeds : Proceeds before after)
    (once : SpawnedOnce before lifecycle spawned) : SpawnedOnce after lifecycle spawned := by
  refine ⟨proceeds_owes proceeds once.owed, ?_, once.once, once.queued⟩
  intro start listed
  obtain ⟨row, found, done, lifetime, consequence⟩ := once.told start listed
  obtain ⟨later, present, moves⟩ := proceeds.moved start.creationId row found
  have finished : row.status.isFinished = true := by
    rw [done]
    rfl
  refine ⟨later, present, ?_, (createdLifetime_moves moves done).trans lifetime, ?_⟩
  · exact (congrArg Reported.status (moves_finished moves finished)).trans done
  · refine (moves_settled moves (once.owed _ row found) ?_).trans consequence
    simp [consequence]

theorem spawnedOnce_lifecycle {requests : Requests} {before after : LifecycleRequests.Requests}
    {spawned : List Spawned} (moved : DefinitionService.LifecycleMoved before after)
    (once : SpawnedOnce requests before spawned) : SpawnedOnce requests after spawned := by
  refine ⟨once.owed, once.told, once.once, ?_⟩
  intro id row agentId requestedBy creationId found created
  -- A row that was there keeps what it asks; one that a caller asks for is no creation's.
  have known : ∀ old, before.get? id = some old → row.asked = old.asked →
      (⟨creationId, id, row.toTarget.lifetime⟩ : Spawned) ∈ spawned := by
    intro old present same
    have intent : row.intent = old.intent := congrArg LifecycleRequests.Asked.intent same
    have target : row.toTarget = old.toTarget := congrArg LifecycleRequests.Asked.target same
    rw [target]
    exact once.queued id old agentId requestedBy creationId present (intent ▸ created)
  cases moved with
  | moved rows none =>
      cases earlier : before.get? id with
      | none =>
          rw [none id earlier] at found
          cases found
      | some old =>
          obtain ⟨later, present, moves⟩ := rows.moved id old earlier
          rw [found, Option.some.injEq] at present
          subst present
          exact known old earlier (LifecycleRequests.moves_asked moves)
  | asked new _ _ _ _ _ _ newRow queued waits intent =>
      obtain ⟨_, absent, rfl⟩ := LifecycleRequests.queueLifecycle_ok queued
      by_cases same : new = id
      · subst same
        rw [Dict.get?_set_self, Option.some.injEq] at found
        subst found
        rw [intent] at created
        cases created
      · rw [Dict.get?_set_ne _ _ same] at found
        exact known row found rfl

/-- An owed creation that is looked at is not among those that were started. -/
theorem owed_not_spawned {requests : Requests} {lifecycle : LifecycleRequests.Requests}
    {spawned : List Spawned} (once : SpawnedOnce requests lifecycle spawned) {id : String}
    {row : Request} (found : requests.get? id = some row)
    (owing : row.consequence = .spawnPending) : id ∉ spawned.map Spawned.creationId := by
  intro listed
  obtain ⟨start, member, rfl⟩ := List.mem_map.mp listed
  obtain ⟨old, present, _, _, consequence⟩ := once.told start member
  rw [found, Option.some.injEq] at present
  subst present
  rw [owing] at consequence
  cases consequence

theorem spawnedOnce_queued {requests : Requests} {lifecycle after : LifecycleRequests.Requests}
    {spawned : List Spawned} {entry : String × Request} {held : Definition} {now : Nat}
    (once : SpawnedOnce requests lifecycle spawned)
    (found : requests.get? entry.1 = some entry.2) (done : entry.2.status = .done)
    (owing : entry.2.consequence = .spawnPending)
    (lifetime : createdLifetime entry.2 = some held.lifetime)
    (inserted : LifecycleRequests.queueLifecycle lifecycle ("spawn-" ++ entry.1)
      (DefinitionService.spawnRow entry.1 entry.2 held now) = .ok after)
    (keeps : Keeps requests (requests.modify entry.1
      (DefinitionService.settleSpawn (.spawnQueued ("spawn-" ++ entry.1))))) :
    SpawnedOnce (requests.modify entry.1
        (DefinitionService.settleSpawn (.spawnQueued ("spawn-" ++ entry.1)))) after
      (spawned ++ [⟨entry.1, "spawn-" ++ entry.1, held.lifetime⟩]) := by
  have before := spawnedOnce_requests keeps.proceeds once
  have fresh := owed_not_spawned once found owing
  obtain ⟨_, absent, rfl⟩ := LifecycleRequests.queueLifecycle_ok inserted
  refine ⟨before.owed, ?_, ?_, ?_⟩
  · intro start listed
    rcases List.mem_append.mp listed with earlier | last
    · exact before.told start earlier
    · rw [List.mem_singleton.mp last]
      refine ⟨DefinitionService.settleSpawn (.spawnQueued ("spawn-" ++ entry.1)) entry.2, ?_, done,
        lifetime, rfl⟩
      rw [Dict.get?_modify, if_pos rfl, found]
      rfl
  · rw [List.map_append, List.nodup_append]
    refine ⟨before.once, List.nodup_singleton _, ?_⟩
    intro first member second single same
    rw [List.map_singleton, List.mem_singleton] at single
    rw [same, single] at member
    exact fresh member
  · intro id row agentId requestedBy creationId present created
    by_cases same : "spawn-" ++ entry.1 = id
    · subst same
      rw [Dict.get?_set_self, Option.some.injEq] at present
      subst present
      obtain ⟨_, _, rfl⟩ := LifecycleRequests.Intent.created.inj created
      exact List.mem_append_right _ (List.mem_singleton_self _)
    · rw [Dict.get?_set_ne _ _ same] at present
      exact List.mem_append_left _
        (before.queued id row agentId requestedBy creationId present created)

theorem spawnDone_once {definitions : Dict String Definition} {now : Nat} {before after : Spawning}
    {entry : String × Request} (once : SpawnedOnce before.requests before.lifecycle before.spawned)
    (found : before.requests.get? entry.1 = some entry.2) (status : entry.2.status = .done)
    (owing : entry.2.consequence = .spawnPending)
    (done : SpawnDone definitions now before entry after) :
    SpawnedOnce after.requests after.lifecycle after.spawned := by
  have keeps := DefinitionService.spawn_done_keeps found status owing done
  cases done with
  | unpublished => exact once
  | nothing why => exact spawnedOnce_requests keeps.proceeds once
  | queued held lifecycle _ lifetime inserted =>
      exact spawnedOnce_queued once found status owing lifetime inserted keeps

theorem step_spawnedOnce {before after : World} {label : Label}
    (taken : step service before label = some after)
    (once : SpawnedOnce before.requests before.lifecycle.requests before.spawned) :
    SpawnedOnce after.requests after.lifecycle.requests after.spawned := by
  rcases DefinitionService.step_lifecycle taken with
    ⟨moved, _, same⟩ | ⟨definitions, machineId, now, start, finish, spawned⟩
  · rw [same]
    exact spawnedOnce_lifecycle moved (spawnedOnce_requests (step_proceeds taken) once)
  · rw [spawned.requestsAfter, spawned.lifecycleAfter, spawned.spawnedAfter]
    refine DefinitionService.spawnCreated_invariant
      (fun state => SpawnedOnce state.requests state.lifecycle state.spawned) spawned.ran ?_ ?_
    · rw [spawned.lifecycle, spawned.spawned]
      exact spawnedOnce_requests spawned.kept.proceeds once
    · intro current entry next holds found status owing done
      exact spawnDone_once holds found status owing done

theorem created_starts_once {world : World} (run : Reaches (step service) anyStep initial world) :
    (world.spawned.map Spawned.creationId).Nodup ∧
    (∀ start ∈ world.spawned, ∃ row, world.requests.get? start.creationId = some row ∧
      row.status = .done ∧ createdLifetime row = some start.lifetime ∧
      row.consequence = .spawnQueued start.lifecycleId) ∧
    (∀ id row agentId requestedBy creationId, world.lifecycle.requests.get? id = some row →
      row.intent = .created agentId requestedBy creationId →
      ⟨creationId, id, row.toTarget.lifetime⟩ ∈ world.spawned) ∧
    ∀ left right leftRow rightRow agentId otherAgent requestedBy otherBy creationId,
      world.lifecycle.requests.get? left = some leftRow →
      world.lifecycle.requests.get? right = some rightRow →
      leftRow.intent = .created agentId requestedBy creationId →
      rightRow.intent = .created otherAgent otherBy creationId → left = right := by
  have once : SpawnedOnce world.requests world.lifecycle.requests world.spawned := by
    refine run.invariant
      (fun world => SpawnedOnce world.requests world.lifecycle.requests world.spawned) ?_ ?_
    · refine ⟨?_, ?_, .nil, ?_⟩
      · intro id row found
        cases found
      · intro start listed
        cases listed
      · intro id row _ _ _ found
        cases found
    · intro before label after holds _ taken
      exact step_spawnedOnce taken holds
  refine ⟨once.once, once.told, once.queued, ?_⟩
  intro left right leftRow rightRow agentId otherAgent requestedBy otherBy creationId leftFound
    rightFound leftIntent rightIntent
  have leftStart := once.queued left leftRow _ _ creationId leftFound leftIntent
  have rightStart := once.queued right rightRow _ _ creationId rightFound rightIntent
  have same := List.inj_on_of_nodup_map once.once leftStart rightStart rfl
  exact congrArg Spawned.lifecycleId same

/-- A creation whose report and whose push both come twice. -/
def createdRun : List Label :=
  [DefinitionService.pushes "s1" 1 [] 10,
    .creation "coder" "devbox" DefinitionService.coderAgent none "dashboard" "c1" 20,
    DefinitionService.claims 21, DefinitionService.reportsDone "c1" 1 30,
    DefinitionService.pushes "s1" 2 [DefinitionService.coderEntry 1] 40,
    DefinitionService.reportsDone "c1" 1 50,
    DefinitionService.pushes "s1" 2 [DefinitionService.coderEntry 1] 60]

theorem created_starts_once_coder : ∃ world,
    Reaches (step DefinitionService.devbox) anyStep initial world ∧
    world.spawned = [⟨"c1", "spawn-c1", ⟨"devbox", "s1", 1⟩⟩] ∧
    (world.spawned.map Spawned.creationId).Nodup := by
  have executed : (exec (step DefinitionService.devbox) (fun _ _ => true) initial createdRun).map
      World.spawned = some [⟨"c1", "spawn-c1", ⟨"devbox", "s1", 1⟩⟩] := by
    decide
  obtain ⟨world, run, seen⟩ := reaches_observed _ _ _ _ (fun _ _ _ => trivial) executed
  exact ⟨world, run, seen, (created_starts_once run).1⟩

end AifyComms.DefinitionRequestRuns
