import AifyComms.DefinitionRequestRuns
import Mathlib.Data.List.Fold
import Mathlib.Data.List.MinMax

/-!
Removals over whole runs: which agent a done removal may take, and which definitions a store
may bring back.
-/

namespace AifyComms.DefinitionRemovals
open PyText DefinitionSnapshot DefinitionPush DefinitionService Runs
open DefinitionRequests (Target removedIncarnation removalRefusal settledRefusal)

variable {service : Service}

/-! ### What a removal may take -/

/-- What an agent without a definition remembers to have lost, it held or remembered before. -/
def Remembers (before after : Tables) : Prop :=
  ∀ id lifetime, heldAt after id = none → withdrawnOf after id = some lifetime →
    heldAt before id = some lifetime ∨ heldAt before id = none ∧ withdrawnOf before id = some lifetime

theorem remembers_same {before after : Tables} (held : ∀ id, heldAt after id = heldAt before id)
    (withdrawn : ∀ id lifetime, withdrawnOf after id = some lifetime →
      withdrawnOf before id = some lifetime) : Remembers before after := by
  intro id lifetime gone remembered
  exact .inr ⟨(held id).symm.trans gone, withdrawn id lifetime remembered⟩

theorem push_remembers (rules : Rules) (taken : RemovalHistory) (environment : Option Environment)
    (body : Push) (switch : Switch) (now : Nat) (tables : Tables) :
    Remembers tables (applyDefinitionPush rules taken environment body switch now tables).1 := by
  rcases push_cases rules taken environment body switch now tables with
    ⟨unmoved, _⟩ | ⟨result, _, _, _, advanced⟩
  · refine remembers_same ?_ ?_
    · intro id
      rw [heldAt, unmoved.definitions, heldAt]
    · intro id lifetime remembered
      exact (unmoved.withdrawn id) ▸ remembered
  · intro id lifetime gone remembered
    cases advanced.pushed id with
    | kept held withdrawn => exact .inr ⟨held ▸ gone, withdrawn ▸ remembered⟩
    | installed entry =>
        obtain ⟨entry, _, _, _, now⟩ := entry
        rw [gone] at now
        cases now
    | withdrawn lost held _ rememberedIs =>
        rw [rememberedIs lifetime remembered]
        exact .inl held

/-- No definition is released while its agent remembers the withdrawal of another one. -/
def ReleasesRemembered (world : World) (label : Label) : Prop :=
  ∀ agentId machineId held remembered, label = .release agentId machineId →
    world.tables.definitions.get? agentId = some held → held.machineId = strip machineId →
    withdrawnOf world.tables agentId = some remembered → remembered = held.lifetime

theorem release_remembers {world : World} {agentId machineId : String}
    (allowed : ReleasesRemembered world (.release agentId machineId)) :
    Remembers world.tables (release agentId machineId world.tables).1 := by
  rcases release_cases agentId machineId world.tables with same | ⟨held, found, owner, same⟩
  · rw [same]
    exact remembers_same (fun _ => rfl) fun _ _ remembered => remembered
  · rw [same]
    intro id lifetime gone remembered
    have kept : withdrawnOf world.tables id = some lifetime := by
      rw [← remembered]
      simp only [withdrawnOf, Dict.get?_modify]
      split
      · cases world.tables.agents.get? id <;> rfl
      · rfl
    by_cases same : id = agentId
    · subst same
      left
      rw [heldAt, found, Option.map_some, allowed id machineId held lifetime rfl found owner kept]
    · refine .inr ⟨?_, kept⟩
      simp only [heldAt, Dict.get?_erase, if_neg same] at gone
      exact gone

theorem agents_remember {tables : Tables} {agents : Dict String AgentRow}
    {tombstones : Dict String Tombstone}
    (withdrawn : ∀ id lifetime, (agents.get? id).bind AgentRow.definitionWithdrawn = some lifetime →
      withdrawnOf tables id = some lifetime) :
    Remembers tables { tables with agents := agents, tombstones := tombstones } :=
  remembers_same (fun _ => rfl) withdrawn

theorem removeAgent_remembers (tables : Tables) (agentId : String)
    (tombstones : Dict String Tombstone) :
    Remembers tables
      { tables with agents := tables.agents.erase agentId, tombstones := tombstones } := by
  apply agents_remember
  intro id lifetime remembered
  rw [Dict.get?_erase] at remembered
  split at remembered
  · cases remembered
  · exact remembered

/-- What is held now was held last, and so was what an agent without a definition remembers to
have lost; a removal under way is for the definition its request names. -/
structure Memory (world : World) : Prop where
  held : ∀ id lifetime, heldAt world.tables id = some lifetime → world.lastHeld id = some lifetime
  withdrawn : ∀ id lifetime, heldAt world.tables id = none →
    withdrawnOf world.tables id = some lifetime → world.lastHeld id = some lifetime
  removals : ∀ party id target, world.removals party = some (.begun id target) ∨
    world.removals party = some (.stopping id target) →
    ∃ row, world.requests.get? id = some row ∧ row.toTarget = target

/-- The removal was under way, or starts for a request that is there. -/
def Begins (world : World) (party : Nat) (id : String) (target : Target) : Prop :=
  (world.removals party = some (.begun id target) ∨
    world.removals party = some (.stopping id target)) ∨
  ∃ row, world.requests.get? id = some row ∧ row.toTarget = target

/-- Each step leaves the tables, or commits ones that remember, and moves no removal to
another request. -/
structure Committed (before after : World) : Prop where
  tables : after.tables = before.tables ∧ after.lastHeld = before.lastHeld ∨
    Remembers before.tables after.tables ∧
      after.lastHeld = fun id => (heldAt after.tables id).or (before.lastHeld id)
  removals : ∀ party id target, after.removals party = some (.begun id target) ∨
    after.removals party = some (.stopping id target) → Begins before party id target

theorem same_removals {before after : World} (same : after.removals = before.removals) :
    ∀ party id target, after.removals party = some (.begun id target) ∨
      after.removals party = some (.stopping id target) → Begins before party id target := by
  intro party id target running
  exact .inl (same ▸ running)

theorem updated_removals {before after : World} {moved : Nat} {now : Option Removal}
    (same : after.removals = Function.update before.removals moved now)
    (phase : ∀ id target, now = some (.begun id target) ∨ now = some (.stopping id target) →
      Begins before moved id target) :
    ∀ party id target, after.removals party = some (.begun id target) ∨
      after.removals party = some (.stopping id target) → Begins before party id target := by
  intro party id target running
  rw [same] at running
  rcases running with running | running
  · rcases update_some running with ⟨rfl, phaseNow⟩ | earlier
    · exact phase id target (.inl phaseNow)
    · exact .inl (.inl earlier)
  · rcases update_some running with ⟨rfl, phaseNow⟩ | earlier
    · exact phase id target (.inr phaseNow)
    · exact .inl (.inr earlier)

theorem committed_memory {before after : World} (committed : Committed before after)
    (requests : DefinitionRequests.Proceeds before.requests after.requests)
    (memory : Memory before) : Memory after := by
  obtain ⟨tables, removals⟩ := committed
  refine ⟨?_, ?_, ?_⟩
  · intro id lifetime held
    rcases tables with ⟨same, last⟩ | ⟨_, last⟩
    · rw [last]
      exact memory.held id lifetime (same ▸ held)
    · simp [last, held]
  · intro id lifetime gone remembered
    rcases tables with ⟨same, last⟩ | ⟨remembers, last⟩
    · rw [last]
      exact memory.withdrawn id lifetime (same ▸ gone) (same ▸ remembered)
    · simp only [last, gone, Option.none_or]
      rcases remembers id lifetime gone remembered with held | ⟨none, earlier⟩
      · exact memory.held id lifetime held
      · exact memory.withdrawn id lifetime none earlier
  · intro party id target running
    have known : ∃ row, before.requests.get? id = some row ∧ row.toTarget = target := by
      rcases removals party id target running with earlier | started
      · exact memory.removals party id target earlier
      · exact started
    obtain ⟨row, found, same⟩ := known
    obtain ⟨later, present, moves⟩ := requests.moved id row found
    have target := congrArg DefinitionRequests.Asked.target (DefinitionRequests.moves_asked moves)
    exact ⟨later, present, target.trans same⟩

theorem idle_committed {before after : World} (tables : after.tables = before.tables)
    (last : after.lastHeld = before.lastHeld) (removals : after.removals = before.removals) :
    Committed before after :=
  ⟨.inl ⟨tables, last⟩, same_removals removals⟩

theorem commit_committed {before : World} {tables : Tables} (remembers : Remembers before.tables tables) :
    Committed before (before.commit tables) :=
  ⟨.inr ⟨remembers, rfl⟩, same_removals rfl⟩

theorem finished_committed {before : World} {party : Nat} {id why : String} :
    Committed before (before.removal party (some (.finished id why))) := by
  refine ⟨.inl ⟨rfl, rfl⟩, updated_removals rfl ?_⟩
  rintro other target (started | started) <;> cases started

theorem deleteAgent_committed (before : World) (party : Nat) (id : String) (target : Target)
    (now : Nat) : Committed before (before.deleteAgent party id target now) := by
  unfold World.deleteAgent
  split
  · exact finished_committed
  · refine ⟨.inr ⟨removeAgent_remembers before.tables target.agentId _, rfl⟩,
      updated_removals rfl ?_⟩
    rintro other target (started | started) <;> cases started

theorem removalFirst_committed {party now : Nat} {before after : World}
    (taken : removalFirst party now before = some after) : Committed before after := by
  unfold removalFirst at taken
  split at taken
  next id target begun =>
    dsimp only at taken
    split at taken
    · obtain rfl := Option.some.inj taken
      exact finished_committed
    split at taken
    · obtain rfl := Option.some.inj taken
      refine ⟨.inr ⟨?_, rfl⟩, updated_removals rfl ?_⟩
      · apply agents_remember
        intro other lifetime remembered
        rw [← remembered, withdrawnOf, Dict.get?_modify]
        split
        · cases before.tables.agents.get? other <;> rfl
        · rfl
      · rintro other another (started | started)
        · cases started
        · cases started
          exact .inl (.inl begun)
    · obtain rfl := Option.some.inj taken
      exact deleteAgent_committed before party id target now
  · cases taken

theorem removalSecond_committed {party now : Nat} {before after : World}
    (taken : removalSecond party now before = some after) : Committed before after := by
  unfold removalSecond at taken
  split at taken
  next id target stopping =>
    dsimp only at taken
    split at taken
    · obtain rfl := Option.some.inj taken
      exact finished_committed
    · obtain rfl := Option.some.inj taken
      exact deleteAgent_committed before party id target now
  · cases taken

theorem push_committed_memory (environment : Option Environment) (body : Push) (switch : Switch)
    (now : Nat) (world : World) :
    Committed world (push service environment body switch now world) := by
  have remembers := push_remembers service.rules (removedIncarnation world.requests) environment
    body switch now world.tables
  generalize ran : applyDefinitionPush service.rules (removedIncarnation world.requests) environment
    body switch now world.tables = done at remembers
  rcases push_committed ran with same | ⟨_, _, same⟩ | ⟨_, _, _, _, same⟩ <;> rw [same]
  · exact idle_committed rfl rfl rfl
  · exact commit_committed remembers
  · exact ⟨.inr ⟨remembers, rfl⟩, same_removals rfl⟩

theorem step_committed {before after : World} {label : Label}
    (allowed : ReleasesRemembered before label) (taken : step service before label = some after) :
    Committed before after := by
  cases label with
  | push environment body switch now =>
      obtain rfl := Option.some.inj taken
      exact push_committed_memory environment body switch now before
  | release agentId machineId =>
      obtain rfl := Option.some.inj taken
      exact commit_committed (release_remembers allowed)
  | reset machineId =>
      obtain rfl := Option.some.inj taken
      exact commit_committed (remembers_same (fun _ => rfl) fun _ _ remembered => remembered)
  | report environment id body now =>
      obtain rfl := Option.some.inj taken
      generalize ran : DefinitionRequests.report environment id body now before.requests = done
      rcases report_committed ran with same | ⟨_, _, _, _, same⟩ <;> rw [same] <;>
        exact idle_committed rfl rfl rfl
  | beginRemoval party id =>
      obtain ⟨row, found, _, rfl⟩ := beginRemoval_some taken
      refine ⟨.inl ⟨rfl, rfl⟩, updated_removals rfl ?_⟩
      rintro other target (started | started)
      · cases started
        exact .inr ⟨row, found, rfl⟩
      · cases started
  | removalFirst party now => exact removalFirst_committed taken
  | removalSecond party now => exact removalSecond_committed taken
  | removalSettle party =>
      obtain ⟨id, why, _, rfl⟩ := removalSettle_some taken
      refine ⟨.inl ⟨rfl, rfl⟩, updated_removals rfl ?_⟩
      rintro other target (started | started) <;> cases started
  | removalStops party =>
      obtain rfl := Option.some.inj taken
      refine ⟨.inl ⟨rfl, rfl⟩, updated_removals rfl ?_⟩
      rintro other target (started | started) <;> cases started
  | lifecycleRemoval id now =>
      rcases finishLifecycleRemoval_some taken with rfl | ⟨row, _, _, rfl⟩
      · exact idle_committed rfl rfl rfl
      · exact ⟨.inr ⟨removeAgent_remembers before.tables row.agentId _, rfl⟩, same_removals rfl⟩
  | agentWritten id row =>
      obtain rfl := Option.some.inj taken
      refine commit_committed (agents_remember ?_)
      intro other lifetime remembered
      rw [Dict.get?_set] at remembered
      split at remembered
      next same =>
        rw [← remembered, ← same]
        rfl
      · exact remembered
  | agentRemoved id actor reason now =>
      obtain rfl := Option.some.inj taken
      exact ⟨.inr ⟨removeAgent_remembers before.tables id _, rfl⟩, same_removals rfl⟩
  | tombstoneCleared id =>
      obtain rfl := Option.some.inj taken
      exact commit_committed (remembers_same (fun _ => rfl) fun _ _ remembered => remembered)
  | _ =>
      obtain rfl := Option.some.inj taken
      exact idle_committed rfl rfl rfl

theorem reached_memory {world : World}
    (run : Reaches (step service) ReleasesRemembered initial world) : Memory world := by
  refine run.invariant Memory ?_ ?_
  · refine ⟨?_, ?_, ?_⟩
    · intro id lifetime held
      cases held
    · intro id lifetime _ remembered
      cases remembered
    · rintro party id target (running | running) <;> cases running
  · intro before label after memory allowed taken
    exact committed_memory (step_committed allowed taken)
      (DefinitionRequestRuns.step_proceeds taken) memory

/-- A removal whose fence lets it, of an agent that is there, is for the definition held last. -/
theorem fenced_lifetime {world : World} (memory : Memory world) {target : Target}
    (fenced : removalRefusal world.tables target = "")
    (present : world.tables.agents.get? target.agentId ≠ none) :
    world.lastHeld target.agentId = some target.lifetime := by
  unfold removalRefusal at fenced
  split at fenced
  next found held =>
    split at fenced
    next same => exact same ▸ memory.held target.agentId found held
    · simp [DefinitionRequests.movedText, String.join] at fenced
  next gone =>
    split at fenced
    next row found =>
      split at fenced
      next remembered =>
        refine memory.withdrawn target.agentId target.lifetime gone ?_
        rw [withdrawnOf, found]
        exact remembered
      · simp at fenced
    next absent => exact absurd absent present

theorem fence_custody {world : World} {id : String} {target : Target}
    (fenced : ¬ removalFence world id target ≠ "") : removalRefusal world.tables target = "" := by
  rw [not_not, removalFence] at fenced
  split at fenced
  next settled => exact absurd fenced settled
  · exact fenced

/-- The definition a removal step is for, as its request names it. -/
def removalTarget (world : World) : Label → Option Target
  | .removalFirst party _ =>
      match world.removals party with
      | some (.begun id _) => (world.requests.get? id).map DefinitionRequests.Request.toTarget
      | _ => none
  | .removalSecond party _ =>
      match world.removals party with
      | some (.stopping id _) => (world.requests.get? id).map DefinitionRequests.Request.toTarget
      | _ => none
  | .lifecycleRemoval id _ =>
      (world.lifecycle.requests.get? id).map LifecycleRequests.Request.toTarget
  | _ => none

/-- The step deletes the agent. -/
def Deletes (before after : World) (agentId : String) : Prop :=
  before.tables.agents.get? agentId ≠ none ∧ after.tables.agents.get? agentId = none

theorem removalFirst_lifetime {world after : World} {party now : Nat} {target : Target}
    (memory : Memory world) (taken : removalFirst party now world = some after)
    (removal : removalTarget world (.removalFirst party now) = some target)
    (deleted : Deletes world after target.agentId) :
    world.lastHeld target.agentId = some target.lifetime := by
  unfold removalFirst at taken
  split at taken
  next id begunFor begun =>
    obtain ⟨row, found, same⟩ := memory.removals party id begunFor (.inl begun)
    simp only [removalTarget, begun, found, Option.map_some, Option.some.injEq] at removal
    rw [same] at removal
    subst removal
    dsimp only at taken
    split at taken
    · obtain rfl := Option.some.inj taken
      exact absurd deleted.2 deleted.1
    next fenced =>
      split at taken
      · obtain rfl := Option.some.inj taken
        refine absurd ?_ deleted.1
        have gone := deleted.2
        simp only [World.removal, World.commit, Dict.get?_modify, if_true, Option.map_eq_none_iff]
          at gone
        exact gone
      · exact fenced_lifetime memory (fence_custody fenced) deleted.1
  · cases taken

theorem removalSecond_lifetime {world after : World} {party now : Nat} {target : Target}
    (memory : Memory world) (taken : removalSecond party now world = some after)
    (removal : removalTarget world (.removalSecond party now) = some target)
    (deleted : Deletes world after target.agentId) :
    world.lastHeld target.agentId = some target.lifetime := by
  unfold removalSecond at taken
  split at taken
  next id begunFor stopping =>
    obtain ⟨row, found, same⟩ := memory.removals party id begunFor (.inr stopping)
    simp only [removalTarget, stopping, found, Option.map_some, Option.some.injEq] at removal
    rw [same] at removal
    subst removal
    dsimp only at taken
    split at taken
    · obtain rfl := Option.some.inj taken
      exact absurd deleted.2 deleted.1
    next fenced => exact fenced_lifetime memory (fence_custody fenced) deleted.1
  · cases taken

theorem late_removal_spares_successor {world after : World} {label : Label} {target : Target}
    (run : Reaches (step service) ReleasesRemembered initial world)
    (taken : step service world label = some after)
    (removal : removalTarget world label = some target)
    (deleted : Deletes world after target.agentId) :
    world.lastHeld target.agentId = some target.lifetime := by
  have memory := reached_memory run
  cases label with
  | removalFirst party now => exact removalFirst_lifetime memory taken removal deleted
  | removalSecond party now => exact removalSecond_lifetime memory taken removal deleted
  | lifecycleRemoval id now =>
      rcases finishLifecycleRemoval_some taken with rfl | ⟨row, found, fenced, _⟩
      · exact absurd deleted.2 deleted.1
      · simp only [removalTarget, found, Option.map_some, Option.some.injEq] at removal
        subst removal
        exact fenced_lifetime memory fenced deleted.1
  | _ => cases removal

/-- The agent is defined, its removal asked for, and `more` happens before its removal is
done and begun. -/
def removalRun (more : List Label) : List Label :=
  [pushes "s1" 1 [coderEntry 1] 10] ++ asksRemoval "r1" 20 ++ more ++
    [reportsDone "r1" 1 50, .beginRemoval 0 "r1", .removalFirst 0 60]

def removalSeen (world : World) : Bool × Option Lifetime × Option Target :=
  ((world.tables.agents.get? "coder").isSome, world.lastHeld "coder",
    removalTarget world (.removalSecond 0 70))

theorem deletes_seen {before after : World} (present : (before.tables.agents.get? "coder").isSome = true)
    (gone : (after.tables.agents.get? "coder").isSome = false) : Deletes before after "coder" := by
  constructor
  · intro absent
    rw [absent] at present
    cases present
  · exact Option.not_isSome_iff_eq_none.mp (Bool.eq_false_iff.mp gone)

def withoutRelease (_ : World) : Label → Bool
  | .release _ _ => false
  | _ => true

theorem withoutRelease_sound (world : World) (label : Label)
    (granted : withoutRelease world label = true) : ReleasesRemembered world label := by
  rintro agentId machineId held remembered rfl
  cases granted

theorem late_removal_spares_successor_withdrawn : ∃ world after target,
    Reaches (step devbox) ReleasesRemembered initial world ∧
    step devbox world (.removalSecond 0 70) = some after ∧
    removalTarget world (.removalSecond 0 70) = some target ∧
    Deletes world after target.agentId ∧ world.lastHeld target.agentId = some target.lifetime := by
  have executed : (exec (step devbox) withoutRelease initial
      (removalRun [pushes "s1" 2 [] 30])).map removalSeen =
        some (true, some ⟨"devbox", "s1", 1⟩, some ⟨"coder", "devbox", "s1", 1, 1⟩) := by
    decide
  have deletes : (exec (step devbox) withoutRelease initial
      (removalRun [pushes "s1" 2 [] 30] ++ [Label.removalSecond 0 70])).map removalSeen =
        some (false, some ⟨"devbox", "s1", 1⟩, none) := by
    decide
  obtain ⟨world, after, run, _, taken, before, later⟩ :=
    reaches_last _ _ _ _ _ _ withoutRelease_sound executed deletes
  simp only [removalSeen, Prod.mk.injEq] at before later
  have deleted := deletes_seen before.1 later.1
  exact ⟨world, after, _, run, taken, before.2.2, deleted,
    late_removal_spares_successor run taken before.2.2 deleted⟩

def redefined : List Label :=
  [pushes "s1" 2 [] 30, pushes "s1" 3 [coderEntry 2] 40, .release "coder" "devbox"]

/-- The row of an agent that was defined again keeps the withdrawal of its first definition.
Once the second is released, the removal of the first finds it there and takes the agent. -/
theorem late_removal_takes_successor : ∃ world after target,
    Reaches (step devbox) anyStep initial world ∧
    step devbox world (.removalSecond 0 70) = some after ∧
    removalTarget world (.removalSecond 0 70) = some target ∧
    Deletes world after target.agentId ∧
    world.lastHeld target.agentId = some ⟨"devbox", "s1", 2⟩ ∧
    target.lifetime = ⟨"devbox", "s1", 1⟩ := by
  have executed : (exec (step devbox) (fun _ _ => true) initial (removalRun redefined)).map
      removalSeen =
        some (true, some ⟨"devbox", "s1", 2⟩, some ⟨"coder", "devbox", "s1", 1, 1⟩) := by
    decide
  have deletes : (exec (step devbox) (fun _ _ => true) initial
      (removalRun redefined ++ [Label.removalSecond 0 70])).map removalSeen =
        some (false, some ⟨"devbox", "s1", 2⟩, none) := by
    decide
  obtain ⟨world, after, run, _, taken, before, later⟩ :=
    reaches_last _ _ _ _ _ _ (fun _ _ _ => trivial) executed deletes
  simp only [removalSeen, Prod.mk.injEq] at before later
  exact ⟨world, after, _, run, taken, before.2.2, deletes_seen before.1 later.1, before.2.1, rfl⟩

/-! ### What a removal keeps out -/

/-- What the service owes or did about a done removal. -/
def RemovalTold (row : DefinitionRequests.Request) : Prop :=
  row.patch = .remove → row.status = .done →
    row.consequence = .pending ∨ row.consequence = .removed ∨
      ∃ why, row.consequence = .nothingRemoved why

theorem move_removalTold {before after : DefinitionRequests.Request}
    (move : DefinitionRequests.Move before after) (told : RemovalTold before) : RemovalTold after := by
  intro removal done
  cases move with
  | expire now waiting => cases done
  | settleUndeliverable reason now waiting =>
      unfold DefinitionRequests.settleUndeliverable at done
      split at done <;> cases done
  | markClaimed now waiting => cases done
  | report body now claimed reported =>
      rcases reported with reported | reported
      · left
        have patch : before.patch = .remove := removal
        simp [DefinitionRequests.reported, DefinitionRequests.owed, reported,
          DefinitionRequests.isRemoval, patch]
      · simp [DefinitionRequests.reported, reported] at done
  | settle why owing =>
      right
      rw [DefinitionRequests.settle, if_pos owing]
      dsimp only
      split
      · exact .inl rfl
      · exact .inr ⟨why, rfl⟩
  | spawn consequence done owing settled =>
      rcases told removal done with pending | removed | ⟨why, nothing⟩
      · rw [owing] at pending
        cases pending
      · rw [owing] at removed
        cases removed
      · rw [owing] at nothing
        cases nothing

theorem moves_removalTold {before after : DefinitionRequests.Request}
    (moves : DefinitionRequests.Moves before after) (told : RemovalTold before) :
    RemovalTold after := by
  induction moves with
  | refl => exact told
  | tail _ move ih => exact move_removalTold move ih

theorem reached_removalTold {world : World} (run : Reaches (step service) anyStep initial world) :
    ∀ id row, world.requests.get? id = some row → RemovalTold row := by
  refine run.invariant
    (fun world => ∀ id row, world.requests.get? id = some row → RemovalTold row) ?_ ?_
  · intro id row found
    cases found
  · intro before label after told _ taken id row found
    have proceeds := DefinitionRequestRuns.step_proceeds taken
    cases earlier : before.requests.get? id with
    | none =>
        intro _ done
        rw [(proceeds.added id row found earlier).1] at done
        cases done
    | some old =>
        obtain ⟨later, same, moves⟩ := proceeds.moved id old earlier
        rw [found, Option.some.injEq] at same
        subst same
        exact moves_removalTold moves (told id old earlier)

/-- A done removal that took its definition, or still may, is counted. -/
theorem removedIncarnation_le {requests : DefinitionRequests.Requests} {id : String}
    {row : DefinitionRequests.Request} (found : requests.get? id = some row)
    (removal : row.patch = .remove) (done : row.status = .done)
    (counted : row.consequence = .pending ∨ row.consequence = .removed) {agentId : String}
    (named : noCase row.agentId agentId = true) :
    row.expectedIncarnation ≤ removedIncarnation requests agentId row.storeId := by
  unfold removedIncarnation
  rw [List.foldl_eq_foldr]
  refine List.le_max_of_le' 0 ?_ le_rfl
  refine List.mem_map.mpr ⟨(id, row), List.mem_filter.mpr ⟨?_, ?_⟩, rfl⟩
  · exact (Dict.get?_eq_some_iff requests id row).mp found
  · rcases counted with counted | counted <;>
      simp [named, done, counted, removal, DefinitionRequests.Patch.removes]

/-- An entry that a snapshot was accepted with counts its incarnation from 1. -/
theorem accepted_incarnation {rules : Rules} {entries : Option (List Entry)} {claimed : String}
    (accepted : snapshotProblems rules entries claimed = []) {entry : Defined}
    (listed : .valid entry ∈ entries.getD []) : 1 ≤ entry.incarnation := by
  obtain ⟨list, rfl, each, _⟩ := snapshot_accepted accepted
  have fine := each (.valid entry) listed
  simp only [entryProblems, List.append_eq_nil_iff] at fine
  have counter := fine.1.1.1
  unfold counterProblem at counter
  split at counter
  next counts =>
    rw [isCounter, Bool.and_eq_true, decide_eq_true_eq] at counts
    exact counts.1
  · cases counter

theorem installed_newer {rules : Rules} {taken : RemovalHistory} {machineId storeId id : String}
    {body : Push} {after : Tables} {removed : Nat}
    (accepted : snapshotProblems rules body.entries (body.snapshotDigest.getD "") = [])
    (installed : Installed taken machineId storeId (body.entries.getD []) id after)
    (counted : removed ≤ taken id storeId) :
    ∃ incarnation, heldAt after id = some ⟨machineId, storeId, incarnation⟩ ∧
      removed < incarnation := by
  obtain ⟨entry, listed, _, newer, held⟩ := installed
  refine ⟨entry.incarnation, held, ?_⟩
  have positive := accepted_incarnation accepted listed
  omega

/-- A push from a store a removal is counted for: what it says it applied is newer, and
what is held after it at no newer incarnation was held before it. -/
theorem push_keeps_out {environment : Option Environment} {body : Push} {switch : Switch}
    {now : Nat} {world : World} {agentId : String} {removed : Nat}
    (counted : removed ≤
      removedIncarnation world.requests agentId (strip (body.storeId.getD ""))) :
    (∀ result, (applyDefinitionPush service.rules (removedIncarnation world.requests) environment
        body switch now world.tables).2 = .ok result → agentId ∈ result.applied →
      ∃ machineId incarnation, heldAt (applyDefinitionPush service.rules
          (removedIncarnation world.requests) environment body switch now world.tables).1 agentId =
        some ⟨machineId, strip (body.storeId.getD ""), incarnation⟩ ∧ removed < incarnation) ∧
    ∀ lifetime, heldAt (push service environment body switch now world).tables agentId =
        some lifetime → lifetime.incarnation ≤ removed →
      heldAt world.tables agentId = some lifetime := by
  have cases := push_cases service.rules (removedIncarnation world.requests) environment body
    switch now world.tables
  have replay := replay_applied service.rules (removedIncarnation world.requests) environment body
    switch now world.tables
  generalize ran : applyDefinitionPush service.rules (removedIncarnation world.requests) environment
    body switch now world.tables = done at cases replay
  constructor
  · intro result answered listed
    rcases cases with ⟨_, replays⟩ | ⟨other, accepted, _, fine, advanced⟩
    · rw [replay result answered (replays result answered)] at listed
      cases listed
    · rw [answered, Except.ok.injEq] at accepted
      subst accepted
      exact ⟨_, installed_newer fine (advanced.installed agentId listed) counted⟩
  · intro lifetime held older
    have kept : heldAt done.1 agentId = some lifetime → heldAt world.tables agentId =
        some lifetime := by
      intro after
      rcases cases with ⟨unmoved, _⟩ | ⟨result, _, _, fine, advanced⟩
      · rw [heldAt, unmoved.definitions] at after
        exact after
      · cases advanced.pushed agentId with
        | kept same _ => exact same ▸ after
        | installed entry =>
            obtain ⟨incarnation, now, newer⟩ := installed_newer fine entry counted
            rw [now, Option.some.injEq] at after
            subst after
            exact absurd older (not_le.mpr newer)
        | withdrawn lost _ gone _ =>
            rw [gone] at after
            cases after
    rcases push_committed ran with same | ⟨_, _, same⟩ | ⟨_, _, _, _, same⟩ <;> rw [same] at held
    · exact held
    · exact kept held
    · exact kept held

theorem removed_stays_out {world later : World} {id : String} {row : DefinitionRequests.Request}
    (run : Reaches (step service) anyStep initial world)
    (found : world.requests.get? id = some row) (removal : row.patch = .remove)
    (done : row.status = .done) (continued : Reaches (step service) anyStep world later) :
    ∃ now, later.requests.get? id = some now ∧ now.status = .done ∧ now.toTarget = row.toTarget ∧
      (row.consequence = .removed → now.consequence = .removed) ∧
      (now.consequence = .pending ∨ now.consequence = .removed ∨
        ∃ why, now.consequence = .nothingRemoved why) ∧
      (now.consequence = .pending ∨ now.consequence = .removed →
        ∀ environment body switch time agentId, strip (body.storeId.getD "") = row.storeId →
          noCase row.agentId agentId = true →
          (∀ result, (applyDefinitionPush service.rules (removedIncarnation later.requests)
              environment body switch time later.tables).2 = .ok result →
            agentId ∈ result.applied →
            ∃ machineId incarnation, heldAt (applyDefinitionPush service.rules
                (removedIncarnation later.requests) environment body switch time later.tables).1
                agentId = some ⟨machineId, row.storeId, incarnation⟩ ∧
              row.expectedIncarnation < incarnation) ∧
          ∀ lifetime, heldAt (push service environment body switch time later).tables agentId =
              some lifetime → lifetime.incarnation ≤ row.expectedIncarnation →
            heldAt later.tables agentId = some lifetime) := by
  obtain ⟨now, present, moves⟩ := DefinitionRequestRuns.later_row continued found
  have finished : row.status.isFinished = true := by
    rw [done]
    rfl
  have asked := DefinitionRequests.moves_asked moves
  have target : now.toTarget = row.toTarget := congrArg DefinitionRequests.Asked.target asked
  have patch : now.patch = .remove := (congrArg DefinitionRequests.Asked.patch asked).trans removal
  have status : now.status = .done :=
    (congrArg DefinitionRequests.Reported.status
      (DefinitionRequests.moves_finished moves finished)).trans done
  refine ⟨now, present, status, target, ?_, ?_, ?_⟩
  · intro removed
    have settled := DefinitionRequestRuns.settled_removal_stays (.inl removed)
    exact (DefinitionRequests.moves_settled moves (fun other => absurd done other) settled).trans
      removed
  · exact reached_removalTold (run.trans continued) id now present patch status
  · intro counted environment body switch time agentId store named
    have same : noCase now.agentId agentId = true := by
      rw [congrArg Target.agentId target]
      exact named
    have taken := removedIncarnation_le present patch status counted same
    rw [congrArg Target.storeId target, congrArg Target.expectedIncarnation target] at taken
    rw [← store] at taken ⊢
    exact push_keeps_out taken

def backPush (revision : Nat) (world : World) : World :=
  push devbox (some devboxEnvironment) (pushBody "s1" revision [coderEntry 1]) (fun _ => none) 80
    world

structure RequestFacts where
  patch : DefinitionRequests.Patch
  status : DefinitionRequests.Status
  consequence : DefinitionRequests.Consequence
  target : Target
  deriving DecidableEq

/-- What is held, what the store's next push brings back, and the request. -/
def requestSeen (revision : Nat) (world : World) :
    Option Lifetime × Option Lifetime × Option RequestFacts :=
  (heldAt world.tables "coder", heldAt (backPush revision world).tables "coder",
    (world.requests.get? "r1").map fun row =>
      ⟨row.patch, row.status, row.consequence, row.toTarget⟩)

theorem request_seen {revision : Nat} {world : World} {patch : DefinitionRequests.Patch}
    {status : DefinitionRequests.Status} {consequence : DefinitionRequests.Consequence}
    {target : Target} {held back : Option Lifetime}
    (seen : requestSeen revision world =
      (held, back, some ⟨patch, status, consequence, target⟩)) :
    heldAt world.tables "coder" = held ∧ heldAt (backPush revision world).tables "coder" = back ∧
      ∃ row, world.requests.get? "r1" = some row ∧ row.patch = patch ∧ row.status = status ∧
        row.consequence = consequence ∧ row.toTarget = target := by
  simp only [requestSeen, Prod.mk.injEq, Option.map_eq_some_iff, RequestFacts.mk.injEq] at seen
  obtain ⟨held, back, row, found, rfl, rfl, rfl, rfl⟩ := seen
  exact ⟨held, back, row, found, rfl, rfl, rfl, rfl⟩

theorem removed_stays_out_coder : ∃ world later row,
    Reaches (step devbox) anyStep initial world ∧ world.requests.get? "r1" = some row ∧
    row.patch = .remove ∧ row.status = .done ∧ row.expectedIncarnation = 1 ∧
    Reaches (step devbox) anyStep world later ∧
    ∀ lifetime, heldAt (backPush 3 later).tables "coder" = some lifetime →
      1 < lifetime.incarnation := by
  have executed : (exec (step devbox) (fun _ _ => true) initial (removalRun [])).map
      (requestSeen 3) = some (some ⟨"devbox", "s1", 1⟩, some ⟨"devbox", "s1", 1⟩,
        some ⟨.remove, .done, .pending, ⟨"coder", "devbox", "s1", 1, 1⟩⟩) := by
    decide
  have removes : (exec (step devbox) (fun _ _ => true) initial (removalRun [] ++
      [Label.removalSecond 0 65, Label.removalSettle 0, pushes "s1" 2 [] 70])).map (requestSeen 3) =
        some (none, none, some ⟨.remove, .done, .removed, ⟨"coder", "devbox", "s1", 1, 1⟩⟩) := by
    decide
  obtain ⟨world, later, run, continued, before, after⟩ :=
    reaches_both _ _ _ _ _ _ (fun _ _ _ => trivial) executed removes
  obtain ⟨_, _, row, found, removal, done, _, target⟩ := request_seen before
  obtain ⟨gone, _, last, present, _, _, removed, _⟩ := request_seen after
  have store : row.storeId = "s1" := congrArg Target.storeId target
  have expected : row.expectedIncarnation = 1 := congrArg Target.expectedIncarnation target
  have agent : row.agentId = "coder" := congrArg Target.agentId target
  refine ⟨world, later, row, run, found, removal, done, expected, continued, ?_⟩
  obtain ⟨now, same, _, _, _, _, out⟩ := removed_stays_out run found removal done continued
  rw [present, Option.some.injEq] at same
  subst same
  intro lifetime held
  by_contra older
  obtain ⟨_, kept⟩ := out (.inr removed) (some devboxEnvironment) (pushBody "s1" 3 [coderEntry 1])
    (fun _ => none) 80 "coder" (by rw [store]; decide) (by rw [agent]; decide)
  have earlier := kept lifetime held (by omega)
  rw [gone] at earlier
  cases earlier

/-- A removal that is done and owed, and then finds its definition released, is settled as
nothing removed and no longer counts: the store brings the same incarnation back. -/
theorem released_removal_comes_back : ∃ world later row,
    Reaches (step devbox) anyStep initial world ∧ world.requests.get? "r1" = some row ∧
    row.patch = .remove ∧ row.status = .done ∧ row.consequence = .pending ∧
    row.toTarget = ⟨"coder", "devbox", "s1", 1, 1⟩ ∧
    Reaches (step devbox) anyStep world later ∧ heldAt later.tables "coder" = none ∧
    heldAt (backPush 2 later).tables "coder" = some ⟨"devbox", "s1", 1⟩ := by
  have executed : (exec (step devbox) (fun _ _ => true) initial
      (removalRun [.release "coder" "devbox"])).map (requestSeen 2) = some (none, none,
        some ⟨.remove, .done, .pending, ⟨"coder", "devbox", "s1", 1, 1⟩⟩) := by
    decide
  have settles : (exec (step devbox) (fun _ _ => true) initial
      (removalRun [.release "coder" "devbox"] ++ [Label.removalSettle 0])).map (requestSeen 2) =
        some (none, some ⟨"devbox", "s1", 1⟩, some ⟨.remove, .done, .nothingRemoved
          "the definition this removal was for ended another way",
          ⟨"coder", "devbox", "s1", 1, 1⟩⟩) := by
    decide
  obtain ⟨world, later, run, continued, before, after⟩ :=
    reaches_both _ _ _ _ _ _ (fun _ _ _ => trivial) executed settles
  obtain ⟨_, _, row, found, removal, done, pending, target⟩ := request_seen before
  obtain ⟨gone, back, _⟩ := request_seen after
  exact ⟨world, later, row, run, found, removal, done, pending, target, continued, gone, back⟩

end AifyComms.DefinitionRemovals
