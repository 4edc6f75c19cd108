import AifyComms.DefinitionService

/-!
What holds over whole runs of the definition routes: the order of a machine's stores, the
states of definition and lifecycle requests, and the start of a created agent.
-/

namespace AifyComms.DefinitionRuns
open PyText DefinitionSnapshot DefinitionPush DefinitionService Runs

variable {service : Service}

/-! ### The order of a machine's stores -/

/-- What a machine's row says its current store is at. -/
def currentOf (world : World) (machineId : String) : Option Current :=
  (world.tables.stores.get? machineId).map StoreRow.current

def IsRetired (world : World) (machineId storeId : String) : Prop :=
  (machineId, storeId) ∈ world.tables.retired.keys

/-- The applied pushes of a machine, oldest first. -/
def appliedTo (world : World) (machineId : String) : List Applied :=
  world.applied.filter fun push => decide (push.machineId = machineId)

/-- The operator does not let the machine return to a store it retired. -/
def WithoutReset (machineId : String) (_ : World) (label : Label) : Prop := label ≠ .reset machineId

/-- A step leaves the machine's stores as they were, or is an applied push of the machine. -/
inductive StoresMoved (machineId : String) (before after : World) : Prop where
  | same (current : currentOf after machineId = currentOf before machineId)
      (retired : ∀ storeId, IsRetired after machineId storeId ↔ IsRetired before machineId storeId)
      (applied : appliedTo after machineId = appliedTo before machineId)
  | applied (push : Applied) (named : push.machineId = machineId)
      (live : ¬ IsRetired before machineId push.storeId)
      (later : ∀ current, currentOf before machineId = some current →
        current.storeId = push.storeId → current.revision < push.revision)
      (current : currentOf after machineId = some ⟨push.storeId, push.revision, push.digest⟩)
      (retired : ∀ storeId, IsRetired after machineId storeId ↔ IsRetired before machineId storeId ∨
        ∃ current, currentOf before machineId = some current ∧ current.storeId ≠ push.storeId ∧
          storeId = current.storeId)
      (logged : appliedTo after machineId = appliedTo before machineId ++ [push])

theorem stores_same {machineId : String} {before after : World}
    (stores : after.tables.stores = before.tables.stores)
    (retired : after.tables.retired = before.tables.retired)
    (applied : after.applied = before.applied) : StoresMoved machineId before after := by
  refine .same ?_ ?_ ?_
  · rw [currentOf, stores, currentOf]
  · intro storeId
    rw [IsRetired, retired, IsRetired]
  · rw [appliedTo, applied, appliedTo]

theorem removalMoved_stores {machineId : String} {before after : World}
    (moved : RemovalMoved before after) : StoresMoved machineId before after := by
  cases moved <;> exact stores_same rfl rfl rfl

theorem unmoved_stores {machineId : String} {before after : World}
    (unmoved : Unmoved before.tables after.tables)
    (applied : appliedTo after machineId = appliedTo before machineId) :
    StoresMoved machineId before after := by
  refine .same (unmoved.current machineId) ?_ applied
  intro storeId
  rw [IsRetired, unmoved.retired, IsRetired]

theorem push_stores (machineId : String) (environment : Option Environment) (body : Push)
    (switch : Switch) (now : Nat) (world : World) :
    StoresMoved machineId world (push service environment body switch now world) := by
  cases ran : applyDefinitionPush service.rules (DefinitionRequests.removedIncarnation world.requests)
      environment body switch now world.tables with
  | mk tables answer =>
  have cases := push_cases service.rules (DefinitionRequests.removedIncarnation world.requests)
    environment body switch now world.tables
  rw [ran] at cases
  dsimp only at cases
  rcases push_committed ran with same | ⟨refusal, refused, same⟩ | ⟨result, state, answered, _, same⟩
  · rw [same]
    exact stores_same rfl rfl rfl
  · rw [same]
    dsimp only at refused
    rcases cases with ⟨unmoved, _⟩ | ⟨result, answered, _⟩
    · exact unmoved_stores unmoved rfl
    · rw [refused] at answered
      cases answered
  · rw [same]
    dsimp only at answered
    rcases cases with ⟨unmoved, replays⟩ | ⟨other, accepted, outcome, _, advanced⟩
    · refine unmoved_stores unmoved ?_
      have replayed := replays result answered
      simp [appliedTo, appliedBy, replayed]
    · rw [answered, Except.ok.injEq] at accepted
      subst accepted
      by_cases named : strip (body.machineId.getD "") = machineId
      · subst named
        refine .applied ⟨strip (body.machineId.getD ""), strip (body.storeId.getD ""),
          body.revision.getD 0, body.snapshotDigest.getD ""⟩ rfl advanced.live ?_ advanced.current ?_ ?_
        · intro current recorded store
          rw [currentOf, Option.map_eq_some_iff] at recorded
          obtain ⟨row, found, rfl⟩ := recorded
          exact advanced.later row found store
        · intro storeId
          rw [IsRetired, IsRetired]
          refine (advanced.retired _).trans (or_congr_right ?_)
          constructor
          · rintro ⟨row, found, differ, key⟩
            refine ⟨row.current, ?_, differ, (Prod.mk.inj key).2⟩
            rw [currentOf, found, Option.map_some]
          · rintro ⟨current, recorded, differ, rfl⟩
            rw [currentOf, Option.map_eq_some_iff] at recorded
            obtain ⟨row, found, rfl⟩ := recorded
            exact ⟨row, found, differ, rfl⟩
        · simp [appliedTo, appliedBy, outcome]
      · refine .same ?_ ?_ ?_
        · rw [currentOf, currentOf]
          exact congrArg (Option.map StoreRow.current) (advanced.others machineId (Ne.symm named))
        · intro storeId
          rw [IsRetired, IsRetired]
          refine (advanced.retired _).trans ?_
          constructor
          · rintro (listed | ⟨row, _, _, key⟩)
            · exact listed
            · exact absurd (Prod.mk.inj key).1.symm named
          · exact .inl
        · simp [appliedTo, appliedBy, outcome, named]

theorem step_stores {machineId : String} {before after : World} {label : Label}
    (kept : WithoutReset machineId before label) (taken : step service before label = some after) :
    StoresMoved machineId before after := by
  cases label with
  | push environment body switch now =>
      obtain rfl := Option.some.inj taken
      exact push_stores machineId environment body switch now before
  | release agentId machine =>
      obtain rfl := Option.some.inj taken
      rcases release_cases agentId machine before.tables with same | ⟨held, _, _, same⟩ <;>
        rw [same] <;> exact stores_same rfl rfl rfl
  | reset machine =>
      obtain rfl := Option.some.inj taken
      refine .same rfl ?_ rfl
      intro storeId
      have other : machineId ≠ machine := fun same => kept (same ▸ rfl)
      rw [IsRetired, IsRetired, Dict.mem_keys_iff, Dict.mem_keys_iff]
      simp [World.commit, resetDefinitionStore, other]
  | report environment id body now =>
      obtain rfl := Option.some.inj taken
      rcases report_committed rfl with same | ⟨record, state, _, _, same⟩
      · rw [same]
        exact stores_same rfl rfl rfl
      · rw [same]
        exact stores_same rfl rfl rfl
  | beginRemoval party id =>
      obtain ⟨row, _, _, rfl⟩ := beginRemoval_some taken
      exact stores_same rfl rfl rfl
  | removalFirst party now => exact removalMoved_stores (removalFirst_moved taken)
  | removalSecond party now => exact removalMoved_stores (removalSecond_moved taken)
  | removalSettle party =>
      obtain ⟨id, why, _, rfl⟩ := removalSettle_some taken
      exact stores_same rfl rfl rfl
  | lifecycleRemoval id now =>
      rcases finishLifecycleRemoval_some taken with rfl | ⟨row, _, _, rfl⟩ <;>
        exact stores_same rfl rfl rfl
  | _ =>
      obtain rfl := Option.some.inj taken
      exact stores_same rfl rfl rfl

/-- The order of a machine's stores, over what was applied so far. -/
structure StoreOrder (machineId : String) (world : World) : Prop where
  live : ∀ current, currentOf world machineId = some current →
    ¬ IsRetired world machineId current.storeId
  known : ∀ push ∈ appliedTo world machineId,
    (∃ current, currentOf world machineId = some current ∧ current.storeId = push.storeId ∧
      push.revision ≤ current.revision) ∨ IsRetired world machineId push.storeId
  replaced : (appliedTo world machineId).Pairwise fun earlier later =>
    earlier.storeId ≠ later.storeId → IsRetired world machineId earlier.storeId
  increasing : (appliedTo world machineId).Pairwise fun earlier later =>
    earlier.storeId = later.storeId → earlier.revision < later.revision
  forward : ∀ before middle after, appliedTo world machineId = before ++ middle :: after →
    ∀ first ∈ before, first.storeId ≠ middle.storeId →
    ∀ last ∈ after, last.storeId ≠ first.storeId

theorem initial_order (machineId : String) : StoreOrder machineId initial := by
  refine ⟨?_, ?_, .nil, .nil, ?_⟩
  · intro current recorded
    cases recorded
  · intro push listed
    cases listed
  · intro before middle after split
    exact absurd split (by simp [appliedTo, initial])

theorem order_same {machineId : String} {before after : World}
    (current : currentOf after machineId = currentOf before machineId)
    (retired : ∀ storeId, IsRetired after machineId storeId ↔ IsRetired before machineId storeId)
    (applied : appliedTo after machineId = appliedTo before machineId)
    (order : StoreOrder machineId before) : StoreOrder machineId after := by
  refine ⟨?_, ?_, ?_, ?_, ?_⟩
  · intro held recorded
    rw [retired]
    exact order.live held (current ▸ recorded)
  · intro push listed
    rw [retired, current]
    exact order.known push (applied ▸ listed)
  · rw [applied]
    exact order.replaced.imp fun implied differ => (retired _).mpr (implied differ)
  · rw [applied]
    exact order.increasing
  · rw [applied]
    exact order.forward

theorem order_applied {machineId : String} {before after : World} {push : Applied}
    (live : ¬ IsRetired before machineId push.storeId)
    (later : ∀ current, currentOf before machineId = some current →
      current.storeId = push.storeId → current.revision < push.revision)
    (current : currentOf after machineId = some ⟨push.storeId, push.revision, push.digest⟩)
    (retired : ∀ storeId, IsRetired after machineId storeId ↔ IsRetired before machineId storeId ∨
      ∃ current, currentOf before machineId = some current ∧ current.storeId ≠ push.storeId ∧
        storeId = current.storeId)
    (logged : appliedTo after machineId = appliedTo before machineId ++ [push])
    (order : StoreOrder machineId before) : StoreOrder machineId after := by
  -- A store applied before is the pushed one, at an earlier revision, or is retired by now.
  have settled : ∀ earlier ∈ appliedTo before machineId,
      earlier.storeId = push.storeId ∧ earlier.revision < push.revision ∨
        earlier.storeId ≠ push.storeId ∧ IsRetired after machineId earlier.storeId := by
    intro earlier listed
    rcases order.known earlier listed with ⟨held, recorded, store, reached⟩ | gone
    · by_cases same : held.storeId = push.storeId
      · exact .inl ⟨store ▸ same, lt_of_le_of_lt reached (later held recorded same)⟩
      · exact .inr ⟨store ▸ same, (retired _).mpr (.inr ⟨held, recorded, same, store.symm⟩)⟩
    · refine .inr ⟨?_, (retired _).mpr (.inl gone)⟩
      intro same
      exact live (same ▸ gone)
  refine ⟨?_, ?_, ?_, ?_, ?_⟩
  · intro held recorded
    rw [current, Option.some.injEq] at recorded
    subst recorded
    rw [retired]
    rintro (gone | ⟨held, _, differ, same⟩)
    · exact live gone
    · exact differ same.symm
  · intro earlier listed
    rw [logged, List.mem_append, List.mem_singleton] at listed
    rcases listed with listed | rfl
    · rcases settled earlier listed with ⟨same, reached⟩ | ⟨_, gone⟩
      · exact .inl ⟨_, current, same.symm, reached.le⟩
      · exact .inr gone
    · exact .inl ⟨_, current, rfl, le_rfl⟩
  · rw [logged]
    refine pairwise_concat (order.replaced.imp fun implied differ =>
      (retired _).mpr (.inl (implied differ))) ?_
    intro earlier listed differ
    rcases settled earlier listed with ⟨same, _⟩ | ⟨_, gone⟩
    · exact absurd same differ
    · exact gone
  · rw [logged]
    refine pairwise_concat order.increasing ?_
    intro earlier listed same
    rcases settled earlier listed with ⟨_, reached⟩ | ⟨differ, _⟩
    · exact reached
    · exact absurd same differ
  · intro earlier middle rest split first member differ last listed same
    rw [logged] at split
    rcases List.eq_nil_or_concat' rest with rfl | ⟨between, final, rfl⟩
    · cases listed
    have ends : appliedTo before machineId = earlier ++ middle :: between ∧ push = final := by
      rw [← List.cons_append, ← List.append_assoc] at split
      obtain ⟨front, back⟩ := List.append_inj' split rfl
      exact ⟨front, (List.cons.inj back).1⟩
    rcases List.mem_append.mp listed with inside | final
    · exact order.forward earlier middle between ends.1 first member differ last inside same
    · -- The first store was retired when the middle one was applied, so it is not live now.
      have replaced := order.replaced
      rw [ends.1, List.pairwise_append] at replaced
      have gone := replaced.2.2 first member middle List.mem_cons_self differ
      rw [List.mem_singleton.mp final, ← ends.2] at same
      exact live (same ▸ gone)

theorem reached_order {machineId : String} {world : World}
    (run : Reaches (step service) (WithoutReset machineId) initial world) :
    StoreOrder machineId world := by
  refine run.invariant (StoreOrder machineId) (initial_order machineId) ?_
  intro before label after order kept taken
  cases step_stores kept taken with
  | same current retired applied => exact order_same current retired applied order
  | applied push named live later current retired logged =>
      exact order_applied live later current retired logged order

/-- A push that was not applied leaves the definitions as they were. -/
theorem push_not_applied {environment : Option Environment} {body : Push} {switch : Switch}
    {now : Nat} {world : World}
    (unapplied : ∀ result, (applyDefinitionPush service.rules
        (DefinitionRequests.removedIncarnation world.requests) environment body switch now
        world.tables).2 = .ok result → result.outcome = .replay) :
    (push service environment body switch now world).tables.definitions =
      world.tables.definitions := by
  cases ran : applyDefinitionPush service.rules (DefinitionRequests.removedIncarnation world.requests)
      environment body switch now world.tables with
  | mk tables answer =>
  have unmoved : Unmoved world.tables tables := by
    rcases push_cases service.rules (DefinitionRequests.removedIncarnation world.requests)
        environment body switch now world.tables with ⟨unmoved, _⟩ | ⟨result, answered, outcome, _⟩
    · rw [ran] at unmoved
      exact unmoved
    · rw [unapplied result answered] at outcome
      cases outcome
  rcases push_committed ran with same | ⟨_, _, same⟩ | ⟨_, _, _, _, same⟩ <;> rw [same]
  · exact unmoved.definitions
  · exact unmoved.definitions

theorem stores_move_forward {machineId : String} {world : World}
    (run : Reaches (step service) (WithoutReset machineId) initial world) :
    (∀ push ∈ appliedTo world machineId,
      (∃ current, currentOf world machineId = some current ∧ current.storeId = push.storeId) ∨
        IsRetired world machineId push.storeId) ∧
    (∀ before middle after, appliedTo world machineId = before ++ middle :: after →
      ∀ first ∈ before, first.storeId ≠ middle.storeId →
      ∀ last ∈ after, last.storeId ≠ first.storeId) ∧
    (∀ current, currentOf world machineId = some current →
      ¬ IsRetired world machineId current.storeId) ∧
    ((appliedTo world machineId).Pairwise fun earlier later =>
      earlier.storeId = later.storeId → earlier.revision < later.revision) ∧
    (∀ left ∈ appliedTo world machineId, ∀ right ∈ appliedTo world machineId,
      left.storeId = right.storeId → left.revision = right.revision → left.digest = right.digest) ∧
    ∀ environment body switch now,
      (∀ result, (applyDefinitionPush service.rules
          (DefinitionRequests.removedIncarnation world.requests) environment body switch now
          world.tables).2 = .ok result → result.outcome = .replay) →
      (push service environment body switch now world).tables.definitions =
        world.tables.definitions := by
  have order := reached_order run
  refine ⟨?_, order.forward, order.live, order.increasing, ?_, ?_⟩
  · intro push listed
    rcases order.known push listed with ⟨current, recorded, store, _⟩ | gone
    · exact .inl ⟨current, recorded, store⟩
    · exact .inr gone
  · have differ : ∀ left right : Applied,
        (left.storeId = right.storeId → left.revision < right.revision) →
        left.storeId = right.storeId → left.revision = right.revision → left.digest = right.digest :=
      fun left right less store same => absurd same (less store).ne
    refine List.Pairwise.forall_of_forall_of_flip (fun push _ _ _ => rfl)
      (order.increasing.imp fun less => differ _ _ less) (order.increasing.imp ?_)
    intro left right less store revision
    exact (differ left right less store.symm revision.symm).symm
  · intro environment body switch now unapplied
    exact push_not_applied unapplied

def withoutReset (_ : World) : Label → Bool
  | .reset _ => false
  | _ => true

theorem stores_move_forward_devbox : ∃ world,
    Reaches (step devbox) (WithoutReset "devbox") initial world ∧
    (appliedTo world "devbox").map (fun push => (push.storeId, push.revision)) =
      [("s1", 1), ("s1", 2), ("s2", 1)] ∧
    (∀ current, currentOf world "devbox" = some current →
      ¬ IsRetired world "devbox" current.storeId) ∧
    (appliedTo world "devbox").Pairwise fun earlier later =>
      earlier.storeId = later.storeId → earlier.revision < later.revision := by
  have executed : (exec (step devbox) withoutReset initial
      [pushes "s1" 1 [coderEntry 1] 10, pushes "s1" 2 [] 20, pushes "s2" 1 [coderEntry 2] 30,
        pushes "s1" 3 [coderEntry 1] 40]).map
      (fun world => (appliedTo world "devbox").map fun push => (push.storeId, push.revision)) =
        some [("s1", 1), ("s1", 2), ("s2", 1)] := by
    decide
  have sound : ∀ world label, withoutReset world label = true →
      WithoutReset "devbox" world label := by
    rintro world label granted rfl
    cases granted
  obtain ⟨world, run, seen⟩ := reaches_observed _ _ _ _ sound executed
  have forward := stores_move_forward run
  exact ⟨world, run, seen, forward.2.2.1, forward.2.2.2.1⟩

end AifyComms.DefinitionRuns
