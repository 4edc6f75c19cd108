import AifyComms.HostProof
import AifyComms.Runs
import Mathlib.Data.List.Sort

/-!
The requests that speak for a machine, from any callers: environment heartbeats, the
spawn claim of `api_core/spawn_requests_io.py` and the terminal-control claim of
`api_core/terminal_controls_io.py`.

A heartbeat and a spawn claim hold the write lock from their first read, so each is
one step. A terminal-control claim reads the machine, the proof and the pending
controls with no lock, and takes the lock to judge again and write. Other routes queue
spawn requests and controls. No operator resets a proof.
-/

namespace AifyComms.HostProof
open PyText Runs

/-! ### The tables -/

structure SpawnRequest where
  environmentId : String
  createdAt : Nat
  row : SpawnRequests.Row
  deriving DecidableEq

inductive ControlStatus where
  | pending
  | claimed
  | completed
  | failed
  deriving DecidableEq

structure Control where
  environmentId : String
  bridgeId : String
  status : ControlStatus
  requestedAt : Nat
  claimedAt : Option Nat
  deriving DecidableEq

structure Store where
  hosts : Hosts
  spawns : Dict String SpawnRequest
  controls : Dict String Control

/-! ### The spawn claim -/

structure SpawnRequestClaim where
  environmentId : String
  bridgeId : String
  machineId : String

inductive SpawnOutcome where
  | notFound
  | refused (reason : String)
  | bridgeNotCurrent (currentBridgeId : String)
  | nothingQueued
  | claimed (spawnRequestId : String)

/-- The oldest queued request of the environment. -/
def oldestQueued (spawns : Dict String SpawnRequest) (environmentId : String) : Option String :=
  ((spawns.entries.filter fun entry => decide (entry.2.environmentId = environmentId) &&
    decide (entry.2.row.status = .queued)).insertionSort fun left right =>
      left.2.createdAt ≤ right.2.createdAt).head?.map Prod.fst

def claimSpawn (req : SpawnRequestClaim) (now : Nat) (spawn : SpawnRequest) : SpawnRequest :=
  { spawn with row := SpawnRequests.claim req.bridgeId req.machineId now spawn.row }

def seenAt (now : Nat) (row : Environment) : Environment := { row with lastSeen := now }

/-- `_claim_spawn_request_once`. -/
def claimSpawnRequestOnce (py : Stdlib) (presented : String) (now : Nat) (req : SpawnRequestClaim)
    (store : Store) : Store × SpawnOutcome :=
  match store.hosts.environments.get? req.environmentId with
  | none => (store, .notFound)
  | some row =>
      let proof := judgeHostProof py store.hosts.proofs [row.machineId] presented
      if proof.refusal ≠ "" then (store, .refused proof.refusal)
      else if strip row.bridgeId ≠ "" ∧ strip row.bridgeId ≠ strip req.bridgeId then
        (store, .bridgeNotCurrent (strip row.bridgeId))
      else match oldestQueued store.spawns req.environmentId with
        | none => (store, .nothingQueued)
        | some id =>
            ({ store with
              hosts := { store.hosts with
                environments := store.hosts.environments.modify req.environmentId (seenAt now) }
              spawns := store.spawns.modify id (claimSpawn req now) }, .claimed id)

/-! ### The terminal-control claim -/

inductive Reading where
  | environment
  | proof (machineId : Option String)
  | controls
  | selected (ids : List String)

structure ControlClaim where
  environmentId : String
  bridgeId : String
  presented : String
  now : Nat
  reading : Reading

/-- The oldest twenty pending controls of the environment's bridge. -/
def pendingControls (controls : Dict String Control) (environmentId bridgeId : String) : List String :=
  (((controls.entries.filter fun entry => decide (entry.2.environmentId = environmentId) &&
    decide (entry.2.bridgeId = bridgeId) && decide (entry.2.status = .pending)).insertionSort
      fun left right => left.2.requestedAt < right.2.requestedAt ∨
        left.2.requestedAt = right.2.requestedAt ∧ left.1 ≤ right.1).map Prod.fst).take 20

/-- The next read with no lock; `none` ends the claim, refused or with nothing to do. -/
def readClaim (py : Stdlib) (store : Store) (claim : ControlClaim) : Option ControlClaim :=
  match claim.reading with
  | .environment => some { claim with
      reading := .proof ((store.hosts.environments.get? claim.environmentId).map Environment.machineId) }
  | .proof machineId =>
      if machineId.any fun machineId =>
          decide ((judgeHostProof py store.hosts.proofs [machineId] claim.presented).refusal ≠ "")
      then none
      else some { claim with reading := .controls }
  | .controls =>
      match pendingControls store.controls claim.environmentId claim.bridgeId with
      | [] => none
      | ids => some { claim with reading := .selected ids }
  | .selected _ => none

def claimControl (ids : List String) (now : Nat) (id : String) (control : Control) : Control :=
  if id ∈ ids ∧ control.status = .pending then
    { control with status := .claimed, claimedAt := some now }
  else control

/-- Under the lock: the machine is read again, judged again, and the controls that are
still pending are claimed. -/
def claimSelected (py : Stdlib) (store : Store) (claim : ControlClaim) (ids : List String) : Store :=
  if (store.hosts.environments.get? claim.environmentId).any fun row =>
      decide ((judgeHostProof py store.hosts.proofs [row.machineId] claim.presented).refusal ≠ "")
  then store
  else { store with controls := store.controls.mapValues (claimControl ids claim.now) }

/-! ### Steps -/

structure World where
  store : Store
  claims : Nat → Option ControlClaim

/-- Any environments, spawn requests and controls, and no machine enrolled. -/
def initial (environments : Environments) (spawns : Dict String SpawnRequest)
    (controls : Dict String Control) : World :=
  ⟨⟨⟨environments, Dict.empty⟩, spawns, controls⟩, fun _ => none⟩

inductive Label where
  | heartbeat (header : String) (clock : Nat) (beat : EnvironmentBeat)
  | claimSpawn (header : String) (now : Nat) (req : SpawnRequestClaim)
  | claimControls (claim : Nat) (header environmentId bridgeId : String) (now : Nat)
  | read (claim : Nat)
  | write (claim : Nat)
  | queueSpawn (id : String) (spawn : SpawnRequest)
  | queueControl (id : String) (control : Control)

def step (py : Stdlib) (world : World) : Label → Option World
  | .heartbeat header clock beat => some { world with
      store := { world.store with
        hosts := (recordEnvironmentHeartbeat py clock (presentedProof header) beat
          world.store.hosts).1 } }
  | .claimSpawn header now req => some { world with
      store := (claimSpawnRequestOnce py (presentedProof header) now req world.store).1 }
  | .claimControls claim header environmentId bridgeId now =>
      if (world.claims claim).isSome then none
      else some { world with
        claims := Function.update world.claims claim
          (some ⟨environmentId, bridgeId, presentedProof header, now, .environment⟩) }
  | .read claim =>
      (world.claims claim).bind fun reading =>
        match reading.reading with
        | .selected _ => none
        | _ => some { world with
            claims := Function.update world.claims claim (readClaim py world.store reading) }
  | .write claim =>
      (world.claims claim).bind fun writing =>
        match writing.reading with
        | .selected ids => some ⟨claimSelected py world.store writing ids,
            Function.update world.claims claim none⟩
        | _ => none
  | .queueSpawn id spawn =>
      if (world.store.spawns.get? id).isSome then none
      else some { world with store := { world.store with spawns := world.store.spawns.set id spawn } }
  | .queueControl id control =>
      if (world.store.controls.get? id).isSome then none
      else some { world with
        store := { world.store with controls := world.store.controls.set id control } }

/-- The proof that the request taking the step presents. -/
def presentedBy (world : World) : Label → Option String
  | .heartbeat header _ _ => some (presentedProof header)
  | .claimSpawn header _ _ => some (presentedProof header)
  | .claimControls _ header _ _ _ => some (presentedProof header)
  | .read claim => (world.claims claim).map ControlClaim.presented
  | .write claim => (world.claims claim).map ControlClaim.presented
  | _ => none

/-! ### The machine's own -/

/-- The proof's digest is the one recorded for the machine. -/
def Recorded (py : Stdlib) (store : Store) (machineId proof : String) : Prop :=
  (store.hosts.proofs.get? machineId).map Proof.digest = some (py.sha256 proof)

/-- The environment's row is the machine's. -/
def OfMachine (py : Stdlib) (store : Store) (environmentId machineId : String) : Prop :=
  (store.hosts.environments.get? environmentId).any fun row =>
    decide (normalizeMachineId py row.machineId = machineId)

/-- No environment of the machine is changed, moved to it or away from it, and no spawn
request or control of one is claimed. -/
structure Untouched (py : Stdlib) (machineId : String) (before after : Store) : Prop where
  environments : ∀ id, OfMachine py before id machineId ∨ OfMachine py after id machineId →
    after.hosts.environments.get? id = before.hosts.environments.get? id
  spawns : ∀ id spawn, before.spawns.get? id = some spawn →
    OfMachine py before spawn.environmentId machineId → after.spawns.get? id = some spawn
  controls : ∀ id control, before.controls.get? id = some control →
    OfMachine py before control.environmentId machineId → after.controls.get? id = some control

/-! ### Judged under the lock -/

variable {py : Stdlib} {store : Store} {world after : World} {machineId proof presented : String}

/-- A machine's request that was let through presents the machine's proof. -/
theorem judged_proof (injective : Function.Injective py.sha256) {machines : List String} {judged : String}
    (recorded : Recorded py store machineId proof)
    (accepted : (judgeHostProof py store.hosts.proofs machines presented).refusal = "")
    (member : judged ∈ machines) (same : normalizeMachineId py judged = machineId)
    (named : machineId ≠ "") : presented = proof := by
  subst same
  obtain ⟨row, present, digest⟩ := Option.map_eq_some_iff.mp recorded
  have vouched := judge_vouched accepted member named row present
  exact injective (vouched.2.symm.trans digest)

theorem ofMachine_iff {environmentId : String} {row : Environment}
    (found : store.hosts.environments.get? environmentId = some row) :
    OfMachine py store environmentId machineId ↔ normalizeMachineId py row.machineId = machineId := by
  simp only [OfMachine, found, Option.any_some, decide_eq_true_eq]

theorem ofMachine_row {environmentId : String} (owns : OfMachine py store environmentId machineId) :
    ∃ row, store.hosts.environments.get? environmentId = some row ∧
      normalizeMachineId py row.machineId = machineId := by
  obtain ⟨row, found, same⟩ := (Option.any_eq_true _ _).mp owns
  exact ⟨row, found, of_decide_eq_true same⟩

theorem Untouched.refl (py : Stdlib) (machineId : String) (store : Store) :
    Untouched py machineId store store :=
  ⟨fun _ _ => rfl, fun _ _ present _ => present, fun _ _ present _ => present⟩

/-! ### Heartbeats -/

/-- A heartbeat that writes the machine's row, or moves a row to the machine, presents
its proof. -/
theorem heartbeat_untouched (injective : Function.Injective py.sha256) (clock : Nat)
    (beat : EnvironmentBeat) (recorded : Recorded py store machineId proof) (named : machineId ≠ "")
    (other : presented ≠ proof) :
    Untouched py machineId store { store with
      hosts := (recordEnvironmentHeartbeat py clock presented beat store.hosts).1 } := by
  refine ⟨?_, fun _ _ present _ => present, fun _ _ present _ => present⟩
  intro id owns
  rcases heartbeat_cases py clock presented beat store.hosts with same | ⟨verdict, rfl, accepted, wrote⟩
  · rw [same]
  · have unjudged : ∀ judged ∈ machinesOf beat (store.hosts.environments.get? beat.envId),
        normalizeMachineId py judged ≠ machineId := fun judged member same =>
      other (judged_proof injective recorded accepted member same named)
    rw [wrote]
    by_cases written : beat.envId = id
    · subst written
      rcases owns with before | now
      · obtain ⟨row, found, same⟩ := ofMachine_row before
        exact absurd same (unjudged row.machineId (by simp [machinesOf, found]))
      · obtain ⟨judged, member, same⟩ := registered_machine py beat
          (store.hosts.environments.get? beat.envId)
        rw [ofMachine_iff (by rw [wrote]; exact Dict.get?_set_self _ _ _)] at now
        exact absurd (same.symm.trans now) (unjudged judged member)
    · exact Dict.get?_set_ne _ _ written

theorem heartbeat_proofs (clock : Nat) (beat : EnvironmentBeat) (hosts : Hosts) {machineId : String}
    (kept : machineId = "" ∨ ∃ row, hosts.proofs.get? machineId = some row) :
    (recordEnvironmentHeartbeat py clock presented beat hosts).1.proofs.get? machineId =
      hosts.proofs.get? machineId := by
  rcases heartbeat_cases py clock presented beat hosts with same | ⟨verdict, rfl, accepted, wrote⟩
  · rw [same]
  · rw [wrote]
    apply enroll_keeps
    intro unenrolled
    obtain ⟨named, absent⟩ := judge_unenrolled accepted unenrolled
    rcases kept with blank | ⟨row, present⟩
    · exact named blank
    · cases absent.symm.trans present

/-! ### Spawn claims -/

theorem oldestQueued_mem {spawns : Dict String SpawnRequest} {environmentId id : String}
    (oldest : oldestQueued spawns environmentId = some id) :
    ∃ spawn, spawns.get? id = some spawn ∧ spawn.environmentId = environmentId := by
  obtain ⟨entry, first, rfl⟩ := Option.map_eq_some_iff.mp oldest
  have member := (List.mem_insertionSort _).mp (List.mem_of_mem_head? first)
  obtain ⟨present, queued⟩ := List.mem_filter.mp member
  refine ⟨entry.2, (Dict.get?_eq_some_iff _ _ _).mpr present, ?_⟩
  exact of_decide_eq_true (Bool.and_eq_true_iff.mp queued).1

/-- A spawn claim changes nothing, or it was let through for the environment's machine
and took a request of the environment. -/
theorem claimSpawn_cases (py : Stdlib) (presented : String) (now : Nat) (req : SpawnRequestClaim)
    (store : Store) :
    (claimSpawnRequestOnce py presented now req store).1 = store ∨
      ∃ row id, store.hosts.environments.get? req.environmentId = some row ∧
        (judgeHostProof py store.hosts.proofs [row.machineId] presented).refusal = "" ∧
        oldestQueued store.spawns req.environmentId = some id ∧
        (claimSpawnRequestOnce py presented now req store).1 =
          { store with
            hosts := { store.hosts with
              environments := store.hosts.environments.modify req.environmentId (seenAt now) }
            spawns := store.spawns.modify id (claimSpawn req now) } := by
  unfold claimSpawnRequestOnce
  split
  · exact .inl rfl
  · next row found =>
      dsimp only
      split
      · exact .inl rfl
      · next accepted =>
          split
          · exact .inl rfl
          · split
            · exact .inl rfl
            · next id oldest => exact .inr ⟨row, id, found, not_not.mp accepted, oldest, rfl⟩

theorem claimSpawn_untouched (injective : Function.Injective py.sha256) (now : Nat)
    (req : SpawnRequestClaim) (recorded : Recorded py store machineId proof) (named : machineId ≠ "")
    (other : presented ≠ proof) :
    Untouched py machineId store (claimSpawnRequestOnce py presented now req store).1 := by
  rcases claimSpawn_cases py presented now req store with same | ⟨row, id, found, accepted, oldest, wrote⟩
  · rw [same]
    exact Untouched.refl py machineId store
  · have foreign : normalizeMachineId py row.machineId ≠ machineId := fun same =>
      other (judged_proof injective recorded accepted List.mem_cons_self same named)
    rw [wrote]
    refine ⟨?_, ?_, fun _ _ present _ => present⟩
    · intro environment owns
      simp only [Dict.get?_modify]
      by_cases isOwn : environment = req.environmentId
      · subst isOwn
        rcases owns with before | now'
        · exact absurd ((ofMachine_iff found).mp before) foreign
        · rw [OfMachine, Dict.get?_modify, if_pos rfl, found, Option.map_some, Option.any_some] at now'
          exact absurd (of_decide_eq_true now') foreign
      · rw [if_neg isOwn]
    · intro spawnId spawn present owns
      obtain ⟨queued, found', sameEnvironment⟩ := oldestQueued_mem oldest
      rw [Dict.get?_modify, if_neg, present]
      rintro rfl
      cases found'.symm.trans present
      rw [sameEnvironment] at owns
      exact foreign ((ofMachine_iff found).mp owns)

/-! ### Terminal-control claims -/

/-- What a claim selected are controls of its environment. -/
def Selected (store : Store) (claim : ControlClaim) : Prop :=
  ∀ ids, claim.reading = .selected ids → ∀ id ∈ ids,
    (store.controls.get? id).any fun control => decide (control.environmentId = claim.environmentId)

theorem pendingControls_mem {controls : Dict String Control} {environmentId bridgeId id : String}
    (member : id ∈ pendingControls controls environmentId bridgeId) :
    (controls.get? id).any fun control => decide (control.environmentId = environmentId) := by
  obtain ⟨entry, sorted, rfl⟩ := List.mem_map.mp (List.mem_of_mem_take member)
  obtain ⟨present, pending⟩ := List.mem_filter.mp ((List.mem_insertionSort _).mp sorted)
  rw [(Dict.get?_eq_some_iff _ _ _).mpr present, Option.any_some]
  exact (Bool.and_eq_true_iff.mp (Bool.and_eq_true_iff.mp pending).1).1

theorem readClaim_selected {claim next : ControlClaim} (read : readClaim py store claim = some next) :
    Selected store next := by
  intro ids selected id member
  unfold readClaim at read
  split at read
  · cases read
    cases selected
  · rw [Option.ite_none_left_eq_some] at read
    obtain ⟨_, same⟩ := read
    cases same
    cases selected
  · split at read
    · cases read
    · cases read
      cases selected
      exact pendingControls_mem member
  · cases read

theorem claimSelected_untouched (injective : Function.Injective py.sha256) {claim : ControlClaim}
    {ids : List String} (selected : Selected store claim) (reading : claim.reading = .selected ids)
    (recorded : Recorded py store machineId proof) (named : machineId ≠ "")
    (other : claim.presented ≠ proof) :
    Untouched py machineId store (claimSelected py store claim ids) := by
  unfold claimSelected
  split
  · exact Untouched.refl py machineId store
  · next accepted =>
      refine ⟨fun _ _ => rfl, fun _ _ present _ => present, ?_⟩
      intro id control present owns
      rw [Dict.get?_mapValues, present, Option.map_some, claimControl, if_neg]
      rintro ⟨member, _⟩
      -- The control is the claim's own, so its machine was judged under the lock.
      have own := selected ids reading id member
      rw [present, Option.any_some, decide_eq_true_eq] at own
      obtain ⟨row, found, same⟩ := ofMachine_row (own ▸ owns)
      simp only [found, Option.any_some, decide_eq_true_eq, not_not] at accepted
      exact other (judged_proof injective recorded accepted List.mem_cons_self same named)

/-! ### Every run -/

/-- The blank machine is not enrolled, and every claim selected its environment's
controls. -/
structure Sound (world : World) : Prop where
  blank : world.store.hosts.proofs.get? "" = none
  selected : ∀ id claim, world.claims id = some claim → Selected world.store claim

/-- No control goes, and none changes its environment. -/
def KeepsControls (before after : Store) : Prop :=
  ∀ id control, before.controls.get? id = some control →
    ∃ kept, after.controls.get? id = some kept ∧ kept.environmentId = control.environmentId

theorem KeepsControls.refl (store : Store) : KeepsControls store store :=
  fun _ control present => ⟨control, present, rfl⟩

theorem KeepsControls.selected {before after : Store} (keeps : KeepsControls before after)
    {claim : ControlClaim} (selected : Selected before claim) : Selected after claim := by
  intro ids reading id member
  obtain ⟨control, present, own⟩ := (Option.any_eq_true _ _).mp (selected ids reading id member)
  obtain ⟨kept, found, same⟩ := keeps id control present
  rw [found, Option.any_some, same]
  exact own

theorem claimSelected_keeps (claim : ControlClaim) (ids : List String) :
    KeepsControls store (claimSelected py store claim ids) := by
  unfold claimSelected
  split
  · exact KeepsControls.refl store
  · intro id control present
    refine ⟨claimControl ids claim.now id control, ?_, ?_⟩
    · rw [Dict.get?_mapValues, present, Option.map_some]
    · unfold claimControl
      split <;> rfl

/-- What every step leaves: the recorded proofs, no proof of the blank machine, and the
controls with their environments. -/
structure Leaves (before after : Store) : Prop where
  proofs : ∀ machineId, (machineId = "" ∨ ∃ row, before.hosts.proofs.get? machineId = some row) →
    after.hosts.proofs.get? machineId = before.hosts.proofs.get? machineId
  controls : KeepsControls before after

theorem Leaves.refl (store : Store) : Leaves store store :=
  ⟨fun _ _ => rfl, KeepsControls.refl store⟩

theorem claimSpawn_leaves (now : Nat) (req : SpawnRequestClaim) :
    Leaves store (claimSpawnRequestOnce py presented now req store).1 := by
  rcases claimSpawn_cases py presented now req store with same | ⟨_, _, _, _, _, wrote⟩
  · rw [same]
    exact Leaves.refl store
  · rw [wrote]
    exact ⟨fun _ _ => rfl, KeepsControls.refl store⟩

theorem queued_leaves {id : String} {control : Control}
    (new : ¬ (store.controls.get? id).isSome = true) :
    Leaves store { store with controls := store.controls.set id control } := by
  refine ⟨fun _ _ => rfl, ?_⟩
  intro other old present
  refine ⟨old, ?_, rfl⟩
  rw [Dict.get?_set_ne, present]
  rintro rfl
  exact new (by rw [present]; rfl)

/-- What one step does with the store and the claims under way. -/
theorem step_cases {label : Label} (taken : step py world label = some after) :
    Leaves world.store after.store ∧ ∀ id claim, after.claims id = some claim →
      world.claims id = some claim ∨ Selected world.store claim := by
  cases label with
  | heartbeat header clock beat =>
      cases taken
      exact ⟨⟨fun _ kept => heartbeat_proofs clock beat world.store.hosts kept,
        KeepsControls.refl world.store⟩, fun _ _ present => .inl present⟩
  | claimSpawn header now req =>
      cases taken
      exact ⟨claimSpawn_leaves now req, fun _ _ present => .inl present⟩
  | claimControls id header environmentId bridgeId now =>
      simp only [step, Option.ite_none_left_eq_some] at taken
      obtain ⟨_, same⟩ := taken
      cases same
      refine ⟨Leaves.refl world.store, ?_⟩
      intro other claim present
      obtain ⟨_, begun⟩ | old := update_some present
      · cases begun
        exact .inr (by rintro _ ⟨⟩)
      · exact .inl old
  | read id =>
      simp only [step, Option.bind_eq_some_iff] at taken
      obtain ⟨reading, _, taken⟩ := taken
      split at taken
      · cases taken
      · cases taken
        refine ⟨Leaves.refl world.store, ?_⟩
        intro other claim present
        obtain ⟨_, read⟩ | old := update_some present
        · exact .inr (readClaim_selected read)
        · exact .inl old
  | write id =>
      simp only [step, Option.bind_eq_some_iff] at taken
      obtain ⟨writing, _, taken⟩ := taken
      split at taken
      · next ids reading =>
          cases taken
          refine ⟨⟨?_, claimSelected_keeps writing ids⟩, ?_⟩
          · intro _ _
            unfold claimSelected
            split <;> rfl
          · intro other claim present
            obtain ⟨_, ⟨⟩⟩ | old := update_some present
            exact .inl old
      · cases taken
  | queueSpawn id spawn =>
      simp only [step, Option.ite_none_left_eq_some] at taken
      obtain ⟨_, same⟩ := taken
      cases same
      exact ⟨⟨fun _ _ => rfl, KeepsControls.refl world.store⟩, fun _ _ present => .inl present⟩
  | queueControl id control =>
      simp only [step, Option.ite_none_left_eq_some] at taken
      obtain ⟨new, same⟩ := taken
      cases same
      exact ⟨queued_leaves new, fun _ _ present => .inl present⟩

theorem step_sound {label : Label} (sound : Sound world) (taken : step py world label = some after) :
    Sound after where
  blank := ((step_cases taken).1.proofs "" (.inl rfl)).trans sound.blank
  selected := by
    obtain ⟨leaves, claims⟩ := step_cases taken
    intro id claim present
    rcases claims id claim present with old | new
    · exact leaves.controls.selected (sound.selected id claim old)
    · exact leaves.controls.selected new

theorem Sound.named (sound : Sound world) (recorded : Recorded py world.store machineId proof) :
    machineId ≠ "" := by
  rintro rfl
  rw [Recorded, sound.blank] at recorded
  cases recorded

/-- A step without the machine's proof leaves what is the machine's untouched. -/
theorem step_untouched (injective : Function.Injective py.sha256) {label : Label} (sound : Sound world)
    (recorded : Recorded py world.store machineId proof) (taken : step py world label = some after)
    (asked : presentedBy world label = some presented) (other : presented ≠ proof) :
    Untouched py machineId world.store after.store := by
  have named := sound.named recorded
  cases label with
  | heartbeat header clock beat =>
      cases asked
      cases taken
      exact heartbeat_untouched injective clock beat recorded named other
  | claimSpawn header now req =>
      cases asked
      cases taken
      exact claimSpawn_untouched injective now req recorded named other
  | claimControls id header environmentId bridgeId now =>
      simp only [step, Option.ite_none_left_eq_some] at taken
      obtain ⟨_, same⟩ := taken
      cases same
      exact Untouched.refl py machineId world.store
  | read id =>
      simp only [step, Option.bind_eq_some_iff] at taken
      obtain ⟨reading, _, taken⟩ := taken
      split at taken
      · cases taken
      · cases taken
        exact Untouched.refl py machineId world.store
  | write id =>
      simp only [step, Option.bind_eq_some_iff] at taken
      obtain ⟨writing, present, taken⟩ := taken
      obtain ⟨claim, held, rfl⟩ := Option.map_eq_some_iff.mp asked
      cases held.symm.trans present
      split at taken
      · next ids reading =>
          cases taken
          exact claimSelected_untouched injective (sound.selected id writing present) reading recorded
            named other
      · cases taken
  | queueSpawn id spawn => cases asked
  | queueControl id control => cases asked

theorem reached_sound {environments : Environments} {spawns : Dict String SpawnRequest}
    {controls : Dict String Control}
    (reached : Reaches (step py) anyStep (initial environments spawns controls) world) : Sound world := by
  apply reached.invariant Sound
  · exact ⟨rfl, by rintro _ _ ⟨⟩⟩
  · exact fun _ _ _ sound _ taken => step_sound sound taken

/-- A recorded proof stays as it was recorded. -/
theorem recorded_stays {recording : World} {row : Proof}
    (recorded : recording.store.hosts.proofs.get? machineId = some row)
    (rest : Reaches (step py) anyStep recording world) :
    world.store.hosts.proofs.get? machineId = some row := by
  apply rest.invariant fun world => world.store.hosts.proofs.get? machineId = some row
  · exact recorded
  · intro before label after held _ taken
    rw [(step_cases taken).1.proofs machineId (.inr ⟨row, held⟩)]
    exact held

/-- **In every run, from the moment a machine's proof is recorded: the record stays as
it is, no other proof is ever the recorded one, and no heartbeat, spawn claim or
terminal-control claim without that proof changes an environment of the machine, moves
one to it or away from it, or claims a spawn request or control of one.** -/
theorem machine_speaks_with_its_proof (py : Stdlib) (injective : Function.Injective py.sha256)
    (environments : Environments) (spawns : Dict String SpawnRequest) (controls : Dict String Control)
    (recording before after : World) (label : Label) (machineId proof : String)
    (reached : Reaches (step py) anyStep (initial environments spawns controls) recording)
    (recorded : Recorded py recording.store machineId proof)
    (rest : Reaches (step py) anyStep recording before)
    (taken : step py before label = some after) :
    after.store.hosts.proofs.get? machineId = recording.store.hosts.proofs.get? machineId ∧
      (∀ other, Recorded py after.store machineId other → other = proof) ∧
      ∀ presented, presentedBy before label = some presented → presented ≠ proof →
        Untouched py machineId before.store after.store := by
  obtain ⟨row, present, digest⟩ := Option.map_eq_some_iff.mp recorded
  have held := recorded_stays present rest
  have kept := recorded_stays present (rest.tail label trivial taken)
  refine ⟨kept.trans present.symm, ?_, ?_⟩
  · intro other again
    rw [Recorded, kept, Option.map_some, digest, Option.some.injEq] at again
    exact (injective again).symm
  · intro presented asked other
    have recordedBefore : Recorded py before.store machineId proof := by
      rw [Recorded, held, Option.map_some, digest]
    exact step_untouched injective (reached_sound (reached.trans rest)) recordedBefore taken asked other

/-! ### A claim judged before the machine was enrolled -/

/-- SHA-256 at one proof, and injective. -/
def digestOfDevbox (proof : String) : String :=
  if proof = "devbox-proof" then
    "5852edfecb5a1fd9ff149164bf8d235fbbdc0e23f08c083feb4ce99a47569a7e"
  else "?" ++ proof

theorem digestOfDevbox_injective : Function.Injective digestOfDevbox := by
  intro left right same
  unfold digestOfDevbox at same
  split at same
  · next isLeft =>
      split at same
      · next isRight => exact isLeft.trans isRight.symm
      · exact absurd (congrArg String.toList same) (by simp [String.toList_append])
  · split at same
    · exact absurd (congrArg String.toList same) (by simp [String.toList_append])
    · have texts := congrArg String.toList same
      simp only [String.toList_append, List.append_cancel_left_eq] at texts
      exact String.toList_inj.mp texts

def devboxLibrary : Stdlib where
  sha256 := digestOfDevbox
  lower := lower
  showList := fun roots => toString roots
  iso := fun _ => "2026-10-04T00:00:00+00:00"
  isoUtc := fun text => if text = "2026-10-04T00:00:00+00:00" then some text else none
  epoch := fun text => if text = "2026-10-04T00:00:00+00:00" then 1791072000 else 0

def devboxBeat : EnvironmentBeat :=
  ⟨"linux:devbox:default", "", "linux:DevBox", "linux", "linux", "env-1", "", "", "", [], 1791072000,
    none, none, Dict.empty, "online"⟩

def devboxRow : Environment := insertedRow devboxLibrary devboxBeat

def devboxWorld : World :=
  initial (Dict.empty.set "linux:devbox:default" devboxRow) Dict.empty
    (Dict.empty.set "stop-1" ⟨"linux:devbox:default", "env-1", .pending, 1791072000, none⟩)

/-- A claim with no proof reads that the machine has none and selects the control;
then the machine's heartbeat enrolls it. -/
def enrolledMeanwhile : List Label :=
  [.claimControls 1 "" "linux:devbox:default" "env-1" 1791072001, .read 1, .read 1, .read 1,
    .heartbeat " devbox-proof " 1791072002 devboxBeat]

structure Seen where
  digest : Option String
  control : Option ControlStatus
  presented : Option String
  deriving DecidableEq

def devboxSeen (world : World) : Seen :=
  ⟨(world.store.hosts.proofs.get? "linux:devbox").map Proof.digest,
    (world.store.controls.get? "stop-1").map Control.status, presentedBy world (.write 1)⟩

theorem late_claim_refused :
    ∃ before after, Reaches (step devboxLibrary) anyStep devboxWorld before ∧
      Recorded devboxLibrary before.store "linux:devbox" "devbox-proof" ∧
      step devboxLibrary before (.write 1) = some after ∧
      devboxSeen after = ⟨some (digestOfDevbox "devbox-proof"), some .pending, none⟩ ∧
      Untouched devboxLibrary "linux:devbox" before.store after.store := by
  have first : (exec (step devboxLibrary) (fun _ _ => true) devboxWorld enrolledMeanwhile).map
      devboxSeen = some ⟨some (digestOfDevbox "devbox-proof"), some .pending, some ""⟩ := by
    decide
  have second : (exec (step devboxLibrary) (fun _ _ => true) devboxWorld
      (enrolledMeanwhile ++ [Label.write 1])).map devboxSeen =
      some ⟨some (digestOfDevbox "devbox-proof"), some .pending, none⟩ := by decide
  obtain ⟨before, after, reached, _, taken, seenBefore, seenAfter⟩ :=
    reaches_last _ _ _ _ _ _ (fun _ _ _ => trivial) first second
  obtain ⟨recorded, _, presented⟩ := Seen.mk.inj seenBefore
  have speaks := machine_speaks_with_its_proof devboxLibrary digestOfDevbox_injective _ _ _ before
    before after (.write 1) "linux:devbox" "devbox-proof" reached recorded .refl taken
  exact ⟨before, after, reached, recorded, taken, seenAfter, speaks.2.2 "" presented (by decide)⟩

end AifyComms.HostProof
