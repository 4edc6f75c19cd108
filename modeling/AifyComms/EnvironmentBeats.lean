import AifyComms.HostProof
import AifyComms.Runs
import Mathlib.Data.List.TakeWhile

/-!
A heartbeat from the request to the row: `EnvironmentBeat.from_request`
(`api_core/environment_beat.py`) reads the clock and bounds the claimed start time, and
`record_environment_heartbeat` arbitrates the beat and writes it. The request waits for the
write lock in between, so the two are steps of their own, and beats of several bridges
overlap. Times are seconds.
-/

namespace AifyComms.EnvironmentBeats
open PyText HostProof Runs
open SpawnRequests (orElse)

/-! ### The request -/

/-- The runtime names of `contracts/vocabulary.json`: `_normalize_runtime`, and
`_canonical_runtimes` of the rows a host sends. -/
structure Vocabulary where
  normalizeRuntime : String → String
  canonicalRuntimes : List Value → List Value

/-- `EnvironmentHeartbeat`. A text that is missing is empty. -/
structure EnvironmentHeartbeat where
  label : String
  machineId : String
  os : String
  kind : String
  bridgeId : String
  bridgeVersion : String
  launcherVersion : String
  launcherRegistryFingerprint : String
  cwdRoots : Option (List String)
  runtimes : Option (List Value)
  terminal : Option Bool
  pty : Option Bool
  terminalRuntimes : Option (List String)
  status : String
  metadata : Metadata

/-- `value.replace("\\", "/").rstrip("/").lower()`. -/
def rootKey (py : Stdlib) (value : String) : String :=
  let slashed := value.toList.map fun c => if c = '\\' then '/' else c
  py.lower (String.ofList (slashed.rdropWhile fun c => c == '/'))

def normalizeRootsFrom (py : Stdlib) : List String → List String → List String
  | _, [] => []
  | seen, root :: rest =>
      let value := strip root
      if value = "" ∨ value.toList.head? = some '-' then normalizeRootsFrom py seen rest
      else if rootKey py value ∈ seen then normalizeRootsFrom py seen rest
      else value :: normalizeRootsFrom py (rootKey py value :: seen) rest

/-- `_normalize_roots`. -/
def normalizeRoots (py : Stdlib) (roots : List String) : List String := normalizeRootsFrom py [] roots

/-- `BRIDGE_STAMP_SKEW_TOLERANCE_SECONDS`. -/
def skewTolerance : Nat := 120

/-- The latest start time recorded at a time of the clock. -/
def ceiling (py : Stdlib) (clock : Nat) : String :=
  parsedTimestamp py (py.iso (clock + skewTolerance))

/-- A start time past the ceiling is recorded as the ceiling. -/
def boundStart (py : Stdlib) (clock : Nat) (metadata : Metadata) : Metadata :=
  match metadata.get? "bridgeStartedAt" with
  | none => metadata
  | some value =>
      let claimed := parsedTimestamp py value.shown
      if value.truthy && decide (claimed ≠ "") && decide (ceiling py clock ≠ "") &&
          decide (ceiling py clock < claimed) then
        metadata.set "bridgeStartedAt" (.text (ceiling py clock))
      else metadata

def boolValue (value : Bool) : Value := .other (if value then "True" else "False") value

/-- The host's own answers, where the request gives them. -/
def hostFacts (py : Stdlib) (vocabulary : Vocabulary) (req : EnvironmentHeartbeat)
    (metadata : Metadata) : Metadata :=
  let metadata := req.terminal.elim metadata fun terminal =>
    metadata.set "terminal" (boolValue terminal)
  let metadata := req.pty.elim metadata fun pty => metadata.set "pty" (boolValue pty)
  req.terminalRuntimes.elim metadata fun runtimes => metadata.set "terminalRuntimes"
    (rootsValue py ((runtimes.filter fun runtime => decide (strip runtime ≠ "")).map
      vocabulary.normalizeRuntime))

/-- The fields of the host's own answers that the request leaves out. -/
def omittedFields (req : EnvironmentHeartbeat) : List String :=
  (if req.terminal.isNone then ["terminal"] else []) ++ (if req.pty.isNone then ["pty"] else []) ++
    (if req.terminalRuntimes.isNone then ["terminalRuntimes"] else [])

/-- `ENVIRONMENT_REGISTRABLE_STATUSES`. -/
def registrableStatuses : List String := ["online", "degraded", "offline"]

def requestedStatus (py : Stdlib) (status : String) : String :=
  let requested := py.lower (strip (orElse status "online"))
  if requested ∈ registrableStatuses then requested else "online"

/-- `EnvironmentBeat.from_request`, which reads the clock twice. -/
def fromRequest (py : Stdlib) (vocabulary : Vocabulary) (now clock : Nat) (envId : String)
    (req : EnvironmentHeartbeat) : EnvironmentBeat where
  envId := envId
  label := req.label
  machineId := req.machineId
  os := req.os
  kind := req.kind
  bridgeId := req.bridgeId
  bridgeVersion := req.bridgeVersion
  launcherVersion := req.launcherVersion
  launcherRegistryFingerprint := req.launcherRegistryFingerprint
  omitted := omittedFields req
  now := now
  cwdRoots := req.cwdRoots.map (normalizeRoots py)
  runtimes := req.runtimes.map vocabulary.canonicalRuntimes
  metadata := hostFacts py vocabulary req
    (boundStart py clock (req.metadata.erase "heldTerminals"))
  requestedStatus := requestedStatus py req.status

/-! ### The start time on its way to the row -/

theorem hostFacts_started (py : Stdlib) (vocabulary : Vocabulary) (req : EnvironmentHeartbeat)
    (metadata : Metadata) :
    (hostFacts py vocabulary req metadata).get? "bridgeStartedAt" =
      metadata.get? "bridgeStartedAt" := by
  unfold hostFacts
  cases req.terminal <;> cases req.pty <;> cases req.terminalRuntimes <;>
    simp [Dict.get?_set]

theorem fromRequest_started (py : Stdlib) (vocabulary : Vocabulary) (now clock : Nat)
    (envId : String) (req : EnvironmentHeartbeat) :
    (fromRequest py vocabulary now clock envId req).metadata.get? "bridgeStartedAt" =
      (boundStart py clock (req.metadata.erase "heldTerminals")).get? "bridgeStartedAt" :=
  hostFacts_started py vocabulary req _

theorem erase_started (metadata : Metadata) :
    (metadata.erase "heldTerminals").get? "bridgeStartedAt" = metadata.get? "bridgeStartedAt" := by
  rw [Dict.get?_erase, if_neg (by decide)]

/-- What is used of `datetime`: the text of a time reads as itself, and later times have later
texts. -/
structure Calendar (py : Stdlib) : Prop where
  readable : ∀ clock, ceiling py clock ≠ ""
  stable : ∀ clock, parsedTimestamp py (ceiling py clock) = ceiling py clock
  chronological : ∀ {earlier later}, earlier ≤ later → ceiling py earlier ≤ ceiling py later

theorem not_lt_empty (text : String) : ¬ text < "" := by
  rw [String.lt_iff_toList_lt]
  exact List.not_lt_nil _

theorem shown_of_falsy {value : Value} (falsy : value.truthy = false) : value.shown = "" := by
  cases value with
  | text value =>
      have blank : ¬ value ≠ "" := of_decide_eq_false falsy
      exact not_not.mp blank
  | other shown truthy =>
      have falsy : truthy = false := falsy
      rw [falsy]
      rfl

/-- A beat carries the start time that was claimed, or the ceiling where that is earlier. -/
theorem fromRequest_start {py : Stdlib} (calendar : Calendar py) (vocabulary : Vocabulary)
    (now clock : Nat) (envId : String) (req : EnvironmentHeartbeat) :
    bridgeStartedAt py (fromRequest py vocabulary now clock envId req).metadata =
      min (bridgeStartedAt py req.metadata) (ceiling py clock) := by
  unfold bridgeStartedAt textAt
  rw [fromRequest_started]
  unfold boundStart
  rw [erase_started]
  cases claims : req.metadata.get? "bridgeStartedAt" with
  | none =>
      dsimp only
      rw [erase_started, claims]
      exact (min_eq_left (not_lt.mp (not_lt_empty _))).symm
  | some value =>
      dsimp only
      rw [Option.elim_some]
      split
      next past =>
        simp only [Bool.and_eq_true, decide_eq_true_eq] at past
        have shown : Value.shown (.text (ceiling py clock)) = ceiling py clock := rfl
        rw [Dict.get?_set_self, min_eq_right (le_of_lt past.2), Option.elim_some, shown,
          calendar.stable]
      next within =>
        rw [erase_started, claims, Option.elim_some]
        refine (min_eq_left (not_lt.mp fun past => within ?_)).symm
        have sent : parsedTimestamp py value.shown ≠ "" := fun blank =>
          not_lt_empty _ (blank ▸ past)
        have truthy : value.truthy = true := by
          refine Bool.of_not_eq_false fun falsy => sent ?_
          rw [shown_of_falsy falsy]
          rfl
        simp [truthy, sent, calendar.readable, past]

theorem keepStored_other {stored next : Metadata} {key other : String} (differ : key ≠ other) :
    (keepStored stored next key).get? other = next.get? other := by
  unfold keepStored
  split
  · split
    · rfl
    · exact Dict.get?_set_ne _ _ differ
  · rfl

theorem keepStored_self (stored next : Metadata) (key : String) :
    (keepStored stored next key).get? key = (next.get? key).or (stored.get? key) := by
  unfold keepStored
  cases held : stored.get? key with
  | none => simp
  | some value =>
      cases present : next.get? key with
      | none => simp
      | some own => simp [present]

theorem keepStored_foldl (stored : Metadata) (keys : List String) (next : Metadata)
    (key : String) :
    (keys.foldl (keepStored stored) next).get? key =
      if key ∈ keys then (next.get? key).or (stored.get? key) else next.get? key := by
  induction keys generalizing next with
  | nil => rfl
  | cons first rest ih =>
      rw [List.foldl_cons, ih]
      by_cases same : first = key
      · subst same
        have settled : ((next.get? first).or (stored.get? first)).or (stored.get? first) =
            (next.get? first).or (stored.get? first) := by
          rw [Option.or_assoc, Option.or_self]
        rw [keepStored_self, settled, ite_self, if_pos List.mem_cons_self]
      · rw [keepStored_other same]
        simp [Ne.symm same]

/-- The host's own answers are kept under keys of their own. -/
theorem keepHostOwned_started (stored next : Metadata) (omitted : List String) :
    ((hostOwnedMetadata.filter fun owned => decide (owned.1 ∈ omitted)).foldl
      (fun next owned => keepStored stored next owned.2) next).get? "bridgeStartedAt" =
        next.get? "bridgeStartedAt" := by
  have others : ∀ (owned : List (String × String)) (next : Metadata),
      (∀ entry ∈ owned, entry.2 ≠ "bridgeStartedAt") →
      (owned.foldl (fun next owned => keepStored stored next owned.2) next).get?
        "bridgeStartedAt" = next.get? "bridgeStartedAt" := by
    intro owned
    induction owned with
    | nil => exact fun _ _ => rfl
    | cons first rest ih =>
        intro next differ
        rw [List.foldl_cons, ih _ fun entry later => differ entry (List.mem_cons_of_mem _ later),
          keepStored_other (differ first List.mem_cons_self)]
  have apart : ∀ entry ∈ hostOwnedMetadata, entry.2 ≠ "bridgeStartedAt" := by decide
  exact others _ next fun entry owned => apart entry (List.mem_filter.mp owned).1

/-- The row keeps the start time of the bridge that sends one, and of the row's bridge when
the beat names none. -/
theorem nextMetadata_started (py : Stdlib) (beat : EnvironmentBeat) (stored : Metadata) :
    (nextMetadata py beat stored).get? "bridgeStartedAt" =
      if declaresBridge beat then beat.metadata.get? "bridgeStartedAt"
      else stored.get? "bridgeStartedAt" := by
  have manual : ∀ next : Metadata, (if ((stored.get? "manualRoots").elim false Value.truthy) then
      ((next.set "manualRoots" (.other "True" true)).set "manualRootsUpdatedAt"
          ((stored.get? "manualRootsUpdatedAt").getD (.text ""))).set "manualRootsUpdatedBy"
        ((stored.get? "manualRootsUpdatedBy").getD (.text ""))
      else next).get? "bridgeStartedAt" = next.get? "bridgeStartedAt" := by
    intro next
    split
    · simp [Dict.get?_set]
    · rfl
  unfold nextMetadata
  dsimp only
  rw [manual, keepHostOwned_started]
  by_cases declared : declaresBridge beat = true
  · simp only [declared, if_true]
    rw [Dict.get?_set_ne _ _ (by decide), keepStored_other (by decide),
      Dict.get?_set_ne _ _ (by decide)]
  · simp only [declared]
    have owned : "bridgeStartedAt" ∈ bridgeOwnedMetadata ++ stored.keys.filter isBridgeKey :=
      List.mem_append_left _ (by decide)
    rw [if_neg (by simp), if_neg (by simp), keepStored_foldl, if_pos owned,
      keepStored_other (by decide), Dict.get?_set_ne _ _ (by decide), Dict.get?_filter,
      if_neg (by decide)]
    simp

/-! ### Beats under way -/

/-- A request whose beat waits for the write lock, with the start time it claimed and the time
its beat was read at. -/
structure Arrived where
  presented : String
  beat : EnvironmentBeat
  claimed : String
  readAt : Nat

/-- `firstBeat` records when each bridge first beat for each environment; no code reads it. -/
structure World where
  clock : Nat
  hosts : Hosts
  waiting : Nat → Option Arrived
  firstBeat : String → String → Option Nat

def initial (hosts : Hosts) (clock : Nat) : World := ⟨clock, hosts, fun _ => none, fun _ _ => none⟩

def World.row (world : World) (envId : String) : Option Environment :=
  world.hosts.environments.get? envId

def World.noteBeat (world : World) (envId bridgeId : String) (clock : Nat) (env bridge : String) :
    Option Nat :=
  if env = envId ∧ bridge = bridgeId then (world.firstBeat env bridge).or (some clock)
  else world.firstBeat env bridge

/-- The row of `control_environment`, for `forget`. -/
def forgottenRow (py : Stdlib) (now : Nat) (actor : String) (row : Environment) : Environment :=
  { row with
    status := "forgotten"
    bridgeId := ""
    bridgeVersion := ""
    runtimes := []
    metadata := (row.metadata.set "forgottenAt" (.text (py.iso now))).set "forgottenBy" (.text actor)
    lastSeen := now }

inductive Label where
  | tick (seconds : Nat)
  | arrives (id : Nat) (presented envId : String) (req : EnvironmentHeartbeat) (elapsed : Nat)
  | records (id : Nat)
  | forgets (envId actor : String)

section Steps
variable (py : Stdlib) (vocabulary : Vocabulary)

def arrive (id : Nat) (presented envId : String) (req : EnvironmentHeartbeat) (elapsed : Nat)
    (world : World) : World :=
  let clock := world.clock + elapsed
  { world with
    clock := clock
    waiting := Function.update world.waiting id (some
      { presented := presented
        beat := fromRequest py vocabulary world.clock clock envId req
        claimed := bridgeStartedAt py req.metadata
        readAt := clock })
    firstBeat := world.noteBeat envId (strip req.bridgeId) clock }

/-- What a beat comes to if it gets the write lock now. -/
def outcome (world : World) (arrived : Arrived) : Hosts × Outcome :=
  recordEnvironmentHeartbeat py world.clock arrived.presented arrived.beat world.hosts

def step (world : World) : Label → Option World
  | .tick seconds => some { world with clock := world.clock + seconds }
  | .arrives id presented envId req elapsed =>
      if (world.waiting id).isSome then none
      else some (arrive py vocabulary id presented envId req elapsed world)
  | .records id =>
      (world.waiting id).map fun arrived =>
        { world with
          waiting := Function.update world.waiting id none
          hosts := (outcome py world arrived).1 }
  | .forgets envId actor =>
      some { world with hosts := { world.hosts with
        environments := world.hosts.environments.modify envId (forgottenRow py world.clock actor) } }

end Steps

/-! ### One constant claim -/

/-- The bridge's beats for the environment all claim the one start time. -/
def ClaimsConstantly (py : Stdlib) (envId bridge start : String) : Label → Prop
  | .arrives _ _ env req _ => env = envId → strip req.bridgeId = bridge →
      bridgeStartedAt py req.metadata = start
  | _ => True

/-- A start time further ahead than the tolerance when the bridge first beat is not claimed
again once the clock has moved on. -/
def StartsInTolerance (py : Stdlib) (envId bridge : String) (world : World) : Label → Prop
  | .arrives _ _ env req elapsed => env = envId → strip req.bridgeId = bridge →
      ∀ first, world.firstBeat envId bridge = some first →
        ceiling py first < bridgeStartedAt py req.metadata →
          ceiling py (world.clock + elapsed) = ceiling py first
  | _ => True

/-- What a run of the claim meets before each step. -/
def Allowed (py : Stdlib) (envId bridge start : String) (world : World) (label : Label) : Prop :=
  ClaimsConstantly py envId bridge start label ∧ StartsInTolerance py envId bridge world label

section Runs
variable {py : Stdlib} {vocabulary : Vocabulary} {envId bridge start : String}

/-- The start time that the bridge's first beat was bounded to. -/
def FirstStart (py : Stdlib) (envId bridge start : String) (world : World) (recorded : String) :
    Prop :=
  ∃ first, world.firstBeat envId bridge = some first ∧ recorded = min start (ceiling py first)

/-- Every beat of the bridge carries what its first beat was bounded to, and so does its row. -/
structure Bounded (py : Stdlib) (envId bridge start : String) (world : World) : Prop where
  first : ∀ at_, world.firstBeat envId bridge = some at_ → at_ ≤ world.clock
  waiting : ∀ id arrived, world.waiting id = some arrived → arrived.beat.envId = envId →
    strip arrived.beat.bridgeId = bridge →
      FirstStart py envId bridge start world (bridgeStartedAt py arrived.beat.metadata)
  starts : ∀ id arrived, world.waiting id = some arrived →
    bridgeStartedAt py arrived.beat.metadata = min arrived.claimed (ceiling py arrived.readAt)
  row : ∀ row, world.row envId = some row → strip row.bridgeId = bridge →
    FirstStart py envId bridge start world (bridgeStartedAt py row.metadata)

theorem noteBeat_known {world : World} {env bridgeId : String} {clock first : Nat}
    (known : world.firstBeat envId bridge = some first) :
    world.noteBeat env bridgeId clock envId bridge = some first := by
  unfold World.noteBeat
  split
  · rw [known, Option.some_or]
  · exact known

/-- A later beat is bounded as the first one was: its ceiling is no earlier, and it is no
later where the first one bounded the claim. -/
theorem bounded_again {clock first : Nat} (calendar : Calendar py) (past : first ≤ clock)
    (early : ceiling py first < start → ceiling py clock = ceiling py first) :
    min start (ceiling py clock) = min start (ceiling py first) := by
  by_cases ahead : ceiling py first < start
  · rw [early ahead]
  · have within := not_lt.mp ahead
    rw [min_eq_left within, min_eq_left (le_trans within (calendar.chronological past))]

theorem arrive_bounded {world : World} {id : Nat} {presented env : String}
    {req : EnvironmentHeartbeat} {elapsed : Nat} (calendar : Calendar py)
    (bounded : Bounded py envId bridge start world)
    (constant : env = envId → strip req.bridgeId = bridge → bridgeStartedAt py req.metadata = start)
    (early : env = envId → strip req.bridgeId = bridge →
      ∀ first, world.firstBeat envId bridge = some first →
        ceiling py first < bridgeStartedAt py req.metadata →
          ceiling py (world.clock + elapsed) = ceiling py first) :
    Bounded py envId bridge start (arrive py vocabulary id presented env req elapsed world) := by
  have still : ∀ recorded, FirstStart py envId bridge start world recorded →
      FirstStart py envId bridge start (arrive py vocabulary id presented env req elapsed world)
        recorded := by
    rintro recorded ⟨first, known, same⟩
    exact ⟨first, noteBeat_known known, same⟩
  constructor
  case first =>
    intro at_ noted
    unfold arrive World.noteBeat at noted
    dsimp only at noted
    have later : ∀ first, world.firstBeat envId bridge = some first →
        first ≤ world.clock + elapsed := fun first before =>
      Nat.le_add_right_of_le (bounded.first first before)
    split at noted
    next same =>
      rcases Option.or_eq_some_iff.mp noted with before | ⟨_, now⟩
      · exact later at_ before
      · obtain rfl := Option.some.inj now
        exact Nat.le_refl _
    next => exact later at_ noted
  case waiting =>
    intro other arrived present sameEnv sameBridge
    rcases update_some present with ⟨_, same⟩ | before
    · obtain rfl := Option.some.inj same
      have sameEnv : env = envId := sameEnv
      have sameBridge : strip req.bridgeId = bridge := sameBridge
      dsimp only
      rw [fromRequest_start calendar, constant sameEnv sameBridge]
      cases known : world.firstBeat envId bridge with
      | none =>
          refine ⟨world.clock + elapsed, ?_, rfl⟩
          unfold arrive World.noteBeat
          dsimp only
          rw [if_pos ⟨sameEnv.symm, sameBridge.symm⟩, known, Option.none_or]
      | some first =>
          have again := early sameEnv sameBridge first known
          rw [constant sameEnv sameBridge] at again
          refine ⟨first, noteBeat_known known, ?_⟩
          exact bounded_again calendar (Nat.le_add_right_of_le (bounded.first first known)) again
    · exact still _ (bounded.waiting other arrived before sameEnv sameBridge)
  case starts =>
    intro other arrived present
    rcases update_some present with ⟨_, same⟩ | before
    · obtain rfl := Option.some.inj same
      dsimp only
      rw [fromRequest_start calendar]
    · exact bounded.starts other arrived before
  case row => exact fun row held holds => still _ (bounded.row row held holds)

theorem started_congr {one two : Metadata}
    (same : one.get? "bridgeStartedAt" = two.get? "bridgeStartedAt") :
    bridgeStartedAt py one = bridgeStartedAt py two := by
  unfold bridgeStartedAt textAt
  rw [same]

theorem registered_bridge (beat : EnvironmentBeat) (row : Environment) :
    (registeredRow py beat (some row)).bridgeId = kept beat.bridgeId row.bridgeId := by
  rw [registeredRow, Option.elim_some, updatedRow]

/-- A row that a beat leaves to the bridge carries that bridge's start time, its own or the
one the row recorded. -/
theorem registered_started {beat : EnvironmentBeat} {existing : Option Environment}
    {recorded : String → Prop} (named : bridge ≠ "")
    (holds : strip (registeredRow py beat existing).bridgeId = bridge)
    (own : strip beat.bridgeId = bridge → recorded (bridgeStartedAt py beat.metadata))
    (stored : ∀ row, existing = some row → strip row.bridgeId = bridge →
      recorded (bridgeStartedAt py row.metadata)) :
    recorded (bridgeStartedAt py (registeredRow py beat existing).metadata) := by
  cases existing with
  | none =>
      have sends : strip beat.bridgeId = bridge := holds
      have declared : declaresBridge beat = true := by
        unfold declaresBridge
        rw [sends]
        exact decide_eq_true named
      have next := nextMetadata_started py beat Dict.empty
      rw [if_pos declared] at next
      rw [registeredRow, Option.elim_none, insertedRow]
      dsimp only
      rw [started_congr next]
      exact own sends
  | some row =>
      rw [registered_bridge] at holds
      have next := nextMetadata_started py beat row.metadata
      unfold declaresBridge at next
      unfold kept at holds
      rw [registeredRow, Option.elim_some, updatedRow]
      dsimp only
      by_cases silent : strip beat.bridgeId = ""
      · rw [if_pos silent] at holds
        rw [if_neg (by simp [silent])] at next
        rw [started_congr next]
        exact stored row rfl holds
      · rw [if_neg silent, strip_strip] at holds
        rw [if_pos (by simp [silent])] at next
        rw [started_congr next]
        exact own holds

theorem records_bounded {world : World} {id : Nat} {arrived : Arrived} (named : bridge ≠ "")
    (bounded : Bounded py envId bridge start world) (present : world.waiting id = some arrived) :
    Bounded py envId bridge start { world with
      waiting := Function.update world.waiting id none
      hosts := (outcome py world arrived).1 } := by
  have others : ∀ other beat, Function.update world.waiting id none other = some beat →
      world.waiting other = some beat := by
    intro other beat held
    rcases update_some held with ⟨_, gone⟩ | before
    · cases gone
    · exact before
  constructor
  case first => exact bounded.first
  case waiting => exact fun other beat held => bounded.waiting other beat (others other beat held)
  case starts => exact fun other beat held => bounded.starts other beat (others other beat held)
  case row =>
    intro row held holds
    unfold World.row outcome at held
    dsimp only at held
    rcases heartbeat_cases py world.clock arrived.presented arrived.beat world.hosts with
      same | ⟨proof, _, _, written⟩
    · rw [same] at held
      exact bounded.row row held holds
    · rw [written] at held
      by_cases here : arrived.beat.envId = envId
      · rw [here, Dict.get?_set_self] at held
        obtain rfl := Option.some.inj held
        have own := bounded.waiting id arrived present here
        exact registered_started named holds own bounded.row
      · rw [Dict.get?_set_ne _ _ here] at held
        exact bounded.row row held holds

theorem forgets_bounded {world : World} (named : bridge ≠ "")
    (bounded : Bounded py envId bridge start world) (env actor : String) :
    Bounded py envId bridge start { world with hosts := { world.hosts with
      environments := world.hosts.environments.modify env
        (forgottenRow py world.clock actor) } } := by
  refine ⟨bounded.first, bounded.waiting, bounded.starts, fun row held holds => ?_⟩
  unfold World.row at held
  rw [Dict.get?_modify] at held
  split at held
  · obtain ⟨before, _, rfl⟩ := Option.map_eq_some_iff.mp held
    have blank : strip "" = bridge := holds
    exact absurd blank.symm (by simpa [strip] using named)
  · exact bounded.row row held holds

theorem step_bounded {world after : World} {label : Label} (calendar : Calendar py)
    (named : bridge ≠ "") (bounded : Bounded py envId bridge start world)
    (allowed : Allowed py envId bridge start world label)
    (taken : step py vocabulary world label = some after) :
    Bounded py envId bridge start after := by
  cases label with
  | tick seconds =>
      obtain rfl := Option.some.inj taken
      refine ⟨fun at_ noted => ?_, bounded.waiting, bounded.starts, bounded.row⟩
      exact Nat.le_add_right_of_le (bounded.first at_ noted)
  | arrives id presented env req elapsed =>
      obtain ⟨_, same⟩ := Option.ite_none_left_eq_some.mp taken
      obtain rfl := Option.some.inj same
      exact arrive_bounded calendar bounded allowed.1 allowed.2
  | records id =>
      obtain ⟨arrived, present, rfl⟩ := Option.map_eq_some_iff.mp taken
      exact records_bounded named bounded present
  | forgets env actor =>
      obtain rfl := Option.some.inj taken
      exact forgets_bounded named bounded env actor

theorem reached_bounded {hosts : Hosts} {clock : Nat} {world : World} (calendar : Calendar py)
    (named : bridge ≠ "")
    (unheld : ∀ row, hosts.environments.get? envId = some row → strip row.bridgeId ≠ bridge)
    (run : Reaches (step py vocabulary) (Allowed py envId bridge start) (initial hosts clock)
      world) : Bounded py envId bridge start world := by
  refine run.invariant (Bounded py envId bridge start) ?_
    fun _ _ _ bounded allowed taken => step_bounded calendar named bounded allowed taken
  constructor
  case first => exact fun _ noted => by cases noted
  case waiting => exact fun _ _ present => by cases present
  case starts => exact fun _ _ present => by cases present
  case row => exact fun row held holds => absurd holds (unheld row held)

/-- The time of a bridge's first beat stays. -/
theorem firstBeat_stays {world after : World} {first : Nat}
    (run : Reaches (step py vocabulary) (Allowed py envId bridge start) world after)
    (known : world.firstBeat envId bridge = some first) :
    after.firstBeat envId bridge = some first := by
  refine run.invariant (fun world => world.firstBeat envId bridge = some first) known ?_
  intro before label next held _ taken
  cases label with
  | tick seconds =>
      obtain rfl := Option.some.inj taken
      exact held
  | arrives id presented env req elapsed =>
      obtain ⟨_, same⟩ := Option.ite_none_left_eq_some.mp taken
      obtain rfl := Option.some.inj same
      exact noteBeat_known held
  | records id =>
      obtain ⟨arrived, present, rfl⟩ := Option.map_eq_some_iff.mp taken
      exact held
  | forgets env actor =>
      obtain rfl := Option.some.inj taken
      exact held

/-! ### The next bridge -/

/-- A beat that the service takes from its machine, for an environment that is not forgotten,
and that says its bridge is online. -/
structure Admitted (py : Stdlib) (world : World) (arrived : Arrived) : Prop where
  proven : (judgeHostProof py world.hosts.proofs
    (machinesOf arrived.beat (world.row arrived.beat.envId)) arrived.presented).refusal = ""
  remembered : staysForgotten py arrived.beat (world.row arrived.beat.envId) = false
  online : arrived.beat.requestedStatus = "online"

/-- A beat of another bridge of the tier, for a row that the bridge holds: it was read after
the bridge's first beat, and claims a start time past that beat and the tolerance. -/
structure Challenges (py : Stdlib) (envId bridge : String) (world : World) (arrived : Arrived) :
    Prop where
  env : arrived.beat.envId = envId
  declared : strip arrived.beat.bridgeId ≠ ""
  other : strip arrived.beat.bridgeId ≠ bridge
  holder : ∃ row, world.row envId = some row ∧ strip row.bridgeId = bridge ∧
    isHostTier py arrived.beat.metadata = isHostTier py row.metadata
  after : ∃ first, world.firstBeat envId bridge = some first ∧ first ≤ arrived.readAt ∧
    ceiling py first < arrived.claimed
  admitted : Admitted py world arrived

/-- What the beat of a challenger carries is no earlier than what the row records. -/
theorem challenger_started {world : World} {id : Nat} {arrived : Arrived} {recorded : String}
    (calendar : Calendar py) (bounded : Bounded py envId bridge start world)
    (present : world.waiting id = some arrived)
    (challenges : Challenges py envId bridge world arrived)
    (firstStart : FirstStart py envId bridge start world recorded) :
    bridgeStartedAt py arrived.beat.metadata ≠ "" ∧
      ¬ bridgeStartedAt py arrived.beat.metadata < recorded := by
  obtain ⟨first, noted, read, claims⟩ := challenges.after
  obtain ⟨known, same, started⟩ := firstStart
  obtain rfl := Option.some.inj (noted.symm.trans same)
  have sent : ceiling py first ≤ bridgeStartedAt py arrived.beat.metadata := by
    rw [bounded.starts id arrived present]
    exact le_min (le_of_lt claims) (calendar.chronological read)
  constructor
  · intro blank
    rw [blank] at sent
    exact calendar.readable first (le_antisymm sent (not_lt.mp (not_lt_empty _)))
  · rw [started]
    exact not_lt.mpr (le_trans (min_le_right _ _) sent)

theorem challenger_takes_row {world : World} {id : Nat} {arrived : Arrived}
    (calendar : Calendar py) (bounded : Bounded py envId bridge start world)
    (present : world.waiting id = some arrived)
    (challenges : Challenges py envId bridge world arrived) :
    (outcome py world arrived).2 = .written ∧
      ∃ row, (outcome py world arrived).1.environments.get? envId = some row ∧
        strip row.bridgeId = strip arrived.beat.bridgeId := by
  obtain ⟨row, held, holder, tier⟩ := challenges.holder
  obtain ⟨sent, later⟩ := challenger_started calendar bounded present challenges
    (bounded.row row held holder)
  have here : world.hosts.environments.get? arrived.beat.envId = some row := by
    rw [challenges.env]
    exact held
  have unopposed : arbitrateBridges py world.clock arrived.beat row = none := by
    unfold arbitrateBridges
    dsimp only
    rw [tier]
    cases isHostTier py row.metadata <;> cases hasLiveBridge py world.clock row.metadata <;>
      simp [sent, later]
  have unrefused : arbitrateClaim py world.clock arrived.beat (some row) = none := by
    unfold arbitrateClaim
    rw [Option.bind_some, unopposed, challenges.admitted.online]
    split
    · rfl
    · rfl
  have written : outcome py world arrived =
      (⟨world.hosts.environments.set arrived.beat.envId (registeredRow py arrived.beat (some row)),
        enrollHostProof py world.hosts.proofs (judgeHostProof py world.hosts.proofs
          (machinesOf arrived.beat (some row)) arrived.presented) arrived.presented
          arrived.beat.now⟩, .written) := by
    have proven := challenges.admitted.proven
    have remembered := challenges.admitted.remembered
    unfold World.row at proven remembered
    rw [here] at proven remembered
    unfold outcome recordEnvironmentHeartbeat
    dsimp only
    rw [here, if_neg (not_not.mpr proven), if_neg (by simp [remembered]), unrefused]
  rw [written]
  refine ⟨rfl, registeredRow py arrived.beat (some row), ?_, ?_⟩
  · rw [challenges.env]
    exact Dict.get?_set_self _ _ _
  · rw [registered_bridge, kept, if_neg challenges.declared, strip_strip]

theorem wrong_clock_yields {hosts : Hosts} {clock : Nat} {middle world : World}
    (calendar : Calendar py) (named : bridge ≠ "")
    (unheld : ∀ row, hosts.environments.get? envId = some row → strip row.bridgeId ≠ bridge)
    (run : Reaches (step py vocabulary) (Allowed py envId bridge start) (initial hosts clock)
      middle)
    (rest : Reaches (step py vocabulary) (Allowed py envId bridge start) middle world) :
    (∀ before row, middle.row envId = some before → strip before.bridgeId = bridge →
      world.row envId = some row → strip row.bridgeId = bridge →
        ¬ bridgeStartedAt py before.metadata < bridgeStartedAt py row.metadata) ∧
    ∀ id arrived, world.waiting id = some arrived → Challenges py envId bridge world arrived →
      (outcome py world arrived).2 = .written ∧
        ∃ row, (outcome py world arrived).1.environments.get? envId = some row ∧
          strip row.bridgeId = strip arrived.beat.bridgeId := by
  have bounded := reached_bounded calendar named unheld (run.trans rest)
  constructor
  · intro before row heldBefore holderBefore held holder
    obtain ⟨first, noted, startedBefore⟩ :=
      (reached_bounded calendar named unheld run).row before heldBefore holderBefore
    obtain ⟨again, same, started⟩ := bounded.row row held holder
    obtain rfl := Option.some.inj ((firstBeat_stays rest noted).symm.trans same)
    rw [startedBefore, started]
    exact lt_irrefl _
  · intro id arrived present challenges
    exact challenger_takes_row calendar bounded present challenges

end Runs

/-! ### A day of beats -/

/-- A time, the text the service writes for it, and that text in UTC. -/
structure Moment where
  time : Nat
  text : String
  utc : String

/-- Some times of a day, and one that is far ahead. -/
def dayTimes : List Moment :=
  [⟨1791072000, "2026-10-04T00:00:00Z", "2026-10-04T00:00:00+00:00"⟩,
    ⟨1791072120, "2026-10-04T00:02:00Z", "2026-10-04T00:02:00+00:00"⟩,
    ⟨1791072130, "2026-10-04T00:02:10Z", "2026-10-04T00:02:10+00:00"⟩,
    ⟨1791072240, "2026-10-04T00:04:00Z", "2026-10-04T00:04:00+00:00"⟩,
    ⟨1791072250, "2026-10-04T00:04:10Z", "2026-10-04T00:04:10+00:00"⟩,
    ⟨4070908800, "2099-01-01T00:00:00Z", "2099-01-01T00:00:00+00:00"⟩]

/-- How many of the times after the first have passed. -/
def dayMark (time : Nat) : Nat := dayTimes.tail.countP fun known => decide (known.time ≤ time)

def dayText (mark : Nat) : String := dayTimes[mark]?.elim "" Moment.text

def dayUtc (mark : Nat) : String := dayTimes[mark]?.elim "" Moment.utc

def dayTime (text : String) : Option Moment :=
  dayTimes.find? fun known => text == known.text || text == known.utc

/-- The library at those times; in between, the time is the last of them. -/
def dayLibrary : Stdlib where
  sha256 := id
  lower := lower
  showList := fun roots => toString roots
  iso := fun time => dayText (dayMark time)
  isoUtc := fun text => (dayTime text).map Moment.utc
  epoch := fun text => (dayTime text).elim 0 Moment.time

theorem dayMark_mono {earlier later : Nat} (ordered : earlier ≤ later) :
    dayMark earlier ≤ dayMark later := by
  refine List.countP_mono_left fun known _ passed => ?_
  exact decide_eq_true (Nat.le_trans (of_decide_eq_true passed) ordered)

theorem dayMark_lt (time : Nat) : dayMark time < 6 :=
  Nat.lt_succ_of_le List.countP_le_length

theorem day_ceiling (clock : Nat) : ceiling dayLibrary clock =
    dayUtc (dayMark (clock + skewTolerance)) := by
  have parsed : ∀ mark : Fin 6, parsedTimestamp dayLibrary (dayText mark) = dayUtc mark := by
    decide
  exact parsed ⟨dayMark (clock + skewTolerance), dayMark_lt _⟩

theorem day_calendar : Calendar dayLibrary := by
  have written : ∀ mark : Fin 6, dayUtc mark ≠ "" := by
    decide
  have stable : ∀ mark : Fin 6, parsedTimestamp dayLibrary (dayUtc mark) = dayUtc mark := by
    decide
  have sorted : ∀ one two : Fin 6, one ≤ two → dayUtc one ≤ dayUtc two := by
    decide
  constructor
  case readable =>
    intro clock
    rw [day_ceiling]
    exact written ⟨dayMark (clock + skewTolerance), dayMark_lt _⟩
  case stable =>
    intro clock
    rw [day_ceiling]
    exact stable ⟨dayMark (clock + skewTolerance), dayMark_lt _⟩
  case chronological =>
    intro earlier later ordered
    rw [day_ceiling, day_ceiling]
    exact sorted ⟨dayMark (earlier + skewTolerance), dayMark_lt _⟩
      ⟨dayMark (later + skewTolerance), dayMark_lt _⟩
      (dayMark_mono (Nat.add_le_add_right ordered _))

def devbox : String := "linux:devbox:default"

def devboxRequest (bridgeId started : String) : EnvironmentHeartbeat where
  label := ""
  machineId := "linux:devbox"
  os := "linux"
  kind := "linux"
  bridgeId := bridgeId
  bridgeVersion := ""
  launcherVersion := ""
  launcherRegistryFingerprint := ""
  cwdRoots := none
  runtimes := none
  terminal := none
  pty := none
  terminalRuntimes := none
  status := "online"
  metadata := Dict.empty.set "bridgeStartedAt" (.text started)

def devboxVocabulary : Vocabulary := ⟨lower, id⟩

def devboxStart : World := initial ⟨Dict.empty, Dict.empty⟩ 1791072000

def arrives (id : Nat) (bridgeId started : String) : Label :=
  .arrives id "" devbox (devboxRequest bridgeId started) 0

/-- The first bridge beats, and beats again while it is live; then a second one starts. -/
def firstBeats (started : String) : List Label := [arrives 1 "env-1" started, .records 1]

def secondBeats (started : String) : List Label :=
  [.tick 120, arrives 2 "env-1" started, .records 2, .tick 10,
    arrives 3 "env-2" "2026-10-04T00:02:10Z"]

/-- Whether the waiting beat of the second bridge is a challenge of the first one. -/
def challenged (world : World) (arrived : Arrived) : Bool :=
  decide (arrived.beat.envId = devbox ∧ strip arrived.beat.bridgeId ≠ "" ∧
    strip arrived.beat.bridgeId ≠ "env-1") &&
  ((world.row devbox).any fun row => decide (strip row.bridgeId = "env-1" ∧
    isHostTier dayLibrary arrived.beat.metadata = isHostTier dayLibrary row.metadata)) &&
  ((world.firstBeat devbox "env-1").any fun first => decide (first ≤ arrived.readAt ∧
    ceiling dayLibrary first < arrived.claimed)) &&
  decide ((judgeHostProof dayLibrary world.hosts.proofs
    (machinesOf arrived.beat (world.row arrived.beat.envId)) arrived.presented).refusal = "" ∧
    staysForgotten dayLibrary arrived.beat (world.row arrived.beat.envId) = false ∧
    arrived.beat.requestedStatus = "online")

theorem challenged_challenges {world : World} {arrived : Arrived}
    (seen : challenged world arrived = true) :
    Challenges dayLibrary devbox "env-1" world arrived := by
  simp only [challenged, Bool.and_eq_true, decide_eq_true_eq, Option.any_eq_true] at seen
  obtain ⟨⟨⟨⟨env, declared, other⟩, holder⟩, after⟩, proven, remembered, online⟩ := seen
  exact ⟨env, declared, other, holder, after, ⟨proven, remembered, online⟩⟩

def isWritten : Outcome → Bool
  | .written => true
  | _ => false

structure Seen where
  holder : Option String
  started : Option String
  challenged : Bool
  written : Bool
  deriving DecidableEq

def devboxSeen (world : World) : Seen where
  holder := (world.row devbox).map fun row => strip row.bridgeId
  started := (world.row devbox).map fun row => bridgeStartedAt dayLibrary row.metadata
  challenged := (world.waiting 3).any (challenged world)
  written := (world.waiting 3).any fun arrived => isWritten (outcome dayLibrary world arrived).2

/-- What was seen of a row that the first bridge holds. -/
theorem devboxSeen_row {world : World} {started : String}
    (holder : (devboxSeen world).holder = some "env-1")
    (seen : (devboxSeen world).started = some started) :
    ∃ row, world.row devbox = some row ∧ strip row.bridgeId = "env-1" ∧
      bridgeStartedAt dayLibrary row.metadata = started := by
  obtain ⟨row, held, holds⟩ := Option.map_eq_some_iff.mp holder
  refine ⟨row, held, holds, ?_⟩
  simp only [devboxSeen, held, Option.map_some, Option.some.injEq] at seen
  exact seen

def claimsOf (started : String) : Label → Bool
  | .arrives _ _ _ req _ => decide (strip req.bridgeId = "env-1" →
      bridgeStartedAt dayLibrary req.metadata = started)
  | _ => true

theorem claimsOf_constant {started : String} {label : Label} (granted : claimsOf started label = true) :
    ClaimsConstantly dayLibrary devbox "env-1" started label := by
  cases label with
  | arrives id presented env req elapsed => exact fun _ => of_decide_eq_true granted
  | _ => trivial

/-- A constant claim that the first beat's ceiling does not bound. -/
def claimsWithin (started : String) (world : World) (label : Label) : Bool :=
  claimsOf started label &&
    (world.firstBeat devbox "env-1").all fun first => decide (started ≤ ceiling dayLibrary first)

theorem claimsWithin_allowed (started : String) (world : World) (label : Label)
    (granted : claimsWithin started world label = true) :
    Allowed dayLibrary devbox "env-1" started world label := by
  obtain ⟨claims, within⟩ := (Bool.and_eq_true _ _).mp granted
  refine ⟨claimsOf_constant claims, ?_⟩
  cases label with
  | arrives id presented env req elapsed =>
      intro sameEnv sameBridge first noted ahead
      rw [noted, Option.all_some, decide_eq_true_eq] at within
      rw [claimsOf_constant claims sameEnv sameBridge] at ahead
      exact absurd within (not_le.mpr ahead)
  | _ => trivial

theorem unheld_devbox : ∀ row : Environment,
    (Dict.empty : Environments).get? devbox = some row → strip row.bridgeId ≠ "env-1" := by
  intro row held
  cases held

/-- A bridge two minutes ahead keeps its start time, and the next bridge takes the row. -/
theorem wrong_clock_yields_devbox : ∃ middle world arrived before row,
    Reaches (step dayLibrary devboxVocabulary)
      (Allowed dayLibrary devbox "env-1" "2026-10-04T00:02:00+00:00") devboxStart middle ∧
    Reaches (step dayLibrary devboxVocabulary)
      (Allowed dayLibrary devbox "env-1" "2026-10-04T00:02:00+00:00") middle world ∧
    middle.row devbox = some before ∧ world.row devbox = some row ∧
    ¬ bridgeStartedAt dayLibrary before.metadata < bridgeStartedAt dayLibrary row.metadata ∧
    world.waiting 3 = some arrived ∧ Challenges dayLibrary devbox "env-1" world arrived ∧
    (outcome dayLibrary world arrived).2 = .written := by
  have first : (exec (step dayLibrary devboxVocabulary) (claimsWithin "2026-10-04T00:02:00+00:00")
      devboxStart (firstBeats "2026-10-04T00:02:00Z")).map devboxSeen =
        some ⟨some "env-1", some "2026-10-04T00:02:00+00:00", false, false⟩ := by
    decide
  have second : (exec (step dayLibrary devboxVocabulary) (claimsWithin "2026-10-04T00:02:00+00:00")
      devboxStart (firstBeats "2026-10-04T00:02:00Z" ++ secondBeats "2026-10-04T00:02:00Z")).map
        devboxSeen = some ⟨some "env-1", some "2026-10-04T00:02:00+00:00", true, true⟩ := by
    decide
  obtain ⟨middle, world, run, rest, seenFirst, seenSecond⟩ :=
    reaches_both _ _ _ _ _ _ (claimsWithin_allowed _) first second
  obtain ⟨holderBefore, startedBefore, _, _⟩ := Seen.mk.inj seenFirst
  obtain ⟨holder, started, challenge, _⟩ := Seen.mk.inj seenSecond
  obtain ⟨before, heldBefore, holdsBefore, _⟩ := devboxSeen_row holderBefore startedBefore
  obtain ⟨row, held, holds, _⟩ := devboxSeen_row holder started
  obtain ⟨arrived, present, challenges⟩ := (Option.any_eq_true _ _).mp challenge
  have challenges := challenged_challenges challenges
  have yields := wrong_clock_yields day_calendar (by decide) unheld_devbox run rest
  exact ⟨middle, world, arrived, before, row, run, rest, heldBefore, held,
    yields.1 before row heldBefore holdsBefore held holds, present, challenges,
    (yields.2 3 arrived present challenges).1⟩

/-- A bridge that claims to have started in 2099 is recorded two minutes ahead at every beat,
and a bridge that starts two minutes after its first beat is refused. -/
theorem wrong_clock_holds : ∃ middle world arrived before row,
    Reaches (step dayLibrary devboxVocabulary)
      (fun _ => ClaimsConstantly dayLibrary devbox "env-1" "2099-01-01T00:00:00+00:00")
      devboxStart middle ∧
    Reaches (step dayLibrary devboxVocabulary)
      (fun _ => ClaimsConstantly dayLibrary devbox "env-1" "2099-01-01T00:00:00+00:00")
      middle world ∧
    middle.row devbox = some before ∧ strip before.bridgeId = "env-1" ∧
    world.row devbox = some row ∧ strip row.bridgeId = "env-1" ∧
    bridgeStartedAt dayLibrary before.metadata < bridgeStartedAt dayLibrary row.metadata ∧
    world.waiting 3 = some arrived ∧ Challenges dayLibrary devbox "env-1" world arrived ∧
    (outcome dayLibrary world arrived).2 ≠ .written := by
  have first : (exec (step dayLibrary devboxVocabulary)
      (fun _ => claimsOf "2099-01-01T00:00:00+00:00") devboxStart
      (firstBeats "2099-01-01T00:00:00Z")).map devboxSeen =
        some ⟨some "env-1", some "2026-10-04T00:02:00+00:00", false, false⟩ := by
    decide
  have second : (exec (step dayLibrary devboxVocabulary)
      (fun _ => claimsOf "2099-01-01T00:00:00+00:00") devboxStart
      (firstBeats "2099-01-01T00:00:00Z" ++ secondBeats "2099-01-01T00:00:00Z")).map devboxSeen =
        some ⟨some "env-1", some "2026-10-04T00:04:00+00:00", true, false⟩ := by
    decide
  obtain ⟨middle, world, run, rest, seenFirst, seenSecond⟩ :=
    reaches_both _ _ _ _ _ _ (fun _ _ granted => claimsOf_constant granted) first second
  obtain ⟨holderBefore, startedBefore, _, _⟩ := Seen.mk.inj seenFirst
  obtain ⟨holder, started, challenge, unwritten⟩ := Seen.mk.inj seenSecond
  obtain ⟨before, heldBefore, holdsBefore, recordedBefore⟩ :=
    devboxSeen_row holderBefore startedBefore
  obtain ⟨row, held, holds, recorded⟩ := devboxSeen_row holder started
  obtain ⟨arrived, present, challenges⟩ := (Option.any_eq_true _ _).mp challenge
  refine ⟨middle, world, arrived, before, row, run, rest, heldBefore, holdsBefore, held, holds, ?_,
    present, challenged_challenges challenges, ?_⟩
  · rw [recordedBefore, recorded]
    decide
  · intro taken
    simp only [present, Option.any_some, taken, isWritten] at unwritten
    cases unwritten

end AifyComms.EnvironmentBeats
