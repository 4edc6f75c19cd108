import AifyComms.BeatFrames
import Mathlib.Data.Prod.Lex

/-!
Beats of several bridges for one environment, `arbitrate_claim` over whole runs: a row that the
greatest of them holds, by host tier and then by start time, while it keeps beating.
-/

namespace AifyComms.BeatArbitration
open PyText HostProof EnvironmentBeats BeatFrames Runs

/-- What arbitration reads of a bridge: whether it is of the host tier, and when it started. -/
abbrev Rank := Bool × String

def rankOf (py : Stdlib) (metadata : Metadata) : Rank :=
  (isHostTier py metadata, bridgeStartedAt py metadata)

/-- The beats under way, and when the holder was last heard: the time of its last beat that was
written. No code reads `spoke`. -/
structure Watched where
  world : World
  spoke : Nat

section Watching
variable (py : Stdlib) (envId holder : String)

def spokeAfter (watched : Watched) : Label → Nat
  | .records id =>
      ((watched.world.waiting id).filter fun arrived =>
        decide (arrived.beat.envId = envId ∧ strip arrived.beat.bridgeId = holder) &&
          isWritten (outcome py watched.world arrived).2).elim watched.spoke (·.beat.now)
  | _ => watched.spoke

def watch (vocabulary : Vocabulary) (watched : Watched) (label : Label) : Option Watched :=
  (step py vocabulary watched.world label).map fun after =>
    ⟨after, spokeAfter py envId holder watched label⟩

/-- The time a bridge was last heard is within the liveness window, as its stamp is judged. -/
def Live (clock spoke : Nat) : Prop :=
  hasLiveBridge py clock (Dict.empty.set "bridgeLastSeen" (.text (py.iso spoke))) = true

/-- A beat for the environment that names another bridge. -/
def Rival (beat : EnvironmentBeat) : Prop :=
  beat.envId = envId ∧ strip beat.bridgeId ≠ "" ∧ strip beat.bridgeId ≠ holder

-- The bridges of the run, each with its kind and its start time.
variable (bridges : Set String) (ranks : String → Rank)

/-- What a run of the claim meets before each step. Every beat carries its bridge's own rank,
with a start time that is not past the tolerance for clocks; the holder was heard within the
window when a rival's beat is recorded; and nobody forgets the environment. -/
def Allowed (watched : Watched) : Label → Prop
  | .tick _ => True
  | .arrives _ _ env req elapsed => env = envId → strip req.bridgeId ≠ "" →
      strip req.bridgeId ∈ bridges ∧ rankOf py req.metadata = ranks (strip req.bridgeId) ∧
        bridgeStartedAt py req.metadata ≤ ceiling py (watched.world.clock + elapsed)
  | .records id => ∀ arrived, watched.world.waiting id = some arrived →
      Rival envId holder arrived.beat → Live py watched.world.clock watched.spoke
  | .forgets env _ => env ≠ envId

/-- A beat carries the rank of the bridge it names. -/
def Ranked (beat : EnvironmentBeat) : Prop :=
  beat.envId = envId → strip beat.bridgeId ≠ "" →
    strip beat.bridgeId ∈ bridges ∧ rankOf py beat.metadata = ranks (strip beat.bridgeId)

/-- The row is the holder's, with its rank and the time it was last heard. -/
def HolderRow (spoke : Nat) (row : Environment) : Prop :=
  strip row.bridgeId = holder ∧ rankOf py row.metadata = ranks holder ∧
    row.metadata.get? "bridgeLastSeen" = some (.text (py.iso spoke))

structure Held (watched : Watched) : Prop where
  row : ∃ row, watched.world.row envId = some row ∧ HolderRow py holder ranks watched.spoke row
  waiting : ∀ id arrived, watched.world.waiting id = some arrived →
    Ranked py envId bridges ranks arrived.beat

end Watching

section
variable {py : Stdlib} {vocabulary : Vocabulary} {envId holder : String} {bridges : Set String}
  {ranks : String → Rank}

/-! ### A beat carries its rank -/

theorem rankOf_congr {one two : Metadata}
    (kind : one.get? "bridgeKind" = two.get? "bridgeKind")
    (start : one.get? "bridgeStartedAt" = two.get? "bridgeStartedAt") :
    rankOf py one = rankOf py two := by
  rw [rankOf, rankOf, started_congr start, isHostTier, isHostTier, textAt, textAt, kind]

theorem boundStart_within {clock : Nat} {metadata : Metadata}
    (within : bridgeStartedAt py metadata ≤ ceiling py clock) : boundStart py clock metadata = metadata := by
  unfold boundStart
  split
  · rfl
  · next value sent =>
    have claimed : bridgeStartedAt py metadata = parsedTimestamp py value.shown := by
      rw [bridgeStartedAt, textAt, sent, Option.elim_some]
    rw [claimed] at within
    simp [not_lt.mpr within]

theorem fromRequest_rank {req : EnvironmentHeartbeat} {clock : Nat}
    (within : bridgeStartedAt py req.metadata ≤ ceiling py clock) (now : Nat) :
    rankOf py (fromRequest py vocabulary now clock envId req).metadata = rankOf py req.metadata := by
  have silent : ∀ key, key ≠ "terminal" → key ≠ "pty" → key ≠ "terminalRuntimes" →
      Silent req key := fun key one two three =>
    ⟨fun same => absurd same one, fun same => absurd same two, fun same => absurd same three⟩
  have bounded : boundStart py clock (req.metadata.erase "heldTerminals") =
      req.metadata.erase "heldTerminals" := by
    apply boundStart_within
    rwa [started_congr (erase_started req.metadata)]
  apply rankOf_congr
  · exact fromRequest_get (silent _ (by decide) (by decide) (by decide)) (by decide) (by decide) _ _
      _ _ _
  · rw [fromRequest_started, bounded, erase_started]

/-! ### The holder keeps its row -/

theorem live_of_stamp {metadata : Metadata} {clock spoke : Nat}
    (stamp : metadata.get? "bridgeLastSeen" = some (.text (py.iso spoke)))
    (live : Live py clock spoke) : hasLiveBridge py clock metadata = true := by
  have same : textAt metadata "bridgeLastSeen" =
      textAt (Dict.empty.set "bridgeLastSeen" (.text (py.iso spoke))) "bridgeLastSeen" := by
    rw [textAt, textAt, stamp, Dict.get?_set_self]
  unfold Live at live
  unfold hasLiveBridge at live ⊢
  rw [same]
  exact live

/-- Between two ranks arbitration decides for the greater one. -/
theorem arbitrateBridges_lower {clock : Nat} {beat : EnvironmentBeat} {row : Environment}
    (lower : toLex (rankOf py beat.metadata) < toLex (rankOf py row.metadata))
    (live : hasLiveBridge py clock row.metadata = true) :
    (arbitrateBridges py clock beat row).isSome = true := by
  rw [rankOf, rankOf, Prod.Lex.toLex_lt_toLex] at lower
  unfold arbitrateBridges
  dsimp only at lower ⊢
  rcases lower with tier | ⟨same, earlier⟩
  · obtain ⟨legacy, host⟩ := Bool.lt_iff.mp tier
    simp [legacy, host]
  · have known : bridgeStartedAt py row.metadata ≠ "" := by
      intro blank
      rw [blank] at earlier
      exact not_lt_empty _ earlier
    cases tiers : isHostTier py row.metadata <;> simp [same, tiers, live, known, earlier]

theorem arbitrateClaim_lower {clock : Nat} {beat : EnvironmentBeat} {row : Environment}
    (rival : Rival envId holder beat) (named : holder ≠ "") (holds : strip row.bridgeId = holder)
    (lower : toLex (rankOf py beat.metadata) < toLex (rankOf py row.metadata))
    (live : hasLiveBridge py clock row.metadata = true) :
    (arbitrateClaim py clock beat (some row)).isSome = true := by
  have contested : ¬ (strip row.bridgeId = "" ∨ strip beat.bridgeId = "" ∨
      strip row.bridgeId = strip beat.bridgeId) := by
    rw [holds]
    rintro (blank | blank | same)
    · exact named blank
    · exact rival.2.1 blank
    · exact rival.2.2 same.symm
  rw [arbitrateClaim, Option.bind_some, if_neg contested, Option.isSome_or,
    arbitrateBridges_lower lower live, Bool.true_or]

theorem record_refused {clock : Nat} {presented : String} {beat : EnvironmentBeat} {hosts : Hosts}
    (refused : (arbitrateClaim py clock beat (hosts.environments.get? beat.envId)).isSome = true) :
    (recordEnvironmentHeartbeat py clock presented beat hosts).1 = hosts ∧
      isWritten (recordEnvironmentHeartbeat py clock presented beat hosts).2 = false := by
  obtain ⟨claimer, against⟩ := Option.isSome_iff_exists.mp refused
  unfold recordEnvironmentHeartbeat
  dsimp only
  rw [against]
  split
  · exact ⟨rfl, rfl⟩
  · split
    · exact ⟨rfl, rfl⟩
    · exact ⟨rfl, rfl⟩

theorem rival_refused {watched : Watched} {arrived : Arrived} (named : holder ≠ "")
    (greatest : ∀ bridge ∈ bridges, bridge ≠ holder → toLex (ranks bridge) < toLex (ranks holder))
    (held : Held py envId holder bridges ranks watched)
    (ranked : Ranked py envId bridges ranks arrived.beat) (rival : Rival envId holder arrived.beat)
    (live : Live py watched.world.clock watched.spoke) :
    (outcome py watched.world arrived).1 = watched.world.hosts ∧
      isWritten (outcome py watched.world arrived).2 = false := by
  obtain ⟨row, present, holds, rank, stamp⟩ := held.row
  have ⟨known, own⟩ := ranked rival.1 rival.2.1
  have lower : toLex (rankOf py arrived.beat.metadata) < toLex (rankOf py row.metadata) := by
    rw [own, rank]
    exact greatest _ known rival.2.2
  apply record_refused
  have here : watched.world.hosts.environments.get? arrived.beat.envId = some row := by
    rw [rival.1]
    exact present
  rw [here]
  exact arbitrateClaim_lower rival named holds lower (live_of_stamp stamp live)

/-- A beat is written, and its row is in the table, or nothing changes. -/
theorem record_cases (clock : Nat) (presented : String) (beat : EnvironmentBeat) (hosts : Hosts) :
    (isWritten (recordEnvironmentHeartbeat py clock presented beat hosts).2 = true ∧
      (recordEnvironmentHeartbeat py clock presented beat hosts).1.environments =
        hosts.environments.set beat.envId
          (registeredRow py beat (hosts.environments.get? beat.envId))) ∨
    (isWritten (recordEnvironmentHeartbeat py clock presented beat hosts).2 = false ∧
      (recordEnvironmentHeartbeat py clock presented beat hosts).1 = hosts) := by
  unfold recordEnvironmentHeartbeat
  dsimp only
  split
  · exact .inr ⟨rfl, rfl⟩
  · split
    · exact .inr ⟨rfl, rfl⟩
    · split
      · exact .inr ⟨rfl, rfl⟩
      · exact .inl ⟨rfl, rfl⟩

theorem updatedRow_rank (beat : EnvironmentBeat) (row : Environment) :
    rankOf py (updatedRow py beat row).metadata =
      if declaresBridge beat then rankOf py beat.metadata else rankOf py row.metadata := by
  have kindKey : isBridgeKey "bridgeKind" = true := by decide
  have startKey : isBridgeKey "bridgeStartedAt" = true := by decide
  have kind := nextMetadata_bridge py beat row.metadata kindKey
  have start := nextMetadata_bridge py beat row.metadata startKey
  rw [if_neg (by decide : ¬ "bridgeKind" = "bridgeLastSeen")] at kind
  rw [if_neg (by decide : ¬ "bridgeStartedAt" = "bridgeLastSeen")] at start
  rw [updatedRow_metadata]
  split
  · next declared =>
    rw [if_pos declared] at kind start
    exact rankOf_congr kind start
  · next silent =>
    rw [if_neg silent] at kind start
    exact rankOf_congr kind start

theorem updatedRow_stamp (beat : EnvironmentBeat) (row : Environment) :
    (updatedRow py beat row).metadata.get? "bridgeLastSeen" =
      if declaresBridge beat then some (.text (py.iso beat.now))
      else row.metadata.get? "bridgeLastSeen" := by
  have owned : isBridgeKey "bridgeLastSeen" = true := by decide
  have stamp := nextMetadata_bridge py beat row.metadata owned
  rw [if_pos rfl] at stamp
  rw [updatedRow_metadata]
  exact stamp

/-- A beat that names no bridge leaves the holder's row to it. -/
theorem holderRow_silent {beat : EnvironmentBeat} {row : Environment} {spoke : Nat}
    (holds : HolderRow py holder ranks spoke row) (unnamed : strip beat.bridgeId = "") :
    HolderRow py holder ranks spoke (updatedRow py beat row) := by
  have silent : ¬ declaresBridge beat = true := by simp [declaresBridge, unnamed]
  refine ⟨?_, ?_, ?_⟩
  · rw [updatedRow_bridgeId unnamed]
    exact holds.1
  · rw [updatedRow_rank, if_neg silent]
    exact holds.2.1
  · rw [updatedRow_stamp, if_neg silent]
    exact holds.2.2

/-- A beat of the holder renews its row. -/
theorem holderRow_own {beat : EnvironmentBeat} (named : holder ≠ "")
    (own : strip beat.bridgeId = holder) (rank : rankOf py beat.metadata = ranks holder)
    (row : Environment) : HolderRow py holder ranks beat.now (updatedRow py beat row) := by
  have some : strip beat.bridgeId ≠ "" := own ▸ named
  have declared : declaresBridge beat = true := decide_eq_true some
  have column : (updatedRow py beat row).bridgeId = strip beat.bridgeId := by
    rw [updatedRow]
    dsimp only
    rw [kept, if_neg some]
  refine ⟨?_, ?_, ?_⟩
  · rw [column, strip_strip, own]
  · rw [updatedRow_rank, if_pos declared, rank]
  · rw [updatedRow_stamp, if_pos declared]

theorem arrive_ranked {watched : Watched} {id : Nat} {presented env : String}
    {req : EnvironmentHeartbeat} {elapsed : Nat}
    (allowed : Allowed py envId holder bridges ranks watched (.arrives id presented env req elapsed))
    (now : Nat) : Ranked py envId bridges ranks
      (fromRequest py vocabulary now (watched.world.clock + elapsed) env req) := by
  intro here named
  have ⟨known, rank, within⟩ := allowed here named
  exact ⟨known, (fromRequest_rank within now).trans rank⟩

theorem records_held {watched : Watched} {id : Nat} {arrived : Arrived} (named : holder ≠ "")
    (greatest : ∀ bridge ∈ bridges, bridge ≠ holder → toLex (ranks bridge) < toLex (ranks holder))
    (held : Held py envId holder bridges ranks watched)
    (present : watched.world.waiting id = some arrived)
    (allowed : Allowed py envId holder bridges ranks watched (.records id)) :
    ∃ row, (outcome py watched.world arrived).1.environments.get? envId = some row ∧
      HolderRow py holder ranks (spokeAfter py envId holder watched (.records id)) row := by
  obtain ⟨row, listed, holds⟩ := held.row
  have listed : watched.world.hosts.environments.get? envId = some row := listed
  have ranked := held.waiting id arrived present
  have heard : spokeAfter py envId holder watched (.records id) =
      if (arrived.beat.envId = envId ∧ strip arrived.beat.bridgeId = holder) ∧
        isWritten (outcome py watched.world arrived).2 = true then arrived.beat.now
      else watched.spoke := by
    simp only [spokeAfter, present, Option.filter_some, Bool.and_eq_true, decide_eq_true_eq]
    split <;> rfl
  rw [heard]
  rcases record_cases watched.world.clock arrived.presented arrived.beat watched.world.hosts with
    ⟨written, table⟩ | ⟨unwritten, same⟩
  · have written : isWritten (outcome py watched.world arrived).2 = true := written
    have table : (outcome py watched.world arrived).1.environments = watched.world.hosts.environments.set
      arrived.beat.envId (registeredRow py arrived.beat
        (watched.world.hosts.environments.get? arrived.beat.envId)) := table
    rw [table]
    by_cases here : arrived.beat.envId = envId
    · have found : (watched.world.hosts.environments.set arrived.beat.envId (registeredRow py
          arrived.beat (watched.world.hosts.environments.get? arrived.beat.envId))).get? envId =
          some (updatedRow py arrived.beat row) := by
        rw [here, Dict.get?_set_self, listed, registeredRow, Option.elim_some]
      refine ⟨_, found, ?_⟩
      by_cases unnamed : strip arrived.beat.bridgeId = ""
      · have other : ¬ ((arrived.beat.envId = envId ∧ strip arrived.beat.bridgeId = holder) ∧
            isWritten (outcome py watched.world arrived).2 = true) := by
          rintro ⟨⟨_, own⟩, _⟩
          exact named (own.symm.trans unnamed)
        rw [if_neg other]
        exact holderRow_silent holds unnamed
      · by_cases own : strip arrived.beat.bridgeId = holder
        · rw [if_pos ⟨⟨here, own⟩, written⟩]
          obtain ⟨_, rank⟩ := ranked here unnamed
          rw [own] at rank
          exact holderRow_own named own rank row
        · -- A rival's beat would not have been written.
          have rival : Rival envId holder arrived.beat := ⟨here, unnamed, own⟩
          have refused := rival_refused named greatest held ranked rival (allowed arrived present rival)
          rw [refused.2] at written
          cases written
    · rw [Dict.get?_set_ne _ _ here, if_neg (fun both => here both.1.1)]
      exact ⟨row, listed, holds⟩
  · have unwritten : isWritten (outcome py watched.world arrived).2 = false := unwritten
    have same : (outcome py watched.world arrived).1 = watched.world.hosts := same
    rw [same, if_neg (by simp [unwritten])]
    exact ⟨row, listed, holds⟩

theorem watch_held {watched after : Watched} {label : Label} (named : holder ≠ "")
    (greatest : ∀ bridge ∈ bridges, bridge ≠ holder → toLex (ranks bridge) < toLex (ranks holder))
    (held : Held py envId holder bridges ranks watched)
    (allowed : Allowed py envId holder bridges ranks watched label)
    (taken : watch py envId holder vocabulary watched label = some after) :
    Held py envId holder bridges ranks after := by
  obtain ⟨world, moved, rfl⟩ := Option.map_eq_some_iff.mp taken
  cases label with
  | tick seconds =>
      obtain rfl := Option.some.inj moved
      exact ⟨held.row, held.waiting⟩
  | arrives id presented env req elapsed =>
      obtain ⟨_, same⟩ := Option.ite_none_left_eq_some.mp moved
      obtain rfl := Option.some.inj same
      refine ⟨held.row, fun other arrived present => ?_⟩
      rcases update_some present with ⟨_, same⟩ | before
      · obtain rfl := Option.some.inj same
        exact arrive_ranked allowed _
      · exact held.waiting other arrived before
  | records id =>
      obtain ⟨arrived, present, rfl⟩ := Option.map_eq_some_iff.mp moved
      refine ⟨records_held named greatest held present allowed, fun other beat waits => ?_⟩
      rcases update_some waits with ⟨_, gone⟩ | before
      · cases gone
      · exact held.waiting other beat before
  | forgets env actor =>
      obtain rfl := Option.some.inj moved
      obtain ⟨row, listed, holds⟩ := held.row
      refine ⟨⟨row, ?_, holds⟩, held.waiting⟩
      have other : env ≠ envId := allowed
      unfold World.row at listed ⊢
      rw [Dict.get?_modify, if_neg (Ne.symm other)]
      exact listed

/-- While the greatest bridge holds the row and keeps beating, no beat of another changes
anything. -/
theorem arbitration_stable {start watched : Watched} (named : holder ≠ "")
    (greatest : ∀ bridge ∈ bridges, bridge ≠ holder → toLex (ranks bridge) < toLex (ranks holder))
    (held : Held py envId holder bridges ranks start)
    (run : Reaches (watch py envId holder vocabulary) (Allowed py envId holder bridges ranks) start
      watched) :
    (∃ row, watched.world.row envId = some row ∧ strip row.bridgeId = holder) ∧
      ∀ id arrived, watched.world.waiting id = some arrived → Rival envId holder arrived.beat →
        Live py watched.world.clock watched.spoke →
          (outcome py watched.world arrived).1 = watched.world.hosts := by
  have holds := run.invariant (Held py envId holder bridges ranks) held
    fun _ _ _ held allowed taken => watch_held named greatest held allowed taken
  refine ⟨?_, fun id arrived present rival live => ?_⟩
  · obtain ⟨row, listed, own, _⟩ := holds.row
    exact ⟨row, listed, own⟩
  · exact (rival_refused named greatest holds (holds.waiting id arrived present) rival live).1

end

/-! ### An older bridge beats again -/

/-- The second bridge of the devbox started two minutes before the one that holds the row. -/
def devboxRanks (bridge : String) : Rank :=
  (false, if bridge = "env-1" then "2026-10-04T00:02:00+00:00" else "2026-10-04T00:00:00+00:00")

def devboxHeld : Watched where
  world := initial ⟨Dict.empty.set devbox { heldRow with
    metadata := (Dict.empty.set "bridgeStartedAt" (.text "2026-10-04T00:02:00Z")).set
      "bridgeLastSeen" (.text "2026-10-04T00:02:00Z") }, Dict.empty⟩ 1791072130
  spoke := 1791072120

def devboxRival : EnvironmentHeartbeat := devboxRequest "env-2" "2026-10-04T00:00:00Z"

theorem arrive_waiting (py : Stdlib) (vocabulary : Vocabulary) (id : Nat) (presented env : String)
    (req : EnvironmentHeartbeat) (elapsed : Nat) (world : World) :
    (arrive py vocabulary id presented env req elapsed world).waiting id = some
      { presented := presented
        beat := fromRequest py vocabulary world.clock (world.clock + elapsed) env req
        claimed := bridgeStartedAt py req.metadata
        readAt := world.clock + elapsed } := by
  rw [arrive]
  exact Function.update_self _ _ _

theorem older_bridge_refused : ∃ watched arrived,
    Reaches (watch dayLibrary devbox "env-1" devboxVocabulary)
      (Allowed dayLibrary devbox "env-1" ({"env-1", "env-2"} : Set String) devboxRanks) devboxHeld
      watched ∧
    watched.world.waiting 1 = some arrived ∧ Rival devbox "env-1" arrived.beat ∧
    Live dayLibrary watched.world.clock watched.spoke ∧
    (outcome dayLibrary watched.world arrived).1 = watched.world.hosts := by
  have greatest : ∀ bridge ∈ ({"env-1", "env-2"} : Set String), bridge ≠ "env-1" →
      toLex (devboxRanks bridge) < toLex (devboxRanks "env-1") := by
    rintro bridge (rfl | rfl) other
    · exact absurd rfl other
    · rw [Prod.Lex.toLex_lt_toLex]
      exact .inr ⟨rfl, by decide⟩
  have held : Held dayLibrary devbox "env-1" ({"env-1", "env-2"} : Set String) devboxRanks
      devboxHeld := by
    constructor
    · refine ⟨_, Dict.get?_set_self _ _ _, ?_, ?_, ?_⟩
      · decide
      · decide
      · decide
    · exact fun id arrived present => by cases present
  have allowed : Allowed dayLibrary devbox "env-1" ({"env-1", "env-2"} : Set String) devboxRanks
      devboxHeld (.arrives 1 "" devbox devboxRival 0) := by
    intro _ _
    have name : strip devboxRival.bridgeId = "env-2" := by decide
    have within : bridgeStartedAt dayLibrary devboxRival.metadata ≤
        ceiling dayLibrary (devboxHeld.world.clock + 0) := by decide
    have rank : rankOf dayLibrary devboxRival.metadata = devboxRanks "env-2" := by decide
    rw [name]
    exact ⟨.inr rfl, rank, within⟩
  have run : Reaches (watch dayLibrary devbox "env-1" devboxVocabulary)
      (Allowed dayLibrary devbox "env-1" ({"env-1", "env-2"} : Set String) devboxRanks) devboxHeld
      ⟨arrive dayLibrary devboxVocabulary 1 "" devbox devboxRival 0 devboxHeld.world, 1791072120⟩ :=
    .tail _ .refl allowed rfl
  have rival : Rival devbox "env-1" (fromRequest dayLibrary devboxVocabulary devboxHeld.world.clock
      (devboxHeld.world.clock + 0) devbox devboxRival) := by
    refine ⟨rfl, ?_, ?_⟩
    · decide
    · decide
  have live : Live dayLibrary (devboxHeld.world.clock + 0) 1791072120 := by
    unfold Live
    decide
  have waits := arrive_waiting dayLibrary devboxVocabulary 1 "" devbox devboxRival 0 devboxHeld.world
  exact ⟨_, _, run, waits, rival, live,
    (arbitration_stable (by decide) greatest held run).2 1 _ waits rival live⟩

end AifyComms.BeatArbitration
