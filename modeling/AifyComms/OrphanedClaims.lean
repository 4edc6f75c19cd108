import AifyComms.Dict
import AifyComms.PyText
import AifyComms.Runs
import Mathlib.Data.List.Sort

/-!
Claims that their bridge left behind, `_requeue_orphaned_claimed_runs` of
`reconcilers/dispatch_queue.py`: a sweep selects the runs that a silent bridge has held for
longer than a grace period and that were never delivered, and then puts them back in the queue
one by one.

Between the selection and each UPDATE come the requests of everybody else: heartbeats, claims,
reports, other sweeps, and the rescue `_requeue_instead_of_failing_undelivered_claim`, which
takes back a claim without asking which. Time is in the seconds that the columns hold.
-/

namespace AifyComms.OrphanedClaims
open Runs PyText

/-- `ACTIVE_RUN_BRIDGE_STALE_SECONDS`. -/
def activeRunBridgeStaleSeconds : Nat := 120

inductive Status where
  | queued
  | claimed
  | delivered
  | running
  | completed
  | failed
  | cancelled
  deriving DecidableEq

/-- A row of `dispatch_runs`. Claims are numbered as they are made; `claim` is the number of the
last one on this row. -/
structure RunRow where
  targetAgent : String
  status : Status
  claimBridgeId : String
  claimMachineId : String
  claimedAt : Option Nat
  claim : Nat
  deriving DecidableEq

structure Event where
  runId : String
  eventType : String
  text : String
  deriving DecidableEq

/-- A sweep past its SELECT, with the rows it has not come to. -/
structure Sweep where
  graceSeconds : Nat
  rows : List (String × RunRow)
  deriving DecidableEq

/-- A requeue that a sweep made, with what held of the run when it made it. -/
structure Requeue where
  runId : String
  claim : Nat
  graceSeconds : Nat
  claimedAt : Option Nat
  bridgeId : String
  lastSeen : Option Nat
  requeuedAt : Nat
  wasDelivered : Bool
  deriving DecidableEq

/-- `bridges` is `last_seen` of `bridge_instances`; `claims` and `requeues` are kept to count by. -/
structure World where
  clock : Nat
  runs : Dict String RunRow
  events : List Event
  bridges : Dict String Nat
  sweeps : Nat → Option Sweep
  begun : Nat
  claims : Nat
  requeues : List Requeue

def initial : World :=
  ⟨0, .empty, [], .empty, fun _ => none, 0, 0, []⟩

/-! ### The sweep -/

/-- `datetime(bi.last_seen) > datetime('now', ?)` of some row of the bridge. -/
def World.bridgeFresh (world : World) (bridgeId : String) : Bool :=
  (world.bridges.get? bridgeId).any fun lastSeen =>
    decide (world.clock < lastSeen + activeRunBridgeStaleSeconds)

def World.orphaned (world : World) (bridgeId : String) : Bool :=
  bridgeId = "" || !world.bridgeFresh bridgeId

def hasDelivered (events : List Event) (runId : String) : Bool :=
  events.any fun event => event.runId = runId && event.eventType = "delivered"

def World.wasDelivered (world : World) (runId : String) : Bool := hasDelivered world.events runId

/-- `max(1, int(grace_seconds))`. -/
def grace (graceSeconds : Nat) : Nat := max 1 graceSeconds

def World.selects (world : World) (graceSeconds : Nat) (entry : String × RunRow) : Bool :=
  entry.2.status = .claimed &&
    entry.2.claimedAt.any (fun claimedAt => claimedAt + grace graceSeconds ≤ world.clock) &&
    !world.wasDelivered entry.1 && world.orphaned entry.2.claimBridgeId

/-- The SELECT: the oldest claims first, at most `max(1, limit)` of them. -/
def World.selection (world : World) (graceSeconds limit : Nat) : List (String × RunRow) :=
  ((world.runs.entries.filter (world.selects graceSeconds)).insertionSort fun first second =>
    first.2.claimedAt.getD 0 ≤ second.2.claimedAt.getD 0).take (max 1 limit)

def World.append (world : World) (runId eventType text : String) : World :=
  { world with events := world.events ++ [⟨runId, eventType, text⟩] }

def RunRow.unclaimed (row : RunRow) : RunRow :=
  { row with status := .queued, claimBridgeId := "", claimMachineId := "", claimedAt := none }

def requeuedText (graceSeconds : Nat) (deadBridge : String) : String :=
  "Requeued: claim bridge '" ++ deadBridge ++ "' is dead/stale and the run was " ++
    "never delivered (stranded at 'claimed' >" ++ toString graceSeconds ++ "s). A live " ++
    "bridge will re-claim."

/-- The UPDATE matches the row it finds: still the claim that was selected, its bridge still
silent. -/
def World.matchesClaim (world : World) (selected held : RunRow) : Bool :=
  held.status = .claimed && held.claimBridgeId = selected.claimBridgeId &&
    held.claimedAt = selected.claimedAt && world.orphaned held.claimBridgeId

/-- One round of the loop. -/
def World.requeueOne (world : World) (graceSeconds : Nat) (entry : String × RunRow) : World :=
  let runId := strip entry.1
  if runId = "" then world
  else
    match world.runs.get? runId with
    | none => world
    | some held =>
        if world.matchesClaim entry.2 held then
          let bridge := strip entry.2.claimBridgeId
          let deadBridge := if bridge = "" then "(none)" else bridge
          { (world.append runId "requeued_orphaned_claim"
              (requeuedText graceSeconds deadBridge)) with
            runs := world.runs.set runId held.unclaimed
            requeues := world.requeues ++ [⟨runId, held.claim, graceSeconds, held.claimedAt,
              held.claimBridgeId, world.bridges.get? held.claimBridgeId, world.clock,
              world.wasDelivered runId⟩] }
        else world

/-! ### Everybody else -/

inductive Label where
  | tick (seconds : Nat)
  | beat (bridgeId : String)
  | forget (bridgeId : String)
  | enqueue (runId targetAgent : String)
  | claim (runId machineId bridgeId : String)
  | report (runId : String) (status : Option Status) (event : Option (String × String))
  | rescue (runId text : String)
  | delete (runId : String)
  | select (graceSeconds limit : Nat)
  | requeue (sweep : Nat)

/-- Run ids are minted without blanks. A claim finds its run queued under the write lock. A
report writes its status and its event in one transaction. -/
def step (world : World) : Label → Option World
  | .tick seconds => some { world with clock := world.clock + seconds }
  | .beat bridgeId => some { world with bridges := world.bridges.set bridgeId world.clock }
  | .forget bridgeId => some { world with bridges := world.bridges.erase bridgeId }
  | .enqueue runId targetAgent =>
      if strip runId = runId ∧ world.runs.get? runId = none then
        some { world with
          runs := world.runs.set runId ⟨targetAgent, .queued, "", "", none, world.claims⟩ }
      else none
  | .claim runId machineId bridgeId => (world.runs.get? runId).bind fun row =>
      if row.status = .queued then
        some { (world.append runId "claimed" ("machine=" ++ machineId)) with
          runs := world.runs.set runId { row with
            status := .claimed
            claimBridgeId := bridgeId
            claimMachineId := machineId
            claimedAt := some world.clock
            claim := world.claims }
          claims := world.claims + 1 }
      else none
  | .report runId status event => (world.runs.get? runId).map fun row =>
      { world with
        runs := world.runs.set runId { row with status := status.getD row.status }
        events := world.events ++ (event.map fun said => ⟨runId, said.1, said.2⟩).toList }
  | .rescue runId text => (world.runs.get? runId).map fun row =>
      { world.append runId "requeued_orphaned_claim" text with
        runs := world.runs.set runId (if row.status = .claimed then row.unclaimed else row) }
  | .delete runId => some { world with runs := world.runs.erase runId }
  | .select graceSeconds limit =>
      some { world with
        sweeps := Function.update world.sweeps world.begun
          (some ⟨graceSeconds, world.selection graceSeconds limit⟩)
        begun := world.begun + 1 }
  | .requeue sweep => (world.sweeps sweep).bind fun current =>
      match current.rows with
      | [] => none
      | entry :: rest =>
          some { world.requeueOne current.graceSeconds entry with
            sweeps := Function.update world.sweeps sweep (some { current with rows := rest }) }

/-- What the bridges report: one of the statuses they know, of which `claimed` is none, and a
status with every delivery. -/
def Reported (_ : World) : Label → Prop
  | .report _ status event =>
      status ≠ some .claimed ∧ ∀ said, event = some said → said.1 = "delivered" → status ≠ none
  | _ => True

/-! ### What a run keeps -/

/-- A claim is on one row at a time, and off every row once a sweep has taken it back. -/
structure Rows (runs : Dict String RunRow) (claims : Nat) (requeues : List Requeue) : Prop where
  minted : ∀ {id row}, runs.get? id = some row → strip id = id
  numbered : ∀ {id row}, runs.get? id = some row → row.status = .claimed →
    row.claim < claims ∧ row.claim ∉ requeues.map Requeue.claim
  apart : ∀ {id other row second}, runs.get? id = some row → runs.get? other = some second →
    row.status = .claimed → second.status = .claimed → row.claim = second.claim → id = other
  counted : ∀ requeue ∈ requeues, requeue.claim < claims
  once : (requeues.map Requeue.claim).Nodup

/-- A row that a sweep has selected. While the run still shows that claim, it has not been
delivered. -/
structure Pending (clock : Nat) (runs : Dict String RunRow) (events : List Event)
    (graceSeconds : Nat) (entry : String × RunRow) (claimedAt : Nat) : Prop where
  minted : strip entry.1 = entry.1
  stamped : entry.2.claimedAt = some claimedAt
  old : claimedAt + grace graceSeconds ≤ clock
  silent : ∀ held, runs.get? entry.1 = some held → held.status = .claimed →
    held.claimedAt = some claimedAt → hasDelivered events entry.1 = false

/-- A claim that was old, unattended and never delivered. -/
structure Requeue.Sound (requeue : Requeue) : Prop where
  old : ∃ claimedAt, requeue.claimedAt = some claimedAt ∧
    claimedAt + grace requeue.graceSeconds ≤ requeue.requeuedAt
  unattended : requeue.bridgeId = "" ∨ ∀ lastSeen, requeue.lastSeen = some lastSeen →
    lastSeen + activeRunBridgeStaleSeconds ≤ requeue.requeuedAt
  undelivered : requeue.wasDelivered = false

structure Kept (world : World) : Prop where
  rows : Rows world.runs world.claims world.requeues
  pending : ∀ {number sweep}, world.sweeps number = some sweep → ∀ entry ∈ sweep.rows,
    ∃ claimedAt, Pending world.clock world.runs world.events sweep.graceSeconds entry claimedAt
  sound : ∀ requeue ∈ world.requeues, requeue.Sound

section Parts
variable {runs next : Dict String RunRow} {claims : Nat} {requeues : List Requeue}

/-- A row that is not claimed replaces whatever stood there. -/
theorem Rows.free (rows : Rows runs claims requeues) {runId : String} {row : RunRow}
    (minted : strip runId = runId) (free : row.status ≠ .claimed) :
    Rows (runs.set runId row) claims requeues := by
  have elsewhere : ∀ {id held}, (runs.set runId row).get? id = some held →
      held.status = .claimed → runs.get? id = some held := by
    intro id held found claimed
    rw [Dict.get?_set] at found
    split at found
    · cases found
      exact absurd claimed free
    · exact found
  constructor
  · intro id held found
    by_cases same : runId = id
    · exact same ▸ minted
    · rw [Dict.get?_set_ne _ _ same] at found
      exact rows.minted found
  · intro id held found claimed
    exact rows.numbered (elsewhere found claimed) claimed
  · intro id other held second found otherFound claimed otherClaimed
    exact rows.apart (elsewhere found claimed) (elsewhere otherFound otherClaimed) claimed
      otherClaimed
  · exact rows.counted
  · exact rows.once

/-- A new claim has a number that no row and no requeue has. -/
theorem Rows.claimed (rows : Rows runs claims requeues) {runId : String} {row : RunRow}
    (minted : strip runId = runId) (number : row.claim = claims) :
    Rows (runs.set runId row) (claims + 1) requeues := by
  have old : ∀ {id held}, runId ≠ id → (runs.set runId row).get? id = some held →
      runs.get? id = some held := by
    intro id held differs found
    rwa [Dict.get?_set_ne _ _ differs] at found
  have new : ∀ {held}, (runs.set runId row).get? runId = some held → held = row := by
    intro held found
    rw [Dict.get?_set_self] at found
    exact (Option.some.inj found).symm
  constructor
  · intro id held found
    by_cases same : runId = id
    · exact same ▸ minted
    · exact rows.minted (old same found)
  · intro id held found claimed
    by_cases same : runId = id
    · subst same
      rw [new found, number]
      refine ⟨Nat.lt_succ_self _, ?_⟩
      intro member
      obtain ⟨requeue, inside, equal⟩ := List.mem_map.mp member
      exact Nat.lt_irrefl _ (equal ▸ rows.counted requeue inside)
    · have earlier := rows.numbered (old same found) claimed
      exact ⟨Nat.lt_succ_of_lt earlier.1, earlier.2⟩
  · intro id other held second found otherFound claimed otherClaimed equal
    by_cases same : runId = id
    · subst same
      by_cases also : runId = other
      · exact also
      · rw [new found, number] at equal
        have bound := (rows.numbered (old also otherFound) otherClaimed).1
        omega
    · by_cases also : runId = other
      · subst also
        rw [new otherFound, number] at equal
        have bound := (rows.numbered (old same found) claimed).1
        omega
      · exact rows.apart (old same found) (old also otherFound) claimed otherClaimed equal
  · intro requeue inside
    exact Nat.lt_succ_of_lt (rows.counted requeue inside)
  · exact rows.once

/-- A claim that is taken back is noted once. -/
theorem Rows.requeued (rows : Rows runs claims requeues) {runId : String} {held : RunRow}
    (found : runs.get? runId = some held) (claimed : held.status = .claimed) (requeue : Requeue)
    (number : requeue.claim = held.claim) :
    Rows (runs.set runId held.unclaimed) claims (requeues ++ [requeue]) := by
  have unclaimed : held.unclaimed.status ≠ .claimed := fun impossible => nomatch impossible
  have free : Rows (runs.set runId held.unclaimed) claims requeues :=
    rows.free (rows.minted found) unclaimed
  have own := rows.numbered found claimed
  constructor
  · exact free.minted
  · intro id other otherFound otherClaimed
    have earlier := free.numbered otherFound otherClaimed
    refine ⟨earlier.1, ?_⟩
    rw [List.map_append, List.mem_append, not_or]
    refine ⟨earlier.2, ?_⟩
    rw [List.map_singleton, List.mem_singleton, number]
    intro equal
    by_cases same : runId = id
    · subst same
      rw [Dict.get?_set_self] at otherFound
      cases otherFound
      exact unclaimed otherClaimed
    · rw [Dict.get?_set_ne _ _ same] at otherFound
      exact same (rows.apart otherFound found otherClaimed claimed equal).symm
  · exact free.apart
  · intro other inside
    rcases List.mem_append.mp inside with earlier | last
    · exact rows.counted other earlier
    · rw [List.mem_singleton.mp last, number]
      exact own.1
  · rw [List.map_append, List.map_singleton, List.nodup_append, number]
    refine ⟨rows.once, List.nodup_singleton _, ?_⟩
    intro earlier inside last isLast equal
    rw [List.mem_singleton.mp isLast] at equal
    exact own.2 (equal ▸ inside)

theorem hasDelivered_other {events : List Event} {eventType : String} (runId text id : String)
    (other : eventType ≠ "delivered") :
    hasDelivered (events ++ [⟨runId, eventType, text⟩]) id = hasDelivered events id := by
  simp [hasDelivered, other]

theorem hasDelivered_elsewhere {events more : List Event} {runId id : String}
    (own : ∀ event ∈ more, event.runId = runId) (elsewhere : runId ≠ id) :
    hasDelivered (events ++ more) id = hasDelivered events id := by
  have none :
      (more.any fun event => event.runId = id && event.eventType = "delivered") = false := by
    rw [List.any_eq_false]
    intro event member
    simp [own event member, elsewhere]
  rw [hasDelivered, List.any_append, none, Bool.or_false]
  rfl

/-- A step keeps what a sweep relies on, if a run that still shows an earlier claim showed it
before the step and nothing has been delivered meanwhile. -/
theorem Pending.kept {clock later : Nat} {events since : List Event} {graceSeconds claimedAt : Nat}
    {entry : String × RunRow} (pending : Pending clock runs events graceSeconds entry claimedAt)
    (onward : clock ≤ later)
    (shown : ∀ held, next.get? entry.1 = some held → held.status = .claimed →
      held.claimedAt = some claimedAt → claimedAt < clock →
        (∃ earlier, runs.get? entry.1 = some earlier ∧ earlier.status = .claimed ∧
          earlier.claimedAt = some claimedAt) ∧
        hasDelivered since entry.1 = hasDelivered events entry.1) :
    Pending later next since graceSeconds entry claimedAt := by
  refine ⟨pending.minted, pending.stamped, Nat.le_trans pending.old onward, ?_⟩
  intro held found claimed stamped
  have positive : 1 ≤ grace graceSeconds := Nat.le_max_left 1 _
  have old := pending.old
  obtain ⟨⟨earlier, present, was, same⟩, quiet⟩ := shown held found claimed stamped (by omega)
  rw [quiet]
  exact pending.silent earlier present was same

/-- A row changes that is not claimed afterwards. -/
theorem Pending.free {clock : Nat} {events since : List Event} {graceSeconds claimedAt : Nat}
    {entry : String × RunRow} (pending : Pending clock runs events graceSeconds entry claimedAt)
    {runId : String} {row : RunRow} (free : row.status ≠ .claimed)
    (quiet : runId ≠ entry.1 → hasDelivered since entry.1 = hasDelivered events entry.1) :
    Pending clock (runs.set runId row) since graceSeconds entry claimedAt := by
  apply pending.kept (Nat.le_refl _)
  intro held found claimed stamped _
  rw [Dict.get?_set] at found
  split at found
  · cases found
    exact absurd claimed free
  · next elsewhere => exact ⟨⟨held, found, claimed, stamped⟩, quiet elsewhere⟩

end Parts

/-! ### One step -/

theorem selection_pending {world : World} (kept : Kept world) {graceSeconds limit : Nat}
    {entry : String × RunRow} (member : entry ∈ world.selection graceSeconds limit) :
    ∃ claimedAt, Pending world.clock world.runs world.events graceSeconds entry claimedAt := by
  have selected := (List.mem_insertionSort _).mp (List.mem_of_mem_take member)
  obtain ⟨inside, chosen⟩ := List.mem_filter.mp selected
  have found : world.runs.get? entry.1 = some entry.2 :=
    (Dict.get?_eq_some_iff _ _ _).mpr inside
  simp only [World.selects, Bool.and_eq_true, Option.any_eq_true, decide_eq_true_eq,
    Bool.not_eq_true'] at chosen
  obtain ⟨⟨⟨_, claimedAt, stamped, old⟩, undelivered⟩, _⟩ := chosen
  exact ⟨claimedAt, kept.rows.minted found, stamped, old, fun _ _ _ _ => undelivered⟩

/-- A sweep takes back a claim only if it is the one it selected. -/
theorem requeueOne_kept {world : World} (kept : Kept world) {graceSeconds : Nat}
    {entry : String × RunRow} {claimedAt : Nat}
    (pending : Pending world.clock world.runs world.events graceSeconds entry claimedAt) :
    Kept (world.requeueOne graceSeconds entry) := by
  rw [World.requeueOne, pending.minted]
  simp only
  split
  · exact kept
  · split
    · exact kept
    · next held found =>
      split
      · next hit =>
        simp only [World.matchesClaim, Bool.and_eq_true, decide_eq_true_eq] at hit
        obtain ⟨⟨⟨claimed, _⟩, stamped⟩, orphaned⟩ := hit
        rw [pending.stamped] at stamped
        have other : "requeued_orphaned_claim" ≠ "delivered" := by decide
        refine ⟨kept.rows.requeued found claimed _ rfl, ?_, ?_⟩
        · intro number sweep under second member
          obtain ⟨secondAt, secondPending⟩ := kept.pending under second member
          refine ⟨secondAt, secondPending.free ?_ ?_⟩
          · intro impossible
            cases impossible
          · intro _
            exact hasDelivered_other _ _ _ other
        · intro requeue member
          rcases List.mem_append.mp member with earlier | last
          · exact kept.sound requeue earlier
          · rw [List.mem_singleton.mp last]
            have undelivered := pending.silent held found claimed stamped
            refine ⟨⟨claimedAt, stamped, pending.old⟩, ?_, undelivered⟩
            simp only [World.orphaned, Bool.or_eq_true, decide_eq_true_eq,
              Bool.not_eq_true'] at orphaned
            rcases orphaned with empty | quiet
            · exact .inl empty
            · refine .inr fun lastSeen seen => ?_
              have beat : world.bridges.get? held.claimBridgeId = some lastSeen := seen
              rw [World.bridgeFresh, beat] at quiet
              simpa using quiet
      · exact kept

theorem requeueOne_sweeps (world : World) (graceSeconds : Nat) (entry : String × RunRow) :
    (world.requeueOne graceSeconds entry).sweeps = world.sweeps := by
  rw [World.requeueOne]
  simp only
  split
  · rfl
  · split
    · rfl
    · split
      · rfl
      · rfl

/-- A sweep that goes on to its next row. -/
theorem advance_kept {world : World} (kept : Kept world) {number : Nat} {sweep : Sweep}
    (under : world.sweeps number = some sweep) {entry : String × RunRow}
    {rest : List (String × RunRow)} (rows : sweep.rows = entry :: rest) :
    Kept { world with
      sweeps := Function.update world.sweeps number (some { sweep with rows := rest }) } := by
  refine ⟨kept.rows, ?_, kept.sound⟩
  intro other second otherUnder row member
  rcases update_some otherUnder with ⟨_, same⟩ | earlier
  · cases same
    exact kept.pending under row (rows ▸ List.mem_cons_of_mem _ member)
  · exact kept.pending earlier row member

theorem claim_kept {world : World} (kept : Kept world) {runId machineId bridgeId : String}
    {row : RunRow} (found : world.runs.get? runId = some row) :
    Kept { (world.append runId "claimed" ("machine=" ++ machineId)) with
      runs := world.runs.set runId { row with
        status := .claimed
        claimBridgeId := bridgeId
        claimMachineId := machineId
        claimedAt := some world.clock
        claim := world.claims }
      claims := world.claims + 1 } := by
  refine ⟨kept.rows.claimed (kept.rows.minted found) rfl, ?_, kept.sound⟩
  intro number sweep under entry member
  obtain ⟨claimedAt, pending⟩ := kept.pending under entry member
  refine ⟨claimedAt, pending.kept (Nat.le_refl _) ?_⟩
  intro held shown claimed stamped earlier
  have quiet :
      hasDelivered (world.append runId "claimed" ("machine=" ++ machineId)).events entry.1 =
        hasDelivered world.events entry.1 := hasDelivered_other _ _ _ (by decide)
  rw [Dict.get?_set] at shown
  split at shown
  · -- The new claim is stamped with the present second, and the selected one is older.
    cases shown
    cases stamped
    exact absurd earlier (Nat.lt_irrefl _)
  · exact ⟨⟨held, shown, claimed, stamped⟩, quiet⟩

theorem report_kept {world : World} (kept : Kept world) {runId : String} {status : Option Status}
    {event : Option (String × String)} (reported : Reported world (.report runId status event))
    {row : RunRow} (found : world.runs.get? runId = some row) :
    Kept { world with
      runs := world.runs.set runId { row with status := status.getD row.status }
      events := world.events ++ (event.map fun said => ⟨runId, said.1, said.2⟩).toList } := by
  have own : ∀ said ∈ (event.map fun said => (⟨runId, said.1, said.2⟩ : Event)).toList,
      said.runId = runId := by
    intro said member
    rw [Option.mem_toList] at member
    obtain ⟨_, _, rfl⟩ := Option.map_eq_some_iff.mp member
    rfl
  cases status with
  | some written =>
      have free : written ≠ .claimed := fun claimed => reported.1 (congrArg some claimed)
      refine ⟨kept.rows.free (kept.rows.minted found) free, ?_, kept.sound⟩
      intro number sweep under entry member
      obtain ⟨claimedAt, pending⟩ := kept.pending under entry member
      exact ⟨claimedAt, pending.free free fun elsewhere => hasDelivered_elsewhere own elsewhere⟩
  | none =>
      have same : ∀ id, (world.runs.set runId row).get? id = world.runs.get? id := by
        intro id
        rw [Dict.get?_set]
        split
        · next here => rw [← here, found]
        · rfl
      have quiet : ∀ id, hasDelivered (world.events ++
          (event.map fun said => (⟨runId, said.1, said.2⟩ : Event)).toList) id =
            hasDelivered world.events id := by
        intro id
        cases event with
        | none => rw [Option.map_none, Option.toList_none, List.append_nil]
        | some said =>
            have other : said.1 ≠ "delivered" := fun delivered => reported.2 said rfl delivered rfl
            exact hasDelivered_other _ _ _ other
      refine ⟨⟨?_, ?_, ?_, kept.rows.counted, kept.rows.once⟩, ?_, kept.sound⟩
      · intro id held shown
        exact kept.rows.minted ((same id).symm.trans shown)
      · intro id held shown
        exact kept.rows.numbered ((same id).symm.trans shown)
      · intro id other held second shown otherShown
        exact kept.rows.apart ((same id).symm.trans shown) ((same other).symm.trans otherShown)
      · intro number sweep under entry member
        obtain ⟨claimedAt, pending⟩ := kept.pending under entry member
        refine ⟨claimedAt, pending.kept (Nat.le_refl _) ?_⟩
        intro held shown claimed stamped _
        exact ⟨⟨held, (same entry.1).symm.trans shown, claimed, stamped⟩, quiet entry.1⟩

theorem rescue_kept {world : World} (kept : Kept world) {runId text : String} {row : RunRow}
    (found : world.runs.get? runId = some row) :
    Kept { world.append runId "requeued_orphaned_claim" text with
      runs := world.runs.set runId (if row.status = .claimed then row.unclaimed else row) } := by
  have free : (if row.status = .claimed then row.unclaimed else row).status ≠ .claimed := by
    split
    · exact fun impossible => nomatch impossible
    · next other => exact other
  refine ⟨kept.rows.free (kept.rows.minted found) free, ?_, kept.sound⟩
  intro number sweep under entry member
  obtain ⟨claimedAt, pending⟩ := kept.pending under entry member
  exact ⟨claimedAt, pending.free free fun _ => hasDelivered_other _ _ _ (by decide)⟩

theorem delete_kept {world : World} (kept : Kept world) (runId : String) :
    Kept { world with runs := world.runs.erase runId } := by
  have held : ∀ {id row}, (world.runs.erase runId).get? id = some row →
      world.runs.get? id = some row := by
    intro id row found
    rw [Dict.get?_erase] at found
    split at found
    · cases found
    · exact found
  refine ⟨⟨fun found => kept.rows.minted (held found), fun found => kept.rows.numbered (held found),
    fun found second => kept.rows.apart (held found) (held second), kept.rows.counted,
    kept.rows.once⟩, ?_, kept.sound⟩
  intro number sweep under entry member
  obtain ⟨claimedAt, pending⟩ := kept.pending under entry member
  refine ⟨claimedAt, pending.kept (Nat.le_refl _) ?_⟩
  intro row found claimed stamped _
  exact ⟨⟨row, held found, claimed, stamped⟩, rfl⟩

theorem step_kept {world after : World} {label : Label} (kept : Kept world)
    (reported : Reported world label) (taken : step world label = some after) : Kept after := by
  cases label with
  | tick seconds =>
      cases taken
      refine ⟨kept.rows, ?_, kept.sound⟩
      intro number sweep under entry member
      obtain ⟨claimedAt, pending⟩ := kept.pending under entry member
      refine ⟨claimedAt, pending.kept (Nat.le_add_right _ _) ?_⟩
      intro held found claimed stamped _
      exact ⟨⟨held, found, claimed, stamped⟩, rfl⟩
  | beat bridgeId =>
      cases taken
      exact ⟨kept.rows, kept.pending, kept.sound⟩
  | forget bridgeId =>
      cases taken
      exact ⟨kept.rows, kept.pending, kept.sound⟩
  | enqueue runId targetAgent =>
      rw [step, Option.ite_none_right_eq_some] at taken
      obtain ⟨⟨minted, _⟩, same⟩ := taken
      cases same
      refine ⟨kept.rows.free minted (fun impossible => nomatch impossible), ?_, kept.sound⟩
      intro number sweep under entry member
      obtain ⟨claimedAt, pending⟩ := kept.pending under entry member
      exact ⟨claimedAt, pending.free (fun impossible => nomatch impossible) fun _ => rfl⟩
  | claim runId machineId bridgeId =>
      obtain ⟨row, found, granted⟩ := Option.bind_eq_some_iff.mp taken
      rw [Option.ite_none_right_eq_some] at granted
      obtain ⟨_, same⟩ := granted
      cases same
      exact claim_kept kept found
  | report runId status event =>
      obtain ⟨row, found, same⟩ := Option.map_eq_some_iff.mp taken
      cases same
      exact report_kept kept reported found
  | rescue runId text =>
      obtain ⟨row, found, same⟩ := Option.map_eq_some_iff.mp taken
      cases same
      exact rescue_kept kept found
  | delete runId =>
      cases taken
      exact delete_kept kept runId
  | select graceSeconds limit =>
      cases taken
      refine ⟨kept.rows, ?_, kept.sound⟩
      intro number sweep under entry member
      rcases update_some under with ⟨_, same⟩ | earlier
      · cases same
        exact selection_pending kept member
      · exact kept.pending earlier entry member
  | requeue number =>
      obtain ⟨sweep, under, granted⟩ := Option.bind_eq_some_iff.mp taken
      split at granted
      · cases granted
      · next entry rest rows =>
        obtain ⟨claimedAt, pending⟩ :=
          kept.pending under entry (rows ▸ List.mem_cons_self)
        have requeued := requeueOne_kept kept pending
        have sweeps := requeueOne_sweeps world sweep.graceSeconds entry
        generalize world.requeueOne sweep.graceSeconds entry = next at requeued sweeps granted
        cases granted
        rw [← sweeps] at under ⊢
        exact advance_kept requeued under rows

theorem initial_kept : Kept initial := by
  refine ⟨⟨?_, ?_, ?_, ?_, List.nodup_nil⟩, ?_, ?_⟩
  · intro id row impossible
    cases impossible
  · intro id row impossible
    cases impossible
  · intro id other row second impossible
    cases impossible
  · intro requeue impossible
    cases impossible
  · intro number sweep impossible
    cases impossible
  · intro requeue impossible
    cases impossible

/-- However sweeps, heartbeats, claims and reports interleave, a sweep puts a run back in the
queue only when its claim has stood longer than the grace period, the bridge that made the
claim has been silent for the whole stale window at that very moment, and the run was never
delivered. No claim is taken back twice. -/
theorem requeues_only_orphans {world : World} (run : Reaches step Reported initial world) :
    (world.requeues.map Requeue.claim).Nodup ∧ ∀ requeue ∈ world.requeues, requeue.Sound := by
  have kept := run.invariant Kept initial_kept fun _ _ _ held reported taken =>
    step_kept held reported taken
  exact ⟨kept.rows.once, kept.sound⟩

instance (world : World) : DecidablePred (Reported world)
  | .report _ status event =>
      match event with
      | none => decidable_of_iff (status ≠ some .claimed) (by simp [Reported])
      | some said => decidable_of_iff
          (status ≠ some .claimed ∧ (said.1 = "delivered" → status ≠ none)) (by simp [Reported])
  | .tick _ | .beat _ | .forget _ | .enqueue .. | .claim .. | .rescue .. | .delete _ | .select ..
  | .requeue _ => .isTrue trivial

/-- Two runs of two bridges, both silent when a sweep selects them. One of the bridges beats
before its row is come to and keeps its claim. -/
theorem requeues_only_orphans_silent_bridge : ∃ world, Reaches step Reported initial world ∧
    world.requeues = [⟨"run_1", 0, 90, some 5, "gone", some 5, 405, false⟩] ∧
      ∀ requeue ∈ world.requeues, requeue.Sound := by
  have executed : (exec step (fun state label => decide (Reported state label)) initial
      [.tick 5, .beat "gone", .enqueue "run_1" "worker", .enqueue "run_2" "other",
        .claim "run_1" "m1" "gone", .tick 1, .claim "run_2" "m2" "slow", .tick 399,
        .select 90 200, .beat "slow", .requeue 0, .requeue 0]).map World.requeues =
        some [⟨"run_1", 0, 90, some 5, "gone", some 5, 405, false⟩] := by decide
  obtain ⟨world, reached, seen⟩ :=
    reaches_observed _ _ _ _ (fun _ _ granted => of_decide_eq_true granted) executed
  exact ⟨world, reached, seen, (requeues_only_orphans reached).2⟩

end AifyComms.OrphanedClaims
