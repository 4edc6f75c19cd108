import AifyComms.Dict
import AifyComms.DispatchBuffer
import AifyComms.Runs

/-!
Read receipts and the claims that write them: `claim_receipt_release.py`, the
receipts of `_claim_dispatch_once`, and every other writer of the table, each an
INSERT OR IGNORE with a stamp of one second's resolution.

A receipt records, as a ghost, every writer that wrote it or was ignored because
it was there, the first of them the one that inserted it. A claim is named by
its run and by how often the run has been claimed.
-/

namespace AifyComms.ReadReceipts
open DispatchBuffer Runs Dict

inductive Writer where
  | inbox
  | markRead
  | reply
  | delivery
  | claim (runId attempt : Nat)
  deriving DecidableEq

structure Receipt where
  readAt : Nat
  recorded : List Writer

inductive Status where
  | queued
  | claimed
  | ended
  deriving DecidableEq

/-- A row of `dispatch_runs`, with the number of its claims so far as a ghost. -/
structure RunRow where
  runId : Nat
  targetAgent : String
  status : Status
  claimedAt : Option Nat
  row : QueuedRun
  attempt : Nat

def RunRow.sources (run : RunRow) : List String := dispatchSourceMessageIds run.row

/-- The claim this row shows. -/
def RunRow.claimWriter (run : RunRow) : Writer := .claim run.runId run.attempt

abbrev Receipts := Dict (String × String) Receipt

/-- What a claim wrote, kept as a ghost. -/
structure ClaimRecord where
  runId : Nat
  attempt : Nat
  targetAgent : String
  sources : List String
  claimedAt : Nat

/-- `reads` holds the rows that sweeps and requeues have read and not yet used. -/
structure World where
  clock : Nat
  messages : List String
  runs : List RunRow
  receipts : Receipts
  reads : List RunRow
  claims : List ClaimRecord

def emptyWorld : World := ⟨0, [], [], empty, [], []⟩

/-! ### Writing and releasing -/

/-- `INSERT OR IGNORE INTO read_receipts`. -/
def insertOrIgnore (receipts : Receipts) (message agent : String) (readAt : Nat) (writer : Writer) :
    Receipts :=
  match receipts.get? (message, agent) with
  | some receipt =>
      receipts.set (message, agent) { receipt with recorded := receipt.recorded ++ [writer] }
  | none => receipts.set (message, agent) ⟨readAt, [writer]⟩

/-- `_mark_dispatch_source_messages_read`. -/
def markSourcesRead (world : World) (run : RunRow) (readAt : Nat) (writer : Writer) : Receipts :=
  (run.sources.filter (· ∈ world.messages)).foldl
    (fun receipts message => insertOrIgnore receipts message run.targetAgent readAt writer)
    world.receipts

/-- `release_claim_receipts` on a row that was read. -/
def releaseClaimReceipts (receipts : Receipts) (run : RunRow) : Receipts :=
  match run.claimedAt with
  | none => receipts
  | some stamp =>
      ⟨receipts.entries.filter fun entry =>
          !decide (entry.1.2 = run.targetAgent ∧ entry.2.readAt = stamp ∧ entry.1.1 ∈ run.sources),
        (List.Sublist.map Prod.fst List.filter_sublist).nodup receipts.distinct⟩

/-! ### The system -/

def runOf (world : World) (runId : Nat) : Option RunRow :=
  world.runs.find? fun run => run.runId = runId

def setRun (world : World) (run : RunRow) : List RunRow :=
  world.runs.map fun other => if other.runId = run.runId then run else other

/-- The claim of a queued run, under the write lock. -/
def claim (world : World) (run : RunRow) : World :=
  let claimed := { run with
    status := .claimed, claimedAt := some world.clock, attempt := run.attempt + 1 }
  { world with
    runs := setRun world claimed
    receipts := markSourcesRead world claimed world.clock claimed.claimWriter
    claims := world.claims ++
      [⟨run.runId, run.attempt + 1, run.targetAgent, run.sources, world.clock⟩] }

inductive Label where
  | tick (seconds : Nat)
  | store (message : String)
  | enqueue (targetAgent : String) (send : Send)
  | merge (runId : Nat) (send : Send)
  | record (writer : Writer) (message agent : String) (readAt : Nat)
  | markUnread (message agent : String)
  | claim (runId : Nat)
  | finish (runId : Nat)
  | read (runId : Nat)
  | requeue (index : Nat)
  | release (index : Nat)

/-- A reader stamps its receipt before it writes it, so the stamp may be older
than the clock. A requeue takes back the claim of a run that is still claimed,
with the receipts of the row it read; the sweep releases a run that ended. -/
def step (world : World) : Label → Option World
  | .tick seconds => some { world with clock := world.clock + seconds }
  | .store message => some { world with messages := world.messages ++ [message] }
  | .enqueue targetAgent send =>
      some { world with
        runs := world.runs ++ [⟨world.runs.length, targetAgent, .queued, none, openRun send, 0⟩] }
  | .merge runId send => do
      let run ← runOf world runId
      let row ← mergeSend run.row send
      if run.status = .queued then
        some { world with runs := setRun world { run with row := row } }
      else none
  | .record writer message agent readAt =>
      match writer with
      | .claim _ _ => none
      | _ =>
          if readAt ≤ world.clock then
            some { world with
              receipts := insertOrIgnore world.receipts message agent readAt writer }
          else none
  | .markUnread message agent =>
      some { world with receipts := world.receipts.erase (message, agent) }
  | .claim runId => do
      let run ← runOf world runId
      if run.status = .queued then some (claim world run) else none
  | .finish runId => do
      let run ← runOf world runId
      if run.status = .claimed then
        some { world with runs := setRun world { run with status := .ended } }
      else none
  | .read runId => do
      let run ← runOf world runId
      if run.status = .queued then none else some { world with reads := world.reads ++ [run] }
  | .requeue index => do
      let row ← world.reads[index]?
      let run ← runOf world row.runId
      if row.status = .claimed ∧ run.status = .claimed then
        some { world with
          runs := setRun world { run with status := .queued, claimedAt := none }
          receipts := releaseClaimReceipts world.receipts row }
      else none
  | .release index => do
      let row ← world.reads[index]?
      if row.status = .ended then
        some { world with receipts := releaseClaimReceipts world.receipts row }
      else none

/-! ### Receipts under one write -/

theorem get?_insertOrIgnore (receipts : Receipts) (message agent : String) (readAt : Nat)
    (writer : Writer) (key : String × String) :
    (insertOrIgnore receipts message agent readAt writer).get? key =
      if (message, agent) = key then
        some (match receipts.get? key with
          | some receipt => { receipt with recorded := receipt.recorded ++ [writer] }
          | none => ⟨readAt, [writer]⟩)
      else receipts.get? key := by
  simp only [insertOrIgnore]
  split
  · rename_i receipt found
    rw [get?_set]
    split
    · rename_i same
      rw [← same, found]
    · rfl
  · rename_i missing
    rw [get?_set]
    split
    · rename_i same
      rw [← same, missing]
    · rfl

/-- Exactly the receipts of the target for the sources that carry the claim's stamp go. -/
theorem get?_releaseClaimReceipts (receipts : Receipts) {run : RunRow} {stamp : Nat}
    (claimed : run.claimedAt = some stamp) (message agent : String) (receipt : Receipt) :
    (releaseClaimReceipts receipts run).get? (message, agent) = some receipt ↔
      receipts.get? (message, agent) = some receipt ∧
        ¬ (agent = run.targetAgent ∧ receipt.readAt = stamp ∧ message ∈ run.sources) := by
  simp only [releaseClaimReceipts, claimed]
  rw [get?_eq_some_iff, get?_eq_some_iff, List.mem_filter]
  simp only [Bool.not_eq_true', decide_eq_false_iff_not]

theorem releaseClaimReceipts_subset {receipts : Receipts} {run : RunRow} {key : String × String}
    {receipt : Receipt} (kept : (releaseClaimReceipts receipts run).get? key = some receipt) :
    receipts.get? key = some receipt := by
  cases claimed : run.claimedAt with
  | none => simpa [releaseClaimReceipts, claimed] using kept
  | some stamp => exact ((get?_releaseClaimReceipts receipts claimed key.1 key.2 receipt).mp kept).1

/-! ### Where receipts come from -/

/-- A receipt that a claim inserted carries that claim's stamp and is among its sources. -/
def Sourced (claims : List ClaimRecord) (receipts : Receipts) : Prop :=
  ∀ message agent receipt, receipts.get? (message, agent) = some receipt →
    ∃ first rest, receipt.recorded = first :: rest ∧
      ∀ runId attempt, first = .claim runId attempt →
        ∃ made ∈ claims, made.runId = runId ∧ made.attempt = attempt ∧
          made.claimedAt = receipt.readAt ∧ made.targetAgent = agent ∧ message ∈ made.sources

/-- Who may insert a receipt with this stamp. -/
def MayInsert (claims : List ClaimRecord) (message agent : String) (readAt : Nat)
    (writer : Writer) : Prop :=
  ∀ runId attempt, writer = .claim runId attempt →
    ∃ made ∈ claims, made.runId = runId ∧ made.attempt = attempt ∧
      made.claimedAt = readAt ∧ made.targetAgent = agent ∧ message ∈ made.sources

variable {claims more : List ClaimRecord} {receipts : Receipts} {world after : World}

theorem Sourced.mono (sourced : Sourced claims receipts)
    (grown : ∀ made ∈ claims, made ∈ more) : Sourced more receipts := by
  intro message agent receipt found
  obtain ⟨first, rest, recorded, origin⟩ := sourced message agent receipt found
  refine ⟨first, rest, recorded, fun runId attempt is => ?_⟩
  obtain ⟨made, inside, facts⟩ := origin runId attempt is
  exact ⟨made, grown made inside, facts⟩

theorem Sourced.subset (sourced : Sourced claims receipts) {fewer : Receipts}
    (kept : ∀ key receipt, fewer.get? key = some receipt → receipts.get? key = some receipt) :
    Sourced claims fewer :=
  fun message agent receipt found => sourced message agent receipt (kept _ _ found)

theorem Sourced.insert (sourced : Sourced claims receipts) {message agent : String} {readAt : Nat}
    {writer : Writer} (may : MayInsert claims message agent readAt writer) :
    Sourced claims (insertOrIgnore receipts message agent readAt writer) := by
  intro other reader receipt found
  rw [get?_insertOrIgnore] at found
  split at found
  · rename_i same
    obtain ⟨rfl, rfl⟩ := Prod.mk.inj same
    split at found
    · rename_i old was
      obtain ⟨first, rest, recorded, origin⟩ := sourced _ _ _ was
      cases found
      exact ⟨first, rest ++ [writer], by simp [recorded], origin⟩
    · cases found
      exact ⟨writer, [], rfl, may⟩
  · exact sourced other reader receipt found

theorem Sourced.insertAll (sourced : Sourced claims receipts) {agent : String} {readAt : Nat}
    {writer : Writer} {messages : List String}
    (may : ∀ message ∈ messages, MayInsert claims message agent readAt writer) :
    Sourced claims (messages.foldl (fun receipts message =>
      insertOrIgnore receipts message agent readAt writer) receipts) := by
  induction messages generalizing receipts with
  | nil => exact sourced
  | cons message messages ih =>
      exact ih (sourced.insert (may message (by simp))) fun other inside =>
        may other (by simp [inside])

/-- The claim that a row shows, when it is claimed. -/
def Shown (claims : List ClaimRecord) (run : RunRow) : Prop :=
  ∀ stamp, run.claimedAt = some stamp →
    ⟨run.runId, run.attempt, run.targetAgent, run.sources, stamp⟩ ∈ claims

structure Kept (world : World) : Prop where
  bounded : ∀ run ∈ world.runs, run.runId < world.runs.length
  attempts : ∀ made ∈ world.claims, made.runId < world.runs.length ∧
    ∀ run ∈ world.runs, run.runId = made.runId → made.attempt ≤ run.attempt
  unique : ∀ made ∈ world.claims, ∀ other ∈ world.claims, made.runId = other.runId →
    made.attempt = other.attempt → made = other
  shown : ∀ run ∈ world.runs, Shown world.claims run
  shownRead : ∀ run ∈ world.reads, Shown world.claims run
  unclaimed : ∀ run ∈ world.runs, run.status = .queued → run.claimedAt = none
  sourced : Sourced world.claims world.receipts

theorem mem_snoc {Row : Type} {row new : Row} {rows : List Row} (inside : row ∈ rows ++ [new]) :
    row ∈ rows ∨ row = new :=
  (List.mem_append.mp inside).imp_right List.mem_singleton.mp

theorem kept_emptyWorld : Kept emptyWorld := by
  constructor <;> simp [emptyWorld, Sourced]

theorem runOf_some {runId : Nat} {run : RunRow} (found : runOf world runId = some run) :
    run ∈ world.runs ∧ run.runId = runId :=
  ⟨List.mem_of_find?_eq_some found, by simpa using List.find?_some found⟩

theorem mem_setRun {run other : RunRow} (inside : other ∈ setRun world run) :
    other = run ∨ other ∈ world.runs ∧ other.runId ≠ run.runId := by
  obtain ⟨old, inOld, is⟩ := List.mem_map.mp inside
  split at is
  · exact .inl is.symm
  · rename_i differs
    exact .inr (is ▸ ⟨inOld, differs⟩)

@[simp] theorem length_setRun (run : RunRow) : (setRun world run).length = world.runs.length := by
  simp [setRun]

/-- A row is rewritten under its id, with no new claim. -/
theorem Kept.setRun (kept : Kept world) (new : RunRow) {run : RunRow} (inRuns : run ∈ world.runs)
    (sameId : new.runId = run.runId) (sameAttempt : new.attempt = run.attempt)
    (shown : Shown world.claims new) (unclaimed : new.status = .queued → new.claimedAt = none)
    {receipts : Receipts} (sourced : Sourced world.claims receipts) :
    Kept { world with runs := setRun world new, receipts := receipts } where
  bounded := by
    intro other inside
    rw [length_setRun]
    obtain rfl | ⟨old, _⟩ := mem_setRun inside
    · rw [sameId]
      exact kept.bounded run inRuns
    · exact kept.bounded other old
  attempts := by
    intro made inClaims
    rw [length_setRun]
    obtain ⟨bound, below⟩ := kept.attempts made inClaims
    refine ⟨bound, fun other inside same => ?_⟩
    obtain rfl | ⟨old, _⟩ := mem_setRun inside
    · rw [sameAttempt]
      exact below run inRuns (sameId ▸ same)
    · exact below other old same
  unique := kept.unique
  shown := by
    intro other inside
    obtain rfl | ⟨old, _⟩ := mem_setRun inside
    · exact shown
    · exact kept.shown other old
  shownRead := kept.shownRead
  unclaimed := by
    intro other inside
    obtain rfl | ⟨old, _⟩ := mem_setRun inside
    · exact unclaimed
    · exact kept.unclaimed other old
  sourced := sourced

theorem Shown.mono {run : RunRow} (shown : Shown claims run)
    (grown : ∀ made ∈ claims, made ∈ more) : Shown more run :=
  fun stamp claimed => grown _ (shown stamp claimed)

/-- A claim stamps its receipts with the time it records. -/
theorem Kept.claim (kept : Kept world) {run : RunRow} (inRuns : run ∈ world.runs) :
    Kept (claim world run) := by
  have grown : ∀ made ∈ world.claims, made ∈ (ReadReceipts.claim world run).claims :=
    fun made inside => List.mem_append_left _ inside
  have new : ⟨run.runId, run.attempt + 1, run.targetAgent, run.sources, world.clock⟩ ∈
      (ReadReceipts.claim world run).claims := List.mem_append_right _ (List.mem_singleton_self _)
  have older {made : ClaimRecord} (inside : made ∈ world.claims) (same : made.runId = run.runId) :
      made.attempt ≠ run.attempt + 1 := by
    have below := (kept.attempts made inside).2 run inRuns same.symm
    omega
  constructor
  case bounded =>
    intro other inside
    simp only [ReadReceipts.claim, length_setRun]
    obtain rfl | ⟨old, _⟩ := mem_setRun inside
    · exact kept.bounded run inRuns
    · exact kept.bounded other old
  case attempts =>
    intro made inside
    simp only [ReadReceipts.claim, length_setRun]
    obtain old | rfl := mem_snoc inside
    · obtain ⟨bound, below⟩ := kept.attempts made old
      refine ⟨bound, fun other inRuns' same => ?_⟩
      obtain rfl | ⟨inOld, _⟩ := mem_setRun inRuns'
      · exact Nat.le_succ_of_le (below run inRuns same)
      · exact below other inOld same
    · refine ⟨kept.bounded run inRuns, fun other inRuns' same => ?_⟩
      obtain rfl | ⟨_, differs⟩ := mem_setRun inRuns'
      · exact Nat.le_refl _
      · exact absurd same differs
  case unique =>
    intro made inside other otherInside sameRun sameAttempt
    obtain old | rfl := mem_snoc inside
    · obtain otherOld | rfl := mem_snoc otherInside
      · exact kept.unique made old other otherOld sameRun sameAttempt
      · exact absurd sameAttempt (older old sameRun)
    · obtain otherOld | rfl := mem_snoc otherInside
      · exact absurd sameAttempt.symm (older otherOld sameRun.symm)
      · rfl
  case shown =>
    intro other inside
    obtain rfl | ⟨old, _⟩ := mem_setRun inside
    · intro stamp is
      cases is
      exact new
    · exact (kept.shown other old).mono grown
  case shownRead => exact fun other inside => (kept.shownRead other inside).mono grown
  case unclaimed =>
    intro other inside
    obtain rfl | ⟨old, _⟩ := mem_setRun inside
    · rintro ⟨⟩
    · exact kept.unclaimed other old
  case sourced =>
    refine (kept.sourced.mono grown).insertAll fun message inside runId attempt is => ?_
    obtain ⟨rfl, rfl⟩ := Writer.claim.inj is
    exact ⟨_, new, rfl, rfl, rfl, rfl, (List.mem_filter.mp inside).1⟩

theorem Kept.enqueue (kept : Kept world) (targetAgent : String) (row : QueuedRun) :
    Kept { world with
      runs := world.runs ++ [⟨world.runs.length, targetAgent, .queued, none, row, 0⟩] } where
  bounded := by
    intro other inside
    rw [List.length_append]
    obtain old | rfl := mem_snoc inside
    · exact Nat.lt_add_right _ (kept.bounded other old)
    · simp
  attempts := by
    intro made inClaims
    obtain ⟨bound, below⟩ := kept.attempts made inClaims
    refine ⟨by rw [List.length_append]; exact Nat.lt_add_right _ bound, fun other inside same => ?_⟩
    obtain old | rfl := mem_snoc inside
    · exact below other old same
    · exact absurd same (Nat.ne_of_gt bound)
  unique := kept.unique
  shown := by
    intro other inside
    obtain old | rfl := mem_snoc inside
    · exact kept.shown other old
    · rintro stamp ⟨⟩
  shownRead := kept.shownRead
  unclaimed := by
    intro other inside
    obtain old | rfl := mem_snoc inside
    · exact kept.unclaimed other old
    · exact fun _ => rfl
  sourced := kept.sourced

/-- A send is merged into a row that shows no claim. -/
theorem Kept.merge (kept : Kept world) {run : RunRow} (inRuns : run ∈ world.runs)
    (queued : run.status = .queued) (row : QueuedRun) :
    Kept { world with runs := ReadReceipts.setRun world { run with row := row } } := by
  have unclaimed := kept.unclaimed run inRuns queued
  refine kept.setRun { run with row := row } inRuns rfl rfl ?_ (fun _ => unclaimed) kept.sourced
  intro stamp claimed
  cases unclaimed.symm.trans claimed

theorem Kept.read (kept : Kept world) {run : RunRow} (inRuns : run ∈ world.runs) :
    Kept { world with reads := world.reads ++ [run] } := by
  refine { kept with shownRead := fun other inside => ?_ }
  obtain old | rfl := mem_snoc inside
  · exact kept.shownRead other old
  · exact kept.shown other inRuns

theorem Kept.rewriteReceipts (kept : Kept world) {receipts : Receipts}
    (sourced : Sourced world.claims receipts) : Kept { world with receipts := receipts } :=
  { kept with sourced := sourced }

theorem Kept.release (kept : Kept world) (run : RunRow) :
    Sourced world.claims (releaseClaimReceipts world.receipts run) :=
  kept.sourced.subset fun _ _ => releaseClaimReceipts_subset

theorem step_kept {label : Label} (kept : Kept world) (taken : step world label = some after) :
    Kept after := by
  cases label with
  | tick seconds =>
      cases taken
      exact { kept with }
  | store message =>
      cases taken
      exact { kept with }
  | enqueue targetAgent send =>
      cases taken
      exact kept.enqueue targetAgent _
  | merge runId send =>
      simp only [step, Option.bind_eq_bind, Option.bind_eq_some_iff, Option.ite_none_right_eq_some,
        Option.some.injEq] at taken
      obtain ⟨run, found, row, _, queued, rfl⟩ := taken
      exact kept.merge (runOf_some found).1 queued row
  | record writer message agent readAt =>
      cases writer with
      | claim runId attempt => cases taken
      | _ =>
          simp only [step, Option.ite_none_right_eq_some, Option.some.injEq] at taken
          obtain ⟨_, rfl⟩ := taken
          exact kept.rewriteReceipts (kept.sourced.insert (by rintro _ _ ⟨⟩))
  | markUnread message agent =>
      cases taken
      refine kept.rewriteReceipts (kept.sourced.subset fun key receipt found => ?_)
      rw [get?_erase] at found
      split at found
      · cases found
      · exact found
  | claim runId =>
      simp only [step, Option.bind_eq_bind, Option.bind_eq_some_iff, Option.ite_none_right_eq_some,
        Option.some.injEq] at taken
      obtain ⟨run, found, _, rfl⟩ := taken
      exact kept.claim (runOf_some found).1
  | finish runId =>
      simp only [step, Option.bind_eq_bind, Option.bind_eq_some_iff, Option.ite_none_right_eq_some,
        Option.some.injEq] at taken
      obtain ⟨run, found, _, rfl⟩ := taken
      obtain ⟨inRuns, _⟩ := runOf_some found
      exact kept.setRun { run with status := .ended } inRuns rfl rfl (kept.shown run inRuns)
        (by rintro ⟨⟩) kept.sourced
  | read runId =>
      simp only [step, Option.bind_eq_bind, Option.bind_eq_some_iff, Option.ite_none_left_eq_some,
        Option.some.injEq] at taken
      obtain ⟨run, found, _, rfl⟩ := taken
      exact kept.read (runOf_some found).1
  | requeue index =>
      simp only [step, Option.bind_eq_bind, Option.bind_eq_some_iff, Option.ite_none_right_eq_some,
        Option.some.injEq] at taken
      obtain ⟨row, _, run, found, _, rfl⟩ := taken
      exact kept.setRun { run with status := .queued, claimedAt := none } (runOf_some found).1 rfl rfl
        (by rintro _ ⟨⟩) (fun _ => rfl) (kept.release row)
  | release index =>
      simp only [step, Option.bind_eq_bind, Option.bind_eq_some_iff, Option.ite_none_right_eq_some,
        Option.some.injEq] at taken
      obtain ⟨row, _, _, rfl⟩ := taken
      exact kept.rewriteReceipts (kept.release row)

theorem reaches_kept (reached : Reaches step anyStep emptyWorld world) : Kept world :=
  reached.invariant Kept kept_emptyWorld fun _ _ _ kept _ taken => step_kept kept taken

/-! ### Releasing a claim -/

/-- What the release of a claim should do: a receipt that anyone else recorded,
or would have, stays; one that only this claim recorded goes. -/
def ReleasesExactly (receipts : Receipts) (run : RunRow) : Prop :=
  ∀ message agent receipt, receipts.get? (message, agent) = some receipt →
    ((∃ writer ∈ receipt.recorded, writer ≠ run.claimWriter) →
      (releaseClaimReceipts receipts run).get? (message, agent) = some receipt) ∧
    ((∀ writer ∈ receipt.recorded, writer = run.claimWriter) →
      (releaseClaimReceipts receipts run).get? (message, agent) = none)

/-- No receipt of a source message for the target, stamped in the second of the
claim, was recorded by anyone but the claim. -/
def RecordedAlone (receipts : Receipts) (run : RunRow) : Prop :=
  ∀ message ∈ run.sources, ∀ receipt, receipts.get? (message, run.targetAgent) = some receipt →
    some receipt.readAt = run.claimedAt → ∀ writer ∈ receipt.recorded, writer = run.claimWriter

/-- A receipt that only one claim recorded is one that its release finds. -/
theorem Kept.found (kept : Kept world) {run : RunRow} (shown : Shown world.claims run)
    {stamp : Nat} (claimed : run.claimedAt = some stamp) {message agent : String} {receipt : Receipt}
    (present : world.receipts.get? (message, agent) = some receipt)
    (only : ∀ writer ∈ receipt.recorded, writer = run.claimWriter) :
    agent = run.targetAgent ∧ receipt.readAt = stamp ∧ message ∈ run.sources := by
  obtain ⟨first, rest, recorded, origin⟩ := kept.sourced message agent receipt present
  have own : first = run.claimWriter := only first (by simp [recorded])
  obtain ⟨made, inClaims, sameRun, sameAttempt, time, target, source⟩ := origin _ _ own
  obtain rfl := kept.unique made inClaims _ (shown stamp claimed) sameRun sameAttempt
  exact ⟨target.symm, time.symm, source⟩

theorem ReleasesExactly.alone {run : RunRow} {stamp : Nat} (claimed : run.claimedAt = some stamp)
    (exactly : ReleasesExactly receipts run) : RecordedAlone receipts run := by
  intro message source receipt present stamped writer recorded
  by_contra other
  have stays := (exactly message run.targetAgent receipt present).1 ⟨writer, recorded, other⟩
  have sameStamp : receipt.readAt = stamp := by
    rw [claimed] at stamped
    exact Option.some.inj stamped
  exact ((get?_releaseClaimReceipts receipts claimed _ _ receipt).mp stays).2
    ⟨rfl, sameStamp, source⟩

/-- **A release takes back exactly the receipts of its claim, in every reachable
state, if and only if nobody else recorded one of them in the claim's second.** -/
theorem release_exact_iff (reached : Reaches step anyStep emptyWorld world) {run : RunRow}
    (read : run ∈ world.reads) {stamp : Nat} (claimed : run.claimedAt = some stamp) :
    ReleasesExactly world.receipts run ↔ RecordedAlone world.receipts run := by
  have kept := reaches_kept reached
  constructor
  · exact ReleasesExactly.alone claimed
  · intro alone message agent receipt present
    constructor
    · rintro ⟨writer, recorded, other⟩
      refine (get?_releaseClaimReceipts world.receipts claimed _ _ receipt).mpr ⟨present, ?_⟩
      rintro ⟨rfl, stamped, source⟩
      exact other (alone message source receipt present (by rw [stamped, claimed]) writer recorded)
    · intro only
      have matched := kept.found (kept.shownRead run read) claimed present only
      cases left : (releaseClaimReceipts world.receipts run).get? (message, agent) with
      | none => rfl
      | some still =>
          obtain ⟨was, unmatched⟩ :=
            (get?_releaseClaimReceipts world.receipts claimed _ _ still).mp left
          obtain rfl := Option.some.inj (present.symm.trans was)
          exact absurd matched unmatched

/-! ### A claim alone, and a claim in the second of a read -/

def queuedSend : Send :=
  ⟨"lead".toList, "info".toList, "Build".toList, "Go.".toList, [], [], "m".toList, [],
    spaceless (by decide), List.not_mem_nil⟩

/-- A message is queued, claimed, and the claimed row is read for a requeue. -/
def claimedRun : List Label :=
  [.store "m", .enqueue "coder" queuedSend, .claim 0, .read 0]

/-- The same message is marked read in the second of the claim. -/
def readThenClaimedRun : List Label :=
  [.store "m", .enqueue "coder" queuedSend, .record .markRead "m" "coder" 0, .claim 0, .read 0]

structure SeenRow where
  claimedAt : Option Nat
  targetAgent : String
  sources : List String
  claimWriter : Writer
  deriving DecidableEq

def RunRow.seen (run : RunRow) : SeenRow :=
  ⟨run.claimedAt, run.targetAgent, run.sources, run.claimWriter⟩

/-- What the rows that were read show, and the receipt of the message. -/
def observed (world : World) : List SeenRow × Option (Nat × List Writer) :=
  (world.reads.map RunRow.seen,
    (world.receipts.get? ("m", "coder")).map fun receipt => (receipt.readAt, receipt.recorded))

theorem observed_run {recorded : List Writer}
    (seen : observed world = ([⟨some 0, "coder", ["m"], .claim 0 1⟩], some (0, recorded))) :
    ∃ run ∈ world.reads, run.claimedAt = some 0 ∧ run.targetAgent = "coder" ∧
      run.sources = ["m"] ∧ run.claimWriter = .claim 0 1 := by
  have rows : world.reads.map RunRow.seen = [⟨some 0, "coder", ["m"], .claim 0 1⟩] :=
    congrArg Prod.fst seen
  obtain ⟨run, read, is⟩ := List.mem_map.mp (rows ▸ List.mem_singleton_self _)
  simp only [RunRow.seen, SeenRow.mk.injEq] at is
  exact ⟨run, read, is⟩

theorem claim_alone_released :
    ∃ world run, Reaches step anyStep emptyWorld world ∧ run ∈ world.reads ∧
      (world.receipts.get? ("m", "coder")).isSome = true ∧
      ReleasesExactly world.receipts run := by
  have executed : (exec step (fun _ _ => true) emptyWorld claimedRun).map observed =
      some ([⟨some 0, "coder", ["m"], .claim 0 1⟩], some (0, [.claim 0 1])) := by decide
  obtain ⟨world, reached, seen⟩ := reaches_observed _ _ _ _ (fun _ _ _ => trivial) executed
  obtain ⟨run, read, claimed, target, sources, writer⟩ := observed_run seen
  obtain ⟨receipt, present, is⟩ := Option.map_eq_some_iff.mp (congrArg Prod.snd seen)
  refine ⟨world, run, reached, read, by simp [present], ?_⟩
  refine (release_exact_iff reached read claimed).mpr ?_
  intro message source other found _ by' recorded
  rw [sources, List.mem_singleton] at source
  rw [source, target] at found
  obtain rfl := Option.some.inj (present.symm.trans found)
  rw [(Prod.mk.inj is).2, List.mem_singleton] at recorded
  rw [recorded, writer]

theorem same_second_read_released :
    ¬ ∀ world run stamp, Reaches step anyStep emptyWorld world → run ∈ world.reads →
      run.claimedAt = some stamp → ReleasesExactly world.receipts run := by
  intro always
  have executed : (exec step (fun _ _ => true) emptyWorld readThenClaimedRun).map observed =
      some ([⟨some 0, "coder", ["m"], .claim 0 1⟩], some (0, [.markRead, .claim 0 1])) := by
    decide
  obtain ⟨world, reached, seen⟩ := reaches_observed _ _ _ _ (fun _ _ _ => trivial) executed
  obtain ⟨run, read, claimed, target, sources, writer⟩ := observed_run seen
  obtain ⟨receipt, present, is⟩ := Option.map_eq_some_iff.mp (congrArg Prod.snd seen)
  have alone := (always world run 0 reached read claimed).alone claimed
  have own := alone "m" (by simp [sources]) receipt (by rw [target]; exact present)
    (by rw [claimed, (Prod.mk.inj is).1]) .markRead (by simp [(Prod.mk.inj is).2])
  rw [writer] at own
  cases own

end AifyComms.ReadReceipts
