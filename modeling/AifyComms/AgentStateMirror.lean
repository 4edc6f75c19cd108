import AifyComms.AgentStatePublication
import AifyComms.Dict

/-!
The mirror of what each aify-env published, from `api_core/agent_state_mirror.py`,
with `availability_of` of `operational_view.py` and `report_age.py`.

A mirror call has one effect, its last statement, so a call that raises leaves
the view as it was. Which calls raise is an input (`Faults`). `_quarantined` and
`mirror` are the process's two globals.
-/

namespace AifyComms.AgentState

/-- A timestamp in microseconds, or none for a text that is not one with a zone. -/
abbrev Stamp := Option Int

/-- One publisher's entry. `report` is the receipt time and the announced
interval of the last report applied. -/
structure Publisher where
  generation : Option Nat
  dataAppliedAt : Option Stamp
  complete : Bool
  unavailable : Bool
  rows : List Record
  loss : Bool
  incarnation : Option String
  publication : Option Nat
  build : Option String
  restored : Bool
  report : Option (Stamp × Option Nat)
  deriving DecidableEq

abbrev View := Dict Key Publisher

/-! ### Availability -/

inductive Availability where
  | lost
  | unavailable
  | restored
  | incomplete
  | fresh
  | stale
  | notReporting
  | future
  | invalidClock
  deriving DecidableEq

def missedReports : Nat := 3

/-- `report_age`: in contact while fewer than three announced intervals have passed. -/
def reportAge (publisher : Publisher) (time : Stamp) : Availability :=
  match publisher.report with
  | some (received, some everyMs) =>
      if isReportInterval everyMs then
        match received, time with
        | some start, some finish =>
            if finish < start then .future
            else if finish - start < missedReports * everyMs * 1000 then .fresh
            else .stale
        | _, _ => .invalidClock
      else .notReporting
  | _ => .notReporting

def availabilityOf (publisher : Publisher) (time : Stamp) : Availability :=
  if publisher.loss then .lost
  else if publisher.unavailable then .unavailable
  else if publisher.restored then .restored
  else if !publisher.complete then .incomplete
  else reportAge publisher time

/-! ### Mirror calls -/

/-- What an entry that knows nothing looks like before a call fills it in. -/
def noPublisher : Publisher :=
  ⟨none, none, false, false, [], false, none, none, none, false, none⟩

def invalidate (view : View) (key : Key) : View :=
  let old := (view.get? key).getD noPublisher
  view.set key ⟨old.generation, old.dataAppliedAt, false, true, old.rows, true, old.incarnation,
    old.publication, old.build, false, none⟩

/-- Install a publisher loaded at start, never over one an ingest already applied. -/
def restore (view : View) (key : Key) (publisher : Publisher) : View :=
  match view.get? key with
  | some _ => view
  | none => view.set key publisher

def renewReport (view : View) (key : Key) (receivedAt : Stamp) (reportEveryMs : Option Nat) : View :=
  match view.get? key with
  | some old => view.set key { old with report := some (receivedAt, reportEveryMs) }
  | none => view

def retire (view : View) (key : Key) : View := view.erase key

/-- The rows keyed by agent, a later row of an agent replacing an earlier one. -/
def byAgent (rows : List Record) : Dict String Record :=
  Dict.empty.setAll (rows.map fun row => (row.agentId, row))

/-- Delete an agent only while the row still carries the lifetime that ended. -/
def removeLifetime (rows : Dict String Record) (removed : Removed) : Dict String Record :=
  if (rows.get? removed.agentId).any fun row => row.lifetime = some removed.lifetime then
    rows.erase removed.agentId
  else rows

def removeLifetimes (rows : Dict String Record) (removed : List Removed) : Dict String Record :=
  removed.foldl removeLifetime rows

def updateRows (rows : Dict String Record) (records : List Record) : Dict String Record :=
  rows.setAll (records.map fun row => (row.agentId, row))

/-- `feed`: an unavailable body keeps the data and its loss, a data body writes both. -/
def feed (view : View) (publication : Publication) (appliedAt : Stamp) : View :=
  let old := (view.get? publication.key).getD noPublisher
  if publication.kind = .unavailable then
    view.set publication.key ⟨old.generation, old.dataAppliedAt, old.complete, true, old.rows,
      old.loss, old.incarnation, old.publication, old.build, old.restored, none⟩
  else
    -- A change of a generation the mirror holds no data of starts from nothing
    -- and stays incomplete until a snapshot comes.
    let replace := publication.kind = .snapshot ∨ old.generation ≠ some publication.generation
    let kept := if replace then Dict.empty else removeLifetimes (byAgent old.rows) publication.removed
    let complete := publication.kind = .snapshot ∨ (¬ replace ∧ old.complete)
    view.set publication.key ⟨some publication.generation, some appliedAt, complete, false,
      (updateRows kept publication.agents).values, false, some publication.incarnationId,
      some publication.number, publication.build, old.restored && !decide complete, none⟩

/-! ### The process -/

/-- `readable` is false for `_UnreadableMirror`, whose `view()` raises. -/
structure Mirror where
  view : View
  readable : Bool

structure Process where
  mirror : Mirror
  quarantined : Bool

def newMirror (quarantined : Bool) : Mirror := ⟨Dict.empty, !quarantined⟩

def Process.start : Process := ⟨newMirror false, false⟩

def Process.withView (process : Process) (view : View) : Process :=
  { process with mirror := { process.mirror with view := view } }

def quarantine : Process := ⟨newMirror true, true⟩

/-- Which calls of one `invalidate_safe` or `retire_safe` raise: the call
itself, the listing of the view, and the call of the rebuild with this index. -/
structure SafeFaults where
  call : Bool
  listing : Bool
  rebuild : Option Nat

/-- Invalidate each key on a new mirror; a call that raises ends the loop. -/
def rebuild (quarantined : Bool) (keys : List Key) (fault : Option Nat) : Process × Bool :=
  let reached := match fault with
    | some index => keys.take index
    | none => keys
  (⟨{ newMirror quarantined with view := reached.foldl invalidate Dict.empty }, quarantined⟩,
    decide (reached.length < keys.length))

/-- `mirror.view()`, or none when it raises. -/
def readView (process : Process) (fault : Bool) : Option View :=
  if fault || !process.mirror.readable then none else some process.mirror.view

/-- `invalidate_safe`; the flag says that it raised. -/
def invalidateSafe (process : Process) (key : Key) (faults : SafeFaults) : Process × Bool :=
  if !faults.call then (process.withView (invalidate process.mirror.view key), false)
  else
    -- The losses already known are carried over to the new mirror; when they
    -- cannot be listed, no answer of it is to be trusted.
    let carried := (readView process faults.listing).map fun view =>
      (view.entries.filter fun entry => entry.2.loss && decide (entry.1 ≠ key)).map Prod.fst
    rebuild (process.quarantined || carried.isNone) (carried.getD [] ++ [key]) faults.rebuild

/-- `retire_safe`. -/
def retireSafe (process : Process) (key : Key) (before : Option View) (faults : SafeFaults) :
    Process × Bool :=
  match before with
  | none => (quarantine, false)
  | some view => rebuild process.quarantined (view.keys.filter (· ≠ key)) faults.rebuild

/-- Which mirror calls of one apply raise. -/
structure Faults where
  prepare : Bool
  feed : Bool
  first : SafeFaults
  second : SafeFaults
  renew : Bool

def noFaults : Faults := ⟨false, false, ⟨false, false, none⟩, ⟨false, false, none⟩, false⟩

/-- `_retire`: after a retirement's commit the key leaves the mirror. -/
def retireKey (process : Process) (key : Key) (faults : Faults) : Process × Bool :=
  let before := readView process faults.first.listing
  if !faults.first.call then (process.withView (retire process.mirror.view key), false)
  else retireSafe process key before faults.first

/-- The data step after a commit, with its own handler. -/
def feedSafe (process : Process) (publication : Publication) (appliedAt : Stamp) (faults : Faults) :
    Process × Bool :=
  let tried :=
    if faults.prepare then invalidateSafe process publication.key faults.first
    -- `prepare` failing is handled at once; `feed` failing reaches the handler below.
    else if faults.feed then (process, true)
    else (process.withView (feed process.mirror.view publication appliedAt), false)
  if tried.2 then invalidateSafe tried.1 publication.key faults.second else tried

/-- What `_apply` does to the mirror once its transaction has committed. -/
def mirrorStep (process : Process) (publication : Publication) (appliedAt : Stamp)
    (faults : Faults) : Process × Bool :=
  if publication.kind = .retired then retireKey process publication.key faults
  else
    let fed := feedSafe process publication appliedAt faults
    -- A renewal that raises leaves the report as it was, which only ages it.
    if fed.2 || faults.renew then fed
    else (fed.1.withView (renewReport fed.1.mirror.view publication.key appliedAt
      publication.reportEveryMs), false)

end AifyComms.AgentState
