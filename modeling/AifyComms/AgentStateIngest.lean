import AifyComms.AgentStateMirror
import AifyComms.Runs

/-!
`AgentStateStore.apply` of `api_core/agent_state_ingest.py` over the two saved
tables and the mirror, and the restart restore of `api_core/mirror_restore.py`.

Every apply holds `_INGEST_LOCK` from its transaction to its mirror update, so
one apply is one step. `applied` is a ghost: the publications accepted so far,
in order. Of a saved row the model keeps what the mirror reads of its
`record_json`; the `inputs` columns, which nothing reads back, are left out.
-/

namespace AifyComms.AgentState
open Runs

/-- A row of `agent_state_publishers`: the cursor the order compares with, and
the coordinates of the data the rows hold. -/
structure Cursor where
  generation : Nat
  incarnationId : String
  publication : Nat
  digest : String
  kind : Kind
  reason : Option String
  reportReceivedAt : Option Stamp
  reportEveryMs : Option Nat
  dataGeneration : Option Nat
  dataIncarnationId : Option String
  dataPublication : Option Nat
  dataAppliedAt : Option Stamp

/-- `agent_state_publishers`, and `agent_state_rows` by publisher: every
statement on it names one publisher's key. -/
structure Tables where
  publishers : Dict Key Cursor
  rows : Key → Dict String Record

def Tables.empty : Tables := ⟨Dict.empty, fun _ => Dict.empty⟩

/-! ### Order -/

inductive Refusal where
  | stale
  | conflict
  | duplicate
  | retired
  deriving DecidableEq

def order (previous : Option Cursor) (body : Publication) (digest : String) : Option Refusal :=
  match previous with
  | none => none
  | some previous =>
      if previous.generation < body.generation then none
      else if body.generation < previous.generation then some .stale
      else if body.incarnationId ≠ previous.incarnationId then some .conflict
      else if body.number < previous.publication then some .stale
      else if body.number = previous.publication then
        if digest = previous.digest then some .duplicate else some .conflict
      -- A retired generation takes no later number either; only a new one opens it.
      else if previous.kind = .retired then some .retired
      else none

/-! ### The transaction -/

/-- `_write_cursor`: the data columns keep what they had. -/
def writeCursor (tables : Tables) (body : Publication) (digest : String) (appliedAt : Stamp) :
    Tables :=
  let old := tables.publishers.get? body.key
  let cursor : Cursor :=
    { generation := body.generation
      incarnationId := body.incarnationId
      publication := body.number
      digest := digest
      kind := body.kind
      reason := body.reason
      reportReceivedAt := if body.kind = .retired then none else some appliedAt
      reportEveryMs := body.reportEveryMs
      dataGeneration := old.bind Cursor.dataGeneration
      dataIncarnationId := old.bind Cursor.dataIncarnationId
      dataPublication := old.bind Cursor.dataPublication
      dataAppliedAt := old.bind Cursor.dataAppliedAt }
  { tables with publishers := tables.publishers.set body.key cursor }

/-- `UPDATE agent_state_publishers SET data_...`, a no-op without the row. -/
def writeDataColumns (tables : Tables) (body : Publication) (appliedAt : Stamp) : Tables :=
  match tables.publishers.get? body.key with
  | none => tables
  | some cursor =>
      let dated :=
        { cursor with
          dataGeneration := some body.generation
          dataIncarnationId := some body.incarnationId
          dataPublication := some body.number
          dataAppliedAt := some appliedAt }
      { tables with publishers := tables.publishers.set body.key dated }

def setRows (tables : Tables) (key : Key) (rows : Dict String Record) : Tables :=
  { tables with rows := Function.update tables.rows key rows }

def writeRetirement (tables : Tables) (body : Publication) (appliedAt : Stamp) : Tables :=
  writeDataColumns (setRows tables body.key Dict.empty) body appliedAt

/-- The rows `_write_data` leaves; `previous` is the cursor before this body. -/
def writtenRows (rows : Dict String Record) (previous : Option Cursor) (body : Publication) :
    Dict String Record :=
  let kept :=
    if body.kind = .snapshot ∨ previous.bind Cursor.dataGeneration ≠ some body.generation then
      Dict.empty
    else removeLifetimes rows body.removed
  updateRows kept body.agents

def writeData (tables : Tables) (body : Publication) (previous : Option Cursor) (appliedAt : Stamp) :
    Tables :=
  writeDataColumns
    (setRows tables body.key (writtenRows (tables.rows body.key) previous body)) body appliedAt

def writeTables (tables : Tables) (body : Publication) (digest : String) (appliedAt : Stamp) :
    Tables :=
  let previous := tables.publishers.get? body.key
  let moved := writeCursor tables body digest appliedAt
  match body.kind with
  | .retired => writeRetirement moved body appliedAt
  -- An unavailable body moves the cursor alone: the rows and their coordinates stay.
  | .unavailable => moved
  | .snapshot | .changes => writeData moved body previous appliedAt

/-! ### Apply -/

structure World where
  tables : Tables
  process : Process
  applied : List Publication

def World.start : World := ⟨Tables.empty, Process.start, []⟩

/-- What the caller of `apply` sees. `raised` is a mirror failure that escaped
its handlers after the commit. -/
inductive Answer where
  | invalid (message : String)
  | storeFailed
  | refused (reason : Refusal)
  | applied
  | raised
  deriving DecidableEq

/-- `_apply`: a transaction that fails is rolled back and raises. -/
def applyPublication (world : World) (body : Publication) (digest : String) (appliedAt : Stamp)
    (storeFails : Bool) (faults : Faults) : World × Answer :=
  if storeFails then (world, .storeFailed)
  else match order (world.tables.publishers.get? body.key) body digest with
    | some refusal => (world, .refused refusal)
    | none =>
        let mirrored := mirrorStep world.process body appliedAt faults
        ({ tables := writeTables world.tables body digest appliedAt
           process := mirrored.1
           applied := world.applied ++ [body] },
          if mirrored.2 then .raised else .applied)

/-- `apply`: nothing is ordered before the whole document validates. -/
def apply (world : World) (document : Json) (digest : String) (appliedAt : Stamp)
    (storeFails : Bool) (faults : Faults) : World × Answer :=
  match ofJson document with
  | .error message => (world, .invalid message)
  | .ok body => applyPublication world body digest appliedAt storeFails faults

/-! ### Restart -/

def savedReport (cursor : Cursor) : Option (Stamp × Option Nat) :=
  cursor.reportReceivedAt.map fun received => (received, cursor.reportEveryMs)

def restoredPublisher (cursor : Cursor) (rows : Dict String Record) : Publisher :=
  ⟨cursor.dataGeneration, cursor.dataAppliedAt, false, decide (cursor.kind = .unavailable),
    rows.values, false, cursor.dataIncarnationId, cursor.dataPublication, none, true,
    savedReport cursor⟩

def lostPublisher (cursor : Cursor) : Publisher :=
  ⟨cursor.dataGeneration, cursor.dataAppliedAt, false, false, [], true, cursor.dataIncarnationId,
    cursor.dataPublication, none, true, savedReport cursor⟩

/-- One publisher of the restore loop. `unreadable` says that the validator
refuses one of its saved rows. -/
def restoreEntry (tables : Tables) (unreadable : Key → Bool) (view : View)
    (entry : Key × Cursor) : View :=
  -- A retired publisher has no rows to show. A restored one is never complete,
  -- so it is not fresh before its next snapshot.
  if entry.2.kind = .retired then view
  else if unreadable entry.1 then restore view entry.1 (lostPublisher entry.2)
  else restore view entry.1 (restoredPublisher entry.2 (tables.rows entry.1))

/-- `restore_mirror`: quarantined when the tables cannot be read. -/
def restoreMirror (world : World) (tablesFail : Bool) (unreadable : Key → Bool) : World :=
  if tablesFail then { world with process := quarantine }
  else
    let view := world.tables.publishers.entries.foldl (restoreEntry world.tables unreadable)
      world.process.mirror.view
    { world with process := world.process.withView view }

inductive Label where
  | publish (document : Json) (digest : String) (appliedAt : Stamp) (storeFails : Bool)
      (faults : Faults)
  | restart
  | restore (tablesFail : Bool) (unreadable : Key → Bool)

def step (world : World) : Label → Option World
  | .publish document digest appliedAt storeFails faults =>
      some (apply world document digest appliedAt storeFails faults).1
  | .restart => some { world with process := Process.start }
  | .restore tablesFail unreadable => some (restoreMirror world tablesFail unreadable)

end AifyComms.AgentState
