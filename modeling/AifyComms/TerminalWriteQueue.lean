import AifyComms.Dict
import AifyComms.Runs
import AifyComms.TerminalOutput

/-!
`TerminalOutputWriteQueue` of `terminal_write_queue.py` as a step function over
one process and its database.

`_lock` is never held across an await, so each of its critical sections is one
step. `_write_lock` is the list `writers`: the holder first, then the waiters in
FIFO order. A write is two steps, its SELECT and its UPDATE with the commit;
between them other tasks run. A control completion holds the SQLite write lock
from its `BEGIN IMMEDIATE` to its commit, so while one is open no other write
commits. Timers may fire at any moment, so they are not kept: `scheduled`
events record what the code asks for.

Chunks carry an ordinal that the code does not have: the position of the post
among all posts accepted in the run. A batch's text is kept as its notice and
its chunks, and `Output.text` is the string the code holds.
-/

namespace AifyComms.TerminalWriteQueue
open PyText TerminalOutput

abbrev TaskId := Nat

structure Chunk where
  ordinal : Nat
  text : String
  deriving DecidableEq

structure Output where
  notice : String
  chunks : List Chunk
  deriving DecidableEq

/-- `prefix + "".join(chunks)`. -/
def Output.text (output : Output) : String :=
  output.notice ++ String.join (output.chunks.map Chunk.text)

structure RetryBatch where
  output : Output
  number : Nat
  deriving DecidableEq

structure Batch where
  output : Output
  status : String
  seq : Nat
  deriving DecidableEq

/-- One batch waiting to become one frame, with the batches a write handed back. -/
structure PendingState where
  retry : List RetryBatch
  chunks : List Chunk
  chars : Nat
  status : String
  dropped : Nat
  lastSeq : Nat
  flushArmed : Bool

def newPendingState (lastSeq : Nat) : PendingState := ⟨[], [], 0, "", 0, lastSeq, false⟩

structure Limits where
  maxBatchChars : Nat
  maxPendingChars : Nat

def Limits.make (maxBatchChars maxPendingChars : Nat) : Limits where
  maxBatchChars := max 1024 maxBatchChars
  maxPendingChars := max (max 1024 maxBatchChars) maxPendingChars

def defaultLimits : Limits := Limits.make (16 * 1024) (256 * 1024)

def maxRetryBatches : Nat := 32

inductive FlushTimer where
  | maxLatency
  | idle
  | soon
  deriving DecidableEq

/-- What the run did, in order: a ghost record. `discarded` carries the chunks
a bound removed and the amount it added to the state's dropped count;
`announced` the dropped count a pop turned into a notice; `stored` a value
written to the row's `output_seq`. -/
inductive Event where
  | accepted (terminal : TerminalId) (chunk : Chunk)
  | discarded (terminal : TerminalId) (chunks : List Chunk) (chars : Nat)
  | announced (terminal : TerminalId) (chars : Nat)
  | committed (terminal : TerminalId) (batch : Batch)
  | stored (terminal : TerminalId) (outputSeq : Nat)
  | broadcast (terminal : TerminalId) (output status : String) (seq : Nat)
  | scheduled (terminal : TerminalId) (timer : FlushTimer)
  deriving DecidableEq

inductive Job where
  | flush (task : Option TaskId) (terminal : TerminalId) (batches : List Batch)
  | settle (terminal : TerminalId)
  | outside (terminal : TerminalId) (output status ownStatus : String)
  deriving DecidableEq

inductive TaskState where
  | created
  | joined (other : TaskId)
  | writing
  | done
  deriving DecidableEq

/-- A task made by `_schedule_flush_from_timer`. -/
structure FlushTask where
  id : TaskId
  terminal : TerminalId
  state : TaskState
  deriving DecidableEq

structure Queue where
  pending : Dict TerminalId PendingState
  seqFloor : TerminalId → Nat
  flushTasks : TerminalId → Option TaskId
  inFlight : Nat
  writers : List Job
  tasks : List FlushTask
  nextTask : TaskId
  nextOrdinal : Nat

/-! ### The two bounds -/

/-- `_bound_pending_locked`: drop from the left while over the cap. -/
def boundPendingLoop (limit : Nat) :
    List Chunk → Nat → Nat → List Chunk × List Chunk × Nat × Nat
  | [], chars, dropped => ([], [], chars, dropped)
  | removed :: chunks, chars, dropped =>
      if limit < chars then
        let rest := boundPendingLoop limit chunks (chars - removed.text.length)
          (dropped + removed.text.length)
        (removed :: rest.1, rest.2)
      else ([], removed :: chunks, chars, dropped)

/-- `_bound_retry_locked`: drop the oldest handed-back batches over the count. -/
def boundRetryLoop : List RetryBatch → Nat → List RetryBatch × List RetryBatch × Nat
  | [], dropped => ([], [], dropped)
  | oldest :: retry, dropped =>
      if maxRetryBatches < (oldest :: retry).length then
        let rest := boundRetryLoop retry (dropped + oldest.output.text.length)
        (oldest :: rest.1, rest.2)
      else ([], oldest :: retry, dropped)

/-! ### Enqueue -/

/-- The number is claimed once per batch, above the floor. -/
def claimNumber (queue : Queue) (terminal : TerminalId) (state : PendingState) (baseSeq : Nat) :
    PendingState × (TerminalId → Nat) :=
  if state.lastSeq = 0 then
    -- A state that only holds handed-back batches has no number yet: the first
    -- post after them claims one above the floor, never a number already used.
    let seqStart := max baseSeq (queue.seqFloor terminal) + 1
    ({ state with lastSeq := seqStart }, Function.update queue.seqFloor terminal seqStart)
  else (state, queue.seqFloor)

def addChunk (limits : Limits) (state : PendingState) (chunk : Chunk) : PendingState × List Chunk :=
  let bounded := boundPendingLoop limits.maxPendingChars (state.chunks ++ [chunk])
    (state.chars + chunk.text.length) state.dropped
  ({ state with chunks := bounded.2.1, chars := bounded.2.2.1, dropped := bounded.2.2.2 }, bounded.1)

def appendChunk (limits : Limits) (state : PendingState) (ordinal : Nat) (text : String) :
    PendingState × List Chunk :=
  if text = "" then (state, []) else addChunk limits state ⟨ordinal, text⟩

def appendEvents (terminal : TerminalId) (ordinal : Nat) (text : String)
    (discarded : List Chunk) : List Event :=
  (if text = "" then [] else [.accepted terminal ⟨ordinal, text⟩]) ++
    discarded.map fun chunk => .discarded terminal [chunk] chunk.text.length

def carryStatus (state : PendingState) (status : String) : PendingState :=
  if status = "" then state else { state with status := status }

def flushNow (limits : Limits) (state : PendingState) (status : String) : Bool :=
  limits.maxBatchChars ≤ state.chars || decide (status ∈ ["stopped", "failed"])

def armFlush (limits : Limits) (state : PendingState) (status : String) (autoschedule : Bool) :
    PendingState :=
  if autoschedule && flushNow limits state status then { state with flushArmed := true } else state

/-- The timers one enqueue asks for: the latency timer when it claims the
number, then either one full-batch flush or a restarted idle timer. -/
def scheduleEvents (limits : Limits) (terminal : TerminalId) (claims : Bool) (state : PendingState)
    (status : String) (autoschedule : Bool) : List Event :=
  if autoschedule then
    (if claims then [.scheduled terminal .maxLatency] else []) ++
      if flushNow limits state status then
        if state.flushArmed then [] else [.scheduled terminal .soon]
      else [.scheduled terminal .idle]
  else []

/-- `enqueue`: the queue, the number answered, and the events. -/
def enqueue (limits : Limits) (queue : Queue) (terminal : TerminalId) (output status : String)
    (baseSeq : Nat) (autoschedule : Bool) : Queue × Nat × List Event :=
  let terminalStatus := strip status
  if terminal = "" ∨ (output = "" ∧ terminalStatus = "") then (queue, 0, [])
  else
    let opened := (queue.pending.get? terminal).getD (newPendingState 0)
    let claimed := claimNumber queue terminal opened baseSeq
    let appended := appendChunk limits claimed.1 queue.nextOrdinal output
    let carried := carryStatus appended.1 terminalStatus
    let armed := armFlush limits carried terminalStatus autoschedule
    ({ queue with
        pending := queue.pending.set terminal armed
        seqFloor := claimed.2
        nextOrdinal := if output = "" then queue.nextOrdinal else queue.nextOrdinal + 1 },
      armed.lastSeq,
      appendEvents terminal queue.nextOrdinal output appended.2 ++
        scheduleEvents limits terminal (opened.lastSeq = 0) carried terminalStatus autoschedule)

/-! ### Flush -/

def droppedNotice (dropped : Nat) : String :=
  if dropped = 0 then ""
  else "[aify-comms dropped " ++ toString dropped ++ " chars from terminal output backlog]\n"

/-- The batches `_write_popped` makes of one popped state: every handed-back
batch under its own number, then the pending one. -/
def PendingState.batches (state : PendingState) : List Batch :=
  state.retry.map (fun batch => ⟨batch.output, "", batch.number⟩) ++
    [⟨⟨droppedNotice state.dropped, state.chunks⟩, state.status, state.lastSeq⟩]

def setTaskState (tasks : List FlushTask) (id : Option TaskId) (state : TaskState) :
    List FlushTask :=
  tasks.map fun task => if some task.id = id then { task with state := state } else task

/-- `flush_terminal` up to its first suspension, called by task `me`. A flush
that finds another tracked task waits for it and writes nothing. -/
def flushTerminal (queue : Queue) (me : Option TaskId) (terminal : TerminalId) :
    Queue × List Event :=
  match queue.flushTasks terminal with
  | some existing =>
      -- A direct flush is no tracked task, so it always waits for the tracked one.
      if some existing = me then popState queue else
        ({ queue with tasks := setTaskState queue.tasks me (.joined existing) }, [])
  | none => popState queue
where
  popState (queue : Queue) : Queue × List Event :=
    match queue.pending.get? terminal with
    | none => ({ queue with tasks := setTaskState queue.tasks me .done }, [])
    | some state =>
        ({ queue with
            pending := queue.pending.erase terminal
            inFlight := queue.inFlight + 1
            writers := queue.writers ++ [.flush me terminal state.batches]
            tasks := setTaskState queue.tasks me .writing },
          [.announced terminal state.dropped])

/-- The batches of a failed drain that hold bytes, each under its own number. -/
def keptBatches (batches : List Batch) : List RetryBatch :=
  (batches.filter fun batch => batch.output.text ≠ "").map
    fun batch => RetryBatch.mk batch.output batch.seq

/-- The last status among the batches of a failed drain. -/
def lastStatus (batches : List Batch) : String :=
  ((batches.reverse.find? fun batch => batch.status ≠ "").map Batch.status).getD ""

/-- `_requeue_front`: the handed-back batches go before the retried ones, and
the last status among them replaces the pending one. -/
def requeueFront (queue : Queue) (terminal : TerminalId) (batches : List Batch) :
    Queue × List Event :=
  if keptBatches batches = [] ∧ lastStatus batches = "" then (queue, [])
  else
    -- The fresh state claims no number: it holds batches that have their own.
    let state := (queue.pending.get? terminal).getD (newPendingState 0)
    let bounded := boundRetryLoop (keptBatches batches ++ state.retry) state.dropped
    ({ queue with
        pending := queue.pending.set terminal
          (carryStatus { state with retry := bounded.2.1, dropped := bounded.2.2 }
            (lastStatus batches)) },
      bounded.1.map fun batch =>
        .discarded terminal batch.output.chunks batch.output.text.length)

/-- What `flush_all` does at the head of its loop. -/
inductive FlushAllNext where
  | drain (ids : List TerminalId)
  | sleep
  | returned
  deriving DecidableEq

def flushAllNext (queue : Queue) : FlushAllNext :=
  if queue.pending.keys ≠ [] then .drain queue.pending.keys
  else if queue.inFlight ≠ 0 then .sleep
  else .returned

/-! ### The process and its database -/

/-- A control completion's open transaction: before its append, or holding an
UPDATE that is not committed. -/
inductive Control where
  | waiting
  | appended (terminal : TerminalId) (update : Option RowUpdate)

structure World where
  queue : Queue
  buffers : Buffers
  rows : TerminalId → Row
  seen : Option Row
  control : Option Control
  log : List Event

inductive Label where
  | enqueue (terminal : TerminalId) (output status : String) (baseSeq : Nat) (autoschedule : Bool)
  | timerFlush (terminal : TerminalId)
  | startFlush (task : TaskId)
  | directFlush (terminal : TerminalId)
  | joinedDone (task : TaskId)
  | taskDone (task : TaskId)
  | skip
  | select
  | write (now : Nat)
  | raise
  | finish
  | settle (terminal : TerminalId) (held : Bool)
  | outside (terminal : TerminalId) (output status ownStatus : String)
  | append (now : Nat)
  | commit
  | rollback

def initial (rows : TerminalId → Row) : World where
  queue := ⟨Dict.empty, fun _ => 0, fun _ => none, 0, [], [], 0, 0⟩
  buffers := fun _ => none
  rows := rows
  seen := none
  control := none
  log := []

def Batch.isEmpty (batch : Batch) : Bool := batch.output.text = "" && batch.status = ""

def World.withQueue (world : World) (result : Queue × List Event) : World :=
  { world with queue := result.1, log := world.log ++ result.2 }

def storedEvents (terminal : TerminalId) (update : Option RowUpdate) : List Event :=
  ((update.bind RowUpdate.outputSeq).map fun seq => Event.stored terminal seq).toList

def applyUpdate (rows : TerminalId → Row) (terminal : TerminalId) (update : Option RowUpdate) :
    TerminalId → Row :=
  match update with
  | some update => Function.update rows terminal (update.apply (rows terminal))
  | none => rows

/-- `_write_terminal_output` from its append to its commit, on the row its
SELECT returned. `number` is the number the batch claimed. -/
def writeTerminalOutput (world : World) (row : Row) (terminal : TerminalId) (output status : String)
    (seq : Option Nat) (settle : Bool) (number now : Nat) : World :=
  let used := seqOrRow seq row
  let appended := appendTerminalOutput world.buffers terminal row output status (some used) settle
    number now
  let norm := normalise status
  { world with
    buffers := appended.1
    rows := applyUpdate world.rows terminal appended.2
    seen := none
    log := world.log ++ storedEvents terminal appended.2 ++
      if output = "" ∧ norm = "" then [] else [.broadcast terminal output norm used] }

/-- One batch of the holder's drain commits. -/
def commitBatch (world : World) (row : Row) (now : Nat) (task : Option TaskId)
    (terminal : TerminalId) (batch : Batch) (rest : List Batch) (waiting : List Job) : World :=
  let written := writeTerminalOutput world row terminal batch.output.text batch.status
    (some batch.seq) false batch.seq now
  { written with
    queue := { world.queue with writers := .flush task terminal rest :: waiting }
    log := written.log ++ [.committed terminal batch] }

/-- A batch raises before its commit: it and every one after it are handed back. -/
def handBack (world : World) (task : Option TaskId) (terminal : TerminalId) (batches : List Batch)
    (waiting : List Job) : World :=
  let requeued := requeueFront world.queue terminal batches
  { world with
    seen := none
    queue := { requeued.1 with
      writers := waiting
      inFlight := requeued.1.inFlight - 1
      tasks := setTaskState requeued.1.tasks task .done }
    log := world.log ++ requeued.2 }

/-- The holder leaves `_write_lock`. -/
def release (world : World) (waiting : List Job) : World :=
  { world with seen := none, queue := { world.queue with writers := waiting } }

def appendOutside (world : World) (terminal : TerminalId) (output status ownStatus : String)
    (now : Nat) (waiting : List Job) : World :=
  let row := { world.rows terminal with status := ownStatus }
  let appended := appendTerminalOutput world.buffers terminal row output status none false 0 now
  { release world waiting with
    buffers := appended.1
    control := some (.appended terminal appended.2) }

def isLive (tasks : List FlushTask) (id : TaskId) : Bool :=
  tasks.any fun task => task.id = id && task.state ≠ .done

def stepTask (world : World) : Label → Option World
  | .timerFlush terminal =>
      -- `_track_flush_task` overwrites the entry even of a task still writing.
      let task : FlushTask := ⟨world.queue.nextTask, terminal, .created⟩
      some { world with queue := { world.queue with
        tasks := task :: world.queue.tasks
        flushTasks := Function.update world.queue.flushTasks terminal (some task.id)
        nextTask := world.queue.nextTask + 1 } }
  | .startFlush id =>
      match world.queue.tasks.find? fun task => task.id = id && task.state = .created with
      | some task => some (world.withQueue (flushTerminal world.queue (some id) task.terminal))
      | none => none
  | .directFlush terminal => some (world.withQueue (flushTerminal world.queue none terminal))
  | .joinedDone id =>
      match world.queue.tasks.find? fun task => task.id = id with
      | some ⟨_, _, .joined other⟩ =>
          if isLive world.queue.tasks other then none
          else some { world with queue := { world.queue with
            tasks := setTaskState world.queue.tasks (some id) .done } }
      | _ => none
  | .taskDone id =>
      match world.queue.tasks.find? fun task => task.id = id && task.state = .done with
      -- `_on_flush_done` pops the terminal's entry, whichever task it names by now.
      | some task => some { world with queue := { world.queue with
          tasks := world.queue.tasks.filter fun other => other.id ≠ id
          flushTasks := Function.update world.queue.flushTasks task.terminal none } }
      | none => none
  | _ => none

/-- A step of the task that holds `_write_lock`. -/
def stepHolder (world : World) (holder : Job) (waiting : List Job) : Label → Option World
  | .skip =>
      match holder with
      | .flush task terminal (batch :: rest) =>
          if batch.isEmpty then some { world with queue := { world.queue with
            writers := .flush task terminal rest :: waiting } }
          else none
      | _ => none
  | .select =>
      match holder with
      | .flush _ terminal (batch :: _) =>
          if batch.isEmpty then none else some { world with seen := some (world.rows terminal) }
      | .settle terminal =>
          -- The look under the lock: a write before this one may have stored the tail.
          if pending world.buffers terminal = none then some (release world waiting)
          else some { world with seen := some (world.rows terminal) }
      | _ => none
  | .write now =>
      -- With a control completion's transaction open the UPDATE waits for it.
      match holder, world.seen, world.control with
      | .flush task terminal (batch :: rest), some row, none =>
          some (commitBatch world row now task terminal batch rest waiting)
      | .settle terminal, some row, none =>
          let seq := (world.buffers terminal).bind Tail.seq
          some (release (writeTerminalOutput world row terminal "" "" seq true 0 now) waiting)
      | _, _, _ => none
  | .raise =>
      match holder with
      | .flush task terminal (batch :: rest) =>
          if batch.isEmpty then none
          else some (handBack world task terminal (batch :: rest) waiting)
      -- A settle swallows the exception and leaves the tail held.
      | .settle _ => some (release world waiting)
      | .outside _ _ _ _ => some { release world waiting with control := none }
      | _ => none
  | .finish =>
      match holder with
      | .flush task _ [] => some { world with queue := { world.queue with
          writers := waiting
          inFlight := world.queue.inFlight - 1
          tasks := setTaskState world.queue.tasks task .done } }
      | _ => none
  | .append now =>
      match holder with
      | .outside terminal output status ownStatus =>
          some (appendOutside world terminal output status ownStatus now waiting)
      | _ => none
  | _ => none

/-- A step of a caller outside the lock: a settle or a control completion
arrives, or the completion's transaction ends. -/
def stepCaller (world : World) : Label → Option World
  | .settle terminal held =>
      -- The look before the lock may read a tail that a write in progress has
      -- changed and will restore, so what it saw is part of the label.
      if held then some { world with queue := { world.queue with
        writers := world.queue.writers ++ [.settle terminal] } }
      else some world
  | .outside terminal output status ownStatus =>
      match world.control with
      | none => some { world with
          control := some .waiting
          queue := { world.queue with
            writers := world.queue.writers ++ [.outside terminal output status ownStatus] } }
      | some _ => none
  | .commit =>
      match world.control with
      | some (.appended terminal update) => some { world with
          rows := applyUpdate world.rows terminal update
          control := none
          log := world.log ++ storedEvents terminal update }
      | _ => none
  | .rollback =>
      match world.control with
      | some (.appended _ _) => some { world with control := none }
      | _ => none
  | _ => none

def step (limits : Limits) (world : World) (label : Label) : Option World :=
  match label with
  | .enqueue terminal output status baseSeq autoschedule =>
      let result := enqueue limits world.queue terminal output status baseSeq autoschedule
      some (world.withQueue (result.1, result.2.2))
  | .timerFlush _ | .startFlush _ | .directFlush _ | .joinedDone _ | .taskDone _ =>
      stepTask world label
  | .skip | .select | .write _ | .raise | .finish | .append _ =>
      match world.queue.writers with
      | [] => none
      | holder :: waiting => stepHolder world holder waiting label
  | .settle _ _ | .outside _ _ _ _ | .commit | .rollback => stepCaller world label

end AifyComms.TerminalWriteQueue
