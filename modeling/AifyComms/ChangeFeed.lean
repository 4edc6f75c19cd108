import AifyComms.Runs
import AifyComms.WrittenTables
import Mathlib.Algebra.Ring.Nat
import Mathlib.Data.Finset.Sort
import Mathlib.Data.String.Basic

/-!
Telling the dashboard which tables changed: the checkouts of `service/db_pool.py` and
the attached feed of `service/change_feed.py`.

A step is what a task runs between two awaits. A statement's label says how many rows it
changed, and `totalChanges` is SQLite's running count of a connection, which a rollback
does not take back. Times are milliseconds. The records are the history of a run, the
newest first; nothing reads them. The waking of claims and of the resident check is left
out: neither reads or writes the feed.
-/

namespace AifyComms.ChangeFeed
open Runs WrittenTables

/-- What a checkout is asked to run. -/
inductive Statement where
  | single (sql : String)
  | script (text : String)
  deriving DecidableEq

def Statement.writes : Statement → List Write
  | .single sql => (writtenTable sql).toList
  | .script text => writtenTablesOfScript text

/-- The part of a `PooledConnection` that its reports are made of. -/
structure Checkout where
  conn : Nat
  writes : List Write
  rowsChanged : Nat

/-- A `data_changed` event. -/
structure Payload where
  seq : Nat
  instanceId : String
  tables : List String
  liveness : List String
  deriving DecidableEq

/-- What happened. A commit's writes are the ones it reported. -/
inductive Record where
  | issued (id : Nat) (statement : Statement) (rows : Nat)
  | committed (id : Nat) (reported : List Write)
  | rolledBack (id : Nat)
  | returned (id : Nat)
  | moved (table : String)
  | announced (payload : Payload)
  deriving DecidableEq

structure Feed where
  instanceId : String
  seq : Nat
  changed : Finset String
  liveness : Finset String
  flushHandle : Option Nat
  flushAt : Nat

/-- The loop's side of it: the timers that are set, and the flush tasks that fired ones
made and that have not begun. -/
structure Loop where
  now : Nat
  timers : List (Nat × Nat)
  made : Nat
  tasks : Nat

/-- `holders` says which checkout has a connection. -/
structure World where
  totalChanges : Nat → Nat
  holders : Nat → Option Nat
  checkouts : Nat → Option Checkout
  feed : Feed
  loop : Loop
  records : List Record

def initial (instanceId : String) (totalChanges : Nat → Nat) : World where
  totalChanges := totalChanges
  holders := fun _ => none
  checkouts := fun _ => none
  feed := ⟨instanceId, 0, ∅, ∅, none, 0⟩
  loop := ⟨0, [], 0, 0⟩
  records := []

/-! ### The feed -/

/-- `COALESCE_S`. -/
def coalesce : Nat := 250

/-- `LIVENESS_COALESCE_S`. -/
def livenessCoalesce : Nat := 10000

/-- How long what waits now gathers. -/
def delay (feed : Feed) : Nat := if feed.changed = ∅ then livenessCoalesce else coalesce

/-- `_schedule`. -/
def schedule (feed : Feed) (loop : Loop) : Feed × Loop :=
  if feed.changed = ∅ ∧ feed.liveness = ∅ then (feed, loop)
  else
    let due := loop.now + delay feed
    if feed.flushHandle.isSome ∧ feed.flushAt ≤ due then (feed, loop)
    else
      -- Liveness was waiting its long window and a real change arrived: send sooner.
      ({ feed with flushHandle := some loop.made, flushAt := due },
        { loop with
          timers := (loop.made, due) ::
            loop.timers.filter fun timer => decide (some timer.1 ≠ feed.flushHandle)
          made := loop.made + 1 })

def World.scheduled (world : World) (feed : Feed) : World :=
  { world with feed := (schedule feed world.loop).1, loop := (schedule feed world.loop).2 }

def tablesOf (writes : List Write) : Finset String := (writes.map Write.table).toFinset

/-- `committed`. -/
def committed (writes : List Write) (world : World) : World :=
  world.scheduled { world.feed with
    changed := world.feed.changed ∪ tablesOf (writes.filter fun write => !write.liveness)
    liveness := world.feed.liveness ∪ tablesOf (writes.filter Write.liveness) }

/-- `derived_moved`; `agent_status_moved` is it for `agents`. -/
def derivedMoved (table : String) (world : World) : World :=
  { world.scheduled { world.feed with changed := insert table world.feed.changed } with
    records := .moved table :: world.records }

/-- `flush`. -/
def flush (world : World) : World :=
  let feed := { world.feed with flushHandle := none, changed := ∅, liveness := ∅ }
  let changed := world.feed.changed
  let liveness := world.feed.liveness \ world.feed.changed
  if changed = ∅ ∧ liveness = ∅ then { world with feed := feed }
  else
    { world with
      feed := { feed with seq := world.feed.seq + 1 }
      records := .announced
        ⟨world.feed.seq + 1, world.feed.instanceId, changed.sort (· ≤ ·), liveness.sort (· ≤ ·)⟩ ::
          world.records }

/-! ### The checkouts -/

def World.put (world : World) (id : Nat) (checkout : Checkout) : World :=
  { world with checkouts := Function.update world.checkouts id (some checkout) }

/-- The statement ran and changed this many rows. -/
def ran (id : Nat) (checkout : Checkout) (statement : Statement) (rows : Nat)
    (world : World) : World :=
  { world with
    totalChanges := Function.update world.totalChanges checkout.conn
      (world.totalChanges checkout.conn + rows)
    records := .issued id statement rows :: world.records }

/-- `_take_writes` and `_rows_changed_since_last`. -/
def taken (id : Nat) (checkout : Checkout) (world : World) : World :=
  world.put id { checkout with
    writes := []
    rowsChanged := world.totalChanges checkout.conn }

/-- What the end of `commit` and of `executescript` reports of these writes. -/
def reported (checkout : Checkout) (writes : List Write) (world : World) : List Write :=
  if world.totalChanges checkout.conn ≠ checkout.rowsChanged then writes else []

/-- The end of `commit` and of `executescript`: nothing is handed over for no writes. -/
def report (id : Nat) (checkout : Checkout) (writes : List Write) (world : World) : World :=
  let told := reported checkout writes world
  let noted := { taken id checkout world with records := .committed id told :: world.records }
  if told = [] then noted else committed told noted

inductive Label where
  | acquire (id conn : Nat)
  | execute (id : Nat) (sql : String) (rows : Nat)
  | executescript (id : Nat) (text : String) (rows : Nat)
  | commit (id : Nat)
  | commitRaises (id : Nat)
  | rollback (id : Nat)
  | close (id : Nat)
  | moved (table : String)
  | wait (time : Nat)
  | fire (timer : Nat)
  | flushTask
  | flush

/-- A step of the checkouts, of the feed and of the loop that runs them. -/
def step (world : World) : Label → Option World
  | .acquire id conn =>
      -- The pool hands a connection to one checkout at a time.
      if (world.checkouts id).isSome ∨ (world.holders conn).isSome then none
      else some { world.put id ⟨conn, [], world.totalChanges conn⟩ with
        holders := Function.update world.holders conn (some id) }
  | .execute id sql rows =>
      (world.checkouts id).map fun checkout =>
        let noted := { checkout with writes := checkout.writes ++ (writtenTable sql).toList }
        ran id checkout (.single sql) rows (world.put id noted)
  | .executescript id text rows =>
      (world.checkouts id).map fun checkout =>
        report id checkout (checkout.writes ++ writtenTablesOfScript text)
          (ran id checkout (.script text) rows world)
  | .commit id =>
      (world.checkouts id).map fun checkout => report id checkout checkout.writes world
  | .commitRaises id => (world.checkouts id).map fun _ => world
  | .rollback id =>
      -- Whether or not the rollback raises.
      (world.checkouts id).map fun checkout =>
        { taken id checkout world with records := .rolledBack id :: world.records }
  | .close id =>
      (world.checkouts id).map fun checkout =>
        { world with
          checkouts := Function.update world.checkouts id none
          holders := Function.update world.holders checkout.conn none
          records := .returned id :: world.records }
  | .moved table => some (derivedMoved table world)
  | .wait time => some { world with loop := { world.loop with now := world.loop.now + time } }
  | .fire timer =>
      if world.loop.timers.any fun set => decide (set.1 = timer) && decide (set.2 ≤ world.loop.now)
      then some { world with loop := { world.loop with
        timers := world.loop.timers.filter fun set => decide (set.1 ≠ timer)
        tasks := world.loop.tasks + 1 } }
      else none
  | .flushTask =>
      if world.loop.tasks = 0 then none
      else some (flush { world with loop := { world.loop with tasks := world.loop.tasks - 1 } })
  | .flush => some (flush world)

/-! ### What the records say -/

/-- A table that a record reports, and whether as liveness. -/
def Record.reports : Record → List (String × Bool)
  | .committed _ writes => writes.map fun write => (write.table, write.liveness)
  | .moved table => [(table, false)]
  | _ => []

def Record.isEvent : Record → Bool
  | .announced _ => true
  | _ => false

/-- What was reported since the last event. -/
def waiting : List Record → List (String × Bool)
  | [] => []
  | record :: earlier => if record.isEvent then [] else record.reports ++ waiting earlier

/-- How many events were sent. -/
def events (records : List Record) : Nat := records.countP Record.isEvent

/-- Whether this record ends what a checkout has under way. -/
def Record.ends (id : Nat) : Record → Bool
  | .committed other _ | .rolledBack other | .returned other => decide (other = id)
  | _ => false

def Record.statements (id : Nat) : Record → List (Statement × Nat)
  | .issued other statement rows => if other = id then [(statement, rows)] else []
  | _ => []

/-- The statements issued on a checkout since its previous commit or rollback, each with
the rows it changed. -/
def since (id : Nat) : List Record → List (Statement × Nat)
  | [] => []
  | record :: earlier =>
      if record.ends id then [] else since id earlier ++ record.statements id

def written (id : Nat) (records : List Record) : List Write :=
  (since id records).flatMap fun issued => issued.1.writes

def rowsSince (id : Nat) (records : List Record) : Nat := ((since id records).map Prod.snd).sum

/-- What a record must say after these: a commit reports what its checkout wrote, when
rows changed, and an event what was reported since the last one, a table as liveness
where nothing reported it as a change. -/
def Record.Holds (earlier : List Record) : Record → Prop
  | .committed id told => told = if rowsSince id earlier = 0 then [] else written id earlier
  | .announced payload =>
      payload.seq = events earlier + 1 ∧
      (∀ table, table ∈ payload.tables ↔ (table, false) ∈ waiting earlier) ∧
      ∀ table, table ∈ payload.liveness ↔
        (table, true) ∈ waiting earlier ∧ (table, false) ∉ waiting earlier
  | _ => True

def AllHold : List Record → Prop
  | [] => True
  | record :: earlier => record.Holds earlier ∧ AllHold earlier

theorem AllHold.earlier {later : List Record} {record : Record} {earlier : List Record}
    (all : AllHold (later ++ record :: earlier)) : record.Holds earlier ∧ AllHold earlier := by
  induction later with
  | nil => exact all
  | cons newest rest ih => exact ih all.2

/-! ### The feed is what waits -/

/-- A timer that is set, or a flush that a fired one made. -/
def Due (world : World) : Prop := world.loop.timers ≠ [] ∨ 0 < world.loop.tasks

structure Waits (world : World) : Prop where
  seq : world.feed.seq = events world.records
  changed : ∀ table, table ∈ world.feed.changed ↔ (table, false) ∈ waiting world.records
  liveness : ∀ table, table ∈ world.feed.liveness ↔ (table, true) ∈ waiting world.records

structure FeedKept (world : World) : Prop extends Waits world where
  handle : ∀ timer, world.feed.flushHandle = some timer →
    timer ∈ world.loop.timers.map Prod.fst ∨ 0 < world.loop.tasks
  due : world.feed.changed ≠ ∅ ∨ world.feed.liveness ≠ ∅ → world.feed.flushHandle.isSome

theorem schedule_feed (feed : Feed) (loop : Loop) :
    (schedule feed loop).1.seq = feed.seq ∧ (schedule feed loop).1.changed = feed.changed ∧
      (schedule feed loop).1.liveness = feed.liveness := by
  unfold schedule
  split
  · exact ⟨rfl, rfl, rfl⟩
  · dsimp only
    split <;> exact ⟨rfl, rfl, rfl⟩

/-- The handle that was there stays, or it is the one of a new timer. -/
theorem schedule_handle {feed : Feed} {loop : Loop}
    (held : ∀ timer, feed.flushHandle = some timer →
      timer ∈ loop.timers.map Prod.fst ∨ 0 < loop.tasks) :
    ∀ timer, (schedule feed loop).1.flushHandle = some timer →
      timer ∈ (schedule feed loop).2.timers.map Prod.fst ∨
        0 < (schedule feed loop).2.tasks := by
  unfold schedule
  split
  · exact held
  · dsimp only
    split
    · exact held
    · intro timer same
      obtain rfl := Option.some.inj same
      exact .inl (List.mem_cons_self ..)

theorem schedule_due {feed : Feed} {loop : Loop}
    (waits : feed.changed ≠ ∅ ∨ feed.liveness ≠ ∅) :
    (schedule feed loop).1.flushHandle.isSome := by
  unfold schedule
  split
  next empty => exact waits.elim (absurd empty.1) (absurd empty.2)
  · dsimp only
    split
    next soon => exact soon.1
    · rfl

theorem waiting_cons {record : Record} (event : record.isEvent = false) (earlier : List Record) :
    waiting (record :: earlier) = record.reports ++ waiting earlier :=
  if_neg (Bool.eq_false_iff.mp event)

theorem waiting_event {record : Record} (event : record.isEvent = true) (earlier : List Record) :
    waiting (record :: earlier) = [] :=
  if_pos event

theorem events_cons {record : Record} (event : record.isEvent = false) (earlier : List Record) :
    events (record :: earlier) = events earlier :=
  List.countP_cons_of_neg (by rw [event]; exact Bool.false_ne_true)

/-- What a record reports is in the feed, and a flush is due. -/
theorem scheduled_kept {world : World} {feed : Feed} {record : Record} (kept : FeedKept world)
    (event : record.isEvent = false) (seq : feed.seq = world.feed.seq)
    (handle : feed.flushHandle = world.feed.flushHandle)
    (changed : ∀ table, table ∈ feed.changed ↔
      (table, false) ∈ record.reports ∨ table ∈ world.feed.changed)
    (liveness : ∀ table, table ∈ feed.liveness ↔
      (table, true) ∈ record.reports ∨ table ∈ world.feed.liveness) :
    FeedKept { world.scheduled feed with records := record :: world.records } := by
  obtain ⟨sameSeq, sameChanged, sameLiveness⟩ := schedule_feed feed world.loop
  refine ⟨⟨?_, ?_, ?_⟩, schedule_handle (handle ▸ kept.handle), ?_⟩
  · have numbered := kept.seq
    dsimp only [World.scheduled]
    rw [sameSeq, seq, numbered, events_cons event]
  · intro table
    dsimp only [World.scheduled]
    rw [sameChanged, changed, kept.changed, waiting_cons event, List.mem_append]
  · intro table
    dsimp only [World.scheduled]
    rw [sameLiveness, liveness, kept.liveness, waiting_cons event, List.mem_append]
  · dsimp only [World.scheduled]
    rw [sameChanged, sameLiveness]
    exact schedule_due

/-- A record that is no event and reports nothing. -/
theorem silent_kept {world : World} {record : Record} (kept : FeedKept world)
    (event : record.isEvent = false) (silent : record.reports = []) :
    FeedKept { world with records := record :: world.records } := by
  have same : waiting (record :: world.records) = waiting world.records := by
    rw [waiting_cons event, silent, List.nil_append]
  refine ⟨⟨?_, ?_, ?_⟩, kept.handle, kept.due⟩
  · exact kept.seq.trans (events_cons event _).symm
  · dsimp only
    rw [same]
    exact kept.changed
  · dsimp only
    rw [same]
    exact kept.liveness

theorem Waits.of_eq {world other : World} (waits : Waits world) (feed : other.feed = world.feed)
    (records : other.records = world.records) : Waits other := by
  constructor
  · rw [feed, records]
    exact waits.seq
  · rw [feed, records]
    exact waits.changed
  · rw [feed, records]
    exact waits.liveness

/-- The feed does not read the checkouts. -/
theorem FeedKept.of_eq {world other : World} (kept : FeedKept world)
    (feed : other.feed = world.feed) (loop : other.loop = world.loop)
    (records : other.records = world.records) : FeedKept other := by
  refine ⟨kept.toWaits.of_eq feed records, ?_, ?_⟩
  · rw [feed, loop]
    exact kept.handle
  · rw [feed]
    exact kept.due

theorem mem_tablesOf {writes : List Write} {live : Bool} {table : String}
    {keep : Write → Bool} (keeps : ∀ write, keep write = decide (write.liveness = live)) :
    table ∈ tablesOf (writes.filter keep) ↔
      (table, live) ∈ writes.map fun write => (write.table, write.liveness) := by
  simp only [tablesOf, List.mem_toFinset, List.mem_map, List.mem_filter, keeps,
    decide_eq_true_eq, Prod.mk.injEq]
  constructor
  · rintro ⟨write, ⟨listed, mark⟩, same⟩
    exact ⟨write, listed, same, mark⟩
  · rintro ⟨write, listed, same, mark⟩
    exact ⟨write, ⟨listed, mark⟩, same⟩

theorem committed_kept {world : World} {id : Nat} {writes : List Write} (kept : FeedKept world) :
    FeedKept (committed writes { world with records := .committed id writes :: world.records }) := by
  refine scheduled_kept kept rfl rfl rfl ?_ ?_
  · intro table
    rw [Finset.mem_union, or_comm]
    refine or_congr_left (mem_tablesOf fun write => ?_)
    cases write.liveness <;> rfl
  · intro table
    rw [Finset.mem_union, or_comm]
    refine or_congr_left (mem_tablesOf fun write => ?_)
    cases write.liveness <;> rfl

theorem derivedMoved_kept {world : World} {table : String} (kept : FeedKept world) :
    FeedKept (derivedMoved table world) := by
  refine scheduled_kept kept rfl rfl rfl ?_ ?_
  · intro other
    simp [Record.reports]
  · intro other
    simp [Record.reports]

/-- A flush leaves nothing waiting; where something was, it is the event. -/
theorem flush_kept {world : World} (kept : Waits world) : FeedKept (flush world) := by
  unfold flush
  dsimp only
  split
  next empty =>
    have nothing : waiting world.records = [] := by
      rw [List.eq_nil_iff_forall_not_mem]
      rintro ⟨table, live⟩ listed
      cases live with
      | false =>
          have present := (kept.changed table).mpr listed
          rw [empty.1] at present
          exact absurd present (Finset.notMem_empty table)
      | true =>
          have present := (kept.liveness table).mpr listed
          have only : table ∈ world.feed.liveness \ world.feed.changed :=
            Finset.mem_sdiff.mpr ⟨present, by rw [empty.1]; exact Finset.notMem_empty table⟩
          rw [empty.2] at only
          exact absurd only (Finset.notMem_empty table)
    refine ⟨⟨kept.seq, ?_, ?_⟩, ?_, ?_⟩
    · intro table
      dsimp only
      rw [nothing]
      simp
    · intro table
      dsimp only
      rw [nothing]
      simp
    · intro timer same
      cases same
    · intro waits
      exact waits.elim (absurd rfl) (absurd rfl)
  · refine ⟨⟨?_, ?_, ?_⟩, ?_, ?_⟩
    · have numbered := kept.seq
      dsimp only
      rw [numbered]
      exact (List.countP_cons_of_pos rfl).symm
    · intro table
      rw [waiting_event rfl]
      simp
    · intro table
      rw [waiting_event rfl]
      simp
    · intro timer same
      cases same
    · intro waits
      exact waits.elim (absurd rfl) (absurd rfl)

theorem flush_holds {world : World} (kept : Waits world) (all : AllHold world.records) :
    AllHold (flush world).records := by
  unfold flush
  dsimp only
  split
  · exact all
  · refine ⟨⟨?_, ?_, ?_⟩, all⟩
    · rw [kept.seq]
    · intro table
      rw [Finset.mem_sort, kept.changed]
    · intro table
      rw [Finset.mem_sort, Finset.mem_sdiff, kept.liveness, kept.changed]

theorem flush_checkouts (world : World) : (flush world).checkouts = world.checkouts ∧
    (flush world).holders = world.holders ∧ (flush world).totalChanges = world.totalChanges := by
  unfold flush
  dsimp only
  split <;> exact ⟨rfl, rfl, rfl⟩

/-! ### A checkout has what it wrote -/

/-- What a checkout keeps since its previous commit or rollback. -/
structure Noted (world : World) (id : Nat) (checkout : Checkout) : Prop where
  holder : world.holders checkout.conn = some id
  writes : checkout.writes = written id world.records
  rows : world.totalChanges checkout.conn = checkout.rowsChanged + rowsSince id world.records

structure CheckoutsKept (world : World) : Prop where
  each : ∀ id checkout, world.checkouts id = some checkout → Noted world id checkout
  free : ∀ id, world.checkouts id = none → since id world.records = []

theorem since_cons {id : Nat} {record : Record} (ends : record.ends id = false)
    (earlier : List Record) :
    since id (record :: earlier) = since id earlier ++ record.statements id :=
  if_neg (Bool.eq_false_iff.mp ends)

theorem since_other {id : Nat} {record : Record} (ends : record.ends id = false)
    (statements : record.statements id = []) (earlier : List Record) :
    since id (record :: earlier) = since id earlier := by
  rw [since_cons ends, statements, List.append_nil]

theorem since_ends {id : Nat} {record : Record} (ends : record.ends id = true)
    (earlier : List Record) : since id (record :: earlier) = [] :=
  if_pos ends

theorem since_issued (id : Nat) (statement : Statement) (rows : Nat) (earlier : List Record) :
    since id (.issued id statement rows :: earlier) = since id earlier ++ [(statement, rows)] := by
  have statements : Record.statements id (.issued id statement rows) = [(statement, rows)] :=
    if_pos rfl
  have ends : Record.ends id (.issued id statement rows) = false := rfl
  rw [since_cons ends, statements]

/-- Of what happens, a checkout sees its own. -/
theorem Noted.of_since {world other : World} {id : Nat} {checkout : Checkout}
    (noted : Noted world id checkout)
    (holders : other.holders checkout.conn = world.holders checkout.conn)
    (total : other.totalChanges checkout.conn = world.totalChanges checkout.conn)
    (same : since id other.records = since id world.records) : Noted other id checkout := by
  constructor
  · exact holders.trans noted.holder
  · rw [written, same]
    exact noted.writes
  · rw [total, rowsSince, same]
    exact noted.rows

theorem ran_noted {world : World} {id : Nat} {checkout : Checkout} (noted : Noted world id checkout)
    (statement : Statement) (rows : Nat) :
    Noted (ran id checkout statement rows world) id
      { checkout with writes := checkout.writes ++ statement.writes } := by
  constructor
  · exact noted.holder
  · rw [written, ran, since_issued, List.flatMap_append, ← written, ← noted.writes]
    simp
  · rw [rowsSince, ran, since_issued, List.map_append, List.sum_append, ← rowsSince]
    dsimp only
    rw [Function.update_self, noted.rows]
    simp [Nat.add_assoc]

/-- A statement of one checkout is not another's, and neither is its connection. -/
theorem ran_other {world : World} {id other : Nat} {checkout held : Checkout}
    (noted : Noted world id checkout) (apart : other ≠ id) (theirs : Noted world other held)
    (statement : Statement) (rows : Nat) :
    Noted (ran id checkout statement rows world) other held := by
  have elsewhere : held.conn ≠ checkout.conn := by
    intro same
    have both := theirs.holder
    rw [same, noted.holder] at both
    exact apart (Option.some.inj both).symm
  refine theirs.of_since rfl (Function.update_of_ne elsewhere ..) ?_
  refine since_other rfl ?_ _
  rw [Record.statements, if_neg (Ne.symm apart)]

/-- One checkout moved, and the others see nothing of it. -/
theorem put_kept {world other : World} {id : Nat} {checkout : Checkout} (kept : CheckoutsKept world)
    (moved : other.checkouts = Function.update world.checkouts id (some checkout))
    (own : Noted other id checkout)
    (theirs : ∀ key held, key ≠ id → Noted world key held → Noted other key held)
    (same : ∀ key, key ≠ id → since key other.records = since key world.records) :
    CheckoutsKept other := by
  constructor
  · intro key held present
    rw [moved] at present
    by_cases here : key = id
    · rw [here, Function.update_self] at present
      rw [here, ← Option.some.inj present]
      exact own
    · rw [Function.update_of_ne here] at present
      exact theirs key held here (kept.each key held present)
  · intro key absent
    rw [moved] at absent
    by_cases here : key = id
    · rw [here, Function.update_self] at absent
      cases absent
    · rw [Function.update_of_ne here] at absent
      exact (same key here).trans (kept.free key absent)

theorem issued_other {id key : Nat} (apart : key ≠ id) (statement : Statement) (rows : Nat)
    (earlier : List Record) :
    since key (.issued id statement rows :: earlier) = since key earlier := by
  have statements : Record.statements key (.issued id statement rows) = [] :=
    if_neg (Ne.symm apart)
  exact since_other rfl statements earlier

/-- A statement was issued: the checkout that issued it notes its writes. -/
theorem issued_kept {world : World} {id : Nat} {checkout : Checkout} (kept : CheckoutsKept world)
    (found : world.checkouts id = some checkout) (statement : Statement) (rows : Nat) :
    CheckoutsKept (ran id checkout statement rows
      (world.put id { checkout with writes := checkout.writes ++ statement.writes })) := by
  have own := kept.each id checkout found
  refine put_kept kept rfl ((ran_noted own statement rows).of_since rfl rfl rfl) ?_ ?_
  · intro key held apart theirs
    exact (ran_other own apart theirs statement rows).of_since rfl rfl rfl
  · intro key apart
    exact issued_other apart statement rows world.records

theorem taken_noted {world : World} {id : Nat} {checkout : Checkout} {record : Record}
    (holder : world.holders checkout.conn = some id) (ends : record.ends id = true) :
    Noted { taken id checkout world with records := record :: world.records } id
      { checkout with writes := [], rowsChanged := world.totalChanges checkout.conn } := by
  constructor
  · exact holder
  · rw [written, since_ends ends]
    rfl
  · rw [rowsSince, since_ends ends]
    rfl

/-- A commit or a rollback is its own checkout's. -/
theorem taken_other {world : World} {id key : Nat} {checkout held : Checkout} {record : Record}
    (theirs : Noted world key held) (ends : record.ends key = false)
    (statements : record.statements key = []) :
    Noted { taken id checkout world with records := record :: world.records } key held :=
  theirs.of_since rfl rfl (since_other ends statements world.records)

theorem rollback_kept {world : World} {id : Nat} {checkout : Checkout} (kept : CheckoutsKept world)
    (found : world.checkouts id = some checkout) :
    CheckoutsKept { taken id checkout world with records := .rolledBack id :: world.records } := by
  have ends : ∀ key, key ≠ id → Record.ends key (.rolledBack id) = false := fun key apart =>
    decide_eq_false (Ne.symm apart)
  have holder := (kept.each id checkout found).holder
  refine put_kept kept rfl (taken_noted holder (decide_eq_true rfl)) ?_ ?_
  · intro key held apart theirs
    exact taken_other theirs (ends key apart) rfl
  · intro key apart
    exact since_other (ends key apart) rfl world.records

/-- What a commit reports: `before` is the world its statements were issued in, and
`world` the one the last of them left. -/
theorem report_kept {before world : World} {id : Nat} {checkout : Checkout} {writes : List Write}
    (kept : CheckoutsKept before) (same : world.checkouts = before.checkouts)
    (own : Noted world id { checkout with writes := writes })
    (theirs : ∀ key held, key ≠ id → Noted before key held → Noted world key held)
    (unseen : ∀ key, key ≠ id → since key world.records = since key before.records) :
    CheckoutsKept (report id checkout writes world) := by
  have ends : ∀ key told, key ≠ id → Record.ends key (.committed id told) = false :=
    fun key told apart => decide_eq_false (Ne.symm apart)
  have noted : CheckoutsKept { taken id checkout world with
      records := .committed id (reported checkout writes world) :: world.records } := by
    have moved : (taken id checkout world).checkouts = Function.update before.checkouts id
        (some { checkout with writes := [], rowsChanged := world.totalChanges checkout.conn }) := by
      rw [← same]
      rfl
    refine put_kept kept moved (taken_noted own.holder (decide_eq_true rfl)) ?_ ?_
    · intro key held apart noted
      exact taken_other (theirs key held apart noted) (ends key _ apart) rfl
    · intro key apart
      exact (since_other (ends key _ apart) rfl world.records).trans (unseen key apart)
  unfold report
  dsimp only
  split
  · exact noted
  · exact ⟨fun key held present => (noted.each key held present).of_since rfl rfl rfl, noted.free⟩

/-- A commit says what its checkout wrote since the previous one, when rows changed. -/
theorem reported_holds {world : World} {id : Nat} {checkout : Checkout} {writes : List Write}
    (own : Noted world id { checkout with writes := writes }) :
    Record.Holds world.records (.committed id (reported checkout writes world)) := by
  have wrote := own.writes
  have rows := own.rows
  dsimp only at wrote rows
  unfold reported
  rw [rows, wrote]
  dsimp only [Record.Holds]
  by_cases still : rowsSince id world.records = 0
  · rw [if_pos still, still, Nat.add_zero, if_neg (not_not.mpr rfl)]
  · rw [if_neg still, if_pos (by omega)]

theorem report_holds {world : World} {id : Nat} {checkout : Checkout} {writes : List Write}
    (all : AllHold world.records) (own : Noted world id { checkout with writes := writes }) :
    AllHold (report id checkout writes world).records := by
  have holds := reported_holds own
  unfold report
  dsimp only
  split
  · exact ⟨holds, all⟩
  · exact ⟨holds, all⟩

theorem report_feed {world : World} {id : Nat} {checkout : Checkout} {writes : List Write}
    (kept : FeedKept world) : FeedKept (report id checkout writes world) := by
  have put : FeedKept (taken id checkout world) := kept.of_eq rfl rfl rfl
  unfold report
  dsimp only
  split
  next nothing =>
    rw [nothing]
    exact silent_kept put rfl rfl
  · exact committed_kept put

theorem acquire_kept {world : World} {id conn : Nat} (kept : CheckoutsKept world)
    (fresh : world.checkouts id = none) (unheld : world.holders conn = none) :
    CheckoutsKept { world.put id ⟨conn, [], world.totalChanges conn⟩ with
      holders := Function.update world.holders conn (some id) } := by
  have nothing := kept.free id fresh
  refine put_kept kept rfl ?_ ?_ ?_
  · constructor
    · exact Function.update_self ..
    · dsimp only [World.put]
      rw [written, nothing]
      rfl
    · dsimp only [World.put]
      rw [rowsSince, nothing]
      rfl
  · intro key held apart theirs
    have elsewhere : held.conn ≠ conn := by
      intro same
      rw [← same, theirs.holder] at unheld
      cases unheld
    exact theirs.of_since (Function.update_of_ne elsewhere ..) rfl rfl
  · intro key _
    rfl

theorem close_kept {world : World} {id : Nat} {checkout : Checkout} (kept : CheckoutsKept world)
    (found : world.checkouts id = some checkout) :
    CheckoutsKept { world with
      checkouts := Function.update world.checkouts id none
      holders := Function.update world.holders checkout.conn none
      records := .returned id :: world.records } := by
  have own := kept.each id checkout found
  have ends : ∀ key, key ≠ id → Record.ends key (.returned id) = false := fun key apart =>
    decide_eq_false (Ne.symm apart)
  constructor
  · intro key held present
    by_cases here : key = id
    · rw [here] at present
      have now : Function.update world.checkouts id none id = some held := present
      rw [Function.update_self] at now
      cases now
    · have before : world.checkouts key = some held := by
        have now : Function.update world.checkouts id none key = some held := present
        rwa [Function.update_of_ne here] at now
      have theirs := kept.each key held before
      have elsewhere : held.conn ≠ checkout.conn := by
        intro same
        have both := theirs.holder
        rw [same, own.holder] at both
        exact here (Option.some.inj both).symm
      exact theirs.of_since (Function.update_of_ne elsewhere ..) rfl
        (since_other (ends key here) rfl world.records)
  · intro key absent
    by_cases here : key = id
    · have ended : Record.ends id (.returned id) = true := decide_eq_true rfl
      rw [here]
      exact since_ends ended world.records
    · have before : world.checkouts key = none := by
        have now : Function.update world.checkouts id none key = none := absent
        rwa [Function.update_of_ne here] at now
      exact (since_other (ends key here) rfl world.records).trans (kept.free key before)

/-! ### Whole runs -/

structure Kept (world : World) : Prop where
  feed : FeedKept world
  checkouts : CheckoutsKept world
  records : AllHold world.records

theorem CheckoutsKept.of_eq {world other : World} (kept : CheckoutsKept world)
    (checkouts : other.checkouts = world.checkouts) (holders : other.holders = world.holders)
    (total : other.totalChanges = world.totalChanges)
    (same : ∀ id, since id other.records = since id world.records) : CheckoutsKept other := by
  constructor
  · intro id checkout present
    rw [checkouts] at present
    exact (kept.each id checkout present).of_since (by rw [holders]) (by rw [total]) (same id)
  · intro id absent
    rw [checkouts] at absent
    exact (same id).trans (kept.free id absent)

theorem flush_since (world : World) (id : Nat) :
    since id (flush world).records = since id world.records := by
  unfold flush
  dsimp only
  split
  · rfl
  · exact since_other rfl rfl world.records

/-- A flush that begins drops the handle, so it does not matter whose timer made it. -/
theorem flushed_kept {world : World} (waits : Waits world) (checkouts : CheckoutsKept world)
    (records : AllHold world.records) : Kept (flush world) := by
  obtain ⟨same, holders, total⟩ := flush_checkouts world
  exact ⟨flush_kept waits, checkouts.of_eq same holders total (flush_since world),
    flush_holds waits records⟩

theorem initial_kept (instanceId : String) (totalChanges : Nat → Nat) :
    Kept (initial instanceId totalChanges) := by
  refine ⟨⟨⟨rfl, ?_, ?_⟩, ?_, ?_⟩, ⟨?_, ?_⟩, trivial⟩
  · intro table
    exact iff_of_false List.not_mem_nil List.not_mem_nil
  · intro table
    exact iff_of_false List.not_mem_nil List.not_mem_nil
  · intro timer same
    cases same
  · intro waits
    exact waits.elim (absurd rfl) (absurd rfl)
  · intro id checkout present
    cases present
  · intro id _
    rfl

theorem step_kept {world after : World} {label : Label} (kept : Kept world)
    (taken : step world label = some after) : Kept after := by
  cases label with
  | acquire id conn =>
      dsimp only [step] at taken
      split at taken
      · cases taken
      next free =>
        simp only [not_or, Option.not_isSome_iff_eq_none] at free
        obtain rfl := Option.some.inj taken
        exact ⟨kept.feed.of_eq rfl rfl rfl, acquire_kept kept.checkouts free.1 free.2, kept.records⟩
  | execute id sql rows =>
      obtain ⟨checkout, found, rfl⟩ := Option.map_eq_some_iff.mp taken
      refine ⟨?_, issued_kept kept.checkouts found (.single sql) rows, trivial, kept.records⟩
      have noted : FeedKept { world with
          records := .issued id (.single sql) rows :: world.records } :=
        silent_kept kept.feed rfl rfl
      exact noted.of_eq rfl rfl rfl
  | executescript id text rows =>
      obtain ⟨checkout, found, rfl⟩ := Option.map_eq_some_iff.mp taken
      have own := kept.checkouts.each id checkout found
      have noted := ran_noted own (.script text) rows
      have issued : FeedKept { world with
          records := .issued id (.script text) rows :: world.records } :=
        silent_kept kept.feed rfl rfl
      refine ⟨report_feed (issued.of_eq rfl rfl rfl), ?_, report_holds ⟨trivial, kept.records⟩ noted⟩
      refine report_kept kept.checkouts rfl noted ?_ ?_
      · intro key held apart theirs
        exact ran_other own apart theirs (.script text) rows
      · intro key apart
        exact issued_other apart (.script text) rows world.records
  | commit id =>
      obtain ⟨checkout, found, rfl⟩ := Option.map_eq_some_iff.mp taken
      have own := kept.checkouts.each id checkout found
      exact ⟨report_feed kept.feed,
        report_kept kept.checkouts rfl own (fun _ _ _ theirs => theirs) (fun _ _ => rfl),
        report_holds kept.records own⟩
  | commitRaises id =>
      obtain ⟨checkout, found, rfl⟩ := Option.map_eq_some_iff.mp taken
      exact kept
  | rollback id =>
      obtain ⟨checkout, found, rfl⟩ := Option.map_eq_some_iff.mp taken
      refine ⟨?_, rollback_kept kept.checkouts found, trivial, kept.records⟩
      have noted : FeedKept { world with records := .rolledBack id :: world.records } :=
        silent_kept kept.feed rfl rfl
      exact noted.of_eq rfl rfl rfl
  | close id =>
      obtain ⟨checkout, found, rfl⟩ := Option.map_eq_some_iff.mp taken
      refine ⟨?_, close_kept kept.checkouts found, trivial, kept.records⟩
      have noted : FeedKept { world with records := .returned id :: world.records } :=
        silent_kept kept.feed rfl rfl
      exact noted.of_eq rfl rfl rfl
  | moved table =>
      obtain rfl := Option.some.inj taken
      exact ⟨derivedMoved_kept kept.feed,
        kept.checkouts.of_eq rfl rfl rfl fun id => since_other rfl rfl world.records,
        trivial, kept.records⟩
  | wait time =>
      obtain rfl := Option.some.inj taken
      exact ⟨⟨kept.feed.toWaits.of_eq rfl rfl, kept.feed.handle, kept.feed.due⟩, kept.checkouts.of_eq rfl rfl rfl fun _ => rfl, kept.records⟩
  | fire timer =>
      dsimp only [step] at taken
      split at taken
      · obtain rfl := Option.some.inj taken
        refine ⟨⟨kept.feed.toWaits.of_eq rfl rfl, ?_, kept.feed.due⟩,
          kept.checkouts.of_eq rfl rfl rfl fun _ => rfl, kept.records⟩
        intro _ _
        exact .inr (Nat.succ_pos _)
      · cases taken
  | flushTask =>
      dsimp only [step] at taken
      split at taken
      · cases taken
      · obtain rfl := Option.some.inj taken
        exact flushed_kept (kept.feed.toWaits.of_eq rfl rfl)
          (kept.checkouts.of_eq rfl rfl rfl fun _ => rfl) kept.records
  | flush =>
      obtain rfl := Option.some.inj taken
      exact flushed_kept kept.feed.toWaits kept.checkouts kept.records

/-! ### One event for each report -/

/-- The first event after a record, of those that came later. -/
def Drains (later newer : List Record) (payload : Payload) (between : List Record) : Prop :=
  later = newer ++ .announced payload :: between ∧ ∀ record ∈ between, record.isEvent = false

theorem drains_or_none (later : List Record) :
    (∃ newer payload between, Drains later newer payload between) ∨
      ∀ record ∈ later, record.isEvent = false := by
  induction later with
  | nil =>
      refine .inr ?_
      intro record listed
      cases listed
  | cons newest rest ih =>
      rcases ih with ⟨newer, payload, between, whole, silent⟩ | silent
      · exact .inl ⟨newest :: newer, payload, between, congrArg (List.cons newest) whole, silent⟩
      · cases newest with
        | announced payload => exact .inl ⟨[], payload, rest, rfl, silent⟩
        | _ => exact .inr (List.forall_mem_cons.mpr ⟨rfl, silent⟩)

theorem drains_unique {later newer other between others : List Record} {payload sent : Payload}
    (first : Drains later newer payload between) (second : Drains later other sent others) :
    newer = other ∧ payload = sent ∧ between = others := by
  have whole := first.1.symm.trans second.1
  rcases List.append_eq_append_iff.mp whole with ⟨more, left, right⟩ | ⟨more, left, right⟩
  · cases more with
    | nil =>
        injection right with event same
        injection event with sameEvent
        exact ⟨(left.trans (List.append_nil newer)).symm, sameEvent, same⟩
    | cons newest rest =>
        injection right with event same
        -- The later one of two events would have the earlier one between it and the record.
        have present : Record.announced sent ∈ between := same ▸ List.mem_append_right rest (.head _)
        exact Bool.noConfusion (first.2 _ present)
  · cases more with
    | nil =>
        injection right with event same
        injection event with sameEvent
        exact ⟨left.trans (List.append_nil other), sameEvent.symm, same.symm⟩
    | cons newest rest =>
        injection right with event same
        have present : Record.announced payload ∈ others := same ▸ List.mem_append_right rest (.head _)
        exact Bool.noConfusion (second.2 _ present)

/-- What a record reports waits until an event comes. -/
theorem waiting_append {between earlier : List Record} {record : Record} {report : String × Bool}
    (silent : ∀ record ∈ between, record.isEvent = false) (listed : report ∈ record.reports) :
    report ∈ waiting (between ++ record :: earlier) := by
  induction between with
  | nil =>
      have event : record.isEvent = false := by
        cases record with
        | announced payload => cases listed
        | _ => rfl
      rw [List.nil_append, waiting_cons event]
      exact List.mem_append_left _ listed
  | cons newest rest ih =>
      rw [List.forall_mem_cons] at silent
      rw [List.cons_append, waiting_cons silent.1]
      exact List.mem_append_right _ (ih silent.2)

theorem flush_announces {world : World} (waits : Waits world) {report : String × Bool}
    (listed : report ∈ waiting world.records) :
    ∃ payload, (flush world).records = .announced payload :: world.records := by
  have some : ¬(world.feed.changed = ∅ ∧ world.feed.liveness \ world.feed.changed = ∅) := by
    rintro ⟨noChange, noLiveness⟩
    obtain ⟨table, live⟩ := report
    cases live with
    | false =>
        have present := (waits.changed table).mpr listed
        rw [noChange] at present
        exact absurd present (Finset.notMem_empty table)
    | true =>
        have present := (waits.liveness table).mpr listed
        rw [noChange, Finset.sdiff_empty] at noLiveness
        rw [noLiveness] at present
        exact absurd present (Finset.notMem_empty table)
  unfold flush
  dsimp only
  rw [if_neg some]
  exact ⟨_, rfl⟩

theorem due_of_waiting {world : World} (kept : FeedKept world) {report : String × Bool}
    (listed : report ∈ waiting world.records) : Due world := by
  have waits : world.feed.changed ≠ ∅ ∨ world.feed.liveness ≠ ∅ := by
    obtain ⟨table, live⟩ := report
    cases live with
    | false => exact .inl (Finset.ne_empty_of_mem ((kept.changed table).mpr listed))
    | true => exact .inr (Finset.ne_empty_of_mem ((kept.liveness table).mpr listed))
  obtain ⟨timer, handle⟩ := Option.isSome_iff_exists.mp (kept.due waits)
  rcases kept.handle timer handle with listed | begun
  · refine .inl ?_
    intro empty
    rw [empty] at listed
    cases listed
  · exact .inr begun

def beat : String := "UPDATE agents SET last_seen = ? WHERE id = ?"

def rename : String := "UPDATE agents SET name = ? WHERE id = ?"

/-- A heartbeat, and a change of the same table before the event. -/
def beatThenRename : List Label :=
  [.acquire 0 0, .execute 0 beat 1, .commit 0, .execute 0 rename 1, .commit 0, .wait 250, .fire 1,
    .flushTask]

/-- What came after the heartbeat's commit, and what before. -/
def afterBeat : List Record :=
  [.announced ⟨1, "feed", ["agents"], []⟩, .committed 0 [⟨"agents", some ["name"]⟩],
    .issued 0 (.single rename) 1]

def beatCommitted : Record := .committed 0 [⟨"agents", some ["last_seen"]⟩]

def beforeBeat : List Record := [.issued 0 (.single beat) 1]

theorem beatThenRename_records :
    (exec step (fun _ _ => true) (initial "feed" fun _ => 0) beatThenRename).map World.records =
      some (afterBeat ++ beatCommitted :: beforeBeat) := by
  decide +kernel

end AifyComms.ChangeFeed
