import AifyComms.Runs
import Mathlib.Data.List.Nodup
import Mathlib.Data.List.Perm.Basic

/-!
Reusing SQLite connections across requests: `service/db_pool.py`.

A step is what a coroutine runs between two awaits, in the event loop that runs it. A
connection works on its own thread through what was queued on it, in order; a statement
is queued the moment its caller issues and awaits it, and a caller that is cancelled
leaves it queued. A checkout is closed once, so its release is a phase of it. The buckets
of `_idle` are one list here: a bucket is the entries of its busy timeout.
-/

namespace AifyComms.ConnectionPool
open Runs

/-- What is queued on a connection's thread: a statement of a checkout, the reset that a
checkout's release waits for, or the close. -/
inductive Job where
  | statement (checkout : Nat)
  | reset (checkout : Nat)
  | close
  deriving DecidableEq

/-- A connection to the database at `path`. -/
structure Connection where
  path : String
  queue : List Job
  inTransaction : Bool
  alive : Bool
  deriving DecidableEq

/-- A connection in the pool, and the path and loop it was pooled under. -/
structure Idle where
  conn : Nat
  busyMs : Nat
  path : String
  loop : Nat
  deriving DecidableEq

/-- Where a checkout is: its connection is being opened, it is open, its release waits for
the reset, has its answer (or its failure) and has not gone on yet, or is over. -/
inductive Phase where
  | opening
  | opened (conn : Nat)
  | resetting (conn : Nat)
  | reset (conn : Nat) (clean : Bool)
  | failed (conn : Nat)
  | closed
  deriving DecidableEq

/-- The connection that a checkout, or its release, still has. -/
def Phase.conn : Phase → Option Nat
  | .opened conn | .resetting conn | .reset conn _ | .failed conn => some conn
  | .opening | .closed => none

/-- A `PooledConnection`. -/
structure Checkout where
  phase : Phase
  path : String
  busyMs : Nat
  dirty : Bool
  deriving DecidableEq

structure Pool where
  enabled : Bool
  path : Option String
  loop : Option Nat
  idleMax : Nat
  idle : List Idle
  connections : Nat → Option Connection
  opened : Nat
  checkouts : Nat → Option Checkout

def initial (idleMax : Nat) : Pool where
  enabled := false
  path := none
  loop := none
  idleMax := idleMax
  idle := []
  connections := fun _ => none
  opened := 0
  checkouts := fun _ => none

/-! ### The pool -/

def Connection.push (job : Job) (conn : Connection) : Connection :=
  { conn with queue := conn.queue ++ [job] }

/-- `_retire` and `conn.close()`: the close is queued and the connection is of no more use. -/
def Connection.retire (conn : Connection) : Connection :=
  { conn.push .close with alive := false }

def retireAll (conns : List Nat) (connections : Nat → Option Connection) :
    Nat → Option Connection :=
  fun conn => if conn ∈ conns then (connections conn).map Connection.retire else connections conn

/-- `_alive`. -/
def isAlive (connections : Nat → Option Connection) (conn : Nat) : Bool :=
  (connections conn).any Connection.alive

/-- `retire_idle`, `close_idle`, and what `aclose` does with the idle connections. -/
def retireIdle (pool : Pool) : Pool :=
  { pool with
    idle := []
    connections := retireAll (pool.idle.map Idle.conn) pool.connections }

/-- `aclose`. -/
def aclose (pool : Pool) : Pool := { retireIdle pool with enabled := false }

/-- `_bind`. -/
def bind (loop : Nat) (path : String) (pool : Pool) : Pool :=
  if pool.path ≠ some path ∨ pool.loop ≠ some loop then
    { retireIdle pool with path := some path, loop := some loop }
  else pool

/-- What popping a bucket found: a connection that is alive, the entries left, and the ones
popped that were not. -/
structure Popped where
  found : Option Idle
  left : List Idle
  dead : List Idle

/-- The loop of `acquire` over the bucket, from its end. -/
def popAlive (alive : Nat → Bool) (busyMs : Nat) : List Idle → Popped
  | [] => ⟨none, [], []⟩
  | entry :: rest =>
      let popped := popAlive alive busyMs rest
      match popped.found with
      | some _ => { popped with left := entry :: popped.left }
      | none =>
          if entry.busyMs ≠ busyMs then { popped with left := entry :: popped.left }
          else if alive entry.conn then { popped with found := some entry }
          else { popped with dead := entry :: popped.dead }

def Pool.put (pool : Pool) (id : Nat) (checkout : Checkout) : Pool :=
  { pool with checkouts := Function.update pool.checkouts id (some checkout) }

/-- `acquire`, up to the open it may have to wait for. A disabled pool hands out a
connection of its own, which it never sees again. -/
def acquire (id loop : Nat) (path : String) (busyMs : Nat) (pool : Pool) : Pool :=
  if !pool.enabled then pool
  else
    let bound := bind loop path pool
    let popped := popAlive (isAlive bound.connections) busyMs bound.idle
    let taken := { bound with
      idle := popped.left
      connections := retireAll (popped.dead.map Idle.conn) bound.connections }
    match popped.found with
    | some entry => taken.put id ⟨.opened entry.conn, path, busyMs, false⟩
    | none => taken.put id ⟨.opening, path, busyMs, false⟩

def Pool.write (pool : Pool) (conn : Nat) (change : Connection → Connection) : Pool :=
  { pool with
    connections := fun other =>
      if other = conn then (pool.connections other).map change else pool.connections other }

/-- A connection that is not kept: closed, or retired where that fails. -/
def discard (id conn : Nat) (checkout : Checkout) (pool : Pool) : Pool :=
  (pool.write conn Connection.retire).put id { checkout with phase := .closed }

/-- `close`, and `release` up to its reset. -/
def close (id conn : Nat) (checkout : Checkout) (pool : Pool) : Pool :=
  if pool.enabled && !checkout.dirty && isAlive pool.connections conn then
    (pool.write conn (Connection.push (.reset id))).put id { checkout with phase := .resetting conn }
  else discard id conn checkout pool

/-- `release`, after its reset. -/
def finishRelease (id loop conn : Nat) (clean : Bool) (checkout : Checkout) (pool : Pool) : Pool :=
  if !clean || !pool.enabled || decide (pool.loop ≠ some loop) ||
      decide (pool.path ≠ some checkout.path) || decide (pool.idleMax ≤ pool.idle.length) then
    discard id conn checkout pool
  else
    { pool.put id { checkout with phase := .closed } with
      idle := pool.idle ++ [⟨conn, checkout.busyMs, checkout.path, loop⟩] }

/-! ### The connections' threads -/

/-- What running a job does: it raises, or leaves a transaction open or not. -/
inductive Effect where
  | fails
  | leaves (inTransaction : Bool)
  deriving DecidableEq

/-- The thread took this job. -/
def Connection.took (rest : List Job) (inTransaction : Bool) (conn : Connection) : Connection :=
  { conn with queue := rest, inTransaction := inTransaction }

/-- `_reset_on_worker`: a transaction that is open is rolled back. -/
def resetOnWorker (effect : Effect) (inTransaction : Bool) : Option Bool :=
  if !inTransaction then some false
  else match effect with
    | .fails => none
    | .leaves after => some after

/-- The release that waits for a reset gets its answer. -/
def answer (id conn : Nat) (after : Option Bool) (pool : Pool) : Pool :=
  match pool.checkouts id with
  | none => pool
  | some checkout =>
      if checkout.phase = .resetting conn then
        pool.put id { checkout with
          phase := match after with
            | some inTransaction => .reset conn (!inTransaction)
            | none => .failed conn }
      else pool

/-- The thread of a connection runs the next job. -/
def work (conn : Nat) (effect : Effect) (pool : Pool) : Option Pool :=
  (pool.connections conn).bind fun row =>
    match row.queue with
    | [] => none
    | .statement _ :: rest =>
        let after := match effect with
          | .fails => row.inTransaction
          | .leaves inTransaction => inTransaction
        some (pool.write conn (Connection.took rest after))
    | .reset id :: rest =>
        let after := resetOnWorker effect row.inTransaction
        some (answer id conn after
          (pool.write conn (Connection.took rest (after.getD row.inTransaction))))
    | .close :: rest => some (pool.write conn (Connection.took rest false))

inductive Label where
  | enable
  | aclose
  | retireIdle
  | acquire (id loop : Nat) (path : String) (busyMs : Nat)
  | opened (id : Nat)
  | openFails (id : Nat)
  | issue (id : Nat) (stateful : Bool)
  | close (id : Nat)
  | resume (id loop : Nat)
  | cancel (id : Nat)
  | work (conn : Nat) (effect : Effect)
  | breaks (conn : Nat)

/-- An operation of a checkout: `_target` raises when it is closed. -/
def issue (id : Nat) (stateful : Bool) (pool : Pool) : Option Pool :=
  (pool.checkouts id).bind fun checkout =>
    let noted := pool.put id { checkout with dirty := checkout.dirty || stateful }
    match checkout.phase with
    | .opening => none
    | .opened conn =>
        if isAlive pool.connections conn then
          some (noted.write conn (Connection.push (.statement id)))
        else some noted
    | _ => some noted

def step (pool : Pool) : Label → Option Pool
  | .enable => some { pool with enabled := true }
  | .aclose => some (aclose pool)
  | .retireIdle => some (retireIdle pool)
  | .acquire id loop path busyMs =>
      if (pool.checkouts id).isSome then none else some (acquire id loop path busyMs pool)
  | .opened id =>
      (pool.checkouts id).bind fun checkout =>
        if checkout.phase = .opening then
          some { pool.put id { checkout with phase := .opened pool.opened } with
            connections := Function.update pool.connections pool.opened
              (some ⟨checkout.path, [], false, true⟩)
            opened := pool.opened + 1 }
        else none
  | .openFails id =>
      (pool.checkouts id).bind fun checkout =>
        if checkout.phase = .opening then some (pool.put id { checkout with phase := .closed })
        else none
  | .issue id stateful => issue id stateful pool
  | .close id =>
      (pool.checkouts id).bind fun checkout =>
        match checkout.phase with
        | .opened conn => some (close id conn checkout pool)
        | .opening => none
        | _ => some pool
  | .resume id loop =>
      (pool.checkouts id).bind fun checkout =>
        match checkout.phase with
        | .reset conn clean => some (finishRelease id loop conn clean checkout pool)
        | .failed conn => some (discard id conn checkout pool)
        | _ => none
  | .cancel id =>
      (pool.checkouts id).bind fun checkout =>
        match checkout.phase with
        | .resetting conn | .reset conn _ | .failed conn => some (discard id conn checkout pool)
        | _ => none
  | .work conn effect => work conn effect pool
  | .breaks conn => some (pool.write conn fun row => { row with alive := false })

/-! ### Who has a connection -/

/-- What is queued on the connection of a checkout: its own statements, then the reset its
release waits for, and nothing once that was answered. -/
def Queued (id : Nat) (phase : Phase) (row : Connection) : Prop :=
  match phase with
  | .opened _ => ∀ job ∈ row.queue, job = .statement id
  | .resetting _ =>
      ∃ before, row.queue = before ++ [.reset id] ∧ ∀ job ∈ before, job = .statement id
  | .reset _ clean => row.queue = [] ∧ (clean = true → row.inTransaction = false)
  | .failed _ => row.queue = []
  | .opening | .closed => True

def Pool.idleConns (pool : Pool) : List Nat := pool.idle.map Idle.conn

structure Owned (pool : Pool) : Prop where
  idleOnce : pool.idleConns.Nodup
  idleRow : ∀ entry ∈ pool.idle, ∃ row, pool.connections entry.conn = some row ∧
    row.path = entry.path ∧ row.queue = [] ∧ row.inTransaction = false
  idleBound : ∀ entry ∈ pool.idle, pool.path = some entry.path ∧ pool.loop = some entry.loop
  idleMost : pool.idle.length ≤ pool.idleMax
  heldOnce : ∀ left right leftRow rightRow conn, pool.checkouts left = some leftRow →
    pool.checkouts right = some rightRow → leftRow.phase.conn = some conn →
    rightRow.phase.conn = some conn → left = right
  heldNotIdle : ∀ id checkout conn, pool.checkouts id = some checkout →
    checkout.phase.conn = some conn → conn ∉ pool.idleConns
  heldRow : ∀ id checkout conn, pool.checkouts id = some checkout →
    checkout.phase.conn = some conn → ∃ row, pool.connections conn = some row ∧
      row.path = checkout.path ∧ Queued id checkout.phase row
  fresh : ∀ conn, pool.opened ≤ conn → pool.connections conn = none

/-- A connection that is neither idle nor a checkout's. -/
def Unheld (pool : Pool) (conn : Nat) : Prop :=
  conn ∉ pool.idleConns ∧
    ∀ id checkout, pool.checkouts id = some checkout → checkout.phase.conn ≠ some conn

theorem initial_owned (idleMax : Nat) : Owned (initial idleMax) := by
  refine ⟨.nil, ?_, ?_, Nat.zero_le _, ?_, ?_, ?_, ?_⟩
  · intro entry listed
    cases listed
  · intro entry listed
    cases listed
  · intro left right leftRow rightRow conn found
    cases found
  · intro id checkout conn found
    cases found
  · intro id checkout conn found
    cases found
  · intro conn _
    rfl

theorem put_some {pool : Pool} {id other : Nat} {checkout row : Checkout}
    (found : (pool.put id checkout).checkouts other = some row) :
    (other = id ∧ row = checkout) ∨ (other ≠ id ∧ pool.checkouts other = some row) := by
  by_cases same : other = id
  · subst same
    have now : (pool.put other checkout).checkouts other = some checkout := Function.update_self ..
    exact .inl ⟨rfl, Option.some.inj (found.symm.trans now)⟩
  · have now : (pool.put id checkout).checkouts other = pool.checkouts other :=
      Function.update_of_ne same ..
    exact .inr ⟨same, now.symm.trans found⟩

/-- A checkout that lets go of its connection, or never had one. -/
theorem put_none_owned {pool : Pool} {id : Nat} {checkout : Checkout} (owned : Owned pool)
    (none : checkout.phase.conn = none) : Owned (pool.put id checkout) := by
  have earlier : ∀ other row conn, (pool.put id checkout).checkouts other = some row →
      row.phase.conn = some conn → pool.checkouts other = some row := by
    intro other row conn found has
    rcases put_some found with ⟨_, rfl⟩ | ⟨_, before⟩
    · rw [none] at has
      cases has
    · exact before
  refine ⟨owned.idleOnce, owned.idleRow, owned.idleBound, owned.idleMost, ?_, ?_, ?_, owned.fresh⟩
  · intro left right leftRow rightRow conn leftFound rightFound leftHas rightHas
    exact owned.heldOnce left right leftRow rightRow conn
      (earlier left leftRow conn leftFound leftHas) (earlier right rightRow conn rightFound rightHas)
      leftHas rightHas
  · intro other row conn found has
    exact owned.heldNotIdle other row conn (earlier other row conn found has) has
  · intro other row conn found has
    exact owned.heldRow other row conn (earlier other row conn found has) has

/-- Once a checkout let go of its connection, nobody has it. -/
theorem put_none_unheld {pool : Pool} {id conn : Nat} {checkout now : Checkout}
    (owned : Owned pool) (found : pool.checkouts id = some checkout)
    (has : checkout.phase.conn = some conn) (none : now.phase.conn = none) :
    Unheld (pool.put id now) conn := by
  refine ⟨owned.heldNotIdle id checkout conn found has, ?_⟩
  intro other row present hasToo
  rcases put_some present with ⟨_, rfl⟩ | ⟨differ, before⟩
  · rw [none] at hasToo
    cases hasToo
  · exact differ (owned.heldOnce other id row checkout conn before found hasToo has)

/-- Whatever is written to connections nobody has. -/
theorem connections_owned {pool : Pool} {connections : Nat → Option Connection}
    (owned : Owned pool)
    (same : ∀ conn, ¬ Unheld pool conn → connections conn = pool.connections conn)
    (fresh : ∀ conn, pool.opened ≤ conn → connections conn = none) :
    Owned { pool with connections := connections } := by
  refine ⟨owned.idleOnce, ?_, owned.idleBound, owned.idleMost, owned.heldOnce, owned.heldNotIdle,
    ?_, fresh⟩
  · intro entry listed
    obtain ⟨row, found, quiet⟩ := owned.idleRow entry listed
    refine ⟨row, ?_, quiet⟩
    rw [← found]
    exact same entry.conn fun unheld => unheld.1 (List.mem_map_of_mem listed)
  · intro id checkout conn found has
    obtain ⟨row, present, queued⟩ := owned.heldRow id checkout conn found has
    refine ⟨row, ?_, queued⟩
    rw [← present]
    exact same conn fun unheld => unheld.2 id checkout found has

theorem write_unheld {pool : Pool} {conn : Nat} {change : Connection → Connection}
    (owned : Owned pool) (unheld : Unheld pool conn) : Owned (pool.write conn change) := by
  refine connections_owned owned ?_ ?_
  · intro other held
    apply if_neg
    intro same
    exact held (same ▸ unheld)
  · intro other above
    rw [owned.fresh other above]
    split <;> rfl

theorem discard_owned {pool : Pool} {id conn : Nat} {checkout : Checkout} (owned : Owned pool)
    (found : pool.checkouts id = some checkout) (has : checkout.phase.conn = some conn) :
    Owned (discard id conn checkout pool) := by
  have closed : Owned (pool.put id { checkout with phase := .closed }) := put_none_owned owned rfl
  exact write_unheld closed (put_none_unheld owned found has rfl)

/-- A checkout that keeps its connection through a step that writes the connection too. -/
theorem hold_owned {pool : Pool} {id conn : Nat} {checkout now : Checkout}
    {change : Connection → Connection} (owned : Owned pool)
    (found : pool.checkouts id = some checkout) (has : checkout.phase.conn = some conn)
    (still : now.phase.conn = some conn) (samePath : now.path = checkout.path)
    (path : ∀ row, (change row).path = row.path)
    (queued : ∀ row, pool.connections conn = some row → Queued id checkout.phase row →
      Queued id now.phase (change row)) :
    Owned ((pool.write conn change).put id now) := by
  have earlier : ∀ other row held, ((pool.write conn change).put id now).checkouts other =
      some row → row.phase.conn = some held →
      ∃ before, pool.checkouts other = some before ∧ before.phase.conn = some held := by
    intro other row held present hasToo
    rcases put_some present with ⟨rfl, rfl⟩ | ⟨_, before⟩
    · exact ⟨checkout, found, has.trans (still.symm.trans hasToo)⟩
    · exact ⟨row, before, hasToo⟩
  refine ⟨owned.idleOnce, ?_, owned.idleBound, owned.idleMost, ?_, ?_, ?_, ?_⟩
  · intro entry listed
    obtain ⟨row, present, quiet⟩ := owned.idleRow entry listed
    refine ⟨row, ?_, quiet⟩
    rw [← present]
    refine if_neg fun same => ?_
    exact owned.heldNotIdle id checkout conn found has (same ▸ List.mem_map_of_mem listed)
  · intro left right leftRow rightRow held leftFound rightFound leftHas rightHas
    obtain ⟨leftBefore, leftWas, leftHad⟩ := earlier left leftRow held leftFound leftHas
    obtain ⟨rightBefore, rightWas, rightHad⟩ := earlier right rightRow held rightFound rightHas
    exact owned.heldOnce left right leftBefore rightBefore held leftWas rightWas leftHad rightHad
  · intro other row held present hasToo
    obtain ⟨before, was, had⟩ := earlier other row held present hasToo
    exact owned.heldNotIdle other before held was had
  · intro other row held present hasToo
    rcases put_some present with ⟨rfl, rfl⟩ | ⟨differ, before⟩
    · rw [still, Option.some.injEq] at hasToo
      subst hasToo
      obtain ⟨old, was, samePathOld, queuedOld⟩ := owned.heldRow other checkout conn found has
      refine ⟨change old, ?_, ?_, queued old was queuedOld⟩
      · simp only [Pool.put, Pool.write, if_true, was, Option.map_some]
      · rw [path, samePathOld, samePath]
    · obtain ⟨old, was, rest⟩ := owned.heldRow other row held before hasToo
      refine ⟨old, ?_, rest⟩
      rw [← was]
      refine if_neg fun same => ?_
      exact differ (owned.heldOnce other id row checkout held before found hasToo (same ▸ has))
  · intro other above
    simp only [Pool.put, Pool.write, owned.fresh other above]
    split <;> rfl

theorem write_held {pool : Pool} {id conn : Nat} {checkout : Checkout}
    {change : Connection → Connection} (owned : Owned pool)
    (found : pool.checkouts id = some checkout) (has : checkout.phase.conn = some conn)
    (path : ∀ row, (change row).path = row.path)
    (queued : ∀ row, pool.connections conn = some row → Queued id checkout.phase row →
      Queued id checkout.phase (change row)) :
    Owned (pool.write conn change) := by
  have held := hold_owned owned found has has rfl path queued
  have same : (pool.write conn change).put id checkout = pool.write conn change := by
    unfold Pool.put
    rw [Function.update_eq_self_iff.mpr found.symm]
  rw [← same]
  exact held

/-- A checkout takes a connection nobody has and nothing is queued on. -/
theorem take_owned {pool : Pool} {id conn : Nat} {checkout : Checkout} {row : Connection}
    (owned : Owned pool)
    (without : ∀ before, pool.checkouts id = some before → before.phase.conn = none)
    (unheld : Unheld pool conn) (phase : checkout.phase = .opened conn)
    (present : pool.connections conn = some row) (path : row.path = checkout.path)
    (empty : row.queue = []) : Owned (pool.put id checkout) := by
  have has : checkout.phase.conn = some conn := by
    rw [phase]
    rfl
  refine ⟨owned.idleOnce, owned.idleRow, owned.idleBound, owned.idleMost, ?_, ?_, ?_, owned.fresh⟩
  · intro left right leftRow rightRow held leftFound rightFound leftHas rightHas
    rcases put_some leftFound with ⟨rfl, rfl⟩ | ⟨_, leftBefore⟩
    · rcases put_some rightFound with ⟨rfl, _⟩ | ⟨_, rightBefore⟩
      · rfl
      · obtain rfl := Option.some.inj (has.symm.trans leftHas)
        exact absurd rightHas (unheld.2 right rightRow rightBefore)
    · rcases put_some rightFound with ⟨rfl, rfl⟩ | ⟨_, rightBefore⟩
      · obtain rfl := Option.some.inj (has.symm.trans rightHas)
        exact absurd leftHas (unheld.2 left leftRow leftBefore)
      · exact owned.heldOnce left right leftRow rightRow held leftBefore rightBefore leftHas rightHas
  · intro other now held found hasToo
    rcases put_some found with ⟨rfl, rfl⟩ | ⟨_, before⟩
    · obtain rfl := Option.some.inj (has.symm.trans hasToo)
      exact unheld.1
    · exact owned.heldNotIdle other now held before hasToo
  · intro other now held found hasToo
    rcases put_some found with ⟨rfl, rfl⟩ | ⟨_, before⟩
    · obtain rfl := Option.some.inj (has.symm.trans hasToo)
      refine ⟨row, present, path, ?_⟩
      rw [phase, Queued, empty]
      intro job listed
      cases listed
    · exact owned.heldRow other now held before hasToo

/-- A connection nobody has, quiet and of the pool's path, goes back. -/
theorem pool_owned {pool : Pool} {entry : Idle} {row : Connection} (owned : Owned pool)
    (unheld : Unheld pool entry.conn) (present : pool.connections entry.conn = some row)
    (path : row.path = entry.path) (empty : row.queue = []) (clean : row.inTransaction = false)
    (bound : pool.path = some entry.path ∧ pool.loop = some entry.loop)
    (room : pool.idle.length < pool.idleMax) :
    Owned { pool with idle := pool.idle ++ [entry] } := by
  have conns : ({ pool with idle := pool.idle ++ [entry] } : Pool).idleConns =
      pool.idleConns ++ [entry.conn] := by
    simp [Pool.idleConns]
  refine ⟨?_, ?_, ?_, ?_, owned.heldOnce, ?_, owned.heldRow, owned.fresh⟩
  · rw [conns, List.nodup_append]
    refine ⟨owned.idleOnce, List.nodup_singleton _, ?_⟩
    intro first member second single same
    rw [same, List.mem_singleton.mp single] at member
    exact unheld.1 member
  · intro other listed
    rcases List.mem_append.mp listed with before | last
    · exact owned.idleRow other before
    · rw [List.mem_singleton.mp last]
      exact ⟨row, present, path, empty, clean⟩
  · intro other listed
    rcases List.mem_append.mp listed with before | last
    · exact owned.idleBound other before
    · rw [List.mem_singleton.mp last]
      exact bound
  · rw [List.length_append, List.length_singleton]
    exact room
  · intro id checkout conn found has
    rw [conns, List.mem_append, List.mem_singleton]
    rintro (listed | rfl)
    · exact owned.heldNotIdle id checkout conn found has listed
    · exact unheld.2 id checkout found has

/-- Fewer are idle. -/
theorem idle_owned {pool : Pool} {idle : List Idle} (owned : Owned pool)
    (fewer : idle.Sublist pool.idle) : Owned { pool with idle := idle } := by
  refine ⟨?_, ?_, ?_, ?_, owned.heldOnce, ?_, owned.heldRow, owned.fresh⟩
  · exact (fewer.map Idle.conn).nodup owned.idleOnce
  · intro entry listed
    exact owned.idleRow entry (fewer.subset listed)
  · intro entry listed
    exact owned.idleBound entry (fewer.subset listed)
  · exact Nat.le_trans fewer.length_le owned.idleMost
  · intro id checkout conn found has listed
    exact owned.heldNotIdle id checkout conn found has ((fewer.map Idle.conn).subset listed)

theorem retireAll_owned {pool : Pool} {conns : List Nat} (owned : Owned pool)
    (unheld : ∀ conn ∈ conns, Unheld pool conn) :
    Owned { pool with connections := retireAll conns pool.connections } := by
  refine connections_owned owned ?_ ?_
  · intro conn held
    apply if_neg
    intro listed
    exact held (unheld conn listed)
  · intro conn above
    unfold retireAll
    rw [owned.fresh conn above]
    split <;> rfl

theorem retireIdle_owned {pool : Pool} (owned : Owned pool) : Owned (retireIdle pool) := by
  have emptied : Owned { pool with idle := [] } := idle_owned owned (List.nil_sublist _)
  refine retireAll_owned emptied ?_
  intro conn listed
  refine ⟨List.not_mem_nil, ?_⟩
  intro id checkout found has
  exact owned.heldNotIdle id checkout conn found has listed

theorem bind_owned {pool : Pool} (loop : Nat) (path : String) (owned : Owned pool) :
    Owned (bind loop path pool) ∧ (bind loop path pool).path = some path ∧
      (bind loop path pool).loop = some loop ∧
      (bind loop path pool).checkouts = pool.checkouts := by
  unfold bind
  split
  · have retired := retireIdle_owned owned
    refine ⟨⟨retired.idleOnce, retired.idleRow, ?_, retired.idleMost, retired.heldOnce,
      retired.heldNotIdle, retired.heldRow, retired.fresh⟩, rfl, rfl, rfl⟩
    intro entry listed
    cases listed
  next same =>
    rw [not_or, not_not, not_not] at same
    exact ⟨owned, same.1, same.2, rfl⟩

/-- Popping a bucket takes apart what was idle. -/
theorem popAlive_perm (alive : Nat → Bool) (busyMs : Nat) (idle : List Idle) :
    ((popAlive alive busyMs idle).found.toList ++ ((popAlive alive busyMs idle).dead ++
      (popAlive alive busyMs idle).left)).Perm idle := by
  induction idle with
  | nil => exact .nil
  | cons entry rest ih =>
      rw [popAlive]
      -- The entry goes to the front of one of the three parts.
      split
      · rw [← List.append_assoc]
        exact List.perm_middle.trans ((List.append_assoc _ _ _ ▸ ih).cons entry)
      next none =>
        rw [none] at ih
        split
        · rw [none]
          exact List.perm_middle.trans (ih.cons entry)
        · split
          · exact ih.cons entry
          · rw [none]
            exact ih.cons entry

theorem popAlive_left (alive : Nat → Bool) (busyMs : Nat) (idle : List Idle) :
    (popAlive alive busyMs idle).left.Sublist idle := by
  induction idle with
  | nil => exact List.nil_sublist []
  | cons entry rest ih =>
      rw [popAlive]
      split
      · exact ih.cons_cons entry
      · split
        · exact ih.cons_cons entry
        · split <;> exact ih.cons entry

theorem acquire_owned {pool : Pool} {id loop busyMs : Nat} {path : String} (owned : Owned pool)
    (absent : pool.checkouts id = none) : Owned (acquire id loop path busyMs pool) := by
  unfold acquire
  split
  · exact owned
  obtain ⟨bound, boundPath, _, sameCheckouts⟩ := bind_owned loop path owned
  generalize bind loop path pool = ready at bound boundPath sameCheckouts
  have perm := popAlive_perm (isAlive ready.connections) busyMs ready.idle
  have fewer := popAlive_left (isAlive ready.connections) busyMs ready.idle
  dsimp only
  generalize popAlive (isAlive ready.connections) busyMs ready.idle = popped at perm fewer
  have without : ∀ before, ready.checkouts id = some before → before.phase.conn = none := by
    intro before found
    rw [sameCheckouts, absent] at found
    cases found
  -- No connection is in two of the parts.
  have once : (popped.found.toList ++ (popped.dead ++ popped.left)).map Idle.conn |>.Nodup :=
    (perm.map Idle.conn).nodup_iff.mpr bound.idleOnce
  rw [List.map_append, List.map_append, List.nodup_append] at once
  obtain ⟨_, deadLeft, foundApart⟩ := once
  have left : Owned { ready with idle := popped.left } := idle_owned bound fewer
  have idleUnheld : ∀ entry ∈ popped.found.toList ++ (popped.dead ++ popped.left),
      entry.conn ∉ popped.left.map Idle.conn →
      Unheld { ready with idle := popped.left } entry.conn := by
    intro entry listed apart
    refine ⟨apart, ?_⟩
    intro other checkout found has
    exact bound.heldNotIdle other checkout entry.conn found has
      (List.mem_map_of_mem (perm.subset listed))
  have taken : Owned { ready with
      idle := popped.left
      connections := retireAll (popped.dead.map Idle.conn) ready.connections } := by
    refine retireAll_owned left ?_
    intro conn listed
    obtain ⟨entry, member, rfl⟩ := List.mem_map.mp listed
    refine idleUnheld entry (List.mem_append_right _ (List.mem_append_left _ member)) ?_
    intro again
    exact (List.nodup_append.mp deadLeft).2.2 _ listed _ again rfl
  cases found : popped.found with
  | none => exact put_none_owned taken rfl
  | some entry =>
      dsimp only
      rw [found] at foundApart idleUnheld perm
      have apart : ∀ conn ∈ (popped.dead.map Idle.conn ++ popped.left.map Idle.conn),
          entry.conn ≠ conn := fun conn listed =>
        foundApart entry.conn List.mem_cons_self conn listed
      have member : entry ∈ ready.idle := perm.subset List.mem_cons_self
      obtain ⟨row, present, samePath, empty, _⟩ := bound.idleRow entry member
      have unheld := idleUnheld entry List.mem_cons_self fun again =>
        apart entry.conn (List.mem_append_right _ again) rfl
      have kept : retireAll (popped.dead.map Idle.conn) ready.connections entry.conn = some row := by
        rw [← present]
        exact if_neg fun listed => apart entry.conn (List.mem_append_left _ listed) rfl
      have same : row.path = path :=
        samePath.trans (Option.some.inj ((bound.idleBound entry member).1.symm.trans boundPath))
      exact take_owned taken without unheld rfl kept same empty

theorem opened_owned {pool : Pool} {id : Nat} {checkout : Checkout} (owned : Owned pool)
    (found : pool.checkouts id = some checkout) (opening : checkout.phase = .opening) :
    Owned { pool.put id { checkout with phase := .opened pool.opened } with
      connections := Function.update pool.connections pool.opened
        (some ⟨checkout.path, [], false, true⟩)
      opened := pool.opened + 1 } := by
  -- The new connection is nobody's: whatever is idle or held has a row, and it has none.
  have unheld : Unheld pool pool.opened := by
    have absent := owned.fresh pool.opened (Nat.le_refl _)
    constructor
    · intro listed
      obtain ⟨entry, member, same⟩ := List.mem_map.mp listed
      obtain ⟨row, present, _⟩ := owned.idleRow entry member
      rw [same, absent] at present
      cases present
    · intro other row present has
      obtain ⟨connection, there, _⟩ := owned.heldRow other row pool.opened present has
      rw [absent] at there
      cases there
  have widened : Owned { pool with opened := pool.opened + 1 } :=
    ⟨owned.idleOnce, owned.idleRow, owned.idleBound, owned.idleMost, owned.heldOnce,
      owned.heldNotIdle, owned.heldRow, fun conn above =>
        owned.fresh conn (Nat.le_of_succ_le above)⟩
  have added : Owned { pool with
      connections := Function.update pool.connections pool.opened
        (some ⟨checkout.path, [], false, true⟩)
      opened := pool.opened + 1 } := by
    refine connections_owned widened ?_ ?_
    · intro conn held
      have differ : conn ≠ pool.opened := by
        rintro rfl
        exact held unheld
      exact Function.update_of_ne differ ..
    · intro conn above
      rw [Function.update_of_ne (Nat.ne_of_gt above)]
      exact owned.fresh conn (Nat.le_of_succ_le above)
  have without : ∀ before, pool.checkouts id = some before → before.phase.conn = none := by
    intro before present
    obtain rfl := Option.some.inj (found.symm.trans present)
    rw [opening]
    rfl
  have present : Function.update pool.connections pool.opened
      (some ⟨checkout.path, [], false, true⟩) pool.opened =
        some ⟨checkout.path, [], false, true⟩ := Function.update_self ..
  exact take_owned added without unheld rfl present rfl rfl

/-- A write that leaves the queue and the transaction of every connection. -/
theorem write_flags {pool : Pool} {conn : Nat} {change : Connection → Connection}
    (owned : Owned pool) (path : ∀ row, (change row).path = row.path)
    (queue : ∀ row, (change row).queue = row.queue)
    (transaction : ∀ row, (change row).inTransaction = row.inTransaction) :
    Owned (pool.write conn change) := by
  have written : ∀ other row, pool.connections other = some row →
      ∃ now, (pool.write conn change).connections other = some now ∧ now.path = row.path ∧
        now.queue = row.queue ∧ now.inTransaction = row.inTransaction := by
    intro other row present
    by_cases same : other = conn
    · refine ⟨change row, ?_, path row, queue row, transaction row⟩
      simp only [Pool.write, if_pos same, present, Option.map_some]
    · refine ⟨row, ?_, rfl, rfl, rfl⟩
      simp only [Pool.write, if_neg same, present]
  refine ⟨owned.idleOnce, ?_, owned.idleBound, owned.idleMost, owned.heldOnce, owned.heldNotIdle,
    ?_, ?_⟩
  · intro entry listed
    obtain ⟨row, present, samePath, empty, clean⟩ := owned.idleRow entry listed
    obtain ⟨now, there, nowPath, nowQueue, nowTransaction⟩ := written entry.conn row present
    exact ⟨now, there, nowPath.trans samePath, nowQueue.trans empty, nowTransaction.trans clean⟩
  · intro id checkout held found has
    obtain ⟨row, present, samePath, queued⟩ := owned.heldRow id checkout held found has
    obtain ⟨now, there, nowPath, nowQueue, nowTransaction⟩ := written held row present
    refine ⟨now, there, nowPath.trans samePath, ?_⟩
    cases phase : checkout.phase with
    | opened conn =>
        rw [phase, Queued] at queued
        rw [Queued, nowQueue]
        exact queued
    | resetting conn =>
        rw [phase, Queued] at queued
        rw [Queued, nowQueue]
        exact queued
    | reset conn clean =>
        rw [phase, Queued] at queued
        rw [Queued, nowQueue, nowTransaction]
        exact queued
    | failed conn =>
        rw [phase, Queued] at queued
        rw [Queued, nowQueue]
        exact queued
    | opening => trivial
    | closed => trivial
  · intro other above
    simp only [Pool.write, owned.fresh other above]
    split <;> rfl

/-- What a thread finds in its queue, by who has the connection. -/
theorem queue_held {pool : Pool} {conn : Nat} {row : Connection} {job : Job} {rest : List Job}
    (owned : Owned pool) (present : pool.connections conn = some row)
    (queue : row.queue = job :: rest) :
    Unheld pool conn ∨ ∃ id checkout, pool.checkouts id = some checkout ∧
      checkout.phase.conn = some conn ∧ Queued id checkout.phase row := by
  by_cases held : ∃ id checkout, pool.checkouts id = some checkout ∧
      checkout.phase.conn = some conn
  · obtain ⟨id, checkout, found, has⟩ := held
    obtain ⟨other, there, _, queued⟩ := owned.heldRow id checkout conn found has
    obtain rfl := Option.some.inj (present.symm.trans there)
    exact .inr ⟨id, checkout, found, has, queued⟩
  · left
    constructor
    · intro listed
      obtain ⟨entry, member, rfl⟩ := List.mem_map.mp listed
      obtain ⟨other, there, _, empty, _⟩ := owned.idleRow entry member
      obtain rfl := Option.some.inj (present.symm.trans there)
      rw [queue] at empty
      cases empty
    · intro id checkout found has
      exact held ⟨id, checkout, found, has⟩

/-- A checkout whose queue starts with a statement is open or waits for its reset, and what is
left behind it is as queued. -/
theorem queued_statement {id from' : Nat} {phase : Phase} {row : Connection} {rest : List Job}
    {after : Bool} (queued : Queued id phase row) (queue : row.queue = .statement from' :: rest) :
    Queued id phase (Connection.took rest after row) := by
  cases phase with
  | opened conn =>
      intro job listed
      exact queued job (queue ▸ List.mem_cons_of_mem _ listed)
  | resetting conn =>
      obtain ⟨before, same, own⟩ := queued
      rw [queue] at same
      cases before with
      | nil =>
          have head := (List.cons.inj same).1
          cases head
      | cons first others =>
          refine ⟨others, (List.cons.inj same).2, ?_⟩
          intro job listed
          exact own job (List.mem_cons_of_mem _ listed)
  | reset conn clean =>
      rw [Queued, queue] at queued
      cases queued.1
  | failed conn =>
      rw [Queued, queue] at queued
      cases queued
  | opening => trivial
  | closed => trivial

/-- A reset at the head of a checkout's queue is its own, and the last thing queued. -/
theorem queued_reset {id from' conn : Nat} {phase : Phase} {row : Connection} {rest : List Job}
    (queued : Queued id phase row) (queue : row.queue = .reset from' :: rest)
    (has : phase.conn = some conn) : phase = .resetting conn ∧ from' = id ∧ rest = [] := by
  cases phase with
  | opened other =>
      have own := queued (.reset from') (queue ▸ List.mem_cons_self)
      cases own
  | resetting other =>
      obtain ⟨before, same, own⟩ := queued
      rw [queue] at same
      obtain rfl := Option.some.inj has
      cases before with
      | nil =>
          obtain ⟨head, rfl⟩ := List.cons.inj same
          exact ⟨rfl, Job.reset.inj head, rfl⟩
      | cons first others =>
          have statement := own first List.mem_cons_self
          rw [← (List.cons.inj same).1] at statement
          cases statement
  | reset other clean =>
      rw [Queued, queue] at queued
      cases queued.1
  | failed other =>
      rw [Queued, queue] at queued
      cases queued
  | opening => cases has
  | closed => cases has

/-- A close is queued on connections nobody has. -/
theorem queued_close {id conn : Nat} {phase : Phase} {row : Connection} {rest : List Job}
    (queued : Queued id phase row) (queue : row.queue = .close :: rest)
    (has : phase.conn = some conn) : False := by
  cases phase with
  | opened other =>
      have own := queued .close (queue ▸ List.mem_cons_self)
      cases own
  | resetting other =>
      obtain ⟨before, same, own⟩ := queued
      rw [queue] at same
      cases before with
      | nil =>
          have head := (List.cons.inj same).1
          cases head
      | cons first others =>
          have statement := own first List.mem_cons_self
          rw [← (List.cons.inj same).1] at statement
          cases statement
  | reset other clean =>
      rw [Queued, queue] at queued
      cases queued.1
  | failed other =>
      rw [Queued, queue] at queued
      cases queued
  | opening => cases has
  | closed => cases has

theorem answer_none {pool : Pool} {id conn : Nat} {after : Option Bool}
    (unheld : Unheld pool conn) : answer id conn after pool = pool := by
  unfold answer
  split
  · rfl
  next checkout found =>
    apply if_neg
    intro waiting
    apply unheld.2 id checkout found
    rw [waiting]
    rfl

theorem reset_owned {pool : Pool} {id conn : Nat} {effect : Effect} {row : Connection}
    {checkout : Checkout} (owned : Owned pool) (present : pool.connections conn = some row)
    (found : pool.checkouts id = some checkout) (waiting : checkout.phase = .resetting conn) :
    Owned (answer id conn (resetOnWorker effect row.inTransaction)
      (pool.write conn (Connection.took []
        ((resetOnWorker effect row.inTransaction).getD row.inTransaction)))) := by
  have has : checkout.phase.conn = some conn := by
    rw [waiting]
    rfl
  unfold answer
  have same : (pool.write conn (Connection.took []
      ((resetOnWorker effect row.inTransaction).getD row.inTransaction))).checkouts id =
        some checkout := found
  rw [same]
  dsimp only
  rw [if_pos waiting]
  refine hold_owned owned found has ?_ rfl (fun _ => rfl) ?_
  · dsimp only
    split <;> rfl
  · intro other there _
    obtain rfl := Option.some.inj (present.symm.trans there)
    dsimp only
    cases after : resetOnWorker effect row.inTransaction with
    | none => exact rfl
    | some left =>
        refine ⟨rfl, ?_⟩
        intro clean
        rw [Bool.not_eq_true'] at clean
        exact clean

theorem work_owned {pool after : Pool} {conn : Nat} {effect : Effect} (owned : Owned pool)
    (taken : work conn effect pool = some after) : Owned after := by
  obtain ⟨row, present, taken⟩ := Option.bind_eq_some_iff.mp taken
  split at taken
  · cases taken
  next from' rest queue =>
    obtain rfl := Option.some.inj taken
    rcases queue_held owned present queue with unheld | ⟨id, checkout, found, has, _⟩
    · exact write_unheld owned unheld
    · refine write_held owned found has (fun _ => rfl) ?_
      intro other there queued
      obtain rfl := Option.some.inj (present.symm.trans there)
      exact queued_statement queued queue
  next from' rest queue =>
    obtain rfl := Option.some.inj taken
    rcases queue_held owned present queue with unheld | ⟨id, checkout, found, has, queued⟩
    · have still : Unheld (pool.write conn (Connection.took rest
          ((resetOnWorker effect row.inTransaction).getD row.inTransaction))) conn := unheld
      rw [answer_none still]
      exact write_unheld owned unheld
    · obtain ⟨waiting, rfl, rfl⟩ := queued_reset queued queue has
      exact reset_owned owned present found waiting
  next rest queue =>
    obtain rfl := Option.some.inj taken
    rcases queue_held owned present queue with unheld | ⟨id, checkout, found, has, queued⟩
    · exact write_unheld owned unheld
    · exact (queued_close queued queue has).elim

theorem write_same (pool : Pool) (conn : Nat) : pool.write conn (fun row => row) = pool := by
  have same : (fun other => if other = conn then (pool.connections other).map fun row => row
      else pool.connections other) = pool.connections := by
    funext other
    split
    · exact Option.map_id'
    · rfl
  unfold Pool.write
  rw [same]

/-- A flag of a checkout says nothing about its connection. -/
theorem mark_owned {pool : Pool} {id : Nat} {checkout : Checkout} (owned : Owned pool)
    (found : pool.checkouts id = some checkout) (dirty : Bool) :
    Owned (pool.put id { checkout with dirty := dirty }) := by
  cases has : checkout.phase.conn with
  | none => exact put_none_owned owned has
  | some conn =>
      have held : Owned ((pool.write conn fun row => row).put id { checkout with dirty := dirty }) :=
        hold_owned owned found has has rfl (fun _ => rfl) fun _ _ queued => queued
      rw [write_same] at held
      exact held

theorem issue_owned {pool after : Pool} {id : Nat} {stateful : Bool} (owned : Owned pool)
    (taken : issue id stateful pool = some after) : Owned after := by
  obtain ⟨checkout, found, taken⟩ := Option.bind_eq_some_iff.mp taken
  have marked := mark_owned owned found (checkout.dirty || stateful)
  dsimp only at taken
  split at taken
  · cases taken
  next conn phase =>
    split at taken
    · obtain rfl := Option.some.inj taken
      have has : checkout.phase.conn = some conn := by
        rw [phase]
        rfl
      have held : Owned ((pool.write conn (Connection.push (.statement id))).put id
          { checkout with dirty := checkout.dirty || stateful }) := by
        refine hold_owned owned found has has rfl (fun _ => rfl) ?_
        intro row _ queued
        rw [phase, Queued] at queued
        dsimp only
        rw [phase]
        intro job listed
        rcases List.mem_append.mp listed with before | last
        · exact queued job before
        · exact List.mem_singleton.mp last
      exact held
    · obtain rfl := Option.some.inj taken
      exact marked
  · obtain rfl := Option.some.inj taken
    exact marked

theorem close_owned {pool : Pool} {id conn : Nat} {checkout : Checkout} (owned : Owned pool)
    (found : pool.checkouts id = some checkout) (phase : checkout.phase = .opened conn) :
    Owned (close id conn checkout pool) := by
  have has : checkout.phase.conn = some conn := by
    rw [phase]
    rfl
  unfold close
  split
  · refine hold_owned owned found has rfl rfl (fun _ => rfl) ?_
    intro row _ queued
    rw [phase, Queued] at queued
    exact ⟨row.queue, rfl, queued⟩
  · exact discard_owned owned found has

theorem finishRelease_owned {pool : Pool} {id loop conn : Nat} {clean : Bool}
    {checkout : Checkout} (owned : Owned pool) (found : pool.checkouts id = some checkout)
    (phase : checkout.phase = .reset conn clean) :
    Owned (finishRelease id loop conn clean checkout pool) := by
  have has : checkout.phase.conn = some conn := by
    rw [phase]
    rfl
  unfold finishRelease
  split
  · exact discard_owned owned found has
  next kept =>
    simp only [Bool.or_eq_true, Bool.not_eq_true', decide_eq_true_eq, not_or, not_not,
      Nat.not_le, Bool.not_eq_false] at kept
    obtain ⟨⟨⟨⟨isClean, _⟩, sameLoop⟩, samePath⟩, room⟩ := kept
    obtain ⟨row, present, path, queued⟩ := owned.heldRow id checkout conn found has
    rw [phase, Queued] at queued
    have closed : Owned (pool.put id { checkout with phase := .closed }) := put_none_owned owned rfl
    exact pool_owned closed (put_none_unheld owned found has rfl) present path queued.1
      (queued.2 isClean) ⟨samePath, sameLoop⟩ room

theorem step_owned {before after : Pool} {label : Label} (taken : step before label = some after)
    (owned : Owned before) : Owned after := by
  cases label with
  | enable =>
      obtain rfl := Option.some.inj taken
      exact ⟨owned.idleOnce, owned.idleRow, owned.idleBound, owned.idleMost, owned.heldOnce,
        owned.heldNotIdle, owned.heldRow, owned.fresh⟩
  | aclose =>
      obtain rfl := Option.some.inj taken
      have retired := retireIdle_owned owned
      exact ⟨retired.idleOnce, retired.idleRow, retired.idleBound, retired.idleMost,
        retired.heldOnce, retired.heldNotIdle, retired.heldRow, retired.fresh⟩
  | retireIdle =>
      obtain rfl := Option.some.inj taken
      exact retireIdle_owned owned
  | acquire id loop path busyMs =>
      dsimp only [step] at taken
      split at taken
      · cases taken
      next absent =>
        obtain rfl := Option.some.inj taken
        exact acquire_owned owned (Option.not_isSome_iff_eq_none.mp absent)
  | opened id =>
      obtain ⟨checkout, found, taken⟩ := Option.bind_eq_some_iff.mp taken
      split at taken
      next opening =>
        obtain rfl := Option.some.inj taken
        exact opened_owned owned found opening
      · cases taken
  | openFails id =>
      obtain ⟨checkout, found, taken⟩ := Option.bind_eq_some_iff.mp taken
      split at taken
      · obtain rfl := Option.some.inj taken
        exact put_none_owned owned rfl
      · cases taken
  | issue id stateful => exact issue_owned owned taken
  | close id =>
      obtain ⟨checkout, found, taken⟩ := Option.bind_eq_some_iff.mp taken
      split at taken
      next conn phase =>
        obtain rfl := Option.some.inj taken
        exact close_owned owned found phase
      · cases taken
      · obtain rfl := Option.some.inj taken
        exact owned
  | resume id loop =>
      obtain ⟨checkout, found, taken⟩ := Option.bind_eq_some_iff.mp taken
      split at taken
      next conn clean phase =>
        obtain rfl := Option.some.inj taken
        exact finishRelease_owned owned found phase
      next conn phase =>
        obtain rfl := Option.some.inj taken
        exact discard_owned owned found (congrArg Phase.conn phase)
      · cases taken
  | cancel id =>
      obtain ⟨checkout, found, taken⟩ := Option.bind_eq_some_iff.mp taken
      split at taken
      next conn phase =>
        obtain rfl := Option.some.inj taken
        exact discard_owned owned found (congrArg Phase.conn phase)
      next conn clean phase =>
        obtain rfl := Option.some.inj taken
        exact discard_owned owned found (congrArg Phase.conn phase)
      next conn phase =>
        obtain rfl := Option.some.inj taken
        exact discard_owned owned found (congrArg Phase.conn phase)
      · cases taken
  | work conn effect => exact work_owned owned taken
  | breaks conn =>
      obtain rfl := Option.some.inj taken
      exact write_flags owned (fun _ => rfl) (fun _ => rfl) (fun _ => rfl)

theorem bind_limit (loop : Nat) (path : String) (pool : Pool) :
    (bind loop path pool).idleMax = pool.idleMax := by
  unfold bind
  split <;> rfl

theorem acquire_limit (id loop : Nat) (path : String) (busyMs : Nat) (pool : Pool) :
    (acquire id loop path busyMs pool).idleMax = pool.idleMax := by
  unfold acquire
  split
  · rfl
  · dsimp only
    split <;> exact bind_limit loop path pool

theorem answer_limit (id conn : Nat) (after : Option Bool) (pool : Pool) :
    (answer id conn after pool).idleMax = pool.idleMax := by
  unfold answer
  split
  · rfl
  · split <;> rfl

theorem step_limit {before after : Pool} {label : Label}
    (taken : step before label = some after) : after.idleMax = before.idleMax := by
  cases label with
  | enable => exact Option.some.inj taken ▸ rfl
  | aclose => exact Option.some.inj taken ▸ rfl
  | retireIdle => exact Option.some.inj taken ▸ rfl
  | breaks conn => exact Option.some.inj taken ▸ rfl
  | acquire id loop path busyMs =>
      dsimp only [step] at taken
      split at taken
      · cases taken
      · exact Option.some.inj taken ▸ acquire_limit id loop path busyMs before
  | opened id =>
      obtain ⟨checkout, _, taken⟩ := Option.bind_eq_some_iff.mp taken
      split at taken
      · exact Option.some.inj taken ▸ rfl
      · cases taken
  | openFails id =>
      obtain ⟨checkout, _, taken⟩ := Option.bind_eq_some_iff.mp taken
      split at taken
      · exact Option.some.inj taken ▸ rfl
      · cases taken
  | issue id stateful =>
      obtain ⟨checkout, _, taken⟩ := Option.bind_eq_some_iff.mp taken
      dsimp only at taken
      split at taken
      · cases taken
      · split at taken <;> exact Option.some.inj taken ▸ rfl
      · exact Option.some.inj taken ▸ rfl
  | close id =>
      obtain ⟨checkout, _, taken⟩ := Option.bind_eq_some_iff.mp taken
      split at taken
      · obtain rfl := Option.some.inj taken
        unfold close
        split <;> rfl
      · cases taken
      · exact Option.some.inj taken ▸ rfl
  | resume id loop =>
      obtain ⟨checkout, _, taken⟩ := Option.bind_eq_some_iff.mp taken
      split at taken
      · obtain rfl := Option.some.inj taken
        unfold finishRelease
        split <;> rfl
      · exact Option.some.inj taken ▸ rfl
      · cases taken
  | cancel id =>
      obtain ⟨checkout, _, taken⟩ := Option.bind_eq_some_iff.mp taken
      split at taken
      · exact Option.some.inj taken ▸ rfl
      · exact Option.some.inj taken ▸ rfl
      · exact Option.some.inj taken ▸ rfl
      · cases taken
  | work conn effect =>
      obtain ⟨row, _, taken⟩ := Option.bind_eq_some_iff.mp taken
      split at taken
      · cases taken
      · exact Option.some.inj taken ▸ rfl
      · exact Option.some.inj taken ▸ answer_limit _ _ _ _
      · exact Option.some.inj taken ▸ rfl

/-- An operation of a checkout that is not open reaches no connection. -/
theorem issue_closed {pool after : Pool} {id : Nat} {stateful : Bool} {checkout : Checkout}
    (found : pool.checkouts id = some checkout) (closed : ∀ conn, checkout.phase ≠ .opened conn)
    (taken : step pool (.issue id stateful) = some after) :
    after.connections = pool.connections := by
  obtain ⟨other, present, taken⟩ := Option.bind_eq_some_iff.mp taken
  obtain rfl := Option.some.inj (found.symm.trans present)
  dsimp only at taken
  split at taken
  · cases taken
  next conn phase => exact absurd phase (closed conn)
  · exact Option.some.inj taken ▸ rfl

theorem pool_ownership {idleMax : Nat} {pool : Pool}
    (run : Reaches step anyStep (initial idleMax) pool) :
    pool.idleConns.Nodup ∧
    (∀ left right leftRow rightRow conn, pool.checkouts left = some leftRow →
      pool.checkouts right = some rightRow → leftRow.phase = .opened conn →
      rightRow.phase = .opened conn → left = right) ∧
    (∀ id checkout conn, pool.checkouts id = some checkout → checkout.phase = .opened conn →
      conn ∉ pool.idleConns) ∧
    pool.idle.length ≤ idleMax ∧
    (∀ entry ∈ pool.idle, pool.path = some entry.path ∧ pool.loop = some entry.loop ∧
      ∃ row, pool.connections entry.conn = some row ∧ row.path = entry.path ∧
        row.inTransaction = false ∧ row.queue = []) ∧
    (∀ id checkout conn, pool.checkouts id = some checkout → checkout.phase = .opened conn →
      ∃ row, pool.connections conn = some row ∧ row.path = checkout.path ∧
        ∀ job ∈ row.queue, job = .statement id) ∧
    ∀ id checkout stateful after, pool.checkouts id = some checkout →
      (∀ conn, checkout.phase ≠ .opened conn) → step pool (.issue id stateful) = some after →
      after.connections = pool.connections := by
  have invariant : Owned pool ∧ pool.idleMax = idleMax := by
    refine run.invariant (fun pool => Owned pool ∧ pool.idleMax = idleMax)
      ⟨initial_owned idleMax, rfl⟩ ?_
    rintro before label after ⟨owned, limit⟩ _ taken
    exact ⟨step_owned taken owned, (step_limit taken).trans limit⟩
  obtain ⟨owned, limit⟩ := invariant
  refine ⟨owned.idleOnce, ?_, ?_, limit ▸ owned.idleMost, ?_, ?_, ?_⟩
  · intro left right leftRow rightRow conn leftFound rightFound leftPhase rightPhase
    exact owned.heldOnce left right leftRow rightRow conn leftFound rightFound
      (congrArg Phase.conn leftPhase) (congrArg Phase.conn rightPhase)
  · intro id checkout conn found phase
    exact owned.heldNotIdle id checkout conn found (congrArg Phase.conn phase)
  · intro entry listed
    obtain ⟨row, present, path, empty, clean⟩ := owned.idleRow entry listed
    obtain ⟨boundPath, boundLoop⟩ := owned.idleBound entry listed
    exact ⟨boundPath, boundLoop, row, present, path, clean, empty⟩
  · intro id checkout conn found phase
    obtain ⟨row, present, path, queued⟩ :=
      owned.heldRow id checkout conn found (congrArg Phase.conn phase)
    rw [phase, Queued] at queued
    exact ⟨row, present, path, queued⟩
  · intro id checkout stateful after found closed taken
    exact issue_closed found closed taken

/-- A request leaves a transaction open behind it; the next one gets its connection, and what
the first still asks of its closed checkout does not reach it. -/
theorem pool_ownership_reused : ∃ pool checkout,
    Reaches step anyStep (initial 8) pool ∧ pool.checkouts 1 = some checkout ∧
    checkout.phase = .opened 0 ∧ (0 : Nat) ∉ pool.idleConns ∧
    ∃ row, pool.connections 0 = some row ∧ ∀ job ∈ row.queue, job = .statement 1 := by
  have executed : (exec step (fun _ _ => true) (initial 8)
      [.enable, .acquire 0 7 "aify.db" 5000, .opened 0, .issue 0 false, .close 0,
        .work 0 (.leaves true), .work 0 (.leaves false), .resume 0 7,
        .acquire 1 7 "aify.db" 5000, .issue 0 false, .issue 1 false]).map
      (fun pool => pool.checkouts 1) = some (some ⟨.opened 0, "aify.db", 5000, false⟩) := by
    decide
  obtain ⟨pool, run, seen⟩ := reaches_observed _ _ _ _ (fun _ _ _ => trivial) executed
  obtain ⟨_, _, apart, _, _, own, _⟩ := pool_ownership run
  obtain ⟨row, present, _, queued⟩ := own 1 _ 0 seen rfl
  exact ⟨pool, _, run, seen, rfl, apart 1 _ 0 seen rfl, row, present, queued⟩

end AifyComms.ConnectionPool
