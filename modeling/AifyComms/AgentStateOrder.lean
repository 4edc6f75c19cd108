import AifyComms.AgentStateIngest

/-!
The order in which publications are accepted, over any run of publications,
mirror failures, restarts and restores, and what an accepted snapshot leaves.
-/

namespace AifyComms.AgentState
open Runs

/-! ### What the transaction leaves -/

theorem writeDataColumns_other (tables : Tables) (body : Publication) (appliedAt : Stamp)
    {key : Key} (different : body.key ≠ key) :
    (writeDataColumns tables body appliedAt).publishers.get? key = tables.publishers.get? key := by
  unfold writeDataColumns
  split
  · rfl
  · exact Dict.get?_set_ne _ _ different

theorem writeDataColumns_rows (tables : Tables) (body : Publication) (appliedAt : Stamp) :
    (writeDataColumns tables body appliedAt).rows = tables.rows := by
  unfold writeDataColumns
  split <;> rfl

theorem writeTables_other (tables : Tables) (body : Publication) (digest : String)
    (appliedAt : Stamp) {key : Key} (different : body.key ≠ key) :
    (writeTables tables body digest appliedAt).publishers.get? key =
        tables.publishers.get? key ∧
      (writeTables tables body digest appliedAt).rows key = tables.rows key := by
  unfold writeTables
  cases body.kind <;>
    simp [writeRetirement, writeData, writeDataColumns_other _ _ _ different,
      writeDataColumns_rows, setRows, writeCursor, Function.update_of_ne (Ne.symm different),
      Dict.get?_set_ne _ _ different]

/-- The cursor after an accepted body: the body's own coordinates, and the data
columns moved by every kind but `unavailable`. -/
theorem writeTables_cursor (tables : Tables) (body : Publication) (digest : String)
    (appliedAt : Stamp) :
    ∃ cursor, (writeTables tables body digest appliedAt).publishers.get? body.key = some cursor ∧
      cursor.generation = body.generation ∧ cursor.incarnationId = body.incarnationId ∧
      cursor.publication = body.number ∧ cursor.kind = body.kind ∧
      cursor.dataGeneration = if body.kind = .unavailable then
        (tables.publishers.get? body.key).bind Cursor.dataGeneration else some body.generation := by
  unfold writeTables
  cases kind : body.kind <;>
    simp [writeRetirement, writeData, writeDataColumns, setRows, writeCursor, kind]

theorem writeTables_rows (tables : Tables) (body : Publication) (digest : String)
    (appliedAt : Stamp) :
    (writeTables tables body digest appliedAt).rows body.key =
      match body.kind with
      | .retired => Dict.empty
      | .unavailable => tables.rows body.key
      | .snapshot | .changes =>
          writtenRows (tables.rows body.key) (tables.publishers.get? body.key) body := by
  unfold writeTables
  cases body.kind <;>
    simp [writeRetirement, writeData, writeDataColumns_rows, setRows, writeCursor]

/-! ### What one step can do -/

/-- A step leaves the world alone, accepts one publication, or replaces the
process's mirror without touching a table. -/
inductive Moved (before after : World) : Label → Prop where
  | unchanged {label : Label} (same : after = before) : Moved before after label
  | accepted {document : Json} {digest : String} {appliedAt : Stamp} {storeFails : Bool}
      {faults : Faults} (body : Publication)
      (ordered : order (before.tables.publishers.get? body.key) body digest = none)
      (tables : after.tables = writeTables before.tables body digest appliedAt)
      (process : after.process = (mirrorStep before.process body appliedAt faults).1)
      (applied : after.applied = before.applied ++ [body]) :
      Moved before after (.publish document digest appliedAt storeFails faults)
  | restarted (tables : after.tables = before.tables) (applied : after.applied = before.applied)
      (process : after.process = Process.start) : Moved before after .restart
  | restored {tablesFail : Bool} {unreadable : Key → Bool}
      (same : after = restoreMirror before tablesFail unreadable) :
      Moved before after (.restore tablesFail unreadable)

theorem apply_moved (world : World) (document : Json) (digest : String) (appliedAt : Stamp)
    (storeFails : Bool) (faults : Faults) :
    Moved world (apply world document digest appliedAt storeFails faults).1
      (.publish document digest appliedAt storeFails faults) := by
  unfold apply
  split
  · exact .unchanged rfl
  · next body _ =>
      unfold applyPublication
      split
      · exact .unchanged rfl
      · split
        · exact .unchanged rfl
        · next accepted => exact .accepted body accepted rfl rfl rfl

theorem step_moved {before after : World} {label : Label} (taken : step before label = some after) :
    Moved before after label := by
  cases label with
  | publish document digest appliedAt storeFails faults =>
      cases taken
      exact apply_moved before document digest appliedAt storeFails faults
  | restart =>
      cases taken
      exact .restarted rfl rfl rfl
  | restore tablesFail unreadable =>
      cases taken
      exact .restored rfl

theorem restoreMirror_frame (world : World) (tablesFail : Bool) (unreadable : Key → Bool) :
    (restoreMirror world tablesFail unreadable).tables = world.tables ∧
      (restoreMirror world tablesFail unreadable).applied = world.applied := by
  unfold restoreMirror
  split <;> exact ⟨rfl, rfl⟩

/-! ### Order -/

/-- The publications of one publisher that were accepted, in order. -/
def World.accepted (world : World) (key : Key) : List Publication :=
  world.applied.filter fun body => body.key = key

/-- A later publication may follow an accepted one: it is of a newer
generation, or a later number of the same incarnation, not yet retired. -/
def Follows (earlier later : Publication) : Prop :=
  earlier.generation < later.generation ∨
    (earlier.generation = later.generation ∧ earlier.number < later.number ∧
      earlier.incarnationId = later.incarnationId ∧ earlier.kind ≠ .retired)

theorem Follows.trans {first second third : Publication} (before : Follows first second)
    (after : Follows second third) : Follows first third := by
  rcases before with newer | ⟨sameGeneration, number, incarnation, live⟩
  · rcases after with newest | ⟨sameGeneration, _⟩
    · exact .inl (by omega)
    · exact .inl (by omega)
  · rcases after with newest | ⟨sameGeneration', number', incarnation', _⟩
    · exact .inl (by omega)
    · exact .inr ⟨by omega, by omega, incarnation.trans incarnation', live⟩

/-- The cursor holds the coordinates of the last accepted publication. -/
structure Cursor.Marks (cursor : Cursor) (body : Publication) : Prop where
  generation : cursor.generation = body.generation
  incarnation : cursor.incarnationId = body.incarnationId
  number : cursor.publication = body.number
  kind : cursor.kind = body.kind

/-- What an accepted body is to the cursor it was compared with. -/
theorem order_none {cursor : Cursor} {body : Publication} {digest : String}
    (accepted : order (some cursor) body digest = none) :
    cursor.generation < body.generation ∨
      (cursor.generation = body.generation ∧ cursor.publication < body.number ∧
        cursor.incarnationId = body.incarnationId ∧ cursor.kind ≠ .retired) := by
  simp only [order] at accepted
  split at accepted
  · exact .inl ‹_›
  split at accepted
  · cases accepted
  split at accepted
  · cases accepted
  split at accepted
  · cases accepted
  split at accepted
  · split at accepted <;> cases accepted
  split at accepted
  · cases accepted
  next sameIncarnation _ _ live =>
    exact .inr ⟨by omega, by omega, (not_not.mp sameIncarnation).symm, live⟩

theorem order_follows {cursor : Cursor} {last body : Publication} {digest : String}
    (marks : cursor.Marks last) (accepted : order (some cursor) body digest = none) :
    Follows last body := by
  rcases order_none accepted with newer | ⟨generation, number, incarnation, live⟩
  · exact .inl (marks.generation ▸ newer)
  · exact .inr ⟨marks.generation ▸ generation, marks.number ▸ number,
      marks.incarnation ▸ incarnation, marks.kind ▸ live⟩

/-- Every publisher's accepted publications follow each other, and its cursor
marks the last of them. -/
structure Ordered (world : World) : Prop where
  follows : ∀ key, (world.accepted key).Pairwise Follows
  marked : ∀ key, match world.tables.publishers.get? key with
    | none => world.accepted key = []
    | some cursor => ∃ front last, world.accepted key = front ++ [last] ∧ cursor.Marks last

theorem accepted_append (before after : World) (body : Publication)
    (applied : after.applied = before.applied ++ [body]) (key : Key) :
    after.accepted key = before.accepted key ++ if body.key = key then [body] else [] := by
  by_cases same : body.key = key <;> simp [World.accepted, applied, same]

theorem accepted_follows {world : World} (ordered : Ordered world) {body : Publication}
    {digest : String}
    (accepted : order (world.tables.publishers.get? body.key) body digest = none) :
    ∀ earlier ∈ world.accepted body.key, Follows earlier body := by
  intro earlier member
  have marked := ordered.marked body.key
  cases found : world.tables.publishers.get? body.key with
  | none =>
      rw [found] at marked
      rw [marked] at member
      cases member
  | some cursor =>
      rw [found] at marked accepted
      obtain ⟨front, last, split, marks⟩ := marked
      have latest := order_follows marks accepted
      rw [split] at member
      rcases List.mem_append.mp member with inFront | isLast
      -- Earlier ones precede the last, which the cursor marks.
      · have chain := ordered.follows body.key
        rw [split, List.pairwise_append] at chain
        exact (chain.2.2 earlier inFront last List.mem_cons_self).trans latest
      · rw [List.mem_singleton.mp isLast]
        exact latest

theorem moved_ordered {before after : World} {label : Label} (moved : Moved before after label)
    (ordered : Ordered before) : Ordered after := by
  have frame : after.tables = before.tables → after.applied = before.applied → Ordered after := by
    intro tables applied
    refine ⟨fun key => ?_, fun key => ?_⟩
    · simpa [World.accepted, applied] using ordered.follows key
    · simpa [World.accepted, applied, tables] using ordered.marked key
  cases moved with
  | unchanged same => exact same ▸ ordered
  | restarted tables applied _ => exact frame tables applied
  | @restored tablesFail unreadable same =>
      have kept := restoreMirror_frame before tablesFail unreadable
      exact frame (same ▸ kept.1) (same ▸ kept.2)
  | @accepted _ digest appliedAt _ _ body accepted tables _ applied =>
      refine ⟨fun key => ?_, fun key => ?_⟩
      · rw [accepted_append before after body applied]
        by_cases same : body.key = key
        · subst same
          rw [if_pos rfl, List.pairwise_append]
          refine ⟨ordered.follows body.key, List.pairwise_singleton _ _, ?_⟩
          intro earlier member later isLast
          rw [List.mem_singleton.mp isLast]
          exact accepted_follows ordered accepted earlier member
        · simpa [same] using ordered.follows key
      · rw [accepted_append before after body applied, tables]
        by_cases same : body.key = key
        · subst same
          obtain ⟨cursor, found, generation, incarnation, number, kind, _⟩ :=
            writeTables_cursor before.tables body digest appliedAt
          rw [found, if_pos rfl]
          exact ⟨_, body, rfl, generation, incarnation, number, kind⟩
        · rw [(writeTables_other before.tables body digest appliedAt same).1]
          simpa [same] using ordered.marked key

theorem start_ordered : Ordered World.start :=
  ⟨fun _ => List.Pairwise.nil, fun _ => rfl⟩

theorem reachable_ordered {world : World} {allowed : World → Label → Prop}
    (run : Reaches step allowed World.start world) : Ordered world :=
  run.invariant Ordered start_ordered fun _ _ _ ordered _ taken =>
    moved_ordered (step_moved taken) ordered

/-- The answer of an apply whose transaction did not commit. -/
def Answer.isRefusal : Answer → Bool
  | .invalid _ | .storeFailed | .refused _ => true
  | .applied | .raised => false

theorem refused_unchanged (world : World) (document : Json) (digest : String) (appliedAt : Stamp)
    (storeFails : Bool) (faults : Faults)
    (refused : (apply world document digest appliedAt storeFails faults).2.isRefusal = true) :
    (apply world document digest appliedAt storeFails faults).1 = world := by
  unfold apply at refused ⊢
  split at refused
  · rfl
  · unfold applyPublication at refused ⊢
    split at refused
    · next fails => simp [fails]
    · next works =>
        split at refused
        · simp [works]
        · dsimp only at refused
          split at refused <;> cases refused

/-- In every run: the accepted pairs of one publisher strictly increase, a
generation has one incarnation, nothing of a retired generation or an older one
follows the retirement, and a refusal changes nothing. -/
theorem publications_accepted_in_order (world : World)
    (run : Reaches step anyStep World.start world) :
    (∀ key, (world.accepted key).Pairwise fun earlier later =>
      earlier.generation < later.generation ∨
        (earlier.generation = later.generation ∧ earlier.number < later.number)) ∧
    (∀ key, ∀ first ∈ world.accepted key, ∀ second ∈ world.accepted key,
      first.generation = second.generation → first.incarnationId = second.incarnationId) ∧
    (∀ key, (world.accepted key).Pairwise fun earlier later =>
      earlier.kind = .retired → earlier.generation < later.generation) ∧
    (∀ document digest appliedAt storeFails faults,
      (apply world document digest appliedAt storeFails faults).2.isRefusal = true →
        (apply world document digest appliedAt storeFails faults).1.tables = world.tables ∧
          (apply world document digest appliedAt storeFails faults).1.process = world.process) := by
  have ordered := reachable_ordered run
  refine ⟨fun key => ?_, fun key => ?_, fun key => ?_, ?_⟩
  · refine (ordered.follows key).imp ?_
    rintro earlier later (newer | ⟨same, number, _⟩)
    · exact .inl newer
    · exact .inr ⟨same, number⟩
  · have oneIncarnation : (world.accepted key).Pairwise fun first second =>
        first.generation = second.generation → first.incarnationId = second.incarnationId := by
      refine (ordered.follows key).imp ?_
      rintro earlier later (newer | ⟨_, _, incarnation, _⟩) same
      · omega
      · exact incarnation
    intro first inFirst second inSecond
    exact oneIncarnation.forall_of_forall_of_flip (fun _ _ _ => rfl)
      (oneIncarnation.imp fun agrees same => (agrees same.symm).symm) inFirst inSecond
  · refine (ordered.follows key).imp ?_
    rintro earlier later (newer | ⟨_, _, _, live⟩) retired
    · exact newer
    · exact absurd retired live
  · intro document digest appliedAt storeFails faults refused
    rw [refused_unchanged world document digest appliedAt storeFails faults refused]
    exact ⟨rfl, rfl⟩

/-- A publication of machine "m", instance "i" and one incarnation. -/
def sampleDocument (kind : String) (generation number : Nat) (fields : List (String × Json)) :
    Json :=
  .obj ([("kind", .str kind), ("machineId", .str "m"), ("instance", .str "i"),
    ("generation", .int generation), ("incarnationId", .str "x"), ("publication", .int number),
    ("inputs", .obj [])] ++ fields)

def sampleAgent (agentId lifetime : String) (busy : Bool) : Json :=
  .obj [("agentId", .str agentId), ("lifetime", .str lifetime), ("state", .str "idle"),
    ("stateCause", .str "at-prompt"), ("busy", .bool busy), ("process", .obj [
      ("state", .str "running"), ("verified", .str "yes"), ("pid", .null)]), ("turn", .null)]

def sampleSnapshot (generation number : Nat) (agents : List Json) : Json :=
  sampleDocument "snapshot" generation number [("complete", .bool true), ("agents", .arr agents)]

def sampleChanges (generation number : Nat) (agents removed : List Json) : Json :=
  sampleDocument "changes" generation number [("agents", .arr agents), ("removed", .arr removed)]

/-- A publish whose store and mirror calls all succeed. -/
def publishCleanly (document : Json) : Label :=
  .publish document "digest" (some 0) false noFaults

/-- A late change is stale, and one after the retirement is refused. -/
def retiredRun : List Label :=
  [sampleSnapshot 1 1 [sampleAgent "a" "l" false], sampleChanges 1 3 [] [], sampleChanges 1 2 [] [],
    sampleDocument "retired" 1 4 [("reason", .str "shutdown")], sampleChanges 1 5 [] [],
    sampleSnapshot 2 1 []].map publishCleanly

theorem publications_accepted_in_order_retired :
    ∃ world, Reaches step anyStep World.start world ∧
      world.applied.map (fun body => (body.generation, body.number)) =
        [(1, 1), (1, 3), (1, 4), (2, 1)] ∧
      (world.accepted ("m", "i")).Pairwise fun earlier later =>
        earlier.kind = .retired → earlier.generation < later.generation := by
  have executed : (exec step (fun _ _ => true) World.start retiredRun).map
      (fun world => world.applied.map fun body => (body.generation, body.number)) =
      some [(1, 1), (1, 3), (1, 4), (2, 1)] := by
    decide
  obtain ⟨world, run, seen⟩ := reaches_observed _ _ _ _ (fun _ _ _ => trivial) executed
  exact ⟨world, run, seen, (publications_accepted_in_order world run).2.2.1 ("m", "i")⟩

/-! ### An accepted snapshot -/

/-- The agents of a publication, by id. -/
def publishedRows (body : Publication) : Dict String Record := updateRows Dict.empty body.agents

/-- What a reader of the mirror learns of an entry apart from its stamps. -/
structure Marks where
  rows : List Record
  complete : Bool
  loss : Bool
  unavailable : Bool
  restored : Bool
  deriving DecidableEq

def Publisher.marks (publisher : Publisher) : Marks :=
  ⟨publisher.rows, publisher.complete, publisher.loss, publisher.unavailable, publisher.restored⟩

def snapshotMarks (body : Publication) : Marks :=
  ⟨(publishedRows body).values, true, false, false, false⟩

/-- An entry without its report pair. -/
def Publisher.core (publisher : Publisher) : Publisher := { publisher with report := none }

theorem renewReport_core (view : View) (key other : Key) (receivedAt : Stamp)
    (reportEveryMs : Option Nat) :
    ((renewReport view key receivedAt reportEveryMs).get? other).map Publisher.core =
      (view.get? other).map Publisher.core := by
  unfold renewReport
  cases found : view.get? key with
  | none => rfl
  | some old =>
      by_cases same : key = other
      · subst same
        simp [found, Publisher.core]
      · simp [Dict.get?_set_ne _ _ same]

theorem marks_congr {left right : Option Publisher}
    (same : left.map Publisher.core = right.map Publisher.core) :
    left.map Publisher.marks = right.map Publisher.marks := by
  have throughCore : ∀ entry : Option Publisher,
      entry.map Publisher.marks = (entry.map Publisher.core).map Publisher.marks := by
    intro entry
    cases entry <;> rfl
  rw [throughCore left, same, ← throughCore right]

theorem feed_snapshot_marks (view : View) (body : Publication) (appliedAt : Stamp)
    (snapshot : body.kind = .snapshot) :
    ((feed view body appliedAt).get? body.key).map Publisher.marks = some (snapshotMarks body) := by
  simp [feed, snapshot, Publisher.marks, snapshotMarks, publishedRows]

theorem mirrorStep_snapshot_marks (process : Process) (body : Publication) (appliedAt : Stamp)
    (faults : Faults) (snapshot : body.kind = .snapshot) (prepared : faults.prepare = false)
    (fed : faults.feed = false) :
    ((mirrorStep process body appliedAt faults).1.mirror.view.get? body.key).map Publisher.marks =
      some (snapshotMarks body) := by
  have feeding : feedSafe process body appliedAt faults =
      (process.withView (feed process.mirror.view body appliedAt), false) := by
    simp [feedSafe, prepared, fed]
  have marks := feed_snapshot_marks process.mirror.view body appliedAt snapshot
  unfold mirrorStep
  rw [if_neg (by simp [snapshot]), feeding]
  dsimp only
  split
  · exact marks
  · exact (marks_congr (renewReport_core _ _ _ _ _)).trans marks

theorem apply_accepted {world : World} {document : Json} {body : Publication} {digest : String}
    {appliedAt : Stamp} {storeFails : Bool} {faults : Faults} (valid : ofJson document = .ok body)
    (accepted :
      (apply world document digest appliedAt storeFails faults).2.isRefusal = false) :
    (apply world document digest appliedAt storeFails faults).1.tables =
        writeTables world.tables body digest appliedAt ∧
      (apply world document digest appliedAt storeFails faults).1.process =
        (mirrorStep world.process body appliedAt faults).1 := by
  simp only [apply, valid, applyPublication] at accepted ⊢
  split at accepted
  · cases accepted
  · next works =>
      split at accepted
      · cases accepted
      · simp [works]

theorem snapshot_rows (tables : Tables) (body : Publication) (digest : String) (appliedAt : Stamp)
    (snapshot : body.kind = .snapshot) :
    (writeTables tables body digest appliedAt).rows body.key = publishedRows body := by
  rw [writeTables_rows]
  simp [snapshot, writtenRows, publishedRows]

/-- Whatever happened before, once the same snapshot is accepted the saved rows
are its agents, and where the mirror took it the entry's marks are its own. -/
theorem snapshot_erases_history (first second : World) (document : Json) (body : Publication)
    (valid : ofJson document = .ok body) (snapshot : body.kind = .snapshot)
    (digest : String) (firstAt secondAt : Stamp) (firstStore secondStore : Bool)
    (firstFaults secondFaults : Faults)
    (firstAccepted :
      (apply first document digest firstAt firstStore firstFaults).2.isRefusal = false)
    (secondAccepted :
      (apply second document digest secondAt secondStore secondFaults).2.isRefusal = false) :
    ((apply first document digest firstAt firstStore firstFaults).1.tables.rows body.key =
        publishedRows body ∧
      (apply second document digest secondAt secondStore secondFaults).1.tables.rows body.key =
        publishedRows body) ∧
    (firstFaults.prepare = false → firstFaults.feed = false →
      secondFaults.prepare = false → secondFaults.feed = false →
      ((apply first document digest firstAt firstStore firstFaults).1.process.mirror.view.get?
          body.key).map Publisher.marks = some (snapshotMarks body) ∧
        ((apply second document digest secondAt secondStore secondFaults).1.process.mirror.view.get?
          body.key).map Publisher.marks = some (snapshotMarks body)) := by
  obtain ⟨firstTables, firstProcess⟩ := apply_accepted valid firstAccepted
  obtain ⟨secondTables, secondProcess⟩ := apply_accepted valid secondAccepted
  constructor
  · rw [firstTables, secondTables]
    exact ⟨snapshot_rows _ body digest firstAt snapshot,
      snapshot_rows _ body digest secondAt snapshot⟩
  · intro firstPrepared firstFed secondPrepared secondFed
    rw [firstProcess, secondProcess]
    exact ⟨mirrorStep_snapshot_marks _ body firstAt firstFaults snapshot firstPrepared firstFed,
      mirrorStep_snapshot_marks _ body secondAt secondFaults snapshot secondPrepared secondFed⟩

theorem ofJson_observed {Seen : Type} (document : Json) (observe : Publication → Seen) (seen : Seen)
    (checked : (ofJson document).toOption.map observe = some seen) :
    ∃ body, ofJson document = .ok body ∧ observe body = seen := by
  cases valid : ofJson document with
  | error message => simp [valid, Except.toOption] at checked
  | ok body =>
      refine ⟨body, rfl, ?_⟩
      simpa [valid, Except.toOption] using checked

/-- A publisher with another agent, a change the mirror lost, and a restart. -/
def troubledHistory : List Label :=
  [publishCleanly (sampleSnapshot 1 1 [sampleAgent "old" "l" true]),
    .publish (sampleChanges 1 2 [sampleAgent "b" "l" false] []) "digest" (some 0) false
      { noFaults with feed := true },
    .restart, .restore false fun _ => false]

def troubledWorld : World := (exec step (fun _ _ => true) World.start troubledHistory).getD World.start

theorem snapshot_erases_history_troubled :
    ∃ body, ofJson (sampleSnapshot 1 3 [sampleAgent "a" "l" false]) = .ok body ∧
      (((apply World.start (sampleSnapshot 1 3 [sampleAgent "a" "l" false]) "d" (some 0) false
          noFaults).1.process.mirror.view.get? body.key).map Publisher.marks =
        some (snapshotMarks body) ∧
      ((apply troubledWorld (sampleSnapshot 1 3 [sampleAgent "a" "l" false]) "d" (some 5) false
          noFaults).1.process.mirror.view.get? body.key).map Publisher.marks =
        some (snapshotMarks body)) := by
  obtain ⟨body, valid, snapshot⟩ := ofJson_observed
    (sampleSnapshot 1 3 [sampleAgent "a" "l" false]) Publication.kind .snapshot (by decide)
  exact ⟨body, valid, (snapshot_erases_history World.start troubledWorld _ body valid snapshot "d"
    (some 0) (some 5) false false noFaults noFaults (by decide)
    (by decide)).2 rfl rfl rfl rfl⟩

end AifyComms.AgentState
