import AifyComms.AgentStateOrder

/-!
The mirror against the saved tables. Both apply the same publications by their
own code; where every mirror call succeeds the mirror is the table, and in any
run a publisher that reads `fresh` holds exactly its saved rows.
-/

namespace AifyComms.AgentState
open Runs

/-! ### Rows as maps -/

def Keyed (rows : Dict String Record) : Prop := ∀ entry ∈ rows.entries, entry.2.agentId = entry.1

theorem keyed_iff (rows : Dict String Record) :
    Keyed rows ↔ ∀ agent row, rows.get? agent = some row → row.agentId = agent := by
  constructor
  · intro keyed agent row found
    exact keyed (agent, row) ((Dict.get?_eq_some_iff rows agent row).mp found)
  · intro keyed entry member
    exact keyed entry.1 entry.2 ((Dict.get?_eq_some_iff rows entry.1 entry.2).mpr member)

theorem updateRows_keyed {rows : Dict String Record} (keyed : Keyed rows) (records : List Record) :
    Keyed (updateRows rows records) := by
  induction records generalizing rows with
  | nil => exact keyed
  | cons record rest ih =>
      apply ih
      rw [keyed_iff] at keyed ⊢
      intro agent row found
      rw [Dict.get?_set] at found
      split at found
      · next same =>
          cases found
          exact same
      · exact keyed agent row found

theorem removeLifetimes_keyed {rows : Dict String Record} (keyed : Keyed rows)
    (removed : List Removed) : Keyed (removeLifetimes rows removed) := by
  induction removed generalizing rows with
  | nil => exact keyed
  | cons gone rest ih =>
      apply ih
      unfold removeLifetime
      split
      · rw [keyed_iff] at keyed ⊢
        intro agent row found
        rw [Dict.get?_erase] at found
        split at found
        · cases found
        · exact keyed agent row found
      · exact keyed

theorem keyed_empty : Keyed Dict.empty := fun _ member => (nomatch member)

theorem byAgent_keyed (rows : List Record) : Keyed (byAgent rows) := updateRows_keyed keyed_empty rows

/-- Two row maps that answer alike. -/
def Same (left right : Dict String Record) : Prop := ∀ agent, left.get? agent = right.get? agent

theorem Same.trans {first second third : Dict String Record} (one : Same first second)
    (two : Same second third) : Same first third := fun agent => (one agent).trans (two agent)

theorem Same.removeLifetimes {left right : Dict String Record} (same : Same left right)
    (removed : List Removed) :
    Same (AgentState.removeLifetimes left removed) (AgentState.removeLifetimes right removed) := by
  induction removed generalizing left right with
  | nil => exact same
  | cons gone rest ih =>
      apply ih
      intro agent
      unfold removeLifetime
      rw [same gone.agentId]
      split
      · rw [Dict.get?_erase, Dict.get?_erase, same agent]
      · exact same agent

theorem Same.updateRows {left right : Dict String Record} (same : Same left right)
    (records : List Record) :
    Same (AgentState.updateRows left records) (AgentState.updateRows right records) :=
  fun agent => Dict.get?_setAll_congr same _ agent

/-- The rows an entry retains are exactly the rows of a map, each agent once. -/
structure Holds (rows : List Record) (saved : Dict String Record) : Prop where
  distinct : (rows.map Record.agentId).Nodup
  same : Same (byAgent rows) saved

theorem holds_values {rows : Dict String Record} (keyed : Keyed rows) : Holds rows.values rows := by
  refine ⟨?_, Dict.get?_rebuild rows Record.agentId keyed⟩
  have ids : rows.values.map Record.agentId = rows.entries.map Prod.fst := by
    rw [Dict.values, List.map_map]
    exact List.map_congr_left keyed
  rw [ids]
  exact rows.distinct

theorem Holds.trans {rows : List Record} {first second : Dict String Record}
    (holds : Holds rows first) (same : Same first second) : Holds rows second :=
  ⟨holds.distinct, holds.same.trans same⟩

theorem holds_nil : Holds [] Dict.empty := ⟨List.nodup_nil, fun _ => rfl⟩

/-- The rows a change leaves, on either side. -/
def changedRows (rows : Dict String Record) (body : Publication) : Dict String Record :=
  updateRows (removeLifetimes rows body.removed) body.agents

theorem holds_changed {rows : List Record} {saved : Dict String Record} (holds : Holds rows saved)
    (body : Publication) :
    Holds (changedRows (byAgent rows) body).values (changedRows saved body) :=
  (holds_values (updateRows_keyed (removeLifetimes_keyed (byAgent_keyed rows) _) _)).trans
    ((holds.same.removeLifetimes _).updateRows _)

theorem holds_published (body : Publication) :
    Holds (publishedRows body).values (publishedRows body) :=
  holds_values (updateRows_keyed keyed_empty _)

/-! ### What the mirror calls leave -/

/-- The entry a mirror call without failures leaves. -/
def idealView (view : View) (body : Publication) (appliedAt : Stamp) : View :=
  if body.kind = .retired then retire view body.key else feed view body appliedAt

theorem idealView_other (view : View) (body : Publication) (appliedAt : Stamp) {key : Key}
    (different : body.key ≠ key) : (idealView view body appliedAt).get? key = view.get? key := by
  unfold idealView
  split
  · rw [retire, Dict.get?_erase, if_neg (Ne.symm different)]
  · unfold feed
    dsimp only
    split <;> exact Dict.get?_set_ne _ _ different

def Incomplete (entry : Option Publisher) : Prop :=
  ∀ publisher, entry = some publisher → publisher.complete = false

theorem incomplete_none : Incomplete none := fun _ absent => (nomatch absent)

theorem invalidate_self_incomplete (view : View) (key : Key) :
    Incomplete ((invalidate view key).get? key) := by
  intro publisher found
  rw [invalidate, Dict.get?_set_self] at found
  cases found
  rfl

theorem invalidate_incomplete {view : View} (key other : Key)
    (incomplete : Incomplete (view.get? other)) : Incomplete ((invalidate view key).get? other) := by
  by_cases same : key = other
  · exact same ▸ invalidate_self_incomplete view key
  · rw [invalidate, Dict.get?_set_ne _ _ same]
    exact incomplete

theorem rebuild_incomplete (quarantined : Bool) (keys : List Key) (fault : Option Nat)
    (other : Key) :
    Incomplete ((rebuild quarantined keys fault).1.mirror.view.get? other) := by
  have fold : ∀ (reached : List Key) (view : View), Incomplete (view.get? other) →
      Incomplete ((reached.foldl invalidate view).get? other) := by
    intro reached
    induction reached with
    | nil => exact fun _ incomplete => incomplete
    | cons key rest ih => exact fun _ incomplete => ih _ (invalidate_incomplete key other incomplete)
  exact fold _ _ incomplete_none

/-- After `invalidate_safe` an entry is incomplete, or is another key's and untouched. -/
theorem invalidateSafe_spec (process : Process) (key : Key) (faults : SafeFaults) (other : Key) :
    Incomplete ((invalidateSafe process key faults).1.mirror.view.get? other) ∨
      (key ≠ other ∧ (invalidateSafe process key faults).1.mirror.view.get? other =
        process.mirror.view.get? other) := by
  unfold invalidateSafe
  split
  · by_cases same : key = other
    · exact .inl (same ▸ invalidate_self_incomplete _ key)
    · exact .inr ⟨same, Dict.get?_set_ne _ _ same⟩
  · exact .inl (rebuild_incomplete _ _ _ other)

theorem feedSafe_spec (process : Process) (body : Publication) (appliedAt : Stamp)
    (faults : Faults) (other : Key) :
    Incomplete ((feedSafe process body appliedAt faults).1.mirror.view.get? other) ∨
      (body.key ≠ other ∧ (feedSafe process body appliedAt faults).1.mirror.view.get? other =
        process.mirror.view.get? other) ∨
      (feedSafe process body appliedAt faults).1.mirror.view =
        feed process.mirror.view body appliedAt := by
  -- Each handler leaves an incomplete entry or the entry it found.
  have handled : ∀ tried : Process, (Incomplete (tried.mirror.view.get? other) ∨
      tried.mirror.view.get? other = process.mirror.view.get? other) →
      Incomplete ((invalidateSafe tried body.key faults.second).1.mirror.view.get? other) ∨
        (body.key ≠ other ∧
          (invalidateSafe tried body.key faults.second).1.mirror.view.get? other =
            process.mirror.view.get? other) := by
    intro tried found
    rcases invalidateSafe_spec tried body.key faults.second other with incomplete | ⟨apart, kept⟩
    · exact .inl incomplete
    · rw [kept]
      rcases found with incomplete | same
      · exact .inl incomplete
      · exact .inr ⟨apart, same⟩
  unfold feedSafe
  by_cases prepared : faults.prepare = true
  · simp only [prepared, if_true]
    have first := invalidateSafe_spec process body.key faults.first other
    split
    · rcases handled _ (first.imp_right And.right) with incomplete | kept
      · exact .inl incomplete
      · exact .inr (.inl kept)
    · rcases first with incomplete | kept
      · exact .inl incomplete
      · exact .inr (.inl kept)
  · by_cases fails : faults.feed = true
    · simp only [prepared, fails, if_true]
      rcases handled process (.inr rfl) with incomplete | kept
      · exact .inl incomplete
      · exact .inr (.inl kept)
    · simp only [prepared, fails]
      exact .inr (.inr rfl)

/-- Whatever fails, each entry ends incomplete or as a call without failures
leaves it, up to its report pair. -/
theorem mirrorStep_spec (process : Process) (body : Publication) (appliedAt : Stamp)
    (faults : Faults) (other : Key) :
    Incomplete ((mirrorStep process body appliedAt faults).1.mirror.view.get? other) ∨
      ((mirrorStep process body appliedAt faults).1.mirror.view.get? other).map Publisher.core =
        ((idealView process.mirror.view body appliedAt).get? other).map Publisher.core := by
  unfold mirrorStep
  by_cases retiring : body.kind = .retired
  · simp only [retiring, if_true, retireKey]
    split
    · right
      simp [idealView, retiring, Process.withView]
    · left
      unfold retireSafe
      split
      · exact incomplete_none
      · exact rebuild_incomplete _ _ _ other
  · simp only [retiring, if_false]
    have fed : Incomplete ((feedSafe process body appliedAt faults).1.mirror.view.get? other) ∨
        (feedSafe process body appliedAt faults).1.mirror.view.get? other =
          (idealView process.mirror.view body appliedAt).get? other := by
      rcases feedSafe_spec process body appliedAt faults other with
        incomplete | ⟨apart, kept⟩ | ideal
      · exact .inl incomplete
      · exact .inr (kept.trans (idealView_other _ _ _ apart).symm)
      · exact .inr (by rw [ideal, idealView, if_neg retiring])
    split
    · exact fed.imp_right (congrArg (Option.map Publisher.core))
    · rcases fed with incomplete | ideal
      · left
        intro publisher found
        have core := renewReport_core (feedSafe process body appliedAt faults).1.mirror.view
          body.key other appliedAt body.reportEveryMs
        simp only [Process.withView] at found
        rw [found] at core
        obtain ⟨old, held, same⟩ := Option.map_eq_some_iff.mp core.symm
        have complete := incomplete old held
        simpa [Publisher.core] using (congrArg Publisher.complete same).symm.trans complete
      · right
        simp only [Process.withView, renewReport_core, ideal]

/-! ### A complete entry -/

/-- One accepted publication on the rows of its publisher, as a specification. -/
def foldBody (rows : Dict String Record) (body : Publication) : Dict String Record :=
  match body.kind with
  | .snapshot => publishedRows body
  | .changes => changedRows rows body
  | .unavailable => rows
  | .retired => Dict.empty

/-- `rows` are the last accepted snapshot, of this generation, with every
publication accepted after it folded in. -/
def SinceSnapshot (accepted : List Publication) (generation : Nat) (rows : Dict String Record) :
    Prop :=
  ∃ before snapshot after, accepted = before ++ snapshot :: after ∧ snapshot.kind = .snapshot ∧
    snapshot.generation = generation ∧
    (∀ body ∈ after, body.kind = .changes ∨ body.kind = .unavailable) ∧
    Same rows (after.foldl foldBody (publishedRows snapshot))

/-- What a complete entry is: not lost, not restored, and its publisher's saved
rows since the last snapshot. -/
structure Faithful (world : World) (key : Key) (publisher : Publisher) : Prop where
  loss : publisher.loss = false
  restored : publisher.restored = false
  saved : Holds publisher.rows (world.tables.rows key)
  current : ∃ cursor generation, world.tables.publishers.get? key = some cursor ∧
    cursor.dataGeneration = some generation ∧ publisher.generation = some generation ∧
    (publisher.unavailable = false → cursor.generation = generation) ∧
    SinceSnapshot (world.accepted key) generation (byAgent publisher.rows)

def CompleteIsFaithful (world : World) : Prop :=
  ∀ key publisher, world.process.mirror.view.get? key = some publisher →
    publisher.complete = true → Faithful world key publisher

/-- An entry that knows nothing is not complete, so a complete one is in the view. -/
theorem CompleteIsFaithful.held {world : World} (holds : CompleteIsFaithful world) (key : Key)
    (complete : ((world.process.mirror.view.get? key).getD noPublisher).complete = true) :
    Faithful world key ((world.process.mirror.view.get? key).getD noPublisher) := by
  cases entry : world.process.mirror.view.get? key with
  | none =>
      rw [entry] at complete
      cases complete
  | some publisher =>
      rw [entry] at complete
      exact holds key publisher entry complete

theorem Faithful.frame {before after : World} {key : Key} {publisher : Publisher}
    (faithful : Faithful before key publisher)
    (cursor : after.tables.publishers.get? key = before.tables.publishers.get? key)
    (rows : after.tables.rows key = before.tables.rows key)
    (accepted : after.accepted key = before.accepted key) : Faithful after key publisher where
  loss := faithful.loss
  restored := faithful.restored
  saved := rows ▸ faithful.saved
  current := by
    rw [cursor, accepted]
    exact faithful.current

theorem Faithful.of_core {world : World} {key : Key} {left right : Publisher}
    (same : left.core = right.core) (faithful : Faithful world key right) :
    Faithful world key left := by
  have transported : Faithful world key left.core := by
    rw [same]
    exact ⟨faithful.loss, faithful.restored, faithful.saved, faithful.current⟩
  exact ⟨transported.loss, transported.restored, transported.saved, transported.current⟩

theorem sinceSnapshot_snoc {accepted : List Publication} {generation : Nat}
    {rows rows' : Dict String Record} {body : Publication}
    (kind : body.kind = .changes ∨ body.kind = .unavailable)
    (since : SinceSnapshot accepted generation rows)
    (folded : ∀ folded, Same rows folded → Same rows' (foldBody folded body)) :
    SinceSnapshot (accepted ++ [body]) generation rows' := by
  obtain ⟨before, snapshot, after, split, isSnapshot, sameGeneration, others, same⟩ := since
  refine ⟨before, snapshot, after ++ [body], by simp [split], isSnapshot, sameGeneration, ?_, ?_⟩
  · intro other member
    rcases List.mem_append.mp member with earlier | last
    · exact others other earlier
    · rw [List.mem_singleton.mp last]
      exact kind
  · rw [List.foldl_append]
    exact folded _ same

/-- A complete entry that an unfailing call leaves is faithful after the accept. -/
theorem accepted_faithful {before after : World} {body : Publication} {digest : String}
    {appliedAt : Stamp} (holds : CompleteIsFaithful before)
    (tables : after.tables = writeTables before.tables body digest appliedAt)
    (applied : after.applied = before.applied ++ [body]) (publisher : Publisher)
    (found : (idealView before.process.mirror.view body appliedAt).get? body.key = some publisher)
    (complete : publisher.complete = true) : Faithful after body.key publisher := by
  have accepted : after.accepted body.key = before.accepted body.key ++ [body] := by
    rw [accepted_append before after body applied, if_pos rfl]
  obtain ⟨cursor, marked, generation, _, _, _, dataGeneration⟩ :=
    writeTables_cursor before.tables body digest appliedAt
  have saved := writeTables_rows before.tables body digest appliedAt
  rw [← tables] at marked saved
  -- A body that is no snapshot completes nothing, so the entry was complete before it.
  have wasComplete := holds.held body.key
  generalize oldEntry : (before.process.mirror.view.get? body.key).getD noPublisher = old at *
  cases kind : body.kind with
  | retired =>
      simp [idealView, kind, retire, Dict.get?_erase] at found
  | unavailable =>
      simp only [idealView, feed, kind, reduceCtorEq, if_false, if_true, Dict.get?_set_self,
        Option.some.injEq] at found
      rw [oldEntry] at found
      subst found
      obtain ⟨loss, restored, kept, previous, number, held, dated, known, _, since⟩ :=
        wasComplete complete
      simp only [kind] at saved
      simp only [kind, if_true, held, Option.bind_some] at dataGeneration
      refine ⟨loss, restored, saved ▸ kept, cursor, number, marked, dataGeneration.trans dated,
        known, (by rintro ⟨⟩), ?_⟩
      rw [accepted]
      exact sinceSnapshot_snoc (.inr kind) since fun folded same => by simpa [foldBody, kind]
  | snapshot =>
      simp only [idealView, feed, kind, reduceCtorEq, if_false, Dict.get?_set_self, true_or,
        if_true, Option.some.injEq] at found
      subst found
      simp only [kind, writtenRows, true_or, if_true] at saved
      simp only [kind, reduceCtorEq, if_false] at dataGeneration
      have kept : Holds (publishedRows body).values (after.tables.rows body.key) := by
        rw [saved]
        exact holds_published body
      exact ⟨rfl, by simp, kept, cursor, body.generation, marked, dataGeneration, rfl,
        fun _ => generation, before.accepted body.key, body, [], accepted, kind, rfl,
        (by rintro _ ⟨⟩),
        (holds_published body).same⟩
  | changes =>
      simp only [idealView, feed, kind, reduceCtorEq, if_false, Dict.get?_set_self, false_or,
        Option.some.injEq] at found
      rw [oldEntry] at found
      subst found
      simp only [decide_eq_true_eq, not_not] at complete
      obtain ⟨sameGeneration, oldComplete⟩ := complete
      obtain ⟨_, _, kept, previous, number, held, dated, known, _, since⟩ :=
        wasComplete oldComplete
      have isNumber : number = body.generation :=
        Option.some.inj (known.symm.trans sameGeneration)
      subst isNumber
      simp only [kind, writtenRows, held, Option.bind_some, dated, ne_eq, not_true_eq_false,
        reduceCtorEq, or_self, if_false] at saved
      simp only [kind, reduceCtorEq, if_false] at dataGeneration
      simp only [sameGeneration, ne_eq, not_true_eq_false, if_false]
      refine ⟨rfl, by simp [oldComplete], saved ▸ holds_changed kept body, cursor, body.generation,
        marked, dataGeneration, rfl, fun _ => generation, ?_⟩
      rw [accepted]
      refine sinceSnapshot_snoc (.inl kind) since fun folded same => ?_
      simp only [foldBody, kind]
      exact (holds_changed ⟨kept.distinct, same⟩ body).same

theorem restoreEntry_incomplete (tables : Tables) (unreadable : Key → Bool) (view : View)
    (entry : Key × Cursor) (key : Key) (publisher : Publisher)
    (found : (restoreEntry tables unreadable view entry).get? key = some publisher) :
    view.get? key = some publisher ∨ publisher.complete = false := by
  have installed : ∀ added : Publisher, added.complete = false →
      (restore view entry.1 added).get? key = some publisher →
      view.get? key = some publisher ∨ publisher.complete = false := by
    intro added incomplete present
    unfold restore at present
    split at present
    · exact .inl present
    · rw [Dict.get?_set] at present
      split at present
      · cases present
        exact .inr incomplete
      · exact .inl present
  unfold restoreEntry at found
  split at found
  · exact .inl found
  · split at found
    · exact installed _ rfl found
    · exact installed _ rfl found

theorem restoreMirror_incomplete (world : World) (tablesFail : Bool) (unreadable : Key → Bool)
    (key : Key) (publisher : Publisher)
    (found : (restoreMirror world tablesFail unreadable).process.mirror.view.get? key =
      some publisher) :
    world.process.mirror.view.get? key = some publisher ∨ publisher.complete = false := by
  have fold : ∀ (entries : List (Key × Cursor)) (view : View),
      (entries.foldl (restoreEntry world.tables unreadable) view).get? key = some publisher →
      view.get? key = some publisher ∨ publisher.complete = false := by
    intro entries
    induction entries with
    | nil => exact fun _ present => .inl present
    | cons entry rest ih =>
        intro view present
        rcases ih _ present with earlier | incomplete
        · exact restoreEntry_incomplete world.tables unreadable view entry key publisher earlier
        · exact .inr incomplete
  unfold restoreMirror at found
  split at found
  · cases found
  · exact fold _ _ found

theorem moved_complete {before after : World} {label : Label} (moved : Moved before after label)
    (holds : CompleteIsFaithful before) : CompleteIsFaithful after := by
  intro key publisher found complete
  cases moved with
  | unchanged same =>
      subst same
      exact holds key publisher found complete
  | restarted _ _ process =>
      rw [process] at found
      cases found
  | @restored tablesFail unreadable same =>
      obtain ⟨tables, applied⟩ := restoreMirror_frame before tablesFail unreadable
      rw [← same] at tables applied
      rw [same] at found
      rcases restoreMirror_incomplete before tablesFail unreadable key publisher found with
        earlier | incomplete
      · exact (holds key publisher earlier complete).frame (by rw [tables]) (by rw [tables])
          (by simp [World.accepted, applied])
      · rw [complete] at incomplete
        cases incomplete
  | @accepted _ digest appliedAt _ faults body _ tables process applied =>
      rw [process] at found
      -- A failed call leaves nothing complete here, so only the unfailing one is left.
      rcases mirrorStep_spec before.process body appliedAt faults key with incomplete | ideal
      · have := incomplete publisher found
        rw [complete] at this
        cases this
      · rw [found] at ideal
        obtain ⟨entry, held, same⟩ := Option.map_eq_some_iff.mp ideal.symm
        have entryComplete : entry.complete = true :=
          (congrArg Publisher.complete same).trans complete
        refine Faithful.of_core same.symm ?_
        by_cases own : body.key = key
        · subst own
          exact accepted_faithful holds tables applied entry held entryComplete
        · rw [idealView_other _ _ _ own] at held
          obtain ⟨cursor, rows⟩ := writeTables_other before.tables body digest appliedAt own
          exact (holds key entry held entryComplete).frame (tables ▸ cursor) (tables ▸ rows)
            (by simp [accepted_append before after body applied, own])

theorem reachable_complete {world : World} {allowed : World → Label → Prop}
    (run : Reaches step allowed World.start world) : CompleteIsFaithful world :=
  run.invariant CompleteIsFaithful (fun _ _ absent => (nomatch absent))
    fun _ _ _ holds _ taken => moved_complete (step_moved taken) holds

theorem fresh_is_complete {publisher : Publisher} {time : Stamp}
    (fresh : availabilityOf publisher time = .fresh) :
    publisher.complete = true ∧ publisher.unavailable = false := by
  unfold availabilityOf at fresh
  split at fresh
  · cases fresh
  split at fresh
  · cases fresh
  split at fresh
  · cases fresh
  split at fresh
  · cases fresh
  next present _ complete =>
    exact ⟨by simpa using complete, by simpa using present⟩

/-- A fresh publisher holds its saved rows, each agent once, and they are the
last snapshot of its current generation with every later change folded in,
whatever failed or restarted before. -/
theorem fresh_publisher_never_wrong (world : World) (run : Reaches step anyStep World.start world)
    (key : Key) (publisher : Publisher) (time : Stamp)
    (found : world.process.mirror.view.get? key = some publisher)
    (fresh : availabilityOf publisher time = .fresh) :
    Holds publisher.rows (world.tables.rows key) ∧
      ∃ cursor, world.tables.publishers.get? key = some cursor ∧
        publisher.generation = some cursor.generation ∧
        SinceSnapshot (world.accepted key) cursor.generation (byAgent publisher.rows) := by
  obtain ⟨complete, present⟩ := fresh_is_complete fresh
  have faithful := reachable_complete run key publisher found complete
  obtain ⟨cursor, generation, marked, _, known, current, since⟩ := faithful.current
  have same := current present
  subst same
  exact ⟨faithful.saved, cursor, marked, known, since⟩

def reportingSnapshot (number : Nat) (agents : List Json) : Json :=
  sampleDocument "snapshot" 1 number
    [("complete", .bool true), ("agents", .arr agents), ("reportEveryMs", .int 1000)]

/-- A change the mirror lost, a restart, then a snapshot and a change. -/
def recoveredRun : List Label :=
  troubledHistory ++ [publishCleanly (reportingSnapshot 3 [sampleAgent "a" "l" false]),
    publishCleanly (sampleDocument "changes" 1 4 [("agents", .arr [sampleAgent "b" "l" true]),
      ("removed", .arr []), ("reportEveryMs", .int 1000)])]

theorem fresh_publisher_never_wrong_recovered :
    ∃ world publisher, Reaches step anyStep World.start world ∧
      world.process.mirror.view.get? ("m", "i") = some publisher ∧
      availabilityOf publisher (some 5) = .fresh ∧
      publisher.rows.map Record.agentId = ["a", "b"] ∧
      Holds publisher.rows (world.tables.rows ("m", "i")) := by
  have executed : (exec step (fun _ _ => true) World.start recoveredRun).map
      (fun world => (world.process.mirror.view.get? ("m", "i")).map fun publisher =>
        (availabilityOf publisher (some 5), publisher.rows.map Record.agentId)) =
      some (some (.fresh, ["a", "b"])) := by
    decide
  obtain ⟨world, run, seen⟩ := reaches_observed _ _ _ _ (fun _ _ _ => trivial) executed
  obtain ⟨publisher, found, observed⟩ := Option.map_eq_some_iff.mp seen
  obtain ⟨fresh, agents⟩ := Prod.mk.inj observed
  exact ⟨world, publisher, run, found, fresh, agents,
    (fresh_publisher_never_wrong world run ("m", "i") publisher (some 5) found fresh).1⟩

/-! ### Runs without failures -/

/-- A publish whose mirror calls all succeed; no restart. -/
def cleanly (_ : World) : Label → Bool
  | .publish _ _ _ _ faults =>
      !faults.prepare && !faults.feed && !faults.first.call && !faults.renew
  | .restart | .restore _ _ => false

def Cleanly (world : World) (label : Label) : Prop := cleanly world label = true

/-- The rows the mirror retains for a key. -/
def mirrorRows (world : World) (key : Key) : List Record :=
  ((world.process.mirror.view.get? key).map Publisher.rows).getD []

/-- The last publication accepted for the key was a retirement. -/
def retiredLast (world : World) (key : Key) : Prop :=
  ∃ last, (world.accepted key).getLast? = some last ∧ last.kind = .retired

theorem mirrorStep_clean (process : Process) (body : Publication) (appliedAt : Stamp)
    (faults : Faults) (prepared : faults.prepare = false) (fed : faults.feed = false)
    (called : faults.first.call = false) (other : Key) :
    ((mirrorStep process body appliedAt faults).1.mirror.view.get? other).map Publisher.core =
      ((idealView process.mirror.view body appliedAt).get? other).map Publisher.core := by
  unfold mirrorStep
  by_cases retiring : body.kind = .retired
  · simp [retiring, retireKey, called, idealView, Process.withView]
  · have feeding : feedSafe process body appliedAt faults =
        (process.withView (feed process.mirror.view body appliedAt), false) := by
      simp [feedSafe, prepared, fed]
    simp only [retiring, if_false, feeding, idealView]
    split
    · rfl
    · simp only [Process.withView, renewReport_core]

/-- One publisher's entry against its cursor and saved rows: an entry stands for
a publisher that is not retired, and the generation it compares with is the
saved one, or neither can match a body that is still accepted. -/
inductive Matches (saved : Dict String Record) : Option Cursor → Option Publisher → Prop where
  | absent (empty : Same Dict.empty saved) : Matches saved none none
  | retired {cursor : Cursor} (kind : cursor.kind = .retired) (empty : Same Dict.empty saved)
      (dated : cursor.dataGeneration = some cursor.generation) :
      Matches saved (some cursor) none
  | held {cursor : Cursor} {publisher : Publisher} (kind : cursor.kind ≠ .retired)
      (rows : Holds publisher.rows saved)
      (generation : publisher.generation = cursor.dataGeneration ∨ publisher.generation = none ∧
        ∀ older, cursor.dataGeneration = some older → older < cursor.generation) :
      Matches saved (some cursor) (some publisher)

/-- Both stores drop their rows for the same change bodies. -/
theorem matches_changed {saved : Dict String Record} {previous : Option Cursor}
    {entry : Option Publisher} {body : Publication} {digest : String}
    (agree : Matches saved previous entry) (accepted : order previous body digest = none)
    (kind : body.kind = .changes) :
    Holds (updateRows (if (entry.getD noPublisher).generation ≠ some body.generation then Dict.empty
        else removeLifetimes (byAgent (entry.getD noPublisher).rows) body.removed)
          body.agents).values
      (writtenRows saved previous body) := by
  have fresh : (entry.getD noPublisher).generation ≠ some body.generation →
      previous.bind Cursor.dataGeneration ≠ some body.generation →
      Holds (updateRows (if (entry.getD noPublisher).generation ≠ some body.generation then
          Dict.empty else removeLifetimes (byAgent (entry.getD noPublisher).rows) body.removed)
            body.agents).values (writtenRows saved previous body) := by
    intro entryDiffers savedDiffers
    rw [if_pos entryDiffers, writtenRows, if_pos (.inr savedDiffers)]
    exact holds_published body
  cases agree with
  | absent empty => exact fresh (by rintro ⟨⟩) (by rintro ⟨⟩)
  | retired retiredKind empty dated =>
      refine fresh (by rintro ⟨⟩) ?_
      rcases order_none accepted with newer | ⟨_, _, _, live⟩
      · simp only [Option.bind_some, dated, ne_eq, Option.some.injEq]
        omega
      · exact absurd retiredKind live
  | @held cursor publisher _ rows generation =>
      rcases generation with same | ⟨unknown, older⟩
      · by_cases differs : publisher.generation ≠ some body.generation
        · refine fresh differs ?_
          rw [Option.bind_some, ← same]
          exact differs
        · have savedSame : ¬ (body.kind = .snapshot ∨
              (some cursor).bind Cursor.dataGeneration ≠ some body.generation) := by
            simpa [kind, ← same] using differs
          rw [writtenRows, if_neg savedSame]
          simp only [Option.getD_some, differs, if_false]
          exact holds_changed rows body
      · refine fresh (by simp [unknown]) ?_
        intro known
        have below := older body.generation known
        rcases order_none accepted with newer | ⟨same, _⟩ <;> omega

theorem matches_accepted {tables : Tables} {view : View} {body : Publication} {digest : String}
    {appliedAt : Stamp}
    (agree : Matches (tables.rows body.key) (tables.publishers.get? body.key)
      (view.get? body.key))
    (accepted : order (tables.publishers.get? body.key) body digest = none) :
    Matches ((writeTables tables body digest appliedAt).rows body.key)
      ((writeTables tables body digest appliedAt).publishers.get? body.key)
      ((idealView view body appliedAt).get? body.key) := by
  obtain ⟨cursor, marked, generation, _, _, sameKind, dataGeneration⟩ :=
    writeTables_cursor tables body digest appliedAt
  rw [marked, writeTables_rows]
  cases kind : body.kind with
  | retired =>
      have gone : (idealView view body appliedAt).get? body.key = none := by
        simp [idealView, kind, retire, Dict.get?_erase]
      rw [gone]
      rw [kind] at sameKind
      simp only [kind, reduceCtorEq, if_false] at dataGeneration
      exact .retired sameKind (fun _ => rfl) (generation ▸ dataGeneration)
  | snapshot =>
      simp only [kind, reduceCtorEq, if_false] at dataGeneration
      simp only [idealView, feed, kind, reduceCtorEq, if_false, Dict.get?_set_self, true_or,
        if_true, writtenRows]
      refine .held (by simp [sameKind, kind]) (holds_published body) (.inl ?_)
      exact dataGeneration.symm
  | changes =>
      simp only [kind, reduceCtorEq, if_false] at dataGeneration
      simp only [idealView, feed, kind, reduceCtorEq, if_false, Dict.get?_set_self, false_or]
      refine .held (by simp [sameKind, kind]) ?_ (.inl ?_)
      · exact matches_changed agree accepted kind
      · exact dataGeneration.symm
  | unavailable =>
      simp only [kind, if_true] at dataGeneration
      simp only [idealView, feed, kind, reduceCtorEq, if_false, if_true, Dict.get?_set_self]
      have live : cursor.kind ≠ .retired := by simp [sameKind, kind]
      generalize tables.publishers.get? body.key = previous at agree accepted dataGeneration
      generalize view.get? body.key = entry at agree
      cases agree with
      | absent empty => exact .held live (holds_nil.trans empty) (.inl dataGeneration.symm)
      | retired retiredKind empty dated =>
          refine .held live (holds_nil.trans empty) (.inr ⟨rfl, ?_⟩)
          intro older known
          rw [dataGeneration, Option.bind_some, dated, Option.some.injEq] at known
          rcases order_none accepted with newer | ⟨_, _, _, notRetired⟩
          · omega
          · exact absurd retiredKind notRetired
      | held _ rows compared =>
          refine .held live rows ?_
          rcases compared with same | ⟨unknown, older⟩
          · exact .inl (same.trans dataGeneration.symm)
          · refine .inr ⟨unknown, ?_⟩
            intro number known
            have below := older number (dataGeneration.symm.trans known)
            rcases order_none accepted with newer | ⟨same, _⟩ <;> omega

theorem Matches.of_core {saved : Dict String Record} {cursor : Option Cursor}
    {left right : Option Publisher} (same : left.map Publisher.core = right.map Publisher.core)
    (agree : Matches saved cursor right) : Matches saved cursor left := by
  cases agree with
  | absent empty =>
      cases left with
      | none => exact .absent empty
      | some publisher => cases same
  | retired kind empty dated =>
      cases left with
      | none => exact .retired kind empty dated
      | some publisher => cases same
  | held kind rows generation =>
      cases left with
      | none => cases same
      | some publisher =>
          have core := Option.some.inj same
          have sameRows := congrArg Publisher.rows core
          have sameGeneration := congrArg Publisher.generation core
          simp only [Publisher.core] at sameRows sameGeneration
          exact .held kind (sameRows ▸ rows) (sameGeneration ▸ generation)

def MirrorMatches (world : World) : Prop :=
  ∀ key, Matches (world.tables.rows key) (world.tables.publishers.get? key)
    (world.process.mirror.view.get? key)

theorem step_matches {before after : World} {label : Label} (holds : MirrorMatches before)
    (clean : Cleanly before label) (taken : step before label = some after) :
    MirrorMatches after := by
  cases step_moved taken with
  | unchanged same => exact same ▸ holds
  | restarted => cases clean
  | restored => cases clean
  | @accepted _ digest appliedAt _ faults body accepted tables process applied =>
      simp only [Cleanly, cleanly, Bool.and_eq_true, Bool.not_eq_true'] at clean
      obtain ⟨⟨⟨prepared, fed⟩, called⟩, _⟩ := clean
      intro key
      have ideal := mirrorStep_clean before.process body appliedAt faults prepared fed called key
      rw [← process] at ideal
      refine Matches.of_core ideal ?_
      rw [tables]
      by_cases own : body.key = key
      · subst own
        exact matches_accepted (holds body.key) accepted
      · rw [idealView_other _ _ _ own,
          (writeTables_other before.tables body digest appliedAt own).1,
          (writeTables_other before.tables body digest appliedAt own).2]
        exact holds key

theorem reachable_matches {world : World} (run : Reaches step Cleanly World.start world) :
    MirrorMatches world :=
  run.invariant MirrorMatches (fun _ => .absent fun _ => rfl)
    fun _ _ _ holds clean taken => step_matches holds clean taken

theorem cursor_of_accepted {world : World} (ordered : Ordered world) (key : Key) :
    (world.tables.publishers.get? key = none ↔ world.accepted key = []) ∧
      ∀ cursor, world.tables.publishers.get? key = some cursor →
        (cursor.kind = .retired ↔ retiredLast world key) := by
  have marked := ordered.marked key
  cases found : world.tables.publishers.get? key with
  | none =>
      rw [found] at marked
      refine ⟨⟨fun _ => marked, fun _ => rfl⟩, ?_⟩
      intro cursor absent
      cases absent
  | some cursor =>
      rw [found] at marked
      obtain ⟨front, last, split, marks⟩ := marked
      refine ⟨by simp [split], ?_⟩
      intro other same
      cases same
      rw [marks.kind]
      simp [retiredLast, split]

/-- After any sequence of publications without a mirror failure or a restart the
mirror's rows of every publisher are its saved rows, and it has no entry exactly
for the publishers never accepted or retired by their last accepted body. -/
theorem mirror_refines_saved_rows (world : World) (run : Reaches step Cleanly World.start world)
    (key : Key) :
    Holds (mirrorRows world key) (world.tables.rows key) ∧
      (world.process.mirror.view.get? key = none ↔
        world.accepted key = [] ∨ retiredLast world key) := by
  have agree := reachable_matches run key
  obtain ⟨absentIff, retiredIff⟩ := cursor_of_accepted (reachable_ordered run) key
  unfold mirrorRows
  generalize world.tables.publishers.get? key = cursor at agree absentIff retiredIff
  generalize world.process.mirror.view.get? key = entry at agree
  cases agree with
  | absent empty =>
      exact ⟨holds_nil.trans empty, fun _ => .inl (absentIff.mp rfl), fun _ => rfl⟩
  | retired kind empty _ =>
      exact ⟨holds_nil.trans empty, fun _ => .inr ((retiredIff _ rfl).mp kind), fun _ => rfl⟩
  | @held cursor publisher kind rows _ =>
      refine ⟨rows, nofun, ?_⟩
      rintro (never | retired)
      · cases absentIff.mpr never
      · exact absurd ((retiredIff cursor rfl).mpr retired) kind

theorem mirror_refines_saved_rows_changed :
    ∃ world, Reaches step Cleanly World.start world ∧
      (mirrorRows world ("m", "i")).map Record.agentId = ["b"] ∧
      Holds (mirrorRows world ("m", "i")) (world.tables.rows ("m", "i")) := by
  have executed : (exec step cleanly World.start ([sampleSnapshot 1 1 [sampleAgent "a" "l" false],
      sampleChanges 1 2 [sampleAgent "b" "l" true]
        [.obj [("agentId", .str "a"), ("lifetime", .str "l")]]].map publishCleanly)).map
      (fun world => (mirrorRows world ("m", "i")).map Record.agentId) = some ["b"] := by
    decide
  obtain ⟨world, run, seen⟩ := reaches_observed _ _ _ _ (fun _ _ granted => granted) executed
  exact ⟨world, run, seen, (mirror_refines_saved_rows world run ("m", "i")).1⟩

/-- An accepted snapshot without agents: no rows, and neither unaccepted, lost
nor retired. -/
theorem accepted_publisher_without_rows :
    ∃ world publisher, Reaches step Cleanly World.start world ∧
      world.process.mirror.view.get? ("m", "i") = some publisher ∧ publisher.rows = [] ∧
      world.accepted ("m", "i") ≠ [] ∧ publisher.loss = false ∧ publisher.unavailable = false ∧
      ¬ retiredLast world ("m", "i") := by
  have executed : (exec step cleanly World.start [publishCleanly (sampleSnapshot 1 1 [])]).map
      (fun world => ((world.process.mirror.view.get? ("m", "i")).map fun publisher =>
        (publisher.rows, publisher.loss, publisher.unavailable),
          (world.accepted ("m", "i")).map Publication.kind)) =
      some (some ([], false, false), [.snapshot]) := by
    decide
  obtain ⟨world, run, seen⟩ := reaches_observed _ _ _ _ (fun _ _ granted => granted) executed
  obtain ⟨entry, kinds⟩ := Prod.mk.inj seen
  obtain ⟨publisher, found, observed⟩ := Option.map_eq_some_iff.mp entry
  simp only [Prod.mk.injEq] at observed
  refine ⟨world, publisher, run, found, observed.1, ?_, observed.2.1, observed.2.2, ?_⟩
  · intro none
    rw [none] at kinds
    cases kinds
  · rintro ⟨last, isLast, retired⟩
    have member := List.mem_map_of_mem (f := Publication.kind) (List.mem_of_getLast? isLast)
    rw [kinds, retired] at member
    simp at member

end AifyComms.AgentState
