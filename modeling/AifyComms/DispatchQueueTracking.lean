import AifyComms.DispatchQueue

/-!
What holds of the queue in every state: runs have ids of their own, a queued
run is the merge of the sends put into it, and no message is in two runs. The
last needs the replay sweep to keep away from messages that are already merged
into a run, which its query does not see.
-/

namespace AifyComms.DispatchQueueTracking
open PyText TextLines DispatchBuffer DispatchQueue Runs

def messageIds (world : World) : List Text := world.messages.map (·.id)

def mergedIds (world : World) : List Text := world.runItems.map (·.1)

structure Tracked (world : World) : Prop where
  runIds : (world.runs.map (·.runId)).Nodup
  bounded : ∀ run ∈ world.runs, run.runId < world.nextRun
  once : ∀ run ∈ world.runs, ∀ other ∈ world.runs, ∀ id,
    run.Carries id → other.Carries id → run.runId = other.runId
  minted : ∀ run ∈ world.runs, ∀ id, run.Carries id → id ∈ world.minted
  built : ∀ run ∈ world.runs, run.status = .queued →
    ∃ first later, run.items = first :: later ∧ mergeSends first later = some run.row
  /-- A run names a message it carries, or the table of merged items does, as
  long as the message is stored. -/
  listed : ∀ run ∈ world.runs, ∀ id, run.Carries id →
    id = run.messageId ∨ id ∈ mergedIds world ∨ id ∉ messageIds world
  stored : ∀ id ∈ messageIds world, id ∈ world.minted ∧ id ≠ []
  storedOnce : (messageIds world).Nodup
  swept : ∀ message ∈ world.sweep, message.id ∈ world.minted ∧ message.id ≠ [] ∧
    ∀ run ∈ world.runs, ¬ run.Carries message.id
  sweptOnce : (world.sweep.map (·.id)).Nodup

theorem tracked_emptyWorld : Tracked emptyWorld := by
  constructor <;> simp [emptyWorld, messageIds]

/-- Rows with distinct ids that share a message are one row. -/
theorem Tracked.run_eq {world : World} (tracked : Tracked world) {run other : Run}
    (inRuns : run ∈ world.runs) (otherInRuns : other ∈ world.runs) {id : Text}
    (here : run.Carries id) (there : other.Carries id) : run = other :=
  List.inj_on_of_nodup_map tracked.runIds inRuns otherInRuns
    (tracked.once run inRuns other otherInRuns id here there)

/-! ### Creating a run -/

variable {world after : World} {send : Send} {target : Text} {steered requireReply allowMerge : Bool}

/-- A run is inserted, or the send is merged into a queued run, or nothing happens. -/
theorem createDispatchRun_cases (world : World) (send : Send) (target : Text)
    (steered requireReply allowMerge : Bool) :
    createDispatchRun world send target steered requireReply allowMerge = world ∨
    (∃ status, createDispatchRun world send target steered requireReply allowMerge =
      insertRun world send target status requireReply) ∨
    ∃ run ∈ world.runs, run.status = .queued ∧ ∃ row, mergeSend run.row send = some row ∧
      createDispatchRun world send target steered requireReply allowMerge =
        mergeIntoRun world run row send requireReply := by
  simp only [createDispatchRun]
  split
  · split
    · exact .inl rfl
    · exact .inr (.inl ⟨_, rfl⟩)
  · split
    · rename_i run found
      have mergeable : findMergeableQueuedRun world target send.fromAgent = some run := by
        split at found
        · exact found
        · exact absurd found (by simp)
      have queued := List.find?_some mergeable
      simp only [decide_eq_true_eq] at queued
      split
      · rename_i row merged
        exact .inr (.inr ⟨run, List.mem_of_find?_eq_some mergeable, queued.2.2, row, merged, rfl⟩)
      · exact .inl rfl
    · exact .inr (.inl ⟨_, rfl⟩)

theorem mem_insertRun {status : RunStatus} {run : Run} :
    run ∈ (insertRun world send target status requireReply).runs ↔
      run ∈ world.runs ∨
        run = ⟨world.nextRun, target, status, requireReply, [], openRun send, [send]⟩ := by
  simp [insertRun]

theorem mem_mergeIntoRun {into run : Run} {row : QueuedRun} :
    run ∈ (mergeIntoRun world into row send requireReply).runs ↔
      ∃ old ∈ world.runs, run = if old.runId = into.runId then
        { old with
          row := row
          requireReply := old.requireReply || requireReply
          items := old.items ++ [send] } else old := by
  simp only [mergeIntoRun, List.mem_map, eq_comm]

theorem carries_single {run : Run} {id : Text} (items : run.items = [send]) :
    run.Carries id ↔ id = send.messageId := by
  simp [Run.Carries, Run.ids, items]

theorem carries_snoc {old run : Run} {id : Text} (items : run.items = old.items ++ [send]) :
    run.Carries id ↔ old.Carries id ∨ id = send.messageId := by
  simp [Run.Carries, Run.ids, items]

theorem mergeSends_snoc {first : Send} {later : List Send} {row next : QueuedRun}
    (merged : mergeSends first later = some row) (step : mergeSend row send = some next) :
    mergeSends first (later ++ [send]) = some next := by
  rw [mergeSends] at merged
  rw [mergeSends, List.foldlM_append, merged]
  simpa using step

theorem mergeSend_opening {row next : QueuedRun} (step : mergeSend row send = some next) :
    next.opening = row.opening := by
  obtain ⟨merged, _, rfl⟩ := Option.map_eq_some_iff.mp step
  rfl

theorem mergeSends_opening {first : Send} {later : List Send} {row : QueuedRun}
    (merged : mergeSends first later = some row) : row.opening = (openRun first).opening := by
  rw [mergeSends] at merged
  generalize openRun first = start at merged ⊢
  induction later generalizing start with
  | nil =>
      cases merged
      rfl
  | cons send later ih =>
      rw [List.foldlM_cons] at merged
      obtain ⟨next, step, rest⟩ := Option.bind_eq_some_iff.mp merged
      exact (ih next rest).trans (mergeSend_opening step)

/-- A message that no run carries yet. -/
structure Unplaced (world : World) (id : Text) : Prop where
  minted : id ∈ world.minted
  some : id ≠ []
  uncarried : ∀ run ∈ world.runs, ¬ run.Carries id
  unswept : id ∉ world.sweep.map (·.id)

theorem Tracked.insert (tracked : Tracked world) (unplaced : Unplaced world send.messageId)
    (status : RunStatus) : Tracked (insertRun world send target status requireReply) := by
  have single {id : Text} : (Run.mk world.nextRun target status requireReply [] (openRun send)
      [send]).Carries id ↔ id = send.messageId := carries_single rfl
  constructor
  case runIds =>
    simp only [insertRun, List.map_append, List.map_cons, List.map_nil]
    refine tracked.runIds.append (List.nodup_singleton _) ?_
    rw [List.disjoint_singleton]
    intro taken
    obtain ⟨run, inRuns, same⟩ := List.mem_map.mp taken
    exact absurd (tracked.bounded run inRuns) (by omega)
  case bounded =>
    intro run inRuns
    obtain old | rfl := mem_insertRun.1 inRuns
    · exact Nat.lt_succ_of_lt (tracked.bounded run old)
    · exact Nat.lt_succ_self _
  case once =>
    intro run inRuns other otherInRuns id here there
    obtain old | rfl := mem_insertRun.1 inRuns
    · obtain otherOld | rfl := mem_insertRun.1 otherInRuns
      · exact tracked.once run old other otherOld id here there
      · exact absurd (single.mp there ▸ here) (unplaced.uncarried run old)
    · obtain otherOld | rfl := mem_insertRun.1 otherInRuns
      · exact absurd (single.mp here ▸ there) (unplaced.uncarried other otherOld)
      · rfl
  case minted =>
    intro run inRuns id here
    obtain old | rfl := mem_insertRun.1 inRuns
    · exact tracked.minted run old id here
    · exact single.mp here ▸ unplaced.minted
  case built =>
    intro run inRuns queued
    obtain old | rfl := mem_insertRun.1 inRuns
    · exact tracked.built run old queued
    · exact ⟨send, [], rfl, rfl⟩
  case listed =>
    intro run inRuns id here
    obtain old | rfl := mem_insertRun.1 inRuns
    · exact tracked.listed run old id here
    · exact .inl (single.mp here)
  case stored => exact tracked.stored
  case storedOnce => exact tracked.storedOnce
  case swept =>
    intro message selected
    obtain ⟨minted, some, uncarried⟩ := tracked.swept message selected
    refine ⟨minted, some, fun run inRuns here => ?_⟩
    obtain old | rfl := mem_insertRun.1 inRuns
    · exact uncarried run old here
    · exact unplaced.unswept (List.mem_map.mpr ⟨message, selected, single.mp here⟩)
  case sweptOnce => exact tracked.sweptOnce

/-- A merge moves no message: its run carries one more and every other is as it was. -/
theorem mergeIntoRun_origin {into run : Run} {row : QueuedRun}
    (inRuns : run ∈ (mergeIntoRun world into row send requireReply).runs) :
    ∃ old ∈ world.runs, run.runId = old.runId ∧ run.status = old.status ∧
      ((old.runId ≠ into.runId ∧ run = old) ∨
        (old.runId = into.runId ∧ run.row = row ∧ run.items = old.items ++ [send])) := by
  obtain ⟨old, inOld, rfl⟩ := mem_mergeIntoRun.1 inRuns
  refine ⟨old, inOld, ?_⟩
  by_cases same : old.runId = into.runId
  · simp [same]
  · simp [same]

theorem mergeIntoRun_carries {into run : Run} {row : QueuedRun} {id : Text}
    (inRuns : run ∈ (mergeIntoRun world into row send requireReply).runs) (here : run.Carries id) :
    ∃ old ∈ world.runs, run.runId = old.runId ∧
      (old.Carries id ∨ old.runId = into.runId ∧ id = send.messageId) := by
  obtain ⟨old, inOld, runId, _, ⟨_, rfl⟩ | ⟨same, _, items⟩⟩ := mergeIntoRun_origin inRuns
  · exact ⟨run, inOld, rfl, .inl here⟩
  · exact ⟨old, inOld, runId, ((carries_snoc items).mp here).imp_right fun own => ⟨same, own⟩⟩

theorem mergeIntoRun_runIds (into : Run) (row : QueuedRun) :
    (mergeIntoRun world into row send requireReply).runs.map (·.runId) =
      world.runs.map (·.runId) := by
  simp only [mergeIntoRun, List.map_map]
  refine List.map_congr_left fun run _ => ?_
  simp only [Function.comp_apply]
  split <;> rfl

/-- The table of merged items gains the message, unless it has it already. -/
theorem mem_mergedIds_mergeIntoRun {into : Run} {row : QueuedRun} {id : Text}
    (some : send.messageId ≠ []) :
    id ∈ mergedIds (mergeIntoRun world into row send requireReply) ↔
      id ∈ mergedIds world ∨ id = send.messageId := by
  simp only [mergedIds, mergeIntoRun, some, false_or]
  split
  · rename_i listed
    refine ⟨.inl, fun inside => ?_⟩
    obtain old | rfl := inside
    · exact old
    · exact listed
  · simp

theorem Tracked.merge (tracked : Tracked world) (unplaced : Unplaced world send.messageId)
    {into : Run} (inRuns : into ∈ world.runs) (queued : into.status = .queued) {row : QueuedRun}
    (merged : mergeSend into.row send = some row) :
    Tracked (mergeIntoRun world into row send requireReply) := by
  have intoOf {old : Run} (inOld : old ∈ world.runs) (same : old.runId = into.runId) : old = into :=
    List.inj_on_of_nodup_map tracked.runIds inOld inRuns same
  have kept {id : Text} (listed : id ∈ mergedIds world) :
      id ∈ mergedIds (mergeIntoRun world into row send requireReply) :=
    (mem_mergedIds_mergeIntoRun unplaced.some).mpr (.inl listed)
  constructor
  case runIds =>
    rw [mergeIntoRun_runIds]
    exact tracked.runIds
  case bounded =>
    intro run inNew
    obtain ⟨old, inOld, runId, _⟩ := mergeIntoRun_origin inNew
    rw [runId]
    exact tracked.bounded old inOld
  case once =>
    intro run inNew other otherInNew id here there
    obtain ⟨old, inOld, runId, own | ⟨atInto, rfl⟩⟩ := mergeIntoRun_carries inNew here
    · obtain ⟨otherOld, otherInOld, otherId, otherOwn | ⟨_, rfl⟩⟩ :=
          mergeIntoRun_carries otherInNew there
      · rw [runId, otherId]
        exact tracked.once old inOld otherOld otherInOld id own otherOwn
      · exact absurd own (unplaced.uncarried old inOld)
    · obtain ⟨otherOld, otherInOld, otherId, otherOwn | ⟨otherInto, _⟩⟩ :=
          mergeIntoRun_carries otherInNew there
      · exact absurd otherOwn (unplaced.uncarried otherOld otherInOld)
      · rw [runId, otherId, atInto, otherInto]
  case minted =>
    intro run inNew id here
    obtain ⟨old, inOld, _, own | ⟨_, rfl⟩⟩ := mergeIntoRun_carries inNew here
    · exact tracked.minted old inOld id own
    · exact unplaced.minted
  case built =>
    intro run inNew stillQueued
    obtain ⟨old, inOld, _, status, ⟨_, rfl⟩ | ⟨same, rowIs, items⟩⟩ := mergeIntoRun_origin inNew
    · exact tracked.built run inOld stillQueued
    · obtain rfl := intoOf inOld same
      obtain ⟨first, later, were, before⟩ := tracked.built old inOld queued
      refine ⟨first, later ++ [send], by rw [items, were]; rfl, ?_⟩
      rw [rowIs]
      exact mergeSends_snoc before merged
  case listed =>
    intro run inNew id here
    obtain ⟨old, inOld, _, _, ⟨_, rfl⟩ | ⟨same, rowIs, items⟩⟩ := mergeIntoRun_origin inNew
    · exact (tracked.listed run inOld id here).imp_right (Or.imp_left kept)
    · obtain rfl := intoOf inOld same
      have opening : run.messageId = old.messageId := by
        rw [Run.messageId, rowIs, mergeSend_opening merged]
        rfl
      obtain own | rfl := (carries_snoc items).mp here
      · rw [opening]
        exact (tracked.listed old inOld id own).imp_right (Or.imp_left kept)
      · exact .inr (.inl ((mem_mergedIds_mergeIntoRun unplaced.some).mpr (.inr rfl)))
  case stored => exact tracked.stored
  case storedOnce => exact tracked.storedOnce
  case swept =>
    intro message selected
    obtain ⟨minted, some, uncarried⟩ := tracked.swept message selected
    refine ⟨minted, some, fun run inNew here => ?_⟩
    obtain ⟨old, inOld, _, own | ⟨_, same⟩⟩ := mergeIntoRun_carries inNew here
    · exact uncarried old inOld own
    · exact unplaced.unswept (List.mem_map.mpr ⟨message, selected, same⟩)
  case sweptOnce => exact tracked.sweptOnce

theorem Tracked.create (tracked : Tracked world) (unplaced : Unplaced world send.messageId) :
    Tracked (createDispatchRun world send target steered requireReply allowMerge) := by
  obtain same | ⟨status, inserted⟩ | ⟨run, inRuns, queued, row, merged, written⟩ :=
    createDispatchRun_cases world send target steered requireReply allowMerge
  · rw [same]
    exact tracked
  · rw [inserted]
    exact tracked.insert unplaced status
  · rw [written]
    exact tracked.merge unplaced inRuns queued merged

theorem createDispatchRun_frame (world : World) (send : Send) (target : Text)
    (steered requireReply allowMerge : Bool) :
    (createDispatchRun world send target steered requireReply allowMerge).messages = world.messages ∧
    (createDispatchRun world send target steered requireReply allowMerge).minted = world.minted ∧
    (createDispatchRun world send target steered requireReply allowMerge).sweep = world.sweep := by
  obtain same | ⟨status, inserted⟩ | ⟨run, _, _, row, _, written⟩ :=
    createDispatchRun_cases world send target steered requireReply allowMerge
  · simp [same]
  · simp [inserted, insertRun]
  · simp [written, mergeIntoRun]

theorem createDispatchRun_carries {run : Run} {id : Text}
    (inRuns : run ∈ (createDispatchRun world send target steered requireReply allowMerge).runs)
    (here : run.Carries id) : id = send.messageId ∨ ∃ old ∈ world.runs, old.Carries id := by
  obtain same | ⟨status, inserted⟩ | ⟨into, _, _, row, _, written⟩ :=
    createDispatchRun_cases world send target steered requireReply allowMerge
  · rw [same] at inRuns
    exact .inr ⟨run, inRuns, here⟩
  · rw [inserted] at inRuns
    obtain old | rfl := mem_insertRun.1 inRuns
    · exact .inr ⟨run, old, here⟩
    · exact .inl ((carries_single rfl).mp here)
  · rw [written] at inRuns
    obtain ⟨old, inOld, _, own | ⟨_, same⟩⟩ := mergeIntoRun_carries inRuns here
    · exact .inr ⟨old, inOld, own⟩
    · exact .inl same

theorem Unplaced.create {id : Text} (unplaced : Unplaced world id) (other : id ≠ send.messageId) :
    Unplaced (createDispatchRun world send target steered requireReply allowMerge) id := by
  obtain ⟨_, minted, sweep⟩ :=
    createDispatchRun_frame world send target steered requireReply allowMerge
  refine ⟨minted ▸ unplaced.minted, unplaced.some, fun run inRuns here => ?_, sweep ▸ unplaced.unswept⟩
  obtain same | ⟨old, inOld, own⟩ := createDispatchRun_carries inRuns here
  · exact other same
  · exact unplaced.uncarried old inOld own

/-- Runs made one after another for messages that no run carries. -/
theorem Tracked.createAll {Job : Type} (jobs : List Job) (sendOf : Job → Send)
    (targetOf : Job → Text) (steeredOf : Job → Bool) (tracked : Tracked world)
    (unplaced : ∀ job ∈ jobs, Unplaced world (sendOf job).messageId)
    (distinct : (jobs.map fun job => (sendOf job).messageId).Nodup) :
    Tracked (jobs.foldl (fun world job =>
      createDispatchRun world (sendOf job) (targetOf job) (steeredOf job) false allowMerge) world) := by
  induction jobs generalizing world with
  | nil => exact tracked
  | cons job jobs ih =>
      rw [List.map_cons, List.nodup_cons] at distinct
      refine ih (tracked.create (unplaced job (by simp))) (fun later inJobs => ?_) distinct.2
      refine (unplaced later (by simp [inJobs])).create fun same => distinct.1 ?_
      exact List.mem_map.mpr ⟨later, inJobs, same⟩

/-! ### The other writes -/

theorem Tracked.store (tracked : Tracked world) {new : List Message}
    (fresh : Fresh world (new.map (·.id))) : Tracked (storeMessages world new) := by
  have unknown {id : Text} (minted : id ∈ world.minted) : id ∉ new.map (·.id) := fun isNew =>
    (fresh.2 id isNew).2 minted
  have messages : messageIds (storeMessages world new) = messageIds world ++ new.map (·.id) := by
    simp [messageIds, storeMessages]
  constructor
  case runIds => exact tracked.runIds
  case bounded => exact tracked.bounded
  case once => exact tracked.once
  case minted =>
    intro run inRuns id here
    exact List.mem_append_left _ (tracked.minted run inRuns id here)
  case built => exact tracked.built
  case listed =>
    intro run inRuns id here
    refine (tracked.listed run inRuns id here).imp_right (Or.imp_right fun missing => ?_)
    rw [messages, List.mem_append, not_or]
    exact ⟨missing, unknown (tracked.minted run inRuns id here)⟩
  case stored =>
    intro id inside
    rw [messages, List.mem_append] at inside
    obtain old | isNew := inside
    · exact ⟨List.mem_append_left _ (tracked.stored id old).1, (tracked.stored id old).2⟩
    · exact ⟨List.mem_append_right _ isNew, (fresh.2 id isNew).1⟩
  case storedOnce =>
    rw [messages]
    refine tracked.storedOnce.append fresh.1 fun id old isNew => ?_
    exact unknown (tracked.stored id old).1 isNew
  case swept =>
    intro message selected
    obtain ⟨minted, some, uncarried⟩ := tracked.swept message selected
    exact ⟨List.mem_append_left _ minted, some, uncarried⟩
  case sweptOnce => exact tracked.sweptOnce

theorem Tracked.unplaced_new (tracked : Tracked world) {new : List Message}
    (fresh : Fresh world (new.map (·.id))) {id : Text} (isNew : id ∈ new.map (·.id)) :
    Unplaced (storeMessages world new) id := by
  obtain ⟨some, unminted⟩ := fresh.2 id isNew
  refine ⟨List.mem_append_right _ isNew, some, fun run inRuns here => ?_, fun selected => ?_⟩
  · exact unminted (tracked.minted run inRuns id here)
  · obtain ⟨message, inSweep, rfl⟩ := List.mem_map.mp selected
    exact unminted (tracked.swept message inSweep).1

/-- Rows are rewritten and messages removed; what is in a run stays there. -/
theorem Tracked.rewrite (tracked : Tracked world) {edit : Run → Run} {messages : List Message}
    {receipts : List (Text × Text)} (fewer : messages.Sublist world.messages)
    (runId : ∀ run, (edit run).runId = run.runId) (items : ∀ run, (edit run).items = run.items)
    (queued : ∀ run, (edit run).status = .queued →
      run.status = .queued ∧ (edit run).row = run.row)
    (named : ∀ run, (edit run).messageId = run.messageId ∨
      run.messageId ∉ messages.map (·.id)) :
    Tracked { world with
      runs := world.runs.map edit, messages := messages, receipts := receipts } := by
  have carries {run : Run} {id : Text} : (edit run).Carries id ↔ run.Carries id := by
    simp [Run.Carries, Run.ids, items]
  have kept {id : Text} (inside : id ∈ messages.map (·.id)) : id ∈ messageIds world :=
    (fewer.map _).subset inside
  constructor
  case runIds =>
    simpa [Function.comp_def, runId] using tracked.runIds
  case bounded =>
    intro run inRuns
    obtain ⟨old, inOld, rfl⟩ := List.mem_map.mp inRuns
    rw [runId]
    exact tracked.bounded old inOld
  case once =>
    intro run inRuns other otherInRuns id here there
    obtain ⟨old, inOld, rfl⟩ := List.mem_map.mp inRuns
    obtain ⟨otherOld, otherInOld, rfl⟩ := List.mem_map.mp otherInRuns
    rw [runId, runId]
    exact tracked.once old inOld otherOld otherInOld id (carries.mp here) (carries.mp there)
  case minted =>
    intro run inRuns id here
    obtain ⟨old, inOld, rfl⟩ := List.mem_map.mp inRuns
    exact tracked.minted old inOld id (carries.mp here)
  case built =>
    intro run inRuns stillQueued
    obtain ⟨old, inOld, rfl⟩ := List.mem_map.mp inRuns
    obtain ⟨wasQueued, row⟩ := queued old stillQueued
    rw [items, row]
    exact tracked.built old inOld wasQueued
  case listed =>
    intro run inRuns id here
    obtain ⟨old, inOld, rfl⟩ := List.mem_map.mp inRuns
    obtain own | merged | missing := tracked.listed old inOld id (carries.mp here)
    · obtain same | gone := named old
      · exact .inl (own.trans same.symm)
      · exact .inr (.inr (own ▸ gone))
    · exact .inr (.inl merged)
    · exact .inr (.inr fun inside => missing (kept inside))
  case stored => exact fun id inside => tracked.stored id (kept inside)
  case storedOnce => exact tracked.storedOnce.sublist (fewer.map _)
  case swept =>
    intro message selected
    obtain ⟨minted, some, uncarried⟩ := tracked.swept message selected
    refine ⟨minted, some, fun run inRuns here => ?_⟩
    obtain ⟨old, inOld, rfl⟩ := List.mem_map.mp inRuns
    exact uncarried old inOld (carries.mp here)
  case sweptOnce => exact tracked.sweptOnce

/-! ### One step -/

theorem Tracked.sendMessage (tracked : Tracked world) {trigger : Bool} {route : Route}
    {timestamp : Nat} (fresh : Fresh world [send.messageId]) :
    Tracked (sendMessage world send target trigger requireReply route timestamp) := by
  have freshIds : Fresh world ([directMessage send target trigger timestamp].map (·.id)) := fresh
  have stored := tracked.store freshIds
  simp only [DispatchQueue.sendMessage]
  split
  · exact stored.create (tracked.unplaced_new freshIds (List.mem_singleton_self _))
  · exact stored

theorem launched_sublist (post : ChannelPost) (world : World) :
    (post.launched world).Sublist (post.recipients world) := by
  simp only [ChannelPost.launched]
  split
  · exact List.filter_sublist
  · exact List.nil_sublist _

theorem Tracked.sendChannelMessage (tracked : Tracked world) {post : ChannelPost}
    (fresh : Fresh world ((post.messages world).map (·.id))) :
    Tracked (sendChannelMessage world post) := by
  have ids : (post.messages world).map (·.id) = post.send.messageId ::
      (post.recipients world).map fun member => (copyFor post.send member).messageId := by
    simp only [ChannelPost.messages, List.map_cons, List.map_map]
    rfl
  refine (tracked.store fresh).createAll (post.launched world) (copyFor post.send) (·.name)
    (·.route.steered) ?_ ?_
  · intro member launched
    refine tracked.unplaced_new fresh ?_
    rw [ids]
    refine List.mem_cons_of_mem _ (List.mem_map.mpr ⟨member, ?_, rfl⟩)
    exact (launched_sublist post world).subset launched
  · have distinct := fresh.1
    rw [ids] at distinct
    exact (List.nodup_cons.mp distinct).2.sublist ((launched_sublist post world).map _)

theorem Tracked.claimRun (tracked : Tracked world) (runId : Nat) :
    Tracked (claimRun world runId) := by
  refine tracked.rewrite (List.Sublist.refl _) ?_ ?_ ?_ ?_
  · intro run
    simp only [Run.claim]
    split <;> rfl
  · intro run
    simp only [Run.claim]
    split <;> rfl
  · intro run queued
    simp only [Run.claim] at queued ⊢
    split at queued
    · cases queued
    · rename_i other
      exact ⟨queued, by rw [if_neg other]⟩
  · intro run
    refine .inl ?_
    simp only [Run.claim]
    split <;> rfl

theorem Tracked.settleRun (tracked : Tracked world) (runId : Nat) {status : RunStatus}
    (left : status ≠ .queued) (resultMessageId : Text) :
    Tracked (settleRun world runId status resultMessageId) := by
  refine tracked.rewrite (List.Sublist.refl _) ?_ ?_ ?_ ?_
  · intro run
    split <;> rfl
  · intro run
    split <;> rfl
  · intro run queued
    split at queued
    · exact absurd queued left
    · rename_i other
      exact ⟨queued, by rw [if_neg other]⟩
  · intro run
    refine .inl ?_
    split <;> rfl

theorem takeBack_spec (ids : List Text) (run : Run) :
    (run.takeBack ids).runId = run.runId ∧ (run.takeBack ids).items = run.items ∧
      (run.takeBack ids).row = run.row ∧
      ((run.takeBack ids).status = .queued ↔ run.status = .queued ∧ run.messageId ∉ ids) := by
  simp only [Run.takeBack]
  split
  · rename_i cancelled
    simp [cancelled.2]
  · rename_i kept
    split
    · rename_i withdrawn
      simp [withdrawn.2.1]
    · simp only [true_and]
      constructor
      · intro queued
        exact ⟨queued, fun inside => kept ⟨queued, inside⟩⟩
      · exact And.left

theorem forget_messageId (ids : List Text) (run : Run) :
    (run.messageId ∈ ids ∧ (run.forget ids).messageId = []) ∨
      (run.messageId ∉ ids ∧ (run.forget ids).row = run.row) := by
  by_cases inside : run.row.opening.messageId ∈ ids
  · exact .inl ⟨inside, by simp [Run.forget, Run.messageId, forgetId, inside]⟩
  · exact .inr ⟨inside, by simp [Run.forget, forgetId, inside]⟩

theorem Tracked.removeMessages (tracked : Tracked world) (ids : List Text) :
    Tracked (removeMessages world ids) := by
  refine tracked.rewrite List.filter_sublist ?_ ?_ ?_ ?_
  · exact fun run => (takeBack_spec ids run).1
  · exact fun run => (takeBack_spec ids run).2.1
  · intro run queued
    obtain ⟨_, _, row, status⟩ := takeBack_spec ids run
    obtain ⟨wasQueued, kept⟩ := status.mp queued
    have sameId : (run.takeBack ids).messageId = run.messageId := by rw [Run.messageId, row]; rfl
    obtain ⟨inside, _⟩ | ⟨_, unchanged⟩ := forget_messageId ids (run.takeBack ids)
    · exact absurd (sameId ▸ inside) kept
    · exact ⟨wasQueued, unchanged.trans row⟩
  · intro run
    obtain ⟨_, _, row, _⟩ := takeBack_spec ids run
    have sameId : (run.takeBack ids).messageId = run.messageId := by rw [Run.messageId, row]; rfl
    obtain ⟨inside, _⟩ | ⟨_, unchanged⟩ := forget_messageId ids (run.takeBack ids)
    · refine .inr fun listed => ?_
      obtain ⟨message, kept, same⟩ := List.mem_map.mp listed
      have outside := (List.mem_filter.mp kept).2
      simp only [decide_not, Bool.not_eq_true', decide_eq_false_iff_not] at outside
      exact outside (same ▸ sameId ▸ inside)
    · refine .inl ?_
      rw [Run.messageId, unchanged]
      exact sameId

/-- An unsend that succeeds removes the message it names, with its copies. -/
theorem unsendMessage_ok {id requestedBy : Text} {mayOverride : Bool}
    (unsent : unsendMessage world id requestedBy mayOverride = .ok after) :
    ∃ message, messageOf world id = some message ∧
      after = DispatchQueue.removeMessages world (unsendIds world message) := by
  simp only [unsendMessage] at unsent
  split at unsent
  · cases unsent
  · split at unsent
    · cases unsent
    · rename_i message found
      refine ⟨message, found, ?_⟩
      split at unsent
      · cases unsent
      · split at unsent
        · split at unsent
          · split at unsent
            · cases unsent
            · split at unsent
              · cases unsent
              · exact (Except.ok.inj unsent).symm
          · cases unsent
        · exact (Except.ok.inj unsent).symm

theorem mem_undeliveredMessages {cutoff limit : Nat} {message : Message}
    (selected : message ∈ undeliveredMessages world cutoff limit) :
    message ∈ world.messages ∧ undelivered world cutoff message = true := by
  have sorted := List.mem_of_mem_take selected
  exact List.mem_filter.mp ((List.perm_insertionSort _ _).mem_iff.mp sorted)

theorem undeliveredMessages_nodup (tracked : Tracked world) (cutoff limit : Nat) :
    ((undeliveredMessages world cutoff limit).map (·.id)).Nodup := by
  have filtered : ((world.messages.filter (undelivered world cutoff)).map (·.id)).Nodup :=
    tracked.storedOnce.sublist (List.filter_sublist.map _)
  have sorted := ((List.perm_insertionSort (fun left right => left.timestamp ≤ right.timestamp)
    (world.messages.filter (undelivered world cutoff))).map (·.id)).nodup_iff.mpr filtered
  exact sorted.sublist ((List.take_sublist _ _).map _)

/-- No run holds a selected copy that was not merged into one. -/
theorem Tracked.select (tracked : Tracked world) {cutoff limit : Nat}
    (unmerged : ∀ message ∈ undeliveredMessages world cutoff limit,
      message.id ∉ mergedIds world) :
    Tracked { world with sweep := undeliveredMessages world cutoff limit } := by
  constructor
  case swept =>
    intro message selected
    obtain ⟨inMessages, due⟩ := mem_undeliveredMessages selected
    have inIds : message.id ∈ messageIds world := List.mem_map.mpr ⟨message, inMessages, rfl⟩
    obtain ⟨minted, some⟩ := tracked.stored _ inIds
    refine ⟨minted, some, fun run inRuns here => ?_⟩
    simp only [undelivered, decide_eq_true_eq] at due
    obtain own | merged | missing := tracked.listed run inRuns _ here
    · exact due.2.2.2.2.2.2 run inRuns own.symm
    · exact unmerged message selected merged
    · exact missing inIds
  case sweptOnce => exact undeliveredMessages_nodup tracked cutoff limit
  case runIds => exact tracked.runIds
  case bounded => exact tracked.bounded
  case once => exact tracked.once
  case minted => exact tracked.minted
  case built => exact tracked.built
  case listed => exact tracked.listed
  case stored => exact tracked.stored
  case storedOnce => exact tracked.storedOnce

theorem Tracked.replay (tracked : Tracked world) (available : Text → Bool) (requestedAt : Text)
    (stamp : newline ∉ requestedAt) :
    Tracked (replaySelected world available requestedAt stamp) := by
  have idle : Tracked { world with sweep := [] } :=
    { tracked with swept := by simp, sweptOnce := List.nodup_nil }
  refine idle.createAll _ (replaySend · requestedAt stamp) (·.toAgent) (fun _ => false) ?_ ?_
  · intro message replayed
    obtain ⟨minted, some, uncarried⟩ := tracked.swept message (List.mem_filter.mp replayed).1
    exact ⟨minted, some, uncarried, by simp⟩
  · exact tracked.sweptOnce.sublist (List.filter_sublist.map _)

/-- A sweep that selects no copy already merged into a run. -/
def SweepsUnmerged (world : World) : Label → Prop
  | .select cutoff limit =>
      ∀ message ∈ undeliveredMessages world cutoff limit, message.id ∉ mergedIds world
  | _ => True

theorem step_tracked {label : Label} (tracked : Tracked world) (allowed : SweepsUnmerged world label)
    (taken : step world label = some after) : Tracked after := by
  cases label with
  | send send target trigger requireReply route timestamp =>
      simp only [step, Option.ite_none_right_eq_some, Option.some.injEq] at taken
      obtain ⟨fresh, rfl⟩ := taken
      exact tracked.sendMessage fresh
  | channelSend post =>
      simp only [step] at taken
      split at taken
      · cases taken
        exact tracked
      · simp only [Option.ite_none_right_eq_some, Option.some.injEq] at taken
        obtain ⟨fresh, rfl⟩ := taken
        exact tracked.sendChannelMessage fresh
  | claim runId =>
      cases taken
      exact tracked.claimRun runId
  | settle runId status resultMessageId =>
      simp only [step, Option.ite_none_left_eq_some, Option.some.injEq] at taken
      obtain ⟨left, rfl⟩ := taken
      exact tracked.settleRun runId left resultMessageId
  | unsend id actor mayOverride =>
      simp only [step] at taken
      split at taken
      · rename_i removed unsent
        cases taken
        obtain ⟨message, _, rfl⟩ := unsendMessage_ok unsent
        exact tracked.removeMessages _
      · cases taken
        exact tracked
  | select cutoff limit =>
      simp only [step, Option.ite_none_right_eq_some, Option.some.injEq] at taken
      obtain ⟨_, rfl⟩ := taken
      exact tracked.select allowed
  | replay available requestedAt stamp =>
      cases taken
      exact tracked.replay available requestedAt stamp

theorem reaches_tracked (run : Reaches step SweepsUnmerged emptyWorld world) : Tracked world :=
  run.invariant Tracked tracked_emptyWorld fun _ _ _ tracked allowed taken =>
    step_tracked tracked allowed taken

end AifyComms.DispatchQueueTracking
