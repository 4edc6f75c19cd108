import AifyComms.TerminalRowGeneration
import AifyComms.TerminalStatusOrder

/-!
The numbers of the frames that are broadcast. With every write succeeding, the batches of
a terminal are numbered one after the other from the row's `output_seq` on, and each
becomes one frame under its number.
-/

namespace AifyComms.TerminalWriteQueue
open PyText TerminalOutput Runs

/-- A `terminal_output` frame, as far as the dashboard's console reads it. -/
structure Sent where
  output : String
  seq : Nat
  deriving DecidableEq

def sentFor (terminal : TerminalId) : Event → List Sent
  | .broadcast owner output _ seq => if owner = terminal then [⟨output, seq⟩] else []
  | _ => []

/-- The frames of a terminal that were broadcast. -/
def World.sent (world : World) (terminal : TerminalId) : List Sent :=
  world.log.flatMap (sentFor terminal)

/-! ### Which steps broadcast -/

/-- An event that is no frame and no commit. -/
def Event.silent : Event → Bool
  | .broadcast _ _ _ _ | .committed _ _ => false
  | _ => true

def AllSilent (events : List Event) : Prop := ∀ event ∈ events, event.silent = true

theorem silent_views {events : List Event} (silent : AllSilent events) (terminal : TerminalId) :
    events.flatMap (sentFor terminal) = [] ∧ events.flatMap (committedFor terminal) = [] := by
  rw [List.flatMap_eq_nil_iff, List.flatMap_eq_nil_iff]
  constructor
  · intro event listed
    have spoken := silent event listed
    cases event with
    | broadcast => cases spoken
    | _ => rfl
  · intro event listed
    have spoken := silent event listed
    cases event with
    | committed => cases spoken
    | _ => rfl

theorem storedEvents_silent (terminal : TerminalId) (update : Option RowUpdate) :
    AllSilent (storedEvents terminal update) := by
  intro event listed
  simp only [storedEvents, Option.mem_toList, Option.map_eq_some_iff] at listed
  obtain ⟨_, _, rfl⟩ := listed
  rfl

theorem enqueue_silent (limits : Limits) (queue : Queue) (terminal : TerminalId)
    (output status : String) (baseSeq : Nat) (autoschedule : Bool) :
    AllSilent (enqueue limits queue terminal output status baseSeq autoschedule).2.2 := by
  intro event listed
  unfold enqueue at listed
  dsimp only at listed
  split at listed
  · cases listed
  · simp only [appendEvents, scheduleEvents, List.mem_append, List.mem_map] at listed
    rcases listed with (accepted | ⟨_, _, rfl⟩) | scheduled
    · split at accepted
      · cases accepted
      · rw [List.mem_singleton.mp accepted]
        rfl
    · rfl
    · repeat' split at scheduled
      all_goals simp at scheduled
      all_goals rcases scheduled with rfl | rfl <;> rfl

theorem flushTerminal_silent (queue : Queue) (me : Option TaskId) (terminal : TerminalId) :
    AllSilent (flushTerminal queue me terminal).2 := by
  have popping : AllSilent (flushTerminal.popState me terminal queue).2 := by
    unfold flushTerminal.popState
    split
    · exact nofun
    · intro event listed
      rw [List.mem_singleton.mp listed]
      rfl
  unfold flushTerminal
  split
  · split
    · exact popping
    · exact nofun
  · exact popping

theorem requeueFront_silent (queue : Queue) (terminal : TerminalId) (batches : List Batch) :
    AllSilent (requeueFront queue terminal batches).2 := by
  obtain ⟨removed, events⟩ := requeueFront_events queue terminal batches
  intro event listed
  rw [events] at listed
  obtain ⟨_, _, rfl⟩ := List.mem_map.mp listed
  rfl

/-- The log grows by events that are no frame and no commit. -/
def Silently (before after : World) : Prop :=
  ∃ events, after.log = before.log ++ events ∧ AllSilent events

theorem silently_same {before after : World} (log : after.log = before.log) :
    Silently before after :=
  ⟨[], log.trans (List.append_nil _).symm, nofun⟩

theorem stepTask_silent {before after : World} {label : Label}
    (taken : stepTask before label = some after) : Silently before after := by
  cases label with
  | timerFlush terminal =>
      obtain rfl := Option.some.inj taken
      exact silently_same rfl
  | startFlush id =>
      dsimp only [stepTask] at taken
      split at taken
      · obtain rfl := Option.some.inj taken
        exact ⟨_, rfl, flushTerminal_silent _ _ _⟩
      · cases taken
  | directFlush terminal =>
      obtain rfl := Option.some.inj taken
      exact ⟨_, rfl, flushTerminal_silent _ _ _⟩
  | joinedDone id =>
      dsimp only [stepTask] at taken
      split at taken
      · split at taken
        · cases taken
        · obtain rfl := Option.some.inj taken
          exact silently_same rfl
      · cases taken
  | taskDone id =>
      dsimp only [stepTask] at taken
      split at taken
      · obtain rfl := Option.some.inj taken
        exact silently_same rfl
      · cases taken
  | _ => cases taken

theorem stepCaller_silent {before after : World} {label : Label}
    (taken : stepCaller before label = some after) : Silently before after := by
  cases label with
  | settle terminal held =>
      dsimp only [stepCaller] at taken
      split at taken
      · obtain rfl := Option.some.inj taken
        exact silently_same rfl
      · obtain rfl := Option.some.inj taken
        exact silently_same rfl
  | outside terminal output status ownStatus =>
      dsimp only [stepCaller] at taken
      split at taken
      · obtain rfl := Option.some.inj taken
        exact silently_same rfl
      · cases taken
  | commit =>
      dsimp only [stepCaller] at taken
      split at taken
      · obtain rfl := Option.some.inj taken
        exact ⟨_, rfl, storedEvents_silent _ _⟩
      · cases taken
  | rollback =>
      dsimp only [stepCaller] at taken
      split at taken
      · obtain rfl := Option.some.inj taken
        exact silently_same rfl
      · cases taken
  | _ => cases taken

/-- What the holder does without a frame, where it is no write of a flush. -/
theorem stepHolder_silent {before after : World} {holder : Job} {waiting : List Job}
    {label : Label} (other : ∀ now, label ≠ .write now)
    (taken : stepHolder before holder waiting label = some after) : Silently before after := by
  cases label with
  | skip =>
      dsimp only [stepHolder] at taken
      split at taken
      · split at taken
        · obtain rfl := Option.some.inj taken
          exact silently_same rfl
        · cases taken
      · cases taken
  | select =>
      dsimp only [stepHolder] at taken
      split at taken
      · split at taken
        · cases taken
        · obtain rfl := Option.some.inj taken
          exact silently_same rfl
      · split at taken
        · obtain rfl := Option.some.inj taken
          exact silently_same rfl
        · obtain rfl := Option.some.inj taken
          exact silently_same rfl
      · cases taken
  | write now => exact absurd rfl (other now)
  | raise =>
      dsimp only [stepHolder] at taken
      split at taken
      · split at taken
        · cases taken
        · obtain rfl := Option.some.inj taken
          exact ⟨_, rfl, requeueFront_silent _ _ _⟩
      · obtain rfl := Option.some.inj taken
        exact silently_same rfl
      · obtain rfl := Option.some.inj taken
        exact silently_same rfl
      · cases taken
  | finish =>
      dsimp only [stepHolder] at taken
      split at taken
      · obtain rfl := Option.some.inj taken
        exact silently_same rfl
      · cases taken
  | append now =>
      dsimp only [stepHolder] at taken
      split at taken
      · obtain rfl := Option.some.inj taken
        exact silently_same rfl
      · cases taken
  | _ => cases taken

theorem step_silent {limits : Limits} {before after : World} {label : Label}
    (other : ∀ now, label ≠ .write now) (taken : step limits before label = some after) :
    Silently before after := by
  cases label with
  | enqueue terminal output status baseSeq autoschedule =>
      obtain rfl := Option.some.inj taken
      exact ⟨_, rfl, enqueue_silent limits before.queue terminal output status baseSeq autoschedule⟩
  | timerFlush | startFlush | directFlush | joinedDone | taskDone =>
      dsimp only [step] at taken
      exact stepTask_silent taken
  | write now => exact absurd rfl (other now)
  | skip | select | raise | finish | append =>
      dsimp only [step] at taken
      split at taken
      · cases taken
      · exact stepHolder_silent other taken
  | settle | outside | commit | rollback =>
      dsimp only [step] at taken
      exact stepCaller_silent taken

theorem Silently.sent {before after : World} (silently : Silently before after)
    (terminal : TerminalId) : after.sent terminal = before.sent terminal := by
  obtain ⟨events, log, silent⟩ := silently
  unfold World.sent
  rw [log, List.flatMap_append, (silent_views silent terminal).1, List.append_nil]

theorem Silently.committed {before after : World} (silently : Silently before after)
    (terminal : TerminalId) : after.committed terminal = before.committed terminal := by
  obtain ⟨events, log, silent⟩ := silently
  unfold World.committed
  rw [log, List.flatMap_append, (silent_views silent terminal).2, List.append_nil]

/-! ### What a batch that was posted becomes -/

/-- A batch under a number of its own, with something to tell. -/
def Batch.Fit (batch : Batch) : Prop :=
  batch.seq ≠ 0 ∧ (batch.output.text ≠ "" ∨ normalise batch.status ≠ "")

theorem Batch.Fit.filled {batch : Batch} (fit : batch.Fit) : batch.isEmpty = false := by
  obtain ⟨_, spoken⟩ := fit
  cases empty : batch.isEmpty with
  | false => rfl
  | true =>
      unfold Batch.isEmpty at empty
      rw [Bool.and_eq_true, decide_eq_true_eq, decide_eq_true_eq] at empty
      rw [empty.1, empty.2] at spoken
      rcases spoken with spoken | spoken
      · exact absurd rfl spoken
      · exact absurd (by decide) spoken

/-- What was posted is told: its bytes, a notice that stands for them, or a status. -/
theorem enqueuedState_fit {limits : Limits} {world : World} (conserved : Conserved limits world)
    (terminal : TerminalId) {output status : String} (baseSeq : Nat) (autoschedule : Bool)
    (spoken : output ≠ "" ∨ strip status ≠ "") {state : PendingState}
    (enqueued : (enqueuedState limits world.queue terminal output status baseSeq
      autoschedule).1 = state) :
    (⟨⟨droppedNotice state.dropped, state.chunks⟩, state.status, state.lastSeq⟩ : Batch).Fit := by
  have spec := enqueued_state_spec limits world.queue terminal output status baseSeq autoschedule
    (opened_wellFormed conserved terminal)
  have carried := enqueuedState_status limits world.queue terminal output status baseSeq autoschedule
  rw [enqueued] at spec carried
  constructor
  · rw [spec.lastSeq]
    split
    · exact Nat.succ_ne_zero _
    · assumption
  · by_cases blank : strip status = ""
    · left
      intro none
      have filled : output ≠ "" := spoken.resolve_right (not_not_intro blank)
      have long : output.length ≠ 0 := fun zero => filled (String.length_eq_zero_iff.mp zero)
      have total := congrArg totalChars spec.chunks
      rw [if_neg filled] at total
      simp only [totalChars_append, totalChars_cons, totalChars_nil] at total
      have short := output_length ⟨droppedNotice state.dropped, state.chunks⟩
      rw [none] at short
      have noticed : droppedNotice state.dropped = "" :=
        String.length_eq_zero_iff.mp (by simpa using (Nat.add_eq_zero_iff.mp short.symm).1)
      have kept := (Nat.add_eq_zero_iff.mp short.symm).2
      -- No notice, so the bound has taken nothing, and the post's own bytes are in the batch.
      have undropped : state.dropped = 0 := by
        unfold droppedNotice at noticed
        split at noticed
        · assumption
        · have length := congrArg String.length noticed
          simp at length
      have dropped := spec.dropped
      dsimp only at kept
      omega
    · right
      dsimp only
      rw [carried, later, if_neg blank]
      exact normalise_strip_ne blank

/-! ### Each commit broadcasts its batch -/

/-- The frame a batch becomes. -/
def Batch.frame (batch : Batch) : Sent := ⟨batch.output.text, batch.seq⟩

theorem commitBatch_log (world : World) (row : Row) (now : Nat) (task : Option TaskId)
    (owner : TerminalId) {batch : Batch} (rest : List Batch) (waiting : List Job)
    (fit : batch.Fit) : ∃ update,
      (commitBatch world row now task owner batch rest waiting).log =
        world.log ++ (storedEvents owner update ++
          [Event.broadcast owner batch.output.text (normalise batch.status) batch.seq,
            Event.committed owner batch]) := by
  refine ⟨(appendTerminalOutput world.buffers owner row batch.output.text batch.status
    (some (seqOrRow (some batch.seq) row)) false batch.seq now).2, ?_⟩
  have told : ¬(batch.output.text = "" ∧ normalise batch.status = "") := by
    rintro ⟨mute, plain⟩
    exact fit.2.elim (absurd mute) (absurd plain)
  have own : seqOrRow (some batch.seq) row = batch.seq := if_neg fit.1
  dsimp only [commitBatch, writeTerminalOutput]
  rw [if_neg told, own]
  simp only [List.append_assoc, List.singleton_append]

/-- A settle writes no bytes and no status, so it broadcasts nothing. -/
theorem settle_log (world : World) (row : Row) (now : Nat) (owner : TerminalId)
    (seq : Option Nat) (waiting : List Job) : ∃ update,
      (release (writeTerminalOutput world row owner "" "" seq true 0 now) waiting).log =
        world.log ++ storedEvents owner update := by
  refine ⟨(appendTerminalOutput world.buffers owner row "" "" (some (seqOrRow seq row)) true 0
    now).2, ?_⟩
  have blank : ("" : String) = "" ∧ normalise "" = "" := ⟨rfl, by decide⟩
  dsimp only [release, writeTerminalOutput]
  rw [if_pos blank, List.append_nil]

theorem write_told {limits : Limits} {before after : World} {now : Nat}
    (fit : ∀ terminal, ∀ batch ∈ before.popped terminal, batch.Fit)
    (taken : step limits before (.write now) = some after) (terminal : TerminalId) :
    ∃ batches, after.sent terminal = before.sent terminal ++ batches.map Batch.frame ∧
      after.committed terminal = before.committed terminal ++ batches := by
  dsimp only [step] at taken
  split at taken
  · cases taken
  rename_i holder waiting writers
  dsimp only [stepHolder] at taken
  split at taken
  · rename_i task owner batch rest row _ _
    obtain rfl := Option.some.inj taken
    have ready : batch.Fit := by
      refine fit owner batch ?_
      rw [popped_holder writers, if_pos rfl]
      exact List.mem_append_left _ List.mem_cons_self
    obtain ⟨update, log⟩ := commitBatch_log before row now task owner rest waiting ready
    obtain ⟨unsent, uncommitted⟩ := silent_views (storedEvents_silent owner update) terminal
    refine ⟨if owner = terminal then [batch] else [], ?_, ?_⟩
    · rw [World.sent, log, List.flatMap_append, List.flatMap_append, unsent]
      by_cases same : owner = terminal <;> simp [sentFor, same, World.sent, Batch.frame]
    · rw [World.committed, log, List.flatMap_append, List.flatMap_append, uncommitted]
      by_cases same : owner = terminal <;> simp [committedFor, same, World.committed]
  · rename_i owner row _ _
    obtain rfl := Option.some.inj taken
    obtain ⟨update, log⟩ := settle_log before row now owner
      ((before.buffers owner).bind Tail.seq) waiting
    obtain ⟨unsent, uncommitted⟩ := silent_views (storedEvents_silent owner update) terminal
    refine ⟨[], ?_, ?_⟩
    · rw [World.sent, log, List.flatMap_append, unsent]
      rfl
    · rw [World.committed, log, List.flatMap_append, uncommitted]
      rfl
  · cases taken

/-- One batch after the other is told as it commits. -/
theorem step_told {limits : Limits} {before after : World} {label : Label}
    (fit : ∀ terminal, ∀ batch ∈ before.popped terminal, batch.Fit)
    (taken : step limits before label = some after) (terminal : TerminalId)
    (told : before.sent terminal = (before.committed terminal).map Batch.frame) :
    after.sent terminal = (after.committed terminal).map Batch.frame := by
  by_cases writes : ∃ now, label = .write now
  · obtain ⟨now, rfl⟩ := writes
    obtain ⟨batches, sent, committed⟩ := write_told fit taken terminal
    rw [sent, committed, told, List.map_append]
  · have silently := step_silent (fun now same => writes ⟨now, same⟩) taken
    rw [silently.sent, silently.committed, told]

/-! ### The numbers a row, a tail and a reader can hold -/

theorem record_seq {buffers : Buffers} {terminal : TerminalId} {tail : String}
    {seq : Option Nat} {numbers : List Nat} {now number : Nat} {kept : Tail}
    (holds : (record buffers terminal tail seq numbers now).1 terminal = some kept)
    (numbered : kept.seq = some number) :
    seq = some number ∨ ∃ held, buffers terminal = some held ∧ held.seq = some number := by
  unfold record at holds
  split at holds
  · exact .inr ⟨kept, holds, numbered⟩
  · split at holds
    · dsimp only at holds
      rw [Function.update_self] at holds
      obtain rfl := Option.some.inj holds
      exact .inl numbered
    · rename_i held holding
      have either : seq.or held.seq = some number := by
        split at holds
        · dsimp only at holds
          rw [Function.update_self] at holds
          obtain rfl := Option.some.inj holds
          exact numbered
        · dsimp only at holds
          rw [Function.update_self] at holds
          obtain rfl := Option.some.inj holds
          exact numbered
      cases given : seq with
      | some own =>
          rw [given] at either
          exact .inl either
      | none =>
          rw [given] at either
          exact .inr ⟨held, holding, either⟩

/-- The number a tail is under after an append: the one it was given, or the tail's own. -/
theorem append_seq {buffers : Buffers} {terminal : TerminalId} {row : Row}
    {chunk status : String} {seq : Option Nat} {settle : Bool} {number now found : Nat}
    {kept : Tail}
    (holds : (appendTerminalOutput buffers terminal row chunk status seq settle number now).1
      terminal = some kept) (numbered : kept.seq = some found) :
    seq = some found ∨ ∃ held, buffers terminal = some held ∧ held.seq = some found := by
  unfold appendTerminalOutput at holds
  split at holds
  · exact .inr ⟨kept, holds, numbered⟩
  split at holds
  · exact .inr ⟨kept, holds, numbered⟩
  dsimp only at holds
  generalize trimTerminalOutput (currentTail buffers terminal row.output ++ chunk) = tail at holds
  generalize currentNumbers buffers terminal row.numbers ++ ownNumber number = folded at holds
  split at holds
  · rw [forget, Function.update_self] at holds
    cases holds
  · split at holds
    · rw [markFlushed_self, Option.map_eq_some_iff] at holds
      obtain ⟨recorded, holding, rfl⟩ := holds
      exact record_seq holding numbered
    · exact record_seq holds numbered

/-- An UPDATE writes no number but the one it was given. -/
theorem append_outputSeq {buffers : Buffers} {terminal : TerminalId} {row : Row}
    {chunk status : String} {seq : Option Nat} {settle : Bool} {number now found : Nat}
    {update : RowUpdate}
    (writes : (appendTerminalOutput buffers terminal row chunk status seq settle number now).2 =
      some update) (numbered : update.outputSeq = some found) : seq = some found := by
  unfold appendTerminalOutput at writes
  split at writes
  · cases writes
  split at writes
  · cases writes
  obtain rfl := Option.some.inj writes
  dsimp only at numbered
  split at numbered
  · exact numbered
  · cases numbered

/-- Every number that a row, a tail, a reader or the record of stores holds is known. A
control completion writes no number. -/
structure Bounded (known : TerminalId → Nat → Prop) (world : World) : Prop where
  row : ∀ terminal, known terminal (world.rows terminal).outputSeq
  held : ∀ terminal tail number, world.buffers terminal = some tail → tail.seq = some number →
    known terminal number
  seen : ∀ row, world.seen = some row → ∃ job, world.queue.writers.head? = some job ∧
    job.selects = true ∧ known job.terminal row.outputSeq
  control : ∀ terminal update, world.control = some (.appended terminal (some update)) →
    update.outputSeq = none
  stored : ∀ terminal number, Event.stored terminal number ∈ world.log → known terminal number

theorem Bounded.mono {known further : TerminalId → Nat → Prop} {world : World}
    (bounded : Bounded known world)
    (more : ∀ terminal number, known terminal number → further terminal number) :
    Bounded further world := by
  refine ⟨fun terminal => more _ _ (bounded.row terminal), ?_, ?_, bounded.control, ?_⟩
  · intro terminal tail number holding numbered
    exact more _ _ (bounded.held terminal tail number holding numbered)
  · intro row present
    obtain ⟨job, head, selects, number⟩ := bounded.seen row present
    exact ⟨job, head, selects, more _ _ number⟩
  · intro terminal number listed
    exact more _ _ (bounded.stored terminal number listed)

section Bounds
variable {known : TerminalId → Nat → Prop} {before after : World}

theorem append_bounded (bounded : Bounded known before) {terminal : TerminalId} {row : Row}
    {chunk status : String} {seq : Option Nat} {settle : Bool} {number now : Nat}
    (given : ∀ found, seq = some found → known terminal found) (other : TerminalId) (kept : Tail)
    (found : Nat)
    (holds : (appendTerminalOutput before.buffers terminal row chunk status seq settle number
      now).1 other = some kept) (numbered : kept.seq = some found) : known other found := by
  by_cases same : other = terminal
  · subst same
    rcases append_seq holds numbered with own | ⟨held, holding, own⟩
    · exact given found own
    · exact bounded.held other held found holding own
  · rw [appendTerminalOutput_other _ _ _ _ _ _ _ _ same] at holds
    exact bounded.held other kept found holds numbered

theorem applyUpdate_bounded {rows : TerminalId → Row}
    (bounded : ∀ terminal, known terminal (rows terminal).outputSeq) {terminal : TerminalId}
    {update : Option RowUpdate}
    (given : ∀ columns found, update = some columns → columns.outputSeq = some found →
      known terminal found) (other : TerminalId) :
    known other (applyUpdate rows terminal update other).outputSeq := by
  by_cases same : other = terminal
  · subst same
    cases update with
    | none => exact bounded other
    | some columns =>
        rw [applyUpdate_self, RowUpdate.apply]
        cases writes : columns.outputSeq with
        | none => exact bounded other
        | some found => exact given columns found rfl writes
  · rw [applyUpdate_other _ _ _ _ same]
    exact bounded other

theorem storedEvents_bounded {terminal : TerminalId} {update : Option RowUpdate}
    (given : ∀ columns found, update = some columns → columns.outputSeq = some found →
      known terminal found) {owner : TerminalId} {number : Nat}
    (listed : Event.stored owner number ∈ storedEvents terminal update) : known owner number := by
  simp only [storedEvents, Option.mem_toList, Option.map_eq_some_iff, Option.bind_eq_some_iff]
    at listed
  obtain ⟨found, ⟨columns, written, numbered⟩, same⟩ := listed
  cases same
  exact given columns number written numbered

theorem wrote_bounded (bounded : Bounded known before) {terminal : TerminalId} {row : Row}
    {output status : String} {seq : Option Nat} {settle : Bool} {number now : Nat}
    (wrote : Wrote before after terminal row output status seq settle number now)
    (used : known terminal (seqOrRow seq row)) : Bounded known after := by
  have given : ∀ found, some (seqOrRow seq row) = some found → known terminal found := by
    intro found same
    rw [← Option.some.inj same]
    exact used
  have columns : ∀ columns found,
      (appendTerminalOutput before.buffers terminal row output status (some (seqOrRow seq row))
        settle number now).2 = some columns → columns.outputSeq = some found →
      known terminal found :=
    fun columns found written numbered => given found (append_outputSeq written numbered)
  refine ⟨?_, ?_, ?_, ?_, ?_⟩
  · rw [wrote.rows]
    exact applyUpdate_bounded bounded.row columns
  · rw [wrote.buffers]
    exact append_bounded bounded given
  · intro read present
    rw [wrote.unseen] at present
    cases present
  · intro owner update holding
    rw [wrote.closed] at holding
    cases holding
  · intro owner found listed
    rcases wrote.stored owner found listed with earlier | added
    · exact bounded.stored owner found earlier
    · exact storedEvents_bounded columns added

/-- A settle writes the buffer's number, or the one of the row it read. -/
theorem settle_bounded (bounded : Bounded known before) {terminal : TerminalId}
    {waiting : List Job} {row : Row} (holder : before.queue.writers = .settle terminal :: waiting)
    (seen : before.seen = some row) :
    known terminal (seqOrRow ((before.buffers terminal).bind Tail.seq) row) := by
  have read : known terminal row.outputSeq := by
    obtain ⟨job, head, _, number⟩ := bounded.seen row seen
    rw [holder] at head
    cases head
    exact number
  unfold seqOrRow
  split
  next number given =>
    split
    · exact read
    · obtain ⟨tail, holding, numbered⟩ := Option.bind_eq_some_iff.mp given
      exact bounded.held terminal tail number holding numbered
  · exact read

/-- A step stores no number but a known one, when the batch it writes has a known one. -/
theorem rowMove_bounded {label : Label} (rowMove : RowMove before after label)
    (popped : ∀ terminal, ∀ batch ∈ before.popped terminal, batch.seq ≠ 0 ∧
      known terminal batch.seq) (bounded : Bounded known before) : Bounded known after := by
  cases rowMove with
  | idle rows buffers control seen stored =>
      refine ⟨?_, ?_, ?_, ?_, ?_⟩
      · rw [rows]
        exact bounded.row
      · rw [buffers]
        exact bounded.held
      -- A row that stays read was read for the head of the queue, which then stays too.
      · intro row present
        rcases seen with unseen | ⟨same, sameHead | noReader⟩
        · rw [unseen] at present
          cases present
        · rw [same] at present
          rw [sameHead]
          exact bounded.seen row present
        · rw [same] at present
          obtain ⟨job, head, selects, _⟩ := bounded.seen row present
          rw [noReader job head] at selects
          cases selects
      · intro terminal update holding
        rcases control with same | none
        · rw [same] at holding
          exact bounded.control terminal update holding
        · exact absurd holding (none terminal _)
      · exact fun terminal number listed =>
          bounded.stored terminal number (stored terminal number listed)
  | @selected _ job holder selects writers seen rows buffers control log =>
      refine ⟨?_, ?_, ?_, ?_, ?_⟩
      · rw [rows]
        exact bounded.row
      · rw [buffers]
        exact bounded.held
      · intro row present
        cases seen.symm.trans present
        rw [writers]
        exact ⟨job, holder, selects, bounded.row job.terminal⟩
      · rw [control]
        exact bounded.control
      · rw [log]
        exact bounded.stored
  | @wroteBatch now task terminal batch rest waiting row holder wrote logged =>
      obtain ⟨numbered, own⟩ := popped terminal batch (by
        rw [popped_holder holder, if_pos rfl]
        exact List.mem_append_left _ List.mem_cons_self)
      refine wrote_bounded bounded wrote ?_
      rw [seqOrRow, if_neg numbered]
      exact own
  | @settled now terminal waiting row holder wrote =>
      exact wrote_bounded bounded wrote (settle_bounded bounded holder wrote.seen)
  | appended holder rows seen log buffers control =>
      refine ⟨?_, ?_, ?_, ?_, ?_⟩
      · rw [rows]
        exact bounded.row
      · rw [buffers]
        exact append_bounded bounded fun _ none => by cases none
      · intro row present
        rw [seen] at present
        cases present
      -- A control completion passes no number, so its UPDATE writes none.
      · intro terminal update holding
        rw [control] at holding
        simp only [Option.some.injEq, Control.appended.injEq] at holding
        cases numbered : update.outputSeq with
        | none => rfl
        | some found => cases append_outputSeq holding.2 numbered
      · rw [log]
        exact bounded.stored
  | @committed _ terminal update holding rows buffers closed seen writers log =>
      have columns : ∀ columns found, update = some columns → columns.outputSeq = some found →
          known terminal found := by
        rintro columns found rfl numbered
        rw [bounded.control terminal columns holding] at numbered
        cases numbered
      refine ⟨?_, ?_, ?_, ?_, ?_⟩
      · rw [rows]
        exact applyUpdate_bounded bounded.row columns
      · rw [buffers]
        exact bounded.held
      · rw [seen, writers]
        exact bounded.seen
      · intro owner update present
        rw [closed] at present
        cases present
      · intro owner number listed
        rw [log] at listed
        rcases List.mem_append.mp listed with earlier | added
        · exact bounded.stored owner number earlier
        · exact storedEvents_bounded columns added

end Bounds

/-! ### Every number in its place -/

/-- The steps of posts whose writes all succeed. A post's base is the row's number as its
request read it: the one the run began with, or one stored since. -/
def posts (rows : TerminalId → Row) (world : World) : Label → Bool
  | .enqueue terminal _ _ baseSeq _ =>
      decide (baseSeq = (rows terminal).outputSeq) ||
        decide (Event.stored terminal baseSeq ∈ world.log)
  | .raise => false
  | _ => true

def Posts (rows : TerminalId → Row) (world : World) (label : Label) : Prop :=
  posts rows world label = true

/-- The highest number claimed for a terminal, or the one its row began with. -/
def World.claimed (world : World) (rows : TerminalId → Row) (terminal : TerminalId) : Nat :=
  max (rows terminal).outputSeq (world.queue.seqFloor terminal)

def World.Known (world : World) (rows : TerminalId → Row) (terminal : TerminalId)
    (number : Nat) : Prop :=
  (rows terminal).outputSeq ≤ number ∧ number ≤ world.claimed rows terminal

structure Framed (rows : TerminalId → Row) (world : World) : Prop where
  fit : ∀ terminal, ∀ batch ∈ world.line terminal, batch.Fit
  retry : ∀ terminal state, world.queue.pending.get? terminal = some state → state.retry = []
  told : ∀ terminal, world.sent terminal = (world.committed terminal).map Batch.frame
  numbers : ∀ terminal, numbersOf (world.line terminal) =
    List.range' ((rows terminal).outputSeq + 1)
      (world.claimed rows terminal - (rows terminal).outputSeq)
  bounded : Bounded (world.Known rows) world

section Framing
variable {limits : Limits} {rows : TerminalId → Row} {before after : World}

theorem numbersOf_fit {batches : List Batch} (fit : ∀ batch ∈ batches, batch.Fit) :
    numbersOf batches = batches.map Batch.seq := by
  induction batches with
  | nil => rfl
  | cons batch rest ih =>
      have own : ownNumber batch.seq = [batch.seq] := if_neg (fit batch List.mem_cons_self).1
      have more := ih fun other listed => fit other (List.mem_cons_of_mem _ listed)
      unfold numbersOf at more ⊢
      rw [List.flatMap_cons, own, more]
      rfl

theorem Framed.popped (framed : Framed rows before) (terminal : TerminalId) (batch : Batch)
    (listed : batch ∈ before.popped terminal) :
    batch.Fit ∧ before.Known rows terminal batch.seq := by
  have inLine : batch ∈ before.line terminal :=
    List.mem_append_left _ (List.mem_append_right _ listed)
  have numbered : batch.seq ∈ numbersOf (before.line terminal) := by
    rw [numbersOf_fit (framed.fit terminal)]
    exact List.mem_map_of_mem inLine
  rw [framed.numbers, List.mem_range'_1] at numbered
  refine ⟨framed.fit terminal batch inLine, ?_⟩
  unfold World.Known
  omega

/-- A step that is no post and that does not fail. -/
def Label.passes : Label → Bool
  | .enqueue _ _ _ _ _ | .raise => false
  | _ => true

/-- Such a step moves batches along their lines only. -/
theorem move_line {label : Label} (move : Move limits before after label)
    (passes : label.passes = true)
    (filled : ∀ terminal, ∀ batch ∈ before.popped terminal, batch.isEmpty = false) :
    (∀ terminal, after.line terminal = before.line terminal) ∧
      after.queue.seqFloor = before.queue.seqFloor ∧
      ∀ terminal state, after.queue.pending.get? terminal = some state →
        before.queue.pending.get? terminal = some state := by
  have framed : ∀ {events : List Event}, AllQuiet events →
      after.queue.pending = before.queue.pending → after.log = before.log ++ events →
      (∀ terminal, after.popped terminal = before.popped terminal) →
      ∀ terminal, after.line terminal = before.line terminal := by
    intro events quiet pending log popped terminal
    have committed : after.committed terminal = before.committed terminal := by
      simp [World.committed, log, (quiet_views quiet terminal).2.2.2.2]
    rw [World.line, World.line, committed, popped, pending]
  cases move with
  | enqueued => cases passes
  | popped held leaves =>
      refine ⟨line_popped held leaves, leaves.seqFloor, ?_⟩
      intro terminal state present
      rw [leaves.pending, Dict.get?_erase] at present
      split at present
      · cases present
      · exact present
  | committed quiet holder leaves =>
      refine ⟨line_committed quiet holder leaves, leaves.seqFloor, ?_⟩
      rw [leaves.pending]
      exact fun _ _ present => present
  | @skipped _ task owner batch rest waiting empty holder leaves =>
      have full := filled owner batch (by
        rw [popped_holder holder, if_pos rfl]
        exact List.mem_append_left _ List.mem_cons_self)
      rw [empty] at full
      cases full
  | handedBack => cases passes
  | finished holder leaves =>
      refine ⟨framed allQuiet_nil leaves.pending leaves.log ?_, leaves.seqFloor, ?_⟩
      · intro terminal
        rw [popped_holder holder, World.popped, leaves.writers, ite_self, List.nil_append]
      · rw [leaves.pending]
        exact fun _ _ present => present
  | @joined _ job nobatch leaves =>
      refine ⟨framed allQuiet_nil leaves.pending leaves.log ?_, leaves.seqFloor, ?_⟩
      · intro terminal
        simp [World.popped, leaves.writers, poppedFor_other nobatch]
      · rw [leaves.pending]
        exact fun _ _ present => present
  | @left _ job waiting events quiet nobatch holder leaves =>
      refine ⟨framed quiet leaves.pending leaves.log ?_, leaves.seqFloor, ?_⟩
      · intro terminal
        simp [World.popped, leaves.writers, holder, poppedFor_other nobatch]
      · rw [leaves.pending]
        exact fun _ _ present => present
  | idle quiet leaves =>
      refine ⟨framed quiet leaves.pending leaves.log ?_, leaves.seqFloor, ?_⟩
      · intro terminal
        rw [World.popped, World.popped, leaves.writers]
      · rw [leaves.pending]
        exact fun _ _ present => present

theorem Framed.told_step (framed : Framed rows before) {label : Label}
    (taken : step limits before label = some after) (terminal : TerminalId) :
    after.sent terminal = (after.committed terminal).map Batch.frame :=
  step_told (fun owner batch listed => (framed.popped owner batch listed).1) taken terminal
    (framed.told terminal)

theorem Framed.bounded_step (framed : Framed rows before) {label : Label}
    (taken : step limits before label = some after) : Bounded (before.Known rows) after := by
  refine rowMove_bounded (step_rowMove taken) ?_ framed.bounded
  intro terminal batch listed
  obtain ⟨fit, known⟩ := framed.popped terminal batch listed
  exact ⟨fit.1, known⟩

theorem moved_framed (framed : Framed rows before) {label : Label}
    (passes : label.passes = true) (taken : step limits before label = some after) :
    Framed rows after := by
  obtain ⟨line, floor, pending⟩ := move_line (step_move taken) passes
    fun terminal batch listed => (framed.popped terminal batch listed).1.filled
  have claimed : after.claimed rows = before.claimed rows := by
    funext terminal
    rw [World.claimed, World.claimed, floor]
  refine ⟨?_, ?_, framed.told_step taken, ?_, ?_⟩
  · intro terminal
    rw [line]
    exact framed.fit terminal
  · intro terminal state present
    exact framed.retry terminal state (pending terminal state present)
  · intro terminal
    rw [line, claimed]
    exact framed.numbers terminal
  · have same : after.Known rows = before.Known rows := by
      funext terminal number
      rw [World.Known, World.Known, claimed]
    rw [same]
    exact framed.bounded_step taken

theorem enqueue_floor (limits : Limits) (queue : Queue) {terminal : TerminalId}
    {output status : String} (baseSeq : Nat) (autoschedule : Bool)
    (accepted : ¬(terminal = "" ∨ (output = "" ∧ strip status = ""))) :
    (enqueue limits queue terminal output status baseSeq autoschedule).1.seqFloor =
      if (openedState queue.pending terminal).lastSeq = 0 then
        Function.update queue.seqFloor terminal (max baseSeq (queue.seqFloor terminal) + 1)
      else queue.seqFloor := by
  rw [← claimNumber_floor]
  unfold enqueue
  rw [if_neg accepted]
  rfl

/-- A base that the row has held takes the next number after the highest claimed. -/
theorem claimed_next {world : World} {terminal : TerminalId} {baseSeq : Nat}
    (known : world.Known rows terminal baseSeq) :
    max baseSeq (world.queue.seqFloor terminal) = world.claimed rows terminal := by
  obtain ⟨above, below⟩ := known
  unfold World.claimed at below ⊢
  omega

theorem Framed.unretried (framed : Framed rows before) (terminal : TerminalId) :
    (openedState before.queue.pending terminal).retry = [] := by
  unfold openedState
  cases held : before.queue.pending.get? terminal with
  | none => rfl
  | some state => exact framed.retry terminal state held

/-- A post that is accepted, as the queue has it afterwards. -/
theorem enqueue_grows (conserved : Conserved limits before) {terminal : TerminalId}
    {output status : String} {baseSeq : Nat} {autoschedule : Bool}
    (accepted : ¬(terminal = "" ∨ (output = "" ∧ strip status = "")))
    (taken : step limits before (.enqueue terminal output status baseSeq autoschedule) =
      some after) :
    ∃ state : PendingState, state.retry = (openedState before.queue.pending terminal).retry ∧
      (⟨⟨droppedNotice state.dropped, state.chunks⟩, state.status, state.lastSeq⟩ : Batch).Fit ∧
      after.queue.pending = before.queue.pending.set terminal state ∧
      LineGrows before after terminal (openedState before.queue.pending terminal) state ∧
      state.lastSeq = if (openedState before.queue.pending terminal).lastSeq = 0 then
        max baseSeq (before.queue.seqFloor terminal) + 1
        else (openedState before.queue.pending terminal).lastSeq := by
  obtain ⟨pending, writers, events, quiet, log⟩ := enqueue_accepted limits before.queue baseSeq
    autoschedule accepted
  have spec := enqueued_state_spec limits before.queue terminal output status baseSeq autoschedule
    (opened_wellFormed conserved terminal)
  have spoken : output ≠ "" ∨ strip status ≠ "" := by
    by_cases blank : output = ""
    · exact .inr fun plain => accepted (.inr ⟨blank, plain⟩)
    · exact .inl blank
  have fit := enqueuedState_fit conserved terminal baseSeq autoschedule spoken rfl
  obtain rfl := Option.some.inj taken
  exact ⟨_, spec.retry, fit, pending, enqueued_lineGrows quiet pending writers
    (congrArg (before.log ++ ·) log) spec.retry, spec.lastSeq⟩

theorem enqueued_fit (framed : Framed rows before) {terminal : TerminalId} {state : PendingState}
    (retry : state.retry = []) (pending : after.queue.pending = before.queue.pending.set terminal state)
    (fit : (⟨⟨droppedNotice state.dropped, state.chunks⟩, state.status,
      state.lastSeq⟩ : Batch).Fit)
    (settled : ∀ other, after.committed other ++ after.popped other =
      before.committed other ++ before.popped other) (other : TerminalId) (batch : Batch)
    (listed : batch ∈ after.line other) : batch.Fit := by
  unfold World.line at listed
  rw [settled, pending, retained_set] at listed
  rcases List.mem_append.mp listed with earlier | last
  · exact framed.fit other batch (List.mem_append_left _ earlier)
  · split at last
    · unfold PendingState.batches at last
      rw [retry, List.map_nil, List.nil_append] at last
      rw [List.mem_singleton.mp last]
      exact fit
    · exact framed.fit other batch (List.mem_append_right _ last)

/-- The highest number claimed after a post: the next one, where its batch had none yet. -/
theorem claimed_after {terminal : TerminalId} {baseSeq : Nat} {unclaimed : Prop}
    [Decidable unclaimed] (known : before.Known rows terminal baseSeq)
    (floor : after.queue.seqFloor = if unclaimed then
      Function.update before.queue.seqFloor terminal
        (max baseSeq (before.queue.seqFloor terminal) + 1)
      else before.queue.seqFloor) (other : TerminalId) :
    after.claimed rows other =
      if unclaimed ∧ terminal = other then before.claimed rows other + 1
      else before.claimed rows other := by
  have next := claimed_next known
  unfold World.claimed at next ⊢
  rw [floor]
  by_cases fresh : unclaimed
  · rw [if_pos fresh]
    by_cases same : terminal = other
    · subst same
      rw [if_pos ⟨fresh, rfl⟩, Function.update_self]
      omega
    · rw [if_neg fun both => same both.2, Function.update_of_ne (Ne.symm same)]
  · rw [if_neg fresh, if_neg fun both => fresh both.1]

theorem enqueued_numbers (framed : Framed rows before) {terminal : TerminalId} {baseSeq : Nat}
    {opened state : PendingState} (known : before.Known rows terminal baseSeq)
    (grows : LineGrows before after terminal opened state)
    (lastSeq : state.lastSeq = if opened.lastSeq = 0 then
      max baseSeq (before.queue.seqFloor terminal) + 1 else opened.lastSeq)
    (claimed : ∀ other, after.claimed rows other =
      if opened.lastSeq = 0 ∧ terminal = other then before.claimed rows other + 1
      else before.claimed rows other) (other : TerminalId) :
    numbersOf (after.line other) = List.range' ((rows other).outputSeq + 1)
      (after.claimed rows other - (rows other).outputSeq) := by
  rw [claimed]
  by_cases same : terminal = other
  · subst same
    have numbers := grows.numbers lastSeq
    rw [numbers]
    by_cases fresh : opened.lastSeq = 0
    · rw [if_pos fresh, if_pos ⟨fresh, rfl⟩, framed.numbers, claimed_next known]
      have above : (rows terminal).outputSeq ≤ before.claimed rows terminal := Nat.le_max_left _ _
      rw [Nat.succ_sub above, List.range'_concat]
      congr 2
      omega
    · rw [if_neg fresh, if_neg fun both => fresh both.1]
      exact framed.numbers terminal
  · rw [if_neg fun both => same both.2, grows.others other same]
    exact framed.numbers other

theorem enqueued_framed (conserved : Conserved limits before) (framed : Framed rows before)
    {terminal : TerminalId} {output status : String} {baseSeq : Nat} {autoschedule : Bool}
    (known : before.Known rows terminal baseSeq)
    (accepted : ¬(terminal = "" ∨ (output = "" ∧ strip status = "")))
    (taken : step limits before (.enqueue terminal output status baseSeq autoschedule) =
      some after) : Framed rows after := by
  obtain ⟨state, retry, fit, pending, grows, lastSeq⟩ := enqueue_grows conserved accepted taken
  have silently := step_silent (fun _ same => by cases same) taken
  have floor : after.queue.seqFloor = _ :=
    (congrArg (fun world => world.queue.seqFloor) (Option.some.inj taken)).symm.trans
      (enqueue_floor limits before.queue baseSeq autoschedule accepted)
  have writers : after.queue.writers = _ :=
    (congrArg (fun world => world.queue.writers) (Option.some.inj taken)).symm.trans
      (enqueue_accepted limits before.queue baseSeq autoschedule accepted).2.1
  have claimed := claimed_after known floor
  rw [framed.unretried] at retry
  refine ⟨?_, ?_, framed.told_step taken, enqueued_numbers framed known grows lastSeq claimed, ?_⟩
  · refine enqueued_fit framed retry pending fit ?_
    intro other
    rw [silently.committed, World.popped, World.popped, writers]
  · intro other kept present
    rw [pending, Dict.get?_set] at present
    split at present
    · obtain rfl := Option.some.inj present
      exact retry
    · exact framed.retry other kept present
  · refine (framed.bounded_step taken).mono ?_
    rintro other number ⟨above, below⟩
    refine ⟨above, below.trans ?_⟩
    rw [claimed]
    split <;> omega

theorem step_framed (conserved : Conserved limits before) (framed : Framed rows before)
    {label : Label} (allowed : Posts rows before label)
    (taken : step limits before label = some after) : Framed rows after := by
  cases label with
  | enqueue terminal output status baseSeq autoschedule =>
      by_cases refused : terminal = "" ∨ (output = "" ∧ strip status = "")
      · have same : after = before := by
          have result := Option.some.inj taken
          rw [← result]
          unfold enqueue
          rw [if_pos refused, World.withQueue, List.append_nil]
        rw [same]
        exact framed
      · refine enqueued_framed conserved framed ?_ refused taken
        simp only [Posts, posts, Bool.or_eq_true, decide_eq_true_eq] at allowed
        rcases allowed with began | stored
        · rw [began]
          exact ⟨Nat.le_refl _, Nat.le_max_left _ _⟩
        · exact framed.bounded.stored terminal baseSeq stored
  | raise => cases allowed
  | _ => exact moved_framed framed rfl taken

theorem initial_framed (rows : TerminalId → Row) : Framed rows (initial rows) := by
  have start : (initial rows).claimed rows = fun terminal => (rows terminal).outputSeq := by
    funext terminal
    exact Nat.max_zero _
  refine ⟨nofun, nofun, fun _ => rfl, ?_, ?_⟩
  · intro terminal
    rw [start, Nat.sub_self]
    rfl
  · refine ⟨fun terminal => ⟨Nat.le_refl _, Nat.le_max_left _ _⟩, nofun, nofun, nofun, nofun⟩

theorem reachable_framed {world : World}
    (reached : Reaches (step limits) (Posts rows) (initial rows) world) : Framed rows world := by
  have holds : (Numbered world ∧ Conserved limits world) ∧ Framed rows world := by
    apply reached.invariant fun world =>
      (Numbered world ∧ Conserved limits world) ∧ Framed rows world
    · have started : Reaches (step limits) anyStep (initial rows) (initial rows) := .refl
      exact ⟨reachable_conserved started, initial_framed rows⟩
    · rintro before label after ⟨⟨numbered, conserved⟩, framed⟩ allowed taken
      have move := step_move taken
      exact ⟨⟨move_numbered move numbered, move_conserved move numbered conserved⟩,
        step_framed conserved framed allowed taken⟩
  exact holds.2

theorem reachable_log {allowed : World → Label → Prop}
    (onward : Reaches (step limits) allowed before after) :
    ∃ events, after.log = before.log ++ events := by
  apply onward.invariant fun world => ∃ events, world.log = before.log ++ events
  · exact ⟨[], (List.append_nil _).symm⟩
  · rintro earlier label later ⟨events, log⟩ _ taken
    obtain ⟨more, grown⟩ := move_log (step_move taken)
    exact ⟨events ++ more, by rw [grown, log, List.append_assoc]⟩

/-- The number of the last frame sent for a terminal, or the one its row began with. -/
def World.lastSent (world : World) (rows : TerminalId → Row) (terminal : TerminalId) : Nat :=
  ((world.sent terminal).getLast?.map Sent.seq).getD (rows terminal).outputSeq

/-- The frames of a terminal are numbered one after the other. -/
theorem Framed.sent_numbers {world : World} (framed : Framed rows world) (terminal : TerminalId) :
    (world.sent terminal).map Sent.seq =
      List.range' ((rows terminal).outputSeq + 1) (world.sent terminal).length := by
  have committed : numbersOf (world.committed terminal) = (world.sent terminal).map Sent.seq := by
    rw [framed.told, List.map_map, numbersOf_fit]
    · rfl
    · intro batch listed
      exact framed.fit terminal batch (List.mem_append_left _ (List.mem_append_left _ listed))
  have numbers := framed.numbers terminal
  unfold World.line numbersOf at numbers
  rw [List.flatMap_append, List.flatMap_append, List.append_assoc] at numbers
  obtain ⟨count, _, front, _⟩ := List.range'_eq_append_iff.mp numbers.symm
  unfold numbersOf at committed
  rw [committed] at front
  have counted := congrArg List.length front
  rw [List.length_map, List.length_range'] at counted
  rw [counted]
  exact front

theorem Framed.lastSent_eq {world : World} (framed : Framed rows world) (terminal : TerminalId) :
    world.lastSent rows terminal = (rows terminal).outputSeq + (world.sent terminal).length := by
  have numbers := framed.sent_numbers terminal
  unfold World.lastSent
  rw [← List.getLast?_map, numbers, List.getLast?_range']
  cases count : (world.sent terminal).length with
  | zero => rfl
  | succ length =>
      simp
      omega

end Framing

end AifyComms.TerminalWriteQueue
