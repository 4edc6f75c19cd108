import AifyComms.DispatchRunUpdate
import AifyComms.PyText
import Mathlib.Data.List.Basic
import Mathlib.Data.List.Count
import Mathlib.Data.List.Dedup
import Mathlib.Data.List.Nodup
import Mathlib.Data.List.Sort

/-!
Message rotation: `rotate_messages` of `reconcilers/message_rotation.py` and the deletion it
calls, `_delete_messages_where` and `_delete_messages_by_ids` of `api_core/message_store.py`.

Rotation reads and writes one transaction, so a call is a function of the tables. The foreign
keys of the schema clear nothing that the deletion has not cleared before. A NULL column is
`none`.
-/

namespace AifyComms.MessageRotation
open PyText DispatchRunUpdate

/-! ### The tables -/

/-- The columns of a message that rotation selects on. -/
structure Header where
  id : String
  toAgent : Option String
  timestamp : Int
  deriving DecidableEq

structure Message where
  header : Header
  inReplyTo : Option String
  deriving DecidableEq

structure Receipt where
  messageId : String
  agentId : String
  deriving DecidableEq

structure Run where
  id : String
  messageId : Option String
  inReplyTo : Option String
  resultMessageId : Option String
  handoffMessageId : Option String
  status : String
  deriving DecidableEq

/-- A row of `dispatch_run_items`: a message merged into a run that another one opened. -/
structure Item where
  messageId : String
  runId : String
  deriving DecidableEq

structure Control where
  id : String
  sourceMessageId : Option String
  deriving DecidableEq

structure Tables where
  messages : List Message
  receipts : List Receipt
  runs : List Run
  items : List Item
  controls : List Control

def Tables.headers (tables : Tables) : List Header := tables.messages.map Message.header

/-- Message ids are a primary key, and the service mints every one of them. -/
structure Store extends Tables where
  distinct : (toTables.headers.map Header.id).Nodup
  minted : ∀ header ∈ toTables.headers, strip header.id = header.id ∧ header.id ≠ ""

/-! ### Deleting messages -/

def unlink (chunk : List String) (link : Option String) : Option String :=
  link.filter (· ∉ chunk)

def Message.unlink (chunk : List String) (message : Message) : Message :=
  { message with inReplyTo := MessageRotation.unlink chunk message.inReplyTo }

def Run.unlink (chunk : List String) (run : Run) : Run :=
  { run with
    messageId := MessageRotation.unlink chunk run.messageId
    inReplyTo := MessageRotation.unlink chunk run.inReplyTo
    resultMessageId := MessageRotation.unlink chunk run.resultMessageId }

def Control.unlink (chunk : List String) (control : Control) : Control :=
  if control.sourceMessageId.any (· ∈ chunk) then { control with sourceMessageId := some "" }
  else control

/-- The statements of one pass through the loop of `_delete_messages_by_ids`. -/
def deleteChunk (chunk : List String) (tables : Tables) : Tables :=
  { messages := (tables.messages.map (Message.unlink chunk)).filter (·.header.id ∉ chunk)
    receipts := tables.receipts.filter (·.messageId ∉ chunk)
    runs := tables.runs.map (Run.unlink chunk)
    items := tables.items
    controls := tables.controls.map (Control.unlink chunk) }

/-- The loop: its chunks, and the rows deleted so far. -/
def deleteChunks (size : Nat) : Nat → List String → Tables × Nat → Tables × Nat
  | 0, _, done => done
  | fuel + 1, pending, done =>
      if pending = [] then done
      else deleteChunks size fuel (pending.drop size)
        (deleteChunk (pending.take size) done.1,
          done.2 + done.1.headers.countP (·.id ∈ pending.take size))

/-- `_delete_messages_by_ids`. -/
def deleteMessagesByIds (tables : Tables) (messageIds : List String) : Tables × Nat :=
  let pending := ((messageIds.map strip).filter (· ≠ "")).eraseDups
  deleteChunks 250 pending.length pending (tables, 0)

/-- `_select_message_ids`. -/
def selectMessageIds (tables : Tables) (clause : Header → Bool) : List String :=
  ((tables.headers.filter clause).map Header.id).filter (strip · ≠ "")

/-- `_delete_messages_where`. -/
def deleteMessagesWhere (tables : Tables) (clause : Header → Bool) : Tables × Nat :=
  deleteMessagesByIds tables (selectMessageIds tables clause)

/-! ### Rotation -/

/-- `RotationPolicy`: 0 means that limit is off. -/
structure RotationPolicy where
  retentionDays : Nat
  capPerAgent : Nat

def dayMs : Int := 86400000

def Run.isOpen (run : Run) : Bool := decide (run.status ∉ terminalStatuses)

/-- `_OPEN_RUN_MESSAGE_IDS`: what an open run points at. -/
def pointed (tables : Tables) (id : String) : Bool :=
  decide (id ≠ "") && tables.runs.any fun run =>
    run.isOpen && (decide (run.messageId = some id) || decide (run.resultMessageId = some id))

/-- `ORDER BY timestamp ASC`. Rows of one timestamp come in an order of the database's own. -/
structure AgeOrder where
  rows : List Header → List Header
  perm : ∀ headers, (rows headers).Perm headers
  sorted : ∀ headers, (rows headers).Pairwise (·.timestamp ≤ ·.timestamp)

def ofAgent (headers : List Header) (agentId : String) : List Header :=
  headers.filter (·.toAgent = some agentId)

/-- `GROUP BY to_agent HAVING COUNT(*) > cap`. -/
def overCap (cap : Nat) (headers : List Header) : List (String × Nat) :=
  (((headers.filterMap Header.toAgent).filter (· ≠ "")).dedup.map fun agentId =>
    (agentId, (ofAgent headers agentId).length)).filter (cap < ·.2)

def expired (policy : RotationPolicy) (nowMs : Int) (header : Header) : Bool :=
  decide (0 < policy.retentionDays) &&
    decide (header.timestamp < nowMs - policy.retentionDays * dayMs)

def expireClause (policy : RotationPolicy) (nowMs : Int) (tables : Tables)
    (header : Header) : Bool :=
  expired policy nowMs header && !pointed tables header.id

/-- `SELECT id FROM messages WHERE to_agent = ? ORDER BY timestamp ASC LIMIT ?`. -/
def oldest (order : AgeOrder) (headers : List Header) (agentId : String) (limit : Nat) :
    List String :=
  ((order.rows (ofAgent headers agentId)).take limit).map Header.id

def trimClause (order : AgeOrder) (tables : Tables) (agentId : String) (limit : Nat)
    (header : Header) : Bool :=
  decide (header.id ∈ oldest order tables.headers agentId limit) && !pointed tables header.id

def trimEach (order : AgeOrder) (cap : Nat) :
    List (String × Nat) → Tables × Nat → Tables × Nat
  | [], done => done
  | (agentId, count) :: rest, done =>
      let trimmed := deleteMessagesWhere done.1 (trimClause order done.1 agentId (count - cap))
      trimEach order cap rest (trimmed.1, done.2 + trimmed.2)

structure Rotated where
  tables : Tables
  expiredMessages : Nat
  trimmedMessages : Nat

/-- `rotate_messages`. -/
def rotateMessages (order : AgeOrder) (policy : RotationPolicy) (nowMs : Int)
    (tables : Tables) : Rotated :=
  let expiry := if 0 < policy.retentionDays then
      deleteMessagesWhere tables (expireClause policy nowMs tables)
    else (tables, 0)
  let trimmed := if 0 < policy.capPerAgent then
      trimEach order policy.capPerAgent (overCap policy.capPerAgent expiry.1.headers) (expiry.1, 0)
    else (expiry.1, 0)
  ⟨trimmed.1, expiry.2, trimmed.2⟩

/-! ### One deletion for many -/

@[simp] theorem headers_deleteChunk (chunk : List String) (tables : Tables) :
    (deleteChunk chunk tables).headers = tables.headers.filter (·.id ∉ chunk) := by
  simp only [deleteChunk, Tables.headers, List.filter_map, List.map_map]
  rfl

theorem deleteChunk_nil (tables : Tables) : deleteChunk [] tables = tables := by
  have links : ∀ link, unlink [] link = link := by
    intro link
    cases link <;> simp [unlink]
  have messages : Message.unlink [] = id := funext fun message => by
    simp [Message.unlink, links]
  have runs : Run.unlink [] = id := funext fun run => by simp [Run.unlink, links]
  have controls : Control.unlink [] = id := funext fun control => by simp [Control.unlink]
  simp [deleteChunk, messages, runs, controls]

theorem unlink_unlink (first second : List String) (link : Option String) :
    unlink second (unlink first link) = unlink (first ++ second) link := by
  cases link with
  | none => rfl
  | some id =>
      by_cases early : id ∈ first <;> by_cases late : id ∈ second <;>
        simp [unlink, Option.filter, early, late]

theorem control_unlink_unlink {first second : List String} (named : "" ∉ second)
    (control : Control) :
    Control.unlink second (Control.unlink first control) = Control.unlink (first ++ second) control := by
  cases source : control.sourceMessageId with
  | none => simp [Control.unlink, source]
  | some id =>
      by_cases early : id ∈ first <;> by_cases late : id ∈ second <;>
        simp [Control.unlink, source, early, late, named]

theorem deleteChunk_deleteChunk {first second : List String} (named : "" ∉ second)
    (tables : Tables) :
    deleteChunk second (deleteChunk first tables) = deleteChunk (first ++ second) tables := by
  have messages : Message.unlink second ∘ Message.unlink first = Message.unlink (first ++ second) :=
    funext fun message => by simp [Message.unlink, unlink_unlink]
  have runs : Run.unlink second ∘ Run.unlink first = Run.unlink (first ++ second) :=
    funext fun run => by simp [Run.unlink, unlink_unlink]
  have controls : Control.unlink second ∘ Control.unlink first = Control.unlink (first ++ second) :=
    funext fun control => control_unlink_unlink named control
  simp [deleteChunk, runs, controls, List.filter_filter, List.filter_map, messages,
    Function.comp_def, Message.unlink, Bool.and_comm]
  rfl

/-- A deletion only asks which ids are named. -/
theorem deleteChunk_congr {first second : List String} (same : ∀ id, id ∈ first ↔ id ∈ second)
    (tables : Tables) : deleteChunk first tables = deleteChunk second tables := by
  have links : unlink first = unlink second := funext fun link => by simp [unlink, same]
  have messages : Message.unlink first = Message.unlink second := funext fun message => by
    simp [Message.unlink, links]
  have runs : Run.unlink first = Run.unlink second := funext fun run => by
    simp [Run.unlink, links]
  have controls : Control.unlink first = Control.unlink second := funext fun control => by
    simp [Control.unlink, same]
  simp only [deleteChunk, messages, runs, controls, same]

theorem deleteChunks_tables {size : Nat} (positive : 0 < size) (fuel : Nat) (pending : List String)
    (enough : pending.length ≤ fuel) (named : "" ∉ pending) (tables : Tables) (count : Nat) :
    (deleteChunks size fuel pending (tables, count)).1 = deleteChunk pending tables := by
  induction fuel generalizing pending tables count with
  | zero =>
      have empty : pending = [] := List.length_eq_zero_iff.mp (by omega)
      rw [empty, deleteChunk_nil]
      rfl
  | succ fuel ih =>
      by_cases empty : pending = []
      · rw [empty, deleteChunk_nil]
        rfl
      · have shorter : (pending.drop size).length ≤ fuel := by
          have := List.length_pos_iff.mpr empty
          rw [List.length_drop]
          omega
        have later : "" ∉ pending.drop size := fun member => named (List.mem_of_mem_drop member)
        simp only [deleteChunks, empty, ↓reduceIte]
        rw [ih _ shorter later, deleteChunk_deleteChunk later, List.take_append_drop]

/-- What both halves of rotation start from, in every state they pass. -/
structure Sound (tables : Tables) : Prop where
  distinct : (tables.headers.map Header.id).Nodup
  minted : ∀ header ∈ tables.headers, strip header.id = header.id ∧ header.id ≠ ""

theorem Store.sound (store : Store) : Sound store.toTables := ⟨store.distinct, store.minted⟩

theorem Sound.deleteChunk {tables : Tables} (sound : Sound tables) (chunk : List String) :
    Sound (deleteChunk chunk tables) := by
  constructor
  · rw [headers_deleteChunk]
    exact sound.distinct.sublist (List.filter_sublist.map _)
  · intro header member
    rw [headers_deleteChunk] at member
    exact sound.minted header (List.mem_of_mem_filter member)

theorem Sound.same {tables : Tables} (sound : Sound tables) {first second : Header}
    (one : first ∈ tables.headers) (other : second ∈ tables.headers) (ids : first.id = second.id) :
    first = second :=
  List.inj_on_of_nodup_map sound.distinct one other ids

def taken (tables : Tables) (clause : Header → Bool) : List String :=
  (tables.headers.filter clause).map Header.id

theorem Sound.named {tables : Tables} (sound : Sound tables) (clause : Header → Bool) :
    "" ∉ taken tables clause := by
  intro member
  obtain ⟨header, chosen, blank⟩ := List.mem_map.mp member
  exact (sound.minted header (List.mem_of_mem_filter chosen)).2 blank

/-- Stripping, dropping blanks and duplicates, and chunking change nothing in what goes. -/
theorem Sound.deleteMessagesWhere_tables {tables : Tables} (sound : Sound tables)
    (clause : Header → Bool) :
    (deleteMessagesWhere tables clause).1 = MessageRotation.deleteChunk (taken tables clause) tables := by
  have pendingIds : ∀ id, id ∈ (((selectMessageIds tables clause).map strip).filter
      (· ≠ "")).eraseDups ↔ id ∈ taken tables clause := by
    intro id
    simp only [List.mem_eraseDups, List.mem_filter, List.mem_map, selectMessageIds, taken,
      decide_eq_true_eq]
    constructor
    · rintro ⟨⟨_, ⟨⟨header, chosen, rfl⟩, _⟩, rfl⟩, _⟩
      exact ⟨header, chosen, (sound.minted header chosen.1).1.symm⟩
    · rintro ⟨header, chosen, rfl⟩
      have ⟨bare, named⟩ := sound.minted header chosen.1
      exact ⟨⟨header.id, ⟨⟨header, chosen, rfl⟩, by rw [bare]; exact named⟩, bare⟩, named⟩
  have named : "" ∉ (((selectMessageIds tables clause).map strip).filter (· ≠ "")).eraseDups := by
    rw [pendingIds]
    exact sound.named clause
  simp only [deleteMessagesWhere, deleteMessagesByIds]
  rw [deleteChunks_tables (by decide) _ _ le_rfl named]
  exact deleteChunk_congr pendingIds tables

theorem mem_taken {tables : Tables} {clause : Header → Bool} {id : String} :
    id ∈ taken tables clause ↔ ∃ header ∈ tables.headers, clause header = true ∧ header.id = id := by
  simp [taken, and_assoc]

/-! ### Trimming one recipient leaves the others -/

theorem unlink_eq_some {chunk : List String} {link : Option String} {id : String}
    (spared : id ∉ chunk) : unlink chunk link = some id ↔ link = some id := by
  simp only [unlink, Option.filter_eq_some_iff, decide_eq_true_eq, and_iff_left_iff_imp]
  intro _
  exact spared

theorem pointed_deleteChunk {chunk : List String} {id : String} (spared : id ∉ chunk)
    (tables : Tables) : pointed (deleteChunk chunk tables) id = pointed tables id := by
  have stays : ∀ run : Run, (run.unlink chunk).isOpen = run.isOpen := fun _ => rfl
  have request : ∀ run : Run, (run.unlink chunk).messageId = unlink chunk run.messageId :=
    fun _ => rfl
  have result : ∀ run : Run,
      (run.unlink chunk).resultMessageId = unlink chunk run.resultMessageId := fun _ => rfl
  rw [Bool.eq_iff_iff]
  simp [pointed, deleteChunk, stays, request, result, unlink_eq_some spared]

theorem mem_oldest {order : AgeOrder} {headers : List Header} {agentId : String} {limit : Nat}
    {id : String} (member : id ∈ oldest order headers agentId limit) :
    ∃ header ∈ headers, header.toAgent = some agentId ∧ header.id = id := by
  obtain ⟨header, chosen, rfl⟩ := List.mem_map.mp member
  have mine := (order.perm _).mem_iff.mp (List.mem_of_mem_take chosen)
  have ⟨listed, addressed⟩ := List.mem_filter.mp mine
  exact ⟨header, listed, by simpa using addressed, rfl⟩

theorem Sound.toAgent_of_mem_oldest {tables : Tables} (sound : Sound tables) {order : AgeOrder}
    {header : Header} (listed : header ∈ tables.headers) {agentId : String} {limit : Nat}
    (member : header.id ∈ oldest order tables.headers agentId limit) :
    header.toAgent = some agentId := by
  obtain ⟨other, present, addressed, ids⟩ := mem_oldest member
  rw [← sound.same present listed ids]
  exact addressed

section
variable {tables : Tables} {order : AgeOrder} {agentId other : String} {limit : Nat}

theorem Sound.spared_of_toAgent (sound : Sound tables) (differ : other ≠ agentId) {header : Header}
    (listed : header ∈ tables.headers) (addressed : header.toAgent = some other) :
    header.id ∉ taken tables (trimClause order tables agentId limit) := by
  intro member
  obtain ⟨trimmed, present, clause, ids⟩ := mem_taken.1 member
  simp only [trimClause, Bool.and_eq_true, decide_eq_true_eq] at clause
  rw [sound.same present listed ids] at clause
  have mine := sound.toAgent_of_mem_oldest listed clause.1
  rw [addressed] at mine
  exact differ (Option.some.inj mine)

theorem Sound.ofAgent_trimmed (sound : Sound tables) (differ : other ≠ agentId) :
    ofAgent (MessageRotation.deleteChunk (taken tables (trimClause order tables agentId limit))
      tables).headers other = ofAgent tables.headers other := by
  rw [headers_deleteChunk, ofAgent, ofAgent, List.filter_filter]
  apply List.filter_congr
  intro header listed
  by_cases addressed : header.toAgent = some other
  · simp [addressed, sound.spared_of_toAgent differ listed addressed]
  · simp [addressed]

theorem Sound.taken_trimmed (sound : Sound tables) (differ : other ≠ agentId) (share : Nat) :
    let next := MessageRotation.deleteChunk (taken tables (trimClause order tables agentId limit)) tables
    taken next (trimClause order next other share) =
      taken tables (trimClause order tables other share) := by
  intro next
  have rows : oldest order next.headers other share = oldest order tables.headers other share := by
    rw [oldest, sound.ofAgent_trimmed differ, oldest]
  rw [taken, taken, headers_deleteChunk, List.filter_filter]
  congr 1
  apply List.filter_congr
  intro header listed
  simp only [trimClause, rows]
  by_cases old : header.id ∈ oldest order tables.headers other share
  · have spared : header.id ∉ taken tables (trimClause order tables agentId limit) :=
      sound.spared_of_toAgent differ listed (sound.toAgent_of_mem_oldest listed old)
    simp [old, spared, next, pointed_deleteChunk spared]
  · simp [old]

end

theorem Sound.trimEach_tables (order : AgeOrder) (cap : Nat) (groups : List (String × Nat))
    (apart : (groups.map Prod.fst).Nodup) {tables : Tables} (sound : Sound tables) (count : Nat) :
    (trimEach order cap groups (tables, count)).1 = MessageRotation.deleteChunk
      (groups.flatMap fun group => taken tables (trimClause order tables group.1 (group.2 - cap)))
      tables := by
  induction groups generalizing tables count with
  | nil => exact (deleteChunk_nil tables).symm
  | cons group rest ih =>
      have ⟨fresh, later⟩ := List.nodup_cons.mp apart
      have frame : ∀ next ∈ rest, next.1 ≠ group.1 := fun next member same =>
        fresh (same ▸ List.mem_map_of_mem member)
      simp only [trimEach, sound.deleteMessagesWhere_tables]
      rw [ih later (sound.deleteChunk _), List.flatMap_cons, deleteChunk_deleteChunk]
      · congr 2
        apply List.flatMap_congr
        intro next member
        exact sound.taken_trimmed (frame next member) _
      · intro blank
        obtain ⟨next, _, inside⟩ := List.mem_flatMap.mp blank
        exact (sound.deleteChunk _).named _ inside

/-! ### What a rotation takes -/

section
variable (order : AgeOrder) (policy : RotationPolicy) (nowMs : Int) (tables : Tables)

def expiredIds : List String :=
  if 0 < policy.retentionDays then taken tables (expireClause policy nowMs tables) else []

/-- The tables the cap is applied to. -/
def unexpired : Tables := deleteChunk (expiredIds policy nowMs tables) tables

def trimmedIds : List String :=
  if 0 < policy.capPerAgent then
    (overCap policy.capPerAgent (unexpired policy nowMs tables).headers).flatMap fun group =>
      taken (unexpired policy nowMs tables)
        (trimClause order (unexpired policy nowMs tables) group.1 (group.2 - policy.capPerAgent))
  else []

def rotatedIds : List String :=
  expiredIds policy nowMs tables ++ trimmedIds order policy nowMs tables

end

theorem overCap_apart (cap : Nat) (headers : List Header) :
    ((overCap cap headers).map Prod.fst).Nodup := by
  have agents : List.Sublist ((overCap cap headers).map Prod.fst)
      ((headers.filterMap Header.toAgent).filter (· ≠ "")).dedup := by
    refine (List.filter_sublist.map Prod.fst).trans ?_
    rw [List.map_map]
    simp [Function.comp_def]
  exact (List.nodup_dedup _).sublist agents

theorem Sound.rotateMessages_tables {tables : Tables} (sound : Sound tables) (order : AgeOrder)
    (policy : RotationPolicy) (nowMs : Int) :
    (rotateMessages order policy nowMs tables).tables =
      MessageRotation.deleteChunk (rotatedIds order policy nowMs tables) tables := by
  have expiry : (if 0 < policy.retentionDays then
      deleteMessagesWhere tables (expireClause policy nowMs tables) else (tables, 0)).1 =
      unexpired policy nowMs tables := by
    by_cases limited : 0 < policy.retentionDays
    · simp [limited, unexpired, expiredIds, sound.deleteMessagesWhere_tables]
    · simp [limited, unexpired, expiredIds, deleteChunk_nil]
  have later : Sound (unexpired policy nowMs tables) := sound.deleteChunk _
  simp only [rotateMessages, expiry, rotatedIds]
  by_cases capped : 0 < policy.capPerAgent
  · simp only [capped, ↓reduceIte, trimmedIds]
    rw [later.trimEach_tables order _ _ (overCap_apart _ _), unexpired, deleteChunk_deleteChunk]
    intro blank
    obtain ⟨group, _, inside⟩ := List.mem_flatMap.mp blank
    exact later.named _ inside
  · simp [capped, trimmedIds, unexpired]

theorem gone_iff {chunk : List String} {tables : Tables} {header : Header}
    (listed : header ∈ tables.headers) :
    header.id ∉ (deleteChunk chunk tables).headers.map Header.id ↔ header.id ∈ chunk := by
  rw [headers_deleteChunk]
  constructor
  · intro gone
    by_contra kept
    exact gone (List.mem_map_of_mem (List.mem_filter.mpr ⟨listed, by simpa using kept⟩))
  · intro taken member
    obtain ⟨other, present, ids⟩ := List.mem_map.mp member
    have kept : other.id ∉ chunk := by simpa using (List.mem_filter.mp present).2
    exact kept (ids ▸ taken)

/-! ### The rank of a trimmed message -/

def older (headers : List Header) (header : Header) : Nat :=
  headers.countP (·.timestamp < header.timestamp)

theorem older_lt_of_mem_take (order : AgeOrder) {headers : List Header} {limit : Nat}
    {header : Header} (member : header ∈ (order.rows headers).take limit) :
    older headers header < limit := by
  have split := List.take_append_drop limit (order.rows headers)
  have sorted := order.sorted headers
  rw [← split, List.pairwise_append] at sorted
  have later : ((order.rows headers).drop limit).countP (·.timestamp < header.timestamp) = 0 := by
    rw [List.countP_eq_zero]
    intro other behind
    have := sorted.2.2 header member other behind
    simpa using this
  have first : ((order.rows headers).take limit).countP (·.timestamp < header.timestamp) <
      ((order.rows headers).take limit).length :=
    List.countP_lt_length_iff.mpr ⟨header, member, by simp⟩
  rw [older, ← (order.perm headers).countP_eq, ← split, List.countP_append, later]
  exact lt_of_lt_of_le first (List.length_take_le _ _)

/-- Rows gone before the cap was applied count on both sides. -/
theorem older_add_lt {before : List Header} {kept : Header → Bool} {header : Header} {cap : Nat}
    (rank : older (before.filter kept) header + cap < (before.filter kept).length) :
    older before header + cap < before.length := by
  have rows := @List.length_eq_length_filter_add _ before kept
  have ranks : older before header ≤
      older (before.filter kept) header + (before.filter fun row => !kept row).length := by
    rw [older, ← (List.filter_append_perm kept before).countP_eq, List.countP_append]
    exact Nat.add_le_add_left List.countP_le_length _
  omega

/-! ### A rotation that takes nothing in use -/

/-- One of the oldest `count - cap` of its recipient: fewer than that many are older. -/
def Surplus (policy : RotationPolicy) (headers : List Header) (header : Header) : Prop :=
  ∃ agentId, header.toAgent = some agentId ∧ agentId ≠ "" ∧ 0 < policy.capPerAgent ∧
    older (ofAgent headers agentId) header + policy.capPerAgent < (ofAgent headers agentId).length

def Deleted (before after : Tables) (header : Header) : Prop :=
  header ∈ before.headers ∧ header.id ∉ after.headers.map Header.id

/-- The message was merged into the run. -/
def Merged (tables : Tables) (run : Run) (id : String) : Prop :=
  ∃ item ∈ tables.items, item.runId = run.id ∧ item.messageId = id

def Carries (tables : Tables) (run : Run) (id : String) : Prop :=
  run.messageId = some id ∨ run.resultMessageId = some id ∨ Merged tables run id

def Run.Names (run : Run) (id : String) : Prop :=
  run.messageId = some id ∨ run.inReplyTo = some id ∨ run.resultMessageId = some id ∨
    run.handoffMessageId = some id

/-- What a rotation from `before` to `after` may take, and what it leaves behind. -/
structure Spares (policy : RotationPolicy) (nowMs : Int) (before after : Tables) : Prop where
  old : ∀ header, Deleted before after header →
    expired policy nowMs header = true ∨ Surplus policy before.headers header
  inUse : ∀ header, Deleted before after header →
    ∀ run ∈ before.runs, run.isOpen = true → ¬ Carries before run header.id
  receipts : ∀ header, Deleted before after header →
    ∀ receipt ∈ after.receipts, receipt.messageId ≠ header.id
  runs : ∀ header, Deleted before after header → ∀ run ∈ after.runs, ¬ run.Names header.id
  replies : ∀ header, Deleted before after header →
    ∀ message ∈ after.messages, message.inReplyTo ≠ some header.id

/-- The rows of a recipient that the age limit leaves. -/
def recipientRows (policy : RotationPolicy) (nowMs : Int) (tables : Tables) (agentId : String) :
    List Header :=
  ofAgent (tables.headers.filter fun header => !expireClause policy nowMs tables header) agentId

/-- A message whose turn it is: no open run points at it, and it is past the age limit or one of
the rows its recipient holds above the cap. -/
def Due (order : AgeOrder) (policy : RotationPolicy) (nowMs : Int) (tables : Tables)
    (header : Header) : Prop :=
  header ∈ tables.headers ∧ pointed tables header.id = false ∧
    (expired policy nowMs header = true ∨ (0 < policy.capPerAgent ∧ ∃ agentId, agentId ≠ "" ∧
      header ∈ (order.rows (recipientRows policy nowMs tables agentId)).take
        ((recipientRows policy nowMs tables agentId).length - policy.capPerAgent)))

section
variable {policy : RotationPolicy} {nowMs : Int} {tables : Tables}

theorem Sound.mem_expiredIds (sound : Sound tables) {header : Header}
    (listed : header ∈ tables.headers) :
    header.id ∈ expiredIds policy nowMs tables ↔ expireClause policy nowMs tables header = true := by
  by_cases limited : 0 < policy.retentionDays
  · simp only [expiredIds, limited, ↓reduceIte, mem_taken]
    constructor
    · rintro ⟨other, present, clause, ids⟩
      rwa [← sound.same present listed ids]
    · intro clause
      exact ⟨header, listed, clause, rfl⟩
  · simp [expiredIds, limited, expireClause, expired]

theorem Sound.headers_unexpired (sound : Sound tables) :
    (unexpired policy nowMs tables).headers =
      tables.headers.filter fun header => !expireClause policy nowMs tables header := by
  rw [unexpired, headers_deleteChunk]
  apply List.filter_congr
  intro header listed
  simp [sound.mem_expiredIds listed]

theorem Sound.ofAgent_unexpired (sound : Sound tables) (agentId : String) :
    ofAgent (unexpired policy nowMs tables).headers agentId =
      recipientRows policy nowMs tables agentId := by
  rw [sound.headers_unexpired, recipientRows]

theorem pointed_unexpired {header : Header} (spared : header ∈ (unexpired policy nowMs tables).headers) :
    pointed (unexpired policy nowMs tables) header.id = pointed tables header.id := by
  rw [unexpired, headers_deleteChunk] at spared
  exact pointed_deleteChunk (by simpa using (List.mem_filter.mp spared).2) tables

variable {order : AgeOrder}

theorem Sound.mem_oldest_iff (sound : Sound tables) {header : Header} {agentId : String} {limit : Nat}
    (listed : header ∈ tables.headers) :
    header.id ∈ oldest order tables.headers agentId limit ↔
      header ∈ (order.rows (ofAgent tables.headers agentId)).take limit := by
  constructor
  · intro member
    obtain ⟨other, chosen, ids⟩ := List.mem_map.mp member
    have mine := (order.perm _).mem_iff.mp (List.mem_of_mem_take chosen)
    rwa [← sound.same (List.mem_of_mem_filter mine) listed ids]
  · exact List.mem_map_of_mem

theorem mem_overCap {cap : Nat} {headers : List Header} {group : String × Nat} :
    group ∈ overCap cap headers ↔
      group.1 ≠ "" ∧ group.2 = (ofAgent headers group.1).length ∧ cap < group.2 := by
  obtain ⟨agentId, count⟩ := group
  simp only [overCap, List.mem_filter, List.mem_map, List.mem_dedup, List.mem_filterMap,
    Prod.mk.injEq, decide_eq_true_eq]
  constructor
  · rintro ⟨⟨_, ⟨_, named⟩, rfl, rfl⟩, above⟩
    exact ⟨named, rfl, above⟩
  · rintro ⟨named, rfl, above⟩
    obtain ⟨header, mine⟩ := List.exists_mem_of_length_pos (Nat.zero_lt_of_lt above)
    have ⟨listed, addressed⟩ := List.mem_filter.mp mine
    exact ⟨⟨agentId, ⟨⟨header, listed, by simpa using addressed⟩, named⟩, rfl, rfl⟩, above⟩

theorem Sound.mem_trimmedIds (sound : Sound tables) {header : Header}
    (spared : header ∈ (unexpired policy nowMs tables).headers) :
    header.id ∈ trimmedIds order policy nowMs tables ↔
      pointed tables header.id = false ∧ 0 < policy.capPerAgent ∧ ∃ agentId, agentId ≠ "" ∧
        header ∈ (order.rows (recipientRows policy nowMs tables agentId)).take
          ((recipientRows policy nowMs tables agentId).length - policy.capPerAgent) := by
  have later : Sound (unexpired policy nowMs tables) := sound.deleteChunk _
  have clause : ∀ agentId limit, header.id ∈ taken (unexpired policy nowMs tables)
      (trimClause order (unexpired policy nowMs tables) agentId limit) ↔
      header ∈ (order.rows (recipientRows policy nowMs tables agentId)).take limit ∧
        pointed tables header.id = false := by
    intro agentId limit
    rw [← sound.ofAgent_unexpired, ← later.mem_oldest_iff spared, ← pointed_unexpired spared,
      mem_taken]
    simp only [trimClause, Bool.and_eq_true, decide_eq_true_eq, Bool.not_eq_true']
    constructor
    · rintro ⟨other, present, chosen, ids⟩
      rwa [← ids]
    · intro chosen
      exact ⟨header, spared, chosen, rfl⟩
  by_cases capped : 0 < policy.capPerAgent
  · simp only [trimmedIds, capped, ↓reduceIte, List.mem_flatMap, mem_overCap, clause, true_and]
    constructor
    · rintro ⟨group, ⟨named, counted, _⟩, chosen, unpointed⟩
      rw [counted, sound.ofAgent_unexpired] at chosen
      exact ⟨unpointed, group.1, named, chosen⟩
    · rintro ⟨unpointed, agentId, named, chosen⟩
      refine ⟨(agentId, (recipientRows policy nowMs tables agentId).length),
        ⟨named, by rw [sound.ofAgent_unexpired], ?_⟩, chosen, unpointed⟩
      have held := List.length_pos_of_mem chosen
      rw [List.length_take] at held
      simp only
      omega
  · simp [trimmedIds, capped]

theorem Sound.mem_rotatedIds (sound : Sound tables) {header : Header}
    (listed : header ∈ tables.headers) :
    header.id ∈ rotatedIds order policy nowMs tables ↔ Due order policy nowMs tables header := by
  rw [rotatedIds, List.mem_append, sound.mem_expiredIds listed]
  by_cases gone : expireClause policy nowMs tables header = true
  · have ⟨past, unpointed⟩ : expired policy nowMs header = true ∧ pointed tables header.id = false := by
      simpa [expireClause] using gone
    simp [gone, Due, listed, past, unpointed]
  · have spared : header ∈ (unexpired policy nowMs tables).headers := by
      rw [sound.headers_unexpired, List.mem_filter]
      exact ⟨listed, by simpa using gone⟩
    rw [sound.mem_trimmedIds spared]
    simp only [gone, Due, listed, true_and, Bool.false_eq_true, false_or]
    apply and_congr_right
    intro unpointed
    have recent : ¬ expired policy nowMs header = true := by
      simpa [expireClause, unpointed] using gone
    simp [recent]

theorem Sound.deleted_iff (sound : Sound tables) {header : Header} :
    Deleted tables (rotateMessages order policy nowMs tables).tables header ↔
      Due order policy nowMs tables header := by
  rw [Deleted, sound.rotateMessages_tables]
  constructor
  · rintro ⟨listed, gone⟩
    exact (sound.mem_rotatedIds listed).mp ((gone_iff listed).mp gone)
  · intro due
    exact ⟨due.1, (gone_iff due.1).mpr ((sound.mem_rotatedIds due.1).mpr due)⟩

theorem Due.old {header : Header} (due : Due order policy nowMs tables header) :
    expired policy nowMs header = true ∨ Surplus policy tables.headers header := by
  obtain ⟨listed, _, past | ⟨capped, agentId, named, chosen⟩⟩ := due
  · exact .inl past
  · have mine := (order.perm _).mem_iff.mp (List.mem_of_mem_take chosen)
    have addressed : header.toAgent = some agentId := by
      simpa using (List.mem_filter.mp mine).2
    have rank := older_lt_of_mem_take order chosen
    have rows : recipientRows policy nowMs tables agentId =
        (ofAgent tables.headers agentId).filter fun row =>
          !expireClause policy nowMs tables row := by
      simp [recipientRows, ofAgent, List.filter_filter, Bool.and_comm]
    rw [rows] at rank
    exact .inr ⟨agentId, addressed, named, capped, older_add_lt (Nat.add_lt_of_lt_sub rank)⟩

theorem Sound.unpointed (sound : Sound tables) {header : Header} (listed : header ∈ tables.headers)
    (free : pointed tables header.id = false) {run : Run} (present : run ∈ tables.runs)
    (running : run.isOpen = true) :
    run.messageId ≠ some header.id ∧ run.resultMessageId ≠ some header.id := by
  have named := (sound.minted header listed).2
  simp only [pointed, named, ne_eq, not_false_eq_true, decide_true, Bool.true_and,
    List.any_eq_false] at free
  have neither := free run present
  simpa [running] using neither

theorem unlink_ne {chunk : List String} {id : String} (gone : id ∈ chunk) (link : Option String) :
    unlink chunk link ≠ some id := by
  simp [unlink, Option.filter_eq_some_iff, gone]

theorem Run.unlink_names {chunk : List String} {id : String} (gone : id ∈ chunk) (run : Run) :
    (run.unlink chunk).Names id ↔ run.handoffMessageId = some id := by
  simp [Run.Names, Run.unlink, unlink_ne gone]

/-- Rotation takes nothing in use and leaves nothing that names what it took, except that it
neither looks at merged items nor clears the notice a run was closed with. -/
theorem rotation_spares_iff (order : AgeOrder) (policy : RotationPolicy) (nowMs : Int)
    (store : Store) :
    Spares policy nowMs store.toTables (rotateMessages order policy nowMs store.toTables).tables ↔
      ∀ header, Due order policy nowMs store.toTables header → ∀ run ∈ store.runs,
        (run.isOpen = true → ¬ Merged store.toTables run header.id) ∧
          run.handoffMessageId ≠ some header.id := by
  have sound := store.sound
  have after := sound.rotateMessages_tables order policy nowMs
  have gone : ∀ header, Due order policy nowMs store.toTables header →
      header.id ∈ rotatedIds order policy nowMs store.toTables := fun header due =>
    (sound.mem_rotatedIds due.1).mpr due
  constructor
  · intro spares header due run present
    have deleted := sound.deleted_iff.mpr due
    constructor
    · intro running merged
      exact spares.inUse header deleted run present running (.inr (.inr merged))
    · intro handoff
      refine spares.runs header deleted (run.unlink (rotatedIds order policy nowMs store.toTables))
        ?_ ((Run.unlink_names (gone header due) run).mpr handoff)
      rw [after]
      exact List.mem_map_of_mem present
  · intro clear
    constructor
    case old =>
      intro header deleted
      exact (sound.deleted_iff.mp deleted).old
    case inUse =>
      intro header deleted run present running
      have due := sound.deleted_iff.mp deleted
      have ⟨request, result⟩ := sound.unpointed due.1 due.2.1 present running
      rintro (asked | answered | merged)
      · exact request asked
      · exact result answered
      · exact (clear header due run present).1 running merged
    case receipts =>
      intro header deleted receipt present same
      rw [after] at present
      have kept := (List.mem_filter.mp present).2
      rw [same] at kept
      exact absurd (gone header (sound.deleted_iff.mp deleted)) (by simpa using kept)
    case runs =>
      intro header deleted run present names
      have due := sound.deleted_iff.mp deleted
      rw [after] at present
      obtain ⟨original, listed, rfl⟩ := List.mem_map.mp present
      exact (clear header due original listed).2
        ((Run.unlink_names (gone header due) original).mp names)
    case replies =>
      intro header deleted message present
      rw [after] at present
      obtain ⟨original, _, rfl⟩ := List.mem_map.mp (List.mem_of_mem_filter present)
      exact unlink_ne (gone header (sound.deleted_iff.mp deleted)) _

end

/-! ### A merged message that is lost -/

def byTimestamp : AgeOrder where
  rows headers := headers.insertionSort fun first second => first.timestamp ≤ second.timestamp
  perm headers := List.perm_insertionSort _ headers
  sorted headers := List.pairwise_insertionSort _ headers

/-- A reminder opened a run that still waits, and a review was merged into it. -/
def waitingStore : Store where
  messages := [⟨⟨"m-reminder", some "coder", 0⟩, none⟩, ⟨⟨"m-review", some "coder", 1⟩, none⟩]
  receipts := []
  runs := [⟨"run-1", some "m-reminder", none, none, none, "queued"⟩]
  items := [⟨"m-review", "run-1"⟩]
  controls := []
  distinct := by decide
  minted := by decide

theorem merged_review_rotated :
    ¬ Spares ⟨1, 0⟩ (2 * dayMs) waitingStore.toTables
      (rotateMessages byTimestamp ⟨1, 0⟩ (2 * dayMs) waitingStore.toTables).tables := by
  intro spares
  have deleted : Deleted waitingStore.toTables
      (rotateMessages byTimestamp ⟨1, 0⟩ (2 * dayMs) waitingStore.toTables).tables
      ⟨"m-review", some "coder", 1⟩ := by
    constructor
    · decide
    · decide
  refine spares.inUse _ deleted ⟨"run-1", some "m-reminder", none, none, none, "queued"⟩
    (by decide) (by decide) (.inr (.inr ⟨⟨"m-review", "run-1"⟩, by decide, rfl, rfl⟩))

end AifyComms.MessageRotation
