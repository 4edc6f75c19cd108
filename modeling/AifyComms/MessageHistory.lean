import AifyComms.Dict
import AifyComms.Runs
import Mathlib.Data.List.Perm.Subperm

/-!
The dashboard's scrollback (new_dashboard/message-history.mjs) against the endpoint it pages
(`recent_messages` of routers/dispatch_messages/inbox.py).

The timeline shows a live window, which the poll replaces, and beside it the rows paged in by
scrolling back. A page holds the newest rows at or below a cursor. Rows that share a millisecond
come in whatever order the database gives them, so an answer is any order of the matching rows
that descends by time. Messages arrive and are removed, polls answer and requests fail while a
page is under way.

Paging starts at one timestamp and goes down from there. Nothing of the stretch it has gone
through is missing from the paged-in rows, and once a page is said to be the last, nothing below
the start is.
-/

namespace AifyComms.MessageHistory
open Runs

variable {Content : Type}

/-! ### The endpoint -/

inductive Source where
  | direct
  | channel
  | other
  deriving DecidableEq

/-- A row of `messages`, under its id. -/
structure Stored (Content : Type) where
  timestamp : Nat
  source : Source
  toAgent : Option String
  content : Content
  deriving DecidableEq

/-- A message as it is served. Only rows of the service are sure to have an id and a time. -/
structure Message (Content : Type) where
  id : Option String
  timestamp : Option Nat
  content : Content

abbrev Table (Content : Type) := Dict String (Stored Content)

def Stored.listed (stored : Stored Content) : Bool :=
  (stored.source == .direct && stored.toAgent.isSome) ||
    (stored.source == .channel && stored.toAgent.isNone)

/-- The `WHERE` of the query, with its inclusive cursor. -/
def matching (table : Table Content) (before : Option Nat) : List (String × Stored Content) :=
  table.entries.filter fun row => row.2.listed && before.all fun cursor =>
    decide (row.2.timestamp ≤ cursor)

def serialize (row : String × Stored Content) : Message Content :=
  { id := some row.1, timestamp := some row.2.timestamp, content := row.2.content }

structure Page (Content : Type) where
  messages : List (Message Content)
  truncated : Bool

/-- The answer for the rows in the order the database gave them: one more than the page is read,
to see whether there is more. -/
def recentMessages (limit : Nat) (ordered : List (String × Stored Content)) : Page Content :=
  let rows := ordered.take (limit + 1)
  { messages := (rows.take limit).map serialize, truncated := decide (limit < rows.length) }

/-- `ORDER BY timestamp DESC`, which leaves the order of equal timestamps open. -/
def Ordered (table : Table Content) (before : Option Nat)
    (ordered : List (String × Stored Content)) : Prop :=
  ordered.Perm (matching table before) ∧
    ordered.Pairwise fun newer older => older.2.timestamp ≤ newer.2.timestamp

instance [DecidableEq Content] (table : Table Content) (before : Option Nat)
    (ordered : List (String × Stored Content)) : Decidable (Ordered table before ordered) :=
  inferInstanceAs (Decidable (_ ∧ _))

/-! ### The client -/

def oldestTimestamp (messages : List (Message Content)) : Option Nat :=
  (messages.filterMap Message.timestamp).min?

/-- The messages whose id was not seen before, each id once. -/
def takeUnseen : List String → List (Message Content) → List (Message Content)
  | _, [] => []
  | seen, message :: rest =>
      match message.id with
      | none => takeUnseen seen rest
      | some id =>
          if id ∈ seen then takeUnseen seen rest else message :: takeUnseen (id :: seen) rest

def mergeById (existing incoming : List (Message Content)) : List (Message Content) :=
  takeUnseen [] (existing ++ incoming)

/-- `MessageHistory`. -/
structure History (Content : Type) where
  rows : List (Message Content)
  exhausted : Bool
  complete : Bool
  loading : Bool
  error : String

def History.empty : History Content :=
  { rows := [], exhausted := false, complete := false, loading := false, error := "" }

def History.combined (history : History Content) (live : List (Message Content)) :
    List (Message Content) :=
  mergeById live history.rows

def History.update (history : History Content) (id : String) (patch : Content → Content) :
    History Content :=
  { history with rows := history.rows.map fun message =>
      if message.id = some id then { message with content := patch message.content } else message }

def History.remove (history : History Content) (id : String) : History Content :=
  { history with rows := history.rows.filter fun message => decide (message.id ≠ some id) }

/-- `loadOlder` up to its request: the cursor it sends, if it sends one. -/
def History.ask (history : History Content) (live : List (Message Content)) : Option Nat :=
  if history.loading || history.exhausted then none
  else oldestTimestamp (history.combined live)

/-- `loadOlder` once its page is there. -/
def History.receive (history : History Content) (live : List (Message Content))
    (page : Page Content) : History Content :=
  let before := (history.combined live).length
  let rows := mergeById page.messages history.rows
  let added := (mergeById live rows).length - before
  { history with
    rows := rows
    complete := !page.truncated
    exhausted := history.exhausted || !page.truncated || added == 0
    loading := false }

/-! ### Both, and what happens between them -/

structure System (Content : Type) where
  table : Table Content
  live : List (Message Content)
  history : History Content
  /-- The cursor of a request and the live window its caller passed in. -/
  asked : Option (Nat × List (Message Content))
  /-- A page on its way back. -/
  served : Option (Page Content)
  /-- Where paging started, and how far down the pages have gone. -/
  stretch : Option (Nat × Nat)

inductive Label (Content : Type) where
  | arrive (id : String) (stored : Stored Content)
  | drop (id : String)
  | poll (ordered : List (String × Stored Content))
  | ask
  | serve (ordered : List (String × Stored Content))
  | receive
  | fail (reason : String)
  | update (id : String) (patch : Content → Content)
  | unsend (id : String)

/-- How far a page goes down. -/
def reach (cursor : Nat) (page : Page Content) : Nat :=
  (oldestTimestamp page.messages).getD cursor

def extended (stretch : Option (Nat × Nat)) (cursor : Nat) (page : Page Content) : Nat × Nat :=
  match stretch with
  | none => (cursor, min cursor (reach cursor page))
  | some (top, bottom) => (top, min bottom (reach cursor page))

def step [DecidableEq Content] (limit : Nat) (system : System Content) :
    Label Content → Option (System Content)
  | .arrive id stored =>
      if (system.table.get? id).isSome then none
      else some { system with table := system.table.set id stored }
  | .drop id => some { system with table := system.table.erase id }
  | .poll ordered =>
      if Ordered system.table none ordered then
        some { system with live := (recentMessages limit ordered).messages }
      else none
  | .ask =>
      (system.history.ask system.live).map fun cursor =>
        { system with
          history := { system.history with loading := true, error := "" }
          asked := some (cursor, system.live) }
  | .serve ordered =>
      match system.asked, system.served with
      | some (cursor, _), none =>
          if Ordered system.table (some cursor) ordered then
            some { system with served := some (recentMessages limit ordered) }
          else none
      | _, _ => none
  | .receive =>
      match system.asked, system.served with
      | some (cursor, live), some page =>
          some { system with
            history := system.history.receive live page
            asked := none
            served := none
            stretch := some (extended system.stretch cursor page) }
      | _, _ => none
  | .fail reason =>
      system.asked.map fun _ =>
        { system with
          history := { system.history with error := reason, loading := false }
          asked := none
          served := none }
  | .update id patch => some { system with history := system.history.update id patch }
  -- The client's part of an unsend, once the service has deleted the message.
  | .unsend id =>
      if (system.table.get? id).isSome then none
      else some { system with
        live := system.live.filter fun message => decide (message.id ≠ some id)
        history := system.history.remove id }

/-! ### Messages by their ids -/

def ids (messages : List (Message Content)) : List String := messages.filterMap Message.id

theorem mem_ids {messages : List (Message Content)} {id : String} :
    id ∈ ids messages ↔ ∃ message ∈ messages, message.id = some id := List.mem_filterMap

theorem ids_append (first second : List (Message Content)) :
    ids (first ++ second) = ids first ++ ids second := List.filterMap_append

theorem ids_cons_none {message : Message Content} (unnamed : message.id = none)
    (rest : List (Message Content)) : ids (message :: rest) = ids rest :=
  List.filterMap_cons_none unnamed

theorem ids_cons_some {message : Message Content} {id : String} (named : message.id = some id)
    (rest : List (Message Content)) : ids (message :: rest) = id :: ids rest :=
  List.filterMap_cons_some named

theorem mem_ids_takeUnseen (seen : List String) (messages : List (Message Content)) (id : String) :
    id ∈ ids (takeUnseen seen messages) ↔ id ∈ ids messages ∧ id ∉ seen := by
  induction messages generalizing seen with
  | nil => simp [takeUnseen, ids]
  | cons message rest ih =>
      cases named : message.id with
      | none =>
          rw [ids_cons_none named, ← ih seen]
          simp only [takeUnseen, named]
      | some key =>
          rw [ids_cons_some named]
          by_cases known : key ∈ seen
          · simp only [takeUnseen, named, known, if_true]
            rw [ih, List.mem_cons]
            constructor
            · exact fun found => ⟨.inr found.1, found.2⟩
            · rintro ⟨rfl | listed, fresh⟩
              · exact absurd known fresh
              · exact ⟨listed, fresh⟩
          · simp only [takeUnseen, named, known, if_false]
            rw [ids_cons_some named, List.mem_cons, List.mem_cons, ih, List.mem_cons]
            constructor
            · rintro (rfl | ⟨listed, fresh⟩)
              · exact ⟨.inl rfl, known⟩
              · exact ⟨.inr listed, fun inside => fresh (.inr inside)⟩
            · rintro ⟨same | listed, fresh⟩
              · exact .inl same
              · by_cases same : id = key
                · exact .inl same
                · exact .inr ⟨listed, fun inside => inside.elim same fresh⟩

theorem nodup_takeUnseen (seen : List String) (messages : List (Message Content)) :
    (ids (takeUnseen seen messages)).Nodup ∧
      (ids (takeUnseen seen messages)).length = (takeUnseen seen messages).length := by
  induction messages generalizing seen with
  | nil => exact ⟨List.nodup_nil, rfl⟩
  | cons message rest ih =>
      cases named : message.id with
      | none =>
          simp only [takeUnseen, named]
          exact ih seen
      | some key =>
          by_cases known : key ∈ seen
          · simp only [takeUnseen, named, known, if_true]
            exact ih seen
          · simp only [takeUnseen, named, known, if_false]
            rw [ids_cons_some named, List.nodup_cons, List.length_cons, List.length_cons]
            refine ⟨⟨fun again => ?_, (ih _).1⟩, by rw [(ih _).2]⟩
            exact ((mem_ids_takeUnseen _ _ _).mp again).2 List.mem_cons_self

theorem mem_of_mem_takeUnseen {seen : List String} {messages : List (Message Content)}
    {message : Message Content} (listed : message ∈ takeUnseen seen messages) :
    message ∈ messages := by
  induction messages generalizing seen with
  | nil => cases listed
  | cons first rest ih =>
      simp only [takeUnseen] at listed
      split at listed
      · exact List.mem_cons_of_mem _ (ih listed)
      · split at listed
        · exact List.mem_cons_of_mem _ (ih listed)
        · rcases List.mem_cons.mp listed with rfl | later
          · exact List.mem_cons_self
          · exact List.mem_cons_of_mem _ (ih later)

section Merge
variable {existing incoming : List (Message Content)}

theorem mem_ids_mergeById {id : String} :
    id ∈ ids (mergeById existing incoming) ↔ id ∈ ids existing ∨ id ∈ ids incoming := by
  rw [mergeById, mem_ids_takeUnseen, ids_append, List.mem_append]
  exact and_iff_left List.not_mem_nil

theorem nodup_mergeById : (ids (mergeById existing incoming)).Nodup := (nodup_takeUnseen _ _).1

theorem length_mergeById :
    (ids (mergeById existing incoming)).length = (mergeById existing incoming).length :=
  (nodup_takeUnseen _ _).2

theorem mem_of_mem_mergeById {message : Message Content}
    (listed : message ∈ mergeById existing incoming) : message ∈ existing ∨ message ∈ incoming :=
  List.mem_append.mp (mem_of_mem_takeUnseen listed)

/-- A merge that does not lengthen the list adds no id. -/
theorem ids_subset_of_length {page rows live : List (Message Content)}
    (none : (mergeById live (mergeById page rows)).length ≤ (mergeById live rows).length) :
    ids page ⊆ ids (mergeById live rows) := by
  have grows : ids (mergeById live rows) ⊆ ids (mergeById live (mergeById page rows)) := by
    intro id listed
    rw [mem_ids_mergeById] at listed ⊢
    exact listed.imp_right fun held => mem_ids_mergeById.2 (.inr held)
  have same := (List.Nodup.subperm nodup_mergeById grows).perm_of_length_le (by
    rw [length_mergeById, length_mergeById]
    exact none)
  intro id listed
  rw [same.mem_iff, mem_ids_mergeById]
  exact .inr (mem_ids_mergeById.2 (.inl listed))

end Merge

theorem ids_update (history : History Content) (id : String) (patch : Content → Content) :
    ids (history.update id patch).rows = ids history.rows := by
  rw [ids, History.update, List.filterMap_map]
  refine List.filterMap_congr fun message _ => ?_
  simp only [Function.comp]
  split <;> rfl

theorem times_update {history : History Content} {id : String} {patch : Content → Content}
    {message : Message Content} (listed : message ∈ (history.update id patch).rows) :
    ∃ old ∈ history.rows, message.timestamp = old.timestamp := by
  obtain ⟨old, held, rfl⟩ := List.mem_map.mp listed
  refine ⟨old, held, ?_⟩
  split <;> rfl

theorem mem_ids_remove {history : History Content} {id other : String} :
    other ∈ ids (history.remove id).rows ↔ other ∈ ids history.rows ∧ other ≠ id := by
  rw [mem_ids, mem_ids, History.remove]
  constructor
  · rintro ⟨message, listed, named⟩
    obtain ⟨held, kept⟩ := List.mem_filter.mp listed
    refine ⟨⟨message, held, named⟩, ?_⟩
    rintro rfl
    exact (of_decide_eq_true kept) named
  · rintro ⟨⟨message, held, named⟩, different⟩
    refine ⟨message, List.mem_filter.mpr ⟨held, decide_eq_true ?_⟩, named⟩
    rw [named]
    exact fun same => different (Option.some_inj.mp same)

/-! ### What an answer says -/

theorem mem_matching {table : Table Content} {before : Option Nat} {id : String}
    {stored : Stored Content} :
    (id, stored) ∈ matching table before ↔
      table.get? id = some stored ∧ stored.listed = true ∧
        ∀ cursor, before = some cursor → stored.timestamp ≤ cursor := by
  rw [matching, List.mem_filter, Dict.get?_eq_some_iff, Bool.and_eq_true]
  cases before <;> simp

theorem recentMessages_eq (limit : Nat) (ordered : List (String × Stored Content)) :
    recentMessages limit ordered =
      { messages := (ordered.take limit).map serialize
        truncated := decide (limit < ordered.length) } := by
  have short : (ordered.take (limit + 1)).take limit = ordered.take limit := by
    rw [List.take_take, Nat.min_eq_left (Nat.le_succ limit)]
  have more : limit < (ordered.take (limit + 1)).length ↔ limit < ordered.length := by
    rw [List.length_take]
    omega
  simp only [recentMessages, short, more]

theorem oldest_le {messages : List (Message Content)} {oldest time : Nat}
    {message : Message Content} (found : oldestTimestamp messages = some oldest)
    (listed : message ∈ messages) (timed : message.timestamp = some time) : oldest ≤ time :=
  (List.min?_eq_some_iff.mp found).2 time (List.mem_filterMap.mpr ⟨message, listed, timed⟩)

theorem oldest_mem {messages : List (Message Content)} {oldest : Nat}
    (found : oldestTimestamp messages = some oldest) :
    ∃ message ∈ messages, message.timestamp = some oldest :=
  List.mem_filterMap.mp (List.min?_eq_some_iff.mp found).1

theorem reach_le (cursor : Nat) {page : Page Content} {message : Message Content} {time : Nat}
    (listed : message ∈ page.messages) (timed : message.timestamp = some time) :
    reach cursor page ≤ time := by
  cases found : oldestTimestamp page.messages with
  | none =>
      have empty := List.min?_eq_none_iff.mp found
      have inside := List.mem_filterMap.mpr ⟨message, listed, timed⟩
      rw [empty] at inside
      cases inside
  | some oldest =>
      rw [reach, found]
      exact oldest_le found listed timed

theorem extended_le (stretch : Option (Nat × Nat)) (cursor : Nat) (page : Page Content) :
    (extended stretch cursor page).2 ≤ reach cursor page := by
  cases stretch with
  | none => exact Nat.min_le_right _ _
  | some stretch => exact Nat.min_le_right _ _

/-- Every row at or below the cursor is on the page, or the page is not the last one and does not
reach below the row. -/
def Covers (table : Table Content) (cursor : Nat) (page : Page Content) : Prop :=
  ∀ id stored, table.get? id = some stored → stored.listed = true → stored.timestamp ≤ cursor →
    id ∈ ids page.messages ∨ (page.truncated = true ∧ stored.timestamp ≤ reach cursor page)

theorem covers_recentMessages (limit : Nat) {table : Table Content} {cursor : Nat}
    {ordered : List (String × Stored Content)} (order : Ordered table (some cursor) ordered) :
    Covers table cursor (recentMessages limit ordered) := by
  intro id stored held listed below
  rw [recentMessages_eq]
  have inside : (id, stored) ∈ ordered := by
    rw [order.1.mem_iff, mem_matching]
    exact ⟨held, listed, fun _ same => Option.some_inj.mp same ▸ below⟩
  rw [← List.take_append_drop limit ordered, List.mem_append] at inside
  rcases inside with early | late
  · left
    exact mem_ids.2 ⟨serialize (id, stored), List.mem_map_of_mem early, rfl⟩
  · right
    have some : 0 < (ordered.drop limit).length := List.length_pos_of_mem late
    rw [List.length_drop] at some
    refine ⟨decide_eq_true (by omega), ?_⟩
    have descends := order.2
    rw [← List.take_append_drop limit ordered, List.pairwise_append] at descends
    cases found : oldestTimestamp ((ordered.take limit).map serialize) with
    | none =>
        rw [reach, found]
        exact below
    | some oldest =>
        rw [reach, found]
        obtain ⟨message, listed, timed⟩ := oldest_mem found
        obtain ⟨row, early, rfl⟩ := List.mem_map.mp listed
        have newer := descends.2.2 row early _ late
        exact Option.some_inj.mp timed ▸ newer

/-! ### The paged stretch -/

/-- A message that arrives is newer than every place paging has started from or is asking from,
and a page is asked for while the live window does not reach below the paged-in rows. -/
def Orderly (system : System Content) : Label Content → Prop
  | .arrive _ stored =>
      (∀ top bottom, system.stretch = some (top, bottom) → top < stored.timestamp) ∧
        ∀ cursor live, system.asked = some (cursor, live) → cursor < stored.timestamp
  | .ask =>
      ∀ top bottom, system.stretch = some (top, bottom) → ∀ message ∈ system.live, ∀ time,
        message.timestamp = some time → bottom ≤ time
  | _ => True

/-- Listed rows of the table in a range of time are among the messages. -/
def Held (table : Table Content) (messages : List (Message Content)) (range : Nat → Prop) : Prop :=
  ∀ id stored, table.get? id = some stored → stored.listed = true → range stored.timestamp →
    id ∈ ids messages

structure Covered (system : System Content) : Prop where
  stretch : ∀ top bottom, system.stretch = some (top, bottom) →
    Held system.table system.history.rows fun time => bottom < time ∧ time ≤ top
  floor : ∀ top bottom, system.stretch = some (top, bottom) →
    ∀ message ∈ system.history.rows, ∀ time, message.timestamp = some time → bottom ≤ time
  unpaged : system.stretch = none → system.history.rows = []
  whole : system.history.complete = true → system.history.exhausted = true ∧
    ∃ top bottom, system.stretch = some (top, bottom) ∧
      Held system.table system.history.rows (· ≤ top)
  asked : ∀ cursor live, system.asked = some (cursor, live) → system.history.loading = true ∧
    system.history.exhausted = false ∧
    ∀ top bottom, system.stretch = some (top, bottom) → bottom ≤ cursor
  served : ∀ page, system.served = some page → ∃ cursor live,
    system.asked = some (cursor, live) ∧ Covers system.table cursor page

section Steps
variable {system : System Content} (covered : Covered system)
include covered

/-- Rows may leave the table, and newer ones may come to it. -/
theorem Covered.table {table : Table Content}
    (newer : ∀ id stored, table.get? id = some stored →
      system.table.get? id = some stored ∨
        (∀ top bottom, system.stretch = some (top, bottom) → top < stored.timestamp) ∧
          ∀ cursor live, system.asked = some (cursor, live) → cursor < stored.timestamp) :
    Covered { system with table := table } where
  stretch top bottom paged id stored held listed range := by
    rcases newer id stored held with old | ⟨above, -⟩
    · exact covered.stretch top bottom paged id stored old listed range
    · exact absurd (above top bottom paged) (by omega)
  floor := covered.floor
  unpaged := covered.unpaged
  whole complete := by
    obtain ⟨exhausted, top, bottom, paged, all⟩ := covered.whole complete
    refine ⟨exhausted, top, bottom, paged, fun id stored held listed below => ?_⟩
    rcases newer id stored held with old | ⟨above, -⟩
    · exact all id stored old listed below
    · exact absurd (above top bottom paged) (by omega)
  asked := covered.asked
  served page sent := by
    obtain ⟨cursor, live, asked, covers⟩ := covered.served page sent
    refine ⟨cursor, live, asked, fun id stored held listed below => ?_⟩
    rcases newer id stored held with old | ⟨-, above⟩
    · exact covers id stored old listed below
    · exact absurd (above cursor live asked) (by omega)

/-- The client may drop rows the table no longer has, and change what messages say. -/
theorem Covered.rows (history : History Content)
    (kept : ∀ id, (system.table.get? id).isSome = true → id ∈ ids system.history.rows →
      id ∈ ids history.rows)
    (times : ∀ message ∈ history.rows, ∃ old ∈ system.history.rows,
      message.timestamp = old.timestamp)
    (complete : history.complete = system.history.complete)
    (exhausted : history.exhausted = system.history.exhausted)
    (loading : history.loading = system.history.loading) (live : List (Message Content)) :
    Covered { system with live := live, history := history } where
  stretch top bottom paged id stored held listed range :=
    kept id (by rw [held]; rfl) (covered.stretch top bottom paged id stored held listed range)
  floor top bottom paged message listed time timed := by
    obtain ⟨old, oldListed, same⟩ := times message listed
    exact covered.floor top bottom paged old oldListed time (same ▸ timed)
  unpaged none := by
    rw [List.eq_nil_iff_forall_not_mem]
    intro message listed
    obtain ⟨old, oldListed, -⟩ := times message listed
    rw [covered.unpaged none] at oldListed
    cases oldListed
  whole final := by
    obtain ⟨done, top, bottom, paged, all⟩ := covered.whole (complete ▸ final)
    exact ⟨exhausted.trans done, top, bottom, paged, fun id stored held listed below =>
      kept id (by rw [held]; rfl) (all id stored held listed below)⟩
  asked cursor window under := by
    obtain ⟨busy, more, below⟩ := covered.asked cursor window under
    exact ⟨loading.trans busy, exhausted.trans more, below⟩
  served := covered.served

theorem Covered.ask {cursor : Nat}
    (above : ∀ top bottom, system.stretch = some (top, bottom) → ∀ message ∈ system.live, ∀ time,
      message.timestamp = some time → bottom ≤ time)
    (asks : system.history.ask system.live = some cursor) :
    Covered { system with
      history := { system.history with loading := true, error := "" }
      asked := some (cursor, system.live) } := by
  rw [History.ask] at asks
  split_ifs at asks with idle
  rw [Bool.or_eq_true, not_or, Bool.not_eq_true, Bool.not_eq_true] at idle
  have free : system.served = none := by
    cases sent : system.served with
    | none => rfl
    | some page =>
        obtain ⟨_, _, under, -⟩ := covered.served page sent
        rw [(covered.asked _ _ under).1] at idle
        cases idle.1
  exact {
    stretch := covered.stretch
    floor := covered.floor
    unpaged := covered.unpaged
    whole := covered.whole
    asked := by
      intro cursor' live under
      obtain ⟨rfl, -⟩ := Prod.mk.injEq .. ▸ Option.some_inj.mp under
      refine ⟨rfl, idle.2, fun top bottom paged => ?_⟩
      -- The cursor is the time of a message of the window or of a paged-in one.
      obtain ⟨message, listed, timed⟩ := oldest_mem asks
      rcases mem_of_mem_mergeById listed with shown | held
      · exact above top bottom paged message shown cursor timed
      · exact covered.floor top bottom paged message held cursor timed
    served := by
      intro page sent
      rw [free] at sent
      cases sent }

theorem Covered.serve (limit : Nat) {cursor : Nat} {live : List (Message Content)}
    {ordered : List (String × Stored Content)} (under : system.asked = some (cursor, live))
    (order : Ordered system.table (some cursor) ordered) :
    Covered { system with served := some (recentMessages limit ordered) } where
  stretch := covered.stretch
  floor := covered.floor
  unpaged := covered.unpaged
  whole := covered.whole
  asked := covered.asked
  served page sent := by
    obtain rfl := Option.some_inj.mp sent
    exact ⟨cursor, live, under, covers_recentMessages limit order⟩

theorem Covered.receive {cursor : Nat} {live : List (Message Content)} {page : Page Content}
    (under : system.asked = some (cursor, live)) (sent : system.served = some page) :
    Covered { system with
      history := system.history.receive live page
      asked := none
      served := none
      stretch := some (extended system.stretch cursor page) } := by
  obtain ⟨_, _, again, covers⟩ := covered.served page sent
  rw [under] at again
  obtain ⟨rfl, rfl⟩ := Prod.mk.injEq .. ▸ Option.some_inj.mp again
  obtain ⟨-, -, above⟩ := covered.asked _ _ under
  -- What was held is still held, and what is not on the page lies below its reach.
  have held : ∀ id stored, system.table.get? id = some stored → stored.listed = true →
      stored.timestamp ≤ (extended system.stretch cursor page).1 →
      id ∈ ids (mergeById page.messages system.history.rows) ∨
        (page.truncated = true ∧
          stored.timestamp ≤ (extended system.stretch cursor page).2) := by
    intro id stored present listed below
    cases paged : system.stretch with
    | none =>
        rw [paged] at below
        simp only [extended] at below ⊢
        rcases covers id stored present listed below with inside | ⟨cut, low⟩
        · exact .inl (mem_ids_mergeById.2 (.inl inside))
        · exact .inr ⟨cut, by omega⟩
    | some stretch =>
        obtain ⟨top, bottom⟩ := stretch
        have start := above top bottom paged
        rw [paged] at below
        simp only [extended] at below ⊢
        rcases Nat.lt_or_ge bottom stored.timestamp with high | low
        · have old := covered.stretch top bottom paged id stored present listed ⟨high, below⟩
          exact .inl (mem_ids_mergeById.2 (.inr old))
        · rcases covers id stored present listed (by omega) with inside | ⟨cut, reached⟩
          · exact .inl (mem_ids_mergeById.2 (.inl inside))
          · exact .inr ⟨cut, by omega⟩
  exact {
    stretch := by
      intro top bottom paged id stored present listed range
      have same := Option.some_inj.mp paged
      rcases held id stored present listed (by rw [same]; exact range.2) with inside | ⟨-, low⟩
      · exact inside
      · rw [same] at low
        exact absurd low (Nat.not_le.mpr range.1)
    floor := by
      intro top bottom paged message listed time timed
      have same := Option.some_inj.mp paged
      rcases mem_of_mem_mergeById listed with fresh | old
      · have low := reach_le cursor fresh timed
        have bounded := extended_le system.stretch cursor page
        rw [same] at bounded
        exact Nat.le_trans bounded low
      · cases was : system.stretch with
        | none =>
            rw [covered.unpaged was] at old
            cases old
        | some stretch =>
            have low := covered.floor stretch.1 stretch.2 was message old time timed
            rw [was] at same
            have bounded := congrArg Prod.snd same
            simp only [extended] at bounded
            omega
    unpaged := by
      intro none
      cases none
    whole := by
      intro complete
      have final : page.truncated = false := by simpa [History.receive] using complete
      refine ⟨by simp [History.receive, final], _, _, rfl, ?_⟩
      intro id stored present listed below
      rcases held id stored present listed below with inside | ⟨cut, -⟩
      · exact inside
      · rw [final] at cut
        cases cut
    asked := by
      intro _ _ none
      cases none
    served := by
      intro _ none
      cases none }

theorem Covered.fail (reason : String) :
    Covered { system with
      history := { system.history with error := reason, loading := false }
      asked := none
      served := none } where
  stretch := covered.stretch
  floor := covered.floor
  unpaged := covered.unpaged
  whole := covered.whole
  asked _ _ under := by cases under
  served _ sent := by cases sent

end Steps

/-- Paging has not begun and nothing is under way. -/
def fresh (table : Table Content) : System Content :=
  { table := table, live := [], history := .empty, asked := none, served := none, stretch := none }

theorem covered_fresh (table : Table Content) : Covered (fresh table) where
  stretch _ _ paged := by cases paged
  floor _ _ paged := by cases paged
  unpaged _ := rfl
  whole complete := by cases complete
  asked _ _ under := by cases under
  served _ sent := by cases sent

theorem covered_step [DecidableEq Content] (limit : Nat) (system : System Content)
    (label : Label Content) (next : System Content) (covered : Covered system) (orderly : Orderly system label)
    (taken : step limit system label = some next) : Covered next := by
  cases label with
  | arrive id stored =>
      simp only [step] at taken
      split_ifs at taken with known
      obtain rfl := Option.some_inj.mp taken
      refine covered.table fun other value held => ?_
      rw [Dict.get?_set] at held
      split_ifs at held with same
      · obtain rfl := Option.some_inj.mp held
        exact .inr orderly
      · exact .inl held
  | drop id =>
      obtain rfl := Option.some_inj.mp taken
      refine covered.table fun other value held => ?_
      rw [Dict.get?_erase] at held
      split_ifs at held
      exact .inl held
  | poll ordered =>
      simp only [step] at taken
      split_ifs at taken
      obtain rfl := Option.some_inj.mp taken
      exact covered.rows system.history (fun _ _ listed => listed)
        (fun message listed => ⟨message, listed, rfl⟩) rfl rfl rfl _
  | ask =>
      obtain ⟨cursor, asks, rfl⟩ := Option.map_eq_some_iff.mp taken
      exact covered.ask orderly asks
  | serve ordered =>
      simp only [step] at taken
      split at taken
      · next under _ =>
        split_ifs at taken with order
        obtain rfl := Option.some_inj.mp taken
        exact covered.serve limit under order
      · cases taken
  | receive =>
      simp only [step] at taken
      split at taken
      · next under sent =>
        obtain rfl := Option.some_inj.mp taken
        exact covered.receive under sent
      · cases taken
  | fail reason =>
      obtain ⟨_, -, rfl⟩ := Option.map_eq_some_iff.mp taken
      exact covered.fail reason
  | update id patch =>
      obtain rfl := Option.some_inj.mp taken
      refine covered.rows (system.history.update id patch) (fun other _ listed => ?_)
        (fun message listed => ?_) rfl rfl rfl _
      · rw [ids_update]
        exact listed
      · exact times_update listed
  | unsend id =>
      simp only [step] at taken
      split_ifs at taken with known
      obtain rfl := Option.some_inj.mp taken
      refine covered.rows (system.history.remove id) (fun other present listed => ?_)
        (fun message listed => ⟨message, List.mem_of_mem_filter listed, rfl⟩) rfl rfl rfl _
      rw [mem_ids_remove]
      refine ⟨listed, ?_⟩
      rintro rfl
      exact known present

/-- Whatever arrives, goes, answers late or fails in between, the timeline shows every message of
the stretch paging has gone through, and once a page was the last, every message from where it
started down; and it shows no message twice. -/
theorem paged_stretch_shown [DecidableEq Content] (limit : Nat) {table : Table Content}
    {system : System Content}
    (run : Reaches (step limit) Orderly (fresh table) system) :
    (ids (system.history.combined system.live)).Nodup ∧
    ∀ top bottom, system.stretch = some (top, bottom) → ∀ id stored,
      system.table.get? id = some stored → stored.listed = true → stored.timestamp ≤ top →
      bottom < stored.timestamp ∨ system.history.complete = true →
      id ∈ ids (system.history.combined system.live) := by
  have covered : Covered system :=
    run.invariant Covered (covered_fresh table) fun before label after holds allowed taken =>
      covered_step limit before label after holds allowed taken
  refine ⟨nodup_mergeById, fun top bottom paged id stored held listed below reached => ?_⟩
  refine mem_ids_mergeById.2 (.inr ?_)
  rcases reached with above | complete
  · exact covered.stretch top bottom paged id stored held listed ⟨above, below⟩
  · obtain ⟨-, top', bottom', paged', all⟩ := covered.whole complete
    rw [paged] at paged'
    obtain ⟨rfl, -⟩ := Prod.mk.injEq .. ▸ Option.some_inj.mp paged'
    exact all id stored held listed below

/-- `Orderly` as a check. -/
def isOrderly (system : System Content) : Label Content → Bool
  | .arrive _ stored =>
      system.stretch.all (fun stretch => decide (stretch.1 < stored.timestamp)) &&
        system.asked.all fun request => decide (request.1 < stored.timestamp)
  | .ask =>
      system.stretch.all fun stretch => system.live.all fun message =>
        message.timestamp.all fun time => decide (stretch.2 ≤ time)
  | _ => true

theorem orderly_of_isOrderly (system : System Content) (label : Label Content)
    (checked : isOrderly system label = true) : Orderly system label := by
  cases label with
  | arrive id stored =>
      rw [isOrderly, Bool.and_eq_true] at checked
      constructor
      · intro top bottom paged
        simpa [paged] using checked.1
      · intro cursor live under
        simpa [under] using checked.2
  | ask =>
      intro top bottom paged message listed time timed
      simp only [isOrderly, paged, Option.all_some, List.all_eq_true] at checked
      simpa [timed] using checked message listed
  | _ => trivial

def told (timestamp : Nat) : Stored Unit :=
  { timestamp := timestamp, source := .direct, toAgent := some "dashboard", content := () }

/-- Four messages, to be shown two at a time. -/
def conversation : Table Unit :=
  Dict.empty.setAll [("one", told 1), ("two", told 2), ("three", told 3), ("four", told 4)]

/-- The window is polled, and two pages are asked for. Before the first one is read a message
arrives, and the window moves on. -/
def scrollback : List (Label Unit) :=
  [.poll [("four", told 4), ("three", told 3), ("two", told 2), ("one", told 1)], .ask,
    .arrive "five" (told 5), .serve [("three", told 3), ("two", told 2), ("one", told 1)],
    .poll [("five", told 5), ("four", told 4), ("three", told 3), ("two", told 2), ("one", told 1)],
    .receive, .ask, .serve [("two", told 2), ("one", told 1)], .receive]

theorem paged_stretch_shown_conversation : ∃ system : System Unit,
    Reaches (step 2) Orderly (fresh conversation) system ∧
      "one" ∈ ids (system.history.combined system.live) := by
  have reached : ∃ system, Reaches (step 2) Orderly (fresh conversation) system ∧
      (system.stretch, system.history.complete, system.table.get? "one") =
        (some (3, 1), true, some (told 1)) :=
    reaches_observed isOrderly scrollback _ _ orderly_of_isOrderly (by decide)
  obtain ⟨system, run, seen⟩ := reached
  simp only [Prod.mk.injEq] at seen
  exact ⟨system, run, (paged_stretch_shown 2 run).2 3 1 seen.1 "one" (told 1) seen.2.2 rfl
    (by decide) (.inr seen.2.1)⟩

/-! ### Where paging stops -/

/-- Fewer listed rows than a page holds share any one time. -/
def Uncrowded (limit : Nat) (table : Table Content) : Prop :=
  ∀ time, (table.entries.filter fun row =>
    row.2.listed && decide (row.2.timestamp = time)).length < limit

/-- The messages carry the time of their id. -/
def Timed (stamp : String → Nat) (messages : List (Message Content)) : Prop :=
  ∀ message ∈ messages, ∀ id, message.id = some id → message.timestamp = some (stamp id)

/-- A message keeps its time, and no page's worth of messages shares one when a page is read. -/
def Spread (stamp : String → Nat) (limit : Nat) (system : System Content) : Label Content → Prop
  | .arrive id stored => stored.timestamp = stamp id
  | .serve _ => Uncrowded limit system.table
  | _ => True

/-- A page that is not the last one goes below its cursor. -/
theorem page_descends {limit : Nat} {table : Table Content} {cursor : Nat}
    {ordered : List (String × Stored Content)} (spread : Uncrowded limit table)
    (order : Ordered table (some cursor) ordered) (more : limit < ordered.length) :
    ∃ row ∈ ordered.take limit, row.2.timestamp < cursor := by
  by_contra level
  rw [not_exists] at level
  have all : ∀ row ∈ ordered.take limit, row.2.timestamp = cursor := by
    intro row early
    have low := (mem_matching.1 (order.1.mem_iff.mp (List.mem_of_mem_take early))).2.2 cursor rfl
    have high : ¬ row.2.timestamp < cursor := fun below => level row ⟨early, below⟩
    omega
  -- The whole page would share the cursor's time.
  have sub : (ordered.take limit).Sublist
      (ordered.filter fun row => decide (row.2.timestamp = cursor)) := by
    have same : (ordered.take limit).filter (fun row => decide (row.2.timestamp = cursor)) =
        ordered.take limit := by
      rw [List.filter_eq_self]
      exact fun row early => decide_eq_true (all row early)
    rw [← same]
    exact (List.take_sublist limit ordered).filter _
  have counted := (order.1.filter fun row => decide (row.2.timestamp = cursor)).length_eq
  have narrow : (matching table (some cursor)).filter
      (fun row => decide (row.2.timestamp = cursor)) =
      table.entries.filter fun row => row.2.listed && decide (row.2.timestamp = cursor) := by
    rw [matching, List.filter_filter]
    refine List.filter_congr fun row _ => ?_
    by_cases same : row.2.timestamp = cursor
    · simp [same]
    · simp [same]
  have length := sub.length_le
  rw [counted, narrow, List.length_take, Nat.min_eq_left (Nat.le_of_lt more)] at length
  exact absurd (spread cursor) (Nat.not_lt.mpr length)

structure Stamped (stamp : String → Nat) (system : System Content) : Prop where
  table : ∀ id stored, system.table.get? id = some stored → stored.timestamp = stamp id
  live : Timed stamp system.live
  rows : Timed stamp system.history.rows
  idle : system.asked = none → system.served = none
  asked : ∀ cursor live, system.asked = some (cursor, live) →
    system.history.loading = true ∧ system.history.exhausted = false ∧
    ∀ id ∈ ids (system.history.combined live), cursor ≤ stamp id
  served : ∀ page cursor live, system.served = some page →
    system.asked = some (cursor, live) → Timed stamp page.messages ∧
    (page.truncated = true → ∃ id ∈ ids page.messages, stamp id < cursor)
  done : system.history.exhausted = true → system.history.complete = true

theorem Timed.merge {stamp : String → Nat} {first second : List (Message Content)}
    (one : Timed stamp first) (two : Timed stamp second) : Timed stamp (mergeById first second) :=
  fun message listed => (mem_of_mem_mergeById listed).elim (one message) (two message)

/-- The cursor is no newer than any message shown. -/
theorem cursor_le {stamp : String → Nat} {messages : List (Message Content)} {cursor : Nat}
    (timed : Timed stamp messages) (oldest : oldestTimestamp messages = some cursor) :
    ∀ id ∈ ids messages, cursor ≤ stamp id := by
  intro id listed
  obtain ⟨message, inside, named⟩ := mem_ids.1 listed
  exact oldest_le oldest inside (timed message inside id named)

theorem timed_recentMessages {stamp : String → Nat} (limit : Nat) {table : Table Content}
    {before : Option Nat} {ordered : List (String × Stored Content)}
    (stamped : ∀ id stored, table.get? id = some stored → stored.timestamp = stamp id)
    (order : Ordered table before ordered) :
    Timed stamp (recentMessages limit ordered).messages := by
  rw [recentMessages_eq]
  intro message listed id named
  obtain ⟨row, early, rfl⟩ := List.mem_map.mp listed
  obtain rfl := Option.some_inj.mp named
  have held := (mem_matching.1 (order.1.mem_iff.mp (List.mem_of_mem_take early))).1
  exact congrArg some (stamped _ _ held)

section StampedSteps
variable {stamp : String → Nat} {limit : Nat} {system : System Content}
  (stamped : Stamped stamp system)
include stamped

/-- The client may drop messages and change what they say. -/
theorem Stamped.rows_le (history : History Content) {live : List (Message Content)}
    (window : Timed stamp live) (timed : Timed stamp history.rows)
    (kept : ids history.rows ⊆ ids system.history.rows)
    (complete : history.complete = system.history.complete)
    (exhausted : history.exhausted = system.history.exhausted)
    (loading : history.loading = system.history.loading) :
    Stamped stamp { system with live := live, history := history } where
  table := stamped.table
  live := window
  rows := timed
  idle := stamped.idle
  asked cursor shown under := by
    obtain ⟨busy, more, above⟩ := stamped.asked cursor shown under
    refine ⟨loading.trans busy, exhausted.trans more, fun id listed => above id ?_⟩
    rw [History.combined, mem_ids_mergeById] at listed ⊢
    exact listed.imp_right fun held => kept held
  served := stamped.served
  done := by
    rw [complete, exhausted]
    exact stamped.done

theorem Stamped.ask {cursor : Nat} (asks : system.history.ask system.live = some cursor) :
    Stamped stamp { system with
      history := { system.history with loading := true, error := "" }
      asked := some (cursor, system.live) } := by
  rw [History.ask] at asks
  split_ifs at asks with idle
  rw [Bool.or_eq_true, not_or, Bool.not_eq_true, Bool.not_eq_true] at idle
  have free : system.served = none := by
    cases under : system.asked with
    | none => exact stamped.idle under
    | some request =>
        rw [(stamped.asked request.1 request.2 under).1] at idle
        cases idle.1
  exact {
    table := stamped.table
    live := stamped.live
    rows := stamped.rows
    idle := fun _ => free
    asked := by
      intro cursor' live under
      obtain ⟨rfl, rfl⟩ := Prod.mk.injEq .. ▸ Option.some_inj.mp under
      exact ⟨rfl, idle.2, cursor_le (stamped.live.merge stamped.rows) asks⟩
    served := by
      intro page _ _ sent
      rw [free] at sent
      cases sent
    done := stamped.done }

theorem Stamped.serve {cursor : Nat} {live : List (Message Content)}
    {ordered : List (String × Stored Content)} (under : system.asked = some (cursor, live))
    (spread : Uncrowded limit system.table)
    (order : Ordered system.table (some cursor) ordered) :
    Stamped stamp { system with served := some (recentMessages limit ordered) } where
  table := stamped.table
  live := stamped.live
  rows := stamped.rows
  idle none := by
    rw [under] at none
    cases none
  asked := stamped.asked
  served page cursor' live' sent again := by
    obtain rfl := Option.some_inj.mp sent
    rw [under] at again
    obtain ⟨rfl, rfl⟩ := Prod.mk.injEq .. ▸ Option.some_inj.mp again
    refine ⟨timed_recentMessages limit stamped.table order, fun cut => ?_⟩
    rw [recentMessages_eq] at cut ⊢
    obtain ⟨row, early, below⟩ := page_descends spread order (of_decide_eq_true cut)
    refine ⟨row.1, mem_ids.2 ⟨serialize row, List.mem_map_of_mem early, rfl⟩, ?_⟩
    have held := (mem_matching.1 (order.1.mem_iff.mp (List.mem_of_mem_take early))).1
    rw [← stamped.table _ _ held]
    exact below
  done := stamped.done

theorem Stamped.receive {cursor : Nat} {live : List (Message Content)} {page : Page Content}
    (under : system.asked = some (cursor, live)) (sent : system.served = some page) :
    Stamped stamp { system with
      history := system.history.receive live page
      asked := none
      served := none
      stretch := some (extended system.stretch cursor page) } := by
  obtain ⟨timed, descends⟩ := stamped.served page cursor live sent under
  obtain ⟨-, more, above⟩ := stamped.asked cursor live under
  exact {
    table := stamped.table
    live := stamped.live
    rows := timed.merge stamped.rows
    idle := fun _ => rfl
    asked := by
      intro _ _ none
      cases none
    served := by
      intro _ _ _ none
      cases none
    done := by
      intro exhausted
      simp only [History.receive, more, Bool.false_or, Bool.or_eq_true] at exhausted ⊢
      rcases exhausted with last | stalled
      · exact last
      · -- Nothing new came, so the page holds nothing below the cursor.
        by_contra cut
        rw [Bool.not_eq_true', Bool.not_eq_false] at cut
        obtain ⟨id, listed, below⟩ := descends cut
        have gain := beq_iff_eq.mp stalled
        rw [History.combined] at gain
        have none := ids_subset_of_length (Nat.sub_eq_zero_iff_le.mp gain)
        have high := above id (none listed)
        omega }

end StampedSteps

theorem stamped_fresh {stamp : String → Nat} {table : Table Content}
    (timed : ∀ id stored, table.get? id = some stored → stored.timestamp = stamp id) :
    Stamped stamp (fresh table) where
  table := timed
  live _ listed := by cases listed
  rows _ listed := by cases listed
  idle _ := rfl
  asked _ _ under := by cases under
  served _ _ _ sent := by cases sent
  done exhausted := by cases exhausted

theorem stamped_step [DecidableEq Content] {stamp : String → Nat} (limit : Nat)
    (system : System Content) (label : Label Content) (next : System Content) (stamped : Stamped stamp system)
    (spread : Spread stamp limit system label) (taken : step limit system label = some next) :
    Stamped stamp next := by
  cases label with
  | arrive id stored =>
      simp only [step] at taken
      split_ifs at taken with known
      obtain rfl := Option.some_inj.mp taken
      refine { stamped with table := fun other value held => ?_ }
      rw [Dict.get?_set] at held
      split_ifs at held with same
      · obtain rfl := Option.some_inj.mp held
        rw [← same]
        exact spread
      · exact stamped.table other value held
  | drop id =>
      obtain rfl := Option.some_inj.mp taken
      refine { stamped with table := fun other value held => ?_ }
      rw [Dict.get?_erase] at held
      split_ifs at held
      exact stamped.table other value held
  | poll ordered =>
      simp only [step] at taken
      split_ifs at taken with order
      obtain rfl := Option.some_inj.mp taken
      exact { stamped with live := timed_recentMessages limit stamped.table order }
  | ask =>
      obtain ⟨cursor, asks, rfl⟩ := Option.map_eq_some_iff.mp taken
      exact stamped.ask asks
  | serve ordered =>
      simp only [step] at taken
      split at taken
      · next under _ =>
        split_ifs at taken with order
        obtain rfl := Option.some_inj.mp taken
        exact stamped.serve under spread order
      · cases taken
  | receive =>
      simp only [step] at taken
      split at taken
      · next under sent =>
        obtain rfl := Option.some_inj.mp taken
        exact stamped.receive under sent
      · cases taken
  | fail reason =>
      obtain ⟨_, -, rfl⟩ := Option.map_eq_some_iff.mp taken
      exact {
        stamped with
        idle := fun _ => rfl
        asked := by
          intro _ _ none
          cases none
        served := by
          intro _ _ _ none
          cases none }
  | update id patch =>
      obtain rfl := Option.some_inj.mp taken
      refine stamped.rows_le (system.history.update id patch) stamped.live ?_ ?_ rfl rfl rfl
      · intro message listed key named
        obtain ⟨old, held, rfl⟩ := List.mem_map.mp listed
        split at named <;> simp_all [stamped.rows old held]
      · rw [ids_update]
        exact List.Subset.refl _
  | unsend id =>
      simp only [step] at taken
      split_ifs at taken
      obtain rfl := Option.some_inj.mp taken
      refine stamped.rows_le (system.history.remove id) ?_ ?_ ?_ rfl rfl rfl
      · exact fun message listed => stamped.live message (List.mem_of_mem_filter listed)
      · exact fun message listed => stamped.rows message (List.mem_of_mem_filter listed)
      · exact fun other listed => (mem_ids_remove.1 listed).1

/-- While no page's worth of messages shares a millisecond, paging stops only where the service
said there is nothing older. -/
theorem paging_stops_at_the_end [DecidableEq Content] {stamp : String → Nat} (limit : Nat)
    {table : Table Content} {system : System Content}
    (timed : ∀ id stored, table.get? id = some stored → stored.timestamp = stamp id)
    (run : Reaches (step limit) (Spread stamp limit) (fresh table) system) :
    system.history.exhausted = true → system.history.complete = true := by
  have stamped : Stamped stamp system :=
    run.invariant (Stamped stamp) (stamped_fresh timed) fun before label after holds allowed
        taken =>
      stamped_step limit before label after holds allowed taken
  exact stamped.done

/-- `Spread` as a check: only the times that occur can be crowded. -/
def isSpread (stamp : String → Nat) (limit : Nat) (system : System Content) :
    Label Content → Bool
  | .arrive id stored => decide (stored.timestamp = stamp id)
  | .serve _ => decide (0 < limit) && system.table.entries.all fun row =>
      decide ((system.table.entries.filter fun other =>
        other.2.listed && decide (other.2.timestamp = row.2.timestamp)).length < limit)
  | _ => true

theorem spread_of_isSpread {stamp : String → Nat} {limit : Nat} (system : System Content)
    (label : Label Content) (checked : isSpread stamp limit system label = true) :
    Spread stamp limit system label := by
  cases label with
  | arrive id stored =>
      have same : stored.timestamp = stamp id := of_decide_eq_true checked
      exact same
  | serve ordered =>
      intro time
      rw [isSpread, Bool.and_eq_true, decide_eq_true_eq, List.all_eq_true] at checked
      cases shared : system.table.entries.filter fun row =>
          row.2.listed && decide (row.2.timestamp = time) with
      | nil => exact checked.1
      | cons row rest =>
          have inside := List.mem_filter.mp (shared ▸ List.mem_cons_self)
          have same : row.2.timestamp = time :=
            of_decide_eq_true (Bool.and_eq_true_iff.mp inside.2).2
          have counted := of_decide_eq_true (checked.2 row inside.1)
          rw [same, shared] at counted
          exact counted
  | _ => trivial

/-- The times of the messages of `conversation` and of the one that arrives. -/
def conversationStamp (id : String) : Nat :=
  if id = "one" then 1 else if id = "two" then 2 else if id = "three" then 3
  else if id = "four" then 4 else 5

theorem paging_stops_at_the_end_conversation : ∃ system : System Unit,
    Reaches (step 2) (Spread conversationStamp 2) (fresh conversation) system ∧
      system.history.exhausted = true ∧ system.history.complete = true := by
  have reached : ∃ system, Reaches (step 2) (Spread conversationStamp 2) (fresh conversation)
      system ∧ system.history.exhausted = true :=
    reaches_observed (isSpread conversationStamp 2) scrollback _ _ spread_of_isSpread
      (by decide)
  obtain ⟨system, run, exhausted⟩ := reached
  have timed : ∀ id stored, conversation.get? id = some stored →
      stored.timestamp = conversationStamp id := by
    intro id stored held
    have inside := (Dict.get?_eq_some_iff _ _ _).mp held
    have all : ∀ row ∈ conversation.entries, row.2.timestamp = conversationStamp row.1 := by
      decide
    exact all _ inside
  exact ⟨system, run, exhausted, paging_stops_at_the_end 2 timed run exhausted⟩

end AifyComms.MessageHistory
