import AifyComms.Dict
import AifyComms.Runs
import Mathlib.Data.List.Perm.Basic
import Mathlib.Data.List.Range

/-!
The JSON-RPC clients of mcp/stdio/runtimes-rpc.js: `createRpcClient` over a process and
`createWebSocketRpcClient` over a socket. Requests are numbered, answers come in any order, a
request has a timer, and a failure of the transport rejects whatever is waiting.

Both keep the same book of requests (`Calls`) and differ in when they refuse one and in what
clears the book. A promise is named by its place among the requests made. Whatever the order of
requests, answers, timers and failures, each promise is waiting or was settled once, and an
answer settles the promise whose number it carries.
-/

namespace AifyComms.RpcClient
open Runs

variable {Value : Type}

/-- What stands under `id` in a message. Only a number can be one of the client's own. -/
inductive Ident where
  | number (value : Nat)
  | other
  deriving DecidableEq

/-- A parsed message: a key that is not there is `none`, and so is a `method` or an `error` that
counts as false. -/
structure Incoming (Value : Type) where
  id : Option Ident
  method : Option String
  error : Option Value
  result : Option Value

inductive Outcome (Value : Type) where
  | resolved (message : Incoming Value)
  | refused (message : Incoming Value)
  | failed (reason : String)
  | timedOut

/-- The requests of a client. `pending` has the promise of each number that waits, a timer knows
its number and its promise, and `settled` lists the calls of `resolve` and `reject`. -/
structure Calls (Value : Type) where
  pending : Dict Nat Nat
  timers : List (Nat × Nat)
  nextId : Nat
  asked : Nat
  settled : List (Nat × Outcome Value)
  /-- The number under which each promise was sent. -/
  issued : List (Nat × Nat)

namespace Calls

def start : Calls Value :=
  { pending := .empty, timers := [], nextId := 1, asked := 0, settled := [], issued := [] }

/-- A request that is not sent. -/
def refuse (calls : Calls Value) (reason : String) : Calls Value :=
  { calls with
    asked := calls.asked + 1
    settled := calls.settled ++ [(calls.asked, .failed reason)] }

def issue (calls : Calls Value) : Calls Value :=
  { calls with
    pending := calls.pending.set calls.nextId calls.asked
    timers := calls.timers ++ [(calls.nextId, calls.asked)]
    nextId := calls.nextId + 1
    asked := calls.asked + 1
    issued := calls.issued ++ [(calls.nextId, calls.asked)] }

/-- The timer of a request: it takes the number off the book and rejects its own promise. -/
def expire (calls : Calls Value) (timer : Nat × Nat) : Calls Value :=
  { calls with
    pending := calls.pending.erase timer.1
    timers := calls.timers.erase timer
    settled := calls.settled ++ [(timer.2, .timedOut)] }

/-- A message that has an `id` and no method. -/
def answer (calls : Calls Value) (message : Incoming Value) (id : Nat) : Calls Value :=
  match calls.pending.get? id with
  | none => calls
  | some promise =>
      { calls with
        pending := calls.pending.erase id
        timers := calls.timers.erase (id, promise)
        settled := calls.settled ++
          [(promise, if message.error.isSome then .refused message else .resolved message)] }

/-- `failPending`. -/
def failPending (calls : Calls Value) (reason : String) : Calls Value :=
  { calls with
    pending := .empty
    timers := calls.timers.filter fun timer => decide (timer ∉ calls.pending.entries)
    settled := calls.settled ++ calls.pending.entries.map fun entry => (entry.2, .failed reason) }

/-- A message from the other side. A request of its own is answered by a handler and a
notification goes to one; neither touches the book. -/
def onMessage (calls : Calls Value) (message : Incoming Value) : Calls Value :=
  match message.id with
  | none => calls
  | some ident =>
      if message.method.isSome then calls
      else match ident with
        | .number id => calls.answer message id
        | .other => calls

end Calls

/-! ### The book -/

structure Kept (calls : Calls Value) : Prop where
  /-- Every promise waits or was settled, and none is there twice. -/
  conserved : (calls.settled.map Prod.fst ++ calls.pending.values).Perm (List.range calls.asked)
  timed : calls.timers.Perm calls.pending.entries
  below : ∀ entry ∈ calls.issued, entry.1 < calls.nextId
  distinct : (calls.issued.map Prod.fst).Nodup
  known : calls.pending.entries ⊆ calls.issued
  own : ∀ promise message, (promise, .resolved message) ∈ calls.settled ∨
      (promise, .refused message) ∈ calls.settled →
    ∃ id, message.id = some (.number id) ∧ (id, promise) ∈ calls.issued

theorem set_perm (pending : Dict Nat Nat) {id : Nat} (promise : Nat)
    (absent : pending.get? id = none) :
    (pending.set id promise).entries.Perm ((id, promise) :: pending.entries) := by
  have fresh := (Dict.lookup_none_iff id pending.entries).mp absent
  show (Dict.setEntry id promise pending.entries).Perm _
  generalize pending.entries = entries at fresh
  induction entries with
  | nil => exact .refl _
  | cons entry rest ih =>
      rw [List.map_cons, List.mem_cons, not_or] at fresh
      rw [Dict.set_entry_cons, if_neg (Ne.symm fresh.1)]
      exact ((ih fresh.2).cons entry).trans (.swap _ _ _)

theorem erase_perm (pending : Dict Nat Nat) {id promise : Nat}
    (present : pending.get? id = some promise) :
    pending.entries.Perm ((id, promise) :: (pending.erase id).entries) := by
  have inside := (Dict.get?_eq_some_iff pending id promise).mp present
  have distinct := pending.distinct
  show pending.entries.Perm
    ((id, promise) :: pending.entries.filter fun entry => decide (entry.1 ≠ id))
  generalize pending.entries = entries at inside distinct
  induction entries with
  | nil => cases inside
  | cons entry rest ih =>
      rw [List.map_cons, List.nodup_cons] at distinct
      rcases List.mem_cons.mp inside with rfl | later
      · -- The number stands nowhere else.
        have others : rest.filter (fun entry => decide (entry.1 ≠ id)) = rest := by
          rw [List.filter_eq_self]
          intro other listed
          refine decide_eq_true fun same => distinct.1 ?_
          exact List.mem_map.mpr ⟨other, listed, same⟩
        rw [List.filter_cons_of_neg (by simp), others]
      · have different : entry.1 ≠ id := by
          intro same
          refine distinct.1 ?_
          rw [same]
          exact List.mem_map_of_mem later
        rw [List.filter_cons_of_pos (by simpa using different)]
        exact ((ih later distinct.2).cons entry).trans (.swap _ _ _)

theorem kept_start : Kept (Calls.start : Calls Value) where
  conserved := .refl _
  timed := .refl _
  below _ listed := by cases listed
  distinct := List.nodup_nil
  known := List.Subset.refl _
  own _ _ listed := by rcases listed with none | none <;> cases none

section Kept
variable {calls : Calls Value} (kept : Kept calls)
include kept

theorem Kept.refuse (reason : String) : Kept (calls.refuse reason) where
  conserved := by
    rw [Calls.refuse, List.map_append, List.range_succ]
    have moved : (calls.settled.map Prod.fst ++ [calls.asked] ++ calls.pending.values).Perm
        (calls.settled.map Prod.fst ++ calls.pending.values ++ [calls.asked]) := by
      rw [List.append_assoc, List.append_assoc]
      exact List.perm_append_comm.append_left _
    exact moved.trans (kept.conserved.append_right _)
  timed := kept.timed
  below := kept.below
  distinct := kept.distinct
  known := kept.known
  own promise message listed := by
    refine kept.own promise message (listed.imp ?_ ?_)
    · intro inside
      simpa [Calls.refuse] using inside
    · intro inside
      simpa [Calls.refuse] using inside

theorem Kept.unissued : calls.pending.get? calls.nextId = none := by
  rw [Dict.get?_eq_none_iff]
  intro listed
  obtain ⟨entry, inside, same⟩ := List.mem_map.mp listed
  have low := kept.below entry (kept.known inside)
  omega

theorem Kept.issue : Kept calls.issue where
  conserved := by
    have values := (set_perm calls.pending calls.asked kept.unissued).map Prod.snd
    have moved : (calls.settled.map Prod.fst ++ calls.asked :: calls.pending.values).Perm
        (calls.settled.map Prod.fst ++ calls.pending.values ++ [calls.asked]) := by
      rw [List.append_assoc]
      exact (List.perm_append_singleton calls.asked calls.pending.values).symm.append_left _
    rw [Calls.issue, List.range_succ]
    exact (values.append_left _).trans (moved.trans (kept.conserved.append_right _))
  timed := by
    have grown := kept.timed.append_right [(calls.nextId, calls.asked)]
    have added := set_perm calls.pending calls.asked kept.unissued
    exact grown.trans ((List.perm_append_singleton _ _).trans added.symm)
  below entry listed := by
    rcases List.mem_append.mp listed with old | new
    · exact Nat.lt_succ_of_lt (kept.below entry old)
    · rw [List.mem_singleton.mp new]
      exact Nat.lt_succ_self _
  distinct := by
    rw [Calls.issue, List.map_append, List.nodup_append]
    refine ⟨kept.distinct, List.nodup_singleton _, ?_⟩
    intro id old other new same
    obtain ⟨entry, inside, rfl⟩ := List.mem_map.mp old
    rw [List.mem_singleton.mp new] at same
    have low := kept.below entry inside
    simp only at same
    omega
  known entry listed := by
    rcases List.mem_cons.mp
        ((set_perm calls.pending calls.asked kept.unissued).mem_iff.mp listed) with rfl | old
    · exact List.mem_append_right _ (List.mem_singleton_self _)
    · exact List.mem_append_left _ (kept.known old)
  own promise message listed := by
    obtain ⟨id, named, sent⟩ := kept.own promise message listed
    exact ⟨id, named, List.mem_append_left _ sent⟩

/-- A number that waits is taken off the book, its timer stopped and its promise settled. -/
theorem Kept.settle {id promise : Nat} {outcome : Outcome Value}
    (present : calls.pending.get? id = some promise)
    (own : ∀ message, outcome = .resolved message ∨ outcome = .refused message →
      message.id = some (.number id)) :
    Kept { calls with
      pending := calls.pending.erase id
      timers := calls.timers.erase (id, promise)
      settled := calls.settled ++ [(promise, outcome)] } := by
  have entries := erase_perm calls.pending present
  have inside := (Dict.get?_eq_some_iff calls.pending id promise).mp present
  exact {
    conserved := by
      have values := entries.map Prod.snd
      have moved : (calls.settled.map Prod.fst ++ [promise] ++ (calls.pending.erase id).values).Perm
          (calls.settled.map Prod.fst ++ calls.pending.values) := by
        rw [List.append_assoc]
        exact values.symm.append_left _
      rw [List.map_append]
      exact moved.trans kept.conserved
    timed := by
      have fewer := (kept.timed.trans entries).erase (id, promise)
      rwa [List.erase_cons_head] at fewer
    below := kept.below
    distinct := kept.distinct
    known := by
      intro entry listed
      exact kept.known (entries.mem_iff.mpr (List.mem_cons_of_mem _ listed))
    own := by
      intro other message listed
      simp only [List.mem_append, List.mem_singleton, Prod.mk.injEq] at listed
      rcases listed with (old | ⟨rfl, same⟩) | (old | ⟨rfl, same⟩)
      · exact kept.own other message (.inl old)
      · exact ⟨id, own message (.inl same.symm), kept.known inside⟩
      · exact kept.own other message (.inr old)
      · exact ⟨id, own message (.inr same.symm), kept.known inside⟩ }

/-- A timer that is still there belongs to a request that waits. -/
theorem Kept.expire {timer : Nat × Nat} (running : timer ∈ calls.timers) :
    Kept (calls.expire timer) := by
  have present := (Dict.get?_eq_some_iff calls.pending timer.1 timer.2).mpr
    (kept.timed.mem_iff.mp running)
  exact kept.settle present fun message named => by rcases named with none | none <;> cases none

theorem Kept.onMessage (message : Incoming Value) : Kept (calls.onMessage message) := by
  unfold Calls.onMessage
  split
  · exact kept
  · next ident named =>
    split_ifs
    · exact kept
    · cases ident with
      | other => exact kept
      | number id =>
          simp only [Calls.answer]
          split
          · exact kept
          · next promise present =>
            refine kept.settle present fun answer same => ?_
            have carried : answer = message := by
              rcases same with same | same
              · split_ifs at same
                exact (Outcome.resolved.inj same).symm
              · split_ifs at same
                exact (Outcome.refused.inj same).symm
            rw [carried]
            exact named

theorem Kept.failPending (reason : String) : Kept (calls.failPending reason) where
  conserved := by
    have moved : (calls.settled.map Prod.fst ++ calls.pending.values).Perm
        (List.range calls.asked) := kept.conserved
    rw [Calls.failPending, List.map_append, List.map_map]
    simpa [Dict.values, Dict.empty, Function.comp_def] using moved
  timed := by
    have none : calls.timers.filter (fun timer => decide (timer ∉ calls.pending.entries)) = [] := by
      rw [List.filter_eq_nil_iff]
      intro timer running
      simpa using kept.timed.mem_iff.mp running
    rw [Calls.failPending, none]
    exact .refl _
  below := kept.below
  distinct := kept.distinct
  known _ listed := by cases listed
  own promise message listed := by
    refine kept.own promise message (listed.imp ?_ ?_)
    · intro inside
      simpa [Calls.failPending] using inside
    · intro inside
      simpa [Calls.failPending] using inside

theorem Kept.settled_of_idle (idle : calls.pending.entries = []) :
    ∀ promise < calls.asked, promise ∈ calls.settled.map Prod.fst := by
  intro promise made
  have placed := kept.conserved.mem_iff.mpr (List.mem_range.mpr made)
  rw [Dict.values, idle, List.map_nil, List.append_nil] at placed
  exact placed

end Kept

/-! ### The clients -/

/-- A client over a transport. -/
structure Client (Value : Type) where
  calls : Calls Value
  /-- `processError`, and the state of a socket that is no longer open. -/
  down : Option String
  /-- `closed` of the socket client. -/
  closed : Bool
  /-- How many requests had been made when the transport last failed or the process client was
  closed. -/
  ended : Nat

def Client.start : Client Value := { calls := .start, down := none, closed := false, ended := 0 }

inductive Event (Value : Type) where
  | request
  | expire (timer : Nat × Nat)
  | message (message : Incoming Value)
  | failure (reason : String)
  | close

def Client.request (client : Client Value) : Client Value :=
  match client.down with
  | some reason => { client with calls := client.calls.refuse reason }
  | none => { client with calls := client.calls.issue }

def Client.clear (client : Client Value) (reason : String) : Client Value :=
  { client with calls := client.calls.failPending reason, ended := client.calls.asked }

def closedReason : String := "rpc client closed"

/-- `createRpcClient`. -/
def processStep (client : Client Value) : Event Value → Option (Client Value)
  | .request => some client.request
  | .expire timer =>
      if timer ∈ client.calls.timers then
        some { client with calls := client.calls.expire timer }
      else none
  | .message message => some { client with calls := client.calls.onMessage message }
  | .failure reason => some { client.clear reason with down := some reason }
  | .close => some (client.clear closedReason)

def notOpen : String := "Codex WebSocket app-server connection is not open"

/-- `createWebSocketRpcClient` once its socket is open. The socket leaves that state before it
reports an error or that it closed, and when the client closes it. -/
def socketStep (client : Client Value) : Event Value → Option (Client Value)
  | .request => some client.request
  | .expire timer =>
      if timer ∈ client.calls.timers then
        some { client with calls := client.calls.expire timer }
      else none
  | .message message => some { client with calls := client.calls.onMessage message }
  | .failure reason =>
      if client.closed then some { client with down := some notOpen }
      else some { client.clear reason with down := some notOpen, closed := true }
  | .close => some { client with down := some notOpen }

/-- The book is in order, nothing made before the last failure or close waits, and where the
client is `drained` nothing waits at all. -/
structure Sound (drained : Prop) (client : Client Value) : Prop where
  kept : Kept client.calls
  idle : drained → client.calls.pending.entries = []
  ended : ∀ promise < client.ended, promise ∈ client.calls.settled.map Prod.fst

section Sound
variable {drained : Prop} {client : Client Value} (sound : Sound drained client)
include sound

/-- What a step settles stays settled. -/
theorem Sound.calls {calls : Calls Value} (kept : Kept calls)
    (idle : client.calls.pending.entries = [] → calls.pending.entries = [])
    (grown : client.calls.settled <+: calls.settled) :
    Sound drained { client with calls := calls } where
  kept := kept
  idle holds := idle (sound.idle holds)
  ended promise below := (grown.map Prod.fst).subset (sound.ended promise below)

theorem Sound.expire {timer : Nat × Nat} (running : timer ∈ client.calls.timers) :
    Sound drained { client with calls := client.calls.expire timer } := by
  refine sound.calls (sound.kept.expire running) (fun idle => ?_) (List.prefix_append _ _)
  have waits := sound.kept.timed.mem_iff.mp running
  rw [idle] at waits
  cases waits

theorem Sound.onMessage (message : Incoming Value) :
    Sound drained { client with calls := client.calls.onMessage message } := by
  refine sound.calls (sound.kept.onMessage message) (fun idle => ?_) ?_
  · unfold Calls.onMessage
    split
    · exact idle
    · next ident _ =>
      split_ifs
      · exact idle
      · cases ident with
        | other => exact idle
        | number id =>
            have none : client.calls.pending.get? id = none := by
              rw [Dict.get?_eq_none_iff, Dict.keys, idle]
              exact List.not_mem_nil
            simp only [Calls.answer, none]
            exact idle
  · unfold Calls.onMessage
    split
    · exact List.prefix_rfl
    · next ident _ =>
      split_ifs
      · exact List.prefix_rfl
      · cases ident with
        | other => exact List.prefix_rfl
        | number id =>
            simp only [Calls.answer]
            split
            · exact List.prefix_rfl
            · exact List.prefix_append _ _

theorem Sound.request (down : drained → client.down.isSome = true) :
    Sound drained client.request := by
  unfold Client.request
  split
  · exact sound.calls (sound.kept.refuse _) id (List.prefix_append _ _)
  · next up =>
    rw [up] at down
    exact {
      kept := sound.kept.issue
      idle := fun holds => by cases down holds
      ended := sound.ended }

theorem Sound.clear (reason : String) (next : Prop) : Sound next (client.clear reason) where
  kept := sound.kept.failPending reason
  idle _ := rfl
  ended := (sound.kept.failPending reason).settled_of_idle rfl

end Sound

/-- A process client has nothing waiting once the process has failed. -/
def ProcessSound (client : Client Value) : Prop := Sound (client.down.isSome = true) client

theorem process_sound_step (client : Client Value) (event : Event Value) (next : Client Value)
    (sound : ProcessSound client) (taken : processStep client event = some next) :
    ProcessSound next := by
  cases event with
  | request =>
      obtain rfl := Option.some_inj.mp taken
      have stays : client.request.down = client.down := by
        unfold Client.request
        split <;> rfl
      rw [ProcessSound, stays]
      exact sound.request id
  | expire timer =>
      simp only [processStep] at taken
      split_ifs at taken with running
      obtain rfl := Option.some_inj.mp taken
      exact Sound.expire sound running
  | message message =>
      obtain rfl := Option.some_inj.mp taken
      exact Sound.onMessage sound message
  | failure reason =>
      obtain rfl := Option.some_inj.mp taken
      have cleared := sound.clear reason True
      exact ⟨cleared.kept, fun _ => cleared.idle trivial, cleared.ended⟩
  | close =>
      obtain rfl := Option.some_inj.mp taken
      exact sound.clear closedReason _

/-- A socket client that saw its socket fail has nothing waiting and takes no more requests. -/
structure SocketSound (client : Client Value) : Prop where
  sound : Sound (client.closed = true) client
  down : client.closed = true → client.down.isSome = true

theorem socket_sound_step (client : Client Value) (event : Event Value) (next : Client Value)
    (sound : SocketSound client) (taken : socketStep client event = some next) :
    SocketSound next := by
  cases event with
  | request =>
      obtain rfl := Option.some_inj.mp taken
      have stays : client.request.down = client.down ∧ client.request.closed = client.closed := by
        unfold Client.request
        split <;> exact ⟨rfl, rfl⟩
      refine ⟨?_, ?_⟩
      · rw [stays.2]
        exact sound.sound.request sound.down
      · rw [stays.1, stays.2]
        exact sound.down
  | expire timer =>
      simp only [socketStep] at taken
      split_ifs at taken with running
      obtain rfl := Option.some_inj.mp taken
      exact ⟨sound.sound.expire running, sound.down⟩
  | message message =>
      obtain rfl := Option.some_inj.mp taken
      exact ⟨sound.sound.onMessage message, sound.down⟩
  | failure reason =>
      simp only [socketStep] at taken
      split_ifs at taken with before
      · obtain rfl := Option.some_inj.mp taken
        exact ⟨⟨sound.sound.kept, sound.sound.idle, sound.sound.ended⟩, fun _ => rfl⟩
      · obtain rfl := Option.some_inj.mp taken
        have cleared := sound.sound.clear reason True
        exact ⟨⟨cleared.kept, fun _ => cleared.idle trivial, cleared.ended⟩, fun _ => rfl⟩
  | close =>
      obtain rfl := Option.some_inj.mp taken
      exact ⟨⟨sound.sound.kept, sound.sound.idle, sound.sound.ended⟩, fun _ => rfl⟩

/-- Every request made is waiting or was settled once, an answer settled the request whose number
it carried, and no request made before the transport failed, or the process client was closed, is
still waiting. -/
structure Accounted (client : Client Value) : Prop where
  once : (client.calls.settled.map Prod.fst ++ client.calls.pending.values).Perm
    (List.range client.calls.asked)
  own : ∀ promise message, (promise, .resolved message) ∈ client.calls.settled ∨
      (promise, .refused message) ∈ client.calls.settled →
    ∃ id, message.id = some (.number id) ∧ (id, promise) ∈ client.calls.issued
  numbered : (client.calls.issued.map Prod.fst).Nodup
  ended : ∀ promise < client.ended, promise ∈ client.calls.settled.map Prod.fst

theorem Sound.accounted {drained : Prop} {client : Client Value} (sound : Sound drained client) :
    Accounted client where
  once := sound.kept.conserved
  own := sound.kept.own
  numbered := sound.kept.distinct
  ended := sound.ended

end AifyComms.RpcClient
