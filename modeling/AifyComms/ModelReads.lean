import AifyComms.Dict
import AifyComms.Runs

/-!
Model reads on demand: `api_core/model_reads.py`, the claim of `routers/model_reads.py` and the
long poll of `longpoll.py` that holds it open. A looker asks, its agent's host takes the read
through a claim that sleeps while there is nothing to take, and answers it.

Everything runs on one event loop, so what stands between two suspensions is one step. A claim
suspends while its attempt is in the database, before and after it takes the reads, and while
it sleeps. From the check that nothing waits to its place among the waiters there is no
suspension. An attempt may raise at either of its suspensions, a sleep may end for any reason,
and an asker may give up at any time.

A machine's name is compared in lower case; of `str.lower` the code relies on a second
application changing nothing.
-/

namespace AifyComms.ModelReads
open Runs

/-- `str.lower`. -/
structure Lowering where
  lower : String → String
  twice : ∀ text, lower (lower text) = lower text

/-- `read_input`. -/
structure AgentInput where
  agentId : String
  runtime : String
  workspace : String
  sessionHandle : String
  deriving DecidableEq

/-- One agent's part of what a host sends: the fields that are strings, and `at` as text. -/
structure HostResult where
  model : Option String
  takenAt : String
  unknown : Option String
  deriving DecidableEq

inductive Reading where
  | model (model takenAt : String)
  | unknown (why : String)
  deriving DecidableEq

structure Answer where
  reading : Reading
  readAt : String
  deriving DecidableEq

/-- `host_answer`. -/
def hostAnswer (result : Option HostResult) : Reading :=
  match result with
  | none => .unknown "its host answered with no reading"
  | some result =>
      if result.model.getD "" ≠ "" then .model (result.model.getD "") result.takenAt
      else if result.unknown.getD "" ≠ "" then .unknown (result.unknown.getD "")
      else .unknown "its host answered with no reading"

/-- A `ModelRead`; the machine is in lower case. -/
structure Read where
  machine : String
  agent : AgentInput
  answered : Option Answer
  deriving DecidableEq

/-- What an asker gets. -/
inductive Outcome where
  | fresh (answer : Answer)
  | stale (answer : Answer) (why : String)
  | unknown (why : String)
  deriving DecidableEq

/-- A held claim: in the database before it takes the reads, there with what it took, or asleep,
perhaps with its future set. -/
inductive Phase where
  | attempting
  | closing (reads : List Nat)
  | asleep (woken : Bool)
  deriving DecidableEq

structure Poll where
  machine : String
  phase : Phase
  deriving DecidableEq

structure Handout where
  readId : Nat
  machine : String
  deriving DecidableEq

structure Accepted where
  readId : Nat
  machine : String
  answer : Answer
  deriving DecidableEq

/-- `_open`, `_unclaimed` and `_last`, the held claims, and what has happened: the machine of
every read ever asked, the reads handed out, the answers accepted and the outcomes. -/
structure World where
  opened : Dict Nat Read
  unclaimed : Dict String (List Nat)
  last : Dict String Answer
  polls : Nat → Option Poll
  begun : Nat
  asked : List String
  handed : List Handout
  accepted : List Accepted
  outcomes : List (Nat × Outcome)

def initial : World := ⟨.empty, .empty, .empty, fun _ => none, 0, [], [], [], []⟩

section Protocol
variable (lowering : Lowering)

/-! ### The reads -/

/-- `_unclaimed.get(machine, [])`. -/
def World.listed (world : World) (machine : String) : List Nat :=
  (world.unclaimed.get? machine).getD []

def scope (machineId : String) : String := "model-read:" ++ lowering.lower machineId

/-- `longpoll.notify`, on the claims that are listening. -/
def World.notify (world : World) (target : String) : World :=
  { world with polls := fun number => (world.polls number).map fun poll =>
      match poll.phase with
      | .asleep _ =>
          if scope lowering poll.machine = target then { poll with phase := .asleep true } else poll
      | _ => poll }

def ask (world : World) (machineId : String) (agent : AgentInput) : World :=
  let readId := world.asked.length
  let machine := lowering.lower machineId
  World.notify lowering { world with
    opened := world.opened.set readId ⟨machine, agent, none⟩
    unclaimed := world.unclaimed.set machine (world.listed machine ++ [readId])
    asked := world.asked ++ [machine] } (scope lowering machine)

/-- The reads of `claim`: those that somebody still waits for. -/
def World.claimable (world : World) (machineId : String) : List Nat :=
  (world.listed (lowering.lower machineId)).filter fun readId =>
    (world.opened.get? readId).any fun read => read.answered.isNone

def claim (world : World) (machineId : String) : World :=
  let machine := lowering.lower machineId
  { world with
    unclaimed := world.unclaimed.erase machine
    handed := world.handed ++ (world.claimable lowering machineId).map fun readId =>
      ⟨readId, machine⟩ }

def World.waiting (world : World) (machineId : String) : Bool :=
  !(world.listed (lowering.lower machineId)).isEmpty

/-- `answer`; the host's results name agents, and only the one asked about is looked up. -/
def answer (world : World) (machineId : String) (readId : Nat) (results : Dict String HostResult)
    (readAt : String) : World :=
  match world.opened.get? readId with
  | none => world
  | some read =>
      if read.machine ≠ lowering.lower machineId ∨ read.answered.isSome then world
      else
        let given : Answer := ⟨hostAnswer (results.get? read.agent.agentId), readAt⟩
        { world with
          last := world.last.set read.agent.agentId given
          opened := world.opened.set readId { read with answered := some given }
          accepted := world.accepted ++ [⟨readId, lowering.lower machineId, given⟩] }

def forget (world : World) (readId : Nat) (read : Read) : World :=
  let waiting := world.listed read.machine
  { world with
    opened := world.opened.erase readId
    unclaimed :=
      if readId ∈ waiting then
        if (waiting.erase readId).isEmpty then world.unclaimed.erase read.machine
        else world.unclaimed.set read.machine (waiting.erase readId)
      else world.unclaimed }

def silent : String := "its host did not answer within 3 s"

/-- What `read` returns when its wait is over. -/
def outcome (world : World) (read : Read) (timedOut : Bool) : Outcome :=
  match timedOut, read.answered with
  | false, some given => .fresh given
  | _, _ =>
      match world.last.get? read.agent.agentId with
      | some earlier => .stale earlier (silent ++ "; this is its answer from " ++ earlier.readAt)
      | none => .unknown silent

/-! ### The claim -/

def World.setPoll (world : World) (number : Nat) (poll : Option Poll) : World :=
  { world with polls := Function.update world.polls number poll }

/-- After an attempt: return what it took; go again when a read came meanwhile; else sleep, or
give up when the wait is over or the caller has gone. -/
def closed (world : World) (number : Nat) (poll : Poll) (reads : List Nat) (stay : Bool) : World :=
  if reads ≠ [] then world.setPoll number none
  else if world.waiting lowering poll.machine then
    world.setPoll number (some { poll with phase := .attempting })
  else if stay then world.setPoll number (some { poll with phase := .asleep false })
  else world.setPoll number none

inductive Label where
  | ask (machineId : String) (agent : AgentInput)
  | finish (readId : Nat) (timedOut : Bool)
  | answer (machineId : String) (readId : Nat) (results : Dict String HostResult) (readAt : String)
  | poll (machineId : String)
  | dequeue (number : Nat) (machineId : String)
  | close (number : Nat) (stay : Bool)
  | fail (number : Nat)
  | resume (number : Nat) (gone : Bool)

def step (world : World) : Label → Option World
  | .ask machineId agent => some (ask lowering world machineId agent)
  | .finish readId timedOut => (world.opened.get? readId).bind fun read =>
      if timedOut || read.answered.isSome then
        some { forget world readId read with
          outcomes := world.outcomes ++ [(readId, outcome world read timedOut)] }
      else none
  | .answer machineId readId results readAt =>
      some (answer lowering world machineId readId results readAt)
  | .poll machineId =>
      some { world.setPoll world.begun (some ⟨machineId, .attempting⟩) with
        begun := world.begun + 1 }
  -- The environment is read again for the dequeue and may name another machine by then.
  | .dequeue number machineId => (world.polls number).bind fun poll =>
      if poll.phase = .attempting then
        some ((claim lowering world machineId).setPoll number
          (some { poll with phase := .closing (world.claimable lowering machineId) }))
      else none
  | .close number stay => (world.polls number).bind fun poll =>
      match poll.phase with
      | .closing reads => some (closed lowering world number poll reads stay)
      | _ => none
  | .fail number => (world.polls number).bind fun poll =>
      match poll.phase with
      | .asleep _ => none
      | _ => some (world.setPoll number none)
  | .resume number gone => (world.polls number).bind fun poll =>
      match poll.phase with
      | .asleep _ =>
          some (world.setPoll number
            (if gone then none else some { poll with phase := .attempting }))
      | _ => none

end Protocol

/-! ### What a run keeps -/

/-- Every read that is open stands in its machine's list, has been handed out or has its answer;
what stands in a list is open and has not been handed out. -/
structure Listed (listed : String → List Nat) (opened : Dict Nat Read) (handed : List Handout)
    (asked : List String) : Prop where
  nodup : ∀ machine, (listed machine).Nodup
  own : ∀ {machine id}, id ∈ listed machine →
    (∃ read, opened.get? id = some read ∧ read.machine = machine) ∧
      id ∉ handed.map Handout.readId
  placed : ∀ {id read}, opened.get? id = some read →
    id ∈ listed read.machine ∨ id ∈ handed.map Handout.readId ∨ read.answered.isSome = true
  known : ∀ {id read}, opened.get? id = some read → asked[id]? = some read.machine
  handedOnce : (handed.map Handout.readId).Nodup
  handedOwn : ∀ handout ∈ handed, asked[handout.readId]? = some handout.machine

/-- Every answer was accepted from the host of the read's machine, one for each read. -/
structure Answered (opened : Dict Nat Read) (accepted : List Accepted)
    (outcomes : List (Nat × Outcome)) (asked : List String) : Prop where
  known : ∀ {id read}, opened.get? id = some read → asked[id]? = some read.machine
  settled : ∀ {id read given}, opened.get? id = some read → read.answered = some given →
    ∃ entry ∈ accepted, entry.readId = id ∧ entry.answer = given
  unsettled : ∀ {id read}, opened.get? id = some read → read.answered = none →
    id ∉ accepted.map Accepted.readId
  once : (accepted.map Accepted.readId).Nodup
  own : ∀ entry ∈ accepted, asked[entry.readId]? = some entry.machine
  told : ∀ said ∈ outcomes, ∀ given, said.2 = .fresh given →
    ∃ entry ∈ accepted, entry.readId = said.1 ∧ entry.answer = given

/-- A claim that sleeps and has not been woken has nothing waiting for it. -/
def Asleep (lowering : Lowering) (polls : Nat → Option Poll) (listed : String → List Nat) : Prop :=
  ∀ number poll, polls number = some poll → poll.phase = .asleep false →
    listed (lowering.lower poll.machine) = []

structure Kept (lowering : Lowering) (world : World) : Prop where
  listed : Listed world.listed world.opened world.handed world.asked
  answered : Answered world.opened world.accepted world.outcomes world.asked
  asleep : Asleep lowering world.polls world.listed

section Lists
variable {listed next : String → List Nat} {opened : Dict Nat Read} {handed : List Handout}
  {asked : List String} {accepted : List Accepted} {outcomes : List (Nat × Outcome)}

theorem lt_of_asked {id : Nat} {machine : String} (found : asked[id]? = some machine) :
    id < asked.length :=
  (List.getElem?_eq_some_iff.mp found).1

theorem asked_concat {id : Nat} {machine other : String} (found : asked[id]? = some machine) :
    (asked ++ [other])[id]? = some machine := by
  rw [List.getElem?_append_left (lt_of_asked found)]
  exact found

/-- A new read has a number of its own and stands in its machine's list. -/
theorem Listed.ask (held : Listed listed opened handed asked) (machine : String)
    (agent : AgentInput) :
    Listed (Function.update listed machine (listed machine ++ [asked.length]))
      (opened.set asked.length ⟨machine, agent, none⟩) handed (asked ++ [machine]) := by
  have unlisted : ∀ other, asked.length ∉ listed other := by
    intro other inside
    obtain ⟨read, found, -⟩ := (held.own inside).1
    exact Nat.lt_irrefl _ (lt_of_asked (held.known found))
  have unhanded : asked.length ∉ handed.map Handout.readId := by
    intro inside
    obtain ⟨handout, member, same⟩ := List.mem_map.mp inside
    exact Nat.lt_irrefl _ (lt_of_asked (same ▸ held.handedOwn handout member))
  constructor
  · intro other
    by_cases same : other = machine
    · subst same
      rw [Function.update_self, List.nodup_append]
      refine ⟨held.nodup other, List.nodup_singleton _, ?_⟩
      intro id inside fresh new
      rw [List.mem_singleton.mp new]
      intro equal
      exact unlisted other (equal ▸ inside)
    · rw [Function.update_of_ne same]
      exact held.nodup other
  · intro other id inside
    by_cases new : id = asked.length
    · subst new
      by_cases same : other = machine
      · exact ⟨⟨_, Dict.get?_set_self _ _ _, same.symm⟩, unhanded⟩
      · rw [Function.update_of_ne same] at inside
        exact absurd inside (unlisted other)
    · have before : id ∈ listed other := by
        by_cases same : other = machine
        · subst same
          rw [Function.update_self, List.mem_append, List.mem_singleton] at inside
          exact inside.resolve_right new
        · rwa [Function.update_of_ne same] at inside
      rw [Dict.get?_set_ne _ _ (Ne.symm new)]
      exact held.own before
  · intro id read found
    by_cases new : asked.length = id
    · subst new
      rw [Dict.get?_set_self] at found
      cases found
      exact .inl (by simp)
    · rw [Dict.get?_set_ne _ _ new] at found
      refine (held.placed found).imp_left fun inside => ?_
      by_cases same : read.machine = machine
      · rw [same, Function.update_self]
        exact List.mem_append_left _ (same ▸ inside)
      · rwa [Function.update_of_ne same]
  · intro id read found
    by_cases new : asked.length = id
    · subst new
      rw [Dict.get?_set_self] at found
      cases found
      exact List.getElem?_concat_length
    · rw [Dict.get?_set_ne _ _ new] at found
      exact asked_concat (held.known found)
  · exact held.handedOnce
  · intro handout member
    exact asked_concat (held.handedOwn handout member)

/-- A claim takes the whole list and hands out what somebody still waits for. -/
theorem Listed.claim (held : Listed listed opened handed asked) (machine : String) :
    Listed (Function.update listed machine []) opened
      (handed ++ ((listed machine).filter fun id =>
        (opened.get? id).any fun read => read.answered.isNone).map fun id => ⟨id, machine⟩)
      asked := by
  have ids : ∀ taken : List Nat, (taken.map fun id => (⟨id, machine⟩ : Handout)).map
      Handout.readId = taken := by
    intro taken
    rw [List.map_map]
    exact List.map_id taken
  constructor
  · intro other
    by_cases same : other = machine
    · rw [same, Function.update_self]
      exact List.nodup_nil
    · rw [Function.update_of_ne same]
      exact held.nodup other
  · intro other id inside
    by_cases same : other = machine
    · rw [same, Function.update_self] at inside
      cases inside
    · rw [Function.update_of_ne same] at inside
      obtain ⟨⟨read, found, own⟩, unhanded⟩ := held.own inside
      refine ⟨⟨read, found, own⟩, ?_⟩
      rw [List.map_append, ids, List.mem_append, not_or]
      refine ⟨unhanded, ?_⟩
      -- A read stands in the list of one machine only.
      intro taken
      obtain ⟨⟨second, again, ownToo⟩, -⟩ := held.own (List.mem_of_mem_filter taken)
      rw [found] at again
      cases again
      exact same (own.symm.trans ownToo)
  · intro id read found
    rw [List.map_append, ids, List.mem_append]
    obtain inside | before | settled := held.placed found
    · by_cases same : read.machine = machine
      · cases answered : read.answered with
        | some given => exact .inr (.inr rfl)
        | none =>
            refine .inr (.inl (.inr (List.mem_filter.mpr ⟨same ▸ inside, ?_⟩)))
            rw [found, Option.any_some, answered]
            rfl
      · rw [Function.update_of_ne same]
        exact .inl inside
    · exact .inr (.inl (.inl before))
    · exact .inr (.inr settled)
  · exact held.known
  · rw [List.map_append, ids, List.nodup_append]
    refine ⟨held.handedOnce, (held.nodup machine).filter _, ?_⟩
    intro id before other taken equal
    exact (held.own (List.mem_of_mem_filter taken)).2 (equal ▸ before)
  · intro handout member
    obtain before | taken := List.mem_append.mp member
    · exact held.handedOwn handout before
    · obtain ⟨id, inside, rfl⟩ := List.mem_map.mp taken
      obtain ⟨⟨read, found, own⟩, -⟩ := held.own (List.mem_of_mem_filter inside)
      exact own ▸ held.known found

/-- A settled read keeps its place. -/
theorem Listed.answer (held : Listed listed opened handed asked) {id : Nat} {read : Read}
    (found : opened.get? id = some read) (given : Answer) :
    Listed listed (opened.set id { read with answered := some given }) handed asked := by
  constructor
  · exact held.nodup
  · intro machine other inside
    obtain ⟨⟨second, foundOther, own⟩, unhanded⟩ := held.own inside
    refine ⟨?_, unhanded⟩
    by_cases same : id = other
    · subst same
      rw [found] at foundOther
      cases foundOther
      exact ⟨_, Dict.get?_set_self _ _ _, own⟩
    · exact ⟨second, (Dict.get?_set_ne _ _ same).trans foundOther, own⟩
  · intro other second foundOther
    rw [Dict.get?_set] at foundOther
    split at foundOther
    · cases foundOther
      exact .inr (.inr rfl)
    · exact held.placed foundOther
  · intro other second foundOther
    rw [Dict.get?_set] at foundOther
    split at foundOther
    · next same =>
      cases foundOther
      have known := held.known found
      exact same ▸ known
    · exact held.known foundOther
  · exact held.handedOnce
  · exact held.handedOwn

/-- A read that is forgotten leaves its machine's list as well. -/
theorem Listed.forget (held : Listed listed opened handed asked) {id : Nat} {read : Read}
    (found : opened.get? id = some read) :
    Listed (Function.update listed read.machine ((listed read.machine).erase id))
      (opened.erase id) handed asked := by
  have before : ∀ {other second}, (opened.erase id).get? other = some second →
      other ≠ id ∧ opened.get? other = some second := by
    intro other second foundOther
    rw [Dict.get?_erase] at foundOther
    split at foundOther
    · cases foundOther
    · next differs => exact ⟨differs, foundOther⟩
  constructor
  · intro machine
    by_cases same : machine = read.machine
    · rw [same, Function.update_self]
      exact (held.nodup _).erase _
    · rw [Function.update_of_ne same]
      exact held.nodup machine
  · intro machine other inside
    have earlier : other ≠ id ∧ other ∈ listed machine := by
      by_cases same : machine = read.machine
      · rw [same, Function.update_self, (held.nodup _).mem_erase_iff] at inside
        exact same ▸ inside
      · rw [Function.update_of_ne same] at inside
        refine ⟨?_, inside⟩
        intro equal
        obtain ⟨⟨second, again, own⟩, -⟩ := held.own (equal ▸ inside)
        rw [found] at again
        cases again
        exact same own.symm
    obtain ⟨⟨second, foundOther, own⟩, unhanded⟩ := held.own earlier.2
    refine ⟨⟨second, ?_, own⟩, unhanded⟩
    rw [Dict.get?_erase, if_neg earlier.1]
    exact foundOther
  · intro other second foundOther
    obtain ⟨differs, foundBefore⟩ := before foundOther
    refine (held.placed foundBefore).imp_left fun inside => ?_
    by_cases same : second.machine = read.machine
    · rw [same, Function.update_self, (held.nodup _).mem_erase_iff]
      exact ⟨differs, same ▸ inside⟩
    · rwa [Function.update_of_ne same]
  · intro other second foundOther
    exact held.known (before foundOther).2
  · exact held.handedOnce
  · exact held.handedOwn

/-- A new read has no answer yet. -/
theorem Answered.ask (held : Answered opened accepted outcomes asked) (machine : String)
    (agent : AgentInput) :
    Answered (opened.set asked.length ⟨machine, agent, none⟩) accepted outcomes
      (asked ++ [machine]) := by
  constructor
  · intro id read found
    by_cases new : asked.length = id
    · subst new
      rw [Dict.get?_set_self] at found
      cases found
      exact List.getElem?_concat_length
    · rw [Dict.get?_set_ne _ _ new] at found
      exact asked_concat (held.known found)
  · intro id read given found answered
    rw [Dict.get?_set] at found
    split at found
    · cases found
      cases answered
    · exact held.settled found answered
  · intro id read found answered
    by_cases new : asked.length = id
    · subst new
      intro inside
      obtain ⟨entry, member, same⟩ := List.mem_map.mp inside
      exact Nat.lt_irrefl _ (lt_of_asked (same ▸ held.own entry member))
    · rw [Dict.get?_set_ne _ _ new] at found
      exact held.unsettled found answered
  · exact held.once
  · intro entry member
    exact asked_concat (held.own entry member)
  · exact held.told

/-- The first answer of a read settles it. -/
theorem Answered.answer (held : Answered opened accepted outcomes asked) {id : Nat} {read : Read}
    (found : opened.get? id = some read) (open' : read.answered = none) (given : Answer) :
    Answered (opened.set id { read with answered := some given })
      (accepted ++ [⟨id, read.machine, given⟩]) outcomes asked := by
  have known := held.known found
  constructor
  · intro other second foundOther
    rw [Dict.get?_set] at foundOther
    split at foundOther
    · next same =>
      cases foundOther
      exact same ▸ known
    · exact held.known foundOther
  · intro other second earlier foundOther answered
    rw [Dict.get?_set] at foundOther
    split at foundOther
    · next same =>
      cases foundOther
      cases answered
      exact ⟨_, List.mem_concat_self, same, rfl⟩
    · obtain ⟨entry, member, same⟩ := held.settled foundOther answered
      exact ⟨entry, List.mem_append_left _ member, same⟩
  · intro other second foundOther answered
    rw [Dict.get?_set] at foundOther
    split at foundOther
    · cases foundOther
      cases answered
    · next differs =>
      rw [List.map_append, List.mem_append, not_or]
      refine ⟨held.unsettled foundOther answered, ?_⟩
      intro inside
      exact differs (List.mem_singleton.mp inside).symm
  · rw [List.map_append, List.nodup_append]
    refine ⟨held.once, List.nodup_singleton _, ?_⟩
    intro other inside second new equal
    have same : other = id := equal.trans (List.mem_singleton.mp new)
    exact held.unsettled found open' (same ▸ inside)
  · intro entry member
    obtain before | new := List.mem_append.mp member
    · exact held.own entry before
    · rw [List.mem_singleton.mp new]
      exact known
  · intro said member earlier fresh
    obtain ⟨entry, inside, same⟩ := held.told said member earlier fresh
    exact ⟨entry, List.mem_append_left _ inside, same⟩

/-- An asker that is told something fresh is told the accepted answer. -/
theorem Answered.forget (held : Answered opened accepted outcomes asked) {id : Nat} {read : Read}
    (found : opened.get? id = some read) (told : Outcome)
    (honest : ∀ given, told = .fresh given → read.answered = some given) :
    Answered (opened.erase id) accepted (outcomes ++ [(id, told)]) asked := by
  have before : ∀ {other second}, (opened.erase id).get? other = some second →
      opened.get? other = some second := by
    intro other second foundOther
    rw [Dict.get?_erase] at foundOther
    split at foundOther
    · cases foundOther
    · exact foundOther
  constructor
  · intro other second foundOther
    exact held.known (before foundOther)
  · intro other second given foundOther answered
    exact held.settled (before foundOther) answered
  · intro other second foundOther answered
    exact held.unsettled (before foundOther) answered
  · exact held.once
  · exact held.own
  · intro said member given fresh
    obtain earlier | new := List.mem_append.mp member
    · exact held.told said earlier given fresh
    · rw [List.mem_singleton.mp new] at fresh ⊢
      exact held.settled found (honest given fresh)

end Lists

/-! ### The wake-up -/

section Steps
variable {lowering : Lowering} {world : World}

theorem Asleep.shrink {polls : Nat → Option Poll} {listed next : String → List Nat}
    (asleep : Asleep lowering polls listed)
    (less : ∀ machine, listed machine = [] → next machine = []) :
    Asleep lowering polls next := by
  intro number poll under sleeping
  exact less _ (asleep number poll under sleeping)

theorem Asleep.setPoll {polls : Nat → Option Poll} {listed : String → List Nat}
    (asleep : Asleep lowering polls listed) (number : Nat) (current : Option Poll)
    (empty : ∀ poll, current = some poll → poll.phase = .asleep false →
      listed (lowering.lower poll.machine) = []) :
    Asleep lowering (Function.update polls number current) listed := by
  intro other poll under sleeping
  by_cases same : other = number
  · rw [same, Function.update_self] at under
    exact empty poll under sleeping
  · rw [Function.update_of_ne same] at under
    exact asleep other poll under sleeping

/-- Who sleeps on after a notify was asleep before it, on another machine. -/
theorem notify_sleeping {target : String} {number : Nat} {poll : Poll}
    (under : (world.notify lowering target).polls number = some poll)
    (sleeping : poll.phase = .asleep false) :
    world.polls number = some poll ∧ scope lowering poll.machine ≠ target := by
  obtain ⟨before, found, changed⟩ := Option.map_eq_some_iff.mp under
  split at changed
  · next woken phase =>
    split at changed
    · rw [← changed] at sleeping
      cases sleeping
    · next differs =>
      subst changed
      exact ⟨found, differs⟩
  · next awake =>
    subst changed
    exact absurd sleeping (awake false)

theorem ask_listed (machineId : String) (agent : AgentInput) :
    (ask lowering world machineId agent).listed =
      Function.update world.listed (lowering.lower machineId)
        (world.listed (lowering.lower machineId) ++ [world.asked.length]) := by
  funext machine
  change ((world.unclaimed.set _ _).get? machine).getD [] = _
  rw [Dict.get?_set, Function.update_apply]
  by_cases same : lowering.lower machineId = machine
  · rw [if_pos same, if_pos same.symm, Option.getD_some]
  · rw [if_neg same, if_neg (Ne.symm same)]
    rfl

theorem claim_listed (machineId : String) :
    (claim lowering world machineId).listed =
      Function.update world.listed (lowering.lower machineId) [] := by
  funext machine
  change ((world.unclaimed.erase _).get? machine).getD [] = _
  rw [Dict.get?_erase, Function.update_apply]
  split
  · rfl
  · rfl

theorem forget_listed (readId : Nat) (read : Read) :
    (forget world readId read).listed =
      Function.update world.listed read.machine ((world.listed read.machine).erase readId) := by
  funext machine
  rw [Function.update_apply, World.listed]
  by_cases inside : readId ∈ world.listed read.machine
  · by_cases last : (world.listed read.machine).erase readId = []
    · have left : (forget world readId read).unclaimed = world.unclaimed.erase read.machine := by
        simp [forget, inside, last]
      rw [left, last, Dict.get?_erase]
      split
      · rfl
      · rfl
    · have left : (forget world readId read).unclaimed =
          world.unclaimed.set read.machine ((world.listed read.machine).erase readId) := by
        simp [forget, inside, last]
      rw [left, Dict.get?_set]
      by_cases same : read.machine = machine
      · rw [if_pos same, if_pos same.symm, Option.getD_some]
      · rw [if_neg same, if_neg (Ne.symm same)]
        rfl
  · have left : (forget world readId read).unclaimed = world.unclaimed := by
      simp [forget, inside]
    rw [left, List.erase_of_not_mem inside]
    split
    · next same =>
      rw [same]
      rfl
    · rfl

/-- A read wakes every claim that listens for its machine before anything else can run. -/
theorem ask_kept (kept : Kept lowering world) (machineId : String) (agent : AgentInput) :
    Kept lowering (ask lowering world machineId agent) := by
  constructor
  · rw [ask_listed]
    exact kept.listed.ask _ agent
  · exact kept.answered.ask _ agent
  · intro number poll under sleeping
    obtain ⟨before, elsewhere⟩ := notify_sleeping under sleeping
    rw [ask_listed, Function.update_of_ne]
    · exact kept.asleep number poll before sleeping
    · intro same
      apply elsewhere
      rw [scope, scope, same, lowering.twice]

theorem finish_kept (kept : Kept lowering world) {readId : Nat} {read : Read}
    (found : world.opened.get? readId = some read) (timedOut : Bool) :
    Kept lowering { forget world readId read with
      outcomes := world.outcomes ++ [(readId, outcome world read timedOut)] } := by
  have honest : ∀ given, outcome world read timedOut = .fresh given →
      read.answered = some given := by
    intro given fresh
    unfold outcome at fresh
    split at fresh
    · next held =>
      cases fresh
      exact held
    · split at fresh
      · cases fresh
      · cases fresh
  constructor
  · change Listed (forget world readId read).listed _ _ _
    rw [forget_listed]
    exact kept.listed.forget found
  · exact kept.answered.forget found _ honest
  · change Asleep lowering world.polls (forget world readId read).listed
    rw [forget_listed]
    refine kept.asleep.shrink ?_
    intro machine empty
    by_cases same : machine = read.machine
    · rw [same, Function.update_self, ← same, empty]
      rfl
    · rw [Function.update_of_ne same]
      exact empty

theorem answer_kept (kept : Kept lowering world) (machineId : String) (readId : Nat)
    (results : Dict String HostResult) (readAt : String) :
    Kept lowering (answer lowering world machineId readId results readAt) := by
  unfold answer
  split
  · exact kept
  · next read found =>
    split
    · exact kept
    · next accepted =>
      rw [not_or, Decidable.not_not, Option.not_isSome_iff_eq_none] at accepted
      obtain ⟨own, unsettled⟩ := accepted
      constructor
      · exact kept.listed.answer found _
      · rw [← own]
        exact kept.answered.answer found unsettled _
      · exact kept.asleep

theorem setPoll_kept (kept : Kept lowering world) (number : Nat) (current : Option Poll)
    (empty : ∀ poll, current = some poll → poll.phase = .asleep false →
      world.listed (lowering.lower poll.machine) = []) :
    Kept lowering (world.setPoll number current) :=
  ⟨kept.listed, kept.answered, kept.asleep.setPoll number current empty⟩

theorem claim_kept (kept : Kept lowering world) (machineId : String) :
    Kept lowering (claim lowering world machineId) := by
  constructor
  · rw [claim_listed]
    exact kept.listed.claim _
  · exact kept.answered
  · rw [claim_listed]
    refine kept.asleep.shrink ?_
    intro machine empty
    by_cases same : machine = lowering.lower machineId
    · rw [same, Function.update_self]
    · rw [Function.update_of_ne same]
      exact empty

/-- The one way to sleep is past the check that nothing waits. -/
theorem closed_kept (kept : Kept lowering world) (number : Nat) (poll : Poll) (reads : List Nat)
    (stay : Bool) : Kept lowering (closed lowering world number poll reads stay) := by
  unfold closed
  split
  · exact setPoll_kept kept number none nofun
  · split
    · refine setPoll_kept kept number _ ?_
      rintro _ ⟨⟩ ⟨⟩
    · next quiet =>
      split
      · refine setPoll_kept kept number _ ?_
        rintro _ ⟨⟩ -
        rw [World.waiting, Bool.not_eq_true, Bool.not_eq_false', List.isEmpty_iff] at quiet
        exact quiet
      · exact setPoll_kept kept number none nofun

theorem step_kept (kept : Kept lowering world) {label : Label} {next : World}
    (taken : step lowering world label = some next) : Kept lowering next := by
  cases label with
  | ask machineId agent =>
      rw [← Option.some.inj taken]
      exact ask_kept kept machineId agent
  | finish readId timedOut =>
      obtain ⟨read, found, granted⟩ := Option.bind_eq_some_iff.mp taken
      split at granted
      · rw [← Option.some.inj granted]
        exact finish_kept kept found timedOut
      · cases granted
  | answer machineId readId results readAt =>
      rw [← Option.some.inj taken]
      exact answer_kept kept machineId readId results readAt
  | poll machineId =>
      rw [← Option.some.inj taken]
      have begun := setPoll_kept kept world.begun (some ⟨machineId, .attempting⟩)
        (by rintro _ ⟨⟩ ⟨⟩)
      exact ⟨begun.listed, begun.answered, begun.asleep⟩
  | dequeue number machineId =>
      obtain ⟨poll, under, granted⟩ := Option.bind_eq_some_iff.mp taken
      split at granted
      · rw [← Option.some.inj granted]
        refine setPoll_kept (claim_kept kept machineId) number _ ?_
        rintro _ ⟨⟩ ⟨⟩
      · cases granted
  | close number stay =>
      obtain ⟨poll, under, granted⟩ := Option.bind_eq_some_iff.mp taken
      split at granted
      · next reads phase =>
        rw [← Option.some.inj granted]
        exact closed_kept kept number poll reads stay
      · cases granted
  | fail number =>
      obtain ⟨poll, under, granted⟩ := Option.bind_eq_some_iff.mp taken
      split at granted
      · cases granted
      · rw [← Option.some.inj granted]
        exact setPoll_kept kept number none nofun
  | resume number gone =>
      obtain ⟨poll, under, granted⟩ := Option.bind_eq_some_iff.mp taken
      split at granted
      · rw [← Option.some.inj granted]
        refine setPoll_kept kept number _ ?_
        intro current chosen sleeping
        split at chosen
        · cases chosen
        · cases chosen
          cases sleeping
      · cases granted

end Steps

theorem initial_kept (lowering : Lowering) : Kept lowering initial := by
  constructor
  · constructor
    · intro machine
      exact List.nodup_nil
    · intro machine id inside
      cases inside
    · intro id read found
      cases found
    · intro id read found
      cases found
    · exact List.nodup_nil
    · intro handout inside
      cases inside
  · constructor
    · intro id read found
      cases found
    · intro id read given found
      cases found
    · intro id read found
      cases found
    · exact List.nodup_nil
    · intro entry inside
      cases inside
    · intro said inside
      cases inside
  · intro number poll under
    cases under

/-- Whatever askers, hosts and held claims do and in whatever order, no read is slept past: while
a claim of a machine sleeps and nothing has woken it, every open read of that machine has been
handed out or answered. A read that has not is among what the next dequeue of its machine takes.
A read is handed out at most once and settled at most once, both by its own machine, and what an
asker is told as fresh is the answer that settled its read. -/
theorem held_claims_miss_nothing (lowering : Lowering) {world : World}
    (run : Reaches (step lowering) anyStep initial world) :
    (∀ id read, world.opened.get? id = some read → read.answered = none →
      id ∉ world.handed.map Handout.readId →
        (∀ number poll, world.polls number = some poll →
          lowering.lower poll.machine = read.machine → poll.phase ≠ .asleep false) ∧
        ∀ machineId, lowering.lower machineId = read.machine →
          id ∈ world.claimable lowering machineId) ∧
    (world.handed.map Handout.readId).Nodup ∧
    (∀ handout ∈ world.handed, world.asked[handout.readId]? = some handout.machine) ∧
    (world.accepted.map Accepted.readId).Nodup ∧
    (∀ entry ∈ world.accepted, world.asked[entry.readId]? = some entry.machine) ∧
    ∀ said ∈ world.outcomes, ∀ given, said.2 = .fresh given →
      ∃ entry ∈ world.accepted, entry.readId = said.1 ∧ entry.answer = given := by
  have kept := run.invariant (Kept lowering) (initial_kept lowering)
    fun _ _ _ held _ taken => step_kept held taken
  refine ⟨?_, kept.listed.handedOnce, kept.listed.handedOwn, kept.answered.once,
    kept.answered.own, kept.answered.told⟩
  intro id read found unanswered unhanded
  have inside : id ∈ world.listed read.machine := by
    obtain listed | handed | settled := kept.listed.placed found
    · exact listed
    · exact absurd handed unhanded
    · rw [unanswered] at settled
      cases settled
  constructor
  · intro number poll under own sleeping
    have empty := kept.asleep number poll under sleeping
    rw [own] at empty
    rw [empty] at inside
    cases inside
  · intro machineId own
    rw [World.claimable, List.mem_filter, own, found, Option.any_some, unanswered]
    exact ⟨inside, rfl⟩

/-- A read is asked while a claim closes an empty attempt. The claim goes again, takes it and
returns it; its host answers while the next claim sleeps. -/
theorem held_claims_miss_nothing_closing : ∃ world,
    Reaches (step ⟨id, fun _ => rfl⟩) anyStep initial world ∧
      world.polls 1 = some ⟨"m1", .asleep false⟩ ∧ world.handed = [⟨0, "m1"⟩] ∧
      world.outcomes = [(0, .fresh ⟨.model "opus" "t1", "t2"⟩)] ∧
      ∃ entry ∈ world.accepted, entry.readId = 0 ∧ entry.answer = ⟨.model "opus" "t1", "t2"⟩ := by
  have executed : (exec (step ⟨id, fun _ => rfl⟩) (fun _ _ => true) initial
      [.poll "m1", .dequeue 0 "m1", .ask "m1" ⟨"writer", "claude", "/w", "s1"⟩, .close 0 true,
        .dequeue 0 "m1", .close 0 true, .poll "m1", .dequeue 1 "m1", .close 1 true,
        .answer "m1" 0 (Dict.empty.set "writer" ⟨some "opus", "t1", none⟩) "t2",
        .finish 0 false]).map (fun world => (world.polls 1, world.handed, world.outcomes)) =
      some (some ⟨"m1", .asleep false⟩, [⟨0, "m1"⟩],
        [(0, .fresh ⟨.model "opus" "t1", "t2"⟩)]) := by decide
  obtain ⟨world, reached, seen⟩ :=
    reaches_observed _ _ _ _ (fun _ _ _ => trivial) executed
  obtain ⟨asleep, handed, outcomes⟩ : world.polls 1 = some ⟨"m1", .asleep false⟩ ∧
      world.handed = [⟨0, "m1"⟩] ∧
      world.outcomes = [(0, .fresh ⟨.model "opus" "t1", "t2"⟩)] := by
    simpa using seen
  have told := (held_claims_miss_nothing _ reached).2.2.2.2.2
  refine ⟨world, reached, asleep, handed, outcomes, ?_⟩
  exact told (0, .fresh ⟨.model "opus" "t1", "t2"⟩) (outcomes ▸ List.mem_singleton_self _) _ rfl

end AifyComms.ModelReads
