import AifyComms.Runs
import Mathlib.Data.List.Forall2

/-!
The dashboard's input poster, `createTerminalInputPoster` (`new_dashboard/terminal-input.mjs`):
keystrokes that arrive while a POST is in flight travel together in the next one.

A POST is a chain of promises: what `api` returns, the promise of `.catch(onError)`, and the
reaction to it. `api`'s promise settles at any time; `onError` returns. The reactions are
steps of their own, and calls of the poster come between any two of them, so the runs include
every order of the microtask queue. Promises are numbered as they are made.
-/

namespace AifyComms.InputPoster
open Runs

/-! ### The poster -/

inductive Answer where
  | resolved
  | rejected
  deriving DecidableEq

/-- A POST; its answer once `api`'s promise has settled. -/
structure Post where
  body : String
  answer : Option Answer
  deriving DecidableEq

/-- What runs when the promise of `post` has settled: `sendNext`, or `settle(); sendNext()`
with the resolver it holds. -/
inductive Reaction where
  | sendNext
  | settleThenSendNext (settle : Option Nat)
  deriving DecidableEq

/-- `posting` until `api`'s promise settles, `answered` until `catch` has passed it on or run
`onError`, `caught` until the reaction has run. -/
inductive Stage where
  | posting
  | answered
  | caught
  deriving DecidableEq

/-- The promises of one POST: `sent` is what `post` returned. -/
structure Chain where
  sent : Nat
  stage : Stage
  reaction : Reaction
  deriving DecidableEq

/-- A call of the poster, and the promise it returned. -/
structure Call where
  data : String
  returned : Nat
  deriving DecidableEq

/-- The four variables of the closure, then the POSTs made so far with their chains, the
promises made and settled, and the calls. `inFlight` is the POST whose chain it holds. -/
structure World where
  inFlight : Option Nat
  buffered : String
  bufferedSent : Option Nat
  settleBuffered : Option Nat
  posts : List Post
  chains : Nat → Option Chain
  promises : Nat
  settled : List Nat
  calls : List Call

def World.post (world : World) (body : String) (reaction : Reaction) : World :=
  { world with
    posts := world.posts ++ [⟨body, none⟩]
    chains := Function.update world.chains world.posts.length
      (some ⟨world.promises, .posting, reaction⟩)
    promises := world.promises + 1
    inFlight := some world.posts.length }

def sendNext (world : World) : World :=
  if world.buffered = "" then { world with inFlight := none }
  else
    let emptied := { world with buffered := "", bufferedSent := none, settleBuffered := none }
    emptied.post world.buffered (.settleThenSendNext world.settleBuffered)

def World.noteCall (world : World) (data : String) (returned : Nat) : World :=
  { world with calls := world.calls ++ [⟨data, returned⟩] }

/-- `new Promise(…)`, kept with its resolver. -/
def World.openBatch (world : World) : World :=
  { world with
    bufferedSent := some world.promises
    settleBuffered := some world.promises
    promises := world.promises + 1 }

def World.more (world : World) (data : String) : World :=
  { world with buffered := world.buffered ++ data }

/-- A call while a POST is in flight. -/
def buffer (world : World) (data : String) : World :=
  match world.bufferedSent with
  | some sent => (world.more data).noteCall data sent
  | none => (world.more data).openBatch.noteCall data world.promises

/-- The function that `createTerminalInputPoster` returns. -/
def call (world : World) (data : String) : World :=
  match world.inFlight with
  | none => (world.noteCall data world.promises).post data .sendNext
  | some _ => buffer world data

def World.settle (world : World) (promise : Nat) : World :=
  { world with settled := promise :: world.settled }

/-- A reaction; one without a resolver would throw. -/
def react (world : World) : Reaction → World
  | .sendNext => sendNext world
  | .settleThenSendNext none => world
  | .settleThenSendNext (some promise) => sendNext (world.settle promise)

def World.setChain (world : World) (index : Nat) (chain : Option Chain) : World :=
  { world with chains := Function.update world.chains index chain }

inductive Label where
  | call (data : String)
  | answer (index : Nat) (answer : Answer)
  | caught (index : Nat)
  | react (index : Nat)

def step (world : World) : Label → Option World
  | .call data => if data = "" then none else some (call world data)
  | .answer index answer => (world.chains index).bind fun chain =>
      if chain.stage = .posting then
        some { world.setChain index (some { chain with stage := .answered }) with
          posts := world.posts.modify index fun post => { post with answer := some answer } }
      else none
  | .caught index => (world.chains index).bind fun chain =>
      if chain.stage = .answered then
        some ((world.setChain index (some { chain with stage := .caught })).settle chain.sent)
      else none
  | .react index => (world.chains index).bind fun chain =>
      if chain.stage = .caught then some (react (world.setChain index none) chain.reaction)
      else none

def initial : World := ⟨none, "", none, none, [], fun _ => none, 0, [], []⟩

/-! ### What arrives -/

/-- What was typed in some calls. -/
def typed (calls : List Call) : String := String.join (calls.map Call.data)

/-- A POST carries the calls of a group, and none of their promises has settled before it
was answered. -/
def Carries (world : World) (group : List Call) (post : Post) : Prop :=
  post.body = typed group ∧ ∀ call ∈ group, call.returned ∈ world.settled → post.answer.isSome = true

structure ArrivesWhole (world : World) : Prop where
  stream : String.join (world.posts.map Post.body) ++ world.buffered = typed world.calls
  carried : ∃ groups waiting, world.calls = groups.flatten ++ waiting ∧
    List.Forall₂ (Carries world) groups world.posts ∧ world.buffered = typed waiting ∧
    ∀ call ∈ waiting, call.returned ∉ world.settled
  single : (world.posts.filter fun post => post.answer.isNone).length ≤ 1
  idle : world.inFlight = none → world.buffered = "" ∧
    (∀ post ∈ world.posts, post.answer.isSome = true) ∧
    ∀ call ∈ world.calls, call.returned ∈ world.settled
  drained : (∀ post ∈ world.posts, post.answer.isSome = true) →
    (∀ index chain, world.chains index = some chain → chain.stage = .posting) →
    world.inFlight = none

/-! ### The invariant -/

/-- The promise that the calls of a chain's POST returned. -/
def Chain.waiter (chain : Chain) : Nat :=
  match chain.reaction with
  | .settleThenSendNext (some promise) => promise
  | _ => chain.sent

def Carried (group : List Call) (post : Post) : Prop :=
  post.body = typed group ∧ post.answer.isSome = true

/-- The POSTs whose reactions have run. -/
structure Finished (world : World) (groups : List (List Call)) (posts : List Post) : Prop where
  carried : List.Forall₂ Carried groups posts
  settled : ∀ call ∈ groups.flatten, call.returned ∈ world.settled

/-- The calls that wait in the buffer share one promise, which nothing has settled. -/
structure Buffers (world : World) (waiting : List Call) : Prop where
  text : world.buffered = typed waiting
  filled : ∀ call ∈ waiting, call.data ≠ ""
  resolver : world.settleBuffered = world.bufferedSent
  shared : ∀ call ∈ waiting, world.bufferedSent = some call.returned
  held : ∀ promise, world.bufferedSent = some promise →
    waiting ≠ [] ∧ promise < world.promises ∧ promise ∉ world.settled

/-- The POST whose chain is under way. -/
structure Flies (world : World) (group : List Call) (post : Post) (chain : Chain) : Prop where
  body : post.body = typed group
  answered : post.answer.isSome = true ↔ chain.stage ≠ .posting
  reacts : chain.reaction ≠ .settleThenSendNext none
  shared : ∀ call ∈ group, call.returned = chain.waiter
  early : chain.waiter ∈ world.settled → chain.stage ≠ .posting
  passed : chain.stage = .caught → chain.sent ∈ world.settled
  known : chain.sent < world.promises ∧ chain.waiter < world.promises
  apart : world.bufferedSent ≠ some chain.sent ∧ world.bufferedSent ≠ some chain.waiter

def onlyChain (index : Nat) (chain : Option Chain) : Nat → Option Chain :=
  Function.update (fun _ => none) index chain

inductive Sound (world : World) : Prop where
  | idle (groups : List (List Call)) (finished : Finished world groups world.posts)
      (calls : world.calls = groups.flatten) (chains : world.chains = fun _ => none)
      (inFlight : world.inFlight = none) (buffers : Buffers world [])
      (past : ∀ promise ∈ world.settled, promise < world.promises) : Sound world
  | busy (groups : List (List Call)) (earlier : List Post) (group waiting : List Call) (post : Post)
      (chain : Chain) (finished : Finished world groups earlier)
      (posts : world.posts = earlier ++ [post])
      (calls : world.calls = groups.flatten ++ (group ++ waiting))
      (chains : world.chains = onlyChain earlier.length (some chain))
      (inFlight : world.inFlight = some earlier.length) (flies : Flies world group post chain)
      (buffers : Buffers world waiting)
      (past : ∀ promise ∈ world.settled, promise < world.promises) : Sound world

theorem typed_append (first second : List Call) : typed (first ++ second) = typed first ++ typed second := by
  rw [typed, List.map_append, String.join_append]
  rfl

theorem carried_bodies {groups : List (List Call)} {posts : List Post}
    (carried : List.Forall₂ Carried groups posts) :
    String.join (posts.map Post.body) = typed groups.flatten ∧
      ∀ post ∈ posts, post.answer.isSome = true := by
  induction carried with
  | nil =>
      constructor
      · rfl
      · intro post member
        cases member
  | cons first _ ih =>
      constructor
      · rw [List.map_cons, String.join_cons, List.flatten_cons, typed_append, first.1, ih.1]
      · intro post member
        rcases List.mem_cons.mp member with rfl | later
        · exact first.2
        · exact ih.2 post later

theorem typed_eq_empty {calls : List Call} (filled : ∀ call ∈ calls, call.data ≠ "")
    (empty : typed calls = "") : calls = [] := by
  cases calls with
  | nil => rfl
  | cons first rest =>
      have blank := filled first List.mem_cons_self
      rw [typed, List.map_cons, String.join_cons, String.append_eq_empty_iff] at empty
      exact absurd empty.1 blank

theorem onlyChain_some {index other : Nat} {chain : Option Chain} {found : Chain}
    (held : onlyChain index chain other = some found) : other = index ∧ chain = some found := by
  rcases update_some held with same | none'
  · exact same
  · cases none'

theorem onlyChain_update (index : Nat) (first second : Option Chain) :
    Function.update (onlyChain index first) index second = onlyChain index second := by
  rw [onlyChain, Function.update_idem]
  rfl

theorem Buffers.empty_iff {world : World} {waiting : List Call} (buffers : Buffers world waiting) :
    world.buffered = "" ↔ waiting = [] := by
  constructor
  · intro empty
    exact typed_eq_empty buffers.filled (buffers.text.symm.trans empty)
  · rintro rfl
    exact buffers.text

variable {world : World} {groups : List (List Call)} {posts : List Post}

theorem Finished.carries (finished : Finished world groups posts) :
    List.Forall₂ (Carries world) groups posts :=
  finished.carried.imp fun _ _ done => ⟨done.1, fun _ _ _ => done.2⟩

/-- A POST whose reaction ran is one more of the finished ones. -/
theorem Finished.concat (finished : Finished world groups posts) {group : List Call} {post : Post}
    (carried : Carried group post) (settled : ∀ call ∈ group, call.returned ∈ world.settled) :
    Finished world (groups ++ [group]) (posts ++ [post]) := by
  constructor
  case carried => exact List.rel_append finished.carried (.cons carried .nil)
  case settled =>
    intro call member
    rw [List.flatten_append, List.flatten_singleton] at member
    rcases List.mem_append.mp member with old | new
    · exact finished.settled call old
    · exact settled call new

/-- Settling more promises, or making more, finishes no less. -/
theorem Finished.mono (finished : Finished world groups posts) {after : World}
    (more : ∀ promise ∈ world.settled, promise ∈ after.settled) : Finished after groups posts :=
  ⟨finished.carried, fun call member => more _ (finished.settled call member)⟩

theorem filter_unanswered (answered : ∀ post ∈ posts, post.answer.isSome = true) :
    posts.filter (fun post => post.answer.isNone) = [] := by
  apply List.filter_eq_nil_iff.mpr
  intro post member unanswered
  rw [Option.isNone_iff_eq_none] at unanswered
  have some' := answered post member
  rw [unanswered] at some'
  cases some'

theorem Sound.arrivesWhole (sound : Sound world) : ArrivesWhole world := by
  cases sound with
  | idle groups finished calls chains inFlight buffers past =>
      obtain ⟨bodies, answered⟩ := carried_bodies finished.carried
      have empty := buffers.empty_iff.mpr rfl
      constructor
      case stream => rw [bodies, empty, String.append_empty, calls]
      case carried =>
        refine ⟨groups, [], ?_, finished.carries, buffers.text, ?_⟩
        · rw [calls, List.append_nil]
        · intro call member
          cases member
      case single => rw [filter_unanswered answered, List.length_nil]; exact Nat.zero_le 1
      case idle =>
        intro _
        rw [calls]
        exact ⟨empty, answered, finished.settled⟩
      case drained => exact fun _ _ => inFlight
  | busy groups earlier group waiting post chain finished posts calls chains inFlight flies buffers
      past =>
      obtain ⟨bodies, answered⟩ := carried_bodies finished.carried
      constructor
      case stream =>
        rw [posts, List.map_append, String.join_append, bodies, List.map_singleton,
          String.join_cons, String.join_nil, String.append_empty, flies.body, buffers.text, calls,
          typed_append, typed_append, String.append_assoc]
      case carried =>
        refine ⟨groups ++ [group], waiting, ?_, ?_, buffers.text, ?_⟩
        · rw [calls, List.flatten_append, List.flatten_singleton, List.append_assoc]
        · rw [posts]
          refine List.rel_append finished.carries (.cons ⟨flies.body, ?_⟩ .nil)
          intro call member settled
          rw [flies.shared call member] at settled
          exact flies.answered.mpr (flies.early settled)
        · intro call member
          exact (buffers.held _ (buffers.shared call member)).2.2
      case single =>
        rw [posts, List.filter_append, filter_unanswered answered, List.nil_append]
        exact List.length_filter_le _ _
      case idle =>
        intro none'
        cases inFlight.symm.trans none'
      case drained =>
        intro done quiet
        have stage := quiet earlier.length chain (by rw [chains, onlyChain, Function.update_self])
        have answer := done post (posts ▸ List.mem_append_right _ List.mem_cons_self)
        exact absurd stage (flies.answered.mp answer)

/-! ### The steps -/

theorem buffers_empty (world : World) (buffered : world.buffered = "")
    (sent : world.bufferedSent = none) (resolver : world.settleBuffered = none) :
    Buffers world [] := by
  constructor
  case text => exact buffered
  case resolver => rw [sent, resolver]
  case held =>
    intro promise held
    cases sent.symm.trans held
  all_goals
    intro call member
    cases member

theorem Buffers.none_of_empty (buffers : Buffers world []) : world.bufferedSent = none := by
  cases held : world.bufferedSent with
  | none => rfl
  | some promise => exact absurd rfl (buffers.held promise held).1

/-- A POST of some calls, made when no chain is under way. -/
theorem post_sound (groups : List (List Call)) (finished : Finished world groups world.posts) {group : List Call}
    (calls : world.calls = groups.flatten ++ group) (chains : world.chains = fun _ => none)
    (buffers : Buffers world []) (past : ∀ promise ∈ world.settled, promise < world.promises)
    {reaction : Reaction} (reacts : reaction ≠ .settleThenSendNext none)
    (shared : ∀ call ∈ group, call.returned = (Chain.mk world.promises .posting reaction).waiter)
    (unsettled : (Chain.mk world.promises .posting reaction).waiter ∉ world.settled)
    (known : (Chain.mk world.promises .posting reaction).waiter < world.promises + 1) :
    Sound (world.post (typed group) reaction) := by
  have none' := buffers.none_of_empty
  apply Sound.busy groups world.posts group [] ⟨typed group, none⟩
    ⟨world.promises, .posting, reaction⟩
  case finished => exact finished.mono fun _ member => member
  case posts => rfl
  case calls => rw [List.append_nil]; exact calls
  case chains => rw [World.post, chains]; rfl
  case inFlight => rfl
  case flies =>
    constructor
    case body => rfl
    case answered => simp
    case reacts => exact reacts
    case shared => exact shared
    case early => exact fun settled => absurd settled unsettled
    case passed => exact fun caught => by cases caught
    case known => exact ⟨Nat.lt_succ_self _, known⟩
    case apart =>
      rw [World.post, none']
      constructor <;> exact fun same => by cases same
  case buffers => exact buffers_empty _ (buffers.empty_iff.mpr rfl) none' (buffers.resolver.trans none')
  case past =>
    intro promise settled
    exact Nat.lt_succ_of_lt (past promise settled)

/-- `sendNext` after a chain has run: the calls that waited travel in one POST. -/
theorem sendNext_sound (groups : List (List Call)) (waiting : List Call)
    (finished : Finished world groups world.posts) (calls : world.calls = groups.flatten ++ waiting) (chains : world.chains = fun _ => none)
    (buffers : Buffers world waiting)
    (past : ∀ promise ∈ world.settled, promise < world.promises) : Sound (sendNext world) := by
  unfold sendNext
  by_cases empty : world.buffered = ""
  · rw [if_pos empty]
    obtain rfl := buffers.empty_iff.mp empty
    apply Sound.idle groups
    case finished => exact finished.mono fun _ member => member
    case calls => exact calls.trans (List.append_nil _)
    case chains => exact chains
    case inFlight => rfl
    case buffers =>
      have none' := buffers.none_of_empty
      exact buffers_empty _ empty none' (buffers.resolver.trans none')
    case past => exact past
  · rw [if_neg empty]
    dsimp only
    obtain ⟨first, member⟩ := List.exists_mem_of_ne_nil waiting
      fun none' => empty (buffers.empty_iff.mpr none')
    have sent := buffers.shared first member
    obtain ⟨_, made, unsettled⟩ := buffers.held _ sent
    rw [buffers.text, buffers.resolver, sent]
    apply post_sound groups
    case finished => exact finished.mono fun _ member => member
    case calls => exact calls
    case chains => exact chains
    case buffers => exact buffers_empty _ rfl rfl rfl
    case past => exact past
    case reacts => exact fun throws => by cases throws
    case shared =>
      intro call waits
      exact Option.some.inj ((buffers.shared call waits).symm.trans sent)
    case unsettled => exact unsettled
    case known => exact Nat.lt_succ_of_lt made

/-- The buffer after one more call, with the promise it returned. -/
theorem Buffers.concat {waiting : List Call} (buffers : Buffers world waiting) {data : String}
    (filled : data ≠ "") {after : World} {promise : Nat}
    (text : after.buffered = world.buffered ++ data)
    (resolver : after.settleBuffered = after.bufferedSent)
    (sent : after.bufferedSent = some promise)
    (same : ∀ call ∈ waiting, call.returned = promise)
    (made : promise < after.promises) (unsettled : promise ∉ after.settled) :
    Buffers after (waiting ++ [⟨data, promise⟩]) := by
  constructor
  case text =>
    rw [text, typed_append, buffers.text]
    simp [typed]
  case filled =>
    intro call member
    rcases List.mem_append.mp member with old | new
    · exact buffers.filled call old
    · rw [List.mem_singleton.mp new]
      exact filled
  case resolver => exact resolver
  case shared =>
    intro call member
    rcases List.mem_append.mp member with old | new
    · rw [same call old]
      exact sent
    · rw [List.mem_singleton.mp new]
      exact sent
  case held =>
    intro other held
    obtain rfl := Option.some.inj (held.symm.trans sent)
    exact ⟨List.append_ne_nil_of_right_ne_nil _ (List.cons_ne_nil _ _), made, unsettled⟩

/-- The flight is not touched by a call that buffers. -/
theorem Flies.buffered {group : List Call} {post : Post} {chain : Chain}
    (flies : Flies world group post chain) {after : World} (settled : after.settled = world.settled)
    (more : world.promises ≤ after.promises)
    (apart : after.bufferedSent ≠ some chain.sent ∧ after.bufferedSent ≠ some chain.waiter) :
    Flies after group post chain := by
  refine ⟨flies.body, flies.answered, flies.reacts, flies.shared, ?_, ?_, ?_, apart⟩
  · rw [settled]
    exact flies.early
  · rw [settled]
    exact flies.passed
  · exact ⟨Nat.lt_of_lt_of_le flies.known.1 more, Nat.lt_of_lt_of_le flies.known.2 more⟩

theorem Sound.buffer (sound : Sound world) {data : String} (filled : data ≠ "")
    (inFlight : world.inFlight ≠ none) : Sound (buffer world data) := by
  cases sound with
  | idle groups finished calls chains free buffers past => exact absurd free inFlight
  | busy groups earlier group waiting post chain finished posts calls chains inFlight flies buffers
      past =>
      cases held : world.bufferedSent with
      | some sent =>
          obtain ⟨_, made, unsettled⟩ := buffers.held sent held
          rw [InputPoster.buffer, held]
          dsimp only
          apply Sound.busy groups earlier group (waiting ++ [⟨data, sent⟩]) post chain
          case finished => exact finished.mono fun _ member => member
          case posts => exact posts
          case calls => simp only [World.noteCall, World.more, calls, List.append_assoc]
          case chains => exact chains
          case inFlight => exact inFlight
          case flies => exact flies.buffered rfl (Nat.le_refl _) flies.apart
          case buffers =>
            apply buffers.concat filled
            case text => rfl
            case resolver => exact buffers.resolver
            case sent => exact held
            case same =>
              intro call member
              exact Option.some.inj ((buffers.shared call member).symm.trans held)
            case made => exact made
            case unsettled => exact unsettled
          case past => exact past
      | none =>
          have none' : waiting = [] := by
            cases waiting with
            | nil => rfl
            | cons first rest =>
                cases held.symm.trans (buffers.shared first List.mem_cons_self)
          rw [InputPoster.buffer, held]
          dsimp only
          apply Sound.busy groups earlier group (waiting ++ [⟨data, world.promises⟩]) post chain
          case finished => exact finished.mono fun _ member => member
          case posts => exact posts
          case calls => simp only [World.noteCall, World.openBatch, World.more, calls, List.append_assoc]
          case chains => exact chains
          case inFlight => exact inFlight
          case flies =>
            -- the new promise is none of the chain's
            apply flies.buffered
            case settled => rfl
            case more => exact Nat.le_succ _
            case apart =>
              constructor
              · intro same
                exact Nat.ne_of_gt flies.known.1 (Option.some.inj same)
              · intro same
                exact Nat.ne_of_gt flies.known.2 (Option.some.inj same)
          case buffers =>
            apply buffers.concat filled
            case text => rfl
            case resolver => rfl
            case sent => rfl
            case same =>
              intro call member
              rw [none'] at member
              cases member
            case made => exact Nat.lt_succ_self _
            case unsettled => exact fun made => Nat.lt_irrefl _ (past _ made)
          case past =>
            intro promise settled
            exact Nat.lt_succ_of_lt (past promise settled)

theorem Sound.call (sound : Sound world) {data : String} (filled : data ≠ "") :
    Sound (call world data) := by
  cases inFlight : world.inFlight with
  | some index =>
      rw [InputPoster.call, inFlight]
      exact sound.buffer filled (by rw [inFlight]; exact Option.some_ne_none index)
  | none =>
      cases sound with
      | busy groups earlier group waiting post chain finished posts calls chains busy =>
          cases inFlight.symm.trans busy
      | idle groups finished calls chains _ buffers past =>
          have none' := buffers.none_of_empty
          have posted : Sound ((world.noteCall data world.promises).post
              (typed [⟨data, world.promises⟩]) .sendNext) := by
            apply post_sound groups
            case finished => exact finished.mono fun _ member => member
            case calls => rw [World.noteCall, calls]
            case chains => exact chains
            case buffers =>
              exact buffers_empty _ (buffers.empty_iff.mpr rfl) none' (buffers.resolver.trans none')
            case past => exact past
            case reacts => exact fun throws => by cases throws
            case shared =>
              intro call member
              rw [List.mem_singleton.mp member]
              rfl
            case unsettled => exact fun made => Nat.lt_irrefl _ (past _ made)
            case known => exact Nat.lt_succ_self _
          rw [InputPoster.call, inFlight]
          simpa [typed] using posted

/-- Settling a promise that no call waits for in the buffer. -/
theorem Buffers.settle {waiting : List Call} (buffers : Buffers world waiting) {promise : Nat}
    (apart : world.bufferedSent ≠ some promise) : Buffers (world.settle promise) waiting := by
  refine ⟨buffers.text, buffers.filled, buffers.resolver, buffers.shared, ?_⟩
  intro other held
  obtain ⟨some', made, unsettled⟩ := buffers.held other held
  refine ⟨some', made, ?_⟩
  intro settled
  rcases List.mem_cons.mp settled with rfl | before
  · exact apart held
  · exact unsettled before

theorem modify_last (earlier : List Post) (post : Post) (change : Post → Post) :
    (earlier ++ [post]).modify earlier.length change = earlier ++ [change post] := by
  induction earlier with
  | nil => rfl
  | cons first rest ih =>
      rw [List.cons_append, List.length_cons, List.modify_succ_cons, ih, List.cons_append]

theorem Sound.answer (sound : Sound world) {index : Nat} {chain : Chain} (answer : Answer)
    (held : world.chains index = some chain) (stage : chain.stage = .posting) :
    Sound { world.setChain index (some { chain with stage := .answered }) with
      posts := world.posts.modify index fun post => { post with answer := some answer } } := by
  cases sound with
  | idle groups finished calls chains =>
      rw [chains] at held
      cases held
  | busy groups earlier group waiting post flying finished posts calls chains inFlight flies buffers
      past =>
      rw [chains] at held
      obtain ⟨rfl, same⟩ := onlyChain_some held
      obtain rfl := Option.some.inj same
      apply Sound.busy groups earlier group waiting { post with answer := some answer }
        { flying with stage := .answered }
      case finished => exact finished.mono fun _ member => member
      case posts => rw [posts, modify_last]
      case calls => exact calls
      case chains => rw [World.setChain, chains, onlyChain_update]
      case inFlight => exact inFlight
      case flies =>
        constructor
        case body => exact flies.body
        case answered => simp
        case reacts => exact flies.reacts
        case shared => exact flies.shared
        case early => exact fun _ => by simp
        case passed => exact fun caught => by cases caught
        case known => exact flies.known
        case apart => exact flies.apart
      case buffers =>
        exact ⟨buffers.text, buffers.filled, buffers.resolver, buffers.shared, buffers.held⟩
      case past => exact past

theorem Sound.caught (sound : Sound world) {index : Nat} {chain : Chain}
    (held : world.chains index = some chain) (stage : chain.stage = .answered) :
    Sound ((world.setChain index (some { chain with stage := .caught })).settle chain.sent) := by
  cases sound with
  | idle groups finished calls chains =>
      rw [chains] at held
      cases held
  | busy groups earlier group waiting post flying finished posts calls chains inFlight flies buffers
      past =>
      rw [chains] at held
      obtain ⟨rfl, same⟩ := onlyChain_some held
      obtain rfl := Option.some.inj same
      apply Sound.busy groups earlier group waiting post { flying with stage := .caught }
      case finished => exact finished.mono fun _ member => List.mem_cons_of_mem _ member
      case posts => exact posts
      case calls => exact calls
      case chains => rw [World.settle, World.setChain, chains, onlyChain_update]
      case inFlight => exact inFlight
      case flies =>
        constructor
        case body => exact flies.body
        case answered =>
          have answered := flies.answered.mpr (by rw [stage]; simp)
          simp [answered]
        case reacts => exact flies.reacts
        case shared => exact flies.shared
        case early => exact fun _ => by simp
        case passed => exact fun _ => List.mem_cons_self
        case known => exact flies.known
        case apart => exact flies.apart
      case buffers =>
        have kept : Buffers (world.setChain earlier.length (some { flying with stage := .caught }))
            waiting :=
          ⟨buffers.text, buffers.filled, buffers.resolver, buffers.shared, buffers.held⟩
        exact kept.settle flies.apart.1
      case past =>
        intro promise settled
        rcases List.mem_cons.mp settled with rfl | before
        · exact flies.known.1
        · exact past promise before

theorem Sound.react (sound : Sound world) {index : Nat} {chain : Chain}
    (held : world.chains index = some chain) (stage : chain.stage = .caught) :
    Sound (react (world.setChain index none) chain.reaction) := by
  cases sound with
  | idle groups finished calls chains =>
      rw [chains] at held
      cases held
  | busy groups earlier group waiting post flying finished posts calls chains inFlight flies buffers
      past =>
      rw [chains] at held
      obtain ⟨rfl, same⟩ := onlyChain_some held
      obtain rfl := Option.some.inj same
      have carried : Carried group post := ⟨flies.body, flies.answered.mpr (by rw [stage]; simp)⟩
      have free : (world.setChain earlier.length none).chains = fun _ => none := by
        rw [World.setChain, chains, onlyChain_update, onlyChain]
        exact Function.update_eq_self _ _
      have grouped : world.calls = (groups ++ [group]).flatten ++ waiting := by
        rw [calls, List.flatten_append, List.flatten_singleton, List.append_assoc]
      have kept : Buffers (world.setChain earlier.length none) waiting :=
        ⟨buffers.text, buffers.filled, buffers.resolver, buffers.shared, buffers.held⟩
      obtain ⟨sent, _, reaction⟩ := flying
      cases reaction with
      | sendNext =>
          have done : Finished world (groups ++ [group]) (earlier ++ [post]) := by
            apply finished.concat carried
            intro call member
            rw [flies.shared call member]
            exact flies.passed stage
          rw [← posts] at done
          apply sendNext_sound (groups ++ [group]) waiting
          case finished => exact done.mono fun _ member => member
          case calls => exact grouped
          case chains => exact free
          case buffers => exact kept
          case past => exact past
      | settleThenSendNext settle =>
          cases settle with
          | none => exact absurd rfl flies.reacts
          | some promise =>
              have done : Finished (world.settle promise) (groups ++ [group]) (earlier ++ [post]) := by
                apply (finished.mono fun _ member => List.mem_cons_of_mem _ member).concat carried
                intro call member
                rw [flies.shared call member]
                exact List.mem_cons_self
              rw [← posts] at done
              apply sendNext_sound (groups ++ [group]) waiting
              case finished => exact done.mono fun _ member => member
              case calls => exact grouped
              case chains => exact free
              case buffers => exact kept.settle flies.apart.2
              case past =>
                intro other settled
                rcases List.mem_cons.mp settled with rfl | before
                · exact flies.known.2
                · exact past other before

theorem sound_step (before : World) (label : Label) (after : World) (sound : Sound before)
    (_ : anyStep before label) (taken : step before label = some after) : Sound after := by
  cases label with
  | call data =>
      obtain ⟨filled, rfl⟩ := (Option.ite_none_left_eq_some.mp taken).imp id Option.some.inj
      exact sound.call filled
  | answer index answer =>
      obtain ⟨chain, held, taken⟩ := Option.bind_eq_some_iff.mp taken
      obtain ⟨stage, rfl⟩ := (Option.ite_none_right_eq_some.mp taken).imp id Option.some.inj
      exact sound.answer answer held stage
  | caught index =>
      obtain ⟨chain, held, taken⟩ := Option.bind_eq_some_iff.mp taken
      obtain ⟨stage, rfl⟩ := (Option.ite_none_right_eq_some.mp taken).imp id Option.some.inj
      exact sound.caught held stage
  | react index =>
      obtain ⟨chain, held, taken⟩ := Option.bind_eq_some_iff.mp taken
      obtain ⟨stage, rfl⟩ := (Option.ite_none_right_eq_some.mp taken).imp id Option.some.inj
      exact sound.react held stage

theorem initial_sound : Sound initial := by
  apply Sound.idle []
  case finished =>
    constructor
    case carried => exact .nil
    case settled =>
      intro call member
      cases member
  case buffers => exact buffers_empty _ rfl rfl rfl
  case past =>
    intro promise member
    cases member
  all_goals rfl

/-- Whatever the order of calls, answers and reactions: the POSTs carry the calls whole and in
order, one at a time, no call's promise settles before its POST is answered, and when no POST
is in flight nothing waits. -/
theorem keystrokes_arrive {world : World} (run : Reaches step anyStep initial world) :
    ArrivesWhole world := by
  have sound := run.invariant Sound initial_sound sound_step
  exact sound.arrivesWhole

/-- Two keys typed behind the first, whose POST is rejected, and one more before the reaction
to it has run: the three travel in the second POST. -/
def typeBehind : List Label :=
  [.call "l", .call "s", .call " ", .answer 0 .rejected, .caught 0, .call "-", .react 0,
    .call "a", .answer 1 .resolved, .caught 1]

structure Seen where
  bodies : List String
  buffered : String
  settled : List Nat
  returned : List Nat
  deriving DecidableEq

def seen (world : World) : Seen :=
  ⟨world.posts.map Post.body, world.buffered, world.settled, world.calls.map Call.returned⟩

theorem typed_behind_arrives :
    ∃ world, Reaches step anyStep initial world ∧
      seen world = ⟨["l", "s -"], "a", [2, 0], [0, 1, 1, 1, 3]⟩ ∧ ArrivesWhole world := by
  have executed : (exec step (fun _ _ => true) initial typeBehind).map seen =
      some ⟨["l", "s -"], "a", [2, 0], [0, 1, 1, 1, 3]⟩ := by
    decide
  obtain ⟨world, run, observed⟩ := reaches_observed _ _ _ _ (fun _ _ _ => trivial) executed
  exact ⟨world, run, observed, keystrokes_arrive run⟩

end AifyComms.InputPoster
