import AifyComms.Runs
import Mathlib.Data.List.Sort
import Mathlib.Data.Prod.Lex
import Mathlib.Data.String.Basic

/-!
The controls of a terminal, from the request to the host: `_append_terminal_control`
(`api_core/events.py`) writes a row or coalesces a resize with the pending one, and
`_claim_terminal_controls_once` (`api_core/terminal_controls_io.py`) hands rows out.

A request is one step. A claim selects a page of rows with no lock and takes those that
are still pending in a second step. The clock counts milliseconds, and a row keeps the
second of its last request. A terminal's environment and bridge do not change here.
-/

namespace AifyComms.TerminalControls
open Runs

/-! ### The table -/

inductive Action where
  | start
  | input
  | resize
  | stop
  deriving DecidableEq

inductive Status where
  | pending
  | claimed
  deriving DecidableEq

/-- A row of `terminal_controls`, in the order it was inserted. -/
structure Control where
  id : String
  terminalId : String
  environmentId : String
  bridgeId : String
  action : Action
  body : String
  cols : Nat
  rows : Nat
  status : Status
  requestedBy : String
  requestedAt : Nat
  claimedAt : Option Nat
  deriving DecidableEq

/-- A row of `terminal_sessions`, by what a request takes from it. -/
structure Binding where
  environmentId : String
  bridgeId : String
  deriving DecidableEq

structure Ask where
  terminalId : String
  action : Action
  body : String
  cols : Nat
  rows : Nat
  requestedBy : String
  deriving DecidableEq

/-- `f"{counter:06d}"`. -/
def sixDigits (counter : Nat) : String :=
  String.ofList (List.replicate (6 - (Nat.toDigits 10 counter).length) '0' ++ Nat.toDigits 10 counter)

/-- The text of an id: the milliseconds, the process's counter and some random digits. -/
def controlId (millis counter : Nat) (nonce : String) : String :=
  String.join ["termctl_", toString millis, "_", sixDigits counter, "_", nonce]

/-- `ORDER BY requested_at ASC, id ASC`. -/
def key (row : Control) : ℕ ×ₗ String := toLex (row.requestedAt, row.id)

/-! ### A request -/

/-- The row that a resize meets in the index of pending resizes. -/
def pendingResize (controls : List Control) (terminalId : String) : Option Control :=
  controls.find? fun row => decide (row.terminalId = terminalId ∧ row.action = .resize ∧
    row.status = .pending)

def coalescesWith (controls : List Control) (ask : Ask) : Option Control :=
  if ask.action = .resize then pendingResize controls ask.terminalId else none

/-- `requested_by or "dashboard"`. -/
def requester (ask : Ask) : String := if ask.requestedBy = "" then "dashboard" else ask.requestedBy

def insertedRow (binding : Binding) (ask : Ask) (id : String) (now : Nat) : Control :=
  ⟨id, ask.terminalId, binding.environmentId, binding.bridgeId, ask.action, ask.body, ask.cols,
    ask.rows, .pending, requester ask, now, none⟩

/-- `ON CONFLICT … DO UPDATE`: the row keeps its id. -/
def coalesced (binding : Binding) (ask : Ask) (now : Nat) (row : Control) : Control :=
  { row with
    environmentId := binding.environmentId
    bridgeId := binding.bridgeId
    body := ask.body
    cols := ask.cols
    rows := ask.rows
    requestedBy := requester ask
    requestedAt := now }

/-! ### A claim -/

structure TerminalControlClaim where
  environmentId : String
  bridgeId : String
  deriving DecidableEq

def isPendingFor (req : TerminalControlClaim) (row : Control) : Bool :=
  decide (row.environmentId = req.environmentId ∧ row.bridgeId = req.bridgeId ∧
    row.status = .pending)

/-- The rows a claim selects. -/
def page (controls : List Control) (req : TerminalControlClaim) : List Control :=
  ((controls.filter (isPendingFor req)).insertionSort fun left right => key left ≤ key right).take 20

/-- A selected row that is still pending. -/
def stillPending (controls : List Control) (id : String) : Option Control :=
  controls.find? fun row => decide (row.id = id ∧ row.status = .pending)

def claimedRow (now : Nat) (row : Control) : Control :=
  { row with status := .claimed, claimedAt := some now }

/-- What the UPDATE returns, put back in the order of the SELECT. -/
def claimedOf (controls : List Control) (ids : List String) (now : Nat) : List Control :=
  ids.filterMap fun id => (stillPending controls id).map (claimedRow now)

def claimRows (controls : List Control) (ids : List String) (now : Nat) : List Control :=
  controls.map fun row => if row.id ∈ ids ∧ row.status = .pending then claimedRow now row else row

inductive Progress where
  | reading
  | selected (now : Nat) (ids : List String)

structure Claim where
  req : TerminalControlClaim
  progress : Progress

/-! ### The system -/

/-- `lastAsked` is the request that a row was last written by, and `handed` the rows in the
order they were handed out. -/
structure World where
  millis : Nat
  counter : Nat
  controls : List Control
  lastAsked : String → Nat
  claims : Nat → Option Claim
  handed : List Control

def World.setClaim (world : World) (party : Nat) (claim : Option Claim) : World :=
  { world with claims := Function.update world.claims party claim }

/-- The world after a claim took what still waits of its page. -/
def World.take (world : World) (party : Nat) (ids : List String) (now : Nat) : World :=
  { world.setClaim party none with
    controls := claimRows world.controls ids now
    handed := world.handed ++ claimedOf world.controls ids now }

/-- The clock that stamps the row is read after the one in the id. -/
def stamp (world : World) (elapsed : Nat) : Nat := (world.millis + elapsed) / 1000

def drawnId (world : World) (nonce : String) : String := controlId world.millis world.counter nonce

/-- `_append_terminal_control`. -/
def append (binding : String → Binding) (world : World) (ask : Ask) (nonce : String)
    (elapsed : Nat) : World :=
  let id := drawnId world nonce
  let now := stamp world elapsed
  let next := { world with millis := world.millis + elapsed, counter := world.counter + 1 }
  match coalescesWith world.controls ask with
  | some found =>
      { next with
        controls := world.controls.map fun row =>
          if row.id = found.id then coalesced (binding ask.terminalId) ask now row else row
        lastAsked := Function.update world.lastAsked found.id world.counter }
  | none =>
      { next with
        controls := world.controls ++ [insertedRow (binding ask.terminalId) ask id now]
        lastAsked := Function.update world.lastAsked id world.counter }

/-- The next statement of a claim. -/
def advance (world : World) (party : Nat) (claim : Claim) : World :=
  match claim.progress with
  | .reading =>
      let rows := page world.controls claim.req
      world.setClaim party (if rows = [] then none
        else some ⟨claim.req, .selected (world.millis / 1000) (rows.map Control.id)⟩)
  | .selected now ids => world.take party ids now

inductive Label where
  | tick (elapsed : Nat)
  | request (ask : Ask) (nonce : String) (elapsed : Nat)
  | claim (party : Nat) (req : TerminalControlClaim)
  | advance (party : Nat)
  | abandon (party : Nat)

/-- An id is a primary key; a claim that the machine's proof refuses is abandoned. -/
def step (binding : String → Binding) (world : World) : Label → Option World
  | .tick elapsed => some { world with millis := world.millis + elapsed }
  | .request ask nonce elapsed =>
      if drawnId world nonce ∈ world.controls.map Control.id then none
      else some (append binding world ask nonce elapsed)
  | .claim party req =>
      if (world.claims party).isSome then none else some (world.setClaim party (some ⟨req, .reading⟩))
  | .advance party => (world.claims party).map (advance world party)
  | .abandon party => some (world.setClaim party none)

def initial (millis counter : Nat) : World := ⟨millis, counter, [], fun _ => 0, fun _ => none, []⟩

/-! ### The order of the last requests -/

def World.Waits (world : World) (row : Control) : Prop := row ∈ world.controls ∧ row.status = .pending

/-- No control is handed out twice; those of one terminal are handed out in the order of
their last requests, and all of them before what still waits. -/
structure HandedInOrder (world : World) : Prop where
  once : (world.handed.map Control.id).Nodup
  ordered : world.handed.Pairwise fun first second => first.terminalId = second.terminalId →
    world.lastAsked first.id < world.lastAsked second.id
  ahead : ∀ given ∈ world.handed, ∀ row, world.Waits row → row.terminalId = given.terminalId →
    world.lastAsked given.id < world.lastAsked row.id

/-- A page that a claim holds: whatever was asked before one of its rows, and still waits on
that row's terminal, stands before it. -/
structure Selection (world : World) (ids : List String) : Prop where
  distinct : ids.Nodup
  known : ∀ id ∈ ids, id ∈ world.controls.map Control.id
  upTo : ∀ before id after, ids = before ++ id :: after → ∀ row earlier, world.Waits row →
    world.Waits earlier → row.id = id → earlier.terminalId = row.terminalId →
    world.lastAsked earlier.id < world.lastAsked row.id → earlier.id ∈ before

structure Sound (binding : String → Binding) (world : World) : Prop extends HandedInOrder world where
  distinct : (world.controls.map Control.id).Nodup
  bound : ∀ row ∈ world.controls, ⟨row.environmentId, row.bridgeId⟩ = binding row.terminalId
  stamped : ∀ row ∈ world.controls, row.requestedAt ≤ world.millis / 1000
  asked : ∀ row ∈ world.controls, world.lastAsked row.id < world.counter
  unlike : ∀ row ∈ world.controls, ∀ other ∈ world.controls,
    world.lastAsked row.id = world.lastAsked other.id → row.id = other.id
  sorted : ∀ row later, world.Waits row → world.Waits later → row.terminalId = later.terminalId →
    world.lastAsked row.id < world.lastAsked later.id → key row < key later
  spent : ∀ given ∈ world.handed, ∃ row ∈ world.controls, row.id = given.id ∧ row.status = .claimed
  selected : ∀ party req now ids, world.claims party = some ⟨req, .selected now ids⟩ →
    Selection world ids

variable {binding : String → Binding} {world : World}

theorem initial_sound (binding : String → Binding) (millis counter : Nat) :
    Sound binding (initial millis counter) := by
  constructor
  case toHandedInOrder =>
    constructor
    · exact List.nodup_nil
    · exact List.Pairwise.nil
    · intro given member
      cases member
  case distinct => exact List.nodup_nil
  case sorted =>
    intro row later waits
    cases waits.1
  case spent =>
    intro given member
    cases member
  case selected =>
    intro party req now ids held
    cases held
  all_goals
    intro row member
    cases member

/-! ### What a request writes -/

/-- The id of the row that a request writes. -/
def writtenId (world : World) (ask : Ask) (nonce : String) : String :=
  (coalescesWith world.controls ask).elim (drawnId world nonce) Control.id

/-- A request writes one row, and stamps it with the request's time and number. -/
structure Writes (binding : String → Binding) (before after : World) (ask : Ask) (id : String)
    (now : Nat) : Prop where
  rows : ∀ row ∈ after.controls, row ∈ before.controls ∧ row.id ≠ id ∨
    row.id = id ∧ row.terminalId = ask.terminalId ∧ row.requestedAt = now ∧
      ⟨row.environmentId, row.bridgeId⟩ = binding ask.terminalId
  kept : ∀ row ∈ before.controls, row.id ≠ id → row ∈ after.controls
  ids : ∀ known ∈ before.controls.map Control.id, known ∈ after.controls.map Control.id
  distinct : (after.controls.map Control.id).Nodup
  replaces : ∀ row ∈ before.controls, row.id = id → row.status = .pending
  lastAsked : after.lastAsked = Function.update before.lastAsked id before.counter
  counter : after.counter = before.counter + 1
  claims : after.claims = before.claims
  handed : after.handed = before.handed

theorem coalescesWith_spec {controls : List Control} {ask : Ask} {found : Control}
    (coalesces : coalescesWith controls ask = some found) :
    found ∈ controls ∧ found.terminalId = ask.terminalId ∧ found.status = .pending := by
  unfold coalescesWith at coalesces
  rw [Option.ite_none_right_eq_some] at coalesces
  obtain ⟨_, found'⟩ := coalesces
  have spec := List.find?_some found'
  obtain ⟨terminal, _, pending⟩ := of_decide_eq_true spec
  exact ⟨List.mem_of_find?_eq_some found', terminal, pending⟩

theorem append_writes (sound : Sound binding world) {ask : Ask} {nonce : String} {elapsed : Nat}
    (fresh : drawnId world nonce ∉ world.controls.map Control.id) :
    Writes binding world (append binding world ask nonce elapsed) ask (writtenId world ask nonce)
      (stamp world elapsed) := by
  unfold append writtenId
  dsimp only
  cases coalesces : coalescesWith world.controls ask with
  | none =>
      rw [Option.elim_none]
      constructor
      case rows =>
        intro row member
        rcases List.mem_append.mp member with old | new
        · refine .inl ⟨old, fun same => fresh ?_⟩
          exact same ▸ List.mem_map_of_mem old
        · rw [List.mem_singleton.mp new]
          exact .inr ⟨rfl, rfl, rfl, rfl⟩
      case kept =>
        intro row member _
        exact List.mem_append_left _ member
      case ids =>
        intro known member
        rw [List.map_append]
        exact List.mem_append_left _ member
      case distinct =>
        rw [List.map_append]
        apply pairwise_concat sound.distinct
        rintro id member rfl
        exact fresh member
      case replaces =>
        intro row member same
        exact absurd (same ▸ List.mem_map_of_mem member) fresh
      all_goals rfl
  | some found =>
      obtain ⟨there, terminal, pending⟩ := coalescesWith_spec coalesces
      have unique : ∀ row ∈ world.controls, row.id = found.id → row = found := by
        intro row member same
        exact List.inj_on_of_nodup_map sound.distinct member there same
      have sameIds : (world.controls.map fun row => if row.id = found.id
          then coalesced (binding ask.terminalId) ask (stamp world elapsed) row else row).map
            Control.id = world.controls.map Control.id := by
        rw [List.map_map]
        apply List.map_congr_left
        intro row _
        dsimp only [Function.comp]
        split <;> rfl
      rw [Option.elim_some]
      constructor
      case rows =>
        intro row member
        obtain ⟨before, known, rfl⟩ := List.mem_map.mp member
        by_cases hit : before.id = found.id
        · rw [if_pos hit]
          refine .inr ⟨hit, ?_, rfl, rfl⟩
          rw [unique before known hit]
          exact terminal
        · rw [if_neg hit]
          exact .inl ⟨known, hit⟩
      case kept =>
        intro row member other
        exact List.mem_map.mpr ⟨row, member, if_neg other⟩
      case ids =>
        intro known member
        rw [sameIds]
        exact member
      case distinct =>
        rw [sameIds]
        exact sound.distinct
      case replaces =>
        intro row member same
        rw [unique row member same]
        exact pending
      all_goals rfl

/-- The row a request writes is the last of those that wait on its terminal: none of the
others that were requested in the same second has a later id, and a claim that holds the
coalesced row on its page has all the others before it. -/
def WritesLast (world : World) (ask : Ask) (nonce : String) (elapsed : Nat) : Prop :=
  ∀ row, world.Waits row → row.terminalId = ask.terminalId → row.id ≠ writtenId world ask nonce →
    (row.requestedAt = stamp world elapsed → row.id < writtenId world ask nonce) ∧
    ∀ found, coalescesWith world.controls ask = some found →
      ∀ party req now before after, world.claims party =
        some ⟨req, .selected now (before ++ found.id :: after)⟩ → row.id ∈ before

section Writes
variable {after : World} {ask : Ask} {id : String} {now : Nat}

theorem Writes.asked_other (writes : Writes binding world after ask id now) {other : String}
    (differs : other ≠ id) : after.lastAsked other = world.lastAsked other := by
  rw [writes.lastAsked, Function.update_of_ne differs]

theorem Writes.asked_self (writes : Writes binding world after ask id now) :
    after.lastAsked id = world.counter := by
  rw [writes.lastAsked, Function.update_self]

/-- A row that waits after the request: an old one, or the one it wrote. -/
theorem Writes.waits (writes : Writes binding world after ask id now) {row : Control}
    (waits : after.Waits row) : world.Waits row ∧ row.id ≠ id ∨
      row.id = id ∧ row.terminalId = ask.terminalId ∧ row.requestedAt = now := by
  rcases writes.rows row waits.1 with ⟨old, other⟩ | ⟨same, terminal, at', _⟩
  · exact .inl ⟨⟨old, waits.2⟩, other⟩
  · exact .inr ⟨same, terminal, at'⟩

/-- No row that waits was asked for after the one just written. -/
theorem Writes.newest (writes : Writes binding world after ask id now) (sound : Sound binding world)
    {row : Control} (waits : after.Waits row) : after.lastAsked row.id ≤ world.counter := by
  rcases writes.waits waits with ⟨old, other⟩ | ⟨same, _⟩
  · rw [writes.asked_other other]
    exact Nat.le_of_lt (sound.asked row old.1)
  · rw [same, writes.asked_self]

theorem Writes.given_other (writes : Writes binding world after ask id now)
    (sound : Sound binding world) {given : Control} (handed : given ∈ world.handed) :
    given.id ≠ id ∧ world.lastAsked given.id < world.counter := by
  obtain ⟨row, member, same, claimed⟩ := sound.spent given handed
  constructor
  · intro written
    cases claimed.symm.trans (writes.replaces row member (same.trans written))
  · rw [← same]
    exact sound.asked row member

theorem Writes.handedInOrder (writes : Writes binding world after ask id now)
    (sound : Sound binding world) : HandedInOrder after := by
  constructor
  case once =>
    rw [writes.handed]
    exact sound.once
  case ordered =>
    rw [writes.handed]
    apply sound.ordered.imp_of_mem
    intro first second one two earlier terminal
    rw [writes.asked_other (writes.given_other sound one).1,
      writes.asked_other (writes.given_other sound two).1]
    exact earlier terminal
  case ahead =>
    intro given handed row waits terminal
    rw [writes.handed] at handed
    obtain ⟨other, asked⟩ := writes.given_other sound handed
    rw [writes.asked_other other]
    rcases writes.waits waits with ⟨old, differs⟩ | ⟨same, _⟩
    · rw [writes.asked_other differs]
      exact sound.ahead given handed row old terminal
    · rw [same, writes.asked_self]
      exact asked

theorem Writes.sorted (writes : Writes binding world after ask id now) (sound : Sound binding world)
    (time : world.millis / 1000 ≤ now)
    (last : ∀ row, world.Waits row → row.terminalId = ask.terminalId → row.id ≠ id →
      row.requestedAt = now → row.id < id) (row later : Control) (waits : after.Waits row)
    (waitsLater : after.Waits later) (terminal : row.terminalId = later.terminalId)
    (earlier : after.lastAsked row.id < after.lastAsked later.id) : key row < key later := by
  rcases writes.waits waits with ⟨old, differs⟩ | ⟨same, _⟩
  · rcases writes.waits waitsLater with ⟨oldLater, differsLater⟩ | ⟨sameLater, ofTerminal, at'⟩
    · rw [writes.asked_other differs, writes.asked_other differsLater] at earlier
      exact sound.sorted row later old oldLater terminal earlier
    · -- the clock has not gone back, and in the same second the ids decide
      rw [key, key, Prod.Lex.toLex_lt_toLex, at', sameLater]
      rcases Nat.lt_or_eq_of_le ((sound.stamped row old.1).trans time) with before | same
      · exact .inl before
      · exact .inr ⟨same, last row old (terminal.trans ofTerminal) differs same⟩
  · rw [same, writes.asked_self] at earlier
    exact absurd (writes.newest sound waitsLater) (Nat.not_le_of_lt earlier)

theorem Writes.selection (writes : Writes binding world after ask id now)
    (sound : Sound binding world) {ids : List String} (selection : Selection world ids)
    (last : ∀ row, world.Waits row → row.terminalId = ask.terminalId → row.id ≠ id →
      ∀ before rest, ids = before ++ id :: rest → row.id ∈ before) : Selection after ids := by
  constructor
  case distinct => exact selection.distinct
  case known =>
    intro known member
    exact writes.ids known (selection.known known member)
  case upTo =>
    intro before held rest split row earlier waits waitsEarlier isHeld terminal asked
    rcases writes.waits waitsEarlier with ⟨oldEarlier, differsEarlier⟩ | ⟨same, _⟩
    · rcases writes.waits waits with ⟨old, differs⟩ | ⟨same, ofTerminal, _⟩
      · rw [writes.asked_other differs, writes.asked_other differsEarlier] at asked
        exact selection.upTo before held rest split row earlier old oldEarlier isHeld terminal asked
      · apply last earlier oldEarlier (terminal.trans ofTerminal) differsEarlier before rest
        rw [← same, isHeld]
        exact split
    · rw [same, writes.asked_self] at asked
      exact absurd (writes.newest sound waits) (Nat.not_le_of_lt asked)

end Writes

theorem Sound.request (sound : Sound binding world) {ask : Ask} {nonce : String} {elapsed : Nat}
    (fresh : drawnId world nonce ∉ world.controls.map Control.id)
    (last : WritesLast world ask nonce elapsed) : Sound binding (append binding world ask nonce elapsed) := by
  have writes : Writes binding world (append binding world ask nonce elapsed) ask
      (writtenId world ask nonce) (stamp world elapsed) := append_writes sound fresh
  have time : world.millis / 1000 ≤ stamp world elapsed :=
    Nat.div_le_div_right (Nat.le_add_right _ _)
  have clock : (append binding world ask nonce elapsed).millis / 1000 = stamp world elapsed := by
    unfold append
    dsimp only
    split <;> rfl
  constructor
  case toHandedInOrder => exact writes.handedInOrder sound
  case distinct => exact writes.distinct
  case bound =>
    intro row member
    rcases writes.rows row member with ⟨old, _⟩ | ⟨_, terminal, _, bound⟩
    · exact sound.bound row old
    · rw [bound, terminal]
  case stamped =>
    intro row member
    rw [clock]
    rcases writes.rows row member with ⟨old, _⟩ | ⟨_, _, at', _⟩
    · exact (sound.stamped row old).trans time
    · exact Nat.le_of_eq at'
  case asked =>
    intro row member
    rw [writes.counter]
    rcases writes.rows row member with ⟨old, other⟩ | ⟨same, _⟩
    · rw [writes.asked_other other]
      exact Nat.lt_succ_of_lt (sound.asked row old)
    · rw [same, writes.asked_self]
      exact Nat.lt_succ_self _
  case unlike =>
    intro row member other memberOther asked
    rcases writes.rows row member with ⟨old, differs⟩ | ⟨same, _⟩
    · rcases writes.rows other memberOther with ⟨oldOther, differsOther⟩ | ⟨sameOther, _⟩
      · rw [writes.asked_other differs, writes.asked_other differsOther] at asked
        exact sound.unlike row old other oldOther asked
      · rw [writes.asked_other differs, sameOther, writes.asked_self] at asked
        exact absurd asked (Nat.ne_of_lt (sound.asked row old))
    · rcases writes.rows other memberOther with ⟨oldOther, differsOther⟩ | ⟨sameOther, _⟩
      · rw [writes.asked_other differsOther, same, writes.asked_self] at asked
        exact absurd asked.symm (Nat.ne_of_lt (sound.asked other oldOther))
      · exact same.trans sameOther.symm
  case sorted =>
    apply writes.sorted sound time
    intro row waits terminal differs
    exact (last row waits terminal differs).1
  case spent =>
    intro given handed
    rw [writes.handed] at handed
    obtain ⟨row, member, same, claimed⟩ := sound.spent given handed
    have other := (writes.given_other sound handed).1
    exact ⟨row, writes.kept row member (same ▸ other), same, claimed⟩
  case selected =>
    intro party req now ids held
    rw [writes.claims] at held
    have selection := sound.selected party req now ids held
    apply writes.selection sound selection
    intro row waits terminal differs before rest split
    have onPage : writtenId world ask nonce ∈ world.controls.map Control.id := by
      apply selection.known
      rw [split]
      exact List.mem_append_right _ List.mem_cons_self
    cases coalesces : coalescesWith world.controls ask with
    | none =>
        rw [writtenId, coalesces] at onPage
        exact absurd onPage fresh
    | some found =>
        rw [split, writtenId, coalesces, Option.elim_some] at held
        exact (last row waits terminal differs).2 found coalesces party req now before rest held

/-! ### What a claim selects and takes -/

theorem page_mem {controls : List Control} {req : TerminalControlClaim} {row : Control}
    (member : row ∈ page controls req) : row ∈ controls ∧ isPendingFor req row = true := by
  have sorted := List.mem_of_mem_take member
  exact List.mem_filter.mp ((List.mem_insertionSort _).mp sorted)

theorem page_distinct {controls : List Control} (distinct : (controls.map Control.id).Nodup)
    (req : TerminalControlClaim) : ((page controls req).map Control.id).Nodup := by
  have filtered : ((controls.filter (isPendingFor req)).map Control.id).Nodup :=
    distinct.sublist (List.filter_sublist.map _)
  have perm := (List.perm_insertionSort (fun left right => key left ≤ key right)
    (controls.filter (isPendingFor req))).map Control.id
  exact (perm.nodup_iff.mpr filtered).sublist ((List.take_sublist _ _).map _)

/-- A row with a smaller key that the claim could select stands before the row on its page. -/
theorem page_before {controls : List Control} {req : TerminalControlClaim} {row earlier : Control}
    {before rest : List Control} (split : page controls req = before ++ row :: rest)
    (member : earlier ∈ controls) (pending : isPendingFor req earlier = true)
    (smaller : key earlier < key row) : earlier ∈ before := by
  have total : Std.Total (fun left right : Control => key left ≤ key right) :=
    ⟨fun left right => le_total (key left) (key right)⟩
  have transitive : IsTrans Control (fun left right => key left ≤ key right) :=
    ⟨fun _ _ _ => le_trans⟩
  have sorted := List.pairwise_insertionSort (fun left right : Control => key left ≤ key right)
    (controls.filter (isPendingFor req))
  have listed := (List.mem_insertionSort (fun left right : Control => key left ≤ key right)).mpr
    (List.mem_filter.mpr ⟨member, pending⟩)
  rw [← List.take_append_drop 20 ((controls.filter (isPendingFor req)).insertionSort _)]
    at sorted listed
  have cut : ((controls.filter (isPendingFor req)).insertionSort
      fun left right => key left ≤ key right).take 20 = before ++ row :: rest := split
  rw [cut, List.append_assoc, List.cons_append] at sorted listed
  have behind := (List.pairwise_cons.mp (List.pairwise_append.mp sorted).2.1).1
  rcases List.mem_append.mp listed with found | found
  · exact found
  · rcases List.mem_cons.mp found with rfl | after
    · exact absurd smaller (lt_irrefl _)
    · exact absurd smaller (not_lt_of_ge (behind earlier after))

theorem page_selection (sound : Sound binding world) (req : TerminalControlClaim) :
    Selection world ((page world.controls req).map Control.id) := by
  constructor
  case distinct => exact page_distinct sound.distinct req
  case known =>
    intro id member
    obtain ⟨row, onPage, rfl⟩ := List.mem_map.mp member
    exact List.mem_map_of_mem (page_mem onPage).1
  case upTo =>
    intro before id rest split row earlier waits waitsEarlier isRow terminal asked
    obtain ⟨first, second, cut, rfl, later⟩ := List.map_eq_append_iff.mp split
    obtain ⟨held, last, rfl, isHeld, rfl⟩ := List.map_eq_cons_iff.mp later
    have onPage : held ∈ page world.controls req := by
      rw [cut]
      exact List.mem_append_right _ List.mem_cons_self
    obtain ⟨there, forReq⟩ := page_mem onPage
    obtain rfl : row = held :=
      List.inj_on_of_nodup_map sound.distinct waits.1 there (isRow.trans isHeld.symm)
    have same : Binding.mk earlier.environmentId earlier.bridgeId = ⟨row.environmentId, row.bridgeId⟩ := by
      rw [sound.bound earlier waitsEarlier.1, sound.bound row waits.1, terminal]
    obtain ⟨environment, bridge⟩ := Binding.mk.inj same
    obtain ⟨ofEnvironment, ofBridge, _⟩ := of_decide_eq_true forReq
    have earlierPending : isPendingFor req earlier = true :=
      decide_eq_true ⟨environment.trans ofEnvironment, bridge.trans ofBridge, waitsEarlier.2⟩
    have smaller := sound.sorted earlier row waitsEarlier waits terminal asked
    exact List.mem_map_of_mem (page_before cut waitsEarlier.1 earlierPending smaller)

theorem stillPending_spec {controls : List Control} {id : String} {row : Control}
    (found : stillPending controls id = some row) :
    row ∈ controls ∧ row.id = id ∧ row.status = .pending := by
  unfold stillPending at found
  have spec := List.find?_some found
  exact ⟨List.mem_of_find?_eq_some found, of_decide_eq_true spec⟩

theorem claimedOf_mem {controls : List Control} {ids : List String} {now : Nat} {given : Control}
    (member : given ∈ claimedOf controls ids now) :
    ∃ row ∈ controls, row.status = .pending ∧ row.id ∈ ids ∧ given = claimedRow now row := by
  obtain ⟨id, selected, found⟩ := List.mem_filterMap.mp member
  obtain ⟨row, waits, rfl⟩ := Option.map_eq_some_iff.mp found
  obtain ⟨there, named, pending⟩ := stillPending_spec waits
  exact ⟨row, there, pending, named ▸ selected, rfl⟩

theorem claimedOf_ids (controls : List Control) (ids : List String) (now : Nat) :
    ((claimedOf controls ids now).map Control.id).Sublist ids := by
  induction ids with
  | nil => exact List.Sublist.refl _
  | cons id rest ih =>
      unfold claimedOf at ih ⊢
      cases found : stillPending controls id with
      | none =>
          rw [List.filterMap_cons_none (by rw [found]; rfl)]
          exact ih.cons id
      | some row =>
          have named : row.id = id := (stillPending_spec found).2.1
          rw [List.filterMap_cons_some (by rw [found]; rfl), List.map_cons, claimedRow, named]
          exact ih.cons_cons id

theorem claimRows_ids (controls : List Control) (ids : List String) (now : Nat) :
    (claimRows controls ids now).map Control.id = controls.map Control.id := by
  rw [claimRows, List.map_map]
  apply List.map_congr_left
  intro row _
  dsimp only [Function.comp]
  split <;> rfl

/-- A row after the UPDATE: one it did not take, or one it did. -/
theorem claimRows_mem {controls : List Control} {ids : List String} {now : Nat} {row : Control}
    (member : row ∈ claimRows controls ids now) :
    row ∈ controls ∧ (row.status = .pending → row.id ∉ ids) ∨
      ∃ taken ∈ controls, row = claimedRow now taken := by
  obtain ⟨before, known, rfl⟩ := List.mem_map.mp member
  by_cases hit : before.id ∈ ids ∧ before.status = .pending
  · rw [if_pos hit]
    exact .inr ⟨before, known, rfl⟩
  · rw [if_neg hit]
    exact .inl ⟨known, fun pending selected => hit ⟨selected, pending⟩⟩

section Take
variable {ids : List String} {now : Nat}

theorem take_waits {party : Nat} {row : Control} (waits : (world.take party ids now).Waits row) :
    world.Waits row ∧ row.id ∉ ids := by
  rcases claimRows_mem waits.1 with ⟨old, left⟩ | ⟨taken, _, rfl⟩
  · exact ⟨⟨old, waits.2⟩, left waits.2⟩
  · cases waits.2

/-- What a page holds was asked for before what it does not. -/
theorem Selection.before_rest (selection : Selection world ids) (sound : Sound binding world)
    {row other : Control} (waits : world.Waits row) (selected : row.id ∈ ids)
    (waitsOther : world.Waits other) (left : other.id ∉ ids)
    (terminal : other.terminalId = row.terminalId) :
    world.lastAsked row.id < world.lastAsked other.id := by
  rcases Nat.lt_trichotomy (world.lastAsked row.id) (world.lastAsked other.id) with less | same | more
  · exact less
  · exact absurd (sound.unlike row waits.1 other waitsOther.1 same ▸ selected) left
  · obtain ⟨before, rest, split⟩ := List.append_of_mem selected
    have earlier := selection.upTo before row.id rest split row other waits waitsOther rfl terminal more
    exact absurd (split ▸ List.mem_append_left _ earlier) left

/-- Of two rows of a page the first was asked for before the other. -/
theorem Selection.in_order (selection : Selection world ids) (sound : Sound binding world) :
    (claimedOf world.controls ids now).Pairwise fun first second =>
      first.terminalId = second.terminalId → world.lastAsked first.id < world.lastAsked second.id := by
  unfold claimedOf
  apply List.pairwise_filterMap.mpr
  apply pairwise_of_splits
  intro before id after split later behind first found second foundLater terminal
  obtain ⟨row, waits, rfl⟩ := Option.map_eq_some_iff.mp found
  obtain ⟨other, waitsOther, rfl⟩ := Option.map_eq_some_iff.mp foundLater
  obtain ⟨there, named, pending⟩ := stillPending_spec waits
  obtain ⟨thereOther, namedOther, pendingOther⟩ := stillPending_spec waitsOther
  have distinct := selection.distinct
  rw [split, List.nodup_append] at distinct
  rcases Nat.lt_trichotomy (world.lastAsked row.id) (world.lastAsked other.id) with less | same | more
  · exact less
  · have twice := sound.unlike row there other thereOther same
    rw [named, namedOther] at twice
    exact absurd (twice ▸ behind) (List.nodup_cons.mp distinct.2.1).1
  · have earlier := selection.upTo before id after split row other ⟨there, pending⟩
      ⟨thereOther, pendingOther⟩ named terminal.symm more
    rw [namedOther] at earlier
    exact absurd rfl (distinct.2.2 later earlier later (List.mem_cons_of_mem _ behind))

theorem take_handedInOrder (sound : Sound binding world) (selection : Selection world ids)
    (party : Nat) : HandedInOrder (world.take party ids now) := by
  constructor
  case once =>
    rw [World.take, List.map_append, List.nodup_append]
    refine ⟨sound.once, selection.distinct.sublist (claimedOf_ids _ _ _), ?_⟩
    rintro id old _ new rfl
    obtain ⟨given, handed, rfl⟩ := List.mem_map.mp old
    obtain ⟨again, member, same⟩ := List.mem_map.mp new
    obtain ⟨row, there, pending, _, rfl⟩ := claimedOf_mem member
    obtain ⟨spent, thereSpent, sameSpent, claimed⟩ := sound.spent given handed
    have twice : row = spent :=
      List.inj_on_of_nodup_map sound.distinct there thereSpent (same.trans sameSpent.symm)
    rw [twice, claimed] at pending
    cases pending
  case ordered =>
    apply List.pairwise_append.mpr
    refine ⟨sound.ordered, selection.in_order sound, ?_⟩
    intro given handed new member terminal
    obtain ⟨row, there, pending, _, rfl⟩ := claimedOf_mem member
    exact sound.ahead given handed row ⟨there, pending⟩ terminal.symm
  case ahead =>
    intro given member row waits terminal
    obtain ⟨waitsBefore, left⟩ := take_waits waits
    rcases List.mem_append.mp member with handed | new
    · exact sound.ahead given handed row waitsBefore terminal
    · obtain ⟨taken, there, pending, selected, rfl⟩ := claimedOf_mem new
      have before : world.lastAsked taken.id < world.lastAsked row.id :=
        selection.before_rest sound ⟨there, pending⟩ selected waitsBefore left terminal
      exact before

/-- The rows keep all but their status and time of claim. -/
theorem take_row {party : Nat} {row : Control} (member : row ∈ (world.take party ids now).controls) :
    ∃ before ∈ world.controls, row.id = before.id ∧ row.terminalId = before.terminalId ∧
      row.environmentId = before.environmentId ∧ row.bridgeId = before.bridgeId ∧
      row.requestedAt = before.requestedAt := by
  rcases claimRows_mem member with ⟨old, _⟩ | ⟨taken, there, rfl⟩
  · exact ⟨row, old, rfl, rfl, rfl, rfl, rfl⟩
  · exact ⟨taken, there, rfl, rfl, rfl, rfl, rfl⟩

theorem Sound.take (sound : Sound binding world) (selection : Selection world ids) (party : Nat) :
    Sound binding (world.take party ids now) := by
  have sameIds : (world.take party ids now).controls.map Control.id =
      world.controls.map Control.id := claimRows_ids _ _ _
  constructor
  case toHandedInOrder => exact take_handedInOrder sound selection party
  case distinct =>
    rw [sameIds]
    exact sound.distinct
  case bound =>
    intro row member
    obtain ⟨before, there, _, terminal, environment, bridge, _⟩ := take_row member
    rw [terminal, environment, bridge]
    exact sound.bound before there
  case stamped =>
    intro row member
    obtain ⟨before, there, _, _, _, _, at'⟩ := take_row member
    rw [at']
    exact sound.stamped before there
  case asked =>
    intro row member
    obtain ⟨before, there, same, _⟩ := take_row member
    rw [same]
    exact sound.asked before there
  case unlike =>
    intro row member other memberOther asked
    obtain ⟨before, there, same, _⟩ := take_row member
    obtain ⟨beforeOther, thereOther, sameOther, _⟩ := take_row memberOther
    rw [same, sameOther] at asked ⊢
    exact sound.unlike before there beforeOther thereOther asked
  case sorted =>
    intro row later waits waitsLater
    exact sound.sorted row later (take_waits waits).1 (take_waits waitsLater).1
  case spent =>
    intro given member
    rcases List.mem_append.mp member with handed | new
    · obtain ⟨row, there, same, claimed⟩ := sound.spent given handed
      refine ⟨row, List.mem_map.mpr ⟨row, there, if_neg ?_⟩, same, claimed⟩
      rintro ⟨_, pending⟩
      cases claimed.symm.trans pending
    · obtain ⟨taken, there, pending, selected, rfl⟩ := claimedOf_mem new
      refine ⟨claimedRow now taken, ?_, rfl, rfl⟩
      exact List.mem_map.mpr ⟨taken, there, if_pos ⟨selected, pending⟩⟩
  case selected =>
    intro other req at' held claimed
    rcases update_some claimed with ⟨_, ended⟩ | before
    · cases ended
    · have holds := sound.selected other req at' held before
      constructor
      case distinct => exact holds.distinct
      case known =>
        rw [sameIds]
        exact holds.known
      case upTo =>
        intro first id rest split row earlier waits waitsEarlier
        exact holds.upTo first id rest split row earlier (take_waits waits).1 (take_waits waitsEarlier).1

end Take

/-! ### Runs -/

def Allowed (world : World) : Label → Prop
  | .request ask nonce elapsed => WritesLast world ask nonce elapsed
  | _ => True

/-- A claim moves on without a write. -/
theorem Sound.setClaim (sound : Sound binding world) (party : Nat) (next : Option Claim)
    (holds : ∀ req now ids, next = some ⟨req, .selected now ids⟩ → Selection world ids) :
    Sound binding (world.setClaim party next) := by
  refine ⟨⟨sound.once, sound.ordered, sound.ahead⟩, sound.distinct, sound.bound, sound.stamped,
    sound.asked, sound.unlike, sound.sorted, sound.spent, ?_⟩
  intro other req now ids held
  have selection : Selection world ids := by
    rcases update_some held with ⟨_, moved⟩ | before
    · exact holds req now ids moved
    · exact sound.selected other req now ids before
  exact ⟨selection.distinct, selection.known, selection.upTo⟩

theorem sound_step (binding : String → Binding) (before : World) (label : Label) (after : World)
    (sound : Sound binding before) (allowed : Allowed before label)
    (taken : step binding before label = some after) : Sound binding after := by
  cases label with
  | tick elapsed =>
      obtain rfl := Option.some.inj taken
      have time : before.millis / 1000 ≤ (before.millis + elapsed) / 1000 :=
        Nat.div_le_div_right (Nat.le_add_right _ _)
      refine ⟨⟨sound.once, sound.ordered, sound.ahead⟩, sound.distinct, sound.bound, ?_,
        sound.asked, sound.unlike, sound.sorted, sound.spent, ?_⟩
      · intro row member
        exact (sound.stamped row member).trans time
      · intro party req now ids held
        have selection := sound.selected party req now ids held
        exact ⟨selection.distinct, selection.known, selection.upTo⟩
  | request ask nonce elapsed =>
      dsimp only [step] at taken
      split at taken
      · cases taken
      · next fresh =>
          obtain rfl := Option.some.inj taken
          exact sound.request fresh allowed
  | claim party req =>
      dsimp only [step] at taken
      split at taken
      · cases taken
      · obtain rfl := Option.some.inj taken
        apply sound.setClaim
        intro req now ids moved
        cases moved
  | advance party =>
      obtain ⟨⟨req, progress⟩, held, rfl⟩ := Option.map_eq_some_iff.mp taken
      cases progress with
      | reading =>
          apply sound.setClaim
          intro req' now ids moved
          dsimp only at moved
          split at moved
          · cases moved
          · obtain ⟨_, selects⟩ := Claim.mk.inj (Option.some.inj moved)
            rw [← (Progress.selected.inj selects).2]
            exact page_selection sound req
      | selected now ids => exact sound.take (sound.selected party req now ids held) party
  | abandon party =>
      obtain rfl := Option.some.inj taken
      apply sound.setClaim
      intro req now ids moved
      cases moved

def boundToEnv (_ : String) : Binding := ⟨"linux:devbox:default", "env-1"⟩

def hostClaim : TerminalControlClaim := ⟨"linux:devbox:default", "env-1"⟩

def resizeTo (cols : Nat) : Ask := ⟨"term-1", .resize, "", cols, 40, "dashboard"⟩

def typing (body : String) : Ask := ⟨"term-1", .input, body, 0, 0, "dashboard"⟩

structure Seen where
  action : Action
  body : String
  cols : Nat
  asked : Nat
  deriving DecidableEq

def handedSeen (world : World) : List Seen :=
  world.handed.map fun row => ⟨row.action, row.body, row.cols, world.lastAsked row.id⟩

/-- The host's poll: it opens, selects and takes. -/
def poll (party : Nat) : List Label := [.claim party hostClaim, .advance party, .advance party]

/-- A request that coalesces with the only row that waits on its terminal, or whose row has
the last key. -/
def writesLast (world : World) : Label → Bool
  | .request ask nonce elapsed => world.controls.all fun row =>
      decide (row.status = .pending → row.terminalId = ask.terminalId →
        row.id ≠ writtenId world ask nonce → coalescesWith world.controls ask = none ∧
          (row.requestedAt = stamp world elapsed → row.id < writtenId world ask nonce))
  | _ => true

theorem writesLast_allowed (world : World) (label : Label) (granted : writesLast world label = true) :
    Allowed world label := by
  cases label with
  | request ask nonce elapsed =>
      intro row waits terminal differs
      have checked := of_decide_eq_true (List.all_eq_true.mp granted row waits.1)
      obtain ⟨plain, last⟩ := checked waits.2 terminal differs
      refine ⟨last, ?_⟩
      intro found coalesces
      cases plain.symm.trans coalesces
  | _ => trivial

end AifyComms.TerminalControls
