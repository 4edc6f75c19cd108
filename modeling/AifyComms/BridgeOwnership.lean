import AifyComms.BridgeChain
import Mathlib.Logic.Relation

/-!
One owner per session chain. A registration and a reclaim each make one bridge the
end of the chain and send what was not superseded behind it, so no cycle closes and
no second bridge stays free. That holds of a reclaim only while what its heartbeat
read is still so: the heartbeat takes no lock before its first write, and two
bridges behind a silent owner may both take the session.
-/

namespace AifyComms.BridgeChain
open PyText Runs SpawnRequests SessionHandles

/-! ### Links sent to a sink -/

section Sink
universe u
variable {Node : Type u} {old new : Node → Node → Prop} {sink : Node}

theorem chain_redirected (redirected : ∀ a b, new a b → old a b ∨ b = sink)
    (ends : ∀ b, ¬ new sink b) {a b : Node} (chain : Relation.TransGen new a b) :
    Relation.TransGen old a b ∨ b = sink := by
  induction chain with
  | single link => exact (redirected _ _ link).imp_left .single
  | tail _ link ih =>
      rcases redirected _ _ link with kept | atSink
      · rcases ih with before | atSink
        · exact .inl (before.tail kept)
        · exact absurd (atSink ▸ link) (ends _)
      · exact .inr atSink

/-- Where every new link leads to a node that has none, no cycle is closed. -/
theorem acyclic_redirected (acyclic : ∀ a, ¬ Relation.TransGen old a a)
    (redirected : ∀ a b, new a b → old a b ∨ b = sink) (ends : ∀ b, ¬ new sink b) (a : Node) :
    ¬ Relation.TransGen new a a := by
  intro cycle
  rcases chain_redirected redirected ends cycle with before | atSink
  · exact acyclic a before
  · subst atSink
    obtain ⟨next, link, _⟩ := Relation.TransGen.head'_iff.mp cycle
    exact ends next link

end Sink

/-! ### The rows a step leaves -/

variable {lease : Nat} {store before after : Store} {bridges : Bridges}

theorem link_iff {a b : String} {row : Bridge} (found : bridges.get? a = some row) :
    Link bridges a b ↔ row.supersededBy = b ∧ b ≠ "" := by
  constructor
  · rintro ⟨other, same, superseded⟩
    cases found.symm.trans same
    exact superseded
  · exact fun superseded => ⟨row, found, superseded⟩

theorem acyclic_of_sink {changed : Bridges} {sink : String} (acyclic : Acyclic bridges)
    (redirected : ∀ a b, Link changed a b → Link bridges a b ∨ b = sink)
    (ends : ∀ b, ¬ Link changed sink b) : Acyclic changed :=
  acyclic_redirected acyclic redirected ends

/-- A mark or a bridge that names no other leads nowhere. -/
theorem ends_of_none {id : String} (absent : bridges.get? id = none) (b : String) :
    ¬ Link bridges id b := by
  rintro ⟨row, found, _⟩
  cases absent.symm.trans found

theorem ends_of_free {id : String} {row : Bridge} (found : bridges.get? id = some row)
    (unsuperseded : row.supersededBy = "") (b : String) : ¬ Link bridges id b := by
  rw [link_iff found]
  rintro ⟨same, named⟩
  exact named (same.symm.trans unsuperseded)

/-- An offer names the bridge it was made for, and that bridge's loss made it. -/
def Known (offered : List (String × String)) (id : String) (offer : Option Offer) : Prop :=
  ∀ made, offer = some made → made.lostBridge ≠ "" ∧ (made.lostBridge, id) ∈ offered

/-- What holds of the rows between steps. -/
structure Owned (store : Store) : Prop where
  acyclic : Acyclic store.bridges
  oneOwner : OneOwner store
  unmarked : store.bridges.get? "resident-lost" = none
  named : store.bridges.get? "" = none
  known : ∀ id row, store.bridges.get? id = some row → Known store.offered id row.handbackOffer

theorem Known.mono {offered more : List (String × String)} {id : String} {offer : Option Offer}
    (known : Known offered id offer) (grows : offered ⊆ more) : Known more id offer :=
  fun made same => ⟨(known made same).1, grows (known made same).2⟩

/-! ### Registering -/

theorem get?_recordBridge (req : Registration) (now : Nat) (id : String) :
    (recordBridge bridges req now).get? id =
      if req.bridgeId = id then some ⟨recordedHandle req, "", none, none, now, req.startedAt⟩
      else (bridges.get? id).map (supersede req.bridgeId now) := by
  rw [recordBridge, Dict.get?_set, Dict.get?_mapValues]

/-- The row is superseded now: by what superseded it before, or by the bridge. -/
structure SentBehind (bridgeId : String) (old new : Bridge) : Prop where
  superseded : new.supersededBy ≠ ""
  link : new.supersededBy = old.supersededBy ∨ new.supersededBy = bridgeId
  offer : new.handbackOffer = old.handbackOffer

theorem supersede_sent {bridgeId : String} (named : bridgeId ≠ "") (now : Nat) (row : Bridge) :
    SentBehind bridgeId row (supersede bridgeId now row) := by
  unfold supersede
  split
  · exact ⟨named, .inr rfl, rfl⟩
  · next already => exact ⟨already, .inl rfl, rfl⟩

theorem recordBridge_redirects {req : Registration} (given : req.bridgeId ≠ "") (now : Nat)
    {a b : String} (link : Link (recordBridge bridges req now) a b) : Link bridges a b ∨ b = req.bridgeId := by
  obtain ⟨row, found, rfl, named⟩ := link
  rw [get?_recordBridge] at found
  split at found
  · cases found
    exact absurd rfl named
  · obtain ⟨old, present, rfl⟩ := Option.map_eq_some_iff.mp found
    rcases (supersede_sent given now old).link with kept | moved
    · exact .inl ⟨old, present, kept.symm, named⟩
    · exact .inr moved

theorem registered_owned (owned : Owned store) (req : Registration) (named : req.bridgeId ≠ "")
    (unmarked : req.bridgeId ≠ "resident-lost") : Owned (registered store req) where
  acyclic := by
    apply acyclic_of_sink owned.acyclic fun _ _ => recordBridge_redirects named store.clock
    exact ends_of_free ((get?_recordBridge req store.clock req.bridgeId).trans (if_pos rfl)) rfl
  oneOwner := by
    intro id row found _ unsuperseded
    simp only [registered, get?_recordBridge] at found
    split at found
    · next same => exact same.symm
    · obtain ⟨old, _, rfl⟩ := Option.map_eq_some_iff.mp found
      exact absurd unsuperseded (supersede_sent named store.clock old).superseded
  unmarked := by
    simp only [registered, get?_recordBridge, unmarked, if_false, owned.unmarked, Option.map_none]
  named := by
    simp only [registered, get?_recordBridge, named, if_false, owned.named, Option.map_none]
  known := by
    intro id row found
    simp only [registered, get?_recordBridge] at found
    split at found
    · cases found
      rintro _ ⟨⟩
    · obtain ⟨old, present, rfl⟩ := Option.map_eq_some_iff.mp found
      rw [(supersede_sent named store.clock old).offer]
      exact owned.known id old present

/-! ### Reclaiming -/

theorem get?_reclaim (beat : Beat) (owner id : String) (other : owner ≠ beat.bridgeId) :
    (reclaim store beat owner).bridges.get? id =
      if id = beat.bridgeId then (store.bridges.get? id).map free
      else if id = owner then (store.bridges.get? id).map (standBehind beat.bridgeId beat.now)
      else store.bridges.get? id := by
  simp only [reclaim, Dict.get?_modify]
  by_cases isOwner : id = owner
  · have notMine : id ≠ beat.bridgeId := fun same => other (isOwner.symm.trans same)
    simp only [isOwner, if_true, if_neg (isOwner ▸ notMine)]
  · simp only [isOwner, if_false]

theorem standBehind_sent {bridgeId : String} (named : bridgeId ≠ "") (now : Nat) (row : Bridge) :
    SentBehind bridgeId row (standBehind bridgeId now row) := by
  unfold standBehind
  split
  · exact ⟨named, .inr rfl, rfl⟩
  · next already => exact ⟨already, .inl rfl, rfl⟩

theorem reclaim_redirects {beat : Beat} {owner a b : String} (given : beat.bridgeId ≠ "")
    (other : owner ≠ beat.bridgeId) (link : Link (reclaim store beat owner).bridges a b) :
    Link store.bridges a b ∨ b = beat.bridgeId := by
  obtain ⟨row, found, rfl, named⟩ := link
  rw [get?_reclaim beat owner a other] at found
  split at found
  · obtain ⟨old, _, rfl⟩ := Option.map_eq_some_iff.mp found
    exact absurd rfl named
  · split at found
    · obtain ⟨old, present, rfl⟩ := Option.map_eq_some_iff.mp found
      rcases (standBehind_sent given beat.now old).link with kept | moved
      · exact .inl ⟨old, present, kept.symm, named⟩
      · exact .inr moved
    · exact .inl ⟨row, found, rfl, named⟩

/-- The bridge that reclaims is superseded by none. -/
theorem reclaim_ends {beat : Beat} {owner : String} (other : owner ≠ beat.bridgeId) (b : String) :
    ¬ Link (reclaim store beat owner).bridges beat.bridgeId b := by
  rintro ⟨row, found, rfl, named⟩
  rw [get?_reclaim beat owner _ other, if_pos rfl] at found
  obtain ⟨old, _, rfl⟩ := Option.map_eq_some_iff.mp found
  exact named rfl

-- The old owner is sent behind the bridge that reclaims, and every other bridge
-- was superseded before: but only if the owner that was read is still the owner.
theorem reclaim_owned (owned : Owned store) {beat : Beat} (named : beat.bridgeId ≠ "")
    (other : store.agent.owner ≠ beat.bridgeId) :
    Owned (reclaim store beat store.agent.owner) where
  acyclic :=
    acyclic_of_sink owned.acyclic (fun _ _ => reclaim_redirects named other) (reclaim_ends other)
  oneOwner := by
    intro id row found handled unsuperseded
    rw [get?_reclaim beat _ id other] at found
    split at found
    · assumption
    · next notMine =>
        split at found
        · obtain ⟨old, _, rfl⟩ := Option.map_eq_some_iff.mp found
          exact absurd unsuperseded (standBehind_sent named beat.now old).superseded
        · next notOwner => exact absurd (owned.oneOwner id row found handled unsuperseded) notOwner
  unmarked := by
    rw [get?_reclaim beat _ _ other, owned.unmarked]
    simp only [Option.map_none, ite_self]
  named := by
    rw [get?_reclaim beat _ _ other, owned.named]
    simp only [Option.map_none, ite_self]
  known := by
    intro id row found
    rw [get?_reclaim beat _ id other] at found
    split at found
    · obtain ⟨old, _, rfl⟩ := Option.map_eq_some_iff.mp found
      rintro _ ⟨⟩
    · split at found
      · obtain ⟨old, present, rfl⟩ := Option.map_eq_some_iff.mp found
        rw [(standBehind_sent named beat.now old).offer]
        exact owned.known id old present
      · exact owned.known id row found

/-! ### The steps that move no ownership -/

/-- The owner stays, no bridge comes or goes and no link is cut; the only new links
are the marks of a loss. -/
structure Keeps (before after : Store) : Prop where
  owner : after.agent.owner = before.agent.owner
  offered : before.offered ⊆ after.offered
  handles : ∀ id, (after.bridges.get? id).map Bridge.sessionHandle =
    (before.bridges.get? id).map Bridge.sessionHandle
  links : ∀ a b, Link before.bridges a b → Link after.bridges a b
  marks : ∀ a b, Link after.bridges a b → Link before.bridges a b ∨ b = "resident-lost"

theorem Keeps.of_same (owner : after.agent.owner = before.agent.owner)
    (offered : after.offered = before.offered) (bridges : after.bridges = before.bridges) :
    Keeps before after where
  owner := owner
  offered := by rw [offered]; exact List.Subset.refl _
  handles := fun _ => by rw [bridges]
  links := fun _ _ link => by rw [bridges]; exact link
  marks := fun _ _ link => .inl (by rw [← bridges]; exact link)

theorem Keeps.absent (keeps : Keeps before after) {id : String}
    (absent : before.bridges.get? id = none) : after.bridges.get? id = none := by
  have same := keeps.handles id
  rw [absent, Option.map_none] at same
  exact Option.map_eq_none_iff.mp same

theorem Keeps.oneOwner (keeps : Keeps before after) (one : OneOwner before) : OneOwner after := by
  intro id row found handled unsuperseded
  obtain ⟨old, present, same⟩ : ∃ old, before.bridges.get? id = some old ∧
      old.sessionHandle = row.sessionHandle := by
    have handle := keeps.handles id
    rw [found, Option.map_some] at handle
    exact Option.map_eq_some_iff.mp handle.symm
  rw [keeps.owner]
  apply one id old present (same ▸ handled)
  by_contra superseded
  exact ends_of_free found unsuperseded _ (keeps.links _ _ ⟨old, present, rfl, superseded⟩)

theorem Keeps.owned (keeps : Keeps before after) (owned : Owned before)
    (known : ∀ id row, after.bridges.get? id = some row → Known after.offered id row.handbackOffer) :
    Owned after where
  acyclic := acyclic_of_sink owned.acyclic keeps.marks (ends_of_none (keeps.absent owned.unmarked))
  oneOwner := keeps.oneOwner owned.oneOwner
  unmarked := keeps.absent owned.unmarked
  named := keeps.absent owned.named
  known := known

theorem Owned.of_same (owned : Owned before) (owner : after.agent.owner = before.agent.owner)
    (offered : after.offered = before.offered) (bridges : after.bridges = before.bridges) :
    Owned after := by
  apply (Keeps.of_same owner offered bridges).owned owned
  rw [bridges, offered]
  exact owned.known

theorem Keeps.behind (keeps : Keeps before after) {handle a b : String}
    (behind : Behind before.bridges handle a b) : Behind after.bridges handle a b := by
  apply Relation.TransGen.mono _ a b behind
  intro left right link
  refine ⟨keeps.links _ _ link.1, ?_⟩
  have same := congrArg (Option.any fun found => decide (found = handle)) (keeps.handles left)
  simp only [Option.any_map] at same
  exact same.trans link.2

theorem Keeps.handleOf (keeps : Keeps before after) (id : String) :
    handleOf after.bridges id = handleOf before.bridges id := by
  have same := congrArg (Option.elim · "" strip) (keeps.handles id)
  simp only [Option.elim_map] at same
  exact same

/-- A change of every row that keeps its handle, and its link if it has one. -/
theorem Keeps.of_rows (change : String → Bridge → Bridge)
    (owner : after.agent.owner = before.agent.owner) (offered : before.offered ⊆ after.offered)
    (rows : ∀ id, after.bridges.get? id = (before.bridges.get? id).map (change id))
    (handle : ∀ id row, (change id row).sessionHandle = row.sessionHandle)
    (link : ∀ id row, (change id row).supersededBy = row.supersededBy ∨
      row.supersededBy = "" ∧ (change id row).supersededBy = "resident-lost") :
    Keeps before after where
  owner := owner
  offered := offered
  handles := by
    intro id
    rw [rows, Option.map_map]
    exact Option.map_congr fun row _ => handle id row
  links := by
    rintro a b ⟨row, found, rfl, named⟩
    rcases link a row with kept | ⟨unsuperseded, _⟩
    · exact ⟨change a row, by rw [rows, found, Option.map_some], kept, named⟩
    · exact absurd unsuperseded named
  marks := by
    rintro a b ⟨row, found, rfl, named⟩
    rw [rows] at found
    obtain ⟨old, present, rfl⟩ := Option.map_eq_some_iff.mp found
    rcases link a old with kept | ⟨_, marked⟩
    · exact .inl ⟨old, present, kept.symm, named⟩
    · exact .inr marked

/-! ### Losing -/

theorem lostAgent_owner (loss : Loss) (chain : List String) (agent : Agent) :
    (lostAgent loss chain agent).owner = agent.owner := by
  have rested : (restLost loss.beforeLoss loss.reason loss.now agent).owner = agent.owner := by
    unfold restLost
    split <;> rfl
  unfold lostAgent
  split <;> exact rested

theorem markRow_link (loss : Loss) (id : String) (row : Bridge) :
    (markRow loss id row).supersededBy = row.supersededBy ∨
      row.supersededBy = "" ∧ (markRow loss id row).supersededBy = "resident-lost" := by
  unfold markRow markLost
  split
  · by_cases unsuperseded : row.supersededBy = ""
    · exact .inr ⟨unsuperseded, if_pos unsuperseded⟩
    · exact .inl (if_neg unsuperseded)
  · exact .inl rfl

theorem offerRow_frame (loss : Loss) (chain : List String) (id : String) (row : Bridge) :
    (offerRow loss chain id row).sessionHandle = row.sessionHandle ∧
      (offerRow loss chain id row).supersededBy = row.supersededBy ∧
      (offerRow loss chain id row).lastSeen = row.lastSeen := by
  unfold offerRow
  split <;> exact ⟨rfl, rfl, rfl⟩

theorem markRow_frame (loss : Loss) (id : String) (row : Bridge) :
    (markRow loss id row).sessionHandle = row.sessionHandle ∧
      (markRow loss id row).handbackOffer = row.handbackOffer ∧
      (markRow loss id row).lastSeen = row.lastSeen := by
  unfold markRow
  split <;> exact ⟨rfl, rfl, rfl⟩

theorem get?_settleLoss (loss : Loss) (id : String) :
    (settleLoss store loss).bridges.get? id = (store.bridges.get? id).map fun row =>
      offerRow loss (offeredBy (store.bridges.mapValues (markRow loss)) loss) id
        (markRow loss id row) := by
  simp only [settleLoss, Dict.get?_mapValues, Option.map_map]
  rfl

theorem settleLoss_keeps (loss : Loss) : Keeps store (settleLoss store loss) := by
  apply Keeps.of_rows _ (lostAgent_owner loss _ store.agent) (List.subset_append_left _ _)
    (get?_settleLoss loss)
  · intro id row
    exact (offerRow_frame loss _ id _).1.trans (markRow_frame loss id row).1
  · intro id row
    rw [(offerRow_frame loss _ id _).2.1]
    exact markRow_link loss id row

/-- Every offer that a loss leaves was made before or names the lost bridge. -/
theorem settleLoss_known (owned : Owned store) (loss : Loss) (id : String) (row : Bridge)
    (found : (settleLoss store loss).bridges.get? id = some row) :
    Known (settleLoss store loss).offered id row.handbackOffer := by
  rw [get?_settleLoss] at found
  obtain ⟨old, present, rfl⟩ := Option.map_eq_some_iff.mp found
  unfold offerRow
  split
  · next offered =>
      rintro _ ⟨⟩
      refine ⟨?_, List.mem_append_right _ (List.mem_map_of_mem offered)⟩
      intro (unnamed : loss.bridgeId = "")
      simp [offeredBy, unnamed] at offered
  · rw [(markRow_frame loss id old).2.1]
    exact (owned.known id old present).mono (List.subset_append_left _ _)

/-! ### What a heartbeat has read -/

/-- The fact was so when the count was `since`, and is so while it still is. -/
structure Since (count since : Nat) (fact : Prop) : Prop where
  past : since ≤ count
  still : since = count → fact

theorem Since.passed {count since : Nat} {fact other : Prop} (held : Since count since fact) :
    Since (count + 1) since other :=
  ⟨Nat.le_succ_of_le held.past, fun now => absurd (now ▸ held.past) (Nat.not_succ_le_self _)⟩

theorem Since.imp {count since : Nat} {fact other : Prop} (held : Since count since fact)
    (implies : fact → other) : Since count since other :=
  ⟨held.past, fun now => implies (held.still now)⟩

/-- The owner read is another bridge, and still the owner. -/
def OwnerRead (store : Store) (bridgeId owner : String) : Prop :=
  owner = store.agent.owner ∧ owner ≠ "" ∧ owner ≠ bridgeId

/-- The walk so far holds bridges behind the owner, and goes on from them. -/
def WalkRead (bridges : Bridges) (owner handle : String) (walk : Walk) : Prop :=
  (∀ id ∈ walk.chain, Behind bridges handle id owner) ∧
    ∀ id ∈ walk.frontier, id = owner ∨ id ∈ walk.chain

def BehindOwner (store : Store) (bridgeId : String) : Prop :=
  Behind store.bridges (handleOf store.bridges store.agent.owner) bridgeId store.agent.owner

def OwnerSilent (lease : Nat) (store : Store) : Prop :=
  isSilent lease store.clock (store.bridges.get? store.agent.owner) = true

/-- Why a heartbeat reclaims. -/
def Reason (lease : Nat) (store : Store) (bridgeId : String) (offered : Bool) (heard : Nat) : Prop :=
  if offered then (store.agent.owner, bridgeId) ∈ store.offered
  else Since store.heard heard (OwnerSilent lease store)

/-- What was read is so, while the ownership has not changed. -/
def Reading (lease : Nat) (store : Store) (bridgeId : String) : Phase → Prop
  | .superseded => True
  | .mine offer _ => Known store.offered bridgeId offer
  | .owned offer _ owner since =>
      Known store.offered bridgeId offer ∧ Since store.changes since (OwnerRead store bridgeId owner)
  | .walking offer _ owner since handle walk =>
      Known store.offered bridgeId offer ∧ Since store.changes since (OwnerRead store bridgeId owner ∧
        handle = handleOf store.bridges owner ∧ WalkRead store.bridges owner handle walk)
  | .reclaiming owner since offered heard =>
      Since store.changes since (OwnerRead store bridgeId owner ∧ BehindOwner store bridgeId ∧
        Reason lease store bridgeId offered heard)
  | .beating => True

/-- The ownership has not changed, and the owner has beaten if it shows to be seen. -/
structure Quiet (before after : Store) : Prop extends Keeps before after where
  clock : before.clock ≤ after.clock
  changes : after.changes = before.changes
  heard : after.heard = before.heard + 1 ∨ after.heard = before.heard ∧
    (after.bridges.get? before.agent.owner).map Bridge.lastSeen =
      (before.bridges.get? before.agent.owner).map Bridge.lastSeen

theorem fresh_iff {clock : Nat} {row : Bridge} :
    fresh lease clock row = true ↔ row.lastSeen ≠ 0 ∧ clock - row.lastSeen ≤ silence lease := by
  simp [fresh]

theorem silent_later {first later : Nat} {old new : Option Bridge} (clock : first ≤ later)
    (seen : new.map Bridge.lastSeen = old.map Bridge.lastSeen)
    (silent : isSilent lease first old = true) : isSilent lease later new = true := by
  cases old with
  | none => rw [Option.map_eq_none_iff.mp seen]; rfl
  | some before =>
      obtain ⟨after, rfl, same⟩ := Option.map_eq_some_iff.mp seen
      simp only [isSilent, Option.any_some, Bool.not_eq_true', ← Bool.not_eq_true, fresh_iff,
        same] at silent ⊢
      omega

theorem Quiet.ownerRead (quiet : Quiet before after) {bridgeId owner : String}
    (read : OwnerRead before bridgeId owner) : OwnerRead after bridgeId owner :=
  ⟨read.1.trans quiet.owner.symm, read.2⟩

theorem Quiet.behindOwner (quiet : Quiet before after) {bridgeId : String}
    (behind : BehindOwner before bridgeId) : BehindOwner after bridgeId := by
  rw [BehindOwner, quiet.owner, quiet.handleOf]
  exact quiet.behind behind

theorem Quiet.reason (quiet : Quiet before after) {bridgeId : String} {offered : Bool} {heard : Nat}
    (reason : Reason lease before bridgeId offered heard) :
    Reason lease after bridgeId offered heard := by
  unfold Reason at reason ⊢
  split at reason
  · next isOffered =>
      rw [if_pos isOffered, quiet.owner]
      exact quiet.offered reason
  · next notOffered =>
      rw [if_neg notOffered]
      rcases quiet.heard with more | ⟨same, seen⟩
      · exact more ▸ reason.passed
      · rw [same, OwnerSilent, quiet.owner]
        exact reason.imp (silent_later quiet.clock seen)

theorem Quiet.reading (quiet : Quiet before after) {bridgeId : String} {phase : Phase}
    (reading : Reading lease before bridgeId phase) : Reading lease after bridgeId phase := by
  cases phase with
  | superseded => trivial
  | mine offer supersededBy => exact reading.mono quiet.offered
  | owned offer supersededBy owner since =>
      refine ⟨reading.1.mono quiet.offered, ?_⟩
      rw [quiet.changes]
      exact reading.2.imp quiet.ownerRead
  | walking offer supersededBy owner since handle walk =>
      refine ⟨reading.1.mono quiet.offered, ?_⟩
      rw [quiet.changes, quiet.handleOf]
      refine reading.2.imp ?_
      rintro ⟨owned, sameHandle, chain, frontier⟩
      exact ⟨quiet.ownerRead owned, sameHandle, fun id member => quiet.behind (chain id member),
        frontier⟩
  | reclaiming owner since offered heard =>
      change Since after.changes since _
      rw [quiet.changes]
      refine Since.imp reading ?_
      rintro ⟨owned, behind, reason⟩
      exact ⟨quiet.ownerRead owned, quiet.behindOwner behind, quiet.reason reason⟩
  | beating => trivial

/-- A change of ownership leaves a heartbeat with what it read of its own row only. -/
theorem reading_changed (offered : before.offered ⊆ after.offered)
    (changed : after.changes = before.changes + 1) {bridgeId : String} {phase : Phase}
    (reading : Reading lease before bridgeId phase) : Reading lease after bridgeId phase := by
  cases phase with
  | superseded => trivial
  | mine offer supersededBy => exact reading.mono offered
  | owned offer supersededBy owner since =>
      exact ⟨reading.1.mono offered, changed ▸ reading.2.passed⟩
  | walking offer supersededBy owner since handle walk =>
      exact ⟨reading.1.mono offered, changed ▸ reading.2.passed⟩
  | reclaiming owner since offered heard =>
      change Since after.changes since _
      exact changed ▸ Since.passed reading
  | beating => trivial

/-! ### One more read -/

theorem mem_directlyBehind {handle id : String} {frontier : List String} :
    id ∈ directlyBehind bridges handle frontier ↔ ∃ row, bridges.get? id = some row ∧
      row.sessionHandle = handle ∧ row.supersededBy ∈ frontier := by
  simp only [directlyBehind, List.mem_map, List.mem_filter, Bool.and_eq_true, decide_eq_true_eq,
    Prod.exists, exists_and_right, exists_eq_right, Dict.get?_eq_some_iff]

/-- A walk's next SELECT finds bridges behind the owner only. -/
theorem next_read {owner handle : String} {walk : Walk} (named : owner ≠ "")
    (unnamed : bridges.get? "" = none) (read : WalkRead bridges owner handle walk) :
    WalkRead bridges owner handle (walk.next bridges handle) := by
  constructor
  · intro id member
    rcases List.mem_append.mp member with old | new
    · exact read.1 id old
    · obtain ⟨row, found, sameHandle, inFrontier⟩ :=
        mem_directlyBehind.1 (List.mem_of_mem_filter new)
      have handled : (bridges.get? id).any (fun row => decide (row.sessionHandle = handle)) = true := by
        simp [found, sameHandle]
      rcases read.2 _ inFrontier with isOwner | inChain
      · exact .single ⟨⟨row, found, isOwner, named⟩, handled⟩
      · have behind := read.1 _ inChain
        refine .head ⟨⟨row, found, rfl, ?_⟩, handled⟩ behind
        intro empty
        obtain ⟨next, link, _⟩ := Relation.TransGen.head'_iff.mp behind
        exact ends_of_none unnamed next (empty ▸ link.1)
  · intro id member
    exact .inr (List.mem_append_right _ member)

/-- An offer that names the owner was made by the owner's loss. -/
theorem offers_known {offered : List (String × String)} {bridgeId supersededBy owner : String}
    {offer : Option Offer} (known : Known offered bridgeId offer)
    (named : offers offer supersededBy owner = true) : (owner, bridgeId) ∈ offered := by
  cases offer with
  | none => cases named
  | some made =>
      obtain ⟨given, present⟩ := known made rfl
      simp only [offers, Option.any_some, decide_eq_true_eq, orElse, given, if_false] at named
      exact named ▸ present

theorem advance_reading (owned : Owned store) {beat : Beat} {phase : Phase}
    (reading : Reading lease store beat.bridgeId beat.phase)
    (advanced : advance lease store beat = some phase) : Reading lease store beat.bridgeId phase := by
  obtain ⟨bridgeId, now, old⟩ := beat
  cases old with
  | superseded =>
      obtain ⟨row, found, rfl⟩ := Option.map_eq_some_iff.mp advanced
      exact owned.known bridgeId row found
  | mine offer supersededBy =>
      simp only [advance, Option.ite_none_left_eq_some, not_or] at advanced
      obtain ⟨⟨named, other⟩, same⟩ := advanced
      cases same
      exact ⟨reading, le_rfl, fun _ => ⟨rfl, named, other⟩⟩
  | owned offer supersededBy owner since =>
      simp only [advance, Option.ite_none_left_eq_some] at advanced
      obtain ⟨_, same⟩ := advanced
      cases same
      refine ⟨reading.1, reading.2.imp fun ownerRead => ⟨ownerRead, rfl, ?_, ?_⟩⟩
      · rintro _ ⟨⟩
      · intro id member
        exact .inl (List.mem_singleton.mp member)
  | walking offer supersededBy owner since handle walk =>
      obtain ⟨known, read⟩ := reading
      simp only [advance] at advanced
      split at advanced
      · rw [Option.ite_none_right_eq_some] at advanced
        obtain ⟨⟨inChain, proof⟩, same⟩ := advanced
        cases same
        refine read.imp ?_
        rintro ⟨ownerRead, sameHandle, walked⟩
        refine ⟨ownerRead, ?_⟩
        obtain ⟨rfl, _⟩ := ownerRead
        refine ⟨sameHandle ▸ walked.1 _ inChain, ?_⟩
        unfold Reason
        split
        · next offered => exact offers_known known offered
        · next unoffered => exact ⟨le_rfl, fun _ => proof.resolve_left unoffered⟩
      · cases advanced
        refine ⟨known, read.imp ?_⟩
        rintro ⟨ownerRead, sameHandle, walked⟩
        exact ⟨ownerRead, sameHandle, next_read ownerRead.2.1 owned.named walked⟩
  | reclaiming owner since offered heard => cases advanced
  | beating => cases advanced

/-! ### One step -/

structure Current (lease : Nat) (store : Store) (beat : Beat) : Prop where
  named : beat.bridgeId ≠ ""
  reading : Reading lease store beat.bridgeId beat.phase

/-- What was read stays so, or the ownership is changed. -/
def Moves (before after : Store) : Prop :=
  Quiet before after ∨ before.offered ⊆ after.offered ∧ after.changes = before.changes + 1

theorem Moves.of_same (owner : after.agent.owner = before.agent.owner)
    (offered : after.offered = before.offered) (bridges : after.bridges = before.bridges)
    (clock : before.clock ≤ after.clock) (changes : after.changes = before.changes)
    (heard : after.heard = before.heard) : Moves before after :=
  .inl ⟨Keeps.of_same owner offered bridges, clock, changes, .inr ⟨heard, by rw [bridges]⟩⟩

theorem Moves.refl (store : Store) : Moves store store := Moves.of_same rfl rfl rfl le_rfl rfl rfl

theorem Moves.current (moves : Moves before after) {beat : Beat} (current : Current lease before beat) :
    Current lease after beat where
  named := current.named
  reading := by
    rcases moves with quiet | ⟨offered, changed⟩
    · exact quiet.reading current.reading
    · exact reading_changed offered changed current.reading

theorem registeredAgent_owner (req : Registration) (now : Nat) (agent : Agent) :
    (registeredAgent req now agent).owner = agent.owner := by
  simp only [registeredAgent]

theorem register_moves (req : Registration) : Moves store (register lease store req) := by
  unfold register
  split
  · split
    · exact Moves.of_same (registeredAgent_owner _ _ _) rfl rfl le_rfl rfl rfl
    · exact .inr ⟨List.Subset.refl _, rfl⟩
  · exact Moves.refl store

theorem register_owned (owned : Owned store) (req : Registration)
    (unmarked : req.bridgeId ≠ "resident-lost") : Owned (register lease store req) := by
  unfold register
  split
  · split
    · exact owned.of_same (registeredAgent_owner _ _ _) rfl rfl
    · next named => exact registered_owned owned req named unmarked
  · exact owned

theorem settleLoss_moves (loss : Loss) : Moves store (settleLoss store loss) := by
  refine .inl ⟨settleLoss_keeps loss, le_rfl, rfl, .inr ⟨rfl, ?_⟩⟩
  rw [get?_settleLoss, Option.map_map]
  apply Option.map_congr
  intro row _
  exact (offerRow_frame loss _ _ _).2.2.trans (markRow_frame loss _ row).2.2

theorem beaten_keeps (beat : Beat) : Keeps store (beaten store beat) := by
  apply Keeps.of_rows fun id row => if id = beat.bridgeId then beatBridge beat.now row else row
  · rfl
  · exact List.Subset.refl _
  · exact fun id => Dict.get?_mapValues _ _ id
  · intro id row
    split <;> rfl
  · intro id row
    split <;> exact .inl rfl

theorem beaten_known (owned : Owned store) (beat : Beat) (id : String) (row : Bridge)
    (found : (beaten store beat).bridges.get? id = some row) :
    Known store.offered id row.handbackOffer := by
  rw [beaten, Dict.get?_modify] at found
  split at found
  · obtain ⟨old, present, rfl⟩ := Option.map_eq_some_iff.mp found
    exact owned.known id old present
  · exact owned.known id row found

-- Only the owner's own beat shows to a heartbeat that found the owner silent.
theorem beaten_moves (beat : Beat) : Moves store (beaten store beat) := by
  refine .inl ⟨beaten_keeps beat, le_rfl, rfl, ?_⟩
  by_cases isOwner : beat.bridgeId = store.agent.owner
  · exact .inl (if_pos isOwner)
  · refine .inr ⟨if_neg isOwner, ?_⟩
    rw [beaten, Dict.get?_modify, if_neg (Ne.symm isOwner)]

/-! ### Steps of the world -/

/-- The bridge whose heartbeat takes the step. -/
def beatOf (world : World) : Label → Option String
  | .beat _ bridgeId => some bridgeId
  | .read beat => (world.beats beat).map Beat.bridgeId
  | .write beat => (world.beats beat).map Beat.bridgeId
  | _ => none

variable {world next : World}

/-- The invariant: the rows, and what every heartbeat under way has read. -/
structure Invariant (lease : Nat) (world : World) : Prop where
  owned : Owned world.store
  current : ∀ id beat, world.beats id = some beat → Current lease world.store beat

theorem Invariant.moved (holds : Invariant lease world) (owned : Owned store)
    (moves : Moves world.store store) (losses : Nat → Option Loss) :
    Invariant lease ⟨store, losses, world.beats⟩ where
  owned := owned
  current := fun id beat present => moves.current (holds.current id beat present)

theorem Invariant.updated (holds : Invariant lease world) (owned : Owned store)
    (moves : Moves world.store store) {id : Nat} {new : Option Beat}
    (fresh : ∀ beat, new = some beat → Current lease store beat) :
    Invariant lease ⟨store, world.losses, Function.update world.beats id new⟩ where
  owned := owned
  current := by
    intro other beat present
    obtain ⟨_, begun⟩ | old := update_some present
    · exact fresh beat begun
    · exact moves.current (holds.current other beat old)

/-- What one read of a heartbeat does. -/
theorem read_cases {id : Nat} (taken : step lease world (.read id) = some next) :
    ∃ beat, world.beats id = some beat ∧ next = { world with
      beats := Function.update world.beats id
        ((advance lease world.store beat).map fun phase => { beat with phase := phase }) } := by
  simp only [step, Option.bind_eq_some_iff] at taken
  obtain ⟨beat, present, read⟩ := taken
  refine ⟨beat, present, ?_⟩
  split at read
  · cases read
  · cases read
  · cases read
    rfl

/-- What one write of a heartbeat does. -/
theorem write_cases {id : Nat} (taken : step lease world (.write id) = some next) :
    ∃ beat, world.beats id = some beat ∧
      ((∃ owner since offered heard, beat.phase = .reclaiming owner since offered heard ∧ next = { world with
          store := reclaim world.store beat owner
          beats := Function.update world.beats id (some { beat with phase := .beating }) }) ∨
        next = { world with
          store := beaten world.store beat, beats := Function.update world.beats id none }) := by
  simp only [step, Option.bind_eq_some_iff, Option.map_eq_some_iff] at taken
  obtain ⟨beat, present, written, wrote, rfl⟩ := taken
  refine ⟨beat, present, ?_⟩
  unfold writeBeat at wrote
  split at wrote
  · next owner since offered heard phase =>
      cases wrote
      exact .inl ⟨owner, since, offered, heard, phase, rfl⟩
  · cases wrote
    exact .inr rfl
  · cases wrote

/-- The bridge stands behind the owner, and the owner lost the session to it or is
silent. -/
def MayReclaim (lease : Nat) (store : Store) (bridgeId : String) : Prop :=
  BehindOwner store bridgeId ∧
    ((store.agent.owner, bridgeId) ∈ store.offered ∨ OwnerSilent lease store)

/-- Where the ownership was not disturbed, a heartbeat that reclaims may do so. -/
theorem Invariant.mayReclaim (holds : Invariant lease world) {id since heard : Nat} {beat : Beat}
    {owner : String} {offered : Bool} (present : world.beats id = some beat)
    (phase : beat.phase = .reclaiming owner since offered heard)
    (allowed : Undisturbed world (.write id)) :
    OwnerRead world.store beat.bridgeId owner ∧ MayReclaim lease world.store beat.bridgeId := by
  obtain ⟨unchanged, unheard⟩ : since = world.store.changes ∧
      (offered = true ∨ heard = world.store.heard) := by
    simpa only [Undisturbed, undisturbed, present, Option.all_some, phase, Bool.and_eq_true,
      Bool.or_eq_true, decide_eq_true_eq] using allowed
  have reading := (holds.current id beat present).reading
  rw [phase] at reading
  obtain ⟨ownerRead, behind, reason⟩ := Since.still reading unchanged
  refine ⟨ownerRead, behind, ?_⟩
  unfold Reason at reason
  split at reason
  · exact .inl reason
  · next unoffered => exact .inr (reason.still (unheard.resolve_left unoffered))

theorem begun_current (bridgeId : String) (named : bridgeId ≠ "") :
    Current lease store (begun store bridgeId) where
  named := named
  reading := by
    unfold begun
    dsimp only
    split <;> trivial

theorem step_invariant {label : Label} (holds : Invariant lease world)
    (allowed : Undisturbed world label) (taken : step lease world label = some next) :
    Invariant lease next := by
  cases label with
  | register req =>
      cases taken
      exact holds.moved (register_owned holds.owned req (of_decide_eq_true allowed))
        (register_moves req) _
  | lose loss bridgeId reason =>
      simp only [step, Option.ite_none_left_eq_some] at taken
      obtain ⟨_, taken⟩ := taken
      split at taken
      · cases taken
        exact holds
      · cases taken
        exact ⟨holds.owned, holds.current⟩
  | settleLoss loss =>
      obtain ⟨lost, _, rfl⟩ := Option.map_eq_some_iff.mp taken
      have owned := (settleLoss_keeps lost).owned holds.owned (settleLoss_known holds.owned lost)
      exact holds.moved owned (settleLoss_moves lost) _
  | beat id bridgeId =>
      simp only [step, Option.ite_none_left_eq_some, not_or] at taken
      obtain ⟨⟨named, _⟩, same⟩ := taken
      cases same
      apply holds.updated holds.owned (Moves.refl _)
      rintro _ ⟨⟩
      exact begun_current bridgeId named
  | read id =>
      obtain ⟨beat, present, rfl⟩ := read_cases taken
      apply holds.updated holds.owned (Moves.refl _)
      intro new advanced
      obtain ⟨phase, next, rfl⟩ := Option.map_eq_some_iff.mp advanced
      obtain ⟨named, reading⟩ := holds.current id beat present
      have advanced := advance_reading holds.owned reading next
      exact ⟨named, advanced⟩
  | write id =>
      obtain ⟨beat, present, ⟨owner, since, offered, heard, phase, rfl⟩ | rfl⟩ := write_cases taken
      · obtain ⟨⟨rfl, _, other⟩, _⟩ := holds.mayReclaim present phase allowed
        have named := (holds.current id beat present).named
        apply holds.updated (reclaim_owned holds.owned named other)
          (.inr ⟨List.Subset.refl _, rfl⟩)
        rintro _ ⟨⟩
        exact ⟨named, trivial⟩
      · have owned := (beaten_keeps beat).owned holds.owned (beaten_known holds.owned beat)
        apply holds.updated owned (beaten_moves beat)
        rintro _ ⟨⟩
  | stop =>
      cases taken
      have owned : Owned (stop world.store) := holds.owned.of_same rfl rfl rfl
      exact holds.moved owned (Moves.of_same rfl rfl rfl le_rfl rfl rfl) _
  | tick seconds =>
      cases taken
      have owned : Owned (tick seconds world.store) := holds.owned.of_same rfl rfl rfl
      exact holds.moved owned (Moves.of_same rfl rfl rfl (Nat.le_add_right _ _) rfl rfl) _

/-! ### Every run -/

/-- A step of a heartbeat moves the ownership fairly. -/
theorem Invariant.beats_fairly (holds : Invariant lease world) {label : Label} {bridgeId : String}
    (mine : beatOf world label = some bridgeId) (allowed : Undisturbed world label)
    (taken : step lease world label = some next) :
    BeatsFairly lease world.store next.store bridgeId := by
  cases label with
  | beat id beating =>
      simp only [step, Option.ite_none_left_eq_some] at taken
      obtain ⟨_, same⟩ := taken
      cases same
      exact ⟨fun moved => absurd rfl moved, fun stopped => stopped⟩
  | read id =>
      obtain ⟨beat, _, rfl⟩ := read_cases taken
      exact ⟨fun moved => absurd rfl moved, fun stopped => stopped⟩
  | write id =>
      obtain ⟨beat, present, ⟨owner, since, offered, heard, phase, rfl⟩ | rfl⟩ := write_cases taken
      · simp only [beatOf, present, Option.map_some, Option.some.injEq] at mine
        subst mine
        have may := (holds.mayReclaim present phase allowed).2
        exact ⟨fun _ => ⟨rfl, may⟩, fun stopped => stopped⟩
      · exact ⟨fun moved => absurd rfl moved, fun stopped => by simp [beaten, beatAgent, stopped]⟩
  | register req => cases mine
  | lose loss bridgeId reason => cases mine
  | settleLoss loss => cases mine
  | stop => cases mine
  | tick seconds => cases mine

theorem initial_invariant (lease clock : Nat) (agent : Agent) :
    Invariant lease (initial clock agent) where
  owned := by
    constructor
    · intro id cycle
      obtain ⟨next, link, _⟩ := Relation.TransGen.head'_iff.mp cycle
      exact ends_of_none (Dict.get?_empty id) next link
    · rintro _ _ ⟨⟩
    · rfl
    · rfl
    · rintro _ _ ⟨⟩
  current := by rintro _ _ ⟨⟩

/-- **In every run of registrations, losses and heartbeats whose steps are
undisturbed, the superseded-by relation has no cycle, the one bridge of a session
that is not superseded is the owner, and every heartbeat moves the ownership
fairly.** -/
theorem one_owner_per_chain (lease clock : Nat) (agent : Agent) (world : World)
    (reached : Reaches (step lease) Undisturbed (initial clock agent) world) :
    Acyclic world.store.bridges ∧ OneOwner world.store ∧
      ∀ label bridgeId next, beatOf world label = some bridgeId → Undisturbed world label →
        step lease world label = some next → BeatsFairly lease world.store next.store bridgeId := by
  have holds : Invariant lease world := reached.invariant (Invariant lease)
    (initial_invariant lease clock agent) fun _ _ _ holds allowed taken =>
      step_invariant holds allowed taken
  exact ⟨holds.owned.acyclic, holds.owned.oneOwner,
    fun _ _ _ mine allowed taken => holds.beats_fairly mine allowed taken⟩

/-! ### A parent, its child and a silent grandchild -/

def idleAgent : Agent := ⟨"", "idle", "detached", "", 1000⟩

def launch (bridgeId : String) (startedAt : Nat) : Label :=
  .register ⟨bridgeId, "s1", startedAt, "idle", "detached", 0, false, false⟩

/-- Each takes the session over from the one before, and the last goes silent. -/
def nested : List Label :=
  [launch "parent" 10, launch "child" 20, launch "grandchild" 30, .tick 200]

/-- A heartbeat of a superseded bridge up to its first write. -/
def beatUpTo (beat : Nat) (bridgeId : String) : List Label :=
  .beat beat bridgeId :: List.replicate 7 (.read beat)

/-- The owner, and what supersedes each bridge. -/
def ownership (world : World) : String × List (String × String × String) :=
  (world.store.agent.owner,
    world.store.bridges.entries.map fun entry => (entry.1, entry.2.sessionHandle, entry.2.supersededBy))

theorem parent_takes_back :
    ∃ world, Reaches (step 150) Undisturbed (initial 1000 idleAgent) world ∧
      ownership world = ("parent",
        [("parent", "s1", ""), ("child", "s1", "grandchild"), ("grandchild", "s1", "parent")]) ∧
      Acyclic world.store.bridges ∧ OneOwner world.store := by
  have executed : (exec (step 150) undisturbed (initial 1000 idleAgent)
      (nested ++ beatUpTo 1 "parent" ++ [Label.write 1, Label.write 1])).map ownership =
      some ("parent",
        [("parent", "s1", ""), ("child", "s1", "grandchild"), ("grandchild", "s1", "parent")]) := by
    decide
  obtain ⟨world, reached, seen⟩ := reaches_observed _ _ _ _ (fun _ _ granted => granted) executed
  have holds := one_owner_per_chain 150 1000 idleAgent world reached
  exact ⟨world, reached, seen, holds.1, holds.2.1⟩

/-- Parent and child both find the grandchild silent, and both take the session. -/
theorem two_owners_of_one_session :
    ∃ world, Reaches (step 150) anyStep (initial 1000 idleAgent) world ∧
      ownership world = ("child",
        [("parent", "s1", ""), ("child", "s1", ""), ("grandchild", "s1", "parent")]) ∧
      ¬ OneOwner world.store := by
  have executed : (exec (step 150) (fun _ _ => true) (initial 1000 idleAgent)
      (nested ++ beatUpTo 1 "parent" ++ beatUpTo 2 "child" ++
        [Label.write 1, Label.write 1, Label.write 2])).map ownership = some ("child",
        [("parent", "s1", ""), ("child", "s1", ""), ("grandchild", "s1", "parent")]) := by
    decide
  obtain ⟨world, reached, seen⟩ := reaches_observed _ _ _ _ (fun _ _ _ => trivial) executed
  refine ⟨world, reached, seen, ?_⟩
  intro one
  obtain ⟨owner, rows⟩ := Prod.mk.inj seen
  obtain ⟨⟨id, row⟩, present, same⟩ := List.mem_map.mp
    (rows ▸ List.mem_cons_self : ("parent", "s1", "") ∈ world.store.bridges.entries.map
      fun entry => (entry.1, entry.2.sessionHandle, entry.2.supersededBy))
  obtain ⟨rfl, handle, unsuperseded⟩ : id = "parent" ∧ row.sessionHandle = "s1" ∧
      row.supersededBy = "" := by simpa using same
  have isOwner := one "parent" row ((Dict.get?_eq_some_iff _ _ _).mpr present)
    (by rw [handle]; decide) unsuperseded
  rw [owner] at isOwner
  exact absurd isOwner (by decide)

end AifyComms.BridgeChain
