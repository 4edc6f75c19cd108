import AifyComms.SendNonce
import Mathlib.Tactic.Common

/-!
One nonce names one logical send. Up to the first commit the tables are the
ones the requests started from, so every request with the winner's identity
resolves as the winner did and none of them is refused. From that commit on the
winner's rows hold the nonce, the first of them as its reservation, and the
lookup answers every other request from that row.
-/

namespace AifyComms.SendNonce
open PyText Runs

/-! ### Recipients and their rows -/

theorem dedupePreserve_nodup (values : List String) : (dedupePreserve values).Nodup := by
  have grow : ∀ (values result : List String), result.Nodup →
      (values.foldl (fun result value => if value = "" ∨ value ∈ result then result
        else result ++ [value]) result).Nodup := by
    intro values
    induction values with
    | nil => exact fun _ distinct => distinct
    | cons value rest ih =>
        intro result distinct
        rw [List.foldl_cons]
        split
        · exact ih result distinct
        · rename_i fresh
          apply ih
          rw [List.nodup_append]
          refine ⟨distinct, List.nodup_singleton value, ?_⟩
          intro left inResult right inSingle same
          rw [List.mem_singleton] at inSingle
          exact fresh (Or.inr (inSingle ▸ same ▸ inResult))
  exact grow values [] List.nodup_nil

namespace Sends
variable (sends : Sends)

def recipients (k : Nat) : List String := resolveRecipientIds sends.agents (sends.req k)

def parent (k : Nat) : Option String := resolveReplyParent sends.tables (sends.req k)

/-- The rows request `k` stores when it finds the tables as they were. -/
def rows (k : Nat) : List MessageRow :=
  (sends.recipients k).mapIdx (sends.messageRow k (sends.parent k) (sends.recipients k))

theorem recipients_nodup (k : Nat) : (sends.recipients k).Nodup := dedupePreserve_nodup _

theorem mem_rows {k : Nat} {row : MessageRow} (known : row ∈ sends.rows k) :
    ∃ index recipient, (sends.recipients k)[index]? = some recipient ∧
      row = sends.messageRow k (sends.parent k) (sends.recipients k) index recipient := by
  obtain ⟨index, bound, same⟩ := List.mem_mapIdx.mp known
  exact ⟨index, _, List.getElem?_eq_getElem bound, same.symm⟩

/-- The row that reserves the nonce. -/
theorem reservation_mem {k : Nat} {first : String} {others : List String}
    (addressed : sends.recipients k = first :: others) :
    sends.messageRow k (sends.parent k) (sends.recipients k) 0 first ∈ sends.rows k := by
  refine List.mem_mapIdx.mpr ⟨0, by simp [addressed], ?_⟩
  simp [addressed]

theorem req_fromAgent (k : Nat) : (sends.req k).fromAgent = sends.sender := sends.same_sender k

theorem recipientMessageId_inj {msgId left right : String} {recipients : List String}
    (several : 1 < recipients.length)
    (same : recipientMessageId msgId recipients left = recipientMessageId msgId recipients right) :
    left = right := by
  simp only [recipientMessageId, if_pos several] at same
  have chars := congrArg String.toList same
  simp only [String.toList_append, List.append_cancel_left_eq] at chars
  exact String.toList_injective chars

/-- No row of a send is refused by the tables as they were, nor by the rows the
send has put before it. -/
theorem not_ignored (k index : Nat) {recipient : String}
    (addressed : (sends.recipients k)[index]? = some recipient) :
    ignored (sends.tables.messages ++ (sends.rows k).take index)
      (sends.messageRow k (sends.parent k) (sends.recipients k) index recipient) = false := by
  rw [ignored, List.any_eq_false]
  intro other known
  rw [decide_eq_true_eq]
  rcases List.mem_append.mp known with before | staged
  · rintro (sameId | ⟨_, sameSender, sameNonce, _⟩)
    · have fresh := sends.mint_fresh k (sends.recipients k) recipient
      rw [isMessage, List.any_eq_false] at fresh
      exact fresh other before (decide_eq_true sameId)
    · rw [messageRow, req_fromAgent] at sameSender
      exact sends.nonce_unused other before sameSender sameNonce
  · obtain ⟨earlier, bound, same⟩ := List.mem_take_iff_getElem.mp staged
    have short : earlier < index := by omega
    obtain ⟨inRange, here⟩ := List.getElem?_eq_some_iff.mp addressed
    have stagedRow : other = sends.messageRow k (sends.parent k) (sends.recipients k) earlier
        ((sends.recipients k).get ⟨earlier, by omega⟩) := by
      rw [← same]
      simp [rows]
    have several : 1 < (sends.recipients k).length := by omega
    have differ : (sends.recipients k).get ⟨earlier, by omega⟩ ≠ recipient := by
      rw [← here]
      intro equal
      have indexEq := (List.Nodup.getElem_inj_iff (sends.recipients_nodup k)).mp equal
      omega
    subst stagedRow
    rintro (sameId | ⟨_, _, _, sameRecipient | ⟨_, primary⟩⟩)
    · exact differ (recipientMessageId_inj several sameId)
    · exact differ sameRecipient
    · have zero : index = 0 := of_decide_eq_true primary
      omega

/-! ### The tables before and after the first commit -/

def Unstored (tables : Tables) : Prop :=
  tables.messages = sends.tables.messages ∧ tables.runs = sends.tables.runs

/-- A run that delivers one of the rows of request `k`. -/
def MadeBy (k : Nat) (run : Run) : Prop :=
  run.fromAgent = sends.sender ∧
    ∃ row ∈ sends.rows k, run.messageId = some row.id ∧ run.targetAgent = row.toAgent

/-- What the gates of the handler ask of a request, on the tables as they were. -/
structure Deliverable (k : Nat) : Prop where
  targets : (targetsOf (sends.requests k)).error = ""
  whole : bodyTruncated (sends.req k).body = false
  addressed : sends.recipients k ≠ []
  reachable : isReply (sends.parent k) (sends.req k) = true ∨
    ∀ recipient ∈ sends.recipients k,
      resolved sends.agents sends.tables.messages recipient = true

structure StoredBy (tables : Tables) (winner : Nat) : Prop where
  messages : tables.messages = sends.tables.messages ++ sends.rows winner
  runs : ∃ made, tables.runs = sends.tables.runs ++ made ∧ ∀ run ∈ made, sends.MadeBy winner run
  deliverable : sends.Deliverable winner

variable {sends}

theorem Deliverable.first {k : Nat} (deliverable : sends.Deliverable k) :
    ∃ first others, sends.recipients k = first :: others :=
  List.exists_cons_of_ne_nil deliverable.addressed

theorem filter_unused (sends : Sends) : (sends.tables.messages.filter fun row =>
    row.fromAgent = sends.sender ∧ row.clientNonce = sends.nonce) = [] := by
  rw [List.filter_eq_nil_iff]
  intro row known both
  obtain ⟨sameSender, sameNonce⟩ := of_decide_eq_true both
  exact sends.nonce_unused row known sameSender sameNonce

theorem filter_rows (sends : Sends) (k : Nat) : ((sends.rows k).filter fun row =>
    row.fromAgent = sends.sender ∧ row.clientNonce = sends.nonce) = sends.rows k := by
  rw [List.filter_eq_self]
  intro row known
  obtain ⟨index, recipient, _, rfl⟩ := sends.mem_rows known
  exact decide_eq_true ⟨sends.req_fromAgent k, rfl⟩

theorem nonceRows_unstored {tables : Tables} (unstored : sends.Unstored tables) :
    nonceRows tables.messages sends.sender sends.nonce = [] := by
  rw [nonceRows, unstored.1, filter_unused]
  rfl

/-- The rows under the nonce are the winner's, the reservation first. -/
theorem nonceRows_stored {tables : Tables} {winner : Nat} (stored : sends.StoredBy tables winner)
    {first : String} {others : List String}
    (addressed : sends.recipients winner = first :: others) :
    ∃ rest, nonceRows tables.messages sends.sender sends.nonce =
        sends.messageRow winner (sends.parent winner) (sends.recipients winner) 0 first :: rest ∧
      rest.length + 1 = (sends.recipients winner).length := by
  have sorted := List.pairwise_insertionSort (fun left right => rank left ≤ rank right)
    (sends.rows winner)
  have perm := List.perm_insertionSort (fun left right => rank left ≤ rank right)
    (sends.rows winner)
  rw [nonceRows, stored.messages, List.filter_append, filter_unused, filter_rows, List.nil_append]
  have reserved := perm.symm.subset (sends.reservation_mem addressed)
  generalize (sends.rows winner).insertionSort (fun left right => rank left ≤ rank right) =
    ordered at sorted perm reserved ⊢
  cases ordered with
  | nil => cases reserved
  | cons head rest =>
      refine ⟨rest, ?_, ?_⟩
      · -- the head ranks at most as high as the reservation, so it is a reservation too
        have least : rank head ≤
            rank (sends.messageRow winner (sends.parent winner) (sends.recipients winner) 0 first) := by
          rcases List.mem_cons.mp reserved with same | later
          · rw [same]
          · exact (List.pairwise_cons.mp sorted).1 _ later
        obtain ⟨index, recipient, here, rfl⟩ := sends.mem_rows (perm.subset List.mem_cons_self)
        have zero : index = 0 := by
          by_contra later
          simp only [rank, Prod.Lex.toLex_le_toLex, messageRow, later, decide_true,
            decide_false, Bool.not_true, Bool.not_false] at least
          rcases least with above | ⟨equal, _⟩
          · exact absurd above (by decide)
          · cases equal
        subst zero
        rw [addressed] at here
        rw [← Option.some.inj here]
      · have sameLength := perm.length_eq
        simpa [rows] using sameLength

theorem logicalSendId_reservation (k : Nat) (parent : Option String) (recipients : List String)
    (recipient : String) {rest : List MessageRow} (counted : rest.length + 1 = recipients.length) :
    logicalSendId (sends.messageRow k parent recipients 0 recipient)
      (sends.messageRow k parent recipients 0 recipient :: rest) = sends.mint k := by
  by_cases several : 1 < recipients.length
  · have split : (sends.messageRow k parent recipients 0 recipient).id.toList =
        (sends.mint k).toList ++ '-' :: recipient.toList := by
      simp [messageRow, recipientMessageId, several, String.toList_append]
    have fanOut : 1 < (sends.messageRow k parent recipients 0 recipient :: rest).length := by
      rw [List.length_cons, counted]
      exact several
    have suffix : '-' :: recipient.toList <:+
        (sends.messageRow k parent recipients 0 recipient).id.toList := by
      rw [split]
      exact List.suffix_append _ _
    rw [logicalSendId]
    simp only [show (sends.messageRow k parent recipients 0 recipient).toAgent = recipient from rfl]
    rw [if_pos ⟨fanOut, suffix⟩, split]
    simp
  · have single : ¬ 1 < (sends.messageRow k parent recipients 0 recipient :: rest).length := by
      rw [List.length_cons, counted]
      exact several
    rw [logicalSendId]
    simp only [single, false_and, if_false]
    simp [messageRow, recipientMessageId, several]

theorem prior_unstored {tables : Tables} (unstored : sends.Unstored tables) (k : Nat)
    (parent : Option String) : sends.prior k tables.messages parent = .ok none := by
  rw [prior, priorSendForNonce, req_fromAgent, nonceRows_unstored unstored]

/-- The lookup after the first commit: the winner's id for its fingerprint, a
conflict for any other. -/
theorem prior_stored {tables : Tables} {winner : Nat} (stored : sends.StoredBy tables winner)
    (k : Nat) (parent : Option String) :
    sends.prior k tables.messages parent =
      if sends.fingerprint k = sends.fingerprint winner then .ok (some (sends.mint winner))
      else .error (conflict sends.nonce "another payload, recipient or delivery option") := by
  obtain ⟨first, others, addressed⟩ := stored.deliverable.first
  obtain ⟨rest, found, counted⟩ := nonceRows_stored stored addressed
  have print : (sends.messageRow winner (sends.parent winner) (sends.recipients winner) 0
      first).sendFingerprint = sends.fingerprint winner := rfl
  have given : sends.fingerprint winner ≠ "" := sends.digest_nonempty _
  rw [prior, priorSendForNonce, req_fromAgent, found]
  simp only [print, ne_eq, given, not_false_eq_true, if_true]
  by_cases same : sends.fingerprint k = sends.fingerprint winner
  · rw [if_neg (not_not.mpr same.symm), if_pos same, logicalSendId_reservation _ _ _ _ counted]
  · rw [if_pos (Ne.symm same), if_neg same]

/-- The nonce's rows belong to one send only. -/
theorem StoredBy.unique {tables : Tables} {left right : Nat} (stored : sends.StoredBy tables left)
    (also : sends.StoredBy tables right) :
    sends.fingerprint left = sends.fingerprint right ∧ sends.mint left = sends.mint right := by
  have answered := prior_stored stored left none
  rw [if_pos rfl, prior_stored also left none] at answered
  by_cases same : sends.fingerprint left = sends.fingerprint right
  · rw [if_pos same] at answered
    exact ⟨same, (Option.some.inj (Except.ok.inj answered)).symm⟩
  · rw [if_neg same] at answered
    cases answered

/-- Once the nonce is held, the row that would reserve it again is ignored. -/
theorem reservation_ignored {tables : Tables} {winner : Nat}
    (stored : sends.StoredBy tables winner) (k : Nat) (parent : Option String)
    (recipients : List String) (recipient : String) :
    ignored tables.messages (sends.messageRow k parent recipients 0 recipient) = true := by
  obtain ⟨first, others, addressed⟩ := stored.deliverable.first
  rw [ignored, List.any_eq_true]
  refine ⟨sends.messageRow winner (sends.parent winner) (sends.recipients winner) 0 first, ?_,
    decide_eq_true (Or.inr ⟨sends.nonce_given, ?_, rfl, Or.inr ⟨rfl, rfl⟩⟩)⟩
  · rw [stored.messages]
    exact List.mem_append_right _ (sends.reservation_mem addressed)
  · exact (sends.req_fromAgent winner).trans (sends.req_fromAgent k).symm

/-! ### Requests that ask for the same thing -/

theorem meaningful_getD (value : Option String) :
    (value.filter meaningful).isSome = true ↔ (value.filter meaningful).getD "" ≠ "" := by
  cases value with
  | none => simp
  | some text =>
      rw [Option.filter_some]
      cases kept : meaningful text with
      | false => simp
      | true =>
          have given : text ≠ "" := by
            rintro rfl
            cases kept
          simp [given]

/-- One selector and not the other. -/
theorem targets_accepted (req : MessageSend) : (targetsOf req).error = "" ↔
    ((targetsOf req).toAgent.getD "" ≠ "" ↔ ¬ (targetsOf req).toRole.getD "" ≠ "") := by
  simp only [targetsOf, selectMessageTargets]
  rw [← meaningful_getD, ← meaningful_getD]
  cases req.toAgent.filter meaningful <;> cases req.toRole.filter meaningful <;> simp

theorem same_identity {j k : Nat} (same : sends.fingerprint j = sends.fingerprint k) :
    identity (sends.req j) = identity (sends.req k) := sends.collision_free j k same

theorem parent_congr {j k : Nat} (same : identity (sends.req j) = identity (sends.req k)) :
    sends.parent j = sends.parent k := by
  have asked : (sends.req j).inReplyTo.getD "" = (sends.req k).inReplyTo.getD "" :=
    congrArg SendIdentity.inReplyTo same
  have candidate : parentCandidate (sends.req j) = parentCandidate (sends.req k) := by
    rw [parentCandidate, parentCandidate, asked]
  rw [parent, parent, resolveReplyParent, resolveReplyParent, candidate]

theorem recipients_congr {j k : Nat} (same : identity (sends.req j) = identity (sends.req k)) :
    sends.recipients j = sends.recipients k := by
  have direct : (sends.req j).toAgent.getD "" = (sends.req k).toAgent.getD "" :=
    congrArg SendIdentity.toAgent same
  have role : (sends.req j).toRole.getD "" = (sends.req k).toRole.getD "" :=
    congrArg SendIdentity.toRole same
  simp only [recipients, resolveRecipientIds, direct, role, req_fromAgent]

/-- The gates ask about nothing but what the caller asked for. -/
theorem Deliverable.congr {j k : Nat} (same : identity (sends.req j) = identity (sends.req k))
    (deliverable : sends.Deliverable j) : sends.Deliverable k where
  targets := by
    have direct : (sends.req j).toAgent.getD "" = (sends.req k).toAgent.getD "" :=
      congrArg SendIdentity.toAgent same
    have role : (sends.req j).toRole.getD "" = (sends.req k).toRole.getD "" :=
      congrArg SendIdentity.toRole same
    have accepted := (targets_accepted _).mp deliverable.targets
    exact (targets_accepted _).mpr (by
      simpa only [req, withTargets] using direct ▸ role ▸ accepted)
  whole := by
    have body : (sends.req j).body = (sends.req k).body := congrArg SendIdentity.body same
    rw [← body]
    exact deliverable.whole
  addressed := recipients_congr same ▸ deliverable.addressed
  reachable := by
    have type : (sends.req j).type = (sends.req k).type := congrArg SendIdentity.type same
    have reply : isReply (sends.parent k) (sends.req k) =
        isReply (sends.parent j) (sends.req j) := by
      rw [isReply, isReply, parent_congr same, type]
    rw [reply, ← recipients_congr same]
    exact deliverable.reachable

/-! ### What holds of a request in each of its phases -/

variable (sends)

def Admitted (k : Nat) : Prop :=
  (targetsOf (sends.requests k)).error = "" ∧ bodyTruncated (sends.req k).body = false

/-- The request looked the nonce up on the tables as they were, so it resolved
its parent and recipients on them too. -/
structure Resolved (k : Nat) (parent : Option String) (recipients : List String) : Prop where
  admitted : sends.Admitted k
  parent_eq : parent = sends.parent k
  recipients_eq : recipients = sends.recipients k
  addressed : sends.recipients k ≠ []

def reachable (recipient : String) : Bool :=
  resolved sends.agents sends.tables.messages recipient

structure Checked (tables : Tables) (k : Nat) (parent : Option String)
    (recipients rest unresolved : List String) : Prop where
  resolved : sends.Resolved k parent recipients
  fresh : isReply (sends.parent k) (sends.req k) = false
  rest_mem : ∀ recipient ∈ rest, recipient ∈ sends.recipients k
  unresolved_mem : ∀ recipient ∈ unresolved,
    recipient ∈ sends.recipients k ∧ sends.reachable recipient = false
  covered : sends.Unstored tables → ∀ recipient ∈ sends.recipients k,
    recipient ∈ rest ∨ recipient ∈ unresolved ∨ sends.reachable recipient = true

/-- Before its first INSERT, in the middle of its rows, or past a lost reservation. -/
def Inserting (tables : Tables) (k index : Nat) (rest : List String) (staged : List MessageRow) :
    Prop :=
  (index = 0 ∧ rest = sends.recipients k ∧ staged = []) ∨
  (0 < index ∧ sends.Unstored tables ∧ rest = (sends.recipients k).drop index ∧
    staged = (sends.rows k).take index) ∨
  (0 < index ∧ rest = [] ∧ staged = [] ∧ ∃ winner, sends.StoredBy tables winner)

def AnswerOk (tables : Tables) (k : Nat) : Answer → Prop
  | .stored id => id = sends.mint k ∧ sends.StoredBy tables k
  | .replayed id => ∃ winner, sends.StoredBy tables winner ∧
      sends.fingerprint k = sends.fingerprint winner ∧ id = sends.mint winner
  | .badTargets _ => ¬ sends.Deliverable k
  | .truncatedBody => ¬ sends.Deliverable k
  | .notTheSender => True
  | .noRecipients => ¬ sends.Deliverable k
  | .unstartable _ => ¬ sends.Deliverable k
  | .nonceConflict _ => ∃ winner, sends.StoredBy tables winner ∧
      sends.fingerprint k ≠ sends.fingerprint winner
  | .outcomeUnknown => False

def PhaseOk (tables : Tables) (k : Nat) : Phase → Prop
  | .arrived => True
  | .admitted => sends.Admitted k
  | .parentMissed => sends.Admitted k ∧ parentCandidate (sends.req k) ≠ "" ∧
      isMessage sends.tables.messages (parentCandidate (sends.req k)) = false
  | .threaded parent => sends.Admitted k ∧ (sends.Unstored tables → parent = sends.parent k)
  | .addressed parent recipients => sends.Admitted k ∧ recipients = sends.recipients k ∧
      (sends.Unstored tables → parent = sends.parent k)
  | .checking parent recipients rest unresolved =>
      sends.Checked tables k parent recipients rest unresolved
  | .checkingOrigin parent recipients recipient rest unresolved =>
      sends.Checked tables k parent recipients (recipient :: rest) unresolved ∧
      isInbox sends.agents recipient = false ∧
      provenMachine sends.tables.messages recipient = false
  | .launching parent recipients => sends.Resolved k parent recipients ∧
      (sends.Unstored tables → sends.Deliverable k)
  | .inserting parent recipients launchable index rest staged =>
      sends.Resolved k parent recipients ∧ (sends.Unstored tables → sends.Deliverable k) ∧
      (∀ recipient ∈ launchable, recipient ∈ sends.recipients k) ∧
      sends.Inserting tables k index rest staged
  | .lost _ => ∃ winner, sends.StoredBy tables winner
  | .creating recipients launchable staged => recipients = sends.recipients k ∧
      sends.Unstored tables ∧ sends.Deliverable k ∧
      (∀ recipient ∈ launchable, recipient ∈ sends.recipients k) ∧ staged = sends.rows k
  | .committing staged made => sends.Unstored tables ∧ sends.Deliverable k ∧
      staged = sends.rows k ∧ ∀ run ∈ made, sends.MadeBy k run
  | .answered answer => sends.AnswerOk tables k answer

/-- The phases in which a request holds the write lock. -/
def writing : Phase → Bool
  | .inserting _ _ _ index _ _ => 0 < index
  | .lost _ => true
  | .creating _ _ _ => true
  | .committing _ _ => true
  | _ => false

structure Inv (world : World) : Prop where
  tables : sends.Unstored world.tables ∨ ∃ winner, sends.StoredBy world.tables winner ∧
    world.phase winner = .answered (.stored (sends.mint winner))
  phases : ∀ k, sends.PhaseOk world.tables k (world.phase k)
  writer : ∀ k, writing (world.phase k) = true ↔ world.writer = some k

variable {sends} {world : World} {k : Nat}

theorem Inv.subset (inv : sends.Inv world) {row : MessageRow}
    (known : row ∈ sends.tables.messages) : row ∈ world.tables.messages := by
  rcases inv.tables with unstored | ⟨winner, stored, _⟩
  · rw [unstored.1]
    exact known
  · rw [stored.messages]
    exact List.mem_append_left _ known

/-- What a SELECT does not find now was not there at the start. -/
theorem Inv.any_false (inv : sends.Inv world) {found : MessageRow → Bool}
    (missed : world.tables.messages.any found = false) :
    sends.tables.messages.any found = false := by
  rw [List.any_eq_false] at missed ⊢
  exact fun row known => missed row (inv.subset known)

/-- A step of one request that commits nothing. -/
theorem Inv.enter (inv : sends.Inv world) {phase : Phase} {writer : Option Nat}
    (unanswered : ∀ answer, world.phase k ≠ .answered answer)
    (ok : sends.PhaseOk world.tables k phase)
    (holds : writing phase = true ↔ writer = some k)
    (others : ∀ j, j ≠ k → (world.writer = some j ↔ writer = some j)) :
    sends.Inv { world with writer := writer, phase := Function.update world.phase k phase } where
  tables := by
    rcases inv.tables with unstored | ⟨winner, stored, answered⟩
    · exact Or.inl unstored
    · have other : winner ≠ k := by
        rintro rfl
        exact unanswered _ answered
      refine Or.inr ⟨winner, stored, ?_⟩
      dsimp only
      rw [Function.update_of_ne other]
      exact answered
  phases := by
    intro j
    dsimp only
    by_cases same : j = k
    · subst same
      rw [Function.update_self]
      exact ok
    · rw [Function.update_of_ne same]
      exact inv.phases j
  writer := by
    intro j
    dsimp only
    by_cases same : j = k
    · subst same
      rw [Function.update_self]
      exact holds
    · rw [Function.update_of_ne same, inv.writer j]
      exact others j same

/-- A step outside the write transaction. -/
theorem Inv.read (inv : sends.Inv world) {phase : Phase}
    (unanswered : ∀ answer, world.phase k ≠ .answered answer)
    (ok : sends.PhaseOk world.tables k phase) (before : writing (world.phase k) = false)
    (after : writing phase = false) :
    sends.Inv { world with phase := Function.update world.phase k phase } := by
  refine inv.enter unanswered ok ?_ (fun _ _ => Iff.rfl)
  rw [after, ← inv.writer k, before]

theorem StoredBy.changed {tables : Tables} {winner : Nat} (stored : sends.StoredBy tables winner) :
    ¬ sends.Unstored tables := by
  intro unstored
  obtain ⟨first, others, addressed⟩ := stored.deliverable.first
  have none := stored.messages.symm.trans unstored.1
  rw [List.append_right_eq_self] at none
  have row := sends.reservation_mem addressed
  rw [none] at row
  cases row

/-- The commit of the winner leaves what holds of every other request. -/
theorem PhaseOk.commit {before after : Tables} {winner : Nat} {phase : Phase}
    (ok : sends.PhaseOk before k phase) (unstored : sends.Unstored before)
    (stored : sends.StoredBy after winner) (outside : writing phase = false) :
    sends.PhaseOk after k phase := by
  have changed := stored.changed
  -- What a phase knows of the tables as they were is no longer asked, and no
  -- other request can be writing while the winner commits.
  cases phase with
  | arrived | admitted | parentMissed => exact ok
  | threaded => exact ⟨ok.1, fun unchanged => absurd unchanged changed⟩
  | addressed => exact ⟨ok.1, ok.2.1, fun unchanged => absurd unchanged changed⟩
  | checking => exact { ok with covered := fun unchanged => absurd unchanged changed }
  | checkingOrigin =>
      exact ⟨{ ok.1 with covered := fun unchanged => absurd unchanged changed }, ok.2⟩
  | launching => exact ⟨ok.1, fun unchanged => absurd unchanged changed⟩
  | inserting parent recipients launchable index rest staged =>
      obtain ⟨resolved, _, within, progress⟩ := ok
      have start : ¬ 0 < index := of_decide_eq_false outside
      refine ⟨resolved, fun unchanged => absurd unchanged changed, within, ?_⟩
      rcases progress with first | ⟨later, _⟩ | ⟨later, _⟩
      · exact Or.inl first
      · exact absurd later start
      · exact absurd later start
  | lost | creating | committing => cases outside
  | answered answer =>
      cases answer with
      | stored => exact absurd unstored ok.2.changed
      | replayed =>
          obtain ⟨_, held, _⟩ := ok
          exact absurd unstored held.changed
      | nonceConflict =>
          obtain ⟨_, held, _⟩ := ok
          exact absurd unstored held.changed
      | _ => exact ok

/-! ### One step of a request -/

theorem begin_ok (tables : Tables) (k : Nat) (genuine : Bool) :
    sends.PhaseOk tables k (sends.begin k genuine) ∧ writing (sends.begin k genuine) = false := by
  rw [begin]
  split
  · rename_i refused
    exact ⟨fun deliverable => refused deliverable.targets, rfl⟩
  · rename_i accepted
    split
    · rename_i truncated
      refine ⟨fun deliverable => ?_, rfl⟩
      rw [deliverable.whole] at truncated
      cases truncated
    · rename_i whole
      split
      · exact ⟨trivial, rfl⟩
      · exact ⟨⟨not_not.mp accepted, Bool.eq_false_iff.mpr whole⟩, rfl⟩

theorem lookedUp_ok (inv : sends.Inv world) {parent : Option String} {recipients : List String}
    (admitted : sends.Admitted k) (addressed : recipients = sends.recipients k)
    (threaded : sends.Unstored world.tables → parent = sends.parent k) :
    sends.PhaseOk world.tables k
      (sends.lookedUp k parent recipients (sends.prior k world.tables.messages parent)) ∧
    writing (sends.lookedUp k parent recipients
      (sends.prior k world.tables.messages parent)) = false := by
  -- Nothing is stored yet, or the lookup answers from the winner's reservation.
  rcases inv.tables with unstored | ⟨winner, stored, _⟩
  · rw [prior_unstored unstored, lookedUp, threaded unstored, addressed]
    split
    · rename_i nobody
      exact ⟨fun deliverable => deliverable.addressed nobody, rfl⟩
    · rename_i somebody
      have resolved : sends.Resolved k (sends.parent k) (sends.recipients k) :=
        ⟨admitted, rfl, rfl, somebody⟩
      split
      · rename_i reply
        exact ⟨⟨resolved, fun _ => ⟨admitted.1, admitted.2, somebody, Or.inl reply⟩⟩, rfl⟩
      · rename_i fresh
        refine ⟨⟨resolved, Bool.eq_false_iff.mpr fresh, fun _ known => known, ?_, ?_⟩, rfl⟩
        · intro recipient none
          cases none
        · exact fun _ _ known => Or.inl known
  · rw [prior_stored stored]
    split
    · rename_i same
      exact ⟨⟨winner, stored, same, rfl⟩, rfl⟩
    · rename_i differs
      exact ⟨⟨winner, stored, differs⟩, rfl⟩

theorem reread_ok {tables : Tables} {winner : Nat} (stored : sends.StoredBy tables winner)
    (k : Nat) (parent : Option String) :
    sends.AnswerOk tables k (reread (sends.prior k tables.messages parent)) := by
  rw [prior_stored stored]
  split
  · rename_i same
    rw [reread, if_neg (sends.mint_nonempty winner)]
    exact ⟨winner, stored, same, rfl⟩
  · rename_i differs
    exact ⟨winner, stored, differs⟩

/-- The recipient in hand turned out to be somebody's inbox, or nobody's. -/
theorem Checked.next {tables : Tables} {parent : Option String} {recipient : String}
    {recipients rest unresolved : List String}
    (checked : sends.Checked tables k parent recipients (recipient :: rest) unresolved)
    (found : sends.Unstored tables → sends.reachable recipient = true) :
    sends.Checked tables k parent recipients rest unresolved where
  resolved := checked.resolved
  fresh := checked.fresh
  rest_mem := fun other known => checked.rest_mem other (List.mem_cons_of_mem _ known)
  unresolved_mem := checked.unresolved_mem
  covered := by
    intro unstored other known
    rcases checked.covered unstored other known with inRest | settled
    · rcases List.mem_cons.mp inRest with rfl | later
      · exact Or.inr (Or.inr (found unstored))
      · exact Or.inl later
    · exact Or.inr settled

theorem Checked.miss {tables : Tables} {parent : Option String} {recipient : String}
    {recipients rest unresolved : List String}
    (checked : sends.Checked tables k parent recipients (recipient :: rest) unresolved)
    (nobody : sends.reachable recipient = false) :
    sends.Checked tables k parent recipients rest (unresolved ++ [recipient]) where
  resolved := checked.resolved
  fresh := checked.fresh
  rest_mem := fun other known => checked.rest_mem other (List.mem_cons_of_mem _ known)
  unresolved_mem := by
    intro other known
    rcases List.mem_append.mp known with before | last
    · exact checked.unresolved_mem other before
    · rw [List.mem_singleton] at last
      subst last
      exact ⟨checked.rest_mem other List.mem_cons_self, nobody⟩
  covered := by
    intro unstored other known
    rcases checked.covered unstored other known with inRest | missed | found
    · rcases List.mem_cons.mp inRest with rfl | later
      · exact Or.inr (Or.inl (List.mem_append_right _ (List.mem_singleton_self _)))
      · exact Or.inl later
    · exact Or.inr (Or.inl (List.mem_append_left _ missed))
    · exact Or.inr (Or.inr found)

/-- A row goes in: nobody holds the nonce, and the rows before it are in. -/
theorem insertNext_row {tables : Tables} (unstored : sends.Unstored tables)
    {launchable rest : List String} {index : Nat} {recipient : String}
    (here : recipient :: rest = (sends.recipients k).drop index) :
    sends.insertNext k tables.messages (sends.parent k) (sends.recipients k) launchable index
        ((sends.rows k).take index) (recipient :: rest) =
      .inserting (sends.parent k) (sends.recipients k) launchable (index + 1)
        ((sends.recipients k).drop (index + 1)) ((sends.rows k).take (index + 1)) := by
  have addressed : (sends.recipients k)[index]? = some recipient := by
    rw [← List.head?_drop, ← here]
    rfl
  have row : (sends.rows k)[index]? = some (sends.messageRow k (sends.parent k)
      (sends.recipients k) index recipient) := by
    simp [rows, List.getElem?_mapIdx, addressed]
  have rest_eq : rest = (sends.recipients k).drop (index + 1) := by
    rw [← List.drop_drop, ← here]
    rfl
  have free := sends.not_ignored k index addressed
  rw [insertNext]
  simp only [unstored.1, free, Bool.false_eq_true, if_false]
  rw [List.take_add_one, row, rest_eq]
  rfl

/-- The loop ends with every row in, or with none and the nonce held. -/
theorem insertNext_end {tables : Tables} (resolved : sends.Resolved k (sends.parent k)
      (sends.recipients k))
    (deliverable : sends.Unstored tables → sends.Deliverable k) {launchable : List String}
    (within : ∀ recipient ∈ launchable, recipient ∈ sends.recipients k) {index : Nat}
    {staged : List MessageRow} (progress : sends.Inserting tables k index [] staged) :
    sends.PhaseOk tables k (sends.insertNext k tables.messages (sends.parent k)
      (sends.recipients k) launchable index staged []) ∧
    writing (sends.insertNext k tables.messages (sends.parent k)
      (sends.recipients k) launchable index staged []) = true := by
  rw [insertNext]
  rcases progress with ⟨_, none, _⟩ | ⟨_, unstored, done, rfl⟩ | ⟨_, _, rfl, held⟩
  · exact absurd none.symm resolved.addressed
  · have all : (sends.rows k).take index = sends.rows k := by
      apply List.take_of_length_le
      simpa [rows] using List.drop_eq_nil_iff.mp done.symm
    obtain ⟨first, others, addressed⟩ := (deliverable unstored).first
    have some : sends.rows k ≠ [] := List.ne_nil_of_mem (sends.reservation_mem addressed)
    rw [all, if_neg some]
    exact ⟨⟨rfl, unstored, deliverable unstored, within, rfl⟩, rfl⟩
  · exact ⟨held, rfl⟩

theorem insertNext_ok (inv : sends.Inv world) {parent : Option String}
    {recipients launchable : List String} {index : Nat} {rest : List String}
    {staged : List MessageRow}
    (ok : sends.PhaseOk world.tables k
      (.inserting parent recipients launchable index rest staged)) :
    sends.PhaseOk world.tables k
      (sends.insertNext k world.tables.messages parent recipients launchable index staged rest) ∧
    writing (sends.insertNext k world.tables.messages parent recipients launchable index staged
      rest) = true := by
  obtain ⟨resolved, deliverable, within, progress⟩ := ok
  obtain rfl := resolved.parent_eq
  obtain rfl := resolved.recipients_eq
  cases rest with
  | nil => exact insertNext_end resolved deliverable within progress
  | cons recipient rest =>
      rcases progress with ⟨rfl, all, rfl⟩ | ⟨_, unstored, here, rfl⟩ | ⟨_, none, _⟩
      · rcases inv.tables with unstored | ⟨winner, stored, _⟩
        · have first := @insertNext_row sends k _ unstored launchable rest 0 recipient all
          rw [List.take_zero] at first
          rw [first]
          exact ⟨⟨resolved, deliverable, within,
            Or.inr (Or.inl ⟨Nat.one_pos, unstored, rfl, rfl⟩)⟩, rfl⟩
        · -- the nonce is held: the reservation is ignored and the loop ends
          have lost := reservation_ignored stored k (sends.parent k) (sends.recipients k) recipient
          rw [insertNext]
          simp only [List.append_nil, lost, if_true]
          exact ⟨⟨resolved, deliverable, within,
            Or.inr (Or.inr ⟨Nat.one_pos, rfl, rfl, winner, stored⟩)⟩, rfl⟩
      · rw [insertNext_row unstored here]
        exact ⟨⟨resolved, deliverable, within,
          Or.inr (Or.inl ⟨Nat.succ_pos index, unstored, rfl, rfl⟩)⟩,
          decide_eq_true (Nat.succ_pos index)⟩
      · cases none

theorem launchable_mem {recipients : List String} {started : String → Bool} {recipient : String}
    (known : recipient ∈ sends.launchable k recipients started) : recipient ∈ recipients := by
  rw [launchable] at known
  split at known
  · exact List.mem_of_mem_filter (List.mem_of_mem_filter known)
  · cases known

theorem createDispatchRuns_made {launchable : List String} {made : String → Option String}
    (within : ∀ recipient ∈ launchable, recipient ∈ sends.recipients k) {run : Run}
    (known : run ∈ sends.createDispatchRuns k (sends.recipients k) launchable made) :
    sends.MadeBy k run := by
  rw [createDispatchRuns] at known
  split at known
  · obtain ⟨recipient, launched, given⟩ := List.mem_filterMap.mp known
    obtain ⟨id, _, rfl⟩ := Option.map_eq_some_iff.mp given
    obtain ⟨index, bound, here⟩ := List.getElem_of_mem (within recipient launched)
    refine ⟨sends.req_fromAgent k, _, List.mem_mapIdx.mpr ⟨index, bound, rfl⟩, ?_, ?_⟩
    · simp only [here]
      rfl
    · exact here.symm
  · cases known

/-- The commit of the first request to get there. -/
theorem Inv.commit (inv : sends.Inv world) {staged : List MessageRow} {made : List Run}
    (current : world.phase k = .committing staged made) :
    sends.Inv {
      tables := ⟨world.tables.messages ++ staged, world.tables.runs ++ made⟩
      writer := none
      phase := Function.update world.phase k (.answered (.stored (sends.mint k))) } := by
  have ok := inv.phases k
  rw [current] at ok
  obtain ⟨unstored, deliverable, rfl, madeBy⟩ := ok
  have lock : world.writer = some k := (inv.writer k).mp (by rw [current]; rfl)
  have stored : sends.StoredBy ⟨world.tables.messages ++ sends.rows k, world.tables.runs ++ made⟩ k :=
    ⟨by rw [unstored.1], ⟨made, by rw [unstored.2], madeBy⟩, deliverable⟩
  have outside (j : Nat) (other : j ≠ k) : writing (world.phase j) = false := by
    rw [Bool.eq_false_iff]
    intro holds
    exact other (Option.some.inj (((inv.writer j).mp holds).symm.trans lock))
  refine ⟨Or.inr ⟨k, stored, Function.update_self ..⟩, fun j => ?_, fun j => ?_⟩
  · dsimp only
    by_cases same : j = k
    · subst same
      rw [Function.update_self]
      exact ⟨rfl, stored⟩
    · rw [Function.update_of_ne same]
      exact (inv.phases j).commit unstored stored (outside j same)
  · dsimp only
    by_cases same : j = k
    · subst same
      rw [Function.update_self]
      exact ⟨(nomatch ·), (nomatch ·)⟩
    · rw [Function.update_of_ne same, outside j same]
      exact ⟨(nomatch ·), (nomatch ·)⟩

theorem threaded_ok {tables : Tables} (unstored : sends.Unstored tables) :
    resolveReplyParent tables (sends.req k) = sends.parent k := by
  rw [parent, resolveReplyParent, resolveReplyParent, unstored.1, unstored.2]

/-- The SELECT of the parent among the messages. -/
theorem Inv.readParent (inv : sends.Inv world) (current : world.phase k = .admitted)
    {after : World} (taken : sends.next world k = some after) : sends.Inv after := by
  have admitted : sends.Admitted k := by
    have ok := inv.phases k
    rwa [current] at ok
  have go {phase : Phase} := @Inv.read sends world k inv phase (by simp [current])
  simp only [next, current] at taken
  rw [current] at go
  split at taken
  · rename_i absent
    cases taken
    refine go ⟨admitted, fun _ => ?_⟩ rfl rfl
    rw [parent, resolveReplyParent, if_pos absent]
  · rename_i named
    split at taken
    · rename_i found
      cases taken
      refine go ⟨admitted, fun unstored => ?_⟩ rfl rfl
      rw [← threaded_ok unstored, resolveReplyParent, if_neg named, if_pos found]
    · rename_i missed
      cases taken
      exact go ⟨admitted, named, inv.any_false (Bool.eq_false_iff.mpr missed)⟩ rfl rfl

/-- The SELECTs that decide whether a recipient is somebody's inbox. -/
theorem Inv.check (inv : sends.Inv world) {parent : Option String}
    {recipients rest unresolved : List String}
    (current : world.phase k = .checking parent recipients rest unresolved)
    {after : World} (taken : sends.next world k = some after) : sends.Inv after := by
  have checked : sends.Checked world.tables k parent recipients rest unresolved := by
    have ok := inv.phases k
    rwa [current] at ok
  have go {phase : Phase} := @Inv.read sends world k inv phase (by simp [current])
  simp only [next, current] at taken
  rw [current] at go
  cases rest with
  | nil =>
      dsimp only at taken
      split at taken
      · rename_i none
        subst none
        cases taken
        refine go ⟨checked.resolved, fun unstored => ⟨checked.resolved.admitted.1,
          checked.resolved.admitted.2, checked.resolved.addressed, Or.inr ?_⟩⟩ rfl rfl
        intro recipient known
        rcases checked.covered unstored recipient known with inRest | missed | found
        · cases inRest
        · cases missed
        · exact found
      · rename_i some
        cases taken
        refine go (fun deliverable => ?_) rfl rfl
        obtain ⟨recipient, others, rfl⟩ := List.exists_cons_of_ne_nil some
        obtain ⟨known, nobody⟩ := checked.unresolved_mem recipient List.mem_cons_self
        rcases deliverable.reachable with reply | reached
        · rw [checked.fresh] at reply
          cases reply
        · have found := reached recipient known
          rw [reachable] at nobody
          rw [nobody] at found
          cases found
  | cons recipient rest =>
      dsimp only at taken
      split at taken
      · rename_i found
        cases taken
        refine go (checked.next fun unstored => ?_) rfl rfl
        rw [reachable, resolved, ← unstored.1, found]
        rfl
      · rename_i missed
        cases taken
        rw [Bool.not_eq_true, Bool.or_eq_false_iff] at missed
        exact go ⟨checked, missed.1, inv.any_false missed.2⟩ rfl rfl

theorem Inv.checkOrigin (inv : sends.Inv world) {parent : Option String} {recipient : String}
    {recipients rest unresolved : List String}
    (current : world.phase k = .checkingOrigin parent recipients recipient rest unresolved)
    {after : World} (taken : sends.next world k = some after) : sends.Inv after := by
  have ok := inv.phases k
  rw [current] at ok
  obtain ⟨checked, outside, unproven⟩ := ok
  have go {phase : Phase} := @Inv.read sends world k inv phase (by simp [current])
  simp only [next, current] at taken
  rw [current] at go
  split at taken
  · rename_i found
    cases taken
    refine go (checked.next fun unstored => ?_) rfl rfl
    rw [reachable, resolved, ← unstored.1, found, Bool.or_true]
  · rename_i missed
    cases taken
    have undeclared := inv.any_false (Bool.eq_false_iff.mpr missed)
    refine go (checked.miss ?_) rfl rfl
    rw [reachable, resolved, outside, unproven]
    exact undeclared

theorem Inv.next (inv : sends.Inv world) {after : World}
    (taken : sends.next world k = some after) : sends.Inv after := by
  have ok := inv.phases k
  cases current : world.phase k with
  | admitted => exact inv.readParent current taken
  | checking => exact inv.check current taken
  | checkingOrigin => exact inv.checkOrigin current taken
  | parentMissed =>
      rw [current] at ok
      obtain ⟨admitted, named, missed⟩ := ok
      simp only [Sends.next, current] at taken
      cases taken
      refine inv.read (by simp [current]) ⟨admitted, fun unstored => ?_⟩ (by rw [current]; rfl) rfl
      rw [parent, resolveReplyParent, if_neg named, missed, unstored.2]
      rfl
  | threaded parent =>
      rw [current] at ok
      simp only [Sends.next, current] at taken
      cases taken
      exact inv.read (by simp [current]) ⟨ok.1, rfl, ok.2⟩ (by rw [current]; rfl) rfl
  | addressed parent recipients =>
      rw [current] at ok
      obtain ⟨found, outside⟩ := lookedUp_ok inv ok.1 ok.2.1 ok.2.2
      simp only [Sends.next, current] at taken
      cases taken
      exact inv.read (by simp [current]) found (by rw [current]; rfl) outside
  | inserting parent recipients launchable index rest staged =>
      rw [current] at ok
      obtain ⟨inserted, holds⟩ := insertNext_ok inv ok
      simp only [Sends.next, current] at taken
      split at taken
      · rename_i lock
        cases taken
        refine inv.enter (by simp [current]) inserted (iff_of_true holds rfl) ?_
        intro j other
        rcases lock with free | own
        · simp [free, other.symm]
        · simp [own]
      · cases taken
  | lost parent =>
      rw [current] at ok
      obtain ⟨winner, stored⟩ := ok
      have lock : world.writer = some k := (inv.writer k).mp (by rw [current]; rfl)
      simp only [Sends.next, current] at taken
      cases taken
      refine inv.enter (by simp [current]) (reread_ok stored k parent)
        ⟨(nomatch ·), (nomatch ·)⟩ ?_
      intro j other
      simp [lock, other.symm]
  | committing staged made =>
      simp only [Sends.next, current] at taken
      cases taken
      exact inv.commit current
  | arrived | launching | creating | answered =>
      simp only [Sends.next, current] at taken
      cases taken

theorem Inv.step (inv : sends.Inv world) {label : Label} {after : World}
    (taken : sends.step world label = some after) : sends.Inv after := by
  cases label with
  | next k => exact inv.next taken
  | «begin» k genuine =>
      cases current : world.phase k with
      | arrived =>
          simp only [Sends.step, current] at taken
          cases taken
          obtain ⟨begun, outside⟩ := begin_ok world.tables k genuine
          exact inv.read (by simp [current]) begun (by rw [current]; rfl) outside
      | _ =>
          simp only [Sends.step, current] at taken
          cases taken
  | launch k started =>
      cases current : world.phase k with
      | launching parent recipients =>
          have ok := inv.phases k
          rw [current] at ok
          simp only [Sends.step, current] at taken
          cases taken
          obtain rfl := ok.1.recipients_eq
          exact inv.read (by simp [current])
            ⟨ok.1, ok.2, fun _ known => launchable_mem known, Or.inl ⟨rfl, rfl, rfl⟩⟩
            (by rw [current]; rfl) rfl
      | _ =>
          simp only [Sends.step, current] at taken
          cases taken
  | create k made =>
      cases current : world.phase k with
      | creating recipients launchable staged =>
          have ok := inv.phases k
          rw [current] at ok
          obtain ⟨rfl, unstored, deliverable, within, rfl⟩ := ok
          have lock : world.writer = some k := (inv.writer k).mp (by rw [current]; rfl)
          simp only [Sends.step, current] at taken
          cases taken
          exact inv.enter (by simp [current])
            ⟨unstored, deliverable, rfl, fun _ known => createDispatchRuns_made within known⟩
            (iff_of_true rfl lock) fun _ _ => Iff.rfl
      | _ =>
          simp only [Sends.step, current] at taken
          cases taken

theorem inv_initial (sends : Sends) : sends.Inv sends.initial where
  tables := Or.inl ⟨rfl, rfl⟩
  phases := fun _ => trivial
  writer := fun _ => ⟨(nomatch ·), (nomatch ·)⟩

/-! ### Every request gets its answer -/

/-- An upper bound on the statements a request still has before it. -/
def work (sends : Sends) (k : Nat) : Phase → Nat
  | .arrived => 10 + 3 * (sends.recipients k).length
  | .admitted => 9 + 3 * (sends.recipients k).length
  | .parentMissed => 8 + 3 * (sends.recipients k).length
  | .threaded _ => 7 + 3 * (sends.recipients k).length
  | .addressed _ recipients => 6 + 3 * recipients.length
  | .checking _ recipients rest _ => 5 + recipients.length + 2 * rest.length
  | .checkingOrigin _ recipients _ rest _ => 6 + recipients.length + 2 * rest.length
  | .launching _ recipients => 4 + recipients.length
  | .inserting _ _ _ _ rest _ => 3 + rest.length
  | .lost _ => 1
  | .creating _ _ _ => 2
  | .committing _ _ => 1
  | .answered _ => 0

theorem work_begin (sends : Sends) (k : Nat) (genuine : Bool) :
    sends.work k (sends.begin k genuine) ≤ 9 + 3 * (sends.recipients k).length := by
  rw [begin]
  split_ifs <;> simp only [work] <;> omega

theorem work_lookedUp (sends : Sends) (k : Nat) (parent : Option String) (recipients : List String)
    (found : Except String (Option String)) :
    sends.work k (sends.lookedUp k parent recipients found) < 6 + 3 * recipients.length := by
  rcases found with text | none | id
  · simp only [lookedUp, work]
    omega
  · simp only [lookedUp]
    split_ifs <;> simp only [work] <;> omega
  · simp only [lookedUp, work]
    omega

theorem work_insertNext (sends : Sends) (k : Nat) (messages : List MessageRow)
    (parent : Option String) (recipients launchable : List String) (index : Nat)
    (staged : List MessageRow) (rest : List String) :
    sends.work k (sends.insertNext k messages parent recipients launchable index staged rest) <
      3 + rest.length := by
  cases rest with
  | nil =>
      simp only [insertNext]
      split_ifs <;> simp only [work] <;> omega
  | cons recipient rest =>
      simp only [insertNext]
      split_ifs <;> simp only [work, List.length_cons, List.length_nil] <;> omega

/-- A step of request `k`, seen from that request alone. -/
def Advances (sends : Sends) (world : World) (k : Nat) : Prop :=
  ∃ label after, sends.step world label = some after ∧
    sends.work k (after.phase k) < sends.work k (world.phase k) ∧
    (after.writer = none ∨ after.writer = some k)

theorem Advances.intro (label : Label) (tables : Tables) {writer : Option Nat} {phase : Phase}
    (taken : sends.step world label =
      some ⟨tables, writer, Function.update world.phase k phase⟩)
    (less : sends.work k phase < sends.work k (world.phase k))
    (lock : writer = none ∨ writer = some k) : sends.Advances world k := by
  refine ⟨label, _, taken, ?_, lock⟩
  dsimp only
  rw [Function.update_self]
  exact less

/-- A SELECT that takes the request to `phase`. -/
theorem Advances.read {current phase : Phase} (here : world.phase k = current)
    (lock : world.writer = none ∨ world.writer = some k)
    (taken : sends.next world k =
      some { world with phase := Function.update world.phase k phase })
    (less : sends.work k phase < sends.work k current) : sends.Advances world k :=
  .intro (.next k) world.tables taken (here ▸ less) lock

theorem advances_admitted (here : world.phase k = .admitted)
    (lock : world.writer = none ∨ world.writer = some k) : sends.Advances world k := by
  by_cases absent : parentCandidate (sends.req k) = ""
  · refine .read here lock (by simp only [Sends.next, here, if_pos absent]; rfl) ?_
    simp only [work]
    omega
  · cases found : isMessage world.tables.messages (parentCandidate (sends.req k)) with
    | true =>
        refine .read here lock
          (by simp only [Sends.next, here, if_neg absent, found, if_true]; rfl) ?_
        simp only [work]
        omega
    | false =>
        refine .read here lock (by simp only [Sends.next, here, if_neg absent, found]; rfl) ?_
        simp only [work]
        omega

theorem advances_checking {parent : Option String} {recipients rest unresolved : List String}
    (here : world.phase k = .checking parent recipients rest unresolved)
    (lock : world.writer = none ∨ world.writer = some k) : sends.Advances world k := by
  cases rest with
  | nil =>
      by_cases none : unresolved = []
      · refine .read here lock (by simp only [Sends.next, here, if_pos none]; rfl) ?_
        simp only [work]
        omega
      · refine .read here lock (by simp only [Sends.next, here, if_neg none]; rfl) ?_
        simp only [work]
        omega
  | cons recipient rest =>
      by_cases found : (isInbox sends.agents recipient ||
          provenMachine world.tables.messages recipient) = true
      · refine .read here lock (by simp only [Sends.next, here, if_pos found]; rfl) ?_
        simp only [work, List.length_cons]
        omega
      · refine .read here lock (by simp only [Sends.next, here, if_neg found]; rfl) ?_
        simp only [work, List.length_cons]
        omega

theorem advances_checkingOrigin {parent : Option String} {recipient : String}
    {recipients rest unresolved : List String}
    (here : world.phase k = .checkingOrigin parent recipients recipient rest unresolved)
    (lock : world.writer = none ∨ world.writer = some k) : sends.Advances world k := by
  by_cases found : declaredOrigin world.tables.messages recipient = true
  · refine .read here lock (by simp only [Sends.next, here, if_pos found]; rfl) ?_
    simp only [work]
    omega
  · refine .read here lock (by simp only [Sends.next, here, if_neg found]; rfl) ?_
    simp only [work]
    omega

/-- A request that no other one keeps from writing can always go on. -/
theorem advances (sends : Sends) (world : World) (k : Nat)
    (unanswered : ∀ answer, world.phase k ≠ .answered answer)
    (lock : world.writer = none ∨ world.writer = some k) : sends.Advances world k := by
  cases current : world.phase k with
  | admitted => exact advances_admitted current lock
  | checking => exact advances_checking current lock
  | checkingOrigin => exact advances_checkingOrigin current lock
  | arrived =>
      refine .intro (.begin k true) world.tables (by simp only [Sends.step, current]; rfl) ?_ lock
      rw [current]
      exact Nat.lt_of_le_of_lt (sends.work_begin k true) (by simp only [work]; omega)
  | parentMissed =>
      refine .read current lock (by simp only [Sends.next, current]; rfl) ?_
      simp only [work]
      omega
  | threaded parent =>
      refine .read current lock (by simp only [Sends.next, current]; rfl) ?_
      simp only [work, recipients]
      omega
  | addressed parent recipients =>
      refine .read current lock (by simp only [Sends.next, current]; rfl) ?_
      exact sends.work_lookedUp k parent recipients _
  | launching parent recipients =>
      refine .intro (.launch k fun _ => true) world.tables (by simp only [Sends.step, current]; rfl)
        ?_ lock
      rw [current]
      simp only [work]
      omega
  | inserting parent recipients launchable index rest staged =>
      refine .intro (.next k) world.tables
        (by simp only [Sends.step, Sends.next, current, if_pos lock]; rfl) ?_ (Or.inr rfl)
      rw [current]
      exact sends.work_insertNext k _ parent recipients launchable index staged rest
  | lost parent =>
      refine .intro (.next k) world.tables (by simp only [Sends.step, Sends.next, current]; rfl) ?_
        (Or.inl rfl)
      rw [current]
      exact Nat.one_pos
  | creating recipients launchable staged =>
      refine .intro (.create k fun _ => none) world.tables (by simp only [Sends.step, current]; rfl)
        ?_ lock
      rw [current]
      exact Nat.one_lt_two
  | committing staged made =>
      refine .intro (.next k) _ (by simp only [Sends.step, Sends.next, current]; rfl) ?_
        (Or.inl rfl)
      rw [current]
      exact Nat.one_pos
  | answered answer => exact absurd current (unanswered answer)

/-- Left alone, a request that can write runs to its answer and lets go of the lock. -/
theorem finishes (sends : Sends) (world : World) (k : Nat) (inv : sends.Inv world)
    (lock : world.writer = none ∨ world.writer = some k) :
    ∃ later, Reaches sends.step anyStep world later ∧ sends.Inv later ∧
      (∃ answer, later.phase k = .answered answer) ∧ later.writer = none := by
  by_cases done : ∃ answer, world.phase k = .answered answer
  · refine ⟨world, .refl, inv, done, ?_⟩
    obtain ⟨answer, answered⟩ := done
    rcases lock with free | own
    · exact free
    · have holds := (inv.writer k).mpr own
      rw [answered] at holds
      cases holds
  · obtain ⟨label, after, taken, less, free⟩ := sends.advances world k (not_exists.mp done) lock
    obtain ⟨later, rest, result⟩ := finishes sends after k (inv.step taken) free
    exact ⟨later, Reaches.trans (.tail label .refl trivial taken) rest, result⟩
termination_by sends.work k (world.phase k)

/-- A request that waits for the lock gets it once its holder is through. -/
theorem answerable (sends : Sends) {world : World} (inv : sends.Inv world) (k : Nat) :
    ∃ later, Reaches sends.step anyStep world later ∧
      ∃ answer, later.phase k = .answered answer := by
  cases holder : world.writer with
  | none =>
      obtain ⟨later, reached, _, answered, _⟩ := sends.finishes world k inv (Or.inl holder)
      exact ⟨later, reached, answered⟩
  | some j =>
      -- The holder runs to its commit first, which frees the lock.
      obtain ⟨middle, first, kept, _, free⟩ := sends.finishes world j inv (Or.inr holder)
      obtain ⟨later, second, _, answered, _⟩ := sends.finishes middle k kept (Or.inl free)
      exact ⟨later, first.trans second, answered⟩

/-! ### One logical send -/

/-- Before the first commit nobody has been told of a stored message. -/
theorem refused_unstored {tables : Tables} (unstored : sends.Unstored tables) {answer : Answer}
    (ok : sends.AnswerOk tables k answer) : answer.refused = true := by
  cases answer with
  | stored => exact absurd unstored ok.2.changed
  | replayed =>
      obtain ⟨_, held, _⟩ := ok
      exact absurd unstored held.changed
  | outcomeUnknown => exact ok.elim
  | _ => rfl

/-- After it, the winner's fingerprint decides every answer. -/
theorem answer_stored {tables : Tables} {winner : Nat} (stored : sends.StoredBy tables winner)
    {answer : Answer} (ok : sends.AnswerOk tables k answer) :
    (sends.fingerprint k = sends.fingerprint winner → answer ≠ .notTheSender →
      answer.messageId = some (sends.mint winner)) ∧
    (sends.fingerprint k ≠ sends.fingerprint winner → answer.refused = true) := by
  have delivers (same : sends.fingerprint k = sends.fingerprint winner) : sends.Deliverable k :=
    stored.deliverable.congr (same_identity same.symm)
  cases answer with
  -- Two sends stored under one nonce are one send.
  | stored id =>
      obtain ⟨rfl, own⟩ := ok
      obtain ⟨same, minted⟩ := own.unique stored
      exact ⟨fun _ _ => congrArg some minted, fun differs => absurd same differs⟩
  | replayed id =>
      obtain ⟨other, held, same, rfl⟩ := ok
      obtain ⟨samePrint, minted⟩ := held.unique stored
      exact ⟨fun _ _ => congrArg some minted, fun differs => absurd (same.trans samePrint) differs⟩
  | nonceConflict text =>
      obtain ⟨other, held, differs⟩ := ok
      refine ⟨fun same => absurd ?_ differs, fun _ => rfl⟩
      exact same.trans (stored.unique held).1
  | outcomeUnknown => exact ok.elim
  | notTheSender => exact ⟨fun _ genuine => absurd rfl genuine, fun _ => rfl⟩
  -- A gate that refuses a request with the winner's identity refuses the winner.
  | badTargets | truncatedBody | noRecipients | unstartable =>
      exact ⟨fun same => absurd (delivers same) ok, fun _ => rfl⟩

theorem inv_reached {world : World}
    (run : Reaches sends.step anyStep sends.initial world) : sends.Inv world :=
  run.invariant sends.Inv (inv_initial sends) fun _ _ _ inv _ taken => inv.step taken

/-- The messages and runs stored since the start are those of `winner`, which
answers for every request that asked for the same. -/
structure OneSend (sends : Sends) (world : World) (winner : Nat) : Prop where
  answered : world.phase winner = .answered (.stored (sends.mint winner))
  messages : world.tables.messages = sends.tables.messages ++ sends.rows winner
  runs : ∃ made, world.tables.runs = sends.tables.runs ++ made ∧
    ∀ run ∈ made, sends.MadeBy winner run
  same : ∀ k answer, world.phase k = .answered answer → answer ≠ .notTheSender →
    sends.fingerprint k = sends.fingerprint winner →
    answer.messageId = some (sends.mint winner)
  different : ∀ k answer, world.phase k = .answered answer →
    sends.fingerprint k ≠ sends.fingerprint winner → answer.refused = true

end Sends

/-! ### A fan-out, its retries and another send, all at once -/

def reviewRequest : MessageSend :=
  ⟨"coder", none, some "reviewer", "request", "Review", "Please review", "normal", none, true, none,
    false, none, some "n-1", "", ""⟩

def otherRequest : MessageSend :=
  ⟨"coder", some "r1", some " ", "info", "Note", "Never mind", "", none, false, none, false, none,
    some " n-1 ", "", ""⟩

def raceRequests (k : Nat) : MessageSend := if k = 2 then otherRequest else reviewRequest

def raceDigest (asked : SendIdentity) : String :=
  if asked = identity (withTargets reviewRequest) then
    "5a948d4e8187f8a9b94a6c1a0c8617cf91a17daf1c41b48bdafe4d53aa11569e"
  else "e5912a1b5aba55afa0f0f81a903d21c62f9f5ff2e13b78d47f8d6ce6535a999a"

def raceSends : Sends where
  sender := "coder"
  nonce := "n-1"
  requests := raceRequests
  digest := raceDigest
  mint := fun k => if k = 0 then "1000-aaaa0000" else "1001-bbbb1111"
  now := fun k => 1000 + k
  agents := [⟨"r1", "reviewer"⟩, ⟨"coder", "coder"⟩, ⟨"r2", "reviewer"⟩]
  tables := ⟨[], []⟩
  nonce_given := by decide
  same_sender := by
    intro k
    rw [raceRequests]
    split <;> rfl
  same_nonce := by
    intro k
    rw [raceRequests]
    split <;> decide
  digest_nonempty := by
    intro asked
    rw [raceDigest]
    split <;> decide
  collision_free := by
    intro j k
    rw [raceRequests, raceRequests]
    split <;> split <;> decide
  mint_nonempty := by
    intro k
    split <;> decide
  mint_fresh := fun _ _ _ => rfl
  nonce_unused := fun _ known => (nomatch known)

/-- Requests 0 and 1 ask for the same fan-out and 2 for something else. All
three find the nonce free before 0 commits; 3 repeats 0 afterwards. -/
def raceRun : List Label :=
  [0, 1, 2].map (Label.begin · true) ++
    [0, 0, 0, 0, 0, 0, 1, 1, 1, 2, 2, 2, 1, 1, 1, 2, 2].map Label.next ++
    [Label.launch 0 fun _ => true, Label.launch 1 fun _ => true, Label.next 0, Label.next 0,
      Label.next 0, Label.create 0 fun recipient => if recipient = "r1" then some "run_1" else none,
      Label.next 0, Label.launch 2 fun _ => true, Label.next 1, Label.next 1, Label.next 1,
      Label.next 2, Label.next 2, Label.next 2, Label.begin 3 true, Label.next 3, Label.next 3,
      Label.next 3]

def answerOf (world : World) (k : Nat) : Option Answer :=
  match world.phase k with
  | .answered answer => some answer
  | _ => none

end AifyComms.SendNonce
