import AifyComms.JsText

/-!
Which session a hermes agent resumes: `runResolveSessionCli` of `hermes-active-session.mjs`,
with the session marker of `hermes-endpoint.js` and the row pickers of
`hermes-gateway-protocol.js`.

The marker is the raw content of its file. The active-session file is given by the session it
names to its one reader, `""` for none. A field of a row that is missing or falsy is `""`, and
`stamp` is what the row's dates parse to.
-/

namespace AifyComms.HermesResume
open JsText

/-! ### The marker -/

def isSafeChar (c : Char) : Bool := c.isAlphanum || c == '_' || c == '-'

/-- `replace(/[^a-zA-Z0-9_-]+/g, "-")`; the flag says that a run has begun. -/
def foldUnsafe : Bool → List Char → List Char
  | _, [] => []
  | inRun, c :: rest =>
      if isSafeChar c then c :: foldUnsafe false rest
      else if inRun then foldUnsafe true rest
      else '-' :: foldUnsafe true rest

def sanitizeAgentId (agentId : String) : String :=
  let folded := (foldUnsafe false agentId.toList).dropWhile (· == '-')
  String.ofList (folded.reverse.dropWhile (· == '-')).reverse

def isUsableSessionId (value : String) : Bool :=
  trim value ≠ "" && (trim value).toList.all isSafeChar

structure Files where
  marker : Option String
  active : String

def writeSessionIdMarker (files : Files) (agentId sessionId : String) : Files :=
  if sanitizeAgentId agentId = "" || !isUsableSessionId (trim sessionId) then files
  else { files with marker := some (trim sessionId) }

def readSessionIdMarker (files : Files) (agentId : String) : String :=
  if sanitizeAgentId agentId = "" then ""
  else match files.marker with
    | none => ""
    | some raw => if isUsableSessionId (trim raw) then trim raw else ""

def clearSessionMarker (files : Files) (agentId : String) : Files :=
  if sanitizeAgentId agentId = "" then files else { files with marker := none }

/-- `defaultWriteActiveSessionFile`: an empty id writes nothing. -/
def writeActiveSessionFile (files : Files) (sessionId : String) : Files :=
  if trim sessionId = "" then files else { files with active := trim sessionId }

/-! ### The gateway's lists -/

structure Row where
  id : String
  session_id : String
  sessionId : String
  session_key : String
  sessionKey : String
  stamp : Int
  deriving DecidableEq

def rowRealId (row : Row) : String := trim (firstTruthy [row.id, row.session_id, row.sessionId])

def rowDurableKey (row : Row) : String := trim (firstTruthy [row.session_key, row.sessionKey])

def rowResumeKey (row : Row) : String :=
  trim (firstTruthy [row.session_key, row.sessionKey, rowRealId row])

/-- An answer of the gateway: the places where it may hold an array of rows. -/
structure Reply where
  bare : Option (List Row)
  resultSessions : Option (List Row)
  sessions : Option (List Row)
  result : Option (List Row)

def activeListRowsOrNull (reply : Reply) : Option (List Row) :=
  ((reply.bare.or reply.resultSessions).or reply.sessions).or reply.result

def activeListRows (reply : Reply) : List Row := (activeListRowsOrNull reply).getD []

def pickSessionRowById (reply : Reply) (realId : String) : Option Row :=
  let wanted := trim realId
  let rows := activeListRows reply
  if wanted = "" then none
  else (rows.find? fun row => rowRealId row = wanted).or
    (rows.find? fun row => rowDurableKey row = wanted)

/-- The loop over the rows: `best` is the freshest row with an id so far. -/
def freshest (best : Option Row) : List Row → Option Row
  | [] => best
  | row :: rest =>
      if rowRealId row = "" then freshest best rest
      else match best with
        | none => freshest (some row) rest
        | some held => freshest (some (if held.stamp < row.stamp then row else held)) rest

def pickMostRecentSessionRow (reply : Reply) : Option Row := freshest none (activeListRows reply)

/-! ### The resolution -/

/-- The gateway: no URL, no connection, or what its two queries came back with. -/
inductive Gateway where
  | absent
  | unreachable
  | opened (activeList sessionList : Option Reply)

inductive Source where
  | freshContext
  | explicitResume
  | markerNoGateway
  | markerDbResumable
  | markerLive
  | activeListMostRecent
  | markerQueryFailed
  | none
  deriving DecidableEq

structure Launch where
  agentId : String
  explicitId : String
  freshContext : Bool
  gateway : Gateway
  /-- A path of the active-session file is set. -/
  activeSessionFile : Bool

structure Resolved where
  printed : String
  source : Source
  files : Files

/-- The `try` once both queries are answered, the second perhaps with an error. -/
def resolveRows (listResp : Reply) (dbResp : Option Reply) (marker : String) : String × Source :=
  let markerDbRow := if marker = "" then none else dbResp.bind (pickSessionRowById · marker)
  let markerLiveRow := if marker = "" then none else pickSessionRowById listResp marker
  let markerRow := markerDbRow.or markerLiveRow
  match markerRow with
  | some row =>
      (rowResumeKey row, if markerDbRow.isSome then .markerDbResumable else .markerLive)
  | none =>
      let recentKey := ((pickMostRecentSessionRow listResp).map rowResumeKey).getD ""
      if recentKey = "" then ("", .none) else (recentKey, .activeListMostRecent)

def queryFailed (marker : String) : String × Source :=
  if marker = "" then ("", .none) else (marker, .markerQueryFailed)

section
variable (launch : Launch)

def seedActive (files : Files) (sessionId : String) : Files :=
  if launch.activeSessionFile then writeActiveSessionFile files sessionId else files

/-- What follows the queries: the files are made to agree, or the dead marker is cleared. -/
def conclude (agentId marker fileMarker : String) (dbConsulted : Bool) (files : Files)
    (found : String × Source) : Resolved :=
  if found.1 ≠ "" then
    let files :=
      if found.1 ≠ fileMarker then writeSessionIdMarker files agentId found.1 else files
    ⟨found.1, found.2, seedActive launch files found.1⟩
  else if found.2 ≠ .markerQueryFailed && marker ≠ "" && dbConsulted then
    ⟨"", found.2, clearSessionMarker files agentId⟩
  else ⟨"", found.2, files⟩

def explicitUsable : Bool := trim launch.explicitId ≠ "" && isUsableSessionId (trim launch.explicitId)

/-- The id to resolve: an explicit one wins over the marker. -/
def candidate (fileMarker : String) : String :=
  if explicitUsable launch then trim launch.explicitId else fileMarker

/-- `none` when there is no agent id. -/
def runResolveSessionCli (files : Files) : Option Resolved :=
  let agentId := trim launch.agentId
  if agentId = "" then none
  else if launch.freshContext then
    some ⟨"", .freshContext, seedActive launch (clearSessionMarker files agentId) ""⟩
  else
    let fileMarker := trim (readSessionIdMarker files agentId)
    let marker := candidate launch fileMarker
    match launch.gateway with
    | .absent =>
        if explicitUsable launch then
          let explicit := trim launch.explicitId
          some ⟨explicit, .explicitResume,
            seedActive launch (writeSessionIdMarker files agentId explicit) explicit⟩
        else some ⟨marker, if marker = "" then .none else .markerNoGateway, files⟩
    | .unreachable =>
        some (conclude launch agentId marker fileMarker false files (queryFailed marker))
    | .opened none _ =>
        some (conclude launch agentId marker fileMarker false files (queryFailed marker))
    | .opened (some listResp) dbResp =>
        some (conclude launch agentId marker fileMarker dbResp.isSome files
          (resolveRows listResp dbResp marker))

end

/-! ### When a marker is cleared -/

/-- The session is in the list, by its live id or its durable key. -/
def Listed (reply : Reply) (id : String) : Prop :=
  ∃ row ∈ activeListRows reply, rowRealId row = id ∨ rowDurableKey row = id

/-- The id stored in the marker file, `""` for none that is usable. -/
def storedId (launch : Launch) (files : Files) : String :=
  readSessionIdMarker files (trim launch.agentId)

/-- The marker file goes only if the session list was read and holds no session of the id
stored in it. -/
def KeepsResumable (launch : Launch) (files : Files) : Prop :=
  ∀ result, runResolveSessionCli launch files = some result →
    files.marker ≠ none → result.files.marker = none →
    ∃ activeList sessionList, launch.gateway = .opened activeList (some sessionList) ∧
      activeListRowsOrNull sessionList ≠ none ∧
      (storedId launch files ≠ "" → ¬ Listed sessionList (storedId launch files))

/-- The key the live list gives: that of the candidate's session, else of the freshest. -/
def liveKey (listResp : Reply) (marker : String) : String :=
  (((pickSessionRowById listResp marker).or (pickMostRecentSessionRow listResp)).map
    rowResumeKey).getD ""

/-- A marker file that may be cleared: both queries were answered, and there is an id to
resolve. -/
structure AtRisk (launch : Launch) (files : Files) (listResp sessionList : Reply) : Prop where
  present : files.marker ≠ none
  named : sanitizeAgentId (trim launch.agentId) ≠ ""
  answered : launch.gateway = .opened (some listResp) (some sessionList)
  sought : candidate launch (storedId launch files) ≠ ""

/-- The answer to the session list is in no known envelope, and nothing live gives a key. -/
def Unread (launch : Launch) (files : Files) (listResp sessionList : Reply) : Prop :=
  activeListRowsOrNull sessionList = none ∧
    liveKey listResp (candidate launch (storedId launch files)) = ""

/-- The stored session is listed, but another one was asked for, which is not; and nothing
live gives a key. -/
def Displaced (launch : Launch) (files : Files) (listResp sessionList : Reply) : Prop :=
  storedId launch files ≠ "" ∧ Listed sessionList (storedId launch files) ∧
    ¬ Listed sessionList (candidate launch (storedId launch files)) ∧
    liveKey listResp (candidate launch (storedId launch files)) = ""

/-- The stored session is listed, and the row found for the one asked for has a blank durable
key. -/
def Blank (launch : Launch) (files : Files) (sessionList : Reply) : Prop :=
  storedId launch files ≠ "" ∧ Listed sessionList (storedId launch files) ∧
    ∃ row, pickSessionRowById sessionList (candidate launch (storedId launch files)) = some row ∧
      rowResumeKey row = ""

section Clearing
variable {launch : Launch} {files : Files}

theorem trim_storedId : trim (storedId launch files) = storedId launch files := by
  unfold storedId readSessionIdMarker
  split
  · decide
  · cases files.marker with
    | none => decide
    | some raw =>
        dsimp only
        split
        · exact trim_trim raw
        · decide

theorem trim_candidate :
    trim (candidate launch (storedId launch files)) = candidate launch (storedId launch files) := by
  unfold candidate
  split
  · exact trim_trim _
  · exact trim_storedId

theorem pickSessionRowById_eq_none_iff (reply : Reply) {id : String} (trimmed : trim id = id)
    (sought : id ≠ "") : pickSessionRowById reply id = none ↔ ¬ Listed reply id := by
  simp only [pickSessionRowById, trimmed, sought, if_false, Option.or_eq_none_iff,
    List.find?_eq_none, decide_eq_true_eq, Listed, not_exists, not_and, not_or]
  exact ⟨fun neither row member => ⟨neither.1 row member, neither.2 row member⟩,
    fun neither => ⟨fun row member => (neither row member).1,
      fun row member => (neither row member).2⟩⟩

/-- The key the two lists give for an id. -/
def gatewayKey (listResp sessionList : Reply) (marker : String) : String :=
  ((pickSessionRowById sessionList marker).map rowResumeKey).getD (liveKey listResp marker)

theorem gatewayKey_of_none {sessionList : Reply} {marker : String}
    (missing : pickSessionRowById sessionList marker = none) (listResp : Reply) :
    gatewayKey listResp sessionList marker = liveKey listResp marker := by
  simp [gatewayKey, missing]

theorem gatewayKey_of_some {sessionList : Reply} {marker : String} {row : Row}
    (found : pickSessionRowById sessionList marker = some row) (listResp : Reply) :
    gatewayKey listResp sessionList marker = rowResumeKey row := by
  simp [gatewayKey, found]

theorem resolveRows_key (listResp sessionList : Reply) {marker : String} (sought : marker ≠ "") :
    (resolveRows listResp (some sessionList) marker).1 = gatewayKey listResp sessionList marker := by
  simp only [resolveRows, sought, if_false, Option.bind_some, gatewayKey, liveKey]
  cases pickSessionRowById sessionList marker with
  | some row => simp
  | none =>
      cases pickSessionRowById listResp marker with
      | some row => simp
      | none =>
          cases pickMostRecentSessionRow listResp with
          | none => simp
          | some row =>
              by_cases blank : rowResumeKey row = "" <;> simp [blank]

theorem clearSessionMarker_marker (files : Files) {agentId : String}
    (named : sanitizeAgentId agentId ≠ "") : (clearSessionMarker files agentId).marker = none := by
  simp [clearSessionMarker, named]

theorem writeSessionIdMarker_present {files : Files} (present : files.marker ≠ none)
    (agentId sessionId : String) : (writeSessionIdMarker files agentId sessionId).marker ≠ none := by
  unfold writeSessionIdMarker
  split
  · exact present
  · simp

theorem seedActive_marker (launch : Launch) (files : Files) (sessionId : String) :
    (seedActive launch files sessionId).marker = files.marker := by
  unfold seedActive writeActiveSessionFile
  split
  · split <;> rfl
  · rfl

/-- A marker file that is there is gone after `conclude` only when nothing was resolved, the
session list was answered and there was an id to resolve. -/
theorem conclude_cleared_iff (present : files.marker ≠ none) (agentId marker fileMarker : String)
    (dbConsulted : Bool) (found : String × Source) :
    (conclude launch agentId marker fileMarker dbConsulted files found).files.marker = none ↔
      sanitizeAgentId agentId ≠ "" ∧ found.1 = "" ∧ found.2 ≠ .markerQueryFailed ∧
        marker ≠ "" ∧ dbConsulted = true := by
  by_cases resolved : found.1 = ""
  · by_cases clears : (found.2 ≠ .markerQueryFailed && marker ≠ "" && dbConsulted) = true
    · have guards := clears
      simp only [ne_eq, Bool.and_eq_true, decide_eq_true_eq] at guards
      simp only [conclude, resolved, ne_eq, not_true_eq_false, if_false, clears, if_true,
        clearSessionMarker]
      split <;> simp_all
    · have guards := clears
      simp only [ne_eq, Bool.and_eq_true, decide_eq_true_eq, not_and] at guards
      simp only [conclude, resolved, ne_eq, not_true_eq_false, if_false, clears,
        Bool.false_eq_true, present, false_iff]
      rintro ⟨-, -, query, sought, consulted⟩
      exact guards ⟨query, sought⟩ consulted
  · simp only [conclude, resolved, ne_eq, not_false_eq_true, if_true, seedActive_marker, false_and,
      and_false, iff_false]
    split
    · exact writeSessionIdMarker_present present _ _
    · exact present

theorem resolveRows_source (listResp : Reply) (dbResp : Option Reply) (marker : String) :
    (resolveRows listResp dbResp marker).2 ≠ .markerQueryFailed := by
  simp only [resolveRows]
  split
  · by_cases inDb : (if marker = "" then none else
        dbResp.bind (pickSessionRowById · marker)).isSome = true <;> simp [inDb]
  · split <;> simp

/-- What a run without fresh context does once the live list is answered. -/
theorem run_opened (kept : launch.freshContext = false) (named : trim launch.agentId ≠ "")
    {listResp : Reply} {dbResp : Option Reply}
    (answered : launch.gateway = .opened (some listResp) dbResp) :
    runResolveSessionCli launch files =
      some (conclude launch (trim launch.agentId) (candidate launch (storedId launch files))
        (storedId launch files) dbResp.isSome files
        (resolveRows listResp dbResp (candidate launch (storedId launch files)))) := by
  have stored : trim (readSessionIdMarker files (trim launch.agentId)) = storedId launch files :=
    trim_storedId
  simp only [runResolveSessionCli, named, if_false, kept, Bool.false_eq_true, answered, stored]

theorem named_of_sanitized {agentId : String} (named : sanitizeAgentId agentId ≠ "") :
    agentId ≠ "" := by
  rintro rfl
  exact named (by decide)

/-- With both queries answered, a marker file that is there goes exactly when the gateway
gives no key for the id to resolve. -/
theorem cleared_iff_of_answered {listResp sessionList : Reply}
    (risk : AtRisk launch files listResp sessionList) (kept : launch.freshContext = false) :
    ∃ result, runResolveSessionCli launch files = some result ∧
      (result.files.marker = none ↔
        gatewayKey listResp sessionList (candidate launch (storedId launch files)) = "") := by
  refine ⟨_, run_opened kept (named_of_sanitized risk.named) risk.answered, ?_⟩
  rw [conclude_cleared_iff risk.present, resolveRows_key _ _ risk.sought]
  simp [risk.named, risk.sought, resolveRows_source]

/-- A marker file that is there goes only when both queries were answered. -/
theorem atRisk_of_cleared (kept : launch.freshContext = false) {result : Resolved}
    (ran : runResolveSessionCli launch files = some result) (present : files.marker ≠ none)
    (gone : result.files.marker = none) :
    ∃ listResp sessionList, AtRisk launch files listResp sessionList := by
  have stored : trim (readSessionIdMarker files (trim launch.agentId)) = storedId launch files :=
    trim_storedId
  by_cases unnamed : trim launch.agentId = ""
  · simp [runResolveSessionCli, unnamed] at ran
  · cases gateway : launch.gateway with
    | absent =>
        simp only [runResolveSessionCli, unnamed, if_false, kept, Bool.false_eq_true,
          gateway] at ran
        split at ran
        · obtain rfl := Option.some.inj ran
          rw [seedActive_marker] at gone
          exact absurd gone (writeSessionIdMarker_present present _ _)
        · obtain rfl := Option.some.inj ran
          exact absurd gone present
    | unreachable =>
        simp only [runResolveSessionCli, unnamed, if_false, kept, Bool.false_eq_true,
          gateway] at ran
        obtain rfl := Option.some.inj ran
        simp [conclude_cleared_iff present] at gone
    | opened activeList dbResp =>
        cases activeList with
        | none =>
            simp only [runResolveSessionCli, unnamed, if_false, kept, Bool.false_eq_true,
              gateway] at ran
            obtain rfl := Option.some.inj ran
            simp [conclude_cleared_iff present] at gone
        | some listResp =>
            rw [run_opened kept unnamed gateway] at ran
            obtain rfl := Option.some.inj ran
            obtain ⟨named, -, -, sought, consulted⟩ := (conclude_cleared_iff present _ _ _ _ _).mp gone
            obtain ⟨sessionList, rfl⟩ := Option.isSome_iff_exists.mp consulted
            exact ⟨listResp, sessionList, present, named, gateway, sought⟩

theorem pick_eq_none_of_unread {sessionList : Reply}
    (unread : activeListRowsOrNull sessionList = none) (id : String) :
    pickSessionRowById sessionList id = none := by
  simp [pickSessionRowById, activeListRows, unread]

end Clearing

/-- Without fresh context, no resumable session is forgotten exactly when the session list was
never misread, the stored session never displaced and no durable key blank. -/
theorem resumable_kept_iff (launch : Launch) (files : Files) (kept : launch.freshContext = false) :
    KeepsResumable launch files ↔
      ∀ listResp sessionList, AtRisk launch files listResp sessionList →
        ¬ Unread launch files listResp sessionList ∧
        ¬ Displaced launch files listResp sessionList ∧
        ¬ Blank launch files sessionList := by
  constructor
  · intro keeps listResp sessionList risk
    obtain ⟨result, ran, cleared⟩ := cleared_iff_of_answered risk kept
    have lost : result.files.marker = none →
        activeListRowsOrNull sessionList ≠ none ∧
          (storedId launch files ≠ "" → ¬ Listed sessionList (storedId launch files)) := by
      intro gone
      obtain ⟨activeList, other, answered, read, absent⟩ := keeps result ran risk.present gone
      rw [risk.answered] at answered
      obtain ⟨-, same⟩ := Gateway.opened.inj answered
      obtain rfl := Option.some.inj same
      exact ⟨read, absent⟩
    refine ⟨?_, ?_, ?_⟩
    · rintro ⟨unread, noKey⟩
      have gone := cleared.mpr
        ((gatewayKey_of_none (pick_eq_none_of_unread unread _) listResp).trans noKey)
      exact (lost gone).1 unread
    · rintro ⟨stored, listed, notListed, noKey⟩
      have missing := (pickSessionRowById_eq_none_iff sessionList trim_candidate risk.sought).mpr
        notListed
      have gone := cleared.mpr ((gatewayKey_of_none missing listResp).trans noKey)
      exact (lost gone).2 stored listed
    · rintro ⟨stored, listed, row, found, noKey⟩
      have gone := cleared.mpr ((gatewayKey_of_some found listResp).trans noKey)
      exact (lost gone).2 stored listed
  · intro fine result ran present gone
    obtain ⟨listResp, sessionList, risk⟩ := atRisk_of_cleared kept ran present gone
    obtain ⟨read, inPlace, keyed⟩ := fine listResp sessionList risk
    obtain ⟨same, ranToo, cleared⟩ := cleared_iff_of_answered risk kept
    obtain rfl := Option.some.inj (ran.symm.trans ranToo)
    have noKey := cleared.mp gone
    refine ⟨some listResp, sessionList, risk.answered, ?_, ?_⟩
    · intro unread
      exact read ⟨unread,
        (gatewayKey_of_none (pick_eq_none_of_unread unread _) listResp).symm.trans noKey⟩
    · intro stored listed
      cases found : pickSessionRowById sessionList (candidate launch (storedId launch files)) with
      | some row =>
          exact keyed ⟨stored, listed, row, found,
            (gatewayKey_of_some found listResp).symm.trans noKey⟩
      | none =>
          have notListed := (pickSessionRowById_eq_none_iff sessionList trim_candidate
            risk.sought).mp found
          exact inPlace ⟨stored, listed, notListed,
            (gatewayKey_of_none found listResp).symm.trans noKey⟩

/-- A session as the gateway's database lists it. -/
def keptRow : Row := ⟨"8f21c0", "", "", "20260604_050351", "", 0⟩

def rowsReply (rows : List Row) : Reply := ⟨none, some rows, none, none⟩

/-- A gateway just restarted: nothing is live, and the database lists one session. -/
def restarted : Gateway := .opened (some (rowsReply [])) (some (rowsReply [keptRow]))

def savedMarker : Files := ⟨some "20260604_050351", ""⟩

def resumeOf (explicitId : String) : Launch := ⟨"hermes-dev", explicitId, false, restarted, true⟩

theorem saved_marker_kept : KeepsResumable (resumeOf "") savedMarker := by
  refine (resumable_kept_iff (resumeOf "") savedMarker rfl).mpr ?_
  intro listResp sessionList risk
  obtain ⟨first, second⟩ := Gateway.opened.inj risk.answered
  obtain rfl := Option.some.inj first
  obtain rfl := Option.some.inj second
  refine ⟨?_, ?_, ?_⟩
  · rintro ⟨unread, -⟩
    revert unread
    decide
  · rintro ⟨-, -, notListed, -⟩
    exact notListed ⟨keptRow, by decide, .inr (by decide)⟩
  · rintro ⟨-, -, row, found, blank⟩
    have same : pickSessionRowById (rowsReply [keptRow])
        (candidate (resumeOf "") (storedId (resumeOf "") savedMarker)) = some keptRow := by
      decide
    obtain rfl := Option.some.inj (same.symm.trans found)
    revert blank
    decide

/-- A launch that asks for a session the gateway has forgotten: the marker, whose session the
gateway still has, is cleared. -/
theorem displaced_marker_cleared : ¬ KeepsResumable (resumeOf "20260101_000000") savedMarker := by
  intro keeps
  obtain ⟨activeList, sessionList, answered, -, absent⟩ :=
    keeps ⟨"", .none, ⟨none, ""⟩⟩ (by rfl) (by decide) rfl
  obtain ⟨-, second⟩ := Gateway.opened.inj answered
  obtain rfl := Option.some.inj second
  exact absent (by decide) ⟨keptRow, by decide, .inr (by decide)⟩

end AifyComms.HermesResume
