import AifyComms.HermesResume

/-!
The session a hermes launch prints, the marker and the active-session file after
`runResolveSessionCli`. Every exit of the command writes another part of the two files, and
the writers themselves pass over an empty or unusable id.
-/

namespace AifyComms.HermesSessionFiles
open JsText HermesResume

/-- The session the marker names to its reader. -/
def markerNames (launch : Launch) (files : Files) : String :=
  readSessionIdMarker files (trim launch.agentId)

/-- The session the active-session file names; without a path there is no file. -/
def activeNames (launch : Launch) (files : Files) : String :=
  if launch.activeSessionFile then files.active else ""

/-- A usable printed id is named by both files; after an empty one the active-session file
names no session, and under fresh context the marker does not either. -/
structure Agrees (launch : Launch) (result : Resolved) : Prop where
  usable : isUsableSessionId result.printed = true →
    markerNames launch result.files = result.printed ∧
      activeNames launch result.files = result.printed
  empty : result.printed = "" → activeNames launch result.files = ""
  fresh : launch.freshContext = true → result.printed = "" → markerNames launch result.files = ""

/-- The id the gateway's answers give for the id asked for. -/
def foundId (launch : Launch) (files : Files) : String :=
  let marker := candidate launch (storedId launch files)
  match launch.gateway with
  | .opened (some listResp) dbResp => (resolveRows listResp dbResp marker).1
  | _ => (queryFailed marker).1

/-- Where nothing is resumed, the active-session file named no session before; and where a
usable id is, the agent's name leaves a file name and the active-session file has a path. -/
structure Converges (launch : Launch) (files : Files) : Prop where
  nothing : launch.freshContext = true ∨ foundId launch files = "" → activeNames launch files = ""
  something : launch.freshContext = false → isUsableSessionId (foundId launch files) = true →
    sanitizeAgentId (trim launch.agentId) ≠ "" ∧ launch.activeSessionFile = true

section Writers
variable {launch : Launch} {files : Files}

theorem usable_ne_empty {id : String} (usable : isUsableSessionId id = true) : id ≠ "" := by
  rintro rfl
  revert usable
  decide

theorem seedActive_empty (launch : Launch) (files : Files) : seedActive launch files "" = files := by
  have blank : trim "" = "" := by decide
  unfold seedActive writeActiveSessionFile
  simp [blank]

theorem activeNames_seedActive (launch : Launch) (files : Files) {id : String}
    (trimmed : trim id = id) (some' : id ≠ "") :
    activeNames launch (seedActive launch files id) =
      if launch.activeSessionFile then id else "" := by
  unfold activeNames seedActive writeActiveSessionFile
  cases launch.activeSessionFile <;> simp [trimmed, some']

theorem readSessionIdMarker_write (files : Files) {agentId id : String} (trimmed : trim id = id)
    (named : sanitizeAgentId agentId ≠ "") (usable : isUsableSessionId id = true) :
    readSessionIdMarker (writeSessionIdMarker files agentId id) agentId = id := by
  simp [writeSessionIdMarker, readSessionIdMarker, named, trimmed, usable]

theorem readSessionIdMarker_unnamed (files : Files) {agentId : String}
    (unnamed : sanitizeAgentId agentId = "") : readSessionIdMarker files agentId = "" := by
  simp [readSessionIdMarker, unnamed]

theorem markerNames_seedActive (launch : Launch) (files : Files) (id : String) :
    markerNames launch (seedActive launch files id) = markerNames launch files := by
  simp only [markerNames, readSessionIdMarker, seedActive_marker]

theorem trim_rowResumeKey (row : Row) : trim (rowResumeKey row) = rowResumeKey row :=
  trim_trim _

theorem trim_resolveRows (listResp : Reply) (dbResp : Option Reply) (marker : String) :
    trim (resolveRows listResp dbResp marker).1 = (resolveRows listResp dbResp marker).1 := by
  simp only [resolveRows]
  split
  · exact trim_rowResumeKey _
  · split
    · decide
    · cases pickMostRecentSessionRow listResp with
      | none => exact (by decide : trim "" = "")
      | some row => exact trim_rowResumeKey row

theorem trim_foundId : trim (foundId launch files) = foundId launch files := by
  have asked : trim (queryFailed (candidate launch (storedId launch files))).1 =
      (queryFailed (candidate launch (storedId launch files))).1 := by
    unfold queryFailed
    split
    · decide
    · exact trim_candidate
  unfold foundId
  dsimp only
  split
  · exact trim_resolveRows _ _ _
  · exact asked

theorem activeNames_clear (launch : Launch) (files : Files) (agentId : String) :
    activeNames launch (clearSessionMarker files agentId) = activeNames launch files := by
  unfold clearSessionMarker
  split <;> rfl

theorem markerNames_clear (launch : Launch) (files : Files) :
    markerNames launch (clearSessionMarker files (trim launch.agentId)) = "" := by
  unfold markerNames
  by_cases named : sanitizeAgentId (trim launch.agentId) = ""
  · exact readSessionIdMarker_unnamed _ named
  · simp [readSessionIdMarker, clearSessionMarker, named]

end Writers

section Exits
variable {launch : Launch} {files : Files}

/-- A run that consults the gateway ends in `conclude` with the id found. -/
theorem run_consulted (kept : launch.freshContext = false) (named : trim launch.agentId ≠ "")
    (consulted : launch.gateway ≠ .absent) :
    ∃ dbConsulted source, runResolveSessionCli launch files =
      some (conclude launch (trim launch.agentId) (candidate launch (storedId launch files))
        (storedId launch files) dbConsulted files (foundId launch files, source)) := by
  have stored : trim (readSessionIdMarker files (trim launch.agentId)) = storedId launch files :=
    trim_storedId
  cases gateway : launch.gateway with
  | absent => exact absurd gateway consulted
  | unreachable =>
      refine ⟨false, (queryFailed (candidate launch (storedId launch files))).2, ?_⟩
      simp only [runResolveSessionCli, named, if_false, kept, Bool.false_eq_true, gateway, stored,
        foundId]
  | opened activeList dbResp =>
      cases activeList with
      | none =>
          refine ⟨false, (queryFailed (candidate launch (storedId launch files))).2, ?_⟩
          simp only [runResolveSessionCli, named, if_false, kept, Bool.false_eq_true, gateway,
            stored, foundId]
      | some listResp =>
          refine ⟨dbResp.isSome,
            (resolveRows listResp dbResp (candidate launch (storedId launch files))).2, ?_⟩
          rw [run_opened kept named gateway]
          simp only [foundId, gateway]

/-- With nothing to resume, the active-session file is left as it was. -/
theorem conclude_nothing (launch : Launch) (files : Files) (agentId marker fileMarker : String) (dbConsulted : Bool)
    (source : Source) :
    (conclude launch agentId marker fileMarker dbConsulted files ("", source)).printed = "" ∧
      activeNames launch
          (conclude launch agentId marker fileMarker dbConsulted files ("", source)).files =
        activeNames launch files := by
  by_cases clears : (source ≠ .markerQueryFailed && marker ≠ "" && dbConsulted) = true
  · simp only [conclude, ne_eq, not_true_eq_false, if_false, clears, if_true, true_and]
    exact activeNames_clear launch files agentId
  · simp only [conclude, ne_eq, not_true_eq_false, if_false, clears, Bool.false_eq_true, and_self]

/-- With an id found, it is printed, the active-session file names it where it has a path, and
the marker names it where it is usable and the agent's name leaves a file name. -/
theorem conclude_something (launch : Launch) (files : Files) {id : String}
    (trimmed : trim id = id) (some' : id ≠ "") (marker : String) (dbConsulted : Bool) (source : Source) :
    let result := conclude launch (trim launch.agentId) marker (storedId launch files) dbConsulted
      files (id, source)
    result.printed = id ∧
      activeNames launch result.files = (if launch.activeSessionFile then id else "") ∧
      (isUsableSessionId id = true → markerNames launch result.files =
        (if sanitizeAgentId (trim launch.agentId) = "" then "" else id)) := by
  simp only [conclude, some', ne_eq, not_false_eq_true, if_true, true_and]
  constructor
  · exact activeNames_seedActive launch _ trimmed some'
  · intro usable
    rw [markerNames_seedActive]
    by_cases unnamed : sanitizeAgentId (trim launch.agentId) = ""
    · rw [if_pos unnamed]
      exact readSessionIdMarker_unnamed _ unnamed
    · rw [if_neg unnamed]
      by_cases same : id = storedId launch files
      · simp only [same, not_true_eq_false, if_false]
        rfl
      · simp only [same, not_false_eq_true, if_true]
        exact readSessionIdMarker_write files trimmed unnamed usable

theorem run_fresh (fresh : launch.freshContext = true) {result : Resolved}
    (ran : runResolveSessionCli launch files = some result) :
    result.printed = "" ∧ result.files = clearSessionMarker files (trim launch.agentId) := by
  by_cases unnamed : trim launch.agentId = ""
  · simp [runResolveSessionCli, unnamed] at ran
  · simp only [runResolveSessionCli, unnamed, if_false, fresh, if_true, seedActive_empty] at ran
    obtain rfl := Option.some.inj ran
    simp only [and_self]

/-- The exit that resumes nothing agrees when the active-session file named nothing. -/
theorem agrees_of_nothing {result : Resolved} (printed : result.printed = "")
    (unchanged : activeNames launch result.files = activeNames launch files)
    (forgotten : launch.freshContext = true → markerNames launch result.files = "") :
    Agrees launch result ↔ activeNames launch files = "" := by
  constructor
  · intro agrees
    rw [← unchanged]
    exact agrees.empty printed
  · intro named
    constructor
    · intro usable
      exact absurd printed (usable_ne_empty usable)
    · intro _
      rw [unchanged]
      exact named
    · intro fresh _
      exact forgotten fresh

/-- The exit that resumes an id agrees when both files can name it. -/
theorem agrees_of_something {result : Resolved} {id : String} (printed : result.printed = id)
    (some' : id ≠ "")
    (active : activeNames launch result.files = if launch.activeSessionFile then id else "")
    (marker : isUsableSessionId id = true → markerNames launch result.files =
      if sanitizeAgentId (trim launch.agentId) = "" then "" else id) :
    Agrees launch result ↔ (isUsableSessionId id = true →
      sanitizeAgentId (trim launch.agentId) ≠ "" ∧ launch.activeSessionFile = true) := by
  subst printed
  constructor
  · intro agrees usable
    obtain ⟨marked, activated⟩ := agrees.usable usable
    rw [marker usable] at marked
    rw [active] at activated
    constructor
    · intro unnamed
      rw [if_pos unnamed] at marked
      exact some' marked.symm
    · cases path : launch.activeSessionFile with
      | true => rfl
      | false =>
          rw [path, if_neg Bool.false_ne_true] at activated
          exact absurd activated.symm some'
  · intro able
    constructor
    · intro usable
      obtain ⟨named, path⟩ := able usable
      rw [marker usable, active, if_neg named, if_pos path]
      exact ⟨rfl, rfl⟩
    · intro empty
      exact absurd empty some'
    · intro _ empty
      exact absurd empty some'

end Exits

/-- After a run that consulted a gateway or was asked for fresh context, launch, marker and
active-session file agree exactly under `Converges`. -/
theorem files_agree_iff (launch : Launch) (files : Files) (result : Resolved)
    (ran : runResolveSessionCli launch files = some result)
    (consulted : launch.freshContext = true ∨ launch.gateway ≠ .absent) :
    Agrees launch result ↔ Converges launch files := by
  cases fresh : launch.freshContext with
  | true =>
      obtain ⟨printed, after⟩ := run_fresh fresh ran
      have unchanged : activeNames launch result.files = activeNames launch files := by
        rw [after, activeNames_clear]
      have forgotten : markerNames launch result.files = "" := by
        rw [after, markerNames_clear]
      rw [agrees_of_nothing printed unchanged fun _ => forgotten]
      constructor
      · intro none'
        exact ⟨fun _ => none', fun kept => by rw [fresh] at kept; cases kept⟩
      · intro converges
        exact converges.nothing (.inl fresh)
  | false =>
      have named : trim launch.agentId ≠ "" := by
        intro unnamed
        simp [runResolveSessionCli, unnamed] at ran
      have reached : launch.gateway ≠ .absent := by
        rcases consulted with asked | reached
        · rw [fresh] at asked
          cases asked
        · exact reached
      obtain ⟨dbConsulted, source, ends⟩ := run_consulted fresh named reached
      obtain rfl := Option.some.inj (ends.symm.trans ran)
      by_cases nothing : foundId launch files = ""
      · rw [nothing] at ran ⊢
        obtain ⟨printed, unchanged⟩ := conclude_nothing launch files (trim launch.agentId)
          (candidate launch (storedId launch files)) (storedId launch files) dbConsulted source
        rw [agrees_of_nothing printed unchanged fun asked => by rw [fresh] at asked; cases asked]
        constructor
        · intro none'
          refine ⟨fun _ => none', fun _ usable => ?_⟩
          exact absurd nothing (usable_ne_empty usable)
        · intro converges
          exact converges.nothing (.inr nothing)
      · obtain ⟨printed, active, marker⟩ := conclude_something launch files
          trim_foundId nothing (candidate launch (storedId launch files)) dbConsulted source
        rw [agrees_of_something printed nothing active marker]
        constructor
        · intro able
          refine ⟨fun gone => ?_, fun _ => able⟩
          rcases gone with asked | empty
          · rw [fresh] at asked
            cases asked
          · exact absurd empty nothing
        · intro converges
          exact converges.something fresh

/-- The resumed session is the one both files name. -/
theorem restarted_files_agree :
    Agrees (resumeOf "") ⟨"20260604_050351", .markerDbResumable,
      ⟨some "20260604_050351", "20260604_050351"⟩⟩ :=
  (files_agree_iff (resumeOf "") savedMarker _ (by rfl) (.inr (by simp [resumeOf, restarted]))).mpr
    ⟨fun gone => by revert gone; decide, fun _ _ => by decide⟩

/-- A launch asked for fresh context, over the files of the old conversation. -/
def freshLaunch : Launch := ⟨"hermes-dev", "", true, .absent, true⟩

def oldConversation : Files := ⟨some "20260604_050351", "20260604_050351"⟩

/-- Fresh context prints no id and clears the marker, and the active-session file still names
the old conversation. -/
theorem fresh_launch_keeps_active :
    runResolveSessionCli freshLaunch oldConversation =
        some ⟨"", .freshContext, ⟨none, "20260604_050351"⟩⟩ ∧
      ¬ Agrees freshLaunch ⟨"", .freshContext, ⟨none, "20260604_050351"⟩⟩ := by
  constructor
  · rfl
  · intro agrees
    have named := agrees.empty rfl
    revert named
    decide

end AifyComms.HermesSessionFiles
