import AifyComms.EnvironmentBeats

/-!
What a heartbeat leaves of the row it updates: `merge_with_stored` and
`_record_environment_registration` rebuild every field of it, by rules of their own for a value
that is absent, empty or advertised.
-/

namespace AifyComms.BeatFrames
open PyText HostProof EnvironmentBeats
open SpawnRequests (orElse)

/-! ### One key of the metadata -/

/-- The keys that `manual_roots` writes. -/
def manualKeys : List String := ["manualRoots", "manualRootsUpdatedAt", "manualRootsUpdatedBy"]

/-- What the beat itself says under a key. -/
def spoken (py : Stdlib) (beat : EnvironmentBeat) (key : String) : Option Value :=
  if declaresBridge beat then
    if key = "bridgeLastSeen" then some (.text (py.iso beat.now)) else beat.metadata.get? key
  else if isBridgeKey key then none else beat.metadata.get? key

/-- The keys under which a silent beat keeps what is stored. -/
def keptKeys (beat : EnvironmentBeat) (stored : Metadata) : List String :=
  "launchRoots" :: (if declaresBridge beat then [] else
    bridgeOwnedMetadata ++ stored.keys.filter isBridgeKey) ++
      (hostOwnedMetadata.filter fun owned => decide (owned.1 ∈ beat.omitted)).map Prod.snd

theorem keepStored_get (stored next : Metadata) (name key : String) :
    (keepStored stored next name).get? key =
      if key = name then (next.get? key).or (stored.get? key) else next.get? key := by
  by_cases same : key = name
  · rw [if_pos same, same, keepStored_self]
  · rw [if_neg same, keepStored_other (Ne.symm same)]

/-- Keys kept in two rounds are kept in one. -/
theorem keepStored_rounds (value stored : Option Value) (first second : Prop) [Decidable first]
    [Decidable second] :
    (if second then (if first then value.or stored else value).or stored
      else if first then value.or stored else value) =
      if first ∨ second then value.or stored else value := by
  by_cases one : first <;> by_cases two : second <;>
    simp [one, two, Option.or_assoc, Option.or_self]

theorem nextMetadata_get {py : Stdlib} {beat : EnvironmentBeat} {stored : Metadata} {key : String}
    (plain : key ≠ "advertisedCwdRoots") (auto : key ∉ manualKeys) :
    (nextMetadata py beat stored).get? key =
      if key ∈ keptKeys beat stored then (spoken py beat key).or (stored.get? key)
      else spoken py beat key := by
  have byHand : ∀ next : Metadata, (if ((stored.get? "manualRoots").elim false Value.truthy) then
      ((next.set "manualRoots" (.other "True" true)).set "manualRootsUpdatedAt"
          ((stored.get? "manualRootsUpdatedAt").getD (.text ""))).set "manualRootsUpdatedBy"
        ((stored.get? "manualRootsUpdatedBy").getD (.text ""))
      else next).get? key = next.get? key := by
    intro next
    simp only [manualKeys, List.mem_cons, List.not_mem_nil, or_false, not_or] at auto
    split
    · rw [Dict.get?_set_ne _ _ (Ne.symm auto.2.2), Dict.get?_set_ne _ _ (Ne.symm auto.2.1),
        Dict.get?_set_ne _ _ (Ne.symm auto.1)]
    · rfl
  have hostOwned : ∀ next : Metadata,
      ((hostOwnedMetadata.filter fun owned => decide (owned.1 ∈ beat.omitted)).foldl
        (fun next owned => keepStored stored next owned.2) next).get? key =
      if key ∈ (hostOwnedMetadata.filter fun owned => decide (owned.1 ∈ beat.omitted)).map Prod.snd
      then (next.get? key).or (stored.get? key) else next.get? key := by
    intro next
    rw [← keepStored_foldl, List.foldl_map]
  unfold nextMetadata
  dsimp only
  rw [byHand, hostOwned]
  by_cases declared : declaresBridge beat = true
  · simp only [declared, if_true, keptKeys, spoken]
    by_cases stamp : key = "bridgeLastSeen"
    · simp [stamp, Dict.get?_set_self]
    · rw [Dict.get?_set_ne _ _ (Ne.symm stamp), keepStored_get, Dict.get?_set_ne _ _ (Ne.symm plain),
        keepStored_rounds, if_neg stamp]
      simp only [List.mem_cons, List.mem_append, List.not_mem_nil, or_false]
  · simp only [declared, keptKeys, spoken, Bool.false_eq_true, if_false]
    rw [keepStored_foldl, keepStored_get, Dict.get?_set_ne _ _ (Ne.symm plain), keepStored_rounds,
      keepStored_rounds, Dict.get?_filter]
    simp only [List.mem_cons, List.mem_append, Bool.not_eq_true', or_assoc]
    cases isBridgeKey key <;> rfl

/-- No key that is kept for the host is a bridge's. -/
theorem hostOwned_not_bridge {beat : EnvironmentBeat} {key : String} (owned : isBridgeKey key = true) :
    key ∉ (hostOwnedMetadata.filter fun owned => decide (owned.1 ∈ beat.omitted)).map Prod.snd := by
  have apart : ∀ entry ∈ hostOwnedMetadata, isBridgeKey entry.2 = false := by decide
  intro member
  obtain ⟨entry, listed, rfl⟩ := List.mem_map.mp member
  rw [apart entry (List.mem_filter.mp listed).1] at owned
  cases owned

/-- A bridge's keys are those of the beat that names one, with the time it was read, and
otherwise those that are stored. -/
theorem nextMetadata_bridge (py : Stdlib) (beat : EnvironmentBeat) (stored : Metadata) {key : String}
    (owned : isBridgeKey key = true) :
    (nextMetadata py beat stored).get? key =
      if declaresBridge beat then
        if key = "bridgeLastSeen" then some (.text (py.iso beat.now)) else beat.metadata.get? key
      else stored.get? key := by
  have apart : ∀ other, isBridgeKey other = false → key ≠ other := by
    rintro other free rfl
    rw [free] at owned
    cases owned
  have auto : key ∉ manualKeys := by
    have free : ∀ other ∈ manualKeys, isBridgeKey other = false := by decide
    exact fun member => apart key (free key member) rfl
  rw [nextMetadata_get (apart _ (by decide)) auto, spoken]
  by_cases declared : declaresBridge beat = true
  · have absent : key ∉ keptKeys beat stored := by
      simp only [keptKeys, declared, if_true, List.cons_append, List.nil_append, List.mem_cons,
        not_or]
      exact ⟨apart _ (by decide), hostOwned_not_bridge owned⟩
    rw [if_neg absent, if_pos declared, if_pos declared]
  · simp only [declared, owned, Bool.false_eq_true, if_false, if_true, Option.none_or]
    split
    · rfl
    · next absent =>
      -- A key of the stored metadata would have been kept.
      refine (stored.get?_eq_none_iff key |>.mpr fun present => absent ?_).symm
      have kept : key ∈ stored.keys.filter isBridgeKey := List.mem_filter.mpr ⟨present, owned⟩
      simp only [keptKeys, declared, Bool.false_eq_true, if_false]
      exact List.mem_append_left _ (List.mem_cons_of_mem _ (List.mem_append_right _ kept))

/-- A key that is kept, and that the beat does not carry, stays. -/
theorem nextMetadata_kept {py : Stdlib} {beat : EnvironmentBeat} {stored : Metadata} {key : String}
    (plain : key ≠ "advertisedCwdRoots") (auto : key ∉ manualKeys) (other : isBridgeKey key = false)
    (kept : key ∈ keptKeys beat stored) (silent : beat.metadata.get? key = none) :
    (nextMetadata py beat stored).get? key = stored.get? key := by
  have stamp : key ≠ "bridgeLastSeen" := by
    rintro rfl
    cases other
  have said : spoken py beat key = none := by simp [spoken, other, stamp, silent]
  rw [nextMetadata_get plain auto, if_pos kept, said, Option.none_or]

/-! ### A request and its beat -/

/-- An answer that is not given writes nothing. -/
theorem get?_answer {Answer : Type} {answer : Option Answer} {name key : String}
    (silent : key = name → answer = none) (metadata : Metadata) (value : Answer → Value) :
    (answer.elim metadata fun given => metadata.set name (value given)).get? key =
      metadata.get? key := by
  cases answer with
  | none => rfl
  | some given =>
      have other : name ≠ key := fun same => by cases silent same.symm
      exact Dict.get?_set_ne _ _ other

/-- The request says nothing under a key of the host's own answers. -/
def Silent (req : EnvironmentHeartbeat) (key : String) : Prop :=
  (key = "terminal" → req.terminal = none) ∧ (key = "pty" → req.pty = none) ∧
    (key = "terminalRuntimes" → req.terminalRuntimes = none)

theorem silent_of_omitted {req : EnvironmentHeartbeat} {key : String}
    (omitted : key ∈ omittedFields req) : Silent req key := by
  refine ⟨?_, ?_, ?_⟩ <;> rintro rfl <;> simpa [omittedFields] using omitted

theorem hostFacts_get {req : EnvironmentHeartbeat} {key : String} (silent : Silent req key)
    (py : Stdlib) (vocabulary : Vocabulary) (metadata : Metadata) :
    (hostFacts py vocabulary req metadata).get? key = metadata.get? key := by
  unfold hostFacts
  dsimp only
  rw [get?_answer silent.2.2, get?_answer silent.2.1, get?_answer silent.1]

theorem boundStart_get (py : Stdlib) (clock : Nat) (metadata : Metadata) {key : String}
    (other : key ≠ "bridgeStartedAt") : (boundStart py clock metadata).get? key = metadata.get? key := by
  unfold boundStart
  split
  · rfl
  · dsimp only
    split
    · exact Dict.get?_set_ne _ _ (Ne.symm other)
    · rfl

theorem fromRequest_get {req : EnvironmentHeartbeat} {key : String} (silent : Silent req key)
    (start : key ≠ "bridgeStartedAt") (held : key ≠ "heldTerminals") (py : Stdlib)
    (vocabulary : Vocabulary) (now clock : Nat) (envId : String) :
    (fromRequest py vocabulary now clock envId req).metadata.get? key = req.metadata.get? key := by
  have facts := hostFacts_get silent py vocabulary
    (boundStart py clock (req.metadata.erase "heldTerminals"))
  rw [boundStart_get py clock _ start, Dict.get?_erase, if_neg held] at facts
  exact facts

theorem mem_keptKeys_of_omitted {beat : EnvironmentBeat} {field : String} (stored : Metadata)
    (listed : (field, field) ∈ hostOwnedMetadata) (omitted : field ∈ beat.omitted) :
    field ∈ keptKeys beat stored :=
  List.mem_append_right _ (List.mem_map.mpr
    ⟨(field, field), List.mem_filter.mpr ⟨listed, decide_eq_true omitted⟩, rfl⟩)

/-! ### The row a beat updates -/

/-- What a beat leaves as it was. A text that is blank was not sent. -/
structure KeepsRest (req : EnvironmentHeartbeat) (row next : Environment) : Prop where
  hostFacts : ∀ field ∈ omittedFields req, req.metadata.get? field = none →
    next.metadata.get? field = row.metadata.get? field
  launchRoots : req.metadata.get? "launchRoots" = none →
    next.metadata.get? "launchRoots" = row.metadata.get? "launchRoots"
  runtimes : req.runtimes = none → next.runtimes = row.runtimes
  cwdRoots : req.cwdRoots = none → next.cwdRoots = row.cwdRoots
  manualRoots : (row.metadata.get? "manualRoots").elim false Value.truthy = true →
    next.cwdRoots = row.cwdRoots
  label : strip req.label = "" → row.label ≠ "" → next.label = row.label
  os : strip req.os = "" → next.os = row.os
  kind : strip req.kind = "" → next.kind = row.kind
  machineId : strip req.machineId = "" → next.machineId = row.machineId
  bridge : strip req.bridgeId = "" → next.bridgeId = row.bridgeId ∧
    next.bridgeVersion = row.bridgeVersion ∧
    ∀ key, isBridgeKey key = true → next.metadata.get? key = row.metadata.get? key

theorem kept_blank {incoming : String} (blank : strip incoming = "") (column : String) :
    kept incoming column = column := if_pos blank

/-- The keys a host's own answers are kept under are no other keys of the metadata. -/
theorem omitted_field {req : EnvironmentHeartbeat} {field : String}
    (omitted : field ∈ omittedFields req) :
    (field, field) ∈ hostOwnedMetadata ∧ field ≠ "advertisedCwdRoots" ∧ field ∉ manualKeys ∧
      isBridgeKey field = false ∧ field ≠ "bridgeStartedAt" ∧ field ≠ "heldTerminals" := by
  have one : field = "terminal" ∨ field = "pty" ∨ field = "terminalRuntimes" := by
    simp only [omittedFields, List.mem_append] at omitted
    rcases omitted with (first | second) | third
    · split at first <;> simp_all
    · split at second <;> simp_all
    · split at third <;> simp_all
  rcases one with rfl | rfl | rfl <;> decide

theorem launchRoots_key : "launchRoots" ≠ "advertisedCwdRoots" ∧ "launchRoots" ∉ manualKeys ∧
    isBridgeKey "launchRoots" = false ∧ "launchRoots" ≠ "bridgeStartedAt" ∧
    "launchRoots" ≠ "heldTerminals" := by decide

theorem updatedRow_metadata (py : Stdlib) (beat : EnvironmentBeat) (row : Environment) :
    (updatedRow py beat row).metadata = nextMetadata py beat row.metadata := rfl

theorem updatedRow_bridgeId {beat : EnvironmentBeat} (silent : strip beat.bridgeId = "")
    (py : Stdlib) (row : Environment) : (updatedRow py beat row).bridgeId = row.bridgeId := by
  rw [updatedRow]
  dsimp only
  rw [kept_blank silent]

theorem updatedRow_bridgeVersion {beat : EnvironmentBeat} (silent : declaresBridge beat = false)
    (py : Stdlib) (row : Environment) : (updatedRow py beat row).bridgeVersion = row.bridgeVersion := by
  have version : strip (incomingBridgeVersion beat (nextMetadata py beat row.metadata)) = "" := by
    rw [incomingBridgeVersion, silent]
    rfl
  rw [updatedRow]
  dsimp only
  rw [kept_blank version]

theorem updatedRow_keepsRest (py : Stdlib) (vocabulary : Vocabulary) (now clock : Nat) (envId : String)
    (req : EnvironmentHeartbeat) (row : Environment) :
    KeepsRest req row (updatedRow py (fromRequest py vocabulary now clock envId req) row) := by
  constructor
  case hostFacts =>
    intro field omitted unsaid
    obtain ⟨known, plain, auto, other, start, held⟩ := omitted_field omitted
    have sent := fromRequest_get (silent_of_omitted omitted) start held py vocabulary now clock envId
    rw [updatedRow_metadata]
    exact nextMetadata_kept plain auto other (mem_keptKeys_of_omitted _ known omitted)
      (sent.trans unsaid)
  case launchRoots =>
    intro unsaid
    obtain ⟨plain, auto, other, start, held⟩ := launchRoots_key
    have silent : Silent req "launchRoots" := by
      refine ⟨?_, ?_, ?_⟩ <;> intro same <;> exact absurd same (by decide)
    have sent := fromRequest_get silent start held py vocabulary now clock envId
    have first : "launchRoots" ∈ keptKeys (fromRequest py vocabulary now clock envId req)
        row.metadata := List.mem_cons_self
    rw [updatedRow_metadata]
    exact nextMetadata_kept plain auto other first (sent.trans unsaid)
  case runtimes =>
    intro unsaid
    simp [updatedRow, fromRequest, unsaid]
  case cwdRoots =>
    intro unsaid
    simp [updatedRow, fromRequest, effectiveRoots, unsaid]
  case manualRoots =>
    intro byHand
    simp only [updatedRow, effectiveRoots, byHand, if_true]
  case label =>
    intro unsaid named
    simp only [updatedRow, fromRequest, kept_blank unsaid, orElse, named, if_false]
  case os =>
    intro unsaid
    simp only [updatedRow, fromRequest, kept_blank unsaid]
  case kind =>
    intro unsaid
    simp only [updatedRow, fromRequest, kept_blank unsaid]
  case machineId =>
    intro unsaid
    simp only [updatedRow, fromRequest, kept_blank unsaid]
  case bridge =>
    intro unnamed
    have silent : declaresBridge (fromRequest py vocabulary now clock envId req) = false :=
      decide_eq_false (not_not.mpr unnamed)
    have blank : strip (fromRequest py vocabulary now clock envId req).bridgeId = "" := unnamed
    refine ⟨updatedRow_bridgeId blank py row, updatedRow_bridgeVersion silent py row, ?_⟩
    intro key owned
    have next := nextMetadata_bridge py (fromRequest py vocabulary now clock envId req)
      row.metadata owned
    rw [silent] at next
    rw [updatedRow_metadata]
    exact next

theorem written_of_isWritten {outcome : Outcome} (holds : isWritten outcome = true) :
    outcome = .written := by
  cases outcome with
  | written => rfl
  | refused | forgotten | notClaimer => cases holds

/-- A beat that is written writes its row. -/
theorem written_row {py : Stdlib} {clock : Nat} {presented : String} {beat : EnvironmentBeat}
    {hosts : Hosts}
    (written : (recordEnvironmentHeartbeat py clock presented beat hosts).2 = .written) :
    (recordEnvironmentHeartbeat py clock presented beat hosts).1.environments.get? beat.envId =
      some (registeredRow py beat (hosts.environments.get? beat.envId)) := by
  revert written
  unfold recordEnvironmentHeartbeat
  dsimp only
  split
  · exact fun refused => by cases refused
  · split
    · exact fun forgotten => by cases forgotten
    · split
      · exact fun refused => by cases refused
      · exact fun _ => Dict.get?_set_self _ _ _

/-- Every accepted beat leaves what it does not say. -/
theorem accepted_beat_keeps_rest (py : Stdlib) (vocabulary : Vocabulary) (now clock recorded : Nat)
    (presented envId : String) (req : EnvironmentHeartbeat) (hosts : Hosts) (row : Environment)
    (stored : hosts.environments.get? envId = some row)
    (accepted : (recordEnvironmentHeartbeat py recorded presented
      (fromRequest py vocabulary now clock envId req) hosts).2 = .written) :
    ∃ next, (recordEnvironmentHeartbeat py recorded presented
        (fromRequest py vocabulary now clock envId req) hosts).1.environments.get? envId = some next ∧
      KeepsRest req row next := by
  have here : (fromRequest py vocabulary now clock envId req).envId = envId := rfl
  have next := written_row accepted
  rw [here, stored] at next
  exact ⟨_, next, updatedRow_keepsRest py vocabulary now clock envId req row⟩

/-! ### An advertisement of a host -/

/-- A row whose bridge described a host with roots set by hand. -/
def heldRow : Environment where
  label := "Dev box"
  machineId := "linux:devbox"
  os := "linux"
  kind := "linux"
  bridgeId := "env-1"
  bridgeVersion := "0.6.2"
  launcherVersion := ""
  launcherRegistryFingerprint := ""
  cwdRoots := ["/srv"]
  runtimes := []
  status := "online"
  metadata := ((Dict.empty.set "bridgeStartedAt" (.text "2026-10-04T00:00:00Z")).set "terminal"
    (boolValue true)).set "manualRoots" (boolValue true)
  registeredAt := 1791072000
  lastSeen := 1791072000

/-- The host speaks for itself and advertises other roots. -/
def advertisement : EnvironmentHeartbeat :=
  { devboxRequest "" "" with
    os := "", kind := "", cwdRoots := some ["/home"], bridgeVersion := "9.9.9"
    metadata := Dict.empty.set "bridgeLastSeen" (.text "2099-01-01T00:00:00Z") }

theorem advertisement_keeps_rest : ∃ next,
    (recordEnvironmentHeartbeat dayLibrary 1791072120 "" (fromRequest dayLibrary devboxVocabulary
      1791072120 1791072120 devbox advertisement)
      ⟨Dict.empty.set devbox heldRow, Dict.empty⟩).1.environments.get? devbox = some next ∧
    KeepsRest advertisement heldRow next := by
  have stored : (Dict.empty.set devbox heldRow).get? devbox = some heldRow := Dict.get?_set_self _ _ _
  have accepted : isWritten (recordEnvironmentHeartbeat dayLibrary 1791072120 ""
      (fromRequest dayLibrary devboxVocabulary 1791072120 1791072120 devbox advertisement)
      ⟨Dict.empty.set devbox heldRow, Dict.empty⟩).2 = true := by decide
  exact accepted_beat_keeps_rest dayLibrary devboxVocabulary 1791072120 1791072120 1791072120 ""
    devbox advertisement ⟨Dict.empty.set devbox heldRow, Dict.empty⟩ heldRow stored
    (written_of_isWritten accepted)

end AifyComms.BeatFrames
