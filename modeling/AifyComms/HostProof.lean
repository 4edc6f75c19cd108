import AifyComms.SpawnRequests

/-!
Which machine a host request comes from, beyond the API key: `api_core/host_proof.py`,
with the environment heartbeat that enrolls a machine (`environment_heartbeat.py`,
`environment_registration.py`).

A heartbeat holds the write lock from its first read to its commit, so it is one
function of the tables. `EnvironmentBeat.from_request` is not modelled: its result is
the input. The stops queued for a superseded bridge, the cached live states and the
terminals the host no longer holds are other tables, and left out.
-/

namespace AifyComms.HostProof
open PyText
open SpawnRequests (orElse)

/-- What the code takes from the standard library: `sha256(…).hexdigest()`,
`str.lower`, `str` of a list, the ISO text of a time, and of a text the time in UTC
where it is one, as text and as seconds. -/
structure Stdlib where
  sha256 : String → String
  lower : String → String
  showList : List String → String
  iso : Nat → String
  isoUtc : String → Option String
  epoch : String → Nat

def normalizeMachineId (py : Stdlib) (machineId : String) : String := py.lower (strip machineId)

theorem normalize_strip (py : Stdlib) (machineId : String) :
    normalizeMachineId py (strip machineId) = normalizeMachineId py machineId := by
  rw [normalizeMachineId, strip_strip]
  rfl

/-! ### The proof -/

/-- A row of `host_proofs`, which has the machine as its key. -/
structure Proof where
  digest : String
  recordedAt : Nat
  deriving DecidableEq

abbrev Proofs := Dict String Proof

structure Verdict where
  refusal : String
  unenrolled : List String

/-- `presented_proof`. -/
def presentedProof (header : String) : String := strip header

def refusalText (machineId presented : String) : String :=
  String.join ["machine ", machineId, " proves itself with a host proof and this request ",
    if presented = "" then "presents none" else "presents a different one",
    ". If this is that machine's aify-env after its ~/.aify/host-secret was replaced, an operator ",
    "resets it: POST /host-proofs/", machineId, "/reset"]

def judgeFrom (py : Stdlib) (proofs : Proofs) (presented : String) :
    List String → List String → Verdict
  | unenrolled, [] => ⟨"", unenrolled⟩
  | unenrolled, machineId :: rest =>
      if machineId = "" then judgeFrom py proofs presented unenrolled rest
      else match proofs.get? machineId with
        | none => judgeFrom py proofs presented (unenrolled ++ [machineId]) rest
        | some row =>
            if presented = "" ∨ row.digest ≠ py.sha256 presented then
              ⟨refusalText machineId presented, []⟩
            else judgeFrom py proofs presented unenrolled rest

/-- `judge_host_proof`. -/
def judgeHostProof (py : Stdlib) (proofs : Proofs) (machineIds : List String) (presented : String) :
    Verdict :=
  judgeFrom py proofs presented [] (machineIds.map (normalizeMachineId py)).eraseDups

/-- `enroll_host_proof`. -/
def enrollHostProof (py : Stdlib) (proofs : Proofs) (verdict : Verdict) (presented : String)
    (now : Nat) : Proofs :=
  if presented = "" then proofs
  else proofs.setAll (verdict.unenrolled.map fun machineId => (machineId, ⟨py.sha256 presented, now⟩))

theorem refusal_ne_empty (machineId presented : String) : refusalText machineId presented ≠ "" := by
  simp [refusalText, String.join]

/-- The machine is not enrolled, or the request presents its proof. -/
def Vouched (py : Stdlib) (proofs : Proofs) (presented machineId : String) : Prop :=
  ∀ row, proofs.get? machineId = some row → presented ≠ "" ∧ row.digest = py.sha256 presented

theorem judgeFrom_accepts {py : Stdlib} {proofs : Proofs} {presented : String}
    {unenrolled machines : List String}
    (accepted : (judgeFrom py proofs presented unenrolled machines).refusal = "") :
    (∀ machineId ∈ machines, machineId ≠ "" → Vouched py proofs presented machineId) ∧
      ∀ machineId ∈ (judgeFrom py proofs presented unenrolled machines).unenrolled,
        machineId ∈ unenrolled ∨ machineId ≠ "" ∧ proofs.get? machineId = none := by
  induction machines generalizing unenrolled with
  | nil => exact ⟨by rintro _ ⟨⟩, fun _ member => .inl member⟩
  | cons first rest ih =>
      by_cases blank : first = ""
      · simp only [judgeFrom, blank, if_true] at accepted ⊢
        obtain ⟨vouched, found⟩ := ih accepted
        refine ⟨?_, found⟩
        intro machineId member named
        rcases List.mem_cons.mp member with same | later
        · exact absurd same named
        · exact vouched machineId later named
      · cases recorded : proofs.get? first with
        | none =>
            simp only [judgeFrom, blank, if_false, recorded] at accepted ⊢
            obtain ⟨vouched, found⟩ := ih accepted
            constructor
            · intro machineId member named
              rcases List.mem_cons.mp member with rfl | later
              · intro row present
                cases recorded.symm.trans present
              · exact vouched machineId later named
            · intro machineId member
              rcases found machineId member with before | new
              · rcases List.mem_append.mp before with old | only
                · exact .inl old
                · rw [List.mem_singleton.mp only]
                  exact .inr ⟨blank, recorded⟩
              · exact .inr new
        | some row =>
            simp only [judgeFrom, blank, if_false, recorded] at accepted ⊢
            split at accepted
            · exact absurd accepted (refusal_ne_empty first presented)
            · next proven =>
                rw [if_neg proven]
                obtain ⟨vouched, found⟩ := ih accepted
                refine ⟨?_, found⟩
                intro machineId member named
                rcases List.mem_cons.mp member with rfl | later
                · intro other present
                  cases recorded.symm.trans present
                  exact ⟨fun none' => proven (.inl none'),
                    not_not.mp fun differs => proven (.inr differs)⟩
                · exact vouched machineId later named

theorem judge_vouched {py : Stdlib} {proofs : Proofs} {presented machineId : String}
    {machines : List String} (accepted : (judgeHostProof py proofs machines presented).refusal = "")
    (judged : machineId ∈ machines) (named : normalizeMachineId py machineId ≠ "") :
    Vouched py proofs presented (normalizeMachineId py machineId) := by
  apply (judgeFrom_accepts accepted).1 _ _ named
  rw [List.mem_eraseDups]
  exact List.mem_map_of_mem judged

theorem judge_unenrolled {py : Stdlib} {proofs : Proofs} {presented machineId : String}
    {machines : List String} (accepted : (judgeHostProof py proofs machines presented).refusal = "")
    (found : machineId ∈ (judgeHostProof py proofs machines presented).unenrolled) :
    machineId ≠ "" ∧ proofs.get? machineId = none := by
  rcases (judgeFrom_accepts accepted).2 machineId found with old | new
  · cases old
  · exact new

/-- Enrolling records the machines that were found without a proof, and no other. -/
theorem enroll_keeps (py : Stdlib) (proofs : Proofs) (verdict : Verdict) (presented : String) (now : Nat)
    {machineId : String} (other : machineId ∉ verdict.unenrolled) :
    (enrollHostProof py proofs verdict presented now).get? machineId = proofs.get? machineId := by
  unfold enrollHostProof
  split
  · rfl
  · have absent : Dict.lookupEntry machineId (verdict.unenrolled.map fun id =>
        (id, Proof.mk (py.sha256 presented) now)).reverse = none := by
      rw [Dict.lookup_none_iff, List.map_reverse, List.mem_reverse, List.map_map]
      intro member
      obtain ⟨id, found, same⟩ := List.mem_map.mp member
      exact other (same ▸ found)
    rw [Dict.get?_setAll, absent, Option.none_or]

/-! ### The environment's row -/

/-- A JSON value as it is read here: a text, or anything else by what `str` shows of
it and whether it is truthy. -/
inductive Value where
  | text (value : String)
  | other (shown : String) (truthy : Bool)
  deriving DecidableEq

namespace Value

def truthy : Value → Bool
  | .text value => decide (value ≠ "")
  | .other _ truthy => truthy

/-- `str(value or "")`. -/
def shown : Value → String
  | .text value => value
  | .other shown truthy => if truthy then shown else ""

end Value

abbrev Metadata := Dict String Value

/-- `str(metadata.get(key) or "")`. -/
def textAt (metadata : Metadata) (key : String) : String := (metadata.get? key).elim "" Value.shown

structure Environment where
  label : String
  machineId : String
  os : String
  kind : String
  bridgeId : String
  bridgeVersion : String
  launcherVersion : String
  launcherRegistryFingerprint : String
  cwdRoots : List String
  runtimes : List Value
  status : String
  metadata : Metadata
  registeredAt : Nat
  lastSeen : Nat

/-- `EnvironmentBeat`. A text of the request that is missing is empty; of the host's
own answers only whether they are missing is read. -/
structure EnvironmentBeat where
  envId : String
  label : String
  machineId : String
  os : String
  kind : String
  bridgeId : String
  bridgeVersion : String
  launcherVersion : String
  launcherRegistryFingerprint : String
  omitted : List String
  now : Nat
  cwdRoots : Option (List String)
  runtimes : Option (List Value)
  metadata : Metadata
  requestedStatus : String

def declaresBridge (beat : EnvironmentBeat) : Bool := decide (strip beat.bridgeId ≠ "")

def bridgeOwnedMetadata : List String := ["bridgeStartedAt", "bridgeLastSeen", "bridgeBuild"]

def isBridgeKey (key : String) : Bool := "bridge".toList.isPrefixOf key.toList

/-- `HOST_OWNED_METADATA`: a field of the request and the key it is kept under. -/
def hostOwnedMetadata : List (String × String) :=
  [("terminal", "terminal"), ("pty", "pty"), ("terminalRuntimes", "terminalRuntimes")]

/-- `next_metadata.setdefault(key, stored[key])` where it is stored. -/
def keepStored (stored : Metadata) (next : Metadata) (key : String) : Metadata :=
  match stored.get? key with
  | some value => if (next.get? key).isSome then next else next.set key value
  | none => next

def rootsValue (py : Stdlib) (roots : List String) : Value :=
  .other (py.showList roots) (decide (roots ≠ []))

/-- The metadata of `merge_with_stored`. -/
def nextMetadata (py : Stdlib) (beat : EnvironmentBeat) (stored : Metadata) : Metadata :=
  let advertised := beat.cwdRoots.elim ((stored.get? "advertisedCwdRoots").getD (rootsValue py []))
    (rootsValue py)
  let claimed := if declaresBridge beat then beat.metadata
    else beat.metadata.filter fun key => !isBridgeKey key
  let next := keepStored stored (claimed.set "advertisedCwdRoots" advertised) "launchRoots"
  let next := if declaresBridge beat then next.set "bridgeLastSeen" (.text (py.iso beat.now))
    else (bridgeOwnedMetadata ++ stored.keys.filter isBridgeKey).foldl (keepStored stored) next
  let next := (hostOwnedMetadata.filter fun owned => decide (owned.1 ∈ beat.omitted)).foldl
    (fun next owned => keepStored stored next owned.2) next
  if ((stored.get? "manualRoots").elim false Value.truthy) then
    ((next.set "manualRoots" (.other "True" true)).set "manualRootsUpdatedAt"
        ((stored.get? "manualRootsUpdatedAt").getD (.text ""))).set "manualRootsUpdatedBy"
      ((stored.get? "manualRootsUpdatedBy").getD (.text ""))
  else next

/-- `_kept`: a text that was not sent keeps what the row holds. -/
def kept (incoming column : String) : String := if strip incoming = "" then column else strip incoming

/-- `version_text`. -/
def versionText : Option Value → String
  | some (.text value) => strip value
  | _ => ""

def incomingBridgeVersion (beat : EnvironmentBeat) (next : Metadata) : String :=
  if declaresBridge beat then orElse (strip beat.bridgeVersion) (versionText (next.get? "bridgeVersion"))
  else ""

/-- The roots of `merge_with_stored`: those set by hand stay. -/
def effectiveRoots (beat : EnvironmentBeat) (row : Environment) : List String :=
  if (row.metadata.get? "manualRoots").elim false Value.truthy then row.cwdRoots
  else beat.cwdRoots.getD row.cwdRoots

/-- The UPDATE of `_record_environment_registration`. -/
def updatedRow (py : Stdlib) (beat : EnvironmentBeat) (row : Environment) : Environment where
  label := orElse (kept beat.label row.label) beat.envId
  machineId := kept beat.machineId row.machineId
  os := kept beat.os row.os
  kind := kept beat.kind row.kind
  bridgeId := kept beat.bridgeId row.bridgeId
  bridgeVersion :=
    kept (incomingBridgeVersion beat (nextMetadata py beat row.metadata)) row.bridgeVersion
  launcherVersion := kept beat.launcherVersion row.launcherVersion
  launcherRegistryFingerprint :=
    kept beat.launcherRegistryFingerprint row.launcherRegistryFingerprint
  cwdRoots := effectiveRoots beat row
  runtimes := beat.runtimes.getD row.runtimes
  status := beat.requestedStatus
  metadata := nextMetadata py beat row.metadata
  registeredAt := row.registeredAt
  lastSeen := beat.now

/-- The INSERT of `_record_environment_registration`. -/
def insertedRow (py : Stdlib) (beat : EnvironmentBeat) : Environment where
  label := orElse beat.label beat.envId
  machineId := beat.machineId
  os := beat.os
  kind := beat.kind
  bridgeId := beat.bridgeId
  bridgeVersion := incomingBridgeVersion beat (nextMetadata py beat Dict.empty)
  launcherVersion := beat.launcherVersion
  launcherRegistryFingerprint := beat.launcherRegistryFingerprint
  cwdRoots := beat.cwdRoots.getD []
  runtimes := beat.runtimes.getD []
  status := beat.requestedStatus
  metadata := nextMetadata py beat Dict.empty
  registeredAt := beat.now
  lastSeen := beat.now

def registeredRow (py : Stdlib) (beat : EnvironmentBeat) (existing : Option Environment) :
    Environment :=
  existing.elim (insertedRow py beat) (updatedRow py beat)

/-! ### Arbitration -/

/-- `_timestamp_sort_key`. -/
def timestampSortKey (py : Stdlib) (value : String) : String :=
  if strip value = "" then "" else (py.isoUtc (strip value)).getD value

/-- `_parsed_timestamp`. -/
def parsedTimestamp (py : Stdlib) (value : String) : String :=
  let raw := strip value
  if raw = "" then ""
  else if timestampSortKey py raw = raw ∧ py.epoch raw = 0 then "" else timestampSortKey py raw

def bridgeStartedAt (py : Stdlib) (metadata : Metadata) : String :=
  parsedTimestamp py (textAt metadata "bridgeStartedAt")

def isHostTier (py : Stdlib) (metadata : Metadata) : Bool :=
  decide (py.lower (strip (textAt metadata "bridgeKind")) = "aify-env")

/-- `environment_has_live_bridge`, with nothing known of the bridge rows: a stamp is
fresh for 90 seconds, and one more than 120 seconds ahead is not a stamp. -/
def hasLiveBridge (py : Stdlib) (clock : Nat) (metadata : Metadata) : Bool :=
  let stamp := strip (textAt metadata "bridgeLastSeen")
  decide (stamp ≠ "") && (py.isoUtc stamp).isSome && decide (py.epoch stamp ≤ clock + 120) &&
    decide (clock ≤ py.epoch stamp + 90)

/-- Why a beat may not hold the row, and the bridge that does. -/
structure Claimer where
  bridgeId : String
  reason : String
  deriving DecidableEq

def heldByHostTier : String :=
  String.join ["this environment is held by the aify-env host tier, which outranks ",
    "an aify-comms environment bridge. That bridge is retired: re-run ",
    "install.sh on this host and relaunch its wrappers."]

def startedLater : String :=
  String.join ["an existing bridge started later than this one, or this beat ",
    "carried no metadata.bridgeStartedAt to arbitrate on"]

/-- Between the row's bridge and another one: whether the row's bridge keeps it. -/
def arbitrateBridges (py : Stdlib) (clock : Nat) (beat : EnvironmentBeat) (row : Environment) :
    Option Claimer :=
  let started := if hasLiveBridge py clock row.metadata then bridgeStartedAt py row.metadata else ""
  let incoming := bridgeStartedAt py beat.metadata
  let outranks := isHostTier py beat.metadata && !isHostTier py row.metadata
  if isHostTier py row.metadata && !isHostTier py beat.metadata then
    some ⟨strip row.bridgeId, heldByHostTier⟩
  else if !outranks && decide (started ≠ "") && (decide (incoming = "") || decide (incoming < started))
  then some ⟨strip row.bridgeId, startedLater⟩
  else none

/-- `arbitrate_claim`: the claimer a beat is refused in favour of. -/
def arbitrateClaim (py : Stdlib) (clock : Nat) (beat : EnvironmentBeat) (existing : Option Environment) :
    Option Claimer :=
  existing.bind fun row =>
    if strip row.bridgeId = "" ∨ strip beat.bridgeId = "" ∨ strip row.bridgeId = strip beat.bridgeId
    then none
    else (arbitrateBridges py clock beat row).or
      (if beat.requestedStatus ≠ "online" then
        some ⟨strip row.bridgeId, "another bridge owns this row, and this beat was not an online one"⟩
      else none)

/-! ### The heartbeat -/

/-- A forgotten environment comes back only with a bridge that started later. -/
def staysForgotten (py : Stdlib) (beat : EnvironmentBeat) (existing : Option Environment) : Bool :=
  existing.any fun row =>
    decide (py.lower (strip row.status) = "forgotten") &&
      let forgottenAt := timestampSortKey py (textAt row.metadata "forgottenAt")
      let incoming := bridgeStartedAt py beat.metadata
      !(decide (incoming ≠ "") && (decide (forgottenAt = "") || decide (forgottenAt < incoming)))

abbrev Environments := Dict String Environment

/-- The two tables of a heartbeat. -/
structure Hosts where
  environments : Environments
  proofs : Proofs

inductive Outcome where
  | refused (reason : String)
  | forgotten
  | notClaimer (claimer : Claimer)
  | written

/-- The machines a heartbeat is judged for: the row's and the one claimed. -/
def machinesOf (beat : EnvironmentBeat) (existing : Option Environment) : List String :=
  [existing.elim "" Environment.machineId, beat.machineId]

/-- `record_environment_heartbeat`. -/
def recordEnvironmentHeartbeat (py : Stdlib) (clock : Nat) (presented : String)
    (beat : EnvironmentBeat) (hosts : Hosts) : Hosts × Outcome :=
  let existing := hosts.environments.get? beat.envId
  let proof := judgeHostProof py hosts.proofs (machinesOf beat existing) presented
  if proof.refusal ≠ "" then (hosts, .refused proof.refusal)
  else if staysForgotten py beat existing then (hosts, .forgotten)
  else match arbitrateClaim py clock beat existing with
    | some claimer => (hosts, .notClaimer claimer)
    | none =>
        (⟨hosts.environments.set beat.envId (registeredRow py beat existing),
          enrollHostProof py hosts.proofs proof presented beat.now⟩, .written)

/-- A heartbeat changes nothing, or it was vouched for and wrote its row. -/
theorem heartbeat_cases (py : Stdlib) (clock : Nat) (presented : String) (beat : EnvironmentBeat)
    (hosts : Hosts) :
    (recordEnvironmentHeartbeat py clock presented beat hosts).1 = hosts ∨
      ∃ proof, proof = judgeHostProof py hosts.proofs
          (machinesOf beat (hosts.environments.get? beat.envId)) presented ∧
        proof.refusal = "" ∧
        (recordEnvironmentHeartbeat py clock presented beat hosts).1 =
          ⟨hosts.environments.set beat.envId
              (registeredRow py beat (hosts.environments.get? beat.envId)),
            enrollHostProof py hosts.proofs proof presented beat.now⟩ := by
  unfold recordEnvironmentHeartbeat
  dsimp only
  split
  · exact .inl rfl
  · next accepted =>
      split
      · exact .inl rfl
      · split
        · exact .inl rfl
        · exact .inr ⟨_, rfl, not_not.mp accepted, rfl⟩

theorem updated_machine (py : Stdlib) (beat : EnvironmentBeat) (row : Environment) :
    (registeredRow py beat (some row)).machineId = kept beat.machineId row.machineId := by
  rw [registeredRow, Option.elim_some, updatedRow]

/-- The machine of the row a heartbeat writes is one it was judged for. -/
theorem registered_machine (py : Stdlib) (beat : EnvironmentBeat) (existing : Option Environment) :
    ∃ machineId ∈ machinesOf beat existing,
      normalizeMachineId py (registeredRow py beat existing).machineId =
        normalizeMachineId py machineId := by
  cases existing with
  | none => exact ⟨beat.machineId, List.mem_cons_of_mem _ List.mem_cons_self, rfl⟩
  | some row =>
      by_cases blank : strip beat.machineId = ""
      · refine ⟨row.machineId, List.mem_cons_self, ?_⟩
        rw [updated_machine, kept, if_pos blank]
      · refine ⟨beat.machineId, List.mem_cons_of_mem _ List.mem_cons_self, ?_⟩
        rw [updated_machine, kept, if_neg blank, normalize_strip]

end AifyComms.HostProof
