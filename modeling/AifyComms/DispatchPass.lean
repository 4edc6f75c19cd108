import AifyComms.JsText
import Mathlib.Data.List.Nodup

/-!
One agent's part of a dispatch pass, `runDispatchPass` of `dispatch-loop.mjs`, from the claim
of a batch to the last report after the launched turn settled, with `followRunOutcome` of
`run-outcome.mjs`. What the claims, the reports and the turn come back with is given.

`toLowerCase` is the text library's and stays a parameter. The reply handoff after the turn
reports no status and throws nothing, so it is left out; so are the heartbeats and the
re-registration of the agent.
-/

namespace AifyComms.DispatchPass
open JsText

/-- A claimed run. `sender` is the sender as `describeSender` words it. -/
structure Run where
  id : String
  sender : String
  subject : String
  body : String
  mode : String
  requestedRuntime : String
  deriving DecidableEq

inductive ClaimAnswer where
  | run (run : Run)
  | empty
  | failed (status : Nat)
  deriving DecidableEq

/-- The loop of claims: at most `limit` more, ended by the first answer without a run. -/
def claimRuns : Nat → List ClaimAnswer → List Run
  | limit + 1, .run run :: rest => run :: claimRuns limit rest
  | _, _ => []

def batchedRuns (answers : List ClaimAnswer) : List Run := claimRuns 20 answers

def mergedMessage (count index : Nat) (run : Run) : String :=
  "--- Message " ++ toString (index + 2) ++ " of " ++ toString count ++ " ---\nFrom: " ++
    run.sender ++ "\nSubject: " ++ run.subject ++ "\n" ++ run.body

/-- The run that is launched: the first, with the text of the others. -/
def merged (first : Run) (extras : List Run) : Run :=
  if extras = [] then first
  else
    let count := extras.length + 1
    { first with
      body := first.body ++ "\n\n" ++ "\n\n".intercalate (extras.mapIdx (mergedMessage count))
      subject := toString count ++ " messages (latest: " ++ first.subject ++ ")" }

def runtimeAliases : List (String × String) :=
  [("claude", "claude-code"), ("claude-code", "claude-code"), ("claude_code", "claude-code"),
    ("codex", "codex"), ("hermes", "hermes"), ("hermes-agent", "hermes"),
    ("hermes_agent", "hermes"), ("oh-my-pi", "pi"), ("oh_my_pi", "pi"), ("opencode", "opencode"),
    ("omp", "pi"), ("pi", "pi"), ("pi-agent", "pi"), ("pi_agent", "pi"), ("generic", "generic")]

def launchableRuntimes : List String := ["claude-code", "codex", "hermes", "opencode", "pi"]

inductive Status where
  | running
  | completed
  | failed
  | cancelled
  deriving DecidableEq

/-- A final status closes the run. -/
def Status.isFinal : Status → Bool
  | .running => false
  | _ => true

def Status.word : Status → String
  | .running => "running"
  | .completed => "completed"
  | .failed => "failed"
  | .cancelled => "cancelled"

/-- The body of a PATCH of a run; a field it does not carry is empty. -/
structure Patch where
  runId : String
  status : Status
  agentStatus : String
  appendEvent : String
  eventType : String
  error : String := ""
  summary : String := ""
  runtime : String := ""
  deriving DecidableEq

/-- How the controller's promise settles. -/
inductive Turn where
  | resolved (status summary : String)
  | rejected (message : String)
  deriving DecidableEq

section
variable (toLowerCase : String → String)

def normalizeRuntime (runtime : String) : String :=
  let key := toLowerCase (trim (firstTruthy [runtime, "generic"]))
  firstTruthy [((runtimeAliases.lookup key).getD ""), key, "generic"]

def canLaunchRuntime (runtime : String) : Bool :=
  launchableRuntimes.contains (normalizeRuntime toLowerCase runtime)

/-- The run asks for another runtime than the agent is registered with. -/
def mismatched (runtime : String) (run : Run) : Bool :=
  run.requestedRuntime ≠ "" && normalizeRuntime toLowerCase run.requestedRuntime ≠ runtime

end

def skipStatus (run : Run) : Status := if run.mode = "require_start" then .failed else .cancelled

def mismatchPatch (runtime : String) (run : Run) : Patch where
  runId := run.id
  status := skipStatus run
  error := "Requested runtime \"" ++ run.requestedRuntime ++
    "\" does not match registered runtime \"" ++ runtime ++ "\""
  agentStatus := "idle"
  appendEvent := "Skipped: requested runtime \"" ++ run.requestedRuntime ++
    "\" does not match \"" ++ runtime ++ "\""
  eventType := "skipped"

def unsupportedPatch (runtime : String) (run : Run) : Patch where
  runId := run.id
  status := skipStatus run
  error := "Runtime \"" ++ runtime ++ "\" does not support active dispatch"
  agentStatus := "idle"
  appendEvent := "Skipped: runtime \"" ++ runtime ++ "\" does not support active dispatch"
  eventType := "skipped"

def startPatch (runtime : String) (run : Run) : Patch where
  runId := run.id
  status := .running
  runtime := runtime
  agentStatus := "working"
  appendEvent := "Starting " ++ runtime ++ " run for \"" ++ run.subject ++ "\""
  eventType := "runtime"

def extraPatch (run extra : Run) : Patch where
  runId := extra.id
  status := .completed
  agentStatus := "idle"
  summary := "Delivered in a merged batch turn with run " ++ run.id ++
    " (response is on that run)."
  appendEvent := "Batch-merged into run " ++ run.id ++ "; delivered in the same turn."
  eventType := "completed"

def terminalStatus (status : String) : Status :=
  if status = "cancelled" then .cancelled else .completed

def succeedPatch (run : Run) (status summary : String) : Patch where
  runId := run.id
  status := terminalStatus status
  summary := summary
  agentStatus := "idle"
  appendEvent := if status = "cancelled" then "Run cancelled." else "Run completed successfully."
  eventType := (terminalStatus status).word

def failPatch (run : Run) (message : String) : Patch where
  runId := run.id
  status := .failed
  error := message
  agentStatus := "idle"
  appendEvent := message
  eventType := "failed"

section
variable (answers : Nat → Option String)

/-- Send a PATCH: the `n`-th of the pass is answered by `answers n`. -/
def send (sent : List Patch) (patch : Patch) : List Patch × Option String :=
  (sent ++ [patch], answers sent.length)

/-- `finalizeBatchedExtras`: the error of a report is swallowed, and the next one is sent. -/
def finalizeBatchedExtras (run : Run) (sent : List Patch) : List Run → List Patch
  | [] => sent
  | extra :: rest => finalizeBatchedExtras run (send answers sent (extraPatch run extra)).1 rest

def succeed (run : Run) (extras : List Run) (sent : List Patch) (status summary : String) :
    List Patch :=
  match send answers sent (succeedPatch run status summary) with
  | (sent, some _) => sent
  | (sent, none) => finalizeBatchedExtras answers run sent extras

/-- `fail`, with `attempts` of its three attempts left. -/
def fail (run : Run) (extras : List Run) (message : String) :
    Nat → List Patch → List Patch
  | 0, sent => sent
  | attempts + 1, sent =>
      match send answers sent (failPatch run message) with
      | (sent, none) => finalizeBatchedExtras answers run sent extras
      | (sent, some _) => fail run extras message attempts sent

def followRunOutcome (run : Run) (extras : List Run) (sent : List Patch) : Turn → List Patch
  | .resolved status summary => succeed answers run extras sent status summary
  | .rejected message => fail answers run extras message 3 sent

/-- The pass from the claimed batch on: every PATCH of a status, in order. -/
def runBatch (toLowerCase : String → String) (agentRuntime : String) (turn : Turn) :
    List Run → List Patch
  | [] => []
  | first :: extras =>
      let run := merged first extras
      let runtime := normalizeRuntime toLowerCase (firstTruthy [agentRuntime, "generic"])
      if mismatched toLowerCase runtime run then
        (send answers [] (mismatchPatch runtime run)).1
      else if canLaunchRuntime toLowerCase runtime = false then
        (send answers [] (unsupportedPatch runtime run)).1
      else match send answers [] (startPatch runtime run) with
        | (sent, some _) => sent
        | (sent, none) => followRunOutcome answers run extras sent turn

def runDispatchPass (toLowerCase : String → String) (agentRuntime : String)
    (claims : List ClaimAnswer) (turn : Turn) : List Patch :=
  runBatch answers toLowerCase agentRuntime turn (batchedRuns claims)

end

def Turn.failed : Turn → Bool
  | .resolved _ _ => false
  | .rejected _ => true

def Patch.closes (patch : Patch) (run : Run) : Bool :=
  patch.runId = run.id && patch.status.isFinal

/-- Every run of the batch is reported with a final status exactly once, and none is reported
completed after a failed turn. -/
def Settled (batch : List Run) (turn : Turn) (sent : List Patch) : Prop :=
  (∀ run ∈ batch, sent.countP (fun patch => patch.closes run) = 1) ∧
    (turn.failed = true → ∀ run ∈ batch, ∀ patch ∈ sent, patch.runId = run.id →
      patch.status ≠ .completed)

/-- The runtime the first run of the batch asks for is the agent's, and it can be launched. -/
def Launches (toLowerCase : String → String) (agentRuntime : String) (batch : List Run) : Prop :=
  let runtime := normalizeRuntime toLowerCase (firstTruthy [agentRuntime, "generic"])
  canLaunchRuntime toLowerCase runtime = true ∧
    ∀ first ∈ batch.head?, mismatched toLowerCase runtime first = false

section Reports
variable {answers : Nat → Option String}

@[simp] theorem merged_id (first : Run) (extras : List Run) : (merged first extras).id = first.id := by
  unfold merged
  split <;> rfl

theorem mismatched_merged (toLowerCase : String → String) (runtime : String) (first : Run)
    (extras : List Run) :
    mismatched toLowerCase runtime (merged first extras) =
      mismatched toLowerCase runtime first := by
  unfold merged
  split <;> rfl

theorem finalizeBatchedExtras_eq (answers : Nat → Option String) (run : Run)
    (sent : List Patch) (extras : List Run) :
    finalizeBatchedExtras answers run sent extras = sent ++ extras.map (extraPatch run) := by
  induction extras generalizing sent with
  | nil => simp [finalizeBatchedExtras]
  | cons extra rest ih => simp [finalizeBatchedExtras, send, ih]

/-- The report of the turn itself. -/
def outcomePatch (run : Run) : Turn → Patch
  | .resolved status summary => succeedPatch run status summary
  | .rejected message => failPatch run message

theorem followRunOutcome_eq (reported : ∀ n, answers n = none) (run : Run) (extras : List Run)
    (sent : List Patch) (turn : Turn) :
    followRunOutcome answers run extras sent turn =
      sent ++ outcomePatch run turn :: extras.map (extraPatch run) := by
  cases turn with
  | resolved status summary =>
      simp [followRunOutcome, succeed, send, reported, finalizeBatchedExtras_eq, outcomePatch]
  | rejected message =>
      simp [followRunOutcome, fail, send, reported, finalizeBatchedExtras_eq, outcomePatch]

@[simp] theorem outcomePatch_runId (run : Run) (turn : Turn) :
    (outcomePatch run turn).runId = run.id := by
  cases turn <;> rfl

theorem outcomePatch_final (run : Run) (turn : Turn) :
    (outcomePatch run turn).status.isFinal = true := by
  cases turn with
  | resolved status summary =>
      simp only [outcomePatch, succeedPatch, terminalStatus]
      split <;> rfl
  | rejected message => rfl

/-- The one PATCH of a batch that is not launched. -/
theorem skipped_of_not_launches (answers : Nat → Option String) {toLowerCase : String → String}
    {agentRuntime : String} {first : Run} {extras : List Run} (turn : Turn)
    (stays : ¬ Launches toLowerCase agentRuntime (first :: extras)) :
    ∃ patch, runBatch answers toLowerCase agentRuntime turn (first :: extras) = [patch] ∧
      patch.runId = first.id ∧ patch.status = skipStatus (merged first extras) := by
  simp only [Launches, List.head?_cons, Option.mem_def, Option.some.injEq, forall_eq'] at stays
  simp only [runBatch]
  split
  · exact ⟨_, rfl, merged_id first extras, rfl⟩
  · rename_i matching
    rw [mismatched_merged] at matching
    split
    · exact ⟨_, rfl, merged_id first extras, rfl⟩
    · rename_i launchable
      exact absurd ⟨by simpa using launchable, by simpa using matching⟩ stays

theorem runBatch_of_launches (reported : ∀ n, answers n = none) {toLowerCase : String → String}
    {agentRuntime : String} {first : Run} {extras : List Run} (turn : Turn)
    (launches : Launches toLowerCase agentRuntime (first :: extras)) :
    ∃ start : Patch, start.status = .running ∧
      runBatch answers toLowerCase agentRuntime turn (first :: extras) =
        start :: outcomePatch (merged first extras) turn ::
          extras.map (extraPatch (merged first extras)) := by
  simp only [Launches, List.head?_cons, Option.mem_def, Option.some.injEq, forall_eq'] at launches
  obtain ⟨launchable, matching⟩ := launches
  simp only [runBatch, mismatched_merged, matching, launchable, Bool.false_eq_true,
    Bool.true_eq_false, if_false, send, reported]
  exact ⟨_, rfl, followRunOutcome_eq reported _ _ _ _⟩

/-- A launched batch closes each of its runs as often as the batch holds it. -/
theorem countP_launched {start : Patch} (started : start.status = .running) (first : Run)
    (extras : List Run) (turn : Turn) (run : Run) :
    (start :: outcomePatch (merged first extras) turn ::
        extras.map (extraPatch (merged first extras))).countP (fun patch => patch.closes run) =
      ((first :: extras).map Run.id).count run.id := by
  have ofExtras : (extras.map (extraPatch (merged first extras))).countP
      (fun patch => patch.closes run) = (extras.map Run.id).count run.id := by
    rw [List.countP_map, List.count, List.countP_map]
    apply List.countP_congr
    intro extra _
    simp [Patch.closes, extraPatch, Status.isFinal]
  have open' : start.closes run = false := by simp [Patch.closes, started, Status.isFinal]
  rw [List.countP_cons, List.countP_cons, ofExtras, open', List.map_cons, List.count_cons]
  simp [Patch.closes, outcomePatch_final]

theorem skipStatus_final (run : Run) : (skipStatus run).isFinal = true := by
  unfold skipStatus
  split <;> rfl

theorem skipStatus_ne_completed (run : Run) : skipStatus run ≠ .completed := by
  unfold skipStatus
  split <;> decide

theorem settled_of_launches (reported : ∀ n, answers n = none)
    {toLowerCase : String → String} {agentRuntime : String} {first : Run} {extras : List Run}
    {turn : Turn} (distinct : ((first :: extras).map Run.id).Nodup)
    (launches : Launches toLowerCase agentRuntime (first :: extras)) :
    Settled (first :: extras) turn
        (runBatch answers toLowerCase agentRuntime turn (first :: extras)) ↔
      extras = [] ∨ turn.failed = false := by
  obtain ⟨start, started, sent⟩ := runBatch_of_launches reported turn launches
  rw [sent]
  constructor
  · rintro ⟨-, honest⟩
    cases extras with
    | nil => exact .inl rfl
    | cons extra rest =>
        right
        by_contra failed
        have wrong := honest (by simpa using failed) extra (by simp)
          (extraPatch (merged first (extra :: rest)) extra) (by simp) rfl
        exact wrong rfl
  · intro fine
    constructor
    · intro run member
      rw [countP_launched started]
      exact List.count_eq_one_of_mem distinct (List.mem_map_of_mem member)
    · intro failed run member patch inSent named
      rcases fine with rfl | quiet
      · cases turn with
        | resolved status summary => cases failed
        | rejected message =>
            simp only [List.map_nil, List.mem_cons, List.not_mem_nil, or_false] at inSent
            rcases inSent with rfl | rfl
            · simp [started]
            · simp [outcomePatch, failPatch]
      · rw [quiet] at failed
        cases failed

theorem settled_of_skipped {toLowerCase : String → String} {agentRuntime : String}
    {first : Run} {extras : List Run} {turn : Turn}
    (distinct : ((first :: extras).map Run.id).Nodup)
    (stays : ¬ Launches toLowerCase agentRuntime (first :: extras)) :
    Settled (first :: extras) turn
        (runBatch answers toLowerCase agentRuntime turn (first :: extras)) ↔ extras = [] := by
  obtain ⟨patch, sent, named, status⟩ := skipped_of_not_launches answers turn stays
  rw [sent]
  constructor
  · rintro ⟨once, -⟩
    cases extras with
    | nil => rfl
    | cons extra rest =>
        have other : first.id ≠ extra.id := by
          intro same
          simp [same] at distinct
        have closed := once extra (by simp)
        simp [Patch.closes, named, other] at closed
  · rintro rfl
    constructor
    · intro run member
      obtain rfl := List.mem_singleton.mp member
      simp [Patch.closes, named, status, skipStatus_final]
    · intro _ run _ other inSent _
      obtain rfl := List.mem_singleton.mp inSent
      rw [status]
      exact skipStatus_ne_completed _

end Reports

/-- The answers of the claims of one pass: the service hands a run out once. -/
structure Claims where
  answers : List ClaimAnswer
  distinct : ((batchedRuns answers).map Run.id).Nodup

def question (id requestedRuntime : String) : Run :=
  ⟨id, "sender", "subject", "body", "start_if_possible", requestedRuntime⟩

/-- Two runs that ask for no runtime, and two of which the first asks for another one. -/
def plainPair : Claims where
  answers := [.run (question "r1" ""), .run (question "r2" ""), .empty]
  distinct := by decide

def foreignPair : Claims where
  answers := [.run (question "r1" "pi"), .run (question "r2" ""), .empty]
  distinct := by decide

end AifyComms.DispatchPass
