import AifyComms.DispatchClaim

/-!
What a claim leaves of the runs that were active before it. The gate looks at
the longest active run and fails it when the staleness rule takes it for dead;
the rest of the transaction writes to queued runs only. So the claim that hands
out a run settles every other active run exactly when there was at most one.
-/

namespace AifyComms.DispatchClaim
open PyText

/-! ### What one UPDATE reaches -/

theorem Db.get?_update (db : Db) (id : String) (change : Run → Run) (other : String) :
    (db.update id change).runs.get? other =
      if other = id then (db.runs.get? id).map change else db.runs.get? other := by
  rw [Db.update]
  cases present : db.runs.get? id with
  | none =>
      by_cases same : other = id
      · rw [if_pos same, same]
        exact present
      · rw [if_neg same]
  | some run =>
      dsimp only
      rw [Dict.get?_set]
      by_cases same : other = id
      · simp [same]
      · simp [same, Ne.symm same]

@[simp] theorem Db.append_runs (db : Db) (runId eventType body : String) :
    (db.append runId eventType body).runs = db.runs := rfl

@[simp] theorem Db.failPendingControls_runs (db : Db) (runId text : String) (handledAt : Nat) :
    (db.failPendingControls runId text handledAt).runs = db.runs := rfl

theorem get?_skip_of_ne (db : Db) (c : Circumstances) {id other : String} (status : String)
    (error : Option String) (event : String) (differs : other ≠ id) :
    (skip db c id status error event).runs.get? other = db.runs.get? other := by
  rw [skip, Db.append_runs, Db.get?_update, if_neg differs]

theorem get?_markClaimed_of_ne (db : Db) (req : ClaimRequest) (c : Circumstances)
    {id other : String} (differs : other ≠ id) :
    (markClaimed db req c id).runs.get? other = db.runs.get? other := by
  rw [markClaimed, Db.append_runs, Db.get?_update, if_neg differs]

theorem get?_failStaleRun (db : Db) (req : ClaimRequest) (c : Circumstances) {id : String}
    {run : Run} (present : db.runs.get? id = some run) (other : String) :
    ((failStaleRun db req c id run).runs.get? other).map (·.status) =
      if other = id then some "failed" else (db.runs.get? other).map (·.status) := by
  rw [failStaleRun, Db.failPendingControls_runs, Db.append_runs, Db.get?_update]
  by_cases same : other = id
  · rw [if_pos same, if_pos same, present]
    rfl
  · rw [if_neg same, if_neg same]

/-! ### The runs a claim reads -/

theorem mem_activeRuns {db : Db} {agentId : String} {entry : String × Run} :
    entry ∈ db.activeRuns agentId ↔
      db.runs.get? entry.1 = some entry.2 ∧ entry.2.targetAgent = agentId ∧
        entry.2.active = true := by
  rw [Db.activeRuns, List.mem_insertionSort, List.mem_filter, Dict.get?_eq_some_iff]
  simp

theorem activeRuns_keys_nodup (db : Db) (agentId : String) :
    ((db.activeRuns agentId).map Prod.fst).Nodup := by
  have perm := List.perm_insertionSort
    (fun left right : String × Run => left.2.activeSince ≤ right.2.activeSince)
    (db.runs.entries.filter fun entry => entry.2.targetAgent = agentId ∧ entry.2.active)
  rw [Db.activeRuns, (perm.map Prod.fst).nodup_iff]
  exact List.Nodup.sublist (List.filter_sublist.map Prod.fst) db.runs.distinct

theorem mem_queued {db : Db} {agentId : String} {keep : Run → Bool} {entry : String × Run}
    (known : entry ∈ db.queued agentId keep) :
    (db.runs.get? entry.1).map (·.status) = some "queued" := by
  have listed := List.mem_of_mem_take known
  rw [List.mem_insertionSort, List.mem_filter] at listed
  obtain ⟨present, matching⟩ := listed
  have queued := (of_decide_eq_true matching).2.1
  rw [(Dict.get?_eq_some_iff _ _ _).mpr present]
  exact congrArg some queued

/-! ### What the selection reaches -/

/-- A result of the loop over `runs`: it hands out one of them, and has written
to these only. -/
structure Selects (db : Db) (runs : List (String × Run)) (result : Db × Option (String × Run)) :
    Prop where
  untouched : ∀ other, other ∉ runs.map Prod.fst → result.1.runs.get? other = db.runs.get? other
  chosen : ∀ entry, result.2 = some entry → entry ∈ runs

theorem Selects.pass {db : Db} {entry : String × Run} {rest : List (String × Run)}
    {result : Db × Option (String × Run)} (selects : Selects db rest result) :
    Selects db (entry :: rest) result where
  untouched := fun other absent =>
    selects.untouched other fun later => absent (List.mem_cons_of_mem _ later)
  chosen := fun taken given => List.mem_cons_of_mem _ (selects.chosen taken given)

theorem Selects.skip {db : Db} {c : Circumstances} {id status event : String}
    {error : Option String} {run : Run} {rest : List (String × Run)}
    {result : Db × Option (String × Run)}
    (selects : Selects (skip db c id status error event) rest result) :
    Selects db ((id, run) :: rest) result where
  untouched := by
    intro other absent
    rw [List.map_cons, List.mem_cons, not_or] at absent
    rw [selects.untouched other absent.2, get?_skip_of_ne _ _ _ _ _ absent.1]
  chosen := fun taken given => List.mem_cons_of_mem _ (selects.chosen taken given)

theorem selectClaimableRun_selects (req : ClaimRequest) (c : Circumstances) (holdQueue : Bool)
    (db : Db) (runs : List (String × Run)) :
    Selects db runs (selectClaimableRun req c holdQueue db runs) := by
  -- one case for each way out of the loop's body
  fun_induction selectClaimableRun req c holdQueue db runs with
  | case1 => exact ⟨fun _ _ => rfl, fun _ none => (nomatch none)⟩
  | case2 | case3 | case5 =>
      rename_i passed
      exact passed.pass
  | case4 | case6 | case7 =>
      rename_i skipped
      exact skipped.skip
  | case8 => exact ⟨fun _ _ => rfl, fun _ given => Option.some.inj given ▸ List.mem_cons_self⟩

/-! ### A claim that hands out a run -/

/-- The transaction up to the claim of the queued run: the gate's failed run, if
there was an active one, and the writes of the selection. -/
theorem handedOut_cases {db after : Db} {req : ClaimRequest} {c : Circumstances} {handed : String}
    (claimed : claimDispatchOnce db req c = (after, .handedOut handed)) :
    ∃ cleared, clearActiveRun db req c = .ok cleared ∧
      (cleared.runs.get? handed).map (·.status) = some "queued" ∧
      ∀ other, (cleared.runs.get? other).map (·.status) ≠ some "queued" →
        after.runs.get? other = cleared.runs.get? other := by
  rw [claimDispatchOnce] at claimed
  split at claimed
  · cases claimed
  · split at claimed
    · cases claimed
    · rename_i cleared passed
      split at claimed
      · cases claimed
      · rw [claimFromQueue] at claimed
        split at claimed
        · cases claimed
        · have selects := selectClaimableRun_selects req c (gate cleared req c = .steer) cleared
            (cleared.queued req.agentId fun run => run.resultMessageId = "")
          split at claimed
          · cases claimed
          · rename_i selected id run chosen
            rw [chosen] at selects
            cases claimed
            have queued := mem_queued (selects.chosen (handed, run) rfl)
            refine ⟨cleared, passed, queued, fun other differs => ?_⟩
            have apart : other ≠ handed := by
              rintro rfl
              exact differs queued
            rw [get?_markClaimed_of_ne _ _ _ apart]
            refine selects.untouched other fun listed => ?_
            obtain ⟨entry, member, rfl⟩ := List.mem_map.mp listed
            exact differs (mem_queued member)

/-- The gate passed because nothing was active, or it failed the first active run,
which its rule took for dead. -/
theorem clearActiveRun_cases {db cleared : Db} {req : ClaimRequest} {c : Circumstances}
    (passed : clearActiveRun db req c = .ok cleared) :
    (db.activeRuns req.agentId = [] ∧ cleared = db) ∨
    ∃ id run rest, db.activeRuns req.agentId = (id, run) :: rest ∧
      activeRunBlock db req c id run = none ∧ cleared = failStaleRun db req c id run := by
  rw [clearActiveRun, Db.activeRun] at passed
  cases active : db.activeRuns req.agentId with
  | nil =>
      rw [active] at passed
      cases passed
      exact Or.inl ⟨rfl, rfl⟩
  | cons first rest =>
      obtain ⟨id, run⟩ := first
      rw [active, List.head?_cons] at passed
      dsimp only at passed
      split at passed
      · cases passed
      · rename_i stale
        cases passed
        exact Or.inr ⟨id, run, rest, rfl, stale, rfl⟩

/-- The run was taken for dead by the claim's own rule, and failed. -/
def Settled (db after : Db) (req : ClaimRequest) (c : Circumstances) (id : String) (run : Run) :
    Prop :=
  activeRunBlock db req c id run = none ∧
    (after.runs.get? id).map (·.status) = some "failed"

def CountsAsActive (after : Db) (id : String) : Prop :=
  ∃ run, after.runs.get? id = some run ∧ run.active = true

theorem active_status {run : Run} (active : run.active = true) :
    run.status ≠ "failed" ∧ run.status ≠ "queued" := by
  have listed : run.status ∈ ["claimed", "running"] := of_decide_eq_true active
  simp only [List.mem_cons, List.not_mem_nil, or_false] at listed
  rcases listed with status | status <;> rw [status] <;> decide

/-- Every active run but the first keeps its row through a claim that hands out a run. -/
theorem passed_over {db after : Db} {req : ClaimRequest} {c : Circumstances} {handed : String}
    (claimed : claimDispatchOnce db req c = (after, .handedOut handed)) {first : String × Run}
    {rest : List (String × Run)} (active : db.activeRuns req.agentId = first :: rest)
    {other : String × Run} (later : other ∈ rest) :
    after.runs.get? other.1 = some other.2 ∧ other.1 ≠ handed := by
  have distinct := activeRuns_keys_nodup db req.agentId
  rw [active, List.map_cons, List.nodup_cons] at distinct
  have apart : other.1 ≠ first.1 := by
    intro same
    exact distinct.1 (same ▸ List.mem_map_of_mem later)
  obtain ⟨present, _, stillActive⟩ := mem_activeRuns.1 (active ▸ List.mem_cons_of_mem _ later)
  obtain ⟨cleared, passed, queued, untouched⟩ := handedOut_cases claimed
  rcases clearActiveRun_cases passed with ⟨none, _⟩ | ⟨id, run, tail, found, _, rfl⟩
  · rw [active] at none
    cases none
  · rw [active] at found
    cases found
    have kept : (failStaleRun db req c id run).runs.get? other.1 = some other.2 := by
      rw [failStaleRun, Db.failPendingControls_runs, Db.append_runs, Db.get?_update, if_neg apart]
      exact present
    -- The queue's own writes touch queued runs only, and an active run is none.
    have notQueued : ((failStaleRun db req c id run).runs.get? other.1).map (·.status) ≠
        some "queued" := by
      rw [kept]
      exact fun same => (active_status stillActive).2 (Option.some.inj same)
    refine ⟨(untouched other.1 notQueued).trans kept, ?_⟩
    rintro rfl
    exact notQueued queued

/-- The only active run is failed by the claim that hands out another. -/
theorem single_settled {db after : Db} {req : ClaimRequest} {c : Circumstances} {handed id : String}
    {run : Run} (claimed : claimDispatchOnce db req c = (after, .handedOut handed))
    (active : db.activeRuns req.agentId = [(id, run)]) : Settled db after req c id run := by
  obtain ⟨cleared, passed, _, untouched⟩ := handedOut_cases claimed
  rcases clearActiveRun_cases passed with ⟨none, _⟩ | ⟨first, firstRun, rest, found, stale, rfl⟩
  · rw [active] at none
    cases none
  · rw [active] at found
    cases found
    have present := (mem_activeRuns.1 (active ▸ List.mem_singleton_self _)).1
    have failed := get?_failStaleRun db req c present id
    rw [if_pos rfl] at failed
    have notQueued : ((failStaleRun db req c id run).runs.get? id).map (·.status) ≠
        some "queued" := by
      rw [failed]
      decide
    exact ⟨stale, by rw [untouched id notQueued]; exact failed⟩

/-- A claim that hands out a run leaves no other active run behind exactly when
the agent had at most one; then that one was taken for dead, and failed. -/
theorem claim_settles_active_runs (db after : Db) (req : ClaimRequest) (c : Circumstances)
    (handed : String) (claimed : claimDispatchOnce db req c = (after, .handedOut handed)) :
    ((∀ id run, db.runs.get? id = some run → run.targetAgent = req.agentId → run.active = true →
        id ≠ handed → Settled db after req c id run ∨ ¬ CountsAsActive after id) ↔
      (db.activeRuns req.agentId).length ≤ 1) ∧
    ((db.activeRuns req.agentId).length ≤ 1 →
      ∀ id run, db.runs.get? id = some run → run.targetAgent = req.agentId → run.active = true →
        Settled db after req c id run) := by
  have few : (db.activeRuns req.agentId).length ≤ 1 → ∀ id run, db.runs.get? id = some run →
      run.targetAgent = req.agentId → run.active = true → Settled db after req c id run := by
    intro few id run present target stillActive
    have listed : (id, run) ∈ db.activeRuns req.agentId :=
      mem_activeRuns.2 ⟨present, target, stillActive⟩
    cases active : db.activeRuns req.agentId with
    | nil =>
        rw [active] at listed
        cases listed
    | cons first rest =>
        rw [active] at listed few
        have nobody : rest = [] := List.length_eq_zero_iff.mp (by simpa using few)
        subst nobody
        rw [List.mem_singleton] at listed
        subst listed
        exact single_settled claimed active
  refine ⟨⟨fun cleared => ?_, fun few' id run present target active _ =>
    Or.inl (few few' id run present target active)⟩, few⟩
  match active : db.activeRuns req.agentId with
  | [] => exact Nat.zero_le 1
  | [_] => exact Nat.le_refl 1
  | first :: second :: rest =>
      -- the second of them is still active, so neither alternative can hold of it
      obtain ⟨kept, other⟩ := passed_over claimed active (List.mem_cons_self (a := second))
      obtain ⟨present, target, stillActive⟩ := mem_activeRuns.1
        (active ▸ List.mem_cons_of_mem first (List.mem_cons_self (a := second) (l := rest)))
      rcases cleared second.1 second.2 present target stillActive other with ⟨_, failed⟩ | gone
      · rw [kept] at failed
        exact absurd (Option.some.inj failed) (active_status stillActive).1
      · exact absurd ⟨second.2, kept, stillActive⟩ gone

/-! ### A worker gone silent, and a turn typed into its console -/

def channelRun (status : String) (requestedAt : Nat) (claim : Option (String × Nat)) : Run :=
  ⟨"coder", status, "start_if_possible", "channel", "", "claude-code", "", (claim.map (·.1)).getD "",
    "", "", "", false, false, requestedAt, claim.map (·.2), none, none⟩

/-- `run_a` was claimed by a bridge last seen at 20 s; `run_q` waits. -/
def silentWorker : Db where
  runs := (Dict.empty.set "run_a" (channelRun "claimed" 5 (some ("bridge_old", 10)))).set
    "run_q" (channelRun "queued" 900 none)
  bridges := [⟨"bridge_old", "coder", 20, "", "channel-sidecar"⟩]
  controls := []
  events := []

/-- The operator types a message into the agent's console at 1000 s. -/
def typedTurn : Db :=
  recordTerminalDeliveryContract silentWorker "run_t" "coder" "claude" "term_1" "ctl_1" "msg_1" 1000

def newBridge : ClaimRequest := ⟨"coder", some "linux:pc", some "bridge_new", ["channel", "resident"]⟩

def at1100 : Circumstances where
  now := 1100000
  activeRunStaleMinutes := 30
  turnedAway := none
  consoleOwner := none
  view := some ⟨true, false⟩
  capabilities := []
  agentRuntime := "claude-code"
  executionMode := fun _ => (some "channel", none)

theorem claim_settles_active_runs_silent_worker :
    ∃ after, claimDispatchOnce silentWorker newBridge at1100 = (after, .handedOut "run_q") ∧
      (silentWorker.activeRuns "coder").map Prod.fst = ["run_a"] ∧
      Settled silentWorker after newBridge at1100 "run_a"
        (channelRun "claimed" 5 (some ("bridge_old", 10))) := by
  have claimed : claimDispatchOnce silentWorker newBridge at1100 =
      ((claimDispatchOnce silentWorker newBridge at1100).1, .handedOut "run_q") :=
    Prod.ext rfl (by decide)
  have single : (silentWorker.activeRuns newBridge.agentId).map Prod.fst = ["run_a"] := by
    decide
  have few : (silentWorker.activeRuns newBridge.agentId).length ≤ 1 := by decide
  refine ⟨_, claimed, single, ?_⟩
  exact (claim_settles_active_runs _ _ _ _ _ claimed).2 few "run_a" _ (by decide)
    (by decide) (by decide)

/-- The stale run is failed, and the run typed a hundred seconds ago, which the
rule protects for half an hour, goes on beside the one handed out. -/
theorem protected_run_passed_over :
    ∃ run after, typedTurn.runs.get? "run_t" = some run ∧ run.targetAgent = newBridge.agentId ∧
      run.active = true ∧ (activeRunBlock typedTurn newBridge at1100 "run_t" run).isSome = true ∧
      claimDispatchOnce typedTurn newBridge at1100 = (after, .handedOut "run_q") ∧
      ¬ (Settled typedTurn after newBridge at1100 "run_t" run ∨ ¬ CountsAsActive after "run_t") := by
  have claimed : claimDispatchOnce typedTurn newBridge at1100 =
      ((claimDispatchOnce typedTurn newBridge at1100).1, .handedOut "run_q") :=
    Prod.ext rfl (by decide)
  have typed : typedTurn.runs.get? "run_t" = some
      ⟨"coder", "running", "terminal", "managed", "", "claude-code", "", "", "", "", "", false, false,
        1000, none, some 1000, none⟩ := by
    decide
  have kept : (claimDispatchOnce typedTurn newBridge at1100).1.runs.get? "run_t" =
      typedTurn.runs.get? "run_t" := by
    decide
  refine ⟨_, _, typed, rfl, by decide, by decide, claimed, ?_⟩
  rintro (⟨_, failed⟩ | gone)
  · rw [kept, typed] at failed
    exact absurd (Option.some.inj failed) (by decide)
  · exact gone ⟨_, kept.trans typed, by decide⟩

end AifyComms.DispatchClaim
