import AifyComms.Attempts
import Mathlib.Data.List.Nodup

/-!
The controls of a run that is executing, `processRunControls` of `run-controls.mjs`: every
control that is not a steer is applied and reported by itself, and the steers together.

What the runtime's controller and the service answer is given: the outcome of the interrupt
made for each control, of the one steer, and of each report. No report is sent twice, so its
outcome is a function of the report.
-/

namespace AifyComms.RunControls
open Attempts

structure Control where
  id : String
  action : String
  body : String
  deriving DecidableEq

/-- The live controller: `none` is a method the runtime does not have, and a call gives
`none` when it was applied, or the error it threw. -/
structure Controller where
  interruptCapability : Bool
  interrupt : Option (String → Option String)
  steerCapability : Bool
  steer : Option (String → Option String)

structure ActiveRun where
  runId : String
  controller : Option Controller

inductive Status where
  | completed
  | failed
  deriving DecidableEq

structure Report where
  id : String
  status : Status
  response : String
  handledBy : String
  machineId : String
  deriving DecidableEq

/-- Who handles the controls: the ids that go into every report. -/
structure Handler where
  agentId : String
  machineId : String

def Handler.report (handler : Handler) (control : Control) (status : Status)
    (response : String) : Report :=
  ⟨control.id, status, response, handler.agentId, handler.machineId⟩

/-- What happened so far: the controls whose action was applied, and the reports sent. -/
structure Handling where
  applied : List String
  sent : List Report

def applyInterrupt (controller : Controller) (control : Control) : Option String :=
  match controller.interruptCapability, controller.interrupt with
  | true, some interrupt => interrupt control.id
  | _, _ => some "Interrupt is not supported by this runtime"

def applySteer (controller : Controller) (body : String) : Option String :=
  match controller.steerCapability, controller.steer with
  | true, some steer => steer body
  | _, _ => some "Steer is not supported by this runtime"

/-- The first half of the loop's `try`: `none`, or the error it throws. -/
def applyControl (controller : Controller) (control : Control) : Option String :=
  if control.action = "interrupt" then applyInterrupt controller control
  else if control.action = "steer" then applySteer controller control.body
  else some ("Unknown control action \"" ++ control.action ++ "\"")

section
variable (handler : Handler) (controller : Controller) (answers : Report → Option String)

def reportFailed (handling : Handling) (control : Control) (error : String) :
    Handling × Option String :=
  let report := handler.report control .failed error
  ({ handling with sent := handling.sent ++ [report] }, answers report)

/-- One turn of the loop over the other controls. The report of success stands in the same
`try` as the action, so its error is reported as the action's. -/
def settleControl (handling : Handling) (control : Control) : Handling × Option String :=
  match applyControl controller control with
  | some error => reportFailed handler answers handling control error
  | none =>
      let report := handler.report control .completed (control.action ++ " accepted")
      let handling :=
        ⟨handling.applied ++ [control.id], handling.sent ++ [report]⟩
      match answers report with
      | none => (handling, none)
      | some error => reportFailed handler answers handling control error

def settleEach (handling : Handling) : List Control → Handling × Option String
  | [] => (handling, none)
  | control :: rest =>
      match settleControl handler controller answers handling control with
      | (handling, some error) => (handling, some error)
      | (handling, none) => settleEach handling rest

end

def steerHeader (index count : Nat) : String :=
  "--- Steer " ++ toString (index + 1) ++ " of " ++ toString count ++ " ---"

def steerEnvelope (steers : List Control) : List String :=
  ["[AIFY STEER BATCH]",
    toString steers.length ++
      " messages arrived while this run was active. Apply them to the current turn in order.",
    ""] ++
  steers.mapIdx (fun index control => steerHeader index steers.length ++ "\n" ++ control.body) ++
  ["[/AIFY STEER BATCH]"]

def steerBody : List Control → String
  | [control] => control.body
  | steers => "\n\n".intercalate (steerEnvelope steers)

def steerResponse (steers : List Control) : String :=
  if steers.length = 1 then "steer accepted"
  else "batched steer accepted (" ++ toString steers.length ++ ")"

section
variable (handler : Handler) (controller : Controller) (answers : Report → Option String)

def steersFailed (steers : List Control) (error : String) : List Report :=
  steers.map fun control => handler.report control .failed error

def steersCompleted (steers : List Control) : List Report :=
  steers.map fun control => handler.report control .completed (steerResponse steers)

/-- The steers: one `try` around the steer and every report of its success. -/
def settleSteers (handling : Handling) (steers : List Control) : Handling × Option String :=
  if steers = [] then (handling, none)
  else
    match applySteer controller (steerBody steers) with
    | some error =>
        let result := sendEach answers handling.sent (steersFailed handler steers error)
        ({ handling with sent := result.1 }, result.2)
    | none =>
        let applied := handling.applied ++ steers.map Control.id
        match sendEach answers handling.sent (steersCompleted handler steers) with
        | (sent, none) => (⟨applied, sent⟩, none)
        | (sent, some error) =>
            let result := sendEach answers sent (steersFailed handler steers error)
            (⟨applied, result.1⟩, result.2)

def isSteer (control : Control) : Bool := control.action = "steer"

def settleControls (controls : List Control) : Handling × Option String :=
  let steerControls := controls.filter isSteer
  let otherControls := controls.filter fun control => !isSteer control
  match settleEach handler controller answers ⟨[], []⟩ otherControls with
  | (handling, some error) => (handling, some error)
  | (handling, none) => settleSteers handler controller answers handling steerControls

end

/-- The answer of `/dispatch/controls/claim` is an error or the claimed controls. -/
def processRunControls (handler : Handler) (activeRun : ActiveRun)
    (claim : Except String (List Control)) (answers : Report → Option String) :
    Handling × Option String :=
  match activeRun.controller with
  | none => (⟨[], []⟩, none)
  | some controller =>
      if activeRun.runId = "" then (⟨[], []⟩, none)
      else match claim with
        | .error error => (⟨[], []⟩, some error)
        | .ok controls => settleControls handler controller answers controls

/-- The controls of one claim: rows of a table, each with its own id. -/
structure Claimed where
  controls : List Control
  distinct : (controls.map Control.id).Nodup

def Handling.Attempted (handling : Handling) (control : Control) : Prop :=
  ∃ report ∈ handling.sent, report.id = control.id

def Handling.ReportedFailed (handling : Handling) (control : Control) : Prop :=
  ∃ report ∈ handling.sent, report.id = control.id ∧ report.status = .failed

/-- Every control has a report, and none that was applied is reported failed. -/
def Handling.Answers (handling : Handling) (controls : List Control) : Prop :=
  ∀ control ∈ controls, handling.Attempted control ∧
    ¬ (control.id ∈ handling.applied ∧ handling.ReportedFailed control)

section
variable (handler : Handler) (controller : Controller) (answers : Report → Option String)

/-- The report that is true of a control outside the batch. -/
def dueReport (control : Control) : Report :=
  match applyControl controller control with
  | none => handler.report control .completed (control.action ++ " accepted")
  | some error => handler.report control .failed error

def dueSteers (steers : List Control) : List Report :=
  match applySteer controller (steerBody steers) with
  | none => steersCompleted handler steers
  | some error => steersFailed handler steers error

/-- The reports that are true of a list of controls, in the order they are handled. -/
def dueReports (controls : List Control) : List Report :=
  (controls.filter fun control => !isSteer control).map (dueReport handler controller) ++
    dueSteers handler controller (controls.filter isSteer)

/-- The reports of success all pass, and of the others only the last may be refused. -/
def ReportsPass (controls : List Control) : Prop :=
  (∀ report ∈ dueReports handler controller controls,
      report.status = .completed → answers report = none) ∧
    ∀ report ∈ (dueReports handler controller controls).dropLast, answers report = none

end

section Due
variable {handler : Handler} {controller : Controller} {answers : Report → Option String}

@[simp] theorem report_id (control : Control) (status : Status) (response : String) :
    (handler.report control status response).id = control.id := rfl

@[simp] theorem report_status (control : Control) (status : Status) (response : String) :
    (handler.report control status response).status = status := rfl

@[simp] theorem dueReport_id (control : Control) :
    (dueReport handler controller control).id = control.id := by
  unfold dueReport
  split <;> rfl

theorem dueSteers_ids (steers : List Control) :
    (dueSteers handler controller steers).map Report.id = steers.map Control.id := by
  unfold dueSteers
  split <;> simp [steersCompleted, steersFailed, Function.comp_def]

theorem dueReports_ids (controls : List Control) :
    (dueReports handler controller controls).map Report.id =
      (controls.filter fun control => !isSteer control).map Control.id ++
        (controls.filter isSteer).map Control.id := by
  simp [dueReports, dueSteers_ids, Function.comp_def]

theorem dueReports_distinct (claim : Claimed) :
    ((dueReports handler controller claim.controls).map Report.id).Nodup := by
  rw [dueReports_ids, ← List.map_append]
  have order := List.filter_append_perm isSteer claim.controls
  exact ((List.perm_append_comm.trans order).map Control.id).nodup_iff.mpr claim.distinct

/-- Where the report of success passes, one turn of the loop sends the due report alone. -/
theorem settleControl_of_passed {control : Control}
    (passed : applyControl controller control = none →
      answers (dueReport handler controller control) = none) (handling : Handling) :
    (settleControl handler controller answers handling control).1.sent =
        handling.sent ++ [dueReport handler controller control] ∧
      (settleControl handler controller answers handling control).2 =
        answers (dueReport handler controller control) := by
  cases outcome : applyControl controller control with
  | some error => simp [settleControl, reportFailed, dueReport, outcome]
  | none =>
      have quiet := passed outcome
      simp only [dueReport, outcome] at quiet
      simp [settleControl, dueReport, outcome, quiet]

theorem settleEach_of_passed (others : List Control)
    (passed : ∀ control ∈ others, applyControl controller control = none →
      answers (dueReport handler controller control) = none) (handling : Handling) :
    ((settleEach handler controller answers handling others).1.sent,
      (settleEach handler controller answers handling others).2) =
        sendEach answers handling.sent (others.map (dueReport handler controller)) := by
  induction others generalizing handling with
  | nil => rfl
  | cons control rest ih =>
      obtain ⟨sent, thrown⟩ :=
        settleControl_of_passed (passed control (List.mem_cons_self ..)) handling
      have later := fun handling =>
        ih (fun other member => passed other (List.mem_cons_of_mem _ member)) handling
      simp only [settleEach, List.map_cons, sendEach_cons]
      generalize settleControl handler controller answers handling control = result at sent thrown
      obtain ⟨after, error⟩ := result
      dsimp only at sent thrown
      subst thrown
      cases refused : answers (dueReport handler controller control) with
      | some error => simp [sent]
      | none => simpa [sent] using later after

end Due

section Growth
variable (handler : Handler) (controller : Controller) (answers : Report → Option String)

/-- Whatever is refused, the handling so far stays and only the control itself is added. -/
theorem settleControl_grows (handling : Handling) (control : Control) :
    ∃ made ids, (settleControl handler controller answers handling control).1 =
        ⟨handling.applied ++ ids, handling.sent ++ made⟩ ∧
      (∀ report ∈ made, report.id = control.id) ∧
      ∀ id ∈ ids, id = control.id ∧ applyControl controller control = none := by
  cases outcome : applyControl controller control with
  | some error =>
      exact ⟨[handler.report control .failed error], [],
        by simp [settleControl, reportFailed, outcome], by simp, by simp⟩
  | none =>
      let completed := handler.report control .completed (control.action ++ " accepted")
      cases refused : answers completed with
      | none =>
          exact ⟨[completed], [control.id],
            by simp [settleControl, outcome, completed, show answers _ = none from refused],
            by simp [completed], by simp⟩
      | some error =>
          exact ⟨[completed, handler.report control .failed error], [control.id],
            by simp [settleControl, reportFailed, outcome, completed,
              show answers _ = some error from refused],
            by simp [completed], by simp⟩

theorem settleEach_grows (handling : Handling) (others : List Control) :
    ∃ made ids, (settleEach handler controller answers handling others).1 =
        ⟨handling.applied ++ ids, handling.sent ++ made⟩ ∧
      (∀ report ∈ made, report.id ∈ others.map Control.id) ∧
      ∀ id ∈ ids, ∃ control ∈ others, control.id = id ∧
        applyControl controller control = none := by
  induction others generalizing handling with
  | nil => exact ⟨[], [], by simp [settleEach], by simp, by simp⟩
  | cons control rest ih =>
      obtain ⟨made, ids, first, ofControl, applied⟩ :=
        settleControl_grows handler controller answers handling control
      have here : ∀ report ∈ made, report.id ∈ (control :: rest).map Control.id := by
        intro report member
        simp [ofControl report member]
      have appliedHere : ∀ id ∈ ids, ∃ other ∈ control :: rest, other.id = id ∧
          applyControl controller other = none := by
        intro id member
        exact ⟨control, List.mem_cons_self .., (applied id member).1.symm, (applied id member).2⟩
      simp only [settleEach]
      generalize settleControl handler controller answers handling control = result at first
      obtain ⟨after, error⟩ := result
      dsimp only at first
      subst first
      cases error with
      | some error => exact ⟨made, ids, rfl, here, appliedHere⟩
      | none =>
          obtain ⟨more, moreIds, later, ofRest, appliedLater⟩ :=
            ih ⟨handling.applied ++ ids, handling.sent ++ made⟩
          refine ⟨made ++ more, ids ++ moreIds, by simp [later], ?_, ?_⟩
          · intro report member
            rcases List.mem_append.mp member with early | late
            · exact here report early
            · exact List.mem_cons_of_mem _ (ofRest report late)
          · intro id member
            rcases List.mem_append.mp member with early | late
            · exact appliedHere id early
            · obtain ⟨other, inRest, named⟩ := appliedLater id late
              exact ⟨other, List.mem_cons_of_mem _ inRest, named⟩

theorem settleSteers_grows (handling : Handling) (steers : List Control) :
    ∃ made ids, (settleSteers handler controller answers handling steers).1 =
        ⟨handling.applied ++ ids, handling.sent ++ made⟩ ∧
      ∀ id ∈ ids, id ∈ steers.map Control.id ∧
        applySteer controller (steerBody steers) = none := by
  unfold settleSteers
  split
  · exact ⟨[], [], by simp, by simp⟩
  · cases outcome : applySteer controller (steerBody steers) with
    | some error =>
        obtain ⟨made, -, sent⟩ := sendEach_sent answers handling.sent
          (steersFailed handler steers error)
        exact ⟨made, [], by simp [sent], by simp⟩
    | none =>
        obtain ⟨made, -, sent⟩ := sendEach_sent answers handling.sent
          (steersCompleted handler steers)
        generalize sendEach answers handling.sent (steersCompleted handler steers) = result at sent
        obtain ⟨after, error⟩ := result
        dsimp only at sent
        subst sent
        cases error with
        | none => exact ⟨made, steers.map Control.id, rfl, fun id member => ⟨member, rfl⟩⟩
        | some error =>
            obtain ⟨more, -, again⟩ := sendEach_sent answers (handling.sent ++ made)
              (steersFailed handler steers error)
            exact ⟨made ++ more, steers.map Control.id, by simp [again],
              fun id member => ⟨member, rfl⟩⟩

end Growth

section Refused
variable {handler : Handler} {controller : Controller} {answers : Report → Option String}

theorem settleControl_of_refused {control : Control}
    (applied : applyControl controller control = none)
    (refused : answers (dueReport handler controller control) ≠ none) (handling : Handling) :
    control.id ∈ (settleControl handler controller answers handling control).1.applied ∧
      (settleControl handler controller answers handling control).1.ReportedFailed control := by
  obtain ⟨error, thrown⟩ := Option.ne_none_iff_exists'.mp refused
  simp only [dueReport, applied] at thrown
  simp only [settleControl, applied, reportFailed, thrown, Handling.ReportedFailed]
  exact ⟨by simp, handler.report control .failed error, by simp, rfl, rfl⟩

theorem settleEach_keeps {handling : Handling} {control : Control}
    (wrong : control.id ∈ handling.applied ∧ handling.ReportedFailed control)
    (others : List Control) :
    control.id ∈ (settleEach handler controller answers handling others).1.applied ∧
      (settleEach handler controller answers handling others).1.ReportedFailed control := by
  obtain ⟨made, ids, grown, -, -⟩ := settleEach_grows handler controller answers handling others
  obtain ⟨applied, report, sent, named⟩ := wrong
  rw [grown]
  exact ⟨List.mem_append_left _ applied, report, List.mem_append_left _ sent, named⟩

/-- A refused report of success: either the control is reported failed, or the loop gave up
before it came to the control. -/
theorem settleEach_of_refused {others : List Control} {control : Control}
    (member : control ∈ others) (distinct : (others.map Control.id).Nodup)
    (applied : applyControl controller control = none)
    (refused : answers (dueReport handler controller control) ≠ none) (handling : Handling)
    (fresh : ¬ handling.Attempted control) :
    (control.id ∈ (settleEach handler controller answers handling others).1.applied ∧
        (settleEach handler controller answers handling others).1.ReportedFailed control) ∨
      ((settleEach handler controller answers handling others).2 ≠ none ∧
        ¬ (settleEach handler controller answers handling others).1.Attempted control) := by
  induction others generalizing handling with
  | nil => cases member
  | cons first rest ih =>
      obtain ⟨made, ids, grown, ofFirst, -⟩ :=
        settleControl_grows handler controller answers handling first
      obtain ⟨newId, distinctRest⟩ := List.nodup_cons.mp distinct
      simp only [settleEach]
      rcases List.mem_cons.mp member with rfl | inRest
      · have wrong := settleControl_of_refused applied refused handling
        generalize settleControl handler controller answers handling control = result at wrong
        obtain ⟨after, error⟩ := result
        cases error with
        | some error => exact .inl wrong
        | none => exact .inl (settleEach_keeps wrong rest)
      · have other : first.id ≠ control.id := fun same =>
          newId (same ▸ List.mem_map_of_mem inRest)
        have stillFresh :
            ¬ (Handling.mk (handling.applied ++ ids) (handling.sent ++ made)).Attempted control := by
          rintro ⟨report, sent, named⟩
          rcases List.mem_append.mp sent with early | late
          · exact fresh ⟨report, early, named⟩
          · exact other ((ofFirst report late).symm.trans named)
        generalize settleControl handler controller answers handling first = result at grown
        obtain ⟨after, error⟩ := result
        dsimp only at grown
        subst grown
        cases error with
        | some error => exact .inr ⟨by simp, stillFresh⟩
        | none => exact ih inRest distinctRest _ stillFresh

theorem settleSteers_of_passed (steers : List Control)
    (passed : applySteer controller (steerBody steers) = none →
      ∀ report ∈ steersCompleted handler steers, answers report = none) (handling : Handling) :
    ((settleSteers handler controller answers handling steers).1.sent,
      (settleSteers handler controller answers handling steers).2) =
        sendEach answers handling.sent (dueSteers handler controller steers) := by
  unfold settleSteers
  split
  · rename_i empty
    subst empty
    cases outcome : applySteer controller (steerBody []) <;>
      simp [dueSteers, outcome, steersCompleted, steersFailed]
  · cases outcome : applySteer controller (steerBody steers) with
    | some error => simp [dueSteers, outcome]
    | none => simp [dueSteers, outcome, sendEach_of_passed (passed outcome)]

/-- A steer that was applied and one of whose reports is refused: its first control is
reported failed. -/
theorem settleSteers_of_refused {first : Control} {rest : List Control}
    (applied : applySteer controller (steerBody (first :: rest)) = none)
    (refused : ¬ ∀ report ∈ steersCompleted handler (first :: rest), answers report = none)
    (handling : Handling) :
    first.id ∈ (settleSteers handler controller answers handling (first :: rest)).1.applied ∧
      (settleSteers handler controller answers handling (first :: rest)).1.ReportedFailed first := by
  have thrown : (sendEach answers handling.sent (steersCompleted handler (first :: rest))).2 ≠
      none := fun quiet => refused (passed_of_sendEach _ quiet)
  simp only [settleSteers, reduceCtorEq, if_false, applied]
  generalize sendEach answers handling.sent (steersCompleted handler (first :: rest)) = result
    at thrown
  obtain ⟨sent, error⟩ := result
  cases error with
  | none => exact absurd rfl thrown
  | some error =>
      refine ⟨by simp, handler.report first .failed error, ?_, rfl, rfl⟩
      simp only [steersFailed, List.map_cons, sendEach_cons]
      cases again : answers (handler.report first .failed error) with
      | some another => simp
      | none =>
          obtain ⟨made, -, all⟩ := sendEach_sent answers
            (sent ++ [handler.report first .failed error])
            (rest.map fun control => handler.report control .failed error)
          simp [all]

end Refused

section Whole
variable {handler : Handler} {controller : Controller} {answers : Report → Option String}

/-- With every report of success passing, the due reports are sent in their order. -/
theorem settleControls_of_passed {controls : List Control}
    (passed : ∀ report ∈ dueReports handler controller controls,
      report.status = .completed → answers report = none) :
    ((settleControls handler controller answers controls).1.sent,
      (settleControls handler controller answers controls).2) =
        sendEach answers [] (dueReports handler controller controls) := by
  have othersPass : ∀ control ∈ controls.filter fun control => !isSteer control,
      applyControl controller control = none →
        answers (dueReport handler controller control) = none := by
    intro control member outcome
    apply passed
    · exact List.mem_append_left _ (List.mem_map_of_mem member)
    · simp [dueReport, outcome]
  have steersPass : applySteer controller (steerBody (controls.filter isSteer)) = none →
      ∀ report ∈ steersCompleted handler (controls.filter isSteer), answers report = none := by
    intro outcome report member
    apply passed report
    · exact List.mem_append_right _ (by simpa [dueSteers, outcome] using member)
    · simp only [steersCompleted, List.mem_map] at member
      obtain ⟨control, -, rfl⟩ := member
      rfl
  have steers := settleSteers_of_passed (controls.filter isSteer) steersPass
  rw [dueReports, sendEach_append, ← settleEach_of_passed _ othersPass ⟨[], []⟩]
  simp only [settleControls]
  generalize settleEach handler controller answers ⟨[], []⟩
    (controls.filter fun control => !isSteer control) = result
  obtain ⟨handling, error⟩ := result
  cases error with
  | some error => simp
  | none => simpa using steers handling

theorem mem_handled {controls : List Control} {control : Control} (member : control ∈ controls) :
    control ∈ (controls.filter fun control => !isSteer control) ∨
      control ∈ controls.filter isSteer := by
  cases kind : isSteer control <;> simp [member, kind]

/-- An applied control is one whose due report says so. -/
theorem applied_due {claim : Claimed} {id : String}
    (applied : id ∈ (settleControls handler controller answers claim.controls).1.applied) :
    ∃ report ∈ dueReports handler controller claim.controls,
      report.id = id ∧ report.status = .completed := by
  obtain ⟨made, ids, grown, -, appliedOthers⟩ := settleEach_grows handler controller answers
    ⟨[], []⟩ (claim.controls.filter fun control => !isSteer control)
  have ofOthers : ∀ id ∈ ids, ∃ report ∈ dueReports handler controller claim.controls,
      report.id = id ∧ report.status = .completed := by
    intro id member
    obtain ⟨control, inOthers, rfl, outcome⟩ := appliedOthers id member
    exact ⟨dueReport handler controller control,
      List.mem_append_left _ (List.mem_map_of_mem inOthers), by simp, by simp [dueReport, outcome]⟩
  simp only [settleControls] at applied
  generalize settleEach handler controller answers ⟨[], []⟩
    (claim.controls.filter fun control => !isSteer control) = result at grown applied
  obtain ⟨handling, error⟩ := result
  dsimp only at grown
  subst grown
  cases error with
  | some error => exact ofOthers id (by simpa using applied)
  | none =>
      obtain ⟨more, moreIds, steered, appliedSteers⟩ := settleSteers_grows handler controller
        answers ⟨[] ++ ids, [] ++ made⟩ (claim.controls.filter isSteer)
      dsimp only at applied
      rw [steered] at applied
      rcases List.mem_append.mp applied with early | late
      · exact ofOthers id (by simpa using early)
      · obtain ⟨named, outcome⟩ := appliedSteers id late
        obtain ⟨control, inSteers, rfl⟩ := List.mem_map.mp named
        refine ⟨handler.report control .completed
          (steerResponse (claim.controls.filter isSteer)), ?_, rfl, rfl⟩
        apply List.mem_append_right
        simp only [dueSteers, outcome, steersCompleted]
        exact List.mem_map_of_mem inSteers

/-- The reports sent are the due ones up to some control, so a report for every control means
that all of them were sent. -/
theorem whole_of_attempted {claim : Claimed} {made : List Report}
    (early : made <+: dueReports handler controller claim.controls)
    (attempted : ∀ control ∈ claim.controls, ∃ report ∈ made, report.id = control.id) :
    made = dueReports handler controller claim.controls := by
  obtain ⟨rest, whole⟩ := early
  have distinct : ((dueReports handler controller claim.controls).map Report.id).Nodup :=
    dueReports_distinct claim
  cases rest with
  | nil => simpa using whole
  | cons missing later =>
      exfalso
      have due : missing.id ∈ (dueReports handler controller claim.controls).map Report.id := by
        rw [← whole]
        simp
      rw [dueReports_ids, ← List.map_append] at due
      obtain ⟨control, handled, named⟩ := List.mem_map.mp due
      have member : control ∈ claim.controls := by
        rcases List.mem_append.mp handled with other | steer
        · exact List.mem_of_mem_filter other
        · exact List.mem_of_mem_filter steer
      obtain ⟨report, sent, same⟩ := attempted control member
      rw [← whole, List.map_append, List.map_cons] at distinct
      have apart := (List.nodup_append.mp distinct).2.2 report.id (List.mem_map_of_mem sent)
        missing.id (List.mem_cons_self ..)
      exact apart (same.trans named)

theorem answers_of_pass {claim : Claimed}
    (pass : ReportsPass handler controller answers claim.controls) :
    (settleControls handler controller answers claim.controls).1.Answers claim.controls := by
  have sent : (settleControls handler controller answers claim.controls).1.sent =
      dueReports handler controller claim.controls := by
    have all := (sendEach_whole_iff answers [] _).mpr pass.2
    rw [← settleControls_of_passed pass.1] at all
    simpa using all
  intro control member
  constructor
  · have due : control.id ∈ (dueReports handler controller claim.controls).map Report.id := by
      rw [dueReports_ids, ← List.map_append]
      exact List.mem_map_of_mem (List.mem_append.mpr (mem_handled member))
    obtain ⟨report, inDue, named⟩ := List.mem_map.mp due
    exact ⟨report, sent ▸ inDue, named⟩
  · rintro ⟨applied, report, inSent, named, failed⟩
    obtain ⟨true', inDue, trueNamed, completed⟩ := applied_due applied
    have same : report = true' := List.inj_on_of_nodup_map (dueReports_distinct claim)
      (sent ▸ inSent) inDue (named.trans trueNamed.symm)
    rw [same, completed] at failed
    cases failed

/-- What is reported wrongly in the loop over the others stays so to the end. -/
theorem settleControls_keeps {controls : List Control} {control : Control}
    (wrong : control.id ∈ (settleEach handler controller answers ⟨[], []⟩
        (controls.filter fun control => !isSteer control)).1.applied ∧
      (settleEach handler controller answers ⟨[], []⟩
        (controls.filter fun control => !isSteer control)).1.ReportedFailed control) :
    control.id ∈ (settleControls handler controller answers controls).1.applied ∧
      (settleControls handler controller answers controls).1.ReportedFailed control := by
  simp only [settleControls]
  generalize settleEach handler controller answers ⟨[], []⟩
    (controls.filter fun control => !isSteer control) = result at wrong
  obtain ⟨handling, error⟩ := result
  cases error with
  | some error => exact wrong
  | none =>
      obtain ⟨made, ids, grown, -⟩ := settleSteers_grows handler controller answers handling
        (controls.filter isSteer)
      obtain ⟨applied, report, sent, named⟩ := wrong
      dsimp only
      rw [grown]
      exact ⟨List.mem_append_left _ applied, report, List.mem_append_left _ sent, named⟩

theorem others_pass {claim : Claimed}
    (honest : (settleControls handler controller answers claim.controls).1.Answers
      claim.controls) {control : Control}
    (member : control ∈ claim.controls.filter fun control => !isSteer control)
    (outcome : applyControl controller control = none) :
    answers (dueReport handler controller control) = none := by
  by_contra refused
  have distinct : ((claim.controls.filter fun control => !isSteer control).map Control.id).Nodup :=
    claim.distinct.sublist (List.filter_sublist.map Control.id)
  obtain ⟨attempted, truthful⟩ := honest control (List.mem_of_mem_filter member)
  rcases settleEach_of_refused member distinct outcome refused ⟨[], []⟩
    (by simp [Handling.Attempted]) with wrong | ⟨thrown, silent⟩
  · exact truthful (settleControls_keeps wrong)
  · apply silent
    simp only [settleControls] at attempted
    generalize settleEach handler controller answers ⟨[], []⟩
      (claim.controls.filter fun control => !isSteer control) = result at attempted thrown
    obtain ⟨handling, error⟩ := result
    cases error with
    | some error => exact attempted
    | none => exact absurd rfl thrown

theorem steers_pass {claim : Claimed}
    (honest : (settleControls handler controller answers claim.controls).1.Answers
      claim.controls)
    (outcome : applySteer controller (steerBody (claim.controls.filter isSteer)) = none) :
    ∀ report ∈ steersCompleted handler (claim.controls.filter isSteer),
      answers report = none := by
  by_contra refused
  cases steers : claim.controls.filter isSteer with
  | nil =>
      rw [steers] at refused
      exact refused (by simp [steersCompleted])
  | cons first rest =>
      have inSteers : first ∈ claim.controls.filter isSteer := by simp [steers]
      rw [steers] at refused outcome
      obtain ⟨attempted, truthful⟩ := honest first (List.mem_of_mem_filter inSteers)
      obtain ⟨made, ids, grown, ofOthers, -⟩ := settleEach_grows handler controller answers
        ⟨[], []⟩ (claim.controls.filter fun control => !isSteer control)
      simp only [settleControls, steers] at attempted truthful
      generalize settleEach handler controller answers ⟨[], []⟩
        (claim.controls.filter fun control => !isSteer control) = result
        at attempted truthful grown
      obtain ⟨handling, error⟩ := result
      cases error with
      | none => exact truthful (settleSteers_of_refused outcome refused handling)
      | some error =>
          -- The loop over the others gave up, so no steer was reported.
          dsimp only at grown attempted
          subst grown
          obtain ⟨report, sent, named⟩ := attempted
          obtain ⟨other, inOthers, same⟩ := List.mem_map.mp (ofOthers report (by simpa using sent))
          have equal : other = first := List.inj_on_of_nodup_map claim.distinct
            (List.mem_of_mem_filter inOthers) (List.mem_of_mem_filter inSteers)
            (same.trans named)
          subst equal
          have kind := List.of_mem_filter inSteers
          have notKind := List.of_mem_filter inOthers
          simp [kind] at notKind

theorem pass_of_answers {claim : Claimed}
    (honest : (settleControls handler controller answers claim.controls).1.Answers
      claim.controls) : ReportsPass handler controller answers claim.controls := by
  have completions : ∀ report ∈ dueReports handler controller claim.controls,
      report.status = .completed → answers report = none := by
    intro report due completed
    rcases List.mem_append.mp due with other | steer
    · obtain ⟨control, member, rfl⟩ := List.mem_map.mp other
      cases outcome : applyControl controller control with
      | none => exact others_pass honest member outcome
      | some error => simp [dueReport, outcome] at completed
    · cases outcome : applySteer controller (steerBody (claim.controls.filter isSteer)) with
      | none => exact steers_pass honest outcome report (by simpa [dueSteers, outcome] using steer)
      | some error =>
          simp only [dueSteers, outcome, steersFailed, List.mem_map] at steer
          obtain ⟨control, -, rfl⟩ := steer
          cases completed
  constructor
  · exact completions
  · have sends := settleControls_of_passed completions
    obtain ⟨made, early, sent⟩ := sendEach_sent answers []
      (dueReports handler controller claim.controls)
    have whole := whole_of_attempted early fun control member => by
      obtain ⟨report, inSent, named⟩ := (honest control member).1
      have same : (settleControls handler controller answers claim.controls).1.sent = made := by
        rw [← sends] at sent
        simpa using sent
      exact ⟨report, same ▸ inSent, named⟩
    rw [whole] at sent
    exact (sendEach_whole_iff answers [] _).mp sent

end Whole

/-- Every claimed control is answered truly exactly when the reports of success all pass and
of the reports of failure only the last one sent may be refused. -/
theorem controls_answered_iff_reports_pass (handler : Handler) (runId : String)
    (controller : Controller) (claim : Claimed) (answers : Report → Option String)
    (running : runId ≠ "") :
    (processRunControls handler ⟨runId, some controller⟩ (.ok claim.controls) answers).1.Answers
        claim.controls ↔
      ReportsPass handler controller answers claim.controls := by
  simp only [processRunControls, running, if_false]
  exact ⟨pass_of_answers, answers_of_pass⟩

/-- A runtime that steers and interrupts. -/
def steerable : Controller := ⟨true, some fun _ => none, true, some fun _ => none⟩

def worker : Handler := ⟨"worker", "machine"⟩

/-- Two steers of one batch. -/
def steerPair : Claimed where
  controls := [⟨"c1", "steer", "first"⟩, ⟨"c2", "steer", "second"⟩]
  distinct := by decide

theorem steer_pair_answered :
    (processRunControls worker ⟨"run", some steerable⟩ (.ok steerPair.controls)
      fun _ => none).1.Answers steerPair.controls :=
  (controls_answered_iff_reports_pass worker "run" steerable steerPair (fun _ => none)
    (by decide)).mpr ⟨fun _ _ _ => rfl, fun _ _ => rfl⟩

/-- The service refuses the report that the second steer succeeded. -/
def refusesSecond (report : Report) : Option String :=
  if report.id = "c2" ∧ report.status = .completed then some "HTTP 500" else none

/-- Both steers reached the model in one call, and the first, already reported completed, is
reported failed because the report of the second was refused. -/
theorem applied_steers_reported_failed :
    ¬ (processRunControls worker ⟨"run", some steerable⟩ (.ok steerPair.controls)
      refusesSecond).1.Answers steerPair.controls := by
  intro honest
  have first := (honest ⟨"c1", "steer", "first"⟩ (by decide)).2
  apply first
  constructor
  · decide
  · exact ⟨worker.report ⟨"c1", "steer", "first"⟩ .failed "HTTP 500", by decide, rfl, rfl⟩

end AifyComms.RunControls
