import Mathlib.Logic.Function.Basic

/-!
Runs of a system whose step is a partial function of a state and a label. A
label names which party moves and with what input, so an interleaving is a
list of labels. `allowed` restricts a run step by step: it is read in the
state before the step, never in the state the step produces.
-/

namespace AifyComms.Runs

universe u v
variable {State : Type u} {Label : Type v}

inductive Reaches (step : State → Label → Option State) (allowed : State → Label → Prop)
    (start : State) : State → Prop where
  | refl : Reaches step allowed start start
  | tail {before after : State} (label : Label) :
      Reaches step allowed start before → allowed before label →
      step before label = some after → Reaches step allowed start after

def anyStep (_ : State) (_ : Label) : Prop := True

/-- Execute a list of labels, stopping as soon as one is refused by `guard` or
not enabled. -/
def exec (step : State → Label → Option State) (guard : State → Label → Bool) :
    State → List Label → Option State
  | state, [] => some state
  | state, label :: rest =>
      if guard state label then (step state label).bind fun next => exec step guard next rest
      else none

variable {step : State → Label → Option State} {allowed : State → Label → Prop}
  {start state : State}

theorem Reaches.invariant (run : Reaches step allowed start state) (holds : State → Prop)
    (initially : holds start)
    (preserved : ∀ before label after, holds before → allowed before label →
      step before label = some after → holds after) : holds state := by
  induction run with
  | refl => exact initially
  | tail label _ permitted taken ih => exact preserved _ label _ ih permitted taken

theorem Reaches.trans {middle : State} (first : Reaches step allowed start middle)
    (second : Reaches step allowed middle state) : Reaches step allowed start state := by
  induction second with
  | refl => exact first
  | tail label _ permitted taken ih => exact .tail label ih permitted taken

theorem exec_cons (guard : State → Label → Bool) (label : Label) (rest : List Label) :
    exec step guard start (label :: rest) =
      if guard start label then (step start label).bind fun next => exec step guard next rest
      else none := rfl

theorem reaches_exec {guard : State → Label → Bool} {labels : List Label}
    (sound : ∀ state label, guard state label = true → allowed state label)
    (executed : exec step guard start labels = some state) :
    Reaches step allowed start state := by
  induction labels generalizing start with
  | nil =>
      cases executed
      exact .refl
  | cons label rest ih =>
      by_cases granted : guard start label = true
      · simp only [exec_cons, granted, if_true, Option.bind_eq_some_iff] at executed
        obtain ⟨next, taken, remaining⟩ := executed
        have one : Reaches step allowed start next :=
          .tail label .refl (sound _ _ granted) taken
        exact one.trans (ih remaining)
      · simp [exec_cons, granted] at executed

/-- A concrete run that evaluates to a state with a given observation. -/
theorem reaches_observed {Seen : Type*} (guard : State → Label → Bool) (labels : List Label)
    (observe : State → Seen) (seen : Seen)
    (sound : ∀ state label, guard state label = true → allowed state label)
    (executed : (exec step guard start labels).map observe = some seen) :
    ∃ state, Reaches step allowed start state ∧ observe state = seen := by
  obtain ⟨state, reached, observed⟩ := Option.map_eq_some_iff.mp executed
  exact ⟨state, reaches_exec sound reached, observed⟩

theorem exec_append (guard : State → Label → Bool) (labels more : List Label) :
    exec step guard start (labels ++ more) =
      (exec step guard start labels).bind fun middle => exec step guard middle more := by
  induction labels generalizing start with
  | nil => rfl
  | cons label rest ih =>
      simp only [List.cons_append, exec_cons]
      split
      · rw [Option.bind_assoc]
        exact Option.bind_congr fun next _ => ih
      · rfl

/-- A concrete run and what follows it, with an observation of each end. -/
theorem reaches_both {Seen : Type*} (guard : State → Label → Bool) (labels more : List Label)
    (observe : State → Seen) (first second : Seen)
    (sound : ∀ state label, guard state label = true → allowed state label)
    (before : (exec step guard start labels).map observe = some first)
    (after : (exec step guard start (labels ++ more)).map observe = some second) :
    ∃ middle state, Reaches step allowed start middle ∧ Reaches step allowed middle state ∧
      observe middle = first ∧ observe state = second := by
  obtain ⟨middle, executed, observed⟩ := Option.map_eq_some_iff.mp before
  rw [exec_append, executed, Option.bind_some] at after
  obtain ⟨state, continued, observedLast⟩ := Option.map_eq_some_iff.mp after
  exact ⟨middle, state, reaches_exec sound executed, reaches_exec sound continued, observed,
    observedLast⟩

theorem exec_concat (guard : State → Label → Bool) (labels : List Label) (last : Label) :
    exec step guard start (labels ++ [last]) =
      (exec step guard start labels).bind fun before =>
        if guard before last then step before last else none := by
  rw [exec_append]
  refine Option.bind_congr fun middle _ => ?_
  rw [exec_cons]
  split
  · exact Option.bind_fun_some _
  · rfl

/-- A concrete run and the one step after it, with an observation of each end. -/
theorem reaches_last {Seen : Type*} (guard : State → Label → Bool) (labels : List Label)
    (last : Label) (observe : State → Seen) (first second : Seen)
    (sound : ∀ state label, guard state label = true → allowed state label)
    (before : (exec step guard start labels).map observe = some first)
    (after : (exec step guard start (labels ++ [last])).map observe = some second) :
    ∃ middle state, Reaches step allowed start middle ∧ allowed middle last ∧
      step middle last = some state ∧ observe middle = first ∧ observe state = second := by
  obtain ⟨middle, executed, observed⟩ := Option.map_eq_some_iff.mp before
  rw [exec_concat, executed, Option.bind_some] at after
  obtain ⟨state, taken, observedLast⟩ := Option.map_eq_some_iff.mp after
  rw [Option.ite_none_right_eq_some] at taken
  exact ⟨middle, state, reaches_exec sound executed, sound _ _ taken.1, taken.2, observed,
    observedLast⟩

/-! ### Parties under way -/

/-- A table of what each party is at, after one of them moved. -/
theorem update_some {Party : Type*} {Phase : Type*} [DecidableEq Party]
    {table : Party → Option Phase} {moved other : Party} {now : Option Phase} {phase : Phase}
    (held : Function.update table moved now other = some phase) :
    (other = moved ∧ now = some phase) ∨ table other = some phase := by
  by_cases same : other = moved
  · rw [same, Function.update_self] at held
    exact .inl ⟨same, held⟩
  · rw [Function.update_of_ne same] at held
    exact .inr held

/-! ### Histories -/

/-- A history that grows at its end keeps the order of its entries. -/
theorem pairwise_concat {Entry : Type*} {related : Entry → Entry → Prop} {history : List Entry}
    {last : Entry} (ordered : history.Pairwise related)
    (ahead : ∀ entry ∈ history, related entry last) : (history ++ [last]).Pairwise related := by
  rw [List.pairwise_append]
  refine ⟨ordered, List.pairwise_singleton _ _, ?_⟩
  intro entry member final isLast
  rw [List.mem_singleton.mp isLast]
  exact ahead entry member

theorem pairwise_of_splits {Entry : Type*} {related : Entry → Entry → Prop} {history : List Entry}
    (behind : ∀ before entry after, history = before ++ entry :: after →
      ∀ later ∈ after, related entry later) : history.Pairwise related := by
  induction history with
  | nil => exact List.Pairwise.nil
  | cons first rest ih =>
      apply List.Pairwise.cons
      · exact behind [] first rest rfl
      · apply ih
        intro before entry after split
        exact behind (first :: before) entry after (congrArg (first :: ·) split)

end AifyComms.Runs
