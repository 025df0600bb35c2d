/-
Finite runs of a partial step function, and the rules that carry a property
along them.

A label holds everything that a step chooses: who moves, with which argument,
and what the environment answers.  A step that is not enabled returns `none`,
so a run is determined by its first state and its labels and can be evaluated.
A sequential component is the special case in which every label is enabled.
-/

import Mathlib.Data.List.Basic
import Mathlib.Data.List.Infix

set_option autoImplicit false

namespace SpringExamples.Runs

variable {State Label : Type}

def run (step : State → Label → Option State) : State → List Label → Option State
  | state, [] => some state
  | state, label :: rest => (step state label).bind fun next => run step next rest

/-- Every label of a sequential component is enabled. -/
def total (next : State → Label → State) (state : State) (label : Label) : Option State :=
  some (next state label)

/-- The guard holds of each step of the run, in the state the step starts from. -/
def Along (step : State → Label → Option State) (guard : State → Label → Prop) :
    State → List Label → Prop
  | _, [] => True
  | state, label :: rest =>
      guard state label ∧ ∀ next, step state label = some next → Along step guard next rest

instance decidableAlong (step : State → Label → Option State) (guard : State → Label → Prop)
    [∀ state label, Decidable (guard state label)] :
    (state : State) → (labels : List Label) → Decidable (Along step guard state labels)
  | _, [] => isTrue trivial
  | state, label :: rest =>
      match moved : step state label with
      | none =>
          decidable_of_iff (guard state label) (by
            unfold Along
            rw [moved]
            simp)
      | some next =>
          have := decidableAlong step guard next rest
          decidable_of_iff (guard state label ∧ Along step guard next rest) (by
            rw [Along, moved]
            simp)

/-- The property holds in each state the run passes, the first and the last included. -/
def Throughout (step : State → Label → Option State) (holds : State → Prop) :
    State → List Label → Prop
  | state, [] => holds state
  | state, label :: rest =>
      holds state ∧ ∀ next, step state label = some next → Throughout step holds next rest

section Rules

variable (step : State → Label → Option State)

@[simp] theorem run_nil (state : State) : run step state [] = some state := rfl

theorem run_cons (state : State) (label : Label) (rest : List Label) :
    run step state (label :: rest) =
      (step state label).bind fun next => run step next rest := rfl

theorem run_append (state : State) (first second : List Label) :
    run step state (first ++ second) =
      (run step state first).bind fun middle => run step middle second := by
  induction first generalizing state with
  | nil => rfl
  | cons label rest ih =>
      rw [List.cons_append, run_cons, run_cons]
      cases step state label with
      | none => rfl
      | some next => exact ih next

theorem run_cons_some {state last : State} {label : Label} {rest : List Label}
    (ran : run step state (label :: rest) = some last) :
    ∃ next, step state label = some next ∧ run step next rest = some last := by
  rw [run_cons] at ran
  exact Option.bind_eq_some_iff.mp ran

theorem run_append_some {state last : State} {first second : List Label}
    (ran : run step state (first ++ second) = some last) :
    ∃ middle, run step state first = some middle ∧ run step middle second = some last := by
  rw [run_append] at ran
  exact Option.bind_eq_some_iff.mp ran

theorem run_snoc_some {state last : State} {labels : List Label} {label : Label}
    (ran : run step state (labels ++ [label]) = some last) :
    ∃ middle, run step state labels = some middle ∧ step middle label = some last := by
  obtain ⟨middle, before, stepped⟩ := run_append_some step ran
  obtain ⟨next, moved, done⟩ := run_cons_some step stepped
  rw [run_nil] at done
  cases done
  exact ⟨middle, before, moved⟩

@[simp] theorem run_total (next : State → Label → State) (state : State) (labels : List Label) :
    run (total next) state labels = some (labels.foldl next state) := by
  induction labels generalizing state with
  | nil => rfl
  | cons label rest ih => exact ih (next state label)

theorem forall_total_iff (next : State → Label → State) (holds : State → Prop) (state : State)
    (label : Label) :
    (∀ after, total next state label = some after → holds after) ↔ holds (next state label) := by
  constructor
  · intro always
    exact always _ rfl
  · intro good after moved
    cases moved
    exact good

/-- A run and its last state, by evaluation. -/
theorem exists_run_of_any (state : State) (labels : List Label) (holds : State → Prop)
    [DecidablePred holds]
    (evaluated : (run step state labels).any (fun last => decide (holds last)) = true) :
    ∃ last, run step state labels = some last ∧ holds last := by
  cases ran : run step state labels with
  | none =>
      rw [ran] at evaluated
      cases evaluated
  | some last =>
      rw [ran] at evaluated
      exact ⟨last, rfl, of_decide_eq_true evaluated⟩

theorem run_invariant (holds : State → Prop)
    (kept : ∀ state label next, holds state → step state label = some next → holds next)
    {state last : State} {labels : List Label} (start : holds state)
    (ran : run step state labels = some last) : holds last := by
  induction labels generalizing state with
  | nil =>
      cases ran
      exact start
  | cons label rest ih =>
      obtain ⟨next, moved, later⟩ := run_cons_some step ran
      exact ih (kept state label next start moved) later

/-- What each guarded step preserves, a run preserves whose steps all meet the guard. -/
theorem run_invariant_along (holds : State → Prop) (guard : State → Label → Prop)
    (kept : ∀ state label next, holds state → guard state label →
      step state label = some next → holds next)
    {state last : State} {labels : List Label} (start : holds state)
    (guarded : Along step guard state labels)
    (ran : run step state labels = some last) : holds last := by
  induction labels generalizing state with
  | nil =>
      cases ran
      exact start
  | cons label rest ih =>
      obtain ⟨next, moved, later⟩ := run_cons_some step ran
      exact ih (kept state label next start guarded.1 moved) (guarded.2 next moved) later

/-- Where each guarded step is one step of a coarser system or none, a run is one of the coarser
system. -/
theorem run_abstracted {State' Label' : Type} (step' : State' → Label' → Option State')
    (abstract : State → State') (holds : State → Prop) (guard : State → Label → Prop)
    (abstracts : ∀ state label next, holds state → guard state label →
      step state label = some next → holds next ∧
        (abstract next = abstract state ∨
          ∃ label', step' (abstract state) label' = some (abstract next)))
    {state last : State} {labels : List Label} (start : holds state)
    (guarded : Along step guard state labels) (ran : run step state labels = some last) :
    ∃ labels', run step' (abstract state) labels' = some (abstract last) := by
  induction labels generalizing state with
  | nil =>
      cases ran
      exact ⟨[], rfl⟩
  | cons label rest ih =>
      obtain ⟨next, moved, later⟩ := run_cons_some step ran
      obtain ⟨kept, unseen | ⟨label', done⟩⟩ := abstracts state label next start guarded.1 moved
      · rw [← unseen]
        exact ih kept (guarded.2 next moved) later
      · obtain ⟨labels', resumed⟩ := ih kept (guarded.2 next moved) later
        refine ⟨label' :: labels', ?_⟩
        rw [run_cons, done, Option.bind_some]
        exact resumed

theorem throughout_start {holds : State → Prop} {state : State} {labels : List Label}
    (always : Throughout step holds state labels) : holds state := by
  cases labels with
  | nil => exact always
  | cons label rest => exact always.1

theorem throughout_last {holds : State → Prop} {state last : State} {labels : List Label}
    (always : Throughout step holds state labels)
    (ran : run step state labels = some last) : holds last := by
  induction labels generalizing state with
  | nil =>
      cases ran
      exact always
  | cons label rest ih =>
      obtain ⟨next, moved, later⟩ := run_cons_some step ran
      exact ih (always.2 next moved) later

/-- An invariant that guarded steps keep holds in each state of a guarded run. -/
theorem throughout_of_along (invariant : State → Prop) (guard : State → Label → Prop)
    (kept : ∀ state label next, invariant state → guard state label →
      step state label = some next → invariant next)
    {holds : State → Prop} (implied : ∀ state, invariant state → holds state)
    {state : State} {labels : List Label} (start : invariant state)
    (guarded : Along step guard state labels) : Throughout step holds state labels := by
  induction labels generalizing state with
  | nil => exact implied state start
  | cons label rest ih =>
      refine ⟨implied state start, fun next moved => ?_⟩
      exact ih (kept state label next start guarded.1 moved) (guarded.2 next moved)

theorem along_of_forall (met : Label → Prop) (state : State) (labels : List Label)
    (every : ∀ label ∈ labels, met label) : Along step (fun _ label => met label) state labels := by
  induction labels generalizing state with
  | nil => trivial
  | cons label rest ih =>
      refine ⟨every label List.mem_cons_self, fun next _ => ?_⟩
      exact ih next fun later member => every later (List.mem_cons_of_mem label member)

theorem along_and (first second : State → Label → Prop) (state : State) (labels : List Label) :
    Along step (fun item label => first item label ∧ second item label) state labels ↔
      Along step first state labels ∧ Along step second state labels := by
  induction labels generalizing state with
  | nil => exact ⟨fun _ => ⟨trivial, trivial⟩, fun _ => trivial⟩
  | cons label rest ih =>
      constructor
      · intro given
        obtain ⟨⟨left, right⟩, later⟩ := given
        exact ⟨⟨left, fun next moved => ((ih next).mp (later next moved)).1⟩,
          ⟨right, fun next moved => ((ih next).mp (later next moved)).2⟩⟩
      · intro given
        obtain ⟨⟨left, laterLeft⟩, right, laterRight⟩ := given
        exact ⟨⟨left, right⟩, fun next moved =>
          (ih next).mpr ⟨laterLeft next moved, laterRight next moved⟩⟩

/-- An exact guard.  If guarded steps keep the invariant and each step is right
precisely when it meets the guard, then the steps of a run are all right precisely
when they all meet the guard. -/
theorem along_iff_along (invariant : State → Prop) (guard right : State → Label → Prop)
    (kept : ∀ state label next, invariant state → guard state label →
      step state label = some next → invariant next)
    (exactly : ∀ state label, invariant state → (right state label ↔ guard state label))
    {state : State} (labels : List Label) (start : invariant state) :
    Along step right state labels ↔ Along step guard state labels := by
  induction labels generalizing state with
  | nil => exact Iff.rfl
  | cons label rest ih =>
      constructor
      · intro given
        obtain ⟨good, later⟩ := given
        have met := (exactly state label start).mp good
        refine ⟨met, fun next moved => ?_⟩
        exact (ih (kept state label next start met moved)).mp (later next moved)
      · intro given
        obtain ⟨met, later⟩ := given
        refine ⟨(exactly state label start).mpr met, fun next moved => ?_⟩
        exact (ih (kept state label next start met moved)).mpr (later next moved)

/-- A property of the states that the steps reach is a property of the steps. -/
theorem throughout_iff_along (holds : State → Prop) {state : State} (labels : List Label)
    (start : holds state) :
    Throughout step holds state labels ↔
      Along step (fun before label => ∀ next, step before label = some next → holds next)
        state labels := by
  induction labels generalizing state with
  | nil => exact iff_of_true start trivial
  | cons label rest ih =>
      constructor
      · intro given
        obtain ⟨_, later⟩ := given
        refine ⟨fun next moved => throughout_start step (later next moved), fun next moved => ?_⟩
        exact (ih (throughout_start step (later next moved))).mp (later next moved)
      · intro given
        obtain ⟨good, later⟩ := given
        refine ⟨start, fun next moved => ?_⟩
        exact (ih (good next moved)).mpr (later next moved)

end Rules

end SpringExamples.Runs
