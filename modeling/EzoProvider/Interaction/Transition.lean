/-!
# Labelled transition systems

Runs of a nondeterministic system, with the rule which turns a step lemma into
a property of every reachable state.
-/

namespace EzoProvider.Interaction

universe u v

/-- States, the admitted initial ones and the labelled steps between them. -/
structure TransitionSystem (State : Type u) (Label : Type v) where
  Initial : State → Prop
  Step : State → Label → State → Prop

namespace TransitionSystem

variable {State : Type u} {Label : Type v} (system : TransitionSystem State Label)

/-- Zero or more steps, with their labels in order. -/
inductive Steps : State → List Label → State → Prop where
  | refl {state} : Steps state [] state
  | step {state labels middle label next} (prior : Steps state labels middle)
      (transition : system.Step middle label next) : Steps state (labels ++ [label]) next

/-- A state some run from an initial state ends in. -/
def Reachable (state : State) : Prop :=
  ∃ initial labels, system.Initial initial ∧ system.Steps initial labels state

variable {system}

/-- A single step is a run. -/
theorem Steps.single {state next : State} {label : Label}
    (transition : system.Step state label next) : system.Steps state [label] next :=
  .step .refl transition

theorem Steps.trans {state middle final : State} {first second : List Label}
    (before : system.Steps state first middle) (after : system.Steps middle second final) :
    system.Steps state (first ++ second) final := by
  induction after with
  | refl => simpa using before
  | step _ transition ih => simpa [← List.append_assoc] using ih.step transition

theorem Reachable.initial {state : State} (valid : system.Initial state) :
    system.Reachable state :=
  ⟨state, [], valid, .refl⟩

theorem Reachable.steps {state final : State} {labels : List Label}
    (reachable : system.Reachable state) (run : system.Steps state labels final) :
    system.Reachable final := by
  obtain ⟨initial, before, valid, prior⟩ := reachable
  exact ⟨initial, before ++ labels, valid, prior.trans run⟩

/-- What every step keeps, a run keeps. -/
theorem Steps.maintains {invariant : State → Prop}
    (kept : ∀ {state label next}, invariant state → system.Step state label next → invariant next)
    {state final : State} {labels : List Label} (holds : invariant state)
    (run : system.Steps state labels final) : invariant final := by
  induction run with
  | refl => exact holds
  | step _ transition ih => exact kept ih transition

/-- What steps with an allowed label keep, a run of such steps keeps. -/
theorem Steps.maintains_of_labels {allowed : Label → Prop} {invariant : State → Prop}
    (kept : ∀ {state label next}, allowed label → invariant state →
      system.Step state label next → invariant next)
    {state final : State} {labels : List Label} (holds : invariant state)
    (permitted : ∀ label ∈ labels, allowed label)
    (run : system.Steps state labels final) : invariant final := by
  induction run with
  | refl => exact holds
  | step _ transition ih =>
      refine kept (permitted _ (by simp)) (ih fun label member => ?_) transition
      exact permitted label (by simp [member])

/-- The invariant rule: what holds initially and is kept by every step holds in
every reachable state. -/
theorem Reachable.holds {invariant : State → Prop}
    (initially : ∀ {state}, system.Initial state → invariant state)
    (kept : ∀ {state label next}, invariant state → system.Step state label next → invariant next)
    {state : State} (reachable : system.Reachable state) : invariant state := by
  obtain ⟨initial, labels, valid, run⟩ := reachable
  exact run.maintains kept (initially valid)

/-- The invariant rule, with the reachability of each step's origin at hand. -/
theorem Reachable.induct {invariant : State → Prop}
    (initially : ∀ {state}, system.Initial state → invariant state)
    (kept : ∀ {state label next}, system.Reachable state → invariant state →
      system.Step state label next → invariant next)
    {state : State} (reachable : system.Reachable state) : invariant state := by
  let both : State → Prop := fun state => system.Reachable state ∧ invariant state
  have here : both state := by
    refine reachable.holds ?_ ?_
    · intro state valid
      exact ⟨.initial valid, initially valid⟩
    · rintro state label next ⟨here, holds⟩ transition
      exact ⟨here.steps (.single transition), kept here holds transition⟩
  exact here.2

/-! ## Restricted runs -/

/-- The system of the steps which meet a condition. -/
def restrict (system : TransitionSystem State Label)
    (condition : State → Label → State → Prop) : TransitionSystem State Label where
  Initial := system.Initial
  Step state label next := system.Step state label next ∧ condition state label next

theorem Steps.of_restrict {condition : State → Label → State → Prop} {state final : State}
    {labels : List Label} (run : (system.restrict condition).Steps state labels final) :
    system.Steps state labels final := by
  induction run with
  | refl => exact .refl
  | step _ transition ih => exact ih.step transition.1

theorem Reachable.of_restrict {condition : State → Label → State → Prop} {state : State}
    (reachable : (system.restrict condition).Reachable state) : system.Reachable state := by
  refine reachable.holds (fun valid => .initial valid) ?_
  intro state label next here transition
  exact here.steps (.single transition.1)

/-- What is reached under a condition is reached under a weaker one. -/
theorem Reachable.restrict_mono {condition weaker : State → Label → State → Prop}
    (implies : ∀ {state label next}, condition state label next → weaker state label next)
    {state : State} (reachable : (system.restrict condition).Reachable state) :
    (system.restrict weaker).Reachable state := by
  refine reachable.holds (fun valid => .initial valid) ?_
  intro state label next here transition
  exact here.steps (.single ⟨transition.1, implies transition.2⟩)

end TransitionSystem
end EzoProvider.Interaction
