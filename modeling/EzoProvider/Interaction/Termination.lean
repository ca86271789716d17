import EzoProvider.Interaction.Program
import Mathlib.Tactic.ByContra

/-!
# Runs which come to an end

`after next state` says that `next` may come after `state`. Where the relation is
well-founded every run comes to an end. Parts which come to an end on their own
come to an end in any interleaving, and a program, being a finite tree, does so
whatever it is answered.
-/

namespace EzoProvider.Interaction

universe u v w

section Relations

variable {State : Type u} {after : State → State → Prop}

/-- Every run comes to an end, in a state of the goal. -/
inductive Inevitably (after : State → State → Prop) (goal : State → Prop) : State → Prop where
  | ended {state : State} (last : ∀ next, ¬ after next state) (reached : goal state) :
      Inevitably after goal state
  | later {state : State} (goes : ∃ next, after next state)
      (each : ∀ next, after next state → Inevitably after goal next) : Inevitably after goal state

/-- Runs which come to an end do so in the goal, if it is only there that they cannot go on. -/
theorem inevitably_of_acc {invariant goal : State → Prop}
    (kept : ∀ {state next}, invariant state → after next state → invariant next)
    (goes : ∀ {state}, invariant state → ¬ goal state → ∃ next, after next state)
    {state : State} (ends : Acc after state) (holds : invariant state) :
    Inevitably after goal state := by
  induction ends with
  | intro state _ ih =>
      by_cases more : ∃ next, after next state
      · exact .later more fun next goes => ih next goes (kept holds goes)
      · refine .ended (fun next goes => more ⟨next, goes⟩) ?_
        by_contra elsewhere
        exact more (goes holds elsewhere)

/-- One part goes on, and the others stay as they are. -/
inductive PartAfter (after : State → State → Prop) : List State → List State → Prop where
  | moved {parts : List State} {index : Nat} {part next : State} (found : parts[index]? = some part)
      (goes : after next part) : PartAfter after (parts.set index next) parts

/-- Parts which come to an end on their own come to an end together. -/
theorem acc_partAfter {parts : List State} (each : ∀ part ∈ parts, Acc after part) :
    Acc (PartAfter after) parts := by
  induction parts with
  | nil =>
      refine ⟨_, ?_⟩
      rintro _ ⟨found, _⟩
      cases found
  | cons first rest ih =>
      -- The induction is on what the first part may still do, and for that on the rest.
      have both : ∀ first, Acc after first → ∀ rest, Acc (PartAfter after) rest →
          Acc (PartAfter after) (first :: rest) := by
        intro first ends
        induction ends with
        | intro first _ ihFirst =>
            intro rest ends
            induction ends with
            | intro rest tails ihRest =>
                refine ⟨_, ?_⟩
                rintro _ ⟨found, goes⟩
                rename_i index part next
                cases index with
                | zero =>
                    obtain rfl : first = part := by simpa using found
                    exact ihFirst next goes rest ⟨rest, tails⟩
                | succ index => exact ihRest _ ⟨by simpa using found, goes⟩
      exact both first (each first List.mem_cons_self) rest
        (ih fun part member => each part (List.mem_cons_of_mem _ member))

theorem wellFounded_partAfter (ends : WellFounded after) : WellFounded (PartAfter after) :=
  ⟨fun _ => acc_partAfter fun part _ => ends.apply part⟩

end Relations

namespace Program

variable {Op : Type u} {Result : Op → Type v} {α : Type w}

/-- What is left of a program when one more operation is answered. -/
inductive After : Program Op Result α → Program Op Result α → Prop where
  | answered {op : Op} {next : Result op → Program Op Result α} (answer : Result op) :
      After (next answer) (.perform op next)

theorem wellFounded_after : WellFounded (@After Op Result α) := by
  refine ⟨fun program => ?_⟩
  induction program with
  | done value =>
      refine ⟨_, ?_⟩
      rintro _ ⟨⟩
  | perform op next ih =>
      refine ⟨_, ?_⟩
      rintro _ ⟨answer⟩
      exact ih answer

end Program

end EzoProvider.Interaction
