import EzoProvider.Interaction.Program

/-!
# Typestates of a program

A typestate says which operations may be performed at a stage, and which stage
each answer leads to. The stages are settled before the answer is known, so a
program which waits for one is at a definite point of its typestate.
-/

namespace EzoProvider.Interaction

universe u v w x

/-- At `stage` the operation `op` may be performed, and an answer leads to the stage
`later` gives for it. -/
structure Typestate (Op : Type u) (Result : Op → Type v) (Stage : Type x) where
  Moves : Stage → (op : Op) → (Result op → Stage) → Prop

namespace Program

variable {Op : Type u} {Result : Op → Type v} {Stage : Type x} {α β : Type w}
  {typestate : Typestate Op Result Stage}

/-- The program performs only what its stage allows, and returns at a stage which is
`final` for its value. -/
def Obeys (typestate : Typestate Op Result Stage) (final : Stage → α → Prop) :
    Program Op Result α → Stage → Prop
  | .done value, stage => final stage value
  | .perform op next, stage =>
      ∃ later, typestate.Moves stage op later ∧
        ∀ answer, (next answer).Obeys typestate final (later answer)

@[simp] theorem obeys_done_iff {final : Stage → α → Prop} {value : α} {stage : Stage} :
    (Program.done value : Program Op Result α).Obeys typestate final stage ↔ final stage value :=
  Iff.rfl

/-- One operation before the rest. -/
theorem obeys_ask_bind_iff {Op : Type u} {Result : Op → Type u} {Stage : Type x} {β : Type u}
    {typestate : Typestate Op Result Stage} {final : Stage → β → Prop} {op : Op}
    {rest : Result op → Program Op Result β} {stage : Stage} :
    ((ask op : Program Op Result (Result op)) >>= rest).Obeys typestate final stage ↔
      ∃ later, typestate.Moves stage op later ∧
        ∀ answer, (rest answer).Obeys typestate final (later answer) :=
  Iff.rfl

/-- A composition obeys if its second part goes on from every stage the first part
returns at. -/
theorem obeys_bind {middle : Stage → α → Prop} {final : Stage → β → Prop}
    {program : Program Op Result α} {rest : α → Program Op Result β} {stage : Stage}
    (first : program.Obeys typestate middle stage)
    (second : ∀ stage value, middle stage value → (rest value).Obeys typestate final stage) :
    (program >>= rest).Obeys typestate final stage := by
  induction program generalizing stage with
  | done value => exact second stage value first
  | perform op next ih =>
      obtain ⟨later, moves, obeys⟩ := first
      exact ⟨later, moves, fun answer => ih answer (obeys answer)⟩

end Program
end EzoProvider.Interaction
