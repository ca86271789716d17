import EzoProvider.Interaction.Program

/-!
# Protocols of a program

A protocol relates the stage a program is at to the stage an operation and its
answer leave it at. A program follows a protocol when each of its operations is
a move, whatever the answers it admits. `follows_bind` composes the parts of a
program at the stages they meet in.
-/

namespace EzoProvider.Interaction

universe u v w x

/-- The answers to expect, and the moves from stage to stage. -/
structure Protocol (Op : Type u) (Result : Op → Type v) (Stage : Type x) where
  Admits : (op : Op) → Result op → Prop
  Moves : Stage → (op : Op) → Result op → Stage → Prop

/-- The stages a trace of moves leads through. -/
inductive Protocol.Path {Op : Type u} {Result : Op → Type v} {Stage : Type x}
    (protocol : Protocol Op Result Stage) : Stage → Trace Op Result → Stage → Prop where
  | refl {stage} : protocol.Path stage [] stage
  | moved {stage op answer middle trace later} (moves : protocol.Moves stage op answer middle)
      (tail : protocol.Path middle trace later) :
      protocol.Path stage (⟨op, answer⟩ :: trace) later

namespace Program

variable {Op : Type u} {Result : Op → Type v} {Stage : Type x} {α β : Type w}
  {protocol : Protocol Op Result Stage}

/-- From this stage the program makes moves of the protocol only, and returns at a
stage which is `final` for its value. -/
def Follows (protocol : Protocol Op Result Stage) (final : Stage → α → Prop) :
    Program Op Result α → Stage → Prop
  | .done value, stage => final stage value
  | .perform op next, stage =>
      ∀ answer, protocol.Admits op answer →
        ∃ later, protocol.Moves stage op answer later ∧ (next answer).Follows protocol final later

@[simp] theorem follows_done_iff {final : Stage → α → Prop} {value : α} {stage : Stage} :
    (Program.done value : Program Op Result α).Follows protocol final stage ↔ final stage value :=
  Iff.rfl

theorem Follows.mono {final larger : Stage → α → Prop} {program : Program Op Result α}
    {stage : Stage} (follows : program.Follows protocol final stage)
    (implies : ∀ stage value, final stage value → larger stage value) :
    program.Follows protocol larger stage := by
  induction program generalizing stage with
  | done value => exact implies stage value follows
  | perform op next ih =>
      intro answer admitted
      obtain ⟨later, moves, rest⟩ := follows answer admitted
      exact ⟨later, moves, ih answer rest⟩

/-- A composition follows a protocol if its second part goes on from every stage the
first part returns at. -/
theorem follows_bind {middle : Stage → α → Prop} {final : Stage → β → Prop}
    {program : Program Op Result α} {rest : α → Program Op Result β} {stage : Stage}
    (first : program.Follows protocol middle stage)
    (second : ∀ stage value, middle stage value → (rest value).Follows protocol final stage) :
    (program >>= rest).Follows protocol final stage := by
  induction program generalizing stage with
  | done value => exact second stage value first
  | perform op next ih =>
      intro answer admitted
      obtain ⟨later, moves, follows⟩ := first answer admitted
      exact ⟨later, moves, ih answer follows⟩

/-- A composition with an early exit follows a protocol if the exits of its first part are
final for the whole. -/
theorem follows_exceptT_bind {ε : Type w} {middle : Stage → Except ε α → Prop}
    {final : Stage → Except ε β → Prop} {program : ExceptT ε (Program Op Result) α}
    {rest : α → ExceptT ε (Program Op Result) β} {stage : Stage}
    (first : program.run.Follows protocol middle stage)
    (second : ∀ stage value, middle stage (.ok value) →
      (rest value).run.Follows protocol final stage)
    (exits : ∀ stage error, middle stage (.error error) → final stage (.error error)) :
    (program >>= rest).run.Follows protocol final stage := by
  rw [ExceptT.run_bind]
  refine follows_bind first fun stage value reached => ?_
  cases value with
  | ok value => exact second stage value reached
  | error error => exact exits stage error reached

theorem follows_exceptT_lift_bind {ε : Type w} {middle : Stage → α → Prop}
    {final : Stage → Except ε β → Prop} {program : Program Op Result α}
    {rest : α → ExceptT ε (Program Op Result) β} {stage : Stage}
    (first : program.Follows protocol middle stage)
    (second : ∀ stage value, middle stage value → (rest value).run.Follows protocol final stage) :
    ((liftM program : ExceptT ε (Program Op Result) α) >>= rest).run.Follows protocol final
      stage := by
  rw [exceptT_lift_bind]
  exact follows_bind first second

/-- The trace of a program which follows a protocol is a path of its moves, and what is left of
the program follows it from where that ends. -/
theorem Follows.advances {final : Stage → α → Prop} {program rest : Program Op Result α}
    {trace : Trace Op Result} {stage : Stage} (follows : program.Follows protocol final stage)
    (admitted : ∀ exchange ∈ trace, protocol.Admits exchange.1 exchange.2)
    (advance : program.Advances trace rest) :
    ∃ later, protocol.Path stage trace later ∧ rest.Follows protocol final later := by
  induction advance generalizing stage with
  | refl => exact ⟨stage, .refl, follows⟩
  | @perform op next answer trace rest _ ih =>
      obtain ⟨middle, moves, here⟩ := follows answer (admitted ⟨op, answer⟩ List.mem_cons_self)
      obtain ⟨later, path, left⟩ :=
        ih here fun exchange member => admitted exchange (List.mem_cons_of_mem _ member)
      exact ⟨later, .moved moves path, left⟩

/-- A run of it ends at a stage which is final for its value. -/
theorem Follows.runs {final : Stage → α → Prop} {program : Program Op Result α}
    {trace : Trace Op Result} {value : α} {stage : Stage}
    (follows : program.Follows protocol final stage)
    (admitted : ∀ exchange ∈ trace, protocol.Admits exchange.1 exchange.2)
    (run : program.Runs trace value) :
    ∃ later, protocol.Path stage trace later ∧ final later value :=
  follows.advances admitted run

end Program
end EzoProvider.Interaction
