import EzoProvider.Interaction.Environment

/-!
# Playing a program against a responder

A `Responder` answers every operation in one way. Playing a program against it
computes a trace, which is one of the program's, and one of the environment's
when its answers are.
-/

namespace EzoProvider.Interaction

universe u v w x

/-- A deterministic party that answers a program. -/
structure Responder (Op : Type u) (Result : Op → Type v) (State : Type x) where
  respond : State → (op : Op) → Result op × State

namespace Program

variable {Op : Type u} {Result : Op → Type v} {State : Type x} {α : Type w}

/-- The outcome of playing a program. -/
structure Play (Op : Type u) (Result : Op → Type v) (State : Type x) (α : Type w) where
  trace : Trace Op Result
  value : α
  final : State

/-- Play a program against a responder. -/
def play (responder : Responder Op Result State) :
    Program Op Result α → State → Play Op Result State α
  | .done value, state => ⟨[], value, state⟩
  | .perform op next, state =>
      let answer := responder.respond state op
      let later := (next answer.1).play responder answer.2
      ⟨⟨op, answer.1⟩ :: later.trace, later.value, later.final⟩

theorem play_runs (responder : Responder Op Result State) (program : Program Op Result α)
    (state : State) :
    program.Runs (program.play responder state).trace (program.play responder state).value := by
  induction program generalizing state with
  | done value => exact .refl
  | perform op next ih => exact .perform (ih _ _)

/-- The play is a path of every environment which can give its answers. -/
theorem play_path {environment : Environment Op Result State}
    {responder : Responder Op Result State}
    (faithful : ∀ state op, environment.Answers state op (responder.respond state op).1
      (responder.respond state op).2)
    (program : Program Op Result α) (state : State) :
    environment.Path state (program.play responder state).trace
      (program.play responder state).final := by
  induction program generalizing state with
  | done value => exact .nil
  | perform op next ih => exact .cons (faithful state op) (ih _ _)

/-- The state of the responder so many operations into the play. -/
def playedFor (responder : Responder Op Result State) : Nat → Program Op Result α → State → State
  | 0, _, state => state
  | _ + 1, .done _, state => state
  | count + 1, .perform op next, state =>
      let answer := responder.respond state op
      (next answer.1).playedFor responder count answer.2

/-- The play passes through the states it has been played for. -/
theorem play_path_split {environment : Environment Op Result State}
    {responder : Responder Op Result State}
    (faithful : ∀ state op, environment.Answers state op (responder.respond state op).1
      (responder.respond state op).2)
    (count : Nat) (program : Program Op Result α) (state : State) :
    environment.Path state ((program.play responder state).trace.take count)
        (program.playedFor responder count state) ∧
      environment.Path (program.playedFor responder count state)
        ((program.play responder state).trace.drop count) (program.play responder state).final := by
  induction count generalizing program state with
  | zero => exact ⟨.nil, play_path faithful program state⟩
  | succ count ih =>
      cases program with
      | done value => exact ⟨.nil, .nil⟩
      | perform op next =>
          obtain ⟨before, after⟩ := ih (next (responder.respond state op).1)
            (responder.respond state op).2
          exact ⟨.cons (faithful state op) before, after⟩

/-- Every operation of the play is one the responder answers well. -/
def PlaysWithin (responder : Responder Op Result State) (good : State → Op → Bool) :
    Program Op Result α → State → Bool
  | .done _, _ => true
  | .perform op next, state =>
      let answer := responder.respond state op
      good state op && (next answer.1).PlaysWithin responder good answer.2

theorem play_path_of {environment : Environment Op Result State}
    {responder : Responder Op Result State} {good : State → Op → Bool}
    (faithful : ∀ state op, good state op = true →
      environment.Answers state op (responder.respond state op).1 (responder.respond state op).2)
    {program : Program Op Result α} {state : State}
    (within : program.PlaysWithin responder good state = true) :
    environment.Path state (program.play responder state).trace
      (program.play responder state).final := by
  induction program generalizing state with
  | done value => exact .nil
  | perform op next ih =>
      obtain ⟨here, later⟩ := Bool.and_eq_true_iff.mp within
      exact .cons (faithful state op here) (ih _ later)

theorem play_completes_of {environment : Environment Op Result State}
    {responder : Responder Op Result State} {good : State → Op → Bool}
    (faithful : ∀ state op, good state op = true →
      environment.Answers state op (responder.respond state op).1 (responder.respond state op).2)
    {program : Program Op Result α} {state : State}
    (within : program.PlaysWithin responder good state = true) :
    Completes environment program state (program.play responder state).value
      (program.play responder state).final :=
  ⟨_, play_runs responder program state, play_path_of faithful within⟩

theorem play_completes {environment : Environment Op Result State}
    {responder : Responder Op Result State}
    (faithful : ∀ state op, environment.Answers state op (responder.respond state op).1
      (responder.respond state op).2)
    (program : Program Op Result α) (state : State) :
    Completes environment program state (program.play responder state).value
      (program.play responder state).final :=
  ⟨_, play_runs responder program state, play_path faithful program state⟩

end Program
end EzoProvider.Interaction
