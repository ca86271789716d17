import Mathlib.Data.List.Infix

/-!
# Interaction programs

A `Program` asks its surroundings for one operation at a time and continues
with the answer. `Advances` and `Runs` are its traces: the operations it
performs paired with arbitrary answers, without saying who gives them.
`Interaction.Environment` adds the party that answers.

`runs_bind_iff` splits the trace of a sequential composition at the point where
its first part returns, so a program is verified part by part.
-/

namespace EzoProvider.Interaction

universe u v w

/-- A computation over the operations `Op`, whose answers have type `Result op`. -/
inductive Program (Op : Type u) (Result : Op → Type v) (α : Type w) where
  | done (value : α) : Program Op Result α
  | perform (op : Op) (next : Result op → Program Op Result α) : Program Op Result α

/-- One operation with the answer it received. -/
abbrev Exchange (Op : Type u) (Result : Op → Type v) := (op : Op) × Result op

/-- The exchanges of a computation, oldest first. -/
abbrev Trace (Op : Type u) (Result : Op → Type v) := List (Exchange Op Result)

namespace Program

variable {Op : Type u} {Result : Op → Type v} {α β : Type w}

/-- Sequential composition. -/
def bind : Program Op Result α → (α → Program Op Result β) → Program Op Result β
  | .done value, rest => rest value
  | .perform op next, rest => .perform op fun result => (next result).bind rest

instance : Monad (Program Op Result) where
  pure := .done
  bind := bind

/-- Perform one operation and return its answer. -/
def ask {Op : Type u} {Result : Op → Type u} (op : Op) : Program Op Result (Result op) :=
  .perform op .done

@[simp] theorem pure_eq (value : α) : (pure value : Program Op Result α) = .done value := rfl

@[simp] theorem done_bind (value : α) (rest : α → Program Op Result β) :
    (Program.done value >>= rest) = rest value := rfl

@[simp] theorem perform_bind (op : Op) (next : Result op → Program Op Result α)
    (rest : α → Program Op Result β) :
    (Program.perform op next >>= rest) = .perform op fun result => next result >>= rest := rfl

/-- `Advances program trace rest`: after exactly the exchanges of `trace`, what is
left of `program` is `rest`. -/
inductive Advances : Program Op Result α → Trace Op Result → Program Op Result α → Prop where
  | refl {program} : Advances program [] program
  | perform {op next result trace rest} (tail : Advances (next result) trace rest) :
      Advances (.perform op next) (⟨op, result⟩ :: trace) rest

/-- `Runs program trace value`: `program` returns `value` after exactly `trace`. -/
def Runs (program : Program Op Result α) (trace : Trace Op Result) (value : α) : Prop :=
  program.Advances trace (.done value)

@[simp] theorem advances_done_iff {value : α} {trace : Trace Op Result}
    {rest : Program Op Result α} :
    (Program.done value).Advances trace rest ↔ trace = [] ∧ rest = .done value := by
  constructor
  · intro advance
    cases advance
    exact ⟨rfl, rfl⟩
  · rintro ⟨rfl, rfl⟩
    exact .refl

theorem advances_perform_iff {op : Op} {next : Result op → Program Op Result α}
    {trace : Trace Op Result} {rest : Program Op Result α} :
    (Program.perform op next).Advances trace rest ↔
      (trace = [] ∧ rest = .perform op next) ∨
        ∃ result tail, trace = ⟨op, result⟩ :: tail ∧ (next result).Advances tail rest := by
  constructor
  · intro advance
    cases advance with
    | refl => exact .inl ⟨rfl, rfl⟩
    | perform tail => exact .inr ⟨_, _, rfl, tail⟩
  · rintro (⟨rfl, rfl⟩ | ⟨result, tail, rfl, advance⟩)
    · exact .refl
    · exact .perform advance

@[simp] theorem advances_nil_iff {program rest : Program Op Result α} :
    program.Advances [] rest ↔ rest = program := by
  cases program with
  | done value => simp
  | perform op next => simp [advances_perform_iff]

@[simp] theorem runs_done_iff {value result : α} {trace : Trace Op Result} :
    (Program.done value).Runs trace result ↔ trace = [] ∧ result = value := by
  simp [Runs]

@[simp] theorem runs_perform_iff {op : Op} {next : Result op → Program Op Result α}
    {trace : Trace Op Result} {value : α} :
    (Program.perform op next).Runs trace value ↔
      ∃ result tail, trace = ⟨op, result⟩ :: tail ∧ (next result).Runs tail value := by
  simp [Runs, advances_perform_iff]

@[simp] theorem runs_ask_iff {Op : Type u} {Result : Op → Type u} {op : Op}
    {trace : Trace Op Result} {value : Result op} :
    (ask op : Program Op Result (Result op)).Runs trace value ↔ trace = [⟨op, value⟩] := by
  simp only [ask, runs_perform_iff, runs_done_iff]
  constructor
  · rintro ⟨result, tail, rfl, rfl, rfl⟩
    rfl
  · rintro rfl
    exact ⟨value, [], rfl, rfl, rfl⟩

/-- Advances compose at the program they meet in. -/
theorem Advances.trans {program middle rest : Program Op Result α}
    {first second : Trace Op Result} (before : program.Advances first middle)
    (after : middle.Advances second rest) : program.Advances (first ++ second) rest := by
  induction before with
  | refl => exact after
  | perform _ ih => exact .perform (ih after)

/-- Composition advances with its first part. -/
theorem Advances.bind {program middle : Program Op Result α} {trace : Trace Op Result}
    (advance : program.Advances trace middle) (rest : α → Program Op Result β) :
    (program >>= rest).Advances trace (middle >>= rest) := by
  induction advance with
  | refl => exact .refl
  | perform _ ih => exact .perform ih

/-- A composition returns exactly when its first part returns and the rest
returns from there. -/
theorem runs_bind_iff {program : Program Op Result α} {rest : α → Program Op Result β}
    {trace : Trace Op Result} {value : β} :
    (program >>= rest).Runs trace value ↔
      ∃ first middle second, trace = first ++ second ∧ program.Runs first middle ∧
        (rest middle).Runs second value := by
  constructor
  · intro run
    induction program generalizing trace with
    | done middle => exact ⟨[], middle, trace, rfl, .refl, run⟩
    | perform op next ih =>
        obtain ⟨result, tail, rfl, tailRun⟩ := runs_perform_iff.mp run
        obtain ⟨first, middle, second, rfl, before, after⟩ := ih result tailRun
        exact ⟨⟨op, result⟩ :: first, middle, second, rfl, .perform before, after⟩
  · rintro ⟨first, middle, second, rfl, before, after⟩
    exact (Advances.bind before rest).trans after

/-- What is left of a composition is what is left of its first part, or of the rest. -/
theorem advances_bind_iff {program : Program Op Result α} {rest : α → Program Op Result β}
    {trace : Trace Op Result} {left : Program Op Result β} :
    (program >>= rest).Advances trace left ↔
      (∃ middle, program.Advances trace middle ∧ left = middle >>= rest) ∨
        ∃ first value second, trace = first ++ second ∧ program.Runs first value ∧
          (rest value).Advances second left := by
  constructor
  · intro advance
    induction program generalizing trace with
    | done value => exact .inr ⟨[], value, trace, rfl, .refl, advance⟩
    | perform op next ih =>
        rcases advances_perform_iff.mp advance with ⟨rfl, rfl⟩ | ⟨result, tail, rfl, tailAdvance⟩
        · exact .inl ⟨_, .refl, rfl⟩
        · rcases ih result tailAdvance with ⟨middle, before, rfl⟩ | ⟨first, value, second, rfl, before, after⟩
          · exact .inl ⟨middle, .perform before, rfl⟩
          · exact .inr ⟨⟨op, result⟩ :: first, value, second, rfl, .perform before, after⟩
  · rintro (⟨middle, before, rfl⟩ | ⟨first, value, second, rfl, before, after⟩)
    · exact before.bind rest
    · exact (Advances.bind before rest).trans after

/-- A composition with an early exit runs to the exit, or past its first part. -/
theorem runs_exceptT_bind_iff {ε : Type w} {program : ExceptT ε (Program Op Result) α}
    {rest : α → ExceptT ε (Program Op Result) β} {trace : Trace Op Result} {value : Except ε β} :
    (program >>= rest).run.Runs trace value ↔
      (∃ error, program.run.Runs trace (.error error) ∧ value = .error error) ∨
        ∃ first middle second, trace = first ++ second ∧ program.run.Runs first (.ok middle) ∧
          (rest middle).run.Runs second value := by
  rw [ExceptT.run_bind, runs_bind_iff]
  constructor
  · rintro ⟨first, middle, second, rfl, before, after⟩
    cases middle with
    | ok middle => exact .inr ⟨first, middle, second, rfl, before, after⟩
    | error error =>
        obtain ⟨rfl, rfl⟩ := runs_done_iff.mp after
        exact .inl ⟨error, by simpa using before, rfl⟩
  · rintro (⟨error, before, rfl⟩ | ⟨first, middle, second, rfl, before, after⟩)
    · exact ⟨trace, .error error, [], by simp, before, .refl⟩
    · exact ⟨first, .ok middle, second, rfl, before, after⟩

/-- A composition which returns has not left early. -/
theorem runs_exceptT_bind_ok_iff {ε : Type w} {program : ExceptT ε (Program Op Result) α}
    {rest : α → ExceptT ε (Program Op Result) β} {trace : Trace Op Result} {value : β} :
    (program >>= rest).run.Runs trace (.ok value) ↔
      ∃ first middle second, trace = first ++ second ∧ program.run.Runs first (.ok middle) ∧
        (rest middle).run.Runs second (.ok value) := by
  rw [runs_exceptT_bind_iff]
  constructor
  · rintro (⟨error, _, same⟩ | composed)
    · cases same
    · exact composed
  · exact .inr

theorem exceptT_lift_bind {ε : Type w} (program : Program Op Result α)
    (rest : α → ExceptT ε (Program Op Result) β) :
    ((liftM program : ExceptT ε (Program Op Result) α) >>= rest).run =
      program >>= fun value => (rest value).run := by
  induction program with
  | done value => rfl
  | perform op next ih => exact congrArg (Program.perform op) (funext fun result => ih result)

/-- A lifted program before the rest runs as it does alone. -/
theorem runs_exceptT_lift_bind_iff {ε : Type w} {program : Program Op Result α}
    {rest : α → ExceptT ε (Program Op Result) β} {trace : Trace Op Result} {value : Except ε β} :
    ((liftM program : ExceptT ε (Program Op Result) α) >>= rest).run.Runs trace value ↔
      ∃ first middle second, trace = first ++ second ∧ program.Runs first middle ∧
        (rest middle).run.Runs second value := by
  rw [exceptT_lift_bind, runs_bind_iff]

/-! ## The operations a program can perform -/

/-- Every operation the program can perform, whatever the answers, is `allowed`. -/
def Only (allowed : Op → Prop) : Program Op Result α → Prop
  | .done _ => True
  | .perform op next => allowed op ∧ ∀ result, (next result).Only allowed

@[simp] theorem only_done {allowed : Op → Prop} {value : α} :
    (Program.done value : Program Op Result α).Only allowed := trivial

@[simp] theorem only_perform_iff {allowed : Op → Prop} {op : Op}
    {next : Result op → Program Op Result α} :
    (Program.perform op next).Only allowed ↔ allowed op ∧ ∀ result, (next result).Only allowed :=
  Iff.rfl

theorem only_bind {allowed : Op → Prop} {program : Program Op Result α}
    {rest : α → Program Op Result β} (first : program.Only allowed)
    (second : ∀ value, (rest value).Only allowed) : (program >>= rest).Only allowed := by
  induction program with
  | done value => exact second value
  | perform op next ih => exact ⟨first.1, fun result => ih result (first.2 result)⟩

theorem only_exceptT_bind {ε : Type w} {allowed : Op → Prop}
    {program : ExceptT ε (Program Op Result) α} {rest : α → ExceptT ε (Program Op Result) β}
    (first : program.run.Only allowed) (second : ∀ value, (rest value).run.Only allowed) :
    (program >>= rest).run.Only allowed := by
  rw [ExceptT.run_bind]
  refine only_bind first fun value => ?_
  cases value with
  | ok value => exact second value
  | error error => trivial

theorem only_exceptT_lift_bind {ε : Type w} {allowed : Op → Prop} {program : Program Op Result α}
    {rest : α → ExceptT ε (Program Op Result) β} (first : program.Only allowed)
    (second : ∀ value, (rest value).run.Only allowed) :
    ((liftM program : ExceptT ε (Program Op Result) α) >>= rest).run.Only allowed := by
  rw [exceptT_lift_bind]
  exact only_bind first second

theorem only_true (program : Program Op Result α) : program.Only fun _ => True := by
  induction program with
  | done value => trivial
  | perform op next ih => exact ⟨trivial, ih⟩

theorem Only.mono {allowed larger : Op → Prop} {program : Program Op Result α}
    (only : program.Only allowed) (implies : ∀ op, allowed op → larger op) :
    program.Only larger := by
  induction program with
  | done value => trivial
  | perform op next ih => exact ⟨implies op only.1, fun result => ih result (only.2 result)⟩

/-- Advancing performs allowed operations only, and leaves a program that does. -/
theorem Only.advances {allowed : Op → Prop} {program rest : Program Op Result α}
    {trace : Trace Op Result} (only : program.Only allowed) (advance : program.Advances trace rest) :
    (∀ exchange ∈ trace, allowed exchange.1) ∧ rest.Only allowed := by
  induction advance with
  | refl => exact ⟨by simp, only⟩
  | perform _ ih =>
      obtain ⟨tail, restOnly⟩ := ih (only.2 _)
      refine ⟨?_, restOnly⟩
      intro exchange member
      rcases List.mem_cons.mp member with rfl | member
      · exact only.1
      · exact tail exchange member

/-- A program which performs something its first part cannot has passed that part. -/
theorem advances_bind_of_only {allowed : Op → Prop} {program : Program Op Result α}
    {rest : α → Program Op Result β} {earlier : Trace Op Result} {exchange : Exchange Op Result}
    {left : Program Op Result β} (only : program.Only allowed) (beyond : ¬ allowed exchange.1)
    (advance : (program >>= rest).Advances (earlier ++ [exchange]) left) :
    ∃ first value second, earlier = first ++ second ∧ program.Runs first value ∧
      (rest value).Advances (second ++ [exchange]) left := by
  rcases advances_bind_iff.mp advance with ⟨middle, before, _⟩ | ⟨first, value, second, split, before, after⟩
  · exact absurd ((only.advances before).1 exchange (by simp)) beyond
  · rcases List.eq_nil_or_concat second with rfl | ⟨front, last, rfl⟩
    · rw [List.append_nil] at split
      have member : exchange ∈ first := by simp [← split]
      exact absurd ((only.advances before).1 exchange member) beyond
    · rw [List.concat_eq_append, ← List.append_assoc] at split
      obtain ⟨rfl, same⟩ := List.append_inj' split rfl
      obtain rfl := List.singleton_inj.mp same
      exact ⟨first, value, front, rfl, before, by simpa using after⟩

theorem advances_exceptT_bind_of_only {ε : Type w} {allowed : Op → Prop}
    {program : ExceptT ε (Program Op Result) α} {rest : α → ExceptT ε (Program Op Result) β}
    {earlier : Trace Op Result} {exchange : Exchange Op Result}
    {left : Program Op Result (Except ε β)} (only : program.run.Only allowed)
    (beyond : ¬ allowed exchange.1)
    (advance : (program >>= rest).run.Advances (earlier ++ [exchange]) left) :
    ∃ first value second, earlier = first ++ second ∧ program.run.Runs first (.ok value) ∧
      (rest value).run.Advances (second ++ [exchange]) left := by
  rw [ExceptT.run_bind] at advance
  obtain ⟨first, value, second, rfl, before, after⟩ := advances_bind_of_only only beyond advance
  cases value with
  | ok value => exact ⟨first, value, second, rfl, before, after⟩
  | error error =>
      have stopped := (advances_done_iff.mp after).1
      simp at stopped

/-- A conclusion which performs nothing leaves an advance of what it concludes. -/
theorem advances_of_map {program : Program Op Result α} {conclusion : α → Program Op Result β}
    {trace : Trace Op Result} {left : Program Op Result β}
    (final : ∀ value, ∃ result, conclusion value = .done result)
    (advance : (program >>= conclusion).Advances trace left) :
    ∃ middle, program.Advances trace middle := by
  rcases advances_bind_iff.mp advance with ⟨middle, before, _⟩ | ⟨first, value, second, rfl, before, after⟩
  · exact ⟨middle, before⟩
  · obtain ⟨result, same⟩ := final value
    rw [same] at after
    obtain ⟨rfl, _⟩ := advances_done_iff.mp after
    rw [List.append_nil]
    exact ⟨_, before⟩

end Program
end EzoProvider.Interaction
