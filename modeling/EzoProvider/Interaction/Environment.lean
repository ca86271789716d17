import EzoProvider.Interaction.Program

/-!
# The party that answers a program

An `Environment` is a state which answers operations, nondeterministically.
A `Path` is its side of a trace. `Completes` combines both sides: the program returns, and
leaves the environment in another state.

`Only.maintains` carries an invariant of the environment through a program with
no look at it beyond the operations it can perform; `completes_bind_iff` follows
its control flow.
-/

namespace EzoProvider.Interaction

universe u v w x

/-- A state which answers the operations `Op`. -/
structure Environment (Op : Type u) (Result : Op → Type v) (State : Type x) where
  Answers : State → (op : Op) → Result op → State → Prop

namespace Environment

variable {Op : Type u} {Result : Op → Type v} {State : Type x}
  (environment : Environment Op Result State)

/-- The environment goes from one state to another giving the answers of a trace. -/
inductive Path : State → Trace Op Result → State → Prop where
  | nil {state} : Path state [] state
  | cons {state op result middle trace final} (answer : environment.Answers state op result middle)
      (tail : Path middle trace final) : Path state (⟨op, result⟩ :: trace) final

variable {environment}

@[simp] theorem path_nil_iff {state final : State} :
    environment.Path state [] final ↔ final = state := by
  constructor
  · intro path
    cases path
    rfl
  · rintro rfl
    exact .nil

theorem path_cons_iff {state final : State} {exchange : Exchange Op Result}
    {trace : Trace Op Result} :
    environment.Path state (exchange :: trace) final ↔
      ∃ middle, environment.Answers state exchange.1 exchange.2 middle ∧
        environment.Path middle trace final := by
  constructor
  · intro path
    cases path with
    | cons answer tail => exact ⟨_, answer, tail⟩
  · rintro ⟨middle, answer, tail⟩
    exact .cons answer tail

theorem path_append_iff {state final : State} {first second : Trace Op Result} :
    environment.Path state (first ++ second) final ↔
      ∃ middle, environment.Path state first middle ∧ environment.Path middle second final := by
  induction first generalizing state with
  | nil => simp
  | cons exchange first ih =>
      simp only [List.cons_append, path_cons_iff, ih]
      constructor
      · rintro ⟨next, answer, middle, before, after⟩
        exact ⟨middle, ⟨next, answer, before⟩, after⟩
      · rintro ⟨middle, ⟨next, answer, before⟩, after⟩
        exact ⟨next, answer, middle, before, after⟩

theorem Path.trans {state middle final : State} {first second : Trace Op Result}
    (before : environment.Path state first middle)
    (after : environment.Path middle second final) :
    environment.Path state (first ++ second) final :=
  path_append_iff.mpr ⟨middle, before, after⟩

/-- A path of an environment is one of any which gives the same answers. -/
theorem Path.mono {larger : Environment Op Result State}
    (fewer : ∀ {state op result next}, environment.Answers state op result next →
      larger.Answers state op result next)
    {state final : State} {trace : Trace Op Result} (path : environment.Path state trace final) :
    larger.Path state trace final := by
  induction path with
  | nil => exact .nil
  | cons answer _ ih => exact .cons (fewer answer) ih

/-- A property kept by every answer to an allowed operation is kept by a trace of
allowed operations. -/
theorem Path.maintains {allowed : Op → Prop} {invariant : State → Prop}
    (kept : ∀ {state op result next}, allowed op → invariant state →
      environment.Answers state op result next → invariant next)
    {state final : State} {trace : Trace Op Result}
    (permitted : ∀ exchange ∈ trace, allowed exchange.1) (holds : invariant state)
    (path : environment.Path state trace final) : invariant final := by
  induction path with
  | nil => exact holds
  | cons answer _ ih =>
      apply ih
      · intro exchange member
        exact permitted exchange (List.mem_cons_of_mem _ member)
      · exact kept (permitted _ List.mem_cons_self) holds answer

end Environment

namespace Program

variable {Op : Type u} {Result : Op → Type v} {State : Type x} {α β : Type w}
  {environment : Environment Op Result State}

/-- A program of allowed operations maintains what every allowed operation keeps,
at every point of its execution. -/
theorem Only.maintains {allowed : Op → Prop} {invariant : State → Prop}
    (kept : ∀ {state op result next}, allowed op → invariant state →
      environment.Answers state op result next → invariant next)
    {program rest : Program Op Result α} (only : program.Only allowed)
    {state final : State} {trace : Trace Op Result} (holds : invariant state)
    (advance : program.Advances trace rest) (path : environment.Path state trace final) :
    invariant final :=
  path.maintains kept (only.advances advance).1 holds

/-! ## Complete executions -/

/-- Answered by the environment, the program returns `value` and leaves it in `final`. -/
def Completes (environment : Environment Op Result State) (program : Program Op Result α)
    (state : State) (value : α) (final : State) : Prop :=
  ∃ trace, program.Runs trace value ∧ environment.Path state trace final

@[simp] theorem completes_done_iff {state final : State} {value result : α} :
    Completes environment (.done value : Program Op Result α) state result final ↔
      result = value ∧ final = state := by
  constructor
  · rintro ⟨trace, run, path⟩
    obtain ⟨rfl, rfl⟩ := runs_done_iff.mp run
    exact ⟨rfl, Environment.path_nil_iff.mp path⟩
  · rintro ⟨rfl, rfl⟩
    exact ⟨[], .refl, .nil⟩

theorem completes_perform_iff {state final : State} {op : Op}
    {next : Result op → Program Op Result α} {value : α} :
    Completes environment (.perform op next) state value final ↔
      ∃ result middle, environment.Answers state op result middle ∧
        Completes environment (next result) middle value final := by
  constructor
  · rintro ⟨trace, run, path⟩
    obtain ⟨result, tail, rfl, rest⟩ := runs_perform_iff.mp run
    obtain ⟨middle, answer, later⟩ := Environment.path_cons_iff.mp path
    exact ⟨result, middle, answer, tail, rest, later⟩
  · rintro ⟨result, middle, answer, tail, rest, later⟩
    exact ⟨_, .perform rest, .cons answer later⟩

theorem completes_ask_iff {Op : Type u} {Result : Op → Type u}
    {environment : Environment Op Result State} {state final : State} {op : Op}
    {value : Result op} :
    Completes environment (ask op : Program Op Result (Result op)) state value final ↔
      environment.Answers state op value final := by
  simp only [ask, completes_perform_iff, completes_done_iff]
  constructor
  · rintro ⟨result, middle, answer, rfl, rfl⟩
    exact answer
  · intro answer
    exact ⟨value, final, answer, rfl, rfl⟩

theorem completes_bind_iff {state final : State} {program : Program Op Result α}
    {rest : α → Program Op Result β} {value : β} :
    Completes environment (program >>= rest) state value final ↔
      ∃ returned middle, Completes environment program state returned middle ∧
        Completes environment (rest returned) middle value final := by
  constructor
  · rintro ⟨trace, run, path⟩
    obtain ⟨front, returned, back, rfl, frontRun, backRun⟩ := runs_bind_iff.mp run
    obtain ⟨middle, frontPath, backPath⟩ := Environment.path_append_iff.mp path
    exact ⟨returned, middle, ⟨front, frontRun, frontPath⟩, back, backRun, backPath⟩
  · rintro ⟨returned, middle, ⟨front, frontRun, frontPath⟩, back, backRun, backPath⟩
    exact ⟨_, runs_bind_iff.mpr ⟨front, returned, back, rfl, frontRun, backRun⟩,
      frontPath.trans backPath⟩

/-! ## Programs which keep an invariant -/

/-- Whatever the answers, the program leaves an invariant of the environment as it was. -/
def Maintains (environment : Environment Op Result State) (invariant : State → Prop)
    (program : Program Op Result α) : Prop :=
  ∀ ⦃state value final⦄, invariant state → Completes environment program state value final →
    invariant final

theorem maintains_done {invariant : State → Prop} {value : α} :
    Maintains environment invariant (.done value : Program Op Result α) := by
  intro state result final holds completes
  rw [(completes_done_iff.mp completes).2]
  exact holds

theorem maintains_bind {invariant : State → Prop} {program : Program Op Result α}
    {rest : α → Program Op Result β} (first : Maintains environment invariant program)
    (second : ∀ value, Maintains environment invariant (rest value)) :
    Maintains environment invariant (program >>= rest) := by
  intro state value final holds completes
  obtain ⟨returned, middle, before, after⟩ := completes_bind_iff.mp completes
  exact second returned (first holds before) after

/-- A program of operations which keep it. -/
theorem maintains_of_only {allowed : Op → Prop} {invariant : State → Prop}
    {program : Program Op Result α} (only : program.Only allowed)
    (kept : ∀ {state op result next}, allowed op → invariant state →
      environment.Answers state op result next → invariant next) :
    Maintains environment invariant program := by
  rintro state value final holds ⟨trace, run, path⟩
  exact only.maintains kept holds run path

end Program
end EzoProvider.Interaction
