import EzoProvider.Interaction.Program
import Mathlib.Algebra.GroupWithZero.Nat

/-!
# What a run costs

A tariff admits some exchanges and puts a price on them. `CostsAtMost` is a triple
over it: whatever the admitted answers, a run costs at most so much and returns a
value which meets a postcondition. `CanCost` exhibits a run at a price.
-/

namespace EzoProvider.Interaction

universe u v w

/-- The exchanges to be counted on, and what each of them costs. -/
structure Tariff (Op : Type u) (Result : Op → Type v) where
  Admits : (op : Op) → Result op → Prop
  price : (op : Op) → Result op → Nat

variable {Op : Type u} {Result : Op → Type v}

namespace Tariff

variable (tariff : Tariff Op Result)

/-- A trace of admitted exchanges. -/
def Admitted (trace : Trace Op Result) : Prop :=
  ∀ exchange ∈ trace, tariff.Admits exchange.1 exchange.2

/-- The price of a trace. -/
def total (trace : Trace Op Result) : Nat :=
  (trace.map fun exchange => tariff.price exchange.1 exchange.2).sum

variable {tariff}

@[simp] theorem admitted_nil : tariff.Admitted [] := by simp [Admitted]

@[simp] theorem admitted_cons_iff {exchange : Exchange Op Result} {trace : Trace Op Result} :
    tariff.Admitted (exchange :: trace) ↔
      tariff.Admits exchange.1 exchange.2 ∧ tariff.Admitted trace := by
  simp [Admitted]

@[simp] theorem admitted_append_iff {first second : Trace Op Result} :
    tariff.Admitted (first ++ second) ↔ tariff.Admitted first ∧ tariff.Admitted second := by
  simp [Admitted, or_imp, forall_and]

@[simp] theorem total_nil : tariff.total [] = 0 := rfl

@[simp] theorem total_cons (exchange : Exchange Op Result) (trace : Trace Op Result) :
    tariff.total (exchange :: trace) =
      tariff.price exchange.1 exchange.2 + tariff.total trace := by
  simp [total]

@[simp] theorem total_append (first second : Trace Op Result) :
    tariff.total (first ++ second) = tariff.total first + tariff.total second := by
  simp [total]

end Tariff

namespace Program

variable {α β : Type w} {ε : Type w} {tariff : Tariff Op Result}

/-- However it is answered, a run costs at most `bound` and returns a value which meets
`post`. -/
def CostsAtMost (tariff : Tariff Op Result) (program : Program Op Result α) (bound : Nat)
    (post : α → Prop) : Prop :=
  ∀ ⦃trace value⦄, program.Runs trace value → tariff.Admitted trace →
    tariff.total trace ≤ bound ∧ post value

/-- Some run costs `cost` and returns `value`. -/
def CanCost (tariff : Tariff Op Result) (program : Program Op Result α) (cost : Nat)
    (value : α) : Prop :=
  ∃ trace, program.Runs trace value ∧ tariff.Admitted trace ∧ tariff.total trace = cost

/-- An outcome which is no early exit, and whose value meets `post`. -/
def Returning (post : α → Prop) (outcome : Except ε α) : Prop :=
  ∃ value, outcome = .ok value ∧ post value

/-! ## Bounds -/

section Bounds

variable {program : Program Op Result α} {bound later : Nat} {post : α → Prop} {after : β → Prop}

theorem costsAtMost_done {value : α} (meets : post value) :
    (.done value : Program Op Result α).CostsAtMost tariff 0 post := by
  intro trace result run _
  obtain ⟨rfl, rfl⟩ := runs_done_iff.mp run
  exact ⟨le_refl 0, meets⟩

theorem costsAtMost_ask {Op : Type u} {Result : Op → Type u} {tariff : Tariff Op Result} {op : Op}
    {post : Result op → Prop}
    (each : ∀ result, tariff.Admits op result → tariff.price op result ≤ bound ∧ post result) :
    (ask op : Program Op Result (Result op)).CostsAtMost tariff bound post := by
  intro trace value run admitted
  obtain rfl := runs_ask_iff.mp run
  simpa using each value (by simpa using admitted)

theorem CostsAtMost.bind {rest : α → Program Op Result β}
    (first : program.CostsAtMost tariff bound post)
    (second : ∀ value, post value → (rest value).CostsAtMost tariff later after) :
    (program >>= rest).CostsAtMost tariff (bound + later) after := by
  intro trace value run admitted
  obtain ⟨front, middle, back, rfl, before, onward⟩ := runs_bind_iff.mp run
  obtain ⟨frontAdmitted, backAdmitted⟩ := Tariff.admitted_append_iff.mp admitted
  obtain ⟨frontCost, meets⟩ := first before frontAdmitted
  obtain ⟨backCost, meetsAfter⟩ := second middle meets onward backAdmitted
  rw [Tariff.total_append]
  exact ⟨by omega, meetsAfter⟩

/-- What follows for nothing adds nothing. -/
theorem CostsAtMost.bind_free {rest : α → Program Op Result β}
    (first : program.CostsAtMost tariff bound post)
    (second : ∀ value, post value → (rest value).CostsAtMost tariff 0 after) :
    (program >>= rest).CostsAtMost tariff bound after :=
  first.bind second

theorem CostsAtMost.mono {larger : Nat} {weaker : α → Prop}
    (costs : program.CostsAtMost tariff bound post) (room : bound ≤ larger)
    (implies : ∀ value, post value → weaker value) : program.CostsAtMost tariff larger weaker := by
  intro trace value run admitted
  obtain ⟨cost, meets⟩ := costs run admitted
  exact ⟨cost.trans room, implies value meets⟩

/-- A part with an early exit, which is not taken. -/
theorem CostsAtMost.exceptT_bind {part : ExceptT ε (Program Op Result) α}
    {rest : α → ExceptT ε (Program Op Result) β} {after : Except ε β → Prop}
    (first : part.run.CostsAtMost tariff bound (Returning post))
    (second : ∀ value, post value → (rest value).run.CostsAtMost tariff later after) :
    (part >>= rest).run.CostsAtMost tariff (bound + later) after := by
  rw [ExceptT.run_bind]
  apply first.bind
  rintro _ ⟨value, rfl, meets⟩
  exact second value meets

theorem CostsAtMost.exceptT_lift_bind {rest : α → ExceptT ε (Program Op Result) β}
    {after : Except ε β → Prop} (first : program.CostsAtMost tariff bound post)
    (second : ∀ value, post value → (rest value).run.CostsAtMost tariff later after) :
    ((liftM program : ExceptT ε (Program Op Result) α) >>= rest).run.CostsAtMost tariff
      (bound + later) after := by
  rw [Program.exceptT_lift_bind]
  exact first.bind second

theorem CostsAtMost.exceptT_lift (costs : program.CostsAtMost tariff bound post) :
    (liftM program : ExceptT ε (Program Op Result) α).run.CostsAtMost tariff bound
      (Returning post) := by
  apply costs.bind_free
  intro value meets
  exact costsAtMost_done ⟨value, rfl, meets⟩

end Bounds

/-! ## Runs at a price -/

section Prices

variable {program : Program Op Result α} {cost later total : Nat} {value : α} {result : β}

theorem canCost_done : (.done value : Program Op Result α).CanCost tariff 0 value :=
  ⟨[], runs_done_iff.mpr ⟨rfl, rfl⟩, by simp, rfl⟩

theorem canCost_ask {Op : Type u} {Result : Op → Type u} {tariff : Tariff Op Result} {op : Op}
    {value : Result op} (admits : tariff.Admits op value) :
    (ask op : Program Op Result (Result op)).CanCost tariff (tariff.price op value) value :=
  ⟨_, runs_ask_iff.mpr rfl, by simpa using admits, by simp⟩

theorem CanCost.bind {rest : α → Program Op Result β} (first : program.CanCost tariff cost value)
    (second : (rest value).CanCost tariff later result) (sum : total = cost + later) :
    (program >>= rest).CanCost tariff total result := by
  obtain ⟨front, before, frontAdmitted, rfl⟩ := first
  obtain ⟨back, onward, backAdmitted, rfl⟩ := second
  subst sum
  exact ⟨_, runs_bind_iff.mpr ⟨front, value, back, rfl, before, onward⟩,
    Tariff.admitted_append_iff.mpr ⟨frontAdmitted, backAdmitted⟩, Tariff.total_append _ _⟩

theorem CanCost.exceptT_bind {part : ExceptT ε (Program Op Result) α}
    {rest : α → ExceptT ε (Program Op Result) β} {outcome : Except ε β}
    (first : part.run.CanCost tariff cost (.ok value))
    (second : (rest value).run.CanCost tariff later outcome)
    (sum : total = cost + later) :
    (part >>= rest).run.CanCost tariff total outcome := by
  rw [ExceptT.run_bind]
  exact first.bind second sum

theorem CanCost.exceptT_lift_bind {rest : α → ExceptT ε (Program Op Result) β}
    {outcome : Except ε β} (first : program.CanCost tariff cost value)
    (second : (rest value).run.CanCost tariff later outcome)
    (sum : total = cost + later) :
    ((liftM program : ExceptT ε (Program Op Result) α) >>= rest).run.CanCost tariff total
      outcome := by
  rw [Program.exceptT_lift_bind]
  exact first.bind second sum

theorem CanCost.exceptT_lift (costs : program.CanCost tariff cost value) :
    (liftM program : ExceptT ε (Program Op Result) α).run.CanCost tariff cost (.ok value) :=
  costs.bind canCost_done rfl

end Prices

end Program
end EzoProvider.Interaction
