import EzoProvider.Interaction.CheckedLoop
import EzoProvider.Runtime.Conformance

/-!
# The order of the compensation arguments

`validate_compensation_args` goes over the entries of a map in whatever order the
map gives them and returns at the first it refuses. The values taken do not
depend on the order; the error code does, when the map has faults of two codes.
-/

namespace EzoProvider.Runtime

open Interaction Devices

/-- What a check comes to: the code of its error, or the arguments it filled in. -/
def validationOutcome (checked : Except AdapterCallResult ControlArgs) : Except Code ControlArgs :=
  checked.mapError AdapterCallResult.errorCode

/-- An entry with a number outside the range of its field. -/
def OutOfRange (type : EzoDeviceType) (entry : String × Value) : Prop :=
  ∃ field number, (compensationFields type).find? (·.name = entry.1) = some field ∧
    entry.2.type = .double ∧ entry.2.doubleValue = .finite number ∧
      (number < field.min ∨ field.max < number)

/-- An entry of an unknown name, of another type, or with no finite number. -/
def Unfit (type : EzoDeviceType) (entry : String × Value) : Prop :=
  (compensationFields type).find? (·.name = entry.1) = none ∨ entry.2.type ≠ .double ∨
    ∀ number, entry.2.doubleValue ≠ .finite number

open Classical in
/-- The code an entry is refused with, if it is. -/
noncomputable def argFault (type : EzoDeviceType) (entry : String × Value) : Option Code :=
  if Unfit type entry then some .invalidArgument
  else if OutOfRange type entry then some .outOfRange
  else none

/-- The values with that of an entry the loop takes. -/
def takeArg (type : EzoDeviceType) (values : Compensation) (entry : String × Value) :
    Compensation :=
  match (compensationFields type).find? (·.name = entry.1), entry.2.doubleValue with
  | some field, .finite number => field.set values number
  | _, _ => values

section Entries

variable {type : EzoDeviceType} {entry : String × Value}

theorem not_unfit_iff :
    ¬ Unfit type entry ↔ ∃ field number,
      (compensationFields type).find? (·.name = entry.1) = some field ∧
        entry.2.type = .double ∧ entry.2.doubleValue = .finite number := by
  simp only [Unfit, not_or, not_not, not_forall, ← ne_eq, Option.ne_none_iff_exists']
  constructor
  · rintro ⟨⟨field, named⟩, double, number, finite⟩
    exact ⟨field, number, named, double, finite⟩
  · rintro ⟨field, number, named, double, finite⟩
    exact ⟨⟨field, named⟩, double, number, finite⟩

theorem OutOfRange.not_unfit (outside : OutOfRange type entry) : ¬ Unfit type entry := by
  obtain ⟨field, number, named, double, finite, _⟩ := outside
  exact not_unfit_iff.mpr ⟨field, number, named, double, finite⟩

theorem argFault_eq_invalidArgument_iff :
    argFault type entry = some .invalidArgument ↔ Unfit type entry := by
  rw [argFault]
  split
  · simpa
  · split <;> simpa

theorem argFault_eq_outOfRange_iff :
    argFault type entry = some .outOfRange ↔ OutOfRange type entry := by
  rw [argFault]
  split
  · next unfit => simpa using fun outside : OutOfRange type entry => outside.not_unfit unfit
  · split <;> simpa

/-! ## One pass -/

theorem validateCompensationArg_of_unfit (unfit : Unfit type entry) (values : Compensation) :
    ∃ refusal, validateCompensationArg (compensationFields type) values entry = .error refusal ∧
      refusal.errorCode = .invalidArgument := by
  obtain ⟨name, value⟩ := entry
  simp only [validateCompensationArg]
  cases named : (compensationFields type).find? (·.name = name) with
  | none => exact ⟨_, rfl, rfl⟩
  | some field =>
      by_cases double : value.type = .double
      · rcases unfit with absent | mistyped | unbounded
        · cases absent.symm.trans named
        · exact absurd double mistyped
        · cases number : value.doubleValue with
          | finite number' => exact absurd number (unbounded number')
          | _ =>
              simp only [double, ne_eq, not_true_eq_false, if_false]
              exact ⟨_, rfl, rfl⟩
      · simp only [ne_eq, double, not_false_eq_true, if_true]
        exact ⟨_, rfl, rfl⟩

theorem validateCompensationArg_of_outOfRange (outside : OutOfRange type entry)
    (values : Compensation) :
    ∃ refusal, validateCompensationArg (compensationFields type) values entry = .error refusal ∧
      refusal.errorCode = .outOfRange := by
  obtain ⟨name, value⟩ := entry
  obtain ⟨field, number, named, double, finite, bounds⟩ := outside
  dsimp only at named double finite
  simp only [validateCompensationArg, named, double, finite, if_pos bounds, ne_eq,
    not_true_eq_false, if_false]
  exact ⟨_, rfl, rfl⟩

theorem validateCompensationArg_of_fit (fit : ¬ Unfit type entry)
    (within : ¬ OutOfRange type entry) (values : Compensation) :
    validateCompensationArg (compensationFields type) values entry =
      .ok (takeArg type values entry) := by
  obtain ⟨name, value⟩ := entry
  obtain ⟨field, number, named, double, finite⟩ := not_unfit_iff.mp fit
  have bounds : ¬ (number < field.min ∨ field.max < number) := fun outside =>
    within ⟨field, number, named, double, finite, outside⟩
  dsimp only at named double finite
  simp only [validateCompensationArg, takeArg, named, double, finite, if_neg bounds, ne_eq,
    not_true_eq_false, if_false]
  rfl

/-- The loop of `validate_compensation_args` checks what it gathers. -/
theorem checks_validateCompensationArg (type : EzoDeviceType) :
    Checks (validateCompensationArg (compensationFields type)) AdapterCallResult.errorCode
      (argFault type) (takeArg type) := by
  constructor
  · intro entry found values refused
    rw [argFault] at refused
    split at refused
    · next unfit =>
        obtain rfl := Option.some.inj refused
        exact validateCompensationArg_of_unfit unfit values
    · split at refused
      · next outside =>
          obtain rfl := Option.some.inj refused
          exact validateCompensationArg_of_outOfRange outside values
      · cases refused
  · intro entry values passed
    rw [argFault] at passed
    split at passed
    · cases passed
    · next fit =>
        split at passed
        · cases passed
        · next within => exact validateCompensationArg_of_fit fit within values

end Entries

/-! ## The values taken -/

/-- Numbers for different fields go to different places. -/
theorem set_comm {type : EzoDeviceType} {one two : CompensationField}
    (member : one ∈ compensationFields type) (member' : two ∈ compensationFields type)
    (different : one.name ≠ two.name) (values : Compensation) (number number' : ℚ) :
    two.set (one.set values number) number' = one.set (two.set values number') number := by
  rw [compensationFields] at member member'
  split at member
  · simp only [List.mem_cons, List.not_mem_nil, or_false] at member
    rw [if_pos (by assumption)] at member'
    simp only [List.mem_cons, List.not_mem_nil, or_false] at member'
    rcases member with rfl | rfl | rfl <;> rcases member' with rfl | rfl | rfl <;>
      first | rfl | exact absurd rfl different
  · rw [if_neg (by assumption)] at member'
    obtain rfl := List.mem_singleton.mp member
    obtain rfl := List.mem_singleton.mp member'
    exact absurd rfl different

theorem takeArg_comm {type : EzoDeviceType} {one two : String × Value}
    (different : one.1 ≠ two.1) (values : Compensation) :
    takeArg type (takeArg type values one) two = takeArg type (takeArg type values two) one := by
  simp only [takeArg]
  split
  · next field number named finite =>
      split
      · next field' number' named' finite' =>
          apply set_comm (List.mem_of_find?_eq_some named') (List.mem_of_find?_eq_some named)
          have first : field'.name = one.1 := by simpa using List.find?_some named'
          have second : field.name = two.1 := by simpa using List.find?_some named
          rw [first, second]
          exact different
      · rfl
  · rfl

/-- The order of the entries of a map is nothing to the values taken. -/
theorem foldl_takeArg_perm {type : EzoDeviceType} {args other : ValueMap}
    (perm : other.entries.Perm args.entries) (values : Compensation) :
    other.entries.foldl (takeArg type) values = args.entries.foldl (takeArg type) values := by
  apply perm.foldl_eq'
  intro one member two member' values
  by_cases same : one.1 = two.1
  · rw [List.inj_on_of_nodup_map other.distinct member member' same]
  · exact takeArg_comm same values

/-! ## The outcome -/

/-- The outcome of the check: the fault of the first entry refused, or the values taken. -/
theorem validationOutcome_eq (type : EzoDeviceType) (args : ValueMap) (out : ControlArgs) :
    validationOutcome (validateCompensationArgs type args out) =
      match args.entries.findSome? (argFault type) with
      | some code => .error code
      | none =>
          let compensation := args.entries.foldl (takeArg type) out.compensation
          if compensation.temperatureC.isNone then .error .invalidArgument
          else .ok { out with compensation } := by
  have loop := (checks_validateCompensationArg type).foldlM args.entries out.compensation
  rw [validationOutcome, validateCompensationArgs]
  cases folded :
      args.entries.foldlM (validateCompensationArg (compensationFields type)) out.compensation with
  | error refusal =>
      rw [folded] at loop
      cases found : args.entries.findSome? (argFault type) with
      | none =>
          rw [found] at loop
          cases loop
      | some code =>
          rw [found] at loop
          obtain rfl := Except.error.inj loop
          rfl
  | ok compensation =>
      rw [folded] at loop
      cases found : args.entries.findSome? (argFault type) with
      | some code =>
          rw [found] at loop
          cases loop
      | none =>
          rw [found] at loop
          obtain rfl := Except.ok.inj loop
          dsimp only [bind, Except.bind]
          split <;> rfl

/-- Every order of a map's entries gives the same first fault exactly when they give the same
outcome. -/
theorem outcome_perm_iff {type : EzoDeviceType} {args other : ValueMap} {out : ControlArgs}
    (perm : other.entries.Perm args.entries) :
    validationOutcome (validateCompensationArgs type other out) =
        validationOutcome (validateCompensationArgs type args out) ↔
      other.entries.findSome? (argFault type) = args.entries.findSome? (argFault type) := by
  have clean : other.entries.findSome? (argFault type) = none ↔
      args.entries.findSome? (argFault type) = none := by
    simp only [List.findSome?_eq_none_iff, perm.mem_iff]
  rw [validationOutcome_eq, validationOutcome_eq, foldl_takeArg_perm perm]
  cases found : other.entries.findSome? (argFault type) with
  | none => simp [clean.mp found]
  | some code =>
      cases found' : args.entries.findSome? (argFault type) with
      | none => cases found.symm.trans (clean.mpr found')
      | some code' => simp

/-- The outcome of `validate_compensation_args` is the same for every order of the map's
entries exactly when the map does not have both a number out of its range and an entry that
is unknown, mistyped or not finite. -/
theorem compensation_outcome_order_free_iff (type : EzoDeviceType) (args : ValueMap)
    (out : ControlArgs) :
    (∀ other : ValueMap, other.entries.Perm args.entries →
      validationOutcome (validateCompensationArgs type other out) =
        validationOutcome (validateCompensationArgs type args out)) ↔
      ¬ ((∃ entry ∈ args.entries, OutOfRange type entry) ∧
        ∃ entry ∈ args.entries, Unfit type entry) := by
  have codes : ∀ entry code, argFault type entry = some code →
      code = .invalidArgument ∧ Unfit type entry ∨
        code = .outOfRange ∧ OutOfRange type entry := by
    intro entry code found
    rw [argFault] at found
    split at found
    · next unfit => exact .inl ⟨(Option.some.inj found).symm, unfit⟩
    · split at found
      · next outside => exact .inr ⟨(Option.some.inj found).symm, outside⟩
      · cases found
  have orders : (∀ other : ValueMap, other.entries.Perm args.entries →
      validationOutcome (validateCompensationArgs type other out) =
        validationOutcome (validateCompensationArgs type args out)) ↔
      ∀ entries : List (String × Value), entries.Perm args.entries →
        entries.findSome? (argFault type) = args.entries.findSome? (argFault type) := by
    constructor
    · intro same entries perm
      have distinct := (perm.map Prod.fst).nodup_iff.mpr args.distinct
      exact (outcome_perm_iff perm).mp (same ⟨entries, distinct⟩ perm)
    · intro same other perm
      exact (outcome_perm_iff perm).mpr (same other.entries perm)
  rw [orders, findSome?_perm_iff]
  constructor
  · rintro alone ⟨⟨entry, member, outside⟩, entry', member', unfit⟩
    cases alone entry member entry' member' _ _ (argFault_eq_outOfRange_iff.mpr outside)
      (argFault_eq_invalidArgument_iff.mpr unfit)
  · intro single entry member entry' member' code code' found found'
    rcases codes entry code found with ⟨rfl, unfit⟩ | ⟨rfl, outside⟩ <;>
      rcases codes entry' code' found' with ⟨rfl, unfit'⟩ | ⟨rfl, outside'⟩
    · rfl
    · exact absurd ⟨⟨entry', member', outside'⟩, entry, member, unfit⟩ single
    · exact absurd ⟨⟨entry, member, outside⟩, entry', member', unfit'⟩ single
    · rfl

/-- A temperature of 101 degrees beside an unknown name: out of range in one order, invalid in
the other, for both families. -/
theorem compensation_outcome_follows_order :
    let hot : String × Value := ("temperature_c", ⟨.double, some (.double (.finite 101))⟩)
    let unknown : String × Value := ("colour", ⟨.double, some (.double (.finite 1))⟩)
    let args : ValueMap := ⟨[hot, unknown], by decide⟩
    let other : ValueMap := ⟨[unknown, hot], by decide⟩
    other.entries.Perm args.entries ∧
      ∀ type ∈ [EzoDeviceType.ph, EzoDeviceType.dox],
        validationOutcome (validateCompensationArgs type args {}) = .error .outOfRange ∧
          validationOutcome (validateCompensationArgs type other {}) = .error .invalidArgument := by
  intro hot unknown args other
  refine ⟨List.Perm.swap _ _ _, ?_⟩
  decide +kernel

/-- Two numbers out of their ranges are refused alike in every order; one of them beside an
unknown name is not. -/
theorem compensation_outcome_order_free_iff_dox :
    let hot : String × Value := ("temperature_c", ⟨.double, some (.double (.finite 101))⟩)
    let fresh : String × Value := ("salinity_us_cm", ⟨.double, some (.double (.finite (-1)))⟩)
    let unknown : String × Value := ("colour", ⟨.double, some (.double (.finite 1))⟩)
    let ranges : ValueMap := ⟨[hot, fresh], by decide⟩
    let mixed : ValueMap := ⟨[hot, unknown], by decide⟩
    (∀ other : ValueMap, other.entries.Perm ranges.entries →
      validationOutcome (validateCompensationArgs .dox other {}) =
        validationOutcome (validateCompensationArgs .dox ranges {})) ∧
      ¬ ∀ other : ValueMap, other.entries.Perm mixed.entries →
        validationOutcome (validateCompensationArgs .dox other {}) =
          validationOutcome (validateCompensationArgs .dox mixed {}) := by
  intro hot fresh unknown ranges mixed
  have outside : OutOfRange .dox hot :=
    ⟨_, 101, rfl, rfl, rfl, .inr (by decide +kernel)⟩
  have below : OutOfRange .dox fresh :=
    ⟨_, -1, rfl, rfl, rfl, .inl (by decide +kernel)⟩
  constructor
  · refine (compensation_outcome_order_free_iff .dox ranges {}).mpr ?_
    rintro ⟨-, entry, member, unfit⟩
    rcases List.mem_pair.mp member with rfl | rfl
    · exact outside.not_unfit unfit
    · exact below.not_unfit unfit
  · rw [compensation_outcome_order_free_iff, not_not]
    exact ⟨⟨hot, List.mem_cons_self, outside⟩, unknown, by simp [mixed], .inl (by decide +kernel)⟩

end EzoProvider.Runtime
