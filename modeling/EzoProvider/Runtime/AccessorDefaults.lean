import EzoProvider.Runtime.Conformance

/-!
# The defaults of the accessors

The tag of a `Value` and its payload are independent, and the checks of a call
look at the tag alone: a value without the payload its tag names is taken for
the default its accessor gives. `filled` makes that explicit.
-/

namespace EzoProvider.Runtime

open Devices

/-! ## Defaults -/

/-- What the accessor of a type gives without a payload. -/
def ValueType.default : ValueType → Option Payload
  | .unspecified => none
  | .double => some (.double (.finite 0))
  | .int64 => some (.int64 0)
  | .uint64 => some (.uint64 0)
  | .bool => some (.bool false)
  | .string => some (.string "")
  | .bytes => some (.bytes [])

namespace Value

instance (value : Value) : Decidable value.Tagged :=
  match payload : value.payload with
  | some given =>
      decidable_of_iff (given.type = value.type) (by simp [Tagged, payload])
  | none => decidable_of_iff (value.type = .unspecified) (by simp [Tagged, payload])

/-- The value as the accessor of its type reports it. -/
def filled (value : Value) : Value :=
  if value.Tagged then value else { value with payload := value.type.default }

@[simp] theorem type_filled (value : Value) : value.filled.type = value.type := by
  rw [filled]
  split <;> rfl

theorem filled_of_tagged {value : Value} (tagged : value.Tagged) : value.filled = value :=
  if_pos tagged

theorem tagged_filled (value : Value) : value.filled.Tagged := by
  rw [filled]
  split
  · assumption
  · obtain ⟨type, payload⟩ := value
    cases type <;> rfl

theorem doubleValue_filled {value : Value} (double : value.type = .double) :
    value.filled.doubleValue = value.doubleValue := by
  by_cases tagged : value.Tagged
  · rw [filled_of_tagged tagged]
  · obtain ⟨type, payload⟩ := value
    obtain rfl : type = .double := double
    rw [filled, if_neg tagged]
    rcases payload with _ | payload
    · rfl
    · cases payload with
      | double => exact absurd rfl tagged
      | _ => rfl

theorem boolValue_filled {value : Value} (bool : value.type = .bool) :
    value.filled.boolValue = value.boolValue := by
  by_cases tagged : value.Tagged
  · rw [filled_of_tagged tagged]
  · obtain ⟨type, payload⟩ := value
    obtain rfl : type = .bool := bool
    rw [filled, if_neg tagged]
    rcases payload with _ | payload
    · rfl
    · cases payload with
      | bool => exact absurd rfl tagged
      | _ => rfl

theorem stringValue_filled {value : Value} (string : value.type = .string) :
    value.filled.stringValue = value.stringValue := by
  by_cases tagged : value.Tagged
  · rw [filled_of_tagged tagged]
  · obtain ⟨type, payload⟩ := value
    obtain rfl : type = .string := string
    rw [filled, if_neg tagged]
    rcases payload with _ | payload
    · rfl
    · cases payload with
      | string => exact absurd rfl tagged
      | _ => rfl

end Value

namespace ValueMap

/-- Every value as its accessor reports it. -/
def filled (args : ValueMap) : ValueMap where
  entries := args.entries.map fun entry => (entry.1, entry.2.filled)
  distinct := by simpa [Function.comp_def] using args.distinct

@[simp] theorem size_filled (args : ValueMap) : args.filled.size = args.size := by
  simp [size, filled]

theorem find_filled (args : ValueMap) (name : String) :
    args.filled.find name = (args.find name).map Value.filled := by
  simp [find, filled, List.find?_map, Function.comp_def]

theorem tagged_filled (args : ValueMap) : args.filled.Tagged := by
  intro entry member
  obtain ⟨other, _, rfl⟩ := List.mem_map.mp member
  exact other.2.tagged_filled

end ValueMap

/-! ## The checks take the defaults -/

theorem throw_bind_eq {α β : Type} (refused : AdapterCallResult)
    (rest : α → Except AdapterCallResult β) : (throw refused >>= rest) = throw refused :=
  rfl

theorem validateCompensationArg_filled (fields : List CompensationField) (values : Compensation)
    (name : String) (value : Value) :
    validateCompensationArg fields values (name, value.filled) =
      validateCompensationArg fields values (name, value) := by
  by_cases double : value.type = .double
  · simp only [validateCompensationArg, Value.type_filled, Value.doubleValue_filled double]
  · simp only [validateCompensationArg, Value.type_filled, double, not_false_eq_true, if_true,
      throw_bind_eq, ne_eq]

theorem validateCalibrateArgs_filled (type : EzoDeviceType) (args : ValueMap) (out : ControlArgs) :
    validateCalibrateArgs type args.filled out = validateCalibrateArgs type args out := by
  simp only [validateCalibrateArgs, ValueMap.find_filled, ValueMap.size_filled]
  cases found : args.find "point" with
  | none => rfl
  | some point =>
      by_cases string : point.type = .string
      · simp only [Option.map_some, Value.type_filled, Value.stringValue_filled string]
        cases found' : args.find "reference_ph" with
        | none => rfl
        | some reference =>
            by_cases double : reference.type = .double
            · simp only [Option.map_some, Value.type_filled, Value.doubleValue_filled double]
            · simp only [Option.map_some, Value.type_filled, double, not_false_eq_true, if_true,
                throw_bind_eq, ne_eq]
      · simp only [Option.map_some, Value.type_filled, string, not_false_eq_true, if_true,
          throw_bind_eq, ne_eq]

/-- A call is checked as if every default had been given. -/
theorem validateCallArgs_filled (functionId : Nat) (type : EzoDeviceType) (args : ValueMap) :
    validateCallArgs functionId type args.filled = validateCallArgs functionId type args := by
  simp only [validateCallArgs, ValueMap.size_filled, validateCalibrateArgs_filled]
  have compensation : validateCompensationArgs type args.filled {} =
      validateCompensationArgs type args {} := by
    simp only [validateCompensationArgs, ValueMap.filled, List.foldlM_map,
      validateCompensationArg_filled]
  rw [compensation, ValueMap.find_filled]
  cases found : args.find "enabled" with
  | none => rfl
  | some enabled =>
      by_cases bool : enabled.type = .bool
      · simp only [Option.map_some, Value.type_filled, Value.boolValue_filled bool]
      · simp only [Option.map_some, Value.type_filled, bool, not_false_eq_true, if_true,
          throw_bind_eq, ne_eq]

section Compensation

variable {type : EzoDeviceType} {args : ValueMap} {checked : ControlArgs}

/-- The compensation a call takes is the one given, defaults included. -/
theorem compensation_of_accepted
    (accepted : validateCallArgs kFunctionSetCompensation type args = .ok checked) :
    (∀ entry ∈ args.filled.entries, Fits (compensationFields type) entry) ∧
      checked = { compensation := givenCompensation args.filled.entries } := by
  rw [← validateCallArgs_filled] at accepted
  obtain ⟨fit, _, same⟩ := (passes_setCompensation_iff args.tagged_filled).mp accepted
  exact ⟨fit, same⟩

/-- No number is made up for a name which is not in the map. -/
theorem find_of_givenNumber {name : String}
    (given : (givenNumber args.filled.entries name).isSome = true) :
    (args.find name).isSome = true := by
  by_contra absent
  have unnamed : name ∉ args.filled.entries.map Prod.fst := by
    rw [← ValueMap.isSome_find_iff, ValueMap.find_filled]
    simpa using absent
  rw [ValueMap.givenNumber_of_absent unnamed] at given
  cases given

/-- A value is sent only for a field which was given. -/
theorem given_of_accepted
    (accepted : validateCallArgs kFunctionSetCompensation type args = .ok checked) :
    (checked.compensation.temperatureC.isSome = true →
        (args.find "temperature_c").isSome = true) ∧
      (checked.compensation.salinityUsCm.isSome = true →
        (args.find "salinity_us_cm").isSome = true) ∧
      (checked.compensation.pressureKpa.isSome = true →
        (args.find "pressure_kpa").isSome = true) := by
  obtain ⟨_, rfl⟩ := compensation_of_accepted accepted
  exact ⟨find_of_givenNumber, find_of_givenNumber, find_of_givenNumber⟩

end Compensation

end EzoProvider.Runtime
