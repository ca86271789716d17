import EzoProvider.Runtime.Capabilities

/-!
# Arguments of control calls

`validate_call_args` over the argument map of a call. A number of the wire is a
double, so it can be NaN or infinite; past the finiteness check it is rational.
-/

namespace EzoProvider.Runtime

open Devices

/-- A `double` of the protocol. -/
inductive Double where
  | finite (value : ℚ)
  | nan
  | positiveInfinity
  | negativeInfinity
deriving DecidableEq, Repr

/-- The payload of a `Value`. -/
inductive Payload where
  | double (value : Double)
  | int64 (value : Int)
  | uint64 (value : Nat)
  | bool (value : Bool)
  | string (value : String)
  | bytes (value : List UInt8)
deriving DecidableEq, Repr

/-- `Value`: a type tag and the payload that is set, if any. -/
structure Value where
  type : ValueType
  payload : Option Payload := none
deriving DecidableEq, Repr

namespace Value

/-- The accessors give the type's default for a payload of another kind. -/
def doubleValue (value : Value) : Double :=
  match value.payload with
  | some (.double number) => number
  | _ => .finite 0

def boolValue (value : Value) : Bool :=
  match value.payload with
  | some (.bool flag) => flag
  | _ => false

def stringValue (value : Value) : String :=
  match value.payload with
  | some (.string text) => text
  | _ => ""

end Value

/-- A `ValueMap` in the order it is iterated in; its names are distinct. -/
structure ValueMap where
  entries : List (String × Value)
  distinct : (entries.map Prod.fst).Nodup

namespace ValueMap

/-- `find`. -/
def find (args : ValueMap) (name : String) : Option Value :=
  (args.entries.find? (·.1 = name)).map Prod.snd

/-- `size`. -/
def size (args : ValueMap) : Nat := args.entries.length

end ValueMap

/-- `Status::Code` of the device protocol. -/
inductive Code where
  | ok
  | invalidArgument
  | notFound
  | outOfRange
  | unavailable
  | deadlineExceeded
  | internal
deriving DecidableEq, Repr

/-- `AdapterCallResult`. -/
structure AdapterCallResult where
  ok : Bool
  errorCode : Code
  errorMessage : String
deriving DecidableEq, Repr

def callInvalidArgument (message : String) : AdapterCallResult := ⟨false, .invalidArgument, message⟩
def callOutOfRange (message : String) : AdapterCallResult := ⟨false, .outOfRange, message⟩
def callNotFound (message : String) : AdapterCallResult := ⟨false, .notFound, message⟩

/-- `calibration_points`. -/
def calibrationPoints : EzoDeviceType → List String
  | .ph => ["mid", "low", "high"]
  | .dox => ["atmospheric", "zero"]
  | _ => []

/-- `validate_calibrate_args`. -/
def validateCalibrateArgs (type : EzoDeviceType) (args : ValueMap) (out : ControlArgs) :
    Except AdapterCallResult ControlArgs := do
  let points := calibrationPoints type
  let some point := args.find "point" | throw (callInvalidArgument "missing required arg 'point'")
  if point.type ≠ .string then
    throw (callInvalidArgument "arg 'point' must be VALUE_TYPE_STRING")
  if point.stringValue ∉ points then
    throw (callInvalidArgument ("arg 'point' must be one of: " ++ ", ".intercalate points))
  let out := { out with calibrationPoint := points.idxOf point.stringValue }
  if type ≠ .ph then
    if args.size ≠ 1 then
      throw (callInvalidArgument "calibrate accepts only one arg: point")
    return out
  let some reference := args.find "reference_ph"
    | throw (callInvalidArgument "missing required arg 'reference_ph'")
  if args.size ≠ 2 then
    throw (callInvalidArgument "calibrate accepts only two args: point, reference_ph")
  if reference.type ≠ .double then
    throw (callInvalidArgument "arg 'reference_ph' must be VALUE_TYPE_DOUBLE")
  let .finite value := reference.doubleValue
    | throw (callInvalidArgument "arg 'reference_ph' must be finite")
  if value < 0 ∨ 14 < value then
    throw (callOutOfRange "arg 'reference_ph' must be between 0 and 14")
  return { out with referencePh := value }

/-- The `Field` table of `validate_compensation_args`. -/
structure CompensationField where
  name : String
  min : ℚ
  max : ℚ
  bounds : String
  set : Compensation → ℚ → Compensation

/-- The fields `set_compensation` takes for a family. -/
def compensationFields (type : EzoDeviceType) : List CompensationField :=
  let temperature : CompensationField :=
    ⟨"temperature_c", kMinTemperatureC, kMaxTemperatureC, "0 and 100",
      fun values number => { values with temperatureC := some number }⟩
  if type = .dox then
    -- `std::format` prints 100000.0 the shorter way.
    [temperature,
      ⟨"salinity_us_cm", kMinSalinityUsCm, kMaxSalinityUsCm, "0 and 1e+05",
        fun values number => { values with salinityUsCm := some number }⟩,
      ⟨"pressure_kpa", kMinPressureKpa, kMaxPressureKpa, "10 and 300",
        fun values number => { values with pressureKpa := some number }⟩]
  else [temperature]

/-- One pass of the loop of `validate_compensation_args`. -/
def validateCompensationArg (fields : List CompensationField) (values : Compensation)
    (entry : String × Value) : Except AdapterCallResult Compensation := do
  let (name, value) := entry
  let some field := fields.find? (·.name = name)
    | throw (callInvalidArgument ("set_compensation does not take arg '" ++ name ++ "'"))
  if value.type ≠ .double then
    throw (callInvalidArgument ("arg '" ++ name ++ "' must be VALUE_TYPE_DOUBLE"))
  let .finite number := value.doubleValue
    | throw (callInvalidArgument ("arg '" ++ name ++ "' must be finite"))
  if number < field.min ∨ field.max < number then
    throw (callOutOfRange ("arg '" ++ name ++ "' must be between " ++ field.bounds))
  return field.set values number

/-- `validate_compensation_args`. -/
def validateCompensationArgs (type : EzoDeviceType) (args : ValueMap) (out : ControlArgs) :
    Except AdapterCallResult ControlArgs := do
  let compensation ←
    args.entries.foldlM (validateCompensationArg (compensationFields type)) out.compensation
  if compensation.temperatureC.isNone then
    throw (callInvalidArgument "missing required arg 'temperature_c'")
  return { out with compensation }

/-- `validate_call_args`: the arguments filled in, or the error result. -/
def validateCallArgs (functionId : Nat) (type : EzoDeviceType) (args : ValueMap) :
    Except AdapterCallResult ControlArgs :=
  if functionId = kFunctionFind ∨ functionId = kFunctionSleep ∨
      functionId = kFunctionClearCalibration then
    if args.size ≠ 0 then .error (callInvalidArgument "function does not accept args")
    else .ok {}
  else if functionId = kFunctionSetLed then do
    let some enabled := args.find "enabled"
      | throw (callInvalidArgument "missing required arg 'enabled'")
    if args.size ≠ 1 then
      throw (callInvalidArgument "set_led accepts only one arg: enabled")
    if enabled.type ≠ .bool then
      throw (callInvalidArgument "arg 'enabled' must be VALUE_TYPE_BOOL")
    return { ledEnabled := enabled.boolValue }
  else if functionId = kFunctionCalibrate then validateCalibrateArgs type args {}
  else if functionId = kFunctionSetCompensation then validateCompensationArgs type args {}
  else .error (callInvalidArgument "unsupported function_id")

/-! ## Refusals -/

/-- A check whose errors are results of failed calls. -/
def Refuses {α : Type} (check : Except AdapterCallResult α) : Prop :=
  ∀ refusal, check = .error refusal → refusal.ok = false

section Refusals

variable {α β : Type}

theorem refuses_ok (value : α) : Refuses (.ok value) := by
  rintro refusal ⟨⟩

theorem refuses_throw {refused : AdapterCallResult} (failed : refused.ok = false) :
    Refuses (throw refused : Except AdapterCallResult α) := by
  rintro refusal ⟨⟩
  exact failed

theorem refuses_bind {first : Except AdapterCallResult α}
    {rest : α → Except AdapterCallResult β} (refuses : Refuses first)
    (later : ∀ value, Refuses (rest value)) : Refuses (first >>= rest) := by
  intro refusal failed
  cases first with
  | error refused =>
      cases failed
      exact refuses _ rfl
  | ok value => exact later value refusal failed

/-- A test which leaves the check when it fails. -/
theorem refuses_unless {condition : Prop} [Decidable condition] {refused : AdapterCallResult}
    {rest : PUnit → Except AdapterCallResult α} {second : Except AdapterCallResult α}
    (failed : refused.ok = false) (passes : Refuses second) :
    Refuses (if condition then throw refused >>= rest else second) := by
  split
  · rintro refusal ⟨⟩
    exact failed
  · exact passes

end Refusals

theorem refuses_validateCalibrateArgs (type : EzoDeviceType) (args : ValueMap)
    (out : ControlArgs) : Refuses (validateCalibrateArgs type args out) := by
  simp only [validateCalibrateArgs]
  split
  · refine refuses_unless rfl (refuses_unless rfl ?_)
    split
    · exact refuses_unless rfl (refuses_ok _)
    split
    · refine refuses_unless rfl (refuses_unless rfl ?_)
      split
      · exact refuses_unless rfl (refuses_ok _)
      · exact refuses_throw rfl
    · exact refuses_throw rfl
  · exact refuses_throw rfl

theorem refuses_validateCompensationArg (fields : List CompensationField) (values : Compensation)
    (entry : String × Value) : Refuses (validateCompensationArg fields values entry) := by
  simp only [validateCompensationArg]
  split
  · refine refuses_unless rfl ?_
    split
    · exact refuses_unless rfl (refuses_ok _)
    · exact refuses_throw rfl
  · exact refuses_throw rfl

theorem refuses_validateCompensationArgs (type : EzoDeviceType) (args : ValueMap)
    (out : ControlArgs) : Refuses (validateCompensationArgs type args out) := by
  refine refuses_bind ?_ fun compensation => refuses_unless rfl (refuses_ok _)
  generalize out.compensation = values
  induction args.entries generalizing values with
  | nil => exact refuses_ok _
  | cons entry entries ih =>
      rw [List.foldlM_cons]
      exact refuses_bind (refuses_validateCompensationArg _ _ _) ih

/-- A call whose arguments are refused fails. -/
theorem refuses_validateCallArgs (functionId : Nat) (type : EzoDeviceType) (args : ValueMap) :
    Refuses (validateCallArgs functionId type args) := by
  rw [validateCallArgs]
  split
  · split
    · exact refuses_throw rfl
    · exact refuses_ok _
  split
  · dsimp only
    split
    · exact refuses_unless rfl (refuses_unless rfl (refuses_ok _))
    · exact refuses_throw rfl
  split
  · exact refuses_validateCalibrateArgs _ _ _
  split
  · exact refuses_validateCompensationArgs _ _ _
  · exact refuses_throw rfl

/-! ## Values taken -/

/-- An argument the loop passes is a number in the bounds of its field. -/
theorem taken_of_validateCompensationArg {fields : List CompensationField}
    {values next : Compensation} {entry : String × Value}
    (valid : validateCompensationArg fields values entry = .ok next) :
    ∃ field ∈ fields, ∃ number, field.min ≤ number ∧ number ≤ field.max ∧
      next = field.set values number := by
  obtain ⟨name, value⟩ := entry
  cases found : fields.find? (·.name = name) with
  | none => simp [validateCompensationArg, found, throw, throwThe, MonadExceptOf.throw] at valid
  | some field =>
      refine ⟨field, List.mem_of_find?_eq_some found, ?_⟩
      simp only [validateCompensationArg, found] at valid
      split at valid
      · cases valid
      · split at valid
        · next number _ =>
            split at valid
            · cases valid
            · next within =>
                rw [not_or, Rat.not_lt, Rat.not_lt] at within
                cases valid
                exact ⟨number, within.1, within.2, rfl⟩
        · cases valid

/-- The values a family takes: a pH probe compensates for the temperature only. -/
def Takes (type : EzoDeviceType) (values : Compensation) : Prop :=
  type = .ph → values = { temperatureC := values.temperatureC }

theorem takes_of_validateCallArgs {type : EzoDeviceType} {args : ValueMap} {checked : ControlArgs}
    (accepted : validateCallArgs kFunctionSetCompensation type args = .ok checked) :
    Takes type checked.compensation := by
  rintro rfl
  have loop : ∀ (entries : List (String × Value)) (values next : Compensation),
      values = { temperatureC := values.temperatureC } →
      entries.foldlM (validateCompensationArg (compensationFields .ph)) values = .ok next →
      next = { temperatureC := next.temperatureC } := by
    intro entries
    induction entries with
    | nil =>
        intro values next alone valid
        cases valid
        exact alone
    | cons entry entries ih =>
        intro values next alone valid
        rw [List.foldlM_cons] at valid
        cases first : validateCompensationArg (compensationFields .ph) values entry with
        | error refusal =>
            rw [first] at valid
            cases valid
        | ok middle =>
            rw [first] at valid
            obtain ⟨field, member, number, _, _, rfl⟩ := taken_of_validateCompensationArg first
            obtain rfl := List.mem_singleton.mp member
            refine ih _ _ ?_ valid
            rw [alone]
  have valid : validateCompensationArgs .ph args {} = .ok checked := accepted
  rw [validateCompensationArgs] at valid
  cases folded : args.entries.foldlM (validateCompensationArg (compensationFields .ph)) {} with
  | error refusal =>
      rw [folded] at valid
      cases valid
  | ok compensation =>
      rw [folded] at valid
      dsimp only [bind, Except.bind] at valid
      split at valid
      · cases valid
      · cases valid
        exact loop _ _ _ rfl folded

end EzoProvider.Runtime
