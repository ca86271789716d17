import EzoProvider.Devices.Adapters
import EzoProvider.Runtime.ControlJob

/-!
# Declared capabilities

The signals and functions `build_capabilities` declares for a family: the parts
of the specifications that identify a signal or constrain an argument.
-/

namespace EzoProvider.Runtime

open Devices

/-- `ValueType` of the device protocol. -/
inductive ValueType where
  | unspecified
  | double
  | int64
  | uint64
  | bool
  | string
  | bytes
deriving DecidableEq, Repr

/-- `ArgSpec`. -/
structure ArgSpec where
  name : String
  type : ValueType
  required : Bool
  range : Option (ℚ × ℚ) := none
  allowedValues : List String := []
deriving DecidableEq, Repr

/-- `FunctionSpec`. -/
structure FunctionSpec where
  functionId : Nat
  name : String
  args : List ArgSpec := []
deriving DecidableEq, Repr

/-- `CapabilitySet`, its signals by their ids. -/
structure CapabilitySet where
  signals : List String := []
  functions : List FunctionSpec := []
deriving DecidableEq, Repr

/-- `add_safe_function_specs`. -/
def safeFunctionSpecs : List FunctionSpec :=
  [{ functionId := kFunctionFind, name := "find" },
    { functionId := kFunctionSetLed, name := "set_led", args := [⟨"enabled", .bool, true, none, []⟩] },
    { functionId := kFunctionSleep, name := "sleep" }]

/-- `add_calibration_function_specs`. -/
def calibrationFunctionSpecs (type : EzoDeviceType) : List FunctionSpec :=
  let calibrate (args : List ArgSpec) : List FunctionSpec :=
    [{ functionId := kFunctionCalibrate, name := "calibrate", args },
      { functionId := kFunctionClearCalibration, name := "clear_calibration" }]
  match type with
  | .ph =>
      calibrate
        [⟨"point", .string, true, none, ["mid", "low", "high"]⟩,
          ⟨"reference_ph", .double, true, some (0, 14), []⟩]
  | .dox => calibrate [⟨"point", .string, true, none, ["atmospheric", "zero"]⟩]
  | _ => []

/-- `add_compensation_function_specs`. -/
def compensationFunctionSpecs (type : EzoDeviceType) : List FunctionSpec :=
  let temperature : ArgSpec :=
    ⟨"temperature_c", .double, true, some (kMinTemperatureC, kMaxTemperatureC), []⟩
  let setCompensation (args : List ArgSpec) : List FunctionSpec :=
    [{ functionId := kFunctionSetCompensation, name := "set_compensation", args }]
  match type with
  | .ph => setCompensation [temperature]
  | .dox =>
      setCompensation
        [temperature,
          ⟨"salinity_us_cm", .double, false, some (kMinSalinityUsCm, kMaxSalinityUsCm), []⟩,
          ⟨"pressure_kpa", .double, false, some (kMinPressureKpa, kMaxPressureKpa), []⟩]
  | _ => []

variable [EzoDriver]

/-- `build_capabilities`. -/
def buildCapabilities (type : EzoDeviceType) : CapabilitySet where
  signals := (adapterFor type).signals.map SignalDefinition.signalId
  functions := safeFunctionSpecs ++ calibrationFunctionSpecs type ++ compensationFunctionSpecs type

/-- `default_signal_ids_for_type`. -/
def defaultSignalIdsForType (type : EzoDeviceType) : List String :=
  ((adapterFor type).signals.filter SignalDefinition.isDefault).map SignalDefinition.signalId

end EzoProvider.Runtime
