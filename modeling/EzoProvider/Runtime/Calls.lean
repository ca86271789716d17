import EzoProvider.Runtime.Operations

/-!
# Control calls

`EzoProviderRuntime::call` and the `execute_safe_call` it goes through.
-/

namespace EzoProvider.Runtime

open Interaction Program Devices

/-- `find_function_by_id`. -/
def findFunctionById (device : ActiveDevice) (functionId : Nat) : Option FunctionSpec :=
  device.capabilities.functions.find? (·.functionId = functionId)

/-- A DO calibration, which runs at the default compensation. -/
def isDoCalibration (functionId : Nat) (type : EzoDeviceType) : Bool :=
  functionId = kFunctionCalibrate && type = .dox

/-- The values a DO calibration sends back: the ones set, or else the ones last read. -/
def restoreValues (set held : Compensation) : Compensation where
  temperatureC := set.temperatureC <|> held.temperatureC
  salinityUsCm := set.salinityUsCm <|> held.salinityUsCm
  pressureKpa := set.pressureKpa <|> held.pressureKpa

/-- The arguments of the job: a DO calibration gets the values to send back. -/
def jobArgs (device : ActiveDevice) (functionId : Nat) (args : ControlArgs) : ControlArgs :=
  if isDoCalibration functionId device.spec.type then
    { args with restore := restoreValues device.compensationSet device.compensationRead.values }
  else args

/-- A call's deadline covers the command's own wait plus this much. -/
def kResponseHeadroomMs : Int := 1500

/-- The commands a call sends beyond the one it is about. -/
def extraCommands (functionId : Nat) (type : EzoDeviceType) : Int :=
  if functionId = kFunctionSetCompensation then 2
  else if isDoCalibration functionId type then 6
  else 0

variable [EzoDriver]

/-- `execute_safe_call`. -/
def executeSafeCall (device : ActiveDevice) (functionId : Nat) (args : ControlArgs)
    (timeoutMs : Int) : Caller AdapterCallResult :=
  let type := device.spec.type
  let product := (adapterFor type).expectedProduct
  let kind : CommandKind := if functionId = kFunctionCalibrate then .calibration else .generic
  if product = .unknown then
    return ⟨false, .internal, "unsupported configured device type for control call"⟩
  else
    match EzoDriver.timingHint product kind, EzoDriver.timingHint product .generic with
    | some commandWait, some genericWait => do
        let timeout := max timeoutMs
          (commandWait + kResponseHeadroomMs + extraCommands functionId type * genericWait)
        let reply : SubmitReply ← CallerOp.issue
          (.submit ("call:" ++ toString functionId ++ ":" ++ device.spec.id) timeout
            (callJob device.spec.address functionId type args))
        return ⟨reply.status.isOk, mapI2cStatusCode reply.status.code, reply.status.message⟩
    | _, _ => return ⟨false, .internal, "no command timing for the configured device type"⟩

/-- Remember the values of a `set_compensation` which succeeded. -/
def rememberIfSet (deviceId : String) (functionId : Nat) (values : Compensation) (ok : Bool) :
    Caller Unit :=
  if ok && functionId = kFunctionSetCompensation then rememberCompensation deviceId values
  else pure ()

/-- What follows a call that may have changed the compensation: the values set are
remembered, and the probe is read back whether the call succeeded or not. -/
def readBackCompensation (deviceId functionName : String) (functionId : Nat)
    (values : Compensation) (result : AdapterCallResult) : Caller Unit := do
  rememberIfSet deviceId functionId values result.ok
  let check ← checkCompensation deviceId
  warnUnlessOk check ("compensation read after '" ++ functionName ++ "' failed for device '" ++
    deviceId ++ "': ")

/-- The end of a call: its result is recorded, and the level read after a calibration. -/
def concludeCall (deviceId functionName : String) (functionId : Nat)
    (result : AdapterCallResult) : Caller AdapterCallResult :=
  if result.ok then do
    recordCallResult deviceId functionName true ""
    if functionId = kFunctionCalibrate || functionId = kFunctionClearCalibration then
      let level ← refreshCalibrationLevel deviceId
      warnUnlessOk level ("calibration-level read after '" ++ functionName ++
        "' failed for device '" ++ deviceId ++ "': ")
    return result
  else do
    recordCallResult deviceId functionName false result.errorMessage
    CallerOp.issue (.warn ("call failed for device '" ++ deviceId ++ "' function '" ++
      functionName ++ "': " ++ result.errorMessage))
    return result

/-- Whether the compensation is read back after a call. -/
def readsBackCompensation (functionId : Nat) (type : EzoDeviceType) : Bool :=
  functionId = kFunctionSetCompensation || isDoCalibration functionId type

/-- A call past its argument checks. -/
def performCall (state : RuntimeState) (device : ActiveDevice) (deviceId functionName : String)
    (functionId : Nat) (args : ControlArgs) : Caller AdapterCallResult := do
  let result ← executeSafeCall device functionId args state.config.timeoutMs
  if readsBackCompensation functionId device.spec.type then
    readBackCompensation deviceId functionName functionId args.compensation result
  concludeCall deviceId functionName functionId result

/-- `EzoProviderRuntime::call`. -/
def call (deviceId : String) (functionId : Nat) (args : ValueMap) : Caller AdapterCallResult := do
  let state ← snapshot
  match state.find deviceId with
  | none => return callNotFound "unknown device_id"
  | some device =>
      match findFunctionById device functionId with
      | none => return callNotFound "unknown function_id"
      | some function =>
          match validateCallArgs functionId device.spec.type args with
          | .error refusal =>
              recordCallResult deviceId function.name false refusal.errorMessage
              return refusal
          | .ok checked =>
              performCall state device deviceId function.name functionId
                (jobArgs device functionId checked)

end EzoProvider.Runtime
