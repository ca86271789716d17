import EzoProvider.Devices.Adapters

/-!
# The bus job of a control call

The job `execute_safe_call` submits, with the arguments it captures.
-/

namespace EzoProvider.Runtime

open Interaction Program Devices

def kFunctionFind : Nat := 1
def kFunctionSetLed : Nat := 2
def kFunctionSleep : Nat := 3
def kFunctionCalibrate : Nat := 4
def kFunctionClearCalibration : Nat := 5
def kFunctionSetCompensation : Nat := 6

def kReferencePhDecimals : Nat := 2

/-- `ControlArgs`: the validated arguments of one control call. -/
structure ControlArgs where
  ledEnabled : Bool := false
  calibrationPoint : Nat := 0
  referencePh : ℚ := 0
  compensation : Compensation := {}
  restore : Compensation := {}
deriving DecidableEq, Repr

/-- The compensation a DO probe is calibrated at. -/
def defaultCompensation : Compensation where
  temperatureC := some kDoDefaultTemperatureC
  salinityUsCm := some kDoDefaultSalinityUsCm
  pressureKpa := some kDoDefaultPressureKpa

/-- The command the `switch` of the job sends. -/
def controlCommand (functionId : Nat) (type : EzoDeviceType) (product : EzoProduct)
    (args : ControlArgs) : Option Command :=
  if functionId = kFunctionFind then some (.find product)
  else if functionId = kFunctionSetLed then some (.ledSet product args.ledEnabled)
  else if functionId = kFunctionSleep then some (.sleep product)
  else if functionId = kFunctionCalibrate then
    some <|
      if type = .ph then .phCalibration args.calibrationPoint args.referencePh kReferencePhDecimals
      else .doCalibration args.calibrationPoint
  else if functionId = kFunctionClearCalibration then some .clearCalibration
  else none

variable [EzoDriver]

/-- Call a family's `write_compensation`; the families calibrated as a DO have one. -/
def callWriter (writeCompensation : Option (Address → Compensation → JobM Unit))
    (device : Address) (values : Compensation) : JobM Unit :=
  match writeCompensation with
  | some write => write device values
  | none => pure ()

/-- Run a part of the job whose status nobody looks at. -/
def ignoreStatus (part : JobM Unit) : JobM Unit :=
  ExceptT.mk do
    let _ ← part.run
    return .ok ()

/-- Set the default compensation before a DO calibration, or send the values back
and leave the job. -/
def sendDefaults (writeCompensation : Option (Address → Compensation → JobM Unit))
    (device : Address) (restore : Compensation) : JobM Unit :=
  ExceptT.mk do
    match ← (callWriter writeCompensation device defaultCompensation).run with
    | .ok () => return .ok ()
    | .error defaults =>
        let _ ← (callWriter writeCompensation device restore).run
        return .error (makeStatus defaults.code
          ("could not set the default compensation a DO calibration needs, " ++
            "so the calibration was not sent: " ++ defaults.message))

/-- The command itself, its response, and what a DO calibration sends back. -/
def sendControlCommand (writeCompensation : Option (Address → Compensation → JobM Unit))
    (device : Address) (functionId : Nat) (command : Command) (doCalibration : Bool)
    (restore : Compensation) : JobM Unit := do
  let hint ← attempt "send control command" (JobOp.issue (.send device command))
  waitForTimingHint hint
  if functionId = kFunctionSleep then return
  let response ← readCommandResponse device
  if doCalibration then ignoreStatus (callWriter writeCompensation device restore)
  checkStatus response

/-- The job `execute_safe_call` submits. -/
def controlJob (address : Address) (functionId : Nat) (type : EzoDeviceType)
    (product : EzoProduct) (args : ControlArgs) (doCalibration : Bool)
    (writeCompensation : Option (Address → Compensation → JobM Unit)) : Job :=
  concludes do
    let device ← bindEzoI2cDevice address
    if functionId = kFunctionSetCompensation then
      match writeCompensation with
      | none => throw (makeStatus .invalidArgument "unsupported function_id")
      | some write => write device args.compensation
    else
      if doCalibration then sendDefaults writeCompensation device args.restore
      match controlCommand functionId type product args with
      | none => throw (makeStatus .invalidArgument "unsupported function_id")
      | some command =>
          sendControlCommand writeCompensation device functionId command doCalibration args.restore

/-- The job of a call on a device of the family `type`. -/
def callJob (address : Address) (functionId : Nat) (type : EzoDeviceType) (args : ControlArgs) :
    Job :=
  controlJob address functionId type (adapterFor type).expectedProduct args
    (decide (functionId = kFunctionCalibrate) && decide (type = .dox))
    (adapterFor type).writeCompensation

end EzoProvider.Runtime
