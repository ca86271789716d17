import EzoProvider.Bus.Status
import EzoProvider.Devices.Types
import EzoProvider.Interaction.Program

/-!
# The EZO driver as a job sees it

A bus job is a program over `JobOp`: the calls of the EZO C driver, the waits on
the bus, and the stores into the cells it shares with its caller. The driver
encodes and parses the wire text and is not part of this repository; its calls
are operations with typed answers, and what else the provider asks it for is
the class `EzoDriver`.
-/

namespace EzoProvider.Devices

open Interaction

/-- An I2C address, as the bus takes it. The schema admits 0x08 to 0x77. -/
abbrev Address := UInt8

/-- `ezo_result_t` other than `EZO_OK`. -/
inductive EzoError where
  | invalidArgument
  | transport
  | bufferTooSmall
  | protocol
  | parse
deriving DecidableEq, Repr

/-- `ezo_device_status_t`: the response codes 1, 2, 254, 255 and any other. -/
inductive EzoDeviceStatus where
  | success
  | fail
  | notReady
  | noData
  | unknown
deriving DecidableEq, Repr

/-- `ezo_product_id_t`. -/
inductive EzoProduct where
  | unknown
  | ph
  | orp
  | ec
  | dox
  | rtd
  | hum
deriving DecidableEq, Repr

/-- The `ezo_command_kind_t` values the provider asks timing for. -/
inductive CommandKind where
  | generic
  | calibration
deriving DecidableEq, Repr

/-- `ezo_do_salinity_unit_t`. -/
inductive SalinityUnit where
  | microsiemens
  | ppt
deriving DecidableEq, Repr

/-- The outputs of the families which report more than one. -/
inductive Output where
  | milligramsPerLiter
  | percentSaturation
  | conductivity
  | totalDissolvedSolids
  | salinity
  | specificGravity
  | humidity
  | airTemperature
  | dewPoint
deriving DecidableEq, Repr

/-- `ezo_device_info_t`. -/
structure DeviceInfo where
  productId : EzoProduct := .unknown
  productCode : String := ""
  firmwareVersion : String := ""
deriving DecidableEq, Repr

/-- What the provider uses of the driver besides its calls: the result names, the
product metadata and the I2C timing table. -/
class EzoDriver where
  resultName : EzoError → String
  familyName : EzoProduct → Option String
  timingHint : EzoProduct → CommandKind → Option Nat

/-- The commands a job sends. A set command carries its value with the number of
decimals it is printed with. -/
inductive Command where
  | infoQuery (product : EzoProduct)
  | outputQuery
  | read
  | calibrationQuery
  | temperatureQuery
  | salinityQuery
  | pressureQuery
  | find (product : EzoProduct)
  | ledSet (product : EzoProduct) (enabled : Bool)
  | sleep (product : EzoProduct)
  | phCalibration (point : Nat) (reference : ℚ) (decimals : Nat)
  | doCalibration (point : Nat)
  | clearCalibration
  | temperatureSet (celsius : ℚ) (decimals : Nat)
  | salinitySet (value : ℚ) (unit : SalinityUnit) (decimals : Nat)
  | pressureSet (kilopascals : ℚ) (decimals : Nat)
deriving DecidableEq, Repr

namespace Command

/-- The commands which change a compensation value. -/
def setsCompensation : Command → Bool
  | temperatureSet .. | salinitySet .. | pressureSet .. => true
  | _ => false

/-- The commands which change the calibration. -/
def calibrates : Command → Bool
  | phCalibration .. | doCalibration .. | clearCalibration => true
  | _ => false

end Command

/-- A store into a cell the job shares with its caller. -/
inductive JobOutput where
  | info (info : DeviceInfo)
  | signals (signals : List SignalSample)
  | level (level : ℚ)
  | reading (reading : CompensationReading)
  | reapplied
deriving DecidableEq, Repr

/-- One operation of a bus job. -/
inductive JobOp where
  | bind (address : Address)
  | send (device : Address) (command : Command)
  | delay (microseconds : Nat)
  | readResponse (device : Address)
  | readInfo (device : Address)
  | readOutputConfig (device : Address)
  | readValue (device : Address)
  | readOutputs (device : Address) (enabled : List Output)
  | readCalibrationStatus (device : Address)
  | readTemperature (device : Address)
  | readSalinity (device : Address)
  | readPressure (device : Address)
  | store (output : JobOutput)
deriving DecidableEq, Repr

/-- What an operation answers. A send answers its timing hint in milliseconds. -/
abbrev JobOp.Result : JobOp → Type
  | bind _ => Except EzoError Unit
  | send .. => Except EzoError Nat
  | delay _ => Unit
  | readResponse _ => Except EzoError EzoDeviceStatus
  | readInfo _ => Except EzoError DeviceInfo
  | readOutputConfig _ => Except EzoError (List Output)
  | readValue _ => Except EzoError ℚ
  | readOutputs .. => Except EzoError (Output → Option ℚ)
  | readCalibrationStatus _ => Except EzoError Nat
  | readTemperature _ => Except EzoError ℚ
  | readSalinity _ => Except EzoError (ℚ × SalinityUnit)
  | readPressure _ => Except EzoError ℚ
  | store _ => Unit

/-- Perform one operation of a job. -/
def JobOp.issue (op : JobOp) : Program JobOp JobOp.Result op.Result := Program.ask op

/-- A bus job. -/
abbrev Job := Program JobOp JobOp.Result Status

/-- A part of a job, left at the first status which is not ok. -/
abbrev JobM := ExceptT Status (Program JobOp JobOp.Result)

/-- What a job does at one point of its trace. -/
abbrev JobTrace := Trace JobOp JobOp.Result

/-- The cells a job shares with its caller. -/
structure JobOutputs where
  info : DeviceInfo := {}
  signals : List SignalSample := []
  level : ℚ := 0
  reading : CompensationReading := {}
  reapplied : Bool := false
deriving DecidableEq, Repr

/-- One store. -/
def JobOutputs.store (outputs : JobOutputs) : JobOutput → JobOutputs
  | .info info => { outputs with info }
  | .signals signals => { outputs with signals }
  | .level level => { outputs with level }
  | .reading reading => { outputs with reading }
  | .reapplied => { outputs with reapplied := true }

/-- The cells after one exchange. -/
def JobOutputs.after (outputs : JobOutputs) : Exchange JobOp JobOp.Result → JobOutputs
  | ⟨.store output, _⟩ => outputs.store output
  | _ => outputs

/-- The cells after the exchanges of a job. -/
def outputsOf (trace : JobTrace) : JobOutputs := trace.foldl JobOutputs.after {}

end EzoProvider.Devices
