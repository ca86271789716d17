import EzoProvider.Devices.SampleHelpers

/-!
# The device adapters

The adapter modules `devices/<family>/` and `adapter_for`. The families share
two shapes of sample read: one value, or the outputs enabled on the device.
-/

namespace EzoProvider.Devices

open Interaction Program

/-- `DeviceAdapter`. A signal index of -1 and a null function are `none`. -/
structure DeviceAdapter where
  expectedProduct : EzoProduct
  typeId : String
  signals : List SignalDefinition
  readSample : Address → JobM (List SignalSample)
  calibrationLevelSignal : Option Nat := none
  readCalibrationLevel : Option (Address → JobM ℚ) := none
  temperatureCompensationSignal : Option Nat := none
  salinityCompensationSignal : Option Nat := none
  pressureCompensationSignal : Option Nat := none
  readCompensation : Option (Address → JobM CompensationReading) := none
  writeCompensation : Option (Address → Compensation → JobM Unit) := none

/-- Fill the slots, in order, from the outputs present in a reading. -/
def fillOutputs (reading : Output → Option ℚ) (samples : List SignalSample) :
    Nat → List (Output × String) → List SignalSample
  | _, [] => samples
  | index, (output, disabled) :: rest =>
      let filled :=
        match reading output with
        | some value => setSignalValue samples index value
        | none => setSignalUnavailable samples index disabled
      fillOutputs reading filled (index + 1) rest

theorem length_fillOutputs (reading : Output → Option ℚ) (samples : List SignalSample)
    (index : Nat) (outputs : List (Output × String)) :
    (fillOutputs reading samples index outputs).length = samples.length := by
  induction outputs generalizing samples index with
  | nil => rfl
  | cons entry rest ih =>
      rw [fillOutputs, ih]
      split <;> simp

variable [EzoDriver]

/-! ## Sample reads -/

/-- `read_sample` of a family with one value; `label` is its name in messages. -/
def readSingleSample (label : String) (signals : List SignalDefinition) (device : Address) :
    JobM (List SignalSample) := do
  let value ← queryDevice device .read ("send " ++ label ++ " read")
    (JobOp.issue (.readValue device)) ("read " ++ label ++ " response")
  return setSignalValue (initializeSignalSamples signals) 0 value

/-- `read_sample` of a family with several outputs, which asks for the enabled
ones first. -/
def readOutputsSample (label : String) (signals : List SignalDefinition)
    (outputs : List (Output × String)) (device : Address) : JobM (List SignalSample) := do
  let enabled ← queryDevice device .outputQuery ("send " ++ label ++ " output query")
    (JobOp.issue (.readOutputConfig device)) ("read " ++ label ++ " output query")
  let reading ← queryDevice device .read ("send " ++ label ++ " read")
    (JobOp.issue (.readOutputs device enabled)) ("read " ++ label ++ " response")
  return fillOutputs reading (initializeSignalSamples signals) 0 outputs

/-! ## Calibration and compensation -/

/-- `read_calibration_level` of the family `label`. -/
def readCalibrationLevel (label : String) (device : Address) : JobM ℚ := do
  let level ← queryDevice device .calibrationQuery ("send " ++ label ++ " calibration query")
    (JobOp.issue (.readCalibrationStatus device)) ("read " ++ label ++ " calibration status")
  return (level : ℚ)

/-- The temperature part of `read_compensation`. -/
def readTemperature (label : String) (device : Address) : JobM ℚ :=
  queryDevice device .temperatureQuery ("send " ++ label ++ " temperature compensation query")
    (JobOp.issue (.readTemperature device)) ("read " ++ label ++ " temperature compensation")

/-- Send one command and read its response. -/
def sendCommand (device : Address) (command : Command) (context : String) : JobM Unit := do
  let hint ← attempt context (JobOp.issue (.send device command))
  waitForTimingHint hint
  checkStatus (← readCommandResponse device)

/-- Send a compensation value if it is given. -/
def sendValue (device : Address) (value : Option ℚ) (command : ℚ → Command) (context : String) :
    JobM Unit :=
  match value with
  | none => pure ()
  | some value => sendCommand device (command value) context

namespace Ph

def kSignals : List SignalDefinition :=
  [⟨"ph_value", true⟩, ⟨"ph_calibration_level", false⟩, ⟨"ph_temperature_compensation_c", false⟩]

def kTemperatureDecimals : Nat := 2

/-- `ph::read_compensation`. -/
def readCompensation (device : Address) : JobM CompensationReading := do
  let temperature ← readTemperature "pH" device
  return { values := { temperatureC := some temperature } }

/-- `ph::write_compensation`. -/
def writeCompensation (device : Address) (values : Compensation) : JobM Unit :=
  sendValue device values.temperatureC (.temperatureSet · kTemperatureDecimals)
    "send pH temperature compensation"

/-- `ph::kAdapter`. -/
def kAdapter : DeviceAdapter where
  expectedProduct := .ph
  typeId := "sensor.ezo.ph"
  signals := kSignals
  readSample := readSingleSample "pH" kSignals
  calibrationLevelSignal := some 1
  readCalibrationLevel := some (readCalibrationLevel "pH")
  temperatureCompensationSignal := some 2
  readCompensation := some readCompensation
  writeCompensation := some writeCompensation

end Ph

namespace Do

def kSignals : List SignalDefinition :=
  [⟨"do_mg_l", true⟩, ⟨"do_saturation_pct", false⟩, ⟨"do_calibration_level", false⟩,
    ⟨"do_temperature_compensation_c", false⟩, ⟨"do_salinity_compensation_us_cm", false⟩,
    ⟨"do_pressure_compensation_kpa", false⟩]

def kTemperatureDecimals : Nat := 2
def kSalinityDecimals : Nat := 1
def kPressureDecimals : Nat := 2

/-- The reading `do_::read_compensation` makes of the three replies. -/
def readingOf (temperature : ℚ) (salinity : ℚ × SalinityUnit) (pressure : ℚ) :
    CompensationReading :=
  match salinity.2 with
  | .microsiemens => { values := ⟨some temperature, some salinity.1, some pressure⟩ }
  | .ppt =>
      { values := ⟨some temperature, none, some pressure⟩
        salinityUnavailable := "probe reports its salinity compensation in ppt, not uS/cm" }

/-- `do_::read_compensation`. -/
def readCompensation (device : Address) : JobM CompensationReading := do
  let temperature ← readTemperature "DO" device
  let salinity ← queryDevice device .salinityQuery "send DO salinity compensation query"
    (JobOp.issue (.readSalinity device)) "read DO salinity compensation"
  let pressure ← queryDevice device .pressureQuery "send DO pressure compensation query"
    (JobOp.issue (.readPressure device)) "read DO pressure compensation"
  return readingOf temperature salinity pressure

/-- `do_::write_compensation`: the first value refused stops the rest. -/
def writeCompensation (device : Address) (values : Compensation) : JobM Unit := do
  sendValue device values.temperatureC (.temperatureSet · kTemperatureDecimals)
    "send DO temperature compensation"
  sendValue device values.salinityUsCm (.salinitySet · .microsiemens kSalinityDecimals)
    "send DO salinity compensation"
  sendValue device values.pressureKpa (.pressureSet · kPressureDecimals)
    "send DO pressure compensation"

/-- `do_::kAdapter`. -/
def kAdapter : DeviceAdapter where
  expectedProduct := .dox
  typeId := "sensor.ezo.do"
  signals := kSignals
  readSample := readOutputsSample "DO" kSignals
    [(.milligramsPerLiter, "mg/l output disabled on device"),
      (.percentSaturation, "saturation output disabled on device")]
  calibrationLevelSignal := some 2
  readCalibrationLevel := some (readCalibrationLevel "DO")
  temperatureCompensationSignal := some 3
  salinityCompensationSignal := some 4
  pressureCompensationSignal := some 5
  readCompensation := some readCompensation
  writeCompensation := some writeCompensation

end Do

namespace Orp

def kSignals : List SignalDefinition := [⟨"orp_millivolts", true⟩]

/-- `orp::kAdapter`. -/
def kAdapter : DeviceAdapter where
  expectedProduct := .orp
  typeId := "sensor.ezo.orp"
  signals := kSignals
  readSample := readSingleSample "ORP" kSignals

end Orp

namespace Ec

def kSignals : List SignalDefinition :=
  [⟨"ec_conductivity_us_cm", true⟩, ⟨"ec_tds_ppm", false⟩, ⟨"ec_salinity_psu", false⟩,
    ⟨"ec_specific_gravity", false⟩]

/-- `ec::kAdapter`. -/
def kAdapter : DeviceAdapter where
  expectedProduct := .ec
  typeId := "sensor.ezo.ec"
  signals := kSignals
  readSample := readOutputsSample "EC" kSignals
    [(.conductivity, "conductivity output disabled on device"),
      (.totalDissolvedSolids, "tds output disabled on device"),
      (.salinity, "salinity output disabled on device"),
      (.specificGravity, "specific gravity output disabled on device")]

end Ec

namespace Rtd

def kSignals : List SignalDefinition := [⟨"rtd_temperature_c", true⟩]

/-- `rtd::kAdapter`. -/
def kAdapter : DeviceAdapter where
  expectedProduct := .rtd
  typeId := "sensor.ezo.rtd"
  signals := kSignals
  readSample := readSingleSample "RTD" kSignals

end Rtd

namespace Hum

def kSignals : List SignalDefinition :=
  [⟨"hum_relative_humidity_pct", true⟩, ⟨"hum_temperature_c", true⟩, ⟨"hum_dew_point_c", false⟩]

/-- `hum::kAdapter`. -/
def kAdapter : DeviceAdapter where
  expectedProduct := .hum
  typeId := "sensor.ezo.hum"
  signals := kSignals
  readSample := readOutputsSample "HUM" kSignals
    [(.humidity, "humidity output disabled on device"),
      (.airTemperature, "air temperature output disabled on device"),
      (.dewPoint, "dew point output disabled on device")]

end Hum

/-- `adapter_for`. -/
def adapterFor : EzoDeviceType → DeviceAdapter
  | .ph => Ph.kAdapter
  | .orp => Orp.kAdapter
  | .ec => Ec.kAdapter
  | .dox => Do.kAdapter
  | .rtd => Rtd.kAdapter
  | .hum => Hum.kAdapter

end EzoProvider.Devices
