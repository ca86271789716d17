import Mathlib.Data.Rat.Defs

/-!
# Device families and what is read from them

The data types of `devices/common`. A finite `double` is the rational number it
denotes; the wire carries decimals, and the tolerances of the provider are far
wider than a rounding error of binary arithmetic. Values which can be NaN or
infinite appear only in call arguments (`Runtime.Arguments`).
-/

namespace EzoProvider

/-- The EZO families. -/
inductive EzoDeviceType where
  | ph
  | orp
  | ec
  | dox
  | rtd
  | hum
deriving DecidableEq, Repr

/-- `to_string(EzoDeviceType)`. -/
def EzoDeviceType.toString : EzoDeviceType → String
  | .ph => "ph"
  | .orp => "orp"
  | .ec => "ec"
  | .dox => "do"
  | .rtd => "rtd"
  | .hum => "hum"

namespace Devices

/-- Static description of one signal. -/
structure SignalDefinition where
  signalId : String
  isDefault : Bool
deriving DecidableEq, Repr

/-- The result of reading one signal. -/
structure SignalSample where
  available : Bool := true
  hasValue : Bool := false
  value : ℚ := 0
  unavailableReason : String := ""
deriving DecidableEq, Repr

/-- Compensation values; an empty field is one not set, or not known. -/
structure Compensation where
  temperatureC : Option ℚ := none
  salinityUsCm : Option ℚ := none
  pressureKpa : Option ℚ := none
deriving DecidableEq, Repr

/-- What a probe reported for its compensation. The text is set when it reports
salinity in ppt, which does not convert to uS/cm. -/
structure CompensationReading where
  values : Compensation := {}
  salinityUnavailable : String := ""
deriving DecidableEq, Repr

def kMinTemperatureC : ℚ := 0
def kMaxTemperatureC : ℚ := 100
def kMinSalinityUsCm : ℚ := 0
def kMaxSalinityUsCm : ℚ := 100000
def kMinPressureKpa : ℚ := 10
def kMaxPressureKpa : ℚ := 300

/-- What a DO probe compensates for at power-up, and must be calibrated at. -/
def kDoDefaultTemperatureC : ℚ := 20
def kDoDefaultSalinityUsCm : ℚ := 0
def kDoDefaultPressureKpa : ℚ := 1013 / 10

end Devices
end EzoProvider
