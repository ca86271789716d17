import EzoProvider.Devices.Driver
import Mathlib.Algebra.Group.Int.Defs

/-!
# The provider configuration

`ProviderConfig` as loaded, and the intervals derived from it. Its `int` fields
are integers here; the schema keeps them within 32 bits.
-/

namespace EzoProvider

open Devices

/-- `DeviceSpec`. The label only reaches the descriptor, which is not modelled. -/
structure DeviceSpec where
  id : String
  type : EzoDeviceType := .ph
  address : Address := 0
deriving DecidableEq, Repr

/-- `ProviderConfig`. -/
structure ProviderConfig where
  busPath : String := ""
  queryDelayUs : Int := 300000
  sampleIntervalMs : Int := 2500
  timeoutMs : Int := 300
  devices : List DeviceSpec := []
deriving DecidableEq, Repr

/-- What the schema asks of the device list: unique ids and unique addresses. -/
structure ProviderConfig.Valid (config : ProviderConfig) : Prop where
  ids : (config.devices.map DeviceSpec.id).Nodup
  addresses : (config.devices.map DeviceSpec.address).Nodup
  named : ∀ spec ∈ config.devices, spec.id ≠ ""

namespace Runtime

def kMinQueryLatencyMs : Int := 50
def kMinSampleIntervalMs : Int := 50
def kMinStaleAfterMs : Int := 500

/-- `query_latency_ms`. -/
def queryLatencyMs (config : ProviderConfig) : Int :=
  max (config.queryDelayUs.tdiv 1000) kMinQueryLatencyMs

/-- `sample_interval_ms`. -/
def sampleIntervalMs (config : ProviderConfig) : Int :=
  max config.sampleIntervalMs kMinSampleIntervalMs

/-- `stale_after_ms`, clamped to `INT_MAX`. -/
def staleAfterMs (config : ProviderConfig) : Int :=
  min (max (sampleIntervalMs config * 3) kMinStaleAfterMs) (2 ^ 31 - 1)

/-- A duration of the clocks, in nanoseconds, cast to milliseconds. -/
def toMilliseconds (duration : Int) : Int := duration.tdiv 1000000

end Runtime
end EzoProvider
