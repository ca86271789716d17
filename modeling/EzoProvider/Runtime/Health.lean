import EzoProvider.Runtime.Reads

/-!
# Device health

`EzoProviderRuntime::device_health`, less the transport counters.
-/

namespace EzoProvider

open Devices

/-- `format_i2c_address`. -/
def formatI2cAddress (address : Address) : String :=
  let digits := Nat.toDigits 16 address.toNat
  "0x" ++ String.ofList (if digits.length < 2 then '0' :: digits else digits)

namespace Runtime

open Interaction Program

/-- `DeviceHealth::State`, by the values the provider sets. -/
inductive HealthState where
  | ok
  | stale
  | fault
  | unreachable
deriving DecidableEq, Repr

/-- `DeviceHealthExtra`. Without a state the SDK's own stands. -/
structure DeviceHealthExtra where
  metrics : List (String × String) := []
  lastSeen : Option Timestamp := none
  state : Option HealthState := none
  message : String := ""
deriving DecidableEq, Repr

variable [EzoDriver]

/-- The metrics of an active device. -/
def deviceMetrics (config : ProviderConfig) (device : ActiveDevice) (now : Int) :
    List (String × String) :=
  [("type", device.spec.type.toString), ("address", formatI2cAddress device.spec.address),
    ("sample_success_count", toString device.sample.successCount),
    ("sample_failure_count", toString device.sample.failureCount),
    ("call_success_count", toString device.callSuccessCount),
    ("call_failure_count", toString device.callFailureCount)] ++
  (if (adapterFor device.spec.type).readCompensation.isSome then
    [("compensation_reapplied_count", toString device.compensationReappliedCount)] else []) ++
  (if device.startupProductCode = "" then []
    else [("startup_product_code", device.startupProductCode)]) ++
  (if device.startupFirmwareVersion = "" then []
    else [("startup_firmware", device.startupFirmwareVersion)]) ++
  (if device.sample.hasSample then
    [("sample_age_ms", toString (toMilliseconds (now - device.sample.sampledAt))),
      ("sample_stale_after_ms", toString (staleAfterMs config))] else []) ++
  (if device.hasLastCall then
    [("last_call_function", device.lastCallFunction),
      ("last_call_ok", if device.lastCallOk then "true" else "false"),
      ("last_call_age_ms", toString (toMilliseconds (now - device.lastCallAt)))] ++
    (if device.lastCallError = "" then [] else [("last_call_error", device.lastCallError)])
  else []) ++
  if device.sample.lastError = "" then [] else [("last_error", device.sample.lastError)]

/-- The state of an active device, with its message. -/
def healthState (config : ProviderConfig) (device : ActiveDevice) (now : Int) :
    HealthState × String :=
  if ¬ device.sample.hasSample then (.unreachable, "no sample available yet")
  else if ¬ device.sample.lastReadOk then
    (.fault, "latest read failed; cached sample may be stale")
  else if staleAfterMs config < toMilliseconds (now - device.sample.sampledAt) then
    (.stale, "sample is stale")
  else (.ok, "ok")

/-- What an excluded device shows. -/
def excludedHealth (state : RuntimeState) (deviceId : String) : DeviceHealthExtra :=
  match state.excludedDevices.find? (·.spec.id = deviceId) with
  | none => {}
  | some excluded =>
      { metrics :=
          [("excluded", "true"), ("type", excluded.spec.type.toString),
            ("address", formatI2cAddress excluded.spec.address)] }

/-- `EzoProviderRuntime::device_health`. -/
def deviceHealth (deviceId : String) : Caller DeviceHealthExtra := do
  let state ← snapshot
  match state.find deviceId with
  | none => return excludedHealth state deviceId
  | some device =>
      let now ← CallerOp.issue .systemNow
      let (health, message) := healthState state.config device now
      return {
        metrics := deviceMetrics state.config device now
        lastSeen :=
          if device.sample.hasSample then some (toProtoTimestamp device.sample.sampledAt) else none
        state := some health
        message }

end Runtime
end EzoProvider
