import EzoProvider.Runtime.Operations

/-!
# Reads

`EzoProviderRuntime::read`: a sample is reused for one transaction's worth of
time and read again after that, and its slots become signal values.
-/

namespace EzoProvider.Runtime

open Interaction Program Devices

/-- `SignalValue::Quality`, by the values this repository names. -/
inductive Quality where
  | unspecified
  | ok
  | stale
  | unknown
  | other (code : Nat)
deriving DecidableEq, Repr

/-- What the provider uses of the SDK: the verdict on the host requirements, the
diagnostic which sums up the unmet ones, and the quality of a value. -/
class ProviderSdk where
  exitCode : List Requirement → Int
  hostUnmet : List Requirement → Option String
  qualityFrom : (available hasValue lastReadOk : Bool) → (ageMs staleMs : Int) → Quality

/-- A protocol timestamp. -/
structure Timestamp where
  seconds : Int
  nanos : Int
deriving DecidableEq, Repr

/-- `to_proto_timestamp`. -/
def toProtoTimestamp (time : Int) : Timestamp where
  seconds := time.tdiv 1000000000
  nanos := time.tmod 1000000000

/-- `SignalValue`. The double is absent when the slot has no value. -/
structure SignalValue where
  signalId : String
  value : Option ℚ := none
  timestamp : Timestamp
  quality : Quality
  metadata : List (String × String) := []
deriving DecidableEq, Repr

/-- `AdapterReadResult`. -/
structure AdapterReadResult where
  ok : Bool
  errorCode : Code
  errorMessage : String := ""
  values : List SignalValue := []
deriving DecidableEq, Repr

/-- `find_signal_index`. -/
def findSignalIndex (device : ActiveDevice) (signalId : String) : Option Nat :=
  device.capabilities.signals.findIdx? (· = signalId)

/-- The indexes of the requested signals, or the first one not declared. -/
def requestedIndexes (device : ActiveDevice) : List String → Except String (List Nat)
  | [] => .ok []
  | signalId :: rest =>
      match findSignalIndex device signalId with
      | none => .error signalId
      | some index => (requestedIndexes device rest).map (index :: ·)

/-- `populate_signal_value`, for a declared signal. -/
def populateSignalValue [ProviderSdk] (config : ProviderConfig) (device : ActiveDevice)
    (index : Nat) (now : Int) : SignalValue :=
  let slot := device.sample.signals[index]?
  let ageMs := toMilliseconds (now - device.sample.sampledAt)
  let staleMs := staleAfterMs config
  { signalId := device.capabilities.signals.getD index ""
    value := slot.bind fun sample => if sample.hasValue then some sample.value else none
    timestamp := toProtoTimestamp device.sample.sampledAt
    quality :=
      match slot with
      | none => .unknown
      | some sample =>
          ProviderSdk.qualityFrom sample.available sample.hasValue device.sample.lastReadOk ageMs
            staleMs
    metadata :=
      [("age_ms", toString ageMs), ("stale_after_ms", toString staleMs),
        ("sample_success_count", toString device.sample.successCount),
        ("sample_failure_count", toString device.sample.failureCount)] ++
      (if device.sample.lastError = "" then [] else [("last_error", device.sample.lastError)]) ++
      match slot with
      | some sample =>
          if sample.available then []
          else [("unavailable", "true"), ("unavailable_reason", sample.unavailableReason)]
      | none => [] }

/-- The values of the requested signals; each is aged by its own clock reading. -/
def populateSignalValues [ProviderSdk] (config : ProviderConfig) (device : ActiveDevice) :
    List Nat → Caller (List SignalValue)
  | [] => return []
  | index :: rest => do
      let now ← CallerOp.issue .systemNow
      let later ← populateSignalValues config device rest
      return populateSignalValue config device index now :: later

/-- Whether the cached sample is too old to be served, or missing. -/
def needsRefresh (config : ProviderConfig) (device : ActiveDevice) : Caller Bool :=
  if device.sample.hasSample then do
    let now ← CallerOp.issue .systemNow
    return queryLatencyMs config < toMilliseconds (now - device.sample.sampledAt)
  else return true

/-- A read that failed. -/
def readFailed (code : Code) (message : String) : AdapterReadResult := ⟨false, code, message, []⟩

/-- Serve the cached sample. -/
def serveSample [ProviderSdk] (config : ProviderConfig) (device : ActiveDevice)
    (indexes : List Nat) : Caller AdapterReadResult :=
  if device.sample.hasSample then do
    let values ← populateSignalValues config device indexes
    return { ok := true, errorCode := .ok, values }
  else return readFailed .unavailable "no sample available"

variable [EzoDriver]

/-- Read the device again, and serve what is cached then. -/
def refreshAndServe [ProviderSdk] (deviceId : String) (indexes : List Nat) :
    Caller AdapterReadResult := do
  let status ← refreshDeviceSample deviceId
  let state ← snapshot
  if status.isOk then
    match state.find deviceId with
    | none => return readFailed .notFound "unknown device_id"
    | some device => serveSample state.config device indexes
  else
    CallerOp.issue (.warn ("read_signals refresh failed for '" ++ deviceId ++ "': " ++
      status.message))
    match (state.find deviceId).filter (·.sample.hasSample) with
    | none => return readFailed (mapI2cStatusCode status.code) status.message
    | some device => serveSample state.config device indexes

/-- `EzoProviderRuntime::read`. -/
def read [ProviderSdk] (deviceId : String) (signalIds : List String) :
    Caller AdapterReadResult := do
  let state ← snapshot
  match state.find deviceId with
  | none => return readFailed .notFound "unknown device_id"
  | some device =>
      let requested := if signalIds = [] then device.defaultSignalIds else signalIds
      match requestedIndexes device requested with
      | .error signalId => return readFailed .notFound ("unknown signal_id '" ++ signalId ++ "'")
      | .ok indexes =>
          if ← needsRefresh state.config device then refreshAndServe deviceId indexes
          else serveSample state.config device indexes

end EzoProvider.Runtime
