import EzoProvider.Runtime.Reads

/-!
# Startup and shutdown

`initialize`, with its exits when the host cannot serve the bus and when the
executor does not start, and `shutdown`.
-/

namespace EzoProvider.Runtime

open Interaction Program Devices

/-- `is_mock_mode`. -/
def isMockMode (config : ProviderConfig) : Bool := "mock://".isPrefixOf config.busPath

/-- `shutdown`. -/
def shutdown : Caller Unit := do
  let _ ← CallerOp.issue (.locked fun state => { state with i2cExecutorRunning := false })
  CallerOp.issue .stopExecutor

/-- `reset`. -/
def reset : Caller Unit := do
  shutdown
  let _ ← CallerOp.issue (.locked fun _ => {})

/-- `check_host`: a mock bus needs nothing. -/
def checkHost (config : ProviderConfig) : Caller (List Requirement) :=
  if isMockMode config then return [] else CallerOp.issue (.checkHost config.busPath)

/-- `summarize_unmet`. -/
def summarizeUnmet [ProviderSdk] (requirements : List Requirement) : String :=
  (ProviderSdk.hostUnmet requirements).getD ""

/-- The warning of `initialize` about the cache-reuse window. -/
def warnCacheWindow (config : ProviderConfig) : Caller Unit :=
  if sampleIntervalMs config ≤ queryLatencyMs config then
    CallerOp.issue (.warn ("hardware.query_delay_us (" ++ toString config.queryDelayUs ++
      " us) implies a " ++ toString (queryLatencyMs config) ++
      " ms cache-reuse window, which is not shorter than the " ++
      toString config.sampleIntervalMs ++
      " ms hardware.sample_interval_ms; samples may be served from cache and reported stale"))
  else return ()

/-- Publish the state built by `initialize`. -/
def publish (state : RuntimeState) : Caller Unit := do
  let _ ← CallerOp.issue (.locked fun _ => state)

/-- `build_startup_message`. -/
def buildStartupMessage (state : RuntimeState) : String :=
  "startup complete: active=" ++ toString state.activeDevices.length ++
    ", excluded=" ++ toString state.excludedDevices.length ++
    ", configured=" ++ toString state.config.devices.length ++
    if state.i2cStatusMessage = "" then "" else ", i2c=" ++ state.i2cStatusMessage

/-- The state `initialize` leaves when the host does not meet its requirements. -/
def unmetState [ProviderSdk] (state : RuntimeState) : RuntimeState :=
  let message := "host requirements unmet: " ++ summarizeUnmet state.hostRequirements
  { state with
    startupMessage := message
    i2cStatusMessage := message
    excludedDevices := state.config.devices.map (⟨·, message⟩) }

/-- The state `initialize` leaves when the executor does not start. -/
def unstartedState (state : RuntimeState) (status : Status) : RuntimeState :=
  { state with
    i2cExecutorRunning := false
    i2cStatusMessage := status.message
    startupMessage := "startup failed to initialize I2C executor: " ++ status.message }

/-- The time a startup with an active device is ready at. -/
def readyTime (state : RuntimeState) : Caller Int :=
  if state.activeDevices = [] then return 0 else CallerOp.issue .systemNow

/-- The state of a startup that went through, as of `readyAt`. -/
def startedState (state : RuntimeState) (readyAt : Int) : RuntimeState :=
  let ready : RuntimeState :=
    if state.activeDevices = [] then { state with ready := false }
    else
      { state with
        ready := true
        readyAt
        i2cStatusMessage := if state.i2cStatusMessage = "" then "ok" else state.i2cStatusMessage }
  { ready with startupMessage := buildStartupMessage ready }

variable [EzoDriver]

/-- `probe_identity_real`. -/
def probeIdentity (config : ProviderConfig) (spec : DeviceSpec) : Caller SubmitReply :=
  CallerOp.issue (.submit ("startup_probe:" ++ spec.id) (max config.timeoutMs 2000)
    (probeIdentityJob spec.address (adapterFor spec.type).expectedProduct))

/-- The active device of an accepted probe. -/
def activeDevice (spec : DeviceSpec) (info : DeviceInfo) : ActiveDevice where
  spec
  capabilities := buildCapabilities spec.type
  defaultSignalIds := defaultSignalIdsForType spec.type
  startupProductCode := info.productCode
  startupFirmwareVersion := info.firmwareVersion
  sample := { signals := List.replicate (buildCapabilities spec.type).signals.length {} }

/-- The reason a device whose identity is another one is excluded for. -/
def mismatchReason (spec : DeviceSpec) (info : DeviceInfo) : String :=
  "type mismatch: configured " ++ spec.type.toString ++ ", detected " ++
    (EzoDriver.familyName info.productId).getD "unknown"

/-- Enter one device into the inventory, as its probe went. -/
def admitProbe (state : RuntimeState) (spec : DeviceSpec) (reply : SubmitReply) : RuntimeState :=
  if ¬ reply.status.isOk then
    { state with excludedDevices := state.excludedDevices ++ [⟨spec, reply.status.message⟩] }
  else if reply.outputs.info.productId ≠ (adapterFor spec.type).expectedProduct then
    { state with
      excludedDevices := state.excludedDevices ++ [⟨spec, mismatchReason spec reply.outputs.info⟩] }
  else
    { state with activeDevices := state.activeDevices ++ [activeDevice spec reply.outputs.info] }

/-- The probe loop of `initialize`. -/
def probeDevices (config : ProviderConfig) (state : RuntimeState) :
    List DeviceSpec → Caller RuntimeState
  | [] => return state
  | spec :: rest => do
      let reply ← probeIdentity config spec
      probeDevices config (admitProbe state spec reply) rest

/-- The reads of one device at startup. -/
def startupReads (deviceId : String) : Caller Unit := do
  let refreshed ← refreshDeviceSample deviceId
  warnUnlessOk refreshed ("startup sample failed for device '" ++ deviceId ++ "': ")
  let level ← refreshCalibrationLevel deviceId
  warnUnlessOk level ("startup calibration-level read failed for device '" ++ deviceId ++ "': ")
  let compensation ← checkCompensation deviceId
  warnUnlessOk compensation ("startup compensation read failed for device '" ++ deviceId ++ "': ")

/-- The reads at startup, of each active device in turn. -/
def startupReadsOf : List String → Caller Unit
  | [] => return ()
  | deviceId :: rest => do
      startupReads deviceId
      startupReadsOf rest

/-- `initialize`, past the host check and the start of the executor. -/
def probeAndPublish (state : RuntimeState) : Caller Unit := do
  let probed ← probeDevices state.config state state.config.devices
  let readyAt ← readyTime probed
  publish (startedState probed readyAt)
  startupReadsOf (probed.activeDevices.map (·.spec.id))

/-- `initialize`. -/
def initializeRuntime [ProviderSdk] (config : ProviderConfig) : Caller Unit := do
  reset
  warnCacheWindow config
  let startedAt ← CallerOp.issue .systemNow
  let hostRequirements ← checkHost config
  let state : RuntimeState := { config, startedAt, hostRequirements }
  if ProviderSdk.exitCode hostRequirements ≠ 0 then publish (unmetState state)
  else
    let status : Status ← CallerOp.issue (.startExecutor config)
    if ¬ status.isOk then publish (unstartedState state status)
    else
      probeAndPublish { state with i2cExecutorRunning := true, i2cStatusMessage := status.message }

end EzoProvider.Runtime
