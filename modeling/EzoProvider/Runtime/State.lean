import EzoProvider.Runtime.Capabilities
import EzoProvider.Runtime.Config
import Mathlib.Algebra.Order.Group.Unbundled.Abs
import Mathlib.Algebra.Order.Ring.Rat

/-!
# The runtime state

`RuntimeState` with what the critical sections of `runtime_state.cpp` do to one
active device. Clock readings are in nanoseconds.
-/

namespace EzoProvider.Runtime

open Devices

/-- `DeviceSampleCache`. -/
structure DeviceSampleCache where
  hasSample : Bool := false
  lastReadOk : Bool := false
  sampledAt : Int := 0
  lastError : String := ""
  successCount : Nat := 0
  failureCount : Nat := 0
  sequence : Nat := 0
  sampledAtSteady : Int := 0
  consecutiveLaggingGaps : Nat := 0
  staleGapWarned : Bool := false
  signals : List SignalSample := []
deriving DecidableEq, Repr

/-- `ActiveDevice`, less the descriptor. -/
structure ActiveDevice where
  spec : DeviceSpec
  capabilities : CapabilitySet := {}
  defaultSignalIds : List String := []
  startupProductCode : String := ""
  startupFirmwareVersion : String := ""
  sample : DeviceSampleCache := {}
  calibrationLevel : Option ℚ := none
  calibrationLevelError : String := ""
  compensationSet : Compensation := {}
  compensationRead : CompensationReading := {}
  compensationError : String := ""
  compensationReappliedCount : Nat := 0
  hasLastCall : Bool := false
  lastCallOk : Bool := false
  lastCallFunction : String := ""
  lastCallError : String := ""
  lastCallAt : Int := 0
  callSuccessCount : Nat := 0
  callFailureCount : Nat := 0
deriving DecidableEq, Repr

/-- `ExcludedDevice`. -/
structure ExcludedDevice where
  spec : DeviceSpec
  reason : String
deriving DecidableEq, Repr

/-- A host requirement as the SDK reports it. -/
structure Requirement where
  id : String
  met : Bool
  detail : String
deriving DecidableEq, Repr

/-- `RuntimeState`, less the executor metrics copied into it. -/
structure RuntimeState where
  config : ProviderConfig := {}
  activeDevices : List ActiveDevice := []
  excludedDevices : List ExcludedDevice := []
  ready : Bool := false
  startupMessage : String := ""
  startedAt : Int := 0
  readyAt : Int := 0
  i2cExecutorRunning : Bool := false
  i2cStatusMessage : String := "not initialized"
  hostRequirements : List Requirement := []
deriving DecidableEq, Repr

/-! ## Looking up a device -/

/-- `find_active_device_unlocked`. -/
def RuntimeState.find (state : RuntimeState) (deviceId : String) : Option ActiveDevice :=
  state.activeDevices.find? (·.spec.id = deviceId)

/-- Change the device `find` gives. -/
def RuntimeState.update (state : RuntimeState) (deviceId : String)
    (change : ActiveDevice → ActiveDevice) : RuntimeState :=
  { state with
    activeDevices :=
      state.activeDevices.modify (state.activeDevices.findIdx (·.spec.id = deviceId)) change }

namespace RuntimeState

variable {state : RuntimeState} {deviceId other : String}
  {change : ActiveDevice → ActiveDevice}

theorem find_id {device : ActiveDevice} (found : state.find deviceId = some device) :
    device.spec.id = deviceId := by
  simpa using List.find?_some found

theorem mem_of_find {device : ActiveDevice} (found : state.find deviceId = some device) :
    device ∈ state.activeDevices :=
  List.mem_of_find?_eq_some found

/-- Changing one device changes what is found for its id only. -/
theorem find_update (kept : ∀ device, (change device).spec = device.spec) :
    (state.update deviceId change).find other =
      if other = deviceId then (state.find deviceId).map change else state.find other := by
  unfold find update
  induction state.activeDevices with
  | nil => simp
  | cons device rest ih =>
      by_cases here : device.spec.id = deviceId
      · by_cases same : other = deviceId
        · simp [List.findIdx_cons, here, same, kept]
        · have elsewhere : device.spec.id ≠ other := fun eq => same (eq.symm.trans here)
          simp [List.findIdx_cons, here, same, kept, Ne.symm same]
      · by_cases found : device.spec.id = other
        · have different : other ≠ deviceId := fun eq => here (found.trans eq)
          simp [List.findIdx_cons, found, different]
        · simpa [List.findIdx_cons, here, found] using ih

theorem find_update_self (kept : ∀ device, (change device).spec = device.spec) :
    (state.update deviceId change).find deviceId = (state.find deviceId).map change := by
  simp [find_update kept]

theorem find_update_other (kept : ∀ device, (change device).spec = device.spec)
    (different : other ≠ deviceId) :
    (state.update deviceId change).find other = state.find other := by
  simp [find_update kept, different]

theorem specs_update (kept : ∀ device, (change device).spec = device.spec) :
    (state.update deviceId change).activeDevices.map ActiveDevice.spec =
      state.activeDevices.map ActiveDevice.spec := by
  unfold update
  induction state.activeDevices with
  | nil => rfl
  | cons device rest ih =>
      by_cases here : device.spec.id = deviceId
      · simp [List.findIdx_cons, here, kept]
      · simpa [List.findIdx_cons, here] using ih

end RuntimeState

/-! ## Tolerances -/

def kTemperatureTolerance : ℚ := 6 / 100
def kSalinityTolerance : ℚ := 1
def kPressureTolerance : ℚ := 6 / 100

/-- `holds`. -/
def holds (set read : Option ℚ) (tolerance : ℚ) : Bool :=
  match set, read with
  | none, _ => true
  | some _, none => false
  | some set, some read => |set - read| ≤ tolerance

@[simp] theorem holds_none (read : Option ℚ) (tolerance : ℚ) : holds none read tolerance = true :=
  rfl

@[simp] theorem holds_some_some (set read tolerance : ℚ) :
    holds (some set) (some read) tolerance = decide (|set - read| ≤ tolerance) := rfl

/-- `holds_all`. -/
def holdsAll (set read : Compensation) : Bool :=
  holds set.temperatureC read.temperatureC kTemperatureTolerance &&
    holds set.salinityUsCm read.salinityUsCm kSalinityTolerance &&
      holds set.pressureKpa read.pressureKpa kPressureTolerance

/-! ## What a call records -/

/-- `remember_compensation`, of the device found. -/
def rememberValues (values : Compensation) (device : ActiveDevice) : ActiveDevice :=
  { device with
    compensationSet :=
      { temperatureC := values.temperatureC <|> device.compensationSet.temperatureC
        salinityUsCm := values.salinityUsCm <|> device.compensationSet.salinityUsCm
        pressureKpa := values.pressureKpa <|> device.compensationSet.pressureKpa } }

/-- `record_call_result`, of the device found. -/
def recordCall (functionName : String) (ok : Bool) (message : String) (now : Int)
    (device : ActiveDevice) : ActiveDevice :=
  let called :=
    { device with
      hasLastCall := true, lastCallOk := ok, lastCallFunction := functionName, lastCallAt := now }
  if ok then
    { called with lastCallError := "", callSuccessCount := called.callSuccessCount + 1 }
  else
    { called with lastCallError := message, callFailureCount := called.callFailureCount + 1 }

@[simp] theorem spec_rememberValues (device : ActiveDevice) (values : Compensation) :
    (rememberValues values device).spec = device.spec := rfl

/-- A call is recorded outside what is read from the device. -/
theorem recordCall_frame (device : ActiveDevice) (functionName : String) (ok : Bool)
    (message : String) (now : Int) :
    ∃ error successes failures, recordCall functionName ok message now device =
      { device with
        hasLastCall := true
        lastCallOk := ok
        lastCallFunction := functionName
        lastCallAt := now
        lastCallError := error
        callSuccessCount := successes
        callFailureCount := failures } := by
  rw [recordCall]
  split <;> exact ⟨_, _, _, rfl⟩

@[simp] theorem spec_recordCall (device : ActiveDevice) (functionName : String) (ok : Bool)
    (message : String) (now : Int) :
    (recordCall functionName ok message now device).spec = device.spec := by
  rw [recordCall]
  split <;> rfl

/-! ## Filling the slots of a sample -/

variable [EzoDriver]

/-- The slot `apply_calibration_level` writes. -/
def calibrationLevelSlot (level : Option ℚ) (error : String) (slot : SignalSample) : SignalSample :=
  match level with
  | some level =>
      { slot with available := true, hasValue := true, value := level, unavailableReason := "" }
  | none =>
      { slot with
        available := false
        hasValue := false
        unavailableReason := if error = "" then "calibration level not read yet" else error }

/-- `apply_calibration_level`. -/
def applyCalibrationLevel (device : ActiveDevice) : ActiveDevice :=
  { device with
    sample.signals :=
      match (adapterFor device.spec.type).calibrationLevelSignal with
      | none => device.sample.signals
      | some index =>
          device.sample.signals.modify index
            (calibrationLevelSlot device.calibrationLevel device.calibrationLevelError) }

/-- The `fill` of `apply_compensation`. -/
def fillCompensation (signals : List SignalSample) (signal : Option Nat) (value : Option ℚ)
    (missing : String) : List SignalSample :=
  match signal, value with
  | none, _ => signals
  | some index, some value => setSignalValue signals index value
  | some index, none => setSignalUnavailable signals index missing

/-- The slots `apply_compensation` writes. -/
def compensationSignals (adapter : DeviceAdapter) (read : CompensationReading) (error : String)
    (signals : List SignalSample) : List SignalSample :=
  let unknown := if error = "" then "compensation not read yet" else error
  let temperature :=
    fillCompensation signals adapter.temperatureCompensationSignal read.values.temperatureC unknown
  let salinity :=
    fillCompensation temperature adapter.salinityCompensationSignal read.values.salinityUsCm
      (if read.salinityUnavailable = "" then unknown else read.salinityUnavailable)
  fillCompensation salinity adapter.pressureCompensationSignal read.values.pressureKpa unknown

/-- `apply_compensation`. -/
def applyCompensation (device : ActiveDevice) : ActiveDevice :=
  { device with
    sample.signals :=
      compensationSignals (adapterFor device.spec.type) device.compensationRead
        device.compensationError device.sample.signals }

/-! ## What a read records -/

def kCadenceLagStreak : Nat := 3

/-- Every this many successful samples a device's compensation is checked. -/
def kCompensationCheckEvery : Nat := 24

/-- The cadence part of `refresh_device_sample`, with its warning, if any. -/
def noteCadence (config : ProviderConfig) (deviceId : String) (nowSteady : Int)
    (sample : DeviceSampleCache) : DeviceSampleCache × Option String :=
  if sample.hasSample && sample.lastReadOk && !sample.staleGapWarned then
    let gapMs := toMilliseconds (nowSteady - sample.sampledAtSteady)
    let boundMs := staleAfterMs config
    if boundMs < gapMs then
      let lagging := sample.consecutiveLaggingGaps + 1
      if kCadenceLagStreak ≤ lagging then
        ({ sample with consecutiveLaggingGaps := lagging, staleGapWarned := true },
          some ("device '" ++ deviceId ++ "' samples refreshed " ++ toString lagging ++
            " times running at ~" ++ toString gapMs ++ " ms, but are declared stale after " ++
            toString boundMs ++ " ms; raise hardware.sample_interval_ms (currently " ++
            toString config.sampleIntervalMs ++ " ms) to match the consumer's poll interval"))
      else ({ sample with consecutiveLaggingGaps := lagging }, none)
    else ({ sample with consecutiveLaggingGaps := 0 }, none)
  else (sample, none)

/-- The outcome of a sample read, recorded. -/
def recordSample (config : ProviderConfig) (deviceId : String) (status : Status)
    (signals : List SignalSample) (now nowSteady : Int) (device : ActiveDevice) : ActiveDevice :=
  if status.isOk then
    let noted := (noteCadence config deviceId nowSteady device.sample).1
    let filled :=
      applyCompensation (applyCalibrationLevel { device with sample := { noted with signals } })
    { filled with
      sample := { filled.sample with
        sampledAt := now
        sampledAtSteady := nowSteady
        hasSample := true
        lastReadOk := true
        lastError := ""
        successCount := filled.sample.successCount + 1
        sequence := filled.sample.sequence + 1 } }
  else
    { device with
      sample := { device.sample with
        lastReadOk := false
        lastError := status.message
        failureCount := device.sample.failureCount + 1
        consecutiveLaggingGaps := 0 } }

/-- The outcome of a level read, recorded. -/
def recordCalibrationLevel (status : Status) (level : ℚ) (device : ActiveDevice) : ActiveDevice :=
  applyCalibrationLevel <|
    if status.isOk then { device with calibrationLevel := some level, calibrationLevelError := "" }
    else
      { device with
        calibrationLevel := none
        calibrationLevelError := "calibration level unknown: " ++ status.message }

/-- The outcome of a compensation check, recorded. -/
def recordCompensation (status : Status) (reading : CompensationReading) (reapplied : Bool)
    (device : ActiveDevice) : ActiveDevice :=
  let read :=
    if status.isOk then { device with compensationRead := reading, compensationError := "" }
    else
      { device with
        compensationRead := {}
        compensationError := "compensation unknown: " ++ status.message }
  applyCompensation
    { read with
      compensationReappliedCount := read.compensationReappliedCount + if reapplied then 1 else 0 }

/-! ## What a record leaves alone -/

section Records

variable (device : ActiveDevice)

/-- A sample read changes the sample only. -/
theorem recordSample_frame (config : ProviderConfig) (deviceId : String) (status : Status)
    (signals : List SignalSample) (now nowSteady : Int) :
    ∃ sample, recordSample config deviceId status signals now nowSteady device =
        { device with sample } ∧
      sample.successCount = device.sample.successCount + if status.isOk then 1 else 0 := by
  rw [recordSample]
  split
  · refine ⟨_, rfl, ?_⟩
    simp only [applyCompensation, applyCalibrationLevel, noteCadence]
    split
    · split
      · split <;> rfl
      · rfl
    · rfl
  · exact ⟨_, rfl, rfl⟩

/-- A level read changes the level, and the slots it is shown in. -/
theorem recordCalibrationLevel_frame (status : Status) (level : ℚ) :
    ∃ error signals, recordCalibrationLevel status level device =
      { device with
        calibrationLevel := if status.isOk then some level else none
        calibrationLevelError := error
        sample.signals := signals } := by
  rw [recordCalibrationLevel]
  split <;> exact ⟨_, _, rfl⟩

/-- A check changes what was read, the count of re-sends, and the slots. -/
theorem recordCompensation_frame (status : Status) (reading : CompensationReading)
    (reapplied : Bool) :
    ∃ error signals, recordCompensation status reading reapplied device =
      { device with
        compensationRead := if status.isOk then reading else {}
        compensationError := error
        compensationReappliedCount :=
          device.compensationReappliedCount + if reapplied then 1 else 0
        sample.signals := signals } := by
  rw [recordCompensation]
  split <;> exact ⟨_, _, rfl⟩

@[simp] theorem spec_recordSample (config : ProviderConfig) (deviceId : String) (status : Status)
    (signals : List SignalSample) (now nowSteady : Int) :
    (recordSample config deviceId status signals now nowSteady device).spec = device.spec := by
  obtain ⟨_, same, _⟩ := recordSample_frame device config deviceId status signals now nowSteady
  rw [same]

@[simp] theorem spec_recordCalibrationLevel (status : Status) (level : ℚ) :
    (recordCalibrationLevel status level device).spec = device.spec := by
  obtain ⟨_, _, same⟩ := recordCalibrationLevel_frame device status level
  rw [same]

@[simp] theorem spec_recordCompensation (status : Status) (reading : CompensationReading)
    (reapplied : Bool) :
    (recordCompensation status reading reapplied device).spec = device.spec := by
  obtain ⟨_, _, same⟩ := recordCompensation_frame device status reading reapplied
  rw [same]

end Records

end EzoProvider.Runtime
