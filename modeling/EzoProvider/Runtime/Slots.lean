import EzoProvider.Runtime.State

/-!
# What the cached slots show

The level and the compensation are cached outside the sample and written into
its slots. A slot `Shows` what is cached: the value, or that there is none and
why. Every record keeps it so, and a record of one kind puts its own slots right.
-/

namespace EzoProvider.Runtime

open Devices

/-- A slot is available with this value, or unavailable with a reason. -/
def Shows (slot : SignalSample) (value : Option ℚ) : Prop :=
  match value with
  | some value => slot.available = true ∧ slot.hasValue = true ∧ slot.value = value
  | none => slot.available = false ∧ slot.hasValue = false ∧ slot.unavailableReason ≠ ""

/-- The compensation signals of a family, with the values read for them. -/
def compensationSlots (adapter : DeviceAdapter) (values : Compensation) :
    List (Option Nat × Option ℚ) :=
  [(adapter.temperatureCompensationSignal, values.temperatureC),
    (adapter.salinityCompensationSignal, values.salinityUsCm),
    (adapter.pressureCompensationSignal, values.pressureKpa)]

theorem shows_calibrationLevelSlot (level : Option ℚ) (error : String) (slot : SignalSample) :
    Shows (calibrationLevelSlot level error slot) level := by
  cases level with
  | some level => exact ⟨rfl, rfl, rfl⟩
  | none =>
      refine ⟨rfl, rfl, ?_⟩
      simp only [calibrationLevelSlot]
      split
      · simp
      · next given => exact given

section Fill

variable {signals : List SignalSample} {signal : Option Nat} {value : Option ℚ} {missing : String}

/-- Filling a slot leaves the others alone. -/
theorem getElem?_fillCompensation_other {index : Nat} (other : signal ≠ some index) :
    (fillCompensation signals signal value missing)[index]? = signals[index]? := by
  cases signal with
  | none => rfl
  | some filled =>
      have different : filled ≠ index := fun same => other (by rw [same])
      cases value <;>
        simp [fillCompensation, setSignalValue, setSignalUnavailable, different]

theorem shows_of_fillCompensation {index : Nat} {slot : SignalSample} (reason : missing ≠ "")
    (here : signal = some index)
    (found : (fillCompensation signals signal value missing)[index]? = some slot) :
    Shows slot value := by
  subst here
  cases value with
  | some value =>
      obtain ⟨_, _, rfl⟩ : ∃ before, signals[index]? = some before ∧
          { available := true, hasValue := true, value, unavailableReason := "" } = slot := by
        simpa [fillCompensation, setSignalValue, List.getElem?_modify] using found
      exact ⟨rfl, rfl, rfl⟩
  | none =>
      obtain ⟨_, _, rfl⟩ : ∃ before, signals[index]? = some before ∧
          { available := false, hasValue := false, value := 0, unavailableReason := missing } =
            slot := by
        simpa [fillCompensation, setSignalUnavailable, List.getElem?_modify] using found
      exact ⟨rfl, rfl, reason⟩

end Fill

variable [EzoDriver]

/-- The slot of the calibration level shows the level cached. -/
def LevelShown (device : ActiveDevice) : Prop :=
  ∀ index slot, (adapterFor device.spec.type).calibrationLevelSignal = some index →
    device.sample.signals[index]? = some slot → Shows slot device.calibrationLevel

/-- The compensation slots show the values cached. -/
def CompensationShown (device : ActiveDevice) : Prop :=
  ∀ entry ∈ compensationSlots (adapterFor device.spec.type) device.compensationRead.values,
    ∀ index slot, entry.1 = some index → device.sample.signals[index]? = some slot →
      Shows slot entry.2

/-- The slots of the level and of the compensation are different ones. -/
theorem compensation_ne_level (type : EzoDeviceType) {index : Nat}
    (level : (adapterFor type).calibrationLevelSignal = some index) :
    (adapterFor type).temperatureCompensationSignal ≠ some index ∧
      (adapterFor type).salinityCompensationSignal ≠ some index ∧
      (adapterFor type).pressureCompensationSignal ≠ some index := by
  cases type <;> cases level <;> simp [adapterFor, Ph.kAdapter, Do.kAdapter]

theorem compensation_distinct (type : EzoDeviceType) {index : Nat} :
    ((adapterFor type).temperatureCompensationSignal = some index →
      (adapterFor type).salinityCompensationSignal ≠ some index ∧
        (adapterFor type).pressureCompensationSignal ≠ some index) ∧
    ((adapterFor type).salinityCompensationSignal = some index →
      (adapterFor type).pressureCompensationSignal ≠ some index) := by
  cases type <;> constructor <;> rintro ⟨⟩ <;> simp [adapterFor, Ph.kAdapter, Do.kAdapter]

/-- A family with no level has no slot for it, and one with no compensation none for that. -/
theorem levelShown_of_unsupported {device : ActiveDevice}
    (unsupported : (adapterFor device.spec.type).readCalibrationLevel = none) :
    LevelShown device := by
  intro index slot signal
  cases family : device.spec.type <;> rw [family] at unsupported signal
  case ph | dox => cases unsupported
  all_goals cases signal

theorem compensationShown_of_unsupported {device : ActiveDevice}
    (unsupported : (adapterFor device.spec.type).readCompensation = none ∨
      (adapterFor device.spec.type).writeCompensation = none) : CompensationShown device := by
  intro entry member index slot signal
  cases family : device.spec.type <;> rw [family] at unsupported member
  case ph | dox => rcases unsupported with impossible | impossible <;> cases impossible
  all_goals
    simp only [compensationSlots, List.mem_cons, List.not_mem_nil, or_false] at member
    rcases member with rfl | rfl | rfl <;> cases signal

/-! ## Applying the caches -/

theorem levelShown_applyCalibrationLevel (device : ActiveDevice) :
    LevelShown (applyCalibrationLevel device) := by
  intro index slot signal found
  have signal' : (adapterFor device.spec.type).calibrationLevelSignal = some index := signal
  simp only [applyCalibrationLevel, signal', List.getElem?_modify_eq] at found
  obtain ⟨before, _, rfl⟩ := Option.map_eq_some_iff.mp found
  exact shows_calibrationLevelSlot _ _ _

theorem compensationShown_applyCalibrationLevel {device : ActiveDevice}
    (shown : CompensationShown device) : CompensationShown (applyCalibrationLevel device) := by
  intro entry member index slot signal found
  refine shown entry member index slot signal ?_
  simp only [applyCalibrationLevel] at found
  split at found
  · exact found
  · next level here =>
      have different : level ≠ index := by
        rintro rfl
        obtain ⟨temperature, salinity, pressure⟩ := compensation_ne_level _ here
        simp only [compensationSlots, List.mem_cons, List.not_mem_nil, or_false] at member
        rcases member with rfl | rfl | rfl
        · exact temperature signal
        · exact salinity signal
        · exact pressure signal
      simpa [List.getElem?_modify, different] using found

theorem levelShown_applyCompensation {device : ActiveDevice} (shown : LevelShown device) :
    LevelShown (applyCompensation device) := by
  intro index slot signal found
  refine shown index slot signal ?_
  obtain ⟨temperature, salinity, pressure⟩ := compensation_ne_level device.spec.type signal
  simpa only [applyCompensation, compensationSignals, getElem?_fillCompensation_other pressure,
    getElem?_fillCompensation_other salinity, getElem?_fillCompensation_other temperature]
    using found

theorem compensationShown_applyCompensation (device : ActiveDevice) :
    CompensationShown (applyCompensation device) := by
  intro entry member index slot signal found
  obtain ⟨temperature, salinity⟩ := @compensation_distinct _ device.spec.type index
  have unknown : (if device.compensationError = "" then "compensation not read yet"
      else device.compensationError) ≠ "" := by
    split
    · simp
    · next given => exact given
  simp only [compensationSlots, List.mem_cons, List.not_mem_nil, or_false] at member
  simp only [applyCompensation, compensationSignals] at found
  rcases member with rfl | rfl | rfl
  · obtain ⟨salinityOther, pressureOther⟩ := temperature signal
    rw [getElem?_fillCompensation_other pressureOther,
      getElem?_fillCompensation_other salinityOther] at found
    exact shows_of_fillCompensation unknown signal found
  · rw [getElem?_fillCompensation_other (salinity signal)] at found
    refine shows_of_fillCompensation ?_ signal found
    split
    · exact unknown
    · next given => exact given
  · exact shows_of_fillCompensation unknown signal found

/-! ## Records -/

section Records

variable {device : ActiveDevice}

theorem levelShown_recordSample (shown : LevelShown device) (config : ProviderConfig)
    (deviceId : String) (status : Status) (signals : List SignalSample) (now nowSteady : Int) :
    LevelShown (recordSample config deviceId status signals now nowSteady device) := by
  rw [recordSample]
  split
  · have filled :=
      levelShown_applyCompensation <| levelShown_applyCalibrationLevel
        { device with
          sample := { (noteCadence config deviceId nowSteady device.sample).1 with signals } }
    exact fun index slot signal found => filled index slot signal found
  · exact shown

theorem compensationShown_recordSample (shown : CompensationShown device) (config : ProviderConfig)
    (deviceId : String) (status : Status) (signals : List SignalSample) (now nowSteady : Int) :
    CompensationShown (recordSample config deviceId status signals now nowSteady device) := by
  rw [recordSample]
  split
  · have filled :=
      compensationShown_applyCompensation <| applyCalibrationLevel
        { device with
          sample := { (noteCadence config deviceId nowSteady device.sample).1 with signals } }
    exact fun entry member index slot signal found => filled entry member index slot signal found
  · exact shown

theorem levelShown_recordCalibrationLevel (status : Status) (level : ℚ) :
    LevelShown (recordCalibrationLevel status level device) :=
  levelShown_applyCalibrationLevel _

theorem compensationShown_recordCalibrationLevel (shown : CompensationShown device)
    (status : Status) (level : ℚ) :
    CompensationShown (recordCalibrationLevel status level device) := by
  refine compensationShown_applyCalibrationLevel ?_
  split <;> exact shown

theorem levelShown_recordCompensation (shown : LevelShown device) (status : Status)
    (reading : CompensationReading) (reapplied : Bool) :
    LevelShown (recordCompensation status reading reapplied device) := by
  refine levelShown_applyCompensation ?_
  split <;> exact shown

theorem compensationShown_recordCompensation (status : Status) (reading : CompensationReading)
    (reapplied : Bool) :
    CompensationShown (recordCompensation status reading reapplied device) :=
  compensationShown_applyCompensation _

theorem levelShown_recordCall (shown : LevelShown device) (functionName : String) (ok : Bool)
    (message : String) (now : Int) :
    LevelShown (recordCall functionName ok message now device) := by
  rw [recordCall]
  split <;> exact shown

theorem compensationShown_recordCall (shown : CompensationShown device) (functionName : String)
    (ok : Bool) (message : String) (now : Int) :
    CompensationShown (recordCall functionName ok message now device) := by
  rw [recordCall]
  split <;> exact shown

/-- Exactly a check which was ok leaves no error. -/
theorem compensationError_recordCompensation (status : Status) (reading : CompensationReading)
    (reapplied : Bool) :
    (recordCompensation status reading reapplied device).compensationError = "" ↔
      status.isOk = true := by
  rw [recordCompensation]
  by_cases ok : status.isOk = true
  · simp [ok, applyCompensation]
  · simp [ok, applyCompensation]

end Records

end EzoProvider.Runtime
