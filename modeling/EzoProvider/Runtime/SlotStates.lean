import EzoProvider.Runtime.CannedProvider
import EzoProvider.Runtime.JobOutcomes
import EzoProvider.Runtime.Soundness

/-!
# The states of the slots

A device has one slot for each signal its family declares. Once it has a sample
every slot is determined: the adapter fills the slots it reads, and the caches
of the level and the compensation fill the others.
-/

namespace EzoProvider.Runtime

open Interaction Program Devices TransitionSystem

/-- A slot with a value, or without one for a reason. -/
def Determined (slot : SignalSample) : Prop :=
  slot.available = true ∧ slot.hasValue = true ∨
    slot.available = false ∧ slot.hasValue = false ∧ slot.unavailableReason ≠ ""

theorem Shows.determined {slot : SignalSample} {value : Option ℚ} (shows : Shows slot value) :
    Determined slot := by
  cases value with
  | some value => exact .inl ⟨shows.1, shows.2.1⟩
  | none => exact .inr shows

/-! ## Slots an adapter fills -/

theorem determined_setSignalValue {signals : List SignalSample} {index : Nat} {value : ℚ}
    {slot : SignalSample} (found : (setSignalValue signals index value)[index]? = some slot) :
    Determined slot := by
  rw [setSignalValue, List.getElem?_modify_eq] at found
  obtain ⟨_, _, rfl⟩ := Option.map_eq_some_iff.mp found
  exact .inl ⟨rfl, rfl⟩

theorem determined_setSignalUnavailable {signals : List SignalSample} {index : Nat}
    {reason : String} (given : reason ≠ "") {slot : SignalSample}
    (found : (setSignalUnavailable signals index reason)[index]? = some slot) :
    Determined slot := by
  rw [setSignalUnavailable, List.getElem?_modify_eq] at found
  obtain ⟨_, _, rfl⟩ := Option.map_eq_some_iff.mp found
  exact .inr ⟨rfl, rfl, given⟩

/-- Filling from `index` on leaves the slots before it. -/
theorem getElem?_fillOutputs_before (reading : Output → Option ℚ) (samples : List SignalSample)
    {index earlier : Nat} (before : earlier < index) (outputs : List (Output × String)) :
    (fillOutputs reading samples index outputs)[earlier]? = samples[earlier]? := by
  induction outputs generalizing samples index with
  | nil => rfl
  | cons entry rest ih =>
      obtain ⟨output, disabled⟩ := entry
      have different : index ≠ earlier := by omega
      rw [fillOutputs, ih _ (by omega)]
      cases reading output <;> simp [setSignalValue, setSignalUnavailable, different]

/-- The slots of the outputs of a family are determined once they are filled. -/
theorem determined_fillOutputs (reading : Output → Option ℚ) (samples : List SignalSample)
    (index : Nat) (outputs : List (Output × String))
    (reasons : ∀ entry ∈ outputs, entry.2 ≠ "") {filled : Nat} (reached : index ≤ filled)
    (below : filled < index + outputs.length) {slot : SignalSample}
    (found : (fillOutputs reading samples index outputs)[filled]? = some slot) :
    Determined slot := by
  induction outputs generalizing samples index with
  | nil =>
      rw [List.length_nil] at below
      omega
  | cons entry rest ih =>
      obtain ⟨output, disabled⟩ := entry
      rw [fillOutputs] at found
      rcases Nat.eq_or_lt_of_le reached with rfl | later
      · rw [getElem?_fillOutputs_before reading _ (Nat.lt_succ_self _)] at found
        cases present : reading output with
        | some value =>
            rw [present] at found
            exact determined_setSignalValue found
        | none =>
            rw [present] at found
            exact determined_setSignalUnavailable (reasons _ List.mem_cons_self) found
      · rw [List.length_cons] at below
        exact ih _ _ (fun entry member => reasons entry (List.mem_cons_of_mem _ member)) later
          (by omega) found

theorem length_fillCompensation (signals : List SignalSample) (signal : Option Nat)
    (value : Option ℚ) (missing : String) :
    (fillCompensation signals signal value missing).length = signals.length := by
  cases signal with
  | none => rfl
  | some index => cases value <;> simp [fillCompensation]

section Slots

variable [EzoDriver]

/-- A slot which a cache fills, not the sample. -/
def CachedSlot (adapter : DeviceAdapter) (index : Nat) : Prop :=
  adapter.calibrationLevelSignal = some index ∨
    adapter.temperatureCompensationSignal = some index ∨
      adapter.salinityCompensationSignal = some index ∨
        adapter.pressureCompensationSignal = some index

theorem CachedSlot.lt {type : EzoDeviceType} {index : Nat}
    (cached : CachedSlot (adapterFor type) index) : index < (adapterFor type).signals.length := by
  cases type
  case ph => rcases cached with same | same | same | same <;> cases same <;>
    simp [adapterFor, Ph.kAdapter, Ph.kSignals]
  case dox => rcases cached with same | same | same | same <;> cases same <;>
    simp [adapterFor, Do.kAdapter, Do.kSignals]
  all_goals rcases cached with same | same | same | same <;> cases same

/-- Signals as the adapter of a family leaves them. -/
structure SampleRead (type : EzoDeviceType) (signals : List SignalSample) : Prop where
  length : signals.length = (adapterFor type).signals.length
  determined : ∀ index slot, ¬ CachedSlot (adapterFor type) index →
    signals[index]? = some slot → Determined slot

theorem sampleRead_single {label : String} {type : EzoDeviceType} {device : Address}
    {trace : JobTrace} {signals : List SignalSample}
    (cached : ∀ index, 0 < index → index < (adapterFor type).signals.length →
      CachedSlot (adapterFor type) index)
    (run : (readSingleSample label (adapterFor type).signals device).run.Runs trace
      (.ok signals)) : SampleRead type signals := by
  obtain ⟨_, value, _, rfl, _, final⟩ := runs_exceptT_bind_ok_iff.mp run
  obtain ⟨_, same⟩ := runs_done_iff.mp final
  obtain rfl := Except.ok.inj same
  refine ⟨by simp, fun index slot plain found => ?_⟩
  rcases Nat.eq_zero_or_pos index with rfl | later
  · exact determined_setSignalValue found
  · have within := (List.getElem?_eq_some_iff.mp found).1
    exact absurd (cached index later (by simpa using within)) plain

theorem sampleRead_outputs {label : String} {type : EzoDeviceType} {device : Address}
    {outputs : List (Output × String)} {trace : JobTrace} {signals : List SignalSample}
    (reasons : ∀ entry ∈ outputs, entry.2 ≠ "")
    (cached : ∀ index, outputs.length ≤ index → index < (adapterFor type).signals.length →
      CachedSlot (adapterFor type) index)
    (run : (readOutputsSample label (adapterFor type).signals outputs device).run.Runs trace
      (.ok signals)) : SampleRead type signals := by
  obtain ⟨_, enabled, _, rfl, _, reading⟩ := runs_exceptT_bind_ok_iff.mp run
  obtain ⟨_, values, _, rfl, _, final⟩ := runs_exceptT_bind_ok_iff.mp reading
  obtain ⟨_, same⟩ := runs_done_iff.mp final
  obtain rfl := Except.ok.inj same
  refine ⟨by simp [length_fillOutputs], fun index slot plain found => ?_⟩
  by_cases filled : index < outputs.length
  · exact determined_fillOutputs _ _ 0 _ reasons (Nat.zero_le _) (by omega) found
  · have within := (List.getElem?_eq_some_iff.mp found).1
    rw [length_fillOutputs, length_initializeSignalSamples] at within
    exact absurd (cached index (by omega) within) plain

/-- What the adapter of any family has read. -/
theorem sampleRead_of_readSample {type : EzoDeviceType} {device : Address} {trace : JobTrace}
    {signals : List SignalSample}
    (run : ((adapterFor type).readSample device).run.Runs trace (.ok signals)) :
    SampleRead type signals := by
  cases type with
  | ph =>
      refine sampleRead_single (fun index positive below => ?_) run
      obtain rfl | rfl : index = 1 ∨ index = 2 := by
        simp only [adapterFor, Ph.kAdapter, Ph.kSignals, List.length_cons, List.length_nil] at below
        omega
      · exact .inl rfl
      · exact .inr (.inl rfl)
  | orp | rtd =>
      refine sampleRead_single (fun index positive below => ?_) run
      simp only [adapterFor, Orp.kAdapter, Orp.kSignals, Rtd.kAdapter, Rtd.kSignals,
        List.length_cons, List.length_nil] at below
      omega
  | ec | hum =>
      refine sampleRead_outputs (by decide) (fun index beyond below => ?_) run
      simp only [adapterFor, Ec.kAdapter, Ec.kSignals, Hum.kAdapter, Hum.kSignals,
        List.length_cons, List.length_nil] at below beyond
      omega
  | dox =>
      refine sampleRead_outputs (by decide) (fun index beyond below => ?_) run
      obtain rfl | rfl | rfl | rfl : index = 2 ∨ index = 3 ∨ index = 4 ∨ index = 5 := by
        simp only [adapterFor, Do.kAdapter, Do.kSignals, List.length_cons, List.length_nil]
          at below beyond
        omega
      · exact .inl rfl
      · exact .inr (.inl rfl)
      · exact .inr (.inr (.inl rfl))
      · exact .inr (.inr (.inr rfl))

/-- A sample job which returned ok has stored what the adapter has read. -/
theorem runs_sampleJob {spec : DeviceSpec} {trace : JobTrace} {status : Status}
    (run : (sampleJob spec).Runs trace status) (ok : status.isOk = true) :
    ∃ reads signals, trace = ⟨.bind spec.address, .ok ()⟩ ::
        (reads ++ [⟨.store (.signals signals), ()⟩]) ∧
      ((adapterFor spec.type).readSample spec.address).run.Runs reads (.ok signals) ∧
      (outputsOf trace).signals = signals := by
  obtain ⟨_, rfl, body⟩ := runs_bound (reliable_sampleJob spec) run ok
  obtain ⟨reads, signals, _, rfl, read, stored⟩ := runs_exceptT_bind_ok_iff.mp body
  obtain ⟨rfl, _⟩ := runs_store stored
  refine ⟨reads, signals, rfl, read, ?_⟩
  rw [← List.cons_append, outputsOf_concat_store]
  rfl

/-! ## Records -/

/-- One slot for each signal, and those a sample fills determined once there is one. -/
structure Slotted (device : ActiveDevice) : Prop where
  length : device.sample.signals.length = (adapterFor device.spec.type).signals.length
  determined : device.sample.hasSample = true → ∀ index slot,
    ¬ CachedSlot (adapterFor device.spec.type) index →
      device.sample.signals[index]? = some slot → Determined slot

section Records

variable {device : ActiveDevice}

/-- Every slot that is declared is there. -/
theorem Slotted.slot (slotted : Slotted device) {index : Nat}
    (declared : CachedSlot (adapterFor device.spec.type) index) :
    ∃ slot, device.sample.signals[index]? = some slot := by
  have below := declared.lt
  rw [← slotted.length] at below
  exact ⟨_, List.getElem?_eq_getElem below⟩

theorem getElem?_applyCalibrationLevel {index : Nat}
    (plain : ¬ CachedSlot (adapterFor device.spec.type) index) :
    (applyCalibrationLevel device).sample.signals[index]? = device.sample.signals[index]? := by
  simp only [applyCalibrationLevel]
  split
  · rfl
  · next level here =>
      have different : level ≠ index := fun same => plain (.inl (by rw [here, same]))
      simp [different]

theorem getElem?_applyCompensation {index : Nat}
    (plain : ¬ CachedSlot (adapterFor device.spec.type) index) :
    (applyCompensation device).sample.signals[index]? = device.sample.signals[index]? := by
  simp only [CachedSlot, not_or] at plain
  obtain ⟨_, temperature, salinity, pressure⟩ := plain
  simp only [applyCompensation, compensationSignals, getElem?_fillCompensation_other pressure,
    getElem?_fillCompensation_other salinity, getElem?_fillCompensation_other temperature]

theorem slotted_applyCalibrationLevel (slotted : Slotted device) :
    Slotted (applyCalibrationLevel device) where
  length := by
    rw [applyCalibrationLevel]
    dsimp only
    split
    · exact slotted.length
    · rw [List.length_modify]
      exact slotted.length
  determined sampled index slot plain found :=
    slotted.determined sampled index slot plain
      ((@getElem?_applyCalibrationLevel _ device _ plain).symm.trans found)

theorem slotted_applyCompensation (slotted : Slotted device) : Slotted (applyCompensation device) where
  length := by
    simp only [applyCompensation, compensationSignals, length_fillCompensation]
    exact slotted.length
  determined sampled index slot plain found :=
    slotted.determined sampled index slot plain
      ((@getElem?_applyCompensation _ device _ plain).symm.trans found)

theorem slotted_recordSample (slotted : Slotted device) (config : ProviderConfig)
    (deviceId : String) {status : Status} {signals : List SignalSample} (now nowSteady : Int)
    (read : status.isOk = true → SampleRead device.spec.type signals) :
    Slotted (recordSample config deviceId status signals now nowSteady device) := by
  rw [recordSample]
  split
  · next ok =>
      have sampled : Slotted { device with
          sample := { (noteCadence config deviceId nowSteady device.sample).1 with signals } } :=
        ⟨(read ok).length, fun _ => (read ok).determined⟩
      have filled := slotted_applyCompensation (slotted_applyCalibrationLevel sampled)
      refine ⟨filled.length, fun _ index slot plain found => ?_⟩
      -- The slots hold the sample just read, whatever was there before.
      have same := (@getElem?_applyCompensation _ (applyCalibrationLevel { device with
          sample := { (noteCadence config deviceId nowSteady device.sample).1 with signals } })
            _ plain).trans (getElem?_applyCalibrationLevel plain)
      exact (read ok).determined index slot plain (same.symm.trans found)
  · exact ⟨slotted.length, slotted.determined⟩

theorem slotted_recordCalibrationLevel (slotted : Slotted device) (status : Status) (level : ℚ) :
    Slotted (recordCalibrationLevel status level device) := by
  refine slotted_applyCalibrationLevel ?_
  split <;> exact ⟨slotted.length, slotted.determined⟩

theorem slotted_recordCompensation (slotted : Slotted device) (status : Status)
    (reading : CompensationReading) (reapplied : Bool) :
    Slotted (recordCompensation status reading reapplied device) := by
  refine slotted_applyCompensation ?_
  split <;> exact ⟨slotted.length, slotted.determined⟩

theorem slotted_recordCall (slotted : Slotted device) (functionName : String) (ok : Bool)
    (message : String) (now : Int) :
    Slotted (recordCall functionName ok message now device) := by
  rw [recordCall]
  split <;> exact ⟨slotted.length, slotted.determined⟩

theorem slotted_rememberValues (slotted : Slotted device) (values : Compensation) :
    Slotted (rememberValues values device) :=
  ⟨slotted.length, slotted.determined⟩

/-- Every slot of a sampled device is determined. -/
theorem determined_of_slotted (slotted : Slotted device) (level : LevelShown device)
    (compensation : CompensationShown device) (sampled : device.sample.hasSample = true) :
    ∀ slot ∈ device.sample.signals, Determined slot := by
  intro slot member
  obtain ⟨index, found⟩ := List.mem_iff_getElem?.mp member
  by_cases cached : CachedSlot (adapterFor device.spec.type) index
  · rcases cached with signal | signal | signal | signal
    · exact (level index slot signal found).determined
    · exact (compensation (_, device.compensationRead.values.temperatureC)
        (by simp [compensationSlots]) index slot signal found).determined
    · exact (compensation (_, device.compensationRead.values.salinityUsCm)
        (by simp [compensationSlots]) index slot signal found).determined
    · exact (compensation (_, device.compensationRead.values.pressureKpa)
        (by simp [compensationSlots]) index slot signal found).determined
  · exact slotted.determined sampled index slot cached found

end Records

/-! ## Operations of the runtime -/

/-- An operation on the initialized runtime: one of the provider's, or one of the two
which only write something down. -/
inductive RuntimeOperation where
  | operation (operation : Operation)
  | remember (deviceId : String) (values : Compensation)
  | record (deviceId functionName : String) (ok : Bool) (message : String)

variable [DecimalText]

/-- What they do. -/
inductive RuntimeStep [ProviderSdk] (submits : Submits) (world : World) : RuntimeOperation → World → Prop where
  | operation {operation : Operation} {world' : World}
      (step : ProviderStep submits world operation world') :
      RuntimeStep submits world (.operation operation) world'
  | remember {deviceId : String} {values : Compensation} {world' : World}
      (completes : Completes (World.environment submits) (rememberCompensation deviceId values) world
        () world') :
      RuntimeStep submits world (.remember deviceId values) world'
  | record {deviceId functionName message : String} {ok : Bool} {world' : World}
      (completes : Completes (World.environment submits)
        (recordCallResult deviceId functionName ok message) world () world') :
      RuntimeStep submits world (.record deviceId functionName ok message) world'

/-- The runtime, from the end of `initialize` on. -/
def runtime [ProviderSdk] (submits : Submits) : TransitionSystem World RuntimeOperation where
  Initial world := ∃ config, Initialized submits config world
  Step := RuntimeStep submits

/-- The invariant of the slots. -/
structure World.SlotsSound (world : World) : Prop where
  apart : world.state.Apart
  slotted : ∀ device deviceId, world.state.find deviceId = some device → Slotted device
  shows : ∀ deviceId, world.Shows deviceId

section Steps

variable {world world' : World} {deviceId : String}

/-- What a successful sample records is what the adapter has read. -/
theorem RoundStep.sampleRead {status : Status} {device : ActiveDevice}
    (step : RoundStep Line.Submitted world (.sampled deviceId status) world')
    (found : world.state.find deviceId = some device) :
    ∃ signals now nowSteady, world'.state.find deviceId =
        some (recordSample world.state.config deviceId status signals now nowSteady device) ∧
      (status.isOk = true → SampleRead device.spec.type signals) := by
  cases step with
  | @sampled _ _ reply line now nowSteady foundOther submitted later =>
      cases foundOther.symm.trans found
      refine ⟨reply.outputs.signals, now, nowSteady, ?_, fun ok => ?_⟩
      · dsimp only
        rw [RuntimeState.find_update_self (by simp), found, Option.map_some]
      · obtain ⟨trace, _, _, _, run, outputs, _⟩ := Line.finished_of_submitted submitted ok
        obtain ⟨_, signals, _, read, stored⟩ := runs_sampleJob run ok
        rw [outputs, stored]
        exact sampleRead_of_readSample read

theorem RoundStep.slotted {round : Round} (step : RoundStep Line.Submitted world round world')
    (apart : world.state.Apart)
    (holds : ∀ device, world.state.find deviceId = some device → Slotted device)
    (device' : ActiveDevice) (found : world'.state.find deviceId = some device') :
    Slotted device' := by
  obtain ⟨device, before, _⟩ := step.found apart found
  have slotted := holds device before
  by_cases samples : ∃ status, round = .sampled deviceId status
  · obtain ⟨status, rfl⟩ := samples
    obtain ⟨signals, now, nowSteady, after, read⟩ := step.sampleRead before
    cases after.symm.trans found
    exact slotted_recordSample slotted _ _ _ _ read
  · obtain ⟨_, after, effect⟩ := step.effect before
    cases after.symm.trans found
    cases effect with
    | sampled => exact absurd ⟨_, rfl⟩ samples
    | levelRead => exact slotted_recordCalibrationLevel slotted _ _
    | checked => exact slotted_recordCompensation slotted _ _ _
    | recorded => exact slotted_recordCall slotted _ _ _ _
    | remembered => exact slotted_rememberValues slotted _
    | controlled | elsewhere => exact slotted

theorem Through.slotted {allowed : Round → Prop}
    (through : Through Line.Submitted allowed world world') (apart : world.state.Apart)
    (holds : ∀ device deviceId, world.state.find deviceId = some device → Slotted device) :
    ∀ device deviceId, world'.state.find deviceId = some device → Slotted device := by
  let slotted : World → Prop := fun world => world.state.Apart ∧
    ∀ device deviceId, world.state.find deviceId = some device → Slotted device
  have kept : ∀ {before round after}, allowed round → slotted before →
      RoundStep Line.Submitted before round after → slotted after :=
    fun _ before step => ⟨step.apart before.1, fun device deviceId =>
      step.slotted before.1 (fun device => before.2 device deviceId) device⟩
  exact (through.maintains kept ⟨apart, holds⟩).2

theorem RoundStep.slotsSound {round : Round} (step : RoundStep Line.Submitted world round world')
    (sound : world.SlotsSound) : world'.SlotsSound where
  apart := step.apart sound.apart
  slotted device deviceId :=
    step.slotted sound.apart (fun device => sound.slotted device deviceId) device
  shows deviceId := step.shows sound.apart (sound.shows deviceId)

/-- `remember_compensation` touches no slot, whatever the values. -/
theorem slotsSound_of_remember {values : Compensation} (sound : world.SlotsSound)
    (completes : Completes (World.environment Line.Submitted)
      (rememberCompensation deviceId values) world () world') : world'.SlotsSound := by
  obtain ⟨_, _, changed, final⟩ := completes_bind_iff.mp completes
  obtain ⟨_, rfl⟩ := completes_changeDevice_iff.mp changed
  obtain ⟨_, rfl⟩ := completes_done_iff.mp final
  have found : ∀ {other device},
      (world.state.update deviceId (rememberValues values)).find other = some device →
        ∃ before, world.state.find other = some before ∧
          (device = before ∨ device = rememberValues values before) := by
    intro other device found
    rw [RuntimeState.find_update (by simp)] at found
    split at found
    · next same =>
        obtain ⟨before, here, rfl⟩ := Option.map_eq_some_iff.mp found
        exact ⟨before, by rw [same, here], .inr rfl⟩
    · exact ⟨device, found, .inl rfl⟩
  refine ⟨⟨?_, ?_⟩, fun device other here => ?_, fun other device here => ?_⟩
  · rw [RuntimeState.specs_update (by simp)]
    exact sound.apart.ids
  · rw [RuntimeState.specs_update (by simp)]
    exact sound.apart.addresses
  · obtain ⟨before, there, rfl | rfl⟩ := found here
    · exact sound.slotted _ _ there
    · exact slotted_rememberValues (sound.slotted _ _ there) values
  · obtain ⟨before, there, rfl | rfl⟩ := found here
    · exact sound.shows _ device there
    · exact sound.shows _ before there

variable [ProviderSdk]

theorem RuntimeStep.slotsSound {operation : RuntimeOperation}
    (step : RuntimeStep Line.Submitted world operation world') (sound : world.SlotsSound) :
    world'.SlotsSound := by
  cases step with
  | operation step => exact step.through.maintains (fun _ sound round => round.slotsSound sound) sound
  | remember completes => exact slotsSound_of_remember sound completes
  | record completes =>
      cases recordRun_of_completes completes with
      | unnamed => exact sound
      | recorded step => exact step.slotsSound sound

/-- What `initialize` leaves. -/
theorem slotsSound_of_initialized {config : ProviderConfig}
    (initialized : Initialized Line.Submitted config world) : world.SlotsSound := by
  have sound := sound_of_initialized initialized
  refine ⟨sound.apart, ?_, fun _ _ found => ⟨sound.level found, sound.compensation found⟩⟩
  obtain ⟨valid, bus, completes⟩ := initialized
  rcases published_of_initialize completes with none | ⟨probes, start, covered, published, reads⟩
  · intro device deviceId found
    simp [RuntimeState.find, none] at found
  · obtain ⟨formed, _⟩ := wellFormed_of_published valid covered published
    refine (through_of_startupReadsOf reads).slotted formed.apart fun device deviceId found => ?_
    have member := RuntimeState.mem_of_find found
    rw [published] at member
    obtain ⟨probe, _, rfl⟩ := List.mem_map.mp member
    exact ⟨by simp [activeDevice, buildCapabilities], fun sampled => by cases sampled⟩

theorem slotsSound_of_reachable (reachable : (runtime Line.Submitted).Reachable world) :
    world.SlotsSound := by
  refine @Reachable.holds _ _ (runtime Line.Submitted) World.SlotsSound ?_ ?_ world reachable
  · rintro state ⟨config, initialized⟩
    exact slotsSound_of_initialized initialized
  · intro state operation next sound step
    exact RuntimeStep.slotsSound step sound

/-- What the provider reaches, the runtime does. -/
theorem runtime_of_provider {submits : Submits} (reachable : (provider submits).Reachable world) :
    (runtime submits).Reachable world := by
  refine @Reachable.holds _ _ (provider submits) (runtime submits).Reachable ?_ ?_ world reachable
  · intro state initialized
    exact .initial initialized
  · intro state operation next here step
    exact here.steps (.single (.operation step))

/-- In every state after `initialize` each active device has one slot for each signal of its
family, the slots of the level and of the compensation show what is cached, and once there
is a sample every slot is determined. -/
theorem slots_determined (reachable : (runtime Line.Submitted).Reachable world)
    {device : ActiveDevice} (found : world.state.find deviceId = some device) :
    device.sample.signals.length = (adapterFor device.spec.type).signals.length ∧
      (∀ index, (adapterFor device.spec.type).calibrationLevelSignal = some index →
        ∃ slot, device.sample.signals[index]? = some slot ∧ Shows slot device.calibrationLevel) ∧
      (∀ entry ∈ compensationSlots (adapterFor device.spec.type) device.compensationRead.values,
        ∀ index, entry.1 = some index →
          ∃ slot, device.sample.signals[index]? = some slot ∧ Shows slot entry.2) ∧
      (device.sample.hasSample = true → ∀ slot ∈ device.sample.signals, Determined slot) := by
  have sound := slotsSound_of_reachable reachable
  have slotted := sound.slotted device deviceId found
  obtain ⟨level, compensation⟩ := sound.shows deviceId device found
  refine ⟨slotted.length, fun index signal => ?_, fun entry member index signal => ?_,
    determined_of_slotted slotted level compensation⟩
  · obtain ⟨slot, here⟩ := slotted.slot (.inl signal)
    exact ⟨slot, here, level index slot signal here⟩
  · have declared : CachedSlot (adapterFor device.spec.type) index := by
      simp only [compensationSlots, List.mem_cons, List.not_mem_nil, or_false] at member
      rcases member with rfl | rfl | rfl
      · exact .inr (.inl signal)
      · exact .inr (.inr (.inl signal))
      · exact .inr (.inr (.inr signal))
    obtain ⟨slot, here⟩ := slotted.slot declared
    exact ⟨slot, here, compensation entry member index slot signal here⟩

end Steps

end Slots

section Canned

open CannedBus CannedProvider

theorem slots_determined_canned :
    let device := probeDevice (started (products .dox fun _ => false) (oneDevice .dox)
      { holding := defaults, powerUp := defaults })
    device.sample.hasSample = true ∧ device.sample.signals.length = 6 ∧
      ∀ slot ∈ device.sample.signals, Determined slot := by
  intro device
  have found := @found_probeDevice (started (products .dox fun _ => false) (oneDevice .dox)
    { holding := defaults, powerUp := defaults }) (by decide +kernel)
  have sampled : device.sample.hasSample = true := by decide +kernel
  have spec : device.spec.type = .dox := by decide +kernel
  obtain ⟨length, _, _, determined⟩ := slots_determined (.initial
    ⟨_, initialized_started (products .dox fun _ => false) (valid_oneDevice .dox) _⟩) found
  exact ⟨sampled, length.trans (by rw [spec]; rfl), determined sampled⟩

end Canned

end EzoProvider.Runtime
