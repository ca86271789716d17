import EzoProvider.Runtime.SlotStates

/-!
# What refreshes leave behind

A run of refreshes from the admission of the devices on, with level reads, checks
and calls in between. A refresh which fails leaves the record of the sample but
for its failure, and the signals are those of the last one which returned ok,
whatever jobs have outlived their callers.
-/

namespace EzoProvider.Runtime

open Interaction Program Devices TransitionSystem

/-! ## Runs -/

/-- The device an operation is of. -/
def Operation.device : Operation → Option String
  | refresh deviceId _ | readLevel deviceId _ | check deviceId _ | read deviceId ..
  | call deviceId .. => some deviceId
  | wait => none

/-- A refresh of a device, with this outcome. -/
def Operation.RefreshedAs (deviceId : String) (ok : Bool) : Operation → Bool
  | refresh id status => id = deviceId && status.isOk == ok
  | _ => false

/-- The outcome of the latest refresh of a device. -/
def lastOutcome (deviceId : String) (labels : List Operation) : Option Bool :=
  labels.foldl
    (fun last operation =>
      match operation with
      | .refresh id status => if id = deviceId then some status.isOk else last
      | _ => last)
    none

/-- An operation of `EzoProviderRuntime::read`. -/
def Operation.IsRead : Operation → Bool
  | read .. => true
  | _ => false

theorem Operation.refreshes_of_permits {deviceId : String} {status : Status} {operation : Operation}
    (unread : operation.IsRead = false)
    (permits : operation.Permits (.sampled deviceId status)) :
    ∃ status, operation = .refresh deviceId status := by
  cases operation with
  | refresh id status =>
      obtain ⟨_, same | same⟩ := permits
      · cases same
        exact ⟨_, rfl⟩
      · cases same
  | read => cases unread
  | readLevel | check =>
      obtain ⟨_, same⟩ := permits
      cases same
  | call => exact absurd permits.2 id
  | wait => cases permits

/-- The rounds an operation permits are of its device. -/
theorem Operation.device_of_permits {deviceId : String} {round : Round} {operation : Operation}
    (permits : operation.Permits round)
    (elsewhere : operation.device ≠ some deviceId) : round.device ≠ some deviceId := by
  cases operation with
  | refresh id status | read id =>
      obtain ⟨_, rfl | rfl⟩ := permits <;> exact elsewhere
  | readLevel id | check id =>
      obtain ⟨_, rfl⟩ := permits
      exact elsewhere
  | call id =>
      rw [permits.1]
      exact elsewhere
  | wait =>
      obtain rfl := permits
      exact elsewhere

section Counters

variable {deviceId : String} {labels : List Operation} {device : ActiveDevice}

/-- The counters of a device, of the operations since its admission. -/
structure Counted (deviceId : String) (labels : List Operation) (device : ActiveDevice) : Prop where
  successes : device.sample.successCount = labels.countP (Operation.RefreshedAs deviceId true)
  sequence : device.sample.sequence = labels.countP (Operation.RefreshedAs deviceId true)
  failures : device.sample.failureCount = labels.countP (Operation.RefreshedAs deviceId false)
  sampled : device.sample.hasSample = true ↔ 0 < device.sample.successCount
  latest : device.sample.lastReadOk = (lastOutcome deviceId labels).getD false

/-- An operation which is no refresh of the device does not count. -/
theorem Counted.other {operation : Operation}
    (counted : Counted deviceId labels device)
    (other : ∀ status, operation ≠ .refresh deviceId status) :
    Counted deviceId (labels ++ [operation]) device := by
  have uncounted : ∀ ok, Operation.RefreshedAs deviceId ok operation = false := by
    intro ok
    cases operation with
    | refresh id status =>
        have different : id ≠ deviceId := fun same => other status (by rw [same])
        simp [Operation.RefreshedAs, different]
    | _ => rfl
  have unchanged : lastOutcome deviceId (labels ++ [operation]) = lastOutcome deviceId labels := by
    simp only [lastOutcome, List.foldl_append, List.foldl_cons, List.foldl_nil]
    cases operation with
    | refresh id status =>
        have different : id ≠ deviceId := fun same => other status (by rw [same])
        simp [different]
    | _ => rfl
  refine ⟨?_, ?_, ?_, counted.sampled, ?_⟩
  · simp [uncounted, counted.successes]
  · simp [uncounted, counted.sequence]
  · simp [uncounted, counted.failures]
  · rw [unchanged, counted.latest]

end Counters

section Refreshing

variable [EzoDriver]

/-- A world in which the devices have just been admitted. -/
structure Admitted (world : World) : Prop where
  formed : world.WellFormed
  named : ∀ {deviceId device}, world.state.find deviceId = some device → deviceId ≠ ""
  fresh : ∀ {deviceId device}, world.state.find deviceId = some device →
    ∃ info, device = activeDevice device.spec info

/-- A device as another one but for the slots its caches fill. -/
structure SampleKept (device device' : ActiveDevice) : Prop where
  spec : device'.spec = device.spec
  sample : { device'.sample with signals := [] } = { device.sample with signals := [] }
  length : device'.sample.signals.length = device.sample.signals.length
  slots : ∀ index, ¬ CachedSlot (adapterFor device.spec.type) index →
    device'.sample.signals[index]? = device.sample.signals[index]?

namespace SampleKept

variable {first second third : ActiveDevice}

theorem of_same (spec : second.spec = first.spec) (sample : second.sample = first.sample) :
    SampleKept first second := by
  constructor <;> simp [spec, sample]

theorem refl (device : ActiveDevice) : SampleKept device device := of_same rfl rfl

theorem trans (before : SampleKept first second) (after : SampleKept second third) :
    SampleKept first third where
  spec := after.spec.trans before.spec
  sample := after.sample.trans before.sample
  length := after.length.trans before.length
  slots index plain :=
    (after.slots index (by rwa [before.spec])).trans (before.slots index plain)

end SampleKept

/-- Filling the slot of the level keeps the others. -/
theorem sampleKept_applyCalibrationLevel (device : ActiveDevice) :
    SampleKept device (applyCalibrationLevel device) where
  spec := rfl
  sample := rfl
  length := by
    simp only [applyCalibrationLevel]
    split <;> simp
  slots index plain := getElem?_applyCalibrationLevel plain

theorem sampleKept_applyCompensation (device : ActiveDevice) :
    SampleKept device (applyCompensation device) where
  spec := rfl
  sample := rfl
  length := by simp only [applyCompensation, compensationSignals, length_fillCompensation]
  slots index plain := getElem?_applyCompensation plain

/-- Rounds other than a sample of a device keep its sample. -/
theorem Effect.sampleKept {deviceId : String} {device device' : ActiveDevice} {round : Round}
    (effect : Effect deviceId device round device')
    (other : ∀ status, round ≠ .sampled deviceId status) : SampleKept device device' := by
  cases effect with
  | sampled => exact absurd rfl (other _)
  | @levelRead status level =>
      rw [recordCalibrationLevel]
      refine SampleKept.trans ?_ (sampleKept_applyCalibrationLevel _)
      split <;> exact .of_same rfl rfl
  | @checked status reading reapplied =>
      rw [recordCompensation]
      refine SampleKept.trans ?_ (sampleKept_applyCompensation _)
      split <;> exact .of_same rfl rfl
  | @recorded functionName message ok now =>
      obtain ⟨_, _, _, same⟩ := recordCall_frame device functionName ok message now
      rw [same]
      exact .of_same rfl rfl
  | controlled | elsewhere => exact .refl _
  | remembered => exact .of_same rfl rfl

/-! ## What one refresh records -/

section Records

variable (config : ProviderConfig) (deviceId : String) {status : Status}
  (signals : List SignalSample) (now nowSteady : Int) (device : ActiveDevice)

/-- A refresh which fails leaves all but its failure. -/
theorem recordSample_failed (failed : status.isOk = false) :
    recordSample config deviceId status signals now nowSteady device =
      { device with
        sample := { device.sample with
          lastReadOk := false
          lastError := status.message
          failureCount := device.sample.failureCount + 1
          consecutiveLaggingGaps := 0 } } := by
  simp [recordSample, failed]

/-- A refresh which returned ok is counted, and leaves what its job has stored in the slots
no cache fills. -/
theorem recordSample_ok (ok : status.isOk = true) :
    let sample := (recordSample config deviceId status signals now nowSteady device).sample
    sample.successCount = device.sample.successCount + 1 ∧
      sample.sequence = device.sample.sequence + 1 ∧
      sample.failureCount = device.sample.failureCount ∧ sample.hasSample = true ∧
      sample.lastReadOk = true ∧ sample.signals.length = signals.length ∧
      ∀ index, ¬ CachedSlot (adapterFor device.spec.type) index →
        sample.signals[index]? = signals[index]? := by
  let noted := { device with
    sample := { (noteCadence config deviceId nowSteady device.sample).1 with signals } }
  have filled : SampleKept noted (applyCompensation (applyCalibrationLevel noted)) :=
    (sampleKept_applyCalibrationLevel noted).trans (sampleKept_applyCompensation _)
  have counts : noted.sample.successCount = device.sample.successCount ∧
      noted.sample.sequence = device.sample.sequence ∧
      noted.sample.failureCount = device.sample.failureCount := by
    simp only [noted, noteCadence]
    split
    · split
      · split <;> exact ⟨rfl, rfl, rfl⟩
      · exact ⟨rfl, rfl, rfl⟩
    · exact ⟨rfl, rfl, rfl⟩
  obtain ⟨successes, sequence, failures⟩ := counts
  simp only [recordSample, if_pos ok]
  exact ⟨congrArg (· + 1) successes, congrArg (· + 1) sequence, failures, trivial,
    trivial, filled.length, filled.slots⟩

end Records

section Counts

variable {deviceId : String} {labels : List Operation} {device : ActiveDevice}

theorem counted_activeDevice (deviceId : String) (spec : DeviceSpec) (info : DeviceInfo) :
    Counted deviceId [] (activeDevice spec info) := by
  constructor <;> simp [activeDevice, lastOutcome]

/-- The counters look at the sample only. -/
theorem Counted.kept {device' : ActiveDevice}
    (counted : Counted deviceId labels device) (kept : SampleKept device device') :
    Counted deviceId labels device' where
  successes := (congrArg (·.successCount) kept.sample).trans counted.successes
  sequence := (congrArg (·.sequence) kept.sample).trans counted.sequence
  failures := (congrArg (·.failureCount) kept.sample).trans counted.failures
  sampled := by
    have sampled := congrArg (·.hasSample) kept.sample
    have successes := congrArg (·.successCount) kept.sample
    dsimp only at sampled successes
    rw [sampled, successes]
    exact counted.sampled
  latest := (congrArg (·.lastReadOk) kept.sample).trans counted.latest

theorem Counted.refreshed (counted : Counted deviceId labels device) (config : ProviderConfig)
    (status : Status) (signals : List SignalSample) (now nowSteady : Int) :
    Counted deviceId (labels ++ [.refresh deviceId status])
      (recordSample config deviceId status signals now nowSteady device) := by
  have latest : lastOutcome deviceId (labels ++ [.refresh deviceId status]) = some status.isOk := by
    simp [lastOutcome]
  cases ok : status.isOk with
  | true =>
      obtain ⟨successes, sequence, failures, sampled, read, _⟩ :=
        recordSample_ok config deviceId signals now nowSteady device ok
      refine ⟨?_, ?_, ?_, ?_, ?_⟩
      · simp [successes, counted.successes, Operation.RefreshedAs, ok]
      · simp [sequence, counted.sequence, Operation.RefreshedAs, ok]
      · simp [failures, counted.failures, Operation.RefreshedAs, ok]
      · simp [sampled, successes]
      · simp [read, latest, ok]
  | false =>
      rw [recordSample_failed config deviceId signals now nowSteady device ok]
      refine ⟨?_, ?_, ?_, counted.sampled, ?_⟩
      · simp [counted.successes, Operation.RefreshedAs, ok]
      · simp [counted.sequence, Operation.RefreshedAs, ok]
      · simp [counted.failures, Operation.RefreshedAs, ok]
      · simp [latest, ok]

end Counts

/-! ## What one operation does -/

section Steps

variable [DecimalText] {world world' : World} {deviceId : String} {device : ActiveDevice}

/-- Rounds without a sample of a device keep its sample. -/
theorem Through.sampleKept {submits : Submits} {allowed : Round → Prop}
    (through : Through submits allowed world world')
    (without : ∀ round, allowed round → ∀ status, round ≠ .sampled deviceId status)
    (found : world.state.find deviceId = some device) :
    ∃ device', world'.state.find deviceId = some device' ∧ SampleKept device device' := by
  let kept : World → Prop := fun later =>
    ∃ device', later.state.find deviceId = some device' ∧ SampleKept device device'
  refine @Through.maintains _ _ _ _ _ _ kept ?_ through ⟨device, found, .refl _⟩
  rintro before round after permitted ⟨middle, foundMiddle, first⟩ step
  obtain ⟨last, foundLast, effect⟩ := step.effect foundMiddle
  exact ⟨last, foundLast, first.trans (effect.sampleKept (without round permitted))⟩

/-- Rounds of other devices leave a device as it is. -/
theorem Through.untouched {submits : Submits} {allowed : Round → Prop}
    (through : Through submits allowed world world')
    (elsewhere : ∀ round, allowed round → round.device ≠ some deviceId)
    (found : world.state.find deviceId = some device) :
    world'.state.find deviceId = some device := by
  let same : World → Prop := fun later => later.state.find deviceId = some device
  refine @Through.maintains _ _ _ _ _ _ same ?_ through found
  intro before round after permitted foundBefore step
  obtain ⟨last, foundLast, effect⟩ := step.effect foundBefore
  cases effect with
  | elsewhere => exact foundLast
  | _ => exact absurd rfl (elsewhere _ permitted)

/-- The sample job of a refresh, as it ran on the bus. -/
structure SampleJobRun (world : World) (spec : DeviceSpec) (status : Status) (trace : JobTrace) :
    Prop where
  run : (sampleJob spec).Runs trace status
  path : ∃ cleared ended, world.line.Cleared cleared ∧ Bus.environment.Path cleared trace ended

/-- A refresh of a device which is there. -/
theorem RefreshRun.recorded {status : Status}
    (run : RefreshRun Line.Submitted deviceId world status world') (named : deviceId ≠ "")
    (found : world.state.find deviceId = some device) :
    ∃ signals now nowSteady device', world'.state.find deviceId = some device' ∧
      SampleKept (recordSample world.state.config deviceId status signals now nowSteady device)
        device' ∧
      (status.isOk = false →
        device' = recordSample world.state.config deviceId status signals now nowSteady device) ∧
      (status.isOk = true → ∃ trace, SampleJobRun world device.spec status trace ∧
        signals = (outputsOf trace).signals) := by
  have sampled : ∀ {status : Status} {next : World},
      RoundStep Line.Submitted world (.sampled deviceId status) next →
      ∃ signals now nowSteady, next.state.find deviceId =
          some (recordSample world.state.config deviceId status signals now nowSteady device) ∧
        (status.isOk = true → ∃ trace, SampleJobRun world device.spec status trace ∧
          signals = (outputsOf trace).signals) := by
    intro status next step
    cases step with
    | @sampled _ _ reply line now nowSteady foundOther submitted later =>
        cases foundOther.symm.trans found
        refine ⟨reply.outputs.signals, now, nowSteady, ?_, fun ok => ?_⟩
        · dsimp only
          rw [RuntimeState.find_update_self (by simp), found, Option.map_some]
        · obtain ⟨trace, cleared, ended, clear, job, outputs, path, _⟩ :=
            Line.finished_of_submitted submitted ok
          exact ⟨trace, ⟨job, cleared, ended, clear, path⟩, by rw [outputs]⟩
  cases run with
  | unnamed empty => exact absurd empty named
  | unknown missing => cases missing.symm.trans found
  | sampled step _ _ =>
      obtain ⟨signals, now, nowSteady, recorded, job⟩ := sampled step
      exact ⟨signals, now, nowSteady, _, recorded, .refl _, fun _ => rfl, job⟩
  | sampledDue step foundThen due checked =>
      obtain ⟨signals, now, nowSteady, recorded, job⟩ := sampled step
      have through : Through Line.Submitted (fun round => ∃ status, round = .checked deviceId status)
          _ world' := checked.through fun status => ⟨status, rfl⟩
      obtain ⟨device', after, kept⟩ := @Through.sampleKept _ _ _ _ deviceId _ _ _ through
        (by rintro _ ⟨_, rfl⟩ _ ⟨⟩) recorded
      refine ⟨signals, now, nowSteady, device', after, kept, fun failed => ?_, job⟩
      simp [compensationDue, failed] at due

variable [ProviderSdk] {labels : List Operation} {operation : Operation}

/-- The provider from the admission of its devices on. A read of the provider is a refresh
or nothing, as far as it changes anything. -/
def refreshing : TransitionSystem World Operation where
  Initial := Admitted
  Step world operation world' :=
    ProviderStep Line.Submitted world operation world' ∧ operation.IsRead = false

/-- An operation which is no refresh of a device keeps its sample. -/
theorem sampleKept_of_other (step : refreshing.Step world operation world')
    (other : ∀ status, operation ≠ .refresh deviceId status)
    (found : world.state.find deviceId = some device) :
    ∃ device', world'.state.find deviceId = some device' ∧ SampleKept device device' := by
  refine (ProviderStep.through step.1).sampleKept ?_ found
  rintro _ permits status rfl
  obtain ⟨status, rfl⟩ := Operation.refreshes_of_permits step.2 permits
  exact other status rfl

theorem refreshRun_of_step {status : Status}
    (step : ProviderStep Line.Submitted world (.refresh deviceId status) world') :
    RefreshRun Line.Submitted deviceId world status world' := by
  cases step with
  | refresh completes => exact refreshRun_of_completes completes

theorem counted_of_step (named : deviceId ≠ "")
    (found : world.state.find deviceId = some device) (counted : Counted deviceId labels device)
    (step : refreshing.Step world operation world') :
    ∃ device', world'.state.find deviceId = some device' ∧
      Counted deviceId (labels ++ [operation]) device' := by
  by_cases refreshes : ∃ status, operation = .refresh deviceId status
  · obtain ⟨status, rfl⟩ := refreshes
    obtain ⟨signals, now, nowSteady, device', foundThen, kept, _⟩ :=
      (refreshRun_of_step step.1).recorded named found
    exact ⟨device', foundThen, (counted.refreshed _ status signals now nowSteady).kept kept⟩
  · have other : ∀ status, operation ≠ .refresh deviceId status := fun status same =>
      refreshes ⟨status, same⟩
    obtain ⟨device', foundThen, kept⟩ := sampleKept_of_other step other found
    exact ⟨device', foundThen, (counted.other other).kept kept⟩

/-! ## Runs from the admission on -/

theorem formed_of_steps {start : World} (formed : start.WellFormed)
    (run : refreshing.Steps start labels world) : world.WellFormed := by
  induction run with
  | refl => exact formed
  | step _ transition ih => exact (ProviderStep.through transition.1).wellFormed ih

theorem counted_of_steps {start : World} (admitted : Admitted start)
    (run : refreshing.Steps start labels world) (found : world.state.find deviceId = some device) :
    deviceId ≠ "" ∧ Counted deviceId labels device := by
  induction run generalizing device with
  | refl =>
      obtain ⟨info, same⟩ := admitted.fresh found
      rw [same]
      exact ⟨admitted.named found, counted_activeDevice _ _ _⟩
  | @step labels middle operation next prior transition ih =>
      obtain ⟨before, foundBefore, _⟩ := (ProviderStep.through transition.1).foundBefore
        (formed_of_steps admitted.formed prior) found
      obtain ⟨named, counted⟩ := ih foundBefore
      obtain ⟨after, foundAfter, countedAfter⟩ :=
        counted_of_step named foundBefore counted transition
      cases foundAfter.symm.trans found
      exact ⟨named, countedAfter⟩

/-- Operations elsewhere leave a device as it is. -/
theorem found_of_elsewhere {after : World} (run : refreshing.Steps world labels after)
    (elsewhere : ∀ operation ∈ labels, operation.device ≠ some deviceId)
    (found : world.state.find deviceId = some device) :
    after.state.find deviceId = some device := by
  induction run with
  | refl => exact found
  | @step labels middle operation next prior transition ih =>
      have before := ih fun operation member => elsewhere operation (List.mem_append_left _ member)
      refine (ProviderStep.through transition.1).untouched ?_ before
      intro round permits
      exact Operation.device_of_permits permits (elsewhere operation (by simp))

/-- The slots no cache fills, as a job has stored them, until a refresh returns ok again. -/
theorem slots_of_steps {after : World} {type : EzoDeviceType} {signals : List SignalSample}
    (named : deviceId ≠ "") (run : refreshing.Steps world labels after)
    (without : labels.countP (Operation.RefreshedAs deviceId true) = 0)
    (found : world.state.find deviceId = some device) (typed : device.spec.type = type)
    (length : device.sample.signals.length = signals.length)
    (slots : ∀ index, ¬ CachedSlot (adapterFor type) index →
      device.sample.signals[index]? = signals[index]?) :
    ∃ device', after.state.find deviceId = some device' ∧ device'.spec.type = type ∧
      device'.sample.signals.length = signals.length ∧
      ∀ index, ¬ CachedSlot (adapterFor type) index →
        device'.sample.signals[index]? = signals[index]? := by
  induction run with
  | refl => exact ⟨device, found, typed, length, slots⟩
  | @step labels middle operation next prior transition ih =>
      rw [List.countP_append, Nat.add_eq_zero_iff] at without
      obtain ⟨before, foundBefore, typedBefore, lengthBefore, slotsBefore⟩ := ih without.1
      by_cases refreshes : ∃ status, operation = .refresh deviceId status
      · obtain ⟨status, rfl⟩ := refreshes
        have failed : status.isOk = false := by
          simpa [Operation.RefreshedAs] using without.2
        obtain ⟨read, now, nowSteady, last, foundLast, _, same, _⟩ :=
          (refreshRun_of_step transition.1).recorded named foundBefore
        refine ⟨last, foundLast, ?_⟩
        rw [same failed, recordSample_failed _ _ _ _ _ _ failed]
        exact ⟨typedBefore, lengthBefore, slotsBefore⟩
      · have other : ∀ status, operation ≠ .refresh deviceId status := fun status same =>
          refreshes ⟨status, same⟩
        obtain ⟨last, foundLast, kept⟩ := sampleKept_of_other transition other foundBefore
        refine ⟨last, foundLast, by rw [kept.spec, typedBefore], kept.length.trans lengthBefore,
          fun index plain => ?_⟩
        exact (kept.slots index (by rwa [typedBefore])).trans (slotsBefore index plain)

/-- From the admission of the devices on, over successes, failures, timeouts and jobs which
outlive their callers: the counters count the refreshes, the latest outcome is recorded, a
refresh which fails leaves the record of its device but for that, and the slots hold what the
job of the last refresh which returned ok has stored. -/
theorem refreshes_recorded {start : World} (admitted : Admitted start)
    (run : refreshing.Steps start labels world) (found : world.state.find deviceId = some device) :
    device.sample.successCount = labels.countP (Operation.RefreshedAs deviceId true) ∧
      device.sample.sequence = labels.countP (Operation.RefreshedAs deviceId true) ∧
      device.sample.failureCount = labels.countP (Operation.RefreshedAs deviceId false) ∧
      (device.sample.hasSample = true ↔ 0 < device.sample.successCount) ∧
      device.sample.lastReadOk = (lastOutcome deviceId labels).getD false ∧
      (∀ status failed, ProviderStep Line.Submitted world (.refresh deviceId status) failed →
        status.isOk = false → ∀ later after, refreshing.Steps failed later after →
          (∀ operation ∈ later, operation.device ≠ some deviceId) →
            after.state.find deviceId = some { device with
              sample := { device.sample with
                lastReadOk := false
                lastError := status.message
                failureCount := device.sample.failureCount + 1
                consecutiveLaggingGaps := 0 } }) ∧
      (∀ status read, ProviderStep Line.Submitted world (.refresh deviceId status) read →
        status.isOk = true → ∃ trace, SampleJobRun world device.spec status trace ∧
          ∀ later after, refreshing.Steps read later after →
            later.countP (Operation.RefreshedAs deviceId true) = 0 →
              ∃ device', after.state.find deviceId = some device' ∧
                device'.sample.signals.length = (outputsOf trace).signals.length ∧
                ∀ index, ¬ CachedSlot (adapterFor device.spec.type) index →
                  device'.sample.signals[index]? = (outputsOf trace).signals[index]?) := by
  obtain ⟨named, counted⟩ := counted_of_steps admitted run found
  refine ⟨counted.successes, counted.sequence, counted.failures, counted.sampled, counted.latest,
    ?_, ?_⟩
  · intro status failed step not later after rest elsewhere
    obtain ⟨signals, now, nowSteady, device', foundThen, _, same, _⟩ :=
      (refreshRun_of_step step).recorded named found
    rw [same not, recordSample_failed _ _ _ _ _ _ not] at foundThen
    exact found_of_elsewhere rest elsewhere foundThen
  · intro status read step ok
    obtain ⟨signals, now, nowSteady, device', foundThen, kept, _, job⟩ :=
      (refreshRun_of_step step).recorded named found
    obtain ⟨trace, ran, rfl⟩ := job ok
    refine ⟨trace, ran, fun later after rest without => ?_⟩
    obtain ⟨_, _, _, _, _, length, slots⟩ := recordSample_ok world.state.config deviceId
      (outputsOf trace).signals now nowSteady device ok
    have spec : (recordSample world.state.config deviceId status (outputsOf trace).signals now
        nowSteady device).spec.type = device.spec.type := by rw [spec_recordSample]
    obtain ⟨last, foundLast, _, lengthLast, slotsLast⟩ :=
      slots_of_steps named rest without foundThen (kept.spec.trans (by rw [spec_recordSample]) ▸ rfl)
        (kept.length.trans length)
        fun index plain => (kept.slots index (by rwa [spec])).trans (slots index plain)
    exact ⟨last, foundLast, lengthLast, slotsLast⟩

/-! ## Where such runs are -/

theorem steps_of_startupReads
    (completes : Completes (World.environment Line.Submitted) (startupReads deviceId) world ()
      world') : ∃ labels, refreshing.Steps world labels world' := by
  obtain ⟨refreshed, level, check, sampled, leveled, refresh, levelRead, checked⟩ :=
    completes_of_startupReads completes
  have first : refreshing.Steps world [.refresh deviceId refreshed] sampled :=
    .single ⟨.refresh refresh, rfl⟩
  have second : refreshing.Steps sampled [.readLevel deviceId level] leveled :=
    .single ⟨.readLevel levelRead, rfl⟩
  have third : refreshing.Steps leveled [.check deviceId check] world' :=
    .single ⟨.check checked, rfl⟩
  exact ⟨_, (first.trans second).trans third⟩

theorem steps_of_startupReadsOf {deviceIds : List String}
    (completes : Completes (World.environment Line.Submitted) (startupReadsOf deviceIds) world ()
      world') : ∃ labels, refreshing.Steps world labels world' := by
  induction deviceIds generalizing world with
  | nil =>
      obtain ⟨_, rfl⟩ := completes_done_iff.mp completes
      exact ⟨[], .refl⟩
  | cons first rest ih =>
      obtain ⟨_, _, reads, later⟩ := completes_bind_iff.mp completes
      obtain ⟨before, here⟩ := steps_of_startupReads reads
      obtain ⟨after, there⟩ := ih later
      exact ⟨_, here.trans there⟩

/-- An operation of the provider is one of such a run, or changes nothing. -/
theorem steps_of_step (step : ProviderStep Line.Submitted world operation world') :
    ∃ labels, refreshing.Steps world labels world' := by
  cases unread : operation.IsRead with
  | false => exact ⟨_, .single ⟨step, unread⟩⟩
  | true =>
      cases step with
      | read completes =>
          rcases completes_of_read completes with rfl | ⟨status, refreshed⟩
          · exact ⟨[], .refl⟩
          · exact ⟨_, .single ⟨.refresh refreshed, rfl⟩⟩
      | _ => cases unread

/-- Every world the provider reaches with an active device is in such a run. -/
theorem refreshing_of_reachable (reachable : (provider Line.Submitted).Reachable world) :
    world.state.activeDevices = [] ∨ refreshing.Reachable world := by
  let covered : World → Prop := fun world =>
    world.state.activeDevices = [] ∨ refreshing.Reachable world
  refine @Reachable.holds _ _ (provider Line.Submitted) covered ?_ ?_ world reachable
  · rintro start ⟨config, valid, bus, completes⟩
    rcases published_of_initialize completes with none | ⟨probes, first, covered, published, reads⟩
    · exact .inl none
    · right
      obtain ⟨formed, _⟩ := wellFormed_of_published valid covered published
      have fresh : ∀ {deviceId device}, first.state.find deviceId = some device →
          deviceId ≠ "" ∧ ∃ info, device = activeDevice device.spec info := by
        intro deviceId device found
        have member := RuntimeState.mem_of_find found
        rw [published] at member
        obtain ⟨probe, accepted, rfl⟩ := List.mem_map.mp member
        refine ⟨?_, _, rfl⟩
        rw [← RuntimeState.find_id found]
        apply valid.named
        rw [← covered]
        exact List.mem_map_of_mem (List.mem_of_mem_filter accepted)
      have admitted : Admitted first := ⟨formed, fun found => (fresh found).1,
        fun found => (fresh found).2⟩
      obtain ⟨labels, run⟩ := steps_of_startupReadsOf reads
      exact Reachable.steps (.initial admitted) run
  · rintro before operation after (none | reachable) step
    · left
      have specs := (ProviderStep.through step).specs
      rw [none] at specs
      exact List.map_eq_nil_iff.mp specs
    · right
      obtain ⟨labels, run⟩ := steps_of_step step
      exact Reachable.steps reachable run

end Steps

end Refreshing

section Canned

open CannedBus CannedProvider

/-- One DO probe, just admitted. -/
def admittedProbe : World where
  state :=
    { config := oneDevice .dox
      activeDevices := [activeDevice { id := "probe", type := .dox, address := 97 } {}] }
  line := { running := true, bus := fun _ => { holding := defaults, powerUp := defaults } }

theorem admitted_admittedProbe : Admitted admittedProbe := by
  have only : ∀ {deviceId device}, admittedProbe.state.find deviceId = some device →
      device = activeDevice { id := "probe", type := .dox, address := 97 } {} := by
    intro deviceId device found
    exact List.mem_singleton.mp (RuntimeState.mem_of_find found)
  refine ⟨⟨⟨by simp [admittedProbe], by simp [admittedProbe]⟩, fun found => ?_⟩, fun found => ?_,
    fun found => ?_⟩
  · rw [only found]
    exact fun _ => rfl
  · rw [← RuntimeState.find_id found, only found]
    simp [activeDevice]
  · rw [only found]
    exact ⟨_, rfl⟩

/-- A refresh which returns ok, and one which times out. -/
theorem refreshes_recorded_canned :
    let setup := products .dox fun _ => false
    let read := play setup (refreshDeviceSample "probe") admittedProbe
    let late := playLate setup (refreshDeviceSample "probe") read.final
    read.value.isOk = true ∧ late.value.isOk = false ∧
      ∃ device, late.final.state.find "probe" = some device ∧ device.sample.successCount = 1 ∧
        device.sample.failureCount = 1 ∧ device.sample.lastReadOk = false := by
  have counted : ∀ {read late : World} {first second : Status} {device : ActiveDevice},
      ProviderStep Line.Submitted admittedProbe (.refresh "probe" first) read →
      ProviderStep Line.Submitted read (.refresh "probe" second) late → first.isOk = true →
      second.isOk = false → late.state.find "probe" = some device →
        device.sample.successCount = 1 ∧ device.sample.failureCount = 1 ∧
          device.sample.lastReadOk = false := by
    intro read late first second device before after ok failed found
    obtain ⟨successes, _, failures, _, latest, _⟩ := refreshes_recorded admitted_admittedProbe
      (.step (.single ⟨before, rfl⟩) ⟨after, rfl⟩) found
    refine ⟨?_, ?_, ?_⟩
    · simpa [Operation.RefreshedAs, ok, failed] using successes
    · simpa [Operation.RefreshedAs, ok, failed] using failures
    · simpa [lastOutcome, failed] using latest
  intro setup read late
  have first : ProviderStep Line.Submitted admittedProbe (.refresh "probe" read.value)
      read.final := .refresh (completes_play setup _ _)
  have second : ProviderStep Line.Submitted read.final (.refresh "probe" late.value)
      late.final := .refresh (completes_playLate (by decide +kernel))
  have ok : read.value.isOk = true := by decide +kernel
  have failed : late.value.isOk = false := by decide +kernel
  obtain ⟨device, found⟩ := Option.isSome_iff_exists.mp
    (show (late.final.state.find "probe").isSome = true by decide +kernel)
  exact ⟨ok, failed, device, found, counted first second ok failed found⟩

end Canned

end EzoProvider.Runtime
