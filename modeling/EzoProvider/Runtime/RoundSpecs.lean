import EzoProvider.Runtime.LevelSpecs
import EzoProvider.Runtime.Rounds
import EzoProvider.Runtime.Slots

/-!
# What a round leaves

Two views of a round, of one device: its `Effect` on the record of the device,
and the commands it can send the probe. Ids and addresses tell devices apart, so
a round of one device leaves the others alone in both.
-/

namespace EzoProvider.Runtime

open Interaction Program Devices Environment

/-- The device a round is of. -/
def Round.device : Round → Option String
  | sampled deviceId _ | levelRead deviceId _ | checked deviceId _ | controlled deviceId ..
  | remembered deviceId _ | recorded deviceId .. => some deviceId
  | passed => none

/-- The commands a round can send a device of a family. -/
def Round.Sends (deviceId : String) (type : EzoDeviceType) : Round → Command → Prop
  | sampled id _, command | levelRead id _, command =>
      id = deviceId ∧ Command.Asks command
  | checked id _, command => id = deviceId ∧ command.calibrates = false
  | controlled id functionId _ _, command =>
      id = deviceId ∧ ControlCommands functionId type command
  | remembered .., _ | recorded .., _ | passed, _ => False

/-! ## Devices -/

/-- The devices have different ids, and different addresses. -/
structure RuntimeState.Apart (state : RuntimeState) : Prop where
  ids : ((state.activeDevices.map ActiveDevice.spec).map DeviceSpec.id).Nodup
  addresses : ((state.activeDevices.map ActiveDevice.spec).map DeviceSpec.address).Nodup

theorem RuntimeState.Apart.same_id {state : RuntimeState} (apart : state.Apart)
    {first second : String} {device other : ActiveDevice} (found : state.find first = some device)
    (foundOther : state.find second = some other)
    (same : device.spec.address = other.spec.address) : first = second := by
  have specs : device.spec = other.spec :=
    List.inj_on_of_nodup_map apart.addresses
      (List.mem_map_of_mem (RuntimeState.mem_of_find found))
      (List.mem_map_of_mem (RuntimeState.mem_of_find foundOther)) same
  rw [← RuntimeState.find_id found, ← RuntimeState.find_id foundOther, specs]

/-- A device is found by its own id. -/
theorem RuntimeState.Apart.find_of_mem {state : RuntimeState} (apart : state.Apart)
    {device : ActiveDevice} (member : device ∈ state.activeDevices) :
    state.find device.spec.id = some device := by
  cases found : state.find device.spec.id with
  | none =>
      have missing := List.find?_eq_none.mp found device member
      simp at missing
  | some other =>
      have nodup : (state.activeDevices.map fun device => device.spec.id).Nodup := by
        simpa [Function.comp_def] using apart.ids
      rw [List.inj_on_of_nodup_map nodup (RuntimeState.mem_of_find found) member
        (RuntimeState.find_id found)]

/-- A device of two states with the same specifications is found in both. -/
theorem RuntimeState.Apart.found_of_specs {state state' : RuntimeState} (apart : state.Apart)
    (specs : state'.activeDevices.map ActiveDevice.spec = state.activeDevices.map ActiveDevice.spec)
    {deviceId : String} {device : ActiveDevice} (found : state'.find deviceId = some device) :
    ∃ device', state.find deviceId = some device' ∧ device'.spec = device.spec := by
  have member := List.mem_map_of_mem (f := ActiveDevice.spec) (RuntimeState.mem_of_find found)
  rw [specs] at member
  obtain ⟨other, listed, same⟩ := List.mem_map.mp member
  refine ⟨other, ?_, same⟩
  rw [← RuntimeState.find_id found, ← same]
  exact apart.find_of_mem listed

variable [EzoDriver]

/-- What a round does to the record of a device. -/
inductive Effect (deviceId : String) (device : ActiveDevice) : Round → ActiveDevice → Prop where
  | sampled {config : ProviderConfig} {status : Status} {signals : List SignalSample}
      {now nowSteady : Int} :
      Effect deviceId device (.sampled deviceId status)
        (recordSample config deviceId status signals now nowSteady device)
  | levelRead {status : Status} {level : ℚ} :
      Effect deviceId device (.levelRead deviceId status)
        (recordCalibrationLevel status level device)
  | checked {status : Status} {reading : CompensationReading} {reapplied : Bool} :
      Effect deviceId device (.checked deviceId status)
        (recordCompensation status reading reapplied device)
  | controlled {functionId : Nat} {args : ControlArgs} {status : Status} :
      Effect deviceId device (.controlled deviceId functionId args status) device
  | remembered {values : Compensation} (takes : Takes device.spec.type values) :
      Effect deviceId device (.remembered deviceId values) (rememberValues values device)
  | recorded {functionName message : String} {ok : Bool} {now : Int} :
      Effect deviceId device (.recorded deviceId functionName ok message)
        (recordCall functionName ok message now device)
  | elsewhere {round : Round} (other : round.device ≠ some deviceId) :
      Effect deviceId device round device

theorem Effect.levelShown {deviceId : String} {device device' : ActiveDevice} {round : Round}
    (effect : Effect deviceId device round device') (shown : LevelShown device) :
    LevelShown device' := by
  cases effect with
  | sampled => exact levelShown_recordSample shown _ _ _ _ _ _
  | levelRead => exact levelShown_recordCalibrationLevel _ _
  | checked => exact levelShown_recordCompensation shown _ _ _
  | recorded => exact levelShown_recordCall shown _ _ _ _
  | controlled | remembered | elsewhere => exact shown

theorem Effect.compensationShown {deviceId : String} {device device' : ActiveDevice}
    {round : Round} (effect : Effect deviceId device round device')
    (shown : CompensationShown device) : CompensationShown device' := by
  cases effect with
  | sampled => exact compensationShown_recordSample shown _ _ _ _ _ _
  | levelRead => exact compensationShown_recordCalibrationLevel shown _ _
  | checked => exact compensationShown_recordCompensation _ _ _
  | recorded => exact compensationShown_recordCall shown _ _ _ _
  | controlled | remembered | elsewhere => exact shown

/-- What a round keeps of a record: each part is changed by one kind of round only. -/
structure Kept (deviceId : String) (round : Round) (device device' : ActiveDevice) : Prop where
  spec : device'.spec = device.spec
  level : (∀ status, round ≠ .levelRead deviceId status) →
    device'.calibrationLevel = device.calibrationLevel
  set : (∀ values, round ≠ .remembered deviceId values) →
    device'.compensationSet = device.compensationSet
  read : (∀ status, round ≠ .checked deviceId status) →
    device'.compensationRead = device.compensationRead ∧
      device'.compensationError = device.compensationError
  reapplied : (∀ status, round ≠ .checked deviceId status) →
    device'.compensationReappliedCount = device.compensationReappliedCount
  count : (∀ status, round ≠ .sampled deviceId status) →
    device'.sample.successCount = device.sample.successCount

theorem Effect.kept {deviceId : String} {device device' : ActiveDevice} {round : Round}
    (effect : Effect deviceId device round device') : Kept deviceId round device device' := by
  cases effect with
  | @sampled config status signals now nowSteady =>
      obtain ⟨_, same, _⟩ := recordSample_frame device config deviceId status signals now nowSteady
      rw [same]
      exact ⟨rfl, fun _ => rfl, fun _ => rfl, fun _ => ⟨rfl, rfl⟩, fun _ => rfl,
        fun other => absurd rfl (other status)⟩
  | @levelRead status level =>
      obtain ⟨_, _, same⟩ := recordCalibrationLevel_frame device status level
      rw [same]
      exact ⟨rfl, fun other => absurd rfl (other status), fun _ => rfl, fun _ => ⟨rfl, rfl⟩,
        fun _ => rfl, fun _ => rfl⟩
  | @checked status reading reapplied =>
      obtain ⟨_, _, same⟩ := recordCompensation_frame device status reading reapplied
      rw [same]
      exact ⟨rfl, fun _ => rfl, fun _ => rfl, fun other => absurd rfl (other status),
        fun other => absurd rfl (other status), fun _ => rfl⟩
  | @recorded functionName message ok now =>
      obtain ⟨_, _, _, same⟩ := recordCall_frame device functionName ok message now
      rw [same]
      exact ⟨rfl, fun _ => rfl, fun _ => rfl, fun _ => ⟨rfl, rfl⟩, fun _ => rfl, fun _ => rfl⟩
  | controlled | elsewhere =>
      exact ⟨rfl, fun _ => rfl, fun _ => rfl, fun _ => ⟨rfl, rfl⟩, fun _ => rfl, fun _ => rfl⟩
  | @remembered values taken =>
      exact ⟨rfl, fun _ => rfl, fun other => absurd rfl (other values), fun _ => ⟨rfl, rfl⟩,
        fun _ => rfl, fun _ => rfl⟩

/-- The values set stay values the family takes. -/
theorem Effect.takes {deviceId : String} {device device' : ActiveDevice} {round : Round}
    (effect : Effect deviceId device round device')
    (takes : Takes device.spec.type device.compensationSet) :
    Takes device'.spec.type device'.compensationSet := by
  by_cases remembers : ∃ values, round = .remembered deviceId values
  · obtain ⟨values, rfl⟩ := remembers
    cases effect with
    | elsewhere other => exact takes
    | remembered taken =>
        intro ph
        have before := takes ph
        have added := taken ph
        rw [Compensation.mk.injEq] at before added
        simp [rememberValues, before.2.1, before.2.2, added.2.1, added.2.2]
  · rw [not_exists] at remembers
    rw [effect.kept.set remembers, effect.kept.spec]
    exact takes

section Steps

variable [DecimalText] {submits : Submits} {world world' : World} {round : Round}
  {deviceId : String} {device : ActiveDevice}

theorem RoundStep.effect (step : RoundStep submits world round world')
    (found : world.state.find deviceId = some device) :
    ∃ device', world'.state.find deviceId = some device' ∧
      Effect deviceId device round device' := by
  have change : ∀ {round : Round} {of : String} {change : ActiveDevice → ActiveDevice},
      (∀ device, (change device).spec = device.spec) → round.device = some of →
      (of = deviceId → Effect deviceId device round (change device)) →
      ∃ device', (world.state.update of change).find deviceId = some device' ∧
        Effect deviceId device round device' := by
    intro round of change kept of' here
    by_cases same : of = deviceId
    · subst same
      exact ⟨_, by rw [RuntimeState.find_update_self kept, found, Option.map_some], here rfl⟩
    · refine ⟨device, ?_, .elsewhere (by rw [of']; simpa using same)⟩
      rw [RuntimeState.find_update_other kept (Ne.symm same), found]
  cases step with
  | sampled =>
      refine change (by simp) rfl ?_
      rintro rfl
      exact .sampled
  | levelRead =>
      refine change (by simp) rfl ?_
      rintro rfl
      exact .levelRead
  | checked =>
      refine change (by simp) rfl ?_
      rintro rfl
      exact .checked
  | @controlled of =>
      refine ⟨device, found, ?_⟩
      by_cases same : of = deviceId
      · subst same
        exact .controlled
      · exact .elsewhere (by simpa [Round.device] using same)
  | remembered taken =>
      refine change (by simp) rfl ?_
      rintro rfl
      exact .remembered (taken device found)
  | recorded =>
      refine change (by simp) rfl ?_
      rintro rfl
      exact .recorded
  | passed => exact ⟨device, found, .elsewhere (by simp [Round.device])⟩

/-- No round adds, drops or respecifies a device. -/
theorem RoundStep.specs (step : RoundStep submits world round world') :
    world'.state.activeDevices.map ActiveDevice.spec =
      world.state.activeDevices.map ActiveDevice.spec := by
  cases step with
  | controlled | passed => rfl
  | sampled | levelRead | checked | remembered | recorded =>
      exact RuntimeState.specs_update (by simp)

theorem RoundStep.apart (step : RoundStep submits world round world')
    (apart : world.state.Apart) : world'.state.Apart :=
  ⟨by rw [step.specs]; exact apart.ids, by rw [step.specs]; exact apart.addresses⟩

/-- A device found after a round was found before it. -/
theorem RoundStep.found (step : RoundStep submits world round world') {device' : ActiveDevice}
    (apart : world.state.Apart) (found : world'.state.find deviceId = some device') :
    ∃ device, world.state.find deviceId = some device ∧ device.spec = device'.spec :=
  apart.found_of_specs step.specs found

/-! ## The line -/

/-- A round sends a probe the commands `Sends` allows, and nothing else goes on. -/
theorem RoundStep.went (step : RoundStep Line.Submitted world round world')
    (apart : world.state.Apart) (found : world.state.find deviceId = some device)
    {kept : Command → Prop}
    (spares : ∀ command, round.Sends deviceId device.spec.type command → kept command)
    (only : world.line.Only (JobOp.Spares device.spec.address kept)) :
    Line.Went (JobOp.Spares device.spec.address kept) world.line world'.line ∧
      world'.line.Only (JobOp.Spares device.spec.address kept) := by
  have job : ∀ {of : String} {other : ActiveDevice} {commands : Command → Prop} {job : Job},
      world.state.find of = some other → job.Only (JobOp.Serves other.spec.address commands) →
      (of = deviceId → ∀ command, commands command → kept command) →
      job.Only (JobOp.Spares device.spec.address kept) := by
    intro of other commands job foundOther serves implies
    refine serves.mono fun op serving => serving.spares fun same => ?_
    exact implies (apart.same_id foundOther found same)
  cases step with
  | sampled foundOther submitted =>
      refine submitted.went only (job foundOther (only_sampleJob _) fun same command asks => ?_)
      exact spares command ⟨same, asks⟩
  | levelRead foundOther adapted submitted =>
      refine submitted.went only
        (job foundOther (only_calibrationLevelJob adapted _) fun same command asks => ?_)
      exact spares command ⟨same, asks⟩
  | checked foundOther reads writes submitted =>
      refine submitted.went only
        (job foundOther (only_compensationJob reads writes _) fun same command plain => ?_)
      exact spares command ⟨same, plain⟩
  | controlled foundOther submitted =>
      refine submitted.went only (job foundOther (only_callJob _ _ _ _) fun same command control => ?_)
      subst same
      cases foundOther.symm.trans found
      exact spares command ⟨rfl, control⟩
  | remembered | recorded => exact ⟨⟨[], world.line.bus, by simp, .nil, .refl⟩, only⟩
  | passed passes => exact passes.went only

/-- A round which can send no command of a kind leaves the probe free of it. -/
theorem RoundStep.free {kind : Command → Bool} (step : RoundStep Line.Submitted world round world')
    (apart : world.state.Apart) (found : world.state.find deviceId = some device)
    (spares : ∀ command, round.Sends deviceId device.spec.type command → kind command = false)
    (free : world.line.Free kind device.spec.address) :
    Line.Went (JobOp.Spares device.spec.address (kind · = false)) world.line world'.line ∧
      world'.line.Free kind device.spec.address := by
  obtain ⟨went, only⟩ := step.went apart found spares free.orphan
  exact ⟨went, went.free free only⟩

/-- Time only passes on a probe. -/
theorem RoundStep.later (step : RoundStep Line.Submitted world round world') (address : Address) :
    (world.line.bus address).Later (world'.line.bus address) := by
  have any : world.line.Only fun _ => True := fun job _ => Program.only_true job
  cases step with
  | sampled _ submitted | levelRead _ _ submitted | checked _ _ _ submitted
  | controlled _ submitted =>
      exact (submitted.went any (Program.only_true _)).1.later address
  | remembered | recorded => exact .refl _
  | passed passes => exact (passes.went any).1.later address

end Steps

end EzoProvider.Runtime
