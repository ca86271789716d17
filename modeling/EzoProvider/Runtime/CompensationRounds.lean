import EzoProvider.Runtime.Soundness

/-!
# Rounds and the compensation of a device

A round which is quiet about a device keeps what is cached of its compensation
and, with nothing to come, what the probe holds. A check leaves either nothing
cached or what the probe reports.
-/

namespace EzoProvider.Runtime

open Interaction Program Devices TransitionSystem

/-- A round which neither checks nor changes the compensation of a device. -/
structure Round.Quiet (deviceId : String) (round : Round) : Prop where
  unchecked : ∀ status, round ≠ .checked deviceId status
  uncontrolled : ∀ functionId args status, round ≠ .controlled deviceId functionId args status
  unremembered : ∀ values, round ≠ .remembered deviceId values

theorem Round.Quiet.sends {deviceId : String} {round : Round} {type : EzoDeviceType}
    {command : Command} (quiet : round.Quiet deviceId)
    (sends : round.Sends deviceId type command) : command.setsCompensation = false := by
  cases round with
  | sampled | levelRead => exact sends.2.1
  | checked id status => exact absurd (by rw [sends.1]) (quiet.unchecked status)
  | controlled id functionId args status =>
      exact absurd (by rw [sends.1]) (quiet.uncontrolled functionId args status)
  | remembered | recorded | passed => exact absurd sends id

theorem Round.quiet_recorded {deviceId of functionName message : String} {ok : Bool} :
    (Round.recorded of functionName ok message).Quiet deviceId :=
  ⟨by simp, by simp, by simp⟩

theorem Round.quiet_levelRead {deviceId of : String} {status : Status} :
    (Round.levelRead of status).Quiet deviceId :=
  ⟨by simp, by simp, by simp⟩

theorem Round.quiet_sampled {deviceId of : String} {status : Status} :
    (Round.sampled of status).Quiet deviceId :=
  ⟨by simp, by simp, by simp⟩

/-- What is cached of the compensation of a device is as it was. -/
structure SameCompensation (device device' : ActiveDevice) : Prop where
  spec : device'.spec = device.spec
  set : device'.compensationSet = device.compensationSet
  read : device'.compensationRead = device.compensationRead
  error : device'.compensationError = device.compensationError
  reapplied : device'.compensationReappliedCount = device.compensationReappliedCount

theorem SameCompensation.refl (device : ActiveDevice) : SameCompensation device device :=
  ⟨rfl, rfl, rfl, rfl, rfl⟩

theorem SameCompensation.trans {first second third : ActiveDevice}
    (before : SameCompensation first second) (after : SameCompensation second third) :
    SameCompensation first third :=
  ⟨after.spec.trans before.spec, after.set.trans before.set, after.read.trans before.read,
    after.error.trans before.error, after.reapplied.trans before.reapplied⟩

theorem Effect.sameCompensation [EzoDriver] {deviceId : String} {round : Round}
    {device device' : ActiveDevice} (effect : Effect deviceId device round device') (quiet : round.Quiet deviceId) :
    SameCompensation device device' :=
  ⟨effect.kept.spec, effect.kept.set quiet.unremembered, (effect.kept.read quiet.unchecked).1,
    (effect.kept.read quiet.unchecked).2, effect.kept.reapplied quiet.unchecked⟩

variable [EzoDriver] [DecimalText]

/-! ## Rounds of any bus -/

theorem RoundStep.submitted {world world' : World} {round : Round}
    (step : RoundStep Line.Delivered world round world') :
    RoundStep Line.Submitted world round world' := by
  cases step with
  | sampled found delivered later =>
      exact .sampled found (Line.submitted_of_delivered delivered) later
  | levelRead found adapted delivered =>
      exact .levelRead found adapted (Line.submitted_of_delivered delivered)
  | checked found reads writes delivered =>
      exact .checked found reads writes (Line.submitted_of_delivered delivered)
  | controlled found delivered => exact .controlled found (Line.submitted_of_delivered delivered)
  | remembered taken => exact .remembered taken
  | recorded => exact .recorded
  | passed passes => exact .passed passes

theorem Through.submitted {world world' : World} {allowed : Round → Prop}
    (through : Through Line.Delivered allowed world world') :
    Through Line.Submitted allowed world world' := by
  let reached : World → Prop := Through Line.Submitted allowed world
  refine @Through.maintains _ _ _ _ _ _ reached ?_ through .refl
  intro before round after permitted earlier step
  exact earlier.trans (.single step.submitted permitted)

/-! ## Quiet rounds -/

section Quiet

variable {world world' : World} {round : Round} {deviceId : String} {device : ActiveDevice}

/-- Nothing sends the probe compensation, and it holds what it held until it loses power. -/
theorem RoundStep.quiet (step : RoundStep Line.Submitted world round world')
    (apart : world.state.Apart) (found : world.state.find deviceId = some device)
    (quiet : round.Quiet deviceId)
    (free : world.line.Free Command.setsCompensation device.spec.address) :
    world'.line.Free Command.setsCompensation device.spec.address ∧
      ((world'.line.bus device.spec.address).powerUps =
          (world.line.bus device.spec.address).powerUps →
        (world'.line.bus device.spec.address).holding =
          (world.line.bus device.spec.address).holding) := by
  obtain ⟨went, free'⟩ := step.free apart found (fun _ => quiet.sends) free
  exact ⟨free', went.holding free⟩

theorem Through.sameCompensation {submits : Submits} {allowed : Round → Prop}
    (through : Through submits allowed world world')
    (quiet : ∀ round, allowed round → round.Quiet deviceId)
    (found : world.state.find deviceId = some device) :
    ∃ device', world'.state.find deviceId = some device' ∧ SameCompensation device device' := by
  let same : World → Prop := fun later =>
    ∃ device', later.state.find deviceId = some device' ∧ SameCompensation device device'
  refine @Through.maintains _ _ _ _ _ _ same ?_ through ⟨device, found, .refl device⟩
  rintro before round after permitted ⟨middle, foundMiddle, earlier⟩ step
  obtain ⟨last, foundLast, effect⟩ := step.effect foundMiddle
  exact ⟨last, foundLast, earlier.trans (effect.sameCompensation (quiet round permitted))⟩

theorem Through.later {allowed : Round → Prop}
    (through : Through Line.Submitted allowed world world') (address : Address) :
    (world.line.bus address).Later (world'.line.bus address) := by
  let later : World → Prop := fun after =>
    (world.line.bus address).Later (after.line.bus address)
  refine @Through.maintains _ _ _ _ _ _ later ?_ through (.refl _)
  intro before round after _ earlier step
  exact earlier.trans (step.later address)

theorem Through.quiet {allowed : Round → Prop}
    (through : Through Line.Submitted allowed world world') (formed : world.WellFormed)
    (quiet : ∀ round, allowed round → round.Quiet deviceId)
    (found : world.state.find deviceId = some device)
    (free : world.line.Free Command.setsCompensation device.spec.address) :
    world'.line.Free Command.setsCompensation device.spec.address ∧
      ((world'.line.bus device.spec.address).powerUps =
          (world.line.bus device.spec.address).powerUps →
        (world'.line.bus device.spec.address).holding =
          (world.line.bus device.spec.address).holding) := by
  let steady : World → Prop := fun after => after.WellFormed ∧
    (∃ device', after.state.find deviceId = some device' ∧ device'.spec = device.spec) ∧
      (world.line.bus device.spec.address).Later (after.line.bus device.spec.address) ∧
      after.line.Free Command.setsCompensation device.spec.address ∧
      ((after.line.bus device.spec.address).powerUps =
          (world.line.bus device.spec.address).powerUps →
        (after.line.bus device.spec.address).holding =
          (world.line.bus device.spec.address).holding)
  have kept : ∀ {before round after}, allowed round → steady before →
      RoundStep Line.Submitted before round after → steady after := by
    rintro before round after permitted ⟨formed, ⟨middle, foundMiddle, same⟩, later, free, held⟩
      step
    obtain ⟨last, foundLast, effect⟩ := step.effect foundMiddle
    obtain ⟨free', held'⟩ :=
      step.quiet formed.apart foundMiddle (quiet round permitted) (by rw [same]; exact free)
    rw [same] at free' held'
    have next := step.later device.spec.address
    refine ⟨step.wellFormed formed, ⟨last, foundLast, effect.kept.spec.trans same⟩,
      later.trans next, free', fun powered => ?_⟩
    have first := later.powerUps
    have second := next.powerUps
    exact (held' (by omega)).trans (held (by omega))
  have start : steady world := ⟨formed, ⟨device, found, rfl⟩, .refl _, free, fun _ => rfl⟩
  exact (through.maintains kept start).2.2.2

end Quiet

/-! ## Checks -/

section Checks

variable {world world' : World} {deviceId : String} {device : ActiveDevice} {status : Status}

/-- What a check leaves: an error and nothing read, or a reading of the probe. -/
inductive CheckOutcome (world world' : World) (device device' : ActiveDevice) : Status → Prop where
  | failed {status : Status} (failed : status.isOk = false) (error : device'.compensationError ≠ "")
      (read : device'.compensationRead = {}) : CheckOutcome world world' device device' status
  | checked {status : Status} {outputs : JobOutputs} (ok : status.isOk = true)
      (error : device'.compensationError = "") (read : device'.compensationRead = outputs.reading)
      (reapplied : device'.compensationReappliedCount =
        device.compensationReappliedCount + if outputs.reapplied then 1 else 0)
      (holds : (world'.line.bus device.spec.address).powerUps =
          (world.line.bus device.spec.address).powerUps →
        holdsAll device.compensationSet outputs.reading.values = true)
      (left : Checked device.spec.type device.spec.address device.compensationSet outputs
        world.line world'.line) :
      CheckOutcome world world' device device' status

theorem checkOutcome_of_step (formed : world.WellFormed)
    (step : RoundStep Line.Submitted world (.checked deviceId status) world')
    (found : world.state.find deviceId = some device) :
    ∃ device', world'.state.find deviceId = some device' ∧ device'.spec = device.spec ∧
      device'.compensationSet = device.compensationSet ∧
      device'.sample.successCount = device.sample.successCount ∧
      CheckOutcome world world' device device' status := by
  obtain ⟨device', found', effect⟩ := step.effect found
  refine ⟨device', found', effect.kept.spec, effect.kept.set (by simp), effect.kept.count (by simp), ?_⟩
  cases step with
  | @checked _ other reader writer reply line foundOther reads writes submitted =>
      cases foundOther.symm.trans found
      have update := @RuntimeState.find_update_self world.state deviceId _ fun device =>
        spec_recordCompensation device reply.status reply.outputs.reading reply.outputs.reapplied
      rw [found, Option.map_some] at update
      cases update.symm.trans found'
      have error := @compensationError_recordCompensation _ device reply.status
        reply.outputs.reading reply.outputs.reapplied
      obtain ⟨message, signals, same⟩ := recordCompensation_frame device reply.status
        reply.outputs.reading reply.outputs.reapplied
      by_cases ok : reply.status.isOk = true
      · obtain ⟨trace, finished⟩ := Line.finished_of_submitted submitted ok
        have left := checked_of_finished reads writes (formed.takes found) finished ok
        refine .checked ok (error.mpr ok) ?_ (by rw [same]) ?_ left
        · rw [same, if_pos ok]
        · exact fun powered => left.holds reads (formed.takes found) powered
      · refine .failed (by simpa using ok) (fun none => ok (error.mp none)) ?_
        rw [same]
        exact if_neg ok

end Checks

end EzoProvider.Runtime
