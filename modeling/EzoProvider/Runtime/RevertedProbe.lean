import EzoProvider.Runtime.RestoreRecovery

/-!
# A probe which has reverted

A probe which comes back with its power-up defaults gets the values set from the
next check, and a check comes with every 24th sample. Checks after that find the
values, as the tolerances absorb both roundings, and send nothing.
-/

namespace EzoProvider.Runtime

open Interaction Program Devices TransitionSystem

/-- A successful `refresh_device_sample` of a device. -/
def Operation.Refreshes (deviceId : String) : Operation → Bool
  | .refresh id status => id = deviceId && status.isOk
  | _ => false

/-- Where a device stands: what the probe holds and the count of re-sends, and the count
of successful samples. The probe has its power since `powerUps`. -/
structure Stands (deviceId : String) (spec : DeviceSpec) (set : Compensation) (powerUps : Nat)
    (point : Holding × Nat) (samples : Nat) (world : World) : Prop where
  formed : world.WellFormed
  device : ∃ device, world.state.find deviceId = some device ∧ device.spec = spec ∧
    device.compensationSet = set ∧ device.compensationReappliedCount = point.2 ∧
    device.sample.successCount = samples
  free : world.line.Free Command.setsCompensation spec.address
  holding : (world.line.bus spec.address).holding = point.1
  powerUps : (world.line.bus spec.address).powerUps = powerUps

theorem Round.quiet_of_elsewhere {deviceId : String} {round : Round}
    (other : round.device ≠ some deviceId) :
    round.Quiet deviceId ∧ ∀ status, round ≠ .sampled deviceId status := by
  refine ⟨⟨?_, ?_, ?_⟩, ?_⟩
  all_goals
    intros
    rintro rfl
    exact other rfl

section Reversion

variable [EzoDriver] [DecimalText]

/-- What a check makes of what the probe holds, and of the count of re-sends. -/
def recovered (type : EzoDeviceType) (set : Compensation) (point : Holding × Nat) : Holding × Nat :=
  if holdsAll set (point.1.reading type).values then point else (point.1.write set, point.2 + 1)

/-- After a check the next one finds the values set. -/
theorem holdsAll_recovered {type : EzoDeviceType} {set : Compensation}
    {reader : Address → JobM CompensationReading}
    (adapted : (adapterFor type).readCompensation = some reader) (takes : Takes type set)
    (point : Holding × Nat) :
    holdsAll set ((recovered type set point).1.reading type).values = true := by
  rw [recovered]
  split
  · next holds => exact holds
  · exact holdsAll_write adapted takes point.1

theorem recovered_recovered {type : EzoDeviceType} {set : Compensation}
    {reader : Address → JobM CompensationReading}
    (adapted : (adapterFor type).readCompensation = some reader) (takes : Takes type set)
    (point : Holding × Nat) :
    recovered type set (recovered type set point) = recovered type set point :=
  if_pos (holdsAll_recovered adapted takes point)

section Rounds

variable {deviceId : String} {spec : DeviceSpec} {set : Compensation} {powerUps : Nat}
  {point : Holding × Nat} {samples : Nat} {world world' : World} {round : Round}

/-- A quiet round changes nothing but the count of samples. -/
theorem Stands.quiet (stands : Stands deviceId spec set powerUps point samples world)
    (step : RoundStep Line.Delivered world round world') (quiet : round.Quiet deviceId)
    (powered : (world'.line.bus spec.address).powerUps = powerUps) :
    ∃ device device', world.state.find deviceId = some device ∧
      world'.state.find deviceId = some device' ∧ Effect deviceId device round device' ∧
      device.sample.successCount = samples ∧
      Stands deviceId spec set powerUps point device'.sample.successCount world' := by
  obtain ⟨formed, ⟨device, found, rfl, rfl, reapplied, count⟩, free, holding, same⟩ := stands
  obtain ⟨device', found', effect⟩ := step.effect found
  obtain ⟨free', held⟩ := step.submitted.quiet formed.apart found quiet free
  have kept := effect.sameCompensation quiet
  refine ⟨device, device', found, found', effect, count, step.wellFormed formed,
    ⟨device', found', kept.spec, kept.set, kept.reapplied.trans reapplied, rfl⟩, free', ?_, powered⟩
  rw [held (powered.trans same.symm), holding]

/-- A check leaves the probe recovered. -/
theorem Stands.checked {status : Status}
    (stands : Stands deviceId spec set powerUps point samples world)
    (step : RoundStep Line.Delivered world (.checked deviceId status) world')
    (powered : (world'.line.bus spec.address).powerUps = powerUps) :
    Stands deviceId spec set powerUps (recovered spec.type set point) samples world' := by
  obtain ⟨formed, ⟨device, found, rfl, rfl, reapplied, count⟩, free, holding, same⟩ := stands
  obtain ⟨device', found', sameSpec, sameSet, sameCount, outcome⟩ :=
    checkOutcome_of_step formed step.submitted found
  cases outcome with
  | failed failed => simp [isOk_of_delivered_check step] at failed
  | checked _ _ _ counted _ left =>
      obtain ⟨started, _, untouched, effect⟩ := left.effect (powered.trans same.symm)
      rw [untouched free, holding] at effect
      have settled : (world'.line.bus device.spec.address).holding =
            (recovered device.spec.type device.compensationSet point).1 ∧
          device'.compensationReappliedCount =
            (recovered device.spec.type device.compensationSet point).2 := by
        rw [counted, reapplied, recovered]
        split at effect
        · next holds => simp [holds, effect.1, effect.2]
        · next lost => simp [lost, effect.1, effect.2]
      exact ⟨step.wellFormed formed,
        ⟨device', found', sameSpec, sameSet, settled.2, sameCount.trans count⟩, left.quiet,
        settled.1, powered⟩

/-- A round which samples nothing keeps the count, and leaves what is held or recovers it. -/
theorem Stands.unsampled (stands : Stands deviceId spec set powerUps point samples world)
    (step : RoundStep Line.Delivered world round world')
    (permitted : round.Quiet deviceId ∨ ∃ status, round = .checked deviceId status)
    (unsampled : ∀ status, round ≠ .sampled deviceId status)
    (powered : (world'.line.bus spec.address).powerUps = powerUps) :
    Stands deviceId spec set powerUps point samples world' ∨
      Stands deviceId spec set powerUps (recovered spec.type set point) samples world' := by
  rcases permitted with quiet | ⟨status, rfl⟩
  · obtain ⟨_, _, _, _, effect, count, stands'⟩ := stands.quiet step quiet powered
    rw [effect.kept.count unsampled, count] at stands'
    exact .inl stands'
  · exact .inr (stands.checked step powered)

/-- A sample counts if it is successful. -/
theorem Stands.sampled {status : Status}
    (stands : Stands deviceId spec set powerUps point samples world)
    (step : RoundStep Line.Delivered world (.sampled deviceId status) world')
    (powered : (world'.line.bus spec.address).powerUps = powerUps) :
    Stands deviceId spec set powerUps point (samples + if status.isOk then 1 else 0) world' := by
  obtain ⟨device, device', _, _, effect, count, stands'⟩ :=
    stands.quiet step Round.quiet_sampled powered
  have counted : device'.sample.successCount = samples + if status.isOk then 1 else 0 := by
    cases effect with
    | @sampled config _ signals now nowSteady =>
        obtain ⟨sample, same, counts⟩ :=
          recordSample_frame device config deviceId status signals now nowSteady
        rw [same, ← count]
        exact counts
    | elsewhere other => exact absurd rfl other
  rwa [counted] at stands'

/-! ## Operations -/

/-- Rounds without a sample of the device. -/
theorem Stands.through {allowed : Round → Prop}
    {reader : Address → JobM CompensationReading}
    (adapted : (adapterFor spec.type).readCompensation = some reader) (takes : Takes spec.type set)
    (stands : Stands deviceId spec set powerUps point samples world)
    (through : Through Line.Delivered allowed world world')
    (permitted : ∀ round, allowed round →
      (round.Quiet deviceId ∨ ∃ status, round = .checked deviceId status) ∧
        ∀ status, round ≠ .sampled deviceId status)
    (powered : (world'.line.bus spec.address).powerUps = powerUps) :
    Stands deviceId spec set powerUps point samples world' ∨
      Stands deviceId spec set powerUps (recovered spec.type set point) samples world' := by
  let either : World → Prop := fun world => powerUps ≤ (world.line.bus spec.address).powerUps ∧
    ((world.line.bus spec.address).powerUps = powerUps →
      Stands deviceId spec set powerUps point samples world ∨
        Stands deviceId spec set powerUps (recovered spec.type set point) samples world)
  have kept : ∀ {before round after}, allowed round → either before →
      RoundStep Line.Delivered before round after → either after := by
    rintro before round after allows ⟨since, stood⟩ step
    have later := (step.submitted.later spec.address).powerUps
    refine ⟨by omega, fun powered => ?_⟩
    obtain ⟨quiet, unsampled⟩ := permitted round allows
    rcases stood (by omega) with stood | stood
    · exact stood.unsampled step quiet unsampled powered
    · have next := stood.unsampled step quiet unsampled powered
      rw [recovered_recovered adapted takes, or_self] at next
      exact .inr next
  exact (through.maintains kept ⟨stands.powerUps.ge, fun _ => .inl stands⟩).2 powered

/-- A refresh counts if it is successful, and every 24th one checks. -/
theorem Stands.refresh {status : Status} {reader : Address → JobM CompensationReading}
    {writer : Address → Compensation → JobM Unit}
    (reads : (adapterFor spec.type).readCompensation = some reader)
    (writes : (adapterFor spec.type).writeCompensation = some writer)
    (stands : Stands deviceId spec set powerUps point samples world)
    (run : RefreshRun Line.Delivered deviceId world status world')
    (powered : (world'.line.bus spec.address).powerUps = powerUps) :
    ∃ point' samples', Stands deviceId spec set powerUps point' samples' world' ∧
      samples' = samples + (if status.isOk then 1 else 0) ∧
      (point' = point ∧ samples' / kCompensationCheckEvery = samples / kCompensationCheckEvery ∨
        point' = recovered spec.type set point) := by
  cases run with
  | unnamed => exact ⟨point, samples, stands, by simp, .inl ⟨rfl, rfl⟩⟩
  | unknown missing =>
      obtain ⟨_, found, _⟩ := stands.device
      simp [missing] at found
  | @sampled _ device _ step found idle =>
      have sampled := stands.sampled step powered
      obtain ⟨_, foundOther, _, _, _, counted⟩ := sampled.device
      cases foundOther.symm.trans found
      refine ⟨point, _, sampled, rfl, .inl ⟨rfl, ?_⟩⟩
      cases ok : status.isOk with
      | false => simp
      | true =>
          rw [compensationDue, counted, ok] at idle
          simp only [Bool.true_and, decide_eq_false_iff_not, if_true,
            kCompensationCheckEvery] at idle ⊢
          omega
  | @sampledDue _ _ device middle _ step found due checked =>
      obtain ⟨other, foundOther, sameSpec, _⟩ := stands.device
      obtain ⟨_, foundMiddle, effect⟩ := step.effect foundOther
      have spec' := effect.kept.spec.trans sameSpec
      have checkStep := checked.step foundMiddle (by rw [spec']; exact reads)
        (by rw [spec']; exact writes)
      have one := (step.submitted.later spec.address).powerUps
      have two := (checkStep.submitted.later spec.address).powerUps
      have before := stands.powerUps
      have sampled := stands.sampled step (by omega)
      exact ⟨_, _, sampled.checked checkStep powered, rfl, .inr rfl⟩

variable [ProviderSdk]

/-- An operation other than a call of the device. -/
theorem Stands.operation {operation : Operation} {reader : Address → JobM CompensationReading}
    {writer : Address → Compensation → JobM Unit}
    (reads : (adapterFor spec.type).readCompensation = some reader)
    (writes : (adapterFor spec.type).writeCompensation = some writer)
    (takes : Takes spec.type set)
    (stands : Stands deviceId spec set powerUps point samples world)
    (step : ProviderStep Line.Delivered world operation world')
    (uncalled : ∀ functionId args result, operation ≠ .call deviceId functionId args result)
    (powered : (world'.line.bus spec.address).powerUps = powerUps) :
    ∃ point' samples', Stands deviceId spec set powerUps point' samples' world' ∧
      samples + (if operation.Refreshes deviceId then 1 else 0) ≤ samples' ∧
      (point' = point ∧ samples' / kCompensationCheckEvery = samples / kCompensationCheckEvery ∨
        point' = recovered spec.type set point) := by
  by_cases samples : ∃ status, operation = .refresh deviceId status ∨
      ∃ signalIds result, operation = .read deviceId signalIds result
  · obtain ⟨status, rfl | ⟨signalIds, result, rfl⟩⟩ := samples
    · cases step with
      | refresh completes =>
          obtain ⟨point', counted, stands', rfl, moved⟩ :=
            stands.refresh reads writes (refreshRun_of_completes completes) powered
          exact ⟨point', _, stands', by simp [Operation.Refreshes], moved⟩
    · cases step with
      | read completes =>
          rcases refreshRun_of_read completes with rfl | ⟨_, run⟩
          · exact ⟨point, _, stands, by simp [Operation.Refreshes], .inl ⟨rfl, rfl⟩⟩
          · obtain ⟨point', counted, stands', rfl, moved⟩ := stands.refresh reads writes run powered
            exact ⟨point', _, stands', by simp [Operation.Refreshes], moved⟩
  · rw [not_exists] at samples
    have elsewhere : ∀ {round : Round} {id : String}, round.device = some id → id ≠ deviceId →
        (round.Quiet deviceId ∨ ∃ status, round = .checked deviceId status) ∧
          ∀ status, round ≠ .sampled deviceId status := by
      intro round id here other
      obtain ⟨quiet, unsampled⟩ := @Round.quiet_of_elsewhere deviceId round (by simpa [here])
      exact ⟨.inl quiet, unsampled⟩
    have unrefreshed : operation.Refreshes deviceId = false := by
      cases operation with
      | refresh id status =>
          have other : id ≠ deviceId := fun same => samples status (.inl (by rw [same]))
          simp [Operation.Refreshes, other]
      | _ => rfl
    have moved := stands.through reads takes step.through (fun round permits => by
      cases operation with
      | refresh id status =>
          have other : id ≠ deviceId := fun same => samples status (.inl (by rw [same]))
          obtain ⟨_, rfl | rfl⟩ := permits <;> exact elsewhere rfl other
      | read id signalIds result =>
          have other : id ≠ deviceId :=
            fun same => samples .success (.inr ⟨signalIds, result, by rw [same]⟩)
          obtain ⟨_, rfl | rfl⟩ := permits <;> exact elsewhere rfl other
      | readLevel id status =>
          obtain ⟨_, rfl⟩ := permits
          exact ⟨.inl Round.quiet_levelRead, by simp⟩
      | check id status =>
          obtain ⟨checked, rfl⟩ := permits
          by_cases same : id = deviceId
          · exact ⟨.inr ⟨checked, by rw [same]⟩, by simp⟩
          · exact elsewhere rfl same
      | call id functionId args result =>
          have other : id ≠ deviceId := fun same => uncalled functionId args result (by rw [same])
          exact elsewhere permits.1 other
      | wait =>
          obtain rfl := permits
          obtain ⟨quiet, unsampled⟩ := @Round.quiet_of_elsewhere deviceId .passed (by simp [Round.device])
          exact ⟨.inl quiet, unsampled⟩) powered
    rcases moved with stayed | checked
    · exact ⟨point, _, stayed, by simp [unrefreshed], .inl ⟨rfl, rfl⟩⟩
    · exact ⟨_, _, checked, by simp [unrefreshed], .inr rfl⟩

/-- A run without a call of the device: either no check has come, and with it less than
the samples between two of them, or the probe is recovered. -/
theorem Stands.run {labels : List Operation} {reader : Address → JobM CompensationReading}
    {writer : Address → Compensation → JobM Unit}
    (reads : (adapterFor spec.type).readCompensation = some reader)
    (writes : (adapterFor spec.type).writeCompensation = some writer)
    (takes : Takes spec.type set)
    (stands : Stands deviceId spec set powerUps point samples world)
    (run : (provider Line.Delivered).Steps world labels world')
    (uncalled : ∀ functionId args result, .call deviceId functionId args result ∉ labels)
    (powered : (world'.line.bus spec.address).powerUps = powerUps) :
    ∃ point' samples', Stands deviceId spec set powerUps point' samples' world' ∧
      samples + labels.countP (·.Refreshes deviceId) ≤ samples' ∧
      (point' = point ∧ samples' / kCompensationCheckEvery = samples / kCompensationCheckEvery ∨
        point' = recovered spec.type set point) := by
  induction run with
  | refl => exact ⟨point, samples, stands, by simp, .inl ⟨rfl, rfl⟩⟩
  | @step labels middle operation last prior transition ih =>
      have first := ((through_of_steps prior fun _ _ _ _ => trivial).submitted.later
        spec.address).powerUps
      have second := ((ProviderStep.through transition).submitted.later spec.address).powerUps
      have before := stands.powerUps
      obtain ⟨point₁, samples₁, stood, counted, moved⟩ :=
        ih (fun _ _ _ member => uncalled _ _ _ (List.mem_append_left _ member)) (by omega)
      obtain ⟨point₂, samples₂, standing, counts, moves⟩ :=
        stood.operation reads writes takes transition
          (fun functionId args result same => uncalled functionId args result (by simp [same]))
          powered
      refine ⟨point₂, samples₂, standing, ?_, ?_⟩
      · rw [List.countP_append, List.countP_singleton]
        omega
      · rcases moved with ⟨rfl, same⟩ | rfl
        · rcases moves with ⟨rfl, still⟩ | rfl
          · exact .inl ⟨rfl, still.trans same⟩
          · exact .inr rfl
        · rw [recovered_recovered reads takes] at moves
          exact .inr (moves.elim And.left id)

end Rounds

/-! ## From the reversion on -/

end Reversion

section Canned

open CannedBus CannedProvider

end Canned

end EzoProvider.Runtime
