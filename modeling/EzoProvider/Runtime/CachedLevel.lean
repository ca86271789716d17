import EzoProvider.Runtime.CannedProvider
import EzoProvider.Runtime.Soundness

/-!
# The cached calibration level

Every round but a calibration keeps a cached level right, and a level read makes
it so. What is left is the call which calibrates: when it succeeds it reads the
level back, when it fails it leaves the cache alone.
-/

namespace EzoProvider.Runtime

open Interaction Program Devices TransitionSystem

/-- A round which sends no calibration to a device. -/
def Round.Spares (deviceId : String) (round : Round) : Prop :=
  ∀ functionId args status, round = .controlled deviceId functionId args status →
    ¬ Calibrates functionId

theorem Round.Spares.sends {deviceId : String} {round : Round} {type : EzoDeviceType}
    (spares : round.Spares deviceId) {command : Command}
    (sends : round.Sends deviceId type command) : command.calibrates = false := by
  cases round with
  | sampled | levelRead => exact sends.2.2
  | checked => exact sends.2
  | controlled id functionId args status =>
      obtain ⟨rfl, control⟩ := sends
      by_contra calibrates
      exact spares functionId args status rfl (control.1 (by simpa using calibrates))
  | remembered | recorded | passed => exact absurd sends id

/-- An operation which is not a calibration call on a device. -/
def Operation.Spares (deviceId : String) (operation : Operation) : Prop :=
  ∀ functionId args result, operation = .call deviceId functionId args result →
    ¬ Calibrates functionId

theorem Operation.Spares.permits {deviceId : String} {operation : Operation} {round : Round}
    (spares : operation.Spares deviceId) (permits : operation.Permits round) :
    round.Spares deviceId := by
  rintro functionId args status rfl
  cases operation with
  | refresh | read => rcases permits with ⟨_, same | same⟩ <;> cases same
  | readLevel | check =>
      obtain ⟨_, same⟩ := permits
      cases same
  | call of id callArgs result =>
      obtain ⟨device, same⟩ := permits
      obtain rfl : deviceId = of := by simpa [Round.device] using device
      obtain rfl : functionId = id := same
      exact spares _ _ _ rfl
  | wait => cases permits

section Cache

variable [EzoDriver] [DecimalText]

/-- The level cached of a device, if any, is the one it has, and nothing is to come
for it that changes it. -/
def World.LevelCurrent (world : World) (deviceId : String) : Prop :=
  ∀ device, world.state.find deviceId = some device →
    device.calibrationLevel = none ∨
      (world.line.Free Command.calibrates device.spec.address ∧
        device.calibrationLevel = some ↑(world.line.bus device.spec.address).level)

section Rounds

variable {world world' : World} {round : Round} {deviceId : String} {device : ActiveDevice}

/-- Such a round leaves an idle device at the calibration it has. -/
theorem RoundStep.uncalibrated (step : RoundStep Line.Submitted world round world')
    (apart : world.state.Apart) (found : world.state.find deviceId = some device)
    (spares : round.Spares deviceId)
    (free : world.line.Free Command.calibrates device.spec.address) :
    world'.line.Free Command.calibrates device.spec.address ∧
      (world'.line.bus device.spec.address).calibrations =
        (world.line.bus device.spec.address).calibrations ∧
      (world'.line.bus device.spec.address).level =
        (world.line.bus device.spec.address).level := by
  obtain ⟨went, free'⟩ := step.free apart found (fun _ => spares.sends) free
  have same := went.calibration free
  exact ⟨free', same, (went.later _).level same⟩

/-- A level read caches what the device has, or nothing. -/
theorem levelCurrent_of_levelRead {status : Status}
    (step : RoundStep Line.Submitted world (.levelRead deviceId status) world') :
    world'.LevelCurrent deviceId := by
  cases step with
  | @levelRead _ before reader reply line found adapted submitted =>
      intro device foundAfter
      rw [RuntimeState.find_update_self (by simp), found, Option.map_some] at foundAfter
      cases foundAfter
      obtain ⟨error, signals, same⟩ :=
        recordCalibrationLevel_frame before reply.status reply.outputs.level
      rw [same]
      by_cases ok : reply.status.isOk = true
      · obtain ⟨trace, finished⟩ := Line.finished_of_submitted submitted ok
        obtain ⟨free, level⟩ := level_of_finished adapted finished ok
        exact .inr ⟨free, by rw [if_pos ok, level]⟩
      · exact .inl (if_neg ok)

theorem RoundStep.levelCurrent (step : RoundStep Line.Submitted world round world')
    (apart : world.state.Apart) (spares : round.Spares deviceId)
    (current : world.LevelCurrent deviceId) : world'.LevelCurrent deviceId := by
  by_cases read : ∃ status, round = .levelRead deviceId status
  · obtain ⟨status, rfl⟩ := read
    exact levelCurrent_of_levelRead step
  · rw [not_exists] at read
    intro device' foundAfter
    obtain ⟨device, found, _⟩ := step.found apart foundAfter
    obtain ⟨_, after, effect⟩ := step.effect found
    cases after.symm.trans foundAfter
    rw [effect.kept.level read, effect.kept.spec]
    rcases current device found with uncached | ⟨free, cached⟩
    · exact .inl uncached
    · obtain ⟨free', _, level⟩ := step.uncalibrated apart found spares free
      exact .inr ⟨free', by rw [level]; exact cached⟩

theorem Through.levelCurrent {allowed : Round → Prop}
    (through : Through Line.Submitted allowed world world') (formed : world.WellFormed)
    (spares : ∀ round, allowed round → round.Spares deviceId)
    (current : world.LevelCurrent deviceId) : world'.LevelCurrent deviceId := by
  let both : World → Prop := fun world => world.WellFormed ∧ world.LevelCurrent deviceId
  have kept : ∀ {world round world'}, allowed round → both world →
      RoundStep Line.Submitted world round world' → both world' :=
    fun permitted both step => ⟨step.wellFormed both.1,
      step.levelCurrent both.1.apart (spares _ permitted) both.2⟩
  exact (through.maintains kept ⟨formed, current⟩).2

/-- Rounds which send no calibration leave an idle device at the calibration it has. -/
theorem Through.uncalibrated {allowed : Round → Prop}
    (through : Through Line.Submitted allowed world world') (formed : world.WellFormed)
    (spares : ∀ round, allowed round → round.Spares deviceId)
    (found : world.state.find deviceId = some device)
    (free : world.line.Free Command.calibrates device.spec.address) :
    world'.line.Free Command.calibrates device.spec.address ∧
      (world'.line.bus device.spec.address).calibrations =
        (world.line.bus device.spec.address).calibrations ∧
      (world'.line.bus device.spec.address).level =
        (world.line.bus device.spec.address).level := by
  let idle : World → Prop := fun later => later.WellFormed ∧
    (∃ device', later.state.find deviceId = some device' ∧ device'.spec = device.spec) ∧
      later.line.Free Command.calibrates device.spec.address ∧
      (later.line.bus device.spec.address).calibrations =
        (world.line.bus device.spec.address).calibrations ∧
      (later.line.bus device.spec.address).level =
        (world.line.bus device.spec.address).level
  have kept : ∀ {before round after}, allowed round → idle before →
      RoundStep Line.Submitted before round after → idle after := by
    rintro before round after permitted ⟨formed, ⟨middle, foundMiddle, same⟩, free, count, level⟩ step
    obtain ⟨last, foundLast, effect⟩ := step.effect foundMiddle
    rw [← same] at free count level
    obtain ⟨free', count', level'⟩ :=
      step.uncalibrated formed.apart foundMiddle (spares _ permitted) free
    rw [same] at free' count' level' count level
    exact ⟨step.wellFormed formed, ⟨last, foundLast, effect.kept.spec.trans same⟩, free',
      count'.trans count, level'.trans level⟩
  exact (through.maintains kept ⟨formed, ⟨device, found, rfl⟩, free, rfl, rfl⟩).2.2

/-- Rounds which read no level keep the level cached. -/
theorem Through.level_kept {submits : Submits} {allowed : Round → Prop}
    (through : Through submits allowed world world')
    (unread : ∀ status, ¬ allowed (.levelRead deviceId status))
    (found : world.state.find deviceId = some device) :
    ∃ device', world'.state.find deviceId = some device' ∧ device'.spec = device.spec ∧
      device'.calibrationLevel = device.calibrationLevel := by
  let same : World → Prop := fun later => ∃ device', later.state.find deviceId = some device' ∧
    device'.spec = device.spec ∧ device'.calibrationLevel = device.calibrationLevel
  refine @Through.maintains _ _ _ _ _ _ same ?_ through ⟨device, found, rfl, rfl⟩
  rintro before round after permitted ⟨middle, foundMiddle, spec, level⟩ step
  obtain ⟨last, foundLast, effect⟩ := step.effect foundMiddle
  refine ⟨last, foundLast, effect.kept.spec.trans spec, ?_⟩
  rw [effect.kept.level fun status read => unread status (by rwa [← read]), level]

end Rounds

/-! ## Calibration calls -/

section Calls

variable {world world' : World} {deviceId : String} {device : ActiveDevice} {functionId : Nat}
  {args : ValueMap} {result : AdapterCallResult}

/-- A calibration call which returned ok has had its job done, and ends with a level read. -/
theorem calibrated_of_call (found : world.state.find deviceId = some device)
    {reader : Address → JobM ℚ}
    (adapted : (adapterFor device.spec.type).readCalibrationLevel = some reader)
    (calibrates : Calibrates functionId) (ok : result.ok = true)
    (run : CallRun Line.Submitted deviceId functionId args world result world') :
    ∃ controlArgs status levelStatus controlled middle,
      RoundStep Line.Submitted world (.controlled deviceId functionId controlArgs status)
        controlled ∧ status.isOk = true ∧
      Through Line.Submitted (Round.Spares deviceId) controlled middle ∧
      RoundStep Line.Submitted middle (.levelRead deviceId levelStatus) world' := by
  -- After the job the call records its result, and reads the level of the device it found.
  have conclude : ∀ {functionName : String} {start : World},
      ConcludeRun Line.Submitted deviceId functionName functionId start result world' →
      (∃ later, start.state.find deviceId = some later ∧ later.spec = device.spec) →
      ∃ levelStatus middle, Through Line.Submitted (Round.Spares deviceId) start middle ∧
        RoundStep Line.Submitted middle (.levelRead deviceId levelStatus) world' := by
    rintro functionName start concluded ⟨later, foundLater, same⟩
    cases concluded with
    | failed not => simp [ok] at not
    | succeeded _ other => rcases calibrates with rfl | rfl <;> simp at other
    | calibrated _ _ recorded levelRead =>
        have records := @RecordRun.through _ _ _ _ _ (Round.Spares deviceId) _ _ _ _ recorded
          fun _ _ => by rintro _ _ _ ⟨⟩
        obtain ⟨last, foundLast, sameLast⟩ := records.found foundLater
        cases levelRead with
        | unknown missing => simp [missing] at foundLast
        | unsupported foundOther none =>
            cases foundOther.symm.trans foundLast
            rw [sameLast, same, adapted] at none
            cases none
        | levelRead step => exact ⟨_, _, records, step⟩
  cases run with
  | unknownDevice | unknownFunction => simp [callNotFound] at ok
  | refused _ _ refused =>
      rw [refuses_validateCallArgs _ _ _ _ refused] at ok
      cases ok
  | performed foundOther declared accepted performed =>
      cases foundOther.symm.trans found
      cases performed with
      | plain unread executed concluded =>
          cases executed with
          | unserved => simp at ok
          | controlled step =>
              obtain ⟨later, foundLater, effect⟩ := step.effect found
              obtain ⟨levelStatus, middle, through, read⟩ :=
                conclude concluded ⟨later, foundLater, effect.kept.spec⟩
              exact ⟨_, _, levelStatus, _, middle, step, ok, through, read⟩
      | @readBack _ controlled remembered checked _ _ executed remembering checking concluded =>
          cases executed with
          | unserved => simp at ok
          | controlled step =>
              obtain ⟨later, foundLater, effect⟩ := step.effect found
              have remembers : Through Line.Submitted (Round.Spares deviceId) controlled
                  remembered := by
                cases remembering with
                | skipped => exact .refl
                | remembered _ _ step => exact .single step (by rintro _ _ _ ⟨⟩)
              have checks : Through Line.Submitted (Round.Spares deviceId) remembered checked :=
                checking.through fun _ => by rintro _ _ _ ⟨⟩
              obtain ⟨last, foundLast, same⟩ := (remembers.trans checks).found foundLater
              obtain ⟨levelStatus, middle, through, read⟩ :=
                conclude concluded ⟨last, foundLast, same.trans effect.kept.spec⟩
              exact ⟨_, _, levelStatus, _, middle, step, ok,
                (remembers.trans checks).trans through, read⟩

/-- What a calibration call which returned ok leaves: the device calibrated, with no
more of that to come, and what is cached of its level right. -/
theorem level_of_call (sound : world.Sound) (found : world.state.find deviceId = some device)
    {reader : Address → JobM ℚ}
    (adapted : (adapterFor device.spec.type).readCalibrationLevel = some reader)
    (calibrates : Calibrates functionId) (ok : result.ok = true)
    (run : CallRun Line.Submitted deviceId functionId args world result world') :
    (world.line.bus device.spec.address).calibrations <
        (world'.line.bus device.spec.address).calibrations ∧
      world'.line.Free Command.calibrates device.spec.address ∧
      world'.LevelCurrent deviceId := by
  obtain ⟨controlArgs, status, levelStatus, controlled, middle, control, done, through, read⟩ :=
    calibrated_of_call found adapted calibrates ok run
  obtain ⟨later, foundLater, effect⟩ := control.effect found
  have spec := effect.kept.spec
  have formed := control.wellFormed sound.toWellFormed
  have calibrated : controlled.line.Free Command.calibrates device.spec.address ∧
      (world.line.bus device.spec.address).calibrations <
        (controlled.line.bus device.spec.address).calibrations := by
    cases control with
    | controlled foundOther submitted =>
        cases foundOther.symm.trans found
        obtain ⟨trace, finished⟩ := Line.finished_of_submitted submitted done
        exact calibrated_of_finished calibrates finished done
  have reads : Round.Spares deviceId (.levelRead deviceId levelStatus) := by
    rintro _ _ _ ⟨⟩
  have rest : Through Line.Submitted (Round.Spares deviceId) controlled world' :=
    through.trans (.single read reads)
  rw [← spec] at calibrated ⊢
  obtain ⟨free, count, _⟩ :=
    rest.uncalibrated formed (fun _ spares => spares) foundLater calibrated.1
  exact ⟨by rw [count]; exact calibrated.2, free, levelCurrent_of_levelRead read⟩

/-- A failed call leaves the level cached as it was. -/
theorem level_kept_of_failed (found : world.state.find deviceId = some device)
    (failed : result.ok = false)
    (run : CallRun Line.Submitted deviceId functionId args world result world') :
    ∃ device', world'.state.find deviceId = some device' ∧ device'.spec = device.spec ∧
      device'.calibrationLevel = device.calibrationLevel := by
  refine run.through.level_kept ?_ found
  rintro status ⟨_, _, ok⟩
  simp [failed] at ok

end Calls

/-! ## Runs -/

section Runs

variable [ProviderSdk]

/-- After a calibration call which returned ok, and until the next one on the device,
the level slot is unavailable for a reason or shows the level the device has had since. -/
theorem level_slot_after_calibration {before after later : World} {labels : List Operation}
    {deviceId : String} {device : ActiveDevice} {functionId : Nat} {args : ValueMap}
    {result : AdapterCallResult}
    (reachable : (provider Line.Submitted).Reachable before)
    (found : before.state.find deviceId = some device)
    (family : device.spec.type = .ph ∨ device.spec.type = .dox)
    (calibrates : functionId = kFunctionCalibrate ∨ functionId = kFunctionClearCalibration)
    (called : (provider Line.Submitted).Step before (.call deviceId functionId args result) after)
    (ok : result.ok = true)
    (run : (provider Line.Submitted).Steps after labels later)
    (uncalled : ∀ functionId args result, .call deviceId functionId args result ∈ labels →
      functionId ≠ kFunctionCalibrate ∧ functionId ≠ kFunctionClearCalibration) :
    (before.line.bus device.spec.address).calibrations <
        (after.line.bus device.spec.address).calibrations ∧
      (later.line.bus device.spec.address).calibrations =
        (after.line.bus device.spec.address).calibrations ∧
      ∃ device', later.state.find deviceId = some device' ∧ device'.spec = device.spec ∧
        ∀ index slot, (adapterFor device.spec.type).calibrationLevelSignal = some index →
          device'.sample.signals[index]? = some slot →
            (slot.available = false ∧ slot.unavailableReason ≠ "") ∨
              (slot.available = true ∧
                slot.value = ↑(later.line.bus device.spec.address).level) := by
  have sound := sound_of_reachable reachable
  obtain ⟨reader, adapted⟩ :
      ∃ reader, (adapterFor device.spec.type).readCalibrationLevel = some reader := by
    rcases family with same | same <;> rw [same] <;> exact ⟨_, rfl⟩
  cases called with
  | call completes =>
      have calling := callRun_of_completes completes
      obtain ⟨rose, free, current⟩ := level_of_call sound found adapted calibrates ok calling
      obtain ⟨middle, foundMiddle, spec⟩ := calling.through.found found
      have soundAfter := sound_of_reachable (reachable.steps (.single (.call completes)))
      have spares : ∀ operation ∈ labels, ∀ round, operation.Permits round →
          round.Spares deviceId := by
        intro operation member round permits
        refine Operation.Spares.permits ?_ permits
        rintro functionId args result rfl calibrating
        have other := uncalled functionId args result member
        rcases calibrating with same | same
        · exact other.1 same
        · exact other.2 same
      have through := through_of_steps run spares
      rw [← spec] at free ⊢
      obtain ⟨_, count, _⟩ :=
        through.uncalibrated soundAfter.toWellFormed (fun _ spares => spares) foundMiddle free
      obtain ⟨last, foundLast, specLast⟩ := through.found foundMiddle
      have stays := through.levelCurrent soundAfter.toWellFormed (fun _ spares => spares) current
      have shown := (sound_of_reachable ((reachable.steps (.single (.call completes))).steps run)).level
        foundLast
      refine ⟨?_, count, last, foundLast, specLast, fun index slot signal at' => ?_⟩
      · rw [spec]
        exact rose
      · rw [← specLast] at signal ⊢
        have shows := shown index slot signal at'
        rcases stays last foundLast with uncached | ⟨_, cached⟩
        · rw [uncached] at shows
          exact .inl ⟨shows.1, shows.2.2⟩
        · rw [cached] at shows
          exact .inr ⟨shows.1, shows.2.2⟩

end Runs

end Cache

section Canned

open CannedBus CannedProvider

/-- A pH probe calibrated at three points. -/
def calibratedProbe : Probe := { holding := defaults, powerUp := defaults, level := 3 }

theorem level_slot_after_calibration_canned :
    let setup := products .ph fun _ => false
    let before := started setup (oneDevice .ph) calibratedProbe
    let after := (play setup (call "probe" kFunctionClearCalibration noArgs) before).final
    let later := (play setup (refreshDeviceSample "probe") after).final
    ∃ device, before.state.find "probe" = some device ∧
      (before.line.bus device.spec.address).calibrations <
        (after.line.bus device.spec.address).calibrations ∧
      (later.line.bus device.spec.address).calibrations =
        (after.line.bus device.spec.address).calibrations ∧
      ∃ device', later.state.find "probe" = some device' ∧ device'.spec = device.spec ∧
        ∀ index slot, (adapterFor device.spec.type).calibrationLevelSignal = some index →
          device'.sample.signals[index]? = some slot →
            (slot.available = false ∧ slot.unavailableReason ≠ "") ∨
              (slot.available = true ∧
                slot.value = ↑(later.line.bus device.spec.address).level) := by
  intro setup before after later
  obtain ⟨device, found⟩ := Option.isSome_iff_exists.mp
    (show (before.state.find "probe").isSome = true by decide +kernel)
  have family : (before.state.find "probe").map (·.spec.type) = some .ph := by decide +kernel
  rw [found, Option.map_some, Option.some_inj] at family
  refine ⟨device, found, ?_⟩
  refine level_slot_after_calibration (reachable_started setup .ph calibratedProbe) found
    (.inl family) (.inr rfl) (called_play setup "probe" kFunctionClearCalibration noArgs before)
    (by decide +kernel) (.single (refreshed_play setup "probe" after)) ?_
  intro functionId args result member
  simp at member

end Canned

section Failures

variable [EzoDriver] [DecimalText] [ProviderSdk]

/-- The condition on a calibration call which fails: no level is cached when it is made,
or it leaves the device at the level it had, with no calibration to come. -/
def FailsUncached (deviceId : String) (world : World) (operation : Operation)
    (world' : World) : Prop :=
  ∀ functionId args result device, operation = .call deviceId functionId args result →
    Calibrates functionId → result.ok = false → world.state.find deviceId = some device →
      device.calibrationLevel = none ∨
        (world'.line.Free Command.calibrates device.spec.address ∧
          (world'.line.bus device.spec.address).level =
            (world.line.bus device.spec.address).level)

theorem levelCurrent_of_initialized {world : World} {config : ProviderConfig} {deviceId : String}
    (initialized : Initialized Line.Submitted config world) : world.LevelCurrent deviceId := by
  obtain ⟨valid, bus, completes⟩ := initialized
  rcases published_of_initialize completes with none | ⟨probes, start, covered, published, reads⟩
  · intro device found
    simp [RuntimeState.find, none] at found
  · obtain ⟨formed, fresh⟩ := wellFormed_of_published valid covered published
    have through := through_of_startupReadsOf reads
    refine through.levelCurrent formed ?_ fun device found => .inl (fresh found).level
    rintro round ⟨_, _, same | same | same⟩ functionId args status rfl <;> cases same

theorem ProviderStep.levelCurrent {world world' : World} {operation : Operation}
    {deviceId : String} {device : ActiveDevice}
    (step : ProviderStep Line.Submitted world operation world') (sound : world.Sound)
    (condition : FailsUncached deviceId world operation world')
    (found : world.state.find deviceId = some device) {reader : Address → JobM ℚ}
    (adapted : (adapterFor device.spec.type).readCalibrationLevel = some reader)
    (current : world.LevelCurrent deviceId) : world'.LevelCurrent deviceId := by
  by_cases spares : operation.Spares deviceId
  · exact step.through.levelCurrent sound.toWellFormed (fun _ => spares.permits) current
  obtain ⟨functionId, args, result, rfl, calibrates⟩ : ∃ functionId args result,
      operation = .call deviceId functionId args result ∧ Calibrates functionId := by
    by_contra none
    refine spares fun functionId args result same calibrates => none ?_
    exact ⟨functionId, args, result, same, calibrates⟩
  cases step with
  | call completes =>
      have run := callRun_of_completes completes
      cases ok : result.ok with
      | true => exact (level_of_call sound found adapted calibrates ok run).2.2
      | false =>
          obtain ⟨device', found', spec, same⟩ := level_kept_of_failed found ok run
          intro other foundOther
          cases foundOther.symm.trans found'
          rw [same, spec]
          rcases current device found with uncached | ⟨_, cached⟩
          · exact .inl uncached
          · rcases condition _ _ _ device rfl calibrates ok found with uncached | ⟨free, level⟩
            · exact .inl uncached
            · exact .inr ⟨free, by rw [level]; exact cached⟩

/-- In a run whose failed calibration calls meet the condition, the level slot of a
sample is unavailable for a reason or shows the level the device has. -/
theorem level_slot_current {world : World} {deviceId : String} {device : ActiveDevice}
    (reachable : ((provider Line.Submitted).restrict (FailsUncached deviceId)).Reachable world)
    (found : world.state.find deviceId = some device)
    (family : device.spec.type = .ph ∨ device.spec.type = .dox) {index : Nat}
    {slot : SignalSample}
    (signal : (adapterFor device.spec.type).calibrationLevelSignal = some index)
    (shown : device.sample.signals[index]? = some slot) :
    (slot.available = false ∧ slot.unavailableReason ≠ "") ∨
      (slot.available = true ∧
        slot.value = ↑(world.line.bus device.spec.address).level) := by
  obtain ⟨reader, adapted⟩ :
      ∃ reader, (adapterFor device.spec.type).readCalibrationLevel = some reader := by
    rcases family with same | same <;> rw [same] <;> exact ⟨_, rfl⟩
  -- The specification of the device is the same all along the run.
  let current : World → Prop := fun earlier =>
    (∃ device', earlier.state.find deviceId = some device' ∧ device'.spec = device.spec) →
      earlier.LevelCurrent deviceId
  have here : current world := by
    refine reachable.induct ?_ ?_
    · rintro state ⟨config, initialized⟩ _
      exact levelCurrent_of_initialized initialized
    · rintro state operation next before holds ⟨step, condition⟩ ⟨last, foundLast, same⟩
      have sound := sound_of_reachable before.of_restrict
      obtain ⟨first, foundFirst, sameFirst⟩ := step.through.foundBefore sound.toWellFormed foundLast
      rw [← same, ← sameFirst] at adapted
      exact step.levelCurrent sound condition foundFirst adapted
        (holds ⟨first, foundFirst, sameFirst.trans same⟩)
  have shows := (sound_of_reachable reachable.of_restrict).level found index slot signal shown
  rcases here ⟨device, found, rfl⟩ device found with uncached | ⟨_, cached⟩
  · rw [uncached] at shows
    exact .inl ⟨shows.1, shows.2.2⟩
  · rw [cached] at shows
    exact .inr ⟨shows.1, shows.2.2⟩

end Failures

section Canned

open CannedBus CannedProvider

theorem level_slot_current_canned :
    let unread := products .ph fun
      | .readCalibrationStatus _ | .readResponse _ => true
      | _ => false
    let before := started unread (oneDevice .ph) calibratedProbe
    let after := (play unread (call "probe" kFunctionClearCalibration noArgs) before).final
    (play unread (call "probe" kFunctionClearCalibration noArgs) before).value.ok = false ∧
      ∃ (device : ActiveDevice) (slot : SignalSample), after.state.find "probe" = some device ∧
        device.sample.signals[1]? = some slot ∧
        ((slot.available = false ∧ slot.unavailableReason ≠ "") ∨
          (slot.available = true ∧
            slot.value = ↑(after.line.bus device.spec.address).level)) := by
  intro unread before after
  obtain ⟨device, found⟩ := Option.isSome_iff_exists.mp
    (show (after.state.find "probe").isSome = true by decide +kernel)
  have family : (after.state.find "probe").map (·.spec.type) = some .ph := by decide +kernel
  have slots : (after.state.find "probe").map (·.sample.signals.length) = some 3 := by
    decide +kernel
  have uncached : (before.state.find "probe").map (·.calibrationLevel) = some none := by
    decide +kernel
  rw [found, Option.map_some, Option.some_inj] at family slots
  have shown : device.sample.signals[1]? = some (device.sample.signals[1]) :=
    List.getElem?_eq_getElem _
  refine ⟨by decide +kernel, device, _, found, shown, ?_⟩
  refine level_slot_current ?_ found (.inl family) (by rw [family]; rfl) shown
  refine Reachable.steps (.initial ⟨_, initialized_started unread (valid_oneDevice .ph) _⟩)
    (.single ⟨called_play unread "probe" kFunctionClearCalibration noArgs before, ?_⟩)
  rintro functionId args result other ⟨⟩ _ _ foundOther
  rw [foundOther, Option.map_some, Option.some_inj] at uncached
  exact .inl uncached

/-- A clear whose response cannot be read: the device has cleared its calibration, and
`read` goes on presenting the level from before. -/
theorem failed_calibration_shows_old_level :
    let healthy := products .ph fun _ => false
    let mute := products .ph fun
      | .readResponse _ => true
      | _ => false
    let before := started healthy (oneDevice .ph) calibratedProbe
    let called := play mute (call "probe" kFunctionClearCalibration noArgs) before
    let served := play healthy (read "probe" ["ph_calibration_level"]) called.final
    (provider Line.Submitted).Reachable before ∧
      (provider Line.Submitted).Step before
        (.call "probe" kFunctionClearCalibration noArgs called.value) called.final ∧
      called.value.ok = false ∧
      (before.line.bus 97).level = 3 ∧ (called.final.line.bus 97).level = 0 ∧
      (provider Line.Submitted).Step called.final
        (.read "probe" ["ph_calibration_level"] served.value) served.final ∧
      served.value.ok = true ∧
      served.value.values.map (fun value => (value.value, value.quality)) =
        [(some 3, Quality.ok)] ∧
      (served.final.line.bus 97).level = 0 := by
  intro healthy mute before called served
  refine ⟨reachable_started healthy .ph calibratedProbe,
    called_play mute "probe" kFunctionClearCalibration noArgs before, by decide +kernel,
    by decide +kernel, by decide +kernel,
    read_play healthy "probe" ["ph_calibration_level"] called.final, by decide +kernel,
    by decide +kernel, by decide +kernel⟩

end Canned

end EzoProvider.Runtime
