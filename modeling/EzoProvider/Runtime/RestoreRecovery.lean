import EzoProvider.Runtime.CalledCompensation

/-!
# What a check makes of values not sent back

A DO calibration sends back the values set and, for the rest, the values last
read. A check sends again only those set: of the others it leaves what it finds.
-/

namespace EzoProvider.Runtime

open Interaction Program Devices TransitionSystem

/-- The values last read of the fields which have not been set. -/
def unsetValues (set held : Compensation) : Compensation where
  temperatureC := if set.temperatureC.isSome then none else held.temperatureC
  salinityUsCm := if set.salinityUsCm.isSome then none else held.salinityUsCm
  pressureKpa := if set.pressureKpa.isSome then none else held.pressureKpa

theorem holds_restore (set held read : Option ℚ) (tolerance : ℚ) :
    holds (set <|> held) read tolerance =
      (holds set read tolerance &&
        holds (if set.isSome then none else held) read tolerance) := by
  cases set <;> simp

/-- The values to be sent back are held when those set are, and those only read. -/
theorem holdsAll_restoreValues (set held read : Compensation) :
    holdsAll (restoreValues set held) read =
      (holdsAll set read && holdsAll (unsetValues set held) read) := by
  simp only [holdsAll, restoreValues, unsetValues, holds_restore]
  generalize holds set.temperatureC read.temperatureC kTemperatureTolerance = first
  generalize holds set.salinityUsCm read.salinityUsCm kSalinityTolerance = second
  generalize holds set.pressureKpa read.pressureKpa kPressureTolerance = third
  cases first <;> cases second <;> cases third <;> simp

/-- A DO probe reports each value by itself. -/
theorem values_reading [DecimalText] (holding : Holding) :
    (holding.reading .dox).values =
      ⟨some holding.reportedTemperature,
        if holding.salinityUnit = .microsiemens then some holding.reportedSalinity.1 else none,
        some holding.reportedPressure⟩ := by
  obtain ⟨temperature, salinity, unit, pressure⟩ := holding
  cases unit <;> rfl

/-- Sending the values set leaves what is reported of the others. -/
theorem holdsAll_unset_write [DecimalText] (set held : Compensation) (holding : Holding) :
    holdsAll (unsetValues set held) ((holding.write set).reading .dox).values =
      holdsAll (unsetValues set held) (holding.reading .dox).values := by
  obtain ⟨temperature, salinity, pressure⟩ := set
  rw [values_reading, values_reading]
  cases temperature <;> cases salinity <;> cases pressure <;> rfl

section Recovery

variable [EzoDriver] [DecimalText]

/-- A check all of whose operations succeeded returns ok. -/
theorem isOk_of_delivered_check {world world' : World} {deviceId : String} {status : Status}
    (step : RoundStep Line.Delivered world (.checked deviceId status) world') :
    status.isOk = true := by
  cases step with
  | checked found reads writes delivered =>
      obtain ⟨_, _, _, _, _, _, run, succeeds, _⟩ := delivered
      exact isOk_of_succeeds (reliable_compensationJob reads writes) run succeeds

/-- What rounds which remember nothing keep of the values set. -/
theorem Through.set_kept {submits : Submits} {world world' : World} {allowed : Round → Prop}
    {deviceId : String} {device : ActiveDevice}
    (through : Through submits allowed world world')
    (forgets : ∀ values, ¬ allowed (.remembered deviceId values))
    (found : world.state.find deviceId = some device) :
    ∃ device', world'.state.find deviceId = some device' ∧ device'.spec = device.spec ∧
      device'.compensationSet = device.compensationSet := by
  let same : World → Prop := fun later => ∃ device', later.state.find deviceId = some device' ∧
    device'.spec = device.spec ∧ device'.compensationSet = device.compensationSet
  refine @Through.maintains _ _ _ _ _ _ same ?_ through ⟨device, found, rfl, rfl⟩
  rintro before round after permitted ⟨middle, foundMiddle, spec, set⟩ step
  obtain ⟨last, foundLast, effect⟩ := step.effect foundMiddle
  refine ⟨last, foundLast, effect.kept.spec.trans spec, ?_⟩
  rw [effect.kept.set fun values sets => forgets values (by rwa [← sets]), set]

variable [ProviderSdk]

/-- However a DO calibration has gone, and whatever came after it that set nothing: a
check which goes through leaves the probe with every value the calibration was to send
back exactly if the probe still has those which were never set when the check reads it. -/
theorem restored_by_check_iff {start called before after : World} {deviceId : String}
    {device : ActiveDevice} {args : ControlArgs} {calibrated status : Status}
    (reachable : (provider Line.Submitted).Reachable start)
    (found : start.state.find deviceId = some device) (family : device.spec.type = .dox)
    (calibrating : RoundStep Line.Submitted start
      (.controlled deviceId kFunctionCalibrate (jobArgs device kFunctionCalibrate args) calibrated)
      called)
    (between : Through Line.Submitted (fun round => ∀ values, round ≠ .remembered deviceId values)
      called before)
    (checking : RoundStep Line.Delivered before (.checked deviceId status) after)
    (powered : (after.line.bus device.spec.address).powerUps =
      (before.line.bus device.spec.address).powerUps) :
    ∃ started,
      FirstRead .dox device.spec.address device.compensationSet before.line after.line started ∧
      (before.line.Free Command.setsCompensation device.spec.address →
        started = (before.line.bus device.spec.address).holding) ∧
      (holdsAll (jobArgs device kFunctionCalibrate args).restore
          ((after.line.bus device.spec.address).holding.reading .dox).values = true ↔
        holdsAll (unsetValues device.compensationSet device.compensationRead.values)
          (started.reading .dox).values = true) := by
  have sound := sound_of_reachable reachable
  have restore : (jobArgs device kFunctionCalibrate args).restore =
      restoreValues device.compensationSet device.compensationRead.values := by
    simp [jobArgs, isDoCalibration, family]
  have through : Through Line.Submitted
      (fun round => ∀ values, round ≠ .remembered deviceId values) start before :=
    (Through.single calibrating (by simp)).trans between
  obtain ⟨checked, foundChecked, spec, set⟩ :=
    through.set_kept (fun values forgets => forgets values rfl) found
  have formed := through.wellFormed sound.toWellFormed
  have takes := formed.takes foundChecked
  obtain ⟨_, _, _, _, _, outcome⟩ := checkOutcome_of_step formed checking.submitted foundChecked
  rw [restore, holdsAll_restoreValues, Bool.and_eq_true]
  cases outcome with
  | failed failed => simp [isOk_of_delivered_check checking] at failed
  | checked ok _ _ _ _ left =>
      rw [spec, set, family] at left
      obtain ⟨started, first, untouched, effect⟩ := left.effect powered
      refine ⟨started, first, untouched, ?_⟩
      split at effect
      · next holds => rw [effect.1, holds]; simp
      · have sent : holdsAll device.compensationSet
            ((started.write device.compensationSet).reading .dox).values = true := by
          rw [spec, set, family] at takes
          exact @holdsAll_write _ _ .dox _ _ rfl takes started
        rw [effect.1, sent, holdsAll_unset_write]
        simp

end Recovery

section Canned

open CannedBus CannedProvider

/-- A probe which came up with its own compensation. -/
def heldCompensation : Holding := ⟨25, 0, .microsiemens, 100⟩

theorem restored_by_check_iff_canned :
    let healthy := products .dox fun _ => false
    let failing := products .dox fun
      | .send _ (.temperatureSet celsius _) => celsius = 25
      | _ => false
    let start := started healthy (oneDevice .dox)
      { holding := heldCompensation, powerUp := defaults }
    let args := jobArgs (probeDevice start) kFunctionCalibrate {}
    let called :=
      (play failing (executeSafeCall (probeDevice start) kFunctionCalibrate args 300) start).final
    let after := (play healthy (checkCompensation "probe") called).final
    ∃ held, FirstRead .dox 97 {} called.line after.line held ∧
      (called.line.Free Command.setsCompensation 97 → held = (called.line.bus 97).holding) ∧
      (holdsAll args.restore ((after.line.bus 97).holding.reading .dox).values = true ↔
        holdsAll (unsetValues {} (probeDevice start).compensationRead.values)
          (held.reading .dox).values = true) := by
  intro healthy failing start args called after
  have found : start.state.find "probe" = some (probeDevice start) :=
    found_probeDevice (by decide +kernel)
  have spec : (probeDevice start).spec = ⟨"probe", .dox, 97⟩ := by decide +kernel
  have set : (probeDevice start).compensationSet = {} := by decide +kernel
  obtain ⟨calibrated, _, calibrating⟩ := (executeRun_of_completes found
    (completes_play failing (executeSafeCall (probeDevice start) kFunctionCalibrate args 300)
      start)).step (by decide +kernel)
  obtain ⟨device', found', effect⟩ := calibrating.effect found
  have family : device'.spec.type = .dox := by rw [effect.kept.spec, spec]
  have delivered : Completes (World.environment Line.Delivered) (checkCompensation "probe") called
      (play healthy (checkCompensation "probe") called).value after :=
    delivered_play (by decide +kernel)
  have checking := (checkRun_of_completes delivered).step found' (by rw [family]; rfl)
    (by rw [family]; rfl)
  have recovered := restored_by_check_iff (reachable_started healthy .dox _) found (by rw [spec])
    calibrating .refl checking (by rw [spec]; decide +kernel)
  rw [spec, set] at recovered
  exact recovered

/-- The temperature was never set, and cannot be sent back: the next check goes through
and leaves the probe at the default. -/
theorem unset_temperature_stays_lost :
    let healthy := products .dox fun _ => false
    let failing := products .dox fun
      | .send _ (.temperatureSet celsius _) => celsius = 25
      | _ => false
    let before := started healthy (oneDevice .dox)
      { holding := heldCompensation, powerUp := defaults }
    let called := play failing (call "probe" kFunctionCalibrate pointArgs) before
    let checked := play healthy (checkCompensation "probe") called.final
    (provider Line.Submitted).Reachable before ∧
      (provider Line.Submitted).Step before
        (.call "probe" kFunctionCalibrate pointArgs called.value) called.final ∧
      Completes (World.environment Line.Delivered) (checkCompensation "probe") called.final
        checked.value checked.final ∧
      checked.value.isOk = true ∧
      (before.state.find "probe").map (fun device =>
        restoreValues device.compensationSet device.compensationRead.values) =
          some ⟨some 25, some 0, some 100⟩ ∧
      (before.line.bus 97).holding = heldCompensation ∧
      (checked.final.line.bus 97).holding = defaults ∧
      (checked.final.line.bus 97).powerUps = (before.line.bus 97).powerUps := by
  intro healthy failing before called checked
  refine ⟨reachable_started healthy .dox _, called_play failing "probe" kFunctionCalibrate pointArgs before,
    delivered_play (by decide +kernel), by decide +kernel, by decide +kernel, by decide +kernel,
    by decide +kernel, by decide +kernel⟩

end Canned

end EzoProvider.Runtime
