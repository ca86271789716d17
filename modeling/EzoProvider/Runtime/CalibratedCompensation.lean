import EzoProvider.Runtime.RestoreRecovery

/-!
# What a DO calibration leaves of the compensation

With every operation of the call succeeding, the probe ends up at the default
compensation overwritten with what is sent back: the value set, else the value
last read, else nothing. That is what it held before for the values set, and for
the others as far as the value last read is still right.
-/

namespace EzoProvider.Runtime

open Interaction Program Environment Devices TransitionSystem

section Values

variable [DecimalText]

/-! ## What is preserved -/

/-- The probe holds the values set, as they are sent, and otherwise what it held, up to
the decimals of its replies. -/
structure Preserved (set : Compensation) (before after : Holding) : Prop where
  temperature : match set.temperatureC with
    | some value => after.temperatureC = DecimalText.sent.round 2 value
    | none => |after.temperatureC - before.temperatureC| ≤ 1 / 20
  salinity : match set.salinityUsCm with
    | some value => after.salinityUnit = .microsiemens ∧
        after.salinity = DecimalText.sent.round 1 value
    | none => after.salinityUnit = before.salinityUnit ∧
        |after.salinity - before.salinity| ≤ 1 / 2
  pressure : match set.pressureKpa with
    | some value => after.pressureKpa = DecimalText.sent.round 2 value
    | none => |after.pressureKpa - before.pressureKpa| ≤ 1 / 20

/-- Of each value not set, the probe holds the one last read, or the default if none is
known; its salinity is in microsiemens. -/
structure Restorable (set read : Compensation) (held : Holding) : Prop where
  temperature : set.temperatureC = none → |DecimalText.sent.round 2
    (read.temperatureC.getD kDoDefaultTemperatureC) - held.temperatureC| ≤ 1 / 20
  salinity : set.salinityUsCm = none → held.salinityUnit = .microsiemens ∧
    |DecimalText.sent.round 1 (read.salinityUsCm.getD kDoDefaultSalinityUsCm) - held.salinity| ≤
      1 / 2
  pressure : set.pressureKpa = none → |DecimalText.sent.round 2
    (read.pressureKpa.getD kDoDefaultPressureKpa) - held.pressureKpa| ≤ 1 / 20

/-- What the probe holds of values sent over the defaults. -/
theorem write_restoreValues (set read : Compensation) :
    defaultHolding.write (restoreValues set read) =
      { temperatureC := DecimalText.sent.round 2
          ((set.temperatureC <|> read.temperatureC).getD kDoDefaultTemperatureC)
        salinity := DecimalText.sent.round 1
          ((set.salinityUsCm <|> read.salinityUsCm).getD kDoDefaultSalinityUsCm)
        salinityUnit := .microsiemens
        pressureKpa := DecimalText.sent.round 2
          ((set.pressureKpa <|> read.pressureKpa).getD kDoDefaultPressureKpa) } := by
  have defaults := write_defaultCompensation defaultHolding
  have replaced : ∀ {decimals : Nat} {default : ℚ} (value : Option ℚ),
      DecimalText.sent.round decimals default = default →
      value.elim default (DecimalText.sent.round decimals) =
        DecimalText.sent.round decimals (value.getD default) := by
    rintro decimals default (_ | value) exact
    · exact exact.symm
    · rfl
  rw [Holding.write, Holding.mk.injEq]
  refine ⟨replaced _ (congrArg Holding.temperatureC defaults),
    replaced _ (congrArg Holding.salinity defaults), ite_self _,
    replaced _ (congrArg Holding.pressureKpa defaults)⟩

theorem preserved_write_iff {set read : Compensation} {before : Holding} :
    Preserved set before (defaultHolding.write (restoreValues set read)) ↔
      Restorable set read before := by
  rw [write_restoreValues]
  obtain ⟨temperatureSet, salinitySet, pressureSet⟩ := set
  constructor
  · rintro ⟨keptTemperature, keptSalinity, keptPressure⟩
    refine ⟨?_, ?_, ?_⟩
    · rintro rfl
      exact keptTemperature
    · rintro rfl
      exact ⟨keptSalinity.1.symm, keptSalinity.2⟩
    · rintro rfl
      exact keptPressure
  · rintro ⟨restoredTemperature, restoredSalinity, restoredPressure⟩
    refine ⟨?_, ?_, ?_⟩
    · cases temperatureSet with
      | some value => rfl
      | none => exact restoredTemperature rfl
    · cases salinitySet with
      | some value => exact ⟨rfl, rfl⟩
      | none => exact ⟨(restoredSalinity rfl).1.symm, (restoredSalinity rfl).2⟩
    · cases pressureSet with
      | some value => rfl
      | none => exact restoredPressure rfl

/-- A probe which holds what was last read, with its salinity in microsiemens, can be
restored whatever was set. -/
theorem restorable_of_reading (set : Compensation) {held : Holding}
    (unit : held.salinityUnit = .microsiemens) :
    Restorable set (held.reading .dox).values held := by
  have sendsReported : ∀ {fewer decimals : Nat} (_ : fewer ≤ decimals) (value : ℚ),
      |DecimalText.sent.round decimals (DecimalText.reported.round fewer value) - value| ≤
        1 / (2 * 10 ^ fewer) := by
    intro fewer decimals enough value
    obtain ⟨units, decimal⟩ := DecimalText.reported.decimal fewer value
    rw [decimal, DecimalText.sent.exact_of_decimal enough, ← decimal]
    exact DecimalText.reported.near fewer value
  rw [values_reading, if_pos unit]
  refine ⟨fun _ => ?_, fun _ => ⟨unit, ?_⟩, fun _ => ?_⟩
  · exact (sendsReported (by decide : 1 ≤ 2) held.temperatureC).trans (by norm_num)
  · exact (sendsReported (by decide : 0 ≤ 1) held.salinity).trans (by norm_num)
  · exact (sendsReported (by decide : 1 ≤ 2) held.pressureKpa).trans (by norm_num)

end Values

section Job

variable [EzoDriver] [DecimalText]

/-! ## The job -/

/-- A job of the calibration all of whose operations succeed sends everything back. -/
theorem holding_of_delivered_calibration {line line' : Line} {name : String} {timeoutMs : Int}
    {address : Address} {args : ControlArgs} {reply : SubmitReply}
    (delivered : line.Delivered name timeoutMs (callJob address kFunctionCalibrate .dox args) reply
      line')
    (powered : (line'.bus address).powerUps = (line.bus address).powerUps) :
    (line'.bus address).holding = defaultHolding.write args.restore ∧
      line'.Free Command.setsCompensation address := by
  obtain ⟨cleared, ended, bus, trace, _, clear, run, succeeds, _, path, drift, rfl⟩ := delivered
  have calibration := doCalibrationRun_of_runs run
  generalize reply.status = status at calibration
  have writing := @reliable_writeCompensation _ .dox address
  cases calibration with
  | unbound =>
      obtain ⟨_, impossible, _⟩ := succeeds_cons_iff.mp succeeds
      cases impossible
  | defaultsFailed failed =>
      obtain ⟨_, _, rest⟩ := succeeds_cons_iff.mp succeeds
      obtain ⟨tried, _⟩ := succeeds_of_append rest
      obtain ⟨_, impossible⟩ := (writing rfl).works _ _ _ failed tried
      cases impossible
  | unsent result accepted =>
      obtain ⟨_, _, rest⟩ := succeeds_cons_iff.mp succeeds
      obtain ⟨_, _, last⟩ := succeeds_of_append rest
      obtain ⟨_, impossible, _⟩ := succeeds_cons_iff.mp last
      cases impossible
  | @answered defaults waits reads restoring hint response outcome accepted waited read restored =>
      have sentBack : outcome = .ok () := by
        obtain ⟨_, _, afterBind⟩ := succeeds_cons_iff.mp succeeds
        obtain ⟨_, _, afterDefaults⟩ := succeeds_of_append afterBind
        obtain ⟨_, _, afterSend⟩ := succeeds_cons_iff.mp afterDefaults
        obtain ⟨_, _, afterWaits⟩ := succeeds_of_append afterSend
        obtain ⟨_, _, afterReads⟩ := succeeds_of_append afterWaits
        obtain ⟨_, rfl⟩ := (writing rfl).works _ _ _ restored afterReads
        rfl
      subst sentBack
      obtain ⟨bound, bind, afterBind⟩ := path_cons_iff.mp path
      obtain ⟨set, setPath, afterDefaults⟩ := path_append_iff.mp afterBind
      have split : (⟨.send address (.doCalibration args.calibrationPoint), .ok hint⟩ ::
          (waits ++ (reads ++ restoring)) : JobTrace) =
            (⟨.send address (.doCalibration args.calibrationPoint), .ok hint⟩ ::
              (waits ++ reads)) ++ restoring := by simp
      rw [split] at afterDefaults
      obtain ⟨answered, sendPath, restorePath⟩ := path_append_iff.mp afterDefaults
      have one := (clear.later address).powerUps
      have two := (Probe.later_of_path (.cons bind .nil) address).powerUps
      have three := (Probe.later_of_path setPath address).powerUps
      have four := (Probe.later_of_path sendPath address).powerUps
      have five := (Probe.later_of_path restorePath address).powerUps
      have six := (Probe.later_of_drift drift address).powerUps
      dsimp only at powered
      obtain ⟨default, quiet⟩ := holding_of_defaultsAccepted accepted setPath (by omega)
      have calibrates : ∀ {command answer}, ⟨.send address command, answer⟩ ∈
          (⟨.send address (.doCalibration args.calibrationPoint), .ok hint⟩ ::
            (waits ++ reads) : JobTrace) → command.setsCompensation = false := by
        intro command answer member
        rcases List.mem_cons.mp member with same | member
        · cases same
          rfl
        · rcases List.mem_append.mp member with wait | reading
          · obtain ⟨_, same⟩ := runs_waitForTimingHint waited _ wait
            cases same
          · have only : (readCommandResponse address).Only (JobOp.Within address fun _ => False) :=
              only_readCommandResponse
            exact ((only.advances read).1 _ reading).2.elim
      have steady := Probe.steady_of_path sendPath quiet calibrates
      obtain ⟨held, stillQuiet⟩ := steady.held (by omega)
      have changed := @Probe.changed_of_writeCompensation _ _ _ _ _ _ .dox _ args.restore rfl
        (by simp) restored restorePath (by omega)
      have afterQuiet := changed.quiet stillQuiet
      obtain ⟨holding, written, unchanged⟩ := changed.held
      obtain ⟨drifted, finalQuiet⟩ := (Probe.steady_of_drift drift afterQuiet).held (by omega)
      refine ⟨?_, finalQuiet, fun job left => by simp at left⟩
      rw [drifted, written, unchanged stillQuiet, held, default]

/-! ## The calls of a run -/

/-- The values set once an operation has returned: those of a `set_compensation` which
returned ok go over those set before. -/
def afterOperation (deviceId : String) (type : EzoDeviceType) (set : Compensation) :
    Operation → Compensation
  | .call id functionId args result =>
      if id = deviceId ∧ functionId = kFunctionSetCompensation ∧ result.ok then
        match validateCallArgs functionId type args with
        | .ok checked => restoreValues checked.compensation set
        | .error _ => set
      else set
  | _ => set

/-- The values last set successfully, field by field, in a run of operations. -/
def valuesSet (deviceId : String) (type : EzoDeviceType) (operations : List Operation) :
    Compensation :=
  operations.foldl (afterOperation deviceId type) {}

section Calls

variable {submits : Submits} {world world' : World} {deviceId : String} {device : ActiveDevice}

/-- A `set_compensation` which returned ok has its values remembered. -/
theorem set_of_call {args : ValueMap} {result : AdapterCallResult} (ok : result.ok = true)
    (found : world.state.find deviceId = some device)
    (run : CallRun submits deviceId kFunctionSetCompensation args world result world') :
    ∃ checked device',
      validateCallArgs kFunctionSetCompensation device.spec.type args = .ok checked ∧
      world'.state.find deviceId = some device' ∧ device'.spec = device.spec ∧
      device'.compensationSet = restoreValues checked.compensation device.compensationSet := by
  cases run with
  | unknownDevice | unknownFunction => cases ok
  | refused _ _ refused =>
      have failed := refuses_validateCallArgs _ _ _ _ refused
      simp [failed] at ok
  | @performed other function checked _ _ foundOther declared accepted performed =>
      cases foundOther.symm.trans found
      refine ⟨checked, ?_⟩
      cases performed with
      | plain unread => simp [readsBackCompensation] at unread
      | readBack _ executed remembering checking concluded =>
          have foundThen := executed.found found
          cases remembering with
          | skipped not => rcases not with failed | other <;> simp_all
          | remembered _ _ step =>
              obtain ⟨middle, foundMiddle, effect⟩ := step.effect foundThen
              have tail : Through submits (fun round => ∀ values,
                  round ≠ .remembered deviceId values) _ world' :=
                (checking.through (by simp)).trans (concluded.through (by simp) (by simp))
              obtain ⟨device', found', spec, set⟩ :=
                tail.set_kept (fun values forgets => forgets values rfl) foundMiddle
              refine ⟨device', accepted, found', spec.trans effect.kept.spec, ?_⟩
              rw [set]
              cases effect with
              | remembered => rfl
              | elsewhere other => exact absurd rfl other

variable [ProviderSdk]

/-- What an operation leaves of the values set. -/
theorem ProviderStep.set {operation : Operation}
    (step : ProviderStep submits world operation world')
    (found : world.state.find deviceId = some device) :
    ∃ device', world'.state.find deviceId = some device' ∧ device'.spec = device.spec ∧
      device'.compensationSet =
        afterOperation deviceId device.spec.type device.compensationSet operation := by
  by_cases sets : ∃ args result, operation = .call deviceId kFunctionSetCompensation args result ∧
      result.ok = true
  · obtain ⟨args, result, rfl, ok⟩ := sets
    cases step with
    | call completes =>
        obtain ⟨checked, device', accepted, found', spec, set⟩ :=
          set_of_call ok found (callRun_of_completes completes)
        exact ⟨device', found', spec, by simp [afterOperation, ok, accepted, set]⟩
  · have same : afterOperation deviceId device.spec.type device.compensationSet operation =
        device.compensationSet := by
      cases operation with
      | call id functionId args result =>
          refine if_neg ?_
          rintro ⟨rfl, rfl, ok⟩
          exact sets ⟨args, result, rfl, ok⟩
      | _ => rfl
    rw [same]
    refine step.through.set_kept (fun values permitted => ?_) found
    cases operation with
    | call id functionId args result =>
        obtain ⟨here, rfl, ok⟩ := permitted
        obtain rfl := Option.some.inj here
        exact sets ⟨args, result, rfl, ok⟩
    | refresh | read =>
        obtain ⟨_, impossible | impossible⟩ := permitted <;> cases impossible
    | readLevel | check =>
        obtain ⟨_, impossible⟩ := permitted
        cases impossible
    | wait => cases permitted

/-- Nothing has been set when `initialize` returns. -/
theorem set_of_initialized {config : ProviderConfig}
    (initialized : Initialized submits config world)
    (found : world.state.find deviceId = some device) : device.compensationSet = {} := by
  obtain ⟨valid, bus, completes⟩ := initialized
  rcases published_of_initialize completes with none | ⟨probes, start, covered, published, reads⟩
  · simp [RuntimeState.find, none] at found
  · obtain ⟨formed, fresh⟩ := wellFormed_of_published valid covered published
    have through := through_of_startupReadsOf reads
    obtain ⟨first, foundFirst, _⟩ := through.foundBefore formed found
    obtain ⟨last, foundLast, _, set⟩ := through.set_kept (fun values reads => by
      obtain ⟨_, _, same | same | same⟩ := reads <;> cases same) foundFirst
    cases foundLast.symm.trans found
    rw [set, (fresh foundFirst).set]

/-- The values set are those last set successfully in the run. -/
theorem set_of_steps {initial : World} {labels : List Operation}
    (valid : (provider submits).Initial initial)
    (run : (provider submits).Steps initial labels world)
    (found : world.state.find deviceId = some device) :
    device.compensationSet = valuesSet deviceId device.spec.type labels := by
  have sound : initial.Sound := sound_of_reachable (.initial valid)
  induction run generalizing device with
  | refl =>
      obtain ⟨config, initialized⟩ := valid
      exact set_of_initialized initialized found
  | @step _ middle operation last prior transition ih =>
      have formed := (through_of_steps prior fun _ _ _ _ => trivial).wellFormed sound.toWellFormed
      obtain ⟨before, foundBefore, spec⟩ :=
        (ProviderStep.through transition).foundBefore formed found
      obtain ⟨after, foundAfter, _, set⟩ := ProviderStep.set transition foundBefore
      cases foundAfter.symm.trans found
      rw [set, ih foundBefore, spec, valuesSet, valuesSet, List.foldl_append]
      rfl

end Calls

/-! ## What the calibration call leaves -/

section Calibration

variable [ProviderSdk] {before after : World} {deviceId : String} {device : ActiveDevice}
  {args : ValueMap} {checked : ControlArgs} {function : FunctionSpec} {result : AdapterCallResult}

/-- After a DO calibration call all of whose operations succeeded the probe holds the
defaults overwritten with the values set, or else with those last read. -/
theorem holding_of_calibration_call (reachable : (provider Line.Submitted).Reachable before)
    (found : before.state.find deviceId = some device) (family : device.spec.type = .dox)
    (timed : Timed .dox) (declared : findFunctionById device kFunctionCalibrate = some function)
    (accepted : validateCallArgs kFunctionCalibrate .dox args = .ok checked)
    (called : Completes (World.environment Line.Delivered) (call deviceId kFunctionCalibrate args)
      before result after)
    (powered : (after.line.bus device.spec.address).powerUps =
      (before.line.bus device.spec.address).powerUps) :
    (after.line.bus device.spec.address).holding =
      defaultHolding.write (restoreValues device.compensationSet device.compensationRead.values) := by
  have formed := (sound_of_reachable reachable).toWellFormed
  obtain ⟨check, controlled, remembered, readBack, executed, remembering, checking, concluded⟩ :=
    readBack_of_call found declared (by rw [family]; exact accepted) (by rw [family]; rfl)
      (callRun_of_completes called)
  obtain ⟨status, control⟩ := executed.served found (by rw [family]; exact timed)
  cases remembering with
  | remembered _ sets => cases sets
  | skipped =>
      have foundThen := executed.found found
      have formedThen := control.wellFormed formed
      have checkStep := checking.step foundThen (by rw [family]; rfl) (by rw [family]; rfl)
      have quietEnd : Through Line.Submitted (Round.Quiet deviceId) readBack after :=
        concluded.quiet.submitted
      have one := (control.submitted.later device.spec.address).powerUps
      have two := (checkStep.submitted.later device.spec.address).powerUps
      have three := (quietEnd.later device.spec.address).powerUps
      have kept : (controlled.line.bus device.spec.address).powerUps =
          (before.line.bus device.spec.address).powerUps := by omega
      have restore : (jobArgs device kFunctionCalibrate checked).restore =
          restoreValues device.compensationSet device.compensationRead.values := by
        simp [jobArgs, isDoCalibration, family]
      obtain ⟨sentBack, free⟩ : (controlled.line.bus device.spec.address).holding =
          defaultHolding.write
            (restoreValues device.compensationSet device.compensationRead.values) ∧
          controlled.line.Free Command.setsCompensation device.spec.address := by
        cases control with
        | controlled foundOther delivered =>
            cases foundOther.symm.trans found
            rw [family] at delivered
            rw [← restore]
            exact holding_of_delivered_calibration delivered kept
      obtain ⟨middle, foundMiddle, specMiddle, _, _, outcome⟩ :=
        checkOutcome_of_step formedThen checkStep.submitted foundThen
      cases outcome with
      | failed failed => simp [isOk_of_delivered_check checkStep] at failed
      | checked _ _ _ _ _ left =>
          have stayed := quietEnd.quiet (checkStep.submitted.wellFormed formedThen)
            (fun _ quiet => quiet) foundMiddle (by rw [specMiddle]; exact left.quiet)
          rw [specMiddle] at stayed
          rw [family] at left
          obtain ⟨started, _, untouched, effect⟩ := left.effect (by omega)
          -- What was sent back holds the values set, so the check sends nothing.
          have holds : holdsAll device.compensationSet (started.reading .dox).values = true := by
            have all := @holdsAll_write _ _ .dox
              (restoreValues device.compensationSet device.compensationRead.values) _ rfl
              (fun impossible => by cases impossible) defaultHolding
            rw [holdsAll_restoreValues, Bool.and_eq_true] at all
            rw [untouched free, sentBack]
            exact all.1
          rw [if_pos holds] at effect
          rw [stayed.2 (by omega), effect.1, untouched free, sentBack]

end Calibration

/-! ## The condition -/

/-- With every operation of a DO calibration call succeeding, the probe ends up with the
values last set and otherwise what it held exactly if what is known of the others, or the
default, is what it holds. -/
theorem calibration_preserves_iff [ProviderSdk] {initial before after : World}
    {labels : List Operation} {deviceId : String} {device : ActiveDevice} {args : ValueMap}
    {checked : ControlArgs} {function : FunctionSpec} {result : AdapterCallResult}
    (valid : (provider Line.Submitted).Initial initial)
    (run : (provider Line.Submitted).Steps initial labels before)
    (found : before.state.find deviceId = some device) (family : device.spec.type = .dox)
    (timed : Timed .dox) (declared : findFunctionById device kFunctionCalibrate = some function)
    (accepted : validateCallArgs kFunctionCalibrate .dox args = .ok checked)
    (called : Completes (World.environment Line.Delivered) (call deviceId kFunctionCalibrate args)
      before result after)
    (powered : (after.line.bus device.spec.address).powerUps =
      (before.line.bus device.spec.address).powerUps) :
    Preserved (valuesSet deviceId .dox labels) (before.line.bus device.spec.address).holding
        (after.line.bus device.spec.address).holding ↔
      Restorable (valuesSet deviceId .dox labels) device.compensationRead.values
        (before.line.bus device.spec.address).holding := by
  have set := set_of_steps valid run found
  rw [family] at set
  rw [holding_of_calibration_call ⟨initial, labels, valid, run⟩ found family timed declared accepted
    called powered, set]
  exact preserved_write_iff

end Job

section Canned

open CannedBus CannedProvider

theorem calibration_preserves_iff_canned :
    let healthy := products .dox fun _ => false
    let before := started healthy (oneDevice .dox)
      { holding := heldCompensation, powerUp := defaults }
    let after := (play healthy (call "probe" kFunctionCalibrate pointArgs) before).final
    Preserved {} heldCompensation (after.line.bus 97).holding ↔
      Restorable {} (probeDevice before).compensationRead.values heldCompensation := by
  intro healthy before after
  have found : before.state.find "probe" = some (probeDevice before) :=
    found_probeDevice (by decide +kernel)
  have spec : (probeDevice before).spec = ⟨"probe", .dox, 97⟩ := by decide +kernel
  have held : (before.line.bus 97).holding = heldCompensation := by decide +kernel
  obtain ⟨function, declared⟩ := Option.isSome_iff_exists.mp
    (show (findFunctionById (probeDevice before) kFunctionCalibrate).isSome = true by
      decide +kernel)
  have delivered : Completes (World.environment Line.Delivered)
      (call "probe" kFunctionCalibrate pointArgs) before _ after :=
    delivered_play (by decide +kernel)
  have preserves := calibration_preserves_iff
    ⟨_, initialized_started healthy (valid_oneDevice .dox) _⟩ Steps.refl found (by rw [spec])
    ⟨by decide, by rintro (_ | _) <;> rfl⟩ declared rfl delivered (by rw [spec]; decide +kernel)
  rw [spec, held] at preserves
  exact preserves

/-- A probe whose salinity is in ppt is left with the default salinity, in microsiemens. -/
theorem ppt_salinity_lost :
    let healthy := products .dox fun _ => false
    let before := started healthy (oneDevice .dox)
      { holding := ⟨25, 35, .ppt, 100⟩, powerUp := defaults }
    let called := play healthy (call "probe" kFunctionCalibrate pointArgs) before
    (provider Line.Submitted).Initial before ∧
      (before.state.find "probe").map (fun device => (device.spec.type, device.compensationSet)) =
        some (.dox, {}) ∧
      Completes (World.environment Line.Delivered) (call "probe" kFunctionCalibrate pointArgs) before
        called.value called.final ∧
      called.value.ok = true ∧
      (called.final.line.bus 97).powerUps = (before.line.bus 97).powerUps ∧
      (before.line.bus 97).holding = ⟨25, 35, .ppt, 100⟩ ∧
      (called.final.line.bus 97).holding = ⟨25, 0, .microsiemens, 100⟩ ∧
      ¬ Preserved (valuesSet "probe" .dox []) (before.line.bus 97).holding
        (called.final.line.bus 97).holding := by
  intro healthy before called
  have held : (before.line.bus 97).holding = ⟨25, 35, .ppt, 100⟩ := by decide +kernel
  have left : (called.final.line.bus 97).holding = ⟨25, 0, .microsiemens, 100⟩ := by
    decide +kernel
  refine ⟨⟨_, initialized_started healthy (valid_oneDevice .dox) _⟩, by decide +kernel,
    delivered_play (by decide +kernel), by decide +kernel, by decide +kernel, held, left, ?_⟩
  rintro ⟨_, ⟨unit, _⟩, _⟩
  rw [held, left] at unit
  cases unit

end Canned

end EzoProvider.Runtime
