import EzoProvider.Devices.CannedBus
import EzoProvider.Devices.Waits
import EzoProvider.Runtime.Calls

/-!
# Deadlines

A submission has a deadline, sized by a formula of its own for each kind of job;
the waits of its job are the driver's. A call's deadline comes from the driver's
timing hints and covers them. A check's comes from `query_delay_us`, which says
nothing about them, and `timeout_ms`: a re-send to a DO probe can take longer.
-/

namespace EzoProvider

/-- What the schema admits of the fields a deadline is made of. -/
structure ProviderConfig.Timed (config : ProviderConfig) : Prop where
  delay : 1 ≤ config.queryDelayUs ∧ config.queryDelayUs ≤ 2147483647
  timeout : 1 ≤ config.timeoutMs ∧ config.timeoutMs ≤ 2147483647

namespace Runtime

open Interaction Program Devices

/-- The timing table of the driver, as it is documented. -/
structure DocumentedTiming [EzoDriver] : Prop where
  generic : ∀ product, product ≠ .unknown → EzoDriver.timingHint product .generic = some 300
  ph : EzoDriver.timingHint .ph .calibration = some 900
  dox : EzoDriver.timingHint .dox .calibration = some 1300

/-- A submission whose deadline is an `int`. -/
def CallerOp.InRange : CallerOp → Prop
  | .submit _ timeoutMs _ => 0 < timeoutMs ∧ timeoutMs < 2 ^ 31
  | _ => True

/-- A submission whose deadline covers what its job waits for on a device which runs normally. -/
def CallerOp.Covered : CallerOp → Prop
  | .submit _ timeoutMs job =>
      ∀ trace status, job.Runs trace status → waits.Admitted trace →
        (waits.total trace : Int) ≤ timeoutMs * 1000
  | _ => True

/-- The deadline of a check covers it: a DO probe with values set is sent a command for each,
and read twice. -/
def CheckFits (config : ProviderConfig) (device : ActiveDevice) : Prop :=
  device.spec.type = .dox → 0 < device.compensationSet.commands →
    300 * (6 + (device.compensationSet.commands : Int)) ≤
      max config.timeoutMs (9 * queryLatencyMs config + 1500)

theorem covered_of_costsAtMost {name : String} {timeoutMs : Int} {job : Job} {bound : Nat}
    (costs : job.CostsAtMost waits bound fun _ => True)
    (room : (bound : Int) ≤ timeoutMs * 1000) :
    (CallerOp.submit name timeoutMs job).Covered := by
  intro trace status run admitted
  have cost := (costs run admitted).1
  omega

theorem queryLatencyMs_bounds {config : ProviderConfig} (timed : config.Timed) :
    50 ≤ queryLatencyMs config ∧ queryLatencyMs config ≤ 2147483 := by
  have delay := timed.delay
  rw [queryLatencyMs, kMinQueryLatencyMs, Int.tdiv_eq_ediv_of_nonneg (by omega)]
  omega

/-! ## Calls -/

/-- What a call waits for, in microseconds. -/
def callWaits (functionId : Nat) (type : EzoDeviceType) : Nat :=
  if functionId = kFunctionCalibrate then if type = .dox then 3100000 else 900000
  else if functionId = kFunctionSetCompensation then 900000
  else 300000

/-- A calibration which passes its checks is one of a pH or a DO probe. -/
theorem calibrates_of_validated {type : EzoDeviceType} {args : ValueMap} {checked : ControlArgs}
    (validated : validateCallArgs kFunctionCalibrate type args = .ok checked) :
    type = .ph ∨ type = .dox := by
  cases type with
  | ph => exact .inl rfl
  | dox => exact .inr rfl
  | orp | ec | rtd | hum =>
      rw [validateCallArgs, if_neg (by decide), if_neg (by decide), if_pos rfl,
        validateCalibrateArgs] at validated
      split at validated
      · simp [calibrationPoints] at validated
        split at validated <;> cases validated
      · cases validated

/-- The command of a call other than a DO calibration waits as long as its function. -/
theorem waitMs_of_controlCommand {functionId : Nat} {type : EzoDeviceType} {args : ControlArgs}
    {product : EzoProduct} {command : Command}
    (chosen : controlCommand functionId type product args = some command) :
    command.waitMs = if functionId = kFunctionCalibrate then
      if type = .ph then 900 else 1300 else 300 := by
  rw [controlCommand] at chosen
  split at chosen
  · next find =>
      cases chosen
      rw [find]
      rfl
  split at chosen
  · next led =>
      cases chosen
      rw [led]
      rfl
  split at chosen
  · next sleep =>
      cases chosen
      rw [sleep]
      rfl
  split at chosen
  · next calibrate =>
      cases chosen
      rw [if_pos calibrate]
      split <;> rfl
  · next other =>
      rw [if_neg other]
      split at chosen
      · cases chosen
        rfl
      · cases chosen

section Calls

variable [EzoDriver]

theorem costsAtMost_callWriter (type : EzoDeviceType) (device : Address) (values : Compensation) :
    (callWriter (adapterFor type).writeCompensation device values).run.CostsAtMost waits 900000
      (Returning fun _ => True) := by
  cases writes : (adapterFor type).writeCompensation with
  | none => exact (costsAtMost_done ⟨(), rfl, trivial⟩).mono (Nat.zero_le _) fun _ => id
  | some writer =>
      apply (costsAtMost_writeCompensation writes device values).mono _ fun _ => id
      have three := writeCommands_le type values
      omega

theorem costsAtMost_sendDefaults (type : EzoDeviceType) (device : Address)
    (restore : Compensation) :
    (sendDefaults (adapterFor type).writeCompensation device restore).run.CostsAtMost waits 900000
      (Returning fun _ => True) := by
  apply (costsAtMost_callWriter type device defaultCompensation).bind_free
  rintro _ ⟨_, rfl, _⟩
  exact costsAtMost_done ⟨(), rfl, trivial⟩

theorem costsAtMost_sendControlCommand (type : EzoDeviceType) (device : Address)
    (functionId : Nat) (command : Command) (doCalibration : Bool) (restore : Compensation) :
    (sendControlCommand (adapterFor type).writeCompensation device functionId command doCalibration
      restore).run.CostsAtMost waits
        (command.waitMs * 1000 + if doCalibration then 900000 else 0) fun _ => True := by
  have restored : (ignoreStatus (callWriter (adapterFor type).writeCompensation device
      restore)).run.CostsAtMost waits 900000 (Returning fun _ => True) := by
    apply (costsAtMost_callWriter type device restore).bind_free
    intro _ _
    exact costsAtMost_done ⟨(), rfl, trivial⟩
  have command : (sendControlCommand (adapterFor type).writeCompensation device functionId command
      doCalibration restore).run.CostsAtMost waits (0 + (command.waitMs * 1000 +
        (0 + if doCalibration then 900000 else 0))) fun _ => True := by
    apply (costsAtMost_send device command _).exceptT_bind
    rintro _ rfl
    apply (costsAtMost_waitForTimingHint _).exceptT_lift_bind
    intro _ _
    split
    · exact (costsAtMost_done trivial).mono (Nat.zero_le _) fun _ => id
    apply (costsAtMost_readCommandResponse device).exceptT_lift_bind
    rintro _ rfl
    have checked : (checkStatus .success).run.CostsAtMost waits 0 (Returning fun _ => True) :=
      costsAtMost_checkStatus rfl
    split
    · exact restored.exceptT_bind fun _ _ => checked.mono (le_refl 0) fun _ _ => trivial
    · exact checked.mono (le_refl 0) fun _ _ => trivial
  exact command.mono (by omega) fun _ => id

/-- A call waits for the commands of its function. -/
theorem costsAtMost_callJob {functionId : Nat} {type : EzoDeviceType} (address : Address)
    (args : ControlArgs) (calibrates : functionId = kFunctionCalibrate → type = .ph ∨ type = .dox) :
    (callJob address functionId type args).CostsAtMost waits (callWaits functionId type)
      fun _ => True := by
  refine (@costsAtMost_concludes _ (0 + callWaits functionId type) (fun _ => True) ?_).mono
    (by omega) fun _ => id
  apply (costsAtMost_bindEzoI2cDevice address).exceptT_bind
  rintro device rfl
  split
  · next set =>
      have other : functionId ≠ kFunctionCalibrate := by
        rw [set]
        decide
      rw [callWaits, if_neg other, if_pos set]
      cases writes : (adapterFor type).writeCompensation with
      | none => exact (costsAtMost_done trivial).mono (Nat.zero_le _) fun _ => id
      | some write =>
          apply (costsAtMost_writeCompensation writes _ args.compensation).mono _ fun _ _ => trivial
          have three := writeCommands_le type args.compensation
          omega
  · next other =>
      rw [callWaits, if_neg other]
      dsimp only
      split
      · next both =>
          obtain ⟨calibrate, dox⟩ : functionId = kFunctionCalibrate ∧ type = .dox := by
            simpa using both
          rw [if_pos calibrate, if_pos dox]
          rw [show (3100000 : Nat) = 900000 + 2200000 from rfl]
          apply (costsAtMost_sendDefaults type device args.restore).exceptT_bind
          intro _ _
          cases chosen : controlCommand functionId type (adapterFor type).expectedProduct args with
          | none => exact (costsAtMost_done trivial).mono (Nat.zero_le _) fun _ => id
          | some command =>
              apply (costsAtMost_sendControlCommand type device functionId command _ _).mono _
                fun _ => id
              rw [waitMs_of_controlCommand chosen, if_pos calibrate, if_pos both, dox]
              decide
      · next single =>
          cases chosen : controlCommand functionId type (adapterFor type).expectedProduct args with
          | none => exact (costsAtMost_done trivial).mono (Nat.zero_le _) fun _ => id
          | some command =>
              apply (costsAtMost_sendControlCommand type device functionId command _ _).mono _
                fun _ => id
              rw [waitMs_of_controlCommand chosen, if_neg single]
              split
              · next calibrate =>
                  rcases calibrates calibrate with rfl | rfl
                  · decide
                  · exact absurd (by simp [calibrate]) single
              · decide

/-- The deadline of a call which passes its checks covers it. -/
theorem covered_executeSafeCall (timing : DocumentedTiming) {config : ProviderConfig}
    (timed : config.Timed) {device : ActiveDevice} {functionId : Nat} {args : ValueMap}
    {checked : ControlArgs}
    (validated : validateCallArgs functionId device.spec.type args = .ok checked)
    (jobArgs : ControlArgs) :
    (executeSafeCall device functionId jobArgs config.timeoutMs).Only fun op =>
      op.InRange ∧ op.Covered := by
  have calibrates : functionId = kFunctionCalibrate →
      device.spec.type = .ph ∨ device.spec.type = .dox := by
    rintro rfl
    exact calibrates_of_validated validated
  have timeout := timed.timeout
  rw [executeSafeCall]
  dsimp only
  split
  · trivial
  · next known =>
      have generic := timing.generic _ known
      split
      · next commandWait genericWait command same =>
          obtain rfl : genericWait = 300 := Option.some.inj (same.symm.trans generic)
          have own : commandWait = if functionId = kFunctionCalibrate then
              if device.spec.type = .dox then 1300 else 900 else 300 := by
            split
            · next calibrate =>
                rw [if_pos calibrate] at command
                rcases calibrates calibrate with ph | dox
                · rw [ph] at command ⊢
                  exact Option.some.inj (command.symm.trans timing.ph)
                · rw [dox] at command ⊢
                  exact Option.some.inj (command.symm.trans timing.dox)
            · next other =>
                rw [if_neg other] at command
                exact Option.some.inj (command.symm.trans generic)
          refine ⟨⟨⟨by omega, ?_⟩, covered_of_costsAtMost (costsAtMost_callJob _ _ calibrates) ?_⟩,
            fun _ => trivial⟩
          all_goals
            rw [own]
            by_cases calibrate : functionId = kFunctionCalibrate
            · by_cases dox : device.spec.type = .dox <;>
                simp [callWaits, extraCommands, isDoCalibration, kResponseHeadroomMs, calibrate,
                  dox, kFunctionCalibrate, kFunctionSetCompensation] <;> omega
            · by_cases set : functionId = kFunctionSetCompensation <;>
                simp [callWaits, extraCommands, isDoCalibration, kResponseHeadroomMs, calibrate,
                  set] <;> omega
      · trivial

end Calls

/-! ## Checks -/

/-- A reading which holds none of the values that are set. -/
def farReading (set : Compensation) : CompensationReading :=
  Do.readingOf (set.temperatureC.getD 0 + 1000) (set.salinityUsCm.getD 0 + 1000, .microsiemens)
    (set.pressureKpa.getD 0 + 1000)

theorem not_holdsAll_farReading {set : Compensation} (some : 0 < set.commands) :
    holdsAll set (farReading set).values = false := by
  obtain ⟨_ | _, _ | _, _ | _⟩ := set <;>
    simp_all [Compensation.commands, holdsAll, farReading, Do.readingOf, kTemperatureTolerance,
      kSalinityTolerance, kPressureTolerance] <;>
    norm_num

theorem holdsAll_of_commands {set : Compensation} (none : set.commands = 0)
    (values : Compensation) : holdsAll set values = true := by
  obtain ⟨_ | _, _ | _, _ | _⟩ := set <;> simp_all [Compensation.commands, holdsAll]

section Checks

variable [EzoDriver] {type : EzoDeviceType} {reader : Address → JobM CompensationReading}
  {writer : Address → Compensation → JobM Unit}

theorem costsAtMost_sendAgain (writes : (adapterFor type).writeCompensation = some writer)
    (device : Address) (set : Compensation) :
    (sendAgain writer device set).run.CostsAtMost waits
      ((if type = .dox then set.commands else 1) * 300000) (Returning fun _ => True) := by
  apply (costsAtMost_writeCompensation writes device set).bind_free
  rintro _ ⟨_, rfl, _⟩
  exact costsAtMost_done ⟨(), rfl, trivial⟩

/-- A check reads, and if a value is gone sends the values set and reads again. -/
theorem costsAtMost_compensationJob (reads : (adapterFor type).readCompensation = some reader)
    (writes : (adapterFor type).writeCompensation = some writer) (address : Address)
    (set : Compensation) :
    (compensationJob address set reader writer).CostsAtMost waits
      (if type = .dox ∧ 0 < set.commands then (6 + set.commands) * 300000 else 900000)
      fun _ => True := by
  let readCost : Nat := if type = .dox then 900000 else 300000
  let sendCost : Nat := if set.commands = 0 then 0 else
    (if type = .dox then set.commands else 1) * 300000 + (0 + (readCost + 0))
  refine (@costsAtMost_concludes _ (0 + (readCost + (0 + sendCost))) (fun _ => True) ?_).mono ?_
    fun _ => id
  · apply (costsAtMost_bindEzoI2cDevice address).exceptT_bind
    rintro device rfl
    apply (costsAtMost_readCompensation reads device).exceptT_bind
    intro reading _
    apply (costsAtMost_store _).exceptT_lift_bind
    intro _ _
    split
    · exact (costsAtMost_done trivial).mono (Nat.zero_le _) fun _ => id
    · next lost =>
        have some : set.commands ≠ 0 := fun none => lost (holdsAll_of_commands none _)
        simp only [sendCost, if_neg some]
        apply (costsAtMost_sendAgain writes device set).exceptT_bind
        intro _ _
        apply (costsAtMost_store _).exceptT_lift_bind
        intro _ _
        apply (costsAtMost_readCompensation reads device).exceptT_bind
        intro again _
        exact (costsAtMost_store _).exceptT_lift.mono (le_refl 0) fun _ _ => trivial
  · simp only [readCost, sendCost]
    by_cases dox : type = .dox <;> by_cases none : set.commands = 0 <;>
      (simp [dox, none, Nat.pos_iff_ne_zero]; try omega)

/-- A check of a DO probe which has lost a value can wait for every one of its commands. -/
theorem canCost_compensationJob (address : Address) {set : Compensation}
    (some : 0 < set.commands) :
    (compensationJob address set Do.readCompensation Do.writeCompensation).CanCost waits
      ((6 + set.commands) * 300000) .success := by
  have read : (Do.readCompensation address).run.CanCost waits 900000 (.ok (farReading set)) :=
    canCost_readCompensation address _ _ _
  have sent : (sendAgain Do.writeCompensation address set).run.CanCost waits
      (set.commands * 300000) (.ok ()) :=
    (canCost_writeCompensation address set).bind canCost_done (by omega)
  have rest : (do
      if holdsAll set (farReading set).values then return
      sendAgain Do.writeCompensation address set
      JobOp.issue (.store .reapplied)
      let again ← Do.readCompensation address
      JobOp.issue (.store (.reading again)) : JobM Unit).run.CanCost waits
        (set.commands * 300000 + 900000) (.ok ()) := by
    rw [not_holdsAll_farReading some]
    exact sent.exceptT_bind ((canCost_store _).exceptT_lift_bind
      (read.exceptT_bind (canCost_store _).exceptT_lift rfl) rfl) (by omega)
  apply canCost_concludes
  exact (canCost_bindEzoI2cDevice address).exceptT_bind (read.exceptT_bind
    ((canCost_store _).exceptT_lift_bind rest rfl) rfl) (by omega)

/-- The deadline of a check covers it exactly if a re-send fits in it. -/
theorem covered_checkCompensation_iff {state : RuntimeState} (timed : state.config.Timed)
    {deviceId : String} {device : ActiveDevice} (found : state.find deviceId = some device)
    {rest : Caller Status}
    (advance : (checkCompensation deviceId).Advances [⟨.locked id, state⟩] rest) :
    rest.Only CallerOp.InRange ∧ (rest.Only CallerOp.Covered ↔ CheckFits state.config device) := by
  have latency := queryLatencyMs_bounds timed
  have timeout := timed.timeout
  rcases advances_perform_iff.mp advance with ⟨impossible, _⟩ | ⟨_, _, split, onward⟩
  · cases impossible
  obtain ⟨same, rfl⟩ := List.cons.inj split
  cases same
  rw [advances_nil_iff.mp onward]
  simp only [Program.bind, found]
  split
  · next reader writer reads writes =>
      have records : ∀ {allowed : CallerOp → Prop}, (∀ change, allowed (.locked change)) →
          (∀ message, allowed (.warn message)) → ∀ reply : SubmitReply, (do
            let found ← changeDevice deviceId
              (recordCompensation reply.status reply.outputs.reading reply.outputs.reapplied)
            if (found.find deviceId).isNone then return unknownDevice
            if reply.outputs.reapplied then
              CallerOp.issue (.warn ("device '" ++ deviceId ++
                "' had lost its compensation, as after a power cut; sent the set values again"))
            return reply.status : Caller Status).Only allowed := by
        intro allowed locks warns reply
        refine only_bind ⟨locks _, fun _ => trivial⟩ fun found => ?_
        split
        · trivial
        · split
          · exact only_bind ⟨warns _, fun _ => trivial⟩ fun _ => trivial
          · trivial
      refine ⟨⟨⟨by omega, by omega⟩, records (fun _ => trivial) fun _ => trivial⟩, ?_⟩
      constructor
      · rintro ⟨covers, _⟩ dox some
        rw [dox] at reads writes
        cases reads
        cases writes
        obtain ⟨trace, run, admitted, cost⟩ := canCost_compensationJob device.spec.address some
        have covered := covers trace _ run admitted
        omega
      · intro fits
        refine ⟨covered_of_costsAtMost (costsAtMost_compensationJob reads writes _ _) ?_,
          records (fun _ => trivial) fun _ => trivial⟩
        split
        · next resends =>
            have enough := fits resends.1 resends.2
            omega
        · omega
  · next other =>
      refine ⟨trivial, fun _ dox => ?_, fun _ => trivial⟩
      have absent := other Do.readCompensation Do.writeCompensation
      rw [dox] at absent
      exact absurd rfl (fun same => absent same rfl)

/-- Every deadline is an `int`. That of a call covers what the call waits for on a device which
runs normally; that of a check does exactly if the probe is no DO probe, none of its values is
set, or the re-send of those that are fits in it. -/
theorem deadlines_cover_iff (timing : DocumentedTiming) {state : RuntimeState}
    (timed : state.config.Timed) {deviceId : String} {device : ActiveDevice}
    (found : state.find deviceId = some device) :
    (∀ functionId args checked,
      validateCallArgs functionId device.spec.type args = .ok checked →
        (executeSafeCall device functionId (jobArgs device functionId checked)
          state.config.timeoutMs).Only fun op => op.InRange ∧ op.Covered) ∧
      ∀ rest, (checkCompensation deviceId).Advances [⟨.locked id, state⟩] rest →
        rest.Only CallerOp.InRange ∧
          (rest.Only CallerOp.Covered ↔ CheckFits state.config device) := by
  constructor
  · intro functionId args checked validated
    exact covered_executeSafeCall timing timed validated _
  · intro rest advance
    exact covered_checkCompensation_iff timed found advance

end Checks

section Documented

open CannedBus

/-- A driver with the documented timing table. -/
@[reducible] def documentedDriver : EzoDriver where
  resultName := driver.resultName
  familyName := driver.familyName
  timingHint
    | .ph, .calibration => some 900
    | _, .calibration => some 1300
    | _, .generic => some 300

theorem documentedTiming : @DocumentedTiming documentedDriver :=
  @DocumentedTiming.mk documentedDriver (by rintro (_ | _) _ <;> rfl) rfl rfl

/-- A DO probe which has been set to 20 degrees. -/
def setProbe : ActiveDevice where
  spec := { id := "probe", type := .dox, address := 97 }
  compensationSet := { temperatureC := some 20 }

/-- That probe, under a configuration with the shortest delay and timeout. -/
def hastyState : RuntimeState where
  config := { queryDelayUs := 1, timeoutMs := 1 }
  activeDevices := [setProbe]

theorem timed_hastyState : hastyState.config.Timed := by
  constructor <;> decide

theorem deadlines_cover_iff_documented :
    ((@executeSafeCall documentedDriver setProbe kFunctionSleep {} 1).Only fun op =>
      op.InRange ∧ op.Covered) ∧
      ∀ rest, (@checkCompensation documentedDriver "probe").Advances
        [⟨.locked id, hastyState⟩] rest → rest.Only CallerOp.InRange ∧
          (rest.Only CallerOp.Covered ↔ CheckFits hastyState.config setProbe) := by
  obtain ⟨calls, checks⟩ :=
    @deadlines_cover_iff documentedDriver documentedTiming hastyState timed_hastyState "probe"
      setProbe rfl
  exact ⟨calls kFunctionSleep ⟨[], .nil⟩ {} rfl, checks⟩

/-- A check of that probe is given 1950 ms; with a re-send it waits for 2100 ms. -/
theorem resend_outlasts_deadline :
    hastyState.config.Timed ∧ ∃ name timeoutMs job next trace status,
      (@checkCompensation documentedDriver "probe").Advances [⟨.locked id, hastyState⟩]
        (.perform (.submit name timeoutMs job) next) ∧
      timeoutMs = 1950 ∧ job.Runs trace status ∧ waits.Admitted trace ∧
      waits.total trace = 2100000 := by
  have some : 0 < ({ temperatureC := some 20 } : Compensation).commands := by decide
  obtain ⟨trace, run, admitted, cost⟩ := @canCost_compensationJob documentedDriver 97 _ some
  exact ⟨timed_hastyState, _, _, _, _, trace, _, .perform .refl, rfl, run, admitted, cost⟩

end Documented

end Runtime
end EzoProvider
