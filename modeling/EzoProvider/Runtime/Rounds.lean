import EzoProvider.Interaction.Transition
import EzoProvider.Runtime.Calls
import EzoProvider.Runtime.World

/-!
# The rounds of the operations

Every operation of the runtime is a few rounds: a job is submitted and its
outcome recorded, or something is written down. `RoundStep` lists them with all
they do to the world; the run of each operation is taken apart into them here,
once, and no later proof looks into its code.
-/

namespace EzoProvider.Runtime

open Interaction Program Devices

/-- A round, of the device with this id. -/
inductive Round where
  | sampled (deviceId : String) (status : Status)
  | levelRead (deviceId : String) (status : Status)
  | checked (deviceId : String) (status : Status)
  | controlled (deviceId : String) (functionId : Nat) (args : ControlArgs) (status : Status)
  | remembered (deviceId : String) (values : Compensation)
  | recorded (deviceId : String) (functionName : String) (ok : Bool) (message : String)
  | passed

variable [EzoDriver] [DecimalText]

/-- What a round does. -/
inductive RoundStep (submits : Submits) (world : World) : Round → World → Prop where
  | sampled {deviceId : String} {device : ActiveDevice} {reply : SubmitReply} {line : Line}
      {now nowSteady : Int} (found : world.state.find deviceId = some device)
      (submitted : submits world.line ("sample:" ++ deviceId)
        (max world.state.config.timeoutMs (queryLatencyMs world.state.config + 1500))
        (sampleJob device.spec) reply line)
      (later : world.clock ≤ nowSteady) :
      RoundStep submits world (.sampled deviceId reply.status)
        { state := world.state.update deviceId
            (recordSample world.state.config deviceId reply.status reply.outputs.signals now
              nowSteady)
          line, clock := nowSteady }
  | levelRead {deviceId : String} {device : ActiveDevice} {reader : Address → JobM ℚ}
      {reply : SubmitReply} {line : Line} (found : world.state.find deviceId = some device)
      (adapted : (adapterFor device.spec.type).readCalibrationLevel = some reader)
      (submitted : submits world.line ("calibration-level:" ++ deviceId)
        (max world.state.config.timeoutMs (queryLatencyMs world.state.config + 1500))
        (calibrationLevelJob device.spec.address reader) reply line) :
      RoundStep submits world (.levelRead deviceId reply.status)
        { world with
          state := world.state.update deviceId
            (recordCalibrationLevel reply.status reply.outputs.level)
          line }
  | checked {deviceId : String} {device : ActiveDevice}
      {reader : Address → JobM CompensationReading}
      {writer : Address → Compensation → JobM Unit} {reply : SubmitReply} {line : Line}
      (found : world.state.find deviceId = some device)
      (reads : (adapterFor device.spec.type).readCompensation = some reader)
      (writes : (adapterFor device.spec.type).writeCompensation = some writer)
      (submitted : submits world.line ("compensation:" ++ deviceId)
        (max world.state.config.timeoutMs (9 * queryLatencyMs world.state.config + 1500))
        (compensationJob device.spec.address device.compensationSet reader writer) reply line) :
      RoundStep submits world (.checked deviceId reply.status)
        { world with
          state := world.state.update deviceId
            (recordCompensation reply.status reply.outputs.reading reply.outputs.reapplied)
          line }
  | controlled {deviceId : String} {device : ActiveDevice} {functionId : Nat} {args : ControlArgs}
      {timeoutMs : Int} {reply : SubmitReply} {line : Line}
      (found : world.state.find deviceId = some device)
      (submitted : submits world.line ("call:" ++ toString functionId ++ ":" ++ device.spec.id)
        timeoutMs (callJob device.spec.address functionId device.spec.type args) reply line) :
      RoundStep submits world (.controlled deviceId functionId args reply.status)
        { world with line }
  | remembered {deviceId : String} {values : Compensation}
      (taken : ∀ device, world.state.find deviceId = some device →
        Takes device.spec.type values) :
      RoundStep submits world (.remembered deviceId values)
        { world with state := world.state.update deviceId (rememberValues values) }
  | recorded {deviceId functionName message : String} {ok : Bool} {now : Int} :
      RoundStep submits world (.recorded deviceId functionName ok message)
        { world with
          state := world.state.update deviceId (recordCall functionName ok message now) }
  | passed {line : Line} (passes : world.line.Passed line) :
      RoundStep submits world .passed { world with line }

/-- The world as it goes through rounds, from anywhere. -/
def rounds (submits : Submits) : TransitionSystem World Round where
  Initial _ := True
  Step := RoundStep submits

/-! ## The runs of the operations -/

/-- The runs of `refresh_calibration_level`. -/
inductive LevelRun (submits : Submits) (deviceId : String) (world : World) :
    Status → World → Prop where
  | unknown (missing : world.state.find deviceId = none) :
      LevelRun submits deviceId world unknownDevice world
  | unsupported {device : ActiveDevice} (found : world.state.find deviceId = some device)
      (none : (adapterFor device.spec.type).readCalibrationLevel = none) :
      LevelRun submits deviceId world .success world
  | levelRead {status : Status} {world' : World}
      (step : RoundStep submits world (.levelRead deviceId status) world') :
      LevelRun submits deviceId world status world'

/-- The runs of `check_compensation`. -/
inductive CheckRun (submits : Submits) (deviceId : String) (world : World) :
    Status → World → Prop where
  | unknown (missing : world.state.find deviceId = none) :
      CheckRun submits deviceId world unknownDevice world
  | unsupported {device : ActiveDevice} (found : world.state.find deviceId = some device)
      (none : (adapterFor device.spec.type).readCompensation = none ∨
        (adapterFor device.spec.type).writeCompensation = none) :
      CheckRun submits deviceId world .success world
  | checked {status : Status} {world' : World}
      (step : RoundStep submits world (.checked deviceId status) world') :
      CheckRun submits deviceId world status world'

/-- The runs of `refresh_device_sample`; a due check comes after the sample. -/
inductive RefreshRun (submits : Submits) (deviceId : String) (world : World) :
    Status → World → Prop where
  | unnamed (empty : deviceId = "") :
      RefreshRun submits deviceId world (makeStatus .invalidArgument "device_id is required") world
  | unknown (missing : world.state.find deviceId = none) :
      RefreshRun submits deviceId world unknownDevice world
  | sampled {status : Status} {device : ActiveDevice} {world' : World}
      (step : RoundStep submits world (.sampled deviceId status) world')
      (found : world'.state.find deviceId = some device)
      (idle : compensationDue status device = false) :
      RefreshRun submits deviceId world status world'
  | sampledDue {status check : Status} {device : ActiveDevice} {middle world' : World}
      (step : RoundStep submits world (.sampled deviceId status) middle)
      (found : middle.state.find deviceId = some device)
      (due : compensationDue status device = true)
      (checked : CheckRun submits deviceId middle check world') :
      RefreshRun submits deviceId world status world'

section Runs

variable {submits : Submits} {deviceId : String} {world world' : World}

theorem levelRun_of_completes {status : Status}
    (completes : Completes (World.environment submits) (refreshCalibrationLevel deviceId) world
      status world') :
    LevelRun submits deviceId world status world' := by
  obtain ⟨_, _, looked, rest⟩ := completes_bind_iff.mp completes
  obtain ⟨rfl, rfl⟩ := completes_snapshot_iff.mp looked
  split at rest
  · next missing =>
      obtain ⟨rfl, rfl⟩ := completes_done_iff.mp rest
      exact .unknown missing
  · next device found =>
      split at rest
      · next none =>
          obtain ⟨rfl, rfl⟩ := completes_done_iff.mp rest
          exact .unsupported found none
      · next reader adapted =>
          obtain ⟨reply, _, asked, rest⟩ := completes_bind_iff.mp rest
          obtain ⟨line, submitted, rfl⟩ := completes_submit_iff.mp asked
          obtain ⟨_, _, changed, rest⟩ := completes_bind_iff.mp rest
          obtain ⟨rfl, rfl⟩ := completes_changeDevice_iff.mp changed
          simp only [found, Option.isNone_some, Bool.false_eq_true, if_false] at rest
          obtain ⟨rfl, rfl⟩ := completes_done_iff.mp rest
          exact .levelRead (.levelRead found adapted submitted)

theorem checkRun_of_completes {status : Status}
    (completes : Completes (World.environment submits) (checkCompensation deviceId) world status
      world') :
    CheckRun submits deviceId world status world' := by
  obtain ⟨_, _, looked, rest⟩ := completes_bind_iff.mp completes
  obtain ⟨rfl, rfl⟩ := completes_snapshot_iff.mp looked
  split at rest
  · next missing =>
      obtain ⟨rfl, rfl⟩ := completes_done_iff.mp rest
      exact .unknown missing
  · next device found =>
      dsimp only at rest
      split at rest
      · next reader writer reads writes =>
          obtain ⟨reply, _, asked, rest⟩ := completes_bind_iff.mp rest
          obtain ⟨line, submitted, rfl⟩ := completes_submit_iff.mp asked
          obtain ⟨_, _, changed, rest⟩ := completes_bind_iff.mp rest
          obtain ⟨rfl, rfl⟩ := completes_changeDevice_iff.mp changed
          simp only [found, Option.isNone_some, Bool.false_eq_true, if_false] at rest
          have step := RoundStep.checked found reads writes submitted
          split at rest
          · obtain ⟨_, _, warned, rest⟩ := completes_bind_iff.mp rest
            obtain rfl := completes_warn_iff.mp warned
            obtain ⟨rfl, rfl⟩ := completes_done_iff.mp rest
            exact .checked step
          · obtain ⟨rfl, rfl⟩ := completes_done_iff.mp rest
            exact .checked step
      · next incomplete =>
          obtain ⟨rfl, rfl⟩ := completes_done_iff.mp rest
          refine .unsupported found ?_
          by_contra both
          rw [not_or] at both
          obtain ⟨reader, reads⟩ := Option.ne_none_iff_exists'.mp both.1
          obtain ⟨writer, writes⟩ := Option.ne_none_iff_exists'.mp both.2
          exact incomplete reader writer reads writes

/-- Past the lock, a refresh is over but for a check which is due. -/
theorem checkRun_of_afterSample {status returned : Status} {warning : Option String} {due : Bool}
    (completes : Completes (World.environment submits) (afterSample deviceId status warning due)
      world returned world') :
    returned = status ∧
      ((due = false ∧ world' = world) ∨
        (due = true ∧ ∃ check, CheckRun submits deviceId world check world')) := by
  obtain ⟨_, middle, warned, rest⟩ := completes_bind_iff.mp completes
  obtain rfl : middle = world := by
    cases warning with
    | none => exact (completes_done_iff.mp warned).2
    | some message => exact completes_warn_iff.mp warned
  cases due with
  | false =>
      obtain ⟨rfl, rfl⟩ := completes_done_iff.mp rest
      exact ⟨rfl, .inl ⟨rfl, rfl⟩⟩
  | true =>
      obtain ⟨check, _, checked, after⟩ := completes_bind_iff.mp rest
      obtain ⟨_, _, warned, final⟩ := completes_bind_iff.mp after
      obtain rfl := completes_warnUnlessOk warned
      obtain ⟨rfl, rfl⟩ := completes_done_iff.mp final
      exact ⟨rfl, .inr ⟨rfl, check, checkRun_of_completes checked⟩⟩

theorem refreshRun_of_completes {status : Status}
    (completes : Completes (World.environment submits) (refreshDeviceSample deviceId) world status
      world') :
    RefreshRun submits deviceId world status world' := by
  rw [refreshDeviceSample] at completes
  split at completes
  · next empty =>
      obtain ⟨rfl, rfl⟩ := completes_done_iff.mp completes
      exact .unnamed empty
  · obtain ⟨_, start, looked, rest⟩ := completes_bind_iff.mp completes
    obtain ⟨rfl, rfl⟩ := completes_snapshot_iff.mp looked
    split at rest
    · next missing =>
        obtain ⟨rfl, rfl⟩ := completes_done_iff.mp rest
        exact .unknown missing
    · next device found =>
        obtain ⟨reply, _, asked, rest⟩ := completes_bind_iff.mp rest
        obtain ⟨line, submitted, rfl⟩ := completes_submit_iff.mp asked
        obtain ⟨now, _, read, rest⟩ := completes_bind_iff.mp rest
        obtain rfl := completes_systemNow_iff.mp read
        obtain ⟨nowSteady, _, read, rest⟩ := completes_bind_iff.mp rest
        obtain ⟨later, rfl⟩ := completes_steadyNow_iff.mp read
        obtain ⟨_, _, changed, rest⟩ := completes_bind_iff.mp rest
        obtain ⟨rfl, rfl⟩ := completes_changeDevice_iff.mp changed
        simp only [found] at rest
        have step := @RoundStep.sampled _ _ submits start deviceId device reply line now nowSteady
          found submitted later
        have recorded := @RuntimeState.find_update_self start.state deviceId _ fun device =>
          spec_recordSample device start.state.config deviceId reply.status reply.outputs.signals
            now nowSteady
        rw [found, Option.map_some] at recorded
        obtain ⟨rfl, idle | ⟨due, check, checked⟩⟩ := checkRun_of_afterSample rest
        · obtain ⟨idle, rfl⟩ := idle
          exact .sampled step recorded idle
        · exact .sampledDue step recorded due checked

end Runs

end EzoProvider.Runtime
