import EzoProvider.Runtime.Calls
import EzoProvider.Runtime.Health

/-!
# What the operations perform

The operations of the runtime, once it is initialized, look at the state, submit
jobs under names of their own, read the clocks, log, and record what they found.
A refresh does all of that and records a sample besides.
-/

namespace EzoProvider.Runtime

open Interaction Program Devices

/-- A submission to the executor. -/
def CallerOp.Submits : CallerOp → Prop
  | .submit .. => True
  | _ => False

instance : DecidablePred CallerOp.Submits
  | .submit .. => .isTrue trivial
  | .locked _ | .systemNow | .steadyNow | .warn _ | .checkHost _ | .startExecutor _
  | .stopExecutor => .isFalse id

section Ops

variable [EzoDriver]

/-- What every operation performs, a sample apart. -/
inductive CallerOp.Routine : CallerOp → Prop where
  | looked : Routine (.locked id)
  | levelRead {deviceId : String} {status : Status} {level : ℚ} :
      Routine (.locked (·.update deviceId (recordCalibrationLevel status level)))
  | checked {deviceId : String} {status : Status} {reading : CompensationReading}
      {reapplied : Bool} :
      Routine (.locked (·.update deviceId (recordCompensation status reading reapplied)))
  | remembered {deviceId : String} {values : Compensation} :
      Routine (.locked (·.update deviceId (rememberValues values)))
  | recorded {deviceId functionName message : String} {ok : Bool} {now : Int} :
      Routine (.locked (·.update deviceId (recordCall functionName ok message now)))
  | submitted {name : String} {timeoutMs : Int} {job : Job}
      (served : ∀ deviceId, name ≠ "startup_probe:" ++ deviceId) :
      Routine (.submit name timeoutMs job)
  | systemNow : Routine .systemNow
  | steadyNow : Routine .steadyNow
  | warned {message : String} : Routine (.warn message)

theorem routine_issue {op : CallerOp} (routine : op.Routine) :
    (CallerOp.issue op).Only CallerOp.Routine :=
  ⟨routine, fun _ => trivial⟩

theorem routine_warnUnlessOk (status : Status) (context : String) :
    (warnUnlessOk status context).Only CallerOp.Routine := by
  rw [warnUnlessOk]
  split
  · trivial
  · exact routine_issue .warned

theorem routine_warnIfAny (warning : Option String) :
    (warnIfAny warning).Only CallerOp.Routine := by
  cases warning with
  | none => trivial
  | some message => exact routine_issue .warned

end Ops

/-! ## Names of jobs -/

theorem sample_ne_startupProbe (first second : String) :
    "sample:" ++ first ≠ "startup_probe:" ++ second := by
  intro same
  simpa using congrArg String.toList same

theorem calibrationLevel_ne_startupProbe (first second : String) :
    "calibration-level:" ++ first ≠ "startup_probe:" ++ second := by
  intro same
  simpa using congrArg String.toList same

theorem compensation_ne_startupProbe (first second : String) :
    "compensation:" ++ first ≠ "startup_probe:" ++ second := by
  intro same
  simpa using congrArg String.toList same

theorem call_ne_startupProbe (first second third : String) :
    "call:" ++ first ++ ":" ++ second ≠ "startup_probe:" ++ third := by
  intro same
  simpa using congrArg String.toList same

/-! ## The operations -/

section Operations

variable [EzoDriver]

theorem routine_refreshCalibrationLevel (deviceId : String) :
    (refreshCalibrationLevel deviceId).Only CallerOp.Routine := by
  apply only_bind (routine_issue .looked)
  intro state
  split
  · trivial
  · split
    · trivial
    · apply only_bind (routine_issue (.submitted (calibrationLevel_ne_startupProbe _)))
      intro reply
      apply only_bind (routine_issue .levelRead)
      intro found
      split <;> trivial

theorem routine_checkCompensation (deviceId : String) :
    (checkCompensation deviceId).Only CallerOp.Routine := by
  apply only_bind (routine_issue .looked)
  intro state
  split
  · trivial
  · dsimp only
    split
    · apply only_bind (routine_issue (.submitted (compensation_ne_startupProbe _)))
      intro reply
      apply only_bind (routine_issue .checked)
      intro found
      split
      · trivial
      · split
        · exact only_bind (routine_issue .warned) fun _ => trivial
        · trivial
    · trivial

/-- The end of a refresh records no sample. -/
theorem routine_afterSample (deviceId : String) (status : Status) (warning : Option String)
    (due : Bool) : (afterSample deviceId status warning due).Only CallerOp.Routine := by
  apply only_bind (routine_warnIfAny _)
  intro warned
  split
  · exact only_bind (routine_checkCompensation _) fun _ =>
      only_bind (routine_warnUnlessOk _ _) fun _ => trivial
  · trivial

/-- A refresh performs what every operation does, and records a sample. -/
theorem only_refreshDeviceSample {allowed : CallerOp → Prop} {deviceId : String}
    (routine : ∀ op : CallerOp, op.Routine → allowed op)
    (sampled : ∀ config status signals now nowSteady, allowed (.locked
      (·.update deviceId (recordSample config deviceId status signals now nowSteady)))) :
    (refreshDeviceSample deviceId).Only allowed := by
  have issued : ∀ {op : CallerOp}, allowed op → (CallerOp.issue op).Only allowed :=
    fun permitted => ⟨permitted, fun _ => trivial⟩
  rw [refreshDeviceSample]
  split
  · trivial
  apply only_bind (issued (routine _ .looked))
  intro state
  split
  · trivial
  · apply only_bind (issued (routine _ (.submitted (sample_ne_startupProbe _))))
    intro reply
    apply only_bind (issued (routine _ .systemNow))
    intro now
    apply only_bind (issued (routine _ .steadyNow))
    intro nowSteady
    apply only_bind (issued (sampled _ _ _ _ _))
    intro found
    split
    · trivial
    · exact (routine_afterSample _ _ _ _).mono routine

theorem routine_recordCallResult (deviceId functionName : String) (ok : Bool) (message : String) :
    (recordCallResult deviceId functionName ok message).Only CallerOp.Routine := by
  rw [recordCallResult]
  split
  · trivial
  · exact only_bind (routine_issue .systemNow) fun _ =>
      only_bind (routine_issue .recorded) fun _ => trivial

theorem routine_executeSafeCall (device : ActiveDevice) (functionId : Nat) (args : ControlArgs)
    (timeoutMs : Int) :
    (executeSafeCall device functionId args timeoutMs).Only CallerOp.Routine := by
  rw [executeSafeCall]
  dsimp only
  split
  · trivial
  · split
    · exact only_bind (routine_issue (.submitted (call_ne_startupProbe _ _))) fun _ => trivial
    · trivial

theorem routine_concludeCall (deviceId functionName : String) (functionId : Nat)
    (result : AdapterCallResult) :
    (concludeCall deviceId functionName functionId result).Only CallerOp.Routine := by
  rw [concludeCall]
  split
  · apply only_bind (routine_recordCallResult _ _ _ _)
    intro recorded
    split
    · exact only_bind (routine_refreshCalibrationLevel _) fun _ =>
        only_bind (routine_warnUnlessOk _ _) fun _ => trivial
    · trivial
  · exact only_bind (routine_recordCallResult _ _ _ _) fun _ =>
      only_bind (routine_issue .warned) fun _ => trivial

theorem routine_readBackCompensation (deviceId functionName : String) (functionId : Nat)
    (values : Compensation) (result : AdapterCallResult) :
    (readBackCompensation deviceId functionName functionId values result).Only
      CallerOp.Routine := by
  refine only_bind ?_ fun _ => only_bind (routine_checkCompensation _) fun _ =>
    routine_warnUnlessOk _ _
  rw [rememberIfSet]
  split
  · exact only_bind (routine_issue .remembered) fun _ => trivial
  · trivial

theorem routine_call (deviceId : String) (functionId : Nat) (args : ValueMap) :
    (call deviceId functionId args).Only CallerOp.Routine := by
  apply only_bind (routine_issue .looked)
  intro state
  split
  · trivial
  split
  · trivial
  split
  · exact only_bind (routine_recordCallResult _ _ _ _) fun _ => trivial
  · apply only_bind (routine_executeSafeCall _ _ _ _)
    intro result
    split
    · exact only_bind (routine_readBackCompensation _ _ _ _ _) fun _ => routine_concludeCall _ _ _ _
    · exact routine_concludeCall _ _ _ _

theorem routine_needsRefresh (config : ProviderConfig) (device : ActiveDevice) :
    (needsRefresh config device).Only CallerOp.Routine := by
  rw [needsRefresh]
  split
  · exact only_bind (routine_issue .systemNow) fun _ => trivial
  · trivial

theorem routine_serveSample [ProviderSdk] (config : ProviderConfig) (device : ActiveDevice)
    (indexes : List Nat) : (serveSample config device indexes).Only CallerOp.Routine := by
  have populate : (populateSignalValues config device indexes).Only CallerOp.Routine := by
    induction indexes with
    | nil => trivial
    | cons index rest ih =>
        exact only_bind (routine_issue .systemNow) fun _ => only_bind ih fun _ => trivial
  rw [serveSample]
  split
  · exact only_bind populate fun _ => trivial
  · trivial

theorem routine_deviceHealth (deviceId : String) :
    (deviceHealth deviceId).Only CallerOp.Routine := by
  apply only_bind (routine_issue .looked)
  intro state
  split
  · trivial
  · exact only_bind (routine_issue .systemNow) fun _ => trivial

end Operations

end EzoProvider.Runtime
