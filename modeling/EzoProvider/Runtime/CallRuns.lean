import EzoProvider.Runtime.Rounds

/-!
# The rounds of a call

A control call taken apart: its job, what it leaves for the compensation, the
read-backs, and what is recorded of it.
-/

namespace EzoProvider.Runtime

open Interaction Program Devices

variable [EzoDriver] [DecimalText]

/-- The runs of `record_call_result`. -/
inductive RecordRun (submits : Submits) (deviceId functionName : String) (ok : Bool)
    (message : String) (world : World) : World → Prop where
  | unnamed (empty : deviceId = "") :
      RecordRun submits deviceId functionName ok message world world
  | recorded {world' : World}
      (step : RoundStep submits world (.recorded deviceId functionName ok message) world') :
      RecordRun submits deviceId functionName ok message world world'

/-- The driver has the timing of the commands sent a family. -/
def Timed (type : EzoDeviceType) : Prop :=
  (adapterFor type).expectedProduct ≠ .unknown ∧
    ∀ kind, (EzoDriver.timingHint (adapterFor type).expectedProduct kind).isSome = true

/-- The runs of `execute_safe_call`. -/
inductive ExecuteRun (submits : Submits) (deviceId : String) (functionId : Nat)
    (args : ControlArgs) (world : World) : AdapterCallResult → World → Prop where
  | unserved {device : ActiveDevice} (message : String)
      (found : world.state.find deviceId = some device) (untimed : ¬ Timed device.spec.type) :
      ExecuteRun submits deviceId functionId args world ⟨false, .internal, message⟩ world
  | controlled {status : Status} {world' : World}
      (step : RoundStep submits world (.controlled deviceId functionId args status) world') :
      ExecuteRun submits deviceId functionId args world
        ⟨status.isOk, mapI2cStatusCode status.code, status.message⟩ world'

/-- The values a call leaves to be sent again: those of a `set_compensation` which
returned ok are remembered. -/
inductive RememberRun (submits : Submits) (deviceId : String) (functionId : Nat)
    (values : Compensation) (ok : Bool) (world : World) : World → Prop where
  | skipped (not : ok = false ∨ functionId ≠ kFunctionSetCompensation) :
      RememberRun submits deviceId functionId values ok world world
  | remembered {world' : World} (succeeded : ok = true)
      (sets : functionId = kFunctionSetCompensation)
      (step : RoundStep submits world (.remembered deviceId values) world') :
      RememberRun submits deviceId functionId values ok world world'

/-- The runs of the end of a call. -/
inductive ConcludeRun (submits : Submits) (deviceId functionName : String) (functionId : Nat)
    (world : World) (result : AdapterCallResult) : World → Prop where
  | failed {world' : World} (not : result.ok = false)
      (recorded : RecordRun submits deviceId functionName false result.errorMessage world world') :
      ConcludeRun submits deviceId functionName functionId world result world'
  | succeeded {world' : World} (ok : result.ok = true)
      (other : functionId ≠ kFunctionCalibrate ∧ functionId ≠ kFunctionClearCalibration)
      (recorded : RecordRun submits deviceId functionName true "" world world') :
      ConcludeRun submits deviceId functionName functionId world result world'
  | calibrated {status : Status} {middle world' : World} (ok : result.ok = true)
      (calibrates : functionId = kFunctionCalibrate ∨ functionId = kFunctionClearCalibration)
      (recorded : RecordRun submits deviceId functionName true "" world middle)
      (levelRead : LevelRun submits deviceId middle status world') :
      ConcludeRun submits deviceId functionName functionId world result world'

/-- The runs of a call past its argument checks: its job, what it leaves for the
compensation, the read-back of that, and the end. -/
inductive PerformRun (submits : Submits) (deviceId functionName : String) (functionId : Nat)
    (type : EzoDeviceType) (args : ControlArgs) (world : World) :
    AdapterCallResult → World → Prop where
  | plain {result : AdapterCallResult} {controlled world' : World}
      (unread : readsBackCompensation functionId type = false)
      (executed : ExecuteRun submits deviceId functionId args world result controlled)
      (concluded : ConcludeRun submits deviceId functionName functionId controlled result world') :
      PerformRun submits deviceId functionName functionId type args world result world'
  | readBack {result : AdapterCallResult} {check : Status}
      {controlled remembered checked world' : World}
      (read : readsBackCompensation functionId type = true)
      (executed : ExecuteRun submits deviceId functionId args world result controlled)
      (remembering : RememberRun submits deviceId functionId args.compensation result.ok controlled
        remembered)
      (checking : CheckRun submits deviceId remembered check checked)
      (concluded : ConcludeRun submits deviceId functionName functionId checked result world') :
      PerformRun submits deviceId functionName functionId type args world result world'

/-- The runs of `EzoProviderRuntime::call`. -/
inductive CallRun (submits : Submits) (deviceId : String) (functionId : Nat) (args : ValueMap)
    (world : World) : AdapterCallResult → World → Prop where
  | unknownDevice (missing : world.state.find deviceId = none) :
      CallRun submits deviceId functionId args world (callNotFound "unknown device_id") world
  | unknownFunction {device : ActiveDevice} (found : world.state.find deviceId = some device)
      (undeclared : findFunctionById device functionId = none) :
      CallRun submits deviceId functionId args world (callNotFound "unknown function_id") world
  | refused {device : ActiveDevice} {function : FunctionSpec} {refusal : AdapterCallResult}
      {world' : World} (found : world.state.find deviceId = some device)
      (declared : findFunctionById device functionId = some function)
      (refused : validateCallArgs functionId device.spec.type args = .error refusal)
      (recorded : RecordRun submits deviceId function.name false refusal.errorMessage world
        world') :
      CallRun submits deviceId functionId args world refusal world'
  | performed {device : ActiveDevice} {function : FunctionSpec} {checked : ControlArgs}
      {result : AdapterCallResult} {world' : World}
      (found : world.state.find deviceId = some device)
      (declared : findFunctionById device functionId = some function)
      (accepted : validateCallArgs functionId device.spec.type args = .ok checked)
      (performed : PerformRun submits deviceId function.name functionId device.spec.type
        (jobArgs device functionId checked) world result world') :
      CallRun submits deviceId functionId args world result world'

section Runs

variable {submits : Submits} {deviceId functionName : String} {functionId : Nat}
  {world world' : World}

theorem recordRun_of_completes {ok : Bool} {message : String} {value : Unit}
    (completes : Completes (World.environment submits)
      (recordCallResult deviceId functionName ok message) world value world') :
    RecordRun submits deviceId functionName ok message world world' := by
  rw [recordCallResult] at completes
  split at completes
  · next empty =>
      obtain ⟨_, rfl⟩ := completes_done_iff.mp completes
      exact .unnamed empty
  · obtain ⟨now, _, read, change⟩ := completes_bind_iff.mp completes
    obtain rfl := completes_systemNow_iff.mp read
    obtain ⟨_, _, changed, final⟩ := completes_bind_iff.mp change
    obtain ⟨_, rfl⟩ := completes_changeDevice_iff.mp changed
    obtain ⟨_, rfl⟩ := completes_done_iff.mp final
    exact .recorded .recorded

theorem executeRun_of_completes {device : ActiveDevice} {args : ControlArgs} {timeoutMs : Int}
    {result : AdapterCallResult} (found : world.state.find deviceId = some device)
    (completes : Completes (World.environment submits)
      (executeSafeCall device functionId args timeoutMs) world result world') :
    ExecuteRun submits deviceId functionId args world result world' := by
  rw [executeSafeCall] at completes
  dsimp only at completes
  split at completes
  · next unknown =>
      obtain ⟨rfl, rfl⟩ := completes_done_iff.mp completes
      exact .unserved _ found fun timed => timed.1 unknown
  · split at completes
    · obtain ⟨reply, _, asked, final⟩ := completes_bind_iff.mp completes
      obtain ⟨line, submitted, rfl⟩ := completes_submit_iff.mp asked
      obtain ⟨rfl, rfl⟩ := completes_done_iff.mp final
      exact .controlled (.controlled found submitted)
    · next missing =>
        obtain ⟨rfl, rfl⟩ := completes_done_iff.mp completes
        refine .unserved _ found fun timed => ?_
        obtain ⟨_, command⟩ := Option.isSome_iff_exists.mp (timed.2 _)
        obtain ⟨_, generic⟩ := Option.isSome_iff_exists.mp (timed.2 .generic)
        exact missing _ _ command generic

/-- A call's job leaves the devices as they are recorded. -/
theorem ExecuteRun.found {args : ControlArgs} {result : AdapterCallResult} {device : ActiveDevice}
    (executed : ExecuteRun submits deviceId functionId args world result world')
    (found : world.state.find deviceId = some device) :
    world'.state.find deviceId = some device := by
  cases executed with
  | unserved => exact found
  | controlled step =>
      cases step with
      | controlled => exact found

/-- A call which returned ok has had its job done. -/
theorem ExecuteRun.step {args : ControlArgs} {result : AdapterCallResult}
    (executed : ExecuteRun submits deviceId functionId args world result world')
    (ok : result.ok = true) :
    ∃ status : Status, status.isOk = true ∧
      RoundStep submits world (.controlled deviceId functionId args status) world' := by
  cases executed with
  | unserved => cases ok
  | controlled step => exact ⟨_, ok, step⟩

/-- A call of a device whose timing is known has its job done. -/
theorem ExecuteRun.served {args : ControlArgs} {result : AdapterCallResult}
    {device : ActiveDevice}
    (executed : ExecuteRun submits deviceId functionId args world result world')
    (found : world.state.find deviceId = some device) (timed : Timed device.spec.type) :
    ∃ status : Status,
      RoundStep submits world (.controlled deviceId functionId args status) world' := by
  cases executed with
  | unserved _ foundOther untimed =>
      cases foundOther.symm.trans found
      exact absurd timed untimed
  | controlled step => exact ⟨_, step⟩

theorem concludeRun_of_completes {result returned : AdapterCallResult}
    (completes : Completes (World.environment submits)
      (concludeCall deviceId functionName functionId result) world returned world') :
    returned = result ∧ ConcludeRun submits deviceId functionName functionId world result world' := by
  rw [concludeCall] at completes
  split at completes
  · next ok =>
      obtain ⟨_, _, record, after⟩ := completes_bind_iff.mp completes
      have recorded := recordRun_of_completes record
      split at after
      · next calibrates =>
          obtain ⟨level, _, levelRead, warn⟩ := completes_bind_iff.mp after
          obtain ⟨_, _, warned, final⟩ := completes_bind_iff.mp warn
          obtain rfl := completes_warnUnlessOk warned
          obtain ⟨rfl, rfl⟩ := completes_done_iff.mp final
          exact ⟨rfl, .calibrated ok (by simpa using calibrates) recorded
            (levelRun_of_completes levelRead)⟩
      · next other =>
          obtain ⟨rfl, rfl⟩ := completes_done_iff.mp after
          exact ⟨rfl, .succeeded ok (by simpa using other) recorded⟩
  · next failed =>
      obtain ⟨_, _, record, warn⟩ := completes_bind_iff.mp completes
      obtain ⟨_, _, warned, final⟩ := completes_bind_iff.mp warn
      obtain rfl := completes_warn_iff.mp warned
      obtain ⟨rfl, rfl⟩ := completes_done_iff.mp final
      exact ⟨rfl, .failed (by simpa using failed) (recordRun_of_completes record)⟩

theorem performRun_of_completes {state : RuntimeState} {device : ActiveDevice}
    {args : ControlArgs} {result : AdapterCallResult}
    (found : world.state.find deviceId = some device)
    (taken : functionId = kFunctionSetCompensation → Takes device.spec.type args.compensation)
    (completes : Completes (World.environment submits)
      (performCall state device deviceId functionName functionId args) world result world') :
    PerformRun submits deviceId functionName functionId device.spec.type args world result
      world' := by
  obtain ⟨returned, _, execute, after⟩ := completes_bind_iff.mp completes
  have executed := executeRun_of_completes found execute
  split at after
  · next reads =>
      obtain ⟨_, _, readBack, conclude⟩ := completes_bind_iff.mp after
      obtain ⟨rfl, concluded⟩ := concludeRun_of_completes conclude
      obtain ⟨_, middle, remember, checkBack⟩ := completes_bind_iff.mp readBack
      obtain ⟨check, _, checked, warn⟩ := completes_bind_iff.mp checkBack
      obtain rfl := completes_warnUnlessOk warn
      refine .readBack reads executed ?_ (checkRun_of_completes checked) concluded
      rw [rememberIfSet] at remember
      split at remember
      · next remembers =>
          obtain ⟨ok, sets⟩ : result.ok = true ∧ functionId = kFunctionSetCompensation := by
            simpa using remembers
          obtain ⟨_, _, changed, final⟩ := completes_bind_iff.mp remember
          obtain ⟨_, rfl⟩ := completes_changeDevice_iff.mp changed
          obtain ⟨_, rfl⟩ := completes_done_iff.mp final
          refine .remembered ok sets (.remembered fun other foundThen => ?_)
          rw [executed.found found] at foundThen
          cases foundThen
          exact taken sets
      · next kept =>
          obtain ⟨_, rfl⟩ := completes_done_iff.mp remember
          refine .skipped ?_
          by_contra both
          simp_all
  · next unread =>
      obtain ⟨rfl, concluded⟩ := concludeRun_of_completes after
      exact .plain (by simpa using unread) executed concluded

theorem callRun_of_completes {args : ValueMap} {result : AdapterCallResult}
    (completes : Completes (World.environment submits) (call deviceId functionId args) world result
      world') :
    CallRun submits deviceId functionId args world result world' := by
  obtain ⟨_, _, looked, after⟩ := completes_bind_iff.mp completes
  obtain ⟨rfl, rfl⟩ := completes_snapshot_iff.mp looked
  split at after
  · next missing =>
      obtain ⟨rfl, rfl⟩ := completes_done_iff.mp after
      exact .unknownDevice missing
  · next device found =>
      split at after
      · next undeclared =>
          obtain ⟨rfl, rfl⟩ := completes_done_iff.mp after
          exact .unknownFunction found undeclared
      · next function declared =>
          split at after
          · next refusal refused =>
              obtain ⟨_, _, record, final⟩ := completes_bind_iff.mp after
              obtain ⟨rfl, rfl⟩ := completes_done_iff.mp final
              exact .refused found declared refused (recordRun_of_completes record)
          · next checked accepted =>
              refine .performed found declared accepted (performRun_of_completes found ?_ after)
              rintro rfl
              exact takes_of_validateCallArgs accepted

end Runs

end EzoProvider.Runtime
