import EzoProvider.Runtime.Arguments
import EzoProvider.Runtime.ReadJobs

/-!
# The operations of the runtime

`runtime_state.cpp` and `EzoProviderRuntime` as their caller's thread runs them:
programs over critical sections on the runtime state, submissions to the bus
executor, and clock readings.
-/

namespace EzoProvider.Runtime

open Interaction Program Devices

/-- What a submission leaves its caller with: the status, and the cells the job
shares with it as the caller finds them then. -/
structure SubmitReply where
  status : Status
  outputs : JobOutputs := {}
deriving DecidableEq, Repr

/-- One operation of a caller's thread. `locked` is a critical section under
`g_mutex`; it answers with the state it found. -/
inductive CallerOp where
  | locked (change : RuntimeState → RuntimeState)
  | submit (name : String) (timeoutMs : Int) (job : Job)
  | systemNow
  | steadyNow
  | warn (message : String)
  | checkHost (busPath : String)
  | startExecutor (config : ProviderConfig)
  | stopExecutor

/-- What an operation answers. -/
abbrev CallerOp.Result : CallerOp → Type
  | locked _ => RuntimeState
  | submit .. => SubmitReply
  | systemNow | steadyNow => Int
  | warn _ | stopExecutor => Unit
  | checkHost _ => List Requirement
  | startExecutor _ => Status

/-- Perform one operation of a caller. -/
def CallerOp.issue (op : CallerOp) : Program CallerOp CallerOp.Result op.Result := Program.ask op

/-- The code a caller's thread runs. -/
abbrev Caller := Program CallerOp CallerOp.Result

/-- What happens along the code of a caller. -/
abbrev CallerTrace := Trace CallerOp CallerOp.Result

/-- `snapshot`, less what it copies from the executor. -/
def snapshot : Caller RuntimeState := CallerOp.issue (.locked id)

/-- Change the device `deviceId` if it is active; answers the state found. -/
def changeDevice (deviceId : String) (change : ActiveDevice → ActiveDevice) : Caller RuntimeState :=
  CallerOp.issue (.locked (·.update deviceId change))

/-- Log a warning about a status which is not ok. -/
def warnUnlessOk (status : Status) (context : String) : Caller Unit :=
  if status.isOk then pure () else CallerOp.issue (.warn (context ++ status.message))

/-- `map_i2c_status_code`. -/
def mapI2cStatusCode : StatusCode → Code
  | .ok => .ok
  | .invalidArgument => .invalidArgument
  | .notFound => .notFound
  | .unavailable => .unavailable
  | .deadlineExceeded => .deadlineExceeded
  | .cancelled => .unavailable
  | .internal => .internal

/-- Log a warning, if there is one. -/
def warnIfAny : Option String → Caller Unit
  | none => pure ()
  | some message => CallerOp.issue (.warn message)

def unknownDevice : Status := makeStatus .notFound "unknown device_id"

variable [EzoDriver]

/-- `refresh_calibration_level`. -/
def refreshCalibrationLevel (deviceId : String) : Caller Status := do
  let state ← snapshot
  match state.find deviceId with
  | none => return unknownDevice
  | some device =>
      match (adapterFor device.spec.type).readCalibrationLevel with
      | none => return .success
      | some reader =>
          let reply : SubmitReply ← CallerOp.issue
            (.submit ("calibration-level:" ++ deviceId)
              (max state.config.timeoutMs (queryLatencyMs state.config + 1500))
              (calibrationLevelJob device.spec.address reader))
          let found ← changeDevice deviceId
            (recordCalibrationLevel reply.status reply.outputs.level)
          if (found.find deviceId).isNone then return unknownDevice
          return reply.status

/-- `check_compensation`. -/
def checkCompensation (deviceId : String) : Caller Status := do
  let state ← snapshot
  match state.find deviceId with
  | none => return unknownDevice
  | some device =>
      let adapter := adapterFor device.spec.type
      match adapter.readCompensation, adapter.writeCompensation with
      | some reader, some writer =>
          -- Up to nine commands: three queries, three sets and the three queries again.
          let reply : SubmitReply ← CallerOp.issue
            (.submit ("compensation:" ++ deviceId)
              (max state.config.timeoutMs (9 * queryLatencyMs state.config + 1500))
              (compensationJob device.spec.address device.compensationSet reader writer))
          let found ← changeDevice deviceId
            (recordCompensation reply.status reply.outputs.reading reply.outputs.reapplied)
          if (found.find deviceId).isNone then return unknownDevice
          if reply.outputs.reapplied then
            CallerOp.issue (.warn ("device '" ++ deviceId ++
              "' had lost its compensation, as after a power cut; sent the set values again"))
          return reply.status
      | _, _ => return .success

/-- Whether a sample just recorded is one after which the compensation is checked. -/
def compensationDue (status : Status) (recorded : ActiveDevice) : Bool :=
  status.isOk && recorded.sample.successCount % kCompensationCheckEvery = 0

/-- The end of `refresh_device_sample`, once it has released the lock. -/
def afterSample (deviceId : String) (status : Status) (warning : Option String) (due : Bool) :
    Caller Status := do
  warnIfAny warning
  if due then
    let check ← checkCompensation deviceId
    warnUnlessOk check ("compensation check failed for device '" ++ deviceId ++ "': ")
  return status

/-- `refresh_device_sample`. -/
def refreshDeviceSample (deviceId : String) : Caller Status :=
  if deviceId = "" then return makeStatus .invalidArgument "device_id is required" else do
  let state ← snapshot
  match state.find deviceId with
  | none => return unknownDevice
  | some device =>
      let reply : SubmitReply ← CallerOp.issue
        (.submit ("sample:" ++ deviceId)
          (max state.config.timeoutMs (queryLatencyMs state.config + 1500))
          (sampleJob device.spec))
      let now ← CallerOp.issue .systemNow
      let nowSteady ← CallerOp.issue .steadyNow
      let record :=
        recordSample state.config deviceId reply.status reply.outputs.signals now nowSteady
      let found ← changeDevice deviceId record
      match found.find deviceId with
      | none => return unknownDevice
      | some before =>
          let warning :=
            if reply.status.isOk then
              (noteCadence state.config deviceId nowSteady before.sample).2
            else none
          afterSample deviceId reply.status warning (compensationDue reply.status (record before))

/-- `remember_compensation`. -/
def rememberCompensation (deviceId : String) (values : Compensation) : Caller Unit := do
  let _ ← changeDevice deviceId (rememberValues values)

/-- `record_call_result`. -/
def recordCallResult (deviceId : String) (functionName : String) (ok : Bool) (message : String) :
    Caller Unit :=
  if deviceId = "" then return () else do
  let now ← CallerOp.issue .systemNow
  let _ ← changeDevice deviceId (recordCall functionName ok message now)

end EzoProvider.Runtime
