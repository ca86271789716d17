import EzoProvider.Devices.Driver
import Mathlib.Algebra.Group.Nat.Defs

/-!
# Helpers shared by the device families

`devices/common/sample_helpers.cpp`: the mapping of driver results, the waits,
the read of a command's response code, and the signal slots.
-/

namespace EzoProvider.Devices

open Interaction Program

/-- `set_signal_value`. -/
def setSignalValue (signals : List SignalSample) (index : Nat) (value : ℚ) : List SignalSample :=
  signals.modify index fun _ =>
    { available := true, hasValue := true, value, unavailableReason := "" }

/-- `set_signal_unavailable`. -/
def setSignalUnavailable (signals : List SignalSample) (index : Nat) (reason : String) :
    List SignalSample :=
  signals.modify index fun _ =>
    { available := false, hasValue := false, value := 0, unavailableReason := reason }

/-- `initialize_signal_samples`. -/
def initializeSignalSamples (definitions : List SignalDefinition) : List SignalSample :=
  List.replicate definitions.length {}

@[simp] theorem length_setSignalValue (signals : List SignalSample) (index : Nat) (value : ℚ) :
    (setSignalValue signals index value).length = signals.length := by
  simp [setSignalValue]

@[simp] theorem length_setSignalUnavailable (signals : List SignalSample) (index : Nat)
    (reason : String) : (setSignalUnavailable signals index reason).length = signals.length := by
  simp [setSignalUnavailable]

@[simp] theorem length_initializeSignalSamples (definitions : List SignalDefinition) :
    (initializeSignalSamples definitions).length = definitions.length := by
  simp [initializeSignalSamples]

variable [EzoDriver]

/-- `status_from_ezo_result` for a result other than `EZO_OK`. -/
def statusFromEzoResult (result : EzoError) (context : String) : Status :=
  let message := context ++ ": " ++ EzoDriver.resultName result
  match result with
  | .invalidArgument => makeStatus .invalidArgument message
  | .transport => makeStatus .unavailable message
  | .bufferTooSmall | .protocol | .parse => makeStatus .internal message

/-- Take the answer of a driver call, or leave the job with its status. -/
def attempt {α : Type} (context : String)
    (call : Program JobOp JobOp.Result (Except EzoError α)) : JobM α :=
  ExceptT.mk do
    match ← call with
    | .ok value => return .ok value
    | .error result => return .error (statusFromEzoResult result context)

/-- `wait_for_timing_hint`. The product is taken in `uint32_t`. -/
def waitForTimingHint (waitMs : Nat) : Program JobOp JobOp.Result Unit :=
  if waitMs = 0 then return () else JobOp.issue (.delay (waitMs * 1000 % 2 ^ 32))

/-- `kPendingRereads`. -/
def kPendingRereads : Nat := 4

/-- `kPendingRereadMs`. -/
def kPendingRereadMs : Nat := 250

/-- One pass of the loop of `read_command_response`; `pending` goes on after 254. -/
def readResponseCode (device : Address) (pending : Job) : Job := do
  let answer : Except EzoError EzoDeviceStatus ← JobOp.issue (.readResponse device)
  match answer with
  | .error result => return statusFromEzoResult result "read command response"
  | .ok .success => return .success
  | .ok .fail =>
      return makeStatus .internal "device rejected the command (response code 2, syntax error)"
  | .ok .notReady => pending
  | .ok .noData =>
      return makeStatus .unavailable "device returned no data for the command (response code 255)"
  | .ok .unknown => return makeStatus .internal "device returned an unknown response code"

/-- The loop of `read_command_response`, with the re-reads it has left. -/
def readCommandResponseLoop (device : Address) : Nat → Job
  | 0 =>
      readResponseCode device
        (pure (makeStatus .unavailable "device still processing the command (response code 254)"))
  | rereads + 1 =>
      readResponseCode device do
        waitForTimingHint kPendingRereadMs
        readCommandResponseLoop device rereads

/-- `read_command_response`. -/
def readCommandResponse (device : Address) : Job :=
  readCommandResponseLoop device kPendingRereads

/-- Leave the job with a status which is not ok. -/
def checkStatus (status : Status) : JobM Unit :=
  if status.isOk then pure () else throw status

/-- The end of a job: ok, or the status it was left with. -/
def concludes (body : JobM Unit) : Job := do
  match ← body.run with
  | .ok () => return .success
  | .error status => return status

/-- `bind_ezo_i2c_device`. -/
def bindEzoI2cDevice (address : Address) : JobM Address :=
  ExceptT.mk do
    let answer : Except EzoError Unit ← JobOp.issue (.bind address)
    match answer with
    | .ok () => return .ok address
    | .error result =>
        return .error
          (makeStatus .internal ("ezo_device_init failed: " ++ EzoDriver.resultName result))

/-- Send a query, wait, and read its typed answer. -/
def queryDevice {α : Type} (device : Address) (command : Command) (sendContext : String)
    (answer : Program JobOp JobOp.Result (Except EzoError α)) (readContext : String) : JobM α := do
  let hint ← attempt sendContext (JobOp.issue (.send device command))
  waitForTimingHint hint
  attempt readContext answer

theorem isOk_statusFromEzoResult (result : EzoError) (context : String) :
    (statusFromEzoResult result context).isOk = false := by
  cases result <;> rfl

end EzoProvider.Devices
