import EzoProvider.Devices.Probe
import EzoProvider.Interaction.Simulation

/-!
# A canned bus

A deterministic bus to run jobs against, after the repository's own
`EzoCannedBus`: a device has carried out a command by the time it is asked
about it, and a calibration moves its level as `record_command` says. `fails`
selects the operations which fail, as the fault-injecting bus does; a failed
send is not delivered.
-/

namespace EzoProvider.Devices

open Interaction

namespace CannedBus

/-- The level `record_command` leaves. -/
def levelAfter (level : Nat) : Command → Nat
  | .clearCalibration => 0
  | .phCalibration point .. => point + 1
  | .doCalibration _ => min (level + 1) 2
  | _ => level

/-- A driver with the library's names and a generic wait of 300 ms. -/
scoped instance driver : EzoDriver where
  resultName
    | .invalidArgument => "invalid argument"
    | .transport => "transport error"
    | .bufferTooSmall => "buffer too small"
    | .protocol => "protocol error"
    | .parse => "parse error"
  familyName
    | .unknown => none
    | .ph => some "ph"
    | .orp => some "orp"
    | .ec => some "ec"
    | .dox => some "do"
    | .rtd => some "rtd"
    | .hum => some "hum"
  timingHint _
    | .generic => some 300
    | .calibration => some 1300

scoped instance text : DecimalText where
  sent := .halfUp
  reported := .halfUp

/-- A device with a command under way carries it out. -/
def carryOut (probe : Probe) : Probe :=
  match probe.command with
  | some (command, .pending) =>
      { probe with
        holding := probe.holding.apply command
        level := levelAfter probe.level command
        command := some (command, .accepted)
        calibrations := probe.calibrations + if command.calibrates then 1 else 0 }
  | _ => probe

/-- One device carries out its command. -/
def settle (bus : Bus) (device : Address) : Bus :=
  Function.update bus device (carryOut (bus device))

/-- The reply of a device to its own query. -/
def reply {α : Type} (probe : Probe) (query : Command) (value : α) : Except EzoError α :=
  if probe.command = some (query, .accepted) then .ok value else .error .protocol

/-- The response code of a device. -/
def response (probe : Probe) : Except EzoError EzoDeviceStatus :=
  match probe.command with
  | some (_, .accepted) => .ok .success
  | _ => .ok .noData

/-- The products behind the addresses, the operations which fail, and what the probes measure. -/
structure Setup where
  product : Address → EzoProduct
  fails : JobOp → Bool := fun _ => false
  measured : ℚ := 7

/-- The answer to an operation, unless it fails. -/
def Setup.answer {α : Type} (setup : Setup) (op : JobOp) (answer : Except EzoError α) :
    Except EzoError α :=
  if setup.fails op then .error .transport else answer

/-- The canned answers. -/
def respond (setup : Setup) (bus : Bus) : (op : JobOp) → op.Result × Bus
  | .bind device => (setup.answer (.bind device) (.ok ()), bus)
  | .delay _ => ((), bus)
  | .store _ => ((), bus)
  | .send device command =>
      if setup.fails (.send device command) then (.error .transport, bus)
      else (.ok 0, bus.receive device command)
  | .readResponse device =>
      let settled := settle bus device
      (setup.answer (.readResponse device) (response (settled device)), settled)
  | .readInfo device =>
      (setup.answer (.readInfo device) (.ok { productId := setup.product device }),
        settle bus device)
  | .readOutputConfig device => (setup.answer (.readOutputConfig device) (.ok []), settle bus device)
  | .readValue device => (setup.answer (.readValue device) (.ok setup.measured), settle bus device)
  | .readOutputs device enabled =>
      (setup.answer (.readOutputs device enabled) (.ok fun _ => some 8), settle bus device)
  | .readCalibrationStatus device =>
      let settled := settle bus device
      (setup.answer (.readCalibrationStatus device)
        (reply (settled device) .calibrationQuery (settled device).level), settled)
  | .readTemperature device =>
      let settled := settle bus device
      (setup.answer (.readTemperature device)
        (reply (settled device) .temperatureQuery (settled device).holding.reportedTemperature),
        settled)
  | .readSalinity device =>
      let settled := settle bus device
      (setup.answer (.readSalinity device)
        (reply (settled device) .salinityQuery (settled device).holding.reportedSalinity), settled)
  | .readPressure device =>
      let settled := settle bus device
      (setup.answer (.readPressure device)
        (reply (settled device) .pressureQuery (settled device).holding.reportedPressure), settled)

/-- The canned bus as a responder. -/
def responder (setup : Setup) : Responder JobOp JobOp.Result Bus where
  respond := respond setup

theorem drift_settle (bus : Bus) (device : Address) : Bus.Drift bus (settle bus device) := by
  cases under : (bus device).command with
  | none =>
      have same : settle bus device = bus := by simp [settle, carryOut, under]
      rw [same]
      exact .refl
  | some entry =>
      obtain ⟨command, progress⟩ := entry
      cases progress with
      | pending =>
          have event : (bus device).Event (carryOut (bus device)) := by
            rw [carryOut, under]
            refine .carriedOut under fun kept => ?_
            cases command <;> simp_all [levelAfter, Command.calibrates]
          exact .single ⟨device, _, event, rfl⟩
      | accepted | refused =>
          have same : settle bus device = bus := by simp [settle, carryOut, under]
          rw [same]
          exact .refl

theorem responds_response (probe : Probe) : probe.Responds (response probe) := by
  rw [response]
  split
  · next command under => exact ⟨command, under⟩
  · trivial

theorem responds_answer (setup : Setup) (op : JobOp) {probe : Probe}
    {answer : Except EzoError EzoDeviceStatus} (responds : probe.Responds answer) :
    probe.Responds (setup.answer op answer) := by
  rw [Setup.answer]
  split
  · trivial
  · exact responds

theorem replies_answer {α : Type} (setup : Setup) (op : JobOp) {probe : Probe} {query : Command}
    {value : α} {answer : Except EzoError α} (replies : probe.Replies query value answer) :
    probe.Replies query value (setup.answer op answer) := by
  rw [Setup.answer]
  split
  · trivial
  · exact replies

theorem replies_reply {α : Type} (probe : Probe) (query : Command) (value : α) :
    probe.Replies query value (reply probe query value) := by
  by_cases done : probe.command = some (query, .accepted)
  · rw [reply, if_pos done]
    exact ⟨done, rfl⟩
  · rw [reply, if_neg done]
    trivial

/-- A job against the canned bus. -/
def run (setup : Setup) (job : Job) (bus : Bus) : Program.Play JobOp JobOp.Result Bus Status :=
  job.play (responder setup) bus

/-- A bus with a probe which holds `holding` at every address. -/
def probes (holding powerUp : Holding) : Bus := fun _ => { holding, powerUp }

/-- The canned answers are answers of the bus. -/
theorem faithful (setup : Setup) (bus : Bus) (op : JobOp) :
    Bus.environment.Answers bus op ((responder setup).respond bus op).1
      ((responder setup).respond bus op).2 := by
  cases op with
  | bind | delay | store => exact ⟨bus, .refl, rfl⟩
  | send device command =>
      refine ⟨bus, .refl, ?_⟩
      by_cases failed : setup.fails (.send device command) = true
      · simp [responder, respond, failed, Bus.Answer]
      · simp [responder, respond, failed, Bus.Answer]
  | readResponse device =>
      exact ⟨settle bus device, drift_settle bus device, rfl,
        responds_answer setup _ (responds_response _)⟩
  | readInfo device | readOutputConfig device | readValue device | readOutputs device _ =>
      exact ⟨settle bus device, drift_settle bus device, rfl⟩
  | readCalibrationStatus device | readTemperature device | readSalinity device
  | readPressure device =>
      exact ⟨settle bus device, drift_settle bus device, rfl,
        replies_answer setup _ (replies_reply _ _ _)⟩

theorem runs_run (setup : Setup) (job : Job) (bus : Bus) :
    job.Runs (run setup job bus).trace (run setup job bus).value :=
  job.play_runs (responder setup) bus

theorem path_run (setup : Setup) (job : Job) (bus : Bus) :
    Bus.environment.Path bus (run setup job bus).trace (run setup job bus).final :=
  job.play_path (faithful setup) bus

end CannedBus
end EzoProvider.Devices
