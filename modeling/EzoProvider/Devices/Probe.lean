import EzoProvider.Devices.Driver
import EzoProvider.Devices.Rounding
import EzoProvider.Interaction.Environment
import Mathlib.Logic.Function.Basic
import Mathlib.Logic.Relation

/-!
# The probes on the bus

What is assumed of the devices, and of a bus between them and the driver which
either delivers a transaction unchanged or fails it. A probe carries out a
command it received at some point of its own choosing, answers SUCCESS only for
one it has carried out, and replies to a query with what it holds. Losing power
makes it forget its compensation and the command it was at, not its
calibration.

`powerUps` and `calibrations` count events; nothing depends on them.
-/

namespace EzoProvider.Devices

open Interaction

/-- The compensation a probe holds. -/
structure Holding where
  temperatureC : ℚ
  salinity : ℚ
  salinityUnit : SalinityUnit
  pressureKpa : ℚ
deriving DecidableEq, Repr

/-- How far a probe is with the last command it received. -/
inductive Progress where
  | pending
  | accepted
  | refused
deriving DecidableEq, Repr

/-- One probe. It reverts to `powerUp` when it loses power. -/
structure Probe where
  holding : Holding
  powerUp : Holding
  level : Nat := 0
  command : Option (Command × Progress) := none
  powerUps : Nat := 0
  calibrations : Nat := 0
deriving DecidableEq, Repr

variable [DecimalText]

/-- A value is stored as it was sent. -/
def Holding.apply (holding : Holding) : Command → Holding
  | .temperatureSet celsius decimals =>
      { holding with temperatureC := DecimalText.sent.round decimals celsius }
  | .salinitySet value unit decimals =>
      { holding with salinity := DecimalText.sent.round decimals value, salinityUnit := unit }
  | .pressureSet kilopascals decimals =>
      { holding with pressureKpa := DecimalText.sent.round decimals kilopascals }
  | _ => holding

/-- The replies to `T,?`, `S,?` and `P,?`. -/
def Holding.reportedTemperature (holding : Holding) : ℚ :=
  DecimalText.reported.round 1 holding.temperatureC

def Holding.reportedSalinity (holding : Holding) : ℚ × SalinityUnit :=
  (DecimalText.reported.round 0 holding.salinity, holding.salinityUnit)

def Holding.reportedPressure (holding : Holding) : ℚ :=
  DecimalText.reported.round 1 holding.pressureKpa

namespace Probe

/-- The probe receives a command, and forgets the one before. -/
def receive (probe : Probe) (command : Command) : Probe :=
  { probe with command := some (command, .pending) }

/-- What a probe does by itself. Which level a calibration leaves is its own affair. -/
inductive Event : Probe → Probe → Prop where
  | carriedOut {probe : Probe} {command : Command} {level : Nat}
      (pending : probe.command = some (command, .pending))
      (kept : command.calibrates = false → level = probe.level) :
      Event probe
        { probe with
          holding := probe.holding.apply command
          level
          command := some (command, .accepted)
          calibrations := probe.calibrations + if command.calibrates then 1 else 0 }
  | refused {probe : Probe} {command : Command}
      (pending : probe.command = some (command, .pending)) :
      Event probe { probe with command := some (command, .refused) }
  | powerLost {probe : Probe} :
      Event probe
        { probe with holding := probe.powerUp, command := none, powerUps := probe.powerUps + 1 }

/-- The probe has carried out its last command, which is `command`. -/
def Done (probe : Probe) (command : Command) : Prop := probe.command = some (command, .accepted)

/-- The response codes a probe gives, and the failures of the transaction. -/
def Responds (probe : Probe) : Except EzoError EzoDeviceStatus → Prop
  | .ok .success => ∃ command, probe.Done command
  | .ok .fail => ∃ command, probe.command = some (command, .refused)
  | .ok .notReady => ∃ command, probe.command = some (command, .pending)
  | .ok .noData | .ok .unknown | .error _ => True

/-- A typed reply is the answer to its own query. -/
def Replies {α : Type} (probe : Probe) (query : Command) (value : α) : Except EzoError α → Prop
  | .ok reply => probe.Done query ∧ reply = value
  | .error _ => True

end Probe

/-- The probes by address. -/
abbrev Bus := Address → Probe

namespace Bus

/-- One event at one address. -/
def Event (bus bus' : Bus) : Prop :=
  ∃ address probe, (bus address).Event probe ∧ bus' = Function.update bus address probe

/-- What happens on the bus between two operations. -/
def Drift : Bus → Bus → Prop := Relation.ReflTransGen Event

/-- A device receives a command. -/
def receive (bus : Bus) (device : Address) (command : Command) : Bus :=
  Function.update bus device ((bus device).receive command)

/-- The answer to one operation. A failed send may have been delivered. -/
def Answer (bus : Bus) : (op : JobOp) → op.Result → Bus → Prop
  | .send device command, .ok _, bus' => bus' = bus.receive device command
  | .send device command, .error _, bus' => bus' = bus ∨ bus' = bus.receive device command
  | .readResponse device, answer, bus' => bus' = bus ∧ (bus device).Responds answer
  | .readCalibrationStatus device, answer, bus' =>
      bus' = bus ∧ (bus device).Replies .calibrationQuery (bus device).level answer
  | .readTemperature device, answer, bus' =>
      bus' = bus ∧
        (bus device).Replies .temperatureQuery (bus device).holding.reportedTemperature answer
  | .readSalinity device, answer, bus' =>
      bus' = bus ∧ (bus device).Replies .salinityQuery (bus device).holding.reportedSalinity answer
  | .readPressure device, answer, bus' =>
      bus' = bus ∧ (bus device).Replies .pressureQuery (bus device).holding.reportedPressure answer
  | .bind _, _, bus' | .delay _, _, bus' | .readInfo _, _, bus' | .readOutputConfig _, _, bus'
  | .readValue _, _, bus' | .readOutputs _ _, _, bus' | .store _, _, bus' => bus' = bus

/-- The bus answering a job. -/
def environment : Environment JobOp JobOp.Result Bus where
  Answers bus op answer bus' := ∃ middle, Drift bus middle ∧ Answer middle op answer bus'

end Bus
end EzoProvider.Devices
