import EzoProvider.Bus.Executions
import EzoProvider.Devices.CommandTraces
import EzoProvider.Runtime.ControlJob

/-!
# Traces of a DO calibration

What a DO calibration job has done when it sends `Cal` or `Cal,0`, for every
sequence of driver answers, alone and on the shared executor.
-/

namespace EzoProvider.Runtime

open Interaction Program Devices Bus

variable [EzoDriver]

/-- The job of a DO calibration, part by part. -/
theorem callJob_doCalibration (address : Address) (args : ControlArgs) :
    callJob address kFunctionCalibrate .dox args =
      concludes (do
        let device ← bindEzoI2cDevice address
        sendDefaults (some Do.writeCompensation) device args.restore
        sendControlCommand (some Do.writeCompensation) device kFunctionCalibrate
          (.doCalibration args.calibrationPoint) true args.restore) :=
  rfl

theorem only_doWriteCompensation (device : Address) (values : Compensation) :
    (Do.writeCompensation device values).run.Only
      (JobOp.Within device fun command => command.setsCompensation) := by
  refine only_exceptT_bind (only_sendValue fun _ => rfl) fun _ => ?_
  exact only_exceptT_bind (only_sendValue fun _ => rfl) fun _ => only_sendValue fun _ => rfl

theorem only_sendDefaults (device : Address) (restore : Compensation) :
    (sendDefaults (some Do.writeCompensation) device restore).run.Only
      (JobOp.Within device fun command => command.setsCompensation) := by
  refine only_bind (only_doWriteCompensation device _) fun outcome => ?_
  cases outcome with
  | ok _ => trivial
  | error _ => exact only_bind (only_doWriteCompensation device _) fun _ => trivial

/-- The exchanges which set the default compensation. -/
def DefaultsAccepted (device : Address) (trace : JobTrace) : Prop :=
  ∃ temperature salinity pressure, trace = temperature ++ (salinity ++ pressure) ∧
    Accepted device (.temperatureSet 20 2) temperature ∧
    Accepted device (.salinitySet 0 .microsiemens 1) salinity ∧
    Accepted device (.pressureSet (1013 / 10) 2) pressure

/-- The job goes on past the defaults only when the device has accepted all three. -/
theorem defaultsAccepted_of_sendDefaults {device : Address} {restore : Compensation}
    {trace : JobTrace}
    (run : (sendDefaults (some Do.writeCompensation) device restore).run.Runs trace (.ok ())) :
    DefaultsAccepted device trace := by
  obtain ⟨first, outcome, second, rfl, written, rest⟩ := runs_bind_iff.mp run
  cases outcome with
  | error defaults =>
      obtain ⟨_, _, _, _, _, last⟩ := runs_bind_iff.mp rest
      obtain ⟨_, same⟩ := runs_done_iff.mp last
      simp at same
  | ok _ =>
      obtain ⟨rfl, _⟩ := runs_done_iff.mp rest
      obtain ⟨temperature, _, _, rfl, temperatureRun, later⟩ := runs_exceptT_bind_ok_iff.mp written
      obtain ⟨salinity, _, pressure, rfl, salinityRun, pressureRun⟩ :=
        runs_exceptT_bind_ok_iff.mp later
      exact ⟨temperature, salinity, pressure, by simp, accepted_of_sendCommand temperatureRun,
        accepted_of_sendCommand salinityRun, accepted_of_sendCommand pressureRun⟩

/-- After the calibration command the job sends compensation only. -/
theorem sendControlCommand_calibration (device : Address) (point : Nat) (restore : Compensation) :
    ∃ next : Except EzoError Nat → Program JobOp JobOp.Result (Except Status Unit),
      (sendControlCommand (some Do.writeCompensation) device kFunctionCalibrate
        (.doCalibration point) true restore).run =
        Program.perform (.send device (.doCalibration point)) next ∧
      ∀ answer, (next answer).Only
        (JobOp.Within device fun command => command.setsCompensation) := by
  refine ⟨_, rfl, fun answer => ?_⟩
  cases answer with
  | error result => trivial
  | ok hint =>
      refine only_exceptT_lift_bind only_waitForTimingHint fun _ => ?_
      refine only_exceptT_lift_bind only_readCommandResponse fun response => ?_
      refine only_exceptT_bind ?_ fun _ => only_checkStatus
      exact only_bind (only_doWriteCompensation device _) fun _ => trivial

/-- A DO calibration job which performs its calibration command has done nothing
before it but bind the device and have it accept the default compensation. -/
theorem defaultsAccepted_before_calibration {address device : Address} {args : ControlArgs}
    {own : JobTrace} {point : Nat} {answer : Except EzoError Nat} {rest : Job}
    (advance : (callJob address kFunctionCalibrate .dox args).Advances
      (own ++ [⟨.send device (.doCalibration point), answer⟩]) rest) :
    device = address ∧ point = args.calibrationPoint ∧
      ∃ defaults, own = ⟨.bind address, .ok ()⟩ :: defaults ∧
        DefaultsAccepted address defaults := by
  rw [callJob_doCalibration, concludes] at advance
  -- The conclusion of the job performs nothing.
  obtain ⟨middle, advance⟩ := advances_of_map
    (by rintro (status | _) <;> exact ⟨_, rfl⟩) advance
  have calibrates : ∀ target commands, (∀ command, commands command → command.setsCompensation) →
      ¬ JobOp.Within target commands (.send device (.doCalibration point)) := by
    rintro target commands sets ⟨_, permitted⟩
    have impossible := sets _ permitted
    simp [Command.setsCompensation] at impossible
  obtain ⟨_, bound, _, rfl, bindRun, afterBind⟩ := advances_exceptT_bind_of_only
    (only_bindEzoI2cDevice address) (calibrates _ _ fun _ => id) advance
  obtain ⟨rfl, rfl⟩ := runs_bindEzoI2cDevice bindRun
  obtain ⟨defaults, _, tail, rfl, defaultsRun, afterDefaults⟩ :=
    advances_exceptT_bind_of_only (only_sendDefaults _ _) (calibrates _ _ fun _ => id) afterBind
  obtain ⟨next, same, sets⟩ :=
    sendControlCommand_calibration bound args.calibrationPoint args.restore
  rw [same] at afterDefaults
  cases tail with
  | nil =>
      cases afterDefaults
      exact ⟨rfl, rfl, defaults, by simp, defaultsAccepted_of_sendDefaults defaultsRun⟩
  | cons exchange tail =>
      cases afterDefaults with
      | perform later =>
          have permitted := ((sets _).advances later).1
            ⟨.send device (.doCalibration point), answer⟩ (by simp)
          exact absurd permitted (calibrates _ _ fun _ => id)

end EzoProvider.Runtime
