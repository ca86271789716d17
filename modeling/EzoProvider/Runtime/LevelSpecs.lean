import EzoProvider.Runtime.CheckSpecs
import EzoProvider.Runtime.DoCalibration

/-!
# Calibration and its level on the bus

A level which was read is the level the device has, with no calibration command
left to come. A calibration call which returned ok has been carried out, once.
-/

namespace EzoProvider.Runtime

open Interaction Program Devices Environment

section Outcome

variable [EzoDriver]

/-- The job of a calibration call other than a DO calibration is its one command. -/
theorem callJob_calibration {type : EzoDeviceType} {address : Address} {functionId : Nat}
    {args : ControlArgs}
    (calibrates : functionId = kFunctionCalibrate ∨ functionId = kFunctionClearCalibration)
    (plain : ¬ (functionId = kFunctionCalibrate ∧ type = .dox)) :
    ∃ command, command.calibrates = true ∧
      callJob address functionId type args =
        concludes (bindEzoI2cDevice address >>= fun device =>
          sendCommand device command "send control command") := by
  have flag : (decide (functionId = kFunctionCalibrate) && decide (type = .dox)) = false := by
    simpa using plain
  rw [callJob, flag]
  rcases calibrates with rfl | rfl
  · refine ⟨if type = .ph then
      .phCalibration args.calibrationPoint args.referencePh kReferencePhDecimals
      else .doCalibration args.calibrationPoint, by split <;> rfl, ?_⟩
    rfl
  · exact ⟨.clearCalibration, rfl, rfl⟩

variable {type : EzoDeviceType} {address : Address} {trace : JobTrace}

/-- What a calibration call which returned ok has sent: a calibration command, accepted,
and after it nothing but compensation. -/
theorem accepted_of_calibration {functionId : Nat} {args : ControlArgs} {status : Status}
    (calibrates : functionId = kFunctionCalibrate ∨ functionId = kFunctionClearCalibration)
    (run : (callJob address functionId type args).Runs trace status) (ok : status.isOk = true) :
    ∃ command before accepted after, trace = before ++ (accepted ++ after) ∧
      command.calibrates = true ∧ Accepted address command accepted ∧
      ∀ exchange ∈ after, exchange.1.Within address fun command => command.setsCompensation := by
  by_cases calibration : functionId = kFunctionCalibrate ∧ type = .dox
  · obtain ⟨rfl, rfl⟩ := calibration
    cases doCalibrationRun_of_runs run with
    | unbound result => simp at ok
    | defaultsFailed failed restored =>
        have refused := (@reliable_writeCompensation _ .dox _ _ _ rfl).refuses _ _ failed
        exact absurd ok (Bool.not_eq_true _ ▸ refused)
    | unsent result accepted => simp [isOk_statusFromEzoResult] at ok
    | @answered defaults waits reads restoring hint response outcome accepted waited read restored =>
        have answered : response.isOk = true := by
          by_contra failed
          simp [failed] at ok
        refine ⟨.doCalibration args.calibrationPoint, ⟨.bind address, .ok ()⟩ :: defaults,
          ⟨.send address (.doCalibration args.calibrationPoint), .ok hint⟩ :: (waits ++ reads),
          restoring, by simp, rfl, ?_, ((only_doWriteCompensation _ _).advances restored).1⟩
        exact ⟨hint, waits, reads, rfl, runs_waitForTimingHint waited,
          answered_of_readCommandResponse read answered⟩
  · obtain ⟨command, calibrating, same⟩ := callJob_calibration calibrates calibration
    rw [same] at run
    obtain ⟨accepted, rfl, body⟩ := runs_bound (reliable_sendCommand _ _ _) run ok
    exact ⟨command, [⟨.bind address, .ok ()⟩], accepted, [], by simp, calibrating,
      accepted_of_sendCommand body, by simp⟩

variable [DecimalText] {line line' : Line} {reply : SubmitReply}

theorem level_of_finished {reader : Address → JobM ℚ}
    (adapted : (adapterFor type).readCalibrationLevel = some reader)
    (finished : line.Finished (calibrationLevelJob address reader) reply trace line')
    (ok : reply.status.isOk = true) :
    line'.Free Command.calibrates address ∧ reply.outputs.level = (line'.bus address).level := by
  obtain ⟨cleared, ended, clear, run, same, path, drift, alone⟩ := finished
  obtain ⟨reads, level, rfl, read, stored⟩ := runs_calibrationLevelJob adapted run ok
  rw [← List.cons_append] at path
  obtain ⟨middle, readPath, storePath⟩ := path_append_iff.mp path
  obtain ⟨bound, _, queryPath⟩ := path_cons_iff.mp readPath
  obtain ⟨done, reported⟩ : (middle address).Done .calibrationQuery ∧
      level = (middle address).level := by
    cases type <;> cases adapted <;> exact Probe.reported_level read queryPath
  have went := went_of_store address storePath drift (Command.calibrates · = false)
  have idle : Line.Free Command.calibrates address { bus := middle } :=
    Line.free_of_probe done.uncalibrating
  refine ⟨went.free idle fun job left => by simp [alone] at left, ?_⟩
  have unchanged := (went.later address).level (went.calibration idle)
  rw [same, stored, reported, unchanged]

/-- A calibration call which returned ok has calibrated the device. -/
theorem calibrated_of_finished {functionId : Nat} {args : ControlArgs}
    (calibrates : functionId = kFunctionCalibrate ∨ functionId = kFunctionClearCalibration)
    (finished : line.Finished (callJob address functionId type args) reply trace line')
    (ok : reply.status.isOk = true) :
    line'.Free Command.calibrates address ∧
      (line.bus address).calibrations < (line'.bus address).calibrations := by
  obtain ⟨cleared, ended, clear, run, _, path, drift, alone⟩ := finished
  obtain ⟨command, before, accepted, after, rfl, calibrating, taken, within⟩ :=
    accepted_of_calibration calibrates run ok
  obtain ⟨first, beforePath, rest⟩ := path_append_iff.mp path
  obtain ⟨second, acceptedPath, afterPath⟩ := path_append_iff.mp rest
  have took := Probe.took_of_accepted taken acceptedPath
  have went : Line.Went (JobOp.Spares address (Command.calibrates · = false)) { bus := second }
      line' := by
    refine ⟨after, ended, ?_, afterPath, drift⟩
    rintro ⟨_, answer⟩ member command rfl
    have sets := (within _ member).2
    cases command <;> simp_all [Command.setsCompensation, Command.calibrates]
  have idle : Line.Free Command.calibrates address { bus := second } :=
    Line.free_of_probe took.done.uncalibrating
  refine ⟨went.free idle fun job left => by simp [alone] at left, ?_⟩
  have cleared := (clear.later address).calibrations
  have prior := (Probe.later_of_path beforePath address).calibrations
  have rose := took.calibrated calibrating
  have kept := went.calibration idle
  simp only at kept
  omega

end Outcome
end EzoProvider.Runtime
