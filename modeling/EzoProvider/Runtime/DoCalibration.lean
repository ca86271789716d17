import EzoProvider.Devices.CannedBus
import EzoProvider.Devices.CompensationSpecs
import EzoProvider.Runtime.CalibrationTraces

/-!
# DO calibration

`DoCalibrationRun` lists the ways a DO calibration job can run. Over it stand
the guarantee that a calibration is only stored at the default compensation,
and what becomes of the values that were there before.
-/

namespace EzoProvider.Runtime

open Interaction Program Environment Devices Bus

theorem runs_ignoreStatus {part : JobM Unit} {trace : JobTrace} {value : Except Status Unit}
    (run : (ignoreStatus part).run.Runs trace value) :
    value = .ok () ∧ ∃ outcome, part.run.Runs trace outcome := by
  obtain ⟨first, outcome, second, rfl, before, after⟩ := runs_bind_iff.mp run
  obtain ⟨rfl, rfl⟩ := runs_done_iff.mp after
  exact ⟨rfl, outcome, by simpa using before⟩

/-- The compensation a DO probe has to be calibrated at. -/
def defaultHolding : Holding := ⟨20, 0, .microsiemens, 1013 / 10⟩

theorem write_defaultCompensation [DecimalText] (holding : Holding) :
    holding.write defaultCompensation = defaultHolding := by
  have temperature := DecimalText.sent.exact_of_decimal (Nat.zero_le 2) 20
  have pressure := DecimalText.sent.exact_of_decimal (by decide : 1 ≤ 2) 1013
  norm_num at temperature pressure
  simp [Holding.write, defaultCompensation, defaultHolding, kDoDefaultTemperatureC,
    kDoDefaultSalinityUsCm, kDoDefaultPressureKpa, temperature, pressure, Rounding.round_zero]

theorem written_of_defaultsAccepted {device : Address} {trace : JobTrace}
    (accepted : DefaultsAccepted device trace) : Written device defaultCompensation trace :=
  accepted

/-- Once the defaults are accepted the probe holds them, until it loses power. -/
theorem holding_of_defaultsAccepted [DecimalText] {device : Address} {trace : JobTrace}
    {bus bus' : Bus} (accepted : DefaultsAccepted device trace)
    (path : Bus.environment.Path bus trace bus')
    (powered : (bus' device).powerUps = (bus device).powerUps) :
    (bus' device).holding = defaultHolding ∧ (bus' device).Quiet := by
  have changed := Probe.changed_of_written (written_of_defaultsAccepted accepted) path powered
  obtain ⟨holding, held, _⟩ := changed.held
  refine ⟨by rw [held, write_defaultCompensation], changed.settled.resolve_left fun same => ?_⟩
  have differs := congrFun same ⟨0, 0, .ppt, 0⟩
  rw [write_defaultCompensation] at differs
  simp [defaultHolding] at differs

section Jobs

variable [EzoDriver]

/-! ## The runs of the job -/

/-- The ways a DO calibration job can run, for all answers of the driver. -/
inductive DoCalibrationRun (address : Address) (args : ControlArgs) : JobTrace → Status → Prop where
  | unbound (result : EzoError) :
      DoCalibrationRun address args [⟨.bind address, .error result⟩]
        (makeStatus .internal ("ezo_device_init failed: " ++ EzoDriver.resultName result))
  | defaultsFailed {tried restoring : JobTrace} {defaults : Status} {outcome : Except Status Unit}
      (failed : (Do.writeCompensation address defaultCompensation).run.Runs tried (.error defaults))
      (restored : (Do.writeCompensation address args.restore).run.Runs restoring outcome) :
      DoCalibrationRun address args (⟨.bind address, .ok ()⟩ :: (tried ++ restoring))
        (makeStatus defaults.code
          ("could not set the default compensation a DO calibration needs, " ++
            "so the calibration was not sent: " ++ defaults.message))
  | unsent {defaults : JobTrace} (result : EzoError) (accepted : DefaultsAccepted address defaults) :
      DoCalibrationRun address args
        (⟨.bind address, .ok ()⟩ ::
          (defaults ++ [⟨.send address (.doCalibration args.calibrationPoint), .error result⟩]))
        (statusFromEzoResult result "send control command")
  | answered {defaults waits reads restoring : JobTrace} {hint : Nat} {response : Status}
      {outcome : Except Status Unit} (accepted : DefaultsAccepted address defaults)
      (waited : (waitForTimingHint hint).Runs waits ())
      (read : (readCommandResponse address).Runs reads response)
      (restored : (Do.writeCompensation address args.restore).run.Runs restoring outcome) :
      DoCalibrationRun address args
        (⟨.bind address, .ok ()⟩ ::
          (defaults ++ (⟨.send address (.doCalibration args.calibrationPoint), .ok hint⟩ ::
            (waits ++ (reads ++ restoring)))))
        (if response.isOk then .success else response)

/-- Calibrating at the accepted defaults: the command cannot be sent, or its
response is read and the values are sent back. -/
theorem runs_sendCalibration {address : Address} {point : Nat} {restore : Compensation}
    {trace : JobTrace} {outcome : Except Status Unit}
    (run : (sendControlCommand (some Do.writeCompensation) address kFunctionCalibrate
      (.doCalibration point) true restore).run.Runs trace outcome) :
    (∃ result, trace = [⟨.send address (.doCalibration point), .error result⟩] ∧
      outcome = .error (statusFromEzoResult result "send control command")) ∨
    ∃ hint waits reads response restoring restored,
      trace = ⟨.send address (.doCalibration point), .ok hint⟩ ::
        (waits ++ (reads ++ restoring)) ∧
      (waitForTimingHint hint).Runs waits () ∧
      (readCommandResponse address).Runs reads response ∧
      (Do.writeCompensation address restore).run.Runs restoring restored ∧
      outcome = if response.isOk then .ok () else .error response := by
  rcases runs_exceptT_bind_iff.mp run with
    ⟨status, sent, rfl⟩ | ⟨_, hint, _, rfl, sent, rest⟩
  · obtain ⟨answer, issued, same⟩ := runs_attempt_iff.mp sent
    obtain rfl := runs_issue_iff.mp issued
    cases answer with
    | ok hint => simp [Except.mapError] at same
    | error result =>
        obtain rfl := Except.error.inj same
        exact .inl ⟨result, rfl, rfl⟩
  · obtain ⟨answer, issued, same⟩ := runs_attempt_iff.mp sent
    obtain rfl := runs_issue_iff.mp issued
    cases answer with
    | error result => simp [Except.mapError] at same
    | ok hint' =>
        obtain rfl : hint = hint' := by simpa [Except.mapError] using same
        obtain ⟨waits, _, _, rfl, waited, rest⟩ := runs_exceptT_lift_bind_iff.mp rest
        obtain ⟨reads, response, _, rfl, read, rest⟩ := runs_exceptT_lift_bind_iff.mp rest
        rcases runs_exceptT_bind_iff.mp rest with
          ⟨status, ignored, rfl⟩ | ⟨restoring, _, _, rfl, ignored, checked⟩
        · have impossible := (runs_ignoreStatus ignored).1
          simp at impossible
        · obtain ⟨_, restored, restoreRun⟩ := runs_ignoreStatus ignored
          obtain ⟨rfl, rfl⟩ := runs_checkStatus_iff.mp checked
          exact .inr ⟨hint, waits, reads, response, restoring, restored, by simp, waited, read,
            restoreRun, rfl⟩

/-- Every run of the job is one of these. -/
theorem doCalibrationRun_of_runs {address : Address} {args : ControlArgs} {trace : JobTrace}
    {status : Status} (run : (callJob address kFunctionCalibrate .dox args).Runs trace status) :
    DoCalibrationRun address args trace status := by
  rw [callJob_doCalibration] at run
  obtain ⟨outcome, body, rfl⟩ := runs_concludes run
  rcases runs_exceptT_bind_iff.mp body with ⟨status, bound, rfl⟩ | ⟨_, device, _, rfl, bound, afterBind⟩
  · obtain ⟨answer, tail, rfl, rest⟩ := runs_perform_iff.mp bound
    cases answer with
    | ok _ =>
        have impossible := (runs_done_iff.mp rest).2
        simp at impossible
    | error result =>
        obtain ⟨rfl, same⟩ := runs_done_iff.mp rest
        obtain rfl := Except.error.inj same
        exact .unbound result
  obtain ⟨rfl, rfl⟩ := runs_bindEzoI2cDevice bound
  rcases runs_exceptT_bind_iff.mp afterBind with
    ⟨status, defaults, rfl⟩ | ⟨defaults, _, rest, rfl, set, afterDefaults⟩
  · obtain ⟨tried, written, _, rfl, writeRun, rest⟩ := runs_bind_iff.mp defaults
    cases written with
    | ok _ =>
        have impossible := (runs_done_iff.mp rest).2
        simp at impossible
    | error refused =>
        obtain ⟨restoring, restored, _, rfl, restoreRun, final⟩ := runs_bind_iff.mp rest
        obtain ⟨rfl, same⟩ := runs_done_iff.mp final
        obtain rfl := Except.error.inj same
        have failed : DoCalibrationRun device args _ _ := .defaultsFailed writeRun restoreRun
        simpa using failed
  have accepted := defaultsAccepted_of_sendDefaults set
  rcases runs_sendCalibration afterDefaults with ⟨result, rfl, rfl⟩ |
    ⟨hint, waits, reads, response, restoring, restored, rfl, waited, read, restoreRun, rfl⟩
  · exact .unsent result accepted
  · have answered : DoCalibrationRun device args _ _ := .answered accepted waited read restoreRun
    by_cases ok : response.isOk = true
    · simpa [ok] using answered
    · simpa [ok] using answered

/-! ## Calibrating at the defaults -/

/-- On the shared executor, a DO calibration command comes right after its own
job's default compensation, accepted throughout; no other job is in between. A
probe which keeps its power from there on receives it at exactly the defaults. -/
theorem calibration_sent_at_defaults [DecimalText] {s : Executor JobOp JobOp.Result}
    (reachable : (Executor.system JobOp JobOp.Result).Reachable s) {task : TaskId}
    {call : Call JobOp JobOp.Result} {address device : Address} {args : ControlArgs}
    (found : s.calls[task]? = some call)
    (job : call.job = callJob address kFunctionCalibrate .dox args)
    {earlier later : List (TaskId × Exchange JobOp JobOp.Result)} {point : Nat}
    {answer : Except EzoError Nat}
    (sent : s.log = earlier ++ (task, ⟨.send device (.doCalibration point), answer⟩) :: later) :
    device = address ∧ ∃ before defaults,
      earlier = before ++ (task, ⟨.bind address, .ok ()⟩) :: defaults.map (task, ·) ∧
      DefaultsAccepted address defaults ∧
      ∀ {initial bus received : Bus}, Bus.environment.Path initial (earlier.map Prod.snd) bus →
        Bus.Drift bus received → ∃ started,
          Bus.environment.Path initial (before.map Prod.snd ++ [⟨.bind address, .ok ()⟩]) started ∧
          ((received address).powerUps = (started address).powerUps →
            (received address).holding = defaultHolding) := by
  have invariant := Executor.invariant_of_reachable reachable
  obtain ⟨known, before, own, rest, foundKnown, rfl, _, advance⟩ := invariant.block sent
  obtain rfl : call = known := by simpa [found] using foundKnown
  rw [job] at advance
  obtain ⟨rfl, _, defaults, rfl, accepted⟩ := defaultsAccepted_before_calibration advance
  refine ⟨rfl, before, defaults, by simp, accepted, fun {initial bus received} path drift => ?_⟩
  have traced : (before ++ (⟨.bind device, .ok ()⟩ :: defaults : JobTrace).map (task, ·)).map
      Prod.snd = (before.map Prod.snd ++ [⟨.bind device, .ok ()⟩]) ++ defaults := by
    simp
  rw [traced] at path
  obtain ⟨started, startPath, defaultsPath⟩ := path_append_iff.mp path
  refine ⟨started, startPath, fun powered => ?_⟩
  have set := (Probe.later_of_path defaultsPath device).powerUps
  have drifted := (Probe.later_of_drift drift device).powerUps
  obtain ⟨held, quiet⟩ := holding_of_defaultsAccepted accepted defaultsPath (by omega)
  rw [((Probe.steady_of_drift drift quiet).held (by omega)).1, held]

end Jobs

open CannedBus in
/-- The command, on a bus which answers everything at once. -/
theorem calibration_sent_at_defaults_canned :
    let trace := (run { product := fun _ => .dox } (callJob 0x61 kFunctionCalibrate .dox {})
      (probes ⟨25, 500, .microsiemens, 100⟩ defaultHolding)).trace
    ∃ before defaults,
      (trace.take 7).map ((0 : TaskId), ·) =
        before ++ (0, ⟨.bind 0x61, .ok ()⟩) :: defaults.map (0, ·) ∧
      DefaultsAccepted 0x61 defaults := by
  intro trace
  obtain ⟨s, call, reachable, found, job, log⟩ := Executor.exists_reachable_log
    (runs_run { product := fun _ => .dox } (callJob 0x61 kFunctionCalibrate .dox {})
      (probes ⟨25, 500, .microsiemens, 100⟩ defaultHolding))
  have logged : s.log = (trace.take 7).map (0, ·) ++
      (0, ⟨.send 0x61 (.doCalibration 0), .ok 0⟩) :: (trace.drop 8).map (0, ·) := log
  obtain ⟨_, before, defaults, split, accepted, _⟩ :=
    calibration_sent_at_defaults reachable found job logged
  exact ⟨before, defaults, split, accepted⟩

end EzoProvider.Runtime
