import EzoProvider.Runtime.DoCalibration

/-!
# Sending the values back after a DO calibration

A DO calibration job overwrites what the probe compensates for, and is to send
the values back on every way out. It does on all but one: when the calibration
command itself cannot be sent.
-/

namespace EzoProvider.Runtime

open Interaction Program Environment Devices

/-- The job has sent a command which sets one of the default values. -/
def DefaultsSent (device : Address) (trace : JobTrace) : Prop :=
  ∃ command answer, ⟨.send device command, answer⟩ ∈ trace ∧
    command ∈ [.temperatureSet 20 2, .salinitySet 0 .microsiemens 1, .pressureSet (1013 / 10) 2]

/-- The calibration command could not be sent. -/
def CalibrationUnsent (device : Address) (point : Nat) (trace : JobTrace) : Prop :=
  ∃ result, ⟨.send device (.doCalibration point), .error result⟩ ∈ trace

theorem DefaultsSent.mono {device : Address} {trace larger : JobTrace}
    (sent : DefaultsSent device trace) (contained : ∀ exchange ∈ trace, exchange ∈ larger) :
    DefaultsSent device larger := by
  obtain ⟨command, answer, member, default⟩ := sent
  exact ⟨command, answer, contained _ member, default⟩

/-- Accepting the defaults takes sending them. -/
theorem DefaultsAccepted.sent {device : Address} {trace : JobTrace}
    (accepted : DefaultsAccepted device trace) : DefaultsSent device trace := by
  obtain ⟨_, _, _, rfl, ⟨hint, _, _, rfl, _⟩, _⟩ := accepted
  exact ⟨.temperatureSet 20 2, .ok hint, by simp, by simp⟩

theorem DefaultsAccepted.not_unsent {device : Address} {point : Nat} {trace : JobTrace}
    (accepted : DefaultsAccepted device trace) : ¬ CalibrationUnsent device point trace := by
  rintro ⟨result, member⟩
  obtain ⟨temperature, salinity, pressure, rfl, temperatureSent, salinitySent, pressureSent⟩ :=
    accepted
  rw [List.mem_append, List.mem_append] at member
  rcases member with member | member | member
  · have same := temperatureSent.eq_of_send member
    simp at same
  · have same := salinitySent.eq_of_send member
    simp at same
  · have same := pressureSent.eq_of_send member
    simp at same

section Jobs

variable [EzoDriver]

/-- The job has called `write_compensation` with the restore values after it sent a
default one, and has done nothing since. -/
def RestoreCalled (device : Address) (restore : Compensation) (trace : JobTrace) : Prop :=
  ∃ earlier restoring outcome, trace = earlier ++ restoring ∧ DefaultsSent device earlier ∧
    (Do.writeCompensation device restore).run.Runs restoring outcome

/-! ## What a write does -/

section Write

variable {device : Address} {values : Compensation} {trace : JobTrace}
  {outcome : Except Status Unit}

/-- The first thing a write of the defaults does is to send one. -/
theorem defaultsSent_of_runs
    (run : (Do.writeCompensation device defaultCompensation).run.Runs trace outcome) :
    DefaultsSent device trace := by
  obtain ⟨answer, tail, rfl, _⟩ := runs_perform_iff.mp run
  exact ⟨_, answer, List.mem_cons_self, by simp [kDoDefaultTemperatureC, Do.kTemperatureDecimals]⟩

/-- A write performs nothing only when it has nothing to send. -/
theorem empty_of_runs_nil (run : (Do.writeCompensation device values).run.Runs [] outcome) :
    values = {} := by
  obtain ⟨temperature, salinity, pressure⟩ := values
  cases temperature with
  | some _ => cases run
  | none =>
      cases salinity with
      | some _ => cases run
      | none =>
          cases pressure with
          | some _ => cases run
          | none => rfl

/-- A write never sends a calibration command. -/
theorem not_unsent_of_write {target : Address} {point : Nat}
    (run : (Do.writeCompensation device values).run.Runs trace outcome) :
    ¬ CalibrationUnsent target point trace := by
  rintro ⟨result, member⟩
  have within := ((only_doWriteCompensation device values).advances run).1 _ member
  simp [JobOp.Within, Command.setsCompensation] at within

/-- Reading a response sends nothing. -/
theorem not_unsent_of_read {target : Address} {point : Nat} {status : Status}
    (run : (readCommandResponse device).Runs trace status) :
    ¬ CalibrationUnsent target point trace := by
  rintro ⟨result, member⟩
  have only : (readCommandResponse device).Only (JobOp.Within device fun _ => False) :=
    only_readCommandResponse
  have within := (only.advances run).1 _ member
  simp [JobOp.Within] at within

end Write

/-! ## The way out which forgets -/

section Job

variable {address : Address} {args : ControlArgs} {trace : JobTrace} {status : Status}

/-- With something to send back, a job which could not send its calibration command
returns without doing so. -/
theorem not_restoreCalled_of_unsent (run : DoCalibrationRun address args trace status)
    (unsent : CalibrationUnsent address args.calibrationPoint trace) (held : args.restore ≠ {}) :
    ¬ RestoreCalled address args.restore trace := by
  rintro ⟨earlier, restoring, outcome, split, _, restored⟩
  cases run with
  | unbound =>
      obtain ⟨_, member⟩ := unsent
      simp at member
  | defaultsFailed failed restored' =>
      obtain ⟨result, member⟩ := unsent
      rcases List.mem_append.mp (List.mem_of_ne_of_mem (by simp) member) with tried | sentBack
      · exact not_unsent_of_write failed ⟨result, tried⟩
      · exact not_unsent_of_write restored' ⟨result, sentBack⟩
  | unsent result accepted =>
      rcases List.eq_nil_or_concat restoring with rfl | ⟨front, last, rfl⟩
      · exact held (empty_of_runs_nil restored)
      · rw [List.concat_eq_append, ← List.cons_append, ← List.append_assoc] at split
        obtain ⟨_, same⟩ := List.append_inj' split rfl
        obtain rfl := List.singleton_inj.mp same
        have none : ¬ CalibrationUnsent address args.calibrationPoint _ :=
          not_unsent_of_write restored
        exact none ⟨result, by simp⟩
  | answered accepted waited read restored' =>
      obtain ⟨result, member⟩ := unsent
      rcases List.mem_append.mp (List.mem_of_ne_of_mem (by simp) member) with defaults | member
      · exact accepted.not_unsent ⟨result, defaults⟩
      rcases List.mem_append.mp (List.mem_of_ne_of_mem (by simp) member) with wait | member
      · obtain ⟨_, same⟩ := runs_waitForTimingHint waited _ wait
        simp at same
      rcases List.mem_append.mp member with response | sentBack
      · exact not_unsent_of_read read ⟨result, response⟩
      · exact not_unsent_of_write restored' ⟨result, sentBack⟩

/-- Every other way out sends the values back. -/
theorem restoreCalled_of_sent (run : DoCalibrationRun address args trace status)
    (begun : DefaultsSent address trace)
    (sent : ¬ CalibrationUnsent address args.calibrationPoint trace) :
    RestoreCalled address args.restore trace := by
  cases run with
  | unbound =>
      obtain ⟨_, _, member, _⟩ := begun
      simp at member
  | @defaultsFailed tried restoring _ outcome failed restored =>
      refine ⟨⟨.bind address, .ok ()⟩ :: tried, restoring, outcome, by simp, ?_, restored⟩
      exact (defaultsSent_of_runs failed).mono fun _ member => List.mem_cons_of_mem _ member
  | unsent result => exact absurd ⟨result, by simp⟩ sent
  | @answered defaults waits reads restoring hint _ outcome accepted _ _ restored =>
      refine ⟨⟨.bind address, .ok ()⟩ ::
        (defaults ++ (⟨.send address (.doCalibration args.calibrationPoint), .ok hint⟩ ::
          (waits ++ reads))), restoring, outcome, by simp, ?_, restored⟩
      exact accepted.sent.mono fun _ member => by simp [member]

/-- A DO calibration job which has sent a default value has called
`write_compensation` with the restore values when it returns, exactly when it
could send the calibration command or had nothing to send back. -/
theorem restoreCalled_iff
    (run : (callJob address kFunctionCalibrate .dox args).Runs trace status)
    (begun : DefaultsSent address trace) :
    RestoreCalled address args.restore trace ↔
      ¬ CalibrationUnsent address args.calibrationPoint trace ∨ args.restore = {} := by
  have cases := doCalibrationRun_of_runs run
  constructor
  · intro called
    by_contra neither
    rw [not_or, not_not] at neither
    exact not_restoreCalled_of_unsent cases neither.1 neither.2 called
  · rintro (sent | empty)
    · exact restoreCalled_of_sent cases begun sent
    · exact ⟨trace, [], .ok (), by simp, begun, by rw [empty]; exact .refl⟩

end Job

end Jobs

open CannedBus in
/-- A calibration on a bus which delivers everything. -/
theorem restoreCalled_iff_delivered :
    let args : ControlArgs := { restore := { temperatureC := some 30 } }
    let trace := (run { product := fun _ => .dox } (callJob 0x61 kFunctionCalibrate .dox args)
      (probes ⟨30, 0, .microsiemens, 100⟩ defaultHolding)).trace
    RestoreCalled 0x61 args.restore trace ↔
      ¬ CalibrationUnsent 0x61 0 trace ∨ args.restore = {} := by
  intro args trace
  have split : trace = ⟨.bind 0x61, .ok ()⟩ :: ⟨.send 0x61 (.temperatureSet 20 2), .ok 0⟩ ::
    trace.drop 2 := rfl
  refine restoreCalled_iff (runs_run _ _ _) ⟨.temperatureSet 20 2, .ok 0, ?_, by simp⟩
  rw [← show trace = _ from rfl, split]
  simp

open CannedBus in
/-- The calibration command fails on the bus, and the probe is left at the defaults
instead of the 30 degrees it was to get back. -/
theorem calibration_unsent_leaves_defaults :
    ∃ (args : ControlArgs) (trace : JobTrace) (status : Status) (bus bus' : Bus),
      (callJob 0x61 kFunctionCalibrate .dox args).Runs trace status ∧
      Bus.environment.Path bus trace bus' ∧ DefaultsSent 0x61 trace ∧
      ¬ RestoreCalled 0x61 args.restore trace ∧
      args.restore.temperatureC = some (bus 0x61).holding.temperatureC ∧
      (bus 0x61).holding.temperatureC = 30 ∧ (bus' 0x61).holding = defaultHolding := by
  let args : ControlArgs := { restore := { temperatureC := some 30 } }
  let setup : Setup := { product := fun _ => .dox, fails := (· = .send 0x61 (.doCalibration 0)) }
  let bus := probes ⟨30, 0, .microsiemens, 100⟩ defaultHolding
  let job := callJob 0x61 kFunctionCalibrate .dox args
  have split : (run setup job bus).trace =
      ⟨.bind 0x61, .ok ()⟩ :: ⟨.send 0x61 (.temperatureSet 20 2), .ok 0⟩ ::
        (((run setup job bus).trace.drop 2).take 5 ++
          [⟨.send 0x61 (.doCalibration 0), .error .transport⟩]) := rfl
  refine ⟨args, _, _, bus, _, runs_run setup job bus, path_run setup job bus, ?_, ?_, rfl, rfl, ?_⟩
  · rw [split]
    exact ⟨.temperatureSet 20 2, .ok 0, by simp, by simp⟩
  · refine not_restoreCalled_of_unsent (doCalibrationRun_of_runs (runs_run setup job bus)) ?_ ?_
    · rw [split]
      exact ⟨.transport, by simp [args]⟩
    · simp [args]
  · decide +kernel

end EzoProvider.Runtime
