import EzoProvider.Devices.WriteTraces
import EzoProvider.Runtime.AccessorDefaults
import EzoProvider.Runtime.CalibratedCompensation
import EzoProvider.Runtime.JobOutcomes

/-!
# What a failed write leaves

A `set_compensation` that fails has sent a prefix of its commands, answered
SUCCESS for all but the last of them, and is not remembered. A later check sends
the values remembered before.
-/

namespace EzoProvider.Runtime

open Interaction Program Devices

/-! ## The job of a call -/

section Calls

theorem follows_concludes {body : JobM Unit} {stage : WriteStage}
    (follows : body.run.Follows inOrder (fun _ _ => True) stage) :
    (concludes body).Follows inOrder (fun _ _ => True) stage := by
  refine follows_bind follows fun _ outcome _ => ?_
  cases outcome <;> trivial

variable [EzoDriver] {address : Address} {type : EzoDeviceType} {args : ControlArgs}
  {trace : JobTrace}

theorem follows_bindEzoI2cDevice {stage : WriteStage} :
    (bindEzoI2cDevice address).run.Follows inOrder
      (fun later value => later = stage ∧ ∀ device, value = .ok device → device = address)
      stage := by
  intro answer _
  refine ⟨stage, rfl, ?_⟩
  cases answer with
  | ok _ => exact ⟨rfl, fun device same => (Except.ok.inj same).symm⟩
  | error _ => exact ⟨rfl, fun device same => by cases same⟩

/-- The job of a `set_compensation` sends the commands of its values, in order. -/
theorem inOrder_of_setCompensation {rest : Job}
    (advance : (callJob address kFunctionSetCompensation type args).Advances trace rest) :
    InOrder (fieldCommands address type args.compensation) trace := by
  have follows : (callJob address kFunctionSetCompensation type args).Follows inOrder
      (fun _ _ => True) ⟨none, fieldCommands address type args.compensation⟩ := by
    rw [callJob, controlJob]
    refine follows_concludes (follows_exceptT_bind follows_bindEzoI2cDevice ?_ ?_)
    · rintro stage device ⟨rfl, bound⟩
      obtain rfl := bound device rfl
      rw [if_pos rfl]
      cases adapted : (adapterFor type).writeCompensation with
      | none => trivial
      | some write => exact (follows_writeCompensation adapted).mono fun _ _ _ => trivial
    · exact fun _ _ _ => trivial
  obtain ⟨later, path, _⟩ := follows.advances (fun _ _ => trivial) advance
  exact inOrder_of_path path

/-- A job which returned ok has had every command answered SUCCESS. -/
theorem answered_of_setCompensation {status : Status}
    {write : Address → Compensation → JobM Unit}
    (adapted : (adapterFor type).writeCompensation = some write)
    (run : (callJob address kFunctionSetCompensation type args).Runs trace status)
    (ok : status.isOk = true) :
    answeredSuccess none trace = fieldCommands address type args.compensation := by
  obtain ⟨writing, rfl, written⟩ := runs_setCompensation adapted run ok
  exact (ok_iff_of_writeCompensation adapted written).mp rfl

/-! ## What is remembered -/

variable [DecimalText] [ProviderSdk]

/-- A call that fails leaves the values of every device as they were set. -/
theorem set_of_failedCall {submits : Submits} {world world' : World} {deviceId : String}
    {functionId : Nat} {callArgs : ValueMap} {result : AdapterCallResult}
    (step : ProviderStep submits world (.call deviceId functionId callArgs result) world')
    (failed : result.ok = false) {other : String} {device : ActiveDevice}
    (found : world.state.find other = some device) :
    ∃ device', world'.state.find other = some device' ∧
      device'.compensationSet = device.compensationSet := by
  obtain ⟨device', found', _, set⟩ := step.set found
  refine ⟨device', found', ?_⟩
  rw [set, afterOperation, if_neg]
  simp [failed]

/-- `write_compensation` of every family, for every answer of the device: at every moment the
commands sent are a prefix of those for the values the family takes, in the order temperature,
salinity, pressure, and all of them but at most the last were answered SUCCESS; it returns ok
exactly when all of them were. So the job of a `set_compensation` sends nothing for a field
that was not given, and a call that fails leaves the values remembered as they are. -/
theorem compensation_written_in_order :
    (∀ type write, (adapterFor type).writeCompensation = some write → ∀ device values,
      (∀ trace rest, (write device values).run.Advances trace rest →
        InOrder (fieldCommands device type values) trace) ∧
      (∀ trace value, (write device values).run.Runs trace value →
        (value = .ok () ↔ answeredSuccess none trace = fieldCommands device type values))) ∧
    (∀ type args checked, validateCallArgs kFunctionSetCompensation type args = .ok checked →
      (checked.compensation.temperatureC.isSome = true →
        (args.find "temperature_c").isSome = true) ∧
      (checked.compensation.salinityUsCm.isSome = true →
        (args.find "salinity_us_cm").isSome = true) ∧
      (checked.compensation.pressureKpa.isSome = true →
        (args.find "pressure_kpa").isSome = true) ∧
      ∀ address trace rest,
        (callJob address kFunctionSetCompensation type checked).Advances trace rest →
          InOrder (fieldCommands address type checked.compensation) trace) ∧
    ∀ submits world deviceId functionId args result world',
      ProviderStep submits world (.call deviceId functionId args result) world' →
      result.ok = false → ∀ other device, world.state.find other = some device →
        ∃ device', world'.state.find other = some device' ∧
          device'.compensationSet = device.compensationSet := by
  refine ⟨?_, ?_, ?_⟩
  · intro type write adapted device values
    constructor
    · intro trace rest advance
      exact inOrder_of_writeCompensation adapted advance
    · intro trace value run
      exact ok_iff_of_writeCompensation adapted run
  · intro type args checked accepted
    obtain ⟨temperature, salinity, pressure⟩ := given_of_accepted accepted
    refine ⟨temperature, salinity, pressure, fun address trace rest advance => ?_⟩
    exact inOrder_of_setCompensation advance
  · intro submits world deviceId functionId args result world' step failed other device found
    exact set_of_failedCall step failed found

end Calls

section Canned

open CannedBus CannedProvider

/-- A value for each of the fields of a DO probe. -/
def threeValues : Compensation :=
  { temperatureC := some 30, salinityUsCm := some 500, pressureKpa := some 90 }

/-- The arguments of a call which sets them. -/
def threeArgs : ValueMap where
  entries :=
    [("pressure_kpa", { type := .double, payload := some (.double (.finite 90)) }),
      ("salinity_us_cm", { type := .double, payload := some (.double (.finite 500)) }),
      ("temperature_c", { type := .double, payload := some (.double (.finite 30)) })]
  distinct := by simp

/-- A canned bus which loses the commands that set a salinity. -/
def salinityLost : Setup :=
  products .dox fun
    | .send _ (.salinitySet ..) => true
    | _ => false

/-- The write of the three values on a canned bus. -/
def threeWritten (setup : Setup) : Play JobOp JobOp.Result Bus (Except Status Unit) :=
  (Do.writeCompensation 97 threeValues).run.play (CannedBus.responder setup)
    (probes defaults defaults)

/-- All three commands are answered where none is lost. A call which loses the second one has
sent the first two, and its values are not remembered. -/
theorem compensation_written_in_order_canned :
    let healthy := products .dox fun _ => false
    let before := started salinityLost (oneDevice .dox) { holding := defaults, powerUp := defaults }
    let job := callJob 97 kFunctionSetCompensation .dox { compensation := threeValues }
    answeredSuccess none (threeWritten healthy).trace = fieldCommands 97 .dox threeValues ∧
      answeredSuccess none (threeWritten salinityLost).trace ≠ fieldCommands 97 .dox threeValues ∧
      InOrder (fieldCommands 97 .dox threeValues)
        (CannedBus.run salinityLost job before.line.bus).trace ∧
      ∃ device' : ActiveDevice,
        (play salinityLost (call "probe" kFunctionSetCompensation threeArgs) before).final.state.find
          "probe" = some device' ∧ device'.compensationSet = {} := by
  intro healthy before job
  obtain ⟨written, accepted, failed⟩ := compensation_written_in_order
  have wrote := fun setup => (written .dox _ rfl 97 threeValues).2 _ _
    (play_runs (CannedBus.responder setup) (Do.writeCompensation 97 threeValues).run
      (probes defaults defaults))
  refine ⟨(wrote healthy).mp (by decide +kernel), fun answered => ?_, ?_, ?_⟩
  · exact absurd ((wrote salinityLost).mpr answered) (by decide +kernel)
  · have passed : validateCallArgs kFunctionSetCompensation .dox threeArgs =
        .ok { compensation := threeValues } := by decide +kernel
    exact (accepted .dox threeArgs _ passed).2.2.2 97 _ _ (runs_run salinityLost job _)
  · have found : before.state.find "probe" = some (probeDevice before) :=
      found_probeDevice (by decide +kernel)
    obtain ⟨device', found', kept⟩ := failed Line.Submitted before "probe" _ threeArgs _ _
      (called_play salinityLost "probe" kFunctionSetCompensation threeArgs before)
      (by decide +kernel) "probe" _ found
    have unset : (probeDevice before).compensationSet = {} := by decide +kernel
    exact ⟨device', found', kept.trans unset⟩

end Canned

end EzoProvider.Runtime
