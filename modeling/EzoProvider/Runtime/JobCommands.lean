import EzoProvider.Runtime.CalibrationTraces
import EzoProvider.Runtime.ReadJobs

/-!
# The commands of a job

Which commands each job can send its device, whatever the answers.
-/

namespace EzoProvider.Runtime

open Interaction Program Devices

/-- The commands which only ask. -/
def Command.Asks (command : Command) : Prop :=
  command.setsCompensation = false ∧ command.calibrates = false

/-- The commands a control call can send. -/
def ControlCommands (functionId : Nat) (type : EzoDeviceType) (command : Command) : Prop :=
  (command.calibrates = true →
    functionId = kFunctionCalibrate ∨ functionId = kFunctionClearCalibration) ∧
  (command.setsCompensation = true →
    functionId = kFunctionSetCompensation ∨ (functionId = kFunctionCalibrate ∧ type = .dox))

theorem controlCommands_of_controlCommand {functionId : Nat} {type : EzoDeviceType}
    {product : EzoProduct} {args : ControlArgs} {command : Command}
    (chosen : controlCommand functionId type product args = some command) :
    ControlCommands functionId type command := by
  simp only [controlCommand] at chosen
  split at chosen
  · cases chosen
    exact ⟨by simp [Command.calibrates], by simp [Command.setsCompensation]⟩
  split at chosen
  · cases chosen
    exact ⟨by simp [Command.calibrates], by simp [Command.setsCompensation]⟩
  split at chosen
  · cases chosen
    exact ⟨by simp [Command.calibrates], by simp [Command.setsCompensation]⟩
  split at chosen
  · next calibrate =>
      split at chosen <;> cases chosen <;>
        exact ⟨fun _ => .inl calibrate, by simp [Command.setsCompensation]⟩
  split at chosen
  · next clear =>
      cases chosen
      exact ⟨fun _ => .inr clear, by simp [Command.setsCompensation]⟩
  · cases chosen

theorem only_store {output : JobOutput} {commands : Command → Prop} {device : Address} :
    ((liftM (JobOp.issue (.store output)) : JobM Unit)).run.Only (JobOp.Serves device commands) :=
  ⟨.inr ⟨output, rfl⟩, fun _ => trivial⟩

section Commands

variable [EzoDriver] {device : Address}

theorem only_readSample (type : EzoDeviceType) :
    ((adapterFor type).readSample device).run.Only (JobOp.Within device Command.Asks) := by
  have single : ∀ label signals, (readSingleSample label signals device).run.Only
      (JobOp.Within device Command.Asks) := by
    intro label signals
    exact only_exceptT_bind (only_queryDevice ⟨rfl, rfl⟩ (only_issue rfl)) fun _ => trivial
  have several : ∀ label signals outputs, (readOutputsSample label signals outputs device).run.Only
      (JobOp.Within device Command.Asks) := by
    intro label signals outputs
    refine only_exceptT_bind (only_queryDevice ⟨rfl, rfl⟩ (only_issue rfl)) fun _ => ?_
    exact only_exceptT_bind (only_queryDevice ⟨rfl, rfl⟩ (only_issue rfl)) fun _ => trivial
  cases type with
  | ph | orp | rtd => exact single _ _
  | ec | dox | hum => exact several _ _ _

theorem only_readLevel {type : EzoDeviceType} {reader : Address → JobM ℚ}
    (adapted : (adapterFor type).readCalibrationLevel = some reader) :
    (reader device).run.Only (JobOp.Within device Command.Asks) := by
  cases type <;> cases adapted
  all_goals
    exact only_exceptT_bind (only_queryDevice ⟨rfl, rfl⟩ (only_issue rfl)) fun _ => trivial

theorem only_readCompensation {type : EzoDeviceType}
    {reader : Address → JobM CompensationReading}
    (adapted : (adapterFor type).readCompensation = some reader) :
    (reader device).run.Only (JobOp.Within device Command.Asks) := by
  cases type <;> cases adapted
  · exact only_exceptT_bind (only_queryDevice ⟨rfl, rfl⟩ (only_issue rfl)) fun _ => trivial
  · refine only_exceptT_bind (only_queryDevice ⟨rfl, rfl⟩ (only_issue rfl)) fun _ => ?_
    refine only_exceptT_bind (only_queryDevice ⟨rfl, rfl⟩ (only_issue rfl)) fun _ => ?_
    exact only_exceptT_bind (only_queryDevice ⟨rfl, rfl⟩ (only_issue rfl)) fun _ => trivial

theorem only_writeCompensation {type : EzoDeviceType} {values : Compensation}
    {writer : Address → Compensation → JobM Unit}
    (adapted : (adapterFor type).writeCompensation = some writer) :
    (writer device values).run.Only (JobOp.Within device fun command => command.setsCompensation) := by
  cases type <;> cases adapted
  · exact only_sendValue fun _ => rfl
  · exact only_doWriteCompensation device values

/-- A job which binds a device and then keeps to it. -/
theorem only_bound {address : Address} {commands : Command → Prop} {rest : Address → JobM Unit}
    (only : (rest address).run.Only (JobOp.Serves address commands)) :
    (concludes (bindEzoI2cDevice address >>= rest)).Only (JobOp.Serves address commands) := by
  refine only_concludes ?_
  rw [ExceptT.run_bind]
  refine ⟨.inl rfl, fun answer => ?_⟩
  cases answer with
  | ok _ => exact only
  | error _ => trivial

theorem only_sampleJob (spec : DeviceSpec) :
    (sampleJob spec).Only (JobOp.Serves spec.address Command.Asks) := by
  refine only_bound (only_exceptT_bind ?_ fun _ => only_store)
  exact (only_readSample spec.type).mono fun _ => .inl

theorem only_calibrationLevelJob {type : EzoDeviceType} {reader : Address → JobM ℚ}
    (adapted : (adapterFor type).readCalibrationLevel = some reader) (address : Address) :
    (calibrationLevelJob address reader).Only (JobOp.Serves address Command.Asks) := by
  refine only_bound (only_exceptT_bind ?_ fun _ => only_store)
  exact (only_readLevel adapted).mono fun _ => .inl

/-- A compensation check calibrates nothing. -/
theorem only_compensationJob {type : EzoDeviceType} {set : Compensation}
    {reader : Address → JobM CompensationReading} {writer : Address → Compensation → JobM Unit}
    (reads : (adapterFor type).readCompensation = some reader)
    (writes : (adapterFor type).writeCompensation = some writer) (address : Address) :
    (compensationJob address set reader writer).Only
      (JobOp.Serves address fun command => command.calibrates = false) := by
  have reading : (reader address).run.Only
      (JobOp.Serves address fun command => command.calibrates = false) := by
    refine (only_readCompensation reads).mono fun op within => .inl ?_
    exact within.mono fun _ asks => asks.2
  have writing : (writer address set).run.Only
      (JobOp.Serves address fun command => command.calibrates = false) := by
    refine (only_writeCompensation writes).mono fun op within => .inl ?_
    refine within.mono fun command sets => ?_
    cases command <;> simp_all [Command.setsCompensation, Command.calibrates]
  refine only_bound (only_exceptT_bind reading fun first => ?_)
  refine only_exceptT_lift_bind ⟨.inr ⟨_, rfl⟩, fun _ => trivial⟩ fun _ => ?_
  split
  · trivial
  · refine only_exceptT_bind ?_ fun _ => ?_
    · refine only_bind writing fun outcome => ?_
      cases outcome <;> trivial
    · refine only_exceptT_lift_bind ⟨.inr ⟨_, rfl⟩, fun _ => trivial⟩ fun _ => ?_
      exact only_exceptT_bind reading fun _ => only_store

/-- The commands of one call: the compensation it sets, and the one it is about. -/
def CallCommands (functionId : Nat) (type : EzoDeviceType) (args : ControlArgs)
    (command : Command) : Prop :=
  (command.setsCompensation = true ∧
    (functionId = kFunctionSetCompensation ∨ (functionId = kFunctionCalibrate ∧ type = .dox))) ∨
  controlCommand functionId type (adapterFor type).expectedProduct args = some command

theorem controlCommands_of_callCommands {functionId : Nat} {type : EzoDeviceType}
    {args : ControlArgs} {command : Command} (called : CallCommands functionId type args command) :
    ControlCommands functionId type command := by
  rcases called with ⟨setting, sets⟩ | chosen
  · refine ⟨fun calibrates => ?_, fun _ => sets⟩
    cases command <;> simp_all [Command.setsCompensation, Command.calibrates]
  · exact controlCommands_of_controlCommand chosen

theorem only_callWriter {type : EzoDeviceType} {values : Compensation} {functionId : Nat}
    {args : ControlArgs}
    (sets : functionId = kFunctionSetCompensation ∨ (functionId = kFunctionCalibrate ∧ type = .dox)) :
    (callWriter (adapterFor type).writeCompensation device values).run.Only
      (JobOp.Serves device (CallCommands functionId type args)) := by
  cases writes : (adapterFor type).writeCompensation with
  | none => trivial
  | some write =>
      refine (only_writeCompensation writes).mono fun op within => .inl ?_
      exact within.mono fun command setting => .inl ⟨setting, sets⟩

theorem only_callJob_commands (address : Address) (functionId : Nat) (type : EzoDeviceType)
    (args : ControlArgs) :
    (callJob address functionId type args).Only
      (JobOp.Serves address (CallCommands functionId type args)) := by
  refine only_bound ?_
  split
  · next set =>
      have writing := @only_callWriter _ address type args.compensation functionId args (.inl set)
      cases writes : (adapterFor type).writeCompensation with
      | none => trivial
      | some write =>
          rw [writes] at writing
          exact writing
  have sending : ∀ command, CallCommands functionId type args command → ∀ doCalibration,
      (doCalibration = true → functionId = kFunctionCalibrate ∧ type = .dox) →
      (sendControlCommand (adapterFor type).writeCompensation address functionId command
        doCalibration args.restore).run.Only
          (JobOp.Serves address (CallCommands functionId type args)) := by
    intro command permitted doCalibration calibrating
    refine only_exceptT_bind (only_attempt (only_issue (.inl ⟨rfl, permitted⟩))) fun hint => ?_
    refine only_exceptT_lift_bind (only_waitForTimingHint.mono fun _ => .inl) fun _ => ?_
    split
    · trivial
    refine only_exceptT_lift_bind (only_readCommandResponse.mono fun _ => .inl) fun response => ?_
    split
    · next calibration =>
        refine only_exceptT_bind ?_ fun _ => only_checkStatus
        exact only_bind (only_callWriter (.inr (calibrating calibration))) fun _ => trivial
    · exact only_checkStatus
  by_cases calibrating : functionId = kFunctionCalibrate ∧ type = .dox
  · have flag : (decide (functionId = kFunctionCalibrate) && decide (type = .dox)) = true := by
      simpa using calibrating
    rw [flag]
    refine only_exceptT_bind ?_ fun _ => ?_
    · refine only_bind (only_callWriter (.inr calibrating)) fun outcome => ?_
      cases outcome with
      | ok _ => trivial
      | error _ => exact only_bind (only_callWriter (.inr calibrating)) fun _ => trivial
    · split
      · trivial
      · next command is => exact sending command (.inr is) true fun _ => calibrating
  · have flag : (decide (functionId = kFunctionCalibrate) && decide (type = .dox)) = false := by
      simpa using calibrating
    rw [flag]
    split
    · trivial
    · next command is => exact sending command (.inr is) false fun impossible => by cases impossible

theorem only_callJob (address : Address) (functionId : Nat) (type : EzoDeviceType)
    (args : ControlArgs) :
    (callJob address functionId type args).Only
      (JobOp.Serves address (ControlCommands functionId type)) := by
  refine (only_callJob_commands address functionId type args).mono fun op serves => ?_
  rcases serves with within | stores
  · exact .inl (within.mono fun _ => controlCommands_of_callCommands)
  · exact .inr stores

end Commands

end EzoProvider.Runtime
