import EzoProvider.Devices.CommandTraces
import EzoProvider.Interaction.Protocol

/-!
# Writes in order

The traces of `write_compensation`, for every answer of the device at every
moment: the commands go out in the order of their fields, each after the one
before was answered SUCCESS.
-/

namespace EzoProvider.Devices

open Interaction Program

/-- A command sent to a device. -/
abbrev Transmission := Address × Command

/-- The commands a trace transmits. -/
def transmitted (trace : JobTrace) : List Transmission :=
  trace.filterMap fun exchange =>
    match exchange.1 with
    | .send device command => some (device, command)
    | _ => none

/-- The transmitted commands answered SUCCESS; `pending` is the last one, if not yet answered. -/
def answeredSuccess : Option Transmission → JobTrace → List Transmission
  | _, [] => []
  | _, ⟨.send device command, _⟩ :: later => answeredSuccess (some (device, command)) later
  | pending, ⟨.readResponse device, .ok .success⟩ :: later =>
      pending.toList.filter (·.1 = device) ++ answeredSuccess none later
  | pending, _ :: later => answeredSuccess pending later

/-- The commands for the values of a family, in the order they are sent. -/
def fieldCommands (device : Address) (type : EzoDeviceType) (values : Compensation) :
    List Transmission :=
  let temperature := values.temperatureC.toList.map (.temperatureSet · 2)
  let salinity := values.salinityUsCm.toList.map (.salinitySet · .microsiemens 1)
  let pressure := values.pressureKpa.toList.map (.pressureSet · 2)
  let commands : List Command :=
    match type with
    | .ph => temperature
    | .dox => temperature ++ salinity ++ pressure
    | .orp | .ec | .rtd | .hum => []
  commands.map (device, ·)

/-- A trace which sends the commands in order, as far as it goes. -/
structure InOrder (commands : List Transmission) (trace : JobTrace) : Prop where
  transmitted : transmitted trace <+: commands
  answered : answeredSuccess none trace <+: commands
  -- Only the last command sent can lack its SUCCESS.
  stops : Devices.transmitted trace = answeredSuccess none trace ∨
    ∃ last, Devices.transmitted trace = answeredSuccess none trace ++ [last]

/-! ## The protocol of a write -/

/-- The command without its SUCCESS, and the commands still to send. -/
structure WriteStage where
  pending : Option Transmission
  left : List Transmission

/-- A command goes out when no other waits for its SUCCESS. -/
def inOrder : Protocol JobOp JobOp.Result WriteStage where
  Admits _ _ := True
  Moves stage op answer later :=
    match op, answer with
    | .send device command, _ =>
        stage.pending = none ∧ stage.left = (device, command) :: later.left ∧
          later.pending = some (device, command)
    | .readResponse device, .ok .success =>
        (∃ command, stage.pending = some (device, command)) ∧
          later = { stage with pending := none }
    | .readResponse _, _ | .delay _, _ | .bind _, _ => later = stage
    | _, _ => False

/-- What a path of the protocol has sent, and had answered. -/
theorem path_inOrder {stage later : WriteStage} {trace : JobTrace}
    (path : inOrder.Path stage trace later) :
    stage.pending.toList ++ transmitted trace =
        answeredSuccess stage.pending trace ++ later.pending.toList ∧
      stage.left = transmitted trace ++ later.left := by
  induction path with
  | refl => exact ⟨by simp [transmitted, answeredSuccess], rfl⟩
  | @moved stage op answer middle trace later moves _ ih =>
      obtain ⟨sent, left⟩ := ih
      cases op with
      | send device command =>
          obtain ⟨idle, next, waits⟩ := moves
          rw [waits] at sent
          have first : transmitted (⟨.send device command, answer⟩ :: trace) =
            (device, command) :: transmitted trace := rfl
          rw [idle, first, next, left]
          exact ⟨sent, rfl⟩
      | readResponse device =>
          have same : transmitted (⟨.readResponse device, answer⟩ :: trace) = transmitted trace :=
            rfl
          rw [same]
          rcases answer with error | status
          · obtain rfl : middle = stage := moves
            exact ⟨sent, left⟩
          · cases status with
            | success =>
                obtain ⟨⟨command, waits⟩, rfl⟩ := moves
                refine ⟨?_, left⟩
                have settled : answeredSuccess (some (device, command))
                    (⟨.readResponse device, .ok .success⟩ :: trace) =
                    (device, command) :: answeredSuccess none trace := by
                  simp [answeredSuccess]
                rw [waits, settled]
                exact congrArg _ sent
            | _ =>
                obtain rfl : middle = stage := moves
                exact ⟨sent, left⟩
      | delay | bind =>
          obtain rfl : middle = stage := moves
          exact ⟨sent, left⟩
      | _ => exact moves.elim

theorem inOrder_of_path {commands : List Transmission} {later : WriteStage} {trace : JobTrace}
    (path : inOrder.Path ⟨none, commands⟩ trace later) : InOrder commands trace := by
  obtain ⟨sent, left⟩ := path_inOrder path
  dsimp only [Option.toList_none, List.nil_append] at sent left
  have whole : transmitted trace <+: commands := ⟨later.left, left.symm⟩
  refine ⟨whole, ?_, ?_⟩
  · exact List.IsPrefix.trans ⟨_, sent.symm⟩ whole
  · rw [sent]
    cases later.pending with
    | none => exact .inl (by simp)
    | some last => exact .inr ⟨last, rfl⟩

/-- The stage after a response to a command: it stays pending unless it was accepted. -/
def WriteStage.after (command : Transmission) (left : List Transmission) (accepted : Bool) :
    WriteStage :=
  ⟨if accepted then none else some command, left⟩

/-! ## The parts of a write -/

theorem follows_waitForTimingHint {waitMs : Nat} {stage : WriteStage} :
    (waitForTimingHint waitMs).Follows inOrder (fun later _ => later = stage) stage := by
  rw [waitForTimingHint]
  split
  · rfl
  · intro answer _
    exact ⟨stage, rfl, rfl⟩

variable [EzoDriver] {device : Address} {command : Command} {left : List Transmission}
  {context : String}

theorem follows_readCommandResponse :
    (readCommandResponse device).Follows inOrder
      (fun later status => later = .after (device, command) left status.isOk)
      ⟨some (device, command), left⟩ := by
  have once : ∀ pending : Job,
      pending.Follows inOrder
        (fun later status => later = .after (device, command) left status.isOk)
        ⟨some (device, command), left⟩ →
      (readResponseCode device pending).Follows inOrder
        (fun later status => later = .after (device, command) left status.isOk)
        ⟨some (device, command), left⟩ := by
    intro pending follows answer _
    rcases answer with error | status
    · refine ⟨_, rfl, ?_⟩
      change _ = WriteStage.after _ _ (statusFromEzoResult error "read command response").isOk
      rw [isOk_statusFromEzoResult]
      rfl
    · cases status with
      | success => exact ⟨⟨none, left⟩, ⟨⟨command, rfl⟩, rfl⟩, rfl⟩
      | notReady => exact ⟨_, rfl, follows⟩
      | fail | noData | unknown => exact ⟨_, rfl, rfl⟩
  have loop : ∀ rereads, (readCommandResponseLoop device rereads).Follows inOrder
      (fun later status => later = .after (device, command) left status.isOk)
      ⟨some (device, command), left⟩ := by
    intro rereads
    induction rereads with
    | zero => exact once _ rfl
    | succ rereads ih =>
        refine once _ (follows_bind follows_waitForTimingHint fun stage _ same => ?_)
        rw [same]
        exact ih
  exact loop kPendingRereads

/-- The end of a part which sends some commands before those left: all were accepted, or one
is left pending and the part fails. -/
def WriteStage.Ends (left : List Transmission) (later : WriteStage) (value : Except Status Unit) :
    Prop :=
  match value with
  | .ok () => later = ⟨none, left⟩
  | .error status => later.pending.isSome = true ∧ status.isOk = false

theorem follows_sendCommand :
    (sendCommand device command context).run.Follows inOrder (WriteStage.Ends left)
      ⟨none, (device, command) :: left⟩ := by
  intro answer _
  refine ⟨⟨some (device, command), left⟩, ⟨rfl, rfl, rfl⟩, ?_⟩
  rcases answer with error | hint
  · exact ⟨rfl, isOk_statusFromEzoResult _ _⟩
  · refine follows_exceptT_lift_bind follows_waitForTimingHint fun stage _ same => ?_
    rw [same]
    refine follows_exceptT_lift_bind follows_readCommandResponse fun stage status same => ?_
    rw [same, checkStatus]
    by_cases ok : status.isOk
    · simp only [ok, if_true]
      rfl
    · simp only [ok]
      exact ⟨rfl, by simpa using ok⟩

/-! ## Whole writes -/

theorem follows_sendValue {value : Option ℚ} {command : ℚ → Command} :
    (sendValue device value command context).run.Follows inOrder (WriteStage.Ends left)
      ⟨none, value.toList.map (fun value => (device, command value)) ++ left⟩ := by
  cases value with
  | none => rfl
  | some value => exact follows_sendCommand

theorem follows_doWriteCompensation {values : Compensation} :
    (Do.writeCompensation device values).run.Follows inOrder (WriteStage.Ends [])
      ⟨none, fieldCommands device .dox values⟩ := by
  have parts : fieldCommands device .dox values =
      values.temperatureC.toList.map (fun value => (device, .temperatureSet value 2)) ++
        (values.salinityUsCm.toList.map (fun value =>
          (device, .salinitySet value .microsiemens 1)) ++
          (values.pressureKpa.toList.map (fun value => (device, .pressureSet value 2)) ++ [])) := by
    simp [fieldCommands, Function.comp_def]
  rw [parts]
  refine follows_exceptT_bind follows_sendValue (fun stage _ ended => ?_) fun _ _ ended => ended
  rw [show stage = _ from ended]
  refine follows_exceptT_bind follows_sendValue (fun stage _ ended => ?_) fun _ _ ended => ended
  rw [show stage = _ from ended]
  exact follows_sendValue

theorem follows_phWriteCompensation {values : Compensation} :
    (Ph.writeCompensation device values).run.Follows inOrder (WriteStage.Ends [])
      ⟨none, fieldCommands device .ph values⟩ := by
  have parts : fieldCommands device .ph values =
      values.temperatureC.toList.map (fun value => (device, .temperatureSet value 2)) ++ [] := by
    simp [fieldCommands, Function.comp_def]
  rw [parts]
  exact follows_sendValue

variable {type : EzoDeviceType} {values : Compensation}
  {write : Address → Compensation → JobM Unit}

/-- The `write_compensation` of a family sends its commands in order. -/
theorem follows_writeCompensation (adapted : (adapterFor type).writeCompensation = some write) :
    (write device values).run.Follows inOrder (WriteStage.Ends [])
      ⟨none, fieldCommands device type values⟩ := by
  cases type with
  | ph =>
      cases adapted
      exact follows_phWriteCompensation
  | dox =>
      cases adapted
      exact follows_doWriteCompensation
  | orp | ec | rtd | hum => cases adapted

/-- So does every moment of it. -/
theorem inOrder_of_writeCompensation {trace : JobTrace}
    {rest : Program JobOp JobOp.Result (Except Status Unit)}
    (adapted : (adapterFor type).writeCompensation = some write)
    (advance : (write device values).run.Advances trace rest) :
    InOrder (fieldCommands device type values) trace := by
  obtain ⟨later, path, _⟩ :=
    (follows_writeCompensation adapted).advances (fun _ _ => trivial) advance
  exact inOrder_of_path path

/-- A write returns ok exactly when every command was answered SUCCESS. -/
theorem ok_iff_of_writeCompensation {trace : JobTrace} {value : Except Status Unit}
    (adapted : (adapterFor type).writeCompensation = some write)
    (run : (write device values).run.Runs trace value) :
    value = .ok () ↔ answeredSuccess none trace = fieldCommands device type values := by
  obtain ⟨later, path, ended⟩ :=
    (follows_writeCompensation adapted).runs (fun _ _ => trivial) run
  obtain ⟨sent, left⟩ := path_inOrder path
  dsimp only [Option.toList_none, List.nil_append] at sent left
  rw [sent] at left
  cases value with
  | ok value =>
      obtain rfl : later = ⟨none, []⟩ := ended
      refine ⟨fun _ => ?_, fun _ => rfl⟩
      rw [left]
      simp
  | error status =>
      obtain ⟨last, waits⟩ := Option.isSome_iff_exists.mp ended.1
      constructor
      · rintro ⟨⟩
      · intro all
        rw [waits] at left
        have lengths := congrArg List.length (all.trans left)
        simp at lengths

end EzoProvider.Devices
