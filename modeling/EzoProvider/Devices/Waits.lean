import EzoProvider.Devices.Adapters
import EzoProvider.Interaction.Cost

/-!
# The waits of a device which runs normally

The driver documents how long each kind of command takes. A device which runs
normally takes no longer: every driver call succeeds, and the first response read
after a wait is SUCCESS. The tariff `waits` counts what a job then waits, in
microseconds.
-/

namespace EzoProvider.Devices

open Interaction Program

/-- The wait of a command in milliseconds. -/
def Command.waitMs : Command → Nat
  | .phCalibration .. => 900
  | .doCalibration _ => 1300
  | _ => 300

/-- The answers of a device which runs normally, and the time waited for them. -/
def waits : Tariff JobOp JobOp.Result where
  Admits
    | .send _ command, answer => answer = .ok command.waitMs
    | .readResponse _, answer => answer = .ok .success
    | .bind _, answer => answer = .ok ()
    | .readInfo _, answer => ∃ info, answer = .ok info
    | .readOutputConfig _, answer => ∃ enabled, answer = .ok enabled
    | .readValue _, answer => ∃ value, answer = .ok value
    | .readOutputs .., answer => ∃ reading, answer = .ok reading
    | .readCalibrationStatus _, answer => ∃ level, answer = .ok level
    | .readTemperature _, answer => ∃ temperature, answer = .ok temperature
    | .readSalinity _, answer => ∃ salinity, answer = .ok salinity
    | .readPressure _, answer => ∃ pressure, answer = .ok pressure
    | .delay _, _ | .store _, _ => True
  price
    | .delay microseconds, _ => microseconds
    | _, _ => 0

/-- The commands which send the values that are given. -/
def Compensation.commands (values : Compensation) : Nat :=
  values.temperatureC.toList.length + values.salinityUsCm.toList.length +
    values.pressureKpa.toList.length

theorem Compensation.commands_le (values : Compensation) : values.commands ≤ 3 := by
  obtain ⟨_ | _, _ | _, _ | _⟩ := values <;> simp [commands]

theorem writeCommands_le (type : EzoDeviceType) (values : Compensation) :
    (if type = .dox then values.commands else 1) ≤ 3 := by
  split
  · exact values.commands_le
  · decide

/-! ## Bounds -/

theorem costsAtMost_waitForTimingHint (waitMs : Nat) :
    (waitForTimingHint waitMs).CostsAtMost waits (waitMs * 1000) fun _ => True := by
  rw [waitForTimingHint]
  split
  · exact (costsAtMost_done trivial).mono (Nat.zero_le _) fun _ => id
  · apply costsAtMost_ask
    intro _ _
    exact ⟨Nat.mod_le _ _, trivial⟩

theorem costsAtMost_store (output : JobOutput) :
    (JobOp.issue (.store output)).CostsAtMost waits 0 fun _ => True :=
  costsAtMost_ask fun _ _ => ⟨le_refl 0, trivial⟩

theorem costsAtMost_checkStatus {status : Status} (ok : status.isOk = true) :
    (checkStatus status).run.CostsAtMost waits 0 (Returning fun _ => True) := by
  rw [checkStatus, if_pos ok]
  exact costsAtMost_done ⟨(), rfl, trivial⟩

theorem costsAtMost_concludes {body : JobM Unit} {bound : Nat} {post : Except Status Unit → Prop}
    (costs : body.run.CostsAtMost waits bound post) :
    (concludes body).CostsAtMost waits bound fun _ => True := by
  apply costs.bind_free
  rintro (_ | _) _ <;> exact costsAtMost_done trivial

section Bounds

variable [EzoDriver]

theorem costsAtMost_bindEzoI2cDevice (address : Address) :
    (bindEzoI2cDevice address).run.CostsAtMost waits 0 (Returning (· = address)) := by
  have asked : (JobOp.issue (.bind address)).CostsAtMost waits 0 (· = .ok ()) :=
    costsAtMost_ask fun _ admits => ⟨le_refl 0, admits⟩
  apply asked.bind_free
  rintro _ rfl
  exact costsAtMost_done ⟨address, rfl, rfl⟩

theorem costsAtMost_attempt {α : Type} {context : String} {bound : Nat} {post : α → Prop}
    {call : Program JobOp JobOp.Result (Except EzoError α)}
    (costs : call.CostsAtMost waits bound (Returning post)) :
    (attempt context call).run.CostsAtMost waits bound (Returning post) := by
  apply costs.bind_free
  rintro _ ⟨value, rfl, meets⟩
  exact costsAtMost_done ⟨value, rfl, meets⟩

theorem costsAtMost_send (device : Address) (command : Command) (context : String) :
    (attempt context (JobOp.issue (.send device command))).run.CostsAtMost waits 0
      (Returning (· = command.waitMs)) := by
  apply costsAtMost_attempt
  apply costsAtMost_ask
  intro answer admits
  exact ⟨le_refl 0, command.waitMs, admits, rfl⟩

theorem costsAtMost_readCommandResponse (device : Address) :
    (readCommandResponse device).CostsAtMost waits 0 (· = .success) := by
  have asked : (JobOp.issue (.readResponse device)).CostsAtMost waits 0 (· = .ok .success) :=
    costsAtMost_ask fun _ admits => ⟨le_refl 0, admits⟩
  apply asked.bind_free
  rintro _ rfl
  exact costsAtMost_done rfl

/-- A command waits once. -/
theorem costsAtMost_sendCommand (device : Address) (command : Command) (context : String) :
    (sendCommand device command context).run.CostsAtMost waits (command.waitMs * 1000)
      (Returning fun _ => True) := by
  have costs : (sendCommand device command context).run.CostsAtMost waits
      (0 + (command.waitMs * 1000 + (0 + 0))) (Returning fun _ => True) := by
    apply (costsAtMost_send device command context).exceptT_bind
    rintro _ rfl
    apply (costsAtMost_waitForTimingHint _).exceptT_lift_bind
    intro _ _
    apply (costsAtMost_readCommandResponse device).exceptT_lift_bind
    rintro _ rfl
    exact costsAtMost_checkStatus rfl
  exact costs.mono (by omega) fun _ => id

/-- A value waits once if there is one to send. -/
theorem costsAtMost_sendValue (device : Address) (value : Option ℚ) {command : ℚ → Command}
    (context : String) (generic : ∀ value, (command value).waitMs = 300) :
    (sendValue device value command context).run.CostsAtMost waits
      (value.toList.length * 300000) (Returning fun _ => True) := by
  cases value with
  | none => exact costsAtMost_done ⟨(), rfl, trivial⟩
  | some value =>
      apply (costsAtMost_sendCommand device (command value) context).mono _ fun _ => id
      simp [generic]

theorem costsAtMost_queryDevice {α : Type} (device : Address) {command : Command}
    {answer : Program JobOp JobOp.Result (Except EzoError α)} (sendContext readContext : String)
    (answers : answer.CostsAtMost waits 0 (Returning fun _ => True)) :
    (queryDevice device command sendContext answer readContext).run.CostsAtMost waits
      (command.waitMs * 1000) (Returning fun _ => True) := by
  have costs : (queryDevice device command sendContext answer readContext).run.CostsAtMost waits
      (0 + (command.waitMs * 1000 + 0)) (Returning fun _ => True) := by
    apply (costsAtMost_send device command sendContext).exceptT_bind
    rintro _ rfl
    apply (costsAtMost_waitForTimingHint _).exceptT_lift_bind
    intro _ _
    exact costsAtMost_attempt answers
  exact costs.mono (by omega) fun _ => id

theorem costsAtMost_readTemperature (label : String) (device : Address) :
    (readTemperature label device).run.CostsAtMost waits 300000 (Returning fun _ => True) := by
  apply costsAtMost_queryDevice
  apply costsAtMost_ask
  rintro _ ⟨temperature, same⟩
  exact ⟨le_refl 0, temperature, same, trivial⟩

/-! ### Compensation -/

variable {type : EzoDeviceType} {reader : Address → JobM CompensationReading}
  {writer : Address → Compensation → JobM Unit}

/-- A read of the compensation asks for what the family has: one value or three. -/
theorem costsAtMost_readCompensation (reads : (adapterFor type).readCompensation = some reader)
    (device : Address) :
    (reader device).run.CostsAtMost waits (if type = .dox then 900000 else 300000)
      (Returning fun _ => True) := by
  cases type with
  | ph =>
      cases reads
      have costs : (Ph.readCompensation device).run.CostsAtMost waits (300000 + 0)
          (Returning fun _ => True) := by
        apply (costsAtMost_readTemperature "pH" device).exceptT_bind
        intro temperature _
        exact costsAtMost_done ⟨_, rfl, trivial⟩
      exact costs
  | dox =>
      cases reads
      have costs : (Do.readCompensation device).run.CostsAtMost waits
          (300000 + (300000 + (300000 + 0))) (Returning fun _ => True) := by
        apply (costsAtMost_readTemperature "DO" device).exceptT_bind
        intro temperature _
        refine (costsAtMost_queryDevice device _ _ ?_).exceptT_bind ?_
        · apply costsAtMost_ask
          rintro _ ⟨salinity, same⟩
          exact ⟨le_refl 0, salinity, same, trivial⟩
        intro salinity _
        refine (costsAtMost_queryDevice device _ _ ?_).exceptT_bind ?_
        · apply costsAtMost_ask
          rintro _ ⟨pressure, same⟩
          exact ⟨le_refl 0, pressure, same, trivial⟩
        intro pressure _
        exact costsAtMost_done ⟨_, rfl, trivial⟩
      exact costs
  | orp | ec | rtd | hum => cases reads

/-- A write of the compensation sends what is given of the values the family has. -/
theorem costsAtMost_writeCompensation (writes : (adapterFor type).writeCompensation = some writer)
    (device : Address) (values : Compensation) :
    (writer device values).run.CostsAtMost waits
      ((if type = .dox then values.commands else 1) * 300000) (Returning fun _ => True) := by
  cases type with
  | ph =>
      cases writes
      apply (costsAtMost_sendValue device values.temperatureC _ fun _ => rfl).mono _ fun _ => id
      cases values.temperatureC <;> simp
  | dox =>
      cases writes
      have costs : (Do.writeCompensation device values).run.CostsAtMost waits
          (values.temperatureC.toList.length * 300000 +
            (values.salinityUsCm.toList.length * 300000 +
              values.pressureKpa.toList.length * 300000)) (Returning fun _ => True) := by
        apply (costsAtMost_sendValue device values.temperatureC _ fun _ => rfl).exceptT_bind
        intro _ _
        apply (costsAtMost_sendValue device values.salinityUsCm _ fun _ => rfl).exceptT_bind
        intro _ _
        exact costsAtMost_sendValue device values.pressureKpa _ fun _ => rfl
      apply costs.mono _ fun _ => id
      simp only [Compensation.commands, reduceIte]
      omega
  | orp | ec | rtd | hum => cases writes

end Bounds

/-! ## Runs which wait that long -/

theorem canCost_waitForTimingHint : (waitForTimingHint 300).CanCost waits 300000 () :=
  canCost_ask trivial

theorem canCost_store (output : JobOutput) : (JobOp.issue (.store output)).CanCost waits 0 () :=
  canCost_ask trivial

theorem canCost_concludes {body : JobM Unit} {cost : Nat}
    (costs : body.run.CanCost waits cost (.ok ())) : (concludes body).CanCost waits cost .success :=
  costs.bind canCost_done rfl

section Runs

variable [EzoDriver]

theorem canCost_bindEzoI2cDevice (address : Address) :
    (bindEzoI2cDevice address).run.CanCost waits 0 (.ok address) := by
  have asked : (JobOp.issue (.bind address)).CanCost waits 0 (.ok ()) := canCost_ask rfl
  exact asked.bind canCost_done rfl

theorem canCost_attempt {α : Type} {context : String} {cost : Nat} {value : α}
    {call : Program JobOp JobOp.Result (Except EzoError α)}
    (costs : call.CanCost waits cost (.ok value)) :
    (attempt context call).run.CanCost waits cost (.ok value) :=
  costs.bind canCost_done rfl

theorem canCost_send {device : Address} {command : Command} {context : String}
    (generic : command.waitMs = 300) :
    (attempt context (JobOp.issue (.send device command))).run.CanCost waits 0 (.ok 300) := by
  apply canCost_attempt
  have answered : waits.Admits (.send device command) (.ok command.waitMs) := rfl
  rw [generic] at answered
  exact canCost_ask answered

theorem canCost_sendCommand {device : Address} {command : Command} {context : String}
    (generic : command.waitMs = 300) :
    (sendCommand device command context).run.CanCost waits 300000 (.ok ()) := by
  have asked : (JobOp.issue (.readResponse device)).CanCost waits 0 (.ok .success) :=
    canCost_ask rfl
  have response : (readCommandResponse device).CanCost waits 0 .success :=
    asked.bind canCost_done rfl
  exact (canCost_send generic).exceptT_bind
    (canCost_waitForTimingHint.exceptT_lift_bind (response.exceptT_lift_bind canCost_done rfl) rfl)
    rfl

theorem canCost_sendValue {device : Address} {value : Option ℚ} {command : ℚ → Command}
    {context : String} (generic : ∀ value, (command value).waitMs = 300) :
    (sendValue device value command context).run.CanCost waits (value.toList.length * 300000)
      (.ok ()) := by
  cases value with
  | none =>
      rw [Option.toList_none, List.length_nil, Nat.zero_mul]
      exact canCost_done
  | some value =>
      rw [Option.toList_some, List.length_singleton, Nat.one_mul]
      exact canCost_sendCommand (generic value)

theorem canCost_queryDevice {α : Type} {device : Address} {command : Command}
    {answer : Program JobOp JobOp.Result (Except EzoError α)} {sendContext readContext : String}
    {value : α} (generic : command.waitMs = 300) (answers : answer.CanCost waits 0 (.ok value)) :
    (queryDevice device command sendContext answer readContext).run.CanCost waits 300000
      (.ok value) :=
  (canCost_send generic).exceptT_bind
    (canCost_waitForTimingHint.exceptT_lift_bind (canCost_attempt answers) rfl) rfl

/-- A DO probe can report anything. -/
theorem canCost_readCompensation (device : Address) (temperature : ℚ) (salinity : ℚ × SalinityUnit)
    (pressure : ℚ) :
    (Do.readCompensation device).run.CanCost waits 900000
      (.ok (Do.readingOf temperature salinity pressure)) := by
  have asksTemperature : (JobOp.issue (.readTemperature device)).CanCost waits 0
      (.ok temperature) := canCost_ask ⟨temperature, rfl⟩
  have asksSalinity : (JobOp.issue (.readSalinity device)).CanCost waits 0 (.ok salinity) :=
    canCost_ask ⟨salinity, rfl⟩
  have asksPressure : (JobOp.issue (.readPressure device)).CanCost waits 0 (.ok pressure) :=
    canCost_ask ⟨pressure, rfl⟩
  exact (canCost_queryDevice rfl asksTemperature).exceptT_bind
    ((canCost_queryDevice rfl asksSalinity).exceptT_bind
      ((canCost_queryDevice rfl asksPressure).exceptT_bind canCost_done rfl) rfl) rfl

theorem canCost_writeCompensation (device : Address) (values : Compensation) :
    (Do.writeCompensation device values).run.CanCost waits (values.commands * 300000)
      (.ok ()) := by
  refine (canCost_sendValue fun _ => rfl).exceptT_bind
    ((canCost_sendValue fun _ => rfl).exceptT_bind (canCost_sendValue fun _ => rfl) rfl) ?_
  simp only [Compensation.commands]
  omega

end Runs

end EzoProvider.Devices
