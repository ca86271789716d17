import EzoProvider.Devices.ProbeInvariants

/-!
# Reading and writing compensation

What `read_compensation` and `write_compensation` of a family mean for the
probe: a reading is what the probe reports, a write is in effect when it has
returned ok. Both as long as the probe keeps its power.
-/

namespace EzoProvider.Devices

open Interaction Program Environment

/-! ## Traces of a write -/

/-- The exchanges of a DO compensation write which was accepted throughout. -/
def Written (device : Address) (values : Compensation) (trace : JobTrace) : Prop :=
  ∃ temperature salinity pressure, trace = temperature ++ (salinity ++ pressure) ∧
    Sent device values.temperatureC (.temperatureSet · 2) temperature ∧
    Sent device values.salinityUsCm (.salinitySet · .microsiemens 1) salinity ∧
    Sent device values.pressureKpa (.pressureSet · 2) pressure

theorem written_of_doWriteCompensation [EzoDriver] {device : Address} {values : Compensation}
    {trace : JobTrace}
    (run : (Do.writeCompensation device values).run.Runs trace (.ok ())) :
    Written device values trace := by
  obtain ⟨temperature, _, _, rfl, temperatureRun, later⟩ := runs_exceptT_bind_ok_iff.mp run
  obtain ⟨salinity, _, pressure, rfl, salinityRun, pressureRun⟩ :=
    runs_exceptT_bind_ok_iff.mp later
  exact ⟨temperature, salinity, pressure, rfl, sent_of_sendValue temperatureRun,
    sent_of_sendValue salinityRun, sent_of_sendValue pressureRun⟩

/-- A pH write is a DO write of the temperature alone. -/
theorem written_of_phWriteCompensation [EzoDriver] {device : Address} {values : Compensation}
    {trace : JobTrace}
    (run : (Ph.writeCompensation device values).run.Runs trace (.ok ())) :
    Written device { temperatureC := values.temperatureC } trace :=
  ⟨trace, [], [], by simp, sent_of_sendValue run, rfl, rfl⟩

namespace Probe

/-- The probe has gone through `effect` since `before`, which was under the last
command if that set a compensation. -/
structure Changed (before : Probe) (effect : Holding → Holding) (after : Probe) : Prop where
  quiet : before.Quiet → after.Quiet
  held : ∃ holding, after.holding = effect holding ∧ (before.Quiet → holding = before.holding)
  settled : effect = id ∨ after.Quiet

theorem Changed.trans {first second third : Probe} {effect next : Holding → Holding}
    (before : first.Changed effect second) (after : second.Changed next third) :
    first.Changed (next ∘ effect) third := by
  obtain ⟨middle, middleHeld, middleQuiet⟩ := before.held
  obtain ⟨final, finalHeld, finalQuiet⟩ := after.held
  refine ⟨fun quiet => after.quiet (before.quiet quiet), ?_, ?_⟩
  · rcases before.settled with rfl | quiet
    · refine ⟨final, by simpa using finalHeld, fun quiet => ?_⟩
      rw [finalQuiet (before.quiet quiet), middleHeld, id, middleQuiet quiet]
    · refine ⟨middle, ?_, middleQuiet⟩
      rw [finalHeld, finalQuiet quiet, middleHeld, Function.comp]
  · rcases after.settled with rfl | quiet
    · rcases before.settled with rfl | quiet
      · exact .inl rfl
      · exact .inr (after.quiet quiet)
    · exact .inr quiet

end Probe

variable [DecimalText]

/-! ## What a write leaves -/

/-- The compensation of a probe once a write has been accepted. -/
def Holding.write (values : Compensation) (holding : Holding) : Holding where
  temperatureC := values.temperatureC.elim holding.temperatureC (DecimalText.sent.round 2)
  salinity := values.salinityUsCm.elim holding.salinity (DecimalText.sent.round 1)
  salinityUnit := if values.salinityUsCm.isSome then .microsiemens else holding.salinityUnit
  pressureKpa := values.pressureKpa.elim holding.pressureKpa (DecimalText.sent.round 2)

@[simp] theorem Holding.write_empty (holding : Holding) : holding.write {} = holding := rfl

/-- The effect of sending a value, if there is one. -/
def Holding.send (value : Option ℚ) (command : ℚ → Command) (holding : Holding) : Holding :=
  value.elim holding fun value => holding.apply (command value)

theorem Holding.write_eq_send (values : Compensation) :
    Holding.write values =
      Holding.send values.pressureKpa (.pressureSet · 2) ∘
        Holding.send values.salinityUsCm (.salinitySet · .microsiemens 1) ∘
          Holding.send values.temperatureC (.temperatureSet · 2) := by
  obtain ⟨temperature, salinity, pressure⟩ := values
  cases temperature <;> cases salinity <;> cases pressure <;> rfl

namespace Probe

theorem changed_of_sent {device : Address} {value : Option ℚ} {command : ℚ → Command}
    {trace : JobTrace} (sent : Sent device value command trace) {bus bus' : Bus}
    (path : Bus.environment.Path bus trace bus')
    (powered : (bus' device).powerUps = (bus device).powerUps) :
    (bus device).Changed (Holding.send value command) (bus' device) := by
  cases value with
  | none =>
      obtain rfl : trace = [] := sent
      obtain rfl := path_nil_iff.mp path
      exact ⟨id, ⟨_, rfl, fun _ => rfl⟩, .inl rfl⟩
  | some value =>
      have took := took_of_accepted sent path
      exact ⟨fun _ => took.done.quiet, took.held powered, .inr took.done.quiet⟩

/-- An accepted write is in effect. -/
theorem changed_of_written {device : Address} {values : Compensation} {trace : JobTrace}
    (written : Written device values trace) {bus bus' : Bus}
    (path : Bus.environment.Path bus trace bus')
    (powered : (bus' device).powerUps = (bus device).powerUps) :
    (bus device).Changed (Holding.write values) (bus' device) := by
  obtain ⟨temperature, salinity, pressure, rfl, temperatureSent, salinitySent, pressureSent⟩ :=
    written
  obtain ⟨first, temperaturePath, later⟩ := path_append_iff.mp path
  obtain ⟨second, salinityPath, pressurePath⟩ := path_append_iff.mp later
  have one := (later_of_path temperaturePath device).powerUps
  have two := (later_of_path salinityPath device).powerUps
  have three := (later_of_path pressurePath device).powerUps
  rw [Holding.write_eq_send]
  exact ((changed_of_sent temperatureSent temperaturePath (by omega)).trans
    (changed_of_sent salinitySent salinityPath (by omega))).trans
      (changed_of_sent pressureSent pressurePath (by omega))

end Probe

/-! ## What a reading says -/

/-- What a probe of a family reports, as its adapter reads it. -/
def Holding.reading (holding : Holding) : EzoDeviceType → CompensationReading
  | .ph => { values := { temperatureC := some holding.reportedTemperature } }
  | .dox =>
      Do.readingOf holding.reportedTemperature holding.reportedSalinity holding.reportedPressure
  | .orp | .ec | .rtd | .hum => {}

namespace Probe

variable [EzoDriver] {device : Address} {command : Command} {sendContext readContext : String}
  {trace : JobTrace} {bus bus' : Bus}

/-- A reply ends the trace of its query, and is given by the probe as it is then. -/
theorem answer_of_query {α : Type} {typed : Program JobOp JobOp.Result (Except EzoError α)}
    {value : α}
    (run : (queryDevice device command sendContext typed readContext).run.Runs trace (.ok value))
    (path : Bus.environment.Path bus trace bus') :
    ∃ middle reads, typed.Runs reads (.ok value) ∧ Bus.environment.Path middle reads bus' := by
  obtain ⟨hint, waits, reads, rfl, delays, read⟩ := runs_queryDevice run
  rw [← List.cons_append] at path
  obtain ⟨middle, _, readPath⟩ := path_append_iff.mp path
  exact ⟨middle, reads, read, readPath⟩

theorem reported_temperature {label : String} {value : ℚ}
    (run : (readTemperature label device).run.Runs trace (.ok value))
    (path : Bus.environment.Path bus trace bus') :
    (bus' device).Done .temperatureQuery ∧ value = (bus' device).holding.reportedTemperature := by
  obtain ⟨middle, reads, read, readPath⟩ := answer_of_query run path
  obtain rfl := runs_issue_iff.mp read
  obtain ⟨_, ⟨_, _, rfl, replied⟩, tail⟩ := path_cons_iff.mp readPath
  obtain rfl := path_nil_iff.mp tail
  exact replied

theorem reported_salinity {value : ℚ × SalinityUnit}
    (run : (queryDevice device .salinityQuery sendContext (JobOp.issue (.readSalinity device))
      readContext).run.Runs trace (.ok value))
    (path : Bus.environment.Path bus trace bus') :
    (bus' device).Done .salinityQuery ∧ value = (bus' device).holding.reportedSalinity := by
  obtain ⟨middle, reads, read, readPath⟩ := answer_of_query run path
  obtain rfl := runs_issue_iff.mp read
  obtain ⟨_, ⟨_, _, rfl, replied⟩, tail⟩ := path_cons_iff.mp readPath
  obtain rfl := path_nil_iff.mp tail
  exact replied

theorem reported_pressure {value : ℚ}
    (run : (queryDevice device .pressureQuery sendContext (JobOp.issue (.readPressure device))
      readContext).run.Runs trace (.ok value))
    (path : Bus.environment.Path bus trace bus') :
    (bus' device).Done .pressureQuery ∧ value = (bus' device).holding.reportedPressure := by
  obtain ⟨middle, reads, read, readPath⟩ := answer_of_query run path
  obtain rfl := runs_issue_iff.mp read
  obtain ⟨_, ⟨_, _, rfl, replied⟩, tail⟩ := path_cons_iff.mp readPath
  obtain rfl := path_nil_iff.mp tail
  exact replied

/-- A level which was read is the level the probe has. -/
theorem reported_level {label : String} {value : ℚ}
    (run : (readCalibrationLevel label device).run.Runs trace (.ok value))
    (path : Bus.environment.Path bus trace bus') :
    (bus' device).Done .calibrationQuery ∧ value = (bus' device).level := by
  obtain ⟨_, level, _, rfl, query, final⟩ := runs_exceptT_bind_ok_iff.mp run
  obtain ⟨rfl, same⟩ := runs_done_iff.mp final
  obtain rfl := Except.ok.inj same
  rw [List.append_nil] at path
  obtain ⟨middle, reads, read, readPath⟩ := answer_of_query query path
  obtain rfl := runs_issue_iff.mp read
  obtain ⟨_, ⟨_, _, rfl, done, same⟩, tail⟩ := path_cons_iff.mp readPath
  obtain rfl := path_nil_iff.mp tail
  exact ⟨done, by rw [same]⟩

/-- A query leaves a quiet probe with what it holds. -/
theorem steady_of_query {α : Type} {typed : Program JobOp JobOp.Result (Except EzoError α)}
    {value : Except Status α}
    (run : (queryDevice device command sendContext typed readContext).run.Runs trace value)
    (path : Bus.environment.Path bus trace bus') (quiet : (bus device).Quiet)
    (query : command.setsCompensation = false)
    (answering : typed.Only (JobOp.Within device (· = command))) :
    (bus device).Steady (bus' device) := by
  have only : (queryDevice device command sendContext typed readContext).run.Only
      (JobOp.Within device (· = command)) := only_queryDevice rfl answering
  refine steady_of_path path quiet fun member => ?_
  obtain ⟨_, rfl⟩ := (only.advances run).1 _ member
  exact query

/-- What a compensation reading says of the probe it was taken from. -/
structure Reported (before after : Probe) (type : EzoDeviceType) (reading : CompensationReading) :
    Prop where
  quiet : after.Quiet
  reading : after.powerUps = before.powerUps → reading = after.holding.reading type
  held : after.powerUps = before.powerUps → before.Quiet → after.holding = before.holding

theorem reported_of_phReadCompensation {reading : CompensationReading}
    (run : (Ph.readCompensation device).run.Runs trace (.ok reading))
    (path : Bus.environment.Path bus trace bus') :
    (bus device).Reported (bus' device) .ph reading := by
  obtain ⟨_, temperature, _, rfl, query, final⟩ := runs_exceptT_bind_ok_iff.mp run
  obtain ⟨rfl, same⟩ := runs_done_iff.mp final
  obtain rfl := Except.ok.inj same
  rw [List.append_nil] at path
  obtain ⟨done, rfl⟩ := reported_temperature query path
  refine ⟨done.quiet, fun _ => rfl, fun powered quiet => ?_⟩
  exact ((steady_of_query query path quiet rfl (only_issue rfl)).held powered).1

theorem reported_of_doReadCompensation {reading : CompensationReading}
    (run : (Do.readCompensation device).run.Runs trace (.ok reading))
    (path : Bus.environment.Path bus trace bus') :
    (bus device).Reported (bus' device) .dox reading := by
  obtain ⟨_, temperature, _, rfl, temperatureRun, later⟩ := runs_exceptT_bind_ok_iff.mp run
  obtain ⟨_, salinity, _, rfl, salinityRun, later⟩ := runs_exceptT_bind_ok_iff.mp later
  obtain ⟨_, pressure, _, rfl, pressureRun, final⟩ := runs_exceptT_bind_ok_iff.mp later
  obtain ⟨rfl, same⟩ := runs_done_iff.mp final
  obtain rfl := Except.ok.inj same
  rw [List.append_nil] at path
  obtain ⟨first, temperaturePath, laterPath⟩ := path_append_iff.mp path
  obtain ⟨second, salinityPath, pressurePath⟩ := path_append_iff.mp laterPath
  have one := (later_of_path temperaturePath device).powerUps
  have two := (later_of_path salinityPath device).powerUps
  have three := (later_of_path pressurePath device).powerUps
  obtain ⟨temperatureDone, rfl⟩ := reported_temperature temperatureRun temperaturePath
  obtain ⟨salinityDone, rfl⟩ := reported_salinity salinityRun salinityPath
  obtain ⟨pressureDone, rfl⟩ := reported_pressure pressureRun pressurePath
  -- From one reply to the next the probe holds the same, as only queries are sent.
  have afterTemperature :=
    steady_of_query salinityRun salinityPath temperatureDone.quiet rfl (only_issue rfl)
  have afterSalinity :=
    steady_of_query pressureRun pressurePath salinityDone.quiet rfl (only_issue rfl)
  refine ⟨pressureDone.quiet, fun powered => ?_, fun powered quiet => ?_⟩
  · have same := (afterTemperature.held (by omega)).1
    have same' := (afterSalinity.held (by omega)).1
    simp only [Holding.reading, same', same]
  · have before := steady_of_query temperatureRun temperaturePath quiet rfl (only_issue rfl)
    rw [(afterSalinity.held (by omega)).1, (afterTemperature.held (by omega)).1,
      (before.held (by omega)).1]

/-- A compensation reading is what the probe reports when it has been taken. -/
theorem reported_of_readCompensation {type : EzoDeviceType}
    {reader : Address → JobM CompensationReading} {reading : CompensationReading}
    (adapted : (adapterFor type).readCompensation = some reader)
    (run : (reader device).run.Runs trace (.ok reading))
    (path : Bus.environment.Path bus trace bus') :
    (bus device).Reported (bus' device) type reading := by
  cases type <;> cases adapted
  · exact reported_of_phReadCompensation run path
  · exact reported_of_doReadCompensation run path

/-- A write which returned ok is in effect, whichever family it was for. -/
theorem changed_of_writeCompensation {type : EzoDeviceType}
    {writer : Address → Compensation → JobM Unit} {values : Compensation}
    (adapted : (adapterFor type).writeCompensation = some writer)
    (temperatureOnly : type = .ph → values = { temperatureC := values.temperatureC })
    (run : (writer device values).run.Runs trace (.ok ()))
    (path : Bus.environment.Path bus trace bus')
    (powered : (bus' device).powerUps = (bus device).powerUps) :
    (bus device).Changed (Holding.write values) (bus' device) := by
  cases type <;> cases adapted
  · rw [temperatureOnly rfl]
    exact changed_of_written (written_of_phWriteCompensation run) path powered
  · exact changed_of_written (written_of_doWriteCompensation run) path powered

end Probe

end EzoProvider.Devices
