import EzoProvider.Devices.CompensationSpecs
import EzoProvider.Runtime.JobOutcomes
import EzoProvider.Runtime.LineInvariants

/-!
# The compensation check on the bus

What a check which returned ok leaves: the reading it recorded is what the probe
reports, and the values set are in effect, either because the probe still had
them or because they have been sent again. The tolerances absorb both roundings.
-/

namespace EzoProvider.Runtime

open Interaction Program Devices Environment

variable [DecimalText]

/-! ## Tolerances -/

/-- A temperature or pressure, as sent and then as reported, is within tolerance. -/
theorem abs_reported_sent_le (value : ℚ) :
    |value - DecimalText.reported.round 1 (DecimalText.sent.round 2 value)| ≤ 6 / 100 := by
  have sent := DecimalText.sent.near 2 value
  have reported := DecimalText.reported.near 1 (DecimalText.sent.round 2 value)
  rw [abs_le] at *
  norm_num at sent reported
  constructor <;> linarith [sent.1, sent.2, reported.1, reported.2]

theorem abs_reported_sent_salinity_le (value : ℚ) :
    |value - DecimalText.reported.round 0 (DecimalText.sent.round 1 value)| ≤ 1 := by
  have sent := DecimalText.sent.near 1 value
  have reported := DecimalText.reported.near 0 (DecimalText.sent.round 1 value)
  rw [abs_le] at *
  norm_num at sent reported
  constructor <;> linarith [sent.1, sent.2, reported.1, reported.2]

/-- Once set, a value reads back within tolerance. -/
theorem holdsAll_write [EzoDriver] {type : EzoDeviceType} {set : Compensation}
    {reader : Address → JobM CompensationReading}
    (adapted : (adapterFor type).readCompensation = some reader) (takes : Takes type set)
    (holding : Holding) : holdsAll set ((holding.write set).reading type).values = true := by
  obtain ⟨temperature, salinity, pressure⟩ := set
  cases type <;> cases adapted
  · obtain ⟨rfl, rfl⟩ : salinity = none ∧ pressure = none := by simpa [Takes] using takes
    cases temperature with
    | none => rfl
    | some value =>
        simpa [holdsAll, Holding.reading, Holding.write, Holding.reportedTemperature,
          kTemperatureTolerance] using abs_reported_sent_le value
  · have temperatureHolds : holds temperature
        (some (DecimalText.reported.round 1 (temperature.elim holding.temperatureC
          (DecimalText.sent.round 2)))) kTemperatureTolerance = true := by
      cases temperature with
      | none => rfl
      | some value => simpa [kTemperatureTolerance] using abs_reported_sent_le value
    have pressureHolds : holds pressure
        (some (DecimalText.reported.round 1 (pressure.elim holding.pressureKpa
          (DecimalText.sent.round 2)))) kPressureTolerance = true := by
      cases pressure with
      | none => rfl
      | some value => simpa [kPressureTolerance] using abs_reported_sent_le value
    cases salinity with
    | none =>
        simp only [holdsAll, Holding.reading, Do.readingOf]
        split <;> simpa [Holding.reportedTemperature, Holding.reportedPressure, Holding.write] using
          ⟨temperatureHolds, pressureHolds⟩
    | some value =>
        have salinityHolds := abs_reported_sent_salinity_le value
        simpa [holdsAll, Holding.reading, Do.readingOf, Holding.reportedSalinity,
          Holding.reportedTemperature, Holding.reportedPressure, Holding.write,
          kSalinityTolerance] using ⟨⟨temperatureHolds, salinityHolds⟩, pressureHolds⟩

/-- The probe holds the values, up to the tolerances and the decimals of its replies. -/
structure InEffect (set : Compensation) (holding : Holding) : Prop where
  temperature : ∀ value ∈ set.temperatureC,
    |value - holding.temperatureC| ≤ kTemperatureTolerance + 1 / 20
  salinity : ∀ value ∈ set.salinityUsCm,
    holding.salinityUnit = .microsiemens ∧ |value - holding.salinity| ≤ kSalinityTolerance + 1 / 2
  pressure : ∀ value ∈ set.pressureKpa,
    |value - holding.pressureKpa| ≤ kPressureTolerance + 1 / 20

theorem abs_sub_le_of_reported {value held tolerance : ℚ} {decimals : Nat}
    (holds : |value - DecimalText.reported.round decimals held| ≤ tolerance) :
    |value - held| ≤ tolerance + 1 / (2 * 10 ^ decimals) :=
  (abs_sub_le value (DecimalText.reported.round decimals held) held).trans
    (add_le_add holds (DecimalText.reported.near decimals held))

/-- Values which read back within tolerance are in effect. -/
theorem inEffect_of_reading [EzoDriver] {type : EzoDeviceType} {set : Compensation}
    {reader : Address → JobM CompensationReading}
    (adapted : (adapterFor type).readCompensation = some reader) (takes : Takes type set)
    {holding : Holding} (holds : holdsAll set (holding.reading type).values = true) :
    InEffect set holding := by
  obtain ⟨temperature, salinity, pressure⟩ := set
  cases type <;> cases adapted
  · obtain ⟨rfl, rfl⟩ : salinity = none ∧ pressure = none := by simpa [Takes] using takes
    refine ⟨?_, by simp, by simp⟩
    rintro value ⟨⟩
    have near : |value - holding.reportedTemperature| ≤ kTemperatureTolerance := by
      simpa [holdsAll, Holding.reading] using holds
    exact (abs_sub_le_of_reported near).trans_eq (by norm_num)
  · simp only [holdsAll, Bool.and_eq_true] at holds
    obtain ⟨⟨temperatureHolds, salinityHolds⟩, pressureHolds⟩ := holds
    refine ⟨?_, ?_, ?_⟩
    · rintro value ⟨⟩
      have near : |value - holding.reportedTemperature| ≤ kTemperatureTolerance := by
        simp only [Holding.reading, Do.readingOf] at temperatureHolds
        split at temperatureHolds <;> simpa using temperatureHolds
      exact (abs_sub_le_of_reported near).trans_eq (by norm_num)
    · rintro value ⟨⟩
      have reported : holding.salinityUnit = .microsiemens ∧
          |value - holding.reportedSalinity.1| ≤ kSalinityTolerance := by
        simp only [Holding.reading, Do.readingOf] at salinityHolds
        split at salinityHolds
        · next unit => exact ⟨unit, by simpa using salinityHolds⟩
        · simp [holds] at salinityHolds
      exact ⟨reported.1, (abs_sub_le_of_reported reported.2).trans_eq (by norm_num)⟩
    · rintro value ⟨⟩
      have near : |value - holding.reportedPressure| ≤ kPressureTolerance := by
        simp only [Holding.reading, Do.readingOf] at pressureHolds
        split at pressureHolds <;> simpa using pressureHolds
      exact (abs_sub_le_of_reported near).trans_eq (by norm_num)

/-! ## What a check leaves -/

/-- Between two operations on a probe a job stores its results, and time passes. -/
theorem went_of_store (address : Address) {line' : Line} {read ended : Bus} {output : JobOutput}
    (stored : Bus.environment.Path read [⟨.store output, ()⟩] ended)
    (drift : Bus.Drift ended line'.bus) (kept : Command → Prop) :
    Line.Went (JobOp.Spares address kept) { bus := read } line' := by
  refine ⟨_, ended, ?_, stored, drift⟩
  intro exchange member command same
  obtain rfl := List.mem_singleton.mp member
  cases same

section Outcome

variable [EzoDriver]

/-- `started` is what the probe holds once a check which goes on from `line` to `line'`
has read it for the first time. -/
def FirstRead (type : EzoDeviceType) (address : Address) (set : Compensation) (line line' : Line)
    (started : Holding) : Prop :=
  ∃ reader writer reads reading rest status cleared read ended,
    (adapterFor type).readCompensation = some reader ∧
    (adapterFor type).writeCompensation = some writer ∧
    (reader address).run.Runs reads (.ok reading) ∧
    (compensationJob address set reader writer).Runs
      ((⟨.bind address, .ok ()⟩ :: reads) ++ rest) status ∧
    line.Cleared cleared ∧
    Bus.environment.Path cleared (⟨.bind address, .ok ()⟩ :: reads) read ∧
    Bus.environment.Path read rest ended ∧ Bus.Drift ended line'.bus ∧
    started = (read address).holding

/-- What a check which returned ok leaves, of a probe which kept its power. -/
structure Checked (type : EzoDeviceType) (address : Address) (set : Compensation)
    (outputs : JobOutputs) (line line' : Line) : Prop where
  quiet : line'.Free Command.setsCompensation address
  reading : (line'.bus address).powerUps = (line.bus address).powerUps →
    outputs.reading = (line'.bus address).holding.reading type
  effect : (line'.bus address).powerUps = (line.bus address).powerUps →
    ∃ started : Holding, FirstRead type address set line line' started ∧
      (line.Free Command.setsCompensation address → started = (line.bus address).holding) ∧
      if holdsAll set (started.reading type).values then
        (line'.bus address).holding = started ∧ outputs.reapplied = false
      else (line'.bus address).holding = started.write set ∧ outputs.reapplied = true

variable {type : EzoDeviceType} {address : Address} {set : Compensation}
  {reader : Address → JobM CompensationReading} {writer : Address → Compensation → JobM Unit}
  {line line' : Line}

/-- The first read of a job: a later state of the probe than the submission found, and
the same if nothing was to come for it. -/
theorem reported_first {cleared read : Bus} {reads : JobTrace} {reading : CompensationReading}
    (adapted : (adapterFor type).readCompensation = some reader) (clear : line.Cleared cleared)
    (run : (reader address).run.Runs reads (.ok reading))
    (path : Bus.environment.Path cleared (⟨.bind address, .ok ()⟩ :: reads) read) :
    (line.bus address).Later (read address) ∧ (read address).Quiet ∧
      ((read address).powerUps = (line.bus address).powerUps →
        reading = (read address).holding.reading type ∧
        (line.Free Command.setsCompensation address →
          (read address).holding = (line.bus address).holding)) := by
  obtain ⟨bound, answer, readPath⟩ := path_cons_iff.mp path
  have binding : Bus.environment.Path cleared [⟨.bind address, .ok ()⟩] bound := .cons answer .nil
  have before := (clear.later address).trans (Probe.later_of_path binding address)
  have reported := Probe.reported_of_readCompensation adapted run readPath
  have after := Probe.later_of_path readPath address
  refine ⟨before.trans after, reported.quiet, fun powered => ?_⟩
  have first := before.powerUps
  have second := after.powerUps
  refine ⟨reported.reading (by omega), fun free => ?_⟩
  -- Up to the first read the probe is sent nothing that sets a compensation.
  obtain ⟨earlier, permitted, earlierPath⟩ := clear.path free.orphan
  have went : line.Went (JobOp.Spares address (Command.setsCompensation · = false))
      { bus := bound } := by
    refine ⟨earlier ++ [⟨.bind address, .ok ()⟩], bound, ?_, earlierPath.trans binding, .refl⟩
    intro exchange member
    rcases List.mem_append.mp member with member | member
    · exact permitted exchange member
    · obtain rfl := List.mem_singleton.mp member
      intro command same
      cases same
  have quiet := went.free free fun job left => by simp at left
  rw [reported.held (by omega) quiet.probe, went.holding free (by simp only; omega)]

theorem checked_of_finished (reads : (adapterFor type).readCompensation = some reader)
    (writes : (adapterFor type).writeCompensation = some writer) (takes : Takes type set)
    {reply : SubmitReply} {trace : JobTrace}
    (finished : line.Finished (compensationJob address set reader writer) reply trace line')
    (ok : reply.status.isOk = true) : Checked type address set reply.outputs line line' := by
  obtain ⟨cleared, ended, clear, run, same, path, drift, alone⟩ := finished
  have left : ∀ allowed, line'.Only allowed := fun _ job left => by simp [alone] at left
  rw [same]
  cases compensationRun_of_runs reads writes run ok with
  | @held trace reading read holds =>
      rw [outputs_held reads read]
      rw [← List.cons_append] at path
      obtain ⟨middle, readPath, stored⟩ := path_append_iff.mp path
      obtain ⟨before, quiet, reported⟩ := reported_first reads clear read readPath
      have setting := went_of_store address stored drift (Command.setsCompensation · = false)
      have still := Line.free_of_probe quiet
      have powers := before.powerUps
      have later := (setting.later address).powerUps
      refine ⟨setting.free still (left _), fun powered => ?_, fun powered => ?_⟩
      all_goals
        obtain ⟨reading, started⟩ := reported (by simp only at later; omega)
        have kept := setting.holding still (by simp only at later ⊢; omega)
      · rw [kept]
        exact reading
      · have first : FirstRead type address set line line' (middle address).holding :=
          ⟨reader, writer, _, _, _, _, cleared, middle, ended, reads, writes, read, run, clear,
            readPath, stored, drift, rfl⟩
        refine ⟨(middle address).holding, first, started, ?_⟩
        rw [if_pos (by rw [← reading]; exact holds)]
        exact ⟨kept, rfl⟩
  | @sent first writing second reading again read lost written readAgain =>
      rw [outputs_sent reads writes read written readAgain]
      rw [← List.cons_append] at path
      obtain ⟨afterRead, readPath, restPath⟩ := path_append_iff.mp path
      have rest := restPath
      rw [← List.singleton_append] at rest
      obtain ⟨afterStore, storePath, rest⟩ := path_append_iff.mp rest
      obtain ⟨afterWrite, writePath, rest⟩ := path_append_iff.mp rest
      rw [← List.singleton_append] at rest
      obtain ⟨afterMark, markPath, rest⟩ := path_append_iff.mp rest
      obtain ⟨afterAgain, againPath, stored⟩ := path_append_iff.mp rest
      obtain ⟨before, quiet, reported⟩ := reported_first reads clear read readPath
      have storing : Line.Went (JobOp.Spares address (Command.setsCompensation · = false))
          { bus := afterRead } { bus := afterStore } :=
        @went_of_store _ address { bus := afterStore } _ _ _ storePath .refl _
      have marking : Line.Went (JobOp.Spares address (Command.setsCompensation · = false))
          { bus := afterWrite } { bus := afterMark } :=
        @went_of_store _ address { bus := afterMark } _ _ _ markPath .refl _
      have ending := went_of_store address stored drift (Command.setsCompensation · = false)
      have reportedAgain := Probe.reported_of_readCompensation reads readAgain againPath
      have storeQuiet := storing.free (Line.free_of_probe quiet) fun job none => by simp at none
      have one := before.powerUps
      have two := (storing.later address).powerUps
      have three := (Probe.later_of_path writePath address).powerUps
      have four := (marking.later address).powerUps
      have five := (Probe.later_of_path againPath address).powerUps
      have six := (ending.later address).powerUps
      simp only at two four six
      refine ⟨ending.free (Line.free_of_probe reportedAgain.quiet) (left _),
        fun powered => ?_, fun powered => ?_⟩
      all_goals
        have kept := ending.holding (Line.free_of_probe reportedAgain.quiet) (by simp only; omega)
      · rw [kept]
        exact reportedAgain.reading (by omega)
      · obtain ⟨reading, started⟩ := reported (by omega)
        have changed := Probe.changed_of_writeCompensation writes takes written writePath (by omega)
        obtain ⟨held, isWritten, unchanged⟩ := changed.held
        have writeQuiet := changed.quiet storeQuiet.probe
        have markQuiet := marking.free (Line.free_of_probe writeQuiet) fun job none => by simp at none
        have stillStored := storing.holding (Line.free_of_probe quiet) (by simp only; omega)
        have stillMarked := marking.holding (Line.free_of_probe writeQuiet) (by simp only; omega)
        have first : FirstRead type address set line line' (afterRead address).holding :=
          ⟨reader, writer, _, _, _, _, cleared, afterRead, ended, reads, writes, read, run, clear,
            readPath, restPath, drift, rfl⟩
        refine ⟨(afterRead address).holding, first, started, ?_⟩
        rw [if_neg (by rw [← reading, lost]; simp)]
        refine ⟨?_, rfl⟩
        rw [kept, reportedAgain.held (by omega) markQuiet.probe, stillMarked, isWritten,
          unchanged storeQuiet.probe, stillStored]

/-- What the check has read holds every value set, within tolerance. -/
theorem Checked.holds {outputs : JobOutputs} (checked : Checked type address set outputs line line')
    (reads : (adapterFor type).readCompensation = some reader) (takes : Takes type set)
    (powered : (line'.bus address).powerUps = (line.bus address).powerUps) :
    holdsAll set outputs.reading.values = true := by
  rw [checked.reading powered]
  obtain ⟨started, _, _, effect⟩ := checked.effect powered
  split at effect
  · next holds => rw [effect.1, holds]
  · rw [effect.1]
    exact holdsAll_write reads takes started

end Outcome

end EzoProvider.Runtime
