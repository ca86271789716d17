import EzoProvider.Devices.CommandTraces
import EzoProvider.Devices.Probe

/-!
# What the exchanges of a job do to a probe

`maintains_probe` reduces an invariant of one probe along a trace to its events
and to the commands it receives. From it come what a probe keeps between two
points of a trace, and what it holds once it has answered SUCCESS.
-/

namespace EzoProvider.Devices

open Interaction Environment

/-! ## States of a probe -/

namespace Probe

/-- `after` is a later state of the same probe as `before`. -/
structure Later (before after : Probe) : Prop where
  powerUp : after.powerUp = before.powerUp
  powerUps : before.powerUps ≤ after.powerUps
  calibrations : before.calibrations ≤ after.calibrations
  level : after.calibrations = before.calibrations → after.level = before.level

theorem Later.refl (probe : Probe) : probe.Later probe :=
  ⟨rfl, le_rfl, le_rfl, fun _ => rfl⟩

theorem Later.trans {first second third : Probe} (before : first.Later second)
    (after : second.Later third) : first.Later third where
  powerUp := after.powerUp.trans before.powerUp
  powerUps := before.powerUps.trans after.powerUps
  calibrations := before.calibrations.trans after.calibrations
  level same := by
    have front := before.calibrations
    have back := after.calibrations
    exact (after.level (by omega)).trans (before.level (by omega))

theorem later_receive (probe : Probe) (command : Command) :
    probe.Later (probe.receive command) :=
  ⟨rfl, le_rfl, le_rfl, fun _ => rfl⟩

/-- No compensation command is under way. -/
def Quiet (probe : Probe) : Prop :=
  ∀ command, probe.command = some (command, .pending) → command.setsCompensation = false

/-- No calibration command is under way. -/
def Uncalibrating (probe : Probe) : Prop :=
  ∀ command, probe.command = some (command, .pending) → command.calibrates = false

theorem Done.quiet {probe : Probe} {command : Command} (done : probe.Done command) :
    probe.Quiet := by
  intro other pending
  rw [Done] at done
  simp [done] at pending

theorem Done.uncalibrating {probe : Probe} {command : Command} (done : probe.Done command) :
    probe.Uncalibrating := by
  intro other pending
  rw [Done] at done
  simp [done] at pending

/-- The probe holds what `reference` holds, unless it has lost power since. -/
structure Steady (reference probe : Probe) : Prop where
  powerUps : reference.powerUps ≤ probe.powerUps
  held : probe.powerUps = reference.powerUps → probe.holding = reference.holding ∧ probe.Quiet

theorem Quiet.steady {probe : Probe} (quiet : probe.Quiet) : probe.Steady probe :=
  ⟨le_rfl, fun _ => ⟨rfl, quiet⟩⟩

theorem Steady.receive {reference probe : Probe} {command : Command}
    (steady : reference.Steady probe) (kept : command.setsCompensation = false) :
    reference.Steady (probe.receive command) := by
  refine ⟨steady.powerUps, fun same => ⟨(steady.held same).1, ?_⟩⟩
  intro other pending
  cases pending
  exact kept

/-- The probe is at the calibration of `reference`, and at no calibration command. -/
structure Settled (reference probe : Probe) : Prop where
  calibrations : probe.calibrations = reference.calibrations
  uncalibrating : probe.Uncalibrating

theorem Uncalibrating.settled {probe : Probe} (uncalibrating : probe.Uncalibrating) :
    probe.Settled probe :=
  ⟨rfl, uncalibrating⟩

theorem Settled.receive {reference probe : Probe} {command : Command}
    (settled : reference.Settled probe) (kept : command.calibrates = false) :
    reference.Settled (probe.receive command) := by
  refine ⟨settled.calibrations, ?_⟩
  intro other pending
  cases pending
  exact kept

end Probe

variable [DecimalText]

namespace Bus

variable {bus bus' : Bus}

/-- An invariant of a probe's own events is an invariant of the drift of the bus. -/
theorem Drift.maintains_probe {invariant : Probe → Prop} {address : Address}
    (events : ∀ {probe probe'}, invariant probe → probe.Event probe' → invariant probe')
    (holds : invariant (bus address)) (drift : Drift bus bus') : invariant (bus' address) := by
  induction drift with
  | refl => exact holds
  | tail _ event ih =>
      obtain ⟨other, probe, happened, rfl⟩ := event
      by_cases same : address = other
      · subst same
        simpa using events ih happened
      · simpa [same] using ih

/-- The answer to an operation changes a probe by sending it a command, or not at all. -/
theorem Answer.probe {op : JobOp} {answer : op.Result} (answered : Answer bus op answer bus')
    (address : Address) :
    bus' address = bus address ∨
      ∃ command, op = .send address command ∧ bus' address = (bus address).receive command := by
  cases op with
  | send device command =>
      have received : bus' = bus ∨ bus' = bus.receive device command := by
        cases answer with
        | ok hint => exact .inr answered
        | error result => exact answered
      rcases received with rfl | rfl
      · exact .inl rfl
      · by_cases same : address = device
        · subst same
          exact .inr ⟨command, rfl, by simp [Bus.receive]⟩
        · exact .inl (by simp [Bus.receive, same])
  | readResponse | readCalibrationStatus | readTemperature | readSalinity | readPressure =>
      exact .inl (congrFun answered.1 address)
  | _ => exact .inl (congrFun answered address)

/-- The invariant rule for one probe: a trace keeps what the probe's events and the
commands it is sent keep. -/
theorem maintains_probe {invariant : Probe → Prop} {address : Address}
    (events : ∀ {probe probe'}, invariant probe → probe.Event probe' → invariant probe')
    {trace : JobTrace}
    (received : ∀ {probe command answer}, ⟨.send address command, answer⟩ ∈ trace →
      invariant probe → invariant (probe.receive command))
    (holds : invariant (bus address)) (path : environment.Path bus trace bus') :
    invariant (bus' address) := by
  induction path with
  | nil => exact holds
  | @cons state op result middle rest final answered _ ih =>
      apply ih
      · intro probe command answer member
        exact received (List.mem_cons_of_mem _ member)
      · obtain ⟨drifted, drift, answer⟩ := answered
        have kept := drift.maintains_probe events holds
        rcases answer.probe address with same | ⟨command, rfl, same⟩
        · rw [same]
          exact kept
        · rw [same]
          exact received List.mem_cons_self kept

end Bus

namespace Probe

/-! ## What the events of a probe keep -/

theorem Event.later {probe probe' : Probe} (event : probe.Event probe') : probe.Later probe' := by
  cases event with
  | @carriedOut command level pending kept =>
      refine ⟨rfl, le_rfl, Nat.le_add_right _ _, fun same => ?_⟩
      apply kept
      by_contra calibrates
      simp [calibrates] at same
  | refused => exact ⟨rfl, le_rfl, le_rfl, fun _ => rfl⟩
  | powerLost => exact ⟨rfl, Nat.le_succ _, le_rfl, fun _ => rfl⟩

theorem later_of_path {bus bus' : Bus} {trace : JobTrace}
    (path : Bus.environment.Path bus trace bus') (address : Address) :
    (bus address).Later (bus' address) :=
  Bus.maintains_probe (fun earlier event => earlier.trans event.later)
    (fun _ earlier => earlier.trans (later_receive _ _)) (.refl _) path

theorem later_of_drift {bus bus' : Bus} (drift : Bus.Drift bus bus') (address : Address) :
    (bus address).Later (bus' address) :=
  drift.maintains_probe (fun earlier event => earlier.trans event.later) (.refl _)

theorem Steady.event {reference probe probe' : Probe} (steady : reference.Steady probe)
    (event : probe.Event probe') : reference.Steady probe' := by
  cases event with
  | @carriedOut command level pending kept =>
      refine ⟨steady.powerUps, fun same => ?_⟩
      obtain ⟨held, quiet⟩ := steady.held same
      have unchanged : probe.holding.apply command = probe.holding := by
        have sets := quiet command pending
        cases command <;> simp_all [Holding.apply, Command.setsCompensation]
      exact ⟨unchanged.trans held, Done.quiet rfl⟩
  | refused pending =>
      refine ⟨steady.powerUps, fun same => ⟨(steady.held same).1, ?_⟩⟩
      intro other under
      simp at under
  | powerLost =>
      refine ⟨steady.powerUps.trans (Nat.le_succ _), fun same => ?_⟩
      have earlier := steady.powerUps
      simp only at same
      omega

theorem Settled.event {reference probe probe' : Probe} (settled : reference.Settled probe)
    (event : probe.Event probe') : reference.Settled probe' := by
  cases event with
  | @carriedOut command level pending kept =>
      refine ⟨?_, Done.uncalibrating rfl⟩
      simpa [settled.uncalibrating command pending] using settled.calibrations
  | refused pending =>
      refine ⟨settled.calibrations, ?_⟩
      intro other under
      simp at under
  | powerLost =>
      refine ⟨settled.calibrations, ?_⟩
      intro other under
      simp at under

/-- A trace which sends a quiet probe no compensation leaves it with what it holds. -/
theorem steady_of_path {bus bus' : Bus} {trace : JobTrace} {address : Address}
    (path : Bus.environment.Path bus trace bus') (quiet : (bus address).Quiet)
    (kept : ∀ {command answer}, ⟨.send address command, answer⟩ ∈ trace →
      command.setsCompensation = false) :
    (bus address).Steady (bus' address) :=
  Bus.maintains_probe (fun steady event => steady.event event)
    (fun member steady => steady.receive (kept member)) quiet.steady path

theorem steady_of_drift {bus bus' : Bus} {address : Address} (drift : Bus.Drift bus bus')
    (quiet : (bus address).Quiet) : (bus address).Steady (bus' address) :=
  drift.maintains_probe (fun steady event => steady.event event) quiet.steady

/-- A trace which sends no calibration command leaves the calibration as it is. -/
theorem settled_of_path {bus bus' : Bus} {trace : JobTrace} {address : Address}
    (path : Bus.environment.Path bus trace bus') (uncalibrating : (bus address).Uncalibrating)
    (kept : ∀ {command answer}, ⟨.send address command, answer⟩ ∈ trace →
      command.calibrates = false) :
    (bus address).Settled (bus' address) :=
  Bus.maintains_probe (fun settled event => settled.event event)
    (fun member settled => settled.receive (kept member)) uncalibrating.settled path

/-! ## Accepted commands -/

/-- A probe between receiving `command`, as it was at `reference`, and any other. -/
structure Carrying (reference : Probe) (command : Command) (probe : Probe) : Prop where
  powerUps : reference.powerUps ≤ probe.powerUps
  calibrations : reference.calibrations ≤ probe.calibrations
  alone : ∀ other progress, probe.command = some (other, progress) → other = command
  undone : probe.powerUps = reference.powerUps → ¬ probe.Done command →
    probe.holding = reference.holding
  done : probe.powerUps = reference.powerUps → probe.Done command →
    probe.holding = reference.holding.apply command
  calibrated : probe.Done command → command.calibrates = true →
    reference.calibrations < probe.calibrations

theorem carrying_receive (probe : Probe) (command : Command) :
    probe.Carrying command (probe.receive command) where
  powerUps := le_rfl
  calibrations := le_rfl
  alone other progress same := by
    cases same
    rfl
  undone _ _ := rfl
  done _ done := by simp [Done, Probe.receive] at done
  calibrated done := by simp [Done, Probe.receive] at done

theorem Carrying.event {reference probe probe' : Probe} {command : Command}
    (carrying : reference.Carrying command probe) (event : probe.Event probe') :
    reference.Carrying command probe' := by
  cases event with
  | @carriedOut other level pending kept =>
      obtain rfl := carrying.alone other _ pending
      have undone : ¬ probe.Done other := by simp [Done, pending]
      refine ⟨carrying.powerUps, carrying.calibrations.trans (Nat.le_add_right _ _), ?_, ?_, ?_, ?_⟩
      · rintro another progress ⟨⟩
        rfl
      · intro _ still
        exact absurd rfl still
      · intro same _
        rw [← carrying.undone same undone]
      · intro _ calibrates
        have earlier := carrying.calibrations
        simp only [calibrates, ↓reduceIte]
        omega
  | @refused other pending =>
      obtain rfl := carrying.alone other _ pending
      have undone : ¬ probe.Done other := by simp [Done, pending]
      refine ⟨carrying.powerUps, carrying.calibrations, ?_, ?_, ?_, ?_⟩
      · rintro another progress ⟨⟩
        rfl
      · intro same _
        exact carrying.undone same undone
      · intro _ done
        simp [Done] at done
      · intro done
        simp [Done] at done
  | powerLost =>
      have earlier := carrying.powerUps
      refine ⟨earlier.trans (Nat.le_succ _), carrying.calibrations, by simp, ?_, ?_, ?_⟩
      · intro same
        simp only at same
        omega
      · intro _ done
        simp [Done] at done
      · intro done
        simp [Done] at done

/-- What a probe has done which has just answered SUCCESS to `command`. -/
structure Took (before : Probe) (command : Command) (after : Probe) : Prop where
  done : after.Done command
  later : before.Later after
  held : after.powerUps = before.powerUps → ∃ holding, after.holding = holding.apply command ∧
    (before.Quiet → holding = before.holding)
  calibrated : command.calibrates = true → before.calibrations < after.calibrations

/-- The last read of an answered command saw SUCCESS. -/
theorem done_of_answered {device : Address} {trace : JobTrace} (answered : Answered device trace)
    {bus bus' : Bus} (path : Bus.environment.Path bus trace bus') :
    ∃ command, (bus' device).Done command := by
  induction answered generalizing bus with
  | success =>
      obtain ⟨_, ⟨drifted, _, rfl, responds⟩, tail⟩ := path_cons_iff.mp path
      obtain rfl := path_nil_iff.mp tail
      exact responds
  | pending _ ih =>
      obtain ⟨_, _, tail⟩ := path_cons_iff.mp path
      obtain ⟨_, _, later⟩ := path_cons_iff.mp tail
      exact ih later

/-- A probe which answers SUCCESS has taken the command. -/
theorem took_of_accepted {device : Address} {command : Command} {trace : JobTrace}
    (accepted : Accepted device command trace) {bus bus' : Bus}
    (path : Bus.environment.Path bus trace bus') :
    (bus device).Took command (bus' device) := by
  obtain ⟨hint, waits, reads, rfl, delays, answered⟩ := accepted
  have later := later_of_path path device
  obtain ⟨sent, ⟨drifted, drift, rfl⟩, tail⟩ := path_cons_iff.mp path
  have carrying : (drifted device).Carrying command (bus' device) := by
    refine Bus.maintains_probe (fun carrying event => carrying.event event) ?_ ?_ tail
    · intro probe other answer member
      rcases List.mem_append.mp member with wait | read
      · obtain ⟨_, same⟩ := delays _ wait
        simp at same
      · exact absurd read (send_not_mem_of_answered answered)
    · simpa [Bus.receive] using carrying_receive (drifted device) command
  obtain ⟨other, done⟩ : ∃ other, (bus' device).Done other := by
    obtain ⟨middle, _, readsPath⟩ := path_append_iff.mp tail
    exact done_of_answered answered readsPath
  obtain rfl := carrying.alone other _ done
  have drifting := later_of_drift drift device
  refine ⟨done, later, ?_, ?_⟩
  · intro same
    have front := drifting.powerUps
    have back := carrying.powerUps
    refine ⟨(drifted device).holding, carrying.done (by omega) done, fun quiet => ?_⟩
    exact ((steady_of_drift drift quiet).held (by omega)).1
  · intro calibrates
    have front := drifting.calibrations
    have back := carrying.calibrated done calibrates
    omega

end Probe
end EzoProvider.Devices
