import EzoProvider.Runtime.World

/-!
# What keeps on the line

A job can only do to a probe what its commands do. `Line.Free` says of a kind of
commands that none is under way on a probe and none is still to come for it; a
submission whose job has none of that kind keeps it so, whatever becomes of it.
-/

namespace EzoProvider.Runtime

open Interaction Program Devices Environment

namespace Line

/-- What is left of the job on the line does only allowed operations. -/
def Only (allowed : JobOp → Prop) (line : Line) : Prop :=
  ∀ job, line.orphan = some job → job.Only allowed

/-- No command of a kind is under way on a probe, and none is still to come for it. -/
structure Free (kind : Command → Bool) (address : Address) (line : Line) : Prop where
  probe : ∀ command, (line.bus address).command = some (command, .pending) → kind command = false
  orphan : line.Only (JobOp.Spares address (kind · = false))

/-- A bus with no job left on it, and a probe at no command of a kind. -/
theorem free_of_probe {kind : Command → Bool} {address : Address} {bus : Bus}
    (idle : ∀ command, (bus address).command = some (command, .pending) → kind command = false) :
    Free kind address { bus } :=
  ⟨idle, fun job left => by simp at left⟩

variable [DecimalText]

/-- Only allowed operations have reached the bus. -/
def Went (allowed : JobOp → Prop) (line line' : Line) : Prop :=
  ∃ trace ended, (∀ exchange ∈ trace, allowed exchange.1) ∧
    Bus.environment.Path line.bus trace ended ∧ Bus.Drift ended line'.bus

section Allowed

variable {allowed : JobOp → Prop} {line line' : Line} {name : String} {timeoutMs : Int}
  {job : Job} {reply : SubmitReply}

theorem Cleared.path {bus : Bus} (clear : line.Cleared bus) (only : line.Only allowed) :
    ∃ trace, (∀ exchange ∈ trace, allowed exchange.1) ∧
      Bus.environment.Path line.bus trace bus := by
  rw [Cleared] at clear
  split at clear
  · subst clear
    exact ⟨[], by simp, .nil⟩
  · next job left =>
      obtain ⟨trace, status, run, path⟩ := clear
      exact ⟨trace, ((only job left).advances run).1, path⟩

theorem Passed.went (passed : line.Passed line') (only : line.Only allowed) :
    Went allowed line line' ∧ line'.Only allowed := by
  cases passed with
  | idle alone drift => exact ⟨⟨[], line.bus, by simp, .nil, drift⟩, only⟩
  | advanced left advance path drift =>
      obtain ⟨permitted, restOnly⟩ := (only _ left).advances advance
      refine ⟨⟨_, _, permitted, path, drift⟩, ?_⟩
      rintro job ⟨⟩
      exact restOnly

theorem Submitted.went (submitted : line.Submitted name timeoutMs job reply line')
    (only : line.Only allowed) (jobOnly : job.Only allowed) :
    Went allowed line line' ∧ line'.Only allowed := by
  have joined : ∀ {cleared ended bus : Bus} {trace : JobTrace} {rest : Job}, line.Cleared cleared →
      job.Advances trace rest → Bus.environment.Path cleared trace ended →
      Bus.Drift ended bus → ∃ whole ended, (∀ exchange ∈ whole, allowed exchange.1) ∧
        Bus.environment.Path line.bus whole ended ∧ Bus.Drift ended bus := by
    intro cleared ended bus trace rest clear advance path drift
    obtain ⟨before, permitted, beforePath⟩ := clear.path only
    refine ⟨before ++ trace, ended, ?_, beforePath.trans path, drift⟩
    intro exchange member
    rcases List.mem_append.mp member with member | member
    · exact permitted exchange member
    · exact (jobOnly.advances advance).1 exchange member
  cases submitted with
  | refused stopped => exact ⟨⟨[], line.bus, by simp, .nil, .refl⟩, only⟩
  | finished running clear run path drift =>
      refine ⟨joined clear run path drift, ?_⟩
      intro job left
      simp at left
  | expired running timed clear advance path drift =>
      refine ⟨joined clear advance path drift, ?_⟩
      rintro job ⟨⟩
      exact (jobOnly.advances advance).2
  | skipped running timed passes => exact passes.went only

end Allowed

/-! ## Probes -/

variable {kind : Command → Bool} {address : Address} {line line' : Line}

/-- A later state of the line is one of the same probes. -/
theorem Went.later {allowed : JobOp → Prop} (went : Went allowed line line')
    (address : Address) : (line.bus address).Later (line'.bus address) := by
  obtain ⟨trace, ended, _, path, drift⟩ := went
  exact (Probe.later_of_path path address).trans (Probe.later_of_drift drift address)

/-- A probe which is sent no command of a kind does not come to be at one. -/
theorem Went.free (went : Went (JobOp.Spares address (kind · = false)) line line')
    (free : line.Free kind address) (only : line'.Only (JobOp.Spares address (kind · = false))) :
    line'.Free kind address := by
  refine ⟨?_, only⟩
  obtain ⟨trace, ended, permitted, path, drift⟩ := went
  let idle : Probe → Prop := fun probe =>
    ∀ command, probe.command = some (command, .pending) → kind command = false
  have events : ∀ {probe probe' : Probe}, idle probe → probe.Event probe' → idle probe' := by
    intro probe probe' _ event command pending
    cases event <;> simp at pending
  have sent : idle (ended address) := by
    refine Bus.maintains_probe events ?_ free.probe path
    intro probe command answer member _ other pending
    have kept := permitted _ member command rfl
    cases pending
    exact kept
  exact drift.maintains_probe events sent

/-- At no calibration command, a probe keeps its calibration. -/
theorem Went.calibration (went : Went (JobOp.Spares address (Command.calibrates · = false)) line line')
    (free : line.Free Command.calibrates address) :
    (line'.bus address).calibrations = (line.bus address).calibrations := by
  obtain ⟨trace, ended, permitted, path, drift⟩ := went
  have settled := Probe.settled_of_path path free.probe
    fun {command answer} member => permitted _ member command rfl
  have drifted := drift.maintains_probe (fun settled event => settled.event event)
    settled.uncalibrating.settled
  exact drifted.calibrations.trans settled.calibrations

/-- At no compensation command, a probe keeps what it holds until it loses power. -/
theorem Went.holding
    (went : Went (JobOp.Spares address (Command.setsCompensation · = false)) line line')
    (free : line.Free Command.setsCompensation address)
    (powered : (line'.bus address).powerUps = (line.bus address).powerUps) :
    (line'.bus address).holding = (line.bus address).holding := by
  obtain ⟨trace, ended, permitted, path, drift⟩ := went
  have before := (Probe.later_of_path path address).powerUps
  have after := (Probe.later_of_drift drift address).powerUps
  have steady := Probe.steady_of_path path free.probe
    fun {command answer} member => permitted _ member command rfl
  obtain ⟨held, quiet⟩ := steady.held (by omega)
  rw [((Probe.steady_of_drift drift quiet).held (by omega)).1, held]

/-! ## Jobs which finish -/

/-- The job has run to its end with the caller waiting. -/
def Finished (line : Line) (job : Job) (reply : SubmitReply) (trace : JobTrace)
    (line' : Line) : Prop :=
  ∃ cleared ended, line.Cleared cleared ∧ job.Runs trace reply.status ∧
    reply.outputs = outputsOf trace ∧ Bus.environment.Path cleared trace ended ∧
    Bus.Drift ended line'.bus ∧ line'.orphan = none

section Finished

variable {name : String} {timeoutMs : Int} {job : Job} {reply : SubmitReply}

/-- A submission which returned ok has the status of its job. -/
theorem finished_of_submitted (submitted : line.Submitted name timeoutMs job reply line')
    (ok : reply.status.isOk = true) : ∃ trace, line.Finished job reply trace line' := by
  cases submitted with
  | refused stopped => simp at ok
  | finished running clear run path drift =>
      exact ⟨_, _, _, clear, run, rfl, path, drift, rfl⟩
  | expired running timed clear advance path drift => simp [deadlineReply] at ok
  | skipped running timed passes => simp [deadlineReply] at ok

/-- The bus a job started on is a later state of the one it was submitted on. -/
theorem Cleared.later {bus : Bus} (clear : line.Cleared bus) (address : Address) :
    (line.bus address).Later (bus address) := by
  obtain ⟨trace, _, path⟩ := clear.path (fun job _ => Program.only_true job)
  exact Probe.later_of_path path address

end Finished

end Line
end EzoProvider.Runtime
