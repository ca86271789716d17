import EzoProvider.Runtime.CalibratedCompensation
import EzoProvider.Runtime.CheckSpecs
import EzoProvider.Runtime.OneCaller

/-!
# The compensation under several threads

Threads set, check and sample at once. As long as each check is submitted with
the values which are set then, and nothing fails, the last job to write to a
probe is a check with the values remembered last: whoever remembers values owes
a check of them. So once all have returned the probe holds what has been set.
-/

namespace EzoProvider.Runtime

open Interaction Program Devices TransitionSystem

/-! ## Writers -/

/-- The errand writes the compensation of a probe, or may write it again. -/
def Errand.Writes : Errand → Prop
  | check .. => True
  | control _ functionId _ => functionId = kFunctionSetCompensation
  | sample _ | level .. => False

/-- Every function but `calibrate`, which writes values of its own. -/
def SparesCompensation (functionId : Nat) : Prop := functionId ≠ kFunctionCalibrate

/-- The task writes the compensation of the device, or may. -/
def WritesTo (errands : List Errand) (spec : DeviceSpec) (task : Bus.TaskId) : Prop :=
  ∃ errand, errands[task]? = some errand ∧ errand.spec = spec ∧ errand.Writes

theorem WritesTo.append {errands : List Errand} {spec : DeviceSpec} {task : Bus.TaskId}
    (writes : WritesTo errands spec task) (more : List Errand) :
    WritesTo (errands ++ more) spec task := by
  obtain ⟨errand, listed, same⟩ := writes
  exact ⟨errand, by rwa [List.getElem?_append_left (List.getElem?_eq_some_iff.mp listed).1], same⟩

theorem WritesTo.lt {errands : List Errand} {spec : DeviceSpec} {task : Bus.TaskId}
    (writes : WritesTo errands spec task) : task < errands.length := by
  obtain ⟨errand, listed, _⟩ := writes
  exact (List.getElem?_eq_some_iff.mp listed).1

/-- A new errand writes, or the writers are those before it. -/
theorem WritesTo.of_append {errands : List Errand} {errand : Errand} {spec : DeviceSpec}
    {task : Bus.TaskId} (writes : WritesTo (errands ++ [errand]) spec task) :
    WritesTo errands spec task ∨ task = errands.length ∧ errand.spec = spec ∧ errand.Writes := by
  obtain ⟨found, listed, same⟩ := writes
  rcases Bus.getElem?_append_singleton_cases listed with old | ⟨last, rfl⟩
  · exact .inl ⟨found, old, same⟩
  · exact .inr ⟨last, same⟩

section Writers

variable [EzoDriver]

namespace Shared

/-- The errands the tasks are for. -/
structure Runs (shared : Shared) (errands : List Errand) : Prop where
  length : errands.length = shared.executor.calls.length
  does : ∀ {task errand}, errands[task]? = some errand → shared.Does SparesCompensation task errand

/-- The task is a check of the device with these values. -/
def ChecksWith (shared : Shared) (spec : DeviceSpec) (set : Compensation) (task : Bus.TaskId) :
    Prop :=
  ∃ name timeout reader writer, (adapterFor spec.type).readCompensation = some reader ∧
    (adapterFor spec.type).writeCompensation = some writer ∧
      shared.executor.submissionOf task =
        some { name, timeout, job := compensationJob spec.address set reader writer }

variable {shared shared' : Shared} {spec : DeviceSpec} {set : Compensation} {task : Bus.TaskId}
  {errands : List Errand} {errand : Errand}

theorem ChecksWith.extend (checks : shared.ChecksWith spec set task)
    (extension : shared.Extends shared') : shared'.ChecksWith spec set task := by
  obtain ⟨name, timeout, reader, writer, reads, writes, submission⟩ := checks
  exact ⟨name, timeout, reader, writer, reads, writes, extension.executor.submissionOf submission⟩

theorem ChecksWith.of_extends (checks : shared'.ChecksWith spec set task)
    (extension : shared.Extends shared') (known : task < shared.executor.calls.length) :
    shared.ChecksWith spec set task := by
  obtain ⟨name, timeout, reader, writer, reads, writes, after⟩ := checks
  obtain ⟨submission, before⟩ := Bus.Executor.exists_submissionOf known
  cases (extension.executor.submissionOf before).symm.trans after
  exact ⟨name, timeout, reader, writer, reads, writes, before⟩

/-- A call is of the job of its errand. -/
theorem Does.job_eq {allowed : Nat → Prop} (does : shared.Does allowed task errand)
    {call : Bus.Call JobOp JobOp.Result} (found : shared.executor.calls[task]? = some call) :
    call.job = errand.job := by
  obtain ⟨timeout, submission⟩ := does.submission
  simp only [Bus.Executor.submissionOf, found, Option.map_some, Option.some.injEq] at submission
  exact congrArg Bus.Submission.job submission

/-- The job of a task which is none of the writers sends the probe no compensation. -/
theorem Does.spares (does : shared.Does SparesCompensation task errand)
    (apart : shared.state.Apart) (lists : shared.Lists spec)
    (silent : errand.spec = spec → ¬ errand.Writes) :
    errand.job.Only (JobOp.Spares spec.address (Command.setsCompensation · = false)) := by
  have elsewhere : errand.spec.address = spec.address → errand.spec = spec := fun same =>
    List.inj_on_of_nodup_map apart.addresses does.listed lists same
  have serves : ∀ {commands : Command → Prop},
      errand.job.Only (JobOp.Serves errand.spec.address commands) →
      (errand.spec = spec → ∀ command, commands command → command.setsCompensation = false) →
      errand.job.Only (JobOp.Spares spec.address (Command.setsCompensation · = false)) := by
    intro commands only implies
    exact only.mono fun op serving => serving.spares fun same => implies (elsewhere same)
  cases errand with
  | sample own => exact serves (only_sampleJob own) fun _ command asks => asks.1
  | level own reader =>
      exact serves (only_calibrationLevelJob does.suits own.address) fun _ command asks => asks.1
  | check own set reader writer =>
      refine serves (only_compensationJob does.suits.1 does.suits.2 own.address) fun same => ?_
      exact absurd trivial (silent same)
  | control own functionId args =>
      refine serves (only_callJob own.address functionId own.type args) fun same command may => ?_
      cases sets : command.setsCompensation with
      | false => rfl
      | true =>
          rcases may.2 sets with set | ⟨calibrates, _⟩
          · exact absurd set (silent same)
          · exact absurd calibrates does.suits.1

end Shared

end Writers

/-! ## On the bus -/

section Probes

variable [EzoDriver] [DecimalText] {shared shared' : Shared} {spec : DeviceSpec}
  {errands : List Errand}

/-- What the worker has done since it began the job it is inside of. -/
structure Shared.Traced (address : Address) (shared : Shared) : Prop where
  earlier : ∀ {task rest}, shared.executor.worker.current = some (task, rest) →
    ∀ entry ∈ shared.executor.ended, entry.1 < task
  path : ∀ {task rest}, shared.executor.worker.current = some (task, rest) →
    ∃ began ended, Bus.environment.Path began (shared.executor.traceOf task) ended ∧
      Bus.Drift ended shared.bus ∧
        (began address).powerUps = (shared.bus address).powerUps

/-- The probe holds the values of a check which has ended, unless it was written to since. -/
def Shared.HoldsChecked (spec : DeviceSpec) (errands : List Errand) (shared : Shared) : Prop :=
  ∀ set task status, (task, status) ∈ shared.executor.ended →
    shared.ChecksWith spec set task → Takes spec.type set →
      (∀ other ∈ shared.executor.begun, WritesTo errands spec other → other ≤ task) →
        holdsAll set ((shared.bus spec.address).holding.reading spec.type).values = true ∧
          (shared.bus spec.address).Quiet

/-- The operations of every job which has ended have succeeded. -/
def Shared.Succeeded (shared : Shared) : Prop :=
  ∀ entry ∈ shared.executor.ended, Succeeds 0 (shared.executor.traceOf entry.1)

omit [EzoDriver] in
/-- The worker begins a job, or goes on with the one it is inside of. -/
theorem Shared.Traced.turn {address : Address} (traced : shared.Traced address)
    (invariant : shared.executor.Invariant) (after : shared'.executor.Invariant)
    (turn : shared.Turn shared')
    (powered : (shared'.bus address).powerUps = (shared.bus address).powerUps) :
    shared'.Traced address := by
  cases turn with
  | kept current begun log ended bus =>
      have same : ∀ task, shared'.executor.traceOf task = shared.executor.traceOf task :=
        fun task => by rw [Bus.Executor.traceOf, Bus.Executor.traceOf, log]
      constructor
      · rw [current, ended]
        exact traced.earlier
      · intro task rest inside
        rw [current] at inside
        rw [same, bus]
        exact traced.path inside
  | @began task call owes before found timely fresh current begun log ended bus =>
      have unbegun := invariant.traceOf_unbegun fresh
      rw [Bus.Executor.traceOf, ← log] at unbegun
      constructor
      · intro other rest inside
        rw [current] at inside
        cases inside
        rw [ended]
        intro entry member
        have order := after.order.begun
        rw [begun, List.pairwise_append] at order
        exact order.2.2 _ (invariant.executions.ended_begun entry member) _ (by simp)
      · intro other rest inside
        rw [current] at inside
        cases inside
        rw [Bus.Executor.traceOf, unbegun]
        exact ⟨shared'.bus, shared'.bus, .nil, .refl, rfl⟩
  | exchanged before current begun log ended answers =>
      constructor
      · intro other rest inside
        rw [current] at inside
        cases inside
        rw [ended]
        exact traced.earlier before
      · intro other rest inside
        rw [current] at inside
        cases inside
        obtain ⟨first, middle, path, drift, same⟩ := traced.path before
        refine ⟨first, shared'.bus, ?_, .refl, same.trans powered.symm⟩
        rw [Bus.Executor.traceOf_append log, if_pos rfl]
        exact path_answered path drift answers
  | ended before current =>
      constructor
      all_goals
        intro other rest inside
        rw [current] at inside
        cases inside

omit [EzoDriver] in
theorem Shared.Traced.drift {address : Address} (traced : shared.Traced address)
    (executor : shared'.executor = shared.executor) (drift : Bus.Drift shared.bus shared'.bus)
    (powered : (shared'.bus address).powerUps = (shared.bus address).powerUps) :
    shared'.Traced address := by
  constructor
  · rw [executor]
    exact traced.earlier
  · rw [executor]
    intro task rest inside
    obtain ⟨first, middle, path, before, same⟩ := traced.path inside
    exact ⟨first, middle, path, before.trans drift, same.trans powered.symm⟩

variable {allowed : Nat → Prop}

/-- What was checked still holds after a step which spares the probe. -/
theorem Shared.HoldsChecked.still {set : Compensation} {task : Bus.TaskId} {status : Status}
    (holds : shared.HoldsChecked spec errands) (sound : shared.Sound allowed)
    (extension : shared.Extends shared') (begun : shared.executor.begun ⊆ shared'.executor.begun)
    (member : (task, status) ∈ shared.executor.ended) (checks : shared'.ChecksWith spec set task)
    (takes : Takes spec.type set)
    (last : ∀ other ∈ shared'.executor.begun, WritesTo errands spec other → other ≤ task)
    (kept : (shared.bus spec.address).Quiet →
      (shared'.bus spec.address).holding = (shared.bus spec.address).holding ∧
        (shared'.bus spec.address).Quiet) :
    holdsAll set ((shared'.bus spec.address).holding.reading spec.type).values = true ∧
      (shared'.bus spec.address).Quiet := by
  have known : task < shared.executor.calls.length :=
    sound.executor.order.known_lt (.inl (sound.executor.executions.ended_begun _ member))
  obtain ⟨held, quiet⟩ := holds set task status member (checks.of_extends extension known) takes
    fun other before writes => last other (begun before) writes
  obtain ⟨same, quiet⟩ := kept quiet
  exact ⟨by rw [same, held], quiet⟩

theorem Shared.HoldsChecked.append (holds : shared.HoldsChecked spec errands) (more : List Errand) :
    shared.HoldsChecked spec (errands ++ more) := by
  intro set task status member checks takes last
  exact holds set task status member checks takes fun other begun writes =>
    last other begun (writes.append more)

theorem Shared.HoldsChecked.drift (holds : shared.HoldsChecked spec errands)
    (sound : shared.Sound allowed) (extension : shared.Extends shared')
    (executor : shared'.executor = shared.executor) (drift : Bus.Drift shared.bus shared'.bus)
    (powered : (shared'.bus spec.address).powerUps = (shared.bus spec.address).powerUps) :
    shared'.HoldsChecked spec errands := by
  intro set task status member checks takes last
  rw [executor] at member
  refine holds.still sound extension (by simp [executor]) member checks takes last ?_
  exact fun quiet => (Probe.steady_of_drift drift quiet).held powered

omit [EzoDriver] in
/-- An operation which is none of a writer leaves the probe with what it holds. -/
theorem held_of_answers {bus bus' : Bus} {op : JobOp} {answer : op.Result} {address : Address}
    (answers : Bus.environment.Answers bus op answer bus')
    (spares : op.Spares address (Command.setsCompensation · = false))
    (powered : (bus' address).powerUps = (bus address).powerUps) (quiet : (bus address).Quiet) :
    (bus' address).holding = (bus address).holding ∧ (bus' address).Quiet := by
  have path : Bus.environment.Path bus [⟨op, answer⟩] bus' := .cons answers .nil
  refine (Probe.steady_of_path path quiet ?_).held powered
  intro command result member
  obtain ⟨rfl, _⟩ := Sigma.mk.inj_iff.mp (List.mem_singleton.mp member)
  exact spares command rfl

/-- A check which has just ended, its operations having succeeded, leaves its values. -/
theorem Shared.Traced.checked {set : Compensation} {task : Bus.TaskId} {status : Status}
    (traced : shared.Traced spec.address) (invariant : shared.executor.Invariant)
    (inside : shared.executor.worker.current = some (task, .done status))
    (checks : shared.ChecksWith spec set task) (takes : Takes spec.type set)
    (succeeds : Succeeds 0 (shared.executor.traceOf task)) :
    holdsAll set ((shared.bus spec.address).holding.reading spec.type).values = true ∧
      (shared.bus spec.address).Quiet := by
  obtain ⟨name, timeout, reader, writer, reads, writes, submission⟩ := checks
  obtain ⟨call, found, run⟩ := invariant.advances_current inside
  have job : call.job = compensationJob spec.address set reader writer := by
    simp only [Bus.Executor.submissionOf, found, Option.map_some, Option.some.injEq] at submission
    exact congrArg Bus.Submission.job submission
  rw [job] at run
  have ok := isOk_of_succeeds (reliable_compensationJob reads writes) run succeeds
  obtain ⟨began, ended, path, drift, powered⟩ := traced.path inside
  have finished : Line.Finished { bus := began } (compensationJob spec.address set reader writer)
      { status, outputs := outputsOf (shared.executor.traceOf task) }
      (shared.executor.traceOf task) { bus := shared.bus } :=
    ⟨began, ended, rfl, run, rfl, path, drift, rfl⟩
  have checked := checked_of_finished reads writes takes finished ok
  have holds := checked.holds reads takes powered.symm
  rw [checked.reading powered.symm] at holds
  exact ⟨holds, checked.quiet.probe⟩

theorem Shared.HoldsChecked.turn (holds : shared.HoldsChecked spec errands)
    (traced : shared.Traced spec.address) (sound : shared.Sound SparesCompensation)
    (runs : shared.Runs errands) (lists : shared.Lists spec) (extension : shared.Extends shared')
    (turn : shared.Turn shared')
    (powered : (shared'.bus spec.address).powerUps = (shared.bus spec.address).powerUps)
    (succeeded : shared'.Succeeded) : shared'.HoldsChecked spec errands := by
  intro set task status member checks takes last
  cases turn with
  | kept current begun log ended bus =>
      rw [ended] at member
      refine holds.still sound extension (by simp [begun]) member checks takes last fun quiet => ?_
      rw [bus]
      exact ⟨rfl, quiet⟩
  | began owes before found timely fresh current begun log ended bus =>
      rw [ended] at member
      refine holds.still sound extension (by simp [begun]) member checks takes last fun quiet => ?_
      rw [bus]
      exact ⟨rfl, quiet⟩
  | @exchanged running op next answer before current begun log ended answers =>
      rw [ended] at member
      refine holds.still sound extension (by simp [begun]) member checks takes last fun quiet => ?_
      -- The job under way came after the check, so it is none of the writers.
      obtain ⟨call, found, advance⟩ := sound.executor.advances_current before
      have known := (List.getElem?_eq_some_iff.mp found).1
      rw [← runs.length] at known
      have listed := List.getElem?_eq_getElem known
      have does := runs.does listed
      have inside : running ∈ shared'.executor.begun := by
        rw [begun]
        exact sound.executor.begun_of_current before
      have silent : errands[running].spec = spec → ¬ errands[running].Writes := by
        intro same writes
        have bound := last running inside ⟨_, listed, same, writes⟩
        exact absurd (traced.earlier before _ member) (Nat.not_lt.mpr bound)
      rw [does.job_eq found] at advance
      have only := ((does.spares sound.apart lists silent).advances advance).2
      exact held_of_answers answers only.1 powered quiet
  | @ended running final before current begun log ended bus =>
      rw [ended] at member
      rcases List.mem_append.mp member with old | new
      · refine holds.still sound extension (by simp [begun]) old checks takes last fun quiet => ?_
        rw [bus]
        exact ⟨rfl, quiet⟩
      · obtain ⟨rfl, rfl⟩ := Prod.mk.inj (List.mem_singleton.mp new)
        obtain ⟨call, found, _⟩ := sound.executor.advances_current before
        have known := (List.getElem?_eq_some_iff.mp found).1
        have succeeds := succeeded (task, status) (by rw [ended]; simp)
        rw [Bus.Executor.traceOf, log] at succeeds
        rw [bus]
        exact traced.checked sound.executor before (checks.of_extends extension known) takes succeeds

end Probes

/-! ## Who owes a check -/

/-- The thread has a check of the device to submit. -/
def Stage.OwesCheck (spec : DeviceSpec) : Stage → Prop
  | replied (.control own ..) _ | remembered own | checking own _ => own = spec
  | idle | looked _ | replied .. | stamped .. => False

theorem Stage.OwesCheck.not_free {spec : DeviceSpec} {stage : Stage} (owes : stage.OwesCheck spec) :
    ¬ stage.Free := by
  cases stage <;> simp_all [Stage.OwesCheck, Stage.Free]

section Threads

variable [EzoDriver] {shared shared' : Shared} {spec : DeviceSpec} {errands : List Errand}

/-- The thread has a check of the device to submit, or waits for the values to check. -/
def Thread.OwesCheck (shared : Shared) (spec : DeviceSpec) (thread : Thread) : Prop :=
  match thread.phase with
  | .running rest => ∃ stage : Stage,
      stage.Fits SparesCompensation shared thread.held thread.stamp ∧ stage.OwesCheck spec ∧
        rest.Obeys (callers SparesCompensation) (fun stage _ => stage.Free) stage
  | .waiting task next => ∃ args,
      shared.Does SparesCompensation task (.control spec kFunctionSetCompensation args) ∧
        ∀ reply, (next reply).Obeys (callers SparesCompensation) (fun stage _ => stage.Free)
          ((Errand.control spec kFunctionSetCompensation args).after reply)

/-- Nothing is set on the device, or a thread owes a check of it, or the last writer is a check
with the values which are set. -/
def Shared.Covered (spec : DeviceSpec) (errands : List Errand) (shared : Shared) : Prop :=
  ∀ device, shared.state.find spec.id = some device →
    device.compensationSet = {} ∨ (∃ thread ∈ shared.threads, thread.OwesCheck shared spec) ∨
      ∃ task, shared.ChecksWith spec device.compensationSet task ∧
        ∀ other, WritesTo errands spec other → other ≤ task

theorem Thread.OwesCheck.extend {thread : Thread} (owes : thread.OwesCheck shared spec)
    (extension : shared.Extends shared') : thread.OwesCheck shared' spec := by
  rw [Thread.OwesCheck] at owes ⊢
  split at owes
  · obtain ⟨stage, fits, owes, obeys⟩ := owes
    exact ⟨stage, fits.extend extension, owes, obeys⟩
  · obtain ⟨args, does, obeys⟩ := owes
    exact ⟨args, does.extend extension, obeys⟩

/-- A thread which owes a check can only go on towards it. -/
theorem Thread.OwesCheck.moves {thread : Thread} (owes : thread.OwesCheck shared spec)
    {op : CallerOp} {next : op.Result → Caller Unit}
    (here : thread.phase = .running (.perform op next)) :
    ∃ stage later, stage.Fits SparesCompensation shared thread.held thread.stamp ∧
      stage.OwesCheck spec ∧ CallerMoves SparesCompensation stage op later ∧
      ∀ answer, (next answer).Obeys (callers SparesCompensation) (fun stage _ => stage.Free)
        (later answer) := by
  rw [Thread.OwesCheck, here] at owes
  obtain ⟨stage, fits, owes, later, moves, obeys⟩ := owes
  exact ⟨stage, later, fits, owes, moves, obeys⟩

/-- The critical sections of a thread which owes a check leave it owing one. -/
theorem CallerMoves.owes {stage : Stage} {change : RuntimeState → RuntimeState}
    {later : RuntimeState → Stage} {held : Option Bus.TaskId} {stamp : Option Int}
    {device : ActiveDevice} (moves : CallerMoves SparesCompensation stage (.locked change) later)
    (owes : stage.OwesCheck spec) (fits : stage.Fits SparesCompensation shared held stamp)
    (apart : shared.state.Apart) (found : shared.state.find spec.id = some device)
    (reads : (adapterFor spec.type).readCompensation.isSome = true)
    (writes : (adapterFor spec.type).writeCompensation.isSome = true) :
    (later shared.state).OwesCheck spec := by
  cases moves with
  | lookedUp free | copied free | called free => exact absurd free owes.not_free
  | recordedSample | recordedLevel | recordedCheck => exact absurd owes id
  | remembered => exact owes
  | confirmed =>
      obtain rfl : _ = spec := owes
      obtain ⟨reader, reads⟩ := Option.isSome_iff_exists.mp reads
      obtain ⟨writer, writes⟩ := Option.isSome_iff_exists.mp writes
      have same : device.spec = _ := fits.1.spec_eq apart found
      simp only [checkStage, found, same, reads, writes]
      rfl

/-- What a thread which owes a check submits is the check. -/
theorem CallerMoves.checks {allowed : Nat → Prop} {stage : Stage} {name : String} {timeout : Int}
    {job : Job} {later : SubmitReply → Stage}
    (moves : CallerMoves allowed stage (.submit name timeout job) later)
    (owes : stage.OwesCheck spec) : name = ReadKind.check.jobName spec.id := by
  cases moves with
  | submitted => exact absurd owes id
  | checked =>
      obtain rfl : _ = spec := owes
      exact Errand.name_read rfl

/-- A critical section sets nothing, unless its thread goes on to owe a check. -/
theorem Stage.Writes.set_kept {stage : Stage} {deviceId : String} {device device' : ActiveDevice}
    (writes : stage.Writes deviceId device device')
    (other : ∀ own args reply, stage = .replied (.control own kFunctionSetCompensation args) reply →
      own.id ≠ deviceId) : device'.compensationSet = device.compensationSet := by
  cases writes with
  | elsewhere => rfl
  | @called _ functionName ok message now =>
      obtain ⟨_, _, _, same⟩ := recordCall_frame device functionName ok message now
      rw [same]
  | @sampled _ reply nowSteady now config =>
      obtain ⟨_, same, _⟩ := recordSample_frame device config deviceId reply.status
        reply.outputs.signals now nowSteady
      rw [same]
  | @levelRead _ _ reply =>
      obtain ⟨_, _, same⟩ := recordCalibrationLevel_frame device reply.status reply.outputs.level
      rw [same]
  | @checked _ _ _ _ reply =>
      obtain ⟨_, _, same⟩ := recordCompensation_frame device reply.status reply.outputs.reading
        reply.outputs.reapplied
      rw [same]
  | remembered here => exact absurd here (other _ _ _ rfl)

/-- A reply to a submission, as its thread is told. -/
theorem Shared.Does.told {allowed : Nat → Prop} {task : Bus.TaskId} {errand : Errand}
    (does : shared.Does allowed task errand) (invariant : shared.executor.Invariant)
    {call : Bus.Call JobOp JobOp.Result} {outcome : Bus.SubmitOutcome}
    (called : shared.executor.calls[task]? = some call) (returned : call.phase = .returned outcome) :
    shared.Told allowed task errand (shared.replyOf task call.name outcome) := by
  have name : call.name = errand.name := by
    obtain ⟨timeout, submission⟩ := does.submission
    simp only [Bus.Executor.submissionOf, called, Option.map_some, Option.some.injEq] at submission
    exact congrArg Bus.Submission.name submission
  refine ⟨does, call, outcome, called, returned, by rw [← name]; rfl, ?_⟩
  rintro status rfl
  exact ⟨invariant.promises.ended called returned, rfl⟩

/-- Where its operations have succeeded, a job to set a compensation returns ok. -/
theorem Shared.Succeeded.set_ok [DecimalText] (succeeded : shared.Succeeded)
    (invariant : shared.executor.Invariant) {task : Bus.TaskId} {args : ControlArgs}
    (does : shared.Does SparesCompensation task (.control spec kFunctionSetCompensation args))
    (writes : (adapterFor spec.type).writeCompensation.isSome = true) {status : Status}
    (ended : (task, status) ∈ shared.executor.ended) : status.isOk = true := by
  obtain ⟨writer, writes⟩ := Option.isSome_iff_exists.mp writes
  obtain ⟨call, found, run⟩ := invariant.executions.completed _ ended
  rw [does.job_eq found] at run
  change (callJob spec.address kFunctionSetCompensation spec.type args).Runs _ _ at run
  rw [callJob, controlJob, writes] at run
  exact isOk_of_succeeds (reliable_writeCompensation writes) run (succeeded _ ended)

end Threads

/-! ## Runs -/

/-- The next step of the thread submits a check of the device. -/
def Thread.AboutToCheck (deviceId : String) (timeout : Int) (job : Job) (thread : Thread) : Prop :=
  ∃ next, thread.phase = .running (.perform (.submit (ReadKind.check.jobName deviceId) timeout job) next)

/-- A thread about to submit a check of a device has the values which are set. -/
def Thread.ChecksCurrent [EzoDriver] (state : RuntimeState) (thread : Thread) : Prop :=
  ∀ deviceId device timeout job, thread.AboutToCheck deviceId timeout job →
    state.find deviceId = some device →
      ∃ reader writer, (adapterFor device.spec.type).readCompensation = some reader ∧
        (adapterFor device.spec.type).writeCompensation = some writer ∧
          job = compensationJob device.spec.address device.compensationSet reader writer

/-- Nothing calibrates, no caller gives up, no operation fails and no probe loses power. -/
structure Faultless (shared : Shared) (label : ThreadLabel) (shared' : Shared) : Prop where
  calls : label.Calls SparesCompensation
  waited : ∀ (task : Bus.TaskId) (call : Bus.Call JobOp JobOp.Result),
    shared'.executor.calls[task]? = some call → call.phase ≠ .returned .deadlineExceeded
  succeeded : shared'.Succeeded
  powered : ∀ device ∈ shared.state.activeDevices,
    (shared'.bus device.spec.address).powerUps = (shared.bus device.spec.address).powerUps

/-- Nothing fails, and no values are set while a thread is about to submit a check of the values
before. -/
structure Undisturbed (shared : Shared) (label : ThreadLabel) (shared' : Shared) : Prop
    extends Faultless shared label shared' where
  current : ∀ deviceId timeout job device device', ∀ thread ∈ shared.threads,
    thread.AboutToCheck deviceId timeout job → shared.state.find deviceId = some device →
      shared'.state.find deviceId = some device' →
        device'.compensationSet = device.compensationSet

section Copies

theorem Errand.after_ne_checking (errand : Errand) (reply : SubmitReply) {own : DeviceSpec}
    {set : Compensation} : errand.after reply ≠ .checking own set := by
  cases errand with
  | control =>
      rw [Errand.after]
      split <;> simp
  | sample | level | check => simp [Errand.after]

variable [EzoDriver] {allowed : Nat → Prop} {shared shared' : Shared} {stage : Stage}
  {own : DeviceSpec} {set : Compensation}

/-- A thread comes to check the values which are set. -/
theorem CallerMoves.copies {change : RuntimeState → RuntimeState} {later : RuntimeState → Stage}
    {state : RuntimeState} {device : ActiveDevice}
    (moves : CallerMoves allowed stage (.locked change) later)
    (checking : later state = .checking own set) (found : (change state).find own.id = some device) :
    device.spec = own ∧ device.compensationSet = set := by
  have of_checkStage : ∀ {deviceId}, checkStage deviceId state = .checking own set →
      ∃ device, state.find own.id = some device ∧ device.spec = own ∧
        device.compensationSet = set := by
    intro deviceId copied
    rw [checkStage] at copied
    split at copied
    · next device there =>
        split at copied
        · cases copied
          obtain rfl := RuntimeState.find_id there
          exact ⟨device, there, rfl, rfl⟩
        · cases copied
    · cases copied
  cases moves with
  | lookedUp free =>
      rw [lookStage] at checking
      split at checking <;> cases checking
  | copied | confirmed =>
      obtain ⟨other, there, copied⟩ := of_checkStage checking
      cases there.symm.trans found
      exact copied
  | called | recordedSample | recordedLevel | recordedCheck | remembered => cases checking

/-- What else a thread does leaves it with no values to check. -/
theorem CallerMoves.not_checking {op : CallerOp} {later : op.Result → Stage} {answer : op.Result}
    (moves : CallerMoves allowed stage op later) (unlocked : ∀ change, op ≠ .locked change) :
    later answer ≠ .checking own set := by
  rintro checking
  cases moves with
  | lookedUp | copied | called | recordedSample | recordedLevel | recordedCheck | remembered
  | confirmed => exact unlocked _ rfl
  | clock free | warned free =>
      obtain rfl : stage = .checking own set := checking
      exact free
  | dated | stamped => cases checking
  | submitted => exact absurd checking (Errand.after_ne_checking _ _)
  | checked => exact absurd checking (Errand.after_ne_checking _ _)

/-- A thread at a stage with no values to check, or with those which are set. -/
theorem Thread.ChecksCurrent.of_stage {state : RuntimeState} {thread : Thread} {rest : Caller Unit}
    (phase : thread.phase = .running rest)
    (obeys : rest.Obeys (callers allowed) (fun stage _ => stage.Free) stage)
    (copied : ∀ {own set device}, stage = .checking own set → state.find own.id = some device →
      device.spec = own ∧ device.compensationSet = set) :
    thread.ChecksCurrent state := by
  rintro deviceId device timeout job ⟨next, here⟩ found
  cases phase.symm.trans here
  obtain ⟨later, moves, _⟩ := obeys
  generalize named : ReadKind.check.jobName deviceId = name at moves
  cases moves with
  | @submitted errand _ suits free =>
      obtain ⟨kind, _⟩ := Errand.name_eq_iff.mp named.symm
      cases errand with
      | check spec set reader writer => exact absurd rfl (free spec set reader writer)
      | sample | level | control => cases kind
  | checked suits =>
      obtain ⟨_, rfl⟩ := Errand.name_eq_iff.mp named.symm
      obtain ⟨rfl, rfl⟩ := copied rfl found
      exact ⟨_, _, suits.1, suits.2, rfl⟩

end Copies

section Runs

variable [EzoDriver] {shared shared' : Shared} {spec : DeviceSpec} {errands errands' : List Errand}

theorem Shared.Covered.of_owing
    (owing : ∃ thread ∈ shared.threads, thread.OwesCheck shared spec) :
    shared.Covered spec errands :=
  fun _ _ => .inr (.inl owing)

/-- Steps which set nothing and submit no writer. -/
theorem Shared.Covered.carry (covered : shared.Covered spec errands) (apart : shared.state.Apart)
    (extension : shared.Extends shared')
    (set : ∀ {device device'}, shared.state.find spec.id = some device →
      shared'.state.find spec.id = some device' →
        device'.compensationSet = device.compensationSet)
    (owing : ∀ thread ∈ shared.threads, thread.OwesCheck shared spec →
      ∃ thread ∈ shared'.threads, thread.OwesCheck shared' spec)
    (writers : ∀ {other}, WritesTo errands' spec other → WritesTo errands spec other) :
    shared'.Covered spec errands' := by
  intro device' found
  obtain ⟨device, before, _⟩ := extension.found apart found
  rw [set before found]
  rcases covered device before with unset | ⟨thread, listed, owes⟩ | ⟨task, checks, last⟩
  · exact .inl unset
  · exact .inr (.inl (owing thread listed owes))
  · exact .inr (.inr ⟨task, checks.extend extension, fun other writes => last other (writers writes)⟩)

/-- One thread has moved on; the others owe what they owed. -/
theorem owing_of_set {index : Nat} {thread new : Thread} (extension : shared.Extends shared')
    (found : shared.threads[index]? = some thread)
    (entries : shared'.threads = shared.threads.set index new)
    (moved : thread.OwesCheck shared spec → new.OwesCheck shared' spec) :
    ∀ thread ∈ shared.threads, thread.OwesCheck shared spec →
      ∃ thread ∈ shared'.threads, thread.OwesCheck shared' spec := by
  intro other listed owes
  obtain ⟨position, there⟩ := List.getElem?_of_mem listed
  by_cases same : position = index
  · subst same
    cases found.symm.trans there
    refine ⟨new, ?_, moved owes⟩
    rw [entries]
    exact List.mem_set (List.getElem?_eq_some_iff.mp found).1 new
  · refine ⟨other, ?_, owes.extend extension⟩
    rw [entries]
    refine List.mem_of_getElem? (i := position) ?_
    rw [List.getElem?_set_ne (Ne.symm same), there]

/-- The tasks are those of their errands, after a submission. -/
theorem Shared.Runs.submitted {errand : Errand} (runs : shared.Runs errands)
    (extension : shared.Extends shared')
    (length : shared'.executor.calls.length = shared.executor.calls.length + 1)
    (does : shared'.Does SparesCompensation shared.executor.calls.length errand) :
    shared'.Runs (errands ++ [errand]) := by
  refine ⟨by simp [runs.length, length], fun {task found} listed => ?_⟩
  rcases Bus.getElem?_append_singleton_cases listed with old | ⟨last, rfl⟩
  · exact (runs.does old).extend extension
  · rw [last, runs.length]
    exact does

theorem Shared.Runs.extend (runs : shared.Runs errands) (extension : shared.Extends shared')
    (length : shared'.executor.calls.length = shared.executor.calls.length) :
    shared'.Runs errands :=
  ⟨runs.length.trans length.symm, fun listed => (runs.does listed).extend extension⟩

/-- A check submitted now is the last writer, and has the values which are set. -/
theorem Shared.Covered.of_check {errand : Errand} {thread : Thread} {timeout : Int} {job : Job}
    (runs : shared'.Runs (errands ++ [errand]))
    (length : shared'.executor.calls.length = shared.executor.calls.length + 1)
    (current : thread.ChecksCurrent shared.state)
    (checks : thread.AboutToCheck spec.id timeout job) (state : shared'.state = shared.state)
    (lists : shared.Lists spec) (apart : shared.state.Apart) {name : String}
    (submission : shared'.executor.submissionOf shared.executor.calls.length =
      some { name, timeout, job }) :
    shared'.Covered spec (errands ++ [errand]) := by
  intro device found
  rw [state] at found
  obtain ⟨reader, writer, reads, writes, rfl⟩ := current spec.id device timeout job checks found
  rw [lists.spec_eq apart found] at reads writes submission
  refine .inr (.inr ⟨_, ⟨_, _, reader, writer, reads, writes, submission⟩, fun other writer => ?_⟩)
  have bound := writer.lt
  rw [runs.length, length] at bound
  exact Nat.le_of_lt_succ bound

/-- A thread which owes a check does nothing but submit it or enter a critical section. -/
theorem Thread.OwesCheck.acts {thread : Thread} (owes : thread.OwesCheck shared spec)
    {op : CallerOp} {next : op.Result → Caller Unit}
    (here : thread.phase = .running (.perform op next)) :
    (∃ change, op = .locked change) ∨ ∃ name timeout job, op = .submit name timeout job := by
  obtain ⟨stage, later, _, owing, moves, _⟩ := owes.moves here
  cases moves with
  | lookedUp | copied | called | recordedSample | recordedLevel | recordedCheck | remembered
  | confirmed => exact .inl ⟨_, rfl⟩
  | submitted | checked => exact .inr ⟨_, _, _, rfl⟩
  | clock free | warned free => exact absurd free owing.not_free
  | dated | stamped => exact absurd owing id

/-- A thread which owes a check still does when it goes on with the reply to the values it has set,
which were answered where nothing has failed. -/
theorem Thread.OwesCheck.replied [DecimalText] {thread : Thread}
    (owes : thread.OwesCheck shared spec) (invariant : shared.executor.Invariant)
    (attends : shared.executor.Attends) (succeeded : shared.Succeeded)
    (writes : (adapterFor spec.type).writeCompensation.isSome = true)
    {task : Bus.TaskId} {next : SubmitReply → Caller Unit} {call : Bus.Call JobOp JobOp.Result}
    {outcome : Bus.SubmitOutcome} (here : thread.phase = .waiting task next)
    (called : shared.executor.calls[task]? = some call) (returned : call.phase = .returned outcome)
    (waited : call.phase ≠ .returned .deadlineExceeded) :
    Thread.OwesCheck shared spec
      { phase := .running (next (shared.replyOf task call.name outcome)), held := some task } := by
  rw [Thread.OwesCheck, here] at owes
  obtain ⟨args, does, obeys⟩ := owes
  rcases (attends task call called).returned outcome returned with rfl | ⟨status, rfl⟩
  · exact absurd returned waited
  · have ended := invariant.promises.ended called returned
    have ok := succeeded.set_ok invariant does writes ended
    have told := does.told invariant called returned
    have after := obeys (shared.replyOf task call.name (.fulfilled (.completed status)))
    rw [Errand.after, if_pos ⟨ok, rfl⟩] at after
    exact ⟨.replied (.control spec kFunctionSetCompensation args)
      (shared.replyOf task call.name (.fulfilled (.completed status))),
      ⟨rfl, task, rfl, told⟩, rfl, after⟩

/-- A critical section sets nothing on the device, or leaves its thread with a check of it to
submit. -/
theorem Shared.Covered.locked (covered : shared.Covered spec errands)
    (sound : shared.Sound SparesCompensation) (lists : shared.Lists spec)
    (reads : (adapterFor spec.type).readCompensation.isSome = true)
    (writes : (adapterFor spec.type).writeCompensation.isSome = true) {index : Nat}
    {thread : Thread} {change : RuntimeState → RuntimeState} {next : RuntimeState → Caller Unit}
    (extension : shared.Extends shared') (found : shared.threads[index]? = some thread)
    (here : thread.phase = .running (.perform (.locked change) next))
    (state : shared'.state = change shared.state)
    (entries : shared'.threads =
      shared.threads.set index { phase := .running (next shared.state) }) :
    shared'.Covered spec errands := by
  obtain ⟨stage, later, fits, moves, obeys⟩ := sound.moves found here
  have owed : ∀ {stage later}, stage.Fits SparesCompensation shared thread.held thread.stamp →
      stage.OwesCheck spec → CallerMoves SparesCompensation stage (.locked change) later →
      (∀ answer, (next answer).Obeys (callers SparesCompensation) (fun stage _ => stage.Free)
        (later answer)) → ∀ {device}, shared.state.find spec.id = some device →
      Thread.OwesCheck shared' spec { phase := .running (next shared.state) } := by
    intro stage later fits owes moves obeys device before
    refine ⟨later shared.state, (moves.fits_locked sound fits).extend extension, ?_, obeys _⟩
    exact moves.owes owes fits sound.apart before reads writes
  intro device' foundAfter
  obtain ⟨device, before, _⟩ := extension.found sound.apart foundAfter
  by_cases owes : stage.OwesCheck spec
  · refine .inr (.inl ⟨_, ?_, owed fits owes moves obeys before⟩)
    rw [entries]
    exact List.mem_set (List.getElem?_eq_some_iff.mp found).1 _
  · refine covered.carry sound.apart extension ?_ (owing_of_set extension found entries ?_) id device'
      foundAfter
    · intro first last foundFirst foundLast
      obtain ⟨after, there, written⟩ := moves.writes foundFirst
      rw [state] at foundLast
      cases there.symm.trans foundLast
      refine written.set_kept ?_
      rintro own args reply rfl id
      obtain ⟨_, task, _, told⟩ := fits
      exact owes (List.inj_on_of_nodup_map sound.apart.ids told.listed lists id)
    · intro owing
      obtain ⟨other, after, fitsOther, owesOther, movesOther, obeysOther⟩ := owing.moves here
      exact owed fitsOther owesOther movesOther obeysOther before

/-- A check submitted has the values which are set, whoever submits values to set owes a check, and
nothing else writes. -/
theorem Shared.Covered.submitted (covered : shared.Covered spec errands)
    (sound : shared.Sound SparesCompensation) (runs : shared.Runs errands)
    (lists : shared.Lists spec) {index : Nat} {thread : Thread} {errand : Errand} {timeout : Int}
    {next : SubmitReply → Caller Unit} (extension : shared.Extends shared')
    (found : shared.threads[index]? = some thread)
    (here : thread.phase = .running (.perform (.submit errand.name timeout errand.job) next))
    (current : thread.ChecksCurrent shared.state) (state : shared'.state = shared.state)
    (entries : shared'.threads =
      shared.threads.set index { phase := .waiting shared.executor.calls.length next })
    (length : shared'.executor.calls.length = shared.executor.calls.length + 1)
    (submission : shared'.executor.submissionOf shared.executor.calls.length =
      some { name := errand.name, timeout, job := errand.job })
    (does : shared'.Does SparesCompensation shared.executor.calls.length errand)
    (obeys : ∀ reply, (next reply).Obeys (callers SparesCompensation) (fun stage _ => stage.Free)
      (errand.after reply)) :
    shared'.Covered spec (errands ++ [errand]) := by
  have listed : shared.Lists errand.spec := by
    rw [Shared.Lists, ← extension.specs]
    exact does.listed
  by_cases check : errand.kind = some .check ∧ errand.spec = spec
  · refine .of_check (runs.submitted extension length does) length current ⟨next, ?_⟩ state lists
      sound.apart submission
    rw [here, Errand.name_read check.1, check.2]
  by_cases control : ∃ args, errand = .control spec kFunctionSetCompensation args
  · obtain ⟨args, rfl⟩ := control
    have owes : Thread.OwesCheck shared' spec
        { phase := .waiting shared.executor.calls.length next } := ⟨args, does, obeys⟩
    refine .of_owing ⟨_, ?_, owes⟩
    rw [entries]
    exact List.mem_set (List.getElem?_eq_some_iff.mp found).1 _
  have same : ∀ {device device'}, shared.state.find spec.id = some device →
      shared'.state.find spec.id = some device' →
        device'.compensationSet = device.compensationSet := by
    intro device device' before after
    rw [state] at after
    cases before.symm.trans after
    rfl
  refine covered.carry sound.apart extension same (owing_of_set extension found entries ?_) ?_
  · intro owing
    obtain ⟨_, _, _, owes, checks, _⟩ := owing.moves here
    obtain ⟨kind, id⟩ := Errand.name_eq_iff.mp (checks.checks owes)
    exact absurd ⟨kind, List.inj_on_of_nodup_map sound.apart.ids listed lists id⟩ check
  · intro other writer
    rcases writer.of_append with old | ⟨_, own, writing⟩
    · exact old
    · cases errand with
      | sample | level => exact absurd writing id
      | check => exact absurd ⟨rfl, own⟩ check
      | control device functionId args =>
          obtain rfl : device = spec := own
          obtain rfl : functionId = kFunctionSetCompensation := writing
          exact absurd ⟨args, rfl⟩ control

variable [DecimalText] [ProviderSdk] {label : ThreadLabel}

/-- Every step of an undisturbed run keeps the values set covered. -/
theorem Shared.Covered.step (covered : shared.Covered spec errands)
    (sound : shared.Sound SparesCompensation) (attends : shared.executor.Attends)
    (current : ∀ thread ∈ shared.threads, thread.ChecksCurrent shared.state)
    (runs : shared.Runs errands) (lists : shared.Lists spec)
    (reads : (adapterFor spec.type).readCompensation.isSome = true)
    (writes : (adapterFor spec.type).writeCompensation.isSome = true)
    (step : SharedStep shared label shared') (undisturbed : Undisturbed shared label shared') :
    ∃ more, shared'.Runs (errands ++ more) ∧ shared'.Covered spec (errands ++ more) := by
  have extension := sound.extends step
  have quietly : shared'.executor.calls.length = shared.executor.calls.length →
      shared'.Covered spec errands →
        ∃ more, shared'.Runs (errands ++ more) ∧ shared'.Covered spec (errands ++ more) := by
    intro length covers
    exact ⟨[], by simpa using runs.extend extension length, by simpa using covers⟩
  have carry : shared'.state = shared.state →
      (∀ thread ∈ shared.threads, thread.OwesCheck shared spec →
        ∃ thread ∈ shared'.threads, thread.OwesCheck shared' spec) →
      shared'.Covered spec errands := by
    refine fun state owing => covered.carry sound.apart extension ?_ owing id
    intro device device' before after
    rw [state] at after
    cases before.symm.trans after
    rfl
  cases step with
  | arrived =>
      refine quietly rfl (carry rfl fun thread listed owes => ?_)
      exact ⟨thread, List.mem_append_left _ listed, owes.extend extension⟩
  | locked found here =>
      exact quietly rfl (covered.locked sound lists reads writes extension found here rfl rfl)
  | @submitted index thread name timeout job next found here =>
      obtain ⟨stage, later, fits, moves, obeys⟩ := sound.moves found here
      obtain ⟨errand, rfl, rfl, rfl, suits, takes, listed⟩ := moves.errand fits
      have submission := @Bus.Executor.submissionOf_submitted_new _ _ shared.executor
        { name := errand.name, timeout, job := errand.job }
      have length : (shared.executor.submitted
          { name := errand.name, timeout, job := errand.job }).calls.length =
            shared.executor.calls.length + 1 := by
        obtain ⟨⟨call, calls, _⟩, _⟩ := Bus.Executor.submitted_frame shared.executor
          { name := errand.name, timeout, job := errand.job }
        rw [calls, List.length_append, List.length_singleton]
      have does : Shared.Does SparesCompensation _ shared.executor.calls.length errand :=
        ⟨suits, takes, listed.extend extension, _, submission⟩
      exact ⟨[errand], runs.submitted extension length does,
        covered.submitted sound runs lists extension found here
          (current thread (List.mem_of_getElem? found)) rfl rfl length submission does obeys⟩
  | replied found here called returned =>
      refine quietly rfl (carry rfl (owing_of_set extension found rfl fun owes => ?_))
      exact (owes.replied sound.executor attends undisturbed.succeeded writes here called returned
        (undisturbed.waited _ _ called)).extend extension
  | systemNow now found here | @steadyNow _ _ _ now found here | warned found here =>
      refine quietly rfl (carry rfl (owing_of_set extension found rfl fun owes => ?_))
      rcases owes.acts here with ⟨_, other⟩ | ⟨_, _, _, other⟩ <;> cases other
  | served serves transition | exchanged serves transition =>
      refine quietly (transition.serves serves).2.2 (carry rfl fun thread listed owes => ?_)
      exact ⟨thread, listed, owes.extend extension⟩
  | passed =>
      refine quietly rfl (carry rfl fun thread listed owes => ?_)
      exact ⟨thread, listed, owes.extend extension⟩

/-- Every step of an undisturbed run leaves a thread about to submit a check with the values which
are set. -/
theorem checksCurrent_of_step (sound : shared.Sound SparesCompensation)
    (current : ∀ thread ∈ shared.threads, thread.ChecksCurrent shared.state)
    (step : SharedStep shared label shared') (undisturbed : Undisturbed shared label shared') :
    ∀ thread ∈ shared'.threads, thread.ChecksCurrent shared'.state := by
  have extension := sound.extends step
  have stays : ∀ thread ∈ shared.threads, thread.ChecksCurrent shared'.state := by
    intro thread listed deviceId device' timeout job checks after
    obtain ⟨device, before, spec⟩ := extension.found sound.apart after
    have set := undisturbed.current deviceId timeout job device device' thread listed checks before
      after
    rw [← spec, set]
    exact current thread listed deviceId device timeout job checks before
  have moved : ∀ {index : Nat} {new : Thread},
      shared'.threads = shared.threads.set index new → new.ChecksCurrent shared'.state →
        ∀ thread ∈ shared'.threads, thread.ChecksCurrent shared'.state := by
    intro index new entries checks thread listed
    rw [entries] at listed
    rcases List.mem_or_eq_of_mem_set listed with old | rfl
    · exact stays thread old
    · exact checks
  cases step with
  | @arrived request =>
      intro thread listed
      rcases List.mem_append.mp listed with old | new
      · exact stays thread old
      · obtain rfl := List.mem_singleton.mp new
        exact .of_stage rfl (keeps_run undisturbed.calls .idle trivial) fun same => by cases same
  | locked found here =>
      obtain ⟨stage, later, _, moves, obeys⟩ := sound.moves found here
      exact moved rfl (.of_stage rfl (obeys shared.state) fun same there => moves.copies same there)
  | submitted =>
      refine moved rfl ?_
      rintro deviceId device timeout job ⟨next, here⟩
      cases here
  | @replied index thread task next call outcome found here called returned =>
      have fits := sound.fits _ (List.mem_of_getElem? found)
      rw [Thread.Fits, here] at fits
      obtain ⟨errand, _, obeys⟩ := fits
      exact moved rfl (.of_stage rfl (obeys _) fun same =>
        absurd same (Errand.after_ne_checking _ _))
  | systemNow now found here | @steadyNow _ _ _ now found here | warned found here =>
      obtain ⟨stage, later, _, moves, obeys⟩ := sound.moves found here
      exact moved rfl (.of_stage rfl (obeys _) fun same => absurd same (moves.not_checking (by simp)))
  | served | exchanged | passed => exact stays

/-- A step is a turn of the worker, or time passes. -/
theorem SharedStep.turn (step : SharedStep shared label shared')
    (invariant : shared.executor.Invariant) :
    shared.Turn shared' ∨
      shared'.executor = shared.executor ∧ Bus.Drift shared.bus shared'.bus := by
  cases step with
  | arrived | locked | replied | systemNow | steadyNow | warned =>
      exact .inl (.kept rfl rfl rfl rfl rfl)
  | @submitted _ _ name timeout job =>
      have silent := (Bus.Executor.submitted_frame shared.executor { name, timeout, job }).2.2.2.2
      exact .inl (Shared.turn_of_silent invariant (Bus.Executor.step_submitted _ _) silent rfl)
  | served serves transition silent =>
      exact .inl (Shared.turn_of_silent invariant transition silent rfl)
  | exchanged serves transition logged answers =>
      exact .inl (Shared.turn_of_exchanged invariant transition logged answers)
  | passed drift => exact .inr ⟨rfl, drift⟩

/-- What holds of a device in an undisturbed run. -/
structure Shared.Settling (spec : DeviceSpec) (shared : Shared) : Prop where
  lists : shared.Lists spec
  current : ∀ thread ∈ shared.threads, thread.ChecksCurrent shared.state
  traced : shared.Traced spec.address
  waited : ∀ (task : Bus.TaskId) (call : Bus.Call JobOp JobOp.Result),
    shared.executor.calls[task]? = some call → call.phase ≠ .returned .deadlineExceeded
  writers : ∃ errands, shared.Runs errands ∧ shared.Covered spec errands ∧
    shared.HoldsChecked spec errands

theorem Shared.Settling.step (settling : shared.Settling spec)
    (sound : shared.Sound SparesCompensation) (attends : shared.executor.Attends)
    (reads : (adapterFor spec.type).readCompensation.isSome = true)
    (writes : (adapterFor spec.type).writeCompensation.isSome = true)
    (step : SharedStep shared label shared') (undisturbed : Undisturbed shared label shared') :
    shared'.Settling spec := by
  obtain ⟨errands, runs, covered, holds⟩ := settling.writers
  obtain ⟨more, running, covers⟩ :=
    covered.step sound attends settling.current runs settling.lists reads writes step undisturbed
  have after := sound.step undisturbed.calls step
  have powered : (shared'.bus spec.address).powerUps = (shared.bus spec.address).powerUps := by
    obtain ⟨device, listed, rfl⟩ := List.mem_map.mp settling.lists
    exact undisturbed.powered device listed
  have went : shared'.Traced spec.address ∧ shared'.HoldsChecked spec errands := by
    rcases step.turn sound.executor with turn | ⟨executor, drift⟩
    · exact ⟨settling.traced.turn sound.executor after.executor turn powered,
        holds.turn settling.traced sound runs settling.lists (sound.extends step) turn powered
          undisturbed.succeeded⟩
    · exact ⟨settling.traced.drift executor drift powered,
        holds.drift sound (sound.extends step) executor drift powered⟩
  exact ⟨settling.lists.extend (sound.extends step),
    checksCurrent_of_step sound settling.current step undisturbed, went.1, undisturbed.waited,
    errands ++ more, running, covers, went.2.append more⟩

theorem settling_of_started (started : Started shared) (lists : shared.Lists spec) :
    shared.Settling spec := by
  obtain ⟨config, world, initialized, _, _, rfl⟩ := started
  refine ⟨lists, by simp, ⟨by rintro _ _ ⟨⟩, by rintro _ _ ⟨⟩⟩, by simp [Bus.Executor.justStarted],
    [], ⟨by simp [Bus.Executor.justStarted], by simp⟩, ?_,
    by simp [Shared.HoldsChecked, Bus.Executor.justStarted]⟩
  exact fun device found => .inl (set_of_initialized initialized found)

/-- What holds of every state an undisturbed run reaches. -/
theorem settling_of_reachable (reachable : (threads.restrict Undisturbed).Reachable shared) :
    shared.Sound SparesCompensation ∧ ∀ spec, shared.Lists spec →
      (adapterFor spec.type).readCompensation.isSome = true →
        (adapterFor spec.type).writeCompensation.isSome = true → shared.Settling spec := by
  let settles : Shared → Prop := fun shared => shared.Sound SparesCompensation ∧
    ∀ spec, shared.Lists spec → (adapterFor spec.type).readCompensation.isSome = true →
      (adapterFor spec.type).writeCompensation.isSome = true → shared.Settling spec
  have here : settles shared := by
    refine reachable.induct ?_ ?_
    · intro shared started
      exact ⟨sound_of_started started, fun spec lists _ _ => settling_of_started started lists⟩
    rintro shared label shared' prior ⟨sound, settling⟩ ⟨step, undisturbed⟩
    refine ⟨sound.step undisturbed.calls step, fun spec lists reads writes => ?_⟩
    rw [Shared.Lists, (sound.extends step).specs] at lists
    exact (settling spec lists reads writes).step sound (attends_of_threads prior.of_restrict) reads
      writes step undisturbed
  exact here

/-- Once all have returned, a check of a device which has settled would find nothing to write. -/
theorem Shared.Settling.holds_of_returned {device : ActiveDevice}
    (settling : shared.Settling device.spec) (sound : shared.Sound SparesCompensation)
    (reachable : Runtime.threads.Reachable shared) (returned : shared.Returned)
    (found : shared.state.find device.spec.id = some device) :
    holdsAll device.compensationSet
      ((shared.bus device.spec.address).holding.reading device.spec.type).values = true := by
  obtain ⟨_, _, _, waited, errands, _, covered, holds⟩ := settling
  rcases covered device found with unset | ⟨thread, listed, owes⟩ | ⟨task, checks, last⟩
  · rw [unset]
    rfl
  · rw [Thread.OwesCheck, returned thread listed] at owes
    obtain ⟨stage, _, owes, free⟩ := owes
    exact absurd free owes.not_free
  · have known := checks
    obtain ⟨_, _, _, _, _, _, submission⟩ := known
    obtain ⟨call, called, _⟩ := Option.map_eq_some_iff.mp submission
    rcases awaited_of_threads reachable task call called with
      ⟨thread, listed, next, waits⟩ | ⟨outcome, answered⟩
    · cases (returned thread listed).symm.trans waits
    · rcases (attends_of_threads reachable task call called).returned outcome answered with
        rfl | ⟨status, rfl⟩
      · exact absurd answered (waited task call called)
      · have ended := sound.executor.promises.ended called answered
        exact (holds _ task status ended checks (sound.takes found) fun other _ => last other).1

/-- In an undisturbed run, once all have returned, a probe compensates with the values set on it,
and a check of them would find nothing to write. -/
theorem compensation_settled {deviceId : String} {device : ActiveDevice}
    (reachable : (threads.restrict Undisturbed).Reachable shared) (returned : shared.Returned)
    (found : shared.state.find deviceId = some device)
    (reads : (adapterFor device.spec.type).readCompensation.isSome = true)
    (writes : (adapterFor device.spec.type).writeCompensation.isSome = true) :
    InEffect device.compensationSet (shared.bus device.spec.address).holding ∧
      holdsAll device.compensationSet
        ((shared.bus device.spec.address).holding.reading device.spec.type).values = true := by
  obtain ⟨sound, settling⟩ := settling_of_reachable reachable
  have settled := settling device.spec (Shared.lists_of_found found) reads writes
  obtain rfl := RuntimeState.find_id found
  have checked := settled.holds_of_returned sound reachable.of_restrict returned found
  obtain ⟨reader, adapted⟩ := Option.isSome_iff_exists.mp reads
  exact ⟨inEffect_of_reading adapted (sound.takes found) checked, checked⟩

end Runs

section Canned

open CannedBus CannedProvider CannedThreads

/-- Whether the thread is about to submit. -/
def aboutToSubmit (thread : Thread) : Bool :=
  match thread.phase with
  | .running (.perform (.submit ..) _) => true
  | _ => false

/-- Whether nothing happens in a step which `Faultless` excludes. -/
def faultless (shared : Shared) (label : ThreadLabel) (shared' : Shared) : Bool :=
  (match label with
    | .arrived (.call _ functionId _) => functionId ≠ kFunctionCalibrate
    | _ => true) &&
  (shared'.executor.calls.all (·.phase ≠ .returned .deadlineExceeded)) &&
  (shared'.executor.ended.all fun entry => Succeeds 0 (shared'.executor.traceOf entry.1)) &&
  shared.state.activeDevices.all fun device =>
    (shared'.bus device.spec.address).powerUps = (shared.bus device.spec.address).powerUps

/-- Whether the values set on the devices stay as they are. -/
def setsNothing (shared shared' : Shared) : Bool :=
  shared.state.activeDevices.all fun device =>
    (shared'.state.find device.spec.id).all (·.compensationSet = device.compensationSet)

/-- Whether nothing happens in a step which `Undisturbed` excludes. -/
def undisturbed (shared : Shared) (label : ThreadLabel) (shared' : Shared) : Bool :=
  faultless shared label shared' &&
    (!shared.threads.any aboutToSubmit || setsNothing shared shared')

section Checks

variable {shared shared' : Shared} {label : ThreadLabel} {deviceId : String}

theorem faultless_of_check (checked : faultless shared label shared' = true) :
    Faultless shared label shared' := by
  simp only [faultless, Bool.and_eq_true] at checked
  obtain ⟨⟨⟨calls, waited⟩, succeeded⟩, powered⟩ := checked
  constructor
  · cases label with
    | arrived request =>
        cases request with
        | call deviceId functionId args =>
            have spares : functionId ≠ kFunctionCalibrate := of_decide_eq_true calls
            exact spares
        | _ => trivial
    | _ => trivial
  · intro task call found
    exact of_decide_eq_true (List.all_eq_true.mp waited call (List.mem_of_getElem? found))
  · intro entry member
    exact of_decide_eq_true (List.all_eq_true.mp succeeded entry member)
  · intro device listed
    exact of_decide_eq_true (List.all_eq_true.mp powered device listed)

theorem any_aboutToSubmit {thread : Thread} (listed : thread ∈ shared.threads) {timeout : Int}
    {job : Job} (checks : thread.AboutToCheck deviceId timeout job) :
    shared.threads.any aboutToSubmit = true := by
  obtain ⟨next, here⟩ := checks
  refine List.any_eq_true.mpr ⟨thread, listed, ?_⟩
  rw [aboutToSubmit, here]

theorem set_of_setsNothing (checked : setsNothing shared shared' = true)
    {device device' : ActiveDevice} (before : shared.state.find deviceId = some device)
    (after : shared'.state.find deviceId = some device') :
    device'.compensationSet = device.compensationSet := by
  have kept := List.all_eq_true.mp checked device (RuntimeState.mem_of_find before)
  rw [RuntimeState.find_id before, after, Option.all_some] at kept
  exact of_decide_eq_true kept

theorem undisturbed_of_check (checked : undisturbed shared label shared' = true) :
    Undisturbed shared label shared' := by
  obtain ⟨faultless, current⟩ := Bool.and_eq_true_iff.mp checked
  refine ⟨faultless_of_check faultless, ?_⟩
  intro deviceId timeout job device device' thread listed checks before after
  rw [any_aboutToSubmit listed checks, Bool.not_true, Bool.false_or] at current
  exact set_of_setsNothing current before after

end Checks

/-- Two threads set 30 C and 25 C at once. The probe has taken 25 C last and 30 C is remembered
last, so the first check sends it again. -/
def setAtOnce : List Choice :=
  .arrives (.call "probe" kFunctionSetCompensation (temperatureArgs 30)) ::
    .arrives (.call "probe" kFunctionSetCompensation (temperatureArgs 25)) ::
      .goes 0 :: .goes 1 :: .goes 0 :: .goes 1 :: worksThen 18 (.returns 0 :: .returns 1 ::
        .goes 1 :: .goes 1 :: .goes 0 :: .goes 0 :: .goes 1 :: .goes 0 :: .goes 0 :: .goes 1 ::
          worksThen 26 (.returns 2 :: .returns 3 :: List.replicate 5 (.goes 0) ++
            List.replicate 4 (.goes 1)))

/-- Whether all have returned, four jobs having run, and 30 C is set. -/
def settledFour (shared : Shared) : Bool :=
  hasReturned shared && shared.executor.ended.length = 4 &&
    (shared.state.find "probe").any fun device =>
      device.compensationSet.temperatureC = some 30 && device.spec.type = .ph

theorem setAtOnce_settledFour :
    (runs healthy undisturbed setAtOnce start).any settledFour = true := by
  decide +kernel

theorem compensation_settled_canned : ∃ (shared : Shared) (device : ActiveDevice),
    (threads.restrict Undisturbed).Reachable shared ∧ shared.executor.ended.length = 4 ∧
      device.compensationSet.temperatureC = some 30 ∧
        InEffect device.compensationSet (shared.bus device.spec.address).holding := by
  obtain ⟨shared, reachable, checked⟩ := exists_reachable undisturbed_of_check setAtOnce_settledFour
  simp only [settledFour, Bool.and_eq_true, Option.any_eq_true, decide_eq_true_eq] at checked
  obtain ⟨⟨returned, four⟩, device, found, set, family⟩ := checked
  have settled := compensation_settled reachable (returned_of_hasReturned returned) found
    (by rw [family]; rfl) (by rw [family]; rfl)
  exact ⟨shared, device, reachable, four, set, settled.1⟩

end Canned

end EzoProvider.Runtime
