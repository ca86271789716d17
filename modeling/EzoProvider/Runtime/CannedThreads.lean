import EzoProvider.Runtime.CannedProvider
import EzoProvider.Runtime.Threads

/-!
# Threads on a canned bus

A scheduler to run threads with: a list of choices says who goes on next. The
bus is the canned one, and the steady clock goes on by one for each reading. A
run of the scheduler is a run of the threads.
-/

namespace EzoProvider.Runtime

open Interaction Program Devices TransitionSystem CannedBus CannedProvider

namespace CannedThreads

/-- Who goes on: a thread, the caller of a task inside `submit`, or the worker. -/
inductive Choice where
  | arrives (request : Request)
  | goes (thread : Nat)
  | returns (task : Bus.TaskId)
  | expires (task : Bus.TaskId)
  | flags (task : Bus.TaskId)
  | works
  | reverts (address : Address)

/-- The worker goes on so many times before the rest. -/
def worksThen (count : Nat) (rest : List Choice) : List Choice :=
  List.replicate count .works ++ rest

/-- A thread performs its next operation. -/
def perform (shared : Shared) (index : Nat) (thread : Thread) :
    (op : CallerOp) → (op.Result → Caller Unit) → Option Shared
  | .locked change, next =>
      some { shared.moveThread index { phase := .running (next shared.state) } with
        state := change shared.state, released := shared.released ++ thread.held.toList }
  | .submit name timeout job, next =>
      some { shared.moveThread index { phase := .waiting shared.executor.calls.length next } with
        executor := shared.executor.submitted { name, timeout, job }
        released := shared.released ++ thread.held.toList }
  | .systemNow, next => some (shared.moveThread index { thread with phase := .running (next 0) })
  | .steadyNow, next =>
      some { shared.moveThread index
          { thread with
            phase := .running (next (shared.clock + 1)), stamp := some (shared.clock + 1) } with
        clock := shared.clock + 1 }
  | .warn _, next => some (shared.moveThread index { thread with phase := .running (next ()) })
  | .checkHost _, _ | .startExecutor _, _ | .stopExecutor, _ => none

/-- A thread goes on, if it can. -/
def goOn (shared : Shared) (index : Nat) (thread : Thread) : Option Shared :=
  match thread.phase with
  | .running (.done _) => none
  | .running (.perform op next) => perform shared index thread op next
  | .waiting task next =>
      match shared.executor.calls[task]? with
      | none => none
      | some call =>
          match call.phase with
          | .returned outcome =>
              some (shared.moveThread index
                { phase := .running (next (shared.replyOf task call.name outcome))
                  held := some task })
          | _ => none

/-- The caller of a task returns from `submit`, if it can. -/
def returnFrom (executor : Bus.Executor JobOp JobOp.Result) (task : Bus.TaskId) :
    Option (Bus.Executor JobOp JobOp.Result) :=
  match executor.calls[task]? with
  | none => none
  | some call =>
      match call.phase, call.promise with
      | .waiting, some fulfilment =>
          some (executor.updateCall task fun call =>
            { call with phase := .returned (.fulfilled fulfilment) })
      | .flagged, _ =>
          some { executor.updateCall task fun call =>
              { call with phase := .returned .deadlineExceeded } with
            metrics := { executor.metrics with
              timedOut := executor.metrics.timedOut + 1
              lastError := "job '" ++ call.name ++ "' timed out" } }
      | _, _ => none

/-- The wait of a caller ends early, if it can. -/
def expire (executor : Bus.Executor JobOp JobOp.Result) (task : Bus.TaskId) :
    Option (Bus.Executor JobOp JobOp.Result) :=
  match executor.calls[task]? with
  | none => none
  | some call =>
      if call.phase = .waiting ∧ 0 < call.timeout ∧ call.promise = none then
        some (executor.updateCall task fun call => { call with phase := .expired })
      else none

/-- A caller whose wait has ended stores the flag. -/
def flag (executor : Bus.Executor JobOp JobOp.Result) (task : Bus.TaskId) :
    Option (Bus.Executor JobOp JobOp.Result) :=
  match executor.calls[task]? with
  | none => none
  | some call =>
      if call.phase = .expired then
        some (executor.updateCall task fun call => { call with phase := .flagged, timedOut := true })
      else none

/-- The worker goes on, if it can, outside the bus. -/
def work (executor : Bus.Executor JobOp JobOp.Result) : Option (Bus.Executor JobOp JobOp.Result) :=
  match (executor.workers[0]? : Option (Bus.WorkerPhase JobOp JobOp.Result)) with
  | some .waiting =>
      match executor.queue with
      | [] => none
      | task :: rest =>
          some { executor.moveWorker 0 (.dequeued task) with
            queue := rest
            metrics := { executor.metrics with
              queueDepth := rest.length, started := executor.metrics.started + 1 } }
  | some (.dequeued task) =>
      match executor.calls[task]? with
      | none => none
      | some call =>
          if call.timedOut then some (executor.moveWorker 0 (.skipping task))
          else some { executor.moveWorker 0 (.running task call.job) with
            begun := executor.begun ++ [task] }
  | some (.skipping task) =>
      some ((executor.updateCall task (Bus.Call.fulfil .skipped)).moveWorker 0 .skipped)
  | some .skipped =>
      some { executor.moveWorker 0 .waiting with
        metrics := { executor.metrics with cancelled := executor.metrics.cancelled + 1 } }
  | some (.running task (.done status)) =>
      some { executor.moveWorker 0 (.ran task status) with
        ended := executor.ended ++ [(task, status)] }
  | some (.ran task status) =>
      match executor.calls[task]? with
      | none => none
      | some call =>
          if call.timedOut then some (executor.moveWorker 0 (.settling task status))
          else some (executor.moveWorker 0 (.counting task status))
  | some (.counting task status) =>
      some { executor.moveWorker 0 (.settling task status) with
        metrics :=
          if status.isOk then
            { executor.metrics with succeeded := executor.metrics.succeeded + 1 }
          else { executor.metrics with
            failed := executor.metrics.failed + 1, lastError := status.message } }
  | some (.settling task status) =>
      some ((executor.updateCall task (Bus.Call.fulfil (.completed status))).moveWorker 0 .waiting)
  | some (.running _ (.perform _ _)) | some .exited | none => none

/-- The worker goes on, on the canned bus where it has an exchange to make. -/
def workOn (setup : Setup) (shared : Shared) : Option Shared :=
  match (shared.executor.workers[0]? : Option (Bus.WorkerPhase JobOp JobOp.Result)) with
  | some (.running task (.perform op next)) =>
      let answered := CannedBus.respond setup shared.bus op
      some { shared with
        executor := { shared.executor.moveWorker 0 (.running task (next answered.1)) with
          log := shared.executor.log ++ [(task, ⟨op, answered.1⟩)] }
        bus := answered.2 }
  | _ => (work shared.executor).map fun executor => { shared with executor }

/-- The step a choice gives. -/
def advance (setup : Setup) (shared : Shared) : Choice → Option (ThreadLabel × Shared)
  | .arrives request =>
      some (.arrived request,
        { shared with threads := shared.threads ++ [{ phase := .running request.run }] })
  | .goes index =>
      match shared.threads[index]? with
      | none => none
      | some thread =>
          (goOn shared index thread).map fun next =>
            (match thread.phase with
              | .running _ => .stepped index
              | .waiting _ _ => .replied index, next)
  | .returns task =>
      (returnFrom shared.executor task).map fun executor =>
        (.served (.submitReturned task), { shared with executor })
  | .expires task =>
      (expire shared.executor task).map fun executor =>
        (.served (.submitExpired task), { shared with executor })
  | .flags task =>
      (flag shared.executor task).map fun executor =>
        (.served (.submitFlagged task), { shared with executor })
  | .works => (workOn setup shared).map fun next => (.served (.worker 0), next)
  | .reverts address =>
      let probe := shared.bus address
      some (.passed, { shared with
        bus := Function.update shared.bus address
          { probe with
            holding := probe.powerUp, command := none, powerUps := probe.powerUps + 1 } })

/-! ## Steps -/

section Steps

variable {setup : Setup} {shared shared' : Shared} {executor executor' : Bus.Executor JobOp JobOp.Result}

theorem step_of_perform {index : Nat} {thread : Thread} {op : CallerOp}
    {next : op.Result → Caller Unit} (found : shared.threads[index]? = some thread)
    (here : thread.phase = .running (.perform op next))
    (performed : perform shared index thread op next = some shared') :
    SharedStep shared (.stepped index) shared' := by
  cases op with
  | locked =>
      cases performed
      exact .locked found here
  | submit =>
      cases performed
      exact .submitted found here
  | systemNow =>
      cases performed
      exact .systemNow 0 found here
  | steadyNow =>
      cases performed
      exact .steadyNow found here (by omega)
  | warn =>
      cases performed
      exact .warned found here
  | checkHost | startExecutor | stopExecutor => cases performed

theorem step_of_goOn {index : Nat} {thread : Thread} (found : shared.threads[index]? = some thread)
    (goes : goOn shared index thread = some shared') :
    SharedStep shared
      (match thread.phase with
        | .running _ => .stepped index
        | .waiting _ _ => .replied index) shared' := by
  rw [goOn] at goes
  split at goes
  · cases goes
  · next here =>
      simp only [here]
      exact step_of_perform found here goes
  · next task next here =>
      simp only [here]
      split at goes
      · cases goes
      · next call called =>
          split at goes
          · next returned =>
              cases goes
              exact .replied found here called returned
          · cases goes

theorem step_of_returnFrom {task : Bus.TaskId} (returns : returnFrom executor task = some executor') :
    Bus.Executor.Step executor (.submitReturned task) executor' ∧ executor'.log = executor.log := by
  rw [returnFrom] at returns
  split at returns
  · cases returns
  · next found =>
      split at returns
      · next waiting ready =>
          cases returns
          exact ⟨.submitReturned found waiting ready, rfl⟩
      · next flagged =>
          cases returns
          exact ⟨.submitGaveUp found flagged, rfl⟩
      · cases returns

theorem step_of_expire {task : Bus.TaskId} (expires : expire executor task = some executor') :
    Bus.Executor.Step executor (.submitExpired task) executor' ∧ executor'.log = executor.log := by
  rw [expire] at expires
  split at expires
  · cases expires
  · next found =>
      split at expires
      · next ends =>
          cases expires
          exact ⟨.submitExpired found ends.1 ends.2.1 ends.2.2, rfl⟩
      · cases expires

theorem step_of_flag {task : Bus.TaskId} (flags : flag executor task = some executor') :
    Bus.Executor.Step executor (.submitFlagged task) executor' ∧ executor'.log = executor.log := by
  rw [flag] at flags
  split at flags
  · cases flags
  · next found =>
      split at flags
      · next expired =>
          cases flags
          exact ⟨.submitFlagged found expired, rfl⟩
      · cases flags

theorem step_of_work (works : work executor = some executor') :
    Bus.Executor.Step executor (.worker 0) executor' ∧ executor'.log = executor.log := by
  rw [work] at works
  split at works
  · next waiting =>
      split at works
      · cases works
      · next queued =>
          cases works
          exact ⟨.dequeued waiting queued, rfl⟩
  · next dequeued =>
      split at works
      · cases works
      · next found =>
          split at works
          · next timedOut =>
              cases works
              exact ⟨.skipping dequeued found timedOut, rfl⟩
          · next timely =>
              cases works
              exact ⟨.began dequeued found (by simpa using timely), rfl⟩
  · next skipping =>
      cases works
      exact ⟨.skipped skipping, rfl⟩
  · next skipped =>
      cases works
      exact ⟨.skipCounted skipped, rfl⟩
  · next running =>
      cases works
      exact ⟨.ran running, rfl⟩
  · next ran =>
      split at works
      · cases works
      · next found =>
          split at works
          · next timedOut =>
              cases works
              exact ⟨.flagSet ran found timedOut, rfl⟩
          · next timely =>
              cases works
              exact ⟨.flagClear ran found (by simpa using timely), rfl⟩
  · next counting =>
      cases works
      exact ⟨.counted counting, rfl⟩
  · next settling =>
      cases works
      exact ⟨.settled settling, rfl⟩
  · cases works
  · cases works
  · cases works

theorem step_of_workOn (works : workOn setup shared = some shared') :
    SharedStep shared (.served (.worker 0)) shared' := by
  rw [workOn] at works
  split at works
  · next task op next running =>
      cases works
      exact .exchanged trivial (.exchanged _ running) rfl (CannedBus.faithful setup shared.bus op)
  · obtain ⟨executor, worked, rfl⟩ := Option.map_eq_some_iff.mp works
    obtain ⟨transition, silent⟩ := step_of_work worked
    exact .served trivial transition silent

/-- Every choice is a step of the threads. -/
theorem step_of_advance {choice : Choice} {label : ThreadLabel}
    (advanced : advance setup shared choice = some (label, shared')) :
    SharedStep shared label shared' := by
  cases choice with
  | arrives =>
      cases advanced
      exact .arrived
  | goes index =>
      rw [advance] at advanced
      split at advanced
      · cases advanced
      · next thread found =>
          obtain ⟨next, goes, same⟩ := Option.map_eq_some_iff.mp advanced
          cases same
          exact step_of_goOn found goes
  | returns =>
      obtain ⟨executor, returns, same⟩ := Option.map_eq_some_iff.mp advanced
      cases same
      obtain ⟨transition, silent⟩ := step_of_returnFrom returns
      exact .served trivial transition silent
  | expires =>
      obtain ⟨executor, expires, same⟩ := Option.map_eq_some_iff.mp advanced
      cases same
      obtain ⟨transition, silent⟩ := step_of_expire expires
      exact .served trivial transition silent
  | flags =>
      obtain ⟨executor, flags, same⟩ := Option.map_eq_some_iff.mp advanced
      cases same
      obtain ⟨transition, silent⟩ := step_of_flag flags
      exact .served trivial transition silent
  | works =>
      obtain ⟨next, works, same⟩ := Option.map_eq_some_iff.mp advanced
      cases same
      exact step_of_workOn works
  | reverts address =>
      cases advanced
      exact .passed (.single ⟨address, _, .powerLost, rfl⟩)

end Steps

/-! ## Runs -/

/-- A run by choices, all of which are permitted. -/
def runs (setup : Setup) (permits : Shared → ThreadLabel → Shared → Bool) :
    List Choice → Shared → Option Shared
  | [], shared => some shared
  | choice :: rest, shared =>
      match advance setup shared choice with
      | none => none
      | some (label, next) => if permits shared label next then runs setup permits rest next else none

theorem reachable_of_runs {setup : Setup} {permits : Shared → ThreadLabel → Shared → Bool}
    {condition : Shared → ThreadLabel → Shared → Prop}
    (meets : ∀ {shared label next}, permits shared label next = true → condition shared label next)
    {choices : List Choice} {shared final : Shared}
    (reachable : (threads.restrict condition).Reachable shared)
    (run : runs setup permits choices shared = some final) :
    (threads.restrict condition).Reachable final := by
  induction choices generalizing shared with
  | nil =>
      cases run
      exact reachable
  | cons choice rest ih =>
      rw [runs] at run
      split at run
      · cases run
      · next label next advanced =>
          split at run
          · next permitted =>
              exact ih (reachable.steps (.single ⟨step_of_advance advanced, meets permitted⟩)) run
          · cases run

/-- A bus which fails nothing. -/
def healthy : Setup := products .ph fun _ => false

/-- A provider of one pH probe as `initialize` leaves it. -/
def initialized : World :=
  started healthy (oneDevice .ph) { holding := defaults, powerUp := defaults }

/-- The canned provider, before any thread arrives. -/
def start : Shared where
  state := initialized.state
  executor := .justStarted
  bus := initialized.line.bus
  clock := initialized.clock

theorem started_start : Started start := by
  have alone : initialized.line.orphan.isNone = true := by decide +kernel
  refine ⟨_, initialized, initialized_started healthy (valid_oneDevice .ph) _, ?_, ?_, rfl⟩
  · decide +kernel
  · simpa using alone

/-- A run by choices ends in a reachable state, of which a check can be evaluated. -/
theorem exists_reachable {permits : Shared → ThreadLabel → Shared → Bool}
    {condition : Shared → ThreadLabel → Shared → Prop} {choices : List Choice}
    {check : Shared → Bool}
    (meets : ∀ {shared label next}, permits shared label next = true → condition shared label next)
    (checked : (runs healthy permits choices start).any check = true) :
    ∃ final, (threads.restrict condition).Reachable final ∧ check final = true := by
  obtain ⟨final, run, holds⟩ := (Option.any_eq_true _ _).mp checked
  exact ⟨final, reachable_of_runs meets (.initial started_start) run, holds⟩

/-- Lets everything happen. -/
def anything (_ : Shared) (_ : ThreadLabel) (_ : Shared) : Bool := true

theorem exists_reachable_threads {choices : List Choice} {check : Shared → Bool}
    (checked : (runs healthy anything choices start).any check = true) :
    ∃ final, threads.Reachable final ∧ check final = true := by
  obtain ⟨final, reachable, holds⟩ :=
    @exists_reachable anything (fun _ _ _ => True) _ _ (fun _ => trivial) checked
  exact ⟨final, reachable.of_restrict, holds⟩

/-! ## Evaluation -/

/-- Whether the threads have all returned. -/
def hasReturned (shared : Shared) : Bool :=
  shared.threads.all fun thread =>
    match thread.phase with
    | .running (.done _) => true
    | _ => false

theorem returned_of_hasReturned {shared : Shared} (returned : hasReturned shared = true) :
    shared.Returned := by
  intro thread member
  have done := List.all_eq_true.mp returned thread member
  split at done
  · next here => exact here
  · cases done

/-- Whether the jobs have all finished. -/
def hasFinished (shared : Shared) : Bool :=
  shared.executor.queue.isEmpty &&
    match shared.executor.worker with
    | .waiting => true
    | _ => false

theorem finished_of_hasFinished {shared : Shared} (finished : hasFinished shared = true) :
    shared.Finished := by
  obtain ⟨empty, waiting⟩ := Bool.and_eq_true_iff.mp finished
  refine ⟨List.isEmpty_iff.mp empty, ?_⟩
  split at waiting
  · next here => exact here
  · cases waiting

end CannedThreads

end EzoProvider.Runtime
