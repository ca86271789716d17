import EzoProvider.Bus.Status
import EzoProvider.Interaction.Program
import EzoProvider.Interaction.Transition

/-!
# The serial bus executor

`i2c::BusExecutor` as a transition system: one owner thread calling `start()`
and `stop()`, any number of threads inside `submit()`, and the worker threads
that `start()` spawns. A critical section under `mutex_` is one step; the
promise, the timed-out flag and the bus, which are touched outside it, are
steps of their own. A job advances by one bus exchange at a time, so every
interleaving of a job with the other threads is a run.

`begun`, `ended` and `log` are histories: no step depends on them.
-/

namespace EzoProvider.Bus

open Interaction

/-- `BusExecutorMetrics`. -/
structure BusExecutorMetrics where
  submitted : Nat := 0
  started : Nat := 0
  succeeded : Nat := 0
  failed : Nat := 0
  timedOut : Nat := 0
  cancelled : Nat := 0
  queueDepth : Nat := 0
  lastError : String := ""
deriving DecidableEq, Repr

/-- Calls of `submit`, and the tasks they create, numbered in the order in which
they enter the critical section. -/
abbrev TaskId := Nat

/-- What the promise of a task was fulfilled with: the job's own status, or one of
the executor's. -/
inductive Fulfilment where
  | completed (status : Status)
  | stopped
  | skipped
deriving DecidableEq

/-- The status a promise carries. -/
def Fulfilment.status : Fulfilment → Status
  | .completed status => status
  | .stopped => makeStatus .cancelled "executor stopped before task execution"
  | .skipped => makeStatus .cancelled "task skipped because caller timed out"

/-- How `submit` returned. -/
inductive SubmitOutcome where
  | refused
  | fulfilled (fulfilment : Fulfilment)
  | deadlineExceeded
deriving DecidableEq

/-- The status `submit` returns to its caller. -/
def SubmitOutcome.status (name : String) : SubmitOutcome → Status
  | .refused => makeStatus .unavailable "executor is not running"
  | .fulfilled fulfilment => fulfilment.status
  | .deadlineExceeded => makeStatus .deadlineExceeded ("job '" ++ name ++ "' timed out")

/-- Where a call of `submit` is. `expired` has seen its wait end, `flagged` has
also stored `timed_out`. -/
inductive SubmitPhase where
  | waiting
  | expired
  | flagged
  | returned (outcome : SubmitOutcome)
deriving DecidableEq

/-- Where the owner thread is inside `stop()`. -/
inductive OwnerPhase where
  | idle
  | joining
  | closing
  | finishing
deriving DecidableEq

variable (Op : Type) (Result : Op → Type)

/-- A call of `submit` with the task it created. `fulfilments` counts the calls of
`set_value` on its promise. -/
structure Call where
  name : String
  job : Program Op Result Status
  timeout : Int
  accepted : Bool
  phase : SubmitPhase
  timedOut : Bool := false
  promise : Option Fulfilment := none
  fulfilments : Nat := 0

/-- Where a worker thread is in `worker_loop`. `counting` has found the flag clear
and has not counted yet; `settling` has only the promise left to fulfil. -/
inductive WorkerPhase where
  | waiting
  | dequeued (task : TaskId)
  | skipping (task : TaskId)
  | skipped
  | running (task : TaskId) (rest : Program Op Result Status)
  | ran (task : TaskId) (status : Status)
  | counting (task : TaskId) (status : Status)
  | settling (task : TaskId) (status : Status)
  | exited

/-- The executor, its threads and its histories. -/
structure Executor where
  busOpen : Bool := false
  running : Bool := false
  stopping : Bool := false
  queue : List TaskId := []
  metrics : BusExecutorMetrics := {}
  calls : List (Call Op Result) := []
  workers : List (WorkerPhase Op Result) := []
  owner : OwnerPhase := .idle
  begun : List TaskId := []
  ended : List (TaskId × Status) := []
  log : List (TaskId × Exchange Op Result) := []

variable {Op Result}

/-- `safe_set_promise`: the first value stays, a second one is dropped. -/
def Call.fulfil (fulfilment : Fulfilment) (call : Call Op Result) : Call Op Result :=
  { call with
    promise := some (call.promise.getD fulfilment)
    fulfilments := call.fulfilments + 1 }

namespace Executor

/-- Change one call. -/
def updateCall (executor : Executor Op Result) (task : TaskId)
    (change : Call Op Result → Call Op Result) : Executor Op Result :=
  { executor with calls := executor.calls.modify task change }

/-- Move one worker thread. -/
def moveWorker (executor : Executor Op Result) (worker : Nat)
    (phase : WorkerPhase Op Result) : Executor Op Result :=
  { executor with workers := executor.workers.set worker phase }

/-- The loop of `stop()` which fulfils every queued promise. -/
def drain (calls : List (Call Op Result)) (pending : List TaskId) : List (Call Op Result) :=
  pending.foldl (fun calls task => calls.modify task (Call.fulfil .stopped)) calls

/-- Which thread did what. -/
inductive Action where
  | startReturned (status : Status)
  | stopDrained
  | stopJoined
  | stopClosed
  | stopReturned
  | submit (task : TaskId)
  | submitReturned (task : TaskId)
  | submitExpired (task : TaskId)
  | submitFlagged (task : TaskId)
  | worker (worker : Nat)

/-- One step of one thread. -/
inductive Step : Executor Op Result → Action → Executor Op Result → Prop where
  /- start() -/
  | startRunning {s : Executor Op Result} (idle : s.owner = .idle) (running : s.running = true) :
      Step s (.startReturned .success) s
  | startFailed {s : Executor Op Result} {error : Status} (idle : s.owner = .idle)
      (stopped : s.running = false) (failed : error.isOk = false) :
      Step s (.startReturned error)
        { s with metrics := { s.metrics with lastError := error.message } }
  | started {s : Executor Op Result} (idle : s.owner = .idle) (stopped : s.running = false) :
      Step s (.startReturned .success)
        { s with
          busOpen := true, stopping := false, running := true,
          workers := s.workers ++ [.waiting] }
  /- stop() -/
  | stopStopped {s : Executor Op Result} (idle : s.owner = .idle) (stopped : s.running = false) :
      Step s .stopReturned { s with busOpen := false }
  | stopDrained {s : Executor Op Result} (idle : s.owner = .idle) (running : s.running = true) :
      Step s .stopDrained
        { s with
          stopping := true, queue := [], calls := drain s.calls s.queue,
          metrics := { s.metrics with
            queueDepth := 0, cancelled := s.metrics.cancelled + s.queue.length },
          owner := .joining }
  | stopJoined {s : Executor Op Result} (joining : s.owner = .joining)
      (exited : s.workers.getLast? = some .exited) :
      Step s .stopJoined { s with owner := .closing }
  | stopClosed {s : Executor Op Result} (closing : s.owner = .closing) :
      Step s .stopClosed { s with busOpen := false, owner := .finishing }
  | stopReturned {s : Executor Op Result} (finishing : s.owner = .finishing) :
      Step s .stopReturned { s with running := false, stopping := false, owner := .idle }
  /- submit() -/
  | submitRefused {s : Executor Op Result} {name job timeout}
      (shut : s.running = false ∨ s.stopping = true) :
      Step s (.submit s.calls.length)
        { s with calls := s.calls ++ [{ name, job, timeout, accepted := false,
                                        phase := .returned .refused }] }
  | submitAccepted {s : Executor Op Result} {name job timeout} (running : s.running = true)
      (admitting : s.stopping = false) :
      Step s (.submit s.calls.length)
        { s with
          calls := s.calls ++ [{ name, job, timeout, accepted := true, phase := .waiting }],
          queue := s.queue ++ [s.calls.length],
          metrics := { s.metrics with
            submitted := s.metrics.submitted + 1, queueDepth := s.queue.length + 1 } }
  | submitReturned {s : Executor Op Result} {task call fulfilment}
      (found : s.calls[task]? = some call) (waiting : call.phase = .waiting)
      (ready : call.promise = some fulfilment) :
      Step s (.submitReturned task)
        (s.updateCall task fun call => { call with phase := .returned (.fulfilled fulfilment) })
  | submitExpired {s : Executor Op Result} {task call} (found : s.calls[task]? = some call)
      (waiting : call.phase = .waiting) (timed : 0 < call.timeout)
      (unready : call.promise = none) :
      Step s (.submitExpired task)
        (s.updateCall task fun call => { call with phase := .expired })
  | submitFlagged {s : Executor Op Result} {task call} (found : s.calls[task]? = some call)
      (expired : call.phase = .expired) :
      Step s (.submitFlagged task)
        (s.updateCall task fun call => { call with phase := .flagged, timedOut := true })
  | submitGaveUp {s : Executor Op Result} {task call} (found : s.calls[task]? = some call)
      (flagged : call.phase = .flagged) :
      Step s (.submitReturned task)
        { s.updateCall task fun call => { call with phase := .returned .deadlineExceeded } with
          metrics := { s.metrics with
            timedOut := s.metrics.timedOut + 1
            lastError := "job '" ++ call.name ++ "' timed out" } }
  /- worker_loop() -/
  | dequeued {s : Executor Op Result} {worker task rest}
      (waiting : s.workers[worker]? = some .waiting) (queued : s.queue = task :: rest) :
      Step s (.worker worker)
        { s.moveWorker worker (.dequeued task) with
          queue := rest
          metrics := { s.metrics with
            queueDepth := rest.length, started := s.metrics.started + 1 } }
  | exited {s : Executor Op Result} {worker} (waiting : s.workers[worker]? = some .waiting)
      (stopping : s.stopping = true) (empty : s.queue = []) :
      Step s (.worker worker) (s.moveWorker worker .exited)
  | skipping {s : Executor Op Result} {worker task call}
      (dequeued : s.workers[worker]? = some (.dequeued task))
      (found : s.calls[task]? = some call) (timedOut : call.timedOut = true) :
      Step s (.worker worker) (s.moveWorker worker (.skipping task))
  | skipped {s : Executor Op Result} {worker task}
      (skipping : s.workers[worker]? = some (.skipping task)) :
      Step s (.worker worker)
        ((s.updateCall task (Call.fulfil .skipped)).moveWorker worker .skipped)
  | skipCounted {s : Executor Op Result} {worker}
      (skipped : s.workers[worker]? = some .skipped) :
      Step s (.worker worker)
        { s.moveWorker worker .waiting with
          metrics := { s.metrics with cancelled := s.metrics.cancelled + 1 } }
  | began {s : Executor Op Result} {worker task call}
      (dequeued : s.workers[worker]? = some (.dequeued task))
      (found : s.calls[task]? = some call) (timely : call.timedOut = false) :
      Step s (.worker worker)
        { s.moveWorker worker (.running task call.job) with begun := s.begun ++ [task] }
  | exchanged {s : Executor Op Result} {worker task op next} (result : Result op)
      (running : s.workers[worker]? = some (.running task (.perform op next))) :
      Step s (.worker worker)
        { s.moveWorker worker (.running task (next result)) with
          log := s.log ++ [(task, ⟨op, result⟩)] }
  | ran {s : Executor Op Result} {worker task status}
      (running : s.workers[worker]? = some (.running task (.done status))) :
      Step s (.worker worker)
        { s.moveWorker worker (.ran task status) with ended := s.ended ++ [(task, status)] }
  | flagClear {s : Executor Op Result} {worker task status call}
      (ran : s.workers[worker]? = some (.ran task status))
      (found : s.calls[task]? = some call) (timely : call.timedOut = false) :
      Step s (.worker worker) (s.moveWorker worker (.counting task status))
  | flagSet {s : Executor Op Result} {worker task status call}
      (ran : s.workers[worker]? = some (.ran task status))
      (found : s.calls[task]? = some call) (timedOut : call.timedOut = true) :
      Step s (.worker worker) (s.moveWorker worker (.settling task status))
  | counted {s : Executor Op Result} {worker task status}
      (counting : s.workers[worker]? = some (.counting task status)) :
      Step s (.worker worker)
        { s.moveWorker worker (.settling task status) with
          metrics :=
            if status.isOk then { s.metrics with succeeded := s.metrics.succeeded + 1 }
            else { s.metrics with
              failed := s.metrics.failed + 1, lastError := status.message } }
  | settled {s : Executor Op Result} {worker task status}
      (settling : s.workers[worker]? = some (.settling task status)) :
      Step s (.worker worker)
        ((s.updateCall task (Call.fulfil (.completed status))).moveWorker worker .waiting)

variable (Op Result) in
/-- The executor from construction on. -/
def system : TransitionSystem (Executor Op Result) Action where
  Initial executor := executor = {}
  Step := Step

end Executor
end EzoProvider.Bus
