import EzoProvider.Bus.Submissions
import EzoProvider.Runtime.Provider
import EzoProvider.Runtime.Timeline

/-!
# The provider under several threads

Any number of threads inside the operations of the runtime, over one state, one
bus executor and one bus. A critical section under `g_mutex` is one step; the
calls of `submit` and the worker go as they do in the executor, and the reply of
a submission is looked at when its caller goes on. Every interleaving of the
threads with the worker is a run.

`held`, `stamp` and `released` are histories: no step depends on them.
-/

namespace EzoProvider.Runtime

open Interaction Program Devices

/-- A thread is at its own code, or inside `submit`. -/
inductive ThreadPhase where
  | running (rest : Caller Unit)
  | waiting (task : Bus.TaskId) (next : SubmitReply → Caller Unit)

/-- A thread. `held` is the task whose reply it has and has not gone through a critical
section with, `stamp` what it has read of the steady clock since. -/
structure Thread where
  phase : ThreadPhase
  held : Option Bus.TaskId := none
  stamp : Option Int := none

/-- The task a thread waits for, or holds the reply of. -/
def Thread.task (thread : Thread) : Option Bus.TaskId :=
  match thread.phase with
  | .running _ => thread.held
  | .waiting task _ => some task

/-- What the threads share. `released` are the tasks whose replies no thread holds any
more, in the order they were released in. -/
structure Shared where
  state : RuntimeState
  executor : Bus.Executor JobOp JobOp.Result
  bus : Bus
  clock : Int
  threads : List Thread := []
  released : List Bus.TaskId := []

namespace Shared

/-- Move one thread. -/
def moveThread (shared : Shared) (index : Nat) (thread : Thread) : Shared :=
  { shared with threads := shared.threads.set index thread }

/-- What the caller of a task finds when it goes on. -/
def replyOf (shared : Shared) (task : Bus.TaskId) (name : String) (outcome : Bus.SubmitOutcome) :
    SubmitReply where
  status := outcome.status name
  outputs := outputsOf (shared.executor.traceOf task)

/-- The task was submitted under this name. -/
def Named (shared : Shared) (name : String) (task : Bus.TaskId) : Bool :=
  (shared.executor.submissionOf task).any (·.name = name)

/-- The threads have all returned. -/
def Returned (shared : Shared) : Prop :=
  ∀ thread ∈ shared.threads, thread.phase = .running (.done ())

/-- The jobs have all finished. -/
def Finished (shared : Shared) : Prop :=
  shared.executor.queue = [] ∧ shared.executor.worker = .waiting

end Shared

/-- Which thread went on, or what else happened. -/
inductive ThreadLabel where
  | arrived (request : Request)
  | stepped (thread : Nat)
  | replied (thread : Nat)
  | served (action : Bus.Executor.Action)
  | passed

section Steps

variable [EzoDriver] [DecimalText] [ProviderSdk]

/-- One step of one thread, of the worker, or of the world outside. -/
inductive SharedStep : Shared → ThreadLabel → Shared → Prop where
  | arrived {shared : Shared} {request : Request} :
      SharedStep shared (.arrived request)
        { shared with threads := shared.threads ++ [{ phase := .running request.run }] }
  | locked {shared : Shared} {index : Nat} {thread : Thread} {change next}
      (found : shared.threads[index]? = some thread)
      (here : thread.phase = .running (.perform (.locked change) next)) :
      SharedStep shared (.stepped index)
        { shared.moveThread index { phase := .running (next shared.state) } with
          state := change shared.state, released := shared.released ++ thread.held.toList }
  | submitted {shared : Shared} {index : Nat} {thread : Thread} {name timeout job next}
      (found : shared.threads[index]? = some thread)
      (here : thread.phase = .running (.perform (.submit name timeout job) next)) :
      SharedStep shared (.stepped index)
        { shared.moveThread index { phase := .waiting shared.executor.calls.length next } with
          executor := shared.executor.submitted { name, timeout, job }
          released := shared.released ++ thread.held.toList }
  | replied {shared : Shared} {index : Nat} {thread : Thread} {task next call outcome}
      (found : shared.threads[index]? = some thread) (here : thread.phase = .waiting task next)
      (called : shared.executor.calls[task]? = some call)
      (returned : call.phase = .returned outcome) :
      SharedStep shared (.replied index)
        (shared.moveThread index
          { phase := .running (next (shared.replyOf task call.name outcome)), held := some task })
  | systemNow {shared : Shared} {index : Nat} {thread : Thread} {next} (now : Int)
      (found : shared.threads[index]? = some thread)
      (here : thread.phase = .running (.perform .systemNow next)) :
      SharedStep shared (.stepped index)
        (shared.moveThread index { thread with phase := .running (next now) })
  | steadyNow {shared : Shared} {index : Nat} {thread : Thread} {next} {now : Int}
      (found : shared.threads[index]? = some thread)
      (here : thread.phase = .running (.perform .steadyNow next)) (later : shared.clock ≤ now) :
      SharedStep shared (.stepped index)
        { shared.moveThread index
            { thread with phase := .running (next now), stamp := some now } with clock := now }
  | warned {shared : Shared} {index : Nat} {thread : Thread} {message next}
      (found : shared.threads[index]? = some thread)
      (here : thread.phase = .running (.perform (.warn message) next)) :
      SharedStep shared (.stepped index)
        (shared.moveThread index { thread with phase := .running (next ()) })
  | served {shared : Shared} {action : Bus.Executor.Action} {executor}
      (serves : action.Serves) (transition : Bus.Executor.Step shared.executor action executor)
      (silent : executor.log = shared.executor.log) :
      SharedStep shared (.served action) { shared with executor }
  | exchanged {shared : Shared} {action : Bus.Executor.Action} {executor} {task : Bus.TaskId}
      {op : JobOp} {answer : op.Result} {bus : Bus} (serves : action.Serves)
      (transition : Bus.Executor.Step shared.executor action executor)
      (logged : executor.log = shared.executor.log ++ [(task, ⟨op, answer⟩)])
      (answers : Bus.environment.Answers shared.bus op answer bus) :
      SharedStep shared (.served action) { shared with executor, bus }
  | passed {shared : Shared} {bus : Bus} (drift : Bus.Drift shared.bus bus) :
      SharedStep shared .passed { shared with bus }

/-- The provider as `initialize` leaves it, with nothing left on the line. -/
def Started (shared : Shared) : Prop :=
  ∃ config world, Initialized Line.Submitted config world ∧ world.line.running = true ∧
    world.line.orphan = none ∧
    shared = { state := world.state, executor := .justStarted, bus := world.line.bus,
               clock := world.clock }

/-- The provider under any threads. -/
def threads : TransitionSystem Shared ThreadLabel where
  Initial := Started
  Step := SharedStep

end Steps

end EzoProvider.Runtime
