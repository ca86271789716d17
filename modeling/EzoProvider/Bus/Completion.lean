import EzoProvider.Bus.Metrics
import EzoProvider.Bus.Turns
import EzoProvider.Interaction.Termination
import Mathlib.Order.GameAdd

/-!
# Serving comes to an end

With no further submission the worker and the callers inside `submit()` can take
only so many steps: a call goes from its wait to its return, and the worker, once
the queue is empty, to the end of the job it has. What has not come to its end
can go on.
-/

namespace EzoProvider.Bus

open Interaction

variable {Op : Type} {Result : Op → Type}

/-! ## Single threads -/

/-- How far a call of `submit` is from its return. -/
def SubmitPhase.distance : SubmitPhase → Nat
  | waiting => 3
  | expired => 2
  | flagged => 1
  | returned _ => 0

/-- Where a worker thread may be after a step which takes no task from the queue. -/
inductive WorkerPhase.After : WorkerPhase Op Result → WorkerPhase Op Result → Prop where
  | exited : After .exited .waiting
  | skipping {task : TaskId} : After (.skipping task) (.dequeued task)
  | skipped {task : TaskId} : After .skipped (.skipping task)
  | skipCounted : After .waiting .skipped
  | began {task : TaskId} {job : Program Op Result Status} :
      After (.running task job) (.dequeued task)
  | exchanged {task : TaskId} {rest job : Program Op Result Status} (answered : rest.After job) :
      After (.running task rest) (.running task job)
  | ran {task : TaskId} {status : Status} : After (.ran task status) (.running task (.done status))
  | flagClear {task : TaskId} {status : Status} : After (.counting task status) (.ran task status)
  | flagSet {task : TaskId} {status : Status} : After (.settling task status) (.ran task status)
  | counted {task : TaskId} {status : Status} :
      After (.settling task status) (.counting task status)
  | settled {task : TaskId} {status : Status} : After .waiting (.settling task status)

theorem WorkerPhase.wellFounded_after : WellFounded (@WorkerPhase.After Op Result) := by
  have exited : Acc (@After Op Result) .exited := by
    refine ⟨_, ?_⟩
    rintro _ ⟨⟩
  have waiting : Acc (@After Op Result) .waiting := by
    refine ⟨_, ?_⟩
    rintro _ ⟨⟩
    exact exited
  have settling : ∀ task status, Acc (@After Op Result) (.settling task status) := by
    refine fun task status => ⟨_, ?_⟩
    rintro _ ⟨⟩
    exact waiting
  have counting : ∀ task status, Acc (@After Op Result) (.counting task status) := by
    refine fun task status => ⟨_, ?_⟩
    rintro _ ⟨⟩
    exact settling task status
  have ran : ∀ task status, Acc (@After Op Result) (.ran task status) := by
    refine fun task status => ⟨_, ?_⟩
    rintro _ (_ | _)
    · exact counting task status
    · exact settling task status
  have running : ∀ task job, Acc (@After Op Result) (.running task job) := by
    intro task job
    induction Program.wellFounded_after.apply job with
    | intro job _ ih =>
        refine ⟨_, ?_⟩
        rintro _ (_ | _)
        · exact ih _ ‹_›
        · exact ran task _
  have skipped : Acc (@After Op Result) .skipped := by
    refine ⟨_, ?_⟩
    rintro _ ⟨⟩
    exact waiting
  have skipping : ∀ task, Acc (@After Op Result) (.skipping task) := by
    refine fun task => ⟨_, ?_⟩
    rintro _ ⟨⟩
    exact skipped
  refine ⟨fun phase => ?_⟩
  cases phase with
  | waiting => exact waiting
  | skipping task => exact skipping task
  | skipped => exact skipped
  | running task job => exact running task job
  | ran task status => exact ran task status
  | counting task status => exact counting task status
  | settling task status => exact settling task status
  | exited => exact exited
  | dequeued task =>
      refine ⟨_, ?_⟩
      rintro _ (_ | _)
      · exact skipping task
      · exact running task _

/-! ## The executor -/

namespace Executor

variable {s s' : Executor Op Result} {action : Action}

/-- What is still to be done: by the calls of `submit`, and by the worker. -/
def remains (s : Executor Op Result) : List SubmitPhase × Nat × List (WorkerPhase Op Result) :=
  (s.calls.map (·.phase), s.queue.length, s.workers)

/-- Less is still to be done. -/
def Nearer : List SubmitPhase × Nat × List (WorkerPhase Op Result) →
    List SubmitPhase × Nat × List (WorkerPhase Op Result) → Prop :=
  Prod.GameAdd (PartAfter (InvImage (· < ·) SubmitPhase.distance))
    (Prod.Lex (· < ·) (PartAfter WorkerPhase.After))

theorem wellFounded_nearer : WellFounded (@Nearer Op Result) := by
  refine WellFounded.prod_gameAdd (wellFounded_partAfter (InvImage.wf _ wellFounded_lt)) ?_
  exact WellFounded.prod_lex wellFounded_lt (wellFounded_partAfter WorkerPhase.wellFounded_after)

theorem phases_updateCall {task : TaskId} {change : Call Op Result → Call Op Result}
    {call : Call Op Result} (found : s.calls[task]? = some call) :
    (s.updateCall task change).calls.map (·.phase) =
      (s.calls.map (·.phase)).set task (change call).phase := by
  refine List.ext_getElem? fun other => ?_
  rw [updateCall, List.getElem?_map, List.getElem?_modify, List.getElem?_set, List.getElem?_map]
  by_cases same : task = other
  · subst same
    obtain ⟨known, same⟩ := List.getElem?_eq_some_iff.mp found
    simp [known, same]
  · simp [same]

/-- Fulfilling a promise moves no caller. -/
theorem phases_fulfil (task : TaskId) (fulfilment : Fulfilment) :
    (s.updateCall task (Call.fulfil fulfilment)).calls.map (·.phase) = s.calls.map (·.phase) := by
  refine List.ext_getElem? fun other => ?_
  rw [updateCall, List.getElem?_map, List.getElem?_modify, List.getElem?_map]
  cases s.calls[other]? with
  | none => simp
  | some call => by_cases same : task = other <;> simp [same, Call.fulfil]

/-- Each step of serving leaves less to be done. -/
theorem Step.nearer (transition : Step s action s') (serves : action.Serves) :
    Nearer s'.remains s.remains := by
  have called : ∀ {task : TaskId} {change : Call Op Result → Call Op Result} {call : Call Op Result},
      s.calls[task]? = some call → (change call).phase.distance < call.phase.distance →
      Nearer ((s.updateCall task change).calls.map (·.phase), s.queue.length, s.workers) s.remains := by
    intro task change call found closer
    rw [phases_updateCall found]
    exact .fst (.moved (by simp [found]) closer)
  have worked : ∀ {index : Nat} {phase next : WorkerPhase Op Result},
      s.workers[index]? = some phase → next.After phase →
      Nearer (s.calls.map (·.phase), s.queue.length, s.workers.set index next) s.remains :=
    fun found after => .snd (.right _ (.moved found after))
  cases transition with
  | startRunning | startFailed | started | stopStopped | stopDrained | stopJoined | stopClosed
  | stopReturned | submitRefused | submitAccepted => exact absurd serves id
  | submitReturned found waiting => exact called found (by simp [waiting, SubmitPhase.distance])
  | submitExpired found waiting => exact called found (by simp [waiting, SubmitPhase.distance])
  | submitFlagged found expired => exact called found (by simp [expired, SubmitPhase.distance])
  | submitGaveUp found flagged => exact called found (by simp [flagged, SubmitPhase.distance])
  | dequeued waiting queued =>
      refine .snd (.left _ _ ?_)
      simp [queued]
  | exited waiting => exact worked waiting .exited
  | skipping dequeued => exact worked dequeued .skipping
  | @skipped _ task skipping =>
      have kept := worked skipping .skipped
      rwa [← phases_fulfil task .skipped] at kept
  | skipCounted skipped => exact worked skipped .skipCounted
  | began dequeued => exact worked dequeued .began
  | exchanged answer running => exact worked running (.exchanged (.answered answer))
  | ran running => exact worked running .ran
  | flagClear ran => exact worked ran .flagClear
  | flagSet ran => exact worked ran .flagSet
  | counted counting => exact worked counting .counted
  | @settled _ task status settling =>
      have kept := worked settling .settled
      rwa [← phases_fulfil task (.completed status)] at kept

/-! ## What can go on -/

/-- While the executor is not stopping its worker stays. -/
theorem Step.alive (transition : Step s action s') (threads : s.Threads) (serves : action.Serves)
    (admitting : s.stopping = false) (alive : s.worker ≠ .exited) : s'.worker ≠ .exited := by
  have moved : ∀ {index : Nat} {phase next : WorkerPhase Op Result}, s.workers[index]? = some phase →
      phase ≠ .exited → next ≠ .exited → (s.moveWorker index next).worker ≠ .exited := by
    intro index phase next found here there
    rwa [worker_moveWorker (threads.alive found here).1]
  cases transition with
  | startRunning | startFailed | started | stopStopped | stopDrained | stopJoined | stopClosed
  | stopReturned | submitRefused | submitAccepted => exact absurd serves id
  | submitReturned | submitExpired | submitFlagged | submitGaveUp => exact alive
  | exited waiting stopping => simp [stopping] at admitting
  | dequeued found | skipping found | skipped found | skipCounted found | began found
  | exchanged _ found | ran found | flagClear found | flagSet found | counted found | settled found =>
      exact moved found (by simp) (by simp)

/-- A worker which is not idle goes on, or is about to perform an operation on the bus. -/
theorem Invariant.exists_worker_step (invariant : s.Invariant) (alive : s.worker ≠ .exited)
    (busy : s.queue ≠ [] ∨ s.worker ≠ .waiting) :
    (∃ index s', Step s (.worker index) s' ∧ s'.log = s.log) ∨
      ∃ (index : Nat) (task : TaskId) (op : Op) (next : Result op → Program Op Result Status),
        s.workers[index]? = some (.running task (.perform op next)) := by
  have called : ∀ {task : TaskId}, s.worker.owes = some task → ∃ call, s.calls[task]? = some call := by
    intro task owes
    obtain ⟨call, found, _⟩ := invariant.order.known (.inr (.inr owes))
    exact ⟨call, found⟩
  obtain ⟨phase, same⟩ : ∃ phase, s.worker = phase := ⟨_, rfl⟩
  rw [same] at alive busy called
  obtain ⟨index, found⟩ := exists_worker same alive
  cases phase with
  | waiting =>
      obtain ⟨task, rest, queued⟩ := List.exists_cons_of_ne_nil (busy.resolve_right (absurd rfl))
      exact .inl ⟨index, _, .dequeued found queued, rfl⟩
  | dequeued task =>
      obtain ⟨call, entry⟩ := called rfl
      cases flag : call.timedOut with
      | true => exact .inl ⟨index, _, .skipping found entry flag, rfl⟩
      | false => exact .inl ⟨index, _, .began found entry flag, rfl⟩
  | skipping => exact .inl ⟨index, _, .skipped found, rfl⟩
  | skipped => exact .inl ⟨index, _, .skipCounted found, rfl⟩
  | running task job =>
      cases job with
      | done status => exact .inl ⟨index, _, .ran found, rfl⟩
      | perform op next => exact .inr ⟨index, task, op, next, found⟩
  | ran task status =>
      obtain ⟨call, entry⟩ := called rfl
      cases flag : call.timedOut with
      | true => exact .inl ⟨index, _, .flagSet found entry flag, rfl⟩
      | false => exact .inl ⟨index, _, .flagClear found entry flag, rfl⟩
  | counting => exact .inl ⟨index, _, .counted found, rfl⟩
  | settling => exact .inl ⟨index, _, .settled found, rfl⟩
  | exited => exact absurd rfl alive

/-- When the worker is idle every caller inside `submit` goes on. -/
theorem Invariant.exists_caller_step (invariant : s.Invariant) (empty : s.queue = [])
    (idle : s.worker = .waiting) {task : TaskId} {call : Call Op Result}
    (found : s.calls[task]? = some call) (accepted : call.accepted = true) :
    (∃ outcome, call.phase = .returned outcome) ∨
      ∃ action s', action.Serves ∧ Step s action s' ∧ s'.log = s.log := by
  cases phase : call.phase with
  | returned outcome => exact .inl ⟨outcome, rfl⟩
  | waiting =>
      have unowed : ¬ s.Owed task := by simp [Owed, empty, idle, WorkerPhase.owes]
      obtain ⟨fulfilment, ready⟩ :=
        Option.isSome_iff_exists.mp ((invariant.promises task call found).answered accepted unowed).1
      exact .inr ⟨.submitReturned task, _, trivial, .submitReturned found phase ready, rfl⟩
  | expired => exact .inr ⟨.submitFlagged task, _, trivial, .submitFlagged found phase, rfl⟩
  | flagged => exact .inr ⟨.submitReturned task, _, trivial, .submitGaveUp found phase, rfl⟩

end Executor
end EzoProvider.Bus
