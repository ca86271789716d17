import EzoProvider.Bus.Submissions

/-!
# The turns of the worker

What one step does to the job the worker is inside of: it leaves it alone, begins
one, takes it one exchange further, or ends it. A started executor which nobody
stops answers a call with the status of its job, or its caller gives up.
-/

namespace EzoProvider.Bus

open Interaction

variable {Op : Type} {Result : Op → Type}

namespace Executor

variable {s s' : Executor Op Result} {action : Action}

/-- What becomes of the job the worker is inside of. -/
inductive Turn (s s' : Executor Op Result) : Prop where
  | kept (current : s'.worker.current = s.worker.current) (begun : s'.begun = s.begun)
      (log : s'.log = s.log) (ended : s'.ended = s.ended)
  | began {task : TaskId} {call : Call Op Result} (owes : s.worker.owes = some task)
      (before : s.worker.current = none) (found : s.calls[task]? = some call)
      (timely : call.timedOut = false) (fresh : task ∉ s.begun)
      (current : s'.worker.current = some (task, call.job))
      (begun : s'.begun = s.begun ++ [task]) (log : s'.log = s.log) (ended : s'.ended = s.ended)
  | exchanged {task : TaskId} {op : Op} {next : Result op → Program Op Result Status}
      (result : Result op) (before : s.worker.current = some (task, .perform op next))
      (current : s'.worker.current = some (task, next result)) (begun : s'.begun = s.begun)
      (log : s'.log = s.log ++ [(task, ⟨op, result⟩)]) (ended : s'.ended = s.ended)
  | ended {task : TaskId} {status : Status}
      (before : s.worker.current = some (task, .done status)) (current : s'.worker.current = none)
      (begun : s'.begun = s.begun) (log : s'.log = s.log)
      (ended : s'.ended = s.ended ++ [(task, status)])

/-- Every step gives the job of the worker its turn. -/
theorem Step.turn (invariant : s.Invariant) (transition : Step s action s') : s.Turn s' := by
  have threads := invariant.threads
  have moves : ∀ {index : Nat} {phase : WorkerPhase Op Result} (next : WorkerPhase Op Result),
      s.workers[index]? = some phase → phase ≠ .exited →
      (s.moveWorker index next).worker.current = next.current := by
    intro index phase next found alive
    rw [worker_moveWorker (threads.alive found alive).1]
  -- A move of the worker between two phases outside every job.
  have outside : ∀ {index : Nat} {phase next : WorkerPhase Op Result},
      s.workers[index]? = some phase → phase ≠ .exited → phase.current = none →
      next.current = none → (s.moveWorker index next).worker.current = s.worker.current := by
    intro index phase next found alive before after
    rw [moves next found alive, threads.worker_eq found alive, before, after]
  cases transition with
  | startRunning | startFailed | stopStopped | stopDrained | stopJoined | stopClosed
  | stopReturned | submitRefused | submitAccepted | submitReturned | submitExpired
  | submitFlagged | submitGaveUp => exact .kept rfl rfl rfl rfl
  | started idle stopped =>
      refine .kept ?_ rfl rfl rfl
      rw [threads.worker_of_stopped stopped]
      simp [worker, WorkerPhase.current]
  | dequeued moved | exited moved | skipping moved | skipped moved | skipCounted moved
  | flagClear moved | flagSet moved | counted moved | settled moved =>
      exact .kept (outside moved (by simp) rfl rfl) rfl rfl rfl
  | began dequeued found timely =>
      have phase := threads.worker_eq dequeued (by simp)
      refine .began (congrArg WorkerPhase.owes phase) (congrArg WorkerPhase.current phase) found
        timely ?_ (moves _ dequeued (by simp)) rfl rfl rfl
      exact invariant.order.candidate_not_begun (congrArg WorkerPhase.candidate phase)
  | exchanged result running =>
      exact .exchanged result (congrArg WorkerPhase.current (threads.worker_eq running (by simp)))
        (moves _ running (by simp)) rfl rfl rfl
  | ran running =>
      exact .ended (congrArg WorkerPhase.current (threads.worker_eq running (by simp)))
        (moves _ running (by simp)) rfl rfl rfl

/-- The job the worker is inside of has begun. -/
theorem Invariant.begun_of_current (invariant : s.Invariant) {task : TaskId}
    {rest : Program Op Result Status} (current : s.worker.current = some (task, rest)) :
    task ∈ s.begun := by
  refine invariant.order.executing ?_
  cases phase : s.worker <;> simp_all [WorkerPhase.current, WorkerPhase.executing]

/-- What the worker has done of the job it is inside of. -/
theorem Invariant.advances_current (invariant : s.Invariant) {task : TaskId}
    {rest : Program Op Result Status} (current : s.worker.current = some (task, rest)) :
    ∃ call, s.calls[task]? = some call ∧ call.job.Advances (s.traceOf task) rest := by
  obtain ⟨_, call, before, own, found, split, fresh, advance⟩ :=
    invariant.executions.current current
  refine ⟨call, found, ?_⟩
  rw [traceOf, split, filterMap_block fresh]
  exact advance

/-- A task which has not begun has done nothing. -/
theorem Invariant.traceOf_unbegun (invariant : s.Invariant) {task : TaskId}
    (unbegun : task ∉ s.begun) : s.traceOf task = [] := by
  refine List.filterMap_eq_nil_iff.mpr fun entry member => ?_
  have other : entry.1 ≠ task := by
    rintro rfl
    exact unbegun (invariant.executions.logged_begun entry member)
  simp [other]

/-- An answer is logged for its own task. -/
theorem traceOf_append {task other : TaskId} {exchange : Exchange Op Result}
    (log : s'.log = s.log ++ [(task, exchange)]) :
    s'.traceOf other = s.traceOf other ++ if task = other then [exchange] else [] := by
  rw [traceOf, traceOf, log, List.filterMap_append]
  split <;> simp [*]

/-- A caller which has returned with its task still owed has given it up. -/
theorem Invariant.flagged_of_returned (invariant : s.Invariant) {task : TaskId}
    {call : Call Op Result} {outcome : SubmitOutcome} (owed : s.Owed task)
    (found : s.calls[task]? = some call) (returned : call.phase = .returned outcome) :
    call.timedOut = true := by
  have kept := invariant.promises task call found
  cases outcome with
  | refused =>
      obtain ⟨_, same, accepted⟩ := invariant.order.known (.inr owed)
      obtain rfl : call = _ := by simpa [found] using same
      simp [kept.refused returned] at accepted
  | fulfilled fulfilment =>
      have promised := kept.delivered fulfilment returned
      simp [(kept.owed owed).1] at promised
  | deadlineExceeded => exact kept.flagged (.inr returned)

/-! ## Attended calls -/

end Executor

/-- A call which is answered with the status of its job, unless its caller gives up. -/
structure Call.Attended (call : Call Op Result) : Prop where
  accepted : call.accepted = true
  promised : ∀ fulfilment, call.promise = some fulfilment → call.timedOut = true ∨
    ∃ status, fulfilment = .completed status
  flagged : call.timedOut = true → call.phase = .flagged ∨ call.phase = .returned .deadlineExceeded
  returned : ∀ outcome, call.phase = .returned outcome → outcome = .deadlineExceeded ∨
    ∃ status, outcome = .fulfilled (.completed status)
  timed : call.phase = .expired ∨ call.phase = .flagged ∨
    call.phase = .returned .deadlineExceeded → 0 < call.timeout

namespace Executor

variable {s s' : Executor Op Result} {action : Action}

/-- Every call is attended to. -/
def Attends (s : Executor Op Result) : Prop :=
  ∀ (task : TaskId) (call : Call Op Result), s.calls[task]? = some call → call.Attended

/-- A change of one call which is attended to afterwards. -/
theorem Attends.updateCall (attends : s.Attends) {target : TaskId}
    {change : Call Op Result → Call Op Result}
    (changed : ∀ call, s.calls[target]? = some call → call.Attended → (change call).Attended) :
    (s.updateCall target change).Attends := by
  intro task call found
  obtain ⟨before, foundBefore, rfl⟩ := getElem?_updateCall_cases found
  have attended := attends task before foundBefore
  split
  · next same =>
      subst same
      exact changed before foundBefore attended
  · exact attended

/-- Serving keeps every call attended to. -/
theorem Attends.step (attends : s.Attends) (skips : s.SkipsFlagged)
    (transition : Step s action s') (serves : action.Serves) : s'.Attends := by
  cases transition with
  | submitReturned target waiting ready =>
      refine attends.updateCall fun call found attended => ?_
      obtain rfl : call = _ := by simpa [found] using target
      refine ⟨attended.accepted, attended.promised, fun flagged => ?_, ?_, by simp⟩
      · have phase := attended.flagged flagged
        simp [waiting] at phase
      · rintro outcome ⟨⟩
        rcases attended.promised _ ready with flagged | ⟨status, rfl⟩
        · have phase := attended.flagged flagged
          simp [waiting] at phase
        · exact .inr ⟨status, rfl⟩
  | submitExpired target waiting timed =>
      refine attends.updateCall fun call found attended => ?_
      obtain rfl : call = _ := by simpa [found] using target
      refine ⟨attended.accepted, attended.promised, fun flagged => ?_, by simp, fun _ => timed⟩
      have phase := attended.flagged flagged
      simp [waiting] at phase
  | submitFlagged target expired =>
      refine attends.updateCall fun call found attended => ?_
      obtain rfl : call = _ := by simpa [found] using target
      exact ⟨attended.accepted, fun _ _ => .inl rfl, fun _ => .inl rfl, by simp,
        fun _ => attended.timed (.inl expired)⟩
  | submitGaveUp target flagged =>
      refine attends.updateCall fun call found attended => ?_
      obtain rfl : call = _ := by simpa [found] using target
      refine ⟨attended.accepted, attended.promised, fun _ => .inr rfl, ?_,
        fun _ => attended.timed (.inr (.inl flagged))⟩
      rintro outcome ⟨⟩
      exact .inl rfl
  | skipped skipping =>
      refine attends.updateCall fun call found attended => ?_
      obtain ⟨_, same, flagged⟩ := skips _ _ skipping
      obtain rfl : call = _ := by simpa [found] using same
      exact ⟨attended.accepted, fun _ _ => .inl flagged, attended.flagged, attended.returned,
        attended.timed⟩
  | settled settling =>
      refine attends.updateCall fun call found attended => ?_
      refine ⟨attended.accepted, ?_, attended.flagged, attended.returned, attended.timed⟩
      intro fulfilment promised
      cases earlier : call.promise with
      | none =>
          simp only [Call.fulfil, earlier, Option.getD_none, Option.some.injEq] at promised
          exact .inr ⟨_, promised.symm⟩
      | some first =>
          simp only [Call.fulfil, earlier, Option.getD_some, Option.some.injEq] at promised
          obtain rfl := promised
          exact attended.promised _ earlier
  | startRunning | startFailed | started | stopStopped | stopDrained | stopJoined | stopClosed
  | stopReturned | submitRefused | submitAccepted => exact absurd serves id
  | _ => exact attends

/-- A submission to a serving executor is attended to. -/
theorem Attends.submitted (attends : s.Attends) (running : s.running = true)
    (admitting : s.stopping = false) (submission : Submission Op Result) :
    (s.submitted submission).Attends := by
  rw [Executor.submitted, if_pos ⟨running, admitting⟩]
  intro task call found
  rcases getElem?_append_singleton_cases found with old | ⟨_, rfl⟩
  · exact attends task call old
  · exact ⟨rfl, by simp, by simp, by simp, by simp⟩

end Executor
end EzoProvider.Bus
