import EzoProvider.Bus.ExecutorInvariants

/-!
# Promises of the bus executor

Every accepted task is owed exactly one answer until it has it, and a call of
`submit` returns what its promise was fulfilled with. Only the drain of
`stop()`, a skip and a finished job fulfil a promise, so how a promise was
fulfilled says whether the job has run.
-/

namespace EzoProvider.Bus.Executor

open Interaction

variable {Op : Type} {Result : Op → Type} {s s' : Executor Op Result}

/-- What the executor has promised one call, and kept. -/
structure Kept (s : Executor Op Result) (task : TaskId) (call : Call Op Result) : Prop where
  owed : s.Owed task → call.promise = none ∧ call.fulfilments = 0
  answered : call.accepted = true → ¬ s.Owed task →
    call.promise.isSome = true ∧ call.fulfilments = 1
  unbegun : call.promise = some .stopped ∨ call.promise = some .skipped → task ∉ s.begun
  completed : ∀ status, call.promise = some (.completed status) → (task, status) ∈ s.ended
  refused : call.phase = .returned .refused → call.accepted = false
  delivered : ∀ fulfilment, call.phase = .returned (.fulfilled fulfilment) →
    call.promise = some fulfilment
  flagged : call.phase = .flagged ∨ call.phase = .returned .deadlineExceeded →
    call.timedOut = true

/-- Every call of `submit` so far is kept its promise. -/
def Promises (s : Executor Op Result) : Prop :=
  ∀ task call, s.calls[task]? = some call → s.Kept task call

namespace Kept

variable {task : TaskId} {call : Call Op Result}

/-- A step which leaves the call alone and begins, of unanswered tasks, at most
this one. -/
theorem carry (kept : s.Kept task call) (owed : s'.Owed task ↔ s.Owed task)
    (begun : task ∈ s'.begun → task ∈ s.begun ∨ s.Owed task)
    (ended : ∀ entry ∈ s.ended, entry ∈ s'.ended) : s'.Kept task call where
  owed still := kept.owed (owed.mp still)
  answered accepted done := kept.answered accepted fun still => done (owed.mpr still)
  unbegun promised member := by
    rcases begun member with earlier | still
    · exact kept.unbegun promised earlier
    · have unanswered := (kept.owed still).1
      simp [unanswered] at promised
  completed status promised := ended _ (kept.completed status promised)
  refused := kept.refused
  delivered := kept.delivered
  flagged := kept.flagged

/-- The caller of an unreturned call moves on, its promise as it was. -/
theorem advance (kept : s.Kept task call) {phase : SubmitPhase} {timedOut : Bool}
    (refused : phase ≠ .returned .refused)
    (delivered : ∀ fulfilment, phase = .returned (.fulfilled fulfilment) →
      call.promise = some fulfilment)
    (flagged : phase = .flagged ∨ phase = .returned .deadlineExceeded → timedOut = true) :
    s.Kept task { call with phase, timedOut } where
  owed := kept.owed
  answered := kept.answered
  unbegun := kept.unbegun
  completed := kept.completed
  refused same := absurd same refused
  delivered := delivered
  flagged := flagged

/-- The one fulfilment of a promise which was owed. -/
theorem fulfil (kept : s.Kept task call) (owed : s.Owed task) (done : ¬ s'.Owed task)
    {fulfilment : Fulfilment}
    (unbegun : fulfilment = .stopped ∨ fulfilment = .skipped → task ∉ s'.begun)
    (completed : ∀ status, fulfilment = .completed status → (task, status) ∈ s'.ended) :
    s'.Kept task (call.fulfil fulfilment) := by
  obtain ⟨unanswered, none⟩ := kept.owed owed
  have promise : (call.fulfil fulfilment).promise = some fulfilment := by
    simp [Call.fulfil, unanswered]
  refine ⟨fun still => absurd still done, ?_, ?_, ?_, kept.refused, ?_, kept.flagged⟩
  · intro _ _
    exact ⟨by simp [promise], by simp [Call.fulfil, none]⟩
  · rw [promise]
    simpa using unbegun
  · intro status
    rw [promise]
    intro same
    exact completed status (Option.some.inj same)
  · intro earlier returned
    have promised := kept.delivered earlier returned
    simp [unanswered] at promised

end Kept

namespace Promises

/-- Steps of the owner and worker threads which leave every promise alone. -/
theorem carry (promises : s.Promises) (calls : s'.calls = s.calls)
    (owed : ∀ task, s'.Owed task ↔ s.Owed task)
    (begun : ∀ task ∈ s'.begun, task ∈ s.begun ∨ s.Owed task)
    (ended : ∀ entry ∈ s.ended, entry ∈ s'.ended) : s'.Promises := by
  intro task call found
  rw [calls] at found
  exact (promises task call found).carry (owed task) (begun task) ended

/-- Steps of a caller past the critical section. -/
theorem advance (promises : s.Promises) {task : TaskId}
    {change : Call Op Result → Call Op Result} (calls : s'.calls = (s.updateCall task change).calls)
    (owed : ∀ task, s'.Owed task ↔ s.Owed task) (begun : s'.begun = s.begun)
    (ended : s'.ended = s.ended)
    (changed : ∀ call, s.calls[task]? = some call → s.Kept task (change call)) :
    s'.Promises := by
  intro other call found
  rw [calls] at found
  obtain ⟨before, foundBefore, rfl⟩ := getElem?_updateCall_cases found
  have kept : s.Kept other (if task = other then change before else before) := by
    split
    · next same =>
        subst same
        exact changed before foundBefore
    · exact promises other before foundBefore
  refine kept.carry (owed other) (fun member => .inl (begun ▸ member)) ?_
  rw [ended]
  exact fun _ => id

/-- Steps of the worker which fulfil the promise it holds. -/
theorem settle (promises : s.Promises) {task : TaskId} {fulfilment : Fulfilment}
    (calls : s'.calls = (s.updateCall task (Call.fulfil fulfilment)).calls)
    (queue : s'.queue = s.queue) (before : s.worker.owes = some task)
    (after : s'.worker.owes = none) (unqueued : task ∉ s.queue) (begun : s'.begun = s.begun)
    (ended : s'.ended = s.ended)
    (unbegun : fulfilment = .stopped ∨ fulfilment = .skipped → task ∉ s.begun)
    (completed : ∀ status, fulfilment = .completed status → (task, status) ∈ s.ended) :
    s'.Promises := by
  intro other call found
  rw [calls] at found
  obtain ⟨previous, foundBefore, rfl⟩ := getElem?_updateCall_cases found
  have kept := promises other previous foundBefore
  have owed : s'.Owed other ↔ other ∈ s.queue := by simp [Owed, queue, after]
  split
  · next same =>
      subst same
      refine kept.fulfil (.inr before) ?_ ?_ ?_
      · rw [owed]
        exact unqueued
      · rw [begun]
        exact unbegun
      · rw [ended]
        exact completed
  · next different =>
      refine kept.carry ?_ (fun member => .inl (begun ▸ member)) ?_
      · rw [owed, Owed, before]
        simp [different]
      · rw [ended]
        exact fun _ => id

theorem initial : ({} : Executor Op Result).Promises := by
  intro task call found
  simp at found

theorem step (threads : s.Threads) (order : s.Order) (promises : s.Promises) {action : Action}
    (transition : Step s action s') : s'.Promises := by
  have whole := transition
  -- A move of the worker between phases which owe the same answer.
  have move : ∀ {index : Nat} {phase next : WorkerPhase Op Result},
      s.workers[index]? = some phase → phase ≠ .exited → next.owes = phase.owes →
      ∀ task, task ∈ s.queue ∨ (s.moveWorker index next).worker.owes = some task ↔
        s.Owed task := by
    intro index phase next found alive same task
    rw [worker_moveWorker (threads.alive found alive).1, same, Owed, threads.worker_eq found alive]
  cases transition with
  | startRunning => exact promises
  | startFailed | stopStopped | stopJoined | stopClosed | stopReturned =>
      exact promises.carry rfl (fun _ => .rfl) (fun _ => .inl) fun _ => id
  | started idle stopped =>
      refine promises.carry rfl (fun task => ?_) (fun _ => .inl) fun _ => id
      rw [Owed, Owed, threads.worker_of_stopped stopped]
      simp [worker, WorkerPhase.owes]
  | stopDrained idle running =>
      intro task call found
      rw [getElem?_drain order.queue_nodup] at found
      obtain ⟨before, foundBefore, rfl⟩ := Option.map_eq_some_iff.mp found
      have kept := promises task before foundBefore
      by_cases queued : task ∈ s.queue
      · rw [if_pos queued]
        refine kept.fulfil (.inl queued) ?_ (fun _ => order.queued_not_begun queued) (by simp)
        rintro (later | owes)
        · simp at later
        · exact order.not_queued owes queued
      · rw [if_neg queued]
        refine kept.carry ?_ .inl fun _ => id
        simp [Owed, queued, worker]
  | submitRefused shut =>
      intro task call found
      rcases getElem?_append_singleton_cases found with old | ⟨rfl, rfl⟩
      · exact (promises task call old).carry .rfl .inl fun _ => id
      · refine ⟨fun owed => ?_, by simp, by simp, by simp, fun _ => rfl, by simp, by simp⟩
        exact ⟨rfl, rfl⟩
  | submitAccepted running admitting =>
      intro task call found
      rcases getElem?_append_singleton_cases found with old | ⟨rfl, rfl⟩
      · refine (promises task call old).carry ?_ .inl fun _ => id
        have known : task ≠ s.calls.length :=
          Nat.ne_of_lt (List.getElem?_eq_some_iff.mp old).1
        simp [Owed, known, worker]
      · refine ⟨fun owed => ⟨rfl, rfl⟩, ?_, by simp, by simp, by simp, by simp, by simp⟩
        intro _ done
        exact absurd (.inl (by simp)) done
  | submitReturned target waiting ready =>
      refine promises.advance rfl (fun _ => .rfl) rfl rfl fun call found => ?_
      obtain rfl : call = _ := by simpa [found] using target
      refine (promises _ _ found).advance (by simp) ?_ (by simp)
      intro fulfilment same
      cases same
      exact ready
  | submitExpired target waiting =>
      refine promises.advance rfl (fun _ => .rfl) rfl rfl fun call found => ?_
      exact (promises _ _ found).advance (by simp) (by simp) (by simp)
  | submitFlagged target expired =>
      refine promises.advance rfl (fun _ => .rfl) rfl rfl fun call found => ?_
      exact (promises _ _ found).advance (by simp) (by simp) (by simp)
  | submitGaveUp target flagged =>
      refine promises.advance rfl (fun _ => .rfl) rfl rfl fun call found => ?_
      obtain rfl : call = _ := by simpa [found] using target
      have kept := promises _ _ found
      exact kept.advance (by simp) (by simp) fun _ => kept.flagged (.inl flagged)
  | @dequeued index task rest waiting queued =>
      refine promises.carry rfl (fun other => ?_) (fun _ => .inl) fun _ => id
      have before := threads.worker_eq waiting (by simp)
      have after := (worker_moveWorker (threads.alive waiting (by simp)).1 :
        (s.moveWorker index (.dequeued task)).worker = _)
      change other ∈ rest ∨ (s.moveWorker index (.dequeued task)).worker.owes = some other ↔ _
      rw [after, Owed, before, queued]
      simp [WorkerPhase.owes, or_comm, eq_comm]
  | exited waiting | skipCounted waiting | skipping waiting | flagClear waiting
  | flagSet waiting | counted waiting | exchanged _ waiting =>
      exact promises.carry rfl (move waiting (by simp) rfl) (fun _ => .inl) fun _ => id
  | skipped skipping =>
      have before := threads.worker_eq skipping (by simp)
      have after := (worker_moveWorker (threads.alive skipping (by simp)).1 :
        (s.moveWorker _ .skipped).worker = _)
      have owes := congrArg WorkerPhase.owes before
      exact promises.settle rfl rfl owes (congrArg WorkerPhase.owes after)
        (order.not_queued owes) rfl rfl
        (fun _ => order.candidate_not_begun (congrArg WorkerPhase.candidate before)) (by simp)
  | settled settling =>
      have before := threads.worker_eq settling (by simp)
      have after := (worker_moveWorker (threads.alive settling (by simp)).1 :
        (s.moveWorker _ .waiting).worker = _)
      have owes := congrArg WorkerPhase.owes before
      have finished := order.finished (congrArg WorkerPhase.finished before)
      refine promises.settle rfl rfl owes (congrArg WorkerPhase.owes after)
        (order.not_queued owes) rfl rfl (by simp) fun status same => ?_
      cases same
      exact finished
  | @began _ task _ dequeued =>
      have before := congrArg WorkerPhase.owes (threads.worker_eq dequeued (by simp))
      refine promises.carry rfl (move dequeued (by simp) rfl) (fun other member => ?_) fun _ => id
      rcases List.mem_append.mp member with earlier | same
      · exact .inl earlier
      · obtain rfl := List.mem_singleton.mp same
        exact .inr (.inr before)
  | ran running =>
      refine promises.carry rfl (move running (by simp) rfl) (fun _ => .inl) fun entry member => ?_
      exact List.mem_append_left _ member

end Promises
end EzoProvider.Bus.Executor
