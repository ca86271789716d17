import EzoProvider.Bus.Promises

/-!
# Executions of the bus executor

The log of bus exchanges is a sequence of blocks, one for each task begun, and
each block is a trace of that task's job. `Invariant` collects all that holds
of every reachable state.
-/

namespace EzoProvider.Bus

open Interaction

variable {Op : Type} {Result : Op → Type}

/-- The job the thread is inside of, and what is left of it. -/
def WorkerPhase.current : WorkerPhase Op Result → Option (TaskId × Program Op Result Status)
  | .running task rest => some (task, rest)
  | _ => none

namespace Executor

variable {s s' : Executor Op Result}

/-- The exchanges of `task` are the last ones of the log, and leave `rest` of its job. -/
def Progress (s : Executor Op Result) (log : List (TaskId × Exchange Op Result)) (task : TaskId)
    (rest : Program Op Result Status) : Prop :=
  ∃ call before own, s.calls[task]? = some call ∧ log = before ++ own.map (task, ·) ∧
    (∀ entry ∈ before, entry.1 ≠ task) ∧ call.job.Advances own rest

/-- The history of executions. -/
structure Executions (s : Executor Op Result) : Prop where
  ended_nodup : (s.ended.map Prod.fst).Nodup
  ended_begun : ∀ entry ∈ s.ended, entry.1 ∈ s.begun
  logged_begun : ∀ entry ∈ s.log, entry.1 ∈ s.begun
  current : ∀ {task rest}, s.worker.current = some (task, rest) →
    (∀ entry ∈ s.ended, entry.1 ≠ task) ∧ s.Progress s.log task rest
  blocks : ∀ {earlier task exchange later}, s.log = earlier ++ (task, exchange) :: later →
    ∃ rest, s.Progress (earlier ++ [(task, exchange)]) task rest
  completed : ∀ entry ∈ s.ended, ∃ call, s.calls[entry.1]? = some call ∧
    call.job.Runs (s.traceOf entry.1) entry.2

theorem Progress.extend {log : List (TaskId × Exchange Op Result)} {task : TaskId}
    {rest : Program Op Result Status} (progress : s.Progress log task rest)
    (distinct : s.queue.Nodup) {action : Action} (transition : Step s action s') :
    s'.Progress log task rest := by
  obtain ⟨call, before, own, found, split, fresh, advance⟩ := progress
  obtain ⟨after, foundAfter, extended⟩ := transition.extends_call distinct found
  exact ⟨after, before, own, foundAfter, split, fresh, extended.job ▸ advance⟩

/-- A block at the end of the log holds the whole trace of its task. -/
theorem filterMap_block {before : List (TaskId × Exchange Op Result)} {task : TaskId}
    {own : Trace Op Result} (fresh : ∀ entry ∈ before, entry.1 ≠ task) :
    ((before ++ own.map (task, ·)).filterMap fun entry =>
      if entry.1 = task then some entry.2 else none) = own := by
  rw [List.filterMap_append, List.filterMap_eq_nil_iff.mpr, List.nil_append, List.filterMap_map]
  · simp
  · intro entry member
    simp [fresh entry member]

namespace Executions

/-- Steps which neither begin, advance nor end a job. -/
theorem of_same (executions : s.Executions) (distinct : s.queue.Nodup) {action : Action}
    (transition : Step s action s') (begun : s'.begun = s.begun) (ended : s'.ended = s.ended)
    (log : s'.log = s.log) (current : ∀ job, s'.worker.current = some job →
      s.worker.current = some job) : s'.Executions where
  ended_nodup := ended ▸ executions.ended_nodup
  ended_begun := by rw [ended, begun]; exact executions.ended_begun
  logged_begun := by rw [log, begun]; exact executions.logged_begun
  current inside := by
    obtain ⟨unended, progress⟩ := executions.current (current _ inside)
    rw [ended, log]
    exact ⟨unended, progress.extend distinct transition⟩
  blocks split := by
    rw [log] at split
    obtain ⟨rest, progress⟩ := executions.blocks split
    exact ⟨rest, progress.extend distinct transition⟩
  completed := by
    rw [ended]
    intro entry member
    obtain ⟨call, found, run⟩ := executions.completed entry member
    obtain ⟨after, foundAfter, extended⟩ := transition.extends_call distinct found
    refine ⟨after, foundAfter, ?_⟩
    rw [extended.job, traceOf, log]
    exact run

/-- The worker begins a job. -/
theorem of_begin (executions : s.Executions) (distinct : s.queue.Nodup) {action : Action}
    (transition : Step s action s') {task : TaskId} {call : Call Op Result}
    (found : s'.calls[task]? = some call) (fresh : task ∉ s.begun)
    (begun : s'.begun = s.begun ++ [task]) (ended : s'.ended = s.ended) (log : s'.log = s.log)
    (after : s'.worker = .running task call.job) : s'.Executions where
  ended_nodup := ended ▸ executions.ended_nodup
  ended_begun := by
    rw [ended, begun]
    intro entry member
    exact List.mem_append_left _ (executions.ended_begun entry member)
  logged_begun := by
    rw [log, begun]
    intro entry member
    exact List.mem_append_left _ (executions.logged_begun entry member)
  current inside := by
    rw [after] at inside
    cases inside
    refine ⟨?_, call, s'.log, [], found, by simp, ?_, .refl⟩
    · rw [ended]
      rintro entry member rfl
      exact fresh (executions.ended_begun entry member)
    · rw [log]
      rintro entry member rfl
      exact fresh (executions.logged_begun entry member)
  blocks split := by
    rw [log] at split
    obtain ⟨rest, progress⟩ := executions.blocks split
    exact ⟨rest, progress.extend distinct transition⟩
  completed := by
    rw [ended]
    intro entry member
    obtain ⟨call, found, run⟩ := executions.completed entry member
    obtain ⟨later, foundAfter, extended⟩ := transition.extends_call distinct found
    refine ⟨later, foundAfter, ?_⟩
    rw [extended.job, traceOf, log]
    exact run

/-- The job of the worker performs one exchange. -/
theorem of_exchange (executions : s.Executions) (distinct : s.queue.Nodup) {action : Action}
    (transition : Step s action s') {task : TaskId} {op : Op} {result : Result op}
    {next : Result op → Program Op Result Status} (executing : task ∈ s.begun)
    (begun : s'.begun = s.begun) (ended : s'.ended = s.ended)
    (log : s'.log = s.log ++ [(task, ⟨op, result⟩)])
    (before : s.worker.current = some (task, .perform op next))
    (after : s'.worker = .running task (next result)) : s'.Executions := by
  obtain ⟨unended, progress⟩ := executions.current before
  have advanced : s'.Progress s'.log task (next result) := by
    obtain ⟨call, earlier, own, found, split, fresh, advance⟩ :=
      progress.extend distinct transition
    refine ⟨call, earlier, own ++ [⟨op, result⟩], found, ?_, fresh, ?_⟩
    · simp [log, split]
    · exact advance.trans (.perform .refl)
  refine ⟨ended ▸ executions.ended_nodup, ?_, ?_, ?_, ?_, ?_⟩
  · rw [ended, begun]
    exact executions.ended_begun
  · rw [log, begun]
    intro entry member
    rcases List.mem_append.mp member with earlier | last
    · exact executions.logged_begun entry earlier
    · obtain rfl := List.mem_singleton.mp last
      exact executing
  · intro taken rest inside
    rw [after] at inside
    cases inside
    exact ⟨ended ▸ unended, advanced⟩
  · intro earlier taken exchange later split
    rcases List.eq_nil_or_concat later with rfl | ⟨front, last, rfl⟩
    · have same : s.log = earlier ∧ (task, ⟨op, result⟩) = (taken, exchange) := by
        simpa [log] using split
      obtain ⟨rfl, rfl⟩ := Prod.mk.injEq .. ▸ same.2
      rw [← split]
      exact ⟨_, advanced⟩
    · rw [log, List.concat_eq_append, ← List.cons_append, ← List.append_assoc] at split
      obtain ⟨rest, block⟩ := executions.blocks (List.append_inj' split rfl).1
      exact ⟨rest, block.extend distinct transition⟩
  · rw [ended]
    intro entry member
    obtain ⟨call, found, run⟩ := executions.completed entry member
    obtain ⟨later, foundAfter, extended⟩ := transition.extends_call distinct found
    refine ⟨later, foundAfter, ?_⟩
    have other : task ≠ entry.1 := fun same => unended entry member same.symm
    have unchanged : s'.traceOf entry.1 = s.traceOf entry.1 := by
      simp [traceOf, log, other]
    rw [extended.job, unchanged]
    exact run

/-- The job of the worker returns. -/
theorem of_finish (executions : s.Executions) (distinct : s.queue.Nodup) {action : Action}
    (transition : Step s action s') {task : TaskId} {status : Status} (executing : task ∈ s.begun)
    (begun : s'.begun = s.begun) (ended : s'.ended = s.ended ++ [(task, status)])
    (log : s'.log = s.log) (before : s.worker.current = some (task, .done status))
    (after : s'.worker.current = none) : s'.Executions := by
  obtain ⟨unended, progress⟩ := executions.current before
  refine ⟨?_, ?_, ?_, ?_, ?_, ?_⟩
  · rw [ended, List.map_append]
    refine List.nodup_append.mpr ⟨executions.ended_nodup, by simp, ?_⟩
    intro earlier member last same
    obtain rfl := List.mem_singleton.mp same
    obtain ⟨entry, found, rfl⟩ := List.mem_map.mp member
    exact unended entry found
  · rw [ended, begun]
    intro entry member
    rcases List.mem_append.mp member with earlier | last
    · exact executions.ended_begun entry earlier
    · obtain rfl := List.mem_singleton.mp last
      exact executing
  · rw [log, begun]
    exact executions.logged_begun
  · intro taken rest inside
    simp [after] at inside
  · intro earlier taken exchange later split
    rw [log] at split
    obtain ⟨rest, block⟩ := executions.blocks split
    exact ⟨rest, block.extend distinct transition⟩
  · rw [ended]
    intro entry member
    rcases List.mem_append.mp member with earlier | last
    · obtain ⟨call, found, run⟩ := executions.completed entry earlier
      obtain ⟨later, foundAfter, extended⟩ := transition.extends_call distinct found
      refine ⟨later, foundAfter, ?_⟩
      rw [extended.job, traceOf, log]
      exact run
    · obtain rfl := List.mem_singleton.mp last
      obtain ⟨call, front, own, found, split, fresh, advance⟩ :=
        progress.extend distinct transition
      refine ⟨call, found, ?_⟩
      rw [traceOf, log, split, filterMap_block fresh]
      exact advance

theorem initial : ({} : Executor Op Result).Executions where
  ended_nodup := .nil
  ended_begun := by simp
  logged_begun := by simp
  current inside := by simp [worker, WorkerPhase.current] at inside
  blocks split := by simp at split
  completed := by simp

theorem step (threads : s.Threads) (order : s.Order) (executions : s.Executions)
    {action : Action} (transition : Step s action s') : s'.Executions := by
  have whole := transition
  have distinct := order.queue_nodup
  -- A move of the worker to a phase outside every job.
  have leave : ∀ {index : Nat} {phase next : WorkerPhase Op Result},
      s.workers[index]? = some phase → phase ≠ .exited → next.current = none →
      ∀ job, (s.moveWorker index next).worker.current = some job →
        s.worker.current = some job := by
    intro index phase next found alive outside job inside
    rw [worker_moveWorker (threads.alive found alive).1, outside] at inside
    simp at inside
  cases transition with
  | startRunning => exact executions
  | startFailed | stopStopped | stopDrained | stopJoined | stopClosed | stopReturned
  | submitRefused | submitAccepted | submitReturned | submitExpired | submitFlagged
  | submitGaveUp =>
      exact executions.of_same distinct whole rfl rfl rfl fun _ => id
  | started idle stopped =>
      refine executions.of_same distinct whole rfl rfl rfl fun job inside => ?_
      simp [worker, WorkerPhase.current] at inside
  | dequeued moved | exited moved | skipping moved | skipped moved | skipCounted moved
  | flagClear moved | flagSet moved | counted moved | settled moved =>
      exact executions.of_same distinct whole rfl rfl rfl (leave moved (by simp) rfl)
  | began dequeued found =>
      have before := congrArg WorkerPhase.candidate (threads.worker_eq dequeued (by simp))
      exact executions.of_begin distinct whole found (order.candidate_not_begun before) rfl rfl rfl
        (worker_moveWorker (threads.alive dequeued (by simp)).1)
  | exchanged result running =>
      have before := threads.worker_eq running (by simp)
      exact executions.of_exchange distinct whole
        (order.executing (congrArg WorkerPhase.executing before)) rfl rfl rfl
        (congrArg WorkerPhase.current before)
        (worker_moveWorker (threads.alive running (by simp)).1)
  | @ran index task status running =>
      have before := threads.worker_eq running (by simp)
      have after := (worker_moveWorker (threads.alive running (by simp)).1 :
        (s.moveWorker index (.ran task status)).worker = _)
      exact executions.of_finish distinct whole
        (order.executing (congrArg WorkerPhase.executing before)) rfl rfl rfl
        (congrArg WorkerPhase.current before) (congrArg WorkerPhase.current after)

end Executions

/-- Every trace of the job a worker is inside of is a run of the executor. -/
theorem steps_of_advances {index : Nat} {task : TaskId} {job rest : Program Op Result Status}
    {trace : Trace Op Result} (running : s.workers[index]? = some (.running task job))
    (advance : job.Advances trace rest) :
    ∃ actions s', (system Op Result).Steps s actions s' ∧ s'.calls = s.calls ∧
      s'.log = s.log ++ trace.map (task, ·) := by
  induction advance generalizing s with
  | refl => exact ⟨[], s, .refl, rfl, by simp⟩
  | @perform op next result tail rest later ih =>
      have within := (List.getElem?_eq_some_iff.mp running).1
      have step : (system Op Result).Step s _ _ := Step.exchanged result running
      obtain ⟨actions, s', steps, calls, log⟩ := @ih { s.moveWorker index
        (.running task (next result)) with log := s.log ++ [(task, ⟨op, result⟩)] }
        (by simp [moveWorker, within])
      exact ⟨_, s', (TransitionSystem.Steps.single step).trans steps, calls, by simp [log]⟩

/-! ## Reachable states -/

/-- What holds of the executor at every point of every run. -/
structure Invariant (s : Executor Op Result) : Prop where
  threads : s.Threads
  order : s.Order
  promises : s.Promises
  executions : s.Executions

theorem Invariant.step (invariant : s.Invariant) {action : Action}
    (transition : Step s action s') : s'.Invariant where
  threads := invariant.threads.step transition
  order := invariant.order.step invariant.threads transition
  promises := invariant.promises.step invariant.threads invariant.order transition
  executions := invariant.executions.step invariant.threads invariant.order transition

theorem invariant_of_reachable (reachable : (system Op Result).Reachable s) : s.Invariant := by
  refine reachable.holds ?_ fun invariant transition => invariant.step transition
  rintro _ rfl
  exact ⟨.initial, .initial, .initial, .initial⟩

/-- Every trace of every job is logged in some run. -/
theorem exists_reachable_log {job rest : Program Op Result Status} {trace : Trace Op Result}
    (advance : job.Advances trace rest) :
    ∃ s call, (system Op Result).Reachable s ∧ s.calls[0]? = some call ∧ call.job = job ∧
      s.log = trace.map (0, ·) := by
  let system := system Op Result
  have started : system.Steps {} _ _ := .single (Step.started rfl rfl)
  have submitted : system.Steps {} _ _ :=
    started.step (@Step.submitAccepted _ _ _ "job" job 0 rfl rfl)
  have dequeued : system.Steps {} _ _ := submitted.step (@Step.dequeued _ _ _ 0 _ _ rfl rfl)
  have began : system.Steps {} _ _ := dequeued.step (@Step.began _ _ _ 0 _ _ rfl rfl rfl)
  obtain ⟨middle, actions, call, steps, running, found, job, log⟩ :
      ∃ (middle : Executor Op Result) (actions : List Action) (call : Call Op Result),
        system.Steps {} actions middle ∧ middle.workers[0]? = some (.running 0 job) ∧
          middle.calls[0]? = some call ∧ call.job = job ∧ middle.log = [] :=
    ⟨_, _, _, began, rfl, rfl, rfl, rfl⟩
  obtain ⟨later, s, executed, calls, logged⟩ := steps_of_advances running advance
  exact ⟨s, call, ⟨_, _, rfl, steps.trans executed⟩, by rw [calls, found], job, by simp [logged, log]⟩

/-- Everything the executor logged before an exchange of a task is other tasks'
blocks and then, uninterrupted, what the task did before. -/
theorem Invariant.block (invariant : s.Invariant)
    {earlier later : List (TaskId × Exchange Op Result)} {task : TaskId}
    {exchange : Exchange Op Result} (logged : s.log = earlier ++ (task, exchange) :: later) :
    ∃ call before own rest, s.calls[task]? = some call ∧ earlier = before ++ own.map (task, ·) ∧
      (∀ entry ∈ before, entry.1 ≠ task) ∧ call.job.Advances (own ++ [exchange]) rest := by
  obtain ⟨rest, call, before, own, found, split, fresh, advance⟩ :=
    invariant.executions.blocks logged
  rcases List.eq_nil_or_concat own with rfl | ⟨own, last, rfl⟩
  · have member : (task, exchange) ∈ before := by
      rw [List.map_nil, List.append_nil] at split
      simp [← split]
    exact absurd rfl (fresh _ member)
  · rw [List.concat_eq_append, List.map_append, ← List.append_assoc] at split
    obtain ⟨rfl, same⟩ := List.append_inj' split rfl
    obtain rfl : exchange = last := by simpa using same
    exact ⟨call, before, own, rest, found, rfl, fresh, by simpa using advance⟩

end Executor
end EzoProvider.Bus
