import Mathlib.Data.List.Nodup
import EzoProvider.Bus.Executor

/-!
# Invariants of the bus executor

`Threads` says which threads can be where, `Order` that tasks are begun in the
order of their submission, `Promises` that every accepted task is owed exactly
one answer until it has it, and `Executions` that the log is a sequence of
uninterrupted executions. Each is kept by every step; `Threads` comes first,
since it leaves a single live worker thread for the others to speak about.
-/

namespace EzoProvider.Bus

open Interaction

variable {Op : Type} {Result : Op → Type}

/-! ## List entries after an update -/

theorem getElem?_set_cases {α : Type} {entries : List α} {i j : Nat} {new entry : α}
    (found : (entries.set i new)[j]? = some entry) :
    (i = j ∧ entry = new) ∨ (i ≠ j ∧ entries[j]? = some entry) := by
  rw [List.getElem?_set] at found
  by_cases same : i = j
  · subst same
    by_cases within : i < entries.length
    · simp only [↓reduceIte, within, Option.some.injEq] at found
      exact .inl ⟨rfl, found.symm⟩
    · simp [within] at found
  · rw [if_neg same] at found
    exact .inr ⟨same, found⟩

theorem getElem?_append_singleton_cases {α : Type} {entries : List α} {j : Nat} {new entry : α}
    (found : (entries ++ [new])[j]? = some entry) :
    entries[j]? = some entry ∨ (j = entries.length ∧ entry = new) := by
  rw [List.getElem?_append] at found
  split at found
  · exact .inl found
  · have within : j - entries.length < 1 := by
      simpa using (List.getElem?_eq_some_iff.mp found).1
    have position : j - entries.length = 0 := by omega
    rw [position] at found
    exact .inr ⟨by omega, by simpa using found.symm⟩

/-! ## Views of a worker thread -/

namespace WorkerPhase

/-- The task whose promise the thread still has to fulfil. -/
def owes : WorkerPhase Op Result → Option TaskId
  | .dequeued task | .skipping task | .running task _ | .ran task _
  | .counting task _ | .settling task _ => some task
  | .waiting | .skipped | .exited => none

/-- The dequeued task whose job the thread has not begun. -/
def candidate : WorkerPhase Op Result → Option TaskId
  | .dequeued task | .skipping task => some task
  | _ => none

/-- The task whose job the thread has begun and not answered yet. -/
def executing : WorkerPhase Op Result → Option TaskId
  | .running task _ | .ran task _ | .counting task _ | .settling task _ => some task
  | _ => none

/-- The job that has returned, with its status. -/
def finished : WorkerPhase Op Result → Option (TaskId × Status)
  | .ran task status | .counting task status | .settling task status => some (task, status)
  | _ => none

theorem owes_of_candidate {phase : WorkerPhase Op Result} {task : TaskId}
    (candidate : phase.candidate = some task) : phase.owes = some task := by
  cases phase <;> simp_all [WorkerPhase.candidate, owes]

theorem owes_of_executing {phase : WorkerPhase Op Result} {task : TaskId}
    (executing : phase.executing = some task) : phase.owes = some task := by
  cases phase <;> simp_all [WorkerPhase.executing, owes]

theorem executing_of_finished {phase : WorkerPhase Op Result} {task : TaskId} {status : Status}
    (finished : phase.finished = some (task, status)) : phase.executing = some task := by
  cases phase <;> simp_all [WorkerPhase.finished, executing]

theorem candidate_or_executing {phase : WorkerPhase Op Result} {task : TaskId}
    (owes : phase.owes = some task) :
    phase.candidate = some task ∨ phase.executing = some task := by
  cases phase <;> simp_all [WorkerPhase.candidate, WorkerPhase.owes, executing]

end WorkerPhase

namespace Executor

/-- The worker thread spawned last; the only one alive, by `Threads`. -/
def worker (s : Executor Op Result) : WorkerPhase Op Result := s.workers.getLast?.getD .exited

/-- The task is accepted and its promise is still open. -/
def Owed (s : Executor Op Result) (task : TaskId) : Prop :=
  task ∈ s.queue ∨ s.worker.owes = some task

/-- The bus exchanges of one task. -/
def traceOf (s : Executor Op Result) (task : TaskId) : Trace Op Result :=
  s.log.filterMap fun entry => if entry.1 = task then some entry.2 else none

@[simp] theorem worker_updateCall (s : Executor Op Result) (task : TaskId)
    (change : Call Op Result → Call Op Result) : (s.updateCall task change).worker = s.worker := rfl

theorem worker_moveWorker {s : Executor Op Result} {index : Nat} {phase : WorkerPhase Op Result}
    (last : index + 1 = s.workers.length) : (s.moveWorker index phase).worker = phase := by
  have within : index < s.workers.length := by omega
  have final : s.workers.length - 1 = index := by omega
  simp [worker, moveWorker, List.getLast?_eq_getElem?, final, within]

/-! ## Threads -/

/-- Where the threads can be together. -/
structure Threads (s : Executor Op Result) : Prop where
  alive : ∀ {index phase}, s.workers[index]? = some phase → phase ≠ .exited →
    index + 1 = s.workers.length ∧ s.running = true ∧ (s.owner = .idle ∨ s.owner = .joining)
  inside : s.owner ≠ .idle → s.running = true ∧ s.stopping = true
  outside : s.owner = .idle → s.stopping = false
  busOpen : s.running = true → s.owner ≠ .finishing → s.busOpen = true
  drained : s.running = false ∨ s.stopping = true → s.queue = []

namespace Threads

variable {s s' : Executor Op Result}

/-- A live worker thread is the one spawned last. -/
theorem worker_eq (threads : s.Threads) {index : Nat} {phase : WorkerPhase Op Result}
    (found : s.workers[index]? = some phase) (alive : phase ≠ .exited) : s.worker = phase := by
  have last := (threads.alive found alive).1
  have final : s.workers.length - 1 = index := by omega
  simp [worker, List.getLast?_eq_getElem?, final, found]

/-- With no live last worker there is no live worker. -/
theorem all_exited (threads : s.Threads) (last : s.worker = .exited) {index : Nat}
    {phase : WorkerPhase Op Result} (found : s.workers[index]? = some phase) :
    phase = .exited := by
  by_contra alive
  exact alive ((threads.worker_eq found alive).symm.trans last)

/-- Outside `start()` and `stop()` a stopped executor has no live worker. -/
theorem exited_of_stopped (threads : s.Threads) (stopped : s.running = false) {index : Nat}
    {phase : WorkerPhase Op Result} (found : s.workers[index]? = some phase) :
    phase = .exited := by
  by_contra alive
  have running := (threads.alive found alive).2.1
  simp [stopped] at running

/-- A stopped executor has no worker. -/
theorem worker_of_stopped (threads : s.Threads) (stopped : s.running = false) :
    s.worker = .exited := by
  cases last : s.workers.getLast? with
  | none => simp [worker, last]
  | some phase =>
      rw [List.getLast?_eq_getElem?] at last
      obtain rfl := threads.exited_of_stopped stopped last
      simp [worker, List.getLast?_eq_getElem?, last]

theorem initial : ({} : Executor Op Result).Threads where
  alive found := by simp at found
  inside away := absurd rfl away
  outside _ := rfl
  busOpen running := by simp at running
  drained _ := rfl

/-- Moving a live worker keeps the thread structure. -/
theorem move (threads : s.Threads) {index : Nat} {phase next : WorkerPhase Op Result}
    (found : s.workers[index]? = some phase) (alive : phase ≠ .exited) :
    (s.moveWorker index next).Threads where
  alive entry live := by
    rcases getElem?_set_cases entry with ⟨rfl, _⟩ | ⟨_, other⟩
    · simpa [moveWorker] using threads.alive found alive
    · simpa [moveWorker] using threads.alive other live
  inside := threads.inside
  outside := threads.outside
  busOpen := threads.busOpen
  drained := threads.drained

theorem step (threads : s.Threads) {action : Action} (transition : Step s action s') :
    s'.Threads := by
  cases transition with
  | startRunning => exact threads
  | startFailed =>
      exact ⟨threads.alive, threads.inside, threads.outside, threads.busOpen, threads.drained⟩
  | started idle stopped =>
      refine ⟨?_, fun away => absurd idle away, fun _ => rfl, fun _ _ => rfl, ?_⟩
      · intro index phase found alive
        rcases getElem?_append_singleton_cases found with old | ⟨rfl, rfl⟩
        · exact absurd (threads.exited_of_stopped stopped old) alive
        · exact ⟨by simp, rfl, .inl idle⟩
      · intro _
        exact threads.drained (.inl stopped)
  | stopStopped idle stopped =>
      refine ⟨threads.alive, threads.inside, threads.outside, ?_, threads.drained⟩
      intro running
      simp [stopped] at running
  | stopDrained idle running =>
      refine ⟨?_, fun _ => ⟨running, rfl⟩, by simp, ?_, fun _ => rfl⟩
      · intro index phase found alive
        exact ⟨(threads.alive found alive).1, running, .inr rfl⟩
      · intro _ _
        exact threads.busOpen running (by simp [idle])
  | stopJoined joining exited =>
      have gone : s.worker = .exited := by simp [worker, exited]
      have inside := threads.inside (by simp [joining])
      refine ⟨?_, fun _ => inside, by simp, ?_, threads.drained⟩
      · intro index phase found alive
        exact absurd (threads.all_exited gone found) alive
      · intro running _
        exact threads.busOpen running (by simp [joining])
  | stopClosed closing =>
      have inside := threads.inside (by simp [closing])
      refine ⟨?_, fun _ => inside, by simp, by simp, threads.drained⟩
      intro index phase found alive
      rcases (threads.alive found alive).2.2 with idle | joining
      · simp [idle] at closing
      · simp [joining] at closing
  | stopReturned finishing =>
      refine ⟨?_, by simp, fun _ => rfl, by simp, ?_⟩
      · intro index phase found alive
        rcases (threads.alive found alive).2.2 with idle | joining
        · simp [idle] at finishing
        · simp [joining] at finishing
      · intro _
        exact threads.drained (.inr (threads.inside (by simp [finishing])).2)
  | submitRefused =>
      exact ⟨threads.alive, threads.inside, threads.outside, threads.busOpen, threads.drained⟩
  | submitAccepted running admitting =>
      refine ⟨threads.alive, threads.inside, threads.outside, threads.busOpen, ?_⟩
      simp [running, admitting]
  | submitReturned | submitExpired | submitFlagged | submitGaveUp =>
      exact ⟨threads.alive, threads.inside, threads.outside, threads.busOpen, threads.drained⟩
  | dequeued waiting queued =>
      obtain ⟨alive, inside, outside, busOpen, drained⟩ := threads.move waiting (by simp)
      refine ⟨alive, inside, outside, busOpen, ?_⟩
      intro shut
      have empty := threads.drained shut
      simp [queued] at empty
  | exited waiting => exact threads.move waiting (by simp)
  | skipping dequeued | began dequeued =>
      obtain ⟨alive, inside, outside, busOpen, drained⟩ := threads.move dequeued (by simp)
      exact ⟨alive, inside, outside, busOpen, drained⟩
  | skipped skipping =>
      obtain ⟨alive, inside, outside, busOpen, drained⟩ := threads.move skipping (by simp)
      exact ⟨alive, inside, outside, busOpen, drained⟩
  | skipCounted skipped =>
      obtain ⟨alive, inside, outside, busOpen, drained⟩ := threads.move skipped (by simp)
      exact ⟨alive, inside, outside, busOpen, drained⟩
  | exchanged _ running | ran running =>
      obtain ⟨alive, inside, outside, busOpen, drained⟩ := threads.move running (by simp)
      exact ⟨alive, inside, outside, busOpen, drained⟩
  | flagClear ran | flagSet ran => exact threads.move ran (by simp)
  | counted counting =>
      obtain ⟨alive, inside, outside, busOpen, drained⟩ := threads.move counting (by simp)
      exact ⟨alive, inside, outside, busOpen, drained⟩
  | settled settling =>
      obtain ⟨alive, inside, outside, busOpen, drained⟩ := threads.move settling (by simp)
      exact ⟨alive, inside, outside, busOpen, drained⟩

end Threads

/-! ## Calls of submit -/

end Executor

/-- What can become of a call: its request is fixed, and its flag, its promise and
its return are final. -/
structure Call.Extends (before after : Call Op Result) : Prop where
  job : after.job = before.job
  accepted : after.accepted = before.accepted
  timedOut : before.timedOut = true → after.timedOut = true
  promise : ∀ fulfilment, before.promise = some fulfilment → after.promise = some fulfilment
  returned : ∀ outcome, before.phase = .returned outcome → after.phase = .returned outcome

theorem Call.Extends.refl (call : Call Op Result) : call.Extends call :=
  ⟨rfl, rfl, id, fun _ => id, fun _ => id⟩

theorem Call.Extends.trans {before middle after : Call Op Result} (first : before.Extends middle)
    (second : middle.Extends after) : before.Extends after where
  job := second.job.trans first.job
  accepted := second.accepted.trans first.accepted
  timedOut set := second.timedOut (first.timedOut set)
  promise fulfilment promised := second.promise fulfilment (first.promise fulfilment promised)
  returned outcome same := second.returned outcome (first.returned outcome same)

theorem Call.extends_fulfil (call : Call Op Result) (fulfilment : Fulfilment) :
    call.Extends (call.fulfil fulfilment) := by
  refine ⟨rfl, rfl, id, ?_, fun _ => id⟩
  intro earlier promised
  simp [Call.fulfil, promised]

namespace Executor

variable {s s' : Executor Op Result}

theorem getElem?_updateCall_cases {task other : TaskId} {change : Call Op Result → Call Op Result}
    {call : Call Op Result} (found : (s.updateCall task change).calls[other]? = some call) :
    ∃ before, s.calls[other]? = some before ∧
      call = if task = other then change before else before := by
  rw [updateCall, List.getElem?_modify] at found
  cases entry : s.calls[other]? with
  | none => simp [entry] at found
  | some before =>
      refine ⟨before, rfl, ?_⟩
      simpa [entry, eq_comm] using found

/-- The drain loop fulfils each promise it was handed, once. -/
theorem getElem?_drain {pending : List TaskId} (distinct : pending.Nodup)
    (calls : List (Call Op Result)) (task : TaskId) :
    (drain calls pending)[task]? = calls[task]?.map fun call =>
      if task ∈ pending then call.fulfil .stopped else call := by
  induction pending generalizing calls with
  | nil => simp [drain]
  | cons head rest ih =>
      obtain ⟨fresh, distinctRest⟩ := List.nodup_cons.mp distinct
      have unfolded : drain calls (head :: rest) =
          drain (calls.modify head (Call.fulfil .stopped)) rest := rfl
      rw [unfolded, ih distinctRest, List.getElem?_modify, Option.map_eq_map, Option.map_map]
      congr 1
      funext call
      by_cases same : head = task
      · subst same
        simp [fresh]
      · simp [same, Ne.symm same]

/-! ## Order -/

/-- Tasks are begun in the order in which they were submitted. -/
structure Order (s : Executor Op Result) : Prop where
  begun : s.begun.Pairwise (· < ·)
  queue : s.queue.Pairwise (· < ·)
  begun_queue : ∀ early ∈ s.begun, ∀ late ∈ s.queue, early < late
  candidate : ∀ {task}, s.worker.candidate = some task →
    (∀ early ∈ s.begun, early < task) ∧ ∀ late ∈ s.queue, task < late
  executing : ∀ {task}, s.worker.executing = some task → task ∈ s.begun
  finished : ∀ {entry}, s.worker.finished = some entry → entry ∈ s.ended
  known : ∀ {task}, task ∈ s.begun ∨ s.Owed task →
    ∃ call, s.calls[task]? = some call ∧ call.accepted = true

/-- Every step leaves each call as it is or extends it. -/
theorem Step.extends_call (distinct : s.queue.Nodup) {action : Action}
    (transition : Step s action s') {task : TaskId} {call : Call Op Result}
    (found : s.calls[task]? = some call) :
    ∃ after, s'.calls[task]? = some after ∧ call.Extends after := by
  have modified : ∀ {target : TaskId} {change : Call Op Result → Call Op Result},
      (target = task → call.Extends (change call)) →
      ∃ after, (s.updateCall target change).calls[task]? = some after ∧ call.Extends after := by
    intro target change keeps
    simp only [updateCall, List.getElem?_modify, found]
    by_cases same : target = task
    · exact ⟨change call, by simp [same], keeps same⟩
    · exact ⟨call, by simp [same], .refl call⟩
  have appended : ∀ new : Call Op Result,
      ∃ after, (s.calls ++ [new])[task]? = some after ∧ call.Extends after := by
    intro new
    have within := (List.getElem?_eq_some_iff.mp found).1
    exact ⟨call, by rw [List.getElem?_append_left within, found], .refl call⟩
  cases transition with
  | stopDrained =>
      refine ⟨_, by rw [getElem?_drain distinct, found]; rfl, ?_⟩
      split
      · exact call.extends_fulfil _
      · exact .refl call
  | submitRefused | submitAccepted => exact appended _
  | submitReturned target waiting ready =>
      apply modified
      rintro rfl
      obtain rfl : call = _ := by simpa [found] using target
      exact ⟨rfl, rfl, id, fun _ => id, fun _ same => by simp [waiting] at same⟩
  | submitExpired target waiting =>
      apply modified
      rintro rfl
      obtain rfl : call = _ := by simpa [found] using target
      exact ⟨rfl, rfl, id, fun _ => id, fun _ same => by simp [waiting] at same⟩
  | submitFlagged target expired =>
      apply modified
      rintro rfl
      obtain rfl : call = _ := by simpa [found] using target
      exact ⟨rfl, rfl, fun _ => rfl, fun _ => id, fun _ same => by simp [expired] at same⟩
  | submitGaveUp target flagged =>
      apply modified
      rintro rfl
      obtain rfl : call = _ := by simpa [found] using target
      exact ⟨rfl, rfl, id, fun _ => id, fun _ same => by simp [flagged] at same⟩
  | skipped => exact modified fun _ => call.extends_fulfil _
  | settled => exact modified fun _ => call.extends_fulfil _
  | _ => exact ⟨call, found, .refl call⟩

namespace Order

/-- A task the worker still owes an answer is not queued any more. -/
theorem not_queued (order : s.Order) {task : TaskId} (owes : s.worker.owes = some task) :
    task ∉ s.queue := by
  intro queued
  rcases WorkerPhase.candidate_or_executing owes with candidate | executing
  · exact Nat.lt_irrefl _ ((order.candidate candidate).2 task queued)
  · exact Nat.lt_irrefl _ (order.begun_queue task (order.executing executing) task queued)

theorem queue_nodup (order : s.Order) : s.queue.Nodup :=
  order.queue.imp fun less => Nat.ne_of_lt less

theorem candidate_not_begun (order : s.Order) {task : TaskId}
    (candidate : s.worker.candidate = some task) : task ∉ s.begun :=
  fun begun => Nat.lt_irrefl _ ((order.candidate candidate).1 task begun)

theorem queued_not_begun (order : s.Order) {task : TaskId} (queued : task ∈ s.queue) :
    task ∉ s.begun :=
  fun begun => Nat.lt_irrefl _ (order.begun_queue task begun task queued)

/-- Identifiers in use are below the next one. -/
theorem known_lt (order : s.Order) {task : TaskId} (used : task ∈ s.begun ∨ s.Owed task) :
    task < s.calls.length := by
  obtain ⟨call, found, _⟩ := order.known used
  exact (List.getElem?_eq_some_iff.mp found).1

/-- Steps which touch no queue, no history and no task of the worker keep the order. -/
theorem of_same (order : s.Order) {action : Action} (transition : Step s action s')
    (begun : s'.begun = s.begun) (queue : s'.queue = s.queue) (ended : s'.ended = s.ended)
    (candidate : s'.worker.candidate = s.worker.candidate)
    (executing : s'.worker.executing = s.worker.executing)
    (finished : s'.worker.finished = s.worker.finished)
    (owes : s'.worker.owes = s.worker.owes) : s'.Order where
  begun := begun ▸ order.begun
  queue := queue ▸ order.queue
  begun_queue := by rw [begun, queue]; exact order.begun_queue
  candidate := by rw [begun, queue, candidate]; exact order.candidate
  executing := by rw [begun, executing]; exact order.executing
  finished := by rw [ended, finished]; exact order.finished
  known := by
    intro task used
    have before : task ∈ s.begun ∨ s.Owed task := by
      simpa only [Owed, begun, queue, owes] using used
    obtain ⟨call, found, accepted⟩ := order.known before
    obtain ⟨after, foundAfter, extended⟩ := transition.extends_call order.queue_nodup found
    exact ⟨after, foundAfter, extended.accepted.trans accepted⟩

theorem initial : ({} : Executor Op Result).Order where
  begun := .nil
  queue := .nil
  begun_queue := by simp
  candidate := by simp [worker, WorkerPhase.candidate]
  executing := by simp [worker, WorkerPhase.executing]
  finished := by simp [worker, WorkerPhase.finished]
  known := by simp [Owed, worker, WorkerPhase.owes]

/-- Every known task stays known to a step which only adds an accepted one. -/
theorem known_step (order : s.Order) {action : Action} (transition : Step s action s')
    {task : TaskId} (used : task ∈ s.begun ∨ s.Owed task) :
    ∃ call, s'.calls[task]? = some call ∧ call.accepted = true := by
  obtain ⟨call, found, accepted⟩ := order.known used
  obtain ⟨after, foundAfter, extended⟩ := transition.extends_call order.queue_nodup found
  exact ⟨after, foundAfter, extended.accepted.trans accepted⟩

/-- A worker step between two phases with the same view of its task. -/
theorem of_move (order : s.Order) (threads : s.Threads) {action : Action}
    (transition : Step s action s') {index : Nat} {phase next : WorkerPhase Op Result}
    (found : s.workers[index]? = some phase) (alive : phase ≠ .exited)
    (moved : s'.workers = s.workers.set index next) (begun : s'.begun = s.begun)
    (queue : s'.queue = s.queue) (ended : s'.ended = s.ended)
    (candidate : next.candidate = phase.candidate) (executing : next.executing = phase.executing)
    (finished : next.finished = phase.finished) (owes : next.owes = phase.owes) : s'.Order := by
  have before := threads.worker_eq found alive
  have after : s'.worker = next := by
    rw [worker, moved]
    exact worker_moveWorker (threads.alive found alive).1
  apply order.of_same transition begun queue ended <;> rw [after, before] <;> assumption

/-- A worker step after which no task is held. -/
theorem of_release (order : s.Order) {action : Action} (transition : Step s action s')
    (begun : s'.begun = s.begun) (queue : s'.queue = s.queue)
    (released : s'.worker.owes = none) : s'.Order where
  begun := begun ▸ order.begun
  queue := queue ▸ order.queue
  begun_queue := by rw [begun, queue]; exact order.begun_queue
  candidate held := by
    have owes := WorkerPhase.owes_of_candidate held
    simp [released] at owes
  executing held := by
    have owes := WorkerPhase.owes_of_executing held
    simp [released] at owes
  finished held := by
    have owes := WorkerPhase.owes_of_executing (WorkerPhase.executing_of_finished held)
    simp [released] at owes
  known := by
    intro task used
    apply order.known_step transition
    rw [Owed, begun, queue, released] at used
    rcases used with begun | queued | owes
    · exact .inl begun
    · exact .inr (.inl queued)
    · simp at owes

/-- The worker takes the head of the queue. -/
theorem of_dequeue (order : s.Order) {action : Action} (transition : Step s action s')
    {task : TaskId} (queued : s.queue = task :: s'.queue) (begun : s'.begun = s.begun)
    (after : s'.worker = .dequeued task) : s'.Order := by
  have sorted := order.queue
  rw [queued, List.pairwise_cons] at sorted
  refine ⟨begun ▸ order.begun, sorted.2, ?_, ?_, ?_, ?_, ?_⟩
  · intro early earlier late later
    exact order.begun_queue early (begun ▸ earlier) late (by simp [queued, later])
  · intro taken candidate
    rw [after] at candidate
    cases candidate
    refine ⟨fun early earlier => ?_, sorted.1⟩
    exact order.begun_queue early (begun ▸ earlier) task (by simp [queued])
  · intro taken executing
    simp [after, WorkerPhase.executing] at executing
  · intro entry finished
    simp [after, WorkerPhase.finished] at finished
  · intro taken used
    apply order.known_step transition
    rcases used with earlier | later | owes
    · exact .inl (begun ▸ earlier)
    · exact .inr (.inl (by simp [queued, later]))
    · rw [after] at owes
      cases owes
      exact .inr (.inl (by simp [queued]))

/-- The worker begins the job of the task it took. -/
theorem of_begin (order : s.Order) {action : Action} (transition : Step s action s')
    {task : TaskId} {job : Program Op Result Status} (queue : s'.queue = s.queue)
    (begun : s'.begun = s.begun ++ [task]) (before : s.worker.candidate = some task)
    (after : s'.worker = .running task job) : s'.Order := by
  obtain ⟨earlier, later⟩ := order.candidate before
  refine ⟨?_, queue ▸ order.queue, ?_, ?_, ?_, ?_, ?_⟩
  · rw [begun]
    refine List.pairwise_append.mpr ⟨order.begun, by simp, ?_⟩
    intro early member last same
    obtain rfl := List.mem_singleton.mp same
    exact earlier early member
  · rw [begun, queue]
    intro early member late queued
    rcases List.mem_append.mp member with member | same
    · exact order.begun_queue early member late queued
    · obtain rfl := List.mem_singleton.mp same
      exact later late queued
  · intro taken candidate
    simp [after, WorkerPhase.candidate] at candidate
  · intro taken executing
    rw [after] at executing
    cases executing
    simp [begun]
  · intro entry finished
    simp [after, WorkerPhase.finished] at finished
  · intro taken used
    have owed := WorkerPhase.owes_of_candidate before
    apply order.known_step transition
    rw [Owed, begun, queue, after] at used
    rcases used with member | queued | owes
    · rcases List.mem_append.mp member with member | same
      · exact .inl member
      · obtain rfl := List.mem_singleton.mp same
        exact .inr (.inr owed)
    · exact .inr (.inl queued)
    · cases owes
      exact .inr (.inr owed)

/-- The job of the worker returns. -/
theorem of_finish (order : s.Order) {action : Action} (transition : Step s action s')
    {task : TaskId} {status : Status} (queue : s'.queue = s.queue) (begun : s'.begun = s.begun)
    (ended : s'.ended = s.ended ++ [(task, status)]) (before : s.worker.executing = some task)
    (after : s'.worker = .ran task status) : s'.Order := by
  refine ⟨begun ▸ order.begun, queue ▸ order.queue, ?_, ?_, ?_, ?_, ?_⟩
  · rw [begun, queue]
    exact order.begun_queue
  · intro taken candidate
    simp [after, WorkerPhase.candidate] at candidate
  · intro taken executing
    rw [after] at executing
    cases executing
    rw [begun]
    exact order.executing before
  · intro entry finished
    rw [after] at finished
    cases finished
    simp [ended]
  · intro taken used
    apply order.known_step transition
    rw [Owed, begun, queue, after] at used
    rcases used with member | queued | owes
    · exact .inl member
    · exact .inr (.inl queued)
    · cases owes
      exact .inr (.inr (WorkerPhase.owes_of_executing before))

theorem step (threads : s.Threads) (order : s.Order) {action : Action}
    (transition : Step s action s') : s'.Order := by
  have whole := transition
  cases transition with
  | startRunning => exact order
  | startFailed | stopStopped | stopJoined | stopClosed | stopReturned =>
      exact order.of_same whole rfl rfl rfl rfl rfl rfl rfl
  | submitReturned | submitExpired | submitFlagged | submitGaveUp | submitRefused =>
      exact order.of_same whole rfl rfl rfl rfl rfl rfl rfl
  | started idle stopped =>
      have gone := threads.worker_of_stopped stopped
      apply order.of_same whole rfl rfl rfl <;> rw [gone] <;>
        simp [worker, WorkerPhase.candidate, WorkerPhase.executing, WorkerPhase.finished,
          WorkerPhase.owes]
  | stopDrained =>
      refine ⟨order.begun, .nil, by simp, ?_, order.executing, order.finished, ?_⟩
      · intro task candidate
        exact ⟨(order.candidate candidate).1, by simp⟩
      · intro task used
        apply order.known_step whole
        rcases used with begun | queued | owes
        · exact .inl begun
        · simp at queued
        · exact .inr (.inr owes)
  | submitAccepted =>
      have fresh : ∀ {task}, task ∈ s.begun ∨ s.Owed task → task < s.calls.length :=
        fun used => order.known_lt used
      refine ⟨order.begun, ?_, ?_, ?_, order.executing, order.finished, ?_⟩
      · refine List.pairwise_append.mpr ⟨order.queue, by simp, ?_⟩
        intro early queued late last
        obtain rfl := List.mem_singleton.mp last
        exact fresh (.inr (.inl queued))
      · intro early begun late queued
        rcases List.mem_append.mp queued with queued | last
        · exact order.begun_queue early begun late queued
        · obtain rfl := List.mem_singleton.mp last
          exact fresh (.inl begun)
      · intro task candidate
        refine ⟨(order.candidate candidate).1, fun late queued => ?_⟩
        rcases List.mem_append.mp queued with queued | last
        · exact (order.candidate candidate).2 late queued
        · obtain rfl := List.mem_singleton.mp last
          exact fresh (.inr (.inr (WorkerPhase.owes_of_candidate candidate)))
      · intro task used
        rcases used with begun | queued | owes
        · exact order.known_step whole (.inl begun)
        · rcases List.mem_append.mp queued with queued | last
          · exact order.known_step whole (.inr (.inl queued))
          · obtain rfl := List.mem_singleton.mp last
            exact ⟨_, by simp; rfl, rfl⟩
        · exact order.known_step whole (.inr (.inr owes))
  | exited waiting =>
      exact order.of_move threads whole waiting (by simp) rfl rfl rfl rfl rfl rfl rfl rfl
  | skipCounted skipped =>
      exact order.of_move threads whole skipped (by simp) rfl rfl rfl rfl rfl rfl rfl rfl
  | skipping dequeued =>
      exact order.of_move threads whole dequeued (by simp) rfl rfl rfl rfl rfl rfl rfl rfl
  | exchanged _ running =>
      exact order.of_move threads whole running (by simp) rfl rfl rfl rfl rfl rfl rfl rfl
  | flagClear ran | flagSet ran =>
      exact order.of_move threads whole ran (by simp) rfl rfl rfl rfl rfl rfl rfl rfl
  | counted counting =>
      exact order.of_move threads whole counting (by simp) rfl rfl rfl rfl rfl rfl rfl rfl
  | dequeued waiting queued =>
      exact order.of_dequeue whole queued rfl
        (worker_moveWorker (threads.alive waiting (by simp)).1)
  | skipped skipping =>
      have after := (worker_moveWorker (threads.alive skipping (by simp)).1 :
        (s.moveWorker _ .skipped).worker = _)
      exact order.of_release whole rfl rfl (congrArg WorkerPhase.owes after)
  | settled settling =>
      have after := (worker_moveWorker (threads.alive settling (by simp)).1 :
        (s.moveWorker _ .waiting).worker = _)
      exact order.of_release whole rfl rfl (congrArg WorkerPhase.owes after)
  | began dequeued =>
      have before := congrArg WorkerPhase.candidate (threads.worker_eq dequeued (by simp))
      exact order.of_begin whole rfl rfl before
        (worker_moveWorker (threads.alive dequeued (by simp)).1)
  | ran running =>
      have before := congrArg WorkerPhase.executing (threads.worker_eq running (by simp))
      exact order.of_finish whole rfl rfl rfl before
        (worker_moveWorker (threads.alive running (by simp)).1)

end Order
end Executor
end EzoProvider.Bus
