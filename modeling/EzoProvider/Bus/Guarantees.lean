import EzoProvider.Bus.Executions

/-!
# What the bus executor guarantees

Serial execution in the order of submission, the meaning of what `submit`
returns, and a `stop()` which leaves nobody waiting.
-/

namespace EzoProvider.Bus.Executor

open Interaction TransitionSystem

variable {Op : Type} {Result : Op → Type} {s s' : Executor Op Result}

/-! ## Runs -/

theorem Invariant.steps (invariant : s.Invariant) {actions : List Action}
    (run : (system Op Result).Steps s actions s') : s'.Invariant := by
  refine run.maintains ?_ invariant
  intro state action next holds transition
  exact Invariant.step holds transition

/-- A run extends the calls it starts from. -/
theorem Invariant.extends_call (invariant : s.Invariant) {actions : List Action}
    (run : (system Op Result).Steps s actions s') {task : TaskId} {call : Call Op Result}
    (found : s.calls[task]? = some call) :
    ∃ after, s'.calls[task]? = some after ∧ call.Extends after := by
  let tracked : Executor Op Result → Prop := fun state =>
    state.Invariant ∧ ∃ after, state.calls[task]? = some after ∧ call.Extends after
  have final : tracked s' := by
    refine run.maintains ?_ ⟨invariant, call, found, .refl call⟩
    rintro state action next ⟨holds, middle, foundMiddle, toMiddle⟩ transition
    obtain ⟨last, foundLast, toLast⟩ :=
      Step.extends_call holds.order.queue_nodup transition foundMiddle
    exact ⟨holds.step transition, last, foundLast, toMiddle.trans toLast⟩
  exact final.2

/-- A task whose call was refused is never begun. -/
theorem Invariant.refused_not_begun (invariant : s.Invariant) {task : TaskId}
    {call : Call Op Result} (found : s.calls[task]? = some call)
    (refused : call.phase = .returned .refused) : task ∉ s.begun := by
  intro begun
  obtain ⟨known, foundKnown, accepted⟩ := invariant.order.known (.inl begun)
  obtain rfl : call = known := by simpa [found] using foundKnown
  have unaccepted := (invariant.promises task call found).refused refused
  simp [accepted] at unaccepted

/-- A task whose call was told of the stop is never begun. -/
theorem Invariant.stopped_not_begun (invariant : s.Invariant) {task : TaskId}
    {call : Call Op Result} (found : s.calls[task]? = some call)
    (stopped : call.phase = .returned (.fulfilled .stopped)) : task ∉ s.begun := by
  have kept := invariant.promises task call found
  exact kept.unbegun (.inl (kept.delivered .stopped stopped))

/-- The worker skips a task whose flag it finds set. -/
theorem Step.flagged_not_begun {action : Action} (transition : Step s action s') {task : TaskId}
    {call : Call Op Result} (found : s.calls[task]? = some call) (flagged : call.timedOut = true)
    (unbegun : task ∉ s.begun) : task ∉ s'.begun := by
  cases transition with
  | began dequeued foundBegun timely =>
      intro member
      rcases List.mem_append.mp member with earlier | same
      · exact unbegun earlier
      · obtain rfl := List.mem_singleton.mp same
        obtain rfl : call = _ := by simpa [found] using foundBegun
        simp [flagged] at timely
  | _ => exact unbegun

/-- A run never begins a task which is flagged before it was begun. -/
theorem Invariant.flagged_never_begun (invariant : s.Invariant) {actions : List Action}
    (run : (system Op Result).Steps s actions s') {task : TaskId} {call : Call Op Result}
    (found : s.calls[task]? = some call) (flagged : call.timedOut = true)
    (unbegun : task ∉ s.begun) : task ∉ s'.begun := by
  let skipping : Executor Op Result → Prop := fun state =>
    state.Invariant ∧ task ∉ state.begun ∧
      ∃ after, state.calls[task]? = some after ∧ after.timedOut = true
  have final : skipping s' := by
    refine run.maintains ?_ ⟨invariant, unbegun, call, found, flagged⟩
    rintro state action next ⟨holds, still, after, foundAfter, flaggedAfter⟩ transition
    obtain ⟨last, foundLast, extended⟩ :=
      Step.extends_call holds.order.queue_nodup transition foundAfter
    exact ⟨holds.step transition,
      Step.flagged_not_begun transition foundAfter flaggedAfter still, last, foundLast,
      extended.timedOut flaggedAfter⟩
  exact final.2.1

/-! ## Guarantees -/

/-- (a) At most one job executes at a time, only while the bus is open. -/
theorem Invariant.serial (invariant : s.Invariant) {first second : Nat} {task other : TaskId}
    {rest rest' : Program Op Result Status}
    (one : s.workers[first]? = some (.running task rest))
    (two : s.workers[second]? = some (.running other rest')) :
    first = second ∧ s.busOpen = true := by
  obtain ⟨lastFirst, running, owner⟩ := invariant.threads.alive one (by simp)
  obtain ⟨lastSecond, _⟩ := invariant.threads.alive two (by simp)
  refine ⟨by omega, invariant.threads.busOpen running ?_⟩
  rcases owner with idle | joining
  · simp [idle]
  · simp [joining]

/-- (b) A status which is the job's own is that of its one execution. -/
theorem Invariant.completed (invariant : s.Invariant) {task : TaskId} {call : Call Op Result}
    {status : Status} (found : s.calls[task]? = some call)
    (returned : call.phase = .returned (.fulfilled (.completed status))) :
    s.begun.count task = 1 ∧ s.ended.filter (·.1 = task) = [(task, status)] ∧
      call.job.Runs (s.traceOf task) status := by
  have kept := invariant.promises task call found
  have ended := kept.completed status (kept.delivered _ returned)
  refine ⟨?_, ?_, ?_⟩
  · have distinct : s.begun.Nodup := invariant.order.begun.imp Nat.ne_of_lt
    exact List.count_eq_one_of_mem distinct (invariant.executions.ended_begun _ ended)
  · obtain ⟨front, back, split⟩ := List.append_of_mem ended
    have distinct := invariant.executions.ended_nodup
    rw [split, List.map_append, List.map_cons, List.nodup_middle, List.nodup_cons] at distinct
    have alone : ∀ entry ∈ front ++ back, entry.1 ≠ task := by
      intro entry member same
      apply distinct.1
      rw [← List.map_append]
      exact List.mem_map.mpr ⟨entry, member, same⟩
    have before : front.filter (·.1 = task) = [] := by
      refine List.filter_eq_nil_iff.mpr fun entry member => ?_
      simpa using alone entry (List.mem_append_left _ member)
    have after : back.filter (·.1 = task) = [] := by
      refine List.filter_eq_nil_iff.mpr fun entry member => ?_
      simpa using alone entry (List.mem_append_right _ member)
    simp [split, before, after]
  · obtain ⟨known, foundKnown, run⟩ := invariant.executions.completed _ ended
    obtain rfl : call = known := by simpa [found] using foundKnown
    exact run

/-- (c) Every accepted task has its answer once nobody holds or queues it. -/
theorem Invariant.answered (invariant : s.Invariant) (empty : s.queue = [])
    (idle : s.worker = .exited) {task : TaskId} {call : Call Op Result}
    (found : s.calls[task]? = some call) (accepted : call.accepted = true) :
    call.fulfilments = 1 ∧ ∃ fulfilment, call.promise = some fulfilment := by
  have free : ¬ s.Owed task := by simp [Owed, empty, idle, WorkerPhase.owes]
  obtain ⟨promised, once⟩ := (invariant.promises task call found).answered accepted free
  exact ⟨once, Option.isSome_iff_exists.mp promised⟩

/-- After `stop()` there is neither a queue nor a worker. -/
theorem Invariant.stopped (invariant : s.Invariant) (transition : Step s .stopReturned s') :
    s'.queue = [] ∧ s'.worker = .exited := by
  have after := invariant.step transition
  cases transition with
  | stopStopped idle stopped =>
      exact ⟨after.threads.drained (.inl stopped), after.threads.worker_of_stopped stopped⟩
  | stopReturned finishing =>
      exact ⟨after.threads.drained (.inl rfl), after.threads.worker_of_stopped rfl⟩

/-- Jobs execute one at a time, on an open bus, once each and in the order of
their submission; what `submit` returns says what became of its job; a `stop()`
which has returned has answered every accepted task exactly once. -/
theorem executor_contract (reachable : (system Op Result).Reachable s) :
    ((∀ (first second : Nat) task other (rest rest' : Program Op Result Status),
        s.workers[first]? = some (.running task rest) →
        s.workers[second]? = some (.running other rest') → first = second ∧ s.busOpen = true) ∧
      s.begun.Pairwise (· < ·)) ∧
    ((∀ task call status, s.calls[task]? = some call →
        call.phase = .returned (.fulfilled (.completed status)) →
        s.begun.count task = 1 ∧ s.ended.filter (·.1 = task) = [(task, status)] ∧
          call.job.Runs (s.traceOf task) status) ∧
      (∀ task call, s.calls[task]? = some call →
        call.phase = .returned .refused ∨ call.phase = .returned (.fulfilled .stopped) →
        ∀ actions s', (system Op Result).Steps s actions s' → task ∉ s'.begun) ∧
      ∀ task call, s.calls[task]? = some call → call.phase = .returned .deadlineExceeded →
        task ∈ s.queue → ∀ actions s', (system Op Result).Steps s actions s' → task ∉ s'.begun) ∧
    ∀ s', Step s .stopReturned s' → s'.queue = [] ∧
      ∀ task call, s'.calls[task]? = some call → call.accepted = true →
        call.fulfilments = 1 ∧ (∃ fulfilment, call.promise = some fulfilment) ∧
          (call.phase = .waiting → ∃ s'', Step s' (.submitReturned task) s'') := by
  have invariant := invariant_of_reachable reachable
  refine ⟨⟨?_, invariant.order.begun⟩, ⟨?_, ?_, ?_⟩, ?_⟩
  · intro first second task other rest rest' one two
    exact invariant.serial one two
  · intro task call status found returned
    exact invariant.completed found returned
  · intro task call found outcome actions s' run
    obtain ⟨after, foundAfter, extended⟩ := invariant.extends_call run found
    rcases outcome with refused | stopped
    · exact (invariant.steps run).refused_not_begun foundAfter (extended.returned _ refused)
    · exact (invariant.steps run).stopped_not_begun foundAfter (extended.returned _ stopped)
  · intro task call found expired queued actions s' run
    have flagged := (invariant.promises task call found).flagged (.inr expired)
    exact invariant.flagged_never_begun run found flagged (invariant.order.queued_not_begun queued)
  · intro s' transition
    obtain ⟨empty, gone⟩ := invariant.stopped transition
    refine ⟨empty, fun task call found accepted => ?_⟩
    obtain ⟨once, fulfilment, promised⟩ :=
      (invariant.step transition).answered empty gone found accepted
    exact ⟨once, ⟨fulfilment, promised⟩, fun waiting => ⟨_, .submitReturned found waiting promised⟩⟩

/-- Three jobs were submitted. The worker is at the end of the first one, and the caller of the
second one has given up while its job was queued. -/
def secondGivenUp : Executor Unit fun _ => Unit where
  busOpen := true
  running := true
  queue := [1, 2]
  metrics := { queueDepth := 2, submitted := 3, started := 1, timedOut := 1,
               lastError := "job '" ++ "command" ++ "' timed out" }
  calls :=
    [{ name := "read", job := .done .success, timeout := 0, accepted := true, phase := .waiting },
      { name := "command", job := .done .success, timeout := 1, accepted := true,
        phase := .returned .deadlineExceeded, timedOut := true },
      { name := "read", job := .done .success, timeout := 0, accepted := true, phase := .waiting }]
  workers := [.running 0 (.done .success)]
  begun := [0]

/-- The first job runs to its end, the second is skipped, and `stop()` answers the third. -/
theorem executor_contract_submitted :
    ∃ s : Executor Unit fun _ => Unit,
      s.calls.map (·.phase) = [.returned (.fulfilled (.completed .success)),
        .returned .deadlineExceeded, .returned (.fulfilled .stopped)] ∧
      s.begun = [0] ∧ s.ended = [(0, .success)] ∧ s.begun.count 0 = 1 ∧
      1 ∉ s.begun ∧ 2 ∉ s.begun ∧ s.queue = [] ∧
      ∀ (task : TaskId) (call : Call Unit fun _ => Unit), s.calls[task]? = some call →
        call.accepted = true → call.fulfilments = 1 := by
  let system := system Unit fun _ => Unit
  have started : system.Steps {} _ _ := .single (Step.started rfl rfl)
  have first : system.Steps {} _ _ :=
    started.step (@Step.submitAccepted _ _ _ "read" (.done .success) 0 rfl rfl)
  have second : system.Steps {} _ _ :=
    first.step (@Step.submitAccepted _ _ _ "command" (.done .success) 1 rfl rfl)
  have third : system.Steps {} _ _ :=
    second.step (@Step.submitAccepted _ _ _ "read" (.done .success) 0 rfl rfl)
  have dequeued : system.Steps {} _ _ := third.step (@Step.dequeued _ _ _ 0 _ _ rfl rfl)
  have began : system.Steps {} _ _ := dequeued.step (@Step.began _ _ _ 0 _ _ rfl rfl rfl)
  have expired : system.Steps {} _ _ :=
    began.step (@Step.submitExpired _ _ _ 1 _ rfl rfl (by decide) rfl)
  have flagged : system.Steps {} _ _ := expired.step (@Step.submitFlagged _ _ _ 1 _ rfl rfl)
  have timedOut : system.Steps {} _ _ := flagged.step (@Step.submitGaveUp _ _ _ 1 _ rfl rfl)
  have gaveUp : system.Steps {} _ secondGivenUp := timedOut
  have ran : system.Steps secondGivenUp _ _ := .single (@Step.ran _ _ _ 0 _ _ rfl)
  have checked : system.Steps secondGivenUp _ _ :=
    ran.step (@Step.flagClear _ _ _ 0 _ _ _ rfl rfl rfl)
  have counted : system.Steps secondGivenUp _ _ := checked.step (@Step.counted _ _ _ 0 _ _ rfl)
  have settled : system.Steps secondGivenUp _ _ := counted.step (@Step.settled _ _ _ 0 _ _ rfl)
  have returned : system.Steps secondGivenUp _ _ :=
    settled.step (@Step.submitReturned _ _ _ 0 _ _ rfl rfl rfl)
  have next : system.Steps secondGivenUp _ _ := returned.step (@Step.dequeued _ _ _ 0 _ _ rfl rfl)
  have skipping : system.Steps secondGivenUp _ _ :=
    next.step (@Step.skipping _ _ _ 0 _ _ rfl rfl rfl)
  have skipped : system.Steps secondGivenUp _ _ := skipping.step (@Step.skipped _ _ _ 0 _ rfl)
  have cancelled : system.Steps secondGivenUp _ _ := skipped.step (@Step.skipCounted _ _ _ 0 rfl)
  have drained : system.Steps secondGivenUp _ _ := cancelled.step (Step.stopDrained rfl rfl)
  have answered : system.Steps secondGivenUp _ _ :=
    drained.step (@Step.submitReturned _ _ _ 2 _ _ rfl rfl rfl)
  have exited : system.Steps secondGivenUp _ _ := answered.step (@Step.exited _ _ _ 0 rfl rfl rfl)
  have joined : system.Steps secondGivenUp _ _ := exited.step (Step.stopJoined rfl rfl)
  have closed : system.Steps secondGivenUp _ _ := joined.step (Step.stopClosed rfl)
  have stopped : system.Steps secondGivenUp _ _ := closed.step (Step.stopReturned rfl)
  have waiting := executor_contract ⟨_, _, rfl, gaveUp⟩
  have closing := executor_contract ⟨_, _, rfl, gaveUp.trans closed⟩
  have after := executor_contract ⟨_, _, rfl, gaveUp.trans stopped⟩
  obtain ⟨empty, settledAll⟩ := closing.2.2 _ (Step.stopReturned rfl)
  refine ⟨_, rfl, rfl, rfl, (after.2.1.1 0 _ _ rfl rfl).1,
    waiting.2.1.2.2 1 _ rfl rfl (by decide) _ _ stopped,
    after.2.1.2.1 2 _ rfl (.inr rfl) _ _ .refl, empty, fun task call found accepted => ?_⟩
  exact (settledAll task call found accepted).1

end EzoProvider.Bus.Executor
