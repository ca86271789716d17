import EzoProvider.Bus.Guarantees

/-!
# What becomes of a submission

`submit` as a function, what a call was submitted with, and the calls whose
callers are served: as long as no wait of theirs ends early and no stop finds
them queued, they wait for the status of their own job and return it.
-/

namespace EzoProvider.Bus

open Interaction

variable {Op : Type} {Result : Op → Type}

/-- What a caller hands to `submit`. -/
structure Submission (Op : Type) (Result : Op → Type) where
  name : String
  timeout : Int
  job : Program Op Result Status

/-- What a call was submitted with. -/
def Call.submission (call : Call Op Result) : Submission Op Result where
  name := call.name
  timeout := call.timeout
  job := call.job

/-- A call which has been accepted and waits for the status of its own job, or has
returned it. -/
structure Call.Served (call : Call Op Result) : Prop where
  accepted : call.accepted = true
  timely : call.timedOut = false
  promised : ∀ fulfilment, call.promise = some fulfilment →
    ∃ status, fulfilment = .completed status
  phase : call.phase = .waiting ∨ ∃ status, call.phase = .returned (.fulfilled (.completed status))

namespace Executor

/-- An executor which `start()` has just returned from. -/
def justStarted : Executor Op Result where
  busOpen := true
  running := true
  workers := [.waiting]

/-- The actions of callers and of the worker, once the call is submitted. -/
def Action.Serves : Action → Prop
  | submitReturned _ | submitExpired _ | submitFlagged _ | worker _ => True
  | startReturned _ | stopDrained | stopJoined | stopClosed | stopReturned | submit _ => False

/-- The critical section of `submit`. -/
def submitted (s : Executor Op Result) (submission : Submission Op Result) : Executor Op Result :=
  if s.running = true ∧ s.stopping = false then
    { s with
      calls := s.calls ++ [{ name := submission.name, job := submission.job,
                             timeout := submission.timeout, accepted := true, phase := .waiting }]
      queue := s.queue ++ [s.calls.length]
      metrics := { s.metrics with
        submitted := s.metrics.submitted + 1, queueDepth := s.queue.length + 1 } }
  else
    { s with
      calls := s.calls ++ [{ name := submission.name, job := submission.job,
                             timeout := submission.timeout, accepted := false,
                             phase := .returned .refused }] }

/-- What a task was submitted with. -/
def submissionOf (s : Executor Op Result) (task : TaskId) : Option (Submission Op Result) :=
  s.calls[task]?.map Call.submission

/-- The worker skips flagged tasks only. -/
def SkipsFlagged (s : Executor Op Result) : Prop :=
  ∀ (index : Nat) (task : TaskId), s.workers[index]? = some (WorkerPhase.skipping task) →
    ∃ call, s.calls[task]? = some call ∧ call.timedOut = true

variable {s s' : Executor Op Result} {action : Action} {submission : Submission Op Result}

theorem step_submitted (s : Executor Op Result) (submission : Submission Op Result) :
    Step s (.submit s.calls.length) (s.submitted submission) := by
  rw [submitted]
  split
  · next open' => exact .submitAccepted open'.1 open'.2
  · next shut =>
      apply Step.submitRefused
      cases running : s.running
      · exact .inl rfl
      · exact .inr (by simpa [running] using shut)

/-- `submit` adds one call, and leaves the worker and the histories alone. -/
theorem submitted_frame (s : Executor Op Result) (submission : Submission Op Result) :
    (∃ call, (s.submitted submission).calls = s.calls ++ [call] ∧ call.submission = submission ∧
      (s.running = true → s.stopping = false → call.Served)) ∧
    (s.submitted submission).workers = s.workers ∧ (s.submitted submission).begun = s.begun ∧
    (s.submitted submission).ended = s.ended ∧ (s.submitted submission).log = s.log := by
  rw [submitted]
  split
  · exact ⟨⟨_, rfl, rfl, fun _ _ => ⟨rfl, rfl, by simp, .inl rfl⟩⟩, rfl, rfl, rfl, rfl⟩
  · next shut =>
      exact ⟨⟨_, rfl, rfl, fun running admitting => absurd ⟨running, admitting⟩ shut⟩,
        rfl, rfl, rfl, rfl⟩

/-! ## Submissions stay -/

theorem submissionOf_updateCall {task other : TaskId} {change : Call Op Result → Call Op Result}
    (kept : ∀ call, (change call).submission = call.submission) :
    (s.updateCall task change).submissionOf other = s.submissionOf other := by
  simp only [submissionOf, updateCall, List.getElem?_modify]
  split
  · cases s.calls[other]? <;> simp [kept]
  · simp

theorem submissionOf_drain (pending : List TaskId) (calls : List (Call Op Result))
    (task : TaskId) :
    (drain calls pending)[task]?.map Call.submission = calls[task]?.map Call.submission := by
  induction pending generalizing calls with
  | nil => rfl
  | cons head rest ih =>
      have unfolded : drain calls (head :: rest) =
          drain (calls.modify head (Call.fulfil .stopped)) rest := rfl
      rw [unfolded, ih, List.getElem?_modify]
      split
      · cases calls[task]? <;> simp [Call.submission, Call.fulfil]
      · simp

theorem submissionOf_submitted_new :
    (s.submitted submission).submissionOf s.calls.length = some submission := by
  obtain ⟨⟨call, calls, same, _⟩, _⟩ := submitted_frame s submission
  rw [submissionOf, calls]
  simp [same]

theorem lt_of_submissionOf {task : TaskId} {submission : Submission Op Result}
    (found : s.submissionOf task = some submission) : task < s.calls.length := by
  obtain ⟨call, called, _⟩ := Option.map_eq_some_iff.mp found
  exact (List.getElem?_eq_some_iff.mp called).1

theorem exists_submissionOf {task : TaskId} (known : task < s.calls.length) :
    ∃ submission, s.submissionOf task = some submission :=
  ⟨_, by rw [submissionOf, List.getElem?_eq_getElem known]; rfl⟩

/-! ## What stays -/

/-- What has been submitted, returned and executed stays as it is. -/
structure Grows (s s' : Executor Op Result) : Prop where
  submissionOf : ∀ {task submission}, s.submissionOf task = some submission →
    s'.submissionOf task = some submission
  returned : ∀ {task : TaskId} {call : Call Op Result} {outcome}, s.calls[task]? = some call →
    call.phase = .returned outcome →
      ∃ after : Call Op Result, s'.calls[task]? = some after ∧ after.phase = .returned outcome
  ended : ∀ entry ∈ s.ended, entry ∈ s'.ended ∧ s'.traceOf entry.1 = s.traceOf entry.1

theorem Grows.refl (s : Executor Op Result) : s.Grows s :=
  ⟨id, fun found returned => ⟨_, found, returned⟩, fun _ ended => ⟨ended, rfl⟩⟩

theorem submissionOf_append {calls : List (Call Op Result)} {call : Call Op Result} {task : TaskId}
    (found : calls[task]?.map Call.submission = some submission) :
    (calls ++ [call])[task]?.map Call.submission = some submission := by
  obtain ⟨before, there, _⟩ := Option.map_eq_some_iff.mp found
  rwa [List.getElem?_append_left (List.getElem?_eq_some_iff.mp there).1]

theorem Step.ended_subset (transition : Step s action s') {entry : TaskId × Status}
    (ended : entry ∈ s.ended) : entry ∈ s'.ended := by
  cases transition with
  | ran => exact List.mem_append_left _ ended
  | _ => exact ended

/-- The exchanges of a task are complete once it has ended. -/
theorem Step.traceOf_ended (invariant : s.Invariant) (transition : Step s action s')
    {entry : TaskId × Status} (ended : entry ∈ s.ended) :
    s'.traceOf entry.1 = s.traceOf entry.1 := by
  cases transition with
  | exchanged result running =>
      have current := invariant.threads.worker_eq running (by simp)
      obtain ⟨unended, _⟩ := invariant.executions.current (by rw [current]; rfl)
      simp [traceOf, Ne.symm (unended entry ended)]
  | _ => rfl

theorem Step.grows (invariant : s.Invariant) (transition : Step s action s') : s.Grows s' where
  submissionOf found := by
    cases transition with
    | submitRefused | submitAccepted => exact submissionOf_append found
    | stopDrained => exact (submissionOf_drain _ _ _).trans found
    | submitReturned | submitExpired | submitFlagged =>
        refine Eq.trans ?_ found
        exact submissionOf_updateCall fun _ => rfl
    | submitGaveUp | skipped | settled =>
        refine Eq.trans ?_ found
        exact @submissionOf_updateCall _ _ s _ _ _ fun _ => rfl
    | _ => exact found
  returned found returned := by
    obtain ⟨after, foundAfter, extended⟩ :=
      transition.extends_call invariant.order.queue_nodup found
    exact ⟨after, foundAfter, extended.returned _ returned⟩
  ended entry member := ⟨transition.ended_subset member, transition.traceOf_ended invariant member⟩

/-- Serving opens and closes nothing, and adds no calls. -/
theorem Step.serves (transition : Step s action s') (serves : action.Serves) :
    s'.running = s.running ∧ s'.stopping = s.stopping ∧ s'.calls.length = s.calls.length := by
  cases transition with
  | submitReturned | submitExpired | submitFlagged | submitGaveUp | skipped | settled =>
      simp [updateCall, moveWorker]
  | startRunning | startFailed | started | stopStopped | stopDrained | stopJoined | stopClosed
  | stopReturned | submitRefused | submitAccepted => exact absurd serves id
  | _ => exact ⟨rfl, rfl, rfl⟩

/-! ## Skips -/

theorem SkipsFlagged.step (skips : s.SkipsFlagged) (distinct : s.queue.Nodup)
    (transition : Step s action s') : s'.SkipsFlagged := by
  intro index task skipping
  -- The task is flagged already, or it is found flagged by this step.
  have flagged : ∃ call, s.calls[task]? = some call ∧ call.timedOut = true := by
    cases transition with
    | started =>
        rcases getElem?_append_singleton_cases skipping with old | ⟨_, new⟩
        · exact skips _ _ old
        · cases new
    | skipping dequeued found timedOut =>
        rcases getElem?_set_cases skipping with ⟨_, same⟩ | ⟨_, old⟩
        · cases same
          exact ⟨_, found, timedOut⟩
        · exact skips _ _ old
    | dequeued | exited | skipped | skipCounted | began | exchanged | ran | flagClear | flagSet
    | counted | settled =>
        rcases getElem?_set_cases skipping with ⟨_, same⟩ | ⟨_, old⟩
        · cases same
        · exact skips _ _ old
    | _ => exact skips _ _ skipping
  obtain ⟨call, found, set⟩ := flagged
  obtain ⟨after, foundAfter, extended⟩ := transition.extends_call distinct found
  exact ⟨after, foundAfter, extended.timedOut set⟩

/-! ## Served callers -/

theorem served_updateCall {task target : TaskId} {change : Call Op Result → Call Op Result}
    {call : Call Op Result} (found : s.calls[task]? = some call) (served : call.Served)
    (changed : target = task → (change call).Served) :
    ∃ after, (s.updateCall target change).calls[task]? = some after ∧ after.Served := by
  simp only [updateCall, List.getElem?_modify, found]
  by_cases same : target = task
  · exact ⟨change call, by simp [same], changed same⟩
  · exact ⟨call, by simp [same], served⟩

/-- A served caller stays served unless its own wait ends or a stop finds it queued. -/
theorem Step.served (transition : Step s action s') (skips : s.SkipsFlagged)
    (distinct : s.queue.Nodup) {task : TaskId} {call : Call Op Result}
    (found : s.calls[task]? = some call) (served : call.Served)
    (waits : action ≠ .submitExpired task) (stays : action = .stopDrained → task ∉ s.queue) :
    ∃ after, s'.calls[task]? = some after ∧ after.Served := by
  cases transition with
  | stopDrained =>
      refine ⟨call, ?_, served⟩
      rw [getElem?_drain distinct, found]
      simp [stays rfl]
  | submitRefused | submitAccepted =>
      have within := (List.getElem?_eq_some_iff.mp found).1
      exact ⟨call, by rw [List.getElem?_append_left within, found], served⟩
  | submitReturned target waiting ready =>
      refine served_updateCall found served ?_
      rintro rfl
      obtain rfl : call = _ := by simpa [found] using target
      obtain ⟨status, rfl⟩ := served.promised _ ready
      exact ⟨served.accepted, served.timely, served.promised, .inr ⟨status, rfl⟩⟩
  | submitExpired =>
      refine served_updateCall found served ?_
      rintro rfl
      exact absurd rfl waits
  | submitFlagged target expired =>
      refine served_updateCall found served ?_
      rintro rfl
      obtain rfl : call = _ := by simpa [found] using target
      have phase := served.phase
      simp [expired] at phase
  | submitGaveUp target flagged =>
      refine served_updateCall found served ?_
      rintro rfl
      obtain rfl : call = _ := by simpa [found] using target
      have phase := served.phase
      simp [flagged] at phase
  | skipped skipping =>
      refine @served_updateCall _ _ s _ _ _ _ found served ?_
      rintro rfl
      obtain ⟨_, same, flagged⟩ := skips _ _ skipping
      obtain rfl : call = _ := by simpa [found] using same
      simp [served.timely] at flagged
  | settled settling =>
      refine @served_updateCall _ _ s _ _ _ _ found served ?_
      rintro rfl
      refine ⟨served.accepted, served.timely, ?_, served.phase⟩
      intro fulfilment promised
      cases earlier : call.promise with
      | none =>
          simp only [Call.fulfil, earlier, Option.getD_none, Option.some.injEq] at promised
          exact ⟨_, promised.symm⟩
      | some first =>
          simp only [Call.fulfil, earlier, Option.getD_some, Option.some.injEq] at promised
          obtain rfl := promised
          exact served.promised _ earlier
  | _ => exact ⟨call, found, served⟩

/-! ## Finished jobs -/

/-- A caller which has been given the status of its job comes after the job's end. -/
theorem Promises.ended (promises : s.Promises) {task : TaskId} {call : Call Op Result}
    {status : Status} (found : s.calls[task]? = some call)
    (returned : call.phase = .returned (.fulfilled (.completed status))) :
    (task, status) ∈ s.ended := by
  have kept := promises task call found
  exact kept.completed status (kept.delivered _ returned)

end Executor
end EzoProvider.Bus
