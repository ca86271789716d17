import EzoProvider.Bus.Executions

/-!
# The metrics of the bus executor

What the counters say of the calls. `Totals` holds in every run. `Credits` says
that the jobs counted as succeeded or failed are those whose own status was
returned; it takes the worker's test of the flag, its count and its answer to be
one step for the caller, which the code does not make sure of.
-/

namespace EzoProvider.Bus

open Interaction

variable {Op : Type} {Result : Op → Type}

/-! ## Counts after an update -/

theorem countP_modify {α : Type} {holds : α → Bool} {change : α → α} {entries : List α} {i : Nat}
    {entry : α} (found : entries[i]? = some entry) :
    (entries.modify i change).countP holds + (if holds entry = true then 1 else 0) =
      entries.countP holds + if holds (change entry) = true then 1 else 0 := by
  induction entries generalizing i with
  | nil => simp at found
  | cons first rest ih =>
      cases i with
      | zero =>
          obtain rfl : first = entry := by simpa using found
          rw [List.modify_zero_cons, List.countP_cons, List.countP_cons]
          omega
      | succ i =>
          rw [List.modify_succ_cons, List.countP_cons, List.countP_cons]
          have later := ih (by simpa using found)
          omega

theorem countP_modify_same {α : Type} {holds : α → Bool} {change : α → α} {entries : List α}
    {i : Nat} {entry : α} (found : entries[i]? = some entry)
    (same : holds (change entry) = holds entry) :
    (entries.modify i change).countP holds = entries.countP holds := by
  have counts := @countP_modify _ holds change _ _ _ found
  rw [same] at counts
  omega

/-! ## Views of a call -/

namespace Call

/-- A `stop()` found the task queued. -/
def stopped (call : Call Op Result) : Bool := call.promise = some .stopped

/-- The caller was told that its wait had expired. -/
def gaveUp (call : Call Op Result) : Bool := call.phase = .returned .deadlineExceeded

/-- The caller was told the status of its job, ok or not. -/
def answeredAs (ok : Bool) (call : Call Op Result) : Bool :=
  match call.phase with
  | .returned (.fulfilled (.completed status)) => status.isOk == ok
  | _ => false

/-- The promise holds the status of the job, and the caller has not given up on it. -/
def countedAs (ok : Bool) (call : Call Op Result) : Bool :=
  match call.promise with
  | some (.completed status) => status.isOk == ok && !call.timedOut
  | _ => false

end Call

/-- The counter of the jobs which succeeded, or of those which failed. -/
def BusExecutorMetrics.tally (metrics : BusExecutorMetrics) (ok : Bool) : Nat :=
  if ok then metrics.succeeded else metrics.failed

namespace Executor

variable {s s' : Executor Op Result}

/-- The live worker is one of the threads. -/
theorem exists_worker {phase : WorkerPhase Op Result} (same : s.worker = phase)
    (alive : phase ≠ .exited) : ∃ index : Nat, s.workers[index]? = some phase := by
  cases last : s.workers.getLast? with
  | none =>
      rw [worker, last] at same
      exact absurd same.symm alive
  | some other =>
      rw [worker, last] at same
      cases same
      exact ⟨_, List.getLast?_eq_getElem?.symm.trans last⟩

theorem getElem?_updateCall_self {task : TaskId} {change : Call Op Result → Call Op Result} :
    (s.updateCall task change).calls[task]? = s.calls[task]?.map change := by
  simp [updateCall]

theorem getElem?_updateCall_other {task other : TaskId} {change : Call Op Result → Call Op Result}
    (different : other ≠ task) : (s.updateCall task change).calls[other]? = s.calls[other]? := by
  simp [updateCall, Ne.symm different]

theorem countP_append_call {holds : Call Op Result → Bool} {call : Call Op Result}
    (fails : holds call = false) (calls : List (Call Op Result)) :
    (calls ++ [call]).countP holds = calls.countP holds := by
  rw [List.countP_append, List.countP_singleton, fails]
  simp

theorem countP_drain_same {holds : Call Op Result → Bool} {pending : List TaskId}
    (distinct : pending.Nodup) {calls : List (Call Op Result)}
    (same : ∀ task ∈ pending, ∀ call, calls[task]? = some call →
      holds (call.fulfil .stopped) = holds call) :
    (drain calls pending).countP holds = calls.countP holds := by
  have pointwise : (drain calls pending).map holds = calls.map holds := by
    apply List.ext_getElem?
    intro task
    rw [List.getElem?_map, List.getElem?_map, getElem?_drain distinct, Option.map_map]
    cases found : calls[task]? with
    | none => rfl
    | some call =>
        simp only [Option.map_some, Function.comp_apply]
        split
        · next queued => rw [same task queued call found]
        · rfl
  have counts := congrArg (List.countP id) pointwise
  rwa [List.countP_map, List.countP_map] at counts

/-- The drain of `stop()` stops every task it is handed. -/
theorem countP_drain_stopped {pending : List TaskId} (distinct : pending.Nodup)
    {calls : List (Call Op Result)}
    (unanswered : ∀ task ∈ pending, ∃ call, calls[task]? = some call ∧ call.promise = none) :
    (drain calls pending).countP Call.stopped = calls.countP Call.stopped + pending.length := by
  induction pending generalizing calls with
  | nil => rfl
  | cons head rest ih =>
      obtain ⟨fresh, distinctRest⟩ := List.nodup_cons.mp distinct
      have unfolded : drain calls (head :: rest) =
          drain (calls.modify head (Call.fulfil .stopped)) rest := rfl
      obtain ⟨call, found, open'⟩ := unanswered head List.mem_cons_self
      have counts := @countP_modify _ Call.stopped (Call.fulfil .stopped) _ _ _ found
      rw [unfolded, ih distinctRest, List.length_cons]
      · simp only [Call.stopped, Call.fulfil, open', Option.getD_none] at counts ⊢
        simp at counts
        omega
      · intro task member
        obtain ⟨other, foundOther, openOther⟩ := unanswered task (List.mem_cons_of_mem _ member)
        have different : head ≠ task := by
          rintro rfl
          exact fresh member
        exact ⟨other, by simp [different, foundOther], openOther⟩

/-! ## Totals -/

/-- What the counters say in every reachable state. -/
structure Totals (s : Executor Op Result) : Prop where
  depth : s.metrics.queueDepth = s.queue.length
  submitted : s.metrics.submitted =
    s.metrics.started + s.queue.length + s.calls.countP Call.stopped
  timedOut : s.metrics.timedOut = s.calls.countP Call.gaveUp
  flagged : ∀ (task : TaskId) (call : Call Op Result), s.calls[task]? = some call →
    call.timedOut = true → call.phase = .flagged ∨ call.phase = .returned .deadlineExceeded

namespace Totals

theorem initial : ({} : Executor Op Result).Totals := by
  constructor <;> simp

/-- Steps which leave the counters and the calls alone. -/
theorem of_same (totals : s.Totals) (depth : s'.metrics.queueDepth = s'.queue.length)
    (submitted : s'.metrics.submitted = s.metrics.submitted)
    (started : s'.metrics.started + s'.queue.length = s.metrics.started + s.queue.length)
    (timedOut : s'.metrics.timedOut = s.metrics.timedOut) (calls : s'.calls = s.calls) :
    s'.Totals where
  depth := depth
  submitted := by
    rw [submitted, started, calls]
    exact totals.submitted
  timedOut := by
    rw [timedOut, calls]
    exact totals.timedOut
  flagged := by
    rw [calls]
    exact totals.flagged

/-- Steps which change one call, neither stopping its task nor telling its caller of a timeout. -/
theorem of_update (totals : s.Totals) {task : TaskId} {call : Call Op Result}
    {change : Call Op Result → Call Op Result} (found : s.calls[task]? = some call)
    (stopped : (change call).stopped = call.stopped) (gaveUp : (change call).gaveUp = call.gaveUp)
    (flagged : (change call).timedOut = true →
      (change call).phase = .flagged ∨ (change call).phase = .returned .deadlineExceeded)
    (queue : s'.queue = s.queue) (metrics : s'.metrics = s.metrics)
    (calls : s'.calls = (s.updateCall task change).calls) : s'.Totals where
  depth := by
    rw [metrics, queue]
    exact totals.depth
  submitted := by
    rw [metrics, queue, calls]
    refine totals.submitted.trans (congrArg _ ?_)
    exact (countP_modify_same found stopped).symm
  timedOut := by
    rw [metrics, calls]
    exact totals.timedOut.trans (countP_modify_same found gaveUp).symm
  flagged other after foundAfter set := by
    rw [calls] at foundAfter
    obtain ⟨before, foundBefore, rfl⟩ := getElem?_updateCall_cases foundAfter
    split at set
    · next same =>
        subst same
        cases found.symm.trans foundBefore
        rw [if_pos rfl]
        exact flagged set
    · next different =>
        rw [if_neg different]
        exact totals.flagged _ _ foundBefore set

theorem step (threads : s.Threads) (order : s.Order) (promises : s.Promises) (totals : s.Totals)
    {action : Action} (transition : Step s action s') : s'.Totals := by
  -- The worker fulfils a promise which is still open, with no stop.
  have fulfils : ∀ {task : TaskId} {fulfilment : Fulfilment} {call : Call Op Result},
      s.worker.owes = some task → fulfilment ≠ .stopped → s.calls[task]? = some call →
      (call.fulfil fulfilment).stopped = call.stopped := by
    intro task fulfilment call owes other found
    obtain ⟨open', _⟩ := (promises task call found).owed (.inr owes)
    simp [Call.stopped, Call.fulfil, open', other]
  cases transition with
  | startRunning => exact totals
  | startFailed | started | stopStopped | stopJoined | stopClosed | stopReturned | exited | skipping
  | skipCounted | began | exchanged | ran | flagClear | flagSet =>
      exact totals.of_same totals.depth rfl rfl rfl rfl
  | counted =>
      refine totals.of_same ?_ ?_ ?_ ?_ rfl
      · dsimp only
        split <;> exact totals.depth
      · dsimp only
        split <;> rfl
      · dsimp only
        split <;> rfl
      · dsimp only
        split <;> rfl
  | @dequeued index task rest waiting queued =>
      refine totals.of_same rfl rfl ?_ rfl rfl
      simp only [queued, List.length_cons]
      omega
  | stopDrained idle running =>
      have unanswered : ∀ task ∈ s.queue, ∃ call, s.calls[task]? = some call ∧
          call.promise = none := by
        intro task queued
        obtain ⟨call, found, _⟩ := order.known (.inr (.inl queued))
        exact ⟨call, found, ((promises task call found).owed (.inl queued)).1⟩
      refine ⟨rfl, ?_, ?_, ?_⟩
      · have counts := countP_drain_stopped order.queue_nodup unanswered
        have before := totals.submitted
        dsimp only [List.length_nil] at counts ⊢
        omega
      · exact totals.timedOut.trans
          (countP_drain_same order.queue_nodup fun _ _ call _ => rfl).symm
      · intro task call found set
        rw [getElem?_drain order.queue_nodup] at found
        obtain ⟨before, foundBefore, rfl⟩ := Option.map_eq_some_iff.mp found
        split at set
        · next queued =>
            rw [if_pos queued]
            exact totals.flagged task before foundBefore set
        · next free =>
            rw [if_neg free]
            exact totals.flagged task before foundBefore set
  | submitRefused shut =>
      refine ⟨totals.depth, ?_, ?_, ?_⟩
      · rw [countP_append_call rfl]
        exact totals.submitted
      · rw [countP_append_call rfl]
        exact totals.timedOut
      · intro task call found set
        rcases getElem?_append_singleton_cases found with old | ⟨_, rfl⟩
        · exact totals.flagged task call old set
        · cases set
  | submitAccepted running admitting =>
      refine ⟨by simp, ?_, ?_, ?_⟩
      · rw [countP_append_call rfl]
        have before := totals.submitted
        simp only [List.length_append, List.length_singleton]
        omega
      · rw [countP_append_call rfl]
        exact totals.timedOut
      · intro task call found set
        rcases getElem?_append_singleton_cases found with old | ⟨_, rfl⟩
        · exact totals.flagged task call old set
        · cases set
  | submitReturned found waiting ready =>
      refine totals.of_update found rfl ?_ ?_ rfl rfl rfl
      · simp [Call.gaveUp, waiting]
      · intro set
        have phase := totals.flagged _ _ found set
        simp [waiting] at phase
  | submitExpired found waiting timed unready =>
      refine totals.of_update found rfl ?_ ?_ rfl rfl rfl
      · simp [Call.gaveUp, waiting]
      · intro set
        have phase := totals.flagged _ _ found set
        simp [waiting] at phase
  | submitFlagged found expired =>
      refine totals.of_update found rfl ?_ (fun _ => .inl rfl) rfl rfl rfl
      simp [Call.gaveUp, expired]
  | @submitGaveUp task call found flagged =>
      refine ⟨totals.depth, ?_, ?_, ?_⟩
      · refine totals.submitted.trans (congrArg _ ?_)
        exact (@countP_modify_same _ Call.stopped _ _ _ _ found rfl).symm
      · have counts := @countP_modify _ Call.gaveUp
          (fun call => { call with phase := .returned .deadlineExceeded }) _ _ _ found
        have before := totals.timedOut
        simp only [Call.gaveUp, flagged, reduceCtorEq, decide_false, Bool.false_eq_true, ↓reduceIte,
          decide_true] at counts
        exact (congrArg (· + 1) before).trans counts.symm
      · intro other after foundAfter set
        obtain ⟨before, foundBefore, rfl⟩ := getElem?_updateCall_cases foundAfter
        split at set
        · next same =>
            rw [if_pos same]
            exact .inr rfl
        · next different =>
            rw [if_neg different]
            exact totals.flagged _ _ foundBefore set
  | @skipped index task skipping =>
      have owes := congrArg WorkerPhase.owes (threads.worker_eq skipping (by simp))
      obtain ⟨call, found, _⟩ := order.known (.inr (.inr owes))
      exact totals.of_update found (fulfils owes (by simp) found) rfl
        (fun set => totals.flagged task call found set) rfl rfl rfl
  | @settled index task status settling =>
      have owes := congrArg WorkerPhase.owes (threads.worker_eq settling (by simp))
      obtain ⟨call, found, _⟩ := order.known (.inr (.inr owes))
      exact totals.of_update found (fulfils owes (by simp) found) rfl
        (fun set => totals.flagged task call found set) rfl rfl rfl

end Totals

/-! ## Credits -/

/-- The caller of a task does not give up while the worker counts and answers it: its wait
does not expire once the worker has found its flag clear, and the worker does not test the
flag while it is still to be set. -/
def Timely (s : Executor Op Result) (action : Action) (_ : Executor Op Result) : Prop :=
  (∀ task, action = .submitExpired task → ∀ (index : Nat) status,
    s.workers[index]? ≠ some (.counting task status) ∧
      s.workers[index]? ≠ some (.settling task status)) ∧
  ∀ index task status call, action = .worker index →
    s.workers[index]? = some (.ran task status) → s.calls[task]? = some call →
      call.phase ≠ .expired

theorem timely_of_caller {action : Action} (waits : ∀ task, action ≠ .submitExpired task)
    (idle : ∀ index, action ≠ .worker index) : Timely s action s' :=
  ⟨fun task same => absurd same (waits task), fun index _ _ _ same => absurd same (idle index)⟩

theorem timely_of_worker {index : Nat} {phase : WorkerPhase Op Result}
    (here : s.workers[index]? = some phase)
    (inTime : ∀ task status, phase = .ran task status →
      ∀ call, s.calls[task]? = some call → call.phase ≠ .expired) :
    Timely s (.worker index) s' := by
  refine ⟨fun task same => absurd same (by simp), fun other task status call same ran found => ?_⟩
  cases same
  exact inTime task status (Option.some.inj (here.symm.trans ran)) call found

/-- What the worker has counted and not answered yet. -/
def unanswered (s : Executor Op Result) (ok : Bool) : Nat :=
  match s.worker with
  | .settling task status =>
      if status.isOk = ok ∧ s.calls[task]?.any (!·.timedOut) then 1 else 0
  | _ => 0

/-- What the counters of the jobs say, in a run in which no caller gives up while the
worker answers it. -/
structure Credits (s : Executor Op Result) : Prop where
  counting : ∀ task status, s.worker = .counting task status →
    ∃ call, s.calls[task]? = some call ∧ call.timedOut = false ∧ call.phase = .waiting
  settling : ∀ task status, s.worker = .settling task status →
    ∃ call, s.calls[task]? = some call ∧ (call.timedOut = true ∨ call.phase = .waiting)
  completed : ∀ (task : TaskId) (call : Call Op Result) status, s.calls[task]? = some call →
    call.promise = some (.completed status) → call.timedOut = true ∨ call.phase = .waiting ∨
      call.phase = .returned (.fulfilled (.completed status))
  tally : ∀ ok, s.metrics.tally ok = s.calls.countP (Call.countedAs ok) + s.unanswered ok

namespace Credits

theorem initial : ({} : Executor Op Result).Credits := by
  constructor <;> simp [worker, unanswered, BusExecutorMetrics.tally]

theorem countedAs_of_open {call : Call Op Result} (open' : call.promise = none) (ok : Bool) :
    call.countedAs ok = false := by
  rw [Call.countedAs, open']

/-- The caller of a task whose promise is open waits, unless its wait has expired. -/
theorem waiting_of_open {task : TaskId} {call : Call Op Result} (kept : s.Kept task call)
    (accepted : call.accepted = true) (open' : call.promise = none) (clear : call.timedOut = false)
    (inTime : call.phase ≠ .expired) : call.phase = .waiting := by
  have unflagged : ¬ (call.phase = .flagged ∨ call.phase = .returned .deadlineExceeded) := by
    intro flagged
    rw [kept.flagged flagged] at clear
    cases clear
  cases phase : call.phase with
  | waiting => rfl
  | expired => exact absurd phase inTime
  | flagged => exact absurd (.inl phase) unflagged
  | returned outcome => cases outcome with
    | refused =>
        rw [kept.refused phase] at accepted
        cases accepted
    | fulfilled fulfilment => cases open'.symm.trans (kept.delivered fulfilment phase)
    | deadlineExceeded => exact absurd (.inr phase) unflagged

theorem unanswered_eq_zero (other : ∀ task status, s.worker ≠ .settling task status) (ok : Bool) :
    s.unanswered ok = 0 := by
  rw [unanswered]
  split
  · next task status settling => exact absurd settling (other task status)
  · rfl

theorem unanswered_settling {task : TaskId} {status : Status} {call : Call Op Result}
    (settling : s.worker = .settling task status) (found : s.calls[task]? = some call) (ok : Bool) :
    s.unanswered ok = if status.isOk = ok ∧ call.timedOut = false then 1 else 0 := by
  simp [unanswered, settling, found]

theorem unanswered_congr (worker : s'.worker = s.worker)
    (held : ∀ task status, s.worker = .settling task status →
      s'.calls[task]?.any (!·.timedOut) = s.calls[task]?.any (!·.timedOut)) (ok : Bool) :
    s'.unanswered ok = s.unanswered ok := by
  rw [unanswered, unanswered, worker]
  split
  · next task status settling => rw [held task status settling]
  · rfl

/-- Steps which leave the calls and the counts of jobs alone, and the worker outside of
its count and its answer. -/
theorem of_move (credits : s.Credits) (calls : s'.calls = s.calls)
    (tally : ∀ ok, s'.metrics.tally ok = s.metrics.tally ok)
    (before : ∀ task status, s.worker ≠ .settling task status)
    (counting : ∀ task status, s'.worker ≠ .counting task status)
    (settling : ∀ task status, s'.worker ≠ .settling task status) : s'.Credits where
  counting task status same := absurd same (counting task status)
  settling task status same := absurd same (settling task status)
  completed := by
    rw [calls]
    exact credits.completed
  tally ok := by
    have same := credits.tally ok
    rw [unanswered_eq_zero before] at same
    rw [tally, calls, unanswered_eq_zero settling]
    exact same

/-- Steps of the owner. -/
theorem of_same (credits : s.Credits) (calls : s'.calls = s.calls)
    (tally : ∀ ok, s'.metrics.tally ok = s.metrics.tally ok) (worker : s'.worker = s.worker) :
    s'.Credits where
  counting := by
    rw [worker, calls]
    exact credits.counting
  settling := by
    rw [worker, calls]
    exact credits.settling
  completed := by
    rw [calls]
    exact credits.completed
  tally ok := by
    rw [tally, unanswered, worker, calls]
    exact credits.tally ok

/-- Calls of `submit` which come in. -/
theorem of_append (credits : s.Credits) {call : Call Op Result}
    (calls : s'.calls = s.calls ++ [call]) (open' : call.promise = none)
    (tally : ∀ ok, s'.metrics.tally ok = s.metrics.tally ok)
    (worker : s'.worker = s.worker) : s'.Credits := by
  have old : ∀ {task : TaskId} {other : Call Op Result}, s.calls[task]? = some other →
      s'.calls[task]? = some other := by
    intro task other found
    rw [calls, List.getElem?_append_left (List.getElem?_eq_some_iff.mp found).1, found]
  refine ⟨fun task status same => ?_, fun task status same => ?_,
    fun task other status here promised => ?_, fun ok => ?_⟩
  · obtain ⟨held, found, rest⟩ := credits.counting task status (worker ▸ same)
    exact ⟨held, old found, rest⟩
  · obtain ⟨held, found, rest⟩ := credits.settling task status (worker ▸ same)
    exact ⟨held, old found, rest⟩
  · rw [calls] at here
    rcases getElem?_append_singleton_cases here with before | ⟨_, rfl⟩
    · exact credits.completed task other status before promised
    · cases open'.symm.trans promised
  · rw [tally, credits.tally, calls, countP_append_call (countedAs_of_open open' ok)]
    refine congrArg _ ?_
    refine (unanswered_congr worker (fun task status same => ?_) ok).symm
    obtain ⟨held, found, _⟩ := credits.settling task status same
    rw [old found, found]

/-- Steps of a caller past the critical section. -/
theorem of_update (credits : s.Credits) {task : TaskId} {call : Call Op Result}
    {change : Call Op Result → Call Op Result} (found : s.calls[task]? = some call)
    (counted : ∀ ok, (change call).countedAs ok = call.countedAs ok)
    (counting : ∀ status, s.worker ≠ .counting task status)
    (settling : ∀ status, s.worker = .settling task status →
      call.timedOut = true ∧ (change call).timedOut = true)
    (completed : ∀ status, (change call).promise = some (.completed status) →
      (change call).timedOut = true ∨ (change call).phase = .waiting ∨
        (change call).phase = .returned (.fulfilled (.completed status)))
    (calls : s'.calls = (s.updateCall task change).calls)
    (tally : ∀ ok, s'.metrics.tally ok = s.metrics.tally ok) (worker : s'.worker = s.worker) :
    s'.Credits := by
  have changed : s'.calls[task]? = some (change call) := by
    rw [calls, getElem?_updateCall_self, found, Option.map_some]
  have others : ∀ other, other ≠ task → s'.calls[other]? = s.calls[other]? := by
    intro other different
    rw [calls, getElem?_updateCall_other different]
  refine ⟨fun other status same => ?_, fun other status same => ?_, fun other after status here => ?_,
    fun ok => ?_⟩
  · rw [worker] at same
    have different : other ≠ task := by
      rintro rfl
      exact counting status same
    rw [others other different]
    exact credits.counting other status same
  · rw [worker] at same
    by_cases here : other = task
    · subst here
      exact ⟨_, changed, .inl (settling status same).2⟩
    · rw [others other here]
      exact credits.settling other status same
  · by_cases same : other = task
    · subst same
      cases changed.symm.trans here
      exact completed status
    · rw [others other same] at here
      exact credits.completed other after status here
  · rw [tally, credits.tally, calls]
    refine congrArg₂ _ (countP_modify_same found (counted ok)).symm ?_
    refine (unanswered_congr worker (fun other status same => ?_) ok).symm
    by_cases here : other = task
    · subst here
      obtain ⟨before, after⟩ := settling status same
      rw [changed, found, Option.any_some, Option.any_some, before, after]
    · rw [others other here]

/-- The worker has the promise of a task left to fulfil, and has counted the task if its
flag is clear. -/
theorem of_settling (credits : s.Credits) {task : TaskId} {status : Status} {call : Call Op Result}
    (found : s.calls[task]? = some call) (given : call.timedOut = true ∨ call.phase = .waiting)
    (calls : s'.calls = s.calls) (before : ∀ task status, s.worker ≠ .settling task status)
    (after : s'.worker = .settling task status)
    (tally : ∀ ok, s'.metrics.tally ok =
      s.metrics.tally ok + if status.isOk = ok ∧ call.timedOut = false then 1 else 0) :
    s'.Credits where
  counting other status same := by cases after.symm.trans same
  settling other status same := by
    cases after.symm.trans same
    exact ⟨call, by rw [calls, found], given⟩
  completed := by
    rw [calls]
    exact credits.completed
  tally ok := by
    have same := credits.tally ok
    rw [unanswered_eq_zero before] at same
    rw [tally, same, unanswered_settling after (by rw [calls, found]), calls, Nat.add_zero]

/-- The worker answers a task: the promise gets its only value. -/
theorem of_answer (credits : s.Credits) {task : TaskId} {call : Call Op Result}
    {fulfilment : Fulfilment} (found : s.calls[task]? = some call)
    (completed : ∀ status, fulfilment = .completed status →
      call.timedOut = true ∨ call.phase = .waiting)
    (tally : ∀ ok, s'.metrics.tally ok = s.metrics.tally ok)
    (counted : ∀ ok, call.countedAs ok = false ∧
      s.unanswered ok = if (call.fulfil fulfilment).countedAs ok = true then 1 else 0)
    (open' : call.promise = none)
    (calls : s'.calls = (s.updateCall task (Call.fulfil fulfilment)).calls)
    (counting : ∀ task status, s'.worker ≠ .counting task status)
    (settling : ∀ task status, s'.worker ≠ .settling task status) : s'.Credits where
  counting task status same := absurd same (counting task status)
  settling task status same := absurd same (settling task status)
  completed other after status here promised := by
    rw [calls] at here
    by_cases same : other = task
    · subst same
      rw [getElem?_updateCall_self, found, Option.map_some] at here
      cases here
      have value : fulfilment = .completed status := by
        simpa [Call.fulfil, open'] using promised
      exact (completed status value).imp_right .inl
    · rw [getElem?_updateCall_other same] at here
      exact credits.completed other after status here promised
  tally ok := by
    obtain ⟨before, after⟩ := counted ok
    have counts := @countP_modify _ (Call.countedAs ok) (Call.fulfil fulfilment) _ _ _ found
    have same := credits.tally ok
    rw [before] at counts
    simp only [Bool.false_eq_true, ↓reduceIte] at counts
    rw [tally, calls, unanswered_eq_zero settling, same, after]
    exact counts.symm

theorem step (invariant : s.Invariant) (credits : s.Credits) {action : Action}
    (transition : Step s action s') (timely : Timely s action s') : s'.Credits := by
  obtain ⟨threads, order, promises, executions⟩ := invariant
  have owed : ∀ {task : TaskId}, s.worker.owes = some task →
      ∃ call, s.calls[task]? = some call ∧ call.promise = none := by
    intro task owes
    obtain ⟨call, found, _⟩ := order.known (.inr (.inr owes))
    exact ⟨call, found, ((promises task call found).owed (.inr owes)).1⟩
  cases transition with
  | startRunning | startFailed | stopStopped | stopJoined | stopClosed | stopReturned =>
      exact credits.of_same rfl (fun _ => rfl) rfl
  | started idle stopped =>
      have gone := threads.worker_of_stopped stopped
      refine credits.of_move rfl (fun _ => rfl) ?_ ?_ ?_
      · simp [gone]
      · simp [worker]
      · simp [worker]
  | stopDrained idle running =>
      have unqueued : ∀ {task : TaskId}, s.worker.owes = some task →
          (drain s.calls s.queue)[task]? = s.calls[task]? := by
        intro task owes
        rw [getElem?_drain order.queue_nodup]
        simp [order.not_queued owes]
      refine ⟨fun task status same => ?_, fun task status same => ?_,
        fun task after status here promised => ?_, fun ok => ?_⟩
      · rw [unqueued (congrArg WorkerPhase.owes same)]
        exact credits.counting task status same
      · rw [unqueued (congrArg WorkerPhase.owes same)]
        exact credits.settling task status same
      · rw [getElem?_drain order.queue_nodup] at here
        obtain ⟨before, foundBefore, rfl⟩ := Option.map_eq_some_iff.mp here
        split at promised
        · next queued =>
            have open' := ((promises task before foundBefore).owed (.inl queued)).1
            simp [Call.fulfil, open'] at promised
        · next free =>
            rw [if_neg free]
            exact credits.completed task before status foundBefore promised
      · refine (credits.tally ok).trans (congrArg₂ _ (Eq.symm ?_) ?_)
        · refine countP_drain_same order.queue_nodup fun task queued call found => ?_
          have open' := ((promises task call found).owed (.inl queued)).1
          rw [countedAs_of_open open', Call.countedAs, Call.fulfil, open', Option.getD_none]
        · refine Eq.symm (unanswered_congr ?_ ?_ ok)
          · rfl
          · intro task status same
            rw [unqueued (congrArg WorkerPhase.owes same)]
  | submitRefused shut => exact credits.of_append rfl rfl (fun _ => rfl) rfl
  | submitAccepted running admitting => exact credits.of_append rfl rfl (fun _ => rfl) rfl
  | @submitReturned task call fulfilment found waiting ready =>
      have answered : s.worker.owes ≠ some task := by
        intro owes
        rw [((promises task call found).owed (.inr owes)).1] at ready
        cases ready
      refine credits.of_update found (fun _ => rfl) ?_ ?_ ?_ rfl (fun _ => rfl) rfl
      · exact fun status same => answered (congrArg WorkerPhase.owes same)
      · exact fun status same => absurd (congrArg WorkerPhase.owes same) answered
      · intro status promised
        cases ready.symm.trans promised
        exact .inr (.inr rfl)
  | @submitExpired task call found waiting timed unready =>
      refine credits.of_update found (fun _ => rfl) ?_ ?_ ?_ rfl (fun _ => rfl) rfl
      · intro status same
        obtain ⟨index, held⟩ := exists_worker same (by simp)
        exact absurd held (timely.1 task rfl index status).1
      · intro status same
        obtain ⟨index, held⟩ := exists_worker same (by simp)
        exact absurd held (timely.1 task rfl index status).2
      · intro status promised
        cases unready.symm.trans promised
  | @submitFlagged task call found expired =>
      refine credits.of_update found ?_ ?_ ?_ (fun _ _ => .inl rfl) rfl (fun _ => rfl) rfl
      · intro ok
        -- A caller whose wait has expired has not been given the status of its job.
        have uncounted : call.countedAs ok = false := by
          rw [Call.countedAs]
          split
          · next status promised =>
              rcases credits.completed task call status found promised with set | waiting | returned
              · simp [set]
              · simp [expired] at waiting
              · simp [expired] at returned
          · rfl
        rw [uncounted, Call.countedAs]
        split <;> simp
      · intro status same
        obtain ⟨other, foundOther, _, waiting⟩ := credits.counting task status same
        cases found.symm.trans foundOther
        simp [expired] at waiting
      · intro status same
        obtain ⟨other, foundOther, set | waiting⟩ := credits.settling task status same
        · cases found.symm.trans foundOther
          exact ⟨set, rfl⟩
        · cases found.symm.trans foundOther
          simp [expired] at waiting
  | @submitGaveUp task call found flagged =>
      have set := (promises task call found).flagged (.inl flagged)
      refine credits.of_update found (fun _ => rfl) ?_ (fun _ _ => ⟨set, set⟩)
        (fun _ _ => .inl set) rfl (fun _ => rfl) rfl
      intro status same
      obtain ⟨other, foundOther, _, waiting⟩ := credits.counting task status same
      cases found.symm.trans foundOther
      simp [flagged] at waiting
  | dequeued moved | exited moved | skipping moved | skipCounted moved | began moved
  | exchanged _ moved | ran moved =>
      have before := threads.worker_eq moved (by simp)
      have after := fun next => @worker_moveWorker _ _ s _ next (threads.alive moved (by simp)).1
      refine credits.of_move rfl (fun _ => rfl) (by simp [before]) ?_ ?_
      · intro task status same
        exact absurd ((after _).symm.trans same) (by simp)
      · intro task status same
        exact absurd ((after _).symm.trans same) (by simp)
  | @flagClear index task status call ran found clear =>
      have before := threads.worker_eq ran (by simp)
      have after := @worker_moveWorker _ _ s _ (.counting task status)
        (threads.alive ran (by simp)).1
      have owes := congrArg WorkerPhase.owes before
      obtain ⟨other, foundOther, accepted⟩ := order.known (.inr (.inr owes))
      cases found.symm.trans foundOther
      have waiting := waiting_of_open (promises task call found) accepted
        ((promises task call found).owed (.inr owes)).1 clear
        (timely.2 index task status call rfl ran found)
      refine ⟨fun other status same => ?_, fun other status same => ?_, credits.completed,
        fun ok => ?_⟩
      · cases after.symm.trans same
        exact ⟨call, found, clear, waiting⟩
      · cases after.symm.trans same
      · have same := credits.tally ok
        rw [unanswered_eq_zero (by simp [before])] at same
        rw [unanswered_eq_zero (by simp [after])]
        exact same
  | @flagSet index task status call ran found set =>
      have before := threads.worker_eq ran (by simp)
      refine credits.of_settling found (.inl set) rfl (by simp [before])
        (worker_moveWorker (threads.alive ran (by simp)).1) fun ok => ?_
      rw [set]
      simp [moveWorker]
  | @counted index task status counting =>
      have before := threads.worker_eq counting (by simp)
      obtain ⟨call, found, clear, waiting⟩ := credits.counting task status before
      refine credits.of_settling found (.inr waiting) rfl (by simp [before])
        (worker_moveWorker (threads.alive counting (by simp)).1) fun ok => ?_
      cases ok <;> cases passed : status.isOk <;> simp [BusExecutorMetrics.tally, clear]
  | @skipped index task skipping =>
      have before := threads.worker_eq skipping (by simp)
      have after := @worker_moveWorker _ _ s _ .skipped (threads.alive skipping (by simp)).1
      obtain ⟨call, found, open'⟩ := owed (congrArg WorkerPhase.owes before)
      refine credits.of_answer found ?_ (fun _ => rfl) (fun ok => ⟨countedAs_of_open open' ok, ?_⟩)
        open' rfl ?_ ?_
      · rintro _ ⟨⟩
      · rw [unanswered_eq_zero (by simp [before])]
        simp [Call.countedAs, Call.fulfil, open']
      · intro other status same
        cases after.symm.trans same
      · intro other status same
        cases after.symm.trans same
  | @settled index task status settling =>
      have before := threads.worker_eq settling (by simp)
      have after := @worker_moveWorker _ _ s _ .waiting (threads.alive settling (by simp)).1
      obtain ⟨call, found, open'⟩ := owed (congrArg WorkerPhase.owes before)
      obtain ⟨held, foundHeld, given⟩ := credits.settling task status before
      cases found.symm.trans foundHeld
      refine credits.of_answer found (fun _ _ => given) (fun _ => rfl)
        (fun ok => ⟨countedAs_of_open open' ok, ?_⟩) open' rfl ?_ ?_
      · rw [unanswered_settling before found]
        simp [Call.countedAs, Call.fulfil, open']
      · intro other status same
        cases after.symm.trans same
      · intro other status same
        cases after.symm.trans same

end Credits

/-! ## Counted tasks -/

/-- A caller which is neither flagged nor about to be stays so. -/
theorem Step.timedOut (transition : Step s action s') (distinct : s.queue.Nodup) {task : TaskId}
    {call : Call Op Result} (found : s.calls[task]? = some call) (clear : call.timedOut = false)
    (inTime : call.phase ≠ .expired) :
    ∃ after, s'.calls[task]? = some after ∧ after.timedOut = false := by
  -- A change of one call which leaves its flag alone.
  have updated : ∀ {target : TaskId} {change : Call Op Result → Call Op Result},
      (target = task → (change call).timedOut = false) →
      ∃ after, (s.updateCall target change).calls[task]? = some after ∧ after.timedOut = false := by
    intro target change kept
    by_cases same : task = target
    · subst same
      exact ⟨change call, by rw [getElem?_updateCall_self, found, Option.map_some], kept rfl⟩
    · exact ⟨call, by rw [getElem?_updateCall_other same, found], clear⟩
  cases transition with
  | stopDrained =>
      refine ⟨_, by rw [getElem?_drain distinct, found]; rfl, ?_⟩
      split <;> exact clear
  | submitRefused | submitAccepted =>
      have within := (List.getElem?_eq_some_iff.mp found).1
      exact ⟨call, by rw [List.getElem?_append_left within, found], clear⟩
  | submitFlagged target expired =>
      refine updated ?_
      rintro rfl
      cases found.symm.trans target
      exact absurd expired inTime
  | submitReturned | submitExpired | submitGaveUp | skipped | settled => exact updated fun _ => clear
  | _ => exact ⟨call, found, clear⟩

/-- The task has been found in time after its job: the worker counts it, or has answered it. -/
structure Counted (s : Executor Op Result) (task : TaskId) (call : Call Op Result) : Prop where
  found : s.calls[task]? = some call
  clear : call.timedOut = false
  held : (∃ status, s.worker = .counting task status ∨ s.worker = .settling task status) ∨
    ∃ status, call.promise = some (.completed status)

namespace Counted

variable {task : TaskId} {call : Call Op Result}

/-- The caller of a counted task waits for its answer, or has it. -/
theorem phase (counted : s.Counted task call) (credits : s.Credits) :
    call.phase = .waiting ∨ ∃ status, call.phase = .returned (.fulfilled (.completed status)) := by
  obtain ⟨found, clear, ⟨status, counting | settling⟩ | ⟨status, promised⟩⟩ := counted
  · obtain ⟨other, foundOther, _, waiting⟩ := credits.counting task status counting
    cases found.symm.trans foundOther
    exact .inl waiting
  · obtain ⟨other, foundOther, set | waiting⟩ := credits.settling task status settling
    · cases found.symm.trans foundOther
      cases clear.symm.trans set
    · cases found.symm.trans foundOther
      exact .inl waiting
  · rcases credits.completed task call status found promised with set | waiting | returned
    · cases clear.symm.trans set
    · exact .inl waiting
    · exact .inr ⟨status, returned⟩

theorem step (counted : s.Counted task call) (invariant : s.Invariant) (credits : s.Credits)
    {action : Action} (transition : Step s action s') : ∃ after, s'.Counted task after := by
  have distinct := invariant.order.queue_nodup
  have inTime : call.phase ≠ .expired := by
    rcases counted.phase credits with waiting | ⟨_, returned⟩
    · simp [waiting]
    · simp [returned]
  obtain ⟨after, foundAfter, clear⟩ := transition.timedOut distinct counted.found counted.clear inTime
  obtain ⟨same, foundSame, extended⟩ := transition.extends_call distinct counted.found
  cases foundAfter.symm.trans foundSame
  refine ⟨after, foundAfter, clear, ?_⟩
  rcases counted.held with ⟨status, busy⟩ | ⟨status, promised⟩
  · have apart : ∀ {index : Nat} {phase : WorkerPhase Op Result},
        s.workers[index]? = some phase → phase ≠ .exited → s.worker = phase :=
      fun moved alive => invariant.threads.worker_eq moved alive
    cases transition with
    | started idle stopped =>
        have gone := invariant.threads.worker_of_stopped stopped
        rcases busy with busy | busy <;> cases gone.symm.trans busy
    | dequeued moved | exited moved | skipping moved | skipped moved | skipCounted moved
    | began moved | exchanged _ moved | ran moved | flagClear moved | flagSet moved =>
        have here := apart moved (by simp)
        rcases busy with busy | busy <;> cases here.symm.trans busy
    | counted moved =>
        have here := apart moved (by simp)
        rcases busy with busy | busy
        · cases here.symm.trans busy
          exact .inl ⟨status, .inr (worker_moveWorker (invariant.threads.alive moved (by simp)).1)⟩
        · cases here.symm.trans busy
    | settled moved =>
        have here := apart moved (by simp)
        rcases busy with busy | busy
        · cases here.symm.trans busy
        · cases here.symm.trans busy
          have open' := ((invariant.promises task call counted.found).owed
            (.inr (congrArg WorkerPhase.owes here))).1
          have answered := @getElem?_updateCall_self _ _ s task (Call.fulfil (.completed status))
          rw [counted.found, Option.map_some] at answered
          cases foundAfter.symm.trans answered
          exact .inr ⟨status, by simp [Call.fulfil, open']⟩
    | _ => exact .inl ⟨status, busy⟩
  · exact .inr ⟨status, extended.promise _ promised⟩

end Counted

/-! ## Reachable states -/

theorem totals_of_reachable (reachable : (system Op Result).Reachable s) : s.Totals := by
  refine @TransitionSystem.Reachable.induct _ _ (system Op Result) Totals ?_ ?_ s reachable
  · rintro _ rfl
    exact .initial
  · intro before action after here totals transition
    have invariant := invariant_of_reachable here
    exact totals.step invariant.threads invariant.order invariant.promises transition

theorem credits_of_reachable (reachable : ((system Op Result).restrict Timely).Reachable s) :
    s.Credits := by
  refine @TransitionSystem.Reachable.induct _ _ ((system Op Result).restrict Timely) Credits
    ?_ ?_ s reachable
  · rintro _ rfl
    exact .initial
  · intro before action after here credits transition
    exact credits.step (invariant_of_reachable here.of_restrict) transition.1 transition.2

/-- A counted task is never timed out. -/
theorem Counted.steps {task : TaskId} {call : Call Op Result} {actions : List Action}
    (counted : s.Counted task call)
    (reachable : ((system Op Result).restrict Timely).Reachable s)
    (run : ((system Op Result).restrict Timely).Steps s actions s') :
    ∃ after, s'.Counted task after := by
  induction run with
  | refl => exact ⟨call, counted⟩
  | @step actions middle action next prior transition ih =>
      obtain ⟨held, still⟩ := ih
      have here := reachable.steps prior
      exact still.step (invariant_of_reachable here.of_restrict) (credits_of_reachable here)
        transition.1

/-- Once a caller has returned, its task is counted by what it was told. -/
theorem countedAs_eq_answeredAs {task : TaskId} {call : Call Op Result} (kept : s.Kept task call)
    (totals : s.Totals) (credits : s.Credits) (found : s.calls[task]? = some call)
    (returned : ∃ outcome, call.phase = .returned outcome) (ok : Bool) :
    call.countedAs ok = call.answeredAs ok := by
  obtain ⟨outcome, phase⟩ := returned
  have inTime : outcome ≠ .deadlineExceeded → call.timedOut = false := by
    intro other
    by_contra set
    rw [Bool.not_eq_false] at set
    have flagged := totals.flagged task call found set
    simp [phase, other] at flagged
  cases outcome with
  | refused =>
      rw [Call.countedAs, Call.answeredAs, phase]
      split
      · next status promised =>
          rcases credits.completed task call status found promised with set | waiting | told
          · cases (inTime (by simp)).symm.trans set
          · cases phase.symm.trans waiting
          · cases phase.symm.trans told
      · rfl
  | deadlineExceeded =>
      rw [Call.countedAs, Call.answeredAs, phase, kept.flagged (.inr phase)]
      split <;> simp
  | fulfilled fulfilment =>
      rw [Call.countedAs, Call.answeredAs, phase, kept.delivered fulfilment phase, inTime (by simp)]
      cases fulfilment <;> simp

/-! ## The metrics and the callers -/

/-- In a run in which no caller gives up while the worker answers it: the tasks submitted are
those started, those queued and those a `stop()` found queued. Once the executor has stopped
and every call has returned, a job counts as succeeded or failed if its caller was told so,
and as timed out if its caller was told that. A task which is being counted is never timed out. -/
theorem metrics_agree (reachable : ((system Op Result).restrict Timely).Reachable s) :
    s.metrics.submitted =
        s.metrics.started + s.metrics.queueDepth + s.calls.countP Call.stopped ∧
      (s.running = false →
        (∀ (task : TaskId) (call : Call Op Result), s.calls[task]? = some call →
          ∃ outcome, call.phase = .returned outcome) →
        s.metrics.succeeded = s.calls.countP (Call.answeredAs true) ∧
          s.metrics.failed = s.calls.countP (Call.answeredAs false) ∧
          s.metrics.timedOut = s.calls.countP Call.gaveUp) ∧
      ∀ (index : Nat) task status, s.workers[index]? = some (.counting task status) →
        ∀ actions s', ((system Op Result).restrict Timely).Steps s actions s' →
          ∀ call, s'.calls[task]? = some call → call.phase ≠ .returned .deadlineExceeded := by
  have invariant := invariant_of_reachable reachable.of_restrict
  have totals := totals_of_reachable reachable.of_restrict
  have credits := credits_of_reachable reachable
  refine ⟨?_, fun stopped returned => ?_, fun index task status counting actions s' run call found => ?_⟩
  · rw [totals.depth]
    exact totals.submitted
  · have tally : ∀ ok, s.metrics.tally ok = s.calls.countP (Call.answeredAs ok) := by
      intro ok
      have gone := invariant.threads.worker_of_stopped stopped
      rw [credits.tally ok, Credits.unanswered_eq_zero (by simp [gone]), Nat.add_zero]
      apply List.countP_congr
      intro call member
      obtain ⟨task, found⟩ := List.mem_iff_getElem?.mp member
      rw [countedAs_eq_answeredAs (invariant.promises task call found) totals credits found
        (returned task call found) ok]
    exact ⟨tally true, tally false, totals.timedOut⟩
  · have here := invariant.threads.worker_eq counting (by simp)
    obtain ⟨held, foundHeld, clear, _⟩ := credits.counting task status here
    have counted : s.Counted task held := ⟨foundHeld, clear, .inl ⟨status, .inl here⟩⟩
    obtain ⟨after, still⟩ := counted.steps reachable run
    cases found.symm.trans still.found
    rcases still.phase (credits_of_reachable (reachable.steps run)) with waiting | ⟨_, told⟩
    · simp [waiting]
    · simp [told]

/-- A job which was answered in time, and a stop after it. -/
theorem metrics_agree_answered :
    ∃ s : Executor Unit fun _ => Unit, s.running = false ∧ s.metrics.submitted = 1 ∧
      s.metrics.succeeded = s.calls.countP (Call.answeredAs true) ∧ s.metrics.succeeded = 1 := by
  let timely := (system Unit fun _ => Unit).restrict Timely
  have started : timely.Steps {} _ _ :=
    .single ⟨Step.started rfl rfl, timely_of_caller (by simp) (by simp)⟩
  have submitted : timely.Steps {} _ _ := started.step
    ⟨@Step.submitAccepted _ _ _ "read" (.done .success) 1 rfl rfl,
      timely_of_caller (by simp) (by simp)⟩
  have dequeued : timely.Steps {} _ _ := submitted.step
    ⟨@Step.dequeued _ _ _ 0 _ _ rfl rfl, timely_of_worker rfl (by simp)⟩
  have began : timely.Steps {} _ _ := dequeued.step
    ⟨@Step.began _ _ _ 0 _ _ rfl rfl rfl, timely_of_worker rfl (by simp)⟩
  have ran : timely.Steps {} _ _ := began.step
    ⟨@Step.ran _ _ _ 0 _ _ rfl, timely_of_worker rfl (by simp)⟩
  have checked : timely.Steps {} _ _ := ran.step
    ⟨@Step.flagClear _ _ _ 0 _ _ _ rfl rfl rfl, timely_of_worker rfl (by
      rintro task status ⟨⟩ call found
      cases found
      simp)⟩
  have counted : timely.Steps {} _ _ := checked.step
    ⟨@Step.counted _ _ _ 0 _ _ rfl, timely_of_worker rfl (by simp)⟩
  have settled : timely.Steps {} _ _ := counted.step
    ⟨@Step.settled _ _ _ 0 _ _ rfl, timely_of_worker rfl (by simp)⟩
  have returned : timely.Steps {} _ _ := settled.step
    ⟨@Step.submitReturned _ _ _ 0 _ _ rfl rfl rfl, timely_of_caller (by simp) (by simp)⟩
  have drained : timely.Steps {} _ _ := returned.step
    ⟨Step.stopDrained rfl rfl, timely_of_caller (by simp) (by simp)⟩
  have exited : timely.Steps {} _ _ := drained.step
    ⟨@Step.exited _ _ _ 0 rfl rfl rfl, timely_of_worker rfl (by simp)⟩
  have joined : timely.Steps {} _ _ := exited.step
    ⟨Step.stopJoined rfl rfl, timely_of_caller (by simp) (by simp)⟩
  have closed : timely.Steps {} _ _ := joined.step
    ⟨Step.stopClosed rfl, timely_of_caller (by simp) (by simp)⟩
  have stopped : timely.Steps {} _ _ := closed.step
    ⟨Step.stopReturned rfl, timely_of_caller (by simp) (by simp)⟩
  obtain ⟨_, agree, _⟩ := metrics_agree ⟨_, _, rfl, stopped⟩
  have told := agree rfl fun task call found => by
    obtain rfl := List.mem_singleton.mp (List.mem_of_getElem? found)
    exact ⟨_, rfl⟩
  exact ⟨_, rfl, rfl, told.1, rfl⟩

/-- A caller can give up between the count of its job and the answer to it: the job is counted
as succeeded and as timed out, and nobody was told that it succeeded. -/
theorem counted_twice :
    ∃ s : Executor Unit fun _ => Unit, (system Unit fun _ => Unit).Reachable s ∧
      s.running = false ∧ (∀ call ∈ s.calls, ∃ outcome, call.phase = .returned outcome) ∧
      s.calls.length = 1 ∧ s.metrics.succeeded = 1 ∧ s.metrics.timedOut = 1 ∧
      s.calls.countP (Call.answeredAs true) = 0 := by
  let system := system Unit fun _ => Unit
  have started : system.Steps {} _ _ := .single (Step.started rfl rfl)
  have submitted : system.Steps {} _ _ :=
    started.step (@Step.submitAccepted _ _ _ "read" (.done .success) 1 rfl rfl)
  have dequeued : system.Steps {} _ _ := submitted.step (@Step.dequeued _ _ _ 0 _ _ rfl rfl)
  have began : system.Steps {} _ _ := dequeued.step (@Step.began _ _ _ 0 _ _ rfl rfl rfl)
  have ran : system.Steps {} _ _ := began.step (@Step.ran _ _ _ 0 _ _ rfl)
  have checked : system.Steps {} _ _ := ran.step (@Step.flagClear _ _ _ 0 _ _ _ rfl rfl rfl)
  have counted : system.Steps {} _ _ := checked.step (@Step.counted _ _ _ 0 _ _ rfl)
  have expired : system.Steps {} _ _ :=
    counted.step (@Step.submitExpired _ _ _ 0 _ rfl rfl (by decide) rfl)
  have flagged : system.Steps {} _ _ := expired.step (@Step.submitFlagged _ _ _ 0 _ rfl rfl)
  have gaveUp : system.Steps {} _ _ := flagged.step (@Step.submitGaveUp _ _ _ 0 _ rfl rfl)
  have settled : system.Steps {} _ _ := gaveUp.step (@Step.settled _ _ _ 0 _ _ rfl)
  have drained : system.Steps {} _ _ := settled.step (Step.stopDrained rfl rfl)
  have exited : system.Steps {} _ _ := drained.step (@Step.exited _ _ _ 0 rfl rfl rfl)
  have joined : system.Steps {} _ _ := exited.step (Step.stopJoined rfl rfl)
  have closed : system.Steps {} _ _ := joined.step (Step.stopClosed rfl)
  have stopped : system.Steps {} _ _ := closed.step (Step.stopReturned rfl)
  refine ⟨_, ⟨_, _, rfl, stopped⟩, rfl, ?_, rfl, rfl, rfl, rfl⟩
  intro call member
  obtain rfl := List.mem_singleton.mp member
  exact ⟨_, rfl⟩

end Executor
end EzoProvider.Bus
