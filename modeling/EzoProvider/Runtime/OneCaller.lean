import EzoProvider.Bus.Turns
import EzoProvider.Runtime.CannedThreads
import EzoProvider.Runtime.ThreadInvariants

/-!
# One caller at a time

When each request is made after the one before it has returned, the threads are
the one caller of `World`: whatever the executor makes of a submission, step by
step, is one of the outcomes `Line.Submitted` lists, and a job which outlives
its caller is the one left on the line. So what is proved of `provider` holds
of the threads.
-/

namespace EzoProvider.Runtime

open Interaction Program Devices TransitionSystem

/-! ## Lines -/

section Lines

variable [DecimalText] {line line' : Line} {bus : Bus}

namespace Line

theorem passed_refl (line : Line) : line.Passed line := by
  obtain ⟨running, orphan, bus⟩ := line
  cases orphan with
  | none => exact .idle rfl .refl
  | some job => exact .advanced rfl .refl .nil .refl

theorem Passed.drift (passed : line.Passed line') (drift : Bus.Drift line'.bus bus) :
    line.Passed { line' with bus } := by
  cases passed with
  | idle alone earlier => exact .idle alone (earlier.trans drift)
  | advanced left advance path earlier => exact .advanced left advance path (earlier.trans drift)

/-- The job left on the line goes one operation further. -/
theorem Passed.exchanged {op : JobOp} {next : op.Result → Job} {answer : op.Result}
    (passed : line.Passed line') (left : line'.orphan = some (.perform op next))
    (answers : Bus.environment.Answers line'.bus op answer bus) :
    line.Passed { line' with orphan := some (next answer), bus } := by
  cases passed with
  | idle alone => cases alone.symm.trans left
  | advanced first advance path drift =>
      cases left
      obtain ⟨middle, later, answered⟩ := answers
      exact .advanced first (advance.trans (.perform .refl))
        (path.trans (.cons ⟨middle, drift.trans later, answered⟩ .nil)) .refl

/-- A line whose job has come to its end is clear. -/
theorem Passed.cleared (passed : line.Passed line')
    (spent : ∀ job, line'.orphan = some job → ∃ status, job = .done status) :
    ∃ cleared, line.Cleared cleared ∧ Bus.Drift cleared line'.bus := by
  cases passed with
  | idle alone drift =>
      refine ⟨line.bus, ?_, drift⟩
      rw [Cleared, alone]
  | advanced left advance path drift =>
      obtain ⟨status, rfl⟩ := spent _ rfl
      refine ⟨_, ?_, drift⟩
      rw [Cleared, left]
      exact ⟨_, status, advance, path⟩

end Line

/-- A path on which more time passes and one more operation is answered. -/
theorem path_answered {start ended bus' : Bus} {trace : JobTrace} {op : JobOp} {answer : op.Result}
    (path : Bus.environment.Path start trace ended) (drift : Bus.Drift ended bus)
    (answers : Bus.environment.Answers bus op answer bus') :
    Bus.environment.Path start (trace ++ [⟨op, answer⟩]) bus' := by
  obtain ⟨middle, later, answered⟩ := answers
  exact path.trans (.cons ⟨middle, drift.trans later, answered⟩ .nil)

end Lines

/-! ## What the executor has left -/

/-- The line, as the executor has it: the job its worker is inside of, if any, is the one left.
A job at its end is as good as none. -/
structure Shared.Leaves (shared : Shared) (line : Line) : Prop where
  running : line.running = true
  bus : line.bus = shared.bus
  orphan : line.orphan = shared.executor.worker.current.map Prod.snd ∨
    shared.executor.worker.current = none ∧ ∃ status, line.orphan = some (.done status)

/-- A request arrives when all before it have returned. -/
def OneAtATime (shared : Shared) (label : ThreadLabel) (_ : Shared) : Prop :=
  ∀ request, label = .arrived request → shared.Returned

/-- All threads but this one have returned. -/
def Shared.OnlyThread (shared : Shared) (index : Nat) : Prop :=
  ∀ other thread, shared.threads[other]? = some thread → other ≠ index →
    thread.phase = .running (.done ())

theorem Shared.OnlyThread.set {shared shared' : Shared} {index : Nat}
    (only : shared.OnlyThread index) {new : Thread}
    (entries : shared'.threads = shared.threads.set index new) : shared'.OnlyThread index := by
  intro other thread found different
  rw [entries, List.getElem?_set_ne (Ne.symm different)] at found
  exact only other thread found different

/-- Every task is waited for, or its caller has returned. -/
def Shared.Awaited (shared : Shared) : Prop :=
  ∀ (task : Bus.TaskId) (call : Bus.Call JobOp JobOp.Result),
    shared.executor.calls[task]? = some call →
      (∃ thread ∈ shared.threads, ∃ next, thread.phase = .waiting task next) ∨
        ∃ outcome, call.phase = .returned outcome

section Sequential

variable [DecimalText] {shared shared' : Shared}

/-- The line `line` was, some time ago, and no job has begun on it since. -/
def Shared.Behind (shared : Shared) (line : Line) : Prop :=
  ∃ passed, line.Passed passed ∧ shared.Leaves passed

/-- The worker is through with the job left on the line, and in or past that of the task. -/
def Shared.Inside (shared : Shared) (line : Line) (task : Bus.TaskId) : Prop :=
  (∃ cleared ended, line.running = true ∧ line.Cleared cleared ∧
    Bus.environment.Path cleared (shared.executor.traceOf task) ended ∧
      Bus.Drift ended shared.bus) ∧
  ((∃ rest, shared.executor.worker.current = some (task, rest)) ∨
    shared.executor.worker.current = none ∧ ∃ status, (task, status) ∈ shared.executor.ended)

/-- A submission is under way, of the task, on what was `line`. -/
def Shared.Pending (shared : Shared) (line : Line) (task : Bus.TaskId) : Prop :=
  task ∉ shared.executor.begun ∧ shared.Behind line ∨
    task ∈ shared.executor.begun ∧ shared.Inside line task

/-- What the one caller has done, in the world its request found. -/
inductive Shared.Serves [EzoDriver] [ProviderSdk] (shared : Shared) (start : World) : Prop where
  | idle (returned : shared.Returned) (state : start.state = shared.state)
      (clock : start.clock = shared.clock) (behind : shared.Behind start.line)
  | running {index : Nat} {thread : Thread} {request : Request} {trace : CallerTrace}
      {rest : Caller Unit} {world : World} (only : shared.OnlyThread index)
      (found : shared.threads[index]? = some thread) (here : thread.phase = .running rest)
      (advance : request.run.Advances trace rest)
      (path : (World.environment Line.Submitted).Path start trace world)
      (state : world.state = shared.state) (clock : world.clock = shared.clock)
      (behind : shared.Behind world.line)
  | waiting {index : Nat} {thread : Thread} {request : Request} {trace : CallerTrace}
      {task : Bus.TaskId} {name : String} {timeout : Int} {job : Job}
      {next : SubmitReply → Caller Unit} {world : World} (only : shared.OnlyThread index)
      (found : shared.threads[index]? = some thread) (here : thread.phase = .waiting task next)
      (advance : request.run.Advances trace (.perform (.submit name timeout job) next))
      (path : (World.environment Line.Submitted).Path start trace world)
      (state : world.state = shared.state) (clock : world.clock = shared.clock)
      (submission : shared.executor.submissionOf task = some { name, timeout, job })
      (pending : shared.Pending world.line task)

/-! ## Turns of the worker -/

/-- A turn of the worker, and what it does on the bus. -/
inductive Shared.Turn (shared shared' : Shared) : Prop where
  | kept (current : shared'.executor.worker.current = shared.executor.worker.current)
      (begun : shared'.executor.begun = shared.executor.begun)
      (log : shared'.executor.log = shared.executor.log)
      (ended : shared'.executor.ended = shared.executor.ended) (bus : shared'.bus = shared.bus)
  | began {task : Bus.TaskId} {call : Bus.Call JobOp JobOp.Result}
      (owes : shared.executor.worker.owes = some task)
      (before : shared.executor.worker.current = none)
      (found : shared.executor.calls[task]? = some call) (timely : call.timedOut = false)
      (fresh : task ∉ shared.executor.begun)
      (current : shared'.executor.worker.current = some (task, call.job))
      (begun : shared'.executor.begun = shared.executor.begun ++ [task])
      (log : shared'.executor.log = shared.executor.log)
      (ended : shared'.executor.ended = shared.executor.ended) (bus : shared'.bus = shared.bus)
  | exchanged {task : Bus.TaskId} {op : JobOp} {next : op.Result → Job} {answer : op.Result}
      (before : shared.executor.worker.current = some (task, .perform op next))
      (current : shared'.executor.worker.current = some (task, next answer))
      (begun : shared'.executor.begun = shared.executor.begun)
      (log : shared'.executor.log = shared.executor.log ++ [(task, ⟨op, answer⟩)])
      (ended : shared'.executor.ended = shared.executor.ended)
      (answers : Bus.environment.Answers shared.bus op answer shared'.bus)
  | ended {task : Bus.TaskId} {status : Status}
      (before : shared.executor.worker.current = some (task, .done status))
      (current : shared'.executor.worker.current = none)
      (begun : shared'.executor.begun = shared.executor.begun)
      (log : shared'.executor.log = shared.executor.log)
      (ended : shared'.executor.ended = shared.executor.ended ++ [(task, status)])
      (bus : shared'.bus = shared.bus)

theorem Shared.turn_of_silent {action : Bus.Executor.Action} (invariant : shared.executor.Invariant)
    (transition : Bus.Executor.Step shared.executor action shared'.executor)
    (silent : shared'.executor.log = shared.executor.log) (bus : shared'.bus = shared.bus) :
    shared.Turn shared' := by
  cases transition.turn invariant with
  | kept current begun log ended => exact .kept current begun log ended bus
  | began owes before found timely fresh current begun log ended =>
      exact .began owes before found timely fresh current begun log ended bus
  | exchanged answer before current begun log => simp [silent] at log
  | ended before current begun log ended => exact .ended before current begun log ended bus

theorem Shared.turn_of_exchanged {action : Bus.Executor.Action} {task : Bus.TaskId} {op : JobOp}
    {answer : op.Result} (invariant : shared.executor.Invariant)
    (transition : Bus.Executor.Step shared.executor action shared'.executor)
    (logged : shared'.executor.log = shared.executor.log ++ [(task, ⟨op, answer⟩)])
    (answers : Bus.environment.Answers shared.bus op answer shared'.bus) :
    shared.Turn shared' := by
  cases transition.turn invariant with
  | kept _ _ log | began _ _ _ _ _ _ _ log | ended _ _ _ log => simp [log] at logged
  | exchanged other before current begun log ended =>
      obtain ⟨rfl, rfl, rfl⟩ : _ := by simpa [log] using logged
      exact .exchanged before current begun log ended answers

theorem Line.Passed.running_eq {line line' : Line} (passed : line.Passed line') :
    line'.running = line.running := by
  cases passed <;> rfl

/-- Nothing of what has been said of the line depends on the threads or the state. -/
theorem Shared.Behind.of_same {line : Line} (behind : shared.Behind line)
    (executor : shared'.executor.worker.current = shared.executor.worker.current)
    (bus : shared'.bus = shared.bus) : shared'.Behind line := by
  obtain ⟨passed, passes, running, same, orphan⟩ := behind
  refine ⟨passed, passes, running, same.trans bus.symm, ?_⟩
  rw [executor]
  exact orphan

theorem Shared.Behind.drift {line : Line} (behind : shared.Behind line)
    (executor : shared'.executor = shared.executor) (drift : Bus.Drift shared.bus shared'.bus) :
    shared'.Behind line := by
  obtain ⟨passed, passes, running, same, orphan⟩ := behind
  rw [← same] at drift
  refine ⟨_, passes.drift drift, running, rfl, ?_⟩
  rw [executor]
  exact orphan

theorem Shared.Inside.drift {line : Line} {task : Bus.TaskId} (inside : shared.Inside line task)
    (executor : shared'.executor = shared.executor) (drift : Bus.Drift shared.bus shared'.bus) :
    shared'.Inside line task := by
  obtain ⟨⟨cleared, ended, running, clear, path, earlier⟩, at'⟩ := inside
  rw [Inside, executor]
  exact ⟨⟨cleared, ended, running, clear, path, earlier.trans drift⟩, at'⟩

/-- A turn of the worker while no job of a caller has begun. -/
theorem Shared.Behind.turn {line : Line} (behind : shared.Behind line) (turn : shared.Turn shared')
    (unbegun : shared'.executor.begun = shared.executor.begun) : shared'.Behind line := by
  obtain ⟨passed, passes, running, same, orphan⟩ := behind
  cases turn with
  | kept current begun log ended bus =>
      exact Shared.Behind.of_same ⟨passed, passes, running, same, orphan⟩ current bus
  | began owes before found timely fresh current begun => simp [unbegun] at begun
  | exchanged before current begun log ended answers =>
      rcases orphan with orphan | ⟨none, _⟩
      · rw [before, Option.map_some] at orphan
        rw [← same] at answers
        refine ⟨_, passes.exchanged orphan answers, running, rfl, .inl ?_⟩
        rw [current, Option.map_some]
      · simp [before] at none
  | @ended task status before current begun log ended bus =>
      refine ⟨passed, passes, running, same.trans bus.symm, .inr ⟨current, status, ?_⟩⟩
      rcases orphan with orphan | ⟨none, _⟩
      · rw [orphan, before, Option.map_some]
      · simp [before] at none

/-- The job of the caller begins. -/
theorem Shared.Behind.begin {line : Line} {task : Bus.TaskId} (behind : shared.Behind line)
    (invariant : shared.executor.Invariant) (fresh : task ∉ shared.executor.begun)
    (before : shared.executor.worker.current = none) {job : Job}
    (current : shared'.executor.worker.current = some (task, job))
    (log : shared'.executor.log = shared.executor.log) (bus : shared'.bus = shared.bus) :
    shared'.Inside line task := by
  obtain ⟨passed, passes, running, same, orphan⟩ := behind
  have spent : ∀ job, passed.orphan = some job → ∃ status, job = .done status := by
    rintro job left
    rw [left] at orphan
    rcases orphan with inside | ⟨_, status, done⟩
    · simp [before] at inside
    · cases done
      exact ⟨status, rfl⟩
  obtain ⟨cleared, clear, drift⟩ := passes.cleared spent
  have none : shared'.executor.traceOf task = [] := by
    rw [Bus.Executor.traceOf, log]
    exact invariant.traceOf_unbegun fresh
  refine ⟨⟨cleared, cleared, passes.running_eq.symm.trans running, clear, ?_, ?_⟩, .inl ⟨job, current⟩⟩
  · rw [none]
    exact .nil
  · rw [bus, ← same]
    exact drift

/-- A turn of the worker while it is in or past the job of the caller. -/
theorem Shared.Inside.turn {line : Line} {task : Bus.TaskId} (inside : shared.Inside line task)
    (turn : shared.Turn shared') (unbegun : shared'.executor.begun = shared.executor.begun) :
    shared'.Inside line task := by
  obtain ⟨⟨cleared, ended, running, clear, path, drift⟩, at'⟩ := inside
  -- Where nothing is logged the path stays as it is.
  have silently : shared'.executor.log = shared.executor.log → shared'.bus = shared.bus →
      ∃ cleared ended, line.running = true ∧ line.Cleared cleared ∧
        Bus.environment.Path cleared (shared'.executor.traceOf task) ended ∧
          Bus.Drift ended shared'.bus := by
    intro log same
    refine ⟨cleared, ended, running, clear, ?_, same ▸ drift⟩
    rw [Bus.Executor.traceOf, log]
    exact path
  cases turn with
  | kept current begun log ran bus =>
      refine ⟨silently log bus, ?_⟩
      rw [current, ran]
      exact at'
  | began owes before found timely fresh current begun => simp [unbegun] at begun
  | exchanged before current begun log ran answers =>
      rcases at' with ⟨rest, own⟩ | ⟨none, _⟩
      · cases before.symm.trans own
        refine ⟨⟨cleared, _, running, clear, ?_, .refl⟩, .inl ⟨_, current⟩⟩
        rw [Bus.Executor.traceOf_append log, if_pos rfl]
        exact path_answered path drift answers
      · simp [before] at none
  | @ended other status before current begun log ran bus =>
      refine ⟨silently log bus, .inr ⟨current, ?_⟩⟩
      rw [ran]
      rcases at' with ⟨rest, own⟩ | ⟨none, _⟩
      · cases before.symm.trans own
        exact ⟨status, List.mem_append_right _ (List.mem_singleton_self _)⟩
      · simp [before] at none

end Sequential

/-! ## Calls under the threads -/

section Threads

variable [EzoDriver] [DecimalText] [ProviderSdk] {shared shared' : Shared} {label : ThreadLabel}

theorem attends_of_threads (reachable : threads.Reachable shared) :
    shared.executor.Attends := by
  let attended : Shared → Prop := fun shared => shared.executor.Attends
  have attends : attended shared := by
    refine reachable.induct ?_ ?_
    · rintro _ ⟨config, world, _, _, _, rfl⟩ task call found
      simp [Bus.Executor.justStarted] at found
    rintro shared label shared' prior attends step
    have sound := sound_of_threads prior
    cases step with
    | submitted =>
        exact Bus.Executor.Attends.submitted attends sound.serving.1 sound.serving.2 _
    | served serves transition | exchanged serves transition =>
        exact Bus.Executor.Attends.step attends sound.skips transition serves
    | _ => exact attends
  exact attends

/-- A task which some thread waits for is waited for until its caller has its reply. -/
theorem Shared.Awaited.step (awaited : shared.Awaited) (sound : shared.Sound fun _ => True)
    (step : SharedStep shared label shared') : shared'.Awaited := by
  -- The calls are as before and only a thread which did not wait has moved.
  have moved : ∀ {index : Nat} {thread new : Thread},
      shared.threads[index]? = some thread → (∀ task next, thread.phase ≠ .waiting task next) →
      ∀ task, (∃ thread ∈ shared.threads, ∃ next, thread.phase = .waiting task next) →
        ∃ thread ∈ shared.threads.set index new, ∃ next, thread.phase = .waiting task next := by
    rintro index thread new found busy task ⟨waiter, listed, next, waits⟩
    obtain ⟨other, there⟩ := List.getElem?_of_mem listed
    have still : (shared.threads.set index new)[other]? = some waiter := by
      rw [List.getElem?_set_ne, there]
      rintro rfl
      cases found.symm.trans there
      exact busy _ _ waits
    exact ⟨waiter, List.mem_of_getElem? still, next, waits⟩
  have kept : ∀ {index : Nat} {thread new : Thread},
      shared.threads[index]? = some thread → (∀ task next, thread.phase ≠ .waiting task next) →
      shared'.threads = shared.threads.set index new → shared'.executor = shared.executor →
      shared'.Awaited := by
    intro index thread new found busy entries executor task call called
    rw [executor] at called
    rw [entries]
    exact (awaited task call called).imp_left (moved found busy task)
  cases step with
  | arrived =>
      intro task call called
      refine (awaited task call called).imp_left ?_
      rintro ⟨waiter, listed, waits⟩
      exact ⟨waiter, List.mem_append_left _ listed, waits⟩
  | locked found here => exact kept found (by simp [here]) rfl rfl
  | systemNow now found here => exact kept found (by simp [here]) rfl rfl
  | steadyNow found here => exact kept found (by simp [here]) rfl rfl
  | warned found here => exact kept found (by simp [here]) rfl rfl
  | @submitted index thread name timeout job next found here =>
      obtain ⟨⟨new, calls, _⟩, _⟩ := Bus.Executor.submitted_frame shared.executor
        { name, timeout, job }
      intro task call called
      rw [calls] at called
      rcases Bus.getElem?_append_singleton_cases called with old | ⟨rfl, _⟩
      · exact (awaited task call old).imp_left (moved found (by simp [here]) task)
      · have within := (List.getElem?_eq_some_iff.mp found).1
        exact .inl ⟨_, List.mem_set within _, next, rfl⟩
  | @replied index thread task next call outcome found here called returned =>
      intro other otherCall otherCalled
      by_cases same : other = task
      · subst same
        cases called.symm.trans otherCalled
        exact .inr ⟨outcome, returned⟩
      · refine (awaited other otherCall otherCalled).imp_left ?_
        rintro ⟨waiter, listed, further, waits⟩
        obtain ⟨position, there⟩ := List.getElem?_of_mem listed
        have still : (shared.threads.set index
            { phase := .running (next (shared.replyOf task call.name outcome)),
              held := some task })[position]? = some waiter := by
          rw [List.getElem?_set_ne, there]
          rintro rfl
          cases found.symm.trans there
          cases here.symm.trans waits
          exact same rfl
        exact ⟨waiter, List.mem_of_getElem? still, further, waits⟩
  | @served action executor serves transition | @exchanged action executor _ _ _ _ serves transition =>
      intro task call called
      have within : task < shared.executor.calls.length := by
        rw [← (transition.serves serves).2.2]
        exact (List.getElem?_eq_some_iff.mp called).1
      have before := List.getElem?_eq_getElem within
      refine (awaited task _ before).imp_right ?_
      rintro ⟨outcome, returned⟩
      obtain ⟨after, found, extended⟩ :=
        transition.extends_call sound.executor.order.queue_nodup before
      cases found.symm.trans called
      exact ⟨outcome, extended.returned _ returned⟩
  | passed => exact awaited

theorem awaited_of_threads (reachable : threads.Reachable shared) : shared.Awaited := by
  refine reachable.induct ?_ fun prior awaited step => awaited.step (sound_of_threads prior) step
  rintro _ ⟨config, world, _, _, _, rfl⟩ task call found
  simp [Bus.Executor.justStarted] at found

/-! ## Submissions of the one caller -/

omit [ProviderSdk] in
/-- What the caller of a task finds when it goes on is an outcome of its submission. -/
theorem Shared.Pending.replied {line : Line} {task : Bus.TaskId} {name : String} {timeout : Int}
    {job : Job} {call : Bus.Call JobOp JobOp.Result} {outcome : Bus.SubmitOutcome}
    (pending : shared.Pending line task) (sound : shared.Sound fun _ => True)
    (attended : call.Attended) (called : shared.executor.calls[task]? = some call)
    (returned : call.phase = .returned outcome)
    (submission : call.submission = { name, timeout, job }) :
    ∃ line', line.Submitted name timeout job (shared.replyOf task call.name outcome) line' ∧
      shared.Behind line' := by
  cases submission
  rcases attended.returned outcome returned with rfl | ⟨status, rfl⟩
  · have timed := attended.timed (.inr (.inr returned))
    rcases pending with ⟨unbegun, behind⟩ | ⟨begun, inside⟩
    · obtain ⟨passed, passes, leaves⟩ := behind
      refine ⟨passed, ?_, passed, passed.passed_refl, leaves⟩
      have none := sound.executor.traceOf_unbegun unbegun
      rw [Shared.replyOf, none]
      exact .skipped (passes.running_eq.symm.trans leaves.running) timed passes
    · obtain ⟨⟨cleared, ended, running, clear, path, drift⟩, at'⟩ := inside
      rcases at' with ⟨rest, current⟩ | ⟨current, status, ran⟩
      · obtain ⟨_, same, advance⟩ := sound.executor.advances_current current
        cases called.symm.trans same
        refine ⟨_, .expired running timed clear advance path drift, _, Line.passed_refl _,
          running, rfl, .inl ?_⟩
        rw [current, Option.map_some]
      · obtain ⟨_, same, run⟩ := sound.executor.executions.completed _ ran
        cases called.symm.trans same
        exact ⟨_, .expired running timed clear run path drift, _, Line.passed_refl _,
          running, rfl, .inr ⟨current, status, rfl⟩⟩
  · have ran := sound.executor.promises.ended called returned
    obtain ⟨_, same, run⟩ := sound.executor.executions.completed _ ran
    cases called.symm.trans same
    rcases pending with ⟨unbegun, _⟩ | ⟨begun, inside⟩
    · exact absurd (sound.executor.executions.ended_begun _ ran) unbegun
    · obtain ⟨⟨cleared, ended, running, clear, path, drift⟩, at'⟩ := inside
      have current : shared.executor.worker.current = none := by
        rcases at' with ⟨rest, current⟩ | ⟨current, _⟩
        · exact absurd rfl ((sound.executor.executions.current current).1 _ ran)
        · exact current
      refine ⟨_, .finished running clear run path drift, _, Line.passed_refl _, running, rfl,
        .inl ?_⟩
      rw [current, Option.map_none]

/-! ## Requests of the one caller -/

/-- A request which has returned is an operation of the provider, or has changed nothing. -/
theorem reachable_of_completes {request : Request} {start world : World}
    (reachable : (provider Line.Submitted).Reachable start)
    (completes : Completes (World.environment Line.Submitted) request.run start () world) :
    (provider Line.Submitted).Reachable world := by
  have performed : ∀ {operation : Operation}, ProviderStep Line.Submitted start operation world →
      (provider Line.Submitted).Reachable world := fun step => reachable.steps (.single step)
  cases request with
  | refresh deviceId =>
      obtain ⟨_, _, done, rest⟩ := completes_bind_iff.mp completes
      cases (completes_done_iff.mp rest).2
      exact performed (.refresh done)
  | readLevel deviceId =>
      obtain ⟨_, _, done, rest⟩ := completes_bind_iff.mp completes
      cases (completes_done_iff.mp rest).2
      exact performed (.readLevel done)
  | check deviceId =>
      obtain ⟨_, _, done, rest⟩ := completes_bind_iff.mp completes
      cases (completes_done_iff.mp rest).2
      exact performed (.check done)
  | read deviceId signalIds =>
      obtain ⟨_, _, done, rest⟩ := completes_bind_iff.mp completes
      cases (completes_done_iff.mp rest).2
      exact performed (.read done)
  | call deviceId functionId args =>
      obtain ⟨_, _, done, rest⟩ := completes_bind_iff.mp completes
      cases (completes_done_iff.mp rest).2
      exact performed (.call done)
  | health deviceId =>
      obtain ⟨_, _, done, rest⟩ := completes_bind_iff.mp completes
      cases (completes_done_iff.mp rest).2
      obtain ⟨state, _, looked, onward⟩ := completes_bind_iff.mp done
      obtain ⟨rfl, rfl⟩ := completes_snapshot_iff.mp looked
      split at onward
      · cases (completes_done_iff.mp onward).2
        exact reachable
      · obtain ⟨_, _, read, last⟩ := completes_bind_iff.mp onward
        cases completes_systemNow_iff.mp read
        cases (completes_done_iff.mp last).2
        exact reachable

/-! ## Steps -/

/-- A thread about to perform an operation is the one caller's. -/
theorem Shared.Serves.busy {start : World} (serves : shared.Serves start) {index : Nat}
    {thread : Thread} {op : CallerOp} {next : op.Result → Caller Unit}
    (found : shared.threads[index]? = some thread)
    (here : thread.phase = .running (.perform op next)) :
    ∃ (request : Request) (trace : CallerTrace) (world : World), shared.OnlyThread index ∧
      request.run.Advances trace (.perform op next) ∧
      (World.environment Line.Submitted).Path start trace world ∧ world.state = shared.state ∧
      world.clock = shared.clock ∧ shared.Behind world.line := by
  cases serves with
  | idle returned =>
      have done := returned thread (List.mem_of_getElem? found)
      cases here.symm.trans done
  | @running other busy request trace rest world only there running advance path state clock behind =>
      by_cases same : index = other
      · subst same
        cases found.symm.trans there
        cases here.symm.trans running
        exact ⟨request, trace, world, only, advance, path, state, clock, behind⟩
      · cases here.symm.trans (only index thread found same)
  | @waiting other busy request trace task name timeout job further world only there waits =>
      by_cases same : index = other
      · subst same
        cases found.symm.trans there
        cases here.symm.trans waits
      · cases here.symm.trans (only index thread found same)

/-- The one caller has been answered and goes on. -/
theorem Shared.Serves.goOn {start world world' : World} {index : Nat} {thread new : Thread}
    {request : Request} {trace : CallerTrace} {op : CallerOp} {next : op.Result → Caller Unit}
    {answer : op.Result} (only : shared.OnlyThread index)
    (found : shared.threads[index]? = some thread)
    (entries : shared'.threads = shared.threads.set index new)
    (here : new.phase = .running (next answer))
    (advance : request.run.Advances trace (.perform op next))
    (path : (World.environment Line.Submitted).Path start trace world)
    (answers : (World.environment Line.Submitted).Answers world op answer world')
    (state : world'.state = shared'.state) (clock : world'.clock = shared'.clock)
    (behind : shared'.Behind world'.line) : shared'.Serves start := by
  refine .running (only.set entries) ?_ here (advance.trans (.perform .refl))
    (path.trans (.cons answers .nil)) state clock behind
  rw [entries, List.getElem?_set_self (List.getElem?_eq_some_iff.mp found).1]

/-- Between two requests the world is one of the provider. -/
theorem Shared.Serves.settle {start : World} (serves : shared.Serves start)
    (reachable : (provider Line.Submitted).Reachable start) (returned : shared.Returned) :
    ∃ world, (provider Line.Submitted).Reachable world ∧ world.state = shared.state ∧
      world.clock = shared.clock ∧ shared.Behind world.line := by
  cases serves with
  | idle _ state clock behind => exact ⟨start, reachable, state, clock, behind⟩
  | @running index thread request trace rest world only found here advance path state clock behind =>
      cases here.symm.trans (returned thread (List.mem_of_getElem? found))
      exact ⟨world, reachable_of_completes reachable ⟨trace, advance, path⟩, state, clock, behind⟩
  | waiting only found here =>
      cases here.symm.trans (returned _ (List.mem_of_getElem? found))

/-- A turn of the worker. It begins no job but that of the one caller. -/
theorem Shared.Serves.turn {start : World} (serves : shared.Serves start)
    (sound : shared.Sound fun _ => True) (awaited : shared.Awaited)
    {executor : Bus.Executor JobOp JobOp.Result} {bus : Bus}
    (grows : shared.executor.Grows executor) (turn : shared.Turn { shared with executor, bus }) :
    Shared.Serves { shared with executor, bus } start := by
  -- Whose job begins: it is waited for, since a task given up is skipped.
  have begins : executor.begun ≠ shared.executor.begun → ∃ task job,
      (∃ thread ∈ shared.threads, ∃ next, thread.phase = .waiting task next) ∧
      task ∉ shared.executor.begun ∧ shared.executor.worker.current = none ∧
      executor.worker.current = some (task, job) ∧ executor.begun = shared.executor.begun ++ [task] ∧
      executor.log = shared.executor.log ∧ bus = shared.bus := by
    intro begun
    cases turn with
    | kept _ same | exchanged _ _ same | ended _ _ same => exact absurd same begun
    | @began task call owes before found timely fresh current added log ended same =>
        refine ⟨task, call.job, ?_, fresh, before, current, added, log, same⟩
        rcases awaited task call found with waits | ⟨outcome, returned⟩
        · exact waits
        · have flagged := sound.executor.flagged_of_returned (.inr owes) found returned
          simp [timely] at flagged
  cases serves with
  | idle returned state clock behind =>
      refine .idle returned state clock (behind.turn turn ?_)
      by_contra begun
      obtain ⟨task, job, ⟨thread, listed, next, waits⟩, _⟩ := begins begun
      cases waits.symm.trans (returned thread listed)
  | @running index thread request trace rest world only found here advance path state clock behind =>
      refine .running only found here advance path state clock (behind.turn turn ?_)
      by_contra begun
      obtain ⟨task, job, ⟨waiter, listed, next, waits⟩, _⟩ := begins begun
      obtain ⟨other, there⟩ := List.getElem?_of_mem listed
      by_cases same : other = index
      · subst same
        cases found.symm.trans there
        cases here.symm.trans waits
      · cases waits.symm.trans (only other waiter there same)
  | @waiting index thread request trace task name timeout job next world only found here advance
      path state clock submission pending =>
      refine .waiting only found here advance path state clock (grows.submissionOf submission) ?_
      by_cases begun : executor.begun = shared.executor.begun
      · rcases pending with ⟨unbegun, behind⟩ | ⟨earlier, inside⟩
        · exact .inl ⟨by rw [begun]; exact unbegun, behind.turn turn begun⟩
        · exact .inr ⟨by rw [begun]; exact earlier, inside.turn turn begun⟩
      · obtain ⟨own, own', ⟨waiter, listed, further, waits⟩, fresh, before, current, added, log, same⟩ :=
          begins begun
        obtain ⟨other, there⟩ := List.getElem?_of_mem listed
        obtain rfl : own = task := by
          by_cases position : other = index
          · subst position
            cases found.symm.trans there
            cases here.symm.trans waits
            rfl
          · cases waits.symm.trans (only other waiter there position)
        rcases pending with ⟨_, behind⟩ | ⟨earlier, _⟩
        · refine .inr ⟨by simp [added], ?_⟩
          exact @Shared.Behind.begin _ _ { shared with executor, bus } _ _ behind sound.executor
            fresh before _ current log same
        · exact absurd earlier fresh

/-- Every step of the threads is one the one caller could see. -/
theorem Shared.Serves.step {start : World} (serves : shared.Serves start)
    (reachable : (provider Line.Submitted).Reachable start) (prior : Runtime.threads.Reachable shared)
    (step : SharedStep shared label shared') (alone : OneAtATime shared label shared') :
    ∃ start', (provider Line.Submitted).Reachable start' ∧ shared'.Serves start' := by
  have sound := sound_of_threads prior
  have awaited := awaited_of_threads prior
  cases step with
  | @arrived request =>
      have returned := alone request rfl
      obtain ⟨world, here, state, clock, behind⟩ := serves.settle reachable returned
      refine ⟨world, here, .running ?_ (List.getElem?_concat_length) rfl .refl .nil
        state clock (behind.of_same rfl rfl)⟩
      intro other thread found different
      rcases Bus.getElem?_append_singleton_cases found with old | ⟨same, _⟩
      · exact returned thread (List.mem_of_getElem? old)
      · exact absurd same different
  | @locked index thread change next found here =>
      obtain ⟨request, trace, world, only, advance, path, state, clock, behind⟩ :=
        serves.busy found here
      rw [← state]
      exact ⟨start, reachable, .goOn only found rfl rfl advance path ⟨rfl, rfl⟩ (by rw [state])
        clock (behind.of_same rfl rfl)⟩
  | systemNow now found here =>
      obtain ⟨request, trace, world, only, advance, path, state, clock, behind⟩ :=
        serves.busy found here
      exact ⟨start, reachable, .goOn only found rfl rfl advance path rfl state clock
        (behind.of_same rfl rfl)⟩
  | steadyNow found here later =>
      obtain ⟨request, trace, world, only, advance, path, state, clock, behind⟩ :=
        serves.busy found here
      rw [← clock] at later
      exact ⟨start, reachable, .goOn only found rfl rfl advance path ⟨later, rfl⟩ state rfl
        (behind.of_same rfl rfl)⟩
  | warned found here =>
      obtain ⟨request, trace, world, only, advance, path, state, clock, behind⟩ :=
        serves.busy found here
      exact ⟨start, reachable, .goOn only found rfl rfl advance path rfl state clock
        (behind.of_same rfl rfl)⟩
  | @submitted index thread name timeout job next found here =>
      obtain ⟨request, trace, world, only, advance, path, state, clock, behind⟩ :=
        serves.busy found here
      obtain ⟨_, workers, begun, _⟩ := Bus.Executor.submitted_frame shared.executor
        { name, timeout, job }
      have current : (shared.executor.submitted { name, timeout, job }).worker.current =
          shared.executor.worker.current := by
        rw [Bus.Executor.worker, workers, Bus.Executor.worker]
      refine ⟨start, reachable, .waiting (only.set rfl)
        (List.getElem?_set_self (List.getElem?_eq_some_iff.mp found).1) rfl advance path state clock
        Bus.Executor.submissionOf_submitted_new (.inl ⟨?_, behind.of_same current rfl⟩)⟩
      rw [begun]
      intro member
      exact Nat.lt_irrefl _ (sound.executor.order.known_lt (.inl member))
  | @replied index thread task next call outcome found here called returned =>
      cases serves with
      | idle done =>
          cases here.symm.trans (done thread (List.mem_of_getElem? found))
      | @running other _ _ _ _ _ only there running =>
          by_cases same : index = other
          · subst same
            cases found.symm.trans there
            cases here.symm.trans running
          · cases here.symm.trans (only index thread found same)
      | @waiting other busy request trace pendingTask name timeout job further world only there
          waits advance path state clock submission pending =>
          by_cases same : index = other
          · subst same
            cases found.symm.trans there
            cases here.symm.trans waits
            have submitted : call.submission = { name, timeout, job } := by
              simpa [Bus.Executor.submissionOf, called] using submission
            obtain ⟨line, outcome, behind⟩ := pending.replied sound
              (attends_of_threads prior task call called) called returned submitted
            have answers : (World.environment Line.Submitted).Answers world
                (.submit name timeout job) _ { world with line } := ⟨line, outcome, rfl⟩
            exact ⟨start, reachable, .goOn only found rfl rfl advance path answers state clock
              (behind.of_same rfl rfl)⟩
          · cases here.symm.trans (only index thread found same)
  | served serves' transition silent =>
      exact ⟨start, reachable, serves.turn sound awaited (transition.grows sound.executor)
        (Shared.turn_of_silent sound.executor transition silent rfl)⟩
  | exchanged serves' transition logged answers =>
      exact ⟨start, reachable, serves.turn sound awaited (transition.grows sound.executor)
        (Shared.turn_of_exchanged sound.executor transition logged answers)⟩
  | passed drift =>
      cases serves with
      | idle returned state clock behind =>
          exact ⟨start, reachable, .idle returned state clock (behind.drift rfl drift)⟩
      | running only found here advance path state clock behind =>
          exact ⟨start, reachable,
            .running only found here advance path state clock (behind.drift rfl drift)⟩
      | waiting only found here advance path state clock submission pending =>
          refine ⟨start, reachable, .waiting only found here advance path state clock submission ?_⟩
          exact pending.imp (.imp_right fun behind => behind.drift rfl drift)
            (.imp_right fun inside => inside.drift rfl drift)

theorem serves_of_started (started : Started shared) :
    ∃ start, (provider Line.Submitted).Reachable start ∧ shared.Serves start := by
  obtain ⟨config, world, initialized, running, alone, rfl⟩ := started
  refine ⟨world, .initial ⟨config, initialized⟩, .idle (by simp [Shared.Returned]) rfl rfl ?_⟩
  exact ⟨world.line, world.line.passed_refl, running, rfl, .inl alone⟩

theorem serves_of_reachable (reachable : (threads.restrict OneAtATime).Reachable shared) :
    ∃ start, (provider Line.Submitted).Reachable start ∧ shared.Serves start := by
  refine reachable.induct serves_of_started fun prior holds step => ?_
  obtain ⟨start, here, serves⟩ := holds
  exact serves.step here prior.of_restrict step.1 step.2

/-- Threads which make their requests one at a time are the one caller of `provider`: whenever all
have returned the state, the clock and the line are those of a world it reaches. -/
theorem provider_of_threads (reachable : (threads.restrict OneAtATime).Reachable shared)
    (returned : shared.Returned) :
    ∃ world, (provider Line.Submitted).Reachable world ∧ world.state = shared.state ∧
      world.clock = shared.clock ∧ shared.Leaves world.line := by
  obtain ⟨start, here, serves⟩ := serves_of_reachable reachable
  obtain ⟨world, there, state, clock, passed, passes, leaves⟩ := serves.settle here returned
  exact ⟨{ world with line := passed }, there.steps (.single (.wait passes)), state, clock, leaves⟩

end Threads

section Canned

open CannedBus CannedProvider CannedThreads

/-- Lets a request arrive when all before it have returned. -/
def oneByOne (shared : Shared) (label : ThreadLabel) (_ : Shared) : Bool :=
  match label with
  | .arrived _ => hasReturned shared
  | _ => true

theorem oneAtATime_of_oneByOne {shared shared' : Shared} {label : ThreadLabel}
    (permitted : oneByOne shared label shared' = true) : OneAtATime shared label shared' := by
  rintro request rfl
  exact returned_of_hasReturned permitted

/-- The caller of a check gives up, and a call to set 30 C is made while the job of the check is
still running. The caller of the call gives up on both jobs of its own too. -/
def twoGivenUp : List Choice :=
  .arrives (.check "probe") :: .goes 0 :: .goes 0 :: .works :: .works :: .works ::
    .expires 0 :: .flags 0 :: .returns 0 :: .goes 0 :: .goes 0 ::
      .arrives (.call "probe" kFunctionSetCompensation (temperatureArgs 30)) :: .goes 1 ::
        .goes 1 :: worksThen 9 (.expires 1 :: .flags 1 :: .returns 1 :: .goes 1 :: .goes 1 ::
          .goes 1 :: .expires 2 :: .flags 2 :: .returns 2 :: List.replicate 6 (.goes 1))

/-- Whether both requests have returned, and the worker is inside of a job. -/
def leftRunning (shared : Shared) : Bool :=
  hasReturned shared && shared.threads.length = 2 && shared.executor.worker.current.isSome

theorem twoGivenUp_leftRunning :
    (runs healthy oneByOne twoGivenUp start).any leftRunning = true := by
  decide +kernel

theorem provider_of_threads_canned :
    ∃ shared world, (threads.restrict OneAtATime).Reachable shared ∧ shared.threads.length = 2 ∧
      shared.Returned ∧ (provider Line.Submitted).Reachable world ∧ world.state = shared.state ∧
        world.clock = shared.clock ∧ world.line.orphan.isSome = true := by
  obtain ⟨shared, reachable, checked⟩ := exists_reachable oneAtATime_of_oneByOne twoGivenUp_leftRunning
  simp only [leftRunning, Bool.and_eq_true, decide_eq_true_eq] at checked
  obtain ⟨⟨returned, two⟩, inside⟩ := checked
  have settled := returned_of_hasReturned returned
  obtain ⟨world, there, state, clock, leaves⟩ := provider_of_threads reachable settled
  refine ⟨shared, world, reachable, two, settled, there, state, clock, ?_⟩
  rcases leaves.orphan with same | ⟨none, _⟩
  · rw [same, Option.isSome_map, inside]
  · rw [none] at inside
    cases inside

end Canned

end EzoProvider.Runtime
