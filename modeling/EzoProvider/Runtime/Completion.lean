import EzoProvider.Bus.Completion
import EzoProvider.Runtime.OneCaller

/-!
# Every request is answered

Unless further requests arrive, whatever the threads, the worker and the bus do
comes to an end, and it ends with every thread returned and every job finished.
A thread is a finite program which goes on with whatever it is answered; what it
submits is served; and what the worker runs is a finite program too.
-/

namespace EzoProvider.Runtime

open Interaction Program Devices TransitionSystem

/-! ## What is left to be done -/

/-- Where a thread may be after one more step of its own. -/
inductive ThreadPhase.After : ThreadPhase → ThreadPhase → Prop where
  | answered {op : CallerOp} {next : op.Result → Caller Unit} (answer : op.Result) :
      After (.running (next answer)) (.running (.perform op next))
  | submitted {name : String} {timeout : Int} {job : Job} {next : SubmitReply → Caller Unit}
      (task : Bus.TaskId) : After (.waiting task next) (.running (.perform (.submit name timeout job) next))
  | replied {task : Bus.TaskId} {next : SubmitReply → Caller Unit} (reply : SubmitReply) :
      After (.running (next reply)) (.waiting task next)

theorem ThreadPhase.wellFounded_after : WellFounded ThreadPhase.After := by
  have waiting : ∀ {task : Bus.TaskId} {next : SubmitReply → Caller Unit},
      (∀ reply, Acc After (.running (next reply))) → Acc After (.waiting task next) := by
    refine fun replied => ⟨_, ?_⟩
    rintro _ ⟨⟩
    exact replied _
  have running : ∀ rest, Acc After (.running rest) := by
    intro rest
    induction rest with
    | done value =>
        refine ⟨_, ?_⟩
        rintro _ ⟨⟩
    | perform op next ih =>
        refine ⟨_, ?_⟩
        rintro _ (answer | task)
        · exact ih answer
        · exact waiting ih
  refine ⟨fun phase => ?_⟩
  cases phase with
  | running rest => exact running rest
  | waiting task next => exact waiting fun reply => running (next reply)

/-- A thread or the worker goes on. -/
def ThreadLabel.GoesOn : ThreadLabel → Prop
  | .stepped _ | .replied _ | .served _ => True
  | .arrived _ | .passed => False

section Steps

variable [EzoDriver] [DecimalText] [ProviderSdk] {shared shared' : Shared} {label : ThreadLabel}

/-- After some time a thread or the worker goes on. -/
def Shared.GoesOn (shared shared' : Shared) : Prop :=
  ∃ bus label, Bus.Drift shared.bus bus ∧ label.GoesOn ∧ SharedStep { shared with bus } label shared'

omit [EzoDriver] [DecimalText] [ProviderSdk] in
/-- What is still to be done: by the threads, and by the executor. -/
def Shared.remains (shared : Shared) : List ThreadPhase ×
    List Bus.SubmitPhase × Nat × List (Bus.WorkerPhase JobOp JobOp.Result) :=
  (shared.threads.map Thread.phase, shared.executor.remains)

/-- A thread may submit one job more, but then has less to do itself. -/
theorem SharedStep.nearer (step : SharedStep shared label shared') (goesOn : label.GoesOn) :
    Prod.Lex (PartAfter ThreadPhase.After) Bus.Executor.Nearer shared'.remains shared.remains := by
  have moved : ∀ {index : Nat} {thread new : Thread} {remaining}, shared.threads[index]? = some thread →
      new.phase.After thread.phase →
      Prod.Lex (PartAfter ThreadPhase.After) Bus.Executor.Nearer
        ((shared.threads.set index new).map Thread.phase, remaining) shared.remains := by
    intro index thread new remaining found after
    rw [List.map_set]
    exact .left _ _ (.moved (by simp [found]) after)
  cases step with
  | arrived | passed => exact absurd goesOn id
  | @locked _ _ change next found here =>
      refine moved found ?_
      rw [here]
      exact @ThreadPhase.After.answered (.locked change) next shared.state
  | systemNow now found here =>
      exact moved found (by rw [here]; exact @ThreadPhase.After.answered .systemNow _ now)
  | @steadyNow _ _ _ now found here =>
      exact moved found (by rw [here]; exact @ThreadPhase.After.answered .steadyNow _ now)
  | @warned _ _ message _ found here =>
      exact moved found (by rw [here]; exact @ThreadPhase.After.answered (.warn message) _ ())
  | submitted found here => exact moved found (by rw [here]; exact .submitted _)
  | replied found here => exact moved found (by rw [here]; exact .replied _)
  | served serves transition => exact .right _ (transition.nearer serves)
  | exchanged serves transition => exact .right _ (transition.nearer serves)

/-- However the threads and the worker are interleaved, they come to an end. -/
theorem wellFounded_goesOn : WellFounded fun shared' shared : Shared => shared.GoesOn shared' := by
  have ends := WellFounded.prod_lex (wellFounded_partAfter ThreadPhase.wellFounded_after)
    (@Bus.Executor.wellFounded_nearer JobOp JobOp.Result)
  refine Subrelation.wf ?_ (InvImage.wf Shared.remains ends)
  rintro shared' shared ⟨bus, label, _, goesOn, step⟩
  exact step.nearer goesOn

/-! ## What can go on -/

omit [EzoDriver] [ProviderSdk] in
/-- The bus answers every operation, be it with a failure. -/
theorem exists_answer (bus : Bus) (op : JobOp) :
    ∃ answer bus', Bus.environment.Answers bus op answer bus' := by
  have answered : ∀ answer : op.Result, Bus.Answer bus op answer bus →
      ∃ answer bus', Bus.environment.Answers bus op answer bus' :=
    fun answer answers => ⟨answer, bus, bus, .refl, answers⟩
  cases op with
  | delay | store => exact answered () rfl
  | bind | readInfo | readOutputConfig | readValue | readOutputs =>
      exact answered (.error .transport) rfl
  | send => exact answered (.error .transport) (.inl rfl)
  | readResponse | readCalibrationStatus | readTemperature | readSalinity | readPressure =>
      exact answered (.error .transport) ⟨rfl, trivial⟩

/-- The worker stays as long as the provider runs. -/
theorem alive_of_threads (reachable : threads.Reachable shared) : shared.executor.worker ≠ .exited := by
  let alive : Shared → Prop := fun shared => shared.executor.worker ≠ .exited
  have here : alive shared := by
    refine reachable.induct ?_ ?_
    · rintro _ ⟨_, _, _, _, _, rfl⟩
      simp [alive, Bus.Executor.worker, Bus.Executor.justStarted]
    intro shared label shared' prior alive step
    have sound := sound_of_threads prior
    cases step with
    | arrived | locked | replied | systemNow | steadyNow | warned | passed => exact alive
    | @submitted _ _ name timeout job =>
        obtain ⟨_, workers, _⟩ := Bus.Executor.submitted_frame shared.executor { name, timeout, job }
        change Bus.Executor.worker _ ≠ _
        rw [Bus.Executor.worker, workers]
        exact alive
    | served serves transition | exchanged serves transition =>
        exact transition.alive sound.executor.threads serves sound.serving.2 alive
  exact here

/-- Unless all have returned and all jobs have finished, a thread or the worker can go on. -/
theorem exists_goesOn (reachable : threads.Reachable shared)
    (unfinished : ¬ (shared.Returned ∧ shared.Finished)) : ∃ shared', shared.GoesOn shared' := by
  have sound := sound_of_threads reachable
  have goes : ∀ (label : ThreadLabel) {shared'}, label.GoesOn → SharedStep shared label shared' →
      ∃ shared', shared.GoesOn shared' :=
    fun label _ goesOn step => ⟨_, shared.bus, label, .refl, goesOn, step⟩
  by_cases finished : shared.Finished
  · -- The worker is idle, so every caller inside `submit` goes on.
    obtain ⟨thread, listed, busy⟩ : ∃ thread ∈ shared.threads, thread.phase ≠ .running (.done ()) := by
      by_contra none
      refine unfinished ⟨fun thread listed => ?_, finished⟩
      by_contra busy
      exact none ⟨thread, listed, busy⟩
    obtain ⟨index, found⟩ := List.getElem?_of_mem listed
    cases here : thread.phase with
    | running rest =>
        cases rest with
        | done value => exact absurd here busy
        | perform op next =>
            cases op with
            | locked change => exact goes (.stepped index) trivial (.locked found here)
            | submit name timeout job => exact goes (.stepped index) trivial (.submitted found here)
            | systemNow => exact goes (.stepped index) trivial (.systemNow 0 found here)
            | steadyNow => exact goes (.stepped index) trivial (.steadyNow found here le_rfl)
            | warn message => exact goes (.stepped index) trivial (.warned found here)
            | checkHost | startExecutor | stopExecutor =>
                -- These are the operations of `initialize` alone.
                obtain ⟨_, _, _, moves, _⟩ := sound.moves found here
                cases moves
    | waiting task next =>
        have fits := sound.fits thread listed
        rw [Thread.Fits, here] at fits
        obtain ⟨errand, does, _⟩ := fits
        obtain ⟨timeout, submission⟩ := does.submission
        obtain ⟨call, called, _⟩ := Option.map_eq_some_iff.mp submission
        have accepted := (attends_of_threads reachable task call called).accepted
        rcases sound.executor.exists_caller_step finished.1 finished.2 called accepted with
          ⟨outcome, returned⟩ | ⟨action, executor, serves, transition, silent⟩
        · exact goes (.replied index) trivial (.replied found here called returned)
        · exact goes (.served action) trivial (.served serves transition silent)
  · have busy : shared.executor.queue ≠ [] ∨ shared.executor.worker ≠ .waiting := by
      by_contra idle
      rw [not_or, not_not, not_not] at idle
      exact finished idle
    rcases sound.executor.exists_worker_step (alive_of_threads reachable) busy with
      ⟨index, executor, transition, silent⟩ | ⟨index, task, op, next, running⟩
    · exact goes (.served (.worker index)) trivial (.served trivial transition silent)
    · obtain ⟨answer, bus, answers⟩ := exists_answer shared.bus op
      exact goes (.served (.worker index)) trivial
        (.exchanged trivial (.exchanged answer running) rfl answers)

/-- Unless further requests arrive every run comes to an end, with all threads returned and all
jobs finished. -/
theorem requests_complete (reachable : threads.Reachable shared) :
    Inevitably (fun shared' shared => shared.GoesOn shared')
      (fun shared => shared.Returned ∧ shared.Finished) shared := by
  refine inevitably_of_acc (fun {shared shared'} before goes => ?_) exists_goesOn
    (wellFounded_goesOn.apply shared) reachable
  obtain ⟨bus, label, drift, _, step⟩ := goes
  have passed : SharedStep shared .passed { shared with bus } := .passed drift
  exact (before.steps (.single passed)).steps (.single step)

end Steps

section Canned

open CannedBus CannedProvider CannedThreads

/-- A check and a refresh at once. The worker is inside of the job of the check, whose caller has
just given up waiting. -/
def twoAtWork : List Choice :=
  .arrives (.check "probe") :: .arrives (.refresh "probe") :: .goes 0 :: .goes 1 :: .goes 0 ::
    .goes 1 :: worksThen 4 [.expires 0]

/-- Whether two calls are inside `submit`, one of them timed out, and the worker is inside of a job. -/
def atWork (shared : Shared) : Bool :=
  shared.executor.calls.map (·.phase) = [.expired, .waiting] && shared.executor.worker.current.isSome

theorem twoAtWork_atWork : (runs healthy anything twoAtWork start).any atWork = true := by
  decide +kernel

theorem requests_complete_canned :
    ∃ shared, threads.Reachable shared ∧
      shared.executor.calls.map (·.phase) = [.expired, .waiting] ∧
      shared.executor.worker.current.isSome = true ∧
        Inevitably (fun shared' shared => shared.GoesOn shared')
          (fun shared => shared.Returned ∧ shared.Finished) shared := by
  obtain ⟨shared, reachable, checked⟩ := exists_reachable_threads twoAtWork_atWork
  simp only [atWork, Bool.and_eq_true, decide_eq_true_eq] at checked
  exact ⟨shared, reachable, checked.1, checked.2, requests_complete reachable⟩

end Canned

end EzoProvider.Runtime
