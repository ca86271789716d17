import EzoProvider.Runtime.Reapplications
import EzoProvider.Runtime.SettledCompensation

/-!
# Copied compensation

A check sends the values it has copied before its job is submitted, so values
remembered since are older on the probe than in the record of the device. Where
none are remembered while a check has copied those before, every check leaves the
probe on the values remembered last, and so do all callers once they have
returned.
-/

namespace EzoProvider.Runtime

open Interaction Program Devices TransitionSystem

/-- The probe of a device holds the values set on it, and a check of them would find it so. -/
structure Shared.Compensates [DecimalText] (shared : Shared) (device : ActiveDevice) : Prop where
  effect : InEffect device.compensationSet (shared.bus device.spec.address).holding
  reported : holdsAll device.compensationSet
    ((shared.bus device.spec.address).holding.reading device.spec.type).values = true

/-- A check of the device has copied the values set on it, and its job has not ended. -/
def Shared.Checking (deviceId : String) (shared : Shared) : Prop :=
  (∃ thread ∈ shared.threads, ∃ timeout job, thread.AboutToCheck deviceId timeout job) ∨
    ∃ task, shared.Named (ReadKind.check.jobName deviceId) task = true ∧
      ∀ status, (task, status) ∉ shared.executor.ended

/-- No values are remembered for a device while a check of it has copied those before. -/
structure Uncrossed (shared : Shared) (label : ThreadLabel) (shared' : Shared) : Prop
    extends Faultless shared label shared' where
  kept : ∀ deviceId device device', shared.Checking deviceId →
    shared.state.find deviceId = some device → shared'.state.find deviceId = some device' →
      device'.compensationSet = device.compensationSet

theorem Uncrossed.undisturbed {shared shared' : Shared} {label : ThreadLabel}
    (uncrossed : Uncrossed shared label shared') : Undisturbed shared label shared' where
  toFaultless := uncrossed.toFaultless
  current deviceId timeout job device device' thread listed checks :=
    uncrossed.kept deviceId device device' (.inl ⟨thread, listed, timeout, job, checks⟩)

section Checks

variable [EzoDriver] {shared shared' : Shared} {spec : DeviceSpec} {task : Bus.TaskId}

/-- The checks of a device which have not ended are of the values set on it. -/
def Shared.ChecksSet (spec : DeviceSpec) (shared : Shared) : Prop :=
  ∀ device, shared.state.find spec.id = some device → ∀ task,
    shared.Named (ReadKind.check.jobName spec.id) task = true →
      (∀ status, (task, status) ∉ shared.executor.ended) →
        shared.ChecksWith spec device.compensationSet task

omit [EzoDriver] in
theorem Shared.named_lt {name : String} (named : shared.Named name task = true) :
    task < shared.executor.calls.length := by
  obtain ⟨submission, found, _⟩ := (Option.any_eq_true _ _).mp named
  exact Bus.Executor.lt_of_submissionOf found

variable [DecimalText] [ProviderSdk] {label : ThreadLabel}

/-- Only a thread's submission is of a task not known before. -/
theorem SharedStep.submits (step : SharedStep shared label shared')
    (fresh : ¬ task < shared.executor.calls.length)
    (known : task < shared'.executor.calls.length) :
    shared'.state = shared.state ∧ ∃ thread ∈ shared.threads, ∃ name timeout job next,
      thread.phase = .running (.perform (.submit name timeout job) next) ∧
        shared'.executor.submissionOf task = some { name, timeout, job } := by
  cases step with
  | @submitted index thread name timeout job next found here =>
      obtain ⟨⟨call, calls, _⟩, _⟩ := Bus.Executor.submitted_frame shared.executor
        { name, timeout, job }
      rw [calls, List.length_append, List.length_singleton] at known
      obtain rfl : task = shared.executor.calls.length :=
        Nat.le_antisymm (Nat.le_of_lt_succ known) (Nat.not_lt.mp fresh)
      exact ⟨rfl, thread, List.mem_of_getElem? found, name, timeout, job, next, here,
        Bus.Executor.submissionOf_submitted_new⟩
  | served serves transition | exchanged serves transition =>
      rw [(transition.serves serves).2.2] at known
      exact absurd known fresh
  | _ => exact absurd known fresh

theorem Shared.ChecksSet.step (checksSet : shared.ChecksSet spec)
    (sound : shared.Sound SparesCompensation) (lists : shared.Lists spec)
    (current : ∀ thread ∈ shared.threads, thread.ChecksCurrent shared.state)
    (step : SharedStep shared label shared') (uncrossed : Uncrossed shared label shared') :
    shared'.ChecksSet spec := by
  have extension := sound.extends step
  intro device' found' task named unended
  by_cases known : task < shared.executor.calls.length
  · obtain ⟨device, found, _⟩ := extension.found sound.apart found'
    rw [extension.named known] at named
    have before : ∀ status, (task, status) ∉ shared.executor.ended := fun status ended =>
      unended status (extension.executor.ended _ ended).1
    rw [uncrossed.kept spec.id device device' (.inr ⟨task, named, before⟩) found found']
    exact (checksSet device found task named before).extend extension
  · obtain ⟨state, thread, listed, name, timeout, job, next, here, submission⟩ :=
      step.submits known (Shared.named_lt named)
    rw [state] at found'
    obtain rfl : name = ReadKind.check.jobName spec.id := by
      simpa [Shared.Named, submission] using named
    obtain ⟨reader, writer, reads, writes, rfl⟩ :=
      current thread listed spec.id device' timeout job ⟨next, here⟩ found'
    rw [lists.spec_eq sound.apart found'] at reads writes submission
    exact ⟨_, timeout, reader, writer, reads, writes, submission⟩

/-- The checks which have not ended, in any state such a run reaches, are of the values set. -/
theorem checksSet_of_reachable (reachable : (threads.restrict Uncrossed).Reachable shared)
    (lists : shared.Lists spec) (reads : (adapterFor spec.type).readCompensation.isSome = true)
    (writes : (adapterFor spec.type).writeCompensation.isSome = true) : shared.ChecksSet spec := by
  let checks : Shared → Prop := fun shared => shared.Lists spec → shared.ChecksSet spec
  suffices holds : checks shared from holds lists
  refine reachable.induct ?_ ?_
  · rintro _ ⟨_, _, _, _, _, rfl⟩ _ device found task named
    exact absurd (Shared.named_lt named) (by simp [Bus.Executor.justStarted])
  rintro shared label shared' prior checks ⟨step, uncrossed⟩ lists
  obtain ⟨sound, settling⟩ := settling_of_reachable (prior.restrict_mono Uncrossed.undisturbed)
  rw [Shared.Lists, (sound.extends step).specs] at lists
  exact (checks lists).step sound lists (settling spec lists reads writes).current step uncrossed

/-- A check which ends leaves the probe on its values. -/
theorem Shared.Settling.checked (settling : shared.Settling spec)
    (sound : shared.Sound SparesCompensation) (step : SharedStep shared label shared')
    (succeeded : shared'.Succeeded) {set : Compensation} {status : Status}
    (checks : shared.ChecksWith spec set task) (takes : Takes spec.type set)
    (ends : shared'.executor.ended = shared.executor.ended ++ [(task, status)]) :
    holdsAll set ((shared'.bus spec.address).holding.reading spec.type).values = true := by
  rcases step.turn sound.executor with turn | ⟨executor, _⟩
  · cases turn with
    | kept _ _ _ ended | began _ _ _ _ _ _ _ _ ended | exchanged _ _ _ _ ended =>
        simp [ended] at ends
    | @ended other final before current begun log ended bus =>
        obtain ⟨rfl, rfl⟩ : other = task ∧ final = status := by simpa [ended] using ends
        have succeeds := succeeded (other, final) (by rw [ended]; simp)
        rw [Bus.Executor.traceOf, log] at succeeds
        rw [bus]
        exact (settling.traced.checked sound.executor before checks takes succeeds).1
  · simp [executor] at ends

/-- In a run in which nothing fails and no values are remembered while a check has copied those
before, a probe compensates with the values set on it whenever a check of it ends, and once all have
returned. -/
theorem checks_keep_remembered {deviceId : String} {device : ActiveDevice}
    (reachable : (threads.restrict Uncrossed).Reachable shared)
    (found : shared.state.find deviceId = some device)
    (reads : (adapterFor device.spec.type).readCompensation.isSome = true)
    (writes : (adapterFor device.spec.type).writeCompensation.isSome = true) :
    (shared.Returned → shared.Compensates device) ∧
      ∀ label shared' task status device', (threads.restrict Uncrossed).Step shared label shared' →
        shared.Named (ReadKind.check.jobName deviceId) task = true →
          shared'.executor.ended = shared.executor.ended ++ [(task, status)] →
            shared'.state.find deviceId = some device' → shared'.Compensates device' := by
  obtain ⟨sound, settling⟩ := settling_of_reachable (reachable.restrict_mono Uncrossed.undisturbed)
  have settled := settling device.spec (Shared.lists_of_found found) reads writes
  obtain ⟨reader, adapted⟩ := Option.isSome_iff_exists.mp reads
  have takes := sound.takes found
  obtain rfl := RuntimeState.find_id found
  constructor
  · intro returned
    have holds := settled.holds_of_returned sound reachable.of_restrict returned found
    exact ⟨inEffect_of_reading adapted takes holds, holds⟩
  · intro label shared' task status device' ⟨step, uncrossed⟩ named ends found'
    have after := sound.step uncrossed.calls step
    have fresh : ∀ status', (task, status') ∉ shared.executor.ended := by
      intro status' ended
      have distinct := after.executor.executions.ended_nodup
      rw [ends, List.map_append, List.nodup_append] at distinct
      exact distinct.2.2 task (List.mem_map_of_mem ended) task (by simp) rfl
    have checks := checksSet_of_reachable reachable (Shared.lists_of_found found) reads writes device
      found task named fresh
    have holds := settled.checked sound step uncrossed.succeeded checks takes ends
    have set := uncrossed.kept _ device device' (.inr ⟨task, named, fresh⟩) found found'
    have spec := (settled.lists.extend (sound.extends step)).spec_eq after.apart found'
    constructor
    · rw [set, spec]
      exact inEffect_of_reading adapted takes holds
    · rw [set, spec]
      exact holds

end Checks

section Canned

open CannedBus CannedProvider CannedThreads

/-- Whether a thread is about to submit, or a job has not ended. -/
def underWay (shared : Shared) : Bool :=
  shared.threads.any aboutToSubmit ||
    (List.range shared.executor.calls.length).any fun task =>
      !shared.executor.ended.any (·.1 = task)

/-- Whether nothing happens in a step which `Uncrossed` excludes. -/
def uncrossed (shared : Shared) (label : ThreadLabel) (shared' : Shared) : Bool :=
  faultless shared label shared' && (!underWay shared || setsNothing shared shared')

theorem underWay_of_checking {shared : Shared} {deviceId : String}
    (checking : shared.Checking deviceId) : underWay shared = true := by
  rcases checking with ⟨thread, listed, timeout, job, checks⟩ | ⟨task, named, unended⟩
  · rw [underWay, any_aboutToSubmit listed checks, Bool.true_or]
  · refine Bool.or_eq_true_iff.mpr (.inr (List.any_eq_true.mpr
      ⟨task, List.mem_range.mpr (Shared.named_lt named), ?_⟩))
    rw [Bool.not_eq_true', List.any_eq_false]
    rintro ⟨other, status⟩ member same
    obtain rfl : other = task := of_decide_eq_true same
    exact unended status member

theorem uncrossed_of_check {shared shared' : Shared} {label : ThreadLabel}
    (checked : uncrossed shared label shared' = true) : Uncrossed shared label shared' := by
  obtain ⟨faultless, kept⟩ := Bool.and_eq_true_iff.mp checked
  refine ⟨faultless_of_check faultless, fun deviceId device device' checking before after => ?_⟩
  rw [underWay_of_checking checking, Bool.not_true, Bool.false_or] at kept
  exact set_of_setsNothing kept before after

theorem setAtOnce_uncrossed :
    (runs healthy uncrossed setAtOnce start).any settledFour = true := by
  decide +kernel

/-- The run of `setAtOnce` up to where the job of its last check is about to end. -/
def lastCheckEnding : List Choice :=
  .arrives (.call "probe" kFunctionSetCompensation (temperatureArgs 30)) ::
    .arrives (.call "probe" kFunctionSetCompensation (temperatureArgs 25)) ::
      .goes 0 :: .goes 1 :: .goes 0 :: .goes 1 :: worksThen 18 (.returns 0 :: .returns 1 ::
        .goes 1 :: .goes 1 :: .goes 0 :: .goes 0 :: .goes 1 :: .goes 0 :: .goes 0 :: .goes 1 ::
          worksThen 22 [])

/-- Whether the worker ends the last check next. -/
def endsLastCheck (shared : Shared) : Bool :=
  shared.Named (ReadKind.check.jobName "probe") 3 &&
    ((shared.state.find "probe").any (·.spec.type = .ph)) &&
      (advance healthy shared .works).any fun next =>
        uncrossed shared next.1 next.2 && (next.2.state.find "probe").isSome &&
          next.2.executor.ended = shared.executor.ended ++ [(3, .success)]

theorem lastCheckEnding_endsLastCheck :
    (runs healthy uncrossed lastCheckEnding start).any endsLastCheck = true := by
  decide +kernel

theorem checks_keep_remembered_canned :
    (∃ (shared : Shared) (device : ActiveDevice),
      (threads.restrict Uncrossed).Reachable shared ∧ shared.executor.ended.length = 4 ∧
        device.compensationSet.temperatureC = some 30 ∧ shared.Compensates device) ∧
      ∃ (shared shared' : Shared) (label : ThreadLabel) (device : ActiveDevice),
        (threads.restrict Uncrossed).Step shared label shared' ∧
          shared'.executor.ended = shared.executor.ended ++ [(3, .success)] ∧
            shared'.state.find "probe" = some device ∧ shared'.Compensates device := by
  constructor
  · obtain ⟨shared, reachable, checked⟩ := exists_reachable uncrossed_of_check setAtOnce_uncrossed
    simp only [settledFour, Bool.and_eq_true, Option.any_eq_true, decide_eq_true_eq] at checked
    obtain ⟨⟨returned, four⟩, device, found, set, family⟩ := checked
    have kept := checks_keep_remembered reachable found (by rw [family]; rfl) (by rw [family]; rfl)
    exact ⟨shared, device, reachable, four, set, kept.1 (returned_of_hasReturned returned)⟩
  · obtain ⟨shared, reachable, checked⟩ :=
      exists_reachable uncrossed_of_check lastCheckEnding_endsLastCheck
    simp only [endsLastCheck, Bool.and_eq_true, Option.any_eq_true, decide_eq_true_eq] at checked
    obtain ⟨⟨named, device, found, family⟩, ⟨label, shared'⟩, advanced, ⟨permitted, active⟩, ends⟩ :=
      checked
    obtain ⟨device', found'⟩ := Option.isSome_iff_exists.mp active
    have step : (threads.restrict Uncrossed).Step shared label shared' :=
      ⟨step_of_advance advanced, uncrossed_of_check permitted⟩
    have kept := checks_keep_remembered reachable found (by rw [family]; rfl) (by rw [family]; rfl)
    exact ⟨shared, shared', label, device', step, ends, found',
      kept.2 label shared' 3 .success device' step named ends found'⟩

/-- A thread sets 25 C and has copied it for its check when another one sets 30 C and checks it;
then the first one checks. -/
def setAcrossCheck : List Choice :=
  .arrives (.call "probe" kFunctionSetCompensation (temperatureArgs 25)) ::
    .arrives (.call "probe" kFunctionSetCompensation (temperatureArgs 30)) ::
      .goes 0 :: .goes 0 :: worksThen 9 (.returns 0 :: List.replicate 3 (.goes 0) ++
        .goes 1 :: .goes 1 :: worksThen 9 (.returns 1 :: List.replicate 4 (.goes 1) ++
          worksThen 10 (.returns 2 :: List.replicate 4 (.goes 1) ++
            .goes 0 :: worksThen 16 (.returns 3 :: List.replicate 5 (.goes 0)))))

/-- Whether all is done, 30 C is set, and the probe holds 25 C. -/
def holdsOlder (shared : Shared) : Bool :=
  hasReturned shared && hasFinished shared &&
    (shared.state.find "probe").any fun device =>
      device.compensationSet.temperatureC = some 30 &&
        (shared.bus device.spec.address).holding.temperatureC = 25

theorem setAcrossCheck_holdsOlder :
    (runs healthy faultless setAcrossCheck start).any holdsOlder = true := by
  decide +kernel

/-- With nothing failing, a check sends the values from before those which another caller has
remembered, and the probe is left with them. -/
theorem check_leaves_older : ∃ (shared : Shared) (device : ActiveDevice),
    (threads.restrict Faultless).Reachable shared ∧ shared.Returned ∧ shared.Finished ∧
      shared.state.find "probe" = some device ∧ device.compensationSet.temperatureC = some 30 ∧
        (shared.bus device.spec.address).holding.temperatureC = 25 ∧
          ¬ shared.Compensates device := by
  obtain ⟨shared, reachable, checked⟩ :=
    exists_reachable faultless_of_check setAcrossCheck_holdsOlder
  simp only [holdsOlder, Bool.and_eq_true, Option.any_eq_true, decide_eq_true_eq] at checked
  obtain ⟨⟨returned, finished⟩, device, found, set, holds⟩ := checked
  refine ⟨shared, device, reachable, returned_of_hasReturned returned,
    finished_of_hasFinished finished, found, set, holds, fun compensates => ?_⟩
  have near := compensates.effect.temperature 30 set
  rw [holds] at near
  norm_num [kTemperatureTolerance] at near

end Canned

end EzoProvider.Runtime
