import EzoProvider.Runtime.CannedThreads
import EzoProvider.Runtime.ThreadInvariants

/-!
# The count of re-sends

`check_compensation` looks at the outcome its job shares with it whether or not
its submission has the job's own status. As long as no caller of a check gives
up waiting, what it finds is final, and each re-send is counted once.
-/

namespace EzoProvider.Runtime

open Interaction Program Devices TransitionSystem

namespace Shared

/-- The task is a check of the device whose job has sent the set values again. -/
def reappliedBy (shared : Shared) (deviceId : String) (task : Bus.TaskId) : Bool :=
  shared.Named (ReadKind.check.jobName deviceId) task &&
    (outputsOf (shared.executor.traceOf task)).reapplied

/-- The check jobs of a device in which the re-send of the set values was accepted. -/
def reapplications (shared : Shared) (deviceId : String) : Nat :=
  (List.range shared.executor.calls.length).countP (shared.reappliedBy deviceId)

/-- The caller of the task has been given the status of its own job. -/
def Answered (shared : Shared) (task : Bus.TaskId) : Prop :=
  ∃ (call : Bus.Call JobOp JobOp.Result) (status : Status),
    shared.executor.calls[task]? = some call ∧
      call.phase = .returned (.fulfilled (.completed status))

/-- No caller of a check gives up waiting in this step. -/
def ChecksWaited (shared : Shared) (label : ThreadLabel) (_ : Shared) : Prop :=
  ∀ task deviceId, label = .served (.submitExpired task) →
    shared.Named (ReadKind.check.jobName deviceId) task = false

/-- The callers of the checks wait for the status of their own jobs, or have it. -/
def ChecksServed (shared : Shared) : Prop :=
  ∀ (task : Bus.TaskId) (call : Bus.Call JobOp JobOp.Result) (deviceId : String),
    shared.executor.calls[task]? = some call →
      shared.Named (ReadKind.check.jobName deviceId) task = true → call.Served

/-- What a run keeps in which no caller of a check gives up. -/
structure Counted (shared : Shared) : Prop where
  waited : shared.ChecksServed
  final : ∀ task ∈ shared.released, ∀ deviceId,
    shared.Named (ReadKind.check.jobName deviceId) task = true →
      ∃ status, (task, status) ∈ shared.executor.ended
  count : ∀ {deviceId device}, shared.state.find deviceId = some device →
    device.compensationReappliedCount = shared.released.countP (shared.reappliedBy deviceId)

end Shared

/-! ## Startup -/

section Startup

/-- A job which never says it has sent the values again leaves the flag clear. -/
theorem reapplied_eq_false {trace : JobTrace}
    (never : ∀ exchange ∈ trace, exchange.1 ≠ .store .reapplied) :
    (outputsOf trace).reapplied = false := by
  induction trace using List.reverseRecOn with
  | nil => rfl
  | append_singleton trace exchange ih =>
      have earlier := ih fun entry member => never entry (by simp [member])
      obtain ⟨op, answer⟩ := exchange
      have last := never ⟨op, answer⟩ (by simp)
      rw [outputsOf_append]
      cases op with
      | store output => cases output <;> simp_all [JobOutputs.after, JobOutputs.store]
      | _ => exact earlier

/-- What a caller finds in the cells is what its job has stored so far. -/
theorem Line.Submitted.advances [DecimalText] {line line' : Line} {name : String} {timeoutMs : Int}
    {job : Job} {reply : SubmitReply} (submitted : line.Submitted name timeoutMs job reply line') :
    ∃ trace rest, job.Advances trace rest ∧ reply.outputs = outputsOf trace := by
  cases submitted with
  | refused | skipped => exact ⟨[], job, .refl, rfl⟩
  | finished _ _ run => exact ⟨_, _, run, rfl⟩
  | expired _ _ _ advance => exact ⟨_, _, advance, rfl⟩

variable [EzoDriver]

/-- A check of a device with nothing set sends nothing again. -/
theorem only_compensationJob_empty {type : EzoDeviceType}
    {reader : Address → JobM CompensationReading} {writer : Address → Compensation → JobM Unit}
    (reads : (adapterFor type).readCompensation = some reader) (address : Address) :
    (compensationJob address {} reader writer).Only (· ≠ .store .reapplied) := by
  have reading : (reader address).run.Only (· ≠ .store .reapplied) := by
    refine (only_readCompensation reads).mono ?_
    rintro _ stores rfl
    exact stores
  refine only_concludes ?_
  rw [ExceptT.run_bind]
  refine ⟨by simp, fun answer => ?_⟩
  cases answer with
  | error _ => trivial
  | ok _ =>
      refine only_exceptT_bind reading fun first => ?_
      exact only_exceptT_lift_bind ⟨by simp, fun _ => trivial⟩ fun _ => trivial

variable [DecimalText]

/-- A check of a device with nothing set counts no re-send. -/
theorem unreapplied_of_checked {world world' : World} {deviceId : String} {status : Status}
    {device device' : ActiveDevice}
    (step : RoundStep Line.Submitted world (.checked deviceId status) world')
    (found : world.state.find deviceId = some device) (unset : device.compensationSet = {})
    (foundAfter : world'.state.find deviceId = some device') :
    device'.compensationReappliedCount = device.compensationReappliedCount := by
  cases step with
  | @checked _ other reader writer reply line foundOther reads writes submitted =>
      cases foundOther.symm.trans found
      have update := @RuntimeState.find_update_self world.state deviceId _ fun device =>
        spec_recordCompensation device reply.status reply.outputs.reading reply.outputs.reapplied
      rw [found, Option.map_some] at update
      cases update.symm.trans foundAfter
      obtain ⟨trace, rest, advance, outputs⟩ := submitted.advances
      rw [unset] at advance
      have none := reapplied_eq_false
        ((only_compensationJob_empty reads device.spec.address).advances advance).1
      obtain ⟨_, _, same⟩ := recordCompensation_frame device reply.status reply.outputs.reading
        reply.outputs.reapplied
      rw [same, outputs, none]
      rfl

/-- A device has sent nothing again when `initialize` returns. -/
theorem unreapplied_of_initialized [ProviderSdk] {config : ProviderConfig} {world : World}
    (initialized : Initialized Line.Submitted config world) {deviceId : String}
    {device : ActiveDevice} (found : world.state.find deviceId = some device) :
    device.compensationReappliedCount = 0 := by
  let fresh : ActiveDevice → Prop := fun device =>
    device.compensationSet = {} ∧ device.compensationReappliedCount = 0
  let untouched : World → Prop := fun world => world.state.Apart ∧
    ∀ device deviceId, world.state.find deviceId = some device → fresh device
  have holds : untouched world := by
    refine maintained_of_initialized ?_ ?_ initialized
    · refine fun start formed active => ⟨formed.apart, fun device deviceId found => ?_⟩
      obtain ⟨spec, _, info, rfl⟩ := active device (RuntimeState.mem_of_find found)
      exact ⟨rfl, rfl⟩
    · rintro before round after reading ⟨apart, holds⟩ step
      refine ⟨step.apart apart, fun device' deviceId found => ?_⟩
      obtain ⟨device, foundBefore, _⟩ := step.found apart found
      obtain ⟨unset, count⟩ := holds device deviceId foundBefore
      obtain ⟨_, foundAfter, effect⟩ := step.effect foundBefore
      cases foundAfter.symm.trans found
      refine ⟨?_, ?_⟩
      · rw [effect.kept.set, unset]
        rintro values rfl
        simp [Round.Reads] at reading
      · by_cases checks : ∃ status, round = .checked deviceId status
        · obtain ⟨_, rfl⟩ := checks
          rw [unreapplied_of_checked step foundBefore unset found, count]
        · rw [not_exists] at checks
          rw [effect.kept.reapplied checks, count]
  exact (holds.2 device deviceId found).2

end Startup

/-! ## Tasks -/

theorem Shared.Extends.named {shared shared' : Shared} (extension : shared.Extends shared')
    {task : Bus.TaskId} (known : task < shared.executor.calls.length) {name : String} :
    shared'.Named name task = shared.Named name task := by
  obtain ⟨submission, found⟩ := Bus.Executor.exists_submissionOf known
  rw [Shared.Named, Shared.Named, found, extension.executor.submissionOf found]

theorem countP_toList_eq_zero {α : Type} {entry : Option α} {property : α → Bool}
    (none : ∀ value, entry = some value → property value = false) :
    entry.toList.countP property = 0 := by
  refine List.countP_eq_zero.mpr fun value member => ?_
  simp [none value (Option.mem_toList.mp member)]

section Tasks

variable [EzoDriver] {allowed : Nat → Prop} {shared shared' : Shared} {deviceId : String}
  {task : Bus.TaskId}

/-- A task which has been released is known. -/
theorem Shared.Sound.released_lt (sound : shared.Sound allowed) (released : task ∈ shared.released) :
    task < shared.executor.calls.length := by
  have member := sound.tasks.subset (List.mem_append_left _ released)
  exact List.mem_range.mp member

/-- A released check has ended: its outcome is final. -/
theorem Shared.Counted.countP_extend (counted : shared.Counted) (sound : shared.Sound allowed)
    (extension : shared.Extends shared') :
    shared.released.countP (shared'.reappliedBy deviceId) =
      shared.released.countP (shared.reappliedBy deviceId) := by
  refine List.countP_congr fun task released => ?_
  rw [Shared.reappliedBy, Shared.reappliedBy, extension.named (sound.released_lt released)]
  cases check : shared.Named (ReadKind.check.jobName deviceId) task with
  | false => simp
  | true =>
      obtain ⟨status, ended⟩ := counted.final task released deviceId check
      rw [(extension.executor.ended _ ended).2]

/-- A task which is no check of the device has not re-sent its values. -/
theorem Shared.Does.reappliedBy_eq_false {errand : Errand}
    (does : shared.Does allowed task errand)
    (other : ¬ (errand.kind = some .check ∧ errand.spec.id = deviceId)) :
    shared.reappliedBy deviceId task = false := by
  rw [Shared.reappliedBy, Bool.and_eq_false_iff]
  left
  simpa using mt does.named_iff.mp other

/-- What a caller holds of a check is the outcome of its job. -/
theorem Shared.Told.answered {errand : Errand} {reply : SubmitReply}
    (told : shared.Told allowed task errand reply) (counted : shared.Counted)
    (check : errand.kind = some .check) :
    shared.Answered task ∧ (∃ status, (task, status) ∈ shared.executor.ended) ∧
      shared.reappliedBy errand.spec.id task = reply.outputs.reapplied := by
  obtain ⟨call, outcome, found, returned, _, completed⟩ := told.outcome
  have named : shared.Named (ReadKind.check.jobName errand.spec.id) task = true :=
    told.toDoes.named_iff.mpr ⟨check, rfl⟩
  have served := (counted.waited task call _ found named).phase
  rw [returned] at served
  rcases served with waiting | ⟨status, same⟩
  · cases waiting
  · cases same
    obtain ⟨ended, outputs⟩ := completed status rfl
    refine ⟨⟨call, status, found, returned⟩, ⟨status, ended⟩, ?_⟩
    rw [Shared.reappliedBy, named, outputs, Bool.true_and]

/-- What a thread holds is the reply of an errand, of a check only where its stage says so. -/
theorem Stage.Fits.does {stage : Stage} {held : Option Bus.TaskId} {stamp : Option Int}
    (fits : stage.Fits allowed shared held stamp) (holds : held = some task) :
    ∃ errand, shared.Does allowed task errand ∧ (errand.kind = some .check →
      ∃ reply, stage = .replied errand reply ∧ shared.Told allowed task errand reply) := by
  have control : shared.HoldsControl allowed held → ∃ errand, shared.Does allowed task errand ∧
      (errand.kind = some .check →
        ∃ reply, stage = .replied errand reply ∧ shared.Told allowed task errand reply) := by
    intro held
    obtain ⟨spec, functionId, args, does⟩ := held task holds
    exact ⟨_, does, fun check => by cases check⟩
  cases stage with
  | idle => exact control fits
  | looked => exact control fits.2
  | checking => simp [fits.2.2] at holds
  | remembered => simp [fits.2] at holds
  | replied errand reply =>
      obtain ⟨_, other, same, told⟩ := fits
      cases same.symm.trans holds
      exact ⟨errand, told.toDoes, fun _ => ⟨reply, rfl, told⟩⟩
  | stamped spec reply =>
      obtain ⟨_, other, same, told⟩ := fits
      cases same.symm.trans holds
      exact ⟨_, told.toDoes, fun check => by cases check⟩

/-! ## Critical sections -/

/-- A critical section counts the re-send of the check it records, and nothing else. -/
theorem Stage.Writes.reapplied {device device' : ActiveDevice} {stage : Stage}
    {held : Option Bus.TaskId} {stamp : Option Int} (writes : stage.Writes deviceId device device')
    (fits : stage.Fits allowed shared held stamp) (counted : shared.Counted) :
    device'.compensationReappliedCount =
      device.compensationReappliedCount + held.toList.countP (shared.reappliedBy deviceId) := by
  have unchecked : (∀ errand reply, stage = .replied errand reply → errand.kind = some .check →
      errand.spec.id ≠ deviceId) → held.toList.countP (shared.reappliedBy deviceId) = 0 := by
    intro other
    refine countP_toList_eq_zero fun task holds => ?_
    obtain ⟨errand, does, checks⟩ := fits.does holds
    refine does.reappliedBy_eq_false fun both => ?_
    obtain ⟨reply, same, _⟩ := checks both.1
    exact other errand reply same both.1 both.2
  cases writes with
  | elsewhere other =>
      rw [unchecked, Nat.add_zero]
      rintro errand reply rfl _ here
      exact other (by simp [Stage.device, here])
  | @called _ functionName ok message now free =>
      rw [unchecked, Nat.add_zero]
      · obtain ⟨_, _, _, same⟩ := recordCall_frame device functionName ok message now
        rw [same]
      · rintro errand reply rfl
        exact absurd free id
  | @sampled _ reply nowSteady now config =>
      rw [unchecked (by simp), Nat.add_zero]
      obtain ⟨_, same, _⟩ := recordSample_frame device config deviceId reply.status
        reply.outputs.signals now nowSteady
      rw [same]
  | @levelRead _ _ reply =>
      rw [unchecked, Nat.add_zero]
      · obtain ⟨_, _, same⟩ := recordCalibrationLevel_frame device reply.status reply.outputs.level
        rw [same]
      · rintro _ _ ⟨⟩ check
        cases check
  | @checked _ _ _ _ reply here =>
      obtain ⟨_, task, rfl, told⟩ := fits
      obtain ⟨_, _, reapplied⟩ := told.answered counted rfl
      obtain ⟨_, _, same⟩ := recordCompensation_frame device reply.status reply.outputs.reading
        reply.outputs.reapplied
      simp only [Errand.spec, here] at reapplied
      simp [same, List.countP_singleton, reapplied]
  | remembered =>
      rw [unchecked, Nat.add_zero]
      · rfl
      · rintro _ _ ⟨⟩ check
        cases check

/-! ## Steps -/

/-- What a thread releases, and writes to the records as it does. -/
theorem Shared.Counted.release (counted : shared.Counted) (sound : shared.Sound allowed)
    (extension : shared.Extends shared') {held : Option Bus.TaskId}
    (released : shared'.released = shared.released ++ held.toList)
    (waited : shared'.ChecksServed)
    (final : ∀ task, held = some task → ∀ deviceId,
      shared'.Named (ReadKind.check.jobName deviceId) task = true →
        ∃ status, (task, status) ∈ shared'.executor.ended)
    (written : ∀ {deviceId device}, shared.state.find deviceId = some device →
      ∃ device', shared'.state.find deviceId = some device' ∧
        device'.compensationReappliedCount =
          device.compensationReappliedCount + held.toList.countP (shared'.reappliedBy deviceId)) :
    shared'.Counted where
  waited := waited
  final task member deviceId check := by
    rw [released] at member
    rcases List.mem_append.mp member with earlier | now
    · rw [extension.named (sound.released_lt earlier)] at check
      obtain ⟨status, ended⟩ := counted.final task earlier deviceId check
      exact ⟨status, (extension.executor.ended _ ended).1⟩
    · exact final task (Option.mem_toList.mp now) deviceId check
  count found := by
    obtain ⟨device, before, _⟩ := extension.found sound.apart found
    obtain ⟨_, after, added⟩ := written before
    cases after.symm.trans found
    rw [added, released, List.countP_append, counted.countP_extend sound extension,
      counted.count before]

/-- Steps which record nothing and release nothing. -/
theorem Shared.Counted.carry (counted : shared.Counted) (sound : shared.Sound allowed)
    (extension : shared.Extends shared') (state : shared'.state = shared.state)
    (released : shared'.released = shared.released) (waited : shared'.ChecksServed) :
    shared'.Counted := by
  refine @Shared.Counted.release _ _ _ _ counted sound extension none (by simp [released]) waited
    (by simp) fun {deviceId device} found => ⟨device, by rw [state, found], by simp⟩

/-- The tasks of threads which have returned are those of control calls. -/
theorem Shared.Sound.countP_returned (sound : shared.Sound allowed) (returned : shared.Returned)
    {deviceId : String} :
    (shared.threads.filterMap Thread.task).countP (shared.reappliedBy deviceId) = 0 := by
  refine List.countP_eq_zero.mpr fun task member => ?_
  obtain ⟨thread, listed, holds⟩ := List.mem_filterMap.mp member
  have fits := sound.fits thread listed
  have done := returned thread listed
  rw [Thread.task, done] at holds
  rw [Thread.Fits, done] at fits
  obtain ⟨stage, at', free⟩ := fits
  obtain ⟨errand, does, checks⟩ := at'.does holds
  rw [Bool.not_eq_true]
  refine does.reappliedBy_eq_false fun both => ?_
  obtain ⟨reply, rfl, _⟩ := checks both.1
  exact free

end Tasks

section Runs

variable [EzoDriver] [DecimalText] [ProviderSdk] {allowed : Nat → Prop} {shared shared' : Shared}
  {label : ThreadLabel}

/-- As long as no caller of a check gives up, each waits for its own job or has its status. -/
theorem Shared.Sound.checksServed (sound : shared.Sound allowed) (served : shared.ChecksServed)
    (step : SharedStep shared label shared') (waits : shared.ChecksWaited label shared') :
    shared'.ChecksServed := by
  have extension := sound.extends step
  have distinct := sound.executor.order.queue_nodup
  have serve : ∀ {action : Bus.Executor.Action}, label = .served action → action.Serves →
      Bus.Executor.Step shared.executor action shared'.executor → shared'.ChecksServed := by
    rintro action rfl serves transition task call deviceId found check
    have known : task < shared.executor.calls.length := by
      rw [← (transition.serves serves).2.2]
      exact (List.getElem?_eq_some_iff.mp found).1
    have foundBefore := List.getElem?_eq_getElem known
    rw [extension.named known] at check
    have unexpired : action ≠ .submitExpired task := by
      rintro rfl
      simp [waits task deviceId rfl] at check
    have undrained : action = .stopDrained → task ∉ shared.executor.queue := by
      rintro rfl
      exact absurd serves id
    obtain ⟨after, foundAfter, servedAfter⟩ := transition.served sound.skips distinct foundBefore
      (served _ _ _ foundBefore check) unexpired undrained
    cases foundAfter.symm.trans found
    exact servedAfter
  cases step with
  | served serves transition | exchanged serves transition => exact serve rfl serves transition
  | @submitted _ _ name timeout job =>
      obtain ⟨⟨new, calls, _, admitted⟩, _⟩ := Bus.Executor.submitted_frame shared.executor
        { name, timeout, job }
      intro task call deviceId found check
      rw [calls] at found
      rcases Bus.getElem?_append_singleton_cases found with old | ⟨_, rfl⟩
      · have known := (List.getElem?_eq_some_iff.mp old).1
        rw [extension.named known] at check
        exact served _ _ _ old check
      · exact admitted sound.serving.1 sound.serving.2
  | arrived | locked | replied | systemNow | steadyNow | warned | passed => exact served

/-- What every step keeps in which no caller of a check gives up. -/
theorem Shared.Counted.step (counted : shared.Counted) (sound : shared.Sound allowed)
    (step : SharedStep shared label shared') (waits : shared.ChecksWaited label shared') :
    shared'.Counted := by
  have extension := sound.extends step
  have waited := sound.checksServed counted.waited step waits
  cases step with
  | @locked index thread change next found here =>
      obtain ⟨stage, later, fits, moves, _⟩ := sound.moves found here
      refine counted.release sound extension rfl waited ?_ fun foundBefore => ?_
      · intro task holds deviceId check
        obtain ⟨errand, does, checks⟩ := fits.does holds
        obtain ⟨kind, _⟩ := does.named_iff.mp check
        obtain ⟨reply, _, told⟩ := checks kind
        exact (told.answered counted kind).2.1
      · obtain ⟨device', foundAfter, writes⟩ := moves.writes foundBefore
        have added := writes.reapplied fits counted
        exact ⟨device', foundAfter, added⟩
  | @submitted index thread name timeout job next found here =>
      obtain ⟨stage, later, fits, moves, _⟩ := sound.moves found here
      -- A thread which submits may hold the reply of a control call, and of nothing else.
      have unchecked : ∀ task, thread.held = some task →
          ∃ errand, shared.Does allowed task errand ∧ errand.kind ≠ some .check := by
        intro task holds
        obtain ⟨errand, does, checks⟩ := fits.does holds
        refine ⟨errand, does, fun check => ?_⟩
        obtain ⟨reply, rfl, _⟩ := checks check
        cases moves
      refine counted.release sound extension rfl waited ?_ fun {deviceId device} foundBefore => ?_
      · intro task holds deviceId check
        obtain ⟨errand, does, other⟩ := unchecked task holds
        exact absurd ((does.extend extension).named_iff.mp check).1 other
      · refine ⟨device, foundBefore, ?_⟩
        rw [countP_toList_eq_zero, Nat.add_zero]
        intro task holds
        obtain ⟨errand, does, other⟩ := unchecked task holds
        exact (does.extend extension).reappliedBy_eq_false fun both => other both.1
  | arrived | replied | systemNow | steadyNow | warned | served | exchanged | passed =>
      exact counted.carry sound extension rfl rfl waited

theorem counted_of_started (started : Started shared) : shared.Counted := by
  obtain ⟨config, world, initialized, _, _, rfl⟩ := started
  refine ⟨?_, by simp, fun found => ?_⟩
  · intro task call deviceId found
    simp [Bus.Executor.justStarted] at found
  · exact unreapplied_of_initialized initialized found

theorem counted_of_reachable (reachable : (threads.restrict Shared.ChecksWaited).Reachable shared) :
    shared.Counted := by
  refine reachable.induct counted_of_started fun prior counted step => ?_
  exact counted.step (sound_of_threads prior.of_restrict) step.1 step.2

/-- As long as no caller of a check gives up waiting, whoever looks at the outcome of one has been
given the status of its job, and once all have returned each re-send has been counted once. -/
theorem reapplied_counted (reachable : (threads.restrict Shared.ChecksWaited).Reachable shared) :
    (∀ thread ∈ shared.threads, ∀ rest, thread.phase = .running rest →
      ∀ task deviceId, thread.held = some task →
        shared.Named (ReadKind.check.jobName deviceId) task = true → shared.Answered task) ∧
    (shared.Returned → ∀ deviceId device, shared.state.find deviceId = some device →
      device.compensationReappliedCount = shared.reapplications deviceId) := by
  have sound := sound_of_threads reachable.of_restrict
  have counted := counted_of_reachable reachable
  constructor
  · intro thread listed rest here task deviceId holds check
    have fits := sound.fits thread listed
    rw [Thread.Fits, here] at fits
    obtain ⟨stage, at', _⟩ := fits
    obtain ⟨errand, does, checks⟩ := at'.does holds
    obtain ⟨kind, _⟩ := does.named_iff.mp check
    obtain ⟨reply, _, told⟩ := checks kind
    exact (told.answered counted kind).1
  · intro returned deviceId device found
    have all := sound.tasks.countP_eq (shared.reappliedBy deviceId)
    rw [List.countP_append, sound.countP_returned returned, Nat.add_zero] at all
    rw [counted.count found, all, Shared.reapplications]

end Runs

section Canned

open CannedBus CannedProvider CannedThreads

/-- A step in which no caller gives up waiting. -/
def waitsOn (_ : Shared) (label : ThreadLabel) (_ : Shared) : Bool :=
  match label with
  | .served (.submitExpired _) => false
  | _ => true

theorem checksWaited_of_waitsOn {shared shared' : Shared} {label : ThreadLabel}
    (waits : waitsOn shared label shared' = true) : shared.ChecksWaited label shared' := by
  rintro task deviceId rfl
  cases waits

/-- A thread sets 30 C, the probe loses it, and another thread submits a check. -/
def lostThen (rest : List Choice) : List Choice :=
  .arrives (.call "probe" kFunctionSetCompensation (temperatureArgs 30)) :: .goes 0 :: .goes 0 ::
    worksThen 9 (.returns 0 :: .goes 0 :: .goes 0 :: .goes 0 :: .goes 0 ::
      worksThen 10 (.returns 1 :: .goes 0 :: .goes 0 :: .goes 0 :: .goes 0 :: .reverts 97 ::
        .arrives (.check "probe") :: .goes 1 :: .goes 1 :: rest))

/-- The check sends the value again, and its caller waits for it. -/
def countedRun : List Choice :=
  lostThen (worksThen 16 [.returns 2, .goes 1, .goes 1, .goes 1])

/-- Whether all is over, the values have been sent once and so many re-sends counted. -/
def sentOnce (count : Nat) (shared : Shared) : Bool :=
  hasReturned shared && hasFinished shared && shared.reapplications "probe" = 1 &&
    (shared.state.find "probe").any (·.compensationReappliedCount = count)

theorem countedRun_sentOnce : (runs healthy waitsOn countedRun start).any (sentOnce 1) = true := by
  decide +kernel

theorem reapplied_counted_canned :
    ∃ shared device, (threads.restrict Shared.ChecksWaited).Reachable shared ∧
      shared.state.find "probe" = some device ∧ shared.reapplications "probe" = 1 ∧
      device.compensationReappliedCount = shared.reapplications "probe" := by
  obtain ⟨shared, reachable, checked⟩ := exists_reachable checksWaited_of_waitsOn countedRun_sentOnce
  simp only [sentOnce, Bool.and_eq_true, Option.any_eq_true, decide_eq_true_eq] at checked
  obtain ⟨⟨⟨returned, _⟩, once⟩, device, found, _⟩ := checked
  exact ⟨shared, device, reachable, found, once,
    (reapplied_counted reachable).2 (returned_of_hasReturned returned) "probe" device found⟩

/-- The caller of the check gives up before the value is sent again. -/
def givenUpThen (rest : List Choice) : List Choice :=
  lostThen (.works :: .works :: .expires 2 :: .flags 2 :: .returns 2 :: .goes 1 :: rest)

/-- Whether the caller of the check goes on without the status of its job. -/
def unanswered (shared : Shared) : Bool :=
  (shared.threads[1]?).any (fun thread =>
    thread.held = some 2 && match thread.phase with
      | .running _ => true
      | .waiting _ _ => false) &&
    shared.Named (ReadKind.check.jobName "probe") 2 &&
    (shared.executor.calls[2]?).any (·.phase = .returned .deadlineExceeded)

theorem givenUp_unanswered : (runs healthy anything (givenUpThen []) start).any unanswered = true := by
  decide +kernel

theorem givenUp_uncounted : (runs healthy anything
    (givenUpThen (.goes 1 :: worksThen 13 [])) start).any (sentOnce 0) = true := by
  decide +kernel

/-- The caller of a check which gives up looks at the outcome of a job that is still running, and
the re-send the job makes after that is counted nowhere. -/
theorem reapplied_unanswered_and_uncounted :
    (∃ shared thread rest, threads.Reachable shared ∧ thread ∈ shared.threads ∧
      thread.phase = .running rest ∧ thread.held = some 2 ∧
      shared.Named (ReadKind.check.jobName "probe") 2 = true ∧ ¬ shared.Answered 2) ∧
    ∃ shared device, threads.Reachable shared ∧ shared.Returned ∧ shared.Finished ∧
      shared.state.find "probe" = some device ∧ device.compensationReappliedCount = 0 ∧
      shared.reapplications "probe" = 1 := by
  constructor
  · obtain ⟨shared, reachable, checked⟩ := exists_reachable_threads givenUp_unanswered
    simp only [unanswered, Bool.and_eq_true, Option.any_eq_true, decide_eq_true_eq] at checked
    obtain ⟨⟨⟨thread, listed, held, running⟩, named⟩, call, called, gaveUp⟩ := checked
    split at running
    · next rest here =>
        refine ⟨shared, thread, rest, reachable, List.mem_of_getElem? listed, here, held, named, ?_⟩
        rintro ⟨other, status, found, returned⟩
        cases called.symm.trans found
        cases gaveUp.symm.trans returned
    · cases running
  · obtain ⟨shared, reachable, checked⟩ := exists_reachable_threads givenUp_uncounted
    simp only [sentOnce, Bool.and_eq_true, Option.any_eq_true, decide_eq_true_eq] at checked
    obtain ⟨⟨⟨returned, finished⟩, once⟩, device, found, uncounted⟩ := checked
    exact ⟨shared, device, reachable, returned_of_hasReturned returned,
      finished_of_hasFinished finished, found, uncounted, once⟩

end Canned

end EzoProvider.Runtime
