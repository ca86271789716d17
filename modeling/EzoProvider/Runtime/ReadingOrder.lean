import EzoProvider.Runtime.Publication

/-!
# The order of readings

A caller records the reply to a read some time after its job has run, so two
callers can record theirs the other way round. Where each goes on with its reply
only once the reads of its kind submitted before have been recorded, a reading is
never replaced by an older one, and the steady time of the last sample does not
go back.
-/

namespace EzoProvider.Runtime

open Interaction Program Devices TransitionSystem

/-- The thread holds the reply of the task. -/
def Thread.Holds (thread : Thread) (task : Bus.TaskId) : Prop :=
  (∃ rest, thread.phase = .running rest) ∧ thread.held = some task

/-- The replies to the reads of its kind submitted before the task have been recorded. -/
def Shared.IsNext (shared : Shared) (task : Bus.TaskId) : Prop :=
  ∀ (kind : ReadKind) (deviceId : String), shared.Named (kind.jobName deviceId) task = true →
    ∀ earlier < task, shared.Named (kind.jobName deviceId) earlier = true →
      earlier ∈ shared.released

/-- A caller goes on with the reply to a read once those to the reads of its kind submitted before
have been recorded. -/
def RepliesInTurn (shared : Shared) (label : ThreadLabel) (_ : Shared) : Prop :=
  ∀ (index : Nat) (thread : Thread) (task : Bus.TaskId) (next : SubmitReply → Caller Unit),
    label = .replied index → shared.threads[index]? = some thread →
      thread.phase = .waiting task next → shared.IsNext task

/-- Every reply a thread holds is the next of its kind to be recorded. -/
def Shared.HoldsNext (shared : Shared) : Prop :=
  ∀ thread ∈ shared.threads, ∀ task, thread.Holds task → shared.IsNext task

theorem Thread.Holds.task_eq {thread : Thread} {task : Bus.TaskId} (holds : thread.Holds task) :
    thread.task = some task := by
  obtain ⟨⟨rest, here⟩, held⟩ := holds
  rw [Thread.task, here]
  exact held

theorem Shared.IsNext.extend {shared shared' : Shared} {task : Bus.TaskId}
    (next : shared.IsNext task) (extension : shared.Extends shared')
    (known : task < shared.executor.calls.length)
    (grown : shared.released ⊆ shared'.released) : shared'.IsNext task := by
  intro kind deviceId named earlier before same
  rw [extension.named known] at named
  rw [extension.named (before.trans known)] at same
  exact grown (next kind deviceId named earlier before same)

section Turns

variable [EzoDriver] {allowed : Nat → Prop} {shared shared' : Shared} {thread other : Thread}
  {task : Bus.TaskId}

theorem Shared.Does.lt {errand : Errand} (does : shared.Does allowed task errand) :
    task < shared.executor.calls.length := by
  obtain ⟨_, submission⟩ := does.submission
  exact Bus.Executor.lt_of_submissionOf submission

theorem Shared.Sound.holds_lt (sound : shared.Sound allowed) (listed : thread ∈ shared.threads)
    (holds : thread.Holds task) : task < shared.executor.calls.length := by
  have busy : task ∈ shared.threads.filterMap Thread.task :=
    List.mem_filterMap.mpr ⟨thread, listed, holds.task_eq⟩
  exact List.mem_range.mp (sound.tasks.subset (List.mem_append_right _ busy))

/-- What a thread holds has not been released. -/
theorem Shared.Sound.holds_unreleased (sound : shared.Sound allowed)
    (listed : thread ∈ shared.threads) (holds : thread.Holds task) : task ∉ shared.released := by
  intro released
  have distinct := sound.tasks.nodup_iff.mpr List.nodup_range
  have busy : task ∈ shared.threads.filterMap Thread.task :=
    List.mem_filterMap.mpr ⟨thread, listed, holds.task_eq⟩
  exact (List.nodup_append.mp distinct).2.2 task released task busy rfl

variable [DecimalText] [ProviderSdk] {label : ThreadLabel}

/-- What the threads hold after a step they held before, but for a reply its caller has gone on
with. -/
theorem SharedStep.holds (step : SharedStep shared label shared') (listed : thread ∈ shared'.threads)
    (holds : thread.Holds task) :
    (∃ before ∈ shared.threads, before.Holds task) ∨
      ∃ (index : Nat) (before : Thread) (next : SubmitReply → Caller Unit), label = .replied index ∧
        shared.threads[index]? = some before ∧ before.phase = .waiting task next := by
  have moved : ∀ {index : Nat} {new : Thread}, thread ∈ shared.threads.set index new →
      (∃ before ∈ shared.threads, before.Holds task) ∨ new.Holds task := by
    intro index new listed
    rcases List.mem_or_eq_of_mem_set listed with old | rfl
    · exact .inl ⟨thread, old, holds⟩
    · exact .inr holds
  cases step with
  | arrived =>
      rcases List.mem_append.mp listed with old | new
      · exact .inl ⟨thread, old, holds⟩
      · obtain rfl := List.mem_singleton.mp new
        cases holds.2
  | locked =>
      rcases moved listed with before | new
      · exact .inl before
      · cases new.2
  | submitted =>
      rcases moved listed with before | new
      · exact .inl before
      · cases new.2
  | @replied index before own next call outcome found here =>
      rcases moved listed with before | new
      · exact .inl before
      · cases new.2
        exact .inr ⟨index, before, next, rfl, found, here⟩
  | systemNow now found here | steadyNow found here | warned found here =>
      rcases moved listed with before | new
      · exact .inl before
      · exact .inl ⟨_, List.mem_of_getElem? found, ⟨_, here⟩, new.2⟩
  | served | exchanged | passed => exact .inl ⟨thread, listed, holds⟩

theorem Shared.HoldsNext.step (holdsNext : shared.HoldsNext) (sound : shared.Sound allowed)
    (step : SharedStep shared label shared') (inTurn : RepliesInTurn shared label shared') :
    shared'.HoldsNext := by
  have extension := sound.extends step
  obtain ⟨held, released⟩ := step.released
  have grown : shared.released ⊆ shared'.released := by
    rw [released]
    exact List.subset_append_left _ _
  intro thread listed task holds
  rcases step.holds listed holds with ⟨before, old, holds⟩ | ⟨index, before, next, here, found, waits⟩
  · exact (holdsNext before old task holds).extend extension (sound.holds_lt old holds) grown
  · have fits := sound.fits before (List.mem_of_getElem? found)
    rw [Thread.Fits, waits] at fits
    obtain ⟨errand, does, _⟩ := fits
    exact (inTurn index before task next here found waits).extend extension does.lt grown

/-- A thread which releases the reply to a read records it in its order. -/
theorem Shared.HoldsNext.recordsInOrder (holdsNext : shared.HoldsNext)
    (sound : shared.Sound allowed) (step : SharedStep shared label shared') :
    RecordsInOrder shared label shared' := by
  have extension := sound.extends step
  have inOrder : ∀ {index : Nat} {thread : Thread}, shared.threads[index]? = some thread →
      (∃ rest, thread.phase = .running rest) →
        shared'.released = shared.released ++ thread.held.toList →
          RecordsInOrder shared label shared' := by
    intro index thread found here released kind deviceId task earlier now fresh named before same
    rw [released] at now
    have held : thread.held = some task := by
      simpa [fresh] using now
    have listed := List.mem_of_getElem? found
    have holds : thread.Holds task := ⟨here, held⟩
    have known := sound.holds_lt listed holds
    rw [extension.named known] at named
    rw [extension.named (before.trans known)] at same
    exact holdsNext thread listed task holds kind deviceId named earlier before same
  cases step with
  | locked found here => exact inOrder found ⟨_, here⟩ rfl
  | submitted found here => exact inOrder found ⟨_, here⟩ rfl
  | _ => exact fun _ _ _ _ now fresh => absurd now fresh

end Turns

/-! ## The steady time of the last sample -/

/-- The samples shown were taken by then. -/
def RuntimeState.SampledBy (state : RuntimeState) (clock : Int) : Prop :=
  ∀ deviceId device, state.find deviceId = some device → device.sample.hasSample = true →
    device.sample.sampledAtSteady ≤ clock

theorem RuntimeState.SampledBy.update {state : RuntimeState} {clock clock' : Int} {of : String}
    {change : ActiveDevice → ActiveDevice} (sampledBy : state.SampledBy clock)
    (later : clock ≤ clock') (kept : ∀ device, (change device).spec = device.spec)
    (stamp : ∀ device, (change device).sample.sampledAtSteady = clock' ∨
      (change device).sample.sampledAtSteady = device.sample.sampledAtSteady ∧
        (change device).sample.hasSample = device.sample.hasSample) :
    (state.update of change).SampledBy clock' := by
  intro deviceId device' found sampled
  rw [RuntimeState.find_update kept] at found
  split at found
  · obtain ⟨device, before, rfl⟩ := Option.map_eq_some_iff.mp found
    rcases stamp device with now | ⟨time, has⟩
    · exact now.le
    · rw [time]
      exact (sampledBy of device before (has ▸ sampled)).trans later
  · exact (sampledBy deviceId device' found sampled).trans later

/-- The samples of startup were taken by the time `initialize` returns. -/
theorem sampledBy_of_initialized [EzoDriver] [DecimalText] [ProviderSdk] {submits : Submits}
    {config : ProviderConfig} {world : World} (initialized : Initialized submits config world) :
    world.state.SampledBy world.clock := by
  let sampledBy : World → Prop := fun world => world.state.SampledBy world.clock
  have here : sampledBy world := by
    refine maintained_of_initialized ?_ ?_ initialized
    · intro start _ active deviceId device found sampled
      obtain ⟨_, _, _, rfl⟩ := active device (RuntimeState.mem_of_find found)
      cases sampled
    · rintro before round after ⟨of, status, reads⟩ holds step
      cases step with
      | sampled _ _ later =>
          refine holds.update later (by simp) fun device => ?_
          rw [recordSample]
          split
          · exact .inl rfl
          · exact .inr ⟨rfl, rfl⟩
      | levelRead =>
          refine holds.update (le_refl _) (by simp) fun device => ?_
          obtain ⟨_, _, same⟩ := recordCalibrationLevel_frame device _ _
          rw [same]
          exact .inr ⟨rfl, rfl⟩
      | checked =>
          refine holds.update (le_refl _) (by simp) fun device => ?_
          obtain ⟨_, _, same⟩ := recordCompensation_frame device _ _ _
          rw [same]
          exact .inr ⟨rfl, rfl⟩
      | controlled | remembered | recorded | passed => simp at reads
  exact here

section Stamps

variable [EzoDriver] {deviceId : String} {device device' : ActiveDevice}

/-- A critical section leaves the time of the last sample, or records that of the sample its thread
holds. -/
theorem Stage.Writes.stamp {stage : Stage} (writes : stage.Writes deviceId device device') :
    device'.sample.sampledAtSteady = device.sample.sampledAtSteady ∧
        device'.sample.hasSample = device.sample.hasSample ∨
      ∃ spec reply nowSteady, stage = .stamped spec reply nowSteady ∧ spec.id = deviceId ∧
        device'.sample.sampledAtSteady = nowSteady := by
  cases writes with
  | elsewhere | remembered => exact .inl ⟨rfl, rfl⟩
  | called =>
      obtain ⟨_, _, _, same⟩ := recordCall_frame device _ _ _ _
      rw [same]
      exact .inl ⟨rfl, rfl⟩
  | @sampled spec reply nowSteady now config here =>
      rw [recordSample]
      split
      · exact .inr ⟨spec, reply, nowSteady, rfl, here, rfl⟩
      · exact .inl ⟨rfl, rfl⟩
  | levelRead =>
      obtain ⟨_, _, same⟩ := recordCalibrationLevel_frame device _ _
      rw [same]
      exact .inl ⟨rfl, rfl⟩
  | checked =>
      obtain ⟨_, _, same⟩ := recordCompensation_frame device _ _ _
      rw [same]
      exact .inl ⟨rfl, rfl⟩

/-- The times of the samples shown, and of those the threads hold, are in the past, and those
held are the later ones. -/
structure Shared.Dated (shared : Shared) : Prop where
  past : ∀ thread ∈ shared.threads, ∀ stamp, thread.stamp = some stamp → stamp ≤ shared.clock
  shown : shared.state.SampledBy shared.clock
  later : ∀ thread ∈ shared.threads, ∀ task stamp deviceId device, thread.Holds task →
    thread.stamp = some stamp → shared.Named (ReadKind.sample.jobName deviceId) task = true →
      shared.state.find deviceId = some device → device.sample.hasSample = true →
        device.sample.sampledAtSteady ≤ stamp

variable [DecimalText] [ProviderSdk] {allowed : Nat → Prop} {shared shared' : Shared}
  {label : ThreadLabel}

/-- A step leaves the time of the last sample, or a thread records that of the sample it holds. -/
theorem Shared.Sound.stamp (sound : shared.Sound allowed) (step : SharedStep shared label shared')
    (found : shared.state.find deviceId = some device)
    (found' : shared'.state.find deviceId = some device') :
    device'.sample.sampledAtSteady = device.sample.sampledAtSteady ∧
        device'.sample.hasSample = device.sample.hasSample ∨
      ∃ thread ∈ shared.threads, ∃ task, thread.Holds task ∧
        thread.stamp = some device'.sample.sampledAtSteady ∧
        shared.Named (ReadKind.sample.jobName deviceId) task = true ∧ task ∈ shared'.released := by
  cases step with
  | @locked index thread _ _ there here =>
      obtain ⟨stage, later, fits, moves, _⟩ := sound.moves there here
      obtain ⟨after, foundAfter, writes⟩ := moves.writes found
      cases foundAfter.symm.trans found'
      rcases writes.stamp with same | ⟨spec, reply, nowSteady, rfl, rfl, recorded⟩
      · exact .inl same
      · obtain ⟨stamped, task, held, told⟩ := fits
        refine .inr ⟨thread, List.mem_of_getElem? there, task, ⟨⟨_, here⟩, held⟩,
          by rw [stamped, recorded], told.toDoes.named_iff.mpr ⟨rfl, rfl⟩, ?_⟩
        show task ∈ shared.released ++ thread.held.toList
        rw [held]
        exact List.mem_append_right _ List.mem_cons_self
  | _ =>
      cases found.symm.trans found'
      exact .inl ⟨rfl, rfl⟩

theorem SharedStep.clock (step : SharedStep shared label shared') :
    shared.clock ≤ shared'.clock := by
  cases step with
  | steadyNow found here later => exact later
  | _ => exact le_refl _

/-- The stamps of the threads after a step are those before it, or the clock as it is. -/
theorem SharedStep.stamps (step : SharedStep shared label shared') {thread : Thread}
    (listed : thread ∈ shared'.threads) {stamp : Int} (stamped : thread.stamp = some stamp) :
    thread ∈ shared.threads ∨ stamp = shared'.clock ∨
      ∃ before ∈ shared.threads, before.stamp = some stamp ∧ ∀ task, thread.Holds task →
        before.Holds task := by
  cases step with
  | arrived =>
      rcases List.mem_append.mp listed with old | new
      · exact .inl old
      · obtain rfl := List.mem_singleton.mp new
        cases stamped
  | locked | submitted | replied =>
      rcases List.mem_or_eq_of_mem_set listed with old | rfl
      · exact .inl old
      · cases stamped
  | systemNow now found here | warned found here =>
      rcases List.mem_or_eq_of_mem_set listed with old | rfl
      · exact .inl old
      · exact .inr (.inr ⟨_, List.mem_of_getElem? found, stamped,
          fun task holds => ⟨⟨_, here⟩, holds.2⟩⟩)
  | steadyNow found here =>
      rcases List.mem_or_eq_of_mem_set listed with old | rfl
      · exact .inl old
      · cases stamped
        exact .inr (.inl rfl)
  | served | exchanged | passed => exact .inl listed

omit [DecimalText] [ProviderSdk] in
/-- Two replies of one kind, both of which are next, are of one task. -/
theorem Shared.HoldsNext.unique (holdsNext : shared.HoldsNext) (sound : shared.Sound allowed)
    {first second : Thread} {task other : Bus.TaskId} {kind : ReadKind}
    (listed : first ∈ shared.threads) (holds : first.Holds task)
    (named : shared.Named (kind.jobName deviceId) task = true)
    (listed' : second ∈ shared.threads) (holds' : second.Holds other)
    (named' : shared.Named (kind.jobName deviceId) other = true) : task = other := by
  rcases Nat.lt_trichotomy task other with before | same | after
  · exact absurd (holdsNext second listed' other holds' kind deviceId named' task before named)
      (sound.holds_unreleased listed holds)
  · exact same
  · exact absurd (holdsNext first listed task holds kind deviceId named other after named')
      (sound.holds_unreleased listed' holds')

theorem Shared.Dated.step (dated : shared.Dated) (holdsNext : shared.HoldsNext)
    (sound : shared.Sound allowed) (after : shared'.Sound allowed)
    (step : SharedStep shared label shared') : shared'.Dated := by
  have extension := sound.extends step
  constructor
  · intro thread listed stamp stamped
    rcases step.stamps listed stamped with old | now | ⟨before, old, stamped, _⟩
    · exact (dated.past thread old stamp stamped).trans step.clock
    · exact now.le
    · exact (dated.past before old stamp stamped).trans step.clock
  · intro deviceId device' found' sampled
    obtain ⟨device, found, _⟩ := extension.found sound.apart found'
    rcases sound.stamp step found found' with ⟨time, has⟩ | ⟨thread, listed, _, _, stamped, _⟩
    · rw [time]
      exact (dated.shown deviceId device found (has ▸ sampled)).trans step.clock
    · exact (dated.past thread listed _ stamped).trans step.clock
  · intro thread listed task stamp deviceId device' holds stamped named found' sampled
    obtain ⟨device, found, _⟩ := extension.found sound.apart found'
    -- What a thread held before the step is later than the sample shown after it.
    have held : ∀ before ∈ shared.threads, before.Holds task → before.stamp = some stamp →
        device'.sample.sampledAtSteady ≤ stamp := by
      intro before old holdsBefore stampedBefore
      rw [extension.named (sound.holds_lt old holdsBefore)] at named
      rcases sound.stamp step found found' with
        ⟨time, has⟩ | ⟨own, listedOwn, other, holdsOwn, _, namedOwn, released⟩
      · rw [time]
        exact dated.later before old task stamp deviceId device holdsBefore stampedBefore named found
          (has ▸ sampled)
      · obtain rfl := holdsNext.unique sound old holdsBefore named listedOwn holdsOwn namedOwn
        exact absurd released (after.holds_unreleased listed holds)
    rcases step.stamps listed stamped with old | rfl | ⟨before, old, stampedBefore, same⟩
    · exact held thread old holds stamped
    · rcases sound.stamp step found found' with ⟨time, has⟩ | ⟨own, listedOwn, _, _, stampedOwn, _⟩
      · rw [time]
        exact (dated.shown deviceId device found (has ▸ sampled)).trans step.clock
      · exact (dated.past own listedOwn _ stampedOwn).trans step.clock
    · exact held before old (same task holds) stampedBefore

/-- A step does not set the time of the last sample back. -/
theorem Shared.Dated.le_of_step (dated : shared.Dated) (sound : shared.Sound allowed)
    (step : SharedStep shared label shared') (found : shared.state.find deviceId = some device)
    (found' : shared'.state.find deviceId = some device') (sampled : device.sample.hasSample = true) :
    device.sample.sampledAtSteady ≤ device'.sample.sampledAtSteady := by
  rcases sound.stamp step found found' with
    ⟨time, _⟩ | ⟨thread, listed, task, holds, stamped, named, _⟩
  · exact time.ge
  · exact dated.later thread listed task _ deviceId device holds stamped named found sampled

end Stamps

/-! ## Runs -/

section Runs

variable [EzoDriver] [DecimalText] [ProviderSdk] {start shared : Shared}
  {labels : List ThreadLabel} {deviceId : String} {first device : ActiveDevice}

/-- What holds of every state a run in turn reaches. -/
theorem inTurn_of_reachable (reachable : (threads.restrict RepliesInTurn).Reachable shared) :
    shared.HoldsNext ∧ shared.Dated := by
  let inTurn : Shared → Prop := fun shared => shared.HoldsNext ∧ shared.Dated
  have here : inTurn shared := by
    refine reachable.induct ?_ ?_
    · rintro _ ⟨config, world, initialized, _, _, rfl⟩
      exact ⟨by simp [Shared.HoldsNext], by simp, sampledBy_of_initialized initialized, by simp⟩
    rintro shared label shared' prior ⟨holdsNext, dated⟩ ⟨step, inTurn⟩
    have sound := sound_of_threads prior.of_restrict
    have after := sound_of_threads (prior.of_restrict.steps (.single step))
    exact ⟨holdsNext.step sound step inTurn, dated.step holdsNext sound after step⟩
  exact here

/-- A run in turn records the replies in order. -/
theorem steps_recordsInOrder (started : Started start)
    (steps : (threads.restrict RepliesInTurn).Steps start labels shared) :
    (threads.restrict RecordsInOrder).Steps start labels shared := by
  induction steps with
  | refl => exact .refl
  | step prior transition ih =>
      have reachable : (threads.restrict RepliesInTurn).Reachable _ := ⟨start, _, started, prior⟩
      have recorded := (inTurn_of_reachable reachable).1.recordsInOrder
        (sound_of_threads reachable.of_restrict) transition.1
      exact ih.step ⟨transition.1, recorded⟩

/-- Under any threads the slots of the level and of the compensation show what is cached. -/
theorem slotsShown_of_threads (reachable : threads.Reachable shared)
    (found : shared.state.find deviceId = some device) :
    LevelShown device ∧ CompensationShown device := by
  let shown : Shared → Prop := fun shared => shared.state.Apart ∧
    ∀ deviceId device, shared.state.find deviceId = some device →
      LevelShown device ∧ CompensationShown device
  suffices holds : shown shared from holds.2 deviceId device found
  refine reachable.induct ?_ ?_
  · rintro _ ⟨config, world, initialized, _, _, rfl⟩
    have sound := sound_of_initialized initialized
    exact ⟨sound.apart, fun _ _ found => ⟨sound.level found, sound.compensation found⟩⟩
  rintro shared label shared' prior ⟨apart, shown⟩ step
  have sound := sound_of_threads prior
  refine ⟨(sound_of_threads (prior.steps (.single step))).apart, fun deviceId device' found' => ?_⟩
  obtain ⟨device, before, _⟩ := (sound.extends step).found apart found'
  obtain ⟨after, foundAfter, written⟩ := sound.written step before
  cases foundAfter.symm.trans found'
  obtain ⟨level, compensation⟩ := shown deviceId device before
  rcases written with rfl | ⟨round, effect⟩
  · exact ⟨level, compensation⟩
  · exact ⟨effect.levelShown level, effect.compensationShown compensation⟩

/-- Where every caller goes on with the reply to a read in its turn, the jobs run and the replies of
each kind are recorded in the order they were submitted in, so that what a device shows is never
replaced by what was read before, and the time of its last sample is not set back. Once all have
returned, none having given up, the device shows the reads which ran last on the bus. -/
theorem readings_in_turn (started : Started start)
    (before : start.state.find deviceId = some first)
    (steps : (Runtime.threads.restrict RepliesInTurn).Steps start labels shared)
    (found : shared.state.find deviceId = some device) :
    (shared.ShowsLast shared.released deviceId first device ∧
        LevelShown device ∧ CompensationShown device) ∧
      (shared.executor.begun.Pairwise (· < ·) ∧ ∀ kind : ReadKind,
        (shared.released.filter (shared.Named (kind.jobName deviceId))).Pairwise (· < ·)) ∧
      (∀ label shared' device', SharedStep shared label shared' →
        shared'.state.find deviceId = some device' → device.sample.hasSample = true →
          device.sample.sampledAtSteady ≤ device'.sample.sampledAtSteady) ∧
      (shared.Returned → shared.ReadsWaited deviceId →
        shared.ShowsLast shared.executor.begun deviceId first device) := by
  have reachable : (threads.restrict RepliesInTurn).Reachable shared := ⟨start, labels, started, steps⟩
  have sound := sound_of_threads reachable.of_restrict
  have recorded := steps_recordsInOrder started steps
  refine ⟨⟨(publishes_of_steps started before steps.of_restrict).showsLast found,
    slotsShown_of_threads reachable.of_restrict found⟩,
    ⟨sound.executor.order.begun, fun kind => ?_⟩, ?_, ?_⟩
  · exact (inOrder_of_reachable ⟨start, labels, started, recorded⟩).ascending
  · intro label shared' device' step found' sampled
    exact (inTurn_of_reachable reachable).2.le_of_step sound step found found' sampled
  · intro returned waited
    exact showsLast_of_inOrder started before recorded found sound.executor.order.begun
      fun kind task named => released_iff_begun started before steps.of_restrict returned waited named

end Runs

section Canned

open CannedBus CannedProvider CannedThreads

/-- Whether a caller goes on with its reply only in its turn. -/
def repliesInTurn (shared : Shared) (label : ThreadLabel) (_ : Shared) : Bool :=
  match label with
  | .replied index =>
      (shared.threads[index]?).all fun thread =>
        match thread.phase with
        | .waiting task _ => (List.range task).all fun earlier =>
            taskName shared earlier ≠ taskName shared task || shared.released.contains earlier
        | .running _ => true
  | _ => true

theorem repliesInTurn_of_check {shared shared' : Shared} {label : ThreadLabel}
    (checked : repliesInTurn shared label shared' = true) :
    RepliesInTurn shared label shared' := by
  rintro index thread task next rfl found here kind deviceId named earlier before same
  simp only [repliesInTurn, found, Option.all_some, here, List.all_eq_true] at checked
  have released := checked earlier (List.mem_range.mpr before)
  simpa [taskName_of_named named, taskName_of_named same] using released

/-- Two refreshes and two level reads at once, each going on with its reply in its turn. -/
def readsInTurn : List Choice :=
  .arrives (.refresh "probe") :: .arrives (.readLevel "probe") :: .arrives (.refresh "probe") ::
    .arrives (.readLevel "probe") :: .goes 0 :: .goes 1 :: .goes 2 :: .goes 3 :: .goes 2 ::
      .goes 1 :: .goes 0 :: .goes 3 :: worksThen 40 (.returns 3 :: .returns 2 :: .returns 1 ::
        .returns 0 :: .goes 1 :: List.replicate 4 (.goes 2) ++ .goes 1 ::
          List.replicate 2 (.goes 3) ++ List.replicate 4 (.goes 0))

theorem readsInTurn_readFour :
    (runs healthy repliesInTurn readsInTurn start).any readFour = true := by
  decide +kernel

theorem readings_in_turn_canned : ∃ (shared : Shared) (first device : ActiveDevice),
    (threads.restrict RepliesInTurn).Reachable shared ∧ shared.executor.begun.length = 4 ∧
      device.calibrationLevel.isSome = true ∧
        shared.ShowsLast shared.executor.begun "probe" first device := by
  obtain ⟨shared, run, checked⟩ := (Option.any_eq_true _ _).mp readsInTurn_readFour
  simp only [readFour, Bool.and_eq_true, Option.any_eq_true, decide_eq_true_eq,
    List.all_eq_true] at checked
  obtain ⟨⟨⟨⟨returned, four⟩, waited⟩, before⟩, device, found, level⟩ := checked
  obtain ⟨first, before⟩ := Option.isSome_iff_exists.mp before
  obtain ⟨labels, steps⟩ := steps_of_runs repliesInTurn_of_check run
  have shows := (readings_in_turn started_start before steps found).2.2.2
    (returned_of_hasReturned returned)
    fun _ _ call _ called => waited call (List.mem_of_getElem? called)
  exact ⟨shared, first, device, ⟨start, labels, started_start, steps⟩, four, level, shows⟩

/-- What the probe measures has changed. -/
def changed : Setup := { healthy with measured := 8 }

/-- Two refreshes whose jobs run before and after what the probe measures has changed. -/
def refreshesAtOnce : List Choice :=
  .arrives (.refresh "probe") :: .arrives (.refresh "probe") :: .goes 0 :: .goes 1 :: .goes 0 ::
    .goes 1 :: worksThen 10 []

/-- Both go on with their replies, the first one first, and the second one records its own. -/
def secondRecords : List Choice :=
  worksThen 10 (.returns 0 :: .returns 1 :: List.replicate 3 (.goes 0) ++
    List.replicate 4 (.goes 1))

/-- The run, up to where only the reply of the first job is to be recorded. -/
def newerRecorded : Option Shared :=
  (runs healthy anything refreshesAtOnce start).bind (runs changed anything secondRecords)

theorem measured_ph : Measured .ph 0 := by
  constructor <;> decide

/-- Whether all is done with no fault, and the older reading has replaced the newer one. -/
def replacesNewer (before after : Shared) : Bool :=
  hasReturned after && hasFinished after &&
    (after.executor.ended.all (·.2.isOk) &&
      after.executor.calls.all fun call => call.phase ≠ .returned .deadlineExceeded) &&
    (start.state.find "probe").any fun first =>
      (before.state.find "probe").any fun device => (after.state.find "probe").any fun device' =>
        device.sample.hasSample && device'.sample.sampledAtSteady < device.sample.sampledAtSteady &&
          (device'.spec.type = .ph && device'.sample.signals[0]? ≠ lastWritten first.sample.signals[0]?
            (after.recorded (signalReading measured_ph) "probe") after.executor.begun)

theorem newerRecorded_replacesNewer :
    (newerRecorded.any fun before => (advance changed before (.goes 0)).any fun next =>
      replacesNewer before next.2) = true := by
  decide +kernel

/-- Two refreshes, nothing failing and nobody giving up: the sample read first is recorded last, and
the time of the last sample is set back. -/
theorem older_sample_replaces_newer :
    ∃ (before after : Shared) (label : ThreadLabel) (first device device' : ActiveDevice),
      threads.Reachable before ∧ SharedStep before label after ∧
        start.state.find "probe" = some first ∧ before.state.find "probe" = some device ∧
        after.state.find "probe" = some device' ∧ after.Returned ∧ after.Finished ∧
        (∀ entry ∈ after.executor.ended, entry.2.isOk = true) ∧ after.ReadsWaited "probe" ∧
        device.sample.hasSample = true ∧
        device'.sample.sampledAtSteady < device.sample.sampledAtSteady ∧
        ¬ after.ShowsLast after.executor.begun "probe" first device' := by
  obtain ⟨before, run, checked⟩ := (Option.any_eq_true _ _).mp newerRecorded_replacesNewer
  obtain ⟨⟨label, after⟩, advanced, checked⟩ := (Option.any_eq_true _ _).mp checked
  obtain ⟨middle, earlier, later⟩ := Option.bind_eq_some_iff.mp run
  simp only [replacesNewer, Bool.and_eq_true, Option.any_eq_true, decide_eq_true_eq,
    List.all_eq_true] at checked
  obtain ⟨⟨⟨returned, finished⟩, ok, waited⟩, first, found, device, there, device', found', checked⟩ :=
    checked
  obtain ⟨⟨sampled, backward⟩, family, other⟩ := checked
  obtain ⟨_, one⟩ := @steps_of_runs _ anything (fun _ _ _ => True) (fun _ => trivial) _ _ _ earlier
  obtain ⟨_, two⟩ := @steps_of_runs _ anything (fun _ _ _ => True) (fun _ => trivial) _ _ _ later
  have reachable : threads.Reachable before :=
    ⟨start, _, started_start, one.of_restrict.trans two.of_restrict⟩
  refine ⟨before, after, label, first, device, device', reachable, step_of_advance advanced, found,
    there, found', returned_of_hasReturned returned, finished_of_hasFinished finished,
    fun entry => ok entry, ?_, sampled, backward, fun shows => ?_⟩
  · exact fun kind task call _ called => waited call (List.mem_of_getElem? called)
  · have measured : Measured device'.spec.type 0 := family ▸ measured_ph
    exact other (shows.signals measured)

end Canned

end EzoProvider.Runtime
