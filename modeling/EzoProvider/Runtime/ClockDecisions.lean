import EzoProvider.Runtime.Conformance
import EzoProvider.Runtime.Refreshes
import EzoProvider.Runtime.Timeline

/-!
# Decisions on the age of a sample

`read` and `device_health` measure the age of a sample on the wall clock. As
long as nothing steps that clock it is the time that has passed; a step makes
a stale sample fresh for as long as it went back.
-/

namespace EzoProvider.Runtime

open Interaction Program Devices TransitionSystem

/-- Every sample is as old as it is by the wall clock. -/
def Timeline.Stamped (timeline : Timeline) : Prop :=
  ∀ deviceId device, timeline.world.state.find deviceId = some device →
    device.sample.hasSample = true →
      device.sample.sampledAt - timeline.taken deviceId = timeline.wall - timeline.world.clock

/-- An operation which stamps no sample. -/
def CallerOp.KeepsStamps : CallerOp → Prop
  | .locked change => ∀ state deviceId device, (change state).find deviceId = some device →
      device.sample.hasSample = true → ∃ before, state.find deviceId = some before ∧
        before.sample.hasSample = true ∧ before.sample.sampledAt = device.sample.sampledAt ∧
        before.sample.sequence = device.sample.sequence
  | _ => True

/-- A change of one device which leaves the stamps of its sample. -/
theorem keepsStamps_update {deviceId : String} {change : ActiveDevice → ActiveDevice}
    (spec : ∀ device, (change device).spec = device.spec)
    (sampled : ∀ device, (change device).sample.hasSample = device.sample.hasSample)
    (stamp : ∀ device, (change device).sample.sampledAt = device.sample.sampledAt)
    (sequence : ∀ device, (change device).sample.sequence = device.sample.sequence) :
    (CallerOp.locked (·.update deviceId change)).KeepsStamps := by
  intro state other device found has
  rw [RuntimeState.find_update spec] at found
  split at found
  · next same =>
      obtain ⟨before, here, rfl⟩ := Option.map_eq_some_iff.mp found
      rw [sampled] at has
      exact ⟨before, by rw [same, here], has, (stamp before).symm, (sequence before).symm⟩
  · exact ⟨device, found, has, rfl, rfl⟩

theorem keepsStamps_systemNow : CallerOp.systemNow.KeepsStamps := trivial

theorem keepsStamps_steadyNow : CallerOp.steadyNow.KeepsStamps := trivial

/-- A state without samples has no stamps. -/
theorem keepsStamps_publish {state : RuntimeState}
    (fresh : ∀ device ∈ state.activeDevices, device.sample.hasSample = false) :
    (CallerOp.locked fun _ => state).KeepsStamps := by
  intro _ deviceId device found has
  rw [fresh device (RuntimeState.mem_of_find found)] at has
  cases has

theorem keepsStamps_issue {op : CallerOp} (keeps : op.KeepsStamps) :
    (CallerOp.issue op).Only CallerOp.KeepsStamps :=
  ⟨keeps, fun _ => trivial⟩

theorem keepsStamps_publish_only {state : RuntimeState}
    (fresh : ∀ device ∈ state.activeDevices, device.sample.hasSample = false) :
    (publish state).Only CallerOp.KeepsStamps :=
  only_bind (keepsStamps_issue (keepsStamps_publish fresh)) fun _ => trivial

theorem keepsStamps_reset : reset.Only CallerOp.KeepsStamps := by
  have stops : (CallerOp.locked fun state => { state with i2cExecutorRunning := false }).KeepsStamps :=
    fun state deviceId device found has => ⟨device, found, has, rfl, rfl⟩
  have resets : (CallerOp.locked fun _ => {}).KeepsStamps := keepsStamps_publish (by simp)
  exact only_bind (only_bind (keepsStamps_issue stops) fun _ => keepsStamps_issue trivial) fun _ =>
    only_bind (keepsStamps_issue resets) fun _ => trivial

theorem keepsStamps_warnCacheWindow (config : ProviderConfig) :
    (warnCacheWindow config).Only CallerOp.KeepsStamps := by
  rw [warnCacheWindow]
  split
  · exact keepsStamps_issue trivial
  · trivial

theorem keepsStamps_checkHost (config : ProviderConfig) :
    (checkHost config).Only CallerOp.KeepsStamps := by
  rw [checkHost]
  split
  · trivial
  · exact keepsStamps_issue trivial

section Stamps

variable [DecimalText] {submits : Submits} {ticks : Ticks} {start final : Timeline}

/-- In step, what stamps no sample leaves every sample as old as it is. -/
theorem stamped_of_answers (inStep : ticks.InStep) {op : CallerOp} {answer : op.Result}
    (keeps : op.KeepsStamps) (stamped : start.Stamped)
    (answers : (Timeline.environment submits ticks).Answers start op answer final) :
    final.Stamped := by
  have apart := apart_of_answers inStep answers
  intro deviceId device found has
  by_cases locks : ∃ change, op = .locked change
  · obtain ⟨change, rfl⟩ := locks
    obtain ⟨elapsed, _, ⟨_, world⟩, _, taken⟩ := answers
    have state : final.world.state = change start.world.state := congrArg World.state world
    rw [state] at found
    obtain ⟨before, foundBefore, hasBefore, stamp, sequence⟩ :=
      keeps start.world.state deviceId device found has
    have kept : final.taken deviceId = start.taken deviceId := by
      rw [taken, Timeline.stamped, if_pos]
      simp [sequenceOf, found, foundBefore, sequence]
    rw [kept, apart, ← stamp]
    exact stamped deviceId before foundBefore hasBefore
  · obtain ⟨state, taken⟩ := state_of_answers (fun change same => locks ⟨change, same⟩) answers
    rw [state] at found
    rw [taken, apart]
    exact stamped deviceId device found has

theorem maintains_stamped (inStep : ticks.InStep) {α : Type} {program : Caller α}
    (only : program.Only CallerOp.KeepsStamps) :
    Maintains (Timeline.environment submits ticks) Timeline.Stamped program :=
  maintains_of_only only (stamped_of_answers inStep)

end Stamps

section Decisions

variable [EzoDriver]

theorem keepsStamps_of_routine (op : CallerOp) (routine : op.Routine) : op.KeepsStamps := by
  cases routine with
  | looked => exact fun state deviceId device found has => ⟨device, found, has, rfl, rfl⟩
  | @levelRead _ status level =>
      have frame := fun device => recordCalibrationLevel_frame device status level
      refine keepsStamps_update (by simp) ?_ ?_ ?_ <;> intro device <;>
        obtain ⟨_, _, same⟩ := frame device <;> rw [same]
  | @checked _ status reading reapplied =>
      have frame := fun device => recordCompensation_frame device status reading reapplied
      refine keepsStamps_update (by simp) ?_ ?_ ?_ <;> intro device <;>
        obtain ⟨_, _, same⟩ := frame device <;> rw [same]
  | remembered => exact keepsStamps_update (by simp) (fun _ => rfl) (fun _ => rfl) fun _ => rfl
  | @recorded _ functionName message ok now =>
      have frame := fun device => recordCall_frame device functionName ok message now
      refine keepsStamps_update (by simp) ?_ ?_ ?_ <;> intro device <;>
        obtain ⟨_, _, _, same⟩ := frame device <;> rw [same]
  | submitted | systemNow | steadyNow | warned => trivial

/-- What the probes admit has no sample yet. -/
theorem fresh_admitAll {state : RuntimeState} (blank : state.activeDevices = [])
    (probes : List StartupProbe) (readyAt : Int) :
    ∀ device ∈ (startedState (admitAll state probes) readyAt).activeDevices,
      device.sample.hasSample = false := by
  intro device member
  rw [activeDevices_startedState, admitAll_eq, blank] at member
  obtain ⟨probe, _, rfl⟩ := List.mem_map.mp member
  rfl

theorem keepsStamps_probeDevices (config : ProviderConfig) (state : RuntimeState)
    (specs : List DeviceSpec) : (probeDevices config state specs).Only CallerOp.KeepsStamps := by
  induction specs generalizing state with
  | nil => trivial
  | cons spec specs ih => exact only_bind (keepsStamps_issue trivial) fun reply => ih _

variable [DecimalText] {submits : Submits} {ticks : Ticks} {start final : Timeline}

theorem maintains_routine (inStep : ticks.InStep) {α : Type} {program : Caller α}
    (only : program.Only CallerOp.Routine) :
    Maintains (Timeline.environment submits ticks) Timeline.Stamped program :=
  maintains_stamped inStep (only.mono keepsStamps_of_routine)

/-- A sample recorded with the wall clock's reading, of the time it was read. -/
theorem stamped_of_record (inStep : ticks.InStep) {deviceId : String} {config : ProviderConfig}
    {status : Status} {signals : List SignalSample} {now nowSteady : Int} {found : RuntimeState}
    (stamped : start.Stamped) (read : now - start.read = start.wall - start.world.clock)
    (answers : (Timeline.environment submits ticks).Answers start
      (.locked (·.update deviceId (recordSample config deviceId status signals now nowSteady)))
      found final) : final.Stamped := by
  have apart := apart_of_answers inStep answers
  obtain ⟨rfl, state, taken⟩ := answers_locked answers
  intro other device' foundThen has
  rw [state, RuntimeState.find_update (by simp)] at foundThen
  rw [apart, taken, Timeline.stamped]
  by_cases same : other = deviceId
  · subst same
    rw [if_pos rfl] at foundThen
    obtain ⟨device, here, rfl⟩ := Option.map_eq_some_iff.mp foundThen
    have after : sequenceOf (start.world.state.update other
        (recordSample config other status signals now nowSteady)) other =
        some (recordSample config other status signals now nowSteady device).sample.sequence := by
      rw [sequenceOf, RuntimeState.find_update_self (by simp), here, Option.map_some,
        Option.map_some]
    have before : sequenceOf start.world.state other = some device.sample.sequence := by
      rw [sequenceOf, here, Option.map_some]
    rw [after, before]
    cases ok : status.isOk with
    | true =>
        have next : (recordSample config other status signals now nowSteady device).sample.sequence =
            device.sample.sequence + 1 := by
          exact (recordSample_ok config other signals now nowSteady device ok).2.1
        rw [next, if_neg (by simp)]
        have stamp : (recordSample config other status signals now nowSteady device).sample.sampledAt =
            now := by
          simp [recordSample, ok]
        rw [stamp, read]
    | false =>
        simp only [recordSample, ok, Bool.false_eq_true, if_false, if_true] at has ⊢
        exact stamped other device here has
  · rw [if_neg same] at foundThen
    have kept : sequenceOf (start.world.state.update deviceId
        (recordSample config deviceId status signals now nowSteady)) other =
        sequenceOf start.world.state other := by
      rw [sequenceOf, sequenceOf, RuntimeState.find_update_other (by simp) same]
    rw [if_pos kept]
    exact stamped other device' foundThen has

theorem maintains_refreshDeviceSample (inStep : ticks.InStep) (deviceId : String) :
    Maintains (Timeline.environment submits ticks) Timeline.Stamped
      (refreshDeviceSample deviceId) := by
  rw [refreshDeviceSample]
  split
  · exact maintains_done
  apply maintains_bind (maintains_routine inStep (routine_issue .looked))
  intro state
  split
  · exact maintains_done
  · next device found =>
      apply maintains_bind
        (maintains_routine inStep (routine_issue (.submitted (sample_ne_startupProbe _))))
      intro reply start status final stamped completes
      -- The two clocks are read one after the other, and then the sample is recorded.
      obtain ⟨now, dated, wall, rest⟩ := completes_bind_iff.mp completes
      obtain ⟨nowSteady, timed, steady, rest⟩ := completes_bind_iff.mp rest
      obtain ⟨before, recorded, change, rest⟩ := completes_bind_iff.mp rest
      have wallAnswers := completes_ask_iff.mp wall
      have steadyAnswers := completes_ask_iff.mp steady
      have datedStamped := stamped_of_answers inStep keepsStamps_systemNow stamped wallAnswers
      have timedStamped :=
        stamped_of_answers inStep keepsStamps_steadyNow datedStamped steadyAnswers
      have read : now - timed.read = timed.wall - timed.world.clock := by
        obtain ⟨_, _, _, rfl, read, _⟩ := wallAnswers
        rw [apart_of_answers inStep steadyAnswers]
        obtain ⟨_, _, _, _, kept, _⟩ := steadyAnswers
        rw [kept, read]
      have recordedStamped :=
        stamped_of_record inStep timedStamped read (completes_ask_iff.mp change)
      split at rest
      · obtain ⟨_, rfl⟩ := completes_done_iff.mp rest
        exact recordedStamped
      · exact maintains_routine inStep (routine_afterSample _ _ _ _) recordedStamped rest

theorem maintains_read [ProviderSdk] (inStep : ticks.InStep) (deviceId : String)
    (signalIds : List String) :
    Maintains (Timeline.environment submits ticks) Timeline.Stamped (read deviceId signalIds) := by
  have routine : ∀ {α : Type} {program : Caller α}, program.Only CallerOp.Routine →
      Maintains (Timeline.environment submits ticks) Timeline.Stamped program :=
    maintains_routine inStep
  apply maintains_bind (routine (routine_issue .looked))
  intro state
  split
  · exact maintains_done
  · dsimp only
    split
    · exact maintains_done
    · apply maintains_bind (routine (routine_needsRefresh _ _))
      intro stale
      split
      · apply maintains_bind (maintains_refreshDeviceSample inStep deviceId)
        intro status
        apply maintains_bind (routine (routine_issue .looked))
        intro later
        split
        · split
          · exact maintains_done
          · exact routine (routine_serveSample _ _ _)
        · apply maintains_bind (routine (routine_issue .warned))
          intro warned
          split
          · exact maintains_done
          · exact routine (routine_serveSample _ _ _)
      · exact routine (routine_serveSample _ _ _)

theorem maintains_startupReadsOf (inStep : ticks.InStep) (deviceIds : List String) :
    Maintains (Timeline.environment submits ticks) Timeline.Stamped
      (startupReadsOf deviceIds) := by
  induction deviceIds with
  | nil => exact maintains_done
  | cons deviceId rest ih =>
      refine maintains_bind ?_ fun _ => ih
      apply maintains_bind (maintains_refreshDeviceSample inStep deviceId)
      intro refreshed
      exact maintains_routine inStep <|
        only_bind (routine_warnUnlessOk _ _) fun _ =>
          only_bind (routine_refreshCalibrationLevel _) fun _ =>
            only_bind (routine_warnUnlessOk _ _) fun _ =>
              only_bind (routine_checkCompensation _) fun _ => routine_warnUnlessOk _ _

theorem maintains_probeAndPublish (inStep : ticks.InStep) {state : RuntimeState}
    (blank : state.activeDevices = []) :
    Maintains (Timeline.environment submits ticks) Timeline.Stamped (probeAndPublish state) := by
  intro start value final stamped completes
  obtain ⟨probed, middle, probing, rest⟩ := completes_bind_iff.mp completes
  have stampedMiddle := maintains_stamped inStep (keepsStamps_probeDevices _ _ _) stamped
    probing
  obtain ⟨_, run, _⟩ := probing
  obtain ⟨probes, _, _, rfl⟩ := runs_probeDevices run
  have ready : ∀ state, Maintains (Timeline.environment submits ticks) Timeline.Stamped
      (readyTime state) := by
    intro state
    rw [readyTime]
    split
    · exact maintains_done
    · exact maintains_stamped inStep (keepsStamps_issue keepsStamps_systemNow)
  apply maintains_bind (ready _) _ stampedMiddle rest
  intro readyAt
  exact maintains_bind
    (maintains_stamped inStep (keepsStamps_publish_only (fresh_admitAll blank probes readyAt)))
    fun _ => maintains_startupReadsOf inStep _

theorem maintains_initializeRuntime [ProviderSdk] (inStep : ticks.InStep)
    (config : ProviderConfig) :
    Maintains (Timeline.environment submits ticks) Timeline.Stamped
      (initializeRuntime config) := by
  apply maintains_bind (maintains_stamped inStep keepsStamps_reset)
  intro _
  apply maintains_bind (maintains_stamped inStep (keepsStamps_warnCacheWindow config))
  intro _
  apply maintains_bind (maintains_stamped inStep (keepsStamps_issue keepsStamps_systemNow))
  intro startedAt
  apply maintains_bind (maintains_stamped inStep (keepsStamps_checkHost config))
  intro hostRequirements
  dsimp only
  split
  · exact maintains_stamped inStep (keepsStamps_publish_only (by simp [unmetState]))
  · apply maintains_bind
      (maintains_stamped inStep
        (keepsStamps_issue (show CallerOp.KeepsStamps (.startExecutor config) from trivial)))
    intro status
    split
    · exact maintains_stamped inStep (keepsStamps_publish_only (by simp [unstartedState]))
    · exact maintains_probeAndPublish inStep rfl

theorem maintains_run [ProviderSdk] (inStep : ticks.InStep) (request : Request) :
    Maintains (Timeline.environment submits ticks) Timeline.Stamped request.run := by
  have drop : ∀ {α : Type} {program : Caller α},
      Maintains (Timeline.environment submits ticks) Timeline.Stamped program →
      Maintains (Timeline.environment submits ticks) Timeline.Stamped
        (program >>= fun _ => pure ()) :=
    fun maintains => maintains_bind maintains fun _ => maintains_done
  cases request with
  | refresh deviceId => exact drop (maintains_refreshDeviceSample inStep deviceId)
  | read deviceId signalIds => exact drop (maintains_read inStep deviceId signalIds)
  | readLevel deviceId =>
      exact drop (maintains_routine inStep (routine_refreshCalibrationLevel deviceId))
  | check deviceId => exact drop (maintains_routine inStep (routine_checkCompensation deviceId))
  | call deviceId functionId args =>
      exact drop (maintains_routine inStep (routine_call deviceId functionId args))
  | health deviceId => exact drop (maintains_routine inStep (routine_deviceHealth deviceId))

/-- A device's health is looked at, not changed. -/
theorem unchanged_of_deviceHealth {deviceId : String} {health : DeviceHealthExtra}
    {world world' : World}
    (completes : Completes (World.environment submits) (deviceHealth deviceId) world health world') :
    world' = world := by
  obtain ⟨_, _, looked, rest⟩ := completes_bind_iff.mp completes
  obtain ⟨rfl, rfl⟩ := completes_snapshot_iff.mp looked
  split at rest
  · exact (completes_done_iff.mp rest).2
  · obtain ⟨_, _, clock, final⟩ := completes_bind_iff.mp rest
    obtain rfl := completes_systemNow_iff.mp clock
    exact (completes_done_iff.mp final).2

/-- A refresh of a device which is there goes to the bus. -/
theorem submits_of_refresh {deviceId : String} {device : ActiveDevice} {trace : CallerTrace}
    {status : Status} (named : deviceId ≠ "")
    (found : start.world.state.find deviceId = some device)
    (run : (refreshDeviceSample deviceId).Runs trace status)
    (path : (Timeline.environment submits ticks).Path start trace final) :
    ∃ timeoutMs job reply, ⟨.submit ("sample:" ++ deviceId) timeoutMs job, reply⟩ ∈ trace := by
  rw [refreshDeviceSample, if_neg named] at run
  obtain ⟨_, state, rest, rfl, looked, after⟩ := runs_bind_iff.mp run
  obtain rfl := runs_ask_iff.mp looked
  obtain ⟨middle, answers, _⟩ := Environment.path_cons_iff.mp path
  obtain ⟨rfl, _⟩ := answers_locked answers
  simp only [found] at after
  obtain ⟨_, reply, _, rfl, submitted, _⟩ := runs_bind_iff.mp after
  obtain rfl := runs_ask_iff.mp submitted
  exact ⟨_, _, reply, List.mem_append_right _ List.mem_cons_self⟩

/-- In step, a device whose last read succeeded is stale exactly when its sample is too old. -/
theorem stale_iff_of_deviceHealth (inStep : ticks.InStep) {deviceId : String}
    {device : ActiveDevice} {health : DeviceHealthExtra} (stamped : start.Stamped)
    (found : start.world.state.find deviceId = some device)
    (has : device.sample.hasSample = true) (lastOk : device.sample.lastReadOk = true)
    (completes : Completes (Timeline.environment submits ticks) (deviceHealth deviceId) start
      health final) :
    health.state = some .stale ↔
      staleAfterMs start.world.state.config <
        toMilliseconds (final.world.clock - final.taken deviceId) := by
  obtain ⟨_, middle, looked, rest⟩ := completes_bind_iff.mp completes
  have lookedAnswers := completes_ask_iff.mp looked
  obtain ⟨rfl, state, _⟩ := answers_locked lookedAnswers
  simp only [found] at rest
  obtain ⟨now, _, clock, done⟩ := completes_bind_iff.mp rest
  have clockAnswers := completes_ask_iff.mp clock
  obtain ⟨rfl, rfl⟩ := completes_done_iff.mp done
  obtain ⟨stateThen, _⟩ := state_of_answers (by simp) clockAnswers
  have stampedThen : final.Stamped :=
    stamped_of_answers inStep keepsStamps_systemNow
      (stamped_of_answers inStep (keepsStamps_of_routine _ .looked) stamped lookedAnswers)
      clockAnswers
  have age := stampedThen deviceId device (by rw [stateThen, state]; exact found) has
  obtain ⟨_, _, _, wall, _⟩ := clockAnswers
  have read : @Eq Int now final.wall := wall
  have same : final.world.clock - final.taken deviceId = now - device.sample.sampledAt := by omega
  rw [same]
  by_cases stale : staleAfterMs start.world.state.config <
      toMilliseconds (now - device.sample.sampledAt) <;>
    simp [healthState, has, lastOk, stale]

variable [ProviderSdk]

/-- A request is an operation of the provider, or changes nothing. -/
theorem providerStep_of_run {request : Request} {world world' : World}
    (completes : Completes (World.environment submits) request.run world () world') :
    world' = world ∨ ∃ operation, ProviderStep submits world operation world' := by
  cases request with
  | refresh deviceId =>
      obtain ⟨status, _, refreshed, final⟩ := completes_bind_iff.mp completes
      obtain ⟨_, rfl⟩ := completes_done_iff.mp final
      exact .inr ⟨_, .refresh refreshed⟩
  | readLevel deviceId =>
      obtain ⟨status, _, levelRead, final⟩ := completes_bind_iff.mp completes
      obtain ⟨_, rfl⟩ := completes_done_iff.mp final
      exact .inr ⟨_, .readLevel levelRead⟩
  | check deviceId =>
      obtain ⟨status, _, checked, final⟩ := completes_bind_iff.mp completes
      obtain ⟨_, rfl⟩ := completes_done_iff.mp final
      exact .inr ⟨_, .check checked⟩
  | read deviceId signalIds =>
      obtain ⟨result, _, read, final⟩ := completes_bind_iff.mp completes
      obtain ⟨_, rfl⟩ := completes_done_iff.mp final
      exact .inr ⟨_, .read read⟩
  | call deviceId functionId args =>
      obtain ⟨result, _, called, final⟩ := completes_bind_iff.mp completes
      obtain ⟨_, rfl⟩ := completes_done_iff.mp final
      exact .inr ⟨_, .call called⟩
  | health deviceId =>
      obtain ⟨health, _, looked, final⟩ := completes_bind_iff.mp completes
      obtain ⟨_, rfl⟩ := completes_done_iff.mp final
      exact .inl (unchanged_of_deviceHealth looked)

/-- Time left out, the provider in time is the provider. -/
theorem reachable_at (forward : ticks.Forward) {timeline : Timeline}
    (reachable : (requests submits ticks).Reachable timeline) :
    ∃ clock ≤ timeline.world.clock, (provider submits).Reachable (timeline.world.at clock) := by
  let erases : Timeline → Prop := fun timeline =>
    ∃ clock ≤ timeline.world.clock, (provider submits).Reachable (timeline.world.at clock)
  refine @Reachable.holds _ _ (requests submits ticks) erases ?_ ?_ timeline reachable
  · rintro start ⟨config, bus, wall, valid, completes⟩
    obtain ⟨clock, before, erased⟩ := completes_at forward completes (le_refl _)
    exact ⟨clock, before, .initial ⟨config, valid, bus, erased⟩⟩
  · rintro before label after ⟨clock, earlier, reached⟩ step
    cases label with
    | some request =>
        obtain ⟨clock', later, erased⟩ := completes_at forward step earlier
        refine ⟨clock', later, ?_⟩
        rcases providerStep_of_run erased with same | ⟨operation, transition⟩
        · rwa [same]
        · exact reached.steps (.single transition)
    | none =>
        obtain ⟨elapsed, line, ticked, passes, same⟩ := step
        have passed := forward ticked
        have clocks : after.world.clock = before.world.clock + elapsed := by
          rw [same]
          rfl
        refine ⟨clock, by omega, ?_⟩
        have world : after.world.at clock = { before.world.at clock with line } := by
          rw [same]
          rfl
        rw [world]
        exact reached.steps (.single (.wait passes))

/-- In step, every sample of a run is as old as it is by the wall clock. -/
theorem stamped_of_reachable (inStep : ticks.InStep) {timeline : Timeline}
    (reachable : (requests submits ticks).Reachable timeline) : timeline.Stamped := by
  refine @Reachable.holds _ _ (requests submits ticks) Timeline.Stamped ?_ ?_ timeline reachable
  · rintro start ⟨config, bus, wall, valid, completes⟩
    refine maintains_initializeRuntime inStep config ?_ completes
    intro deviceId device found
    simp [RuntimeState.find] at found
  · rintro before label after stamped step
    cases label with
    | some request => exact maintains_run inStep request stamped step
    | none =>
        obtain ⟨elapsed, line, ticked, _, same⟩ := step
        have wall := (inStep ticked).2
        intro deviceId device found has
        have state : after.world.state = before.world.state := by
          rw [same]
          rfl
        have clock : after.world.clock = before.world.clock + elapsed := by
          rw [same]
          rfl
        have taken : after.taken = before.taken := by rw [same]
        rw [state] at found
        have here := stamped deviceId device found has
        rw [taken]
        omega

/-! ## Decisions -/

/-- A read which goes to no bus; at `decided` it has looked at the age of the sample. -/
def CachedRead (submits : Submits) (ticks : Ticks) (timeline : Timeline) (deviceId : String)
    (signalIds : List String) (result : AdapterReadResult) (decided : Timeline) : Prop :=
  ∃ looked served final, (read deviceId signalIds).Runs (looked ++ served) result ∧
    looked.length = 2 ∧ (Timeline.environment submits ticks).Path timeline looked decided ∧
    (Timeline.environment submits ticks).Path decided served final ∧
    ∀ exchange ∈ looked ++ served, ¬ exchange.1.Submits

theorem submits_of_refreshAndServe {deviceId : String} {device : ActiveDevice}
    {indexes : List Nat} {trace : CallerTrace} {result : AdapterReadResult} (named : deviceId ≠ "")
    (found : start.world.state.find deviceId = some device)
    (run : (refreshAndServe deviceId indexes).Runs trace result)
    (path : (Timeline.environment submits ticks).Path start trace final) :
    ∃ timeoutMs job reply, ⟨.submit ("sample:" ++ deviceId) timeoutMs job, reply⟩ ∈ trace := by
  obtain ⟨first, status, rest, rfl, refreshed, _⟩ := runs_bind_iff.mp run
  obtain ⟨middle, refreshing, _⟩ := Environment.path_append_iff.mp path
  obtain ⟨timeoutMs, job, reply, member⟩ := submits_of_refresh named found refreshed refreshing
  exact ⟨timeoutMs, job, reply, List.mem_append_left _ member⟩

/-- A sample served without the bus is within the reuse window. -/
theorem fresh_of_cachedRead (inStep : ticks.InStep) {deviceId : String} {device : ActiveDevice}
    {signalIds : List String} {result : AdapterReadResult} {decided : Timeline}
    (named : deviceId ≠ "") (stamped : start.Stamped)
    (found : start.world.state.find deviceId = some device)
    (cached : CachedRead submits ticks start deviceId signalIds result decided)
    (ok : result.ok = true) :
    toMilliseconds (decided.world.clock - decided.taken deviceId) ≤
      queryLatencyMs start.world.state.config := by
  obtain ⟨looked, served, final, run, two, path, servedPath, silent⟩ := cached
  obtain ⟨first, second, rfl⟩ := List.length_eq_two.mp two
  obtain ⟨middle, firstAnswers, path⟩ := Environment.path_cons_iff.mp path
  obtain ⟨_, secondAnswers, ended⟩ := Environment.path_cons_iff.mp path
  obtain rfl := Environment.path_nil_iff.mp ended
  obtain ⟨_, state, rest, split, looks, after⟩ := runs_bind_iff.mp run
  obtain rfl := runs_ask_iff.mp looks
  obtain ⟨rfl, rfl⟩ := List.cons.inj split
  obtain ⟨rfl, state, taken⟩ := answers_locked firstAnswers
  simp only [found] at after
  split at after
  · obtain ⟨_, rfl⟩ := runs_done_iff.mp after
    cases ok
  · next indexes requested =>
      obtain ⟨aged, stale, rest, split, decides, after⟩ := runs_bind_iff.mp after
      rw [needsRefresh] at decides
      by_cases has : device.sample.hasSample = true
      · rw [if_pos has] at decides
        obtain ⟨_, now, _, rfl, clock, last⟩ := runs_bind_iff.mp decides
        obtain rfl := runs_ask_iff.mp clock
        obtain ⟨rfl, rfl⟩ := runs_done_iff.mp last
        obtain ⟨rfl, rfl⟩ := List.cons.inj split
        obtain ⟨stateThen, takenThen⟩ := state_of_answers (by simp) secondAnswers
        by_cases stale : queryLatencyMs start.world.state.config <
            toMilliseconds (now - device.sample.sampledAt)
        · rw [if_pos (decide_eq_true stale)] at after
          have foundThen : decided.world.state.find deviceId = some device := by
            rw [stateThen, state]
            exact found
          obtain ⟨timeoutMs, job, reply, member⟩ :=
            submits_of_refreshAndServe named foundThen after servedPath
          exact absurd trivial (silent _ (List.mem_append_right _ member))
        · have stampedThen : decided.Stamped :=
            stamped_of_answers inStep keepsStamps_systemNow
              (stamped_of_answers inStep (keepsStamps_of_routine _ .looked) stamped firstAnswers)
              secondAnswers
          have age := stampedThen deviceId device (by rw [stateThen, state]; exact found) has
          obtain ⟨_, _, _, wall, _⟩ := secondAnswers
          have read : @Eq Int now decided.wall := wall
          have same : decided.world.clock - decided.taken deviceId =
              now - device.sample.sampledAt := by omega
          rw [same]
          exact not_lt.mp stale
      · rw [if_neg has] at decides
        obtain ⟨rfl, rfl⟩ := runs_done_iff.mp decides
        have rest : (second :: served : CallerTrace) = rest := split
        subst rest
        have foundThen : middle.world.state.find deviceId = some device := by
          rw [state]
          exact found
        obtain ⟨timeoutMs, job, reply, member⟩ :=
          submits_of_refreshAndServe named foundThen after (.cons secondAnswers servedPath)
        exact absurd trivial (silent _ (List.mem_cons_of_mem _ member))

/-- A device whose last read succeeded has a sample. -/
theorem sampled_of_lastReadOk {world : World} {deviceId : String} {device : ActiveDevice}
    (reachable : (provider submits).Reachable world)
    (found : world.state.find deviceId = some device) (lastOk : device.sample.lastReadOk = true) :
    device.sample.hasSample = true := by
  let property : ActiveDevice → Prop := fun device =>
    device.sample.lastReadOk = true → device.sample.hasSample = true
  refine @recorded_of_reachable _ _ _ _ _ _ property ?_ ?_ reachable _ found lastOk
  · rintro config valid spec member info ⟨⟩
  · intro id before round after effect holds
    by_cases samples : ∃ status, round = .sampled id status
    · obtain ⟨status, rfl⟩ := samples
      cases effect with
      | @sampled config _ signals now nowSteady =>
          cases ok : status.isOk with
          | true => exact fun _ => (recordSample_ok config id signals now nowSteady before ok).2.2.2.1
          | false =>
              rw [recordSample_failed config id signals now nowSteady before ok]
              rintro ⟨⟩
      | elsewhere other => exact absurd rfl other
    · have kept := effect.sampleKept fun status same => samples ⟨status, same⟩
      have has := congrArg (·.hasSample) kept.sample
      have last := congrArg (·.lastReadOk) kept.sample
      dsimp only [property] at has last holds ⊢
      rw [has, last]
      exact holds

/-- In every run in which nothing steps the wall clock, a sample is served without the bus
only while it is within the reuse window, and a device whose last read succeeded is stale
exactly when its sample is older than the bound, both by the monotonic clock. -/
theorem decisions_in_step (inStep : ticks.InStep) {timeline : Timeline}
    (reachable : (requests submits ticks).Reachable timeline) {deviceId : String}
    {device : ActiveDevice} (found : timeline.world.state.find deviceId = some device) :
    (∀ signalIds result decided,
      CachedRead submits ticks timeline deviceId signalIds result decided → result.ok = true →
        toMilliseconds (decided.world.clock - decided.taken deviceId) ≤
          queryLatencyMs timeline.world.state.config) ∧
      (device.sample.lastReadOk = true → ∀ health final,
        Completes (Timeline.environment submits ticks) (deviceHealth deviceId) timeline health
            final →
          (health.state = some .stale ↔
            staleAfterMs timeline.world.state.config <
              toMilliseconds (final.world.clock - final.taken deviceId))) := by
  obtain ⟨clock, _, erased⟩ := reachable_at inStep.forward reachable
  have named : deviceId ≠ "" := named_of_reachable erased found
  have stamped := stamped_of_reachable inStep reachable
  constructor
  · intro signalIds result decided cached ok
    exact fresh_of_cachedRead inStep named stamped found cached ok
  · intro lastOk health final completes
    exact stale_iff_of_deviceHealth inStep stamped found (sampled_of_lastReadOk erased found lastOk)
      lastOk completes

end Decisions

section Canned

open CannedBus CannedProvider

namespace CannedTimeline

/-- The canned answers, which take no time. -/
def respond (setup : Setup) (timeline : Timeline) : (op : CallerOp) → op.Result × Timeline
  | .systemNow => (timeline.wall, { timeline with read := timeline.world.clock })
  | .locked change =>
      (timeline.world.state,
        { timeline with
          world := { timeline.world with state := change timeline.world.state }
          taken := timeline.stamped change })
  | op =>
      let answer := CannedProvider.respond setup timeline.world op
      (answer.1, { timeline with world := answer.2 })

def responder (setup : Setup) : Responder CallerOp CallerOp.Result Timeline where
  respond := respond setup

/-- Clocks which can stand still. -/
def Still (ticks : Ticks) : Prop := ∀ op wall, ticks op 0 wall wall

theorem faithful {ticks : Ticks} (still : Still ticks) (setup : Setup) (timeline : Timeline)
    (op : CallerOp) :
    (Timeline.environment Line.Submitted ticks).Answers timeline op
      ((responder setup).respond timeline op).1 ((responder setup).respond timeline op).2 := by
  have now : timeline.world.after 0 = timeline.world := by simp [World.after]
  have world := CannedProvider.faithful setup timeline.world op
  cases op with
  | systemNow => exact ⟨0, still _ _, by rw [now]; rfl, rfl, rfl, rfl⟩
  | locked change => exact ⟨0, still _ _, by rw [now]; exact ⟨rfl, rfl⟩, rfl, rfl⟩
  | steadyNow =>
      refine ⟨0, still _ _, by rw [now]; exact world, ?_, rfl, rfl⟩
      exact (Int.add_zero timeline.world.clock).symm
  | submit _ _ _ | warn _ | checkHost _ | startExecutor _ | stopExecutor =>
      exact ⟨0, still _ _, by rw [now]; exact world, rfl, rfl⟩

/-- The provider as `initialize` leaves it, on probes which hold their defaults. -/
def startedTimeline (setup : Setup) (config : ProviderConfig) (probe : Probe) : Timeline :=
  ((initializeRuntime config).play (responder setup) { world := { line := { bus := fun _ => probe } } }).final

/-- The clocks, so much later and the wall clock wherever it is set. -/
def later (timeline : Timeline) (elapsed wall : Int) : Timeline :=
  { timeline with world := timeline.world.after elapsed, wall }

theorem reachable_startedTimeline {ticks : Ticks} (still : Still ticks) (setup : Setup)
    {config : ProviderConfig} (valid : config.Valid) (probe : Probe) :
    (requests Line.Submitted ticks).Reachable (startedTimeline setup config probe) :=
  .initial ⟨config, _, _, valid, play_completes (faithful still setup) _ _⟩

theorem reachable_later {ticks : Ticks} {timeline : Timeline} {elapsed wall : Int}
    (reachable : (requests Line.Submitted ticks).Reachable timeline)
    (alone : timeline.world.line.orphan = none) (ticked : ticks none elapsed timeline.wall wall) :
    (requests Line.Submitted ticks).Reachable (later timeline elapsed wall) := by
  have idle : timeline.world.line.Passed { timeline.world.line with bus := timeline.world.line.bus } :=
    .idle alone .refl
  have step : (requests Line.Submitted ticks).Step timeline none (later timeline elapsed wall) :=
    ⟨elapsed, _, ticked, idle, rfl⟩
  exact reachable.steps (.single step)

/-- A read played without a submission. -/
theorem cachedRead_play {ticks : Ticks} (still : Still ticks) {setup : Setup} {timeline : Timeline}
    {deviceId : String} {signalIds : List String}
    (looks : 2 ≤ ((read deviceId signalIds).play (responder setup) timeline).trace.length)
    (silent : ∀ exchange ∈ ((read deviceId signalIds).play (responder setup) timeline).trace,
      ¬ exchange.1.Submits) :
    CachedRead Line.Submitted ticks timeline deviceId signalIds
      ((read deviceId signalIds).play (responder setup) timeline).value
      ((read deviceId signalIds).playedFor (responder setup) 2 timeline) := by
  obtain ⟨before, after⟩ :=
    play_path_split (faithful still setup) 2 (read deviceId signalIds) timeline
  refine ⟨_, _, _, ?_, by simpa using looks, before, after, ?_⟩
  · rw [List.take_append_drop]
    exact play_runs _ _ _
  · rwa [List.take_append_drop]

end CannedTimeline

open CannedTimeline

theorem still_free : Still Ticks.free := fun _ _ => le_refl 0

theorem still_unstepped : Still Ticks.unstepped := fun _ wall => ⟨le_refl 0, by simp⟩

/-- A tenth of a second after its sample was taken. -/
theorem decisions_in_step_canned :
    let timeline := later (startedTimeline (products .dox fun _ => false) (oneDevice .dox)
      { holding := defaults, powerUp := defaults }) 100000000 100000000
    ∃ (decided : Timeline) (health : DeviceHealthExtra) (final : Timeline),
      toMilliseconds (decided.world.clock - decided.taken "probe") ≤ 300 ∧
      Completes (Timeline.environment Line.Submitted Ticks.unstepped) (deviceHealth "probe")
        timeline health final ∧
      (health.state = some .stale ↔
        7500 < toMilliseconds (final.world.clock - final.taken "probe")) := by
  intro timeline
  have reachable : (requests Line.Submitted Ticks.unstepped).Reachable timeline := by
    refine reachable_later (reachable_startedTimeline still_unstepped _ (valid_oneDevice .dox) _)
      (by decide +kernel) ⟨by decide, ?_⟩
    decide +kernel
  obtain ⟨device, found⟩ := Option.isSome_iff_exists.mp
    (show (timeline.world.state.find "probe").isSome = true by decide +kernel)
  have lastOk : (timeline.world.state.find "probe").map (·.sample.lastReadOk) = some true := by
    decide +kernel
  rw [found] at lastOk
  have config : queryLatencyMs timeline.world.state.config = 300 ∧
      staleAfterMs timeline.world.state.config = 7500 := by decide +kernel
  have cached : CachedRead Line.Submitted Ticks.unstepped timeline "probe" [] _ _ :=
    @cachedRead_play _ still_unstepped (products .dox fun _ => false) timeline "probe" []
      (by decide +kernel) (by decide +kernel)
  have health := play_completes (faithful still_unstepped (products .dox fun _ => false))
    (deviceHealth "probe") timeline
  have ok : ((read "probe" []).play (CannedTimeline.responder (products .dox fun _ => false))
      timeline).value.ok = true := by decide +kernel
  obtain ⟨served, reported⟩ := decisions_in_step inStep_unstepped reachable found
  have fresh := served _ _ _ cached ok
  have stale := reported (Option.some.inj lastOk) _ _ health
  rw [config.1] at fresh
  rw [config.2] at stale
  exact ⟨_, _, _, fresh, health, stale⟩

/-- An hour after its sample was taken a probe is served from the cache and reported ok: the
wall clock has been set back by more than that. -/
theorem clock_set_back_keeps_fresh :
    let start := startedTimeline (products .dox fun _ => false) (oneDevice .dox)
      { holding := defaults, powerUp := defaults }
    let timeline := later start (3600 * 1000000000) (-3600 * 1000000000)
    (requests Line.Submitted Ticks.free).Reachable timeline ∧
      ∃ device result decided health final,
        timeline.world.state.find "probe" = some device ∧ device.sample.lastReadOk = true ∧
        CachedRead Line.Submitted Ticks.free timeline "probe" [] result decided ∧
        result.ok = true ∧
        queryLatencyMs timeline.world.state.config <
          toMilliseconds (decided.world.clock - decided.taken "probe") ∧
        Completes (Timeline.environment Line.Submitted Ticks.free) (deviceHealth "probe") timeline
          health final ∧
        staleAfterMs timeline.world.state.config <
          toMilliseconds (final.world.clock - final.taken "probe") ∧
        health.state = some .ok := by
  intro start timeline
  have reachable : (requests Line.Submitted Ticks.free).Reachable timeline :=
    reachable_later (reachable_startedTimeline still_free _ (valid_oneDevice .dox) _)
      (by decide +kernel) (by show (0 : Int) ≤ _; decide)
  obtain ⟨device, found⟩ := Option.isSome_iff_exists.mp
    (show (timeline.world.state.find "probe").isSome = true by decide +kernel)
  have lastOk : (timeline.world.state.find "probe").map (·.sample.lastReadOk) = some true := by
    decide +kernel
  rw [found] at lastOk
  refine ⟨reachable, device, _, _, _, _, found, Option.some.inj lastOk,
    @cachedRead_play _ still_free (products .dox fun _ => false) _ _ _ ?_ ?_, ?_, ?_,
    play_completes (faithful still_free (products .dox fun _ => false)) _ _, ?_, ?_⟩
  all_goals decide +kernel

end Canned

end EzoProvider.Runtime
