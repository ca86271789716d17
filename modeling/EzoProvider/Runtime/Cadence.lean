import EzoProvider.Runtime.ClockDecisions

/-!
# Polls at the declared cadence

A consumer polls a device every `sample_interval_ms`. A sample is stamped when its
job is done and reused for `query_latency_ms` from then on, while the polls are
spaced by their starts: a slow job leaves less than an interval until the next
poll, which is served the cache unless that is still more than the reuse window.
-/

namespace EzoProvider.Runtime

open Interaction Program Devices TransitionSystem

/-- The clocks of polls: a job takes up to `query_latency_ms`, what else a caller does takes
no time, and nothing steps the wall clock. -/
def Ticks.polling (config : ProviderConfig) : Ticks := fun op elapsed wall wall' =>
  0 ≤ elapsed ∧ wall' = wall + elapsed ∧
    match op with
    | none => True
    | some (.submit ..) => elapsed ≤ queryLatencyMs config * 1000000
    | some _ => elapsed = 0

theorem inStep_polling (config : ProviderConfig) : (Ticks.polling config).InStep :=
  fun _ _ _ _ ticked => ⟨ticked.1, ticked.2.1⟩

/-- The submissions whose jobs succeed. -/
def Submits.succeeding (submits : Submits) : Submits := fun line name timeoutMs job reply line' =>
  submits line name timeoutMs job reply line' ∧ reply.status.isOk = true

/-- A poll: the signals it asks for, and what it performs. -/
structure Poll where
  signalIds : List String
  result : AdapterReadResult
  trace : CallerTrace

/-- A poll of a device which reads it over the bus. -/
def Poll.Refreshes (deviceId : String) (poll : Poll) : Prop :=
  ∃ timeoutMs job reply, ⟨.submit ("sample:" ++ deviceId) timeoutMs job, reply⟩ ∈ poll.trace

/-- A consumer, and when its next poll starts. -/
structure Consumer where
  timeline : Timeline
  nextAt : Int

/-- What the cache has of a device: the number of its sample, and when it was taken. -/
structure Timeline.Holds (timeline : Timeline) (config : ProviderConfig) (deviceId : String)
    (sequence : Nat) (taken : Int) : Prop where
  config : timeline.world.state.config = config
  sampled : ∃ device, timeline.world.state.find deviceId = some device ∧
    device.sample.hasSample = true ∧ device.sample.sequence = sequence
  taken : timeline.taken deviceId = taken

section Consumers

variable [EzoDriver] [ProviderSdk] [DecimalText]

/-- A consumer's polls of a device, for signals it declares. They start `sample_interval_ms`
apart; in between time passes, and with it a job which has outlived its caller. -/
def polling (submits : Submits) (config : ProviderConfig) (deviceId : String) :
    TransitionSystem Consumer Poll where
  Initial _ := True
  Step consumer poll consumer' :=
    ∃ start,
      (requests submits.succeeding (Ticks.polling config)).Step consumer.timeline none start ∧
      start.world.clock = consumer.nextAt ∧
      (∀ device, start.world.state.find deviceId = some device →
        ∀ signalId ∈ poll.signalIds, signalId ∈ device.capabilities.signals) ∧
      (read deviceId poll.signalIds).Runs poll.trace poll.result ∧
      (Timeline.environment submits.succeeding (Ticks.polling config)).Path start poll.trace
        consumer'.timeline ∧
      consumer'.nextAt = consumer.nextAt + sampleIntervalMs config * 1000000

end Consumers

/-! ## What a poll asks for -/

theorem requestedIndexes_declared {device : ActiveDevice} {signalIds : List String}
    (declared : ∀ signalId ∈ signalIds, signalId ∈ device.capabilities.signals) :
    ∃ indexes, requestedIndexes device signalIds = .ok indexes := by
  induction signalIds with
  | nil => exact ⟨[], rfl⟩
  | cons signalId rest ih =>
      obtain ⟨indexes, same⟩ := ih fun other member => declared other (List.mem_cons_of_mem _ member)
      have listed : (findSignalIndex device signalId).isSome = true := by
        simpa [findSignalIndex] using declared signalId List.mem_cons_self
      obtain ⟨index, found⟩ := Option.isSome_iff_exists.mp listed
      exact ⟨index :: indexes, by simp [requestedIndexes, found, same, Except.map]⟩

section Clocks

variable [DecimalText] {submits : Submits} {config : ProviderConfig} {start final : Timeline}

/-- What is no job takes no time. -/
theorem clock_of_polling {op : CallerOp} {answer : op.Result} (other : ¬ op.Submits)
    (answers : (Timeline.environment submits (Ticks.polling config)).Answers start op answer
      final) : final.world.clock = start.world.clock := by
  obtain ⟨elapsed, ⟨_, _, ticked⟩, clock⟩ := clock_of_answers answers
  have still : elapsed = 0 := by
    cases op with
    | submit _ _ _ => exact absurd trivial other
    | _ => exact ticked
  rw [clock, still, add_zero]

theorem submitted_of_polling {name : String} {timeoutMs : Int} {job : Job} {reply : SubmitReply}
    (answers : (Timeline.environment submits.succeeding (Ticks.polling config)).Answers start
      (.submit name timeoutMs job) reply final) :
    reply.status.isOk = true ∧ start.world.clock ≤ final.world.clock ∧
      final.world.clock ≤ start.world.clock + queryLatencyMs config * 1000000 := by
  obtain ⟨elapsed, ⟨forward, _, bounded⟩, clock⟩ := clock_of_answers answers
  obtain ⟨_, _, ⟨_, ⟨_, ok⟩, _⟩, _⟩ := answers
  have limit : elapsed ≤ queryLatencyMs config * 1000000 := bounded
  refine ⟨ok, ?_, ?_⟩ <;> omega

end Clocks

/-! ## What the cache keeps -/

/-- An operation which records no sample leaves the sample a device has. -/
theorem sample_of_routine [EzoDriver] {deviceId : String}
    {change : RuntimeState → RuntimeState} {state : RuntimeState}
    {device : ActiveDevice} (routine : (CallerOp.locked change).Routine)
    (found : state.find deviceId = some device) :
    (change state).config = state.config ∧ ∃ device',
      (change state).find deviceId = some device' ∧
        device'.sample.hasSample = device.sample.hasSample ∧
        device'.sample.sequence = device.sample.sequence := by
  have updates : ∀ {other : String} {record : ActiveDevice → ActiveDevice},
      (∀ device, (record device).spec = device.spec) →
      (∀ device, (record device).sample.hasSample = device.sample.hasSample ∧
        (record device).sample.sequence = device.sample.sequence) →
      (state.update other record).config = state.config ∧ ∃ device',
        (state.update other record).find deviceId = some device' ∧
          device'.sample.hasSample = device.sample.hasSample ∧
          device'.sample.sequence = device.sample.sequence := by
    intro other record spec kept
    refine ⟨rfl, ?_⟩
    rw [RuntimeState.find_update spec]
    split
    · next here =>
        subst here
        exact ⟨record device, by rw [found]; rfl, kept device⟩
    · exact ⟨device, found, rfl, rfl⟩
  cases routine with
  | looked => exact ⟨rfl, device, found, rfl, rfl⟩
  | @levelRead _ status level =>
      apply updates (by simp)
      intro device
      obtain ⟨_, _, same⟩ := recordCalibrationLevel_frame device status level
      simp [same]
  | @checked _ status reading reapplied =>
      apply updates (by simp)
      intro device
      obtain ⟨_, _, same⟩ := recordCompensation_frame device status reading reapplied
      simp [same]
  | remembered => exact updates (by simp) fun _ => ⟨rfl, rfl⟩
  | @recorded _ functionName message ok now =>
      apply updates (by simp)
      intro device
      obtain ⟨_, _, _, same⟩ := recordCall_frame device functionName ok message now
      simp [same]

section Polls

variable [EzoDriver] [DecimalText] {submits : Submits} {config : ProviderConfig}
  {deviceId : String} {sequence : Nat} {taken : Int} {start final : Timeline}

theorem holds_of_answers {ticks : Ticks} {op : CallerOp} {answer : op.Result}
    (routine : op.Routine) (holds : start.Holds config deviceId sequence taken)
    (answers : (Timeline.environment submits ticks).Answers start op answer final) :
    final.Holds config deviceId sequence taken := by
  obtain ⟨same, ⟨device, found, has, number⟩, at'⟩ := holds
  by_cases locks : ∃ change, op = .locked change
  · obtain ⟨change, rfl⟩ := locks
    obtain ⟨_, state, stamps⟩ := answers_locked answers
    obtain ⟨config', device', found', has', number'⟩ := sample_of_routine routine found
    have kept : final.taken deviceId = start.taken deviceId := by
      rw [stamps, Timeline.stamped, if_pos]
      simp [sequenceOf, found, found', number']
    constructor
    · rw [state, config', same]
    · exact ⟨device', by rw [state, found'], by rw [has', has], by rw [number', number]⟩
    · rw [kept, at']
  · obtain ⟨state, stamps⟩ := state_of_answers (fun change same => locks ⟨change, same⟩) answers
    constructor
    · rw [state, same]
    · exact ⟨device, by rw [state, found], has, number⟩
    · rw [stamps, at']

theorem maintains_holds {ticks : Ticks} {α : Type} {program : Caller α}
    (only : program.Only CallerOp.Routine) :
    Maintains (Timeline.environment submits ticks)
      (fun timeline => timeline.Holds config deviceId sequence taken) program :=
  maintains_of_only only holds_of_answers

/-! ## One poll -/

theorem status_of_afterSample {ticks : Ticks} {status result : Status} {warning : Option String}
    {due : Bool}
    (completes : Completes (Timeline.environment submits ticks)
      (afterSample deviceId status warning due) start result final) : result = status := by
  obtain ⟨_, _, _, rest⟩ := completes_bind_iff.mp completes
  split at rest
  · obtain ⟨_, _, _, rest⟩ := completes_bind_iff.mp rest
    obtain ⟨_, _, _, rest⟩ := completes_bind_iff.mp rest
    exact (completes_done_iff.mp rest).1
  · exact (completes_done_iff.mp rest).1

/-- A refresh whose job succeeds leaves a new sample, taken when the job was done. -/
theorem holds_of_refresh {device : ActiveDevice} {status : Status} (named : deviceId ≠ "")
    (same : start.world.state.config = config)
    (found : start.world.state.find deviceId = some device)
    (completes : Completes (Timeline.environment submits.succeeding (Ticks.polling config))
      (refreshDeviceSample deviceId) start status final) :
    status.isOk = true ∧ ∃ taken, start.world.clock ≤ taken ∧
      taken ≤ start.world.clock + queryLatencyMs config * 1000000 ∧
      final.Holds config deviceId (device.sample.sequence + 1) taken := by
  rw [refreshDeviceSample, if_neg named] at completes
  obtain ⟨_, looked, look, rest⟩ := completes_bind_iff.mp completes
  have lookAnswers := completes_ask_iff.mp look
  obtain ⟨rfl, lookedState, _⟩ := answers_locked lookAnswers
  have lookedClock := clock_of_polling id lookAnswers
  simp only [found] at rest
  obtain ⟨reply, served, submit, rest⟩ := completes_bind_iff.mp rest
  have submitAnswers := completes_ask_iff.mp submit
  obtain ⟨ok, before, after⟩ := submitted_of_polling submitAnswers
  obtain ⟨servedState, _⟩ := state_of_answers (by simp) submitAnswers
  obtain ⟨now, dated, wall, rest⟩ := completes_bind_iff.mp rest
  have wallAnswers := completes_ask_iff.mp wall
  obtain ⟨datedState, _⟩ := state_of_answers (by simp) wallAnswers
  have datedClock := clock_of_polling id wallAnswers
  obtain ⟨_, _, _, _, datedRead, _⟩ := wallAnswers
  obtain ⟨nowSteady, timed, steady, rest⟩ := completes_bind_iff.mp rest
  have steadyAnswers := completes_ask_iff.mp steady
  obtain ⟨timedState, _⟩ := state_of_answers (by simp) steadyAnswers
  obtain ⟨_, _, _, _, timedRead, _⟩ := steadyAnswers
  obtain ⟨_, recorded, record, rest⟩ := completes_bind_iff.mp rest
  obtain ⟨rfl, recordedState, stamps⟩ := answers_locked (completes_ask_iff.mp record)
  have states : timed.world.state = start.world.state := by
    rw [timedState, datedState, servedState, lookedState]
    rfl
  have foundThen : timed.world.state.find deviceId = some device := by rw [states, found]
  set sampled := recordSample start.world.state.config deviceId reply.status reply.outputs.signals
    now nowSteady with sampling
  obtain ⟨_, next, _, has, _⟩ := recordSample_ok start.world.state.config deviceId
    reply.outputs.signals now nowSteady device ok
  have spec : ∀ device, (sampled device).spec = device.spec := by simp [sampling]
  have recordedHolds :
      recorded.Holds config deviceId (device.sample.sequence + 1) served.world.clock := by
    constructor
    · rw [recordedState, ← same, ← states]
      rfl
    · refine ⟨sampled device, ?_, has, next⟩
      rw [recordedState, RuntimeState.find_update_self spec, foundThen]
      rfl
    · rw [stamps, Timeline.stamped, if_neg]
      · rw [timedRead, datedRead, datedClock]
      · rw [sequenceOf, sequenceOf, RuntimeState.find_update_self spec, foundThen]
        simpa using by rw [next]; omega
  rw [foundThen] at rest
  have returned : status = reply.status := status_of_afterSample rest
  refine ⟨by rw [returned, ok], served.world.clock, by omega, by omega, ?_⟩
  exact maintains_holds (routine_afterSample _ _ _ _) recordedHolds rest

/-- A poll which finds no sample within the reuse window takes a new one. -/
theorem refreshes_of_read [ProviderSdk] {device : ActiveDevice} {poll : Poll}
    (named : deviceId ≠ "") (stamped : start.Stamped) (same : start.world.state.config = config)
    (found : start.world.state.find deviceId = some device)
    (declared : ∀ signalId ∈ poll.signalIds, signalId ∈ device.capabilities.signals)
    (defaults : ∀ signalId ∈ device.defaultSignalIds, signalId ∈ device.capabilities.signals)
    (old : device.sample.hasSample = true →
      queryLatencyMs config < toMilliseconds (start.world.clock - start.taken deviceId))
    (run : (read deviceId poll.signalIds).Runs poll.trace poll.result)
    (path : (Timeline.environment submits.succeeding (Ticks.polling config)).Path start poll.trace
      final) :
    poll.Refreshes deviceId ∧ ∃ taken, start.world.clock ≤ taken ∧
      taken ≤ start.world.clock + queryLatencyMs config * 1000000 ∧
      final.Holds config deviceId (device.sample.sequence + 1) taken := by
  obtain ⟨_, _, rest, split, look, run⟩ := runs_bind_iff.mp run
  obtain rfl := runs_ask_iff.mp look
  rw [split] at path
  obtain ⟨looked, lookAnswers, onward⟩ := Environment.path_cons_iff.mp path
  obtain ⟨rfl, lookedState, lookedTaken⟩ := answers_locked lookAnswers
  have lookedClock := clock_of_polling id lookAnswers
  simp only [found] at run
  obtain ⟨indexes, asks⟩ : ∃ indexes, requestedIndexes device
      (if poll.signalIds = [] then device.defaultSignalIds else poll.signalIds) = .ok indexes := by
    apply requestedIndexes_declared
    split
    · exact defaults
    · exact declared
  rw [asks] at run
  dsimp only at run
  obtain ⟨aged, stale, refreshed, rfl, decides, served⟩ := runs_bind_iff.mp run
  have walk : (Timeline.environment submits.succeeding (Ticks.polling config)).Path looked
      (aged ++ refreshed) final := onward
  obtain ⟨decided, agedPath, onward⟩ := Environment.path_append_iff.mp walk
  -- The age is measured before any time has passed.
  obtain ⟨isStale, decidedState, decidedClock⟩ : stale = true ∧
      decided.world.state = looked.world.state ∧ decided.world.clock = looked.world.clock := by
    rw [needsRefresh] at decides
    split at decides
    · next has =>
        obtain ⟨_, now, _, rfl, clock, last⟩ := runs_bind_iff.mp decides
        obtain rfl := runs_ask_iff.mp clock
        obtain ⟨rfl, rfl⟩ := runs_done_iff.mp last
        obtain ⟨_, clockAnswers, ended⟩ := Environment.path_cons_iff.mp agedPath
        obtain rfl := Environment.path_nil_iff.mp ended
        have decidedClock := clock_of_polling id clockAnswers
        obtain ⟨decidedState, _⟩ := state_of_answers (by simp) clockAnswers
        have apart := apart_of_answers (inStep_polling config) lookAnswers
        have apartThen := apart_of_answers (inStep_polling config) clockAnswers
        obtain ⟨_, _, _, wall, _⟩ := clockAnswers
        have read : @Eq Int now decided.wall := wall
        have age := stamped deviceId device found has
        have aged : start.world.clock - start.taken deviceId =
            now - device.sample.sampledAt := by omega
        refine ⟨?_, decidedState, decidedClock⟩
        rw [← aged, same]
        exact decide_eq_true (old has)
    · obtain ⟨rfl, rfl⟩ := runs_done_iff.mp decides
      obtain rfl := Environment.path_nil_iff.mp agedPath
      exact ⟨rfl, rfl, rfl⟩
  rw [if_pos isStale] at served
  have foundThen : decided.world.state.find deviceId = some device := by
    rw [decidedState, lookedState]
    exact found
  have sameThen : decided.world.state.config = config := by
    rw [decidedState, lookedState]
    exact same
  constructor
  · obtain ⟨timeoutMs, job, reply, member⟩ := submits_of_refreshAndServe named foundThen served onward
    refine ⟨timeoutMs, job, reply, ?_⟩
    rw [split]
    exact List.mem_cons_of_mem _ (List.mem_append_right aged member)
  · obtain ⟨status, refreshed, refresh, rest⟩ := completes_bind_iff.mp ⟨_, served, onward⟩
    obtain ⟨ok, taken, before, after, holds⟩ := holds_of_refresh named sameThen foundThen refresh
    refine ⟨taken, by omega, by omega, ?_⟩
    obtain ⟨state, served, snap, rest⟩ := completes_bind_iff.mp rest
    have servedHolds := maintains_holds (routine_issue .looked) holds snap
    rw [if_pos ok] at rest
    split at rest
    · rw [(completes_done_iff.mp rest).2]
      exact servedHolds
    · exact maintains_holds (routine_serveSample _ _ _) servedHolds rest

/-! ## Runs of polls -/

omit [EzoDriver] in
theorem answers_of_polling {op : CallerOp} {answer : op.Result}
    (answers : (Timeline.environment submits.succeeding (Ticks.polling config)).Answers start op
      answer final) : (Timeline.environment submits Ticks.unstepped).Answers start op answer
        final := by
  obtain ⟨elapsed, ticked, world, rest⟩ := answers
  exact ⟨elapsed, ⟨ticked.1, ticked.2.1⟩, World.answers_mono And.left world, rest⟩

variable [ProviderSdk]

/-- A consumer in a run of the provider, whose next poll finds no sample within the reuse
window. -/
structure Consumer.Due (consumer : Consumer) (submits : Submits) (config : ProviderConfig)
    (deviceId : String) (sequence : Nat) : Prop where
  reachable : (requests submits Ticks.unstepped).Reachable consumer.timeline
  configured : consumer.timeline.world.state.config = config
  old : ∃ device, consumer.timeline.world.state.find deviceId = some device ∧
    device.sample.sequence = sequence ∧ (device.sample.hasSample = true →
      queryLatencyMs config <
        toMilliseconds (consumer.nextAt - consumer.timeline.taken deviceId))

/-- A poll which starts when its consumer is due takes a new sample, and leaves the consumer
due if the jobs take less than half of the interval. -/
theorem due_of_poll {consumer consumer' : Consumer} {poll : Poll}
    (quick : 2 * queryLatencyMs config < sampleIntervalMs config)
    (due : consumer.Due submits config deviceId sequence)
    (step : (polling submits config deviceId).Step consumer poll consumer') :
    poll.Refreshes deviceId ∧ consumer'.Due submits config deviceId (sequence + 1) := by
  obtain ⟨reachable, same, device, found, number, old⟩ := due
  obtain ⟨start, wait, now, declared, run, path, nextAt⟩ := step
  have waited : (requests submits Ticks.unstepped).Step consumer.timeline none start := by
    obtain ⟨elapsed, line, ticked, passed, after⟩ := wait
    exact ⟨elapsed, line, ⟨ticked.1, ticked.2.1⟩, passed, after⟩
  have started := reachable.steps (.single waited)
  have stamped := stamped_of_reachable inStep_unstepped started
  obtain ⟨clock, _, erased⟩ := reachable_at inStep_unstepped.forward started
  obtain ⟨_, _, _, _, after⟩ := wait
  have state : start.world.state = consumer.timeline.world.state := by
    rw [after]
    rfl
  have taken : start.taken = consumer.timeline.taken := by rw [after]
  rw [← state] at found same
  have named : deviceId ≠ "" := named_of_reachable erased found
  obtain ⟨built, defaultIds⟩ := declared_of_reachable erased found
  have defaults : ∀ signalId ∈ device.defaultSignalIds,
      signalId ∈ device.capabilities.signals := by
    intro signalId member
    rw [defaultIds, defaultSignalIdsForType] at member
    rw [built, buildCapabilities]
    obtain ⟨definition, listed, rfl⟩ := List.mem_map.mp member
    exact List.mem_map_of_mem (List.mem_filter.mp listed).1
  rw [← now, ← taken] at old
  obtain ⟨refreshes, sampledAt, before, soon, holds⟩ :=
    refreshes_of_read named stamped same found (declared device found) defaults old run path
  refine ⟨refreshes, ?_, holds.config, ?_⟩
  · have request : (requests submits Ticks.unstepped).Step start
        (some (.read deviceId poll.signalIds)) consumer'.timeline :=
      completes_bind_iff.mpr
        ⟨_, _, ⟨_, run, path.mono answers_of_polling⟩, completes_done_iff.mpr ⟨rfl, rfl⟩⟩
    exact started.steps (.single request)
  · obtain ⟨device', found', _, number'⟩ := holds.sampled
    refine ⟨device', found', by rw [number', number], fun _ => ?_⟩
    -- The sample is at most `query_latency_ms` younger than the interval.
    have positive : (50 : Int) ≤ queryLatencyMs config := le_max_right _ _
    rw [holds.taken, nextAt, ← now, toMilliseconds, Int.tdiv_eq_ediv_of_nonneg (by omega)]
    omega

/-- Every poll at the declared cadence takes a new sample, if twice the reuse window is
shorter than the interval and the first poll finds no sample within the window. -/
theorem every_poll_refreshes {consumer consumer' : Consumer} {polls : List Poll}
    {device : ActiveDevice}
    (reachable : (requests submits Ticks.unstepped).Reachable consumer.timeline)
    (found : consumer.timeline.world.state.find deviceId = some device)
    (quick : 2 * queryLatencyMs consumer.timeline.world.state.config <
      sampleIntervalMs consumer.timeline.world.state.config)
    (old : device.sample.hasSample = true →
      queryLatencyMs consumer.timeline.world.state.config <
        toMilliseconds (consumer.nextAt - consumer.timeline.taken deviceId))
    (run : (polling submits consumer.timeline.world.state.config deviceId).Steps consumer polls
      consumer') :
    (∀ poll ∈ polls, poll.Refreshes deviceId) ∧ ∃ device',
      consumer'.timeline.world.state.find deviceId = some device' ∧
        device'.sample.sequence = device.sample.sequence + polls.length := by
  have start : consumer.Due submits consumer.timeline.world.state.config deviceId
      device.sample.sequence := ⟨reachable, rfl, device, found, rfl, old⟩
  suffices polled : (∀ poll ∈ polls, poll.Refreshes deviceId) ∧
      consumer'.Due submits consumer.timeline.world.state.config deviceId
        (device.sample.sequence + polls.length) by
    obtain ⟨device', found', number, _⟩ := polled.2.old
    exact ⟨polled.1, device', found', number⟩
  generalize consumer.timeline.world.state.config = config at *
  induction run with
  | refl => exact ⟨by simp, start⟩
  | @step labels middle poll next prior transition ih =>
      obtain ⟨all, due⟩ := ih
      obtain ⟨refreshes, dueThen⟩ := due_of_poll quick due transition
      constructor
      · intro label member
        rcases List.mem_append.mp member with earlier | last
        · exact all label earlier
        · rwa [List.mem_singleton.mp last]
      · simpa [Nat.add_assoc] using dueThen

end Polls

section Canned

open CannedBus CannedProvider

namespace CannedTimeline

/-- The canned answers, each submission taking as long. -/
def pacedRespond (setup : Setup) (elapsed : Int) (timeline : Timeline) :
    (op : CallerOp) → op.Result × Timeline
  | .submit name timeoutMs job =>
      respond setup (later timeline elapsed (timeline.wall + elapsed)) (.submit name timeoutMs job)
  | op => respond setup timeline op

def paced (setup : Setup) (elapsed : Int) : Responder CallerOp CallerOp.Result Timeline where
  respond := pacedRespond setup elapsed

/-- Whether the job of a submission succeeds. -/
def succeeds (setup : Setup) (elapsed : Int) (timeline : Timeline) : CallerOp → Bool
  | .submit name timeoutMs job =>
      (pacedRespond setup elapsed timeline (.submit name timeoutMs job)).1.status.isOk
  | _ => true

theorem faithful_paced {config : ProviderConfig} (setup : Setup) {elapsed : Int}
    (forward : 0 ≤ elapsed) (bounded : elapsed ≤ queryLatencyMs config * 1000000)
    (timeline : Timeline) (op : CallerOp) (good : succeeds setup elapsed timeline op = true) :
    (Timeline.environment (Submits.succeeding Line.Submitted) (Ticks.polling config)).Answers
      timeline op ((paced setup elapsed).respond timeline op).1
        ((paced setup elapsed).respond timeline op).2 := by
  have still : Still (Ticks.polling config) := by
    intro op wall
    refine ⟨le_refl 0, by omega, ?_⟩
    cases op with
    | none => trivial
    | some op =>
        cases op with
        | submit _ _ _ => exact forward.trans bounded
        | _ => rfl
  have answers := CannedTimeline.faithful still setup timeline op
  cases op with
  | submit name timeoutMs job =>
      obtain ⟨line, submitted, same⟩ := CannedProvider.faithful setup
        (timeline.world.after elapsed) (.submit name timeoutMs job)
      exact ⟨elapsed, ⟨forward, rfl, bounded⟩, ⟨line, ⟨submitted, good⟩, same⟩, rfl, rfl⟩
  | _ => exact answers

/-- A poll of the canned device whose jobs take `elapsed`, and its consumer after it. -/
def polled (setup : Setup) (config : ProviderConfig) (elapsed : Int) (consumer : Consumer) :
    Poll × Consumer :=
  let wait := consumer.nextAt - consumer.timeline.world.clock
  let start := later consumer.timeline wait (consumer.timeline.wall + wait)
  let play := (read "probe" []).play (paced setup elapsed) start
  ({ signalIds := [], result := play.value, trace := play.trace },
    { timeline := play.final, nextAt := consumer.nextAt + sampleIntervalMs config * 1000000 })

/-- Whether a poll of the canned device starts in time and its jobs succeed. -/
def polls (setup : Setup) (elapsed : Int) (consumer : Consumer) : Bool :=
  let wait := consumer.nextAt - consumer.timeline.world.clock
  let start := later consumer.timeline wait (consumer.timeline.wall + wait)
  decide (0 ≤ wait) && consumer.timeline.world.line.orphan.isNone &&
    (read "probe" []).PlaysWithin (paced setup elapsed) (succeeds setup elapsed) start

theorem polled_step {setup : Setup} {config : ProviderConfig} {elapsed : Int} {consumer : Consumer}
    (forward : 0 ≤ elapsed) (bounded : elapsed ≤ queryLatencyMs config * 1000000)
    (good : polls setup elapsed consumer = true) :
    (polling Line.Submitted config "probe").Step consumer (polled setup config elapsed consumer).1
      (polled setup config elapsed consumer).2 := by
  simp only [polls, Bool.and_eq_true, decide_eq_true_eq, Option.isNone_iff_eq_none] at good
  obtain ⟨⟨waits, alone⟩, within⟩ := good
  refine ⟨_, ⟨_, _, ⟨waits, rfl, trivial⟩, .idle alone .refl, rfl⟩, ?_, by simp [polled],
    play_runs _ _ _, play_path_of (faithful_paced setup forward bounded) within, rfl⟩
  show consumer.timeline.world.clock + _ = consumer.nextAt
  omega

end CannedTimeline

open CannedTimeline

/-- A job as long as the reuse window, on an interval which is longer than the window but not
than twice the window, and the next poll is served from the cache. -/
theorem slow_poll_skips_next :
    let config := { oneDevice .dox with sampleIntervalMs := 500 }
    let start : Consumer :=
      { timeline := startedTimeline (products .dox fun _ => false) config
          { holding := defaults, powerUp := defaults }
        nextAt := 500000000 }
    queryLatencyMs config < sampleIntervalMs config ∧
      (requests Line.Submitted Ticks.unstepped).Reachable start.timeline ∧
      queryLatencyMs config < toMilliseconds (start.nextAt - start.timeline.taken "probe") ∧
      ∃ polls final, (polling Line.Submitted config "probe").Steps start polls final ∧
        ∃ poll ∈ polls, poll.result.ok = true ∧ ¬ poll.Refreshes "probe" := by
  intro config start
  have valid : config.Valid := by
    have one := valid_oneDevice .dox
    exact ⟨one.ids, one.addresses, one.named⟩
  refine ⟨by decide, reachable_startedTimeline still_unstepped _ valid _, by decide +kernel, ?_⟩
  let after := (polled (products .dox fun _ => false) config 300000000 start).2
  have first := @polled_step (products .dox fun _ => false) config 300000000 start (by decide)
    (by decide) (by decide +kernel)
  have second := @polled_step (products .dox fun _ => false) config 300000000 after (by decide)
    (by decide) (by decide +kernel)
  refine ⟨_, _, .step (.single first) second, _, List.mem_append_right _ List.mem_cons_self,
    by decide +kernel, ?_⟩
  have silent : ∀ exchange ∈ (polled (products .dox fun _ => false) config 300000000 after).1.trace,
      ¬ exchange.1.Submits := by decide +kernel
  rintro ⟨timeoutMs, job, reply, member⟩
  exact silent _ member trivial

theorem every_poll_refreshes_canned :
    let start : Consumer :=
      { timeline := startedTimeline (products .dox fun _ => false) (oneDevice .dox)
          { holding := defaults, powerUp := defaults }
        nextAt := 2500000000 }
    ∃ polls final, (polling Line.Submitted (oneDevice .dox) "probe").Steps start polls final ∧
      polls.length = 2 ∧ (∀ poll ∈ polls, poll.Refreshes "probe") ∧
      ∃ device, final.timeline.world.state.find "probe" = some device ∧
        device.sample.sequence = 3 := by
  intro start
  let after := (polled (products .dox fun _ => false) (oneDevice .dox) 300000000 start).2
  have first := @polled_step (products .dox fun _ => false) (oneDevice .dox) 300000000 start
    (by decide) (by decide) (by decide +kernel)
  have second := @polled_step (products .dox fun _ => false) (oneDevice .dox) 300000000 after
    (by decide) (by decide) (by decide +kernel)
  have configured : start.timeline.world.state.config = oneDevice .dox := by decide +kernel
  obtain ⟨device, found⟩ := Option.isSome_iff_exists.mp
    (show (start.timeline.world.state.find "probe").isSome = true by decide +kernel)
  have number : (start.timeline.world.state.find "probe").map (·.sample.sequence) = some 1 := by
    decide +kernel
  rw [found] at number
  have reachable : (requests Line.Submitted Ticks.unstepped).Reachable start.timeline :=
    reachable_startedTimeline still_unstepped _ (valid_oneDevice .dox) _
  have run := Steps.step (.single first) second
  obtain ⟨all, device', found', number'⟩ := every_poll_refreshes reachable found
    (by rw [configured]; decide) (fun _ => by rw [configured]; decide +kernel)
    (by rw [configured]; exact run)
  refine ⟨_, _, run, rfl, all, device', found', ?_⟩
  have one : device.sample.sequence = 1 := Option.some.inj number
  rw [number', one]
  rfl

end Canned

end EzoProvider.Runtime
