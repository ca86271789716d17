import EzoProvider.Runtime.Conformance

/-!
# The record of the calls

`provider_health` adds up what `record_call_result` has counted. Each call of a
declared function is recorded once, with what it returned, whatever became of
the read-backs after it; a call of an unknown device or function leaves nothing.
-/

namespace EzoProvider.Runtime

open Interaction Program Devices TransitionSystem

/-- `ProviderHealth::State`, by the value the provider sets. -/
inductive ProviderHealthState where
  | degraded
deriving DecidableEq, Repr

/-- `ProviderHealthExtra`. Without a state the SDK's own stands. -/
structure ProviderHealthExtra where
  metrics : List (String × String) := []
  state : Option ProviderHealthState := none
  message : String := ""
deriving DecidableEq, Repr

/-- The `call_success_total` of `provider_health`. -/
def RuntimeState.callSuccessTotal (state : RuntimeState) : Nat :=
  (state.activeDevices.map ActiveDevice.callSuccessCount).sum

/-- The `call_failure_total` of `provider_health`. -/
def RuntimeState.callFailureTotal (state : RuntimeState) : Nat :=
  (state.activeDevices.map ActiveDevice.callFailureCount).sum

/-- `EzoProviderRuntime::provider_health`, of a snapshot. The metrics of the executor are
copied into the snapshot, so they come with it. -/
def providerHealth [ProviderSdk] (state : RuntimeState) (i2c : Bus.BusExecutorMetrics) :
    ProviderHealthExtra where
  metrics :=
    [("configured_devices", toString state.config.devices.length),
      ("active_devices", toString state.activeDevices.length),
      ("excluded_devices", toString state.excludedDevices.length),
      ("call_success_total", toString state.callSuccessTotal),
      ("call_failure_total", toString state.callFailureTotal),
      ("bus_path", state.config.busPath),
      ("i2c_executor_running", if state.i2cExecutorRunning then "true" else "false"),
      ("i2c_queue_depth", toString i2c.queueDepth),
      ("i2c_jobs_submitted", toString i2c.submitted),
      ("i2c_jobs_started", toString i2c.started),
      ("i2c_jobs_succeeded", toString i2c.succeeded),
      ("i2c_jobs_failed", toString i2c.failed),
      ("i2c_jobs_timed_out", toString i2c.timedOut),
      ("i2c_jobs_cancelled", toString i2c.cancelled)] ++
    (if state.i2cStatusMessage = "" then [] else [("i2c_status", state.i2cStatusMessage)]) ++
    (if i2c.lastError = "" then [] else [("i2c_last_error", i2c.lastError)]) ++
    state.excludedDevices.map fun excluded =>
      ("excluded_reason." ++ excluded.spec.id, excluded.reason)
  state := if state.i2cExecutorRunning then none else some .degraded
  message :=
    if state.i2cExecutorRunning then ""
    else if ProviderSdk.exitCode state.hostRequirements ≠ 0 then state.startupMessage
    else "i2c executor is not running"

/-! ## What is recorded of the calls -/

/-- What a device has recorded of its calls, less the time of the last one. -/
structure CallRecord where
  hasLastCall : Bool := false
  lastCallOk : Bool := false
  lastCallFunction : String := ""
  lastCallError : String := ""
  callSuccessCount : Nat := 0
  callFailureCount : Nat := 0
deriving DecidableEq, Repr

def ActiveDevice.callRecord (device : ActiveDevice) : CallRecord where
  hasLastCall := device.hasLastCall
  lastCallOk := device.lastCallOk
  lastCallFunction := device.lastCallFunction
  lastCallError := device.lastCallError
  callSuccessCount := device.callSuccessCount
  callFailureCount := device.callFailureCount

/-- The record with one more call. -/
def CallRecord.after (record : CallRecord) (functionName : String) (ok : Bool) (message : String) :
    CallRecord where
  hasLastCall := true
  lastCallOk := ok
  lastCallFunction := functionName
  lastCallError := if ok then "" else message
  callSuccessCount := record.callSuccessCount + if ok then 1 else 0
  callFailureCount := record.callFailureCount + if ok then 0 else 1

theorem callRecord_recordCall (functionName : String) (ok : Bool) (message : String) (now : Int)
    (device : ActiveDevice) :
    (recordCall functionName ok message now device).callRecord =
      device.callRecord.after functionName ok message := by
  cases ok <;> rfl

/-- The round records a call of a device. -/
def Round.RecordsCall (deviceId : String) (round : Round) : Prop :=
  ∃ functionName ok message, round = .recorded deviceId functionName ok message

section Rounds

variable [EzoDriver] {deviceId : String}

theorem Effect.callRecord {device device' : ActiveDevice} {round : Round}
    (effect : Effect deviceId device round device') (other : ¬ round.RecordsCall deviceId) :
    device'.callRecord = device.callRecord := by
  cases effect with
  | @sampled config status signals now nowSteady =>
      obtain ⟨_, same, _⟩ := recordSample_frame device config deviceId status signals now nowSteady
      rw [same]
      rfl
  | @levelRead status level =>
      obtain ⟨_, _, same⟩ := recordCalibrationLevel_frame device status level
      rw [same]
      rfl
  | @checked status reading reapplied =>
      obtain ⟨_, _, same⟩ := recordCompensation_frame device status reading reapplied
      rw [same]
      rfl
  | recorded => exact absurd ⟨_, _, _, rfl⟩ other
  | controlled | remembered | elsewhere => rfl

variable [DecimalText] {submits : Submits} {world world' : World} {device : ActiveDevice}
  {functionName : String} {functionId : Nat} {result : AdapterCallResult}

/-- What a device keeps of its calls while something else goes on. -/
def CallsKept (deviceId : String) (device : ActiveDevice) (world : World) : Prop :=
  ∃ device', world.state.find deviceId = some device' ∧ device'.spec = device.spec ∧
    device'.callRecord = device.callRecord

/-- The device has recorded one more call. -/
def CallRecorded (deviceId functionName : String) (ok : Bool) (message : String)
    (device : ActiveDevice) (world : World) : Prop :=
  ∃ device', world.state.find deviceId = some device' ∧ device'.spec = device.spec ∧
    device'.callRecord = device.callRecord.after functionName ok message

theorem Through.callsKept {allowed : Round → Prop} (through : Through submits allowed world world')
    (without : ∀ round, allowed round → ¬ round.RecordsCall deviceId)
    (found : world.state.find deviceId = some device) : CallsKept deviceId device world' := by
  refine @Through.maintains _ _ _ _ _ _ (CallsKept deviceId device) ?_ through ⟨device, found, rfl, rfl⟩
  rintro before round after permitted ⟨middle, foundMiddle, spec, kept⟩ step
  obtain ⟨last, foundLast, effect⟩ := step.effect foundMiddle
  exact ⟨last, foundLast, effect.kept.spec.trans spec,
    (effect.callRecord (without round permitted)).trans kept⟩

/-- A check of the compensation records no call. -/
theorem CheckRun.callsKept {status : Status} (run : CheckRun submits deviceId world status world')
    (found : world.state.find deviceId = some device) : CallsKept deviceId device world' := by
  have through : Through submits (fun round => ∃ status, round = .checked deviceId status)
      world world' := run.through fun status => ⟨status, rfl⟩
  refine through.callsKept ?_ found
  rintro _ ⟨_, rfl⟩ ⟨_, _, _, ⟨⟩⟩

theorem LevelRun.callsKept {status : Status} (run : LevelRun submits deviceId world status world')
    (found : world.state.find deviceId = some device) : CallsKept deviceId device world' := by
  have through : Through submits (fun round => ∃ status, round = .levelRead deviceId status)
      world world' := run.through fun status => ⟨status, rfl⟩
  refine through.callsKept ?_ found
  rintro _ ⟨_, rfl⟩ ⟨_, _, _, ⟨⟩⟩

theorem RememberRun.callsKept {values : Compensation} {ok : Bool}
    (run : RememberRun submits deviceId functionId values ok world world')
    (found : world.state.find deviceId = some device) : CallsKept deviceId device world' := by
  cases run with
  | skipped => exact ⟨device, found, rfl, rfl⟩
  | remembered _ _ step =>
      have through : Through submits (· = .remembered deviceId values) world world' :=
        .single step rfl
      refine through.callsKept ?_ found
      rintro _ rfl ⟨_, _, _, ⟨⟩⟩

theorem RecordRun.callRecorded {ok : Bool} {message : String}
    (run : RecordRun submits deviceId functionName ok message world world')
    (named : deviceId ≠ "") (found : world.state.find deviceId = some device) :
    CallRecorded deviceId functionName ok message device world' := by
  cases run with
  | unnamed empty => exact absurd empty named
  | recorded step =>
      obtain ⟨device', foundThen, effect⟩ := step.effect found
      refine ⟨device', foundThen, effect.kept.spec, ?_⟩
      cases effect with
      | recorded => exact callRecord_recordCall _ _ _ _ _
      | elsewhere other => exact absurd rfl other

/-- The end of a call records it once, with what it returns. -/
theorem ConcludeRun.callRecorded
    (run : ConcludeRun submits deviceId functionName functionId world result world')
    (named : deviceId ≠ "") (found : world.state.find deviceId = some device) :
    CallRecorded deviceId functionName result.ok result.errorMessage device world' := by
  cases run with
  | failed not recorded =>
      rw [not]
      exact recorded.callRecorded named found
  | succeeded ok _ recorded =>
      rw [ok]
      exact recorded.callRecorded named found
  | calibrated ok _ recorded levelRead =>
      rw [ok]
      obtain ⟨middle, foundMiddle, spec, counted⟩ := recorded.callRecorded named found
      obtain ⟨device', foundThen, specThen, kept⟩ := levelRead.callsKept foundMiddle
      exact ⟨device', foundThen, specThen.trans spec, kept.trans counted⟩

theorem PerformRun.callRecorded {type : EzoDeviceType} {args : ControlArgs}
    (run : PerformRun submits deviceId functionName functionId type args world result world')
    (named : deviceId ≠ "") (found : world.state.find deviceId = some device) :
    CallRecorded deviceId functionName result.ok result.errorMessage device world' := by
  cases run with
  | plain _ executed concluded => exact concluded.callRecorded named (executed.found found)
  | readBack _ executed remembering checking concluded =>
      obtain ⟨first, foundFirst, specFirst, keptFirst⟩ :=
        remembering.callsKept (executed.found found)
      obtain ⟨second, foundSecond, specSecond, keptSecond⟩ := checking.callsKept foundFirst
      obtain ⟨device', foundThen, spec, counted⟩ := concluded.callRecorded named foundSecond
      refine ⟨device', foundThen, spec.trans (specSecond.trans specFirst), ?_⟩
      rw [counted, keptSecond, keptFirst]

/-- A call of a declared function is recorded once. -/
theorem CallRun.callRecorded {args : ValueMap} {function : FunctionSpec}
    (run : CallRun submits deviceId functionId args world result world') (named : deviceId ≠ "")
    (found : world.state.find deviceId = some device)
    (declared : findFunctionById device functionId = some function) :
    CallRecorded deviceId function.name result.ok result.errorMessage device world' := by
  cases run with
  | unknownDevice missing =>
      rw [missing] at found
      cases found
  | unknownFunction foundOther undeclared =>
      cases foundOther.symm.trans found
      rw [undeclared] at declared
      cases declared
  | refused foundOther declaredOther refused recorded =>
      cases foundOther.symm.trans found
      cases declaredOther.symm.trans declared
      rw [refuses_validateCallArgs _ _ _ _ refused]
      exact recorded.callRecorded named found
  | performed foundOther declaredOther _ performed =>
      cases foundOther.symm.trans found
      cases declaredOther.symm.trans declared
      exact performed.callRecorded named found

/-- A call of an unknown device or function looks at the state, and that is all. -/
theorem runs_unknownCall {args : ValueMap} {trace : CallerTrace}
    (unknown : ∀ device, world.state.find deviceId = some device →
      findFunctionById device functionId = none)
    (run : (call deviceId functionId args).Runs trace result)
    (path : (World.environment submits).Path world trace world') :
    world' = world ∧ (∀ exchange ∈ trace, ¬ exchange.1.Submits) ∧ result.ok = false := by
  obtain ⟨_, _, _, rfl, looked, rest⟩ := runs_bind_iff.mp run
  obtain rfl := runs_ask_iff.mp looked
  obtain ⟨_, ⟨rfl, rfl⟩, later⟩ := Environment.path_cons_iff.mp path
  have silent : ∀ found : RuntimeState, ∀ exchange ∈ ([⟨.locked id, found⟩] ++ [] : CallerTrace),
      ¬ exchange.1.Submits := by
    simp [CallerOp.Submits]
  split at rest
  · obtain ⟨rfl, rfl⟩ := runs_done_iff.mp rest
    obtain rfl := Environment.path_nil_iff.mp later
    exact ⟨rfl, silent _, rfl⟩
  · next device found =>
      rw [unknown device found] at rest
      obtain ⟨rfl, rfl⟩ := runs_done_iff.mp rest
      obtain rfl := Environment.path_nil_iff.mp later
      exact ⟨rfl, silent _, rfl⟩

end Rounds

/-! ## Counting the calls of a run -/

/-- A call, with this outcome, of a function the device declares. -/
def ActiveDevice.Serves (device : ActiveDevice) (ok : Bool) : Operation → Bool
  | .call deviceId functionId _ result =>
      device.spec.id = deviceId && (findFunctionById device functionId).isSome && result.ok == ok
  | _ => false

/-- A call, with this outcome, of a function an active device declares. -/
def RuntimeState.Serves (state : RuntimeState) (ok : Bool) (operation : Operation) : Bool :=
  state.activeDevices.any fun device => device.Serves ok operation

theorem ActiveDevice.serves_congr {device device' : ActiveDevice} (spec : device'.spec = device.spec)
    (capabilities : device'.capabilities = device.capabilities) (ok : Bool) :
    device'.Serves ok = device.Serves ok := by
  funext operation
  cases operation with
  | call => simp only [ActiveDevice.Serves, findFunctionById, spec, capabilities]
  | _ => rfl

theorem sum_indicator {α : Type} (items : List α) (holds : α → Bool) :
    (items.map fun item => if holds item = true then 1 else 0).sum = items.countP holds := by
  induction items with
  | nil => rfl
  | cons item items ih =>
      rw [List.map_cons, List.sum_cons, ih, List.countP_cons]
      omega

/-- Counts of kinds which exclude each other add up. -/
theorem sum_countP {α β : Type} {items : List α} {counts : α → β → Bool}
    (unique : ∀ label, items.countP (counts · label) ≤ 1) (labels : List β) :
    (items.map fun item => labels.countP (counts item)).sum =
      labels.countP fun label => items.any (counts · label) := by
  induction labels with
  | nil => simp
  | cons label labels ih =>
      have here : items.countP (counts · label) =
          if items.any (counts · label) = true then 1 else 0 := by
        have once := unique label
        by_cases some : items.any (counts · label) = true
        · have positive := List.countP_pos_iff.mpr (List.any_eq_true.mp some)
          rw [if_pos some]
          omega
        · rw [if_neg some, List.countP_eq_zero]
          intro item member counted
          exact some (List.any_eq_true.mpr ⟨item, member, counted⟩)
      simp only [List.countP_cons]
      rw [List.sum_map_add, ih, sum_indicator, here]

/-- Only a call of a device records one. -/
theorem Operation.calls_of_permits {deviceId : String} {round : Round} {operation : Operation}
    (permits : operation.Permits round) (records : round.RecordsCall deviceId) :
    ∃ functionId args result, operation = .call deviceId functionId args result := by
  obtain ⟨functionName, ok, message, rfl⟩ := records
  cases operation with
  | refresh | read =>
      obtain ⟨_, same | same⟩ := permits <;> cases same
  | readLevel | check =>
      obtain ⟨_, same⟩ := permits
      cases same
  | call id functionId args result =>
      cases permits.1
      exact ⟨functionId, args, result, rfl⟩
  | wait => cases permits

section Counts

variable {world : World} {deviceId : String} {device : ActiveDevice} {operation : Operation}

/-- What an operation has added to the counters of a device. -/
def CallsCounted (deviceId : String) (device : ActiveDevice) (operation : Operation)
    (world : World) : Prop :=
  ∃ device', world.state.find deviceId = some device' ∧ device'.spec = device.spec ∧
    device'.callSuccessCount =
      device.callSuccessCount + (if device.Serves true operation then 1 else 0) ∧
    device'.callFailureCount =
      device.callFailureCount + (if device.Serves false operation then 1 else 0)

theorem CallsKept.counted (kept : CallsKept deviceId device world)
    (unserved : ∀ ok, device.Serves ok operation = false) :
    CallsCounted deviceId device operation world := by
  obtain ⟨device', found, spec, record⟩ := kept
  refine ⟨device', found, spec, ?_, ?_⟩
  · rw [unserved true]
    exact congrArg CallRecord.callSuccessCount record
  · rw [unserved false]
    exact congrArg CallRecord.callFailureCount record

theorem CallRecorded.counted {functionName message : String} {functionId : Nat} {args : ValueMap}
    {function : FunctionSpec} {result : AdapterCallResult}
    (recorded : CallRecorded deviceId functionName result.ok message device world)
    (named : device.spec.id = deviceId)
    (declared : findFunctionById device functionId = some function) :
    CallsCounted deviceId device (.call deviceId functionId args result) world := by
  obtain ⟨device', found, spec, record⟩ := recorded
  refine ⟨device', found, spec, ?_, ?_⟩
  · refine (congrArg CallRecord.callSuccessCount record).trans ?_
    cases ok : result.ok <;>
      simp [CallRecord.after, ActiveDevice.callRecord, ActiveDevice.Serves, named, declared, ok]
  · refine (congrArg CallRecord.callFailureCount record).trans ?_
    cases ok : result.ok <;>
      simp [CallRecord.after, ActiveDevice.callRecord, ActiveDevice.Serves, named, declared, ok]

/-- Of the active devices at most one serves a call. -/
theorem serves_once {state : RuntimeState} (apart : state.Apart) (ok : Bool)
    (operation : Operation) :
    state.activeDevices.countP (fun device => device.Serves ok operation) ≤ 1 := by
  cases operation with
  | call id functionId args result =>
      have fewer : state.activeDevices.countP
            (fun device => device.Serves ok (.call id functionId args result)) ≤
          state.activeDevices.countP fun device => device.spec.id == id := by
        apply List.countP_mono_left
        intro device _ serves
        simp only [ActiveDevice.Serves, Bool.and_eq_true, decide_eq_true_eq] at serves
        exact beq_iff_eq.mpr serves.1.1
      have once := List.nodup_iff_count_le_one.mp apart.ids id
      rw [List.count, List.countP_map, List.countP_map] at once
      exact fewer.trans once
  | _ => simp [ActiveDevice.Serves]

end Counts

section Runs

variable [EzoDriver] [DecimalText] [ProviderSdk] {submits : Submits} {config : ProviderConfig}
  {start world world' : World} {deviceId : String} {device : ActiveDevice} {operation : Operation}
  {labels : List Operation}

theorem callsCounted_of_step (named : deviceId ≠ "")
    (found : world.state.find deviceId = some device)
    (step : ProviderStep submits world operation world') :
    CallsCounted deviceId device operation world' := by
  have same : device.spec.id = deviceId := RuntimeState.find_id found
  by_cases calls : ∃ functionId args result, operation = .call deviceId functionId args result
  · obtain ⟨functionId, args, result, rfl⟩ := calls
    cases step with
    | call completes =>
        cases declared : findFunctionById device functionId with
        | none =>
            have unknown : ∀ other, world.state.find deviceId = some other →
                findFunctionById other functionId = none := by
              intro other foundOther
              cases found.symm.trans foundOther
              exact declared
            obtain ⟨trace, run, path⟩ := completes
            obtain ⟨rfl, _⟩ := runs_unknownCall unknown run path
            refine CallsKept.counted ⟨device, found, rfl, rfl⟩ fun ok => ?_
            simp [ActiveDevice.Serves, declared]
        | some function =>
            exact ((callRun_of_completes completes).callRecorded named found declared).counted same
              declared
  · have kept := step.through.callsKept
      (fun round permits records => calls (Operation.calls_of_permits permits records)) found
    refine kept.counted fun ok => ?_
    cases operation with
    | call id functionId args result =>
        have different : device.spec.id ≠ id := by
          intro here
          exact calls ⟨functionId, args, result, by rw [← same, here]⟩
        simp [ActiveDevice.Serves, different]
    | _ => rfl

/-- The counters of a device, since `initialize`. -/
theorem callsCounted_of_steps (initialized : Initialized submits config start)
    (run : (provider submits).Steps start labels world)
    (found : world.state.find deviceId = some device) :
    device.callSuccessCount = labels.countP (device.Serves true) ∧
      device.callFailureCount = labels.countP (device.Serves false) := by
  induction run generalizing device with
  | refl =>
      let uncalled : ActiveDevice → Prop := fun device => device.callRecord = {}
      have fresh : uncalled device := by
        refine @recorded_of_initialized _ _ _ _ _ _ _ uncalled (fun _ _ _ => rfl) ?_ initialized _ found
        rintro id before round after ⟨_, _, same | same | same⟩ effect untouched <;>
          exact (effect.callRecord (by rw [same]; rintro ⟨_, _, _, ⟨⟩⟩)).trans untouched
      exact ⟨congrArg CallRecord.callSuccessCount fresh, congrArg CallRecord.callFailureCount fresh⟩
  | @step labels middle operation next prior transition ih =>
      have reachable : (provider submits).Reachable middle := ⟨start, labels, ⟨config, initialized⟩, prior⟩
      have after := reachable.steps (.single transition)
      obtain ⟨before, foundBefore, spec⟩ := (ProviderStep.through transition).foundBefore
        (sound_of_reachable reachable).toWellFormed found
      obtain ⟨successes, failures⟩ := ih foundBefore
      obtain ⟨device', foundThen, _, more, fewer⟩ :=
        callsCounted_of_step (named_of_reachable reachable foundBefore) foundBefore transition
      cases foundThen.symm.trans found
      have serves := ActiveDevice.serves_congr spec.symm
        ((declared_of_reachable after found).1.trans
          (((declared_of_reachable reachable foundBefore).1.trans (by rw [spec])).symm))
      simp only [serves, List.countP_append, List.countP_singleton]
      exact ⟨by rw [more, successes], by rw [fewer, failures]⟩

/-- The totals of the provider are the numbers of ok and of failed calls. -/
theorem callTotals_of_steps (initialized : Initialized submits config start)
    (run : (provider submits).Steps start labels world) :
    world.state.callSuccessTotal = labels.countP (world.state.Serves true) ∧
      world.state.callFailureTotal = labels.countP (world.state.Serves false) := by
  have reachable : (provider submits).Reachable world := ⟨start, labels, ⟨config, initialized⟩, run⟩
  have apart := (sound_of_reachable reachable).apart
  have counted : ∀ device ∈ world.state.activeDevices,
      device.callSuccessCount = labels.countP (device.Serves true) ∧
        device.callFailureCount = labels.countP (device.Serves false) :=
    fun device member => callsCounted_of_steps initialized run (apart.find_of_mem member)
  constructor
  · refine Eq.trans ?_ (sum_countP (serves_once apart true) labels)
    exact congrArg List.sum (List.map_congr_left fun device member => (counted device member).1)
  · refine Eq.trans ?_ (sum_countP (serves_once apart false) labels)
    exact congrArg List.sum (List.map_congr_left fun device member => (counted device member).2)

/-- In every run since `initialize` the totals of the provider are the numbers of the ok and
of the failed calls of declared functions. The next call of a declared function is recorded
once, as it returns, whatever becomes of the read-backs after it. One of an unknown device
or function submits nothing and changes nothing. -/
theorem calls_recorded_once (initialized : Initialized submits config start)
    (run : (provider submits).Steps start labels world) :
    (∀ i2c,
      ("call_success_total", toString (labels.countP (world.state.Serves true))) ∈
          (providerHealth world.state i2c).metrics ∧
        ("call_failure_total", toString (labels.countP (world.state.Serves false))) ∈
          (providerHealth world.state i2c).metrics) ∧
      ∀ deviceId functionId args trace result world',
        (call deviceId functionId args).Runs trace result →
        (World.environment submits).Path world trace world' →
          (∀ device function, world.state.find deviceId = some device →
            findFunctionById device functionId = some function →
              ∃ device', world'.state.find deviceId = some device' ∧
                device'.callRecord =
                  device.callRecord.after function.name result.ok result.errorMessage) ∧
          ((∀ device, world.state.find deviceId = some device →
              findFunctionById device functionId = none) →
            result.ok = false ∧ world' = world ∧ ∀ exchange ∈ trace, ¬ exchange.1.Submits) := by
  obtain ⟨successes, failures⟩ := callTotals_of_steps initialized run
  constructor
  · intro i2c
    rw [← successes, ← failures]
    simp [providerHealth]
  · intro deviceId functionId args trace result world' calls path
    constructor
    · intro device function found declared
      have reachable : (provider submits).Reachable world :=
        ⟨start, labels, ⟨config, initialized⟩, run⟩
      obtain ⟨device', foundThen, _, recorded⟩ :=
        (callRun_of_completes ⟨trace, calls, path⟩).callRecorded
          (named_of_reachable reachable found) found declared
      exact ⟨device', foundThen, recorded⟩
    · intro unknown
      obtain ⟨same, silent, failed⟩ := runs_unknownCall unknown calls path
      exact ⟨failed, same, silent⟩

end Runs

section Canned

open CannedBus CannedProvider

theorem calls_recorded_once_canned :
    let setup := products .dox fun _ => false
    let start := started setup (oneDevice .dox) { holding := defaults, powerUp := defaults }
    let calibrated := play setup (call "probe" kFunctionCalibrate pointArgs) start
    let refused := play setup (call "probe" kFunctionSetCompensation (temperatureArgs 101))
      calibrated.final
    calibrated.value.ok = true ∧ refused.value.ok = false ∧
      ("call_success_total", "1") ∈ (providerHealth refused.final.state {}).metrics ∧
      ("call_failure_total", "1") ∈ (providerHealth refused.final.state {}).metrics := by
  intro setup start calibrated refused
  have initialized := initialized_started setup (valid_oneDevice .dox)
    { holding := defaults, powerUp := defaults }
  have first := called_play setup "probe" kFunctionCalibrate pointArgs start
  have second := called_play setup "probe" kFunctionSetCompensation (temperatureArgs 101)
    calibrated.final
  obtain ⟨totals, _⟩ := calls_recorded_once initialized (.step (.single first) second)
  have counts : ∀ ok, List.countP (refused.final.state.Serves ok)
      ([.call "probe" kFunctionCalibrate pointArgs calibrated.value] ++
        [.call "probe" kFunctionSetCompensation (temperatureArgs 101) refused.value]) = 1 := by
    decide +kernel
  obtain ⟨successes, failures⟩ := totals {}
  refine ⟨by decide +kernel, by decide +kernel, ?_, ?_⟩
  · have total := counts true
    rw [total] at successes
    exact successes
  · have total := counts false
    rw [total] at failures
    exact failures

end Canned

end EzoProvider.Runtime
