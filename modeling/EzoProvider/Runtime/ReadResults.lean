import EzoProvider.Runtime.CadenceWarnings
import EzoProvider.Runtime.Cadence

/-!
# What a read returns

A read resolves its signals against the devices as it finds them, and serves
them from the devices as they are after the refresh, if it takes one. What it
returns is all from one cached sample, under the ids it was asked for.
-/

namespace EzoProvider.Runtime

open Interaction Program Devices

/-- The signals a read is of: those requested, or the default ones. -/
def ActiveDevice.requested (device : ActiveDevice) (signalIds : List String) : List String :=
  if signalIds = [] then device.defaultSignalIds else signalIds

/-- A value shows a slot of a cached sample, under the id of its signal. -/
structure SignalValue.Shows [ProviderSdk] (value : SignalValue) (config : ProviderConfig)
    (sample : DeviceSampleCache) (slot : SignalSample) : Prop where
  shown : value.value = if slot.hasValue then some slot.value else none
  stamped : value.timestamp = toProtoTimestamp sample.sampledAt
  graded : ∃ ageMs, value.quality =
    ProviderSdk.qualityFrom slot.available slot.hasValue sample.lastReadOk ageMs (staleAfterMs config)
  unavailable : ("unavailable", "true") ∈ value.metadata ↔ slot.available = false
  reason : slot.available = false →
    ("unavailable_reason", slot.unavailableReason) ∈ value.metadata

/-- A value bears the id of a declared signal, and shows the slot of that signal. -/
structure SignalValue.Serves [ProviderSdk] (value : SignalValue) (config : ProviderConfig)
    (device : ActiveDevice) (signalId : String) : Prop where
  id : value.signalId = signalId
  declared : signalId ∈ device.capabilities.signals
  slot : ∀ index : Nat, device.capabilities.signals[index]? = some signalId →
    ∃ slot, device.sample.signals[index]? = some slot ∧ value.Shows config device.sample slot

/-! ## Resolving the signals -/

section Indexes

variable {device : ActiveDevice} {signalIds : List String}

theorem findSignalIndex_eq_none_iff {signalId : String} :
    findSignalIndex device signalId = none ↔ signalId ∉ device.capabilities.signals := by
  rw [findSignalIndex, List.findIdx?_eq_none_iff]
  constructor
  · intro none member
    simpa using none signalId member
  · rintro missing other member
    simp only [decide_eq_false_iff_not]
    rintro rfl
    exact missing member

/-- An index found is the one of the signal: no family declares a signal twice. -/
theorem findSignalIndex_eq_some {signalId : String} {index : Nat}
    (distinct : device.capabilities.signals.Nodup)
    (found : findSignalIndex device signalId = some index) :
    ∀ other, device.capabilities.signals[other]? = some signalId ↔ other = index := by
  obtain ⟨below, here, _⟩ := List.findIdx?_eq_some_iff_getElem.mp found
  have same : device.capabilities.signals[index] = signalId := of_decide_eq_true here
  intro other
  constructor
  · intro there
    obtain ⟨within, again⟩ := List.getElem?_eq_some_iff.mp there
    exact (distinct.getElem_inj_iff).mp (again.trans same.symm)
  · rintro rfl
    rw [List.getElem?_eq_getElem below, same]

theorem requestedIndexes_eq_ok {indexes : List Nat}
    (resolved : requestedIndexes device signalIds = .ok indexes) :
    List.Forall₂ (fun signalId index => findSignalIndex device signalId = some index) signalIds
      indexes := by
  induction signalIds generalizing indexes with
  | nil =>
      cases resolved
      exact .nil
  | cons signalId rest ih =>
      rw [requestedIndexes] at resolved
      split at resolved
      · cases resolved
      · next index found =>
          cases later : requestedIndexes device rest with
          | error other =>
              rw [later] at resolved
              cases resolved
          | ok others =>
              rw [later] at resolved
              cases resolved
              exact .cons found (ih later)

theorem declared_of_resolved {indexes : List Nat}
    (resolved : List.Forall₂ (fun signalId index => findSignalIndex device signalId = some index)
      signalIds indexes) :
    ∀ signalId ∈ signalIds, signalId ∈ device.capabilities.signals := by
  induction resolved with
  | nil => simp
  | @cons first index signalIds indexes here _ ih =>
      intro signalId member
      rcases List.mem_cons.mp member with rfl | later
      · by_contra missing
        rw [findSignalIndex_eq_none_iff.mpr missing] at here
        cases here
      · exact ih signalId later

theorem requestedIndexes_eq_error {signalId : String}
    (refused : requestedIndexes device signalIds = .error signalId) :
    signalId ∈ signalIds ∧ signalId ∉ device.capabilities.signals := by
  induction signalIds with
  | nil => cases refused
  | cons first rest ih =>
      rw [requestedIndexes] at refused
      split at refused
      · next missing =>
          cases refused
          exact ⟨List.mem_cons_self, findSignalIndex_eq_none_iff.mp missing⟩
      · cases later : requestedIndexes device rest with
        | error other =>
            rw [later] at refused
            cases refused
            obtain ⟨member, missing⟩ := ih later
            exact ⟨List.mem_cons_of_mem _ member, missing⟩
        | ok others =>
            rw [later] at refused
            cases refused

end Indexes

theorem nodup_signals [EzoDriver] (type : EzoDeviceType) :
    (buildCapabilities type).signals.Nodup := by
  cases type with
  | ph => exact (by decide : (Ph.kSignals.map SignalDefinition.signalId).Nodup)
  | dox => exact (by decide : (Do.kSignals.map SignalDefinition.signalId).Nodup)
  | orp => exact (by decide : (Orp.kSignals.map SignalDefinition.signalId).Nodup)
  | ec => exact (by decide : (Ec.kSignals.map SignalDefinition.signalId).Nodup)
  | rtd => exact (by decide : (Rtd.kSignals.map SignalDefinition.signalId).Nodup)
  | hum => exact (by decide : (Hum.kSignals.map SignalDefinition.signalId).Nodup)

/-! ## Serving a sample -/

theorem firstSubmission_append (first second : CallerTrace) :
    firstSubmission (first ++ second) = (firstSubmission first).or (firstSubmission second) :=
  List.findSome?_append

theorem runs_needsRefresh {config : ProviderConfig} {device : ActiveDevice} {stale : Bool}
    {trace : CallerTrace} (run : (needsRefresh config device).Runs trace stale) :
    firstSubmission trace = none ∧ (device.sample.hasSample = false → stale = true) := by
  rw [needsRefresh] at run
  split at run
  · next sampled =>
      obtain ⟨_, now, _, rfl, clock, decided⟩ := runs_bind_iff.mp run
      obtain rfl := runs_ask_iff.mp clock
      obtain ⟨rfl, _⟩ := runs_done_iff.mp decided
      exact ⟨rfl, fun unsampled => by rw [sampled] at unsampled; cases unsampled⟩
  · obtain ⟨rfl, rfl⟩ := runs_done_iff.mp run
    exact ⟨rfl, fun _ => rfl⟩

section Serving

variable [ProviderSdk] {config : ProviderConfig} {device : ActiveDevice}

/-- A value of a signal whose slot is there shows it. -/
theorem shows_populateSignalValue {index : Nat} {slot : SignalSample} (now : Int)
    (here : device.sample.signals[index]? = some slot) :
    (populateSignalValue config device index now).Shows config device.sample slot := by
  constructor
  · simp [populateSignalValue, here]
  · rfl
  · exact ⟨_, by simp [populateSignalValue, here]; rfl⟩
  · by_cases available : slot.available = true
    · by_cases silent : device.sample.lastError = ""
      · simp [populateSignalValue, here, available, silent]
      · simp [populateSignalValue, here, available, silent]
    · by_cases silent : device.sample.lastError = ""
      · simp [populateSignalValue, here, available, silent]
      · simp [populateSignalValue, here, available, silent]
  · intro unavailable
    simp [populateSignalValue, here, unavailable]

theorem runs_populateSignalValues {indexes : List Nat} {trace : CallerTrace}
    {values : List SignalValue} (run : (populateSignalValues config device indexes).Runs trace values) :
    firstSubmission trace = none ∧
      List.Forall₂ (fun index value => ∃ now, value = populateSignalValue config device index now)
        indexes values := by
  induction indexes generalizing trace values with
  | nil =>
      obtain ⟨rfl, rfl⟩ := runs_done_iff.mp run
      exact ⟨rfl, .nil⟩
  | cons index rest ih =>
      obtain ⟨_, now, _, rfl, clock, later⟩ := runs_bind_iff.mp run
      obtain rfl := runs_ask_iff.mp clock
      obtain ⟨_, others, _, rfl, tail, ended⟩ := runs_bind_iff.mp later
      obtain ⟨rfl, rfl⟩ := runs_done_iff.mp ended
      obtain ⟨silent, populated⟩ := ih tail
      refine ⟨?_, .cons ⟨now, rfl⟩ populated⟩
      rw [List.append_nil, firstSubmission_append, silent]
      rfl

/-- Serving a sample submits nothing. -/
theorem runs_serveSample {indexes : List Nat} {trace : CallerTrace} {result : AdapterReadResult}
    (sampled : device.sample.hasSample = true)
    (run : (serveSample config device indexes).Runs trace result) :
    firstSubmission trace = none ∧ result.ok = true ∧
      List.Forall₂ (fun index value => ∃ now, value = populateSignalValue config device index now)
        indexes result.values := by
  rw [serveSample, if_pos sampled] at run
  obtain ⟨_, values, _, rfl, populates, ended⟩ := runs_bind_iff.mp run
  obtain ⟨rfl, rfl⟩ := runs_done_iff.mp ended
  obtain ⟨silent, populated⟩ := runs_populateSignalValues populates
  exact ⟨by rw [List.append_nil, silent], rfl, populated⟩

/-- What is served of a device with a slot for each of its signals. -/
theorem serves_of_populated {signalIds : List String} {indexes : List Nat}
    {values : List SignalValue} {found : ActiveDevice}
    (declared : device.capabilities = found.capabilities)
    (distinct : device.capabilities.signals.Nodup)
    (slots : device.sample.signals.length = device.capabilities.signals.length)
    (resolved : List.Forall₂
      (fun signalId index => findSignalIndex found signalId = some index) signalIds indexes)
    (populated : List.Forall₂
      (fun index value => ∃ now, value = populateSignalValue config device index now) indexes values) :
    List.Forall₂ (fun signalId value => value.Serves config device signalId) signalIds values := by
  induction resolved generalizing values with
  | nil =>
      cases populated
      exact .nil
  | @cons signalId index signalIds indexes here _ ih =>
      cases populated with
      | cons populates others =>
          obtain ⟨now, rfl⟩ := populates
          refine .cons ?_ (ih others)
          rw [findSignalIndex, ← declared, ← findSignalIndex] at here
          have placed := findSignalIndex_eq_some distinct here
          have there := (placed index).mpr rfl
          obtain ⟨below, _⟩ := List.getElem?_eq_some_iff.mp there
          refine ⟨?_, List.mem_of_getElem? there, fun other same => ?_⟩
          · simp [populateSignalValue, List.getD_eq_getElem?_getD, there]
          · obtain rfl := (placed other).mp same
            have within : other < device.sample.signals.length := by omega
            have filled := List.getElem?_eq_getElem within
            exact ⟨_, filled, shows_populateSignalValue now filled⟩

end Serving

/-! ## The outcomes of a read -/

/-- A device after a refresh: with the sample just taken, or with the one it had, if any,
marked as not read again. -/
structure RefreshedAs (status : Status) (device device' : ActiveDevice) : Prop where
  spec : device'.spec = device.spec
  sampled : status.isOk = true →
    device'.sample.hasSample = true ∧ device'.sample.lastReadOk = true
  kept : status.isOk = false → device' =
    { device with
      sample := { device.sample with
        lastReadOk := false
        lastError := status.message
        failureCount := device.sample.failureCount + 1
        consecutiveLaggingGaps := 0 } }

section Runs

variable [EzoDriver] [DecimalText] {deviceId : String} {signalIds : List String}
  {world world' : World}

/-- A refresh submits its sample first, and leaves the device as its status says. -/
theorem refreshedAs_of_refresh {device : ActiveDevice} {status : Status} {trace : CallerTrace}
    (named : deviceId ≠ "") (found : world.state.find deviceId = some device)
    (run : (refreshDeviceSample deviceId).Runs trace status)
    (path : (World.environment Line.Submitted).Path world trace world') :
    firstSubmission trace = some status ∧ ∃ device',
      world'.state.find deviceId = some device' ∧ RefreshedAs status device device' := by
  obtain ⟨_, _, _, _, _, submitted, _⟩ := recorded_of_refresh named found run path
  obtain ⟨signals, now, nowSteady, device', foundThen, kept, failed, _⟩ :=
    (refreshRun_of_completes ⟨trace, run, path⟩).recorded named found
  refine ⟨submitted, device', foundThen, kept.spec.trans (by simp), fun ok => ?_, fun not => ?_⟩
  · obtain ⟨_, _, _, has, read, _⟩ :=
      recordSample_ok world.state.config deviceId signals now nowSteady device ok
    exact ⟨(congrArg (·.hasSample) kept.sample).trans has,
      (congrArg (·.lastReadOk) kept.sample).trans read⟩
  · rw [failed not, recordSample_failed world.state.config deviceId signals now nowSteady device not]

variable [ProviderSdk]

/-- The runs of `EzoProviderRuntime::read`. -/
inductive ReadRun (deviceId : String) (signalIds : List String) (world : World) :
    CallerTrace → AdapterReadResult → World → Prop where
  | unknownDevice {trace : CallerTrace} (missing : world.state.find deviceId = none)
      (silent : firstSubmission trace = none) :
      ReadRun deviceId signalIds world trace (readFailed .notFound "unknown device_id") world
  | unknownSignal {trace : CallerTrace} {device : ActiveDevice} {signalId : String}
      (found : world.state.find deviceId = some device)
      (member : signalId ∈ device.requested signalIds)
      (undeclared : signalId ∉ device.capabilities.signals)
      (silent : firstSubmission trace = none) :
      ReadRun deviceId signalIds world trace
        (readFailed .notFound ("unknown signal_id '" ++ signalId ++ "'")) world
  | cached {trace : CallerTrace} {device : ActiveDevice} {indexes : List Nat}
      {result : AdapterReadResult} (found : world.state.find deviceId = some device)
      (resolved : requestedIndexes device (device.requested signalIds) = .ok indexes)
      (sampled : device.sample.hasSample = true) (silent : firstSubmission trace = none)
      (ok : result.ok = true)
      (served : List.Forall₂
        (fun index value => ∃ now, value = populateSignalValue world.state.config device index now)
        indexes result.values) :
      ReadRun deviceId signalIds world trace result world
  | refreshed {trace : CallerTrace} {device device' : ActiveDevice} {indexes : List Nat}
      {status : Status} {result : AdapterReadResult} {world' : World}
      (found : world.state.find deviceId = some device)
      (resolved : requestedIndexes device (device.requested signalIds) = .ok indexes)
      (submitted : firstSubmission trace = some status)
      (foundThen : world'.state.find deviceId = some device')
      (after : RefreshedAs status device device')
      (sampled : device'.sample.hasSample = true) (ok : result.ok = true)
      (served : List.Forall₂
        (fun index value => ∃ now, value = populateSignalValue world'.state.config device' index now)
        indexes result.values) :
      ReadRun deviceId signalIds world trace result world'
  | failed {trace : CallerTrace} {device : ActiveDevice} {indexes : List Nat} {status : Status}
      {world' : World} (found : world.state.find deviceId = some device)
      (resolved : requestedIndexes device (device.requested signalIds) = .ok indexes)
      (submitted : firstSubmission trace = some status) (not : status.isOk = false)
      (unsampled : device.sample.hasSample = false) :
      ReadRun deviceId signalIds world trace
        (readFailed (mapI2cStatusCode status.code) status.message) world'

/-- The rest of a read which refreshes. -/
theorem readRun_of_refreshAndServe {device : ActiveDevice} {indexes : List Nat}
    {looked served : CallerTrace} {result : AdapterReadResult} (named : deviceId ≠ "")
    (found : world.state.find deviceId = some device)
    (resolved : requestedIndexes device (device.requested signalIds) = .ok indexes)
    (quiet : firstSubmission looked = none)
    (run : (refreshAndServe deviceId indexes).Runs served result)
    (path : (World.environment Line.Submitted).Path world served world') :
    ReadRun deviceId signalIds world (looked ++ served) result world' := by
  obtain ⟨refreshing, status, rest, rfl, refreshes, afterRefresh⟩ := runs_bind_iff.mp run
  obtain ⟨middle, refreshPath, restPath⟩ := Environment.path_append_iff.mp path
  obtain ⟨submission, device', foundThen, refreshed⟩ :=
    refreshedAs_of_refresh named found refreshes refreshPath
  have submitted : firstSubmission (looked ++ (refreshing ++ rest)) = some status := by
    rw [firstSubmission_append, firstSubmission_append, quiet, submission]
    rfl
  obtain ⟨_, _, tail, rfl, looks, afterLook⟩ := runs_bind_iff.mp afterRefresh
  obtain rfl := runs_ask_iff.mp looks
  obtain ⟨_, ⟨rfl, rfl⟩, tailPath⟩ := Environment.path_cons_iff.mp restPath
  split at afterLook
  · next ok =>
      obtain ⟨sampled, _⟩ := refreshed.sampled ok
      rw [foundThen] at afterLook
      obtain ⟨_, served, values⟩ := runs_serveSample sampled afterLook
      obtain rfl := unchanged_of_serveSample ⟨tail, afterLook, tailPath⟩
      exact .refreshed found resolved submitted foundThen refreshed sampled served values
  · next failure =>
      have not : status.isOk = false := Bool.eq_false_of_not_eq_true failure
      obtain ⟨_, _, last, rfl, warned, afterWarning⟩ := runs_bind_iff.mp afterLook
      obtain rfl := runs_ask_iff.mp warned
      obtain ⟨_, rfl, lastPath⟩ := Environment.path_cons_iff.mp tailPath
      have same := congrArg (·.sample.hasSample) (refreshed.kept not)
      dsimp only at same
      cases sampled : device'.sample.hasSample with
      | true =>
          rw [foundThen, Option.filter_some, if_pos sampled] at afterWarning
          obtain ⟨_, served, values⟩ := runs_serveSample sampled afterWarning
          obtain rfl := unchanged_of_serveSample ⟨last, afterWarning, lastPath⟩
          exact .refreshed found resolved submitted foundThen refreshed sampled served values
      | false =>
          rw [foundThen, Option.filter_some, if_neg (by simp [sampled])] at afterWarning
          obtain ⟨rfl, rfl⟩ := runs_done_iff.mp afterWarning
          obtain rfl := Environment.path_nil_iff.mp lastPath
          exact .failed found resolved submitted not (same.symm.trans sampled)

theorem readRun_of_path {trace : CallerTrace} {result : AdapterReadResult}
    (named : ∀ device, world.state.find deviceId = some device → deviceId ≠ "")
    (run : (read deviceId signalIds).Runs trace result)
    (path : (World.environment Line.Submitted).Path world trace world') :
    ReadRun deviceId signalIds world trace result world' := by
  obtain ⟨_, _, rest, rfl, looked, after⟩ := runs_bind_iff.mp run
  obtain rfl := runs_ask_iff.mp looked
  obtain ⟨_, ⟨rfl, rfl⟩, path⟩ := Environment.path_cons_iff.mp path
  split at after
  · next missing =>
      obtain ⟨rfl, rfl⟩ := runs_done_iff.mp after
      obtain rfl := Environment.path_nil_iff.mp path
      exact .unknownDevice missing rfl
  · next device found =>
      dsimp only [id_eq] at found after
      split at after
      · next signalId refused =>
          obtain ⟨rfl, rfl⟩ := runs_done_iff.mp after
          obtain rfl := Environment.path_nil_iff.mp path
          obtain ⟨member, undeclared⟩ := requestedIndexes_eq_error refused
          exact .unknownSignal found member undeclared rfl
      · next indexes resolved =>
          obtain ⟨aged, stale, served, rfl, decides, after⟩ := runs_bind_iff.mp after
          change (World.environment Line.Submitted).Path world (aged ++ served) world' at path
          obtain ⟨middle, agedPath, servedPath⟩ := Environment.path_append_iff.mp path
          obtain rfl := unchanged_of_needsRefresh ⟨aged, decides, agedPath⟩
          obtain ⟨quiet, must⟩ := runs_needsRefresh decides
          cases stale with
          | false =>
              have sampled : device.sample.hasSample = true := by
                by_contra unsampled
                cases must (Bool.eq_false_of_not_eq_true unsampled)
              obtain ⟨silent, ok, values⟩ := runs_serveSample sampled after
              obtain rfl := unchanged_of_serveSample ⟨served, after, servedPath⟩
              refine .cached found resolved sampled ?_ ok values
              show firstSubmission (aged ++ served) = none
              rw [firstSubmission_append, quiet, silent]
              rfl
          | true =>
              have quietFirst : firstSubmission (⟨.locked id, middle.state⟩ :: aged) = none := quiet
              have refreshes :=
                readRun_of_refreshAndServe (named device found) found resolved quietFirst after servedPath
              exact refreshes

/-- In every reachable state a read either serves one value for each requested signal, in
their order, each from the slot of its signal and all from one cached sample: the one there
was, the one just taken, or the one there was marked as not read again. Or it fails with no
values, exactly if the device or one of the signals is unknown, which it finds out before it
submits anything, or if its refresh failed and there has been no sample. -/
theorem read_serves (reachable : (provider Line.Submitted).Reachable world)
    {trace : CallerTrace} {result : AdapterReadResult}
    (run : (read deviceId signalIds).Runs trace result)
    (path : (World.environment Line.Submitted).Path world trace world') :
    let unknown := world.state.find deviceId = none ∨
      ∃ device signalId, world.state.find deviceId = some device ∧
        signalId ∈ device.requested signalIds ∧ signalId ∉ device.capabilities.signals
    let unsampled := ∃ device status, world.state.find deviceId = some device ∧
      device.sample.hasSample = false ∧ firstSubmission trace = some status ∧ status.isOk = false
    (result.ok = true → ∃ device device', world.state.find deviceId = some device ∧
        world'.state.find deviceId = some device' ∧ device'.sample.hasSample = true ∧
        List.Forall₂ (fun signalId value => value.Serves world'.state.config device' signalId)
          (device.requested signalIds) result.values ∧
        (firstSubmission trace = none → device' = device) ∧
        ∀ status, firstSubmission trace = some status → RefreshedAs status device device') ∧
      (result.ok = false → result.values = []) ∧
      (result.ok = false ↔ unknown ∨ unsampled) ∧
      (unknown → result.errorCode = .notFound ∧ firstSubmission trace = none ∧ world' = world) := by
  intro unknown unsampled
  have named : ∀ device, world.state.find deviceId = some device → deviceId ≠ "" :=
    fun device found => named_of_reachable reachable found
  have after := reachable.steps (.single (.read ⟨trace, run, path⟩))
  -- A device found declares its signals, and its resolved request is of declared ones.
  have known : ∀ {device : ActiveDevice} {indexes : List Nat},
      world.state.find deviceId = some device →
      requestedIndexes device (device.requested signalIds) = .ok indexes → ¬ unknown := by
    rintro device indexes found resolved (missing | ⟨other, signalId, foundOther, member, undeclared⟩)
    · rw [missing] at found
      cases found
    · rw [found] at foundOther
      cases foundOther
      exact undeclared (declared_of_resolved (requestedIndexes_eq_ok resolved) signalId member)
  -- What is served is of a device with one slot for each of its signals.
  have serves : ∀ {device device' : ActiveDevice} {indexes : List Nat} {values : List SignalValue},
      world.state.find deviceId = some device → world'.state.find deviceId = some device' →
      device'.spec = device.spec →
      requestedIndexes device (device.requested signalIds) = .ok indexes →
      List.Forall₂ (fun index value =>
        ∃ now, value = populateSignalValue world'.state.config device' index now) indexes values →
      List.Forall₂ (fun signalId value => value.Serves world'.state.config device' signalId)
        (device.requested signalIds) values := by
    intro device device' indexes values found foundThen spec resolved populated
    obtain ⟨built, _⟩ := declared_of_reachable reachable found
    obtain ⟨builtThen, _⟩ := declared_of_reachable after foundThen
    refine serves_of_populated ?_ ?_ ?_ (requestedIndexes_eq_ok resolved) populated
    · rw [built, builtThen, spec]
    · rw [builtThen]
      exact nodup_signals _
    · obtain ⟨length, _⟩ := slots_determined (runtime_of_provider after) foundThen
      rw [length, builtThen, buildCapabilities, List.length_map]
  cases readRun_of_path named run path with
  | unknownDevice missing silent =>
      refine ⟨by rintro ⟨⟩, fun _ => rfl, ?_, fun _ => ⟨rfl, silent, rfl⟩⟩
      exact ⟨fun _ => .inl (.inl missing), fun _ => rfl⟩
  | unknownSignal found member undeclared silent =>
      refine ⟨by rintro ⟨⟩, fun _ => rfl, ?_, fun _ => ⟨rfl, silent, rfl⟩⟩
      exact ⟨fun _ => .inl (.inr ⟨_, _, found, member, undeclared⟩), fun _ => rfl⟩
  | @cached device _ _ found resolved sampled silent ok served =>
      refine ⟨fun _ => ⟨device, device, found, found, sampled, serves found found rfl resolved served,
        fun _ => rfl, ?_⟩, ?_, ?_, fun unknown => absurd unknown (known found resolved)⟩
      · intro status submitted
        rw [silent] at submitted
        cases submitted
      · rw [ok]
        rintro ⟨⟩
      · rw [ok]
        refine ⟨by rintro ⟨⟩, ?_⟩
        rintro (unknown | ⟨_, status, _, _, submitted, _⟩)
        · exact absurd unknown (known found resolved)
        · rw [silent] at submitted
          cases submitted
  | @refreshed device device' _ status _ _ found resolved submitted foundThen refreshed sampled ok
      served =>
      refine ⟨fun _ => ⟨device, device', found, foundThen, sampled,
        serves found foundThen refreshed.spec resolved served, ?_, ?_⟩, ?_, ?_,
        fun unknown => absurd unknown (known found resolved)⟩
      · rw [submitted]
        rintro ⟨⟩
      · intro other same
        cases submitted.symm.trans same
        exact refreshed
      · rw [ok]
        rintro ⟨⟩
      · rw [ok]
        refine ⟨by rintro ⟨⟩, ?_⟩
        rintro (unknown | ⟨other, _, foundOther, never, same, not⟩)
        · exact absurd unknown (known found resolved)
        · cases submitted.symm.trans same
          cases found.symm.trans foundOther
          rw [refreshed.kept not] at sampled
          exact absurd (never.symm.trans sampled) Bool.false_ne_true
  | @failed device _ status _ found resolved submitted not never =>
      refine ⟨by rintro ⟨⟩, fun _ => rfl, ?_, fun unknown => absurd unknown (known found resolved)⟩
      exact ⟨fun _ => .inr ⟨device, status, found, never, submitted, not⟩, fun _ => rfl⟩

end Runs

section Canned

open CannedBus CannedProvider

theorem read_serves_canned :
    let world := started (products .dox fun _ => false) (oneDevice .dox)
      { holding := defaults, powerUp := defaults }
    let reading := play (products .dox fun _ => false)
      (read "probe" ["do_calibration_level", "do_mg_l", "do_mg_l"]) world
    reading.value.ok = true ∧ ∃ device, reading.final.state.find "probe" = some device ∧
      List.Forall₂ (fun signalId value => value.Serves reading.final.state.config device signalId)
        ["do_calibration_level", "do_mg_l", "do_mg_l"] reading.value.values := by
  intro world reading
  have ok : reading.value.ok = true := by decide +kernel
  have reachable := reachable_started (products .dox fun _ => false) .dox
    { holding := defaults, powerUp := defaults }
  have serves := (read_serves reachable (play_runs _ _ _)
    (play_path (CannedProvider.faithful (products .dox fun _ => false)) _ _)).1 ok
  obtain ⟨_, device, _, found, _, served, _⟩ := serves
  exact ⟨ok, device, found, served⟩

end Canned

end EzoProvider.Runtime
