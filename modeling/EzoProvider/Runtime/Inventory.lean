import EzoProvider.Runtime.CannedProvider
import EzoProvider.Runtime.Routine
import EzoProvider.Runtime.Soundness

/-!
# The inventory after startup

Every configured device is active or excluded, in the order of the configuration
and with a reason, whatever the host, the bus and the probes answer. One exit of
`initialize` leaves it empty: when the executor does not start.
-/

namespace EzoProvider.Runtime

open Interaction Program Devices Environment

/-! ## What the operations submit -/

/-- An operation which neither starts the executor nor probes an identity. -/
def CallerOp.Serves : CallerOp → Prop
  | .startExecutor _ => False
  | .submit name _ _ => ∀ deviceId, name ≠ "startup_probe:" ++ deviceId
  | _ => True

theorem serves_issue {op : CallerOp} (serves : op.Serves) : (CallerOp.issue op).Only CallerOp.Serves :=
  ⟨serves, fun _ => trivial⟩

theorem serves_reset : reset.Only CallerOp.Serves :=
  only_bind (only_bind (serves_issue trivial) fun _ => serves_issue trivial) fun _ =>
    only_bind (serves_issue trivial) fun _ => trivial

theorem serves_warnCacheWindow (config : ProviderConfig) :
    (warnCacheWindow config).Only CallerOp.Serves := by
  rw [warnCacheWindow]
  split
  · exact serves_issue trivial
  · trivial

theorem serves_checkHost (config : ProviderConfig) : (checkHost config).Only CallerOp.Serves := by
  rw [checkHost]
  split
  · trivial
  · exact serves_issue trivial

section Serving

variable [EzoDriver]

theorem serves_of_routine (op : CallerOp) (routine : op.Routine) : op.Serves := by
  cases routine with
  | submitted served => exact served
  | _ => trivial

/-- The reads at startup perform what every operation does, and record samples. -/
theorem only_startupReadsOf {allowed : CallerOp → Prop} (deviceIds : List String)
    (routine : ∀ op : CallerOp, op.Routine → allowed op)
    (sampled : ∀ deviceId config status signals now nowSteady, allowed (.locked
      (·.update deviceId (recordSample config deviceId status signals now nowSteady)))) :
    (startupReadsOf deviceIds).Only allowed := by
  induction deviceIds with
  | nil => trivial
  | cons deviceId rest ih =>
      refine only_bind ?_ fun _ => ih
      exact only_bind (only_refreshDeviceSample routine (sampled deviceId)) fun _ =>
        only_bind ((routine_warnUnlessOk _ _).mono routine) fun _ =>
          only_bind ((routine_refreshCalibrationLevel _).mono routine) fun _ =>
            only_bind ((routine_warnUnlessOk _ _).mono routine) fun _ =>
              only_bind ((routine_checkCompensation _).mono routine) fun _ =>
                (routine_warnUnlessOk _ _).mono routine

theorem serves_startupReadsOf (deviceIds : List String) :
    (startupReadsOf deviceIds).Only CallerOp.Serves :=
  only_startupReadsOf deviceIds serves_of_routine fun _ _ _ _ _ _ => trivial

end Serving

/-! ## The runs of startup -/

/-- A probe or a start is not among what serves. -/
theorem not_mem_of_serves {trace : CallerTrace} (serves : ∀ exchange ∈ trace, exchange.1.Serves)
    {exchange : Exchange CallerOp CallerOp.Result} (beyond : ¬ exchange.1.Serves) :
    exchange ∉ trace :=
  fun member => beyond (serves exchange member)

theorem runs_publish {state : RuntimeState} {trace : CallerTrace}
    (run : (publish state).Runs trace ()) : ∃ found, trace = [⟨.locked fun _ => state, found⟩] := by
  obtain ⟨_, found, _, rfl, locked, final⟩ := runs_bind_iff.mp run
  obtain rfl := runs_ask_iff.mp locked
  obtain ⟨rfl, _⟩ := runs_done_iff.mp final
  exact ⟨found, rfl⟩

section Startup

variable [EzoDriver] [ProviderSdk]

/-- The runs of `initialize`, by its exits. -/
inductive StartupRun (config : ProviderConfig) : CallerTrace → Prop where
  | unmet {before : CallerTrace} {state found : RuntimeState} (configured : state.config = config)
      (blank : state.activeDevices = [] ∧ state.excludedDevices = [] ∧ state.ready = false)
      (serves : ∀ exchange ∈ before, exchange.1.Serves) :
      StartupRun config (before ++ [⟨.locked fun _ => unmetState state, found⟩])
  | unstarted {before : CallerTrace} {state found : RuntimeState} {status : Status}
      (configured : state.config = config)
      (blank : state.activeDevices = [] ∧ state.excludedDevices = [] ∧ state.ready = false)
      (serves : ∀ exchange ∈ before, exchange.1.Serves) (failed : status.isOk = false) :
      StartupRun config (before ++
        [⟨.startExecutor config, status⟩, ⟨.locked fun _ => unstartedState state status, found⟩])
  | started {before clock reads : CallerTrace} {state found : RuntimeState} {status : Status}
      {probes : List StartupProbe} {readyAt : Int} (configured : state.config = config)
      (blank : state.activeDevices = [] ∧ state.excludedDevices = [] ∧ state.ready = false)
      (serves : ∀ exchange ∈ before, exchange.1.Serves) (ok : status.isOk = true)
      (covered : probes.map Prod.fst = config.devices)
      (timed : ∀ exchange ∈ clock, exchange.1 = .systemNow)
      (reading : (startupReadsOf ((admitAll state probes).activeDevices.map (·.spec.id))).Runs
        reads ()) :
      StartupRun config (before ++ ⟨.startExecutor config, status⟩ ::
        (probes.map (probeExchange config) ++ (clock ++
          ⟨.locked fun _ => startedState (admitAll state probes) readyAt, found⟩ :: reads)))

theorem startupRun_of_runs {config : ProviderConfig} {trace : CallerTrace}
    (run : (initializeRuntime config).Runs trace ()) : StartupRun config trace := by
  obtain ⟨first, _, _, rfl, resets, afterReset⟩ := runs_bind_iff.mp run
  obtain ⟨second, _, _, rfl, warns, afterWarning⟩ := runs_bind_iff.mp afterReset
  obtain ⟨third, startedAt, _, rfl, clock, afterClock⟩ := runs_bind_iff.mp afterWarning
  obtain ⟨fourth, hostRequirements, rest, rfl, checks, checked⟩ := runs_bind_iff.mp afterClock
  obtain rfl := runs_ask_iff.mp clock
  have serves : ∀ exchange ∈ first ++ (second ++ ([⟨.systemNow, startedAt⟩] ++ fourth) :
      CallerTrace), exchange.1.Serves := by
    intro exchange member
    simp only [List.mem_append, List.mem_singleton] at member
    rcases member with member | member | rfl | member
    · exact (serves_reset.advances resets).1 exchange member
    · exact ((serves_warnCacheWindow config).advances warns).1 exchange member
    · trivial
    · exact ((serves_checkHost config).advances checks).1 exchange member
  have split : first ++ (second ++ ([⟨.systemNow, startedAt⟩] ++ (fourth ++ rest))) =
      (first ++ (second ++ ([⟨.systemNow, startedAt⟩] ++ fourth)) : CallerTrace) ++ rest := by
    simp
  rw [split]
  generalize first ++ (second ++ ([⟨.systemNow, startedAt⟩] ++ fourth) : CallerTrace) = before
    at serves
  dsimp only at checked
  split at checked
  · obtain ⟨found, rfl⟩ := runs_publish checked
    exact .unmet rfl ⟨rfl, rfl, rfl⟩ serves
  · obtain ⟨_, status, tail, rfl, starts, started⟩ := runs_bind_iff.mp checked
    obtain rfl := runs_ask_iff.mp starts
    split at started
    · next failed =>
        obtain ⟨found, rfl⟩ := runs_publish started
        exact .unstarted rfl ⟨rfl, rfl, rfl⟩ serves (by simpa using failed)
    · next ok =>
        obtain ⟨probes, clock, readyAt, found, reads, covered, timed, rfl, reading⟩ :=
          runs_probeAndPublish started
        exact .started rfl ⟨rfl, rfl, rfl⟩ serves (by simpa using ok) covered timed reading

end Startup

/-! ## The inventory -/

/-- The executor was asked to start and did not. -/
def StartFails (config : ProviderConfig) (trace : CallerTrace) : Prop :=
  ∃ status, ⟨.startExecutor config, status⟩ ∈ trace ∧ status.isOk = false

/-- The devices listed as active and as excluded. -/
def activeSpecs (state : RuntimeState) : List DeviceSpec := state.activeDevices.map (·.spec)

def excludedSpecs (state : RuntimeState) : List DeviceSpec := state.excludedDevices.map (·.spec)

/-- The inventory is complete, in order, explained by the probes and with reasons. -/
structure Inventory [EzoDriver] (config : ProviderConfig) (trace : CallerTrace)
    (state : RuntimeState) : Prop where
  once : (activeSpecs state ++ excludedSpecs state).Perm config.devices
  activeOrder : (activeSpecs state).Sublist config.devices
  excludedOrder : (excludedSpecs state).Sublist config.devices
  active : ∀ spec ∈ config.devices, spec ∈ activeSpecs state ↔
    ∃ reply, probeExchange config (spec, reply) ∈ trace ∧ probeAccepts (spec, reply) = true
  reasons : ∀ excluded ∈ state.excludedDevices, excluded.reason ≠ ""
  ready : state.ready = true ↔ state.activeDevices ≠ []

/-- The failures of startup probes come with a message. -/
def ExplainsFailures [EzoDriver] (config : ProviderConfig) (trace : CallerTrace) : Prop :=
  ∀ spec reply, probeExchange config (spec, reply) ∈ trace → reply.status.isOk = false →
    reply.status.message ≠ ""

/-- A message which starts with a fixed text is not empty. -/
theorem append_ne_empty {first second : String} (some : first ≠ "") : first ++ second ≠ "" := by
  intro empty
  refine some (String.ext ?_)
  have both := congrArg String.toList empty
  simp only [String.toList_append, String.toList_empty, List.append_eq_nil_iff] at both
  simpa using both.1

section Inventory

variable [EzoDriver]

/-- Of the exchanges of a startup only the probes are startup probes. -/
theorem mem_probes_of_mem {config : ProviderConfig} {probes : List StartupProbe}
    (ids : (config.devices.map DeviceSpec.id).Nodup)
    (covered : probes.map Prod.fst = config.devices) {spec : DeviceSpec} {reply : SubmitReply}
    (configured : spec ∈ config.devices)
    (member : probeExchange config (spec, reply) ∈ probes.map (probeExchange config)) :
    (spec, reply) ∈ probes := by
  obtain ⟨⟨other, answer⟩, probed, same⟩ := List.mem_map.mp member
  have listed : other ∈ config.devices := by
    rw [← covered]
    exact List.mem_map_of_mem (f := Prod.fst) probed
  injection same with op result
  injection op with name
  have id : other.id = spec.id := by simpa using name
  obtain rfl := List.inj_on_of_nodup_map ids listed configured id
  obtain rfl : answer = reply := result
  exact probed

theorem not_serves_probe {config : ProviderConfig} {probe : StartupProbe} :
    ¬ (probeExchange config probe).1.Serves := fun serves => serves probe.1.id rfl

theorem exclusionReason_ne_empty {probe : StartupProbe}
    (explains : probe.2.status.isOk = false → probe.2.status.message ≠ "") :
    exclusionReason probe ≠ "" := by
  rw [exclusionReason]
  split
  · exact append_ne_empty (append_ne_empty (append_ne_empty (by simp)))
  · next failed => exact explains (by simpa using failed)

/-! ## What the exits leave -/

section Exits

variable {config : ProviderConfig} {before : CallerTrace}

/-- A trace without probes and with no device active says the same of every device. -/
theorem active_of_unprobed {trace : CallerTrace} {state : RuntimeState}
    (none : state.activeDevices = []) (unprobed : ∀ probe, probeExchange config probe ∉ trace) :
    ∀ spec ∈ config.devices, spec ∈ activeSpecs state ↔
      ∃ reply, probeExchange config (spec, reply) ∈ trace ∧ probeAccepts (spec, reply) = true := by
  intro spec _
  simp [activeSpecs, none, unprobed]

theorem inventory_of_unmet [ProviderSdk] {state found : RuntimeState}
    (configured : state.config = config)
    (blank : state.activeDevices = [] ∧ state.excludedDevices = [] ∧ state.ready = false)
    (serves : ∀ exchange ∈ before, exchange.1.Serves) :
    Inventory config (before ++ [⟨.locked fun _ => unmetState state, found⟩]) (unmetState state) := by
  have active : (unmetState state).activeDevices = [] := blank.1
  have excluded : excludedSpecs (unmetState state) = config.devices := by
    simp [excludedSpecs, unmetState, configured, Function.comp_def]
  refine ⟨?_, ?_, ?_, active_of_unprobed active ?_, ?_, ?_⟩
  · rw [excluded, activeSpecs, active]
    exact .refl _
  · simp [activeSpecs, active]
  · rw [excluded]
  · intro probe member
    rcases List.mem_append.mp member with member | member
    · exact not_mem_of_serves serves not_serves_probe member
    · have same := congrArg Sigma.fst (List.mem_singleton.mp member)
      cases same
  · intro entry member
    obtain ⟨_, _, rfl⟩ := List.mem_map.mp member
    exact append_ne_empty (by simp)
  · simp [unmetState, blank.1, blank.2.2]

theorem inventory_of_unstarted_iff {state : RuntimeState} {status : Status} {trace : CallerTrace}
    (blank : state.activeDevices = [] ∧ state.excludedDevices = [] ∧ state.ready = false)
    (unprobed : ∀ probe, probeExchange config probe ∉ trace) :
    Inventory config trace (unstartedState state status) ↔ config.devices = [] := by
  have active : (unstartedState state status).activeDevices = [] := blank.1
  have excluded : (unstartedState state status).excludedDevices = [] := blank.2.1
  constructor
  · intro inventory
    have once := inventory.once
    rw [activeSpecs, excludedSpecs, active, excluded] at once
    exact once.symm.eq_nil
  · intro none
    refine ⟨?_, ?_, ?_, active_of_unprobed active unprobed, ?_, ?_⟩
    · rw [activeSpecs, excludedSpecs, active, excluded, none]
      exact .refl _
    · simp [activeSpecs, active]
    · simp [excludedSpecs, excluded]
    · simp [excluded]
    · simp [unstartedState, blank.1, blank.2.2]

/-- The probes of a startup split the configured devices. -/
theorem inventory_of_probes {state : RuntimeState} {probes : List StartupProbe}
    {trace : CallerTrace} (covered : probes.map Prod.fst = config.devices)
    (probed : ∀ spec ∈ config.devices, ∀ reply,
      probeExchange config (spec, reply) ∈ trace ↔ (spec, reply) ∈ probes)
    (explains : ExplainsFailures config trace)
    (active : activeSpecs state = (probes.filter probeAccepts).map Prod.fst)
    (excluded : state.excludedDevices = (probes.filter fun probe => !probeAccepts probe).map
      fun probe => ⟨probe.1, exclusionReason probe⟩)
    (ready : state.ready = true ↔ state.activeDevices ≠ []) : Inventory config trace state := by
  have excludedSpecs : excludedSpecs state =
      (probes.filter fun probe => !probeAccepts probe).map Prod.fst := by
    simp [excludedSpecs, excluded, Function.comp_def]
  refine ⟨?_, ?_, ?_, ?_, ?_, ready⟩
  · rw [active, excludedSpecs, ← List.map_append, ← covered]
    exact (List.filter_append_perm probeAccepts probes).map Prod.fst
  · rw [active, ← covered]
    exact List.filter_sublist.map _
  · rw [excludedSpecs, ← covered]
    exact List.filter_sublist.map _
  · intro spec listed
    rw [active]
    constructor
    · intro member
      obtain ⟨⟨_, reply⟩, chosen, rfl⟩ := List.mem_map.mp member
      obtain ⟨there, accepts⟩ := List.mem_filter.mp chosen
      exact ⟨reply, (probed _ listed reply).mpr there, accepts⟩
    · rintro ⟨reply, member, accepts⟩
      have there := (probed spec listed reply).mp member
      exact List.mem_map.mpr ⟨(spec, reply), List.mem_filter.mpr ⟨there, accepts⟩, rfl⟩
  · intro entry member
    rw [excluded] at member
    obtain ⟨probe, chosen, rfl⟩ := List.mem_map.mp member
    have there := (List.mem_filter.mp chosen).1
    have listed : probe.1 ∈ config.devices := by
      rw [← covered]
      exact List.mem_map_of_mem there
    exact exclusionReason_ne_empty fun failed =>
      explains probe.1 probe.2 ((probed probe.1 listed probe.2).mpr there) failed

end Exits

/-! ## The reads after the inventory is published -/

section Rounds

variable [DecimalText] {submits : Submits} {world world' : World}

/-- No round excludes a device or changes whether the provider is ready. -/
theorem RoundStep.excluded {round : Round} (step : RoundStep submits world round world') :
    world'.state.excludedDevices = world.state.excludedDevices ∧
      world'.state.ready = world.state.ready := by
  cases step <;> exact ⟨rfl, rfl⟩

theorem Through.excluded {allowed : Round → Prop}
    (through : Through submits allowed world world') :
    world'.state.excludedDevices = world.state.excludedDevices ∧
      world'.state.ready = world.state.ready := by
  let same : World → Prop := fun later =>
    later.state.excludedDevices = world.state.excludedDevices ∧
      later.state.ready = world.state.ready
  refine @Through.maintains _ _ _ _ _ _ same ?_ through ⟨rfl, rfl⟩
  intro before round after _ earlier step
  exact ⟨step.excluded.1.trans earlier.1, step.excluded.2.trans earlier.2⟩

end Rounds

/-- When `initialize` returns, the inventory is complete exactly if the executor started,
or was not to be started, or there is no device to list. -/
theorem inventory_iff [DecimalText] [ProviderSdk] {submits : Submits} {config : ProviderConfig}
    {trace : CallerTrace} {world world' : World}
    (ids : (config.devices.map DeviceSpec.id).Nodup)
    (run : (initializeRuntime config).Runs trace ())
    (path : (World.environment submits).Path world trace world')
    (explains : ExplainsFailures config trace) :
    Inventory config trace world'.state ↔ ¬ StartFails config trace ∨ config.devices = [] := by
  cases startupRun_of_runs run with
  | @unmet before state found configured blank serves =>
      obtain ⟨_, _, publishing⟩ := path_append_iff.mp path
      obtain ⟨_, ⟨_, rfl⟩, final⟩ := path_cons_iff.mp publishing
      obtain rfl := path_nil_iff.mp final
      have started : ¬ StartFails config
          (before ++ [⟨.locked fun _ => unmetState state, found⟩]) := by
        rintro ⟨status, member, _⟩
        rcases List.mem_append.mp member with member | member
        · exact not_mem_of_serves serves (by exact id) member
        · have same := congrArg Sigma.fst (List.mem_singleton.mp member)
          cases same
      exact iff_of_true (inventory_of_unmet configured blank serves) (.inl started)
  | @unstarted before state found status configured blank serves failed =>
      obtain ⟨_, _, starting⟩ := path_append_iff.mp path
      obtain ⟨_, _, publishing⟩ := path_cons_iff.mp starting
      obtain ⟨_, ⟨_, rfl⟩, final⟩ := path_cons_iff.mp publishing
      obtain rfl := path_nil_iff.mp final
      have fails : StartFails config (before ++ [⟨.startExecutor config, status⟩,
          ⟨.locked fun _ => unstartedState state status, found⟩]) := ⟨status, by simp, failed⟩
      rw [inventory_of_unstarted_iff blank]
      · simp [fails]
      · intro probe member
        rcases List.mem_append.mp member with member | member
        · exact not_mem_of_serves serves not_serves_probe member
        · rcases List.mem_cons.mp member with same | same
          · cases congrArg Sigma.fst same
          · cases congrArg Sigma.fst (List.mem_singleton.mp same)
  | @started before clock reads state found status probes readyAt configured blank serves ok
      covered timed reading =>
      obtain ⟨_, _, starting⟩ := path_append_iff.mp path
      obtain ⟨_, _, probing⟩ := path_cons_iff.mp starting
      obtain ⟨_, _, timing⟩ := path_append_iff.mp probing
      obtain ⟨_, _, publishing⟩ := path_append_iff.mp timing
      obtain ⟨published, ⟨_, rfl⟩, readPath⟩ := path_cons_iff.mp publishing
      have through := through_of_startupReadsOf ⟨reads, reading, readPath⟩
      obtain ⟨excluded, ready⟩ := through.excluded
      have specs := through.specs
      -- Past what serves there are only the start and the probes.
      have beyond : ∀ {exchange : Exchange CallerOp CallerOp.Result}, ¬ exchange.1.Serves →
          exchange ∈ before ++ ⟨.startExecutor config, status⟩ ::
            (probes.map (probeExchange config) ++ (clock ++
              ⟨.locked fun _ => startedState (admitAll state probes) readyAt, found⟩ :: reads)) →
          exchange = ⟨.startExecutor config, status⟩ ∨
            exchange ∈ probes.map (probeExchange config) := by
        intro exchange not member
        simp only [List.mem_append, List.mem_cons] at member
        rcases member with early | same | probe | clocked | locked | read
        · exact absurd early (not_mem_of_serves serves not)
        · exact .inl same
        · exact .inr probe
        · exact absurd (by rw [timed _ clocked]; trivial) not
        · exact absurd (by rw [locked]; trivial) not
        · exact absurd (((serves_startupReadsOf _).advances reading).1 _ read) not
      refine iff_of_true ?_ (.inl ?_)
      rotate_left
      · rintro ⟨other, member, failed⟩
        rcases beyond (by exact id) member with same | probe
        · cases same
          simp [failed] at ok
        · obtain ⟨_, _, same⟩ := List.mem_map.mp probe
          cases congrArg Sigma.fst same
      have published : (startedState (admitAll state probes) readyAt).activeDevices =
          (probes.filter probeAccepts).map fun probe =>
            activeDevice probe.1 probe.2.outputs.info := by
        rw [activeDevices_startedState, admitAll_eq, blank.1, List.nil_append]
      refine inventory_of_probes covered ?_ explains ?_ ?_ ?_
      · intro spec listed reply
        constructor
        · intro member
          rcases beyond not_serves_probe member with same | probe
          · cases congrArg Sigma.fst same
          · exact mem_probes_of_mem ids covered listed probe
        · intro probed
          exact List.mem_append_right _ (List.mem_cons_of_mem _
            (List.mem_append_left _ (List.mem_map_of_mem (f := probeExchange config) probed)))
      · rw [activeSpecs, specs]
        dsimp only
        rw [published, List.map_map]
        rfl
      · rw [excluded]
        dsimp only
        rw [excludedDevices_startedState, admitAll_eq, blank.2.1, List.nil_append]
      · have same : world'.state.activeDevices = [] ↔
            (startedState (admitAll state probes) readyAt).activeDevices = [] := by
          rw [← List.map_eq_nil_iff (f := ActiveDevice.spec), specs, List.map_eq_nil_iff]
        rw [ready, Ne, same, activeDevices_startedState]
        exact ready_startedState_iff _ _

end Inventory

section Canned

open CannedBus CannedProvider

/-- The check of the two assumptions on a trace: statuses of failed submissions carry a
message, and the executor has not failed to start. -/
def explained : Exchange CallerOp CallerOp.Result → Bool
  | ⟨.submit .., reply⟩ => reply.status.isOk || reply.status.message ≠ ""
  | _ => true

theorem explainsFailures_of_all {config : ProviderConfig} {trace : CallerTrace}
    (all : trace.all explained = true) : ExplainsFailures config trace := by
  intro spec reply member failed
  have checked := List.all_eq_true.mp all _ member
  simpa [explained, probeExchange, failed] using checked

def startsWell : Exchange CallerOp CallerOp.Result → Bool
  | ⟨.startExecutor _, status⟩ => status.isOk
  | _ => true

theorem inventory_iff_canned :
    let played := play (products .ph fun _ => false) (initializeRuntime (oneDevice .ph))
      { line := { bus := fun _ => { holding := defaults, powerUp := defaults } } }
    Inventory (oneDevice .ph) played.trace played.final.state := by
  intro played
  refine (inventory_iff (valid_oneDevice .ph).ids (play_runs _ _ _)
    (play_path (CannedProvider.faithful (products .ph fun _ => false)) _ _)
    (explainsFailures_of_all (by decide +kernel))).mpr (.inl ?_)
  rintro ⟨status, member, failed⟩
  have well : played.trace.all startsWell = true := by decide +kernel
  have ok : status.isOk = true := List.all_eq_true.mp well _ member
  simp [failed] at ok

/-- The canned world on a bus which cannot be opened. -/
def unstartedResponder : Responder CallerOp CallerOp.Result World where
  respond world
    | .startExecutor _ =>
        (makeStatus .unavailable "cannot open the bus",
          { world with line := { world.line with running := false } })
    | op => respond (products .ph fun _ => false) world op

theorem faithful_unstarted (world : World) (op : CallerOp) :
    (World.environment Line.Submitted).Answers world op (unstartedResponder.respond world op).1
      (unstartedResponder.respond world op).2 := by
  cases op with
  | startExecutor config => rfl
  | _ => exact CannedProvider.faithful (products .ph fun _ => false) world _

/-- When the executor does not start, a configured device is neither active nor excluded. -/
theorem unstarted_device_unlisted :
    let played := (initializeRuntime (oneDevice .ph)).play unstartedResponder
      { line := { bus := fun _ => { holding := defaults, powerUp := defaults } } }
    (oneDevice .ph).Valid ∧
      (initializeRuntime (oneDevice .ph)).Runs played.trace () ∧
      (World.environment Line.Submitted).Path
        { line := { bus := fun _ => { holding := defaults, powerUp := defaults } } } played.trace
        played.final ∧
      ExplainsFailures (oneDevice .ph) played.trace ∧
      activeSpecs played.final.state ++ excludedSpecs played.final.state = [] ∧
      ¬ Inventory (oneDevice .ph) played.trace played.final.state := by
  intro played
  have unlisted : activeSpecs played.final.state ++ excludedSpecs played.final.state = [] := by
    decide +kernel
  refine ⟨valid_oneDevice .ph, play_runs _ _ _, play_path faithful_unstarted _ _,
    explainsFailures_of_all (by decide +kernel), unlisted, fun inventory => ?_⟩
  have once := inventory.once
  rw [unlisted] at once
  cases once.symm.eq_nil

end Canned

end EzoProvider.Runtime
