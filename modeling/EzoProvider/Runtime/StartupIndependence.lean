import EzoProvider.Runtime.TimedStartup

/-!
# Whether a device depends on the others at startup

A probe left running past its deadline delays the next one, whose deadline counts
from its submission all the same. When that keeps a device from being admitted,
and when it does not.
-/

namespace EzoProvider.Runtime

open Interaction Program Devices Environment

/-- The host requirements `initialize` goes by. -/
def requirementsOf (config : ProviderConfig) (requirements : List Requirement) :
    List Requirement :=
  if isMockMode config then [] else requirements

section Startup

variable {bus : SeparateBus} {requirements : List Requirement} {world world' : TimedWorld}
  {config : ProviderConfig}

theorem completes_checkHost {found : List Requirement}
    (completes : Completes (TimedWorld.environment bus requirements) (checkHost config) world found
      world') : found = requirementsOf config requirements := by
  rw [checkHost] at completes
  rw [requirementsOf]
  split at completes
  · next mock =>
      rw [if_pos mock]
      exact (completes_done_iff.mp completes).1
  · next real =>
      rw [if_neg real]
      exact (completes_ask_iff.mp completes).1

theorem state_of_publish {state : RuntimeState}
    (completes : Completes (TimedWorld.environment bus requirements) (publish state) world ()
      world') : world'.state = state := by
  obtain ⟨_, _, locked, final⟩ := completes_bind_iff.mp completes
  obtain ⟨_, rfl⟩ := completes_done_iff.mp final
  rw [(completes_ask_iff.mp locked).2]

theorem lists_of_answers {op : CallerOp} {answer : op.Result} (keeps : op.KeepsLists)
    (answers : (TimedWorld.environment bus requirements).Answers world op answer world') :
    activeSpecs world'.state = activeSpecs world.state ∧
      excludedSpecs world'.state = excludedSpecs world.state := by
  cases op with
  | locked change =>
      obtain ⟨_, rfl⟩ := answers
      exact keeps world.state
  | submit name timeoutMs job =>
      have submitted : world.Submitted bus name timeoutMs job answer world' := answers
      cases submitted <;> exact ⟨rfl, rfl⟩
  | checkHost _ | startExecutor _ =>
      obtain ⟨_, rfl⟩ := answers
      exact ⟨rfl, rfl⟩
  | systemNow | steadyNow | warn _ | stopExecutor =>
      obtain rfl : world' = _ := answers
      exact ⟨rfl, rfl⟩

theorem lists_of_path {trace : CallerTrace}
    (keeps : ∀ exchange ∈ trace, exchange.1.KeepsLists)
    (path : (TimedWorld.environment bus requirements).Path world trace world') :
    activeSpecs world'.state = activeSpecs world.state ∧
      excludedSpecs world'.state = excludedSpecs world.state := by
  induction path with
  | nil => exact ⟨rfl, rfl⟩
  | cons answer _ ih =>
      obtain ⟨active, excluded⟩ := lists_of_answers (keeps _ List.mem_cons_self) answer
      obtain ⟨activeLater, excludedLater⟩ := ih fun exchange member =>
        keeps exchange (List.mem_cons_of_mem _ member)
      exact ⟨activeLater.trans active, excludedLater.trans excluded⟩

variable [EzoDriver]

/-- Past the host check and the start, the probes are made in order and split the
devices for good. -/
theorem lists_of_probeAndPublish {state : RuntimeState}
    (blank : state.activeDevices = [] ∧ state.excludedDevices = [])
    (completes : Completes (TimedWorld.environment bus requirements) (probeAndPublish state) world
      () world') :
    ∃ (probes : List StartupProbe) (probed : TimedWorld),
      probes.map Prod.fst = state.config.devices ∧
      (TimedWorld.environment bus requirements).Path world
        (probes.map (probeExchange state.config)) probed ∧
      activeSpecs world'.state = (probes.filter probeAccepts).map Prod.fst ∧
      excludedSpecs world'.state =
        (probes.filter fun probe => !probeAccepts probe).map Prod.fst := by
  obtain ⟨trace, run, path⟩ := completes
  obtain ⟨probes, clock, readyAt, found, reads, covered, timed, rfl, reading⟩ :=
    runs_probeAndPublish run
  obtain ⟨probed, probing, timing⟩ := path_append_iff.mp path
  obtain ⟨_, _, publishing⟩ := path_append_iff.mp timing
  obtain ⟨published, ⟨_, rfl⟩, readPath⟩ := path_cons_iff.mp publishing
  have keeps := ((keepsLists_startupReadsOf _).advances reading).1
  obtain ⟨active, excluded⟩ := lists_of_path keeps readPath
  refine ⟨probes, probed, covered, probing, ?_, ?_⟩
  · rw [active, activeSpecs]
    dsimp only
    rw [activeDevices_startedState, admitAll_eq, blank.1, List.nil_append, List.map_map]
    rfl
  · rw [excluded, excludedSpecs]
    dsimp only
    rw [excludedDevices_startedState, admitAll_eq, blank.2, List.nil_append, List.map_map]
    rfl

/-- The exits of `initialize` on a bus which opens. -/
theorem exits_of_initialize [ProviderSdk]
    (completes : Completes (TimedWorld.environment bus requirements) (initializeRuntime config)
      world () world') :
    if ProviderSdk.exitCode (requirementsOf config requirements) = 0 then
      ∃ (start : TimedWorld) (state : RuntimeState), start.running = true ∧
        start.free = start.now ∧ (∀ address, start.asked address = []) ∧ state.config = config ∧
        (state.activeDevices = [] ∧ state.excludedDevices = []) ∧
        Completes (TimedWorld.environment bus requirements) (probeAndPublish state) start () world'
    else
      activeSpecs world'.state = [] ∧ excludedSpecs world'.state = config.devices := by
  obtain ⟨_, _, _, afterReset⟩ := completes_bind_iff.mp completes
  obtain ⟨_, _, _, afterWarning⟩ := completes_bind_iff.mp afterReset
  obtain ⟨startedAt, _, _, afterClock⟩ := completes_bind_iff.mp afterWarning
  obtain ⟨hostRequirements, _, checked, rest⟩ := completes_bind_iff.mp afterClock
  obtain rfl := completes_checkHost checked
  dsimp only at rest
  split at rest
  · next unmet =>
      rw [if_neg unmet, state_of_publish rest]
      exact ⟨rfl, by simp [excludedSpecs, unmetState, Function.comp_def]⟩
  · next met =>
      rw [if_pos (not_not.mp met)]
      obtain ⟨status, start, starts, started⟩ := completes_bind_iff.mp rest
      obtain ⟨rfl, rfl⟩ := completes_ask_iff.mp starts
      rw [if_neg (by decide)] at started
      exact ⟨_, _, rfl, rfl, fun _ => rfl, rfl, ⟨rfl, rfl⟩, started⟩

end Startup

/-! ## One device -/

section Device

theorem takeWhile_ne_append {before after : List DeviceSpec} {spec : DeviceSpec}
    (fresh : spec ∉ before) : (before ++ spec :: after).takeWhile (· ≠ spec) = before := by
  rw [List.takeWhile_append_of_pos, List.takeWhile_cons_of_neg, List.append_nil]
  · simp
  · intro other member
    have different : other ≠ spec := by
      rintro rfl
      exact fresh member
    simpa using different

/-- Of probes with distinct devices, a filter keeps a device if it keeps its probe. -/
theorem mem_filter_probes_iff {probes : List StartupProbe} {probe : StartupProbe}
    {keeps : StartupProbe → Bool} (distinct : (probes.map Prod.fst).Nodup)
    (member : probe ∈ probes) :
    probe.1 ∈ (probes.filter keeps).map Prod.fst ↔ keeps probe = true := by
  constructor
  · intro kept
    obtain ⟨other, chosen, same⟩ := List.mem_map.mp kept
    obtain ⟨there, keeps⟩ := List.mem_filter.mp chosen
    obtain rfl := List.inj_on_of_nodup_map distinct there member same
    exact keeps
  · intro keeps
    exact List.mem_map_of_mem (List.mem_filter.mpr ⟨member, keeps⟩)

variable [EzoDriver]

/-- The probes of the devices before it leave a device the time its own takes. -/
def Timely (config : ProviderConfig) (bus : SeparateBus) (spec : DeviceSpec) : Prop :=
  overrun (probeWindow config) 0 ((config.devices.takeWhile (· ≠ spec)).map (probeTime bus)) +
    probeTime bus spec < probeWindow config

/-- The probe of a device which has the bus to itself makes it active. -/
def AcceptedAlone (bus : SeparateBus) (spec : DeviceSpec) : Prop :=
  probeAccepts (spec, ownReply bus spec) = true

variable [ProviderSdk] {config : ProviderConfig} {bus : SeparateBus}
  {requirements : List Requirement} {world world' : TimedWorld} {spec : DeviceSpec}

/-- On a host which meets its requirements a device is active if its probe makes it so
and is in time; it is excluded otherwise. -/
theorem listed_iff_initialized (valid : config.Valid) (configured : spec ∈ config.devices)
    (met : ProviderSdk.exitCode (requirementsOf config requirements) = 0)
    (completes : Completes (TimedWorld.environment bus requirements) (initializeRuntime config)
      world () world') :
    (spec ∈ activeSpecs world'.state ↔ Timely config bus spec ∧ AcceptedAlone bus spec) ∧
      (spec ∈ excludedSpecs world'.state ↔ ¬ (Timely config bus spec ∧ AcceptedAlone bus spec)) := by
  have exits := exits_of_initialize completes
  rw [if_pos met] at exits
  obtain ⟨start, state, running, idle, fresh, rfl, blank, probing⟩ := exits
  obtain ⟨probes, probed, covered, path, active, excluded⟩ :=
    lists_of_probeAndPublish blank probing
  obtain ⟨before, after, split, unseen⟩ := List.eq_append_cons_of_mem configured
  rw [split] at covered
  obtain ⟨front, rest, rfl, rfl, tail⟩ := List.map_eq_append_iff.mp covered
  obtain ⟨probe, back, rfl, rfl, rfl⟩ := List.map_eq_cons_iff.mp tail
  have distinct : ((front ++ probe :: back).map Prod.fst).Nodup := by
    rw [covered, ← split]
    exact valid.ids.of_map
  have apart : ((front ++ probe :: back).map fun probe => probe.1.address).Nodup := by
    have addresses := valid.addresses
    rw [split, ← covered, List.map_map] at addresses
    exact addresses
  have accepts := accepts_iff_of_path running (fun _ _ => fresh _) apart path rfl
  have timely : Timely state.config bus probe.1 ↔
      overrun (probeWindow state.config) (start.free - start.now)
        (front.map fun earlier => probeTime bus earlier.1) + probeTime bus probe.1 <
        probeWindow state.config := by
    rw [Timely, split, takeWhile_ne_append unseen, idle, Nat.sub_self, List.map_map]
    rfl
  rw [← timely] at accepts
  have member : probe ∈ front ++ probe :: back := by simp
  rw [active, excluded, mem_filter_probes_iff distinct member,
    mem_filter_probes_iff distinct member, Bool.not_eq_true', ← Bool.not_eq_true, accepts]
  exact ⟨Iff.rfl, Iff.rfl⟩

/-- A host which does not meet its requirements has every device excluded. -/
theorem excluded_of_unmet (configured : spec ∈ config.devices)
    (unmet : ProviderSdk.exitCode (requirementsOf config requirements) ≠ 0)
    (completes : Completes (TimedWorld.environment bus requirements) (initializeRuntime config)
      world () world') : spec ∈ excludedSpecs world'.state := by
  have exits := exits_of_initialize completes
  rw [if_neg unmet] at exits
  rw [exits.2]
  exact configured

/-- A device is on the same list on two buses it is the same on, exactly if the host does
not meet its requirements, or the device is not accepted anyway, or it has its time on
both buses or on neither. -/
theorem startup_independent_iff {other : SeparateBus} {world₂ world₂' : TimedWorld}
    (valid : config.Valid) (configured : spec ∈ config.devices)
    (agree : bus spec.address = other spec.address)
    (one : Completes (TimedWorld.environment bus requirements) (initializeRuntime config) world ()
      world')
    (two : Completes (TimedWorld.environment other requirements) (initializeRuntime config) world₂ ()
      world₂') :
    ((spec ∈ activeSpecs world'.state ∧ spec ∈ activeSpecs world₂'.state) ∨
        (spec ∈ excludedSpecs world'.state ∧ spec ∈ excludedSpecs world₂'.state)) ↔
      ProviderSdk.exitCode (requirementsOf config requirements) ≠ 0 ∨ ¬ AcceptedAlone bus spec ∨
        (Timely config bus spec ↔ Timely config other spec) := by
  by_cases met : ProviderSdk.exitCode (requirementsOf config requirements) = 0
  · have same : AcceptedAlone bus spec ↔ AcceptedAlone other spec := by
      rw [AcceptedAlone, AcceptedAlone, (own_congr agree).2]
    obtain ⟨active, excluded⟩ := listed_iff_initialized valid configured met one
    obtain ⟨active₂, excluded₂⟩ := listed_iff_initialized valid configured met two
    rw [active, excluded, active₂, excluded₂, ← same]
    by_cases accepted : AcceptedAlone bus spec
    · simp only [accepted, met, and_true, ne_eq, not_true, false_or]
      exact iff_iff_and_or_not_and_not.symm
    · simp only [accepted, and_false, not_false_iff, and_self, or_true, true_or]
  · have excluded := excluded_of_unmet configured met one
    have excluded₂ := excluded_of_unmet configured met two
    exact iff_of_true (.inr ⟨excluded, excluded₂⟩) (.inl met)

end Device

/-! ## A slow device in front of a healthy one -/

namespace TimedWorld

/-- One way the operations of a caller go. -/
def respond (bus : SeparateBus) (requirements : List Requirement) (world : TimedWorld) :
    (op : CallerOp) → op.Result × TimedWorld
  | .locked change => (world.state, { world with state := change world.state })
  | .submit name timeoutMs job =>
      let execution := world.execution bus job
      if world.running = false then
        ({ status := makeStatus .unavailable "i2c executor is not running" }, world)
      else if timeoutMs ≤ 0 then (replyOf execution, world.executed execution execution.final.time)
      else if world.deadline timeoutMs ≤ world.start then
        (deadlineReply name {},
          { world with now := world.deadline timeoutMs, free := world.start })
      else if world.deadline timeoutMs ≤ execution.final.time then
        (deadlineReply name (outputsOf []), world.executed execution (world.deadline timeoutMs))
      else (replyOf execution, world.executed execution execution.final.time)
  | .checkHost _ => (requirements, world)
  | .startExecutor _ =>
      (.success, { world with running := true, free := world.now, asked := fun _ => [] })
  | .stopExecutor => ((), { world with running := false, now := world.start })
  | .systemNow => (0, world)
  | .steadyNow => (world.now, world)
  | .warn _ => ((), world)

theorem faithful_respond (bus : SeparateBus) (requirements : List Requirement)
    (world : TimedWorld) (op : CallerOp) :
    (environment bus requirements).Answers world op (respond bus requirements world op).1
      (respond bus requirements world op).2 := by
  cases op with
  | submit name timeoutMs job =>
      show Submitted bus world name timeoutMs job _ _
      simp only [respond]
      by_cases stopped : world.running = false
      · rw [if_pos stopped]
        exact .refused stopped
      rw [if_neg stopped]
      have running : world.running = true := by simpa using stopped
      by_cases untimed : timeoutMs ≤ 0
      · rw [if_pos untimed]
        exact .finished running fun timed => by omega
      rw [if_neg untimed]
      by_cases late : world.deadline timeoutMs ≤ world.start
      · rw [if_pos late]
        exact .skipped running (by omega) late
      rw [if_neg late]
      by_cases overdue : world.deadline timeoutMs ≤ (world.execution bus job).final.time
      · rw [if_pos overdue]
        exact .expired running (by omega) (by omega) overdue (List.nil_append _).symm
      · rw [if_neg overdue]
        exact .finished running fun _ => by omega
  | locked _ | startExecutor _ | checkHost _ => exact ⟨rfl, rfl⟩
  | systemNow | steadyNow | warn _ | stopExecutor => rfl

/-- Every startup on separate addresses comes to an end. -/
theorem exists_completes [EzoDriver] [ProviderSdk] (bus : SeparateBus)
    (requirements : List Requirement) (config : ProviderConfig) (world : TimedWorld) :
    ∃ world', Completes (environment bus requirements) (initializeRuntime config) world () world' := by
  let responder : Responder CallerOp CallerOp.Result TimedWorld := ⟨respond bus requirements⟩
  exact ⟨_, @play_completes _ _ _ _ _ responder (faithful_respond bus requirements) _ _⟩

end TimedWorld

section Canned

open CannedBus CannedProvider

/-- A pH device which takes so long over its answers. -/
def phPart (microseconds : Nat) : Part JobOp JobOp.Result where
  answer _
    | .bind _ => .ok ()
    | .send _ _ => .ok 300
    | .readInfo _ => .ok { productId := .ph }
    | .delay _ | .store _ => ()
    | .readResponse _ | .readOutputConfig _ | .readValue _ | .readOutputs _ _
    | .readCalibrationStatus _ | .readTemperature _ | .readSalinity _ | .readPressure _ =>
        .error .transport
  takes _
    | .readInfo _ => microseconds
    | _ => 0

/-- A bus of pH devices, the one at 0x61 taking so long over its answers. -/
def phBus (microseconds : Nat) : SeparateBus := fun address =>
  phPart (if address = 0x61 then microseconds else 0)

def slowInFront : ProviderConfig where
  devices := [{ id := "slow", address := 0x61 }, { id := "healthy", address := 0x62 }]

theorem valid_slowInFront : slowInFront.Valid := by
  refine ⟨by decide, by decide, ?_⟩
  simp [slowInFront]

/-- The healthy device has its time behind a quick one, and not behind one whose probe takes
almost twice its deadline. -/
theorem timely_slowInFront :
    Timely slowInFront (phBus 0) { id := "healthy", address := 0x62 } ∧
      ¬ Timely slowInFront (phBus 3600000) { id := "healthy", address := 0x62 } ∧
      AcceptedAlone (phBus 0) { id := "healthy", address := 0x62 } ∧
      probeTime (phBus 0) { id := "healthy", address := 0x62 } < probeWindow slowInFront := by
  unfold Timely AcceptedAlone
  decide +kernel

/-- The healthy device is active behind the quick one and excluded behind the slow one. -/
theorem startup_independent_iff_canned :
    ∃ world world₂ : TimedWorld,
      ¬ (({ id := "healthy", address := 0x62 } ∈ activeSpecs world.state ∧
            { id := "healthy", address := 0x62 } ∈ activeSpecs world₂.state) ∨
          ({ id := "healthy", address := 0x62 } ∈ excludedSpecs world.state ∧
            { id := "healthy", address := 0x62 } ∈ excludedSpecs world₂.state)) := by
  obtain ⟨world, one⟩ := TimedWorld.exists_completes (phBus 0) [] slowInFront {}
  obtain ⟨world₂, two⟩ := TimedWorld.exists_completes (phBus 3600000) [] slowInFront {}
  obtain ⟨timely, late, accepted, _⟩ := timely_slowInFront
  refine ⟨world, world₂, ?_⟩
  rw [startup_independent_iff valid_slowInFront (by decide) (by rfl) one two]
  rintro (unmet | rejected | same)
  · exact unmet rfl
  · exact rejected accepted
  · exact late (same.mp timely)

/-- A device whose probe takes less than its deadline can be active or excluded as another
device on the bus is quick or slow. -/
theorem slow_device_hides_healthy :
    ¬ ∀ (config : ProviderConfig) (spec : DeviceSpec) (bus other : SeparateBus)
        (requirements : List Requirement) (world world' world₂ world₂' : TimedWorld),
        config.Valid → spec ∈ config.devices → bus spec.address = other spec.address →
        probeTime bus spec < probeWindow config →
        Completes (TimedWorld.environment bus requirements) (initializeRuntime config) world ()
          world' →
        Completes (TimedWorld.environment other requirements) (initializeRuntime config) world₂ ()
          world₂' →
        (spec ∈ activeSpecs world'.state ∧ spec ∈ activeSpecs world₂'.state) ∨
          (spec ∈ excludedSpecs world'.state ∧ spec ∈ excludedSpecs world₂'.state) := by
  intro claimed
  obtain ⟨world, one⟩ := TimedWorld.exists_completes (phBus 0) [] slowInFront {}
  obtain ⟨world₂, two⟩ := TimedWorld.exists_completes (phBus 3600000) [] slowInFront {}
  obtain ⟨timely, late, accepted, quick⟩ := timely_slowInFront
  have configured : { id := "healthy", address := 0x62 } ∈ slowInFront.devices := by decide
  have active := (listed_iff_initialized valid_slowInFront configured rfl one).2
  have excluded := (listed_iff_initialized valid_slowInFront configured rfl two).1
  rcases claimed slowInFront _ (phBus 0) (phBus 3600000) [] {} world {} world₂ valid_slowInFront
    configured rfl quick one two with both | both
  · exact late (excluded.mp both.2).1
  · exact active.mp both.1 ⟨timely, accepted⟩

end Canned

end EzoProvider.Runtime
