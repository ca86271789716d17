import EzoProvider.Runtime.Provider
import EzoProvider.Runtime.StartupSpecs

/-!
# What holds of every reachable world

`Sound` is established by `initialize` and kept by every round: the devices are
told apart, the slots show what is cached, and the values set are values the
family takes.
-/

namespace EzoProvider.Runtime

open Interaction Program Devices TransitionSystem

variable [EzoDriver]

/-- What every round keeps, whatever the slots show. -/
structure World.WellFormed (world : World) : Prop where
  apart : world.state.Apart
  takes : ∀ {deviceId device}, world.state.find deviceId = some device →
    Takes device.spec.type device.compensationSet

/-- The invariant of a run. -/
structure World.Sound (world : World) : Prop extends world.WellFormed where
  level : ∀ {deviceId device}, world.state.find deviceId = some device → LevelShown device
  compensation : ∀ {deviceId device}, world.state.find deviceId = some device →
    CompensationShown device

/-- A device just admitted has nothing set and nothing read. -/
structure Fresh (device : ActiveDevice) : Prop where
  set : device.compensationSet = {}
  level : device.calibrationLevel = none

/-- The devices published are told apart as the configuration tells them. -/
theorem wellFormed_of_published {config : ProviderConfig} (valid : config.Valid)
    {world : World} {probes : List StartupProbe} (covered : probes.map Prod.fst = config.devices)
    (published : world.state.activeDevices = (probes.filter probeAccepts).map (fun probe =>
      activeDevice probe.1 probe.2.outputs.info)) :
    world.WellFormed ∧ ∀ {deviceId device}, world.state.find deviceId = some device →
      Fresh device := by
  have specs : world.state.activeDevices.map ActiveDevice.spec =
      (probes.filter probeAccepts).map Prod.fst := by
    rw [published, List.map_map]
    rfl
  have chosen : ((probes.filter probeAccepts).map Prod.fst).Sublist config.devices := by
    rw [← covered]
    exact List.filter_sublist.map _
  have fresh : ∀ {deviceId device}, world.state.find deviceId = some device → Fresh device := by
    intro deviceId device found
    have member := RuntimeState.mem_of_find found
    rw [published] at member
    obtain ⟨probe, _, rfl⟩ := List.mem_map.mp member
    exact ⟨rfl, rfl⟩
  refine ⟨⟨⟨?_, ?_⟩, fun found => ?_⟩, fresh⟩
  · rw [specs]
    exact valid.ids.sublist (chosen.map _)
  · rw [specs]
    exact valid.addresses.sublist (chosen.map _)
  · rw [(fresh found).set]
    exact fun _ => rfl

variable [DecimalText] {submits : Submits} {world world' : World} {round : Round}
  {deviceId : String}

/-- A property of the record of a device which every effect keeps. -/
theorem RoundStep.maintains {property : ActiveDevice → Prop}
    (step : RoundStep submits world round world') (apart : world.state.Apart)
    (kept : ∀ {device device'}, Effect deviceId device round device' → property device →
      property device')
    (holds : ∀ device, world.state.find deviceId = some device → property device)
    (device' : ActiveDevice) (found : world'.state.find deviceId = some device') :
    property device' := by
  obtain ⟨device, before, _⟩ := step.found apart found
  obtain ⟨_, after, effect⟩ := step.effect before
  cases after.symm.trans found
  exact kept effect (holds device before)

theorem RoundStep.wellFormed (step : RoundStep submits world round world')
    (formed : world.WellFormed) : world'.WellFormed where
  apart := step.apart formed.apart
  takes found :=
    step.maintains formed.apart (fun effect => effect.takes) (fun _ => formed.takes) _ found

theorem RoundStep.sound (step : RoundStep submits world round world') (sound : world.Sound) :
    world'.Sound where
  toWellFormed := step.wellFormed sound.toWellFormed
  level found := step.maintains sound.apart (fun effect => effect.levelShown)
    (fun _ => sound.level) _ found
  compensation found := step.maintains sound.apart (fun effect => effect.compensationShown)
    (fun _ => sound.compensation) _ found

/-! ## Startup -/

/-- The slots of a device, if it is found, show what is cached. -/
def World.Shows (world : World) (deviceId : String) : Prop :=
  ∀ device, world.state.find deviceId = some device →
    LevelShown device ∧ CompensationShown device

theorem RoundStep.shows (step : RoundStep submits world round world') (apart : world.state.Apart)
    (shows : world.Shows deviceId) : world'.Shows deviceId :=
  step.maintains apart (fun effect both => ⟨effect.levelShown both.1, effect.compensationShown both.2⟩)
    shows

/-- The rounds of startup. -/
def Round.Reads (round : Round) : Prop :=
  ∃ deviceId status, round = .sampled deviceId status ∨ round = .levelRead deviceId status ∨
    round = .checked deviceId status

theorem Through.wellFormed {allowed : Round → Prop}
    (through : Through submits allowed world world') (formed : world.WellFormed) :
    world'.WellFormed :=
  through.maintains (fun _ formed step => step.wellFormed formed) formed

theorem Through.specs {allowed : Round → Prop} (through : Through submits allowed world world') :
    world'.state.activeDevices.map ActiveDevice.spec =
      world.state.activeDevices.map ActiveDevice.spec := by
  let same : World → Prop := fun later =>
    later.state.activeDevices.map ActiveDevice.spec = world.state.activeDevices.map ActiveDevice.spec
  exact @Through.maintains _ _ _ _ _ _ same (fun _ before step => step.specs.trans before) through rfl

/-- A device is found as long as rounds go on, with its specification. -/
theorem Through.found {device : ActiveDevice} {allowed : Round → Prop}
    (through : Through submits allowed world world')
    (found : world.state.find deviceId = some device) :
    ∃ device', world'.state.find deviceId = some device' ∧ device'.spec = device.spec := by
  let there : World → Prop := fun later =>
    ∃ device', later.state.find deviceId = some device' ∧ device'.spec = device.spec
  refine @Through.maintains _ _ _ _ _ _ there ?_ through ⟨device, found, rfl⟩
  rintro before round after _ ⟨middle, foundMiddle, same⟩ step
  obtain ⟨last, foundLast, effect⟩ := step.effect foundMiddle
  exact ⟨last, foundLast, effect.kept.spec.trans same⟩

/-- A device found after some rounds was found before them. -/
theorem Through.foundBefore {device : ActiveDevice} {allowed : Round → Prop}
    (through : Through submits allowed world world') (formed : world.WellFormed)
    (found : world'.state.find deviceId = some device) :
    ∃ device', world.state.find deviceId = some device' ∧ device'.spec = device.spec :=
  formed.apart.found_of_specs through.specs found

theorem Through.shows {allowed : Round → Prop} (through : Through submits allowed world world')
    (formed : world.WellFormed) (shows : world.Shows deviceId) : world'.Shows deviceId := by
  let both : World → Prop := fun world => world.WellFormed ∧ world.Shows deviceId
  have kept : ∀ {world round world'}, allowed round → both world →
      RoundStep submits world round world' → both world' :=
    fun _ both step => ⟨step.wellFormed both.1, step.shows both.1.apart both.2⟩
  exact (through.maintains kept ⟨formed, shows⟩).2

/-- A level read leaves the level slot showing what is cached. -/
theorem levelShown_of_levelRun {status : Status} (apart : world.state.Apart)
    (run : LevelRun submits deviceId world status world') {device : ActiveDevice}
    (found : world'.state.find deviceId = some device) : LevelShown device := by
  cases run with
  | unknown missing => simp [missing] at found
  | @unsupported other foundOther none =>
      cases foundOther.symm.trans found
      exact levelShown_of_unsupported none
  | levelRead step =>
      obtain ⟨before, foundBefore, _⟩ := step.found apart found
      obtain ⟨after, foundAfter, effect⟩ := step.effect foundBefore
      cases foundAfter.symm.trans found
      cases effect with
      | levelRead => exact levelShown_recordCalibrationLevel _ _
      | elsewhere other => exact absurd rfl other

/-- A check leaves the compensation slots showing what is cached. -/
theorem compensationShown_of_checkRun {status : Status} (apart : world.state.Apart)
    (run : CheckRun submits deviceId world status world') {device : ActiveDevice}
    (found : world'.state.find deviceId = some device) : CompensationShown device := by
  cases run with
  | unknown missing => simp [missing] at found
  | @unsupported other foundOther none =>
      cases foundOther.symm.trans found
      exact compensationShown_of_unsupported none
  | checked step =>
      obtain ⟨before, foundBefore, _⟩ := step.found apart found
      obtain ⟨after, foundAfter, effect⟩ := step.effect foundBefore
      cases foundAfter.symm.trans found
      cases effect with
      | checked => exact compensationShown_recordCompensation _ _ _
      | elsewhere other => exact absurd rfl other

/-- The reads of one device at startup, one after the other. -/
theorem completes_of_startupReads
    (completes : Completes (World.environment submits) (startupReads deviceId) world () world') :
    ∃ refreshed level check sampled leveled,
      Completes (World.environment submits) (refreshDeviceSample deviceId) world refreshed sampled ∧
      Completes (World.environment submits) (refreshCalibrationLevel deviceId) sampled level leveled ∧
      Completes (World.environment submits) (checkCompensation deviceId) leveled check world' := by
  obtain ⟨refreshed, _, refresh, afterRefresh⟩ := completes_bind_iff.mp completes
  obtain ⟨_, sampled, warned, toLevel⟩ := completes_bind_iff.mp afterRefresh
  obtain rfl := completes_warnUnlessOk warned
  obtain ⟨level, _, levelRead, afterLevel⟩ := completes_bind_iff.mp toLevel
  obtain ⟨_, leveled, warnedLevel, toCheck⟩ := completes_bind_iff.mp afterLevel
  obtain rfl := completes_warnUnlessOk warnedLevel
  obtain ⟨check, _, checked, warnedCheck⟩ := completes_bind_iff.mp toCheck
  obtain rfl := completes_warnUnlessOk warnedCheck
  exact ⟨_, _, _, _, _, refresh, levelRead, checked⟩

theorem runs_of_startupReads
    (completes : Completes (World.environment submits) (startupReads deviceId) world () world') :
    ∃ refreshed level check sampled leveled, RefreshRun submits deviceId world refreshed sampled ∧
      LevelRun submits deviceId sampled level leveled ∧
      CheckRun submits deviceId leveled check world' := by
  obtain ⟨_, _, _, _, _, refresh, levelRead, checked⟩ := completes_of_startupReads completes
  exact ⟨_, _, _, _, _, refreshRun_of_completes refresh, levelRun_of_completes levelRead,
    checkRun_of_completes checked⟩

section StartupRuns

variable {sampled leveled : World} {status : Status}

theorem RefreshRun.reads (run : RefreshRun submits deviceId world status world') :
    Through submits Round.Reads world world' :=
  run.through (fun status => ⟨_, status, .inl rfl⟩) fun status => ⟨_, status, .inr (.inr rfl)⟩

theorem LevelRun.reads (run : LevelRun submits deviceId world status world') :
    Through submits Round.Reads world world' :=
  run.through fun status => ⟨_, status, .inr (.inl rfl)⟩

theorem CheckRun.reads (run : CheckRun submits deviceId world status world') :
    Through submits Round.Reads world world' :=
  run.through fun status => ⟨_, status, .inr (.inr rfl)⟩

end StartupRuns

theorem through_of_startupReads
    (completes : Completes (World.environment submits) (startupReads deviceId) world () world') :
    Through submits Round.Reads world world' := by
  obtain ⟨_, _, _, _, _, refresh, level, check⟩ := runs_of_startupReads completes
  exact (refresh.reads.trans level.reads).trans check.reads

theorem through_of_startupReadsOf {deviceIds : List String}
    (completes : Completes (World.environment submits) (startupReadsOf deviceIds) world ()
      world') : Through submits Round.Reads world world' := by
  induction deviceIds generalizing world with
  | nil =>
      obtain ⟨_, rfl⟩ := completes_done_iff.mp completes
      exact .refl
  | cons first rest ih =>
      obtain ⟨_, _, reads, later⟩ := completes_bind_iff.mp completes
      exact (through_of_startupReads reads).trans (ih later)

theorem shows_of_startupReads (formed : world.WellFormed)
    (completes : Completes (World.environment submits) (startupReads deviceId) world () world') :
    world'.Shows deviceId := by
  obtain ⟨_, _, _, sampled, leveled, refresh, level, check⟩ := runs_of_startupReads completes
  have sampledFormed := refresh.reads.wellFormed formed
  have leveledFormed := level.reads.wellFormed sampledFormed
  intro device found
  refine ⟨?_, compensationShown_of_checkRun leveledFormed.apart check found⟩
  have shown : ∀ device, leveled.state.find deviceId = some device → LevelShown device :=
    fun device found => levelShown_of_levelRun sampledFormed.apart level found
  cases check with
  | unknown missing => simp [missing] at found
  | unsupported => exact shown device found
  | checked step =>
      exact step.maintains leveledFormed.apart (fun effect => effect.levelShown) shown device found

theorem shows_of_startupReadsOf {deviceIds : List String} (formed : world.WellFormed)
    (completes : Completes (World.environment submits) (startupReadsOf deviceIds) world ()
      world') : ∀ deviceId ∈ deviceIds, world'.Shows deviceId := by
  induction deviceIds generalizing world with
  | nil => simp
  | cons first rest ih =>
      obtain ⟨_, middle, reads, later⟩ := completes_bind_iff.mp completes
      have middleFormed := (through_of_startupReads reads).wellFormed formed
      intro deviceId member
      rcases List.mem_cons.mp member with rfl | member
      · exact (through_of_startupReadsOf later).shows middleFormed
          (shows_of_startupReads formed reads)
      · exact ih middleFormed later deviceId member

/-- `initialize` leaves no active device, or it has published those its probes admit
and read each of them. -/
theorem published_of_initialize [ProviderSdk] {config : ProviderConfig}
    (completes : Completes (World.environment submits) (initializeRuntime config) world ()
      world') :
    world'.state.activeDevices = [] ∨
      ∃ (probes : List StartupProbe) (start : World), probes.map Prod.fst = config.devices ∧
        start.state.activeDevices = (probes.filter probeAccepts).map (fun probe =>
          activeDevice probe.1 probe.2.outputs.info) ∧
        Completes (World.environment submits)
          (startupReadsOf (start.state.activeDevices.map (·.spec.id))) start () world' := by
  obtain ⟨_, _, _, afterReset⟩ := completes_bind_iff.mp completes
  obtain ⟨_, _, _, afterWarning⟩ := completes_bind_iff.mp afterReset
  obtain ⟨startedAt, _, _, afterClock⟩ := completes_bind_iff.mp afterWarning
  obtain ⟨hostRequirements, _, _, rest⟩ := completes_bind_iff.mp afterClock
  have publishes : ∀ {state : RuntimeState} {before after : World},
      Completes (World.environment submits) (publish state) before () after →
      after.state = state := by
    intro state before after published
    obtain ⟨_, _, locked, final⟩ := completes_bind_iff.mp published
    obtain ⟨_, rfl⟩ := completes_done_iff.mp final
    rw [(completes_ask_iff.mp locked).2]
  dsimp only at rest
  split at rest
  · left
    rw [publishes rest]
    rfl
  · obtain ⟨status, _, _, started⟩ := completes_bind_iff.mp rest
    split at started
    · left
      rw [publishes started]
      rfl
    · right
      obtain ⟨trace, run, path⟩ := started
      obtain ⟨probes, clock, readyAt, found, reads, covered, _, rfl, reading⟩ :=
        runs_probeAndPublish run
      obtain ⟨_, _, timed⟩ := Environment.path_append_iff.mp path
      obtain ⟨_, _, publishing⟩ := Environment.path_append_iff.mp timed
      obtain ⟨start, ⟨_, published⟩, readPath⟩ := Environment.path_cons_iff.mp publishing
      have state := congrArg World.state published
      dsimp only at state
      refine ⟨probes, start, covered, ?_, reads, ?_, readPath⟩
      · rw [state, activeDevices_startedState, admitAll_eq]
        rfl
      · rw [state, activeDevices_startedState]
        exact reading

theorem sound_of_initialized [ProviderSdk] {config : ProviderConfig}
    (initialized : Initialized submits config world) : world.Sound := by
  obtain ⟨valid, bus, completes⟩ := initialized
  rcases published_of_initialize completes with none | ⟨probes, start, covered, published, reads⟩
  · have absent : ∀ deviceId, world.state.find deviceId = .none := by simp [RuntimeState.find, none]
    refine ⟨⟨⟨by simp [none], by simp [none]⟩, ?_⟩, ?_, ?_⟩
    all_goals
      intro deviceId device found
      simp [absent] at found
  · obtain ⟨formed, _⟩ := wellFormed_of_published valid covered published
    have through := through_of_startupReadsOf reads
    have shows := shows_of_startupReadsOf formed reads
    have formedThen := through.wellFormed formed
    have shown : ∀ {deviceId device}, world.state.find deviceId = some device →
        LevelShown device ∧ CompensationShown device := by
      intro deviceId device found
      refine shows deviceId ?_ device found
      have member := List.mem_map_of_mem (f := ActiveDevice.spec) (RuntimeState.mem_of_find found)
      rw [through.specs] at member
      obtain ⟨before, listed, same⟩ := List.mem_map.mp member
      refine List.mem_map.mpr ⟨before, listed, ?_⟩
      rw [same, RuntimeState.find_id found]
    exact ⟨formedThen, fun found => (shown found).1, fun found => (shown found).2⟩

/-- What holds once the devices are published and the reads of startup keep, holds when
`initialize` returns. -/
theorem maintained_of_initialized [ProviderSdk] {config : ProviderConfig} {holds : World → Prop}
    (published : ∀ start : World, start.WellFormed →
      (∀ device ∈ start.state.activeDevices, ∃ spec ∈ config.devices, ∃ info,
        device = activeDevice spec info) → holds start)
    (kept : ∀ {before round after}, round.Reads → holds before →
      RoundStep submits before round after → holds after)
    (initialized : Initialized submits config world) : holds world := by
  have formed := (sound_of_initialized initialized).toWellFormed
  obtain ⟨valid, bus, completes⟩ := initialized
  rcases published_of_initialize completes with none | ⟨probes, start, covered, active, reads⟩
  · exact published world formed (by simp [none])
  · refine (through_of_startupReadsOf reads).maintains kept (published start ?_ fun device member => ?_)
    · exact (wellFormed_of_published valid covered active).1
    · rw [active] at member
      obtain ⟨probe, accepted, rfl⟩ := List.mem_map.mp member
      refine ⟨probe.1, ?_, _, rfl⟩
      rw [← covered]
      exact List.mem_map_of_mem (List.mem_of_mem_filter accepted)

/-- What a device is admitted with and the reads of startup keep, holds of it when
`initialize` returns. -/
theorem recorded_of_initialized [ProviderSdk] {config : ProviderConfig}
    {property : ActiveDevice → Prop}
    (admitted : ∀ spec ∈ config.devices, ∀ info, property (activeDevice spec info))
    (kept : ∀ {deviceId device round device'}, round.Reads → Effect deviceId device round device' →
      property device → property device')
    (initialized : Initialized submits config world) {device : ActiveDevice}
    (found : world.state.find deviceId = some device) : property device := by
  let recorded : World → Prop := fun world => world.state.Apart ∧
    ∀ device deviceId, world.state.find deviceId = some device → property device
  have holds : recorded world := by
    refine maintained_of_initialized ?_ ?_ initialized
    · refine fun start formed active => ⟨formed.apart, fun device deviceId found => ?_⟩
      obtain ⟨spec, listed, info, rfl⟩ := active device (RuntimeState.mem_of_find found)
      exact admitted spec listed info
    · intro before round after reading holds step
      exact ⟨step.apart holds.1, fun device deviceId => step.maintains holds.1
        (fun effect => kept reading effect) (fun device => holds.2 device deviceId) device⟩
  exact holds.2 device deviceId found

/-- What a device is admitted with and every effect keeps, holds of it ever after. -/
theorem recorded_of_reachable [ProviderSdk] {property : ActiveDevice → Prop}
    (admitted : ∀ {config : ProviderConfig}, config.Valid → ∀ spec ∈ config.devices, ∀ info,
      property (activeDevice spec info))
    (kept : ∀ {deviceId device round device'}, Effect deviceId device round device' →
      property device → property device')
    (reachable : (provider submits).Reachable world) {device : ActiveDevice}
    (found : world.state.find deviceId = some device) : property device := by
  let recorded : World → Prop := fun world => world.state.Apart ∧
    ∀ device deviceId, world.state.find deviceId = some device → property device
  suffices holds : recorded world from holds.2 device deviceId found
  refine @Reachable.holds _ _ (provider submits) recorded ?_ ?_ world reachable
  · rintro start ⟨config, initialized⟩
    refine ⟨(sound_of_initialized initialized).apart, fun device deviceId found => ?_⟩
    exact recorded_of_initialized (admitted initialized.1) (fun _ => kept) initialized found
  · intro before operation after holds step
    refine (ProviderStep.through step).maintains ?_ holds
    exact fun _ before step => ⟨step.apart before.1, fun device deviceId =>
      step.maintains before.1 kept (fun device => before.2 device deviceId) device⟩

theorem ProviderStep.sound [ProviderSdk] {operation : Operation}
    (step : ProviderStep submits world operation world') (sound : world.Sound) : world'.Sound :=
  step.through.maintains (fun _ sound round => round.sound sound) sound

/-- Every reachable world is sound. -/
theorem sound_of_reachable [ProviderSdk] (reachable : (provider submits).Reachable world) :
    world.Sound := by
  refine @Reachable.holds _ _ (provider submits) World.Sound ?_ ?_ world reachable
  · rintro state ⟨config, initialized⟩
    exact sound_of_initialized initialized
  · intro state operation next sound step
    exact ProviderStep.sound step sound

end EzoProvider.Runtime
