import EzoProvider.Runtime.Startup

/-!
# The inventory startup builds

The probe loop as a split of the configured devices by what their probes
answered, and the trace of a startup taken apart at its exits.
-/

namespace EzoProvider.Runtime

open Interaction Program Devices

/-- A device of the configuration with the answer to its startup probe. -/
abbrev StartupProbe := DeviceSpec × SubmitReply

@[simp] theorem activeDevices_startedState (state : RuntimeState) (readyAt : Int) :
    (startedState state readyAt).activeDevices = state.activeDevices := by
  rw [startedState]
  split <;> rfl

@[simp] theorem excludedDevices_startedState (state : RuntimeState) (readyAt : Int) :
    (startedState state readyAt).excludedDevices = state.excludedDevices := by
  rw [startedState]
  split <;> rfl

/-- A startup that went through is ready if it has an active device. -/
theorem ready_startedState_iff (state : RuntimeState) (readyAt : Int) :
    (startedState state readyAt).ready = true ↔ state.activeDevices ≠ [] := by
  rw [startedState]
  split
  · next none => simp [none]
  · next some => simp [some]

variable [EzoDriver]

/-- The probe which makes its device active. -/
def probeAccepts (probe : StartupProbe) : Bool :=
  probe.2.status.isOk &&
    probe.2.outputs.info.productId = (adapterFor probe.1.type).expectedProduct

/-- The reason a device is excluded for. -/
def exclusionReason (probe : StartupProbe) : String :=
  if probe.2.status.isOk then mismatchReason probe.1 probe.2.outputs.info
  else probe.2.status.message

/-- The probe loop over answered probes. -/
def admitAll (state : RuntimeState) (probes : List StartupProbe) : RuntimeState :=
  probes.foldl (fun state probe => admitProbe state probe.1 probe.2) state

theorem admitProbe_eq (state : RuntimeState) (probe : StartupProbe) :
    admitProbe state probe.1 probe.2 =
      if probeAccepts probe then
        { state with
          activeDevices := state.activeDevices ++ [activeDevice probe.1 probe.2.outputs.info] }
      else
        { state with
          excludedDevices := state.excludedDevices ++ [⟨probe.1, exclusionReason probe⟩] } := by
  by_cases ok : probe.2.status.isOk = true
  · by_cases expected : probe.2.outputs.info.productId = (adapterFor probe.1.type).expectedProduct
    · simp [admitProbe, probeAccepts, ok, expected]
    · simp [admitProbe, probeAccepts, exclusionReason, ok, expected]
  · simp [admitProbe, probeAccepts, exclusionReason, ok]

/-- The loop splits the probes by `probeAccepts`, in their order. -/
theorem admitAll_eq (state : RuntimeState) (probes : List StartupProbe) :
    admitAll state probes =
      { state with
        activeDevices := state.activeDevices ++
          (probes.filter probeAccepts).map fun probe =>
            activeDevice probe.1 probe.2.outputs.info
        excludedDevices := state.excludedDevices ++
          (probes.filter fun probe => !probeAccepts probe).map fun probe =>
            ⟨probe.1, exclusionReason probe⟩ } := by
  induction probes generalizing state with
  | nil => simp [admitAll]
  | cons probe probes ih =>
      have unfolded : admitAll state (probe :: probes) =
        admitAll (admitProbe state probe.1 probe.2) probes := rfl
      rw [unfolded, ih, admitProbe_eq]
      by_cases accepts : probeAccepts probe = true
      · simp [accepts]
      · simp [accepts]

/-! ## Traces -/

/-- The exchange of a startup probe. -/
def probeExchange (config : ProviderConfig) (probe : StartupProbe) :
    Exchange CallerOp CallerOp.Result :=
  ⟨.submit ("startup_probe:" ++ probe.1.id) (max config.timeoutMs 2000)
    (probeIdentityJob probe.1.address (adapterFor probe.1.type).expectedProduct), probe.2⟩

theorem runs_probeDevices {config : ProviderConfig} {state probed : RuntimeState}
    {specs : List DeviceSpec} {trace : CallerTrace}
    (run : (probeDevices config state specs).Runs trace probed) :
    ∃ probes : List StartupProbe, probes.map Prod.fst = specs ∧
      trace = probes.map (probeExchange config) ∧ probed = admitAll state probes := by
  induction specs generalizing state trace with
  | nil =>
      obtain ⟨rfl, rfl⟩ := runs_done_iff.mp run
      exact ⟨[], rfl, rfl, rfl⟩
  | cons spec specs ih =>
      obtain ⟨_, reply, rest, rfl, probe, later⟩ := runs_bind_iff.mp run
      obtain rfl := runs_ask_iff.mp probe
      obtain ⟨probes, rfl, rfl, rfl⟩ := ih later
      exact ⟨(spec, reply) :: probes, rfl, rfl, rfl⟩

/-- A startup past the host check and the start of the executor: the probes, the
state they leave, and the first reads. -/
theorem runs_probeAndPublish {state : RuntimeState} {trace : CallerTrace}
    (run : (probeAndPublish state).Runs trace ()) :
    ∃ (probes : List StartupProbe) (clock : CallerTrace) (readyAt : Int) (found : RuntimeState)
      (reads : CallerTrace), probes.map Prod.fst = state.config.devices ∧
      (∀ exchange ∈ clock, exchange.1 = .systemNow) ∧
      trace = probes.map (probeExchange state.config) ++ (clock ++
        (⟨.locked fun _ => startedState (admitAll state probes) readyAt, found⟩ :: reads)) ∧
      (startupReadsOf ((admitAll state probes).activeDevices.map (·.spec.id))).Runs reads () := by
  obtain ⟨_, probed, _, rfl, probing, rest⟩ := runs_bind_iff.mp run
  obtain ⟨probes, covered, rfl, rfl⟩ := runs_probeDevices probing
  obtain ⟨clock, readyAt, _, rfl, timed, rest⟩ := runs_bind_iff.mp rest
  obtain ⟨_, _, reads, rfl, published, reading⟩ := runs_bind_iff.mp rest
  obtain ⟨_, found, _, rfl, locked, final⟩ := runs_bind_iff.mp published
  obtain rfl := runs_ask_iff.mp locked
  obtain ⟨rfl, _⟩ := runs_done_iff.mp final
  refine ⟨probes, clock, readyAt, found, reads, covered, ?_, by simp, reading⟩
  intro exchange member
  rw [readyTime] at timed
  split at timed
  · obtain ⟨rfl, _⟩ := runs_done_iff.mp timed
    cases member
  · obtain rfl := runs_ask_iff.mp timed
    obtain rfl := List.mem_singleton.mp member
    rfl

end EzoProvider.Runtime
