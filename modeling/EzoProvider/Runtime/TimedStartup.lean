import EzoProvider.Interaction.Parts
import EzoProvider.Runtime.Inventory
import EzoProvider.Runtime.JobCommands

/-!
# Startup in time

The probe loop of `initialize` over the serial executor, timed. Every address
answers for itself and takes its own time over it. A caller waits for its job up
to a deadline which counts from the submission; the worker goes on with a job
whose caller has left, and the next job waits for it. Times are in microseconds.
-/

namespace EzoProvider.Runtime

open Interaction Program Devices Environment

/-- The address an operation goes to. -/
def addressOf : JobOp → Option Address
  | .bind address | .send address _ | .readResponse address | .readInfo address
  | .readOutputConfig address | .readValue address | .readOutputs address _
  | .readCalibrationStatus address | .readTemperature address | .readSalinity address
  | .readPressure address => some address
  | .delay _ | .store _ => none

/-- The operations of a job by address. A wait takes its time, a store none. -/
def wire : Routing JobOp JobOp.Result Address where
  part := addressOf
  answer
    | .delay _, _ | .store _, _ => ()
    | .bind _, absent | .send _ _, absent | .readResponse _, absent | .readInfo _, absent
    | .readOutputConfig _, absent | .readValue _, absent | .readOutputs _ _, absent
    | .readCalibrationStatus _, absent | .readTemperature _, absent | .readSalinity _, absent
    | .readPressure _, absent => nomatch absent
  takes
    | .delay microseconds => microseconds
    | _ => 0

/-- A bus on which every address answers for itself. -/
abbrev SeparateBus := Address → Part JobOp JobOp.Result

/-- The runtime and its executor, at a time. `free` is when the worker is done with what
it has been given, `asked` what has gone over the bus since it was opened. -/
structure TimedWorld where
  state : RuntimeState := {}
  running : Bool := false
  now : Nat := 0
  free : Nat := 0
  asked : Address → JobTrace := fun _ => []

namespace TimedWorld

/-- When a wait of so many milliseconds ends. -/
def deadline (world : TimedWorld) (timeoutMs : Int) : Nat := world.now + timeoutMs.toNat * 1000

/-- When the worker gets to a job submitted now. -/
def start (world : TimedWorld) : Nat := max world.now world.free

/-- How a job submitted now executes. -/
def execution (bus : SeparateBus) (world : TimedWorld) (job : Job) :
    Play JobOp JobOp.Result (Ledger JobOp JobOp.Result Address) Status :=
  job.play (wire.responder bus) ⟨world.asked, world.start⟩

/-- What a caller is left with who waits for a job to end. -/
def replyOf (execution : Play JobOp JobOp.Result (Ledger JobOp JobOp.Result Address) Status) :
    SubmitReply where
  status := execution.value
  outputs := outputsOf execution.trace

/-- The executor after an execution, and its caller at a time. -/
def executed (world : TimedWorld)
    (execution : Play JobOp JobOp.Result (Ledger JobOp JobOp.Result Address) Status) (now : Nat) :
    TimedWorld :=
  { world with now, free := execution.final.time, asked := execution.final.asked }

/-- What a submission comes to. A caller which leaves has seen what was stored by then;
a job whose caller has left is skipped. -/
inductive Submitted (bus : SeparateBus) (world : TimedWorld) (name : String) (timeoutMs : Int)
    (job : Job) : SubmitReply → TimedWorld → Prop where
  | refused (stopped : world.running = false) :
      Submitted bus world name timeoutMs job
        { status := makeStatus .unavailable "i2c executor is not running" } world
  | finished (running : world.running = true)
      (timely : 0 < timeoutMs → (world.execution bus job).final.time < world.deadline timeoutMs) :
      Submitted bus world name timeoutMs job (replyOf (world.execution bus job))
        (world.executed (world.execution bus job) (world.execution bus job).final.time)
  | expired {early late : JobTrace} (running : world.running = true) (timed : 0 < timeoutMs)
      (begun : world.start < world.deadline timeoutMs)
      (overdue : world.deadline timeoutMs ≤ (world.execution bus job).final.time)
      (split : (world.execution bus job).trace = early ++ late) :
      Submitted bus world name timeoutMs job (deadlineReply name (outputsOf early))
        (world.executed (world.execution bus job) (world.deadline timeoutMs))
  | skipped (running : world.running = true) (timed : 0 < timeoutMs)
      (late : world.deadline timeoutMs ≤ world.start) :
      Submitted bus world name timeoutMs job (deadlineReply name {})
        { world with now := world.deadline timeoutMs, free := world.start }

/-- What a caller's operations do. Only a submission takes time, and a stop, which waits for
the worker; the host requirements are found as given, and the bus opens. -/
def environment (bus : SeparateBus) (requirements : List Requirement) :
    Environment CallerOp CallerOp.Result TimedWorld where
  Answers world op answer world' :=
    match op, answer with
    | .locked change, found =>
        found = world.state ∧ world' = { world with state := change world.state }
    | .submit name timeoutMs job, reply => world.Submitted bus name timeoutMs job reply world'
    | .checkHost _, found => found = requirements ∧ world' = world
    | .startExecutor _, status =>
        status = .success ∧
          world' = { world with running := true, free := world.now, asked := fun _ => [] }
    | .stopExecutor, _ => world' = { world with running := false, now := world.start }
    | .systemNow, _ | .steadyNow, _ | .warn _, _ => world' = world

end TimedWorld

/-! ## Probes -/

theorem among_of_serves {device : Address} {commands : Command → Prop} {op : JobOp}
    (serves : op.Serves device commands) : wire.Among (· = device) op := by
  intro address part
  rcases serves with within | ⟨output, rfl⟩
  · cases op with
    | send target command => exact (Option.some.inj part).symm.trans within.1
    | delay microseconds => cases part
    | store output => cases within
    | _ => exact (Option.some.inj part).symm.trans within
  · cases part

/-- Operations which leave the devices on the lists they are on. -/
def CallerOp.KeepsLists : CallerOp → Prop
  | .locked change => ∀ state, activeSpecs (change state) = activeSpecs state ∧
      excludedSpecs (change state) = excludedSpecs state
  | _ => True

theorem keepsLists_update {deviceId : String} {change : ActiveDevice → ActiveDevice}
    (kept : ∀ device, (change device).spec = device.spec) :
    (CallerOp.locked (·.update deviceId change)).KeepsLists :=
  fun _ => ⟨RuntimeState.specs_update kept, rfl⟩

variable [EzoDriver]

theorem among_probeIdentityJob (address : Address) (product : EzoProduct) :
    (probeIdentityJob address product).Only (wire.Among (· = address)) := by
  have only : (probeIdentityJob address product).Only (JobOp.Serves address fun _ => True) := by
    refine only_bound (only_exceptT_bind (only_attempt (only_issue (.inl ⟨rfl, trivial⟩)))
      fun hint => ?_)
    refine only_exceptT_lift_bind (only_issue (.inl trivial)) fun _ => ?_
    exact only_exceptT_bind (only_attempt (only_issue (.inl rfl))) fun _ => only_store
  exact only.mono fun _ => among_of_serves

/-- How long a startup probe is waited for. -/
def probeWindow (config : ProviderConfig) : Nat := (max config.timeoutMs 2000).toNat * 1000

/-- The startup probe of a device which has the bus to itself. -/
def ownProbe (bus : SeparateBus) (spec : DeviceSpec) :
    Play JobOp JobOp.Result (Ledger JobOp JobOp.Result Address) Status :=
  (probeIdentityJob spec.address (adapterFor spec.type).expectedProduct).play (wire.responder bus)
    ⟨fun _ => [], 0⟩

/-- The time it takes. -/
def probeTime (bus : SeparateBus) (spec : DeviceSpec) : Nat := (ownProbe bus spec).final.time

/-- What it leaves its caller with. -/
def ownReply (bus : SeparateBus) (spec : DeviceSpec) : SubmitReply :=
  TimedWorld.replyOf (ownProbe bus spec)

/-- How long the worker is still busy once the last of some probes has been answered or
given up, given how long it was when the first was submitted. -/
def overrun (window left : Nat) (durations : List Nat) : Nat :=
  durations.foldl (fun left duration => left + (if left < window then duration else 0) - window)
    left

section Execution

variable {bus other : SeparateBus} {spec : DeviceSpec} {world world' : TimedWorld}
  {config : ProviderConfig}

/-- The probe of a device is a matter of its address. -/
theorem own_congr (same : bus spec.address = other spec.address) :
    probeTime bus spec = probeTime other spec ∧ ownReply bus spec = ownReply other spec := by
  have agrees : Play.Agrees ⟨fun _ => [], 0⟩ ⟨fun _ => [], 0⟩ (ownProbe bus spec)
      (ownProbe other spec) := by
    apply play_agrees_of_only (among_probeIdentityJob _ _)
    · rintro _ rfl
      exact same
    · exact fun _ _ => rfl
  refine ⟨agrees.elapsed, ?_⟩
  rw [ownReply, TimedWorld.replyOf, agrees.value, agrees.trace]
  rfl

/-- On an address not asked yet a probe executes as if it had the bus to itself. -/
theorem execution_probe (fresh : world.asked spec.address = []) :
    let execution := world.execution bus
      (probeIdentityJob spec.address (adapterFor spec.type).expectedProduct)
    TimedWorld.replyOf execution = ownReply bus spec ∧
      execution.final.time = world.start + probeTime bus spec ∧
      ∀ address, address ≠ spec.address → execution.final.asked address = world.asked address := by
  intro execution
  have agrees : Play.Agrees ⟨world.asked, world.start⟩ ⟨fun _ => [], 0⟩ execution
      (ownProbe bus spec) := by
    apply play_agrees_of_only (among_probeIdentityJob _ _) fun _ _ => rfl
    rintro _ rfl
    exact fresh
  refine ⟨?_, ?_, ?_⟩
  · rw [ownReply, TimedWorld.replyOf, agrees.value, agrees.trace]
    rfl
  · have elapsed := agrees.elapsed
    rw [probeTime]
    dsimp only at elapsed
    omega
  · intro address different
    exact asked_play_of_only (among_probeIdentityJob _ _) _ different

/-- What a startup probe of a device does, which has not been asked anything yet. -/
structure Probed (bus : SeparateBus) (config : ProviderConfig) (world : TimedWorld)
    (probe : StartupProbe) (world' : TimedWorld) : Prop where
  accepts : probeAccepts probe = true ↔
    world.free - world.now + probeTime bus probe.1 < probeWindow config ∧
      probeAccepts (probe.1, ownReply bus probe.1) = true
  busy : world'.free - world'.now =
    overrun (probeWindow config) (world.free - world.now) [probeTime bus probe.1]
  running : world'.running = true
  asked : ∀ address, address ≠ probe.1.address → world'.asked address = world.asked address

theorem not_accepts_deadlineReply {name : String} {outputs : JobOutputs} :
    probeAccepts (spec, deadlineReply name outputs) = false := rfl

theorem probed_of_submitted {name : String} {reply : SubmitReply} (running : world.running = true)
    (fresh : world.asked spec.address = [])
    (submitted : world.Submitted bus name (max config.timeoutMs 2000)
      (probeIdentityJob spec.address (adapterFor spec.type).expectedProduct) reply world') :
    Probed bus config world (spec, reply) world' := by
  have timed : 0 < max config.timeoutMs 2000 := by omega
  have deadline : world.deadline (max config.timeoutMs 2000) = world.now + probeWindow config := rfl
  have start : world.start = world.now + (world.free - world.now) := by
    rw [TimedWorld.start]
    omega
  obtain ⟨own, finish, asked⟩ := @execution_probe _ bus spec world fresh
  cases submitted with
  | refused stopped => simp [running] at stopped
  | finished running timely =>
      have inTime := timely timed
      rw [deadline, finish, start] at inTime
      refine ⟨?_, ?_, running, asked⟩
      · dsimp only
        rw [own]
        exact ⟨fun accepts => ⟨by omega, accepts⟩, And.right⟩
      · have busy : world.free - world.now < probeWindow config := by omega
        simp only [overrun, List.foldl_cons, List.foldl_nil, if_pos busy, TimedWorld.executed]
        omega
  | expired _ _ begun overdue split =>
      rw [deadline, finish] at overdue
      rw [deadline] at begun
      refine ⟨?_, ?_, running, asked⟩
      · rw [not_accepts_deadlineReply]
        dsimp only
        simp only [Bool.false_eq_true, false_iff, not_and]
        intro inTime
        omega
      · have busy : world.free - world.now < probeWindow config := by omega
        simp only [overrun, List.foldl_cons, List.foldl_nil, if_pos busy, TimedWorld.executed,
          finish, deadline]
        omega
  | skipped _ _ late =>
      rw [deadline] at late
      refine ⟨?_, ?_, running, fun _ _ => rfl⟩
      · rw [not_accepts_deadlineReply]
        dsimp only
        simp only [Bool.false_eq_true, false_iff, not_and]
        intro inTime
        omega
      · have busy : ¬ world.free - world.now < probeWindow config := by omega
        simp only [overrun, List.foldl_cons, List.foldl_nil, if_neg busy, deadline]
        omega

/-- Of probes in a row, one is accepted if it is accepted by itself and those before it
leave it the time. -/
theorem accepts_iff_of_path {requirements : List Requirement}
    {probes before after : List StartupProbe} {probe : StartupProbe} (running : world.running = true)
    (fresh : ∀ probe ∈ probes, world.asked probe.1.address = [])
    (distinct : (probes.map fun probe => probe.1.address).Nodup)
    (path : (TimedWorld.environment bus requirements).Path world
      (probes.map (probeExchange config)) world')
    (split : probes = before ++ probe :: after) :
    probeAccepts probe = true ↔
      overrun (probeWindow config) (world.free - world.now)
          (before.map fun earlier => probeTime bus earlier.1) + probeTime bus probe.1 <
        probeWindow config ∧ probeAccepts (probe.1, ownReply bus probe.1) = true := by
  induction before generalizing world probes with
  | nil =>
      subst split
      obtain ⟨middle, submitted, _⟩ := path_cons_iff.mp path
      exact (probed_of_submitted running (fresh probe (by simp)) submitted).accepts
  | cons first before ih =>
      subst split
      obtain ⟨middle, submitted, later⟩ := path_cons_iff.mp path
      have probed := probed_of_submitted running (fresh first (by simp)) submitted
      obtain ⟨apart, distinct⟩ := List.nodup_cons.mp distinct
      have freshAfter : ∀ other ∈ before ++ probe :: after,
          middle.asked other.1.address = [] := by
        intro other member
        have different : other.1.address ≠ first.1.address := by
          intro same
          exact apart (List.mem_map.mpr ⟨other, member, same⟩)
        rw [probed.asked _ different]
        exact fresh other (List.mem_cons_of_mem _ member)
      have rest := ih probed.running freshAfter distinct later rfl
      rw [probed.busy] at rest
      exact rest

end Execution

/-! ## The reads after the probes -/

theorem keepsLists_of_routine (op : CallerOp) (routine : op.Routine) : op.KeepsLists := by
  cases routine with
  | looked => exact fun _ => ⟨rfl, rfl⟩
  | levelRead | checked | remembered | recorded => exact keepsLists_update (by simp)
  | _ => trivial

theorem keepsLists_startupReadsOf (deviceIds : List String) :
    (startupReadsOf deviceIds).Only CallerOp.KeepsLists :=
  only_startupReadsOf deviceIds keepsLists_of_routine fun _ _ _ _ _ _ => keepsLists_update (by simp)

end EzoProvider.Runtime
