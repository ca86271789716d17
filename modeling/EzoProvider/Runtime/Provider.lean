import EzoProvider.Runtime.CallRuns
import EzoProvider.Runtime.RoundSpecs

/-!
# Runs of the provider

A run starts where `initialize` leaves off and takes one operation at a time,
over bus faults, deadlines and jobs which outlive them. Every operation goes
through rounds, of the kinds `Operation.Permits` gives it.
-/

namespace EzoProvider.Runtime

open Interaction Program Devices

/-- An operation of the caller, and what it returned. -/
inductive Operation where
  | refresh (deviceId : String) (status : Status)
  | readLevel (deviceId : String) (status : Status)
  | check (deviceId : String) (status : Status)
  | read (deviceId : String) (signalIds : List String) (result : AdapterReadResult)
  | call (deviceId : String) (functionId : Nat) (args : ValueMap) (result : AdapterCallResult)
  | wait

/-- The functions which change the calibration. -/
def Calibrates (functionId : Nat) : Prop :=
  functionId = kFunctionCalibrate ∨ functionId = kFunctionClearCalibration

/-- The rounds an operation can go through. -/
def Operation.Permits : Operation → Round → Prop
  | refresh deviceId _, round | read deviceId .., round =>
      ∃ status, round = .sampled deviceId status ∨ round = .checked deviceId status
  | readLevel deviceId _, round => ∃ status, round = .levelRead deviceId status
  | check deviceId _, round => ∃ status, round = .checked deviceId status
  | call deviceId functionId _ result, round =>
      round.device = some deviceId ∧
        match round with
        | .sampled .. | .passed => False
        | .levelRead .. => Calibrates functionId ∧ result.ok = true
        | .controlled _ id _ _ => id = functionId
        | .checked .. | .recorded .. => True
        | .remembered .. => functionId = kFunctionSetCompensation ∧ result.ok = true
  | wait, round => round = .passed

/-! ## Serving from the cache -/

section Serving

variable [DecimalText] {submits : Submits} {config : ProviderConfig} {device : ActiveDevice}
  {world world' : World}

theorem unchanged_of_needsRefresh {stale : Bool}
    (completes : Completes (World.environment submits) (needsRefresh config device) world stale
      world') : world' = world := by
  rw [needsRefresh] at completes
  split at completes
  · obtain ⟨_, _, clock, decided⟩ := completes_bind_iff.mp completes
    obtain rfl := completes_systemNow_iff.mp clock
    exact (completes_done_iff.mp decided).2
  · exact (completes_done_iff.mp completes).2

/-- Serving a sample changes nothing. -/
theorem unchanged_of_serveSample [ProviderSdk] {indexes : List Nat}
    {result : AdapterReadResult}
    (completes : Completes (World.environment submits) (serveSample config device indexes) world
      result world') : world' = world := by
  have values : ∀ (indexes : List Nat) (values : List SignalValue) (start final : World),
      Completes (World.environment submits) (populateSignalValues config device indexes) start
        values final → final = start := by
    intro indexes
    induction indexes with
    | nil =>
        intro values start final populated
        exact (completes_done_iff.mp populated).2
    | cons index rest ih =>
        intro values start final populated
        obtain ⟨_, _, clock, later⟩ := completes_bind_iff.mp populated
        obtain rfl := completes_systemNow_iff.mp clock
        obtain ⟨_, _, tail, served⟩ := completes_bind_iff.mp later
        obtain ⟨_, rfl⟩ := completes_done_iff.mp served
        exact ih _ _ _ tail
  rw [serveSample] at completes
  split at completes
  · obtain ⟨_, _, populated, served⟩ := completes_bind_iff.mp completes
    obtain ⟨_, rfl⟩ := completes_done_iff.mp served
    exact values _ _ _ _ populated
  · exact (completes_done_iff.mp completes).2

end Serving

variable [EzoDriver] [DecimalText]

/-- The world goes through allowed rounds. -/
def Through (submits : Submits) (allowed : Round → Prop) (world world' : World) : Prop :=
  ∃ labels, (rounds submits).Steps world labels world' ∧ ∀ label ∈ labels, allowed label

namespace Through

variable {submits : Submits} {allowed larger : Round → Prop} {world middle world' : World}

theorem refl : Through submits allowed world world := ⟨[], .refl, by simp⟩

theorem single {round : Round} (step : RoundStep submits world round world')
    (permitted : allowed round) : Through submits allowed world world' :=
  ⟨[round], .single step, by simpa using permitted⟩

theorem trans (before : Through submits allowed world middle)
    (after : Through submits allowed middle world') : Through submits allowed world world' := by
  obtain ⟨first, beforeSteps, beforePermitted⟩ := before
  obtain ⟨second, afterSteps, afterPermitted⟩ := after
  refine ⟨first ++ second, beforeSteps.trans afterSteps, fun label member => ?_⟩
  rcases List.mem_append.mp member with member | member
  · exact beforePermitted label member
  · exact afterPermitted label member

theorem mono (through : Through submits allowed world world')
    (implies : ∀ round, allowed round → larger round) : Through submits larger world world' := by
  obtain ⟨labels, steps, permitted⟩ := through
  exact ⟨labels, steps, fun label member => implies label (permitted label member)⟩

/-- What allowed rounds keep. -/
theorem maintains {invariant : World → Prop}
    (kept : ∀ {world round world'}, allowed round → invariant world →
      RoundStep submits world round world' → invariant world')
    (through : Through submits allowed world world') (holds : invariant world) :
    invariant world' := by
  obtain ⟨labels, steps, permitted⟩ := through
  exact steps.maintains_of_labels kept holds permitted

end Through

/-! ## The rounds of an operation -/

section Runs

variable {submits : Submits} {deviceId functionName : String} {functionId : Nat}
  {allowed : Round → Prop} {world world' : World}

theorem LevelRun.through {status : Status} (run : LevelRun submits deviceId world status world')
    (permitted : ∀ status, allowed (.levelRead deviceId status)) :
    Through submits allowed world world' := by
  cases run with
  | unknown | unsupported => exact .refl
  | levelRead step => exact .single step (permitted _)

theorem CheckRun.through {status : Status} (run : CheckRun submits deviceId world status world')
    (permitted : ∀ status, allowed (.checked deviceId status)) :
    Through submits allowed world world' := by
  cases run with
  | unknown | unsupported => exact .refl
  | checked step => exact .single step (permitted _)

theorem RefreshRun.through {status : Status}
    (run : RefreshRun submits deviceId world status world')
    (samples : ∀ status, allowed (.sampled deviceId status))
    (checks : ∀ status, allowed (.checked deviceId status)) :
    Through submits allowed world world' := by
  cases run with
  | unnamed | unknown => exact .refl
  | sampled step => exact .single step (samples _)
  | sampledDue step _ _ checked => exact (Through.single step (samples _)).trans (checked.through checks)

theorem RecordRun.through {ok : Bool} {message : String}
    (run : RecordRun submits deviceId functionName ok message world world')
    (permitted : ∀ ok message, allowed (.recorded deviceId functionName ok message)) :
    Through submits allowed world world' := by
  cases run with
  | unnamed => exact .refl
  | recorded step => exact .single step (permitted _ _)

theorem ExecuteRun.through {args : ControlArgs} {result : AdapterCallResult}
    (run : ExecuteRun submits deviceId functionId args world result world')
    (permitted : ∀ status, allowed (.controlled deviceId functionId args status)) :
    Through submits allowed world world' := by
  cases run with
  | unserved => exact .refl
  | controlled step => exact .single step (permitted _)

theorem ConcludeRun.through {result : AdapterCallResult}
    (run : ConcludeRun submits deviceId functionName functionId world result world')
    (records : ∀ ok message, allowed (.recorded deviceId functionName ok message))
    (levels : Calibrates functionId → result.ok = true →
      ∀ status, allowed (.levelRead deviceId status)) :
    Through submits allowed world world' := by
  cases run with
  | failed _ recorded | succeeded _ _ recorded => exact recorded.through records
  | calibrated ok calibrates recorded levelRead =>
      exact (recorded.through records).trans (levelRead.through (levels calibrates ok))

theorem PerformRun.through {type : EzoDeviceType} {args : ControlArgs} {callArgs : ValueMap}
    {result : AdapterCallResult}
    (run : PerformRun submits deviceId functionName functionId type args world result world') :
    Through submits (Operation.call deviceId functionId callArgs result).Permits world world' := by
  cases run with
  | plain _ executed concluded =>
      refine (executed.through fun _ => ⟨rfl, rfl⟩).trans (concluded.through ?_ ?_)
      · exact fun _ _ => ⟨rfl, trivial⟩
      · exact fun calibrates ok _ => ⟨rfl, calibrates, ok⟩
  | readBack _ executed remembering checking concluded =>
      refine (executed.through fun _ => ⟨rfl, rfl⟩).trans ?_
      refine Through.trans ?_ ((checking.through fun _ => ⟨rfl, trivial⟩).trans
        (concluded.through ?_ ?_))
      · cases remembering with
        | skipped => exact .refl
        | remembered ok sets step => exact .single step ⟨rfl, sets, ok⟩
      · exact fun _ _ => ⟨rfl, trivial⟩
      · exact fun calibrates ok _ => ⟨rfl, calibrates, ok⟩

theorem CallRun.through {args : ValueMap} {result : AdapterCallResult}
    (run : CallRun submits deviceId functionId args world result world') :
    Through submits (Operation.call deviceId functionId args result).Permits world world' := by
  cases run with
  | unknownDevice | unknownFunction => exact .refl
  | refused _ _ _ recorded => exact recorded.through fun _ _ => ⟨rfl, trivial⟩
  | performed _ _ _ performed => exact performed.through

/-- A read serves what is cached, after a refresh if that is too old. -/
theorem completes_of_read [ProviderSdk] {signalIds : List String} {result : AdapterReadResult}
    (completes : Completes (World.environment submits) (read deviceId signalIds) world result
      world') :
    world' = world ∨ ∃ status,
      Completes (World.environment submits) (refreshDeviceSample deviceId) world status world' := by
  obtain ⟨_, _, looked, rest⟩ := completes_bind_iff.mp completes
  obtain ⟨rfl, rfl⟩ := completes_snapshot_iff.mp looked
  split at rest
  · exact .inl (completes_done_iff.mp rest).2
  · next device found =>
      dsimp only at rest
      split at rest
      · exact .inl (completes_done_iff.mp rest).2
      · obtain ⟨stale, _, aged, rest⟩ := completes_bind_iff.mp rest
        obtain rfl := unchanged_of_needsRefresh aged
        split at rest
        · obtain ⟨status, _, refreshed, rest⟩ := completes_bind_iff.mp rest
          obtain ⟨_, _, lookedAgain, rest⟩ := completes_bind_iff.mp rest
          obtain ⟨rfl, rfl⟩ := completes_snapshot_iff.mp lookedAgain
          refine .inr ⟨status, ?_⟩
          split at rest
          · split at rest
            · obtain ⟨_, rfl⟩ := completes_done_iff.mp rest
              exact refreshed
            · obtain rfl := unchanged_of_serveSample rest
              exact refreshed
          · obtain ⟨_, _, warned, rest⟩ := completes_bind_iff.mp rest
            obtain rfl := completes_warn_iff.mp warned
            split at rest
            · obtain ⟨_, rfl⟩ := completes_done_iff.mp rest
              exact refreshed
            · obtain rfl := unchanged_of_serveSample rest
              exact refreshed
        · exact .inl (unchanged_of_serveSample rest)

theorem refreshRun_of_read [ProviderSdk] {signalIds : List String} {result : AdapterReadResult}
    (completes : Completes (World.environment submits) (read deviceId signalIds) world result
      world') :
    world' = world ∨ ∃ status, RefreshRun submits deviceId world status world' := by
  rcases completes_of_read completes with same | ⟨status, refreshed⟩
  · exact .inl same
  · exact .inr ⟨status, refreshRun_of_completes refreshed⟩

end Runs

/-! ## The provider -/

variable [ProviderSdk]

/-- One operation on the initialized provider; between operations time passes. -/
inductive ProviderStep (submits : Submits) (world : World) : Operation → World → Prop where
  | refresh {deviceId : String} {status : Status} {world' : World}
      (completes : Completes (World.environment submits) (refreshDeviceSample deviceId) world
        status world') :
      ProviderStep submits world (.refresh deviceId status) world'
  | readLevel {deviceId : String} {status : Status} {world' : World}
      (completes : Completes (World.environment submits) (refreshCalibrationLevel deviceId) world
        status world') :
      ProviderStep submits world (.readLevel deviceId status) world'
  | check {deviceId : String} {status : Status} {world' : World}
      (completes : Completes (World.environment submits) (checkCompensation deviceId) world
        status world') :
      ProviderStep submits world (.check deviceId status) world'
  | read {deviceId : String} {signalIds : List String} {result : AdapterReadResult}
      {world' : World}
      (completes : Completes (World.environment submits) (read deviceId signalIds) world result
        world') :
      ProviderStep submits world (.read deviceId signalIds result) world'
  | call {deviceId : String} {functionId : Nat} {args : ValueMap} {result : AdapterCallResult}
      {world' : World}
      (completes : Completes (World.environment submits) (call deviceId functionId args) world
        result world') :
      ProviderStep submits world (.call deviceId functionId args result) world'
  | wait {line : Line} (passes : world.line.Passed line) :
      ProviderStep submits world .wait { world with line }

/-- A world in which `initialize` has just returned, of a valid configuration. -/
def Initialized (submits : Submits) (config : ProviderConfig) (world : World) : Prop :=
  config.Valid ∧ ∃ bus, Completes (World.environment submits) (initializeRuntime config)
    { line := { bus } } () world

/-- The provider, from the end of `initialize` on. -/
def provider (submits : Submits) : TransitionSystem World Operation where
  Initial world := ∃ config, Initialized submits config world
  Step := ProviderStep submits

theorem ProviderStep.through {submits : Submits} {world world' : World} {operation : Operation}
    (step : ProviderStep submits world operation world') :
    Through submits operation.Permits world world' := by
  cases step with
  | refresh completes =>
      exact (refreshRun_of_completes completes).through (fun status => ⟨status, .inl rfl⟩)
        fun status => ⟨status, .inr rfl⟩
  | readLevel completes => exact (levelRun_of_completes completes).through fun status => ⟨status, rfl⟩
  | check completes => exact (checkRun_of_completes completes).through fun status => ⟨status, rfl⟩
  | read completes =>
      rcases refreshRun_of_read completes with rfl | ⟨_, run⟩
      · exact .refl
      · exact run.through (fun status => ⟨status, .inl rfl⟩) fun status => ⟨status, .inr rfl⟩
  | call completes => exact (callRun_of_completes completes).through
  | wait passes => exact .single (.passed passes) rfl

/-- A run of operations goes through the rounds they permit. -/
theorem through_of_steps {submits : Submits} {world world' : World} {labels : List Operation}
    {allowed : Round → Prop} (run : (provider submits).Steps world labels world')
    (permitted : ∀ operation ∈ labels, ∀ round, operation.Permits round → allowed round) :
    Through submits allowed world world' := by
  let permits : Operation → Prop := fun operation =>
    ∀ round, operation.Permits round → allowed round
  refine @TransitionSystem.Steps.maintains_of_labels _ _ (provider submits) permits
    (Through submits allowed world) ?_ _ _ _ .refl permitted run
  intro middle operation next permits before step
  exact before.trans ((ProviderStep.through step).mono permits)

end EzoProvider.Runtime
