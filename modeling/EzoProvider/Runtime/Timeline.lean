import EzoProvider.Interaction.Transition
import EzoProvider.Runtime.Routine
import EzoProvider.Runtime.World

/-!
# A caller in time

The world of one caller with the two clocks of its host. The monotonic clock is
the time that passes; the wall clock goes its own way, unless nothing steps it.
For each device the time is kept at which its cached sample was stamped.
-/

namespace EzoProvider.Runtime

open Interaction Program Devices

/-- A world at a time, `world.clock`, and what the wall clock reads then. `read` is when it was
last read, `taken` when the sample of a device was stamped with it. -/
structure Timeline where
  world : World
  wall : Int := 0
  read : Int := 0
  taken : String → Int := fun _ => 0

/-- How the clocks can go on over an operation, or between two requests: the time that
passes, and the wall clock before and after. -/
abbrev Ticks := Option CallerOp → (elapsed wall wall' : Int) → Prop

/-- The monotonic clock never goes back; the wall clock does anything. -/
def Ticks.free : Ticks := fun _ elapsed _ _ => 0 ≤ elapsed

/-- Nothing steps the wall clock: it goes on by the time that passes. -/
def Ticks.InStep (ticks : Ticks) : Prop :=
  ∀ ⦃op elapsed wall wall'⦄, ticks op elapsed wall wall' → 0 ≤ elapsed ∧ wall' = wall + elapsed

/-- The clocks of a host whose wall clock nothing steps. -/
def Ticks.unstepped : Ticks := fun _ elapsed wall wall' => 0 ≤ elapsed ∧ wall' = wall + elapsed

theorem inStep_unstepped : Ticks.unstepped.InStep := fun _ _ _ _ ticked => ticked

/-- The monotonic clock never goes back. -/
def Ticks.Forward (ticks : Ticks) : Prop :=
  ∀ ⦃op elapsed wall wall'⦄, ticks op elapsed wall wall' → 0 ≤ elapsed

theorem Ticks.InStep.forward {ticks : Ticks} (inStep : ticks.InStep) : ticks.Forward :=
  fun _ _ _ _ ticked => (inStep ticked).1

/-- The number of the sample of a device. -/
def sequenceOf (state : RuntimeState) (deviceId : String) : Option Nat :=
  (state.find deviceId).map (·.sample.sequence)

/-- The time a device's sample was stamped, once a change of the state is made. -/
def Timeline.stamped (start : Timeline) (change : RuntimeState → RuntimeState) (deviceId : String) :
    Int :=
  if sequenceOf (change start.world.state) deviceId = sequenceOf start.world.state deviceId then
    start.taken deviceId
  else start.read

/-- The world, so much later. -/
def World.after (world : World) (elapsed : Int) : World :=
  { world with clock := world.clock + elapsed }

variable [DecimalText]

/-- What a caller's operations do in time: they take a while, and the clocks read what they
read then. -/
def Timeline.environment (submits : Submits) (ticks : Ticks) :
    Environment CallerOp CallerOp.Result Timeline where
  Answers start op answer final :=
    ∃ elapsed, ticks (some op) elapsed start.wall final.wall ∧
      (World.environment submits).Answers (start.world.after elapsed) op answer final.world ∧
      match op, answer with
      | .systemNow, now =>
          now = final.wall ∧ final.read = final.world.clock ∧ final.taken = start.taken
      | .steadyNow, now =>
          now = start.world.clock + elapsed ∧ final.read = start.read ∧ final.taken = start.taken
      | .locked change, _ => final.read = start.read ∧ final.taken = start.stamped change
      | _, _ => final.read = start.read ∧ final.taken = start.taken

/-! ## Requests -/

/-- A request to the provider. -/
inductive Request where
  | refresh (deviceId : String)
  | readLevel (deviceId : String)
  | check (deviceId : String)
  | read (deviceId : String) (signalIds : List String)
  | call (deviceId : String) (functionId : Nat) (args : ValueMap)
  | health (deviceId : String)

/-- A caller which makes a request and drops the result. -/
def Request.run [EzoDriver] [ProviderSdk] : Request → Caller Unit
  | refresh deviceId => do
      let _ ← refreshDeviceSample deviceId
  | readLevel deviceId => do
      let _ ← refreshCalibrationLevel deviceId
  | check deviceId => do
      let _ ← checkCompensation deviceId
  | read deviceId signalIds => do
      let _ ← Runtime.read deviceId signalIds
  | call deviceId functionId args => do
      let _ ← Runtime.call deviceId functionId args
  | health deviceId => do
      let _ ← deviceHealth deviceId

/-- The provider in time, from the end of `initialize` on; between requests time passes. -/
def requests [EzoDriver] [ProviderSdk] (submits : Submits) (ticks : Ticks) :
    TransitionSystem Timeline (Option Request) where
  Initial timeline :=
    ∃ config bus wall, config.Valid ∧
      Completes (Timeline.environment submits ticks) (initializeRuntime config)
        { world := { line := { bus } }, wall } () timeline
  Step timeline label timeline' :=
    match label with
    | some request =>
        Completes (Timeline.environment submits ticks) request.run timeline () timeline'
    | none =>
        ∃ elapsed line, ticks none elapsed timeline.wall timeline'.wall ∧
          timeline.world.line.Passed line ∧
          timeline' =
            { timeline with
              world := { timeline.world.after elapsed with line }
              wall := timeline'.wall }

/-! ## Operations in time -/

section Answers

variable {submits : Submits} {ticks : Ticks} {start final : Timeline} {op : CallerOp}
  {answer : op.Result}

/-- The monotonic clock of the world is the time that has passed. -/
theorem clock_of_answers
    (answers : (Timeline.environment submits ticks).Answers start op answer final) :
    ∃ elapsed, ticks (some op) elapsed start.wall final.wall ∧
      final.world.clock = start.world.clock + elapsed := by
  obtain ⟨elapsed, ticked, world, rest⟩ := answers
  refine ⟨elapsed, ticked, ?_⟩
  cases op with
  | locked change => exact congrArg World.clock world.2
  | submit name timeoutMs job =>
      obtain ⟨line, _, same⟩ := world
      exact congrArg World.clock same
  | steadyNow => exact (congrArg World.clock world.2).trans rest.1
  | stopExecutor =>
      obtain ⟨bus, _, same⟩ := world
      exact congrArg World.clock same
  | systemNow | warn _ | checkHost _ | startExecutor _ => exact congrArg World.clock world

/-- In step, the clocks stay as far apart as they are. -/
theorem apart_of_answers (inStep : ticks.InStep)
    (answers : (Timeline.environment submits ticks).Answers start op answer final) :
    final.wall - final.world.clock = start.wall - start.world.clock := by
  obtain ⟨elapsed, ticked, clock⟩ := clock_of_answers answers
  have wall := (inStep ticked).2
  omega

theorem state_of_answers
    (other : ∀ change, op ≠ .locked change)
    (answers : (Timeline.environment submits ticks).Answers start op answer final) :
    final.world.state = start.world.state ∧ final.taken = start.taken := by
  obtain ⟨elapsed, _, world, rest⟩ := answers
  have frame : final.world.state = (start.world.after elapsed).state := by
    cases op with
    | locked change => exact absurd rfl (other change)
    | submit name timeoutMs job =>
        obtain ⟨line, _, same⟩ := world
        rw [same]
    | stopExecutor =>
        obtain ⟨bus, _, same⟩ := world
        rw [same]
    | steadyNow => rw [world.2]
    | systemNow | warn _ | checkHost _ | startExecutor _ => rw [show final.world = _ from world]
  refine ⟨frame, ?_⟩
  cases op with
  | locked change => exact absurd rfl (other change)
  | systemNow | steadyNow => exact rest.2.2
  | submit _ _ _ | warn _ | checkHost _ | startExecutor _ | stopExecutor => exact rest.2

theorem answers_locked {change : RuntimeState → RuntimeState} {found : RuntimeState}
    (answers : (Timeline.environment submits ticks).Answers start (.locked change) found final) :
    found = start.world.state ∧ final.world.state = change start.world.state ∧
      final.taken = start.stamped change := by
  obtain ⟨elapsed, _, ⟨rfl, world⟩, _, taken⟩ := answers
  exact ⟨rfl, congrArg World.state world, taken⟩

end Answers

/-! ## Time left out -/

/-- A world at another time. -/
def World.at (world : World) (clock : Int) : World := { world with clock }

section Erasure

variable {submits : Submits} {ticks : Ticks}

/-- What a caller's operations do in time, they do in a world without it. -/
theorem answers_at (forward : ticks.Forward) {start final : Timeline} {op : CallerOp}
    {answer : op.Result}
    (answers : (Timeline.environment submits ticks).Answers start op answer final) {clock : Int}
    (before : clock ≤ start.world.clock) :
    ∃ clock' ≤ final.world.clock,
      (World.environment submits).Answers (start.world.at clock) op answer
        (final.world.at clock') := by
  obtain ⟨elapsed', ticked', clocks⟩ := clock_of_answers answers
  obtain ⟨elapsed, ticked, world, rest⟩ := answers
  have later := forward ticked'
  cases op with
  | steadyNow =>
      obtain ⟨_, same⟩ := world
      have now : @Eq Int answer (start.world.clock + elapsed) := rest.1
      have passed := forward ticked
      refine ⟨answer, ?_, ?_, ?_⟩
      · rw [same]
      · simp only [World.at]
        omega
      · rw [same]
        rfl
  | locked change =>
      obtain ⟨found, same⟩ := world
      exact ⟨clock, by omega, found, by rw [same]; rfl⟩
  | submit name timeoutMs job =>
      obtain ⟨line, submitted, same⟩ := world
      exact ⟨clock, by omega, line, submitted, by rw [same]; rfl⟩
  | stopExecutor =>
      obtain ⟨bus, clear, same⟩ := world
      exact ⟨clock, by omega, bus, clear, by rw [same]; rfl⟩
  | systemNow | warn _ | checkHost _ | startExecutor _ =>
      refine ⟨clock, by omega, ?_⟩
      show World.at _ _ = _
      rw [show final.world = _ from world]
      rfl

theorem path_at (forward : ticks.Forward) {start final : Timeline} {trace : CallerTrace}
    (path : (Timeline.environment submits ticks).Path start trace final) {clock : Int}
    (before : clock ≤ start.world.clock) :
    ∃ clock' ≤ final.world.clock,
      (World.environment submits).Path (start.world.at clock) trace (final.world.at clock') := by
  induction path generalizing clock with
  | nil => exact ⟨clock, before, .nil⟩
  | cons answer _ ih =>
      obtain ⟨middle, here, first⟩ := answers_at forward answer before
      obtain ⟨clock', there, rest⟩ := ih here
      exact ⟨clock', there, .cons first rest⟩

theorem completes_at (forward : ticks.Forward) {α : Type} {program : Caller α}
    {start final : Timeline} {value : α}
    (completes : Completes (Timeline.environment submits ticks) program start value final)
    {clock : Int} (before : clock ≤ start.world.clock) :
    ∃ clock' ≤ final.world.clock,
      Completes (World.environment submits) program (start.world.at clock) value
        (final.world.at clock') := by
  obtain ⟨trace, run, path⟩ := completes
  obtain ⟨clock', after, erased⟩ := path_at forward path before
  exact ⟨clock', after, trace, run, erased⟩

end Erasure

end EzoProvider.Runtime
