import EzoProvider.Runtime.CannedProvider
import EzoProvider.Runtime.CompensationRounds

/-!
# The compensation after a call

A call which may have changed the compensation ends with a check. What it shows
afterwards is what the probe reports, or nothing.
-/

namespace EzoProvider.Runtime

open Interaction Program Devices TransitionSystem

/-- A call after which the compensation is read back. -/
def SetsCompensation (functionId : Nat) (type : EzoDeviceType) : Prop :=
  (functionId = kFunctionSetCompensation ∧ (type = .ph ∨ type = .dox)) ∨
    (functionId = kFunctionCalibrate ∧ type = .dox)

theorem SetsCompensation.readsBack {functionId : Nat} {type : EzoDeviceType}
    (sets : SetsCompensation functionId type) :
    readsBackCompensation functionId type = true := by
  rcases sets with ⟨rfl, _⟩ | ⟨rfl, rfl⟩ <;> rfl

section Calls

variable [EzoDriver]

theorem SetsCompensation.adapted {functionId : Nat} {type : EzoDeviceType}
    (sets : SetsCompensation functionId type) :
    ∃ reader writer, (adapterFor type).readCompensation = some reader ∧
      (adapterFor type).writeCompensation = some writer := by
  rcases sets with ⟨_, rfl | rfl⟩ | ⟨_, rfl⟩ <;> exact ⟨_, _, rfl, rfl⟩

variable [DecimalText] {submits : Submits} {world world' : World} {deviceId : String}
  {device : ActiveDevice} {functionId : Nat} {args : ValueMap} {checked : ControlArgs}
  {function : FunctionSpec} {result : AdapterCallResult}

/-- An accepted call which is read back, part by part. -/
theorem readBack_of_call (found : world.state.find deviceId = some device)
    (declared : findFunctionById device functionId = some function)
    (accepted : validateCallArgs functionId device.spec.type args = .ok checked)
    (reads : readsBackCompensation functionId device.spec.type = true)
    (run : CallRun submits deviceId functionId args world result world') :
    ∃ check controlled remembered readBack,
      ExecuteRun submits deviceId functionId (jobArgs device functionId checked) world result
        controlled ∧
      RememberRun submits deviceId functionId (jobArgs device functionId checked).compensation
        result.ok controlled remembered ∧
      CheckRun submits deviceId remembered check readBack ∧
      ConcludeRun submits deviceId function.name functionId readBack result world' := by
  cases run with
  | unknownDevice missing => simp [missing] at found
  | unknownFunction foundOther undeclared =>
      cases foundOther.symm.trans found
      simp [undeclared] at declared
  | refused foundOther _ refused =>
      cases foundOther.symm.trans found
      simp [refused] at accepted
  | performed foundOther declaredOther acceptedOther performed =>
      cases foundOther.symm.trans found
      cases declaredOther.symm.trans declared
      cases acceptedOther.symm.trans accepted
      cases performed with
      | plain unread => simp [reads] at unread
      | readBack _ executed remembering checking concluded =>
          exact ⟨_, _, _, _, executed, remembering, checking, concluded⟩

/-- A device with a reader and a writer is checked on the bus. -/
theorem CheckRun.step {check : Status} (run : CheckRun submits deviceId world check world')
    (found : world.state.find deviceId = some device)
    {reader : Address → JobM CompensationReading} {writer : Address → Compensation → JobM Unit}
    (reads : (adapterFor device.spec.type).readCompensation = some reader)
    (writes : (adapterFor device.spec.type).writeCompensation = some writer) :
    RoundStep submits world (.checked deviceId check) world' := by
  cases run with
  | unknown missing => simp [missing] at found
  | unsupported foundOther none =>
      cases foundOther.symm.trans found
      simp [reads, writes] at none
  | checked step => exact step

/-- The end of a call does not touch the compensation. -/
theorem ConcludeRun.quiet {functionName : String}
    (run : ConcludeRun submits deviceId functionName functionId world result world') :
    Through submits (Round.Quiet deviceId) world world' :=
  run.through (fun _ _ => Round.quiet_recorded) fun _ _ _ => Round.quiet_levelRead

/-- Once a call which may have changed the compensation has returned, each compensation
slot is unavailable or shows what the probe reports; after a check which was ok the probe
has every value set in effect. -/
theorem compensation_slots_after_call [ProviderSdk] {before after : World}
    (reachable : (provider Line.Submitted).Reachable before)
    (found : before.state.find deviceId = some device)
    (sets : SetsCompensation functionId device.spec.type)
    (declared : findFunctionById device functionId = some function)
    (accepted : validateCallArgs functionId device.spec.type args = .ok checked)
    (called : (provider Line.Submitted).Step before (.call deviceId functionId args result) after)
    (powered : (after.line.bus device.spec.address).powerUps =
      (before.line.bus device.spec.address).powerUps) :
    ∃ device', after.state.find deviceId = some device' ∧ device'.spec = device.spec ∧
      (∀ entry ∈ compensationSlots (adapterFor device.spec.type)
          ((after.line.bus device.spec.address).holding.reading device.spec.type).values,
        ∀ index slot, entry.1 = some index → device'.sample.signals[index]? = some slot →
          slot.available = false ∨ (slot.available = true ∧ entry.2 = some slot.value)) ∧
      (device'.compensationError = "" →
        holdsAll device'.compensationSet
          ((after.line.bus device.spec.address).holding.reading device.spec.type).values = true ∧
        InEffect device'.compensationSet (after.line.bus device.spec.address).holding) := by
  have sound := sound_of_reachable reachable
  have soundAfter := sound_of_reachable (reachable.steps (.single called))
  obtain ⟨reader, writer, reads, writes⟩ := sets.adapted
  cases called with
  | call completes =>
      obtain ⟨check, controlled, remembered, readBack, executed, remembering, checking, concluded⟩ :=
        readBack_of_call found declared accepted sets.readsBack (callRun_of_completes completes)
      have prepared : Through Line.Submitted (fun _ => True) before remembered := by
        refine (executed.through fun _ => trivial).trans ?_
        cases remembering with
        | skipped => exact .refl
        | remembered _ _ step => exact .single step trivial
      obtain ⟨start, foundStart, spec⟩ := prepared.found found
      have formed := prepared.wellFormed sound.toWellFormed
      have step := checking.step foundStart (by rw [spec]; exact reads) (by rw [spec]; exact writes)
      obtain ⟨middle, foundMiddle, specMiddle, setMiddle, _, outcome⟩ :=
        checkOutcome_of_step formed step foundStart
      obtain ⟨device', found', same⟩ :=
        concluded.quiet.sameCompensation (fun _ quiet => quiet) foundMiddle
      have specAfter : device'.spec = device.spec := same.spec.trans (specMiddle.trans spec)
      have shown := soundAfter.compensation found'
      refine ⟨device', found', specAfter, ?_⟩
      have first := (prepared.later device.spec.address).powerUps
      have second := (step.later device.spec.address).powerUps
      have third := (concluded.quiet.later device.spec.address).powerUps
      cases outcome with
      | failed _ error read =>
          refine ⟨?_, fun none => absurd (same.error ▸ none) error⟩
          intro entry member index slot signal here
          have blank : (entry.1, none) ∈ compensationSlots (adapterFor device'.spec.type)
              device'.compensationRead.values := by
            rw [same.read, read, specAfter]
            simp only [compensationSlots, List.mem_cons, List.not_mem_nil, or_false] at member ⊢
            rcases member with rfl | rfl | rfl <;> simp
          exact .inl (shown _ blank index slot signal here).1
      | @checked outputs ok _ read _ holds left =>
          rw [spec] at holds left
          have reading := left.reading (by omega)
          have stayed := concluded.quiet.quiet (step.wellFormed formed) (fun _ quiet => quiet)
            foundMiddle (by rw [specMiddle, spec]; exact left.quiet)
          rw [specMiddle, spec] at stayed
          have held := stayed.2 (by omega)
          have cached : device'.compensationRead =
              (after.line.bus device.spec.address).holding.reading device.spec.type := by
            rw [same.read, read, reading, held]
          refine ⟨?_, fun _ => ?_⟩
          · intro entry member index slot signal here
            rw [← cached, ← specAfter] at member
            have shows := shown entry member index slot signal here
            cases value : entry.2 with
            | none =>
                rw [value] at shows
                exact .inl shows.1
            | some value' =>
                rw [value] at shows
                exact .inr ⟨shows.1, by rw [shows.2.2]⟩
          · have takes := soundAfter.takes found'
            rw [specAfter] at takes
            have within : holdsAll device'.compensationSet
                ((after.line.bus device.spec.address).holding.reading device.spec.type).values =
                  true := by
              rw [← cached, same.read, read, same.set, setMiddle]
              exact holds (by omega)
            exact ⟨within, inEffect_of_reading reads takes within⟩

end Calls

section Canned

open CannedBus CannedProvider

theorem compensation_slots_after_call_canned :
    let setup := products .dox fun _ => false
    let before := started setup (oneDevice .dox) { holding := defaults, powerUp := defaults }
    let after := (play setup (call "probe" kFunctionSetCompensation (temperatureArgs 25)) before).final
    ∃ device', after.state.find "probe" = some device' ∧
      device'.compensationSet = { temperatureC := some 25 } ∧
      (∀ entry ∈ compensationSlots (adapterFor .dox)
          ((after.line.bus 97).holding.reading .dox).values,
        ∀ index slot, entry.1 = some index → device'.sample.signals[index]? = some slot →
          slot.available = false ∨ (slot.available = true ∧ entry.2 = some slot.value)) ∧
      holdsAll device'.compensationSet
        ((after.line.bus 97).holding.reading .dox).values = true := by
  intro setup before after
  obtain ⟨device, found⟩ := Option.isSome_iff_exists.mp
    (show (before.state.find "probe").isSome = true by decide +kernel)
  have spec : (before.state.find "probe").map (·.spec) = some ⟨"probe", .dox, 97⟩ := by
    decide +kernel
  have declared : (before.state.find "probe").map (findFunctionById · kFunctionSetCompensation) =
      some (findFunctionById { spec := ⟨"probe", .dox, 97⟩, capabilities := buildCapabilities .dox }
        kFunctionSetCompensation) := by decide +kernel
  have settled : (after.state.find "probe").map (fun device =>
      (device.compensationError, device.compensationSet)) =
        some ("", { temperatureC := some 25 }) := by decide +kernel
  have powered : (after.line.bus 97).powerUps = (before.line.bus 97).powerUps := by decide +kernel
  rw [found, Option.map_some, Option.some_inj] at spec declared
  obtain ⟨device', found', _, slots, inEffect⟩ :=
    compensation_slots_after_call (reachable_started setup .dox _) found
      (.inl ⟨rfl, .inr (by rw [spec])⟩) declared
      (by rw [spec]; rfl) (called_play setup "probe" kFunctionSetCompensation (temperatureArgs 25)
        before) (by rw [spec]; exact powered)
  rw [found', Option.map_some, Option.some_inj, Prod.mk.injEq] at settled
  rw [spec] at slots inEffect
  exact ⟨device', found', settled.2, slots, (inEffect settled.1).1⟩

end Canned

end EzoProvider.Runtime
