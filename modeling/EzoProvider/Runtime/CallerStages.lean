import EzoProvider.Interaction.Typestate
import EzoProvider.Runtime.Timeline

/-!
# Where a caller is

The operations of the runtime as a typestate: what a thread holds between two of
its steps, and what it may do with it. A thread which has submitted a job is on
an errand; the reply of a read it records in its next critical section, the
values of a `set_compensation` which succeeded it remembers, and then it checks
the compensation.
-/

namespace EzoProvider.Runtime

open Interaction Program Devices

/-- A job of a thread, for the device as it was looked up. -/
inductive Errand where
  | sample (spec : DeviceSpec)
  | level (spec : DeviceSpec) (reader : Address → JobM ℚ)
  | check (spec : DeviceSpec) (set : Compensation) (reader : Address → JobM CompensationReading)
      (writer : Address → Compensation → JobM Unit)
  | control (spec : DeviceSpec) (functionId : Nat) (args : ControlArgs)

/-- The reads whose outcomes are cached. -/
inductive ReadKind where
  | sample
  | level
  | check
deriving DecidableEq

/-- The name the jobs of a read are submitted under. -/
def ReadKind.jobName (deviceId : String) : ReadKind → String
  | sample => "sample:" ++ deviceId
  | level => "calibration-level:" ++ deviceId
  | check => "compensation:" ++ deviceId

/-- What a thread holds between two steps. -/
inductive Stage where
  | idle
  | looked (spec : DeviceSpec)
  | checking (spec : DeviceSpec) (set : Compensation)
  | replied (errand : Errand) (reply : SubmitReply)
  | stamped (spec : DeviceSpec) (reply : SubmitReply) (nowSteady : Int)
  | remembered (spec : DeviceSpec)

/-- The thread owes nothing. -/
def Stage.Free : Stage → Prop
  | idle | looked _ => True
  | checking .. | replied .. | stamped .. | remembered _ => False

namespace Errand

/-- The device of an errand. -/
def spec : Errand → DeviceSpec
  | sample spec | level spec _ | check spec .. | control spec .. => spec

/-- The name its job is submitted under. -/
def name : Errand → String
  | sample spec => "sample:" ++ spec.id
  | level spec _ => "calibration-level:" ++ spec.id
  | check spec .. => "compensation:" ++ spec.id
  | control spec functionId _ => "call:" ++ toString functionId ++ ":" ++ spec.id

/-- The reply of a control call is only held on to for the values it has set. -/
def after (errand : Errand) (reply : SubmitReply) : Stage :=
  match errand with
  | control _ functionId _ =>
      if reply.status.isOk = true ∧ functionId = kFunctionSetCompensation then
        .replied errand reply
      else .idle
  | _ => .replied errand reply

/-- The read an errand is. -/
def kind : Errand → Option ReadKind
  | sample _ => some .sample
  | level .. => some .level
  | check .. => some .check
  | control .. => none

theorem name_read {errand : Errand} {kind : ReadKind} (is : errand.kind = some kind) :
    errand.name = kind.jobName errand.spec.id := by
  cases errand <;> cases is <;> rfl

theorem name_control (spec : DeviceSpec) (functionId : Nat) (args : ControlArgs) :
    (control spec functionId args).name = "call:" ++ (toString functionId ++ (":" ++ spec.id)) := by
  rw [← String.append_assoc, ← String.append_assoc]
  rfl

/-- Names which begin differently are different. -/
theorem append_ne_of_take {first second : String} (count : Nat)
    (within : count ≤ first.toList.length ∧ count ≤ second.toList.length)
    (differ : first.toList.take count ≠ second.toList.take count) (rest rest' : String) :
    first ++ rest ≠ second ++ rest' := by
  intro same
  have letters : (first ++ rest).toList.take count = (second ++ rest').toList.take count := by
    rw [same]
  rw [String.toList_append, String.toList_append, List.take_append_of_le_length within.1,
    List.take_append_of_le_length within.2] at letters
  exact differ letters

theorem jobName_eq_iff {kind other : ReadKind} {deviceId id : String} :
    kind.jobName deviceId = other.jobName id ↔ kind = other ∧ deviceId = id := by
  constructor
  · intro same
    by_cases alike : kind = other
    · subst alike
      refine ⟨rfl, ?_⟩
      cases kind <;> exact (String.append_right_inj _).mp same
    · cases kind <;> cases other <;> try exact absurd rfl alike
      all_goals exact absurd same (append_ne_of_take 2 (by decide) (by decide) _ _)
  · rintro ⟨rfl, rfl⟩
    rfl

/-- The name of a job says which read it is, and of which device. -/
theorem name_eq_iff {errand : Errand} {kind : ReadKind} {deviceId : String} :
    errand.name = kind.jobName deviceId ↔ errand.kind = some kind ∧ errand.spec.id = deviceId := by
  cases is : errand.kind with
  | some other => rw [name_read is, jobName_eq_iff, Option.some.injEq]
  | none =>
      refine ⟨fun same => ?_, by simp⟩
      cases errand <;> cases is
      rw [name_control] at same
      cases kind
      all_goals exact absurd same (append_ne_of_take 4 (by decide) (by decide) _ _)

variable [EzoDriver]

def job : Errand → Job
  | sample spec => sampleJob spec
  | level spec reader => calibrationLevelJob spec.address reader
  | check spec set reader writer => compensationJob spec.address set reader writer
  | control spec functionId args => callJob spec.address functionId spec.type args

/-- The job is one of the device's family; a control job is of an `allowed` function. -/
def Suits (allowed : Nat → Prop) : Errand → Prop
  | sample _ => True
  | level spec reader => (adapterFor spec.type).readCalibrationLevel = some reader
  | check spec _ reader writer =>
      (adapterFor spec.type).readCompensation = some reader ∧
        (adapterFor spec.type).writeCompensation = some writer
  | control spec functionId args =>
      allowed functionId ∧
        (functionId = kFunctionSetCompensation → Takes spec.type args.compensation)

end Errand

/-- A thread which has looked a device up. -/
def lookStage (deviceId : String) (state : RuntimeState) : Stage :=
  match state.find deviceId with
  | some device => .looked device.spec
  | none => .idle

theorem free_lookStage (deviceId : String) (state : RuntimeState) :
    (lookStage deviceId state).Free := by
  rw [lookStage]
  split <;> trivial

variable [EzoDriver]

/-- A thread which has looked a device up to check its compensation. -/
def checkStage (deviceId : String) (state : RuntimeState) : Stage :=
  match state.find deviceId with
  | some device =>
      match (adapterFor device.spec.type).readCompensation,
        (adapterFor device.spec.type).writeCompensation with
      | some _, some _ => .checking device.spec device.compensationSet
      | _, _ => .idle
  | none => .idle

/-- What a thread may do at a stage. -/
inductive CallerMoves (allowed : Nat → Prop) :
    Stage → (op : CallerOp) → (op.Result → Stage) → Prop where
  | lookedUp {stage deviceId} (free : stage.Free) :
      CallerMoves allowed stage (.locked id) (lookStage deviceId)
  | copied {stage deviceId} (free : stage.Free) :
      CallerMoves allowed stage (.locked id) (checkStage deviceId)
  | called {stage deviceId functionName ok message now} (free : stage.Free) :
      CallerMoves allowed stage
        (.locked (·.update deviceId (recordCall functionName ok message now))) fun _ => .idle
  | clock {stage} (free : stage.Free) : CallerMoves allowed stage .systemNow fun _ => stage
  | warned {stage message} (free : stage.Free) :
      CallerMoves allowed stage (.warn message) fun _ => stage
  | submitted {errand : Errand} {timeout} (suits : errand.Suits allowed)
      (free : ∀ spec set reader writer, errand ≠ .check spec set reader writer) :
      CallerMoves allowed (.looked errand.spec) (.submit errand.name timeout errand.job)
        errand.after
  | checked {spec set reader writer timeout}
      (suits : (Errand.check spec set reader writer).Suits allowed) :
      CallerMoves allowed (.checking spec set)
        (.submit (Errand.check spec set reader writer).name timeout
          (Errand.check spec set reader writer).job)
        (Errand.check spec set reader writer).after
  | dated {spec reply} :
      CallerMoves allowed (.replied (.sample spec) reply) .systemNow
        fun _ => .replied (.sample spec) reply
  | stamped {spec reply} :
      CallerMoves allowed (.replied (.sample spec) reply) .steadyNow fun now =>
        .stamped spec reply now
  | recordedSample {spec reply nowSteady config now} :
      CallerMoves allowed (.stamped spec reply nowSteady)
        (.locked (·.update spec.id
          (recordSample config spec.id reply.status reply.outputs.signals now nowSteady)))
        fun _ => .idle
  | recordedLevel {spec reader reply} :
      CallerMoves allowed (.replied (.level spec reader) reply)
        (.locked (·.update spec.id (recordCalibrationLevel reply.status reply.outputs.level)))
        fun _ => .idle
  | recordedCheck {spec set reader writer reply} :
      CallerMoves allowed (.replied (.check spec set reader writer) reply)
        (.locked (·.update spec.id
          (recordCompensation reply.status reply.outputs.reading reply.outputs.reapplied)))
        fun _ => .idle
  | remembered {spec args reply} :
      CallerMoves allowed (.replied (.control spec kFunctionSetCompensation args) reply)
        (.locked (·.update spec.id (rememberValues args.compensation))) fun _ => .remembered spec
  | confirmed {spec} : CallerMoves allowed (.remembered spec) (.locked id) (checkStage spec.id)

/-- The typestate of the runtime's operations. -/
def callers (allowed : Nat → Prop) : Typestate CallerOp CallerOp.Result Stage where
  Moves := CallerMoves allowed

/-- From a stage at which it owes nothing the program returns to one. -/
def Keeps {α : Type} (allowed : Nat → Prop) (program : Caller α) : Prop :=
  ∀ stage : Stage, stage.Free → program.Obeys (callers allowed) (fun stage _ => stage.Free) stage

section Operations

variable {allowed : Nat → Prop} {α β : Type} {deviceId functionName : String}

theorem keeps_pure (value : α) : Keeps allowed (pure value : Caller α) := fun _ free => free

theorem keeps_bind {program : Caller α} {rest : α → Caller β} (first : Keeps allowed program)
    (second : ∀ value, Keeps allowed (rest value)) : Keeps allowed (program >>= rest) :=
  fun stage free => obeys_bind (first stage free) fun stage value free => second value stage free

theorem keeps_systemNow : Keeps allowed (CallerOp.issue .systemNow) :=
  fun _ free => ⟨_, .clock free, fun _ => free⟩

theorem keeps_warn (message : String) : Keeps allowed (CallerOp.issue (.warn message)) :=
  fun _ free => ⟨_, .warned free, fun _ => free⟩

theorem keeps_snapshot : Keeps allowed snapshot :=
  fun _ free => ⟨lookStage "", .lookedUp free, fun state => free_lookStage _ state⟩

theorem keeps_warnUnlessOk (status : Status) (context : String) :
    Keeps allowed (warnUnlessOk status context) := by
  rw [warnUnlessOk]
  split
  · exact keeps_pure ()
  · exact keeps_warn _

theorem keeps_warnIfAny (warning : Option String) : Keeps allowed (warnIfAny warning) := by
  cases warning with
  | none => exact keeps_pure ()
  | some message => exact keeps_warn message

/-- A recorded reply leaves its thread owing nothing. -/
theorem obeys_record {stage : Stage} {deviceId : String} {change : ActiveDevice → ActiveDevice}
    {rest : RuntimeState → Caller α}
    (moves : CallerMoves allowed stage (.locked (·.update deviceId change)) fun _ => .idle)
    (keeps : ∀ found, Keeps allowed (rest found)) :
    (changeDevice deviceId change >>= rest).Obeys (callers allowed) (fun stage _ => stage.Free)
      stage :=
  obeys_ask_bind_iff.mpr ⟨_, moves, fun found => keeps found _ trivial⟩

theorem keeps_refreshCalibrationLevel : Keeps allowed (refreshCalibrationLevel deviceId) := by
  intro stage free
  refine obeys_ask_bind_iff.mpr ⟨lookStage deviceId, .lookedUp free, fun state => ?_⟩
  cases found : state.find deviceId with
  | none =>
      simp only [lookStage, found]
      exact keeps_pure _ _ trivial
  | some device =>
      obtain rfl := RuntimeState.find_id found
      simp only [lookStage, found]
      split
      · exact keeps_pure _ _ trivial
      · next reader reads =>
          have suits : (Errand.level device.spec reader).Suits allowed := reads
          refine obeys_ask_bind_iff.mpr ⟨_, .submitted suits (by simp), fun reply => ?_⟩
          refine obeys_record .recordedLevel fun found => ?_
          split <;> exact keeps_pure _

/-- A check, from wherever its copy of the values set may be taken. -/
theorem obeys_checkCompensation {stage : Stage}
    (copied : CallerMoves allowed stage (.locked id) (checkStage deviceId)) :
    (checkCompensation deviceId).Obeys (callers allowed) (fun stage _ => stage.Free) stage := by
  refine obeys_ask_bind_iff.mpr ⟨_, copied, fun state => ?_⟩
  cases found : state.find deviceId with
  | none =>
      simp only [checkStage, found]
      exact keeps_pure _ _ trivial
  | some device =>
      obtain rfl := RuntimeState.find_id found
      simp only [checkStage, found]
      cases reads : (adapterFor device.spec.type).readCompensation with
      | none =>
          simp only
          exact keeps_pure _ _ trivial
      | some reader =>
          cases writes : (adapterFor device.spec.type).writeCompensation with
          | none =>
              simp only
              exact keeps_pure _ _ trivial
          | some writer =>
              have suits : (Errand.check device.spec device.compensationSet reader writer).Suits
                  allowed := ⟨reads, writes⟩
              refine obeys_ask_bind_iff.mpr ⟨_, .checked suits, fun reply => ?_⟩
              refine obeys_record .recordedCheck fun found => ?_
              split
              · exact keeps_pure _
              · split
                · exact keeps_bind (keeps_warn _) fun _ => keeps_pure _
                · exact keeps_pure _

theorem keeps_checkCompensation : Keeps allowed (checkCompensation deviceId) :=
  fun _ free => obeys_checkCompensation (.copied free)

theorem keeps_afterSample (status : Status) (warning : Option String) (due : Bool) :
    Keeps allowed (afterSample deviceId status warning due) := by
  refine keeps_bind (keeps_warnIfAny _) fun _ => ?_
  split
  · exact keeps_bind keeps_checkCompensation fun check =>
      keeps_bind (keeps_warnUnlessOk _ _) fun _ => keeps_pure _
  · exact keeps_pure _

theorem keeps_refreshDeviceSample : Keeps allowed (refreshDeviceSample deviceId) := by
  rw [refreshDeviceSample]
  split
  · exact keeps_pure _
  · intro stage free
    refine obeys_ask_bind_iff.mpr ⟨lookStage deviceId, .lookedUp free, fun state => ?_⟩
    cases found : state.find deviceId with
    | none =>
        simp only [lookStage, found]
        exact keeps_pure _ _ trivial
    | some device =>
        obtain rfl := RuntimeState.find_id found
        simp only [lookStage, found]
        have suits : (Errand.sample device.spec).Suits allowed := trivial
        refine obeys_ask_bind_iff.mpr ⟨_, .submitted suits (by simp), fun reply => ?_⟩
        refine obeys_ask_bind_iff.mpr ⟨_, .dated, fun now => ?_⟩
        refine obeys_ask_bind_iff.mpr ⟨_, .stamped, fun nowSteady => ?_⟩
        refine obeys_record .recordedSample fun found => ?_
        split
        · exact keeps_pure _
        · exact keeps_afterSample _ _ _

theorem keeps_recordCallResult (ok : Bool) (message : String) :
    Keeps allowed (recordCallResult deviceId functionName ok message) := by
  rw [recordCallResult]
  split
  · exact keeps_pure _
  · refine keeps_bind keeps_systemNow fun now stage free => ?_
    exact obeys_ask_bind_iff.mpr ⟨_, .called free, fun _ => keeps_pure _ _ trivial⟩

theorem keeps_concludeCall (functionId : Nat) (result : AdapterCallResult) :
    Keeps allowed (concludeCall deviceId functionName functionId result) := by
  rw [concludeCall]
  split
  · refine keeps_bind (keeps_recordCallResult _ _) fun _ => ?_
    split
    · exact keeps_bind keeps_refreshCalibrationLevel fun _ =>
        keeps_bind (keeps_warnUnlessOk _ _) fun _ => keeps_pure _
    · exact keeps_pure _
  · exact keeps_bind (keeps_recordCallResult _ _) fun _ =>
      keeps_bind (keeps_warn _) fun _ => keeps_pure _

/-- A call on a device just looked up. -/
theorem obeys_performCall {state : RuntimeState} {device : ActiveDevice} {functionId : Nat}
    {args : ControlArgs}
    (suits : (Errand.control device.spec functionId args).Suits allowed) :
    (performCall state device device.spec.id functionName functionId args).Obeys (callers allowed)
      (fun stage _ => stage.Free) (.looked device.spec) := by
  -- Values which have been set are remembered and checked, before anything else is done.
  let settles : Stage → AdapterCallResult → Prop := fun stage result =>
    stage.Free ∧ (result.ok = true → functionId ≠ kFunctionSetCompensation) ∨
      functionId = kFunctionSetCompensation ∧ result.ok = true ∧
        ∃ reply, stage = .replied (.control device.spec functionId args) reply
  have executed : (executeSafeCall device functionId args state.config.timeoutMs).Obeys
      (callers allowed) settles (.looked device.spec) := by
    rw [executeSafeCall]
    split
    · exact .inl ⟨trivial, by simp⟩
    · split
      · refine obeys_ask_bind_iff.mpr ⟨_, .submitted suits (by simp), fun reply => ?_⟩
        refine obeys_done_iff.mpr ?_
        rw [Errand.after]
        split
        · next set => exact .inr ⟨set.2, set.1, reply, rfl⟩
        · next unset => exact .inl ⟨trivial, fun ok sets => unset ⟨ok, sets⟩⟩
      · exact .inl ⟨trivial, by simp⟩
  refine obeys_bind executed fun stage result settled => ?_
  have readBack : (readBackCompensation device.spec.id functionName functionId args.compensation
      result).Obeys (callers allowed) (fun stage _ => stage.Free) stage := by
    rw [readBackCompensation, rememberIfSet]
    rcases settled with ⟨free, unset⟩ | ⟨rfl, ok, reply, rfl⟩
    · rw [if_neg (by simpa using unset)]
      exact keeps_bind (keeps_pure _) (fun _ => keeps_bind keeps_checkCompensation fun _ =>
        keeps_warnUnlessOk _ _) _ free
    · rw [if_pos (by simp [ok])]
      refine obeys_ask_bind_iff.mpr ⟨_, .remembered, fun _ => ?_⟩
      exact obeys_bind (obeys_checkCompensation .confirmed) fun stage check free =>
        keeps_warnUnlessOk _ _ stage free
  split
  · exact obeys_bind readBack fun stage _ free => keeps_concludeCall _ _ stage free
  · next unread =>
      rcases settled with ⟨free, _⟩ | ⟨rfl, _⟩
      · exact keeps_concludeCall _ _ stage free
      · simp [readsBackCompensation] at unread

theorem keeps_call {functionId : Nat} (args : ValueMap) (permitted : allowed functionId) :
    Keeps allowed (call deviceId functionId args) := by
  intro stage free
  refine obeys_ask_bind_iff.mpr ⟨lookStage deviceId, .lookedUp free, fun state => ?_⟩
  cases found : state.find deviceId with
  | none =>
      simp only [lookStage, found]
      exact keeps_pure _ _ trivial
  | some device =>
      obtain rfl := RuntimeState.find_id found
      simp only [lookStage, found]
      split
      · exact keeps_pure _ _ trivial
      · split
        · exact keeps_bind (keeps_recordCallResult _ _) (fun _ => keeps_pure _) _ trivial
        · next checked accepted =>
            refine obeys_performCall ⟨permitted, ?_⟩
            rintro rfl
            have takes := takes_of_validateCallArgs accepted
            rw [jobArgs]
            split <;> exact takes

theorem keeps_deviceHealth : Keeps allowed (deviceHealth deviceId) := by
  refine keeps_bind keeps_snapshot fun state => ?_
  split
  · exact keeps_pure _
  · exact keeps_bind keeps_systemNow fun _ => keeps_pure _

theorem keeps_needsRefresh {config : ProviderConfig} {device : ActiveDevice} :
    Keeps allowed (needsRefresh config device) := by
  rw [needsRefresh]
  split
  · exact keeps_bind keeps_systemNow fun _ => keeps_pure _
  · exact keeps_pure _

section Serving

variable [ProviderSdk] {config : ProviderConfig} {device : ActiveDevice} {indexes : List Nat}

theorem keeps_populateSignalValues : Keeps allowed (populateSignalValues config device indexes) := by
  induction indexes with
  | nil => exact keeps_pure _
  | cons index rest ih =>
      exact keeps_bind keeps_systemNow fun _ => keeps_bind ih fun _ => keeps_pure _

theorem keeps_serveSample : Keeps allowed (serveSample config device indexes) := by
  rw [serveSample]
  split
  · exact keeps_bind keeps_populateSignalValues fun _ => keeps_pure _
  · exact keeps_pure _

theorem keeps_refreshAndServe : Keeps allowed (refreshAndServe deviceId indexes) := by
  refine keeps_bind keeps_refreshDeviceSample fun status => keeps_bind keeps_snapshot fun state => ?_
  split
  · split
    · exact keeps_pure _
    · exact keeps_serveSample
  · refine keeps_bind (keeps_warn _) fun _ => ?_
    split
    · exact keeps_pure _
    · exact keeps_serveSample

theorem keeps_read (signalIds : List String) : Keeps allowed (read deviceId signalIds) := by
  refine keeps_bind keeps_snapshot fun state => ?_
  split
  · exact keeps_pure _
  · dsimp only
    split
    · exact keeps_pure _
    · refine keeps_bind keeps_needsRefresh fun stale => ?_
      split
      · exact keeps_refreshAndServe
      · exact keeps_serveSample

/-- The functions a request may call. -/
def Request.Calls (allowed : Nat → Prop) : Request → Prop
  | .call _ functionId _ => allowed functionId
  | _ => True

/-- Every request goes by the typestate. -/
theorem keeps_run {request : Request} (calls : request.Calls allowed) :
    Keeps allowed request.run := by
  cases request with
  | refresh => exact keeps_bind keeps_refreshDeviceSample fun _ => keeps_pure _
  | readLevel => exact keeps_bind keeps_refreshCalibrationLevel fun _ => keeps_pure _
  | check => exact keeps_bind keeps_checkCompensation fun _ => keeps_pure _
  | read deviceId signalIds => exact keeps_bind (keeps_read signalIds) fun _ => keeps_pure _
  | call deviceId functionId args => exact keeps_bind (keeps_call args calls) fun _ => keeps_pure _
  | health => exact keeps_bind keeps_deviceHealth fun _ => keeps_pure _

end Serving

end Operations

end EzoProvider.Runtime
