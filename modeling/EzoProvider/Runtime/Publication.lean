import EzoProvider.Interaction.Register
import EzoProvider.Runtime.OneCaller
import EzoProvider.Runtime.Reapplications
import EzoProvider.Runtime.Slots

/-!
# Published readings

What the readings of a device show under any threads: the reply of the last read
of their kind to be recorded. Where the replies are recorded in the order their
jobs were submitted in, that is the reply of the job which ran last on the bus.
-/

namespace EzoProvider.Runtime

open Interaction Program Devices TransitionSystem

/-! ## Readings -/

section Readings

variable [EzoDriver]

/-- What the replies to one kind of read leave in the record of a device. A reply leaves the
outputs of its job only where it is ok. -/
structure Reading (type : EzoDeviceType) (Value : Type) where
  kind : ReadKind
  view : ActiveDevice → Value
  value : SubmitReply → Option Value
  final : ∀ {reply reply' : SubmitReply}, reply.status = reply'.status →
    (reply.status.isOk = true → reply.outputs = reply'.outputs) → value reply = value reply'
  called : ∀ (device : ActiveDevice) (functionName : String) (ok : Bool) (message : String)
    (now : Int), view (recordCall functionName ok message now device) = view device
  remembered : ∀ (device : ActiveDevice) (values : Compensation),
    view (rememberValues values device) = view device
  sampled : ∀ (device : ActiveDevice) (config : ProviderConfig) (deviceId : String)
    (reply : SubmitReply) (now nowSteady : Int), device.spec.type = type →
      view (recordSample config deviceId reply.status reply.outputs.signals now nowSteady device) =
        (if kind = .sample then value reply else none).getD (view device)
  levelRead : ∀ (device : ActiveDevice) (reply : SubmitReply), device.spec.type = type →
    view (recordCalibrationLevel reply.status reply.outputs.level device) =
      (if kind = .level then value reply else none).getD (view device)
  checked : ∀ (device : ActiveDevice) (reply : SubmitReply), device.spec.type = type →
    view (recordCompensation reply.status reply.outputs.reading reply.outputs.reapplied device) =
      (if kind = .check then value reply else none).getD (view device)

/-- The level cached, or why there is none. -/
def levelReading (type : EzoDeviceType) : Reading type (Option ℚ × String) where
  kind := .level
  view device := (device.calibrationLevel, device.calibrationLevelError)
  value reply := some <|
    if reply.status.isOk then (some reply.outputs.level, "")
    else (none, "calibration level unknown: " ++ reply.status.message)
  final same outputs := by
    rw [← same]
    split
    · next ok => rw [outputs ok]
    · rfl
  called device functionName ok message now := by
    obtain ⟨_, _, _, same⟩ := recordCall_frame device functionName ok message now
    rw [same]
  remembered _ _ := rfl
  sampled device config deviceId reply now nowSteady _ := by
    obtain ⟨_, same, _⟩ := recordSample_frame device config deviceId reply.status
      reply.outputs.signals now nowSteady
    rw [same]
    rfl
  levelRead device reply _ := by
    rw [recordCalibrationLevel]
    split <;> rfl
  checked device reply _ := by
    obtain ⟨_, _, same⟩ := recordCompensation_frame device reply.status reply.outputs.reading
      reply.outputs.reapplied
    rw [same]
    rfl

/-- The compensation read back, or why there is none. -/
def compensationReading (type : EzoDeviceType) : Reading type (CompensationReading × String) where
  kind := .check
  view device := (device.compensationRead, device.compensationError)
  value reply := some <|
    if reply.status.isOk then (reply.outputs.reading, "")
    else ({}, "compensation unknown: " ++ reply.status.message)
  final same outputs := by
    rw [← same]
    split
    · next ok => rw [outputs ok]
    · rfl
  called device functionName ok message now := by
    obtain ⟨_, _, _, same⟩ := recordCall_frame device functionName ok message now
    rw [same]
  remembered _ _ := rfl
  sampled device config deviceId reply now nowSteady _ := by
    obtain ⟨_, same, _⟩ := recordSample_frame device config deviceId reply.status
      reply.outputs.signals now nowSteady
    rw [same]
    rfl
  levelRead device reply _ := by
    obtain ⟨_, _, same⟩ := recordCalibrationLevel_frame device reply.status reply.outputs.level
    rw [same]
    rfl
  checked device reply _ := by
    rw [recordCompensation]
    split <;> rfl

/-- Whether the last read of a sample went well, and what it said if it did not. -/
def outcomeReading (type : EzoDeviceType) : Reading type (Bool × String) where
  kind := .sample
  view device := (device.sample.lastReadOk, device.sample.lastError)
  value reply := some <|
    if reply.status.isOk then (true, "") else (false, reply.status.message)
  final same _ := by rw [same]
  called device functionName ok message now := by
    obtain ⟨_, _, _, same⟩ := recordCall_frame device functionName ok message now
    rw [same]
  remembered _ _ := rfl
  sampled device config deviceId reply now nowSteady _ := by
    rw [recordSample]
    split <;> rfl
  levelRead device reply _ := by
    obtain ⟨_, _, same⟩ := recordCalibrationLevel_frame device reply.status reply.outputs.level
    rw [same]
    rfl
  checked device reply _ := by
    obtain ⟨_, _, same⟩ := recordCompensation_frame device reply.status reply.outputs.reading
      reply.outputs.reapplied
    rw [same]
    rfl

/-- A slot which is filled by the samples of a family, and from neither of the caches. -/
structure Measured (type : EzoDeviceType) (index : Nat) : Prop where
  level : (adapterFor type).calibrationLevelSignal ≠ some index
  temperature : (adapterFor type).temperatureCompensationSignal ≠ some index
  salinity : (adapterFor type).salinityCompensationSignal ≠ some index
  pressure : (adapterFor type).pressureCompensationSignal ≠ some index

variable {type : EzoDeviceType} {index : Nat}

theorem Measured.applyCalibrationLevel (measured : Measured type index) {device : ActiveDevice}
    (family : device.spec.type = type) :
    (applyCalibrationLevel device).sample.signals[index]? = device.sample.signals[index]? := by
  simp only [Runtime.applyCalibrationLevel, family]
  split
  · rfl
  · next filled signal =>
      have other : filled ≠ index := by
        rintro rfl
        exact measured.level signal
      simp [other]

theorem Measured.applyCompensation (measured : Measured type index) {device : ActiveDevice}
    (family : device.spec.type = type) :
    (applyCompensation device).sample.signals[index]? = device.sample.signals[index]? := by
  simp only [Runtime.applyCompensation, compensationSignals, family]
  rw [getElem?_fillCompensation_other measured.pressure,
    getElem?_fillCompensation_other measured.salinity,
    getElem?_fillCompensation_other measured.temperature]

/-- A measured slot, as the last good sample has filled it. -/
def signalReading (measured : Measured type index) : Reading type (Option SignalSample) where
  kind := .sample
  view device := device.sample.signals[index]?
  value reply := if reply.status.isOk then some reply.outputs.signals[index]? else none
  final same outputs := by
    rw [← same]
    split
    · next ok => rw [outputs ok]
    · rfl
  called device functionName ok message now := by
    obtain ⟨_, _, _, same⟩ := recordCall_frame device functionName ok message now
    rw [same]
  remembered _ _ := rfl
  sampled device config deviceId reply now nowSteady family := by
    rw [recordSample]
    split
    · rw [measured.applyCompensation (by exact family),
        measured.applyCalibrationLevel (by exact family)]
      rfl
    · rfl
  levelRead device reply family := by
    rw [recordCalibrationLevel]
    split <;> rw [measured.applyCalibrationLevel (by exact family)] <;> rfl
  checked device reply family := by
    rw [recordCompensation]
    split <;> rw [measured.applyCompensation (by exact family)] <;> rfl

end Readings

/-! ## What a critical section records -/

/-- The reply of a read a thread at this stage records in its next critical section. -/
def Stage.recording (kind : ReadKind) (deviceId : String) : Stage → Option SubmitReply
  | stamped spec reply _ => if kind = .sample ∧ spec.id = deviceId then some reply else none
  | replied errand reply =>
      if errand.kind = some kind ∧ kind ≠ .sample ∧ errand.spec.id = deviceId then some reply
      else none
  | idle | looked _ | checking .. | remembered _ => none

theorem Stage.recording_of_elsewhere {kind : ReadKind} {deviceId : String} {stage : Stage}
    (other : stage.device ≠ some deviceId) :
    stage.recording kind deviceId = none := by
  cases stage <;> simp_all [Stage.recording, Stage.device]

section Recording

variable [EzoDriver] {type : EzoDeviceType} {Value : Type} {deviceId : String}
  {device device' : ActiveDevice} {stage : Stage}

/-- A critical section records the reply its thread holds, and leaves the other readings. -/
theorem Reading.written (reading : Reading type Value) (family : device.spec.type = type)
    (writes : stage.Writes deviceId device device') :
    reading.view device' =
      ((stage.recording reading.kind deviceId).bind reading.value).getD (reading.view device) := by
  cases writes with
  | elsewhere other => rw [Stage.recording_of_elsewhere other, Option.bind_none, Option.getD_none]
  | called free =>
      rw [reading.called, Stage.recording_of_elsewhere free.holdsNone, Option.bind_none,
        Option.getD_none]
  | remembered =>
      rw [reading.remembered]
      simp [Stage.recording, Errand.kind]
  | sampled here =>
      rw [reading.sampled _ _ _ _ _ _ family]
      by_cases own : reading.kind = .sample <;> simp [Stage.recording, here, own]
  | levelRead here =>
      rw [reading.levelRead _ _ family]
      rcases eq_or_ne reading.kind .level with own | other
      · simp [Stage.recording, Errand.kind, Errand.spec, here, own]
      · simp [Stage.recording, Errand.kind, other, other.symm]
  | checked here =>
      rw [reading.checked _ _ family]
      rcases eq_or_ne reading.kind .check with own | other
      · simp [Stage.recording, Errand.kind, Errand.spec, here, own]
      · simp [Stage.recording, Errand.kind, other, other.symm]

end Recording

/-! ## Replies -/

/-- Only the job's own status is ok. -/
theorem completed_of_isOk {outcome : Bus.SubmitOutcome} {name : String}
    (ok : (outcome.status name).isOk = true) :
    ∃ status, outcome = .fulfilled (.completed status) := by
  cases outcome with
  | fulfilled fulfilment =>
      cases fulfilment with
      | completed status => exact ⟨status, rfl⟩
      | skipped | stopped => cases ok
  | refused | deadlineExceeded => cases ok

section Replies

variable [EzoDriver] {type : EzoDeviceType} {Value : Type}

namespace Shared

/-- The reply of a submission which has returned. -/
def answer (shared : Shared) (task : Bus.TaskId) : Option SubmitReply :=
  shared.executor.calls[task]?.bind fun call =>
    match call.phase with
    | .returned outcome => some (shared.replyOf task call.name outcome)
    | .waiting | .expired | .flagged => none

/-- What a task leaves in a reading of a device. -/
def recorded (shared : Shared) (reading : Reading type Value) (deviceId : String)
    (task : Bus.TaskId) : Option Value :=
  if shared.Named (reading.kind.jobName deviceId) task then
    (shared.answer task).bind reading.value
  else none

/-- The record of a device shows what the tasks of a history, in their order, have left in it. -/
structure ShowsLast (shared : Shared) (history : List Bus.TaskId) (deviceId : String)
    (first device : ActiveDevice) : Prop where
  level : (device.calibrationLevel, device.calibrationLevelError) =
    lastWritten (first.calibrationLevel, first.calibrationLevelError)
      (shared.recorded (levelReading device.spec.type) deviceId) history
  compensation : (device.compensationRead, device.compensationError) =
    lastWritten (first.compensationRead, first.compensationError)
      (shared.recorded (compensationReading device.spec.type) deviceId) history
  outcome : (device.sample.lastReadOk, device.sample.lastError) =
    lastWritten (first.sample.lastReadOk, first.sample.lastError)
      (shared.recorded (outcomeReading device.spec.type) deviceId) history
  signals : ∀ {index : Nat} (measured : Measured device.spec.type index),
    device.sample.signals[index]? = lastWritten first.sample.signals[index]?
      (shared.recorded (signalReading measured) deviceId) history

end Shared

variable {allowed : Nat → Prop} {shared shared' : Shared} {deviceId : String}
  {reading : Reading type Value} {task : Bus.TaskId} {errand : Errand} {reply : SubmitReply}
  {stage : Stage} {held : Option Bus.TaskId} {stamp : Option Int}

/-- What a thread has been told is the reply of the submission. -/
theorem Shared.Told.recorded (told : shared.Told allowed task errand reply)
    (is : errand.kind = some reading.kind) :
    shared.recorded reading errand.spec.id task = reading.value reply := by
  have named := told.toDoes.named_iff.mpr ⟨is, rfl⟩
  obtain ⟨call, outcome, found, returned, status, completed⟩ := told.outcome
  obtain ⟨timeout, submission⟩ := told.submission
  have name : call.name = errand.name := by
    simp only [Bus.Executor.submissionOf, found, Option.map_some, Option.some.injEq] at submission
    exact congrArg Bus.Submission.name submission
  rw [Shared.recorded, if_pos named, Shared.answer, found, Option.bind_some, returned,
    Option.bind_some]
  have same : (shared.replyOf task call.name outcome).status = reply.status := by
    rw [status, ← name]
    rfl
  refine reading.final same fun ok => ?_
  obtain ⟨own, rfl⟩ := completed_of_isOk ok
  exact (completed own rfl).2.symm

/-- A task of another errand leaves nothing in the reading. -/
theorem Shared.Does.recorded_eq_none (does : shared.Does allowed task errand)
    (other : ¬ (errand.kind = some reading.kind ∧ errand.spec.id = deviceId)) :
    shared.recorded reading deviceId task = none := by
  rw [Shared.recorded, if_neg (mt does.named_iff.mp other)]

/-- What a thread holds is a reply it has been told, or that of a control call. -/
theorem Stage.Fits.holds (fits : stage.Fits allowed shared held stamp) (here : held = some task) :
    ∃ errand, shared.Does allowed task errand ∧ (errand.kind = none ∨
      ∃ reply, shared.Told allowed task errand reply ∧
        (stage = .replied errand reply ∨
          ∃ spec nowSteady, errand = .sample spec ∧ stage = .stamped spec reply nowSteady)) := by
  have control : shared.HoldsControl allowed held → ∃ errand, shared.Does allowed task errand ∧
      errand.kind = none := by
    intro holds
    obtain ⟨spec, functionId, args, does⟩ := holds task here
    exact ⟨_, does, rfl⟩
  cases stage with
  | idle =>
      obtain ⟨errand, does, none⟩ := control fits
      exact ⟨errand, does, .inl none⟩
  | looked =>
      obtain ⟨errand, does, none⟩ := control fits.2
      exact ⟨errand, does, .inl none⟩
  | checking => cases fits.2.2.symm.trans here
  | remembered => cases fits.2.symm.trans here
  | replied errand reply =>
      obtain ⟨_, other, same, told⟩ := fits
      cases same.symm.trans here
      exact ⟨errand, told.toDoes, .inr ⟨reply, told, .inl rfl⟩⟩
  | stamped spec reply nowSteady =>
      obtain ⟨_, other, same, told⟩ := fits
      cases same.symm.trans here
      exact ⟨_, told.toDoes, .inr ⟨reply, told, .inr ⟨spec, nowSteady, rfl, rfl⟩⟩⟩

/-- A read a thread holds the reply of has returned. -/
theorem Stage.Fits.answered (fits : stage.Fits allowed shared held stamp) (here : held = some task)
    {kind : ReadKind} (named : shared.Named (kind.jobName deviceId) task = true) :
    ∃ (call : Bus.Call JobOp JobOp.Result) (outcome : Bus.SubmitOutcome),
      shared.executor.calls[task]? = some call ∧ call.phase = .returned outcome := by
  obtain ⟨errand, does, none | ⟨reply, told, _⟩⟩ := fits.holds here
  · have is := (does.named_iff.mp named).1
    rw [none] at is
    cases is
  · obtain ⟨call, outcome, found, returned, _⟩ := told.outcome
    exact ⟨call, outcome, found, returned⟩

/-- What returned submissions leave stays as it is. -/
theorem Shared.Extends.recorded (extension : shared.Extends shared') (sound : shared.Sound allowed)
    (answered : shared.Named (reading.kind.jobName deviceId) task = true →
      ∃ (call : Bus.Call JobOp JobOp.Result) (outcome : Bus.SubmitOutcome),
        shared.executor.calls[task]? = some call ∧ call.phase = .returned outcome)
    (known : task < shared.executor.calls.length) :
    shared'.recorded reading deviceId task = shared.recorded reading deviceId task := by
  rw [Shared.recorded, Shared.recorded, extension.named known]
  split
  · next named =>
      obtain ⟨call, outcome, found, returned⟩ := answered named
      obtain ⟨after, foundAfter, returnedAfter⟩ := extension.executor.returned found returned
      have name : after.name = call.name := by
        have before : shared.executor.submissionOf task = some call.submission := by
          rw [Bus.Executor.submissionOf, found, Option.map_some]
        have same := extension.executor.submissionOf before
        rw [Bus.Executor.submissionOf, foundAfter, Option.map_some, Option.some.injEq] at same
        exact congrArg Bus.Submission.name same
      rw [Shared.answer, Shared.answer, found, foundAfter, Option.bind_some, Option.bind_some,
        returned, returnedAfter, Option.bind_some, Option.bind_some]
      refine reading.final (by rw [Shared.replyOf, Shared.replyOf, name]) fun ok => ?_
      obtain ⟨status, rfl⟩ := completed_of_isOk ok
      have ended := sound.executor.promises.ended found returned
      rw [Shared.replyOf, Shared.replyOf, (extension.executor.ended _ ended).2]
  · rfl

end Replies

/-! ## Runs -/

section Runs

variable [EzoDriver] {allowed : Nat → Prop} {shared shared' : Shared} {deviceId : String}
  {first device : ActiveDevice} {stage : Stage} {held : Option Bus.TaskId} {stamp : Option Int}

/-- A thread about to release a task records what the task leaves. -/
theorem Stage.Fits.records (fits : stage.Fits allowed shared held stamp)
    (dated : ∀ spec reply, stage ≠ .replied (.sample spec) reply) {type : EzoDeviceType}
    {Value : Type} (reading : Reading type Value) (shown : Value) :
    ((stage.recording reading.kind deviceId).bind reading.value).getD shown =
      lastWritten shown (shared.recorded reading deviceId) held.toList := by
  have control : shared.HoldsControl allowed held →
      lastWritten shown (shared.recorded reading deviceId) held.toList = shown := by
    intro holds
    cases held with
    | none => rfl
    | some task =>
        obtain ⟨spec, functionId, args, does⟩ := holds task rfl
        rw [Option.toList_some, lastWritten_singleton,
          does.recorded_eq_none (by simp [Errand.kind]), Option.getD_none]
  cases stage with
  | idle => exact (control fits).symm
  | looked => exact (control fits.2).symm
  | checking =>
      obtain ⟨_, _, rfl⟩ := fits
      rfl
  | remembered =>
      obtain ⟨_, rfl⟩ := fits
      rfl
  | replied errand reply =>
      obtain ⟨_, task, rfl, told⟩ := fits
      rw [Option.toList_some, lastWritten_singleton]
      by_cases own : errand.kind = some reading.kind ∧ errand.spec.id = deviceId
      · obtain ⟨is, rfl⟩ := own
        have other : reading.kind ≠ .sample := by
          intro sample
          cases errand with
          | sample spec => exact dated spec reply rfl
          | level | check | control => simp [sample, Errand.kind] at is
        rw [told.recorded is, Stage.recording, if_pos ⟨is, other, rfl⟩, Option.bind_some]
      · rw [told.toDoes.recorded_eq_none own, Stage.recording,
          if_neg fun both => own ⟨both.1, both.2.2⟩, Option.bind_none]
  | stamped spec reply nowSteady =>
      obtain ⟨_, task, rfl, told⟩ := fits
      rw [Option.toList_some, lastWritten_singleton]
      by_cases own : reading.kind = .sample ∧ spec.id = deviceId
      · obtain ⟨is, rfl⟩ := own
        have recorded : shared.recorded reading spec.id task = reading.value reply :=
          told.recorded (by rw [is]; rfl)
        rw [Stage.recording, if_pos ⟨is, rfl⟩, Option.bind_some, recorded]
      · rw [Stage.recording, if_neg own, Option.bind_none, told.toDoes.recorded_eq_none]
        rintro ⟨is, here⟩
        exact own ⟨(Option.some.inj is).symm, here⟩

/-- The readings show what the released tasks have left, all of which have returned. -/
structure Shared.Publishes (deviceId : String) (first : ActiveDevice) (shared : Shared) : Prop where
  answered : ∀ task ∈ shared.released, ∀ kind : ReadKind,
    shared.Named (kind.jobName deviceId) task = true →
      ∃ (call : Bus.Call JobOp JobOp.Result) (outcome : Bus.SubmitOutcome),
        shared.executor.calls[task]? = some call ∧ call.phase = .returned outcome
  shown : ∀ device, shared.state.find deviceId = some device →
    ∀ {type : EzoDeviceType} {Value : Type} (reading : Reading type Value),
      device.spec.type = type → reading.view device =
        lastWritten (reading.view first) (shared.recorded reading deviceId) shared.released

/-- What a thread releases, and records as it does. -/
theorem Shared.Publishes.release (publishes : shared.Publishes deviceId first)
    (sound : shared.Sound allowed) (extension : shared.Extends shared')
    (fits : stage.Fits allowed shared' held stamp)
    (dated : ∀ spec reply, stage ≠ .replied (.sample spec) reply)
    (released : shared'.released = shared.released ++ held.toList)
    (written : ∀ {device}, shared.state.find deviceId = some device →
      ∃ device', shared'.state.find deviceId = some device' ∧
        ∀ {type : EzoDeviceType} {Value : Type} (reading : Reading type Value),
          device.spec.type = type → reading.view device' =
            ((stage.recording reading.kind deviceId).bind reading.value).getD (reading.view device)) :
    shared'.Publishes deviceId first where
  answered task member kind named := by
    rw [released] at member
    rcases List.mem_append.mp member with earlier | now
    · rw [extension.named (sound.released_lt earlier)] at named
      obtain ⟨call, outcome, found, returned⟩ := publishes.answered task earlier kind named
      obtain ⟨after, foundAfter, returnedAfter⟩ := extension.executor.returned found returned
      exact ⟨after, outcome, foundAfter, returnedAfter⟩
    · exact fits.answered (Option.mem_toList.mp now) named
  shown device' found type Value reading family := by
    obtain ⟨device, before, same⟩ := extension.found sound.apart found
    obtain ⟨_, after, records⟩ := written before
    cases after.symm.trans found
    have familyBefore : device.spec.type = type := by rw [same, family]
    have kept : lastWritten (reading.view first) (shared'.recorded reading deviceId)
        shared.released = reading.view device := by
      rw [publishes.shown device before reading familyBefore]
      refine lastWritten_congr fun task member => ?_
      exact extension.recorded sound (publishes.answered task member reading.kind)
        (sound.released_lt member)
    rw [records reading familyBefore, fits.records dated reading, released, lastWritten_append, kept]

variable [DecimalText] [ProviderSdk] {start : Shared} {label : ThreadLabel} {labels : List ThreadLabel}

/-- Every step records what it releases. -/
theorem Shared.Publishes.step (publishes : shared.Publishes deviceId first)
    (sound : shared.Sound allowed) (step : SharedStep shared label shared') :
    shared'.Publishes deviceId first := by
  have extension := sound.extends step
  have silent : ∀ {device : ActiveDevice} {later : RuntimeState},
      later.find deviceId = some device → ∃ device', later.find deviceId = some device' ∧
        ∀ {type : EzoDeviceType} {Value : Type} (reading : Reading type Value),
          device.spec.type = type → reading.view device' =
            ((Stage.idle.recording reading.kind deviceId).bind reading.value).getD
              (reading.view device) :=
    fun found => ⟨_, found, fun _ _ => rfl⟩
  have owes : Stage.idle.Fits allowed shared' none none := by
    simp [Stage.Fits, Shared.HoldsControl]
  cases step with
  | locked found here =>
      obtain ⟨stage, later, fits, moves, _⟩ := sound.moves found here
      refine publishes.release sound extension (fits.extend extension) ?_ rfl fun before => ?_
      · rintro spec reply rfl
        cases moves with
        | lookedUp free | copied free | called free => exact free
      · obtain ⟨device', after, writes⟩ := moves.writes before
        exact ⟨device', after, fun reading family => reading.written family writes⟩
  | submitted found here =>
      obtain ⟨stage, later, fits, moves, _⟩ := sound.moves found here
      have quiet : ∀ kind, stage.recording kind deviceId = none := by
        intro kind
        cases moves <;> rfl
      refine publishes.release sound extension (fits.extend extension) ?_ rfl fun before => ?_
      · rintro spec reply rfl
        cases moves
      · exact ⟨_, before, fun reading _ => by rw [quiet, Option.bind_none, Option.getD_none]⟩
  | arrived | replied | systemNow | steadyNow | warned | served | exchanged | passed =>
      exact publishes.release sound extension owes (by simp) (by simp [Shared.moveThread]) silent

theorem publishes_of_steps (started : Started start)
    (before : start.state.find deviceId = some first)
    (steps : Runtime.threads.Steps start labels shared) : shared.Publishes deviceId first := by
  have fresh : start.released = [] := by
    obtain ⟨_, _, _, _, _, rfl⟩ := started
    rfl
  let invariant : Shared → Prop := fun shared =>
    Runtime.threads.Reachable shared ∧ shared.Publishes deviceId first
  have here : invariant shared := by
    refine steps.maintains (fun {_ _ _} holds step => ?_) ⟨.initial started, ?_⟩
    · exact ⟨holds.1.steps (.single step), holds.2.step (sound_of_threads holds.1) step⟩
    · refine ⟨by simp [fresh], fun device found type Value reading _ => ?_⟩
      cases before.symm.trans found
      rw [fresh, lastWritten_nil]
  exact here.2

omit [DecimalText] [ProviderSdk] in
theorem Shared.Publishes.showsLast (publishes : shared.Publishes deviceId first)
    (found : shared.state.find deviceId = some device) :
    shared.ShowsLast shared.released deviceId first device := by
  have shown := fun {Value : Type} (reading : Reading device.spec.type Value) =>
    publishes.shown device found reading rfl
  exact ⟨shown (levelReading _), shown (compensationReading _), shown (outcomeReading _),
    fun measured => shown (signalReading measured)⟩

/-- Under any threads, what a device shows is the reply of the last read of each kind to have been
recorded. -/
theorem readings_published (started : Started start)
    (before : start.state.find deviceId = some first)
    (steps : Runtime.threads.Steps start labels shared)
    (found : shared.state.find deviceId = some device) :
    shared.ShowsLast shared.released deviceId first device :=
  (publishes_of_steps started before steps).showsLast found

end Runs

/-! ## Replies recorded in order -/

/-- A reply is recorded when those of the reads of its kind submitted before it have been. -/
def RecordsInOrder (shared : Shared) (_ : ThreadLabel) (shared' : Shared) : Prop :=
  ∀ (kind : ReadKind) (deviceId : String) (task earlier : Bus.TaskId),
    task ∈ shared'.released → task ∉ shared.released →
      shared'.Named (kind.jobName deviceId) task = true → earlier < task →
        shared'.Named (kind.jobName deviceId) earlier = true → earlier ∈ shared.released

/-- No caller of a read of the device has given up waiting. -/
def Shared.ReadsWaited (deviceId : String) (shared : Shared) : Prop :=
  ∀ (kind : ReadKind) (task : Bus.TaskId) (call : Bus.Call JobOp JobOp.Result),
    shared.Named (kind.jobName deviceId) task = true → shared.executor.calls[task]? = some call →
      call.phase ≠ .returned .deadlineExceeded

/-- The tasks of one name have been released in their order, none left out. -/
structure Shared.InOrder (name : String) (shared : Shared) : Prop where
  ascending : (shared.released.filter (shared.Named name)).Pairwise (· < ·)
  closed : ∀ task ∈ shared.released, shared.Named name task = true →
    ∀ earlier < task, shared.Named name earlier = true → earlier ∈ shared.released

section Ordered

variable [EzoDriver] {allowed : Nat → Prop} {shared shared' : Shared} {deviceId : String}
  {kind : ReadKind} {task : Bus.TaskId}

theorem Shared.Sound.released_nodup (sound : shared.Sound allowed) : shared.released.Nodup :=
  (List.nodup_append.mp (sound.tasks.nodup_iff.mpr List.nodup_range)).1

/-- Threads which have returned hold the reply of no read. -/
theorem Shared.Sound.released_of_returned (sound : shared.Sound allowed)
    (returned : shared.Returned) (known : task < shared.executor.calls.length)
    (named : shared.Named (kind.jobName deviceId) task = true) : task ∈ shared.released := by
  have member := sound.tasks.symm.subset (List.mem_range.mpr known)
  rcases List.mem_append.mp member with released | busy
  · exact released
  · exfalso
    obtain ⟨thread, listed, holds⟩ := List.mem_filterMap.mp busy
    have fits := sound.fits thread listed
    have done := returned thread listed
    rw [Thread.task, done] at holds
    rw [Thread.Fits, done] at fits
    obtain ⟨stage, at', free⟩ := fits
    obtain ⟨errand, does, none | ⟨reply, _, rfl | ⟨_, _, _, rfl⟩⟩⟩ := at'.holds holds
    · have is := (does.named_iff.mp named).1
      rw [none] at is
      cases is
    · exact free
    · exact free

theorem Shared.InOrder.step {held : Option Bus.TaskId}
    (inOrder : shared.InOrder (kind.jobName deviceId)) (sound : shared.Sound allowed)
    (extension : shared.Extends shared') (distinct : shared'.released.Nodup)
    (released : shared'.released = shared.released ++ held.toList) {label : ThreadLabel}
    (ordered : RecordsInOrder shared label shared') :
    shared'.InOrder (kind.jobName deviceId) := by
  have names : ∀ task ∈ shared.released,
      shared'.Named (kind.jobName deviceId) task = shared.Named (kind.jobName deviceId) task :=
    fun task member => extension.named (sound.released_lt member)
  have fresh : ∀ task ∈ held.toList, task ∉ shared.released := by
    intro task now before
    rw [released] at distinct
    exact (List.nodup_append.mp distinct).2.2 task before task now rfl
  -- A task released now has had all before it released, so it is after all released.
  have closed : ∀ task ∈ held.toList, shared'.Named (kind.jobName deviceId) task = true →
      ∀ earlier < task, shared'.Named (kind.jobName deviceId) earlier = true →
        earlier ∈ shared.released := by
    intro task now named earlier before same
    have member : task ∈ shared'.released := by
      rw [released]
      exact List.mem_append_right _ now
    exact ordered kind deviceId task earlier member (fresh task now) named before same
  constructor
  · rw [released, List.filter_append, List.filter_congr names, List.pairwise_append]
    refine ⟨inOrder.ascending, ?_, ?_⟩
    · cases held with
      | none => exact .nil
      | some task => exact (List.pairwise_singleton _ _).filter _
    · intro earlier before task now
      obtain ⟨before, named⟩ := List.mem_filter.mp before
      obtain ⟨now, named'⟩ := List.mem_filter.mp now
      rcases Nat.lt_trichotomy earlier task with lower | rfl | higher
      · exact lower
      · exact absurd before (fresh _ now)
      · have known : task < shared.executor.calls.length :=
          higher.trans (sound.released_lt before)
        rw [extension.named known] at named'
        exact absurd (inOrder.closed earlier before named task higher named') (fresh _ now)
  · intro task member named earlier before same
    rw [released] at member ⊢
    refine List.mem_append_left _ ?_
    rcases List.mem_append.mp member with old | now
    · rw [names task old] at named
      rw [extension.named (before.trans (sound.released_lt old))] at same
      exact inOrder.closed task old named earlier before same
    · exact closed task now named earlier before same

variable [DecimalText] [ProviderSdk] {start : Shared} {labels : List ThreadLabel}
  {first device : ActiveDevice}

theorem SharedStep.released {label : ThreadLabel} (step : SharedStep shared label shared') :
    ∃ held : Option Bus.TaskId, shared'.released = shared.released ++ held.toList := by
  cases step with
  | @locked _ thread | @submitted _ thread => exact ⟨thread.held, rfl⟩
  | _ => exact ⟨none, (List.append_nil _).symm⟩

theorem inOrder_of_reachable (reachable : (threads.restrict RecordsInOrder).Reachable shared) :
    shared.InOrder (kind.jobName deviceId) := by
  let ordered : Shared → Prop := fun shared => shared.InOrder (kind.jobName deviceId)
  have here : ordered shared := by
    refine reachable.induct ?_ ?_
    · rintro _ ⟨_, _, _, _, _, rfl⟩
      exact ⟨.nil, by simp⟩
    intro shared label shared' prior inOrder step
    have sound := sound_of_threads prior.of_restrict
    obtain ⟨held, released⟩ := step.1.released
    have after := sound_of_threads (prior.of_restrict.steps (.single step.1))
    exact Shared.InOrder.step inOrder sound (sound.extends step.1) after.released_nodup released
      step.2
  exact here

omit [DecimalText] [ProviderSdk] in
/-- A reading left by the tasks released is left by the tasks of any history which is in order and
has the same reads. -/
theorem lastWritten_released {type : EzoDeviceType} {Value : Type} {reading : Reading type Value}
    {shown : Value} {history : List Bus.TaskId}
    (inOrder : shared.InOrder (reading.kind.jobName deviceId)) (ascending : history.Pairwise (· < ·))
    (same : ∀ task, shared.Named (reading.kind.jobName deviceId) task = true →
      (task ∈ shared.released ↔ task ∈ history)) :
    lastWritten shown (shared.recorded reading deviceId) shared.released =
      lastWritten shown (shared.recorded reading deviceId) history := by
  refine lastWritten_eq_of_ascending (fun task unnamed => ?_) inOrder.ascending (ascending.filter _)
    same
  rw [Shared.recorded, unnamed]
  rfl

/-- Where the replies are recorded in order, a device shows what the tasks of any history in order
leave which has the same reads. -/
theorem showsLast_of_inOrder (started : Started start)
    (before : start.state.find deviceId = some first)
    (steps : (Runtime.threads.restrict RecordsInOrder).Steps start labels shared)
    (found : shared.state.find deviceId = some device) {history : List Bus.TaskId}
    (ascending : history.Pairwise (· < ·))
    (same : ∀ (kind : ReadKind) (task : Bus.TaskId),
      shared.Named (kind.jobName deviceId) task = true →
        (task ∈ shared.released ↔ task ∈ history)) :
    shared.ShowsLast history deviceId first device := by
  have publishes := publishes_of_steps started before steps.of_restrict
  have each := fun {Value : Type} (reading : Reading device.spec.type Value) =>
    (publishes.shown device found reading rfl).trans
      (lastWritten_released (inOrder_of_reachable ⟨start, labels, started, steps⟩) ascending
        (same reading.kind))
  exact ⟨each (levelReading _), each (compensationReading _), each (outcomeReading _),
    fun measured => each (signalReading measured)⟩

/-- Once all have returned, none of them having given up a read of the device, the replies recorded
are those of the reads which have run. -/
theorem released_iff_begun (started : Started start)
    (before : start.state.find deviceId = some first)
    (steps : Runtime.threads.Steps start labels shared) (returned : shared.Returned)
    (waited : shared.ReadsWaited deviceId)
    (named : shared.Named (kind.jobName deviceId) task = true) :
    task ∈ shared.released ↔ task ∈ shared.executor.begun := by
  have reachable : threads.Reachable shared := ⟨start, labels, started, steps⟩
  have sound := sound_of_threads reachable
  constructor
  · intro member
    obtain ⟨call, outcome, called, answered⟩ :=
      (publishes_of_steps started before steps).answered task member kind named
    rcases (attends_of_threads reachable task call called).returned outcome answered with
      rfl | ⟨status, rfl⟩
    · exact absurd answered (waited kind task call named called)
    · have ended := sound.executor.promises.ended called answered
      exact sound.executor.executions.ended_begun _ ended
  · intro begun
    exact sound.released_of_returned returned (sound.executor.order.known_lt (.inl begun)) named

/-- Where the replies are recorded in order, a device shows, once all have returned, the reply of
the last read of each kind to have been submitted; if no caller of them has given up, that of the
last to have run on the bus. -/
theorem readings_in_order (started : Started start)
    (before : start.state.find deviceId = some first)
    (steps : (Runtime.threads.restrict RecordsInOrder).Steps start labels shared)
    (returned : shared.Returned) (found : shared.state.find deviceId = some device) :
    shared.ShowsLast (List.range shared.executor.calls.length) deviceId first device ∧
      (shared.ReadsWaited deviceId →
        shared.ShowsLast shared.executor.begun deviceId first device) := by
  have sound := sound_of_threads ⟨start, labels, started, steps.of_restrict⟩
  constructor
  · refine showsLast_of_inOrder started before steps found List.pairwise_lt_range
      fun kind task named => ?_
    rw [List.mem_range]
    exact ⟨sound.released_lt, fun known => sound.released_of_returned returned known named⟩
  · intro waited
    exact showsLast_of_inOrder started before steps found sound.executor.order.begun
      fun kind task named => released_iff_begun started before steps.of_restrict returned waited named

end Ordered

section Canned

open CannedBus CannedProvider CannedThreads

theorem steps_of_runs {setup : Setup} {permits : Shared → ThreadLabel → Shared → Bool}
    {condition : Shared → ThreadLabel → Shared → Prop}
    (meets : ∀ {shared label next}, permits shared label next = true → condition shared label next)
    {choices : List Choice} {shared final : Shared}
    (run : runs setup permits choices shared = some final) :
    ∃ labels, (threads.restrict condition).Steps shared labels final := by
  induction choices generalizing shared with
  | nil =>
      cases run
      exact ⟨[], .refl⟩
  | cons choice rest ih =>
      rw [runs] at run
      split at run
      · cases run
      · next label next advanced =>
          split at run
          · next permitted =>
              obtain ⟨labels, later⟩ := ih run
              have step : (threads.restrict condition).Step shared label next :=
                ⟨step_of_advance advanced, meets permitted⟩
              exact ⟨_, (Steps.single step).trans later⟩
          · cases run

/-- The name a task was submitted under. -/
def taskName (shared : Shared) (task : Bus.TaskId) : Option String :=
  (shared.executor.submissionOf task).map (·.name)

/-- Whether the tasks released now are the first of their name not to have been. -/
def recordsInOrder (shared : Shared) (_ : ThreadLabel) (shared' : Shared) : Bool :=
  shared'.released.all fun task =>
    shared.released.contains task || (List.range task).all fun earlier =>
      taskName shared' earlier ≠ taskName shared' task || shared.released.contains earlier

theorem taskName_of_named {shared : Shared} {name : String} {task : Bus.TaskId}
    (named : shared.Named name task = true) : taskName shared task = some name := by
  obtain ⟨submission, found, same⟩ := (Option.any_eq_true _ _).mp named
  rw [taskName, found, Option.map_some, of_decide_eq_true same]

theorem recordsInOrder_of_check {shared shared' : Shared} {label : ThreadLabel}
    (checked : recordsInOrder shared label shared' = true) :
    RecordsInOrder shared label shared' := by
  intro kind deviceId task earlier member fresh named before same
  have each := List.all_eq_true.mp checked task member
  simp only [Bool.or_eq_true, List.contains_iff_mem, fresh, false_or, List.all_eq_true] at each
  have released := each earlier (List.mem_range.mpr before)
  simpa [taskName_of_named named, taskName_of_named same] using released

/-- Two refreshes and two level reads at once, whose replies are looked at out of order and
recorded in order. -/
def readsAtOnce : List Choice :=
  .arrives (.refresh "probe") :: .arrives (.readLevel "probe") :: .arrives (.refresh "probe") ::
    .arrives (.readLevel "probe") :: .goes 0 :: .goes 1 :: .goes 2 :: .goes 3 :: .goes 2 ::
      .goes 1 :: .goes 0 :: .goes 3 :: worksThen 40 (.returns 3 :: .returns 2 :: .returns 1 ::
        .returns 0 :: .goes 3 :: .goes 0 :: .goes 1 :: .goes 2 :: .goes 1 :: .goes 3 ::
          List.replicate 3 (.goes 2) ++ List.replicate 3 (.goes 0))

/-- Whether all have returned, four jobs having run, and there is a device with a level. -/
def readFour (shared : Shared) : Bool :=
  hasReturned shared && shared.executor.begun.length = 4 &&
    (shared.executor.calls.all fun call => call.phase ≠ .returned .deadlineExceeded) &&
      (start.state.find "probe").isSome &&
        (shared.state.find "probe").any (·.calibrationLevel.isSome)

theorem readsAtOnce_readFour :
    (runs healthy recordsInOrder readsAtOnce start).any readFour = true := by
  decide +kernel

/-- A run of the canned threads, with a device before and after it. -/
theorem exists_readFour : ∃ labels shared first device,
    (threads.restrict RecordsInOrder).Steps start labels shared ∧
      start.state.find "probe" = some first ∧ shared.state.find "probe" = some device ∧
        shared.Returned ∧ shared.executor.begun.length = 4 ∧ shared.ReadsWaited "probe" ∧
          device.calibrationLevel.isSome = true := by
  obtain ⟨shared, run, checked⟩ := (Option.any_eq_true _ _).mp readsAtOnce_readFour
  simp only [readFour, Bool.and_eq_true, Option.any_eq_true, decide_eq_true_eq,
    List.all_eq_true] at checked
  obtain ⟨⟨⟨⟨returned, four⟩, waited⟩, before⟩, device, found, level⟩ := checked
  obtain ⟨first, before⟩ := Option.isSome_iff_exists.mp before
  obtain ⟨labels, steps⟩ := steps_of_runs recordsInOrder_of_check run
  refine ⟨labels, shared, first, device, steps, before, found, returned_of_hasReturned returned,
    four, fun kind task call _ called => ?_, level⟩
  exact waited call (List.mem_of_getElem? called)

theorem readings_published_canned : ∃ shared first device,
    threads.Reachable shared ∧ device.calibrationLevel.isSome = true ∧
      shared.ShowsLast shared.released "probe" first device := by
  obtain ⟨labels, shared, first, device, steps, before, found, _, _, _, level⟩ := exists_readFour
  exact ⟨shared, first, device, ⟨start, labels, started_start, steps.of_restrict⟩, level,
    readings_published started_start before steps.of_restrict found⟩

theorem readings_in_order_canned : ∃ shared first device,
    (threads.restrict RecordsInOrder).Reachable shared ∧ shared.executor.begun.length = 4 ∧
      device.calibrationLevel.isSome = true ∧
        shared.ShowsLast shared.executor.begun "probe" first device := by
  obtain ⟨labels, shared, first, device, steps, before, found, returned, four, waited, level⟩ :=
    exists_readFour
  exact ⟨shared, first, device, ⟨start, labels, started_start, steps⟩, four, level,
    (readings_in_order started_start before steps returned found).2 waited⟩

end Canned

end EzoProvider.Runtime
