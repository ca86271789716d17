import EzoProvider.Runtime.CallerStages
import EzoProvider.Runtime.Soundness
import EzoProvider.Runtime.Threads

/-!
# What holds under any threads

Every thread is at a stage of its operation, and what it holds there is what its
job has left; every task is waited for, held or released, once. `Writes` says
what a critical section does to the record of a device, and no later proof looks
into the operations again.
-/

namespace EzoProvider.Runtime

open Interaction Program Devices TransitionSystem

/-! ## Critical sections -/

/-- The device a stage has a reply for. -/
def Stage.device : Stage → Option String
  | stamped spec .. => some spec.id
  | replied errand _ => some errand.spec.id
  | idle | looked _ | checking .. | remembered _ => none

/-- The values a check has copied are values its family takes. -/
def Errand.Takes : Errand → Prop
  | check spec set .. => Runtime.Takes spec.type set
  | sample _ | level .. | control .. => True

theorem Stage.Free.holdsNone {stage : Stage} {deviceId : String} (free : stage.Free) :
    stage.device ≠ some deviceId := by
  cases stage <;> simp_all [Stage.Free, Stage.device]

section Writes

variable [EzoDriver]

/-- What a critical section at a stage makes of the record of a device. -/
inductive Stage.Writes (deviceId : String) (device : ActiveDevice) : Stage → ActiveDevice → Prop where
  | elsewhere {stage : Stage} (other : stage.device ≠ some deviceId) :
      Writes deviceId device stage device
  | called {stage : Stage} {functionName : String} {ok : Bool} {message : String} {now : Int}
      (free : stage.Free) :
      Writes deviceId device stage (recordCall functionName ok message now device)
  | sampled {spec : DeviceSpec} {reply : SubmitReply} {nowSteady now : Int}
      {config : ProviderConfig} (here : spec.id = deviceId) :
      Writes deviceId device (.stamped spec reply nowSteady)
        (recordSample config deviceId reply.status reply.outputs.signals now nowSteady device)
  | levelRead {spec : DeviceSpec} {reader : Address → JobM ℚ} {reply : SubmitReply}
      (here : spec.id = deviceId) :
      Writes deviceId device (.replied (.level spec reader) reply)
        (recordCalibrationLevel reply.status reply.outputs.level device)
  | checked {spec : DeviceSpec} {set : Compensation} {reader : Address → JobM CompensationReading}
      {writer : Address → Compensation → JobM Unit} {reply : SubmitReply}
      (here : spec.id = deviceId) :
      Writes deviceId device (.replied (.check spec set reader writer) reply)
        (recordCompensation reply.status reply.outputs.reading reply.outputs.reapplied device)
  | remembered {spec : DeviceSpec} {args : ControlArgs} {reply : SubmitReply}
      (here : spec.id = deviceId) :
      Writes deviceId device (.replied (.control spec kFunctionSetCompensation args) reply)
        (rememberValues args.compensation device)

variable {allowed : Nat → Prop} {state : RuntimeState} {deviceId : String}
  {device device' : ActiveDevice} {stage : Stage} {change : RuntimeState → RuntimeState}
  {later : RuntimeState → Stage}

/-- An update of one device writes to its record, and to no other. -/
theorem writes_of_update {of : String} {change : ActiveDevice → ActiveDevice}
    (kept : ∀ device, (change device).spec = device.spec)
    (found : state.find deviceId = some device)
    (here : of = deviceId → stage.Writes deviceId device (change device))
    (other : of ≠ deviceId → stage.device ≠ some deviceId) :
    ∃ device', (state.update of change).find deviceId = some device' ∧
      stage.Writes deviceId device device' := by
  by_cases same : of = deviceId
  · subst same
    exact ⟨_, by rw [RuntimeState.find_update_self kept, found, Option.map_some], here rfl⟩
  · refine ⟨device, ?_, .elsewhere (other same)⟩
    rw [RuntimeState.find_update_other kept (Ne.symm same), found]

theorem CallerMoves.writes (moves : CallerMoves allowed stage (.locked change) later)
    (found : state.find deviceId = some device) :
    ∃ device', (change state).find deviceId = some device' ∧ stage.Writes deviceId device device' := by
  cases moves with
  | lookedUp free | copied free => exact ⟨device, found, .elsewhere free.holdsNone⟩
  | confirmed => exact ⟨device, found, .elsewhere (by simp [Stage.device])⟩
  | called free =>
      exact writes_of_update (by simp) found (fun _ => .called free) fun _ => free.holdsNone
  | recordedSample =>
      refine writes_of_update (by simp) found ?_ fun other => by simpa [Stage.device] using other
      rintro rfl
      exact .sampled rfl
  | recordedLevel =>
      exact writes_of_update (by simp) found .levelRead fun other => by
        simpa [Stage.device, Errand.spec] using other
  | recordedCheck =>
      exact writes_of_update (by simp) found .checked fun other => by
        simpa [Stage.device, Errand.spec] using other
  | remembered =>
      exact writes_of_update (by simp) found .remembered fun other => by
        simpa [Stage.device, Errand.spec] using other

theorem CallerMoves.specs (moves : CallerMoves allowed stage (.locked change) later) :
    (change state).activeDevices.map ActiveDevice.spec =
      state.activeDevices.map ActiveDevice.spec := by
  cases moves with
  | lookedUp | copied | confirmed => rfl
  | called | recordedSample | recordedLevel | recordedCheck | remembered =>
      exact RuntimeState.specs_update (by simp)

/-- What is written is what some round writes. -/
theorem Stage.Writes.effect (writes : stage.Writes deviceId device device')
    (takes : ∀ spec args reply, stage = .replied (.control spec kFunctionSetCompensation args) reply →
      spec.id = deviceId → Takes device.spec.type args.compensation) :
    ∃ round, Effect deviceId device round device' := by
  cases writes with
  | elsewhere => exact ⟨.passed, .elsewhere (by simp [Round.device])⟩
  | called => exact ⟨_, .recorded⟩
  | sampled => exact ⟨_, .sampled⟩
  | levelRead => exact ⟨_, .levelRead⟩
  | checked => exact ⟨_, .checked⟩
  | remembered here => exact ⟨_, .remembered (takes _ _ _ rfl here)⟩

end Writes

/-! ## Stages of the threads -/

/-- The device is active, as specified. -/
def Shared.Lists (shared : Shared) (spec : DeviceSpec) : Prop :=
  spec ∈ shared.state.activeDevices.map ActiveDevice.spec

theorem Shared.lists_of_found {shared : Shared} {deviceId : String} {device : ActiveDevice}
    (found : shared.state.find deviceId = some device) : shared.Lists device.spec :=
  List.mem_map_of_mem (RuntimeState.mem_of_find found)

/-- An id is that of one specification. -/
theorem Shared.Lists.spec_eq {shared : Shared} {spec : DeviceSpec} (lists : shared.Lists spec)
    (apart : shared.state.Apart) {device : ActiveDevice}
    (found : shared.state.find spec.id = some device) : device.spec = spec :=
  List.inj_on_of_nodup_map apart.ids (Shared.lists_of_found found) lists
    (RuntimeState.find_id found)

/-- What has been submitted, executed and returned stays, and so do the devices. -/
structure Shared.Extends (shared shared' : Shared) : Prop where
  specs : shared'.state.activeDevices.map ActiveDevice.spec =
    shared.state.activeDevices.map ActiveDevice.spec
  executor : shared.executor.Grows shared'.executor

/-- A device found after a step was found before it. -/
theorem Shared.Extends.found {shared shared' : Shared} (extension : shared.Extends shared')
    (apart : shared.state.Apart) {deviceId : String} {device' : ActiveDevice}
    (found : shared'.state.find deviceId = some device') :
    ∃ device, shared.state.find deviceId = some device ∧ device.spec = device'.spec :=
  apart.found_of_specs extension.specs found

theorem Shared.Lists.extend {shared shared' : Shared} {spec : DeviceSpec}
    (lists : shared.Lists spec) (extension : shared.Extends shared') : shared'.Lists spec := by
  rw [Lists, extension.specs]
  exact lists

/-- The tasks of the threads, one of which has moved on. -/
theorem perm_tasks_set {entries : List Thread} {index : Nat} {thread next : Thread}
    (found : entries[index]? = some thread) :
    ((entries.set index next).filterMap Thread.task ++ thread.task.toList).Perm
      (entries.filterMap Thread.task ++ next.task.toList) := by
  induction entries generalizing index with
  | nil => simp at found
  | cons entry rest ih =>
      cases index with
      | zero =>
          obtain rfl : entry = thread := by simpa using found
          rw [List.set_cons_zero]
          have split : ∀ one : Thread, ((one :: rest).filterMap Thread.task).Perm
              (rest.filterMap Thread.task ++ one.task.toList) := by
            intro one
            cases task : one.task with
            | none => simp [task]
            | some task => simpa [task] using (List.perm_append_singleton _ _).symm
          refine ((split next).append_right _).trans
            (List.Perm.trans ?_ ((split entry).append_right _).symm)
          rw [List.append_assoc, List.append_assoc]
          exact List.perm_append_comm.append_left _
      | succ index =>
          have moved := ih (by simpa using found)
          rw [List.set_cons_succ]
          cases first : entry.task <;> simpa [List.filterMap_cons, first] using moved

section Threads

variable [EzoDriver]

namespace Shared

/-- `task` is the job of the errand. -/
structure Does (allowed : Nat → Prop) (shared : Shared) (task : Bus.TaskId) (errand : Errand) :
    Prop where
  suits : errand.Suits allowed
  takes : errand.Takes
  listed : shared.Lists errand.spec
  submission : ∃ timeout, shared.executor.submissionOf task =
    some { name := errand.name, timeout, job := errand.job }

/-- `reply` is what the caller of the errand's job found when it went on. -/
structure Told (allowed : Nat → Prop) (shared : Shared) (task : Bus.TaskId) (errand : Errand)
    (reply : SubmitReply) : Prop extends Does allowed shared task errand where
  outcome : ∃ (call : Bus.Call JobOp JobOp.Result) (outcome : Bus.SubmitOutcome),
    shared.executor.calls[task]? = some call ∧ call.phase = .returned outcome ∧
      reply.status = outcome.status errand.name ∧
      ∀ status, outcome = .fulfilled (.completed status) →
        (task, status) ∈ shared.executor.ended ∧
          reply.outputs = outputsOf (shared.executor.traceOf task)

variable {allowed : Nat → Prop} {shared shared' : Shared} {task : Bus.TaskId} {errand : Errand}
  {reply : SubmitReply}

theorem Does.extend (does : Does allowed shared task errand) (extension : shared.Extends shared') :
    Does allowed shared' task errand where
  suits := does.suits
  takes := does.takes
  listed := does.listed.extend extension
  submission := by
    obtain ⟨timeout, found⟩ := does.submission
    exact ⟨timeout, extension.executor.submissionOf found⟩

theorem Told.extend (told : Told allowed shared task errand reply)
    (extension : shared.Extends shared') : Told allowed shared' task errand reply where
  toDoes := told.toDoes.extend extension
  outcome := by
    obtain ⟨call, outcome, found, returned, status, completed⟩ := told.outcome
    obtain ⟨after, foundAfter, returnedAfter⟩ := extension.executor.returned found returned
    refine ⟨after, outcome, foundAfter, returnedAfter, status, fun own same => ?_⟩
    obtain ⟨ended, outputs⟩ := completed own same
    obtain ⟨endedAfter, trace⟩ := extension.executor.ended _ ended
    exact ⟨endedAfter, by rw [trace, outputs]⟩

/-- The name of a task says which errand it is for. -/
theorem Does.named_iff (does : Does allowed shared task errand) {kind : ReadKind}
    {deviceId : String} :
    shared.Named (kind.jobName deviceId) task = true ↔
      errand.kind = some kind ∧ errand.spec.id = deviceId := by
  obtain ⟨timeout, found⟩ := does.submission
  simp [Named, found, ← Errand.name_eq_iff]

/-- A thread which owes nothing may still hold the reply of a control call. -/
def HoldsControl (allowed : Nat → Prop) (shared : Shared) (held : Option Bus.TaskId) : Prop :=
  ∀ task, held = some task → ∃ spec functionId args,
    Does allowed shared task (.control spec functionId args)

theorem HoldsControl.extend {held : Option Bus.TaskId} (holds : HoldsControl allowed shared held)
    (extension : shared.Extends shared') : HoldsControl allowed shared' held := by
  intro task same
  obtain ⟨spec, functionId, args, does⟩ := holds task same
  exact ⟨spec, functionId, args, does.extend extension⟩

end Shared

/-- A thread is at this stage. -/
def Stage.Fits (allowed : Nat → Prop) (shared : Shared) (held : Option Bus.TaskId)
    (stamp : Option Int) : Stage → Prop
  | idle => shared.HoldsControl allowed held
  | looked spec => shared.Lists spec ∧ shared.HoldsControl allowed held
  | checking spec set => shared.Lists spec ∧ Runtime.Takes spec.type set ∧ held = none
  | replied errand reply =>
      stamp = none ∧ ∃ task, held = some task ∧ shared.Told allowed task errand reply
  | stamped spec reply nowSteady =>
      stamp = some nowSteady ∧
        ∃ task, held = some task ∧ shared.Told allowed task (.sample spec) reply
  | remembered spec => shared.Lists spec ∧ held = none

/-- A thread is where its typestate says. -/
def Thread.Fits (allowed : Nat → Prop) (shared : Shared) (thread : Thread) : Prop :=
  match thread.phase with
  | .running rest => ∃ stage : Stage, stage.Fits allowed shared thread.held thread.stamp ∧
      rest.Obeys (callers allowed) (fun stage _ => stage.Free) stage
  | .waiting task next => ∃ errand, shared.Does allowed task errand ∧
      ∀ reply, (next reply).Obeys (callers allowed) (fun stage _ => stage.Free) (errand.after reply)

variable {allowed : Nat → Prop} {shared shared' : Shared}

theorem Stage.Fits.extend {stage : Stage} {held : Option Bus.TaskId} {stamp : Option Int}
    (fits : stage.Fits allowed shared held stamp) (extension : shared.Extends shared') :
    stage.Fits allowed shared' held stamp := by
  cases stage with
  | idle => exact Shared.HoldsControl.extend fits extension
  | looked => exact ⟨fits.1.extend extension, fits.2.extend extension⟩
  | checking => exact ⟨fits.1.extend extension, fits.2⟩
  | replied | stamped =>
      obtain ⟨stamped, task, held, told⟩ := fits
      exact ⟨stamped, task, held, told.extend extension⟩
  | remembered => exact ⟨fits.1.extend extension, fits.2⟩

theorem Thread.Fits.extend {thread : Thread} (fits : thread.Fits allowed shared)
    (extension : shared.Extends shared') : thread.Fits allowed shared' := by
  rw [Thread.Fits] at fits ⊢
  split at fits
  · obtain ⟨stage, at', obeys⟩ := fits
    exact ⟨stage, at'.extend extension, obeys⟩
  · obtain ⟨errand, does, obeys⟩ := fits
    exact ⟨errand, does.extend extension, obeys⟩

/-! ## The invariant -/

/-- What holds in every state the threads reach. -/
structure Shared.Sound (allowed : Nat → Prop) (shared : Shared) : Prop where
  executor : shared.executor.Invariant
  skips : shared.executor.SkipsFlagged
  serving : shared.executor.running = true ∧ shared.executor.stopping = false
  apart : shared.state.Apart
  takes : ∀ {deviceId device}, shared.state.find deviceId = some device →
    Runtime.Takes device.spec.type device.compensationSet
  fits : ∀ thread ∈ shared.threads, thread.Fits allowed shared
  tasks : (shared.released ++ shared.threads.filterMap Thread.task).Perm
    (List.range shared.executor.calls.length)

/-- A thread about to perform an operation is at a stage which allows it. -/
theorem Shared.Sound.moves (sound : shared.Sound allowed) {index : Nat} {thread : Thread}
    {op : CallerOp} {next : op.Result → Caller Unit} (found : shared.threads[index]? = some thread)
    (here : thread.phase = .running (.perform op next)) :
    ∃ stage later, stage.Fits allowed shared thread.held thread.stamp ∧
      CallerMoves allowed stage op later ∧
      ∀ answer, (next answer).Obeys (callers allowed) (fun stage _ => stage.Free) (later answer) := by
  have fits := sound.fits _ (List.mem_of_getElem? found)
  rw [Thread.Fits, here] at fits
  obtain ⟨stage, at', later, moves, obeys⟩ := fits
  exact ⟨stage, later, at', moves, obeys⟩

/-- After a critical section a thread is at the stage its typestate gives. -/
theorem CallerMoves.fits_locked {stage : Stage} {change : RuntimeState → RuntimeState}
    {later : RuntimeState → Stage} {held : Option Bus.TaskId} {stamp : Option Int}
    (moves : CallerMoves allowed stage (.locked change) later) (sound : shared.Sound allowed)
    (fits : stage.Fits allowed shared held stamp) :
    (later shared.state).Fits allowed shared none none := by
  have free : shared.HoldsControl allowed none := by simp [Shared.HoldsControl]
  have checking : ∀ deviceId, (checkStage deviceId shared.state).Fits allowed shared none none := by
    intro deviceId
    rw [checkStage]
    split
    · next device found =>
        split
        · exact ⟨Shared.lists_of_found found, sound.takes found, rfl⟩
        · exact free
    · exact free
  cases moves with
  | lookedUp =>
      rw [lookStage]
      split
      · next device found => exact ⟨Shared.lists_of_found found, free⟩
      · exact free
  | copied | confirmed => exact checking _
  | called | recordedSample | recordedLevel | recordedCheck => exact free
  | remembered =>
      obtain ⟨_, task, _, told⟩ := fits
      exact ⟨told.listed, rfl⟩

/-! ## Steps -/

/-- A submission is an errand's. -/
theorem CallerMoves.errand {stage : Stage} {name : String} {timeout : Int} {job : Job}
    {later : SubmitReply → Stage} {held : Option Bus.TaskId} {stamp : Option Int}
    (moves : CallerMoves allowed stage (.submit name timeout job) later)
    (fits : stage.Fits allowed shared held stamp) :
    ∃ errand : Errand, name = errand.name ∧ job = errand.job ∧ later = errand.after ∧
      errand.Suits allowed ∧ errand.Takes ∧ shared.Lists errand.spec := by
  cases moves with
  | @submitted errand _ suits free =>
      refine ⟨errand, rfl, rfl, rfl, suits, ?_, fits.1⟩
      cases errand with
      | check spec set reader writer => exact absurd rfl (free spec set reader writer)
      | _ => trivial
  | checked suits => exact ⟨_, rfl, rfl, rfl, suits, fits.2.1, fits.1⟩

/-- The reply of a waiting thread takes it to where its errand leaves it. -/
theorem Shared.Sound.fits_replied (sound : shared.Sound allowed) {index : Nat} {thread : Thread}
    {task : Bus.TaskId} {next : SubmitReply → Caller Unit} {call : Bus.Call JobOp JobOp.Result}
    {outcome : Bus.SubmitOutcome} (found : shared.threads[index]? = some thread)
    (here : thread.phase = .waiting task next) (called : shared.executor.calls[task]? = some call)
    (returned : call.phase = .returned outcome) :
    Thread.Fits allowed shared
      { phase := .running (next (shared.replyOf task call.name outcome)), held := some task } := by
  have fits := sound.fits _ (List.mem_of_getElem? found)
  rw [Thread.Fits, here] at fits
  obtain ⟨errand, does, obeys⟩ := fits
  have name : call.name = errand.name := by
    obtain ⟨timeout, submission⟩ := does.submission
    simp only [Bus.Executor.submissionOf, called, Option.map_some, Option.some.injEq] at submission
    exact congrArg Bus.Submission.name submission
  have told : shared.Told allowed task errand (shared.replyOf task call.name outcome) := by
    refine ⟨does, call, outcome, called, returned, by rw [← name]; rfl, ?_⟩
    rintro status rfl
    exact ⟨sound.executor.promises.ended called returned, rfl⟩
  refine ⟨_, ?_, obeys _⟩
  cases errand with
  | control spec functionId args =>
      rw [Errand.after]
      split
      · exact ⟨rfl, task, rfl, told⟩
      · intro other same
        cases same
        exact ⟨spec, functionId, args, does⟩
  | sample | level | check => exact ⟨rfl, task, rfl, told⟩

section Steps

variable [DecimalText] [ProviderSdk] {label : ThreadLabel}

/-- The functions a step lets be called. -/
def ThreadLabel.Calls (allowed : Nat → Prop) : ThreadLabel → Prop
  | .arrived request => request.Calls allowed
  | _ => True

theorem Shared.Sound.extends (sound : shared.Sound allowed)
    (step : SharedStep shared label shared') : shared.Extends shared' := by
  cases step with
  | locked found here =>
      obtain ⟨_, _, _, moves, _⟩ := sound.moves found here
      exact ⟨moves.specs, .refl _⟩
  | submitted =>
      exact ⟨rfl, (Bus.Executor.step_submitted _ _).grows sound.executor⟩
  | served serves transition | exchanged serves transition =>
      exact ⟨rfl, transition.grows sound.executor⟩
  | arrived | replied | systemNow | steadyNow | warned | passed => exact ⟨rfl, .refl _⟩

theorem Shared.Sound.fits_step (sound : shared.Sound allowed) (calls : label.Calls allowed)
    (step : SharedStep shared label shared') : ∀ thread ∈ shared'.threads, thread.Fits allowed shared' := by
  have extension := sound.extends step
  have kept : ∀ thread ∈ shared.threads, thread.Fits allowed shared' :=
    fun thread member => (sound.fits thread member).extend extension
  have moved : ∀ {index : Nat} {new : Thread}, new.Fits allowed shared' →
      ∀ thread ∈ shared.threads.set index new, thread.Fits allowed shared' := by
    intro index new fits thread member
    rcases List.mem_or_eq_of_mem_set member with old | rfl
    · exact kept thread old
    · exact fits
  cases step with
  | arrived =>
      intro thread member
      rcases List.mem_append.mp member with old | new
      · exact kept thread old
      · obtain rfl := List.mem_singleton.mp new
        exact ⟨.idle, by simp [Stage.Fits, Shared.HoldsControl], keeps_run calls _ trivial⟩
  | locked found here =>
      obtain ⟨stage, later, fits, moves, obeys⟩ := sound.moves found here
      exact moved ⟨_, (moves.fits_locked sound fits).extend extension, obeys _⟩
  | submitted found here =>
      obtain ⟨stage, later, fits, moves, obeys⟩ := sound.moves found here
      obtain ⟨errand, rfl, rfl, rfl, suits, takes, lists⟩ := moves.errand fits
      refine moved ⟨errand, ⟨suits, takes, lists.extend extension, ?_⟩, obeys⟩
      exact ⟨_, Bus.Executor.submissionOf_submitted_new⟩
  | replied found here called returned =>
      exact moved ((sound.fits_replied found here called returned).extend extension)
  | systemNow now found here =>
      obtain ⟨stage, later, fits, moves, obeys⟩ := sound.moves found here
      refine moved ⟨stage, fits.extend extension, ?_⟩
      cases moves <;> exact obeys now
  | steadyNow found here =>
      obtain ⟨stage, later, fits, moves, obeys⟩ := sound.moves found here
      cases moves with
      | @stamped spec reply =>
          obtain ⟨_, task, held, told⟩ := fits
          exact moved ⟨.stamped spec reply _, ⟨rfl, task, held, told.extend extension⟩, obeys _⟩
  | warned found here =>
      obtain ⟨stage, later, fits, moves, obeys⟩ := sound.moves found here
      refine moved ⟨stage, fits.extend extension, ?_⟩
      cases moves
      exact obeys ()
  | served | exchanged | passed => exact kept

/-- What a step writes to the record of a device, if it does: the effect of a critical section
of a thread at its stage. -/
theorem Shared.Sound.written (sound : shared.Sound allowed)
    (step : SharedStep shared label shared') {deviceId : String} {device : ActiveDevice}
    (found : shared.state.find deviceId = some device) :
    ∃ device', shared'.state.find deviceId = some device' ∧
      (device' = device ∨ ∃ round, Effect deviceId device round device') := by
  cases step with
  | locked there here =>
      obtain ⟨stage, later, fits, moves, _⟩ := sound.moves there here
      obtain ⟨device', foundAfter, writes⟩ := moves.writes found
      refine ⟨device', foundAfter, .inr (writes.effect ?_)⟩
      rintro spec args reply rfl rfl
      obtain ⟨_, task, _, told⟩ := fits
      rw [told.listed.spec_eq sound.apart found]
      exact told.suits.2 rfl
  | _ => exact ⟨device, found, .inl rfl⟩

theorem Shared.Sound.takes_step (sound : shared.Sound allowed)
    (step : SharedStep shared label shared') {deviceId : String} {device' : ActiveDevice}
    (found : shared'.state.find deviceId = some device') :
    Takes device'.spec.type device'.compensationSet := by
  obtain ⟨device, before, _⟩ := (sound.extends step).found sound.apart found
  obtain ⟨after, foundAfter, written⟩ := sound.written step before
  cases foundAfter.symm.trans found
  rcases written with rfl | ⟨round, effect⟩
  · exact sound.takes before
  · exact effect.takes (sound.takes before)

theorem Shared.Sound.tasks_step (sound : shared.Sound allowed)
    (step : SharedStep shared label shared') :
    (shared'.released ++ shared'.threads.filterMap Thread.task).Perm
      (List.range shared'.executor.calls.length) := by
  -- A thread which moves on gives up its task or keeps it.
  have moved : ∀ {index : Nat} {thread next : Thread},
      shared.threads[index]? = some thread →
      (shared.released ++ ((shared.threads.set index next).filterMap Thread.task ++
        thread.task.toList)).Perm
        (List.range shared.executor.calls.length ++ next.task.toList) := by
    intro index thread next found
    refine ((perm_tasks_set found).append_left _).trans ?_
    rw [← List.append_assoc]
    exact sound.tasks.append_right _
  have kept : ∀ {index : Nat} {thread next : Thread},
      shared.threads[index]? = some thread → next.task = thread.task →
      (shared.released ++ (shared.threads.set index next).filterMap Thread.task).Perm
        (List.range shared.executor.calls.length) := by
    intro index thread next found same
    have both := @moved _ _ next found
    rw [same, ← List.append_assoc] at both
    exact (List.perm_append_right_iff _).mp both
  have released : ∀ {index : Nat} {thread next : Thread} {held : Option Bus.TaskId},
      shared.threads[index]? = some thread → thread.task = held →
      (shared.released ++ held.toList ++ (shared.threads.set index next).filterMap Thread.task).Perm
        (List.range shared.executor.calls.length ++ next.task.toList) := by
    rintro index thread next held found rfl
    refine List.Perm.trans ?_ (moved found)
    rw [List.append_assoc]
    exact List.perm_append_comm.append_left _
  cases step with
  | @arrived request =>
      have none : List.filterMap Thread.task [{ phase := .running request.run }] = [] := rfl
      simpa [none] using sound.tasks
  | @locked index thread change next found here =>
      have task : thread.task = thread.held := by rw [Thread.task, here]
      have both := @released _ _ { phase := .running (next shared.state) } _ found task
      rwa [show Thread.task { phase := .running (next shared.state) } = none from rfl,
        Option.toList_none, List.append_nil] at both
  | @submitted index thread name timeout job next found here =>
      have task : thread.task = thread.held := by rw [Thread.task, here]
      obtain ⟨⟨call, calls, _⟩, _⟩ := Bus.Executor.submitted_frame shared.executor
        { name, timeout, job }
      rw [calls, List.length_append, List.length_singleton, List.range_succ]
      exact released found task
  | replied found here => exact kept found (by rw [Thread.task, Thread.task, here])
  | systemNow now found here => exact kept found (by rw [Thread.task, Thread.task, here])
  | steadyNow found here => exact kept found (by rw [Thread.task, Thread.task, here])
  | warned found here => exact kept found (by rw [Thread.task, Thread.task, here])
  | served serves transition | exchanged serves transition =>
      rw [(transition.serves serves).2.2]
      exact sound.tasks
  | passed => exact sound.tasks

/-- Every step keeps the invariant. -/
theorem Shared.Sound.step (sound : shared.Sound allowed) (calls : label.Calls allowed)
    (step : SharedStep shared label shared') : shared'.Sound allowed := by
  have extension := sound.extends step
  have executor : shared'.executor.Invariant ∧ shared'.executor.SkipsFlagged ∧
      shared'.executor.running = true ∧ shared'.executor.stopping = false := by
    have distinct := sound.executor.order.queue_nodup
    cases step with
    | @submitted _ _ name timeout job =>
        have transition := Bus.Executor.step_submitted shared.executor { name, timeout, job }
        refine ⟨sound.executor.step transition, sound.skips.step distinct transition, ?_⟩
        rw [Bus.Executor.submitted]
        split <;> exact sound.serving
    | served serves transition | exchanged serves transition =>
        obtain ⟨running, stopping, _⟩ := transition.serves serves
        rw [running, stopping]
        exact ⟨sound.executor.step transition, sound.skips.step distinct transition, sound.serving⟩
    | _ => exact ⟨sound.executor, sound.skips, sound.serving⟩
  exact {
    executor := executor.1
    skips := executor.2.1
    serving := executor.2.2
    apart := ⟨by rw [extension.specs]; exact sound.apart.ids,
      by rw [extension.specs]; exact sound.apart.addresses⟩
    takes := sound.takes_step step
    fits := sound.fits_step calls step
    tasks := sound.tasks_step step }

theorem sound_of_started (started : Started shared) : shared.Sound allowed := by
  obtain ⟨config, world, initialized, _, _, rfl⟩ := started
  have sound := sound_of_initialized initialized
  have reachable : (Bus.Executor.system JobOp JobOp.Result).Reachable .justStarted :=
    ⟨{}, _, rfl, .single (.started rfl rfl)⟩
  exact {
    executor := Bus.Executor.invariant_of_reachable reachable
    skips := by
      intro index task skipping
      cases index <;> simp [Bus.Executor.justStarted] at skipping
    serving := ⟨rfl, rfl⟩
    apart := sound.apart
    takes := sound.takes
    fits := by simp
    tasks := by simp [Bus.Executor.justStarted] }

/-- What holds of every state the threads reach. -/
theorem sound_of_threads (reachable : threads.Reachable shared) :
    shared.Sound fun _ => True := by
  refine reachable.holds sound_of_started fun sound step => sound.step ?_ step
  rename_i label _
  cases label with
  | arrived request => cases request <;> trivial
  | _ => trivial

end Steps

end Threads

end EzoProvider.Runtime
