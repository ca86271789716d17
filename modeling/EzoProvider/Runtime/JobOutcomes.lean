import EzoProvider.Devices.Successes
import EzoProvider.Runtime.JobCommands

/-!
# The outcomes of a job

What a job has done when it returns ok, what it has then stored for its caller,
and that it does return ok on a bus which fails nothing.
-/

namespace EzoProvider.Runtime

open Interaction Program Devices

/-! ## The cells of a job -/

theorem outputsOf_append (first second : JobTrace) :
    outputsOf (first ++ second) = second.foldl JobOutputs.after (outputsOf first) :=
  List.foldl_append

/-- What a job stores last is in its cells. -/
theorem outputsOf_concat_store (trace : JobTrace) (output : JobOutput) :
    outputsOf (trace ++ [⟨.store output, ()⟩]) = (outputsOf trace).store output :=
  outputsOf_append _ _

/-- Operations which store nothing leave the cells alone. -/
theorem outputsOf_append_within {device : Address} {commands : Command → Prop}
    (first : JobTrace) {second : JobTrace}
    (within : ∀ exchange ∈ second, exchange.1.Within device commands) :
    outputsOf (first ++ second) = outputsOf first := by
  induction second using List.reverseRecOn with
  | nil => simp
  | append_singleton second exchange ih =>
      rw [← List.append_assoc, outputsOf_append, ih fun exchange member => within exchange (by simp [member])]
      obtain ⟨op, answer⟩ := exchange
      have last := within ⟨op, answer⟩ (by simp)
      cases op with
      | store output => exact absurd last id
      | _ => rfl

/-! ## Jobs which return ok -/

theorem runs_store {trace : JobTrace} {output : JobOutput} {outcome : Except Status Unit}
    (run : (liftM (JobOp.issue (.store output)) : JobM Unit).run.Runs trace outcome) :
    trace = [⟨.store output, ()⟩] ∧ outcome = .ok () := by
  obtain ⟨_, _, rfl, rest⟩ := runs_perform_iff.mp run
  obtain ⟨rfl, same⟩ := runs_done_iff.mp rest
  exact ⟨rfl, same⟩

theorem runs_sendAgain {address : Address} {trace : JobTrace}
    {writer : Address → Compensation → JobM Unit}
    {set : Compensation}
    (run : (sendAgain writer address set).run.Runs trace (.ok ())) :
    (writer address set).run.Runs trace (.ok ()) := by
  obtain ⟨_, outcome, _, rfl, written, final⟩ := runs_bind_iff.mp run
  cases outcome with
  | ok _ =>
      obtain ⟨rfl, _⟩ := runs_done_iff.mp final
      simpa using written
  | error refused =>
      have impossible := (runs_done_iff.mp final).2
      simp at impossible

theorem reliable_sendAgain {address : Address}
    {writer : Address → Compensation → JobM Unit} {set : Compensation}
    (writing : Reliable (writer address set)) : Reliable (sendAgain writer address set) := by
  refine ⟨fun trace status run => ?_, fun pending trace outcome run succeeds => ?_⟩
  · obtain ⟨_, outcome, _, rfl, written, final⟩ := runs_bind_iff.mp run
    cases outcome with
    | ok _ =>
        have impossible := (runs_done_iff.mp final).2
        simp at impossible
    | error refused =>
        obtain rfl := Except.error.inj (runs_done_iff.mp final).2
        have notOk := writing.refuses _ _ written
        exact notOk
  · obtain ⟨_, outcome, _, rfl, written, final⟩ := runs_bind_iff.mp run
    obtain ⟨first, _⟩ := succeeds_of_append succeeds
    obtain ⟨_, rfl⟩ := writing.works _ _ _ written first
    exact ⟨(), (runs_done_iff.mp final).2⟩

section Returns

variable [EzoDriver] {address : Address} {trace : JobTrace} {status : Status}

/-- A job which returned ok has bound its device, and its body has returned. -/
theorem runs_bound {rest : Address → JobM Unit} (reliable : Reliable (rest address))
    (run : (concludes (bindEzoI2cDevice address >>= rest)).Runs trace status)
    (ok : status.isOk = true) :
    ∃ tail, trace = ⟨.bind address, .ok ()⟩ :: tail ∧ (rest address).run.Runs tail (.ok ()) := by
  obtain ⟨outcome, body, rfl⟩ := runs_concludes run
  rcases runs_exceptT_bind_iff.mp body with ⟨failed, bound, rfl⟩ | ⟨_, device, tail, rfl, bound, after⟩
  · have refused := (reliable_bindEzoI2cDevice address).refuses _ _ bound
    simp [refused] at ok
  · obtain ⟨rfl, rfl⟩ := runs_bindEzoI2cDevice bound
    cases outcome with
    | ok _ => exact ⟨tail, rfl, after⟩
    | error failed =>
        have refused := reliable.refuses _ _ after
        simp [refused] at ok

/-- A job whose operations all succeed returns ok. -/
theorem isOk_of_succeeds {rest : Address → JobM Unit} (reliable : Reliable (rest address))
    (run : (concludes (bindEzoI2cDevice address >>= rest)).Runs trace status) {pending : Nat}
    (succeeds : Succeeds pending trace) : status.isOk = true := by
  obtain ⟨outcome, body, rfl⟩ := runs_concludes run
  rcases runs_exceptT_bind_iff.mp body with ⟨failed, bound, rfl⟩ | ⟨_, device, tail, rfl, bound, after⟩
  · obtain ⟨_, same⟩ := (reliable_bindEzoI2cDevice address).works _ _ _ bound succeeds
    simp at same
  · obtain ⟨rfl, rfl⟩ := runs_bindEzoI2cDevice bound
    obtain ⟨_, later, rest⟩ := succeeds_of_append succeeds
    obtain ⟨_, rfl⟩ := reliable.works _ _ _ after rest
    rfl

/-! ### Samples and levels -/

theorem reliable_sampleJob (spec : DeviceSpec) :
    Reliable (do
      let signals ← (adapterFor spec.type).readSample spec.address
      JobOp.issue (.store (.signals signals)) : JobM Unit) :=
  (reliable_readSample spec.type spec.address).bind fun _ => reliable_store _

theorem reliable_calibrationLevelJob {type : EzoDeviceType} {reader : Address → JobM ℚ}
    (adapted : (adapterFor type).readCalibrationLevel = some reader) :
    Reliable (do
      let level ← reader address
      JobOp.issue (.store (.level level)) : JobM Unit) := by
  refine Reliable.bind ?_ fun _ => reliable_store _
  cases type <;> cases adapted <;> exact reliable_readCalibrationLevel _ _

/-- A level job which returned ok has read the level it stored. -/
theorem runs_calibrationLevelJob {type : EzoDeviceType} {reader : Address → JobM ℚ}
    (adapted : (adapterFor type).readCalibrationLevel = some reader)
    (run : (calibrationLevelJob address reader).Runs trace status) (ok : status.isOk = true) :
    ∃ reads level, trace = ⟨.bind address, .ok ()⟩ :: (reads ++ [⟨.store (.level level), ()⟩]) ∧
      (reader address).run.Runs reads (.ok level) ∧ (outputsOf trace).level = level := by
  obtain ⟨_, rfl, body⟩ := runs_bound (reliable_calibrationLevelJob adapted) run ok
  obtain ⟨reads, level, _, rfl, read, stored⟩ := runs_exceptT_bind_ok_iff.mp body
  obtain ⟨rfl, _⟩ := runs_store stored
  refine ⟨reads, level, rfl, read, ?_⟩
  rw [← List.cons_append, outputsOf_concat_store]
  rfl

/-! ### The compensation check -/

/-- The runs of a check which returns ok, with the cells they leave. -/
inductive CompensationRun (address : Address) (set : Compensation)
    (reader : Address → JobM CompensationReading) (writer : Address → Compensation → JobM Unit) :
    JobTrace → Prop where
  | held {reads : JobTrace} {reading : CompensationReading}
      (read : (reader address).run.Runs reads (.ok reading))
      (holds : holdsAll set reading.values = true) :
      CompensationRun address set reader writer
        (⟨.bind address, .ok ()⟩ :: (reads ++ [⟨.store (.reading reading), ()⟩]))
  | sent {reads writing readsAgain : JobTrace} {reading again : CompensationReading}
      (read : (reader address).run.Runs reads (.ok reading))
      (lost : holdsAll set reading.values = false)
      (written : (writer address set).run.Runs writing (.ok ()))
      (readAgain : (reader address).run.Runs readsAgain (.ok again)) :
      CompensationRun address set reader writer
        (⟨.bind address, .ok ()⟩ :: (reads ++ (⟨.store (.reading reading), ()⟩ ::
          (writing ++ (⟨.store .reapplied, ()⟩ ::
            (readsAgain ++ [⟨.store (.reading again), ()⟩]))))))

variable {type : EzoDeviceType} {set : Compensation}
  {reader : Address → JobM CompensationReading} {writer : Address → Compensation → JobM Unit}

theorem reliable_compensationJob (reads : (adapterFor type).readCompensation = some reader)
    (writes : (adapterFor type).writeCompensation = some writer) :
    Reliable (do
      let reading ← reader address
      JobOp.issue (.store (.reading reading))
      if holdsAll set reading.values then return
      sendAgain writer address set
      JobOp.issue (.store .reapplied)
      let again ← reader address
      JobOp.issue (.store (.reading again)) : JobM Unit) := by
  refine (reliable_readCompensation reads).bind fun reading => ?_
  refine Reliable.lift_bind fun _ => ?_
  split
  · exact reliable_pure ()
  · refine (reliable_sendAgain (reliable_writeCompensation writes)).bind fun _ => ?_
    refine Reliable.lift_bind fun _ => ?_
    exact (reliable_readCompensation reads).bind fun _ => reliable_store _

theorem compensationRun_of_runs (reads : (adapterFor type).readCompensation = some reader)
    (writes : (adapterFor type).writeCompensation = some writer)
    (run : (compensationJob address set reader writer).Runs trace status)
    (ok : status.isOk = true) : CompensationRun address set reader writer trace := by
  obtain ⟨_, rfl, body⟩ := runs_bound (reliable_compensationJob reads writes) run ok
  obtain ⟨reading, first, _, rfl, read, afterRead⟩ := runs_exceptT_bind_ok_iff.mp body
  obtain ⟨_, _, _, rfl, stored, afterStore⟩ := runs_exceptT_lift_bind_iff.mp afterRead
  obtain rfl := runs_issue_iff.mp stored
  split at afterStore
  · next holds =>
      obtain ⟨rfl, _⟩ := runs_done_iff.mp afterStore
      exact .held read holds
  · next lost =>
      obtain ⟨writing, _, _, rfl, sentAgain, afterWrite⟩ := runs_exceptT_bind_ok_iff.mp afterStore
      obtain ⟨_, _, _, rfl, marked, afterMark⟩ := runs_exceptT_lift_bind_iff.mp afterWrite
      obtain rfl := runs_issue_iff.mp marked
      obtain ⟨readsAgain, again, _, rfl, readAgain, final⟩ := runs_exceptT_bind_ok_iff.mp afterMark
      obtain ⟨rfl, _⟩ := runs_store final
      exact .sent read (by simpa using lost) (runs_sendAgain sentAgain) readAgain

theorem within_of_reads {reads : JobTrace} {reading : CompensationReading}
    (adapted : (adapterFor type).readCompensation = some reader)
    (read : (reader address).run.Runs reads (.ok reading)) :
    ∀ exchange ∈ reads, exchange.1.Within address Command.Asks :=
  ((only_readCompensation adapted).advances read).1

/-- What a check leaves in its cells when it did not send anything. -/
theorem outputs_held {reads : JobTrace} {reading : CompensationReading}
    (adapted : (adapterFor type).readCompensation = some reader)
    (read : (reader address).run.Runs reads (.ok reading)) :
    outputsOf (⟨.bind address, .ok ()⟩ :: (reads ++ [⟨.store (.reading reading), ()⟩])) =
      { reading } := by
  rw [← List.cons_append, outputsOf_concat_store, ← List.singleton_append,
    outputsOf_append_within _ (within_of_reads adapted read)]
  rfl

/-- What a check leaves in its cells when it sent the set values again. -/
theorem outputs_sent {reads writing readsAgain : JobTrace} {reading again : CompensationReading}
    (adapted : (adapterFor type).readCompensation = some reader)
    (writes : (adapterFor type).writeCompensation = some writer)
    (read : (reader address).run.Runs reads (.ok reading))
    (written : (writer address set).run.Runs writing (.ok ()))
    (readAgain : (reader address).run.Runs readsAgain (.ok again)) :
    outputsOf (⟨.bind address, .ok ()⟩ :: (reads ++ (⟨.store (.reading reading), ()⟩ ::
      (writing ++ (⟨.store .reapplied, ()⟩ ::
        (readsAgain ++ [⟨.store (.reading again), ()⟩])))))) =
      { reading := again, reapplied := true } := by
  have front := outputs_held adapted read
  have split : (⟨.bind address, .ok ()⟩ :: (reads ++ (⟨.store (.reading reading), ()⟩ ::
      (writing ++ (⟨.store .reapplied, ()⟩ ::
        (readsAgain ++ [⟨.store (.reading again), ()⟩]))))) : JobTrace) =
      ((((⟨.bind address, .ok ()⟩ :: (reads ++ [⟨.store (.reading reading), ()⟩])) ++ writing) ++
        [⟨.store .reapplied, ()⟩]) ++ readsAgain) ++ [⟨.store (.reading again), ()⟩] := by
    simp
  rw [split, outputsOf_concat_store, outputsOf_append_within _ (within_of_reads adapted readAgain),
    outputsOf_concat_store,
    outputsOf_append_within _ ((only_writeCompensation writes).advances written).1, front]
  rfl

/-! ### Control calls -/

variable {args : ControlArgs} {functionId : Nat}

/-- A `set_compensation` job which returned ok has written the values. -/
theorem runs_setCompensation (writes : (adapterFor type).writeCompensation = some writer)
    (run : (callJob address kFunctionSetCompensation type args).Runs trace status)
    (ok : status.isOk = true) :
    ∃ writing, trace = ⟨.bind address, .ok ()⟩ :: writing ∧
      (writer address args.compensation).run.Runs writing (.ok ()) := by
  rw [callJob, controlJob, writes] at run
  exact runs_bound (reliable_writeCompensation writes) run ok

end Returns

end EzoProvider.Runtime
