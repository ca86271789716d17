import EzoProvider.Devices.CommandTraces

/-!
# Job parts on a bus which fails nothing

`Succeeds` says that no operation of a trace failed and that no command was
answered 254 on every re-read. A `Reliable` part of a job returns then.
-/

namespace EzoProvider.Devices

open Interaction Program

/-- The number of 254s since the last command, after an operation which succeeded. -/
def pendingAfter (pending : Nat) : (op : JobOp) → op.Result → Option Nat
  | .send .., .ok _ | .readResponse _, .ok .success => some 0
  | .readResponse _, .ok .notReady => if pending < kPendingRereads then some (pending + 1) else none
  | .bind _, .ok _ | .readInfo _, .ok _ | .readOutputConfig _, .ok _ | .readValue _, .ok _
  | .readOutputs .., .ok _ | .readCalibrationStatus _, .ok _ | .readTemperature _, .ok _
  | .readSalinity _, .ok _ | .readPressure _, .ok _ | .delay _, _ | .store _, _ => some pending
  | _, _ => none

/-- Every operation of the trace has succeeded. -/
def Succeeds (pending : Nat) (trace : JobTrace) : Prop :=
  (trace.foldlM (fun pending exchange => pendingAfter pending exchange.1 exchange.2)
    pending).isSome = true

instance (pending : Nat) (trace : JobTrace) : Decidable (Succeeds pending trace) :=
  inferInstanceAs (Decidable (_ = true))

theorem succeeds_cons_iff {pending : Nat} {exchange : Exchange JobOp JobOp.Result}
    {trace : JobTrace} :
    Succeeds pending (exchange :: trace) ↔
      ∃ later, pendingAfter pending exchange.1 exchange.2 = some later ∧ Succeeds later trace := by
  rw [Succeeds, List.foldlM_cons]
  cases after : pendingAfter pending exchange.1 exchange.2 with
  | none => simp
  | some later => simp [Succeeds]

theorem succeeds_of_append {pending : Nat} {first second : JobTrace}
    (succeeds : Succeeds pending (first ++ second)) :
    Succeeds pending first ∧ ∃ later, Succeeds later second := by
  rw [Succeeds, List.foldlM_append] at succeeds
  cases after : first.foldlM
      (fun pending exchange => pendingAfter pending exchange.1 exchange.2) pending with
  | none => simp [after] at succeeds
  | some later =>
      rw [after] at succeeds
      exact ⟨by simp [Succeeds, after], later, succeeds⟩

/-- Waits change nothing about the commands. -/
theorem succeeds_after_delays {pending : Nat} {waits rest : JobTrace}
    (delays : ∀ exchange ∈ waits, ∃ microseconds, exchange.1 = .delay microseconds)
    (succeeds : Succeeds pending (waits ++ rest)) : Succeeds pending rest := by
  induction waits with
  | nil => exact succeeds
  | cons exchange waits ih =>
      obtain ⟨later, after, tail⟩ := succeeds_cons_iff.mp succeeds
      obtain ⟨op, answer⟩ := exchange
      obtain ⟨microseconds, rfl⟩ := delays _ List.mem_cons_self
      obtain rfl : pending = later := by simpa [pendingAfter] using after
      exact ih (fun exchange member => delays exchange (List.mem_cons_of_mem _ member)) tail

/-- A part which leaves its job only with a status that is not ok, and not at all
when all its operations succeed. -/
structure Reliable {α : Type} (part : JobM α) : Prop where
  refuses : ∀ trace status, part.run.Runs trace (.error status) → status.isOk = false
  works : ∀ pending trace outcome, part.run.Runs trace outcome → Succeeds pending trace →
    ∃ value, outcome = .ok value

theorem reliable_pure {α : Type} (value : α) : Reliable (pure value : JobM α) := by
  refine ⟨fun trace status run => ?_, fun pending trace outcome run _ => ?_⟩
  · have impossible := (runs_done_iff.mp run).2
    simp at impossible
  · exact ⟨value, (runs_done_iff.mp run).2⟩

theorem Reliable.bind {α β : Type} {part : JobM α} {rest : α → JobM β} (first : Reliable part)
    (second : ∀ value, Reliable (rest value)) : Reliable (part >>= rest) := by
  refine ⟨fun trace status run => ?_, fun pending trace outcome run succeeds => ?_⟩
  · rcases runs_exceptT_bind_iff.mp run with ⟨error, failed, same⟩ | ⟨_, value, _, rfl, _, later⟩
    · obtain rfl := Except.error.inj same
      exact first.refuses _ _ failed
    · exact (second value).refuses _ _ later
  · rcases runs_exceptT_bind_iff.mp run with ⟨error, failed, rfl⟩ | ⟨_, value, _, rfl, _, later⟩
    · obtain ⟨_, same⟩ := first.works _ _ _ failed succeeds
      simp at same
    · obtain ⟨_, _, rest⟩ := succeeds_of_append succeeds
      exact (second value).works _ _ _ later rest

theorem Reliable.lift_bind {α β : Type} {program : Program JobOp JobOp.Result α}
    {rest : α → JobM β} (second : ∀ value, Reliable (rest value)) :
    Reliable ((liftM program : JobM α) >>= rest) := by
  refine ⟨fun trace status run => ?_, fun pending trace outcome run succeeds => ?_⟩
  · obtain ⟨_, value, _, rfl, _, later⟩ := runs_exceptT_lift_bind_iff.mp run
    exact (second value).refuses _ _ later
  · obtain ⟨_, value, _, rfl, _, later⟩ := runs_exceptT_lift_bind_iff.mp run
    obtain ⟨_, _, rest⟩ := succeeds_of_append succeeds
    exact (second value).works _ _ _ later rest

theorem reliable_store (output : JobOutput) :
    Reliable (liftM (JobOp.issue (.store output)) : JobM Unit) := by
  have stored : ∀ {trace outcome},
      (liftM (JobOp.issue (.store output)) : JobM Unit).run.Runs trace outcome →
        outcome = .ok () := by
    intro trace outcome run
    obtain ⟨_, _, rfl, rest⟩ := runs_perform_iff.mp run
    exact (runs_done_iff.mp rest).2
  refine ⟨fun trace status run => ?_, fun pending trace outcome run _ => ⟨(), stored run⟩⟩
  have impossible := stored run
  simp at impossible

theorem refuses_checkStatus {status failed : Status} {trace : JobTrace}
    (run : (checkStatus status).run.Runs trace (.error failed)) : failed.isOk = false := by
  obtain ⟨_, same⟩ := runs_checkStatus_iff.mp run
  by_cases ok : status.isOk = true
  · simp [ok] at same
  · obtain rfl : failed = status := by simpa [ok] using same
    simpa using ok

/-- A driver call whose success is an ok answer. -/
def Answers {α : Type} (call : Program JobOp JobOp.Result (Except EzoError α)) : Prop :=
  ∀ pending trace answer, call.Runs trace answer → Succeeds pending trace →
    ∃ value, answer = .ok value

/-- A call of one operation answers if its failures do not count as successes. -/
theorem answers_of_fails {α : Type} {call : Program JobOp JobOp.Result (Except EzoError α)}
    (op : JobOp) (give : Except EzoError α → op.Result)
    (performs : ∀ {trace answer}, call.Runs trace answer → trace = [⟨op, give answer⟩])
    (fails : ∀ pending result, pendingAfter pending op (give (.error result)) = none) :
    Answers call := by
  intro pending trace answer run succeeds
  obtain rfl := performs run
  cases answer with
  | ok value => exact ⟨value, rfl⟩
  | error result => simp [Succeeds, fails] at succeeds

theorem answers_send (device : Address) (command : Command) :
    Answers (JobOp.issue (.send device command)) :=
  answers_of_fails (.send device command) id runs_issue_iff.mp fun _ _ => rfl

variable [EzoDriver]

theorem reliable_attempt {α : Type} {context : String}
    {call : Program JobOp JobOp.Result (Except EzoError α)} (answers : Answers call) :
    Reliable (attempt context call) := by
  refine ⟨fun trace status run => ?_, fun pending trace outcome run succeeds => ?_⟩
  · obtain ⟨answer, _, same⟩ := runs_attempt_iff.mp run
    cases answer with
    | ok value => simp [Except.mapError] at same
    | error result =>
        obtain rfl := Except.error.inj same
        exact isOk_statusFromEzoResult result context
  · obtain ⟨answer, called, rfl⟩ := runs_attempt_iff.mp run
    obtain ⟨value, rfl⟩ := answers _ _ _ called succeeds
    exact ⟨value, rfl⟩

theorem reliable_bindEzoI2cDevice (address : Address) : Reliable (bindEzoI2cDevice address) := by
  refine ⟨fun trace status run => ?_, fun pending trace outcome run succeeds => ?_⟩
  · obtain ⟨answer, _, rfl, final⟩ := runs_perform_iff.mp run
    cases answer with
    | ok _ =>
        have impossible := (runs_done_iff.mp final).2
        simp at impossible
    | error result =>
        obtain rfl := Except.error.inj (runs_done_iff.mp final).2
        rfl
  · obtain ⟨answer, _, rfl, final⟩ := runs_perform_iff.mp run
    cases answer with
    | ok _ => exact ⟨address, (runs_done_iff.mp final).2⟩
    | error result =>
        obtain ⟨_, counted, _⟩ := succeeds_cons_iff.mp succeeds
        simp [pendingAfter] at counted

/-! ## Queries -/

theorem reliable_queryDevice {α : Type} {device : Address} {command : Command}
    {sendContext readContext : String} {answer : Program JobOp JobOp.Result (Except EzoError α)}
    (answers : Answers answer) :
    Reliable (queryDevice device command sendContext answer readContext) :=
  (reliable_attempt (answers_send device command)).bind fun _ =>
    Reliable.lift_bind fun _ => reliable_attempt answers

theorem reliable_readTemperature (label : String) (device : Address) :
    Reliable (readTemperature label device) :=
  reliable_queryDevice (answers_of_fails (.readTemperature device) id runs_issue_iff.mp fun _ _ => rfl)

theorem reliable_readCalibrationLevel (label : String) (device : Address) :
    Reliable (readCalibrationLevel label device) :=
  (reliable_queryDevice
    (answers_of_fails (.readCalibrationStatus device) id runs_issue_iff.mp fun _ _ => rfl)).bind
      fun _ => reliable_pure _

theorem reliable_readCompensation {type : EzoDeviceType} {device : Address}
    {reader : Address → JobM CompensationReading}
    (adapted : (adapterFor type).readCompensation = some reader) : Reliable (reader device) := by
  cases type <;> cases adapted
  · exact (reliable_readTemperature _ _).bind fun _ => reliable_pure _
  · refine (reliable_readTemperature _ _).bind fun _ => ?_
    refine (reliable_queryDevice
      (answers_of_fails (.readSalinity device) id runs_issue_iff.mp fun _ _ => rfl)).bind fun _ => ?_
    exact (reliable_queryDevice
      (answers_of_fails (.readPressure device) id runs_issue_iff.mp fun _ _ => rfl)).bind
        fun _ => reliable_pure _

theorem reliable_readSample (type : EzoDeviceType) (device : Address) :
    Reliable ((adapterFor type).readSample device) := by
  have single : ∀ label signals, Reliable (readSingleSample label signals device) := by
    intro label signals
    exact (reliable_queryDevice
      (answers_of_fails (.readValue device) id runs_issue_iff.mp fun _ _ => rfl)).bind
        fun _ => reliable_pure _
  have several : ∀ label signals outputs,
      Reliable (readOutputsSample label signals outputs device) := by
    intro label signals outputs
    refine (reliable_queryDevice
      (answers_of_fails (.readOutputConfig device) id runs_issue_iff.mp fun _ _ => rfl)).bind fun _ => ?_
    exact (reliable_queryDevice
      (answers_of_fails (.readOutputs device _) id runs_issue_iff.mp fun _ _ => rfl)).bind
        fun _ => reliable_pure _
  cases type with
  | ph | orp | rtd => exact single _ _
  | ec | dox | hum => exact several _ _ _

/-! ## Commands -/

/-- A response read right after its command sees SUCCESS within the re-reads. -/
theorem isOk_of_readCommandResponse {device : Address} {trace : JobTrace} {status : Status}
    (run : (readCommandResponse device).Runs trace status) (succeeds : Succeeds 0 trace) :
    status.isOk = true := by
  have once : ∀ {pending : Nat} {later : Job} {trace : JobTrace},
      (readResponseCode device later).Runs trace status → Succeeds pending trace →
        status.isOk = true ∨ ∃ tail, later.Runs tail status ∧ pending < kPendingRereads ∧
          Succeeds (pending + 1) tail := by
    intro pending later trace run succeeds
    obtain ⟨answer, tail, rfl, rest⟩ := runs_perform_iff.mp run
    obtain ⟨after, counted, tailSucceeds⟩ := succeeds_cons_iff.mp succeeds
    rcases answer with result | code
    · simp [pendingAfter] at counted
    · cases code with
      | success =>
          obtain ⟨_, rfl⟩ := runs_done_iff.mp rest
          exact .inl rfl
      | notReady =>
          simp only [pendingAfter, Option.ite_none_right_eq_some] at counted
          obtain ⟨few, same⟩ := counted
          obtain rfl := Option.some.inj same
          exact .inr ⟨tail, rest, few, tailSucceeds⟩
      | fail | noData | unknown => simp [pendingAfter] at counted
  have loop : ∀ {rereads pending : Nat} {trace : JobTrace},
      rereads + pending = kPendingRereads →
      (readCommandResponseLoop device rereads).Runs trace status → Succeeds pending trace →
        status.isOk = true := by
    intro rereads
    induction rereads with
    | zero =>
        intro pending trace left run succeeds
        rcases once run succeeds with ok | ⟨_, _, few, _⟩
        · exact ok
        · omega
    | succ rereads ih =>
        intro pending trace left run succeeds
        rcases once run succeeds with ok | ⟨tail, later, _, tailSucceeds⟩
        · exact ok
        · obtain ⟨waits, _, reads, rfl, waited, again⟩ := runs_bind_iff.mp later
          have rest := succeeds_after_delays (runs_waitForTimingHint waited) tailSucceeds
          exact ih (by omega) again rest
  exact loop rfl run succeeds

theorem reliable_sendCommand (device : Address) (command : Command) (context : String) :
    Reliable (sendCommand device command context) := by
  have sending : Reliable (attempt context (JobOp.issue (.send device command))) :=
    reliable_attempt (answers_send device command)
  refine ⟨fun trace status run => ?_, fun pending trace outcome run succeeds => ?_⟩
  · rcases runs_exceptT_bind_iff.mp run with ⟨error, failed, same⟩ | ⟨_, hint, _, rfl, _, rest⟩
    · obtain rfl := Except.error.inj same
      exact sending.refuses _ _ failed
    · obtain ⟨_, _, _, rfl, _, read⟩ := runs_exceptT_lift_bind_iff.mp rest
      obtain ⟨_, _, _, rfl, _, checked⟩ := runs_exceptT_lift_bind_iff.mp read
      exact refuses_checkStatus checked
  · rcases runs_exceptT_bind_iff.mp run with ⟨status, failed, rfl⟩ | ⟨_, hint, _, rfl, sent, rest⟩
    · obtain ⟨_, same⟩ := sending.works _ _ _ failed succeeds
      simp at same
    · obtain ⟨answer, issued, same⟩ := runs_attempt_iff.mp sent
      obtain rfl := runs_issue_iff.mp issued
      cases answer with
      | error result => simp [Except.mapError] at same
      | ok hint' =>
          obtain ⟨later, counted, afterSend⟩ := succeeds_cons_iff.mp succeeds
          obtain rfl : 0 = later := by simpa [pendingAfter] using counted
          obtain ⟨waits, _, _, rfl, waited, reading⟩ := runs_exceptT_lift_bind_iff.mp rest
          obtain ⟨reads, status, _, rfl, read, checked⟩ := runs_exceptT_lift_bind_iff.mp reading
          obtain ⟨readSucceeds, _⟩ :=
            succeeds_of_append (succeeds_after_delays (runs_waitForTimingHint waited) afterSend)
          have ok := isOk_of_readCommandResponse read readSucceeds
          obtain ⟨_, rfl⟩ := runs_checkStatus_iff.mp checked
          exact ⟨(), by simp [ok]⟩

theorem reliable_sendValue (device : Address) (value : Option ℚ) (command : ℚ → Command)
    (context : String) : Reliable (sendValue device value command context) := by
  cases value with
  | none => exact reliable_pure ()
  | some value => exact reliable_sendCommand device (command value) context

theorem reliable_writeCompensation {type : EzoDeviceType} {device : Address} {values : Compensation}
    {writer : Address → Compensation → JobM Unit}
    (adapted : (adapterFor type).writeCompensation = some writer) :
    Reliable (writer device values) := by
  cases type <;> cases adapted
  · exact reliable_sendValue _ _ _ _
  · exact (reliable_sendValue _ _ _ _).bind fun _ =>
      (reliable_sendValue _ _ _ _).bind fun _ => reliable_sendValue _ _ _ _

end EzoProvider.Devices
