import EzoProvider.Devices.Adapters

/-!
# Traces of device commands

What the exchanges of a job part say about its outcome, for every sequence of
driver answers; and which operations a part can perform at all.
-/

namespace EzoProvider.Devices

open Interaction Program

/-- Operations on one device, sending it only some commands and storing nothing. -/
def JobOp.Within (device : Address) (commands : Command → Prop) : JobOp → Prop
  | .bind address => address = device
  | .send target command => target = device ∧ commands command
  | .readResponse target | .readInfo target | .readOutputConfig target | .readValue target
  | .readOutputs target _ | .readCalibrationStatus target | .readTemperature target
  | .readSalinity target | .readPressure target => target = device
  | .delay _ => True
  | .store _ => False

theorem JobOp.Within.mono {device : Address} {commands larger : Command → Prop} {op : JobOp}
    (within : op.Within device commands) (implies : ∀ command, commands command → larger command) :
    op.Within device larger := by
  cases op <;> simp_all [JobOp.Within]

/-- Operations of a job on one device: it may store as well. -/
def JobOp.Serves (device : Address) (commands : Command → Prop) (op : JobOp) : Prop :=
  op.Within device commands ∨ ∃ output, op = .store output

/-- Operations which send a device nothing but the commands to be kept. -/
def JobOp.Spares (device : Address) (kept : Command → Prop) (op : JobOp) : Prop :=
  ∀ command, op = .send device command → kept command

theorem JobOp.Serves.spares {served device : Address} {commands kept : Command → Prop} {op : JobOp}
    (serves : op.Serves served commands)
    (implies : served = device → ∀ command, commands command → kept command) :
    op.Spares device kept := by
  rintro command rfl
  rcases serves with ⟨same, permitted⟩ | ⟨_, same⟩
  · exact implies same.symm command permitted
  · cases same

/-- Reads of a command's response code up to SUCCESS, over any number of 254s. -/
inductive Answered (device : Address) : JobTrace → Prop where
  | success : Answered device [⟨.readResponse device, .ok .success⟩]
  | pending {microseconds rest} (later : Answered device rest) :
      Answered device
        (⟨.readResponse device, .ok .notReady⟩ :: ⟨.delay microseconds, ()⟩ :: rest)

/-- A command transmitted, waited for and answered SUCCESS. -/
def Accepted (device : Address) (command : Command) (trace : JobTrace) : Prop :=
  ∃ hint waits reads, trace = ⟨.send device command, .ok hint⟩ :: (waits ++ reads) ∧
    (∀ exchange ∈ waits, ∃ microseconds, exchange.1 = .delay microseconds) ∧
    Answered device reads

theorem send_not_mem_of_answered {device address : Address} {command : Command}
    {answer : Except EzoError Nat} {trace : JobTrace} (answered : Answered device trace) :
    ⟨.send address command, answer⟩ ∉ trace := by
  induction answered with
  | success => simp
  | pending _ ih => simp [ih]

/-- An accepted command is the only one sent. -/
theorem Accepted.eq_of_send {device target : Address} {command other : Command}
    {answer : Except EzoError Nat} {trace : JobTrace} (accepted : Accepted device command trace)
    (member : ⟨.send target other, answer⟩ ∈ trace) : other = command := by
  obtain ⟨hint, waits, reads, rfl, delays, answered⟩ := accepted
  rcases List.mem_cons.mp member with same | member
  · cases same
    rfl
  · rcases List.mem_append.mp member with wait | read
    · obtain ⟨_, same⟩ := delays _ wait
      simp at same
    · exact absurd read (send_not_mem_of_answered answered)

/-! ## Waits and answers -/

theorem runs_issue_iff {op : JobOp} {trace : JobTrace} {answer : op.Result} :
    (JobOp.issue op).Runs trace answer ↔ trace = [⟨op, answer⟩] :=
  runs_ask_iff

theorem runs_waitForTimingHint {waitMs : Nat} {trace : JobTrace}
    (run : (waitForTimingHint waitMs).Runs trace ()) :
    ∀ exchange ∈ trace, ∃ microseconds, exchange.1 = .delay microseconds := by
  by_cases none : waitMs = 0
  · rw [waitForTimingHint, if_pos none] at run
    obtain ⟨rfl, _⟩ := runs_done_iff.mp run
    simp
  · rw [waitForTimingHint, if_neg none] at run
    obtain rfl := runs_issue_iff.mp run
    simp

theorem only_waitForTimingHint {waitMs : Nat} {device : Address} {commands : Command → Prop} :
    (waitForTimingHint waitMs).Only (JobOp.Within device commands) := by
  by_cases none : waitMs = 0
  · rw [waitForTimingHint, if_pos none]
    trivial
  · rw [waitForTimingHint, if_neg none]
    exact ⟨trivial, fun _ => trivial⟩

theorem only_issue {op : JobOp} {allowed : JobOp → Prop} (permitted : allowed op) :
    (JobOp.issue op).Only allowed :=
  ⟨permitted, fun _ => trivial⟩

theorem only_checkStatus {status : Status} {allowed : JobOp → Prop} :
    (checkStatus status).run.Only allowed := by
  rw [checkStatus]
  split <;> trivial

theorem runs_checkStatus_iff {status : Status} {trace : JobTrace} {value : Except Status Unit} :
    (checkStatus status).run.Runs trace value ↔
      trace = [] ∧ value = if status.isOk then .ok () else .error status := by
  rw [checkStatus]
  split <;> exact runs_done_iff

/-! ## Whole jobs -/

theorem runs_concludes {body : JobM Unit} {trace : JobTrace} {status : Status}
    (run : (concludes body).Runs trace status) :
    ∃ outcome, body.run.Runs trace outcome ∧
      status = match outcome with
        | .ok _ => .success
        | .error status => status := by
  obtain ⟨first, outcome, second, rfl, before, after⟩ := runs_bind_iff.mp run
  refine ⟨outcome, ?_, ?_⟩
  · cases outcome <;> simpa [(runs_done_iff.mp after).1] using before
  · cases outcome <;> exact (runs_done_iff.mp after).2

theorem only_concludes {body : JobM Unit} {allowed : JobOp → Prop}
    (only : body.run.Only allowed) : (concludes body).Only allowed := by
  refine only_bind only fun outcome => ?_
  cases outcome <;> trivial

variable [EzoDriver]

theorem runs_attempt_iff {α : Type} {context : String}
    {call : Program JobOp JobOp.Result (Except EzoError α)} {trace : JobTrace}
    {value : Except Status α} :
    (attempt context call).run.Runs trace value ↔
      ∃ answer, call.Runs trace answer ∧
        value = answer.mapError (statusFromEzoResult · context) := by
  have unfolded : (attempt context call).run = call >>= fun answer =>
      Program.done (answer.mapError (statusFromEzoResult · context)) := by
    rw [attempt, ExceptT.run_mk]
    congr 1
    funext answer
    cases answer <;> rfl
  rw [unfolded, runs_bind_iff]
  constructor
  · rintro ⟨first, answer, second, rfl, before, after⟩
    obtain ⟨rfl, rfl⟩ := runs_done_iff.mp after
    exact ⟨answer, by simpa using before, rfl⟩
  · rintro ⟨answer, run, rfl⟩
    exact ⟨trace, answer, [], by simp, run, .refl⟩

theorem only_attempt {α : Type} {context : String} {allowed : JobOp → Prop}
    {call : Program JobOp JobOp.Result (Except EzoError α)} (only : call.Only allowed) :
    (attempt context call).run.Only allowed := by
  refine only_bind only fun answer => ?_
  cases answer <;> trivial

/-! ## Responses -/

theorem only_readCommandResponse {device : Address} {commands : Command → Prop} :
    (readCommandResponse device).Only (JobOp.Within device commands) := by
  have once : ∀ pending : Job, pending.Only (JobOp.Within device commands) →
      (readResponseCode device pending).Only (JobOp.Within device commands) := by
    intro pending only
    refine ⟨rfl, fun answer => ?_⟩
    rcases answer with result | status
    · trivial
    · cases status with
      | notReady => exact only
      | _ => trivial
  have loop : ∀ rereads,
      (readCommandResponseLoop device rereads).Only (JobOp.Within device commands) := by
    intro rereads
    induction rereads with
    | zero => exact once _ trivial
    | succ rereads ih => exact once _ (only_bind only_waitForTimingHint fun _ => ih)
  exact loop kPendingRereads

/-- A response read which returns ok has read SUCCESS, after 254s only. -/
theorem answered_of_readCommandResponse {device : Address} {trace : JobTrace} {status : Status}
    (run : (readCommandResponse device).Runs trace status) (ok : status.isOk = true) :
    Answered device trace := by
  have loop : ∀ rereads trace, (readCommandResponseLoop device rereads).Runs trace status →
      Answered device trace := by
    intro rereads
    -- One pass: every answer but SUCCESS and 254 ends the read with an error.
    have once : ∀ pending trace, (readResponseCode device pending).Runs trace status →
        trace = [⟨.readResponse device, .ok .success⟩] ∨
          ∃ tail, trace = ⟨.readResponse device, .ok .notReady⟩ :: tail ∧
            pending.Runs tail status := by
      intro pending trace run
      obtain ⟨answer, tail, rfl, rest⟩ := runs_perform_iff.mp run
      rcases answer with result | code
      · obtain ⟨_, rfl⟩ := runs_done_iff.mp rest
        simp [isOk_statusFromEzoResult] at ok
      · cases code with
        | success =>
            obtain ⟨rfl, _⟩ := runs_done_iff.mp rest
            exact .inl rfl
        | notReady => exact .inr ⟨tail, rfl, rest⟩
        | fail | noData | unknown =>
            obtain ⟨_, rfl⟩ := runs_done_iff.mp rest
            simp at ok
    induction rereads with
    | zero =>
        intro trace run
        rcases once _ trace run with rfl | ⟨tail, rfl, rest⟩
        · exact .success
        · obtain ⟨_, rfl⟩ := runs_done_iff.mp rest
          simp at ok
    | succ rereads ih =>
        intro trace run
        rcases once _ trace run with rfl | ⟨tail, rfl, rest⟩
        · exact .success
        · obtain ⟨first, _, second, rfl, wait, later⟩ := runs_bind_iff.mp rest
          obtain rfl := runs_issue_iff.mp wait
          exact .pending (ih second later)
  exact loop kPendingRereads trace run

/-! ## Commands -/

theorem only_sendCommand {device : Address} {command : Command} {context : String}
    {commands : Command → Prop} (permitted : commands command) :
    (sendCommand device command context).run.Only (JobOp.Within device commands) := by
  refine only_exceptT_bind (only_attempt (only_issue ⟨rfl, permitted⟩)) fun hint => ?_
  refine only_exceptT_lift_bind only_waitForTimingHint fun _ => ?_
  exact only_exceptT_lift_bind only_readCommandResponse fun _ => only_checkStatus

/-- A command which left its job part going was accepted. -/
theorem accepted_of_sendCommand {device : Address} {command : Command} {context : String}
    {trace : JobTrace} (run : (sendCommand device command context).run.Runs trace (.ok ())) :
    Accepted device command trace := by
  obtain ⟨_, hint, _, rfl, sent, waitRun⟩ := runs_exceptT_bind_ok_iff.mp run
  obtain ⟨answer, issued, same⟩ := runs_attempt_iff.mp sent
  obtain rfl := runs_issue_iff.mp issued
  obtain ⟨waits, _, _, rfl, waited, readRun⟩ := runs_exceptT_lift_bind_iff.mp waitRun
  obtain ⟨reads, status, _, rfl, read, checkRun⟩ := runs_exceptT_lift_bind_iff.mp readRun
  obtain ⟨rfl, checked⟩ := runs_checkStatus_iff.mp checkRun
  have ok : status.isOk = true := by
    by_contra failed
    simp [failed] at checked
  cases answer with
  | error result => simp [Except.mapError] at same
  | ok hint =>
      exact ⟨hint, waits, reads, by simp, runs_waitForTimingHint waited,
        answered_of_readCommandResponse read ok⟩

/-- The exchanges of a compensation value: none if there is none to send. -/
def Sent (device : Address) (value : Option ℚ) (command : ℚ → Command) (trace : JobTrace) : Prop :=
  match value with
  | none => trace = []
  | some value => Accepted device (command value) trace

theorem sent_of_sendValue {device : Address} {value : Option ℚ} {command : ℚ → Command}
    {context : String} {trace : JobTrace}
    (run : (sendValue device value command context).run.Runs trace (.ok ())) :
    Sent device value command trace := by
  cases value with
  | none => exact (runs_done_iff.mp run).1
  | some value => exact accepted_of_sendCommand run

theorem only_sendValue {device : Address} {value : Option ℚ} {command : ℚ → Command}
    {context : String} {commands : Command → Prop} (permitted : ∀ value, commands (command value)) :
    (sendValue device value command context).run.Only (JobOp.Within device commands) := by
  cases value with
  | none => trivial
  | some value => exact only_sendCommand (permitted value)

/-! ## Queries -/

theorem only_queryDevice {α : Type} {device : Address} {command : Command}
    {sendContext readContext : String} {answer : Program JobOp JobOp.Result (Except EzoError α)}
    {commands : Command → Prop} (permitted : commands command)
    (answering : answer.Only (JobOp.Within device commands)) :
    (queryDevice device command sendContext answer readContext).run.Only
      (JobOp.Within device commands) := by
  refine only_exceptT_bind (only_attempt (only_issue ⟨rfl, permitted⟩)) fun hint => ?_
  exact only_exceptT_lift_bind only_waitForTimingHint fun _ => only_attempt answering

/-- A query which left its job part going was sent and its reply read. -/
theorem runs_queryDevice {α : Type} {device : Address} {command : Command}
    {sendContext readContext : String} {answer : Program JobOp JobOp.Result (Except EzoError α)}
    {trace : JobTrace} {value : α}
    (run : (queryDevice device command sendContext answer readContext).run.Runs trace (.ok value)) :
    ∃ hint waits reads, trace = ⟨.send device command, .ok hint⟩ :: (waits ++ reads) ∧
      (∀ exchange ∈ waits, ∃ microseconds, exchange.1 = .delay microseconds) ∧
      answer.Runs reads (.ok value) := by
  obtain ⟨_, hint, _, rfl, sent, waitRun⟩ := runs_exceptT_bind_ok_iff.mp run
  obtain ⟨issued, issueRun, same⟩ := runs_attempt_iff.mp sent
  obtain rfl := runs_issue_iff.mp issueRun
  obtain ⟨waits, _, reads, rfl, waited, readRun⟩ := runs_exceptT_lift_bind_iff.mp waitRun
  obtain ⟨reply, replied, same'⟩ := runs_attempt_iff.mp readRun
  cases issued with
  | error result => simp [Except.mapError] at same
  | ok hint =>
      cases reply with
      | error result => simp [Except.mapError] at same'
      | ok reply =>
          obtain rfl : value = reply := by simpa [Except.mapError] using same'
          exact ⟨hint, waits, reads, rfl, runs_waitForTimingHint waited, replied⟩

/-! ## Binding a device -/

theorem runs_bindEzoI2cDevice {address device : Address} {trace : JobTrace}
    (run : (bindEzoI2cDevice address).run.Runs trace (.ok device)) :
    device = address ∧ trace = [⟨.bind address, .ok ()⟩] := by
  obtain ⟨answer, tail, rfl, rest⟩ := runs_perform_iff.mp run
  cases answer with
  | error result =>
      obtain ⟨_, same⟩ := runs_done_iff.mp rest
      simp at same
  | ok _ =>
      obtain ⟨rfl, same⟩ := runs_done_iff.mp rest
      exact ⟨Except.ok.inj same, rfl⟩

theorem only_bindEzoI2cDevice (address : Address) {commands : Command → Prop} :
    (bindEzoI2cDevice address).run.Only (JobOp.Within address commands) := by
  refine ⟨rfl, fun answer => ?_⟩
  cases answer <;> trivial

end EzoProvider.Devices
