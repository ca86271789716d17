import EzoProvider.Devices.ProbeInvariants
import EzoProvider.Devices.Successes
import EzoProvider.Runtime.Startup

/-!
# The world of one caller

The runtime state, the executor and the probes, as a caller finds them who makes
one call at a time. Of the executor there is left whether it runs and the job,
if any, that has outlived its caller: the executor is serial, so that job goes
first. `Submits` is what can become of a submission; `Line.Submitted` is all
that can, `Line.Delivered` a submission on a bus which fails nothing.
-/

namespace EzoProvider.Runtime

open Interaction Program Devices

/-- The executor and the bus behind it. -/
structure Line where
  running : Bool := false
  orphan : Option Job := none
  bus : Bus

/-- The runtime, and the line to its devices. `clock` is the last steady clock reading. -/
structure World where
  state : RuntimeState := {}
  line : Line
  clock : Int := 0

/-- What can become of a submission. -/
abbrev Submits := Line → String → Int → Job → SubmitReply → Line → Prop

/-- The reply of a submission whose caller gave up waiting. -/
def deadlineReply (name : String) (outputs : JobOutputs) : SubmitReply where
  status := makeStatus .deadlineExceeded ("job '" ++ name ++ "' timed out")
  outputs

variable [DecimalText]

namespace Line

/-- The job left on the line, if any, has come to its end. -/
def Cleared (line : Line) (bus : Bus) : Prop :=
  match line.orphan with
  | none => bus = line.bus
  | some job => ∃ trace status, job.Runs trace status ∧ Bus.environment.Path line.bus trace bus

/-- Time passes: the job left on the line advances. -/
inductive Passed (line : Line) : Line → Prop where
  | idle {bus : Bus} (alone : line.orphan = none) (drift : Bus.Drift line.bus bus) :
      Passed line { line with bus }
  | advanced {job rest : Job} {trace : JobTrace} {ended bus : Bus}
      (left : line.orphan = some job) (advance : job.Advances trace rest)
      (path : Bus.environment.Path line.bus trace ended) (drift : Bus.Drift ended bus) :
      Passed line { line with orphan := some rest, bus }

/-- The outcomes of `submit`. A caller which gives up leaves its job on the line, or
in the queue, where it is skipped. -/
inductive Submitted (line : Line) (name : String) (timeoutMs : Int) (job : Job) :
    SubmitReply → Line → Prop where
  | refused (stopped : line.running = false) :
      Submitted line name timeoutMs job
        { status := makeStatus .unavailable "i2c executor is not running" } line
  | finished {cleared ended bus : Bus} {trace : JobTrace} {status : Status}
      (running : line.running = true) (clear : line.Cleared cleared)
      (run : job.Runs trace status) (path : Bus.environment.Path cleared trace ended)
      (drift : Bus.Drift ended bus) :
      Submitted line name timeoutMs job { status, outputs := outputsOf trace }
        { line with orphan := none, bus }
  | expired {cleared ended bus : Bus} {trace : JobTrace} {rest : Job}
      (running : line.running = true) (timed : 0 < timeoutMs) (clear : line.Cleared cleared)
      (advance : job.Advances trace rest) (path : Bus.environment.Path cleared trace ended)
      (drift : Bus.Drift ended bus) :
      Submitted line name timeoutMs job (deadlineReply name (outputsOf trace))
        { line with orphan := some rest, bus }
  | skipped {passed : Line} (running : line.running = true) (timed : 0 < timeoutMs)
      (passes : line.Passed passed) :
      Submitted line name timeoutMs job (deadlineReply name {}) passed

/-- A submission whose job finishes in time, all its operations succeeding. -/
def Delivered (line : Line) (_name : String) (_timeoutMs : Int) (job : Job)
    (reply : SubmitReply) (line' : Line) : Prop :=
  ∃ cleared ended bus trace, line.running = true ∧ line.Cleared cleared ∧
    job.Runs trace reply.status ∧ Succeeds 0 trace ∧ reply.outputs = outputsOf trace ∧
    Bus.environment.Path cleared trace ended ∧ Bus.Drift ended bus ∧
    line' = { line with orphan := none, bus }

theorem submitted_of_delivered {line line' : Line} {name : String} {timeoutMs : Int} {job : Job}
    {reply : SubmitReply} (delivered : line.Delivered name timeoutMs job reply line') :
    line.Submitted name timeoutMs job reply line' := by
  obtain ⟨cleared, ended, bus, trace, running, clear, run, _, same, path, drift, rfl⟩ := delivered
  obtain ⟨status, outputs⟩ := reply
  obtain rfl : outputs = outputsOf trace := same
  exact .finished running clear run path drift

end Line

namespace World

/-- What a caller's operations do. The clocks read anything, the steady one never
less than before. -/
def environment (submits : Submits) : Environment CallerOp CallerOp.Result World where
  Answers world op answer world' :=
    match op, answer with
    | .locked change, found =>
        found = world.state ∧ world' = { world with state := change world.state }
    | .submit name timeoutMs job, reply =>
        ∃ line, submits world.line name timeoutMs job reply line ∧ world' = { world with line }
    | .steadyNow, now => world.clock ≤ now ∧ world' = { world with clock := now }
    | .systemNow, _ | .warn _, _ | .checkHost _, _ => world' = world
    | .startExecutor _, status =>
        world' = { world with line := { world.line with running := status.isOk } }
    | .stopExecutor, _ =>
        ∃ bus, world.line.Cleared bus ∧ world' = { world with line := { bus } }

theorem answers_mono {submits larger : Submits}
    (fewer : ∀ {line name timeoutMs job reply line'}, submits line name timeoutMs job reply line' →
      larger line name timeoutMs job reply line')
    {world world' : World} {op : CallerOp} {answer : op.Result}
    (answers : (environment submits).Answers world op answer world') :
    (environment larger).Answers world op answer world' := by
  cases op with
  | submit name timeoutMs job =>
      obtain ⟨line, submitted, rfl⟩ := answers
      exact ⟨line, fewer submitted, rfl⟩
  | _ => exact answers

end World

/-! ## Steps of a caller -/

section Callers

variable {submits : Submits} {world world' : World}

theorem completes_snapshot_iff {state : RuntimeState} :
    Completes (World.environment submits) snapshot world state world' ↔
      state = world.state ∧ world' = world :=
  completes_ask_iff

theorem completes_changeDevice_iff {deviceId : String} {change : ActiveDevice → ActiveDevice}
    {found : RuntimeState} :
    Completes (World.environment submits) (changeDevice deviceId change) world found world' ↔
      found = world.state ∧ world' = { world with state := world.state.update deviceId change } :=
  completes_ask_iff

theorem completes_submit_iff {name : String} {timeoutMs : Int} {job : Job} {reply : SubmitReply} :
    Completes (World.environment submits) (CallerOp.issue (.submit name timeoutMs job)) world reply
        world' ↔
      ∃ line, submits world.line name timeoutMs job reply line ∧ world' = { world with line } :=
  completes_ask_iff

theorem completes_systemNow_iff {now : Int} :
    Completes (World.environment submits) (CallerOp.issue .systemNow) world now world' ↔
      world' = world :=
  completes_ask_iff

theorem completes_steadyNow_iff {now : Int} :
    Completes (World.environment submits) (CallerOp.issue .steadyNow) world now world' ↔
      world.clock ≤ now ∧ world' = { world with clock := now } :=
  completes_ask_iff

theorem completes_warn_iff {message : String} {value : Unit} :
    Completes (World.environment submits) (CallerOp.issue (.warn message)) world value world' ↔
      world' = world :=
  completes_ask_iff

theorem completes_warnUnlessOk {status : Status} {context : String} {value : Unit}
    (completes : Completes (World.environment submits) (warnUnlessOk status context) world value
      world') : world' = world := by
  rw [warnUnlessOk] at completes
  split at completes
  · exact (completes_done_iff.mp completes).2
  · exact completes_warn_iff.mp completes

end Callers

end EzoProvider.Runtime
