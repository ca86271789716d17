import EzoProvider.Interaction.Streaks
import EzoProvider.Runtime.Refreshes

/-!
# The cadence warning

`refresh_device_sample` warns, once for a device, when its samples keep coming
later than they are declared stale. The history it decides on is the list of the
outcomes of all refreshes; the counter and the latch of the sample cache are what
it remembers of that.
-/

namespace EzoProvider.Runtime

open Interaction Program Devices TransitionSystem

/-- The outcome of a refresh: the monotonic time of the sample, or a failure. -/
abbrev SampleOutcome := Option Int

/-- The gap before a refresh exceeds the bound. It has a gap before it if it and the refresh
before it succeeded. -/
def overBound (bound : Int) (outcomes : List SampleOutcome) : Nat → Bool
  | 0 => false
  | earlier + 1 =>
      match outcomes[earlier]?, outcomes[earlier + 1]? with
      | some (some before), some (some after) => bound < toMilliseconds (after - before)
      | _, _ => false

/-- Four refreshes in a row succeeded, the last of them the one at `position`, and all three
gaps exceed the bound. -/
def Sustained (bound : Int) (outcomes : List SampleOutcome) (position : Nat) : Prop :=
  ∃ start first second third fourth, position = start + 3 ∧
    outcomes[start]? = some (some first) ∧ outcomes[start + 1]? = some (some second) ∧
    outcomes[start + 2]? = some (some third) ∧ outcomes[start + 3]? = some (some fourth) ∧
    bound < toMilliseconds (second - first) ∧ bound < toMilliseconds (third - second) ∧
    bound < toMilliseconds (fourth - third)

section Histories

variable {bound : Int} {outcomes : List SampleOutcome} {outcome : SampleOutcome}

theorem overBound_succ_iff {earlier : Nat} :
    overBound bound outcomes (earlier + 1) = true ↔
      ∃ before after, outcomes[earlier]? = some (some before) ∧
        outcomes[earlier + 1]? = some (some after) ∧ bound < toMilliseconds (after - before) := by
  rw [overBound]
  split
  · next before after foundBefore foundAfter =>
      simp [foundBefore, foundAfter]
  · next neither =>
      simp only [Bool.false_eq_true, false_iff, not_exists, not_and]
      intro before after foundBefore foundAfter
      exact absurd foundAfter (neither before after foundBefore)

/-- A sustained lag is a streak of three gaps over the bound. -/
theorem sustained_iff {position : Nat} :
    Sustained bound outcomes position ↔
      3 ≤ streak (overBound bound outcomes) (position + 1) := by
  rw [le_streak_iff]
  constructor
  · rintro ⟨start, first, second, third, fourth, rfl, one, two, three, four, lag, lag', lag''⟩
    refine ⟨by omega, fun back below => ?_⟩
    obtain rfl | rfl | rfl : back = 0 ∨ back = 1 ∨ back = 2 := by omega
    · exact overBound_succ_iff.mpr ⟨third, fourth, three, four, lag''⟩
    · exact overBound_succ_iff.mpr ⟨second, third, two, three, lag'⟩
    · exact overBound_succ_iff.mpr ⟨first, second, one, two, lag⟩
  · rintro ⟨within, all⟩
    have last := all 0 (by omega)
    have middle := all 1 (by omega)
    have front := all 2 (by omega)
    obtain ⟨start, rfl⟩ : ∃ start, position = start + 3 := by
      refine ⟨position - 3, ?_⟩
      by_contra short
      obtain rfl : position = 2 := by omega
      cases front
    obtain ⟨third, fourth, three, four, lag''⟩ := overBound_succ_iff.mp last
    obtain ⟨second, third', two, three', lag'⟩ := overBound_succ_iff.mp middle
    obtain ⟨first, second', one, two', lag⟩ := overBound_succ_iff.mp front
    cases three.symm.trans three'
    cases two.symm.trans two'
    exact ⟨start, first, second, third, fourth, rfl, one, two, three, four, lag, lag', lag''⟩

/-- What comes later does not change the gaps so far. -/
theorem overBound_append {position : Nat} (before : position < outcomes.length) :
    overBound bound (outcomes ++ [outcome]) position = overBound bound outcomes position := by
  cases position with
  | zero => rfl
  | succ earlier =>
      rw [overBound, overBound, List.getElem?_append_left before,
        List.getElem?_append_left (by omega)]

theorem streak_append {position : Nat} (before : position ≤ outcomes.length) :
    streak (overBound bound (outcomes ++ [outcome])) position =
      streak (overBound bound outcomes) position :=
  streak_congr fun _ below => overBound_append (by omega)

/-- The gap before the refresh which comes next. -/
theorem overBound_next :
    overBound bound (outcomes ++ [outcome]) outcomes.length =
      match outcomes.getLast?, outcome with
      | some (some before), some after => decide (bound < toMilliseconds (after - before))
      | _, _ => false := by
  rcases List.eq_nil_or_concat outcomes with rfl | ⟨front, last, rfl⟩
  · rfl
  · rw [List.concat_eq_append, List.length_append, List.length_singleton, overBound,
      List.getLast?_concat]
    have foundLast : (front ++ [last] ++ [outcome])[front.length]? = some last := by simp
    have foundNext : (front ++ [last] ++ [outcome])[front.length + 1]? = some outcome := by simp
    rw [foundLast, foundNext]
    cases last <;> cases outcome <;> rfl

/-- No gap ends at a refresh which failed, or at none. -/
theorem streak_of_unread (unread : ∀ time, outcomes.getLast? ≠ some (some time)) :
    streak (overBound bound outcomes) outcomes.length = 0 := by
  rcases List.eq_nil_or_concat outcomes with rfl | ⟨front, last, rfl⟩
  · rfl
  · rw [List.concat_eq_append] at unread ⊢
    rw [List.length_append, List.length_singleton]
    apply streak_succ_of_breaks
    rw [overBound_next]
    cases last with
    | none => cases front.getLast? with
      | none => rfl
      | some before => cases before <;> rfl
    | some time => exact absurd List.getLast?_concat (unread time)

end Histories

/-! ## What the cache remembers -/

/-- The sample cache after refreshes with these outcomes. -/
structure Noted (bound : Int) (outcomes : List SampleOutcome) (sample : DeviceSampleCache) :
    Prop where
  sampled : (∃ time, outcomes.getLast? = some (some time)) → sample.hasSample = true
  latest : sample.lastReadOk = true ↔ ∃ time, outcomes.getLast? = some (some time)
  stamp : ∀ time, outcomes.getLast? = some (some time) → sample.sampledAtSteady = time
  warned : sample.staleGapWarned = true ↔
    ∃ position < outcomes.length, Sustained bound outcomes position
  lagging : sample.staleGapWarned = false →
    sample.consecutiveLaggingGaps = streak (overBound bound outcomes) outcomes.length

/-- A cache with no sample in it: its signals are declared, but none is filled. -/
def DeviceSampleCache.Unfilled (sample : DeviceSampleCache) : Prop :=
  { sample with signals := [] } = {}

theorem noted_unfilled (bound : Int) {sample : DeviceSampleCache} (unfilled : sample.Unfilled) :
    Noted bound [] sample := by
  have read := congrArg (·.lastReadOk) unfilled
  have warned := congrArg (·.staleGapWarned) unfilled
  have lagging := congrArg (·.consecutiveLaggingGaps) unfilled
  dsimp only at read warned lagging
  constructor
  · simp
  · simp [read]
  · simp
  · simp [warned]
  · simp [lagging, streak]

section Notes

variable {bound : Int} {outcomes : List SampleOutcome} {sample : DeviceSampleCache}
  {config : ProviderConfig} {deviceId : String} {nowSteady : Int}

theorem sustained_append {outcome : SampleOutcome} {position : Nat}
    (before : position < outcomes.length) :
    Sustained bound (outcomes ++ [outcome]) position ↔ Sustained bound outcomes position := by
  rw [sustained_iff, sustained_iff, streak_append before]

/-- Whether there has been a sustained lag, with one more refresh. -/
theorem exists_sustained_append {outcome : SampleOutcome} :
    (∃ position < (outcomes ++ [outcome]).length,
        Sustained bound (outcomes ++ [outcome]) position) ↔
      (∃ position < outcomes.length, Sustained bound outcomes position) ∨
        Sustained bound (outcomes ++ [outcome]) outcomes.length := by
  rw [List.length_append, List.length_singleton]
  constructor
  · rintro ⟨position, below, sustained⟩
    rcases Nat.lt_succ_iff_lt_or_eq.mp below with before | rfl
    · exact .inl ⟨position, before, (sustained_append before).mp sustained⟩
    · exact .inr sustained
  · rintro (⟨position, before, sustained⟩ | sustained)
    · exact ⟨position, Nat.lt_succ_of_lt before, (sustained_append before).mpr sustained⟩
    · exact ⟨_, Nat.lt_succ_self _, sustained⟩

/-- The streak with a success which comes next. -/
theorem streak_next (noted : Noted bound outcomes sample) (time : Int) :
    streak (overBound bound (outcomes ++ [some time])) (outcomes.length + 1) =
      if sample.lastReadOk = true ∧ bound < toMilliseconds (time - sample.sampledAtSteady) then
        streak (overBound bound outcomes) outcomes.length + 1
      else 0 := by
  have next := @overBound_next bound outcomes (some time)
  cases read : sample.lastReadOk with
  | true =>
      obtain ⟨before, last⟩ := noted.latest.mp read
      rw [last] at next
      rw [noted.stamp before last, streak, next, streak_append le_rfl]
      simp
  | false =>
      have unread : ∀ time, outcomes.getLast? ≠ some (some time) := by
        intro time last
        rw [noted.latest.mpr ⟨time, last⟩] at read
        cases read
      have broken : overBound bound (outcomes ++ [some time]) outcomes.length = false := by
        rw [next]
        cases last : outcomes.getLast? with
        | none => rfl
        | some outcome => cases outcome with
          | none => rfl
          | some before => exact absurd last (unread before)
      rw [streak_succ_of_breaks broken]
      simp

/-- What `note_cadence` does with a success that comes next. -/
theorem Noted.cadence (noted : Noted (staleAfterMs config) outcomes sample) :
    let lag := streak (overBound (staleAfterMs config) (outcomes ++ [some nowSteady]))
      (outcomes.length + 1)
    let next := noteCadence config deviceId nowSteady sample
    (next.2.isSome = true ↔ sample.staleGapWarned = false ∧ 3 ≤ lag) ∧
      (next.1.staleGapWarned = true ↔ sample.staleGapWarned = true ∨ 3 ≤ lag) ∧
      (next.1.staleGapWarned = false → next.1.consecutiveLaggingGaps = lag) := by
  intro lag next
  have length : lag = _ := streak_next noted nowSteady
  cases warned : sample.staleGapWarned with
  | true =>
      have skipped : next = (sample, none) := by
        simp [next, noteCadence, warned]
      simp [skipped, warned]
  | false =>
      have count := noted.lagging warned
      cases read : sample.lastReadOk with
      | false =>
          have unread : ∀ time, outcomes.getLast? ≠ some (some time) := by
            intro time last
            rw [noted.latest.mpr ⟨time, last⟩] at read
            cases read
          have skipped : next = (sample, none) := by
            simp [next, noteCadence, read]
          rw [streak_of_unread unread] at count
          rw [read] at length
          simp [skipped, warned, count, length]
      | true =>
          have sampled := noted.sampled (noted.latest.mp read)
          rw [read, ← count] at length
          by_cases over' : staleAfterMs config <
              toMilliseconds (nowSteady - sample.sampledAtSteady)
          · rw [if_pos ⟨rfl, over'⟩] at length
            by_cases sustained : kCadenceLagStreak ≤ sample.consecutiveLaggingGaps + 1
            · have long : 3 ≤ lag := by
                rw [length]
                exact sustained
              simp [next, noteCadence, sampled, read, warned, over', sustained, long]
            · have few : sample.consecutiveLaggingGaps < 2 := by
                simp only [kCadenceLagStreak] at sustained
                omega
              simp [next, noteCadence, sampled, read, warned, over', sustained, length, few]
          · rw [if_neg (fun both => over' both.2)] at length
            simp [next, noteCadence, sampled, read, warned, over', length]

/-- The cache is noted looking at the sample only. -/
theorem Noted.kept [EzoDriver]
    {device device' : ActiveDevice}
    (noted : Noted bound outcomes device.sample) (kept : SampleKept device device') :
    Noted bound outcomes device'.sample := by
  have sampled := congrArg (·.hasSample) kept.sample
  have read := congrArg (·.lastReadOk) kept.sample
  have stamp := congrArg (·.sampledAtSteady) kept.sample
  have warned := congrArg (·.staleGapWarned) kept.sample
  have lagging := congrArg (·.consecutiveLaggingGaps) kept.sample
  dsimp only at sampled read stamp warned lagging
  constructor
  · rw [sampled]
    exact noted.sampled
  · rw [read]
    exact noted.latest
  · rw [stamp]
    exact noted.stamp
  · rw [warned]
    exact noted.warned
  · rw [warned, lagging]
    exact noted.lagging

/-- What a refresh leaves of the history, and whether it warns. -/
theorem Noted.refreshed [EzoDriver] {device : ActiveDevice}
    (noted : Noted (staleAfterMs config) outcomes device.sample) (status : Status)
    (signals : List SignalSample) (now : Int) :
    let outcome : SampleOutcome := if status.isOk then some nowSteady else none
    let warning :=
      if status.isOk then (noteCadence config deviceId nowSteady device.sample).2 else none
    Noted (staleAfterMs config) (outcomes ++ [outcome])
        (recordSample config deviceId status signals now nowSteady device).sample ∧
      (warning.isSome = true ↔
        (∀ position < outcomes.length,
          ¬ Sustained (staleAfterMs config) (outcomes ++ [outcome]) position) ∧
        Sustained (staleAfterMs config) (outcomes ++ [outcome]) outcomes.length) := by
  intro outcome warning
  have clear : (∀ position < outcomes.length,
      ¬ Sustained (staleAfterMs config) (outcomes ++ [outcome]) position) ↔
        device.sample.staleGapWarned = false := by
    rw [← Bool.not_eq_true, noted.warned]
    simp only [not_exists, not_and]
    exact forall₂_congr fun position below => not_congr (sustained_append below)
  rw [clear]
  cases ok : status.isOk with
  | true =>
      have outcome_eq : outcome = some nowSteady := if_pos ok
      have warning_eq : warning = (noteCadence config deviceId nowSteady device.sample).2 :=
        if_pos ok
      obtain ⟨warns, latched, lagging⟩ := @Noted.cadence _ _ config deviceId nowSteady noted
      rw [outcome_eq, warning_eq, sustained_iff]
      refine ⟨?_, warns⟩
      simp only [recordSample, if_pos ok]
      refine ⟨fun _ => rfl, by simp, by simp, ?_, ?_⟩
      · rw [exists_sustained_append, ← noted.warned, sustained_iff]
        exact latched
      · intro unlatched
        rw [List.length_append, List.length_singleton]
        exact lagging unlatched
  | false =>
      have outcome_eq : outcome = none := if_neg (by simp [ok])
      have warning_eq : warning = none := if_neg (by simp [ok])
      have broken : overBound (staleAfterMs config) (outcomes ++ [none]) outcomes.length = false := by
        rw [overBound_next]
        cases outcomes.getLast? with
        | none => rfl
        | some last => cases last <;> rfl
      have short : ¬ Sustained (staleAfterMs config) (outcomes ++ [none]) outcomes.length := by
        rw [sustained_iff, streak_succ_of_breaks broken]
        omega
      rw [outcome_eq, warning_eq, recordSample_failed config deviceId signals now nowSteady device ok]
      refine ⟨⟨by simp, by simp, by simp, ?_, ?_⟩, by simp [short]⟩
      · rw [exists_sustained_append, ← noted.warned]
        simp [short]
      · intro _
        rw [List.length_append, List.length_singleton, streak_succ_of_breaks broken]

end Notes

/-! ## Refreshes of a run -/

/-- The monotonic clock reading of a refresh. -/
def steadyReading (trace : CallerTrace) : Option Int :=
  trace.findSome? fun exchange =>
    match exchange with
    | ⟨.steadyNow, now⟩ => some now
    | _ => none

/-- The status of the first job submitted in a trace, if there is one. -/
def firstSubmission (trace : CallerTrace) : Option Status :=
  trace.findSome? fun exchange =>
    match exchange with
    | ⟨.submit .., reply⟩ => some reply.status
    | _ => none

/-- The warning a trace starts with, if it does. -/
def leadingWarning : CallerTrace → Option String
  | ⟨.warn message, _⟩ :: _ => some message
  | _ => none

/-- The warning of a refresh about its cadence. It comes after the five operations up to the
record of the outcome, and before any check of the compensation. -/
def cadenceWarning (trace : CallerTrace) : Option String :=
  leadingWarning (trace.drop 5)

section Refreshes

variable [EzoDriver] {deviceId : String}

/-- Past the lock a refresh warns first, if it does. -/
theorem leadingWarning_afterSample {status returned : Status} {warning : Option String} {due : Bool}
    {trace : CallerTrace}
    (run : (afterSample deviceId status warning due).Runs trace returned) :
    leadingWarning trace = warning := by
  rw [afterSample] at run
  obtain ⟨warns, _, rest, rfl, warned, later⟩ := runs_bind_iff.mp run
  cases warning with
  | some message =>
      obtain rfl := runs_ask_iff.mp warned
      rfl
  | none =>
      obtain ⟨rfl, _⟩ := runs_done_iff.mp warned
      cases due with
      | false =>
          obtain ⟨rfl, _⟩ := runs_done_iff.mp later
          rfl
      | true =>
          obtain ⟨checks, _, _, rfl, checking, _⟩ := runs_bind_iff.mp later
          obtain ⟨_, _, _, rfl, looked, _⟩ := runs_bind_iff.mp checking
          obtain rfl := runs_ask_iff.mp looked
          rfl

variable [DecimalText] {submits : Submits} {world world' : World}

theorem RoundStep.config {round : Round} (step : RoundStep submits world round world') :
    world'.state.config = world.state.config := by
  cases step <;> rfl

theorem Through.config {allowed : Round → Prop} (through : Through submits allowed world world') :
    world'.state.config = world.state.config := by
  let same : World → Prop := fun later => later.state.config = world.state.config
  refine @Through.maintains _ _ _ _ _ _ same ?_ through rfl
  intro before round after _ kept step
  exact step.config.trans kept

/-- A refresh of a device which is there, with what its trace shows of it. -/
theorem recorded_of_refresh {status : Status} {trace : CallerTrace} {device : ActiveDevice}
    (named : deviceId ≠ "") (found : world.state.find deviceId = some device)
    (run : (refreshDeviceSample deviceId).Runs trace status)
    (path : (World.environment submits).Path world trace world') :
    ∃ signals now nowSteady middle,
      middle.state.find deviceId =
        some (recordSample world.state.config deviceId status signals now nowSteady device) ∧
      firstSubmission trace = some status ∧ steadyReading trace = some nowSteady ∧
      cadenceWarning trace =
        (if status.isOk then (noteCadence world.state.config deviceId nowSteady device.sample).2
          else none) ∧
      middle.state.config = world.state.config ∧
      (world' = middle ∨ ∃ check, CheckRun submits deviceId middle check world') := by
  rw [refreshDeviceSample, if_neg named] at run
  obtain ⟨_, state, _, rfl, looked, afterLook⟩ := runs_bind_iff.mp run
  obtain rfl := runs_ask_iff.mp looked
  obtain ⟨_, ⟨rfl, rfl⟩, lookPath⟩ := Environment.path_cons_iff.mp path
  simp only [found] at afterLook
  obtain ⟨_, reply, _, rfl, asked, afterReply⟩ := runs_bind_iff.mp afterLook
  obtain rfl := runs_ask_iff.mp asked
  obtain ⟨_, ⟨line, submitted, rfl⟩, askPath⟩ := Environment.path_cons_iff.mp lookPath
  obtain ⟨_, now, _, rfl, wall, afterWall⟩ := runs_bind_iff.mp afterReply
  obtain rfl := runs_ask_iff.mp wall
  obtain ⟨_, rfl, wallPath⟩ := Environment.path_cons_iff.mp askPath
  obtain ⟨_, nowSteady, _, rfl, steady, afterSteady⟩ := runs_bind_iff.mp afterWall
  obtain rfl := runs_ask_iff.mp steady
  obtain ⟨_, ⟨_, rfl⟩, steadyPath⟩ := Environment.path_cons_iff.mp wallPath
  obtain ⟨_, before, later, rfl, changed, afterRecord⟩ := runs_bind_iff.mp afterSteady
  obtain rfl := runs_ask_iff.mp changed
  obtain ⟨middle, ⟨rfl, next⟩, recordPath⟩ := Environment.path_cons_iff.mp steadyPath
  simp only [id_eq, found] at afterRecord
  obtain ⟨rfl, ended⟩ := checkRun_of_afterSample ⟨later, afterRecord, recordPath⟩
  refine ⟨reply.outputs.signals, now, nowSteady, middle, ?_, rfl, rfl, ?_, by rw [next]; rfl, ?_⟩
  · rw [next]
    dsimp only [id_eq]
    rw [RuntimeState.find_update_self (by simp), found, Option.map_some]
  · exact leadingWarning_afterSample afterRecord
  · rcases ended with ⟨_, rfl⟩ | ⟨_, check, checked⟩
    · exact .inl rfl
    · exact .inr ⟨check, checked⟩

end Refreshes

/-! ## Runs of refreshes -/

/-- A refresh of the device, with its outcome and its cadence warning, or another operation. -/
inductive Sampling where
  | refreshed (outcome : SampleOutcome) (warning : Option String)
  | other (operation : Operation)

def Sampling.outcome? : Sampling → Option SampleOutcome
  | refreshed outcome _ => some outcome
  | other _ => none

def Sampling.warning? : Sampling → Option (Option String)
  | refreshed _ warning => some warning
  | other _ => none

/-- The outcomes of the refreshes of a run. -/
def outcomesOf (labels : List Sampling) : List SampleOutcome := labels.filterMap Sampling.outcome?

/-- The warnings of the refreshes of a run. -/
def warningsOf (labels : List Sampling) : List (Option String) :=
  labels.filterMap Sampling.warning?

theorem length_warningsOf (labels : List Sampling) :
    (warningsOf labels).length = (outcomesOf labels).length := by
  induction labels with
  | nil => rfl
  | cons label labels ih =>
      cases label with
      | refreshed => exact congrArg (· + 1) ih
      | other => exact ih

/-- An operation which is no refresh of a device permits no sample of it. -/
theorem unsampled_of_permits {deviceId : String} {operation : Operation} {status : Status}
    (unsampled : ∀ status, operation ≠ .refresh deviceId status)
    (unread : ∀ signalIds result, operation ≠ .read deviceId signalIds result) :
    ¬ operation.Permits (.sampled deviceId status) := by
  intro permits
  by_cases reads : operation.IsRead = false
  · obtain ⟨status, rfl⟩ := Operation.refreshes_of_permits reads permits
    exact unsampled status rfl
  · cases operation with
    | read id signalIds result =>
        obtain ⟨_, same | same⟩ := permits
        · cases same
          exact unread signalIds result rfl
        · cases same
    | _ => exact reads rfl

section Runs

variable [EzoDriver] [DecimalText] [ProviderSdk]

/-- A refresh of a device as its trace shows it, or an operation which refreshes it not. -/
inductive SamplingStep (submits : Submits) (deviceId : String) (world : World) :
    Sampling → World → Prop where
  | refreshed {status : Status} {trace : CallerTrace} {world' : World}
      (run : (refreshDeviceSample deviceId).Runs trace status)
      (path : (World.environment submits).Path world trace world') :
      SamplingStep submits deviceId world
        (.refreshed (if status.isOk then steadyReading trace else none) (cadenceWarning trace))
        world'
  | other {operation : Operation} {world' : World}
      (step : ProviderStep submits world operation world')
      (unsampled : ∀ status, operation ≠ .refresh deviceId status)
      (unread : ∀ signalIds result, operation ≠ .read deviceId signalIds result) :
      SamplingStep submits deviceId world (.other operation) world'

/-- The refreshes of a device, from any world on. -/
def sampling (submits : Submits) (deviceId : String) : TransitionSystem World Sampling where
  Initial _ := True
  Step := SamplingStep submits deviceId

variable {submits : Submits} {deviceId : String} {start world world' : World}

/-- What one step leaves of the history. -/
theorem noted_of_step {label : Sampling} {outcomes : List SampleOutcome} {device : ActiveDevice}
    (named : deviceId ≠ "") (step : SamplingStep submits deviceId world label world')
    (found : world.state.find deviceId = some device)
    (noted : Noted (staleAfterMs world.state.config) outcomes device.sample) :
    ∃ device', world'.state.find deviceId = some device' ∧
      world'.state.config = world.state.config ∧
      Noted (staleAfterMs world.state.config) (outcomes ++ label.outcome?.toList) device'.sample ∧
      ∀ warning, label.warning? = some warning →
        (warning.isSome = true ↔
          (∀ position < outcomes.length, ¬ Sustained (staleAfterMs world.state.config)
            (outcomes ++ label.outcome?.toList) position) ∧
          Sustained (staleAfterMs world.state.config) (outcomes ++ label.outcome?.toList)
            outcomes.length) := by
  cases step with
  | @refreshed status trace _ run path =>
      obtain ⟨signals, now, nowSteady, middle, recorded, _, clock, warns, config, ended⟩ :=
        recorded_of_refresh named found run path
      obtain ⟨next, warned⟩ :=
        @Noted.refreshed _ world.state.config deviceId nowSteady _ device noted status signals now
      rw [← warns] at warned
      rw [clock]
      rcases ended with rfl | ⟨check, checked⟩
      · refine ⟨_, recorded, config, next, ?_⟩
        rintro _ ⟨⟩
        exact warned
      · have through : Through submits (fun round => ∃ status, round = .checked deviceId status)
            middle world' := checked.through fun status => ⟨status, rfl⟩
        obtain ⟨device', after, kept⟩ := @Through.sampleKept _ _ _ _ deviceId _ _ _ through
          (by rintro _ ⟨_, rfl⟩ _ ⟨⟩) recorded
        refine ⟨device', after, through.config.trans config, next.kept kept, ?_⟩
        rintro _ ⟨⟩
        exact warned
  | @other operation _ step unsampled unread =>
      have through := step.through
      obtain ⟨device', after, kept⟩ := @Through.sampleKept _ _ _ _ deviceId _ _ _ through
        (by
          rintro _ permits status rfl
          exact unsampled_of_permits unsampled unread permits) found
      refine ⟨device', after, through.config, ?_, ?_⟩
      · rw [Sampling.outcome?, Option.toList_none, List.append_nil]
        exact noted.kept kept
      · rintro _ ⟨⟩

/-- What a run leaves of the history, and at which refresh it warns. -/
theorem noted_of_steps {labels : List Sampling} {device : ActiveDevice} (named : deviceId ≠ "")
    (found : start.state.find deviceId = some device) (unfilled : device.sample.Unfilled)
    (run : (sampling submits deviceId).Steps start labels world) :
    ∃ device', world.state.find deviceId = some device' ∧
      world.state.config = start.state.config ∧
      Noted (staleAfterMs start.state.config) (outcomesOf labels) device'.sample ∧
      ∀ position warning, (warningsOf labels)[position]? = some warning →
        (warning.isSome = true ↔
          (∀ earlier < position,
            ¬ Sustained (staleAfterMs start.state.config) (outcomesOf labels) earlier) ∧
          Sustained (staleAfterMs start.state.config) (outcomesOf labels) position) := by
  induction run with
  | refl => exact ⟨device, found, rfl, noted_unfilled _ unfilled, by simp [warningsOf]⟩
  | @step labels middle label next prior transition ih =>
      obtain ⟨before, foundBefore, config, noted, warned⟩ := ih
      rw [← config] at noted warned ⊢
      obtain ⟨device', foundThen, config', noted', warns⟩ :=
        noted_of_step named transition foundBefore noted
      have outcomes : outcomesOf (labels ++ [label]) = outcomesOf labels ++ label.outcome?.toList := by
        cases label <;> simp [outcomesOf, Sampling.outcome?]
      rw [outcomes]
      refine ⟨device', foundThen, config', noted', fun position warning member => ?_⟩
      cases label with
      | other operation =>
          rw [Sampling.outcome?, Option.toList_none, List.append_nil]
          have warnings : warningsOf (labels ++ [.other operation]) = warningsOf labels := by
            rw [warningsOf, List.filterMap_append]
            exact List.append_nil _
          rw [warnings] at member
          exact warned position warning member
      | refreshed outcome last =>
          have warnings : warningsOf (labels ++ [.refreshed outcome last]) =
              warningsOf labels ++ [last] := by
            simp [warningsOf, Sampling.warning?]
          rw [warnings] at member
          rw [Sampling.outcome?, Option.toList_some] at warns ⊢
          have within := (List.getElem?_eq_some_iff.mp member).1
          rw [List.length_append, List.length_singleton] at within
          rcases Nat.lt_succ_iff_lt_or_eq.mp within with earlier | rfl
          · rw [List.getElem?_append_left earlier] at member
            rw [length_warningsOf] at earlier
            rw [warned position warning member, sustained_append earlier]
            refine and_congr_left fun _ => forall₂_congr fun index before => ?_
            rw [sustained_append (by omega)]
          · rw [List.getElem?_concat_length] at member
            rw [length_warningsOf]
            exact warns _ (by rw [Sampling.warning?, Option.some.inj member])

/-- From an unfilled cache on, whatever else happens in between: a refresh of a device warns of
its cadence exactly when it is the first at which four refreshes in a row have succeeded with
all three gaps over the bound. Until then the counter is the number of gaps over the bound in
a row, up to the latest refresh. -/
theorem cadence_warned_once {labels : List Sampling} {device : ActiveDevice} (named : deviceId ≠ "")
    (found : start.state.find deviceId = some device) (unfilled : device.sample.Unfilled)
    (run : (sampling submits deviceId).Steps start labels world) :
    let bound := staleAfterMs start.state.config
    let outcomes := outcomesOf labels
    (warningsOf labels).length = outcomes.length ∧
      (∀ position warning, (warningsOf labels)[position]? = some warning →
        (warning.isSome = true ↔
          (∀ earlier < position, ¬ Sustained bound outcomes earlier) ∧
          Sustained bound outcomes position)) ∧
      ∃ device', world.state.find deviceId = some device' ∧
        ((∀ position < outcomes.length, ¬ Sustained bound outcomes position) →
          ∀ count, count ≤ device'.sample.consecutiveLaggingGaps ↔
            count ≤ outcomes.length ∧
              ∀ back < count, overBound bound outcomes (outcomes.length - 1 - back) = true) := by
  intro bound outcomes
  obtain ⟨device', foundThen, _, noted, warned⟩ := noted_of_steps named found unfilled run
  refine ⟨length_warningsOf labels, warned, device', foundThen, fun none count => ?_⟩
  have unwarned : device'.sample.staleGapWarned = false := by
    rw [← Bool.not_eq_true, noted.warned]
    rintro ⟨position, below, sustained⟩
    exact none position below sustained
  rw [noted.lagging unwarned]
  exact le_streak_iff

end Runs

section Canned

open CannedBus CannedProvider

/-- The canned answers, with eight seconds between two readings of the steady clock. -/
def respondSlowly (setup : Setup) (world : World) : (op : CallerOp) → op.Result × World
  | .steadyNow => (world.clock + 8000000000, { world with clock := world.clock + 8000000000 })
  | op => respond setup world op

def slowResponder (setup : Setup) : Responder CallerOp CallerOp.Result World where
  respond := respondSlowly setup

theorem faithful_slow (setup : Setup) (world : World) (op : CallerOp) :
    (World.environment Line.Submitted).Answers world op
      ((slowResponder setup).respond world op).1 ((slowResponder setup).respond world op).2 := by
  cases op with
  | steadyNow => exact ⟨by simp [slowResponder, respondSlowly], rfl⟩
  | _ => exact faithful setup world _

/-- So many refreshes, eight seconds apart. -/
def slowRefreshes (setup : Setup) (deviceId : String) : Nat → World → List Sampling × World
  | 0, world => ([], world)
  | count + 1, world =>
      let play := (refreshDeviceSample deviceId).play (slowResponder setup) world
      let later := slowRefreshes setup deviceId count play.final
      (.refreshed (if play.value.isOk then steadyReading play.trace else none)
        (cadenceWarning play.trace) :: later.1, later.2)

theorem steps_slowRefreshes (setup : Setup) (deviceId : String) (count : Nat) (world : World) :
    (sampling Line.Submitted deviceId).Steps world (slowRefreshes setup deviceId count world).1
      (slowRefreshes setup deviceId count world).2 := by
  induction count generalizing world with
  | zero => exact .refl
  | succ count ih =>
      have run := play_runs (slowResponder setup) (refreshDeviceSample deviceId) world
      have path := play_path (faithful_slow setup) (refreshDeviceSample deviceId) world
      exact (Steps.single (SamplingStep.refreshed run path)).trans (ih _)

theorem cadence_warned_once_canned :
    let world : World :=
      { state :=
          { config := oneDevice .dox
            activeDevices := [activeDevice ⟨"probe", .dox, 97⟩ {}] }
        line := { running := true, bus := probes defaults defaults } }
    let labels := (slowRefreshes (products .dox fun _ => false) "probe" 4 world).1
    (warningsOf labels).map Option.isSome = [false, false, false, true] ∧
      Sustained (staleAfterMs (oneDevice .dox)) (outcomesOf labels) 3 := by
  intro world labels
  have warnings : (warningsOf labels).map Option.isSome = [false, false, false, true] := by
    decide +kernel
  refine ⟨warnings, ?_⟩
  have run := steps_slowRefreshes (products .dox fun _ => false) "probe" 4 world
  obtain ⟨_, warned, _⟩ := cadence_warned_once (by decide) (by rfl) (by rfl) run
  have fourth : ((warningsOf labels).map Option.isSome)[3]? = some true := by
    rw [warnings]
    rfl
  rw [List.getElem?_map, Option.map_eq_some_iff] at fourth
  obtain ⟨warning, last, isSome⟩ := fourth
  exact ((warned 3 warning last).mp isSome).2

end Canned

end EzoProvider.Runtime
