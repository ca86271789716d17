import EzoProvider.Devices.SampleHelpers
import EzoProvider.Interaction.Simulation

/-!
# The reads of a command's response

`read_command_response` against any stream of results. The loop reads on only
after 254, so what it does is fixed by the position of the first other result.
-/

namespace EzoProvider.Devices

open Interaction Program

/-- What one read of a response gives. -/
abbrev ResponseRead := Except EzoError EzoDeviceStatus

/-- A device whose reads give a stream of results; the state counts the reads. -/
def streamed (reads : Nat → ResponseRead) : Responder JobOp JobOp.Result Nat where
  respond count
    | .readResponse _ => (reads count, count + 1)
    | .delay _ | .store _ => ((), count)
    | .bind _ | .send .. | .readInfo _ | .readOutputConfig _ | .readValue _ | .readOutputs ..
    | .readCalibrationStatus _ | .readTemperature _ | .readSalinity _ | .readPressure _ =>
        (.error .transport, count)

/-- So many reads which find the command still processing, each with the wait after it. -/
def rereads (device : Address) (count : Nat) : JobTrace :=
  (List.replicate count
    [⟨.readResponse device, .ok .notReady⟩, ⟨.delay (kPendingRereadMs * 1000), ()⟩]).flatten

theorem rereads_succ (device : Address) (count : Nat) :
    rereads device (count + 1) =
      ⟨.readResponse device, .ok .notReady⟩ :: ⟨.delay (kPendingRereadMs * 1000), ()⟩ ::
        rereads device count :=
  rfl

/-- Every wait of the loop comes after a 254 and is followed by a read. -/
theorem rereads_reads (device : Address) (count : Nat) :
    (rereads device count).countP (·.1 = .readResponse device) = count ∧
      (rereads device count).countP (·.1 = .delay (kPendingRereadMs * 1000)) = count ∧
      (rereads device count).length = 2 * count := by
  induction count with
  | zero => exact ⟨rfl, rfl, rfl⟩
  | succ count ih =>
      obtain ⟨reads, waits, length⟩ := ih
      rw [rereads_succ]
      refine ⟨?_, ?_, ?_⟩
      · simp [reads]
      · simp [waits]
      · rw [List.length_cons, List.length_cons]
        omega

variable [EzoDriver]

/-- The status of the result which ends the read. -/
def responseStatus : ResponseRead → Status
  | .error result => statusFromEzoResult result "read command response"
  | .ok .success => .success
  | .ok .fail =>
      makeStatus .internal "device rejected the command (response code 2, syntax error)"
  | .ok .notReady =>
      makeStatus .unavailable "device still processing the command (response code 254)"
  | .ok .noData =>
      makeStatus .unavailable "device returned no data for the command (response code 255)"
  | .ok .unknown => makeStatus .internal "device returned an unknown response code"

theorem isOk_responseStatus_iff (read : ResponseRead) :
    (responseStatus read).isOk = true ↔ read = .ok .success := by
  rcases read with result | status
  · simp [responseStatus, isOk_statusFromEzoResult]
  · cases status <;> simp [responseStatus]

section Loop

variable {device : Address} {reads : Nat → ResponseRead} {count : Nat}

/-- A pass which ends the loop. -/
theorem play_readResponseCode_of_ended {pending : Job} (ended : reads count ≠ .ok .notReady) :
    (readResponseCode device pending).play (streamed reads) count =
      ⟨[⟨.readResponse device, reads count⟩], responseStatus (reads count), count + 1⟩ := by
  rcases result : reads count with error | status
  · simp [readResponseCode, JobOp.issue, ask, play, streamed, result, responseStatus]
  · cases status with
    | notReady => exact absurd result ended
    | _ => simp [readResponseCode, JobOp.issue, ask, play, streamed, result, responseStatus]

/-- A pass which goes on. -/
theorem play_readResponseCode_of_pending {pending : Job} (found : reads count = .ok .notReady) :
    (readResponseCode device pending).play (streamed reads) count =
      let later := pending.play (streamed reads) (count + 1)
      ⟨⟨.readResponse device, .ok .notReady⟩ :: later.trace, later.value, later.final⟩ := by
  simp [readResponseCode, JobOp.issue, ask, play, streamed, found]

/-- The loop reads up to the first result other than 254, or until it has no re-reads left. -/
theorem play_readCommandResponseLoop (left count : Nat) :
    ∃ pending ≤ left, (∀ earlier < pending, reads (count + earlier) = .ok .notReady) ∧
      (reads (count + pending) = .ok .notReady → pending = left) ∧
      (readCommandResponseLoop device left).play (streamed reads) count =
        ⟨rereads device pending ++ [⟨.readResponse device, reads (count + pending)⟩],
          responseStatus (reads (count + pending)), count + pending + 1⟩ := by
  induction left generalizing count with
  | zero =>
      refine ⟨0, le_rfl, by simp, fun _ => rfl, ?_⟩
      by_cases found : reads count = .ok .notReady
      · rw [readCommandResponseLoop, play_readResponseCode_of_pending found]
        simp [play, rereads, responseStatus, found]
      · exact play_readResponseCode_of_ended found
  | succ left ih =>
      by_cases found : reads count = .ok .notReady
      · obtain ⟨pending, within, earlier, last, played⟩ := ih (count + 1)
        have shifted : count + 1 + pending = count + (pending + 1) := by omega
        refine ⟨pending + 1, Nat.succ_le_succ within, ?_, ?_, ?_⟩
        · intro index below
          cases index with
          | zero => exact found
          | succ index =>
              rw [show count + (index + 1) = count + 1 + index by omega]
              exact earlier index (by omega)
        · intro still
          rw [last (by rwa [shifted])]
        · rw [readCommandResponseLoop, play_readResponseCode_of_pending found, ← shifted,
            rereads_succ]
          -- The wait of the pass, and then the rest of the loop.
          have waited : (waitForTimingHint kPendingRereadMs >>= fun _ =>
              readCommandResponseLoop device left).play (streamed reads) (count + 1) =
              let later := (readCommandResponseLoop device left).play (streamed reads) (count + 1)
              ⟨⟨.delay (kPendingRereadMs * 1000), ()⟩ :: later.trace, later.value,
                later.final⟩ := rfl
          rw [waited, played]
          rfl
      · refine ⟨0, Nat.zero_le _, by simp, fun still => absurd still found, ?_⟩
        exact play_readResponseCode_of_ended found

end Loop

/-- Whatever the reads give, `read_command_response` returns after at most five of them and
four waits of 250 ms. It waits after a 254 and before another read only, stops at the first
other result, and has the status of the result it stops at: ok for SUCCESS alone, Unavailable
if all five are 254. -/
theorem command_response_read (device : Address) (reads : Nat → ResponseRead) :
    let play := (readCommandResponse device).play (streamed reads) 0
    ∃ pending ≤ 4, (∀ earlier < pending, reads earlier = .ok .notReady) ∧
      (reads pending = .ok .notReady → pending = 4) ∧
      play.trace = rereads device pending ++ [⟨.readResponse device, reads pending⟩] ∧
      play.trace.countP (·.1 = .readResponse device) = pending + 1 ∧
      play.trace.countP (·.1 = .delay 250000) = pending ∧
      play.trace.length = 2 * pending + 1 ∧
      play.value = responseStatus (reads pending) ∧
      (play.value.isOk = true ↔ reads pending = .ok .success) ∧
      ((∀ read < 5, reads read = .ok .notReady) → play.value.code = .unavailable) := by
  obtain ⟨pending, within, earlier, last, played⟩ :=
    @play_readCommandResponseLoop _ device reads kPendingRereads 0
  rw [Nat.zero_add] at last played
  obtain ⟨readCount, waitCount, length⟩ := rereads_reads device pending
  dsimp only
  rw [readCommandResponse, played]
  refine ⟨pending, within, ?_, last, rfl, ?_, ?_, ?_, rfl, isOk_responseStatus_iff _, ?_⟩
  · intro index below
    have still := earlier index below
    rwa [Nat.zero_add] at still
  · rw [List.countP_append, readCount]
    simp
  · have waits : (rereads device pending).countP (·.1 = .delay 250000) = pending := waitCount
    rw [List.countP_append, waits]
    simp
  · rw [List.length_append, length]
    rfl
  · intro still
    rw [show pending = 4 from last (still pending (Nat.lt_succ_of_le within)), still 4 (by omega)]
    rfl

end EzoProvider.Devices
