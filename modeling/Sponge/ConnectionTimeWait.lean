import Sponge.ConnectionBackoff
import Sponge.ConnectionCleanClose
import Sponge.ConnectionProgress

/-! TIME_WAIT: both streams have finished and the connection lingers until ten timeouts have passed since
the last segment. The time is counted in 64 bits, and a total that wraps starts the wait again. -/

namespace Sponge.ConnectionTimeWait

open TCPConnection TCPSender Tiling TCPSegment SenderQueue SenderTransmission SenderProgress
  ConnectionRun ConnectionReplies ConnectionProgress ConnectionBackoff ConnectionCleanClose Transition

structure Resting (c : TCPConnection) : Prop where
  running : Running c
  paced : Paced c
  consistent : ∃ filled, Consistent filled c
  noError : c.error = false
  finished : c.checkPrereqs = true
  linger : c.lingerAfterStreamsFinish = true

section Resting

variable {c : TCPConnection} (resting : Resting c)

include resting

theorem Resting.active : c.active = true :=
  (active_iff c).mpr ⟨resting.noError, .inr resting.linger⟩

theorem Resting.timerOff : c.sender.isTimerOn = false := by
  -- nothing is in flight, so nothing is outstanding and the timer is off
  obtain ⟨filled, settled, live, _⟩ := resting.running
  have acked := ((checkPrereqs_iff c).mp resting.finished).2.2.1
  have currentLe := settled.coherent.currentLe
  rw [← Bool.not_eq_true]
  intro on
  cases queue : c.sender.outstandingSegments with
  | nil => exact live.idle on queue
  | cons front rest =>
      have unacked := (live.acked.front front rest queue).2
      unfold bytesInFlight at acked
      omega

theorem Resting.tick (ms : UInt64) :
    operate c (.tick ms) = { c with
      timeSinceLastSegmentReceived := c.timeSinceLastSegmentReceived + ms
      lingerAfterStreamsFinish :=
        decide ((c.timeSinceLastSegmentReceived + ms).toNat < 10 * c.cfg.rtTimeout.toNat) } := by
  obtain ⟨filled, settled, _, _⟩ := resting.running
  have idle : c.sender.tick ms = c.sender := by simp [TCPSender.tick, resting.timerOff]
  have few : ¬ c.sender.consecutiveRetransmissionCount > maxRetxAttempts := by
    rw [exceeds_iff resting.paced.limit]
    have patient := resting.paced.patient resting.noError
    omega
  have finished : { c with
      timeSinceLastSegmentReceived := c.timeSinceLastSegmentReceived + ms }.checkPrereqs = true :=
    resting.finished
  simp only [operate, TCPConnection.tick, resting.active, idle, few, finished, Bool.not_true,
    Bool.false_eq_true, if_false, Bool.true_and, decide_eq_true_eq, ge_iff_le]
  by_cases late : 10 * c.cfg.rtTimeout.toNat ≤ (c.timeSinceLastSegmentReceived + ms).toNat
  · rw [if_pos late, decide_eq_false (Nat.not_lt_of_le late)]
    exact send_idle _ settled.queue
  · rw [if_neg late, decide_eq_true (Nat.lt_of_not_le late), ← resting.linger]
    exact send_idle _ settled.queue

theorem Resting.tick_resting (ms : UInt64)
    (early : (c.timeSinceLastSegmentReceived + ms).toNat < 10 * c.cfg.rtTimeout.toNat) :
    Resting (operate c (.tick ms)) := by
  obtain ⟨filled, consistent⟩ := resting.consistent
  have acked := ((checkPrereqs_iff c).mp resting.finished).2.2.1
  have bound : BoundedFlight c (.tick ms) := by
    rw [BoundedFlight, acked]
    decide
  refine ⟨operate_running c _ resting.running bound, resting.paced.operate _,
    ⟨_, operate_consistent consistent _⟩, ?_, ?_, ?_⟩
  · rw [resting.tick]
    exact resting.noError
  · rw [resting.tick]
    exact resting.finished
  · rw [resting.tick]
    exact decide_eq_true early

end Resting

def totals (elapsed : Nat) : List UInt64 → List Nat
  | [] => []
  | ms :: rest => (elapsed + ms.toNat) :: totals (elapsed + ms.toNat) rest

theorem totals_le {elapsed total : Nat} (ticks : List UInt64) (member : total ∈ totals elapsed ticks) :
    total ≤ elapsed + (ticks.map UInt64.toNat).sum := by
  induction ticks generalizing elapsed with
  | nil => cases member
  | cons ms rest ih =>
      rw [List.map_cons, List.sum_cons]
      rcases List.mem_cons.mp member with rfl | later
      · omega
      · have bound := ih later
        omega

theorem inactive_ticks {c : TCPConnection} (inactive : c.active = false) (ticks : List UInt64) :
    (ticks.map Operation.tick).foldl operate c = c := by
  induction ticks with
  | nil => rfl
  | cons ms rest ih =>
      have ignored : operate c (.tick ms) = c := by simp [operate, TCPConnection.tick, inactive]
      rw [List.map_cons, List.foldl_cons, ignored, ih]

theorem resting_ticks (ticks : List UInt64) {c : TCPConnection} (resting : Resting c) (elapsed : Nat)
    (clock : c.timeSinceLastSegmentReceived.toNat = elapsed % 2 ^ 64) :
    let d := (ticks.map Operation.tick).foldl operate c
    d.segmentsOut = c.segmentsOut ∧ (d.active = true → Resting d) ∧
      (d.active = true ↔
        ∀ total ∈ totals elapsed ticks, total % 2 ^ 64 < 10 * c.cfg.rtTimeout.toNat) := by
  induction ticks generalizing c elapsed with
  | nil => exact ⟨rfl, fun _ => resting, fun _ _ member => (List.not_mem_nil member).elim,
      fun _ => resting.active⟩
  | cons ms rest ih =>
      have sum : (c.timeSinceLastSegmentReceived + ms).toNat = (elapsed + ms.toNat) % 2 ^ 64 := by
        rw [UInt64.toNat_add, clock]
        omega
      simp only [List.map_cons, List.foldl_cons, totals, List.forall_mem_cons]
      by_cases early : (elapsed + ms.toNat) % 2 ^ 64 < 10 * c.cfg.rtTimeout.toNat
      · have ticked := resting.tick ms
        obtain ⟨silent, rests, active⟩ := ih (resting.tick_resting ms (by rw [sum]; exact early))
          (elapsed + ms.toNat) (by rw [ticked]; exact sum)
        rw [ticked] at silent rests active ⊢
        exact ⟨silent, rests, active.trans (and_iff_right early).symm⟩
      · have late : (operate c (.tick ms)).active = false := by
          rw [resting.tick, ← Bool.not_eq_true, active_iff]
          rintro ⟨_, unfinished | lingering⟩
          · exact Bool.false_ne_true (unfinished.symm.trans resting.finished)
          · rw [sum] at lingering
            exact early (of_decide_eq_true lingering)
        rw [inactive_ticks late]
        refine ⟨by rw [resting.tick], fun active => ?_, ?_⟩
        · rw [late] at active
          cases active
        · rw [late]
          exact ⟨fun active => (Bool.false_ne_true active).elim, fun all => (early all.1).elim⟩

theorem apply_eof {filled : List TCPSegment} {s : TCPSender} (coherent : Coherent filled s)
    (eof : s.stream.eof = true) (call : Call) (quiet : feeds call = false) :
    (apply s call).stream.eof = true := by
  have sends := apply_sends coherent call quiet
  simp only [ByteStream.eof, ByteStream.bufferEmpty, Bool.and_eq_true, List.isEmpty_iff] at eof ⊢
  rw [sends.inputEnded]
  refine ⟨?_, eof.2⟩
  have empty := sends.buffer
  rw [eof.1] at empty
  exact (List.append_eq_nil_iff.mp empty.symm).2

theorem react_eof {filled : List TCPSegment} {c : TCPConnection} (settled : Settled filled c)
    (eof : c.sender.stream.eof = true) (segment : TCPSegment) :
    ({ c with timeSinceLastSegmentReceived := 0 }.react segment).sender.stream.eof = true := by
  have quiet : feeds (answer segment) = false := by
    unfold answer
    split <;> rfl
  have answered := apply_eof settled.coherent eof (answer segment) quiet
  rw [(ready_react settled segment).sender]
  split <;> exact answered

structure Restarts (c : TCPConnection) (segment : TCPSegment) : Prop where
  clock : (operate c (.segmentReceived segment)).timeSinceLastSegmentReceived = 0
  active : (operate c (.segmentReceived segment)).active = true
  linger : (operate c (.segmentReceived segment)).lingerAfterStreamsFinish = true
  acknowledged : segment.lengthInSequenceSpace ≠ 0 →
    appended c (.segmentReceived segment) ≠ [] ∧
      ∀ reply ∈ appended c (.segmentReceived segment), reply.header.ack = true ∧
        (operate c (.segmentReceived segment)).receiver.ackno = some reply.header.ackno

theorem Resting.restarts {c : TCPConnection} (resting : Resting c) (segment : TCPSegment)
    (noReset : segment.header.rst = false) : Restarts c segment := by
  obtain ⟨filled, consistent⟩ := resting.consistent
  have settled := consistent.settled
  obtain ⟨fin, outbound, _, inbound⟩ := (checkPrereqs_iff c).mp resting.finished
  have running : { c with timeSinceLastSegmentReceived := 0 }.active = true := resting.active
  have noError : (operate c (.segmentReceived segment)).error = false := by
    rw [← Bool.not_eq_true, operate_error]
    simp [resting.noError, isReset, noReset]
  have linger : (operate c (.segmentReceived segment)).lingerAfterStreamsFinish = true := by
    simp only [operate, TCPConnection.segmentReceived, noReset, running, Bool.false_eq_true, if_false,
      Bool.not_true]
    split
    · rw [send_linger]
      exact resting.linger
    · rw [send_linger, react_linger, react_eof settled outbound segment, fin]
      simpa using resting.linger
  refine ⟨?_, (active_iff _).mpr ⟨noError, .inr linger⟩, linger, ?_⟩
  · simp only [operate, TCPConnection.segmentReceived, noReset, running, Bool.false_eq_true, if_false,
      Bool.not_true]
    split
    · rw [send_time]
    · rw [send_time, react_time]
  · intro occupies
    refine ⟨data_answered settled resting.active noReset occupies, ?_⟩
    intro reply member
    have stamped := appended_stamped settled _ reply member
    have ended : c.receiver.streamOut.inputEnded = true := by
      simp only [ByteStream.eof, Bool.and_eq_true] at inbound
      exact inbound.2
    have heardSyn : (operate c (.segmentReceived segment)).receiver.isSyn = true :=
      (operate_outcome settled _).heard.rule (P := fun r => r.isSyn = true)
        (consistent.heardSyn ended)
        (fun other _ => TCPReceiver.segmentReceived_isSyn _ other (consistent.heardSyn ended))
        (fun _ _ => consistent.heardSyn ended) (fun _ heard => heard)
    have number := TCPReceiver.ackno_some _ heardSyn
    refine ⟨by rw [stamped.ack, number]; rfl, ?_⟩
    rw [stamped.ackno _ number]
    exact number

/-- The wait that ends after exactly ten timeouts: with `ticks` since, the connection is still active if
and only if the total time is shorter, nothing has been sent, and a segment starts the wait again. -/
def WaitsExactly (c : TCPConnection) (ticks : List UInt64) : Prop :=
  let d := (ticks.map Operation.tick).foldl operate c
  (d.active = true ↔ c.timeSinceLastSegmentReceived.toNat + (ticks.map UInt64.toNat).sum <
      10 * c.cfg.rtTimeout.toNat) ∧
    d.segmentsOut = c.segmentsOut ∧
    (d.active = true → ∀ segment, segment.header.rst = false → Restarts d segment)

/-- The total is below ten timeouts, or some total on the way reaches them even modulo `2 ^ 64`. -/
def NoLostTotal (c : TCPConnection) (ticks : List UInt64) : Prop :=
  c.timeSinceLastSegmentReceived.toNat + (ticks.map UInt64.toNat).sum < 10 * c.cfg.rtTimeout.toNat ∨
    ∃ total ∈ totals c.timeSinceLastSegmentReceived.toNat ticks,
      10 * c.cfg.rtTimeout.toNat ≤ total % 2 ^ 64

/-- A connection that has finished without an error and lingers, with never `2 ^ 30` sequence numbers in
flight before, waits exactly ten timeouts unless the 64-bit count of the waiting time wraps past them. -/
theorem time_wait_exact_iff {cfg : TCPConfig} {randomIsn : WrappingInt32} {c : TCPConnection}
    (reached : Reachable operate BoundedFlight (TCPConnection.new cfg randomIsn) c)
    (noError : c.error = false) (finished : c.checkPrereqs = true)
    (linger : c.lingerAfterStreamsFinish = true) (ticks : List UInt64) :
    WaitsExactly c ticks ↔ NoLostTotal c ticks := by
  have resting : Resting c :=
    ⟨reachable_invariant (new_running cfg randomIsn) operate_running reached,
      reachable_invariant (new_paced cfg randomIsn) (fun _ operation paced _ => paced.operate operation)
        reached, reachable_consistent reached, noError, finished, linger⟩
  obtain ⟨silent, rests, active⟩ := resting_ticks ticks resting _
    (Nat.mod_eq_of_lt c.timeSinceLastSegmentReceived.toNat_lt).symm
  have limit : 10 * c.cfg.rtTimeout.toNat < 2 ^ 64 := by
    have small := c.cfg.rtTimeout.toNat_lt
    omega
  simp only [WaitsExactly, NoLostTotal, silent, active, true_and]
  rw [and_iff_left fun still segment noReset => (rests (active.mpr still)).restarts segment noReset]
  by_cases short : c.timeSinceLastSegmentReceived.toNat + (ticks.map UInt64.toNat).sum <
      10 * c.cfg.rtTimeout.toNat
  · have all : ∀ total ∈ totals c.timeSinceLastSegmentReceived.toNat ticks,
        total % 2 ^ 64 < 10 * c.cfg.rtTimeout.toNat := by
      intro total member
      have bound := totals_le ticks member
      exact lt_of_le_of_lt (Nat.mod_le _ _) (by omega)
    simp only [short, iff_true, true_or]
    exact all
  · simp only [short, iff_false, false_or, not_forall, Nat.not_lt, exists_prop]

def activeClose : List Operation :=
  [.connect,
    .segmentReceived { header := { syn := true, ack := true, seqno := ⟨100⟩, ackno := ⟨1⟩, win := 4 } },
    .endInputStream,
    .segmentReceived { header := { ack := true, seqno := ⟨101⟩, ackno := ⟨2⟩, win := 4 } },
    .segmentReceived { header := { ack := true, fin := true, seqno := ⟨101⟩, ackno := ⟨2⟩, win := 4 } }]

def waiting : TCPConnection := activeClose.foldl operate listener

theorem waiting_ends : WaitsExactly waiting [4000, 6000] :=
  (time_wait_exact_iff (reachable_run activeClose (by decide +kernel)) (by decide +kernel)
    (by decide +kernel) (by decide +kernel) [4000, 6000]).mpr
    (.inr ⟨10000, by decide +kernel, by decide +kernel⟩)

/-- One millisecond and then the longest tick bring the count back to zero. -/
theorem waiting_forgets :
    (AllowedRun operate BoundedFlight listener activeClose ∧
      waiting.error = false ∧ waiting.checkPrereqs = true ∧ waiting.lingerAfterStreamsFinish = true) ∧
      ¬ WaitsExactly waiting [1, 0xFFFFFFFFFFFFFFFF] := by
  refine ⟨by decide +kernel, ?_⟩
  rintro ⟨active, _⟩
  have short := active.mp (by decide +kernel)
  revert short
  decide +kernel

end Sponge.ConnectionTimeWait
