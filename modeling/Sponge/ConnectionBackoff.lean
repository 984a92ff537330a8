import Sponge.ConnectionReplies
import Sponge.SenderTimer

/-! Exponential backoff of a connection: the timeout is exact because the connection gives up before
the 32-bit shift could overflow. Only the elapsed time of the timer can wrap. -/

namespace Sponge.ConnectionBackoff

open TCPConnection TCPSender Tiling TCPSegment SenderQueue SenderTransmission SenderTimer ConnectionRun
  ConnectionReplies Transition

theorem calls_tick {c : TCPConnection} {operation : Operation} {calls : List Call}
    (shape : Calls c operation calls) :
    (∃ ms, operation = .tick ms ∧ calls = [.tick ms] ∧ c.active = true) ∨
      ∀ call ∈ calls, ∀ ms, call ≠ .tick ms := by
  have answered : ∀ segment ms, answer segment ≠ .tick ms := by
    intro segment ms
    unfold answer
    split <;> simp
  cases shape with
  | tick ms running => exact .inl ⟨ms, rfl, rfl, running⟩
  | answered segment =>
      right
      simpa using answered segment
  | acknowledged segment =>
      right
      simpa using answered segment
  | _ => right; simp

theorem operate_error (c : TCPConnection) (operation : Operation) :
    (operate c operation).error = true ↔
      c.error = true ∨ isReset operation = true ∨
        ∃ ms, operation = .tick ms ∧ c.active = true ∧
          (c.sender.tick ms).consecutiveRetransmissionCount > maxRetxAttempts := by
  cases operation with
  | connect => simp [operate, connect, isReset]
  | write data =>
      simp only [operate, TCPConnection.write, isReset]
      split <;> simp
  | endInputStream =>
      simp only [operate, endInputStream, isReset]
      split <;> simp
  | readInbound len => simp [operate, readInbound, isReset]
  | tick ms =>
      simp only [operate, TCPConnection.tick, isReset]
      cases running : c.active with
      | false => simp
      | true =>
          have noError : c.error = false := ((active_iff c).mp running).1
          simp only [Bool.not_true, Bool.false_eq_true, if_false, send_error, noError]
          split_ifs <;> simp_all [report]
  | segmentReceived segment =>
      simp only [operate, TCPConnection.segmentReceived, isReset]
      cases rst : segment.header.rst with
      | true => simp [report, active]
      | false =>
          simp only [Bool.false_eq_true, if_false]
          split_ifs <;> simp

structure Paced (c : TCPConnection) : Prop where
  settled : ∃ filled, Settled filled c
  backoff : Backoff c.cfg.rtTimeout c.sender
  idle : Idle c.sender
  limit : c.sender.consecutiveRetransmissions.toNat ≤ 9
  patient : c.error = false → c.sender.consecutiveRetransmissions.toNat ≤ 8

theorem new_paced (cfg : TCPConfig) (randomIsn : WrappingInt32) :
    Paced (TCPConnection.new cfg randomIsn) where
  settled := ⟨[], new_settled cfg randomIsn⟩
  backoff := new_backoff cfg.sendCapacity cfg.rtTimeout cfg.fixedIsn randomIsn
  idle := fun on => (Bool.false_ne_true on).elim
  limit := Nat.zero_le _
  patient := fun _ => Nat.zero_le _

theorem count_toNat {s : TCPSender} (limit : s.consecutiveRetransmissions.toNat ≤ 9) :
    s.consecutiveRetransmissionCount.toNat = s.consecutiveRetransmissions.toNat := by
  rw [consecutiveRetransmissionCount, UInt64.toNat_toUInt32]
  exact Nat.mod_eq_of_lt (by omega)

theorem exceeds_iff {s : TCPSender} (limit : s.consecutiveRetransmissions.toNat ≤ 9) :
    s.consecutiveRetransmissionCount > maxRetxAttempts ↔ s.consecutiveRetransmissions.toNat = 9 := by
  have eight : maxRetxAttempts.toNat = 8 := rfl
  rw [gt_iff_lt, UInt32.lt_iff_toNat_lt, count_toNat limit, eight]
  omega

section Paced

variable {c : TCPConnection} (paced : Paced c)

include paced

theorem Paced.sender_eq (operation : Operation) :
    (operate c operation).sender = relabel (called c operation) [] (operate c operation).error := by
  obtain ⟨_, settled⟩ := paced.settled
  exact (operate_outcome settled operation).sender

theorem Paced.tick (running : c.active = true) (ms : UInt64) :
    Backoff c.cfg.rtTimeout (c.sender.tick ms) ∧
      (c.sender.tick ms).consecutiveRetransmissions.toNat = c.sender.consecutiveRetransmissions.toNat +
        (if fires c.sender ms = true ∧ c.sender.receiverWindowSize > 0 then 1 else 0) ∧
      (c.sender.tick ms).consecutiveRetransmissions.toNat ≤ 9 := by
  have few := paced.patient ((active_iff c).mp running).1
  obtain ⟨backoff, count⟩ := tick_backoff paced.backoff few ms
  refine ⟨backoff, count, ?_⟩
  rw [count]
  split <;> omega

theorem Paced.operate_count (operation : Operation) :
    (operate c operation).sender.consecutiveRetransmissions =
      (called c operation).consecutiveRetransmissions := by
  rw [paced.sender_eq operation]
  rfl

theorem Paced.operate (operation : Operation) : Paced (operate c operation) := by
  obtain ⟨filled, settled⟩ := paced.settled
  have outcome := operate_outcome settled operation
  have kept : Idle (called c operation) := run_idle settled.coherent paced.idle _
  have count := paced.operate_count operation
  have result : ∀ rtTimeout, Backoff rtTimeout (called c operation) →
      Backoff rtTimeout (ConnectionRun.operate c operation).sender := by
    intro rtTimeout backoff
    rw [outcome.sender]
    exact ⟨backoff.initial, backoff.timeout⟩
  have idle : Idle (ConnectionRun.operate c operation).sender := by
    rw [outcome.sender]
    exact kept
  rcases calls_tick (senderCalls_calls c operation) with ⟨ms, rfl, calls, running⟩ | noTick
  · have ticked : called c (.tick ms) = c.sender.tick ms := by rw [called, calls]; rfl
    obtain ⟨backoff, _, limit⟩ := paced.tick running ms
    rw [ticked] at count result
    refine ⟨⟨_, operate_settled settled _⟩, ?_, idle, by rw [count]; exact limit, ?_⟩
    · rw [outcome.cfg]
      exact result _ backoff
    · intro noError
      rw [count]
      by_contra many
      have gaveUp := (exceeds_iff limit).mpr (by omega)
      rw [(operate_error c _).mpr (.inr (.inr ⟨ms, rfl, running, gaveUp⟩))] at noError
      cases noError
  · obtain ⟨backoff, lower⟩ := run_backoff settled.coherent paced.backoff _ noTick
    refine ⟨⟨_, operate_settled settled _⟩, ?_, idle, by rw [count]; exact lower.trans paced.limit, ?_⟩
    · rw [outcome.cfg]
      exact result _ backoff
    · intro noError
      rw [count]
      refine lower.trans (paced.patient ?_)
      rw [← Bool.not_eq_true]
      intro failed
      rw [outcome.error failed] at noError
      cases noError

theorem Paced.grows (operation : Operation)
    (more : c.sender.consecutiveRetransmissions.toNat <
      (ConnectionRun.operate c operation).sender.consecutiveRetransmissions.toNat) :
    ∃ ms, operation = .tick ms ∧ c.active = true ∧ fires c.sender ms = true ∧
      c.sender.receiverWindowSize > 0 ∧
      (ConnectionRun.operate c operation).sender.consecutiveRetransmissions.toNat =
        c.sender.consecutiveRetransmissions.toNat + 1 := by
  obtain ⟨filled, settled⟩ := paced.settled
  rw [paced.operate_count] at more ⊢
  rcases calls_tick (senderCalls_calls c operation) with ⟨ms, rfl, calls, running⟩ | noTick
  · have ticked : called c (.tick ms) = c.sender.tick ms := by rw [called, calls]; rfl
    obtain ⟨_, count, _⟩ := paced.tick running ms
    rw [ticked, count] at more
    by_cases fired : fires c.sender ms = true ∧ c.sender.receiverWindowSize > 0
    · rw [if_pos fired] at count
      rw [ticked, count]
      exact ⟨ms, rfl, running, fired.1, fired.2, rfl⟩
    · rw [if_neg fired] at more
      exact (Nat.lt_irrefl _ more).elim
  · have lower := (run_backoff settled.coherent paced.backoff _ noTick).2
    exact (Nat.not_lt_of_le lower more).elim

theorem Paced.error_iff (noError : c.error = false) (operation : Operation) :
    (ConnectionRun.operate c operation).error = true ↔
      isReset operation = true ∨ ∃ ms, operation = .tick ms ∧
        (ConnectionRun.operate c operation).sender.consecutiveRetransmissions.toNat = 9 := by
  rw [operate_error, noError]
  simp only [Bool.false_eq_true, false_or]
  refine or_congr_right (exists_congr fun ms => and_congr_right ?_)
  rintro rfl
  rw [paced.operate_count]
  by_cases running : c.active = true
  · have ticked : called c (.tick ms) = c.sender.tick ms := by
      simp [called, senderCalls, running, apply]
    rw [ticked, exceeds_iff (paced.tick running ms).2.2]
    simp [running]
  · have ignored : called c (.tick ms) = c.sender := by
      simp [called, senderCalls, running]
    have few := paced.patient noError
    rw [ignored]
    simp only [running, false_and, Bool.false_eq_true, false_iff]
    omega

theorem Paced.last (noError : c.error = false) (ms : UInt64)
    (ninth : (ConnectionRun.operate c (.tick ms)).sender.consecutiveRetransmissions.toNat = 9) :
    ∃ segment, appended c (.tick ms) = [segment] ∧ segment.header.rst = true := by
  obtain ⟨filled, settled⟩ := paced.settled
  have few := paced.patient noError
  obtain ⟨_, same, running, fired, _⟩ := paced.grows (.tick ms) (by omega)
  cases same
  have failed := (paced.error_iff noError (.tick ms)).mpr (.inr ⟨ms, rfl, ninth⟩)
  have ticked : called c (.tick ms) = c.sender.tick ms := by
    simp [called, senderCalls, running, apply]
  have on : c.sender.isTimerOn = true := by
    simp only [fires, Bool.and_eq_true] at fired
    exact fired.1
  rw [appended_eq settled, ticked, tick_fires fired, settled.queue]
  cases queue : c.sender.outstandingSegments with
  | nil => exact (paced.idle on queue).elim
  | cons front rest =>
      refine ⟨_, rfl, ?_⟩
      rw [← failed]
      unfold stamp
      cases (ConnectionRun.operate c (.tick ms)).receiver.ackno <;> rfl

end Paced

structure Timed where
  connection : TCPConnection
  clock : Nat
  deriving DecidableEq, Repr

def start (cfg : TCPConfig) (randomIsn : WrappingInt32) : Timed :=
  ⟨TCPConnection.new cfg randomIsn, 0⟩

def step (t : Timed) (operation : Operation) : Timed :=
  ⟨operate t.connection operation,
    clockRun t.connection.sender t.clock (senderCalls t.connection operation)⟩

/-- No tick that reaches the sender wraps the elapsed time of its timer. -/
def NoWrap (t : Timed) : Operation → Prop
  | .tick ms => t.connection.active = true → ¬ Wraps t.connection.sender ms
  | _ => True

theorem step_clocked {t : Timed} (paced : Paced t.connection)
    (clocked : Clocked t.connection.sender t.clock) (operation : Operation)
    (noWrap : NoWrap t operation) :
    Clocked (step t operation).connection.sender (step t operation).clock := by
  obtain ⟨filled, settled⟩ := paced.settled
  have fits : AllowedRun apply TickFits t.connection.sender (senderCalls t.connection operation) := by
    rcases calls_tick (senderCalls_calls t.connection operation) with ⟨ms, rfl, calls, running⟩ | noTick
    · rw [calls]
      refine ⟨?_, trivial⟩
      rintro _ same
      cases same
      exact noWrap running
    · apply allowedRun_of_forall
      intro call member _ ms same
      exact (noTick call member ms same).elim
  simp only [step]
  rw [(operate_outcome settled operation).sender]
  exact clockRun_clocked settled.coherent paced.idle clocked _ fits

def retransmissions (c : TCPConnection) : Nat := c.sender.consecutiveRetransmissionCount.toNat

/-- The part of the timer that no run disturbs: the timeout, the growth of the count, and when and how
the connection gives up. -/
structure GivesUpInTime (c : TCPConnection) : Prop where
  timeout : c.sender.retransmissionTimeout.toNat = c.cfg.rtTimeout.toNat * 2 ^ retransmissions c
  limit : retransmissions c ≤ 9
  grows : ∀ operation, retransmissions c < retransmissions (operate c operation) →
    retransmissions (operate c operation) = retransmissions c + 1 ∧ 0 < c.sender.receiverWindowSize ∧
      ∃ ms, operation = .tick ms ∧ (c.sender.tick ms).segmentsOut ≠ c.sender.segmentsOut
  forwards : ∀ ms, appended c (.tick ms) =
    if c.active then (c.sender.tick ms).segmentsOut.map (operate c (.tick ms)).stamp else []
  error : c.error = false → ∀ operation, (operate c operation).error = true ↔
    isReset operation = true ∨ ∃ ms, operation = .tick ms ∧ retransmissions (operate c operation) = 9
  last : c.error = false → ∀ ms, retransmissions (operate c (.tick ms)) = 9 →
    ∃ segment, appended c (.tick ms) = [segment] ∧ segment.header.rst = true

theorem paced_givesUpInTime {c : TCPConnection} (paced : Paced c) : GivesUpInTime c := by
  have here : retransmissions c = c.sender.consecutiveRetransmissions.toNat := count_toNat paced.limit
  have next : ∀ operation, retransmissions (operate c operation) =
      (operate c operation).sender.consecutiveRetransmissions.toNat :=
    fun operation => count_toNat (paced.operate operation).limit
  obtain ⟨filled, settled⟩ := paced.settled
  refine ⟨by rw [here]; exact paced.backoff.timeout, by rw [here]; exact paced.limit, ?_, ?_, ?_, ?_⟩
  · intro operation more
    rw [here, next] at more ⊢
    obtain ⟨ms, same, _, fired, window, count⟩ := paced.grows operation more
    exact ⟨count, window, ms, same, (retransmits_iff paced.idle ms).mpr fired⟩
  · intro ms
    rw [appended_eq settled]
    cases running : c.active with
    | true => simp [called, senderCalls, running, apply]
    | false => simp [called, senderCalls, running, settled.queue]
  · intro noError operation
    rw [next]
    exact paced.error_iff noError operation
  · intro noError ms ninth
    rw [next] at ninth
    exact paced.last noError ms ninth

theorem reachable_paced {cfg : TCPConfig} {randomIsn : WrappingInt32} {t : Timed}
    {allowed : Timed → Operation → Prop} (reached : Reachable step allowed (start cfg randomIsn) t) :
    Paced t.connection :=
  reachable_invariant (P := fun t => Paced t.connection) (new_paced cfg randomIsn)
    (fun _ operation paced _ => paced.operate operation) reached

/-- Along every run the timeout is the configured one times two to the number of consecutive
retransmissions, of which there are at most nine, and the connection gives up on the ninth. Along a run
in which no tick wraps the elapsed time, a tick retransmits exactly when the time since the last start
of the timer reaches the timeout, unless that tick itself wraps the sum. -/
theorem backoff_exact_unless_clock_wraps {cfg : TCPConfig} {randomIsn : WrappingInt32} {t : Timed}
    (reached : Reachable step anything (start cfg randomIsn) t) :
    GivesUpInTime t.connection ∧
      (Reachable step NoWrap (start cfg randomIsn) t →
        ∀ ms, TickExact t.connection.sender t.clock ms ↔ ¬ Wraps t.connection.sender ms) := by
  have paced := reachable_paced reached
  refine ⟨paced_givesUpInTime paced, ?_⟩
  intro guarded ms
  have clocked : Paced t.connection ∧ Clocked t.connection.sender t.clock := by
    refine reachable_invariant
      (P := fun t => Paced t.connection ∧ Clocked t.connection.sender t.clock) ?_ ?_ guarded
    · exact ⟨new_paced cfg randomIsn, fun on => (Bool.false_ne_true on).elim⟩
    · rintro t operation ⟨paced, clocked⟩ noWrap
      exact ⟨paced.operate operation, step_clocked paced clocked operation noWrap⟩
  exact tickExact_iff paced.idle clocked.2 ms

def waitingSyn : Timed :=
  [Operation.connect, .tick 1].foldl step (start { rtTimeout := 1000 } ⟨0⟩)

theorem waitingSyn_reached {allowed : Timed → Operation → Prop}
    (first : allowed (start { rtTimeout := 1000 } ⟨0⟩) .connect)
    (second : allowed (step (start { rtTimeout := 1000 } ⟨0⟩) .connect) (.tick 1)) :
    Reachable step allowed (start { rtTimeout := 1000 } ⟨0⟩) waitingSyn :=
  .next (Operation.tick 1) (.next Operation.connect .start first) second

theorem waiting_syn_backs_off :
    waitingSyn.connection.sender.retransmissionTimeout.toNat = 1000 * 2 ^ 0 ∧
      TickExact waitingSyn.connection.sender waitingSyn.clock 999 := by
  have reached : Reachable step anything (start { rtTimeout := 1000 } ⟨0⟩) waitingSyn :=
    waitingSyn_reached trivial trivial
  obtain ⟨always, exact_⟩ := backoff_exact_unless_clock_wraps reached
  exact ⟨always.timeout, (exact_ (waitingSyn_reached trivial (fun _ => by decide +kernel)) 999).mpr
    (by decide +kernel)⟩

/-- A tick of `2 ^ 64 - 1` milliseconds brings the elapsed time back to zero, and the SYN is not sent
again. -/
theorem waiting_syn_forgotten :
    Reachable step anything (start { rtTimeout := 1000 } ⟨0⟩) waitingSyn ∧
      ¬ TickExact waitingSyn.connection.sender waitingSyn.clock 0xFFFFFFFFFFFFFFFF := by
  refine ⟨waitingSyn_reached trivial trivial, ?_⟩
  have silent : (waitingSyn.connection.sender.tick 0xFFFFFFFFFFFFFFFF).segmentsOut =
      waitingSyn.connection.sender.segmentsOut := by decide +kernel
  unfold TickExact
  rw [if_pos (by decide +kernel), silent]
  rintro ⟨front, rest, _, more⟩
  simp at more

end Sponge.ConnectionBackoff
