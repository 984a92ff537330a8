import Sponge.SenderTransmission

/-! The retransmission timer. Its timeout, its elapsed time and the retransmission count are written in
four places; they move together, and the elapsed time is what has been ticked since the timer was last
started or restarted, unless the 64-bit sum wraps. -/

namespace Sponge.SenderTimer

open TCPSender Tiling TCPSegment SenderFill SenderQueue SenderTransmission Transition

structure TimerKept (before after : TCPSender) : Prop where
  timeout : after.retransmissionTimeout = before.retransmissionTimeout
  elapsed : after.timerElapsed = before.timerElapsed
  count : after.consecutiveRetransmissions = before.consecutiveRetransmissions

structure TimerReset (before after : TCPSender) : Prop where
  timeout : after.retransmissionTimeout = before.initialRetransmissionTimeout
  elapsed : after.timerElapsed = 0
  count : after.consecutiveRetransmissions = 0

/-- A call other than a tick starts the timer when it turns it on, and restarts it when it takes an
acknowledged segment out of the queue. -/
def restarts (s : TCPSender) (call : Call) : Bool :=
  (!s.isTimerOn && (apply s call).isTimerOn) ||
    decide ((apply s call).outstandingSegments.length <
      s.outstandingSegments.length + (pushed s call).length)

structure TimerStep (s after : TCPSender) (restarted : Bool) : Prop where
  initial : after.initialRetransmissionTimeout = s.initialRetransmissionTimeout
  timer : if restarted then TimerReset s after else TimerKept s after

theorem timerStep_same {s after : TCPSender}
    (initial : after.initialRetransmissionTimeout = s.initialRetransmissionTimeout)
    (timeout : after.retransmissionTimeout = s.retransmissionTimeout)
    (elapsed : after.timerElapsed = s.timerElapsed)
    (count : after.consecutiveRetransmissions = s.consecutiveRetransmissions) :
    TimerStep s after false :=
  ⟨initial, timeout, elapsed, count⟩

theorem fillWindow_timer {s : TCPSender} {sent : List TCPSegment} (fills : Fills s sent) :
    TimerStep s s.fillWindow (restarts s .fillWindow) := by
  have emits := fills.emits
  refine ⟨emits.initialTimeout, ?_⟩
  have popped : ¬ s.fillWindow.outstandingSegments.length <
      s.outstandingSegments.length + sent.length := by
    rw [emits.outstanding, List.length_append]
    exact Nat.lt_irrefl _
  simp only [restarts, pushed_fillWindow fills, apply, popped, decide_false, Bool.or_false,
    emits.timerOn]
  split
  case isTrue started =>
    simp only [Bool.and_eq_true, Bool.not_eq_true', Bool.or_eq_true] at started
    have off := started.1
    have nonempty : sent ≠ [] := by
      rintro rfl
      simp [off] at started
    obtain ⟨timeout, elapsed, count⟩ := emits.timerStarted off nonempty
    exact ⟨timeout, elapsed, count⟩
  case isFalse kept =>
    have quiet : s.isTimerOn = true ∨ sent = [] := by
      cases on : s.isTimerOn with
      | true => exact .inl rfl
      | false => exact .inr (by simpa [on] using kept)
    obtain ⟨timeout, elapsed, count⟩ := emits.timerKept quiet
    exact ⟨timeout, elapsed, count⟩

theorem popAcked_timer (s : TCPSender) (queue : List TCPSegment) :
    (s.popAcked queue).initialRetransmissionTimeout = s.initialRetransmissionTimeout ∧
      (((s.popAcked queue).outstandingSegments.length = queue.length ∧
          TimerKept s (s.popAcked queue)) ∨
        ((s.popAcked queue).outstandingSegments.length < queue.length ∧
          TimerReset s (s.popAcked queue))) := by
  induction queue generalizing s with
  | nil => exact ⟨rfl, .inl ⟨rfl, rfl, rfl, rfl⟩⟩
  | cons segment rest ih =>
      rw [popAcked]
      split
      case isTrue => exact ⟨rfl, .inl ⟨rfl, rfl, rfl, rfl⟩⟩
      case isFalse =>
        obtain ⟨initial, kept | reset⟩ := ih { s with
          retransmissionTimeout := s.initialRetransmissionTimeout
          consecutiveRetransmissions := 0
          timerElapsed := 0 }
        · refine ⟨initial, .inr ⟨?_, kept.2.timeout, kept.2.elapsed, kept.2.count⟩⟩
          rw [kept.1]
          exact Nat.lt_succ_self _
        · refine ⟨initial, .inr ⟨?_, reset.2.timeout, reset.2.elapsed, reset.2.count⟩⟩
          exact reset.1.trans (Nat.lt_succ_self _)

theorem stopIdleTimer_kept (s : TCPSender) :
    TimerKept s s.stopIdleTimer ∧
      s.stopIdleTimer.initialRetransmissionTimeout = s.initialRetransmissionTimeout := by
  unfold stopIdleTimer
  split <;> exact ⟨⟨rfl, rfl, rfl⟩, rfl⟩

theorem stopIdleTimer_off (s : TCPSender) (off : s.isTimerOn = false) :
    s.stopIdleTimer.isTimerOn = false := by
  unfold stopIdleTimer
  split
  · rfl
  · exact off

theorem refilled_timer {filled : List TCPSegment} {s : TCPSender} (coherent : Coherent filled s)
    (on : s.isTimerOn = true) (ackno : WrappingInt32) (windowSize : UInt16)
    (acceptable : unwrapAt ackno s.isn s.nextSeqno ≤ s.nextSeqno) :
    TimerStep s (s.ackReceived ackno windowSize) (restarts s (.ackReceived ackno windowSize)) := by
  have result := ackReceived_refilled acceptable on windowSize
  have kept : Coherent filled ((s.noteAck (unwrapAt ackno s.isn s.nextSeqno) windowSize).popAcked
      s.outstandingSegments) :=
    popAcked_coherent (noteAck_coherent coherent _ windowSize acceptable) on
  obtain ⟨sent, fills⟩ := fillWindow_fills _ kept.synFits
  have acknowledged : Acknowledged filled s ackno windowSize (s.ackReceived ackno windowSize) sent := by
    rw [result]
    exact .refilled acceptable rfl kept fills
  have stillOn := (popAcked_kept (s.noteAck (unwrapAt ackno s.isn s.nextSeqno) windowSize)
    s.outstandingSegments).1.trans on
  obtain ⟨initial, popped⟩ := popAcked_timer
    (s.noteAck (unwrapAt ackno s.isn s.nextSeqno) windowSize) s.outstandingSegments
  rw [restarts, pushed_ackReceived acknowledged, apply, on, result]
  generalize (s.noteAck (unwrapAt ackno s.isn s.nextSeqno) windowSize).popAcked
    s.outstandingSegments = middle at *
  obtain ⟨stopped, stoppedInitial⟩ := stopIdleTimer_kept middle.fillWindow
  obtain ⟨timeout, elapsed, count⟩ := fills.emits.timerKept (.inl stillOn)
  refine ⟨stoppedInitial.trans (fills.emits.initialTimeout.trans initial), ?_⟩
  rw [stopIdleTimer_outstanding, fills.emits.outstanding, List.length_append, Bool.not_true,
    Bool.false_and, Bool.false_or]
  rcases popped with ⟨same, untouched⟩ | ⟨fewer, reset⟩
  · rw [if_neg (by simp [same])]
    exact ⟨stopped.timeout.trans (timeout.trans untouched.timeout),
      stopped.elapsed.trans (elapsed.trans untouched.elapsed),
      stopped.count.trans (count.trans untouched.count)⟩
  · rw [if_pos (by simpa using fewer)]
    exact ⟨stopped.timeout.trans (timeout.trans reset.timeout),
      stopped.elapsed.trans (elapsed.trans reset.elapsed),
      stopped.count.trans (count.trans reset.count)⟩

theorem ackReceived_timer {filled : List TCPSegment} {s : TCPSender} (coherent : Coherent filled s)
    (ackno : WrappingInt32) (windowSize : UInt16) :
    TimerStep s (s.ackReceived ackno windowSize) (restarts s (.ackReceived ackno windowSize)) := by
  by_cases acceptable : unwrapAt ackno s.isn s.nextSeqno ≤ s.nextSeqno
  · cases timer : s.isTimerOn with
    | true => exact refilled_timer coherent timer ackno windowSize acceptable
    | false =>
        have result := ackReceived_untimed acceptable timer windowSize
        have quiet : restarts s (.ackReceived ackno windowSize) = false := by
          simp [restarts, apply, pushed, result, noteAck, timer]
        rw [quiet, result]
        exact timerStep_same rfl rfl rfl rfl
  · have result := ackReceived_refused acceptable windowSize
    have quiet : restarts s (.ackReceived ackno windowSize) = false := by
      cases timer : s.isTimerOn with
      | true => simp [restarts, apply, pushed, result, timer]
      | false => simp [restarts, apply, pushed, result, timer, stopIdleTimer_off s timer]
    obtain ⟨kept, initial⟩ := stopIdleTimer_kept s
    rw [quiet, result]
    exact timerStep_same initial kept.timeout kept.elapsed kept.count

theorem apply_timer {filled : List TCPSegment} {s : TCPSender} (coherent : Coherent filled s)
    (call : Call) (noTick : ∀ ms, call ≠ .tick ms) :
    TimerStep s (apply s call) (restarts s call) := by
  have quiet : ∀ call, (apply s call).isTimerOn = s.isTimerOn →
      (apply s call).outstandingSegments = s.outstandingSegments → pushed s call = [] →
      restarts s call = false := by
    intro call timer queue nothing
    rw [restarts, timer, queue, nothing]
    simp
  cases call with
  | write data =>
      rw [quiet (.write data) rfl rfl rfl]
      exact timerStep_same rfl rfl rfl rfl
  | endInput =>
      rw [quiet .endInput rfl rfl rfl]
      exact timerStep_same rfl rfl rfl rfl
  | sendEmptySegment =>
      rw [quiet .sendEmptySegment rfl rfl rfl]
      exact timerStep_same rfl rfl rfl rfl
  | fillWindow =>
      obtain ⟨sent, fills⟩ := fillWindow_fills s coherent.synFits
      exact fillWindow_timer fills
  | ackReceived ackno windowSize => exact ackReceived_timer coherent ackno windowSize
  | tick ms => exact (noTick ms rfl).elim

theorem apply_idle {filled : List TCPSegment} {s : TCPSender} (coherent : Coherent filled s)
    (idle : Idle s) (call : Call) : Idle (apply s call) := by
  cases call with
  | write data => exact idle
  | endInput => exact idle
  | sendEmptySegment => exact idle
  | fillWindow =>
      obtain ⟨sent, fills⟩ := fillWindow_fills s coherent.synFits
      exact fillWindow_idle idle fills
  | ackReceived ackno windowSize =>
      obtain ⟨sent, acknowledged⟩ := ackReceived_acknowledged coherent ackno windowSize
      rw [apply]
      generalize s.ackReceived ackno windowSize = after at acknowledged ⊢
      cases acknowledged with
      | refused => exact stopIdleTimer_idle s
      | untimed => exact idle
      | refilled => exact stopIdleTimer_idle _
  | tick ms =>
      obtain ⟨outstanding, timer⟩ := tick_kept s ms
      unfold Idle
      rw [apply, outstanding, timer]
      exact idle

/-- The elapsed time, as the code adds it up, reaches the timeout. -/
def fires (s : TCPSender) (ms : UInt64) : Bool :=
  s.isTimerOn && decide (s.retransmissionTimeout.toUInt64 ≤ s.timerElapsed + ms)

theorem tick_fires {s : TCPSender} {ms : UInt64} (fired : fires s ms = true) :
    s.tick ms =
      { s with
        segmentsOut := s.segmentsOut ++ s.outstandingSegments.head?.toList
        timerElapsed := 0
        consecutiveRetransmissions :=
          if s.receiverWindowSize > 0 then s.consecutiveRetransmissions + 1
          else s.consecutiveRetransmissions
        retransmissionTimeout :=
          if s.receiverWindowSize > 0 then s.retransmissionTimeout <<< 1
          else s.retransmissionTimeout } := by
  simp only [fires, Bool.and_eq_true, decide_eq_true_eq] at fired
  by_cases window : s.receiverWindowSize > 0 <;>
    simp [tick, retransmit, fired.1, fired.2, window]

theorem tick_quiet {s : TCPSender} {ms : UInt64} (silent : fires s ms = false) :
    s.tick ms = { s with
      timerElapsed := if s.isTimerOn then s.timerElapsed + ms else s.timerElapsed } := by
  cases on : s.isTimerOn with
  | false =>
      simp only [tick, on, Bool.not_false, if_true, Bool.false_eq_true, if_false]
      rw [← on]
  | true =>
      have early : ¬ s.timerElapsed + ms ≥ s.retransmissionTimeout.toUInt64 := by
        simpa [fires, on] using silent
      simp [tick, on, early]

/-- The timeout is the configured one, doubled once for each consecutive retransmission. -/
structure Backoff (rtTimeout : UInt16) (s : TCPSender) : Prop where
  initial : s.initialRetransmissionTimeout.toNat = rtTimeout.toNat
  timeout : s.retransmissionTimeout.toNat = rtTimeout.toNat * 2 ^ s.consecutiveRetransmissions.toNat

theorem new_backoff (capacity : Nat) (retxTimeout : UInt16) (fixedIsn : Option WrappingInt32)
    (randomIsn : WrappingInt32) :
    Backoff retxTimeout (TCPSender.new capacity retxTimeout fixedIsn randomIsn) where
  initial := rfl
  timeout := (Nat.mul_one _).symm

theorem timerStep_backoff {rtTimeout : UInt16} {s after : TCPSender} {restarted : Bool}
    (backoff : Backoff rtTimeout s) (step : TimerStep s after restarted) :
    Backoff rtTimeout after ∧
      after.consecutiveRetransmissions.toNat ≤ s.consecutiveRetransmissions.toNat := by
  obtain ⟨initial, timer⟩ := step
  have kept : after.initialRetransmissionTimeout.toNat = rtTimeout.toNat := by
    rw [initial]
    exact backoff.initial
  cases restarted with
  | true =>
      rw [if_pos rfl] at timer
      refine ⟨⟨kept, ?_⟩, by rw [timer.count]; exact Nat.zero_le _⟩
      rw [timer.timeout, timer.count, backoff.initial]
      exact (Nat.mul_one _).symm
  | false =>
      rw [if_neg Bool.false_ne_true] at timer
      refine ⟨⟨kept, ?_⟩, by rw [timer.count]⟩
      rw [timer.timeout, timer.count]
      exact backoff.timeout

theorem doubled_timeout {rtTimeout : UInt16} {timeout : UInt32} {count : Nat} (few : count ≤ 8)
    (value : timeout.toNat = rtTimeout.toNat * 2 ^ count) :
    (timeout <<< 1).toNat = rtTimeout.toNat * 2 ^ (count + 1) := by
  have shift : (1 : UInt32).toNat % 32 = 1 := by decide
  have room : rtTimeout.toNat * 2 ^ (count + 1) < 2 ^ 32 := by
    calc
      rtTimeout.toNat * 2 ^ (count + 1) ≤ rtTimeout.toNat * 2 ^ 9 :=
        Nat.mul_le_mul_left _ (Nat.pow_le_pow_right (by decide) (by omega))
      _ < 2 ^ 16 * 2 ^ 9 := Nat.mul_lt_mul_of_pos_right rtTimeout.toNat_lt (by decide)
      _ ≤ 2 ^ 32 := by decide
  rw [UInt32.toNat_shiftLeft, shift, Nat.shiftLeft_eq, value, Nat.mul_assoc, ← pow_succ]
  exact Nat.mod_eq_of_lt room

theorem tick_backoff {rtTimeout : UInt16} {s : TCPSender} (backoff : Backoff rtTimeout s)
    (few : s.consecutiveRetransmissions.toNat ≤ 8) (ms : UInt64) :
    Backoff rtTimeout (s.tick ms) ∧ (s.tick ms).consecutiveRetransmissions.toNat =
      s.consecutiveRetransmissions.toNat +
        if fires s ms = true ∧ s.receiverWindowSize > 0 then 1 else 0 := by
  cases fired : fires s ms with
  | false =>
      rw [tick_quiet fired]
      exact ⟨⟨backoff.initial, backoff.timeout⟩, by simp⟩
  | true =>
      rw [tick_fires fired]
      by_cases window : s.receiverWindowSize > 0
      · have next : (s.consecutiveRetransmissions + 1).toNat =
            s.consecutiveRetransmissions.toNat + 1 := by
          rw [UInt64.toNat_add, UInt64.toNat_one]
          exact Nat.mod_eq_of_lt (by omega)
        simp only [window, if_true, and_self, next]
        refine ⟨⟨backoff.initial, ?_⟩, trivial⟩
        rw [next]
        exact doubled_timeout few backoff.timeout
      · simp only [window, if_false, and_false, Nat.add_zero]
        exact ⟨⟨backoff.initial, backoff.timeout⟩, trivial⟩

/-- The time ticked since the timer was last started or restarted, kept beside the sender. A tick
restarts the timer when it retransmits. -/
def clockAfter (s : TCPSender) (clock : Nat) : Call → Nat
  | .tick ms =>
      if s.isTimerOn = false then clock
      else if (s.tick ms).segmentsOut ≠ s.segmentsOut then 0 else clock + ms.toNat
  | call => if restarts s call then 0 else clock

/-- A running timer shows the time since its start, and has not been left running past its timeout. -/
def Clocked (s : TCPSender) (clock : Nat) : Prop :=
  s.isTimerOn = true →
    s.timerElapsed.toNat = clock ∧ (clock = 0 ∨ clock < s.retransmissionTimeout.toNat)

def Wraps (s : TCPSender) (ms : UInt64) : Prop :=
  s.isTimerOn = true ∧ 2 ^ 64 ≤ s.timerElapsed.toNat + ms.toNat

instance (s : TCPSender) (ms : UInt64) : Decidable (Wraps s ms) := inferInstanceAs (Decidable (_ ∧ _))

theorem fires_iff {s : TCPSender} {ms : UInt64} (noWrap : ¬ Wraps s ms) :
    fires s ms = true ↔
      s.isTimerOn = true ∧ s.retransmissionTimeout.toNat ≤ s.timerElapsed.toNat + ms.toNat := by
  simp only [fires, Bool.and_eq_true, decide_eq_true_eq]
  refine and_congr_right fun on => ?_
  have sum : (s.timerElapsed + ms).toNat = s.timerElapsed.toNat + ms.toNat := by
    rw [UInt64.toNat_add]
    exact Nat.mod_eq_of_lt (Nat.lt_of_not_le fun wraps => noWrap ⟨on, wraps⟩)
  rw [UInt64.le_iff_toNat_le, UInt32.toNat_toUInt64, sum]

theorem retransmits_iff {s : TCPSender} (idle : Idle s) (ms : UInt64) :
    (s.tick ms).segmentsOut ≠ s.segmentsOut ↔ fires s ms = true := by
  cases fired : fires s ms with
  | false =>
      rw [tick_quiet fired]
      simp
  | true =>
      rw [tick_fires fired]
      simp only [fires, Bool.and_eq_true] at fired
      cases queue : s.outstandingSegments with
      | nil => exact (idle fired.1 queue).elim
      | cons front rest => simp

theorem tick_clocked {s : TCPSender} {clock : Nat} (idle : Idle s) (clocked : Clocked s clock)
    (ms : UInt64) (noWrap : ¬ Wraps s ms) : Clocked (s.tick ms) (clockAfter s clock (.tick ms)) := by
  intro on
  rw [(tick_kept s ms).2] at on
  obtain ⟨elapsed, _⟩ := clocked on
  simp only [clockAfter, on, Bool.true_eq_false, if_false, retransmits_iff idle]
  cases fired : fires s ms with
  | true =>
      rw [tick_fires fired, if_pos rfl]
      exact ⟨rfl, .inl rfl⟩
  | false =>
      have early : ¬ s.retransmissionTimeout.toNat ≤ s.timerElapsed.toNat + ms.toNat := by
        intro reached
        rw [(fires_iff noWrap).mpr ⟨on, reached⟩] at fired
        cases fired
      have sum : (s.timerElapsed + ms).toNat = s.timerElapsed.toNat + ms.toNat := by
        rw [UInt64.toNat_add]
        exact Nat.mod_eq_of_lt (Nat.lt_of_not_le fun wraps => noWrap ⟨on, wraps⟩)
      rw [tick_quiet fired, if_neg Bool.false_ne_true, ← elapsed]
      simp only [on, if_true]
      exact ⟨sum, .inr (Nat.lt_of_not_le early)⟩

theorem clockAfter_clocked {filled : List TCPSegment} {s : TCPSender} {clock : Nat}
    (coherent : Coherent filled s) (idle : Idle s) (clocked : Clocked s clock) (call : Call)
    (noWrap : ∀ ms, call = .tick ms → ¬ Wraps s ms) :
    Clocked (apply s call) (clockAfter s clock call) := by
  by_cases ticks : ∃ ms, call = .tick ms
  · obtain ⟨ms, rfl⟩ := ticks
    exact tick_clocked idle clocked ms (noWrap ms rfl)
  · have noTick : ∀ ms, call ≠ .tick ms := fun ms same => ticks ⟨ms, same⟩
    have timer := (apply_timer coherent call noTick).timer
    have ghost : clockAfter s clock call = if restarts s call then 0 else clock := by
      cases call with
      | tick ms => exact (noTick ms rfl).elim
      | _ => rfl
    intro on
    rw [ghost]
    cases again : restarts s call with
    | true =>
        rw [again, if_pos rfl] at timer
        rw [if_pos rfl, timer.elapsed]
        exact ⟨rfl, .inl rfl⟩
    | false =>
        rw [again, if_neg Bool.false_ne_true] at timer
        have before : s.isTimerOn = true := by
          simp only [restarts, on, Bool.and_true, Bool.or_eq_false_iff] at again
          simpa using again.1
        rw [if_neg Bool.false_ne_true, timer.elapsed, timer.timeout]
        exact clocked before

theorem run_backoff {rtTimeout : UInt16} {filled : List TCPSegment} {s : TCPSender}
    (coherent : Coherent filled s) (backoff : Backoff rtTimeout s) (calls : List Call)
    (noTick : ∀ call ∈ calls, ∀ ms, call ≠ .tick ms) :
    Backoff rtTimeout (calls.foldl apply s) ∧
      (calls.foldl apply s).consecutiveRetransmissions.toNat ≤
        s.consecutiveRetransmissions.toNat := by
  induction calls generalizing s filled with
  | nil => exact ⟨backoff, Nat.le_refl _⟩
  | cons call calls ih =>
      obtain ⟨here, later⟩ := List.forall_mem_cons.mp noTick
      obtain ⟨kept, lower⟩ := timerStep_backoff backoff (apply_timer coherent call here)
      obtain ⟨final, lowest⟩ := ih (apply_coherent coherent call) kept later
      exact ⟨final, lowest.trans lower⟩

theorem run_idle {filled : List TCPSegment} {s : TCPSender} (coherent : Coherent filled s)
    (idle : Idle s) (calls : List Call) : Idle (calls.foldl apply s) := by
  induction calls generalizing s filled with
  | nil => exact idle
  | cons call calls ih => exact ih (apply_coherent coherent call) (apply_idle coherent idle call)

def clockRun (s : TCPSender) (clock : Nat) : List Call → Nat
  | [] => clock
  | call :: calls => clockRun (apply s call) (clockAfter s clock call) calls

def TickFits (s : TCPSender) (call : Call) : Prop := ∀ ms, call = .tick ms → ¬ Wraps s ms

theorem clockRun_clocked {filled : List TCPSegment} {s : TCPSender} {clock : Nat}
    (coherent : Coherent filled s) (idle : Idle s) (clocked : Clocked s clock) (calls : List Call)
    (fits : AllowedRun apply TickFits s calls) :
    Clocked (calls.foldl apply s) (clockRun s clock calls) := by
  induction calls generalizing s filled clock with
  | nil => exact clocked
  | cons call calls ih =>
      exact ih (apply_coherent coherent call) (apply_idle coherent idle call)
        (clockAfter_clocked coherent idle clocked call fits.1) fits.2

/-- A tick retransmits one segment, the front of the queue, if the timer is on and the time since its
start reaches the timeout, and nothing otherwise. -/
def TickExact (s : TCPSender) (clock : Nat) (ms : UInt64) : Prop :=
  if s.isTimerOn = true ∧ s.retransmissionTimeout.toNat ≤ clock + ms.toNat
  then ∃ front rest, s.outstandingSegments = front :: rest ∧
    (s.tick ms).segmentsOut = s.segmentsOut ++ [front]
  else (s.tick ms).segmentsOut = s.segmentsOut

theorem tickExact_iff {s : TCPSender} {clock : Nat} (idle : Idle s) (clocked : Clocked s clock)
    (ms : UInt64) : TickExact s clock ms ↔ ¬ Wraps s ms := by
  unfold TickExact
  by_cases on : s.isTimerOn = true
  · obtain ⟨elapsed, early⟩ := clocked on
    by_cases wraps : Wraps s ms
    · -- the timeout is far below `2 ^ 64`, so it has been reached, but the wrapped sum is below it
      have small := s.retransmissionTimeout.toNat_lt
      have tick := ms.toNat_lt
      have sum := wraps.2
      have reached : s.retransmissionTimeout.toNat ≤ clock + ms.toNat := by omega
      have quiet : fires s ms = false := by
        rw [← Bool.not_eq_true]
        simp only [fires, Bool.and_eq_true, decide_eq_true_eq, UInt64.le_iff_toNat_le,
          UInt32.toNat_toUInt64, UInt64.toNat_add]
        omega
      rw [if_pos ⟨on, reached⟩, tick_quiet quiet]
      simp [wraps]
    · simp only [← elapsed, ← fires_iff wraps]
      cases fired : fires s ms with
      | false =>
          rw [tick_quiet fired, if_neg Bool.false_ne_true]
          simp [wraps]
      | true =>
          cases queue : s.outstandingSegments with
          | nil => exact (idle on queue).elim
          | cons front rest =>
              rw [tick_fires fired, if_pos rfl, queue]
              simp [wraps]
  · have noWrap : ¬ Wraps s ms := fun wraps => on wraps.1
    rw [Bool.not_eq_true] at on
    simp [on, noWrap, tick]

end Sponge.SenderTimer
