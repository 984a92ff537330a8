import Sponge.SenderProgress
import Sponge.SenderTimer

/-! The retransmission queue over whole runs: where it starts and ends, what leaves it, and which
acknowledgments restart its timer. -/

namespace Sponge.SenderRetransmission

open TCPSender Tiling TCPSegment SenderFill SenderQueue SenderTransmission SenderProgress SenderTimer
  Transition

def InReach (s : TCPSender) (_ : Call) : Prop := s.bytesInFlight < 2 ^ 30

instance (s : TCPSender) (call : Call) : Decidable (InReach s call) :=
  inferInstanceAs (Decidable (_ < _))

/-- The queue between two calls: consecutive segments up to the next sequence number, of which the first
holds the first unacknowledged one. -/
structure Queued (s : TCPSender) : Prop where
  ordered : s.currentSeqno ≤ s.nextSeqno
  consecutive : ∃ first, first + span lengthInSequenceSpace s.outstandingSegments = s.nextSeqno ∧
    (∀ entry ∈ number lengthInSequenceSpace first s.outstandingSegments,
      entry.2.header.seqno = wrap entry.1 s.isn ∧ 0 < entry.2.lengthInSequenceSpace) ∧
    ∀ front rest, s.outstandingSegments = front :: rest →
      first ≤ s.currentSeqno ∧ s.currentSeqno < first + front.lengthInSequenceSpace
  drained : s.outstandingSegments = [] → s.currentSeqno = s.nextSeqno
  timer : s.isTimerOn = true ↔ s.outstandingSegments ≠ []
  inFlight : s.bytesInFlight = 0 ↔ s.outstandingSegments = []
  /-- A tick that retransmits finds a segment at the front. -/
  repeats : ∀ ms, fires s ms = true → ∃ front rest, s.outstandingSegments = front :: rest ∧
    (s.tick ms).segmentsOut = s.segmentsOut ++ [front]

/-- What a call takes out of the queue ends at or before the acknowledged sequence number. -/
def Retains (s : TCPSender) (call : Call) : Prop :=
  ∃ dropped kept, s.outstandingSegments = dropped ++ kept ∧
    (apply s call).outstandingSegments = kept ++ pushed s call ∧
    ∀ first, first + span lengthInSequenceSpace s.outstandingSegments = s.nextSeqno →
      ∀ entry ∈ number lengthInSequenceSpace first dropped,
        entry.1 + entry.2.lengthInSequenceSpace ≤ (apply s call).currentSeqno

theorem acked_reach {s : TCPSender} (acked : Acked s) :
    s.nextSeqno ≤ s.currentSeqno + span lengthInSequenceSpace s.outstandingSegments := by
  cases queue : s.outstandingSegments with
  | nil =>
      have all := acked.drained queue
      omega
  | cons front rest =>
      rw [span_cons]
      exact (acked.front front rest queue).1

section Calls

variable {filled : List TCPSegment} {s : TCPSender}

theorem apply_queue (coherent : Coherent filled s) (call : Call) :
    ∃ dropped kept, s.outstandingSegments = dropped ++ kept ∧
      (apply s call).outstandingSegments = kept ++ pushed s call := by
  cases call with
  | write data => exact ⟨[], _, rfl, (List.append_nil _).symm⟩
  | endInput => exact ⟨[], _, rfl, (List.append_nil _).symm⟩
  | sendEmptySegment => exact ⟨[], _, rfl, (List.append_nil _).symm⟩
  | tick ms => exact ⟨[], _, rfl, ((tick_kept s ms).1).trans (List.append_nil _).symm⟩
  | fillWindow =>
      obtain ⟨sent, fills⟩ := fillWindow_fills s coherent.synFits
      rw [pushed_fillWindow fills]
      exact ⟨[], _, rfl, fills.emits.outstanding⟩
  | ackReceived ackno windowSize =>
      obtain ⟨sent, acknowledged⟩ := ackReceived_acknowledged coherent ackno windowSize
      rw [pushed_ackReceived acknowledged, apply]
      generalize s.ackReceived ackno windowSize = after at acknowledged ⊢
      cases acknowledged with
      | refused =>
          rw [stopIdleTimer_outstanding]
          exact ⟨[], _, rfl, (List.append_nil _).symm⟩
      | untimed => exact ⟨[], _, rfl, (List.append_nil _).symm⟩
      | refilled _ pops _ fills =>
          obtain ⟨dropped, queue⟩ := popAcked_queue
            (s.noteAck (unwrapAt ackno s.isn s.nextSeqno) windowSize) s.outstandingSegments
          rw [stopIdleTimer_outstanding, fills.emits.outstanding, pops]
          exact ⟨dropped, _, queue, rfl⟩

theorem apply_retains (coherent : Coherent filled s) (call : Call) (live : Live (apply s call)) :
    Retains s call := by
  -- the queue left behind starts at or before the acknowledged number, so all before it was covered
  obtain ⟨dropped, kept, before, after⟩ := apply_queue coherent call
  refine ⟨dropped, kept, before, after, ?_⟩
  intro first start entry member
  have next := apply_nextSeqno coherent call
  have reach := acked_reach live.acked
  have bounds := number_bounds lengthInSequenceSpace member
  rw [before, span_append] at start
  rw [after, span_append] at reach
  omega

theorem live_queued (coherent : Coherent filled s) (live : Live s) : Queued s where
  ordered := coherent.currentLe
  consecutive := by
    obtain ⟨first, space, built⟩ := outstanding_numbered coherent
    refine ⟨first, space, ?_, ?_⟩
    · intro entry member
      have plain : entry.2.header = _ := (built entry member).unstamped
      exact ⟨by rw [plain], (built entry member).nonempty⟩
    · intro front rest queue
      have straddles := live.acked.front front rest queue
      rw [queue, span_cons] at space
      omega
  drained := live.acked.drained
  timer := ⟨live.idle, coherent.busy⟩
  inFlight := by
    have order := coherent.currentLe
    unfold bytesInFlight
    constructor
    · intro nothing
      cases queue : s.outstandingSegments with
      | nil => rfl
      | cons front rest =>
          have waits := (live.acked.front front rest queue).2
          omega
    · intro nothing
      have all := live.acked.drained nothing
      omega
  repeats := by
    intro ms fired
    have on : s.isTimerOn = true := by
      rw [fires, Bool.and_eq_true] at fired
      exact fired.1
    cases queue : s.outstandingSegments with
    | nil => exact (live.idle on queue).elim
    | cons front rest =>
        refine ⟨front, rest, rfl, ?_⟩
        rw [tick_fires fired, queue]
        rfl

end Calls

def Tracked (s : TCPSender) : Prop := ∃ filled, Coherent filled s ∧ Live s

theorem step_tracked (s : TCPSender) (call : Call) (tracked : Tracked s) (inReach : InReach s call) :
    Tracked (apply s call) := by
  obtain ⟨filled, coherent, live⟩ := tracked
  exact ⟨_, apply_coherent coherent call, apply_live coherent live call (.inr inReach)⟩

section Runs

variable {capacity : Nat} {retxTimeout : UInt16} {fixedIsn : Option WrappingInt32}
  {randomIsn : WrappingInt32} {s : TCPSender}

theorem reached_tracked
    (reached : Reachable apply InReach (TCPSender.new capacity retxTimeout fixedIsn randomIsn) s) :
    Tracked s :=
  reachable_invariant (P := Tracked)
    ⟨[], new_coherent capacity retxTimeout fixedIsn randomIsn,
      new_live capacity retxTimeout fixedIsn randomIsn⟩ step_tracked reached

/-- As long as fewer than `2 ^ 30` sequence numbers are in flight, the outstanding segments are those with
unacknowledged numbers, the timer runs exactly while there are any, and no sequence number moves back. -/
theorem retransmission_queue_kept
    (reached : Reachable apply InReach (TCPSender.new capacity retxTimeout fixedIsn randomIsn) s) :
    Queued s ∧ (∀ call, InReach s call → Retains s call) ∧
      ∀ later, Reachable apply InReach s later →
        s.currentSeqno ≤ later.currentSeqno ∧ s.nextSeqno ≤ later.nextSeqno := by
  obtain ⟨filled, coherent, live⟩ := reached_tracked reached
  refine ⟨live_queued coherent live, ?_, ?_⟩
  · intro call inReach
    exact apply_retains coherent call (apply_live coherent live call (.inr inReach))
  · intro later onward
    constructor
    · refine reachable_monotone (P := Tracked) TCPSender.currentSeqno ⟨filled, coherent, live⟩
        step_tracked ?_ onward
      intro state call ⟨_, stateCoherent, _⟩ _
      exact apply_currentSeqno stateCoherent call
    · refine reachable_monotone (P := Tracked) TCPSender.nextSeqno ⟨filled, coherent, live⟩
        step_tracked ?_ onward
      intro state call ⟨_, stateCoherent, _⟩ _
      rw [apply_nextSeqno stateCoherent call]
      exact Nat.le_add_right _ _

end Runs

def partialRun : List Call :=
  [.fillWindow, .ackReceived ⟨1⟩ 9, .write [7, 8, 9], .fillWindow, .ackReceived ⟨2⟩ 9,
    .ackReceived ⟨1⟩ 9, .ackReceived ⟨500⟩ 9, .tick 1000]

theorem partial_run_queued :
    Queued (partialRun.foldl apply (TCPSender.new 16 1000 (some ⟨0⟩) ⟨0⟩)) ∧
      (partialRun.foldl apply (TCPSender.new 16 1000 (some ⟨0⟩) ⟨0⟩)).bytesInFlight = 2 :=
  ⟨(retransmission_queue_kept (reachable_run partialRun (by decide +kernel))).1, by decide +kernel⟩

/-! ### Which acknowledgments restart the timer -/

/-- Where the code takes the front of the queue to end. -/
def frontEnd (s : TCPSender) (front : TCPSegment) : Nat :=
  unwrapAt front.header.seqno s.isn s.nextSeqno + front.lengthInSequenceSpace

theorem popAcked_shorter (s : TCPSender) (front : TCPSegment) (rest : List TCPSegment) :
    (s.popAcked (front :: rest)).outstandingSegments.length < (front :: rest).length ↔
      frontEnd s front ≤ s.currentSeqno := by
  rw [popAcked, ← frontEnd]
  split
  case isTrue ahead =>
    simp only [Nat.lt_irrefl, false_iff]
    omega
  case isFalse covered =>
    have fewer := (popAcked_timer { s with
      retransmissionTimeout := s.initialRetransmissionTimeout
      consecutiveRetransmissions := 0
      timerElapsed := 0 } rest).2
    have bound : frontEnd s front ≤ s.currentSeqno := by omega
    simp only [List.length_cons, bound, iff_true]
    rcases fewer with same | less
    · omega
    · omega

/-- An acknowledgment up to `absolute` restarts the timer if it covers something new, and leaves it alone
otherwise. -/
def RestartsOnNew (s after : TCPSender) (absolute : Nat) : Prop :=
  (s.currentSeqno < absolute → TimerReset s after) ∧ (absolute ≤ s.currentSeqno → TimerKept s after)

/-- The timer is as a restart would leave it. -/
def Fresh (s : TCPSender) : Prop := TimerReset s s

theorem kept_iff_fresh {s after : TCPSender} (reset : TimerReset s after) : TimerKept s after ↔ Fresh s := by
  constructor
  · intro kept
    exact ⟨kept.timeout.symm.trans reset.timeout, kept.elapsed.symm.trans reset.elapsed,
      kept.count.symm.trans reset.count⟩
  · intro fresh
    exact ⟨reset.timeout.trans fresh.timeout.symm, reset.elapsed.trans fresh.elapsed.symm,
      reset.count.trans fresh.count.symm⟩

theorem reset_iff_fresh {s after : TCPSender} (kept : TimerKept s after) : TimerReset s after ↔ Fresh s := by
  constructor
  · intro reset
    exact (kept_iff_fresh reset).mp kept
  · intro fresh
    exact ⟨kept.timeout.trans fresh.timeout, kept.elapsed.trans fresh.elapsed, kept.count.trans fresh.count⟩

theorem restartsOnNew_iff {s after : TCPSender} {absolute : Nat} {restarted : Prop}
    (resets : restarted → TimerReset s after) (keeps : ¬ restarted → TimerKept s after) :
    RestartsOnNew s after absolute ↔ Fresh s ∨ (s.currentSeqno < absolute ↔ restarted) := by
  unfold RestartsOnNew
  by_cases new : s.currentSeqno < absolute
  · rw [imp_iff_right new, and_iff_left (fun old => absurd new (Nat.not_lt.mpr old)), iff_true_left new]
    by_cases restart : restarted
    · exact iff_of_true (resets restart) (.inr restart)
    · rw [reset_iff_fresh (keeps restart), or_iff_left restart]
  · rw [imp_iff_right (Nat.not_lt.mp new), and_iff_right (fun covers => absurd covers new), iff_false_left new]
    by_cases restart : restarted
    · rw [kept_iff_fresh (resets restart), or_iff_left (not_not.mpr restart)]
    · exact iff_of_true (keeps restart) (.inr restart)

section Restart

variable {filled rest : List TCPSegment} {s : TCPSender} {front : TCPSegment} {ackno : WrappingInt32}

theorem restarts_iff (coherent : Coherent filled s) (outstanding : s.outstandingSegments = front :: rest)
    (windowSize : UInt16) (acceptable : unwrapAt ackno s.isn s.nextSeqno ≤ s.nextSeqno) :
    restarts s (.ackReceived ackno windowSize) = true ↔
      frontEnd s front ≤ max s.currentSeqno (unwrapAt ackno s.isn s.nextSeqno) := by
  have on : s.isTimerOn = true := coherent.busy (by rw [outstanding]; exact List.cons_ne_nil _ _)
  have shorter := popAcked_shorter (s.noteAck (unwrapAt ackno s.isn s.nextSeqno) windowSize) front rest
  obtain ⟨sent, acknowledged⟩ := ackReceived_acknowledged coherent ackno windowSize
  rw [restarts, pushed_ackReceived acknowledged, apply, on, Bool.not_true, Bool.false_and,
    Bool.false_or, decide_eq_true_eq]
  generalize s.ackReceived ackno windowSize = after at acknowledged ⊢
  cases acknowledged with
  | refused beyond => omega
  | untimed _ off =>
      rw [on] at off
      cases off
  | refilled _ pops _ fills =>
      rw [stopIdleTimer_outstanding, fills.emits.outstanding, List.length_append, pops, outstanding,
        Nat.add_lt_add_iff_right, shorter]
      rfl

theorem frontEnd_exact (coherent : Coherent filled s) (live : Live s) (bound : s.bytesInFlight < 2 ^ 30)
    (outstanding : s.outstandingSegments = front :: rest) :
    frontEnd s front + span lengthInSequenceSpace rest = s.nextSeqno ∧
      s.currentSeqno < frontEnd s front := by
  obtain ⟨first, space, built⟩ := outstanding_numbered coherent
  have small := outstanding_small coherent live.acked bound
  have ahead := (live.acked.front front rest outstanding).2
  rw [outstanding, span_cons] at space small
  rw [outstanding] at built
  have plain : front.header = _ := (built (first, front) List.mem_cons_self).unstamped
  have start : unwrapAt front.header.seqno s.isn s.nextSeqno = first := by
    rw [plain]
    exact unwrapAt_wrap first s.isn s.nextSeqno (by omega) (by omega)
  rw [frontEnd, start]
  omega

end Restart

/-- An acknowledgment that reaches the end of the front of the queue restarts the timer, any other
accepted one leaves it alone, also if it covers part of the front. In reach of `unwrap` that end lies after
everything acknowledged before, so that the timer restarts on new data exactly when nothing is new, the
front is covered to its end, or a restart would make no difference. -/
theorem restart_on_whole_segment {capacity : Nat} {retxTimeout : UInt16}
    {fixedIsn : Option WrappingInt32} {randomIsn : WrappingInt32} {s : TCPSender}
    (reached : Reachable apply anything (TCPSender.new capacity retxTimeout fixedIsn randomIsn) s)
    {front : TCPSegment} {rest : List TCPSegment} (outstanding : s.outstandingSegments = front :: rest)
    {ackno : WrappingInt32} (windowSize : UInt16)
    (acceptable : unwrapAt ackno s.isn s.nextSeqno ≤ s.nextSeqno) :
    (frontEnd s front ≤ max s.currentSeqno (unwrapAt ackno s.isn s.nextSeqno) →
        TimerReset s (s.ackReceived ackno windowSize)) ∧
      (max s.currentSeqno (unwrapAt ackno s.isn s.nextSeqno) < frontEnd s front →
        TimerKept s (s.ackReceived ackno windowSize)) ∧
      (Reachable apply InReach (TCPSender.new capacity retxTimeout fixedIsn randomIsn) s →
        s.bytesInFlight < 2 ^ 30 → frontEnd s front + span lengthInSequenceSpace rest = s.nextSeqno ∧
          s.currentSeqno < frontEnd s front) ∧
      (RestartsOnNew s (s.ackReceived ackno windowSize) (unwrapAt ackno s.isn s.nextSeqno) ↔
        Fresh s ∨ (s.currentSeqno < unwrapAt ackno s.isn s.nextSeqno ↔
          frontEnd s front ≤ max s.currentSeqno (unwrapAt ackno s.isn s.nextSeqno))) ∧
      (Reachable apply InReach (TCPSender.new capacity retxTimeout fixedIsn randomIsn) s →
        s.bytesInFlight < 2 ^ 30 →
        (RestartsOnNew s (s.ackReceived ackno windowSize) (unwrapAt ackno s.isn s.nextSeqno) ↔
          unwrapAt ackno s.isn s.nextSeqno ≤ s.currentSeqno ∨
            frontEnd s front ≤ unwrapAt ackno s.isn s.nextSeqno ∨ Fresh s)) := by
  obtain ⟨filled, coherent⟩ := reached_coherent reached
  have timer := (ackReceived_timer coherent ackno windowSize).timer
  have exactly := restarts_iff coherent outstanding windowSize acceptable
  have resets : frontEnd s front ≤ max s.currentSeqno (unwrapAt ackno s.isn s.nextSeqno) →
      TimerReset s (s.ackReceived ackno windowSize) := by
    intro covered
    rwa [if_pos (exactly.mpr covered)] at timer
  have keeps : ¬ frontEnd s front ≤ max s.currentSeqno (unwrapAt ackno s.isn s.nextSeqno) →
      TimerKept s (s.ackReceived ackno windowSize) := by
    intro ahead
    rwa [if_neg (fun restarted => ahead (exactly.mp restarted))] at timer
  have frontKnown : Reachable apply InReach (TCPSender.new capacity retxTimeout fixedIsn randomIsn) s →
      s.bytesInFlight < 2 ^ 30 → frontEnd s front + span lengthInSequenceSpace rest = s.nextSeqno ∧
        s.currentSeqno < frontEnd s front := by
    intro inReach bound
    obtain ⟨_, tracked, live⟩ := reached_tracked inReach
    exact frontEnd_exact tracked live bound outstanding
  refine ⟨resets, fun ahead => keeps (Nat.not_le_of_lt ahead), frontKnown, restartsOnNew_iff resets keeps, ?_⟩
  intro inReach bound
  obtain ⟨_, beyond⟩ := frontKnown inReach bound
  rw [restartsOnNew_iff resets keeps]
  have covers : frontEnd s front ≤ max s.currentSeqno (unwrapAt ackno s.isn s.nextSeqno) ↔
      frontEnd s front ≤ unwrapAt ackno s.isn s.nextSeqno := by omega
  rw [covers]
  by_cases fresh : Fresh s
  · exact iff_of_true (.inl fresh) (.inr (.inr fresh))
  · rw [or_iff_right fresh, or_iff_left fresh]
    omega

def waitingRun : List Call :=
  [.fillWindow, .ackReceived ⟨1⟩ 9, .write [7, 8, 9], .fillWindow, .tick 600]

theorem whole_segment_restarts :
    TimerReset (waitingRun.foldl apply (TCPSender.new 16 1000 (some ⟨0⟩) ⟨0⟩))
      ((waitingRun.foldl apply (TCPSender.new 16 1000 (some ⟨0⟩) ⟨0⟩)).ackReceived ⟨4⟩ 9) :=
  (@restart_on_whole_segment 16 1000 (some ⟨0⟩) ⟨0⟩ _
    (reachable_run waitingRun ⟨trivial, trivial, trivial, trivial, trivial, trivial⟩)
    { header := { seqno := ⟨1⟩ }, payload := [7, 8, 9] } [] (by decide +kernel) ⟨4⟩ 9
    (by decide +kernel)).1 (by decide +kernel)

/-- The acknowledgment of the first of the three bytes does not restart the timer. -/
theorem partial_ack_keeps_timer :
    Reachable apply anything (TCPSender.new 16 1000 (some ⟨0⟩) ⟨0⟩)
        (waitingRun.foldl apply (TCPSender.new 16 1000 (some ⟨0⟩) ⟨0⟩)) ∧
      (waitingRun.foldl apply (TCPSender.new 16 1000 (some ⟨0⟩) ⟨0⟩)).outstandingSegments ≠ [] ∧
      (waitingRun.foldl apply (TCPSender.new 16 1000 (some ⟨0⟩) ⟨0⟩)).currentSeqno = 1 ∧
      unwrapAt ⟨2⟩ ⟨0⟩ (waitingRun.foldl apply (TCPSender.new 16 1000 (some ⟨0⟩) ⟨0⟩)).nextSeqno = 2 ∧
      ¬ TimerReset (waitingRun.foldl apply (TCPSender.new 16 1000 (some ⟨0⟩) ⟨0⟩))
        ((waitingRun.foldl apply (TCPSender.new 16 1000 (some ⟨0⟩) ⟨0⟩)).ackReceived ⟨2⟩ 9) := by
  refine ⟨reachable_run waitingRun ⟨trivial, trivial, trivial, trivial, trivial, trivial⟩,
    by decide +kernel, by decide +kernel, by decide +kernel, ?_⟩
  intro reset
  exact absurd reset.elapsed (by decide +kernel)

end Sponge.SenderRetransmission
