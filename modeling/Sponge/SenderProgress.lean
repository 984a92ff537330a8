import Sponge.SenderWindow

/-! Why a sender does not stall: its oldest outstanding segment holds the first unacknowledged sequence
number, and a sender with nothing outstanding has an open window and nothing left to send. -/

namespace Sponge.SenderProgress

open TCPSender Tiling TCPSegment SenderFill SenderQueue SenderTransmission SenderWindow

/-- The front of the queue is partly unacknowledged; an empty queue means all is acknowledged. -/
structure Acked (s : TCPSender) : Prop where
  drained : s.outstandingSegments = [] → s.currentSeqno = s.nextSeqno
  front : ∀ segment rest, s.outstandingSegments = segment :: rest →
    s.nextSeqno ≤ s.currentSeqno + (segment.lengthInSequenceSpace + span lengthInSequenceSpace rest) ∧
      s.currentSeqno + span lengthInSequenceSpace rest < s.nextSeqno

theorem acked_frame {s after : TCPSender} (acked : Acked s)
    (outstanding : after.outstandingSegments = s.outstandingSegments)
    (currentSeqno : after.currentSeqno = s.currentSeqno) (nextSeqno : after.nextSeqno = s.nextSeqno) :
    Acked after := by
  refine ⟨?_, ?_⟩
  · rw [outstanding, currentSeqno, nextSeqno]
    exact acked.drained
  · rw [outstanding, currentSeqno, nextSeqno]
    exact acked.front

theorem popAcked_acked (queue : List TCPSegment) (s : TCPSender) (first : Nat)
    (space : first + span lengthInSequenceSpace queue = s.nextSeqno)
    (numbered : ∀ entry ∈ number lengthInSequenceSpace first queue,
      entry.2.header.seqno = wrap entry.1 s.isn)
    (behind : first ≤ s.currentSeqno) (currentLe : s.currentSeqno ≤ s.nextSeqno)
    (small : span lengthInSequenceSpace queue < 2 ^ 31) : Acked (s.popAcked queue) := by
  induction queue generalizing s first with
  | nil =>
      refine ⟨?_, fun _ _ queue => (List.cons_ne_nil _ _ queue.symm).elim⟩
      intro _
      rw [span_nil] at space
      simp only [popAcked]
      omega
  | cons segment rest ih =>
      rw [span_cons] at space small
      have start : unwrapAt segment.header.seqno s.isn s.nextSeqno = first := by
        rw [numbered (first, segment) List.mem_cons_self]
        exact unwrapAt_wrap first s.isn s.nextSeqno (by omega) (by omega)
      rw [popAcked, start]
      split
      case isTrue holds =>
        refine ⟨fun nothing => (List.cons_ne_nil _ _ nothing).elim, ?_⟩
        intro head tail same
        cases same
        simp only
        omega
      case isFalse covered =>
        refine ih _ (first + segment.lengthInSequenceSpace) ?_ ?_ ?_ ?_ ?_
        · simp only
          omega
        · intro entry member
          exact numbered entry (List.mem_cons_of_mem _ member)
        · simp only
          omega
        · exact currentLe
        · omega

theorem outstanding_numbered {filled : List TCPSegment} {s : TCPSender} (coherent : Coherent filled s) :
    ∃ first, first + span lengthInSequenceSpace s.outstandingSegments = s.nextSeqno ∧
      ∀ entry ∈ number lengthInSequenceSpace first s.outstandingSegments,
        Built s.isn entry.1 entry.2 := by
  obtain ⟨acked, whole⟩ := coherent.tail
  have space := coherent.space
  have built := coherent.built
  rw [whole, span_append] at space
  rw [whole, number_append, Nat.zero_add] at built
  exact ⟨span lengthInSequenceSpace acked, space,
    fun entry member => built entry (List.mem_append_right _ member)⟩

theorem outstanding_small {filled : List TCPSegment} {s : TCPSender} (coherent : Coherent filled s)
    (acked : Acked s) (bound : s.bytesInFlight < 2 ^ 30) :
    span lengthInSequenceSpace s.outstandingSegments < 2 ^ 31 := by
  obtain ⟨first, _, built⟩ := outstanding_numbered coherent
  cases queue : s.outstandingSegments with
  | nil => simp
  | cons segment rest =>
      have holds := (acked.front segment rest queue).2
      have payload : segment.payload.length ≤ 1000 := by
        rw [queue] at built
        exact (built (first, segment) List.mem_cons_self).bounded
      have length : segment.lengthInSequenceSpace ≤ 1002 := by
        unfold lengthInSequenceSpace
        split <;> split <;> omega
      rw [span_cons]
      unfold bytesInFlight at bound
      omega

theorem noteAck_popAcked_acked {filled : List TCPSegment} {s : TCPSender}
    (coherent : Coherent filled s) (acked : Acked s) (bound : s.bytesInFlight < 2 ^ 30)
    (absoluteAckno : Nat) (windowSize : UInt16) (acceptable : absoluteAckno ≤ s.nextSeqno) :
    Acked ((s.noteAck absoluteAckno windowSize).popAcked s.outstandingSegments) := by
  obtain ⟨first, space, built⟩ := outstanding_numbered coherent
  have behind : first ≤ s.currentSeqno := by
    cases queue : s.outstandingSegments with
    | nil =>
        have all := acked.drained queue
        rw [queue, span_nil] at space
        omega
    | cons segment rest =>
        have reach := (acked.front segment rest queue).1
        rw [queue, span_cons] at space
        omega
  refine popAcked_acked s.outstandingSegments _ first space ?_ ?_ ?_
    (outstanding_small coherent acked bound)
  · intro entry member
    have plain : entry.2.header = _ := (built entry member).unstamped
    rw [plain]
    rfl
  · exact behind.trans (Nat.le_max_left _ _)
  · exact Nat.max_le.mpr ⟨coherent.currentLe, acceptable⟩

theorem fillWindow_acked {s : TCPSender} {sent : List TCPSegment} (acked : Acked s)
    (fills : Fills s sent) : Acked s.fillWindow := by
  have current := fills.emits.currentSeqno
  have next := fills.emits.nextSeqno
  have outstanding := fills.emits.outstanding
  cases queue : s.outstandingSegments with
  | nil =>
      have all := acked.drained queue
      rw [queue, List.nil_append] at outstanding
      refine ⟨?_, ?_⟩
      · intro nothing
        rw [outstanding] at nothing
        rw [current, next, nothing, span_nil]
        exact all
      · intro segment rest queue
        rw [outstanding] at queue
        rw [queue] at fills
        have nonempty : 0 < segment.lengthInSequenceSpace :=
          (fills.each (s.nextSeqno, segment) List.mem_cons_self).1
        rw [current, next, queue, span_cons]
        omega
  | cons front rest =>
      obtain ⟨reach, holds⟩ := acked.front front rest queue
      rw [queue] at outstanding
      refine ⟨?_, ?_⟩
      · intro nothing
        rw [outstanding] at nothing
        cases nothing
      · intro segment later queue
        rw [outstanding, List.cons_append, List.cons.injEq] at queue
        obtain ⟨rfl, rfl⟩ := queue
        rw [current, next, span_append]
        omega

def Open (s : TCPSender) : Prop := s.outstandingSegments = [] → 1 ≤ s.windowSize.toNat

/-- A sender with nothing outstanding has sent all it was given and has an open window. -/
def NoStall (s : TCPSender) : Prop :=
  s.outstandingSegments = [] →
    s.stream.buffer = [] ∧ (s.stream.inputEnded = true → s.fin = true) ∧ 1 ≤ s.windowSize.toNat

theorem noStall_open {s : TCPSender} (noStall : NoStall s) : Open s :=
  fun nothing => (noStall nothing).2.2

theorem fillWindow_noStall {s : TCPSender} {sent : List TCPSegment} (isOpen : Open s)
    (fills : Fills s sent) : NoStall s.fillWindow := by
  intro drained
  rw [fills.emits.outstanding, List.append_eq_nil_iff] at drained
  obtain ⟨before, nothing⟩ := drained
  have room := isOpen before
  have space := fills.space
  have buffer := fills.emits.buffer
  have fin := fills.emits.fin
  have window := fills.emits.windowSize
  subst nothing
  rw [span_nil] at space window
  have waiting : unsent s = 0 := by omega
  simp only [unsent] at waiting
  have empty : s.stream.buffer = [] := List.eq_nil_of_length_eq_zero (by omega)
  have noFin : (s.stream.inputEnded && !s.fin).toNat = 0 := by omega
  refine ⟨?_, ?_, ?_⟩
  · rw [← empty, buffer]
    rfl
  · intro ended
    rw [fills.emits.inputEnded] at ended
    rw [fin]
    simpa [ended] using noFin
  · rw [window]
    simpa using room

structure Live (s : TCPSender) : Prop where
  acked : Acked s
  idle : Idle s
  isOpen : Open s

theorem new_live (capacity : Nat) (retxTimeout : UInt16) (fixedIsn : Option WrappingInt32)
    (randomIsn : WrappingInt32) : Live (TCPSender.new capacity retxTimeout fixedIsn randomIsn) where
  acked := ⟨fun _ => rfl, fun _ _ queue => (List.cons_ne_nil _ _ queue.symm).elim⟩
  idle := fun on => (Bool.false_ne_true on).elim
  isOpen := fun _ => Nat.le_refl 1

theorem live_frame {s after : TCPSender} (live : Live s)
    (outstanding : after.outstandingSegments = s.outstandingSegments)
    (currentSeqno : after.currentSeqno = s.currentSeqno) (nextSeqno : after.nextSeqno = s.nextSeqno)
    (windowSize : after.windowSize = s.windowSize) (timer : after.isTimerOn = s.isTimerOn) :
    Live after where
  acked := acked_frame live.acked outstanding currentSeqno nextSeqno
  idle := by
    unfold Idle
    rw [timer, outstanding]
    exact live.idle
  isOpen := by
    unfold Open
    rw [outstanding, windowSize]
    exact live.isOpen

theorem noStall_frame {s after : TCPSender} (noStall : NoStall s)
    (outstanding : after.outstandingSegments = s.outstandingSegments)
    (stream : after.stream = s.stream) (fin : after.fin = s.fin)
    (windowSize : after.windowSize = s.windowSize) : NoStall after := by
  unfold NoStall
  rw [outstanding, stream, fin, windowSize]
  exact noStall

theorem fillWindow_live {s : TCPSender} {sent : List TCPSegment} (live : Live s)
    (fills : Fills s sent) : Live s.fillWindow where
  acked := fillWindow_acked live.acked fills
  idle := fillWindow_idle live.idle fills
  isOpen := noStall_open (fillWindow_noStall live.isOpen fills)

theorem stopIdleTimer_live {s : TCPSender} (acked : Acked s) (isOpen : Open s) :
    Live s.stopIdleTimer where
  acked := acked_frame acked (stopIdleTimer_outstanding s) (stopIdleTimer_steady s).currentSeqno
    (stopIdleTimer_steady s).nextSeqno
  idle := stopIdleTimer_idle s
  isOpen := by
    unfold Open
    rw [stopIdleTimer_outstanding, (stopIdleTimer_steady s).windowSize]
    exact isOpen

theorem stopIdleTimer_noStall {s : TCPSender} (noStall : NoStall s) : NoStall s.stopIdleTimer :=
  noStall_frame noStall (stopIdleTimer_outstanding s) (stopIdleTimer_steady s).stream
    (stopIdleTimer_steady s).fin (stopIdleTimer_steady s).windowSize

theorem noteAck_open {s : TCPSender} {absoluteAckno : Nat} (windowSize : UInt16)
    (caught : max s.currentSeqno absoluteAckno = s.nextSeqno) :
    1 ≤ (s.noteAck absoluteAckno windowSize).windowSize.toNat := by
  simp only [noteAck]
  rw [caught, Nat.sub_self]
  exact estimatedWindow_fresh windowSize

theorem ackReceived_live {filled : List TCPSegment} {s : TCPSender} (coherent : Coherent filled s)
    (live : Live s) (bound : s.bytesInFlight < 2 ^ 30) (ackno : WrappingInt32) (windowSize : UInt16) :
    Live (s.ackReceived ackno windowSize) ∧
      (NoStall s → NoStall (s.ackReceived ackno windowSize)) := by
  obtain ⟨sent, acknowledged⟩ := ackReceived_acknowledged coherent ackno windowSize
  generalize s.ackReceived ackno windowSize = after at acknowledged ⊢
  cases acknowledged with
  | refused =>
      exact ⟨stopIdleTimer_live live.acked live.isOpen, stopIdleTimer_noStall⟩
  | untimed acceptable off =>
      -- the timer is off, so nothing was outstanding
      have nothing : s.outstandingSegments = [] := by
        by_contra waits
        rw [coherent.busy waits] at off
        cases off
      have all := live.acked.drained nothing
      have caught : max s.currentSeqno (unwrapAt ackno s.isn s.nextSeqno) = s.nextSeqno := by omega
      have fresh := noteAck_open windowSize caught
      refine ⟨⟨⟨fun _ => caught, ?_⟩, live.idle, fun _ => fresh⟩, ?_⟩
      · intro segment rest queue
        exact (List.cons_ne_nil _ _ (queue.symm.trans nothing)).elim
      · intro noStall _
        exact ⟨(noStall nothing).1, (noStall nothing).2.1, fresh⟩
  | @refilled popped _ acceptable pops _ fills =>
      have acked := noteAck_popAcked_acked coherent live.acked bound _ windowSize acceptable
      have steady := popAcked_steady (s.noteAck (unwrapAt ackno s.isn s.nextSeqno) windowSize)
        s.outstandingSegments
      rw [← pops] at acked steady
      have isOpen : Open popped := by
        intro nothing
        have all := acked.drained nothing
        rw [steady.currentSeqno, steady.nextSeqno] at all
        rw [steady.windowSize]
        exact noteAck_open windowSize all
      have noStall := fillWindow_noStall isOpen fills
      exact ⟨stopIdleTimer_live (fillWindow_acked acked fills) (noStall_open noStall),
        fun _ => stopIdleTimer_noStall noStall⟩

def acknowledges : Call → Bool
  | .ackReceived _ _ => true
  | _ => false

theorem apply_live {filled : List TCPSegment} {s : TCPSender} (coherent : Coherent filled s)
    (live : Live s) (call : Call)
    (bound : acknowledges call = false ∨ s.bytesInFlight < 2 ^ 30) : Live (apply s call) := by
  cases call with
  | write data => exact live_frame live rfl rfl rfl rfl rfl
  | endInput => exact live_frame live rfl rfl rfl rfl rfl
  | fillWindow =>
      obtain ⟨sent, fills⟩ := fillWindow_fills s coherent.synFits
      exact fillWindow_live live fills
  | ackReceived ackno windowSize =>
      have inReach := bound.resolve_left (Bool.false_ne_true ∘ Eq.symm)
      exact (ackReceived_live coherent live inReach ackno windowSize).1
  | tick ms =>
      have steady := tick_steady s ms
      obtain ⟨outstanding, timer⟩ := tick_kept s ms
      exact live_frame live outstanding steady.currentSeqno steady.nextSeqno steady.windowSize timer
  | sendEmptySegment => exact live_frame live rfl rfl rfl rfl rfl

theorem apply_fillWindow_noStall {filled : List TCPSegment} {s : TCPSender}
    (coherent : Coherent filled s) (live : Live s) : NoStall (apply s .fillWindow) := by
  obtain ⟨sent, fills⟩ := fillWindow_fills s coherent.synFits
  exact fillWindow_noStall live.isOpen fills

end Sponge.SenderProgress
