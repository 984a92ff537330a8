import Sponge.SenderFill

/-! The retransmission queue: it is the tail of what has been sent, and the timer runs while it is
not empty. Nothing here depends on how many sequence numbers are in flight. -/

namespace Sponge.SenderQueue

open TCPSender Tiling TCPSegment SenderFill

structure Built (isn : WrappingInt32) (seqno : Nat) (segment : TCPSegment) : Prop where
  unstamped : Unstamped isn seqno segment
  nonempty : 0 < segment.lengthInSequenceSpace
  bounded : segment.payload.length ≤ 1000
  syn : segment.header.syn = true ↔ seqno = 0

/-- `filled` is everything `fill_window` has sent; the outstanding segments are its last ones. -/
structure Coherent (filled : List TCPSegment) (s : TCPSender) : Prop where
  space : span lengthInSequenceSpace filled = s.nextSeqno
  built : ∀ entry ∈ number lengthInSequenceSpace 0 filled, Built s.isn entry.1 entry.2
  tail : ∃ acked, filled = acked ++ s.outstandingSegments
  synFits : SynFits s
  currentLe : s.currentSeqno ≤ s.nextSeqno
  busy : s.outstandingSegments ≠ [] → s.isTimerOn = true
  sound : s.stream.Sound

def Idle (s : TCPSender) : Prop := s.isTimerOn = true → s.outstandingSegments ≠ []

theorem new_coherent (capacity : Nat) (retxTimeout : UInt16) (fixedIsn : Option WrappingInt32)
    (randomIsn : WrappingInt32) : Coherent [] (TCPSender.new capacity retxTimeout fixedIsn randomIsn) where
  space := rfl
  built := by intro entry member; cases member
  tail := ⟨[], rfl⟩
  synFits := by intro _; simp [TCPSender.new]
  currentLe := Nat.le_refl _
  busy := by intro nonempty; exact (nonempty rfl).elim
  sound := ByteStream.new_sound capacity

/-- The part of the sender that first transmissions change: `sent` continues the sequence numbers and
takes its payloads from the buffer, and a FIN is the last segment. -/
structure Sends (before after : TCPSender) (sent : List TCPSegment) : Prop where
  isn : after.isn = before.isn
  nextSeqno : after.nextSeqno = before.nextSeqno + span lengthInSequenceSpace sent
  buffer : before.stream.buffer = sent.flatMap TCPSegment.payload ++ after.stream.buffer
  bytesRead : after.stream.bytesRead =
    before.stream.bytesRead + (sent.flatMap TCPSegment.payload).length
  bytesWritten : after.stream.bytesWritten = before.stream.bytesWritten
  capacity : after.stream.capacity = before.stream.capacity
  inputEnded : after.stream.inputEnded = before.stream.inputEnded
  error : after.stream.error = before.stream.error
  fin : after.fin = (before.fin || sent.any (fun segment => segment.header.fin))
  built : ∀ entry ∈ number lengthInSequenceSpace before.nextSeqno sent,
    Built before.isn entry.1 entry.2
  final : ∀ entry ∈ number lengthInSequenceSpace before.nextSeqno sent,
    entry.2.header.fin = true → before.stream.inputEnded = true ∧ before.fin = false ∧
      after.stream.buffer = [] ∧ entry.1 + entry.2.lengthInSequenceSpace = after.nextSeqno

structure SameStream (before after : TCPSender) : Prop where
  isn : after.isn = before.isn
  nextSeqno : after.nextSeqno = before.nextSeqno
  stream : after.stream = before.stream
  fin : after.fin = before.fin

structure Steady (before after : TCPSender) : Prop extends SameStream before after where
  currentSeqno : after.currentSeqno = before.currentSeqno
  windowSize : after.windowSize = before.windowSize

theorem sends_nothing {before after : TCPSender} (same : SameStream before after) :
    Sends before after [] where
  isn := same.isn
  nextSeqno := same.nextSeqno
  buffer := by rw [same.stream]; rfl
  bytesRead := by rw [same.stream]; rfl
  bytesWritten := by rw [same.stream]
  capacity := by rw [same.stream]
  inputEnded := by rw [same.stream]
  error := by rw [same.stream]
  fin := by rw [same.fin]; simp
  built := by intro entry member; cases member
  final := by intro entry member; cases member

theorem fillWindow_sends {sent : List TCPSegment} {s : TCPSender} (fills : Fills s sent) :
    Sends s s.fillWindow sent where
  isn := fills.emits.isn
  nextSeqno := fills.emits.nextSeqno
  buffer := fills.emits.buffer
  bytesRead := fills.emits.bytesRead
  bytesWritten := fills.emits.bytesWritten
  capacity := fills.emits.capacity
  inputEnded := fills.emits.inputEnded
  error := fills.emits.error
  fin := fills.emits.fin
  built := by
    intro entry member
    obtain ⟨nonempty, bounded, syn⟩ := fills.each entry member
    exact ⟨fills.emits.unstamped entry member, nonempty, bounded, syn⟩
  final := by
    intro entry member fin
    obtain ⟨ended, unsentFin, drained, last⟩ := fills.final entry member fin
    exact ⟨ended, unsentFin, drained, last.trans fills.emits.nextSeqno.symm⟩

theorem Sends.reframe {before first last after : TCPSender} {sent : List TCPSegment}
    (sends : Sends first last sent) (start : SameStream before first) (finish : SameStream last after) :
    Sends before after sent where
  isn := by rw [finish.isn, sends.isn, start.isn]
  nextSeqno := by rw [finish.nextSeqno, sends.nextSeqno, start.nextSeqno]
  buffer := by rw [← start.stream, sends.buffer, finish.stream]
  bytesRead := by rw [finish.stream, sends.bytesRead, start.stream]
  bytesWritten := by rw [finish.stream, sends.bytesWritten, start.stream]
  capacity := by rw [finish.stream, sends.capacity, start.stream]
  inputEnded := by rw [finish.stream, sends.inputEnded, start.stream]
  error := by rw [finish.stream, sends.error, start.stream]
  fin := by rw [finish.fin, sends.fin, start.fin]
  built := by rw [← start.nextSeqno, ← start.isn]; exact sends.built
  final := by
    rw [← start.nextSeqno, ← start.stream, ← start.fin, finish.stream, finish.nextSeqno]
    exact sends.final

theorem Sends.eq_nil {before after : TCPSender} {sent : List TCPSegment}
    (sends : Sends before after sent) (drained : before.stream.buffer = [])
    (started : 0 < before.nextSeqno) (noFin : before.stream.inputEnded = false ∨ before.fin = true) :
    sent = [] := by
  cases sent with
  | nil => rfl
  | cons segment later =>
      have built := sends.built _ List.mem_cons_self
      have unfinished : segment.header.fin = false := by
        rw [← Bool.not_eq_true]
        intro flag
        obtain ⟨ended, unsentFin, _⟩ := sends.final _ List.mem_cons_self flag
        simp [ended, unsentFin] at noFin
      have noSyn : segment.header.syn = false := by
        rw [← Bool.not_eq_true, built.syn]
        exact Nat.ne_of_gt started
      have noPayload : segment.payload = [] := by
        have empty := sends.buffer
        rw [drained, List.flatMap_cons, List.append_assoc] at empty
        exact (List.append_eq_nil_iff.mp empty.symm).1
      have nonempty := built.nonempty
      simp [lengthInSequenceSpace, unfinished, noSyn, noPayload] at nonempty

theorem coherent_frame {filled : List TCPSegment} {s after : TCPSender} (coherent : Coherent filled s)
    (isn : after.isn = s.isn) (nextSeqno : after.nextSeqno = s.nextSeqno)
    (currentSeqno : after.currentSeqno = s.currentSeqno) (windowSize : after.windowSize = s.windowSize)
    (outstanding : after.outstandingSegments = s.outstandingSegments)
    (timer : after.isTimerOn = s.isTimerOn) (sound : after.stream.Sound) : Coherent filled after where
  space := by rw [nextSeqno]; exact coherent.space
  built := by rw [isn]; exact coherent.built
  tail := by rw [outstanding]; exact coherent.tail
  synFits := by
    unfold SynFits
    rw [nextSeqno, windowSize]
    exact coherent.synFits
  currentLe := by rw [currentSeqno, nextSeqno]; exact coherent.currentLe
  busy := by rw [outstanding, timer]; exact coherent.busy
  sound := sound

theorem fillWindow_coherent {filled sent : List TCPSegment} {s : TCPSender}
    (coherent : Coherent filled s) (fills : Fills s sent) : Coherent (filled ++ sent) s.fillWindow where
  space := by rw [span_append, coherent.space, fills.emits.nextSeqno]
  built := by
    rw [number_append, Nat.zero_add, coherent.space, fills.emits.isn]
    intro entry member
    rcases List.mem_append.mp member with earlier | now
    · exact coherent.built entry earlier
    · exact (fillWindow_sends fills).built entry now
  tail := by
    obtain ⟨acked, whole⟩ := coherent.tail
    exact ⟨acked, by rw [fills.emits.outstanding, whole, List.append_assoc]⟩
  synFits := by
    intro zero
    -- the SYN leaves with the first call, so a sender at zero has not filled its window
    rw [fills.emits.nextSeqno] at zero
    have start : s.nextSeqno = 0 := by omega
    have room := coherent.synFits start
    have space := fills.space
    simp only [unsent, start, beq_self_eq_true, Bool.toNat_true] at space
    omega
  currentLe := by
    rw [fills.emits.currentSeqno, fills.emits.nextSeqno]
    exact coherent.currentLe.trans (Nat.le_add_right _ _)
  busy := by
    rw [fills.emits.outstanding, fills.emits.timerOn]
    intro nonempty
    by_cases before : s.outstandingSegments = []
    · have nonempty : sent ≠ [] := by
        rintro rfl
        exact nonempty (by simp [before])
      simp [nonempty]
    · simp [coherent.busy before]
  sound := by
    have accounting := coherent.sound.accounting
    have bounded := coherent.sound.bounded
    have lengths := congrArg List.length fills.emits.buffer
    rw [List.length_append] at lengths
    refine ⟨?_, ?_⟩
    · rw [fills.emits.bytesWritten, fills.emits.bytesRead]
      omega
    · rw [fills.emits.capacity]
      omega

theorem fillWindow_idle {sent : List TCPSegment} {s : TCPSender} (idle : Idle s)
    (fills : Fills s sent) : Idle s.fillWindow := by
  intro on
  rw [fills.emits.outstanding]
  rw [fills.emits.timerOn, Bool.or_eq_true] at on
  rcases on with before | now
  · exact List.append_ne_nil_of_left_ne_nil (idle before) sent
  · apply List.append_ne_nil_of_right_ne_nil
    simpa using now

theorem estimatedWindow_fresh (windowSize : UInt16) :
    1 ≤ (estimatedWindow windowSize 0).toNat := by
  have bound := windowSize.toNat_lt
  have exactly : subSize (max windowSize.toNat 1) 0 = max windowSize.toNat 1 :=
    subSize_of_le (Nat.zero_le _) (by omega)
  simp only [estimatedWindow, exactly, UInt16.toNat_ofNat']
  omega

theorem noteAck_coherent {filled : List TCPSegment} {s : TCPSender} (coherent : Coherent filled s)
    (absoluteAckno : Nat) (windowSize : UInt16) (acceptable : absoluteAckno ≤ s.nextSeqno) :
    Coherent filled (s.noteAck absoluteAckno windowSize) where
  space := coherent.space
  built := coherent.built
  tail := coherent.tail
  synFits := by
    intro zero
    have start : s.nextSeqno = 0 := zero
    have nothing : s.nextSeqno - max s.currentSeqno absoluteAckno = 0 := by omega
    simp only [noteAck, nothing]
    exact estimatedWindow_fresh windowSize
  currentLe := Nat.max_le.mpr ⟨coherent.currentLe, acceptable⟩
  busy := coherent.busy
  sound := coherent.sound

theorem popAcked_steady (s : TCPSender) (queue : List TCPSegment) : Steady s (s.popAcked queue) := by
  induction queue generalizing s with
  | nil => exact ⟨⟨rfl, rfl, rfl, rfl⟩, rfl, rfl⟩
  | cons segment rest ih =>
      rw [popAcked]
      split
      · exact ⟨⟨rfl, rfl, rfl, rfl⟩, rfl, rfl⟩
      · exact ⟨⟨(ih _).isn, (ih _).nextSeqno, (ih _).stream, (ih _).fin⟩, (ih _).currentSeqno,
          (ih _).windowSize⟩

theorem popAcked_kept (s : TCPSender) (queue : List TCPSegment) :
    (s.popAcked queue).isTimerOn = s.isTimerOn ∧ (s.popAcked queue).segmentsOut = s.segmentsOut := by
  induction queue generalizing s with
  | nil => exact ⟨rfl, rfl⟩
  | cons segment rest ih =>
      rw [popAcked]
      split
      · exact ⟨rfl, rfl⟩
      · exact ih _

theorem popAcked_queue (s : TCPSender) (queue : List TCPSegment) :
    ∃ popped, queue = popped ++ (s.popAcked queue).outstandingSegments := by
  induction queue generalizing s with
  | nil => exact ⟨[], rfl⟩
  | cons segment rest ih =>
      rw [popAcked]
      split
      · exact ⟨[], rfl⟩
      · obtain ⟨popped, whole⟩ := ih _
        exact ⟨segment :: popped, congrArg (List.cons segment) whole⟩

theorem popAcked_coherent {filled : List TCPSegment} {s : TCPSender} (coherent : Coherent filled s)
    (on : s.isTimerOn = true) : Coherent filled (s.popAcked s.outstandingSegments) := by
  have steady := popAcked_steady s s.outstandingSegments
  obtain ⟨popped, queue⟩ := popAcked_queue s s.outstandingSegments
  obtain ⟨acked, whole⟩ := coherent.tail
  exact
    { space := by rw [steady.nextSeqno]; exact coherent.space
      built := by rw [steady.isn]; exact coherent.built
      tail := ⟨acked ++ popped, by rw [whole, List.append_assoc, ← queue]⟩
      synFits := by
        unfold SynFits
        rw [steady.nextSeqno, steady.windowSize]
        exact coherent.synFits
      currentLe := by rw [steady.currentSeqno, steady.nextSeqno]; exact coherent.currentLe
      busy := fun _ => (popAcked_kept s s.outstandingSegments).1.trans on
      sound := by rw [steady.stream]; exact coherent.sound }

theorem stopIdleTimer_coherent {filled : List TCPSegment} {s : TCPSender}
    (coherent : Coherent filled s) : Coherent filled s.stopIdleTimer := by
  unfold stopIdleTimer
  split
  case isTrue empty =>
    refine ⟨coherent.space, coherent.built, coherent.tail, coherent.synFits, coherent.currentLe,
      fun nonempty => (nonempty (List.isEmpty_iff.mp empty)).elim, coherent.sound⟩
  case isFalse => exact coherent

theorem stopIdleTimer_idle (s : TCPSender) : Idle s.stopIdleTimer := by
  unfold stopIdleTimer
  split
  case isTrue =>
    intro on
    cases on
  case isFalse nonempty =>
    intro _ empty
    exact nonempty (List.isEmpty_iff.mpr empty)

theorem stopIdleTimer_steady (s : TCPSender) : Steady s s.stopIdleTimer := by
  unfold stopIdleTimer
  split <;> exact ⟨⟨rfl, rfl, rfl, rfl⟩, rfl, rfl⟩

@[simp] theorem stopIdleTimer_outstanding (s : TCPSender) :
    s.stopIdleTimer.outstandingSegments = s.outstandingSegments := by
  unfold stopIdleTimer
  split <;> rfl

@[simp] theorem stopIdleTimer_segmentsOut (s : TCPSender) :
    s.stopIdleTimer.segmentsOut = s.segmentsOut := by
  unfold stopIdleTimer
  split <;> rfl

/-- What an acknowledgment does and sends: it is refused, it finds the timer off, or it pops what it
covers and fills the window. -/
inductive Acknowledged (filled : List TCPSegment) (s : TCPSender) (ackno : WrappingInt32)
    (windowSize : UInt16) : TCPSender → List TCPSegment → Prop
  | refused (beyond : s.nextSeqno < unwrapAt ackno s.isn s.nextSeqno) :
      Acknowledged filled s ackno windowSize s.stopIdleTimer []
  | untimed (acceptable : unwrapAt ackno s.isn s.nextSeqno ≤ s.nextSeqno)
      (off : s.isTimerOn = false) :
      Acknowledged filled s ackno windowSize
        (s.noteAck (unwrapAt ackno s.isn s.nextSeqno) windowSize) []
  | refilled {popped : TCPSender} {sent : List TCPSegment}
      (acceptable : unwrapAt ackno s.isn s.nextSeqno ≤ s.nextSeqno)
      (pops : popped = (s.noteAck (unwrapAt ackno s.isn s.nextSeqno) windowSize).popAcked
        s.outstandingSegments)
      (coherent : Coherent filled popped) (fills : Fills popped sent) :
      Acknowledged filled s ackno windowSize popped.fillWindow.stopIdleTimer sent

theorem ackReceived_acknowledged {filled : List TCPSegment} {s : TCPSender}
    (coherent : Coherent filled s) (ackno : WrappingInt32) (windowSize : UInt16) :
    ∃ sent, Acknowledged filled s ackno windowSize (s.ackReceived ackno windowSize) sent := by
  by_cases acceptable : unwrapAt ackno s.isn s.nextSeqno ≤ s.nextSeqno
  · cases timer : s.isTimerOn with
    | false =>
        rw [ackReceived_untimed acceptable timer]
        exact ⟨[], .untimed acceptable timer⟩
    | true =>
        have popped := popAcked_coherent (noteAck_coherent coherent _ windowSize acceptable) timer
        obtain ⟨sent, fills⟩ := fillWindow_fills _ popped.synFits
        rw [ackReceived_refilled acceptable timer]
        exact ⟨sent, .refilled acceptable rfl popped fills⟩
  · rw [ackReceived_refused acceptable]
    exact ⟨[], .refused (Nat.lt_of_not_le acceptable)⟩

section Acknowledged

variable {filled sent : List TCPSegment} {s after : TCPSender} {ackno : WrappingInt32}
  {windowSize : UInt16}

theorem Acknowledged.segmentsOut (acknowledged : Acknowledged filled s ackno windowSize after sent) :
    after.segmentsOut = s.segmentsOut ++ sent := by
  cases acknowledged with
  | refused => rw [stopIdleTimer_segmentsOut, List.append_nil]
  | untimed => simp [noteAck]
  | refilled _ pops _ fills =>
      rw [stopIdleTimer_segmentsOut, fills.emits.segmentsOut, pops, (popAcked_kept _ _).2]
      rfl

theorem Acknowledged.sends (acknowledged : Acknowledged filled s ackno windowSize after sent) :
    Sends s after sent := by
  cases acknowledged with
  | refused => exact sends_nothing (stopIdleTimer_steady s).toSameStream
  | untimed => exact sends_nothing ⟨rfl, rfl, rfl, rfl⟩
  | refilled _ pops _ fills =>
      have popped := popAcked_steady (s.noteAck (unwrapAt ackno s.isn s.nextSeqno) windowSize)
        s.outstandingSegments
      rw [← pops] at popped
      exact (fillWindow_sends fills).reframe
        ⟨popped.isn, popped.nextSeqno, popped.stream, popped.fin⟩
        (stopIdleTimer_steady _).toSameStream

theorem Acknowledged.coherent (acknowledged : Acknowledged filled s ackno windowSize after sent)
    (coherent : Coherent filled s) : Coherent (filled ++ sent) after := by
  cases acknowledged with
  | refused =>
      rw [List.append_nil]
      exact stopIdleTimer_coherent coherent
  | untimed acceptable =>
      rw [List.append_nil]
      exact noteAck_coherent coherent _ windowSize acceptable
  | refilled _ _ popped fills => exact stopIdleTimer_coherent (fillWindow_coherent popped fills)

theorem Acknowledged.currentSeqno_eq
    (acknowledged : Acknowledged filled s ackno windowSize after sent) :
    after.currentSeqno =
      if unwrapAt ackno s.isn s.nextSeqno ≤ s.nextSeqno
      then max s.currentSeqno (unwrapAt ackno s.isn s.nextSeqno) else s.currentSeqno := by
  cases acknowledged with
  | refused beyond =>
      rw [if_neg (Nat.not_le_of_lt beyond)]
      exact (stopIdleTimer_steady s).currentSeqno
  | untimed acceptable =>
      rw [if_pos acceptable]
      rfl
  | refilled acceptable pops _ fills =>
      rw [if_pos acceptable, (stopIdleTimer_steady _).currentSeqno, fills.emits.currentSeqno, pops,
        (popAcked_steady _ _).currentSeqno]
      rfl

end Acknowledged

theorem tick_segmentsOut (s : TCPSender) (ms : UInt64) :
    (s.tick ms).segmentsOut = s.segmentsOut ∨
      (s.tick ms).segmentsOut = s.segmentsOut ++ s.outstandingSegments.head?.toList := by
  unfold tick retransmit
  dsimp only
  split
  · exact .inl rfl
  · split
    · right
      split <;> rfl
    · exact .inl rfl

theorem tick_steady (s : TCPSender) (ms : UInt64) : Steady s (s.tick ms) := by
  unfold tick retransmit
  dsimp only
  split
  · exact ⟨⟨rfl, rfl, rfl, rfl⟩, rfl, rfl⟩
  · split
    · split <;> exact ⟨⟨rfl, rfl, rfl, rfl⟩, rfl, rfl⟩
    · exact ⟨⟨rfl, rfl, rfl, rfl⟩, rfl, rfl⟩

theorem tick_kept (s : TCPSender) (ms : UInt64) :
    (s.tick ms).outstandingSegments = s.outstandingSegments ∧
      (s.tick ms).isTimerOn = s.isTimerOn := by
  unfold tick retransmit
  dsimp only
  split
  · exact ⟨rfl, rfl⟩
  · split
    · split <;> exact ⟨rfl, rfl⟩
    · exact ⟨rfl, rfl⟩

theorem tick_coherent {filled : List TCPSegment} {s : TCPSender} (coherent : Coherent filled s)
    (ms : UInt64) : Coherent filled (s.tick ms) := by
  have steady := tick_steady s ms
  obtain ⟨outstanding, timer⟩ := tick_kept s ms
  exact coherent_frame coherent steady.isn steady.nextSeqno steady.currentSeqno steady.windowSize
    outstanding timer (by rw [steady.stream]; exact coherent.sound)

end Sponge.SenderQueue
