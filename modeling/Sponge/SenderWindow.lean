import Sponge.SenderTransmission

/-! How far a sender may run ahead of an acknowledgment. The estimate of the remaining window is an
unsigned difference kept in sixteen bits, so a window smaller than what is in flight wraps. -/

namespace Sponge.SenderWindow

open TCPSender Tiling TCPSegment SenderFill SenderQueue SenderTransmission Transition

def Refilling : Call → Prop
  | .write _ => True
  | .fillWindow => True
  | _ => False

/-- Every sequence number first sent by `ack_received(ackno, windowSize)`, or by writes and
`fill_window` calls after it, lies in the window that the acknowledgment advertises. -/
def WithinWindow (s : TCPSender) (ackno : WrappingInt32) (windowSize : UInt16) : Prop :=
  ∀ later : List Call, (∀ call ∈ later, Refilling call) →
    let sent := pushedRun s (.ackReceived ackno windowSize :: later)
    let limit := (s.ackReceived ackno windowSize).currentSeqno + max windowSize.toNat 1
    (∀ entry ∈ number lengthInSequenceSpace s.nextSeqno sent, ∀ seqno, entry.1 ≤ seqno →
      seqno < entry.1 + entry.2.lengthInSequenceSpace → seqno < limit) ∧
      (limit ≤ s.nextSeqno → sent = [])

def inFlightAfter (s : TCPSender) (ackno : WrappingInt32) : Nat :=
  s.nextSeqno - max s.currentSeqno (unwrapAt ackno s.isn s.nextSeqno)

/-- Nothing can ever be sent: the stream holds no bytes and no FIN waits. -/
def Mute (s : TCPSender) : Prop :=
  s.stream.capacity = 0 ∧ (s.stream.inputEnded = false ∨ s.fin = true)

/-- The advertised window covers what is in flight, or the wrapped difference is zero, or there is
nothing to send. -/
def Fitting (s : TCPSender) (ackno : WrappingInt32) (windowSize : UInt16) : Prop :=
  inFlightAfter s ackno ≤ max windowSize.toNat 1 ∨
    (inFlightAfter s ackno - max windowSize.toNat 1) % 2 ^ 16 = 0 ∨ Mute s

instance (s : TCPSender) (ackno : WrappingInt32) (windowSize : UInt16) :
    Decidable (Fitting s ackno windowSize) :=
  inferInstanceAs (Decidable (_ ∨ _ ∨ (_ ∧ (_ ∨ _))))

theorem estimatedWindow_covering {windowSize : UInt16} {inFlight : Nat}
    (covers : inFlight ≤ max windowSize.toNat 1) :
    (estimatedWindow windowSize inFlight).toNat = max windowSize.toNat 1 - inFlight := by
  have bound := windowSize.toNat_lt
  simp only [estimatedWindow, subSize, UInt16.toNat_ofNat']
  omega

theorem estimatedWindow_wrapped {windowSize : UInt16} {inFlight : Nat}
    (exceeds : max windowSize.toNat 1 < inFlight) :
    (estimatedWindow windowSize inFlight).toNat = 0 ↔
      (inFlight - max windowSize.toNat 1) % 2 ^ 16 = 0 := by
  simp only [estimatedWindow, subSize, UInt16.toNat_ofNat']
  omega

theorem run_built {filled : List TCPSegment} {s : TCPSender} (coherent : Coherent filled s)
    (calls : List Call) :
    ∀ entry ∈ number lengthInSequenceSpace s.nextSeqno (pushedRun s calls),
      0 < entry.2.lengthInSequenceSpace := by
  intro entry member
  have built := (run_coherent coherent calls).built
  rw [number_append, Nat.zero_add, coherent.space] at built
  exact (built entry (List.mem_append_right _ member)).nonempty

theorem run_nothing {filled : List TCPSegment} {s : TCPSender} (coherent : Coherent filled s)
    (calls : List Call) (nothing : span lengthInSequenceSpace (pushedRun s calls) = 0) :
    pushedRun s calls = [] := by
  have built := run_built coherent calls
  cases sent : pushedRun s calls with
  | nil => rfl
  | cons segment rest =>
      rw [sent] at built nothing
      have nonempty : 0 < segment.lengthInSequenceSpace := built _ List.mem_cons_self
      rw [span_cons] at nothing
      omega

theorem fillWindow_window {s : TCPSender} {sent : List TCPSegment} (fills : Fills s sent) :
    s.fillWindow.windowSize.toNat + span lengthInSequenceSpace sent = s.windowSize.toNat := by
  have bound := s.windowSize.toNat_lt
  have space := fills.space
  rw [fills.emits.windowSize, UInt16.toNat_sub, UInt16.toNat_ofNat']
  omega

theorem refilling_window {filled : List TCPSegment} {s : TCPSender} (coherent : Coherent filled s)
    (call : Call) (refilling : Refilling call) :
    (apply s call).windowSize.toNat + span lengthInSequenceSpace (pushed s call) =
      s.windowSize.toNat := by
  cases call with
  | write data => rfl
  | fillWindow =>
      obtain ⟨sent, fills⟩ := fillWindow_fills s coherent.synFits
      rw [pushed_fillWindow fills]
      exact fillWindow_window fills
  | endInput => exact refilling.elim
  | ackReceived ackno windowSize => exact refilling.elim
  | tick ms => exact refilling.elim
  | sendEmptySegment => exact refilling.elim

theorem refilling_run_window {filled : List TCPSegment} {s : TCPSender}
    (coherent : Coherent filled s) (calls : List Call) (refilling : ∀ call ∈ calls, Refilling call) :
    (calls.foldl apply s).windowSize.toNat + span lengthInSequenceSpace (pushedRun s calls) =
      s.windowSize.toNat := by
  induction calls generalizing s filled with
  | nil => rfl
  | cons call calls ih =>
      have head := refilling_window coherent call (refilling call List.mem_cons_self)
      have rest := ih (apply_coherent coherent call)
        (fun other member => refilling other (List.mem_cons_of_mem call member))
      rw [pushedRun, span_append, List.foldl_cons]
      omega

section Acknowledged

variable {filled : List TCPSegment} {s : TCPSender} (coherent : Coherent filled s)
  {ackno : WrappingInt32} (windowSize : UInt16)
  (accepted : unwrapAt ackno s.isn s.nextSeqno ≤ s.nextSeqno)

include coherent accepted

theorem ackReceived_currentSeqno :
    (s.ackReceived ackno windowSize).currentSeqno =
      max s.currentSeqno (unwrapAt ackno s.isn s.nextSeqno) := by
  obtain ⟨sent, acknowledged⟩ := ackReceived_acknowledged coherent ackno windowSize
  rw [acknowledged.currentSeqno_eq, if_pos accepted]

theorem ackReceived_window :
    (s.ackReceived ackno windowSize).windowSize.toNat +
        span lengthInSequenceSpace (pushed s (.ackReceived ackno windowSize)) =
      (estimatedWindow windowSize (inFlightAfter s ackno)).toNat := by
  obtain ⟨sent, acknowledged⟩ := ackReceived_acknowledged coherent ackno windowSize
  rw [pushed_ackReceived acknowledged]
  generalize s.ackReceived ackno windowSize = after at acknowledged ⊢
  cases acknowledged with
  | refused beyond => omega
  | untimed => rfl
  | refilled _ pops _ fills =>
      rw [(stopIdleTimer_steady _).windowSize, fillWindow_window fills, pops,
        (popAcked_steady _ _).windowSize]
      rfl

theorem acknowledged_run_window (later : List Call) (refilling : ∀ call ∈ later, Refilling call) :
    span lengthInSequenceSpace (pushedRun s (.ackReceived ackno windowSize :: later)) ≤
      (estimatedWindow windowSize (inFlightAfter s ackno)).toNat := by
  have first := ackReceived_window coherent windowSize accepted
  have rest := refilling_run_window (apply_coherent coherent (.ackReceived ackno windowSize)) later
    refilling
  rw [pushedRun, span_append]
  simp only [apply] at first rest ⊢
  omega

end Acknowledged

theorem mute_drained {filled : List TCPSegment} {s : TCPSender} (coherent : Coherent filled s)
    (mute : Mute s) : s.stream.buffer = [] := by
  have bounded := coherent.sound.bounded
  rw [mute.1] at bounded
  exact List.eq_nil_of_length_eq_zero (Nat.le_zero.mp bounded)

theorem mute_run {filled : List TCPSegment} {s : TCPSender} (coherent : Coherent filled s)
    (mute : Mute s) (started : 0 < s.nextSeqno) (calls : List Call)
    (running : ∀ call ∈ calls, call ≠ .endInput) : pushedRun s calls = [] := by
  induction calls generalizing s filled with
  | nil => rfl
  | cons call calls ih =>
      have later : ∀ other ∈ calls, other ≠ .endInput :=
        fun other member => running other (List.mem_cons_of_mem call member)
      cases fed : feeds call with
      | true =>
          cases call with
          | write data => exact ih (apply_coherent coherent _) mute started later
          | endInput => exact (running _ List.mem_cons_self rfl).elim
          | _ => cases fed
      | false =>
          have sends := apply_sends coherent call fed
          have nothing := sends.eq_nil (mute_drained coherent mute) started mute.2
          rw [nothing] at sends
          have muteAfter : Mute (apply s call) := by
            rw [Mute, sends.capacity, sends.inputEnded, sends.fin]
            simpa [Mute] using mute
          have startedAfter : 0 < (apply s call).nextSeqno := by
            rw [sends.nextSeqno]
            exact started
          rw [pushedRun, nothing, ih (apply_coherent coherent call) muteAfter startedAfter later]
          rfl

theorem fitting_within {filled : List TCPSegment} {s : TCPSender} (coherent : Coherent filled s)
    {ackno : WrappingInt32} {windowSize : UInt16}
    (accepted : unwrapAt ackno s.isn s.nextSeqno ≤ s.nextSeqno) (fitting : Fitting s ackno windowSize) :
    WithinWindow s ackno windowSize := by
  intro later refilling
  have spent := acknowledged_run_window coherent windowSize accepted later refilling
  have current := ackReceived_currentSeqno coherent windowSize accepted
  have currentLe := coherent.currentLe
  have inFlight : inFlightAfter s ackno =
      s.nextSeqno - max s.currentSeqno (unwrapAt ackno s.isn s.nextSeqno) := rfl
  by_cases covers : inFlightAfter s ackno ≤ max windowSize.toNat 1
  · rw [estimatedWindow_covering covers] at spent
    refine ⟨?_, ?_⟩
    · intro entry member seqno _ below
      have bounds := number_bounds lengthInSequenceSpace member
      omega
    · intro reached
      exact run_nothing coherent _ (by omega)
  · -- the window is exceeded: either the wrapped estimate is zero or nothing can be sent
    have silent : pushedRun s (.ackReceived ackno windowSize :: later) = [] := by
      rcases fitting with within | wrapped | mute
      · exact (covers within).elim
      · rw [← estimatedWindow_wrapped (Nat.lt_of_not_le covers)] at wrapped
        exact run_nothing coherent _ (by omega)
      · apply mute_run coherent mute (by omega)
        intro call member
        rintro rfl
        rcases List.mem_cons.mp member with now | after
        · cases now
        · exact refilling _ after
    refine ⟨?_, fun _ => silent⟩
    rw [silent]
    intro entry member
    cases member

theorem mute_of_unsent {s : TCPSender} (nothing : unsent (s.writeStream [0]) = 0) : Mute s := by
  simp only [unsent, writeStream, ByteStream.write_buffer, ByteStream.bufferSize,
    ByteStream.write_inputEnded, List.length_append, List.length_take, ByteStream.remainingCapacity,
    List.length_singleton] at nothing
  refine ⟨by omega, ?_⟩
  have noFin : (s.stream.inputEnded && !s.fin).toNat = 0 := by omega
  cases ended : s.stream.inputEnded with
  | false => exact .inl rfl
  | true =>
      right
      simpa [ended] using noFin

theorem within_fitting {filled : List TCPSegment} {s : TCPSender} (coherent : Coherent filled s)
    {ackno : WrappingInt32} {windowSize : UInt16}
    (accepted : unwrapAt ackno s.isn s.nextSeqno ≤ s.nextSeqno)
    (within : WithinWindow s ackno windowSize) : Fitting s ackno windowSize := by
  -- outside the window a writer gets a byte or a FIN sent, unless the estimate wraps to zero
  by_cases covers : inFlightAfter s ackno ≤ max windowSize.toNat 1
  · exact .inl covers
  right
  have exceeds := Nat.lt_of_not_le covers
  rw [← estimatedWindow_wrapped exceeds]
  by_cases zero : (estimatedWindow windowSize (inFlightAfter s ackno)).toNat = 0
  · exact .inl zero
  right
  have current := ackReceived_currentSeqno coherent windowSize accepted
  have inFlight : inFlightAfter s ackno =
      s.nextSeqno - max s.currentSeqno (unwrapAt ackno s.isn s.nextSeqno) := rfl
  -- one more byte is offered after the acknowledgment, and none of it leaves
  have quiet := (within [.write [0], .fillWindow] (by simp [Refilling])).2 (by omega)
  simp only [pushedRun, List.append_nil, List.append_eq_nil_iff] at quiet
  obtain ⟨nothingNow, _, nothingLater⟩ := quiet
  have window := ackReceived_window coherent windowSize accepted
  have sends := apply_sends coherent (.ackReceived ackno windowSize) rfl
  rw [nothingNow] at sends window
  have wrote := apply_coherent (apply_coherent coherent (.ackReceived ackno windowSize)) (.write [0])
  obtain ⟨sent, fills⟩ := fillWindow_fills _ wrote.synFits
  have nothing : sent = [] := (pushed_fillWindow fills).symm.trans nothingLater
  have room : ((s.ackReceived ackno windowSize).writeStream [0]).windowSize.toNat =
      (estimatedWindow windowSize (inFlightAfter s ackno)).toNat := window
  have waiting : unsent ((s.ackReceived ackno windowSize).writeStream [0]) = 0 := by
    have space := fills.space
    rw [nothing, span_nil] at space
    simp only [apply] at space
    omega
  have mute := mute_of_unsent waiting
  have fin : (s.ackReceived ackno windowSize).fin = s.fin := sends.fin.trans (Bool.or_false _)
  have capacity : (s.ackReceived ackno windowSize).stream.capacity = s.stream.capacity := sends.capacity
  have inputEnded : (s.ackReceived ackno windowSize).stream.inputEnded = s.stream.inputEnded :=
    sends.inputEnded
  rwa [Mute, capacity, inputEnded, fin] at mute

/-- In every reachable state an accepted acknowledgment keeps the sender within the advertised window,
whatever is written before the next one, exactly when it is fitting. -/
theorem within_window_iff_fitting {capacity : Nat} {retxTimeout : UInt16}
    {fixedIsn : Option WrappingInt32} {randomIsn : WrappingInt32} {s : TCPSender}
    (reached : Reachable apply anything (TCPSender.new capacity retxTimeout fixedIsn randomIsn) s)
    (ackno : WrappingInt32) (windowSize : UInt16)
    (accepted : unwrapAt ackno s.isn s.nextSeqno ≤ s.nextSeqno) :
    WithinWindow s ackno windowSize ↔ Fitting s ackno windowSize := by
  obtain ⟨filled, coherent⟩ := reached_coherent reached
  exact ⟨within_fitting coherent accepted, fitting_within coherent accepted⟩

def threeInFlight : TCPSender :=
  [Call.fillWindow, .ackReceived ⟨1⟩ 3, .write [7, 8, 9], .fillWindow].foldl apply
    (TCPSender.new 16 1000 (some ⟨0⟩) ⟨0⟩)

theorem threeInFlight_reachable :
    Reachable apply anything (TCPSender.new 16 1000 (some ⟨0⟩) ⟨0⟩) threeInFlight :=
  reachable_run _ ⟨trivial, trivial, trivial, trivial, trivial⟩

theorem covered_ack_within_window : WithinWindow threeInFlight ⟨2⟩ 2 :=
  (within_window_iff_fitting threeInFlight_reachable ⟨2⟩ 2 (by decide +kernel)).mpr
    (by decide +kernel)

/-- The window shrinks to one with three bytes in flight: the estimate wraps to 65534 and a fourth byte
is sent at sequence number 4, past the limit 2. -/
theorem shrunk_window_overrun :
    Reachable apply anything (TCPSender.new 16 1000 (some ⟨0⟩) ⟨0⟩) threeInFlight ∧
      unwrapAt ⟨1⟩ threeInFlight.isn threeInFlight.nextSeqno ≤ threeInFlight.nextSeqno ∧
      ¬ WithinWindow threeInFlight ⟨1⟩ 1 := by
  refine ⟨threeInFlight_reachable, by decide +kernel, ?_⟩
  intro within
  have silent := (within [.write [10], .fillWindow] (by simp [Refilling])).2 (by decide +kernel)
  revert silent
  decide +kernel

end Sponge.SenderWindow
