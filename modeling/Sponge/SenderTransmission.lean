import Sponge.SenderQueue
import Sponge.Transition

/-! What the first transmissions carry: over a run of a sender whose writer stops at `end_input`, they
cut the outgoing stream into consecutive pieces. -/

namespace Sponge.SenderTransmission

open TCPSender Tiling TCPSegment SenderFill SenderQueue Transition

/-- The segments of one call from `start` on, with a FIN on the last one at most. -/
def Ordered (isn : WrappingInt32) (start : Nat) (segments : List TCPSegment) : Prop :=
  ∀ entry ∈ number lengthInSequenceSpace start segments, Built isn entry.1 entry.2 ∧
    (entry.2.header.fin = true →
      entry.1 + entry.2.lengthInSequenceSpace = start + span lengthInSequenceSpace segments)

theorem sends_ordered {before after : TCPSender} {sent : List TCPSegment}
    (sends : Sends before after sent) : Ordered before.isn before.nextSeqno sent := by
  intro entry member
  refine ⟨sends.built entry member, ?_⟩
  intro fin
  rw [← sends.nextSeqno]
  exact (sends.final entry member fin).2.2.2

theorem ordered_tail {isn : WrappingInt32} {start : Nat} {segment : TCPSegment}
    {rest : List TCPSegment} (ordered : Ordered isn start (segment :: rest)) :
    Ordered isn (start + segment.lengthInSequenceSpace) rest := by
  intro entry member
  obtain ⟨built, last⟩ := ordered entry (List.mem_cons_of_mem _ member)
  refine ⟨built, ?_⟩
  intro fin
  have finish := last fin
  rw [span_cons] at finish
  omega

theorem ordered_fin {isn : WrappingInt32} {start : Nat} {segment : TCPSegment}
    {rest : List TCPSegment} (ordered : Ordered isn start (segment :: rest))
    (fin : segment.header.fin = true) : rest = [] := by
  have finish := (ordered (start, segment) List.mem_cons_self).2 fin
  rw [span_cons] at finish
  cases rest with
  | nil => rfl
  | cons next later =>
      have nonempty := ((ordered_tail ordered) _ List.mem_cons_self).1.nonempty
      simp only [span_cons] at finish nonempty
      omega

/-- `start` is where the byte after the first `read` ones goes. -/
def Aligned (start read : Nat) : Prop := (start = 0 ∧ read = 0) ∨ start = 1 + read

theorem aligned_payload {isn : WrappingInt32} {start read : Nat} {segment : TCPSegment}
    (aligned : Aligned start read) (built : Built isn start segment) :
    payloadSeqno start segment = 1 + read := by
  have syn := built.syn
  unfold payloadSeqno
  rcases aligned with ⟨rfl, rfl⟩ | rfl
  · rw [if_pos (syn.mpr rfl)]
  · rw [if_neg (by rw [syn]; omega), Nat.add_zero]

theorem aligned_next {isn : WrappingInt32} {start read : Nat} {segment : TCPSegment}
    (aligned : Aligned start read) (built : Built isn start segment) :
    start + segment.lengthInSequenceSpace =
      1 + (read + segment.payload.length) + segment.header.fin.toNat := by
  have position := aligned_payload aligned built
  unfold payloadSeqno at position
  unfold lengthInSequenceSpace
  cases segment.header.fin <;> simp <;> omega

theorem payload_positions {isn : WrappingInt32} {written rest : List Byte} {start read : Nat}
    (segments : List TCPSegment) (ordered : Ordered isn start segments)
    (aligned : Aligned start read)
    (buffer : written.drop read = segments.flatMap TCPSegment.payload ++ rest) :
    ∀ entry ∈ number lengthInSequenceSpace start segments,
      entry.2.payload <+: written.drop (payloadSeqno entry.1 entry.2 - 1) := by
  induction segments generalizing start read with
  | nil => intro entry member; cases member
  | cons segment later ih =>
      have built := (ordered (start, segment) List.mem_cons_self).1
      rw [List.flatMap_cons, List.append_assoc] at buffer
      intro entry member
      rcases List.mem_cons.mp member with same | after
      · subst same
        rw [aligned_payload aligned built, Nat.add_sub_cancel_left, buffer]
        exact List.prefix_append _ _
      · -- a segment follows, so this one has no FIN and the next byte goes right after it
        have unfinished : segment.header.fin = false := by
          rw [← Bool.not_eq_true]
          intro fin
          rw [ordered_fin ordered fin] at after
          cases after
        have next := aligned_next aligned built
        rw [unfinished] at next
        refine ih (ordered_tail ordered) (.inr next) ?_ entry after
        rw [← List.drop_drop, buffer, List.drop_left]

theorem ordered_span {isn : WrappingInt32} {start read : Nat} (segments : List TCPSegment)
    (ordered : Ordered isn start segments) (aligned : Aligned start read) (nonempty : segments ≠ []) :
    start + span lengthInSequenceSpace segments =
      1 + (read + (segments.flatMap TCPSegment.payload).length) +
        (segments.any (fun segment => segment.header.fin)).toNat := by
  induction segments generalizing start read with
  | nil => exact (nonempty rfl).elim
  | cons segment later ih =>
      have built := (ordered (start, segment) List.mem_cons_self).1
      have next := aligned_next aligned built
      rw [span_cons, List.flatMap_cons, List.length_append, List.any_cons]
      by_cases last : later = []
      · subst last
        simpa using next
      · have unfinished : segment.header.fin = false := by
          rw [← Bool.not_eq_true]
          exact fun fin => last (ordered_fin ordered fin)
        rw [unfinished] at next ⊢
        have whole := ih (ordered_tail ordered) (.inr next) last
        rw [Bool.false_or, ← Nat.add_assoc start, whole, ← Nat.add_assoc read]

/-- The next sequence number counts the SYN, the bytes read and the FIN. It does so even when bytes are
written after the end of the stream and follow the FIN. -/
structure Accounted (filled : List TCPSegment) (s : TCPSender) : Prop where
  unstarted : s.nextSeqno = 0 → s.stream.bytesRead = 0 ∧ s.fin = false
  started : 0 < s.nextSeqno → s.nextSeqno = 1 + s.stream.bytesRead + s.fin.toNat
  finSent : s.fin = filled.any (fun segment => segment.header.fin)

theorem new_accounted (capacity : Nat) (retxTimeout : UInt16) (fixedIsn : Option WrappingInt32)
    (randomIsn : WrappingInt32) :
    Accounted [] (TCPSender.new capacity retxTimeout fixedIsn randomIsn) where
  unstarted := fun _ => ⟨rfl, rfl⟩
  started := by intro nonempty; cases nonempty
  finSent := rfl

theorem accounted_frame {filled : List TCPSegment} {s after : TCPSender}
    (accounted : Accounted filled s) (nextSeqno : after.nextSeqno = s.nextSeqno)
    (bytesRead : after.stream.bytesRead = s.stream.bytesRead) (fin : after.fin = s.fin) :
    Accounted filled after := by
  refine ⟨?_, ?_, ?_⟩
  · rw [nextSeqno, bytesRead, fin]
    exact accounted.unstarted
  · rw [nextSeqno, bytesRead, fin]
    exact accounted.started
  · rw [fin]
    exact accounted.finSent

theorem sends_accounted {filled sent : List TCPSegment} {before after : TCPSender}
    (accounted : Accounted filled before) (sends : Sends before after sent) :
    Accounted (filled ++ sent) after := by
  have finSent : after.fin = (filled ++ sent).any (fun segment => segment.header.fin) := by
    rw [sends.fin, accounted.finSent, List.any_append]
  by_cases nothing : sent = []
  · subst nothing
    rw [List.append_nil] at finSent ⊢
    exact accounted_frame accounted sends.nextSeqno sends.bytesRead
      (finSent.trans accounted.finSent.symm)
  -- a FIN that has left takes one sequence number before the next byte
  have aligned : Aligned before.nextSeqno (before.stream.bytesRead + before.fin.toNat) := by
    rcases Nat.eq_zero_or_pos before.nextSeqno with zero | positive
    · obtain ⟨unread, unfinished⟩ := accounted.unstarted zero
      exact .inl ⟨zero, by rw [unread, unfinished]; rfl⟩
    · exact .inr (by rw [accounted.started positive, Nat.add_assoc])
  have onceOnly : sent.any (fun segment => segment.header.fin) = true → before.fin = false := by
    rw [List.any_eq_true]
    rintro ⟨segment, member, fin⟩
    obtain ⟨seqno, numbered⟩ := number_of_mem lengthInSequenceSpace before.nextSeqno member
    exact (sends.final _ numbered fin).2.1
  have flags : after.fin.toNat =
      before.fin.toNat + (sent.any (fun segment => segment.header.fin)).toNat := by
    rw [sends.fin]
    cases now : sent.any (fun segment => segment.header.fin) with
    | false => simp
    | true => rw [onceOnly now]; rfl
  have numbers : after.nextSeqno = 1 + after.stream.bytesRead + after.fin.toNat := by
    rw [sends.nextSeqno, ordered_span sent (sends_ordered sends) aligned nothing, sends.bytesRead, flags]
    omega
  exact ⟨fun zero => by omega, fun _ => numbers, finSent⟩

/-- The first transmissions `filled` carry the bytes `written`, as far as they have been read. -/
structure Carried (written : List Byte) (filled : List TCPSegment) (s : TCPSender) : Prop where
  length : written.length = s.stream.bytesWritten
  buffer : s.stream.buffer = written.drop s.stream.bytesRead
  unstarted : s.nextSeqno = 0 → s.stream.bytesRead = 0 ∧ s.fin = false
  started : 0 < s.nextSeqno → s.nextSeqno = 1 + s.stream.bytesRead + s.fin.toNat
  closed : s.fin = true → s.stream.inputEnded = true ∧ s.stream.buffer = []
  bytes : ∀ entry ∈ number lengthInSequenceSpace 0 filled,
    entry.2.payload <+: written.drop (payloadSeqno entry.1 entry.2 - 1)
  finEnd : ∀ entry ∈ number lengthInSequenceSpace 0 filled, entry.2.header.fin = true →
    entry.1 + entry.2.lengthInSequenceSpace = s.nextSeqno
  finSent : s.fin = filled.any (fun segment => segment.header.fin)

theorem new_carried (capacity : Nat) (retxTimeout : UInt16) (fixedIsn : Option WrappingInt32)
    (randomIsn : WrappingInt32) :
    Carried [] [] (TCPSender.new capacity retxTimeout fixedIsn randomIsn) where
  length := rfl
  buffer := rfl
  unstarted := fun _ => ⟨rfl, rfl⟩
  started := by intro nonempty; cases nonempty
  closed := by intro fin; cases fin
  bytes := by intro entry member; cases member
  finEnd := by intro entry member; cases member
  finSent := rfl

section Sending

variable {written : List Byte} {filled sent : List TCPSegment} {before after : TCPSender}
  (carried : Carried written filled before) (sends : Sends before after sent)

include carried sends

theorem sends_after_fin (fin : before.fin = true) : sent = [] := by
  have started : 0 < before.nextSeqno := by
    rw [Nat.pos_iff_ne_zero]
    intro zero
    rw [(carried.unstarted zero).2] at fin
    cases fin
  exact sends.eq_nil (carried.closed fin).2 started (.inr fin)

theorem sends_unfinished (nonempty : sent ≠ []) : before.fin = false := by
  rw [← Bool.not_eq_true]
  exact fun fin => nonempty (sends_after_fin carried sends fin)

theorem sends_aligned (nonempty : sent ≠ []) : Aligned before.nextSeqno before.stream.bytesRead := by
  rcases Nat.eq_zero_or_pos before.nextSeqno with zero | positive
  · exact .inl ⟨zero, (carried.unstarted zero).1⟩
  · have numbers := carried.started positive
    rw [sends_unfinished carried sends nonempty] at numbers
    exact .inr numbers

omit sends in
theorem Carried.accounted : Accounted filled before :=
  ⟨carried.unstarted, carried.started, carried.finSent⟩

omit sends in
theorem silent_carried (silent : Sends before after []) : Carried written filled after := by
  have nextSeqno : after.nextSeqno = before.nextSeqno := silent.nextSeqno
  have bytesRead : after.stream.bytesRead = before.stream.bytesRead := silent.bytesRead
  have buffer : after.stream.buffer = before.stream.buffer := silent.buffer.symm
  have fin : after.fin = before.fin := silent.fin.trans (Bool.or_false _)
  exact
    { length := by rw [silent.bytesWritten]; exact carried.length
      buffer := by rw [buffer, bytesRead]; exact carried.buffer
      unstarted := by rw [nextSeqno, bytesRead, fin]; exact carried.unstarted
      started := by rw [nextSeqno, bytesRead, fin]; exact carried.started
      closed := by rw [fin, silent.inputEnded, buffer]; exact carried.closed
      bytes := carried.bytes
      finEnd := by rw [nextSeqno]; exact carried.finEnd
      finSent := by rw [fin]; exact carried.finSent }

theorem sends_carried (space : span lengthInSequenceSpace filled = before.nextSeqno) :
    Carried written (filled ++ sent) after := by
  by_cases nothing : sent = []
  · subst nothing
    rw [List.append_nil]
    exact silent_carried carried sends
  have unfinished := sends_unfinished carried sends nothing
  have noFin : ∀ segment ∈ filled, segment.header.fin = false := by
    have never := carried.finSent
    rw [unfinished] at never
    simpa using never.symm
  have accounted := sends_accounted carried.accounted sends
  exact
    { length := by rw [sends.bytesWritten]; exact carried.length
      buffer := by
        rw [sends.bytesRead, ← List.drop_drop, ← carried.buffer, sends.buffer, List.drop_left]
      unstarted := accounted.unstarted
      started := accounted.started
      closed := by
        rw [sends.fin, unfinished, Bool.false_or, List.any_eq_true]
        rintro ⟨segment, member, fin⟩
        obtain ⟨seqno, numbered⟩ := number_of_mem lengthInSequenceSpace before.nextSeqno member
        obtain ⟨ended, _, drained, _⟩ := sends.final _ numbered fin
        exact ⟨sends.inputEnded.trans ended, drained⟩
      bytes := by
        intro entry member
        rw [number_append, Nat.zero_add, space, List.mem_append] at member
        rcases member with early | now
        · exact carried.bytes entry early
        · exact payload_positions sent (sends_ordered sends) (sends_aligned carried sends nothing)
            (carried.buffer.symm.trans sends.buffer) entry now
      finEnd := by
        intro entry member fin
        rw [number_append, Nat.zero_add, space, List.mem_append] at member
        rcases member with early | now
        · rw [noFin _ (mem_of_number lengthInSequenceSpace early)] at fin
          cases fin
        · exact (sends.final entry now fin).2.2.2
      finSent := accounted.finSent }

end Sending

theorem writeStream_kept {written : List Byte} {filled : List TCPSegment} {s : TCPSender}
    (carried : Carried written filled s) (sound : s.stream.Sound) (data : List Byte)
    (kept : s.fin = true → data = [] ∨ s.stream.remainingCapacity = 0) :
    Carried (written ++ data.take (s.stream.write data).1) filled (s.writeStream data) where
  length := by
    simp only [writeStream, List.length_append, List.length_take, ByteStream.write_fst,
      ByteStream.write_bytesWritten, carried.length]
    omega
  buffer := by
    have read : s.stream.bytesRead ≤ written.length := by
      rw [carried.length, sound.accounting]
      exact Nat.le_add_right _ _
    simp only [writeStream, ByteStream.write_buffer, ByteStream.write_bytesRead,
      ByteStream.write_fst]
    rw [List.drop_append_of_le_length read, ← carried.buffer, List.take_eq_take_min,
      Nat.min_comm]
  unstarted := carried.unstarted
  started := carried.started
  closed := by
    intro fin
    obtain ⟨ended, drained⟩ := carried.closed fin
    refine ⟨ended, ?_⟩
    rw [writeStream, ByteStream.write_buffer, drained, List.nil_append]
    rcases kept fin with rfl | full
    · exact List.take_nil
    · rw [full, List.take_zero]
  bytes := by
    intro entry member
    have inside := carried.bytes entry member
    rcases Nat.le_total (payloadSeqno entry.1 entry.2 - 1) written.length with short | long
    · rw [List.drop_append_of_le_length short]
      exact inside.trans (List.prefix_append _ _)
    · rw [List.drop_eq_nil_of_le long, List.prefix_nil] at inside
      rw [inside]
      exact List.nil_prefix
  finEnd := carried.finEnd
  finSent := carried.finSent

theorem endStream_carried {written : List Byte} {filled : List TCPSegment} {s : TCPSender}
    (carried : Carried written filled s) : Carried written filled s.endStream where
  length := carried.length
  buffer := carried.buffer
  unstarted := carried.unstarted
  started := carried.started
  closed := fun fin => ⟨rfl, (carried.closed fin).2⟩
  bytes := carried.bytes
  finEnd := carried.finEnd
  finSent := carried.finSent

inductive Call
  | write (data : List Byte)
  | endInput
  | fillWindow
  | ackReceived (ackno : WrappingInt32) (windowSize : UInt16)
  | tick (msSinceLastTick : UInt64)
  | sendEmptySegment
  deriving DecidableEq, Repr

def apply (s : TCPSender) : Call → TCPSender
  | .write data => s.writeStream data
  | .endInput => s.endStream
  | .fillWindow => s.fillWindow
  | .ackReceived ackno windowSize => s.ackReceived ackno windowSize
  | .tick ms => s.tick ms
  | .sendEmptySegment => s.sendEmptySegment

def feeds : Call → Bool
  | .write _ => true
  | .endInput => true
  | _ => false

def accepted (s : TCPSender) : Call → List Byte
  | .write data => data.take (s.stream.write data).1
  | _ => []

/-- The segments that `fill_window` pushes during a call. -/
def pushed (s : TCPSender) (call : Call) : List TCPSegment :=
  match call with
  | .fillWindow => (apply s call).segmentsOut.drop s.segmentsOut.length
  | .ackReceived _ _ => (apply s call).segmentsOut.drop s.segmentsOut.length
  | _ => []

theorem pushed_fillWindow {s : TCPSender} {sent : List TCPSegment} (fills : Fills s sent) :
    pushed s .fillWindow = sent := by
  rw [pushed, apply, fills.emits.segmentsOut, List.drop_left]

theorem pushed_ackReceived {filled sent : List TCPSegment} {s : TCPSender} {ackno : WrappingInt32}
    {windowSize : UInt16}
    (acknowledged : Acknowledged filled s ackno windowSize (s.ackReceived ackno windowSize) sent) :
    pushed s (.ackReceived ackno windowSize) = sent := by
  rw [pushed, apply, acknowledged.segmentsOut, List.drop_left]

structure Traced where
  sender : TCPSender
  written : List Byte
  filled : List TCPSegment
  deriving DecidableEq, Repr

def start (capacity : Nat) (retxTimeout : UInt16) (fixedIsn : Option WrappingInt32)
    (randomIsn : WrappingInt32) : Traced :=
  ⟨TCPSender.new capacity retxTimeout fixedIsn randomIsn, [], []⟩

def step (t : Traced) (call : Call) : Traced :=
  ⟨apply t.sender call, t.written ++ accepted t.sender call, t.filled ++ pushed t.sender call⟩

def WriterOpen (s : TCPSender) : Call → Prop
  | .write _ => s.stream.inputEnded = false
  | _ => True

instance (s : TCPSender) : (call : Call) → Decidable (WriterOpen s call)
  | .write _ => inferInstanceAs (Decidable (_ = _))
  | .endInput => .isTrue trivial
  | .fillWindow => .isTrue trivial
  | .ackReceived _ _ => .isTrue trivial
  | .tick _ => .isTrue trivial
  | .sendEmptySegment => .isTrue trivial

/-- No byte is accepted once the FIN has been sent. -/
def FinKept (s : TCPSender) : Call → Prop
  | .write data => s.fin = true → data = [] ∨ s.stream.remainingCapacity = 0
  | _ => True

theorem WriterOpen.finKept {written : List Byte} {filled : List TCPSegment} {s : TCPSender} {call : Call}
    (opened : WriterOpen s call) (carried : Carried written filled s) : FinKept s call := by
  cases call with
  | write data =>
      intro fin
      have closed : s.stream.inputEnded = false := opened
      rw [(carried.closed fin).1] at closed
      cases closed
  | _ => trivial

def Bare (segment : TCPSegment) : Prop :=
  segment.payload = [] ∧ segment.header.syn = false ∧ segment.header.fin = false ∧
    segment.header.rst = false ∧ segment.header.ack = false

structure Inv (t : Traced) : Prop where
  coherent : Coherent t.filled t.sender
  carried : Carried t.written t.filled t.sender
  copies : ∀ segment ∈ t.sender.segmentsOut, segment ∈ t.filled ∨ Bare segment

theorem apply_coherent {filled : List TCPSegment} {s : TCPSender} (coherent : Coherent filled s)
    (call : Call) : Coherent (filled ++ pushed s call) (apply s call) := by
  have sound := coherent.sound
  cases call with
  | write data =>
      simp only [pushed, List.append_nil]
      exact coherent_frame coherent rfl rfl rfl rfl rfl rfl (ByteStream.write_sound sound data)
  | endInput =>
      simp only [pushed, List.append_nil]
      exact coherent_frame coherent rfl rfl rfl rfl rfl rfl ⟨sound.accounting, sound.bounded⟩
  | fillWindow =>
      obtain ⟨sent, fills⟩ := fillWindow_fills s coherent.synFits
      rw [pushed_fillWindow fills]
      exact fillWindow_coherent coherent fills
  | ackReceived ackno windowSize =>
      obtain ⟨sent, acknowledged⟩ := ackReceived_acknowledged coherent ackno windowSize
      rw [pushed_ackReceived acknowledged]
      exact acknowledged.coherent coherent
  | tick ms =>
      simp only [pushed, List.append_nil]
      exact tick_coherent coherent ms
  | sendEmptySegment =>
      simp only [pushed, List.append_nil]
      exact coherent_frame coherent rfl rfl rfl rfl rfl rfl sound

theorem apply_sends {filled : List TCPSegment} {s : TCPSender} (coherent : Coherent filled s)
    (call : Call) (quiet : feeds call = false) : Sends s (apply s call) (pushed s call) := by
  cases call with
  | write data => cases quiet
  | endInput => cases quiet
  | fillWindow =>
      obtain ⟨sent, fills⟩ := fillWindow_fills s coherent.synFits
      rw [pushed_fillWindow fills]
      exact fillWindow_sends fills
  | ackReceived ackno windowSize =>
      obtain ⟨sent, acknowledged⟩ := ackReceived_acknowledged coherent ackno windowSize
      rw [pushed_ackReceived acknowledged]
      exact acknowledged.sends
  | tick ms => exact sends_nothing (tick_steady s ms).toSameStream
  | sendEmptySegment => exact sends_nothing ⟨rfl, rfl, rfl, rfl⟩

theorem apply_nextSeqno {filled : List TCPSegment} {s : TCPSender} (coherent : Coherent filled s)
    (call : Call) :
    (apply s call).nextSeqno = s.nextSeqno + span lengthInSequenceSpace (pushed s call) := by
  rw [← (apply_coherent coherent call).space, ← coherent.space, span_append]

theorem apply_currentSeqno {filled : List TCPSegment} {s : TCPSender} (coherent : Coherent filled s)
    (call : Call) : s.currentSeqno ≤ (apply s call).currentSeqno := by
  cases call with
  | write data => exact Nat.le_refl _
  | endInput => exact Nat.le_refl _
  | fillWindow =>
      obtain ⟨sent, fills⟩ := fillWindow_fills s coherent.synFits
      exact fills.emits.currentSeqno.ge
  | ackReceived ackno windowSize =>
      obtain ⟨sent, acknowledged⟩ := ackReceived_acknowledged coherent ackno windowSize
      rw [apply, acknowledged.currentSeqno_eq]
      split
      · exact Nat.le_max_left _ _
      · exact Nat.le_refl _
  | tick ms => exact (tick_steady s ms).currentSeqno.ge
  | sendEmptySegment => exact Nat.le_refl _

theorem apply_kept {written : List Byte} {filled : List TCPSegment} {s : TCPSender}
    (coherent : Coherent filled s) (carried : Carried written filled s) (call : Call)
    (kept : FinKept s call) :
    Carried (written ++ accepted s call) (filled ++ pushed s call) (apply s call) := by
  cases fed : feeds call with
  | false =>
      have nothing : accepted s call = [] := by
        cases call with
        | write data => cases fed
        | _ => rfl
      rw [nothing, List.append_nil]
      exact sends_carried carried (apply_sends coherent call fed) coherent.space
  | true =>
      cases call with
      | write data =>
          simp only [pushed, List.append_nil]
          exact writeStream_kept carried coherent.sound data kept
      | endInput =>
          simp only [accepted, pushed, List.append_nil]
          exact endStream_carried carried
      | _ => cases fed

theorem apply_carried {written : List Byte} {filled : List TCPSegment} {s : TCPSender}
    (coherent : Coherent filled s) (carried : Carried written filled s) (call : Call)
    (opened : WriterOpen s call) :
    Carried (written ++ accepted s call) (filled ++ pushed s call) (apply s call) :=
  apply_kept coherent carried call (opened.finKept carried)

theorem apply_accounted {filled : List TCPSegment} {s : TCPSender} (coherent : Coherent filled s)
    (accounted : Accounted filled s) (call : Call) :
    Accounted (filled ++ pushed s call) (apply s call) := by
  cases fed : feeds call with
  | false => exact sends_accounted accounted (apply_sends coherent call fed)
  | true =>
      cases call with
      | write data =>
          simp only [pushed, List.append_nil]
          exact accounted_frame accounted rfl rfl rfl
      | endInput =>
          simp only [pushed, List.append_nil]
          exact accounted_frame accounted rfl rfl rfl
      | _ => cases fed

def pushedRun (s : TCPSender) : List Call → List TCPSegment
  | [] => []
  | call :: calls => pushed s call ++ pushedRun (apply s call) calls

def acceptedRun (s : TCPSender) : List Call → List Byte
  | [] => []
  | call :: calls => accepted s call ++ acceptedRun (apply s call) calls

theorem run_coherent {filled : List TCPSegment} {s : TCPSender} (coherent : Coherent filled s)
    (calls : List Call) : Coherent (filled ++ pushedRun s calls) (calls.foldl apply s) := by
  induction calls generalizing s filled with
  | nil => simpa [pushedRun] using coherent
  | cons call calls ih =>
      rw [pushedRun, ← List.append_assoc]
      exact ih (apply_coherent coherent call)

theorem reached_coherent {capacity : Nat} {retxTimeout : UInt16} {fixedIsn : Option WrappingInt32}
    {randomIsn : WrappingInt32} {s : TCPSender}
    (reached : Reachable apply anything (TCPSender.new capacity retxTimeout fixedIsn randomIsn) s) :
    ∃ filled, Coherent filled s :=
  reachable_invariant (P := fun s => ∃ filled, Coherent filled s)
    ⟨[], new_coherent capacity retxTimeout fixedIsn randomIsn⟩
    (fun _ call ⟨_, coherent⟩ _ => ⟨_, apply_coherent coherent call⟩) reached

theorem run_kept {written : List Byte} {filled : List TCPSegment} {s : TCPSender}
    (coherent : Coherent filled s) (carried : Carried written filled s) (calls : List Call)
    (kept : AllowedRun apply FinKept s calls) :
    Carried (written ++ acceptedRun s calls) (filled ++ pushedRun s calls) (calls.foldl apply s) := by
  induction calls generalizing s written filled with
  | nil => simpa [acceptedRun, pushedRun] using carried
  | cons call calls ih =>
      rw [pushedRun, acceptedRun, ← List.append_assoc, ← List.append_assoc]
      exact ih (apply_coherent coherent call) (apply_kept coherent carried call kept.1) kept.2

theorem run_finKept {written : List Byte} {filled : List TCPSegment} {s : TCPSender}
    (coherent : Coherent filled s) (carried : Carried written filled s) (calls : List Call)
    (opened : AllowedRun apply WriterOpen s calls) : AllowedRun apply FinKept s calls := by
  induction calls generalizing s written filled with
  | nil => trivial
  | cons call calls ih =>
      exact ⟨opened.1.finKept carried,
        ih (apply_coherent coherent call) (apply_carried coherent carried call opened.1) opened.2⟩

theorem run_accounted {filled : List TCPSegment} {s : TCPSender} (coherent : Coherent filled s)
    (accounted : Accounted filled s) (calls : List Call) :
    Accounted (filled ++ pushedRun s calls) (calls.foldl apply s) := by
  induction calls generalizing s filled with
  | nil => simpa [pushedRun] using accounted
  | cons call calls ih =>
      rw [pushedRun, ← List.append_assoc]
      exact ih (apply_coherent coherent call) (apply_accounted coherent accounted call)

theorem apply_segmentsOut {filled : List TCPSegment} {s : TCPSender} (coherent : Coherent filled s)
    (call : Call) {segment : TCPSegment} (member : segment ∈ (apply s call).segmentsOut) :
    segment ∈ s.segmentsOut ∨ segment ∈ filled ++ pushed s call ∨ Bare segment := by
  cases call with
  | write data => exact .inl member
  | endInput => exact .inl member
  | fillWindow =>
      obtain ⟨sent, fills⟩ := fillWindow_fills s coherent.synFits
      rw [apply, fills.emits.segmentsOut] at member
      rw [pushed_fillWindow fills]
      exact (List.mem_append.mp member).imp_right fun now => .inl (List.mem_append_right _ now)
  | ackReceived ackno windowSize =>
      obtain ⟨sent, acknowledged⟩ := ackReceived_acknowledged coherent ackno windowSize
      rw [apply, acknowledged.segmentsOut] at member
      rw [pushed_ackReceived acknowledged]
      exact (List.mem_append.mp member).imp_right fun now => .inl (List.mem_append_right _ now)
  | tick ms =>
      obtain ⟨acked, whole⟩ := coherent.tail
      simp only [pushed, List.append_nil, whole]
      rcases tick_segmentsOut s ms with same | again
      · exact .inl (same ▸ member)
      · rw [apply, again, List.mem_append, Option.mem_toList] at member
        refine member.imp_right fun front => .inl ?_
        exact List.mem_append_right acked (List.mem_of_mem_head? front)
  | sendEmptySegment =>
      refine (List.mem_append.mp member).imp_right fun now => .inr ?_
      rw [List.mem_singleton.mp now]
      exact ⟨rfl, rfl, rfl, rfl, rfl⟩

theorem step_inv (t : Traced) (call : Call) (inv : Inv t) (guard : WriterOpen t.sender call) :
    Inv (step t call) where
  coherent := apply_coherent inv.coherent call
  carried := apply_carried inv.coherent inv.carried call guard
  copies := by
    intro segment member
    rcases apply_segmentsOut inv.coherent call member with old | sent | bare
    · exact (inv.copies segment old).imp_left (List.mem_append_left _)
    · exact .inl sent
    · exact .inr bare

theorem start_inv (capacity : Nat) (retxTimeout : UInt16) (fixedIsn : Option WrappingInt32)
    (randomIsn : WrappingInt32) : Inv (start capacity retxTimeout fixedIsn randomIsn) where
  coherent := new_coherent capacity retxTimeout fixedIsn randomIsn
  carried := new_carried capacity retxTimeout fixedIsn randomIsn
  copies := by intro segment member; cases member

structure Slice (t : Traced) (seqno : Nat) (segment : TCPSegment) : Prop where
  numbered : segment.header.seqno = wrap seqno t.sender.isn
  nonempty : 0 < segment.lengthInSequenceSpace
  bounded : segment.payload.length ≤ maxPayloadSize
  syn : segment.header.syn = true ↔ seqno = 0
  bytes : ∀ offset < segment.payload.length,
    segment.payload[offset]? = t.written[payloadSeqno seqno segment + offset - 1]?
  fin : segment.header.fin = true → seqno + segment.lengthInSequenceSpace = t.sender.nextSeqno ∧
    t.sender.stream.inputEnded = true ∧ t.sender.stream.bytesRead = t.written.length

/-- The pushed segments carry the stream exactly once, in order. -/
structure CarriesOnce (t : Traced) : Prop where
  tiles : span lengthInSequenceSpace t.filled = t.sender.nextSeqno
  slices : ∀ entry ∈ number lengthInSequenceSpace 0 t.filled, Slice t entry.1 entry.2
  oneFin : (t.filled.filter (fun segment => segment.header.fin)).length ≤ 1
  accounting : t.sender.nextSeqno =
    (t.filled.any (fun segment => segment.header.syn)).toNat + t.sender.stream.bytesRead +
      (t.filled.any (fun segment => segment.header.fin)).toNat
  copies : ∀ segment ∈ t.sender.segmentsOut, segment ∈ t.filled ∨ Bare segment

theorem one_fin (segments : List TCPSegment) (start : Nat)
    (nonempty : ∀ segment ∈ segments, 0 < segment.lengthInSequenceSpace)
    (last : ∀ entry ∈ number lengthInSequenceSpace start segments, entry.2.header.fin = true →
      entry.1 + entry.2.lengthInSequenceSpace = start + span lengthInSequenceSpace segments) :
    (segments.filter (fun segment => segment.header.fin)).length ≤ 1 := by
  -- a FIN is on the last segment only, so at most one segment has it
  induction segments generalizing start with
  | nil => exact Nat.zero_le _
  | cons segment later ih =>
      have rest := ih (start + segment.lengthInSequenceSpace)
        (fun other member => nonempty other (List.mem_cons_of_mem _ member))
        (by
          intro entry member fin
          rw [last entry (List.mem_cons_of_mem _ member) fin, span_cons, Nat.add_assoc])
      cases fin : segment.header.fin with
      | false => simpa [List.filter_cons, fin] using rest
      | true =>
          have finish := last (start, segment) List.mem_cons_self fin
          have last : later = [] := by
            cases later with
            | nil => rfl
            | cons next others =>
                have positive := nonempty next (by simp)
                simp only [span_cons] at finish
                omega
          simp [last, fin]

theorem inv_slice {t : Traced} (inv : Inv t) {seqno : Nat} {segment : TCPSegment}
    (member : (seqno, segment) ∈ number lengthInSequenceSpace 0 t.filled) : Slice t seqno segment := by
  have built := inv.coherent.built _ member
  refine ⟨?_, built.nonempty, built.bounded, built.syn, ?_, ?_⟩
  · have plain : segment.header = _ := built.unstamped
    rw [plain]
  · intro offset inside
    obtain ⟨rest, whole⟩ := inv.carried.bytes _ member
    have positive : 1 ≤ payloadSeqno seqno segment := by
      unfold payloadSeqno
      by_cases zero : seqno = 0
      · rw [if_pos (built.syn.mpr zero)]
        omega
      · omega
    calc segment.payload[offset]?
        = (segment.payload ++ rest)[offset]? := (List.getElem?_append_left inside).symm
      _ = (t.written.drop (payloadSeqno seqno segment - 1))[offset]? := by rw [whole]
      _ = t.written[payloadSeqno seqno segment + offset - 1]? := by
          rw [List.getElem?_drop]
          congr 1
          omega
  · intro fin
    have sent : t.sender.fin = true := by
      rw [inv.carried.finSent, List.any_eq_true]
      exact ⟨segment, mem_of_number lengthInSequenceSpace member, fin⟩
    obtain ⟨ended, drained⟩ := inv.carried.closed sent
    refine ⟨inv.carried.finEnd _ member fin, ended, ?_⟩
    rw [inv.carried.length, inv.coherent.sound.accounting, drained]
    rfl

theorem inv_accounting {t : Traced} (inv : Inv t) :
    t.sender.nextSeqno =
      (t.filled.any (fun segment => segment.header.syn)).toNat + t.sender.stream.bytesRead +
        (t.filled.any (fun segment => segment.header.fin)).toNat := by
  rw [← inv.carried.finSent]
  have space := inv.coherent.space
  cases filled : t.filled with
  | nil =>
      rw [filled] at space
      obtain ⟨unread, unfinished⟩ := inv.carried.unstarted space.symm
      rw [← space, unread, unfinished]
      rfl
  | cons first later =>
      have head : (0, first) ∈ number lengthInSequenceSpace 0 t.filled := by
        rw [filled]
        exact List.mem_cons_self
      have built := inv.coherent.built _ head
      have positive : 0 < t.sender.nextSeqno := by
        have nonempty : 0 < first.lengthInSequenceSpace := built.nonempty
        rw [filled, span_cons] at space
        omega
      rw [List.any_cons, built.syn.mpr rfl, Bool.true_or, inv.carried.started positive]
      rfl

/-- Over every run of a sender whose writer stops at `end_input`, with arbitrary acknowledgments and
ticks, the segments that `fill_window` pushes carry the stream exactly once and in order. -/
theorem first_transmissions_carry_once {capacity : Nat} {retxTimeout : UInt16}
    {fixedIsn : Option WrappingInt32} {randomIsn : WrappingInt32} {t : Traced}
    (reached : Reachable step (fun t => WriterOpen t.sender)
      (start capacity retxTimeout fixedIsn randomIsn) t) : CarriesOnce t := by
  have inv : Inv t :=
    reachable_invariant (start_inv capacity retxTimeout fixedIsn randomIsn) step_inv reached
  refine ⟨inv.coherent.space, fun entry member => inv_slice inv member, ?_, inv_accounting inv,
    inv.copies⟩
  apply one_fin t.filled 0
  · intro segment member
    obtain ⟨seqno, numbered⟩ := number_of_mem lengthInSequenceSpace 0 member
    exact (inv.coherent.built _ numbered).nonempty
  · intro entry member fin
    rw [Nat.zero_add, inv.coherent.space]
    exact inv.carried.finEnd entry member fin

def shortRun : List Call :=
  [.fillWindow, .write [7, 8, 9], .ackReceived ⟨1⟩ 2, .ackReceived ⟨900⟩ 5, .tick 1000, .endInput,
    .sendEmptySegment, .ackReceived ⟨3⟩ 4]

theorem short_run_carries_once :
    CarriesOnce (shortRun.foldl step (start 16 1000 (some ⟨0⟩) ⟨0⟩)) ∧
      (shortRun.foldl step (start 16 1000 (some ⟨0⟩) ⟨0⟩)).sender.nextSeqno = 5 ∧
      (shortRun.foldl step (start 16 1000 (some ⟨0⟩) ⟨0⟩)).sender.segmentsOut.length = 5 :=
  ⟨first_transmissions_carry_once (reachable_run shortRun (by decide +kernel)),
    by decide +kernel, by decide +kernel⟩

end Sponge.SenderTransmission
