import Sponge.ConnectionProgress
import Sponge.NetworkRange
import Sponge.SenderRetransmission

/-! What an acknowledgment says to the side that receives it. A sender forgets a byte only when the peer has
written it to its inbound stream; a FIN that overtakes data costs one byte of that guarantee. -/

namespace Sponge.NetworkAcks

open Tiling Endpoint TCPSegment TCPReceiver SenderQueue SenderTransmission SenderProgress SenderRetransmission
  ConnectionRun ConnectionReplies ConnectionState ConnectionProgress Network Transition

/-- The highest number that a receiver may acknowledge: past the SYN, the bytes written and, once one has
arrived, a FIN. -/
def reach (r : TCPReceiver) : Nat :=
  if r.isSyn then 1 + r.firstUnassembled + r.isFin.toNat else 0

theorem reach_opened {r : TCPReceiver} (opened : r.isSyn = true) :
    reach r = 1 + r.firstUnassembled + r.isFin.toNat := by
  rw [reach, if_pos opened]

theorem reach_bound (r : TCPReceiver) : reach r ≤ 1 + r.firstUnassembled + r.isFin.toNat := by
  unfold reach
  split <;> omega

def acknowledged (r : TCPReceiver) : Nat :=
  1 + r.firstUnassembled + (if r.isFin && r.reassembler.empty then 1 else 0)

theorem acknowledged_reach {r : TCPReceiver} (opened : r.isSyn = true) : acknowledged r ≤ reach r := by
  rw [reach_opened opened, acknowledged]
  cases r.isFin with
  | false => exact le_rfl
  | true => split <;> simp

theorem segmentReceived_reach {r : TCPReceiver} (valid : r.reassembler.Valid) (segment : TCPSegment) :
    reach r ≤ reach (r.segmentReceived segment) := by
  by_cases opened : r.isSyn = true
  case neg =>
    rw [reach, if_neg opened]
    exact Nat.zero_le _
  case pos =>
    rw [reach_opened opened, reach_opened (segmentReceived_isSyn r segment opened),
      segmentReceived_accepted r segment (.inl opened)]
    have written := ReassemblerStream.pushSubstring_bytesWritten_le r.reassembler valid segment.payload
      ((r.noteSyn segment).streamIndex segment) segment.header.fin
    refine Nat.add_le_add (Nat.add_le_add_left written 1) ?_
    cases r.isFin with
    | false => exact Nat.zero_le _
    | true => exact le_rfl

theorem operate_reach {filled : List TCPSegment} {c : TCPConnection} (settled : Settled filled c)
    (valid : c.receiver.reassembler.Valid) (operation : Operation) :
    reach c.receiver ≤ reach (operate c operation).receiver :=
  (operate_outcome settled operation).heard.rule (P := fun r => reach c.receiver ≤ reach r) le_rfl
    (fun segment _ => segmentReceived_reach valid segment) (fun _ _ => le_rfl) (fun _ held => held)

def Confirms (isn : WrappingInt32) (r : TCPReceiver) (segment : TCPSegment) : Prop :=
  segment.header.ack = true → ∃ number ≤ reach r, segment.header.ackno = wrap number isn

theorem Confirms.later {isn : WrappingInt32} {r later : TCPReceiver} {segment : TCPSegment}
    (confirms : Confirms isn r segment) (rises : reach r ≤ reach later) : Confirms isn later segment := by
  intro ack
  obtain ⟨number, bound, same⟩ := confirms ack
  exact ⟨number, bound.trans rises, same⟩

theorem appended_ackno {filled : List TCPSegment} {source e : Endpoint} (settled : Settled filled e.conn)
    (operation : Operation)
    (hears : Hears source (e.operate operation).consumed (e.operate operation).conn.receiver)
    (opened : (e.operate operation).conn.receiver.isSyn = true) :
    ∀ segment ∈ appended e.conn operation, segment.header.ack = true ∧ segment.header.ackno =
      wrap (acknowledged (e.operate operation).conn.receiver) source.conn.sender.isn := by
  intro segment member
  have stamped := appended_stamped settled operation segment member
  have present : (e.operate operation).conn.receiver.ackno =
      some (wrap (acknowledged (e.operate operation).conn.receiver) source.conn.sender.isn) := by
    rw [← hears.known opened]
    exact ackno_some _ opened
  exact ⟨stamped.ack.trans (Option.isSome_iff_exists.mpr ⟨_, present⟩), stamped.ackno _ present⟩

theorem appended_confirms {filled : List TCPSegment} {source e : Endpoint} (settled : Settled filled e.conn)
    (operation : Operation)
    (hears : Hears source (e.operate operation).consumed (e.operate operation).conn.receiver) :
    ∀ segment ∈ appended e.conn operation,
      Confirms source.conn.sender.isn (e.operate operation).conn.receiver segment := by
  intro segment member ack
  have opened : (e.operate operation).conn.receiver.isSyn = true := by
    rw [← ackno_isSome]
    exact (appended_stamped settled operation segment member).ack.symm.trans ack
  exact ⟨_, acknowledged_reach opened, (appended_ackno settled operation hears opened segment member).2⟩

theorem answer_currentSeqno {filled : List TCPSegment} {s : TCPSender} (coherent : Coherent filled s)
    (segment : TCPSegment) {limit : Nat} (below : s.currentSeqno ≤ limit)
    (said : segment.header.ack = true → unwrapAt segment.header.ackno s.isn s.nextSeqno ≤ limit) :
    (apply s (answer segment)).currentSeqno ≤ limit := by
  unfold answer
  split
  case isTrue ack =>
    obtain ⟨sent, acknowledged⟩ := ackReceived_acknowledged coherent segment.header.ackno segment.header.win
    change (s.ackReceived segment.header.ackno segment.header.win).currentSeqno ≤ limit
    rw [acknowledged.currentSeqno_eq]
    split
    · exact Nat.max_le.mpr ⟨below, said ack⟩
    · exact below
  case isFalse =>
    obtain ⟨sent, fills⟩ := SenderFill.fillWindow_fills s coherent.synFits
    exact fills.emits.currentSeqno.le.trans below

theorem operate_currentSeqno {filled : List TCPSegment} {c : TCPConnection} (settled : Settled filled c)
    (operation : Operation) {limit : Nat} (below : c.sender.currentSeqno ≤ limit)
    (said : ∀ segment, operation = .segmentReceived segment → segment.header.ack = true →
      unwrapAt segment.header.ackno c.sender.isn c.sender.nextSeqno ≤ limit) :
    (operate c operation).sender.currentSeqno ≤ limit := by
  have filling : ∀ {s : TCPSender} {filled : List TCPSegment}, Coherent filled s →
      s.currentSeqno = c.sender.currentSeqno → s.fillWindow.currentSeqno ≤ limit := by
    intro s filled coherent same
    obtain ⟨sent, fills⟩ := SenderFill.fillWindow_fills s coherent.synFits
    rw [fills.emits.currentSeqno, same]
    exact below
  rw [(operate_outcome settled operation).sender]
  change ((senderCalls c operation).foldl apply c.sender).currentSeqno ≤ limit
  have shape := senderCalls_calls c operation
  generalize senderCalls c operation = calls at shape
  cases shape with
  | inactive => exact below
  | reset => exact below
  | readInbound => exact below
  | keepAlive => exact below
  | connect => exact filling settled.coherent rfl
  | write data => exact filling (apply_coherent settled.coherent (.write data)) rfl
  | endInputStream => exact filling (apply_coherent settled.coherent .endInput) rfl
  | tick ms => exact (tick_steady c.sender ms).currentSeqno.le.trans below
  | answered segment => exact answer_currentSeqno settled.coherent segment below (said segment rfl)
  | acknowledged segment => exact answer_currentSeqno settled.coherent segment below (said segment rfl)

/-- A copy of a segment, as far as the peer reads it. -/
structure Copies (sent segment : TCPSegment) : Prop extends SameData sent segment where
  ack : segment.header.ack = sent.header.ack
  ackno : segment.header.ackno = sent.header.ackno

theorem Copies.refl (segment : TCPSegment) : Copies segment segment := ⟨⟨rfl, rfl, rfl, rfl⟩, rfl, rfl⟩

structure AckInv (n : Pair) : Prop where
  inv : Inv n
  numbered : ∀ side, Numbered (n.get side)
  running : ∀ side, Running (n.get side).conn
  short : ∀ side, (n.get side).accepted.length + 3 < 2 ^ 30
  confirms : ∀ side, ∀ segment ∈ (n.get side).conn.segmentsOut,
    Confirms (n.get side.other).conn.sender.isn (n.get side).conn.receiver segment
  confirmed : ∀ side, (n.get side).conn.sender.currentSeqno ≤ reach (n.get side.other).conn.receiver

theorem start_ackInv (cfg : Side → TCPConfig) (randomIsn : Side → WrappingInt32) :
    AckInv (Network.start cfg randomIsn) where
  inv := start_inv cfg randomIsn
  numbered := by
    intro side
    cases side <;> exact new_numbered _ _
  running := by
    intro side
    cases side <;> exact new_running _ _
  short := by
    have room : 0 + 3 < 2 ^ 30 := by decide
    intro side
    cases side <;> exact room
  confirms := by
    intro side segment member
    cases side <;> cases member
  confirmed := by
    intro side
    cases side <;> exact Nat.zero_le _

theorem reach_le {source e : Endpoint} (hears : Hears source e.consumed e.conn.receiver) :
    reach e.conn.receiver ≤ source.accepted.length + 2 := by
  have written : e.conn.receiver.firstUnassembled ≤ source.accepted.length := bytesWritten_le hears
  have fin : e.conn.receiver.isFin.toNat ≤ 1 := Bool.toNat_le _
  unfold reach
  split <;> omega

theorem unwrapped_le {n : Pair} (ackInv : AckInv n) (side : Side) {segment : TCPSegment}
    (confirms : Confirms (n.get side).conn.sender.isn (n.get side.other).conn.receiver segment)
    (ack : segment.header.ack = true) :
    unwrapAt segment.header.ackno (n.get side).conn.sender.isn (n.get side).conn.sender.nextSeqno ≤
      reach (n.get side.other).conn.receiver := by
  obtain ⟨number, bound, same⟩ := confirms ack
  obtain ⟨filled, source⟩ := ackInv.inv.source side
  have hears := ackInv.inv.hears side.other
  rw [Side.other_other] at hears
  have next := nextSeqno_le source
  have top := reach_le hears
  have short := ackInv.short side
  rw [same, unwrapAt_wrap number _ _ (by omega) (by omega)]
  exact bound

theorem bounded_flight {n : Pair} (ackInv : AckInv n) (side : Side) (operation : Operation) :
    BoundedFlight (n.get side).conn operation := by
  obtain ⟨filled, source⟩ := ackInv.inv.source side
  have next := nextSeqno_le source
  have short := ackInv.short side
  simp only [BoundedFlight, TCPSender.bytesInFlight]
  omega

structure Acts (n : Pair) (side : Side) (operation : Operation) : Prop where
  open_ : NoLateWrite (n.get side).conn operation
  short : ((n.get side).operate operation).accepted.length + 3 < 2 ^ 30
  delivered : ∀ segment, operation = .segmentReceived segment →
    ∃ sent ∈ (n.get side.other).conn.segmentsOut, Copies sent segment

theorem operate_ackInv {n : Pair} (ackInv : AckInv n) {side : Side} {operation : Operation}
    (acts : Acts n side operation) : AckInv (n.set side ((n.get side).operate operation)) := by
  obtain ⟨filled, source⟩ := ackInv.inv.source side
  have hears := ackInv.inv.hears side
  have rises := operate_reach source.settled hears.valid operation
  have inv : Inv (n.set side ((n.get side).operate operation)) := by
    refine operate_inv ackInv.inv side operation acts.open_ ?_
    intro segment same
    obtain ⟨sent, member, copies⟩ := acts.delivered segment same
    obtain ⟨other, whole⟩ := ackInv.inv.source side.other
    have bound := ackInv.short side.other
    obtain ⟨seqno, piece, near, _⟩ :=
      copy_delivered whole (ackInv.numbered side.other) hears (by omega) member copies.toSameData
    exact ⟨seqno, piece, near⟩
  refine ⟨inv, ?_, ?_, ?_, ?_, ?_⟩
  · intro which
    rcases eq_or_other side which with rfl | rfl
    · rw [Pair.get_set_same]
      exact operate_numbered source.settled (ackInv.numbered which) operation
    · rw [Pair.get_set_other]
      exact ackInv.numbered side.other
  · intro which
    rcases eq_or_other side which with rfl | rfl
    · rw [Pair.get_set_same]
      exact operate_running _ operation (ackInv.running which) (bounded_flight ackInv which operation)
    · rw [Pair.get_set_other]
      exact ackInv.running side.other
  · intro which
    rcases eq_or_other side which with rfl | rfl
    · rw [Pair.get_set_same]
      exact acts.short
    · rw [Pair.get_set_other]
      exact ackInv.short side.other
  · intro which segment member
    rcases eq_or_other side which with rfl | rfl
    · have heard := inv.hears which
      rw [Pair.get_set_same] at member heard ⊢
      rw [Pair.get_set_other] at heard ⊢
      rw [Endpoint.operate, operate_segmentsOut source.settled, List.mem_append] at member
      rcases member with old | fresh
      · exact (ackInv.confirms which segment old).later rises
      · exact appended_confirms source.settled operation heard segment fresh
    · rw [Pair.get_set_other] at member ⊢
      have before := ackInv.confirms side.other segment member
      rw [Side.other_other] at before ⊢
      rw [Pair.get_set_same]
      have isn : ((n.get side).operate operation).conn.sender.isn = (n.get side).conn.sender.isn :=
        operate_isn source.settled operation
      rw [isn]
      exact before
  · intro which
    rcases eq_or_other side which with rfl | rfl
    · rw [Pair.get_set_same, Pair.get_set_other]
      refine operate_currentSeqno source.settled operation (ackInv.confirmed which) ?_
      intro segment same ack
      obtain ⟨sent, member, copies⟩ := acts.delivered segment same
      refine unwrapped_le ackInv which ?_ ack
      have confirms := ackInv.confirms which.other sent member
      rw [Side.other_other] at confirms
      unfold Confirms at confirms ⊢
      rw [copies.ack, copies.ackno]
      exact confirms
    · rw [Pair.get_set_other, Side.other_other, Pair.get_set_same]
      have before := ackInv.confirmed side.other
      rw [Side.other_other] at before
      exact before.trans rises

/-! ### What the sender still holds -/

theorem ordered_conveyed {isn : WrappingInt32} {written : List Byte} {start read : Nat}
    (segments : List TCPSegment) (ordered : Ordered isn start segments) (aligned : Aligned start read)
    (bytes : ∀ entry ∈ number lengthInSequenceSpace start segments,
      entry.2.payload <+: written.drop (payloadSeqno entry.1 entry.2 - 1)) :
    written.drop read = segments.flatMap payload ++
      written.drop (read + (segments.flatMap payload).length) := by
  induction segments generalizing start read with
  | nil => simp
  | cons segment later ih =>
      have first := (ordered (start, segment) List.mem_cons_self).1
      obtain ⟨rest, here⟩ := bytes (start, segment) List.mem_cons_self
      rw [aligned_payload aligned first, Nat.add_sub_cancel_left] at here
      have dropped : written.drop (read + segment.payload.length) = rest := by
        rw [← List.drop_drop, ← here, List.drop_left]
      have next := aligned_next aligned first
      cases fin : segment.header.fin with
      | true =>
          simp only [ordered_fin ordered fin, List.flatMap_cons, List.flatMap_nil, List.append_nil, dropped]
          exact here.symm
      | false =>
          rw [fin, Bool.toNat_false, Nat.add_zero] at next
          have tail := ih (ordered_tail ordered) (.inr next)
            (fun entry member => bytes entry (List.mem_cons_of_mem _ member))
          rw [List.flatMap_cons, List.length_append, ← Nat.add_assoc, List.append_assoc, ← tail, dropped]
          exact here.symm

theorem sent_conveyed {filled : List TCPSegment} {e : Endpoint} (source : Source filled e) :
    filled.flatMap payload = e.accepted.take e.conn.sender.stream.bytesRead := by
  have space := source.settled.coherent.space
  have ordered : Ordered e.conn.sender.isn 0 filled := by
    intro entry member
    refine ⟨source.settled.coherent.built entry member, ?_⟩
    rw [Nat.zero_add, space]
    exact source.carried.finEnd entry member
  have conveyed := ordered_conveyed filled ordered (.inl ⟨rfl, rfl⟩) source.carried.bytes
  have length : (filled.flatMap payload).length = e.conn.sender.stream.bytesRead := by
    by_cases nothing : filled = []
    · rw [nothing, span_nil] at space
      rw [nothing, (source.carried.unstarted space.symm).1]
      rfl
    · have total := ordered_span filled ordered (.inl ⟨rfl, rfl⟩) nothing
      rw [Nat.zero_add, Nat.zero_add, space, ← source.carried.finSent] at total
      have started := source.carried.started (by omega)
      omega
  rw [List.drop_zero, Nat.zero_add] at conveyed
  rw [conveyed, ← length, List.take_left]

theorem accepted_conveyed {filled : List TCPSegment} {e : Endpoint} (source : Source filled e) :
    e.accepted = filled.flatMap payload ++ e.conn.sender.stream.buffer := by
  rw [sent_conveyed source, source.carried.buffer, List.take_append_drop]

theorem acked_span {isn : WrappingInt32} {start : Nat} (segments : List TCPSegment)
    (built : ∀ entry ∈ number lengthInSequenceSpace start segments, Built isn entry.1 entry.2) :
    (segments.flatMap payload).length + (if start = 0 ∧ segments ≠ [] then 1 else 0) ≤
      span lengthInSequenceSpace segments := by
  induction segments generalizing start with
  | nil => simp
  | cons segment later ih =>
      have first : Built isn start segment := built (start, segment) List.mem_cons_self
      have rest := ih (fun entry member => built entry (List.mem_cons_of_mem _ member))
      have size : segment.payload.length + (if start = 0 then 1 else 0) ≤ segment.lengthInSequenceSpace := by
        simp only [lengthInSequenceSpace, first.syn]
        omega
      simp only [List.flatMap_cons, List.length_append, span_cons, ne_eq, reduceCtorEq, not_false_eq_true,
        and_true]
      omega

theorem unacknowledged_held {filled : List TCPSegment} {e : Endpoint} (source : Source filled e)
    (acked : Acked e.conn.sender) :
    e.accepted.drop (e.conn.sender.currentSeqno - 1) <:+
      e.conn.sender.outstandingSegments.flatMap payload ++ e.conn.sender.stream.buffer := by
  have coherent := source.settled.coherent
  obtain ⟨popped, whole⟩ := coherent.tail
  have covered := acked_reach acked
  have space := coherent.space
  rw [whole, span_append] at space
  have built : ∀ entry ∈ number lengthInSequenceSpace 0 popped, Built e.conn.sender.isn entry.1 entry.2 := by
    intro entry member
    refine coherent.built entry ?_
    rw [whole, number_append]
    exact List.mem_append_left _ member
  have size := acked_span popped built
  have behind : (popped.flatMap payload).length ≤ e.conn.sender.currentSeqno - 1 := by
    by_cases nothing : popped = []
    · rw [nothing]
      exact Nat.zero_le _
    · rw [if_pos ⟨rfl, nothing⟩] at size
      omega
  rw [accepted_conveyed source, whole, List.flatMap_append, List.append_assoc]
  obtain ⟨extra, more⟩ := Nat.exists_eq_add_of_le behind
  rw [more, ← List.drop_drop, List.drop_left]
  exact List.drop_suffix _ _

/-- No write after the end of the stream, and less than a gibibyte from either application; any segment may be
lost, repeated or delayed. -/
def Modest (n : Pair) : Event → Prop
  | .act side operation => Local operation ∧ NoLateWrite (n.get side).conn operation ∧
      ((n.get side).operate operation).accepted.length + 3 < 2 ^ 30
  | .deliver _ _ => True

instance (n : Pair) : (event : Event) → Decidable (Modest n event)
  | .act _ _ => inferInstanceAs (Decidable (_ ∧ _ ∧ _))
  | .deliver _ _ => .isTrue trivial

theorem modest_acts {n : Pair} {event : Event} (ackInv : AckInv n) (modest : Modest n event) :
    Network.step n event = n ∨ ∃ side operation, Acts n side operation ∧
      Network.step n event = n.set side ((n.get side).operate operation) := by
  cases event with
  | act side operation =>
      refine .inr ⟨side, operation, ⟨modest.2.1, modest.2.2, ?_⟩, rfl⟩
      rintro segment rfl
      exact modest.1.elim
  | deliver side index =>
      simp only [Network.step]
      cases arrived : (n.get side.other).emitted[index]? with
      | none => exact .inl rfl
      | some entry =>
          have unchanged : ((n.get side).operate (.segmentReceived entry.2)).accepted = (n.get side).accepted :=
            List.append_nil _
          refine .inr ⟨side, .segmentReceived entry.2, ⟨trivial, ?_, ?_⟩, rfl⟩
          · rw [unchanged]
            exact ackInv.short side
          · intro segment same
            cases same
            obtain ⟨filled, source⟩ := ackInv.inv.source side.other
            refine ⟨entry.2, ?_, .refl _⟩
            rw [← source.recorded]
            exact List.mem_map_of_mem (List.mem_of_getElem? arrived)

theorem step_ackInv (n : Pair) (event : Event) (ackInv : AckInv n) (modest : Modest n event) :
    AckInv (Network.step n event) := by
  rcases modest_acts ackInv modest with same | ⟨side, operation, acts, same⟩
  · rw [same]
    exact ackInv
  · rw [same]
    exact operate_ackInv ackInv acts

theorem held_or_arrived {n : Pair} (ackInv : AckInv n) (side : Side) :
    (n.get side.other).consumed ++ (n.get side.other).conn.inboundStream.buffer <+: (n.get side).accepted ∧
      (n.get side).accepted.drop (((n.get side.other).consumed ++
          (n.get side.other).conn.inboundStream.buffer).length + (n.get side.other).conn.receiver.isFin.toNat) <:+
        (n.get side).conn.sender.outstandingSegments.flatMap payload ++
          (n.get side).conn.sender.stream.buffer := by
  obtain ⟨filled, source⟩ := ackInv.inv.source side
  obtain ⟨_, _, live, _⟩ := ackInv.running side
  have hears := ackInv.inv.hears side.other
  rw [Side.other_other] at hears
  have written : ((n.get side.other).consumed ++ (n.get side.other).conn.inboundStream.buffer).length =
      (n.get side.other).conn.receiver.firstUnassembled := by
    rw [List.length_append, hears.read]
    exact hears.valid.sound.accounting.symm
  refine ⟨hears.agrees.1, ?_⟩
  have held := unacknowledged_held source live.acked
  have confirmed := (ackInv.confirmed side).trans (reach_bound _)
  obtain ⟨extra, more⟩ := Nat.exists_eq_add_of_le
    (show (n.get side).conn.sender.currentSeqno - 1 ≤ (n.get side.other).conn.receiver.firstUnassembled +
      (n.get side.other).conn.receiver.isFin.toNat by omega)
  rw [written, more, ← List.drop_drop]
  exact (List.drop_suffix _ _).trans held

/-- Whatever is lost, repeated or reordered, each accepted byte is in the inbound stream of the peer or is still
held by the sender. Only once a FIN has arrived may one byte be in neither place. -/
theorem no_byte_is_lost {cfg : Side → TCPConfig} {randomIsn : Side → WrappingInt32} {n : Pair}
    (reached : Reachable Network.step Modest (Network.start cfg randomIsn) n) (side : Side) :
    (n.get side.other).consumed ++ (n.get side.other).conn.inboundStream.buffer <+: (n.get side).accepted ∧
      (n.get side).accepted.drop (((n.get side.other).consumed ++
          (n.get side.other).conn.inboundStream.buffer).length + (n.get side.other).conn.receiver.isFin.toNat) <:+
        (n.get side).conn.sender.outstandingSegments.flatMap payload ++
          (n.get side).conn.sender.stream.buffer :=
  held_or_arrived (reachable_invariant (start_ackInv cfg randomIsn) step_ackInv reached) side

def lostSegments : List Event :=
  [.act .left .connect, .deliver .right 0, .deliver .left 0, .act .left (.write [7, 8]), .deliver .right 2,
    .act .left (.write [9, 10, 11]), .act .left (.tick 1000)]

theorem lost_segments_held :
    let n := lostSegments.foldl Network.step (Network.start (fun _ => smallConfig) (fun _ => ⟨41⟩))
    (n.get .left).accepted.drop (((n.get Side.left.other).consumed ++
          (n.get Side.left.other).conn.inboundStream.buffer).length +
            (n.get Side.left.other).conn.receiver.isFin.toNat) <:+
        (n.get .left).conn.sender.outstandingSegments.flatMap payload ++
          (n.get .left).conn.sender.stream.buffer ∧
      n.right.conn.inboundStream.buffer = [7, 8] ∧
      n.left.conn.sender.outstandingSegments.flatMap payload = [7, 8, 9, 10, 11] :=
  ⟨(no_byte_is_lost (reachable_run lostSegments (by decide +kernel)) .left).2, by decide +kernel,
    by decide +kernel⟩

end Sponge.NetworkAcks
