import Sponge.Network

/-! Streams of less than `2 ^ 31` bytes. No number that an endpoint has used is then too far from its peer, so
that any copy of any emitted segment may arrive at any time. -/

namespace Sponge.Network

open Tiling Endpoint TCPSegment SenderQueue SenderTransmission ConnectionRun ConnectionReplies ConnectionState

theorem firstNumber_le (c : TCPConnection) (operation : Operation) :
    firstNumber c operation ≤ c.sender.nextSeqno := by
  cases operation with
  | tick ms => exact Nat.sub_le _ _
  | _ => exact le_rfl

section Numbers

variable {filled : List TCPSegment} {c : TCPConnection} (settled : Settled filled c)

include settled

theorem pushing_space (calls : List Call) (pushing : ∀ call ∈ calls, Pushing call) :
    c.sender.nextSeqno + span lengthInSequenceSpace (calls.foldl apply c.sender).segmentsOut =
      (calls.foldl apply c.sender).nextSeqno := by
  rw [pushing_queue settled.coherent calls pushing, settled.queue, List.nil_append,
    ← (run_coherent settled.coherent calls).space, span_append, settled.coherent.space]

theorem tick_space (ms : UInt64) :
    c.sender.nextSeqno - span lengthInSequenceSpace c.sender.outstandingSegments +
        span lengthInSequenceSpace (c.sender.tick ms).segmentsOut ≤ (c.sender.tick ms).nextSeqno := by
  have next : (c.sender.tick ms).nextSeqno = c.sender.nextSeqno := by
    have space : span lengthInSequenceSpace (filled ++ pushedRun c.sender [.tick ms]) =
        (c.sender.tick ms).nextSeqno := (run_coherent settled.coherent [.tick ms]).space
    rw [← settled.coherent.space, ← space]
    simp [pushedRun, pushed]
  rw [next]
  rcases tick_segmentsOut c.sender ms with same | again
  · rw [same, settled.queue]
    exact Nat.sub_le _ _
  · rw [again, settled.queue, List.nil_append]
    cases front : c.sender.outstandingSegments.head? with
    | none => exact Nat.sub_le _ _
    | some segment =>
        have bounds := (number_bounds _ (front_numbered settled front)).2
        rw [Nat.zero_add, settled.coherent.space] at bounds
        simpa using bounds

theorem calls_space {operation : Operation} {calls : List Call} (shape : Calls c operation calls) :
    firstNumber c operation + span lengthInSequenceSpace (calls.foldl apply c.sender).segmentsOut ≤
      (calls.foldl apply c.sender).nextSeqno := by
  have silent : ∀ operation, firstNumber c operation + span lengthInSequenceSpace c.sender.segmentsOut ≤
      c.sender.nextSeqno := by
    intro operation
    rw [settled.queue]
    exact firstNumber_le c operation
  cases shape with
  | inactive => exact silent _
  | reset => exact silent _
  | readInbound => exact silent _
  | connect => exact (pushing_space settled [.fillWindow] (List.forall_mem_singleton.mpr trivial)).le
  | write data =>
      exact (pushing_space settled [.write data, .fillWindow]
        (List.forall_mem_cons.mpr ⟨trivial, List.forall_mem_singleton.mpr trivial⟩)).le
  | endInputStream =>
      exact (pushing_space settled [.endInput, .fillWindow]
        (List.forall_mem_cons.mpr ⟨trivial, List.forall_mem_singleton.mpr trivial⟩)).le
  | tick ms => exact tick_space settled ms
  | keepAlive =>
      simp only [List.foldl_cons, List.foldl_nil, apply, TCPSender.sendEmptySegment, settled.queue]
      exact le_rfl
  | answered segment =>
      exact (pushing_space settled [answer segment] (List.forall_mem_singleton.mpr (answer_pushing segment))).le
  | acknowledged segment quiet =>
      have space := pushing_space settled [answer segment] (List.forall_mem_singleton.mpr (answer_pushing segment))
      simp only [List.foldl_cons, List.foldl_nil, quiet, span_nil] at space
      simp only [List.foldl_cons, List.foldl_nil]
      change c.sender.nextSeqno + span lengthInSequenceSpace
        ((apply c.sender (answer segment)).segmentsOut ++ [_]) ≤ (apply c.sender (answer segment)).nextSeqno
      rw [quiet]
      exact space.le

end Numbers

def Numbered (e : Endpoint) : Prop :=
  ∀ entry ∈ e.emitted, entry.1 + entry.2.lengthInSequenceSpace ≤ e.conn.sender.nextSeqno

theorem new_numbered (cfg : TCPConfig) (randomIsn : WrappingInt32) : Numbered (.new cfg randomIsn) := by
  intro entry member
  cases member

theorem operate_numbered {filled : List TCPSegment} {e : Endpoint} (settled : Settled filled e.conn)
    (numbered : Numbered e) (operation : Operation) : Numbered (e.operate operation) := by
  have sender : (ConnectionRun.operate e.conn operation).sender.nextSeqno =
      ((senderCalls e.conn operation).foldl apply e.conn.sender).nextSeqno := by
    rw [(operate_outcome settled operation).sender]
    rfl
  intro entry member
  change entry.1 + entry.2.lengthInSequenceSpace ≤ (ConnectionRun.operate e.conn operation).sender.nextSeqno
  rw [sender]
  rcases List.mem_append.mp member with old | fresh
  · have rises := (run_coherent settled.coherent (senderCalls e.conn operation)).space
    rw [span_append, settled.coherent.space] at rises
    exact (numbered entry old).trans (by omega)
  · rw [appended_eq settled, number_map _ _ _ _ (stamp_length _), List.mem_map] at fresh
    obtain ⟨⟨seqno, plain⟩, waiting, rfl⟩ := fresh
    have bounds := (number_bounds _ waiting).2
    rw [stamp_length]
    exact bounds.trans (calls_space settled (senderCalls_calls e.conn operation))

theorem sameData_length {sent segment : TCPSegment} (same : SameData sent segment) :
    segment.lengthInSequenceSpace = sent.lengthInSequenceSpace := by
  simp only [lengthInSequenceSpace, same.payload, same.syn, same.fin]

theorem piece_copy {source : Endpoint} {seqno : Nat} {sent segment : TCPSegment}
    (piece : Piece source seqno sent) (same : SameData sent segment) : Piece source seqno segment := by
  have place : payloadSeqno seqno segment = payloadSeqno seqno sent := by
    rw [payloadSeqno, payloadSeqno, same.syn]
  refine ⟨same.seqno.trans piece.numbered, ?_, ?_, ?_, ?_, ?_⟩
  · rw [same.syn]
    exact piece.syn
  · rw [same.payload, place]
    exact piece.bytes
  · rw [same.payload]
    exact piece.bounded
  · rw [same.payload, same.fin, place]
    exact piece.started
  · rw [same.payload, same.fin, place]
    exact piece.fin

theorem nextSeqno_le {filled : List TCPSegment} {source : Endpoint} (whole : Source filled source) :
    source.conn.sender.nextSeqno ≤ source.accepted.length + 2 := by
  by_cases zero : source.conn.sender.nextSeqno = 0
  · omega
  · have numbers := whole.carried.started (by omega)
    have accounting := whole.settled.coherent.sound.accounting
    have length := whole.carried.length
    have fin : source.conn.sender.fin.toNat ≤ 1 := Bool.toNat_le _
    omega

theorem agrees_written {stream consumed : List Byte} {r : TCPReceiver} (valid : r.reassembler.Valid)
    (read : consumed.length = r.streamOut.bytesRead)
    (agrees : ReassemblerStream.AgreesWith stream consumed r.reassembler) :
    r.firstUnassembled ≤ stream.length := by
  have written := agrees.1.length_le
  rw [List.length_append, read] at written
  have accounting : r.firstUnassembled = _ := valid.sound.accounting
  rw [accounting]
  exact written

theorem bytesWritten_le {source e : Endpoint} (hears : Hears source e.consumed e.conn.receiver) :
    e.conn.inboundStream.bytesWritten ≤ source.accepted.length :=
  agrees_written hears.valid hears.read hears.agrees

section Short

variable {filled : List TCPSegment} {source e : Endpoint} (whole : Source filled source) (numbered : Numbered source)
  (hears : Hears source e.consumed e.conn.receiver) (short : source.accepted.length + 3 < 2 ^ 31)

include whole numbered hears short

theorem emitted_near {seqno : Nat} {sent : TCPSegment} (member : (seqno, sent) ∈ source.emitted) :
    Near e (seqno, sent) := by
  have number : seqno + sent.lengthInSequenceSpace ≤ source.conn.sender.nextSeqno := numbered _ member
  have next := nextSeqno_le whole
  have written := bytesWritten_le hears
  simp only [Near, payloadSeqno]
  split <;> omega

theorem copy_delivered {sent segment : TCPSegment} (member : sent ∈ source.conn.segmentsOut)
    (same : SameData sent segment) :
    ∃ seqno, Piece source seqno segment ∧ Near e (seqno, segment) ∧
      seqno + segment.lengthInSequenceSpace ≤ source.conn.sender.nextSeqno := by
  rw [← whole.recorded, List.mem_map] at member
  obtain ⟨⟨seqno, _⟩, emitted, rfl⟩ := member
  refine ⟨seqno, piece_copy (emitted_piece whole emitted) same, ?_, ?_⟩
  · have near := emitted_near whole numbered hears short emitted
    simp only [Near, payloadSeqno] at near ⊢
    rw [same.syn]
    exact near
  · rw [sameData_length same]
    exact numbered _ emitted

end Short

end Sponge.Network
