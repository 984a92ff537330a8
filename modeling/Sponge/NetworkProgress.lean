import Sponge.ConnectionBackoff
import Sponge.NetworkAcks
import Sponge.NetworkEnd

/-! What a retransmission achieves. From every state that two endpoints reach, a retransmitted segment that
arrives is acknowledged up to its end, and the acknowledgment, if it arrives too, frees the sender of it. -/

namespace Sponge.NetworkProgress

open Tiling Endpoint TCPSegment TCPReceiver ReassemblerStream ReassemblerRefinement SenderQueue SenderTransmission
  SenderProgress SenderTimer ConnectionRun ConnectionReplies ConnectionState ConnectionProgress Network NetworkAcks
  Transition

theorem pushSubstring_reaches {taken : List Byte} {r : StreamReassembler} (valid : r.Valid)
    (read : taken.length = r.output.bytesRead) (data : List Byte) (index : Nat) (eof : Bool)
    (joins : index ≤ r.output.bytesWritten) (fits : index + data.length ≤ r.output.bytesRead + r.capacity)
    (small : index + data.length ≤ 2 ^ 64) :
    index + data.length ≤ (r.pushSubstring data index eof).output.bytesWritten := by
  obtain ⟨a, refines⟩ := StreamReassembler.refines_exists taken r valid read
  have after := pushSubstring_refines valid refines data index eof small
  rw [← after.writtenLength (StreamReassembler.pushSubstring_valid r valid data index eof)]
  refine a.push_reaches data index ?_ ?_
  · rw [refines.writtenLength valid]
    exact joins
  · rw [refines.read]
    exact fits

/-- A receiver that has nothing but what its peer has sent. -/
structure Follows (source : Endpoint) (consumed : List Byte) (r : TCPReceiver) : Prop where
  within : AgreesWith (source.accepted.take source.conn.sender.stream.bytesRead) consumed r.reassembler
  syn : r.isSyn = true → 0 < source.conn.sender.nextSeqno
  fin : r.isFin = true → source.conn.sender.fin = true
  ended : r.reassembler.eof = true ∨ r.streamOut.inputEnded = true → r.isFin = true

theorem new_follows (source : Endpoint) (capacity : Nat) : Follows source [] (TCPReceiver.new capacity) where
  within := new_agrees _ capacity
  syn := fun heard => (Bool.false_ne_true heard).elim
  fin := fun heard => (Bool.false_ne_true heard).elim
  ended := by
    rintro (heard | heard)
    · cases heard
    · cases heard

theorem follows_setError {source : Endpoint} {consumed : List Byte} {r : TCPReceiver}
    (follows : Follows source consumed r) : Follows source consumed r.setError :=
  ⟨follows.within, follows.syn, follows.fin, follows.ended⟩

theorem follows_read {source : Endpoint} {consumed : List Byte} {r : TCPReceiver}
    (follows : Follows source consumed r) (len : Nat) :
    Follows source (consumed ++ (r.readOut len).1) (r.readOut len).2 :=
  ⟨readOut_agrees _ _ _ follows.within len, follows.syn, follows.fin, follows.ended⟩

theorem follows_more {filled : List TCPSegment} {source : Endpoint} {consumed : List Byte} {r : TCPReceiver}
    (whole : Source filled source) (follows : Follows source consumed r) (operation : Operation)
    (open_ : NoLateWrite source.conn operation) : Follows (source.operate operation) consumed r := by
  have advances : Advances source.conn.sender (ConnectionRun.operate source.conn operation).sender := by
    rw [(operate_outcome whole.settled operation).sender]
    have run := run_advances whole.settled.coherent whole.carried _ (senderCalls_open source.conn operation open_)
    exact ⟨run.nextSeqno, run.currentSeqno, run.fin⟩
  refine ⟨?_, ?_, ?_, follows.ended⟩
  · rw [← sent_conveyed (operate_source whole operation open_), List.flatMap_append]
    apply agrees_extend
    rw [sent_conveyed whole]
    exact follows.within
  · exact fun opened => (follows.syn opened).trans_le advances.nextSeqno
  · exact fun ended => (advances.fin (follows.fin ended)).1

theorem piece_within {filled : List TCPSegment} {source : Endpoint} (whole : Source filled source) {seqno place : Nat}
    {segment : TCPSegment} (sent : seqno + segment.lengthInSequenceSpace ≤ source.conn.sender.nextSeqno)
    (inside : place < segment.payload.length)
    (position : payloadSeqno seqno segment - 1 + place < source.accepted.length)
    (started : 1 ≤ payloadSeqno seqno segment) :
    payloadSeqno seqno segment - 1 + place < source.conn.sender.stream.bytesRead := by
  have size : payloadSeqno seqno segment + segment.payload.length ≤ seqno + segment.lengthInSequenceSpace := by
    simp only [payloadSeqno, lengthInSequenceSpace]
    omega
  have numbers := whole.carried.started (by omega)
  cases fin : source.conn.sender.fin with
  | false =>
      rw [fin, Bool.toNat_false] at numbers
      omega
  | true =>
      have accounting := whole.settled.coherent.sound.accounting
      rw [(whole.carried.closed fin).2, List.length_nil] at accounting
      rw [whole.carried.length] at position
      omega

theorem follows_heard {filled : List TCPSegment} {source : Endpoint} {consumed : List Byte} {r : TCPReceiver}
    (whole : Source filled source) {seqno : Nat} {segment : TCPSegment} (piece : Piece source seqno segment)
    (above : payloadSeqno seqno segment < r.firstUnassembled + 2 ^ 31)
    (below : r.firstUnassembled < payloadSeqno seqno segment + 2 ^ 31)
    (sent : seqno + segment.lengthInSequenceSpace ≤ source.conn.sender.nextSeqno)
    (hears : Hears source consumed r) (follows : Follows source consumed r) :
    Follows source consumed (r.segmentReceived segment) := by
  by_cases opened : r.isSyn = true ∨ segment.header.syn = true
  case neg =>
    rw [segmentReceived_unopened r segment opened]
    exact follows
  case pos =>
    rw [segmentReceived_accepted r segment opened, heard_index piece above below hears opened]
    refine ⟨?_, ?_, ?_, ?_⟩
    · apply pushSubstring_agrees _ _ _ hears.valid hears.read follows.within
      intro place byte present stored
      have ahead : r.firstUnassembled ≤ _ := stored
      have byteAt := heard_placed piece above below present ahead
      have bound := (List.getElem?_eq_some_iff.mp present).1
      have started := piece.started (.inl (List.ne_nil_of_length_pos (by omega)))
      have size := piece.bounded
      have position : (place + (payloadSeqno seqno segment + (2 ^ 64 - 1)) % 2 ^ 64) % 2 ^ 64 =
          payloadSeqno seqno segment - 1 + place := by omega
      rw [position] at byteAt ⊢
      have inside := (List.getElem?_eq_some_iff.mp byteAt).1
      rw [List.getElem?_take_of_lt (piece_within whole sent bound inside started)]
      exact byteAt
    · intro _
      rcases opened with before | syn
      · exact follows.syn before
      · have positive : 1 ≤ segment.lengthInSequenceSpace := by
          simp only [lengthInSequenceSpace, syn, if_true]
          omega
        omega
    · intro ended
      rcases Bool.or_eq_true_iff.mp ended with before | fin
      · exact follows.fin before
      · exact (piece.fin fin).1
    · have announced : (r.reassembler.pushSubstring segment.payload
          ((payloadSeqno seqno segment + (2 ^ 64 - 1)) % 2 ^ 64) segment.header.fin).eof = true →
          (r.isFin || segment.header.fin) = true := by
        intro eof
        rw [pushSubstring_eof] at eof
        rw [Bool.or_eq_true]
        exact (markEof_announced eof).imp_left fun before => follows.ended (.inl before)
      rintro (eof | ended)
      · exact announced eof
      · rw [streamOut, pushSubstring_inputEnded _ hears.valid, Bool.or_eq_true, Bool.and_eq_true] at ended
        rcases ended with before | ⟨eof, _⟩
        · exact Bool.or_eq_true_iff.mpr (.inl (follows.ended (.inr before)))
        · exact announced eof

structure FlowInv (n : Pair) : Prop where
  ackInv : AckInv n
  follows : ∀ side, Follows (n.get side.other) (n.get side).consumed (n.get side).conn.receiver

theorem start_flowInv (cfg : Side → TCPConfig) (randomIsn : Side → WrappingInt32) :
    FlowInv (Network.start cfg randomIsn) where
  ackInv := start_ackInv cfg randomIsn
  follows := by
    intro side
    cases side <;> exact new_follows _ _

theorem operate_follows {filled other : List TCPSegment} {source e : Endpoint} (settled : Settled filled e.conn)
    (whole : Source other source) (hears : Hears source e.consumed e.conn.receiver)
    (follows : Follows source e.consumed e.conn.receiver) (operation : Operation)
    (delivered : ∀ segment, operation = .segmentReceived segment → ∃ seqno, Piece source seqno segment ∧
      Near e (seqno, segment) ∧ seqno + segment.lengthInSequenceSpace ≤ source.conn.sender.nextSeqno) :
    Follows source (e.operate operation).consumed (e.operate operation).conn.receiver := by
  by_cases reads : ∃ len, operation = .readInbound len
  · obtain ⟨len, rfl⟩ := reads
    exact follows_read follows len
  have consumed : (e.operate operation).consumed = e.consumed := by
    cases operation with
    | readInbound len => exact (reads ⟨len, rfl⟩).elim
    | _ => exact List.append_nil _
  rw [consumed]
  refine (operate_outcome settled operation).heard.rule follows ?_ ?_ (fun _ => follows_setError)
  · intro segment same
    obtain ⟨seqno, piece, ⟨above, below⟩, sent⟩ := delivered segment same
    exact follows_heard whole piece above below sent hears follows
  · exact fun len same => (reads ⟨len, same⟩).elim

theorem operate_flowInv {n : Pair} (flowInv : FlowInv n) {side : Side} {operation : Operation}
    (acts : Acts n side operation) : FlowInv (n.set side ((n.get side).operate operation)) := by
  have ackInv := flowInv.ackInv
  obtain ⟨filled, source⟩ := ackInv.inv.source side
  refine ⟨operate_ackInv ackInv acts, ?_⟩
  intro which
  rcases eq_or_other side which with rfl | rfl
  · obtain ⟨other, whole⟩ := ackInv.inv.source which.other
    have hears := ackInv.inv.hears which
    have bound := ackInv.short which.other
    rw [Pair.get_set_same, Pair.get_set_other]
    refine operate_follows source.settled whole hears (flowInv.follows which) operation ?_
    intro segment same
    obtain ⟨sent, member, copies⟩ := acts.delivered segment same
    exact copy_delivered whole (ackInv.numbered which.other) hears (by omega) member copies.toSameData
  · rw [Pair.get_set_other, Side.other_other, Pair.get_set_same]
    have before := flowInv.follows side.other
    rw [Side.other_other] at before
    exact follows_more source before operation acts.open_

theorem step_flowInv (n : Pair) (event : Event) (flowInv : FlowInv n) (modest : Modest n event) :
    FlowInv (Network.step n event) := by
  rcases modest_acts flowInv.ackInv modest with same | ⟨side, operation, acts, same⟩
  · rw [same]
    exact flowInv
  · rw [same]
    exact operate_flowInv flowInv acts

theorem reach_sent {n : Pair} (flowInv : FlowInv n) (side : Side) :
    reach (n.get side.other).conn.receiver ≤ (n.get side).conn.sender.nextSeqno := by
  have follows := flowInv.follows side.other
  have hears := flowInv.ackInv.inv.hears side.other
  rw [Side.other_other] at follows hears
  by_cases opened : (n.get side.other).conn.receiver.isSyn = true
  case neg =>
    rw [reach, if_neg opened]
    exact Nat.zero_le _
  case pos =>
    obtain ⟨filled, source⟩ := flowInv.ackInv.inv.source side
    have numbers := source.carried.started (follows.syn opened)
    have written := agrees_written hears.valid hears.read follows.within
    rw [List.length_take] at written
    have fin : (n.get side.other).conn.receiver.isFin.toNat ≤ (n.get side).conn.sender.fin.toNat := by
      cases ended : (n.get side.other).conn.receiver.isFin with
      | false => exact Nat.zero_le _
      | true => rw [follows.fin ended]
    rw [reach_opened opened]
    omega

/-! ### The receiver of a retransmission -/

theorem complete_empty {stream consumed : List Byte} {r : TCPReceiver} (valid : r.reassembler.Valid)
    (agrees : AgreesWith stream consumed r.reassembler) (all : stream.length ≤ r.firstUnassembled) :
    r.reassembler.empty = true := by
  have nothing : r.reassembler.unassembledBytes = 0 := by
    rw [valid.counted, ← SparseWindow.stored_eq_card _ _ _ valid.inWindow, Finset.card_eq_zero,
      Finset.filter_eq_empty_iff]
    intro position _ filled
    obtain ⟨byte, holds⟩ := Option.isSome_iff_exists.mp filled
    have bound := (List.getElem?_eq_some_iff.mp (agrees.2 position byte holds)).1
    have below : position < r.reassembler.output.bytesWritten := bound.trans_le all
    rw [SparseWindow.lookup_below _ below] at holds
    cases holds
  simp [StreamReassembler.empty, nothing]

section Heard

variable {source : Endpoint} {consumed : List Byte} {r : TCPReceiver} {seqno : Nat} {segment : TCPSegment}
  (piece : Piece source seqno segment)
  (above : payloadSeqno seqno segment < r.firstUnassembled + 2 ^ 31)
  (below : r.firstUnassembled < payloadSeqno seqno segment + 2 ^ 31)
  (hears : Hears source consumed r) (opened : r.isSyn = true ∨ segment.header.syn = true)
  (started : 1 ≤ payloadSeqno seqno segment) (joins : payloadSeqno seqno segment ≤ 1 + r.firstUnassembled)
  (fits : NetworkEnd.endIndex (seqno, segment) ≤ r.streamOut.bytesRead + r.reassembler.capacity)
  (small : NetworkEnd.endIndex (seqno, segment) < 2 ^ 64)

include piece above below hears opened started joins fits small

theorem heard_reaches :
    payloadSeqno seqno segment + segment.payload.length ≤ 1 + (r.segmentReceived segment).firstUnassembled := by
  rw [segmentReceived_accepted r segment opened, heard_index piece above below hears opened]
  simp only [NetworkEnd.endIndex] at fits small
  have index : (payloadSeqno seqno segment + (2 ^ 64 - 1)) % 2 ^ 64 = payloadSeqno seqno segment - 1 := by omega
  have written := pushSubstring_reaches hears.valid hears.read segment.payload (payloadSeqno seqno segment - 1)
    segment.header.fin (Nat.sub_le_of_le_add (joins.trans (Nat.add_comm _ _).le)) fits small.le
  rw [index]
  change _ ≤ 1 + (r.reassembler.pushSubstring segment.payload _ segment.header.fin).output.bytesWritten
  omega

theorem heard_acknowledged :
    seqno + segment.lengthInSequenceSpace ≤ acknowledged (r.segmentReceived segment) := by
  have reaches := heard_reaches piece above below hears opened started joins fits small
  have after := heard_hears piece above below hears
  have length : seqno + segment.lengthInSequenceSpace =
      payloadSeqno seqno segment + segment.payload.length + segment.header.fin.toNat := by
    simp only [payloadSeqno, lengthInSequenceSpace]
    cases segment.header.fin <;> simp <;> omega
  rw [length, acknowledged]
  cases fin : segment.header.fin with
  | false =>
      rw [Bool.toNat_false]
      omega
  | true =>
      have whole := (piece.fin fin).2
      have ended : (r.segmentReceived segment).isFin = true := by
        rw [segmentReceived_accepted r segment opened]
        simp [fin]
      have empty := complete_empty after.valid after.agrees (by omega)
      rw [ended, empty]
      simp only [Bool.toNat_true, Bool.and_self, if_true]
      omega

end Heard

/-! ### The three steps of a round trip -/

theorem active_error {c : TCPConnection} (running : c.active = true) : c.error = false :=
  ((TCPConnection.active_iff c).mp running).1

theorem active_before_tick {c : TCPConnection} {ms : UInt64} (running : (operate c (.tick ms)).active = true) :
    c.active = true := by
  by_contra inactive
  rw [Bool.not_eq_true] at inactive
  have same : operate c (.tick ms) = c := by simp [ConnectionRun.operate, TCPConnection.tick, inactive]
  rw [same, inactive] at running
  cases running

theorem stamp_rst (c : TCPConnection) (segment : TCPSegment) : (c.stamp segment).header.rst = c.error := by
  unfold TCPConnection.stamp
  cases c.receiver.ackno <;> rfl

structure Takes (c : TCPConnection) (segment : TCPSegment) (finish : Nat) : Prop where
  noReset : segment.header.rst = false
  ordinary : c.isKeepAlive segment = false
  ack : segment.header.ack = true
  reaches : finish ≤ unwrapAt segment.header.ackno c.sender.isn c.sender.nextSeqno
  acceptable : unwrapAt segment.header.ackno c.sender.isn c.sender.nextSeqno ≤ c.sender.nextSeqno

section Connection

variable {filled : List TCPSegment} {c : TCPConnection} (settled : Settled filled c)

include settled

theorem tick_appended (running : c.active = true) {ms : UInt64} (fired : fires c.sender ms = true)
    {front : TCPSegment} {rest : List TCPSegment} (queue : c.sender.outstandingSegments = front :: rest) :
    appended c (.tick ms) = [(operate c (.tick ms)).stamp front] := by
  have waiting : (called c (.tick ms)).segmentsOut = [front] := by
    simp [called, senderCalls, running, apply, tick_fires fired, settled.queue, queue]
  rw [appended_eq settled, waiting]
  rfl

theorem tick_sender (running : c.active = true) (ms : UInt64) :
    (operate c (.tick ms)).sender.currentSeqno = c.sender.currentSeqno ∧
      (operate c (.tick ms)).sender.nextSeqno = c.sender.nextSeqno ∧
      (operate c (.tick ms)).sender.outstandingSegments = c.sender.outstandingSegments := by
  rw [(operate_outcome settled _).sender]
  simp only [called, senderCalls, running, if_true]
  exact ⟨(tick_steady _ ms).currentSeqno, (tick_steady _ ms).nextSeqno, (tick_kept _ ms).1⟩

theorem received_currentSeqno {segment : TCPSegment} {finish : Nat} (running : c.active = true)
    (takes : Takes c segment finish) : finish ≤ (operate c (.segmentReceived segment)).sender.currentSeqno := by
  have answered : (apply c.sender (answer segment)).currentSeqno =
      max c.sender.currentSeqno (unwrapAt segment.header.ackno c.sender.isn c.sender.nextSeqno) := by
    rw [answer, if_pos takes.ack]
    exact SenderWindow.ackReceived_currentSeqno settled.coherent _ takes.acceptable
  have made : (called c (.segmentReceived segment)).currentSeqno =
      (apply c.sender (answer segment)).currentSeqno := by
    simp only [called, senderCalls, takes.noReset, running, takes.ordinary, Bool.not_true, Bool.or_false,
      Bool.false_eq_true, if_false]
    split <;> rfl
  rw [(operate_outcome settled _).sender]
  change _ ≤ (called c (.segmentReceived segment)).currentSeqno
  rw [made, answered]
  exact takes.reaches.trans (Nat.le_max_right _ _)

end Connection

theorem received_receiver {c : TCPConnection} {segment : TCPSegment} (running : c.active = true)
    (noReset : segment.header.rst = false) (ordinary : c.isKeepAlive segment = false) :
    (operate c (.segmentReceived segment)).receiver = c.receiver.segmentReceived segment := by
  have still : TCPConnection.active { c with timeSinceLastSegmentReceived := 0 } = true := running
  have plain : TCPConnection.isKeepAlive { c with timeSinceLastSegmentReceived := 0 } segment = false := ordinary
  simp [ConnectionRun.operate, TCPConnection.segmentReceived, noReset, still, plain]

theorem later_ordinary {c : TCPConnection} {isn : WrappingInt32} {seqno : Nat} {segment : TCPSegment}
    (known : c.receiver.isSyn = true → c.receiver.isn = isn) (number : segment.header.seqno = wrap seqno isn)
    (later : reach c.receiver ≤ seqno) (small : seqno + 1 < 2 ^ 32) : c.isKeepAlive segment = false := by
  by_cases opened : c.receiver.isSyn = true
  case neg =>
    have unknown : c.receiver.ackno = none := by
      rw [← Option.not_isSome_iff_eq_none, ackno_isSome]
      exact opened
    simp [TCPConnection.isKeepAlive, unknown]
  case pos =>
    have bound := acknowledged_reach opened
    have differs : segment.header.seqno ≠ (wrap (acknowledged c.receiver) isn).minus 1 := by
      intro same
      have next : (wrap seqno isn).plus 1 = wrap (acknowledged c.receiver) isn := by
        rw [← number, same, WrappingInt32.minus_plus]
      have shifted : wrap (seqno + 1) isn = wrap (acknowledged c.receiver) isn := by
        rw [← wrap_plus]
        exact next
      rw [wrap_eq_iff, wrap_offset] at shifted
      omega
    have present : c.receiver.ackno = some (wrap (acknowledged c.receiver) isn) := by
      rw [← known opened]
      exact ackno_some _ opened
    simp [TCPConnection.isKeepAlive, present, differs]

theorem get_set_back (n : Pair) (side : Side) (e : Endpoint) : (n.set side.other e).get side = n.get side := by
  cases side <;> rfl

theorem number_ne_nil (start : Nat) (segments : List TCPSegment) (nonempty : segments ≠ []) :
    number lengthInSequenceSpace start segments ≠ [] := by
  cases segments with
  | nil => exact (nonempty rfl).elim
  | cons segment later => exact List.cons_ne_nil _ _

theorem deliver_newest {n : Pair} {side : Side} {older newer : List (Nat × TCPSegment)}
    (emitted : (n.get side).emitted = older ++ newer) (nonempty : newer ≠ []) :
    ∃ entry ∈ newer, Network.step n (.deliver side.other ((n.get side).emitted.length - 1)) =
      n.set side.other ((n.get side.other).operate (.segmentReceived entry.2)) := by
  refine ⟨newer.getLast nonempty, List.getLast_mem nonempty, ?_⟩
  have newest : (n.get side).emitted[(n.get side).emitted.length - 1]? = some (newer.getLast nonempty) := by
    rw [← List.getLast?_eq_getElem?, emitted, List.getLast?_append_of_ne_nil _ nonempty,
      List.getLast?_eq_some_getLast nonempty]
  simp only [Network.step, Side.other_other, newest]

/-- A segment that finds room at the peer and leaves no gap there. -/
structure Fits (n : Pair) (side : Side) (seqno : Nat) (segment : TCPSegment) : Prop where
  listening : (n.get side.other).conn.active = true
  joins : (n.get side.other).conn.receiver.isFin = true →
    seqno ≤ 1 + (n.get side.other).conn.inboundStream.bytesWritten
  room : NetworkEnd.endIndex (seqno, segment) ≤ (n.get side.other).conn.inboundStream.bytesRead +
    (n.get side.other).conn.receiver.reassembler.capacity

theorem front_acknowledged {n : Pair} (flowInv : FlowInv n) (side : Side) {seqno : Nat} {segment : TCPSegment}
    (emitted : (seqno, segment) ∈ (n.get side).emitted) (occupies : segment.lengthInSequenceSpace ≠ 0)
    (started : 1 ≤ payloadSeqno seqno segment) (behind : seqno ≤ (n.get side).conn.sender.currentSeqno)
    (noReset : segment.header.rst = false) (fits : Fits n side seqno segment) :
    ((n.get side.other).operate (.segmentReceived segment)).conn.receiver.isSyn = true ∧
      seqno + segment.lengthInSequenceSpace ≤
        acknowledged ((n.get side.other).operate (.segmentReceived segment)).conn.receiver := by
  obtain ⟨filled, source⟩ := flowInv.ackInv.inv.source side
  have hears := flowInv.ackInv.inv.hears side.other
  rw [Side.other_other] at hears
  have short := flowInv.ackInv.short side
  have piece := emitted_piece source emitted
  obtain ⟨above, below⟩ := emitted_near source (flowInv.ackInv.numbered side) hears (by omega) emitted
  have number : seqno + segment.lengthInSequenceSpace ≤ (n.get side).conn.sender.nextSeqno :=
    flowInv.ackInv.numbered side _ emitted
  have next := nextSeqno_le source
  have confirmed := behind.trans (flowInv.ackInv.confirmed side)
  have keepAlive : (n.get side.other).conn.isKeepAlive segment = false := by
    unfold TCPConnection.isKeepAlive
    cases (n.get side.other).conn.receiver.ackno <;> simp [occupies]
  have receiver := received_receiver fits.listening noReset keepAlive
  have opened : (n.get side.other).conn.receiver.isSyn = true ∨ segment.header.syn = true := by
    by_contra closed
    rw [not_or] at closed
    rw [reach, if_neg closed.1] at confirmed
    rw [payloadSeqno, if_neg closed.2] at started
    omega
  have joined : payloadSeqno seqno segment ≤ 1 + (n.get side.other).conn.receiver.firstUnassembled := by
    cases syn : segment.header.syn with
    | true =>
        rw [payloadSeqno, if_pos syn, piece.syn syn]
        exact Nat.le_add_right _ _
    | false =>
        rw [payloadSeqno, if_neg (ne_true_of_eq_false syn), Nat.add_zero]
        cases fin : (n.get side.other).conn.receiver.isFin with
        | true => exact fits.joins fin
        | false =>
            have bound := reach_bound (n.get side.other).conn.receiver
            rw [fin, Bool.toNat_false] at bound
            exact confirmed.trans bound
  have small : NetworkEnd.endIndex (seqno, segment) < 2 ^ 64 := by
    have size : payloadSeqno seqno segment + segment.payload.length ≤ seqno + segment.lengthInSequenceSpace := by
      simp only [payloadSeqno, lengthInSequenceSpace]
      omega
    simp only [NetworkEnd.endIndex]
    omega
  change (ConnectionRun.operate _ _).receiver.isSyn = true ∧ _ ≤ acknowledged (ConnectionRun.operate _ _).receiver
  rw [receiver]
  refine ⟨?_, heard_acknowledged piece above below hears opened started joined fits.room small⟩
  rw [segmentReceived_accepted _ segment opened]

theorem answer_taken {n : Pair} (flowInv : FlowInv n) (side : Side) {seqno : Nat} {segment : TCPSegment}
    (emitted : (seqno, segment) ∈ (n.get side.other).emitted) (noReset : segment.header.rst = false)
    (ack : segment.header.ack = true) (opened : (n.get side.other).conn.receiver.isSyn = true)
    (ackno : segment.header.ackno =
      wrap (acknowledged (n.get side.other).conn.receiver) (n.get side).conn.sender.isn)
    (later : reach (n.get side).conn.receiver ≤ seqno) :
    Takes (n.get side).conn segment (acknowledged (n.get side.other).conn.receiver) := by
  obtain ⟨filled, source⟩ := flowInv.ackInv.inv.source side
  obtain ⟨other, whole⟩ := flowInv.ackInv.inv.source side.other
  have bound := (acknowledged_reach opened).trans (reach_sent flowInv side)
  have next := nextSeqno_le source
  have short := flowInv.ackInv.short side
  have number : seqno + segment.lengthInSequenceSpace ≤ (n.get side.other).conn.sender.nextSeqno :=
    flowInv.ackInv.numbered side.other _ emitted
  have nextOther := nextSeqno_le whole
  have shortOther := flowInv.ackInv.short side.other
  have meant : unwrapAt segment.header.ackno (n.get side).conn.sender.isn (n.get side).conn.sender.nextSeqno =
      acknowledged (n.get side.other).conn.receiver := by
    rw [ackno]
    exact unwrapAt_wrap _ _ _ (by omega) (by omega)
  refine ⟨noReset, ?_, ack, meant.ge, meant.le.trans bound⟩
  exact later_ordinary (flowInv.ackInv.inv.hears side).known (emitted_piece whole emitted).numbered later (by omega)

def exchange (n : Pair) (side : Side) : Pair :=
  let heard := Network.step n (.deliver side.other ((n.get side).emitted.length - 1))
  Network.step heard (.deliver side ((heard.get side.other).emitted.length - 1))

structure Exchanged (n later : Pair) (side : Side) (segment answer : TCPSegment) (finish : Nat) : Prop where
  heard : later.get side.other = (n.get side.other).operate (.segmentReceived segment)
  answered : later.get side = (n.get side).operate (.segmentReceived answer)
  takes : Takes (n.get side).conn answer finish

theorem received_error {c : TCPConnection} {segment : TCPSegment} (healthy : c.error = false)
    (noReset : segment.header.rst = false) : (operate c (.segmentReceived segment)).error = false := by
  rw [← Bool.not_eq_true, ConnectionBackoff.operate_error]
  rintro (before | reset | ⟨ms, same, _⟩)
  · rw [healthy] at before
    cases before
  · rw [isReset, noReset] at reset
    cases reset
  · cases same

theorem exchange_exchanged {n : Pair} (flowInv : FlowInv n) (side : Side) {older : List (Nat × TCPSegment)}
    {seqno : Nat} {segment : TCPSegment} (emitted : (n.get side).emitted = older ++ [(seqno, segment)])
    (occupies : segment.lengthInSequenceSpace ≠ 0) (started : 1 ≤ payloadSeqno seqno segment)
    (behind : seqno ≤ (n.get side).conn.sender.currentSeqno) (noReset : segment.header.rst = false)
    (fits : Fits n side seqno segment) :
    ∃ answer, Exchanged n (exchange n side) side segment answer (seqno + segment.lengthInSequenceSpace) := by
  have member : (seqno, segment) ∈ (n.get side).emitted := by
    rw [emitted]
    exact List.mem_append_right _ List.mem_cons_self
  obtain ⟨opened, covers⟩ := front_acknowledged flowInv side member occupies started behind noReset fits
  obtain ⟨entry, newest, heardEq⟩ := deliver_newest emitted (List.cons_ne_nil _ _)
  obtain rfl := List.mem_singleton.mp newest
  have flowInvHeard := step_flowInv n (.deliver side.other ((n.get side).emitted.length - 1)) flowInv trivial
  obtain ⟨filled, source⟩ := flowInv.ackInv.inv.source side.other
  have replies := data_answered source.settled fits.listening noReset occupies
  rw [exchange, heardEq]
  rw [heardEq] at flowInvHeard
  have peer := Pair.get_set_same n side.other ((n.get side.other).operate (.segmentReceived segment))
  have self := get_set_back n side ((n.get side.other).operate (.segmentReceived segment))
  generalize n.set side.other ((n.get side.other).operate (.segmentReceived segment)) = heard at *
  -- the peer has answered, at its next sequence number or later
  have answers : (heard.get side.other).emitted = (n.get side.other).emitted ++
      number lengthInSequenceSpace (n.get side.other).conn.sender.nextSeqno
        (appended (n.get side.other).conn (.segmentReceived segment)) := by rw [peer]; rfl
  obtain ⟨⟨place, answer⟩, answered, backEq⟩ := deliver_newest answers (number_ne_nil _ _ replies)
  rw [Side.other_other] at backEq
  have fresh : answer ∈ appended (n.get side.other).conn (.segmentReceived segment) := mem_of_number _ answered
  have hears := flowInvHeard.ackInv.inv.hears side.other
  rw [Side.other_other, peer] at hears
  obtain ⟨ack, ackno⟩ := appended_ackno source.settled _ hears opened answer fresh
  have kept : (place, answer) ∈ (heard.get side.other).emitted := by
    rw [answers]
    exact List.mem_append_right _ answered
  have answerNoReset : answer.header.rst = false := by
    rw [(appended_stamped source.settled _ answer fresh).rst]
    exact received_error (active_error fits.listening) noReset
  have later : reach (heard.get side).conn.receiver ≤ place := by
    have bound := reach_sent flowInv side.other
    rw [Side.other_other] at bound
    rw [self]
    exact bound.trans (number_bounds _ answered).1
  rw [← peer] at covers opened ackno
  have takes := answer_taken flowInvHeard side kept answerNoReset ack opened ackno later
  rw [self] at takes backEq
  refine ⟨answer, ?_, ?_, { takes with reaches := covers.trans takes.reaches }⟩
  · rw [backEq, Pair.get_set_other]
    exact peer
  · rw [backEq, Pair.get_set_same]

/-- The timer of one side expires, and the retransmission and its answer arrive. -/
def roundTrip (n : Pair) (side : Side) (ms : UInt64) : Pair :=
  exchange (Network.step n (.act side (.tick ms))) side

/-- A side that is about to send the front of its queue again. -/
structure Retransmits (n : Pair) (side : Side) (ms : UInt64) (front : TCPSegment) (rest : List TCPSegment) :
    Prop where
  queue : (n.get side).conn.sender.outstandingSegments = front :: rest
  fired : fires (n.get side).conn.sender ms = true
  running : ((n.get side).operate (.tick ms)).conn.active = true
  fits : Fits n side (firstNumber (n.get side).conn (.tick ms)) front

theorem front_straddles {n : Pair} (ackInv : AckInv n) {side : Side} (ms : UInt64) {front : TCPSegment}
    {rest : List TCPSegment} (queue : (n.get side).conn.sender.outstandingSegments = front :: rest) :
    firstNumber (n.get side).conn (.tick ms) ≤ (n.get side).conn.sender.currentSeqno ∧
      (n.get side).conn.sender.currentSeqno <
        firstNumber (n.get side).conn (.tick ms) + front.lengthInSequenceSpace := by
  obtain ⟨filled, settled, live, _⟩ := ackInv.running side
  have space := (number_bounds _ (front_numbered settled (by rw [queue]; rfl))).2
  rw [Nat.zero_add, settled.coherent.space] at space
  obtain ⟨covered, holds⟩ := live.acked.front front rest queue
  have total : span lengthInSequenceSpace (n.get side).conn.sender.outstandingSegments =
      front.lengthInSequenceSpace + span lengthInSequenceSpace rest := by rw [queue, span_cons]
  simp only [firstNumber]
  omega

theorem ticked_modest {n : Pair} (ackInv : AckInv n) (side : Side) (ms : UInt64) :
    Modest n (.act side (.tick ms)) := by
  have unchanged : ((n.get side).operate (.tick ms)).accepted = (n.get side).accepted := List.append_nil _
  refine ⟨trivial, trivial, ?_⟩
  rw [unchanged]
  exact ackInv.short side

theorem roundTrip_exchanged {n : Pair} (flowInv : FlowInv n) {side : Side} {ms : UInt64} {front : TCPSegment}
    {rest : List TCPSegment} (retransmits : Retransmits n side ms front rest) :
    ∃ answer, Exchanged (Network.step n (.act side (.tick ms))) (roundTrip n side ms) side
      (((n.get side).operate (.tick ms)).conn.stamp front) answer
      (firstNumber (n.get side).conn (.tick ms) + front.lengthInSequenceSpace) := by
  obtain ⟨queue, fired, running, fits⟩ := retransmits
  obtain ⟨filled, source⟩ := flowInv.ackInv.inv.source side
  have built := source.settled.coherent.built _ (front_numbered source.settled (by rw [queue]; rfl))
  have repeated : ((n.get side).operate (.tick ms)).emitted = (n.get side).emitted ++
      [(firstNumber (n.get side).conn (.tick ms), ((n.get side).operate (.tick ms)).conn.stamp front)] := by
    rw [Endpoint.operate, tick_appended source.settled (active_before_tick running) fired queue]
    rfl
  have same := stamp_sameData ((n.get side).operate (.tick ms)).conn front
  have length := stamp_length ((n.get side).operate (.tick ms)).conn front
  have started : 1 ≤ payloadSeqno (firstNumber (n.get side).conn (.tick ms))
      (((n.get side).operate (.tick ms)).conn.stamp front) := by
    rw [payloadSeqno, same.syn]
    by_cases zero : firstNumber (n.get side).conn (.tick ms) = 0
    · rw [if_pos (built.syn.mpr zero)]
      exact Nat.le_add_left _ _
    · omega
  have current : ((n.get side).operate (.tick ms)).conn.sender.currentSeqno =
      (n.get side).conn.sender.currentSeqno := (tick_sender source.settled (active_before_tick running) ms).1
  have noReset : (((n.get side).operate (.tick ms)).conn.stamp front).header.rst = false := by
    rw [stamp_rst]
    exact active_error running
  have behind := (front_straddles flowInv.ackInv ms queue).1
  have index : NetworkEnd.endIndex (firstNumber (n.get side).conn (.tick ms),
      ((n.get side).operate (.tick ms)).conn.stamp front) =
        NetworkEnd.endIndex (firstNumber (n.get side).conn (.tick ms), front) := by
    simp only [NetworkEnd.endIndex, payloadSeqno, same.syn, same.payload]
  have flowInvTicked := step_flowInv n _ flowInv (ticked_modest flowInv.ackInv side ms)
  have self : (Network.step n (.act side (.tick ms))).get side = (n.get side).operate (.tick ms) :=
    Pair.get_set_same _ _ _
  have peer : (Network.step n (.act side (.tick ms))).get side.other = n.get side.other := Pair.get_set_other _ _ _
  rw [← current, ← self] at behind
  rw [← length]
  refine exchange_exchanged flowInvTicked side ((congrArg Endpoint.emitted self).trans repeated) ?_ started behind
    noReset ⟨?_, ?_, ?_⟩
  · rw [length]
    exact built.nonempty.ne'
  · rw [peer]
    exact fits.listening
  · rw [peer]
    exact fits.joins
  · rw [peer, index]
    exact fits.room

/-- In every state that the two sides reach: when the timer of one side expires and the retransmission finds room
at the peer, leaves no gap there and is answered, the sender is done with the front of its queue. -/
theorem round_trip_frees_front {cfg : Side → TCPConfig} {randomIsn : Side → WrappingInt32} {n : Pair}
    (reached : Reachable Network.step Modest (Network.start cfg randomIsn) n) (side : Side) {ms : UInt64}
    {front : TCPSegment} {rest : List TCPSegment} (retransmits : Retransmits n side ms front rest) :
    (n.get side).conn.sender.currentSeqno <
        firstNumber (n.get side).conn (.tick ms) + front.lengthInSequenceSpace ∧
      firstNumber (n.get side).conn (.tick ms) + front.lengthInSequenceSpace ≤
        ((roundTrip n side ms).get side).conn.sender.currentSeqno := by
  have flowInv := reachable_invariant (start_flowInv cfg randomIsn) step_flowInv reached
  have flowInvTicked := step_flowInv n _ flowInv (ticked_modest flowInv.ackInv side ms)
  obtain ⟨filled, source⟩ := flowInvTicked.ackInv.inv.source side
  obtain ⟨answer, exchanged⟩ := roundTrip_exchanged flowInv retransmits
  have self : (Network.step n (.act side (.tick ms))).get side = (n.get side).operate (.tick ms) :=
    Pair.get_set_same _ _ _
  refine ⟨(front_straddles flowInv.ackInv ms retransmits.queue).2, ?_⟩
  rw [exchanged.answered]
  refine received_currentSeqno source.settled ?_ exchanged.takes
  rw [self]
  exact retransmits.running

def lostAnswer : List Event :=
  [.act .left .connect, .deliver .right 0, .deliver .left 0, .act .left (.write [7, 8]), .deliver .right 2,
    .act .left (.write [9, 10, 11])]

theorem lost_answer_made_up :
    let n := lostAnswer.foldl Network.step (Network.start (fun _ => smallConfig) (fun _ => ⟨41⟩))
    firstNumber (n.get .left).conn (.tick 1000) + 2 ≤
        ((roundTrip n .left 1000).get .left).conn.sender.currentSeqno ∧
      (n.get .left).conn.sender.currentSeqno = 1 :=
  ⟨(@round_trip_frees_front _ _ _ (reachable_run lostAnswer (by decide +kernel)) .left 1000
    { header := { seqno := ⟨42⟩ }, payload := [7, 8] } [{ header := { seqno := ⟨44⟩ }, payload := [9, 10, 11] }]
    ⟨by decide +kernel, by decide +kernel, by decide +kernel,
      ⟨by decide +kernel, by decide +kernel, by decide +kernel⟩⟩).2, by decide +kernel⟩

end Sponge.NetworkProgress
