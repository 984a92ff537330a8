import Sponge.Network

/-! When the end of an inbound stream means that all of it has arrived. A FIN that overtakes the data
before it ends the stream early, unless the reassembler already holds the byte before it. -/

namespace Sponge.NetworkEnd

open Endpoint TCPSegment ReassemblerStream ConnectionRun ConnectionState Network Transition

/-- Whenever an inbound stream has ended, the peer has ended its stream too and every byte its writes
accepted has been written to the inbound stream. -/
def CompleteTransfer (n : Pair) : Prop :=
  ∀ side, (n.get side).conn.inboundStream.inputEnded = true →
    (n.get side.other).conn.sender.stream.inputEnded = true ∧
      (n.get side).conn.inboundStream.bytesWritten = (n.get side.other).accepted.length

def endIndex (entry : Nat × TCPSegment) : Nat :=
  payloadSeqno entry.1 entry.2 - 1 + entry.2.payload.length

def Passes (c : TCPConnection) (segment : TCPSegment) : Prop := c.active = true ∧ segment.header.rst = false

instance (c : TCPConnection) (segment : TCPSegment) : Decidable (Passes c segment) :=
  inferInstanceAs (Decidable (_ ∧ _))

/-- A FIN that is not ignored, by the connection or by the receiver, brings data, or finds the byte before it
written or held, or lies beyond the window; and it ends a stream of less than `2 ^ 64` bytes. -/
def FinInTime (e : Endpoint) (entry : Nat × TCPSegment) : Prop :=
  Passes e.conn entry.2 → entry.2.header.fin = true →
    e.conn.receiver.isSyn = true ∨ entry.2.header.syn = true →
    endIndex entry < 2 ^ 64 ∧
      EndInTime (endIndex entry) e.conn.receiver.reassembler entry.2.payload

instance (e : Endpoint) (entry : Nat × TCPSegment) : Decidable (FinInTime e entry) :=
  inferInstanceAs (Decidable (_ → _ → _ → _ ∧ (_ ∨ _ ∨ _ ∨ _)))

def Timely (n : Pair) (event : Event) : Prop :=
  Allowed n event ∧
    match event with
    | .act _ _ => True
    | .deliver side index =>
        ∀ entry ∈ (n.get side.other).emitted[index]?, FinInTime (n.get side) entry

instance (n : Pair) : (event : Event) → Decidable (Timely n event)
  | .act _ _ => inferInstanceAs (Decidable (_ ∧ True))
  | .deliver _ _ => inferInstanceAs (Decidable (_ ∧ ∀ entry ∈ _, _))

/-- The reassembler learns of the end of the stream only once the source has sent its FIN, and keeps the
last byte until the stream is complete. -/
structure Finishes (source : Endpoint) (r : TCPReceiver) : Prop where
  announced : r.reassembler.eof = true →
    source.conn.sender.fin = true ∧ source.accepted.length < 2 ^ 64
  ends : EndsAt source.accepted.length r.reassembler

theorem new_finishes (source : Endpoint) (capacity : Nat) :
    Finishes source (TCPReceiver.new capacity) :=
  ⟨fun announced => (Bool.false_ne_true announced).elim, endsAt_of_running rfl rfl⟩

theorem finishes_setError {source : Endpoint} {r : TCPReceiver} (finishes : Finishes source r) :
    Finishes source r.setError := ⟨finishes.announced, finishes.ends.covered, finishes.ends.ended⟩

theorem finishes_read {source : Endpoint} {r : TCPReceiver} (finishes : Finishes source r) (len : Nat) :
    Finishes source (r.readOut len).2 :=
  ⟨finishes.announced, finishes.ends.covered, finishes.ends.ended⟩

theorem operate_finishes {filled : List TCPSegment} {source : Endpoint} {r : TCPReceiver}
    (whole : Source filled source) (finishes : Finishes source r) (operation : Operation)
    (open_ : NoLateWrite source.conn operation) : Finishes (source.operate operation) r := by
  -- once the end is announced the source has sent its FIN, so it accepts nothing more
  cases announced : r.reassembler.eof with
  | false =>
      refine ⟨fun learned => ?_, endsAt_of_running announced ?_⟩
      · rw [announced] at learned
        cases learned
      · rw [← Bool.not_eq_true]
        intro ended
        rw [(finishes.ends.ended ended).1] at announced
        cases announced
  | true =>
      obtain ⟨fin, short⟩ := finishes.announced announced
      have accepted : (source.operate operation).accepted = source.accepted := by
        cases operation with
        | write data =>
            rw [NoLateWrite, (whole.carried.closed fin).1] at open_
            cases open_
        | _ => exact List.append_nil _
      have finAfter : (source.operate operation).conn.sender.fin = true := by
        rw [Endpoint.operate, (operate_outcome whole.settled operation).sender]
        exact ((run_advances whole.settled.coherent whole.carried _
          (senderCalls_open source.conn operation open_)).fin fin).1
      refine ⟨fun _ => ⟨finAfter, ?_⟩, ?_⟩
      · rw [accepted]
        exact short
      · rw [accepted]
        exact finishes.ends

section Heard

variable {source : Endpoint} {consumed : List Byte} {r : TCPReceiver} {seqno : Nat}
  {segment : TCPSegment} (piece : Piece source seqno segment)

include piece

theorem piece_index (short : source.accepted.length < 2 ^ 64)
    (carries : segment.payload ≠ [] ∨ segment.header.fin = true) :
    (payloadSeqno seqno segment + (2 ^ 64 - 1)) % 2 ^ 64 + segment.payload.length =
        endIndex (seqno, segment) ∧ endIndex (seqno, segment) ≤ source.accepted.length := by
  have started := piece.started carries
  have fits : endIndex (seqno, segment) ≤ source.accepted.length := by
    rcases carries with bytes | fin
    · have length := piece.bytes.length_le
      have positive := List.length_pos_iff.mpr bytes
      rw [List.length_drop] at length
      simp only [endIndex]
      omega
    · exact (piece.fin fin).2.le
  simp only [endIndex] at fits ⊢
  omega

theorem heard_finishes (above : payloadSeqno seqno segment < r.firstUnassembled + 2 ^ 31)
    (below : r.firstUnassembled < payloadSeqno seqno segment + 2 ^ 31)
    (hears : Hears source consumed r) (finishes : Finishes source r)
    (inTime : segment.header.fin = true → r.isSyn = true ∨ segment.header.syn = true →
      endIndex (seqno, segment) < 2 ^ 64 ∧
        EndInTime (endIndex (seqno, segment)) r.reassembler segment.payload) :
    Finishes source (r.segmentReceived segment) := by
  by_cases opened : r.isSyn = true ∨ segment.header.syn = true
  case neg =>
    rw [TCPReceiver.segmentReceived_unopened r segment opened]
    exact finishes
  case pos =>
    rw [TCPReceiver.segmentReceived_accepted r segment opened,
      heard_index piece above below hears opened]
    have known : r.reassembler.eof = true ∨ segment.header.fin = true →
        source.conn.sender.fin = true ∧ source.accepted.length < 2 ^ 64 := by
      rintro (before | fin)
      · exact finishes.announced before
      · obtain ⟨sent, total⟩ := piece.fin fin
        exact ⟨sent, total ▸ (inTime fin opened).1⟩
    refine ⟨?_, ?_⟩
    · intro announced
      rw [pushSubstring_eof] at announced
      exact known (markEof_announced announced)
    · apply pushSubstring_endsAt hears.valid finishes.ends
      · intro either
        have short := (known either).2
        by_cases empty : segment.payload = []
        · rw [empty, List.length_nil]
          omega
        · have place := piece_index piece short (.inl empty)
          omega
      · intro fin
        have short := (known (.inr fin)).2
        have place := piece_index piece short (.inr fin)
        have total : endIndex (seqno, segment) = source.accepted.length := (piece.fin fin).2
        rw [← total]
        exact ⟨place.1, (inTime fin opened).1, (inTime fin opened).2⟩

end Heard

structure EndInv (n : Pair) : Prop where
  inv : Inv n
  finishes : ∀ side, Finishes (n.get side.other) (n.get side).conn.receiver

theorem start_endInv (cfg : Side → TCPConfig) (randomIsn : Side → WrappingInt32) :
    EndInv (start cfg randomIsn) where
  inv := start_inv cfg randomIsn
  finishes := by
    intro side
    cases side <;> exact new_finishes _ _

theorem ignored_receiver {c : TCPConnection} {segment : TCPSegment} (ignored : ¬ Passes c segment) :
    (c.segmentReceived segment).receiver = c.receiver ∨
      (c.segmentReceived segment).receiver = c.receiver.setError := by
  cases reset : segment.header.rst with
  | true =>
      right
      have inactive : { c with timeSinceLastSegmentReceived := 0 }.report.active = false := rfl
      simp only [TCPConnection.segmentReceived, reset, if_true, inactive, Bool.not_false]
      rfl
  | false =>
      left
      have inactive : { c with timeSinceLastSegmentReceived := 0 }.active = false :=
        Bool.eq_false_iff.mpr fun active => ignored ⟨active, reset⟩
      simp only [TCPConnection.segmentReceived, reset, Bool.false_eq_true, if_false, inactive, Bool.not_false,
        if_true]

theorem operate_receiver_finishes {filled : List TCPSegment} {source e : Endpoint}
    (settled : Settled filled e.conn) (hears : Hears source e.consumed e.conn.receiver)
    (finishes : Finishes source e.conn.receiver) (operation : Operation)
    (delivered : ∀ segment, operation = .segmentReceived segment →
      ∃ seqno, Piece source seqno segment ∧ Near e (seqno, segment) ∧ FinInTime e (seqno, segment)) :
    Finishes source (e.operate operation).conn.receiver := by
  by_cases passed : ∀ segment, operation = .segmentReceived segment → Passes e.conn segment
  · refine (operate_outcome settled operation).heard.rule finishes ?_
      (fun len _ => finishes_read finishes len) (fun _ => finishes_setError)
    intro segment same
    obtain ⟨seqno, piece, ⟨above, below⟩, inTime⟩ := delivered segment same
    exact heard_finishes piece above below hears finishes (inTime (passed segment same))
  · push Not at passed
    obtain ⟨segment, rfl, ignored⟩ := passed
    rcases ignored_receiver ignored with same | failed
    · exact same.symm ▸ finishes
    · exact failed.symm ▸ finishes_setError finishes

theorem operate_endInv {n : Pair} (endInv : EndInv n) (side : Side) (operation : Operation)
    (open_ : NoLateWrite (n.get side).conn operation)
    (delivered : ∀ segment, operation = .segmentReceived segment →
      ∃ seqno, Piece (n.get side.other) seqno segment ∧ Near (n.get side) (seqno, segment) ∧
        FinInTime (n.get side) (seqno, segment)) :
    EndInv (n.set side ((n.get side).operate operation)) := by
  obtain ⟨filled, source⟩ := endInv.inv.source side
  refine ⟨operate_inv endInv.inv side operation open_ ?_, ?_⟩
  · intro segment same
    obtain ⟨seqno, piece, near, _⟩ := delivered segment same
    exact ⟨seqno, piece, near⟩
  · intro which
    rcases eq_or_other side which with rfl | rfl
    · rw [Pair.get_set_same, Pair.get_set_other]
      exact operate_receiver_finishes source.settled (endInv.inv.hears which)
        (endInv.finishes which) operation delivered
    · rw [Pair.get_set_other, Side.other_other, Pair.get_set_same]
      have before := endInv.finishes side.other
      rw [Side.other_other] at before
      exact operate_finishes source before operation open_

theorem step_endInv (n : Pair) (event : Event) (endInv : EndInv n) (timely : Timely n event) :
    EndInv (step n event) := by
  obtain ⟨allowed, inTime⟩ := timely
  cases event with
  | act side operation =>
      refine operate_endInv endInv side operation allowed.2 ?_
      rintro segment rfl
      exact allowed.1.elim
  | deliver side index =>
      simp only [step]
      cases arrived : (n.get side.other).emitted[index]? with
      | none => exact endInv
      | some entry =>
          refine operate_endInv endInv side _ trivial ?_
          intro segment same
          cases same
          obtain ⟨filled, source⟩ := endInv.inv.source side.other
          exact ⟨entry.1, emitted_piece source (List.mem_of_getElem? arrived), allowed entry arrived,
            inTime entry arrived⟩

/-- When every delivered FIN is in time, a clean end of an inbound stream means a complete transfer, over
every interleaving, loss, repetition and reordering. -/
theorem timely_end_is_complete {cfg : Side → TCPConfig} {randomIsn : Side → WrappingInt32} {n : Pair}
    (reached : Reachable step Timely (start cfg randomIsn) n) : CompleteTransfer n := by
  have endInv := reachable_invariant (start_endInv cfg randomIsn) step_endInv reached
  intro side ended
  obtain ⟨announced, all⟩ := (endInv.finishes side).ends.ended ended
  have fin := ((endInv.finishes side).announced announced).1
  obtain ⟨filled, source⟩ := endInv.inv.source side.other
  have hears := endInv.inv.hears side
  have written := hears.agrees.1.length_le
  rw [List.length_append, hears.read] at written
  have accounting : (n.get side).conn.inboundStream.bytesWritten = _ := hears.valid.sound.accounting
  refine ⟨(source.carried.closed fin).1, Nat.le_antisymm ?_ all⟩
  rw [accounting]
  exact written

def oneByte : List Event :=
  [.act .left .connect, .deliver .right 0, .deliver .left 0, .act .left (.write [7]),
    .act .left .endInputStream]

theorem ordered_end_is_complete :
    let n := (oneByte ++ [Event.deliver .right 2, .deliver .right 3]).foldl step
      (start (fun _ => smallConfig) (fun _ => ⟨41⟩))
    CompleteTransfer n ∧ n.right.conn.inboundStream.inputEnded = true :=
  ⟨timely_end_is_complete (reachable_run _ (by decide +kernel)), by decide +kernel⟩

/-- The byte is lost and the FIN alone arrives: the inbound stream ends with nothing written. -/
theorem lone_fin_ends_early :
    let n := (oneByte ++ [Event.deliver .right 3]).foldl step
      (start (fun _ => smallConfig) (fun _ => ⟨41⟩))
    Reachable step Allowed (start (fun _ => smallConfig) (fun _ => ⟨41⟩)) n ∧
      n.right.conn.inboundStream.eof = true ∧ n.right.conn.inboundStream.bytesWritten = 0 ∧
      n.left.accepted = [7] ∧ ¬ CompleteTransfer n := by
  refine ⟨reachable_run _ (by decide +kernel), by decide +kernel, by decide +kernel,
    by decide +kernel, ?_⟩
  intro complete
  have all := (complete .right (by decide +kernel)).2
  revert all
  decide +kernel

end Sponge.NetworkEnd
