import Sponge.ReassemblerStream
import Sponge.TcpSegment

/-! The receiver of `tcp_receiver.hh` and `tcp_receiver.cc`. -/

namespace Sponge

structure TCPReceiver where
  reassembler : StreamReassembler
  capacity : Nat
  isSyn : Bool
  isFin : Bool
  isn : WrappingInt32
  deriving DecidableEq, Repr

namespace TCPReceiver

def new (capacity : Nat) : TCPReceiver :=
  ⟨StreamReassembler.new capacity, capacity, false, false, ⟨0⟩⟩

def streamOut (r : TCPReceiver) : ByteStream := r.reassembler.output

def firstUnassembled (r : TCPReceiver) : Nat := r.streamOut.bytesWritten

def unassembledBytes (r : TCPReceiver) : Nat := r.reassembler.unassembledBytes

/-- The first SYN fixes the initial sequence number. -/
def noteSyn (r : TCPReceiver) (segment : TCPSegment) : TCPReceiver :=
  if !r.isSyn && segment.header.syn then { r with isSyn := true, isn := segment.header.seqno } else r

/-- `unwrap(...) - 1` in `uint64_t`: an absolute sequence number of zero wraps to the largest index. -/
def streamIndex (r : TCPReceiver) (segment : TCPSegment) : Nat :=
  let seqno := segment.header.seqno.plus (if segment.header.syn then 1 else 0)
  (unwrapAt seqno r.isn r.firstUnassembled + (2 ^ 64 - 1)) % 2 ^ 64

def segmentReceived (r : TCPReceiver) (segment : TCPSegment) : TCPReceiver :=
  let r := r.noteSyn segment
  if !r.isSyn then r
  else
    let r := if segment.header.fin then { r with isFin := true } else r
    { r with
      reassembler :=
        r.reassembler.pushSubstring segment.payload (r.streamIndex segment) segment.header.fin }

def ackno (r : TCPReceiver) : Option WrappingInt32 :=
  if !r.isSyn then none
  else
    let absSeqno := (if r.isSyn then 1 else 0) + r.firstUnassembled +
      (if r.isFin && r.reassembler.empty then 1 else 0)
    some (wrap absSeqno r.isn)

def windowSize (r : TCPReceiver) : Nat := r.capacity - r.streamOut.bufferSize

def readOut (r : TCPReceiver) (len : Nat) : List Byte × TCPReceiver :=
  ((r.streamOut.read len).1, { r with reassembler := (r.reassembler.readOut len).2 })

def setError (r : TCPReceiver) : TCPReceiver :=
  { r with reassembler := { r.reassembler with output := r.reassembler.output.setError } }

theorem segmentReceived_ignored (r : TCPReceiver) (segment : TCPSegment) (closed : r.isSyn = false)
    (plain : segment.header.syn = false) : r.segmentReceived segment = r := by
  simp [segmentReceived, noteSyn, closed, plain]

theorem segmentReceived_unopened (r : TCPReceiver) (segment : TCPSegment)
    (closed : ¬ (r.isSyn = true ∨ segment.header.syn = true)) : r.segmentReceived segment = r := by
  rw [not_or, Bool.not_eq_true, Bool.not_eq_true] at closed
  exact segmentReceived_ignored r segment closed.1 closed.2

theorem segmentReceived_accepted (r : TCPReceiver) (segment : TCPSegment)
    (opened : r.isSyn = true ∨ segment.header.syn = true) :
    r.segmentReceived segment =
      { reassembler := r.reassembler.pushSubstring segment.payload
          ((r.noteSyn segment).streamIndex segment) segment.header.fin
        capacity := r.capacity
        isSyn := true
        isFin := r.isFin || segment.header.fin
        isn := if r.isSyn then r.isn else segment.header.seqno } := by
  obtain ⟨reassembler, capacity, isSyn, isFin, isn⟩ := r
  cases isSyn <;> cases fin : segment.header.fin <;> cases syn : segment.header.syn <;>
    simp_all [segmentReceived, noteSyn, streamIndex, firstUnassembled, streamOut]

theorem segmentReceived_streamOut (r : TCPReceiver) (segment : TCPSegment) :
    (r.segmentReceived segment).streamOut = r.streamOut ∨
      ∃ ret ended, (r.segmentReceived segment).streamOut =
        if ended = true then (r.streamOut.write ret).2.endInput else (r.streamOut.write ret).2 := by
  by_cases opened : r.isSyn = true ∨ segment.header.syn = true
  · right
    rw [segmentReceived_accepted r segment opened]
    exact StreamReassembler.pushSubstring_output _ _ _ _
  · left
    rw [segmentReceived_unopened r segment opened]

theorem segmentReceived_error (r : TCPReceiver) (segment : TCPSegment) :
    (r.segmentReceived segment).streamOut.error = r.streamOut.error := by
  rcases segmentReceived_streamOut r segment with same | ⟨ret, ended, changed⟩
  · rw [same]
  · rw [changed]
    split <;> rfl

theorem segmentReceived_inputEnded (r : TCPReceiver) (segment : TCPSegment)
    (ended : r.streamOut.inputEnded = true) :
    (r.segmentReceived segment).streamOut.inputEnded = true := by
  rcases segmentReceived_streamOut r segment with same | ⟨ret, ends, changed⟩
  · rw [same]
    exact ended
  · rw [changed]
    split
    · rfl
    · exact ended

theorem segmentReceived_isSyn (r : TCPReceiver) (segment : TCPSegment) (opened : r.isSyn = true) :
    (r.segmentReceived segment).isSyn = true := by
  rw [segmentReceived_accepted r segment (.inl opened)]

theorem ackno_some (r : TCPReceiver) (opened : r.isSyn = true) :
    r.ackno = some (wrap (1 + r.firstUnassembled +
      (if r.isFin && r.reassembler.empty then 1 else 0)) r.isn) := by
  simp [ackno, opened]

theorem ackno_isSome (r : TCPReceiver) : r.ackno.isSome = r.isSyn := by
  unfold ackno
  cases r.isSyn <;> rfl

theorem streamIndex_eq (r : TCPReceiver) (segment : TCPSegment) (seqno : Nat)
    (number : segment.header.seqno = wrap seqno r.isn)
    (above : segment.payloadSeqno seqno < r.firstUnassembled + 2 ^ 31)
    (below : r.firstUnassembled < segment.payloadSeqno seqno + 2 ^ 31) :
    r.streamIndex segment = (segment.payloadSeqno seqno + (2 ^ 64 - 1)) % 2 ^ 64 := by
  have shifted : segment.header.seqno.plus (if segment.header.syn then 1 else 0) =
      wrap (segment.payloadSeqno seqno) r.isn := by
    rw [number, TCPSegment.payloadSeqno, ← wrap_plus]
    cases segment.header.syn <;> rfl
  simp only [streamIndex]
  rw [shifted, unwrapAt_wrap _ _ _ above below]

theorem noteSyn_streamIndex (r : TCPReceiver) (segment : TCPSegment) (seqno : Nat)
    (isn : WrappingInt32) (number : segment.header.seqno = wrap seqno isn)
    (first : segment.header.syn = true → seqno = 0) (known : r.isSyn = true → r.isn = isn)
    (opened : r.isSyn = true ∨ segment.header.syn = true)
    (above : segment.payloadSeqno seqno < r.firstUnassembled + 2 ^ 31)
    (below : r.firstUnassembled < segment.payloadSeqno seqno + 2 ^ 31) :
    (r.noteSyn segment).streamIndex segment = (segment.payloadSeqno seqno + (2 ^ 64 - 1)) % 2 ^ 64 := by
  have isnAfter : (r.noteSyn segment).isn = isn := by
    unfold noteSyn
    split
    case isTrue learns =>
      simp only [Bool.and_eq_true] at learns
      rw [number, first learns.2, wrap_zero]
    case isFalse keeps =>
      apply known
      rcases opened with before | now
      · exact before
      · simpa [now] using keeps
  have written : (r.noteSyn segment).firstUnassembled = r.firstUnassembled := by
    unfold noteSyn
    split <;> rfl
  apply streamIndex_eq
  · rw [isnAfter]
    exact number
  · rw [written]
    exact above
  · rw [written]
    exact below

end TCPReceiver
end Sponge
