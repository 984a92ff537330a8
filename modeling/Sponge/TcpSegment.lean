import Sponge.ByteStream
import Sponge.WrappingIntegers

/-! TCP segments as the endpoints exchange them (`tcp_header.hh`, `tcp_segment.hh`). A payload
`Buffer` is the bytes it shows. -/

namespace Sponge

structure TCPHeader where
  sport : UInt16 := 0
  dport : UInt16 := 0
  seqno : WrappingInt32 := ⟨0⟩
  ackno : WrappingInt32 := ⟨0⟩
  doff : UInt8 := 5
  urg : Bool := false
  ack : Bool := false
  psh : Bool := false
  rst : Bool := false
  syn : Bool := false
  fin : Bool := false
  win : UInt16 := 0
  cksum : UInt16 := 0
  uptr : UInt16 := 0
  deriving DecidableEq, Repr

structure TCPSegment where
  header : TCPHeader := {}
  payload : List Byte := []
  deriving DecidableEq, Repr

namespace TCPSegment

def lengthInSequenceSpace (segment : TCPSegment) : Nat :=
  segment.payload.length + (if segment.header.syn then 1 else 0) +
    (if segment.header.fin then 1 else 0)

/-- Absolute sequence number of the first payload byte of a segment that starts at `seqno`. -/
def payloadSeqno (seqno : Nat) (segment : TCPSegment) : Nat :=
  seqno + if segment.header.syn then 1 else 0

end TCPSegment
end Sponge
