import Sponge.TcpSegment
import Sponge.Tiling

/-! The sender of `tcp_sender.hh` and `tcp_sender.cc`.

Absolute sequence numbers are natural numbers. Window sizes, timeouts and elapsed times keep their
machine widths, and `size_t` differences that the source lets wrap are taken modulo `2 ^ 64`. -/

namespace Sponge

def maxPayloadSize : Nat := 1000

/-- Subtraction of `size_t` values. -/
def subSize (a b : Nat) : Nat := (a + (2 ^ 64 - b % 2 ^ 64)) % 2 ^ 64

theorem subSize_of_le {a b : Nat} (order : b ≤ a) (bound : a < 2 ^ 64) : subSize a b = a - b := by
  unfold subSize
  omega

structure TCPSender where
  isn : WrappingInt32
  windowSize : UInt16
  receiverWindowSize : UInt16
  segmentsOut : List TCPSegment
  outstandingSegments : List TCPSegment
  isTimerOn : Bool
  initialRetransmissionTimeout : UInt32
  retransmissionTimeout : UInt32
  timerElapsed : UInt64
  consecutiveRetransmissions : UInt64
  stream : ByteStream
  fin : Bool
  currentSeqno : Nat
  nextSeqno : Nat
  deriving DecidableEq, Repr

namespace TCPSender

/-- `randomIsn` is what `random_device` returns when no number is fixed. -/
def new (capacity : Nat) (retxTimeout : UInt16) (fixedIsn : Option WrappingInt32)
    (randomIsn : WrappingInt32) : TCPSender where
  isn := fixedIsn.getD randomIsn
  windowSize := 1
  receiverWindowSize := 1
  segmentsOut := []
  outstandingSegments := []
  isTimerOn := false
  initialRetransmissionTimeout := retxTimeout.toUInt32
  retransmissionTimeout := retxTimeout.toUInt32
  timerElapsed := 0
  consecutiveRetransmissions := 0
  stream := ByteStream.new capacity
  fin := false
  currentSeqno := 0
  nextSeqno := 0

def bytesInFlight (s : TCPSender) : Nat := s.nextSeqno - s.currentSeqno

def consecutiveRetransmissionCount (s : TCPSender) : UInt32 := s.consecutiveRetransmissions.toUInt32

/-- The constants that `fill_window` computes before its loop. -/
structure FillPlan where
  hasSyn : Bool
  reachFin : Bool
  actualPayloadSize : Nat
  numSegments : Nat
  deriving DecidableEq, Repr

def fillPlan (s : TCPSender) : FillPlan :=
  let hasSyn := s.nextSeqno == 0
  let hasFin := s.stream.inputEnded && !s.fin
  let totalWindowSize := hasSyn.toNat + s.stream.bufferSize + hasFin.toNat
  let reachFin := hasFin && decide (s.windowSize.toNat ≥ totalWindowSize)
  let actualWindowSize := min totalWindowSize s.windowSize.toNat
  let actualPayloadSize := subSize (subSize actualWindowSize hasSyn.toNat) reachFin.toNat
  let numSegments := max ((actualPayloadSize + maxPayloadSize - 1) % 2 ^ 64 / maxPayloadSize)
    (hasSyn || reachFin).toNat
  ⟨hasSyn, reachFin, actualPayloadSize, numSegments⟩

/-- Timer initiation: a running timer is left alone. -/
def startTimer (s : TCPSender) : TCPSender :=
  if !s.isTimerOn then
    { s with
      isTimerOn := true
      retransmissionTimeout := s.initialRetransmissionTimeout
      timerElapsed := 0
      consecutiveRetransmissions := 0 }
  else s

/-- Send `size` bytes of the stream in one segment with the given flags. -/
def emit (s : TCPSender) (syn fin : Bool) (size : Nat) : TCPSender :=
  let segment : TCPSegment :=
    { header := { syn := syn, fin := fin, seqno := wrap s.nextSeqno s.isn }
      payload := (s.stream.read size).1 }
  startTimer
    { s with
      stream := (s.stream.read size).2
      nextSeqno := s.nextSeqno + segment.lengthInSequenceSpace
      windowSize := s.windowSize - UInt16.ofNat segment.lengthInSequenceSpace
      segmentsOut := s.segmentsOut ++ [segment]
      outstandingSegments := s.outstandingSegments ++ [segment]
      fin := s.fin || segment.header.fin }

/-- The body of the loop of `fill_window`. -/
def fillStep (plan : FillPlan) (s : TCPSender) (index : Nat) : TCPSender :=
  let last := index == subSize plan.numSegments 1
  let size := if last then subSize plan.actualPayloadSize (maxPayloadSize * index) else maxPayloadSize
  s.emit (index == 0 && plan.hasSyn) (last && plan.reachFin) size

def fillWindow (s : TCPSender) : TCPSender :=
  (List.range s.fillPlan.numSegments).foldl (fillStep s.fillPlan) s

/-- Pop the outstanding segments that lie before `_current_seqno`. -/
def popAcked (s : TCPSender) : List TCPSegment → TCPSender
  | [] => { s with outstandingSegments := [] }
  | segment :: rest =>
      if unwrapAt segment.header.seqno s.isn s.nextSeqno + segment.lengthInSequenceSpace >
          s.currentSeqno then
        { s with outstandingSegments := segment :: rest }
      else
        popAcked
          { s with
            retransmissionTimeout := s.initialRetransmissionTimeout
            consecutiveRetransmissions := 0
            timerElapsed := 0 } rest

/-- The timer is turned off when nothing is outstanding. -/
def stopIdleTimer (s : TCPSender) : TCPSender :=
  if s.outstandingSegments.isEmpty then { s with isTimerOn := false } else s

/-- The lower bound `max(..., 0)` of the source has no effect on an unsigned difference. -/
def estimatedWindow (windowSize : UInt16) (bytesInFlight : Nat) : UInt16 :=
  UInt16.ofNat (max (subSize (max windowSize.toNat 1) bytesInFlight) 0)

/-- The update of `_current_seqno` and of both windows by an acceptable acknowledgment. -/
def noteAck (s : TCPSender) (absoluteAckno : Nat) (windowSize : UInt16) : TCPSender :=
  { s with
    currentSeqno := max s.currentSeqno absoluteAckno
    receiverWindowSize := windowSize
    windowSize := estimatedWindow windowSize (s.nextSeqno - max s.currentSeqno absoluteAckno) }

def ackReceived (s : TCPSender) (ackno : WrappingInt32) (windowSize : UInt16) : TCPSender :=
  let absoluteAckno := unwrapAt ackno s.isn s.nextSeqno
  if absoluteAckno ≤ s.nextSeqno then
    let s := s.noteAck absoluteAckno windowSize
    if !s.isTimerOn then s
    else (s.popAcked s.outstandingSegments).fillWindow.stopIdleTimer
  else s.stopIdleTimer

theorem ackReceived_refused {s : TCPSender} {ackno : WrappingInt32}
    (refused : ¬ unwrapAt ackno s.isn s.nextSeqno ≤ s.nextSeqno) (windowSize : UInt16) :
    s.ackReceived ackno windowSize = s.stopIdleTimer := by
  rw [ackReceived, if_neg refused]

theorem ackReceived_untimed {s : TCPSender} {ackno : WrappingInt32}
    (acceptable : unwrapAt ackno s.isn s.nextSeqno ≤ s.nextSeqno) (off : s.isTimerOn = false)
    (windowSize : UInt16) :
    s.ackReceived ackno windowSize = s.noteAck (unwrapAt ackno s.isn s.nextSeqno) windowSize := by
  simp [ackReceived, acceptable, noteAck, off]

theorem ackReceived_refilled {s : TCPSender} {ackno : WrappingInt32}
    (acceptable : unwrapAt ackno s.isn s.nextSeqno ≤ s.nextSeqno) (on : s.isTimerOn = true)
    (windowSize : UInt16) :
    s.ackReceived ackno windowSize =
      ((s.noteAck (unwrapAt ackno s.isn s.nextSeqno) windowSize).popAcked
        s.outstandingSegments).fillWindow.stopIdleTimer := by
  simp [ackReceived, acceptable, noteAck, on]

/-- Retransmission of the front of the queue, with exponential backoff unless the window is zero. -/
def retransmit (s : TCPSender) : TCPSender :=
  let s := { s with segmentsOut := s.segmentsOut ++ s.outstandingSegments.head?.toList }
  let s :=
    if s.receiverWindowSize > 0 then
      { s with
        consecutiveRetransmissions := s.consecutiveRetransmissions + 1
        retransmissionTimeout := s.retransmissionTimeout <<< 1 }
    else s
  { s with timerElapsed := 0 }

def tick (s : TCPSender) (msSinceLastTick : UInt64) : TCPSender :=
  if !s.isTimerOn then s
  else
    let s := { s with timerElapsed := s.timerElapsed + msSinceLastTick }
    if s.timerElapsed ≥ s.retransmissionTimeout.toUInt64 then s.retransmit else s

def sendEmptySegment (s : TCPSender) : TCPSender :=
  { s with segmentsOut := s.segmentsOut ++ [{ header := { seqno := wrap s.nextSeqno s.isn } }] }

def writeStream (s : TCPSender) (data : List Byte) : TCPSender :=
  { s with stream := (s.stream.write data).2 }

def endStream (s : TCPSender) : TCPSender := { s with stream := s.stream.endInput }

def failStream (s : TCPSender) : TCPSender := { s with stream := s.stream.setError }

end TCPSender
end Sponge
