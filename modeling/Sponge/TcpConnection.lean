import Sponge.TcpReceiver
import Sponge.TcpSender

/-! The connection of `tcp_connection.hh` and `tcp_connection.cc`, with the configuration fields of
`tcp_config.hh` that it reads. -/

namespace Sponge

structure TCPConfig where
  rtTimeout : UInt16 := 1000
  recvCapacity : Nat := 64000
  sendCapacity : Nat := 64000
  fixedIsn : Option WrappingInt32 := none
  deriving DecidableEq, Repr

def maxRetxAttempts : UInt32 := 8

structure TCPConnection where
  cfg : TCPConfig
  receiver : TCPReceiver
  sender : TCPSender
  segmentsOut : List TCPSegment
  lingerAfterStreamsFinish : Bool
  error : Bool
  fin : Bool
  timeSinceLastSegmentReceived : UInt64
  deriving DecidableEq, Repr

namespace TCPConnection

def new (cfg : TCPConfig) (randomIsn : WrappingInt32) : TCPConnection where
  cfg := cfg
  receiver := TCPReceiver.new cfg.recvCapacity
  sender := TCPSender.new cfg.sendCapacity cfg.rtTimeout cfg.fixedIsn randomIsn
  segmentsOut := []
  lingerAfterStreamsFinish := true
  error := false
  fin := false
  timeSinceLastSegmentReceived := 0

def inboundStream (c : TCPConnection) : ByteStream := c.receiver.streamOut

/-- Both streams have finished and everything sent is acknowledged. -/
def checkPrereqs (c : TCPConnection) : Bool :=
  if !(c.fin && c.sender.stream.eof) || c.sender.bytesInFlight != 0 then false
  else if !c.receiver.streamOut.eof then false
  else true

def active (c : TCPConnection) : Bool :=
  if c.error then false
  else if !c.checkPrereqs || c.lingerAfterStreamsFinish then true
  else false

def report (c : TCPConnection) : TCPConnection :=
  { c with error := true, sender := c.sender.failStream, receiver := c.receiver.setError }

/-- The header fields that the connection fills in. -/
def stamp (c : TCPConnection) (segment : TCPSegment) : TCPSegment :=
  let header := segment.header
  let header :=
    match c.receiver.ackno with
    | some ackno => { header with ack := true, ackno := ackno }
    | none => header
  { segment with
    header := { header with win := UInt16.ofNat (min c.receiver.windowSize 0xFFFF), rst := c.error } }

/-- One round of the loop of `_send`. -/
def sendOne (c : TCPConnection) (segment : TCPSegment) : TCPConnection :=
  { c with
    fin := if segment.header.fin then true else c.fin
    segmentsOut := c.segmentsOut ++ [c.stamp segment] }

def send (c : TCPConnection) : TCPConnection :=
  c.sender.segmentsOut.foldl sendOne { c with sender := { c.sender with segmentsOut := [] } }

/-- The number of accepted bytes and the connection after the write. -/
def write (c : TCPConnection) (data : List Byte) : Nat × TCPConnection :=
  if !c.active then (0, c)
  else
    let size := (c.sender.stream.write data).1
    (size, { c with sender := (c.sender.writeStream data).fillWindow }.send)

def tick (c : TCPConnection) (msSinceLastTick : UInt64) : TCPConnection :=
  if !c.active then c
  else
    let c :=
      { c with
        timeSinceLastSegmentReceived := c.timeSinceLastSegmentReceived + msSinceLastTick
        sender := c.sender.tick msSinceLastTick }
    let c := if c.sender.consecutiveRetransmissionCount > maxRetxAttempts then c.report else c
    let c :=
      if c.checkPrereqs &&
          decide (c.timeSinceLastSegmentReceived.toNat ≥ 10 * c.cfg.rtTimeout.toNat) then
        { c with lingerAfterStreamsFinish := false }
      else c
    c.send

def endInputStream (c : TCPConnection) : TCPConnection :=
  if !c.active then c else { c with sender := c.sender.endStream.fillWindow }.send

def connect (c : TCPConnection) : TCPConnection := { c with sender := c.sender.fillWindow }.send

/-- An empty segment that repeats the last acknowledged sequence number. -/
def isKeepAlive (c : TCPConnection) (segment : TCPSegment) : Bool :=
  match c.receiver.ackno with
  | some ackno => segment.lengthInSequenceSpace == 0 && segment.header.seqno == ackno.minus 1
  | none => false

/-- The reaction to an ordinary segment, before anything is sent. -/
def react (c : TCPConnection) (segment : TCPSegment) : TCPConnection :=
  let c := { c with receiver := c.receiver.segmentReceived segment }
  let c :=
    if segment.header.ack then
      { c with sender := c.sender.ackReceived segment.header.ackno segment.header.win }
    else { c with sender := c.sender.fillWindow }
  let c :=
    if segment.lengthInSequenceSpace != 0 && c.sender.segmentsOut.isEmpty then
      { c with sender := c.sender.sendEmptySegment }
    else c
  if c.receiver.streamOut.eof && !(c.sender.stream.eof && c.fin) then
    { c with lingerAfterStreamsFinish := false }
  else c

def segmentReceived (c : TCPConnection) (segment : TCPSegment) : TCPConnection :=
  let c := { c with timeSinceLastSegmentReceived := 0 }
  let c := if segment.header.rst then c.report else c
  if !c.active then c
  else if c.isKeepAlive segment then { c with sender := c.sender.sendEmptySegment }.send
  else (c.react segment).send

def readInbound (c : TCPConnection) (len : Nat) : List Byte × TCPConnection :=
  ((c.receiver.readOut len).1, { c with receiver := (c.receiver.readOut len).2 })

theorem sendOne_foldl (queue : List TCPSegment) (c : TCPConnection) :
    queue.foldl sendOne c =
      { c with
        fin := c.fin || queue.any (fun segment => segment.header.fin)
        segmentsOut := c.segmentsOut ++ queue.map c.stamp } := by
  induction queue generalizing c with
  | nil => simp
  | cons segment queue ih =>
      rw [List.foldl_cons, ih]
      have kept : (c.sendOne segment).stamp = c.stamp := rfl
      rw [kept]
      cases fin : segment.header.fin <;> simp [sendOne, fin, List.append_assoc]

theorem send_eq (c : TCPConnection) :
    c.send =
      { c with
        sender := { c.sender with segmentsOut := [] }
        fin := c.fin || c.sender.segmentsOut.any (fun segment => segment.header.fin)
        segmentsOut := c.segmentsOut ++ c.sender.segmentsOut.map c.stamp } := by
  rw [send, sendOne_foldl]
  rfl

@[simp] theorem send_cfg (c : TCPConnection) : c.send.cfg = c.cfg := by rw [send_eq]

@[simp] theorem send_receiver (c : TCPConnection) : c.send.receiver = c.receiver := by rw [send_eq]

@[simp] theorem send_sender (c : TCPConnection) :
    c.send.sender = { c.sender with segmentsOut := [] } := by rw [send_eq]

@[simp] theorem send_segmentsOut (c : TCPConnection) :
    c.send.segmentsOut = c.segmentsOut ++ c.sender.segmentsOut.map c.stamp := by rw [send_eq]

@[simp] theorem send_linger (c : TCPConnection) :
    c.send.lingerAfterStreamsFinish = c.lingerAfterStreamsFinish := by rw [send_eq]

@[simp] theorem send_error (c : TCPConnection) : c.send.error = c.error := by rw [send_eq]

@[simp] theorem send_fin (c : TCPConnection) :
    c.send.fin = (c.fin || c.sender.segmentsOut.any (fun segment => segment.header.fin)) := by
  rw [send_eq]

@[simp] theorem send_time (c : TCPConnection) :
    c.send.timeSinceLastSegmentReceived = c.timeSinceLastSegmentReceived := by rw [send_eq]

@[simp] theorem react_error (c : TCPConnection) (segment : TCPSegment) :
    (c.react segment).error = c.error := by
  unfold react
  dsimp only
  split_ifs <;> rfl

@[simp] theorem react_fin (c : TCPConnection) (segment : TCPSegment) :
    (c.react segment).fin = c.fin := by
  unfold react
  dsimp only
  split_ifs <;> rfl

@[simp] theorem react_time (c : TCPConnection) (segment : TCPSegment) :
    (c.react segment).timeSinceLastSegmentReceived = c.timeSinceLastSegmentReceived := by
  unfold react
  dsimp only
  split_ifs <;> rfl

@[simp] theorem react_receiver (c : TCPConnection) (segment : TCPSegment) :
    (c.react segment).receiver = c.receiver.segmentReceived segment := by
  unfold react
  dsimp only
  split_ifs <;> rfl

theorem react_linger (c : TCPConnection) (segment : TCPSegment) :
    (c.react segment).lingerAfterStreamsFinish =
      if (c.receiver.segmentReceived segment).streamOut.eof &&
        !((c.react segment).sender.stream.eof && c.fin) then false
      else c.lingerAfterStreamsFinish := by
  unfold react
  dsimp only
  split_ifs <;> simp_all

theorem send_idle (c : TCPConnection) (empty : c.sender.segmentsOut = []) : c.send = c := by
  have same : { c.sender with segmentsOut := [] } = c.sender := by rw [← empty]
  rw [send_eq, same, empty]
  simp

theorem stamp_congr {c other : TCPConnection} (receiver : c.receiver = other.receiver)
    (error : c.error = other.error) : c.stamp = other.stamp := by
  funext segment
  simp only [stamp, receiver, error]

theorem active_iff (c : TCPConnection) :
    c.active = true ↔
      c.error = false ∧ (c.checkPrereqs = false ∨ c.lingerAfterStreamsFinish = true) := by
  unfold active
  cases c.error <;> cases c.checkPrereqs <;> cases c.lingerAfterStreamsFinish <;> decide

theorem checkPrereqs_iff (c : TCPConnection) :
    c.checkPrereqs = true ↔
      c.fin = true ∧ c.sender.stream.eof = true ∧ c.sender.bytesInFlight = 0 ∧
        c.receiver.streamOut.eof = true := by
  unfold checkPrereqs
  by_cases flight : c.sender.bytesInFlight = 0 <;>
    cases c.fin <;> cases c.sender.stream.eof <;> cases c.receiver.streamOut.eof <;> simp [flight]

end TCPConnection
end Sponge
