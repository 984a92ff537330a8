import Sponge.TcpConnection

/-! The summaries of `tcp_state.hh` and `tcp_state.cc`. The texts of the source are the constructors. -/

namespace Sponge

inductive TCPReceiverStateSummary
  | listen
  | synRecv
  | finRecv
  | error
  deriving DecidableEq, Repr

inductive TCPSenderStateSummary
  | closed
  | synSent
  | synAcked
  | finSent
  | finAcked
  | error
  deriving DecidableEq, Repr

structure TCPState where
  sender : TCPSenderStateSummary
  receiver : TCPReceiverStateSummary
  active : Bool
  lingerAfterStreamsFinish : Bool
  deriving DecidableEq, Repr

/-- The official state names. -/
inductive TCPState.State
  | listen
  | synRcvd
  | synSent
  | established
  | closeWait
  | lastAck
  | finWait1
  | finWait2
  | closing
  | timeWait
  | closed
  | reset
  deriving DecidableEq, Repr

/-- The constructor `TCPState(State)`. -/
def TCPState.ofState : TCPState.State → TCPState
  | .listen => ⟨.closed, .listen, true, true⟩
  | .synRcvd => ⟨.synSent, .synRecv, true, true⟩
  | .synSent => ⟨.synSent, .listen, true, true⟩
  | .established => ⟨.synAcked, .synRecv, true, true⟩
  | .closeWait => ⟨.synAcked, .finRecv, true, false⟩
  | .lastAck => ⟨.finSent, .finRecv, true, false⟩
  | .closing => ⟨.finSent, .finRecv, true, true⟩
  | .finWait1 => ⟨.finSent, .synRecv, true, true⟩
  | .finWait2 => ⟨.finAcked, .synRecv, true, true⟩
  | .timeWait => ⟨.finAcked, .finRecv, true, true⟩
  | .reset => ⟨.error, .error, false, false⟩
  | .closed => ⟨.finAcked, .finRecv, false, false⟩

namespace TCPReceiver

def stateSummary (receiver : TCPReceiver) : TCPReceiverStateSummary :=
  if receiver.streamOut.error then .error
  else if !receiver.ackno.isSome then .listen
  else if receiver.streamOut.inputEnded then .finRecv
  else .synRecv

end TCPReceiver

namespace TCPSender

def stateSummary (sender : TCPSender) : TCPSenderStateSummary :=
  if sender.stream.error then .error
  else if sender.nextSeqno == 0 then .closed
  else if sender.nextSeqno == sender.bytesInFlight then .synSent
  else if !sender.stream.eof then .synAcked
  else if sender.nextSeqno < sender.stream.bytesWritten + 2 then .synAcked
  else if sender.bytesInFlight != 0 then .finSent
  else .finAcked

end TCPSender

def TCPConnection.state (c : TCPConnection) : TCPState where
  sender := c.sender.stateSummary
  receiver := c.receiver.stateSummary
  active := c.active
  lingerAfterStreamsFinish := if c.active then c.lingerAfterStreamsFinish else false

def TCPReceiverStateSummary.text : TCPReceiverStateSummary → String
  | .error => "error (connection was reset)"
  | .listen => "waiting for SYN: ackno is empty"
  | .synRecv => "SYN received (ackno exists), and input to stream hasn't ended"
  | .finRecv => "input to stream has ended"

def TCPSenderStateSummary.text : TCPSenderStateSummary → String
  | .error => "error (connection was reset)"
  | .closed => "waiting for stream to begin (no SYN sent)"
  | .synSent => "stream started but nothing acknowledged"
  | .synAcked => "stream ongoing"
  | .finSent => "stream finished (FIN sent) but not fully acknowledged"
  | .finAcked => "stream finished and fully acknowledged"

def TCPState.name (s : TCPState) : String :=
  "sender=`" ++ s.sender.text ++ "`, receiver=`" ++ s.receiver.text ++ "`, active=" ++
    (if s.active then "1" else "0") ++ ", linger_after_streams_finish=" ++
    (if s.lingerAfterStreamsFinish then "1" else "0")

def TCPReceiverStateSummary.rank : TCPReceiverStateSummary → Nat
  | .listen => 0
  | .synRecv => 1
  | .finRecv => 2
  | .error => 3

def TCPSenderStateSummary.rank : TCPSenderStateSummary → Nat
  | .closed => 0
  | .synSent => 1
  | .synAcked => 2
  | .finSent => 3
  | .finAcked => 4
  | .error => 5

end Sponge
