import Sponge.ConnectionReplies
import Sponge.TcpState

/-! What a listening connection ignores. The sender and the reply path do not ask whether a SYN has
arrived, so only ticks and bare acknowledgments leave a listener as it is. -/

namespace Sponge.ConnectionListen

open TCPConnection TCPSender Tiling TCPSegment SenderFill SenderQueue SenderTransmission ConnectionRun
  ConnectionReplies Transition

structure Waiting (c : TCPConnection) : Prop where
  settled : Settled [] c
  timerOff : c.sender.isTimerOn = false
  retransmissions : c.sender.consecutiveRetransmissions = 0
  noSyn : c.receiver.isSyn = false
  unended : c.receiver.streamOut.inputEnded = false
  linger : c.lingerAfterStreamsFinish = true
  noError : c.error = false
  noFin : c.fin = false
  segmentsOut : c.segmentsOut = []

theorem new_waiting (cfg : TCPConfig) (randomIsn : WrappingInt32) :
    Waiting (TCPConnection.new cfg randomIsn) :=
  ⟨new_settled cfg randomIsn, rfl, rfl, rfl, rfl, rfl, rfl, rfl, rfl⟩

/-- The LISTEN state: the sender is closed, there is no acknowledgment number and no error, and nothing
is on its way out. -/
def Listening (c : TCPConnection) : Prop :=
  c.state = TCPState.ofState .listen ∧ c.receiver.ackno = none ∧ c.error = false ∧ c.segmentsOut = []

instance (c : TCPConnection) : Decidable (Listening c) := inferInstanceAs (Decidable (_ ∧ _))

section Waiting

variable {c : TCPConnection} (waiting : Waiting c)

include waiting

theorem Waiting.unfinished : c.checkPrereqs = false := by
  rw [← Bool.not_eq_true, checkPrereqs_iff, waiting.noFin]
  exact fun finished => Bool.false_ne_true finished.1

theorem Waiting.running : c.active = true :=
  (active_iff c).mpr ⟨waiting.noError, .inl waiting.unfinished⟩

theorem Waiting.ackno : c.receiver.ackno = none := by
  rw [← Option.not_isSome_iff_eq_none, TCPReceiver.ackno_isSome, waiting.noSyn]
  exact Bool.false_ne_true

theorem Waiting.nextSeqno : c.sender.nextSeqno = 0 := waiting.settled.coherent.space.symm

theorem Waiting.listening : Listening c := by
  have sender : c.sender.stateSummary = .closed := by
    simp [stateSummary, waiting.settled.senderError, waiting.noError, waiting.nextSeqno]
  have receiver : c.receiver.stateSummary = .listen := by
    simp [TCPReceiver.stateSummary, waiting.settled.receiverError, waiting.noError,
      TCPReceiver.ackno_isSome, waiting.noSyn]
  refine ⟨?_, waiting.ackno, waiting.noError, waiting.segmentsOut⟩
  simp [TCPConnection.state, TCPState.ofState, sender, receiver, waiting.running, waiting.linger]

theorem Waiting.tick (ms : UInt64) : Waiting (operate c (.tick ms)) := by
  have idle : c.sender.tick ms = c.sender := by simp [TCPSender.tick, waiting.timerOff]
  have few : ¬ c.sender.consecutiveRetransmissionCount > maxRetxAttempts := by
    rw [consecutiveRetransmissionCount, waiting.retransmissions]
    decide
  have unfinished : { c with
      timeSinceLastSegmentReceived := c.timeSinceLastSegmentReceived + ms }.checkPrereqs = false :=
    waiting.unfinished
  have result : operate c (.tick ms) =
      { c with timeSinceLastSegmentReceived := c.timeSinceLastSegmentReceived + ms } := by
    simp only [operate, TCPConnection.tick, waiting.running, idle, few, unfinished, Bool.not_true,
      Bool.false_eq_true, if_false, Bool.false_and]
    exact send_idle _ waiting.settled.queue
  rw [result]
  exact ⟨⟨waiting.settled.coherent, waiting.settled.queue, waiting.settled.senderError,
    waiting.settled.receiverError⟩, waiting.timerOff, waiting.retransmissions, waiting.noSyn,
    waiting.unended, waiting.linger, waiting.noError, waiting.noFin, waiting.segmentsOut⟩

theorem Waiting.ackReceived (ackno : WrappingInt32) (windowSize : UInt16) :
    ∃ s, c.sender.ackReceived ackno windowSize = s ∧ Coherent [] s ∧ s.isTimerOn = false ∧
      s.consecutiveRetransmissions = 0 ∧ s.segmentsOut = [] ∧ s.stream = c.sender.stream := by
  have coherent := waiting.settled.coherent
  by_cases acceptable : unwrapAt ackno c.sender.isn c.sender.nextSeqno ≤ c.sender.nextSeqno
  · exact ⟨c.sender.noteAck (unwrapAt ackno c.sender.isn c.sender.nextSeqno) windowSize,
      TCPSender.ackReceived_untimed acceptable waiting.timerOff windowSize,
      noteAck_coherent coherent _ windowSize acceptable, waiting.timerOff, waiting.retransmissions,
      waiting.settled.queue, rfl⟩
  · have nothing : c.sender.outstandingSegments = [] := by
      obtain ⟨acked, whole⟩ := coherent.tail
      exact (List.append_eq_nil_iff.mp whole.symm).2
    refine ⟨c.sender.stopIdleTimer, TCPSender.ackReceived_refused acceptable windowSize,
      stopIdleTimer_coherent coherent, ?_⟩
    simp [stopIdleTimer, nothing, waiting.retransmissions, waiting.settled.queue]

theorem Waiting.bareAck {segment : TCPSegment} (noSyn : segment.header.syn = false)
    (ack : segment.header.ack = true) (noReset : segment.header.rst = false)
    (empty : segment.payload = []) (noFin : segment.header.fin = false) :
    Waiting (operate c (.segmentReceived segment)) := by
  obtain ⟨s, answered, coherent, timerOff, retransmissions, queue, stream⟩ :=
    waiting.ackReceived segment.header.ackno segment.header.win
  have length : segment.lengthInSequenceSpace = 0 := by
    simp [lengthInSequenceSpace, empty, noSyn, noFin]
  have running : { c with timeSinceLastSegmentReceived := 0 }.active = true := waiting.running
  have ordinary : { c with timeSinceLastSegmentReceived := 0 }.isKeepAlive segment = false := by
    simp [isKeepAlive, waiting.ackno]
  have unread := TCPReceiver.segmentReceived_ignored c.receiver segment waiting.noSyn noSyn
  have open_ : c.receiver.streamOut.eof = false := by simp [ByteStream.eof, waiting.unended]
  have result : operate c (.segmentReceived segment) =
      { c with timeSinceLastSegmentReceived := 0, sender := s } := by
    simp only [operate, TCPConnection.segmentReceived, noReset, running, ordinary, react, unread, ack,
      length, open_, answered, Bool.not_true, Bool.false_eq_true, if_false, if_true, bne_self_eq_false,
      Bool.false_and]
    exact send_idle _ queue
  rw [result]
  exact ⟨⟨coherent, queue, by rw [stream]; exact waiting.settled.senderError,
    waiting.settled.receiverError⟩, timerOff, retransmissions, waiting.noSyn, waiting.unended,
    waiting.linger, waiting.noError, waiting.noFin, waiting.segmentsOut⟩

theorem Waiting.replies_end {operation : Operation} (replies : appended c operation ≠ []) :
    ¬ Listening (operate c operation) := by
  rintro ⟨_, _, _, silent⟩
  rw [operate_segmentsOut waiting.settled, waiting.segmentsOut, List.nil_append] at silent
  exact replies silent

theorem Waiting.fillWindow_replies {segment : TCPSegment} (noAck : segment.header.ack = false)
    (noReset : segment.header.rst = false) (empty : segment.lengthInSequenceSpace = 0) :
    appended c (.segmentReceived segment) ≠ [] := by
  -- without an acknowledgment the window is filled, and the first thing to fill it is the SYN
  have coherent := waiting.settled.coherent
  obtain ⟨sent, fills⟩ := fillWindow_fills c.sender coherent.synFits
  have ordinary : c.isKeepAlive segment = false := by simp [isKeepAlive, waiting.ackno]
  have calls : senderCalls c (.segmentReceived segment) = [.fillWindow] := by
    simp [senderCalls, answer, noReset, waiting.running, ordinary, empty, noAck]
  have queued : (called c (.segmentReceived segment)).segmentsOut = sent := by
    rw [called, calls, List.foldl_cons, List.foldl_nil, apply, fills.emits.segmentsOut,
      waiting.settled.queue, List.nil_append]
  rw [appended_eq waiting.settled, queued, ne_eq, List.map_eq_nil_iff]
  rintro rfl
  have room := coherent.synFits waiting.nextSeqno
  have space := fills.space
  rw [span_nil, unsent, waiting.nextSeqno, beq_self_eq_true, Bool.toNat_true] at space
  omega

end Waiting

def Unsynchronized : Operation → Prop
  | .tick _ => True
  | .segmentReceived segment => segment.header.syn = false
  | _ => False

/-- Ticks, and acknowledgments with no reset, no bytes and no FIN. -/
def Ignorable : Operation → Prop
  | .tick _ => True
  | .segmentReceived segment => segment.header.ack = true ∧ segment.header.rst = false ∧
      segment.payload = [] ∧ segment.header.fin = false
  | _ => False

theorem waiting_ignores {c : TCPConnection} (waiting : Waiting c) (operation : Operation)
    (noSyn : Unsynchronized operation) (ignorable : Ignorable operation) :
    Waiting (operate c operation) := by
  cases operation with
  | tick ms => exact waiting.tick ms
  | segmentReceived segment =>
      obtain ⟨ack, noReset, empty, noFin⟩ := ignorable
      exact waiting.bareAck noSyn ack noReset empty noFin
  | _ => exact noSyn.elim

theorem waiting_disturbed {c : TCPConnection} (waiting : Waiting c) (operation : Operation)
    (noSyn : Unsynchronized operation) (disturbing : ¬ Ignorable operation) :
    ¬ Listening (operate c operation) := by
  cases operation with
  | tick ms => exact (disturbing trivial).elim
  | segmentReceived segment =>
      cases reset : segment.header.rst with
      | true =>
          rintro ⟨_, _, noError, _⟩
          rw [operate, TCPConnection.segmentReceived, reset] at noError
          cases noError
      | false =>
          by_cases occupies : segment.lengthInSequenceSpace = 0
          · have noAck : segment.header.ack = false := by
              rw [← Bool.not_eq_true]
              intro ack
              apply disturbing
              have syn : segment.header.syn = false := noSyn
              simp only [lengthInSequenceSpace, syn, Bool.false_eq_true, if_false] at occupies
              refine ⟨ack, reset, List.eq_nil_of_length_eq_zero (by omega), ?_⟩
              rw [← Bool.not_eq_true]
              intro fin
              rw [if_pos fin] at occupies
              omega
            exact waiting.replies_end (waiting.fillWindow_replies noAck reset occupies)
          · exact waiting.replies_end (data_answered waiting.settled waiting.running reset occupies)
  | _ => exact noSyn.elim

/-- A connection that nobody has connected, written to or closed stays in LISTEN through a sequence of
ticks and segments without SYN exactly when every one of the segments is a bare acknowledgment. -/
theorem listen_kept_iff_bare_acks (cfg : TCPConfig) (randomIsn : WrappingInt32)
    (operations : List Operation) (noSyn : ∀ operation ∈ operations, Unsynchronized operation) :
    Throughout operate Listening (TCPConnection.new cfg randomIsn) operations ↔
      ∀ operation ∈ operations, Ignorable operation :=
  throughout_iff (I := Waiting) (fun _ waiting => waiting.listening)
    (fun _ operation waiting => waiting_ignores waiting operation)
    (fun _ operation waiting => waiting_disturbed waiting operation) operations
    (new_waiting cfg randomIsn) noSyn

theorem bare_acks_ignored :
    Throughout operate Listening listener
      [.tick 1, .segmentReceived { header := { ack := true, ackno := ⟨0⟩, seqno := ⟨5⟩ } }, .tick 9] :=
  (listen_kept_iff_bare_acks _ _
    [.tick 1, .segmentReceived { header := { ack := true, ackno := ⟨0⟩, seqno := ⟨5⟩ } }, .tick 9]
    (by simp [Unsynchronized])).mpr (by simp [Ignorable])

/-- A data byte without acknowledgment draws a SYN, a reset closes the listener, and a byte with an
acknowledgment draws an empty segment. -/
theorem listener_disturbed :
    ¬ Throughout operate Listening listener [.tick 1, .segmentReceived { payload := [0] }] ∧
      ¬ Throughout operate Listening listener [.segmentReceived { header := { rst := true } }] ∧
      ¬ Throughout operate Listening listener
        [.segmentReceived { header := { ack := true }, payload := [0] }] := by
  decide +kernel

end Sponge.ConnectionListen
