import Sponge.SenderWindow
import Sponge.TcpConnection

/-! Runs of a connection. Between two operations the sender's own queue is empty, so each operation is
a short list of sender calls followed by `_send`. -/

namespace Sponge.ConnectionRun

open TCPConnection Tiling TCPSegment SenderFill SenderQueue SenderTransmission SenderWindow Transition

/-- What the owner of a connection, its application and the network do to it. -/
inductive Operation
  | connect
  | write (data : List Byte)
  | endInputStream
  | tick (msSinceLastTick : UInt64)
  | segmentReceived (segment : TCPSegment)
  | readInbound (len : Nat)
  deriving DecidableEq, Repr

def operate (c : TCPConnection) : Operation → TCPConnection
  | .connect => c.connect
  | .write data => (c.write data).2
  | .endInputStream => c.endInputStream
  | .tick ms => c.tick ms
  | .segmentReceived segment => c.segmentReceived segment
  | .readInbound len => (c.readInbound len).2

def listener : TCPConnection :=
  TCPConnection.new { recvCapacity := 4, sendCapacity := 4, fixedIsn := some ⟨0⟩ } ⟨0⟩

def isReset : Operation → Bool
  | .segmentReceived segment => segment.header.rst
  | _ => false

def answer (segment : TCPSegment) : Call :=
  if segment.header.ack then .ackReceived segment.header.ackno segment.header.win else .fillWindow

/-- The sender calls that an operation makes before `_send`. -/
def senderCalls (c : TCPConnection) : Operation → List Call
  | .connect => [.fillWindow]
  | .write data => if c.active then [.write data, .fillWindow] else []
  | .endInputStream => if c.active then [.endInput, .fillWindow] else []
  | .tick ms => if c.active then [.tick ms] else []
  | .segmentReceived segment =>
      if segment.header.rst || !c.active then []
      else if c.isKeepAlive segment then [.sendEmptySegment]
      else if segment.lengthInSequenceSpace != 0 &&
          (apply c.sender (answer segment)).segmentsOut.isEmpty then
        [answer segment, .sendEmptySegment]
      else [answer segment]
  | .readInbound _ => []

inductive Calls (c : TCPConnection) : Operation → List Call → Prop
  | inactive (operation : Operation) (closed : c.active = false) : Calls c operation []
  | connect : Calls c .connect [.fillWindow]
  | write (data : List Byte) (running : c.active = true) :
      Calls c (.write data) [.write data, .fillWindow]
  | endInputStream (running : c.active = true) : Calls c .endInputStream [.endInput, .fillWindow]
  | tick (ms : UInt64) (running : c.active = true) : Calls c (.tick ms) [.tick ms]
  | reset (segment : TCPSegment) (rst : segment.header.rst = true) :
      Calls c (.segmentReceived segment) []
  | keepAlive (segment : TCPSegment) (repeats : c.isKeepAlive segment = true) :
      Calls c (.segmentReceived segment) [.sendEmptySegment]
  | answered (segment : TCPSegment) : Calls c (.segmentReceived segment) [answer segment]
  | acknowledged (segment : TCPSegment)
      (silent : (apply c.sender (answer segment)).segmentsOut = []) :
      Calls c (.segmentReceived segment) [answer segment, .sendEmptySegment]
  | readInbound (len : Nat) : Calls c (.readInbound len) []

theorem senderCalls_calls (c : TCPConnection) (operation : Operation) :
    Calls c operation (senderCalls c operation) := by
  cases operation with
  | connect => exact .connect
  | readInbound len => exact .readInbound len
  | write data =>
      simp only [senderCalls]
      cases running : c.active with
      | false => exact .inactive _ running
      | true => exact .write data running
  | endInputStream =>
      simp only [senderCalls]
      cases running : c.active with
      | false => exact .inactive _ running
      | true => exact .endInputStream running
  | tick ms =>
      simp only [senderCalls]
      cases running : c.active with
      | false => exact .inactive _ running
      | true => exact .tick ms running
  | segmentReceived segment =>
      simp only [senderCalls]
      cases rst : segment.header.rst with
      | true => exact .reset segment rst
      | false =>
          cases running : c.active with
          | false => exact .inactive _ running
          | true =>
              simp only [Bool.not_true, Bool.or_self, Bool.false_eq_true, if_false]
              split
              case isTrue repeats => exact .keepAlive segment repeats
              case isFalse =>
                split
                case isTrue silent =>
                  rw [Bool.and_eq_true, List.isEmpty_iff] at silent
                  exact .acknowledged segment silent.2
                case isFalse => exact .answered segment

def called (c : TCPConnection) (operation : Operation) : TCPSender :=
  (senderCalls c operation).foldl apply c.sender

/-- The queue handed over and the error flag set, which the sequence numbers do not depend on. -/
def relabel (s : TCPSender) (queue : List TCPSegment) (error : Bool) : TCPSender :=
  { s with segmentsOut := queue, stream := { s.stream with error := error } }

theorem relabel_coherent {filled : List TCPSegment} {s : TCPSender} (coherent : Coherent filled s)
    (queue : List TCPSegment) (error : Bool) : Coherent filled (relabel s queue error) :=
  coherent_frame coherent rfl rfl rfl rfl rfl rfl
    ⟨coherent.sound.accounting, coherent.sound.bounded⟩

/-- What holds of a connection between operations; `filled` is all it has sent for the first time. -/
structure Settled (filled : List TCPSegment) (c : TCPConnection) : Prop where
  coherent : Coherent filled c.sender
  queue : c.sender.segmentsOut = []
  senderError : c.sender.stream.error = c.error
  receiverError : c.receiver.streamOut.error = c.error

theorem new_settled (cfg : TCPConfig) (randomIsn : WrappingInt32) :
    Settled [] (TCPConnection.new cfg randomIsn) :=
  ⟨new_coherent cfg.sendCapacity cfg.rtTimeout cfg.fixedIsn randomIsn, rfl, rfl, rfl⟩

theorem apply_keeps {filled : List TCPSegment} {s : TCPSender} (coherent : Coherent filled s)
    (call : Call) : (apply s call).isn = s.isn ∧ (apply s call).stream.error = s.stream.error := by
  cases fed : feeds call with
  | false =>
      have sends := apply_sends coherent call fed
      exact ⟨sends.isn, sends.error⟩
  | true =>
      cases call with
      | write data => exact ⟨rfl, rfl⟩
      | endInput => exact ⟨rfl, rfl⟩
      | _ => cases fed

theorem calls_keep {filled : List TCPSegment} {s : TCPSender} (coherent : Coherent filled s)
    (calls : List Call) :
    (calls.foldl apply s).isn = s.isn ∧ (calls.foldl apply s).stream.error = s.stream.error := by
  induction calls generalizing s filled with
  | nil => exact ⟨rfl, rfl⟩
  | cons call calls ih =>
      obtain ⟨isn, error⟩ := apply_keeps coherent call
      obtain ⟨isnLater, errorLater⟩ := ih (apply_coherent coherent call)
      exact ⟨isnLater.trans isn, errorLater.trans error⟩

theorem called_relabel {filled : List TCPSegment} {c : TCPConnection} (settled : Settled filled c)
    (calls : List Call) :
    calls.foldl apply c.sender =
      relabel (calls.foldl apply c.sender) (calls.foldl apply c.sender).segmentsOut c.error := by
  rw [← settled.senderError, ← (calls_keep settled.coherent calls).2]
  rfl

def Heard (c : TCPConnection) (operation : Operation) (after : TCPReceiver) : Prop :=
  ∃ r, (after = r ∨ after = r.setError) ∧
    (r = c.receiver ∨ (∃ segment, operation = .segmentReceived segment ∧
        r = c.receiver.segmentReceived segment) ∨
      ∃ len, operation = .readInbound len ∧ r = (c.receiver.readOut len).2)

theorem Heard.rule {c : TCPConnection} {operation : Operation} {after : TCPReceiver}
    {P : TCPReceiver → Prop} (heard : Heard c operation after) (untouched : P c.receiver)
    (arrives : ∀ segment, operation = .segmentReceived segment →
      P (c.receiver.segmentReceived segment))
    (reads : ∀ len, operation = .readInbound len → P (c.receiver.readOut len).2)
    (fails : ∀ r, P r → P r.setError) : P after := by
  obtain ⟨r, result, source⟩ := heard
  have holds : P r := by
    rcases source with rfl | ⟨segment, same, rfl⟩ | ⟨len, same, rfl⟩
    · exact untouched
    · exact arrives segment same
    · exact reads len same
  rcases result with rfl | rfl
  · exact holds
  · exact fails r holds

/-- The connection of an operation before `_send`, with `run` as its sender up to the error flag. -/
structure Ready (c : TCPConnection) (operation : Operation) (ready : TCPConnection)
    (run : TCPSender) : Prop where
  cfg : ready.cfg = c.cfg
  sender : ready.sender = relabel run run.segmentsOut ready.error
  segmentsOut : ready.segmentsOut = c.segmentsOut
  fin : ready.fin = c.fin
  receiverError : ready.receiver.streamOut.error = ready.error
  heard : Heard c operation ready.receiver
  error : c.error = true → ready.error = true
  linger : c.lingerAfterStreamsFinish = false → ready.lingerAfterStreamsFinish = false

/-- An operation hands `run.segmentsOut` to the network and keeps the rest of `run`. Errors are not
taken back and lingering is not switched on again. -/
structure Outcome (c : TCPConnection) (operation : Operation) (after : TCPConnection)
    (run : TCPSender) : Prop where
  cfg : after.cfg = c.cfg
  sender : after.sender = relabel run [] after.error
  segmentsOut : after.segmentsOut = c.segmentsOut ++ run.segmentsOut.map after.stamp
  fin : after.fin = (c.fin || run.segmentsOut.any (fun segment => segment.header.fin))
  receiverError : after.receiver.streamOut.error = after.error
  heard : Heard c operation after.receiver
  error : c.error = true → after.error = true
  linger : c.lingerAfterStreamsFinish = false → after.lingerAfterStreamsFinish = false

section Ready

variable {c ready : TCPConnection} {operation : Operation} {run : TCPSender}

theorem Ready.send (prepared : Ready c operation ready run) : Outcome c operation ready.send run where
  cfg := by rw [send_cfg, prepared.cfg]
  sender := by rw [send_sender, send_error, prepared.sender]; rfl
  segmentsOut := by
    have stamps : ready.send.stamp = ready.stamp := stamp_congr (send_receiver _) (send_error _)
    rw [send_segmentsOut, prepared.segmentsOut, prepared.sender, stamps]
    rfl
  fin := by rw [send_fin, prepared.fin, prepared.sender]; rfl
  receiverError := by rw [send_receiver, send_error, prepared.receiverError]
  heard := by rw [send_receiver]; exact prepared.heard
  error := by rw [send_error]; exact prepared.error
  linger := by rw [send_linger]; exact prepared.linger

theorem Ready.quiet (prepared : Ready c operation ready run) (empty : run.segmentsOut = []) :
    Outcome c operation ready run where
  cfg := prepared.cfg
  sender := by rw [prepared.sender, empty]
  segmentsOut := by rw [prepared.segmentsOut, empty, List.map_nil, List.append_nil]
  fin := by rw [prepared.fin, empty, List.any_nil, Bool.or_false]
  receiverError := prepared.receiverError
  heard := prepared.heard
  error := prepared.error
  linger := prepared.linger

theorem Ready.report (prepared : Ready c operation ready run) : Ready c operation ready.report run where
  cfg := prepared.cfg
  sender := by rw [TCPConnection.report, prepared.sender]; rfl
  segmentsOut := prepared.segmentsOut
  fin := prepared.fin
  receiverError := rfl
  heard := by
    obtain ⟨r, same | failed, source⟩ := prepared.heard
    · exact ⟨r, .inr (congrArg TCPReceiver.setError same), source⟩
    · have again : ready.report.receiver = r.setError.setError :=
        congrArg TCPReceiver.setError failed
      exact ⟨r, .inr again, source⟩
  error := fun _ => rfl
  linger := prepared.linger

theorem Ready.unlinger (prepared : Ready c operation ready run) :
    Ready c operation { ready with lingerAfterStreamsFinish := false } run where
  cfg := prepared.cfg
  sender := prepared.sender
  segmentsOut := prepared.segmentsOut
  fin := prepared.fin
  receiverError := prepared.receiverError
  heard := prepared.heard
  error := prepared.error
  linger := fun _ => rfl

variable {filled : List TCPSegment} (settled : Settled filled c)

include settled

theorem ready_heard (operation : Operation) (calls : List Call) (elapsed : UInt64) (r : TCPReceiver)
    (heard : Heard c operation r) (error : r.streamOut.error = c.receiver.streamOut.error) :
    Ready c operation { c with
      timeSinceLastSegmentReceived := elapsed
      receiver := r
      sender := calls.foldl apply c.sender } (calls.foldl apply c.sender) :=
  ⟨rfl, called_relabel settled calls, rfl, rfl, error.trans settled.receiverError, heard, id, id⟩

theorem ready_calls (operation : Operation) (calls : List Call) (elapsed : UInt64) :
    Ready c operation { c with
      timeSinceLastSegmentReceived := elapsed
      sender := calls.foldl apply c.sender } (calls.foldl apply c.sender) :=
  ready_heard settled operation calls elapsed c.receiver ⟨_, .inl rfl, .inl rfl⟩ rfl

theorem ready_react (segment : TCPSegment) :
    Ready c (.segmentReceived segment)
      ({ c with timeSinceLastSegmentReceived := 0 }.react segment)
      ((if segment.lengthInSequenceSpace != 0 &&
          (apply c.sender (answer segment)).segmentsOut.isEmpty then
        [answer segment, .sendEmptySegment] else [answer segment]).foldl apply c.sender) := by
  have heard := fun calls => ready_heard settled (.segmentReceived segment) calls 0
    (c.receiver.segmentReceived segment) ⟨_, .inl rfl, .inr (.inl ⟨segment, rfl, rfl⟩)⟩
    (TCPReceiver.segmentReceived_error _ segment)
  unfold react answer
  dsimp only
  cases segment.header.ack with
  | true =>
      simp only [if_true, apply]
      split <;> split
      · exact (heard [.ackReceived _ _, .sendEmptySegment]).unlinger
      · exact heard [.ackReceived _ _, .sendEmptySegment]
      · exact (heard [.ackReceived _ _]).unlinger
      · exact heard [.ackReceived _ _]
  | false =>
      simp only [Bool.false_eq_true, if_false, apply]
      split <;> split
      · exact (heard [.fillWindow, .sendEmptySegment]).unlinger
      · exact heard [.fillWindow, .sendEmptySegment]
      · exact (heard [.fillWindow]).unlinger
      · exact heard [.fillWindow]

end Ready

/-- Every operation makes its sender calls, may change the receiver and the flags, and then sends. -/
theorem operate_outcome {filled : List TCPSegment} {c : TCPConnection} (settled : Settled filled c)
    (operation : Operation) : Outcome c operation (operate c operation) (called c operation) := by
  have ready := fun calls => ready_calls settled operation calls c.timeSinceLastSegmentReceived
  have idle : Outcome c operation c c.sender := (ready []).quiet settled.queue
  cases operation with
  | connect => exact (ready [.fillWindow]).send
  | write data =>
      simp only [operate, called, senderCalls, TCPConnection.write]
      cases c.active with
      | false => exact idle
      | true => exact (ready [.write data, .fillWindow]).send
  | endInputStream =>
      simp only [operate, called, senderCalls, endInputStream]
      cases c.active with
      | false => exact idle
      | true => exact (ready [.endInput, .fillWindow]).send
  | tick ms =>
      simp only [operate, called, senderCalls, TCPConnection.tick]
      cases c.active with
      | false => exact idle
      | true =>
          have ticked :=
            ready_calls settled (.tick ms) [.tick ms] (c.timeSinceLastSegmentReceived + ms)
          simp only [Bool.not_true, Bool.false_eq_true, if_false, if_true]
          split <;> split
          · exact ticked.report.unlinger.send
          · exact ticked.report.send
          · exact ticked.unlinger.send
          · exact ticked.send
  | segmentReceived segment =>
      have untimed : { c with timeSinceLastSegmentReceived := 0 }.active = c.active := rfl
      have kept : { c with timeSinceLastSegmentReceived := 0 }.isKeepAlive segment =
          c.isKeepAlive segment := rfl
      have arrived := fun calls => ready_calls settled (.segmentReceived segment) calls 0
      simp only [operate, called, senderCalls, TCPConnection.segmentReceived]
      cases segment.header.rst with
      | true => exact (arrived []).report.quiet settled.queue
      | false =>
          simp only [Bool.false_eq_true, if_false, untimed, Bool.false_or]
          cases c.active with
          | false => exact (arrived []).quiet settled.queue
          | true =>
              simp only [Bool.not_true, Bool.false_eq_true, if_false, kept]
              split
              · exact (arrived [.sendEmptySegment]).send
              · exact (ready_react settled segment).send
  | readInbound len =>
      exact (ready_heard settled _ [] _ _ ⟨_, .inl rfl, .inr (.inr ⟨len, rfl, rfl⟩)⟩ rfl).quiet
        settled.queue

def firstSent (c : TCPConnection) (operation : Operation) : List TCPSegment :=
  pushedRun c.sender (senderCalls c operation)

theorem operate_settled {filled : List TCPSegment} {c : TCPConnection} (settled : Settled filled c)
    (operation : Operation) :
    Settled (filled ++ firstSent c operation) (operate c operation) := by
  have outcome := operate_outcome settled operation
  refine ⟨?_, by rw [outcome.sender]; rfl, by rw [outcome.sender]; rfl, outcome.receiverError⟩
  rw [outcome.sender]
  exact relabel_coherent (run_coherent settled.coherent _) _ _

theorem operate_isn {filled : List TCPSegment} {c : TCPConnection} (settled : Settled filled c)
    (operation : Operation) : (operate c operation).sender.isn = c.sender.isn := by
  rw [(operate_outcome settled operation).sender]
  exact (calls_keep settled.coherent _).1

theorem reachable_settled {cfg : TCPConfig} {randomIsn : WrappingInt32} {c : TCPConnection}
    {allowed : TCPConnection → Operation → Prop}
    (reached : Reachable operate allowed (TCPConnection.new cfg randomIsn) c) :
    ∃ filled, Settled filled c := by
  refine reachable_invariant (P := fun c => ∃ filled, Settled filled c) ?_ ?_ reached
  · exact ⟨[], new_settled cfg randomIsn⟩
  · rintro c operation ⟨filled, settled⟩ _
    exact ⟨_, operate_settled settled operation⟩

theorem calls_queue {filled : List TCPSegment} {s : TCPSender} (coherent : Coherent filled s)
    (calls : List Call) {segment : TCPSegment} (member : segment ∈ (calls.foldl apply s).segmentsOut) :
    segment ∈ s.segmentsOut ∨ segment ∈ filled ++ pushedRun s calls ∨ Bare segment := by
  induction calls generalizing filled s with
  | nil => exact .inl member
  | cons call calls ih =>
      rw [pushedRun, ← List.append_assoc]
      rcases ih (apply_coherent coherent call) member with queued | sent | bare
      · rcases apply_segmentsOut coherent call queued with before | sent | bare
        · exact .inl before
        · exact .inr (.inl (List.mem_append_left _ sent))
        · exact .inr (.inr bare)
      · exact .inr (.inl sent)
      · exact .inr (.inr bare)

theorem calls_segmentsOut {filled : List TCPSegment} {s : TCPSender} (coherent : Coherent filled s)
    (empty : s.segmentsOut = []) (calls : List Call) {segment : TCPSegment}
    (member : segment ∈ (calls.foldl apply s).segmentsOut) :
    segment ∈ filled ++ pushedRun s calls ∨ Bare segment := by
  rcases calls_queue coherent calls member with before | later
  · rw [empty] at before
    cases before
  · exact later

end Sponge.ConnectionRun
