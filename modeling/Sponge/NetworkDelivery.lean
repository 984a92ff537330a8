import Sponge.ConnectionQueue
import Sponge.NetworkProgress

/-! Nothing is lost for good. Whatever the network has done to an open stream so far, a few round trips that get
through deliver all of it. -/

namespace Sponge.NetworkDelivery

open Tiling Endpoint TCPSegment TCPReceiver SenderQueue SenderTransmission SenderProgress SenderTimer
  SenderRetransmission ConnectionRun ConnectionReplies ConnectionProgress Network NetworkAcks NetworkProgress Transition

/-- An open stream between two connections that have not failed, with patience for one more retransmission and a
peer that can take a full segment. -/
structure Healthy (n : Pair) (side : Side) : Prop where
  error : (n.get side).conn.error = false
  peerError : (n.get side.other).conn.error = false
  open_ : (n.get side).conn.sender.stream.inputEnded = false
  patience : (n.get side).conn.sender.consecutiveRetransmissions < 8
  capacity : 1000 ≤ (n.get side.other).conn.receiver.reassembler.capacity

theorem operate_capacity {filled : List TCPSegment} {c : TCPConnection} (settled : Settled filled c)
    (operation : Operation) :
    (operate c operation).receiver.reassembler.capacity = c.receiver.reassembler.capacity := by
  refine (operate_outcome settled operation).heard.rule
    (P := fun r => r.reassembler.capacity = c.receiver.reassembler.capacity) rfl ?_ (fun _ _ => rfl)
    (fun _ same => same)
  intro segment _
  by_cases opened : c.receiver.isSyn = true ∨ segment.header.syn = true
  · rw [segmentReceived_accepted _ segment opened]
    exact ReassemblerStream.pushSubstring_capacity _ _ _ _
  · rw [segmentReceived_unopened _ segment opened]

theorem open_active {c : TCPConnection} (error : c.error = false) (open_ : c.sender.stream.inputEnded = false) :
    c.active = true := by
  rw [TCPConnection.active_iff]
  refine ⟨error, .inl ?_⟩
  simp [TCPConnection.checkPrereqs, ByteStream.eof, open_]

theorem inbound_active {c : TCPConnection} (error : c.error = false)
    (open_ : c.receiver.streamOut.inputEnded = false) : c.active = true := by
  rw [TCPConnection.active_iff]
  refine ⟨error, .inl ?_⟩
  simp only [TCPConnection.checkPrereqs, ByteStream.eof, open_]
  split <;> simp

theorem peer_open {n : Pair} (flowInv : FlowInv n) {side : Side} (healthy : Healthy n side) :
    (n.get side.other).conn.receiver.isFin = false ∧
      (n.get side.other).conn.receiver.streamOut.inputEnded = false := by
  have follows := flowInv.follows side.other
  rw [Side.other_other] at follows
  obtain ⟨filled, source⟩ := flowInv.ackInv.inv.source side
  have noFin : (n.get side.other).conn.receiver.isFin = false := by
    rw [← Bool.not_eq_true]
    intro fin
    have ended := (source.carried.closed (follows.fin fin)).1
    rw [healthy.open_] at ended
    cases ended
  refine ⟨noFin, ?_⟩
  rw [← Bool.not_eq_true]
  intro ended
  rw [follows.ended (.inr ended)] at noFin
  cases noFin

def remaining (s : TCPSender) : UInt64 := s.retransmissionTimeout.toUInt64 - s.timerElapsed

theorem remaining_fires {s : TCPSender} (on : s.isTimerOn = true) : fires s (remaining s) = true := by
  have sum : s.timerElapsed + (s.retransmissionTimeout.toUInt64 - s.timerElapsed) =
      s.retransmissionTimeout.toUInt64 := by
    rw [UInt64.add_comm]
    exact UInt64.sub_add_cancel _ _
  simp [fires, remaining, on, sum]

theorem tick_error {c : TCPConnection} {ms : UInt64} (error : c.error = false)
    (patience : c.sender.consecutiveRetransmissions < 8) (fired : fires c.sender ms = true) :
    (operate c (.tick ms)).error = false := by
  rw [← Bool.not_eq_true, ConnectionBackoff.operate_error]
  rintro (before | reset | ⟨other, same, _, exceeds⟩)
  · rw [error] at before
    cases before
  · cases reset
  · cases same
    simp only [TCPSender.consecutiveRetransmissionCount, tick_fires fired, maxRetxAttempts, gt_iff_lt,
      UInt32.lt_iff_toNat_lt, UInt64.toNat_toUInt32] at exceeds
    rw [UInt64.lt_iff_toNat_lt] at patience
    have eight : (8 : UInt32).toNat = 8 := rfl
    have limit : (8 : UInt64).toNat = 8 := rfl
    have one : (1 : UInt64).toNat = 1 := rfl
    split at exceeds
    · rw [UInt64.toNat_add] at exceeds
      omega
    · omega

theorem received_resets {filled : List TCPSegment} {c : TCPConnection} (settled : Settled filled c)
    (live : Live c.sender) (bound : c.sender.bytesInFlight < 2 ^ 30) {segment front : TCPSegment}
    {rest : List TCPSegment} {finish : Nat} (running : c.active = true)
    (queue : c.sender.outstandingSegments = front :: rest) (takes : Takes c segment finish)
    (ends : finish + span lengthInSequenceSpace rest = c.sender.nextSeqno) :
    (operate c (.segmentReceived segment)).sender.consecutiveRetransmissions = 0 := by
  have front_ := (frontEnd_exact settled.coherent live bound queue).1
  have covered : frontEnd c.sender front ≤
      max c.sender.currentSeqno (unwrapAt segment.header.ackno c.sender.isn c.sender.nextSeqno) := by
    have reaches := takes.reaches
    omega
  have restarted := (restarts_iff settled.coherent queue segment.header.win takes.acceptable).mpr covered
  have timer := (ackReceived_timer settled.coherent segment.header.ackno segment.header.win).timer
  rw [if_pos restarted] at timer
  have made : (called c (.segmentReceived segment)).consecutiveRetransmissions =
      (c.sender.ackReceived segment.header.ackno segment.header.win).consecutiveRetransmissions := by
    simp only [called, senderCalls, takes.noReset, running, takes.ordinary, Bool.not_true, Bool.or_false,
      Bool.false_eq_true, if_false, answer, takes.ack, if_true]
    split <;> rfl
  rw [(operate_outcome settled _).sender]
  change (called c (.segmentReceived segment)).consecutiveRetransmissions = 0
  rw [made]
  exact timer.count

section Round

variable {n : Pair} (flowInv : FlowInv n) {side : Side} (healthy : Healthy n side) {front : TCPSegment}
  {rest : List TCPSegment} (queue : (n.get side).conn.sender.outstandingSegments = front :: rest)

include flowInv healthy queue

theorem drained_fits (drained : (n.get side.other).conn.inboundStream.buffer = []) (ms : UInt64) :
    Fits n side (firstNumber (n.get side).conn (.tick ms)) front := by
  obtain ⟨noFin, open_⟩ := peer_open flowInv healthy
  obtain ⟨filled, source⟩ := flowInv.ackInv.inv.source side
  have hears := flowInv.ackInv.inv.hears side.other
  have built := source.settled.coherent.built _ (front_numbered source.settled (by rw [queue]; rfl))
  have behind := (front_straddles flowInv.ackInv ms queue).1.trans
    ((flowInv.ackInv.confirmed side).trans (reach_bound _))
  rw [noFin, Bool.toNat_false, Nat.add_zero] at behind
  have accounting : (n.get side.other).conn.receiver.firstUnassembled =
      (n.get side.other).conn.inboundStream.bytesRead + (n.get side.other).conn.inboundStream.buffer.length :=
    hears.valid.sound.accounting
  have start : payloadSeqno (firstNumber (n.get side).conn (.tick ms)) front ≤
      1 + (n.get side.other).conn.receiver.firstUnassembled := by
    unfold payloadSeqno
    split
    case isTrue syn =>
      have zero : firstNumber (n.get side).conn (.tick ms) = 0 := built.syn.mp syn
      omega
    case isFalse => exact behind
  have size : front.payload.length ≤ 1000 := built.bounded
  have room := healthy.capacity
  rw [drained, List.length_nil] at accounting
  refine ⟨inbound_active healthy.peerError open_, ?_, ?_⟩
  · intro fin
    rw [noFin] at fin
    cases fin
  · simp only [NetworkEnd.endIndex]
    omega

theorem drained_retransmits (drained : (n.get side.other).conn.inboundStream.buffer = []) :
    Retransmits n side (remaining (n.get side).conn.sender) front rest := by
  obtain ⟨filled, source⟩ := flowInv.ackInv.inv.source side
  have on := source.settled.coherent.busy (by rw [queue]; exact List.cons_ne_nil _ _)
  have fired := remaining_fires on
  have error := tick_error healthy.error healthy.patience fired
  have open_ : (operate (n.get side).conn (.tick (remaining (n.get side).conn.sender))).sender.stream.inputEnded =
      false := (TCPConnection.operate_inputEnded source.settled (by intro same; cases same)).trans healthy.open_
  exact ⟨queue, fired, open_active error open_, drained_fits flowInv healthy queue drained _⟩

theorem roundTrip_healthy (drained : (n.get side.other).conn.inboundStream.buffer = []) :
    Healthy (roundTrip n side (remaining (n.get side).conn.sender)) side ∧
      (n.get side).conn.sender.currentSeqno <
        ((roundTrip n side (remaining (n.get side).conn.sender)).get side).conn.sender.currentSeqno ∧
      ((roundTrip n side (remaining (n.get side).conn.sender)).get side).accepted = (n.get side).accepted := by
  have retransmits := drained_retransmits flowInv healthy queue drained
  obtain ⟨answer, exchanged⟩ := roundTrip_exchanged flowInv retransmits
  generalize remaining (n.get side).conn.sender = ms at *
  have flowInvTicked := step_flowInv n _ flowInv (ticked_modest flowInv.ackInv side ms)
  obtain ⟨filled, source⟩ := flowInv.ackInv.inv.source side
  obtain ⟨filledTicked, settledTicked, liveTicked, _⟩ := flowInvTicked.ackInv.running side
  have boundTicked := bounded_flight flowInvTicked.ackInv side .connect
  obtain ⟨peerFilled, peerSource⟩ := flowInvTicked.ackInv.inv.source side.other
  have self : (Network.step n (.act side (.tick ms))).get side = (n.get side).operate (.tick ms) :=
    Pair.get_set_same _ _ _
  have peer : (Network.step n (.act side (.tick ms))).get side.other = n.get side.other := Pair.get_set_other _ _ _
  have running := retransmits.running
  obtain ⟨_, next, outstanding⟩ := tick_sender source.settled (active_before_tick running) ms
  have straddles := (front_straddles flowInv.ackInv ms queue).2
  have ends : firstNumber (n.get side).conn (.tick ms) + front.lengthInSequenceSpace +
      span lengthInSequenceSpace rest = (n.get side).conn.sender.nextSeqno := by
    obtain ⟨first, total, _⟩ := outstanding_numbered source.settled.coherent
    rw [queue, span_cons] at total
    simp only [firstNumber, queue, span_cons]
    omega
  rw [self] at settledTicked liveTicked boundTicked
  have answered := exchanged.answered
  have takes := exchanged.takes
  rw [self] at answered takes
  have heard := exchanged.heard
  rw [peer] at heard peerSource
  refine ⟨⟨?_, ?_, ?_, ?_, ?_⟩, ?_, ?_⟩
  · rw [answered]
    exact received_error (active_error running) takes.noReset
  · rw [heard]
    refine received_error healthy.peerError ?_
    rw [stamp_rst]
    exact active_error running
  · rw [answered]
    refine (TCPConnection.operate_inputEnded settledTicked (by intro same; cases same)).trans ?_
    exact (TCPConnection.operate_inputEnded source.settled (by intro same; cases same)).trans healthy.open_
  · rw [answered]
    have reset := received_resets settledTicked liveTicked boundTicked running (outstanding.trans queue) takes
      (ends.trans next.symm)
    change (ConnectionRun.operate _ _).sender.consecutiveRetransmissions < 8
    rw [reset]
    decide
  · rw [heard]
    exact healthy.capacity.trans_eq (operate_capacity peerSource.settled _).symm
  · rw [answered]
    exact straddles.trans_le (received_currentSeqno settledTicked running takes)
  · rw [answered]
    exact (List.append_nil _).trans (List.append_nil _)

end Round

def readAll (n : Pair) (side : Side) : Pair :=
  Network.step n (.act side (.readInbound (n.get side).conn.inboundStream.buffer.length))

theorem readAll_modest {n : Pair} (ackInv : AckInv n) (side : Side) :
    Modest n (.act side (.readInbound (n.get side).conn.inboundStream.buffer.length)) := by
  refine ⟨trivial, trivial, ?_⟩
  change (_ ++ []).length + 3 < _
  rw [List.append_nil]
  exact ackInv.short side

theorem readAll_healthy {n : Pair} {side : Side} (healthy : Healthy n side) :
    Healthy (readAll n side.other) side ∧ (readAll n side.other).get side = n.get side ∧
      ((readAll n side.other).get side.other).conn.inboundStream.buffer = [] := by
  have self : (readAll n side.other).get side = n.get side := get_set_back _ _ _
  have peer : (readAll n side.other).get side.other = (n.get side.other).operate (.readInbound _) :=
    Pair.get_set_same _ _ _
  refine ⟨⟨?_, ?_, ?_, ?_, ?_⟩, self, ?_⟩
  · rw [self]
    exact healthy.error
  · rw [peer]
    exact healthy.peerError
  · rw [self]
    exact healthy.open_
  · rw [self]
    exact healthy.patience
  · rw [peer]
    exact healthy.capacity
  · rw [peer]
    change (ByteStream.read _ _).2.buffer = []
    rw [ByteStream.read_buffer]
    exact List.drop_length

theorem roundTrip_reachable {n : Pair} (ackInv : AckInv n) (side : Side) (ms : UInt64) :
    Reachable Network.step Modest n (roundTrip n side ms) := by
  have ticked : Reachable Network.step Modest n _ := .next _ .start (ticked_modest ackInv side ms)
  have heard := Reachable.next (Event.deliver side.other
    (((Network.step n (.act side (.tick ms))).get side).emitted.length - 1)) ticked trivial
  exact .next (Event.deliver side _) heard trivial

theorem drained_arrived {n : Pair} (flowInv : FlowInv n) {side : Side} (healthy : Healthy n side)
    (nothing : (n.get side).conn.sender.outstandingSegments = []) :
    (n.get side.other).consumed ++ (n.get side.other).conn.inboundStream.buffer = (n.get side).accepted := by
  obtain ⟨_, _, _, noStall⟩ := flowInv.ackInv.running side
  obtain ⟨arrived, held⟩ := held_or_arrived flowInv.ackInv side
  rw [(peer_open flowInv healthy).1, Bool.toNat_false, Nat.add_zero, nothing, (noStall nothing).1, List.flatMap_nil,
    List.append_nil] at held
  have all := List.drop_eq_nil_iff.mp (List.suffix_nil.mp held)
  exact arrived.eq_of_length_le all

theorem healthy_delivered {n : Pair} (flowInv : FlowInv n) {side : Side} (healthy : Healthy n side) :
    ∃ later, Reachable Network.step Modest n later ∧
      (later.get side.other).consumed ++ (later.get side.other).conn.inboundStream.buffer =
        (n.get side).accepted := by
  induction left : (n.get side).accepted.length + 2 - (n.get side).conn.sender.currentSeqno using
    Nat.strong_induction_on generalizing n with
  | _ left ih =>
      cases queue : (n.get side).conn.sender.outstandingSegments with
      | nil => exact ⟨n, .start, drained_arrived flowInv healthy queue⟩
      | cons front rest =>
          obtain ⟨readHealthy, self, drained⟩ := readAll_healthy healthy
          have read : Reachable Network.step Modest n (readAll n side.other) :=
            .next _ .start (readAll_modest flowInv.ackInv side.other)
          have flowInvRead := reachable_invariant flowInv step_flowInv read
          rw [← self] at queue
          obtain ⟨afterHealthy, rises, accepted⟩ := roundTrip_healthy flowInvRead readHealthy queue drained
          have trip := reachable_trans read (roundTrip_reachable flowInvRead.ackInv side
            (remaining ((readAll n side.other).get side).conn.sender))
          have flowInvAfter := reachable_invariant flowInv step_flowInv trip
          generalize roundTrip (readAll n side.other) side _ = after at *
          rw [self] at rises accepted
          obtain ⟨filled, source⟩ := flowInvAfter.ackInv.inv.source side
          have bound := source.settled.coherent.currentLe.trans (nextSeqno_le source)
          rw [accepted] at bound
          obtain ⟨later, reached, all⟩ := ih _ (by rw [accepted]; omega) flowInvAfter afterHealthy rfl
          exact ⟨later, reachable_trans trip reached, all.trans accepted⟩

def lostBytes : List Event :=
  [.act .left .connect, .deliver .right 0, .deliver .left 0, .act .left (.write [7, 8])]

def roomyConfig : TCPConfig := { recvCapacity := 1000, sendCapacity := 8 }

end Sponge.NetworkDelivery
