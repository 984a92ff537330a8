import Sponge.ConnectionRun
import Sponge.TcpState

/-! The summaries of `TCPConnection::state()` along a run. They are recomputed from sequence numbers and
stream counters, so their order rests on the accounting of the sender. -/

namespace Sponge.ConnectionState

open TCPConnection TCPSender Tiling TCPSegment SenderFill SenderQueue SenderTransmission SenderWindow
  ConnectionRun Transition

/-- Nothing is written once the outgoing stream has been ended. -/
def NoLateWrite (c : TCPConnection) : Operation → Prop
  | .write _ => c.sender.stream.inputEnded = false
  | _ => True

instance (c : TCPConnection) : (operation : Operation) → Decidable (NoLateWrite c operation)
  | .write _ => inferInstanceAs (Decidable (_ = _))
  | .connect => .isTrue trivial
  | .endInputStream => .isTrue trivial
  | .tick _ => .isTrue trivial
  | .segmentReceived _ => .isTrue trivial
  | .readInbound _ => .isTrue trivial

theorem calls_guarded {allowed : TCPSender → Call → Prop} {c : TCPConnection} {operation : Operation}
    {calls : List Call} (free : ∀ s call, (∀ data, call ≠ .write data) → allowed s call)
    (writes : ∀ data, operation = .write data → c.active = true → allowed c.sender (.write data))
    (shape : Calls c operation calls) : AllowedRun apply allowed c.sender calls := by
  have filling : ∀ s, allowed s .fillWindow := fun s => free s _ (by intro data same; cases same)
  have empty : ∀ s, allowed s .sendEmptySegment := fun s => free s _ (by intro data same; cases same)
  have answered : ∀ s segment, allowed s (answer segment) := by
    intro s segment
    apply free
    unfold answer
    split <;> intro data same <;> cases same
  cases shape with
  | write data running => exact ⟨writes data rfl running, filling _, trivial⟩
  | endInputStream => exact ⟨free _ _ (by intro data same; cases same), filling _, trivial⟩
  | answered segment => exact ⟨answered _ segment, trivial⟩
  | acknowledged segment => exact ⟨answered _ segment, empty _, trivial⟩
  | connect => exact ⟨filling _, trivial⟩
  | tick ms => exact ⟨free _ _ (by intro data same; cases same), trivial⟩
  | keepAlive => exact ⟨empty _, trivial⟩
  | inactive => trivial
  | reset => trivial
  | readInbound => trivial

theorem writerOpen_free (s : TCPSender) (call : Call) (other : ∀ data, call ≠ .write data) :
    WriterOpen s call := by
  cases call with
  | write data => exact (other data rfl).elim
  | _ => trivial

theorem senderCalls_open (c : TCPConnection) (operation : Operation)
    (open_ : NoLateWrite c operation) :
    AllowedRun apply WriterOpen c.sender (senderCalls c operation) := by
  refine calls_guarded writerOpen_free ?_ (senderCalls_calls c operation)
  intro data same _
  subst same
  exact open_

def acceptedBytes (c : TCPConnection) (operation : Operation) : List Byte :=
  acceptedRun c.sender (senderCalls c operation)

theorem relabel_carried {written : List Byte} {filled : List TCPSegment} {s : TCPSender}
    (carried : Carried written filled s) (queue : List TCPSegment) (error : Bool) :
    Carried written filled (relabel s queue error) :=
  ⟨carried.length, carried.buffer, carried.unstarted, carried.started, carried.closed, carried.bytes,
    carried.finEnd, carried.finSent⟩

theorem operate_kept {written : List Byte} {filled : List TCPSegment} {c : TCPConnection}
    (settled : Settled filled c) (carried : Carried written filled c.sender) (operation : Operation)
    (kept : AllowedRun apply FinKept c.sender (senderCalls c operation)) :
    Carried (written ++ acceptedBytes c operation) (filled ++ firstSent c operation)
      (operate c operation).sender := by
  rw [(operate_outcome settled operation).sender]
  exact relabel_carried (run_kept settled.coherent carried _ kept) _ _

theorem operate_carried {written : List Byte} {filled : List TCPSegment} {c : TCPConnection}
    (settled : Settled filled c) (carried : Carried written filled c.sender) (operation : Operation)
    (open_ : NoLateWrite c operation) :
    Carried (written ++ acceptedBytes c operation) (filled ++ firstSent c operation)
      (operate c operation).sender :=
  operate_kept settled carried operation
    (run_finKept settled.coherent carried _ (senderCalls_open c operation open_))

/-- A sender only moves forward, and after the FIN it sends nothing new. -/
structure Advances (before after : TCPSender) : Prop where
  nextSeqno : before.nextSeqno ≤ after.nextSeqno
  currentSeqno : before.currentSeqno ≤ after.currentSeqno
  fin : before.fin = true → after.fin = true ∧ after.nextSeqno = before.nextSeqno

theorem Advances.trans {first middle last : TCPSender} (one : Advances first middle)
    (two : Advances middle last) : Advances first last where
  nextSeqno := one.nextSeqno.trans two.nextSeqno
  currentSeqno := one.currentSeqno.trans two.currentSeqno
  fin := by
    intro sent
    obtain ⟨still, same⟩ := one.fin sent
    obtain ⟨finally_, sameAgain⟩ := two.fin still
    exact ⟨finally_, sameAgain.trans same⟩

theorem sends_advances {written : List Byte} {filled sent : List TCPSegment}
    {before after : TCPSender} (carried : Carried written filled before)
    (sends : Sends before after sent) (current : before.currentSeqno ≤ after.currentSeqno) :
    Advances before after where
  nextSeqno := by
    rw [sends.nextSeqno]
    exact Nat.le_add_right _ _
  currentSeqno := current
  fin := by
    intro fin
    have nothing := sends_after_fin carried sends fin
    subst nothing
    refine ⟨?_, sends.nextSeqno⟩
    rw [sends.fin, fin]
    rfl

theorem apply_advances {written : List Byte} {filled : List TCPSegment} {s : TCPSender}
    (coherent : Coherent filled s) (carried : Carried written filled s) (call : Call) :
    Advances s (apply s call) := by
  cases fed : feeds call with
  | false =>
      exact sends_advances carried (apply_sends coherent call fed) (apply_currentSeqno coherent call)
  | true =>
      cases call with
      | write data => exact ⟨Nat.le_refl _, Nat.le_refl _, fun fin => ⟨fin, rfl⟩⟩
      | endInput => exact ⟨Nat.le_refl _, Nat.le_refl _, fun fin => ⟨fin, rfl⟩⟩
      | _ => cases fed

theorem run_advances {written : List Byte} {filled : List TCPSegment} {s : TCPSender}
    (coherent : Coherent filled s) (carried : Carried written filled s) (calls : List Call)
    (opened : AllowedRun apply WriterOpen s calls) : Advances s (calls.foldl apply s) := by
  induction calls generalizing s written filled with
  | nil => exact ⟨Nat.le_refl _, Nat.le_refl _, fun fin => ⟨fin, rfl⟩⟩
  | cons call calls ih =>
      exact (apply_advances coherent carried call).trans
        (ih (apply_coherent coherent call) (apply_carried coherent carried call opened.1) opened.2)

theorem stateSummary_rank {written : List Byte} {filled : List TCPSegment} {s : TCPSender}
    (coherent : Coherent filled s) (carried : Carried written filled s) :
    s.stateSummary.rank =
      if s.stream.error = true then 5
      else if s.nextSeqno = 0 then 0
      else if s.currentSeqno = 0 then 1
      else if s.fin = true then (if s.currentSeqno = s.nextSeqno then 4 else 3)
      else 2 := by
  have currentLe := coherent.currentLe
  have accounting := coherent.sound.accounting
  unfold stateSummary bytesInFlight
  cases s.stream.error with
  | true => rfl
  | false =>
      by_cases unstarted : s.nextSeqno = 0
      · simp [unstarted, TCPSenderStateSummary.rank]
      by_cases unacked : s.currentSeqno = 0
      · simp [unstarted, unacked, TCPSenderStateSummary.rank]
      have started := carried.started (Nat.pos_of_ne_zero unstarted)
      have partly : s.nextSeqno ≠ s.nextSeqno - s.currentSeqno := by omega
      cases fin : s.fin with
      | true =>
          obtain ⟨ended, drained⟩ := carried.closed fin
          have eof : s.stream.eof = true := by
            simp [ByteStream.eof, ByteStream.bufferEmpty, ended, drained]
          rw [drained, List.length_nil] at accounting
          rw [fin, Bool.toNat_true] at started
          have sentAll : ¬ s.nextSeqno < s.stream.bytesWritten + 2 := by omega
          by_cases all : s.currentSeqno = s.nextSeqno
          · simp [unstarted, eof, sentAll, all, TCPSenderStateSummary.rank]
          · have inFlight : s.nextSeqno - s.currentSeqno ≠ 0 := by omega
            simp [unstarted, unacked, partly, eof, sentAll, all, inFlight, TCPSenderStateSummary.rank]
      | false =>
          cases eof : s.stream.eof with
          | false => simp [unstarted, unacked, partly, TCPSenderStateSummary.rank]
          | true =>
              have drained : s.stream.buffer = [] := by
                simp only [ByteStream.eof, ByteStream.bufferEmpty, Bool.and_eq_true,
                  List.isEmpty_iff] at eof
                exact eof.1
              rw [drained, List.length_nil] at accounting
              rw [fin, Bool.toNat_false] at started
              have finUnsent : s.nextSeqno < s.stream.bytesWritten + 2 := by omega
              simp [unstarted, unacked, partly, finUnsent, TCPSenderStateSummary.rank]

theorem sender_rank_le {written writtenAfter : List Byte} {filled filledAfter : List TCPSegment}
    {s after : TCPSender} (coherent : Coherent filled s) (carried : Carried written filled s)
    (coherentAfter : Coherent filledAfter after)
    (carriedAfter : Carried writtenAfter filledAfter after) (advances : Advances s after)
    (error : s.stream.error = true → after.stream.error = true) :
    s.stateSummary.rank ≤ after.stateSummary.rank := by
  rw [stateSummary_rank coherent carried, stateSummary_rank coherentAfter carriedAfter]
  have next := advances.nextSeqno
  have current := advances.currentSeqno
  have currentLe := coherentAfter.currentLe
  cases failed : s.stream.error with
  | true => simp [error failed]
  | false =>
      cases fin : s.fin with
      | false =>
          simp only [Bool.false_eq_true, if_false]
          split_ifs <;> omega
      | true =>
          obtain ⟨sent, same⟩ := advances.fin fin
          simp only [sent, same, Bool.false_eq_true, if_false, if_true]
          split_ifs <;> omega

theorem receiver_rank (r : TCPReceiver) :
    r.stateSummary.rank =
      if r.streamOut.error = true then 3
      else if r.isSyn = true then (if r.streamOut.inputEnded = true then 2 else 1)
      else 0 := by
  unfold TCPReceiver.stateSummary
  rw [TCPReceiver.ackno_isSome]
  cases r.streamOut.error <;> cases r.isSyn <;> cases r.streamOut.inputEnded <;> rfl

theorem receiver_rank_le {r after : TCPReceiver} (error : r.streamOut.error = true →
    after.streamOut.error = true) (isSyn : r.isSyn = true → after.isSyn = true)
    (ended : r.streamOut.inputEnded = true → after.streamOut.inputEnded = true) :
    r.stateSummary.rank ≤ after.stateSummary.rank := by
  rw [receiver_rank, receiver_rank]
  cases failed : r.streamOut.error with
  | true => rw [if_pos rfl, if_pos (error failed)]
  | false =>
      rw [if_neg Bool.false_ne_true]
      cases heard : r.isSyn with
      | false => exact Nat.zero_le _
      | true =>
          rw [if_pos rfl, if_pos (isSyn heard)]
          cases finished : r.streamOut.inputEnded with
          | true =>
              rw [if_pos rfl, if_pos (ended finished)]
              split <;> decide
          | false =>
              rw [if_neg Bool.false_ne_true]
              split_ifs <;> decide

theorem heard_rank_le {c : TCPConnection} {operation : Operation} {after : TCPReceiver}
    (heard : Heard c operation after) : c.receiver.stateSummary.rank ≤ after.stateSummary.rank := by
  refine heard.rule (P := fun r => c.receiver.stateSummary.rank ≤ r.stateSummary.rank)
    (Nat.le_refl _) ?_ ?_ ?_
  · intro segment _
    apply receiver_rank_le
    · rw [TCPReceiver.segmentReceived_error]
      exact id
    · exact TCPReceiver.segmentReceived_isSyn _ segment
    · exact TCPReceiver.segmentReceived_inputEnded _ segment
  · exact fun len _ => receiver_rank_le id id id
  · exact fun r rises => rises.trans (receiver_rank_le (fun _ => rfl) id id)

def Orderly (c : TCPConnection) : Prop :=
  ∃ written filled, Settled filled c ∧ Carried written filled c.sender

theorem operate_orderly (c : TCPConnection) (operation : Operation) (orderly : Orderly c)
    (open_ : NoLateWrite c operation) : Orderly (operate c operation) := by
  obtain ⟨written, filled, settled, carried⟩ := orderly
  exact ⟨_, _, operate_settled settled operation, operate_carried settled carried operation open_⟩

theorem new_orderly (cfg : TCPConfig) (randomIsn : WrappingInt32) :
    Orderly (TCPConnection.new cfg randomIsn) :=
  ⟨[], [], new_settled cfg randomIsn,
    new_carried cfg.sendCapacity cfg.rtTimeout cfg.fixedIsn randomIsn⟩

theorem operate_sender_rank {c : TCPConnection} (operation : Operation) (orderly : Orderly c)
    (open_ : NoLateWrite c operation) :
    c.sender.stateSummary.rank ≤ (operate c operation).sender.stateSummary.rank := by
  obtain ⟨written, filled, settled, carried⟩ := orderly
  have after := operate_settled settled operation
  refine sender_rank_le settled.coherent carried after.coherent
    (operate_carried settled carried operation open_) ?_ ?_
  · rw [(operate_outcome settled operation).sender]
    obtain ⟨next, current, fin⟩ :=
      run_advances settled.coherent carried _ (senderCalls_open c operation open_)
    exact ⟨next, current, fin⟩
  · rw [settled.senderError, after.senderError]
    exact (operate_outcome settled operation).error

/-- Along every run in which nothing is written after the end of the outgoing stream, whatever
segments arrive, neither summary of the state moves back and lingering is never switched on again. -/
theorem state_never_reverses {cfg : TCPConfig} {randomIsn : WrappingInt32} {c d : TCPConnection}
    (reached : Reachable operate NoLateWrite (TCPConnection.new cfg randomIsn) c)
    (later : Reachable operate NoLateWrite c d) :
    c.state.sender.rank ≤ d.state.sender.rank ∧ c.state.receiver.rank ≤ d.state.receiver.rank ∧
      (c.lingerAfterStreamsFinish = false → d.lingerAfterStreamsFinish = false) := by
  have orderly : Orderly c :=
    reachable_invariant (new_orderly cfg randomIsn) operate_orderly reached
  refine ⟨?_, ?_, ?_⟩
  · exact reachable_monotone (fun c => c.sender.stateSummary.rank) orderly operate_orderly
      (fun state operation inv open_ => operate_sender_rank operation inv open_) later
  · refine reachable_monotone (fun c => c.receiver.stateSummary.rank) orderly operate_orderly ?_ later
    rintro state operation ⟨_, _, settled, _⟩ _
    exact heard_rank_le (operate_outcome settled operation).heard
  · intro off
    refine (reachable_invariant (P := fun state =>
      Orderly state ∧ state.lingerAfterStreamsFinish = false) ⟨orderly, off⟩ ?_ later).2
    rintro state operation ⟨inv, off⟩ open_
    have kept := operate_orderly state operation inv open_
    obtain ⟨_, _, settled, _⟩ := inv
    exact ⟨kept, (operate_outcome settled operation).linger off⟩

def opening : List Operation :=
  [.segmentReceived { header := { syn := true, seqno := ⟨100⟩ } },
    .segmentReceived { header := { ack := true, seqno := ⟨101⟩, ackno := ⟨1⟩, win := 4 } }]

def closing : List Operation :=
  [.segmentReceived { header := { ack := true, fin := true, seqno := ⟨101⟩, ackno := ⟨1⟩, win := 4 } },
    .endInputStream]

theorem closing_advances :
    let opened := opening.foldl operate listener
    opened.state.sender.rank ≤ (closing.foldl operate opened).state.sender.rank ∧
      opened.state.sender = .synAcked ∧ (closing.foldl operate opened).state.sender = .finSent :=
  ⟨(state_never_reverses (reachable_run opening (by decide +kernel))
    (reachable_run closing (by decide +kernel))).1, by decide +kernel, by decide +kernel⟩

end Sponge.ConnectionState
