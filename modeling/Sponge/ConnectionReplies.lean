import Sponge.ConnectionRun

/-! What a connection sends: every segment carries the acknowledgment and the window of the moment, a
segment that occupies sequence space is answered, and an acknowledgment is not acknowledged. -/

namespace Sponge.ConnectionReplies

open TCPConnection Tiling TCPSegment SenderQueue SenderTransmission SenderWindow ConnectionRun Transition

/-- The segments an operation appends to `segments_out`. -/
def appended (c : TCPConnection) (operation : Operation) : List TCPSegment :=
  (operate c operation).segmentsOut.drop c.segmentsOut.length

/-- The fields that `_send` fills in, read at the end of the operation. -/
structure Stamped (c : TCPConnection) (segment : TCPSegment) : Prop where
  ack : segment.header.ack = c.receiver.ackno.isSome
  ackno : ∀ ackno, c.receiver.ackno = some ackno → segment.header.ackno = ackno
  win : segment.header.win.toNat = min c.receiver.windowSize 65535
  rst : segment.header.rst = c.error

theorem stamp_stamped (c : TCPConnection) (segment : TCPSegment)
    (unstamped : segment.header.ack = false) : Stamped c (c.stamp segment) := by
  cases ackno : c.receiver.ackno with
  | none =>
      refine ⟨?_, ?_, ?_, ?_⟩
      · simp [stamp, ackno, unstamped]
      · intro number present
        rw [ackno] at present
        cases present
      · simp [stamp, ackno]
      · simp [stamp, ackno]
  | some number =>
      refine ⟨?_, ?_, ?_, ?_⟩
      · simp [stamp, ackno]
      · intro other present
        rw [ackno, Option.some.injEq] at present
        simp [stamp, ackno, present]
      · simp [stamp, ackno]
      · simp [stamp, ackno]

theorem stamp_length (c : TCPConnection) (segment : TCPSegment) :
    (c.stamp segment).lengthInSequenceSpace = segment.lengthInSequenceSpace := by
  unfold stamp lengthInSequenceSpace
  cases c.receiver.ackno <;> rfl

section Settled

variable {filled : List TCPSegment} {c : TCPConnection} (settled : Settled filled c)

include settled

theorem appended_eq (operation : Operation) :
    appended c operation =
      (called c operation).segmentsOut.map (operate c operation).stamp := by
  rw [appended, (operate_outcome settled operation).segmentsOut, List.drop_left]

theorem operate_segmentsOut (operation : Operation) :
    (operate c operation).segmentsOut = c.segmentsOut ++ appended c operation := by
  rw [appended_eq settled, (operate_outcome settled operation).segmentsOut]

theorem called_unstamped (operation : Operation) {segment : TCPSegment}
    (member : segment ∈ (called c operation).segmentsOut) : segment.header.ack = false := by
  rcases calls_segmentsOut settled.coherent settled.queue _ member with sent | bare
  · have coherent := run_coherent settled.coherent (senderCalls c operation)
    obtain ⟨seqno, numbered⟩ := number_of_mem lengthInSequenceSpace 0 sent
    have plain : segment.header = _ := (coherent.built _ numbered).unstamped
    rw [plain]
  · exact bare.2.2.2.2

theorem appended_stamped (operation : Operation) :
    ∀ segment ∈ appended c operation, Stamped (operate c operation) segment := by
  intro segment member
  rw [appended_eq settled, List.mem_map] at member
  obtain ⟨plain, queued, rfl⟩ := member
  exact stamp_stamped _ plain (called_unstamped settled operation queued)

theorem data_answered {segment : TCPSegment} (running : c.active = true)
    (noReset : segment.header.rst = false) (occupies : segment.lengthInSequenceSpace ≠ 0) :
    appended c (.segmentReceived segment) ≠ [] := by
  have ordinary : c.isKeepAlive segment = false := by
    unfold isKeepAlive
    cases c.receiver.ackno <;> simp [occupies]
  rw [appended_eq settled, ne_eq, List.map_eq_nil_iff]
  simp only [called, senderCalls, noReset, running, ordinary, Bool.not_true, Bool.or_false,
    Bool.false_eq_true, if_false, bne_iff_ne.mpr occupies, Bool.true_and]
  split
  case isTrue => simp [apply, TCPSender.sendEmptySegment]
  case isFalse nonempty => simpa [List.isEmpty_iff] using nonempty

theorem empty_unanswered {segment : TCPSegment} (running : c.active = true)
    (noReset : segment.header.rst = false) (empty : segment.lengthInSequenceSpace = 0)
    (ordinary : ∀ ackno, c.receiver.ackno = some ackno → segment.header.seqno ≠ ackno.minus 1) :
    ∀ reply ∈ appended c (.segmentReceived segment), 0 < reply.lengthInSequenceSpace := by
  have notKeepAlive : c.isKeepAlive segment = false := by
    unfold isKeepAlive
    cases present : c.receiver.ackno with
    | none => rfl
    | some ackno => simp [ordinary ackno present]
  have calls : senderCalls c (.segmentReceived segment) = [answer segment] := by
    simp [senderCalls, noReset, running, notKeepAlive, empty]
  have waiting : (called c (.segmentReceived segment)).segmentsOut =
      pushedRun c.sender [answer segment] := by
    rw [called, calls, pushedRun, pushedRun, List.append_nil, List.foldl_cons, List.foldl_nil]
    unfold answer
    split <;> simp [pushed, settled.queue]
  intro reply member
  rw [appended_eq settled, waiting, List.mem_map] at member
  obtain ⟨plain, sent, rfl⟩ := member
  obtain ⟨seqno, numbered⟩ := number_of_mem lengthInSequenceSpace c.sender.nextSeqno sent
  rw [stamp_length]
  exact run_built settled.coherent _ _ numbered

end Settled

/-- In every reachable state every operation appends stamped segments only and leaves the sender's
queue empty; a segment that occupies sequence space gets a reply, and one that does not, a keep-alive
apart, gets no reply of that kind. -/
theorem replies_stamped_and_paired {cfg : TCPConfig} {randomIsn : WrappingInt32} {c : TCPConnection}
    (reached : Reachable operate anything (TCPConnection.new cfg randomIsn) c)
    (operation : Operation) :
    (operate c operation).segmentsOut = c.segmentsOut ++ appended c operation ∧
      (∀ segment ∈ appended c operation, Stamped (operate c operation) segment) ∧
      (operate c operation).sender.segmentsOut = [] ∧
      ∀ segment, operation = .segmentReceived segment → c.active = true →
        segment.header.rst = false →
        (segment.lengthInSequenceSpace ≠ 0 → appended c operation ≠ []) ∧
        (segment.lengthInSequenceSpace = 0 →
          (∀ ackno, c.receiver.ackno = some ackno → segment.header.seqno ≠ ackno.minus 1) →
          ∀ reply ∈ appended c operation, reply.lengthInSequenceSpace ≠ 0) := by
  obtain ⟨filled, settled⟩ := reachable_settled reached
  refine ⟨operate_segmentsOut settled operation, appended_stamped settled operation,
    (operate_settled settled operation).queue, ?_⟩
  rintro segment rfl running noReset
  refine ⟨data_answered settled running noReset, ?_⟩
  intro empty ordinary reply member
  exact Nat.ne_of_gt (empty_unanswered settled running noReset empty ordinary reply member)

def answering : TCPConnection :=
  operate (TCPConnection.new { fixedIsn := some ⟨7⟩ } ⟨0⟩)
    (.segmentReceived { header := { syn := true, seqno := ⟨100⟩ } })

def twoBytes : TCPSegment :=
  { header := { seqno := ⟨101⟩, ack := true, ackno := ⟨8⟩ }, payload := [1, 2] }

theorem answering_acknowledges :
    Stamped (operate answering (.segmentReceived twoBytes))
      { header := { seqno := ⟨8⟩, ack := true, ackno := ⟨103⟩, win := 63998 } } := by
  have reached : Reachable operate anything (TCPConnection.new { fixedIsn := some ⟨7⟩ } ⟨0⟩) answering :=
    .next _ .start trivial
  refine (replies_stamped_and_paired reached (.segmentReceived twoBytes)).2.1 _ ?_
  decide +kernel

end Sponge.ConnectionReplies
