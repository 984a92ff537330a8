import Sponge.ConnectionCleanClose
import Sponge.ReassemblerEnd

/-! The passive closer: a connection whose peer finishes first should not linger. `segment_received` reads
`eof()` of the inbound stream, so the flag falls only if nothing is left to read at that moment. -/

namespace Sponge

namespace ConnectionPassiveClose

open TCPConnection StreamReassembler ConnectionRun ConnectionCleanClose Transition

/-- A segment that completes the inbound stream of a lingering connection without a FIN of its own finds
nothing unread and brings no byte of the stream. -/
def ReadInTime (c : TCPConnection) : Operation → Prop
  | .segmentReceived segment =>
      c.active = true → segment.header.rst = false → c.lingerAfterStreamsFinish = true →
        c.fin = false → c.inboundStream.inputEnded = false →
        (c.receiver.isSyn = true ∨ segment.header.syn = true) →
        c.receiver.reassembler.Completes segment.payload
          ((c.receiver.noteSyn segment).streamIndex segment) segment.header.fin →
        c.inboundStream.buffer = [] ∧
          ¬ c.receiver.reassembler.Present segment.payload
            ((c.receiver.noteSyn segment).streamIndex segment) c.inboundStream.bytesWritten
  | _ => True

instance (c : TCPConnection) (operation : Operation) : Decidable (ReadInTime c operation) := by
  cases operation <;> unfold ReadInTime <;> infer_instance

structure Yielding (c : TCPConnection) : Prop where
  settled : ∃ filled, Settled filled c
  valid : c.receiver.reassembler.Valid
  quiet : c.inboundStream.inputEnded = true → c.fin = false → c.lingerAfterStreamsFinish = false

theorem new_yielding (cfg : TCPConfig) (randomIsn : WrappingInt32) :
    Yielding (TCPConnection.new cfg randomIsn) :=
  ⟨⟨[], new_settled cfg randomIsn⟩, new_valid cfg.recvCapacity,
    fun ended _ => (Bool.false_ne_true ended).elim⟩

theorem segmentReceived_valid {r : TCPReceiver} (valid : r.reassembler.Valid) (segment : TCPSegment) :
    (r.segmentReceived segment).reassembler.Valid := by
  by_cases opened : r.isSyn = true ∨ segment.header.syn = true
  · rw [TCPReceiver.segmentReceived_accepted r segment opened]
    exact pushSubstring_valid _ valid _ _ _
  · rw [TCPReceiver.segmentReceived_unopened r segment opened]
    exact valid

theorem ending_unlingers {c : TCPConnection} (valid : c.receiver.reassembler.Valid)
    {segment : TCPSegment} (inTime : ReadInTime c (.segmentReceived segment)) (noFin : c.fin = false)
    (isOpen : c.inboundStream.inputEnded = false)
    (ended : (operate c (.segmentReceived segment)).inboundStream.inputEnded = true)
    (lingers : c.lingerAfterStreamsFinish = true) :
    (operate c (.segmentReceived segment)).lingerAfterStreamsFinish = false := by
  simp only [operate, TCPConnection.segmentReceived, inboundStream] at ended isOpen ⊢
  cases reset : segment.header.rst with
  | true =>
      -- the error is reported and the receiver hears nothing
      simp only [reset, if_true, report, active, Bool.not_false] at ended
      exact (Bool.false_ne_true (isOpen.symm.trans ended)).elim
  | false =>
      simp only [reset, Bool.false_eq_true, if_false] at ended ⊢
      have running : { c with timeSinceLastSegmentReceived := 0 }.active = c.active := rfl
      cases alive : c.active with
      | false =>
          simp only [running, alive, Bool.not_false, if_true] at ended
          exact (Bool.false_ne_true (isOpen.symm.trans ended)).elim
      | true =>
          simp only [running, alive, Bool.not_true, Bool.false_eq_true, if_false] at ended ⊢
          split at ended
          case isTrue =>
            rw [send_receiver] at ended
            exact (Bool.false_ne_true (isOpen.symm.trans ended)).elim
          case isFalse ordinary =>
            rw [if_neg ordinary, send_linger, react_linger, noFin, Bool.and_false, Bool.not_false,
              Bool.and_true]
            rw [send_receiver, react_receiver] at ended
            have opened : c.receiver.isSyn = true ∨ segment.header.syn = true := by
              by_contra closed
              rw [TCPReceiver.segmentReceived_unopened _ segment closed] at ended
              exact Bool.false_ne_true (isOpen.symm.trans ended)
            have accepted := TCPReceiver.segmentReceived_accepted c.receiver segment opened
            simp only [accepted, TCPReceiver.streamOut] at ended ⊢
            obtain ⟨completes, adds⟩ := pushSubstring_ends _ valid _ _ _ isOpen ended
            obtain ⟨empty, missing⟩ := inTime alive reset lingers noFin isOpen opened completes
            have unread : (c.receiver.reassembler.pushSubstring segment.payload
                ((c.receiver.noteSyn segment).streamIndex segment)
                segment.header.fin).output.buffer = [] := (adds missing).trans empty
            simp [ByteStream.eof, ByteStream.bufferEmpty, unread, ended]

theorem operate_yielding (c : TCPConnection) (operation : Operation) (yielding : Yielding c)
    (inTime : ReadInTime c operation) : Yielding (operate c operation) := by
  obtain ⟨filled, settled⟩ := yielding.settled
  have outcome := operate_outcome settled operation
  refine ⟨⟨_, operate_settled settled operation⟩, ?_, ?_⟩
  · exact outcome.heard.rule (P := fun r => r.reassembler.Valid) yielding.valid
      (fun segment _ => segmentReceived_valid yielding.valid segment)
      (fun len _ => readOut_valid _ yielding.valid len) (fun _ valid => setError_valid valid)
  · intro ended noFin
    have before : c.fin = false := by
      rw [outcome.fin, Bool.or_eq_false_iff] at noFin
      exact noFin.1
    cases isOpen : c.inboundStream.inputEnded with
    | true => exact outcome.linger (yielding.quiet isOpen before)
    | false =>
        cases lingers : c.lingerAfterStreamsFinish with
        | false => exact outcome.linger lingers
        | true =>
            -- only a segment can have ended the input
            have stays : (∀ segment, operation ≠ .segmentReceived segment) →
                (operate c operation).receiver.streamOut.inputEnded = false := fun other =>
              outcome.heard.rule (P := fun r => r.streamOut.inputEnded = false) isOpen
                (fun segment same => (other segment same).elim) (fun _ _ => isOpen)
                (fun _ stays => stays)
            cases operation with
            | segmentReceived segment =>
                exact ending_unlingers yielding.valid inTime before isOpen ended lingers
            | _ =>
                have still := stays (fun _ same => by cases same)
                exact (Bool.false_ne_true (still.symm.trans ended)).elim

theorem linger_stays_off {c later : TCPConnection} (settled : ∃ filled, Settled filled c)
    (off : c.lingerAfterStreamsFinish = false) (run : Reachable operate anything c later) :
    later.lingerAfterStreamsFinish = false := by
  have kept : (∃ filled, Settled filled later) ∧ later.lingerAfterStreamsFinish = false := by
    refine reachable_invariant
      (P := fun state => (∃ filled, Settled filled state) ∧ state.lingerAfterStreamsFinish = false)
      ⟨settled, off⟩ ?_ run
    rintro state operation ⟨⟨filled, holds⟩, quiet⟩ _
    exact ⟨⟨_, operate_settled holds operation⟩, (operate_outcome holds operation).linger quiet⟩
  exact kept.2

/-- While the inbound data is read in time, a connection that the peer finishes before it has sent a FIN
does not linger from then on and is inactive once both streams have finished. -/
theorem passive_closer_does_not_linger {cfg : TCPConfig} {randomIsn : WrappingInt32}
    {c later : TCPConnection}
    (reached : Reachable operate ReadInTime (TCPConnection.new cfg randomIsn) c)
    (segment : TCPSegment) (inTime : ReadInTime c (.segmentReceived segment))
    (ended : (operate c (.segmentReceived segment)).inboundStream.inputEnded = true)
    (noFin : (operate c (.segmentReceived segment)).fin = false)
    (after : Reachable operate anything (operate c (.segmentReceived segment)) later) :
    later.lingerAfterStreamsFinish = false ∧ (later.checkPrereqs = true → later.active = false) := by
  have yielding : Yielding (operate c (.segmentReceived segment)) :=
    operate_yielding c _ (reachable_invariant (new_yielding cfg randomIsn) operate_yielding reached) inTime
  have off := linger_stays_off yielding.settled (yielding.quiet ended noFin) after
  refine ⟨off, ?_⟩
  intro finished
  rw [← Bool.not_eq_true, active_iff, finished, off]
  simp

def oneByteRead : List Operation :=
  [.segmentReceived { header := { syn := true, seqno := ⟨100⟩ } },
    .segmentReceived
      { header := { ack := true, seqno := ⟨101⟩, ackno := ⟨1⟩, win := 4 }, payload := [7] },
    .readInbound 1]

def peerFin : TCPSegment :=
  { header := { ack := true, fin := true, seqno := ⟨102⟩, ackno := ⟨1⟩, win := 4 } }

def localClose : List Operation :=
  [.endInputStream,
    .segmentReceived { header := { ack := true, seqno := ⟨103⟩, ackno := ⟨2⟩, win := 4 } }]

theorem read_before_fin_closes :
    (localClose.foldl operate
      (operate (oneByteRead.foldl operate listener) (.segmentReceived peerFin))).active = false :=
  (passive_closer_does_not_linger (reachable_run oneByteRead (by decide +kernel)) peerFin
    (by decide +kernel) (by decide +kernel) (by decide +kernel)
    (reachable_run localClose ⟨trivial, trivial, trivial⟩)).2 (by decide +kernel)

def byteWithFin : List Operation :=
  [.segmentReceived { header := { syn := true, seqno := ⟨100⟩ } },
    .segmentReceived
      { header := { ack := true, fin := true, seqno := ⟨101⟩, ackno := ⟨1⟩, win := 4 },
        payload := [7] }]

/-- The byte is unread when the FIN arrives, and the connection lingers after both streams finish. -/
theorem unread_at_fin_lingers :
    ((byteWithFin.foldl operate listener).active = true ∧
        (byteWithFin.foldl operate listener).inboundStream.inputEnded = true ∧
        (byteWithFin.foldl operate listener).fin = false) ∧
      (byteWithFin.foldl operate listener).lingerAfterStreamsFinish = true ∧
      ((byteWithFin ++ .readInbound 1 :: localClose).foldl operate listener).checkPrereqs = true ∧
      ((byteWithFin ++ .readInbound 1 :: localClose).foldl operate listener).active = true := by
  decide +kernel

end ConnectionPassiveClose
end Sponge
