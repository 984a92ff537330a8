import Sponge.ByteStreamRuns
import Sponge.Endpoint

/-! Writes to a stream that has been closed. Neither the stream nor the connection refuses them, so what
comes after the FIN is decided by the writer. -/

namespace Sponge.ConnectionFinality

open TCPSegment Tiling SenderFill SenderQueue SenderTransmission ConnectionRun ConnectionState
  ConnectionReplies Endpoint Transition

/-- No byte is written to an active connection that has sent its FIN. -/
def NoByteAfterFin (c : TCPConnection) : Operation → Prop
  | .write data =>
      c.active = true → c.sender.fin = true → data = [] ∨ c.sender.stream.remainingCapacity = 0
  | _ => True

instance (c : TCPConnection) : (operation : Operation) → Decidable (NoByteAfterFin c operation)
  | .write _ => inferInstanceAs (Decidable (_ → _))
  | .connect => .isTrue trivial
  | .endInputStream => .isTrue trivial
  | .tick _ => .isTrue trivial
  | .segmentReceived _ => .isTrue trivial
  | .readInbound _ => .isTrue trivial

theorem finKept_free (s : TCPSender) (call : Call) (other : ∀ data, call ≠ .write data) :
    FinKept s call := by
  cases call with
  | write data => exact (other data rfl).elim
  | _ => trivial

theorem senderCalls_finKept (c : TCPConnection) (operation : Operation)
    (kept : NoByteAfterFin c operation) :
    AllowedRun apply FinKept c.sender (senderCalls c operation) := by
  refine calls_guarded finKept_free ?_ (senderCalls_calls c operation)
  intro data same running
  subst same
  exact kept running

theorem reachable_source {cfg : TCPConfig} {randomIsn : WrappingInt32} {e : Endpoint}
    (reached : Reachable Endpoint.operate (fun e => NoByteAfterFin e.conn) (.new cfg randomIsn) e) :
    ∃ filled, Source filled e := by
  refine reachable_invariant (P := fun e => ∃ filled, Source filled e) ?_ ?_ reached
  · exact ⟨[], new_source cfg randomIsn⟩
  · rintro e operation ⟨filled, source⟩ kept
    exact ⟨_, source_step source operation (senderCalls_finKept e.conn operation kept)⟩

def finSeqno (seqno : Nat) (segment : TCPSegment) : Nat := seqno + segment.lengthInSequenceSpace - 1

/-- No emitted segment occupies a sequence number beyond that of an emitted FIN. -/
structure FinLast (e : Endpoint) : Prop where
  recorded : e.emitted.map Prod.snd = e.conn.segmentsOut
  numbered : ∀ entry ∈ e.emitted, entry.2.header.seqno = wrap entry.1 e.conn.sender.isn
  last : ∀ finish ∈ e.emitted, finish.2.header.fin = true → ∀ entry ∈ e.emitted, ∀ seqno,
    entry.1 ≤ seqno → seqno < entry.1 + entry.2.lengthInSequenceSpace →
      seqno ≤ finSeqno finish.1 finish.2

theorem sameData_length {plain segment : TCPSegment} (same : SameData plain segment) :
    segment.lengthInSequenceSpace = plain.lengthInSequenceSpace := by
  unfold lengthInSequenceSpace
  rw [same.payload, same.syn, same.fin]

theorem emitted_bounded {filled : List TCPSegment} {e : Endpoint} (source : Source filled e)
    {entry : Nat × TCPSegment} (member : entry ∈ e.emitted) (occupies : 0 < entry.2.lengthInSequenceSpace) :
    entry.1 + entry.2.lengthInSequenceSpace ≤ e.conn.sender.nextSeqno := by
  rcases source.emitted entry member with ⟨plain, numbered, same⟩ | blank
  · rw [sameData_length same, ← source.settled.coherent.space]
    have bounds := number_bounds lengthInSequenceSpace numbered
    omega
  · simp [lengthInSequenceSpace, blank.payload, blank.syn, blank.fin] at occupies

theorem emitted_fin_end {filled : List TCPSegment} {e : Endpoint} (source : Source filled e)
    {entry : Nat × TCPSegment} (member : entry ∈ e.emitted) (fin : entry.2.header.fin = true) :
    entry.1 + entry.2.lengthInSequenceSpace = e.conn.sender.nextSeqno := by
  rcases source.emitted entry member with ⟨plain, numbered, same⟩ | blank
  · rw [sameData_length same]
    exact source.carried.finEnd _ numbered (same.fin ▸ fin)
  · rw [blank.fin] at fin
    cases fin

theorem source_finLast {filled : List TCPSegment} {e : Endpoint} (source : Source filled e) : FinLast e where
  recorded := source.recorded
  numbered := fun _ member => (emitted_piece source member).numbered
  last := by
    intro finish sent fin entry member seqno first beyond
    have top := emitted_bounded source member (by omega)
    rw [← emitted_fin_end source sent fin] at top
    unfold finSeqno
    omega

/-- A stream whose input has ended keeps its count, and one at its end stays there, exactly when no
later byte is accepted. A connection sends nothing beyond its FIN in every run in which no byte is
written after the FIN. -/
theorem closed_stays_closed (s : ByteStream) (ops : List ByteStreamRuns.Operation) (cfg : TCPConfig)
    (randomIsn : WrappingInt32) (e : Endpoint) :
    (s.inputEnded = true →
      (Throughout ByteStreamRuns.operate (fun later => later.bytesWritten = s.bytesWritten) s ops ↔
        AllowedRun ByteStreamRuns.operate ByteStreamRuns.Refused s ops)) ∧
    (s.eof = true →
      (Throughout ByteStreamRuns.operate (fun later => later.eof = true) s ops ↔
        AllowedRun ByteStreamRuns.operate ByteStreamRuns.Refused s ops)) ∧
    (Reachable Endpoint.operate (fun e => NoByteAfterFin e.conn) (.new cfg randomIsn) e → FinLast e) := by
  refine ⟨fun ended => ByteStreamRuns.ended_count_kept ended ops,
    fun finished => ByteStreamRuns.eof_kept finished ops, ?_⟩
  intro reached
  obtain ⟨filled, source⟩ := reachable_source reached
  exact source_finLast source

def listener : Endpoint := .new ConnectionRun.listener.cfg ⟨0⟩

def lateByte : List Operation := opening ++ [.endInputStream, .write [7]]

/-- The stream takes a byte after its end and is then no longer at its end; the connection sends that
byte with the sequence number after the one of its FIN. -/
theorem late_byte_follows_fin :
    (ByteStream.new 4).endInput.eof = true ∧
      ¬ Throughout ByteStreamRuns.operate
        (fun later => later.bytesWritten = (ByteStream.new 4).endInput.bytesWritten)
        (ByteStream.new 4).endInput [.write [7]] ∧
      ¬ Throughout ByteStreamRuns.operate (fun later => later.eof = true)
        (ByteStream.new 4).endInput [.write [7]] ∧
      (lateByte.foldl Endpoint.operate listener).emitted.map
        (fun entry => (entry.1, entry.2.header.fin, entry.2.payload)) =
          [(0, false, []), (1, true, []), (2, false, [7])] ∧
      ¬ FinLast (lateByte.foldl Endpoint.operate listener) := by
  have places : ∃ finish ∈ (lateByte.foldl Endpoint.operate listener).emitted,
      finish.2.header.fin = true ∧ finSeqno finish.1 finish.2 = 1 ∧
        ∃ entry ∈ (lateByte.foldl Endpoint.operate listener).emitted,
          entry.1 = 2 ∧ entry.2.lengthInSequenceSpace = 1 := by decide +kernel
  refine ⟨by decide, by decide, by decide, by decide +kernel, ?_⟩
  intro finLast
  obtain ⟨finish, sent, fin, place, entry, member, start, length⟩ := places
  have inside := finLast.last finish sent fin entry member 2 (by omega) (by omega)
  omega

def timelyByte : List Operation := opening ++ [.write [7], .endInputStream, .write []]

theorem timely_byte_precedes_fin :
    Throughout ByteStreamRuns.operate (fun later => later.bytesWritten = 0)
        (ByteStream.new 4).endInput [.write [], .read 3] ∧
      Throughout ByteStreamRuns.operate (fun later => later.eof = true)
        (ByteStream.new 4).endInput [.write [], .read 3] ∧
      (timelyByte.foldl Endpoint.operate listener).emitted.map
        (fun entry => (entry.1, entry.2.header.fin)) = [(0, false), (1, false), (2, true)] ∧
      FinLast (timelyByte.foldl Endpoint.operate listener) := by
  obtain ⟨count, eof, last⟩ := closed_stays_closed (ByteStream.new 4).endInput [.write [], .read 3]
    ConnectionRun.listener.cfg ⟨0⟩ (timelyByte.foldl Endpoint.operate listener)
  refine ⟨(count rfl).mpr (by decide), (eof rfl).mpr (by decide), by decide +kernel, ?_⟩
  exact last (reachable_run timelyByte (by decide +kernel))

end Sponge.ConnectionFinality
