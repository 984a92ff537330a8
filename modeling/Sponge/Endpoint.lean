import Sponge.ConnectionReplies
import Sponge.ConnectionState

/-! A connection together with what its application and the network have seen of it: the bytes its
writes accepted, the bytes read from it, and every segment it has emitted with the absolute sequence
number that the segment stands for. -/

namespace Sponge

open Tiling TCPSegment SenderFill SenderQueue SenderTransmission SenderWindow ConnectionRun
  ConnectionReplies ConnectionState Transition

structure Endpoint where
  conn : TCPConnection
  accepted : List Byte
  consumed : List Byte
  emitted : List (Nat × TCPSegment)
  deriving DecidableEq, Repr

namespace Endpoint

def new (cfg : TCPConfig) (randomIsn : WrappingInt32) : Endpoint :=
  ⟨TCPConnection.new cfg randomIsn, [], [], []⟩

/-- The sequence number of the first segment an operation emits: a tick repeats the oldest outstanding
segment, anything else goes on from the next sequence number. -/
def firstNumber (c : TCPConnection) : Operation → Nat
  | .tick _ => c.sender.nextSeqno - span lengthInSequenceSpace c.sender.outstandingSegments
  | _ => c.sender.nextSeqno

def acceptedBy (c : TCPConnection) : Operation → List Byte
  | .write data => data.take (c.write data).1
  | _ => []

def consumedBy (c : TCPConnection) : Operation → List Byte
  | .readInbound len => (c.readInbound len).1
  | _ => []

def operate (e : Endpoint) (operation : Operation) : Endpoint where
  conn := ConnectionRun.operate e.conn operation
  accepted := e.accepted ++ acceptedBy e.conn operation
  consumed := e.consumed ++ consumedBy e.conn operation
  emitted := e.emitted ++
    number lengthInSequenceSpace (firstNumber e.conn operation) (appended e.conn operation)

theorem calls_accepted {c : TCPConnection} {operation : Operation} {calls : List Call}
    (shape : Calls c operation calls) : acceptedBy c operation = acceptedRun c.sender calls := by
  have answered : ∀ s segment, SenderTransmission.accepted s (answer segment) = [] := by
    intro s segment
    unfold answer
    split <;> rfl
  cases shape with
  | inactive operation closed =>
      cases operation with
      | write data => simp [acceptedBy, TCPConnection.write, closed, acceptedRun]
      | _ => rfl
  | write data running =>
      simp [acceptedBy, TCPConnection.write, running, acceptedRun, SenderTransmission.accepted]
  | answered segment => rw [acceptedRun, answered]; rfl
  | acknowledged segment => rw [acceptedRun, answered]; rfl
  | _ => rfl

theorem acceptedBy_eq (c : TCPConnection) (operation : Operation) :
    acceptedBy c operation = acceptedBytes c operation :=
  calls_accepted (senderCalls_calls c operation)

structure SameData (plain segment : TCPSegment) : Prop where
  payload : segment.payload = plain.payload
  syn : segment.header.syn = plain.header.syn
  fin : segment.header.fin = plain.header.fin
  seqno : segment.header.seqno = plain.header.seqno

theorem stamp_sameData (c : TCPConnection) (segment : TCPSegment) :
    SameData segment (c.stamp segment) := by
  unfold TCPConnection.stamp
  cases c.receiver.ackno <;> exact ⟨rfl, rfl, rfl, rfl⟩

/-- A segment without bytes and flags that shows where the sender is. -/
structure Blank (isn : WrappingInt32) (seqno : Nat) (segment : TCPSegment) : Prop where
  payload : segment.payload = []
  syn : segment.header.syn = false
  fin : segment.header.fin = false
  seqno : segment.header.seqno = wrap seqno isn

def Pushing : Call → Prop
  | .tick _ => False
  | .sendEmptySegment => False
  | _ => True

theorem answer_pushing (segment : TCPSegment) : Pushing (answer segment) := by
  unfold answer
  split <;> trivial

theorem pushing_queue {filled : List TCPSegment} {s : TCPSender} (coherent : Coherent filled s)
    (calls : List Call) (pushing : ∀ call ∈ calls, Pushing call) :
    (calls.foldl apply s).segmentsOut = s.segmentsOut ++ pushedRun s calls := by
  induction calls generalizing s filled with
  | nil => simp [pushedRun]
  | cons call calls ih =>
      have head : (apply s call).segmentsOut = s.segmentsOut ++ pushed s call := by
        cases call with
        | write data => simp [pushed, apply, TCPSender.writeStream]
        | endInput => simp [pushed, apply, TCPSender.endStream]
        | fillWindow =>
            obtain ⟨sent, fills⟩ := fillWindow_fills s coherent.synFits
            rw [pushed_fillWindow fills]
            exact fills.emits.segmentsOut
        | ackReceived ackno windowSize =>
            obtain ⟨sent, acknowledged⟩ := ackReceived_acknowledged coherent ackno windowSize
            rw [pushed_ackReceived acknowledged]
            exact acknowledged.segmentsOut
        | tick ms => exact (pushing _ List.mem_cons_self).elim
        | sendEmptySegment => exact (pushing _ List.mem_cons_self).elim
      rw [List.foldl_cons, pushedRun, ih (apply_coherent coherent call)
        (fun other member => pushing other (List.mem_cons_of_mem call member)), head,
        List.append_assoc]

section Numbered

variable {filled : List TCPSegment} {c : TCPConnection} (settled : Settled filled c)

include settled

theorem pushing_numbered {calls : List Call} {entry : Nat × TCPSegment}
    (pushing : ∀ call ∈ calls, Pushing call)
    (member : entry ∈ number lengthInSequenceSpace c.sender.nextSeqno
      (calls.foldl apply c.sender).segmentsOut) :
    entry ∈ number lengthInSequenceSpace 0 (filled ++ pushedRun c.sender calls) := by
  rw [pushing_queue settled.coherent _ pushing, settled.queue, List.nil_append] at member
  rw [number_append, Nat.zero_add, settled.coherent.space]
  exact List.mem_append_right _ member

theorem front_numbered {segment : TCPSegment}
    (front : c.sender.outstandingSegments.head? = some segment) :
    (c.sender.nextSeqno - span lengthInSequenceSpace c.sender.outstandingSegments, segment) ∈
      number lengthInSequenceSpace 0 filled := by
  obtain ⟨acked, whole⟩ := settled.coherent.tail
  have space := settled.coherent.space
  rw [whole, span_append] at space
  rw [whole, number_append, Nat.zero_add]
  apply List.mem_append_right
  have start : c.sender.nextSeqno - span lengthInSequenceSpace c.sender.outstandingSegments =
      span lengthInSequenceSpace acked := by omega
  rw [start]
  cases queue : c.sender.outstandingSegments with
  | nil => rw [queue] at front; cases front
  | cons head rest =>
      rw [queue, List.head?_cons, Option.some.injEq] at front
      subst front
      exact List.mem_cons_self

theorem tick_numbered (ms : UInt64) {entry : Nat × TCPSegment}
    (member : entry ∈ number lengthInSequenceSpace
      (c.sender.nextSeqno - span lengthInSequenceSpace c.sender.outstandingSegments)
      (c.sender.tick ms).segmentsOut) : entry ∈ number lengthInSequenceSpace 0 filled := by
  rcases tick_segmentsOut c.sender ms with same | again
  · simp [same, settled.queue, number] at member
  · rw [again, settled.queue, List.nil_append] at member
    cases front : c.sender.outstandingSegments.head? with
    | none => simp [front, number] at member
    | some segment =>
        simp only [front, Option.toList_some, number, List.mem_singleton] at member
        rw [member]
        exact front_numbered settled front

theorem silent_answer_blank {segment : TCPSegment} {entry : Nat × TCPSegment}
    (silent : (apply c.sender (answer segment)).segmentsOut = [])
    (member : entry ∈ number lengthInSequenceSpace c.sender.nextSeqno
      (apply c.sender (answer segment)).sendEmptySegment.segmentsOut) :
    Blank c.sender.isn entry.1 entry.2 := by
  -- when the answer sends nothing, the acknowledgment stands at the next sequence number
  have nothing : pushed c.sender (answer segment) = [] := by
    have queue := pushing_queue settled.coherent [answer segment]
      (List.forall_mem_cons.mpr ⟨answer_pushing segment, List.forall_mem_nil _⟩)
    simpa [silent, settled.queue, pushedRun] using queue.symm
  have quiet : feeds (answer segment) = false := by
    unfold answer
    split <;> rfl
  have sends : Sends c.sender (apply c.sender (answer segment)) [] := by
    rw [← nothing]
    exact apply_sends settled.coherent (answer segment) quiet
  have next : (apply c.sender (answer segment)).nextSeqno = c.sender.nextSeqno := sends.nextSeqno
  simp only [TCPSender.sendEmptySegment, silent, List.nil_append, number, List.mem_singleton, next,
    sends.isn] at member
  rw [member]
  exact ⟨rfl, rfl, rfl, rfl⟩

theorem keepAlive_blank {entry : Nat × TCPSegment}
    (member : entry ∈ number lengthInSequenceSpace c.sender.nextSeqno
      c.sender.sendEmptySegment.segmentsOut) : Blank c.sender.isn entry.1 entry.2 := by
  simp only [TCPSender.sendEmptySegment, settled.queue, List.nil_append, number,
    List.mem_singleton] at member
  rw [member]
  exact ⟨rfl, rfl, rfl, rfl⟩

theorem calls_numbered {operation : Operation} {calls : List Call} {entry : Nat × TCPSegment}
    (shape : Calls c operation calls)
    (member : entry ∈ number lengthInSequenceSpace (firstNumber c operation)
      (calls.foldl apply c.sender).segmentsOut) :
    entry ∈ number lengthInSequenceSpace 0 (filled ++ pushedRun c.sender calls) ∨
      Blank c.sender.isn entry.1 entry.2 := by
  have nothing : ∀ start, entry ∉ number lengthInSequenceSpace start c.sender.segmentsOut := by
    intro start present
    rw [settled.queue] at present
    cases present
  cases shape with
  | inactive => exact (nothing _ member).elim
  | reset => exact (nothing _ member).elim
  | readInbound => exact (nothing _ member).elim
  | connect =>
      left
      refine pushing_numbered settled ?_ member
      exact List.forall_mem_singleton.mpr trivial
  | write data =>
      left
      refine pushing_numbered settled ?_ member
      exact List.forall_mem_cons.mpr ⟨trivial, List.forall_mem_singleton.mpr trivial⟩
  | endInputStream =>
      left
      refine pushing_numbered settled ?_ member
      exact List.forall_mem_cons.mpr ⟨trivial, List.forall_mem_singleton.mpr trivial⟩
  | tick ms =>
      left
      rw [number_append]
      exact List.mem_append_left _ (tick_numbered settled ms member)
  | keepAlive => exact .inr (keepAlive_blank settled member)
  | answered segment =>
      exact .inl (pushing_numbered settled
        (List.forall_mem_singleton.mpr (answer_pushing segment)) member)
  | acknowledged segment silent => exact .inr (silent_answer_blank settled silent member)

end Numbered

/-- The sending half of an endpoint: each emitted segment repeats a first transmission under its
number, or is blank. -/
structure Source (filled : List TCPSegment) (e : Endpoint) : Prop where
  settled : Settled filled e.conn
  carried : Carried e.accepted filled e.conn.sender
  recorded : e.emitted.map Prod.snd = e.conn.segmentsOut
  emitted : ∀ entry ∈ e.emitted,
    (∃ plain, (entry.1, plain) ∈ number lengthInSequenceSpace 0 filled ∧ SameData plain entry.2) ∨
      Blank e.conn.sender.isn entry.1 entry.2

theorem new_source (cfg : TCPConfig) (randomIsn : WrappingInt32) : Source [] (new cfg randomIsn) where
  settled := new_settled cfg randomIsn
  carried := new_carried cfg.sendCapacity cfg.rtTimeout cfg.fixedIsn randomIsn
  recorded := rfl
  emitted := by
    intro entry member
    cases member

theorem source_step {filled : List TCPSegment} {e : Endpoint} (source : Source filled e)
    (operation : Operation)
    (kept : AllowedRun apply FinKept e.conn.sender (senderCalls e.conn operation)) :
    Source (filled ++ firstSent e.conn operation) (e.operate operation) where
  settled := operate_settled source.settled operation
  carried := by
    simp only [operate, acceptedBy_eq]
    exact operate_kept source.settled source.carried operation kept
  recorded := by
    simp only [operate, List.map_append, number_snd, source.recorded]
    exact (operate_segmentsOut source.settled operation).symm
  emitted := by
    intro entry member
    have isn : (e.operate operation).conn.sender.isn = e.conn.sender.isn :=
      operate_isn source.settled operation
    rw [isn]
    rcases List.mem_append.mp member with old | fresh
    · refine (source.emitted entry old).imp_left ?_
      rintro ⟨plain, numbered, same⟩
      refine ⟨plain, ?_, same⟩
      rw [number_append]
      exact List.mem_append_left _ numbered
    · rw [appended_eq source.settled, number_map _ _ _ _ (stamp_length _), List.mem_map] at fresh
      obtain ⟨⟨seqno, plain⟩, waiting, rfl⟩ := fresh
      have same := stamp_sameData (ConnectionRun.operate e.conn operation) plain
      rcases calls_numbered source.settled (senderCalls_calls e.conn operation) waiting with
        numbered | blank
      · exact .inl ⟨plain, numbered, same⟩
      · exact .inr ⟨same.payload.trans blank.payload, same.syn.trans blank.syn,
          same.fin.trans blank.fin, same.seqno.trans blank.seqno⟩

theorem operate_source {filled : List TCPSegment} {e : Endpoint} (source : Source filled e)
    (operation : Operation) (open_ : NoLateWrite e.conn operation) :
    Source (filled ++ firstSent e.conn operation) (e.operate operation) :=
  source_step source operation
    (run_finKept source.settled.coherent source.carried _ (senderCalls_open e.conn operation open_))

/-- A segment cut from the accepted bytes at its absolute sequence number. -/
structure Piece (e : Endpoint) (seqno : Nat) (segment : TCPSegment) : Prop where
  numbered : segment.header.seqno = wrap seqno e.conn.sender.isn
  syn : segment.header.syn = true → seqno = 0
  bytes : segment.payload <+: e.accepted.drop (payloadSeqno seqno segment - 1)
  bounded : segment.payload.length ≤ 1000
  started : segment.payload ≠ [] ∨ segment.header.fin = true → 1 ≤ payloadSeqno seqno segment
  fin : segment.header.fin = true → e.conn.sender.fin = true ∧
    payloadSeqno seqno segment - 1 + segment.payload.length = e.accepted.length

theorem sent_piece {filled : List TCPSegment} {e : Endpoint} (source : Source filled e) {seqno : Nat}
    {segment : TCPSegment}
    (member : (seqno, segment) ∈ number lengthInSequenceSpace 0 filled) : Piece e seqno segment := by
  have built := source.settled.coherent.built _ member
  have started : 1 ≤ payloadSeqno seqno segment := by
    unfold payloadSeqno
    by_cases zero : seqno = 0
    · rw [if_pos (built.syn.mpr zero)]
      exact Nat.le_add_left _ _
    · omega
  refine ⟨?_, built.syn.mp, source.carried.bytes _ member, built.bounded, fun _ => started, ?_⟩
  · have plain : segment.header = _ := built.unstamped
    rw [plain]
  · intro fin
    have sent : e.conn.sender.fin = true := by
      rw [source.carried.finSent, List.any_eq_true]
      exact ⟨segment, mem_of_number lengthInSequenceSpace member, fin⟩
    refine ⟨sent, ?_⟩
    have finish : seqno + segment.lengthInSequenceSpace = e.conn.sender.nextSeqno :=
      source.carried.finEnd _ member fin
    have nonempty : 0 < segment.lengthInSequenceSpace := built.nonempty
    have numbers := source.carried.started (by omega)
    have accounting := source.settled.coherent.sound.accounting
    rw [(source.carried.closed sent).2, List.length_nil] at accounting
    rw [source.carried.length]
    rw [sent, Bool.toNat_true] at numbers
    simp only [lengthInSequenceSpace, fin, if_true] at finish
    unfold payloadSeqno at started ⊢
    omega

theorem emitted_piece {filled : List TCPSegment} {e : Endpoint} (source : Source filled e)
    {seqno : Nat} {segment : TCPSegment} (member : (seqno, segment) ∈ e.emitted) :
    Piece e seqno segment := by
  rcases source.emitted _ member with ⟨plain, numbered, same⟩ | blank
  · have piece := sent_piece source numbered
    have place : payloadSeqno seqno segment = payloadSeqno seqno plain := by
      rw [payloadSeqno, payloadSeqno, same.syn]
    refine ⟨same.seqno.trans piece.numbered, ?_, ?_, ?_, ?_, ?_⟩
    · rw [same.syn]
      exact piece.syn
    · rw [same.payload, place]
      exact piece.bytes
    · rw [same.payload]
      exact piece.bounded
    · rw [same.payload, same.fin, place]
      exact piece.started
    · rw [same.payload, same.fin, place]
      exact piece.fin
  · refine ⟨blank.seqno, ?_, ?_, ?_, ?_, ?_⟩
    · intro flag
      rw [blank.syn] at flag
      cases flag
    · rw [blank.payload]
      exact List.nil_prefix
    · rw [blank.payload]
      exact Nat.zero_le _
    · rw [blank.payload, blank.fin]
      simp
    · intro flag
      rw [blank.fin] at flag
      cases flag

end Endpoint
end Sponge
