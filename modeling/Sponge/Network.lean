import Sponge.Endpoint

/-! Two endpoints and a network between them that loses, repeats and reorders segments. Any segment an
endpoint has ever emitted may be delivered to its peer at any time, any number of times. -/

namespace Sponge.Network

open Endpoint TCPSegment ReassemblerStream ConnectionRun ConnectionState Transition

inductive Side
  | left
  | right
  deriving DecidableEq, Repr

def Side.other : Side → Side
  | .left => .right
  | .right => .left

structure Pair where
  left : Endpoint
  right : Endpoint
  deriving DecidableEq, Repr

namespace Pair

def get (n : Pair) : Side → Endpoint
  | .left => n.left
  | .right => n.right

def set (n : Pair) : Side → Endpoint → Pair
  | .left, e => { n with left := e }
  | .right, e => { n with right := e }

@[simp] theorem get_set_same (n : Pair) (side : Side) (e : Endpoint) : (n.set side e).get side = e := by
  cases side <;> rfl

@[simp] theorem get_set_other (n : Pair) (side : Side) (e : Endpoint) :
    (n.set side e).get side.other = n.get side.other := by
  cases side <;> rfl

end Pair

@[simp] theorem Side.other_other (side : Side) : side.other.other = side := by
  cases side <;> rfl

def start (cfg : Side → TCPConfig) (randomIsn : Side → WrappingInt32) : Pair :=
  ⟨Endpoint.new (cfg .left) (randomIsn .left), Endpoint.new (cfg .right) (randomIsn .right)⟩

/-- An endpoint acts by itself, or the network delivers the segment with the given index among all that
the peer of `side` has emitted. -/
inductive Event
  | act (side : Side) (operation : Operation)
  | deliver (side : Side) (index : Nat)
  deriving DecidableEq, Repr

def step (n : Pair) : Event → Pair
  | .act side operation => n.set side ((n.get side).operate operation)
  | .deliver side index =>
      match (n.get side.other).emitted[index]? with
      | some entry => n.set side ((n.get side).operate (.segmentReceived entry.2))
      | none => n

def Local : Operation → Prop
  | .segmentReceived _ => False
  | _ => True

instance : (operation : Operation) → Decidable (Local operation)
  | .segmentReceived _ => .isFalse id
  | .connect => .isTrue trivial
  | .write _ => .isTrue trivial
  | .endInputStream => .isTrue trivial
  | .tick _ => .isTrue trivial
  | .readInbound _ => .isTrue trivial

/-- The absolute sequence number of a segment, past its SYN, is within `2 ^ 31` of what has been
written to the inbound stream. -/
def Near (e : Endpoint) (entry : Nat × TCPSegment) : Prop :=
  payloadSeqno entry.1 entry.2 < e.conn.inboundStream.bytesWritten + 2 ^ 31 ∧
    e.conn.inboundStream.bytesWritten < payloadSeqno entry.1 entry.2 + 2 ^ 31

instance (e : Endpoint) (entry : Nat × TCPSegment) : Decidable (Near e entry) :=
  inferInstanceAs (Decidable (_ ∧ _))

/-- No write after the end of the stream, and no delivery from too far away. -/
def Allowed (n : Pair) : Event → Prop
  | .act side operation => Local operation ∧ NoLateWrite (n.get side).conn operation
  | .deliver side index => ∀ entry ∈ (n.get side.other).emitted[index]?, Near (n.get side) entry

instance (n : Pair) : (event : Event) → Decidable (Allowed n event)
  | .act _ _ => inferInstanceAs (Decidable (_ ∧ _))
  | .deliver _ _ => inferInstanceAs (Decidable (∀ entry ∈ _, _))

/-- The receiving half of an endpoint whose peer is `source`. -/
structure Hears (source : Endpoint) (consumed : List Byte) (r : TCPReceiver) : Prop where
  valid : r.reassembler.Valid
  read : consumed.length = r.streamOut.bytesRead
  known : r.isSyn = true → r.isn = source.conn.sender.isn
  agrees : AgreesWith source.accepted consumed r.reassembler

theorem new_hears (source : Endpoint) (capacity : Nat) : Hears source [] (TCPReceiver.new capacity) where
  valid := StreamReassembler.new_valid capacity
  read := rfl
  known := fun heard => (Bool.false_ne_true heard).elim
  agrees := new_agrees _ capacity

theorem hears_setError {source : Endpoint} {consumed : List Byte} {r : TCPReceiver}
    (hears : Hears source consumed r) : Hears source consumed r.setError where
  valid := ⟨⟨hears.valid.sound.accounting, hears.valid.sound.bounded⟩, hears.valid.outputCapacity,
    hears.valid.bufferLength, hears.valid.stateLength, hears.valid.counted, hears.valid.inWindow⟩
  read := hears.read
  known := hears.known
  agrees := hears.agrees

theorem hears_read {source : Endpoint} {consumed : List Byte} {r : TCPReceiver}
    (hears : Hears source consumed r) (len : Nat) :
    Hears source (consumed ++ (r.readOut len).1) (r.readOut len).2 where
  valid := StreamReassembler.readOut_valid _ hears.valid len
  read := by
    simp only [TCPReceiver.readOut, StreamReassembler.readOut, TCPReceiver.streamOut,
      ByteStream.read_fst, ByteStream.read_bytesRead, List.length_append, List.length_take,
      hears.read]
  known := hears.known
  agrees := readOut_agrees _ _ _ hears.agrees len

theorem hears_more {source later : Endpoint} {consumed more : List Byte} {r : TCPReceiver}
    (hears : Hears source consumed r) (accepted : later.accepted = source.accepted ++ more)
    (isn : later.conn.sender.isn = source.conn.sender.isn) : Hears later consumed r where
  valid := hears.valid
  read := hears.read
  known := by rw [isn]; exact hears.known
  agrees := by rw [accepted]; exact agrees_extend hears.agrees

section Heard

variable {source : Endpoint} {consumed : List Byte} {r : TCPReceiver} {seqno : Nat}
  {segment : TCPSegment} (piece : Piece source seqno segment)
  (above : payloadSeqno seqno segment < r.firstUnassembled + 2 ^ 31)
  (below : r.firstUnassembled < payloadSeqno seqno segment + 2 ^ 31)

include piece above below

theorem heard_index (hears : Hears source consumed r) (opened : r.isSyn = true ∨ segment.header.syn = true) :
    (r.noteSyn segment).streamIndex segment = (payloadSeqno seqno segment + (2 ^ 64 - 1)) % 2 ^ 64 :=
  TCPReceiver.noteSyn_streamIndex r segment seqno _ piece.numbered piece.syn hears.known opened above
    below

theorem heard_placed {place : Nat} {byte : Byte} (present : segment.payload[place]? = some byte)
    (stored : r.firstUnassembled ≤
      (place + (payloadSeqno seqno segment + (2 ^ 64 - 1)) % 2 ^ 64) % 2 ^ 64) :
    source.accepted[(place + (payloadSeqno seqno segment + (2 ^ 64 - 1)) % 2 ^ 64) % 2 ^ 64]? =
      some byte := by
  -- the index may have wrapped, but a wrapped position lies before the first unassembled byte
  have bound := (List.getElem?_eq_some_iff.mp present).1
  have started := piece.started (.inl (List.ne_nil_of_length_pos (by omega)))
  have size := piece.bounded
  have position : (place + (payloadSeqno seqno segment + (2 ^ 64 - 1)) % 2 ^ 64) % 2 ^ 64 =
      payloadSeqno seqno segment - 1 + place := by omega
  obtain ⟨rest, whole⟩ := piece.bytes
  rw [position, ← List.getElem?_drop, ← whole, List.getElem?_append_left bound]
  exact present

theorem heard_hears (hears : Hears source consumed r) : Hears source consumed (r.segmentReceived segment) := by
  by_cases opened : r.isSyn = true ∨ segment.header.syn = true
  case neg =>
    rw [TCPReceiver.segmentReceived_unopened r segment opened]
    exact hears
  case pos =>
    rw [TCPReceiver.segmentReceived_accepted r segment opened,
      heard_index piece above below hears opened]
    refine ⟨StreamReassembler.pushSubstring_valid _ hears.valid _ _ _, ?_, ?_, ?_⟩
    · exact hears.read.trans (pushSubstring_bytesRead _ hears.valid _ _ _).symm
    · intro _
      simp only
      split
      case isTrue before => exact hears.known before
      case isFalse notBefore =>
        rw [piece.numbered, piece.syn (opened.resolve_left notBefore), wrap_zero]
    · apply pushSubstring_agrees _ _ _ hears.valid hears.read hears.agrees
      intro place byte present stored
      exact heard_placed piece above below present stored

end Heard

theorem operate_hears {filled : List TCPSegment} {source e : Endpoint}
    (settled : Settled filled e.conn) (hears : Hears source e.consumed e.conn.receiver)
    (operation : Operation)
    (delivered : ∀ segment, operation = .segmentReceived segment →
      ∃ seqno, Piece source seqno segment ∧ Near e (seqno, segment)) :
    Hears source (e.operate operation).consumed (e.operate operation).conn.receiver := by
  by_cases reads : ∃ len, operation = .readInbound len
  · obtain ⟨len, rfl⟩ := reads
    exact hears_read hears len
  have consumed : (e.operate operation).consumed = e.consumed := by
    cases operation with
    | readInbound len => exact (reads ⟨len, rfl⟩).elim
    | _ => exact List.append_nil _
  rw [consumed]
  refine (operate_outcome settled operation).heard.rule hears ?_ ?_ (fun _ => hears_setError)
  · intro segment same
    obtain ⟨seqno, piece, above, below⟩ := delivered segment same
    exact heard_hears piece above below hears
  · exact fun len same => (reads ⟨len, same⟩).elim

structure Inv (n : Pair) : Prop where
  source : ∀ side, ∃ filled, Source filled (n.get side)
  hears : ∀ side, Hears (n.get side.other) (n.get side).consumed (n.get side).conn.receiver

theorem start_inv (cfg : Side → TCPConfig) (randomIsn : Side → WrappingInt32) :
    Inv (start cfg randomIsn) where
  source := by
    intro side
    cases side <;> exact ⟨[], new_source _ _⟩
  hears := by
    intro side
    cases side <;> exact new_hears _ _

theorem eq_or_other (side other : Side) : other = side ∨ other = side.other := by
  cases side <;> cases other <;> decide

theorem operate_inv {n : Pair} (inv : Inv n) (side : Side) (operation : Operation)
    (open_ : NoLateWrite (n.get side).conn operation)
    (delivered : ∀ segment, operation = .segmentReceived segment →
      ∃ seqno, Piece (n.get side.other) seqno segment ∧ Near (n.get side) (seqno, segment)) :
    Inv (n.set side ((n.get side).operate operation)) := by
  obtain ⟨filled, source⟩ := inv.source side
  refine ⟨?_, ?_⟩
  · intro which
    rcases eq_or_other side which with rfl | rfl
    · rw [Pair.get_set_same]
      exact ⟨_, operate_source source operation open_⟩
    · rw [Pair.get_set_other]
      exact inv.source side.other
  · intro which
    rcases eq_or_other side which with rfl | rfl
    · rw [Pair.get_set_same, Pair.get_set_other]
      exact operate_hears source.settled (inv.hears which) operation delivered
    · rw [Pair.get_set_other, Side.other_other, Pair.get_set_same]
      have before := inv.hears side.other
      rw [Side.other_other] at before
      exact hears_more before rfl (operate_isn source.settled operation)

theorem step_inv (n : Pair) (event : Event) (inv : Inv n) (allowed : Allowed n event) :
    Inv (step n event) := by
  cases event with
  | act side operation =>
      refine operate_inv inv side operation allowed.2 ?_
      rintro segment rfl
      exact allowed.1.elim
  | deliver side index =>
      simp only [step]
      cases arrived : (n.get side.other).emitted[index]? with
      | none => exact inv
      | some entry =>
          refine operate_inv inv side _ trivial ?_
          intro segment same
          cases same
          obtain ⟨filled, source⟩ := inv.source side.other
          exact ⟨entry.1, emitted_piece source (List.mem_of_getElem? arrived), allowed entry arrived⟩

/-- Over every interleaving of both applications and every loss, repetition and reordering, the bytes
written to an inbound stream are a prefix of the bytes the peer's writes accepted. -/
theorem inbound_prefix_of_accepted {cfg : Side → TCPConfig} {randomIsn : Side → WrappingInt32}
    {n : Pair} (reached : Reachable step Allowed (start cfg randomIsn) n) (side : Side) :
    (n.get side).consumed ++ (n.get side).conn.inboundStream.buffer <+:
        (n.get side.other).accepted ∧
      ((n.get side).consumed ++ (n.get side).conn.inboundStream.buffer).length =
        (n.get side).conn.inboundStream.bytesWritten := by
  have hears := (reachable_invariant (start_inv cfg randomIsn) step_inv reached).hears side
  refine ⟨hears.agrees.1, ?_⟩
  rw [List.length_append, hears.read]
  exact hears.valid.sound.accounting.symm

def smallConfig : TCPConfig := { recvCapacity := 8, sendCapacity := 8 }

def lossyTransfer : List Event :=
  [.act .left .connect, .deliver .right 0, .deliver .left 0, .act .left (.write [7, 8]),
    .act .left (.tick 1000), .deliver .right 3, .deliver .right 3, .act .right (.readInbound 1)]

theorem lossy_transfer_prefix :
    let n := lossyTransfer.foldl step (start (fun _ => smallConfig) (fun _ => ⟨41⟩))
    n.right.consumed ++ n.right.conn.inboundStream.buffer <+: n.left.accepted ∧
      n.right.consumed = [7] ∧ n.left.accepted = [7, 8] :=
  ⟨(inbound_prefix_of_accepted (reachable_run lossyTransfer (by decide +kernel)) .right).1,
    by decide +kernel, by decide +kernel⟩

end Sponge.Network
