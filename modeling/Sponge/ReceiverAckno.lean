import Sponge.TcpReceiver

/-! What the receiver acknowledges when its segments are cut from one stream of the peer. -/

namespace Sponge.ReceiverAckno

open Transition ReassemblerStream

structure Cut (stream : List Byte) (isn : WrappingInt32) (start : Nat) (segment : TCPSegment) : Prop where
  seqno : segment.header.seqno = if segment.header.syn then isn else wrap (start + 1) isn
  syn : segment.header.syn = true → start = 0
  payload : segment.payload <+: stream.drop start
  fin : segment.header.fin = true → start + segment.payload.length = stream.length

instance (stream : List Byte) (isn : WrappingInt32) (start : Nat) (segment : TCPSegment) :
    Decidable (Cut stream isn start segment) :=
  decidable_of_iff
    ((segment.header.seqno = if segment.header.syn then isn else wrap (start + 1) isn) ∧
      (segment.header.syn = true → start = 0) ∧ segment.payload <+: stream.drop start ∧
      (segment.header.fin = true → start + segment.payload.length = stream.length))
    ⟨fun h => ⟨h.1, h.2.1, h.2.2.1, h.2.2.2⟩, fun cut => ⟨cut.seqno, cut.syn, cut.payload, cut.fin⟩⟩

inductive Event
  | segment (start : Nat) (segment : TCPSegment)
  | read (len : Nat)
  | popOutput (len : Nat)
  deriving DecidableEq

structure Traced where
  receiver : TCPReceiver
  history : List Event
  deriving DecidableEq

def start (capacity : Nat) : Traced := ⟨TCPReceiver.new capacity, []⟩

def respond (r : TCPReceiver) : Event → TCPReceiver
  | .segment _ segment => r.segmentReceived segment
  | .read len => (r.readOut len).2
  | .popOutput len =>
      { r with reassembler := r.reassembler.popOut len }

def step (t : Traced) (event : Event) : Traced := ⟨respond t.receiver event, event :: t.history⟩

/-- The segments are cut from the stream and arrive within `2 ^ 31` of the receiver's position. -/
def Admissible (stream : List Byte) (isn : WrappingInt32) (t : Traced) : Event → Prop
  | .segment start segment => Cut stream isn start segment ∧
      start + 1 < t.receiver.firstUnassembled + 2 ^ 31 ∧
      t.receiver.firstUnassembled < start + 1 + 2 ^ 31
  | _ => True

/-- A FIN that the receiver does not ignore ends inside the window and either brings the last byte
of the stream or finds it written or held. -/
def FinInTime (stream : List Byte) (t : Traced) : Event → Prop
  | .segment _ segment => segment.header.fin = true →
      t.receiver.isSyn = true ∨ segment.header.syn = true →
      stream.length ≤ t.receiver.streamOut.bytesRead + t.receiver.capacity ∧
        (segment.payload ≠ [] ∨ stream.length ≤ t.receiver.firstUnassembled ∨
          (t.receiver.reassembler.held (stream.length - 1)).isSome)
  | _ => True

instance (stream : List Byte) (isn : WrappingInt32) (t : Traced) :
    ∀ event, Decidable (Admissible stream isn t event)
  | .segment _ _ => inferInstanceAs (Decidable (_ ∧ _ ∧ _))
  | .read _ => .isTrue trivial
  | .popOutput _ => .isTrue trivial

instance (stream : List Byte) (t : Traced) : ∀ event, Decidable (FinInTime stream t event)
  | .segment _ _ => inferInstanceAs (Decidable (_ → _ → _ ∧ _))
  | .read _ => .isTrue trivial
  | .popOutput _ => .isTrue trivial

/-- Sequence numbers the receiver has: the SYN, the bytes written and the FIN of a stream that has
ended with all of its bytes. -/
def acknowledged (stream : List Byte) (r : TCPReceiver) : Nat :=
  1 + r.streamOut.bytesWritten +
    if r.streamOut.inputEnded && r.streamOut.bytesWritten == stream.length then 1 else 0

def SynArrived (t : Traced) : Prop :=
  ∃ start segment, Event.segment start segment ∈ t.history ∧ segment.header.syn = true

structure Inv (stream : List Byte) (isn : WrappingInt32) (t : Traced) : Prop where
  valid : t.receiver.reassembler.Valid
  sameCapacity : t.receiver.reassembler.capacity = t.receiver.capacity
  agrees : ∃ taken : List Byte, taken.length = t.receiver.streamOut.bytesRead ∧
    AgreesWith stream taken t.receiver.reassembler
  opened : t.receiver.isSyn = true → t.receiver.isn = isn
  arrived : SynArrived t → t.receiver.isSyn = true
  finSeen : t.receiver.isFin = t.receiver.reassembler.eof
  ends : EndsAt stream.length t.receiver.reassembler
  complete : t.receiver.reassembler.eof = true → t.receiver.reassembler.empty = true →
    t.receiver.streamOut.inputEnded = true

theorem start_inv (stream : List Byte) (isn : WrappingInt32) (capacity : Nat) :
    Inv stream isn (start capacity) where
  valid := StreamReassembler.new_valid capacity
  sameCapacity := rfl
  agrees := ⟨[], rfl, new_agrees stream capacity⟩
  opened := by intro opened; cases opened
  arrived := by
    rintro ⟨_, _, member, _⟩
    cases member
  finSeen := rfl
  ends := endsAt_of_running rfl rfl
  complete := by intro announced; cases announced

section Segment

variable {stream : List Byte} {isn : WrappingInt32} {t : Traced} {start : Nat} {segment : TCPSegment}

theorem cut_index (cut : Cut stream isn start segment) (inv : Inv stream isn t)
    (opened : t.receiver.isSyn = true ∨ segment.header.syn = true)
    (above : start + 1 < t.receiver.firstUnassembled + 2 ^ 31)
    (below : t.receiver.firstUnassembled < start + 1 + 2 ^ 31) :
    (t.receiver.noteSyn segment).streamIndex segment = start % 2 ^ 64 := by
  have number := cut.seqno
  cases syn : segment.header.syn with
  | true =>
      have payload : segment.payloadSeqno 0 = start + 1 := by
        simp [TCPSegment.payloadSeqno, syn, cut.syn syn]
      rw [syn, if_pos rfl, ← wrap_zero isn] at number
      rw [TCPReceiver.noteSyn_streamIndex t.receiver segment 0 isn number (fun _ => rfl) inv.opened
        opened (by omega) (by omega), payload]
      omega
  | false =>
      have payload : segment.payloadSeqno (start + 1) = start + 1 := by
        simp [TCPSegment.payloadSeqno, syn]
      rw [syn, if_neg Bool.false_ne_true] at number
      rw [TCPReceiver.noteSyn_streamIndex t.receiver segment (start + 1) isn number
        (fun flag => (Bool.false_ne_true (syn.symm.trans flag)).elim) inv.opened opened
        (by omega) (by omega), payload]
      omega

theorem cut_byte (cut : Cut stream isn start segment) {place : Nat} {byte : Byte}
    (present : segment.payload[place]? = some byte) : stream[start + place]? = some byte := by
  obtain ⟨rest, whole⟩ := cut.payload
  have bound := (List.getElem?_eq_some_iff.mp present).1
  rw [← List.getElem?_drop, ← whole, List.getElem?_append_left bound]
  exact present

theorem cut_length (cut : Cut stream isn start segment) (nonempty : segment.payload ≠ []) :
    start + segment.payload.length ≤ stream.length := by
  have length := cut.payload.length_le
  have positive := List.length_pos_iff.mpr nonempty
  rw [List.length_drop] at length
  omega

theorem cut_fits (short : stream.length < 2 ^ 64) (cut : Cut stream isn start segment) :
    start % 2 ^ 64 + segment.payload.length ≤ 2 ^ 64 := by
  by_cases empty : segment.payload = []
  · rw [empty, List.length_nil]
    omega
  · have length := cut_length cut empty
    omega

theorem ignored_inv (inv : Inv stream isn t)
    (closed : ¬ (t.receiver.isSyn = true ∨ segment.header.syn = true)) :
    Inv stream isn (step t (.segment start segment)) := by
  have same : step t (.segment start segment) = ⟨t.receiver, .segment start segment :: t.history⟩ :=
    congrArg (Traced.mk · _) (TCPReceiver.segmentReceived_unopened _ _ closed)
  rw [same]
  refine ⟨inv.valid, inv.sameCapacity, inv.agrees, inv.opened, ?_, inv.finSeen, inv.ends, inv.complete⟩
  rintro ⟨place, arrived, member, syn⟩
  rcases List.mem_cons.mp member with now | before
  · cases now
    exact (closed (.inr syn)).elim
  · exact inv.arrived ⟨place, arrived, before, syn⟩

theorem fin_noted (short : stream.length < 2 ^ 64) (inv : Inv stream isn t)
    (cut : Cut stream isn start segment)
    (window : segment.header.fin = true →
      stream.length ≤ t.receiver.streamOut.bytesRead + t.receiver.capacity) :
    (t.receiver.reassembler.markEof segment.payload (start % 2 ^ 64) segment.header.fin).eof =
      (t.receiver.isFin || segment.header.fin) := by
  rw [inv.finSeen, StreamReassembler.markEof]
  cases fin : segment.header.fin with
  | false => simp
  | true =>
      have last := cut.fin fin
      have index : start % 2 ^ 64 = start := Nat.mod_eq_of_lt (by omega)
      have inside := window fin
      rw [index, last, Nat.mod_eq_of_lt short, inv.sameCapacity,
        if_pos (by simpa [TCPReceiver.streamOut] using inside)]
      simp

theorem accepted_inv (short : stream.length < 2 ^ 64) (inv : Inv stream isn t)
    (opened : t.receiver.isSyn = true ∨ segment.header.syn = true)
    (admissible : Admissible stream isn t (.segment start segment))
    (inTime : FinInTime stream t (.segment start segment)) :
    Inv stream isn (step t (.segment start segment)) := by
  obtain ⟨cut, above, below⟩ := admissible
  have after : (step t (.segment start segment)).receiver = _ :=
    TCPReceiver.segmentReceived_accepted _ _ opened
  rw [cut_index cut inv opened above below] at after
  obtain ⟨taken, consumed, agrees⟩ := inv.agrees
  constructor <;> rw [after]
  · exact StreamReassembler.pushSubstring_valid _ inv.valid _ _ _
  · exact (pushSubstring_capacity _ _ _ _).trans inv.sameCapacity
  · refine ⟨taken, consumed.trans (pushSubstring_bytesRead _ inv.valid _ _ _).symm, ?_⟩
    apply pushSubstring_agrees stream taken _ inv.valid consumed agrees
    intro place byte present _
    have source := cut_byte cut present
    have bound := (List.getElem?_eq_some_iff.mp source).1
    have position : (place + start % 2 ^ 64) % 2 ^ 64 = start + place := by omega
    rw [position]
    exact source
  · intro _
    simp only
    split
    case isTrue before => exact inv.opened before
    case isFalse notBefore => rw [cut.seqno, if_pos (opened.resolve_left notBefore)]
  · exact fun _ => rfl
  · have noted := fin_noted short inv cut (fun fin => (inTime fin opened).1)
    exact ((pushSubstring_eof _ _ _ _).trans noted).symm
  · apply pushSubstring_endsAt inv.valid inv.ends (fun _ => cut_fits short cut)
    intro fin
    have last := cut.fin fin
    have index : start % 2 ^ 64 = start := Nat.mod_eq_of_lt (by omega)
    refine ⟨by rw [index]; exact last, short, ?_⟩
    rcases (inTime fin opened).2 with payload | written | held
    · exact .inl payload
    · exact .inr (.inl written)
    · exact .inr (.inr (.inl held))
  · intro announced empty
    rw [TCPReceiver.streamOut, pushSubstring_inputEnded _ inv.valid, announced, empty]
    simp

theorem segment_inv (short : stream.length < 2 ^ 64) (inv : Inv stream isn t)
    (admissible : Admissible stream isn t (.segment start segment))
    (inTime : FinInTime stream t (.segment start segment)) :
    Inv stream isn (step t (.segment start segment)) := by
  by_cases opened : t.receiver.isSyn = true ∨ segment.header.syn = true
  · exact accepted_inv short inv opened admissible inTime
  · exact ignored_inv inv opened

end Segment

theorem read_inv {stream : List Byte} {isn : WrappingInt32} {t : Traced} (inv : Inv stream isn t)
    (len : Nat) (event : Event) (quiet : ∀ start segment, event ≠ .segment start segment) :
    Inv stream isn ⟨(t.receiver.readOut len).2, event :: t.history⟩ := by
  obtain ⟨taken, consumed, agrees⟩ := inv.agrees
  constructor
  · exact StreamReassembler.readOut_valid _ inv.valid len
  · exact inv.sameCapacity
  · refine ⟨taken ++ (t.receiver.reassembler.readOut len).1, ?_, readOut_agrees _ _ _ agrees len⟩
    simp only [StreamReassembler.readOut, TCPReceiver.readOut, TCPReceiver.streamOut,
      ByteStream.read_fst, ByteStream.read_bytesRead, List.length_append, List.length_take, consumed]
  · exact inv.opened
  · rintro ⟨start, segment, member, syn⟩
    rcases List.mem_cons.mp member with now | before
    · exact (quiet start segment now.symm).elim
    · exact inv.arrived ⟨start, segment, before, syn⟩
  · exact inv.finSeen
  · exact ⟨inv.ends.covered, inv.ends.ended⟩
  · exact inv.complete

theorem step_inv {stream : List Byte} {isn : WrappingInt32} (short : stream.length < 2 ^ 64)
    (t : Traced) (event : Event) (inv : Inv stream isn t)
    (allowed : Admissible stream isn t event ∧ FinInTime stream t event) :
    Inv stream isn (step t event) := by
  cases event with
  | segment start segment => exact segment_inv short inv allowed.1 allowed.2
  | read len => exact read_inv inv len _ (by intro start segment same; cases same)
  | popOutput len => exact read_inv inv len _ (by intro start segment same; cases same)

theorem fin_counted {stream : List Byte} {isn : WrappingInt32} {t : Traced}
    (inv : Inv stream isn t) :
    (t.receiver.isFin && t.receiver.reassembler.empty) =
      (t.receiver.streamOut.inputEnded && t.receiver.streamOut.bytesWritten == stream.length) := by
  obtain ⟨taken, consumed, agrees⟩ := inv.agrees
  obtain ⟨a, refines⟩ := StreamReassembler.refines_exists taken _ inv.valid consumed
  have length := refines.writtenLength inv.valid
  have bound : t.receiver.streamOut.bytesWritten ≤ stream.length := by
    have longest := agrees.1.length_le
    rw [← refines.written, length] at longest
    exact longest
  rw [Bool.eq_iff_iff, Bool.and_eq_true, Bool.and_eq_true, beq_iff_eq]
  constructor
  · rintro ⟨fin, empty⟩
    rw [inv.finSeen] at fin
    have ended := inv.complete fin empty
    exact ⟨ended, Nat.le_antisymm bound (inv.ends.ended ended).2⟩
  · rintro ⟨ended, all⟩
    have announced := (inv.ends.ended ended).1
    refine ⟨by rw [inv.finSeen]; exact announced, ?_⟩
    have nothing : a.waiting = ∅ := by
      rw [Finset.eq_empty_iff_forall_notMem]
      intro position waits
      have filled := (Finset.mem_filter.mp waits).2
      have after := (a.window position filled).1
      rw [refines.pending] at filled
      obtain ⟨byte, holds⟩ := Option.isSome_iff_exists.mp filled
      have present := (List.getElem?_eq_some_iff.mp (agrees.2 position byte holds)).1
      have written : t.receiver.reassembler.output.bytesWritten = stream.length := all
      omega
    have count := ReassemblerRefinement.unassembled_eq_waiting inv.valid refines
    rw [nothing, Finset.card_empty] at count
    simp [StreamReassembler.empty, count]

theorem step_streamOut (t : Traced) (event : Event) (valid : t.receiver.reassembler.Valid) :
    t.receiver.streamOut.bytesWritten ≤ (step t event).receiver.streamOut.bytesWritten ∧
      (t.receiver.streamOut.inputEnded = true →
        (step t event).receiver.streamOut.inputEnded = true) := by
  cases event with
  | read len => exact ⟨Nat.le_refl _, fun ended => ended⟩
  | popOutput len => exact ⟨Nat.le_refl _, fun ended => ended⟩
  | segment start segment =>
      by_cases opened : t.receiver.isSyn = true ∨ segment.header.syn = true
      · have after : (step t (.segment start segment)).receiver = _ :=
          TCPReceiver.segmentReceived_accepted _ _ opened
        rw [after]
        refine ⟨pushSubstring_bytesWritten_le _ valid _ _ _, ?_⟩
        intro ended
        rw [TCPReceiver.streamOut, pushSubstring_inputEnded _ valid]
        simp only [TCPReceiver.streamOut] at ended
        simp [ended]
      · have same : (step t (.segment start segment)).receiver = t.receiver :=
          TCPReceiver.segmentReceived_unopened _ _ opened
        rw [same]
        exact ⟨Nat.le_refl _, fun ended => ended⟩

theorem acknowledged_rises {stream : List Byte} {isn : WrappingInt32} (t : Traced) (event : Event)
    (inv : Inv stream isn t) (next : Inv stream isn (step t event)) :
    acknowledged stream t.receiver ≤ acknowledged stream (step t event).receiver := by
  obtain ⟨written, keepsEnd⟩ := step_streamOut t event inv.valid
  unfold acknowledged
  split
  case isTrue finished =>
    simp only [Bool.and_eq_true, beq_iff_eq] at finished
    have endedAfter := keepsEnd finished.1
    have complete := (next.ends.ended endedAfter).2
    by_cases exactly : (step t event).receiver.streamOut.bytesWritten = stream.length
    · simp only [endedAfter, exactly, beq_self_eq_true, Bool.and_self, ↓reduceIte]
      omega
    · have more : stream.length < (step t event).receiver.streamOut.bytesWritten :=
        Nat.lt_of_le_of_ne complete (Ne.symm exactly)
      omega
  case isFalse => omega

/-- When every FIN arrives in time the receiver acknowledges exactly what it has, and never less
than before. -/
theorem ackno_exact (stream : List Byte) (isn : WrappingInt32) (capacity : Nat)
    (short : stream.length < 2 ^ 64) {t : Traced}
    (reached : Reachable step
      (fun t event => Admissible stream isn t event ∧ FinInTime stream t event) (start capacity) t)
    (arrived : SynArrived t) :
    t.receiver.ackno = some (wrap (acknowledged stream t.receiver) isn) ∧
      ∀ later, Reachable step
          (fun t event => Admissible stream isn t event ∧ FinInTime stream t event) t later →
        acknowledged stream t.receiver ≤ acknowledged stream later.receiver := by
  have inv : Inv stream isn t :=
    reachable_invariant (start_inv stream isn capacity) (step_inv short) reached
  constructor
  · have opened := inv.arrived arrived
    rw [TCPReceiver.ackno_some _ opened, inv.opened opened, fin_counted inv]
    rfl
  · intro later run
    exact reachable_monotone (fun t => acknowledged stream t.receiver) inv (step_inv short)
      (fun t event inv allowed => acknowledged_rises t event inv (step_inv short t event inv allowed))
      run

def lateByte : List Event :=
  [.segment 0 { header := { syn := true, seqno := ⟨0⟩ } },
   .segment 1 { header := { fin := true, seqno := ⟨2⟩ }, payload := [98] },
   .segment 0 { header := { seqno := ⟨1⟩ }, payload := [97] }]

theorem ackno_exact_late_byte :
    (lateByte.foldl step (start 8)).receiver.ackno = some (wrap 4 ⟨0⟩) := by
  have reached : Reachable step
      (fun t event => Admissible [97, 98] ⟨0⟩ t event ∧ FinInTime [97, 98] t event) (start 8)
      (lateByte.foldl step (start 8)) := reachable_run lateByte (by decide +kernel)
  have arrived : SynArrived (lateByte.foldl step (start 8)) :=
    ⟨0, _, List.mem_cons_of_mem _ (List.mem_cons_of_mem _ List.mem_cons_self), rfl⟩
  have written : acknowledged [97, 98] (lateByte.foldl step (start 8)).receiver = 4 := by
    decide +kernel
  rw [← written]
  exact (ackno_exact [97, 98] ⟨0⟩ 8 (by decide) reached arrived).1

def earlyFin : List Event :=
  [.segment 0 { header := { syn := true, seqno := ⟨0⟩ } },
   .segment 1 { header := { fin := true, seqno := ⟨2⟩ } }]

/-- The early FIN is acknowledged although the byte before it is missing. -/
theorem early_fin_acknowledged :
    Reachable step (Admissible [97] ⟨0⟩) (start 8) (earlyFin.foldl step (start 8)) ∧
      SynArrived (earlyFin.foldl step (start 8)) ∧
      (earlyFin.foldl step (start 8)).receiver.ackno = some (wrap 2 ⟨0⟩) ∧
      (earlyFin.foldl step (start 8)).receiver.ackno ≠
        some (wrap (acknowledged [97] (earlyFin.foldl step (start 8)).receiver) ⟨0⟩) := by
  refine ⟨reachable_run earlyFin (by decide +kernel), ?_, by decide +kernel, by decide +kernel⟩
  exact ⟨0, _, List.mem_cons_of_mem _ List.mem_cons_self, rfl⟩

end Sponge.ReceiverAckno
