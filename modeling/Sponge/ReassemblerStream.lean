import Sponge.ReassemblerRefinement

/-! Pushes that are cut from one stream: what is held agrees with it, and its end is not missed. -/

namespace Sponge.ReassemblerStream

open StreamReassembler ReassemblerRefinement

/-- The bytes taken by the reader, the buffer and every held byte come from `source`. -/
def AgreesWith (source taken : List Byte) (r : StreamReassembler) : Prop :=
  taken ++ r.output.buffer <+: source ∧
    ∀ position byte, r.held position = some byte → source[position]? = some byte

theorem new_agrees (source : List Byte) (capacity : Nat) :
    AgreesWith source [] (StreamReassembler.new capacity) := by
  refine ⟨List.nil_prefix, ?_⟩
  intro position byte holds
  rw [new_held] at holds
  cases holds

theorem agrees_extend {source taken more : List Byte} {r : StreamReassembler}
    (agrees : AgreesWith source taken r) : AgreesWith (source ++ more) taken r := by
  refine ⟨agrees.1.trans (List.prefix_append source more), ?_⟩
  intro position byte holds
  have present := agrees.2 position byte holds
  rw [List.getElem?_append_left (List.getElem?_eq_some_iff.mp present).1]
  exact present

theorem storeLoop_agrees (source taken : List Byte) (r : StreamReassembler) (valid : r.Valid)
    (agrees : AgreesWith source taken r) (data : List Byte) (index : Nat)
    (placed : ∀ place byte, data[place]? = some byte →
      r.output.bytesWritten ≤ (place + index) % 2 ^ 64 →
      source[(place + index) % 2 ^ 64]? = some byte) :
    AgreesWith source taken (storeLoop index 0 data r) := by
  refine ⟨by rw [storeLoop_output]; exact agrees.1, ?_⟩
  suffices both : (storeLoop index 0 data r).Valid ∧
      ∀ position byte, (storeLoop index 0 data r).held position = some byte →
        source[position]? = some byte from both.2
  refine storeLoop_rule (P := fun current => current.Valid ∧
    ∀ position byte, current.held position = some byte → source[position]? = some byte)
    index 0 data r ⟨valid, agrees.2⟩ ?_
  intro current place byte holds present same after inside
  rw [Nat.zero_add] at after inside ⊢
  have inWindow : (place + index) % 2 ^ 64 - r.output.bytesWritten <
      current.output.remainingCapacity := by rw [same]; exact inside
  refine ⟨storeByte_valid current holds.1 _ byte inWindow, ?_⟩
  intro position other held
  rw [storeByte_held current holds.1 _ byte (holds.1.offset_bound inWindow), same] at held
  split at held
  case isTrue here =>
    cases held
    have exact : position = (place + index) % 2 ^ 64 := by omega
    rw [exact]
    exact placed place byte present after
  case isFalse => exact holds.2 position other held

theorem assemble_agrees (source taken : List Byte) (r : StreamReassembler) (valid : r.Valid)
    (consumed : taken.length = r.output.bytesRead) (agrees : AgreesWith source taken r) :
    AgreesWith source taken r.assemble := by
  obtain ⟨a, refines⟩ := refines_exists taken r valid consumed
  have abstract : a.Agrees source := by
    refine ⟨by rw [refines.written]; exact agrees.1, ?_⟩
    intro position byte waits
    rw [refines.pending] at waits
    exact agrees.2 position byte waits
  have settled := assemble_refines valid refines
  have kept := Assembly.settle_agrees source (a.read + r.capacity - a.written.length) a abstract
  refine ⟨by rw [← settled.written]; exact kept.1, ?_⟩
  intro position byte holds
  rw [← settled.pending] at holds
  exact kept.2 position byte holds

theorem pushSubstring_agrees (source taken : List Byte) (r : StreamReassembler) (valid : r.Valid)
    (consumed : taken.length = r.output.bytesRead) (agrees : AgreesWith source taken r)
    (data : List Byte) (index : Nat) (eof : Bool)
    (placed : ∀ place byte, data[place]? = some byte →
      r.output.bytesWritten ≤ (place + index) % 2 ^ 64 →
      source[(place + index) % 2 ^ 64]? = some byte) :
    AgreesWith source taken (r.pushSubstring data index eof) := by
  -- the index may have wrapped, so only positions at or after the first unassembled byte matter
  obtain ⟨output, _, cells, _⟩ := markEof_frame r data index eof
  have markedValid := markEof_valid r valid data index eof
  have marked : AgreesWith source taken (r.markEof data index eof) := by
    refine ⟨by rw [output]; exact agrees.1, ?_⟩
    intro position byte holds
    rw [held, output, cells] at holds
    exact agrees.2 position byte holds
  have stored := storeLoop_agrees source taken _ markedValid marked data index
    (by rw [output]; exact placed)
  have storedValid := storeLoop_valid index 0 data _ markedValid
  have assembled := assemble_agrees source taken _ storedValid
    (by rw [storeLoop_output, output]; exact consumed) stored
  obtain ⟨buffer, _, written, _, sameCells, _⟩ :=
    finish_frame ((r.markEof data index eof).storeLoop index 0 data).assemble
  refine ⟨by rw [pushSubstring, buffer]; exact assembled.1, ?_⟩
  intro position byte holds
  rw [pushSubstring, held, written, sameCells] at holds
  exact assembled.2 position byte holds

theorem readOut_agrees (source taken : List Byte) (r : StreamReassembler)
    (agrees : AgreesWith source taken r) (len : Nat) :
    AgreesWith source (taken ++ (r.readOut len).1) (r.readOut len).2 := by
  refine ⟨?_, agrees.2⟩
  simpa only [readOut, ByteStream.read_fst, ByteStream.read_buffer, List.append_assoc,
    List.take_append_drop] using agrees.1

theorem pushSubstring_bytesRead (r : StreamReassembler) (valid : r.Valid) (data : List Byte)
    (index : Nat) (eof : Bool) :
    (r.pushSubstring data index eof).output.bytesRead = r.output.bytesRead := by
  have storedValid := storeLoop_valid index 0 data _ (markEof_valid r valid data index eof)
  rw [pushSubstring, (finish_frame _).2.1, assemble_output _ storedValid, ByteStream.write_bytesRead,
    storeLoop_output, (markEof_frame r data index eof).1]

theorem pushSubstring_capacity (r : StreamReassembler) (data : List Byte) (index : Nat) (eof : Bool) :
    (r.pushSubstring data index eof).capacity = r.capacity := by
  rw [pushSubstring, (finish_frame _).2.2.2.1, assemble_capacity, storeLoop_capacity,
    (markEof_frame r data index eof).2.1]

theorem pushSubstring_bytesWritten_le (r : StreamReassembler) (valid : r.Valid) (data : List Byte)
    (index : Nat) (eof : Bool) :
    r.output.bytesWritten ≤ (r.pushSubstring data index eof).output.bytesWritten := by
  have storedValid := storeLoop_valid index 0 data _ (markEof_valid r valid data index eof)
  rw [pushSubstring, (finish_frame _).2.2.1, assemble_bytesWritten _ storedValid, storeLoop_output,
    (markEof_frame r data index eof).1]
  exact Nat.le_add_right _ _

theorem pushSubstring_eof (r : StreamReassembler) (data : List Byte) (index : Nat) (eof : Bool) :
    (r.pushSubstring data index eof).eof = (r.markEof data index eof).eof := by
  rw [pushSubstring, (finish_frame _).2.2.2.2.2.2.1, assemble_eof, storeLoop_eof]

theorem pushSubstring_inputEnded (r : StreamReassembler) (valid : r.Valid) (data : List Byte)
    (index : Nat) (eof : Bool) :
    (r.pushSubstring data index eof).output.inputEnded =
      (r.output.inputEnded || ((r.pushSubstring data index eof).eof &&
        (r.pushSubstring data index eof).empty)) := by
  have storedValid := storeLoop_valid index 0 data _ (markEof_valid r valid data index eof)
  have before : ((r.markEof data index eof).storeLoop index 0 data).assemble.output.inputEnded =
      r.output.inputEnded := by
    rw [assemble_output _ storedValid, ByteStream.write_inputEnded, storeLoop_output,
      (markEof_frame r data index eof).1]
  obtain ⟨_, _, _, _, _, unassembled, sameEof, _⟩ :=
    finish_frame ((r.markEof data index eof).storeLoop index 0 data).assemble
  rw [pushSubstring, finish_inputEnded, before, sameEof, empty, empty, unassembled]

/-- Once the last byte of a stream of length `total` has been announced it is kept until the stream
is complete, and the output ends only then. -/
structure EndsAt (total : Nat) (r : StreamReassembler) : Prop where
  covered : r.eof = true → total ≤ r.output.bytesWritten ∨ (r.held (total - 1)).isSome
  ended : r.output.inputEnded = true → r.eof = true ∧ total ≤ r.output.bytesWritten

theorem endsAt_of_running {total : Nat} {r : StreamReassembler} (running : r.eof = false)
    (open_ : r.output.inputEnded = false) : EndsAt total r := by
  constructor
  · intro announced
    rw [running] at announced
    cases announced
  · intro ended
    rw [open_] at ended
    cases ended

/-- A push that announces the end of the stream must bring the last byte, find it written or held,
or end outside the window. -/
def EndInTime (total : Nat) (r : StreamReassembler) (data : List Byte) : Prop :=
  data ≠ [] ∨ total ≤ r.output.bytesWritten ∨ (r.held (total - 1)).isSome ∨
    r.output.bytesRead + r.capacity < total

theorem markEof_announced {r : StreamReassembler} {data : List Byte} {index : Nat} {eof : Bool}
    (announced : (r.markEof data index eof).eof = true) : r.eof = true ∨ eof = true := by
  unfold markEof at announced
  split at announced
  case isTrue inWindow =>
    simp only [Bool.and_eq_true, decide_eq_true_eq] at inWindow
    exact .inr inWindow.2
  case isFalse => exact .inl announced

theorem markEof_keeps {r : StreamReassembler} (before : r.eof = true) (data : List Byte) (index : Nat)
    (eof : Bool) : (r.markEof data index eof).eof = true := by
  unfold markEof
  split
  · rfl
  · exact before

theorem markEof_window {total : Nat} {r : StreamReassembler} {data : List Byte} {index : Nat}
    (announced : (r.markEof data index true).eof = true) (running : ¬ r.eof = true)
    (last : index + data.length = total) (small : total < 2 ^ 64) :
    total ≤ r.output.bytesRead + r.capacity := by
  unfold markEof at announced
  rw [last, Nat.mod_eq_of_lt small, Bool.and_true] at announced
  split at announced
  case isTrue inside => exact of_decide_eq_true inside
  case isFalse => exact (running announced).elim

section Ends

variable {total : Nat} {r : StreamReassembler} {data : List Byte} {index : Nat} {eof : Bool}

theorem push_covers_last (valid : r.Valid) (ends : EndsAt total r)
    (last : eof = true → index + data.length = total ∧ total < 2 ^ 64 ∧ EndInTime total r data)
    (announced : (r.markEof data index eof).eof = true) {taken : List Byte}
    {a : Assembly r.capacity Byte} (refines : Refines taken r a) (positive : 0 < total) :
    (a.push data index).Covers (total - 1) := by
  have length := refines.writtenLength valid
  have known : total ≤ r.output.bytesWritten ∨ (r.held (total - 1)).isSome →
      (a.put data index).Covers (total - 1) := by
    intro present
    apply a.put_covers data index
    rcases present with written | waits
    · left
      omega
    · right
      rwa [refines.pending]
  apply Assembly.settle_covers
  by_cases before : r.eof = true
  · exact known (ends.covered before)
  · have final : eof = true := (markEof_announced announced).resolve_left before
    obtain ⟨endPosition, small, inTime⟩ := last final
    rw [final] at announced
    have window := markEof_window announced before endPosition small
    rcases inTime with nonempty | written | waits | outside
    · have size : 0 < data.length := List.length_pos_iff.mpr nonempty
      have read := refines.read
      exact a.put_covers_data data index _ (by omega) (by omega) (by omega)
    · exact known (.inl written)
    · exact known (.inr waits)
    · omega

theorem running_endsAt (valid : r.Valid) (ends : EndsAt total r)
    (silent : (r.markEof data index eof).eof = false) :
    EndsAt total (r.pushSubstring data index eof) := by
  have running : ¬ r.eof = true := by
    intro before
    rw [markEof_keeps before] at silent
    cases silent
  have open_ : r.output.inputEnded = false := by
    rw [← Bool.not_eq_true]
    exact fun ended => running (ends.ended ended).1
  have eofAfter := (pushSubstring_eof r data index eof).trans silent
  apply endsAt_of_running eofAfter
  rw [pushSubstring_inputEnded r valid, open_, eofAfter]
  rfl

theorem pushSubstring_endsAt (valid : r.Valid) (ends : EndsAt total r)
    (fits : r.eof = true ∨ eof = true → index + data.length ≤ 2 ^ 64)
    (last : eof = true → index + data.length = total ∧ total < 2 ^ 64 ∧ EndInTime total r data) :
    EndsAt total (r.pushSubstring data index eof) := by
  cases announced : (r.markEof data index eof).eof with
  | false => exact running_endsAt valid ends announced
  | true =>
      obtain ⟨a, refines⟩ :=
        refines_exists (List.replicate r.output.bytesRead blank) r valid List.length_replicate
      have noWrap := fits (markEof_announced announced)
      have after := pushSubstring_refines valid refines data index eof noWrap
      have afterValid := pushSubstring_valid r valid data index eof
      have afterLength := after.writtenLength afterValid
      have covers := push_covers_last valid ends last announced refines
      constructor
      · intro _
        rcases Nat.eq_zero_or_pos total with zero | positive
        · left
          omega
        · rcases covers positive with written | waits
          · left
            omega
          · right
            rwa [after.pending] at waits
      · intro ended
        refine ⟨(pushSubstring_eof r data index eof).trans announced, ?_⟩
        rw [pushSubstring_inputEnded r valid, Bool.or_eq_true, Bool.and_eq_true] at ended
        rcases ended with before | ⟨_, finished⟩
        · exact (ends.ended before).2.trans (pushSubstring_bytesWritten_le r valid data index eof)
        · rcases Nat.eq_zero_or_pos total with zero | positive
          · omega
          · have nothing : (a.push data index).waiting = ∅ := by
              rw [← Finset.card_eq_zero, ← unassembled_eq_waiting afterValid after]
              simpa [empty] using finished
            have written := Assembly.covers_written _ _ (covers positive) nothing
            omega

end Ends

end Sponge.ReassemblerStream
