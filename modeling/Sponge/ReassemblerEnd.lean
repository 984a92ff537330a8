import Sponge.ReassemblerStream

/-! When a substring ends the stream: it completes it, and what it leaves unread. -/

namespace Sponge

namespace StreamReassembler

open ReassemblerStream

/-- The loop over `data` reaches `position`: no byte up to it lies beyond the window. -/
def Offered (r : StreamReassembler) (data : List Byte) (index position : Nat) : Prop :=
  r.output.bytesWritten ≤ position ∧ ∃ place < data.length, (place + index) % 2 ^ 64 = position ∧
    ∀ earlier ≤ place, (earlier + index) % 2 ^ 64 < r.output.bytesRead + r.capacity

def Present (r : StreamReassembler) (data : List Byte) (index position : Nat) : Prop :=
  (r.held position).isSome = true ∨ r.Offered data index position

def Completes (r : StreamReassembler) (data : List Byte) (index : Nat) (eof : Bool) : Prop :=
  (r.eof = true ∨ (index + data.length) % 2 ^ 64 ≤ r.output.bytesRead + r.capacity ∧ eof = true) ∧
    ∀ position < r.output.bytesRead + r.capacity, r.Present data index position →
      ∀ before < position, r.output.bytesWritten ≤ before → r.Present data index before

instance (r : StreamReassembler) (data : List Byte) (index position : Nat) :
    Decidable (r.Offered data index position) := inferInstanceAs (Decidable (_ ∧ _))

instance (r : StreamReassembler) (data : List Byte) (index position : Nat) :
    Decidable (r.Present data index position) := inferInstanceAs (Decidable (_ ∨ _))

instance (r : StreamReassembler) (data : List Byte) (index : Nat) (eof : Bool) :
    Decidable (r.Completes data index eof) := inferInstanceAs (Decidable (_ ∧ _))

theorem exists_place_succ {P Q : Nat → Prop} (count : Nat) :
    (∃ place < count + 1, P place ∧ ∀ earlier ≤ place, Q earlier) ↔
      Q 0 ∧ (P 0 ∨ ∃ place < count, P (place + 1) ∧ ∀ earlier ≤ place, Q (earlier + 1)) := by
  constructor
  · rintro ⟨place, bound, holds, all⟩
    refine ⟨all 0 (Nat.zero_le _), ?_⟩
    cases place with
    | zero => exact .inl holds
    | succ place =>
        exact .inr ⟨place, by omega, holds, fun earlier le => all (earlier + 1) (by omega)⟩
  · rintro ⟨first, holds | ⟨place, bound, holds, all⟩⟩
    · refine ⟨0, by omega, holds, ?_⟩
      intro earlier le
      rw [Nat.le_zero.mp le]
      exact first
    · refine ⟨place + 1, by omega, holds, ?_⟩
      intro earlier le
      cases earlier with
      | zero => exact first
      | succ earlier => exact all earlier (by omega)

theorem storeLoop_present (index dataIndex : Nat) (data : List Byte) (r : StreamReassembler)
    (valid : r.Valid) (position : Nat) :
    ((storeLoop index dataIndex data r).held position).isSome = true ↔
      (r.held position).isSome = true ∨
        r.output.bytesWritten ≤ position ∧ ∃ place < data.length,
          (place + dataIndex + index) % 2 ^ 64 = position ∧
            ∀ earlier ≤ place, (earlier + dataIndex + index) % 2 ^ 64 < r.output.bytesRead + r.capacity := by
  have room := valid.room
  induction data generalizing dataIndex r with
  | nil => simp [storeLoop]
  | cons byte rest ih =>
      have shift : ∀ place, place + 1 + dataIndex = place + (dataIndex + 1) := by
        intro place
        omega
      rw [List.length_cons, exists_place_succ, storeLoop]
      simp only [shift, Nat.zero_add]
      split
      case isTrue before =>
        refine (ih (dataIndex + 1) r valid room).trans ?_
        have notHere : r.output.bytesWritten ≤ position → (dataIndex + index) % 2 ^ 64 ≠ position := by
          omega
        have inside : (dataIndex + index) % 2 ^ 64 < r.output.bytesRead + r.capacity := by omega
        simp only [inside, true_and]
        refine or_congr_right (and_congr_right fun above => ?_)
        simp only [notHere above, false_or]
      case isFalse notBefore =>
        split
        case isTrue outside =>
          have beyond : ¬ (dataIndex + index) % 2 ^ 64 < r.output.bytesRead + r.capacity := by omega
          simp only [beyond, false_and, and_false, or_false]
        case isFalse within =>
          have inside : (dataIndex + index) % 2 ^ 64 < r.output.bytesRead + r.capacity := by omega
          have offset := Nat.not_le.mp within
          have place : r.output.bytesWritten + ((dataIndex + index) % 2 ^ 64 - r.output.bytesWritten) =
              (dataIndex + index) % 2 ^ 64 := by omega
          refine (ih (dataIndex + 1) _ (storeByte_valid r valid _ byte offset) room).trans ?_
          rw [storeByte_held r valid _ byte (valid.offset_bound offset), place]
          simp only [storeByte_output, storeByte_capacity, inside, true_and]
          by_cases here : (dataIndex + index) % 2 ^ 64 = position
          · simp only [here, if_true, Option.isSome_some, true_or, true_iff]
            exact .inr ⟨by omega, trivial⟩
          · simp only [Ne.symm here, here, if_false, false_or]

theorem stored_present (r : StreamReassembler) (valid : r.Valid) (data : List Byte) (index : Nat) (eof : Bool)
    (position : Nat) :
    (SparseWindow.lookup r.output.bytesWritten
        ((r.markEof data index eof).storeLoop index 0 data).cells position).isSome = true ↔
      r.Present data index position := by
  obtain ⟨output, capacity, cells, _⟩ := markEof_frame r data index eof
  have stored := storeLoop_output index 0 data (r.markEof data index eof)
  have reached := storeLoop_present index 0 data _ (markEof_valid r valid data index eof) position
  simp only [held, stored, output, capacity, cells, Nat.add_zero] at reached
  exact reached

theorem present_iff_retrieved (r : StreamReassembler) (valid : r.Valid) (data : List Byte) (index : Nat)
    (eof : Bool) (assembled : (r.pushSubstring data index eof).unassembledBytes = 0) (position : Nat) :
    r.Present data index position ↔ r.output.bytesWritten ≤ position ∧ position < r.output.bytesWritten +
      ((r.markEof data index eof).storeLoop index 0 data).retrieved.length := by
  have storedValid := storeLoop_valid index 0 data _ (markEof_valid r valid data index eof)
  have left : SparseWindow.stored (SparseWindow.drain
      ((r.markEof data index eof).storeLoop index 0 data).output.remainingCapacity
      ((r.markEof data index eof).storeLoop index 0 data).cells).2 = 0 := by
    have counted := (pushSubstring_valid r valid data index eof).counted
    rw [assembled, pushSubstring, (finish_frame _).2.2.2.2.1, assemble_cells _ storedValid] at counted
    exact counted.symm
  rw [← stored_present r valid data index eof, SparseWindow.lookup_drain,
    SparseWindow.lookup_of_stored_zero left]
  simp only [Bool.false_eq_true, or_false]
  rfl

theorem pushSubstring_ends (r : StreamReassembler) (valid : r.Valid) (data : List Byte) (index : Nat)
    (eof : Bool) (isOpen : r.output.inputEnded = false)
    (ended : (r.pushSubstring data index eof).output.inputEnded = true) :
    r.Completes data index eof ∧
      (¬ r.Present data index r.output.bytesWritten →
        (r.pushSubstring data index eof).output.buffer = r.output.buffer) := by
  rw [pushSubstring_inputEnded r valid, isOpen, Bool.false_or, Bool.and_eq_true, pushSubstring_eof] at ended
  obtain ⟨announced, nothingPending⟩ := ended
  have taken := present_iff_retrieved r valid data index eof (by simpa [empty] using nothingPending)
  refine ⟨⟨?_, ?_⟩, ?_⟩
  · unfold markEof at announced
    split at announced
    case isTrue last =>
      simp only [Bool.and_eq_true, decide_eq_true_eq] at last
      exact .inr last
    case isFalse => exact .inl announced
  · intro position _ there before earlier above
    rw [taken] at there ⊢
    omega
  · intro missing
    rw [taken] at missing
    have nothing : ((r.markEof data index eof).storeLoop index 0 data).retrieved = [] :=
      List.length_eq_zero_iff.mp (by omega)
    have storedValid := storeLoop_valid index 0 data _ (markEof_valid r valid data index eof)
    rw [pushSubstring, (finish_frame _).1, assemble_buffer _ storedValid, nothing, List.append_nil,
      storeLoop_output, (markEof_frame r data index eof).1]

theorem setError_valid {r : StreamReassembler} (valid : r.Valid) :
    StreamReassembler.Valid { r with output := r.output.setError } :=
  ⟨⟨valid.sound.accounting, valid.sound.bounded⟩, valid.outputCapacity, valid.bufferLength,
    valid.stateLength, valid.counted, valid.inWindow⟩

end StreamReassembler

end Sponge
