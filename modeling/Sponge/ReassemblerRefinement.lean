import Sponge.StreamReassembler
import Sponge.Transition

/-! The reassembler computes the set-of-positions reading of its specification. -/

namespace Sponge.ReassemblerRefinement

open StreamReassembler

theorem storeLoop_held (index dataIndex : Nat) (data : List Byte) (r : StreamReassembler)
    (valid : r.Valid) (fits : dataIndex + index + data.length ≤ 2 ^ 64) (position : Nat) :
    (storeLoop index dataIndex data r).held position =
      if dataIndex + index ≤ position ∧ position < dataIndex + index + data.length ∧
          r.output.bytesWritten ≤ position ∧ position < r.output.bytesRead + r.capacity
      then data[position - (dataIndex + index)]? else r.held position := by
  induction data generalizing dataIndex r with
  | nil =>
      rw [if_neg (by simp only [List.length_nil]; omega)]
      rfl
  | cons byte rest ih =>
      simp only [List.length_cons] at fits
      have room := valid.room
      have unwrapped : (dataIndex + index) % 2 ^ 64 = dataIndex + index :=
        Nat.mod_eq_of_lt (by omega)
      have tailByte : ∀ place, dataIndex + 1 + index ≤ place →
          rest[place - (dataIndex + 1 + index)]? = (byte :: rest)[place - (dataIndex + index)]? := by
        intro place after
        have shift : place - (dataIndex + index) = place - (dataIndex + 1 + index) + 1 := by omega
        rw [shift, List.getElem?_cons_succ]
      rw [storeLoop]
      simp only [unwrapped]
      split
      case isTrue before =>
        rw [ih (dataIndex + 1) r valid (by omega)]
        by_cases inside : dataIndex + 1 + index ≤ position ∧
            position < dataIndex + 1 + index + rest.length ∧
            r.output.bytesWritten ≤ position ∧ position < r.output.bytesRead + r.capacity
        · rw [if_pos inside, if_pos (by simp only [List.length_cons]; omega), tailByte position inside.1]
        · rw [if_neg inside, if_neg (by simp only [List.length_cons]; omega)]
      case isFalse reached =>
        split
        case isTrue beyond => rw [if_neg (by omega)]
        case isFalse inWindow =>
          have inside : dataIndex + index - r.output.bytesWritten < r.output.remainingCapacity := by
            omega
          have offset : r.output.bytesWritten + (dataIndex + index - r.output.bytesWritten) =
              dataIndex + index := by omega
          have tail := ih (dataIndex + 1) _ (storeByte_valid r valid _ byte inside) (by omega)
          rw [storeByte_held r valid _ byte (valid.offset_bound inside), offset, storeByte_output,
            storeByte_capacity] at tail
          rw [tail, List.length_cons]
          by_cases first : position = dataIndex + index
          · have notLater : ¬ (dataIndex + 1 + index ≤ position ∧
                position < dataIndex + 1 + index + rest.length ∧
                r.output.bytesWritten ≤ position ∧ position < r.output.bytesRead + r.capacity) := by
              omega
            rw [if_neg notLater, if_pos first, if_pos (by omega), first]
            simp
          · rw [if_neg first]
            by_cases later : dataIndex + 1 + index ≤ position ∧
                position < dataIndex + 1 + index + rest.length ∧
                r.output.bytesWritten ≤ position ∧ position < r.output.bytesRead + r.capacity
            · rw [if_pos later, if_pos (by omega), tailByte position later.1]
            · rw [if_neg later, if_neg (by omega)]

section Push

variable {capacity : Nat} {taken : List Byte} {r : StreamReassembler} {a : Assembly capacity Byte}

theorem markEof_refines (refines : Refines taken r a) (data : List Byte) (index : Nat) (eof : Bool) :
    Refines taken (r.markEof data index eof) a := by
  obtain ⟨output, same, cells, _⟩ := markEof_frame r data index eof
  refine ⟨same.trans refines.capacity, ?_, ?_, ?_, ?_⟩
  · rw [output, refines.written]
  · rw [output, refines.read]
  · rw [output, refines.taken]
  · intro position
    rw [refines.pending, held, held, output, cells]

theorem storeLoop_refines (valid : r.Valid) (refines : Refines taken r a) (data : List Byte)
    (index : Nat) (fits : index + data.length ≤ 2 ^ 64) :
    Refines taken (storeLoop index 0 data r) (a.put data index) := by
  have length := refines.writtenLength valid
  refine ⟨?_, ?_, ?_, ?_, ?_⟩
  · rw [storeLoop_capacity, refines.capacity]
  · rw [storeLoop_output]
    exact refines.written
  · rw [storeLoop_output]
    exact refines.read
  · rw [storeLoop_output, refines.taken]
  · intro position
    rw [storeLoop_held index 0 data r valid (by omega)]
    simp only [Assembly.put, length, refines.read, ← refines.capacity, refines.pending,
      Nat.zero_add]

theorem finish_refines (refines : Refines taken r a) : Refines taken r.finish a := by
  obtain ⟨buffer, read, written, same, cells, _⟩ := finish_frame r
  refine ⟨same.trans refines.capacity, ?_, ?_, ?_, ?_⟩
  · rw [buffer, refines.written]
  · rw [read, refines.read]
  · rw [read, refines.taken]
  · intro position
    rw [refines.pending, held, held, written, cells]

theorem pushSubstring_refines (valid : r.Valid) (refines : Refines taken r a) (data : List Byte)
    (index : Nat) (eof : Bool) (fits : index + data.length ≤ 2 ^ 64) :
    Refines taken (r.pushSubstring data index eof) (a.push data index) := by
  have marked := markEof_refines refines data index eof
  have markedValid := markEof_valid r valid data index eof
  have stored := storeLoop_refines markedValid marked data index fits
  have storedValid := storeLoop_valid index 0 data _ markedValid
  exact finish_refines (assemble_refines storedValid stored)

theorem readOut_refines (valid : r.Valid) (refines : Refines taken r a) (len : Nat) :
    Refines (taken ++ (r.readOut len).1) (r.readOut len).2
      (a.consume (min len (a.written.length - a.read))) := by
  have length := refines.writtenLength valid
  have accounting := valid.sound.accounting
  have read := refines.read
  have count : min len (a.written.length - a.read) = min len r.output.buffer.length := by omega
  refine ⟨refines.capacity, ?_, ?_, ?_, refines.pending⟩
  · simp only [Assembly.consume, readOut, ByteStream.read_fst, ByteStream.read_buffer,
      refines.written, List.append_assoc, List.take_append_drop]
  · simp only [Assembly.consume, readOut, ByteStream.read_bytesRead]
    omega
  · simp only [readOut, ByteStream.read_fst, ByteStream.read_bytesRead, List.length_append,
      List.length_take, refines.taken]

theorem unassembled_eq_waiting (valid : r.Valid) (refines : Refines taken r a) :
    r.unassembledBytes = a.waiting.card := by
  have same : a.waiting = (Finset.range (r.output.bytesRead + r.capacity)).filter
      (fun position => (SparseWindow.lookup r.output.bytesWritten r.cells position).isSome) := by
    rw [Assembly.waiting, refines.read, refines.capacity]
    apply Finset.filter_congr
    intro position _
    rw [refines.pending, held]
  rw [valid.counted, same]
  exact (SparseWindow.stored_eq_card _ _ _ valid.inWindow).symm

end Push

inductive Call
  | pushSubstring (data : List Byte) (index : Nat) (eof : Bool)
  | read (len : Nat)
  | popOutput (len : Nat)

def Call.InRange : Call → Prop
  | .pushSubstring data index _ => index + data.length < 2 ^ 64
  | _ => True

/-- A reassembler together with the bytes that left its output stream. -/
structure Traced where
  reassembler : StreamReassembler
  taken : List Byte

namespace Traced

def new (capacity : Nat) : Traced := ⟨StreamReassembler.new capacity, []⟩

def step (t : Traced) : Call → Traced
  | .pushSubstring data index eof => ⟨t.reassembler.pushSubstring data index eof, t.taken⟩
  | .read len => ⟨(t.reassembler.readOut len).2, t.taken ++ (t.reassembler.readOut len).1⟩
  | .popOutput len =>
      ⟨t.reassembler.popOut len, t.taken ++ t.reassembler.output.peekOutput len⟩

def outputBytes (t : Traced) : List Byte := t.taken ++ t.reassembler.output.buffer

end Traced

/-- The specification's answer to a call; a read takes what is there. -/
def specStep {capacity : Nat} (a : Assembly capacity Byte) : Call → Assembly capacity Byte
  | .pushSubstring data index _ => a.push data index
  | .read len => a.consume (min len (a.written.length - a.read))
  | .popOutput len => a.consume (min len (a.written.length - a.read))

def Simulates {capacity : Nat} (t : Traced) (a : Assembly capacity Byte) : Prop :=
  t.reassembler.Valid ∧ Refines t.taken t.reassembler a

theorem new_simulates (capacity : Nat) :
    Simulates (Traced.new capacity) (Assembly.empty capacity Byte) :=
  ⟨new_valid capacity, rfl, rfl, rfl, rfl, fun position => (new_held capacity position).symm⟩

theorem step_simulates {capacity : Nat} (t : Traced) (a : Assembly capacity Byte) (call : Call)
    (inRange : call.InRange) (simulates : Simulates t a) :
    Simulates (t.step call) (specStep a call) := by
  obtain ⟨valid, refines⟩ := simulates
  cases call with
  | pushSubstring data index eof =>
      have fits : index + data.length ≤ 2 ^ 64 := Nat.le_of_lt inRange
      exact ⟨pushSubstring_valid _ valid data index eof,
        pushSubstring_refines valid refines data index eof fits⟩
  | read len => exact ⟨readOut_valid _ valid len, readOut_refines valid refines len⟩
  | popOutput len => exact ⟨readOut_valid _ valid len, readOut_refines valid refines len⟩

/-- For any sequence of pushes and reads the output bytes and the count of unassembled bytes are
those of the specification. -/
theorem reassembler_refines_positions (capacity : Nat) (calls : List Call)
    (inRange : ∀ call ∈ calls, call.InRange) :
    let implementation := calls.foldl Traced.step (Traced.new capacity)
    let specification := calls.foldl specStep (Assembly.empty capacity Byte)
    implementation.outputBytes = specification.written ∧
      implementation.reassembler.output.bytesWritten = specification.written.length ∧
      implementation.reassembler.unassembledBytes = specification.waiting.card := by
  obtain ⟨valid, refines⟩ := Transition.foldl_related (R := Simulates) Traced.step specStep
    calls _ _ (new_simulates capacity)
    (fun t a call member simulates => step_simulates t a call (inRange call member) simulates)
  exact ⟨refines.written.symm, (refines.writtenLength valid).symm,
    unassembled_eq_waiting valid refines⟩

def reorderedCalls : List Call :=
  [.pushSubstring [99, 100] 2 true, .pushSubstring [97] 0 false, .read 1,
    .pushSubstring [98, 99] 1 false]

theorem reassembler_refines_reordered :
    (reorderedCalls.foldl Traced.step (Traced.new 4)).outputBytes =
        (reorderedCalls.foldl specStep (Assembly.empty 4 Byte)).written ∧
      (reorderedCalls.foldl Traced.step (Traced.new 4)).reassembler.output.bytesWritten =
        (reorderedCalls.foldl specStep (Assembly.empty 4 Byte)).written.length ∧
      (reorderedCalls.foldl Traced.step (Traced.new 4)).reassembler.unassembledBytes =
        (reorderedCalls.foldl specStep (Assembly.empty 4 Byte)).waiting.card :=
  reassembler_refines_positions 4 reorderedCalls (by simp [reorderedCalls, Call.InRange])

end Sponge.ReassemblerRefinement
