import Sponge.Assembly
import Sponge.ByteStream

/-! The stream reassembler of `stream_reassembler.cc`.

The deques `_buffer` and `_state` are lists of `capacity` entries. The `uint64_t` arithmetic on
stream indices is reduced modulo `2 ^ 64`, since the receiver can pass an index that has wrapped. -/

namespace Sponge

structure StreamReassembler where
  output : ByteStream
  capacity : Nat
  unassembledBytes : Nat
  eof : Bool
  buffer : List Byte
  state : List Bool
  deriving DecidableEq, Repr

namespace StreamReassembler

/-- The filler that the source writes into unused places of `_buffer`. -/
def blank : Byte := 32

def new (capacity : Nat) : StreamReassembler :=
  ⟨ByteStream.new capacity, capacity, 0, false,
    List.replicate capacity blank, List.replicate capacity false⟩

def streamOut (r : StreamReassembler) : ByteStream := r.output

def empty (r : StreamReassembler) : Bool := r.unassembledBytes == 0

def markEof (r : StreamReassembler) (data : List Byte) (index : Nat) (eof : Bool) : StreamReassembler :=
  if (index + data.length) % 2 ^ 64 ≤ r.output.bytesRead + r.capacity && eof then
    { r with eof := true }
  else r

def storeByte (r : StreamReassembler) (bufferIndex : Nat) (byte : Byte) : StreamReassembler :=
  { r with
    state := r.state.set bufferIndex true
    unassembledBytes :=
      if r.state.getD bufferIndex false then r.unassembledBytes else r.unassembledBytes + 1
    buffer := r.buffer.set bufferIndex byte }

/-- The loop over `data`, from `dataIndex` on. -/
def storeLoop (index : Nat) : Nat → List Byte → StreamReassembler → StreamReassembler
  | _, [], r => r
  | dataIndex, byte :: rest, r =>
      let position := (dataIndex + index) % 2 ^ 64
      let bufferIndex := position - r.output.bytesWritten
      -- `continue`; past this test the subtraction above did not wrap
      if position < r.output.bytesWritten then storeLoop index (dataIndex + 1) rest r
      -- `break`
      else if bufferIndex ≥ r.output.remainingCapacity then r
      else storeLoop index (dataIndex + 1) rest (r.storeByte bufferIndex byte)

/-- The loop that pops the front while it is present; `room` is
`remaining_capacity() - ret.length()`. -/
def retrieveLoop : Nat → StreamReassembler → List Byte × StreamReassembler
  | room + 1, r =>
      match r.state, r.buffer with
      | true :: states, byte :: bytes =>
          let (ret, left) := retrieveLoop room
            { r with state := states ++ [false], buffer := bytes ++ [blank] }
          (byte :: ret, left)
      | _, _ => ([], r)
  | 0, r => ([], r)

def assemble (r : StreamReassembler) : StreamReassembler :=
  let (ret, left) := retrieveLoop r.output.remainingCapacity r
  { left with
    output := (left.output.write ret).2
    unassembledBytes := left.unassembledBytes - ret.length }

def finish (r : StreamReassembler) : StreamReassembler :=
  if r.eof && r.empty then { r with output := r.output.endInput } else r

def pushSubstring (r : StreamReassembler) (data : List Byte) (index : Nat) (eof : Bool) :
    StreamReassembler :=
  ((r.markEof data index eof).storeLoop index 0 data).assemble.finish

def readOut (r : StreamReassembler) (len : Nat) : List Byte × StreamReassembler :=
  ((r.output.read len).1, { r with output := (r.output.read len).2 })

def popOut (r : StreamReassembler) (len : Nat) : StreamReassembler :=
  { r with output := r.output.popOutput len }

/-- Both deques read together: a byte where `_state` marks one. -/
def cells (r : StreamReassembler) : List (Option Byte) :=
  List.zipWith (fun present byte => if present then some byte else none) r.state r.buffer

def held (r : StreamReassembler) (position : Nat) : Option Byte :=
  SparseWindow.lookup r.output.bytesWritten r.cells position

/-- The representation invariant of the class. -/
structure Valid (r : StreamReassembler) : Prop where
  sound : r.output.Sound
  outputCapacity : r.output.capacity = r.capacity
  bufferLength : r.buffer.length = r.capacity
  stateLength : r.state.length = r.capacity
  counted : r.unassembledBytes = SparseWindow.stored r.cells
  inWindow : ∀ position, (r.held position).isSome → position < r.output.bytesRead + r.capacity

theorem Valid.cellsLength {r : StreamReassembler} (valid : r.Valid) : r.cells.length = r.capacity := by
  simp [cells, valid.bufferLength, valid.stateLength]

theorem Valid.room {r : StreamReassembler} (valid : r.Valid) :
    r.output.bytesWritten + r.output.remainingCapacity = r.output.bytesRead + r.capacity := by
  have accounting := valid.sound.accounting
  have bounded := valid.sound.bounded
  simp only [ByteStream.remainingCapacity, ByteStream.bufferSize]
  have same := valid.outputCapacity
  omega

theorem new_cells (capacity : Nat) : (new capacity).cells = List.replicate capacity none := by
  simp [new, cells]

theorem new_held (capacity position : Nat) : (new capacity).held position = none := by
  rw [held, new_cells, SparseWindow.lookup]
  split
  · rw [List.getElem?_replicate]
    split <;> rfl
  · rfl

theorem new_valid (capacity : Nat) : (new capacity).Valid := by
  constructor
  · exact ByteStream.new_sound capacity
  · rfl
  · simp [new]
  · simp [new]
  · rw [new_cells]
    simp [new, SparseWindow.stored, List.countP_replicate]
  · intro position filled
    rw [new_held] at filled
    cases filled

@[simp] theorem storeByte_output (r : StreamReassembler) (offset : Nat) (byte : Byte) :
    (r.storeByte offset byte).output = r.output := rfl

@[simp] theorem storeByte_capacity (r : StreamReassembler) (offset : Nat) (byte : Byte) :
    (r.storeByte offset byte).capacity = r.capacity := rfl

theorem storeByte_cells (r : StreamReassembler) (offset : Nat) (byte : Byte) :
    (r.storeByte offset byte).cells = r.cells.set offset (some byte) := by
  apply List.ext_getElem?
  intro place
  simp only [cells, storeByte, List.getElem?_zipWith, List.getElem?_set]
  by_cases here : offset = place
  · subst here
    simp only [List.length_zipWith, ↓reduceIte]
    by_cases inState : offset < r.state.length <;> by_cases inBuffer : offset < r.buffer.length <;>
      simp [inState, inBuffer]
  · simp [here]

theorem state_eq_cells (r : StreamReassembler) (offset : Nat) (bound : offset < r.buffer.length) :
    r.state.getD offset false = (r.cells[offset]?.join).isSome := by
  simp only [cells, List.getElem?_zipWith, List.getElem?_eq_getElem bound, List.getD_eq_getElem?_getD]
  rcases r.state[offset]? with _ | _ | _ <;> simp

theorem storeByte_held (r : StreamReassembler) (valid : r.Valid) (offset : Nat) (byte : Byte)
    (bound : offset < r.capacity) (position : Nat) :
    (r.storeByte offset byte).held position =
      if position = r.output.bytesWritten + offset then some byte else r.held position := by
  rw [held, storeByte_cells]
  exact SparseWindow.lookup_set _ _ _ _ (by rw [valid.cellsLength]; exact bound) position

theorem Valid.offset_bound {r : StreamReassembler} (valid : r.Valid) {offset : Nat}
    (inside : offset < r.output.remainingCapacity) : offset < r.capacity := by
  have same := valid.outputCapacity
  simp only [ByteStream.remainingCapacity] at inside
  omega

theorem storeByte_valid (r : StreamReassembler) (valid : r.Valid) (offset : Nat) (byte : Byte)
    (inside : offset < r.output.remainingCapacity) : (r.storeByte offset byte).Valid := by
  have bound := valid.offset_bound inside
  have cellBound : offset < r.cells.length := by rw [valid.cellsLength]; exact bound
  constructor
  · exact valid.sound
  · exact valid.outputCapacity
  · simpa [storeByte] using valid.bufferLength
  · simpa [storeByte] using valid.stateLength
  · rw [storeByte_cells, SparseWindow.stored_set _ _ _ cellBound, ← valid.counted,
      ← state_eq_cells r offset (by rw [valid.bufferLength]; exact bound)]
    simp only [storeByte]
    split <;> simp
  · intro position filled
    rw [storeByte_held r valid offset byte bound] at filled
    split at filled
    case isTrue here =>
      have room := valid.room
      simp only [storeByte]
      omega
    case isFalse => exact valid.inWindow position filled

theorem storeLoop_rule {P : StreamReassembler → Prop} (index dataIndex : Nat) (data : List Byte)
    (r : StreamReassembler) (initial : P r)
    (stored : ∀ current place byte, P current → data[place]? = some byte →
      current.output = r.output →
      r.output.bytesWritten ≤ (dataIndex + place + index) % 2 ^ 64 →
      (dataIndex + place + index) % 2 ^ 64 - r.output.bytesWritten < r.output.remainingCapacity →
      P (current.storeByte ((dataIndex + place + index) % 2 ^ 64 - r.output.bytesWritten) byte)) :
    P (storeLoop index dataIndex data r) := by
  induction data generalizing dataIndex r with
  | nil => exact initial
  | cons byte rest ih =>
      have later : ∀ current place next, P current → rest[place]? = some next →
          current.output = r.output →
          r.output.bytesWritten ≤ (dataIndex + 1 + place + index) % 2 ^ 64 →
          (dataIndex + 1 + place + index) % 2 ^ 64 - r.output.bytesWritten <
            r.output.remainingCapacity →
          P (current.storeByte
            ((dataIndex + 1 + place + index) % 2 ^ 64 - r.output.bytesWritten) next) := by
        intro current place next holds present same
        have shift : dataIndex + 1 + place = dataIndex + (place + 1) := by omega
        rw [shift]
        exact stored current (place + 1) next holds (by simpa using present) same
      rw [storeLoop]
      split
      · exact ih (dataIndex + 1) r initial later
      · split
        · exact initial
        case isFalse notBefore inside =>
          apply ih (dataIndex + 1)
          · exact stored r 0 byte initial rfl rfl (by omega) (by simpa using inside)
          · exact later

theorem storeLoop_output (index dataIndex : Nat) (data : List Byte) (r : StreamReassembler) :
    (storeLoop index dataIndex data r).output = r.output :=
  storeLoop_rule (P := fun current => current.output = r.output) index dataIndex data r rfl
    (fun _ _ _ same _ _ _ _ => same)

theorem storeLoop_capacity (index dataIndex : Nat) (data : List Byte) (r : StreamReassembler) :
    (storeLoop index dataIndex data r).capacity = r.capacity :=
  storeLoop_rule (P := fun current => current.capacity = r.capacity) index dataIndex data r rfl
    (fun _ _ _ same _ _ _ _ => same)

theorem storeLoop_eof (index dataIndex : Nat) (data : List Byte) (r : StreamReassembler) :
    (storeLoop index dataIndex data r).eof = r.eof :=
  storeLoop_rule (P := fun current => current.eof = r.eof) index dataIndex data r rfl
    (fun _ _ _ same _ _ _ _ => same)

theorem storeLoop_valid (index dataIndex : Nat) (data : List Byte) (r : StreamReassembler)
    (valid : r.Valid) : (storeLoop index dataIndex data r).Valid := by
  apply storeLoop_rule index dataIndex data r valid
  intro current place byte holds _ same _ inside
  exact storeByte_valid current holds _ byte (by rw [same]; exact inside)

theorem retrieveLoop_drain (room : Nat) (r : StreamReassembler)
    (lengths : r.state.length = r.buffer.length) :
    (retrieveLoop room r).1 = (SparseWindow.drain room r.cells).1 ∧
      (retrieveLoop room r).2.cells = (SparseWindow.drain room r.cells).2 := by
  induction room generalizing r with
  | zero => exact ⟨rfl, rfl⟩
  | succ room ih =>
      obtain ⟨output, capacity, unassembledBytes, eof, buffer, state⟩ := r
      rcases state with _ | ⟨_ | _, states⟩
      · exact ⟨rfl, rfl⟩
      · cases buffer <;> exact ⟨rfl, rfl⟩
      · cases buffer with
        | nil => cases lengths
        | cons byte bytes =>
            have equal : states.length = bytes.length := by simpa using lengths
            have next := ih ⟨output, capacity, unassembledBytes, eof, bytes ++ [blank],
              states ++ [false]⟩ (by simp [equal])
            have front : cells ⟨output, capacity, unassembledBytes, eof, bytes ++ [blank],
                states ++ [false]⟩ = cells ⟨output, capacity, unassembledBytes, eof, bytes, states⟩ ++
                  [none] := by
              simp [cells, List.zipWith_append equal]
            rw [front] at next
            refine ⟨?_, ?_⟩
            · exact congrArg (List.cons byte) next.1
            · exact next.2

theorem retrieveLoop_frame (room : Nat) (r : StreamReassembler) :
    (retrieveLoop room r).2.output = r.output ∧ (retrieveLoop room r).2.capacity = r.capacity ∧
      (retrieveLoop room r).2.eof = r.eof ∧
      (retrieveLoop room r).2.unassembledBytes = r.unassembledBytes ∧
      (retrieveLoop room r).2.buffer.length = r.buffer.length ∧
      (retrieveLoop room r).2.state.length = r.state.length := by
  induction room generalizing r with
  | zero => exact ⟨rfl, rfl, rfl, rfl, rfl, rfl⟩
  | succ room ih =>
      obtain ⟨output, capacity, unassembledBytes, eof, buffer, state⟩ := r
      rcases state with _ | ⟨_ | _, states⟩
      · exact ⟨rfl, rfl, rfl, rfl, rfl, rfl⟩
      · cases buffer <;> exact ⟨rfl, rfl, rfl, rfl, rfl, rfl⟩
      · cases buffer with
        | nil => exact ⟨rfl, rfl, rfl, rfl, rfl, rfl⟩
        | cons byte bytes =>
            have next := ih ⟨output, capacity, unassembledBytes, eof, bytes ++ [blank],
              states ++ [false]⟩
            simpa [retrieveLoop] using next

def retrieved (r : StreamReassembler) : List Byte :=
  (SparseWindow.drain r.output.remainingCapacity r.cells).1

theorem retrieved_fits (r : StreamReassembler) :
    (retrieved r).length ≤ r.output.remainingCapacity :=
  SparseWindow.drain_room _ _

@[simp] theorem assemble_capacity (r : StreamReassembler) : r.assemble.capacity = r.capacity :=
  (retrieveLoop_frame _ r).2.1

@[simp] theorem assemble_eof (r : StreamReassembler) : r.assemble.eof = r.eof :=
  (retrieveLoop_frame _ r).2.2.1

theorem assemble_output (r : StreamReassembler) (valid : r.Valid) :
    r.assemble.output = (r.output.write r.retrieved).2 := by
  have lengths : r.state.length = r.buffer.length := by rw [valid.stateLength, valid.bufferLength]
  simp only [assemble, retrieved, (retrieveLoop_frame _ r).1, (retrieveLoop_drain _ r lengths).1]

theorem assemble_cells (r : StreamReassembler) (valid : r.Valid) :
    r.assemble.cells = (SparseWindow.drain r.output.remainingCapacity r.cells).2 := by
  have lengths : r.state.length = r.buffer.length := by rw [valid.stateLength, valid.bufferLength]
  exact (retrieveLoop_drain _ r lengths).2

theorem assemble_unassembled (r : StreamReassembler) (valid : r.Valid) :
    r.assemble.unassembledBytes = r.unassembledBytes - r.retrieved.length := by
  have lengths : r.state.length = r.buffer.length := by rw [valid.stateLength, valid.bufferLength]
  simp only [assemble, retrieved, (retrieveLoop_frame _ r).2.2.2.1, (retrieveLoop_drain _ r lengths).1]

theorem assemble_buffer (r : StreamReassembler) (valid : r.Valid) :
    r.assemble.output.buffer = r.output.buffer ++ r.retrieved := by
  rw [assemble_output r valid, ByteStream.write_buffer, List.take_of_length_le (retrieved_fits r)]

theorem assemble_bytesWritten (r : StreamReassembler) (valid : r.Valid) :
    r.assemble.output.bytesWritten = r.output.bytesWritten + r.retrieved.length := by
  rw [assemble_output r valid, ByteStream.write_bytesWritten, Nat.min_eq_left (retrieved_fits r)]

/-- The cells represent an assembly: the bytes taken by the reader and the buffer are what has been
written, the held bytes are what waits. -/
structure Refines {capacity : Nat} (taken : List Byte) (r : StreamReassembler)
    (a : Assembly capacity Byte) : Prop where
  capacity : r.capacity = capacity
  written : a.written = taken ++ r.output.buffer
  read : a.read = r.output.bytesRead
  taken : taken.length = r.output.bytesRead
  pending : ∀ position, a.pending position = r.held position

theorem Refines.writtenLength {capacity : Nat} {taken : List Byte} {r : StreamReassembler}
    {a : Assembly capacity Byte} (refines : Refines taken r a) (valid : r.Valid) :
    a.written.length = r.output.bytesWritten := by
  have accounting := valid.sound.accounting
  have consumed := refines.taken
  rw [refines.written, List.length_append]
  omega

theorem refines_exists (taken : List Byte) (r : StreamReassembler) (valid : r.Valid)
    (consumed : taken.length = r.output.bytesRead) :
    ∃ a : Assembly r.capacity Byte, Refines taken r a := by
  have length : (taken ++ r.output.buffer).length = r.output.bytesWritten := by
    have accounting := valid.sound.accounting
    rw [List.length_append]
    omega
  refine ⟨⟨taken ++ r.output.buffer, r.output.bytesRead, r.held, ?_⟩, rfl, rfl, rfl, consumed,
    fun _ => rfl⟩
  intro position filled
  refine ⟨?_, valid.inWindow position filled⟩
  by_contra below
  rw [length, Nat.not_le] at below
  rw [held, SparseWindow.lookup_below _ below] at filled
  cases filled

theorem assemble_refines {capacity : Nat} {taken : List Byte} {r : StreamReassembler}
    {a : Assembly capacity Byte} (valid : r.Valid) (refines : Refines taken r a) :
    Refines taken r.assemble (a.settle (a.read + capacity - a.written.length)) := by
  have length := refines.writtenLength valid
  have room : a.read + capacity - a.written.length = r.output.remainingCapacity := by
    have space := valid.room
    rw [length, refines.read, ← refines.capacity]
    omega
  have drained := Assembly.settle_drain r.output.remainingCapacity a r.cells (by
    intro position
    rw [refines.pending, length]
    rfl)
  rw [room]
  constructor
  · rw [assemble_capacity, refines.capacity]
  · rw [drained.1, refines.written, assemble_buffer r valid, retrieved, List.append_assoc]
  · rw [Assembly.settle_read, refines.read, assemble_output r valid, ByteStream.write_bytesRead]
  · rw [assemble_output r valid, ByteStream.write_bytesRead, refines.taken]
  · intro position
    rw [drained.2 position, held, assemble_cells r valid, assemble_bytesWritten r valid, length,
      retrieved]

theorem assemble_valid (r : StreamReassembler) (valid : r.Valid) : r.assemble.Valid := by
  have frame := retrieveLoop_frame r.output.remainingCapacity r
  have consumed : (List.replicate r.output.bytesRead blank).length = r.output.bytesRead := by simp
  obtain ⟨a, refines⟩ := refines_exists _ r valid consumed
  have settled := assemble_refines valid refines
  constructor
  · rw [assemble_output r valid]
    exact ByteStream.write_sound valid.sound _
  · rw [assemble_output r valid, ByteStream.write_capacity, assemble_capacity]
    exact valid.outputCapacity
  · exact frame.2.2.2.2.1.trans (valid.bufferLength.trans (assemble_capacity r).symm)
  · exact frame.2.2.2.2.2.trans (valid.stateLength.trans (assemble_capacity r).symm)
  · have balance := SparseWindow.drain_stored r.output.remainingCapacity r.cells
    rw [assemble_unassembled r valid, assemble_cells r valid, valid.counted, retrieved]
    omega
  · intro position filled
    rw [← settled.pending] at filled
    have bounds := (Assembly.window _ position filled).2
    rwa [settled.read, ← settled.capacity] at bounds

theorem markEof_frame (r : StreamReassembler) (data : List Byte) (index : Nat) (eof : Bool) :
    (r.markEof data index eof).output = r.output ∧
      (r.markEof data index eof).capacity = r.capacity ∧
      (r.markEof data index eof).cells = r.cells ∧
      (r.markEof data index eof).unassembledBytes = r.unassembledBytes := by
  unfold markEof
  split <;> exact ⟨rfl, rfl, rfl, rfl⟩

theorem markEof_valid (r : StreamReassembler) (valid : r.Valid) (data : List Byte) (index : Nat)
    (eof : Bool) : (r.markEof data index eof).Valid := by
  unfold markEof
  split
  · exact ⟨valid.sound, valid.outputCapacity, valid.bufferLength, valid.stateLength, valid.counted,
      valid.inWindow⟩
  · exact valid

theorem finish_frame (r : StreamReassembler) :
    r.finish.output.buffer = r.output.buffer ∧ r.finish.output.bytesRead = r.output.bytesRead ∧
      r.finish.output.bytesWritten = r.output.bytesWritten ∧ r.finish.capacity = r.capacity ∧
      r.finish.cells = r.cells ∧ r.finish.unassembledBytes = r.unassembledBytes ∧
      r.finish.eof = r.eof ∧ r.finish.output.capacity = r.output.capacity ∧
      r.finish.output.error = r.output.error := by
  unfold finish
  split <;> exact ⟨rfl, rfl, rfl, rfl, rfl, rfl, rfl, rfl, rfl⟩

theorem finish_inputEnded (r : StreamReassembler) :
    r.finish.output.inputEnded = (r.output.inputEnded || (r.eof && r.empty)) := by
  unfold finish
  split
  case isTrue ends => simp [ends, ByteStream.endInput]
  case isFalse running => simp [Bool.eq_false_iff.mpr running]

theorem finish_valid (r : StreamReassembler) (valid : r.Valid) : r.finish.Valid := by
  unfold finish
  split
  · exact ⟨⟨valid.sound.accounting, valid.sound.bounded⟩, valid.outputCapacity, valid.bufferLength,
      valid.stateLength, valid.counted, valid.inWindow⟩
  · exact valid

theorem pushSubstring_valid (r : StreamReassembler) (valid : r.Valid) (data : List Byte)
    (index : Nat) (eof : Bool) : (r.pushSubstring data index eof).Valid :=
  finish_valid _ (assemble_valid _ (storeLoop_valid _ _ _ _ (markEof_valid r valid data index eof)))

theorem pushSubstring_output (r : StreamReassembler) (data : List Byte) (index : Nat) (eof : Bool) :
    ∃ ret ended, (r.pushSubstring data index eof).output =
      if ended = true then (r.output.write ret).2.endInput else (r.output.write ret).2 := by
  have same : ((r.markEof data index eof).storeLoop index 0 data).output = r.output := by
    rw [storeLoop_output, (markEof_frame r data index eof).1]
  have wrote : ((r.markEof data index eof).storeLoop index 0 data).assemble.output =
      (r.output.write (retrieveLoop r.output.remainingCapacity
        ((r.markEof data index eof).storeLoop index 0 data)).1).2 := by
    simp only [assemble, (retrieveLoop_frame _ _).1, same]
  rw [pushSubstring, finish]
  split
  · exact ⟨_, true, by rw [← wrote]; rfl⟩
  · exact ⟨_, false, by rw [← wrote]; rfl⟩

theorem readOut_valid (r : StreamReassembler) (valid : r.Valid) (len : Nat) :
    (r.readOut len).2.Valid := by
  refine ⟨ByteStream.read_sound valid.sound len, ?_, valid.bufferLength, valid.stateLength,
    valid.counted, ?_⟩
  · exact valid.outputCapacity
  · intro position filled
    have bound := valid.inWindow position filled
    simp only [readOut, ByteStream.read_bytesRead]
    omega

end StreamReassembler
end Sponge
