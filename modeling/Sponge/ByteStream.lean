import Mathlib.Tactic

/-! The flow-controlled in-memory byte stream of `byte_stream.cc`.

Byte counters are natural numbers; `_capacity - buffer_size()` is the truncated subtraction, and
`ByteStream.Sound` says that it never truncates. -/

namespace Sponge

abbrev Byte := UInt8

/-- `std::string::substr`. -/
def substr (text : List Byte) (position count : Nat) : List Byte := (text.drop position).take count

structure ByteStream where
  capacity : Nat
  bytesWritten : Nat
  bytesRead : Nat
  inputEnded : Bool
  buffer : List Byte
  error : Bool
  deriving DecidableEq, Repr

namespace ByteStream

def new (capacity : Nat) : ByteStream := ⟨capacity, 0, 0, false, [], false⟩

def bufferSize (s : ByteStream) : Nat := s.buffer.length

def bufferEmpty (s : ByteStream) : Bool := s.buffer.isEmpty

def eof (s : ByteStream) : Bool := s.bufferEmpty && s.inputEnded

def remainingCapacity (s : ByteStream) : Nat := s.capacity - s.bufferSize

def availableOutput (s : ByteStream) (len : Nat) : Nat :=
  if len > s.bufferSize then s.bufferSize else len

def pop (s : ByteStream) (size : Nat) : ByteStream :=
  { s with buffer := substr s.buffer size s.bufferSize, bytesRead := s.bytesRead + size }

def peek (s : ByteStream) (size : Nat) : List Byte := substr s.buffer 0 size

/-- The number of accepted bytes and the stream after the write. -/
def write (s : ByteStream) (data : List Byte) : Nat × ByteStream :=
  let size := if data.length > s.remainingCapacity then s.remainingCapacity else data.length
  (size, { s with buffer := s.buffer ++ substr data 0 size, bytesWritten := s.bytesWritten + size })

def peekOutput (s : ByteStream) (len : Nat) : List Byte := s.peek (s.availableOutput len)

def popOutput (s : ByteStream) (len : Nat) : ByteStream := s.pop (s.availableOutput len)

def read (s : ByteStream) (len : Nat) : List Byte × ByteStream :=
  let size := s.availableOutput len
  (s.peek size, s.pop size)

def endInput (s : ByteStream) : ByteStream := { s with inputEnded := true }

def setError (s : ByteStream) : ByteStream := { s with error := true }

/-- The counters agree with the buffer, and the buffer fits. -/
structure Sound (s : ByteStream) : Prop where
  accounting : s.bytesWritten = s.bytesRead + s.buffer.length
  bounded : s.buffer.length ≤ s.capacity

theorem new_sound (capacity : Nat) : (new capacity).Sound := ⟨rfl, Nat.zero_le _⟩

theorem availableOutput_eq (s : ByteStream) (len : Nat) :
    s.availableOutput len = min len s.buffer.length := by
  unfold availableOutput bufferSize
  split <;> omega

@[simp] theorem write_fst (s : ByteStream) (data : List Byte) :
    (s.write data).1 = min data.length s.remainingCapacity := by
  simp only [write]
  split <;> omega

@[simp] theorem write_buffer (s : ByteStream) (data : List Byte) :
    (s.write data).2.buffer = s.buffer ++ data.take s.remainingCapacity := by
  simp only [write, substr, List.drop_zero]
  split
  · rfl
  · rw [List.take_length, List.take_of_length_le (by omega)]

@[simp] theorem write_bytesWritten (s : ByteStream) (data : List Byte) :
    (s.write data).2.bytesWritten = s.bytesWritten + min data.length s.remainingCapacity := by
  rw [← write_fst]
  rfl

@[simp] theorem write_bytesRead (s : ByteStream) (data : List Byte) :
    (s.write data).2.bytesRead = s.bytesRead := rfl

@[simp] theorem write_capacity (s : ByteStream) (data : List Byte) :
    (s.write data).2.capacity = s.capacity := rfl

@[simp] theorem write_inputEnded (s : ByteStream) (data : List Byte) :
    (s.write data).2.inputEnded = s.inputEnded := rfl

@[simp] theorem write_error (s : ByteStream) (data : List Byte) :
    (s.write data).2.error = s.error := rfl

@[simp] theorem read_fst (s : ByteStream) (len : Nat) : (s.read len).1 = s.buffer.take len := by
  simp only [read, peek, substr, List.drop_zero, availableOutput_eq]
  rw [List.take_eq_take_iff]
  omega

@[simp] theorem read_buffer (s : ByteStream) (len : Nat) :
    (s.read len).2.buffer = s.buffer.drop len := by
  simp only [read, pop, substr, availableOutput_eq, bufferSize]
  rw [List.take_of_length_le (by simp)]
  rcases Nat.le_total len s.buffer.length with short | long
  · rw [Nat.min_eq_left short]
  · rw [Nat.min_eq_right long, List.drop_length, List.drop_eq_nil_of_le long]

@[simp] theorem read_bytesRead (s : ByteStream) (len : Nat) :
    (s.read len).2.bytesRead = s.bytesRead + min len s.buffer.length := by
  simp [read, pop, availableOutput_eq]

@[simp] theorem read_bytesWritten (s : ByteStream) (len : Nat) :
    (s.read len).2.bytesWritten = s.bytesWritten := rfl

@[simp] theorem read_capacity (s : ByteStream) (len : Nat) :
    (s.read len).2.capacity = s.capacity := rfl

@[simp] theorem read_inputEnded (s : ByteStream) (len : Nat) :
    (s.read len).2.inputEnded = s.inputEnded := rfl

@[simp] theorem read_error (s : ByteStream) (len : Nat) : (s.read len).2.error = s.error := rfl

theorem popOutput_eq_read (s : ByteStream) (len : Nat) : s.popOutput len = (s.read len).2 := rfl

theorem peekOutput_eq_read (s : ByteStream) (len : Nat) : s.peekOutput len = (s.read len).1 := rfl

theorem write_sound {s : ByteStream} (sound : s.Sound) (data : List Byte) : (s.write data).2.Sound := by
  have accounting := sound.accounting
  have bounded := sound.bounded
  constructor
  · simp only [write_bytesWritten, write_bytesRead, write_buffer, List.length_append, List.length_take]
    omega
  · simp only [write_buffer, write_capacity, List.length_append, List.length_take, remainingCapacity,
      bufferSize]
    omega

theorem read_sound {s : ByteStream} (sound : s.Sound) (len : Nat) : (s.read len).2.Sound := by
  have accounting := sound.accounting
  have bounded := sound.bounded
  constructor
  · simp only [read_bytesWritten, read_bytesRead, read_buffer, List.length_drop]
    omega
  · simp only [read_buffer, read_capacity, List.length_drop]
    omega

theorem eof_read {s : ByteStream} (ended : s.eof = true) (len : Nat) : (s.read len).2.eof = true := by
  simp only [eof, bufferEmpty, Bool.and_eq_true, List.isEmpty_iff, read_buffer, read_inputEnded] at ended ⊢
  simp [ended.1, ended.2]

end ByteStream
end Sponge
