import Sponge.ByteStream

/-! Byte strings as the network layers pass them on (`util/buffer.hh`, `util/buffer.cc`). A `Buffer` is the
bytes that its view shows. -/

namespace Sponge

@[simp] theorem ok_bind {ε α β : Type} (value : α) (next : α → Except ε β) :
    (Except.ok value >>= next) = next value := rfl

@[simp] theorem error_bind {ε α β : Type} (message : ε) (next : α → Except ε β) :
    (Except.error message >>= next) = .error message := rfl

theorem of_bind_ok {ε α β : Type} {action : Except ε α} {next : α → Except ε β} {result : β}
    (done : action >>= next = .ok result) : ∃ value, action = .ok value ∧ next value = .ok result := by
  cases action with
  | ok value => exact ⟨value, rfl, done⟩
  | error message => cases done

abbrev Buffer := List Byte

structure BufferList where
  buffers : List Buffer := []
  deriving DecidableEq, Repr

namespace BufferList

/-- The constructors from a `Buffer` and from a string. -/
def ofBuffer (buffer : Buffer) : BufferList := ⟨[buffer]⟩

def append (list other : BufferList) : BufferList := ⟨list.buffers ++ other.buffers⟩

/-- `operator Buffer`. -/
def toBuffer (list : BufferList) : Except String Buffer :=
  match list.buffers with
  | [] => .ok []
  | [buffer] => .ok buffer
  | _ => .error
      "BufferList: please use concatenate() to combine a multi-Buffer BufferList into one Buffer"

def size (list : BufferList) : Nat := list.buffers.foldl (fun ret buffer => ret + buffer.length) 0

def concatenate (list : BufferList) : Buffer := list.buffers.foldl (fun ret buffer => ret ++ buffer) []

theorem concatenate_eq (list : BufferList) : list.concatenate = list.buffers.flatten := by
  have joined : list.buffers.foldl (fun ret buffer => ret ++ id buffer) [] =
      [] ++ (list.buffers.map id).flatten := List.foldl_append_eq_append
  simpa [concatenate] using joined

theorem size_eq (list : BufferList) : list.size = list.concatenate.length := by
  rw [size, concatenate_eq, List.length_flatten, List.sum_eq_foldl, List.foldl_map]

@[simp] theorem ofBuffer_toBuffer (buffer : Buffer) : (ofBuffer buffer).toBuffer = .ok buffer := rfl

@[simp] theorem ofBuffer_size (buffer : Buffer) : (ofBuffer buffer).size = buffer.length := by
  simp [ofBuffer, size]

@[simp] theorem append_concatenate (list other : BufferList) :
    (list.append other).concatenate = list.concatenate ++ other.concatenate := by
  simp [concatenate_eq, append]

@[simp] theorem ofBuffer_concatenate (buffer : Buffer) : (ofBuffer buffer).concatenate = buffer := by
  simp [concatenate_eq, ofBuffer]

end BufferList
end Sponge
