import Sponge.Buffer
import Sponge.Pieces

/-! Discontiguous strings as they are stored (`util/buffer.hh`, `util/buffer.cc`): shared strings with an
offset, lists of these, and lists of views. What they show is the `Buffer` and the `BufferList` that the
codecs work with. -/

namespace Sponge.Storage

open Pieces

/-- A shared string and the number of bytes discarded from its front. A buffer that is used up gives its
string back and keeps the number. -/
structure Buffer where
  storage : Option (List Byte)
  startingOffset : Nat
  inside : ∀ text, storage = some text → startingOffset ≤ text.length

namespace Buffer

def empty : Buffer := ⟨none, 0, by intro text stored; cases stored⟩

def ofString (text : List Byte) : Buffer := ⟨some text, 0, fun _ _ => Nat.zero_le _⟩

def str (buffer : Buffer) : Sponge.Buffer :=
  match buffer.storage with
  | none => []
  | some text => text.drop buffer.startingOffset

theorem str_none {buffer : Buffer} (dropped : buffer.storage = none) : buffer.str = [] := by
  rw [str, dropped]

theorem str_some {buffer : Buffer} {text : List Byte} (stored : buffer.storage = some text) :
    buffer.str = text.drop buffer.startingOffset := by
  rw [str, stored]

/-- The second half of `remove_prefix`: the offset moves on, and a string that ends there is given back. -/
def advance (buffer : Buffer) (n : Nat) (fits : n ≤ buffer.str.length) : Buffer where
  storage := buffer.storage.filter fun text => buffer.startingOffset + n != text.length
  startingOffset := buffer.startingOffset + n
  inside := by
    intro text kept
    obtain ⟨stored, _⟩ := Option.filter_eq_some_iff.mp kept
    have before := buffer.inside text stored
    rw [str_some stored, List.length_drop] at fits
    omega

theorem advance_storage (buffer : Buffer) (n : Nat) (fits : n ≤ buffer.str.length) :
    (buffer.advance n fits).storage =
      buffer.storage.filter fun text => buffer.startingOffset + n != text.length := rfl

theorem advance_str (buffer : Buffer) (n : Nat) (fits : n ≤ buffer.str.length) :
    (buffer.advance n fits).str = buffer.str.drop n := by
  cases stored : buffer.storage with
  | none =>
      have dropped : (buffer.advance n fits).storage = none := by rw [advance_storage, stored]; rfl
      rw [str_none stored, str_none dropped, List.drop_nil]
  | some text =>
      rw [str_some stored, List.drop_drop]
      by_cases ends : buffer.startingOffset + n = text.length
      · have dropped : (buffer.advance n fits).storage = none := by
          rw [advance_storage, stored, Option.filter_some, ends, bne_self_eq_false]
          rfl
        rw [str_none dropped, ends, List.drop_length]
      · have kept : (buffer.advance n fits).storage = some text := by
          rw [advance_storage, stored, Option.filter_some, bne_iff_ne.mpr ends]
          rfl
        exact str_some kept

def removePrefix (buffer : Buffer) (n : Nat) : Except String Buffer :=
  if large : n > buffer.str.length then .error "Buffer::remove_prefix"
  else .ok (buffer.advance n (Nat.le_of_not_lt large))

theorem removePrefix_trims : Trims str fun n buffer => buffer.removePrefix n := by
  intro n buffer fits
  refine ⟨buffer.advance n fits, ?_, buffer.advance_str n fits⟩
  exact dif_neg (Nat.not_lt_of_le fits)

end Buffer

structure BufferList where
  buffers : List Buffer

namespace BufferList

/-- The constructors from a `Buffer` and from a string. -/
def ofBuffer (buffer : Buffer) : BufferList := ⟨[buffer]⟩

def append (list other : BufferList) : BufferList := ⟨list.buffers ++ other.buffers⟩

/-- `operator Buffer`. -/
def toBuffer (list : BufferList) : Except String Buffer :=
  match list.buffers with
  | [] => .ok .empty
  | [buffer] => .ok buffer
  | _ => .error
      "BufferList: please use concatenate() to combine a multi-Buffer BufferList into one Buffer"

def size (list : BufferList) : Nat := list.buffers.foldl (fun ret buffer => ret + buffer.str.length) 0

def concatenate (list : BufferList) : List Byte :=
  list.buffers.foldl (fun ret buffer => ret ++ buffer.str) []

/-- The list is what it is left as when the call throws, too. -/
def removePrefix (list : BufferList) (n : Nat) : Except String Unit × BufferList :=
  let result := removeFront Buffer.str (fun n buffer => buffer.removePrefix n) "BufferList::remove_prefix" n
    list.buffers
  (result.1, ⟨result.2⟩)

/-- The flat list that the codecs see. -/
def view (list : BufferList) : Sponge.BufferList := ⟨list.buffers.map Buffer.str⟩

theorem view_concatenate (list : BufferList) : list.view.concatenate = list.concatenate :=
  List.foldl_map

theorem view_size (list : BufferList) : list.view.size = list.size := List.foldl_map

theorem view_append (list other : BufferList) :
    (list.append other).view = list.view.append other.view := by
  simp only [view, append, Sponge.BufferList.append, List.map_append]

theorem view_toBuffer (list : BufferList) : list.toBuffer.map Buffer.str = list.view.toBuffer := by
  rcases list with ⟨_ | ⟨first, _ | ⟨second, others⟩⟩⟩ <;> rfl

theorem concatenate_eq (list : BufferList) : list.concatenate = list.buffers.flatMap Buffer.str := by
  rw [← view_concatenate, Sponge.BufferList.concatenate_eq, view, List.flatMap_def]

theorem size_eq (list : BufferList) : list.size = list.concatenate.length := by
  rw [← view_size, ← view_concatenate, Sponge.BufferList.size_eq]

theorem removePrefix_ok {list : BufferList} {n : Nat} (within : n ≤ list.size) :
    ∃ rest, list.removePrefix n = (.ok (), rest) ∧ rest.concatenate = list.concatenate.drop n := by
  rw [size_eq, concatenate_eq] at within
  obtain ⟨left, removed, shows⟩ :=
    removeFront_ok "BufferList::remove_prefix" Buffer.removePrefix_trims within
  refine ⟨⟨left⟩, ?_, ?_⟩
  · simp only [removePrefix, removed]
  · simp only [concatenate_eq, shows]

theorem removePrefix_fails {list : BufferList} {n : Nat} (beyond : list.size < n) :
    list.removePrefix n = (.error "BufferList::remove_prefix", ⟨[]⟩) := by
  rw [size_eq, concatenate_eq] at beyond
  simp only [removePrefix, removeFront_fails _ beyond]

end BufferList

structure BufferViewList where
  views : List (List Byte)
  deriving DecidableEq, Repr

namespace BufferViewList

def ofString (text : List Byte) : BufferViewList := ⟨[text]⟩

def ofBufferList (list : BufferList) : BufferViewList := ⟨list.buffers.map Buffer.str⟩

def size (list : BufferViewList) : Nat := list.views.foldl (fun ret view => ret + view.length) 0

/-- The byte ranges handed to the kernel, empty ones included. -/
def asIovecs (list : BufferViewList) : List (List Byte) := list.views

def removePrefix (list : BufferViewList) (n : Nat) : Except String Unit × BufferViewList :=
  let result := removeFront id (fun n view => .ok (view.drop n)) "BufferListView::remove_prefix" n
    list.views
  (result.1, ⟨result.2⟩)

def contents (list : BufferViewList) : List Byte := list.asIovecs.flatten

theorem contents_eq (list : BufferViewList) : list.contents = list.views.flatMap id := by
  rw [contents, asIovecs, List.flatMap_id]

theorem size_eq (list : BufferViewList) : list.size = list.contents.length := by
  rw [size, contents, asIovecs, List.length_flatten, List.sum_eq_foldl, List.foldl_map]

theorem ofBufferList_contents (list : BufferList) : (ofBufferList list).contents = list.concatenate := by
  rw [BufferList.concatenate_eq, List.flatMap_def]
  rfl

theorem removePrefix_ok {list : BufferViewList} {n : Nat} (within : n ≤ list.size) :
    ∃ rest, list.removePrefix n = (.ok (), rest) ∧ rest.contents = list.contents.drop n := by
  have trims : Trims id fun n (view : List Byte) => (.ok (view.drop n) : Except String (List Byte)) :=
    fun n view _ => ⟨view.drop n, rfl, rfl⟩
  rw [size_eq, contents_eq] at within
  obtain ⟨left, removed, shows⟩ :=
    removeFront_ok "BufferListView::remove_prefix" trims within
  refine ⟨⟨left⟩, ?_, ?_⟩
  · simp only [removePrefix, removed]
  · simp only [contents_eq, shows]

theorem removePrefix_fails {list : BufferViewList} {n : Nat} (beyond : list.size < n) :
    list.removePrefix n = (.error "BufferListView::remove_prefix", ⟨[]⟩) := by
  rw [size_eq, contents_eq] at beyond
  simp only [removePrefix, removeFront_fails _ beyond]

end BufferViewList
end Sponge.Storage
