import Sponge.Storage

/-! `FileDescriptor::write` (`util/file_descriptor.cc`) and the kernel call behind it. `writev` is a
parameter: it is given the byte ranges and answers as it likes from a state of its own. -/

namespace Sponge.FileDescriptor

open Storage

/-- The return value of a system call and the `errno` it leaves. -/
structure Reply where
  returned : Int
  errno : Int
  deriving DecidableEq, Repr

abbrev Writev (World : Type) := World → List (List Byte) → Reply × World

/-- What a write leaves behind, also when it throws: the kernel with the bytes it has consumed, and the
number of writes. -/
structure Descriptor (World : Type) where
  world : World
  handed : List Byte
  writeCount : Nat
  deriving DecidableEq, Repr

inductive Thrown
  | unixError (attempt : String) (error : Int)
  | runtimeError (what : String)
  | outOfRange (what : String)
  deriving DecidableEq, Repr

def toInt (value : Int) : Int := value.bmod (2 ^ 32)

def toSize (value : Int) : Nat := (value % 2 ^ 64).toNat

/-- `SystemCall` takes the return value as an `int`. -/
def systemCall (attempt : String) (returnValue errno errnoMask : Int) : Except Thrown Int :=
  if returnValue ≥ 0 ∨ errno = errnoMask then .ok returnValue else .error (.unixError attempt errno)

def registerWrite {World : Type} (d : Descriptor World) : Descriptor World :=
  { d with writeCount := d.writeCount + 1 }

variable {World : Type} (writev : Writev World)

def handOver (buffer : BufferViewList) (d : Descriptor World) : Descriptor World :=
  let call := writev d.world buffer.asIovecs
  { d with world := call.2, handed := d.handed ++ buffer.contents.take call.1.returned.toNat }

/-- The part of the loop body of `write` after the system call. -/
def accept (buffer : BufferViewList) (bytesWritten : Int) (d : Descriptor World) :
    Except Thrown (Nat × BufferViewList) × Descriptor World :=
  if bytesWritten = 0 ∧ buffer.size ≠ 0 then
    (.error (.runtimeError "write returned 0 given non-empty input buffer"), d)
  else if bytesWritten > buffer.size then
    (.error (.runtimeError "write wrote more than length of input buffer"), d)
  else
    match buffer.removePrefix (toSize bytesWritten) with
    | (.error what, _) => (.error (.outOfRange what), registerWrite d)
    | (.ok (), rest) => (.ok (toSize bytesWritten, rest), registerWrite d)

/-- One round of the loop of `write`: the bytes written and what is left to write. -/
def round (buffer : BufferViewList) (d : Descriptor World) :
    Except Thrown (Nat × BufferViewList) × Descriptor World :=
  let reply := (writev d.world buffer.asIovecs).1
  match systemCall "writev" (toInt reply.returned) reply.errno 0 with
  | .error thrown => (.error thrown, handOver writev buffer d)
  | .ok bytesWritten => accept buffer bytesWritten (handOver writev buffer d)

variable {writev} {buffer rest : BufferViewList} {d : Descriptor World} {bytesWritten : Int} {n : Nat}

theorem accept_ok (done : (accept buffer bytesWritten d).1 = .ok (n, rest)) :
    n = toSize bytesWritten ∧ (bytesWritten = 0 → buffer.size = 0) ∧ n ≤ buffer.size ∧
      rest.contents = buffer.contents.drop n := by
  unfold accept at done
  split at done
  case isTrue => cases done
  case isFalse some_ =>
    have empty : bytesWritten = 0 → buffer.size = 0 := by
      intro zero
      by_contra left
      exact some_ ⟨zero, left⟩
    split at done
    case isTrue => cases done
    case isFalse =>
      by_cases within : toSize bytesWritten ≤ buffer.size
      · obtain ⟨left, removed, shows⟩ := BufferViewList.removePrefix_ok within
        rw [removed] at done
        cases done
        exact ⟨rfl, empty, within, shows⟩
      · rw [BufferViewList.removePrefix_fails (Nat.lt_of_not_le within)] at done
        cases done

theorem toInt_bounds (value : Int) : -2 ^ 31 ≤ toInt value ∧ toInt value < 2 ^ 31 :=
  ⟨Int.le_bmod (by decide), Int.bmod_lt (by decide)⟩

theorem toInt_of_small {value : Int} (positive : 0 ≤ value) (small : value < 2 ^ 31) :
    toInt value = value := by
  unfold toInt
  rw [Int.bmod_eq_of_le] <;> omega

theorem round_ok (done : (round writev buffer d).1 = .ok (n, rest)) :
    rest.size + n = buffer.size ∧ (buffer.size ≠ 0 → 0 < n) := by
  have bounds := toInt_bounds (writev d.world buffer.asIovecs).1.returned
  unfold round at done
  dsimp only at done
  split at done
  case h_1 => cases done
  case h_2 returned called =>
    have same : toInt (writev d.world buffer.asIovecs).1.returned = returned := by
      unfold systemCall at called
      split at called <;> cases called
      rfl
    obtain ⟨written, empty, within, shows⟩ := accept_ok done
    rw [same] at bounds
    constructor
    · rw [BufferViewList.size_eq, shows, List.length_drop, ← BufferViewList.size_eq]
      omega
    · intro left
      rw [Nat.pos_iff_ne_zero]
      intro zero
      have none_ : returned = 0 := by
        unfold toSize at written
        omega
      exact left (empty none_)

/-- The loop of `write`. Whatever the kernel answers, a round that does not throw leaves less to write. -/
def writeLoop (writev : Writev World) (writeAll : Bool) (buffer : BufferViewList)
    (totalBytesWritten : Nat) (d : Descriptor World) : Except Thrown Nat × Descriptor World :=
  match _ : (round writev buffer d).1 with
  | .error thrown => (.error thrown, (round writev buffer d).2)
  | .ok (n, rest) =>
      if _ : writeAll = true ∧ rest.size ≠ 0 then
        writeLoop writev writeAll rest (totalBytesWritten + n) (round writev buffer d).2
      else (.ok (totalBytesWritten + n), (round writev buffer d).2)
termination_by buffer.size
decreasing_by
  rename_i done more
  have progress := round_ok done
  have left := more.2
  omega

def write (writev : Writev World) (buffer : BufferViewList) (writeAll : Bool) (d : Descriptor World) :
    Except Thrown Nat × Descriptor World :=
  writeLoop writev writeAll buffer 0 d

theorem writeLoop_error {writeAll : Bool} {total : Nat} {thrown : Thrown}
    (failed : (round writev buffer d).1 = .error thrown) :
    writeLoop writev writeAll buffer total d = (.error thrown, (round writev buffer d).2) := by
  rw [writeLoop]
  split
  case h_1 other same =>
    rw [failed] at same
    cases same
    rfl
  case h_2 same =>
    rw [failed] at same
    cases same

theorem writeLoop_ok {total : Nat} (done : (round writev buffer d).1 = .ok (n, rest)) :
    writeLoop writev true buffer total d =
      if rest.size ≠ 0 then writeLoop writev true rest (total + n) (round writev buffer d).2
      else (.ok (total + n), (round writev buffer d).2) := by
  rw [writeLoop]
  split
  case h_1 same =>
    rw [done] at same
    cases same
  case h_2 count left same =>
    rw [done] at same
    cases same
    simp only [true_and, dite_eq_ite]

/-- The kernel consumes some of the bytes from the front, and none only where there are none. One call
transfers at most `0x7ffff000` bytes, as `write(2)` says of Linux; `SystemCall` relies on it. -/
structure Consumes (writev : Writev World) : Prop where
  some : ∀ world iovecs, iovecs.flatten ≠ [] → 1 ≤ (writev world iovecs).1.returned
  all : ∀ world iovecs, (writev world iovecs).1.returned ≤ iovecs.flatten.length
  nothing : ∀ world iovecs, iovecs.flatten = [] → (writev world iovecs).1.returned = 0
  limited : ∀ world iovecs, (writev world iovecs).1.returned ≤ 0x7ffff000

section Round

variable (buffer : BufferViewList) (d : Descriptor World)

theorem round_of_bounds (positive : 0 ≤ (writev d.world buffer.asIovecs).1.returned)
    (small : (writev d.world buffer.asIovecs).1.returned < 2 ^ 31)
    (within : (writev d.world buffer.asIovecs).1.returned ≤ buffer.size)
    (some_ : ¬ ((writev d.world buffer.asIovecs).1.returned = 0 ∧ buffer.size ≠ 0)) :
    ∃ rest, round writev buffer d =
        (.ok ((writev d.world buffer.asIovecs).1.returned.toNat, rest),
          registerWrite (handOver writev buffer d)) ∧
      rest.contents = buffer.contents.drop (writev d.world buffer.asIovecs).1.returned.toNat := by
  have fits : (writev d.world buffer.asIovecs).1.returned.toNat ≤ buffer.size := by omega
  have size : toSize (writev d.world buffer.asIovecs).1.returned =
      (writev d.world buffer.asIovecs).1.returned.toNat := by
    unfold toSize
    omega
  obtain ⟨rest, removed, shows⟩ := BufferViewList.removePrefix_ok fits
  refine ⟨rest, ?_, shows⟩
  simp only [round, systemCall, toInt_of_small positive small, ge_iff_le, positive, true_or, if_true,
    accept, some_, if_false, gt_iff_lt, not_lt.mpr within, size, removed]

theorem Consumes.bounds (consumes : Consumes writev) :
    0 ≤ (writev d.world buffer.asIovecs).1.returned ∧
      (writev d.world buffer.asIovecs).1.returned ≤ buffer.size ∧
      ¬ ((writev d.world buffer.asIovecs).1.returned = 0 ∧ buffer.size ≠ 0) := by
  have all : (writev d.world buffer.asIovecs).1.returned ≤ buffer.size := by
    rw [BufferViewList.size_eq]
    exact consumes.all d.world buffer.asIovecs
  by_cases empty : buffer.asIovecs.flatten = []
  · have none_ : buffer.size = 0 := by rw [BufferViewList.size_eq, BufferViewList.contents, empty]; rfl
    exact ⟨(consumes.nothing d.world _ empty).ge, all, fun both => both.2 none_⟩
  · have one := consumes.some d.world _ empty
    exact ⟨by omega, all, fun both => by omega⟩

theorem round_consumes (consumes : Consumes writev) :
    ∃ n rest, (round writev buffer d).1 = .ok (n, rest) ∧
      (round writev buffer d).2.handed = d.handed ++ buffer.contents.take n ∧
      rest.contents = buffer.contents.drop n := by
  obtain ⟨positive, within, some_⟩ := consumes.bounds buffer d
  have limited := consumes.limited d.world buffer.asIovecs
  obtain ⟨rest, called, shows⟩ := round_of_bounds buffer d positive (by omega) within some_
  refine ⟨_, rest, ?_, ?_, shows⟩
  · rw [called]
  · rw [called]
    rfl

/-- An answer from `2 ^ 31` on would come out of `SystemCall` as a negative number, and `write` would
throw although the bytes have been consumed. -/
theorem write_oversized (writeAll : Bool)
    (large : 2 ^ 31 ≤ (writev d.world buffer.asIovecs).1.returned)
    (narrow : (writev d.world buffer.asIovecs).1.returned < 2 ^ 32) (addressable : buffer.size < 2 ^ 63) :
    ∃ thrown, (write writev buffer writeAll d).1 = .error thrown := by
  have negative : toInt (writev d.world buffer.asIovecs).1.returned =
      (writev d.world buffer.asIovecs).1.returned - 2 ^ 32 := by
    unfold toInt
    rw [Int.bmod_def]
    omega
  have beyond : buffer.size < toSize ((writev d.world buffer.asIovecs).1.returned - 2 ^ 32) := by
    unfold toSize
    omega
  have failed : ∃ thrown, (round writev buffer d).1 = .error thrown := by
    simp only [round, negative, systemCall]
    by_cases unset : (writev d.world buffer.asIovecs).1.errno = 0
    · -- an `errno` of zero passes for the mask, and `remove_prefix` is asked for almost `2 ^ 64` bytes
      refine ⟨.outOfRange "BufferListView::remove_prefix", ?_⟩
      rw [if_pos (.inr unset)]
      simp only [accept]
      rw [if_neg (by omega), if_neg (by omega), BufferViewList.removePrefix_fails beyond]
    · refine ⟨.unixError "writev" (writev d.world buffer.asIovecs).1.errno, ?_⟩
      rw [if_neg (by omega)]
  obtain ⟨thrown, stopped⟩ := failed
  exact ⟨thrown, by rw [write, writeLoop_error stopped]⟩

end Round

theorem writeLoop_delivers (consumes : Consumes writev) (buffer : BufferViewList) (total : Nat)
    (d : Descriptor World) :
    (writeLoop writev true buffer total d).1 = .ok (total + buffer.size) ∧
      (writeLoop writev true buffer total d).2.handed = d.handed ++ buffer.contents := by
  induction size : buffer.size using Nat.strong_induction_on generalizing buffer total d with
  | h left ih =>
      obtain ⟨n, rest, done, handed, shows⟩ := round_consumes buffer d consumes
      obtain ⟨progress, grows⟩ := round_ok done
      rw [writeLoop_ok done]
      by_cases more : rest.size ≠ 0
      · -- the rest is shorter, and it is what the round has not handed over
        rw [if_pos more]
        obtain ⟨returned, later⟩ := ih rest.size (by omega) rest (total + n) (round writev buffer d).2 rfl
        refine ⟨?_, ?_⟩
        · rw [returned, ← size, ← progress, Nat.add_assoc, Nat.add_comm n]
        · rw [later, handed, shows, List.append_assoc, List.take_append_drop]
      · rw [if_neg more]
        have whole : n = buffer.size := by omega
        refine ⟨?_, ?_⟩
        · rw [whole, size]
        · rw [handed, whole, BufferViewList.size_eq, List.take_length]

/-- Lists of buffers and of views lose a prefix as flat strings do, and `write` hands the kernel exactly
the string they show, however the kernel cuts it. -/
theorem discontiguous_like_flat :
    (∀ (list : Storage.BufferList) (n : Nat), n ≤ list.size →
      ∃ rest, list.removePrefix n = (.ok (), rest) ∧ rest.concatenate = list.concatenate.drop n) ∧
    (∀ (list : Storage.BufferList) (n : Nat), list.size < n →
      (list.removePrefix n).1 = .error "BufferList::remove_prefix") ∧
    (∀ (list : BufferViewList) (n : Nat), n ≤ list.size →
      ∃ rest, list.removePrefix n = (.ok (), rest) ∧ rest.contents = list.contents.drop n) ∧
    (∀ (list : BufferViewList) (n : Nat), list.size < n →
      (list.removePrefix n).1 = .error "BufferListView::remove_prefix") ∧
    (∀ list : Storage.BufferList, (BufferViewList.ofBufferList list).contents = list.concatenate ∧
      (BufferViewList.ofBufferList list).size = list.size) ∧
    ∀ (World : Type) (writev : Writev World), Consumes writev →
      ∀ (buffer : BufferViewList) (d : Descriptor World),
        (write writev buffer true d).1 = .ok buffer.size ∧
          (write writev buffer true d).2.handed = d.handed ++ buffer.contents := by
  refine ⟨fun _ _ => Storage.BufferList.removePrefix_ok, ?_,
    fun _ _ => BufferViewList.removePrefix_ok, ?_, ?_, ?_⟩
  · intro list n beyond
    rw [Storage.BufferList.removePrefix_fails beyond]
  · intro list n beyond
    rw [BufferViewList.removePrefix_fails beyond]
  · intro list
    have shown := BufferViewList.ofBufferList_contents list
    refine ⟨shown, ?_⟩
    rw [BufferViewList.size_eq, Storage.BufferList.size_eq, shown]
  · intro World writev consumes buffer d
    have delivered := writeLoop_delivers consumes buffer 0 d
    rwa [Nat.zero_add] at delivered

def twoAtATime : Writev Unit := fun world iovecs => (⟨min 2 iovecs.flatten.length, 0⟩, world)

theorem twoAtATime_consumes : Consumes twoAtATime where
  some := by
    intro world iovecs some_
    have length := List.length_pos_iff.mpr some_
    simp only [twoAtATime]
    omega
  all := by
    intro world iovecs
    simp only [twoAtATime]
    omega
  nothing := by
    intro world iovecs empty
    simp only [twoAtATime, empty]
    rfl
  limited := by
    intro world iovecs
    simp only [twoAtATime]
    omega

def scattered : Storage.BufferList := ⟨[.ofString [1, 2], .empty, .ofString [], .ofString [3, 4, 5]]⟩

theorem scattered_like_flat :
    (∃ rest, scattered.removePrefix 3 = (.ok (), rest) ∧ rest.concatenate = [4, 5]) ∧
      (scattered.removePrefix 6).1 = .error "BufferList::remove_prefix" ∧
      (write twoAtATime (.ofBufferList scattered) true ⟨(), [], 0⟩).1 = .ok 5 ∧
      (write twoAtATime (.ofBufferList scattered) true ⟨(), [], 0⟩).2.handed = [1, 2, 3, 4, 5] := by
  obtain ⟨shorter, fails, _, _, _, written⟩ := discontiguous_like_flat
  obtain ⟨returned, handed⟩ :=
    written Unit twoAtATime twoAtATime_consumes (.ofBufferList scattered) ⟨(), [], 0⟩
  exact ⟨shorter scattered 3 (by decide), fails scattered 6 (by decide), returned, handed⟩

end Sponge.FileDescriptor
