import Sponge.BigEndian
import Sponge.Buffer

/-! Reading and writing packets field by field (`util/parser.hh`, `util/parser.cc`). A parser remembers the
first shortage of bytes; afterwards it reads zeros and takes nothing more. -/

namespace Sponge

inductive ParseResult where
  | noError
  | badChecksum
  | packetTooShort
  | wrongIPVersion
  | headerTooShort
  | truncatedPacket
  | unsupported
  deriving DecidableEq, Repr

structure NetParser where
  buffer : Buffer
  error : ParseResult := .noError
  deriving DecidableEq, Repr

namespace NetParser

def checkSize (p : NetParser) (size : Nat) : NetParser :=
  if size > p.buffer.length then { p with error := .packetTooShort } else p

/-- `_parse_int` for an unsigned type of `len` bytes. -/
def parseInt (len : Nat) : StateM NetParser Nat := fun p =>
  let p := p.checkSize len
  if p.error ≠ .noError then (0, p)
  else (BigEndian.decode (p.buffer.take len), { p with buffer := p.buffer.drop len })

def u32 : StateM NetParser UInt32 := UInt32.ofNat <$> parseInt 4

def u16 : StateM NetParser UInt16 := UInt16.ofNat <$> parseInt 2

def u8 : StateM NetParser UInt8 := UInt8.ofNat <$> parseInt 1

def removePrefix (n : Nat) : StateM NetParser Unit := fun p =>
  let p := p.checkSize n
  if p.error ≠ .noError then ((), p) else ((), { p with buffer := p.buffer.drop n })

end NetParser

namespace NetUnparser

def u32 (val : UInt32) : List Byte := BigEndian.encode 4 val.toNat

def u16 (val : UInt16) : List Byte := BigEndian.encode 2 val.toNat

def u8 (val : UInt8) : List Byte := BigEndian.encode 1 val.toNat

/-- `std::string::resize`: cut off or fill up with zero bytes. -/
def resize (bytes : List Byte) (n : Nat) : List Byte :=
  bytes.take n ++ List.replicate (n - bytes.length) 0

@[simp] theorem u32_length (val : UInt32) : (u32 val).length = 4 := BigEndian.encode_length 4 _

@[simp] theorem u16_length (val : UInt16) : (u16 val).length = 2 := BigEndian.encode_length 2 _

@[simp] theorem u8_length (val : UInt8) : (u8 val).length = 1 := BigEndian.encode_length 1 _

@[simp] theorem u8_eq (val : UInt8) : u8 val = [val] := by
  simp [u8, BigEndian.encode]

theorem exists_u32 (bytes : List Byte) (long : 4 ≤ bytes.length) :
    ∃ val rest, bytes = u32 val ++ rest ∧ rest.length = bytes.length - 4 := by
  obtain ⟨n, bound, rest, whole⟩ := BigEndian.exists_encode 4 bytes long
  refine ⟨UInt32.ofNat n, rest, ?_⟩
  rw [u32, UInt32.toNat_ofNat_of_lt' bound]
  exact whole

theorem exists_u16 (bytes : List Byte) (long : 2 ≤ bytes.length) :
    ∃ val rest, bytes = u16 val ++ rest ∧ rest.length = bytes.length - 2 := by
  obtain ⟨n, bound, rest, whole⟩ := BigEndian.exists_encode 2 bytes long
  refine ⟨UInt16.ofNat n, rest, ?_⟩
  rw [u16, UInt16.toNat_ofNat_of_lt' bound]
  exact whole

theorem exists_u8 (bytes : List Byte) (long : 1 ≤ bytes.length) :
    ∃ val rest, bytes = u8 val ++ rest ∧ rest.length = bytes.length - 1 := by
  obtain ⟨n, bound, rest, whole⟩ := BigEndian.exists_encode 1 bytes long
  refine ⟨UInt8.ofNat n, rest, ?_⟩
  rw [u8, UInt8.toNat_ofNat_of_lt' bound]
  exact whole

end NetUnparser

namespace NetParser

theorem parseInt_encode (width n : Nat) (bound : n < 256 ^ width) (rest : Buffer) :
    (parseInt width).run ⟨BigEndian.encode width n ++ rest, .noError⟩ = pure (n, ⟨rest, .noError⟩) := by
  have enough : ¬ width > (BigEndian.encode width n ++ rest).length := by simp
  simp only [parseInt, StateT.run, checkSize, if_neg enough, ne_eq, not_true_eq_false, if_false]
  rw [List.take_append_of_le_length (by simp), List.take_of_length_le (by simp),
    List.drop_append_of_le_length (by simp), List.drop_of_length_le (by simp), List.nil_append,
    BigEndian.decode_encode, Nat.mod_eq_of_lt bound]
  rfl

@[simp] theorem u32_run (val : UInt32) (rest : Buffer) :
    u32.run ⟨NetUnparser.u32 val ++ rest, .noError⟩ = pure (val, ⟨rest, .noError⟩) := by
  rw [u32, StateT.run_map, NetUnparser.u32, parseInt_encode 4 val.toNat val.toNat_lt rest]
  simp

@[simp] theorem u16_run (val : UInt16) (rest : Buffer) :
    u16.run ⟨NetUnparser.u16 val ++ rest, .noError⟩ = pure (val, ⟨rest, .noError⟩) := by
  rw [u16, StateT.run_map, NetUnparser.u16, parseInt_encode 2 val.toNat val.toNat_lt rest]
  simp

@[simp] theorem u8_run (val : UInt8) (rest : Buffer) :
    u8.run ⟨NetUnparser.u8 val ++ rest, .noError⟩ = pure (val, ⟨rest, .noError⟩) := by
  rw [u8, StateT.run_map, NetUnparser.u8, parseInt_encode 1 val.toNat val.toNat_lt rest]
  simp

theorem removePrefix_run (n : Nat) (buffer : Buffer) :
    (removePrefix n).run ⟨buffer, .noError⟩ =
      pure ((), if n ≤ buffer.length then ⟨buffer.drop n, .noError⟩ else ⟨buffer, .packetTooShort⟩) := by
  simp only [removePrefix, StateT.run, checkSize]
  by_cases enough : n ≤ buffer.length
  · rw [if_neg (Nat.not_lt.mpr enough), if_pos enough]
    rfl
  · rw [if_pos (Nat.lt_of_not_le enough), if_neg enough]
    rfl

def Needs {α : Type} (size : Nat) (m : StateM NetParser α) : Prop :=
  ∀ p, (m.run p).run.2.error = .noError →
    p.error = .noError ∧ (m.run p).run.2.buffer.length + size ≤ p.buffer.length

theorem needs_pure {α : Type} (value : α) : Needs 0 (pure value) := fun _ clean => ⟨clean, le_rfl⟩

theorem needs_get : Needs 0 get := fun _ clean => ⟨clean, le_rfl⟩

theorem needs_zero {α : Type} {size : Nat} {m : StateM NetParser α} (needs : Needs size m) : Needs 0 m :=
  fun p clean => ⟨(needs p clean).1, Nat.le_trans (Nat.le_add_right _ size) (needs p clean).2⟩

theorem needs_bind {α β : Type} {size more : Nat} {m : StateM NetParser α} {f : α → StateM NetParser β}
    (front : Needs size m) (back : ∀ value, Needs more (f value)) : Needs (size + more) (m >>= f) := by
  intro p clean
  rw [StateT.run_bind] at clean ⊢
  obtain ⟨middle, later⟩ := back (m.run p).run.1 (m.run p).run.2 clean
  obtain ⟨before, earlier⟩ := front p middle
  have total : ((f (m.run p).run.1).run (m.run p).run.2).run.2.buffer.length + (size + more) ≤
      p.buffer.length := by omega
  exact ⟨before, total⟩

theorem needs_tail {α β : Type} {size : Nat} {m : StateM NetParser α} {f : α → StateM NetParser β}
    (front : Needs size m) (back : ∀ value, Needs 0 (f value)) : Needs size (m >>= f) :=
  needs_bind front back

theorem needs_map {α β : Type} {size : Nat} {m : StateM NetParser α} (f : α → β) (needs : Needs size m) :
    Needs size (f <$> m) := by
  intro p clean
  rw [StateT.run_map] at clean ⊢
  exact needs p clean

theorem checkSize_clean {p : NetParser} {size : Nat} (clean : (p.checkSize size).error = .noError) :
    p.error = .noError ∧ size ≤ p.buffer.length ∧ p.checkSize size = p := by
  unfold checkSize at clean ⊢
  split at clean
  case isTrue => cases clean
  case isFalse enough => exact ⟨clean, Nat.not_lt.mp enough, if_neg enough⟩

theorem needs_taken {α : Type} {n : Nat} {m : StateM NetParser α}
    (after : ∀ p, (m.run p).run.2 = if (p.checkSize n).error ≠ .noError then p.checkSize n
      else { p.checkSize n with buffer := (p.checkSize n).buffer.drop n }) : Needs n m := by
  intro p clean
  rw [after] at clean ⊢
  split at clean
  case isTrue failed => exact (failed clean).elim
  case isFalse good =>
    obtain ⟨before, enough, same⟩ := checkSize_clean (not_not.mp good)
    rw [if_neg good, same]
    exact ⟨before, show (p.buffer.drop n).length + n ≤ p.buffer.length by
      rw [List.length_drop]
      omega⟩

theorem needs_parseInt (len : Nat) : Needs len (parseInt len) := by
  apply needs_taken
  intro p
  simp only [parseInt, StateT.run]
  split <;> rfl

theorem needs_u32 : Needs 4 u32 := needs_map _ (needs_parseInt 4)

theorem needs_u16 : Needs 2 u16 := needs_map _ (needs_parseInt 2)

theorem needs_u8 : Needs 1 u8 := needs_map _ (needs_parseInt 1)

theorem needs_removePrefix (n : Nat) : Needs n (removePrefix n) := by
  apply needs_taken
  intro p
  simp only [removePrefix, StateT.run]
  split <;> rfl

end NetParser
end Sponge
