import Sponge.NetParser
import Sponge.OnesComplement

/-! The checksum of the IP and TCP headers (`InternetChecksum` of `util.hh` and `util.cc`). -/

namespace Sponge

structure InternetChecksum where
  sum : UInt32 := 0
  parity : Bool := false
  deriving DecidableEq, Repr

namespace InternetChecksum

open OnesComplement

def addByte (check : InternetChecksum) (byte : Byte) : InternetChecksum :=
  let val := byte.toUInt16
  let val := if !check.parity then val <<< 8 else val
  ⟨check.sum + val.toUInt32, !check.parity⟩

def add (check : InternetChecksum) (data : List Byte) : InternetChecksum := data.foldl addByte check

/-- The loop of `value` is `fold`; the sum of its two halves fits 32 bits. -/
def value (check : InternetChecksum) : UInt16 := ~~~ UInt16.ofNat (fold check.sum.toNat)

theorem addByte_sum (check : InternetChecksum) (byte : Byte) :
    (check.addByte byte).sum.toNat =
      (check.sum.toNat + if check.parity then byte.toNat else byte.toNat * 256) % 2 ^ 32 := by
  have digit : byte.toNat < 256 := byte.toNat_lt
  cases odd : check.parity with
  | false =>
      have shifted : (byte.toUInt16 <<< 8).toUInt32.toNat = byte.toNat * 256 := by
        rw [UInt16.toNat_toUInt32, UInt16.toNat_shiftLeft, UInt8.toNat_toUInt16]
        simp [Nat.shiftLeft_eq]
        omega
      simp only [addByte, odd, Bool.not_false, if_true, UInt32.toNat_add, shifted, Bool.false_eq_true,
        if_false]
  | true => simp [addByte, odd]

theorem add_sum (check : InternetChecksum) (data : List Byte) :
    (check.add data).sum.toNat = (check.sum.toNat + wordSum check.parity data) % 2 ^ 32 := by
  induction data generalizing check with
  | nil => simp [add, wordSum, Nat.mod_eq_of_lt check.sum.toNat_lt]
  | cons byte rest ih =>
      have next := ih (check.addByte byte)
      rw [addByte_sum] at next
      rw [add, List.foldl_cons]
      refine next.trans ?_
      rw [wordSum, ← Nat.add_assoc, Nat.mod_add_mod]
      rfl

theorem add_append (check : InternetChecksum) (front back : List Byte) :
    check.add (front ++ back) = (check.add front).add back := List.foldl_append

theorem value_toNat (check : InternetChecksum) :
    check.value.toNat = 0xffff - fold check.sum.toNat := by
  have bound := fold_le check.sum.toNat
  have small : fold check.sum.toNat < UInt16.size := Nat.lt_succ_of_le bound
  rw [value, UInt16.toNat_not, UInt16.toNat_ofNat_of_lt' small]
  rfl

theorem value_eq_zero_iff (check : InternetChecksum) : check.value = 0 ↔ fold check.sum.toNat = 0xffff := by
  have bound := fold_le check.sum.toNat
  rw [← UInt16.toNat_inj, value_toNat, UInt16.toNat_zero]
  omega

theorem add_verifies (seed : UInt32) {zeroed whole : List Byte}
    (filled : wordSum false whole =
      wordSum false zeroed + (InternetChecksum.add ⟨seed, false⟩ zeroed).value.toNat)
    (small : seed.toNat + wordSum false whole < 2 ^ 32) :
    (InternetChecksum.add ⟨seed, false⟩ whole).value = 0 := by
  have sum : (InternetChecksum.add ⟨seed, false⟩ zeroed).sum.toNat =
      seed.toNat + wordSum false zeroed := by
    rw [add_sum]
    exact Nat.mod_eq_of_lt (show seed.toNat + wordSum false zeroed < 2 ^ 32 by omega)
  rw [value_toNat, sum] at filled
  rw [value_eq_zero_iff, add_sum, Nat.mod_eq_of_lt small, filled, ← Nat.add_assoc]
  exact fold_add_complement _

end InternetChecksum

section Words

open OnesComplement

theorem wordSum_u16 (val : UInt16) : wordSum false (NetUnparser.u16 val) = val.toNat := by
  have bound : val.toNat < 2 ^ 16 := val.toNat_lt
  simp [NetUnparser.u16, BigEndian.encode, wordSum]
  omega

theorem wordSum_field {front : List Byte} (even : front.length % 2 = 0) (word : UInt16) (back : List Byte) :
    wordSum false (front ++ (NetUnparser.u16 word ++ back)) =
      wordSum false (front ++ (NetUnparser.u16 0 ++ back)) + word.toNat := by
  have split : ∀ word, wordSum false (front ++ (NetUnparser.u16 word ++ back)) =
      wordSum false front + (word.toNat + wordSum false back) := by
    intro word
    rw [wordSum_append_even _ even, wordSum_append_even _ (by simp), wordSum_u16]
  rw [split, split, UInt16.toNat_zero]
  omega

theorem wordSum_filled {text : UInt16 → List Byte} {front back : List Byte} (even : front.length % 2 = 0)
    (split : ∀ word, text word = front ++ (NetUnparser.u16 word ++ back)) (tail : List Byte)
    (word : UInt16) :
    wordSum false (text word ++ tail) = wordSum false (text 0 ++ tail) + word.toNat := by
  rw [split, split, List.append_assoc, List.append_assoc, List.append_assoc, List.append_assoc]
  exact wordSum_field even word (back ++ tail)

end Words

end Sponge
