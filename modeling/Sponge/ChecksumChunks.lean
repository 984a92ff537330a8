import Sponge.InternetChecksum

/-! The Internet checksum of data that arrives in chunks of any length, odd ones included. -/

namespace Sponge.ChecksumChunks

open OnesComplement InternetChecksum

theorem halves_toNat (ret : UInt32) :
    ((ret >>> 16) + (ret &&& 0xffff)).toNat = ret.toNat / 2 ^ 16 + ret.toNat % 2 ^ 16 := by
  have bound : ret.toNat < 2 ^ 32 := ret.toNat_lt
  have high : (ret >>> 16).toNat = ret.toNat / 2 ^ 16 := by
    rw [UInt32.toNat_shiftRight]
    exact Nat.shiftRight_eq_div_pow _ _
  have low : (ret &&& 0xffff).toNat = ret.toNat % 2 ^ 16 := by
    rw [UInt32.toNat_and]
    exact Nat.and_two_pow_sub_one_eq_mod _ 16
  rw [UInt32.toNat_add, high, low]
  omega

/-- The loop of `value`, which ends because a sum over sixteen bits is larger than its halves together. -/
def foldCarries (ret : UInt32) : UInt32 :=
  if ret > 0xffff then foldCarries ((ret >>> 16) + (ret &&& 0xffff)) else ret
termination_by ret.toNat
decreasing_by
  rename_i large
  have over_ : 0xffff < ret.toNat := UInt32.lt_iff_toNat_lt.mp large
  rw [halves_toNat]
  omega

theorem foldCarries_toNat (ret : UInt32) : (foldCarries ret).toNat = fold ret.toNat := by
  fun_induction foldCarries ret with
  | case1 ret large ih => rw [ih, halves_toNat, fold_halves]
  | case2 ret small =>
      have within : ¬ 0xffff < ret.toNat := fun large => small (UInt32.lt_iff_toNat_lt.mpr large)
      rw [fold, if_neg within]

theorem value_foldCarries (check : InternetChecksum) :
    check.value = ~~~ (foldCarries check.sum).toUInt16 := by
  rw [value, ← foldCarries_toNat]
  rfl

def addAll (initialSum : UInt32) (chunks : List (List Byte)) : InternetChecksum :=
  chunks.foldl add ⟨initialSum, false⟩

theorem addAll_flatten (initialSum : UInt32) (chunks : List (List Byte)) :
    addAll initialSum chunks = InternetChecksum.add ⟨initialSum, false⟩ chunks.flatten :=
  List.foldl_flatten.symm

theorem wordSum_small {initialSum : UInt32} {bytes : List Byte} (initial : initialSum.toNat < 2 ^ 20)
    (short : bytes.length ≤ 65536) : initialSum.toNat + wordSum false bytes < 2 ^ 32 := by
  have bound := wordSum_le false bytes
  omega

theorem add_exact {initialSum : UInt32} {bytes : List Byte} (initial : initialSum.toNat < 2 ^ 20)
    (short : bytes.length ≤ 65536) :
    (InternetChecksum.add ⟨initialSum, false⟩ bytes).sum.toNat =
      initialSum.toNat + wordSum false bytes := by
  rw [add_sum]
  exact Nat.mod_eq_of_lt (wordSum_small initial short)

theorem value_onesSumFrom {initialSum : UInt32} {bytes : List Byte} (initial : initialSum.toNat < 2 ^ 20)
    (short : bytes.length ≤ 65536) :
    (InternetChecksum.add ⟨initialSum, false⟩ bytes).value =
      ~~~ UInt16.ofNat (onesSumFrom initialSum.toNat bytes) := by
  rw [value, add_exact initial short, onesSumFrom_eq initialSum.toNat_lt]

/-- What a checksum object promises for a list of chunks. -/
structure Checksummed (initialSum : UInt32) (chunks : List (List Byte)) : Prop where
  value : (addAll initialSum chunks).value =
    ~~~ UInt16.ofNat (onesSumFrom initialSum.toNat chunks.flatten)
  loop : (addAll initialSum chunks).value = ~~~ (foldCarries (addAll initialSum chunks).sum).toUInt16
  noOverflow : ∀ before done left after, chunks = before ++ (done ++ left) :: after →
    ((addAll initialSum before).add done).sum.toNat =
      initialSum.toNat + wordSum false (before.flatten ++ done)
  regrouped : ∀ others, others.flatten = chunks.flatten →
    addAll initialSum others = addAll initialSum chunks
  verifies : ∀ front back others, front.length % 2 = 0 → chunks.flatten = front ++ ([0, 0] ++ back) →
    others.flatten = front ++ (NetUnparser.u16 (addAll initialSum chunks).value ++ back) →
      (addAll initialSum others).value = 0

section Bounded

variable {initialSum : UInt32} {chunks : List (List Byte)} (initial : initialSum.toNat < 2 ^ 20)
  (short : chunks.flatten.length ≤ 65536)

include initial short

theorem partial_sum_exact {before after : List (List Byte)} {done left : List Byte}
    (place : chunks = before ++ (done ++ left) :: after) :
    ((addAll initialSum before).add done).sum.toNat =
      initialSum.toNat + wordSum false (before.flatten ++ done) := by
  have within : (before.flatten ++ done).length ≤ 65536 := by
    simp only [place, List.flatten_append, List.flatten_cons, List.length_append] at short ⊢
    omega
  rw [addAll_flatten, ← add_append]
  exact add_exact initial within

theorem filled_verifies {front back : List Byte} {others : List (List Byte)} (even : front.length % 2 = 0)
    (zeroed : chunks.flatten = front ++ ([0, 0] ++ back))
    (filled : others.flatten = front ++ (NetUnparser.u16 (addAll initialSum chunks).value ++ back)) :
    (addAll initialSum others).value = 0 := by
  have zeros : NetUnparser.u16 0 = [0, 0] := by decide
  have words := wordSum_field even (addAll initialSum chunks).value back
  rw [← filled, zeros, ← zeroed, addAll_flatten initialSum chunks] at words
  have length : others.flatten.length = chunks.flatten.length := by
    simp only [filled, zeroed, List.length_append, NetUnparser.u16_length, List.length_cons, List.length_nil]
  rw [addAll_flatten initialSum others]
  exact add_verifies initialSum words (wordSum_small initial (length ▸ short))

/-- However up to 65536 bytes are cut into chunks, the checksum is that of the concatenation, without an
overflow on the way, and filling it in makes the data verify. -/
theorem checksum_of_chunks : Checksummed initialSum chunks where
  value := by
    rw [addAll_flatten]
    exact value_onesSumFrom initial short
  loop := value_foldCarries _
  noOverflow := fun _ _ _ _ place => partial_sum_exact initial short place
  regrouped := by
    intro others same
    rw [addAll_flatten, addAll_flatten, same]
  verifies := fun _ _ _ even zeroed filled => filled_verifies initial short even zeroed filled

end Bounded

def oddChunks : List (List Byte) := [[0], [], [0, 255, 255], [18]]

theorem checksum_of_odd_chunks :
    Checksummed 7 oddChunks ∧ (addAll 7 oddChunks).value = 0xedf8 ∧
      (addAll 7 [[0xed, 0xf8, 255], [255, 18]]).value = 0 := by
  have checked : Checksummed 7 oddChunks := checksum_of_chunks (by decide) (by decide)
  have result : (addAll 7 oddChunks).value = 0xedf8 := checked.value.trans (by decide)
  have filled : [[0xed, 0xf8, 255], [255, 18]].flatten =
      [] ++ (NetUnparser.u16 (addAll 7 oddChunks).value ++ [255, 255, 18]) := by
    rw [result]
    decide
  exact ⟨checked, result, checked.verifies [] _ _ rfl rfl filled⟩

end Sponge.ChecksumChunks
