import Mathlib.Tactic

/-! One's complement addition of 16-bit words: sums are folded by adding the carry back in, so they count
modulo `2 ^ 16 - 1` with two zeros. -/

namespace Sponge.OnesComplement

/-- Add the carries back in until sixteen bits are left. -/
def fold (sum : Nat) : Nat :=
  if 0xffff < sum then fold (sum / 2 ^ 16 + sum % 2 ^ 16) else sum
termination_by sum

theorem fold_eq (sum : Nat) : fold sum = if sum = 0 then 0 else (sum - 1) % 0xffff + 1 := by
  -- only an empty sum folds to zero; every other residue has its positive representative
  induction sum using Nat.strong_induction_on with
  | h sum ih =>
      rw [fold]
      split
      case isTrue large =>
        have smaller : sum / 2 ^ 16 + sum % 2 ^ 16 < sum := by omega
        rw [ih _ smaller, if_neg (by omega), if_neg (by omega)]
        omega
      case isFalse small =>
        split
        case isTrue zero => exact zero
        case isFalse => omega

theorem fold_le (sum : Nat) : fold sum ≤ 0xffff := by
  rw [fold_eq]
  split <;> omega

theorem fold_mul (count : Nat) : fold (0xffff * (count + 1)) = 0xffff := by
  have last : 0xffff * (count + 1) - 1 = 0xfffe + 0xffff * count := by omega
  rw [fold_eq, if_neg (by omega), last, Nat.add_mul_mod_self_left]

theorem fold_add_complement (sum : Nat) : fold (sum + (0xffff - fold sum)) = 0xffff := by
  obtain ⟨count, multiple⟩ : ∃ count, sum + (0xffff - fold sum) = 0xffff * (count + 1) := by
    rw [fold_eq]
    split
    case isTrue zero => exact ⟨0, by omega⟩
    case isFalse positive =>
      have parts := Nat.div_add_mod (sum - 1) 0xffff
      have residue := Nat.mod_lt (sum - 1) (show 0 < 0xffff by decide)
      exact ⟨(sum - 1) / 0xffff, by omega⟩
  rw [multiple, fold_mul]

theorem fold_add_fold (sum more : Nat) : fold (fold sum + more) = fold (sum + more) := by
  simp only [fold_eq]
  split_ifs <;> omega

theorem complement_unique {sum word : Nat} (positive : 0 < sum) (word_lt : word < 0xffff)
    (ones : fold (sum + word) = 0xffff) : word = 0xffff - fold sum := by
  rw [fold_eq, if_neg (by omega)] at ones
  rw [fold_eq, if_neg (by omega)]
  omega

def carryAdd (x y : Nat) : Nat := if 0xffff < x + y then x + y - 0xffff else x + y

/-- The big-endian words of a byte string; an odd last byte is a high-order one. -/
def wordsOf : List UInt8 → List Nat
  | high :: low :: rest => (high.toNat * 256 + low.toNat) :: wordsOf rest
  | [high] => [high.toNat * 256]
  | [] => []

def onesSum (bytes : List UInt8) : Nat := (wordsOf bytes).foldl carryAdd 0

theorem wordsOf_le (bytes : List UInt8) : ∀ word ∈ wordsOf bytes, word ≤ 0xffff := by
  fun_induction wordsOf bytes with
  | case1 high low rest ih =>
      have digits : high.toNat < 256 ∧ low.toNat < 256 := ⟨high.toNat_lt, low.toNat_lt⟩
      exact List.forall_mem_cons.mpr ⟨by omega, ih⟩
  | case2 high =>
      have digit : high.toNat < 256 := high.toNat_lt
      exact List.forall_mem_singleton.mpr (by omega)
  | case3 => exact fun _ member => absurd member List.not_mem_nil

theorem carryAdd_eq {x y : Nat} (x_le : x ≤ 0xffff) (y_le : y ≤ 0xffff) : carryAdd x y = fold (x + y) := by
  rw [carryAdd, fold_eq]
  split_ifs <;> omega

theorem foldl_carryAdd {words : List Nat} (small : ∀ word ∈ words, word ≤ 0xffff) (start : Nat) :
    words.foldl carryAdd (fold start) = fold (start + words.sum) := by
  induction words generalizing start with
  | nil => simp
  | cons word rest ih =>
      obtain ⟨here, later⟩ := List.forall_mem_cons.mp small
      rw [List.foldl_cons, carryAdd_eq (fold_le start) here, fold_add_fold, ih later, List.sum_cons,
        Nat.add_assoc]

/-- The sum of the big-endian words of a byte string; with `odd` the first byte is a low-order one. -/
def wordSum : Bool → List UInt8 → Nat
  | _, [] => 0
  | odd, byte :: rest => (if odd then byte.toNat else byte.toNat * 256) + wordSum (!odd) rest

theorem wordSum_append (odd : Bool) (front back : List UInt8) :
    wordSum odd (front ++ back) =
      wordSum odd front + wordSum (odd ^^ decide (front.length % 2 = 1)) back := by
  induction front generalizing odd with
  | nil => simp [wordSum]
  | cons byte rest ih =>
      have parity : ((!odd) ^^ decide (rest.length % 2 = 1)) =
          (odd ^^ decide ((byte :: rest).length % 2 = 1)) := by
        rw [List.length_cons]
        rcases Nat.mod_two_eq_zero_or_one rest.length with even | uneven
        · have next : (rest.length + 1) % 2 = 1 := by omega
          cases odd <;> simp [even, next]
        · have next : (rest.length + 1) % 2 = 0 := by omega
          cases odd <;> simp [uneven, next]
      rw [List.cons_append, wordSum, wordSum, ih, parity, Nat.add_assoc]

theorem wordSum_append_even (odd : Bool) {front : List UInt8} (even : front.length % 2 = 0)
    (back : List UInt8) : wordSum odd (front ++ back) = wordSum odd front + wordSum odd back := by
  rw [wordSum_append, even]
  simp

theorem sum_wordsOf (bytes : List UInt8) : (wordsOf bytes).sum = wordSum false bytes := by
  fun_induction wordsOf bytes with
  | case1 high low rest ih =>
      simp [wordSum, ih]
      omega
  | case2 high => simp [wordSum]
  | case3 => rfl

theorem onesSum_eq (bytes : List UInt8) : onesSum bytes = fold (wordSum false bytes) := by
  have zero : fold 0 = 0 := by rw [fold_eq, if_pos rfl]
  have folded := foldl_carryAdd (wordsOf_le bytes) 0
  rwa [zero, Nat.zero_add, sum_wordsOf] at folded

/-- The one's complement sum of an initial value, as its two halves, and the words of a byte string. -/
def onesSumFrom (initial : Nat) (bytes : List UInt8) : Nat :=
  (initial / 2 ^ 16 :: initial % 2 ^ 16 :: wordsOf bytes).foldl carryAdd 0

theorem fold_halves (sum : Nat) : fold (sum / 2 ^ 16 + sum % 2 ^ 16) = fold sum := by
  rw [fold_eq, fold_eq]
  split_ifs <;> omega

theorem onesSumFrom_eq {initial : Nat} (initial_lt : initial < 2 ^ 32) (bytes : List UInt8) :
    onesSumFrom initial bytes = fold (initial + wordSum false bytes) := by
  have zero : fold 0 = 0 := by rw [fold_eq, if_pos rfl]
  have halves : ∀ word ∈ initial / 2 ^ 16 :: initial % 2 ^ 16 :: wordsOf bytes, word ≤ 0xffff := by
    refine List.forall_mem_cons.mpr ⟨by omega, List.forall_mem_cons.mpr ⟨by omega, wordsOf_le bytes⟩⟩
  calc onesSumFrom initial bytes
      = (initial / 2 ^ 16 :: initial % 2 ^ 16 :: wordsOf bytes).foldl carryAdd (fold 0) := by
        rw [zero, onesSumFrom]
    _ = fold (initial / 2 ^ 16 + initial % 2 ^ 16 + wordSum false bytes) := by
        rw [foldl_carryAdd halves, List.sum_cons, List.sum_cons, sum_wordsOf, Nat.zero_add,
          Nat.add_assoc]
    _ = fold (fold (initial / 2 ^ 16 + initial % 2 ^ 16) + wordSum false bytes) :=
        (fold_add_fold _ _).symm
    _ = fold (initial + wordSum false bytes) := by rw [fold_halves, fold_add_fold]

theorem wordSum_le (odd : Bool) (bytes : List UInt8) : wordSum odd bytes ≤ 0xff00 * bytes.length := by
  induction bytes generalizing odd with
  | nil => simp [wordSum]
  | cons byte rest ih =>
      have digit : byte.toNat < 256 := byte.toNat_lt
      have later := ih (!odd)
      rw [wordSum, List.length_cons]
      split <;> omega

end Sponge.OnesComplement
