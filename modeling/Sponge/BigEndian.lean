import Mathlib.Tactic

/-! Unsigned numbers as byte strings of a fixed width, most significant byte first. -/

namespace Sponge.BigEndian

/-- The `width` low-order bytes of `n`. -/
def encode : Nat → Nat → List UInt8
  | 0, _ => []
  | width + 1, n => UInt8.ofNat (n / 256 ^ width) :: encode width n

def decode (bytes : List UInt8) : Nat :=
  bytes.foldl (fun value byte => value * 256 + byte.toNat) 0

@[simp] theorem encode_length (width n : Nat) : (encode width n).length = width := by
  induction width with
  | zero => rfl
  | succ width ih => simp [encode, ih]

theorem decode_foldl (start : Nat) (bytes : List UInt8) :
    bytes.foldl (fun value byte => value * 256 + byte.toNat) start =
      start * 256 ^ bytes.length + decode bytes := by
  induction bytes generalizing start with
  | nil => simp [decode]
  | cons byte rest ih =>
      rw [decode, List.foldl_cons, List.foldl_cons, ih, ih (0 * 256 + byte.toNat), List.length_cons]
      ring

theorem decode_cons (byte : UInt8) (rest : List UInt8) :
    decode (byte :: rest) = byte.toNat * 256 ^ rest.length + decode rest := by
  rw [decode, List.foldl_cons, decode_foldl, Nat.zero_mul, Nat.zero_add]

theorem decode_lt (bytes : List UInt8) : decode bytes < 256 ^ bytes.length := by
  induction bytes with
  | nil => simp [decode]
  | cons byte rest ih =>
      have digit : byte.toNat + 1 ≤ 256 := byte.toNat_lt
      calc decode (byte :: rest) = byte.toNat * 256 ^ rest.length + decode rest := decode_cons byte rest
        _ < byte.toNat * 256 ^ rest.length + 256 ^ rest.length := by omega
        _ = (byte.toNat + 1) * 256 ^ rest.length := by ring
        _ ≤ 256 * 256 ^ rest.length := Nat.mul_le_mul_right _ digit
        _ = 256 ^ (byte :: rest).length := by rw [List.length_cons, Nat.pow_succ, Nat.mul_comm]

theorem decode_encode (width n : Nat) : decode (encode width n) = n % 256 ^ width := by
  induction width with
  | zero => simp [encode, decode, Nat.mod_one]
  | succ width ih =>
      have split : n % 256 ^ (width + 1) = n % 256 ^ width + 256 ^ width * (n / 256 ^ width % 256) := by
        rw [Nat.pow_succ, Nat.mod_mul]
      rw [encode, decode_cons, ih, encode_length, UInt8.toNat_ofNat', split, Nat.add_comm, Nat.mul_comm]

theorem encode_add_mul (width n high : Nat) : encode width (high * 256 ^ width + n) = encode width n := by
  induction width generalizing high with
  | zero => rfl
  | succ width ih =>
      have shifted : high * 256 ^ (width + 1) + n = high * 256 * 256 ^ width + n := by ring
      rw [encode, encode, shifted, ih]
      congr 1
      rw [Nat.mul_comm (high * 256), Nat.mul_add_div (by positivity)]
      apply UInt8.toNat_inj.mp
      rw [UInt8.toNat_ofNat', UInt8.toNat_ofNat', Nat.mul_comm high 256, Nat.mul_add_mod]

theorem encode_decode (bytes : List UInt8) : encode bytes.length (decode bytes) = bytes := by
  induction bytes with
  | nil => rfl
  | cons byte rest ih =>
      have high : (byte.toNat * 256 ^ rest.length + decode rest) / 256 ^ rest.length = byte.toNat := by
        rw [Nat.mul_comm, Nat.mul_add_div (by positivity), Nat.div_eq_of_lt (decode_lt rest), Nat.add_zero]
      rw [List.length_cons, encode, decode_cons, high, UInt8.ofNat_toNat, encode_add_mul, ih]

theorem exists_encode (width : Nat) (bytes : List UInt8) (long : width ≤ bytes.length) :
    ∃ n < 256 ^ width, ∃ rest, bytes = encode width n ++ rest ∧ rest.length = bytes.length - width := by
  have length : (bytes.take width).length = width := by rw [List.length_take, Nat.min_eq_left long]
  refine ⟨decode (bytes.take width), ?_, bytes.drop width, ?_, List.length_drop⟩
  · have bound := decode_lt (bytes.take width)
    rwa [length] at bound
  · have whole := encode_decode (bytes.take width)
    rw [length] at whole
    rw [whole, List.take_append_drop]

end Sponge.BigEndian
