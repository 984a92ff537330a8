import Sponge.Residue

/-! Sequence numbers of `wrapping_integers.hh` and `wrapping_integers.cc`.

`unwrap` is the 64-bit code. Senders and receivers keep their absolute sequence numbers as natural
numbers here, so they use `unwrapAt`, the same computation without the 64-bit limit;
`unwrap_toNat_mod` says that both agree modulo `2 ^ 64`, and `unwrap_toNat` that they are equal while a
further period of `2 ^ 32` fits below `2 ^ 64`. -/

namespace Sponge

structure WrappingInt32 where
  rawValue : UInt32
  deriving DecidableEq, Repr

namespace WrappingInt32

def plus (a : WrappingInt32) (b : UInt32) : WrappingInt32 := ⟨a.rawValue + b⟩

def minus (a : WrappingInt32) (b : UInt32) : WrappingInt32 := a.plus (-b)

theorem minus_plus (a : WrappingInt32) (b : UInt32) : (a.minus b).plus b = a := by
  rw [minus, plus, plus, UInt32.add_assoc, UInt32.add_left_neg, UInt32.add_zero]

end WrappingInt32

def wrap (n : Nat) (isn : WrappingInt32) : WrappingInt32 := isn.plus (UInt32.ofNat n)

def unwrap (n isn : WrappingInt32) (checkpoint : UInt64) : UInt64 :=
  let lower32 : UInt64 := (n.rawValue - isn.rawValue).toUInt64
  let upper32 := (checkpoint - lower32) >>> 32
  if checkpoint ≤ lower32 then lower32
  else
    let low := (upper32 <<< 32) ||| lower32
    let high := ((upper32 + 1) <<< 32) ||| lower32
    if checkpoint - low ≥ high - checkpoint then high else low

/-- `unwrap` with a natural number as checkpoint. -/
def unwrapAt (n isn : WrappingInt32) (checkpoint : Nat) : Nat :=
  let lower32 := (n.rawValue - isn.rawValue).toNat
  let upper32 := (checkpoint - lower32) / 2 ^ 32
  if checkpoint ≤ lower32 then lower32
  else
    let low := upper32 * 2 ^ 32 + lower32
    let high := (upper32 + 1) * 2 ^ 32 + lower32
    if checkpoint - low ≥ high - checkpoint then high else low

theorem unwrapAt_eq_nearest (n isn : WrappingInt32) (checkpoint : Nat) :
    unwrapAt n isn checkpoint =
      Residue.nearest (2 ^ 32) (n.rawValue - isn.rawValue).toNat checkpoint := by
  unfold unwrapAt Residue.nearest
  have next : ∀ upper lower : Nat,
      (upper + 1) * 2 ^ 32 + lower = upper * 2 ^ 32 + lower + 2 ^ 32 := by
    intro upper lower
    ring
  simp only [next, ge_iff_le]

private theorem shifted_or (upper lower : UInt64) (small : lower.toNat < 2 ^ 32) :
    ((upper <<< 32) ||| lower).toNat = (upper.toNat * 2 ^ 32 + lower.toNat) % 2 ^ 64 := by
  have shift : (32 : UInt64).toNat % 64 = 32 := by decide
  have shifted : (upper <<< 32).toNat = (upper.toNat % 2 ^ 32) <<< 32 := by
    rw [UInt64.toNat_shiftLeft, shift, Nat.shiftLeft_eq, Nat.shiftLeft_eq]
    omega
  rw [UInt64.toNat_or, shifted, ← Nat.shiftLeft_add_eq_or_of_lt small, Nat.shiftLeft_eq]
  omega

theorem unwrap_toNat_mod (n isn : WrappingInt32) (checkpoint : UInt64) :
    (unwrap n isn checkpoint).toNat = unwrapAt n isn checkpoint.toNat % 2 ^ 64 := by
  -- modulo `2 ^ 64` both computations agree everywhere: near the top `high` wraps around, and so does its
  -- distance to the checkpoint
  have small : (n.rawValue - isn.rawValue).toUInt64.toNat < 2 ^ 32 := by
    rw [UInt32.toNat_toUInt64]
    exact UInt32.toNat_lt _
  unfold unwrap unwrapAt
  rw [← UInt32.toNat_toUInt64]
  generalize (n.rawValue - isn.rawValue).toUInt64 = lower at *
  by_cases early : checkpoint ≤ lower
  · have order : checkpoint.toNat ≤ lower.toNat := UInt64.le_iff_toNat_le.mp early
    simp only [early, order, ↓reduceIte]
    exact (Nat.mod_eq_of_lt lower.toNat_lt).symm
  · have order : ¬ checkpoint.toNat ≤ lower.toNat := fun le => early (UInt64.le_iff_toNat_le.mpr le)
    have limit := checkpoint.toNat_lt
    simp only [early, order, ↓reduceIte]
    have upper : ((checkpoint - lower) >>> 32).toNat = (checkpoint.toNat - lower.toNat) / 2 ^ 32 := by
      have shift : (32 : UInt64).toNat % 64 = 32 := by decide
      rw [UInt64.toNat_shiftRight, shift, Nat.shiftRight_eq_div_pow,
        UInt64.toNat_sub_of_le _ _ (UInt64.le_iff_toNat_le.mpr (by omega))]
    have increment : ((checkpoint - lower) >>> 32 + 1).toNat =
        (checkpoint.toNat - lower.toNat) / 2 ^ 32 + 1 := by
      rw [UInt64.toNat_add, upper, UInt64.toNat_one, Nat.mod_eq_of_lt (by omega)]
    have low := shifted_or ((checkpoint - lower) >>> 32) lower small
    have high := shifted_or ((checkpoint - lower) >>> 32 + 1) lower small
    rw [upper] at low
    rw [increment] at high
    generalize ((checkpoint - lower) >>> 32) <<< 32 ||| lower = lowWord at *
    generalize ((checkpoint - lower) >>> 32 + 1) <<< 32 ||| lower = highWord at *
    have below : (checkpoint - lowWord).toNat =
        checkpoint.toNat - ((checkpoint.toNat - lower.toNat) / 2 ^ 32 * 2 ^ 32 + lower.toNat) := by
      rw [UInt64.toNat_sub, low]
      omega
    have above : (highWord - checkpoint).toNat =
        ((checkpoint.toNat - lower.toNat) / 2 ^ 32 + 1) * 2 ^ 32 + lower.toNat - checkpoint.toNat := by
      rw [UInt64.toNat_sub, high]
      omega
    simp only [ge_iff_le, UInt64.le_iff_toNat_le, below, above]
    split
    · exact high
    · exact low

@[simp] theorem wrap_zero (isn : WrappingInt32) : wrap 0 isn = isn := by
  simp [wrap, WrappingInt32.plus]

theorem wrap_plus (n : Nat) (isn : WrappingInt32) (k : Nat) :
    (wrap n isn).plus (UInt32.ofNat k) = wrap (n + k) isn := by
  simp only [wrap, WrappingInt32.plus, UInt32.ofNat_add, WrappingInt32.mk.injEq]
  ac_rfl

theorem wrap_offset (n : Nat) (isn : WrappingInt32) :
    ((wrap n isn).rawValue - isn.rawValue).toNat = n % 2 ^ 32 := by
  simp only [wrap, WrappingInt32.plus]
  rw [UInt32.add_comm, UInt32.add_sub_cancel]
  exact UInt32.toNat_ofNat

theorem unwrapAt_wrap (n : Nat) (isn : WrappingInt32) (checkpoint : Nat)
    (above : n < checkpoint + 2 ^ 31) (below : checkpoint < n + 2 ^ 31) :
    unwrapAt (wrap n isn) isn checkpoint = n := by
  rw [unwrapAt_eq_nearest, wrap_offset]
  exact Residue.nearest_of_close _ _ _ (by omega) (by omega)

/-- The 64-bit code recovers a sequence number within half a period of the checkpoint over the whole
range, at both ends included. -/
theorem unwrap_wrap_roundtrip (n : UInt64) (isn : WrappingInt32) (checkpoint : UInt64)
    (close : |(n.toNat : Int) - checkpoint.toNat| < 2 ^ 31) :
    unwrap (wrap n.toNat isn) isn checkpoint = n := by
  rw [abs_lt] at close
  apply UInt64.toNat_inj.mp
  calc
    (unwrap (wrap n.toNat isn) isn checkpoint).toNat =
        unwrapAt (wrap n.toNat isn) isn checkpoint.toNat % 2 ^ 64 := unwrap_toNat_mod _ _ _
    _ = n.toNat % 2 ^ 64 := by
      rw [unwrapAt_wrap n.toNat isn checkpoint.toNat (by omega) (by omega)]
    _ = n.toNat := Nat.mod_eq_of_lt n.toNat_lt

theorem roundtrip_at_the_top :
    unwrap (wrap 0xFFFFFFFFFFFFFFFF ⟨17⟩) ⟨17⟩ 0xFFFFFFFF80000000 = 0xFFFFFFFFFFFFFFFF :=
  unwrap_wrap_roundtrip 0xFFFFFFFFFFFFFFFF ⟨17⟩ 0xFFFFFFFF80000000 (by decide)

theorem wrap_eq_iff (x : Nat) (n isn : WrappingInt32) :
    wrap x isn = n ↔ x % 2 ^ 32 = (n.rawValue - isn.rawValue).toNat := by
  constructor
  · rintro rfl
    exact (wrap_offset x isn).symm
  · intro offset
    have word : UInt32.ofNat x = n.rawValue - isn.rawValue := by
      apply UInt32.toNat_inj.mp
      rw [← offset]
      exact UInt32.toNat_ofNat
    rw [wrap, WrappingInt32.plus, word, UInt32.add_comm, UInt32.sub_add_cancel]

theorem unwrapAt_lt {n isn : WrappingInt32} {checkpoint : Nat}
    (fits : checkpoint < 2 ^ 64 - 2 ^ 31 + (n.rawValue - isn.rawValue).toNat)
    (limit : checkpoint < 2 ^ 64) : unwrapAt n isn checkpoint < 2 ^ 64 := by
  have small := (n.rawValue - isn.rawValue).toNat_lt
  unfold unwrapAt
  dsimp only
  split
  · omega
  · split <;> omega

theorem unwrapAt_past {n isn : WrappingInt32} {checkpoint : Nat}
    (past : 2 ^ 64 - 2 ^ 31 + (n.rawValue - isn.rawValue).toNat ≤ checkpoint)
    (limit : checkpoint < 2 ^ 64) :
    unwrapAt n isn checkpoint = 2 ^ 64 + (n.rawValue - isn.rawValue).toNat := by
  have small := (n.rawValue - isn.rawValue).toNat_lt
  unfold unwrapAt
  dsimp only
  rw [if_neg (by omega), if_pos (by omega)]
  omega

/-- `unwrap` returns the closest 64-bit match exactly when the checkpoint lies less than half a period
above the last number of the class. -/
theorem unwrap_closest_iff (n isn : WrappingInt32) (checkpoint : UInt64) :
    (wrap (unwrap n isn checkpoint).toNat isn = n ∧ ∀ x : UInt64, wrap x.toNat isn = n →
        |((unwrap n isn checkpoint).toNat : Int) - checkpoint.toNat| ≤
          |(x.toNat : Int) - checkpoint.toNat|) ↔
      checkpoint.toNat < 2 ^ 64 - 2 ^ 31 + (n.rawValue - isn.rawValue).toNat := by
  have limit := checkpoint.toNat_lt
  have small := (n.rawValue - isn.rawValue).toNat_lt
  rw [unwrap_toNat_mod]
  constructor
  · intro matching
    by_contra past
    have wrapped := unwrapAt_past (Nat.not_lt.mp past) limit
    -- the last number of the class, which the code skips for one that does not exist
    have top : (UInt64.ofNat (2 ^ 64 - 2 ^ 32 + (n.rawValue - isn.rawValue).toNat)).toNat =
        2 ^ 64 - 2 ^ 32 + (n.rawValue - isn.rawValue).toNat :=
      UInt64.toNat_ofNat_of_lt (show _ < 2 ^ 64 by omega)
    have closer := matching.2 _ ((wrap_eq_iff _ n isn).mpr (by rw [top]; omega))
    rw [top, wrapped, abs_of_nonpos (by omega), abs_of_nonpos (by omega)] at closer
    omega
  · intro fits
    rw [Nat.mod_eq_of_lt (unwrapAt_lt fits limit), unwrapAt_eq_nearest]
    constructor
    · rw [wrap_eq_iff]
      exact Residue.nearest_mod _ _ _ small
    · intro x same
      exact Residue.nearest_closest _ _ _ _ small ((wrap_eq_iff _ _ _).mp same)

/-- One below `2 ^ 64` the number `2 ^ 64 - 2 ^ 32` is the closest one that wraps to the ISN, and
`unwrap` returns zero. -/
theorem closest_missed_at_the_top :
    ¬ (wrap (unwrap ⟨0⟩ ⟨0⟩ 0xFFFFFFFFFFFFFFFF).toNat ⟨0⟩ = ⟨0⟩ ∧
      ∀ x : UInt64, wrap x.toNat ⟨0⟩ = ⟨0⟩ →
        |((unwrap ⟨0⟩ ⟨0⟩ 0xFFFFFFFFFFFFFFFF).toNat : Int) - (0xFFFFFFFFFFFFFFFF : UInt64).toNat| ≤
          |(x.toNat : Int) - (0xFFFFFFFFFFFFFFFF : UInt64).toNat|) := by
  intro matching
  exact absurd (matching.2 0xFFFFFFFF00000000 (by decide)) (by decide)

end Sponge
