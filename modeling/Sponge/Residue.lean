import Mathlib.Tactic

/-! The representative of a residue class that lies closest to a checkpoint. -/

namespace Sponge.Residue

/-- The natural number congruent to `residue` that is closest to `checkpoint`, the larger one of
two that are equally close. -/
def nearest (modulus residue checkpoint : Nat) : Nat :=
  if checkpoint ≤ residue then residue
  else
    let low := (checkpoint - residue) / modulus * modulus + residue
    let high := low + modulus
    if high - checkpoint ≤ checkpoint - low then high else low

private theorem multiple_le (modulus : Nat) {first second : Nat} (below : first < second) :
    first * modulus + modulus ≤ second * modulus := by
  calc
    first * modulus + modulus = (first + 1) * modulus := by ring
    _ ≤ second * modulus := Nat.mul_le_mul_right modulus below

theorem nearest_of_close (modulus value checkpoint : Nat) (above : 2 * (value - checkpoint) < modulus)
    (below : 2 * (checkpoint - value) < modulus) :
    nearest modulus (value % modulus) checkpoint = value := by
  have positive : 0 < modulus := by omega
  have decomposition := Nat.div_add_mod' value modulus
  have small := Nat.mod_lt value positive
  generalize hr : value % modulus = residue at *
  generalize hq : value / modulus = quotient at *
  unfold nearest
  split
  case isTrue early =>
    rcases Nat.eq_zero_or_pos quotient with zero | nonzero
    · subst zero
      omega
    · have period := multiple_le modulus nonzero
      omega
  case isFalse late =>
    have position := Nat.div_add_mod' (checkpoint - residue) modulus
    have offset := Nat.mod_lt (checkpoint - residue) positive
    generalize (checkpoint - residue) % modulus = rest at *
    generalize (checkpoint - residue) / modulus = upper at *
    dsimp only
    rcases Nat.lt_trichotomy quotient upper with lower | same | higher
    · have period := multiple_le modulus lower
      omega
    · subst same
      split <;> omega
    · rcases Nat.lt_or_ge (upper + 1) quotient with far | near
      · have period := multiple_le modulus far
        have next := multiple_le modulus (Nat.lt_succ_self upper)
        simp only [Nat.succ_eq_add_one] at next
        omega
      · have adjacent : quotient = upper + 1 := by omega
        subst adjacent
        have next : (upper + 1) * modulus = upper * modulus + modulus := by ring
        split <;> omega

theorem nearest_mod (modulus residue checkpoint : Nat) (small : residue < modulus) :
    nearest modulus residue checkpoint % modulus = residue := by
  unfold nearest
  split
  · exact Nat.mod_eq_of_lt small
  · have low : ((checkpoint - residue) / modulus * modulus + residue) % modulus = residue := by
      rw [Nat.mul_add_mod', Nat.mod_eq_of_lt small]
    dsimp only
    split
    · rw [Nat.add_mod_right, low]
    · exact low

theorem nearest_closest (modulus residue checkpoint value : Nat) (small : residue < modulus)
    (congruent : value % modulus = residue) :
    |(nearest modulus residue checkpoint : Int) - checkpoint| ≤ |(value : Int) - checkpoint| := by
  have decomposition := Nat.div_add_mod' value modulus
  rw [congruent] at decomposition
  generalize value / modulus = quotient at decomposition
  unfold nearest
  split
  case isTrue early =>
    -- the class starts at or above the checkpoint
    rw [abs_of_nonneg (by omega), abs_of_nonneg (by omega)]
    omega
  case isFalse late =>
    have position := Nat.div_add_mod' (checkpoint - residue) modulus
    have offset := Nat.mod_lt (checkpoint - residue) (Nat.zero_lt_of_lt small)
    generalize (checkpoint - residue) % modulus = rest at *
    generalize (checkpoint - residue) / modulus = upper at *
    dsimp only
    -- members up to `upper` lie below the checkpoint, all others above it
    have sides : value ≤ upper * modulus + residue ∨ upper * modulus + residue + modulus ≤ value := by
      rcases Nat.lt_or_ge upper quotient with higher | lower
      · have period := multiple_le modulus higher
        omega
      · have period := Nat.mul_le_mul_right modulus lower
        omega
    rw [le_abs]
    split
    · rw [abs_of_nonneg (by push_cast; omega)]
      omega
    · rw [abs_of_nonpos (by push_cast; omega)]
      omega

end Sponge.Residue
