import Mathlib.Tactic

/-! Strings kept in pieces. `bytes` is what a piece shows and `trim` shortens a piece from the front; the
loop below takes a prefix off the whole list, piece by piece. -/

namespace Sponge.Pieces

variable {Piece α ε : Type*}

/-- Take `n` elements off the front. A piece that is used up is dropped and the next one goes on with what
is left of `n`; at the end of the list the loop fails and has dropped everything. -/
def removeFront (bytes : Piece → List α) (trim : Nat → Piece → Except ε Piece) (fail : ε) :
    Nat → List Piece → Except ε Unit × List Piece
  | 0, pieces => (.ok (), pieces)
  | _ + 1, [] => (.error fail, [])
  | n + 1, piece :: rest =>
      if n + 1 < (bytes piece).length then
        match trim (n + 1) piece with
        | .ok shorter => (.ok (), shorter :: rest)
        | .error message => (.error message, piece :: rest)
      else removeFront bytes trim fail (n + 1 - (bytes piece).length) rest

def Trims (bytes : Piece → List α) (trim : Nat → Piece → Except ε Piece) : Prop :=
  ∀ n piece, n ≤ (bytes piece).length →
    ∃ shorter, trim n piece = .ok shorter ∧ bytes shorter = (bytes piece).drop n

variable {bytes : Piece → List α} {trim : Nat → Piece → Except ε Piece} (fail : ε)

theorem removeFront_ok (trims : Trims bytes trim) {n : Nat} {pieces : List Piece}
    (within : n ≤ (pieces.flatMap bytes).length) :
    ∃ rest, removeFront bytes trim fail n pieces = (.ok (), rest) ∧
      rest.flatMap bytes = (pieces.flatMap bytes).drop n := by
  induction pieces generalizing n with
  | nil =>
      cases n with
      | zero => exact ⟨[], rfl, rfl⟩
      | succ n => exact absurd within (Nat.not_succ_le_zero n)
  | cons piece rest ih =>
      cases n with
      | zero => exact ⟨piece :: rest, rfl, rfl⟩
      | succ n =>
          rw [List.flatMap_cons, List.length_append] at within
          by_cases inside : n + 1 < (bytes piece).length
          · obtain ⟨shorter, trimmed, shows⟩ := trims (n + 1) piece inside.le
            refine ⟨shorter :: rest, ?_, ?_⟩
            · rw [removeFront, if_pos inside, trimmed]
            · rw [List.flatMap_cons, List.flatMap_cons, shows, List.drop_append_of_le_length inside.le]
          · -- the whole piece goes, also an empty one
            have used : (bytes piece).length ≤ n + 1 := Nat.le_of_not_lt inside
            obtain ⟨left, removed, shows⟩ := ih (Nat.sub_le_iff_le_add'.mpr within)
            refine ⟨left, ?_, ?_⟩
            · rw [removeFront, if_neg inside, removed]
            · rw [shows, List.flatMap_cons, List.drop_append, List.drop_eq_nil_of_le used, List.nil_append]

theorem removeFront_fails {n : Nat} {pieces : List Piece}
    (beyond : (pieces.flatMap bytes).length < n) :
    removeFront bytes trim fail n pieces = (.error fail, []) := by
  induction pieces generalizing n with
  | nil =>
      cases n with
      | zero => exact absurd beyond (Nat.not_lt_zero _)
      | succ n => rfl
  | cons piece rest ih =>
      rw [List.flatMap_cons, List.length_append] at beyond
      cases n with
      | zero => exact absurd beyond (Nat.not_lt_zero _)
      | succ n =>
          rw [removeFront, if_neg (by omega)]
          exact ih (by omega)

end Sponge.Pieces
