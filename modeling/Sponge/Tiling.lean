import Mathlib.Tactic

/-! Consecutive intervals laid out by a list of pieces with lengths. -/

namespace Sponge.Tiling

variable {α : Type*} (len : α → Nat)

def span (pieces : List α) : Nat := (pieces.map len).sum

/-- Each piece paired with the position at which it starts. -/
def number : Nat → List α → List (Nat × α)
  | _, [] => []
  | start, piece :: pieces => (start, piece) :: number (start + len piece) pieces

@[simp] theorem span_nil : span len [] = 0 := rfl

@[simp] theorem span_cons (piece : α) (pieces : List α) :
    span len (piece :: pieces) = len piece + span len pieces := by
  simp [span]

@[simp] theorem span_append (front back : List α) :
    span len (front ++ back) = span len front + span len back := by
  simp [span]

theorem number_append (start : Nat) (front back : List α) :
    number len start (front ++ back) =
      number len start front ++ number len (start + span len front) back := by
  induction front generalizing start with
  | nil => simp [number]
  | cons piece pieces ih =>
      simp only [List.cons_append, number, ih, span_cons, Nat.add_assoc]

theorem number_snoc (start : Nat) (pieces : List α) (last : α) :
    number len start (pieces ++ [last]) =
      number len start pieces ++ [(start + span len pieces, last)] := by
  rw [number_append]
  rfl

theorem number_snd (start : Nat) (pieces : List α) :
    (number len start pieces).map Prod.snd = pieces := by
  induction pieces generalizing start with
  | nil => rfl
  | cons piece pieces ih => simp [number, ih]

theorem number_map (start : Nat) (pieces : List α) (rename : α → α)
    (same : ∀ piece, len (rename piece) = len piece) :
    number len start (pieces.map rename) =
      (number len start pieces).map (fun entry => (entry.1, rename entry.2)) := by
  induction pieces generalizing start with
  | nil => rfl
  | cons piece pieces ih => simp [number, ih, same]

theorem mem_of_number {start position : Nat} {piece : α} {pieces : List α}
    (member : (position, piece) ∈ number len start pieces) : piece ∈ pieces := by
  rw [← number_snd len start pieces]
  exact List.mem_map.mpr ⟨_, member, rfl⟩

theorem number_of_mem (start : Nat) {piece : α} {pieces : List α} (member : piece ∈ pieces) :
    ∃ position, (position, piece) ∈ number len start pieces := by
  rw [← number_snd len start pieces, List.mem_map] at member
  obtain ⟨entry, numbered, rfl⟩ := member
  exact ⟨entry.1, numbered⟩

theorem number_bounds {start position : Nat} {piece : α} {pieces : List α}
    (member : (position, piece) ∈ number len start pieces) :
    start ≤ position ∧ position + len piece ≤ start + span len pieces := by
  induction pieces generalizing start with
  | nil => cases member
  | cons head tail ih =>
      rw [number, List.mem_cons] at member
      rcases member with same | later
      · cases same
        simp only [span_cons]
        omega
      · have bounds := ih later
        simp only [span_cons]
        omega

end Sponge.Tiling
