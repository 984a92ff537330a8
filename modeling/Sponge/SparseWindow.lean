import Mathlib.Tactic
import Mathlib.Data.Finset.Card
import Mathlib.Order.Interval.Finset.Nat

/-! A window of optional cells that slides over a sequence of positions.

Cell `k` of the list stands for position `base + k`. The window is drained from the front:
each filled front cell is taken out and an empty cell enters at the back. -/

namespace Sponge.SparseWindow

variable {α : Type*}

/-- The content of an absolute position when the first cell is at `base`. -/
def lookup (base : Nat) (cells : List (Option α)) (position : Nat) : Option α :=
  if base ≤ position then cells[position - base]?.join else none

def stored (cells : List (Option α)) : Nat := cells.countP Option.isSome

/-- Take filled cells from the front, at most `room` of them. -/
def drain : Nat → List (Option α) → List α × List (Option α)
  | room + 1, some x :: rest =>
      let (taken, left) := drain room (rest ++ [none])
      (x :: taken, left)
  | _, cells => ([], cells)

theorem lookup_below {base position : Nat} (cells : List (Option α)) (below : position < base) :
    lookup base cells position = none := by
  simp [lookup, Nat.not_le.mpr below]

theorem lookup_at (base offset : Nat) (cells : List (Option α)) :
    lookup base cells (base + offset) = cells[offset]?.join := by
  simp [lookup]

theorem lookup_set (base offset : Nat) (cells : List (Option α)) (x : α) (bound : offset < cells.length)
    (position : Nat) :
    lookup base (cells.set offset (some x)) position =
      if position = base + offset then some x else lookup base cells position := by
  unfold lookup
  rcases Nat.lt_or_ge position base with below | above
  · have other : position ≠ base + offset := by omega
    simp [Nat.not_le.mpr below, other]
  · by_cases same : position = base + offset
    · subst same
      simp [bound]
    · have different : offset ≠ position - base := by omega
      simp [above, same, List.getElem?_set_ne different]

theorem lookup_cons (base : Nat) (head : Option α) (tail : List (Option α)) (position : Nat) :
    lookup base (head :: tail) position =
      if position = base then head else lookup (base + 1) tail position := by
  rcases Nat.lt_trichotomy position base with below | same | above
  · have other : position ≠ base := by omega
    simp [lookup_below _ below, lookup_below _ (Nat.lt_succ_of_lt below), other]
  · subst same
    have front := lookup_at position 0 (head :: tail)
    simpa using front
  · obtain ⟨offset, rfl⟩ : ∃ offset, position = base + 1 + offset :=
      ⟨position - (base + 1), by omega⟩
    have other : base + 1 + offset ≠ base := by omega
    have shifted : base + 1 + offset = base + (offset + 1) := by omega
    rw [if_neg other, lookup_at, shifted, lookup_at, List.getElem?_cons_succ]

theorem lookup_snoc_none (base : Nat) (cells : List (Option α)) (position : Nat) :
    lookup base (cells ++ [none]) position = lookup base cells position := by
  unfold lookup
  split
  case isFalse => rfl
  case isTrue =>
    rcases Nat.lt_trichotomy (position - base) cells.length with inside | last | outside
    · rw [List.getElem?_append_left inside]
    · rw [last]
      simp
    · rw [List.getElem?_eq_none (by simp; omega), List.getElem?_eq_none (by omega)]

theorem lookup_advance (base : Nat) (front : Option α) (rest : List (Option α)) (position : Nat) :
    lookup (base + 1) (rest ++ [none]) position =
      if position = base then none else lookup base (front :: rest) position := by
  rw [lookup_snoc_none, lookup_cons]
  split
  case isTrue same => rw [same, lookup_below _ (Nat.lt_succ_self base)]
  case isFalse => rfl

theorem stored_set (cells : List (Option α)) (offset : Nat) (x : α) (bound : offset < cells.length) :
    stored (cells.set offset (some x)) =
      stored cells + if (cells[offset]?.join).isSome then 0 else 1 := by
  induction cells generalizing offset with
  | nil => simp at bound
  | cons head tail ih =>
      cases offset with
      | zero => cases head <;> simp [stored]
      | succ offset =>
          have inner := ih offset (by simpa using bound)
          simp only [stored, List.set_cons_succ, List.countP_cons, List.getElem?_cons_succ] at inner ⊢
          rw [inner]
          omega

theorem stored_eq_card (base limit : Nat) (cells : List (Option α))
    (bounded : ∀ position, (lookup base cells position).isSome → position < limit) :
    ((Finset.range limit).filter (fun position => (lookup base cells position).isSome)).card =
      stored cells := by
  induction cells generalizing base with
  | nil => simp [stored, lookup]
  | cons head tail ih =>
      have tailBounded : ∀ position, (lookup (base + 1) tail position).isSome → position < limit := by
        intro position filled
        apply bounded
        rw [lookup_cons, if_neg, filled]
        rintro rfl
        simp [lookup_below _ (Nat.lt_succ_self position)] at filled
      have tailCard := ih (base + 1) tailBounded
      cases head with
      | none =>
          have same : ∀ position, lookup base (none :: tail) position = lookup (base + 1) tail position := by
            intro position
            rw [lookup_cons]
            split
            case isTrue at_base => rw [at_base, lookup_below _ (Nat.lt_succ_self base)]
            case isFalse => rfl
          simp only [same]
          rw [tailCard]
          simp [stored]
      | some x =>
          have inside : base < limit := bounded base (by simp [lookup_cons])
          have split : (Finset.range limit).filter
              (fun position => (lookup base (some x :: tail) position).isSome) =
              insert base ((Finset.range limit).filter
                (fun position => (lookup (base + 1) tail position).isSome)) := by
            ext position
            simp only [Finset.mem_filter, Finset.mem_range, Finset.mem_insert, lookup_cons]
            by_cases at_base : position = base
            · simp [at_base, inside]
            · simp [at_base]
          have fresh : base ∉ (Finset.range limit).filter
              (fun position => (lookup (base + 1) tail position).isSome) := by
            simp [lookup_below _ (Nat.lt_succ_self base)]
          rw [split, Finset.card_insert_of_notMem fresh, tailCard]
          simp [stored]

theorem drain_room (room : Nat) (cells : List (Option α)) : (drain room cells).1.length ≤ room := by
  fun_induction drain room cells with
  | case1 room x rest taken left equation ih =>
      rw [equation] at ih
      simpa using ih
  | case2 => simp

theorem drain_stored (room : Nat) (cells : List (Option α)) :
    stored cells = (drain room cells).1.length + stored (drain room cells).2 := by
  fun_induction drain room cells with
  | case1 room x rest taken left equation ih =>
      rw [equation] at ih
      simp only [stored, List.countP_append, List.countP_cons, List.countP_nil] at ih ⊢
      simp only [List.length_cons, Option.isSome_some, Option.isSome_none] at ih ⊢
      simp at ih ⊢
      omega
  | case2 => simp

theorem lookup_of_stored_zero {cells : List (Option α)} (empty : stored cells = 0) (base position : Nat) :
    (lookup base cells position).isSome = false := by
  unfold lookup
  split
  case isFalse => rfl
  case isTrue =>
    cases cell : cells[position - base]? with
    | none => rfl
    | some entry =>
        have absent := List.countP_eq_zero.mp empty entry (List.mem_of_getElem? cell)
        simpa using absent

theorem lookup_drain (room base : Nat) (cells : List (Option α)) (position : Nat) :
    (lookup base cells position).isSome = true ↔
      (base ≤ position ∧ position < base + (drain room cells).1.length) ∨
        (lookup (base + (drain room cells).1.length) (drain room cells).2 position).isSome = true := by
  fun_induction drain room cells generalizing base with
  | case1 room x rest taken left equation ih =>
      have inner := ih (base + 1)
      rw [equation, lookup_advance base (some x)] at inner
      simp only [List.length_cons]
      have shifted : base + (taken.length + 1) = base + 1 + taken.length := by omega
      rw [shifted]
      by_cases front : position = base
      · subst front
        simp only [lookup_cons, if_true, Option.isSome_some, true_iff]
        left
        omega
      · rw [if_neg front] at inner
        rw [inner]
        have same : (base + 1 ≤ position ∧ position < base + 1 + taken.length) ↔
            (base ≤ position ∧ position < base + 1 + taken.length) := by omega
        rw [same]
  | case2 => simp

end Sponge.SparseWindow
