import Sponge.SparseWindow

/-! What reassembly is for, stated on positions instead of buffers.

An assembly is the sequence written so far, the number of elements already read and a partial map
from the positions still waiting. The map cannot leave the window that the read side opens. -/

namespace Sponge

/-- A sequence under reassembly whose waiting positions lie in the window of `capacity` places
after the elements already read. -/
@[ext] structure Assembly (capacity : Nat) (α : Type*) where
  written : List α
  read : Nat
  pending : Nat → Option α
  window : ∀ position, (pending position).isSome → written.length ≤ position ∧ position < read + capacity

namespace Assembly

variable {α : Type*} {capacity : Nat}

def empty (capacity : Nat) (α : Type*) : Assembly capacity α where
  written := []
  read := 0
  pending := fun _ => none
  window := by simp

def waiting (a : Assembly capacity α) : Finset Nat :=
  (Finset.range (a.read + capacity)).filter (fun position => (a.pending position).isSome)

/-- Set every position of `data` that lies in the window, overwriting what waited there. -/
def put (a : Assembly capacity α) (data : List α) (index : Nat) : Assembly capacity α where
  written := a.written
  read := a.read
  pending := fun position =>
    if index ≤ position ∧ position < index + data.length ∧
        a.written.length ≤ position ∧ position < a.read + capacity
    then data[position - index]? else a.pending position
  window := by
    intro position filled
    split at filled
    case isTrue inside => exact inside.2.2
    case isFalse => exact a.window position filled

def move (a : Assembly capacity α) (x : α) : Assembly capacity α where
  written := a.written ++ [x]
  read := a.read
  pending := fun position => if position = a.written.length then none else a.pending position
  window := by
    intro position filled
    split at filled
    case isTrue => cases filled
    case isFalse other =>
      have bounds := a.window position filled
      simp only [List.length_append, List.length_singleton]
      omega

/-- Move elements while the next position waits, at most `fuel` times. -/
def settle : Nat → Assembly capacity α → Assembly capacity α
  | 0, a => a
  | fuel + 1, a =>
      match a.pending a.written.length with
      | none => a
      | some x => settle fuel (a.move x)

def push (a : Assembly capacity α) (data : List α) (index : Nat) : Assembly capacity α :=
  (a.put data index).settle (a.read + capacity - a.written.length)

def consume (a : Assembly capacity α) (count : Nat) : Assembly capacity α where
  written := a.written
  read := a.read + count
  pending := a.pending
  window := by
    intro position filled
    have bounds := a.window position filled
    omega

theorem settle_read (fuel : Nat) (a : Assembly capacity α) : (a.settle fuel).read = a.read := by
  induction fuel generalizing a with
  | zero => rfl
  | succ fuel ih =>
      rw [settle]
      split
      · rfl
      · exact ih _

theorem settle_stops (fuel : Nat) (a : Assembly capacity α)
    (enough : a.read + capacity ≤ a.written.length + fuel) :
    (a.settle fuel).pending (a.settle fuel).written.length = none := by
  -- the fuel of `push` is enough: it stops only when the next position does not wait
  induction fuel generalizing a with
  | zero =>
      rw [settle]
      cases filled : a.pending a.written.length with
      | none => rfl
      | some x =>
          have bounds := a.window a.written.length (by simp [filled])
          omega
  | succ fuel ih =>
      rw [settle]
      split
      case h_1 stopped => exact stopped
      case h_2 x _ =>
        apply ih
        simp only [move, List.length_append, List.length_singleton]
        omega

theorem push_stops (a : Assembly capacity α) (data : List α) (index : Nat) :
    (a.push data index).pending (a.push data index).written.length = none := by
  apply settle_stops
  simp only [put]
  omega

/-- Draining a window of cells is settling the assembly that the cells represent. -/
theorem settle_drain (room : Nat) (a : Assembly capacity α) (cells : List (Option α))
    (represents : ∀ position, a.pending position =
      SparseWindow.lookup a.written.length cells position) :
    (a.settle room).written = a.written ++ (SparseWindow.drain room cells).1 ∧
      ∀ position, (a.settle room).pending position =
        SparseWindow.lookup (a.written.length + (SparseWindow.drain room cells).1.length)
          (SparseWindow.drain room cells).2 position := by
  fun_induction SparseWindow.drain room cells generalizing a with
  | case1 room x rest taken left equation ih =>
      have front : a.pending a.written.length = some x := by
        rw [represents, SparseWindow.lookup_cons, if_pos rfl]
      have moved : ∀ position, (a.move x).pending position =
          SparseWindow.lookup (a.move x).written.length (rest ++ [none]) position := by
        intro position
        simp only [move, List.length_append, List.length_singleton]
        rw [SparseWindow.lookup_advance _ (some x), represents]
      have remaining := ih (a.move x) moved
      rw [equation] at remaining
      rw [settle, front]
      refine ⟨by simpa [move] using remaining.1, ?_⟩
      intro position
      rw [remaining.2 position]
      simp only [move, List.length_append, List.length_cons, List.length_nil]
      congr 1
      omega
  | case2 room cells stuck =>
      have unchanged : a.settle room = a := by
        cases room with
        | zero => rfl
        | succ room =>
            have front : a.pending a.written.length = none := by
              rw [represents]
              rcases cells with _ | ⟨_ | x, rest⟩
              · simp [SparseWindow.lookup]
              · simp [SparseWindow.lookup_cons]
              · exact (stuck room x rest rfl rfl).elim
            rw [settle, front]
      rw [unchanged]
      exact ⟨by simp, by simpa using represents⟩

def Agrees (source : List α) (a : Assembly capacity α) : Prop :=
  a.written <+: source ∧ ∀ position x, a.pending position = some x → source[position]? = some x

theorem move_agrees (source : List α) (a : Assembly capacity α) (x : α)
    (next : a.pending a.written.length = some x) (agrees : Agrees source a) :
    Agrees source (a.move x) := by
  constructor
  · obtain ⟨rest, whole⟩ := agrees.1
    have head := agrees.2 _ _ next
    rw [← whole, List.getElem?_append_right (Nat.le_refl _), Nat.sub_self] at head
    cases rest with
    | nil => simp at head
    | cons first rest =>
        simp only [List.getElem?_cons_zero, Option.some.injEq] at head
        subst head
        exact ⟨rest, by simpa [move] using whole⟩
  · intro position y waiting
    simp only [move] at waiting
    split at waiting
    · cases waiting
    · exact agrees.2 position y waiting

theorem settle_agrees (source : List α) (fuel : Nat) (a : Assembly capacity α)
    (agrees : Agrees source a) : Agrees source (a.settle fuel) := by
  induction fuel generalizing a with
  | zero => exact agrees
  | succ fuel ih =>
      rw [settle]
      split
      · exact agrees
      case h_2 x next => exact ih _ (move_agrees source a x next agrees)

def Covers (a : Assembly capacity α) (position : Nat) : Prop :=
  position < a.written.length ∨ (a.pending position).isSome

theorem put_covers (a : Assembly capacity α) (data : List α) (index position : Nat)
    (covers : a.Covers position) : (a.put data index).Covers position := by
  rcases covers with written | waits
  · exact .inl written
  · right
    simp only [put]
    split
    case isTrue inside => simp; omega
    case isFalse => exact waits

theorem put_covers_data (a : Assembly capacity α) (data : List α) (index position : Nat)
    (first : index ≤ position) (last : position < index + data.length)
    (fits : position < a.read + capacity) : (a.put data index).Covers position := by
  rcases Nat.lt_or_ge position a.written.length with written | ahead
  · exact .inl written
  · right
    simp only [put]
    rw [if_pos ⟨first, last, ahead, fits⟩]
    simp
    omega

theorem settle_covers (fuel : Nat) (a : Assembly capacity α) (position : Nat)
    (covers : a.Covers position) : (a.settle fuel).Covers position := by
  induction fuel generalizing a with
  | zero => exact covers
  | succ fuel ih =>
      rw [settle]
      split
      · exact covers
      case h_2 x next =>
        apply ih
        unfold Covers at covers ⊢
        simp only [move, List.length_append, List.length_singleton]
        by_cases here : position = a.written.length
        · left
          omega
        · rcases covers with written | waits
          · left
            omega
          · right
            rwa [if_neg here]

theorem push_reaches (a : Assembly capacity α) (data : List α) (index : Nat) (joins : index ≤ a.written.length)
    (fits : index + data.length ≤ a.read + capacity) :
    index + data.length ≤ (a.push data index).written.length := by
  by_contra short
  rw [Nat.not_le] at short
  have covers : (a.push data index).Covers (a.push data index).written.length := by
    apply settle_covers
    rcases Nat.lt_or_ge (a.push data index).written.length index with before | after
    · exact put_covers a data index _ (.inl (before.trans_le joins))
    · exact put_covers_data a data index _ after short (short.trans_le fits)
  rcases covers with written | waits
  · exact Nat.lt_irrefl _ written
  · rw [push_stops] at waits
    cases waits

theorem covers_written (a : Assembly capacity α) (position : Nat) (covers : a.Covers position)
    (nothing : a.waiting = ∅) : position < a.written.length := by
  rcases covers with written | waits
  · exact written
  · have inside : position ∈ a.waiting := by
      simp only [waiting, Finset.mem_filter, Finset.mem_range]
      exact ⟨(a.window position waits).2, waits⟩
    rw [nothing] at inside
    cases inside

end Assembly
end Sponge
