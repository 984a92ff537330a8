import Mathlib.Tactic

/-! Logs of what was seen and of the time that passed in between, and logs in which the things of one kind
keep a distance. -/

namespace Sponge.TimedLog

inductive Event (α : Type*)
  | elapsed (ms : Nat)
  | seen (x : α)
  deriving DecidableEq

variable {α : Type*}

def Event.duration : Event α → Nat
  | .elapsed ms => ms
  | .seen _ => 0

def duration (log : List (Event α)) : Nat := (log.map Event.duration).sum

section

variable (P : α → Bool)

def after (since : Option Nat) : Event α → Option Nat
  | .elapsed ms => since.map (· + ms)
  | .seen x => if P x then some 0 else since

/-- The time since something that satisfies `P` was seen last, with `start` before the log. -/
def since (start : Option Nat) (log : List (Event α)) : Option Nat := log.foldl (after P) start

/-- Whenever something that satisfies `P` is seen, the last time is at least `gap` ago. -/
def Paced (gap : Nat) : Option Nat → List (Event α) → Prop
  | _, [] => True
  | start, event :: rest =>
      (∀ x, event = .seen x → P x → ∀ age, start = some age → gap ≤ age) ∧
        Paced gap (after P start event) rest

end

variable {P : α → Bool} {gap : Nat} {start : Option Nat} {front back mid log : List (Event α)} {f g : α}

theorem since_append : since P start (front ++ back) = since P (since P start front) back :=
  List.foldl_append

theorem paced_append :
    Paced P gap start (front ++ back) ↔ Paced P gap start front ∧ Paced P gap (since P start front) back := by
  induction front generalizing start with
  | nil => simp [Paced, since]
  | cons event rest ih =>
      rw [List.cons_append, Paced, Paced, ih, and_assoc]
      rfl

theorem since_le (age : Nat) (log : List (Event α)) :
    ∃ later, since P (some age) log = some later ∧ later ≤ age + duration log := by
  induction log generalizing age with
  | nil => exact ⟨age, rfl, Nat.le_add_right _ _⟩
  | cons event rest ih =>
      have total : duration (event :: rest) = event.duration + duration rest := by simp [duration]
      cases event with
      | elapsed ms =>
          obtain ⟨later, found, bound⟩ := ih (age + ms)
          exact ⟨later, found, by rw [total, Event.duration]; omega⟩
      | seen x =>
          by_cases hit : P x
          · obtain ⟨later, found, bound⟩ := ih 0
            refine ⟨later, ?_, by rw [total, Event.duration]; omega⟩
            simpa [since, after, hit] using found
          · obtain ⟨later, found, bound⟩ := ih age
            refine ⟨later, ?_, by rw [total, Event.duration]; omega⟩
            simpa [since, after, hit] using found

theorem Paced.spaced (paced : Paced P gap start (front ++ .seen f :: (mid ++ .seen g :: back)))
    (first : P f) (second : P g) : gap ≤ duration mid := by
  have later := (paced_append.mp paced).2.2
  have start : after P (since P start front) (.seen f) = some 0 := if_pos first
  rw [start, paced_append] at later
  obtain ⟨age, found, bound⟩ := since_le (P := P) 0 mid
  have apart := later.2.1 g rfl second age found
  omega

theorem paced_elapsed (ms : Nat) : Paced P gap start [.elapsed ms] := by
  refine ⟨?_, trivial⟩
  intro x seen
  cases seen

section Seen

variable {xs : List α} {x : α}

theorem since_unseen (unseen : ∀ x ∈ xs, P x = false) : since P start (xs.map .seen) = start := by
  induction xs with
  | nil => rfl
  | cons x rest ih =>
      obtain ⟨here, later⟩ := List.forall_mem_cons.mp unseen
      rw [List.map_cons, since, List.foldl_cons, after, here]
      exact ih later

theorem paced_unseen (unseen : ∀ x ∈ xs, P x = false) : Paced P gap start (xs.map .seen) := by
  induction xs generalizing start with
  | nil => trivial
  | cons x rest ih =>
      obtain ⟨here, later⟩ := List.forall_mem_cons.mp unseen
      refine ⟨?_, ih later⟩
      rintro _ ⟨⟩ hit
      rw [here] at hit
      cases hit

theorem split_once (once : xs.filter P = [x]) :
    ∃ front back, xs = front ++ x :: back ∧ P x ∧ (∀ y ∈ front, P y = false) ∧ ∀ y ∈ back, P y = false := by
  obtain ⟨front, back, split, before, hit, rest⟩ := List.filter_eq_cons_iff.mp once
  refine ⟨front, back, split, hit, ?_, ?_⟩
  · exact fun y member => Bool.not_eq_true _ ▸ before y member
  · exact fun y member => Bool.not_eq_true _ ▸ List.filter_eq_nil_iff.mp rest y member

theorem since_once (once : xs.filter P = [x]) : since P start (xs.map .seen) = some 0 := by
  obtain ⟨front, back, rfl, hit, before, behind⟩ := split_once once
  rw [List.map_append, List.map_cons, since_append, since_unseen before, since, List.foldl_cons, after,
    if_pos hit]
  exact since_unseen behind

theorem paced_once (once : xs.filter P = [x]) (apart : ∀ age, start = some age → gap ≤ age) :
    Paced P gap start (xs.map .seen) := by
  obtain ⟨front, back, rfl, hit, before, behind⟩ := split_once once
  rw [List.map_append, List.map_cons, paced_append, since_unseen before]
  exact ⟨paced_unseen before, fun _ _ _ => apart, paced_unseen behind⟩

end Seen

end Sponge.TimedLog
