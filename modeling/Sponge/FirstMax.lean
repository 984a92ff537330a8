import Mathlib.Tactic

/-! The first element with the greatest key among those of a list that satisfy a predicate: the `argmax` of
the filtered list, with its place in the list itself. -/

namespace Sponge.FirstMax

section Choice

variable {α β : Type*} [LinearOrder β] (P : α → Prop) (key : α → β)

/-- `x` stands in the list before all others that are as good, and none is better. -/
def IsFirstMax (l : List α) (x : α) : Prop :=
  ∃ front back, l = front ++ x :: back ∧ P x ∧ (∀ y ∈ front, P y → key y < key x) ∧
    ∀ y ∈ back, P y → key y ≤ key x

variable {P key} {l : List α} {x y : α}

theorem IsFirstMax.mem (max : IsFirstMax P key l x) : x ∈ l := by
  obtain ⟨_, _, rfl, _⟩ := max
  exact List.mem_append_right _ List.mem_cons_self

theorem IsFirstMax.fits (max : IsFirstMax P key l x) : P x := by
  obtain ⟨_, _, _, fits, _⟩ := max
  exact fits

theorem IsFirstMax.le (max : IsFirstMax P key l x) (member : y ∈ l) (fits : P y) : key y ≤ key x := by
  obtain ⟨front, back, rfl, _, first, longest⟩ := max
  rcases List.mem_append.mp member with inFront | later
  · exact (first y inFront fits).le
  · rcases List.mem_cons.mp later with rfl | inBack
    · exact le_rfl
    · exact longest y inBack fits

end Choice

section Argmax

variable {α β γ : Type*} [LinearOrder β] {key : α → β} {l front back : List α} {x y : α}

theorem argmax_cons_some (found : l.argmax key = some y) :
    (x :: l).argmax key = if key x < key y then some y else some x := by
  rw [List.argmax_cons, found]

theorem argmax_head (greatest : ∀ y ∈ l, key y ≤ key x) : (x :: l).argmax key = some x := by
  cases found : l.argmax key with
  | none => rw [List.argmax_cons, found]
  | some y => rw [argmax_cons_some found, if_neg (not_lt.mpr (greatest y (List.argmax_mem found)))]

theorem argmax_eq_some_iff_split :
    l.argmax key = some x ↔ ∃ front back, l = front ++ x :: back ∧ (∀ y ∈ front, key y < key x) ∧
      ∀ y ∈ back, key y ≤ key x := by
  constructor
  · intro found
    induction l with
    | nil => cases found
    | cons y l ih =>
        cases rest : l.argmax key with
        | none =>
            rw [List.argmax_cons, rest, Option.some_inj] at found
            exact ⟨[], l, by rw [found, List.nil_append], List.forall_mem_nil _,
              by simp [List.argmax_eq_none.mp rest]⟩
        | some z =>
            rw [argmax_cons_some rest] at found
            split at found
            case isTrue longer =>
              cases found
              obtain ⟨front, back, rfl, first, longest⟩ := ih rest
              exact ⟨y :: front, back, rfl, List.forall_mem_cons.mpr ⟨longer, first⟩, longest⟩
            case isFalse shorter =>
              cases found
              refine ⟨[], l, rfl, List.forall_mem_nil _, ?_⟩
              intro other member
              exact (List.le_of_mem_argmax member rest).trans (not_lt.mp shorter)
  · rintro ⟨front, back, rfl, first, longest⟩
    induction front with
    | nil => exact argmax_head longest
    | cons y front ih =>
        obtain ⟨here, later⟩ := List.forall_mem_cons.mp first
        rw [List.cons_append, argmax_cons_some (ih later), if_pos here]

theorem argmax_loses (beaten : (∃ y ∈ front, key x ≤ key y) ∨ ∃ y ∈ back, key x < key y) :
    (front ++ x :: back).argmax key = (front ++ back).argmax key := by
  induction front with
  | nil =>
      rcases beaten with ⟨_, member, _⟩ | ⟨y, member, longer⟩
      · cases member
      · have chosen : back.argmax key ≠ none := fun empty =>
          List.ne_nil_of_mem member (List.argmax_eq_none.mp empty)
        obtain ⟨z, found⟩ := Option.ne_none_iff_exists'.mp chosen
        have best : key x < key z := longer.trans_le (List.le_of_mem_argmax member found)
        rw [List.nil_append, List.nil_append, argmax_cons_some found, if_pos best, found]
  | cons z front ih =>
      by_cases top : ∀ y ∈ front ++ back, key y ≤ key z
      · -- then the head is taken with `x` and without it
        obtain ⟨inFront, inBack⟩ := List.forall_mem_append.mp top
        have below : key x ≤ key z := by
          rcases beaten with ⟨y, member, high⟩ | ⟨y, member, longer⟩
          · rcases List.mem_cons.mp member with rfl | later
            · exact high
            · exact high.trans (inFront y later)
          · exact (longer.trans_le (inBack y member)).le
        have all : ∀ y ∈ front ++ x :: back, key y ≤ key z :=
          List.forall_mem_append.mpr ⟨inFront, List.forall_mem_cons.mpr ⟨below, inBack⟩⟩
        rw [List.cons_append, List.cons_append, argmax_head all, argmax_head top]
      · -- then the head is not taken, and neither matters to what comes after it
        push Not at top
        obtain ⟨y, member, higher⟩ := top
        have later : (∃ y ∈ front, key x ≤ key y) ∨ ∃ y ∈ back, key x < key y := by
          rcases beaten with ⟨w, inFront, high⟩ | inBack
          · rcases List.mem_cons.mp inFront with rfl | after
            · rcases List.mem_append.mp member with early | late
              · exact .inl ⟨y, early, (high.trans_lt higher).le⟩
              · exact .inr ⟨y, late, high.trans_lt higher⟩
            · exact .inl ⟨w, after, high⟩
          · exact .inr inBack
        rw [List.cons_append, List.cons_append, List.argmax_cons, List.argmax_cons, ih later]

theorem argmax_map (f : γ → α) (l : List γ) : (l.map f).argmax key = (l.argmax (fun c => key (f c))).map f := by
  induction l with
  | nil => rfl
  | cons c l ih =>
      rw [List.map_cons, List.argmax_cons, ih, List.argmax_cons]
      cases l.argmax (fun c => key (f c)) with
      | none => rfl
      | some d => exact (apply_ite (Option.map f) (key (f c) < key (f d)) (some d) (some c)).symm

end Argmax

variable {α β : Type*} [LinearOrder β] (P : α → Prop) [DecidablePred P] (key : α → β)

def firstMax (l : List α) : Option α := (l.filter (P ·)).argmax key

variable {P key} {front back l : List α} {x : α}

theorem filter_fits (fits : P x) : (x :: l).filter (P ·) = x :: l.filter (P ·) := by
  simp [fits]

theorem filter_unfit (unfit : ¬ P x) : (x :: l).filter (P ·) = l.filter (P ·) := by
  simp [unfit]

theorem firstMax_none_iff (l : List α) : firstMax P key l = none ↔ ∀ x ∈ l, ¬ P x := by
  simp [firstMax, List.argmax_eq_none, List.filter_eq_nil_iff]

theorem firstMax_some_iff : firstMax P key l = some x ↔ IsFirstMax P key l x := by
  rw [firstMax, argmax_eq_some_iff_split]
  constructor
  · rintro ⟨front, back, parts, first, longest⟩
    obtain ⟨early, late, rfl, rfl, rest⟩ := List.filter_eq_append_iff.mp parts
    obtain ⟨unfit, after, rfl, others, fits, rfl⟩ := List.filter_eq_cons_iff.mp rest
    refine ⟨early ++ unfit, after, by rw [List.append_assoc], of_decide_eq_true fits, ?_, ?_⟩
    · intro y member yFits
      rcases List.mem_append.mp member with inEarly | inUnfit
      · exact first y (List.mem_filter.mpr ⟨inEarly, decide_eq_true yFits⟩)
      · exact absurd (decide_eq_true yFits) (others y inUnfit)
    · intro y member yFits
      exact longest y (List.mem_filter.mpr ⟨member, decide_eq_true yFits⟩)
  · rintro ⟨front, back, rfl, fits, first, longest⟩
    refine ⟨front.filter (P ·), back.filter (P ·), ?_, ?_, ?_⟩
    · rw [List.filter_append, filter_fits fits]
    · intro y member
      obtain ⟨inFront, yFits⟩ := List.mem_filter.mp member
      exact first y inFront (of_decide_eq_true yFits)
    · intro y member
      obtain ⟨inBack, yFits⟩ := List.mem_filter.mp member
      exact longest y inBack (of_decide_eq_true yFits)

theorem firstMax_wins (fits : P x) (first : ∀ y ∈ front, P y → key y < key x)
    (longest : ∀ y ∈ back, P y → key y ≤ key x) : firstMax P key (front ++ x :: back) = some x :=
  firstMax_some_iff.mpr ⟨front, back, rfl, fits, first, longest⟩

theorem firstMax_unfit (unfit : ¬ P x) :
    firstMax P key (front ++ x :: back) = firstMax P key (front ++ back) := by
  rw [firstMax, firstMax, List.filter_append, filter_unfit unfit, List.filter_append]

theorem firstMax_loses (beaten : (∃ y ∈ front, P y ∧ key x ≤ key y) ∨ ∃ y ∈ back, P y ∧ key x < key y) :
    firstMax P key (front ++ x :: back) = firstMax P key (front ++ back) := by
  by_cases fits : P x
  case neg => exact firstMax_unfit fits
  rw [firstMax, firstMax, List.filter_append, filter_fits fits, List.filter_append]
  apply argmax_loses
  rcases beaten with ⟨y, member, yFits, high⟩ | ⟨y, member, yFits, higher⟩
  · exact .inl ⟨y, List.mem_filter.mpr ⟨member, decide_eq_true yFits⟩, high⟩
  · exact .inr ⟨y, List.mem_filter.mpr ⟨member, decide_eq_true yFits⟩, higher⟩

theorem firstMax_perm {m : List α} (perm : l.Perm m)
    (distinct : ∀ x ∈ l, ∀ y ∈ l, P x → P y → key x = key y → x = y) :
    firstMax P key l = firstMax P key m := by
  cases chosen : firstMax P key l with
  | none =>
      rw [eq_comm, firstMax_none_iff]
      intro x member
      exact (firstMax_none_iff l).mp chosen x (perm.mem_iff.mpr member)
  | some x =>
      have max := firstMax_some_iff.mp chosen
      cases other : firstMax P key m with
      | none => exact absurd max.fits ((firstMax_none_iff m).mp other x (perm.mem_iff.mp max.mem))
      | some y =>
          have otherMax := firstMax_some_iff.mp other
          have member : y ∈ l := perm.mem_iff.mpr otherMax.mem
          have same : key x = key y :=
            le_antisymm (otherMax.le (perm.mem_iff.mp max.mem) max.fits) (max.le member otherMax.fits)
          rw [distinct x max.mem y member max.fits otherMax.fits same]

theorem firstMax_map {γ : Type*} (f : γ → α) (l : List γ) :
    firstMax P key (l.map f) = (firstMax (fun c => P (f c)) (fun c => key (f c)) l).map f := by
  rw [firstMax, List.filter_map, argmax_map]
  rfl

end Sponge.FirstMax
