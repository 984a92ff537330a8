import Mathlib.Order.Basic
import Mathlib.Tactic

/-! Guarded runs of a deterministic step function.

The guard is read in the state an operation meets, so one relation covers both
assumptions on the environment and conditions on the states of a run. -/

namespace Sponge.Transition

variable {State Op : Type*}

/-- States reached from `start` by operations that the guard allows where they are applied. -/
inductive Reachable (step : State → Op → State) (allowed : State → Op → Prop)
    (start : State) : State → Prop
  | start : Reachable step allowed start start
  | next {state : State} (op : Op) (earlier : Reachable step allowed start state)
      (guard : allowed state op) : Reachable step allowed start (step state op)

def anything (_ : State) (_ : Op) : Prop := True

variable {step : State → Op → State} {allowed : State → Op → Prop} {start state : State}

theorem reachable_invariant {P : State → Prop} (initial : P start)
    (preserved : ∀ state op, P state → allowed state op → P (step state op))
    (reached : Reachable step allowed start state) : P state := by
  induction reached with
  | start => exact initial
  | next op _ guard ih => exact preserved _ op ih guard

theorem reachable_trans {middle : State} (first : Reachable step allowed start middle)
    (second : Reachable step allowed middle state) : Reachable step allowed start state := by
  induction second with
  | start => exact first
  | next op _ guard ih => exact .next op ih guard

/-- A measure that no step out of an invariant state lowers does not fall along a run. -/
theorem reachable_monotone {Value : Type*} [Preorder Value] {P : State → Prop}
    (measure : State → Value) (initial : P start)
    (preserved : ∀ state op, P state → allowed state op → P (step state op))
    (rises : ∀ state op, P state → allowed state op → measure state ≤ measure (step state op))
    (reached : Reachable step allowed start state) : measure start ≤ measure state := by
  induction reached with
  | start => exact le_rfl
  | @next state op earlier guard ih =>
      have inv : P state := reachable_invariant initial preserved earlier
      exact ih.trans (rises state op inv guard)

/-- A list of operations each of which the guard allows in turn. -/
def AllowedRun (step : State → Op → State) (allowed : State → Op → Prop) : State → List Op → Prop
  | _, [] => True
  | state, op :: ops => allowed state op ∧ AllowedRun step allowed (step state op) ops

instance decidableAllowedRun (step : State → Op → State) (allowed : State → Op → Prop)
    [∀ state op, Decidable (allowed state op)] :
    ∀ state ops, Decidable (AllowedRun step allowed state ops)
  | _, [] => .isTrue trivial
  | state, op :: ops =>
      have := decidableAllowedRun step allowed (step state op) ops
      inferInstanceAs (Decidable (_ ∧ _))

theorem allowedRun_of_forall {ops : List Op} (each : ∀ op ∈ ops, ∀ state, allowed state op) :
    AllowedRun step allowed start ops := by
  induction ops generalizing start with
  | nil => trivial
  | cons op ops ih =>
      obtain ⟨here, later⟩ := List.forall_mem_cons.mp each
      exact ⟨here start, ih later⟩

theorem allowedRun_imp {other : State → Op → Prop} {ops : List Op}
    (weaker : ∀ state op, allowed state op → other state op) (run : AllowedRun step allowed start ops) :
    AllowedRun step other start ops := by
  induction ops generalizing start with
  | nil => trivial
  | cons op ops ih => exact ⟨weaker start op run.1, ih run.2⟩

theorem reachable_run (ops : List Op) (run : AllowedRun step allowed start ops) :
    Reachable step allowed start (ops.foldl step start) := by
  induction ops generalizing start with
  | nil => exact .start
  | cons op ops ih => exact reachable_trans (.next op .start run.1) (ih run.2)

/-- `P` holds before, between and after the operations of a run. -/
def Throughout (step : State → Op → State) (P : State → Prop) : State → List Op → Prop
  | state, [] => P state
  | state, op :: ops => P state ∧ Throughout step P (step state op) ops

instance decidableThroughout (step : State → Op → State) (P : State → Prop) [DecidablePred P] :
    ∀ state ops, Decidable (Throughout step P state ops)
  | state, [] => inferInstanceAs (Decidable (P state))
  | state, op :: ops =>
      have := decidableThroughout step P (step state op) ops
      inferInstanceAs (Decidable (_ ∧ _))

theorem throughout_start {P : State → Prop} {ops : List Op} (always : Throughout step P state ops) :
    P state := by
  cases ops with
  | nil => exact always
  | cons op ops => exact always.1

/-- Where the allowed operations keep an invariant that gives `P` and every other one ends `P`, a run
keeps `P` exactly when each of its operations is allowed where it is applied. -/
theorem throughout_iff_allowed {I P : State → Prop} {D : Op → Prop} (gives : ∀ state, I state → P state)
    (keeps : ∀ state op, I state → D op → allowed state op → I (step state op))
    (ends : ∀ state op, I state → D op → ¬ allowed state op → ¬ P (step state op))
    (ops : List Op) (initial : I start) (domain : ∀ op ∈ ops, D op) :
    Throughout step P start ops ↔ AllowedRun step allowed start ops := by
  induction ops generalizing start with
  | nil => exact ⟨fun _ => trivial, fun _ => gives start initial⟩
  | cons op ops ih =>
      obtain ⟨here, later⟩ := List.forall_mem_cons.mp domain
      by_cases guard : allowed start op
      · have rest := ih (keeps start op initial here guard) later
        exact ⟨fun always => ⟨guard, rest.mp always.2⟩,
          fun run => ⟨gives start initial, rest.mpr run.2⟩⟩
      · constructor
        · intro always
          exact (ends start op initial here guard (throughout_start always.2)).elim
        · intro run
          exact (guard run.1).elim

theorem allowedRun_iff_forall {A : Op → Prop} (ops : List Op) :
    AllowedRun step (fun _ op => A op) start ops ↔ ∀ op ∈ ops, A op := by
  induction ops generalizing start with
  | nil => exact ⟨fun _ => List.forall_mem_nil _, fun _ => trivial⟩
  | cons op ops ih =>
      rw [List.forall_mem_cons]
      exact and_congr_right fun _ => ih

/-- Where the acceptable operations keep an invariant that gives `P` and every other one ends `P`, a
run keeps `P` exactly when all its operations are acceptable. -/
theorem throughout_iff {I P : State → Prop} {D A : Op → Prop} (gives : ∀ state, I state → P state)
    (keeps : ∀ state op, I state → D op → A op → I (step state op))
    (ends : ∀ state op, I state → D op → ¬ A op → ¬ P (step state op))
    (ops : List Op) (initial : I start) (domain : ∀ op ∈ ops, D op) :
    Throughout step P start ops ↔ ∀ op ∈ ops, A op :=
  (throughout_iff_allowed gives keeps ends ops initial domain).trans (allowedRun_iff_forall ops)

/-- Two folds over the same operations stay related when each operation keeps the relation. -/
theorem foldl_related {Abstract : Type*} {R : State → Abstract → Prop}
    (step : State → Op → State) (abstractStep : Abstract → Op → Abstract) (ops : List Op)
    (state : State) (abstract : Abstract) (initial : R state abstract)
    (each : ∀ state abstract op, op ∈ ops → R state abstract →
      R (step state op) (abstractStep abstract op)) :
    R (ops.foldl step state) (ops.foldl abstractStep abstract) := by
  induction ops generalizing state abstract with
  | nil => exact initial
  | cons op ops ih =>
      apply ih
      · exact each state abstract op List.mem_cons_self initial
      · intro current shadow later member
        exact each current shadow later (List.mem_cons_of_mem op member)

end Sponge.Transition
