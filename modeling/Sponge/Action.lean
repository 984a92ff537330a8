import Mathlib.Tactic

/-! Computations over a state that may throw, with rules of pre- and postconditions. What was done to the
state before an exception stays done. -/

namespace Sponge

def Action (State Thrown Value : Type) := State → Except Thrown Value × State

namespace Action

variable {State Thrown Value Result : Type}

instance : Monad (Action State Thrown) where
  pure value := fun state => (.ok value, state)
  bind action next := fun state =>
    match action state with
    | (.ok value, after) => next value after
    | (.error thrown, after) => (.error thrown, after)

def raise (thrown : Thrown) : Action State Thrown Value := fun state => (.error thrown, state)

def gets (look : State → Value) : Action State Thrown Value := fun state => (.ok (look state), state)

def alter (change : State → State) : Action State Thrown Unit := fun state => (.ok (), change state)

section Equations

variable {action : Action State Thrown Value} {next : Value → Action State Thrown Result} {state after : State}

theorem bind_ok {value : Value} (ran : action state = (.ok value, after)) :
    (action >>= next) state = next value after := by
  change (match action state with
    | (.ok value, after) => next value after
    | (.error thrown, after) => (.error thrown, after)) = _
  rw [ran]

theorem bind_error {thrown : Thrown} (ran : action state = (.error thrown, after)) :
    (action >>= next) state = (.error thrown, after) := by
  change (match action state with
    | (.ok value, after) => next value after
    | (.error thrown, after) => (.error thrown, after)) = _
  rw [ran]

theorem gets_bind (look : State → Value) : (gets look >>= next) state = next (look state) state := rfl

theorem alter_bind (change : State → State) {next : Unit → Action State Thrown Result} :
    (alter change >>= next) state = next () (change state) := rfl

end Equations

/-- From `P` the computation returns into `Q` or throws into `E`. -/
structure Meets (P : State → Prop) (action : Action State Thrown Value) (Q : Value → State → Prop)
    (E : Thrown → State → Prop) : Prop where
  returns : ∀ {state value after}, P state → action state = (.ok value, after) → Q value after
  throws : ∀ {state thrown after}, P state → action state = (.error thrown, after) → E thrown after

/-- `P` holds after the computation if it held before, also when it throws. -/
def Keeps (P : State → Prop) (action : Action State Thrown Value) : Prop :=
  Meets P action (fun _ => P) (fun _ => P)

variable {P P' : State → Prop} {Q Q' : Value → State → Prop} {R : Result → State → Prop}
  {E E' : Thrown → State → Prop} {action : Action State Thrown Value}

theorem Keeps.after (keeps : Keeps P action) {state : State} (holds : P state) : P (action state).2 := by
  cases ran : action state with
  | mk result last =>
      cases result with
      | ok value => exact keeps.returns holds ran
      | error thrown => exact keeps.throws holds ran

theorem Meets.imp (meets : Meets P action Q E) (before : ∀ state, P' state → P state)
    (after : ∀ value state, Q value state → Q' value state)
    (thrown : ∀ error state, E error state → E' error state) : Meets P' action Q' E' where
  returns holds done := after _ _ (meets.returns (before _ holds) done)
  throws holds failed := thrown _ _ (meets.throws (before _ holds) failed)

theorem Meets.bind {next : Value → Action State Thrown Result} (first : Meets P action Q E)
    (second : ∀ value, Meets (Q value) (next value) R E) : Meets P (action >>= next) R E := by
  constructor
  · intro state result last holds done
    change (match action state with
      | (.ok value, after) => next value after
      | (.error thrown, after) => (.error thrown, after)) = _ at done
    split at done
    case h_1 value after ran => exact (second value).returns (first.returns holds ran) done
    case h_2 => cases done
  · intro state thrown last holds failed
    change (match action state with
      | (.ok value, after) => next value after
      | (.error thrown, after) => (.error thrown, after)) = _ at failed
    split at failed
    case h_1 value after ran => exact (second value).throws (first.returns holds ran) failed
    case h_2 ran =>
      cases failed
      exact first.throws holds ran

theorem Keeps.bind {next : Value → Action State Thrown Result} (first : Keeps P action)
    (second : ∀ value, Keeps P (next value)) : Keeps P (action >>= next) :=
  Meets.bind first second

theorem Keeps.gets (look : State → Value) : Keeps P (Action.gets look : Action State Thrown Value) := by
  constructor
  · rintro state other after before ⟨⟩
    exact before
  · rintro state thrown after _ ⟨⟩

/-- A fact that does not depend on the state is known before the computation. -/
theorem Meets.given {F : Prop} (meets : F → Meets P action Q E) : Meets (fun state => P state ∧ F) action Q E where
  returns holds done := (meets holds.2).returns holds.1 done
  throws holds failed := (meets holds.2).throws holds.1 failed

theorem Meets.pure {value : Value} (holds : ∀ state, P state → Q value state) :
    Meets P (Pure.pure value : Action State Thrown Value) Q E := by
  constructor
  · rintro state other after before ⟨⟩
    exact holds state before
  · rintro state thrown after _ ⟨⟩

theorem Meets.gets {look : State → Value} (holds : ∀ state, P state → Q (look state) state) :
    Meets P (Action.gets look : Action State Thrown Value) Q E := by
  constructor
  · rintro state other after before ⟨⟩
    exact holds state before
  · rintro state thrown after _ ⟨⟩

theorem Meets.alter {change : State → State} {U : Unit → State → Prop}
    (holds : ∀ state, P state → U () (change state)) :
    Meets P (Action.alter change : Action State Thrown Unit) U E := by
  constructor
  · rintro state other after before ⟨⟩
    exact holds state before
  · rintro state thrown after _ ⟨⟩

theorem Meets.raise {thrown : Thrown} (holds : ∀ state, P state → E thrown state) :
    Meets P (Action.raise thrown : Action State Thrown Value) Q E := by
  constructor
  · rintro state value after _ ⟨⟩
  · rintro state other after before ⟨⟩
    exact holds state before

/-- A part of the state and the way to put it back. -/
structure Focus (State Part : Type) where
  get : State → Part
  set : Part → State → State

def within {Part : Type} (focus : Focus State Part) (action : Action Part Thrown Value) :
    Action State Thrown Value := fun state =>
  ((action (focus.get state)).1, focus.set (action (focus.get state)).2 state)

theorem within_eq {Part : Type} {focus : Focus State Part} {action : Action Part Thrown Value} {state : State}
    {result : Except Thrown Value} {part : Part} (ran : action (focus.get state) = (result, part)) :
    action.within focus state = (result, focus.set part state) := by
  unfold within
  rw [ran]

theorem Meets.within {Part : Type} {focus : Focus State Part} {action : Action Part Thrown Value}
    (returns : ∀ state value part, P state → action (focus.get state) = (.ok value, part) →
      Q value (focus.set part state))
    (throws : ∀ state thrown part, P state → action (focus.get state) = (.error thrown, part) →
      E thrown (focus.set part state)) : Meets P (action.within focus) Q E := by
  constructor
  · intro state value after holds done
    obtain ⟨result, rfl⟩ := Prod.mk.inj done
    exact returns state value _ holds (Prod.ext result rfl)
  · intro state thrown after holds failed
    obtain ⟨result, rfl⟩ := Prod.mk.inj failed
    exact throws state thrown _ holds (Prod.ext result rfl)

theorem Keeps.within {Part : Type} {focus : Focus State Part} {action : Action Part Thrown Value}
    (kept : ∀ state, P state → P (focus.set (action (focus.get state)).2 state)) : Keeps P (action.within focus) := by
  refine Meets.within ?_ ?_
  · intro state value part holds ran
    have later := kept state holds
    rw [ran] at later
    exact later
  · intro state thrown part holds ran
    have later := kept state holds
    rw [ran] at later
    exact later

end Action
end Sponge
