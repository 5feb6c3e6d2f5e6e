/-
Laws of computations that may fail, on which every reading of the engine and of
the dialogue rests: a computation made of two comes to an end if both do, and
fails where the first of them fails.
-/

import Parley.World

namespace Parley

variable {State Answer First Second : Type}

/-! ### One computation behind another -/

theorem bind_apply (first : EStateM Fault State First) (next : First → EStateM Fault State Second)
    (state : State) :
    (first >>= next) state =
      match first state with
      | .ok answer state => next answer state
      | .error fault state => .error fault state := by
  simp only [bind, EStateM.bind]
  cases first state <;> rfl

/-- What two computations come to, they come to one after the other. -/
theorem bind_eq_ok {first : EStateM Fault State First} {next : First → EStateM Fault State Second}
    {state final : State} {answer : Second} (done : (first >>= next) state = .ok answer final) :
    ∃ middle between,
      first state = .ok middle between ∧ next middle between = .ok answer final := by
  rw [bind_apply] at done
  split at done
  next middle between first => exact ⟨middle, between, first, done⟩
  next => cases done

/-! ### Computations that fail only where they are excused -/

/-- From a state that is held, a computation ends in a state that is held, with an answer that is
fit or with a fault that is excused. -/
def Confined (held : State → Prop) (excused : Fault → Prop) (act : EStateM Fault State Answer)
    (fit : Answer → Prop) : Prop :=
  ∀ state, held state →
    match act state with
    | .ok answer after => held after ∧ fit answer
    | .error fault after => held after ∧ excused fault

namespace Confined

variable {held : State → Prop} {excused : Fault → Prop} {fit : Answer → Prop}

theorem pure {answer : Answer} (suits : fit answer) :
    Confined held excused (Pure.pure answer : EStateM Fault State Answer) fit :=
  fun _ holds => ⟨holds, suits⟩

theorem throw {fault : Fault} (excuse : excused fault) :
    Confined held excused (MonadExcept.throw fault : EStateM Fault State Answer) fit :=
  fun _ holds => ⟨holds, excuse⟩

theorem get : Confined held excused (MonadState.get : EStateM Fault State State) held :=
  fun _ holds => ⟨holds, holds⟩

theorem changing {change : State → State} (keeps : ∀ state, held state → held (change state)) :
    Confined held excused (modify change : EStateM Fault State Unit) fun _ => True :=
  fun state holds => ⟨keeps state holds, trivial⟩

theorem bind {first : EStateM Fault State First} {next : First → EStateM Fault State Second}
    {between : First → Prop} {fit : Second → Prop} (begins : Confined held excused first between)
    (goesOn : ∀ answer, between answer → Confined held excused (next answer) fit) :
    Confined held excused (first >>= next) fit := by
  intro state holds
  have start := begins state holds
  rw [bind_apply]
  cases result : first state with
  | error fault after =>
    rw [result] at start
    exact start
  | ok answer after =>
    rw [result] at start
    exact goesOn answer start.2 after start.1

end Confined

/-! ### Computations that miss no function -/

/-- From a state that is held, a computation ends in a state that is held, with an answer that is
fit or with a fault other than a missing function. -/
def Provided (held : State → Prop) (act : EStateM Fault State Answer) (fit : Answer → Prop) :
    Prop :=
  ∀ state, held state →
    match act state with
    | .ok answer after => held after ∧ fit answer
    | .error fault after => held after ∧ ∀ name, fault ≠ .functionNotFound name

namespace Provided

variable {held : State → Prop} {fit : Answer → Prop}

/-- Any fault but a missing function is excused. -/
theorem iff_confined {act : EStateM Fault State Answer} :
    Provided held act fit ↔
      Confined held (fun fault => ∀ name, fault ≠ .functionNotFound name) act fit := .rfl

theorem pure {answer : Answer} (suits : fit answer) :
    Provided held (Pure.pure answer : EStateM Fault State Answer) fit :=
  iff_confined.2 (.pure suits)

theorem throw {fault : Fault} (other : ∀ name, fault ≠ .functionNotFound name) :
    Provided held (MonadExcept.throw fault : EStateM Fault State Answer) fit :=
  iff_confined.2 (.throw other)

theorem get : Provided held (MonadState.get : EStateM Fault State State) held :=
  iff_confined.2 .get

theorem changing {change : State → State} (keeps : ∀ state, held state → held (change state)) :
    Provided held (modify change : EStateM Fault State Unit) fun _ => True :=
  iff_confined.2 (.changing keeps)

theorem bind {first : EStateM Fault State First} {next : First → EStateM Fault State Second}
    {between : First → Prop} {fit : Second → Prop} (begins : Provided held first between)
    (goesOn : ∀ answer, between answer → Provided held (next answer) fit) :
    Provided held (first >>= next) fit :=
  iff_confined.2 (.bind (iff_confined.1 begins) fun answer suits =>
    iff_confined.1 (goesOn answer suits))

end Provided

end Parley
