/-
This file writes down the calls that a body makes. The engine leaves every call to
a function it is given, and knows nothing about the state of the host; so it can
be run by a host who keeps a record, with a function that calls as before and
adds to the record. Nobody can tell the difference, and behind the pull the record
holds every call, in order, each with the world it was made in and what it came
to.

A function may call another one in its turn, which it does at once and with its
own operands. Such calls are written down as well.
-/

import Parley.Proofs.Engine.Frame
import Parley.Proofs.Engine.Likeness

namespace Parley

variable {Host Entry : Type}

/-! ### Calls -/

/-- A call: the library that was asked and the name it was asked for, the operands, the world in
which the call was made, and what it came to. -/
structure Called (Host : Type) where
  place : LibraryId
  name : Text
  operands : List Value
  world : World Host
  outcome : EStateM.Result Fault (World Host) Value

/-- A call gets as far as carrying out an implementation: its name is there, and its operands are as
many as they should be. -/
def Called.Performs (shelf : Shelf Host) (implementation : Implementation Host)
    (called : Called Host) : Prop :=
  ∃ function, (shelf.library called.place).get? called.name = some function ∧
    function.arity = called.operands.length ∧ function.implementation = implementation

/-- A call asserts what does not hold. -/
def Called.FailsAssertion (shelf : Shelf Host) (called : Called Host) : Prop :=
  called.Performs shelf .assertion ∧ ((called.operands.head?).getD .null).holds = false

theorem after_bind_return {First Second : Type} (act : Act Host First) (result : First → Second)
    (world : World Host) :
    (do let answer ← act; return result answer : Act Host Second).after world =
      act.after world := by
  rw [Act.after, Act.after, bind_apply]
  cases act world <;> rfl

namespace Shelf

theorem after_runHost (function : HostFunction Host) (operands : List Value)
    (world : World Host) :
    (runHost function operands).after world =
      { world with
        store := (function world.executing operands world.store world.host).store
        host := (function world.executing operands world.store world.host).host } := by
  rw [Act.after, runHost_apply]
  cases (function world.executing operands world.store world.host).result with
  | error fault => rfl
  | ok literal =>
    dsimp only
    rw [Act.valueOf]
    cases literal.toValue <;> rfl

/-- The calls that a call leads to, itself first. -/
def callsWithin (shelf : Shelf Host) :
    Nat → LibraryId → Text → List Value → World Host → List (Called Host)
  | 0, _, _, _, _ => []
  | steps + 1, place, name, operands, world =>
    ⟨place, name, operands, world, shelf.callWithin (steps + 1) place name operands world⟩ ::
      match (shelf.library place).get? name with
      | none => []
      | some function =>
        if operands.length ≠ function.arity then []
        else
          match function.implementation with
          | .inequality home => callsWithin shelf steps home Operator.equalTo.name operands world
          | .forward home target => callsWithin shelf steps home target operands world
          | _ => []

/-- The calls that the call of a function of a library leads to. -/
def calls (shelf : Shelf Host) (place : LibraryId) (name : Text) (operands : List Value)
    (world : World Host) : List (Called Host) :=
  shelf.callsWithin (shelf.size + 1) place name operands world

/-- Every call that a call leads to is made with its operands and in its world. -/
theorem callsWithin_spec {shelf : Shelf Host} {steps : Nat} {place : LibraryId} {name : Text}
    {operands : List Value} {world : World Host} {called : Called Host}
    (member : called ∈ shelf.callsWithin steps place name operands world) :
    called.world = world ∧ called.operands = operands ∧ ∃ left,
      called.outcome = shelf.callWithin (left + 1) called.place called.name operands world := by
  induction steps generalizing place name with
  | zero => cases member
  | succ steps ih =>
    rw [callsWithin] at member
    obtain rfl | behind := List.mem_cons.1 member
    · exact ⟨rfl, rfl, steps, rfl⟩
    · split at behind
      · cases behind
      · split at behind
        · cases behind
        · split at behind
          · exact ih behind
          · exact ih behind
          · cases behind

/-- A call that gets as far as carrying out an implementation comes to what that comes to. -/
theorem outcome_of_performs {shelf : Shelf Host} {steps : Nat} {place : LibraryId} {name : Text}
    {operands : List Value} {world : World Host} {called : Called Host}
    {implementation : Implementation Host}
    (member : called ∈ shelf.callsWithin steps place name operands world)
    (performs : called.Performs shelf implementation) :
    ∃ left, called.outcome = perform (shelf.callWithin left) operands implementation world := by
  obtain ⟨-, same, left, outcome⟩ := callsWithin_spec member
  obtain ⟨function, found, counted, rfl⟩ := performs
  refine ⟨left, outcome.trans ?_⟩
  rw [callWithin, Library.lookup, found]
  dsimp only
  rw [if_neg (by rw [counted, same]; exact not_not_intro rfl)]

/-- Whether a node was visited is answered by the nodes that are marked as visited. -/
theorem outcome_visited {shelf : Shelf Host} {place : LibraryId} {name : Text}
    {operands : List Value} {operand : Value} {world : World Host} {called : Called Host}
    (member : called ∈ shelf.calls place name operands world)
    (performs : called.Performs shelf .visited) (one : called.operands = [operand]) :
    called.outcome = .ok (.bool (operand.toText ∈ world.visited)) world := by
  obtain ⟨-, same, -⟩ := callsWithin_spec member
  obtain ⟨left, outcome⟩ := outcome_of_performs member performs
  rw [outcome, ← same, one]
  rfl

/-- Only a false assertion among the calls that a call leads to sets the stop flag. -/
theorem stopping_callWithin (shelf : Shelf Host) (steps : Nat) (place : LibraryId) (name : Text)
    (operands : List Value) (world : World Host)
    (set : ((shelf.callWithin steps place name operands).after world).stopping = true) :
    world.stopping = true ∨
      ∃ called ∈ shelf.callsWithin steps place name operands world,
        called.FailsAssertion shelf := by
  induction steps generalizing place name with
  | zero => exact .inl set
  | succ steps ih =>
    rw [callWithin] at set
    rw [callsWithin]
    cases found : (shelf.library place).get? name with
    | none =>
      rw [Library.lookup, found] at set
      exact .inl set
    | some function =>
      rw [Library.lookup, found] at set
      dsimp only at set ⊢
      by_cases counted : operands.length ≠ function.arity
      · rw [if_pos counted] at set
        exact .inl set
      · rw [if_neg counted] at set
        rw [if_neg counted]
        -- A call that hands its operands on sets the flag if the call it makes does.
        have deeper {home : LibraryId} {target : Text} {first : Called Host}
            (set : ((shelf.callWithin steps home target operands).after world).stopping = true) :
            world.stopping = true ∨
              ∃ called ∈ first :: shelf.callsWithin steps home target operands world,
                called.FailsAssertion shelf := by
          obtain before | ⟨called, member, fails⟩ := ih home target set
          · exact .inl before
          · exact .inr ⟨called, List.mem_cons_of_mem _ member, fails⟩
        cases implementation : function.implementation with
        | operator operator =>
          rw [implementation] at set
          exact .inl set
        | inequality home =>
          rw [implementation, perform, after_bind_return] at set
          exact deeper set
        | visited =>
          rw [implementation] at set
          exact .inl set
        | assertion =>
          by_cases holds : ((operands.head?).getD .null).holds = true
          · rw [implementation, perform, if_pos holds] at set
            exact .inl set
          · refine .inr ⟨_, List.mem_cons_self, ⟨function, found, ?_, implementation⟩, ?_⟩
            · exact (Decidable.not_not.1 counted).symm
            · exact eq_false_of_ne_true holds
        | forward home target =>
          rw [implementation] at set
          exact deeper set
        | host run =>
          rw [implementation, perform, after_runHost] at set
          exact .inl set

end Shelf

/-! ### Records -/

/-- Computations that come to the same leave worlds that stand in the relation. -/
theorem Agree.after {One Other Answer : Type} {relation : World One → World Other → Prop}
    {act : Act One Answer} {act' : Act Other Answer} {one : World One} {other : World Other}
    (agree : Agree relation (act one) (act' other)) :
    relation (act.after one) (act'.after other) := by
  rw [Act.after, Act.after]
  generalize act one = result at agree ⊢
  generalize act' other = result' at agree ⊢
  cases agree with
  | ok answer related => exact related
  | error fault related => exact related

/-- A world in which the host keeps a record. -/
def World.recording (record : List Entry) (world : World Host) : World (Host × List Entry) :=
  { world with host := (world.host, record) }

/-- A world without the record that its host keeps. -/
def World.bare (world : World (Host × List Entry)) : World Host :=
  { world with host := world.host.1 }

namespace Engine

variable (call : Text → List Value → Act Host Value)
  (entries : Text → List Value → World Host → List Entry)

/-- Calls, and adds to the record what there is to say about the call. -/
def watch : Text → List Value → Act (Host × List Entry) Value := fun name operands world =>
  let record := world.host.2 ++ entries name operands world.bare
  match call name operands world.bare with
  | .ok value after => .ok value (after.recording record)
  | .error fault after => .error fault (after.recording record)

/-- The record of a pull. -/
def recorded (chosen : Option Nat) (traversal : Traversal) (world : World Host) : List Entry :=
  ((pull (watch call entries) chosen traversal).after (world.recording [])).host.2

variable {call entries}

/-- What holds of a world and its record through notes, assignments and calls holds behind a pull,
of the world that the pull leaves and of the record of the pull. -/
theorem recorded_spec {held : World Host → List Entry → Prop}
    (notes : ∀ world record note, held world record → held (world.note note) record)
    (writes : ∀ (world : World Host) record store, held world record →
      held { world with store } record)
    (calls : ∀ name operands world record, held world record →
      held ((call name operands).after world) (record ++ entries name operands world))
    (chosen : Option Nat) (traversal : Traversal) {world : World Host} (starts : held world []) :
    held ((pull call chosen traversal).after world)
      (recorded call entries chosen traversal world) := by
  -- The pull that is recorded goes along with the one that is not; what is to be shown is a part of
  -- the relation between their worlds.
  let relation (one : World (Host × List Entry)) (other : World Host) : Prop :=
    one.bare = other ∧ held other one.host.2
  have likeness : Likeness relation := by
    refine ⟨?_, ?_, ?_⟩
    · rintro one _ ⟨rfl, -⟩
      rfl
    · rintro one _ note ⟨rfl, holds⟩
      exact ⟨rfl, notes _ _ note holds⟩
    · rintro one _ store ⟨rfl, holds⟩
      exact ⟨rfl, writes _ _ store holds⟩
  have watches (name : Text) (operands : List Value) :
      Act.Alike relation (watch call entries name operands) (call name operands) := by
    rintro one _ ⟨rfl, holds⟩
    have kept := calls name operands _ _ holds
    rw [Act.after] at kept
    unfold watch
    cases result : call name operands one.bare with
    | ok value after =>
      rw [result] at kept
      exact .ok value ⟨rfl, kept⟩
    | error fault after =>
      rw [result] at kept
      exact .error fault ⟨rfl, kept⟩
  have start : relation (world.recording []) world := ⟨rfl, starts⟩
  have agree := alike_pull likeness watches chosen traversal _ _ start
  exact agree.after.2

end Engine

end Parley
