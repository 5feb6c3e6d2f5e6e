/-
Which calls miss no function. A call looks its function up and then does what the
function does. So a call of a name that is there misses nothing unless the
function itself does, and no function that every dialogue starts with does: the
operators, the two functions of the dialogue, and the inequality as well, which
asks for an equality of its own that nobody can take away.
-/

import Parley.Dialogue.Basic
import Parley.Proofs.Engine.Supply
import Parley.Proofs.Roster

namespace Parley

variable {Host : Type}

/-! ### Functions that miss none -/

/-- A function never fails for a missing function where it is called with operands of its number. -/
def Function.Quiet (shelf : Shelf Host) (function : Function Host) : Prop :=
  ∀ operands world fault final, operands.length = function.arity →
    Shelf.perform (shelf.callWithin shelf.size) operands function.implementation world =
      .error fault final →
    ∀ name, fault ≠ .functionNotFound name

theorem Function.Quiet.complete {shelf : Shelf Host} {function : Function Host}
    (quiet : function.Quiet shelf) {operands : List Value}
    (counted : operands.length = function.arity) :
    (Shelf.perform (shelf.callWithin shelf.size) operands
      function.implementation).Complete fun _ => True := by
  intro world _
  cases result : Shelf.perform (shelf.callWithin shelf.size) operands function.implementation
      world with
  | ok answer final => exact ⟨trivial, trivial⟩
  | error fault final => exact ⟨trivial, quiet operands world fault final counted result⟩

/-! ### The functions of a new dialogue -/

/-- The library of a new dialogue. -/
def Dialogue.firstLibrary : Library Host :=
  (Library.importAll Roster.empty (Library.standard 0)).insertAll Dialogue.builtins

namespace Shelf

/-- The shelf of a dialogue: the operators as they were when the dialogue was made, the library of
the dialogue, and libraries of the host. -/
def Furnished (shelf : Shelf Host) : Prop :=
  ∃ own others, shelf.libraries = Library.standard 0 :: own :: others

/-- Writing the library of a dialogue leaves the rest of its shelf alone. -/
theorem Furnished.replace {shelf : Shelf Host} (furnished : shelf.Furnished)
    (content : Library Host) :
    (shelf.replace Dialogue.home content).Furnished ∧
      (shelf.replace Dialogue.home content).library Dialogue.home = content := by
  obtain ⟨own, others, furnished⟩ := furnished
  have written : (shelf.replace Dialogue.home content).libraries =
      Library.standard 0 :: content :: others := by
    rw [Shelf.replace, furnished]
    rfl
  refine ⟨⟨content, others, written⟩, ?_⟩
  rw [library, written]
  rfl

/-- Changing libraries of the host leaves the library of a dialogue alone. -/
theorem Furnished.rearrange {shelf : Shelf Host} (furnished : shelf.Furnished)
    (others : List (Library Host)) :
    (Shelf.mk (shelf.libraries.take 2 ++ others)).Furnished ∧
      (Shelf.mk (shelf.libraries.take 2 ++ others)).library Dialogue.home =
        shelf.library Dialogue.home := by
  obtain ⟨own, before, furnished⟩ := furnished
  rw [library, library, furnished]
  exact ⟨⟨own, others, rfl⟩, rfl⟩

theorem Furnished.size_pos {shelf : Shelf Host} (furnished : shelf.Furnished) :
    0 < shelf.size := by
  obtain ⟨own, others, furnished⟩ := furnished
  have standard : (Library.standard 0 : Library Host).size = 15 := by cbv
  rw [size, furnished, List.foldr_cons, standard]
  omega

theorem lookup_equalTo (home : LibraryId) :
    (Library.standard home : Library Host).lookup Operator.equalTo.name =
      .ok (Library.standardFunction home .equalTo) := by
  cbv

/-- The equality that the inequality asks for is always there. -/
theorem complete_equality {shelf : Shelf Host} (furnished : shelf.Furnished) (steps : Nat)
    (operands : List Value) :
    (shelf.callWithin steps 0 Operator.equalTo.name operands).Complete fun _ => True := by
  obtain ⟨own, others, furnished⟩ := furnished
  have first : shelf.library 0 = Library.standard 0 := by
    rw [library, furnished, List.getElem?_cons_zero, Option.getD_some]
  have standard : (shelf.library 0).lookup Operator.equalTo.name =
      .ok (Library.standardFunction 0 .equalTo) := by
    rw [first]
    exact lookup_equalTo 0
  cases steps with
  | zero => exact .throw nofun
  | succ steps =>
    rw [callWithin, standard]
    dsimp only
    split
    · exact .throw nofun
    · exact .pure trivial

theorem complete_standard {shelf : Shelf Host} (furnished : shelf.Furnished) (steps : Nat)
    (operands : List Value) (operator : Operator) :
    (perform (shelf.callWithin steps) operands
      (Library.standardFunction 0 operator).implementation).Complete fun _ => True := by
  cases operator with
  | notEqualTo =>
    exact Provided.bind (complete_equality furnished steps operands) fun _ _ => .pure trivial
  | _ => exact .pure trivial

theorem complete_first {shelf : Shelf Host} (furnished : shelf.Furnished)
    {function : Function Host} (first : function ∈ Dialogue.firstLibrary.entries) (steps : Nat)
    (operands : List Value) :
    (perform (shelf.callWithin steps) operands function.implementation).Complete fun _ => True := by
  obtain builtin | standard := Roster.mem_insertAll first
  · simp only [Dialogue.builtins, List.mem_cons, List.not_mem_nil, or_false] at builtin
    obtain rfl | rfl := builtin
    · exact Provided.bind .get fun _ _ => .pure trivial
    · unfold perform
      dsimp only
      split
      · exact .pure trivial
      · refine Provided.bind .get fun _ _ => ?_
        refine Provided.bind (.changing fun _ => id) fun _ _ => ?_
        exact Provided.bind (.changing fun _ => id) fun _ _ => .pure trivial
  · obtain standard | nothing := Roster.mem_insertAll standard
    · obtain made | nothing := Roster.mem_insertAll standard
      · obtain ⟨operator, -, rfl⟩ := List.mem_map.1 made
        exact complete_standard furnished steps operands operator
      · cases nothing
    · cases nothing

/-- A call of a function that is there misses none, if the function is one of the first or misses
none itself. -/
theorem complete_call {shelf : Shelf Host} (furnished : shelf.Furnished) {place : LibraryId}
    (tame : ∀ function ∈ (shelf.library place).entries,
      function ∈ Dialogue.firstLibrary.entries ∨ function.Quiet shelf)
    {name : Text} (there : (shelf.library place).contains name = true) (operands : List Value) :
    (shelf.call place name operands).Complete fun _ => True := by
  obtain ⟨function, member, found⟩ := Roster.get?_of_contains there
  rw [call, callWithin, Library.lookup, found]
  dsimp only
  split
  · exact .throw nofun
  · next counted =>
    obtain first | quiet := tame function member
    · exact complete_first furnished first shelf.size operands
    · exact quiet.complete (Decidable.not_not.1 counted)

end Shelf

end Parley
