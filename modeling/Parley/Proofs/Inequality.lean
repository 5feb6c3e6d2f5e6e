/-
This file settles whose equality an inequality negates. A set of standard operators
comes with an inequality that asks this very set about equality. The inequality can
be copied into other libraries, and the set is what it goes on asking, whatever
becomes of the equality in the library that it is called through. So both agree in
the set itself and in all libraries that nothing was brought into, and a library
that has imported them can have them disagree.

A host edits its libraries one after the other; `Edit` lists what it can do. That an
entry of a library was made with the library, or was brought there by an edit, is
kept by every edit.
-/

import Parley.Dialogue.Basic
import Parley.Proofs.Forwarding
import Parley.Proofs.Roster

namespace Parley

variable {Host : Type}

/-! ### Edits -/

/-- What a host does with its libraries. -/
inductive Edit (Host : Type) where
  /-- Makes a library, with the standard operators or empty. -/
  | make (standard : Bool)
  | register (place : LibraryId) (name : Text) (arity : Int) (implementation : Implementation Host)
  | deregister (place : LibraryId) (name : Text)
  /-- Adds every function of another library. -/
  | importAll (place source : LibraryId)

namespace Shelf

/-- The libraries after an edit, which may be refused. -/
def edit (shelf : Shelf Host) : Edit Host → Shelf Host
  | .make standard =>
    ⟨shelf.libraries ++
      [if standard then Library.standard shelf.libraries.length else Roster.empty]⟩
  | .register place name arity implementation =>
    match (shelf.library place).register name arity implementation with
    | .ok content => shelf.replace place content
    | .error _ => shelf
  | .deregister place name => shelf.replace place ((shelf.library place).erase name)
  | .importAll place source =>
    shelf.replace place ((shelf.library place).importAll (shelf.library source))

/-- The libraries that edits lead to. -/
def edited (edits : List (Edit Host)) : Shelf Host := edits.foldl edit ⟨[]⟩

end Shelf

/-- An edit can bring an inequality into a library that asks another one. -/
def Edit.Brings (place home : LibraryId) : Edit Host → Prop
  | .importAll into _ => into = place
  | .register into _ _ implementation => into = place ∧ implementation = .inequality home
  | _ => False

namespace Shelf

/-! ### Entries -/

theorem mem_replace {shelf : Shelf Host} {place other : LibraryId} {content : Library Host}
    {function : Function Host}
    (member : function ∈ ((shelf.replace place content).library other).entries) :
    function ∈ (shelf.library other).entries ∨ place = other ∧ function ∈ content.entries := by
  rw [library, replace, List.getElem?_set] at member
  split at member
  · next same =>
    split at member
    · exact .inr ⟨same, member⟩
    · cases member
  · exact .inl member

theorem mem_make {shelf : Shelf Host} {standard : Bool} {place : LibraryId}
    {function : Function Host}
    (member : function ∈ ((shelf.edit (.make standard)).library place).entries) :
    function ∈ (shelf.library place).entries ∨
      ∃ operator, function = Library.standardFunction place operator := by
  rw [library, edit] at member
  dsimp only at member
  by_cases before : place < shelf.libraries.length
  · rw [List.getElem?_append_left before] at member
    exact .inl member
  · rw [List.getElem?_append_right (Nat.le_of_not_lt before)] at member
    cases behind : place - shelf.libraries.length with
    | zero =>
      have last : shelf.libraries.length = place :=
        Nat.le_antisymm (Nat.le_of_not_lt before) (Nat.le_of_sub_eq_zero behind)
      rw [behind, List.getElem?_cons_zero, Option.getD_some, last] at member
      cases standard with
      | false => cases member
      | true =>
        obtain made | nothing := Roster.mem_insertAll member
        · obtain ⟨operator, -, same⟩ := List.mem_map.1 made
          exact .inr ⟨operator, same.symm⟩
        · cases nothing
    | succ =>
      rw [behind] at member
      cases member

/-- An inequality asks the library that it stands in, unless an edit has brought it there. -/
def Homely (edits : List (Edit Host)) (shelf : Shelf Host) : Prop :=
  ∀ place home function, function ∈ (shelf.library place).entries →
    function.implementation = .inequality home →
    home = place ∨ ∃ edit ∈ edits, edit.Brings place home

theorem Homely.edit {edits : List (Edit Host)} {shelf : Shelf Host} (homely : shelf.Homely edits)
    (edit : Edit Host) : (shelf.edit edit).Homely (edits ++ [edit]) := by
  intro place home function member asks
  have before (there : function ∈ (shelf.library place).entries) :
      home = place ∨ ∃ earlier ∈ edits ++ [edit], earlier.Brings place home := by
    obtain own | ⟨earlier, made, brings⟩ := homely place home function there asks
    · exact .inl own
    · exact .inr ⟨earlier, List.mem_append_left _ made, brings⟩
  have now (brings : edit.Brings place home) :
      home = place ∨ ∃ earlier ∈ edits ++ [edit], earlier.Brings place home :=
    .inr ⟨edit, List.mem_append_right _ List.mem_cons_self, brings⟩
  cases edit with
  | make standard =>
    obtain there | ⟨operator, rfl⟩ := mem_make member
    · exact before there
    · left
      cases operator with
      | notEqualTo => exact (Implementation.inequality.inj asks).symm
      | _ => cases asks
  | register into name arity implementation =>
    rw [Shelf.edit, Library.register] at member
    by_cases negative : arity < 0
    · rw [if_pos negative] at member
      exact before member
    · rw [if_neg negative] at member
      obtain there | ⟨rfl, there⟩ := mem_replace member
      · exact before there
      · obtain rfl | there := Roster.mem_insert there
        · exact now ⟨rfl, asks⟩
        · exact before there
  | deregister into name =>
    obtain there | ⟨rfl, there⟩ := mem_replace member
    · exact before there
    · exact before (List.mem_of_mem_filter there)
  | importAll into source =>
    obtain there | ⟨rfl, -⟩ := mem_replace member
    · exact before there
    · exact now rfl

theorem homely_edited (edits : List (Edit Host)) : (edited edits).Homely edits := by
  have empty : (⟨[]⟩ : Shelf Host).Homely [] := fun _ _ _ member => by cases member
  suffices onward : ∀ (later : List (Edit Host)) {earlier shelf}, shelf.Homely earlier →
      (later.foldl edit shelf).Homely (earlier ++ later) from
    onward edits empty
  intro later
  induction later with
  | nil =>
    intro earlier shelf homely
    rwa [List.append_nil]
  | cons first rest ih =>
    intro earlier shelf homely
    have onward := ih (homely.edit first)
    rwa [List.append_assoc] at onward

/-! ### Inequality -/

/-- The inequality of a set of standard operators is the negation of the equality of that set. -/
theorem call_inequality {shelf : Shelf Host} {place home : LibraryId}
    (found : (shelf.library place).get? Operator.notEqualTo.name =
      some (Library.standardFunction home .notEqualTo)) (left right : Value) :
    shelf.call place Operator.notEqualTo.name [left, right] = do
      let equal ← shelf.call home Operator.equalTo.name [left, right]
      return .bool !equal.holds := by
  have hands : shelf.next? 2 (place, Operator.notEqualTo.name) =
      some (home, Operator.equalTo.name) := by
    rw [next?, found]
    rfl
  have asked : shelf.callWithin shelf.size home Operator.equalTo.name [left, right] =
      shelf.call home Operator.equalTo.name [left, right] := callWithin_size hands
  rw [call, callWithin, Library.lookup, found]
  dsimp only
  rw [← asked, if_neg (by exact not_not_intro rfl)]
  rfl

/-- An inequality negates the equality of the set that it was made with. For any edits, a library
whose inequality is a standard one has it answer, fail and leave the world as the equality of that
set does, but for the negation; and the set is the library itself, unless an edit has brought the
inequality there. -/
theorem inequality_negates_equality (edits : List (Edit Host)) {place home : LibraryId}
    (found : ((edited edits).library place).get? Operator.notEqualTo.name =
      some (Library.standardFunction home .notEqualTo)) :
    (∀ left right, (edited edits).call place Operator.notEqualTo.name [left, right] = do
      let equal ← (edited edits).call home Operator.equalTo.name [left, right]
      return .bool !equal.holds) ∧
    (home = place ∨ ∃ edit ∈ edits, edit.Brings place home) :=
  ⟨call_inequality found,
    homely_edited edits place home _ (List.mem_of_find?_eq_some found) rfl⟩

/-- The edits that every dialogue begins with. -/
def furnishing : List (Edit Host) :=
  [.make true, .make false, .importAll Dialogue.home 0,
    .register Dialogue.home "visited" 1 .visited, .register Dialogue.home "assert" 1 .assertion]

theorem edited_furnishing (store : Store) (host : Host) (debugSink errorSink : Bool) :
    edited furnishing = (Dialogue.new store host debugSink errorSink).shelf := by
  simp [edited, furnishing, edit, Library.register, library, replace, Dialogue.new, Roster.insertAll,
    Dialogue.builtins, Dialogue.home]

/-- An equality that holds of any two values. -/
def indifferent : Function Unit where
  name := Operator.equalTo.name
  arity := 2
  implementation := .host fun _ _ store host => ⟨.ok (.bool true), store, host⟩

/-- A dialogue in whose library the equality was replaced. -/
def tampering : List (Edit Unit) :=
  furnishing ++ [.register Dialogue.home indifferent.name 2 indifferent.implementation]

theorem get?_tampering_notEqualTo :
    ((edited tampering).library Dialogue.home).get? Operator.notEqualTo.name =
      some (Library.standardFunction 0 .notEqualTo) := by
  cbv

theorem get?_tampering_equalTo :
    ((edited tampering).library Dialogue.home).get? Operator.equalTo.name = some indifferent := by
  cbv

/-- There the inequality was brought in by the import. -/
theorem inequality_negates_equality_tampering :
    (∀ left right,
      (edited tampering).call Dialogue.home Operator.notEqualTo.name [left, right] = do
        let equal ← (edited tampering).call 0 Operator.equalTo.name [left, right]
        return .bool !equal.holds) ∧
    ∃ edit ∈ tampering, edit.Brings Dialogue.home 0 := by
  obtain ⟨negates, own | brought⟩ := inequality_negates_equality tampering get?_tampering_notEqualTo
  · cases own
  · exact ⟨negates, brought⟩

/-- An inequality need not negate the equality that is called through the same library: in a
dialogue where all values were made equal there are values that are not equal as well. -/
theorem inequality_of_equal_values :
    edited tampering = (Dialogue.new Roster.empty () true true).shelf.edit
        (.register Dialogue.home indifferent.name 2 indifferent.implementation) ∧
      ((edited tampering).library Dialogue.home).get? Operator.notEqualTo.name =
        some (Library.standardFunction 0 .notEqualTo) ∧
      ((edited tampering).library Dialogue.home).get? Operator.equalTo.name = some indifferent ∧
      (∀ left right world,
        (edited tampering).call Dialogue.home Operator.equalTo.name [left, right] world =
          .ok (.bool true) world) ∧
      ∀ world, (edited tampering).call Dialogue.home Operator.notEqualTo.name
        [.bool true, .bool false] world = .ok (.bool true) world := by
  refine ⟨?_, get?_tampering_notEqualTo, get?_tampering_equalTo, fun left right world => ?_,
    fun world => ?_⟩
  · rw [← edited_furnishing, edited, tampering, List.foldl_append]
    rfl
  · rw [call, callWithin, Library.lookup, get?_tampering_equalTo]
    rfl
  · rw [call_inequality get?_tampering_notEqualTo]
    rfl

end Shelf

end Parley
