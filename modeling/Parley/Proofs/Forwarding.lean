/-
This file settles that a function which hands its operands on comes to what the
function it hands them to would come to by itself. Calls are counted, and the one
that is made by another function has a step less to go; the point is that this step
is never missed. A call is handed from address to address. If it ever comes to a
function that does not hand it on, then all addresses before are different, and so
they are no more than there are functions on the shelf. And if it does not, then no
number of steps is enough.
-/

import Mathlib.Data.List.Perm.Subperm
import Parley.Proofs.Act
import Parley.Library

namespace Parley

variable {Host : Type}

namespace Shelf

/-! ### Addresses -/

/-- Where a function is found: a library and a name in it. -/
abbrev Address := LibraryId × Text

/-- The addresses of the functions of libraries, the first of which stands at a place. -/
def addressesFrom (place : LibraryId) : List (Library Host) → List Address
  | [] => []
  | library :: rest => library.names.map (place, ·) ++ addressesFrom (place + 1) rest

theorem length_addressesFrom (place : LibraryId) (libraries : List (Library Host)) :
    (addressesFrom place libraries).length = (Shelf.mk libraries).size := by
  induction libraries generalizing place with
  | nil => rfl
  | cons library rest ih =>
    rw [addressesFrom, List.length_append, ih, List.length_map, Roster.names, List.length_map]
    rfl

theorem mem_addressesFrom {place index : Nat} {name : Text} {library : Library Host}
    {libraries : List (Library Host)} (there : libraries[index]? = some library)
    (named : name ∈ library.names) : (place + index, name) ∈ addressesFrom place libraries := by
  induction libraries generalizing place index with
  | nil => cases there
  | cons first rest ih =>
    cases index with
    | zero =>
      cases there
      exact List.mem_append_left _ (List.mem_map.2 ⟨name, named, rfl⟩)
    | succ index =>
      rw [← Nat.succ_add_eq_add_succ]
      exact List.mem_append_right _ (ih there)

theorem mem_addresses {shelf : Shelf Host} {address : Address} {function : Function Host}
    (found : (shelf.library address.1).get? address.2 = some function) :
    address ∈ addressesFrom 0 shelf.libraries := by
  obtain ⟨place, name⟩ := address
  have member := List.mem_of_find?_eq_some found
  have named : function.name = name := by simpa using List.find?_some found
  rw [library] at member
  cases there : shelf.libraries[place]? with
  | none =>
    rw [there] at member
    cases member
  | some library =>
    rw [there] at member
    have listed : (0 + place, name) ∈ addressesFrom 0 shelf.libraries :=
      mem_addressesFrom there (List.mem_map.2 ⟨function, member, named⟩)
    rwa [Nat.zero_add] at listed

/-! ### Handing on -/

variable {shelf : Shelf Host} {count : Nat}

/-- The address that a call with so many operands is handed on to, if it is. -/
def next? (shelf : Shelf Host) (count : Nat) (address : Address) : Option Address :=
  match (shelf.library address.1).get? address.2 with
  | none => none
  | some function =>
    if count ≠ function.arity then none
    else
      match function.implementation with
      | .inequality home => some (home, Operator.equalTo.name)
      | .forward home target => some (home, target)
      | _ => none

theorem mem_addresses_of_next {address next : Address}
    (hands : shelf.next? count address = some next) :
    address ∈ addressesFrom 0 shelf.libraries := by
  rw [next?] at hands
  cases found : (shelf.library address.1).get? address.2 with
  | none =>
    rw [found] at hands
    cases hands
  | some function => exact mem_addresses found

/-- A call that is not handed on takes a single step. -/
theorem callWithin_of_next_none {address : Address} {operands : List Value}
    (settled : shelf.next? operands.length address = none) (few many : Nat) :
    shelf.callWithin (few + 1) address.1 address.2 operands =
      shelf.callWithin (many + 1) address.1 address.2 operands := by
  rw [callWithin, callWithin, Library.lookup]
  rw [next?] at settled
  cases found : (shelf.library address.1).get? address.2 with
  | none => rfl
  | some function =>
    rw [found] at settled
    dsimp only at settled ⊢
    by_cases counted : operands.length ≠ function.arity
    · rw [if_pos counted, if_pos counted]
    · rw [if_neg counted] at settled
      rw [if_neg counted, if_neg counted]
      cases implementation : function.implementation with
      | inequality | forward =>
        rw [implementation] at settled
        cases settled
      | _ => rfl

/-- A call that is handed on comes to what the call behind it comes to, which it may negate. -/
theorem callWithin_of_next {address next : Address} {operands : List Value}
    (hands : shelf.next? operands.length address = some next) :
    (∀ steps, shelf.callWithin (steps + 1) address.1 address.2 operands =
        shelf.callWithin steps next.1 next.2 operands) ∨
      ∀ steps, shelf.callWithin (steps + 1) address.1 address.2 operands = do
        let equal ← shelf.callWithin steps next.1 next.2 operands
        return .bool !equal.holds := by
  rw [next?] at hands
  cases found : (shelf.library address.1).get? address.2 with
  | none =>
    rw [found] at hands
    cases hands
  | some function =>
    rw [found] at hands
    dsimp only at hands
    by_cases counted : operands.length ≠ function.arity
    · rw [if_pos counted] at hands
      cases hands
    · have performs (steps : Nat) : shelf.callWithin (steps + 1) address.1 address.2 operands =
          perform (shelf.callWithin steps) operands function.implementation := by
        rw [callWithin, Library.lookup, found]
        dsimp only
        rw [if_neg counted]
      rw [if_neg counted] at hands
      cases implementation : function.implementation with
      | inequality home =>
        rw [implementation] at hands performs
        cases hands
        exact .inr performs
      | forward home target =>
        rw [implementation] at hands performs
        cases hands
        exact .inl performs
      | _ =>
        rw [implementation] at hands
        cases hands

/-! ### Coming to an end -/

/-- A call is handed on so many times and then no more. -/
inductive Settles (shelf : Shelf Host) (count : Nat) : Nat → Address → Prop
  | here {address} (settled : shelf.next? count address = none) : Settles shelf count 0 address
  | behind {steps address next} (hands : shelf.next? count address = some next)
    (settles : Settles shelf count steps next) : Settles shelf count (steps + 1) address

theorem Settles.unique {steps others : Nat} {address : Address}
    (settles : shelf.Settles count steps address) (again : shelf.Settles count others address) :
    steps = others := by
  induction settles generalizing others with
  | here settled =>
    cases again with
    | here => rfl
    | behind hands =>
      rw [settled] at hands
      cases hands
  | behind hands settles ih =>
    cases again with
    | here settled =>
      rw [settled] at hands
      cases hands
    | behind handsAgain again =>
      obtain rfl := Option.some.inj (hands.symm.trans handsAgain)
      rw [ih again]

/-- The addresses that hand a call on which comes to an end are different. -/
theorem Settles.trail {steps : Nat} {address : Address}
    (settles : shelf.Settles count steps address) :
    ∃ trail : List Address, trail.length = steps ∧ trail.Nodup ∧
      trail ⊆ addressesFrom 0 shelf.libraries ∧
      ∀ passed ∈ trail, ∃ left ≤ steps, shelf.Settles count left passed := by
  induction settles with
  | here => exact ⟨[], rfl, List.nodup_nil, List.nil_subset _, nofun⟩
  | @behind steps address next hands settles ih =>
    obtain ⟨trail, length, distinct, listed, left⟩ := ih
    refine ⟨address :: trail, ?_, List.nodup_cons.2 ⟨fun passed => ?_, distinct⟩,
      List.cons_subset.2 ⟨mem_addresses_of_next hands, listed⟩, fun passed member => ?_⟩
    · rw [List.length_cons, length]
    · -- What the call has behind it has fewer steps to go.
      obtain ⟨fewer, bound, again⟩ := left address passed
      have same := again.unique (.behind hands settles)
      omega
    · obtain rfl | behind := List.mem_cons.1 member
      · exact ⟨steps + 1, Nat.le_refl _, .behind hands settles⟩
      · obtain ⟨fewer, bound, settles⟩ := left passed behind
        exact ⟨fewer, Nat.le_succ_of_le bound, settles⟩

/-- A call that comes to an end is handed on by no more functions than there are. -/
theorem Settles.le_size {steps : Nat} {address : Address}
    (settles : shelf.Settles count steps address) : steps ≤ shelf.size := by
  obtain ⟨trail, length, distinct, listed, -⟩ := settles.trail
  have bound := (List.subperm_of_subset distinct listed).length_le
  rwa [length, length_addressesFrom] at bound

/-- As many steps as a call is handed on, and one, are as good as any more. -/
theorem Settles.callWithin_eq {steps few many : Nat} {address : Address} {operands : List Value}
    (settles : shelf.Settles operands.length steps address) (enough : steps < few)
    (more : steps < many) :
    shelf.callWithin few address.1 address.2 operands =
      shelf.callWithin many address.1 address.2 operands := by
  obtain ⟨few, rfl⟩ := Nat.exists_eq_add_one_of_ne_zero (Nat.ne_zero_of_lt enough)
  obtain ⟨many, rfl⟩ := Nat.exists_eq_add_one_of_ne_zero (Nat.ne_zero_of_lt more)
  induction settles generalizing few many with
  | here settled => exact callWithin_of_next_none settled few many
  | behind hands settles ih =>
    have enough := Nat.lt_of_succ_lt_succ enough
    have more := Nat.lt_of_succ_lt_succ more
    obtain ⟨few, rfl⟩ := Nat.exists_eq_add_one_of_ne_zero (Nat.ne_zero_of_lt enough)
    obtain ⟨many, rfl⟩ := Nat.exists_eq_add_one_of_ne_zero (Nat.ne_zero_of_lt more)
    obtain same | negated := callWithin_of_next hands
    · rw [same, same, ih few enough many more]
    · rw [negated, negated, ih few enough many more]

/-- A call that never comes to an end fails after any number of steps. -/
theorem callWithin_endless {address : Address} {operands : List Value}
    (endless : ∀ steps, ¬ shelf.Settles operands.length steps address) (steps : Nat) :
    shelf.callWithin steps address.1 address.2 operands = throw .endlessForwarding := by
  induction steps generalizing address with
  | zero => rfl
  | succ steps ih =>
    cases hands : shelf.next? operands.length address with
    | none => exact absurd (.here hands) (endless 0)
    | some next =>
      have onward := ih fun steps settles => endless (steps + 1) (.behind hands settles)
      obtain same | negated := callWithin_of_next hands
      · rw [same, onward]
      · rw [negated, onward]
        rfl

/-- A function that hands its operands on makes the call that anyone could make. -/
theorem callWithin_size {address : Address} {home : LibraryId} {target : Text}
    {operands : List Value} (hands : shelf.next? operands.length address = some (home, target)) :
    shelf.callWithin shelf.size home target operands = shelf.call home target operands := by
  rw [call]
  by_cases ends : ∃ steps, shelf.Settles operands.length steps (home, target)
  · obtain ⟨steps, settles⟩ := ends
    have bound := (Settles.behind hands settles).le_size
    exact settles.callWithin_eq bound (Nat.lt_succ_of_lt bound)
  · have endless := callWithin_endless (not_exists.1 ends)
    exact (endless _).trans (endless _).symm

end Shelf

end Parley
