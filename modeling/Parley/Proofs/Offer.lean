/-
This file says what becomes of an offer to which the host makes one attempt after the
other. An attempt may be made at any offer, earlier ones included, and with any literal.
The first valid attempt at an offer counts; which one it is depends on the attempts at
this offer alone, and whatever is refused leaves all offers as they are.
-/

import Parley.Offer

namespace Parley

namespace Offer

/-- Only integers are the numbers of replies, and only those below the number of them. -/
theorem index?_eq_some_iff {count : Nat} {literal : Literal} {index : Nat} :
    index? count literal = some index ↔ literal = .int index ∧ index < count := by
  cases literal with
  | int integer =>
    rw [index?, Option.ite_none_right_eq_some, Option.some_inj, Literal.int.injEq]
    omega
  | _ => exact ⟨nofun, fun named => by cases named.1⟩

theorem index?_lt {count : Nat} {literal : Literal} {index : Nat}
    (named : index? count literal = some index) : index < count :=
  (index?_eq_some_iff.1 named).2

theorem chooseIn_eq_ok {offers answered : List Offer} {place : Nat} {index : Literal}
    (done : chooseIn offers place index = .ok answered) :
    ∃ offer choice, offers[place]? = some offer ∧ offer.choose index = .ok choice ∧
      answered = offers.set place choice := by
  rw [chooseIn] at done
  split at done
  · next offer there =>
    cases chosen : offer.choose index with
    | ok choice =>
      rw [chosen] at done
      cases done
      exact ⟨offer, choice, there, chosen, rfl⟩
    | error fault =>
      rw [chosen] at done
      cases done
  · cases done

/-- Why an attempt at an offer is refused: a reply has been chosen, or the literal names none. -/
def refusal? (offer : Offer) (index : Literal) : Option Fault :=
  match offer.chosen, index? offer.count index with
  | some _, _ => some .alreadyChosen
  | none, none => some (.outOfRange index offer.count)
  | none, some _ => none

/-- An offer after an attempt. -/
def attempted (offer : Offer) (index : Literal) : Offer :=
  { offer with chosen := offer.chosen.or (index? offer.count index) }

/-- An attempt is refused for a reason, or it leaves the offer that has been attempted. -/
theorem choose_eq (offer : Offer) (index : Literal) :
    offer.choose index =
      match offer.refusal? index with
      | some fault => .error fault
      | none => .ok (offer.attempted index) := by
  obtain ⟨count, chosen⟩ := offer
  unfold choose refusal? attempted
  cases chosen with
  | some index => rfl
  | none => cases index? count index <;> rfl

/-- What is refused has no effect. -/
theorem attempted_of_refused {offer : Offer} {index : Literal} {fault : Fault}
    (refused : offer.refusal? index = some fault) : offer.attempted index = offer := by
  obtain ⟨count, chosen⟩ := offer
  unfold refusal? at refused
  unfold attempted
  cases chosen with
  | some index => rfl
  | none =>
    dsimp only at refused ⊢
    cases named : index? count index with
    | none => rfl
    | some chosen =>
      rw [named] at refused
      cases refused

end Offer

/-! ### Attempts -/

/-- A call that is to answer an offer: the place of the offer, and what is given for the number of a
reply. -/
structure Attempt where
  place : Nat
  index : Literal

namespace Attempt

/-- Offers after an attempt; one that is refused changes nothing. -/
def after (offers : List Offer) (attempt : Attempt) : List Offer :=
  match Offer.chooseIn offers attempt.place attempt.index with
  | .ok answered => answered
  | .error _ => offers

/-- The number that an attempt names, if it is made at a place and valid among `count` replies. -/
def valid? (place count : Nat) (attempt : Attempt) : Option Nat :=
  if attempt.place = place then Offer.index? count attempt.index else none

/-- The number that counts of those that are attempted at a place: the first valid one. -/
def accepted? (place count : Nat) (attempts : List Attempt) : Option Nat :=
  attempts.findSome? (valid? place count)

theorem accepted?_append (place count : Nat) (first second : List Attempt) :
    accepted? place count (first ++ second) =
      (accepted? place count first).or (accepted? place count second) := List.findSome?_append

theorem accepted?_lt {place count : Nat} {attempts : List Attempt} {index : Nat}
    (accepted : accepted? place count attempts = some index) : index < count := by
  obtain ⟨attempt, -, valid⟩ := List.exists_of_findSome?_eq_some accepted
  unfold valid? at valid
  split at valid
  · exact Offer.index?_lt valid
  · cases valid

/-- An attempt changes the offer at its place, or no offer. -/
theorem after_eq (offers : List Offer) (attempt : Attempt) :
    attempt.after offers =
      match offers[attempt.place]? with
      | some offer => offers.set attempt.place (offer.attempted attempt.index)
      | none => offers := by
  unfold after Offer.chooseIn
  cases there : offers[attempt.place]? with
  | none => rfl
  | some offer =>
    dsimp only
    rw [Offer.choose_eq]
    cases refused : offer.refusal? attempt.index with
    | none => rfl
    | some fault =>
      obtain ⟨within, rfl⟩ := List.getElem?_eq_some_iff.1 there
      rw [Offer.attempted_of_refused refused]
      exact (List.set_getElem_self within).symm

theorem length_after (offers : List Offer) (attempt : Attempt) :
    (attempt.after offers).length = offers.length := by
  rw [after_eq]
  split
  · exact List.length_set
  · rfl

theorem getElem?_after {offers : List Offer} {place : Nat} {offer : Offer}
    (there : offers[place]? = some offer) (attempt : Attempt) :
    (attempt.after offers)[place]? =
      some { offer with chosen := offer.chosen.or (attempt.valid? place offer.count) } := by
  rw [after_eq]
  unfold valid?
  by_cases same : attempt.place = place
  · obtain ⟨within, -⟩ := List.getElem?_eq_some_iff.1 there
    rw [same, there, if_pos rfl]
    exact List.getElem?_set_self within
  · rw [if_neg same, Option.or_none]
    split
    · rw [List.getElem?_set_ne same]
      exact there
    · exact there

/-- Behind any attempts the first valid one at an open offer counts. -/
theorem getElem?_attempts {offers : List Offer} {place : Nat} {offer : Offer}
    (there : offers[place]? = some offer) (attempts : List Attempt) :
    (attempts.foldl after offers)[place]? =
      some { offer with
        chosen := offer.chosen.or (accepted? place offer.count attempts) } := by
  induction attempts generalizing offers offer with
  | nil =>
    rw [accepted?, List.findSome?_nil, Option.or_none]
    exact there
  | cons attempt rest ih =>
    rw [List.foldl_cons, ih (getElem?_after there attempt), accepted?, accepted?,
      List.findSome?_cons, Option.or_assoc]
    cases attempt.valid? place offer.count <;> rfl

theorem length_attempts (offers : List Offer) (attempts : List Attempt) :
    (attempts.foldl after offers).length = offers.length := by
  induction attempts generalizing offers with
  | nil => rfl
  | cons attempt rest ih => rw [List.foldl_cons, ih, length_after]

/-- Behind any attempts the choice from the latest offer, which was open, is the first valid one. -/
theorem latest?_attempts (earlier : List Offer) (count : Nat) (attempts : List Attempt) :
    Offer.latest? (attempts.foldl after (earlier ++ [{ count := count }])) =
      accepted? earlier.length count attempts := by
  have fresh : (earlier ++ [{ count := count }])[earlier.length]? = some { count := count } :=
    List.getElem?_concat_length
  rw [Offer.latest?, List.getLast?_eq_getElem?, length_attempts, List.length_append,
    List.length_singleton, Nat.add_sub_cancel, getElem?_attempts fresh]
  rfl

end Attempt

end Parley
