/-
Offers: the replies that a host was offered, and its choice. The first valid
choice counts; a choice is valid if it is the number of a reply, and once one
has been made every further one is refused. Refused choices change nothing. An
index that is out of range is listed where it is refused, so one that cannot be
listed is refused with a fault that is none of the dialogue's.
-/

import Parley.Fault

namespace Parley

/-- A number of replies and the one that was chosen, if one was. -/
structure Offer where
  count : Nat
  chosen : Option Nat := none
  deriving DecidableEq, Repr

namespace Offer

/-- The number of a reply that a literal names. -/
def index? (count : Nat) : Literal → Option Nat
  | .int integer => if 0 ≤ integer ∧ integer < count then some integer.toNat else none
  | _ => none

/-- Chooses a reply. -/
def choose (offer : Offer) (index : Literal) : Except Fault Offer :=
  match offer.chosen with
  | some _ => .error .alreadyChosen
  | none =>
    match index? offer.count index with
    | some chosen => .ok { offer with chosen := some chosen }
    | none => .error (.outOfRange index offer.count)

/-- Chooses a reply of one of several offers. There is nothing to choose from where there was no
offer. -/
def chooseIn (offers : List Offer) (place : Nat) (index : Literal) : Except Fault (List Offer) :=
  match offers[place]? with
  | some offer => do
    let answered ← offer.choose index
    return offers.set place answered
  | none => .error (.outOfRange index 0)

/-- The choice from the latest offer. -/
def latest? (offers : List Offer) : Option Nat := offers.getLast?.bind chosen

end Offer

end Parley
