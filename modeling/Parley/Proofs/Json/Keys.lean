/-
In every document that a text can be, each key of an object occurs once, for this is a
thing that documents inherit from their parts.
-/

import Mathlib.Data.List.Nodup
import Parley.Proofs.Json.Inherited

namespace Parley.Json

/-- A document that has no parts. -/
def isScalar : Json → Bool
  | array _ | object _ => false
  | _ => true

/-- Every key of an object occurs once, and so it is in the parts of the document; what lies under
other keys than those that are known may be anything. -/
inductive Distinct (known : List Text) : Json → Prop
  | scalar {document} (plain : isScalar document = true) : Distinct known document
  | array {items} (each : ∀ item ∈ items, Distinct known item) : Distinct known (.array items)
  | object {members} (distinct : (members.map Prod.fst).Nodup)
    (each : ∀ member ∈ members, member.1 ∈ known → Distinct known member.2) :
    Distinct known (.object members)

/-! ### Tokens -/

/-- A token is a document only if that has no parts. -/
def Token.Plain : Token → Prop
  | .scalar document => document.isScalar = true
  | _ => True

theorem plain_scanNumber {negative : Bool} {text : List Char} {token : Token} {length : Nat}
    (found : scanNumber negative text = some (token, length)) : token.Plain := by
  rw [scanNumber] at found
  dsimp only at found
  split at found
  · cases found
  · cases found
    rw [numberToken]
    split
    · split <;> trivial
    · split <;> trivial

theorem plain_mark (char : Char) : ((markToken? char).getD .unknown).Plain := by
  rw [markToken?.eq_def]
  split <;> trivial

theorem plain_plainToken (char : Char) (rest : List Char) : (plainToken char rest).1.Plain := by
  rw [plainToken]
  split
  · next word document found =>
    have all : ∀ entry ∈ words, entry.2.isScalar = true := by decide
    exact all _ (List.mem_of_find?_eq_some found)
  · dsimp only
    by_cases minus : char = '-'
    · rw [if_pos minus]
      cases found : scanNumber true rest with
      | none => exact plain_mark char
      | some number => exact plain_scanNumber found
    · rw [if_neg minus]
      cases found : scanNumber false (char :: rest) with
      | none => exact plain_mark char
      | some number => exact plain_scanNumber found

/-! ### What is read -/

theorem inherited_distinct (known : List Text) : Inherited (Distinct known) fun _ => True where
  string _ _ := .scalar rfl
  array _ each := .array each
  object _ members := .object members.distinct fun member among _ => members.each member among

/-- In what a text is read as, every key of an object occurs once. -/
theorem distinct_of_read {known : List Text} {text : List Char} {document : Json}
    (done : read text = .ok document) : document.Distinct known := by
  refine (inherited_distinct known).of_read (fun char rest => ?_) (fun _ => trivial) done
  have plain := plain_plainToken char rest
  generalize (plainToken char rest).1 = token at plain ⊢
  cases token with
  | scalar document => exact .scalar plain
  | _ => trivial

end Parley.Json
