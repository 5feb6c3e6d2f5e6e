/-
Documents: the data that scripts and bindings are written in. Members of an
object keep the order in which their keys first came, and integers of any size
are kept apart from numbers.
-/

import Parley.Double.Basic
import Parley.Text.Basic

namespace Parley

/-- A document. -/
inductive Json where
  | null
  | bool (truth : Bool)
  | int (integer : Int)
  | float (amount : Double)
  | string (text : Text)
  | array (items : List Json)
  | object (members : List (Text × Json))
  deriving Inhabited

namespace Json

/-- The value under a key. -/
def member? (key : Text) : Json → Option Json
  | object members => (members.find? fun member => member.1 = key).map Prod.snd
  | _ => none

/-- The text of a string document. -/
def text? : Json → Option Text
  | string text => some text
  | _ => none

/-- The items of an array. -/
def items? : Json → Option (List Json)
  | array items => some items
  | _ => none

/-- What lies under a key is a part of the document. -/
theorem sizeOf_member? {key : Text} {document value : Json}
    (found : document.member? key = some value) : sizeOf value < sizeOf document := by
  cases document with
  | object members =>
    obtain ⟨⟨name, part⟩, present, rfl⟩ := Option.map_eq_some_iff.1 found
    have inside := List.sizeOf_lt_of_mem (List.mem_of_find?_eq_some present)
    simp only [Json.object.sizeOf_spec, Prod.mk.sizeOf_spec] at inside ⊢
    omega
  | _ => simp [member?] at found

/-- An item of an array is a part of the document. -/
theorem sizeOf_items? {document : Json} {items : List Json}
    (found : document.items? = some items) : sizeOf items < sizeOf document := by
  cases document with
  | array _ =>
    obtain rfl := Option.some.inj found
    simp only [Json.array.sizeOf_spec]
    omega
  | _ => simp [items?] at found

end Json

end Parley
