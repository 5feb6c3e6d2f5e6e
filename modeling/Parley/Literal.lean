/-
Literals: what scripts and hosts write where a value is wanted. Integers of any
size and numbers are kept apart here, because a listing of the script shows the
difference; as values both are numbers. Lists and dictionaries can be written
but have no value.
-/

import Parley.Json.Fault
import Parley.Value

namespace Parley

/-- What may be written where a value is wanted. -/
inductive Literal where
  | null
  | bool (truth : Bool)
  | int (integer : Int)
  | float (number : Double)
  | string (text : Text)
  | list (items : List Literal)
  | dictionary (entries : List (Text × Literal))
  | value (given : Value)
  deriving Inhabited

/-- The kinds of literals that have no value. -/
inductive Collection where
  | list
  | dictionary
  deriving DecidableEq, Repr

namespace Literal

/-- The value of a literal, or the kind that has none. -/
def toValue : Literal → Except Collection Value
  | null => .ok .null
  | bool truth => .ok (.bool truth)
  | int integer => .ok (.number (.ofInt integer))
  | float number => .ok (.number number)
  | string text => .ok (.string text)
  | value given => .ok given
  | list _ => .error .list
  | dictionary _ => .error .dictionary

/-- The literal that a value is written as. -/
def ofValue : Value → Literal
  | .number number => float number
  | .string text => string text
  | .bool truth => bool truth
  | .null => null

mutual

/-- A literal as a listing shows it. -/
def listed : Literal → String
  | null => "None"
  | bool truth => if truth then "True" else "False"
  | int integer => toString integer
  | float number => String.ofList number.listed
  | string text => text.quoted
  | value given => given.listed
  | list items => "[" ++ String.intercalate ", " (listedItems items) ++ "]"
  | dictionary entries => "\x7b" ++ String.intercalate ", " (listedEntries entries) ++ "\x7d"

/-- The items of a list, each as a listing shows it. -/
def listedItems : List Literal → List String
  | [] => []
  | item :: rest => listed item :: listedItems rest

/-- The entries of a dictionary, each as a listing shows it. -/
def listedEntries : List (Text × Literal) → List String
  | [] => []
  | (key, item) :: rest => (key.quoted ++ ": " ++ listed item) :: listedEntries rest

end

mutual

/-- Tells whether a listing can show a literal. It cannot show integers of too many digits, wherever
in the literal they stand. -/
def isListable : Literal → Bool
  | int integer => integer.natAbs < Nat.pow 10 Json.digitLimit
  | list items => areListable items
  | dictionary entries => entriesListable entries
  | _ => true

/-- Tells whether a listing can show the items of a list. -/
def areListable : List Literal → Bool
  | [] => true
  | item :: rest => isListable item && areListable rest

/-- Tells whether a listing can show the entries of a dictionary. -/
def entriesListable : List (Text × Literal) → Bool
  | [] => true
  | (_, item) :: rest => isListable item && entriesListable rest

end

end Literal

end Parley
