/-
Documents as messages show them: lists in brackets, objects in braces with
their members in order, strings quoted, and the words True, False and None.
-/

import Parley.Double.Text
import Parley.Json.Basic
import Parley.Text.Quoted

namespace Parley.Json

mutual

/-- A document as a message shows it. -/
def listed : Json → String
  | null => "None"
  | bool truth => if truth then "True" else "False"
  | int integer => toString integer
  | float amount => String.ofList amount.listed
  | string text => text.quoted
  | array items => "[" ++ String.intercalate ", " (listedItems items) ++ "]"
  | object members => "\x7b" ++ String.intercalate ", " (listedMembers members) ++ "\x7d"

/-- The items of a list, each as a message shows it. -/
def listedItems : List Json → List String
  | [] => []
  | item :: rest => listed item :: listedItems rest

/-- The members of an object, each as a message shows it. -/
def listedMembers : List (Text × Json) → List String
  | [] => []
  | (key, value) :: rest =>
    (key.quoted ++ ": " ++ listed value) :: listedMembers rest

end

end Parley.Json
