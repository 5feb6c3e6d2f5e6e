/-
Values of the language. A value is a number, a string, a truth value or null,
and can be taken as any of the others: expressions never fail on the kind of a
value, they convert it.
-/

import Parley.Double.Text
import Parley.Double.Numeral
import Parley.Text.Blank
import Parley.Text.Quoted

namespace Parley

/-- A value of the language. -/
inductive Value where
  | number (amount : Double)
  | string (text : Text)
  | bool (truth : Bool)
  | null
  deriving DecidableEq, Inhabited

namespace Value

/-- The number that a text denotes: a numeral between blanks, and zero for anything else. -/
def numberOfText (text : Text) : Double :=
  match text.chars?.bind fun chars => Numeral.ofChars? (Text.trimChars chars) with
  | some numeral => numeral.toDouble
  | none => .zero false

/-- A value taken as a number. -/
def toNumber : Value → Double
  | number amount => amount
  | string text => numberOfText text
  | bool truth => if truth then .one else .zero false
  | null => .zero false

/-- A value taken as a text. -/
def toText : Value → Text
  | number amount => .ofChars amount.plain
  | string text => text
  | bool truth => if truth then "true" else "false"
  | null => "null"

/-- A value taken as a truth value: numbers but zero and texts but the empty one hold. -/
def holds : Value → Bool
  | number amount => amount.holds
  | string text => !text.isEmpty
  | bool truth => truth
  | null => false

/-- Tells whether a value is null. -/
def isNull : Value → Bool
  | null => true
  | _ => false

/-- Tells whether a value is a string. -/
def isString : Value → Bool
  | string _ => true
  | _ => false

/-- What a value holds, as a listing shows it. -/
def content : Value → String
  | number amount => String.ofList amount.listed
  | string text => text.quoted
  | bool truth => if truth then "True" else "False"
  | null => "None"

/-- A value as a listing shows it. -/
def listed (value : Value) : String := "Value(" ++ value.content ++ ")"

end Value

end Parley
