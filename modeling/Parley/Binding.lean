/-
Bindings: the variables that a dialogue starts with, written as `NAME=VALUE`. The
value is a scalar document, or the text itself where it is none. Of two bindings
of one name the later counts, in the place of the first.
-/

import Parley.Json.Reader
import Parley.Literal
import Parley.Roster
import Parley.Text.Blank
import Parley.Text.Split

namespace Parley

/-- Why bindings cannot be read. -/
inductive BindingFault where
  | nameless (text : String)
  | tooLong (digits : Nat)
  deriving DecidableEq, Repr

namespace Binding

/-- The wording of a fault. -/
def faultMessage : BindingFault → String
  | .nameless text => "expected NAME=VALUE, got " ++ Text.quoted text
  | .tooLong digits => (Json.Fault.tooLong digits).message []

/-- The scalar that a document is. -/
def scalar? : Json → Option Literal
  | .null => some .null
  | .bool truth => some (.bool truth)
  | .int integer => some (.int integer)
  | .float amount => some (.float amount)
  | .string text => some (.string text)
  | .array _ | .object _ => none

/-- The literal that a text stands for. -/
def literal (text : List Char) : Except BindingFault Literal :=
  match Json.read text with
  | .ok document => .ok ((scalar? document).getD (.string (.ofChars text)))
  | .error (.tooLong digits) => .error (.tooLong digits)
  | .error (.misplaced _ _) => .ok (.string (.ofChars text))

/-- A binding. -/
def ofString (text : String) : Except BindingFault (Text × Literal) :=
  match Text.partition '=' text.toList with
  | (_, none) => .error (.nameless text)
  | (name, some value) =>
    match Text.trimChars name with
    | [] => .error (.nameless text)
    | name => (literal value).map fun value => (.ofChars name, value)

/-- Bindings, in order. -/
def ofList (texts : List String) : Except BindingFault (Ledger Text Literal) := do
  let bindings ← texts.mapM ofString
  return Roster.ofList bindings

/-- The values that bindings give to variables. -/
def toStore (bindings : Ledger Text Literal) : Ledger Text Value :=
  Roster.ofList (bindings.entries.filterMap fun entry =>
    entry.2.toValue.toOption.map fun value => (entry.1, value))

end Binding

end Parley
