/-
What can be wrong with a script. A text is first read as a document, the
document is checked for the shape of a script, the bodies are compiled node by
node, and the nodes are put into a table; each stage has errors of its own. An
error in a body names its place: the node, and the steps from its body down to
the offence.
-/

import Parley.File
import Parley.Json.Fault
import Parley.Json.Listed
import Parley.Text.Utf8

namespace Parley

/-! ### The shape of a script -/

/-- A step from the script to the part that has the wrong shape. -/
inductive ShapeStep where
  | name (name : String)
  | index (index : Nat)
  deriving DecidableEq, Repr

/-- What is wrong with a part. -/
inductive ShapeFault where
  | missing
  | notObject
  | notList
  | notString
  | notCharacters
  | tooShort
  deriving DecidableEq, Repr

/-- A part that has the wrong shape. -/
structure Violation where
  place : List ShapeStep
  fault : ShapeFault
  deriving DecidableEq, Repr

/-- The code of a fault of shape. -/
def ShapeFault.code : ShapeFault → String
  | missing => "missing"
  | notObject => "model_type"
  | notList => "list_type"
  | notString => "string_type"
  | notCharacters => "string_unicode"
  | tooShort => "string_too_short"

/-! ### Bodies -/

/-- A step from the body of a node down to a part of it. -/
inductive PlaceStep where
  | statement (index : Nat)
  | clause (index : Nat)
  | otherwise
  | reply (index : Nat)
  deriving DecidableEq, Repr

/-- A place in the body of a node. -/
structure Place where
  node : Text
  steps : List PlaceStep
  deriving DecidableEq, Repr

/-- A place one step further down. -/
def Place.below (place : Place) (step : PlaceStep) : Place :=
  { place with steps := place.steps ++ [step] }

/-- The wording of a step. -/
def PlaceStep.text : PlaceStep → String
  | statement index => " [" ++ toString index ++ "]"
  | clause index => " elif[" ++ toString index ++ "]"
  | otherwise => " else"
  | reply index => " option[" ++ toString index ++ "]"

/-- The wording of a place. -/
def Place.text (place : Place) : String :=
  "node " ++ place.node.quoted ++ String.join (place.steps.map PlaceStep.text)

/-- What is wrong at a place. -/
inductive Offence where
  | notStatements
  | clausesNotList
  | notClause
  | statement (document : Json)
  | target
  | reply
  | expression (document : Json)
  | operator (name : Text)
  | operands (name : Text) (expected actual : Nat)
  | operandsNotList

/-- The wording of an offence. -/
def Offence.message : Offence → Text
  | notStatements => ": expected a list of statements"
  | clausesNotList => ": 'elif' must be a list"
  | notClause => ": expected 'if' and 'then'"
  | statement document => ": unknown statement " ++ document.listed
  | target => ": 'jump' must be a node name"
  | reply => ": options need a 'text'"
  | expression document => ": unknown expression " ++ document.listed
  | operator unknown => ": unknown operator " ++ unknown.quoted
  | operands name expected actual =>
    ": operator " ++ name ++ " takes " ++ toString expected ++ " operand(s), got "
      ++ toString actual
  | operandsNotList => ": 'args' must be a list"

/-! ### Loading -/

/-- Why a script cannot be loaded. -/
inductive LoadFault where
  | unreadable (path : String) (fault : FileFault)
  | undecodable (fault : Text.DecodeFault)
  | malformed (text : List Char) (fault : Json.Fault)
  | misshapen (violations : List Violation)
  | offence (place : Place) (cause : Offence)
  | duplicate (name : Text)

/-- The kinds of failure that a host can tell apart. -/
inductive LoadKind where
  | script
  | integer
  | encoding
  | path
  deriving DecidableEq, Repr

namespace LoadFault

/-- The kind of a failure: the script itself is at fault except where a path is no path at all, a
text is no text at all or an integer is too long to be read. -/
def kind : LoadFault → LoadKind
  | malformed _ (.tooLong _) => .integer
  | undecodable _ => .encoding
  | unreadable _ .nulInPath => .path
  | _ => .script

/-- The wording of a failure. -/
def message : LoadFault → Text
  | unreadable _ .nulInPath => FileFault.nulInPath.message
  | unreadable path fault =>
    "Cannot read " ++ path ++ ": " ++ fault.message ++ ": " ++ Text.quoted path
  | undecodable fault => fault.message
  | malformed text (.tooLong digits) => Json.Fault.message text (.tooLong digits)
  | malformed text fault => "Invalid JSON: " ++ fault.message text
  | misshapen violations =>
    "Invalid script: " ++ toString violations.length ++ " validation error"
      ++ (if violations.length = 1 then "" else "s")
      ++ " for union[ScriptDocument,list[NodeDocument]]"
  | offence place cause => place.text ++ cause.message
  | duplicate name => "Duplicate node name: " ++ name

end LoadFault

end Parley
