/-
What can go wrong when a dialogue is set up and run. A host that guards itself
against dialogues catches every fault of the dialogue itself; the others are
mistakes in how the library is used.
-/

import Parley.Literal
import Parley.Script.Offence

namespace Parley

/-- The sinks that a host provides. -/
inductive Sink where
  | debug
  | error
  deriving DecidableEq, Repr

/-- What a dialogue needs its sinks for. -/
inductive Activity where
  | loading
  | running
  deriving DecidableEq, Repr

/-- What can go wrong. -/
inductive Fault where
  | load (cause : LoadFault)
  | nodeNotFound (name : Text)
  | functionNotFound (name : Text)
  | arityMismatch (name : Text) (expected actual : Nat)
  | negativeArity (name : Text) (arity : Int)
  | sinkMissing (sink : Sink) (activity : Activity)
  | sinkGone
  | alreadyChosen
  /-- An index is that of none of so many replies. Whoever says so has to list the index, and fails
  at this if the index cannot be listed. -/
  | outOfRange (index : Literal) (count : Nat)
  | notChosen
  | unknownExpression
  | unknownStatement
  | raised (message : Text)
  | noValue (collection : Collection)
  | endlessForwarding

namespace Fault

/-- The wording of a collection. -/
def collectionName : Collection → String
  | .list => "list"
  | .dictionary => "dict"

/-- What is said where an integer of too many digits is to be listed. -/
def unlistable : String :=
  "Exceeds the limit (" ++ toString Json.digitLimit
    ++ " digits) for integer string conversion; use sys.set_int_max_str_digits() to increase the limit"

/-- The wording of a fault. -/
def message : Fault → Text
  | load cause => cause.message
  | nodeNotFound name => "Can't find node " ++ name
  | functionNotFound name => "Function " ++ name ++ " is not defined"
  | arityMismatch name expected actual =>
    "Function " ++ name ++ " expects " ++ toString expected ++ " argument(s), got "
      ++ toString actual
  | negativeArity name arity =>
    "Function " ++ name ++ " cannot have negative arity " ++ toString arity
  | sinkMissing sink activity =>
    (match sink with
      | .debug => "log_debug"
      | .error => "log_error")
    ++ " must be set before "
    ++ match activity with
      | .loading => "loading"
      | .running => "running"
  | sinkGone => "'NoneType' object is not callable"
  | alreadyChosen => "An option was already chosen for this option set"
  | outOfRange index count =>
    if index.isListable then
      "Option index " ++ index.listed ++ " is out of range for " ++ toString count ++ " option(s)"
    else unlistable
  | notChosen => "Resumed past an option set without choosing an option"
  | unknownExpression => "Unknown expression type: Expression"
  | unknownStatement => "Unknown statement type: Statement"
  | raised message => message
  | noValue collection => "Cannot make a Value from " ++ collectionName collection
  | endlessForwarding => "maximum recursion depth exceeded"

/-- Tells whether a fault is one of the dialogue itself, which a host is meant to catch. That an
index is out of range is one only if it can be said. -/
def ofDialogue : Fault → Bool
  | load cause => cause.kind = .script
  | outOfRange index _ => index.isListable
  | negativeArity _ _ | sinkGone | noValue _ | endlessForwarding => false
  | _ => true

end Fault

end Parley
