/-
Libraries of functions. A library keeps functions by name, each with the number
of its operands; operands are counted before a function runs, so that every
function fails in the same way on too few or too many.

Libraries stand on a shelf, since a function may refer to a library other than
the one it is found in: the standard inequality asks the library that it was
made for about equality, wherever it is imported to, and a forwarding function
calls another function of its own library. A call that is only ever forwarded
would go round in circles; it fails after as many steps as there are functions
on the shelf.
-/

import Parley.Operator
import Parley.World

namespace Parley

/-- The place of a library on its shelf. -/
abbrev LibraryId := Nat

/-- What a function of the host leaves behind. -/
structure HostAnswer (Host : Type) where
  result : Except Fault Literal
  store : Store
  host : Host

/-- A function of the host: it sees the node whose body is running, its operands, the variables and
the state of the host, and may change the latter two. -/
abbrev HostFunction (Host : Type) :=
  Option Text → List Value → Store → Host → HostAnswer Host

/-- What a function does. -/
inductive Implementation (Host : Type) where
  /-- A standard operator. -/
  | operator (operator : Operator)
  /-- The negation of what the equality of a library says. -/
  | inequality (home : LibraryId)
  /-- Tells whether a node has been visited. -/
  | visited
  /-- Breaks the run off unless its operand holds. -/
  | assertion
  /-- Calls another function. -/
  | forward (home : LibraryId) (target : Text)
  /-- A function of the host. -/
  | host (function : HostFunction Host)

/-- A function: its name, the number of its operands, and what it does. -/
structure Function (Host : Type) where
  name : Text
  arity : Nat
  implementation : Implementation Host

/-- A function as a listing shows it. -/
def Function.listed {Host : Type} (function : Function Host) : Text :=
  "<function:" ++ function.name ++ "/" ++ toString function.arity ++ ">"

/-- Functions by name. -/
abbrev Library (Host : Type) := Roster (@Function.name Host)

namespace Library

variable {Host : Type}

/-- Adds a function, replacing one of the same name; its arity must not be negative. -/
def register (library : Library Host) (name : Text) (arity : Int)
    (implementation : Implementation Host) : Except Fault (Library Host) :=
  if arity < 0 then .error (.negativeArity name arity)
  else .ok (library.insert ⟨name, arity.toNat, implementation⟩)

/-- The function of a name. -/
def lookup (library : Library Host) (name : Text) : Except Fault (Function Host) :=
  match library.get? name with
  | some function => .ok function
  | none => .error (.functionNotFound name)

/-- Adds every function of another library, replacing those of the same names. -/
def importAll (library other : Library Host) : Library Host := library.insertAll other.entries

/-- The function of a standard operator in the library at a place of the shelf. -/
def standardFunction (home : LibraryId) (operator : Operator) : Function Host where
  name := operator.name
  arity := operator.arity
  implementation :=
    match operator with
    | .notEqualTo => .inequality home
    | other => .operator other

/-- The standard operators, for the library at a place of the shelf. -/
def standard (home : LibraryId) : Library Host :=
  Roster.ofList (Operator.all.map (standardFunction home))

end Library

/-- The libraries of a program. -/
structure Shelf (Host : Type) where
  libraries : List (Library Host)

namespace Shelf

variable {Host : Type}

/-- The library at a place; beyond the last place libraries are empty. -/
def library (shelf : Shelf Host) (place : LibraryId) : Library Host :=
  (shelf.libraries[place]?).getD Roster.empty

/-- Replaces the library at a place. -/
def replace (shelf : Shelf Host) (place : LibraryId) (content : Library Host) : Shelf Host :=
  ⟨shelf.libraries.set place content⟩

/-- The number of functions on the shelf. -/
def size (shelf : Shelf Host) : Nat :=
  shelf.libraries.foldr (fun library rest => library.size + rest) 0

/-- What a function of the host does to the world. -/
def runHost (function : HostFunction Host) (operands : List Value) : Act Host Value := do
  let world ← get
  let answer := function world.executing operands world.store world.host
  set { world with store := answer.store, host := answer.host }
  match answer.result with
  | .ok literal => Act.valueOf literal
  | .error fault => throw fault

/-- What an implementation does with operands of its number, where `call` calls the functions it
refers to. -/
def perform (call : LibraryId → Text → List Value → Act Host Value) (operands : List Value) :
    Implementation Host → Act Host Value
  | .operator operator => return operator.apply operands
  | .inequality home => do
    let equal ← call home Operator.equalTo.name operands
    return .bool !equal.holds
  | .visited => do
    let world ← get
    return .bool (((operands.head?).getD .null).toText ∈ world.visited)
  | .assertion => do
    if ((operands.head?).getD .null).holds then return .null
    else
      let world ← get
      Act.note (.assertFailed world.current)
      modify fun world => { world with stopping := true }
      return .null
  | .forward home target => call home target operands
  | .host function => runHost function operands

/-- Calls a function of a library, forwarding at most `steps - 1` times. -/
def callWithin (shelf : Shelf Host) :
    Nat → LibraryId → Text → List Value → Act Host Value
  | 0, _, _, _ => throw .endlessForwarding
  | steps + 1, place, name, operands =>
    match (shelf.library place).lookup name with
    | .error fault => throw fault
    | .ok function =>
      if operands.length ≠ function.arity then
        throw (.arityMismatch function.name function.arity operands.length)
      else perform (callWithin shelf steps) operands function.implementation

/-- Calls a function of a library. -/
def call (shelf : Shelf Host) (place : LibraryId) (name : Text) (operands : List Value) :
    Act Host Value :=
  callWithin shelf (shelf.size + 1) place name operands

end Shelf

end Parley
