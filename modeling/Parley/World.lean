/-
The world of a run: everything that statements and functions read and change.
Evaluation is a computation on it that either yields a result or fails, and a
failure keeps all that was done before it.

`Host` is the host's own state, which only the functions of the host touch.
-/

import Parley.Fault
import Parley.Journal
import Parley.Roster

namespace Parley

/-- The variables of a dialogue. -/
abbrev Store := Ledger Text Value

/-- What statements and functions read and change. -/
structure World (Host : Type) where
  store : Store
  host : Host
  /-- The nodes whose traversals are complete. -/
  visited : List Text := []
  /-- Set when an assertion has failed, or by the host: the run is to be broken off. -/
  stopping : Bool := false
  /-- The node that the run entered last. -/
  current : Option Text := none
  /-- The node whose body is running. -/
  executing : Option Text := none
  journal : Array Entry := #[]

namespace World

variable {Host : Type}

/-- Makes a note. -/
def note (world : World Host) (note : Note) : World Host :=
  { world with journal := world.journal.push ⟨world.executing, note⟩ }

/-- Marks a node as visited. -/
def visit (world : World Host) (name : Text) : World Host :=
  if name ∈ world.visited then world else { world with visited := world.visited ++ [name] }

end World

/-- A computation on the world that may fail. -/
abbrev Act (Host : Type) := EStateM Fault (World Host)

namespace Act

variable {Host : Type}

/-- Makes a note. -/
def note (note : Note) : Act Host Unit := modify fun world => world.note note

/-- The value of a literal. -/
def valueOf (literal : Literal) : Act Host Value :=
  match literal.toValue with
  | .ok value => pure value
  | .error collection => throw (.noValue collection)

end Act

end Parley
