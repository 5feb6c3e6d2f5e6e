/-
Rehearsals: a host that stands in for the program a script is written for. Its
functions answer with constants or with their operands, keep count, keep a
record of their calls, or fail, so a script can be tried out before the
functions it calls exist.
-/

import Parley.Library

namespace Parley

/-- The state of a rehearsal: the recorded calls, and how often each counter was asked. -/
structure Rehearsal where
  calls : List (List Text) := []
  counters : List Nat := []

namespace Rehearsal

/-- A function that stands in for one of the program's. -/
inductive Part where
  /-- Answers with a constant. -/
  | constant (answer : Literal)
  /-- Answers with the operand at a place. -/
  | operand (place : Nat)
  /-- Records the texts of the operands and answers with nothing. -/
  | record
  /-- Joins the texts of the operands with vertical bars. -/
  | joined
  /-- Adds up the operands from left to right. -/
  | sum
  /-- Counts its calls. -/
  | counter (place : Nat)
  /-- Fails. -/
  | failing (message : Text)
  /-- Answers with the name of the node whose body is running. -/
  | context
  /-- Sets a variable to its first operand. -/
  | writer (name : Text)

/-- A new counter. -/
def newCounter (rehearsal : Rehearsal) : Rehearsal × Nat :=
  ({ rehearsal with counters := rehearsal.counters ++ [0] }, rehearsal.counters.length)

/-- The sum of values taken as numbers, from left to right. -/
def total (operands : List Value) : Double :=
  operands.foldl (fun sum operand => sum.add operand.toNumber) (.zero false)

/-- What a part answers. -/
def play (part : Part) : HostFunction Rehearsal := fun running operands store rehearsal =>
  match part with
  | .constant answer => ⟨.ok answer, store, rehearsal⟩
  | .operand place => ⟨.ok (.value ((operands[place]?).getD .null)), store, rehearsal⟩
  | .record =>
    ⟨.ok .null, store,
      { rehearsal with calls := rehearsal.calls ++ [operands.map Value.toText] }⟩
  | .joined =>
    ⟨.ok (.string (Text.intercalate "|" (operands.map Value.toText))), store, rehearsal⟩
  | .sum => ⟨.ok (.float (total operands)), store, rehearsal⟩
  | .counter place =>
    let count := (rehearsal.counters[place]?).getD 0 + 1
    ⟨.ok (.int count), store,
      { rehearsal with counters := rehearsal.counters.set place count }⟩
  | .failing message => ⟨.error (.raised message), store, rehearsal⟩
  | .context => ⟨.ok (.string (contextName running)), store, rehearsal⟩
  | .writer name =>
    ⟨.ok (.bool true), store.put name ((operands.head?).getD .null), rehearsal⟩

end Rehearsal

end Parley
