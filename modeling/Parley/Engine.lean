/-
The engine: runs the body of one node and yields its results one at a time. Work
is done only when a result is asked for, so whatever the host does between two
results is seen by everything that comes after.

A traversal that waits is a value: the statements that are left. A block that is
entered is put in front of what is left, and a jump drops all of it, so there is
nothing to return to and no block to leave. Asking for a result takes statements
off the front until one of them yields; what is left is then smaller than it
was, and so the search ends.
-/

import Parley.Library
import Parley.Script.Statement

namespace Parley

/-- What the host is handed. -/
inductive Event where
  | line (text : Text)
  | command (text : Text)
  | options (texts : List Text)
  deriving DecidableEq, Repr

/-- What a traversal yields: events, and at last the name of the next node, if there is one. -/
inductive Result where
  | event (event : Event)
  | complete (next : Option Text)
  deriving DecidableEq, Repr

/-- The state of a traversal: not begun, waiting with statements left, waiting for the host's choice
among the replies it was offered, or over. -/
inductive Traversal where
  | fresh (node : Node)
  | within (name : Text) (rest : List Statement)
  | offered (name : Text) (replies : List (Reply Statement)) (rest : List Statement)
  | ended

namespace Engine

variable {Host : Type} (call : Text → List Value → Act Host Value)

/-! ### Expressions -/

mutual

/-- The value of an expression. Operands are evaluated from left to right, all of them, before the
function is called. -/
def evaluate : Expression → Act Host Value
  | .literal written => Act.valueOf written
  | .read name => do
    let world ← get
    return (world.store.find? name).getD .null
  | .call function operands => do
    let values ← evaluateAll operands
    call function values
  | .foreign => throw .unknownExpression

/-- The values of expressions, from left to right. -/
def evaluateAll : List Expression → Act Host (List Value)
  | [] => return []
  | expression :: rest => do
    let value ← evaluate expression
    let values ← evaluateAll rest
    return value :: values

end

/-- Tells whether a condition holds; no condition does. -/
def admits : Option Expression → Act Host Bool
  | none => return true
  | some condition => do
    let value ← evaluate call condition
    return value.holds

/-- The replies whose conditions hold; every condition is evaluated once, in order. -/
def available : List (Reply Statement) → Act Host (List (Reply Statement))
  | [] => return []
  | reply :: rest => do
    let admitted ← admits call reply.condition
    let others ← available rest
    return if admitted then reply :: others else others

/-! ### Statements -/

theorem sizeOf_block_append (first second : List Statement) :
    sizeOf (first ++ second) + 1 = sizeOf first + sizeOf second := by
  induction first with
  | nil => simp; omega
  | cons head tail ih => simp; omega

/-- The end of a traversal. -/
def finish (name : Text) (next : Option Text) : Act Host (Result × Traversal) := do
  Act.note (.nodeCompleted name next)
  return (.complete next, .ended)

/-- Runs statements of a node until one yields a result. -/
def advance (name : Text) : List Statement → Act Host (Result × Traversal)
  | [] => finish name none
  | .say text :: rest => return (.event (.line text), .within name rest)
  | .command text :: rest => return (.event (.command text), .within name rest)
  | .evaluate expression :: rest => do
    let _ ← evaluate call expression
    advance name rest
  | .assign target expression :: rest => do
    let value ← evaluate call expression
    Act.note (.assigned target value)
    modify fun world => { world with store := world.store.put target value }
    advance name rest
  | .branch [] otherwise :: rest => advance name (otherwise ++ rest)
  | .branch (⟨condition, body⟩ :: clauses) otherwise :: rest => do
    let value ← evaluate call condition
    if value.holds then advance name (body ++ rest)
    else advance name (.branch clauses otherwise :: rest)
  | .choice replies :: rest => do
    match ← available call replies with
    | [] =>
      Act.note .choiceSkipped
      advance name rest
    | offers => return (.event (.options (offers.map Reply.text)), .offered name offers rest)
  | .jump target :: _ => finish name (some target)
  | .foreign :: _ => throw .unknownStatement
termination_by statements => sizeOf statements
decreasing_by
  · decreasing_tactic
  · decreasing_tactic
  · have := sizeOf_block_append otherwise rest
    simp_wf
    omega
  · have := sizeOf_block_append body rest
    simp_wf
    omega
  · decreasing_tactic
  · decreasing_tactic

/-- The next result of a traversal, if there is one left. `chosen` is the host's choice, which is
looked at only where replies were offered. -/
def pull (chosen : Option Nat) : Traversal → Act Host (Option (Result × Traversal))
  | .fresh node => do
    Act.note (.nodeEntered node.name)
    let result ← advance call node.name node.body
    return some result
  | .within name rest => do
    let result ← advance call name rest
    return some result
  | .offered name replies rest =>
    match chosen with
    | none => throw .notChosen
    | some index =>
      match replies[index]? with
      | none => throw .notChosen
      | some reply => do
        Act.note (.optionChosen index)
        let result ← advance call name (reply.body ++ rest)
        return some result
  | .ended => return none

end Engine

end Parley
