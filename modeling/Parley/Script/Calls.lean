/-
The functions that nodes call, operators included: what a library must hold for
the nodes to run without missing one. The names are listed in the order of their
characters, each once.
-/

import Parley.Script.Statement

namespace Parley

namespace Expression

mutual

/-- The names of the functions that an expression calls, in the order of the calls. -/
def calls : Expression → List Text
  | call function operands => function :: callsAll operands
  | _ => []

/-- The names of the functions that operands call. -/
def callsAll : List Expression → List Text
  | [] => []
  | operand :: rest => calls operand ++ callsAll rest

end

end Expression

namespace Statement

mutual

/-- The names of the functions that a statement calls. -/
def calls : Statement → List Text
  | evaluate expression => expression.calls
  | assign _ expression => expression.calls
  | branch clauses otherwise => clauseCalls clauses ++ blockCalls otherwise
  | choice replies => replyCalls replies
  | _ => []

/-- The names of the functions that a block calls. -/
def blockCalls : List Statement → List Text
  | [] => []
  | statement :: rest => calls statement ++ blockCalls rest

/-- The names of the functions that clauses call. -/
def clauseCalls : List (Clause Statement) → List Text
  | [] => []
  | ⟨condition, body⟩ :: rest => condition.calls ++ blockCalls body ++ clauseCalls rest

/-- The names of the functions that replies call. -/
def replyCalls : List (Reply Statement) → List Text
  | [] => []
  | ⟨_, body, condition⟩ :: rest =>
    (condition.map Expression.calls).getD [] ++ blockCalls body ++ replyCalls rest

end

end Statement

/-- Puts a name into an ascending list unless it is there. -/
def insertName (name : Text) : List Text → List Text
  | [] => [name]
  | first :: rest =>
    if name = first then first :: rest
    else if name < first then name :: first :: rest
    else first :: insertName name rest

/-- Names in ascending order, each once. -/
def sortedNames (names : List Text) : List Text :=
  names.foldr insertName []

/-- The functions that nodes call, in ascending order. -/
def calledFunctions (nodes : List Node) : List Text :=
  sortedNames (nodes.flatMap fun node => Statement.blockCalls node.body)

end Parley
