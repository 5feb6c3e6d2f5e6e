/-
Scripts as they are run: nodes, whose bodies are lists of statements over
expressions. A block that branches holds its blocks inside, so a body is a tree,
and a run walks that tree from left to right.

`foreign` stands for a statement or an expression of a kind that a host made up:
it may stand in a body but cannot be run.
-/

import Parley.Literal

namespace Parley

/-- An expression: a literal, the value of a variable, or the call of a function. -/
inductive Expression where
  | literal (written : Literal)
  | read (name : Text)
  | call (function : Text) (operands : List Expression)
  | foreign
  deriving Inhabited

namespace Expression

mutual

/-- An expression as a listing shows it. -/
def listed : Expression → Text
  | literal written => written.listed
  | read name => name
  | call function operands => function ++ "(" ++ Text.intercalate ", " (listedAll operands) ++ ")"
  | foreign => "?"

/-- Operands, each as a listing shows it. -/
def listedAll : List Expression → List Text
  | [] => []
  | operand :: rest => listed operand :: listedAll rest

end

end Expression

/-- A condition and the block that runs if it is the first to hold. -/
structure Clause (Body : Type) where
  condition : Expression
  body : List Body

/-- An answer that the host may be offered: its text, the block that runs if it is chosen, and the
condition under which it is offered. -/
structure Reply (Body : Type) where
  text : Text
  body : List Body
  condition : Option Expression

/-- A statement. -/
inductive Statement where
  | say (text : Text)
  | command (text : Text)
  | evaluate (expression : Expression)
  | assign (name : Text) (expression : Expression)
  | branch (clauses : List (Clause Statement)) (otherwise : List Statement)
  | choice (replies : List (Reply Statement))
  | jump (target : Text)
  | foreign
  deriving Inhabited

/-- A named body with its tags. -/
structure Node where
  name : Text
  body : List Statement
  tags : List Text
  deriving Inhabited

end Parley
