/-
Forms: how a document is to be read where a statement, a clause, a reply or an
expression is wanted. The form is decided by the keys of the object alone; what
lies under them is read later. Of several forms that fit, the first counts.
-/

import Parley.Json.Basic
import Parley.Literal

namespace Parley

/-- The text under a key of a document, if there is one. -/
def Json.textUnder? (key : Text) (document : Json) : Option Text :=
  (document.member? key).bind text?

/-- The list under a key, empty if there is nothing under it, none if there is something else. -/
def Json.listUnder (key : Text) (document : Json) : Option (List Json) :=
  match document.member? key with
  | some part => part.items?
  | none => some []

/-- How an expression is written. The operands are missing if they are not given as a list. -/
inductive ExpressionForm where
  | literal (written : Literal)
  | read (name : Text)
  | call (function : Text) (operands : Option (List Json))
  | operator (name : Text) (operands : Option (List Json))
  | unknown

/-- How a statement is written. -/
inductive StatementForm where
  | say (text : Text)
  | command (text : Text)
  | call
  | assign (name : Text) (expression : Json)
  | branch (condition body : Json) (clauses : Option (List Json)) (otherwise : Option Json)
  | choice (replies : List Json)
  | jump (target : Text)
  | unknown

/-- How a clause is written. -/
structure ClauseForm where
  condition : Json
  body : Json

/-- How a reply is written. The target is missing if it is given but no text. -/
structure ReplyForm where
  text : Text
  body : Option Json
  target : Option (Option Text)
  condition : Option Json

namespace Json

/-- The form of an expression: a scalar, a variable, a call, or an operator. -/
def expressionForm (document : Json) : ExpressionForm :=
  match document with
  | .null => .literal .null
  | .bool truth => .literal (.bool truth)
  | .int integer => .literal (.int integer)
  | .float amount => .literal (.float amount)
  | .string text => .literal (.string text)
  | .array _ => .unknown
  | .object _ =>
    match document.textUnder? "var", document.textUnder? "call", document.member? "op" with
    | some name, _, _ => .read name
    | none, some function, _ => .call function (document.listUnder "args")
    | none, none, some (.string name) => .operator name (document.listUnder "args")
    | none, none, _ => .unknown

/-- The form of a clause. -/
def clauseForm? (document : Json) : Option ClauseForm :=
  match document.member? "if", document.member? "then" with
  | some condition, some body => some ⟨condition, body⟩
  | _, _ => none

/-- The variable and the expression of an assignment. -/
def assignment? (document : Json) : Option (Text × Json) :=
  match document.textUnder? "set", document.member? "to" with
  | some name, some expression => some (name, expression)
  | _, _ => none

/-- The list under a key, if there is one. -/
def listUnder? (key : Text) (document : Json) : Option (List Json) :=
  (document.member? key).bind items?

/-- The form of a statement: a line, a command, a call, an assignment, a branch, a choice, or a
jump. -/
def statementForm (document : Json) : StatementForm :=
  match document.textUnder? "line", document.textUnder? "command", document.textUnder? "call",
    document.assignment?, document.clauseForm?, document.listUnder? "options",
    document.textUnder? "jump" with
  | some text, _, _, _, _, _, _ => .say text
  | none, some text, _, _, _, _, _ => .command text
  | none, none, some _, _, _, _, _ => .call
  | none, none, none, some (name, expression), _, _, _ => .assign name expression
  | none, none, none, none, some first, _, _ =>
    .branch first.condition first.body (document.listUnder "elif") (document.member? "else")
  | none, none, none, none, none, some replies, _ => .choice replies
  | none, none, none, none, none, none, some target => .jump target
  | none, none, none, none, none, none, none => .unknown

/-- The form of a reply. -/
def replyForm? (document : Json) : Option ReplyForm :=
  (document.textUnder? "text").map fun text =>
    { text
      body := document.member? "body"
      target := (document.member? "jump").map fun _ => document.textUnder? "jump"
      condition := document.member? "if" }

/-! ### Parts are smaller -/

theorem sizeOf_listUnder {key : Text} {document : Json} {items : List Json}
    (found : document.listUnder key = some items) : sizeOf items ≤ sizeOf document := by
  unfold listUnder at found
  split at found
  next part present =>
    have := sizeOf_items? found
    have := sizeOf_member? present
    omega
  next absent =>
    obtain rfl := Option.some.inj found
    cases document <;> simp +arith

theorem sizeOf_listUnder? {key : Text} {document : Json} {items : List Json}
    (found : document.listUnder? key = some items) : sizeOf items < sizeOf document := by
  obtain ⟨part, present, list⟩ := Option.bind_eq_some_iff.1 found
  have := sizeOf_member? present
  have := sizeOf_items? list
  omega

theorem sizeOf_call {document : Json} {function : Text} {items : List Json}
    (shown : document.expressionForm = .call function (some items)) :
    sizeOf items ≤ sizeOf document := by
  unfold expressionForm at shown
  split at shown <;> try cases shown
  split at shown <;> try cases shown
  injection shown with _ same
  exact sizeOf_listUnder same

theorem sizeOf_operator {document : Json} {name : Text} {items : List Json}
    (shown : document.expressionForm = .operator name (some items)) :
    sizeOf items ≤ sizeOf document := by
  unfold expressionForm at shown
  split at shown <;> try cases shown
  split at shown <;> try cases shown
  injection shown with _ same
  exact sizeOf_listUnder same

theorem sizeOf_clauseForm? {document : Json} {form : ClauseForm}
    (found : document.clauseForm? = some form) :
    sizeOf form.condition < sizeOf document ∧ sizeOf form.body < sizeOf document := by
  unfold clauseForm? at found
  split at found
  next condition body first second =>
    obtain rfl := Option.some.inj found
    exact ⟨sizeOf_member? first, sizeOf_member? second⟩
  next => cases found

theorem sizeOf_branch {document condition body : Json} {clauses : Option (List Json)}
    {otherwise : Option Json}
    (shown : document.statementForm = .branch condition body clauses otherwise) :
    sizeOf condition < sizeOf document ∧ sizeOf body < sizeOf document ∧
      (∀ items, clauses = some items → sizeOf items ≤ sizeOf document) ∧
      ∀ part, otherwise = some part → sizeOf part < sizeOf document := by
  unfold statementForm at shown
  split at shown <;> try cases shown
  next found =>
    have parts := sizeOf_clauseForm? found
    exact ⟨parts.1, parts.2, fun _ list => sizeOf_listUnder list,
      fun _ present => sizeOf_member? present⟩

theorem sizeOf_choice {document : Json} {replies : List Json}
    (shown : document.statementForm = .choice replies) : sizeOf replies < sizeOf document := by
  unfold statementForm at shown
  split at shown <;> try cases shown
  next found => exact sizeOf_listUnder? found

theorem sizeOf_reply {document : Json} {form : ReplyForm}
    (found : document.replyForm? = some form) :
    (∀ part, form.body = some part → sizeOf part < sizeOf document) ∧
      ∀ part, form.condition = some part → sizeOf part < sizeOf document := by
  obtain ⟨_, _, rfl⟩ := Option.map_eq_some_iff.1 found
  exact ⟨fun _ present => sizeOf_member? present, fun _ present => sizeOf_member? present⟩

end Json

end Parley
