/-
Bodies: the statements that documents are compiled to. The parts of a document
are compiled from left to right, and the first offence is the one reported.
-/

import Parley.Operator
import Parley.Script.Draft
import Parley.Script.Form
import Parley.Script.Statement

namespace Parley

namespace Body

/-- A failure at a place. -/
def refuse {Compiled : Type} (place : Place) (offence : Offence) : Except LoadFault Compiled :=
  .error (.offence place offence)

mutual

/-- The expression of a document. An operator must be known and have as many operands as it
takes. -/
def expression (place : Place) (document : Json) : Except LoadFault Expression :=
  match _shown : document.expressionForm with
  | .literal written => .ok (.literal written)
  | .read name => .ok (.read name)
  | .call function (some items) => do
    let operands ← expressions place items
    return .call function operands
  | .call _ none => refuse place .operandsNotList
  | .operator name operands =>
    match Operator.ofName? name, _given : operands with
    | none, _ => refuse place (.operator name)
    | some _, none => refuse place .operandsNotList
    | some operator, some items => do
      let operands ← expressions place items
      if operands.length = operator.arity then return .call operator.name operands
      else refuse place (.operands operator.name operator.arity operands.length)
  | .unknown => refuse place (.expression document)
termination_by 2 * sizeOf document + 1
decreasing_by
  · have := Json.sizeOf_call ‹_›
    omega
  · subst_vars
    have := Json.sizeOf_operator ‹_›
    omega

/-- The expressions of a list of documents. -/
def expressions (place : Place) : List Json → Except LoadFault (List Expression)
  | [] => .ok []
  | document :: rest => do
    let first ← expression place document
    let others ← expressions place rest
    return first :: others
termination_by documents => 2 * sizeOf documents
decreasing_by
  · simp only [List.cons.sizeOf_spec]
    omega
  · simp only [List.cons.sizeOf_spec]
    omega

end

mutual

/-- The statement of a document. -/
def statement (place : Place) (document : Json) : Except LoadFault Statement :=
  match _shown : document.statementForm with
  | .say text => .ok (.say text)
  | .command text => .ok (.command text)
  | .call => do
    let call ← expression place document
    return .evaluate call
  | .assign name part => do
    let value ← expression place part
    return .assign name value
  | .branch condition body extras otherwise => do
    let condition ← expression place condition
    let body ← block place body
    match _given : extras with
    | none => refuse place .clausesNotList
    | some items => do
      let others ← clauses place 0 items
      let final ←
        (match _present : otherwise with
        | none => .ok []
        | some part => block (place.below .otherwise) part : Except LoadFault (List Statement))
      return .branch (⟨condition, body⟩ :: others) final
  | .choice items => do
    let offered ← replies place 0 items
    return .choice offered
  | .jump target => .ok (.jump target)
  | .unknown => refuse place (.statement document)
termination_by 3 * sizeOf document + 2
decreasing_by
  · have := Json.sizeOf_branch ‹_›
    omega
  · have := (Json.sizeOf_branch ‹_›).2.2.1 _ ‹_›
    omega
  · have := (Json.sizeOf_branch ‹_›).2.2.2 _ rfl
    omega
  · have := Json.sizeOf_choice ‹_›
    omega

/-- The block of a document, which must be a list. -/
def block (place : Place) (document : Json) : Except LoadFault (List Statement) :=
  match _list : document.items? with
  | none => refuse place .notStatements
  | some items => statements place 0 items
termination_by 3 * sizeOf document + 1
decreasing_by
  have := Json.sizeOf_items? ‹_›
  omega

/-- The statements of a list of documents, the first under the number `index`. -/
def statements (place : Place) (index : Nat) : List Json → Except LoadFault (List Statement)
  | [] => .ok []
  | document :: rest => do
    let first ← statement (place.below (.statement index)) document
    let others ← statements place (index + 1) rest
    return first :: others
termination_by documents => 3 * sizeOf documents
decreasing_by
  · simp only [List.cons.sizeOf_spec]
    omega
  · simp only [List.cons.sizeOf_spec]
    omega

/-- The further clauses of a branch, the first under the number `index`. -/
def clauses (place : Place) (index : Nat) :
    List Json → Except LoadFault (List (Clause Statement))
  | [] => .ok []
  | document :: rest =>
    match _found : document.clauseForm? with
    | none => refuse (place.below (.clause index)) .notClause
    | some form => do
      let condition ← expression (place.below (.clause index)) form.condition
      let body ← block (place.below (.clause index)) form.body
      let others ← clauses place (index + 1) rest
      return ⟨condition, body⟩ :: others
termination_by documents => 3 * sizeOf documents
decreasing_by
  · have := Json.sizeOf_clauseForm? ‹_›
    simp only [List.cons.sizeOf_spec]
    omega
  · simp only [List.cons.sizeOf_spec]
    omega

/-- The replies of a choice, the first under the number `index`. A reply with a target leaves for
it after its block. -/
def replies (place : Place) (index : Nat) : List Json → Except LoadFault (List (Reply Statement))
  | [] => .ok []
  | document :: rest =>
    match _found : document.replyForm? with
    | none => refuse (place.below (.reply index)) .reply
    | some form => do
      let body ←
        (match _given : form.body with
        | none => .ok []
        | some part => block (place.below (.reply index)) part : Except LoadFault (List Statement))
      let jump ←
        (match form.target with
        | none => .ok []
        | some none => refuse (place.below (.reply index)) .target
        | some (some target) => .ok [Statement.jump target] : Except LoadFault (List Statement))
      let condition ←
        (match form.condition with
        | none => .ok none
        | some part => do
          let condition ← expression (place.below (.reply index)) part
          return some condition : Except LoadFault (Option Expression))
      let others ← replies place (index + 1) rest
      return ⟨form.text, body ++ jump, condition⟩ :: others
termination_by documents => 3 * sizeOf documents
decreasing_by
  · have := (Json.sizeOf_reply ‹_›).1 _ ‹_›
    simp only [List.cons.sizeOf_spec]
    omega
  · simp only [List.cons.sizeOf_spec]
    omega

end

/-- The node of a draft. -/
def node (draft : Draft) : Except LoadFault Node := do
  let body ← statements ⟨draft.title, []⟩ 0 draft.body
  return ⟨draft.title, body, draft.tags⟩

end Body

end Parley
