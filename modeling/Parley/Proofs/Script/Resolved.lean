/-
This file says what the compiler sees to by itself. It writes only scalars where
literals are wanted, and makes no statement and no expression of a foreign kind. So of
all that can be wrong with a body that comes from a script, nothing is left but its
calls: a body resolves as soon as its calls do.
-/

import Parley.Proofs.Engine.Supply
import Parley.Proofs.Engine.Resolved
import Parley.Proofs.Script.Image

namespace Parley

variable {known : Text → Prop}

/-! ### Expressions -/

theorem Literal.Scalar.toValue {written : Literal} (scalar : written.Scalar) :
    ∃ value, written.toValue = .ok value := by
  cases written with
  | list => cases scalar
  | dictionary => cases scalar
  | value => cases scalar
  | _ => exact ⟨_, rfl⟩

namespace Expression

mutual

/-- An expression of documented forms resolves if the functions that it calls are known. -/
theorem resolves_of_documented :
    ∀ expression : Expression, expression.Documented → (∀ name ∈ expression.calls, known name) →
      expression.Resolves fun name _ => known name
  | .literal _, scalar, _ => Literal.Scalar.toValue scalar
  | .read _, _, _ => trivial
  | .call function operands, documented, all => by
    refine ⟨all function List.mem_cons_self, ?_⟩
    exact resolveAll_of_documented operands documented fun name called =>
      all name (List.mem_cons_of_mem _ called)
  | .foreign, documented, _ => documented.elim

theorem resolveAll_of_documented :
    ∀ expressions : List Expression, AllDocumented expressions →
      (∀ name ∈ callsAll expressions, known name) →
      ResolveAll (fun name _ => known name) expressions
  | [], _, _ => trivial
  | expression :: rest, documented, all => by
    refine ⟨resolves_of_documented expression documented.1 fun name called => ?_,
      resolveAll_of_documented rest documented.2 fun name called => ?_⟩
    · exact all name (List.mem_append_left _ called)
    · exact all name (List.mem_append_right _ called)

end

end Expression

/-! ### Bodies -/

namespace Body

theorem resolves_expression {place : Place} {document : Json} {compiled : Expression}
    (done : expression place document = .ok compiled)
    (all : ∀ name ∈ compiled.calls, known name) :
    compiled.Resolves fun name _ => known name :=
  compiled.resolves_of_documented (documented_expression document done) all

theorem resolves_condition {place : Place} {part : Option Json} {condition : Option Expression}
    (tested : ConditionOf place part condition)
    (all : ∀ name ∈ (condition.map Expression.calls).getD [], known name) :
    ∀ expression ∈ condition, expression.Resolves fun name _ => known name := by
  cases tested with
  | absent => rintro _ ⟨⟩
  | written done =>
    rintro _ ⟨⟩
    exact resolves_expression done all

theorem resolves_target {target : Option (Option Text)} {jump : List Statement}
    (leaves : TargetOf target jump) : Statement.BlockResolves (fun name _ => known name) jump := by
  cases leaves with
  | absent => trivial
  | written target => exact ⟨trivial, trivial⟩

mutual

/-- What a statement is compiled to resolves if the functions that it calls are known. -/
theorem resolves_statement {place : Place} (document : Json) {compiled : Statement}
    (done : statement place document = .ok compiled)
    (all : ∀ name ∈ compiled.calls, known name) : compiled.Resolves fun name _ => known name := by
  have shape := statement_iff.1 done
  cases form : document.statementForm with
  | say text =>
    rw [form] at shape
    cases shape
    trivial
  | command text =>
    rw [form] at shape
    cases shape
    trivial
  | call =>
    rw [form] at shape
    cases shape with
    | call whole => exact resolves_expression whole all
  | assign name part =>
    rw [form] at shape
    cases shape with
    | assign _ assigned => exact resolves_expression assigned all
  | branch condition body clauses otherwise =>
    rw [form] at shape
    cases shape with
    | branch tested inside further last =>
      obtain ⟨items, list, inner⟩ := block_iff.1 inside
      obtain ⟨-, small, few, behind⟩ := Json.sizeOf_branch form
      have within := Json.sizeOf_items? list
      have fewer := few _ rfl
      simp only [Statement.calls, Statement.clauseCalls, List.mem_append] at all
      refine ⟨⟨⟨resolves_expression tested fun name called => ?_, ?_⟩, ?_⟩, ?_⟩
      · exact all name (.inl (.inl (.inl called)))
      · exact resolves_statements items inner fun name called =>
          all name (.inl (.inl (.inr called)))
      · exact resolves_clauses _ further fun name called => all name (.inl (.inr called))
      · obtain empty | ⟨part, parts, rfl, list, inner⟩ := items_of_otherwise last
        · rw [empty]
          trivial
        · have smaller := behind _ rfl
          have inPart := Json.sizeOf_items? list
          exact resolves_statements parts inner fun name called => all name (.inr called)
  | choice items =>
    rw [form] at shape
    cases shape with
    | choice parts =>
      have smaller := Json.sizeOf_choice form
      exact resolves_replies items parts all
  | jump target =>
    rw [form] at shape
    cases shape
    trivial
  | unknown =>
    rw [form] at shape
    cases shape
termination_by 3 * sizeOf document + 2

theorem resolves_statements {place : Place} {index : Nat} :
    ∀ (documents : List Json) {compiled : List Statement},
      statements place index documents = .ok compiled →
      (∀ name ∈ Statement.blockCalls compiled, known name) →
      Statement.BlockResolves (fun name _ => known name) compiled
  | [], compiled, done, _ => by
    rw [statements_nil] at done
    cases done
    trivial
  | document :: rest, compiled, done, all => by
    obtain ⟨first, others, same, onward, rfl⟩ := statements_cons.1 done
    simp only [Statement.blockCalls, List.mem_append] at all
    exact ⟨resolves_statement document same fun name called => all name (.inl called),
      resolves_statements rest onward fun name called => all name (.inr called)⟩
termination_by documents => 3 * sizeOf documents

theorem resolves_clauses {place : Place} {index : Nat} :
    ∀ (documents : List Json) {compiled : List (Clause Statement)},
      clauses place index documents = .ok compiled →
      (∀ name ∈ Statement.clauseCalls compiled, known name) →
      Statement.ClausesResolve (fun name _ => known name) compiled
  | [], compiled, done, _ => by
    rw [clauses_nil] at done
    cases done
    trivial
  | document :: rest, compiled, done, all => by
    obtain ⟨form, condition, body, others, found, tested, inside, onward, rfl⟩ :=
      clauses_cons.1 done
    obtain ⟨items, list, inner⟩ := block_iff.1 inside
    have smaller := Json.sizeOf_clauseForm? found
    have within := Json.sizeOf_items? list
    simp only [Statement.clauseCalls, List.mem_append] at all
    refine ⟨⟨resolves_expression tested fun name called => all name (.inl (.inl called)), ?_⟩, ?_⟩
    · exact resolves_statements items inner fun name called => all name (.inl (.inr called))
    · exact resolves_clauses rest onward fun name called => all name (.inr called)
termination_by documents => 3 * sizeOf documents

theorem resolves_replies {place : Place} {index : Nat} :
    ∀ (documents : List Json) {compiled : List (Reply Statement)},
      replies place index documents = .ok compiled →
      (∀ name ∈ Statement.replyCalls compiled, known name) →
      Statement.RepliesResolve (fun name _ => known name) compiled
  | [], compiled, done, _ => by
    rw [replies_nil] at done
    cases done
    trivial
  | document :: rest, compiled, done, all => by
    obtain ⟨form, body, jump, condition, others, found, inside, leaves, tested, onward, rfl⟩ :=
      replies_cons.1 done
    simp only [Statement.replyCalls, Statement.blockCalls_append, List.mem_append] at all
    refine ⟨⟨resolves_condition tested fun name called => all name (.inl (.inl called)), ?_⟩, ?_⟩
    · refine Statement.BlockResolves.append ?_ (resolves_target leaves)
      obtain empty | ⟨part, items, given, list, inner⟩ := items_of_otherwise inside
      · rw [empty]
        trivial
      · have smaller := (Json.sizeOf_reply found).1 part given
        have within := Json.sizeOf_items? list
        exact resolves_statements items inner fun name called =>
          all name (.inl (.inr (.inl called)))
    · exact resolves_replies rest onward fun name called => all name (.inr called)
termination_by documents => 3 * sizeOf documents

end

end Body

/-! ### Tables -/

/-- The nodes of a script resolve if the functions that they call are known. -/
theorem Script.resolves_of_ofDocument {document : Json} {table : NodeTable} {node : Node}
    (loaded : ofDocument document = .ok table) (member : node ∈ table.entries)
    (all : ∀ name ∈ Statement.blockCalls node.body, known name) :
    Statement.BlockResolves (fun name _ => known name) node.body := by
  rw [ofDocument] at loaded
  split at loaded
  next => cases loaded
  next drafts _ =>
    obtain ⟨draft, -, compiled⟩ | nothing := mem_addDrafts loaded member
    · obtain ⟨body, same, returned⟩ := Except.bind_eq_ok_iff.1 compiled
      cases returned
      exact Body.resolves_statements draft.body same all
    · cases nothing

end Parley
