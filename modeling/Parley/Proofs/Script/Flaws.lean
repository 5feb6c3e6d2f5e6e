/-
This file lists everything that is wrong with a script, in the order in which it is
written. The compiler stops at the first thing that is wrong. A list of flaws goes on behind
each of them: it looks at every part of a form, whatever was found in the parts before it.

The law is one for all functions of the compiler. It comes to an answer if the list is
empty, and otherwise it reports the head of the list. What makes the law go through is that
it holds of two computations in a row if it holds of each, the lists put together.
-/

import Parley.Proofs.Roster
import Parley.Proofs.Script.Failures

namespace Parley

/-! ### Expressions -/

namespace Operator

/-- What is wrong with the name of an operator. -/
def nameOffences (name : Text) : List Offence :=
  if (ofName? name).isNone then [.operator name] else []

/-- What is wrong with the number of an operator's operands. -/
def countOffences (name : Text) (count : Nat) : List Offence :=
  match ofName? name with
  | none => []
  | some operator =>
    if count = operator.arity then [] else [.operands operator.name operator.arity count]

end Operator

namespace Json

open Operator (nameOffences countOffences)

/-- What is wrong with an expression: the name of the operator, the operands from left to right,
and their number. -/
def expressionOffences (document : Json) : List Offence :=
  match _shown : document.expressionForm with
  | .literal _ => []
  | .read _ => []
  | .call _ none => [.operandsNotList]
  | .call _ (some items) => items.attach.flatMap fun item => expressionOffences item.1
  | .operator name none => nameOffences name ++ [.operandsNotList]
  | .operator name (some items) =>
    nameOffences name ++ (items.attach.flatMap fun item => expressionOffences item.1) ++
      countOffences name items.length
  | .unknown => [.expression document]
termination_by sizeOf document
decreasing_by
  · have := Json.sizeOf_call ‹_›
    have := List.sizeOf_lt_of_mem item.2
    omega
  · have := Json.sizeOf_operator ‹_›
    have := List.sizeOf_lt_of_mem item.2
    omega

theorem expressionOffences_eq (document : Json) : document.expressionOffences =
    match document.expressionForm with
    | .literal _ => []
    | .read _ => []
    | .call _ none => [.operandsNotList]
    | .call _ (some items) => items.flatMap expressionOffences
    | .operator name none => nameOffences name ++ [.operandsNotList]
    | .operator name (some items) =>
      nameOffences name ++ items.flatMap expressionOffences ++ countOffences name items.length
    | .unknown => [.expression document] := by
  rw [expressionOffences]
  split <;> simp only [*, List.flatMap_subtype, List.unattach_attach]

end Json

/-! ### Statements -/

/-- Something that is wrong with a part of a body: what it is, and the steps that lead from the
part to it. -/
structure Flaw where
  steps : List PlaceStep
  cause : Offence

namespace Flaw

/-- What is wrong with a part itself. -/
def here (causes : List Offence) : List Flaw := causes.map (Flaw.mk [])

/-- What is wrong with a part, as seen from where the step to it is made. -/
def under (step : PlaceStep) (flaws : List Flaw) : List Flaw :=
  flaws.map fun flaw => ⟨step :: flaw.steps, flaw.cause⟩

/-- What is wrong with the parts in a row, each under its number. -/
def numbered (step : Nat → PlaceStep) (index : Nat) : List (List Flaw) → List Flaw
  | [] => []
  | flaws :: rest => under (step index) flaws ++ numbered step (index + 1) rest

/-- The failure that reports a flaw of the part at a place. -/
def fault (place : Place) (flaw : Flaw) : LoadFault :=
  .offence { place with steps := place.steps ++ flaw.steps } flaw.cause

theorem map_fault_here (place : Place) (causes : List Offence) :
    (here causes).map (fault place) = causes.map (.offence place) := by
  rw [here, List.map_map]
  refine List.map_congr_left fun cause _ => ?_
  show LoadFault.offence { place with steps := place.steps ++ [] } cause = .offence place cause
  rw [List.append_nil]

theorem map_fault_under (place : Place) (step : PlaceStep) (flaws : List Flaw) :
    (under step flaws).map (fault place) = flaws.map (fault (place.below step)) := by
  rw [under, List.map_map]
  refine List.map_congr_left fun flaw _ => ?_
  show LoadFault.offence { place with steps := place.steps ++ step :: flaw.steps } flaw.cause =
    .offence { place with steps := place.steps ++ [step] ++ flaw.steps } flaw.cause
  rw [List.append_assoc]
  rfl

end Flaw

namespace Json

/-- What is wrong with the target of a reply. -/
def targetOffences : Option (Option Text) → List Offence
  | none => []
  | some none => [.target]
  | some (some _) => []

/-- What is wrong with the condition of a reply. -/
def conditionOffences : Option Json → List Offence
  | none => []
  | some part => part.expressionOffences

open Flaw (here under numbered)

mutual

/-- What is wrong with a statement. Of a branch, the condition comes first, then the block, the
further clauses and the block behind them. -/
def statementFlaws (document : Json) : List Flaw :=
  match _shown : document.statementForm with
  | .say _ => []
  | .command _ => []
  | .call => here document.expressionOffences
  | .assign _ part => here part.expressionOffences
  | .branch condition body extras otherwise =>
    here condition.expressionOffences ++ (blockFlaws body ++
      ((match _given : extras with
        | none => here [.clausesNotList]
        | some items => numbered .clause 0 (items.attach.map fun item => clauseFlaws item.1)) ++
      match _present : otherwise with
      | none => []
      | some part => under .otherwise (blockFlaws part)))
  | .choice items => numbered .reply 0 (items.attach.map fun item => replyFlaws item.1)
  | .jump _ => []
  | .unknown => here [.statement document]
termination_by sizeOf document
decreasing_by
  · have := Json.sizeOf_branch ‹_›
    omega
  · have := (Json.sizeOf_branch ‹_›).2.2.1 _ rfl
    have := List.sizeOf_lt_of_mem item.2
    omega
  · have := (Json.sizeOf_branch ‹_›).2.2.2 _ rfl
    omega
  · have := Json.sizeOf_choice ‹_›
    have := List.sizeOf_lt_of_mem item.2
    omega

/-- What is wrong with a block. -/
def blockFlaws (document : Json) : List Flaw :=
  match _list : document.items? with
  | none => here [.notStatements]
  | some items => numbered .statement 0 (items.attach.map fun item => statementFlaws item.1)
termination_by sizeOf document
decreasing_by
  have := Json.sizeOf_items? ‹_›
  have := List.sizeOf_lt_of_mem item.2
  omega

/-- What is wrong with a further clause: first with its condition, then with its block. -/
def clauseFlaws (document : Json) : List Flaw :=
  match _found : document.clauseForm? with
  | none => here [.notClause]
  | some form => here form.condition.expressionOffences ++ blockFlaws form.body
termination_by sizeOf document
decreasing_by
  have := Json.sizeOf_clauseForm? ‹_›
  omega

/-- What is wrong with a reply: with its block, with its target, and with its condition. -/
def replyFlaws (document : Json) : List Flaw :=
  match _found : document.replyForm? with
  | none => here [.reply]
  | some form =>
    (match _given : form.body with
      | none => []
      | some part => blockFlaws part) ++ (here (targetOffences form.target) ++
        here (conditionOffences form.condition))
termination_by sizeOf document
decreasing_by
  have := (Json.sizeOf_reply ‹_›).1 _ ‹_›
  omega

end

/-- What is wrong with a block that may be left out. -/
def optionalFlaws : Option Json → List Flaw
  | none => []
  | some part => blockFlaws part

theorem statementFlaws_eq (document : Json) : document.statementFlaws =
    match document.statementForm with
    | .say _ => []
    | .command _ => []
    | .call => here document.expressionOffences
    | .assign _ part => here part.expressionOffences
    | .branch condition body extras otherwise =>
      here condition.expressionOffences ++ (blockFlaws body ++
        ((match extras with
          | none => here [.clausesNotList]
          | some items => numbered .clause 0 (items.map clauseFlaws)) ++
        under .otherwise (optionalFlaws otherwise)))
    | .choice items => numbered .reply 0 (items.map replyFlaws)
    | .jump _ => []
    | .unknown => here [.statement document] := by
  rw [statementFlaws]
  split <;> simp only [*, List.map_subtype, List.unattach_attach]
  next condition body extras otherwise shown =>
    cases extras <;> cases otherwise <;> simp only [optionalFlaws] <;> rfl

theorem blockFlaws_eq (document : Json) : document.blockFlaws =
    match document.items? with
    | none => here [.notStatements]
    | some items => numbered .statement 0 (items.map statementFlaws) := by
  rw [blockFlaws]
  split <;> simp only [*, List.map_subtype, List.unattach_attach]

theorem clauseFlaws_eq (document : Json) : document.clauseFlaws =
    match document.clauseForm? with
    | none => here [.notClause]
    | some form => here form.condition.expressionOffences ++ blockFlaws form.body := by
  rw [clauseFlaws]
  split <;> simp only [*]

theorem replyFlaws_eq (document : Json) : document.replyFlaws =
    match document.replyForm? with
    | none => here [.reply]
    | some form =>
      optionalFlaws form.body ++ (here (targetOffences form.target) ++
        here (conditionOffences form.condition)) := by
  rw [replyFlaws]
  split
  next absent => rw [absent]
  next form found =>
    rw [found]
    dsimp only
    split <;> simp only [*, optionalFlaws]

end Json

/-! ### Reports -/

/-- A computation comes to an answer if there are no failures, and else reports the first. -/
def Reports {Answer : Type} (faults : List LoadFault) : Except LoadFault Answer → Prop
  | .ok _ => faults = []
  | .error fault => faults.head? = some fault

namespace Reports

variable {First Second : Type}

theorem ok (answer : First) : Reports [] (.ok answer) := rfl

theorem refuse (place : Place) (cause : Offence) (others : List LoadFault) :
    Reports (.offence place cause :: others) (Body.refuse place cause : Except LoadFault First) :=
  rfl

theorem throw (fault : LoadFault) (others : List LoadFault) :
    Reports (fault :: others) (throw fault : Except LoadFault First) := rfl

/-- The failures of two computations in a row are those of the first and then those of the
second. -/
theorem bind {faults others : List LoadFault} {first : Except LoadFault First}
    {next : First → Except LoadFault Second} (one : Reports faults first)
    (other : ∀ answer, first = .ok answer → Reports others (next answer)) :
    Reports (faults ++ others) (first >>= next) := by
  cases first with
  | error fault =>
    show (faults ++ others).head? = some fault
    rw [List.head?_append, one]
    rfl
  | ok answer =>
    have none : faults = [] := one
    rw [none]
    exact other answer rfl

theorem bind_ok {faults : List LoadFault} {first : Except LoadFault First} {next : First → Second}
    (one : Reports faults first) : Reports faults (first >>= fun answer => .ok (next answer)) := by
  rw [← List.append_nil faults]
  exact one.bind fun answer _ => .ok (next answer)

/-- There is an answer exactly if there are no failures. -/
theorem eq_nil_iff {faults : List LoadFault} {result : Except LoadFault First}
    (reports : Reports faults result) : faults = [] ↔ ∃ answer, result = .ok answer := by
  cases result with
  | ok answer => exact iff_of_true reports ⟨answer, rfl⟩
  | error fault =>
    refine iff_of_false (fun none => ?_) (fun ⟨_, impossible⟩ => nomatch impossible)
    rw [none] at reports
    cases reports

/-- There is a failure exactly if it is the first. -/
theorem head?_iff {faults : List LoadFault} {result : Except LoadFault First}
    (reports : Reports faults result) {fault : LoadFault} :
    faults.head? = some fault ↔ result = .error fault := by
  cases result with
  | ok answer =>
    have none : faults = [] := reports
    rw [none]
    exact iff_of_false nofun nofun
  | error first =>
    have found : faults.head? = some first := reports
    rw [found, Option.some.injEq, Except.error.injEq]

end Reports

namespace Body

/-! ### Expressions are compiled up to the first offence -/

theorem length_of_expressions {place : Place} {items : List Json} {operands : List Expression}
    (done : expressions place items = .ok operands) : operands.length = items.length := by
  induction items generalizing operands with
  | nil =>
    rw [expressions_nil] at done
    cases done
    rfl
  | cons item rest inductionHypothesis =>
    obtain ⟨first, others, -, onward, rfl⟩ := expressions_cons.1 done
    rw [List.length_cons, List.length_cons, inductionHypothesis onward]

theorem reports_expressions {place : Place} {items : List Json}
    (each : ∀ item ∈ items,
      Reports (item.expressionOffences.map (.offence place)) (expression place item)) :
    Reports ((items.flatMap Json.expressionOffences).map (.offence place))
      (expressions place items) := by
  induction items with
  | nil =>
    rw [expressions_nil]
    exact .ok []
  | cons item rest inductionHypothesis =>
    obtain ⟨here, others⟩ := List.forall_mem_cons.1 each
    rw [expressions, List.flatMap_cons, List.map_append]
    exact here.bind fun _ _ => (inductionHypothesis others).bind_ok

theorem reports_expression (place : Place) (document : Json) :
    Reports (document.expressionOffences.map (.offence place)) (expression place document) := by
  rw [expression]
  split
  next written shown =>
    rw [Json.expressionOffences_eq, shown]
    exact .ok _
  next name shown =>
    rw [Json.expressionOffences_eq, shown]
    exact .ok _
  next function items shown =>
    rw [Json.expressionOffences_eq, shown]
    refine .bind_ok (reports_expressions fun item member => ?_)
    have := Json.sizeOf_call shown
    have := List.sizeOf_lt_of_mem member
    exact reports_expression place item
  next shown =>
    rw [Json.expressionOffences_eq, shown]
    exact .refuse ..
  next name operands shown =>
    split
    next operands _ unknown _ =>
      rw [Json.expressionOffences_eq, shown]
      cases operands with
      | none =>
        dsimp only
        rw [Operator.nameOffences, unknown]
        exact .refuse ..
      | some items =>
        dsimp only
        rw [Operator.nameOffences, unknown]
        exact .refuse ..
    next known =>
      rw [Json.expressionOffences_eq, shown]
      dsimp only
      rw [Operator.nameOffences, known]
      exact .refuse ..
    next operator items _ known =>
      rw [Json.expressionOffences_eq, shown]
      dsimp only
      rw [Operator.nameOffences, Operator.countOffences, known, List.map_append]
      refine .bind (reports_expressions fun item member => ?_) fun operands done => ?_
      · have := Json.sizeOf_operator shown
        have := List.sizeOf_lt_of_mem member
        exact reports_expression place item
      · rw [length_of_expressions done]
        dsimp only
        split
        · exact .ok _
        · exact .refuse ..
  next shown =>
    rw [Json.expressionOffences_eq, shown]
    exact .refuse ..
termination_by sizeOf document

/-! ### Bodies are compiled up to the first flaw -/

open Flaw (fault here under numbered map_fault_here map_fault_under)

theorem reports_here (place : Place) (document : Json) :
    Reports ((here document.expressionOffences).map (fault place)) (expression place document) := by
  rw [map_fault_here]
  exact reports_expression place document

theorem reports_target (place : Place) (target : Option (Option Text)) :
    Reports ((here (Json.targetOffences target)).map (fault place))
      (match target with
      | none => .ok []
      | some none => refuse place .target
      | some (some target) => .ok [Statement.jump target] : Except LoadFault (List Statement)) := by
  rw [map_fault_here]
  cases target with
  | none => exact .ok []
  | some target =>
    cases target with
    | none => exact .refuse ..
    | some target => exact .ok _

theorem reports_condition (place : Place) (part : Option Json) :
    Reports ((here (Json.conditionOffences part)).map (fault place))
      (match part with
      | none => .ok none
      | some part => do
        let condition ← expression place part
        return some condition : Except LoadFault (Option Expression)) := by
  rw [map_fault_here]
  cases part with
  | none => exact .ok none
  | some part => exact (reports_expression place part).bind_ok

theorem reports_statements {items : List Json}
    (each : ∀ item ∈ items, ∀ place,
      Reports (item.statementFlaws.map (fault place)) (statement place item))
    (place : Place) (index : Nat) :
    Reports ((numbered .statement index (items.map Json.statementFlaws)).map (fault place))
      (statements place index items) := by
  induction items generalizing index with
  | nil =>
    rw [statements]
    exact .ok []
  | cons item rest inductionHypothesis =>
    obtain ⟨first, others⟩ := List.forall_mem_cons.1 each
    rw [statements, List.map_cons, numbered, List.map_append, map_fault_under]
    exact (first _).bind fun _ _ => (inductionHypothesis others _).bind_ok

theorem reports_clauses {items : List Json}
    (each : ∀ item ∈ items, ∀ form, item.clauseForm? = some form → ∀ place,
      Reports (form.body.blockFlaws.map (fault place)) (block place form.body))
    (place : Place) (index : Nat) :
    Reports ((numbered .clause index (items.map Json.clauseFlaws)).map (fault place))
      (clauses place index items) := by
  induction items generalizing index with
  | nil =>
    rw [clauses]
    exact .ok []
  | cons item rest inductionHypothesis =>
    obtain ⟨first, others⟩ := List.forall_mem_cons.1 each
    rw [clauses, List.map_cons, numbered, List.map_append, map_fault_under]
    split
    next absent =>
      rw [Json.clauseFlaws_eq, absent, map_fault_here]
      exact .refuse ..
    next form found =>
      rw [Json.clauseFlaws_eq, found, List.map_append, List.append_assoc]
      refine (reports_here _ form.condition).bind fun _ _ => ?_
      exact (first form found _).bind fun _ _ => (inductionHypothesis others _).bind_ok

theorem reports_replies {items : List Json}
    (each : ∀ item ∈ items, ∀ form, item.replyForm? = some form → ∀ part, form.body = some part →
      ∀ place, Reports (part.blockFlaws.map (fault place)) (block place part))
    (place : Place) (index : Nat) :
    Reports ((numbered .reply index (items.map Json.replyFlaws)).map (fault place))
      (replies place index items) := by
  induction items generalizing index with
  | nil =>
    rw [replies]
    exact .ok []
  | cons item rest inductionHypothesis =>
    obtain ⟨first, others⟩ := List.forall_mem_cons.1 each
    rw [replies, List.map_cons, numbered, List.map_append, map_fault_under]
    split
    next absent =>
      rw [Json.replyFlaws_eq, absent, map_fault_here]
      exact .refuse ..
    next form found =>
      rw [Json.replyFlaws_eq, found, List.map_append, List.map_append, List.append_assoc,
        List.append_assoc]
      refine .bind ?_ fun _ _ => ?_
      · obtain ⟨_, body, _, _⟩ := form
        cases body with
        | none => exact .ok []
        | some part => exact first _ found part rfl _
      refine (reports_target _ form.target).bind fun _ _ => ?_
      refine (reports_condition _ form.condition).bind fun _ _ => ?_
      exact (inductionHypothesis others _).bind_ok

mutual

theorem reports_statement (place : Place) (document : Json) :
    Reports (document.statementFlaws.map (fault place)) (statement place document) := by
  rw [statement]
  split
  next shown =>
    rw [Json.statementFlaws_eq, shown]
    exact .ok _
  next shown =>
    rw [Json.statementFlaws_eq, shown]
    exact .ok _
  next shown =>
    rw [Json.statementFlaws_eq, shown]
    exact (reports_here place document).bind_ok
  next part shown =>
    rw [Json.statementFlaws_eq, shown]
    exact (reports_here place part).bind_ok
  next condition body extras otherwise shown =>
    obtain ⟨-, small, few, behind⟩ := Json.sizeOf_branch shown
    have flaws := Json.statementFlaws_eq document
    rw [shown] at flaws
    rw [flaws, List.map_append]
    refine (reports_here place condition).bind fun _ _ => ?_
    rw [List.map_append]
    refine (reports_block place body).bind fun _ _ => ?_
    rw [List.map_append, map_fault_under]
    cases extras with
    | none =>
      dsimp only
      rw [map_fault_here]
      exact .refuse ..
    | some items =>
      have fewer := few items rfl
      refine (reports_clauses (fun item member form found place => ?_) place 0).bind
        fun _ _ => .bind_ok ?_
      · have := List.sizeOf_lt_of_mem member
        have := Json.sizeOf_clauseForm? found
        exact reports_block place form.body
      · cases otherwise with
        | none => exact .ok []
        | some part =>
          have smaller := behind part rfl
          exact reports_block _ part
  next items shown =>
    have smaller := Json.sizeOf_choice shown
    rw [Json.statementFlaws_eq, shown]
    refine (reports_replies (fun item member form found part given place => ?_) place 0).bind_ok
    have := List.sizeOf_lt_of_mem member
    have := (Json.sizeOf_reply found).1 part given
    exact reports_block place part
  next shown =>
    rw [Json.statementFlaws_eq, shown]
    exact .ok _
  next shown =>
    rw [Json.statementFlaws_eq, shown, map_fault_here]
    exact .refuse ..
termination_by sizeOf document

theorem reports_block (place : Place) (document : Json) :
    Reports (document.blockFlaws.map (fault place)) (block place document) := by
  rw [block]
  split
  next absent =>
    rw [Json.blockFlaws_eq, absent, map_fault_here]
    exact .refuse ..
  next items list =>
    rw [Json.blockFlaws_eq, list]
    refine reports_statements (fun item member place => ?_) place 0
    have := Json.sizeOf_items? list
    have := List.sizeOf_lt_of_mem member
    exact reports_statement place item
termination_by sizeOf document

end

end Body

/-! ### Scripts are loaded up to the first failure -/

/-- What is wrong with the body of a draft. -/
def Draft.flaws (draft : Draft) : List Flaw :=
  Flaw.numbered .statement 0 (draft.body.map Json.statementFlaws)

theorem Body.reports_node (draft : Draft) :
    Reports (draft.flaws.map (Flaw.fault ⟨draft.title, []⟩)) (node draft) :=
  (reports_statements (fun item _ place => reports_statement place item) ⟨draft.title, []⟩
    0).bind_ok

/-- The body of a draft has no flaws exactly if it is compiled. -/
theorem Draft.flaws_eq_nil_iff (draft : Draft) :
    draft.flaws = [] ↔ ∃ node, Body.node draft = .ok node := by
  rw [← (Body.reports_node draft).eq_nil_iff, List.map_eq_nil_iff]

namespace Script

/-- The failures of drafts that come behind some titles. The flaws of a draft come before the
repetition of its title, and that before the drafts behind it. -/
def faults (titles : List Text) : List Draft → List LoadFault
  | [] => []
  | draft :: rest =>
    draft.flaws.map (Flaw.fault ⟨draft.title, []⟩) ++
      ((if draft.title ∈ titles then [.duplicate draft.title] else []) ++
        faults (titles ++ [draft.title]) rest)

theorem reports_addDrafts (table : NodeTable) (drafts : List Draft) :
    Reports (faults table.names drafts) (addDrafts table drafts) := by
  induction drafts generalizing table with
  | nil => exact .ok table
  | cons draft rest inductionHypothesis =>
    refine (Body.reports_node draft).bind fun node compiled => ?_
    have named := Body.name_node compiled
    rw [← named]
    by_cases there : table.contains node.name = true
    · rw [if_pos (Roster.contains_iff.1 there), if_pos there]
      exact .throw ..
    · have absent : node.name ∉ table.names := fun among => there (Roster.contains_iff.2 among)
      have names : (table.insert node).names = table.names ++ [node.name] := by
        rw [Roster.names, Roster.entries_insert_of_absent (eq_false_of_ne_true there),
          List.map_append]
        rfl
      rw [if_neg absent, if_neg there, List.nil_append, ← names]
      exact inductionHypothesis (table.insert node)

/-- The first failure of drafts is that of the first draft which has one. -/
theorem head?_faults {titles : List Text} {drafts : List Draft} {fault : LoadFault}
    (first : (faults titles drafts).head? = some fault) :
    ∃ before draft after, drafts = before ++ draft :: after ∧ faults titles before = [] ∧
      ((draft.flaws.map (Flaw.fault ⟨draft.title, []⟩)).head? = some fault ∨
        draft.flaws = [] ∧ draft.title ∈ titles ++ before.map Draft.title ∧
          fault = .duplicate draft.title) := by
  induction drafts generalizing titles with
  | nil => cases first
  | cons draft rest inductionHypothesis =>
    rw [faults, List.head?_append, List.head?_append, Option.or_eq_some_iff,
      Option.or_eq_some_iff, List.head?_eq_none_iff, List.head?_eq_none_iff] at first
    obtain flawed | ⟨sound, repeated | ⟨fresh, later⟩⟩ := first
    · exact ⟨[], draft, rest, rfl, rfl, .inl flawed⟩
    · refine ⟨[], draft, rest, rfl, rfl, .inr ⟨List.map_eq_nil_iff.1 sound, ?_⟩⟩
      rw [List.map_nil, List.append_nil]
      split at repeated
      next among =>
        cases repeated
        exact ⟨among, rfl⟩
      next => cases repeated
    · obtain ⟨before, other, after, rfl, none, here⟩ := inductionHypothesis later
      refine ⟨draft :: before, other, after, rfl, ?_, ?_⟩
      · rw [faults, sound, fresh, none]
        rfl
      · rw [List.append_assoc] at here
        exact here

/-- Drafts have no failures exactly if all their bodies are compiled, and no title comes twice. -/
theorem faults_eq_nil_iff {titles : List Text} (distinct : titles.Nodup) (drafts : List Draft) :
    faults titles drafts = [] ↔ (∀ draft ∈ drafts, ∃ node, Body.node draft = .ok node) ∧
      (titles ++ drafts.map Draft.title).Nodup := by
  induction drafts generalizing titles with
  | nil => simp [faults, distinct]
  | cons draft rest inductionHypothesis =>
    rw [faults, List.append_eq_nil_iff, List.append_eq_nil_iff, List.map_eq_nil_iff,
      draft.flaws_eq_nil_iff, List.forall_mem_cons, List.map_cons,
      List.append_cons titles draft.title (rest.map Draft.title), and_assoc]
    refine and_congr_right fun _ => ?_
    by_cases among : draft.title ∈ titles
    · rw [if_pos among]
      refine iff_of_false nofun fun ⟨_, all⟩ => ?_
      have split := (List.nodup_append.1 (List.nodup_append.1 all).1).2.2
      exact split _ among _ List.mem_cons_self rfl
    · have still : (titles ++ [draft.title]).Nodup :=
        List.nodup_append.2 ⟨distinct, List.nodup_singleton _, fun one inside other last equal =>
          among (by rwa [equal, List.mem_singleton.1 last] at inside)⟩
      rw [if_neg among, inductionHypothesis still]
      exact and_iff_right rfl

end Script

end Parley
