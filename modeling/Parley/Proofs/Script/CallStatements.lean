/-
What becomes of the calls of a script. Wherever a statement stands in a script that is
accepted, in whatever block of another statement, it has been compiled, and what it was
compiled to stands in its node. So the calls can be followed from the document to the
table and to the functions that the table is said to call.

Which statements are calls is decided by one key, and what is called by another look at
the same object, which prefers a variable. So a call that also names a variable is not
dropped with a report, but read as that variable, and its function is not called;
every other call is kept.
-/

import Parley.Proofs.Engine.Parts
import Parley.Proofs.Script.Failures
import Parley.Proofs.Script.Image
import Parley.Proofs.Script.Table

namespace Parley

/-! ### Calls of parts -/

namespace Statement

mutual

/-- What a part of a statement calls, the statement calls. -/
theorem calls_of_parts {part : Statement} {name : Text} (called : name ∈ part.calls) :
    ∀ statement : Statement, part ∈ statement.parts → name ∈ statement.calls
  | .branch clauses otherwise, member => by
    rw [calls]
    rcases List.mem_append.1 member with inClauses | inLast
    · exact List.mem_append_left _ (calls_of_clauseParts called clauses inClauses)
    · exact List.mem_append_right _ (calls_of_blockParts called otherwise inLast)
  | .choice replies, member => by
    rcases List.mem_cons.1 member with rfl | inside
    · exact called
    · exact calls_of_replyParts called replies inside
  | .say _, member | .command _, member | .evaluate _, member | .assign _ _, member
  | .jump _, member | .foreign, member => by
    obtain rfl := List.mem_singleton.1 member
    exact called

theorem calls_of_blockParts {part : Statement} {name : Text} (called : name ∈ part.calls) :
    ∀ block : List Statement, part ∈ blockParts block → name ∈ blockCalls block
  | [], member => by cases member
  | statement :: rest, member => by
    rw [blockCalls]
    rcases List.mem_append.1 member with inFirst | behind
    · exact List.mem_append_left _ (calls_of_parts called statement inFirst)
    · exact List.mem_append_right _ (calls_of_blockParts called rest behind)

theorem calls_of_clauseParts {part : Statement} {name : Text} (called : name ∈ part.calls) :
    ∀ clauses : List (Clause Statement), part ∈ clauseParts clauses → name ∈ clauseCalls clauses
  | [], member => by cases member
  | ⟨condition, body⟩ :: rest, member => by
    rw [clauseCalls, List.append_assoc]
    refine List.mem_append_right _ ?_
    rcases List.mem_append.1 member with inFirst | behind
    · exact List.mem_append_left _ (calls_of_blockParts called body inFirst)
    · exact List.mem_append_right _ (calls_of_clauseParts called rest behind)

theorem calls_of_replyParts {part : Statement} {name : Text} (called : name ∈ part.calls) :
    ∀ replies : List (Reply Statement), part ∈ replyParts replies → name ∈ replyCalls replies
  | [], member => by cases member
  | ⟨text, body, condition⟩ :: rest, member => by
    rw [replyCalls, List.append_assoc]
    refine List.mem_append_right _ ?_
    rcases List.mem_append.1 member with inFirst | behind
    · exact List.mem_append_left _ (calls_of_blockParts called body inFirst)
    · exact List.mem_append_right _ (calls_of_replyParts called rest behind)

end

end Statement

/-! ### Statements inside statements -/

namespace Body

/-- A statement has been compiled, and what it was compiled to has its parts in a block. -/
def CompiledInto (block : List Statement) (item : Json) : Prop :=
  ∃ place compiled, statement place item = .ok compiled ∧ compiled.parts ⊆ block

theorem CompiledInto.mono {block wider : List Statement} {item : Json}
    (into : CompiledInto block item) (among : block ⊆ wider) : CompiledInto wider item := by
  obtain ⟨place, compiled, done, inside⟩ := into
  exact ⟨place, compiled, done, List.Subset.trans inside among⟩

theorem compiledInto_statements {place : Place} {index : Nat} {documents : List Json}
    {compiled : List Statement} (done : statements place index documents = .ok compiled)
    {item : Json} (member : item ∈ documents) :
    CompiledInto (Statement.blockParts compiled) item := by
  induction documents generalizing index compiled with
  | nil => cases member
  | cons document rest inductionHypothesis =>
    obtain ⟨first, others, same, onward, rfl⟩ := statements_cons.1 done
    rcases List.mem_cons.1 member with rfl | behind
    · exact ⟨_, first, same, List.subset_append_left _ _⟩
    · exact (inductionHypothesis onward behind).mono (List.subset_append_right _ _)

theorem compiledInto_block {place : Place} {document : Json} {compiled : List Statement}
    (done : block place document = .ok compiled) {items : List Json}
    (list : document.items? = some items) {item : Json} (member : item ∈ items) :
    CompiledInto (Statement.blockParts compiled) item := by
  obtain ⟨items', list', inner⟩ := block_iff.1 done
  obtain rfl := Option.some.inj (list.symm.trans list')
  exact compiledInto_statements inner member

theorem compiledInto_clauses {place : Place} {index : Nat} {documents : List Json}
    {compiled : List (Clause Statement)} (done : clauses place index documents = .ok compiled)
    {extra : Json} (among : extra ∈ documents) {form : ClauseForm}
    (found : extra.clauseForm? = some form) {items : List Json}
    (list : form.body.items? = some items) {item : Json} (member : item ∈ items) :
    CompiledInto (Statement.clauseParts compiled) item := by
  induction documents generalizing index compiled with
  | nil => cases among
  | cons document rest inductionHypothesis =>
    obtain ⟨own, condition, body, others, same, -, inside, onward, rfl⟩ := clauses_cons.1 done
    rcases List.mem_cons.1 among with rfl | behind
    · obtain rfl := Option.some.inj (found.symm.trans same)
      exact (compiledInto_block inside list member).mono (List.subset_append_left _ _)
    · exact (inductionHypothesis onward behind).mono (List.subset_append_right _ _)

theorem compiledInto_replies {place : Place} {index : Nat} {documents : List Json}
    {compiled : List (Reply Statement)} (done : replies place index documents = .ok compiled)
    {reply : Json} (offered : reply ∈ documents) {form : ReplyForm}
    (found : reply.replyForm? = some form) {part : Json} (given : form.body = some part)
    {items : List Json} (list : part.items? = some items) {item : Json} (member : item ∈ items) :
    CompiledInto (Statement.replyParts compiled) item := by
  induction documents generalizing index compiled with
  | nil => cases offered
  | cons document rest inductionHypothesis =>
    obtain ⟨own, body, jump, condition, others, same, inside, -, -, onward, rfl⟩ :=
      replies_cons.1 done
    rcases List.mem_cons.1 offered with rfl | behind
    · obtain rfl := Option.some.inj (found.symm.trans same)
      rw [given] at inside
      cases inside with
      | written inside =>
        refine (compiledInto_block inside list member).mono ?_
        rw [Statement.replyParts, Statement.blockParts_append]
        exact List.subset_append_of_subset_left _ (List.subset_append_left _ _)
    · exact (inductionHypothesis onward behind).mono (List.subset_append_right _ _)

/-- A statement in a block of a statement is compiled with it. -/
theorem compiledInto_inner {place : Place} {document item : Json} {compiled : Statement}
    (done : statement place document = .ok compiled) (inner : item.Inner document) :
    CompiledInto compiled.parts item := by
  have shape := statement_iff.1 done
  cases inner with
  | body shown list member =>
    rw [shown] at shape
    cases shape with
    | branch tested inside further last =>
      refine (compiledInto_block inside list member).mono ?_
      rw [Statement.parts, Statement.clauseParts, List.append_assoc]
      exact List.subset_append_left _ _
  | clause shown among found list member =>
    rw [shown] at shape
    cases shape with
    | branch tested inside further last =>
      refine (compiledInto_clauses further among found list member).mono ?_
      rw [Statement.parts, Statement.clauseParts]
      exact List.subset_append_of_subset_left _ (List.subset_append_right _ _)
  | otherwise shown list member =>
    rw [shown] at shape
    cases shape with
    | branch tested inside further last =>
      cases last with
      | written last =>
        exact (compiledInto_block last list member).mono (List.subset_append_right _ _)
  | reply shown offered found given list member =>
    rw [shown] at shape
    cases shape with
    | choice parts =>
      exact (compiledInto_replies parts offered found given list member).mono
        (List.subset_cons_self _ _)

/-- So is a statement at any depth. -/
theorem compiledInto_within {place : Place} {document item : Json} {compiled : Statement}
    (done : statement place document = .ok compiled) (within : item.Within document) :
    CompiledInto compiled.parts item := by
  induction within generalizing place compiled with
  | itself => exact ⟨place, compiled, done, List.Subset.refl _⟩
  | inside inner within inductionHypothesis =>
    obtain ⟨between, part, done, among⟩ := compiledInto_inner done inner
    exact (inductionHypothesis done).mono among

/-! ### Calls -/

/-- What a statement that is a call is an evaluation of: the call of the function that it names,
which is among those that are listed; or the variable that it names as well. -/
inductive CallOf (place : Place) (item : Json) (functions : List Text) : Expression → Prop
  | kept {function : Text} {items : List Json} {operands : List Expression}
    (call : item.textUnder? "call" = some function) (alone : item.textUnder? "var" = none)
    (list : item.listUnder "args" = some items) (parts : expressions place items = .ok operands)
    (listed : function ∈ functions) :
    CallOf place item functions (.call function operands)
  | captured {function name : Text} (call : item.textUnder? "call" = some function)
    (named : item.textUnder? "var" = some name) :
    CallOf place item functions (.read name)

/-- A statement comes to an evaluation if it is a call, and only then. -/
theorem evaluates_iff {place : Place} {item : Json} {compiled : Statement}
    (done : statement place item = .ok compiled) :
    (∃ expression, compiled = .evaluate expression) ↔ item.statementForm = .call := by
  have shape := statement_iff.1 done
  generalize item.statementForm = form at shape
  cases shape with
  | call whole => exact ⟨fun _ => rfl, fun _ => ⟨_, rfl⟩⟩
  | _ => exact ⟨by rintro ⟨_, ⟨⟩⟩, by rintro ⟨⟩⟩

/-- An object that names a variable is read as that variable, whatever else it names. -/
theorem form_of_var {item : Json} {name : Text} (named : item.textUnder? "var" = some name) :
    item.expressionForm = .read name := by
  cases item with
  | object members => rw [Json.expressionForm, named]
  | _ => cases named

theorem callOf_evaluate {place : Place} {item : Json} {expression : Expression}
    (done : statement place item = .ok (.evaluate expression)) {functions : List Text}
    (listed : expression.calls ⊆ functions) : CallOf place item functions expression := by
  have shown := (evaluates_iff done).1 ⟨expression, rfl⟩
  have shape := statement_iff.1 done
  rw [shown] at shape
  obtain ⟨function, call⟩ := Json.call_of_form shown
  cases shape with
  | call whole =>
    have compiled := expression_iff.1 whole
    cases named : item.textUnder? "var" with
    | some name =>
      rw [form_of_var named] at compiled
      cases compiled
      exact .captured call named
    | none =>
      have plain : ¬ item.Ambiguous := by
        rintro ⟨-, name, there⟩
        rw [named] at there
        cases there
      rw [Json.form_of_call call plain] at compiled
      cases list : item.listUnder "args" with
      | none =>
        rw [list] at compiled
        cases compiled
      | some items =>
        rw [list] at compiled
        cases compiled with
        | call parts => exact .kept call named list parts (listed List.mem_cons_self)

end Body

namespace Script

/-- Every draft has its node in the table, and the nodes that were there before stay. -/
theorem mem_of_addDrafts {table built : NodeTable} {drafts : List Draft}
    (done : addDrafts table drafts = .ok built) :
    (∀ node ∈ table.entries, node ∈ built.entries) ∧
      ∀ draft ∈ drafts, ∃ node ∈ built.entries, Body.node draft = .ok node := by
  induction drafts generalizing table with
  | nil =>
    cases done
    exact ⟨fun node member => member, by rintro draft ⟨⟩⟩
  | cons draft rest inductionHypothesis =>
    obtain ⟨node, compiled, onward⟩ := Except.bind_eq_ok_iff.1 done
    split at onward
    next => cases onward
    next fresh =>
      obtain ⟨kept, behind⟩ := inductionHypothesis onward
      rw [Roster.entries_insert_of_absent (eq_false_of_ne_true fresh)] at kept
      refine ⟨fun other member => kept other (List.mem_append_left _ member), ?_⟩
      intro other member
      rcases List.mem_cons.1 member with rfl | later
      · exact ⟨node, kept node (List.mem_append_right _ List.mem_cons_self), compiled⟩
      · exact behind other later

/-- What becomes of the statements of a script that is accepted, at any depth. Each has been
compiled into the node of its draft; it has come to an evaluation if it is a call; and the
evaluation is of the call that it names, with its operands, and its function is among those that the
table calls. A call that names a variable as well is the exception: it is an evaluation of the
variable. -/
theorem call_statements {text : String} {document : Json} {drafts : List Draft} {table : NodeTable}
    (read : Json.read text.toList = .ok document) (shaped : Draft.ofScript document = .ok drafts)
    (loaded : load text = .ok table) {draft : Draft} (among : draft ∈ drafts) {part item : Json}
    (inside : part ∈ draft.body) (within : item.Within part) :
    ∃ node ∈ table.entries, node.name = draft.title ∧
      ∃ place compiled, Body.statement place item = .ok compiled ∧
        compiled.parts ⊆ Statement.blockParts node.body ∧
        ((∃ expression, compiled = .evaluate expression) ↔ item.statementForm = .call) ∧
        ∀ expression, compiled = .evaluate expression →
          Body.CallOf place item (calledFunctions table.entries) expression := by
  rw [load_of_read read, ofDocument, shaped] at loaded
  obtain ⟨node, there, made⟩ := (mem_of_addDrafts loaded).2 draft among
  obtain ⟨body, done, returned⟩ := Except.bind_eq_ok_iff.1 made
  have named := Body.name_node made
  cases returned
  have into : Body.CompiledInto (Statement.blockParts body) item := by
    obtain ⟨between, whole, done, around⟩ := Body.compiledInto_statements done inside
    exact (Body.compiledInto_within done within).mono around
  obtain ⟨place, compiled, done, parts⟩ := into
  refine ⟨_, there, named, place, compiled, done, parts, Body.evaluates_iff done, ?_⟩
  rintro expression rfl
  refine Body.callOf_evaluate done fun function called => mem_calledFunctions there ?_
  have called : function ∈ (Statement.evaluate expression).calls := called
  exact Statement.calls_of_blockParts called body (parts List.mem_cons_self)

/-! ### A bell that rings and one that does not -/

/-- A script with a call in a block, which carries the key of a jump as well. -/
def belfryText : String :=
  "[\x7b\"title\": \"Belfry\", \"body\": [\x7b\"if\": true, \"then\": " ++
    "[\x7b\"call\": \"ring\", \"jump\": \"Inn\"\x7d]\x7d]\x7d]"

/-- Its call. -/
def bell : Json := .object [("call", .string "ring"), ("jump", .string "Inn")]

/-- The statement around the call. -/
def belfryBranch : Json := .object [("if", .bool true), ("then", .array [bell])]

/-- The document of a script with one node of one statement. -/
def singleDocument (title : Text) (item : Json) : Json :=
  .array [.object [("title", .string title), ("body", .array [item])]]

/-- The table of the script. -/
def belfryTable : NodeTable :=
  ⟨[⟨"Belfry", [.branch [⟨.literal (.bool true), [.evaluate (.call "ring" [])]⟩] []], []⟩],
    List.pairwise_singleton _ _⟩

set_option maxRecDepth 20000 in
theorem read_belfryText :
    Json.read belfryText.toList = .ok (singleDocument "Belfry" belfryBranch) := by
  cbv

theorem drafts_belfry :
    Draft.ofScript (singleDocument "Belfry" belfryBranch) = .ok [⟨"Belfry", [], [belfryBranch]⟩] :=
  rfl

theorem inner_bell : bell.Inner belfryBranch :=
  .body (rfl : belfryBranch.statementForm = .branch (.bool true) (.array [bell]) (some []) none)
    rfl List.mem_cons_self

theorem load_belfryText : load belfryText = .ok belfryTable := by
  have rings (place : Place) : Body.statement place bell = .ok (.evaluate (.call "ring" [])) := by
    have form : bell.expressionForm = .call "ring" (some []) := rfl
    refine Body.statement_iff.2 (.call (Body.expression_iff.2 ?_))
    rw [form]
    exact .call Body.expressions_nil
  have tested (place : Place) :
      Body.expression place (.bool true) = .ok (.literal (.bool true)) :=
    Body.expression_iff.2 (.literal _)
  have branches (place : Place) : Body.statement place belfryBranch =
      .ok (.branch [⟨.literal (.bool true), [.evaluate (.call "ring" [])]⟩] []) := by
    have form : belfryBranch.statementForm =
      .branch (.bool true) (.array [bell]) (some []) none := rfl
    rw [Body.statement_iff, form]
    refine .branch (tested _) (Body.block_iff.2 ⟨[bell], rfl, ?_⟩) (Body.clauses_nil _) .absent
    exact Body.statements_cons.2 ⟨_, _, rings _, Body.statements_nil _, rfl⟩
  rw [load_of_read read_belfryText, ofDocument, drafts_belfry]
  refine Except.bind_eq_ok_iff.2 ⟨_, Except.bind_eq_ok_iff.2 ⟨_, ?_, rfl⟩, rfl⟩
  exact Body.statements_cons.2 ⟨_, _, branches _, Body.statements_nil _, rfl⟩

/-- The bell of the belfry is an evaluation of its call, and the table calls its function. -/
theorem call_statements_belfry :
    ∃ place, Body.statement place bell = .ok (.evaluate (.call "ring" [])) ∧
      ("ring" : Text) ∈ calledFunctions belfryTable.entries := by
  obtain ⟨node, -, -, place, compiled, done, -, form, call⟩ :=
    call_statements read_belfryText drafts_belfry load_belfryText List.mem_cons_self
      List.mem_cons_self (.inside inner_bell (.itself bell))
  obtain ⟨expression, rfl⟩ := form.2 rfl
  cases call expression rfl with
  | kept named alone list parts listed =>
    cases named
    cases list
    rw [Body.expressions_nil] at parts
    cases parts
    exact ⟨place, done, listed⟩
  | captured _ named => cases named

/-- A script whose call names a variable as well. -/
def mutedText : String :=
  "[\x7b\"title\": \"Start\", \"body\": [\x7b\"call\": \"f\", \"var\": \"x\"\x7d]\x7d]"

/-- Its call. -/
def mutedBell : Json := .object [("call", .string "f"), ("var", .string "x")]

/-- The table of the script. -/
def mutedTable : NodeTable :=
  ⟨[⟨"Start", [.evaluate (.read "x")], []⟩], List.pairwise_singleton _ _⟩

set_option maxRecDepth 20000 in
theorem read_mutedText : Json.read mutedText.toList = .ok (singleDocument "Start" mutedBell) := by
  cbv

/-- Not every call of a script that is accepted is kept: one that names a variable as well is read
as the variable, and no function is called. -/
theorem call_statement_dropped :
    load mutedText = .ok mutedTable ∧ mutedBell.textUnder? "call" = some "f" ∧
      mutedBell.statementForm = .call ∧
      (∀ place, Body.statement place mutedBell = .ok (.evaluate (.read "x"))) ∧
      calledFunctions mutedTable.entries = [] := by
  have read (place : Place) : Body.statement place mutedBell = .ok (.evaluate (.read "x")) := by
    have form : mutedBell.expressionForm = .read "x" := rfl
    refine Body.statement_iff.2 (.call (Body.expression_iff.2 ?_))
    rw [form]
    exact .read "x"
  have drafts : Draft.ofScript (singleDocument "Start" mutedBell) =
    .ok [⟨"Start", [], [mutedBell]⟩] := rfl
  refine ⟨?_, rfl, rfl, read, rfl⟩
  rw [load_of_read read_mutedText, ofDocument, drafts]
  refine Except.bind_eq_ok_iff.2 ⟨_, Except.bind_eq_ok_iff.2 ⟨_, ?_, rfl⟩, rfl⟩
  exact Body.statements_cons.2 ⟨_, _, read _, Body.statements_nil _, rfl⟩

end Script

end Parley
