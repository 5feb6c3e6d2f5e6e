/-
What scripts can say. A script may be written in many ways: with operators for
calls, with jumps in replies, with parts left out. Whatever is accepted is
compiled to documented forms, so it could have been written the documented way and
comes to the same table; nothing else can be said. The one exception is a statement
that is both a call and a variable, which is taken for a call but read as the
variable; scripts without one are plain.

The two directions together are the main statement of the theory of scripts.
-/

import Mathlib
import Parley.Proofs.Script.Written

namespace Parley

/-! ### Plain scripts -/

namespace Json

/-- A statement that stands in a block of another statement. -/
inductive Inner : Json → Json → Prop
  | body {item document condition body : Json} {clauses : Option (List Json)}
    {otherwise : Option Json} {items : List Json}
    (shown : document.statementForm = .branch condition body clauses otherwise)
    (block : body.items? = some items) (member : item ∈ items) : Inner item document
  | clause {item document condition body extra : Json} {clauses : List Json}
    {otherwise : Option Json} {form : ClauseForm} {items : List Json}
    (shown : document.statementForm = .branch condition body (some clauses) otherwise)
    (further : extra ∈ clauses) (found : extra.clauseForm? = some form)
    (block : form.body.items? = some items) (member : item ∈ items) : Inner item document
  | otherwise {item document condition body part : Json} {clauses : Option (List Json)}
    {items : List Json}
    (shown : document.statementForm = .branch condition body clauses (some part))
    (block : part.items? = some items) (member : item ∈ items) : Inner item document
  | reply {item document reply part : Json} {replies : List Json} {form : ReplyForm}
    {items : List Json} (shown : document.statementForm = .choice replies)
    (offered : reply ∈ replies) (found : reply.replyForm? = some form)
    (given : form.body = some part) (block : part.items? = some items) (member : item ∈ items) :
    Inner item document

/-- A statement that another statement is or has inside, at any depth. -/
inductive Within : Json → Json → Prop
  | itself (document : Json) : Within document document
  | inside {item part document : Json} (inner : Inner part document) (within : Within item part) :
    Within item document

/-- A document names a function to call and a variable as well. -/
def Ambiguous (document : Json) : Prop :=
  (∃ function, document.textUnder? "call" = some function) ∧
    ∃ name, document.textUnder? "var" = some name

/-- No statement that a statement is or has inside is ambiguous. -/
def Plain (document : Json) : Prop := ∀ item : Json, item.Within document → ¬ item.Ambiguous

theorem Plain.inner {document part : Json} (plain : document.Plain) (inner : part.Inner document) :
    part.Plain := fun item within => plain item (.inside inner within)

/-- No statement of a script is ambiguous. -/
def PlainScript (document : Json) : Prop :=
  ∀ drafts, Draft.ofScript document = .ok drafts →
    ∀ draft ∈ drafts, ∀ part ∈ draft.body, part.Plain

/-! ### Forms that are read -/

theorem scalar_of_form {document : Json} {written : Literal}
    (shown : document.expressionForm = .literal written) : written.Scalar := by
  cases document with
  | array items => cases shown
  | object members =>
    rw [expressionForm] at shown
    split at shown <;> cases shown
  | _ =>
    cases shown
    trivial

theorem call_of_form {document : Json} (shown : document.statementForm = .call) :
    ∃ function, document.textUnder? "call" = some function := by
  rw [statementForm] at shown
  split at shown <;> cases shown
  exact ⟨_, by assumption⟩

/-- A statement that is a call, and not a variable as well, is a call as an expression. -/
theorem form_of_call {document : Json} {function : Text}
    (call : document.textUnder? "call" = some function) (plain : ¬ document.Ambiguous) :
    document.expressionForm = .call function (document.listUnder "args") := by
  have absent : document.textUnder? "var" = none := by
    cases read : document.textUnder? "var" with
    | none => rfl
    | some name => exact absurd ⟨⟨function, call⟩, name, read⟩ plain
  cases document with
  | object members =>
    rw [expressionForm, absent, call]
  | _ => cases call

end Json

/-! ### Whatever is accepted is documented -/

theorem Statement.blockDocumented_append {first second : List Statement}
    (inFirst : BlockDocumented first) (inSecond : BlockDocumented second) :
    BlockDocumented (first ++ second) := by
  induction first with
  | nil => exact inSecond
  | cons head tail ih => exact ⟨inFirst.1, ih inFirst.2⟩

namespace Body

theorem documented_target {target : Option (Option Text)} {jump : List Statement}
    (leaves : TargetOf target jump) : Statement.BlockDocumented jump := by
  cases leaves with
  | absent => trivial
  | written target => exact ⟨trivial, trivial⟩

/-- A block that may be left out is empty or compiled from its items. -/
theorem items_of_otherwise {place : Place} {part : Option Json} {compiled : List Statement}
    (last : OtherwiseOf place part compiled) :
    compiled = [] ∨ ∃ document items, part = some document ∧ document.items? = some items ∧
      statements place 0 items = .ok compiled := by
  cases last with
  | absent => exact .inl rfl
  | written body =>
    obtain ⟨items, list, inner⟩ := block_iff.1 body
    exact .inr ⟨_, items, rfl, list, inner⟩

mutual

theorem documented_expression {place : Place} (document : Json) {compiled : Expression}
    (done : expression place document = .ok compiled) : compiled.Documented := by
  have shape := expression_iff.1 done
  cases form : document.expressionForm with
  | literal written =>
    rw [form] at shape
    cases shape
    exact Json.scalar_of_form form
  | read name =>
    rw [form] at shape
    cases shape
    trivial
  | call function items =>
    rw [form] at shape
    cases shape with
    | call parts =>
      have smaller := Json.sizeOf_call form
      exact documented_expressions _ parts
  | operator name items =>
    rw [form] at shape
    cases shape with
    | operator known parts counted =>
      have smaller := Json.sizeOf_operator form
      exact documented_expressions _ parts
  | unknown =>
    rw [form] at shape
    cases shape
termination_by 2 * sizeOf document + 1

theorem documented_expressions {place : Place} :
    ∀ (documents : List Json) {compiled : List Expression},
      expressions place documents = .ok compiled → Expression.AllDocumented compiled
  | [], compiled, done => by
    rw [expressions_nil] at done
    cases done
    trivial
  | document :: rest, compiled, done => by
    obtain ⟨first, others, same, onward, rfl⟩ := expressions_cons.1 done
    exact ⟨documented_expression document same, documented_expressions rest onward⟩
termination_by documents => 2 * sizeOf documents

end

theorem documented_condition {place : Place} {part : Option Json} {condition : Option Expression}
    (tested : ConditionOf place part condition) (expression : Expression)
    (given : condition = some expression) : expression.Documented := by
  cases tested with
  | absent => cases given
  | written done =>
    cases given
    exact documented_expression _ done

mutual

theorem documented_statement {place : Place} (document : Json) {compiled : Statement}
    (done : statement place document = .ok compiled) (plain : document.Plain) :
    compiled.Documented := by
  have shape := statement_iff.1 done
  cases form : document.statementForm with
  | say text =>
    rw [form] at shape
    cases shape
    trivial
  | command text =>
    rw [form] at shape
    cases shape
    trivial
  | call =>
    rw [form] at shape
    cases shape with
    | call whole =>
      obtain ⟨function, call⟩ := Json.call_of_form form
      have called := expression_iff.1 whole
      rw [Json.form_of_call call (plain document (.itself document))] at called
      refine ⟨?_, documented_expression document whole⟩
      cases listed : document.listUnder "args" with
      | none =>
        rw [listed] at called
        cases called
      | some items =>
        rw [listed] at called
        cases called
        rfl
  | assign name part =>
    rw [form] at shape
    cases shape with
    | assign _ assigned => exact documented_expression part assigned
  | branch condition body clauses otherwise =>
    rw [form] at shape
    cases shape with
    | branch tested inside further last =>
      obtain ⟨items, list, inner⟩ := block_iff.1 inside
      obtain ⟨-, small, few, behind⟩ := Json.sizeOf_branch form
      have within := Json.sizeOf_items? list
      have fewer := few _ rfl
      refine ⟨List.cons_ne_nil _ _, ⟨documented_expression condition tested, ?_, ?_⟩, ?_⟩
      · exact documented_statements items inner fun item member =>
          plain.inner (.body form list member)
      · exact documented_clauses _ further fun extra among form' parts found list item member =>
          plain.inner (.clause form among found list member)
      · obtain empty | ⟨part, parts, rfl, list, inner⟩ := items_of_otherwise last
        · rw [empty]
          trivial
        · have smaller := behind _ rfl
          have inPart := Json.sizeOf_items? list
          exact documented_statements parts inner fun item member =>
            plain.inner (.otherwise form list member)
  | choice items =>
    rw [form] at shape
    cases shape with
    | choice parts =>
      have smaller := Json.sizeOf_choice form
      exact documented_replies items parts fun reply offered form' part parts found given list item
        member => plain.inner (.reply form offered found given list member)
  | jump target =>
    rw [form] at shape
    cases shape
    trivial
  | unknown =>
    rw [form] at shape
    cases shape
termination_by 3 * sizeOf document + 2

theorem documented_statements {place : Place} {index : Nat} :
    ∀ (documents : List Json) {compiled : List Statement},
      statements place index documents = .ok compiled → (∀ item ∈ documents, item.Plain) →
      Statement.BlockDocumented compiled
  | [], compiled, done, _ => by
    rw [statements_nil] at done
    cases done
    trivial
  | document :: rest, compiled, done, plain => by
    obtain ⟨first, others, same, onward, rfl⟩ := statements_cons.1 done
    exact ⟨documented_statement document same (plain document List.mem_cons_self),
      documented_statements rest onward fun item member =>
        plain item (List.mem_cons_of_mem _ member)⟩
termination_by documents => 3 * sizeOf documents

theorem documented_clauses {place : Place} {index : Nat} :
    ∀ (documents : List Json) {compiled : List (Clause Statement)},
      clauses place index documents = .ok compiled →
      (∀ extra ∈ documents, ∀ form items, extra.clauseForm? = some form →
        form.body.items? = some items → ∀ item ∈ items, item.Plain) →
      Statement.ClausesDocumented compiled
  | [], compiled, done, _ => by
    rw [clauses_nil] at done
    cases done
    trivial
  | document :: rest, compiled, done, plain => by
    obtain ⟨form, condition, body, others, found, tested, inside, onward, rfl⟩ :=
      clauses_cons.1 done
    obtain ⟨items, list, inner⟩ := block_iff.1 inside
    have smaller := Json.sizeOf_clauseForm? found
    have within := Json.sizeOf_items? list
    refine ⟨documented_expression _ tested, ?_, ?_⟩
    · exact documented_statements items inner
        (plain document List.mem_cons_self form items found list)
    · exact documented_clauses rest onward fun extra member =>
        plain extra (List.mem_cons_of_mem _ member)
termination_by documents => 3 * sizeOf documents

theorem documented_replies {place : Place} {index : Nat} :
    ∀ (documents : List Json) {compiled : List (Reply Statement)},
      replies place index documents = .ok compiled →
      (∀ reply ∈ documents, ∀ form part items, reply.replyForm? = some form →
        form.body = some part → part.items? = some items → ∀ item ∈ items, item.Plain) →
      Statement.RepliesDocumented compiled
  | [], compiled, done, _ => by
    rw [replies_nil] at done
    cases done
    trivial
  | document :: rest, compiled, done, plain => by
    obtain ⟨form, body, jump, condition, others, found, inside, leaves, tested, onward, rfl⟩ :=
      replies_cons.1 done
    refine ⟨documented_condition tested, ?_, ?_⟩
    · refine Statement.blockDocumented_append ?_ (documented_target leaves)
      obtain empty | ⟨part, items, given, list, inner⟩ := items_of_otherwise inside
      · rw [empty]
        trivial
      · have smaller := (Json.sizeOf_reply found).1 part given
        have within := Json.sizeOf_items? list
        exact documented_statements items inner
          (plain document List.mem_cons_self form part items found given list)
    · exact documented_replies rest onward fun reply member =>
        plain reply (List.mem_cons_of_mem _ member)
termination_by documents => 3 * sizeOf documents

end

end Body

/-! ### Nodes and tables that are accepted -/

namespace Draft

theorem titled_of_checkTitle {document : Json} {title : Text}
    (checked : checkTitle document = .ok title) :
    title.IsTitle := by
  rw [checkTitle] at checked
  split at checked
  next => cases checked
  next text _ =>
    split at checked
    next => cases checked
    next characters =>
      split at checked
      next => cases checked
      next nonempty =>
        cases checked
        rw [Bool.not_eq_true'] at characters
        exact ⟨Bool.not_eq_false _ ▸ characters, Bool.not_eq_true _ ▸ nonempty⟩
  next => cases checked

theorem titled_of_ofNode? {document : Json} {draft : Draft}
    (found : ofNode? document = some draft) :
    draft.title.IsTitle := by
  rw [ofNode?] at found
  split at found
  next checked _ _ =>
    cases found
    exact titled_of_checkTitle checked
  next => cases found

theorem titled_of_ofList {document : Json} {draft : Draft} (member : draft ∈ ofList document) :
    draft.title.IsTitle := by
  cases document with
  | array items =>
    obtain ⟨item, -, found⟩ := List.mem_filterMap.1 member
    exact titled_of_ofNode? found
  | _ => cases member

theorem titled_of_ofScript {document : Json} {drafts : List Draft}
    (accepted : ofScript document = .ok drafts) {draft : Draft} (member : draft ∈ drafts) :
    draft.title.IsTitle := by
  rw [ofScript] at accepted
  split at accepted
  next =>
    cases accepted
    cases found : document.member? "nodes" with
    | none =>
      rw [found] at member
      cases member
    | some nodes =>
      rw [found] at member
      exact titled_of_ofList member
  next =>
    cases accepted
    exact titled_of_ofList member
  next => cases accepted

end Draft

namespace Script

/-- A table holds what its drafts are compiled to, and the nodes that were there before. -/
theorem mem_addDrafts {table built : NodeTable} {drafts : List Draft} {node : Node}
    (done : addDrafts table drafts = .ok built) (member : node ∈ built.entries) :
    (∃ draft ∈ drafts, Body.node draft = .ok node) ∨ node ∈ table.entries := by
  induction drafts generalizing table with
  | nil =>
    cases done
    exact .inr member
  | cons draft rest ih =>
    obtain ⟨first, compiled, onward⟩ := Except.bind_eq_ok_iff.1 done
    split at onward
    next => cases onward
    next =>
      obtain ⟨behind, among, same⟩ | before := ih onward
      · exact .inl ⟨behind, List.mem_cons_of_mem _ among, same⟩
      · obtain rfl | before := Roster.mem_insert before
        · exact .inl ⟨draft, List.mem_cons_self, compiled⟩
        · exact .inr before

/-- Whatever a plain script says can be written the documented way. -/
theorem documented_of_ofDocument {document : Json} {table : NodeTable}
    (plain : document.PlainScript) (accepted : ofDocument document = .ok table) :
    table.Documented := by
  intro node member
  rw [ofDocument] at accepted
  split at accepted
  next => cases accepted
  next drafts made =>
    obtain ⟨draft, among, compiled⟩ | nothing := mem_addDrafts accepted member
    · obtain ⟨body, same, returned⟩ := Except.bind_eq_ok_iff.1 compiled
      cases returned
      exact ⟨Draft.titled_of_ofScript made among,
        Body.documented_statements draft.body same (plain drafts made draft among)⟩
    · cases nothing

theorem load_of_read {text : String} {document : Json}
    (read : Json.read text.toList = .ok document) : load text = ofDocument document := by
  rw [load, ofChars, read]

/-- What is written for a table, in either shape, is loaded as that table. -/
def Recovered (table : NodeTable) : Prop :=
  ∀ shape : Shape, ofDocument (table.encode shape) = .ok table ∧
    ∀ text : String, Json.read text.toList = .ok (table.encode shape) → load text = .ok table

theorem recovered_of_documented {table : NodeTable} (documented : table.Documented) :
    Recovered table := by
  intro shape
  have same := ofDocument_encode documented shape
  exact ⟨same, fun text read => (load_of_read read).trans same⟩

/-- Tables of documented forms are recovered from what is written for them, and the tables of
plain scripts are of these forms, in whatever way the scripts say it. -/
theorem load_inverts_encode :
    (∀ table : NodeTable, table.Documented → Recovered table) ∧
      ∀ (text : String) (document : Json) (table : NodeTable),
        Json.read text.toList = .ok document → document.PlainScript → load text = .ok table →
          table.Documented ∧ Recovered table := by
  refine ⟨fun table documented => recovered_of_documented documented, ?_⟩
  intro text document table read plain loaded
  rw [load_of_read read] at loaded
  have documented := documented_of_ofDocument plain loaded
  exact ⟨documented, recovered_of_documented documented⟩

/-! ### An inn and its yard -/

/-- A node that calls a function with an integer and with a number. -/
def yardTable : NodeTable :=
  ⟨[⟨"Yard", [.evaluate (.call "roll" [.literal (.int 1), .literal (.float (.ofInt 1))])],
    ["dark"]⟩], List.pairwise_singleton _ _⟩

/-- A script with an operator, and with a reply that has a target and no block. -/
def innText : String :=
  "[\x7b\"title\": \"Inn\", \"body\": [\x7b\"options\": [\x7b\"text\": \"Rest\", " ++
    "\"jump\": \"Inn\", \"if\": \x7b\"op\": \"Not\", \"args\": [1]\x7d\x7d]\x7d]\x7d]"

/-- The condition of its reply. -/
def innCondition : Json := .object [("op", .string "Not"), ("args", .array [.int 1])]

/-- Its reply. -/
def innReply : Json :=
  .object [("text", .string "Rest"), ("jump", .string "Inn"), ("if", innCondition)]

/-- Its only statement. -/
def innChoice : Json := .object [("options", .array [innReply])]

/-- The document of the script. -/
def innDocument : Json := .array [.object [("title", .string "Inn"), ("body", .array [innChoice])]]

/-- The table of the script. -/
def innTable : NodeTable :=
  ⟨[⟨"Inn", [.choice [⟨"Rest", [.jump "Inn"], some (.call "Not" [.literal (.int 1)])⟩]], []⟩],
    List.pairwise_singleton _ _⟩

set_option maxRecDepth 20000 in
theorem read_innText : Json.read innText.toList = .ok innDocument := by
  cbv

theorem drafts_innDocument : Draft.ofScript innDocument = .ok [⟨"Inn", [], [innChoice]⟩] := rfl

theorem form_innReply :
    innReply.replyForm? = some ⟨"Rest", none, some (some "Inn"), some innCondition⟩ := rfl

theorem form_innChoice : innChoice.statementForm = .choice [innReply] := rfl

theorem plain_innChoice : innChoice.Plain := by
  intro item within
  cases within with
  | itself =>
    rintro ⟨⟨function, call⟩, -⟩
    cases call
  | inside inner =>
    cases inner with
    | body shown => cases shown
    | clause shown => cases shown
    | otherwise shown => cases shown
    | reply shown offered found given =>
      cases shown
      obtain rfl := List.mem_singleton.1 offered
      cases found
      cases given

theorem plain_innDocument : innDocument.PlainScript := by
  intro drafts made draft among part inside
  rw [drafts_innDocument] at made
  cases made
  obtain rfl := List.mem_singleton.1 among
  obtain rfl := List.mem_singleton.1 inside
  exact plain_innChoice

theorem load_innText : load innText = .ok innTable := by
  have tested (place : Place) : Body.expression place innCondition =
      .ok (.call "Not" [.literal (.int 1)]) := by
    have known : Operator.ofName? "Not" = some .not := rfl
    refine Body.expression_iff.2 (.operator known ?_ rfl)
    have operand : Body.expression place (.int 1) = .ok (.literal (.int 1)) :=
      Body.expression_iff.2 (.literal (.int 1))
    exact Body.expressions_cons.2 ⟨_, _, operand, Body.expressions_nil, rfl⟩
  have offered (place : Place) : Body.statement place innChoice =
      .ok (.choice [⟨"Rest", [.jump "Inn"], some (.call "Not" [.literal (.int 1)])⟩]) := by
    rw [Body.statement_iff, form_innChoice]
    refine .choice (Body.replies_cons.2 ⟨_, _, _, _, _, form_innReply, .absent, .written "Inn",
      .written (tested _), Body.replies_nil _, rfl⟩)
  rw [load_of_read read_innText, ofDocument, drafts_innDocument]
  refine Except.bind_eq_ok_iff.2 ⟨_, Except.bind_eq_ok_iff.2 ⟨_, ?_, rfl⟩, rfl⟩
  exact Body.statements_cons.2 ⟨_, _, offered _, Body.statements_nil _, rfl⟩

theorem documented_yardTable : yardTable.Documented := by
  intro node member
  obtain rfl := List.mem_singleton.1 member
  exact ⟨⟨rfl, rfl⟩, ⟨rfl, trivial, trivial, trivial⟩, trivial⟩

theorem writable_yardTable : yardTable.Writable := by
  have short : (1 : Int).natAbs < 10 ^ Json.digitLimit := by decide +kernel
  intro node member
  obtain rfl := List.mem_singleton.1 member
  refine ⟨by decide, by decide, ⟨?_, short, trivial, trivial⟩, trivial⟩
  show Json.Unpaired "roll"
  decide

theorem writable_innTable : innTable.Writable := by
  have short : (1 : Int).natAbs < 10 ^ Json.digitLimit := by decide +kernel
  have goesBack : Statement.BlockWritable [.jump "Inn"] := by
    refine ⟨?_, trivial⟩
    show Json.Unpaired "Inn"
    decide
  intro node member
  obtain rfl := List.mem_singleton.1 member
  refine ⟨by decide, by decide, ⟨by decide, ?_, goesBack, trivial⟩, trivial⟩
  rintro _ ⟨⟩
  refine ⟨?_, short, trivial⟩
  show Json.Unpaired "Not"
  decide

theorem load_inverts_encode_inn :
    yardTable.Documented ∧ Recovered yardTable ∧
      load (yardTable.encode .list).render = .ok yardTable ∧ innDocument.PlainScript ∧
      load innText = .ok innTable ∧ innTable.Documented ∧ Recovered innTable ∧
      load (innTable.encode .object).render = .ok innTable := by
  have yard := load_inverts_encode.1 yardTable documented_yardTable
  obtain ⟨documented, inn⟩ :=
    load_inverts_encode.2 innText innDocument innTable read_innText plain_innDocument load_innText
  have yardText := NodeTable.read_render_encode writable_yardTable .list
  have innTexts := NodeTable.read_render_encode writable_innTable .object
  exact ⟨documented_yardTable, yard, (yard .list).2 _ yardText, plain_innDocument, load_innText,
    documented, inn, (inn .object).2 _ innTexts⟩

end Script

end Parley
