/-
The documented way to write scripts. Every form of statement and of expression has
one spelling here, with all its parts written out, and a table is written as the
list of its nodes or as an object that has that list. A body can be written if it
consists of the documented forms: of literals only scalars can be written, of
expressions only calls may stand as statements, and a branch has a clause.

What is written is compiled to what was written. The proof is one induction over
bodies; what it asks of each form is that none of the forms tried before it fits.
-/

import Parley.Proofs.Script.Forms
import Parley.Proofs.Roster
import Parley.Script.Load

namespace Parley

/-! ### Bodies that can be written -/

/-- A literal is a scalar. -/
def Literal.Scalar : Literal → Prop
  | .list _ | .dictionary _ | .value _ => False
  | _ => True

namespace Expression

/-- Tells whether an expression is a call. -/
def isCall : Expression → Bool
  | call _ _ => true
  | _ => false

mutual

/-- An expression consists of the documented forms. -/
def Documented : Expression → Prop
  | literal written => written.Scalar
  | read _ => True
  | call _ operands => AllDocumented operands
  | foreign => False

/-- Expressions consist of the documented forms. -/
def AllDocumented : List Expression → Prop
  | [] => True
  | first :: rest => Documented first ∧ AllDocumented rest

end

end Expression

namespace Statement

mutual

/-- A statement consists of the documented forms. -/
def Documented : Statement → Prop
  | say _ | command _ | jump _ => True
  | evaluate expression => expression.isCall = true ∧ expression.Documented
  | assign _ expression => expression.Documented
  | branch clauses otherwise =>
    clauses ≠ [] ∧ ClausesDocumented clauses ∧ BlockDocumented otherwise
  | choice replies => RepliesDocumented replies
  | foreign => False

/-- A block consists of the documented forms. -/
def BlockDocumented : List Statement → Prop
  | [] => True
  | first :: rest => Documented first ∧ BlockDocumented rest

/-- Clauses consist of the documented forms. -/
def ClausesDocumented : List (Clause Statement) → Prop
  | [] => True
  | ⟨condition, body⟩ :: rest =>
    condition.Documented ∧ BlockDocumented body ∧ ClausesDocumented rest

/-- Replies consist of the documented forms. -/
def RepliesDocumented : List (Reply Statement) → Prop
  | [] => True
  | ⟨_, body, condition⟩ :: rest =>
    (∀ expression, condition = some expression → expression.Documented) ∧
      BlockDocumented body ∧ RepliesDocumented rest

end

end Statement

/-- A title is a string of at least one character. -/
def Text.IsTitle (text : Text) : Prop := text.isString = true ∧ text.isEmpty = false

/-- The nodes of a table have titles, and their bodies consist of the documented forms. -/
def NodeTable.Documented (table : NodeTable) : Prop :=
  ∀ node ∈ table.entries, node.name.IsTitle ∧ Statement.BlockDocumented node.body

/-! ### Writing them -/

/-- The document of a scalar; there is none for other literals. -/
def Literal.encode : Literal → Json
  | .bool truth => .bool truth
  | .int integer => .int integer
  | .float number => .float number
  | .string text => .string text
  | _ => .null

namespace Expression

mutual

/-- The document of an expression. -/
def encode : Expression → Json
  | literal written => written.encode
  | read name => .object [("var", .string name)]
  | call function operands =>
    .object [("call", .string function), ("args", .array (encodeAll operands))]
  | foreign => .null

/-- The documents of expressions. -/
def encodeAll : List Expression → List Json
  | [] => []
  | first :: rest => encode first :: encodeAll rest

end

end Expression

namespace Statement

/-- The condition of a reply as a member of its document. -/
def encodeCondition : Option Expression → List (Text × Json)
  | none => []
  | some condition => [("if", condition.encode)]

mutual

/-- The document of a statement. -/
def encode : Statement → Json
  | say text => .object [("line", .string text)]
  | command text => .object [("command", .string text)]
  | evaluate expression => expression.encode
  | assign name expression => .object [("set", .string name), ("to", expression.encode)]
  | branch [] _ => .null
  | branch (⟨condition, body⟩ :: clauses) otherwise =>
    .object [("if", condition.encode), ("then", .array (encodeBlock body)),
      ("elif", .array (encodeClauses clauses)), ("else", .array (encodeBlock otherwise))]
  | choice replies => .object [("options", .array (encodeReplies replies))]
  | jump target => .object [("jump", .string target)]
  | foreign => .null

/-- The documents of the statements of a block. -/
def encodeBlock : List Statement → List Json
  | [] => []
  | first :: rest => encode first :: encodeBlock rest

/-- The documents of further clauses. -/
def encodeClauses : List (Clause Statement) → List Json
  | [] => []
  | ⟨condition, body⟩ :: rest =>
    .object [("if", condition.encode), ("then", .array (encodeBlock body))] :: encodeClauses rest

/-- The documents of replies. A condition is written if there is one. -/
def encodeReplies : List (Reply Statement) → List Json
  | [] => []
  | ⟨text, body, condition⟩ :: rest =>
    .object (("text", .string text) :: ("body", .array (encodeBlock body)) ::
      encodeCondition condition) :: encodeReplies rest

end

end Statement

/-- The document of a node. -/
def Node.encode (node : Node) : Json :=
  .object [("title", .string node.name), ("tags", .array (node.tags.map .string)),
    ("body", .array (Statement.encodeBlock node.body))]

/-- The two shapes of a script. -/
inductive Script.Shape where
  | list
  | object

/-- The document of a table. -/
def NodeTable.encode (table : NodeTable) : Script.Shape → Json
  | .list => .array (table.entries.map Node.encode)
  | .object => .object [("nodes", .array (table.entries.map Node.encode))]

/-! ### The forms of what is written -/

namespace Json

theorem member?_cons (key name : Text) (value : Json) (rest : List (Text × Json)) :
    (object ((name, value) :: rest)).member? key =
      if name = key then some value else (object rest).member? key := by
  by_cases same : name = key
  · simp [member?, same]
  · simp [member?, same]

theorem member?_nil (key : Text) : (object []).member? key = none := rfl

end Json

theorem Literal.form_encode {written : Literal} (scalar : written.Scalar) :
    written.encode.expressionForm = .literal written := by
  cases written with
  | list items => exact scalar.elim
  | dictionary entries => exact scalar.elim
  | value given => exact scalar.elim
  | _ => rfl

theorem Expression.form_read (name : Text) :
    (Expression.read name).encode.expressionForm = .read name := by
  simp [Expression.encode, Json.expressionForm, Json.textUnder?, Json.member?_cons, Json.text?]

theorem Expression.form_call (function : Text) (operands : List Expression) :
    (Expression.call function operands).encode.expressionForm =
      .call function (some (encodeAll operands)) := by
  simp [Expression.encode, Json.expressionForm, Json.textUnder?, Json.listUnder, Json.member?_cons,
    Json.member?_nil, Json.text?, Json.items?, Text.ofString_inj]

namespace Statement

theorem form_say (text : Text) : (say text).encode.statementForm = .say text := by
  simp [encode, Json.statementForm, Json.textUnder?, Json.member?_cons, Json.text?]

theorem form_command (text : Text) : (command text).encode.statementForm = .command text := by
  simp [encode, Json.statementForm, Json.textUnder?, Json.member?_cons, Json.member?_nil,
    Json.text?, Text.ofString_inj]

theorem form_evaluate (function : Text) (operands : List Expression) :
    (evaluate (.call function operands)).encode.statementForm = .call := by
  simp [encode, Expression.encode, Json.statementForm, Json.textUnder?, Json.member?_cons,
    Json.member?_nil, Json.text?, Text.ofString_inj]

theorem form_assign (name : Text) (expression : Expression) :
    (assign name expression).encode.statementForm = .assign name expression.encode := by
  simp [encode, Json.statementForm, Json.textUnder?, Json.assignment?, Json.member?_cons,
    Json.member?_nil, Json.text?, Text.ofString_inj]

theorem form_branch (condition : Expression) (body : List Statement)
    (clauses : List (Clause Statement)) (otherwise : List Statement) :
    (branch (⟨condition, body⟩ :: clauses) otherwise).encode.statementForm =
      .branch condition.encode (.array (encodeBlock body)) (some (encodeClauses clauses))
        (some (.array (encodeBlock otherwise))) := by
  simp [encode, Json.statementForm, Json.textUnder?, Json.assignment?, Json.clauseForm?,
    Json.listUnder, Json.items?, Json.member?_cons, Json.member?_nil, Text.ofString_inj]

theorem form_choice (replies : List (Reply Statement)) :
    (choice replies).encode.statementForm = .choice (encodeReplies replies) := by
  simp [encode, Json.statementForm, Json.textUnder?, Json.assignment?, Json.clauseForm?,
    Json.listUnder?, Json.items?, Json.member?_cons, Json.member?_nil, Text.ofString_inj]

theorem form_jump (target : Text) : (jump target).encode.statementForm = .jump target := by
  simp [encode, Json.statementForm, Json.textUnder?, Json.assignment?, Json.clauseForm?,
    Json.listUnder?, Json.member?_cons, Json.member?_nil, Json.text?, Text.ofString_inj]

theorem form_clause (condition : Expression) (body : List Statement) :
    (Json.object [("if", condition.encode),
      ("then", .array (encodeBlock body))]).clauseForm? =
      some ⟨condition.encode, .array (encodeBlock body)⟩ := by
  simp [Json.clauseForm?, Json.member?_cons, Text.ofString_inj]

theorem form_reply (text : Text) (body : List Statement) (condition : Option Expression) :
    (Json.object (("text", .string text) :: ("body", .array (encodeBlock body)) ::
      encodeCondition condition)).replyForm? =
      some ⟨text, some (.array (encodeBlock body)), none, condition.map Expression.encode⟩ := by
  cases condition with
  | none =>
    simp [encodeCondition, Json.replyForm?, Json.textUnder?, Json.member?_cons, Json.member?_nil,
      Json.text?, Text.ofString_inj]
  | some condition =>
    simp [encodeCondition, Json.replyForm?, Json.textUnder?, Json.member?_cons, Json.member?_nil,
      Json.text?, Text.ofString_inj]

end Statement

/-! ### What is written is compiled to what was written -/

namespace Body

mutual

theorem expression_encode (place : Place) :
    ∀ written : Expression, written.Documented →
      expression place written.encode = .ok written
  | .literal written, scalar => by
    rw [expression_iff, Expression.encode, Literal.form_encode scalar]
    exact .literal written
  | .read name, _ => by
    rw [expression_iff, Expression.form_read]
    exact .read name
  | .call function operands, documented => by
    rw [expression_iff, Expression.form_call]
    exact .call (expressions_encode place operands documented)
  | .foreign, impossible => impossible.elim
termination_by structural written => written

theorem expressions_encode (place : Place) :
    ∀ written : List Expression, Expression.AllDocumented written →
      expressions place (Expression.encodeAll written) = .ok written
  | [], _ => expressions_nil
  | first :: rest, documented =>
    expressions_cons.2 ⟨first, rest, expression_encode place first documented.1,
      expressions_encode place rest documented.2, rfl⟩
termination_by structural written => written

end

theorem block_of_items {place : Place} {items : List Json} {compiled : List Statement}
    (done : statements place 0 items = .ok compiled) :
    block place (.array items) = .ok compiled :=
  block_iff.2 ⟨items, rfl, done⟩

mutual

theorem statement_encode :
    ∀ written : Statement, written.Documented → ∀ place : Place,
      statement place written.encode = .ok written
  | .say text, _, place => by
    rw [statement_iff, Statement.form_say]
    exact .say text
  | .command text, _, place => by
    rw [statement_iff, Statement.form_command]
    exact .command text
  | .evaluate (.call function operands), documented, place => by
    rw [statement_iff, Statement.form_evaluate]
    exact .call (expression_encode place (.call function operands) documented.2)
  | .evaluate (.literal _), impossible, _ => by cases impossible.1
  | .evaluate (.read _), impossible, _ => by cases impossible.1
  | .evaluate .foreign, impossible, _ => by cases impossible.1
  | .assign name expression, documented, place => by
    rw [statement_iff, Statement.form_assign]
    exact .assign name (expression_encode place expression documented)
  | .branch [] otherwise, impossible, _ => absurd rfl impossible.1
  | .branch (⟨condition, body⟩ :: clauses) otherwise, documented, place => by
    obtain ⟨-, ⟨tested, inside, further⟩, last⟩ := documented
    rw [statement_iff, Statement.form_branch]
    exact .branch (expression_encode place condition tested)
      (block_of_items (statements_encode body inside _ 0))
      (clauses_encode clauses further place 0)
      (.written (block_of_items (statements_encode otherwise last _ 0)))
  | .choice replies, documented, place => by
    rw [statement_iff, Statement.form_choice]
    exact .choice (replies_encode replies documented place 0)
  | .jump target, _, place => by
    rw [statement_iff, Statement.form_jump]
    exact .jump target
  | .foreign, impossible, _ => impossible.elim
termination_by structural written => written

theorem statements_encode :
    ∀ written : List Statement, Statement.BlockDocumented written → ∀ (place : Place)
      (index : Nat), statements place index (Statement.encodeBlock written) = .ok written
  | [], _, _, index => statements_nil index
  | first :: rest, documented, place, index =>
    statements_cons.2 ⟨first, rest, statement_encode first documented.1 _,
      statements_encode rest documented.2 place (index + 1), rfl⟩
termination_by structural written => written

theorem clauses_encode :
    ∀ written : List (Clause Statement), Statement.ClausesDocumented written → ∀ (place : Place)
      (index : Nat), clauses place index (Statement.encodeClauses written) = .ok written
  | [], _, _, index => clauses_nil index
  | ⟨condition, body⟩ :: rest, documented, place, index => by
    obtain ⟨tested, inside, further⟩ := documented
    refine clauses_cons.2 ⟨_, condition, body, rest, Statement.form_clause condition body, ?_, ?_,
      clauses_encode rest further place (index + 1), rfl⟩
    · exact expression_encode _ condition tested
    · exact block_of_items (statements_encode body inside _ 0)
termination_by structural written => written

theorem replies_encode :
    ∀ written : List (Reply Statement), Statement.RepliesDocumented written → ∀ (place : Place)
      (index : Nat), replies place index (Statement.encodeReplies written) = .ok written
  | [], _, _, index => replies_nil index
  | ⟨text, body, condition⟩ :: rest, documented, place, index => by
    obtain ⟨tested, inside, further⟩ := documented
    refine replies_cons.2 ⟨_, body, [], condition, rest, Statement.form_reply text body condition,
      .written (block_of_items (statements_encode body inside _ 0)), .absent, ?_,
      replies_encode rest further place (index + 1), by rw [List.append_nil]⟩
    cases condition with
    | none => exact .absent
    | some condition => exact .written (expression_encode _ condition (tested condition rfl))
termination_by structural written => written

end

end Body

/-! ### Nodes and tables -/

namespace Draft

theorem violationsIn_eq_nil {violations : Json → List Violation} {items : List Json}
    (sound : ∀ item ∈ items, violations item = []) : violationsIn violations items = [] := by
  rw [violationsIn, List.flatMap_eq_nil_iff]
  rintro ⟨item, index⟩ member
  dsimp only
  rw [sound item (List.fst_mem_of_mem_zipIdx member), List.map_nil]

variable {node : Node}

theorem checkTitle_encode (titled : node.name.IsTitle) :
    checkTitle node.encode = .ok node.name := by
  obtain ⟨characters, nonempty⟩ := titled
  simp [Node.encode, checkTitle, Json.member?_cons, characters, nonempty]

theorem rawTags_encode : rawTags node.encode = .ok (node.tags.map .string) := by
  simp [Node.encode, rawTags, Json.member?_cons, Text.ofString_inj]

theorem checkBody_encode :
    checkBody node.encode = .ok (Statement.encodeBlock node.body) := by
  simp [Node.encode, checkBody, Json.member?_cons, Text.ofString_inj]

theorem tagViolations_encode : tagViolations node.encode = [] := by
  rw [tagViolations, rawTags_encode]
  dsimp only
  rw [violationsIn_eq_nil, List.map_nil]
  intro item member
  obtain ⟨tag, -, rfl⟩ := List.mem_map.1 member
  rfl

theorem nodeViolations_encode (titled : node.name.IsTitle) : nodeViolations node.encode = [] := by
  show violationOf _ (checkTitle node.encode) ++ tagViolations node.encode ++
    violationOf _ (checkBody node.encode) = []
  rw [checkTitle_encode titled, tagViolations_encode, checkBody_encode]
  rfl

theorem ofNode?_encode (titled : node.name.IsTitle) :
    ofNode? node.encode = some ⟨node.name, node.tags, Statement.encodeBlock node.body⟩ := by
  have tags : (node.tags.map Json.string).filterMap (fun tag => (checkTag tag).toOption) =
      node.tags := by
    rw [List.filterMap_map]
    exact List.filterMap_some
  rw [ofNode?, nodeViolations_encode titled, checkTitle_encode titled, rawTags_encode,
    checkBody_encode]
  dsimp only
  rw [tags]

theorem listViolations_encode {nodes : List Node} (titled : ∀ node ∈ nodes, node.name.IsTitle) :
    listViolations (.array (nodes.map Node.encode)) = [] := by
  refine violationsIn_eq_nil fun item member => ?_
  obtain ⟨node, inNodes, rfl⟩ := List.mem_map.1 member
  exact nodeViolations_encode (titled node inNodes)

theorem ofList_encode {nodes : List Node} (titled : ∀ node ∈ nodes, node.name.IsTitle) :
    ofList (.array (nodes.map Node.encode)) =
      nodes.map fun node => ⟨node.name, node.tags, Statement.encodeBlock node.body⟩ := by
  show (nodes.map Node.encode).filterMap ofNode? = _
  induction nodes with
  | nil => rfl
  | cons node rest ih =>
    have first := ofNode?_encode (titled node List.mem_cons_self)
    rw [List.map_cons, List.filterMap_cons_some first, List.map_cons,
      ih fun node member => titled node (List.mem_cons_of_mem _ member)]

/-- Both shapes of a script have the drafts of its nodes. -/
theorem ofScript_encode {table : NodeTable} (titled : ∀ node ∈ table.entries, node.name.IsTitle)
    (shape : Script.Shape) :
    ofScript (table.encode shape) =
      .ok (table.entries.map fun node =>
        ⟨node.name, node.tags, Statement.encodeBlock node.body⟩) := by
  have list := listViolations_encode titled
  have drafts := ofList_encode titled
  cases shape with
  | list =>
    rw [NodeTable.encode, ofScript, list, drafts]
    rfl
  | object =>
    have nodes : (NodeTable.encode table .object).member? "nodes" =
        some (.array (table.entries.map Node.encode)) := by
      simp [NodeTable.encode, Json.member?_cons]
    have sound : objectViolations (NodeTable.encode table .object) = [] := by
      rw [NodeTable.encode] at nodes ⊢
      rw [objectViolations, nodes]
      dsimp only
      rw [list]
      rfl
    rw [ofScript, sound, nodes]
    dsimp only
    rw [Option.map_some, Option.getD_some, drafts]

end Draft

namespace Script

theorem addDrafts_encode {table : NodeTable} {nodes : List Node}
    (distinct : ((table.entries ++ nodes).map Node.name).Nodup)
    (documented : ∀ node ∈ nodes, Statement.BlockDocumented node.body) :
    ∃ built, addDrafts table (nodes.map fun node =>
      ⟨node.name, node.tags, Statement.encodeBlock node.body⟩) = .ok built ∧
      built.entries = table.entries ++ nodes := by
  induction nodes generalizing table with
  | nil => exact ⟨table, rfl, (List.append_nil _).symm⟩
  | cons node rest ih =>
    have compiled : Body.node ⟨node.name, node.tags, Statement.encodeBlock node.body⟩ =
        .ok node := by
      refine Except.bind_eq_ok_iff.2 ⟨node.body, ?_, rfl⟩
      exact Body.statements_encode node.body (documented node List.mem_cons_self) _ 0
    have absent : table.contains node.name = false := by
      refine Bool.eq_false_iff.2 fun there => ?_
      rw [List.map_append, List.nodup_append] at distinct
      exact distinct.2.2 _ (Roster.contains_iff.1 there) _ List.mem_cons_self rfl
    have grown := Roster.entries_insert_of_absent absent
    have shifted : ((table.insert node).entries ++ rest).map Node.name =
        (table.entries ++ node :: rest).map Node.name := by
      rw [grown, List.append_assoc, List.singleton_append]
    obtain ⟨built, done, entries⟩ := ih (shifted ▸ distinct) fun node member =>
      documented node (List.mem_cons_of_mem _ member)
    refine ⟨built, ?_, by rw [entries, grown, List.append_assoc, List.singleton_append]⟩
    rw [List.map_cons, addDrafts, compiled]
    refine Except.bind_eq_ok_iff.2 ⟨node, rfl, ?_⟩
    rw [absent, if_neg Bool.false_ne_true]
    exact done

/-- A table of documented bodies is what its document is compiled to. -/
theorem ofDocument_encode {table : NodeTable} (documented : table.Documented) (shape : Shape) :
    ofDocument (table.encode shape) = .ok table := by
  rw [ofDocument, Draft.ofScript_encode (fun node member => (documented node member).1) shape]
  have distinct : (((Roster.empty : NodeTable).entries ++ table.entries).map Node.name).Nodup :=
    table.nodup
  obtain ⟨built, done, entries⟩ := addDrafts_encode distinct fun node member =>
    (documented node member).2
  exact done.trans (congrArg _ (Roster.eq_of_entries entries))

end Script

end Parley
