/-
This file says what of a body comes before a place in it. A body is a tree of parts, and a
place is a way down from the body. What is left of a body that is cut off at a place is put
together on the way back up: at each step there are the items before the one that the step
leads to, then what is left of that item, and around them the members of the object that
are read earlier.
-/

import Parley.Proofs.Script.Core
import Parley.Proofs.Script.Parts

namespace Parley

open Flaw (here under numbered)

/-! ### Objects that are cut off -/

namespace Json

/-- The members of an object. -/
def members : Json → List (Text × Json)
  | object members => members
  | _ => []

/-- An object that is cut off: its members under some keys, and what there is of one more. -/
def cutOff (keys : List Text) (more : List (Text × Json)) (document : Json) : Json :=
  .object ((keys.filterMap fun key => document.members.find? fun member => member.1 = key) ++ more)

theorem member?_cutOff (keys : List Text) (more : List (Text × Json)) (document : Json)
    (key : Text) : (document.cutOff keys more).member? key =
      (if key ∈ keys then document.member? key else none).or ((object more).member? key) := by
  rw [cutOff, member?_append]
  refine congrArg (fun found => Option.or found ((object more).member? key)) ?_
  rw [member?, find?_filterMap]
  split
  · cases document <;> rfl
  · rfl

theorem clauseForm?_eq_some {document : Json} {form : ClauseForm}
    (found : document.clauseForm? = some form) :
    document.member? "if" = some form.condition ∧ document.member? "then" = some form.body := by
  rw [clauseForm?] at found
  split at found
  next condition body first second =>
    cases found
    exact ⟨first, second⟩
  next => cases found

theorem statementForm_eq_branch {document condition body : Json} {extras : Option (List Json)}
    {otherwise : Option Json}
    (shown : document.statementForm = .branch condition body extras otherwise) :
    document.member? "if" = some condition ∧ document.member? "then" = some body ∧
      document.listUnder "elif" = extras ∧ document.member? "else" = otherwise := by
  rw [statementForm] at shown
  split at shown <;> try cases shown
  next found =>
    obtain ⟨first, second⟩ := clauseForm?_eq_some found
    exact ⟨first, second, rfl, rfl⟩

section

variable {document condition body : Json} {extras : Option (List Json)} {otherwise : Option Json}
  (shown : document.statementForm = .branch condition body extras otherwise)

include shown

/-- A branch that is cut off in its block. -/
theorem statementForm_cutOff_then (items : List Json) :
    (document.cutOff ["if"] [("then", .array items)]).statementForm =
      .branch condition (.array items) (some []) none := by
  obtain ⟨first, -⟩ := statementForm_eq_branch shown
  simp [statementForm, textUnder?, assignment?, clauseForm?, listUnder, member?_cutOff,
    member?_cons, member?_nil, Text.ofString_inj, first]

/-- A branch that is cut off behind its block. -/
theorem statementForm_cutOff :
    (document.cutOff ["if", "then"] []).statementForm =
      .branch condition body (some []) none := by
  obtain ⟨first, second, -⟩ := statementForm_eq_branch shown
  simp [statementForm, textUnder?, assignment?, clauseForm?, listUnder, member?_cutOff,
    member?_nil, Text.ofString_inj, first, second]

/-- A branch that is cut off in its further clauses. -/
theorem statementForm_cutOff_elif (items : List Json) :
    (document.cutOff ["if", "then"] [("elif", .array items)]).statementForm =
      .branch condition body (some items) none := by
  obtain ⟨first, second, -⟩ := statementForm_eq_branch shown
  simp [statementForm, textUnder?, assignment?, clauseForm?, listUnder, member?_cutOff,
    member?_cons, member?_nil, items?, Text.ofString_inj, first, second]

/-- A branch that is cut off in its last block. -/
theorem statementForm_cutOff_else (items : List Json) :
    (document.cutOff ["if", "then", "elif"] [("else", .array items)]).statementForm =
      .branch condition body extras (some (.array items)) := by
  obtain ⟨first, second, third, -⟩ := statementForm_eq_branch shown
  rw [← third]
  simp [statementForm, textUnder?, assignment?, clauseForm?, listUnder, member?_cutOff,
    member?_cons, member?_nil, Text.ofString_inj, first, second]

end

theorem clauseForm?_cutOff {document : Json} {form : ClauseForm}
    (found : document.clauseForm? = some form) (items : List Json) :
    (document.cutOff ["if"] [("then", .array items)]).clauseForm? =
      some ⟨form.condition, .array items⟩ := by
  obtain ⟨first, -⟩ := clauseForm?_eq_some found
  simp [clauseForm?, member?_cutOff, member?_cons, Text.ofString_inj, first]

/-- A choice that is cut off. -/
theorem statementForm_cutOff_options (document : Json) (items : List Json) :
    (document.cutOff [] [("options", .array items)]).statementForm = .choice items := by
  simp [statementForm, textUnder?, assignment?, clauseForm?, listUnder?, member?_cutOff,
    member?_cons, member?_nil, items?, Text.ofString_inj]

theorem replyForm?_eq_some {document : Json} {form : ReplyForm}
    (found : document.replyForm? = some form) :
    document.textUnder? "text" = some form.text ∧ document.member? "body" = form.body ∧
      ((document.member? "jump").map fun _ => document.textUnder? "jump") = form.target := by
  obtain ⟨text, there, rfl⟩ := Option.map_eq_some_iff.1 found
  exact ⟨there, rfl, rfl⟩

section

variable {document : Json} {form : ReplyForm} (found : document.replyForm? = some form)

include found

/-- A reply that is cut off in its block. -/
theorem replyForm?_cutOff_body (items : List Json) :
    (document.cutOff ["text"] [("body", .array items)]).replyForm? =
      some ⟨form.text, some (.array items), none, none⟩ := by
  obtain ⟨first, -⟩ := replyForm?_eq_some found
  rw [textUnder?] at first
  simp [replyForm?, textUnder?, member?_cutOff, member?_cons, member?_nil, Text.ofString_inj, first]

/-- A reply that is cut off before its target. -/
theorem replyForm?_cutOff_jump :
    (document.cutOff ["text", "body"] []).replyForm? = some ⟨form.text, form.body, none, none⟩ := by
  obtain ⟨first, second, -⟩ := replyForm?_eq_some found
  rw [textUnder?] at first
  simp [replyForm?, textUnder?, member?_cutOff, member?_nil, Text.ofString_inj, first, second]

/-- A reply that is cut off before its condition. -/
theorem replyForm?_cutOff_if :
    (document.cutOff ["text", "body", "jump"] []).replyForm? =
      some ⟨form.text, form.body, form.target, none⟩ := by
  obtain ⟨first, second, third⟩ := replyForm?_eq_some found
  rw [textUnder?] at first third
  simp [replyForm?, textUnder?, member?_cutOff, member?_nil, Text.ofString_inj, first, second,
    third]

end

/-! ### Sound parts -/

theorem numbered_eq_nil_iff {step : Nat → PlaceStep} {index : Nat} {flaws : Json → List Flaw}
    {items : List Json} :
    numbered step index (items.map flaws) = [] ↔ ∀ item ∈ items, flaws item = [] := by
  induction items generalizing index with
  | nil => simp [numbered]
  | cons item rest inductionHypothesis =>
    rw [List.map_cons, numbered, List.append_eq_nil_iff, inductionHypothesis, under,
      List.map_eq_nil_iff, List.forall_mem_cons]

theorem here_eq_nil_iff {causes : List Offence} : here causes = [] ↔ causes = [] :=
  List.map_eq_nil_iff

theorem under_eq_nil_iff {step : PlaceStep} {flaws : List Flaw} :
    under step flaws = [] ↔ flaws = [] :=
  List.map_eq_nil_iff

theorem blockFlaws_array {items : List Json} :
    (array items).blockFlaws = [] ↔ ∀ item ∈ items, item.statementFlaws = [] := by
  rw [blockFlaws_eq]
  exact numbered_eq_nil_iff

theorem statementFlaws_branch {document condition body : Json} {items : List Json}
    {otherwise : Option Json}
    (shown : document.statementForm = .branch condition body (some items) otherwise) :
    document.statementFlaws = [] ↔ condition.expressionOffences = [] ∧ body.blockFlaws = [] ∧
      (∀ item ∈ items, item.clauseFlaws = []) ∧ optionalFlaws otherwise = [] := by
  rw [statementFlaws_eq, shown]
  dsimp only
  rw [List.append_eq_nil_iff, List.append_eq_nil_iff, List.append_eq_nil_iff, here_eq_nil_iff,
    numbered_eq_nil_iff, under_eq_nil_iff]

theorem statementFlaws_choice {document : Json} {items : List Json}
    (shown : document.statementForm = .choice items) :
    document.statementFlaws = [] ↔ ∀ item ∈ items, item.replyFlaws = [] := by
  rw [statementFlaws_eq, shown]
  exact numbered_eq_nil_iff

theorem clauseFlaws_some {document : Json} {form : ClauseForm}
    (found : document.clauseForm? = some form) :
    document.clauseFlaws = [] ↔
      form.condition.expressionOffences = [] ∧ form.body.blockFlaws = [] := by
  rw [clauseFlaws_eq, found]
  dsimp only
  rw [List.append_eq_nil_iff, here_eq_nil_iff]

theorem replyFlaws_some {document : Json} {form : ReplyForm}
    (found : document.replyForm? = some form) :
    document.replyFlaws = [] ↔ optionalFlaws form.body = [] ∧ targetOffences form.target = [] ∧
      conditionOffences form.condition = [] := by
  rw [replyFlaws_eq, found]
  dsimp only
  rw [List.append_eq_nil_iff, List.append_eq_nil_iff, here_eq_nil_iff, here_eq_nil_iff]

end Json

/-! ### What is left of a part -/

namespace Part

/-- A part with some of its statements, and nothing behind them. -/
def withStatements (items : List Json) : Part → List Json
  | block _ => items
  | statement document => [document.cutOff ["if"] [("then", .array items)]]
  | clause document => [document.cutOff ["if"] [("then", .array items)]]
  | otherwise _ => items
  | reply document => [document.cutOff ["text"] [("body", .array items)]]

/-- What is left of a part that is cut off behind a step, of which something is left. -/
def rejoin (part : Part) (step : PlaceStep) (left : List Json) : List Json :=
  match part, step with
  | part, .statement index =>
    part.withStatements ((part.statements?.getD []).take index ++ left)
  | statement document, .clause index =>
    let items := ((statement document).clauses?.getD []).take index ++ left
    [document.cutOff ["if", "then"] [("elif", .array items)]]
  | statement document, .otherwise =>
    [document.cutOff ["if", "then", "elif"] [("else", .array left)]]
  | statement document, .reply index =>
    let items := ((statement document).replies?.getD []).take index ++ left
    [document.cutOff [] [("options", .array items)]]
  | _, _ => []

/-- What is left of a part that is cut off before an offence of its own. -/
def upTo (part : Part) (cause : Offence) : List Json :=
  match part, cause with
  | part, .notStatements => part.withStatements []
  | statement document, .clausesNotList => [document.cutOff ["if", "then"] []]
  | reply _, .reply => []
  | reply document, .target => [document.cutOff ["text", "body"] []]
  | reply document, _ => [document.cutOff ["text", "body", "jump"] []]
  | _, _ => []

/-- What is left of a part that is cut off before an offence: a list of statements, or of one
clause or reply, or of nothing. -/
def cut (part : Part) (cause : Offence) : List PlaceStep → List Json
  | [] => part.upTo cause
  | step :: steps =>
    match part.step? step with
    | none => []
    | some inner => part.rejoin step (inner.cut cause steps)

/-- Nothing is wrong with what is left of a part. -/
def Sound (left : List Json) : Part → Prop
  | block _ => ∀ item ∈ left, item.statementFlaws = []
  | statement _ => ∀ item ∈ left, item.statementFlaws = []
  | clause _ => ∀ item ∈ left, item.clauseFlaws = []
  | otherwise _ => ∀ item ∈ left, item.statementFlaws = []
  | reply _ => ∀ item ∈ left, item.replyFlaws = []

/-! ### The first flaw -/

/-- What comes before the first flaw of a part is sound: if the flaw is the part's own, all that is
left of the part, and if it is the first flaw of the part that a step leads to, all that is left if
what is left of that part is sound. -/
inductive Leads (part : Part) : List PlaceStep → Offence → Prop
  | here {cause : Offence} (sound : part.Sound (part.upTo cause)) : Leads part [] cause
  | below {step : PlaceStep} {inner : Part} {steps : List PlaceStep} {cause : Offence}
    (there : part.step? step = some inner) (first : inner.flaws.head? = some ⟨steps, cause⟩)
    (sound : ∀ left, inner.Sound left → part.Sound (part.rejoin step left)) :
    Leads part (step :: steps) cause

end Part

/-- Tells whether an offence is one of expressions. -/
def Offence.ofExpression : Offence → Bool
  | expression _ => true
  | operator _ => true
  | operands _ _ _ => true
  | operandsNotList => true
  | _ => false

theorem Json.ofExpression_of_mem (document : Json) {cause : Offence}
    (among : cause ∈ document.expressionOffences) : cause.ofExpression = true := by
  rw [expressionOffences_eq] at among
  have named {name : Text} (among : cause ∈ Operator.nameOffences name) :
      cause.ofExpression = true := by
    rw [Operator.nameOffences] at among
    split at among
    · obtain rfl := List.mem_singleton.1 among
      rfl
    · cases among
  have counted {name : Text} {count : Nat} (among : cause ∈ Operator.countOffences name count) :
      cause.ofExpression = true := by
    rw [Operator.countOffences] at among
    split at among
    · cases among
    · split at among
      · cases among
      · obtain rfl := List.mem_singleton.1 among
        rfl
  split at among
  next => cases among
  next => cases among
  next =>
    obtain rfl := List.mem_singleton.1 among
    rfl
  next items shown =>
    obtain ⟨item, member, inside⟩ := List.mem_flatMap.1 among
    have := Json.sizeOf_call shown
    have := List.sizeOf_lt_of_mem member
    exact ofExpression_of_mem item inside
  next =>
    obtain here | here := List.mem_append.1 among
    · exact named here
    · obtain rfl := List.mem_singleton.1 here
      rfl
  next name items shown =>
    obtain before | last := List.mem_append.1 among
    · obtain here | within := List.mem_append.1 before
      · exact named here
      · obtain ⟨item, member, inside⟩ := List.mem_flatMap.1 within
        have := Json.sizeOf_operator shown
        have := List.sizeOf_lt_of_mem member
        exact ofExpression_of_mem item inside
    · exact counted last
  next =>
    obtain rfl := List.mem_singleton.1 among
    rfl
termination_by sizeOf document

theorem Json.eq_of_mem_targetOffences {target : Option (Option Text)} {cause : Offence}
    (among : cause ∈ targetOffences target) : cause = .target := by
  cases target with
  | none => cases among
  | some written =>
    cases written with
    | none => exact List.mem_singleton.1 among
    | some name => cases among

theorem List.head?_append_eq_some_iff {Item : Type} {first second : List Item} {item : Item} :
    (first ++ second).head? = some item ↔
      first.head? = some item ∨ first = [] ∧ second.head? = some item := by
  rw [List.head?_append, Option.or_eq_some_iff, List.head?_eq_none_iff]

theorem Flaw.head?_here {causes : List Offence} {flaw : Flaw}
    (first : (here causes).head? = some flaw) : ∃ cause ∈ causes, flaw = ⟨[], cause⟩ := by
  obtain ⟨cause, among, rfl⟩ := List.mem_map.1 (List.mem_of_mem_head? first)
  exact ⟨cause, among, rfl⟩

theorem Flaw.head?_under {step : PlaceStep} {flaws : List Flaw} {flaw : Flaw}
    (first : (under step flaws).head? = some flaw) :
    ∃ steps, flaw.steps = step :: steps ∧ flaws.head? = some ⟨steps, flaw.cause⟩ := by
  rw [under, List.head?_map] at first
  obtain ⟨inner, found, rfl⟩ := Option.map_eq_some_iff.1 first
  exact ⟨inner.steps, rfl, found⟩

/-- The first flaw of the parts in a row is that of one of them, and those before it have none. -/
theorem Flaw.head?_numbered {step : Nat → PlaceStep} {start : Nat} {flaws : Json → List Flaw}
    {items : List Json} {flaw : Flaw}
    (first : (numbered step start (items.map flaws)).head? = some flaw) :
    ∃ index item steps, flaw.steps = step (start + index) :: steps ∧ items[index]? = some item ∧
      (flaws item).head? = some ⟨steps, flaw.cause⟩ ∧
      ∀ earlier ∈ items.take index, flaws earlier = [] := by
  induction items generalizing start with
  | nil => cases first
  | cons item rest inductionHypothesis =>
    rw [List.map_cons, numbered, List.head?_append_eq_some_iff, Json.under_eq_nil_iff] at first
    obtain here | ⟨sound, later⟩ := first
    · obtain ⟨steps, way, found⟩ := head?_under here
      exact ⟨0, item, steps, way, rfl, found, List.forall_mem_nil _⟩
    · obtain ⟨index, other, steps, way, there, found, before⟩ := inductionHypothesis later
      refine ⟨index + 1, other, steps, ?_, there, found, List.forall_mem_cons.2 ⟨sound, before⟩⟩
      rw [way, Nat.add_right_comm, Nat.add_assoc]

namespace Part

/-- What comes before the first flaw of the parts in a row is sound for the part that holds them. -/
theorem Leads.of_numbered (kind : Json → Part) {part : Part} {step : Nat → PlaceStep}
    {flaws : Json → List Flaw} {items : List Json} {flaw : Flaw}
    (first : (numbered step 0 (items.map flaws)).head? = some flaw)
    (there : ∀ index, part.step? (step index) = items[index]?.map kind)
    (kinds : ∀ item, (kind item).flaws = flaws item ∧
      ∀ left, (kind item).Sound left → ∀ other ∈ left, flaws other = [])
    (sound : ∀ index left, (∀ item ∈ items.take index ++ left, flaws item = []) →
      part.Sound (part.rejoin (step index) left)) :
    part.Leads flaw.steps flaw.cause := by
  obtain ⟨index, item, steps, way, found, inner, before⟩ := Flaw.head?_numbered first
  have leads : part.step? (step index) = some (kind item) := by
    rw [there, found, Option.map_some]
  rw [← (kinds item).1] at inner
  rw [way, Nat.zero_add]
  refine .below leads inner fun left whole => sound index left ?_
  exact List.forall_mem_append.2 ⟨before, (kinds item).2 left whole⟩

/-- What comes before the first flaw of a block is sound for the part that has the statements of
the block for its own. -/
theorem Leads.of_block {part : Part} {body : Json} {flaw : Flaw}
    (first : body.blockFlaws.head? = some flaw) (list : part.statements? = body.items?)
    (sound : ∀ left : List Json, (∀ item ∈ left, item.statementFlaws = []) →
      part.Sound (part.withStatements left)) :
    part.Leads flaw.steps flaw.cause := by
  rw [Json.blockFlaws_eq] at first
  cases found : body.items? with
  | none =>
    rw [found] at first
    cases first
    exact .here (sound [] (List.forall_mem_nil _))
  | some items =>
    rw [found] at first list
    refine .of_numbered statement first (fun index => ?_) (fun _ => ⟨rfl, fun _ whole => whole⟩)
      fun index left whole => ?_
    · rw [step?, list, Option.bind_some]
    · rw [rejoin, list]
      exact sound _ whole

theorem Leads.of_expression {part : Part} {document : Json} {flaw : Flaw}
    (first : (Flaw.here document.expressionOffences).head? = some flaw)
    (sound : ∀ cause : Offence, cause.ofExpression = true → part.Sound (part.upTo cause)) :
    part.Leads flaw.steps flaw.cause := by
  obtain ⟨cause, among, rfl⟩ := Flaw.head?_here first
  exact .here (sound cause (document.ofExpression_of_mem among))

/-- Nothing is left of a statement or a clause before its first expression. -/
theorem sound_upTo_statement (document : Json) (cause : Offence)
    (about : cause.ofExpression = true) :
    (statement document).Sound ((statement document).upTo cause) := by
  cases cause <;> first | exact List.forall_mem_nil _ | cases about

theorem sound_upTo_clause (document : Json) (cause : Offence)
    (about : cause.ofExpression = true) :
    (clause document).Sound ((clause document).upTo cause) := by
  cases cause <;> first | exact List.forall_mem_nil _ | cases about

theorem leads_branch {document condition body : Json} {extras : Option (List Json)}
    {final : Option Json}
    (shown : document.statementForm = .branch condition body extras final) {flaw : Flaw}
    (first : document.statementFlaws.head? = some flaw) :
    (statement document).Leads flaw.steps flaw.cause := by
  rw [Json.statementFlaws_eq, shown] at first
  dsimp only at first
  -- Each check leaves a longer part of the branch, of which the checks before it are known to pass.
  obtain tested | ⟨condition, first⟩ := List.head?_append_eq_some_iff.1 first
  · exact .of_expression tested (sound_upTo_statement document)
  rw [Json.here_eq_nil_iff] at condition
  obtain inside | ⟨block, first⟩ := List.head?_append_eq_some_iff.1 first
  · have list : (statement document).statements? = body.items? := by rw [statements?, shown]
    refine .of_block inside list fun left whole => List.forall_mem_singleton.2 ?_
    rw [Json.statementFlaws_branch (Json.statementForm_cutOff_then shown left)]
    exact ⟨condition, Json.blockFlaws_array.2 whole, List.forall_mem_nil _, rfl⟩
  cases extras with
  | none =>
    cases first
    refine .here (List.forall_mem_singleton.2 ?_)
    rw [Json.statementFlaws_branch (Json.statementForm_cutOff shown)]
    exact ⟨condition, block, List.forall_mem_nil _, rfl⟩
  | some items =>
    obtain further | ⟨clauses, first⟩ := List.head?_append_eq_some_iff.1 first
    · have list : (statement document).clauses? = some items := by rw [clauses?, shown]
      refine .of_numbered clause further (fun index => ?_) (fun _ => ⟨rfl, fun _ whole => whole⟩)
        fun index left whole => List.forall_mem_singleton.2 ?_
      · rw [step?, list, Option.bind_some]
      · rw [list, Json.statementFlaws_branch (Json.statementForm_cutOff_elif shown _)]
        exact ⟨condition, block, whole, rfl⟩
    · obtain ⟨steps, way, inner⟩ := Flaw.head?_under first
      cases final with
      | none => cases inner
      | some part =>
        have leads : (statement document).step? .otherwise = some (otherwise part) := by
          rw [step?, otherwise?, shown, Option.map_some]
        rw [way]
        refine .below leads inner fun left whole => List.forall_mem_singleton.2 ?_
        rw [Json.statementFlaws_branch (Json.statementForm_cutOff_else shown left)]
        exact ⟨condition, block, Json.numbered_eq_nil_iff.1 clauses, Json.blockFlaws_array.2 whole⟩

theorem leads_statement {document : Json} {flaw : Flaw}
    (first : document.statementFlaws.head? = some flaw) :
    (statement document).Leads flaw.steps flaw.cause := by
  have flaws := Json.statementFlaws_eq document
  cases shown : document.statementForm with
  | branch condition body extras final => exact leads_branch shown first
  | call =>
    rw [flaws, shown] at first
    exact .of_expression first (sound_upTo_statement document)
  | assign name part =>
    rw [flaws, shown] at first
    exact .of_expression first (sound_upTo_statement document)
  | choice items =>
    rw [flaws, shown] at first
    have list : (statement document).replies? = some items := by rw [replies?, shown]
    refine .of_numbered reply first (fun index => ?_) (fun _ => ⟨rfl, fun _ whole => whole⟩)
      fun index left whole => List.forall_mem_singleton.2 ?_
    · rw [step?, list, Option.bind_some]
    · rw [list, Json.statementFlaws_choice (Json.statementForm_cutOff_options document _)]
      exact whole
  | unknown =>
    rw [flaws, shown] at first
    cases first
    exact .here (List.forall_mem_nil _)
  | _ =>
    rw [flaws, shown] at first
    cases first

theorem leads_clause {document : Json} {flaw : Flaw}
    (first : document.clauseFlaws.head? = some flaw) :
    (clause document).Leads flaw.steps flaw.cause := by
  rw [Json.clauseFlaws_eq] at first
  cases found : document.clauseForm? with
  | none =>
    rw [found] at first
    cases first
    exact .here (List.forall_mem_nil _)
  | some form =>
    rw [found] at first
    obtain tested | ⟨condition, inside⟩ := List.head?_append_eq_some_iff.1 first
    · exact .of_expression tested (sound_upTo_clause document)
    · have list : (clause document).statements? = form.body.items? := by
        rw [statements?, found, Option.bind_some]
      refine .of_block inside list fun left whole => List.forall_mem_singleton.2 ?_
      rw [Json.clauseFlaws_some (Json.clauseForm?_cutOff found left)]
      exact ⟨Json.here_eq_nil_iff.1 condition, Json.blockFlaws_array.2 whole⟩

theorem leads_reply {document : Json} {flaw : Flaw}
    (first : document.replyFlaws.head? = some flaw) :
    (reply document).Leads flaw.steps flaw.cause := by
  rw [Json.replyFlaws_eq] at first
  cases found : document.replyForm? with
  | none =>
    rw [found] at first
    cases first
    exact .here (List.forall_mem_nil _)
  | some form =>
    rw [found] at first
    obtain inside | ⟨block, first⟩ := List.head?_append_eq_some_iff.1 first
    · cases given : form.body with
      | none =>
        rw [given] at inside
        cases inside
      | some body =>
        have list : (reply document).statements? = body.items? := by
          rw [statements?, found, Option.bind_some, given, Option.bind_some]
        rw [given] at inside
        refine .of_block inside list fun left whole => List.forall_mem_singleton.2 ?_
        rw [Json.replyFlaws_some (Json.replyForm?_cutOff_body found left)]
        exact ⟨Json.blockFlaws_array.2 whole, rfl, rfl⟩
    obtain leaves | ⟨target, tested⟩ := List.head?_append_eq_some_iff.1 first
    · obtain ⟨cause, among, rfl⟩ := Flaw.head?_here leaves
      obtain rfl := Json.eq_of_mem_targetOffences among
      refine .here (List.forall_mem_singleton.2 ?_)
      rw [Json.replyFlaws_some (Json.replyForm?_cutOff_jump found)]
      exact ⟨block, rfl, rfl⟩
    · cases given : form.condition with
      | none =>
        rw [given] at tested
        cases tested
      | some part =>
        have sound : (document.cutOff ["text", "body", "jump"] []).replyFlaws = [] := by
          rw [Json.replyFlaws_some (Json.replyForm?_cutOff_if found)]
          exact ⟨block, Json.here_eq_nil_iff.1 target, rfl⟩
        rw [given] at tested
        refine .of_expression tested fun cause about => ?_
        cases cause <;> first | exact List.forall_mem_singleton.2 sound | cases about

theorem leads {part : Part} {flaw : Flaw} (first : part.flaws.head? = some flaw) :
    part.Leads flaw.steps flaw.cause := by
  cases part with
  | block items =>
    exact .of_numbered statement first (fun _ => rfl) (fun _ => ⟨rfl, fun _ whole => whole⟩)
      fun _ _ whole => whole
  | statement document => exact leads_statement first
  | clause document => exact leads_clause first
  | otherwise document => exact .of_block first rfl fun _ whole => whole
  | reply document => exact leads_reply first

/-- A part that is cut off before its first flaw is sound. -/
theorem sound_cut {part : Part} {steps : List PlaceStep} {cause : Offence}
    (first : part.flaws.head? = some ⟨steps, cause⟩) : part.Sound (part.cut cause steps) := by
  induction steps generalizing part with
  | nil =>
    cases leads first with
    | here sound => exact sound
  | cons step steps inductionHypothesis =>
    cases leads first with
    | below there first sound =>
      rw [cut, there]
      exact sound _ (inductionHypothesis first)

end Part

end Parley
