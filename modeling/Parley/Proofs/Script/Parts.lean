/-
This file says what the places in a body are. A body is a tree of parts, and a place is a way
down from the body: each step leads to one part, or to none. A part can be wrong itself, for
it is of no form, or has a wrong expression, or something else where a list should be; all
else that is wrong with it is wrong with the parts that steps lead to.

So the flaws of a body are the offences of its parts, each under the steps that lead to the
part. This says of the list of flaws what is in it, however the list was put together.
-/

import Parley.Proofs.Script.Flaws

namespace Parley

/-! ### Parts and places -/

/-- A part of a body: a list of statements, a statement, a further clause, the block that a branch
has behind its clauses, or a reply. -/
inductive Part where
  | block (items : List Json)
  | statement (document : Json)
  | clause (document : Json)
  | otherwise (document : Json)
  | reply (document : Json)

/-- What is wrong with a document that is to be a block, if it is no list. -/
def Json.listOffences (document : Json) : List Offence :=
  if document.items?.isNone then [.notStatements] else []

namespace Part

/-- The statements that a part has for its own. -/
def statements? : Part → Option (List Json)
  | block items => some items
  | statement document =>
    match document.statementForm with
    | .branch _ body _ _ => body.items?
    | _ => none
  | clause document => document.clauseForm?.bind fun form => form.body.items?
  | otherwise document => document.items?
  | reply document => document.replyForm?.bind fun form => form.body.bind Json.items?

/-- The further clauses of a branch. -/
def clauses? : Part → Option (List Json)
  | statement document =>
    match document.statementForm with
    | .branch _ _ extras _ => extras
    | _ => none
  | _ => none

/-- The block that a branch has behind its clauses. -/
def otherwise? : Part → Option Json
  | statement document =>
    match document.statementForm with
    | .branch _ _ _ final => final
    | _ => none
  | _ => none

/-- The replies of a choice. -/
def replies? : Part → Option (List Json)
  | statement document =>
    match document.statementForm with
    | .choice items => some items
    | _ => none
  | _ => none

/-- The part that a step leads to. -/
def step? (part : Part) : PlaceStep → Option Part
  | .statement index => (part.statements?.bind fun items => items[index]?).map statement
  | .clause index => (part.clauses?.bind fun items => items[index]?).map clause
  | .otherwise => part.otherwise?.map otherwise
  | .reply index => (part.replies?.bind fun items => items[index]?).map reply

/-- The part that steps lead to. -/
def at? (part : Part) (steps : List PlaceStep) : Option Part := steps.foldlM step? part

/-- What is wrong with a part itself, and not with the parts that steps lead to: it is not of any
form, an expression of it is wrong, or what should be a list is not. -/
def offences : Part → List Offence
  | block _ => []
  | statement document =>
    match document.statementForm with
    | .call => document.expressionOffences
    | .assign _ part => part.expressionOffences
    | .branch condition body extras _ =>
      condition.expressionOffences ++ body.listOffences ++
        if extras.isNone then [.clausesNotList] else []
    | .unknown => [.statement document]
    | _ => []
  | clause document =>
    match document.clauseForm? with
    | none => [.notClause]
    | some form => form.condition.expressionOffences ++ form.body.listOffences
  | otherwise document => document.listOffences
  | reply document =>
    match document.replyForm? with
    | none => [.reply]
    | some form =>
      (form.body.map Json.listOffences).getD [] ++ Json.targetOffences form.target ++
        Json.conditionOffences form.condition

/-- What is wrong with a part. -/
def flaws : Part → List Flaw
  | block items => Flaw.numbered .statement 0 (items.map Json.statementFlaws)
  | statement document => document.statementFlaws
  | clause document => document.clauseFlaws
  | otherwise document => document.blockFlaws
  | reply document => document.replyFlaws

end Part

/-! ### Flaws are offences of parts -/

namespace Flaw

variable {steps : List PlaceStep} {cause : Offence}

theorem mem_here {causes : List Offence} :
    ⟨steps, cause⟩ ∈ here causes ↔ steps = [] ∧ cause ∈ causes := by
  constructor
  · intro among
    obtain ⟨other, member, same⟩ := List.mem_map.1 among
    cases same
    exact ⟨rfl, member⟩
  · rintro ⟨rfl, member⟩
    exact List.mem_map_of_mem member

theorem mem_under {step : PlaceStep} {flaws : List Flaw} :
    ⟨steps, cause⟩ ∈ under step flaws ↔ ∃ rest, steps = step :: rest ∧ ⟨rest, cause⟩ ∈ flaws := by
  constructor
  · intro among
    obtain ⟨inner, member, same⟩ := List.mem_map.1 among
    cases same
    exact ⟨inner.steps, rfl, member⟩
  · rintro ⟨rest, rfl, member⟩
    exact List.mem_map.2 ⟨_, member, rfl⟩

theorem mem_numbered {step : Nat → PlaceStep} {start : Nat} {flaws : Json → List Flaw}
    {items : List Json} :
    ⟨steps, cause⟩ ∈ numbered step start (items.map flaws) ↔ ∃ index item rest,
      steps = step (start + index) :: rest ∧ items[index]? = some item ∧
        ⟨rest, cause⟩ ∈ flaws item := by
  induction items generalizing start with
  | nil => simp [numbered]
  | cons item behind inductionHypothesis =>
    rw [List.map_cons, numbered, List.mem_append, mem_under, inductionHypothesis]
    constructor
    · rintro (⟨rest, rfl, member⟩ | ⟨index, other, rest, rfl, there, member⟩)
      · exact ⟨0, item, rest, rfl, rfl, member⟩
      · refine ⟨index + 1, other, rest, ?_, there, member⟩
        rw [Nat.add_right_comm, Nat.add_assoc]
    · rintro ⟨index, other, rest, rfl, there, member⟩
      cases index with
      | zero =>
        cases there
        exact .inl ⟨rest, rfl, member⟩
      | succ index =>
        refine .inr ⟨index, other, rest, ?_, there, member⟩
        rw [Nat.add_right_comm, Nat.add_assoc]

theorem mem_blockFlaws {body : Json} :
    ⟨steps, cause⟩ ∈ body.blockFlaws ↔ steps = [] ∧ cause ∈ body.listOffences ∨
      ∃ index item rest, steps = .statement index :: rest ∧
        (body.items?.bind fun items => items[index]?) = some item ∧
        ⟨rest, cause⟩ ∈ item.statementFlaws := by
  rw [Json.blockFlaws_eq, Json.listOffences]
  cases body.items? with
  | none => simp [mem_here]
  | some items => simp [mem_numbered]

theorem mem_optionalFlaws {part : Option Json} :
    ⟨steps, cause⟩ ∈ Json.optionalFlaws part ↔
      ∃ body, part = some body ∧ ⟨steps, cause⟩ ∈ body.blockFlaws := by
  cases part with
  | none => simp [Json.optionalFlaws]
  | some body => simp [Json.optionalFlaws]

end Flaw

namespace Part

open Flaw (mem_here mem_under mem_numbered mem_blockFlaws mem_optionalFlaws)

theorem mem_flaws_nil {part : Part} {cause : Offence} :
    ⟨[], cause⟩ ∈ part.flaws ↔ cause ∈ part.offences := by
  cases part with
  | block items => simp [flaws, offences, mem_numbered]
  | statement document =>
    rw [flaws, Json.statementFlaws_eq, offences]
    cases document.statementForm with
    | branch condition body extras final =>
      cases extras <;> simp [mem_here, mem_numbered, mem_under, mem_blockFlaws]
    | _ => simp [mem_here, mem_numbered]
  | clause document =>
    rw [flaws, Json.clauseFlaws_eq, offences]
    cases document.clauseForm? with
    | none => simp [mem_here]
    | some form => simp [mem_here, mem_blockFlaws]
  | otherwise document => simp [flaws, offences, mem_blockFlaws]
  | reply document =>
    rw [flaws, Json.replyFlaws_eq, offences]
    cases document.replyForm? with
    | none => simp [mem_here]
    | some form =>
      cases given : form.body <;> simp [given, Json.optionalFlaws, mem_here, mem_blockFlaws]

/-- The steps from a part, each to a part of its own kind. -/
theorem exists_step? {part : Part} {step : PlaceStep} {holds : Part → Prop} :
    (∃ inner, part.step? step = some inner ∧ holds inner) ↔
      match step with
      | .statement index => ∃ item,
        (part.statements?.bind fun items => items[index]?) = some item ∧ holds (statement item)
      | .clause index => ∃ item,
        (part.clauses?.bind fun items => items[index]?) = some item ∧ holds (clause item)
      | .otherwise => ∃ item, part.otherwise? = some item ∧ holds (otherwise item)
      | .reply index => ∃ item,
        (part.replies?.bind fun items => items[index]?) = some item ∧ holds (reply item) := by
  cases step <;> simp [step?, -Option.map_bind]

theorem mem_flaws_cons {part : Part} {step : PlaceStep} {steps : List PlaceStep} {cause : Offence} :
    ⟨step :: steps, cause⟩ ∈ part.flaws ↔
      ∃ inner, part.step? step = some inner ∧ ⟨steps, cause⟩ ∈ inner.flaws := by
  rw [exists_step?]
  cases part with
  | block items =>
    cases step <;> simp [flaws, statements?, clauses?, otherwise?, replies?, mem_numbered]
  | statement document =>
    rw [flaws, Json.statementFlaws_eq, statements?, clauses?, otherwise?, replies?]
    cases document.statementForm with
    | branch condition body extras final =>
      cases extras <;> cases step <;>
        simp [flaws, mem_here, mem_numbered, mem_under, mem_blockFlaws, mem_optionalFlaws]
    | choice items => cases step <;> simp [flaws, mem_numbered]
    | _ => cases step <;> simp [mem_here]
  | clause document =>
    rw [flaws, Json.clauseFlaws_eq, statements?]
    cases document.clauseForm? <;> cases step <;>
      simp [flaws, clauses?, otherwise?, replies?, mem_here, mem_blockFlaws]
  | otherwise document =>
    cases step <;> simp [flaws, statements?, clauses?, otherwise?, replies?, mem_blockFlaws]
  | reply document =>
    rw [flaws, Json.replyFlaws_eq, statements?]
    cases document.replyForm? with
    | none => cases step <;> simp [flaws, clauses?, otherwise?, replies?, mem_here]
    | some form =>
      cases given : form.body <;> cases step <;>
        simp [given, flaws, Json.optionalFlaws, clauses?, otherwise?, replies?, mem_here,
          mem_blockFlaws]

/-- The flaws of a part are the offences of the parts that are in it, each under the steps that lead
to the part. -/
theorem mem_flaws_iff {part : Part} {steps : List PlaceStep} {cause : Offence} :
    ⟨steps, cause⟩ ∈ part.flaws ↔
      ∃ inner, part.at? steps = some inner ∧ cause ∈ inner.offences := by
  induction steps generalizing part with
  | nil =>
    rw [mem_flaws_nil]
    exact ⟨fun own => ⟨part, rfl, own⟩, fun ⟨_, same, own⟩ => Option.some.inj same ▸ own⟩
  | cons step steps inductionHypothesis =>
    rw [mem_flaws_cons, at?, List.foldlM_cons]
    cases part.step? step with
    | none => simp
    | some inner =>
      constructor
      · rintro ⟨_, ⟨⟩, member⟩
        exact inductionHypothesis.1 member
      · exact fun held => ⟨inner, rfl, inductionHypothesis.2 held⟩

end Part

/-- The offences among the failures of drafts are those of the parts of their bodies. -/
theorem Script.offence_mem_faults_iff {titles : List Text} {drafts : List Draft} {place : Place}
    {cause : Offence} :
    LoadFault.offence place cause ∈ faults titles drafts ↔ ∃ draft ∈ drafts,
      draft.title = place.node ∧ ∃ part, (Part.block draft.body).at? place.steps = some part ∧
        cause ∈ part.offences := by
  induction drafts generalizing titles with
  | nil => simp [faults]
  | cons draft rest inductionHypothesis =>
    have own : LoadFault.offence place cause ∈ draft.flaws.map (Flaw.fault ⟨draft.title, []⟩) ↔
        draft.title = place.node ∧ ⟨place.steps, cause⟩ ∈ (Part.block draft.body).flaws := by
      rw [List.mem_map]
      constructor
      · rintro ⟨flaw, member, same⟩
        cases same
        exact ⟨rfl, member⟩
      · rintro ⟨same, member⟩
        exact ⟨_, member, congrArg (fun node => LoadFault.offence ⟨node, place.steps⟩ cause) same⟩
    have other : LoadFault.offence place cause ∉
        if draft.title ∈ titles then [.duplicate draft.title] else [] := by
      split <;> simp
    rw [faults, List.mem_append, List.mem_append, own, or_iff_right other, inductionHypothesis,
      Part.mem_flaws_iff, List.exists_mem_cons_iff]

end Parley
