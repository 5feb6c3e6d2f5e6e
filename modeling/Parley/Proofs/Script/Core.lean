/-
This file says what a script can see of a document. A document is only ever asked for what
lies under one of the known keys. So it has a core, in which every object has its known
members, in one order for all objects, and nothing else; and the core has the form that the
document has, with the cores of its parts.

Whoever changes the order of members or adds members under other keys does not change the
core. That holds for documents in which every key of an object occurs once, as it does in
all that is read from a text.
-/

import Mathlib.Logic.Relation
import Parley.Proofs.Json.Keys
import Parley.Proofs.Script.Encoding

namespace Parley

/-- The keys that scripts are written with. -/
def Script.vocabulary : List Text :=
  ["nodes", "title", "tags", "body", "line", "command", "call", "args", "set", "to", "if", "then",
    "elif", "else", "options", "text", "jump", "var", "op"]

namespace Json

open Script (vocabulary)

/-! ### Cores -/

/-- The members under known keys, in the order of the keys. -/
def arranged (members : List (Text × Json)) : List (Text × Json) :=
  vocabulary.filterMap fun key => members.find? fun member => member.1 = key

mutual

/-- A document in which every object has its known members in one order, and nothing else. -/
def core : Json → Json
  | array items => array (coreItems items)
  | object members => object (arranged (coreMembers members))
  | document => document

def coreItems : List Json → List Json
  | [] => []
  | item :: rest => core item :: coreItems rest

def coreMembers : List (Text × Json) → List (Text × Json)
  | [] => []
  | (key, part) :: rest => (key, core part) :: coreMembers rest

end

theorem coreItems_eq (items : List Json) : coreItems items = items.map core := by
  induction items with
  | nil => rfl
  | cons item rest inductionHypothesis => rw [coreItems, inductionHypothesis, List.map_cons]

theorem core_array (items : List Json) : core (array items) = array (items.map core) := by
  rw [core, coreItems_eq]

theorem find?_coreMembers (members : List (Text × Json)) (key : Text) :
    (coreMembers members).find? (fun member => member.1 = key) =
      ((object members).member? key).map fun part => (key, core part) := by
  induction members with
  | nil => rfl
  | cons member rest inductionHypothesis =>
    obtain ⟨name, part⟩ := member
    by_cases same : name = key
    · simp [coreMembers, member?, same]
    · simpa [coreMembers, member?, same] using inductionHypothesis

theorem find?_filterMap {members : List (Text × Json)} (keys : List Text) (key : Text) :
    (keys.filterMap fun key => members.find? fun member => member.1 = key).find?
        (fun member => member.1 = key) =
      if key ∈ keys then members.find? fun member => member.1 = key else none := by
  induction keys with
  | nil => rfl
  | cons first rest inductionHypothesis =>
    cases found : members.find? (fun member => member.1 = first) with
    | none =>
      rw [List.filterMap_cons, found, inductionHypothesis]
      by_cases same : key = first
      · subst same
        simp [found]
      · simp [same]
    | some member =>
      have named : member.1 = first := by simpa using List.find?_some found
      rw [List.filterMap_cons, found]
      by_cases same : key = first
      · subst same
        simp [named, found]
      · have other : ¬ member.1 = key := fun equal => same (equal.symm.trans named)
        simp [other, same, inductionHypothesis]

/-- What lies under a known key of the core is the core of what lies under it. -/
theorem member?_core {key : Text} (known : key ∈ vocabulary) (document : Json) :
    (core document).member? key = (document.member? key).map core := by
  cases document with
  | object members =>
    rw [core, member?, arranged, find?_filterMap, if_pos known, find?_coreMembers, Option.map_map]
    rfl
  | array items => rw [core_array]; rfl
  | _ => rfl

/-- Objects have the same core if the same lies under each known key, up to its core. -/
theorem core_object_congr {members others : List (Text × Json)}
    (same : ∀ key ∈ vocabulary, ((object members).member? key).map core =
      ((object others).member? key).map core) : core (object members) = core (object others) := by
  rw [core, core, arranged, arranged]
  refine congrArg object (List.filterMap_congr fun key known => ?_)
  have named (members : List (Text × Json)) :
      (coreMembers members).find? (fun member => member.1 = key) =
        (((object members).member? key).map core).map (Prod.mk key) := by
    rw [find?_coreMembers, Option.map_map]
    rfl
  rw [named, named, same key known]

/-! ### Edits -/

/-- A change to a document that means nothing: the members of an object are put into another order,
or one under a new key is added that is not known; or such a change is made to a part. -/
inductive Edit : Json → Json → Prop
  | permuted {members others} (same : members.Perm others) : Edit (object members) (object others)
  | extended {members key} (part) (unknown : key ∉ vocabulary)
    (fresh : key ∉ members.map Prod.fst) : Edit (object members) (object (members ++ [(key, part)]))
  | item {before part changed after} (inside : Edit part changed) :
    Edit (array (before ++ part :: after)) (array (before ++ changed :: after))
  | member {before key part changed after} (inside : Edit part changed) :
    Edit (object (before ++ (key, part) :: after)) (object (before ++ (key, changed) :: after))

theorem member?_perm {members others : List (Text × Json)} (same : members.Perm others)
    (distinct : (members.map Prod.fst).Nodup) (key : Text) :
    (object members).member? key = (object others).member? key := by
  have found (members : List (Text × Json)) (distinct : (members.map Prod.fst).Nodup)
      (part : Json) : (object members).member? key = some part ↔ (key, part) ∈ members := by
    rw [member?, Option.map_eq_some_iff]
    constructor
    · rintro ⟨⟨name, part⟩, there, rfl⟩
      obtain rfl : name = key := by simpa using List.find?_some there
      exact List.mem_of_find?_eq_some there
    · intro member
      exact ⟨(key, part), find?_of_mem distinct member, rfl⟩
  ext part
  rw [found members distinct, found others ((same.map Prod.fst).nodup_iff.1 distinct),
    same.mem_iff]

theorem member?_append (members others : List (Text × Json)) (key : Text) :
    (object (members ++ others)).member? key =
      ((object members).member? key).or ((object others).member? key) := by
  rw [member?, List.find?_append, member?, member?]
  cases members.find? (fun member => member.1 = key) <;> rfl

/-- An edit leaves the core as it is, and the keys distinct. -/
theorem Edit.core_eq {document edited : Json} (edit : Edit document edited)
    (distinct : document.Distinct vocabulary) :
    core edited = core document ∧ edited.Distinct vocabulary := by
  induction edit with
  | permuted same =>
    cases distinct with
    | scalar plain => cases plain
    | object distinct each =>
      refine ⟨core_object_congr fun key _ => ?_, .object ?_ fun member among => ?_⟩
      · rw [member?_perm same distinct]
      · exact (same.map Prod.fst).nodup_iff.1 distinct
      · exact each member (same.mem_iff.2 among)
  | @extended members key part unknown fresh =>
    cases distinct with
    | scalar plain => cases plain
    | object distinct each =>
      refine ⟨core_object_congr fun other known => ?_, .object ?_ fun member among known => ?_⟩
      · have differs : ¬ key = other := fun equal => unknown (equal ▸ known)
        rw [member?_append, member?_cons, if_neg differs]
        cases (object members).member? other <;> rfl
      · rw [List.map_append]
        exact List.nodup_append.2 ⟨distinct, List.nodup_singleton key, fun first inside second last
          equal => fresh (by rwa [equal, List.mem_singleton.1 last] at inside)⟩
      · obtain before | added := List.mem_append.1 among
        · exact each member before known
        · obtain rfl := List.mem_singleton.1 added
          exact absurd known unknown
  | @item before part changed after inside inductionHypothesis =>
    cases distinct with
    | scalar plain => cases plain
    | array each =>
      obtain ⟨same, kept⟩ := inductionHypothesis
        (each part (List.mem_append_right _ List.mem_cons_self))
      refine ⟨?_, .array fun item among => ?_⟩
      · rw [core_array, core_array, List.map_append, List.map_append, List.map_cons, List.map_cons,
          same]
      · obtain earlier | here := List.mem_append.1 among
        · exact each item (List.mem_append_left _ earlier)
        · obtain rfl | later := List.mem_cons.1 here
          · exact kept
          · exact each item (List.mem_append_right _ (List.mem_cons_of_mem _ later))
  | @member before key part changed after inside inductionHypothesis =>
    cases distinct with
    | scalar plain => cases plain
    | object distinct each =>
      have inner (known : key ∈ vocabulary) := inductionHypothesis
        (each (key, part) (List.mem_append_right _ List.mem_cons_self) known)
      refine ⟨core_object_congr fun other known => ?_, .object ?_ fun member among known => ?_⟩
      · rw [member?_append, member?_append, member?_cons, member?_cons]
        by_cases same : key = other
        · subst same
          rw [if_pos rfl, if_pos rfl]
          cases (object before).member? key with
          | none => exact congrArg some (inner known).1
          | some earlier => rfl
        · rw [if_neg same, if_neg same]
      · rw [List.map_append, List.map_cons] at distinct ⊢
        exact distinct
      · obtain earlier | here := List.mem_append.1 among
        · exact each member (List.mem_append_left _ earlier) known
        · obtain rfl | later := List.mem_cons.1 here
          · exact (inner known).2
          · exact each member (List.mem_append_right _ (List.mem_cons_of_mem _ later)) known

/-- Any number of edits leave the core as it is. -/
theorem core_of_edits {document edited : Json} (distinct : document.Distinct vocabulary)
    (edits : Relation.ReflTransGen Edit document edited) :
    core edited = core document ∧ edited.Distinct vocabulary := by
  induction edits with
  | refl => exact ⟨rfl, distinct⟩
  | tail _ edit inductionHypothesis =>
    obtain ⟨same, kept⟩ := inductionHypothesis
    obtain ⟨again, still⟩ := edit.core_eq kept
    exact ⟨again.trans same, still⟩

/-! ### Forms of cores -/

theorem text?_core (document : Json) : (core document).text? = document.text? := by
  cases document <;> rfl

theorem items?_core (document : Json) :
    (core document).items? = document.items?.map (List.map core) := by
  cases document with
  | array items => rw [core_array]; rfl
  | _ => rfl

section

variable {key : Text} (known : key ∈ vocabulary) (document : Json)

include known

theorem textUnder?_core : (core document).textUnder? key = document.textUnder? key := by
  rw [textUnder?, textUnder?, member?_core known]
  cases document.member? key with
  | none => rfl
  | some part => exact text?_core part

theorem listUnder_core :
    (core document).listUnder key = (document.listUnder key).map (List.map core) := by
  rw [listUnder, listUnder, member?_core known]
  cases document.member? key with
  | none => rfl
  | some part => exact items?_core part

theorem listUnder?_core :
    (core document).listUnder? key = (document.listUnder? key).map (List.map core) := by
  rw [listUnder?, listUnder?, member?_core known]
  cases document.member? key with
  | none => rfl
  | some part => exact items?_core part

end

end Json

/-- The form of an expression with the cores of its operands. -/
def ExpressionForm.core : ExpressionForm → ExpressionForm
  | call function operands => call function (operands.map (List.map Json.core))
  | operator name operands => operator name (operands.map (List.map Json.core))
  | form => form

/-- The form of a clause with the cores of its parts. -/
def ClauseForm.core (form : ClauseForm) : ClauseForm := ⟨form.condition.core, form.body.core⟩

/-- The form of a statement with the cores of its parts. -/
def StatementForm.core : StatementForm → StatementForm
  | assign name expression => assign name expression.core
  | branch condition body clauses otherwise =>
    branch condition.core body.core (clauses.map (List.map Json.core)) (otherwise.map Json.core)
  | choice replies => choice (replies.map Json.core)
  | form => form

/-- The form of a reply with the cores of its parts. -/
def ReplyForm.core (form : ReplyForm) : ReplyForm :=
  { form with body := form.body.map Json.core, condition := form.condition.map Json.core }

namespace Json

theorem expressionForm_core (document : Json) :
    (core document).expressionForm = document.expressionForm.core := by
  cases document with
  | object members =>
    obtain ⟨others, same⟩ : ∃ others, core (object members) = object others := ⟨_, rfl⟩
    rw [same, expressionForm, expressionForm, ← same, textUnder?_core (by decide),
      textUnder?_core (by decide), member?_core (by decide), listUnder_core (by decide)]
    cases (object members).textUnder? "var" with
    | some name => rfl
    | none =>
      cases (object members).textUnder? "call" with
      | some function => rfl
      | none =>
        cases (object members).member? "op" with
        | none => rfl
        | some part => cases part <;> rfl
  | array items => rw [core_array]; rfl
  | _ => rfl

theorem clauseForm?_core (document : Json) :
    (core document).clauseForm? = document.clauseForm?.map ClauseForm.core := by
  rw [clauseForm?, clauseForm?, member?_core (by decide), member?_core (by decide)]
  cases document.member? "if" with
  | none => rfl
  | some condition => cases document.member? "then" <;> rfl

theorem assignment?_core (document : Json) :
    (core document).assignment? = document.assignment?.map (Prod.map id core) := by
  rw [assignment?, assignment?, textUnder?_core (by decide), member?_core (by decide)]
  cases document.textUnder? "set" with
  | none => rfl
  | some name => cases document.member? "to" <;> rfl

theorem statementForm_core (document : Json) :
    (core document).statementForm = document.statementForm.core := by
  rw [statementForm, statementForm, textUnder?_core (by decide), textUnder?_core (by decide),
    textUnder?_core (by decide), textUnder?_core (by decide), assignment?_core, clauseForm?_core,
    listUnder?_core (by decide), listUnder_core (by decide), member?_core (by decide)]
  -- The first key that is there decides.
  cases document.textUnder? "line" with
  | some text => rfl
  | none =>
    cases document.textUnder? "command" with
    | some text => rfl
    | none =>
      cases document.textUnder? "call" with
      | some function => rfl
      | none =>
        cases document.assignment? with
        | some assigned => rfl
        | none =>
          cases document.clauseForm? with
          | some first => rfl
          | none =>
            cases document.listUnder? "options" with
            | some replies => rfl
            | none => cases document.textUnder? "jump" <;> rfl

theorem replyForm?_core (document : Json) :
    (core document).replyForm? = document.replyForm?.map ReplyForm.core := by
  rw [replyForm?, replyForm?, textUnder?_core (by decide), textUnder?_core (by decide),
    member?_core (by decide), member?_core (by decide), member?_core (by decide)]
  cases document.textUnder? "text" with
  | none => rfl
  | some text =>
    cases document.member? "jump" <;> rfl

end Json

end Parley
