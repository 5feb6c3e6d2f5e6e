/-
This file settles that a script does not depend on the order of its keys, nor on keys that
mean nothing. The core of a document has the same form, and by induction over its parts it is
compiled to the same statements; it has the same drafts, and the same is wrong with it. So
documents with one core come to one table, or all of them to none.

The faults need not be the same, since a fault may list a document as it was written.
-/

import Parley.Proofs.Script.Core
import Parley.Proofs.Script.Image

namespace Parley

/-! ### Cores are compiled alike -/

/-- Two computations come to the same answer, if one of them comes to any. -/
def Except.Matches {Failure Answer : Type} (first second : Except Failure Answer) : Prop :=
  ∀ answer, first = .ok answer ↔ second = .ok answer

theorem Except.Matches.toOption {Failure Answer : Type} {first second : Except Failure Answer}
    (matched : Matches first second) : first.toOption = second.toOption := by
  cases first with
  | ok answer => rw [(matched answer).1 rfl]
  | error failure =>
    cases second with
    | ok answer => cases (matched answer).2 rfl
    | error other => rfl

namespace Body

open Json (core)

mutual

theorem expression_core (place : Place) (document : Json) :
    Except.Matches (expression place (core document)) (expression place document) := by
  intro compiled
  rw [expression_iff, expression_iff, Json.expressionForm_core]
  cases shown : document.expressionForm with
  | literal written => exact .rfl
  | read name => exact .rfl
  | unknown => exact .rfl
  | call function operands =>
    cases operands with
    | none => exact .rfl
    | some items =>
      have smaller := Json.sizeOf_call shown
      have same := expressions_core place items
      constructor
      · intro done
        cases done with
        | call parts => exact .call ((same _).1 parts)
      · intro done
        cases done with
        | call parts => exact .call ((same _).2 parts)
  | operator name operands =>
    cases operands with
    | none => exact .rfl
    | some items =>
      have smaller := Json.sizeOf_operator shown
      have same := expressions_core place items
      constructor
      · intro done
        cases done with
        | operator known parts counted => exact .operator known ((same _).1 parts) counted
      · intro done
        cases done with
        | operator known parts counted => exact .operator known ((same _).2 parts) counted
termination_by 2 * sizeOf document + 1

theorem expressions_core (place : Place) : ∀ documents : List Json,
    Except.Matches (expressions place (documents.map core)) (expressions place documents)
  | [] => fun _ => .rfl
  | document :: rest => by
    have first := expression_core place document
    have others := expressions_core place rest
    intro compiled
    rw [List.map_cons, expressions_cons, expressions_cons]
    exact exists_congr fun _ => exists_congr fun _ =>
      and_congr (first _) (and_congr (others _) .rfl)
termination_by documents => 2 * sizeOf documents

end

theorem conditionOf_core {place : Place} {part : Option Json} {condition : Option Expression} :
    ConditionOf place (part.map core) condition ↔ ConditionOf place part condition := by
  cases part with
  | none => exact .rfl
  | some part =>
    have same := expression_core place part
    constructor
    · intro done
      cases done with
      | written tested => exact .written ((same _).1 tested)
    · intro done
      cases done with
      | written tested => exact .written ((same _).2 tested)

/-- A block that may be left out is compiled alike if it is compiled alike where it is written. -/
theorem otherwiseOf_core {place : Place} {part : Option Json}
    (same : ∀ body, part = some body →
      Except.Matches (block place (core body)) (block place body))
    {compiled : List Statement} :
    OtherwiseOf place (part.map core) compiled ↔ OtherwiseOf place part compiled := by
  cases part with
  | none => exact .rfl
  | some body =>
    constructor
    · intro done
      cases done with
      | written inside => exact .written ((same body rfl _).1 inside)
    · intro done
      cases done with
      | written inside => exact .written ((same body rfl _).2 inside)

mutual

theorem statement_core (place : Place) (document : Json) :
    Except.Matches (statement place (core document)) (statement place document) := by
  intro compiled
  rw [statement_iff, statement_iff, Json.statementForm_core]
  cases shown : document.statementForm with
  | say text =>
    constructor <;> intro done <;> cases done <;> exact .say text
  | command text =>
    constructor <;> intro done <;> cases done <;> exact .command text
  | call =>
    have same := expression_core place document
    constructor
    · intro done
      cases done with
      | call whole => exact .call ((same _).1 whole)
    · intro done
      cases done with
      | call whole => exact .call ((same _).2 whole)
  | assign name part =>
    have same := expression_core place part
    constructor
    · intro done
      cases done with
      | assign _ assigned => exact .assign name ((same _).1 assigned)
    · intro done
      cases done with
      | assign _ assigned => exact .assign name ((same _).2 assigned)
  | branch condition body extras otherwise =>
    obtain ⟨-, small, few, behind⟩ := Json.sizeOf_branch shown
    cases extras with
    | none => constructor <;> intro done <;> cases done
    | some items =>
      have fewer := few items rfl
      have tests := expression_core place condition
      have bodies := block_core place body
      have others := clauses_core place 0 items
      have finals {final : List Statement} :
          OtherwiseOf (place.below .otherwise) (otherwise.map core) final ↔
            OtherwiseOf (place.below .otherwise) otherwise final :=
        otherwiseOf_core fun part present =>
          have smaller := behind part present
          block_core (place.below .otherwise) part
      constructor
      · intro done
        cases done with
        | branch tested inside further last =>
          exact .branch ((tests _).1 tested) ((bodies _).1 inside) ((others _).1 further)
            (finals.1 last)
      · intro done
        cases done with
        | branch tested inside further last =>
          exact .branch ((tests _).2 tested) ((bodies _).2 inside) ((others _).2 further)
            (finals.2 last)
  | choice items =>
    have smaller := Json.sizeOf_choice shown
    have same := replies_core place 0 items
    constructor
    · intro done
      cases done with
      | choice parts => exact .choice ((same _).1 parts)
    · intro done
      cases done with
      | choice parts => exact .choice ((same _).2 parts)
  | jump target =>
    constructor <;> intro done <;> cases done <;> exact .jump target
  | unknown =>
    constructor <;> intro done <;> cases done
termination_by 3 * sizeOf document + 2

theorem block_core (place : Place) (document : Json) :
    Except.Matches (block place (core document)) (block place document) := by
  intro compiled
  rw [block_iff, block_iff, Json.items?_core]
  cases list : document.items? with
  | none => exact .rfl
  | some items =>
    have smaller := Json.sizeOf_items? list
    have same := statements_core place 0 items
    constructor
    · rintro ⟨_, ⟨⟩, done⟩
      exact ⟨items, rfl, (same _).1 done⟩
    · rintro ⟨_, ⟨⟩, done⟩
      exact ⟨_, rfl, (same _).2 done⟩
termination_by 3 * sizeOf document + 1

theorem statements_core (place : Place) (index : Nat) : ∀ documents : List Json,
    Except.Matches (statements place index (documents.map core))
      (statements place index documents)
  | [] => fun _ => .rfl
  | document :: rest => by
    have first := statement_core (place.below (.statement index)) document
    have others := statements_core place (index + 1) rest
    intro compiled
    rw [List.map_cons, statements_cons, statements_cons]
    exact exists_congr fun _ => exists_congr fun _ =>
      and_congr (first _) (and_congr (others _) .rfl)
termination_by documents => 3 * sizeOf documents

theorem clauses_core (place : Place) (index : Nat) : ∀ documents : List Json,
    Except.Matches (clauses place index (documents.map core)) (clauses place index documents)
  | [] => fun _ => .rfl
  | document :: rest => by
    have others := clauses_core place (index + 1) rest
    intro compiled
    rw [List.map_cons, clauses_cons, clauses_cons, Json.clauseForm?_core]
    cases found : document.clauseForm? with
    | none => simp
    | some form =>
      have smaller := Json.sizeOf_clauseForm? found
      have tests := expression_core (place.below (.clause index)) form.condition
      have bodies := block_core (place.below (.clause index)) form.body
      constructor
      · rintro ⟨_, condition, body, rest, ⟨⟩, tested, inside, further, rfl⟩
        exact ⟨form, condition, body, rest, rfl, (tests _).1 tested, (bodies _).1 inside,
          (others _).1 further, rfl⟩
      · rintro ⟨_, condition, body, rest, ⟨⟩, tested, inside, further, rfl⟩
        exact ⟨form.core, condition, body, rest, rfl, (tests _).2 tested, (bodies _).2 inside,
          (others _).2 further, rfl⟩
termination_by documents => 3 * sizeOf documents

theorem replies_core (place : Place) (index : Nat) : ∀ documents : List Json,
    Except.Matches (replies place index (documents.map core)) (replies place index documents)
  | [] => fun _ => .rfl
  | document :: rest => by
    have others := replies_core place (index + 1) rest
    intro compiled
    rw [List.map_cons, replies_cons, replies_cons, Json.replyForm?_core]
    cases found : document.replyForm? with
    | none => simp
    | some form =>
      have bodies {body : List Statement} :
          OtherwiseOf (place.below (.reply index)) (form.body.map core) body ↔
            OtherwiseOf (place.below (.reply index)) form.body body :=
        otherwiseOf_core fun part given =>
          have smaller := (Json.sizeOf_reply found).1 part given
          block_core (place.below (.reply index)) part
      constructor
      · rintro ⟨_, body, jump, condition, rest, ⟨⟩, inside, leaves, tested, further, rfl⟩
        exact ⟨form, body, jump, condition, rest, rfl, bodies.1 inside, leaves,
          conditionOf_core.1 tested, (others _).1 further, rfl⟩
      · rintro ⟨_, body, jump, condition, rest, ⟨⟩, inside, leaves, tested, further, rfl⟩
        exact ⟨form.core, body, jump, condition, rest, rfl, bodies.2 inside, leaves,
          conditionOf_core.2 tested, (others _).2 further, rfl⟩
termination_by documents => 3 * sizeOf documents

end

end Body

/-! ### Scripts -/

/-- A draft with the cores of what its body is made of. -/
def Draft.core (draft : Draft) : Draft := { draft with body := draft.body.map Json.core }

namespace Draft

theorem checkTitle_core (document : Json) : checkTitle document.core = checkTitle document := by
  rw [checkTitle, checkTitle, Json.member?_core (by decide)]
  cases document.member? "title" with
  | none => rfl
  | some part => cases part <;> rfl

theorem checkTag_core (document : Json) : checkTag document.core = checkTag document := by
  cases document <;> rfl

theorem rawTags_core (document : Json) :
    rawTags document.core = (rawTags document).map (List.map Json.core) := by
  rw [rawTags, rawTags, Json.member?_core (by decide)]
  cases document.member? "tags" with
  | none => rfl
  | some part =>
    cases part with
    | array items => rw [Option.map_some, Json.core_array]; rfl
    | string text =>
      -- The words of a string are strings, which are their own cores.
      show Except.ok _ = Except.ok _
      rw [List.map_map]
      rfl
    | _ => rfl

theorem checkBody_core (document : Json) :
    checkBody document.core = (checkBody document).map (List.map Json.core) := by
  rw [checkBody, checkBody, Json.member?_core (by decide)]
  cases document.member? "body" with
  | none => rfl
  | some part =>
    cases part with
    | array items => rw [Option.map_some, Json.core_array]; rfl
    | _ => rfl

theorem violationsIn_core {violations : Json → List Violation}
    (same : ∀ document, violations document.core = violations document) (items : List Json) :
    violationsIn violations (items.map Json.core) = violationsIn violations items := by
  rw [violationsIn, violationsIn, List.zipIdx_map, List.flatMap_map]
  refine congrArg (fun each => items.zipIdx.flatMap each) (funext fun item => ?_)
  obtain ⟨document, index⟩ := item
  show (violations document.core).map _ = _
  rw [same]
  rfl

theorem tagViolations_core (document : Json) :
    tagViolations document.core = tagViolations document := by
  rw [tagViolations, tagViolations, rawTags_core]
  cases rawTags document with
  | error fault => rfl
  | ok items =>
    have same (tag : Json) :
        violationOf [] (checkTag tag.core) = violationOf [] (checkTag tag) := by
      rw [checkTag_core]
    exact congrArg (List.map _) (violationsIn_core same items)

theorem violationOf_map {Checked Other : Type} (place : List ShapeStep) (change : Checked → Other)
    (checked : Except ShapeFault Checked) :
    violationOf place (checked.map change) = violationOf place checked := by
  cases checked <;> rfl

theorem nodeViolations_core (document : Json) :
    nodeViolations document.core = nodeViolations document := by
  cases document with
  | object members =>
    obtain ⟨others, same⟩ : ∃ others, Json.core (.object members) = .object others := ⟨_, rfl⟩
    rw [same, nodeViolations, nodeViolations, ← same, checkTitle_core, tagViolations_core,
      checkBody_core, violationOf_map]
  | array items => rw [Json.core_array]; rfl
  | _ => rfl

theorem ofNode?_core (document : Json) :
    ofNode? document.core = (ofNode? document).map Draft.core := by
  rw [ofNode?, ofNode?, nodeViolations_core, checkTitle_core, rawTags_core, checkBody_core]
  cases nodeViolations document with
  | cons violation rest => rfl
  | nil =>
    cases checkTitle document with
    | error fault => rfl
    | ok title =>
      cases rawTags document with
      | error fault => rfl
      | ok tags =>
        cases checkBody document with
        | error fault => rfl
        | ok body =>
          have same : (tags.map Json.core).filterMap (fun tag => (checkTag tag).toOption) =
              tags.filterMap fun tag => (checkTag tag).toOption := by
            rw [List.filterMap_map]
            exact congrArg (fun each => tags.filterMap each)
              (funext fun tag => congrArg Except.toOption (checkTag_core tag))
          show some (Draft.mk _ _ _) = some _
          rw [same]
          rfl

theorem listViolations_core (document : Json) :
    listViolations document.core = listViolations document := by
  cases document with
  | array items =>
    rw [Json.core_array]
    exact violationsIn_core nodeViolations_core items
  | _ => rfl

theorem ofList_core (document : Json) :
    ofList document.core = (ofList document).map Draft.core := by
  cases document with
  | array items =>
    have same : ofNode? ∘ Json.core = fun item => (ofNode? item).map Draft.core :=
      funext ofNode?_core
    rw [Json.core_array, ofList, ofList, List.filterMap_map, same, List.map_filterMap]
  | _ => rfl

theorem objectViolations_core (document : Json) :
    objectViolations document.core = objectViolations document := by
  cases document with
  | object members =>
    obtain ⟨others, same⟩ : ∃ others, Json.core (.object members) = .object others := ⟨_, rfl⟩
    rw [same, objectViolations, objectViolations, ← same, Json.member?_core (by decide)]
    cases (Json.object members).member? "nodes" with
    | none => rfl
    | some nodes => exact congrArg (under "nodes") (listViolations_core nodes)
  | array items => rw [Json.core_array]; rfl
  | _ => rfl

/-- The core of a document has the cores of its drafts, and the same is wrong with it. -/
theorem ofScript_core (document : Json) :
    ofScript document.core = (ofScript document).map (List.map Draft.core) := by
  rw [ofScript, ofScript, objectViolations_core, listViolations_core,
    Json.member?_core (by decide), ofList_core]
  cases objectViolations document with
  | nil =>
    cases document.member? "nodes" with
    | none => rfl
    | some nodes => exact congrArg Except.ok (ofList_core nodes)
  | cons violation rest => cases listViolations document <;> rfl

end Draft

theorem Body.node_core (draft : Draft) : Except.Matches (node draft.core) (node draft) := by
  have same := statements_core ⟨draft.title, []⟩ 0 draft.body
  intro compiled
  rw [node, node, Except.bind_eq_ok_iff, Except.bind_eq_ok_iff]
  exact exists_congr fun body => and_congr (same body) .rfl

namespace Script

theorem addDrafts_core (table : NodeTable) (drafts : List Draft) :
    Except.Matches (addDrafts table (drafts.map Draft.core)) (addDrafts table drafts) := by
  induction drafts generalizing table with
  | nil => exact fun _ => .rfl
  | cons draft rest inductionHypothesis =>
    intro final
    rw [List.map_cons, addDrafts, addDrafts, Except.bind_eq_ok_iff, Except.bind_eq_ok_iff]
    refine exists_congr fun compiled => and_congr (Body.node_core draft compiled) ?_
    by_cases taken : table.contains compiled.name = true
    · rw [if_pos taken, if_pos taken]
    · rw [if_neg taken, if_neg taken]
      exact inductionHypothesis (table.insert compiled) final

theorem ofDocument_core (document : Json) :
    (ofDocument document.core).toOption = (ofDocument document).toOption := by
  rw [ofDocument, ofDocument, Draft.ofScript_core]
  cases Draft.ofScript document with
  | error violations => rfl
  | ok drafts => exact (addDrafts_core Roster.empty drafts).toOption

/-- The order of keys and keys that are not known are nothing to a script. Take any text that is
read, and change its document as often as you like: put the members of any of its objects into
another order, or add a member to any of its objects under a key that scripts are not written with.
The document that comes of it is accepted if and only if the script is, and with the same table. So
is every text that is read as this document. -/
theorem load_rearranged {text : String} {document edited : Json}
    (done : Json.read text.toList = .ok document)
    (edits : Relation.ReflTransGen Json.Edit document edited) :
    (ofDocument edited).toOption = (load text).toOption ∧
      ∀ other : String, Json.read other.toList = .ok edited →
        (load other).toOption = (load text).toOption := by
  have same : (ofDocument edited).toOption = (ofDocument document).toOption := by
    obtain ⟨cores, -⟩ := Json.core_of_edits (Json.distinct_of_read done) edits
    rw [← ofDocument_core edited, cores, ofDocument_core]
  refine ⟨?_, fun other again => ?_⟩
  · rwa [load_of_read done]
  · rwa [load_of_read done, load_of_read again]

/-- A script with one line. -/
def greetingText : String :=
  "[\x7b\"title\": \"Start\", \"body\": [\x7b\"line\": \"Hello.\"\x7d]\x7d]"

/-- The document of the script. -/
def greeting : Json :=
  .array [.object [("title", .string "Start"),
    ("body", .array [.object [("line", .string "Hello.")]])]]

/-- The document with a mood for the line, and the title behind the body. -/
def moodyGreeting : Json :=
  .array [.object [("body", .array [.object [("line", .string "Hello."), ("mood", .int 1)]]),
    ("title", .string "Start")]]

set_option maxRecDepth 20000 in
theorem read_greetingText : Json.read greetingText.toList = .ok greeting := by
  cbv

/-- The line with a mood is said like the line without. -/
theorem load_rearranged_greeting :
    (ofDocument moodyGreeting).toOption = (load greetingText).toOption := by
  have moody : Json.Edit (.object [("line", .string "Hello.")])
      (.object [("line", .string "Hello."), ("mood", .int 1)]) :=
    .extended (.int 1) (by decide) (by decide)
  have within : Json.Edit greeting (.array [.object [("title", .string "Start"),
      ("body", .array [.object [("line", .string "Hello."), ("mood", .int 1)]])]]) :=
    @Json.Edit.item [] _ _ [] (@Json.Edit.member [("title", .string "Start")] "body" _ _ []
      (@Json.Edit.item [] _ _ [] moody))
  have turned : Json.Edit (.array [.object [("title", .string "Start"),
      ("body", .array [.object [("line", .string "Hello."), ("mood", .int 1)]])]]) moodyGreeting :=
    @Json.Edit.item [] _ _ [] (.permuted (.swap _ _ _))
  exact (load_rearranged read_greetingText (.tail (.single within) turned)).1

end Script

end Parley
