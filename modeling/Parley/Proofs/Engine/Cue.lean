/-
This file writes assignments into bodies. A cue is a line with a variable and a value;
what is cued is that the value is assigned right behind the line, wherever the line
stands. A body with the assignments in it is run like the body without them: a pull comes
to the same result, and leaves the same with the assignments in it. The one difference is
where a pull ends at the line itself. There the assignment is the first of what is left,
and the next pull begins with it.
-/

import Parley.Proofs.Engine.Course
import Parley.Proofs.Engine.Likeness

namespace Parley

variable {Host : Type}

/-- A line, and a variable and a value that is to be assigned to it behind the line. -/
structure Cue where
  text : Text
  name : Text
  value : Value

namespace Cue

variable (cue : Cue)

/-! ### Bodies with assignments in them -/

/-- The assignment. -/
def statement : Statement := .assign cue.name (.literal (.ofValue cue.value))

/-- What comes behind an event. -/
def behindEvent (event : Event) : List Statement :=
  if event = .line cue.text then [cue.statement] else []

mutual

/-- A statement with the assignments in its blocks, and one behind it if it is the line. -/
def inStatement : Statement → List Statement
  | .say text => .say text :: cue.behindEvent (.line text)
  | .command text => [.command text]
  | .evaluate expression => [.evaluate expression]
  | .assign name expression => [.assign name expression]
  | .branch clauses otherwise => [.branch (inClauses clauses) (inBlock otherwise)]
  | .choice replies => [.choice (inReplies replies)]
  | .jump target => [.jump target]
  | .foreign => [.foreign]

/-- A block with the assignments in it. -/
def inBlock : List Statement → List Statement
  | [] => []
  | statement :: rest => inStatement statement ++ inBlock rest

/-- Clauses with the assignments in their bodies. -/
def inClauses : List (Clause Statement) → List (Clause Statement)
  | [] => []
  | ⟨condition, body⟩ :: rest => ⟨condition, inBlock body⟩ :: inClauses rest

/-- Replies with the assignments in their bodies. -/
def inReplies : List (Reply Statement) → List (Reply Statement)
  | [] => []
  | ⟨text, body, condition⟩ :: rest => ⟨text, inBlock body, condition⟩ :: inReplies rest

end

/-- A node with the assignments in its body. -/
def inNode (node : Node) : Node := { node with body := cue.inBlock node.body }

/-- A traversal with the assignments in what is left of it. -/
def inTraversal : Traversal → Traversal
  | .fresh node => .fresh (cue.inNode node)
  | .within name rest => .within name (cue.inBlock rest)
  | .offered name replies rest => .offered name (cue.inReplies replies) (cue.inBlock rest)
  | .ended => .ended

/-- A traversal with the assignments in what is left of it behind an event, which is followed by one
itself if it is the line. -/
def behind (event : Event) : Traversal → Traversal
  | .within name rest => .within name (cue.behindEvent event ++ cue.inBlock rest)
  | traversal => cue.inTraversal traversal

theorem behind_other {event : Event} (other : event ≠ .line cue.text) (traversal : Traversal) :
    cue.behind event traversal = cue.inTraversal traversal := by
  cases traversal with
  | within name rest => rw [behind, behindEvent, if_neg other, List.nil_append, inTraversal]
  | _ => rfl

theorem inBlock_append (first second : List Statement) :
    cue.inBlock (first ++ second) = cue.inBlock first ++ cue.inBlock second := by
  induction first with
  | nil => rfl
  | cons head tail ih => rw [List.cons_append, inBlock, inBlock, ih, List.append_assoc]

theorem inReplies_eq (replies : List (Reply Statement)) :
    cue.inReplies replies =
      replies.map fun reply => { reply with body := cue.inBlock reply.body } := by
  induction replies with
  | nil => rfl
  | cons reply rest ih => rw [inReplies, ih, List.map_cons]

/-! ### Running them -/

/-- Two results are the same, and what is left behind the second has the assignments in it. -/
inductive Tells : Result × Traversal → Result × Traversal → Prop
  | event {event traversal} : traversal.Follows (.event event) →
    Tells (.event event, traversal) (.event event, cue.behind event traversal)
  | complete (next) : Tells (.complete next, .ended) (.complete next, .ended)

variable (call : Text → List Value → Act Host Value)

theorem tells_finish (name : Text) (next : Option Text) (world : World Host) :
    Accord cue.Tells Eq (Engine.finish name next world) (Engine.finish name next world) :=
  .ok (.complete next) rfl

/-- The replies that are offered are the same. -/
theorem tells_available (replies : List (Reply Statement)) (world : World Host) :
    Accord (fun offers offers' => offers' = cue.inReplies offers) Eq
      (Engine.available call replies world)
      (Engine.available call (cue.inReplies replies) world) := by
  induction replies generalizing world with
  | nil => exact .ok rfl rfl
  | cons reply rest ih =>
    refine .behind _ fun admitted world => ?_
    refine .bind (ih world) ?_
    rintro others _ world _ rfl rfl
    cases admitted with
    | true => exact .ok rfl rfl
    | false => exact .ok rfl rfl

theorem tells_advance (name : Text) (statements : List Statement) (world : World Host) :
    Accord cue.Tells Eq (Engine.advance call name statements world)
      (Engine.advance call name (cue.inBlock statements) world) := by
  induction statements using Engine.advance.induct generalizing world with
  | case1 =>
    rw [inBlock, Engine.advance]
    exact cue.tells_finish name none world
  | case2 text rest =>
    rw [inBlock, inStatement, List.cons_append, Engine.advance, Engine.advance]
    exact .ok (.event ⟨text, .inl rfl⟩) rfl
  | case3 text rest =>
    rw [inBlock, inStatement, List.singleton_append, Engine.advance, Engine.advance]
    have other : Event.command text ≠ .line cue.text := by rintro ⟨⟩
    have same : cue.behind (.command text) (.within name rest) = .within name (cue.inBlock rest) :=
      cue.behind_other other _
    rw [← same]
    exact .ok (.event ⟨text, .inr rfl⟩) rfl
  | case4 expression rest ih =>
    rw [inBlock, inStatement, List.singleton_append, Engine.advance, Engine.advance]
    exact .behind _ fun _ world => ih world
  | case5 target expression rest ih =>
    rw [inBlock, inStatement, List.singleton_append, Engine.advance, Engine.advance]
    refine .behind _ fun _ world => ?_
    exact .behind _ fun _ world => .behind _ fun _ world => ih world
  | case6 otherwise rest ih =>
    rw [inBlock, inStatement, List.singleton_append, inClauses, Engine.advance, Engine.advance,
      ← cue.inBlock_append]
    exact ih world
  | case7 condition body clauses otherwise rest inBody inOthers =>
    rw [inBlock, inStatement, List.singleton_append, inClauses, Engine.advance, Engine.advance]
    refine .behind _ fun value world => ?_
    cases value.holds with
    | true =>
      have entered := inBody world
      rw [cue.inBlock_append] at entered
      exact entered
    | false =>
      have others := inOthers world
      rw [inBlock, inStatement, List.singleton_append] at others
      exact others
  | case8 replies rest ih =>
    rw [inBlock, inStatement, List.singleton_append, Engine.advance, Engine.advance]
    refine .bind (cue.tells_available call replies world) ?_
    rintro offers _ world _ rfl rfl
    cases offers with
    | nil => exact .behind _ fun _ world => ih world
    | cons reply others =>
      have texts : (cue.inReplies (reply :: others)).map Reply.text =
          (reply :: others).map Reply.text := by
        rw [cue.inReplies_eq, List.map_map]
        rfl
      have other : Event.options ((reply :: others).map Reply.text) ≠ .line cue.text := by
        rintro ⟨⟩
      have told : cue.Tells
          (.event (.options ((reply :: others).map Reply.text)),
            .offered name (reply :: others) rest)
          (.event (.options ((cue.inReplies (reply :: others)).map Reply.text)),
            cue.inTraversal (.offered name (reply :: others) rest)) := by
        rw [texts, ← cue.behind_other other]
        exact .event rfl
      exact .ok told rfl
  | case9 target tail =>
    rw [inBlock, inStatement, List.singleton_append, Engine.advance, Engine.advance]
    exact cue.tells_finish name (some target) world
  | case10 tail =>
    rw [inBlock, inStatement, List.singleton_append, Engine.advance, Engine.advance]
    exact .error .unknownStatement rfl

/-- A pull of a traversal with the assignments in it comes to the same. -/
theorem tells_pull (chosen : Option Nat) (traversal : Traversal) (world : World Host) :
    Accord (Option.Rel cue.Tells) Eq (Engine.pull call chosen traversal world)
      (Engine.pull call chosen (cue.inTraversal traversal) world) := by
  have onward (name : Text) (statements : List Statement) (world : World Host) :
      Accord (Option.Rel cue.Tells) Eq
        ((do let result ← Engine.advance call name statements; return some result : Act Host _)
          world)
        ((do
          let result ← Engine.advance call name (cue.inBlock statements)
          return some result : Act Host _) world) := by
    refine .bind (cue.tells_advance call name statements world) ?_
    rintro result result' world _ told rfl
    exact .ok (.some told) rfl
  cases traversal with
  | fresh node => exact .behind _ fun _ world => onward node.name node.body world
  | within name rest => exact onward name rest world
  | offered name replies rest =>
    cases chosen with
    | none => exact .error .notChosen rfl
    | some index =>
      rw [inTraversal, Engine.pull, Engine.pull, cue.inReplies_eq, List.getElem?_map]
      cases replies[index]? with
      | none => exact .error .notChosen rfl
      | some reply =>
        refine .behind _ fun _ world => ?_
        have entered := onward name (reply.body ++ rest) world
        rw [cue.inBlock_append] at entered
        exact entered
  | ended => exact .ok .none rfl

/-- Where a traversal begins with the assignment, the assignment is made. -/
theorem pull_assigned (chosen : Option Nat) (name : Text) (rest : List Statement)
    (world : World Host) :
    Engine.pull call chosen (.within name (cue.statement :: rest)) world =
      Engine.pull call chosen (.within name rest)
        { world.note (.assigned cue.name cue.value) with
          store := world.store.put cue.name cue.value } := by
  have value : (Literal.ofValue cue.value).toValue = .ok cue.value := by
    cases cue.value <;> rfl
  have evaluated (world : World Host) :
      Engine.evaluate call (.literal (.ofValue cue.value)) world = .ok cue.value world := by
    rw [Engine.evaluate, Act.valueOf, value]
    rfl
  rw [Engine.pull, Engine.pull, statement, Engine.advance]
  simp only [bind_apply, evaluated]
  rfl

end Cue

end Parley
