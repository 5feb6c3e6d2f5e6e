/-
This file says what a traversal can still come to: the statements that stand
anywhere in what is left of it, however deep. A pull takes statements from them
and never adds one. So what is left behind an event is found in the same order in
what was left before it, behind the statement that yielded the event, and a node
that is complete names the target of one of its jumps, if it names any.

A branch does nothing itself, and is shortened while its conditions are tried; what
is listed of it are the statements of its blocks.

The jumps that stand in the bodies of a table make a graph of its names. Since no
target is made up while a body runs, a run from a start keeps to the names that can
be reached from there.
-/

import Mathlib.Logic.Relation
import Parley.Engine
import Parley.Proofs.Act
import Parley.Script.Table

namespace Parley

variable {Host : Type}

/-! ### Statements in their blocks -/

namespace Statement

mutual

/-- A statement and all statements in its blocks, in the order in which they are written. -/
def parts : Statement → List Statement
  | branch clauses otherwise => clauseParts clauses ++ blockParts otherwise
  | choice replies => choice replies :: replyParts replies
  | statement => [statement]

/-- The statements anywhere in a block. -/
def blockParts : List Statement → List Statement
  | [] => []
  | statement :: rest => parts statement ++ blockParts rest

/-- The statements anywhere in the bodies of clauses. -/
def clauseParts : List (Clause Statement) → List Statement
  | [] => []
  | ⟨_, body⟩ :: rest => blockParts body ++ clauseParts rest

/-- The statements anywhere in the bodies of replies. -/
def replyParts : List (Reply Statement) → List Statement
  | [] => []
  | ⟨_, body, _⟩ :: rest => blockParts body ++ replyParts rest

end

/-- Tells whether a statement yields an event. -/
def yields : Statement → Bool
  | say _ | command _ | choice _ => true
  | _ => false

/-- The number of statements anywhere in a block that yield an event. -/
def yieldCount (block : List Statement) : Nat := (blockParts block).countP yields

theorem blockParts_append (first second : List Statement) :
    blockParts (first ++ second) = blockParts first ++ blockParts second := by
  induction first with
  | nil => rfl
  | cons head tail ih => rw [List.cons_append, blockParts, blockParts, ih, List.append_assoc]

theorem replyParts_sublist {offers replies : List (Reply Statement)}
    (among : offers.Sublist replies) : (replyParts offers).Sublist (replyParts replies) := by
  induction among with
  | slnil => exact .refl _
  | cons reply _ ih => exact ih.trans (List.sublist_append_right _ _)
  | cons_cons reply _ ih => exact (List.Sublist.refl _).append ih

/-- The statements of one reply are found among those of all. -/
theorem blockParts_sublist_replyParts {reply : Reply Statement} {replies : List (Reply Statement)}
    (member : reply ∈ replies) : (blockParts reply.body).Sublist (replyParts replies) := by
  have alone : replyParts [reply] = blockParts reply.body := List.append_nil _
  rw [← alone]
  exact replyParts_sublist (List.singleton_sublist.2 member)

end Statement

/-- The statements anywhere in what is left of a traversal. -/
def Traversal.parts : Traversal → List Statement
  | .fresh node => Statement.blockParts node.body
  | .within _ rest => Statement.blockParts rest
  | .offered _ replies rest => Statement.replyParts replies ++ Statement.blockParts rest
  | .ended => []

/-- The number of statements anywhere in what is left of a traversal that yield an event. -/
def Traversal.yieldCount (traversal : Traversal) : Nat := traversal.parts.countP Statement.yields

/-! ### Jumps between nodes -/

namespace NodeTable

/-- The body of a node has a jump to a name, anywhere in it. -/
def Leads (table : NodeTable) (name target : Text) : Prop :=
  ∃ node, table.get? name = some node ∧ .jump target ∈ Statement.blockParts node.body

/-- The names that a run can come to: its start, and the targets of all jumps in the bodies of the
nodes that it can come to. -/
def Reaches (table : NodeTable) : Text → Text → Prop := Relation.ReflTransGen table.Leads

theorem name_of_get? {table : NodeTable} {name : Text} {node : Node}
    (found : table.get? name = some node) : node.name = name := by
  simpa using List.find?_some found

end NodeTable

/-! ### What a pull takes -/

/-- What a result takes from the statements that were left before it: an event comes from one of
them and leaves only such as stand behind it, and the next node is the target of a jump among
them. -/
def Result.Takes (before after : List Statement) : Result → Prop
  | .event _ => ∃ statement, statement.yields = true ∧ (statement :: after).Sublist before
  | .complete next => ∀ target, next = some target → .jump target ∈ before

theorem Result.Takes.mono {before longer after : List Statement} {result : Result}
    (takes : result.Takes before after) (among : before.Sublist longer) :
    result.Takes longer after := by
  cases result with
  | event event =>
    obtain ⟨statement, yields, behind⟩ := takes
    exact ⟨statement, yields, behind.trans among⟩
  | complete next => exact fun target same => among.subset (takes target same)

/-- Each event takes a statement that yields one. -/
theorem Result.Takes.yieldCount {event : Event} {before after : Traversal}
    (takes : (Result.event event).Takes before.parts after.parts) :
    after.yieldCount + 1 ≤ before.yieldCount := by
  obtain ⟨statement, yields, behind⟩ := takes
  have fewer : (statement :: after.parts).countP Statement.yields ≤ before.yieldCount :=
    behind.countP_le
  rwa [List.countP_cons_of_pos yields] at fewer

namespace Engine

variable (call : Text → List Value → Act Host Value)

/-- The replies that are offered are some of those that there are. -/
theorem available_sublist {replies offers : List (Reply Statement)} {world final : World Host}
    (done : available call replies world = .ok offers final) : offers.Sublist replies := by
  induction replies generalizing offers world with
  | nil =>
    cases done
    exact .refl _
  | cons reply rest ih =>
    obtain ⟨admitted, _, _, done⟩ := bind_eq_ok done
    obtain ⟨others, _, found, done⟩ := bind_eq_ok done
    cases done
    split
    · exact (ih found).cons_cons reply
    · exact (ih found).cons reply

theorem takes_finish {name : Text} {next : Option Text} {before : List Statement}
    {world final : World Host} {result : Result} {traversal : Traversal}
    (done : finish name next world = .ok (result, traversal) final)
    (jumps : ∀ target, next = some target → .jump target ∈ before) :
    result.Takes before traversal.parts := by
  cases done
  exact jumps

theorem takes_advance {name : Text} {statements : List Statement} {world final : World Host}
    {result : Result} {traversal : Traversal}
    (done : advance call name statements world = .ok (result, traversal) final) :
    result.Takes (Statement.blockParts statements) traversal.parts := by
  induction statements using advance.induct generalizing world with
  | case1 =>
    rw [advance] at done
    exact takes_finish done (by rintro _ ⟨⟩)
  | case2 text rest =>
    rw [advance] at done
    cases done
    exact ⟨.say text, rfl, .refl _⟩
  | case3 text rest =>
    rw [advance] at done
    cases done
    exact ⟨.command text, rfl, .refl _⟩
  | case4 expression rest ih =>
    rw [advance] at done
    obtain ⟨_, _, _, done⟩ := bind_eq_ok done
    exact (ih done).mono (List.sublist_cons_self _ _)
  | case5 target expression rest ih =>
    rw [advance] at done
    obtain ⟨_, _, _, done⟩ := bind_eq_ok done
    exact (ih done).mono (List.sublist_cons_self _ _)
  | case6 otherwise rest ih =>
    rw [advance] at done
    have entered := ih done
    rwa [Statement.blockParts_append] at entered
  | case7 condition body clauses otherwise rest inBody inOthers =>
    rw [advance] at done
    obtain ⟨value, _, _, done⟩ := bind_eq_ok done
    have block : Statement.blockParts (.branch (⟨condition, body⟩ :: clauses) otherwise :: rest) =
        Statement.blockParts body ++
          Statement.blockParts (.branch clauses otherwise :: rest) := by
      simp only [Statement.blockParts, Statement.parts, Statement.clauseParts, List.append_assoc]
    rw [block]
    split at done
    · have entered := inBody done
      rw [Statement.blockParts_append] at entered
      exact entered.mono ((List.Sublist.refl _).append (List.sublist_append_right _ _))
    · exact (inOthers done).mono (List.sublist_append_right _ _)
  | case8 replies rest ih =>
    rw [advance] at done
    obtain ⟨offers, _, found, done⟩ := bind_eq_ok done
    split at done
    · exact (ih done).mono (List.sublist_append_right _ _)
    · cases done
      refine ⟨.choice replies, rfl, ?_⟩
      have among := Statement.replyParts_sublist (available_sublist call found)
      exact (among.append (.refl _)).cons_cons _
  | case9 target tail =>
    rw [advance] at done
    refine takes_finish done ?_
    rintro _ ⟨⟩
    exact List.mem_cons_self
  | case10 tail =>
    rw [advance] at done
    cases done

/-- What a pull comes to it takes from what was left. -/
theorem takes_pull {chosen : Option Nat} {before traversal : Traversal}
    {world final : World Host} {result : Result}
    (done : pull call chosen before world = .ok (some (result, traversal)) final) :
    result.Takes before.parts traversal.parts := by
  have running {name : Text} {statements : List Statement} {world : World Host}
      (done : (do let result ← advance call name statements; return some result : Act Host _)
        world = .ok (some (result, traversal)) final) :
      result.Takes (Statement.blockParts statements) traversal.parts := by
    obtain ⟨answer, between, advanced, returned⟩ := bind_eq_ok done
    cases returned
    exact takes_advance call advanced
  cases before with
  | fresh node =>
    obtain ⟨_, _, _, done⟩ := bind_eq_ok done
    exact running done
  | within name rest => exact running done
  | offered name replies rest =>
    cases chosen with
    | none => cases done
    | some index =>
      simp only [pull] at done
      cases found : replies[index]? with
      | none =>
        rw [found] at done
        cases done
      | some reply =>
        simp only [found] at done
        obtain ⟨_, _, _, done⟩ := bind_eq_ok done
        have takes := running done
        rw [Statement.blockParts_append] at takes
        have among := Statement.blockParts_sublist_replyParts (List.mem_of_getElem? found)
        exact takes.mono (among.append (.refl _))
  | ended => cases done

end Engine

end Parley
