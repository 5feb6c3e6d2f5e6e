/-
This file says when a body cannot fail. What can fail in a body is the call of a
function that is not there or that is given too few or too many operands, a
literal that has no value, and a statement or an expression of a kind that the
host made up. A body in which none of these occurs comes to a result whatever the
variables hold, if the host has answered what it was offered.

The check is made of the body as it is written, the result is what a walk through
it comes to; what a traversal has left is checked in the same way, so the answer to
one pull prepares for the next.
-/

import Parley.Engine
import Parley.Proofs.Act

namespace Parley

variable {Host Answer First Second : Type}

/-! ### Bodies that are in order -/

section

variable (fits : Text → Nat → Prop)

namespace Expression

mutual

/-- Literals have values, functions are called with as many operands as fits, and no expression is
of a foreign kind. -/
def Resolves : Expression → Prop
  | literal written => ∃ value, written.toValue = .ok value
  | read _ => True
  | call function operands => fits function operands.length ∧ ResolveAll operands
  | foreign => False

/-- All of several expressions resolve. -/
def ResolveAll : List Expression → Prop
  | [] => True
  | expression :: rest => Resolves expression ∧ ResolveAll rest

end

end Expression

namespace Statement

mutual

/-- All expressions in a statement resolve, and no statement is of a foreign kind. -/
def Resolves : Statement → Prop
  | say _ | command _ | jump _ => True
  | evaluate expression => expression.Resolves fits
  | assign _ expression => expression.Resolves fits
  | branch clauses otherwise => ClausesResolve clauses ∧ BlockResolves otherwise
  | choice replies => RepliesResolve replies
  | foreign => False

/-- All statements of a block resolve. -/
def BlockResolves : List Statement → Prop
  | [] => True
  | statement :: rest => Resolves statement ∧ BlockResolves rest

/-- All clauses resolve. -/
def ClausesResolve : List (Clause Statement) → Prop
  | [] => True
  | ⟨condition, body⟩ :: rest =>
    (condition.Resolves fits ∧ BlockResolves body) ∧ ClausesResolve rest

/-- All replies resolve. -/
def RepliesResolve : List (Reply Statement) → Prop
  | [] => True
  | ⟨_, body, condition⟩ :: rest =>
    ((∀ expression ∈ condition, expression.Resolves fits) ∧ BlockResolves body) ∧
      RepliesResolve rest

end

variable {fits}

theorem BlockResolves.append {first second : List Statement} (resolves : BlockResolves fits first)
    (behind : BlockResolves fits second) : BlockResolves fits (first ++ second) := by
  induction first with
  | nil => exact behind
  | cons head tail ih => exact ⟨resolves.1, ih resolves.2⟩

theorem RepliesResolve.body {replies : List (Reply Statement)}
    (resolve : RepliesResolve fits replies) {reply : Reply Statement} (member : reply ∈ replies) :
    BlockResolves fits reply.body := by
  induction replies with
  | nil => cases member
  | cons first rest ih =>
    obtain ⟨text, body, condition⟩ := first
    cases member with
    | head => exact resolve.1.2
    | tail _ behind => exact ih resolve.2 behind

end Statement

/-- What is left of a traversal resolves. -/
def Traversal.Resolves : Traversal → Prop
  | .fresh node => Statement.BlockResolves fits node.body
  | .within _ rest => Statement.BlockResolves fits rest
  | .offered _ replies rest =>
    Statement.RepliesResolve fits replies ∧ Statement.BlockResolves fits rest
  | .ended => True

end

/-- The choice that a traversal waits for, if it waits for one, is the number of a reply. -/
def Traversal.Answered (chosen : Option Nat) : Traversal → Prop
  | .offered _ replies _ => ∃ index, chosen = some index ∧ index < replies.length
  | _ => True

/-! ### Computations that succeed -/

/-- A computation comes to an answer that is fit, whatever the world. -/
def Act.Succeeds (act : Act Host Answer) (fit : Answer → Prop) : Prop :=
  ∀ world, ∃ answer final, act world = .ok answer final ∧ fit answer

namespace Act.Succeeds

variable {fit : Answer → Prop}

theorem pure {answer : Answer} (suits : fit answer) :
    Succeeds (Pure.pure answer : Act Host Answer) fit :=
  fun world => ⟨answer, world, rfl, suits⟩

theorem look {next : World Host → Act Host Answer} (goesOn : ∀ world, (next world).Succeeds fit) :
    Succeeds ((get : Act Host (World Host)) >>= next) fit :=
  fun world => goesOn world world

theorem changing (change : World Host → World Host) :
    Succeeds (modify change : Act Host Unit) fun _ => True :=
  fun world => ⟨(), change world, rfl, trivial⟩

theorem bind {first : Act Host First} {next : First → Act Host Second} {between : First → Prop}
    {fit : Second → Prop} (begins : first.Succeeds between)
    (goesOn : ∀ answer, between answer → (next answer).Succeeds fit) :
    (first >>= next).Succeeds fit := by
  intro world
  obtain ⟨middle, passed, done, suits⟩ := begins world
  rw [bind_apply, done]
  exact goesOn middle suits passed

end Act.Succeeds

/-! ### Walks -/

namespace Engine

variable {call : Text → List Value → Act Host Value} {fits : Text → Nat → Prop}

theorem succeeds_valueOf {literal : Literal} (resolves : ∃ value, literal.toValue = .ok value) :
    (Act.valueOf literal : Act Host Value).Succeeds fun _ => True := by
  obtain ⟨value, scalar⟩ := resolves
  rw [Act.valueOf, scalar]
  exact .pure trivial

mutual

theorem succeeds_evaluate
    (succeeds : ∀ name operands, fits name operands.length →
      (call name operands).Succeeds fun _ => True) :
    ∀ expression : Expression, expression.Resolves fits →
      (evaluate call expression).Succeeds fun _ => True
  | .literal _, resolves => succeeds_valueOf resolves
  | .read _, _ => .look fun _ => .pure trivial
  | .call function operands, resolves => by
    -- The check counts the operands as they are written, the function their values.
    refine .bind (succeeds_evaluateAll succeeds operands resolves.2) fun values counted => ?_
    exact succeeds function values (counted ▸ resolves.1)
  | .foreign, resolves => resolves.elim

theorem succeeds_evaluateAll
    (succeeds : ∀ name operands, fits name operands.length →
      (call name operands).Succeeds fun _ => True) :
    ∀ expressions : List Expression, Expression.ResolveAll fits expressions →
      (evaluateAll call expressions).Succeeds fun values => values.length = expressions.length
  | [], _ => .pure rfl
  | expression :: rest, resolves => by
    refine .bind (succeeds_evaluate succeeds expression resolves.1) fun _ _ => ?_
    refine .bind (succeeds_evaluateAll succeeds rest resolves.2) fun values counted => ?_
    exact .pure (congrArg (· + 1) counted)

end

theorem succeeds_finish (name : Text) (next : Option Text) :
    (finish name next : Act Host (Result × Traversal)).Succeeds fun answer =>
      answer.2.Resolves fits :=
  .bind (.changing _) fun _ _ => .pure trivial

variable (succeeds : ∀ name operands, fits name operands.length →
  (call name operands).Succeeds fun _ => True)

include succeeds

theorem succeeds_admits {condition : Option Expression}
    (resolves : ∀ expression ∈ condition, expression.Resolves fits) :
    (admits call condition).Succeeds fun _ => True := by
  cases condition with
  | none => exact .pure trivial
  | some condition =>
    exact .bind (succeeds_evaluate succeeds condition (resolves condition rfl)) fun _ _ =>
      .pure trivial

theorem succeeds_available (replies : List (Reply Statement))
    (resolve : Statement.RepliesResolve fits replies) :
    (available call replies).Succeeds fun offers => Statement.RepliesResolve fits offers := by
  induction replies with
  | nil => exact .pure trivial
  | cons reply rest ih =>
    obtain ⟨text, body, condition⟩ := reply
    refine .bind (succeeds_admits succeeds resolve.1.1) fun admitted _ => ?_
    refine .bind (ih resolve.2) fun offers others => ?_
    refine .pure ?_
    split
    · exact ⟨resolve.1, others⟩
    · exact others

theorem succeeds_advance (name : Text) (statements : List Statement)
    (resolves : Statement.BlockResolves fits statements) :
    (advance call name statements).Succeeds fun answer => answer.2.Resolves fits := by
  induction statements using advance.induct with
  | case1 =>
    rw [advance]
    exact succeeds_finish name none
  | case2 text rest =>
    rw [advance]
    exact .pure resolves.2
  | case3 text rest =>
    rw [advance]
    exact .pure resolves.2
  | case4 expression rest ih =>
    rw [advance]
    exact .bind (succeeds_evaluate succeeds expression resolves.1) fun _ _ => ih resolves.2
  | case5 target expression rest ih =>
    rw [advance]
    refine .bind (succeeds_evaluate succeeds expression resolves.1) fun value _ => ?_
    exact .bind (.changing _) fun _ _ => .bind (.changing _) fun _ _ => ih resolves.2
  | case6 otherwise rest ih =>
    rw [advance]
    exact ih (resolves.1.2.append resolves.2)
  | case7 condition body clauses otherwise rest inBody inOthers =>
    rw [advance]
    obtain ⟨⟨⟨⟨inCondition, inClause⟩, inClauses⟩, inOtherwise⟩, inRest⟩ := resolves
    refine .bind (succeeds_evaluate succeeds condition inCondition) fun value _ => ?_
    split
    · exact inBody (inClause.append inRest)
    · exact inOthers ⟨⟨inClauses, inOtherwise⟩, inRest⟩
  | case8 replies rest ih =>
    rw [advance]
    refine .bind (succeeds_available succeeds replies resolves.1) fun offers inOffers => ?_
    split
    · exact .bind (.changing _) fun _ _ => ih resolves.2
    · exact .pure ⟨inOffers, resolves.2⟩
  | case9 target tail =>
    rw [advance]
    exact succeeds_finish name _
  | case10 tail => exact resolves.1.elim

/-- A pull comes to something if what is left of the traversal resolves and the host has answered
what it was offered; what is left then resolves as well. -/
theorem succeeds_pull {chosen : Option Nat} {traversal : Traversal}
    (resolves : traversal.Resolves fits) (answered : traversal.Answered chosen) :
    (pull call chosen traversal).Succeeds fun pulled =>
      ∀ answer, pulled = some answer → answer.2.Resolves fits := by
  have onward (name : Text) (statements : List Statement)
      (resolves : Statement.BlockResolves fits statements) :
      (do let result ← advance call name statements; return some result : Act Host _).Succeeds
        fun pulled => ∀ answer, pulled = some answer → answer.2.Resolves fits := by
    refine .bind (succeeds_advance succeeds name statements resolves) fun answer left => .pure ?_
    rintro _ ⟨⟩
    exact left
  cases traversal with
  | fresh node => exact .bind (.changing _) fun _ _ => onward _ _ resolves
  | within name rest => exact onward _ _ resolves
  | offered name replies rest =>
    obtain ⟨index, rfl, within⟩ := answered
    obtain ⟨inReplies, inRest⟩ := resolves
    have reply := inReplies.body (List.getElem_mem within)
    unfold pull
    dsimp only
    rw [List.getElem?_eq_getElem within]
    exact .bind (.changing _) fun _ _ => onward _ _ (reply.append inRest)
  | ended => exact .pure nofun

end Engine

end Parley
