/-
This file compares two walks over a body. One lists the functions that a body
calls without running it; the other runs it. If every function on the list can be
called without one being missed, no pull misses one, and what a pull leaves behind
calls only functions that were on the list.

The list is taken of a whole traversal rather than of a node, since that is what
one pull hands to the next: the blocks that were entered, the replies that were
offered, and the statements behind them.
-/

import Parley.Engine
import Parley.Proofs.Act
import Parley.Script.Calls

namespace Parley

variable {Host : Type}

/-! ### What is called -/

namespace Statement

theorem blockCalls_append (first second : List Statement) :
    blockCalls (first ++ second) = blockCalls first ++ blockCalls second := by
  induction first with
  | nil => rfl
  | cons head tail ih => rw [List.cons_append, blockCalls, blockCalls, ih, List.append_assoc]

/-- The body of a reply calls nothing that the replies do not call. -/
theorem blockCalls_subset_replyCalls {reply : Reply Statement} {replies : List (Reply Statement)}
    (member : reply ∈ replies) : blockCalls reply.body ⊆ replyCalls replies := by
  induction replies with
  | nil => cases member
  | cons first rest ih =>
    obtain ⟨text, body, condition⟩ := first
    intro name called
    rw [replyCalls]
    cases member with
    | head => simp [called]
    | tail _ behind => exact List.mem_append_right _ (ih behind called)

end Statement

/-- The names of the functions that are called by what is left of a traversal. -/
def Traversal.calls : Traversal → List Text
  | .fresh node => Statement.blockCalls node.body
  | .within _ rest => Statement.blockCalls rest
  | .offered _ replies rest => Statement.replyCalls replies ++ Statement.blockCalls rest
  | .ended => []

/-! ### What is missed -/

/-- A computation on the world misses no function, whatever the world. -/
abbrev Act.Complete {Answer : Type} (act : Act Host Answer) (fit : Answer → Prop) : Prop :=
  Provided (fun _ => True) act fit

namespace Engine

variable {call : Text → List Value → Act Host Value} {known : Text → Prop}

theorem complete_valueOf (literal : Literal) :
    (Act.valueOf literal : Act Host Value).Complete fun _ => True := by
  unfold Act.valueOf
  cases literal.toValue with
  | ok value => exact .pure trivial
  | error collection => exact .throw nofun

theorem complete_finish (name : Text) (next : Option Text) :
    (finish name next : Act Host (Result × Traversal)).Complete fun answer =>
      ∀ name ∈ answer.2.calls, known name :=
  Provided.bind (.changing fun _ => id) fun _ _ => .pure nofun

mutual

theorem complete_evaluate
    (complete : ∀ name operands, known name → (call name operands).Complete fun _ => True) :
    ∀ expression : Expression, (∀ name ∈ expression.calls, known name) →
      (evaluate call expression).Complete fun _ => True
  | .literal written, _ => complete_valueOf written
  | .read name, _ => Provided.bind .get fun _ _ => .pure trivial
  | .call function operands, all => by
    refine Provided.bind (complete_evaluateAll complete operands fun name called =>
      all name (List.mem_cons_of_mem _ called)) fun values _ => ?_
    exact complete function values (all function List.mem_cons_self)
  | .foreign, _ => .throw nofun

theorem complete_evaluateAll
    (complete : ∀ name operands, known name → (call name operands).Complete fun _ => True) :
    ∀ expressions : List Expression, (∀ name ∈ Expression.callsAll expressions, known name) →
      (evaluateAll call expressions).Complete fun _ => True
  | [], _ => .pure trivial
  | expression :: rest, all => by
    refine Provided.bind (complete_evaluate complete expression fun name called =>
      all name (List.mem_append_left _ called)) fun _ _ => ?_
    refine Provided.bind (complete_evaluateAll complete rest fun name called =>
      all name (List.mem_append_right _ called)) fun _ _ => ?_
    exact .pure trivial

end

variable (complete : ∀ name operands, known name → (call name operands).Complete fun _ => True)

include complete

theorem complete_admits (condition : Option Expression)
    (all : ∀ name ∈ (condition.map Expression.calls).getD [], known name) :
    (admits call condition).Complete fun _ => True := by
  cases condition with
  | none => exact .pure trivial
  | some condition =>
    exact Provided.bind (complete_evaluate complete condition all) fun _ _ => .pure trivial

theorem complete_available (replies : List (Reply Statement))
    (all : ∀ name ∈ Statement.replyCalls replies, known name) :
    (available call replies).Complete fun offers =>
      ∀ name ∈ Statement.replyCalls offers, known name := by
  induction replies with
  | nil => exact .pure all
  | cons reply rest ih =>
    obtain ⟨text, body, condition⟩ := reply
    simp only [Statement.replyCalls, List.mem_append] at all
    refine Provided.bind (complete_admits complete condition fun name called =>
      all name (.inl (.inl called))) fun admitted _ => ?_
    refine Provided.bind (ih fun name called => all name (.inr called)) fun others inOthers => ?_
    refine .pure ?_
    split
    · simp only [Statement.replyCalls, List.mem_append]
      intro name called
      obtain called | called := called
      · exact all name (.inl called)
      · exact inOthers name called
    · exact inOthers

theorem complete_advance (name : Text) (statements : List Statement)
    (all : ∀ name ∈ Statement.blockCalls statements, known name) :
    (advance call name statements).Complete fun answer =>
      ∀ name ∈ answer.2.calls, known name := by
  induction statements using advance.induct with
  | case1 =>
    rw [advance]
    exact complete_finish name none
  | case2 text rest =>
    rw [advance]
    exact .pure all
  | case3 text rest =>
    rw [advance]
    exact .pure all
  | case4 expression rest ih =>
    rw [advance]
    simp only [Statement.blockCalls, Statement.calls, List.mem_append] at all
    refine Provided.bind (complete_evaluate complete expression fun name called =>
      all name (.inl called)) fun _ _ => ?_
    exact ih fun name called => all name (.inr called)
  | case5 target expression rest ih =>
    rw [advance]
    simp only [Statement.blockCalls, Statement.calls, List.mem_append] at all
    refine Provided.bind (complete_evaluate complete expression fun name called =>
      all name (.inl called)) fun _ _ => ?_
    refine Provided.bind (.changing fun _ => id) fun _ _ => ?_
    refine Provided.bind (.changing fun _ => id) fun _ _ => ?_
    exact ih fun name called => all name (.inr called)
  | case6 otherwise rest ih =>
    rw [advance]
    refine ih fun name called => all name ?_
    rw [Statement.blockCalls_append] at called
    exact called
  | case7 condition body clauses otherwise rest inBody inOthers =>
    rw [advance]
    simp only [Statement.blockCalls, Statement.calls, Statement.clauseCalls, List.mem_append] at all
    refine Provided.bind (complete_evaluate complete condition fun name called =>
      all name (.inl (.inl (.inl (.inl called))))) fun value _ => ?_
    split
    · refine inBody fun name called => ?_
      rw [Statement.blockCalls_append, List.mem_append] at called
      obtain called | called := called
      · exact all name (.inl (.inl (.inl (.inr called))))
      · exact all name (.inr called)
    · refine inOthers fun name called => ?_
      simp only [Statement.blockCalls, Statement.calls, List.mem_append] at called
      obtain (called | called) | called := called
      · exact all name (.inl (.inl (.inr called)))
      · exact all name (.inl (.inr called))
      · exact all name (.inr called)
  | case8 replies rest ih =>
    rw [advance]
    simp only [Statement.blockCalls, Statement.calls, List.mem_append] at all
    refine Provided.bind (complete_available complete replies fun name called =>
      all name (.inl called)) fun offers inOffers => ?_
    split
    · refine Provided.bind (.changing fun _ => id) fun _ _ => ?_
      exact ih fun name called => all name (.inr called)
    · refine .pure fun name called => ?_
      obtain called | called := List.mem_append.1 called
      · exact inOffers name called
      · exact all name (.inr called)
  | case9 target tail =>
    rw [advance]
    exact complete_finish name _
  | case10 tail =>
    rw [advance]
    exact .throw (by rintro _ ⟨⟩)

/-- A pull misses no function if the traversal calls none that is not known, and then what it leaves
calls none either. -/
theorem complete_pull (chosen : Option Nat) (traversal : Traversal)
    (all : ∀ name ∈ traversal.calls, known name) :
    (pull call chosen traversal).Complete fun pulled =>
      ∀ answer, pulled = some answer → ∀ name ∈ answer.2.calls, known name := by
  have onward (name : Text) (statements : List Statement)
      (all : ∀ name ∈ Statement.blockCalls statements, known name) :
      (do let result ← advance call name statements; return some result : Act Host _).Complete
        fun pulled => ∀ answer, pulled = some answer → ∀ name ∈ answer.2.calls, known name := by
    refine Provided.bind (complete_advance complete name statements all) fun answer fit => ?_
    refine .pure fun same equal => ?_
    obtain rfl := Option.some.inj equal
    exact fit
  cases traversal with
  | fresh node => exact Provided.bind (.changing fun _ => id) fun _ _ => onward _ _ all
  | within name rest => exact onward _ _ all
  | offered name replies rest =>
    cases chosen with
    | none => exact .throw (by rintro _ ⟨⟩)
    | some index =>
      simp only [pull]
      cases found : replies[index]? with
      | none => exact .throw (by rintro _ ⟨⟩)
      | some reply =>
        refine Provided.bind (.changing fun _ => id) fun _ _ => onward _ _ fun name called => ?_
        have member := List.mem_of_getElem? found
        rw [Statement.blockCalls_append, List.mem_append] at called
        obtain called | called := called
        · exact all name
            (List.mem_append_left _ (Statement.blockCalls_subset_replyCalls member called))
        · exact all name (List.mem_append_right _ called)
  | ended => exact .pure (by rintro _ ⟨⟩)

end Engine

end Parley
