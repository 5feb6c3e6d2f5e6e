/-
This file says when a run misses no function: if every function that the nodes
call is in the library, and no function in the library misses one itself. Each
operation of a run is then provided for, whatever the world is and whether or not
the sinks are there; it leaves the nodes and the library alone, and the run where
the same can be said of it again.
-/

import Parley.Proofs.Dialogue.Steps
import Parley.Proofs.Library

namespace Parley

variable {Host : Type}

/-! ### Runs that miss no function -/

/-- The names of the functions that are called by what is left of the node a run waits in. -/
def Stage.calls : Stage → List Text
  | .inside _ traversal => traversal.calls
  | _ => []

/-- What is left of the node that a turn stays in calls only functions of a library. -/
def Turn.Stocked (library : Library Host) : Turn → Prop
  | .event _ traversal => ∀ name ∈ traversal.calls, library.contains name = true
  | _ => True

/-- What is left of the node that a pull stays in calls only functions of a library. -/
def Pulled.Stocked (library : Library Host) : Pulled → Prop
  | .event _ _ traversal => ∀ name ∈ traversal.calls, library.contains name = true
  | _ => True

namespace Dialogue

/-- All functions that are called by nodes of a dialogue are in its library. -/
def Supplied (dialogue : Dialogue Host) : Prop :=
  ∀ node ∈ dialogue.nodes.entries, ∀ name ∈ Statement.blockCalls node.body,
    dialogue.library.contains name = true

/-- The functions of a library are the first ones, or miss no function themselves. -/
def Tame (dialogue : Dialogue Host) : Prop :=
  ∀ function ∈ dialogue.library.entries,
    function ∈ firstLibrary.entries ∨ function.Quiet dialogue.shelf

section

variable {base : Dialogue Host}

/-- A dialogue has the shelf and the nodes of another. -/
abbrev Same (base dialogue : Dialogue Host) : Prop :=
  dialogue.shelf = base.shelf ∧ dialogue.nodes = base.nodes

theorem provided_executing {Answer : Type} (name : Text) {act : Act Host Answer}
    {fit : Answer → Prop} (complete : act.Complete fit) :
    Provided base.Same (executing name act) fit := by
  intro dialogue same
  rw [executing_apply, Act.during]
  have done := complete { dialogue.world with executing := some name } trivial
  cases result : act { dialogue.world with executing := some name } with
  | ok answer world =>
    rw [result] at done
    exact ⟨same, done.2⟩
  | error fault world =>
    rw [result] at done
    exact ⟨same, done.2⟩

theorem provided_tell (message : Note) :
    Provided base.Same (tell message) fun _ => True := by
  refine Provided.bind .get fun dialogue _ => ?_
  by_cases present : (if message.channel = .errorSink then dialogue.errorSink
      else dialogue.debugSink) = true
  · rw [if_pos present]
    exact .changing fun _ same => same
  · rw [if_neg present]
    exact .throw nofun

theorem provided_finish (phase : Phase) : Provided base.Same (finish phase) fun _ => True := by
  refine Provided.bind .get fun _ _ => ?_
  exact Provided.bind (.changing fun _ same => same) fun _ _ => .changing fun _ same => same

theorem provided_enter (name : Text) :
    Provided base.Same (enter name) fun found => ∀ node, found = some node →
      node ∈ base.nodes.entries := by
  refine Provided.bind (.changing fun _ same => same) fun _ _ => ?_
  refine Provided.bind (provided_tell _) fun _ _ => ?_
  refine Provided.bind .get fun dialogue same => ?_
  cases found : dialogue.nodes.get? name with
  | none =>
    refine Provided.bind (provided_tell _) fun _ _ => ?_
    exact Provided.bind (provided_finish _) fun _ _ => .pure nofun
  | some node =>
    refine .pure fun other equal => ?_
    obtain rfl := Option.some.inj equal
    rw [← same.2]
    exact List.mem_of_find?_eq_some found

variable (furnished : base.shelf.Furnished) (tame : base.Tame)

include furnished tame

theorem provided_takeTurn (node : Node) (chosen : Option Nat) (traversal : Traversal)
    (stocked : ∀ name ∈ traversal.calls, base.library.contains name = true) :
    Provided base.Same (takeTurn node chosen traversal) (Turn.Stocked base.library) := by
  refine Provided.bind .get fun dialogue same => ?_
  have complete (name : Text) (operands : List Value)
      (there : base.library.contains name = true) :
      (dialogue.shelf.call home name operands).Complete fun _ => True := by
    rw [same.1]
    exact Shelf.complete_call furnished tame there operands
  have pulls := Engine.complete_pull complete chosen traversal stocked
  refine Provided.bind (provided_executing node.name pulls) fun pulled left => ?_
  match pulled with
  | none => exact .pure trivial
  | some (result, onward) =>
    refine Provided.bind .get fun _ _ => ?_
    split
    · exact Provided.bind (provided_finish _) fun _ _ => .pure trivial
    · split
      · exact Provided.bind (provided_finish _) fun _ _ => .pure trivial
      · cases result with
        | complete next =>
          exact Provided.bind (.changing fun _ same => same) fun _ _ => .pure trivial
        | event event =>
          exact Provided.bind (.changing fun _ same => same) fun _ _ => .pure (left _ rfl)

variable (supplied : base.Supplied)

include supplied

theorem provided_follow (budget : Nat) (next : Option Text) :
    Provided base.Same (follow budget next) (Pulled.Stocked base.library) := by
  induction budget generalizing next with
  | zero =>
    cases next with
    | none =>
      refine Provided.bind (provided_tell _) fun _ _ => ?_
      exact Provided.bind (provided_finish _) fun _ _ => .pure trivial
    | some name => exact .pure trivial
  | succ budget ih =>
    cases next with
    | none =>
      refine Provided.bind (provided_tell _) fun _ _ => ?_
      exact Provided.bind (provided_finish _) fun _ _ => .pure trivial
    | some name =>
      refine Provided.bind (provided_enter name) fun found member => ?_
      cases found with
      | none => exact .pure trivial
      | some node =>
        have stocked := supplied node (member node rfl)
        refine Provided.bind (provided_takeTurn furnished tame node none _ stocked)
          fun turn left => ?_
        cases turn with
        | event event traversal => exact .pure left
        | ended => exact .pure trivial
        | follow next => exact ih next

theorem provided_resume (budget : Nat) (chosen : Option Nat) (stage : Stage)
    (stocked : ∀ name ∈ stage.calls, base.library.contains name = true) :
    Provided base.Same (resume budget chosen stage) (Pulled.Stocked base.library) := by
  cases stage with
  | unstarted start => exact provided_follow furnished tame supplied budget (some start)
  | inside node traversal =>
    refine Provided.bind (.changing fun _ same => same) fun _ _ => ?_
    refine Provided.bind (provided_takeTurn furnished tame node chosen _ stocked)
      fun turn left => ?_
    cases turn with
    | event event traversal => exact .pure left
    | ended => exact .pure trivial
    | follow next => exact provided_follow furnished tame supplied budget next
  | ended => exact .pure trivial

/-- A pull misses no function, changes neither the nodes nor the library, and leaves the run where
again no function is missed. -/
theorem pull_provided (budget : Nat) (run : Run)
    (stocked : ∀ name ∈ run.stage.calls, base.library.contains name = true) :
    (∀ name, (pull budget run base).1 ≠ .error (.functionNotFound name)) ∧
      (∀ name ∈ (pull budget run base).2.1.stage.calls, base.library.contains name = true) ∧
      base.Same (pull budget run base).2.2 := by
  have resumed := provided_resume furnished tame supplied budget (Offer.latest? run.offers)
    run.stage stocked base ⟨rfl, rfl⟩
  rw [pull, guarded]
  cases result : resume budget (Offer.latest? run.offers) run.stage base with
  | error fault dialogue =>
    rw [result] at resumed
    refine ⟨fun name missing => resumed.2 name ?_, nofun, resumed.1⟩
    exact Except.error.inj missing
  | ok pulled dialogue =>
    rw [result] at resumed
    cases pulled with
    | event event node traversal => exact ⟨nofun, resumed.2, resumed.1⟩
    | ended => exact ⟨nofun, nofun, resumed.1⟩
    | unfinished => exact ⟨nofun, stocked, resumed.1⟩

end

end Dialogue

end Parley
