/-
This file carries over to runs what is known of single traversals: whatever comes of a
run can be shown, if the texts of its script can. The nodes that a run enters are those
that were loaded, and the names that it goes to stand in jumps of theirs or in the start
that the host gave; so a run that was begun at a string never leaves the dialogue with
anything else to report.
-/

import Parley.Proofs.Dialogue.Hosting
import Parley.Proofs.Engine.Legible
import Parley.Proofs.Script.Resolved

namespace Parley

variable {Host Answer : Type}

/-- A node has a string for its name, and its body can be shown. -/
def Node.Legible (node : Node) : Prop :=
  node.name.isString = true ∧ Statement.BlockLegible node.body

/-- What is left of a run can be shown. -/
def Stage.Legible : Stage → Prop
  | .unstarted start => start.isString = true
  | .inside node traversal => node.name.isString = true ∧ traversal.Legible
  | .ended => True

/-- What a turn yields, and what it leaves, can be shown. -/
def Turn.Legible : Turn → Prop
  | .event yielded traversal => yielded.Legible ∧ traversal.Legible
  | .ended => True
  | .follow next => ∀ name ∈ next, name.isString = true

/-- What a pull yields, and what it leaves, can be shown. -/
def Pulled.Legible : Pulled → Prop
  | .event yielded node traversal => yielded.Legible ∧ node.name.isString = true ∧ traversal.Legible
  | .ended | .unfinished => True

/-- What a host gets can be shown. -/
def Dialogue.Yield.Legible : Yield → Prop
  | .event yielded => yielded.Legible
  | .ended | .unfinished => True

namespace Dialogue

/-- A dialogue has both sinks, the functions that every dialogue starts with, and nodes and a world
that can be shown. -/
structure Legible (dialogue : Dialogue Host) : Prop where
  heard : dialogue.Heard
  furnished : dialogue.shelf.Furnished
  first : dialogue.library = firstLibrary
  nodes : ∀ node ∈ dialogue.nodes.entries, node.Legible
  world : dialogue.world.Legible

namespace Legible

variable {dialogue : Dialogue Host} (legible : dialogue.Legible)

include legible

theorem changeWorld {world : World Host} (legible' : world.Legible) :
    Legible { dialogue with world } := { legible with world := legible' }

theorem note (note : Note) (named : ∀ name ∈ note.names, name.isString = true) :
    (dialogue.changeWorld (·.note note)).Legible :=
  legible.changeWorld (legible.world.note note named)

theorem enterPhase (phase : Phase) : Legible { dialogue with phase } :=
  ⟨legible.heard, legible.furnished, legible.first, legible.nodes, legible.world⟩

theorem ended (phase : Phase) : (dialogue.ended phase).Legible := by
  have noted : (dialogue.world.note (.runFinished phase dialogue.world.current)).Legible :=
    legible.world.note _ fun name member => legible.world.current name (Option.mem_toList.1 member)
  exact (legible.changeWorld noted).enterPhase phase

theorem reach {name : Text} (named : name.isString = true) :
    (dialogue.changeWorld (·.reach name)).Legible := by
  have reached : World.Legible { dialogue.world with current := some name } := by
    refine ⟨?_, legible.world.executing, legible.world.journal⟩
    rintro _ ⟨⟩
    exact named
  have noted := reached.note (.tellRunning name) (List.forall_mem_singleton.2 named)
  exact legible.changeWorld noted

theorem begun {start : Text} (named : start.isString = true) : (dialogue.begun start).Legible := by
  have begins : World.Legible { dialogue.world with
      stopping := false, visited := [], current := some start } := by
    refine ⟨?_, legible.world.executing, legible.world.journal⟩
    rintro _ ⟨⟩
    exact named
  have noted := begins.note (.runStarted start) (List.forall_mem_singleton.2 named)
  exact (legible.changeWorld noted).enterPhase .running

theorem visit (name : Text) : (dialogue.changeWorld (·.visit name)).Legible := by
  have visited : (dialogue.world.visit name).Legible := by
    rw [World.visit]
    split
    · exact legible.world
    · exact ⟨legible.world.current, legible.world.executing, legible.world.journal⟩
  exact legible.changeWorld visited

/-- What a result means for a run can be shown if the result and what is behind it can. -/
theorem judge (node : Node) {result : Result} {traversal : Traversal} (shown : result.Legible)
    (left : traversal.Legible) :
    (Dialogue.judge node result traversal dialogue).1.Legible ∧
      (Dialogue.judge node result traversal dialogue).2.Legible := by
  rw [Dialogue.judge.eq_def]
  split
  · exact ⟨trivial, legible.ended .completed⟩
  · split
    · exact ⟨trivial, legible.ended .aborted⟩
    · cases result with
      | complete next => exact ⟨shown, legible.visit node.name⟩
      | event yielded => exact ⟨⟨shown, left⟩, legible.enterPhase .suspended⟩

end Legible

end Dialogue

/-! ### Operations -/

/-- An operation reports only what can be shown, and fails only by faults that can. -/
abbrev Operation.Legible (operation : Operation Host Answer) (fit : Answer → Prop) : Prop :=
  Confined Dialogue.Legible Fault.Legible operation fit

theorem Act.Legible.during {act : Act Host Answer} {fit : Answer → Prop} (legible : act.Legible fit)
    {name : Text} (named : name.isString = true) : (act.during name).Legible fit := by
  intro world legible'
  have entered : World.Legible { world with executing := some name } := by
    refine ⟨legible'.current, ?_, legible'.journal⟩
    rintro _ ⟨⟩
    exact named
  have acted := legible _ entered
  rw [Act.during]
  cases result : act { world with executing := some name } with
  | ok answer after =>
    rw [result] at acted
    exact ⟨⟨acted.1.current, legible'.executing, acted.1.journal⟩, acted.2⟩
  | error fault after =>
    rw [result] at acted
    exact ⟨⟨acted.1.current, legible'.executing, acted.1.journal⟩, acted.2⟩

namespace Dialogue

theorem legible_tell {message : Note} (named : ∀ name ∈ message.names, name.isString = true) :
    (tell message : Operation Host Unit).Legible fun _ => True := by
  intro dialogue legible
  rw [tell_apply message legible.heard]
  exact ⟨legible.note message named, trivial⟩

theorem legible_finish (phase : Phase) :
    (finish phase : Operation Host Unit).Legible fun _ => True :=
  fun _ legible => ⟨legible.ended phase, trivial⟩

theorem legible_enter {name : Text} (named : name.isString = true) :
    (enter name : Operation Host (Option Node)).Legible fun found =>
      ∀ node ∈ found, node.Legible := by
  intro dialogue legible
  rw [enter_apply name legible.heard]
  cases found : dialogue.nodes.get? name with
  | some node =>
    refine ⟨legible.reach named, ?_⟩
    rintro _ ⟨⟩
    exact legible.nodes node (List.mem_of_find?_eq_some found)
  | none =>
    refine ⟨Legible.ended ?_ .aborted, nofun⟩
    exact (legible.reach named).note _ (List.forall_mem_singleton.2 named)

theorem legible_takeTurn {node : Node} (named : node.name.isString = true) (chosen : Option Nat)
    {traversal : Traversal} (left : traversal.Legible) :
    (takeTurn node chosen traversal : Operation Host Turn).Legible Turn.Legible := by
  intro dialogue legible
  have calls (name : Text) (operands : List Value) (named : name.isString = true) :
      (dialogue.shelf.call home name operands).Legible fun _ => True :=
    Shelf.legible_call legible.furnished legible.first named operands
  have bout := (Engine.legible_pull calls chosen left).during named dialogue.world legible.world
  rw [takeTurn_apply]
  cases result : (Engine.pull (dialogue.shelf.call home) chosen traversal).during node.name
      dialogue.world with
  | error fault world =>
    rw [result] at bout
    exact ⟨legible.changeWorld bout.1, bout.2⟩
  | ok pulled world =>
    rw [result] at bout
    match pulled with
    | none => exact ⟨legible.changeWorld bout.1, trivial⟩
    | some (result, traversal) =>
      obtain ⟨shown, behind⟩ := bout.2 _ rfl
      exact ((legible.changeWorld bout.1).judge node shown behind).symm

theorem legible_follow (budget : Nat) {next : Option Text}
    (named : ∀ name ∈ next, name.isString = true) :
    (follow budget next : Operation Host Pulled).Legible Pulled.Legible := by
  induction budget generalizing next with
  | zero =>
    cases next with
    | none =>
      refine Confined.bind (legible_tell nofun) fun _ _ => ?_
      exact Confined.bind (legible_finish _) fun _ _ => .pure trivial
    | some name => exact .pure trivial
  | succ budget ih =>
    cases next with
    | none =>
      refine Confined.bind (legible_tell nofun) fun _ _ => ?_
      exact Confined.bind (legible_finish _) fun _ _ => .pure trivial
    | some name =>
      refine Confined.bind (legible_enter (named name rfl)) fun found inFound => ?_
      cases found with
      | none => exact .pure trivial
      | some node =>
        have entered := inFound node rfl
        refine Confined.bind (legible_takeTurn entered.1 none entered) fun turn legible => ?_
        cases turn with
        | event yielded traversal => exact .pure ⟨legible.1, entered.1, legible.2⟩
        | ended => exact .pure trivial
        | follow next => exact ih legible

theorem legible_resume (budget : Nat) (chosen : Option Nat) {stage : Stage}
    (left : stage.Legible) :
    (resume budget chosen stage : Operation Host Pulled).Legible Pulled.Legible := by
  cases stage with
  | unstarted start =>
    refine legible_follow budget ?_
    rintro _ ⟨⟩
    exact left
  | inside node traversal =>
    refine Confined.bind (.changing fun _ legible => legible.enterPhase .running) fun _ _ => ?_
    refine Confined.bind (legible_takeTurn left.1 chosen left.2) fun turn legible => ?_
    cases turn with
    | event yielded traversal => exact .pure ⟨legible.1, left.1, legible.2⟩
    | ended => exact .pure trivial
    | follow next => exact legible_follow budget legible
  | ended => exact .pure trivial

/-- What a pull yields, reports and fails by can be shown if the dialogue and what is left of the
run can, and then both can be shown again. -/
theorem legible_pull (budget : Nat) {run : Run} {dialogue : Dialogue Host}
    (left : run.stage.Legible) (legible : dialogue.Legible) :
    (∀ fault, (pull budget run dialogue).1 = .error fault → fault.Legible) ∧
      (∀ yielded, (pull budget run dialogue).1 = .ok yielded → yielded.Legible) ∧
      (pull budget run dialogue).2.1.stage.Legible ∧ (pull budget run dialogue).2.2.Legible := by
  have resumed := legible_resume budget (Offer.latest? run.offers) left dialogue legible
  rw [pull, guarded_apply]
  cases result : resume budget (Offer.latest? run.offers) run.stage dialogue with
  | error fault dialogue =>
    rw [result] at resumed
    refine ⟨?_, ?_, trivial, resumed.1.ended .aborted⟩ <;> rintro _ ⟨⟩
    exact resumed.2
  | ok pulled dialogue =>
    rw [result] at resumed
    refine ⟨by cases pulled <;> rintro _ ⟨⟩, ?_⟩
    cases pulled with
    | event yielded node traversal =>
      refine ⟨?_, resumed.2.2, resumed.1⟩
      rintro _ ⟨⟩
      exact resumed.2.1
    | ended =>
      refine ⟨?_, trivial, resumed.1⟩
      rintro _ ⟨⟩
      trivial
    | unfinished =>
      refine ⟨?_, left, resumed.1⟩
      rintro _ ⟨⟩
      trivial

/-! ### Loading -/

theorem legible_new (store : Store) (host : Host) : (new store host true true).Legible where
  heard := ⟨rfl, rfl⟩
  furnished := ⟨_, _, rfl⟩
  first := by
    simp only [library, Shelf.library, new, home, firstLibrary, List.getElem?_cons_succ,
      List.getElem?_cons_zero, Option.getD_some]
  nodes := by rintro _ ⟨⟩
  world := by
    refine ⟨?_, ?_, fun entry member => absurd member (Array.not_mem_empty entry)⟩
    · rintro _ ⟨⟩
    · rintro _ ⟨⟩

theorem Legible.loadScript {script : Except LoadFault NodeTable} {strict : Bool} {count : Nat}
    {dialogue loaded : Dialogue Host} (legible : dialogue.Legible)
    (done : loadScript script strict dialogue = .ok count loaded)
    (nodes : ∀ node ∈ loaded.nodes.entries, node.Legible) : loaded.Legible := by
  rw [loadScript_apply script strict legible.heard] at done
  cases script with
  | error fault => cases done
  | ok table =>
    have read : (dialogue.changeWorld (·.note (.scriptLoaded table.size))).Legible :=
      legible.note _ nofun
    obtain ⟨fault, failed⟩ | ⟨merged, -, same, -⟩ := loadNodes_spec table.toLedger strict
      (dialogue.changeWorld (·.note (.scriptLoaded table.size)))
    · dsimp only at done
      rw [failed] at done
      cases done
    · dsimp only at done
      rw [same] at done
      cases done
      have reported := (read.world.note (.nodesAdded table.toLedger.size merged.size) nofun).note
        (.tellLoaded table.toLedger.size) nofun
      exact ⟨read.heard, read.furnished, read.first, nodes, reported⟩

end Dialogue

end Parley
