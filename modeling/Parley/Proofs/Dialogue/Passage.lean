/-
This file follows one pull from its beginning to its end. A pull is made of bouts:
in each of them the engine works on one node until it has a result. Between two
bouts the run goes from one node to the next, and at the end it waits at an event,
is over, or has used up its budget.

`Dialogue.moments` lists the bouts of a pull. `Passage` says what can follow upon
what, and with which dialogue; whatever is true of every pull is proved by
induction on it, and no proof about pulls has to open an operation again.
-/

import Parley.Proofs.Dialogue.Chain
import Parley.Proofs.Engine.Record

namespace Parley

variable {Host : Type}

/-! ### Bouts -/

/-- A bout of work on a node: the node, the choice that the host has made, what is left of the node,
and the dialogue in which the bout begins. -/
structure Bout (Host : Type) where
  node : Node
  chosen : Option Nat
  traversal : Traversal
  dialogue : Dialogue Host

namespace Bout

/-- What the engine comes to in a bout. -/
def outcome (bout : Bout Host) :
    EStateM.Result Fault (World Host) (Option (Result × Traversal)) :=
  (Engine.pull (bout.dialogue.shelf.call Dialogue.home) bout.chosen bout.traversal).during
    bout.node.name bout.dialogue.world

/-- The calls that are made in a bout. -/
def calls (bout : Bout Host) : List (Called Host) :=
  Engine.recorded (bout.dialogue.shelf.call Dialogue.home)
    (bout.dialogue.shelf.calls Dialogue.home) bout.chosen bout.traversal
    { bout.dialogue.world with executing := some bout.node.name }

/-- The dialogue as a call in a bout finds it. -/
def dialogueAt (bout : Bout Host) (called : Called Host) : Dialogue Host :=
  { bout.dialogue with world := called.world }

end Bout

/-- What a pull goes through: a bout, or a name that no node has. -/
inductive Moment (Host : Type) where
  | bout (bout : Bout Host)
  | missing (name : Text)

/-- The moments from a bout on, where `onward` says what going on with another node goes through. -/
def Bout.moments (onward : Option Text → Dialogue Host → List (Moment Host)) (bout : Bout Host) :
    List (Moment Host) :=
  .bout bout ::
    match Dialogue.takeTurn bout.node bout.chosen bout.traversal bout.dialogue with
    | .ok (.follow next) after => onward next after
    | _ => []

namespace Dialogue

/-- The moments of going on with the next node. -/
def followed : Nat → Option Text → Dialogue Host → List (Moment Host)
  | budget + 1, some name, dialogue =>
    match enter name dialogue with
    | .ok (some node) entered => Bout.moments (followed budget) ⟨node, none, .fresh node, entered⟩
    | .ok none _ => [.missing name]
    | .error _ _ => []
  | _, _, _ => []

/-- The moments of a pull. -/
def moments (budget : Nat) (run : Run) (dialogue : Dialogue Host) : List (Moment Host) :=
  match run.stage with
  | .unstarted start => followed budget (some start) dialogue
  | .inside node traversal =>
    Bout.moments (followed budget)
      ⟨node, Offer.latest? run.offers, traversal, { dialogue with phase := .running }⟩
  | .ended => []

end Dialogue

/-! ### Passages -/

/-- A point at which a pull goes on: on the way to the next node, if there is one, or in a bout. -/
inductive Point (Host : Type) where
  | towards (next : Option Text) (dialogue : Dialogue Host)
  | within (bout : Bout Host)

/-- What a pull comes to from a point on, and what it goes through. -/
inductive Passage :
    Point Host → List (Moment Host) → EStateM.Result Fault (Dialogue Host) Pulled → Prop
  /-- The last node names no other. -/
  | completed (dialogue) :
    Passage (.towards none dialogue) []
      (.ok .ended ((dialogue.changeWorld (·.note .tellComplete)).ended .completed))
  /-- The budget is used up. -/
  | exhausted (name dialogue) :
    Passage (.towards (some name) dialogue) [] (.ok .unfinished dialogue)
  /-- No node has the name. -/
  | missing {name} {dialogue : Dialogue Host} (absent : dialogue.nodes.get? name = none) :
    Passage (.towards (some name) dialogue) [.missing name]
      (.ok .ended ((dialogue.changeWorld fun world =>
        (world.reach name).note (.tellMissing name)).ended .aborted))
  /-- The node of the name is entered. -/
  | entered {name node moments outcome} {dialogue : Dialogue Host}
    (found : dialogue.nodes.get? name = some node)
    (onward : Passage
      (.within ⟨node, none, .fresh node, dialogue.changeWorld (·.reach name)⟩) moments outcome) :
    Passage (.towards (some name) dialogue) moments outcome
  /-- The engine fails. -/
  | failed (bout) {fault world} (pulled : bout.outcome = .error fault world) :
    Passage (.within bout) [.bout bout]
      (.error fault (Dialogue.ended .aborted { bout.dialogue with world }))
  /-- The command `stop`. -/
  | stopped (bout) {traversal world}
    (pulled : bout.outcome = .ok (some (.event (.command Dialogue.stopCommand), traversal)) world) :
    Passage (.within bout) [.bout bout]
      (.ok .ended (Dialogue.ended .completed { bout.dialogue with world }))
  /-- Any other result while the stop flag is set. -/
  | broken (bout) {result traversal world}
    (pulled : bout.outcome = .ok (some (result, traversal)) world)
    (other : result ≠ .event (.command Dialogue.stopCommand)) (stopping : world.stopping = true) :
    Passage (.within bout) [.bout bout]
      (.ok .ended (Dialogue.ended .aborted { bout.dialogue with world }))
  /-- An event for the host. -/
  | waiting (bout) {event traversal world}
    (pulled : bout.outcome = .ok (some (.event event, traversal)) world)
    (other : Result.event event ≠ .event (.command Dialogue.stopCommand))
    (stopping : world.stopping = false) :
    Passage (.within bout) [.bout bout]
      (.ok (.event event bout.node traversal) { bout.dialogue with world, phase := .suspended })
  /-- The node is complete. -/
  | followed (bout) {next traversal world moments outcome}
    (pulled : bout.outcome = .ok (some (.complete next, traversal)) world)
    (stopping : world.stopping = false)
    (onward : Passage (.towards next { bout.dialogue with world := world.visit bout.node.name })
      moments outcome) :
    Passage (.within bout) (.bout bout :: moments) outcome

namespace Dialogue

/-- A bout and what comes after it make a passage, if what comes after nodes does. -/
theorem passage_bout (budget : Nat) (bout : Bout Host) (ongoing : bout.traversal ≠ .ended)
    (onward : ∀ next world, Passage (.towards next { bout.dialogue with world })
      (followed budget next { bout.dialogue with world })
      (guarded (follow budget next) { bout.dialogue with world })) :
    Passage (.within bout) (bout.moments (followed budget))
      (guarded (proceed budget bout.node bout.chosen bout.traversal) bout.dialogue) := by
  have outcome : (Engine.pull (bout.dialogue.shelf.call home) bout.chosen bout.traversal).during
      bout.node.name bout.dialogue.world = bout.outcome := rfl
  rw [guarded, proceed_apply, Bout.moments, takeTurn_apply, outcome]
  cases pulled : bout.outcome with
  | error fault world => exact .failed bout pulled
  | ok answer world =>
    obtain none | ⟨result, traversal⟩ := answer
    · -- Only a traversal that has ended yields nothing.
      obtain ⟨_, nothing⟩ := Act.during_eq_ok (outcome.trans pulled)
      exact absurd (Engine.pull_eq_none _ nothing) ongoing
    · dsimp only
      rw [judge.eq_def]
      dsimp only
      by_cases stop : result = .event (.command stopCommand)
      · rw [if_pos stop, if_pos stop]
        exact .stopped bout (stop ▸ pulled)
      · rw [if_neg stop, if_neg stop]
        by_cases stopping : world.stopping = true
        · rw [if_pos stopping, if_pos stopping]
          exact .broken bout pulled stop stopping
        · rw [if_neg stopping, if_neg stopping]
          have going := eq_false_of_ne_true stopping
          cases result with
          | event event => exact .waiting bout pulled stop going
          | complete next => exact .followed bout pulled going (onward next _)

theorem passage_follow (budget : Nat) (next : Option Text) {dialogue : Dialogue Host}
    (heard : dialogue.Heard) :
    Passage (.towards next dialogue) (followed budget next dialogue)
      (guarded (follow budget next) dialogue) := by
  induction budget generalizing next dialogue with
  | zero =>
    cases next with
    | none =>
      rw [guarded, follow_none 0 heard]
      exact .completed dialogue
    | some name => exact .exhausted name dialogue
  | succ budget ih =>
    cases next with
    | none =>
      rw [guarded, follow_none _ heard]
      exact .completed dialogue
    | some name =>
      rw [guarded, follow_some budget name heard, followed, enter_apply name heard]
      cases found : dialogue.nodes.get? name with
      | none => exact .missing found
      | some node =>
        refine .entered found ?_
        exact passage_bout budget _ (by rintro ⟨⟩) fun next world => ih next (by exact heard)

/-! ### Pulls -/

/-- The point at which a pull of a run goes on, unless the run is over. -/
def point? (run : Run) (dialogue : Dialogue Host) : Option (Point Host) :=
  match run.stage with
  | .unstarted start => some (.towards (some start) dialogue)
  | .inside node traversal =>
    some (.within
      ⟨node, Offer.latest? run.offers, traversal, { dialogue with phase := .running }⟩)
  | .ended => none

/-- The dialogue that an operation leaves, whether or not it fails. -/
def leftBy {Answer : Type} : EStateM.Result Fault (Dialogue Host) Answer → Dialogue Host
  | .ok _ dialogue => dialogue
  | .error _ dialogue => dialogue

/-- What the host gets from a pull. -/
def yieldOf : EStateM.Result Fault (Dialogue Host) Pulled → Except Fault Yield
  | .ok (.event event _ _) _ => .ok (.event event)
  | .ok .ended _ => .ok .ended
  | .ok .unfinished _ => .ok .unfinished
  | .error fault _ => .error fault

end Dialogue

/-- A run behind a pull. -/
def Run.behind (run : Run) : EStateM.Result Fault (Dialogue Host) Pulled → Run
  | .ok (.event event node traversal) _ =>
    ⟨.inside node traversal, Session.offersAfter run.offers event⟩
  | .ok .unfinished _ => run
  | _ => { run with stage := .ended }

namespace Dialogue

theorem pull_eq (budget : Nat) (run : Run) (dialogue : Dialogue Host) :
    pull budget run dialogue =
      let outcome := guarded (resume budget (Offer.latest? run.offers) run.stage) dialogue
      (yieldOf outcome, run.behind outcome, leftBy outcome) := by
  rw [pull]
  cases guarded (resume budget (Offer.latest? run.offers) run.stage) dialogue with
  | error fault dialogue => rfl
  | ok pulled dialogue => cases pulled <;> rfl

/-- A pull of a run that is not over is a passage from where the run stands. -/
theorem pull_passage (budget : Nat) {run : Run} {dialogue : Dialogue Host} {point : Point Host}
    (heard : dialogue.Heard) (ongoing : ∀ node, run.stage ≠ .inside node .ended)
    (stands : point? run dialogue = some point) :
    ∃ outcome, Passage point (moments budget run dialogue) outcome ∧
      pull budget run dialogue = (yieldOf outcome, run.behind outcome, leftBy outcome) := by
  refine ⟨_, ?_, pull_eq budget run dialogue⟩
  obtain ⟨stage, offers⟩ := run
  cases stage with
  | unstarted start =>
    cases stands
    exact passage_follow budget (some start) heard
  | inside node traversal =>
    cases stands
    refine passage_bout budget ⟨node, Offer.latest? offers, traversal, _⟩ ?_ ?_
    · rintro rfl
      exact ongoing node rfl
    · exact fun next world => passage_follow budget next heard
  | ended => cases stands

/-- A pull of a run that is over comes to nothing. -/
theorem pull_spent (budget : Nat) {run : Run} (spent : run.stage = .ended)
    (dialogue : Dialogue Host) : pull budget run dialogue = (.ok .ended, run, dialogue) := by
  obtain ⟨stage, offers⟩ := run
  cases spent
  rfl

end Dialogue

/-! ### What a pull leaves alone -/

/-- Running a body marks no node as visited. -/
theorem Ordinary.visited :
    Ordinary fun before after : World Host => after.visited = before.visited where
  refl _ := rfl
  trans first second := second.trans first
  log _ _ _ := rfl
  write _ _ _ := rfl
  stop _ := rfl

namespace Bout

/-- The world that a bout leaves, whether or not the engine fails. -/
def left (bout : Bout Host) : World Host :=
  ((Engine.pull (bout.dialogue.shelf.call Dialogue.home) bout.chosen bout.traversal).during
    bout.node.name).after bout.dialogue.world

variable {bout : Bout Host} {world : World Host}

theorem left_of_ok {answer : Option (Result × Traversal)}
    (pulled : bout.outcome = .ok answer world) : bout.left = world := by
  rw [outcome] at pulled
  rw [left, Act.after, pulled]

theorem left_of_error {fault : Fault} (pulled : bout.outcome = .error fault world) :
    bout.left = world := by
  rw [outcome] at pulled
  rw [left, Act.after, pulled]

theorem left_eq (bout : Bout Host) :
    bout.left =
      { (Engine.pull (bout.dialogue.shelf.call Dialogue.home) bout.chosen bout.traversal).after
          { bout.dialogue.world with executing := some bout.node.name } with
        executing := bout.dialogue.world.executing } := by
  unfold left Act.after Act.during
  cases Engine.pull (bout.dialogue.shelf.call Dialogue.home) bout.chosen bout.traversal
      { bout.dialogue.world with executing := some bout.node.name } <;> rfl

theorem visited_left (bout : Bout Host) : bout.left.visited = bout.dialogue.world.visited := by
  rw [left_eq]
  exact Engine.keeps_pull Ordinary.visited
    (fun name operands =>
      bout.dialogue.shelf.keeps_call Ordinary.visited Dialogue.home name operands)
    bout.chosen bout.traversal { bout.dialogue.world with executing := some bout.node.name }

/-- What holds of a world and its record through notes, assignments and calls holds behind a bout,
of the world that the bout leaves and of the calls that are made in it. -/
theorem calls_spec (bout : Bout Host) {held : World Host → List (Called Host) → Prop}
    (executes : ∀ (world : World Host) record executing, held world record →
      held { world with executing } record)
    (notes : ∀ world record note, held world record → held (world.note note) record)
    (writes : ∀ (world : World Host) record store, held world record →
      held { world with store } record)
    (calls : ∀ name operands world record, held world record →
      held ((bout.dialogue.shelf.call Dialogue.home name operands).after world)
        (record ++ bout.dialogue.shelf.calls Dialogue.home name operands world))
    (starts : held bout.dialogue.world []) : held bout.left bout.calls := by
  rw [left_eq]
  refine executes _ _ _ ?_
  exact Engine.recorded_spec notes writes calls bout.chosen bout.traversal
    (executes _ _ (some bout.node.name) starts)

theorem told_left (bout : Bout Host) (channel : Channel) (sink : channel ≠ .log) :
    bout.left.told channel = bout.dialogue.world.told channel :=
  told_during_pull channel sink bout.dialogue.shelf bout.node.name bout.chosen bout.traversal
    bout.dialogue.world

end Bout

/-- The dialogue at a point. -/
def Point.dialogue : Point Host → Dialogue Host
  | .towards _ dialogue => dialogue
  | .within bout => bout.dialogue

/-- What no pull changes. -/
structure Dialogue.Undisturbed (before after : Dialogue Host) : Prop where
  nodes : after.nodes = before.nodes
  shelf : after.shelf = before.shelf
  debugSink : after.debugSink = before.debugSink
  errorSink : after.errorSink = before.errorSink

namespace Dialogue

theorem Undisturbed.trans {first second third : Dialogue Host}
    (onward : Undisturbed first second) (further : Undisturbed second third) :
    Undisturbed first third where
  nodes := further.nodes.trans onward.nodes
  shelf := further.shelf.trans onward.shelf
  debugSink := further.debugSink.trans onward.debugSink
  errorSink := further.errorSink.trans onward.errorSink

theorem Undisturbed.heard {before after : Dialogue Host} (undisturbed : Undisturbed before after)
    (heard : before.Heard) : after.Heard :=
  ⟨undisturbed.debugSink.trans heard.1, undisturbed.errorSink.trans heard.2⟩

theorem undisturbed_point {run : Run} {dialogue : Dialogue Host} {point : Point Host}
    (stands : point? run dialogue = some point) : Undisturbed dialogue point.dialogue := by
  obtain ⟨stage, offers⟩ := run
  cases stage with
  | ended => cases stands
  | _ =>
    cases stands
    exact ⟨rfl, rfl, rfl, rfl⟩

theorem world_point {run : Run} {dialogue : Dialogue Host} {point : Point Host}
    (stands : point? run dialogue = some point) : point.dialogue.world = dialogue.world := by
  obtain ⟨stage, offers⟩ := run
  cases stage with
  | ended => cases stands
  | _ =>
    cases stands
    rfl

end Dialogue

/-- Behind a pull a run is inside a node where the pull came to an event. -/
theorem Run.stage_behind {run : Run} {outcome : EStateM.Result Fault (Dialogue Host) Pulled}
    {node : Node} {traversal : Traversal} (finished : Dialogue.yieldOf outcome ≠ .ok .unfinished)
    (inside : (run.behind outcome).stage = .inside node traversal) :
    ∃ event final, outcome = .ok (.event event node traversal) final := by
  cases outcome with
  | error fault final => cases inside
  | ok pulled final =>
    cases pulled with
    | event event node traversal =>
      cases inside
      exact ⟨event, final, rfl⟩
    | ended => cases inside
    | unfinished => exact absurd rfl finished

namespace Passage

open Dialogue

variable {point : Point Host} {moments : List (Moment Host)}
  {outcome : EStateM.Result Fault (Dialogue Host) Pulled}

/-- A pull leaves the nodes, the library and the sinks alone. -/
theorem undisturbed (passage : Passage point moments outcome) :
    Undisturbed point.dialogue (leftBy outcome) := by
  induction passage with
  | entered found onward ih => exact ⟨ih.nodes, ih.shelf, ih.debugSink, ih.errorSink⟩
  | followed bout pulled stopping onward ih =>
    exact ⟨ih.nodes, ih.shelf, ih.debugSink, ih.errorSink⟩
  | _ => exact ⟨rfl, rfl, rfl, rfl⟩

/-- Where a pull comes to an event, what is left of the node stands behind that event. -/
theorem follows (passage : Passage point moments outcome) {event : Event} {node : Node}
    {traversal : Traversal} {final : Dialogue Host}
    (waits : outcome = .ok (.event event node traversal) final) :
    traversal.Follows (.event event) := by
  induction passage with
  | entered found onward ih => exact ih waits
  | waiting bout pulled =>
    cases waits
    obtain ⟨_, yielded⟩ := Act.during_eq_ok pulled
    exact Engine.follows_pull _ yielded
  | followed bout pulled stopping onward ih => exact ih waits
  | _ => cases waits

end Passage

end Parley
