/-
Runs of a dialogue. Pulling an event out of a run takes the body of its node as
far as the next event; where a node ends, the run goes on with the node that it
jumped to. A run that goes round a circle of nodes without ever yielding an
event has no next event; a pull is therefore given a budget of nodes that it may
enter, and says so when it has used it up.
-/

import Parley.Dialogue.Basic

namespace Parley

/-- The place of a run: not begun, in the body of a node, or over. -/
inductive Stage where
  | unstarted (start : Text)
  | inside (node : Node) (traversal : Traversal)
  | ended

/-- A run: its place, and the offers it has made, the earliest first. -/
structure Run where
  stage : Stage
  offers : List Offer := []

/-- What a pull comes to: an event and the place where the run waits, the end of the run, or
neither within the budget. -/
inductive Pulled where
  | event (event : Event) (node : Node) (traversal : Traversal)
  | ended
  | unfinished

/-- What one result of a node means for its run. -/
inductive Turn where
  | event (event : Event) (traversal : Traversal)
  | ended
  | follow (next : Option Text)

namespace Dialogue

variable {Host : Type}

/-- Ends a run. -/
def finish (phase : Phase) : Operation Host Unit := do
  let dialogue ← get
  note (.runFinished phase dialogue.world.current)
  modify fun dialogue => { dialogue with phase }

/-- Starts a run at a node. -/
def run (start : Text) : Operation Host Run := do
  requireSinks .running
  modify fun dialogue =>
    { dialogue with
      phase := .running
      world := { dialogue.world with stopping := false, visited := [], current := some start } }
  note (.runStarted start)
  return { stage := .unstarted start }

/-- Does something of the engine's while the body of a node is marked as running. -/
def executing {Answer : Type} (name : Text) (act : Act Host Answer) : Operation Host Answer :=
  fun dialogue =>
    let outer := dialogue.world.executing
    let leave (world : World Host) : Dialogue Host :=
      { dialogue with world := { world with executing := outer } }
    match act { dialogue.world with executing := some name } with
    | .ok answer world => .ok answer (leave world)
    | .error fault world => .error fault (leave world)

/-- Takes one result of a node. The command `stop` ends the run; any other result that comes after a
failed assertion breaks it off. -/
def takeTurn (node : Node) (chosen : Option Nat) (traversal : Traversal) :
    Operation Host Turn := do
  let dialogue ← get
  let pulled ←
    executing node.name (Engine.pull (dialogue.shelf.call home) chosen traversal)
  match pulled with
  | none => return .ended
  | some (result, traversal) =>
    let dialogue ← get
    if result = .event (.command stopCommand) then
      finish .completed
      return .ended
    else if dialogue.world.stopping then
      finish .aborted
      return .ended
    else
      match result with
      | .complete next =>
        modify (changeWorld (·.visit node.name))
        return .follow next
      | .event event =>
        modify fun dialogue => { dialogue with phase := .suspended }
        return .event event traversal

/-- Enters a node by its name; a name that no node has ends the run. -/
def enter (name : Text) : Operation Host (Option Node) := do
  modify (changeWorld fun world => { world with current := some name })
  tell (.tellRunning name)
  let dialogue ← get
  match dialogue.nodes.get? name with
  | some node => return some node
  | none =>
    tell (.tellMissing name)
    finish .aborted
    return none

/-- Goes on with the next node, entering at most `budget` nodes. -/
def follow : Nat → Option Text → Operation Host Pulled
  | _, none => do
    tell .tellComplete
    finish .completed
    return .ended
  | 0, some _ => return .unfinished
  | budget + 1, some name => do
    match ← enter name with
    | none => return .ended
    | some node =>
      match ← takeTurn node none (.fresh node) with
      | .event event traversal => return .event event node traversal
      | .ended => return .ended
      | .follow next => follow budget next

/-- Goes on from the place of a run. -/
def resume (budget : Nat) (chosen : Option Nat) : Stage → Operation Host Pulled
  | .unstarted start => follow budget (some start)
  | .inside node traversal => do
    modify fun dialogue => { dialogue with phase := .running }
    match ← takeTurn node chosen traversal with
    | .event event traversal => return .event event node traversal
    | .ended => return .ended
    | .follow next => follow budget next
  | .ended => return .ended

/-- Breaks a run off where something fails. -/
def guarded {Answer : Type} (operation : Operation Host Answer) : Operation Host Answer :=
  fun dialogue =>
    match operation dialogue with
    | .ok answer dialogue => .ok answer dialogue
    | .error fault dialogue =>
      match finish .aborted dialogue with
      | .ok _ dialogue => .error fault dialogue
      | .error _ dialogue => .error fault dialogue

/-- What the host gets from a pull. -/
inductive Yield where
  | event (event : Event)
  | ended
  | unfinished
  deriving DecidableEq, Repr

/-- Pulls the next event out of a run. -/
def pull (budget : Nat) (run : Run) (dialogue : Dialogue Host) :
    Except Fault Yield × Run × Dialogue Host :=
  match guarded (resume budget (Offer.latest? run.offers) run.stage) dialogue with
  | .error fault dialogue => (.error fault, { run with stage := .ended }, dialogue)
  | .ok (.event event node traversal) dialogue =>
    (.ok (.event event),
      ⟨.inside node traversal, Session.offersAfter run.offers event⟩, dialogue)
  | .ok .ended dialogue => (.ok .ended, { run with stage := .ended }, dialogue)
  | .ok .unfinished dialogue => (.ok .unfinished, run, dialogue)

/-- Gives a run up. A run that waits at an event is then complete; one that was not begun, or is
over, leaves the dialogue as it is. -/
def close (run : Run) (dialogue : Dialogue Host) : Run × Dialogue Host :=
  let closed : Run := { run with stage := .ended }
  match run.stage with
  | .inside _ _ =>
    match finish .completed dialogue with
    | .ok _ dialogue => (closed, dialogue)
    | .error _ dialogue => (closed, dialogue)
  | _ => (closed, dialogue)

end Dialogue

/-- Answers one of the offers of a run. -/
def Run.choose (run : Run) (place : Nat) (index : Literal) : Except Fault Run := do
  let offers ← Offer.chooseIn run.offers place index
  return { run with offers }

end Parley
