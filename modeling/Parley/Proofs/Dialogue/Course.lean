/-
This file says what a host sees of a run: the yield of each of its pulls, with
the dialogue as the pull leaves it. Between two pulls the host reacts as it does
to a session; the nodes, the library and the sinks stay as they are. A pull that
has used up its budget has no successor here, since the run has not come to a
place where it waits.

A run is its stage and its offers. The offers matter only through the answer to
the latest of them, and the stage only through the operation that goes on from
it, so a course is determined by what that operation comes to.
-/

import Parley.Proofs.Dialogue.Steps
import Parley.Proofs.Engine.Course

namespace Parley

variable {Host : Type}

/-! ### Answers -/

namespace Run

/-- Answers the latest offer; an answer that is refused changes nothing. -/
def respond (run : Run) : Option Nat → Run
  | none => run
  | some index =>
    match run.choose (run.offers.length - 1) (.int index) with
    | .ok answered => answered
    | .error _ => run

theorem respond_eq (run : Run) (answer : Option Nat) :
    run.respond answer = { run with offers := Offer.answered run.offers answer } := by
  cases answer with
  | none => rfl
  | some index =>
    simp only [respond, choose, Offer.answered]
    cases Offer.chooseIn run.offers (run.offers.length - 1) (.int index) <;> rfl

end Run

namespace Dialogue

/-! ### Courses of runs -/

/-- What a host gets from a pull, and the dialogue that the pull leaves. -/
abbrev Sight (Host : Type) := Except Fault Yield × Dialogue Host

/-- The pulls after the end of a run, one for each reaction. -/
def afterwards : List (Reaction Host) → Dialogue Host → List (Sight Host)
  | [], _ => []
  | reaction :: rest, dialogue =>
    (.ok .ended, dialogue.changeWorld reaction.apply) ::
      afterwards rest (dialogue.changeWorld reaction.apply)

/-- A first pull and one more after each reaction. -/
def course (budget : Nat) :
    List (Reaction Host) → Run → Dialogue Host → List (Sight Host)
  | [], run, dialogue =>
    let (yield, _, dialogue) := pull budget run dialogue
    [(yield, dialogue)]
  | reaction :: rest, run, dialogue =>
    let (yield, run, dialogue) := pull budget run dialogue
    (yield, dialogue) ::
      match yield with
      | .ok .unfinished => []
      | _ => course budget rest (run.respond reaction.answer) (dialogue.changeWorld reaction.apply)

/-- A course of which the first pull is a matter of what going on from a stage came to. -/
def courseAfter (budget : Nat) (offers : List Offer) (reactions : List (Reaction Host)) :
    EStateM.Result Fault (Dialogue Host) Pulled → List (Sight Host)
  | .error fault dialogue =>
    (.error fault, dialogue.ended .aborted) :: afterwards reactions (dialogue.ended .aborted)
  | .ok .ended dialogue => (.ok .ended, dialogue) :: afterwards reactions dialogue
  | .ok .unfinished dialogue => [(.ok .unfinished, dialogue)]
  | .ok (.event event node traversal) dialogue =>
    (.ok (.event event), dialogue) ::
      match reactions with
      | [] => []
      | reaction :: rest =>
        course budget rest
          (Run.respond ⟨.inside node traversal, Session.offersAfter offers event⟩
            reaction.answer)
          (dialogue.changeWorld reaction.apply)

theorem course_ended (budget : Nat) (reactions : List (Reaction Host)) (run : Run)
    (dialogue : Dialogue Host) (ended : run.stage = .ended) :
    course budget reactions run dialogue =
      (.ok .ended, dialogue) :: afterwards reactions dialogue := by
  obtain ⟨stage, offers⟩ := run
  obtain rfl : stage = .ended := ended
  induction reactions generalizing offers dialogue with
  | nil => rfl
  | cons reaction rest ih =>
    have step : course budget (reaction :: rest) ⟨.ended, offers⟩ dialogue =
        (.ok .ended, dialogue) ::
          course budget rest (Run.respond ⟨.ended, offers⟩ reaction.answer)
            (dialogue.changeWorld reaction.apply) := rfl
    rw [step, Run.respond_eq, ih]
    rfl

/-- A course begins with what going on from the stage of its run comes to. -/
theorem course_eq (budget : Nat) (reactions : List (Reaction Host)) (run : Run)
    (dialogue : Dialogue Host) :
    course budget reactions run dialogue =
      courseAfter budget run.offers reactions
        (resume budget (Offer.latest? run.offers) run.stage dialogue) := by
  have idle (run : Run) (ended : run.stage = .ended) (reaction : Reaction Host)
      (rest : List (Reaction Host)) (dialogue : Dialogue Host) :
      course budget rest (run.respond reaction.answer) (dialogue.changeWorld reaction.apply) =
        afterwards (reaction :: rest) dialogue := by
    rw [course_ended budget rest _ _ (by rw [Run.respond_eq]; exact ended)]
    rfl
  cases reactions with
  | nil =>
    rw [course, pull, guarded]
    cases resume budget (Offer.latest? run.offers) run.stage dialogue with
    | error fault dialogue => rfl
    | ok pulled dialogue => cases pulled <;> rfl
  | cons reaction rest =>
    rw [course, pull, guarded]
    cases resume budget (Offer.latest? run.offers) run.stage dialogue with
    | error fault dialogue =>
      exact congrArg (List.cons _) (idle { run with stage := .ended } rfl reaction rest _)
    | ok pulled dialogue =>
      cases pulled with
      | event event node traversal => rfl
      | ended =>
        exact congrArg (List.cons _) (idle { run with stage := .ended } rfl reaction rest _)
      | unfinished => rfl

/-! ### Going on inside a node -/

/-- Takes one result of a node, and goes on with the next node where the node is complete. -/
def proceed (budget : Nat) (node : Node) (chosen : Option Nat) (traversal : Traversal) :
    Operation Host Pulled := do
  match ← takeTurn node chosen traversal with
  | .event event traversal => return .event event node traversal
  | .ended => return .ended
  | .follow next => follow budget next

theorem resume_inside (budget : Nat) (chosen : Option Nat) (node : Node) (traversal : Traversal)
    (dialogue : Dialogue Host) :
    resume budget chosen (.inside node traversal) dialogue =
      proceed budget node chosen traversal { dialogue with phase := .running } := rfl

/-- Behind an event the run goes on with the answer to the offer that it made, if it made one. -/
theorem proceed_answered (budget : Nat) (node : Node) (offers : List Offer) {event : Event}
    {traversal : Traversal} (follows : traversal.Follows (.event event)) (answer : Option Nat) :
    (proceed budget node
        (Offer.latest? (Offer.answered (Session.offersAfter offers event) answer)) traversal :
      Operation Host Pulled) = proceed budget node answer traversal := by
  unfold proceed takeTurn
  simp only [Engine.pull_answered _ offers follows answer]

/-- A run that has no next node is complete, if there is a debug sink to hear of it. -/
theorem follow_none_eq (budget : Nat) (dialogue : Dialogue Host) :
    follow budget none dialogue =
      if dialogue.debugSink then
        .ok .ended ((dialogue.changeWorld (·.note .tellComplete)).ended .completed)
      else .error .sinkGone dialogue := by
  have complete : Note.tellComplete.channel ≠ .errorSink := nofun
  rw [follow, bind_apply, tell_eq, if_neg complete]
  cases dialogue.debugSink <;> rfl

theorem follow_none (budget : Nat) {dialogue : Dialogue Host} (heard : dialogue.Heard) :
    follow budget none dialogue =
      .ok .ended ((dialogue.changeWorld (·.note .tellComplete)).ended .completed) := by
  rw [follow_none_eq, heard.1, if_pos rfl]

theorem follow_some (budget : Nat) (name : Text) {dialogue : Dialogue Host}
    (heard : dialogue.Heard) :
    follow (budget + 1) (some name) dialogue =
      match dialogue.nodes.get? name with
      | some node =>
        proceed budget node none (.fresh node) (dialogue.changeWorld (·.reach name))
      | none =>
        .ok .ended ((dialogue.changeWorld fun world =>
          (world.reach name).note (.tellMissing name)).ended .aborted) := by
  rw [follow, bind_apply, enter_apply name heard]
  cases dialogue.nodes.get? name <;> rfl

theorem proceed_apply (budget : Nat) (node : Node) (chosen : Option Nat) (traversal : Traversal)
    (dialogue : Dialogue Host) :
    proceed budget node chosen traversal dialogue =
      match (Engine.pull (dialogue.shelf.call home) chosen traversal).during node.name
        dialogue.world with
      | .error fault world => .error fault { dialogue with world }
      | .ok none world => .ok .ended { dialogue with world }
      | .ok (some (result, traversal)) world =>
        if result = .event (.command stopCommand) then
          .ok .ended (ended .completed { dialogue with world })
        else if world.stopping then .ok .ended (ended .aborted { dialogue with world })
        else
          match result with
          | .complete next =>
            follow budget next { dialogue with world := world.visit node.name }
          | .event event =>
            .ok (.event event node traversal) { dialogue with world, phase := .suspended } := by
  rw [proceed, bind_apply, takeTurn_apply]
  cases (Engine.pull (dialogue.shelf.call home) chosen traversal).during node.name
      dialogue.world with
  | error fault world => rfl
  | ok pulled world =>
    match pulled with
    | none => rfl
    | some (result, traversal) =>
      simp only [judge]
      by_cases stop : result = .event (.command stopCommand)
      · rw [if_pos stop, if_pos stop]
        rfl
      · rw [if_neg stop, if_neg stop]
        by_cases stopping : world.stopping = true
        · rw [if_pos stopping, if_pos stopping]
          rfl
        · rw [if_neg stopping, if_neg stopping]
          cases result <;> rfl

/-! ### Where a run waits -/

theorem follows_takeTurn {node : Node} {chosen : Option Nat} {before left : Traversal}
    {dialogue after : Dialogue Host} {event : Event}
    (done : takeTurn node chosen before dialogue = .ok (.event event left) after) :
    left.Follows (.event event) := by
  rw [takeTurn_apply] at done
  split at done
  · cases done
  · cases done
  · next result traversal world pulled =>
    obtain ⟨_, yielded⟩ := Act.during_eq_ok pulled
    have follows := Engine.follows_pull _ yielded
    unfold judge at done
    split at done
    · cases done
    · split at done
      · cases done
      · cases result with
        | complete next => cases done
        | event shown =>
          cases done
          exact follows

theorem follows_proceed {budget : Nat} {node waits : Node} {chosen : Option Nat}
    {before left : Traversal} {dialogue after : Dialogue Host} {event : Event}
    (onward : ∀ {next between}, follow budget next between = .ok (.event event waits left) after →
      left.Follows (.event event))
    (done : proceed budget node chosen before dialogue = .ok (.event event waits left) after) :
    left.Follows (.event event) := by
  obtain ⟨turn, between, turned, done⟩ := bind_eq_ok done
  cases turn with
  | event shown traversal =>
    cases done
    exact follows_takeTurn turned
  | ended => cases done
  | follow next => exact onward done

theorem follows_follow {budget : Nat} {next : Option Text} {waits : Node} {left : Traversal}
    {dialogue after : Dialogue Host} {event : Event}
    (done : follow budget next dialogue = .ok (.event event waits left) after) :
    left.Follows (.event event) := by
  induction budget generalizing next dialogue with
  | zero =>
    cases next with
    | none =>
      obtain ⟨_, _, -, done⟩ := bind_eq_ok done
      cases done
    | some name => cases done
  | succ budget ih =>
    cases next with
    | none =>
      obtain ⟨_, _, -, done⟩ := bind_eq_ok done
      cases done
    | some name =>
      obtain ⟨found, between, -, done⟩ := bind_eq_ok done
      cases found with
      | none => cases done
      | some node => exact follows_proceed ih done

/-- Behind an event a run waits in a node, where the event has left it. -/
theorem pull_eq_event {budget : Nat} {earlier run : Run} {dialogue after : Dialogue Host}
    {event : Event} (pulled : pull budget earlier dialogue = (.ok (.event event), run, after)) :
    ∃ node traversal, run = ⟨.inside node traversal, Session.offersAfter earlier.offers event⟩ ∧
      traversal.Follows (.event event) := by
  obtain ⟨stage, offers⟩ := earlier
  unfold pull guarded at pulled
  cases resumed : resume budget (Offer.latest? offers) stage dialogue with
  | error fault failed =>
    rw [resumed] at pulled
    cases pulled
  | ok outcome between =>
    rw [resumed] at pulled
    cases outcome with
    | ended => cases pulled
    | unfinished => cases pulled
    | event shown node traversal =>
      cases pulled
      refine ⟨node, traversal, rfl, ?_⟩
      cases stage with
      | unstarted start => exact follows_follow resumed
      | inside waits before => exact follows_proceed follows_follow resumed
      | ended => cases resumed

end Dialogue

end Parley
