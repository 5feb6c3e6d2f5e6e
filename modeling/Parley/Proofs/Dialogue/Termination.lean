/-
This file settles that runs end where the jumps go round in no circle. A run goes from
node to node along jumps, so the nodes that it enters make a route, whatever the host does
and whatever the functions answer. If no name that can be reached leads back to itself, the
route is not longer than the table; so a pull that may enter more nodes than there are never
runs out of them, and comes to the same however many more it may enter.

Each event takes one statement from the body that the run is in, and no statement comes
back before the body is entered again. Along a route the events are therefore no more
than the statements in its nodes that yield one.
-/

import Parley.Proofs.Dialogue.Visited
import Parley.Proofs.Engine.Routes

namespace Parley

variable {Host : Type}

/-! ### How far a run has come -/

namespace Stage

/-- Where a run goes that has a next name or none: it stands as if it were to begin at the name, or
is over. -/
def towards : Option Text → Stage
  | none => ended
  | some name => unstarted name

/-- The number of statements that yield an event in what is left of the node that a run is in. -/
def yieldCount : Stage → Nat
  | inside _ traversal => traversal.yieldCount
  | _ => 0

/-- A run that has come along a route can stand at a stage: in the last node of the route, or where
the next node makes the route longer. -/
def Ends (table : NodeTable) (start : Text) (route : List Node) : Stage → Prop
  | unstarted name => ∀ node, table.get? name = some node → table.Route start (route ++ [node])
  | inside node traversal => route.getLast? = some node ∧
    traversal.parts.Sublist (Statement.blockParts node.body)
  | ended => True

end Stage

/-- A run has come along a route and has handed out so many events. These and the ones that are
still to come in the node that it is in take different statements of the nodes of the route. -/
structure NodeTable.Trail (table : NodeTable) (start : Text) (route : List Node) (shown : Nat)
    (stage : Stage) : Prop where
  along : table.Route start route
  ends : stage.Ends table start route
  shown : shown + stage.yieldCount ≤ yieldsIn route

namespace NodeTable

variable {table : NodeTable} {start : Text} {route : List Node} {shown : Nat}

theorem trail_start (table : NodeTable) (start : Text) :
    table.Trail start [] 0 (.unstarted start) where
  along := ⟨nofun, nofun, .nil⟩
  ends node found := by
    have name := name_of_get? found
    refine ⟨?_, ?_, .singleton node⟩
    · rintro _ ⟨⟩
      exact name
    · intro other member
      obtain rfl := List.mem_singleton.1 member
      rwa [name]
  shown := Nat.le_refl _

namespace Trail

theorem concluded {stage : Stage} (trail : table.Trail start route shown stage) :
    table.Trail start route shown .ended :=
  ⟨trail.along, trivial, Nat.le_trans (Nat.le_add_right _ _) trail.shown⟩

/-- The run is over where nothing more is entered. -/
theorem halted {stage : Stage} (trail : table.Trail start route shown stage) :
    table.Trail start (route ++ []) shown .ended := by
  rw [List.append_nil]
  exact trail.concluded

/-- A node that is entered brings in all its statements. -/
theorem enter {name : Text} {node : Node}
    (trail : table.Trail start route shown (.unstarted name))
    (found : table.get? name = some node) :
    table.Trail start (route ++ [node]) shown (.inside node (.fresh node)) where
  along := trail.ends node found
  ends := ⟨List.getLast?_concat, .refl _⟩
  shown := by
    rw [yieldsIn_append]
    exact Nat.add_le_add trail.shown (Nat.le_refl _)

/-- An event takes one statement, and what is left stands in the same node. -/
theorem event {node : Node} {before after : Traversal} {event : Event}
    (trail : table.Trail start route shown (.inside node before))
    (takes : (Result.event event).Takes before.parts after.parts) :
    table.Trail start route (shown + 1) (.inside node after) where
  along := trail.along
  ends := by
    obtain ⟨last, among⟩ := trail.ends
    obtain ⟨statement, -, behind⟩ := takes
    exact ⟨last, ((List.sublist_cons_self _ _).trans behind).trans among⟩
  shown := by
    have fewer : after.yieldCount + 1 ≤ before.yieldCount := takes.yieldCount
    have shown : shown + before.yieldCount ≤ yieldsIn route := trail.shown
    have left : (Stage.inside node after).yieldCount = after.yieldCount := rfl
    omega

/-- A node that is complete names the target of one of its jumps, and so the route goes on. -/
theorem complete {node : Node} {before : Traversal} {next : Option Text}
    (trail : table.Trail start route shown (.inside node before))
    (takes : ∀ target, next = some target → .jump target ∈ before.parts) :
    table.Trail start route shown (.towards next) := by
  cases next with
  | none => exact trail.concluded
  | some target =>
    refine ⟨trail.along, fun following found => ?_, trail.concluded.shown⟩
    obtain ⟨last, among⟩ := trail.ends
    have jumps : .jump target ∈ Statement.blockParts node.body :=
      among.subset (takes target rfl)
    have name := name_of_get? found
    have there : table.get? node.name = some node :=
      trail.along.present node (List.mem_of_getLast? last)
    exact trail.along.concat last (by rwa [name]) ⟨node, there, by rwa [name]⟩

end Trail

end NodeTable

/-! ### What a pull enters -/

/-- What a turn means for what is left of its node. -/
def Turn.Takes (before : Traversal) : Turn → Prop
  | .event happening after =>
    (Result.event happening).Takes before.parts after.parts ∧ after.Follows (.event happening)
  | .follow next => ∀ target, next = some target → .jump target ∈ before.parts
  | .ended => True

theorem entered_cons (moment : Moment Host) (moments : List (Moment Host)) :
    entered (moment :: moments) = moment.entered?.toList ++ entered moments := by
  rw [entered, List.filterMap_cons]
  cases moment.entered? <;> rfl

namespace Dialogue

/-- A node that is entered is the one of the name, whether or not the sinks are there. -/
theorem enter_eq_ok {name : Text} {dialogue after : Dialogue Host} {node : Node}
    (done : enter name dialogue = .ok (some node) after) :
    dialogue.nodes.get? name = some node ∧ after.nodes = dialogue.nodes := by
  rw [enter_eq] at done
  split at done
  · split at done
    · next found =>
      cases done
      exact ⟨found, rfl⟩
    · split at done
      · cases done
      · cases done
  · cases done

theorem takeTurn_eq_ok {node : Node} {chosen : Option Nat} {traversal : Traversal}
    {dialogue after : Dialogue Host} {turn : Turn}
    (done : takeTurn node chosen traversal dialogue = .ok turn after) :
    after.nodes = dialogue.nodes ∧ turn.Takes traversal := by
  rw [takeTurn_apply] at done
  cases pulled : (Engine.pull (dialogue.shelf.call home) chosen traversal).during node.name
      dialogue.world with
  | error fault world =>
    rw [pulled] at done
    cases done
  | ok answer world =>
    rw [pulled] at done
    obtain ⟨between, made⟩ := Act.during_eq_ok pulled
    match answer with
    | none =>
      cases done
      exact ⟨rfl, trivial⟩
    | some (result, onward) =>
      have takes := Engine.takes_pull _ made
      have follows := Engine.follows_pull _ made
      cases done
      rw [judge.eq_def]
      split
      · exact ⟨rfl, trivial⟩
      · split
        · exact ⟨rfl, trivial⟩
        · cases result with
          | event happening => exact ⟨rfl, takes, follows⟩
          | complete next => exact ⟨rfl, takes⟩

end Dialogue

/-- What going on comes to that enters some more nodes along a route: the run waits behind them or
is over, or they are as many as the budget allows. -/
inductive Leg (table : NodeTable) (start : Text) (route : List Node) (shown budget : Nat)
    (more : List Node) : EStateM.Result Fault (Dialogue Host) Pulled → Prop
  | event {happening node traversal final} (nodes : final.nodes = table)
    (follows : traversal.Follows (.event happening))
    (trail : table.Trail start (route ++ more) (shown + 1) (.inside node traversal)) :
    Leg table start route shown budget more (.ok (.event happening node traversal) final)
  | ended {final} (trail : table.Trail start (route ++ more) shown .ended) :
    Leg table start route shown budget more (.ok .ended final)
  | failed {fault final} (trail : table.Trail start (route ++ more) shown .ended) :
    Leg table start route shown budget more (.error fault final)
  | unfinished {final} (along : table.Route start (route ++ more)) (spent : more.length = budget) :
    Leg table start route shown budget more (.ok .unfinished final)

namespace Leg

variable {table : NodeTable} {start : Text} {route more : List Node} {shown budget : Nat}
  {outcome : EStateM.Result Fault (Dialogue Host) Pulled}

theorem enter {node : Node}
    (leg : Leg table start (route ++ [node]) shown budget more outcome) :
    Leg table start route shown (budget + 1) (node :: more) outcome := by
  have same : route ++ [node] ++ more = route ++ node :: more := (List.append_cons _ _ _).symm
  cases leg with
  | event nodes follows trail => exact .event nodes follows (same ▸ trail)
  | ended trail => exact .ended (same ▸ trail)
  | failed trail => exact .failed (same ▸ trail)
  | unfinished along spent => exact .unfinished (same ▸ along) (congrArg (· + 1) spent)

/-- Where nothing more is entered and nothing is handed out the run is over. -/
theorem quit {stage : Stage} (trail : table.Trail start route shown stage) {phase : Phase}
    {message : Note} (dialogue : Dialogue Host) :
    Leg table start route shown budget []
      ((do Dialogue.tell message; Dialogue.finish phase; return .ended :
        Operation Host Pulled) dialogue) := by
  rw [bind_apply]
  cases Dialogue.tell message dialogue with
  | error fault after => exact .failed trail.halted
  | ok told after => exact .ended trail.halted

theorem guarded {operation : Operation Host Pulled} {dialogue : Dialogue Host}
    (leg : Leg table start route shown budget more (operation dialogue)) :
    Leg table start route shown budget more (Dialogue.guarded operation dialogue) := by
  rw [Dialogue.guarded]
  generalize operation dialogue = outcome at leg ⊢
  cases leg with
  | event nodes follows trail => exact .event nodes follows trail
  | ended trail => exact .ended trail
  | failed trail => exact .failed trail
  | unfinished along spent => exact .unfinished along spent

end Leg

namespace Dialogue

variable {table : NodeTable} {start : Text} {route : List Node} {shown : Nat}

/-- Going on inside a node enters what going on behind it enters. -/
theorem leg_proceed (budget : Nat)
    (onward : ∀ next {after : Dialogue Host}, after.nodes = table →
      table.Trail start route shown (.towards next) →
      ∃ more, entered (followed budget next after) = more.map Node.name ∧
        Leg table start route shown budget more (follow budget next after))
    {node : Node} {traversal : Traversal}
    (trail : table.Trail start route shown (.inside node traversal)) (chosen : Option Nat)
    (dialogue : Dialogue Host) (nodes : dialogue.nodes = table) :
    ∃ more, entered (Bout.moments (followed budget) ⟨node, chosen, traversal, dialogue⟩) =
        (Moment.bout ⟨node, chosen, traversal, dialogue⟩).entered?.toList ++
          more.map Node.name ∧
      Leg table start route shown budget more
        (proceed budget node chosen traversal dialogue) := by
  rw [Bout.moments, entered_cons, proceed, bind_apply]
  dsimp only
  cases turned : takeTurn node chosen traversal dialogue with
  | error fault after => exact ⟨[], rfl, .failed trail.halted⟩
  | ok turn after =>
    obtain ⟨kept, takes⟩ := takeTurn_eq_ok turned
    cases turn with
    | event happening left =>
      refine ⟨[], rfl, .event (kept.trans nodes) takes.2 ?_⟩
      rw [List.append_nil]
      exact trail.event takes.1
    | ended => exact ⟨[], rfl, .ended trail.halted⟩
    | follow next =>
      obtain ⟨more, same, leg⟩ := onward next (kept.trans nodes) (trail.complete takes)
      exact ⟨more, congrArg _ same, leg⟩

/-- Going on with the next node enters nodes along the route, and each of them spends a part of the
budget. -/
theorem leg_follow (budget : Nat) (next : Option Text) {dialogue : Dialogue Host}
    (nodes : dialogue.nodes = table) (trail : table.Trail start route shown (.towards next)) :
    ∃ more, entered (followed budget next dialogue) = more.map Node.name ∧
      Leg table start route shown budget more (follow budget next dialogue) := by
  induction budget generalizing route next dialogue with
  | zero =>
    cases next with
    | none => exact ⟨[], rfl, .quit trail dialogue⟩
    | some name =>
      refine ⟨[], rfl, .unfinished ?_ rfl⟩
      rw [List.append_nil]
      exact trail.along
  | succ budget ih =>
    cases next with
    | none => exact ⟨[], rfl, .quit trail dialogue⟩
    | some name =>
      rw [followed, follow, bind_apply]
      cases came : enter name dialogue with
      | error fault after => exact ⟨[], rfl, .failed trail.halted⟩
      | ok found after =>
        cases found with
        | none => exact ⟨[], rfl, .ended trail.halted⟩
        | some node =>
          obtain ⟨found, kept⟩ := enter_eq_ok came
          rw [nodes] at found
          obtain ⟨more, same, leg⟩ :=
            leg_proceed budget ih (trail.enter found) none after (kept.trans nodes)
          exact ⟨node :: more, same, leg.enter⟩

end Dialogue

/-! ### Larger budgets -/

namespace Dialogue

theorem proceed_larger {budget larger : Nat}
    (onward : ∀ {next} {after : Dialogue Host},
      (∀ final, follow budget next after ≠ .ok .unfinished final) →
      follow larger next after = follow budget next after)
    {node : Node} {chosen : Option Nat} {traversal : Traversal} {dialogue : Dialogue Host}
    (finished : ∀ final, proceed budget node chosen traversal dialogue ≠ .ok .unfinished final) :
    proceed larger node chosen traversal dialogue =
      proceed budget node chosen traversal dialogue := by
  rw [proceed, bind_apply] at finished
  rw [proceed, proceed, bind_apply, bind_apply]
  cases turned : takeTurn node chosen traversal dialogue with
  | error fault after => rfl
  | ok turn after =>
    rw [turned] at finished
    cases turn with
    | follow next => exact onward finished
    | _ => rfl

theorem follow_larger {budget larger : Nat} (more : budget ≤ larger) {next : Option Text}
    {dialogue : Dialogue Host}
    (finished : ∀ final, follow budget next dialogue ≠ .ok .unfinished final) :
    follow larger next dialogue = follow budget next dialogue := by
  induction budget generalizing larger next dialogue with
  | zero =>
    cases next with
    | none => cases larger <;> rfl
    | some name => exact absurd rfl (finished dialogue)
  | succ budget ih =>
    obtain ⟨larger, rfl⟩ := Nat.exists_eq_succ_of_ne_zero (Nat.ne_zero_of_lt more)
    cases next with
    | none => rfl
    | some name =>
      rw [follow, bind_apply] at finished
      rw [follow, follow, bind_apply, bind_apply]
      cases came : enter name dialogue with
      | error fault after => rfl
      | ok found after =>
        rw [came] at finished
        cases found with
        | none => rfl
        | some node => exact proceed_larger (ih (Nat.le_of_succ_le_succ more)) finished

/-- A pull that returns within a budget does the same within any larger one. -/
theorem pull_larger {budget larger : Nat} (more : budget ≤ larger) {run : Run}
    {dialogue : Dialogue Host} (finished : (pull budget run dialogue).1 ≠ .ok .unfinished) :
    pull larger run dialogue = pull budget run dialogue := by
  have resumed : ∀ final, resume budget (Offer.latest? run.offers) run.stage dialogue ≠
      .ok .unfinished final := by
    intro final unfinished
    rw [pull, guarded, unfinished] at finished
    exact finished rfl
  have same : resume larger (Offer.latest? run.offers) run.stage dialogue =
      resume budget (Offer.latest? run.offers) run.stage dialogue := by
    cases stage : run.stage with
    | unstarted start =>
      rw [stage] at resumed
      exact follow_larger more resumed
    | inside node traversal =>
      rw [stage] at resumed
      exact proceed_larger (follow_larger more) resumed
    | ended => rfl
  rw [pull, pull, guarded, guarded, same]

end Dialogue

/-! ### Moves of a host -/

/-- Tells whether a deed loads nodes. -/
def Deed.loads : Deed Host → Bool
  | loadNodes _ _ | loadScript _ _ => true
  | _ => false

theorem Deed.nodes_after {deed : Deed Host} (loadless : deed.loads = false)
    (dialogue : Dialogue Host) : (deed.after dialogue).2.nodes = dialogue.nodes := by
  cases deed with
  | loadNodes nodes strict => cases loadless
  | loadScript script strict => cases loadless
  | register name arity implementation =>
    rw [after, carryOut, Dialogue.register, bind_apply, Dialogue.get_apply]
    dsimp only
    cases dialogue.library.register name arity implementation with
    | error fault => rfl
    | ok library => rfl
  | _ => rfl

/-- The event that a pull yields. -/
def Dialogue.Yield.event? : Except Fault Dialogue.Yield → Option Event
  | .ok (.event happening) => some happening
  | _ => none

/-- A run that is given up is over. -/
theorem Dialogue.stage_close (run : Run) (dialogue : Dialogue Host) :
    (close run dialogue).1.stage = .ended := by
  rw [close.eq_def]
  cases run.stage <;> rfl

namespace Move

/-- A move loads nothing, and if it is a pull it may enter more nodes than there are. -/
def Steady (size : Nat) : Move Host → Prop
  | other deed => deed.loads = false
  | pull budget => size < budget
  | _ => True

/-- The names of the nodes that a move enters. -/
def enters (run : Run) (dialogue : Dialogue Host) : Move Host → List Text
  | pull budget => entered (Dialogue.moments budget run dialogue)
  | _ => []

/-- The names of the nodes that the moves enter, in order and with repetitions. -/
def entries : List (Move Host) → Run → Dialogue Host → List Text
  | [], _, _ => []
  | move :: rest, run, dialogue =>
    move.enters run dialogue ++ entries rest (move.after run dialogue).1 (move.after run dialogue).2

/-- The events that the pulls among the moves hand out. -/
def events (moves : List (Move Host)) (run : Run) (dialogue : Dialogue Host) : List Event :=
  (yields moves run dialogue).filterMap Dialogue.Yield.event?

/-- The run and the dialogue after the moves. -/
def behind : List (Move Host) → Run → Dialogue Host → Run × Dialogue Host
  | [], run, dialogue => (run, dialogue)
  | move :: rest, run, dialogue =>
    behind rest (move.after run dialogue).1 (move.after run dialogue).2

/-- A run that is over stays so. -/
theorem ended_after {run : Run} (ended : run.stage = .ended) (move : Move Host)
    (dialogue : Dialogue Host) : (move.after run dialogue).1.stage = .ended := by
  cases move with
  | other deed => exact ended
  | choose place index =>
    rw [after]
    cases chose : run.choose place index with
    | error fault => exact ended
    | ok answered => exact (Run.stage_choose chose).trans ended
  | pull budget =>
    rw [after, Dialogue.pull_spent budget ended]
    exact ended
  | close => exact Dialogue.stage_close run dialogue

theorem ended_behind {run : Run} (ended : run.stage = .ended) (moves : List (Move Host))
    (dialogue : Dialogue Host) : (behind moves run dialogue).1.stage = .ended := by
  induction moves generalizing run dialogue with
  | nil => exact ended
  | cons move rest ih => exact ih (move.ended_after ended dialogue) _

/-- Where a run goes on behind a move, the move has handed out an event if it is a pull. -/
theorem length_event_after {run : Run} {dialogue : Dialogue Host} {move : Move Host}
    (finished : move.yield? run dialogue ≠ some (.ok .unfinished))
    (goesOn : (move.after run dialogue).1.stage ≠ .ended) :
    ((move.yield? run dialogue).toList.filterMap Dialogue.Yield.event?).length =
      (move.yield? run dialogue).toList.length := by
  cases move with
  | pull budget =>
    rw [yield?, Dialogue.pull_eq] at finished ⊢
    rw [after, Dialogue.pull_eq] at goesOn
    dsimp only at finished goesOn ⊢
    generalize Dialogue.guarded
      (Dialogue.resume budget (Offer.latest? run.offers) run.stage) dialogue = outcome
      at finished goesOn ⊢
    cases outcome with
    | error fault left => exact absurd rfl goesOn
    | ok pulled left =>
      cases pulled with
      | event happening node traversal => rfl
      | ended => exact absurd rfl goesOn
      | unfinished => exact absurd rfl finished
  | _ => rfl

/-- Where a run goes on behind the moves, each pull has handed out an event. -/
theorem length_events {moves : List (Move Host)} {run : Run} {dialogue : Dialogue Host}
    (finished : .ok .unfinished ∉ yields moves run dialogue)
    (goesOn : (behind moves run dialogue).1.stage ≠ .ended) :
    (events moves run dialogue).length = (yields moves run dialogue).length := by
  induction moves generalizing run dialogue with
  | nil => rfl
  | cons move rest ih =>
    obtain ⟨here, later⟩ := not_or.1 (fun either => finished (List.mem_append.2 either))
    have first := length_event_after (fun same => here (Option.mem_toList.2 same))
      (fun ended => goesOn (ended_behind ended rest _))
    rw [events, yields, List.filterMap_append, List.length_append, List.length_append, first]
    exact congrArg _ (ih later goesOn)

end Move

/-- A run has a trail behind it, and its dialogue has the table as long as the run goes on. -/
structure Run.Trails (table : NodeTable) (start : Text) (route : List Node) (shown : Nat)
    (run : Run) (dialogue : Dialogue Host) : Prop where
  trail : table.Trail start route shown run.stage
  nodes : run.stage ≠ .ended → dialogue.nodes = table
  /-- What is left of a node that the run waits in was begun before. -/
  resumed : ∀ node fresh, run.stage ≠ .inside node (.fresh fresh)

/-- What a move does to a run with a trail, if it comes back. -/
structure Move.Advances (table : NodeTable) (start : Text) (route : List Node) (shown : Nat)
    (run : Run) (dialogue : Dialogue Host) (move : Move Host) (more : List Node) : Prop where
  enters : move.enters run dialogue = more.map Node.name
  finished : move.yield? run dialogue ≠ some (.ok .unfinished)
  trails : (move.after run dialogue).1.Trails table start (route ++ more)
    (shown + ((move.yield? run dialogue).toList.filterMap Dialogue.Yield.event?).length)
    (move.after run dialogue).2

namespace Run.Trails

variable {table : NodeTable} {start : Text} {route : List Node} {shown : Nat} {run : Run}
  {dialogue : Dialogue Host}

theorem ended {run : Run} (ended : run.stage = .ended) {stage : Stage}
    (trail : table.Trail start route shown stage) (dialogue : Dialogue Host) :
    run.Trails table start route shown dialogue where
  trail := by
    rw [ended]
    exact trail.concluded
  nodes goesOn := absurd ended goesOn
  resumed node fresh := by
    rw [ended]
    exact nofun

/-- A pull enters nodes along the route. -/
theorem leg (trails : run.Trails table start route shown dialogue) (budget : Nat) :
    ∃ more, entered (Dialogue.moments budget run dialogue) = more.map Node.name ∧
      Leg table start route shown budget more (Dialogue.guarded
        (Dialogue.resume budget (Offer.latest? run.offers) run.stage) dialogue) := by
  obtain ⟨trail, nodes, resumed⟩ := trails
  rw [Dialogue.moments]
  cases stage : run.stage with
  | unstarted name =>
    rw [stage] at trail nodes
    obtain ⟨more, same, leg⟩ := Dialogue.leg_follow budget (some name) (nodes (by rintro ⟨⟩)) trail
    exact ⟨more, same, leg.guarded⟩
  | inside node traversal =>
    rw [stage] at trail nodes resumed
    obtain ⟨more, same, leg⟩ := Dialogue.leg_proceed budget
      (fun next _ nodes trail => Dialogue.leg_follow budget next nodes trail) trail
      (Offer.latest? run.offers) { dialogue with phase := .running } (nodes (by rintro ⟨⟩))
    refine ⟨more, same.trans ?_, leg.guarded⟩
    cases traversal with
    | fresh fresh => exact absurd rfl (resumed node fresh)
    | _ => rfl
  | ended =>
    exact ⟨[], rfl, .ended trail.halted⟩

theorem behind {more : List Node} {budget : Nat}
    {outcome : EStateM.Result Fault (Dialogue Host) Pulled}
    (leg : Leg table start route shown budget more outcome)
    (acyclic : table.AcyclicFrom start) (enough : table.size < budget) (run : Run) :
    Dialogue.yieldOf outcome ≠ .ok .unfinished ∧
      (run.behind outcome).Trails table start (route ++ more)
        (shown + ([Dialogue.yieldOf outcome].filterMap Dialogue.Yield.event?).length)
        (Dialogue.leftBy outcome) := by
  cases leg with
  | event nodes follows trail =>
    refine ⟨nofun, trail, fun _ => nodes, ?_⟩
    rintro node fresh ⟨⟩
    exact follows
  | ended trail => exact ⟨nofun, .ended rfl trail _⟩
  | failed trail => exact ⟨nofun, .ended rfl trail _⟩
  | unfinished along spent =>
    -- Some node would have been entered twice.
    have length := along.length_le acyclic
    rw [List.length_append] at length
    omega

theorem advances (trails : run.Trails table start route shown dialogue)
    (acyclic : table.AcyclicFrom start) {move : Move Host} (steady : move.Steady table.size) :
    ∃ more, Move.Advances table start route shown run dialogue move more := by
  have along : route ++ [] = route := List.append_nil route
  cases move with
  | other deed =>
    refine ⟨[], rfl, by rintro ⟨⟩, ?_⟩
    rw [along]
    refine ⟨trails.trail, fun goesOn => ?_, trails.resumed⟩
    exact (deed.nodes_after steady dialogue).trans (trails.nodes goesOn)
  | choose place index =>
    refine ⟨[], rfl, by rintro ⟨⟩, ?_⟩
    rw [along, Move.after]
    cases chose : run.choose place index with
    | error fault => exact trails
    | ok answered =>
      have stage := Run.stage_choose chose
      exact ⟨stage ▸ trails.trail, stage ▸ trails.nodes, stage ▸ trails.resumed⟩
  | pull budget =>
    obtain ⟨more, same, leg⟩ := trails.leg budget
    obtain ⟨finished, behind⟩ := behind leg acyclic steady run
    refine ⟨more, same, ?_, ?_⟩
    · rw [Move.yield?, Dialogue.pull_eq]
      exact fun unfinished => finished (Option.some.inj unfinished)
    · rw [Move.yield?, Move.after, Dialogue.pull_eq]
      exact behind
  | close =>
    refine ⟨[], rfl, by rintro ⟨⟩, ?_⟩
    rw [along]
    exact .ended (Dialogue.stage_close run dialogue) trails.trail _

/-- What holds of a run from its trail on, whatever its host does. -/
theorem moves (trails : run.Trails table start route shown dialogue)
    (acyclic : table.AcyclicFrom start) {moves : List (Move Host)}
    (steady : ∀ move ∈ moves, move.Steady table.size) :
    .ok .unfinished ∉ Move.yields moves run dialogue ∧
      ∃ more, Move.entries moves run dialogue = more.map Node.name ∧
        table.Route start (route ++ more) ∧
        shown + (Move.events moves run dialogue).length ≤ yieldsIn (route ++ more) := by
  induction moves generalizing route shown run dialogue with
  | nil =>
    refine ⟨List.not_mem_nil, [], rfl, ?_⟩
    rw [List.append_nil]
    exact ⟨trails.trail.along, trails.trail.concluded.shown⟩
  | cons move rest ih =>
    obtain ⟨steadyMove, steadyRest⟩ := List.forall_mem_cons.1 steady
    obtain ⟨more, step⟩ := trails.advances acyclic steadyMove
    obtain ⟨finished, others, same, along, shown⟩ := ih step.trails steadyRest
    refine ⟨?_, more ++ others, ?_, ?_, ?_⟩
    · intro member
      obtain here | behind := List.mem_append.1 member
      · exact step.finished (Option.mem_toList.1 here)
      · exact finished behind
    · rw [Move.entries, step.enters, same, List.map_append]
    · rwa [← List.append_assoc]
    · rwa [Move.events, Move.yields, List.filterMap_append, List.length_append, ← Nat.add_assoc,
        ← List.append_assoc]

end Run.Trails

/-- Where the jumps go round in no circle, a run comes to an end. From the beginning of a run from
whose start no name can be reached that leads back to itself, let the host do what it likes but
load nodes: then every pull that may enter more nodes than the dialogue has returns, no node is
entered twice, and the events that are handed out are no more than the statements in the nodes that
can be reached which yield one. Behind more pulls than that the run is over. -/
theorem Dialogue.run_terminates {start : Text} {dialogue started : Dialogue Host} {run : Run}
    (began : Dialogue.run start dialogue = .ok run started)
    (acyclic : dialogue.nodes.AcyclicFrom start) {moves : List (Move Host)}
    (steady : ∀ move ∈ moves, move.Steady dialogue.nodes.size) :
    .ok .unfinished ∉ Move.yields moves run started ∧
      (Move.entries moves run started).Nodup ∧
      (Move.events moves run started).length ≤ dialogue.nodes.yieldCount start ∧
      (dialogue.nodes.yieldCount start < (Move.yields moves run started).length →
        (Move.behind moves run started).1.stage = .ended) := by
  obtain ⟨rfl, -, world, rfl⟩ := run_eq_ok began
  have trails : Run.Trails dialogue.nodes start [] 0 { stage := .unstarted start }
      { dialogue with world, phase := .running } :=
    ⟨NodeTable.trail_start dialogue.nodes start, fun _ => rfl, nofun⟩
  obtain ⟨finished, route, entries, along, shown⟩ := trails.moves acyclic steady
  rw [Nat.zero_add] at shown
  have bound := shown.trans (along.yieldCount_le acyclic)
  refine ⟨finished, ?_, bound, fun more => ?_⟩
  · rw [entries]
    exact along.nodup acyclic
  · refine Classical.byContradiction fun goesOn => ?_
    rw [← Move.length_events finished goesOn] at more
    exact Nat.not_le_of_lt more bound

/-- A node that greets and jumps to another, which says goodbye. -/
def Dialogue.farewell : Dialogue Unit :=
  { solo [] with
    nodes := Roster.ofList [⟨"A", [.say "Hello.", .jump "B"], []⟩, ⟨"B", [.say "Bye."], []⟩] }

theorem Dialogue.run_terminates_farewell :
    ∃ run started, Dialogue.run "A" farewell = .ok run started ∧
      Move.entries [.pull 3, .pull 3, .pull 3] run started = ["A", "B"] ∧
      farewell.nodes.AcyclicFrom "A" ∧
      .ok .unfinished ∉ Move.yields [.pull 3, .pull 3, .pull 3] run started ∧
      (Move.events [.pull 3, .pull 3, .pull 3] run started).length ≤
        farewell.nodes.yieldCount "A" ∧
      (Move.behind [.pull 3, .pull 3, .pull 3] run started).1.stage = .ended := by
  have acyclic : farewell.nodes.AcyclicFrom "A" := by
    refine .of_rank (fun name => if name = "A" then 1 else 0) fun name target _ leads => ?_
    obtain ⟨node, found, jumps⟩ := leads
    have entries : farewell.nodes.entries =
        [⟨"A", [.say "Hello.", .jump "B"], []⟩, ⟨"B", [.say "Bye."], []⟩] := by cbv
    have name := NodeTable.name_of_get? found
    have member := List.mem_of_find?_eq_some found
    rw [entries] at member
    obtain rfl | rfl := by simpa using member
    · obtain rfl : target = "B" := by
        simpa [Statement.blockParts, Statement.parts] using jumps
      subst name
      decide
    · simp [Statement.blockParts, Statement.parts] at jumps
  have steady : ∀ move ∈ [(.pull 3 : Move Unit), .pull 3, .pull 3],
      move.Steady farewell.nodes.size := by
    have size : farewell.nodes.size = 2 := by cbv
    simp [Move.Steady, size]
  have fewer : farewell.nodes.yieldCount "A" < 3 := by
    have two : yieldsIn farewell.nodes.entries = 2 := by cbv
    exact Nat.lt_succ_of_le (two ▸ farewell.nodes.yieldCount_le_yieldsIn "A")
  obtain ⟨finished, -, bound, ends⟩ := run_terminates rfl acyclic steady
  exact ⟨_, _, rfl, by cbv, acyclic, finished, bound, ends fewer⟩

end Parley
