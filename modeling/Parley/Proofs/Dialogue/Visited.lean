/-
This file settles which nodes are marked as visited. A node is marked where its
traversal is complete and the run goes on, so at every moment of a run the marked
nodes are those that were entered before the one that is running, and a function
that asks for them is answered accordingly. A node is therefore visited for itself
only from its second traversal on.

What is entered is read off the moments of a run: a bout that begins with a fresh
traversal enters its node, and any other goes on with the node that was entered
last. The invariant is carried along a passage from point to point, and from one
request of the host to the next.
-/

import Parley.Proofs.Dialogue.Hosting

namespace Parley

variable {Host : Type}

/-! ### What is entered and what is marked -/

/-- The name of the node that a moment enters. -/
def Moment.entered? : Moment Host → Option Text
  | .bout ⟨node, _, .fresh _, _⟩ => some node.name
  | _ => none

/-- The names of the nodes that were entered, in order and with repetitions. -/
def entered (moments : List (Moment Host)) : List Text := moments.filterMap Moment.entered?

/-- The last moment completed a node that names no other, and nothing broke the run off, or it came
to a name that no node has. -/
def Moment.Concludes : Moment Host → Prop
  | .bout last => ∃ traversal world,
    last.outcome = .ok (some (.complete none, traversal)) world ∧ world.stopping = false
  | .missing _ => True

/-- The chain of nodes has come to its end. -/
def Concluded (moments : List (Moment Host)) : Prop :=
  ∃ last, moments.getLast? = some last ∧ last.Concludes

/-- The nodes that are marked as visited are those of the names. -/
def World.Marks (names : List Text) (world : World Host) : Prop :=
  ∀ name, name ∈ world.visited ↔ name ∈ names

theorem entered_append (first second : List (Moment Host)) :
    entered (first ++ second) = entered first ++ entered second := by
  rw [entered, List.filterMap_append]
  rfl

theorem entered_fresh (before : List (Moment Host)) (node fresh : Node) (chosen : Option Nat)
    (dialogue : Dialogue Host) :
    entered (before ++ [.bout ⟨node, chosen, .fresh fresh, dialogue⟩]) =
      entered before ++ [node.name] := entered_append before _

theorem entered_resumed (before : List (Moment Host)) {bout : Bout Host}
    (resumed : ∀ fresh, bout.traversal ≠ .fresh fresh) :
    entered (before ++ [.bout bout]) = entered before := by
  obtain ⟨node, chosen, traversal, dialogue⟩ := bout
  rw [entered_append]
  cases traversal with
  | fresh fresh => exact absurd rfl (resumed fresh)
  | _ => exact List.append_nil _

theorem entered_missing (before : List (Moment Host)) (name : Text) :
    entered (before ++ [.missing name]) = entered before :=
  (entered_append before _).trans (List.append_nil _)

theorem concluded_append (before : List (Moment Host)) (last : Moment Host) :
    Concluded (before ++ [last]) ↔ last.Concludes := by
  rw [Concluded, List.getLast?_concat]
  constructor
  · rintro ⟨_, ⟨⟩, concludes⟩
    exact concludes
  · exact fun concludes => ⟨last, rfl, concludes⟩

theorem World.Marks.visit {names : List Text} {world : World Host} (marks : world.Marks names)
    (name : Text) : (world.visit name).Marks (names ++ [name]) := by
  intro other
  rw [List.mem_append, List.mem_singleton, ← marks other, World.visit]
  split
  · next there =>
    constructor
    · exact .inl
    · rintro (marked | rfl)
      · exact marked
      · exact there
  · rw [List.mem_append, List.mem_singleton]

/-! ### Bouts -/

/-- Throughout a bout the nodes of the names are marked, and whoever asks for a node is told whether
it is one of them. -/
structure Bout.Amid (names : List Text) (bout : Bout Host) : Prop where
  begins : bout.dialogue.world.Marks names
  calls : ∀ called ∈ bout.calls, called.world.Marks names
  answers : ∀ called ∈ bout.calls, called.Performs bout.dialogue.shelf .visited →
    ∀ operand, called.operands = [operand] →
      called.outcome = .ok (.bool (operand.toText ∈ names)) called.world
  leaves : bout.left.Marks names

/-- Every call in a bout finds the nodes marked that are marked when the bout begins, and is
answered by them if it asks for one. -/
theorem Bout.visited_calls (bout : Bout Host) :
    ∀ called ∈ bout.calls, called.world.visited = bout.dialogue.world.visited ∧
      (called.Performs bout.dialogue.shelf .visited → ∀ operand, called.operands = [operand] →
        called.outcome = .ok (.bool (operand.toText ∈ called.world.visited)) called.world) := by
  let fits (called : Called Host) : Prop :=
    called.world.visited = bout.dialogue.world.visited ∧
      (called.Performs bout.dialogue.shelf .visited → ∀ operand, called.operands = [operand] →
        called.outcome = .ok (.bool (operand.toText ∈ called.world.visited)) called.world)
  let held (world : World Host) (record : List (Called Host)) : Prop :=
    world.visited = bout.dialogue.world.visited ∧ ∀ called ∈ record, fits called
  suffices recorded : held bout.left bout.calls from recorded.2
  refine bout.calls_spec (fun _ _ _ holds => holds) (fun _ _ _ holds => holds)
    (fun _ _ _ holds => holds) (fun name operands world record holds => ?_)
    ⟨rfl, List.forall_mem_nil _⟩
  have kept := bout.dialogue.shelf.keeps_call Ordinary.visited Dialogue.home name operands world
  refine ⟨kept.trans holds.1, fun called member => ?_⟩
  obtain before | made := List.mem_append.1 member
  · exact holds.2 called before
  · obtain ⟨rfl, -, -⟩ := Shelf.callsWithin_spec made
    exact ⟨holds.1, fun performs operand one => Shelf.outcome_visited made performs one⟩

theorem Bout.amid {names : List Text} {bout : Bout Host}
    (marks : bout.dialogue.world.Marks names) : bout.Amid names where
  begins := marks
  calls called member name := by
    rw [(bout.visited_calls called member).1]
    exact marks name
  answers called member performs operand one := by
    obtain ⟨visited, answer⟩ := bout.visited_calls called member
    rw [answer performs operand one, visited]
    simp only [marks operand.toText]
  leaves name := by
    rw [bout.visited_left]
    exact marks name

/-- A bout continues what was entered before: its node is the one that was entered last, possibly by
the bout itself, which then found it by the name that the run had come to. -/
structure Bout.Continues (earlier : List (Moment Host)) (bout : Bout Host) : Prop where
  found : ∀ fresh, bout.traversal = .fresh fresh → ∃ name,
    bout.dialogue.world.current = some name ∧ bout.dialogue.nodes.get? name = some bout.node
  amid : ∃ names, entered (earlier ++ [.bout bout]) = names ++ [bout.node.name] ∧ bout.Amid names

/-! ### Passages -/

/-- Between two moments and behind the last one, every node that was entered is marked if the chain
has come to its end, and every one but the last if it has not. -/
structure World.Settled (moments : List (Moment Host)) (world : World Host) : Prop where
  concluded : Concluded moments → world.Marks (entered moments)
  otherwise : ¬ Concluded moments → world.Marks (entered moments).dropLast

theorem World.Settled.keep {moments : List (Moment Host)} {before after : World Host}
    (settled : before.Settled moments) (visited : after.visited = before.visited) :
    after.Settled moments where
  concluded concluded name := by
    rw [visited]
    exact settled.concluded concluded name
  otherwise ongoing name := by
    rw [visited]
    exact settled.otherwise ongoing name

/-- A point can be reached with these moments behind it. -/
def Point.Behind (before : List (Moment Host)) : Point Host → Prop
  | .towards next dialogue =>
    dialogue.world.Marks (entered before) ∧ (next = none → Concluded before)
  | .within bout => bout.Continues before

/-- A run can stand at a place with these moments behind it. -/
def Stage.Behind (before : List (Moment Host)) : Stage → Prop
  | .unstarted _ => before = []
  | .inside node traversal => (∀ fresh, traversal ≠ .fresh fresh) ∧ ¬ Concluded before ∧
    ∃ names, entered before = names ++ [node.name]
  | .ended => True

/-- A bout that does not conclude the chain leaves all marked that was entered before its node. -/
theorem Bout.Continues.settled {earlier : List (Moment Host)} {bout : Bout Host}
    (continues : bout.Continues earlier) (ongoing : ¬ (Moment.bout bout).Concludes) :
    bout.left.Settled (earlier ++ [.bout bout]) := by
  obtain ⟨names, same, amid⟩ := continues.amid
  refine ⟨fun concluded => absurd ((concluded_append _ _).1 concluded) ongoing, fun _ => ?_⟩
  rw [same, List.dropLast_concat]
  exact amid.leaves

theorem Bout.not_concludes_of_ok {bout : Bout Host} {result : Result} {traversal : Traversal}
    {world : World Host} (pulled : bout.outcome = .ok (some (result, traversal)) world)
    (other : result = .complete none → world.stopping = true) :
    ¬ (Moment.bout bout).Concludes := by
  rintro ⟨_, _, concluded, stopping⟩
  rw [pulled] at concluded
  cases concluded
  rw [other rfl] at stopping
  cases stopping

theorem Bout.not_concludes_of_error {bout : Bout Host} {fault : Fault} {world : World Host}
    (pulled : bout.outcome = .error fault world) : ¬ (Moment.bout bout).Concludes := by
  rintro ⟨_, _, concluded, -⟩
  rw [pulled] at concluded
  cases concluded

/-- A node that is entered finds everything marked that was entered before. -/
theorem Point.behind_entered {name : Text} {node : Node} {dialogue : Dialogue Host}
    {before : List (Moment Host)} {next : Option Text}
    (behind : (Point.towards next dialogue).Behind before)
    (found : dialogue.nodes.get? name = some node) :
    (Point.within ⟨node, none, .fresh node, dialogue.changeWorld (·.reach name)⟩).Behind before :=
  ⟨fun _ _ => ⟨name, rfl, found⟩, entered before, entered_fresh _ _ _ _ _, Bout.amid behind.1⟩

/-- Where a node is complete it is marked as well. -/
theorem Point.behind_followed {bout : Bout Host} {next : Option Text} {traversal : Traversal}
    {world : World Host} {before : List (Moment Host)} (continues : bout.Continues before)
    (pulled : bout.outcome = .ok (some (.complete next, traversal)) world)
    (stopping : world.stopping = false) :
    (Point.towards next { bout.dialogue with world := world.visit bout.node.name }).Behind
      (before ++ [.bout bout]) := by
  obtain ⟨names, same, amid⟩ := continues.amid
  have marks := amid.leaves
  rw [Bout.left_of_ok pulled] at marks
  refine ⟨?_, ?_⟩
  · rw [same]
    exact marks.visit bout.node.name
  · rintro rfl
    exact (concluded_append _ _).2 ⟨traversal, world, pulled, stopping⟩

namespace Passage

open Dialogue

variable {point : Point Host} {moments : List (Moment Host)}
  {outcome : EStateM.Result Fault (Dialogue Host) Pulled}

/-- Every bout of a passage continues what was entered before it. -/
theorem continues (passage : Passage point moments outcome) {before : List (Moment Host)}
    (behind : point.Behind before) {earlier : List (Moment Host)} {bout : Bout Host}
    {later : List (Moment Host)} (same : moments = earlier ++ .bout bout :: later) :
    bout.Continues (before ++ earlier) := by
  -- A passage is taken apart from its first bout on, which then belongs to what was before.
  induction passage generalizing before earlier with
  | completed | exhausted => simp at same
  | missing absent => simp [List.cons_eq_append_iff] at same
  | entered found onward ih => exact ih (Point.behind_entered behind found) same
  | followed first pulled stopping onward ih =>
    cases earlier with
    | nil =>
      cases same
      rwa [List.append_nil]
    | cons moment earlier =>
      obtain ⟨rfl, rest⟩ := List.cons.inj same
      rw [List.append_cons]
      exact ih (Point.behind_followed behind pulled stopping) rest
  | failed only | stopped only | broken only | waiting only =>
    obtain ⟨rfl, rfl, -⟩ : earlier = [] ∧ bout = only ∧ later = [] := by
      simpa [List.cons_eq_append_iff] using same
    rwa [List.append_nil]

/-- Behind a pull the marks are settled, and the run stands where it can go on. -/
theorem settled (passage : Passage point moments outcome) {before : List (Moment Host)}
    (behind : point.Behind before) (finished : yieldOf outcome ≠ .ok .unfinished) :
    (leftBy outcome).world.Settled (before ++ moments) ∧
      ∀ run : Run, (run.behind outcome).stage.Behind (before ++ moments) := by
  induction passage generalizing before with
  | completed dialogue =>
    obtain ⟨marks, concluded⟩ := behind
    rw [List.append_nil]
    exact ⟨⟨fun _ => marks, fun ongoing => absurd (concluded rfl) ongoing⟩, fun _ => trivial⟩
  | exhausted name dialogue => exact absurd rfl finished
  | @missing name dialogue absent =>
    obtain ⟨marks, -⟩ := behind
    have concluded := (concluded_append before (Moment.missing name : Moment Host)).2 trivial
    refine ⟨⟨fun _ => ?_, fun ongoing => absurd concluded ongoing⟩, fun _ => trivial⟩
    rw [entered_missing]
    exact marks
  | entered found onward ih => exact ih (Point.behind_entered behind found) finished
  | failed bout pulled =>
    have settled := behind.settled (Bout.not_concludes_of_error pulled)
    rw [Bout.left_of_error pulled] at settled
    exact ⟨settled.keep rfl, fun _ => trivial⟩
  | stopped bout pulled =>
    have settled := behind.settled (Bout.not_concludes_of_ok pulled nofun)
    rw [Bout.left_of_ok pulled] at settled
    exact ⟨settled.keep rfl, fun _ => trivial⟩
  | broken bout pulled other stopping =>
    have settled := behind.settled (Bout.not_concludes_of_ok pulled fun _ => stopping)
    rw [Bout.left_of_ok pulled] at settled
    exact ⟨settled.keep rfl, fun _ => trivial⟩
  | waiting bout pulled other stopping =>
    have ongoing := Bout.not_concludes_of_ok pulled nofun
    have settled := behind.settled ongoing
    rw [Bout.left_of_ok pulled] at settled
    -- What is left behind an event is never fresh, so the next bout does not enter the node again.
    obtain ⟨_, yielded⟩ := Act.during_eq_ok pulled
    have follows := Engine.follows_pull _ yielded
    obtain ⟨names, same, -⟩ := behind.amid
    refine ⟨settled.keep rfl, fun _ => ⟨?_, ?_, names, same⟩⟩
    · rintro fresh rfl
      exact follows
    · rwa [concluded_append]
  | followed bout pulled stopping onward ih =>
    rw [List.append_cons]
    exact ih (Point.behind_followed behind pulled stopping) finished

end Passage

/-! ### Hosts -/

/-- A member of one list behind another is in the first or in the second. -/
theorem split_append {Item : Type} {first second earlier later : List Item} {item : Item}
    (same : first ++ second = earlier ++ item :: later) :
    (∃ rest, first = earlier ++ item :: rest) ∨
      ∃ front, earlier = first ++ front ∧ second = front ++ item :: later := by
  obtain ⟨front, rfl, rest⟩ | ⟨rest, rfl, behind⟩ := List.append_eq_append_iff.1 same
  · exact .inr ⟨front, rfl, rest⟩
  · cases rest with
    | nil => exact .inr ⟨[], by rw [List.append_nil, List.append_nil], behind.symm⟩
    | cons other rest =>
      obtain ⟨rfl, -⟩ := List.cons.inj behind
      exact .inl ⟨rest, rfl⟩

namespace Hosting

/-- The marks are right: in every bout so far, between the pulls, and for the run to go on. -/
structure Tracked (hosting : Hosting Host) : Prop where
  continues : ∀ earlier bout later, hosting.moments = earlier ++ .bout bout :: later →
    bout.Continues earlier
  settled : hosting.dialogue.world.Settled hosting.moments
  stage : ∀ run, hosting.run = some run → run.stage.Behind hosting.moments

theorem Tracked.point {hosting : Hosting Host} (tracked : hosting.Tracked) {run : Run}
    {point : Point Host} (latest : hosting.run = some run)
    (stands : Dialogue.point? run hosting.dialogue = some point) :
    point.Behind hosting.moments := by
  have behind := tracked.stage run latest
  obtain ⟨stage, offers⟩ := run
  cases stage with
  | unstarted start =>
    cases stands
    have none : hosting.moments = [] := behind
    have settled := tracked.settled
    rw [none] at settled ⊢
    refine ⟨settled.otherwise ?_, nofun⟩
    rintro ⟨_, ⟨⟩, -⟩
  | inside node traversal =>
    cases stands
    obtain ⟨resumed, ongoing, names, same⟩ := behind
    refine ⟨fun fresh begins => absurd begins (resumed fresh), names, ?_, Bout.amid ?_⟩
    · exact (entered_resumed _ resumed).trans same
    · have marks := tracked.settled.otherwise ongoing
      rw [same, List.dropLast_concat] at marks
      exact marks
  | ended => cases stands

theorem Tracked.append {hosting : Hosting Host} (tracked : hosting.Tracked) {point : Point Host}
    {moments : List (Moment Host)} {outcome : EStateM.Result Fault (Dialogue Host) Pulled}
    (behind : point.Behind hosting.moments) (passage : Passage point moments outcome)
    {earlier : List (Moment Host)} {bout : Bout Host} {later : List (Moment Host)}
    (same : hosting.moments ++ moments = earlier ++ .bout bout :: later) :
    bout.Continues earlier := by
  obtain ⟨rest, before⟩ | ⟨front, rfl, inside⟩ := split_append same
  · exact tracked.continues earlier bout rest before
  · exact passage.continues behind inside

theorem tracked_begun {start : Text} {dialogue started : Dialogue Host} {run : Run}
    (began : Dialogue.run start dialogue = .ok run started) : (begun run started).Tracked := by
  obtain rfl := Dialogue.begun_of_run began
  obtain ⟨rfl, -⟩ := Dialogue.run_eq_ok began
  refine ⟨fun earlier bout later same => ?_, ⟨?_, fun _ _ => .rfl⟩, ?_⟩
  · simp [begun] at same
  · rintro ⟨_, ⟨⟩, -⟩
  · rintro _ ⟨⟩
    rfl

/-- A request keeps the marks right. -/
theorem Step.tracked {before after : Hosting Host} {request : Request Host}
    (step : Step before request after) (tracked : before.Tracked) : after.Tracked := by
  cases step with
  | errand errand =>
    exact ⟨tracked.continues, tracked.settled.keep (errand.spares before.dialogue).visited,
      tracked.stage⟩
  | begun began => exact tracked_begun began
  | refused => exact tracked
  | pulled budget latest stands passage finished =>
    have behind := tracked.point latest stands
    obtain ⟨settled, stage⟩ := passage.settled behind finished
    refine ⟨fun earlier bout later => tracked.append behind passage, settled, ?_⟩
    rintro _ ⟨⟩
    exact stage _
  | spent budget latest spent => exact ⟨tracked.continues, tracked.settled, tracked.stage⟩
  | chosen latest chose =>
    refine ⟨tracked.continues, tracked.settled, ?_⟩
    rintro _ ⟨⟩
    rw [Run.stage_choose chose]
    exact tracked.stage _ latest
  | closed latest waits =>
    refine ⟨tracked.continues, tracked.settled.keep rfl, ?_⟩
    rintro _ ⟨⟩
    trivial
  | dropped latest waitless =>
    refine ⟨tracked.continues, tracked.settled, ?_⟩
    rintro _ ⟨⟩
    trivial

/-- What is marked as visited in a run, with the moments of its pulls so far and of the pull under
way. -/
structure MarksEntered (hosting : Hosting Host) (upcoming : List (Moment Host)) : Prop where
  /-- While a body is running, all that was entered before its node is marked. -/
  running : ∀ earlier bout later, hosting.moments ++ upcoming = earlier ++ .bout bout :: later →
    bout.Continues earlier
  /-- Where the chain has come to its end, all that was entered is marked. -/
  concluded : Concluded hosting.moments → hosting.dialogue.world.Marks (entered hosting.moments)
  /-- A chain that has come to its end is the end of the run. -/
  spent : Concluded hosting.moments → ∀ run, hosting.run = some run → run.stage = .ended
  /-- Where the run waits, or has ended in any other way, the node that was entered last is not
  marked unless it was entered before. -/
  otherwise : ¬ Concluded hosting.moments →
    hosting.dialogue.world.Marks (entered hosting.moments).dropLast

end Hosting

/-- The nodes that are marked as visited are exactly those whose traversals are complete. From the
beginning of any run, whatever the host requests, while the body of a node is running all the nodes
that were entered before it are marked and no others, and so is every question for a node answered;
between the pulls and behind the end of the run the same nodes are marked, and the node that was
entered last as well if the chain has come to its end. -/
theorem Dialogue.marks_entered {start : Text} {dialogue started : Dialogue Host} {run : Run}
    (began : Dialogue.run start dialogue = .ok run started) (requests : List (Request Host))
    {hosting : Hosting Host}
    (done : requests.foldlM Hosting.after? (.begun run started) = some hosting) (budget : Nat) :
    hosting.MarksEntered (hosting.upcoming budget) := by
  obtain ⟨ready, tracked⟩ := Hosting.holds_behind (fun _ _ tracked step => step.tracked tracked)
    (Hosting.ready_begun began) (Hosting.heeds_any requests _) (Hosting.tracked_begun began) done
  refine ⟨fun earlier bout later same => ?_, tracked.settled.concluded, ?_,
    tracked.settled.otherwise⟩
  · obtain nothing | ⟨run, point, outcome, latest, stands, passage⟩ := ready.upcoming budget
    · rw [nothing, List.append_nil] at same
      exact tracked.continues earlier bout later same
    · exact tracked.append (tracked.point latest stands) passage same
  · intro concluded run latest
    have behind := tracked.stage run latest
    cases stage : run.stage with
    | unstarted start =>
      rw [stage] at behind
      have none : hosting.moments = [] := behind
      rw [none] at concluded
      obtain ⟨_, ⟨⟩, -⟩ := concluded
    | inside node traversal =>
      rw [stage] at behind
      exact absurd concluded behind.2.1
    | ended => rfl

/-- A node that asks whether it was visited, and jumps to itself. -/
def Dialogue.circle : Dialogue Unit :=
  solo [.assign "seen" (.call "visited" [.literal (.string "A")]), .say "Hello.", .jump "A"]

theorem Dialogue.marks_entered_circle : ∃ run started hosting,
    Dialogue.run "A" circle = .ok run started ∧
      [.pull 8, .pull 8].foldlM Hosting.after? (.begun run started) = some hosting ∧
      entered hosting.moments = [("A" : Text), "A"] ∧ hosting.dialogue.world.Marks ["A"] ∧
      hosting.dialogue.world.store.find? "seen" = some (.bool true) := by
  have began : Dialogue.run "A" circle = .ok { stage := .unstarted "A" } (circle.begun "A") := rfl
  have course : ([.pull 8, .pull 8].foldlM Hosting.after?
      (.begun { stage := .unstarted "A" } (circle.begun "A"))).map (fun hosting =>
        (entered hosting.moments, hosting.dialogue.world.store.find? "seen",
          hosting.run.any fun run => (Dialogue.point? run hosting.dialogue).isSome)) =
      some ([("A" : Text), "A"], some (Value.bool true), true) := by
    cbv
  obtain ⟨hosting, done, seen⟩ := Option.map_eq_some_iff.1 course
  obtain ⟨entries, asked, inside⟩ := by simpa using seen
  have marks := marks_entered began _ done 8
  have ongoing : ¬ Concluded hosting.moments := by
    intro concluded
    obtain ⟨run, latest, stands⟩ := (Option.any_eq_true _ _).1 inside
    rw [point?, marks.spent concluded run latest] at stands
    cases stands
  have marked := marks.otherwise ongoing
  rw [entries] at marked
  exact ⟨_, _, hosting, began, done, entries, marked, asked⟩

end Parley
