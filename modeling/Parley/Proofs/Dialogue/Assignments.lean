/-
This file settles what a run writes. Where neither the host nor a function that is called
writes variables, nobody does but the assignments in the bodies that are run. The ones that
a bout executes make a chain from the variables at its beginning to those at its end, and
between two bouts no variable changes; so the assignments of a whole run make one chain, and
the variables behind it differ from those at its beginning by what was assigned.

An assignment stands in the body of a node that was entered: a bout begins with the body of
its node or with what is left of it, and what is left of a body is a part of it.
-/

import Parley.Proofs.Dialogue.Visited
import Parley.Proofs.Engine.Assignments

namespace Parley

variable {Host : Type}

/-! ### What is executed, and what is not written otherwise -/

/-- The assignments that are executed in a bout. -/
def Bout.assignments (bout : Bout Host) : List (Assignment Host) :=
  Engine.assignments (bout.dialogue.shelf.call Dialogue.home) bout.chosen bout.traversal
    { bout.dialogue.world with executing := some bout.node.name }

/-- The assignments that are executed in a moment. -/
def Moment.assignments : Moment Host → List (Assignment Host)
  | .bout made => made.assignments
  | .missing _ => []

/-- The assignments that were executed, in order. -/
def assigned (moments : List (Moment Host)) : List (Assignment Host) :=
  moments.flatMap Moment.assignments

/-- The calls that are made in a moment. -/
def Moment.calls : Moment Host → List (Called Host)
  | .bout made => made.calls
  | .missing _ => []

/-- The variables that a call leaves, whether or not it fails. -/
def Called.left (called : Called Host) : Store :=
  match called.outcome with
  | .ok _ after => after.store
  | .error _ after => after.store

/-- No function that was called wrote a variable. -/
def Unwriting (moments : List (Moment Host)) : Prop :=
  ∀ moment ∈ moments, ∀ called ∈ moment.calls, called.left = called.world.store

/-- A node was entered. -/
def Entered (moments : List (Moment Host)) (node : Node) : Prop :=
  ∃ bout, .bout bout ∈ moments ∧ bout.node = node ∧ bout.traversal = .fresh node

/-- A traversal goes through a node that was entered: what is left of it is left of the body. -/
def Stands (moments : List (Moment Host)) (node : Node) (traversal : Traversal) : Prop :=
  Entered moments node ∧ traversal.parts ⊆ Statement.blockParts node.body

theorem Stands.mono {moments more : List (Moment Host)} {node : Node} {traversal : Traversal}
    (stands : Stands moments node traversal) (among : moments ⊆ more) :
    Stands more node traversal := by
  obtain ⟨⟨bout, member, begun⟩, parts⟩ := stands
  exact ⟨⟨bout, among member, begun⟩, parts⟩

/-! ### Bouts -/

/-- A bout begins with the body of its node, or goes on with what is left of it. -/
def Bout.Resumes (before : List (Moment Host)) (bout : Bout Host) : Prop :=
  bout.traversal = .fresh bout.node ∨ Stands before bout.node bout.traversal

theorem Bout.Resumes.stands {before : List (Moment Host)} {bout : Bout Host}
    (resumes : bout.Resumes before) (moments : List (Moment Host)) :
    Stands (before ++ .bout bout :: moments) bout.node bout.traversal := by
  obtain fresh | stands := resumes
  · rw [fresh]
    exact ⟨⟨bout, List.mem_append_right _ List.mem_cons_self, rfl, fresh⟩, fun _ => id⟩
  · exact stands.mono (List.subset_append_left _ _)

theorem Shelf.mem_calls (shelf : Shelf Host) (place : LibraryId) (name : Text)
    (operands : List Value) (world : World Host) :
    Called.mk place name operands world (shelf.call place name operands world) ∈
      shelf.calls place name operands world := by
  unfold calls callsWithin
  exact List.mem_cons_self

/-- If no call that a call leads to writes a variable, the call itself does not. -/
theorem Shelf.store_after_call {shelf : Shelf Host} {place : LibraryId} (name : Text)
    (operands : List Value) (world : World Host)
    (spared : ∀ called ∈ shelf.calls place name operands world,
      called.left = called.world.store) :
    ((shelf.call place name operands).after world).store = world.store := by
  have first := spared _ (shelf.mem_calls place name operands world)
  unfold Called.left at first
  unfold Act.after
  dsimp only at first
  generalize shelf.call place name operands world = result at first ⊢
  cases result with
  | ok value after => exact first
  | error fault after => exact first

/-- If no function that is called in a bout writes a variable, its assignments make a chain. -/
theorem Bout.chain {bout : Bout Host}
    (unwriting : ∀ called ∈ bout.calls, called.left = called.world.store) :
    Assignment.Chain bout.dialogue.world.store bout.assignments bout.left.store := by
  have spared := @Shelf.store_after_call Host bout.dialogue.shelf Dialogue.home
  rw [bout.left_eq]
  exact Engine.chain_pull spared unwriting

theorem Bout.mem_assignments {bout : Bout Host} {assignment : Assignment Host}
    (member : assignment ∈ bout.assignments) :
    .assign assignment.target assignment.expression ∈ bout.traversal.parts ∧
      assignment.outcome = Engine.evaluate (bout.dialogue.shelf.call Dialogue.home)
        assignment.expression assignment.world :=
  Engine.mem_assignments member

/-! ### Passages -/

namespace Passage

open Dialogue

variable {point : Point Host} {moments : List (Moment Host)}
  {outcome : EStateM.Result Fault (Dialogue Host) Pulled}

theorem chain (passage : Passage point moments outcome) (unwriting : Unwriting moments) :
    Assignment.Chain point.dialogue.world.store (assigned moments)
      (leftBy outcome).world.store := by
  have only {bout : Bout Host} {world : World Host} (unwriting : Unwriting [.bout bout])
      (left : bout.left = world) :
      Assignment.Chain bout.dialogue.world.store (assigned [.bout bout]) world.store := by
    have chain := bout.chain (unwriting _ List.mem_cons_self)
    rw [left] at chain
    have alone : assigned [.bout bout] = bout.assignments := List.append_nil _
    rwa [alone]
  induction passage with
  | completed | exhausted | missing => exact .none _
  | entered found onward inductionHypothesis => exact inductionHypothesis unwriting
  | failed bout pulled =>
    have chain := only unwriting (Bout.left_of_error pulled)
    exact chain
  | stopped bout pulled =>
    have chain := only unwriting (Bout.left_of_ok pulled)
    exact chain
  | broken bout pulled other stopping =>
    have chain := only unwriting (Bout.left_of_ok pulled)
    exact chain
  | waiting bout pulled other stopping =>
    have chain := only unwriting (Bout.left_of_ok pulled)
    exact chain
  | @followed bout next traversal world moments outcome pulled stopping onward
    inductionHypothesis =>
    have here := bout.chain (unwriting _ List.mem_cons_self)
    rw [Bout.left_of_ok pulled] at here
    have behind := inductionHypothesis fun moment member =>
      unwriting moment (List.mem_cons_of_mem _ member)
    have visited : (world.visit bout.node.name).store = world.store := by
      rw [World.visit]
      split <;> rfl
    refine here.append ?_
    rw [← visited]
    exact behind

/-- Every bout of a pull goes through a node that was entered, and so does what the pull leaves. -/
theorem stands (passage : Passage point moments outcome) {before : List (Moment Host)}
    (begins : ∀ bout, point = .within bout → bout.Resumes before) :
    (∀ bout, .bout bout ∈ moments → Stands (before ++ moments) bout.node bout.traversal) ∧
      ∀ event node traversal final, outcome = .ok (.event event node traversal) final →
        Stands (before ++ moments) node traversal := by
  have only {before : List (Moment Host)} {bout other : Bout Host} (resumes : bout.Resumes before)
      (member : .bout other ∈ [Moment.bout bout]) :
      Stands (before ++ [.bout bout]) other.node other.traversal := by
    obtain ⟨⟩ := List.mem_singleton.1 member
    exact resumes.stands []
  induction passage generalizing before with
  | completed | exhausted => exact ⟨by rintro _ ⟨⟩, by rintro _ _ _ _ ⟨⟩⟩
  | missing absent =>
    refine ⟨fun bout member => ?_, by rintro _ _ _ _ ⟨⟩⟩
    obtain ⟨⟩ := List.mem_singleton.1 member
  | entered found onward inductionHypothesis =>
    refine inductionHypothesis ?_
    rintro _ ⟨⟩
    exact .inl rfl
  | failed bout pulled => exact ⟨fun _ => only (begins bout rfl), by rintro _ _ _ _ ⟨⟩⟩
  | stopped bout pulled => exact ⟨fun _ => only (begins bout rfl), by rintro _ _ _ _ ⟨⟩⟩
  | broken bout pulled other stopping =>
    exact ⟨fun _ => only (begins bout rfl), by rintro _ _ _ _ ⟨⟩⟩
  | waiting bout pulled other stopping =>
    refine ⟨fun _ => only (begins bout rfl), ?_⟩
    rintro event node traversal final ⟨⟩
    obtain ⟨_, yielded⟩ := Act.during_eq_ok pulled
    obtain ⟨statement, -, behind⟩ := Engine.takes_pull _ yielded
    obtain ⟨entered, parts⟩ := (begins bout rfl).stands []
    exact ⟨entered, fun part member => parts (behind.subset (List.mem_cons_of_mem _ member))⟩
  | @followed bout next traversal world moments outcome pulled stopping onward
    inductionHypothesis =>
    have here := (begins bout rfl).stands moments
    obtain ⟨bouts, left⟩ := @inductionHypothesis (before ++ [.bout bout]) (by rintro _ ⟨⟩)
    rw [← List.append_cons] at bouts left
    refine ⟨fun other member => ?_, left⟩
    obtain same | behind := List.mem_cons.1 member
    · cases same
      exact here
    · exact bouts other behind

end Passage

/-! ### Hosts -/

/-- A request neither begins another run nor writes a variable. -/
def Request.Spares (hosting : Hosting Host) : Request Host → Prop
  | .errand (.write store _ _) => store hosting.dialogue.world.store = hosting.dialogue.world.store
  | .run _ => False
  | _ => True

namespace Hosting

/-- What was assigned so far in a run that began with the variables of a store: a chain, if nothing
else writes. Every bout goes through a node that was entered, and so does what is left. -/
structure Assigned (start : Store) (hosting : Hosting Host) : Prop where
  chain : Unwriting hosting.moments →
    Assignment.Chain start (assigned hosting.moments) hosting.dialogue.world.store
  bouts : ∀ bout, .bout bout ∈ hosting.moments →
    Stands hosting.moments bout.node bout.traversal
  stage : ∀ run, hosting.run = some run → ∀ node traversal, run.stage = .inside node traversal →
    Stands hosting.moments node traversal

theorem assigned_begun {start : Text} {dialogue started : Dialogue Host} {run : Run}
    (began : Dialogue.run start dialogue = .ok run started) :
    (begun run started).Assigned dialogue.world.store := by
  obtain rfl := Dialogue.begun_of_run began
  obtain ⟨rfl, -⟩ := Dialogue.run_eq_ok began
  refine ⟨fun _ => .none _, fun _ member => absurd member List.not_mem_nil, ?_⟩
  rintro _ ⟨⟩
  exact nofun

theorem store_errand {hosting : Hosting Host} {errand : Errand Host}
    (spares : (Request.errand errand).Spares hosting) :
    (errand.after hosting.dialogue).world.store = hosting.dialogue.world.store := by
  cases errand with
  | loadNodes nodes strict =>
    obtain ⟨table, world, left, journal, rfl, -⟩ :=
      Dialogue.leftBy_loadNodes nodes strict hosting.dialogue
    rw [Errand.after, left]
  | loadScript script strict =>
    obtain ⟨table, world, left, journal, rfl, -⟩ :=
      Dialogue.leftBy_loadScript script strict hosting.dialogue
    rw [Errand.after, left]
  | arrange shelf => rfl
  | write store host stopping => exact spares
  | provide debugSink errorSink => rfl

theorem Step.assigned {before after : Hosting Host} {request : Request Host} {start : Store}
    (step : Step before request after) (spares : request.Spares before)
    (assigned : before.Assigned start) : after.Assigned start := by
  cases step with
  | errand errand =>
    refine ⟨fun unwriting => ?_, assigned.bouts, assigned.stage⟩
    dsimp only
    rw [store_errand spares]
    exact assigned.chain unwriting
  | begun began => exact spares.elim
  | refused => exact assigned
  | @pulled run point moments outcome budget latest stands passage finished =>
    have begins : ∀ bout, point = .within bout → bout.Resumes before.moments := by
      rintro bout rfl
      obtain ⟨stage, offers⟩ := run
      cases stage with
      | inside node traversal =>
        cases stands
        exact .inr (assigned.stage _ latest node traversal rfl)
      | _ => cases stands
    obtain ⟨bouts, left⟩ := passage.stands begins
    refine ⟨fun unwriting => ?_, fun bout member => ?_, ?_⟩
    · have earlier := assigned.chain fun moment member =>
        unwriting moment (List.mem_append_left _ member)
      have pulled := passage.chain fun moment member =>
        unwriting moment (List.mem_append_right _ member)
      rw [Dialogue.world_point stands] at pulled
      rw [Parley.assigned, List.flatMap_append]
      exact earlier.append pulled
    · obtain earlier | pulled := List.mem_append.1 member
      · exact (assigned.bouts bout earlier).mono (List.subset_append_left _ _)
      · exact bouts bout pulled
    · rintro _ ⟨⟩ node traversal inside
      obtain ⟨event, final, waits⟩ := Run.stage_behind finished inside
      exact left event node traversal final waits
  | spent budget latest spent => exact ⟨assigned.chain, assigned.bouts, assigned.stage⟩
  | chosen latest chose =>
    refine ⟨assigned.chain, assigned.bouts, ?_⟩
    rintro _ ⟨⟩
    rw [Run.stage_choose chose]
    exact assigned.stage _ latest
  | closed latest waits =>
    refine ⟨assigned.chain, assigned.bouts, ?_⟩
    rintro _ ⟨⟩ _ _ ⟨⟩
  | dropped latest waitless =>
    refine ⟨assigned.chain, assigned.bouts, ?_⟩
    rintro _ ⟨⟩ _ _ ⟨⟩

/-- What was written in a run that began with the variables of a store. -/
structure WritesAssigned (start : Store) (hosting : Hosting Host) : Prop where
  /-- Every assignment finds the variables that those before it have left, and there are now those
  that the last one has left. -/
  chain : Assignment.Chain start (assigned hosting.moments) hosting.dialogue.world.store
  /-- What was assigned stands in the body of a node that was entered, and its value is what its
  expression came to there. -/
  executed : ∀ assignment ∈ assigned hosting.moments, ∃ bout, .bout bout ∈ hosting.moments ∧
    Entered hosting.moments bout.node ∧
    .assign assignment.target assignment.expression ∈ Statement.blockParts bout.node.body ∧
    assignment.outcome = Engine.evaluate (bout.dialogue.shelf.call Dialogue.home)
      assignment.expression assignment.world
  /-- A variable that is not what it was has the value that was assigned to it last. -/
  changed : ∀ name, hosting.dialogue.world.store.find? name ≠ start.find? name →
    ∃ earlier assignment later value,
      assigned hosting.moments = earlier ++ assignment :: later ∧ assignment.target = name ∧
      assignment.value? = some value ∧ hosting.dialogue.world.store.find? name = some value ∧
      ∀ other ∈ later, other.target = name → other.value? = none
  /-- An assignment whose expression fails writes nothing: those behind it find what it found. -/
  failing : ∀ earlier assignment later,
    assigned hosting.moments = earlier ++ assignment :: later → assignment.value? = none →
    Assignment.Chain start earlier assignment.world.store ∧
      Assignment.Chain assignment.world.store later hosting.dialogue.world.store

theorem Assigned.writes {start : Store} {hosting : Hosting Host} (assigned : hosting.Assigned start)
    (unwriting : Unwriting hosting.moments) : hosting.WritesAssigned start where
  chain := assigned.chain unwriting
  executed assignment member := by
    obtain ⟨moment, there, inside⟩ := List.mem_flatMap.1 member
    cases moment with
    | missing name => cases inside
    | bout bout =>
      obtain ⟨stands, outcome⟩ := Bout.mem_assignments inside
      obtain ⟨entered, parts⟩ := assigned.bouts bout there
      exact ⟨bout, there, entered, parts stands, outcome⟩
  changed name differs := by
    obtain ⟨same, -⟩ | last := (assigned.chain unwriting).find?_eq name
    · exact absurd same differs
    · exact last
  failing earlier assignment later split fails := by
    have chain := assigned.chain unwriting
    rw [split] at chain
    exact chain.skip fails

end Hosting

/-- A run writes what its nodes assign and nothing else. Take any run, and whatever the host does
with it short of writing variables and of beginning another one, if none of the functions that are
called writes variables either. Then behind every pull a variable whose value, or presence, is not
what it was when the run began is the target of an assignment in the body of a node that was entered
since; it has the value that the expression of the last such assignment came to. An assignment whose
expression fails writes nothing. -/
theorem Dialogue.run_writes_assigned {start : Text} {dialogue started : Dialogue Host} {run : Run}
    (began : Dialogue.run start dialogue = .ok run started) {requests : List (Request Host)}
    (spares : Hosting.Heeds (fun hosting request => request.Spares hosting) requests
      (.begun run started))
    {hosting : Hosting Host}
    (done : requests.foldlM Hosting.after? (.begun run started) = some hosting)
    (unwriting : Unwriting hosting.moments) : hosting.WritesAssigned dialogue.world.store :=
  have ⟨_, assigned⟩ := Hosting.holds_behind
    (fun _ spares assigned step => step.assigned spares assigned) (Hosting.ready_begun began) spares
    (Hosting.assigned_begun began) done
  assigned.writes unwriting

/-- The node that asks whether it was visited is run twice. What it assigns the second time is what
the variable has. -/
theorem Dialogue.run_writes_assigned_circle : ∃ run started hosting,
    Dialogue.run "A" circle = .ok run started ∧
      [.pull 8, .pull 8].foldlM Hosting.after? (.begun run started) = some hosting ∧
      hosting.dialogue.world.store.find? "seen" = some (.bool true) ∧
      hosting.WritesAssigned circle.world.store := by
  have began : Dialogue.run "A" circle = .ok { stage := .unstarted "A" } (circle.begun "A") := rfl
  have course : ([.pull 8, .pull 8].foldlM Hosting.after?
      (.begun { stage := .unstarted "A" } (circle.begun "A"))).map (fun hosting =>
        (hosting.dialogue.world.store.find? "seen", hosting.moments.all fun moment =>
          moment.calls.all fun called => decide (called.left = called.world.store))) =
      some (some (Value.bool true), true) := by
    cbv
  obtain ⟨hosting, done, seen⟩ := Option.map_eq_some_iff.1 course
  obtain ⟨assigned, spared⟩ := Prod.mk.inj seen
  have unwriting : Unwriting hosting.moments := by simpa [Unwriting] using spared
  have spares : Hosting.Heeds (fun hosting request => request.Spares hosting) [.pull 8, .pull 8]
      (.begun { stage := .unstarted "A" } (circle.begun "A")) :=
    ⟨trivial, fun _ _ => ⟨trivial, fun _ _ => trivial⟩⟩
  exact ⟨_, _, hosting, began, done, assigned, run_writes_assigned began spares done unwriting⟩

end Parley
