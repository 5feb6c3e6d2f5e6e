/-
This file settles that what a host writes between two pulls counts as if the script had
assigned it there. Two hosts are compared. The first sets a variable each time it is told
a certain line, before it pulls again. The second writes nothing, but runs nodes in which
the line is followed by an assignment, wherever it stands. The two get the same from every
pull, and find the same variables behind it.

Between the pulls the two differ: where the runs wait at the line, the one has still to
assign what the other has still to write. Both do so as the first thing of the next pull.
-/

import Parley.Proofs.Dialogue.Pairing
import Parley.Proofs.Dialogue.Phases
import Parley.Proofs.Engine.Cue

namespace Parley

variable {Host : Type}

namespace Cue

variable (cue : Cue)

/-! ### Nodes with assignments in them -/

/-- A table with the assignments in its nodes. -/
def inTable (table : NodeTable) : NodeTable :=
  ⟨table.entries.map cue.inNode, by
    rw [List.map_map]
    exact table.nodup⟩

theorem get?_inTable (table : NodeTable) (name : Text) :
    (cue.inTable table).get? name = (table.get? name).map cue.inNode := by
  rw [Roster.get?, inTable, List.find?_map]
  rfl

/-- A dialogue with the assignments in its nodes. -/
def inDialogue (dialogue : Dialogue Host) : Dialogue Host :=
  { dialogue with nodes := cue.inTable dialogue.nodes }

/-- The pairing of a dialogue with the one that has the assignments in its nodes. -/
def pairing : Pairing Host where
  worlds := World.SameButLog
  tables table table' := table' = cue.inTable table
  nodes node node' := node' = cue.inNode node
  going traversal traversal' := traversal' = cue.inTraversal traversal
  left event traversal traversal' :=
    traversal.Follows (.event event) ∧ traversal' = cue.behind event traversal

/-- Results that tell the same are compared. -/
theorem Tells.results {result result' : Result × Traversal} (tells : cue.Tells result result') :
    (@pairing Host cue).Results result result' := by
  cases tells with
  | event follows => exact .event _ ⟨follows, rfl⟩
  | complete next => exact .complete next fun _ _ => trivial

theorem tells_during (shelf : Shelf Host) (name : Text) (chosen : Option Nat)
    (traversal : Traversal) (world : World Host) :
    Accord (Option.Rel (@pairing Host cue).Results) Eq
      ((Engine.pull (shelf.call Dialogue.home) chosen traversal).during name world)
      ((Engine.pull (shelf.call Dialogue.home) chosen (cue.inTraversal traversal)).during name
        world) := by
  have accord := cue.tells_pull (shelf.call Dialogue.home) chosen traversal
    { world with executing := some name }
  rw [Act.during, Act.during]
  generalize Engine.pull (shelf.call Dialogue.home) chosen traversal
    { world with executing := some name } = result at accord ⊢
  generalize Engine.pull (shelf.call Dialogue.home) chosen (cue.inTraversal traversal)
    { world with executing := some name } = result' at accord ⊢
  cases accord with
  | error fault same => exact .error fault (by rw [same])
  | ok told same =>
    refine .ok ?_ (by rw [same])
    cases told with
    | none => exact .none
    | some tells => exact .some tells.results

theorem sound_pairing : (@pairing Host cue).Sound where
  worlds := World.SameButLog.indistinct
  found := by
    rintro table _ rfl name -
    rw [cue.get?_inTable]
    cases table.get? name with
    | none => exact .none
    | some node => exact .some rfl
  name := by
    rintro node _ rfl
    rfl
  fresh := by
    rintro node _ rfl
    rfl
  bout := by
    rintro shelf name chosen traversal _ one other rfl same
    exact (World.SameButLog.indistinct.during same shelf name chosen traversal).accord
      (cue.tells_during shelf name chosen traversal other)

/-! ### What is written and what is assigned -/

/-- The world when the assignment has been made in a body. -/
def assign (running : Text) (world : World Host) : World Host :=
  { ({ world with executing := some running } : World Host).note
      (.assigned cue.name cue.value) with
    store := world.store.put cue.name cue.value
    executing := world.executing }

/-- What a host writes when it is told the line. -/
def errand : Errand Host := .write (·.put cue.name cue.value) id id

/-- Where a run goes on with the assignment, it goes on as if it had been made before. -/
theorem resume_assigned (budget : Nat) (chosen : Option Nat) (node : Node) (name : Text)
    (rest : List Statement) (dialogue : Dialogue Host) :
    Dialogue.resume budget chosen (.inside node (.within name (cue.statement :: rest))) dialogue =
      Dialogue.resume budget chosen (.inside node (.within name rest))
        (dialogue.changeWorld (cue.assign node.name)) := by
  have assigned (world : World Host) :
      (Engine.pull (dialogue.shelf.call Dialogue.home) chosen
          (.within name (cue.statement :: rest))).during node.name world =
        (Engine.pull (dialogue.shelf.call Dialogue.home) chosen (.within name rest)).during
          node.name (cue.assign node.name world) := by
    rw [Act.during, Act.during, cue.pull_assigned]
    rfl
  rw [Dialogue.resume_inside, Dialogue.resume_inside, Dialogue.proceed_apply,
    Dialogue.proceed_apply]
  dsimp only
  rw [assigned]
  rfl

/-- What the one host writes, the other run has assigned. -/
theorem dialogues_assigned {one other : Dialogue Host}
    (dialogues : cue.pairing.Dialogues one other) (running : Text) :
    cue.pairing.Dialogues (cue.errand.after one) (other.changeWorld (cue.assign running)) := by
  have same : one.world.SameButLog other.world := dialogues.world
  have marked : one.world.SameButLog { other.world with executing := some running } :=
    { same with }
  have noted : one.world.SameButLog (World.note { other.world with executing := some running }
      (.assigned cue.name cue.value)) := marked.logged rfl
  have written : one.world.store.put cue.name cue.value =
      other.world.store.put cue.name cue.value := by rw [same.store]
  have world : (cue.errand.after one).world.SameButLog (cue.assign running other.world) :=
    { noted with store := written }
  exact { dialogues with world := world }

/-! ### Hosts -/

/-- A host that, when it has just been told the line, writes the value before it pulls again. -/
def after? (hosting : Hosting Host) (request : Request Host) : Option (Hosting Host) :=
  match request with
  | .pull _ =>
    if Touch.lastEvent? hosting.touches = some (.line cue.text) then do
      let written ← hosting.after? (.errand cue.errand)
      written.after? request
    else hosting.after? request
  | _ => hosting.after? request

/-- Unless the hosts have just been told the line, nothing is to be written or assigned. -/
theorem stages_of_rest {touches : List Touch}
    (other : Touch.lastEvent? touches ≠ some (.line cue.text)) {stage stage' : Stage}
    (stages : (@pairing Host cue).Stages ((@pairing Host cue).rest touches) stage stage') :
    (@pairing Host cue).Stages (@pairing Host cue).going stage stage' := by
  cases stages with
  | unstarted expected => exact .unstarted expected
  | ended => exact .ended
  | inside nodes rest =>
    refine .inside nodes ?_
    rw [Pairing.rest] at rest
    cases last : Touch.lastEvent? touches with
    | none =>
      rw [last] at rest
      exact rest
    | some event =>
      rw [last] at rest other
      exact rest.2.trans (cue.behind_other (fun line => other (congrArg some line)) _)

/-- Where the runs wait at the line, the other run goes on with the assignment. -/
theorem stages_at_line {touches : List Touch} {complaints : List Text} {phase : Phase}
    {stage stage' : Stage} (last : Touch.lastEvent? touches = some (.line cue.text))
    (fits : stage'.Fits touches complaints phase)
    (stages : (@pairing Host cue).Stages ((@pairing Host cue).rest touches) stage stage') :
    ∃ node name rest, stage = .inside node (.within name rest) ∧
      stage' = .inside (cue.inNode node) (.within name (cue.statement :: cue.inBlock rest)) := by
  cases stages with
  | unstarted expected =>
    obtain ⟨rfl, -⟩ := fits
    cases last
  | ended =>
    obtain ⟨touch, latest, waitless⟩ := fits.last
    rw [Touch.getLast?_of_lastEvent? last] at latest
    exact absurd ⟨_, (Option.some.inj latest).symm⟩ waitless
  | @inside node node' traversal traversal' nodes rest =>
    rw [Pairing.rest, last] at rest
    obtain ⟨follows, rfl⟩ := rest
    obtain rfl : node' = cue.inNode node := nodes
    cases traversal with
    | within name rest =>
      refine ⟨node, name, rest, rfl, ?_⟩
      rw [behind, behindEvent, if_pos rfl, List.singleton_append]
    | fresh fresh => exact absurd follows id
    | offered name replies rest => cases follows
    | ended => exact absurd rfl (follows.ne_ended (by rintro _ ⟨⟩))

/-- A request has the same outcome for both hosts. -/
theorem hostings_after? {one other : Hosting Host} (hostings : cue.pairing.Hostings one other)
    (phased : other.Phased) {request : Request Host} (stays : request.stays = true) :
    Option.Rel cue.pairing.Hostings (cue.after? one request) (other.after? request) := by
  cases request with
  | errand made => exact hostings.errand cue.sound_pairing (by simpa [Request.stays] using stays)
  | run start => cases stays
  | choose place index => exact hostings.choose place index
  | close => exact hostings.close cue.sound_pairing
  | pull budget =>
    obtain ⟨none, none'⟩ | ⟨run, run', latest, latest', runs⟩ := hostings.runs
    · have silent : Touch.lastEvent? one.touches = .none := by
        rw [hostings.touches, (phased.idle none').2]
        rfl
      rw [after?, if_neg (by rw [silent]; rintro ⟨⟩), Hosting.after?, Hosting.after?, none, none']
      exact .some hostings
    · by_cases last : Touch.lastEvent? one.touches = some (.line cue.text)
      · rw [after?, if_pos last]
        have fits := phased.stage run' latest'
        rw [← hostings.touches] at fits
        obtain ⟨node, name, rest, waits, waits'⟩ := cue.stages_at_line last fits runs.stage
        refine Pairing.Hostings.pulled latest latest' runs.offers hostings.touches ?_
        refine Pairing.Dialogues.guarded cue.sound_pairing ?_
        rw [waits, waits', resume_assigned]
        exact (cue.dialogues_assigned hostings.dialogue node.name).resume cue.sound_pairing budget _
          (.inside rfl rfl)
      · rw [after?, if_neg last]
        refine Pairing.Hostings.pulled latest latest' runs.offers hostings.touches ?_
        exact Pairing.Dialogues.guarded cue.sound_pairing
          (hostings.dialogue.resume cue.sound_pairing budget _
            (cue.stages_of_rest last runs.stage))

/-- The two hosts, of which the second makes steps of a dialogue of its own. Its phase says where
its run waits, and so where the run of the first does. -/
structure Follows (one other : Hosting Host) : Prop where
  hostings : cue.pairing.Hostings one other
  ready : other.Ready
  phased : other.Phased

theorem follows_begun {start : Text} {dialogue started : Dialogue Host} {run : Run}
    (began : Dialogue.run start dialogue = .ok run started)
    (began' : Dialogue.run start (cue.inDialogue dialogue) = .ok run (cue.inDialogue started)) :
    cue.Follows (.begun run started) (.begun run (cue.inDialogue started)) where
  hostings := by
    obtain ⟨rfl, -⟩ := Dialogue.run_eq_ok began
    exact ⟨⟨.refl _, rfl, rfl, rfl, rfl, rfl⟩, .some ⟨.unstarted trivial, rfl⟩, rfl⟩
  ready := Hosting.ready_begun began'
  phased := Hosting.phased_begun began'

theorem Follows.after? {one other : Hosting Host} (follows : cue.Follows one other)
    {request : Request Host} (stays : request.stays = true) :
    Option.Rel cue.Follows (cue.after? one request) (other.after? request) := by
  have outcome := cue.hostings_after? follows.hostings follows.phased stays
  generalize cue.after? one request = first at outcome ⊢
  cases led : other.after? request with
  | none =>
    rw [led] at outcome
    cases outcome with
    | none => exact .none
  | some next =>
    rw [led] at outcome
    have step := follows.ready.step led
    cases outcome with
    | some hostings => exact .some ⟨hostings, step.ready follows.ready, step.phased follows.phased⟩

end Cue

/-- Two hosts got the same from their runs, and find the same behind what they did last. -/
structure Hosting.Alike (one other : Hosting Host) : Prop where
  touches : one.touches = other.touches
  offers : one.run.map Run.offers = other.run.map Run.offers
  phase : one.dialogue.phase = other.dialogue.phase
  world : one.dialogue.world.SameButLog other.dialogue.world

theorem Pairing.Hostings.alike {pairing : Pairing Host} {one other : Hosting Host}
    (hostings : pairing.Hostings one other)
    (worlds : pairing.worlds = World.SameButLog) : one.Alike other where
  touches := hostings.touches
  offers := by
    obtain ⟨none, none'⟩ | ⟨run, run', latest, latest', runs⟩ := hostings.runs
    · rw [none, none']
    · rw [latest, latest', Option.map_some, Option.map_some, runs.offers]
  phase := hostings.dialogue.phase
  world := by
    rw [← worlds]
    exact hostings.dialogue.world

/-- What a host writes between two pulls counts like an assignment. Take any dialogue and any line,
variable and value. A host that writes the value into the variable whenever it has been told the
line, before it pulls again, gets the same from every pull as a host that writes nothing, but runs
nodes in which every such line is followed by the assignment. After each of its requests the
dialogues have the same variables, marks, stop flag, current node and phase, the hosts are in the
same state, and the sinks have been told the same. -/
theorem Cue.writes_count_as_assignments (cue : Cue) {dialogue started : Dialogue Host}
    {start : Text} {run : Run} (began : Dialogue.run start dialogue = .ok run started)
    {requests : List (Request Host)} (stays : ∀ request ∈ requests, request.stays = true) :
    Dialogue.run start (cue.inDialogue dialogue) = .ok run (cue.inDialogue started) ∧
      Option.Rel Hosting.Alike (requests.foldlM cue.after? (.begun run started))
        (requests.foldlM Hosting.after? (.begun run (cue.inDialogue started))) := by
  obtain ⟨rfl, heard, -⟩ := Dialogue.run_eq_ok began
  obtain rfl := Dialogue.begun_of_run began
  have began' : Dialogue.run start (cue.inDialogue dialogue) =
      .ok { stage := .unstarted start } (cue.inDialogue (dialogue.begun start)) :=
    Dialogue.run_apply start heard
  refine ⟨began', ?_⟩
  refine rel_mono (rel_foldlM (fun request member _ _ follows =>
    follows.after? cue (stays request member)) (cue.follows_begun began began')) ?_
  exact fun _ _ follows => follows.hostings.alike rfl

/-- The cue of a greeting. -/
def Cue.greeting : Cue := ⟨"Hello.", "$greeted", .bool true⟩

/-- A node that greets in an inner block, and then asks for the variable of the cue. -/
def Dialogue.greeter : Dialogue Unit :=
  solo [.branch [⟨.literal (.bool true), [.say "Hello."]⟩] [],
    .branch [⟨.read "$greeted", [.say "Welcome."]⟩] [.say "Who is there?"]]

/-- The variable that the host has written is asked for behind the greeting. -/
example :
    ([Request.pull 8, .pull 8].foldlM Cue.greeting.after?
        (.begun { stage := .unstarted "A" } (Dialogue.greeter.begun "A"))).map
      (fun hosting => Touch.lastEvent? hosting.touches) = some (some (.line "Welcome.")) := by
  cbv

theorem Cue.writes_count_as_assignments_greeting :
    ∃ run started, Dialogue.run "A" Dialogue.greeter = .ok run started ∧
      Dialogue.run "A" (greeting.inDialogue Dialogue.greeter) =
        .ok run (greeting.inDialogue started) ∧
      Option.Rel Hosting.Alike
        ([Request.pull 8, .pull 8].foldlM greeting.after? (.begun run started))
        ([Request.pull 8, .pull 8].foldlM Hosting.after?
          (.begun run (greeting.inDialogue started))) := by
  have stays : ∀ request ∈ [(.pull 8 : Request Unit), .pull 8], request.stays = true := by
    simp [Request.stays]
  refine ⟨_, _, rfl, ?_⟩
  exact writes_count_as_assignments greeting rfl stays

end Parley
