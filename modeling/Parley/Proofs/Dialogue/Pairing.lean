/-
This file compares two runs of two dialogues that are not the same. Their worlds may
differ in what no run looks at, their nodes may differ, and so may what is left of the
bodies that they are in. What is compared with what is said by a `Pairing`.

A pairing is sound if its worlds cannot be told apart and if one bout of the engine, in
bodies that are compared, comes to results that are compared. This is all that has to be
shown of a pairing. That the runs then yield the same, from pull to pull and from node to
node, is shown here once.
-/

import Parley.Proofs.Dialogue.Hosting
import Parley.Proofs.Engine.Likeness

namespace Parley

variable {Host Answer : Type}

/-! ### Worlds that cannot be told apart -/

/-- A relation between worlds that no run can see through. Worlds in it may differ in their journals
and in the body that is marked as running, and they stay in it when the same is written to both and
when the same is noted. -/
structure Indistinct (worlds : World Host → World Host → Prop) : Prop where
  store : ∀ {one other}, worlds one other → one.store = other.store
  host : ∀ {one other}, worlds one other → one.host = other.host
  visited : ∀ {one other}, worlds one other → one.visited = other.visited
  stopping : ∀ {one other}, worlds one other → one.stopping = other.stopping
  current : ∀ {one other}, worlds one other → one.current = other.current
  note : ∀ {one other} note, worlds one other → worlds (one.note note) (other.note note)
  write : ∀ {one other} store, worlds one other →
    worlds { one with store } { other with store }
  keep : ∀ {one other} host, worlds one other → worlds { one with host } { other with host }
  stop : ∀ {one other} stopping, worlds one other →
    worlds { one with stopping } { other with stopping }
  mark : ∀ {one other} visited, worlds one other →
    worlds { one with visited } { other with visited }
  enter : ∀ {one other} current, worlds one other →
    worlds { one with current } { other with current }
  execute : ∀ {one other} executing executing', worlds one other →
    worlds { one with executing } { other with executing := executing' }

namespace Indistinct

variable {worlds : World Host → World Host → Prop} (indistinct : Indistinct worlds)

include indistinct

theorem visit {one other : World Host} (related : worlds one other) (name : Text) :
    worlds (one.visit name) (other.visit name) := by
  rw [World.visit, World.visit, ← indistinct.visited related]
  split
  · exact related
  · exact indistinct.mark _ related

theorem react {one other : World Host} (related : worlds one other) (reaction : Reaction Host) :
    worlds (reaction.apply one) (reaction.apply other) := by
  rw [Reaction.apply, Reaction.apply, ← indistinct.store related, ← indistinct.host related,
    ← indistinct.stopping related]
  exact indistinct.stop _ (indistinct.keep _ (indistinct.write _ related))

/-- Functions cannot tell such worlds apart while the same body is running. -/
theorem resemblance :
    Resemblance fun one other => worlds one other ∧ one.executing = other.executing where
  store related := indistinct.store related.1
  note note related := ⟨indistinct.note note related.1, related.2⟩
  write store related := ⟨indistinct.write store related.1, related.2⟩
  same related := ⟨indistinct.host related.1, indistinct.visited related.1,
    indistinct.current related.1, related.2⟩
  rewrite store host related := ⟨indistinct.keep host (indistinct.write store related.1), related.2⟩
  stop related := ⟨indistinct.stop true related.1, related.2⟩

/-- A body that is run in such worlds comes to the same. -/
theorem during {one other : World Host} (related : worlds one other) (shelf : Shelf Host)
    (name : Text) (chosen : Option Nat) (traversal : Traversal) :
    Agree worlds
      ((Engine.pull (shelf.call Dialogue.home) chosen traversal).during name one)
      ((Engine.pull (shelf.call Dialogue.home) chosen traversal).during name other) := by
  -- The worlds may differ in the body that is running, which is the same from here on.
  have agree := Engine.alike_pull indistinct.resemblance.toLikeness
    (shelf.alike_call indistinct.resemblance Dialogue.home) chosen traversal
    { one with executing := some name } { other with executing := some name }
    ⟨indistinct.execute _ _ related, rfl⟩
  rw [Act.during, Act.during]
  generalize Engine.pull (shelf.call Dialogue.home) chosen traversal
    { one with executing := some name } = result at agree ⊢
  generalize Engine.pull (shelf.call Dialogue.home) chosen traversal
    { other with executing := some name } = result' at agree ⊢
  cases agree with
  | ok answer related => exact .ok answer (indistinct.execute _ _ related.1)
  | error fault related => exact .error fault (indistinct.execute _ _ related.1)

end Indistinct

/-- Two worlds that differ in the log, and in which body is running, at most. -/
structure World.SameButLog (one other : World Host) : Prop where
  store : one.store = other.store
  host : one.host = other.host
  visited : one.visited = other.visited
  stopping : one.stopping = other.stopping
  current : one.current = other.current
  told : ∀ channel, channel ≠ .log → one.told channel = other.told channel

namespace World.SameButLog

theorem refl (world : World Host) : world.SameButLog world :=
  ⟨rfl, rfl, rfl, rfl, rfl, fun _ _ => rfl⟩

theorem note {one other : World Host} (same : one.SameButLog other) (note : Note) :
    (one.note note).SameButLog (other.note note) :=
  { same with
    told := fun channel sink => by rw [told_note, told_note, same.told channel sink] }

/-- What is logged in one world only leaves the worlds the same but for the log. -/
theorem logged {one other : World Host} (same : one.SameButLog other) {note : Note}
    (logs : note.channel = .log) : one.SameButLog (other.note note) :=
  { same with
    told := fun channel sink =>
      (same.told channel sink).trans (other.told_logged sink logs).symm }

theorem indistinct : Indistinct (@SameButLog Host) where
  store same := same.store
  host same := same.host
  visited same := same.visited
  stopping same := same.stopping
  current same := same.current
  note note same := same.note note
  write _ same := { same with store := rfl }
  keep _ same := { same with host := rfl }
  stop _ same := { same with stopping := rfl }
  mark _ same := { same with visited := rfl }
  enter _ same := { same with current := rfl }
  execute _ _ same := { same with }

end World.SameButLog

/-! ### Pairings -/

/-- What is compared with what in two runs. -/
structure Pairing (Host : Type) where
  worlds : World Host → World Host → Prop
  tables : NodeTable → NodeTable → Prop := Eq
  nodes : Node → Node → Prop := Eq
  /-- The names that the runs may come to. -/
  names : Text → Prop := fun _ => True
  /-- What is left of two bodies when they go on. -/
  going : Traversal → Traversal → Prop := Eq
  /-- What is left of two bodies behind an event. Before they go on the host may see to it that the
  one can be compared with the other. -/
  left : Event → Traversal → Traversal → Prop := fun _ => going

namespace Pairing

variable (pairing : Pairing Host)

/-- The same event, behind which what is left is compared, or the same next node. -/
inductive Results : Result × Traversal → Result × Traversal → Prop
  | event (event) {traversal traversal'} : pairing.left event traversal traversal' →
    Results (.event event, traversal) (.event event, traversal')
  | complete (next) {traversal traversal'} : (∀ name, next = some name → pairing.names name) →
    Results (.complete next, traversal) (.complete next, traversal')

/-- Turns that mean the same for the runs. -/
inductive Turns : Turn → Turn → Prop
  | event (event) {traversal traversal'} : pairing.left event traversal traversal' →
    Turns (.event event traversal) (.event event traversal')
  | ended : Turns .ended .ended
  | follow (next) : (∀ name, next = some name → pairing.names name) →
    Turns (.follow next) (.follow next)

/-- The same event, or no event in both runs. -/
inductive Pulls : Pulled → Pulled → Prop
  | event (event) {node node' traversal traversal'} : pairing.nodes node node' →
    pairing.left event traversal traversal' →
    Pulls (.event event node traversal) (.event event node' traversal')
  | ended : Pulls .ended .ended
  | unfinished : Pulls .unfinished .unfinished

/-- The worlds of a pairing cannot be told apart, its tables have nodes that are compared, or none,
under each name that the runs may come to, and a bout of the engine in bodies that are compared
comes to results that are compared. -/
structure Sound : Prop where
  worlds : Indistinct pairing.worlds
  found : ∀ {table table'}, pairing.tables table table' → ∀ {name}, pairing.names name →
    Option.Rel pairing.nodes (table.get? name) (table'.get? name)
  name : ∀ {node node'}, pairing.nodes node node' → node.name = node'.name
  fresh : ∀ {node node'}, pairing.nodes node node' → pairing.going (.fresh node) (.fresh node')
  bout : ∀ (shelf : Shelf Host) (name chosen) {traversal traversal' one other},
    pairing.going traversal traversal' → pairing.worlds one other →
    Accord (Option.Rel pairing.Results) pairing.worlds
      ((Engine.pull (shelf.call Dialogue.home) chosen traversal).during name one)
      ((Engine.pull (shelf.call Dialogue.home) chosen traversal').during name other)

/-- Two dialogues of which runs can be compared. -/
structure Dialogues (one other : Dialogue Host) : Prop where
  world : pairing.worlds one.world other.world
  nodes : pairing.tables one.nodes other.nodes
  shelf : one.shelf = other.shelf
  phase : one.phase = other.phase
  debugSink : one.debugSink = other.debugSink
  errorSink : one.errorSink = other.errorSink

/-- Two stages that are compared, where `rest` says how what is left of two bodies is. -/
inductive Stages (rest : Traversal → Traversal → Prop) : Stage → Stage → Prop
  | unstarted {start} : pairing.names start → Stages rest (.unstarted start) (.unstarted start)
  | inside {node node' traversal traversal'} : pairing.nodes node node' →
    rest traversal traversal' → Stages rest (.inside node traversal) (.inside node' traversal')
  | ended : Stages rest .ended .ended

variable {pairing} {one other : Dialogue Host}

/-! ### What is done to dialogues that are compared -/

namespace Dialogues

theorem changeWorld (dialogues : pairing.Dialogues one other) {world world' : World Host}
    (worlds : pairing.worlds world world') :
    pairing.Dialogues { one with world } { other with world := world' } :=
  { dialogues with world := worlds }

theorem enterPhase (dialogues : pairing.Dialogues one other) (phase : Phase) :
    pairing.Dialogues { one with phase } { other with phase } :=
  { dialogues with phase := rfl }

variable (sound : pairing.Sound)

include sound

theorem ended (dialogues : pairing.Dialogues one other) (phase : Phase) :
    pairing.Dialogues (one.ended phase) (other.ended phase) := by
  refine { dialogues with phase := rfl, world := ?_ }
  rw [Dialogue.ended, Dialogue.ended, sound.worlds.current dialogues.world]
  exact sound.worlds.note _ dialogues.world

theorem finish (dialogues : pairing.Dialogues one other) (phase : Phase)
    {answers : Answer → Answer → Prop} {answer : Answer} (same : answers answer answer) :
    Accord answers pairing.Dialogues
      ((do Dialogue.finish phase; return answer : Operation Host Answer) one)
      ((do Dialogue.finish phase; return answer : Operation Host Answer) other) :=
  .ok same (dialogues.ended sound phase)

theorem tell (dialogues : pairing.Dialogues one other) (message : Note) :
    Accord Eq pairing.Dialogues (Dialogue.tell message one) (Dialogue.tell message other) := by
  rw [Dialogue.tell, bind_apply, bind_apply, Dialogue.get_apply, Dialogue.get_apply]
  dsimp only
  rw [← dialogues.debugSink, ← dialogues.errorSink]
  generalize (if message.channel = .errorSink then one.errorSink else one.debugSink) = present
  cases present with
  | true => exact .ok rfl (dialogues.changeWorld (sound.worlds.note message dialogues.world))
  | false => exact .error .sinkGone dialogues

/-- Results that are compared mean the same for the runs. Which way a result goes depends on the
stop flag and on nothing else in the dialogue. -/
theorem judge (dialogues : pairing.Dialogues one other) {node node' : Node}
    (nodes : pairing.nodes node node') {result result' : Result} {traversal traversal' : Traversal}
    (results : pairing.Results (result, traversal) (result', traversal')) :
    pairing.Turns (Dialogue.judge node result traversal one).1
        (Dialogue.judge node' result' traversal' other).1 ∧
      pairing.Dialogues (Dialogue.judge node result traversal one).2
        (Dialogue.judge node' result' traversal' other).2 := by
  rw [Dialogue.judge.eq_def, Dialogue.judge.eq_def, ← sound.worlds.stopping dialogues.world,
    ← sound.name nodes]
  cases results with
  | complete next expected =>
    have goesOn : Result.complete next ≠ .event (.command Dialogue.stopCommand) := by rintro ⟨⟩
    rw [if_neg goesOn, if_neg goesOn]
    split
    · exact ⟨.ended, dialogues.ended sound .aborted⟩
    · exact ⟨.follow next expected, dialogues.changeWorld (sound.worlds.visit dialogues.world _)⟩
  | event event left =>
    split
    · exact ⟨.ended, dialogues.ended sound .completed⟩
    · split
      · exact ⟨.ended, dialogues.ended sound .aborted⟩
      · exact ⟨.event event left, dialogues.enterPhase .suspended⟩

theorem takeTurn (dialogues : pairing.Dialogues one other) {node node' : Node}
    (nodes : pairing.nodes node node') (chosen : Option Nat) {traversal traversal' : Traversal}
    (going : pairing.going traversal traversal') :
    Accord pairing.Turns pairing.Dialogues (Dialogue.takeTurn node chosen traversal one)
      (Dialogue.takeTurn node' chosen traversal' other) := by
  rw [Dialogue.takeTurn_apply, Dialogue.takeTurn_apply]
  have bout : Accord (Option.Rel pairing.Results) pairing.worlds
      ((Engine.pull (one.shelf.call Dialogue.home) chosen traversal).during node.name one.world)
      ((Engine.pull (other.shelf.call Dialogue.home) chosen traversal').during node'.name
        other.world) := by
    rw [← dialogues.shelf, ← sound.name nodes]
    exact sound.bout one.shelf node.name chosen going dialogues.world
  generalize (Engine.pull (one.shelf.call Dialogue.home) chosen traversal).during node.name
    one.world = result at bout ⊢
  generalize (Engine.pull (other.shelf.call Dialogue.home) chosen traversal').during node'.name
    other.world = result' at bout ⊢
  cases bout with
  | error fault world => exact .error fault (dialogues.changeWorld world)
  | ok results world =>
    cases results with
    | none => exact .ok .ended (dialogues.changeWorld world)
    | some results =>
      obtain ⟨turns, dialogues⟩ := (dialogues.changeWorld world).judge sound nodes results
      exact .ok turns dialogues

theorem enter (dialogues : pairing.Dialogues one other) {name : Text}
    (expected : pairing.names name) :
    Accord (Option.Rel pairing.nodes) pairing.Dialogues (Dialogue.enter name one)
      (Dialogue.enter name other) := by
  have entered : pairing.Dialogues
      (one.changeWorld fun world => { world with current := some name })
      (other.changeWorld fun world => { world with current := some name }) :=
    dialogues.changeWorld (sound.worlds.enter (some name) dialogues.world)
  rw [Dialogue.enter, bind_apply, bind_apply, Dialogue.modify_apply, Dialogue.modify_apply]
  refine .bind (entered.tell sound _) fun {_ _ one other} _ dialogues => ?_
  rw [bind_apply, bind_apply, Dialogue.get_apply, Dialogue.get_apply]
  dsimp only
  have nodes := sound.found dialogues.nodes expected
  generalize one.nodes.get? name = found at nodes ⊢
  generalize other.nodes.get? name = found' at nodes ⊢
  cases nodes with
  | some nodes => exact .ok (.some nodes) dialogues
  | none =>
    exact .bind (dialogues.tell sound _) fun _ dialogues => dialogues.finish sound .aborted .none

/-- Runs that go on inside nodes come to the same, if they do when they go on behind them. -/
theorem proceed (dialogues : pairing.Dialogues one other) {budget : Nat}
    (onward : ∀ {one other}, pairing.Dialogues one other → ∀ next,
      (∀ name, next = some name → pairing.names name) →
      Accord pairing.Pulls pairing.Dialogues (Dialogue.follow budget next one)
        (Dialogue.follow budget next other))
    {node node' : Node} (nodes : pairing.nodes node node') (chosen : Option Nat)
    {traversal traversal' : Traversal} (going : pairing.going traversal traversal') :
    Accord pairing.Pulls pairing.Dialogues (Dialogue.proceed budget node chosen traversal one)
      (Dialogue.proceed budget node' chosen traversal' other) := by
  refine .bind (dialogues.takeTurn sound nodes chosen going) fun turns dialogues => ?_
  cases turns with
  | event event left => exact .ok (.event event nodes left) dialogues
  | ended => exact .ok .ended dialogues
  | follow next expected => exact onward dialogues next expected

theorem follow (dialogues : pairing.Dialogues one other) (budget : Nat) (next : Option Text)
    (expected : ∀ name, next = some name → pairing.names name) :
    Accord pairing.Pulls pairing.Dialogues (Dialogue.follow budget next one)
      (Dialogue.follow budget next other) := by
  induction budget generalizing next one other with
  | zero =>
    cases next with
    | none =>
      exact .bind (dialogues.tell sound _) fun _ dialogues =>
        dialogues.finish sound .completed .ended
    | some name => exact .ok .unfinished dialogues
  | succ budget ih =>
    cases next with
    | none =>
      exact .bind (dialogues.tell sound _) fun _ dialogues =>
        dialogues.finish sound .completed .ended
    | some name =>
      refine .bind (dialogues.enter sound (expected name rfl)) fun found dialogues => ?_
      cases found with
      | none => exact .ok .ended dialogues
      | some nodes =>
        exact dialogues.proceed sound (fun dialogues next expected => ih dialogues next expected)
          nodes none (sound.fresh nodes)

/-- Runs at stages that are compared come to the same. -/
theorem resume (dialogues : pairing.Dialogues one other) (budget : Nat) (chosen : Option Nat)
    {stage stage' : Stage} (stages : pairing.Stages pairing.going stage stage') :
    Accord pairing.Pulls pairing.Dialogues (Dialogue.resume budget chosen stage one)
      (Dialogue.resume budget chosen stage' other) := by
  cases stages with
  | unstarted expected =>
    refine dialogues.follow sound budget _ ?_
    rintro _ ⟨⟩
    exact expected
  | ended => exact .ok .ended dialogues
  | inside nodes going =>
    exact (dialogues.enterPhase .running).proceed sound
      (fun dialogues next expected => dialogues.follow sound budget next expected)
      nodes chosen going

omit sound in
/-- What comes to the same comes to the same where a fault breaks the runs off. -/
theorem guarded (sound : pairing.Sound) {answers : Answer → Answer → Prop}
    {operation operation' : Operation Host Answer}
    (goes : Accord answers pairing.Dialogues (operation one) (operation' other)) :
    Accord answers pairing.Dialogues (Dialogue.guarded operation one)
      (Dialogue.guarded operation' other) := by
  rw [Dialogue.guarded, Dialogue.guarded]
  generalize operation one = result at goes ⊢
  generalize operation' other = result' at goes ⊢
  cases goes with
  | ok answers dialogues => exact .ok answers dialogues
  | error fault dialogues => exact .error fault (dialogues.ended sound .aborted)

end Dialogues

/-! ### The same nodes -/

/-- The same body comes to results that are compared, if it is compared with itself. -/
theorem bout_self (indistinct : Indistinct pairing.worlds)
    (left : ∀ event traversal, pairing.left event traversal traversal)
    (names : ∀ name, pairing.names name) (shelf : Shelf Host) (name : Text) (chosen : Option Nat)
    (traversal : Traversal) {one other : World Host} (related : pairing.worlds one other) :
    Accord (Option.Rel pairing.Results) pairing.worlds
      ((Engine.pull (shelf.call Dialogue.home) chosen traversal).during name one)
      ((Engine.pull (shelf.call Dialogue.home) chosen traversal).during name other) := by
  refine (indistinct.during related shelf name chosen traversal).accord (.refl _ fun answer => ?_)
  match answer with
  | none => exact .none
  | some (.event event, after) => exact .some (.event event (left event after))
  | some (.complete next, _) => exact .some (.complete next fun name _ => names name)

variable {worlds : World Host → World Host → Prop}

/-- The pairing of dialogues that differ in their worlds at most. -/
def alike (worlds : World Host → World Host → Prop) : Pairing Host where
  worlds

theorem sound_alike (indistinct : Indistinct worlds) : (alike worlds).Sound where
  worlds := indistinct
  found {table table'} (tables : table = table') name _ := by
    rw [tables]
    cases table'.get? name with
    | none => exact .none
    | some node => exact .some rfl
  name {node node'} (nodes : node = node') := congrArg Node.name nodes
  fresh {node node'} (nodes : node = node') := congrArg Traversal.fresh nodes
  bout shelf name chosen traversal traversal' one other going related := by
    obtain rfl : traversal = traversal' := going
    exact bout_self indistinct (fun _ _ => rfl) (fun _ => trivial) shelf name chosen traversal
      related

theorem dialogues_alike {dialogue : Dialogue Host} {world : World Host}
    (related : worlds dialogue.world world) :
    (alike worlds).Dialogues dialogue { dialogue with world } where
  world := related
  nodes := rfl
  shelf := rfl
  phase := rfl
  debugSink := rfl
  errorSink := rfl

theorem stages_alike (stage : Stage) : (alike worlds).Stages Eq stage stage := by
  cases stage with
  | unstarted start => exact .unstarted trivial
  | inside node traversal => exact .inside rfl rfl
  | ended => exact .ended

theorem Stages.eq {stage stage' : Stage} (stages : (alike worlds).Stages Eq stage stage') :
    stage = stage' := by
  cases stages with
  | unstarted expected => rfl
  | inside nodes rest =>
    cases nodes
    cases rest
    rfl
  | ended => rfl

end Pairing

/-! ### Requests -/

/-- Tells whether an errand loads nodes. -/
def Errand.loads : Errand Host → Bool
  | loadNodes _ _ | loadScript _ _ => true
  | _ => false

/-- Tells whether a request keeps to the nodes and to the run that there are. -/
def Request.stays : Request Host → Bool
  | .errand made => !made.loads
  | .run _ => false
  | _ => true

/-- The event that a host got last, if it has done nothing else since. -/
def Touch.lastEvent? (touches : List Touch) : Option Event :=
  match touches.getLast? with
  | some (.pulled (.ok (.event event))) => some event
  | _ => none

theorem Touch.lastEvent?_event (touches : List Touch) (event : Event) :
    lastEvent? (touches ++ [.pulled (.ok (.event event))]) = some event := by
  rw [lastEvent?, List.getLast?_concat]

theorem Touch.getLast?_of_lastEvent? {touches : List Touch} {event : Event}
    (last : lastEvent? touches = some event) :
    touches.getLast? = some (.pulled (.ok (.event event))) := by
  unfold lastEvent? at last
  split at last
  · next there =>
    cases last
    exact there
  · cases last

namespace Pairing

variable (pairing : Pairing Host)

/-- How what is left of two bodies is compared, by what the host did last. -/
def rest (touches : List Touch) : Traversal → Traversal → Prop :=
  match Touch.lastEvent? touches with
  | some event => pairing.left event
  | none => pairing.going

theorem rest_steady (steady : pairing.left = fun _ => pairing.going) (touches : List Touch) :
    pairing.rest touches = pairing.going := by
  rw [rest, steady]
  cases Touch.lastEvent? touches <;> rfl

/-- Two runs that are compared. -/
structure Runs (rest : Traversal → Traversal → Prop) (run run' : Run) : Prop where
  stage : pairing.Stages rest run.stage run'.stage
  offers : run.offers = run'.offers

/-- Two hosts that did the same with dialogues that are compared. -/
structure Hostings (one other : Hosting Host) : Prop where
  dialogue : pairing.Dialogues one.dialogue other.dialogue
  run : Option.Rel (pairing.Runs (pairing.rest one.touches)) one.run other.run
  touches : one.touches = other.touches

variable {pairing} {one other : Hosting Host}

namespace Hostings

/-- Pulls that come to the same are the same to the hosts. -/
theorem pulled {run run' : Run} {budget : Nat} (latest : one.run = some run)
    (latest' : other.run = some run') (offers : run.offers = run'.offers)
    (touches : one.touches = other.touches)
    (goes : Accord pairing.Pulls pairing.Dialogues
      (Dialogue.guarded (Dialogue.resume budget (Offer.latest? run.offers) run.stage) one.dialogue)
      (Dialogue.guarded (Dialogue.resume budget (Offer.latest? run.offers) run'.stage)
        other.dialogue)) :
    Option.Rel pairing.Hostings (one.after? (.pull budget)) (other.after? (.pull budget)) := by
  rw [Hosting.after?, Hosting.after?, latest, latest']
  dsimp only
  rw [Dialogue.pull, Dialogue.pull, ← offers]
  generalize Dialogue.guarded (Dialogue.resume budget (Offer.latest? run.offers) run.stage)
    one.dialogue = result at goes ⊢
  generalize Dialogue.guarded (Dialogue.resume budget (Offer.latest? run.offers) run'.stage)
    other.dialogue = result' at goes ⊢
  have touched (touch : Touch) : one.touches ++ [touch] = other.touches ++ [touch] :=
    congrArg (· ++ _) touches
  cases goes with
  | error fault dialogues =>
    exact .some ⟨dialogues, .some ⟨.ended, rfl⟩, touched _⟩
  | ok pulls dialogues =>
    cases pulls with
    | ended => exact .some ⟨dialogues, .some ⟨.ended, rfl⟩, touched _⟩
    | unfinished => exact .none
    | event event nodes left =>
      refine .some ⟨dialogues, .some ⟨.inside nodes ?_, rfl⟩, touched _⟩
      rw [rest, Touch.lastEvent?_event]
      exact left

theorem runs (hostings : pairing.Hostings one other) :
    (one.run = none ∧ other.run = none) ∨ ∃ run run', one.run = some run ∧ other.run = some run' ∧
      pairing.Runs (pairing.rest one.touches) run run' := by
  obtain ⟨-, runs, -⟩ := hostings
  generalize one.run = latest at runs ⊢
  generalize other.run = latest' at runs ⊢
  cases runs with
  | none => exact .inl ⟨rfl, rfl⟩
  | some runs => exact .inr ⟨_, _, rfl, rfl, runs⟩

theorem choose (hostings : pairing.Hostings one other) (place : Nat) (index : Literal) :
    Option.Rel pairing.Hostings (one.after? (.choose place index))
      (other.after? (.choose place index)) := by
  rw [Hosting.after?, Hosting.after?]
  obtain ⟨none, none'⟩ | ⟨run, run', latest, latest', runs⟩ := hostings.runs
  · rw [none, none']
    exact .some hostings
  · rw [latest, latest']
    dsimp only
    rw [Run.choose, Run.choose, ← runs.offers]
    cases Offer.chooseIn run.offers place index with
    | ok offers => exact .some { hostings with run := .some ⟨runs.stage, rfl⟩ }
    | error fault => exact .some hostings

theorem close (sound : pairing.Sound) (hostings : pairing.Hostings one other) :
    Option.Rel pairing.Hostings (one.after? .close) (other.after? .close) := by
  rw [Hosting.after?, Hosting.after?]
  obtain ⟨none, none'⟩ | ⟨run, run', latest, latest', runs⟩ := hostings.runs
  · rw [none, none']
    exact .some hostings
  · rw [latest, latest']
    obtain ⟨stage, offers⟩ := run
    obtain ⟨stage', offers'⟩ := run'
    have touched : one.touches ++ [.closed] = other.touches ++ [.closed] :=
      congrArg (· ++ _) hostings.touches
    cases runs.stage with
    | inside nodes left =>
      exact .some ⟨hostings.dialogue.ended sound .completed, .some ⟨.ended, runs.offers⟩, touched⟩
    | unstarted expected => exact .some ⟨hostings.dialogue, .some ⟨.ended, runs.offers⟩, touched⟩
    | ended => exact .some ⟨hostings.dialogue, .some ⟨.ended, runs.offers⟩, touched⟩

theorem errand (sound : pairing.Sound) (hostings : pairing.Hostings one other)
    {errand : Errand Host} (keeps : errand.loads = false) :
    Option.Rel pairing.Hostings (one.after? (.errand errand)) (other.after? (.errand errand)) := by
  refine .some { hostings with dialogue := ?_ }
  have dialogues := hostings.dialogue
  cases errand with
  | loadNodes nodes strict => cases keeps
  | loadScript script strict => cases keeps
  | arrange shelf => exact { dialogues with shelf := rfl }
  | write store host stopping =>
    exact { dialogues with world := sound.worlds.react dialogues.world { store, host, stopping } }
  | provide debugSink errorSink =>
    exact { dialogues with
      debugSink := congrArg (· || debugSink) dialogues.debugSink
      errorSink := congrArg (· || errorSink) dialogues.errorSink }

/-- Where nothing has to be seen to behind an event, a request that keeps to the run has the same
outcome for both. -/
theorem after? (sound : pairing.Sound) (steady : pairing.left = fun _ => pairing.going)
    (hostings : pairing.Hostings one other) {request : Request Host}
    (stays : request.stays = true) :
    Option.Rel pairing.Hostings (one.after? request) (other.after? request) := by
  cases request with
  | errand errand => exact hostings.errand sound (by simpa [Request.stays] using stays)
  | run start => cases stays
  | choose place index => exact hostings.choose place index
  | close => exact hostings.close sound
  | pull budget =>
    obtain ⟨none, none'⟩ | ⟨run, run', latest, latest', runs⟩ := hostings.runs
    · rw [Hosting.after?, Hosting.after?, none, none']
      exact .some hostings
    · refine pulled latest latest' runs.offers hostings.touches ?_
      refine Dialogues.guarded sound (hostings.dialogue.resume sound budget _ ?_)
      rw [← pairing.rest_steady steady one.touches]
      exact runs.stage

end Hostings

/-! ### Hosts of dialogues with the same nodes -/

variable {worlds : World Host → World Host → Prop}

theorem hostings_alike {hosting : Hosting Host} {world : World Host}
    (related : worlds hosting.dialogue.world world) :
    (alike worlds).Hostings hosting
      { hosting with dialogue := { hosting.dialogue with world } } where
  dialogue := dialogues_alike related
  run := by
    rw [(alike worlds).rest_steady rfl]
    cases hosting.run with
    | none => exact .none
    | some run => exact .some ⟨stages_alike run.stage, rfl⟩
  touches := rfl

theorem Hostings.run_eq (hostings : (alike worlds).Hostings one other) : one.run = other.run := by
  obtain ⟨none, none'⟩ | ⟨⟨stage, offers⟩, ⟨stage', offers'⟩, latest, latest', runs⟩ :=
    hostings.runs
  · rw [none, none']
  · rw [(alike worlds).rest_steady rfl] at runs
    obtain rfl : stage = stage' := runs.stage.eq
    obtain rfl : offers = offers' := runs.offers
    rw [latest, latest']

end Pairing

/-! ### Any requests -/

theorem rel_mono {State State' : Type} {relation relation' : State → State' → Prop}
    {outcome : Option State} {outcome' : Option State'} (rel : Option.Rel relation outcome outcome')
    (weaker : ∀ one other, relation one other → relation' one other) :
    Option.Rel relation' outcome outcome' := by
  cases rel with
  | none => exact .none
  | some related => exact .some (weaker _ _ related)

/-- What the outcomes of each request have in common holds behind any requests. -/
theorem rel_foldlM {State State' Request : Type} {relation : State → State' → Prop}
    {step : State → Request → Option State} {step' : State' → Request → Option State'}
    {requests : List Request}
    (steps : ∀ request ∈ requests, ∀ one other, relation one other →
      Option.Rel relation (step one request) (step' other request))
    {one : State} {other : State'} (starts : relation one other) :
    Option.Rel relation (requests.foldlM step one) (requests.foldlM step' other) := by
  induction requests generalizing one other with
  | nil => exact .some starts
  | cons request rest ih =>
    rw [List.foldlM_cons, List.foldlM_cons]
    have first := steps request List.mem_cons_self one other starts
    generalize step one request = next at first ⊢
    generalize step' other request = next' at first ⊢
    cases first with
    | none => exact .none
    | some related =>
      exact ih (fun request member => steps request (List.mem_cons_of_mem _ member)) related

/-- Hosts that make the same requests of dialogues that are compared get the same. -/
theorem Pairing.Hostings.requests {pairing : Pairing Host} {one other : Hosting Host}
    (sound : pairing.Sound) (steady : pairing.left = fun _ => pairing.going)
    (hostings : pairing.Hostings one other) {requests : List (Request Host)}
    (stays : ∀ request ∈ requests, request.stays = true) :
    Option.Rel pairing.Hostings (requests.foldlM Hosting.after? one)
      (requests.foldlM Hosting.after? other) :=
  rel_foldlM (fun request member _ _ hostings =>
    hostings.after? sound steady (stays request member)) hostings

end Parley
