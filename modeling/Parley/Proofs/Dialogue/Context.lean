/-
This file says what can be told of the context while a run goes on: the node that is
marked as running, the node that the dialogue holds to be the current one, and the one
that the debug sink heard of last. The engine marks nothing and tells nobody anything,
so all three stay as they are for as long as it works on a node. What is done between
two bouts is done with no node marked, and reported by the dialogue alone.

A sink may be taken away while a run waits. A pull then fails where it has something to
tell, and not before. So pulls are followed here with any sinks, and a name that a run
came to without being able to say so is one that it came to all the same.
-/

import Parley.Proofs.Dialogue.Assertions
import Parley.Proofs.Dialogue.Termination
import Parley.Proofs.Engine.Within

namespace Parley

variable {Host : Type}

/-! ### The node that was announced -/

/-- The node that a message is about, if the message says that a node runs. -/
def Note.running? : Note → Option Text
  | .tellRunning name => some name
  | _ => none

theorem Note.running?_of_log {note : Note} (logs : note.channel = .log) : note.running? = none := by
  cases note with
  | tellRunning name => cases logs
  | _ => rfl

/-- The node of which the debug sink heard last that it runs. -/
def World.announced (world : World Host) : Option Text :=
  (world.journal.toList.filterMap fun entry => entry.note.running?).getLast?

theorem World.journal_note (world : World Host) (note : Note) :
    (world.note note).journal.toList = world.journal.toList ++ [⟨world.executing, note⟩] := by
  simp [World.note]

/-- What says of no node that it runs announces none. -/
theorem World.announced_of_journal {before after : World Host} {news : List Entry}
    (journal : after.journal.toList = before.journal.toList ++ news)
    (silent : ∀ entry ∈ news, entry.note.running? = none) : after.announced = before.announced := by
  have nothing : news.filterMap (fun entry => entry.note.running?) = [] :=
    List.filterMap_eq_nil_iff.2 silent
  rw [announced, announced, journal, List.filterMap_append, nothing, List.append_nil]

theorem World.announced_reach (name : Text) (world : World Host) :
    (world.reach name).announced = some name := by
  rw [announced, reach, journal_note, List.filterMap_append]
  exact List.getLast?_concat

/-! ### What a body leaves alone -/

/-- Nothing of the context has changed from one world to another, and all that was reported was
logged in the same context. -/
structure World.Within (before after : World Host) : Prop where
  executing : after.executing = before.executing
  current : after.current = before.current
  journal : ∃ records, after.journal.toList = before.journal.toList ++ records ∧
    ∀ record ∈ records, record.context = before.executing ∧ record.note.channel = .log

theorem World.Within.unreported {before after : World Host}
    (executing : after.executing = before.executing) (current : after.current = before.current)
    (journal : after.journal = before.journal) : before.Within after := by
  refine ⟨executing, current, [], ?_, fun _ member => absurd member List.not_mem_nil⟩
  rw [journal, List.append_nil]

theorem Ordinary.within : Ordinary fun before after : World Host => before.Within after where
  refl _ := .unreported rfl rfl rfl
  trans := by
    rintro first second third ⟨executing, current, records, journal, logged⟩
      ⟨executing', current', records', journal', logged'⟩
    refine ⟨executing'.trans executing, current'.trans current, records ++ records', ?_, ?_⟩
    · rw [journal', journal, List.append_assoc]
    · intro record member
      obtain early | late := List.mem_append.1 member
      · exact logged record early
      · exact ⟨(logged' record late).1.trans executing, (logged' record late).2⟩
  log world note logs := by
    refine ⟨rfl, rfl, [⟨world.executing, note⟩], world.journal_note note, fun record member => ?_⟩
    cases List.mem_singleton.1 member
    exact ⟨rfl, logs⟩
  write _ _ _ := .unreported rfl rfl rfl
  stop _ := .unreported rfl rfl rfl

theorem World.Within.announced {before after : World Host} (within : before.Within after) :
    after.announced = before.announced := by
  obtain ⟨records, journal, logged⟩ := within.journal
  exact announced_of_journal journal fun record member =>
    Note.running?_of_log (logged record member).2

/-! ### Bouts -/

namespace Bout

/-- The world in which the engine begins its work. -/
def entered (bout : Bout Host) : World Host :=
  { bout.dialogue.world with executing := some bout.node.name }

/-- What holds of the world at every position that a bout comes to, and of the world in which each
of its calls is made. -/
def Finds (bout : Bout Host) (holds : World Host → Prop) : Prop :=
  (∀ position record, bout.Reaches position record → holds position.world) ∧
    ∀ called ∈ bout.calls, holds called.world

/-- What a bout adds to the journal. -/
def records (bout : Bout Host) : List Entry :=
  bout.left.journal.toList.drop bout.dialogue.world.journal.toList.length

theorem finds_within (bout : Bout Host) : bout.Finds bout.entered.Within := by
  have keeps (name : Text) (operands : List Value) :
      (bout.dialogue.shelf.call Dialogue.home name operands).Keeps
        fun before after : World Host => before.Within after :=
    bout.dialogue.shelf.keeps_call Ordinary.within Dialogue.home name operands
  have finds (name : Text) (operands : List Value) (world : World Host) :
      ∀ called ∈ bout.dialogue.shelf.calls Dialogue.home name operands world,
        called.world = world := fun _ member => (Shelf.callsWithin_spec member).1
  refine ⟨fun position record reaches => ?_, fun called member => ?_⟩
  · exact Engine.Passes.within Ordinary.within.plain keeps finds reaches
  · exact Engine.recorded_within Ordinary.within.plain keeps finds member

theorem Finds.mono {bout : Bout Host} {holds weaker : World Host → Prop} (finds : bout.Finds holds)
    (implies : ∀ world, holds world → weaker world) : bout.Finds weaker :=
  ⟨fun position record reaches => implies _ (finds.1 position record reaches),
    fun called member => implies _ (finds.2 called member)⟩

/-- What is run in a bout was left of the node. -/
theorem Reaches.parts {bout : Bout Host} {position : Engine.Position Host}
    {record : List (Called Host)} (reaches : bout.Reaches position record) :
    (Statement.blockParts position.rest).Sublist bout.traversal.parts := Engine.Passes.parts reaches

/-- A bout changes nothing of the context, and logs everything that it reports. -/
theorem left_spec (bout : Bout Host) :
    bout.left.executing = bout.dialogue.world.executing ∧
      bout.left.current = bout.dialogue.world.current ∧
      bout.left.journal.toList = bout.dialogue.world.journal.toList ++ bout.records ∧
      ∀ record ∈ bout.records,
        record.context = some bout.node.name ∧ record.note.channel = .log := by
  obtain ⟨-, current, records, journal, logged⟩ :=
    Engine.keeps_pull Ordinary.within
      (fun name operands =>
        bout.dialogue.shelf.keeps_call Ordinary.within Dialogue.home name operands)
      bout.chosen bout.traversal bout.entered
  have added : bout.left.journal.toList = bout.dialogue.world.journal.toList ++ records := by
    rw [left_eq]
    exact journal
  have same : bout.records = records := by rw [Bout.records, added, List.drop_left]
  rw [same]
  refine ⟨?_, ?_, added, logged⟩
  · rw [left_eq]
  · rw [left_eq]
    exact current

theorem announced_left (bout : Bout Host) :
    bout.left.announced = bout.dialogue.world.announced := by
  obtain ⟨-, -, journal, logged⟩ := bout.left_spec
  exact World.announced_of_journal journal fun record member =>
    Note.running?_of_log (logged record member).2

end Bout

/-! ### Places -/

/-- What is left of a node stands in its body; the node is the current one if `moved` holds, and the
one that was announced last if `spoke` does. -/
structure World.Locates (moved spoke : Prop) (node : Node) (traversal : Traversal)
    (world : World Host) : Prop where
  body : traversal.parts ⊆ Statement.blockParts node.body
  current : moved → world.current = some node.name
  announced : spoke → world.announced = some node.name

theorem World.Locates.mono {moved spoke moved' spoke' : Prop} {world world' : World Host}
    {node : Node} {traversal : Traversal} (locates : world.Locates moved spoke node traversal)
    (current : moved' → moved ∧ world'.current = world.current)
    (announced : spoke' → spoke ∧ world'.announced = world.announced) :
    world'.Locates moved' spoke' node traversal where
  body := locates.body
  current moves := (current moves).2.trans (locates.current (current moves).1)
  announced speaks := (announced speaks).2.trans (locates.announced (announced speaks).1)

/-- A run that is inside a node has begun it, and the node is located. -/
def Stage.Located (moved spoke : Prop) (world : World Host) : Stage → Prop
  | .inside node traversal =>
    (∀ entered, traversal ≠ .fresh entered) ∧ world.Locates moved spoke node traversal
  | _ => True

theorem Stage.Located.mono {moved spoke moved' spoke' : Prop} {world world' : World Host}
    {stage : Stage} (located : stage.Located moved spoke world)
    (current : moved' → moved ∧ world'.current = world.current)
    (announced : spoke' → spoke ∧ world'.announced = world.announced) :
    stage.Located moved' spoke' world' := by
  cases stage with
  | inside node traversal => exact ⟨located.1, located.2.mono current announced⟩
  | _ => trivial

/-- The context of a bout is exact: its node is marked wherever it comes and in whatever it reports,
and what is run stands in the body of the node; the node is the current one throughout if `moved`
holds, and the one that was announced last if `spoke` does. -/
structure Bout.Exact (moved spoke : Prop) (bout : Bout Host) : Prop where
  marked : bout.Finds fun world => world.executing = some bout.node.name
  records : ∀ record ∈ bout.records,
    record.context = some bout.node.name ∧ record.note.channel = .log
  body : ∀ position record, bout.Reaches position record →
    Statement.blockParts position.rest ⊆ Statement.blockParts bout.node.body
  current : moved → (bout.Finds fun world => world.current = some bout.node.name) ∧
    bout.left.current = some bout.node.name
  announced : spoke → (bout.Finds fun world => world.announced = some bout.node.name) ∧
    bout.left.announced = some bout.node.name

theorem Bout.exact {moved spoke : Prop} {bout : Bout Host}
    (locates : bout.dialogue.world.Locates moved spoke bout.node bout.traversal) :
    bout.Exact moved spoke := by
  obtain ⟨parts, current, announced⟩ := locates
  obtain ⟨-, unmoved, -, records⟩ := bout.left_spec
  have entered : bout.entered.announced = bout.dialogue.world.announced := rfl
  refine ⟨?_, records, fun position record reaches => ?_, fun moves => ⟨?_, ?_⟩,
    fun speaks => ⟨?_, ?_⟩⟩
  · exact bout.finds_within.mono fun world within => within.executing
  · exact List.Subset.trans reaches.parts.subset parts
  · exact bout.finds_within.mono fun world within => within.current.trans (current moves)
  · exact unmoved.trans (current moves)
  · exact bout.finds_within.mono fun world within =>
      within.announced.trans (entered.trans (announced speaks))
  · exact bout.announced_left.trans (announced speaks)

/-! ### Reports -/

/-- An entry of the journal is explained by what a pull goes through: it is a record of one of the
bouts, or comes from elsewhere than the engine and was made with no node marked. -/
def Entry.Explained (moments : List (Moment Host)) (entry : Entry) : Prop :=
  (entry.context = none ∧ entry.note.source ≠ .engine) ∨
    ∃ bout, .bout bout ∈ moments ∧ entry ∈ bout.records

theorem Entry.Explained.mono {moments more : List (Moment Host)} {entry : Entry}
    (explained : entry.Explained moments) (among : moments ⊆ more) : entry.Explained more :=
  explained.imp_right fun ⟨bout, member, recorded⟩ => ⟨bout, among member, recorded⟩

namespace World

/-- No node is marked, and all that was reported since is explained by what was gone through. -/
structure Explained (moments : List (Moment Host)) (before after : World Host) : Prop where
  executing : after.executing = none
  journal : ∃ news, after.journal.toList = before.journal.toList ++ news ∧
    ∀ entry ∈ news, entry.Explained moments

theorem Explained.trans {moments more : List (Moment Host)} {first second third : World Host}
    (onward : Explained moments first second) (further : Explained more second third) :
    Explained (moments ++ more) first third := by
  obtain ⟨-, news, journal, explained⟩ := onward
  obtain ⟨executing, later, journal', explained'⟩ := further
  refine ⟨executing, news ++ later, ?_, fun entry member => ?_⟩
  · rw [journal', journal, List.append_assoc]
  · obtain early | late := List.mem_append.1 member
    · exact (explained entry early).mono (List.subset_append_left _ _)
    · exact (explained' entry late).mono (List.subset_append_right _ _)

theorem Explained.mono {moments more : List (Moment Host)} {before after : World Host}
    (explained : Explained moments before after) (among : moments ⊆ more) :
    Explained more before after := by
  obtain ⟨executing, news, journal, explained⟩ := explained
  exact ⟨executing, news, journal, fun entry member => (explained entry member).mono among⟩

/-- What is noted with no node marked, and not by the engine, is explained by itself. -/
theorem Explained.note {world : World Host} (idle : world.executing = none) (note : Note)
    (elsewhere : note.source ≠ .engine) : Explained [] world (world.note note) := by
  refine ⟨idle, _, world.journal_note note, fun entry member => ?_⟩
  cases List.mem_singleton.1 member
  exact .inl ⟨idle, elsewhere⟩

theorem Explained.reach {world : World Host} (idle : world.executing = none) (name : Text) :
    Explained [] world (world.reach name) := by
  have unmarked : { world with current := some name }.executing = none := idle
  have noted := Explained.note unmarked (.tellRunning name) (by rintro ⟨⟩)
  exact ⟨noted.executing, noted.journal⟩

/-- All that was reported since is explained, no other node has become the current one, and none was
announced. -/
structure Stays (moments : List (Moment Host)) (before after : World Host) : Prop extends
    Explained moments before after where
  current : after.current = before.current
  announced : after.announced = before.announced

/-- Where nothing was reported there is nothing to explain. -/
theorem Stays.unreported {before after : World Host} (executing : after.executing = none)
    (current : after.current = before.current) (journal : after.journal = before.journal) :
    Stays [] before after := by
  have same : after.journal.toList = before.journal.toList ++ [] := by
    rw [journal, List.append_nil]
  have silent : ∀ entry ∈ ([] : List Entry), entry.note.running? = none :=
    fun _ member => absurd member List.not_mem_nil
  exact ⟨⟨executing, [], same, fun _ member => absurd member List.not_mem_nil⟩, current,
    announced_of_journal same silent⟩

theorem Stays.refl {world : World Host} (idle : world.executing = none) : Stays [] world world :=
  .unreported idle rfl rfl

theorem Stays.trans {moments : List (Moment Host)} {first second third : World Host}
    (onward : Stays moments first second) (further : Stays [] second third) :
    Stays moments first third := by
  have explained := onward.toExplained.trans further.toExplained
  rw [List.append_nil] at explained
  exact ⟨explained, further.current.trans onward.current,
    further.announced.trans onward.announced⟩

theorem Stays.note {world : World Host} (idle : world.executing = none) (note : Note)
    (elsewhere : note.source ≠ .engine) (silent : note.running? = none) :
    Stays [] world (world.note note) := by
  refine ⟨.note idle note elsewhere, rfl, announced_of_journal (world.journal_note note) ?_⟩
  intro entry member
  cases List.mem_singleton.1 member
  exact silent

/-- The end of a run is reported, and nothing else. -/
theorem Stays.ended (dialogue : Dialogue Host) (idle : dialogue.world.executing = none)
    (phase : Phase) : Stays [] dialogue.world (dialogue.ended phase).world :=
  .note idle _ (by rintro ⟨⟩) rfl

theorem Stays.visit {world : World Host} (idle : world.executing = none) (name : Text) :
    Stays [] world (world.visit name) := by
  rw [World.visit]
  split
  · exact .refl idle
  · exact .unreported idle rfl rfl

theorem Stays.bout {bout : Bout Host} (idle : bout.dialogue.world.executing = none) :
    Stays [.bout bout] bout.dialogue.world bout.left := by
  obtain ⟨executing, current, journal, -⟩ := bout.left_spec
  refine ⟨⟨executing.trans idle, _, journal, fun entry member => ?_⟩, current, bout.announced_left⟩
  exact .inr ⟨bout, List.mem_singleton_self _, member⟩

end World

/-! ### Pulls with any sinks -/

namespace Dialogue

/-- Going on with the next node moves the run to a name, whether or not a node has it. -/
def movesOn : Nat → Option Text → Bool
  | _ + 1, some _ => true
  | _, _ => false

end Dialogue

/-- The run moves to a name behind a bout. -/
def Bout.moves (budget : Nat) (bout : Bout Host) : Bool :=
  match Dialogue.takeTurn bout.node bout.chosen bout.traversal bout.dialogue with
  | .ok (.follow next) _ => Dialogue.movesOn budget next
  | _ => false

namespace Dialogue

/-- A pull moves the run to a name, whether or not a node has it. -/
def moves (budget : Nat) (run : Run) (dialogue : Dialogue Host) : Bool :=
  match run.stage with
  | .unstarted start => movesOn budget (some start)
  | .inside node traversal =>
    Bout.moves budget
      ⟨node, Offer.latest? run.offers, traversal, { dialogue with phase := .running }⟩
  | .ended => false

/-- What going on does to the context. The node of each bout is the current one, and the one that
was announced last, if the run has just come to it, or else if it was so before; and so is the node
at which the run waits then. -/
structure Strides (moves : Bool) (moved spoke : Prop) (dialogue : Dialogue Host)
    (moments : List (Moment Host)) (outcome : EStateM.Result Fault (Dialogue Host) Pulled) :
    Prop where
  explained : World.Explained moments dialogue.world (leftBy outcome).world
  still : moves = false → (leftBy outcome).world.current = dialogue.world.current ∧
    (leftBy outcome).world.announced = dialogue.world.announced
  hushed : dialogue.debugSink = false →
    (leftBy outcome).world.announced = dialogue.world.announced
  bouts : ∀ bout, .bout bout ∈ moments → bout.dialogue.world.Locates
    (bout.traversal = .fresh bout.node ∨ moved) (bout.traversal = .fresh bout.node ∨ spoke)
    bout.node bout.traversal
  waits : ∀ event node traversal final, outcome = .ok (.event event node traversal) final →
    (Stage.inside node traversal).Located (moves = true ∨ moved) (moves = true ∨ spoke) final.world

namespace Strides

variable {moves : Bool} {moved spoke : Prop} {dialogue : Dialogue Host}
  {moments : List (Moment Host)}

/-- Where the context stays as it was, all that matters is what is gone through, and where the run
waits. -/
theorem of_stays {outcome : EStateM.Result Fault (Dialogue Host) Pulled}
    (stays : World.Stays moments dialogue.world (leftBy outcome).world)
    (bouts : ∀ bout, .bout bout ∈ moments → bout.dialogue.world.Locates
      (bout.traversal = .fresh bout.node ∨ moved) (bout.traversal = .fresh bout.node ∨ spoke)
      bout.node bout.traversal)
    (waits : ∀ event node traversal final, outcome = .ok (.event event node traversal) final →
      (Stage.inside node traversal).Located (moves = true ∨ moved) (moves = true ∨ spoke)
        final.world) : Strides moves moved spoke dialogue moments outcome where
  explained := stays.toExplained
  still _ := ⟨stays.current, stays.announced⟩
  hushed _ := stays.announced
  bouts := bouts
  waits := waits

theorem at_rest {outcome : EStateM.Result Fault (Dialogue Host) Pulled}
    (stays : World.Stays [] dialogue.world (leftBy outcome).world)
    (waitless : ∀ event node traversal final, outcome ≠ .ok (.event event node traversal) final) :
    Strides moves moved spoke dialogue [] outcome :=
  of_stays stays (fun _ member => absurd member List.not_mem_nil)
    fun event node traversal final waits => absurd waits (waitless event node traversal final)

/-- Where a run comes to a name, and to nothing there, it can be told only whether it said so. -/
theorem lost {outcome : EStateM.Result Fault (Dialogue Host) Pulled}
    (explained : World.Explained [] dialogue.world (leftBy outcome).world)
    (hushed : dialogue.debugSink = false →
      (leftBy outcome).world.announced = dialogue.world.announced)
    (boutless : ∀ bout, .bout bout ∉ moments)
    (waitless : ∀ event node traversal final, outcome ≠ .ok (.event event node traversal) final) :
    Strides true moved spoke dialogue moments outcome where
  explained := explained.mono (List.nil_subset _)
  still fixed := absurd fixed.symm Bool.false_ne_true
  hushed := hushed
  bouts bout member := absurd member (boutless bout)
  waits event node traversal final waits := absurd waits (waitless event node traversal final)

/-- Where all nodes are located, they are whatever is asked. -/
theorem weaken {outcome : EStateM.Result Fault (Dialogue Host) Pulled}
    (strides : Strides moves True True dialogue moments outcome) :
    Strides moves moved spoke dialogue moments outcome where
  explained := strides.explained
  still := strides.still
  hushed := strides.hushed
  bouts bout member :=
    (strides.bouts bout member).mono (fun _ => ⟨.inr trivial, rfl⟩) fun _ => ⟨.inr trivial, rfl⟩
  waits event node traversal final done :=
    (strides.waits event node traversal final done).mono (fun _ => ⟨.inr trivial, rfl⟩)
      fun _ => ⟨.inr trivial, rfl⟩

/-- A run that fails is broken off, which is reported. -/
theorem guarded {operation : Operation Host Pulled}
    (strides : Strides moves moved spoke dialogue moments (operation dialogue)) :
    Strides moves moved spoke dialogue moments (Dialogue.guarded operation dialogue) := by
  rw [guarded_apply]
  generalize operation dialogue = outcome at strides ⊢
  cases outcome with
  | ok pulled left => exact strides
  | error fault left =>
    obtain ⟨explained, still, hushed, bouts, -⟩ := strides
    have ended : World.Stays [] left.world (left.ended .aborted).world :=
      .ended left explained.executing .aborted
    have behind := explained.trans ended.toExplained
    rw [List.append_nil] at behind
    refine ⟨behind, fun fixed => ⟨?_, ?_⟩, fun deaf => ?_, bouts, ?_⟩
    · exact ended.current.trans (still fixed).1
    · exact ended.announced.trans (still fixed).2
    · exact ended.announced.trans (hushed deaf)
    · rintro _ _ _ _ ⟨⟩

theorem located_behind {outcome : EStateM.Result Fault (Dialogue Host) Pulled}
    (strides : Strides moves moved spoke dialogue moments outcome) (run : Run)
    (finished : yieldOf outcome ≠ .ok .unfinished) :
    (run.behind outcome).stage.Located (moves = true ∨ moved) (moves = true ∨ spoke)
      (leftBy outcome).world := by
  cases stage : (run.behind outcome).stage with
  | inside node traversal =>
    obtain ⟨event, final, rfl⟩ := Run.stage_behind finished stage
    exact strides.waits event node traversal final rfl
  | _ => trivial

end Strides

/-- What a turn does beyond its bout leaves the context alone. -/
theorem stays_takeTurn {bout : Bout Host} (idle : bout.dialogue.world.executing = none) :
    World.Stays [.bout bout] bout.dialogue.world
        (leftBy (takeTurn bout.node bout.chosen bout.traversal bout.dialogue)).world ∧
      (leftBy (takeTurn bout.node bout.chosen bout.traversal bout.dialogue)).debugSink =
        bout.dialogue.debugSink := by
  have stays := World.Stays.bout idle
  have rests : bout.left.executing = none := stays.executing
  have outcome : (Engine.pull (bout.dialogue.shelf.call home) bout.chosen bout.traversal).during
      bout.node.name bout.dialogue.world = bout.outcome := rfl
  rw [takeTurn_apply, outcome]
  cases pulled : bout.outcome with
  | error fault world =>
    cases Bout.left_of_error pulled
    exact ⟨stays, rfl⟩
  | ok answer world =>
    cases Bout.left_of_ok pulled
    match answer with
    | none => exact ⟨stays, rfl⟩
    | some (result, traversal) =>
      dsimp only
      rw [judge.eq_def]
      split
      · exact ⟨stays.trans (.ended { bout.dialogue with world := bout.left } rests .completed), rfl⟩
      · split
        · exact ⟨stays.trans (.ended { bout.dialogue with world := bout.left } rests .aborted), rfl⟩
        · cases result with
          | complete next => exact ⟨stays.trans (.visit rests bout.node.name), rfl⟩
          | event event => exact ⟨stays, rfl⟩

/-- A bout and what comes after it. -/
theorem strides_bout {moved spoke : Prop} (budget : Nat) {bout : Bout Host}
    (idle : bout.dialogue.world.executing = none)
    (locates : bout.dialogue.world.Locates (bout.traversal = .fresh bout.node ∨ moved)
      (bout.traversal = .fresh bout.node ∨ spoke) bout.node bout.traversal)
    (onward : ∀ next {after : Dialogue Host}, after.world.executing = none →
      Strides (movesOn budget next) True True after (followed budget next after)
        (follow budget next after)) :
    Strides (bout.moves budget) moved spoke bout.dialogue (bout.moments (followed budget))
      (proceed budget bout.node bout.chosen bout.traversal bout.dialogue) := by
  obtain ⟨stays, sink⟩ := stays_takeTurn idle
  have alone : ∀ other, Moment.bout other ∈ [Moment.bout bout] →
      other.dialogue.world.Locates (other.traversal = .fresh other.node ∨ moved)
        (other.traversal = .fresh other.node ∨ spoke) other.node other.traversal := by
    rintro other member
    cases List.mem_singleton.1 member
    exact locates
  rw [Bout.moves, Bout.moments, proceed, bind_apply]
  cases turned : takeTurn bout.node bout.chosen bout.traversal bout.dialogue with
  | error fault after =>
    rw [turned] at stays
    exact .of_stays stays alone (by rintro _ _ _ _ ⟨⟩)
  | ok turn after =>
    rw [turned] at stays sink
    cases turn with
    | ended => exact .of_stays stays alone (by rintro _ _ _ _ ⟨⟩)
    | event happening left =>
      refine .of_stays stays alone ?_
      rintro _ _ _ _ ⟨⟩
      obtain ⟨-, ⟨statement, -, behind⟩, follows⟩ := takeTurn_eq_ok turned
      have still {what : Prop} (either : false = true ∨ what) : what :=
        either.resolve_left Bool.false_ne_true
      have left := locates.mono (fun moves => ⟨.inr (still moves), stays.current⟩)
        fun speaks => ⟨.inr (still speaks), stays.announced⟩
      refine ⟨?_, ?_, left.current, left.announced⟩
      · rintro entered rfl
        exact follows
      · exact fun part member =>
          locates.body (behind.subset (List.mem_cons_of_mem statement member))
    | follow next =>
      obtain ⟨explained, still, hushed, bouts, waits⟩ := (onward next stays.executing).weaken
      refine ⟨stays.toExplained.trans explained, fun fixed => ⟨?_, ?_⟩, fun deaf => ?_,
        fun other member => ?_, waits⟩
      · exact (still fixed).1.trans stays.current
      · exact (still fixed).2.trans stays.announced
      · exact (hushed (sink.trans deaf)).trans stays.announced
      · obtain here | later := List.mem_cons.1 member
        · exact alone other (here ▸ List.mem_singleton_self _)
        · exact bouts other later

theorem strides_none (budget : Nat) {dialogue : Dialogue Host}
    (idle : dialogue.world.executing = none) :
    Strides (movesOn budget none) True True dialogue (followed budget none dialogue)
      (follow budget none dialogue) := by
  have nothing : followed budget none dialogue = [] := by cases budget <;> rfl
  rw [nothing, follow_none_eq]
  cases dialogue.debugSink with
  | false => exact .at_rest (.refl idle) (by rintro _ _ _ _ ⟨⟩)
  | true =>
    let told := dialogue.changeWorld (·.note .tellComplete)
    have stays : World.Stays [] dialogue.world told.world := .note idle _ (by rintro ⟨⟩) rfl
    have ended := stays.trans (.ended told idle .completed)
    exact .at_rest ended (by rintro _ _ _ _ ⟨⟩)

/-- Coming to a name that no node has, or being unable to say that one has come to a name. -/
theorem strides_lost (budget : Nat) (name : Text) {dialogue : Dialogue Host}
    (idle : dialogue.world.executing = none)
    (lost : dialogue.debugSink = true → dialogue.nodes.get? name = none) :
    Strides true True True dialogue (followed (budget + 1) (some name) dialogue)
      (follow (budget + 1) (some name) dialogue) := by
  have reached : World.Explained [] dialogue.world (dialogue.world.reach name) :=
    .reach idle name
  rw [followed, follow, bind_apply, enter_eq]
  cases hears : dialogue.debugSink with
  | false =>
    have explained : World.Explained [] dialogue.world
        { dialogue.world with current := some name } := ⟨idle, (World.Stays.refl idle).journal⟩
    exact .lost explained (fun _ => rfl) (fun _ => List.not_mem_nil) (by rintro _ _ _ _ ⟨⟩)
  | true =>
    have hearing : dialogue.debugSink ≠ false := by
      rw [hears]
      exact Bool.false_ne_true.symm
    rw [if_pos rfl, lost hears]
    dsimp only
    cases dialogue.errorSink with
    | false =>
      exact .lost reached (fun deaf => absurd deaf hearing) (fun _ => List.not_mem_nil)
        (by rintro _ _ _ _ ⟨⟩)
    | true =>
      let missed := dialogue.changeWorld fun world => (world.reach name).note (.tellMissing name)
      have told : World.Stays [] (dialogue.world.reach name) missed.world :=
        .note reached.executing _ (by rintro ⟨⟩) rfl
      have ended := told.trans (.ended missed told.executing .aborted)
      have explained := reached.trans ended.toExplained
      show Strides _ _ _ _ [.missing name] (.ok .ended (missed.ended .aborted))
      exact .lost explained (fun deaf => absurd deaf hearing)
        (fun _ member => by cases List.mem_singleton.1 member) (by rintro _ _ _ _ ⟨⟩)

/-- Coming to a name that a node has, and saying so. -/
theorem strides_entered {budget : Nat} {name : Text} {node : Node} {dialogue : Dialogue Host}
    (idle : dialogue.world.executing = none) (hears : dialogue.debugSink = true)
    (found : dialogue.nodes.get? name = some node)
    (onward : ∀ next {after : Dialogue Host}, after.world.executing = none →
      Strides (movesOn budget next) True True after (followed budget next after)
        (follow budget next after)) :
    Strides true True True dialogue (followed (budget + 1) (some name) dialogue)
      (follow (budget + 1) (some name) dialogue) := by
  have reached : World.Explained [] dialogue.world (dialogue.world.reach name) :=
    .reach idle name
  have hearing : dialogue.debugSink ≠ false := by
    rw [hears]
    exact Bool.false_ne_true.symm
  let bout : Bout Host := ⟨node, none, .fresh node, dialogue.changeWorld (·.reach name)⟩
  have named : node.name = name := NodeTable.name_of_get? found
  have locates : bout.dialogue.world.Locates (bout.traversal = .fresh bout.node ∨ True)
      (bout.traversal = .fresh bout.node ∨ True) bout.node bout.traversal := by
    refine ⟨fun _ member => member, fun _ => ?_, fun _ => ?_⟩
    · exact congrArg some named.symm
    · exact (World.announced_reach name _).trans (congrArg some named.symm)
  obtain ⟨explained, -, -, bouts, waits⟩ := strides_bout budget reached.executing locates onward
  rw [followed, follow, bind_apply, enter_eq, hears, if_pos rfl, found]
  refine ⟨reached.trans explained, fun fixed => absurd fixed.symm Bool.false_ne_true,
    fun deaf => absurd deaf hearing, bouts, ?_⟩
  exact fun event node traversal final done =>
    (waits event node traversal final done).mono (fun _ => ⟨.inr trivial, rfl⟩)
      fun _ => ⟨.inr trivial, rfl⟩

/-- Going on with the next node. -/
theorem strides_follow (budget : Nat) (next : Option Text) {dialogue : Dialogue Host}
    (idle : dialogue.world.executing = none) :
    Strides (movesOn budget next) True True dialogue (followed budget next dialogue)
      (follow budget next dialogue) := by
  induction budget generalizing next dialogue with
  | zero =>
    cases next with
    | none => exact strides_none 0 idle
    | some name => exact .at_rest (.refl idle) (by rintro _ _ _ _ ⟨⟩)
  | succ budget ih =>
    cases next with
    | none => exact strides_none _ idle
    | some name =>
      by_cases hears : dialogue.debugSink = true
      · cases found : dialogue.nodes.get? name with
        | none => exact strides_lost budget name idle fun _ => found
        | some node => exact strides_entered idle hears found ih
      · exact strides_lost budget name idle fun heard => absurd heard hears

/-- Going on from the place of a run, whatever sinks there are. -/
theorem strides_resume {moved spoke : Prop} (budget : Nat) {run : Run} {dialogue : Dialogue Host}
    (idle : dialogue.world.executing = none)
    (located : run.stage.Located moved spoke dialogue.world) :
    Strides (moves budget run dialogue) moved spoke dialogue (moments budget run dialogue)
      (guarded (resume budget (Offer.latest? run.offers) run.stage) dialogue) := by
  obtain ⟨stage, offers⟩ := run
  cases stage with
  | unstarted start => exact (strides_follow budget (some start) idle).weaken.guarded
  | inside node traversal =>
    obtain ⟨begun, locates⟩ := located
    let bout : Bout Host :=
      ⟨node, Offer.latest? offers, traversal, { dialogue with phase := .running }⟩
    have first : bout.dialogue.world.Locates (bout.traversal = .fresh bout.node ∨ moved)
        (bout.traversal = .fresh bout.node ∨ spoke) bout.node bout.traversal :=
      locates.mono (fun moves => ⟨moves.resolve_left (begun node), rfl⟩)
        fun speaks => ⟨speaks.resolve_left (begun node), rfl⟩
    obtain ⟨explained, still, hushed, bouts, waits⟩ :=
      (strides_bout budget idle first fun next after => strides_follow budget next).guarded
    exact ⟨explained, still, hushed, bouts, waits⟩
  | ended => exact .at_rest (.refl idle) (by rintro _ _ _ _ ⟨⟩)

end Dialogue

end Parley
