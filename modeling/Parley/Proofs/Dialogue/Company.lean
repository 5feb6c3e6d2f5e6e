/-
This file settles what the context says when a host keeps several runs of one dialogue
and pulls now the one and now the other. Whatever the host does, the node that is marked
as running is the one whose body is run, and no node is marked while anybody else has
control. The current node of the dialogue is another matter: there is one for all runs.
It is the node of the run that moved last, and so is the node that was announced last,
of the runs that found the debug sink in place.

So two runs are remembered: the one that moved last, and the one that spoke last. A run
that waits in a node finds the node in the context again unless another run has taken
its place.
-/

import Parley.Proofs.Dialogue.Context

namespace Parley

variable {Host : Type}

/-! ### Hosts of several runs -/

/-- What a host does that keeps several runs of a dialogue. The runs are numbered in the order in
which they were begun. -/
inductive Order (Host : Type) where
  | errand (errand : Errand Host)
  /-- Gives the dialogue sinks or takes them away. -/
  | sinks (debugSink errorSink : Bool)
  | run (start : Text)
  | pull (number budget : Nat)
  | choose (number place : Nat) (index : Literal)
  | close (number : Nat)

/-- A dialogue in the hands of a host, and the runs that were begun; the run that was begun or moved
to a name last, and the run that said last that a node runs. -/
structure Company (Host : Type) where
  dialogue : Dialogue Host
  runs : List Run := []
  mover : Option Nat := none
  speaker : Option Nat := none

namespace Company

/-- What a pull leaves of a company. A run that moves to a name says so where there is a debug
sink. -/
def pulled (company : Company Host) (number budget : Nat) (run : Run) : Company Host :=
  let moves := Dialogue.moves budget run company.dialogue
  { dialogue := (Dialogue.pull budget run company.dialogue).2.2
    runs := company.runs.set number (Dialogue.pull budget run company.dialogue).2.1
    mover := if moves then some number else company.mover
    speaker := if moves && company.dialogue.debugSink then some number else company.speaker }

/-- What an order leaves of a company. An order for a run that there is not changes nothing. -/
def after (company : Company Host) : Order Host → Company Host
  | .errand errand => { company with dialogue := errand.after company.dialogue }
  | .sinks debugSink errorSink =>
    { company with dialogue := { company.dialogue with debugSink, errorSink } }
  | .run start =>
    match Dialogue.run start company.dialogue with
    | .ok run dialogue =>
      { company with
        dialogue, runs := company.runs ++ [run], mover := some company.runs.length }
    | .error _ dialogue => { company with dialogue }
  | .pull number budget =>
    match company.runs[number]? with
    | none => company
    | some run => company.pulled number budget run
  | .choose number place index =>
    match company.runs[number]? with
    | none => company
    | some run =>
      match run.choose place index with
      | .ok answered => { company with runs := company.runs.set number answered }
      | .error _ => company
  | .close number =>
    match company.runs[number]? with
    | none => company
    | some run =>
      { company with
        dialogue := (Dialogue.close run company.dialogue).2
        runs := company.runs.set number (Dialogue.close run company.dialogue).1 }

/-- Tells whether an order is a pull that goes on for longer than its budget. -/
def unfinished (company : Company Host) : Order Host → Bool
  | .pull number budget =>
    match company.runs[number]? with
    | none => false
    | some run =>
      match (Dialogue.pull budget run company.dialogue).1 with
      | .ok .unfinished => true
      | _ => false
  | _ => false

/-- What an order leads to. A pull that goes on for longer than its budget leads nowhere. -/
def after? (company : Company Host) (order : Order Host) : Option (Company Host) :=
  if company.unfinished order then none else some (company.after order)

/-- What an order goes through. -/
def moments (company : Company Host) : Order Host → List (Moment Host)
  | .pull number budget =>
    match company.runs[number]? with
    | none => []
    | some run => Dialogue.moments budget run company.dialogue
  | _ => []

/-! ### What is kept -/

/-- No node is marked as running, and every run that waits in a node is located there: the node is
the current one unless another run moved since, and the one that was announced last unless another
run spoke since. -/
structure Attended (company : Company Host) : Prop where
  idle : company.dialogue.world.executing = none
  located : ∀ number (run : Run), company.runs[number]? = some run →
    run.stage.Located (company.mover = some number) (company.speaker = some number)
      company.dialogue.world

end Company

namespace Dialogue

variable {dialogue : Dialogue Host}

theorem stays_loadNodes (nodes : Ledger Text Node) (strict : Bool)
    (idle : dialogue.world.executing = none) :
    World.Stays [] dialogue.world (leftBy (loadNodes nodes strict dialogue)).world := by
  obtain ⟨fault, failed⟩ | ⟨table, -, done, -⟩ := loadNodes_spec nodes strict dialogue
  · rw [failed]
    exact .refl idle
  · rw [done]
    have added : World.Stays [] dialogue.world
        (dialogue.world.note (.nodesAdded nodes.size table.size)) :=
      .note idle _ (by rintro ⟨⟩) rfl
    exact added.trans (.note added.executing (.tellLoaded nodes.size) (by rintro ⟨⟩) rfl)

theorem stays_loadScript (script : Except LoadFault NodeTable) (strict : Bool)
    (idle : dialogue.world.executing = none) :
    World.Stays [] dialogue.world (leftBy (loadScript script strict dialogue)).world := by
  by_cases heard : dialogue.Heard
  · rw [loadScript_apply script strict heard]
    cases script with
    | error fault => exact .refl idle
    | ok table =>
      let read := dialogue.changeWorld (·.note (.scriptLoaded table.size))
      have noted : World.Stays [] dialogue.world read.world := .note idle _ (by rintro ⟨⟩) rfl
      exact noted.trans (stays_loadNodes table.toLedger strict noted.executing)
  · rw [loadScript_unheard script strict heard]
    exact .refl idle

theorem stays_close (run : Run) (idle : dialogue.world.executing = none) :
    World.Stays [] dialogue.world (close run dialogue).2.world := by
  rw [close.eq_def]
  cases run.stage with
  | inside node traversal => exact .ended dialogue idle .completed
  | _ => exact .refl idle

/-- The beginning of a run is reported, and no node is announced. -/
theorem explained_begun (start : Text) (idle : dialogue.world.executing = none) :
    World.Explained [] dialogue.world (dialogue.begun start).world ∧
      (dialogue.begun start).world.announced = dialogue.world.announced := by
  let made := { dialogue.world with stopping := false, visited := [], current := some start }
  have unmarked : made.executing = none := idle
  have noted := World.Stays.note unmarked (.runStarted start) (by rintro ⟨⟩) rfl
  exact ⟨⟨noted.executing, noted.journal⟩, noted.announced⟩

end Dialogue

theorem Errand.stays (errand : Errand Host) {dialogue : Dialogue Host}
    (idle : dialogue.world.executing = none) :
    World.Stays [] dialogue.world (errand.after dialogue).world := by
  cases errand with
  | loadNodes nodes strict => exact Dialogue.stays_loadNodes nodes strict idle
  | loadScript script strict => exact Dialogue.stays_loadScript script strict idle
  | write store host stopping => exact .unreported idle rfl rfl
  | _ => exact .refl idle

namespace Company

variable {company : Company Host}

/-- What moves no run and announces no node leaves every run located. -/
theorem Attended.keep (attended : company.Attended) {dialogue : Dialogue Host}
    (stays : World.Stays [] company.dialogue.world dialogue.world) :
    ({ company with dialogue } : Company Host).Attended where
  idle := stays.executing
  located number run there := (attended.located number run there).mono
    (fun moved => ⟨moved, stays.current⟩) fun spoke => ⟨spoke, stays.announced⟩

theorem Attended.set (attended : company.Attended) (number : Nat) {run : Run}
    (located : run.stage.Located (company.mover = some number) (company.speaker = some number)
      company.dialogue.world) :
    ({ company with runs := company.runs.set number run } : Company Host).Attended where
  idle := attended.idle
  located other found there := by
    rw [List.getElem?_set] at there
    split at there
    · next same =>
      split at there
      · cases there
        exact same ▸ located
      · cases there
    · exact attended.located other found there

theorem Attended.begun (attended : company.Attended) (start : Text) :
    ({ company with
      dialogue := company.dialogue.begun start
      runs := company.runs ++ [{ stage := .unstarted start }]
      mover := some company.runs.length } : Company Host).Attended := by
  obtain ⟨explained, announced⟩ := Dialogue.explained_begun start attended.idle
  refine ⟨explained.executing, fun number run there => ?_⟩
  rw [List.getElem?_append] at there
  split at there
  · next before =>
    -- Whoever was there before is not the run that was begun.
    refine (attended.located number run there).mono (fun moved => ?_) fun spoke => ?_
    · exact absurd (Option.some.inj moved) (Nat.ne_of_gt before)
    · exact ⟨spoke, announced⟩
  · rw [List.mem_singleton.1 (List.mem_of_getElem? there)]
    trivial

/-- The latest of two is the one who came last, if anybody came. -/
theorem latest_eq_some {came : Bool} {number other : Nat} {earlier : Option Nat}
    (latest : (if came then some number else earlier) = some other) :
    (came = true ∧ number = other) ∨ (came = false ∧ earlier = some other) := by
  cases came with
  | true => exact .inl ⟨rfl, Option.some.inj latest⟩
  | false => exact .inr ⟨rfl, latest⟩

/-- The run that is pulled is located by what it finds in the pull or found before, any other run by
what it found before, which the pull leaves to it unless it takes its place. -/
theorem Attended.pulled (attended : company.Attended) {number budget : Nat} {run : Run}
    (there : company.runs[number]? = some run)
    (finished : (Dialogue.pull budget run company.dialogue).1 ≠ .ok .unfinished) :
    (company.pulled number budget run).Attended := by
  have strides := Dialogue.strides_resume budget attended.idle (attended.located number run there)
  rw [Dialogue.pull_eq] at finished
  rw [Company.pulled, Dialogue.pull_eq]
  dsimp only at finished ⊢
  generalize Dialogue.guarded (Dialogue.resume budget (Offer.latest? run.offers) run.stage)
    company.dialogue = outcome at strides finished ⊢
  refine ⟨strides.explained.executing, fun other found place => ?_⟩
  dsimp only at place ⊢
  rw [List.getElem?_set] at place
  by_cases same : number = other
  · subst same
    rw [if_pos rfl] at place
    split at place
    · cases place
      refine (strides.located_behind run finished).mono (fun moved => ⟨?_, rfl⟩)
        fun spoke => ⟨?_, rfl⟩
      · exact (latest_eq_some moved).imp And.left And.right
      · refine (latest_eq_some spoke).imp (fun came => ?_) And.right
        exact (Bool.and_eq_true_iff.1 came.1).1
    · cases place
  · rw [if_neg same] at place
    refine (attended.located other found place).mono (fun moved => ?_) fun spoke => ?_
    · obtain ⟨-, taken⟩ | ⟨fixed, before⟩ := latest_eq_some moved
      · exact absurd taken same
      · exact ⟨before, (strides.still fixed).1⟩
    · obtain ⟨-, taken⟩ | ⟨silent, before⟩ := latest_eq_some spoke
      · exact absurd taken same
      · obtain fixed | deaf := Bool.and_eq_false_iff.1 silent
        · exact ⟨before, (strides.still fixed).2⟩
        · exact ⟨before, strides.hushed deaf⟩

/-! ### Any orders -/

/-- What an order leads to keeps every run located. -/
theorem Attended.after (attended : company.Attended) {order : Order Host}
    (finished : company.unfinished order = false) : (company.after order).Attended := by
  cases order with
  | errand errand => exact attended.keep (errand.stays attended.idle)
  | sinks debugSink errorSink =>
    have stays : World.Stays [] company.dialogue.world
        { company.dialogue with debugSink, errorSink }.world := .refl attended.idle
    exact attended.keep stays
  | run start =>
    rw [Company.after]
    by_cases heard : company.dialogue.Heard
    · rw [Dialogue.run_apply start heard]
      exact attended.begun start
    · rw [Dialogue.run_unheard start heard]
      exact attended
  | pull number budget =>
    rw [Company.after]
    rw [unfinished] at finished
    cases there : company.runs[number]? with
    | none => exact attended
    | some run =>
      rw [there] at finished
      dsimp only at finished ⊢
      refine attended.pulled there fun goesOn => ?_
      rw [goesOn] at finished
      cases finished
  | choose number place index =>
    rw [Company.after]
    cases there : company.runs[number]? with
    | none => exact attended
    | some run =>
      dsimp only
      cases chose : run.choose place index with
      | error fault => exact attended
      | ok answered =>
        refine attended.set number ?_
        rw [Run.stage_choose chose]
        exact attended.located number run there
  | close number =>
    rw [Company.after]
    cases there : company.runs[number]? with
    | none => exact attended
    | some run =>
      have kept := attended.keep (Dialogue.stays_close run attended.idle)
      refine kept.set number ?_
      rw [Dialogue.stage_close]
      trivial

/-- The context is exact while an order is carried out: all that is reported is explained, and no
node is marked in the end; the context of every bout is exact, where the node is the current one
unless another run moved since the run came to it, and the one announced last unless another run
spoke since. -/
structure Exact (company : Company Host) (order : Order Host) : Prop where
  explained : World.Explained (company.moments order) company.dialogue.world
    (company.after order).dialogue.world
  bouts : ∀ number budget bout, order = .pull number budget →
    .bout bout ∈ company.moments order →
    bout.Exact (bout.traversal = .fresh bout.node ∨ company.mover = some number)
      (bout.traversal = .fresh bout.node ∨ company.speaker = some number)

/-- An order that is no pull does no more than to be reported. -/
theorem Exact.aside {order : Order Host}
    (explained : World.Explained [] company.dialogue.world (company.after order).dialogue.world)
    (pulls : ∀ number budget, order ≠ .pull number budget) : company.Exact order where
  explained := explained.mono (List.nil_subset _)
  bouts number budget _ same := absurd same (pulls number budget)

theorem Attended.exact (attended : company.Attended) (order : Order Host) :
    company.Exact order := by
  have idle := attended.idle
  have refused : World.Explained [] company.dialogue.world company.dialogue.world :=
    (World.Stays.refl idle).toExplained
  cases order with
  | errand errand => exact .aside (errand.stays idle).toExplained nofun
  | sinks debugSink errorSink => exact .aside refused nofun
  | run start =>
    refine .aside ?_ nofun
    rw [Company.after]
    by_cases heard : company.dialogue.Heard
    · rw [Dialogue.run_apply start heard]
      exact (Dialogue.explained_begun start idle).1
    · rw [Dialogue.run_unheard start heard]
      exact refused
  | pull number budget =>
    cases there : company.runs[number]? with
    | none =>
      have nothing : company.moments (.pull number budget) = [] := by rw [moments, there]
      have unmoved : company.after (.pull number budget) = company := by rw [Company.after, there]
      refine ⟨?_, fun _ _ bout _ member => ?_⟩
      · rw [nothing, unmoved]
        exact refused
      · rw [nothing] at member
        cases member
    | some run =>
      have strides := Dialogue.strides_resume budget idle (attended.located number run there)
      have through : company.moments (.pull number budget) =
          Dialogue.moments budget run company.dialogue := by rw [moments, there]
      refine ⟨?_, ?_⟩
      · rw [through, Company.after, there]
        dsimp only
        rw [Company.pulled, Dialogue.pull_eq]
        exact strides.explained
      · rintro _ _ bout ⟨⟩ member
        rw [through] at member
        exact Bout.exact (strides.bouts bout member)
  | choose number place index =>
    refine .aside ?_ nofun
    rw [Company.after]
    split
    · exact refused
    · split
      · exact refused
      · exact refused
  | close number =>
    refine .aside ?_ nofun
    rw [Company.after]
    split
    · exact refused
    · exact (Dialogue.stays_close _ idle).toExplained

/-- Whatever a host does with a dialogue and the runs that it began, from a state in which no node
is marked, no node is marked whenever it has control, and the context is exact whatever it does
next. -/
theorem context_exact {dialogue : Dialogue Host} (idle : dialogue.world.executing = none)
    {orders : List (Order Host)} {company : Company Host}
    (led : orders.foldlM after? { dialogue } = some company) :
    company.dialogue.world.executing = none ∧ ∀ order, company.Exact order := by
  have kept (orders : List (Order Host)) {first : Company Host} (attended : first.Attended)
      (led : orders.foldlM after? first = some company) : company.Attended := by
    induction orders generalizing first with
    | nil =>
      cases led
      exact attended
    | cons order rest ih =>
      rw [List.foldlM_cons] at led
      obtain ⟨next, carried, onward⟩ := Option.bind_eq_some_iff.1 led
      rw [after?] at carried
      split at carried
      · cases carried
      · next finished =>
        cases carried
        exact ih (attended.after (eq_false_of_ne_true finished)) onward
  have starts : ({ dialogue } : Company Host).Attended := ⟨idle, nofun⟩
  have attended := kept orders starts led
  exact ⟨attended.idle, attended.exact⟩

/-! ### Two runs -/

theorem led_cons {order : Order Host} {rest : List (Order Host)} {final : Company Host}
    (finished : company.unfinished order = false)
    (led : rest.foldlM after? (company.after order) = some final) :
    (order :: rest).foldlM after? company = some final := by
  rw [List.foldlM_cons, after?, finished]
  exact led

/-- A dialogue of two nodes, of which the one looks something up between its lines. -/
def duet : Dialogue Unit :=
  { Dialogue.new Roster.empty () true true with
    nodes := Roster.ofList
      [⟨"A", [.say "One.", .evaluate (.call "visited" [.literal (.string "B")]), .say "Two."], []⟩,
        ⟨"B", [.say "Three."], []⟩] }

/-- A run waits in the one node. -/
def waiting : Company Unit := (after { dialogue := duet } (.run "A")).after (.pull 0 1)

/-- A run waits in the one node while another run waits in the other. -/
def waitingBoth : Company Unit := (waiting.after (.run "B")).after (.pull 1 1)

theorem led_waitingBoth :
    [.run "A", .pull 0 1, .run "B", .pull 1 1].foldlM after? { dialogue := duet } =
      some waitingBoth := by
  have pulled : (after { dialogue := duet } (.run "A")).unfinished (.pull 0 1) = false := by cbv
  have pulledOther : (waiting.after (.run "B")).unfinished (.pull 1 1) = false := by cbv
  exact led_cons rfl (led_cons pulled (led_cons rfl (led_cons pulledOther rfl)))

theorem context_exact_duet :
    duet.world.executing = none ∧
      [.run "A", .pull 0 1, .run "B", .pull 1 1].foldlM after? { dialogue := duet } =
        some waitingBoth ∧
      waitingBoth.dialogue.world.executing = none ∧ ∀ order, waitingBoth.Exact order :=
  ⟨rfl, led_waitingBoth, context_exact rfl led_waitingBoth⟩

/-- What the calls find in the context that a pull makes. -/
def glimpses (moments : List (Moment Host)) : List (Option Text × Option Text × Option Text) :=
  moments.flatMap fun moment =>
    match moment with
    | .bout bout => bout.calls.map fun called =>
      (called.world.executing, called.world.current, called.world.announced)
    | .missing _ => []

/-- A run that waited while another one moved finds the node of the other to be the current one, and
to have been announced last. -/
theorem another_node_is_current :
    duet.world.executing = none ∧
      [.run "A", .pull 0 1, .run "B", .pull 1 1].foldlM after? { dialogue := duet } =
        some waitingBoth ∧
      glimpses (waitingBoth.moments (.pull 0 1)) =
        [(some ("A" : Text), some ("B" : Text), some ("B" : Text))] :=
  ⟨rfl, led_waitingBoth, by cbv⟩

end Company

end Parley
