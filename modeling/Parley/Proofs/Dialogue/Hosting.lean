/-
This file describes a host. A host makes requests of a dialogue: it runs errands,
such as loading nodes or writing variables, it begins runs, and it pulls, answers
and gives up the run that it began last. `Hosting` is the dialogue together with
what is to be remembered of that run: what the host did with it, and the moments
that its pulls went through.

`Step` says what one request can do and under which circumstances. Whatever every
step keeps holds behind any requests, and no claim about hosts has to look at how
a request is carried out.
-/

import Parley.Proofs.Dialogue.Passage
import Parley.Proofs.Dialogue.Strict

namespace Parley

variable {Host : Type}

/-! ### Reports -/

/-- Something was reported, though not to the error sink, and nothing else was done. -/
def World.Reported (before after : World Host) : Prop :=
  ∃ journal, after = { before with journal } ∧ after.told .errorSink = before.told .errorSink

namespace World.Reported

theorem refl (world : World Host) : world.Reported world := ⟨world.journal, rfl, rfl⟩

theorem trans {first second third : World Host} (onward : first.Reported second)
    (further : second.Reported third) : first.Reported third := by
  obtain ⟨_, rfl, told⟩ := onward
  obtain ⟨journal, rfl, toldFurther⟩ := further
  exact ⟨journal, rfl, toldFurther.trans told⟩

theorem note (world : World Host) (note : Note) (elsewhere : note.channel ≠ .errorSink) :
    world.Reported (world.note note) := ⟨_, rfl, world.told_elsewhere .errorSink note elsewhere⟩

end World.Reported

namespace Dialogue

/-- A load changes the nodes at most, whether or not it succeeds, and is reported. -/
theorem leftBy_loadNodes (nodes : Ledger Text Node) (strict : Bool) (dialogue : Dialogue Host) :
    ∃ table world, leftBy (loadNodes nodes strict dialogue) =
      { dialogue with nodes := table, world } ∧ dialogue.world.Reported world := by
  obtain ⟨fault, failed⟩ | ⟨table, -, done, -⟩ := loadNodes_spec nodes strict dialogue
  · rw [failed]
    exact ⟨dialogue.nodes, dialogue.world, rfl, .refl _⟩
  · rw [done]
    exact ⟨table, _, rfl,
      (World.Reported.note _ (.nodesAdded _ _) nofun).trans (.note _ (.tellLoaded _) nofun)⟩

theorem leftBy_loadScript (script : Except LoadFault NodeTable) (strict : Bool)
    (dialogue : Dialogue Host) :
    ∃ table world, leftBy (loadScript script strict dialogue) =
      { dialogue with nodes := table, world } ∧ dialogue.world.Reported world := by
  by_cases heard : dialogue.Heard
  · rw [loadScript_apply script strict heard]
    cases script with
    | error fault => exact ⟨dialogue.nodes, dialogue.world, rfl, .refl _⟩
    | ok nodes =>
      obtain ⟨table, world, left, reported⟩ := leftBy_loadNodes nodes.toLedger strict
        (dialogue.changeWorld (·.note (.scriptLoaded nodes.size)))
      exact ⟨table, world, left,
        (World.Reported.note _ (.scriptLoaded _) (by rintro ⟨⟩)).trans reported⟩
  · rw [loadScript_unheard script strict heard]
    exact ⟨dialogue.nodes, dialogue.world, rfl, .refl _⟩

/-! ### Beginning a run -/

/-- The dialogue when a run has begun. -/
def begun (start : Text) (dialogue : Dialogue Host) : Dialogue Host :=
  { dialogue with
    phase := .running
    world := World.note
      { dialogue.world with stopping := false, visited := [], current := some start }
      (.runStarted start) }

theorem run_apply (start : Text) {dialogue : Dialogue Host} (heard : dialogue.Heard) :
    Dialogue.run start dialogue = .ok { stage := .unstarted start } (dialogue.begun start) := by
  rw [Dialogue.run, bind_apply, requireSinks_heard _ heard]
  rfl

theorem begun_of_run {start : Text} {dialogue started : Dialogue Host} {run : Run}
    (began : Dialogue.run start dialogue = .ok run started) : started = dialogue.begun start := by
  obtain ⟨-, heard, -⟩ := run_eq_ok began
  rw [run_apply start heard] at began
  cases began
  rfl

/-- Without both sinks no run begins, and nothing is changed. -/
theorem run_unheard (start : Text) {dialogue : Dialogue Host} (unheard : ¬ dialogue.Heard) :
    Dialogue.run start dialogue =
      .error (.sinkMissing (if dialogue.debugSink then .error else .debug) .running) dialogue := by
  rw [Dialogue.run, bind_apply, requireSinks_unheard _ unheard]

theorem run_eq_error {start : Text} {dialogue final : Dialogue Host} {fault : Fault}
    (failed : Dialogue.run start dialogue = .error fault final) : final = dialogue := by
  by_cases heard : dialogue.Heard
  · rw [run_apply start heard] at failed
    cases failed
  · rw [run_unheard start heard] at failed
    cases failed
    rfl

end Dialogue

/-! ### Errands -/

/-- What a host does with a dialogue besides running it. -/
inductive Errand (Host : Type) where
  | loadNodes (nodes : Ledger Text Node) (strict : Bool)
  /-- Loads a script that was read from a text or a file, if it could be read. -/
  | loadScript (script : Except LoadFault NodeTable) (strict : Bool)
  /-- Changes the libraries. -/
  | arrange (shelf : Shelf Host)
  /-- Changes the variables, the state of the host and the stop flag. -/
  | write (store : Store → Store) (host : Host → Host) (stopping : Bool → Bool)
  /-- Gives the dialogue sinks; a sink that it has it keeps. -/
  | provide (debugSink errorSink : Bool)

namespace Errand

/-- The dialogue after an errand, whether or not it succeeds. -/
def after (dialogue : Dialogue Host) : Errand Host → Dialogue Host
  | loadNodes nodes strict => Dialogue.leftBy (Dialogue.loadNodes nodes strict dialogue)
  | loadScript script strict => Dialogue.leftBy (Dialogue.loadScript script strict dialogue)
  | arrange shelf => { dialogue with shelf }
  | write store host stopping => dialogue.changeWorld (Reaction.apply { store, host, stopping })
  | provide debugSink errorSink =>
    { dialogue with
      debugSink := dialogue.debugSink || debugSink
      errorSink := dialogue.errorSink || errorSink }

/-- What no errand changes. -/
structure Spares (before after : Dialogue Host) : Prop where
  phase : after.phase = before.phase
  visited : after.world.visited = before.world.visited
  told : after.world.told .errorSink = before.world.told .errorSink
  heard : before.Heard → after.Heard

theorem Spares.load {before : Dialogue Host} {table : NodeTable} {world : World Host}
    (reported : before.world.Reported world) :
    Spares before { before with nodes := table, world } := by
  obtain ⟨journal, rfl, told⟩ := reported
  exact ⟨rfl, rfl, told, id⟩

theorem spares (errand : Errand Host) (dialogue : Dialogue Host) :
    Spares dialogue (errand.after dialogue) := by
  cases errand with
  | loadNodes nodes strict =>
    obtain ⟨table, world, left, reported⟩ := Dialogue.leftBy_loadNodes nodes strict dialogue
    rw [after, left]
    exact .load reported
  | loadScript script strict =>
    obtain ⟨table, world, left, reported⟩ := Dialogue.leftBy_loadScript script strict dialogue
    rw [after, left]
    exact .load reported
  | arrange shelf => exact ⟨rfl, rfl, rfl, id⟩
  | write store host stopping => exact ⟨rfl, rfl, rfl, id⟩
  | provide debugSink errorSink =>
    refine ⟨rfl, rfl, rfl, fun heard => ?_⟩
    obtain ⟨debug, error⟩ := heard
    exact ⟨by rw [after, debug, Bool.true_or], by rw [after, error, Bool.true_or]⟩

end Errand

/-! ### Requests -/

/-- What a host asks for. -/
inductive Request (Host : Type) where
  | errand (errand : Errand Host)
  | run (start : Text)
  | pull (budget : Nat)
  | choose (place : Nat) (index : Literal)
  | close

/-- What a host did with a run: it pulled, with what it got, or gave the run up. -/
inductive Touch where
  | pulled (yield : Except Fault Dialogue.Yield)
  | closed

/-- A dialogue in the hands of a host, with the run that was begun last, what the host did with the
run, the moments that its pulls went through, and what the error sink had been told when the run
began. -/
structure Hosting (Host : Type) where
  dialogue : Dialogue Host
  run : Option Run := none
  touches : List Touch := []
  moments : List (Moment Host) := []
  told : List Text := []

namespace Hosting

/-- A new dialogue. -/
def new (store : Store) (host : Host) (debugSink errorSink : Bool) : Hosting Host where
  dialogue := Dialogue.new store host debugSink errorSink

/-- A dialogue in which a run has begun. -/
def begun (run : Run) (dialogue : Dialogue Host) : Hosting Host where
  dialogue
  run := some run
  told := dialogue.world.told .errorSink

/-- What a request leads to. A pull that goes on for longer than its budget leads nowhere. -/
def after? (hosting : Hosting Host) : Request Host → Option (Hosting Host)
  | .errand errand => some { hosting with dialogue := errand.after hosting.dialogue }
  | .run start =>
    match Dialogue.run start hosting.dialogue with
    | .ok run started => some (begun run started)
    | .error _ dialogue => some { hosting with dialogue }
  | .pull budget =>
    match hosting.run with
    | none => some hosting
    | some run =>
      match Dialogue.pull budget run hosting.dialogue with
      | (.ok .unfinished, _, _) => none
      | (yield, onward, dialogue) =>
        some { hosting with
          dialogue
          run := some onward
          touches := hosting.touches ++ [.pulled yield]
          moments := hosting.moments ++ Dialogue.moments budget run hosting.dialogue }
  | .choose place index =>
    match hosting.run with
    | none => some hosting
    | some run =>
      match run.choose place index with
      | .ok answered => some { hosting with run := some answered }
      | .error _ => some hosting
  | .close =>
    match hosting.run with
    | none => some hosting
    | some run =>
      some { hosting with
        dialogue := (Dialogue.close run hosting.dialogue).2
        run := some (Dialogue.close run hosting.dialogue).1
        touches := hosting.touches ++ [.closed] }

/-- The moments of the pull that is made next, within a budget. -/
def upcoming (budget : Nat) (hosting : Hosting Host) : List (Moment Host) :=
  match hosting.run with
  | none => []
  | some run => Dialogue.moments budget run hosting.dialogue

/-- The run can be pulled: both sinks are there, and a run that is inside a node has something left
of it. -/
structure Ready (hosting : Hosting Host) : Prop where
  heard : ∀ run, hosting.run = some run → hosting.dialogue.Heard
  ongoing : ∀ run, hosting.run = some run → ∀ node, run.stage ≠ .inside node .ended

theorem ready_new (store : Store) (host : Host) (debugSink errorSink : Bool) :
    (new store host debugSink errorSink).Ready := ⟨nofun, nofun⟩

theorem ready_begun {start : Text} {dialogue started : Dialogue Host} {run : Run}
    (began : Dialogue.run start dialogue = .ok run started) : (begun run started).Ready := by
  obtain ⟨rfl, heard, world, rfl⟩ := Dialogue.run_eq_ok began
  refine ⟨fun _ _ => heard, ?_⟩
  rintro _ ⟨⟩
  exact nofun

/-- Unless the run is over, the moments of the next pull are those of a passage. -/
theorem Ready.upcoming {hosting : Hosting Host} (ready : hosting.Ready) (budget : Nat) :
    hosting.upcoming budget = [] ∨ ∃ run point outcome, hosting.run = some run ∧
      Dialogue.point? run hosting.dialogue = some point ∧
      Passage point (hosting.upcoming budget) outcome := by
  unfold Hosting.upcoming
  cases latest : hosting.run with
  | none => exact .inl rfl
  | some run =>
    cases stands : Dialogue.point? run hosting.dialogue with
    | some point =>
      obtain ⟨outcome, passage, -⟩ := Dialogue.pull_passage budget (ready.heard run latest)
        (ready.ongoing run latest) stands
      exact .inr ⟨run, point, outcome, rfl, stands, passage⟩
    | none =>
      obtain ⟨stage, offers⟩ := run
      cases stage with
      | ended => exact .inl rfl
      | _ => cases stands

/-! ### Steps -/

/-- What one request can do. -/
inductive Step : Hosting Host → Request Host → Hosting Host → Prop
  | errand (hosting errand) :
    Step hosting (.errand errand) { hosting with dialogue := errand.after hosting.dialogue }
  | begun {hosting start run started}
    (began : Dialogue.run start hosting.dialogue = .ok run started) :
    Step hosting (.run start) (begun run started)
  /-- What is refused, or asked for before there is a run, changes nothing. -/
  | refused (hosting request) : Step hosting request hosting
  | pulled {hosting run point moments outcome} (budget) (latest : hosting.run = some run)
    (stands : Dialogue.point? run hosting.dialogue = some point)
    (passage : Passage point moments outcome)
    (finished : Dialogue.yieldOf outcome ≠ .ok .unfinished) :
    Step hosting (.pull budget) { hosting with
      dialogue := Dialogue.leftBy outcome
      run := some (run.behind outcome)
      touches := hosting.touches ++ [.pulled (Dialogue.yieldOf outcome)]
      moments := hosting.moments ++ moments }
  /-- A run that is over has nothing to pull. -/
  | spent {hosting run} (budget) (latest : hosting.run = some run) (spent : run.stage = .ended) :
    Step hosting (.pull budget)
      { hosting with touches := hosting.touches ++ [.pulled (.ok .ended)] }
  | chosen {hosting run answered place index} (latest : hosting.run = some run)
    (chose : run.choose place index = .ok answered) :
    Step hosting (.choose place index) { hosting with run := some answered }
  /-- A run that waits at an event is complete when it is given up. -/
  | closed {hosting run node traversal} (latest : hosting.run = some run)
    (waits : run.stage = .inside node traversal) :
    Step hosting .close { hosting with
      dialogue := hosting.dialogue.ended .completed
      run := some { run with stage := .ended }
      touches := hosting.touches ++ [.closed] }
  /-- Nothing is done for a run that does not wait. -/
  | dropped {hosting run} (latest : hosting.run = some run)
    (waitless : ∀ node traversal, run.stage ≠ .inside node traversal) :
    Step hosting .close { hosting with
      run := some { run with stage := .ended }
      touches := hosting.touches ++ [.closed] }

theorem Ready.step_pull {hosting next : Hosting Host} (ready : hosting.Ready) {budget : Nat}
    (done : hosting.after? (.pull budget) = some next) : Step hosting (.pull budget) next := by
  rw [after?] at done
  cases latest : hosting.run with
  | none =>
    rw [latest] at done
    cases done
    exact .refused _ _
  | some run =>
    rw [latest] at done
    dsimp only at done
    cases stands : Dialogue.point? run hosting.dialogue with
    | some point =>
      obtain ⟨outcome, passage, pulled⟩ := Dialogue.pull_passage budget
        (ready.heard run latest) (ready.ongoing run latest) stands
      rw [pulled] at done
      split at done
      · cases done
      · next yield onward dialogue finished same =>
        obtain ⟨rfl, rfl, rfl⟩ : Dialogue.yieldOf outcome = yield ∧
          run.behind outcome = onward ∧ Dialogue.leftBy outcome = dialogue := by
          simpa using same
        cases done
        exact .pulled budget latest stands passage finished
    | none =>
      have spent : run.stage = .ended := by
        obtain ⟨stage, offers⟩ := run
        cases stage with
        | ended => rfl
        | _ => cases stands
      have nothing : Dialogue.moments budget run hosting.dialogue = [] := by
        rw [Dialogue.moments, spent]
      rw [Dialogue.pull_spent budget spent, nothing, List.append_nil] at done
      cases done
      rw [← latest]
      exact .spent budget latest spent

theorem Ready.step {hosting next : Hosting Host} (ready : hosting.Ready) {request : Request Host}
    (done : hosting.after? request = some next) : Step hosting request next := by
  cases request with
  | errand errand =>
    cases done
    exact .errand hosting errand
  | run start =>
    rw [after?] at done
    cases began : Dialogue.run start hosting.dialogue with
    | ok run started =>
      rw [began] at done
      cases done
      exact .begun began
    | error fault dialogue =>
      obtain rfl := Dialogue.run_eq_error began
      rw [began] at done
      cases done
      exact .refused _ _
  | pull budget => exact ready.step_pull done
  | choose place index =>
    rw [after?] at done
    cases latest : hosting.run with
    | none =>
      rw [latest] at done
      cases done
      exact .refused _ _
    | some run =>
      rw [latest] at done
      dsimp only at done
      cases chose : run.choose place index with
      | ok answered =>
        rw [chose] at done
        cases done
        exact .chosen latest chose
      | error fault =>
        rw [chose] at done
        cases done
        exact .refused _ _
  | close =>
    rw [after?] at done
    cases latest : hosting.run with
    | none =>
      rw [latest] at done
      cases done
      exact .refused _ _
    | some run =>
      rw [latest] at done
      cases done
      obtain ⟨stage, offers⟩ := run
      cases stage with
      | inside node traversal => exact .closed latest rfl
      | unstarted start => exact .dropped latest nofun
      | ended => exact .dropped latest nofun

theorem Step.ready {before after : Hosting Host} {request : Request Host}
    (step : Step before request after) (ready : before.Ready) : after.Ready := by
  cases step with
  | errand errand =>
    exact ⟨fun run latest => (errand.spares before.dialogue).heard (ready.heard run latest),
      ready.ongoing⟩
  | begun began => exact ready_begun began
  | refused => exact ready
  | pulled budget latest stands passage finished =>
    have undisturbed := (Dialogue.undisturbed_point stands).trans passage.undisturbed
    refine ⟨fun _ _ => undisturbed.heard (ready.heard _ latest), ?_⟩
    rintro _ ⟨⟩ node inside
    obtain ⟨event, final, waits⟩ := Run.stage_behind finished inside
    exact (passage.follows waits).ne_ended (by rintro _ ⟨⟩) rfl
  | spent budget latest spent => exact ⟨ready.heard, ready.ongoing⟩
  | chosen latest chose =>
    refine ⟨fun _ _ => ready.heard _ latest, ?_⟩
    rintro _ ⟨⟩
    rw [Run.stage_choose chose]
    exact ready.ongoing _ latest
  | closed latest waits =>
    refine ⟨fun _ _ => ready.heard _ latest, ?_⟩
    rintro _ ⟨⟩ _ ⟨⟩
  | dropped latest waitless =>
    refine ⟨fun _ _ => ready.heard _ latest, ?_⟩
    rintro _ ⟨⟩ _ ⟨⟩

/-! ### Any requests -/

/-- Requests keep to a law, each where it is made. -/
def Heeds (law : Hosting Host → Request Host → Prop) : List (Request Host) → Hosting Host → Prop
  | [], _ => True
  | request :: rest, hosting =>
    law hosting request ∧ ∀ next, hosting.after? request = some next → Heeds law rest next

theorem heeds_any (requests : List (Request Host)) (hosting : Hosting Host) :
    Heeds (fun _ _ => True) requests hosting := by
  induction requests generalizing hosting with
  | nil => trivial
  | cons request rest ih => exact ⟨trivial, fun next _ => ih next⟩

/-- What every step keeps, if it keeps to the law, holds behind any requests that do. -/
theorem holds_behind {law : Hosting Host → Request Host → Prop} {holds : Hosting Host → Prop}
    (steps : ∀ {before request after}, before.Ready → law before request → holds before →
      Step before request after → holds after)
    {requests : List (Request Host)} {hosting final : Hosting Host} (ready : hosting.Ready)
    (heeds : Heeds law requests hosting) (starts : holds hosting)
    (done : requests.foldlM after? hosting = some final) : final.Ready ∧ holds final := by
  induction requests generalizing hosting with
  | nil =>
    cases done
    exact ⟨ready, starts⟩
  | cons request rest ih =>
    rw [List.foldlM_cons] at done
    obtain ⟨next, led, onward⟩ := Option.bind_eq_some_iff.1 done
    -- Readiness comes along, since without it a request need not be a step.
    have step := ready.step led
    exact ih (step.ready ready) (heeds.2 next led) (steps ready heeds.1 starts step) onward

/-- Whatever the host requests, its run can be pulled again. -/
theorem ready_behind {requests : List (Request Host)} {hosting final : Hosting Host}
    (ready : hosting.Ready) (done : requests.foldlM after? hosting = some final) :
    final.Ready := by
  let holds (_ : Hosting Host) : Prop := True
  have kept : holds hosting := trivial
  exact (holds_behind (fun _ _ kept _ => kept) ready (heeds_any requests _) kept done).1

end Hosting

end Parley
