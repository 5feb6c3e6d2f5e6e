/-
This file says of each step of a run what it does to the dialogue, so that no
proof about runs has to open an operation again: a message to a sink that is
there is noted, a node that is entered is the one its name stands for, and one
result of a node is judged by three questions in a fixed order: whether it is the
command `stop`, whether the run is to be broken off, and what the result is.
-/

import Parley.Dialogue.Run
import Parley.Proofs.Act

namespace Parley

variable {Host Answer : Type}

/-! ### Worlds -/

/-- The world of a run that goes to a name, and has said so. -/
def World.reach (name : Text) (world : World Host) : World Host :=
  { world with current := some name }.note (.tellRunning name)

/-- Does something while the body of a node is marked as running. -/
def Act.during (name : Text) (act : Act Host Answer) : Act Host Answer :=
  fun world =>
    match act { world with executing := some name } with
    | .ok answer after => .ok answer { after with executing := world.executing }
    | .error fault after => .error fault { after with executing := world.executing }

theorem Act.during_eq_ok {name : Text} {act : Act Host Answer} {world final : World Host}
    {answer : Answer} (done : act.during name world = .ok answer final) :
    ∃ between, act { world with executing := some name } = .ok answer between := by
  rw [Act.during] at done
  cases result : act { world with executing := some name } with
  | ok answer between =>
    rw [result] at done
    cases done
    exact ⟨between, rfl⟩
  | error fault between =>
    rw [result] at done
    cases done

namespace Dialogue

/-! ### Operations that the steps are made of -/

theorem get_apply (dialogue : Dialogue Host) :
    (get : Operation Host (Dialogue Host)) dialogue = .ok dialogue dialogue := rfl

theorem set_apply (content dialogue : Dialogue Host) :
    (set content : Operation Host PUnit) dialogue = .ok ⟨⟩ content := rfl

theorem note_apply (message : Note) (dialogue : Dialogue Host) :
    note message dialogue = .ok () (dialogue.changeWorld (·.note message)) := rfl

theorem modify_apply (change : Dialogue Host → Dialogue Host) (dialogue : Dialogue Host) :
    (modify change : Operation Host Unit) dialogue = .ok () (change dialogue) := rfl

theorem executing_apply (name : Text) (act : Act Host Answer) (dialogue : Dialogue Host) :
    executing name act dialogue =
      match act.during name dialogue.world with
      | .ok answer world => .ok answer { dialogue with world }
      | .error fault world => .error fault { dialogue with world } := by
  rw [executing, Act.during]
  cases act { dialogue.world with executing := some name } <;> rfl

/-- Both sinks are there. -/
def Heard (dialogue : Dialogue Host) : Prop :=
  dialogue.debugSink = true ∧ dialogue.errorSink = true

/-- A message is noted if the sink that it is meant for is there. -/
theorem tell_eq (message : Note) (dialogue : Dialogue Host) :
    tell message dialogue =
      if (if message.channel = .errorSink then dialogue.errorSink else dialogue.debugSink) then
        .ok () (dialogue.changeWorld (·.note message))
      else .error .sinkGone dialogue := by
  rw [tell, bind_apply, get_apply]
  dsimp only
  cases (if message.channel = .errorSink then dialogue.errorSink else dialogue.debugSink) <;> rfl

theorem tell_apply (message : Note) {dialogue : Dialogue Host} (heard : dialogue.Heard) :
    tell message dialogue = .ok () (dialogue.changeWorld (·.note message)) := by
  obtain ⟨debugSink, errorSink⟩ := heard
  rw [tell_eq, debugSink, errorSink, ite_self, if_pos rfl]

/-- The dialogue after the end of a run. -/
def ended (phase : Phase) (dialogue : Dialogue Host) : Dialogue Host :=
  { dialogue with
    phase
    world := dialogue.world.note (.runFinished phase dialogue.world.current) }

theorem finish_bind (phase : Phase) (answer : Answer) (dialogue : Dialogue Host) :
    (do finish phase; return answer : Operation Host Answer) dialogue =
      .ok answer (dialogue.ended phase) := rfl

/-- A run that fails is broken off. -/
theorem guarded_apply (operation : Operation Host Answer) (dialogue : Dialogue Host) :
    guarded operation dialogue =
      match operation dialogue with
      | .ok answer dialogue => .ok answer dialogue
      | .error fault dialogue => .error fault (dialogue.ended .aborted) := rfl

/-! ### Loading -/

theorem requireSinks_heard (activity : Activity) {dialogue : Dialogue Host}
    (heard : dialogue.Heard) : requireSinks activity dialogue = .ok () dialogue := by
  obtain ⟨debugSink, errorSink⟩ := heard
  rw [requireSinks, bind_apply, get_apply]
  dsimp only
  rw [debugSink, errorSink]
  rfl

theorem requireSinks_unheard (activity : Activity) {dialogue : Dialogue Host}
    (unheard : ¬ dialogue.Heard) :
    requireSinks activity dialogue =
      .error (.sinkMissing (if dialogue.debugSink then .error else .debug) activity) dialogue := by
  rw [Heard] at unheard
  rw [requireSinks, bind_apply, get_apply]
  dsimp only
  cases debugSink : dialogue.debugSink with
  | false => rfl
  | true =>
    cases errorSink : dialogue.errorSink with
    | false => rfl
    | true => exact absurd ⟨debugSink, errorSink⟩ unheard

theorem loadNodes_unheard (nodes : Ledger Text Node) (strict : Bool) {dialogue : Dialogue Host}
    (unheard : ¬ dialogue.Heard) :
    loadNodes nodes strict dialogue =
      .error (.sinkMissing (if dialogue.debugSink then .error else .debug) .loading) dialogue := by
  rw [loadNodes, bind_apply, requireSinks_unheard _ unheard]

/-- The nodes are put in last of all, when nothing can fail any more. -/
theorem loadNodes_apply (nodes : Ledger Text Node) (strict : Bool) {dialogue : Dialogue Host}
    (heard : dialogue.Heard) :
    loadNodes nodes strict dialogue =
      match (if strict then missingFunctions dialogue.library (nodes.entries.map Prod.snd)
        else []) with
      | first :: _ => .error (.functionNotFound first) dialogue
      | [] =>
        match dialogue.nodes.merge nodes with
        | .error name => .error (.load (.duplicate name)) dialogue
        | .ok table =>
          .ok table.size { dialogue with
            nodes := table
            world := (dialogue.world.note (.nodesAdded nodes.size table.size)).note
              (.tellLoaded nodes.size) } := by
  rw [loadNodes, bind_apply, requireSinks_heard _ heard]
  dsimp only
  rw [bind_apply, get_apply]
  dsimp only
  cases (if strict = true then
      missingFunctions dialogue.library (nodes.entries.map Prod.snd) else []) with
  | cons first rest => rfl
  | nil =>
    dsimp only
    cases dialogue.nodes.merge nodes with
    | error name => rfl
    | ok table =>
      dsimp only
      rw [bind_apply, set_apply]
      dsimp only
      rw [bind_apply, note_apply]
      dsimp only
      rw [bind_apply, tell_apply _ (by exact heard)]
      rfl

theorem loadScript_unheard (script : Except LoadFault NodeTable) (strict : Bool)
    {dialogue : Dialogue Host} (unheard : ¬ dialogue.Heard) :
    loadScript script strict dialogue =
      .error (.sinkMissing (if dialogue.debugSink then .error else .debug) .loading) dialogue := by
  rw [loadScript.eq_def, bind_apply, requireSinks_unheard _ unheard]

theorem loadScript_apply (script : Except LoadFault NodeTable) (strict : Bool)
    {dialogue : Dialogue Host} (heard : dialogue.Heard) :
    loadScript script strict dialogue =
      match script with
      | .error fault => .error (.load fault) dialogue
      | .ok table =>
        loadNodes table.toLedger strict
          (dialogue.changeWorld (·.note (.scriptLoaded table.size))) := by
  rw [loadScript.eq_def, bind_apply, requireSinks_heard _ heard]
  cases script with
  | error fault => rfl
  | ok table => rfl

/-! ### Beginning a run -/

theorem requireSinks_eq_ok {activity : Activity} {dialogue final : Dialogue Host}
    (done : requireSinks activity dialogue = .ok () final) :
    final = dialogue ∧ dialogue.Heard := by
  by_cases heard : dialogue.Heard
  · rw [requireSinks_heard activity heard] at done
    cases done
    exact ⟨rfl, heard⟩
  · rw [requireSinks_unheard activity heard] at done
    cases done

/-- A run that was begun waits at its start, has both sinks, and changed only the world and the
phase of its dialogue. -/
theorem run_eq_ok {start : Text} {dialogue started : Dialogue Host} {run : Run}
    (began : Dialogue.run start dialogue = .ok run started) :
    run = { stage := .unstarted start } ∧ dialogue.Heard ∧
      ∃ world, started = { dialogue with world, phase := .running } := by
  rw [Dialogue.run] at began
  obtain ⟨_, _, required, onward⟩ := bind_eq_ok began
  obtain ⟨rfl, heard⟩ := requireSinks_eq_ok required
  cases onward
  exact ⟨rfl, heard, _, rfl⟩

/-! ### Entering a node -/

/-- A name is entered and announced if the debug sink is there; without the error sink there is no
saying that no node has it. -/
theorem enter_eq (name : Text) (dialogue : Dialogue Host) :
    enter name dialogue =
      if dialogue.debugSink then
        match dialogue.nodes.get? name with
        | some node => .ok (some node) (dialogue.changeWorld (·.reach name))
        | none =>
          if dialogue.errorSink then
            .ok none ((dialogue.changeWorld fun world =>
              (world.reach name).note (.tellMissing name)).ended .aborted)
          else .error .sinkGone (dialogue.changeWorld (·.reach name))
      else
        .error .sinkGone
          (dialogue.changeWorld fun world => { world with current := some name }) := by
  have unnoted : (changeWorld (fun world => { world with current := some name })
      dialogue).debugSink = dialogue.debugSink := rfl
  have noted : (changeWorld (·.reach name) dialogue).errorSink = dialogue.errorSink := rfl
  have running : (Note.tellRunning name).channel ≠ .errorSink := nofun
  have missing : (Note.tellMissing name).channel = .errorSink := rfl
  rw [enter, bind_apply, modify_apply]
  dsimp only
  rw [bind_apply, tell_eq, if_neg running, unnoted]
  cases dialogue.debugSink with
  | false => rfl
  | true =>
    rw [if_pos rfl, if_pos rfl]
    dsimp only
    rw [bind_apply, get_apply]
    show (match dialogue.nodes.get? name with
      | some node => pure (some node)
      | none => do
        tell (.tellMissing name)
        finish .aborted
        return none : Operation Host (Option Node)) (dialogue.changeWorld (·.reach name)) = _
    cases dialogue.nodes.get? name with
    | some node => rfl
    | none =>
      dsimp only
      rw [bind_apply, tell_eq, if_pos missing, noted]
      cases dialogue.errorSink <;> rfl

theorem enter_apply (name : Text) {dialogue : Dialogue Host} (heard : dialogue.Heard) :
    enter name dialogue =
      match dialogue.nodes.get? name with
      | some node => .ok (some node) (dialogue.changeWorld (·.reach name))
      | none =>
        .ok none ((dialogue.changeWorld fun world =>
          (world.reach name).note (.tellMissing name)).ended .aborted) := by
  rw [enter_eq, heard.1, heard.2, if_pos rfl, if_pos rfl]

/-! ### Taking one result -/

/-- What a result means for the run that it belongs to, and the dialogue then. -/
def judge (node : Node) (result : Result) (traversal : Traversal) (dialogue : Dialogue Host) :
    Turn × Dialogue Host :=
  if result = .event (.command stopCommand) then (.ended, dialogue.ended .completed)
  else if dialogue.world.stopping then (.ended, dialogue.ended .aborted)
  else
    match result with
    | .complete next => (.follow next, dialogue.changeWorld (·.visit node.name))
    | .event event => (.event event traversal, { dialogue with phase := .suspended })

theorem takeTurn_apply (node : Node) (chosen : Option Nat) (traversal : Traversal)
    (dialogue : Dialogue Host) :
    takeTurn node chosen traversal dialogue =
      match (Engine.pull (dialogue.shelf.call home) chosen traversal).during node.name
        dialogue.world with
      | .error fault world => .error fault { dialogue with world }
      | .ok none world => .ok .ended { dialogue with world }
      | .ok (some (result, traversal)) world =>
        .ok (judge node result traversal { dialogue with world }).1
          (judge node result traversal { dialogue with world }).2 := by
  rw [takeTurn, bind_apply, get_apply]
  dsimp only
  rw [bind_apply, executing_apply]
  cases (Engine.pull (dialogue.shelf.call home) chosen traversal).during node.name
      dialogue.world with
  | error fault world => rfl
  | ok pulled world =>
    match pulled with
    | none => rfl
    | some (result, traversal) =>
      dsimp only
      rw [bind_apply, get_apply, judge.eq_def]
      dsimp only
      by_cases stop : result = .event (.command stopCommand)
      · rw [if_pos stop, if_pos stop]
        exact finish_bind .completed _ _
      · rw [if_neg stop, if_neg stop]
        by_cases stopping : world.stopping = true
        · rw [if_pos stopping, if_pos stopping]
          exact finish_bind .aborted _ _
        · rw [if_neg stopping, if_neg stopping]
          cases result <;> rfl

end Dialogue

end Parley
