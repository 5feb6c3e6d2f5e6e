/-
This file settles what a failed assertion does to a run. The assertion sets the
stop flag and answers like any other function, and the flag is looked at where the
next result comes up. So the body goes on from the assertion to its next result,
and there the run is over: the result is dropped, no other node is entered, and
nothing the host does with the run changes anything any more.

A flag that is set stays set until the end of the bout, and a bout that ends with
the flag set is the last of its run. What is left in the variables and in the state
of the host can then be read from any position behind the assertion.
-/

import Parley.Proofs.Dialogue.Resolved
import Parley.Proofs.Engine.Positions
import Parley.Proofs.Forwarding

namespace Parley

variable {Host : Type}

/-! ### The stop flag -/

/-- Running a body never takes the stop flag back. -/
theorem Ordinary.stopping : Ordinary fun before after : World Host =>
    before.stopping = true → after.stopping = true where
  refl _ := id
  trans first second := second ∘ first
  log _ _ _ := id
  write _ _ _ := id
  stop _ _ := rfl

namespace Shelf

variable {shelf : Shelf Host} {steps : Nat} {place : LibraryId} {name : Text}
  {operands : List Value} {world : World Host}

/-- Behind a call come the calls of the function that it is handed on to. -/
theorem callsWithin_succ : shelf.callsWithin (steps + 1) place name operands world =
    ⟨place, name, operands, world, shelf.callWithin (steps + 1) place name operands world⟩ ::
      match shelf.next? operands.length (place, name) with
      | none => []
      | some (home, target) => shelf.callsWithin steps home target operands world := by
  rw [callsWithin, next?]
  cases (shelf.library place).get? name with
  | none => rfl
  | some function =>
    dsimp only
    by_cases counted : operands.length ≠ function.arity
    · rw [if_pos counted, if_pos counted]
    · rw [if_neg counted, if_neg counted]
      cases function.implementation <;> rfl

/-- A call that is handed on leaves the world that the call behind it leaves. -/
theorem after_callWithin_of_next {home : LibraryId} {target : Text}
    (hands : shelf.next? operands.length (place, name) = some (home, target)) :
    (shelf.callWithin (steps + 1) place name operands).after world =
      (shelf.callWithin steps home target operands).after world := by
  obtain same | negated := callWithin_of_next hands
  · rw [same]
  · rw [negated, after_bind_return]

/-- A false assertion among the calls that a call leads to sets the stop flag. -/
theorem stopping_of_fails {called : Called Host}
    (member : called ∈ shelf.callsWithin steps place name operands world)
    (fails : called.FailsAssertion shelf) :
    ((shelf.callWithin steps place name operands).after world).stopping = true := by
  induction steps generalizing place name with
  | zero => cases member
  | succ steps ih =>
    rw [callsWithin_succ] at member
    obtain rfl | behind := List.mem_cons.1 member
    · obtain ⟨⟨function, found, counted, asserts⟩, fails⟩ := fails
      rw [callWithin, Library.lookup, found]
      dsimp only
      rw [if_neg (not_not_intro counted.symm), asserts, perform, fails,
        if_neg Bool.false_ne_true]
      rfl
    · cases hands : shelf.next? operands.length (place, name) with
      | none =>
        rw [hands] at behind
        cases behind
      | some next =>
        rw [hands] at behind
        rw [after_callWithin_of_next hands]
        exact ih behind

end Shelf

namespace Bout

/-- A false assertion sets the stop flag for the rest of its bout. -/
theorem stopping_of_fails {bout : Bout Host} {called : Called Host} (member : called ∈ bout.calls)
    (fails : called.FailsAssertion bout.dialogue.shelf) : bout.left.stopping = true := by
  let held (world : World Host) (record : List (Called Host)) : Prop :=
    ∀ called ∈ record, called.FailsAssertion bout.dialogue.shelf → world.stopping = true
  suffices recorded : held bout.left bout.calls from recorded called member fails
  refine bout.calls_spec (fun _ _ _ holds => holds) (fun _ _ _ holds => holds)
    (fun _ _ _ holds => holds) (fun name operands world record holds called member fails => ?_)
    (fun _ member => absurd member List.not_mem_nil)
  obtain before | here := List.mem_append.1 member
  · exact bout.dialogue.shelf.keeps_call Ordinary.stopping Dialogue.home name operands world
      (holds called before fails)
  · exact Shelf.stopping_of_fails here fails

/-! ### Positions of a bout -/

/-- A bout comes to a position of its node, and has then made the calls of the record. -/
def Reaches (bout : Bout Host) (position : Engine.Position Host) (record : List (Called Host)) :
    Prop :=
  Engine.Passes (bout.dialogue.shelf.call Dialogue.home) (bout.dialogue.shelf.calls Dialogue.home)
    bout.chosen bout.traversal { bout.dialogue.world with executing := some bout.node.name }
    position record

variable {bout : Bout Host} {position : Engine.Position Host} {record : List (Called Host)}

theorem Reaches.calls (reaches : bout.Reaches position record) :
    ∃ later, bout.calls = record ++ later := Engine.Passes.recorded reaches

/-- A bout leaves the variables and the state of the host as the statements do that are left where
it comes by. -/
theorem Reaches.left (reaches : bout.Reaches position record) :
    bout.left.store =
        (position.left (bout.dialogue.shelf.call Dialogue.home)).store ∧
      bout.left.host = (position.left (bout.dialogue.shelf.call Dialogue.home)).host := by
  rw [left_eq, Engine.Passes.left reaches]
  exact ⟨rfl, rfl⟩

/-! ### Last bouts -/

/-- The phase in which a run is left that ends with a bout. -/
def lastPhase (bout : Bout Host) : Phase :=
  match bout.outcome with
  | .ok (some (result, _)) _ =>
    if result = .event (.command Dialogue.stopCommand) then .completed else .aborted
  | _ => .aborted

/-- What the host gets from a pull of a run that ends with a bout. -/
def lastYield (bout : Bout Host) : Except Fault Dialogue.Yield :=
  match bout.outcome with
  | .ok _ _ => .ok .ended
  | .error fault _ => .error fault

/-- The dialogue that a run leaves which ends with a bout. -/
def lastDialogue (bout : Bout Host) : Dialogue Host :=
  Dialogue.ended bout.lastPhase { bout.dialogue with world := bout.left }

end Bout

open Dialogue in
/-- A pull ends with the bout that leaves the stop flag set. -/
theorem Passage.broken_off {point : Point Host} {moments : List (Moment Host)}
    {outcome : EStateM.Result Fault (Dialogue Host) Pulled}
    (passage : Passage point moments outcome) {bout : Bout Host} (member : .bout bout ∈ moments)
    (stopping : bout.left.stopping = true) :
    moments.getLast? = some (.bout bout) ∧ yieldOf outcome = bout.lastYield ∧
      leftBy outcome = bout.lastDialogue ∧
      ∀ run : Run, run.behind outcome = { run with stage := .ended } := by
  induction passage with
  | completed | exhausted => cases member
  | missing absent => simp at member
  | entered found onward ih => exact ih member
  | failed only pulled =>
    cases List.mem_singleton.1 member
    rw [Bout.lastYield, Bout.lastDialogue, Bout.lastPhase, Bout.left_of_error pulled, pulled]
    exact ⟨rfl, rfl, rfl, fun _ => rfl⟩
  | stopped only pulled =>
    cases List.mem_singleton.1 member
    rw [Bout.lastYield, Bout.lastDialogue, Bout.lastPhase, Bout.left_of_ok pulled, pulled]
    dsimp only
    rw [if_pos rfl]
    exact ⟨rfl, rfl, rfl, fun _ => rfl⟩
  | broken only pulled other =>
    cases List.mem_singleton.1 member
    rw [Bout.lastYield, Bout.lastDialogue, Bout.lastPhase, Bout.left_of_ok pulled, pulled]
    dsimp only
    rw [if_neg other]
    exact ⟨rfl, rfl, rfl, fun _ => rfl⟩
  | waiting only pulled other going =>
    cases List.mem_singleton.1 member
    rw [Bout.left_of_ok pulled, going] at stopping
    cases stopping
  | followed first pulled going onward ih =>
    obtain same | behind := List.mem_cons.1 member
    · cases same
      rw [Bout.left_of_ok pulled, going] at stopping
      cases stopping
    · obtain ⟨last, rest⟩ := ih behind
      refine ⟨?_, rest⟩
      rw [List.getLast?_cons, last]
      rfl

/-! ### Hosts -/

/-- What a host can do with a run alone: it pulls, answers an offer, or gives the run up. -/
def Request.OfRun : Request Host → Prop
  | .pull _ | .choose _ _ | .close => True
  | _ => False

namespace Hosting

/-- The run is over. -/
def Over (hosting : Hosting Host) : Prop := ∃ run, hosting.run = some run ∧ run.stage = .ended

/-- Nothing that is done with a run which is over changes the dialogue. -/
theorem Over.after {hosting : Hosting Host} (ended : hosting.Over) {request : Request Host}
    (ofRun : request.OfRun) : ∃ next, hosting.after? request = some next ∧ next.Over ∧
      next.dialogue = hosting.dialogue ∧ next.moments = hosting.moments := by
  obtain ⟨run, latest, spent⟩ := ended
  cases request with
  | errand | run => cases ofRun
  | pull budget =>
    have nothing : Dialogue.moments budget run hosting.dialogue = [] := by
      rw [Dialogue.moments, spent]
    rw [after?, latest]
    dsimp only
    rw [Dialogue.pull_spent budget spent, nothing, List.append_nil]
    exact ⟨_, rfl, ⟨run, rfl, spent⟩, rfl, rfl⟩
  | choose place index =>
    rw [after?, latest]
    dsimp only
    cases chose : run.choose place index with
    | ok answered =>
      exact ⟨_, rfl, ⟨answered, rfl, (Run.stage_choose chose).trans spent⟩, rfl, rfl⟩
    | error fault => exact ⟨hosting, rfl, ⟨run, latest, spent⟩, rfl, rfl⟩
  | close =>
    have closed : Dialogue.close run hosting.dialogue =
        ({ run with stage := .ended }, hosting.dialogue) := by
      rw [Dialogue.close.eq_def, spent]
    rw [after?, latest]
    dsimp only
    rw [closed]
    exact ⟨_, rfl, ⟨_, rfl, rfl⟩, rfl, rfl⟩

theorem Over.after_all {requests : List (Request Host)} (ofRun : ∀ request ∈ requests, request.OfRun)
    {hosting : Hosting Host} (ended : hosting.Over) :
    ∃ final, requests.foldlM after? hosting = some final ∧ final.dialogue = hosting.dialogue ∧
      final.moments = hosting.moments := by
  induction requests generalizing hosting with
  | nil => exact ⟨hosting, rfl, rfl, rfl⟩
  | cons request rest ih =>
    obtain ⟨ofRun, others⟩ := List.forall_mem_cons.1 ofRun
    obtain ⟨next, led, still, dialogue, moments⟩ := ended.after ofRun
    obtain ⟨final, done, same, none⟩ := ih others still
    refine ⟨final, ?_, same.trans dialogue, none.trans moments⟩
    rw [List.foldlM_cons, led]
    exact done

/-- A pull whose moments have a bout that leaves the stop flag set ends the run there. -/
theorem after_broken_off {hosting : Hosting Host} (ready : hosting.Ready) {budget : Nat}
    {bout : Bout Host} (made : .bout bout ∈ hosting.upcoming budget)
    (stopping : bout.left.stopping = true) :
    (hosting.upcoming budget).getLast? = some (.bout bout) ∧ ∃ run, run.stage = .ended ∧
      hosting.after? (.pull budget) = some { hosting with
        dialogue := bout.lastDialogue
        run := some run
        touches := hosting.touches ++ [.pulled bout.lastYield]
        moments := hosting.moments ++ hosting.upcoming budget } := by
  cases latest : hosting.run with
  | none =>
    rw [Hosting.upcoming, latest] at made
    cases made
  | some run =>
    cases stands : Dialogue.point? run hosting.dialogue with
    | none =>
      obtain ⟨stage, offers⟩ := run
      cases stage with
      | ended =>
        rw [Hosting.upcoming, latest] at made
        cases made
      | _ => cases stands
    | some point =>
      obtain ⟨outcome, passage, pulled⟩ := Dialogue.pull_passage budget
        (ready.heard run latest) (ready.ongoing run latest) stands
      have same : hosting.upcoming budget = Dialogue.moments budget run hosting.dialogue := by
        rw [Hosting.upcoming, latest]
      rw [same] at made ⊢
      obtain ⟨last, yield, left, behind⟩ := passage.broken_off made stopping
      refine ⟨last, { run with stage := .ended }, rfl, ?_⟩
      rw [after?, latest]
      dsimp only
      rw [pulled, yield, left, behind, Bout.lastYield]
      cases bout.outcome <;> rfl

/-- How a pull ends a run because of a failed assertion in a bout. -/
structure BrokenOff (before : Hosting Host) (bout : Bout Host) (after : Hosting Host) : Prop where
  /-- No node is entered behind the one that asserts. -/
  last : after.moments.getLast? = some (.bout bout)
  /-- That node does not count as visited. -/
  unvisited : after.dialogue.world.visited = bout.dialogue.world.visited
  /-- The result that comes up is not handed out: the host gets the end of the run, or the fault. -/
  silent : after.touches = before.touches ++ [.pulled bout.lastYield]
  /-- The run is aborted, unless the command `stop` has come up, which completes it. -/
  phase : after.dialogue.phase = bout.lastPhase
  /-- The variables and the state of the host are left as they are where the next result comes up,
  or a fault does, from any position that the node comes to. -/
  behind : ∀ position record, bout.Reaches position record →
    after.dialogue.world.store =
        (position.left (bout.dialogue.shelf.call Dialogue.home)).store ∧
      after.dialogue.world.host =
        (position.left (bout.dialogue.shelf.call Dialogue.home)).host
  /-- Where a result comes up at once they are left as they are at the position. -/
  prompt : ∀ position record, bout.Reaches position record → position.Yields →
    after.dialogue.world.store = position.world.store ∧
      after.dialogue.world.host = position.world.host
  /-- Nothing that is done with the run afterwards changes the dialogue or enters a node. -/
  final : ∀ requests : List (Request Host), (∀ request ∈ requests, request.OfRun) →
    ∃ final, requests.foldlM after? after = some final ∧
      final.dialogue = after.dialogue ∧ final.moments = after.moments

/-- A failed assertion ends its run at the next result. Whatever the host has done since the run
began, a pull in which an assertion is called that does not hold comes to an end, and ends the run
with the bout that made the call. -/
theorem failed_assertion_ends_run {start : Text} {dialogue started : Dialogue Host} {run : Run}
    (began : Dialogue.run start dialogue = .ok run started) (requests : List (Request Host))
    {hosting : Hosting Host}
    (done : requests.foldlM after? (begun run started) = some hosting) (budget : Nat)
    {bout : Bout Host} (made : .bout bout ∈ hosting.upcoming budget) {called : Called Host}
    (member : called ∈ bout.calls) (fails : called.FailsAssertion bout.dialogue.shelf) :
    ∃ next, hosting.after? (.pull budget) = some next ∧ BrokenOff hosting bout next := by
  have ready := ready_behind (ready_begun began) done
  obtain ⟨last, ended, spent, led⟩ :=
    after_broken_off ready made (Bout.stopping_of_fails member fails)
  refine ⟨_, led, ?_⟩
  exact {
    last := by rw [List.getLast?_append, last, Option.some_or]
    unvisited := bout.visited_left
    silent := rfl
    phase := rfl
    behind := fun position record reaches => reaches.left
    prompt := by
      intro position record reaches yields
      obtain ⟨store, host⟩ := yields.left (bout.dialogue.shelf.call Dialogue.home)
      exact ⟨reaches.left.1.trans store, reaches.left.2.trans host⟩
    final := fun requests ofRun => Over.after_all ofRun ⟨ended, rfl, spent⟩ }

/-- A node that asserts what does not hold, assigns a variable, and then says something. -/
def assertingNode : Node :=
  ⟨"A", [.evaluate (.call "assert" [.literal (.bool false)]),
    .assign "late" (.literal (.bool true)), .say "Hello."], []⟩

/-- A dialogue of that node. -/
def asserting : Dialogue Unit := Dialogue.solo assertingNode.body

/-- The bout of its run. -/
def assertingBout : Bout Unit where
  node := assertingNode
  chosen := none
  traversal := .fresh assertingNode
  dialogue := (asserting.begun "A").changeWorld (·.reach "A")

/-- The call of the assertion. -/
def assertingCall : Called Unit :=
  let world := { assertingBout.dialogue.world with executing := some "A" }.note (.nodeEntered "A")
  { place := Dialogue.home
    name := "assert"
    operands := [.bool false]
    world
    outcome := assertingBout.dialogue.shelf.call Dialogue.home "assert" [.bool false] world }

/-- The position behind the assertion. -/
def behindAssertion : Engine.Position Unit where
  name := "A"
  rest := [.assign "late" (.literal (.bool true)), .say "Hello."]
  world := (assertingBout.dialogue.shelf.call Dialogue.home "assert" [.bool false]).after
    assertingCall.world

theorem began_asserting : Dialogue.run "A" asserting =
    .ok { stage := .unstarted "A" } (asserting.begun "A") := rfl

theorem upcoming_asserting :
    .bout assertingBout ∈ (begun { stage := .unstarted "A" } (asserting.begun "A")).upcoming 8 :=
  List.mem_cons.2 (.inl rfl)

theorem fails_assertingCall : assertingCall.FailsAssertion assertingBout.dialogue.shelf :=
  ⟨⟨⟨"assert", 1, .assertion⟩, by cbv, rfl, rfl⟩, rfl⟩

theorem reaches_behindAssertion : assertingBout.Reaches behindAssertion [assertingCall] :=
  ⟨_, rfl, .more (.evaluated rfl) (.none _)⟩

theorem assertingCall_mem_calls : assertingCall ∈ assertingBout.calls := by
  obtain ⟨later, calls⟩ := reaches_behindAssertion.calls
  rw [calls]
  exact List.mem_append_left later List.mem_cons_self

/-- The variable that is assigned behind the assertion is there at the end of the run. -/
theorem failed_assertion_ends_run_asserting : ∃ next,
    (begun { stage := .unstarted "A" } (asserting.begun "A")).after? (.pull 8) = some next ∧
      BrokenOff (begun { stage := .unstarted "A" } (asserting.begun "A")) assertingBout next ∧
      next.dialogue.phase = .aborted ∧
      next.dialogue.world.store.find? "late" = some (.bool true) := by
  have course : ((begun { stage := .unstarted "A" } (asserting.begun "A")).after? (.pull 8)).map
      (fun next => (next.dialogue.phase, next.dialogue.world.store.find? "late")) =
        some (.aborted, some (.bool true)) := by
    cbv
  obtain ⟨next, led, broken⟩ := failed_assertion_ends_run began_asserting [] rfl 8
    upcoming_asserting assertingCall_mem_calls fails_assertingCall
  rw [led, Option.map_some] at course
  exact ⟨next, led, broken, congrArg Prod.fst (Option.some.inj course),
    congrArg Prod.snd (Option.some.inj course)⟩

/-- A failed assertion does not end its run at once: where it has been carried out the variable is
not there yet. -/
theorem assigned_behind_failed_assertion : ∃ next,
    (begun { stage := .unstarted "A" } (asserting.begun "A")).after? (.pull 8) = some next ∧
      next.moments = [.bout assertingBout] ∧ assertingCall ∈ assertingBout.calls ∧
      assertingCall.FailsAssertion assertingBout.dialogue.shelf ∧
      assertingBout.Reaches behindAssertion [assertingCall] ∧
      next.dialogue.world.store ≠ behindAssertion.world.store := by
  have course : ((begun { stage := .unstarted "A" } (asserting.begun "A")).after? (.pull 8)).map
      (fun next => next.dialogue.world.store.find? "late") = some (some (.bool true)) := by
    cbv
  obtain ⟨-, ended, -, led⟩ := after_broken_off (ready_begun began_asserting) upcoming_asserting
    (Bout.stopping_of_fails assertingCall_mem_calls fails_assertingCall)
  refine ⟨_, led, ?_, assertingCall_mem_calls, fails_assertingCall, reaches_behindAssertion, ?_⟩
  · cbv
  · intro same
    rw [led, Option.map_some, same] at course
    cases course

end Hosting

end Parley
