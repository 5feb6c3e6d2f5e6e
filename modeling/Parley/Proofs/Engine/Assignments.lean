/-
This file follows the variables through a pull. A pull goes from position to position,
and if nothing that is evaluated on the way writes a variable, the variables change where
an assignment stands and nowhere else. So the assignments of a pull make a chain: each of
them finds the variables that those before it have left, and the pull leaves what the last
one has left. An assignment whose expression fails leaves what it has found.

Whether functions write variables is asked of the calls that are made, and not of all that
could be made. The chain is therefore followed in the world of a host who keeps a record of
the calls. Nothing is ever taken off the record; so if the whole of it is good, so is what
was recorded up to any position.
-/

import Parley.Proofs.Engine.Trail
import Parley.Proofs.Roster

namespace Parley

variable {Host Entry Answer : Type}

/-! ### Assignments -/

/-- An assignment that is executed: the variable and the expression, the world in which the
expression is evaluated, and what that comes to. -/
structure Assignment (Host : Type) where
  target : Text
  expression : Expression
  world : World Host
  outcome : EStateM.Result Fault (World Host) Value

namespace Assignment

/-- The world that evaluating the expression leaves, whether or not it fails. -/
def left (assignment : Assignment Host) : World Host :=
  match assignment.outcome with
  | .ok _ after => after
  | .error _ after => after

/-- The value that is assigned, unless the expression fails. -/
def value? (assignment : Assignment Host) : Option Value :=
  match assignment.outcome with
  | .ok value _ => some value
  | .error _ _ => none

/-- The variables behind an assignment. Where the expression fails nothing is written. -/
def write (assignment : Assignment Host) (store : Store) : Store :=
  match assignment.value? with
  | some value => store.put assignment.target value
  | none => store

/-- Assignments lead from variables to variables. Each of them finds those that the ones before it
have left, and evaluating its expression changes none. -/
inductive Chain : Store → List (Assignment Host) → Store → Prop
  | none (store) : Chain store [] store
  | more {store assignment rest final} (found : assignment.world.store = store)
    (left : assignment.left.store = store) (onward : Chain (assignment.write store) rest final) :
    Chain store (assignment :: rest) final

namespace Chain

variable {first second third store final : Store} {assignments others : List (Assignment Host)}

theorem append (chain : Chain first assignments second) (onward : Chain second others third) :
    Chain first (assignments ++ others) third := by
  induction chain with
  | none store => exact onward
  | more found left _ inductionHypothesis => exact .more found left (inductionHypothesis onward)

/-- A chain leads through the variables that each of its assignments finds. -/
theorem split {earlier later : List (Assignment Host)} {assignment : Assignment Host}
    (chain : Chain store (earlier ++ assignment :: later) final) :
    Chain store earlier assignment.world.store ∧
      Chain (assignment.write assignment.world.store) later final := by
  induction earlier generalizing store with
  | nil =>
    cases chain with
    | more found left onward =>
      rw [found]
      exact ⟨.none store, onward⟩
  | cons first earlier inductionHypothesis =>
    cases chain with
    | more found left onward =>
      obtain ⟨before, behind⟩ := inductionHypothesis onward
      exact ⟨.more found left before, behind⟩

/-- An assignment whose expression fails is as if it were not there. -/
theorem skip {earlier later : List (Assignment Host)} {assignment : Assignment Host}
    (chain : Chain store (earlier ++ assignment :: later) final)
    (fails : assignment.value? = .none) :
    Chain store earlier assignment.world.store ∧ Chain assignment.world.store later final := by
  have parts := chain.split
  rwa [write, fails] at parts

/-- A variable has the value that was assigned last, or else the one that it had before. -/
theorem find?_eq (chain : Chain store assignments final) (name : Text) :
    (final.find? name = store.find? name ∧
        ∀ other ∈ assignments, other.target = name → other.value? = .none) ∨
      ∃ earlier assignment later value, assignments = earlier ++ assignment :: later ∧
        assignment.target = name ∧ assignment.value? = some value ∧
        final.find? name = some value ∧
        ∀ other ∈ later, other.target = name → other.value? = .none := by
  induction chain with
  | none store => exact .inl ⟨rfl, List.forall_mem_nil _⟩
  | @more store assignment rest final found left onward inductionHypothesis =>
    obtain ⟨same, unassigned⟩ | ⟨earlier, last, later, value, rfl, behind⟩ := inductionHypothesis
    · cases valued : assignment.value? with
      | none =>
        rw [write, valued] at same
        refine .inl ⟨same, fun other member targets => ?_⟩
        obtain rfl | member := List.mem_cons.1 member
        · exact valued
        · exact unassigned other member targets
      | some value =>
        rw [write, valued] at same
        dsimp only at same
        by_cases targets : assignment.target = name
        · refine .inr ⟨[], assignment, rest, value, rfl, targets, valued, ?_, unassigned⟩
          rw [same, targets, Ledger.find?_put_self]
        · refine .inl ⟨?_, fun other member here => ?_⟩
          · rw [same, Ledger.find?_put_other store (Ne.symm targets)]
          · obtain rfl | member := List.mem_cons.1 member
            · exact absurd here targets
            · exact unassigned other member here
    · exact .inr ⟨assignment :: earlier, last, later, value, rfl, behind⟩

end Chain

end Assignment

/-! ### The assignments of a pull -/

/-- The statements that are run stand among those that were left before. -/
theorem Step.Account.stands {steps : List Step} {before after : List Statement}
    {events : List Event} {jumps : List Text} (account : Account steps before after events jumps)
    {step : Step} (member : step ∈ steps) : step.statement ∈ before :=
  account.order.subset (List.mem_append_left _ (List.mem_map_of_mem member))

namespace Engine

theorem Accounted.stands {steps : List Step} {before : List Statement}
    {result : EStateM.Result Fault (World Host) (Result × Traversal)}
    (accounted : Accounted steps before result) {step : Step} (member : step ∈ steps) :
    step.statement ∈ before := by
  cases accounted with
  | event ongoing account => exact account.stands member
  | complete account => exact account.stands member
  | fault account => exact account.stands member

variable (call : Text → List Value → Act Host Value)

namespace Position

/-- The assignment that is executed at a position, if it is one. -/
def assignment? (position : Position Host) : Option (Assignment Host) :=
  match position.rest with
  | .assign target expression :: _ =>
    some
      { target, expression
        world := position.world
        outcome := evaluate call expression position.world }
  | _ => none

/-- The positions from a position on, until a result is yielded or something fails. -/
def path (position : Position Host) : List (Position Host) :=
  match _ : position.next? call with
  | none => [position]
  | some next => position :: next.path
termination_by sizeOf position.rest
decreasing_by exact (next?_eq_some_iff.1 ‹_›).sizeOf_lt

/-- The assignments that are executed from a position on. -/
def assignments (position : Position Host) : List (Assignment Host) :=
  (position.path call).filterMap (assignment? call)

theorem steps_eq (position : Position Host) :
    position.steps call = (position.path call).filterMap (step? call) := by
  induction position using steps.induct call with
  | case1 position stops =>
    rw [steps, path, stops]
    cases step : position.step? call <;> simp [step]
  | case2 position next onward inductionHypothesis =>
    rw [steps, path, onward]
    dsimp only
    rw [inductionHypothesis]
    cases step : position.step? call <;> simp [step]

theorem assignments_of_stop {position : Position Host} (stops : position.next? call = none) :
    position.assignments call = (position.assignment? call).toList := by
  rw [assignments, path, stops]
  cases executed : position.assignment? call <;> simp [executed]

theorem assignments_of_next {position next : Position Host}
    (onward : position.next? call = some next) :
    position.assignments call =
      (position.assignment? call).toList ++ next.assignments call := by
  rw [assignments, path, onward]
  cases executed : position.assignment? call <;> simp [executed, assignments]

variable {call}

/-- An assignment is a step, and its expression is evaluated where it stands. -/
theorem assignment?_eq_some {position : Position Host} {assignment : Assignment Host}
    (executed : position.assignment? call = some assignment) :
    position.step? call = some ⟨.assign assignment.target assignment.expression, none⟩ ∧
      assignment.outcome = evaluate call assignment.expression assignment.world := by
  rw [assignment?] at executed
  split at executed
  · next target expression rest stands =>
    cases executed
    rw [step?, stands]
    exact ⟨rfl, rfl⟩
  · cases executed

/-- Where an assignment is executed and no move is left, its expression fails. -/
theorem outcome_of_stop {position : Position Host} {assignment : Assignment Host}
    (stops : position.next? call = none) (executed : position.assignment? call = some assignment) :
    assignment.world = position.world ∧ assignment.left = position.left call ∧
      assignment.value? = none := by
  obtain ⟨name, rest, world⟩ := position
  rw [assignment?] at executed
  split at executed
  · next target expression rest stands =>
    cases executed
    dsimp only at stands
    subst stands
    cases found : evaluate call expression world with
    | ok value after => simp [next?, found] at stops
    | error fault after =>
      rw [left, Act.after, advance, bind_apply, found]
      exact ⟨rfl, rfl, rfl⟩
  · cases executed

/-- The assignments that are executed stand among the statements that are left. -/
theorem mem_assignments {position : Position Host} {assignment : Assignment Host}
    (member : assignment ∈ position.assignments call) :
    .assign assignment.target assignment.expression ∈ Statement.blockParts position.rest ∧
      assignment.outcome = evaluate call assignment.expression assignment.world := by
  obtain ⟨passed, onPath, executed⟩ := List.mem_filterMap.1 member
  obtain ⟨step, outcome⟩ := assignment?_eq_some executed
  have taken : ⟨.assign assignment.target assignment.expression, none⟩ ∈ position.steps call := by
    rw [steps_eq]
    exact List.mem_filterMap.2 ⟨passed, onPath, step⟩
  exact ⟨position.accounted.stands taken, outcome⟩

end Position

/-! ### Records -/

section

variable {call} {entries : Text → List Value → World Host → List Entry} {good : Entry → Prop}

/-- If what is in the record is good, then so was what was in it before, and the variables are what
they were. -/
def Unwritten (good : Entry → Prop) (before after : World (Host × List Entry)) : Prop :=
  (∀ entry ∈ after.host.2, good entry) →
    (∀ entry ∈ before.host.2, good entry) ∧ after.store = before.store

theorem steady_unwritten : Steady (Unwritten good : World (Host × List Entry) → _ → Prop) where
  refl _ fine := ⟨fine, rfl⟩
  trans first second fine :=
    have ⟨between, after⟩ := second fine
    have ⟨before, same⟩ := first between
    ⟨before, after.trans same⟩

variable (unwriting : ∀ name operands world, (∀ entry ∈ entries name operands world, good entry) →
  ((call name operands).after world).store = world.store)

include unwriting

/-- A call that is good writes no variable. -/
theorem unwritten_watch (name : Text) (operands : List Value) :
    (watch call entries name operands).Keeps (Unwritten good) := by
  intro world
  have spared := unwriting name operands world.bare
  unfold Act.after at spared ⊢
  unfold watch
  cases done : call name operands world.bare with
  | ok value after =>
    rw [done] at spared
    intro fine
    obtain ⟨before, here⟩ := List.forall_mem_append.1 fine
    exact ⟨before, spared here⟩
  | error fault after =>
    rw [done] at spared
    intro fine
    obtain ⟨before, here⟩ := List.forall_mem_append.1 fine
    exact ⟨before, spared here⟩

theorem unwritten_evaluate (expression : Expression) :
    (evaluate (watch call entries) expression).Keeps (Unwritten good) :=
  keeps_evaluate steady_unwritten (unwritten_watch unwriting) expression

theorem unwritten_available (replies : List (Reply Statement)) :
    (available (watch call entries) replies).Keeps (Unwritten good) :=
  keeps_available steady_unwritten (unwritten_watch unwriting) replies

/-- Where no move is left, nothing is written any more. -/
theorem unwritten_of_stop {position : Position (Host × List Entry)}
    (stops : position.next? (watch call entries) = none) :
    Unwritten good position.world (position.left (watch call entries)) := by
  obtain ⟨name, rest, world⟩ := position
  rw [Position.left, Act.after]
  cases rest with
  | nil =>
    rw [advance]
    exact fun fine => ⟨fine, rfl⟩
  | cons statement rest =>
    cases statement with
    | say text =>
      rw [advance]
      exact steady_unwritten.refl world
    | command text =>
      rw [advance]
      exact steady_unwritten.refl world
    | evaluate expression =>
      cases found : evaluate (watch call entries) expression world with
      | ok value after => simp [Position.next?, found] at stops
      | error fault after =>
        rw [advance, bind_apply, found]
        exact (unwritten_evaluate unwriting expression).of_error found
    | assign target expression =>
      cases found : evaluate (watch call entries) expression world with
      | ok value after => simp [Position.next?, found] at stops
      | error fault after =>
        rw [advance, bind_apply, found]
        exact (unwritten_evaluate unwriting expression).of_error found
    | branch clauses otherwise =>
      cases clauses with
      | nil => cases stops
      | cons clause clauses =>
        rcases clause with ⟨condition, body⟩
        cases found : evaluate (watch call entries) condition world with
        | ok value after =>
          simp only [Position.next?, found] at stops
          split at stops <;> cases stops
        | error fault after =>
          rw [advance, bind_apply, found]
          exact (unwritten_evaluate unwriting condition).of_error found
    | choice replies =>
      cases found : available (watch call entries) replies world with
      | ok offers after =>
        cases offers with
        | nil => simp [Position.next?, found] at stops
        | cons offer others =>
          rw [advance, bind_apply, found]
          exact (unwritten_available unwriting replies).of_ok found
      | error fault after =>
        rw [advance, bind_apply, found]
        exact (unwritten_available unwriting replies).of_error found
    | jump target =>
      rw [advance]
      exact fun fine => ⟨fine, rfl⟩
    | foreign =>
      rw [advance]
      exact steady_unwritten.refl world

/-- A move writes what its assignment assigns, if it executes one. -/
theorem chain_of_move {before after : Position (Host × List Entry)}
    (move : Move (watch call entries) before after)
    (fine : ∀ entry ∈ after.world.host.2, good entry) :
    (∀ entry ∈ before.world.host.2, good entry) ∧
      Assignment.Chain before.world.store
        (before.assignment? (watch call entries)).toList after.world.store := by
  have still {world after : World (Host × List Entry)} (kept : Unwritten good world after)
      (fine : ∀ entry ∈ after.host.2, good entry) :
      (∀ entry ∈ world.host.2, good entry) ∧
        Assignment.Chain world.store ([] : List (Assignment (Host × List Entry))) after.store := by
    obtain ⟨earlier, same⟩ := kept fine
    rw [same]
    exact ⟨earlier, .none _⟩
  cases move with
  | evaluated done => exact still ((unwritten_evaluate unwriting _).of_ok done) fine
  | taken done holds => exact still ((unwritten_evaluate unwriting _).of_ok done) fine
  | passed done fails => exact still ((unwritten_evaluate unwriting _).of_ok done) fine
  | otherwise => exact ⟨fine, .none _⟩
  | @skipped name replies rest world after done =>
    have kept := (unwritten_available unwriting replies).of_ok done
    exact still (fun noted => kept noted) fine
  | @assigned name target expression rest world after value done =>
    obtain ⟨earlier, same⟩ := (unwritten_evaluate unwriting expression).of_ok done fine
    have executed :
        (Position.mk name (.assign target expression :: rest) world).assignment?
            (watch call entries) = some ⟨target, expression, world, .ok value after⟩ := by
      simp only [Position.assignment?, done]
    rw [executed]
    refine ⟨earlier, .more rfl same ?_⟩
    show Assignment.Chain (world.store.put target value) [] (after.store.put target value)
    rw [same]
    exact .none _

/-- From any position on, the assignments make a chain from the variables there to those that are
left, if everything that is recorded in the end is good. -/
theorem chain_left (position : Position (Host × List Entry))
    (fine : ∀ entry ∈ (position.left (watch call entries)).host.2, good entry) :
    (∀ entry ∈ position.world.host.2, good entry) ∧
      Assignment.Chain position.world.store (position.assignments (watch call entries))
        (position.left (watch call entries)).store := by
  induction position using Position.path.induct (watch call entries) with
  | case1 position stops =>
    obtain ⟨earlier, same⟩ := unwritten_of_stop unwriting stops fine
    refine ⟨earlier, ?_⟩
    rw [Position.assignments_of_stop _ stops, same]
    cases executed : position.assignment? (watch call entries) with
    | none => exact .none _
    | some assignment =>
      obtain ⟨found, left, unassigned⟩ := Position.outcome_of_stop stops executed
      refine .more (by rw [found]) (by rw [left, same]) ?_
      rw [Assignment.write, unassigned]
      exact .none _
  | case2 position next onward inductionHypothesis =>
    have move := Position.next?_eq_some_iff.1 onward
    have left := Position.left_eq move.outcome
    rw [left] at fine ⊢
    obtain ⟨between, behind⟩ := inductionHypothesis fine
    obtain ⟨earlier, here⟩ := chain_of_move unwriting move between
    rw [Position.assignments_of_next _ onward]
    exact ⟨earlier, here.append behind⟩

end

/-! ### Without the record -/

/-- What a computation comes to, without the record that the host keeps. -/
def unrecorded :
    EStateM.Result Fault (World (Host × List Entry)) Answer →
      EStateM.Result Fault (World Host) Answer
  | .ok answer after => .ok answer after.bare
  | .error fault after => .error fault after.bare

theorem eq_unrecorded {result : EStateM.Result Fault (World (Host × List Entry)) Answer}
    {result' : EStateM.Result Fault (World Host) Answer}
    (agree : Agree (fun one other => one.bare = other) result result') :
    result' = unrecorded result := by
  cases agree with
  | ok answer same => rw [unrecorded, same]
  | error fault same => rw [unrecorded, same]

/-- A position without the record that the host keeps. -/
def Position.bare (position : Position (Host × List Entry)) : Position Host :=
  { position with world := position.world.bare }

end Engine

open Engine in
/-- An assignment without the record that the host keeps. -/
def Assignment.bare (assignment : Assignment (Host × List Entry)) : Assignment Host where
  target := assignment.target
  expression := assignment.expression
  world := assignment.world.bare
  outcome := unrecorded assignment.outcome

/-- A chain is one without the record as well. -/
theorem Assignment.Chain.bare {store final : Store}
    {assignments : List (Assignment (Host × List Entry))} (chain : Chain store assignments final) :
    Chain store (assignments.map Assignment.bare) final := by
  induction chain with
  | none store => exact .none store
  | @more store assignment rest final found left _ inductionHypothesis =>
    rcases assignment with ⟨target, expression, world, outcome⟩
    cases outcome with
    | ok value after => exact .more found left inductionHypothesis
    | error fault after => exact .more found left inductionHypothesis

namespace Engine

variable {call} (entries : Text → List Value → World Host → List Entry)

theorem evaluate_bare (expression : Expression) (world : World (Host × List Entry)) :
    evaluate call expression world.bare =
      unrecorded (evaluate (watch call entries) expression world) :=
  eq_unrecorded (alike_evaluate likeness_bare (watch_bare call entries) expression _ _ rfl)

theorem available_bare (replies : List (Reply Statement)) (world : World (Host × List Entry)) :
    available call replies world.bare =
      unrecorded (available (watch call entries) replies world) :=
  eq_unrecorded (alike_available likeness_bare (watch_bare call entries) replies _ _ rfl)

namespace Position

theorem left_bare (position : Position (Host × List Entry)) :
    position.bare.left call = (position.left (watch call entries)).bare :=
  (alike_advance likeness_bare (watch_bare call entries) position.name position.rest position.world
    position.bare.world rfl).after.symm

theorem next?_bare (position : Position (Host × List Entry)) :
    position.bare.next? call = (position.next? (watch call entries)).map bare := by
  obtain ⟨name, rest, world⟩ := position
  cases rest with
  | nil => rfl
  | cons statement rest =>
    cases statement with
    | evaluate expression =>
      simp only [next?, bare, evaluate_bare entries]
      cases evaluate (watch call entries) expression world <;> rfl
    | assign target expression =>
      simp only [next?, bare, evaluate_bare entries]
      cases evaluate (watch call entries) expression world <;> rfl
    | branch clauses otherwise =>
      cases clauses with
      | nil => rfl
      | cons clause clauses =>
        rcases clause with ⟨condition, body⟩
        simp only [next?, bare, evaluate_bare entries]
        cases evaluate (watch call entries) condition world with
        | ok value after =>
          simp only [unrecorded]
          split <;> rfl
        | error fault after => rfl
    | choice replies =>
      simp only [next?, bare, available_bare entries]
      cases available (watch call entries) replies world with
      | ok offers after => cases offers <;> rfl
      | error fault after => rfl
    | _ => rfl

theorem assignment?_bare (position : Position (Host × List Entry)) :
    position.bare.assignment? call =
      (position.assignment? (watch call entries)).map Assignment.bare := by
  obtain ⟨name, rest, world⟩ := position
  cases rest with
  | nil => rfl
  | cons statement rest =>
    cases statement with
    | assign target expression =>
      simp only [assignment?, bare, evaluate_bare entries]
      rfl
    | _ => rfl

theorem assignments_bare (position : Position (Host × List Entry)) :
    position.bare.assignments call =
      (position.assignments (watch call entries)).map Assignment.bare := by
  have toList_map {assignment? : Option (Assignment (Host × List Entry))} :
      (assignment?.map Assignment.bare).toList = assignment?.toList.map Assignment.bare := by
    cases assignment? <;> rfl
  induction position using path.induct (watch call entries) with
  | case1 position stops =>
    have stops' : position.bare.next? call = none := by
      rw [next?_bare entries, stops]
      rfl
    rw [assignments_of_stop _ stops, assignments_of_stop _ stops',
      assignment?_bare entries, toList_map]
  | case2 position next onward inductionHypothesis =>
    have onward' : position.bare.next? call = some next.bare := by
      rw [next?_bare entries, onward]
      rfl
    rw [assignments_of_next _ onward, assignments_of_next _ onward', inductionHypothesis,
      assignment?_bare entries, toList_map, List.map_append]

end Position

/-! ### Pulls -/

variable {entries}

/-- The assignments that a pull executes. -/
def assignments (call : Text → List Value → Act Host Value) (chosen : Option Nat)
    (traversal : Traversal) (world : World Host) : List (Assignment Host) :=
  match opening? chosen world traversal with
  | none => []
  | some first => first.assignments call

/-- The assignments that a pull executes stand in what was left of the traversal. -/
theorem mem_assignments {chosen : Option Nat} {traversal : Traversal} {world : World Host}
    {assignment : Assignment Host} (member : assignment ∈ assignments call chosen traversal world) :
    .assign assignment.target assignment.expression ∈ traversal.parts ∧
      assignment.outcome = evaluate call assignment.expression assignment.world := by
  rw [assignments] at member
  cases opens : opening? chosen world traversal with
  | none =>
    rw [opens] at member
    cases member
  | some first =>
    rw [opens] at member
    obtain ⟨stands, outcome⟩ := Position.mem_assignments member
    exact ⟨(opening?_sublist opens).subset stands, outcome⟩

/-- A pull that runs no statement leaves the world as it is. -/
theorem after_pull_of_shut {chosen : Option Nat} {traversal : Traversal} {world : World Host}
    (shut : opening? chosen world traversal = none) :
    (pull call chosen traversal).after world = world := by
  by_cases ongoing : traversal = .ended
  · subst ongoing
    rfl
  · rw [Act.after, pull_eq_error shut ongoing]

theorem opening?_recording {chosen : Option Nat} {traversal : Traversal} {world : World Host}
    {first : Position Host} (opens : opening? chosen world traversal = some first)
    (record : List Entry) :
    opening? chosen (world.recording record) traversal = some (first.recording record) ∧
      first.world.store = world.store := by
  cases traversal with
  | fresh node =>
    cases opens
    exact ⟨rfl, rfl⟩
  | within name rest =>
    cases opens
    exact ⟨rfl, rfl⟩
  | offered name replies rest =>
    obtain ⟨index, rfl, behind⟩ := Option.bind_eq_some_iff.1 opens
    obtain ⟨reply, there, opened⟩ := Option.bind_eq_some_iff.1 behind
    cases opened
    refine ⟨?_, rfl⟩
    rw [opening?]
    exact Option.bind_eq_some_iff.2
      ⟨index, rfl, Option.bind_eq_some_iff.2 ⟨reply, there, rfl⟩⟩
  | ended => cases opens

/-- If every call that a pull makes is good, its assignments make a chain from the variables before
it to those behind it. -/
theorem chain_pull {good : Entry → Prop}
    (unwriting : ∀ name operands world, (∀ entry ∈ entries name operands world, good entry) →
      ((call name operands).after world).store = world.store)
    {chosen : Option Nat} {traversal : Traversal} {world : World Host}
    (fine : ∀ entry ∈ recorded call entries chosen traversal world, good entry) :
    Assignment.Chain world.store (assignments call chosen traversal world)
      ((pull call chosen traversal).after world).store := by
  rw [assignments]
  cases opens : opening? chosen world traversal with
  | none =>
    rw [after_pull_of_shut opens]
    exact .none _
  | some first =>
    obtain ⟨recording, same⟩ := opening?_recording opens ([] : List Entry)
    rw [recorded, after_pull recording] at fine
    have chain := (chain_left unwriting (first.recording []) fine).2.bare
    rw [← Position.assignments_bare] at chain
    have left : first.left call = ((first.recording []).left (watch call entries)).bare :=
      Position.left_bare entries (first.recording [])
    rw [after_pull opens, ← same, left]
    exact chain

end Engine

end Parley
