/-
This file says what can be told of the inside of a pull. A relation that statements
and calls keep to holds between the world before a pull and the world after it; it
holds as well between the world before and every world on the way: the one that each
call is made in, and the one at each position that the pull passes. What is left at
such a position was there from the beginning.

A host who keeps a record finds the worlds of the calls in it. The relation is
therefore carried over to hosts with a record, where it also says of each entry that
is added that its world stands in the relation.
-/

import Parley.Proofs.Engine.Parts
import Parley.Proofs.Engine.Positions

namespace Parley

variable {Host Entry : Type} {relation : World Host → World Host → Prop}

/-! ### Moves -/

namespace Engine

variable {call : Text → List Value → Act Host Value}

theorem Move.keeps (plain : Plain relation)
    (keeps : ∀ name operands, (call name operands).Keeps relation) {before after : Position Host}
    (move : Move call before after) : relation before.world after.world := by
  cases move with
  | evaluated done => exact (keeps_evaluate plain.toSteady keeps _).of_ok done
  | assigned done =>
    have evaluated := (keeps_evaluate plain.toSteady keeps _).of_ok done
    exact plain.trans (plain.trans evaluated (plain.log _ _ rfl)) (plain.assign _ _)
  | taken done => exact (keeps_evaluate plain.toSteady keeps _).of_ok done
  | passed done => exact (keeps_evaluate plain.toSteady keeps _).of_ok done
  | otherwise => exact plain.refl _
  | skipped done =>
    exact plain.trans ((keeps_available plain.toSteady keeps _).of_ok done) (plain.log _ _ rfl)

theorem Moves.keeps (plain : Plain relation)
    (keeps : ∀ name operands, (call name operands).Keeps relation) {before after : Position Host}
    (moves : Moves call before after) : relation before.world after.world := by
  induction moves with
  | none position => exact plain.refl _
  | more move _ ih => exact plain.trans (move.keeps plain keeps) ih

theorem opening?_keeps (plain : Plain relation) {chosen : Option Nat} {world : World Host}
    {traversal : Traversal} {position : Position Host}
    (opens : opening? chosen world traversal = some position) : relation world position.world := by
  cases traversal with
  | fresh node =>
    cases opens
    exact plain.log _ _ rfl
  | within name rest =>
    cases opens
    exact plain.refl _
  | offered name replies rest =>
    obtain ⟨index, -, behind⟩ := Option.bind_eq_some_iff.1 opens
    obtain ⟨reply, -, opened⟩ := Option.bind_eq_some_iff.1 behind
    cases opened
    exact plain.log _ _ rfl
  | ended => cases opens

/-- A move leaves only statements that stood somewhere in what was left before. -/
theorem Move.parts {before after : Position Host} (move : Move call before after) :
    (Statement.blockParts after.rest).Sublist (Statement.blockParts before.rest) := by
  cases move with
  | evaluated => exact List.sublist_append_right _ _
  | assigned => exact List.sublist_append_right _ _
  | taken =>
    simp only [Statement.blockParts_append, Statement.blockParts, Statement.parts,
      Statement.clauseParts, List.append_assoc]
    refine (List.Sublist.refl _).append ?_
    exact (List.sublist_append_right _ _).trans (List.sublist_append_right _ _)
  | passed =>
    simp only [Statement.blockParts, Statement.parts, Statement.clauseParts, List.append_assoc]
    exact List.sublist_append_right _ _
  | otherwise =>
    rw [Statement.blockParts_append]
    exact .refl _
  | skipped => exact List.sublist_append_right _ _

theorem Moves.parts {before after : Position Host} (moves : Moves call before after) :
    (Statement.blockParts after.rest).Sublist (Statement.blockParts before.rest) := by
  induction moves with
  | none position => exact .refl _
  | more move _ ih => exact ih.trans move.parts

/-- Where a pull begins to run statements, they are among those that were left. -/
theorem opening?_sublist {chosen : Option Nat} {world : World Host} {traversal : Traversal}
    {first : Position Host} (opens : opening? chosen world traversal = some first) :
    (Statement.blockParts first.rest).Sublist traversal.parts := by
  cases traversal with
  | fresh node =>
    cases opens
    exact .refl _
  | within name rest =>
    cases opens
    exact .refl _
  | offered name replies rest =>
    obtain ⟨index, rfl, behind⟩ := Option.bind_eq_some_iff.1 opens
    obtain ⟨reply, there, opened⟩ := Option.bind_eq_some_iff.1 behind
    cases opened
    rw [Statement.blockParts_append]
    have among := Statement.blockParts_sublist_replyParts (List.mem_of_getElem? there)
    exact among.append (.refl _)
  | ended => cases opens

end Engine

/-! ### Worlds with a record -/

/-- A relation between worlds, of which the hosts keep a record: the relation holds between them,
and the world of each entry that was added stands in it as well. -/
def Recorded (relation : World Host → World Host → Prop) (seen : Entry → World Host)
    (before after : World (Host × List Entry)) : Prop :=
  relation before.bare after.bare ∧ ∃ added, after.host.2 = before.host.2 ++ added ∧
    ∀ entry ∈ added, relation before.bare (seen entry)

variable {seen : Entry → World Host}

theorem Plain.recorded (plain : Plain relation) : Plain (Recorded relation seen) where
  refl world := ⟨plain.refl _, [], (List.append_nil _).symm, nofun⟩
  trans := by
    rintro first second third ⟨onward, added, record, found⟩ ⟨further, later, record', found'⟩
    refine ⟨plain.trans onward further, added ++ later, ?_, fun entry member => ?_⟩
    · rw [record', record, List.append_assoc]
    · obtain early | late := List.mem_append.1 member
      · exact found entry early
      · exact plain.trans onward (found' entry late)
  log world note logs := ⟨plain.log _ note logs, [], (List.append_nil _).symm, nofun⟩
  assign world store := ⟨plain.assign _ store, [], (List.append_nil _).symm, nofun⟩

namespace Engine

variable {call : Text → List Value → Act Host Value}
  {entries : Text → List Value → World Host → List Entry}

theorem keeps_watch (plain : Plain relation)
    (keeps : ∀ name operands, (call name operands).Keeps relation)
    (finds : ∀ name operands world, ∀ entry ∈ entries name operands world, seen entry = world)
    (name : Text) (operands : List Value) :
    (watch call entries name operands).Keeps (Recorded relation seen) := by
  intro world
  have kept := keeps name operands world.bare
  have added : ∀ entry ∈ entries name operands world.bare, relation world.bare (seen entry) :=
    fun entry member => finds name operands world.bare entry member ▸ plain.refl _
  unfold Act.after at kept ⊢
  unfold watch
  cases result : call name operands world.bare with
  | ok value after =>
    rw [result] at kept
    exact ⟨kept, _, rfl, added⟩
  | error fault after =>
    rw [result] at kept
    exact ⟨kept, _, rfl, added⟩

variable (plain : Plain relation)
  (keeps : ∀ name operands, (call name operands).Keeps relation)
  (finds : ∀ name operands world, ∀ entry ∈ entries name operands world, seen entry = world)
  {chosen : Option Nat} {traversal : Traversal} {world : World Host}

include plain keeps finds

/-- The world of every entry in the record of a pull stands in a relation that is kept to. -/
theorem recorded_within {entry : Entry}
    (member : entry ∈ recorded call entries chosen traversal world) :
    relation world (seen entry) := by
  have watches := keeps_watch plain keeps finds
  obtain ⟨-, added, record, found⟩ :=
    pull_keeps plain.recorded watches chosen traversal (world.recording [])
  rw [recorded, record] at member
  exact found entry member

/-- The world at every position that a pull passes stands in a relation that is kept to. -/
theorem Passes.within {position : Position Host} {record : List Entry}
    (passes : Passes call entries chosen traversal world position record) :
    relation world position.world := by
  have watches := keeps_watch plain keeps finds
  obtain ⟨first, opens, moves⟩ := passes
  have opened : Recorded relation seen _ _ := opening?_keeps plain.recorded opens
  exact (plain.recorded.trans opened (moves.keeps plain.recorded watches)).1

omit plain keeps finds in
/-- What is left at a position that a pull passes was left before the pull. -/
theorem Passes.parts {position : Position Host} {record : List Entry}
    (passes : Passes call entries chosen traversal world position record) :
    (Statement.blockParts position.rest).Sublist traversal.parts := by
  obtain ⟨first, opens, moves⟩ := passes
  exact moves.parts.trans (opening?_sublist opens)

end Engine

end Parley
