/-
This file looks into a pull. Between two results a body goes from position to
position: it evaluates an expression, assigns a variable, decides a condition or
skips a choice, and yields nothing. `Move` lists what one such move can be. A move
decides nothing about what the pull comes to that was not decided before it, so
the pull can be read from any position it passes through: the world it leaves and
the calls it makes are those of the part before the position, followed by those
of the statements that are left there.
-/

import Parley.Proofs.Engine.Record

namespace Parley.Engine

variable {Host : Type}

/-! ### Positions -/

/-- A position in the body of a node: the name of the node, the statements that are left, and the
world in which they are run. -/
structure Position (Host : Type) where
  name : Text
  rest : List Statement
  world : World Host

namespace Position

/-- What running the statements that are left comes to. -/
def outcome (call : Text → List Value → Act Host Value) (position : Position Host) :
    EStateM.Result Fault (World Host) (Result × Traversal) :=
  advance call position.name position.rest position.world

/-- The world that the statements which are left lead to at their first result, or where they
fail. -/
def left (call : Text → List Value → Act Host Value) (position : Position Host) : World Host :=
  (advance call position.name position.rest).after position.world

/-- The next statement yields a result, and nothing is evaluated before. -/
def Yields (position : Position Host) : Prop :=
  match position.rest with
  | [] | .say _ :: _ | .command _ :: _ | .jump _ :: _ => True
  | _ => False

/-- A position that a host with a record comes to, given the record. -/
def recording {Entry : Type} (record : List Entry) (position : Position Host) :
    Position (Host × List Entry) :=
  { position with world := position.world.recording record }

theorem left_eq {call : Text → List Value → Act Host Value} {one other : Position Host}
    (same : one.outcome call = other.outcome call) : one.left call = other.left call := by
  rw [outcome, outcome] at same
  rw [left, left, Act.after, Act.after, same]

/-- Where a result is yielded at once, the variables and the state of the host stay as they are. -/
theorem Yields.left {position : Position Host} (yields : position.Yields)
    (call : Text → List Value → Act Host Value) :
    (position.left call).store = position.world.store ∧
      (position.left call).host = position.world.host := by
  obtain ⟨name, rest, world⟩ := position
  rw [Position.left, Act.after]
  match rest, yields with
  | [], _ => rw [advance]; exact ⟨rfl, rfl⟩
  | .say _ :: _, _ => rw [advance]; exact ⟨rfl, rfl⟩
  | .command _ :: _, _ => rw [advance]; exact ⟨rfl, rfl⟩
  | .jump _ :: _, _ => rw [advance]; exact ⟨rfl, rfl⟩

end Position

/-! ### Moves -/

section

variable (call : Text → List Value → Act Host Value)

/-- A move from one position to the next, at which nothing is yielded. -/
inductive Move : Position Host → Position Host → Prop
  | evaluated {name expression rest world value after}
    (done : evaluate call expression world = .ok value after) :
    Move ⟨name, .evaluate expression :: rest, world⟩ ⟨name, rest, after⟩
  | assigned {name target expression rest} {world after : World Host} {value}
    (done : evaluate call expression world = .ok value after) :
    Move ⟨name, .assign target expression :: rest, world⟩
      ⟨name, rest,
        { after.note (.assigned target value) with store := after.store.put target value }⟩
  /-- A condition holds, and its body is entered. -/
  | taken {name condition body clauses otherwise rest world value after}
    (done : evaluate call condition world = .ok value after) (holds : value.holds = true) :
    Move ⟨name, .branch (⟨condition, body⟩ :: clauses) otherwise :: rest, world⟩
      ⟨name, body ++ rest, after⟩
  /-- A condition does not hold, and the next one has its turn. -/
  | passed {name condition body clauses otherwise rest world value after}
    (done : evaluate call condition world = .ok value after) (fails : value.holds = false) :
    Move ⟨name, .branch (⟨condition, body⟩ :: clauses) otherwise :: rest, world⟩
      ⟨name, .branch clauses otherwise :: rest, after⟩
  /-- No condition is left, and the last block is entered. -/
  | otherwise {name otherwise rest world} :
    Move ⟨name, .branch [] otherwise :: rest, world⟩ ⟨name, otherwise ++ rest, world⟩
  /-- No reply can be offered. -/
  | skipped {name replies rest world} {after : World Host}
    (done : available call replies world = .ok [] after) :
    Move ⟨name, .choice replies :: rest, world⟩ ⟨name, rest, after.note .choiceSkipped⟩

/-- Any number of moves. -/
inductive Moves : Position Host → Position Host → Prop
  | none (position) : Moves position position
  | more {first second third} (move : Move call first second) (onward : Moves second third) :
    Moves first third

variable {call}

/-- What a body comes to is what it comes to behind a move. -/
theorem Move.outcome {before after : Position Host} (move : Move call before after) :
    before.outcome call = after.outcome call := by
  cases move with
  | evaluated done =>
    rw [Position.outcome, advance, bind_apply, done]
    rfl
  | assigned done =>
    rw [Position.outcome, advance, bind_apply, done]
    rfl
  | taken done holds =>
    rw [Position.outcome, advance, bind_apply, done]
    dsimp only
    rw [if_pos holds]
    rfl
  | passed done fails =>
    rw [Position.outcome, advance, bind_apply, done]
    dsimp only
    rw [fails, if_neg Bool.false_ne_true]
    rfl
  | otherwise =>
    rw [Position.outcome, advance]
    rfl
  | skipped done =>
    rw [Position.outcome, advance, bind_apply, done]
    rfl

theorem Moves.trans {first second third : Position Host} (moves : Moves call first second)
    (onward : Moves call second third) : Moves call first third := by
  induction moves with
  | none position => exact onward
  | more move _ ih => exact .more move (ih onward)

theorem Moves.outcome {before after : Position Host} (moves : Moves call before after) :
    before.outcome call = after.outcome call := by
  induction moves with
  | none position => rfl
  | more move onward ih => exact move.outcome.trans ih

end

/-! ### Pulls -/

/-- The position at which a pull begins to run statements, if it gets that far. -/
def opening? (chosen : Option Nat) (world : World Host) : Traversal → Option (Position Host)
  | .fresh node => some ⟨node.name, node.body, world.note (.nodeEntered node.name)⟩
  | .within name rest => some ⟨name, rest, world⟩
  | .offered name replies rest => do
    let index ← chosen
    let reply ← replies[index]?
    return ⟨name, reply.body ++ rest, world.note (.optionChosen index)⟩
  | .ended => none

variable {call : Text → List Value → Act Host Value}

/-- A pull comes to what the statements come to with which it begins. -/
theorem pull_of_opening {chosen : Option Nat} {world : World Host} {traversal : Traversal}
    {position : Position Host} (opens : opening? chosen world traversal = some position) :
    pull call chosen traversal world =
      match position.outcome call with
      | .ok result after => .ok (some result) after
      | .error fault after => .error fault after := by
  have running (name : Text) (statements : List Statement) (world : World Host) :
      (do let result ← advance call name statements; return some result : Act Host _) world =
        match advance call name statements world with
        | .ok result after => .ok (some result) after
        | .error fault after => .error fault after := by
    rw [bind_apply]
    cases advance call name statements world <;> rfl
  cases traversal with
  | fresh node =>
    cases opens
    exact running node.name node.body _
  | within name rest =>
    cases opens
    exact running name rest world
  | offered name replies rest =>
    obtain ⟨index, rfl, behind⟩ := Option.bind_eq_some_iff.1 opens
    obtain ⟨reply, there, opened⟩ := Option.bind_eq_some_iff.1 behind
    cases opened
    rw [pull, there]
    exact running name (reply.body ++ rest) _
  | ended => cases opens

/-- The world that a pull leaves is the one that its statements lead to. -/
theorem after_pull {chosen : Option Nat} {world : World Host} {traversal : Traversal}
    {position : Position Host} (opens : opening? chosen world traversal = some position) :
    (pull call chosen traversal).after world = position.left call := by
  unfold Act.after Position.left
  rw [pull_of_opening opens]
  unfold Position.outcome Act.after
  cases advance call position.name position.rest position.world <;> rfl

/-! ### Pulls with a record -/

variable {Entry : Type} {entries : Text → List Value → World Host → List Entry}

/-- A pull passes through a position, and its calls up to there are those of the record. -/
def Passes (call : Text → List Value → Act Host Value)
    (entries : Text → List Value → World Host → List Entry) (chosen : Option Nat)
    (traversal : Traversal) (world : World Host) (position : Position Host)
    (record : List Entry) : Prop :=
  ∃ first, opening? chosen (world.recording []) traversal = some first ∧
    Moves (watch call entries) first (position.recording record)

/-- The world and the record of two hosts that have kept records from different moments on. -/
theorem likeness_recorded (record : List Entry) :
    Likeness fun one other : World (Host × List Entry) =>
      one = other.bare.recording (record ++ other.host.2) where
  store := by
    rintro _ other rfl
    rfl
  note := by
    rintro _ other note rfl
    rfl
  write := by
    rintro _ other store rfl
    rfl

theorem likeness_bare : Likeness fun (one : World (Host × List Entry)) (other : World Host) =>
    one.bare = other where
  store := by
    rintro one _ rfl
    rfl
  note := by
    rintro one _ note rfl
    rfl
  write := by
    rintro one _ store rfl
    rfl

variable (call entries) in
theorem watch_recorded (record : List Entry) (name : Text) (operands : List Value) :
    Act.Alike (fun one other : World (Host × List Entry) =>
      one = other.bare.recording (record ++ other.host.2))
      (watch call entries name operands) (watch call entries name operands) := by
  rintro _ other rfl
  have same : (other.bare.recording (record ++ other.host.2)).bare = other.bare := rfl
  unfold watch
  rw [same]
  cases call name operands other.bare with
  | ok value after => exact .ok value (by simp [World.recording, World.bare])
  | error fault after => exact .error fault (by simp [World.recording, World.bare])

variable (call entries) in
theorem watch_bare (name : Text) (operands : List Value) :
    Act.Alike (fun (one : World (Host × List Entry)) (other : World Host) => one.bare = other)
      (watch call entries name operands) (call name operands) := by
  rintro one _ rfl
  unfold watch
  cases call name operands one.bare with
  | ok value after => exact .ok value rfl
  | error fault after => exact .error fault rfl

variable {chosen : Option Nat} {traversal : Traversal} {world : World Host}
  {position : Position Host} {record : List Entry}

theorem Passes.left_recording
    (passes : Passes call entries chosen traversal world position record) :
    (pull (watch call entries) chosen traversal).after (world.recording []) =
      (position.recording record).left (watch call entries) := by
  obtain ⟨first, opens, moves⟩ := passes
  exact (after_pull opens).trans (Position.left_eq moves.outcome)

/-- The world that a pull leaves is the one that is led to from every position it passes. -/
theorem Passes.left (passes : Passes call entries chosen traversal world position record) :
    (pull call chosen traversal).after world = position.left call := by
  have pulled := alike_pull likeness_bare (watch_bare call entries) chosen traversal
    (world.recording []) world rfl
  have advanced := alike_advance likeness_bare (watch_bare call entries) position.name
    position.rest (position.world.recording record) position.world rfl
  calc (pull call chosen traversal).after world
      = ((pull (watch call entries) chosen traversal).after (world.recording [])).bare :=
        pulled.after.symm
    _ = ((position.recording record).left (watch call entries)).bare := by
        rw [passes.left_recording]
    _ = position.left call := advanced.after

/-- The calls of a pull begin with those that it has made where it passes. -/
theorem Passes.recorded (passes : Passes call entries chosen traversal world position record) :
    ∃ later, recorded call entries chosen traversal world = record ++ later := by
  have advanced := alike_advance (likeness_recorded record) (watch_recorded call entries record)
    position.name position.rest (position.world.recording record) (position.world.recording [])
    (by simp [World.recording, World.bare])
  refine ⟨((position.recording []).left (watch call entries)).host.2, ?_⟩
  rw [Engine.recorded, passes.left_recording]
  exact congrArg (fun world => world.host.2) advanced.after

end Parley.Engine
