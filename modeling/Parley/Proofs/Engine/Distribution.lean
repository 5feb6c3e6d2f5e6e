/-
This file moves statements into the blocks in front of them. What stands behind a branch is run
behind whichever of its blocks is entered, unless that block is left by a jump, from however deep
inside; so it may as well stand at the end of every block. The same holds of a choice, as long as it
offers something. A choice that offers nothing does nothing but evaluate its conditions. And nothing
that stands behind a jump is run.

Blocks are compared by all that a host gets to see of a session which stands in front of them, with
any statements behind the block. So a block that comes to its end is told from one that is left by a
jump, and two that are left by jumps are told by where these lead.
-/

import Parley.Proofs.Engine.Narration
import Parley.Proofs.Engine.Positions

namespace Parley

variable {Host : Type}

/-! ### Statements behind a block -/

/-- A clause with statements behind its body. -/
def Clause.followedBy (rest : List Statement) (clause : Clause Statement) : Clause Statement :=
  { clause with body := clause.body ++ rest }

/-- A reply with statements behind its body. -/
def Reply.followedBy (rest : List Statement) (reply : Reply Statement) : Reply Statement :=
  { reply with body := reply.body ++ rest }

namespace Engine

variable (call : Text → List Value → Act Host Value)

theorem advance_branch_followedBy (name : Text) (clauses : List (Clause Statement))
    (otherwise rest behind : List Statement) :
    advance call name
        (.branch (clauses.map (Clause.followedBy rest)) (otherwise ++ rest) :: behind) =
      advance call name (.branch clauses otherwise :: (rest ++ behind)) := by
  induction clauses with
  | nil => rw [List.map_nil, advance, advance, List.append_assoc]
  | cons clause others inductionHypothesis =>
    rcases clause with ⟨condition, body⟩
    rw [List.map_cons, Clause.followedBy, advance, advance, inductionHypothesis, List.append_assoc]

/-- What is behind the bodies of replies does not change which of them are offered. -/
theorem available_followedBy (rest : List Statement) (replies : List (Reply Statement)) :
    available call (replies.map (Reply.followedBy rest)) = do
      let offers ← available call replies
      return offers.map (Reply.followedBy rest) := by
  induction replies with
  | nil => rfl
  | cons reply others inductionHypothesis =>
    rw [List.map_cons, available, available, inductionHypothesis]
    simp only [bind_assoc, pure_bind]
    refine congrArg _ (funext fun admitted => congrArg _ (funext fun offers => ?_))
    cases admitted <;> rfl

/-- The body that is run behind an answer, and what is run behind it, are the same. -/
theorem pull_offered_followedBy (chosen : Option Nat) (name : Text)
    (offers : List (Reply Statement)) (rest behind : List Statement) :
    pull call chosen (.offered name (offers.map (Reply.followedBy rest)) behind) =
      pull call chosen (.offered name offers (rest ++ behind)) := by
  cases chosen with
  | none => rfl
  | some index =>
    rw [pull, pull, List.getElem?_map]
    cases offers[index]? with
    | none => rfl
    | some reply =>
      show (do Act.note (.optionChosen index); _) = _
      rw [Reply.followedBy, List.append_assoc]

/-- A choice hands over the texts of the replies that are admitted, and waits for an answer. -/
theorem onward_choice_offering {name : Text} {replies : List (Reply Statement)}
    {rest : List Statement} {narration : Narration Host}
    {offer : Reply Statement} {others : List (Reply Statement)} {after : World Host}
    (found : available call replies narration.world = .ok (offer :: others) after) :
    onward call (running call name (.choice replies :: rest)) narration =
      (Telling.hand (.event (.options ((offer :: others).map Reply.text)))).into
        (fun answer => onward call (pull call answer (.offered name (offer :: others) rest)))
        { narration with world := after } := by
  rw [running, advance, bind_assoc, onward_bind, Telling.into, Telling.act, found]
  exact congrFun (onward_pure call _ _) _

/-- Two lists of statements that come to the same come to the same behind others. -/
theorem onward_append_congr {name : Text} {one other : List Statement}
    (same : onward call (running call name one) = onward call (running call name other))
    (first : List Statement) :
    onward call (running call name (first ++ one)) =
      onward call (running call name (first ++ other)) := by
  rw [onward_block, onward_block]
  refine congrArg _ (funext fun jump => ?_)
  cases jump with
  | none => exact same
  | some target => rfl

end Engine

/-! ### Running a block -/

namespace Session

open Engine

variable (call : Text → List Value → Act Host Value)

/-- The outcomes of a session that stands in front of a block, whatever stands behind the block in
the node, whatever was offered before, and whatever the host does. -/
def along (block : List Statement) (world : World Host) (name : Text) (behind : List Statement)
    (offers : List Offer) (reactions : List (Reaction Host)) : List (Outcome Host) :=
  (Session.mk (.within name (block ++ behind)) offers).course call reactions world

variable {call}

theorem along_eq (block : List Statement) (world : World Host) (name : Text)
    (behind : List Statement) (offers : List Offer) (reactions : List (Reaction Host)) :
    along call block world name behind offers reactions =
      onward call (running call name (block ++ behind)) { world, reactions } :=
  course_eq call reactions _ none world rfl

/-- Blocks that come to the same in a first pull are run alike. -/
theorem along_congr {one other : List Statement} {world world' : World Host}
    (same : ∀ name behind, advance call name (one ++ behind) world =
      advance call name (other ++ behind) world') :
    along call one world = along call other world' := by
  funext name behind offers reactions
  rw [along_eq, along_eq, onward, onward, Engine.course, Engine.course, running, running,
    bind_apply, bind_apply, same name behind]

/-- What stands behind a choice that is not skipped may be moved into the bodies of its replies. -/
theorem along_choice_other {replies : List (Reply Statement)} {rest : List Statement}
    {world : World Host} (other : ∀ after, available call replies world ≠ .ok [] after) :
    along call (.choice replies :: rest) world =
      along call [.choice (replies.map (Reply.followedBy rest))] world := by
  have same := congrFun (available_followedBy call rest replies) world
  rw [bind_apply] at same
  cases found : available call replies world with
  | error fault after =>
    rw [found] at same
    refine along_congr fun name behind => ?_
    rw [List.cons_append, List.singleton_append, advance, advance, bind_apply, bind_apply, found,
      same]
  | ok offers after =>
    rw [found] at same
    cases offers with
    | nil => exact absurd found (other after)
    | cons offer others =>
      funext name behind offers reactions
      rw [along_eq, along_eq, List.cons_append, List.singleton_append,
        onward_choice_offering call found, onward_choice_offering call same]
      simp only [← List.map_cons, pull_offered_followedBy, List.map_map]
      rfl

/-- The rest of a block may be moved into the blocks in front of it. Whatever the functions do and
in whatever world it is run: behind a branch it may be moved to the end of every block of the
branch; behind a choice to the end of the body of every reply, unless the conditions of all replies
are evaluated and none is admitted, in which case the rest is run in the world that they leave; and
behind a jump there is nothing to be run. -/
theorem rest_distributes (call : Text → List Value → Act Host Value) :
    (∀ clauses otherwise rest world,
      along call (.branch clauses otherwise :: rest) world =
        along call [.branch (clauses.map (Clause.followedBy rest)) (otherwise ++ rest)] world) ∧
    (∀ replies rest world,
      along call (.choice replies :: rest) world =
        match available call replies world with
        | .ok [] after => along call rest (after.note .choiceSkipped)
        | _ => along call [.choice (replies.map (Reply.followedBy rest))] world) ∧
    ∀ first target second world,
      along call (first ++ .jump target :: second) world =
        along call (first ++ [.jump target]) world := by
  refine ⟨?_, ?_, ?_⟩
  · intro clauses otherwise rest world
    refine along_congr fun name behind => ?_
    exact congrFun (advance_branch_followedBy call name clauses otherwise rest behind).symm world
  · intro replies rest world
    cases found : available call replies world with
    | error fault after => exact along_choice_other (by rw [found]; rintro _ ⟨⟩)
    | ok offers after =>
      cases offers with
      | nil => exact along_congr fun name behind => (Move.skipped found).outcome
      | cons offer others => exact along_choice_other (by rw [found]; rintro _ ⟨⟩)
  · intro first target second world
    funext name behind offers reactions
    rw [along_eq, along_eq, List.append_assoc, List.append_assoc]
    refine congrFun (onward_append_congr call ?_ first) _
    rw [List.cons_append, List.cons_append, running, running, advance, advance]

end Session

end Parley
