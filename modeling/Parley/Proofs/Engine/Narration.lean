/-
This file tells a node in one go. The engine takes statements off the front of a
flat list, one result at a time, and forgets on the way which block they came
from. A narration walks the tree of statements instead: it runs a block from left
to right, runs the body of a clause or of a reply as a block of its own, and hands
a jump up through every block around it. Where it has a result it hands it over
and waits for the host's reaction before it goes on.

The main statement is that nobody can tell the difference: the outcomes of the
pulls of a session, the world after each of them included, are those of the
narration of its node, for every host. The invariant behind it is that a list of
statements in front of others is pulled as its narration would have it, and where
no jump has come out of it, the others are pulled next.
-/

import Parley.Proofs.Engine.Course

namespace Parley

variable {Host : Type}

/-! ### Narrations -/

/-- The state of a narration: the world, the reactions still to come, and the outcomes of the pulls
that are done, the earliest first. -/
structure Narration (Host : Type) where
  world : World Host
  reactions : List (Reaction Host)
  outcomes : List (Outcome Host) := []

/-- Why a narration breaks off: at a fault, or because the host pulls no more. -/
inductive Halt where
  | fault (fault : Fault)
  | waiting

/-- A narration that comes to an answer or breaks off. -/
abbrev Telling (Host : Type) := EStateM Halt (Narration Host)

/-- The outcomes up to the end of a narration, that of the pull under way, and those of the pulls
after it. -/
def Narration.closing (ending : Except Fault (Option Result)) (narration : Narration Host) :
    List (Outcome Host) :=
  narration.outcomes ++ (ending, narration.world) :: idle narration.reactions narration.world

/-- The outcomes of a narration that breaks off. -/
def Narration.halted (narration : Narration Host) : Halt → List (Outcome Host)
  | .fault fault => narration.closing (.error fault)
  | .waiting => narration.outcomes

namespace Telling

variable {First Second : Type}

/-- Does something to the world. -/
def act (act : Act Host First) : Telling Host First := fun narration =>
  match act narration.world with
  | .ok answer world => .ok answer { narration with world }
  | .error fault world => .error (.fault fault) { narration with world }

/-- Hands a result over and waits for the reaction to it, of which the answer is for the one who
handed it over. -/
def hand (result : Result) : Telling Host (Option Nat) := fun narration =>
  let outcomes := narration.outcomes ++ [(.ok (some result), narration.world)]
  match narration.reactions with
  | [] => .error .waiting { narration with outcomes }
  | reaction :: rest =>
    .ok reaction.answer ⟨reaction.apply narration.world, rest, outcomes⟩

/-- The outcomes of a narration with something behind it. -/
def into (telling : Telling Host First) (behind : First → Narration Host → List (Outcome Host))
    (narration : Narration Host) : List (Outcome Host) :=
  match telling narration with
  | .ok answer narration => behind answer narration
  | .error halt narration => narration.halted halt

/-- The outcomes of a narration from its beginning. -/
def outcomes (telling : Telling Host Unit) (reactions : List (Reaction Host))
    (world : World Host) : List (Outcome Host) :=
  telling.into (fun _ narration => narration.closing (.ok none)) { world, reactions }

end Telling

/-! ### Telling a node -/

namespace Narration

open Telling

variable (call : Text → List Value → Act Host Value)

/-- Tells of each reply whether its condition holds, from the first to the last. -/
def admissions : List (Reply Statement) → Act Host (List Bool)
  | [] => return []
  | reply :: rest => do
    let admitted ← Engine.admits call reply.condition
    let others ← admissions rest
    return admitted :: others

/-- The texts of the replies that are admitted. -/
def admittedTexts : List (Reply Statement) → List Bool → List Text
  | reply :: rest, admitted :: others =>
    if admitted then reply.text :: admittedTexts rest others else admittedTexts rest others
  | _, _ => []

mutual

/-- Tells a statement; the answer is the target of the jump that left it, if one did. -/
def statement : Statement → Telling Host (Option Text)
  | .say text => do
    let _ ← hand (.event (.line text))
    return none
  | .command text => do
    let _ ← hand (.event (.command text))
    return none
  | .evaluate expression => do
    let _ ← act (Engine.evaluate call expression)
    return none
  | .assign target expression => do
    let value ← act (Engine.evaluate call expression)
    act (Act.note (.assigned target value))
    act (modify fun world => { world with store := world.store.put target value })
    return none
  | .branch clauses otherwise => do
    match ← firstClause clauses with
    | some jump => return jump
    | none => block otherwise
  | .choice replies => do
    let admitted ← act (admissions call replies)
    if admittedTexts replies admitted = [] then
      act (Act.note .choiceSkipped)
      return none
    else
      match ← hand (.event (.options (admittedTexts replies admitted))) with
      | none => throw (.fault .notChosen)
      | some index =>
        if index < (admittedTexts replies admitted).length then
          act (Act.note (.optionChosen index))
          reply replies admitted index
        else throw (.fault .notChosen)
  | .jump target => return some target
  | .foreign => throw (.fault .unknownStatement)

/-- Tells a block from left to right, up to the first statement that is left by a jump. -/
def block : List Statement → Telling Host (Option Text)
  | [] => return none
  | first :: rest => do
    match ← statement first with
    | some target => return some target
    | none => block rest

/-- Tells the body of the first clause whose condition holds; the conditions behind it are not
looked at. There is no answer if no condition holds. -/
def firstClause : List (Clause Statement) → Telling Host (Option (Option Text))
  | [] => return none
  | ⟨condition, body⟩ :: rest => do
    let value ← act (Engine.evaluate call condition)
    if value.holds then
      let jump ← block body
      return some jump
    else firstClause rest

/-- Tells the body of the admitted reply of a number. -/
def reply : List (Reply Statement) → List Bool → Nat → Telling Host (Option Text)
  | ⟨_, body, _⟩ :: rest, admitted :: others, index =>
    if admitted then
      match index with
      | 0 => block body
      | index + 1 => reply rest others index
    else reply rest others index
  | _, _, _ => return none

end

/-- Tells a node: its body, and at the end where the first jump leads. -/
def node (node : Node) : Telling Host Unit := do
  act (Act.note (.nodeEntered node.name))
  let jump ← block call node.body
  act (Act.note (.nodeCompleted node.name jump))
  let _ ← hand (.complete jump)

end Narration

/-! ### Narrations one behind the other -/

namespace Telling

variable {First Second : Type}

theorem into_pure (answer : First) (behind : First → Narration Host → List (Outcome Host)) :
    into (pure answer) behind = behind answer := rfl

theorem into_bind (first : Telling Host First) (next : First → Telling Host Second)
    (behind : Second → Narration Host → List (Outcome Host)) :
    into (first >>= next) behind = first.into fun answer => (next answer).into behind := by
  funext narration
  simp only [into, bind, EStateM.bind]
  cases first narration <;> rfl

end Telling

namespace Engine

open Telling

variable (call : Text → List Value → Act Host Value)

/-- The outcomes of a narration, of which the engine carries out the pull under way. -/
def onward (act : Act Host (Option (Result × Traversal))) (narration : Narration Host) :
    List (Outcome Host) :=
  narration.outcomes ++ course call narration.reactions act narration.world

theorem onward_bind {First : Type} (first : Act Host First)
    (next : First → Act Host (Option (Result × Traversal))) :
    onward call (first >>= next) = (act first).into fun answer => onward call (next answer) := by
  funext narration
  rw [onward, course, bind_apply, into, act]
  cases first narration.world with
  | error fault world => rfl
  | ok answer world =>
    dsimp only
    rw [onward, course]

theorem onward_pure (result : Result) (traversal : Traversal) :
    onward call (pure (some (result, traversal))) =
      (hand result).into fun answer => onward call (pull call answer traversal) := by
  funext ⟨world, reactions, outcomes⟩
  cases reactions with
  | nil => rfl
  | cons reaction rest =>
    show outcomes ++ (_, world) :: course call rest _ _ = outcomes ++ [(_, world)] ++ _
    rw [List.append_assoc]
    rfl

theorem onward_throw {First : Type} (fault : Fault)
    (behind : First → Narration Host → List (Outcome Host)) :
    onward call (throw fault) = into (throw (.fault fault)) behind := by
  funext ⟨world, reactions, outcomes⟩
  rw [onward, course.eq_def]
  rfl

/-- Pulling from statements that are left. -/
def running (name : Text) (statements : List Statement) :
    Act Host (Option (Result × Traversal)) := do
  let result ← advance call name statements
  return some result

/-- Pulling the last result. -/
def ending (name : Text) (next : Option Text) : Act Host (Option (Result × Traversal)) := do
  let result ← finish name next
  return some result

/-- What comes behind a block: the rest, unless a jump leaves the block. -/
def behind (name : Text) (rest : List Statement) :
    Option Text → Narration Host → List (Outcome Host)
  | none => onward call (running call name rest)
  | some target => onward call (ending name (some target))

/-- The replies that are admitted. -/
def kept : List (Reply Statement) → List Bool → List (Reply Statement)
  | reply :: rest, admitted :: others =>
    if admitted then reply :: kept rest others else kept rest others
  | _, _ => []

theorem admittedTexts_eq (replies : List (Reply Statement)) (admitted : List Bool) :
    Narration.admittedTexts replies admitted = (kept replies admitted).map Reply.text := by
  fun_induction kept replies admitted with
  | case1 reply rest others ih => simp [Narration.admittedTexts, ih]
  | case2 reply rest admitted others refused ih => simp [Narration.admittedTexts, refused, ih]
  | case3 replies admitted short =>
    unfold Narration.admittedTexts
    split
    · exact (short _ _ _ _ rfl rfl).elim
    · rfl

theorem available_eq (replies : List (Reply Statement)) :
    available call replies = do
      let admitted ← Narration.admissions call replies
      return kept replies admitted := by
  induction replies with
  | nil => rfl
  | cons reply rest ih =>
    simp only [available, Narration.admissions, ih, bind_assoc, pure_bind, kept]

/-! ### The engine tells the same -/

section

open Narration

theorem onward_choice (name : Text) (replies : List (Reply Statement)) (rest : List Statement) :
    onward call (running call name (.choice replies :: rest)) =
      (act (admissions call replies)).into fun admitted =>
        if admittedTexts replies admitted = [] then
          (act (Act.note .choiceSkipped)).into fun _ => onward call (running call name rest)
        else
          (hand (.event (.options (admittedTexts replies admitted)))).into fun answer =>
            onward call (pull call answer (.offered name (kept replies admitted) rest)) := by
  rw [running, advance, available_eq, bind_assoc, bind_assoc, onward_bind]
  refine congrArg _ (funext fun admitted => ?_)
  rw [pure_bind, admittedTexts_eq]
  cases kept replies admitted with
  | nil =>
    rw [List.map_nil, if_pos rfl]
    dsimp only
    rw [bind_assoc]
    exact onward_bind call _ _
  | cons first others =>
    rw [List.map_cons, if_neg (List.cons_ne_nil _ _)]
    exact onward_pure call _ _

theorem onward_offered (name : Text) (replies : List (Reply Statement)) (rest : List Statement)
    (index : Nat) (reply : Reply Statement) (found : replies[index]? = some reply) :
    onward call (pull call (some index) (.offered name replies rest)) =
      (act (Act.note (.optionChosen index))).into fun _ =>
        onward call (running call name (reply.body ++ rest)) := by
  simp only [pull, found]
  exact onward_bind call _ _

theorem getElem?_kept_cons (reply : Reply Statement) (rest : List (Reply Statement))
    (admitted : Bool) (others : List Bool) (index : Nat) :
    (kept (reply :: rest) (admitted :: others))[index]? =
      if admitted then
        match index with
        | 0 => some reply
        | index + 1 => (kept rest others)[index]?
      else (kept rest others)[index]? := by
  cases admitted <;> cases index <;> rfl

mutual

theorem onward_statement (name : Text) (rest : List Statement) :
    ∀ first : Statement, onward call (running call name (first :: rest)) =
      (statement call first).into (behind call name rest)
  | .say text => by
    rw [running, advance, statement, into_bind]
    exact onward_pure call _ _
  | .command text => by
    rw [running, advance, statement, into_bind]
    exact onward_pure call _ _
  | .evaluate expression => by
    rw [running, advance, statement, into_bind, bind_assoc]
    exact onward_bind call _ _
  | .assign target expression => by
    rw [running, advance, statement]
    simp only [bind_assoc, into_bind, onward_bind call (evaluate call expression),
      onward_bind call (Act.note _), onward_bind call (modify _)]
    rfl
  | .branch clauses otherwise => by
    rw [statement, into_bind]
    exact onward_branch name rest otherwise (onward_block name rest otherwise) clauses
  | .choice replies => by
    rw [onward_choice, statement, into_bind]
    refine congrArg _ (funext fun admitted => ?_)
    split
    next => rfl
    next =>
      rw [into_bind]
      refine congrArg _ (funext fun answer => ?_)
      cases answer with
      | none => exact onward_throw call _ _
      | some index =>
        dsimp only
        rw [admittedTexts_eq, List.length_map]
        split
        next valid =>
          have found := List.getElem?_eq_getElem valid
          rw [onward_offered call name _ rest index _ found, into_bind]
          refine congrArg _ (funext fun _ => ?_)
          exact onward_reply name rest replies admitted index _ found
        next invalid =>
          rw [pull, List.getElem?_eq_none (Nat.le_of_not_lt invalid)]
          exact onward_throw call _ _
  | .jump target => by
    rw [running, advance, statement]
    rfl
  | .foreign => by
    rw [running, advance, statement]
    exact onward_throw call _ _
termination_by structural first => first

theorem onward_block (name : Text) (rest : List Statement) :
    ∀ statements : List Statement, onward call (running call name (statements ++ rest)) =
      (block call statements).into (behind call name rest)
  | [] => rfl
  | first :: others => by
    rw [List.cons_append, onward_statement name (others ++ rest) first, block, into_bind]
    refine congrArg _ (funext fun jump => ?_)
    cases jump with
    | none => exact onward_block name rest others
    | some target => rfl
termination_by structural statements => statements

theorem onward_branch (name : Text) (rest otherwise : List Statement)
    (last : onward call (running call name (otherwise ++ rest)) =
      (block call otherwise).into (behind call name rest)) :
    ∀ clauses : List (Clause Statement),
      onward call (running call name (.branch clauses otherwise :: rest)) =
        (firstClause call clauses).into fun jump =>
          into (match jump with
            | some jump => pure jump
            | none => block call otherwise) (behind call name rest)
  | [] => by
    rw [running, advance, firstClause]
    exact last
  | ⟨condition, body⟩ :: others => by
    rw [running, advance, firstClause, into_bind, bind_assoc, onward_bind]
    refine congrArg _ (funext fun value => ?_)
    split
    next =>
      rw [into_bind]
      exact onward_block name rest body
    next => exact onward_branch name rest otherwise last others
termination_by structural clauses => clauses

theorem onward_reply (name : Text) (rest : List Statement) :
    ∀ (replies : List (Reply Statement)) (admitted : List Bool) (index : Nat)
      (chosen : Reply Statement), (kept replies admitted)[index]? = some chosen →
      onward call (running call name (chosen.body ++ rest)) =
        (reply call replies admitted index).into (behind call name rest)
  | [], _, _, _, found => by cases found
  | _ :: _, [], _, _, found => by cases found
  | ⟨text, body, condition⟩ :: others, admitted :: marks, index, chosen, found => by
    rw [getElem?_kept_cons] at found
    cases admitted with
    | true =>
      cases index with
      | zero =>
        obtain rfl := Option.some.inj found
        exact onward_block name rest body
      | succ index => exact onward_reply name rest others marks index chosen found
    | false => exact onward_reply name rest others marks index chosen found
termination_by structural replies => replies

end

theorem onward_ending (name : Text) (next : Option Text) :
    onward call (ending name next) =
      (act (Act.note (.nodeCompleted name next))).into fun _ =>
        (hand (.complete next)).into fun _ narration => narration.closing (.ok none) := by
  have resting (answer : Option Nat) : onward call (pull call answer .ended) =
      fun narration => narration.closing (.ok none) := by
    funext narration
    rw [onward, course_ended, Narration.closing]
  rw [ending, finish, bind_assoc, onward_bind]
  refine congrArg _ (funext fun _ => ?_)
  rw [pure_bind, onward_pure]
  exact congrArg _ (funext resting)

theorem onward_fresh (node : Node) (answer : Option Nat) :
    onward call (pull call answer (.fresh node)) =
      (Narration.node call node).into fun _ narration => narration.closing (.ok none) := by
  have body : onward call (running call node.name node.body) =
      (block call node.body).into fun jump => onward call (ending node.name jump) := by
    rw [← List.append_nil node.body, onward_block, List.append_nil]
    refine congrArg _ (funext fun jump => ?_)
    cases jump with
    | none =>
      rw [behind, running, advance, ending]
    | some target => rfl
  rw [pull, onward_bind, Narration.node, into_bind]
  refine congrArg _ (funext fun _ => ?_)
  rw [into_bind]
  refine body.trans (congrArg _ (funext fun jump => ?_))
  rw [onward_ending, into_bind]
  simp only [into_bind, into_pure]

end

end Engine

/-- Pulling a session is telling its node: for every node, every library, every world to begin with
and every host, the outcomes of the pulls and the world after each of them are those of the
narration. There is one pull more than there are reactions.

A world holds the variables, the state of the host and the journal, in which every assignment is
noted. `call` is arbitrary, so it may write down in the state of the host what it is called with;
that record, too, is then the same after each pull. -/
theorem Session.course_start (call : Text → List Value → Act Host Value) (node : Node)
    (reactions : List (Reaction Host)) (world : World Host) :
    (Session.start node).course call reactions world =
      (Narration.node call node).outcomes reactions world := by
  have told := congrFun (Engine.onward_fresh call node none) { world, reactions }
  rw [Session.course_eq call reactions (Session.start node) none world rfl]
  exact told

/-- A jump in the body of a reply leaves the choice and the node around it. -/
example :
    ((Session.start
        ⟨"A", [.choice [⟨"Go", [.say "left", .jump "B"], none⟩], .say "never"], []⟩).course
        (fun _ _ => pure .null) [{ answer := some 0 }, {}, {}]
        { store := Roster.empty, host := () }).map (·.1.toOption) =
      [some (some (.event (.options ["Go"]))), some (some (.event (.line "left"))),
        some (some (.complete (some "B"))), some none] := by
  cbv

end Parley
