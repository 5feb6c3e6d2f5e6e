/-
This file says what the results of a traversal look like, and which statements of the
node they come from. A pull goes from position to position; wherever it stands, the
statement in front of it is run, and that is a step. The steps of a traversal are those
of its pulls, one after the other.

A step takes its statement off what is left, and whatever is entered instead stands
behind it in the node. So no statement is run twice, and the steps come in the order in
which their statements are written. That is one account, kept from one position to the
next: the steps so far, the statements that are still to come, the events that were
yielded and the jumps that were run.
-/

import Parley.Proofs.Engine.Course
import Parley.Proofs.Engine.Within

namespace Parley

variable {Host : Type}

/-! ### Steps -/

/-- A statement that is run, and the event that it yields, if it yields one. -/
structure Step where
  statement : Statement
  event : Option Event := none

namespace Step

/-- The target of the jump that is run, if it is a jump. -/
def target? (step : Step) : Option Text :=
  match step.statement with
  | .jump target => some target
  | _ => none

/-- The event of a step is one of its statement: a line or a command for its own text, and for a
choice the texts of some of its replies, unless it is skipped. No other statement yields an
event. -/
def Fits (step : Step) : Prop :=
  match step.statement with
  | .say text => step.event = some (.line text)
  | .command text => step.event = some (.command text)
  | .choice replies =>
    ∀ event, step.event = some event →
      ∃ texts, event = .options texts ∧ texts ≠ [] ∧ texts.Sublist (replies.map Reply.text)
  | _ => step.event = none

/-- A statement that yields an event is one of those that can. -/
theorem Fits.yields {step : Step} {event : Event} (fits : step.Fits)
    (yielded : step.event = some event) : step.statement.yields = true := by
  rcases step with ⟨statement, given⟩
  cases statement with
  | say text => rfl
  | command text => rfl
  | choice replies => rfl
  | _ => exact absurd (yielded.symm.trans fits) (Option.some_ne_none event)

theorem length_events_le {steps : List Step} (fits : ∀ step ∈ steps, step.Fits) :
    (steps.filterMap Step.event).length ≤
      (steps.map Step.statement).countP Statement.yields := by
  induction steps with
  | nil => exact le_refl 0
  | cons step rest inductionHypothesis =>
    have fewer := inductionHypothesis fun other member => fits other (List.mem_cons_of_mem _ member)
    rw [List.map_cons, List.countP_cons]
    cases yielded : step.event with
    | none =>
      rw [List.filterMap_cons_none yielded]
      omega
    | some event =>
      have yields := (fits step List.mem_cons_self).yields yielded
      rw [List.filterMap_cons_some yielded, List.length_cons, if_pos yields]
      omega

/-! ### Accounts -/

/-- An account of steps: their statements are found in this order among those that were left before,
in front of those that are left behind, and they yield the events and run the jumps. -/
structure Account (steps : List Step) (before after : List Statement) (events : List Event)
    (jumps : List Text) : Prop where
  fits : ∀ step ∈ steps, step.Fits
  order : (steps.map Step.statement ++ after).Sublist before
  events : steps.filterMap Step.event = events
  jumps : steps.filterMap Step.target? = jumps

namespace Account

variable {steps further : List Step} {before middle after : List Statement}
  {events later : List Event} {jumps others : List Text}

/-- Nothing is run, and some statements are left out. -/
theorem skip (among : after.Sublist before) : Account [] before after [] [] where
  fits := by simp
  order := among
  events := rfl
  jumps := rfl

/-- One statement is run. -/
theorem one (step : Step) (fits : step.Fits)
    (among : (step.statement :: after).Sublist before) :
    Account [step] before after step.event.toList step.target?.toList where
  fits := by simpa using fits
  order := among
  events := by cases event : step.event <;> simp [event]
  jumps := by cases target : step.target? <;> simp [target]

theorem append (first : Account steps before middle events jumps)
    (second : Account further middle after later others) :
    Account (steps ++ further) before after (events ++ later) (jumps ++ others) where
  fits := by
    intro step member
    rcases List.mem_append.1 member with early | late
    · exact first.fits step early
    · exact second.fits step late
  order := by
    rw [List.map_append, List.append_assoc]
    exact ((List.Sublist.refl _).append second.order).trans first.order
  events := by rw [List.filterMap_append, first.events, second.events]
  jumps := by rw [List.filterMap_append, first.jumps, second.jumps]

/-- What is left behind need not be told. -/
theorem forget (account : Account steps before after events jumps) :
    Account steps before [] events jumps where
  fits := account.fits
  order := ((List.Sublist.refl _).append (List.nil_sublist after)).trans account.order
  events := account.events
  jumps := account.jumps

/-- There are no more events than statements that can yield one. -/
theorem length_le (account : Account steps before after events jumps) :
    events.length ≤ before.countP Statement.yields := by
  calc events.length = (steps.filterMap Step.event).length := by rw [account.events]
    _ ≤ (steps.map Step.statement).countP Statement.yields := length_events_le account.fits
    _ ≤ before.countP Statement.yields :=
      ((List.sublist_append_left _ after).trans account.order).countP_le

end Account

end Step

/-! ### The steps of a pull -/

namespace Engine

variable (call : Text → List Value → Act Host Value)

namespace Position

/-- The position behind the next move, if there is one. -/
def next? (position : Position Host) : Option (Position Host) :=
  match position.rest with
  | .evaluate expression :: rest =>
    match evaluate call expression position.world with
    | .ok _ after => some ⟨position.name, rest, after⟩
    | .error _ _ => none
  | .assign target expression :: rest =>
    match evaluate call expression position.world with
    | .ok value after =>
      some ⟨position.name, rest,
        { after.note (.assigned target value) with store := after.store.put target value }⟩
    | .error _ _ => none
  | .branch [] otherwise :: rest => some ⟨position.name, otherwise ++ rest, position.world⟩
  | .branch (⟨condition, body⟩ :: clauses) otherwise :: rest =>
    match evaluate call condition position.world with
    | .ok value after =>
      if value.holds then some ⟨position.name, body ++ rest, after⟩
      else some ⟨position.name, .branch clauses otherwise :: rest, after⟩
    | .error _ _ => none
  | .choice replies :: rest =>
    match available call replies position.world with
    | .ok [] after => some ⟨position.name, rest, after.note .choiceSkipped⟩
    | _ => none
  | _ => none

/-- What is run at a position. A branch does nothing itself. -/
def step? (position : Position Host) : Option Step :=
  match position.rest with
  | [] | .branch _ _ :: _ => none
  | .say text :: _ => some { statement := .say text, event := some (.line text) }
  | .command text :: _ => some { statement := .command text, event := some (.command text) }
  | .choice replies :: _ =>
    match available call replies position.world with
    | .ok (offer :: others) _ =>
      some
        { statement := .choice replies
          event := some (.options ((offer :: others).map Reply.text)) }
    | _ => some { statement := .choice replies }
  | statement :: _ => some { statement }

variable {call}

theorem next?_eq_some_iff {before after : Position Host} :
    before.next? call = some after ↔ Move call before after := by
  constructor
  · intro found
    rcases before with ⟨name, rest, world⟩
    rw [next?.eq_def] at found
    dsimp only at found
    split at found
    · split at found
      · cases found
        exact .evaluated ‹_›
      · cases found
    · split at found
      · cases found
        exact .assigned ‹_›
      · cases found
    · cases found
      exact .otherwise
    · split at found
      · split at found
        · cases found
          exact .taken ‹_› ‹_›
        · cases found
          exact .passed ‹_› (eq_false_of_ne_true ‹_›)
      · cases found
    · split at found
      · cases found
        exact .skipped ‹_›
      · cases found
    · cases found
  · intro move
    cases move with
    | evaluated done => simp only [next?, done]
    | assigned done => simp only [next?, done]
    | taken done holds => simp only [next?, done, holds, if_true]
    | passed done fails => simp only [next?, done, fails, Bool.false_eq_true, if_false]
    | otherwise => rfl
    | skipped done => simp only [next?, done]

end Position

variable {call}

/-- A move makes what is left smaller. -/
theorem Move.sizeOf_lt {before after : Position Host} (move : Move call before after) :
    sizeOf after.rest < sizeOf before.rest := by
  cases move with
  | @taken name condition body clauses otherwise rest world value after done holds =>
    have := sizeOf_block_append body rest
    simp
    omega
  | @otherwise name otherwise rest world =>
    have := sizeOf_block_append otherwise rest
    simp
    omega
  | _ => simp

variable (call) in
/-- What is run from a position on, until a result is yielded or something fails. -/
def Position.steps (position : Position Host) : List Step :=
  match _ : position.next? call with
  | none => (position.step? call).toList
  | some next => (position.step? call).toList ++ next.steps
termination_by sizeOf position.rest
decreasing_by exact (Position.next?_eq_some_iff.1 ‹_›).sizeOf_lt

/-! ### Accounts of a pull -/

/-- A move runs at most one statement, which yields nothing, and leaves out only statements of
blocks that are not entered. -/
theorem Move.account {before after : Position Host} (move : Move call before after) :
    Step.Account (before.step? call).toList (Statement.blockParts before.rest)
      (Statement.blockParts after.rest) [] [] := by
  cases move with
  | evaluated done => exact .one ⟨.evaluate _, none⟩ rfl (.refl _)
  | assigned done => exact .one ⟨.assign _ _, none⟩ rfl (.refl _)
  | @taken name condition body clauses otherwise rest =>
    refine .skip ?_
    simp only [Statement.blockParts_append, Statement.blockParts, Statement.parts,
      Statement.clauseParts, List.append_assoc]
    exact (List.Sublist.refl _).append
      ((List.sublist_append_right _ _).trans (List.sublist_append_right _ _))
  | @passed name condition body clauses otherwise rest =>
    refine .skip ?_
    simp only [Statement.blockParts, Statement.parts, Statement.clauseParts, List.append_assoc]
    exact List.sublist_append_right _ _
  | @otherwise name otherwise rest =>
    refine .skip ?_
    rw [Statement.blockParts_append]
    exact .refl _
  | @skipped name replies rest world after done =>
    simp only [Position.step?, done]
    refine .one ⟨.choice replies, none⟩ ?_ ?_
    · rintro event ⟨⟩
    · exact (List.sublist_append_right _ _).cons_cons _

/-- What statements come to is accounted for by steps from those that were left before: an event
leaves the rest of the traversal, the next node is named by a jump, and a fault yields nothing. -/
inductive Accounted (steps : List Step) (before : List Statement) :
    EStateM.Result Fault (World Host) (Result × Traversal) → Prop
  | event {event behind world} (ongoing : behind ≠ .ended)
    (account : Step.Account steps before behind.parts [event] []) :
    Accounted steps before (.ok (.event event, behind) world)
  | complete {next world} (account : Step.Account steps before [] [] next.toList) :
    Accounted steps before (.ok (.complete next, .ended) world)
  | fault {fault world} (account : Step.Account steps before [] [] []) :
    Accounted steps before (.error fault world)

theorem Accounted.behind {steps further : List Step} {before middle : List Statement}
    {result : EStateM.Result Fault (World Host) (Result × Traversal)}
    (first : Step.Account steps before middle [] []) (accounted : Accounted further middle result) :
    Accounted (steps ++ further) before result := by
  cases accounted with
  | event ongoing account => exact .event ongoing (first.append account)
  | complete account => exact .complete (first.append account)
  | fault account => exact .fault (first.append account)

/-- A choice that offers something leaves the bodies of what it offers. -/
theorem Position.accounted_of_offers {name : Text} {replies : List (Reply Statement)}
    {rest : List Statement} {world after : World Host}
    {offer : Reply Statement} {others : List (Reply Statement)}
    (found : available call replies world = .ok (offer :: others) after) :
    Accounted ((Position.mk name (.choice replies :: rest) world).step? call).toList
      (Statement.blockParts (.choice replies :: rest))
      ((Position.mk name (.choice replies :: rest) world).outcome call) := by
  have among := available_sublist call found
  rw [outcome, advance, bind_apply, found]
  simp only [step?, found]
  refine .event (by rintro ⟨⟩) (.one ⟨.choice replies, _⟩ ?_ ?_)
  · rintro event ⟨⟩
    exact ⟨_, rfl, List.cons_ne_nil _ _, among.map Reply.text⟩
  · exact ((Statement.replyParts_sublist among).append (.refl _)).cons_cons _

/-- Where no move is left, the pull comes to its result, or to a fault. -/
theorem Position.accounted_of_next?_eq_none {position : Position Host}
    (stops : position.next? call = none) :
    Accounted (position.step? call).toList (Statement.blockParts position.rest)
      (position.outcome call) := by
  rcases position with ⟨name, rest, world⟩
  have alone {statement : Statement} {others : List Statement} :
      [statement].Sublist (statement :: others) :=
    List.singleton_sublist.2 List.mem_cons_self
  cases rest with
  | nil =>
    rw [outcome, advance]
    exact .complete (.skip (.refl _))
  | cons statement rest =>
    cases statement with
    | say text =>
      rw [outcome, advance]
      exact .event (by rintro ⟨⟩) (.one ⟨.say text, _⟩ rfl (.refl _))
    | command text =>
      rw [outcome, advance]
      exact .event (by rintro ⟨⟩) (.one ⟨.command text, _⟩ rfl (.refl _))
    | evaluate expression =>
      cases found : evaluate call expression world with
      | ok value after => simp [next?, found] at stops
      | error fault after =>
        rw [outcome, advance, bind_apply, found]
        exact .fault (.one ⟨.evaluate expression, none⟩ rfl alone)
    | assign target expression =>
      cases found : evaluate call expression world with
      | ok value after => simp [next?, found] at stops
      | error fault after =>
        rw [outcome, advance, bind_apply, found]
        exact .fault (.one ⟨.assign target expression, none⟩ rfl alone)
    | branch clauses otherwise =>
      cases clauses with
      | nil => cases stops
      | cons clause clauses =>
        rcases clause with ⟨condition, body⟩
        cases found : evaluate call condition world with
        | ok value after =>
          simp only [next?, found] at stops
          split at stops <;> cases stops
        | error fault after =>
          rw [outcome, advance, bind_apply, found]
          exact .fault (.skip (List.nil_sublist _))
    | choice replies =>
      cases found : available call replies world with
      | ok offers after =>
        cases offers with
        | nil => simp [next?, found] at stops
        | cons offer others => exact accounted_of_offers found
      | error fault after =>
        rw [outcome, advance, bind_apply, found]
        simp only [step?, found]
        refine .fault (.one ⟨.choice replies, none⟩ ?_ alone)
        rintro event ⟨⟩
    | jump target =>
      rw [outcome, advance]
      exact .complete (.one ⟨.jump target, none⟩ rfl alone)
    | foreign =>
      rw [outcome, advance]
      exact .fault (.one ⟨.foreign, none⟩ rfl alone)

/-- What the statements come to which are left is accounted for by the steps from there on. -/
theorem Position.accounted (position : Position Host) :
    Accounted (position.steps call) (Statement.blockParts position.rest)
      (position.outcome call) := by
  induction position using Position.steps.induct call with
  | case1 position stops =>
    rw [Position.steps, stops]
    exact Position.accounted_of_next?_eq_none stops
  | case2 position next onward inductionHypothesis =>
    have move := Position.next?_eq_some_iff.1 onward
    rw [Position.steps, onward, move.outcome]
    exact inductionHypothesis.behind move.account

/-- A traversal that cannot go on, though it is not over, waits for a choice. -/
theorem pull_eq_error {chosen : Option Nat} {world : World Host} {traversal : Traversal}
    (shut : opening? chosen world traversal = none) (ongoing : traversal ≠ .ended) :
    pull call chosen traversal world = .error .notChosen world := by
  cases traversal with
  | fresh node => cases shut
  | within name rest => cases shut
  | offered name replies rest =>
    cases chosen with
    | none => rfl
    | some index =>
      cases there : replies[index]? with
      | none =>
        rw [pull, there]
        rfl
      | some reply => simp [opening?, there] at shut
  | ended => exact absurd rfl ongoing

end Engine

/-! ### The steps of a traversal -/

namespace Session

open Engine

variable (call : Text → List Value → Act Host Value)

/-- The steps of the next pull of a session. -/
def steps (session : Session) (world : World Host) : List Step :=
  match opening? (Offer.latest? session.offers) world session.traversal with
  | none => []
  | some first => first.steps call

/-- The steps of a first pull and of one more after each reaction. -/
def trail : List (Reaction Host) → Session → World Host → List Step
  | [], session, world => session.steps call world
  | reaction :: rest, session, world =>
    let (_, behind, after) := session.pull call world
    session.steps call world ++ trail rest (behind.respond reaction.answer) (reaction.apply after)

/-- Why there is no event any more: the host pulls no further, the node is complete, or something
failed. -/
inductive Finish where
  | waiting
  | complete (next : Option Text)
  | raised (fault : Fault)

/-- What the pulls come to from the one on that yields no event, where `later` more pulls follow. -/
def Finish.outcomes (later : Nat) : Finish → List (Except Fault (Option Result))
  | .waiting => []
  | .complete next => .ok (some (.complete next)) :: List.replicate later (.ok none)
  | .raised fault => .error fault :: List.replicate later (.ok none)

/-- The targets of the jumps that were run. -/
def Finish.jumps : Finish → List Text
  | .complete next => next.toList
  | _ => []

variable {call}

@[simp] theorem traversal_respond (session : Session) (answer : Option Nat) :
    (session.respond answer).traversal = session.traversal := by
  rw [respond_eq]

variable (call) in
/-- A session whose traversal is over has no results and runs nothing. -/
theorem course_of_ended (reactions : List (Reaction Host)) {session : Session}
    (ended : session.traversal = .ended) (world : World Host) :
    (session.course call reactions world).map Prod.fst =
        List.replicate (reactions.length + 1) (.ok none) ∧
      session.trail call reactions world = [] := by
  induction reactions generalizing session world with
  | nil =>
    rcases session with ⟨traversal, offers⟩
    cases ended
    exact ⟨rfl, rfl⟩
  | cons reaction rest inductionHypothesis =>
    have still := (traversal_respond session reaction.answer).trans ended
    obtain ⟨idle, nothing⟩ := inductionHypothesis still (reaction.apply world)
    rcases session with ⟨traversal, offers⟩
    cases ended
    exact ⟨congrArg (List.cons _) idle, nothing⟩

/-- What the next pull of a session comes to, and the session that it leaves, are accounted for by
steps. -/
inductive Accounted (steps : List Step) (before : List Statement) :
    Except Fault (Option Result) × Session × World Host → Prop
  | event {event behind world} (ongoing : behind.traversal ≠ .ended)
    (account : Step.Account steps before behind.traversal.parts [event] []) :
    Accounted steps before (.ok (some (.event event)), behind, world)
  | complete {next behind world} (ended : behind.traversal = .ended)
    (account : Step.Account steps before [] [] next.toList) :
    Accounted steps before (.ok (some (.complete next)), behind, world)
  | fault {fault behind world} (ended : behind.traversal = .ended)
    (account : Step.Account steps before [] [] []) :
    Accounted steps before (.error fault, behind, world)

variable (call) in
theorem accounted_pull {session : Session} (ongoing : session.traversal ≠ .ended)
    (world : World Host) :
    Accounted (session.steps call world) session.traversal.parts (session.pull call world) := by
  cases opens : opening? (Offer.latest? session.offers) world session.traversal with
  | none =>
    rw [pull, steps, opens, pull_eq_error opens ongoing]
    exact .fault rfl (.skip (List.nil_sublist _))
  | some first =>
    have accounted : Engine.Accounted (first.steps call) session.traversal.parts
        (first.outcome call) :=
      first.accounted.behind (.skip (opening?_sublist opens))
    rw [pull, steps, opens, pull_of_opening opens]
    generalize first.outcome call = result at accounted ⊢
    cases accounted with
    | event ongoing account => exact .event ongoing account
    | complete account => exact .complete rfl account
    | fault account => exact .fault rfl account

variable (call) in
/-- The results of a session that is not over, and the steps that they come from. -/
theorem account_course (reactions : List (Reaction Host)) {session : Session}
    (ongoing : session.traversal ≠ .ended) (world : World Host) :
    ∃ events finish later,
      (session.course call reactions world).map Prod.fst =
          events.map (fun event => .ok (some (.event event))) ++ Finish.outcomes later finish ∧
        Step.Account (session.trail call reactions world) session.traversal.parts [] events
          finish.jumps := by
  -- Behind an event the session goes on with what is left; behind anything else it is over.
  induction reactions generalizing session world with
  | nil =>
    have accounted := accounted_pull call ongoing world
    rw [course, trail]
    generalize session.pull call world = result at accounted ⊢
    cases accounted with
    | @event event behind after ongoing account =>
      exact ⟨[event], .waiting, 0, rfl, account.forget⟩
    | @complete next behind after ended account =>
      exact ⟨[], .complete next, 0, rfl, account⟩
    | @fault fault behind after ended account => exact ⟨[], .raised fault, 0, rfl, account⟩
  | cons reaction rest inductionHypothesis =>
    have accounted := accounted_pull call ongoing world
    rw [course, trail]
    generalize session.pull call world = result at accounted ⊢
    cases accounted with
    | @event event behind after ongoing account =>
      have still : (behind.respond reaction.answer).traversal ≠ .ended := by
        rwa [traversal_respond]
      obtain ⟨events, finish, later, outcomes, onward⟩ :=
        inductionHypothesis still (reaction.apply after)
      rw [traversal_respond] at onward
      exact ⟨event :: events, finish, later, congrArg (List.cons _) outcomes, account.append onward⟩
    | @complete next behind after ended account =>
      obtain ⟨idle, nothing⟩ := course_of_ended call rest
        ((traversal_respond behind reaction.answer).trans ended) (reaction.apply after)
      refine ⟨[], .complete next, rest.length + 1, congrArg (List.cons _) idle, ?_⟩
      dsimp only
      rwa [nothing, List.append_nil]
    | @fault fault behind after ended account =>
      obtain ⟨idle, nothing⟩ := course_of_ended call rest
        ((traversal_respond behind reaction.answer).trans ended) (reaction.apply after)
      refine ⟨[], .raised fault, rest.length + 1, congrArg (List.cons _) idle, ?_⟩
      dsimp only
      rwa [nothing, List.append_nil]

/-- The shape of a traversal, for every node, every function that calls and whatever the host does
between two pulls. What the pulls come to is a number of events, no more than the body has
statements that can yield one; behind them, unless the host pulls no further, either one completion
or one fault, and nothing after it. The statements that are run are found in this order in the body,
each at a place of its own; the events are theirs, one at most for each. The node that is named at
completion is the target of the jump that was run, and none is named if no jump was. -/
theorem traversal_shape (call : Text → List Value → Act Host Value)
    (reactions : List (Reaction Host)) (node : Node) (world : World Host) :
    ∃ events finish later,
      ((start node).course call reactions world).map Prod.fst =
          events.map (fun event => .ok (some (.event event))) ++ Finish.outcomes later finish ∧
        events.length ≤ Statement.yieldCount node.body ∧
        (((start node).trail call reactions world).map Step.statement).Sublist
          (Statement.blockParts node.body) ∧
        (∀ step ∈ (start node).trail call reactions world, step.Fits) ∧
        ((start node).trail call reactions world).filterMap Step.event = events ∧
        ((start node).trail call reactions world).filterMap Step.target? = finish.jumps := by
  have fresh : (start node).traversal ≠ .ended := by rintro ⟨⟩
  obtain ⟨events, finish, later, outcomes, account⟩ := account_course call reactions fresh world
  refine ⟨events, finish, later, outcomes, account.length_le, ?_, account.fits, account.events,
    account.jumps⟩
  have order := account.order
  rwa [List.append_nil] at order

end Session

end Parley
