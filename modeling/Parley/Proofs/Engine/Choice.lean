/-
This file follows a choice from its conditions to the reply that is run. Three lists have
to keep in step on the way: the replies of the script, the ones that are admitted, and the
texts that the host is shown; and between the offer and the answer the host may do what it
likes. They do keep in step, because what waits for the answer is the list of the replies
that are admitted, and nothing is asked again when the answer has come.
-/

import Parley.Engine.Session
import Parley.Proofs.Engine.Positions
import Parley.Proofs.Offer

namespace Parley

variable {Host : Type}

/-! ### Conditions -/

namespace Engine

variable (call : Text → List Value → Act Host Value)

/-- The values of the conditions of replies, each evaluated once and in order; a reply that has no
condition has no value. -/
def conditions (replies : List (Reply Statement)) : Act Host (List (Option Value)) :=
  replies.mapM fun reply => reply.condition.mapM (evaluate call)

/-- The replies that have no condition or one that holds, in the order of the script. -/
def admitted (replies : List (Reply Statement)) (values : List (Option Value)) :
    List (Reply Statement) :=
  ((replies.zip values).filter fun judged => judged.2.all Value.holds).map Prod.fst

theorem admitted_cons (reply : Reply Statement) (replies : List (Reply Statement))
    (value : Option Value) (values : List (Option Value)) :
    admitted (reply :: replies) (value :: values) =
      if value.all Value.holds then reply :: admitted replies values
      else admitted replies values := by
  unfold admitted
  rw [List.zip_cons_cons, List.filter_cons]
  split <;> rfl

theorem admits_eq (condition : Option Expression) :
    admits call condition = do
      let value ← condition.mapM (evaluate call)
      return value.all Value.holds := by
  cases condition with
  | none => rfl
  | some expression =>
    rw [admits, Option.mapM_some, map_eq_pure_bind, bind_assoc]
    simp only [pure_bind, Option.all_some]

/-- All conditions are evaluated before a reply is offered, and nothing else is done. -/
theorem available_conditions (replies : List (Reply Statement)) :
    available call replies = do
      let values ← conditions call replies
      return admitted replies values := by
  induction replies with
  | nil => rfl
  | cons reply rest ih =>
    have rests : conditions call (reply :: rest) = do
        let value ← reply.condition.mapM (evaluate call)
        let values ← conditions call rest
        return value :: values := List.mapM_cons
    rw [available, admits_eq, ih, rests]
    simp only [bind_assoc, pure_bind, admitted_cons]

/-- A reply is the one that is shown under a number: the text of that number is its text, and it
stands in the script behind as many admitted replies and is admitted itself. -/
structure ShownAt (replies : List (Reply Statement)) (values : List (Option Value)) (index : Nat)
    (reply : Reply Statement) : Prop where
  text : ((admitted replies values).map Reply.text)[index]? = some reply.text
  place : ∃ place value, replies[place]? = some reply ∧ values[place]? = some value ∧
    value.all Value.holds = true ∧
    (admitted (replies.take place) (values.take place)).length = index

theorem shownAt_of_getElem? {replies : List (Reply Statement)} {values : List (Option Value)}
    {index : Nat} {reply : Reply Statement}
    (shown : (admitted replies values)[index]? = some reply) :
    ShownAt replies values index reply := by
  refine ⟨by rw [List.getElem?_map, shown]; rfl, ?_⟩
  induction replies generalizing values index with
  | nil => cases shown
  | cons first rest ih =>
    cases values with
    | nil => cases shown
    | cons value others =>
      rw [admitted_cons] at shown
      by_cases holds : value.all Value.holds = true
      · rw [if_pos holds] at shown
        cases index with
        | zero =>
          obtain rfl : first = reply := Option.some.inj shown
          exact ⟨0, value, rfl, rfl, holds, rfl⟩
        | succ index =>
          obtain ⟨place, verdict, stands, valued, admits, before⟩ := ih shown
          refine ⟨place + 1, verdict, stands, valued, admits, ?_⟩
          rw [List.take_succ_cons, List.take_succ_cons, admitted_cons, if_pos holds,
            List.length_cons, before]
      · rw [if_neg holds] at shown
        obtain ⟨place, verdict, stands, valued, admits, before⟩ := ih shown
        refine ⟨place + 1, verdict, stands, valued, admits, ?_⟩
        rw [List.take_succ_cons, List.take_succ_cons, admitted_cons, if_neg holds, before]

end Engine

/-! ### Sessions that wait for a choice -/

namespace Session

/-- A session that has offered replies, behind the offers that it made before. -/
def offering (offers : List Offer) (name : Text) (replies : List (Reply Statement))
    (rest : List Statement) : Session :=
  ⟨.offered name replies rest, offers ++ [{ count := replies.length }]⟩

/-- A session after an attempt; one that is refused changes nothing. -/
def attempt (session : Session) (attempt : Attempt) : Session :=
  match session.choose attempt.place attempt.index with
  | .ok answered => answered
  | .error _ => session

theorem attempts_eq (session : Session) (attempts : List Attempt) :
    attempts.foldl attempt session =
      { session with offers := attempts.foldl Attempt.after session.offers } := by
  induction attempts generalizing session with
  | nil => rfl
  | cons first rest ih =>
    have step : session.attempt first =
        { session with offers := first.after session.offers } := by
      unfold attempt choose Attempt.after
      cases Offer.chooseIn session.offers first.place first.index <;> rfl
    rw [List.foldl_cons, step, ih]
    rfl

end Session

open Engine

/-- What becomes of a choice that a session comes to in the course of a pull. `first` is where the
pull begins to run statements, and `between` the world in which it comes to the choice. -/
structure Session.Chooses (call : Text → List Value → Act Host Value) (session : Session)
    (world : World Host) (first : Position Host) (name : Text) (replies : List (Reply Statement))
    (rest : List Statement) (between : World Host) : Prop where
  /-- Where a condition fails, so does the pull. -/
  failing : ∀ fault after, conditions call replies between = .error fault after →
    session.pull call world = (.error fault, session.close, after)
  /-- Where no reply is admitted, the pull goes on behind the choice. -/
  skipping : ∀ values after, conditions call replies between = .ok values after →
    admitted replies values = [] → Moves call first ⟨name, rest, after.note .choiceSkipped⟩
  /-- The texts of the replies that are admitted are shown once all conditions are evaluated. -/
  showing : ∀ values after, conditions call replies between = .ok values after →
    admitted replies values ≠ [] →
    session.pull call world =
      (.ok (some (.event (.options ((admitted replies values).map Reply.text)))),
        offering session.offers name (admitted replies values) rest, after)
  /-- Whatever the host has attempted and has done to the world: if no attempt was valid, the next
  pull fails, and nothing is run. -/
  unanswered : ∀ values attempts later,
    Attempt.accepted? session.offers.length (admitted replies values).length attempts = none →
    let answered := attempts.foldl attempt
      (offering session.offers name (admitted replies values) rest)
    answered.pull call later = (.error .notChosen, answered.close, later)
  /-- If one was, the next pull runs the body of the reply that was shown under the number which
  counts, and what follows the choice, and nothing else is evaluated before. -/
  answered : ∀ values attempts later index,
    Attempt.accepted? session.offers.length (admitted replies values).length attempts =
      some index →
    let answered := attempts.foldl attempt
      (offering session.offers name (admitted replies values) rest)
    index < (admitted replies values).length ∧ ∃ reply, ShownAt replies values index reply ∧
      answered.pull call later =
        { answered with traversal := .within name (reply.body ++ rest) }.pull call
          (later.note (.optionChosen index))

namespace Session

variable {call : Text → List Value → Act Host Value}

theorem latest?_offering (offers : List Offer) (name : Text) (replies : List (Reply Statement))
    (rest : List Statement) (attempts : List Attempt) :
    Offer.latest? (attempts.foldl attempt (offering offers name replies rest)).offers =
      Attempt.accepted? offers.length replies.length attempts := by
  rw [attempts_eq]
  exact Attempt.latest?_attempts offers replies.length attempts

theorem traversal_offering (offers : List Offer) (name : Text) (replies : List (Reply Statement))
    (rest : List Statement) (attempts : List Attempt) :
    (attempts.foldl attempt (offering offers name replies rest)).traversal =
      .offered name replies rest := by
  rw [attempts_eq]
  rfl

/-- Without an answer nothing is run. -/
theorem pull_unanswered {session : Session} {name : Text} {replies : List (Reply Statement)}
    {rest : List Statement} (world : World Host)
    (waits : session.traversal = .offered name replies rest)
    (unchosen : Offer.latest? session.offers = none) :
    session.pull call world = (.error .notChosen, session.close, world) := by
  unfold pull
  rw [waits, unchosen]
  rfl

/-- Answering by a number comes to running the body of the reply of that number. -/
theorem pull_answered {session : Session} {name : Text} {replies : List (Reply Statement)}
    {rest : List Statement} {index : Nat} {reply : Reply Statement} (world : World Host)
    (waits : session.traversal = .offered name replies rest)
    (chosen : Offer.latest? session.offers = some index) (found : replies[index]? = some reply) :
    session.pull call world =
      { session with traversal := .within name (reply.body ++ rest) }.pull call
        (world.note (.optionChosen index)) := by
  have same : Engine.pull call (some index) (.offered name replies rest) world =
      Engine.pull call (some index) (.within name (reply.body ++ rest))
        (world.note (.optionChosen index)) := by
    simp only [Engine.pull, found]
    rfl
  unfold pull
  rw [waits, chosen, same]
  rfl

/-- The reply that is run is the one that was shown. Let a session come to a choice in a pull, in
whatever world and over whatever functions. Each condition is evaluated once, in order, before the
texts of the replies that are admitted are shown in the order of the script. Then, whatever the host
attempts and however it changes the world: if an attempt was valid, the number that counts is that
of a text which was shown, and the next pull runs the body of the reply which that text was shown
for; if none was, the next pull fails and runs nothing. -/
theorem shown_reply_is_run {session : Session} {world between : World Host} {first : Position Host}
    {name : Text} {replies : List (Reply Statement)} {rest : List Statement}
    (opens : opening? (Offer.latest? session.offers) world session.traversal = some first)
    (comes : Moves call first ⟨name, .choice replies :: rest, between⟩) :
    session.Chooses call world first name replies rest between := by
  have pulled : Engine.pull call _ session.traversal world = _ := pull_of_opening opens
  rw [comes.outcome, Position.outcome, advance, available_conditions, bind_assoc, bind_apply]
    at pulled
  refine ⟨?_, ?_, ?_, ?_, ?_⟩
  · intro fault after failed
    rw [failed] at pulled
    unfold pull
    rw [pulled]
  · intro values after evaluated refused
    have nothing : available call replies between = .ok [] after := by
      rw [available_conditions, bind_apply, evaluated, ← refused]
      rfl
    exact comes.trans (.more (.skipped nothing) (.none _))
  · intro values after evaluated some
    obtain ⟨shown, others, same⟩ := List.exists_cons_of_ne_nil some
    rw [evaluated] at pulled
    dsimp only at pulled
    rw [pure_bind, same] at pulled
    unfold pull
    rw [pulled, same]
    show (_, Session.mk _ (session.offers ++ [_]), after) = _
    rw [List.length_map]
    rfl
  · intro values attempts later invalid
    have waits := traversal_offering session.offers name (admitted replies values) rest attempts
    have latest := latest?_offering session.offers name (admitted replies values) rest attempts
    exact pull_unanswered later waits (latest.trans invalid)
  · intro values attempts later index accepted
    have waits := traversal_offering session.offers name (admitted replies values) rest attempts
    have latest := latest?_offering session.offers name (admitted replies values) rest attempts
    have within := Attempt.accepted?_lt accepted
    have found := List.getElem?_eq_getElem within
    exact ⟨within, _, shownAt_of_getElem? found,
      pull_answered later waits (latest.trans accepted) found⟩

/-- Two replies of one text, of which the first is never admitted. -/
def ambiguous : List (Reply Statement) :=
  [⟨"Go.", [.say "Left."], some (.literal (.bool false))⟩, ⟨"Go.", [.say "Right."], none⟩]

/-- The first attempt names no reply that is shown, and the second one the reply behind the one that
is not admitted. -/
theorem shown_reply_is_run_ambiguous :
    ∃ (call : Text → List Value → Act Unit Value) (world between : World Unit) (later : World Unit),
      let session := offering [] "A" (admitted ambiguous [some (.bool false), none]) []
      let answered := [⟨0, .int 1⟩, ⟨0, .int 0⟩].foldl attempt session
      conditions call ambiguous between = .ok [some (.bool false), none] between ∧
      (start ⟨"A", [.choice ambiguous], []⟩).pull call world =
        (.ok (some (.event (.options ["Go."]))), session, between) ∧
      answered.pull call later =
        { answered with traversal := .within "A" [.say "Right."] }.pull call
          (later.note (.optionChosen 0)) := by
  let call : Text → List Value → Act Unit Value := fun _ _ => pure .null
  let world : World Unit := { store := Roster.empty, host := () }
  let between := world.note (.nodeEntered "A")
  have chooses : (start ⟨"A", [.choice ambiguous], []⟩).Chooses call world
      ⟨"A", [.choice ambiguous], between⟩ "A" ambiguous [] between :=
    shown_reply_is_run rfl (.none _)
  have evaluated : conditions call ambiguous between = .ok [some (.bool false), none] between := rfl
  have shows := chooses.showing _ _ evaluated nofun
  obtain ⟨-, reply, shown, ran⟩ :=
    chooses.answered [some (.bool false), none] [⟨0, .int 1⟩, ⟨0, .int 0⟩] world 0 rfl
  obtain ⟨place, value, stands, valued, admits, -⟩ := shown.place
  refine ⟨call, world, between, world, evaluated, shows, ?_⟩
  rcases place with _ | _ | place
  · cases valued
    cases admits
  · cases stands
    exact ran
  · cases stands

end Session

end Parley
