/-
This file says what a host sees of a session: the outcomes of its pulls, one
after the other, each with the world as the pull leaves it. Between two pulls the
host reacts: it may answer the latest offer, write variables, change its own state
and set the stop flag.

A course of pulls is read in two ways. Of a session, it is what the host gets from
`Session.pull` and `Session.choose`. Of a traversal, the answers are handed over
directly. The two agree, since the latest offer of a session is always the one its
traversal waits at.
-/

import Parley.Engine.Session
import Parley.Proofs.Act

namespace Parley

variable {Host : Type}

/-! ### Hosts -/

/-- What a host does between two pulls: its answer to the latest offer, if it gives one, and what it
does to the variables, to its own state and to the stop flag. -/
structure Reaction (Host : Type) where
  answer : Option Nat := none
  store : Store → Store := id
  host : Host → Host := id
  stopping : Bool → Bool := id

/-- The world after a reaction. -/
def Reaction.apply (reaction : Reaction Host) (world : World Host) : World Host :=
  { world with
    store := reaction.store world.store
    host := reaction.host world.host
    stopping := reaction.stopping world.stopping }

/-- What a pull comes to, and the world it leaves: a result, the end, or a fault. -/
abbrev Outcome (Host : Type) := Except Fault (Option Result) × World Host

/-- The outcomes of the pulls after the end: one for each reaction, and none has a result. -/
def idle : List (Reaction Host) → World Host → List (Outcome Host)
  | [], _ => []
  | reaction :: rest, world =>
    (.ok none, reaction.apply world) :: idle rest (reaction.apply world)

/-! ### Answers -/

/-- Offers after an answer to the latest of them; an answer that is refused changes nothing. -/
def Offer.answered (offers : List Offer) : Option Nat → List Offer
  | none => offers
  | some index =>
    match Offer.chooseIn offers (offers.length - 1) (.int index) with
    | .ok answered => answered
    | .error _ => offers

/-- An answer to an open offer counts if it is the number of a reply. -/
theorem Offer.latest?_answered (earlier : List Offer) (count : Nat) (answer : Option Nat) :
    Offer.latest? (Offer.answered (earlier ++ [{ count := count }]) answer) =
      answer.filter (· < count) := by
  cases answer with
  | none => simp [Offer.answered, Offer.latest?]
  | some index =>
    by_cases valid : index < count
    · simp [Offer.answered, Offer.chooseIn, Offer.choose, Offer.index?, Offer.latest?, valid,
        Option.filter, bind, Except.bind, pure, Except.pure]
    · simp [Offer.answered, Offer.chooseIn, Offer.choose, Offer.index?, Offer.latest?, valid,
        Option.filter, bind, Except.bind]

/-! ### Courses of sessions -/

namespace Session

/-- Answers the latest offer; an answer that is refused changes nothing. -/
def respond (session : Session) : Option Nat → Session
  | none => session
  | some index =>
    match session.choose (session.offers.length - 1) (.int index) with
    | .ok answered => answered
    | .error _ => session

theorem respond_eq (session : Session) (answer : Option Nat) :
    session.respond answer = { session with offers := Offer.answered session.offers answer } := by
  cases answer with
  | none => rfl
  | some index =>
    simp only [respond, choose, Offer.answered]
    cases Offer.chooseIn session.offers (session.offers.length - 1) (.int index) <;> rfl

/-- The outcomes of a first pull and of one more after each reaction. -/
def course (call : Text → List Value → Act Host Value) :
    List (Reaction Host) → Session → World Host → List (Outcome Host)
  | [], session, world =>
    let (outcome, _, world) := session.pull call world
    [(outcome, world)]
  | reaction :: rest, session, world =>
    let (outcome, session, world) := session.pull call world
    (outcome, world) ::
      course call rest (session.respond reaction.answer) (reaction.apply world)

end Session

/-! ### Courses of traversals -/

namespace Engine

variable (call : Text → List Value → Act Host Value)

/-- The outcomes of a pull that `act` carries out, and of one more after each reaction. -/
def course : List (Reaction Host) → Act Host (Option (Result × Traversal)) → World Host →
    List (Outcome Host)
  | reactions, act, world =>
    match act world with
    | .error fault world => (.error fault, world) :: idle reactions world
    | .ok none world => (.ok none, world) :: idle reactions world
    | .ok (some (result, traversal)) world =>
      (.ok (some result), world) ::
        match reactions with
        | [] => []
        | reaction :: rest =>
          course rest (pull call reaction.answer traversal) (reaction.apply world)

theorem course_ended (reactions : List (Reaction Host)) (chosen : Option Nat)
    (world : World Host) :
    course call reactions (pull call chosen .ended) world =
      (.ok none, world) :: idle reactions world := by
  cases reactions <;> rfl

end Engine

/-! ### What a result leaves -/

/-- A traversal as it stands behind a result: after an offer it waits for a choice among the replies
that were offered, after the last result it is over. -/
def Traversal.Follows (traversal : Traversal) (result : Result) : Prop :=
  match traversal with
  | .fresh _ => False
  | .within _ _ => ∃ text, result = .event (.line text) ∨ result = .event (.command text)
  | .offered _ replies _ => result = .event (.options (replies.map Reply.text))
  | .ended => ∃ next, result = .complete next

theorem Traversal.Follows.ne_ended {traversal : Traversal} {result : Result}
    (follows : traversal.Follows result) (ongoing : ∀ next, result ≠ .complete next) :
    traversal ≠ .ended := by
  rintro rfl
  obtain ⟨next, complete⟩ := follows
  exact ongoing next complete

namespace Engine

variable (call : Text → List Value → Act Host Value)

theorem follows_finish {name : Text} {next : Option Text} {world final : World Host}
    {result : Result} {traversal : Traversal}
    (done : finish name next world = .ok (result, traversal) final) :
    traversal.Follows result := by
  cases done
  exact ⟨next, rfl⟩

theorem follows_advance {name : Text} {statements : List Statement} {world final : World Host}
    {result : Result} {traversal : Traversal}
    (done : advance call name statements world = .ok (result, traversal) final) :
    traversal.Follows result := by
  induction statements using advance.induct generalizing world with
  | case1 =>
    rw [advance] at done
    exact follows_finish done
  | case2 text rest =>
    rw [advance] at done
    cases done
    exact ⟨text, .inl rfl⟩
  | case3 text rest =>
    rw [advance] at done
    cases done
    exact ⟨text, .inr rfl⟩
  | case4 expression rest ih =>
    rw [advance] at done
    obtain ⟨_, _, _, done⟩ := bind_eq_ok done
    exact ih done
  | case5 target expression rest ih =>
    rw [advance] at done
    obtain ⟨_, _, _, done⟩ := bind_eq_ok done
    exact ih done
  | case6 otherwise rest ih =>
    rw [advance] at done
    exact ih done
  | case7 condition body clauses otherwise rest inBody inOthers =>
    rw [advance] at done
    obtain ⟨value, _, _, done⟩ := bind_eq_ok done
    split at done
    · exact inBody done
    · exact inOthers done
  | case8 replies rest ih =>
    rw [advance] at done
    obtain ⟨offers, _, _, done⟩ := bind_eq_ok done
    split at done
    · exact ih done
    · cases done
      rfl
  | case9 target tail =>
    rw [advance] at done
    exact follows_finish done
  | case10 tail =>
    rw [advance] at done
    cases done

/-- Where a pull comes to something, the traversal is over, or statements of a node were run. -/
theorem pull_eq_ok {chosen : Option Nat} {traversal : Traversal} {world final : World Host}
    {pulled : Option (Result × Traversal)}
    (done : pull call chosen traversal world = .ok pulled final) :
    traversal = .ended ∧ pulled = none ∨
      ∃ name statements between answer, pulled = some answer ∧
        advance call name statements between = .ok answer final := by
  have running {name : Text} {statements : List Statement} {world : World Host}
      (done : (do let result ← advance call name statements; return some result : Act Host _)
        world = .ok pulled final) :
      ∃ name statements between answer, pulled = some answer ∧
        advance call name statements between = .ok answer final := by
    obtain ⟨answer, between, advanced, returned⟩ := bind_eq_ok done
    cases returned
    exact ⟨name, statements, world, answer, rfl, advanced⟩
  cases traversal with
  | fresh node =>
    obtain ⟨_, _, _, done⟩ := bind_eq_ok done
    exact .inr (running done)
  | within name rest => exact .inr (running done)
  | offered name replies rest =>
    cases chosen with
    | none => cases done
    | some index =>
      simp only [pull] at done
      cases reply : replies[index]? with
      | none =>
        rw [reply] at done
        cases done
      | some reply =>
        simp only [reply] at done
        obtain ⟨_, _, _, done⟩ := bind_eq_ok done
        exact .inr (running done)
  | ended =>
    cases done
    exact .inl ⟨rfl, rfl⟩

theorem follows_pull {chosen : Option Nat} {before traversal : Traversal}
    {world final : World Host} {result : Result}
    (done : pull call chosen before world = .ok (some (result, traversal)) final) :
    traversal.Follows result := by
  obtain ⟨-, nothing⟩ | ⟨name, statements, between, answer, something, advanced⟩ :=
    pull_eq_ok call done
  · cases nothing
  · cases something
    exact follows_advance call advanced

/-- Only a traversal that is over has no result. -/
theorem pull_eq_none {chosen : Option Nat} {traversal : Traversal} {world final : World Host}
    (done : pull call chosen traversal world = .ok none final) : traversal = .ended := by
  obtain ⟨ended, -⟩ | ⟨_, _, _, _, something, _⟩ := pull_eq_ok call done
  · exact ended
  · cases something

/-- Behind a result only the choice among the replies that it offered is looked at, and only if it
is the number of one. -/
theorem pull_answered {result : Event} {traversal : Traversal} (offers : List Offer)
    (follows : traversal.Follows (.event result)) (answer : Option Nat) :
    pull call
        (Offer.latest? (Offer.answered (Session.offersAfter offers result) answer)) traversal =
      pull call answer traversal := by
  cases traversal with
  | fresh node => exact follows.elim
  | within name rest => rfl
  | ended => rfl
  | offered name replies rest =>
    obtain rfl : result = .options (replies.map Reply.text) := Result.event.inj follows
    rw [Session.offersAfter, Offer.latest?_answered, List.length_map]
    cases answer with
    | none => rfl
    | some index =>
      by_cases valid : index < replies.length
      · simp [Option.filter, valid]
      · simp [Option.filter, valid, pull]

end Engine

/-! ### The two courses agree -/

/-- The outcomes of a session are those of its traversal. -/
theorem Session.course_eq (call : Text → List Value → Act Host Value)
    (reactions : List (Reaction Host)) (session : Session) (chosen : Option Nat)
    (world : World Host)
    (same : Engine.pull call (Offer.latest? session.offers) session.traversal =
      Engine.pull call chosen session.traversal) :
    session.course call reactions world =
      Engine.course call reactions (Engine.pull call chosen session.traversal) world := by
  -- After a pull the traversal of the session is the one that the pull left, and the answer to what
  -- the pull offered is read by the next pull alone.
  induction reactions generalizing session chosen world with
  | nil =>
    rw [course, pull, Engine.course, same]
    cases Engine.pull call chosen session.traversal world with
    | error fault world => rfl
    | ok pulled world =>
      match pulled with
      | none => rfl
      | some (.event event, traversal) => rfl
      | some (.complete next, traversal) => rfl
  | cons reaction rest ih =>
    have resting (session : Session) (world : World Host) (ended : session.traversal = .ended) :
        session.course call rest world = (.ok none, world) :: idle rest world := by
      rw [ih session none world (by rw [ended]; rfl), ended, Engine.course_ended]
    rw [course, pull, Engine.course, same]
    cases pulled : Engine.pull call chosen session.traversal world with
    | error fault world =>
      exact congrArg (List.cons _) (resting _ _ (by rw [respond_eq]; rfl))
    | ok found world =>
      match found with
      | none => exact congrArg (List.cons _) (resting _ _ (by rw [respond_eq]; rfl))
      | some (.event event, traversal) =>
        refine congrArg (List.cons _) ?_
        rw [respond_eq]
        exact ih _ reaction.answer _
          (Engine.pull_answered call session.offers (Engine.follows_pull call pulled)
            reaction.answer)
      | some (.complete next, traversal) =>
        have ended : traversal = .ended := by
          have follows := Engine.follows_pull call pulled
          cases traversal with
          | ended => rfl
          | _ => simp [Traversal.Follows] at follows
        subst ended
        refine congrArg (List.cons _) ((resting _ _ ?_).trans (Engine.course_ended call _ _ _).symm)
        rw [respond_eq]

end Parley
