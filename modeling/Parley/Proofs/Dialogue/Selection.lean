/-
This file follows an offer of a run for as long as the host keeps it. The host may make
attempts at it before and behind any pull, of this run or another, when the run has failed
and when it is over. The first valid attempt is accepted and all others are refused; what
is accepted is looked at once, by the pull that finds the run at the offer.

An attempt that names no reply is refused with a listing of what it gives. Where that holds
an integer of too many digits there is no such listing, and the attempt fails at this, with
a fault that is none of the dialogue's.

Behind that pull the offer is an earlier one, and runs that differ in earlier offers only
cannot be told apart: a pull reads the latest offer, and only while the run waits at it.
-/

import Parley.Proofs.Dialogue.Termination
import Parley.Proofs.Offer

namespace Parley

variable {Host : Type}

/-! ### Offers and moves -/

namespace Move

/-- The attempt that a move makes, if it makes one. -/
def attempt? : Move Host → Option Attempt
  | choose place index => some ⟨place, index⟩
  | _ => none

/-- A move leaves a run where it waits. -/
def Lingers : Move Host → Prop
  | pull _ | close => False
  | _ => True

/-- A move takes a run on from where it waits: it is a pull that comes back, or gives the run up. -/
def TakesOn (run : Run) (dialogue : Dialogue Host) : Move Host → Prop
  | pull budget => (Dialogue.pull budget run dialogue).1 ≠ .ok .unfinished
  | close => True
  | _ => False

theorem after_choose (run : Run) (dialogue : Dialogue Host) (place : Nat) (index : Literal) :
    (choose place index).after run dialogue =
      ({ run with offers := Attempt.after run.offers ⟨place, index⟩ }, dialogue) := by
  rw [after, Run.choose, Attempt.after]
  cases Offer.chooseIn run.offers place index <;> rfl

end Move

namespace Dialogue

/-- A pull leaves a run at an event, over, or as it was. -/
theorem pull_cases (budget : Nat) (run : Run) (dialogue : Dialogue Host) :
    (∃ event node traversal, (pull budget run dialogue).2.1 =
        ⟨.inside node traversal, Session.offersAfter run.offers event⟩ ∧
      traversal.Follows (.event event)) ∨
    (pull budget run dialogue).2.1 = { run with stage := .ended } ∨
    (pull budget run dialogue).1 = .ok .unfinished ∧ (pull budget run dialogue).2.1 = run := by
  have pulled := pull_eq budget run dialogue
  generalize guarded (resume budget (Offer.latest? run.offers) run.stage) dialogue = outcome
    at pulled
  match outcome with
  | .ok (.event event node traversal) after =>
    obtain ⟨_, _, same, follows⟩ := pull_eq_event pulled
    cases same
    exact .inl ⟨event, node, traversal, by rw [pulled]; rfl, follows⟩
  | .ok .ended after => exact .inr (.inl (by rw [pulled]; rfl))
  | .ok .unfinished after => exact .inr (.inr (by rw [pulled]; exact ⟨rfl, rfl⟩))
  | .error fault after => exact .inr (.inl (by rw [pulled]; rfl))

/-- A pull takes no offer back. -/
theorem offers_pull (budget : Nat) (run : Run) (dialogue : Dialogue Host) :
    ∃ more, (pull budget run dialogue).2.1.offers = run.offers ++ more := by
  obtain ⟨event, node, traversal, left, -⟩ | left | ⟨-, left⟩ := pull_cases budget run dialogue
  · rw [left]
    cases event with
    | options texts => exact ⟨[{ count := texts.length }], rfl⟩
    | line text => exact ⟨[], (List.append_nil _).symm⟩
    | command text => exact ⟨[], (List.append_nil _).symm⟩
  · exact ⟨[], by rw [left, List.append_nil]⟩
  · exact ⟨[], by rw [left, List.append_nil]⟩

theorem offers_close (run : Run) (dialogue : Dialogue Host) :
    (close run dialogue).1.offers = run.offers := by
  rw [close.eq_def]
  cases run.stage <;> rfl

end Dialogue

namespace Move

theorem getElem?_after {run : Run} {place : Nat} {offer : Offer}
    (there : run.offers[place]? = some offer) (move : Move Host) (dialogue : Dialogue Host) :
    (move.after run dialogue).1.offers[place]? =
      some { offer with
        chosen := offer.chosen.or (Attempt.accepted? place offer.count move.attempt?.toList) } := by
  have untouched : some offer = some { offer with chosen := offer.chosen.or none } := by
    rw [Option.or_none]
  cases move with
  | other deed => exact there.trans untouched
  | choose spot index =>
    rw [after_choose]
    exact Attempt.getElem?_attempts there [⟨spot, index⟩]
  | pull budget =>
    obtain ⟨more, same⟩ := Dialogue.offers_pull budget run dialogue
    obtain ⟨within, -⟩ := List.getElem?_eq_some_iff.1 there
    rw [after, same, List.getElem?_append_left within]
    exact there.trans untouched
  | close =>
    rw [after, Dialogue.offers_close]
    exact there.trans untouched

/-- Behind any moves the first valid of the attempts at an offer counts. -/
theorem getElem?_behind {run : Run} {place : Nat} {offer : Offer}
    (there : run.offers[place]? = some offer) (moves : List (Move Host))
    (dialogue : Dialogue Host) :
    (behind moves run dialogue).1.offers[place]? =
      some { offer with
        chosen := offer.chosen.or
          (Attempt.accepted? place offer.count (moves.filterMap attempt?)) } := by
  induction moves generalizing run dialogue offer with
  | nil =>
    rw [behind, List.filterMap_nil, Attempt.accepted?, List.findSome?_nil, Option.or_none]
    exact there
  | cons move rest ih =>
    have split : (move :: rest).filterMap attempt? =
        move.attempt?.toList ++ rest.filterMap attempt? := by
      rw [List.filterMap_cons]
      cases move.attempt? <;> rfl
    rw [behind, ih (getElem?_after there move dialogue), Option.or_assoc, split,
      Attempt.accepted?_append]

end Move

/-! ### The offer that a run waits at -/

/-- A run stands at an offer. -/
def Stage.Asks : Stage → Prop
  | .inside _ (.offered _ _ _) => True
  | _ => False

/-- A run waits at the offer of a place, which is its latest. -/
def Run.Awaits (run : Run) (place : Nat) : Prop :=
  run.stage.Asks ∧ place + 1 = run.offers.length

/-- An offer of a run was made, and the run waits at it no more. -/
structure Run.Past (place : Nat) (run : Run) : Prop where
  made : place < run.offers.length
  elsewhere : ¬ run.Awaits place

/-- Two runs that differ in their offers, though not in the one at which they wait. -/
structure Run.Level (one other : Run) : Prop where
  stage : one.stage = other.stage
  length : one.offers.length = other.offers.length
  latest : one.stage.Asks → one.offers.getLast? = other.offers.getLast?

theorem Traversal.Follows.asks {traversal : Traversal} {event : Event} {node : Node}
    (follows : traversal.Follows (.event event)) (asks : Stage.Asks (.inside node traversal)) :
    ∃ texts, event = .options texts := by
  cases traversal with
  | offered name replies rest => exact ⟨_, Result.event.inj follows⟩
  | _ => exact asks.elim

namespace Dialogue

/-- Behind a pull that comes back a run waits at no offer that was made before. -/
theorem past_pull {budget place : Nat} {run : Run} {dialogue : Dialogue Host}
    (made : place < run.offers.length)
    (elsewhere : (pull budget run dialogue).1 = .ok .unfinished → ¬ run.Awaits place) :
    (pull budget run dialogue).2.1.Past place := by
  obtain ⟨more, offers⟩ := offers_pull budget run dialogue
  refine ⟨by rw [offers, List.length_append]; omega, ?_⟩
  obtain ⟨event, node, traversal, left, follows⟩ | left | ⟨unfinished, left⟩ :=
    pull_cases budget run dialogue
  · rw [left]
    rintro ⟨asks, latest⟩
    obtain ⟨texts, rfl⟩ := follows.asks asks
    have longer : place + 1 = run.offers.length + 1 := latest.trans List.length_append
    omega
  · rw [left]
    exact fun awaits => awaits.1
  · rw [left]
    exact elsewhere unfinished

end Dialogue

namespace Move

/-- A run that is taken on leaves the offers that it has made behind. -/
theorem past_of_takesOn {place : Nat} {run : Run} {dialogue : Dialogue Host} {move : Move Host}
    (made : place < run.offers.length) (takesOn : move.TakesOn run dialogue) :
    (move.after run dialogue).1.Past place := by
  cases move with
  | pull budget => exact Dialogue.past_pull made fun unfinished => absurd unfinished takesOn
  | close =>
    refine ⟨by rw [after, Dialogue.offers_close]; exact made, fun awaits => ?_⟩
    have asks := awaits.1
    rw [after, Dialogue.stage_close] at asks
    exact asks
  | other deed => exact takesOn.elim
  | choose spot index => exact takesOn.elim

/-- An offer that a run has left behind stays behind it. -/
theorem past_after {place : Nat} {run : Run} (past : run.Past place) (move : Move Host)
    (dialogue : Dialogue Host) : (move.after run dialogue).1.Past place := by
  cases move with
  | pull budget => exact Dialogue.past_pull past.made fun _ => past.elsewhere
  | close =>
    have takesOn : (close : Move Host).TakesOn run dialogue := trivial
    exact past_of_takesOn past.made takesOn
  | other deed => exact past
  | choose spot index =>
    rw [after_choose]
    have same : (Attempt.after run.offers ⟨spot, index⟩).length = run.offers.length :=
      Attempt.length_after _ _
    exact ⟨past.made.trans_eq same.symm, fun awaits =>
      past.elsewhere ⟨awaits.1, awaits.2.trans same⟩⟩

theorem past_behind {place : Nat} {run : Run} (past : run.Past place) (moves : List (Move Host))
    (dialogue : Dialogue Host) : (behind moves run dialogue).1.Past place := by
  induction moves generalizing run dialogue with
  | nil => exact past
  | cons move rest ih => exact ih (past_after past move dialogue) _

end Move

/-! ### Runs that differ in earlier offers -/

/-- Only a run that stands at an offer looks at the choice. -/
theorem Dialogue.resume_of_silent (budget : Nat) (one other : Option Nat) {stage : Stage}
    (silent : ¬ stage.Asks) :
    (resume budget one stage : Operation Host Pulled) = resume budget other stage := by
  match stage with
  | .unstarted start => rfl
  | .ended => rfl
  | .inside node (.fresh _) => rfl
  | .inside node (.within _ _) => rfl
  | .inside node (.offered _ _ _) => exact absurd trivial silent
  | .inside node .ended => rfl

namespace Attempt

/-- An attempt at an earlier offer leaves the latest as it is. -/
theorem getLast?_after_other {offers : List Offer} {attempt : Attempt}
    (other : attempt.place + 1 ≠ offers.length) :
    (attempt.after offers).getLast? = offers.getLast? := by
  rw [after_eq]
  split
  · next offer there =>
    have within := (List.getElem?_eq_some_iff.1 there).1
    rw [List.getLast?_eq_getElem?, List.getLast?_eq_getElem?, List.length_set,
      List.getElem?_set_ne (by omega)]
  · rfl

/-- What an attempt makes of the latest offer depends on this offer alone. -/
theorem getLast?_after_congr {one other : List Offer} (length : one.length = other.length)
    (latest : one.getLast? = other.getLast?) (attempt : Attempt) :
    (attempt.after one).getLast? = (attempt.after other).getLast? := by
  rw [List.getLast?_eq_getElem?, List.getLast?_eq_getElem?, ← length] at latest
  rw [List.getLast?_eq_getElem?, List.getLast?_eq_getElem?, length_after, length_after, ← length]
  cases there : one[one.length - 1]? with
  | none =>
    have empty := List.getElem?_eq_none_iff.1 there
    rw [List.getElem?_eq_none (by rw [length_after]; exact empty),
      List.getElem?_eq_none (by rw [length_after, ← length]; exact empty)]
  | some offer => rw [getElem?_after there, getElem?_after (latest.symm.trans there)]

end Attempt

namespace Run.Level

variable {one other : Run}

theorem refl (run : Run) : run.Level run := ⟨rfl, rfl, fun _ => rfl⟩

/-- Runs that are over are level if they have made as many offers. -/
theorem ended (length : one.offers.length = other.offers.length) :
    Run.Level { one with stage := .ended } { other with stage := .ended } :=
  ⟨rfl, length, fun asks => asks.elim⟩

theorem resume (level : one.Level other) (budget : Nat) :
    (Dialogue.resume budget (Offer.latest? one.offers) one.stage : Operation Host Pulled) =
      Dialogue.resume budget (Offer.latest? other.offers) other.stage := by
  rw [← level.stage]
  by_cases asks : one.stage.Asks
  · rw [Offer.latest?, Offer.latest?, level.latest asks]
  · exact Dialogue.resume_of_silent budget _ _ asks

theorem event (level : one.Level other) {node : Node} {traversal : Traversal} {event : Event}
    (follows : traversal.Follows (.event event)) :
    Run.Level ⟨.inside node traversal, Session.offersAfter one.offers event⟩
      ⟨.inside node traversal, Session.offersAfter other.offers event⟩ := by
  refine ⟨rfl, ?_, fun asks => ?_⟩
  · cases event with
    | options texts =>
      show (one.offers ++ [_]).length = (other.offers ++ [_]).length
      rw [List.length_append, List.length_append, level.length]
    | _ => exact level.length
  · obtain ⟨texts, rfl⟩ := follows.asks asks
    show (one.offers ++ [_]).getLast? = (other.offers ++ [_]).getLast?
    rw [List.getLast?_concat, List.getLast?_concat]

/-- Level runs cannot be told apart by a pull. -/
theorem pull (level : one.Level other) (budget : Nat) (dialogue : Dialogue Host) :
    (Dialogue.pull budget one dialogue).1 = (Dialogue.pull budget other dialogue).1 ∧
      (Dialogue.pull budget one dialogue).2.2 = (Dialogue.pull budget other dialogue).2.2 ∧
      Run.Level (Dialogue.pull budget one dialogue).2.1
        (Dialogue.pull budget other dialogue).2.1 := by
  have pulled := Dialogue.pull_eq budget one dialogue
  have pulled' := Dialogue.pull_eq budget other dialogue
  rw [← level.resume budget] at pulled'
  generalize Dialogue.guarded (Dialogue.resume budget (Offer.latest? one.offers) one.stage)
    dialogue = outcome at pulled pulled'
  rw [pulled, pulled']
  refine ⟨rfl, rfl, ?_⟩
  match outcome with
  | .ok (.event event node traversal) after =>
    obtain ⟨_, _, same, follows⟩ := Dialogue.pull_eq_event pulled
    cases same
    exact level.event follows
  | .ok .unfinished _ => exact level
  | .ok .ended _ => exact .ended level.length
  | .error fault _ => exact .ended level.length

/-- Level runs cannot be told apart by a move. -/
theorem after (level : one.Level other) (move : Move Host) (dialogue : Dialogue Host) :
    move.yield? one dialogue = move.yield? other dialogue ∧
      (move.after one dialogue).2 = (move.after other dialogue).2 ∧
      Run.Level (move.after one dialogue).1 (move.after other dialogue).1 := by
  cases move with
  | other deed => exact ⟨rfl, rfl, level⟩
  | choose place index =>
    rw [Move.after_choose, Move.after_choose]
    refine ⟨rfl, rfl, level.stage, ?_, fun asks => ?_⟩
    · exact (Attempt.length_after _ _).trans
        (level.length.trans (Attempt.length_after _ _).symm)
    · exact Attempt.getLast?_after_congr level.length (level.latest asks) _
  | pull budget =>
    obtain ⟨yield, left, level⟩ := level.pull budget dialogue
    exact ⟨congrArg some yield, left, level⟩
  | close =>
    obtain ⟨stage, offers⟩ := one
    obtain ⟨stage', offers'⟩ := other
    obtain rfl : stage = stage' := level.stage
    refine ⟨rfl, ?_, ?_⟩
    · cases stage <;> rfl
    · cases stage <;> exact .ended level.length

/-- Level runs cannot be told apart by any moves. -/
theorem behind (level : one.Level other) (moves : List (Move Host)) (dialogue : Dialogue Host) :
    Move.yields moves one dialogue = Move.yields moves other dialogue ∧
      (Move.behind moves one dialogue).2 = (Move.behind moves other dialogue).2 ∧
      Run.Level (Move.behind moves one dialogue).1 (Move.behind moves other dialogue).1 := by
  induction moves generalizing one other dialogue with
  | nil => exact ⟨rfl, rfl, level⟩
  | cons move rest ih =>
    obtain ⟨yield, left, onward⟩ := level.after move dialogue
    rw [Move.yields, Move.yields, Move.behind, Move.behind, yield, left]
    obtain ⟨yields, behind, level⟩ := ih onward (move.after other dialogue).2
    exact ⟨by rw [yields], behind, level⟩

end Run.Level

/-- An attempt at an offer that a run does not wait at leaves the run level. -/
theorem Run.level_attempt {run : Run} {place : Nat} (elsewhere : ¬ run.Awaits place)
    (index : Literal) :
    Run.Level { run with offers := Attempt.after run.offers ⟨place, index⟩ } run where
  stage := rfl
  length := Attempt.length_after _ _
  latest asks := Attempt.getLast?_after_other fun latest => elsewhere ⟨asks, latest⟩

/-! ### The pull that finds a run at an offer -/

/-- The world when it has been noted in a body which reply was chosen. -/
def World.decided (running : Text) (index : Nat) (world : World Host) : World Host :=
  { ({ world with executing := some running } : World Host).note (.optionChosen index) with
    executing := world.executing }

namespace Dialogue

/-- Two pulls come to the same, and leave runs that are the same if they come back. -/
structure SamePull (one other : Except Fault Yield × Run × Dialogue Host) : Prop where
  yield : one.1 = other.1
  dialogue : one.2.2 = other.2.2
  run : one.1 ≠ .ok .unfinished → one.2.1 = other.2.1

/-- Where a reply was chosen, a run goes on as if the body of the reply stood in place of the
choice. -/
theorem resume_chosen (budget : Nat) (node : Node) (name : Text)
    {replies : List (Reply Statement)} {rest : List Statement} {index : Nat}
    {reply : Reply Statement} (found : replies[index]? = some reply) (dialogue : Dialogue Host) :
    resume budget (some index) (.inside node (.offered name replies rest)) dialogue =
      resume budget (some index) (.inside node (.within name (reply.body ++ rest)))
        (dialogue.changeWorld (World.decided node.name index)) := by
  have same (world : World Host) :
      (Engine.pull (dialogue.shelf.call home) (some index) (.offered name replies rest)).during
          node.name world =
        (Engine.pull (dialogue.shelf.call home) (some index)
          (.within name (reply.body ++ rest))).during node.name
            (world.decided node.name index) := by
    unfold Act.during
    simp only [Engine.pull, found]
    rfl
  rw [resume_inside, resume_inside, proceed_apply, proceed_apply]
  dsimp only
  rw [same]
  rfl

theorem pull_chosen (budget : Nat) {run : Run} {node : Node} {name : Text}
    {replies : List (Reply Statement)} {rest : List Statement} {index : Nat}
    {reply : Reply Statement} (waits : run.stage = .inside node (.offered name replies rest))
    (chosen : Offer.latest? run.offers = some index) (found : replies[index]? = some reply)
    (dialogue : Dialogue Host) :
    SamePull (pull budget run dialogue)
      (pull budget { run with stage := .inside node (.within name (reply.body ++ rest)) }
        (dialogue.changeWorld (World.decided node.name index))) := by
  have pulled := pull_eq budget run dialogue
  have pulled' := pull_eq budget
    { run with stage := .inside node (.within name (reply.body ++ rest)) }
    (dialogue.changeWorld (World.decided node.name index))
  have same : guarded (resume budget (Offer.latest? run.offers) run.stage) dialogue =
      guarded (resume budget (Offer.latest? run.offers)
        (.inside node (.within name (reply.body ++ rest))))
        (dialogue.changeWorld (World.decided node.name index)) := by
    unfold guarded
    rw [waits, chosen, resume_chosen budget node name found]
  rw [same] at pulled
  dsimp only at pulled'
  generalize guarded (resume budget (Offer.latest? run.offers)
    (.inside node (.within name (reply.body ++ rest))))
    (dialogue.changeWorld (World.decided node.name index)) = outcome at pulled pulled'
  rw [pulled, pulled']
  refine ⟨rfl, rfl, fun finished => ?_⟩
  match outcome with
  | .ok (.event _ _ _) _ => rfl
  | .ok .ended _ => rfl
  | .ok .unfinished _ => exact absurd rfl finished
  | .error _ _ => rfl

theorem pull_unchosen (budget : Nat) {run : Run} {node : Node} {name : Text}
    {replies : List (Reply Statement)} {rest : List Statement}
    (waits : run.stage = .inside node (.offered name replies rest))
    (unchosen : Offer.latest? run.offers = none) (dialogue : Dialogue Host) :
    pull budget run dialogue = (.error .notChosen, { run with stage := .ended },
      ended .aborted { dialogue with phase := .running }) := by
  rw [pull_eq, waits, unchosen]
  rfl

end Dialogue

/-! ### An offer from beginning to end -/

/-- How an index that is the number of none of so many replies is refused: as out of range, if it can
be listed, and otherwise with a fault that a host which guards itself against dialogues does not
catch. -/
structure Fault.Refuses (index : Literal) (count : Nat) (fault : Fault) : Prop where
  listed : index.isListable = true → fault.ofDialogue = true ∧
    fault.message = "Option index " ++ index.listed ++ " is out of range for " ++ toString count
      ++ " option(s)"
  unlistable : index.isListable = false →
    fault.ofDialogue = false ∧ fault.message = Fault.unlistable

theorem Fault.refuses_outOfRange (index : Literal) (count : Nat) :
    (outOfRange index count).Refuses index count where
  listed listable := by
    rw [ofDialogue, message, listable]
    exact ⟨rfl, rfl⟩
  unlistable unlistable := by
    rw [ofDialogue, message, unlistable]
    exact ⟨rfl, rfl⟩

namespace Run

/-- An offer of a run that holds so many replies answers an attempt by what was accepted before. -/
structure Answers (place count : Nat) (accepted : Option Nat) (run : Run) : Prop where
  /-- The first attempt at the number of a reply is accepted, -/
  first : ∀ chosen : Nat, accepted = none → chosen < count →
    ∃ answered, run.choose place (.int chosen) = .ok answered
  /-- every attempt before it is out of range, or fails where that is to be said, -/
  outside : ∀ index, accepted = none → (∀ chosen : Nat, chosen < count → index ≠ .int chosen) →
    run.choose place index = .error (.outOfRange index count) ∧
      (Fault.outOfRange index count).Refuses index count
  /-- and every attempt behind it comes too late. -/
  already : ∀ index, accepted ≠ none → run.choose place index = .error .alreadyChosen
  /-- What is refused changes nothing. -/
  refused : ∀ {Host : Type} (dialogue : Dialogue Host) (index fault),
    run.choose place index = .error fault →
      (Move.choose place index).after run dialogue = (run, dialogue)

/-- The next pull of a run that waits at an offer of texts goes the way of what was accepted: into
the body of the reply of that number, or nowhere. -/
def Branches (texts : List Text) (accepted : Option Nat) (run : Run) (dialogue : Dialogue Host) :
    Prop :=
  ∃ node name replies rest, run.stage = .inside node (.offered name replies rest) ∧
    texts = replies.map Reply.text ∧ ∀ budget,
      match accepted with
      | none => Dialogue.pull budget run dialogue =
          (.error .notChosen, { run with stage := .ended },
            Dialogue.ended .aborted { dialogue with phase := .running })
      | some index => ∃ reply, replies[index]? = some reply ∧
          Dialogue.SamePull (Dialogue.pull budget run dialogue)
            (Dialogue.pull budget
              { run with stage := .inside node (.within name (reply.body ++ rest)) }
              (dialogue.changeWorld (World.decided node.name index)))

/-- No attempt at the offer of a place shows in the dialogue, in anything that the run yields later
or in where it stands. -/
def Ignores (place : Nat) (run : Run) (dialogue : Dialogue Host) : Prop :=
  ∀ (index : Literal) (later : List (Move Host)),
    let late := (Move.choose place index).after run dialogue
    late.2 = dialogue ∧
      Move.yields later late.1 late.2 = Move.yields later run dialogue ∧
      (Move.behind later late.1 late.2).2 = (Move.behind later run dialogue).2 ∧
      (Move.behind later late.1 late.2).1.stage = (Move.behind later run dialogue).1.stage

theorem choose_eq {run : Run} {place : Nat} {offer : Offer}
    (there : run.offers[place]? = some offer) (index : Literal) :
    run.choose place index =
      match offer.refusal? index with
      | some fault => .error fault
      | none => .ok { run with offers := run.offers.set place (offer.attempted index) } := by
  rw [choose, Offer.chooseIn, there]
  dsimp only
  rw [Offer.choose_eq]
  cases offer.refusal? index <;> rfl

theorem answers_of_offer {run : Run} {place count : Nat} {accepted : Option Nat}
    (there : run.offers[place]? = some ⟨count, accepted⟩) : run.Answers place count accepted where
  first := by
    rintro chosen rfl within
    have named := Offer.index?_eq_some_iff.2 ⟨(rfl : Literal.int chosen = _), within⟩
    rw [choose_eq there, Offer.refusal?, named]
    exact ⟨_, rfl⟩
  outside := by
    rintro index rfl foreign
    have unnamed : Offer.index? count index = none := by
      refine Option.eq_none_iff_forall_ne_some.2 fun chosen named => ?_
      obtain ⟨same, within⟩ := Offer.index?_eq_some_iff.1 named
      exact foreign chosen within same
    refine ⟨?_, Fault.refuses_outOfRange index count⟩
    rw [choose_eq there, Offer.refusal?, unnamed]
  already index found := by
    obtain ⟨chosen, rfl⟩ := Option.ne_none_iff_exists'.1 found
    rw [choose_eq there, Offer.refusal?]
  refused dialogue index fault failed := by
    rw [Move.after, failed]

theorem branches_of_offer {run : Run} {node : Node} {traversal : Traversal} {texts : List Text}
    {accepted : Option Nat} (waits : run.stage = .inside node traversal)
    (follows : traversal.Follows (.event (.options texts)))
    (latest : Offer.latest? run.offers = accepted)
    (within : ∀ index, accepted = some index → index < texts.length)
    (dialogue : Dialogue Host) : run.Branches texts accepted dialogue := by
  cases traversal with
  | fresh fresh => exact follows.elim
  | within name rest =>
    obtain ⟨text, spoken | commanded⟩ := follows
    · cases spoken
    · cases commanded
  | ended =>
    obtain ⟨next, complete⟩ := follows
    cases complete
  | offered name replies rest =>
    obtain rfl : texts = replies.map Reply.text := Event.options.inj (Result.event.inj follows)
    refine ⟨node, name, replies, rest, waits, rfl, fun budget => ?_⟩
    cases accepted with
    | none => exact Dialogue.pull_unchosen budget waits latest dialogue
    | some index =>
      have among : index < replies.length := by simpa using within index rfl
      have found := List.getElem?_eq_getElem among
      exact ⟨_, found, Dialogue.pull_chosen budget waits latest found dialogue⟩

theorem Past.ignores {run : Run} {place : Nat} (past : run.Past place) (dialogue : Dialogue Host) :
    run.Ignores place dialogue := by
  intro index later
  rw [Move.after_choose]
  obtain ⟨yields, left, level⟩ :=
    (level_attempt past.elsewhere index).behind later dialogue
  exact ⟨rfl, yields, left, level.stage⟩

end Run

namespace Move

theorem behind_append (first second : List (Move Host)) (run : Run) (dialogue : Dialogue Host) :
    behind (first ++ second) run dialogue =
      behind second (behind first run dialogue).1 (behind first run dialogue).2 := by
  induction first generalizing run dialogue with
  | nil => rfl
  | cons move rest ih => exact ih _ _

/-- Where no move takes a run on, it stands where it stood and has made no more offers. -/
theorem behind_of_lingers {moves : List (Move Host)} (lingers : ∀ move ∈ moves, move.Lingers)
    (run : Run) (dialogue : Dialogue Host) :
    (behind moves run dialogue).1.stage = run.stage ∧
      (behind moves run dialogue).1.offers.length = run.offers.length := by
  induction moves generalizing run dialogue with
  | nil => exact ⟨rfl, rfl⟩
  | cons move rest ih =>
    have here := lingers move List.mem_cons_self
    obtain ⟨stage, length⟩ := ih (fun other member => lingers other (List.mem_cons_of_mem _ member))
      (move.after run dialogue).1 (move.after run dialogue).2
    rw [behind, stage, length]
    cases move with
    | other deed => exact ⟨rfl, rfl⟩
    | choose place index =>
      rw [after_choose]
      exact ⟨rfl, Attempt.length_after _ _⟩
    | pull budget => exact here.elim
    | close => exact here.elim

end Move

namespace Dialogue

/-- The first valid attempt at an offer counts. Let a run have offered texts, whatever it offered
before, and let the host make any moves from there on: attempts at this offer and at earlier and
later ones, pulls, changes of the dialogue, the end of the run. Then the offer accepts the first
attempt that names a reply, all before it are out of range, or fail where this is to be said of an
integer of too many digits, and all behind it are too late. If the run still waits at the offer, its
next pull goes the way of what was accepted so far. If it has been taken on, or given up, no further
attempt at the offer shows in anything. -/
theorem first_valid_attempt_counts {spent : Nat} {earlier run : Run} {moment left : Dialogue Host}
    {texts : List Text}
    (offered : pull spent earlier moment = (.ok (.event (.options texts)), run, left))
    (moves : List (Move Host)) :
    let place := earlier.offers.length
    let accepted := Attempt.accepted? place texts.length (moves.filterMap Move.attempt?)
    let final := (Move.behind moves run left).1
    let dialogue := (Move.behind moves run left).2
    final.Answers place texts.length accepted ∧
      ((∀ move ∈ moves, move.Lingers) → final.Branches texts accepted dialogue) ∧
      (∀ before move after, moves = before ++ move :: after →
        move.TakesOn (Move.behind before run left).1 (Move.behind before run left).2 →
        final.Ignores place dialogue) := by
  intro place accepted final dialogue
  obtain ⟨node, traversal, made, follows⟩ := pull_eq_event offered
  have fresh : run.offers[place]? = some { count := texts.length } := by
    rw [made]
    exact List.getElem?_concat_length
  have there : final.offers[place]? = some ⟨texts.length, accepted⟩ :=
    Move.getElem?_behind fresh moves left
  refine ⟨Run.answers_of_offer there, fun lingers => ?_, ?_⟩
  · obtain ⟨stage, length⟩ := Move.behind_of_lingers lingers run left
    have waits : final.stage = .inside node traversal := stage.trans (by rw [made])
    have last : final.offers.length = place + 1 :=
      length.trans (by rw [made]; exact List.length_append)
    have latest : Offer.latest? final.offers = accepted := by
      rw [Offer.latest?, List.getLast?_eq_getElem?, last, Nat.add_sub_cancel, there]
      rfl
    exact Run.branches_of_offer waits follows latest (fun _ => Attempt.accepted?_lt) dialogue
  · rintro before move after rfl takesOn
    have made : place < (Move.behind before run left).1.offers.length :=
      (List.getElem?_eq_some_iff.1 (Move.getElem?_behind fresh before left)).1
    have past : final.Past place := by
      unfold final
      rw [Move.behind_append]
      exact Move.past_behind (Move.past_of_takesOn made takesOn) after _
    exact past.ignores dialogue

/-- Two replies. -/
def crossroads : List (Reply Statement) :=
  [⟨"Left.", [.say "A wall."], none⟩, ⟨"Right.", [.say "A door."], none⟩]

/-- A run that waits for the choice of one of them, and its dialogue. -/
def halted : Run × Dialogue Unit :=
  (pull 8 { stage := .unstarted "A" } ((solo [.choice crossroads]).begun "A")).2

/-- Attempts at something that is no number, at a number that no reply has, and at both replies. -/
def hesitation : List (Move Unit) :=
  [.choose 0 (.bool true), .choose 0 (.int 2), .choose 0 (.int 1), .choose 0 (.int 0)]

/-- The run when the attempts have been made, and its dialogue. -/
def resolute : Run × Dialogue Unit := Move.behind hesitation halted.1 halted.2

/-- The attempt at the second reply is accepted, and the next pull runs its body. Behind it a
further attempt shows in nothing. -/
theorem first_valid_attempt_counts_crossroads :
    pull 8 { stage := .unstarted "A" } ((solo [.choice crossroads]).begun "A") =
        (.ok (.event (.options ["Left.", "Right."])), halted.1, halted.2) ∧
      resolute.1.Answers 0 2 (some 1) ∧
      resolute.1.Branches ["Left.", "Right."] (some 1) resolute.2 ∧
      (pull 8 resolute.1 resolute.2).1 = .ok (.event (.line "A door.")) ∧
      (pull 8 resolute.1 resolute.2).2.1.Ignores 0 (pull 8 resolute.1 resolute.2).2.2 := by
  have offered : pull 8 { stage := .unstarted "A" } ((solo [.choice crossroads]).begun "A") =
      (.ok (.event (.options ["Left.", "Right."])), halted.1, halted.2) := by cbv
  have lingers : ∀ move ∈ hesitation, move.Lingers := by simp [hesitation, Move.Lingers]
  have opened : (pull 8 resolute.1 resolute.2).1 = .ok (.event (.line "A door.")) := by cbv
  have comes : (Move.pull 8 : Move Unit).TakesOn resolute.1 resolute.2 := by
    rw [Move.TakesOn, opened]
    rintro ⟨⟩
  obtain ⟨answers, branches, -⟩ := first_valid_attempt_counts offered hesitation
  obtain ⟨-, -, late⟩ := first_valid_attempt_counts offered (hesitation ++ [.pull 8])
  have ignores := late hesitation (.pull 8) [] rfl comes
  rw [Move.behind_append] at ignores
  exact ⟨offered, answers, branches lingers, opened, ignores⟩

/-- An attempt at that offer with a number of too many digits fails, and no host that guards itself
against dialogues catches that. -/
theorem refused_unlisted : ∃ fault,
    halted.1.choose 0 (.int (10 ^ Json.digitLimit : Nat)) = .error fault ∧
      fault.ofDialogue = false ∧ fault.message = Fault.unlistable := by
  have offers : halted.1.offers[0]? = some ⟨2, none⟩ := by cbv
  have large : 1 < 10 ^ Json.digitLimit := Nat.one_lt_pow (Nat.succ_ne_zero _) (by decide)
  generalize size : 10 ^ Json.digitLimit = number at large
  have foreign (chosen : Nat) (within : chosen < 2) : Literal.int number ≠ .int chosen := by
    rw [Ne, Literal.int.injEq]
    omega
  have unlistable : (Literal.int number).isListable = false := by
    rw [Literal.isListable, Nat.pow_eq, size, Int.natAbs_natCast]
    exact decide_eq_false (Nat.lt_irrefl number)
  obtain ⟨fails, refuses⟩ := (Run.answers_of_offer offers).outside _ rfl foreign
  exact ⟨_, fails, refuses.unlistable unlistable⟩

end Dialogue

end Parley
