/-
This file settles that a script whose calls resolve cannot fail. Every function that
a body calls is in the library, with as many operands as the call gives it, and is
one of the first functions or a function of the host that never fails; every literal
is a scalar, and no statement is foreign. Then whatever the variables hold, no pull
fails, as long as the host answers what it is offered; and a run is broken off only at
a name that no node has or by an assertion that does not hold.

Three things are carried from one request to the next: what is left of the node
resolves, the latest offer counts the replies that the run waits for, and the stop
flag is not set while the run goes on.
-/

import Parley.Proofs.Dialogue.Phases
import Parley.Proofs.Engine.Resolved
import Parley.Proofs.Offer

namespace Parley

variable {Host : Type}

/-! ### Functions that cannot fail -/

/-- A function never fails where it is called with operands of its number. -/
def Function.Unfailing (shelf : Shelf Host) (function : Function Host) : Prop :=
  ∀ operands, operands.length = function.arity →
    (Shelf.perform (shelf.callWithin shelf.size) operands function.implementation).Succeeds
      fun _ => True

/-- A function of the host never fails if it always answers with a scalar. -/
theorem Function.unfailing_host {shelf : Shelf Host} {function : Function Host}
    {run : HostFunction Host} (implemented : function.implementation = .host run)
    (answers : ∀ node operands store host, operands.length = function.arity →
      ∃ literal value, (run node operands store host).result = .ok literal ∧
        literal.toValue = .ok value) : function.Unfailing shelf := by
  intro operands counted world
  obtain ⟨literal, value, answered, scalar⟩ :=
    answers world.executing operands world.store world.host counted
  rw [implemented, Shelf.perform, Shelf.runHost_apply, answered]
  exact Engine.succeeds_valueOf ⟨value, scalar⟩ _

namespace Shelf

/-- A call of a name with so many operands finds a function that takes as many, and cannot fail. -/
def Fits (shelf : Shelf Host) (place : LibraryId) (name : Text) (count : Nat) : Prop :=
  ∃ function, (shelf.library place).get? name = some function ∧ function.arity = count ∧
    (function ∈ Dialogue.firstLibrary.entries ∨ function.Unfailing shelf)

/-- The equality that the inequality asks for is there and cannot fail. -/
theorem succeeds_equality {shelf : Shelf Host} (furnished : shelf.Furnished)
    {operands : List Value} (two : operands.length = 2) :
    (shelf.callWithin shelf.size 0 Operator.equalTo.name operands).Succeeds fun _ => True := by
  obtain ⟨steps, size⟩ := Nat.exists_eq_add_one_of_ne_zero (Nat.ne_of_gt furnished.size_pos)
  obtain ⟨own, others, furnished⟩ := furnished
  have first : shelf.library 0 = Library.standard 0 := by
    rw [library, furnished, List.getElem?_cons_zero, Option.getD_some]
  rw [size, callWithin, first, lookup_equalTo]
  dsimp only
  rw [if_neg (by rw [two]; exact not_not_intro rfl)]
  exact .pure trivial

theorem succeeds_first {shelf : Shelf Host} (furnished : shelf.Furnished)
    {function : Function Host} (first : function ∈ Dialogue.firstLibrary.entries) :
    function.Unfailing shelf := by
  intro operands counted
  obtain builtin | standard := Roster.mem_insertAll first
  · simp only [Dialogue.builtins, List.mem_cons, List.not_mem_nil, or_false] at builtin
    obtain rfl | rfl := builtin
    · exact .look fun _ => .pure trivial
    · unfold perform
      dsimp only
      split
      · exact .pure trivial
      · refine .look fun _ => ?_
        exact .bind (.changing _) fun _ _ => .bind (.changing _) fun _ _ => .pure trivial
  · obtain standard | nothing := Roster.mem_insertAll standard
    · obtain made | nothing := Roster.mem_insertAll standard
      · obtain ⟨operator, -, rfl⟩ := List.mem_map.1 made
        -- All operators are computed on the spot, but for the inequality.
        cases operator with
        | notEqualTo => exact .bind (succeeds_equality furnished counted) fun _ _ => .pure trivial
        | _ => exact .pure trivial
      · cases nothing
    · cases nothing

/-- A call that fits cannot fail. -/
theorem succeeds_call {shelf : Shelf Host} (furnished : shelf.Furnished) {place : LibraryId}
    {name : Text} {operands : List Value} (fits : shelf.Fits place name operands.length) :
    (shelf.call place name operands).Succeeds fun _ => True := by
  obtain ⟨function, found, counted, origin⟩ := fits
  rw [call, callWithin, Library.lookup, found]
  dsimp only
  rw [if_neg (by rw [counted]; exact not_not_intro rfl)]
  obtain first | unfailing := origin
  · exact succeeds_first furnished first operands counted.symm
  · exact unfailing operands counted.symm

end Shelf

/-! ### Bouts -/

/-- A bout comes to something if what is left of its node resolves and the host has answered. -/
theorem Bout.succeeds {shelf : Shelf Host} (furnished : shelf.Furnished) {bout : Bout Host}
    (same : bout.dialogue.shelf = shelf)
    (resolves : bout.traversal.Resolves (shelf.Fits Dialogue.home))
    (answered : bout.traversal.Answered bout.chosen) :
    ∃ pulled world, bout.outcome = .ok pulled world ∧ ∀ answer, pulled = some answer →
      answer.2.Resolves (shelf.Fits Dialogue.home) := by
  have calls (name : Text) (operands : List Value)
      (fits : shelf.Fits Dialogue.home name operands.length) :
      (shelf.call Dialogue.home name operands).Succeeds fun _ => True :=
    Shelf.succeeds_call furnished fits
  obtain ⟨pulled, final, done, left⟩ := Engine.succeeds_pull calls resolves answered
    { bout.dialogue.world with executing := some bout.node.name }
  refine ⟨pulled, { final with executing := bout.dialogue.world.executing }, ?_, left⟩
  rw [outcome, same, Act.during, done]

/-- Only an assertion that does not hold sets the stop flag in a bout. -/
theorem Bout.stopping_left {bout : Bout Host} (stopping : bout.left.stopping = true) :
    bout.dialogue.world.stopping = true ∨
      ∃ called ∈ bout.calls, called.FailsAssertion bout.dialogue.shelf := by
  let held (world : World Host) (record : List (Called Host)) : Prop :=
    world.stopping = true → bout.dialogue.world.stopping = true ∨
      ∃ called ∈ record, called.FailsAssertion bout.dialogue.shelf
  suffices recorded : held bout.left bout.calls from recorded stopping
  refine bout.calls_spec (fun _ _ _ holds => holds) (fun _ _ _ holds => holds)
    (fun _ _ _ holds => holds) (fun name operands world record holds set => ?_) .inl
  -- The flag was set by this call, or it was set before and then the record says why.
  obtain before | ⟨called, member, fails⟩ :=
    bout.dialogue.shelf.stopping_callWithin _ Dialogue.home name operands world set
  · obtain before | ⟨called, member, fails⟩ := holds before
    · exact .inl before
    · exact .inr ⟨called, List.mem_append_left _ member, fails⟩
  · exact .inr ⟨called, List.mem_append_right _ member, fails⟩

/-- A moment breaks a run off: an assertion did not hold, or no node had the name. -/
def Moment.Breaks (nodes : NodeTable) : Moment Host → Prop
  | .bout last => ∃ called ∈ last.calls, called.FailsAssertion last.dialogue.shelf
  | .missing name => nodes.get? name = none

/-! ### Passages -/

theorem World.stopping_visit (world : World Host) (name : Text) :
    (world.visit name).stopping = world.stopping := by
  rw [visit]
  split
  · rfl
  · rfl

/-- All nodes of a dialogue resolve in its library. -/
def Dialogue.Resolves (dialogue : Dialogue Host) : Prop :=
  ∀ node ∈ dialogue.nodes.entries,
    Statement.BlockResolves (dialogue.shelf.Fits Dialogue.home) node.body

/-- What is left at a point resolves in the library of a dialogue. -/
def Point.Resolves (base : Dialogue Host) : Point Host → Prop
  | .towards _ _ => True
  | .within bout => bout.traversal.Resolves (base.shelf.Fits Dialogue.home) ∧
    bout.traversal.Answered bout.chosen

namespace Passage

open Dialogue

variable {base : Dialogue Host} {point : Point Host} {moments : List (Moment Host)}
  {outcome : EStateM.Result Fault (Dialogue Host) Pulled}

theorem resolves_entered (resolved : base.Resolves) {dialogue : Dialogue Host}
    (same : base.Same dialogue) {name : Text} {node : Node}
    (found : dialogue.nodes.get? name = some node) (entered : Dialogue Host) :
    (Point.within ⟨node, none, .fresh node, entered⟩).Resolves base := by
  have member : node ∈ base.nodes.entries := by
    rw [← same.2]
    exact List.mem_of_find?_eq_some found
  exact ⟨resolved node member, trivial⟩

/-- A pull comes to something. -/
theorem succeeds (furnished : base.shelf.Furnished) (resolved : base.Resolves)
    (passage : Passage point moments outcome) (same : base.Same point.dialogue)
    (begins : point.Resolves base) : ∃ pulled final, outcome = .ok pulled final := by
  induction passage with
  | entered found onward ih => exact ih same (resolves_entered resolved same found _)
  | failed bout pulled =>
    obtain ⟨_, _, done, -⟩ := Bout.succeeds furnished same.1 begins.1 begins.2
    rw [pulled] at done
    cases done
  | followed bout pulled stopping onward ih => exact ih same trivial
  | _ => exact ⟨_, _, rfl⟩

/-- Where a pull comes to an event, what is left of the node resolves. -/
theorem resolves (furnished : base.shelf.Furnished) (resolved : base.Resolves)
    (passage : Passage point moments outcome) (same : base.Same point.dialogue)
    (begins : point.Resolves base) {event : Event} {node : Node} {traversal : Traversal}
    {final : Dialogue Host} (waits : outcome = .ok (.event event node traversal) final) :
    traversal.Resolves (base.shelf.Fits home) := by
  induction passage with
  | entered found onward ih => exact ih same (resolves_entered resolved same found _) waits
  | waiting bout pulled =>
    obtain ⟨_, _, done, left⟩ := Bout.succeeds furnished same.1 begins.1 begins.2
    rw [pulled] at done
    cases done
    cases waits
    exact left _ rfl
  | followed bout pulled stopping onward ih => exact ih same trivial waits
  | _ => cases waits

/-- A run is broken off by what happened last. -/
theorem breaks (passage : Passage point moments outcome)
    (going : point.dialogue.world.stopping = false) {final : Dialogue Host}
    (ends : outcome = .ok .ended final) (aborted : final.phase = .aborted) :
    ∃ last, moments.getLast? = some last ∧ last.Breaks point.dialogue.nodes := by
  induction passage with
  | completed | stopped =>
    cases ends
    cases aborted
  | exhausted | failed | waiting => cases ends
  | @missing name dialogue absent => exact ⟨.missing name, rfl, absent⟩
  | entered found onward ih => exact ih going ends
  | broken bout pulled other stopping =>
    have left := Bout.left_of_ok pulled
    obtain before | fails := Bout.stopping_left (left ▸ stopping)
    · rw [Point.dialogue, before] at going
      cases going
    · exact ⟨.bout bout, rfl, fails⟩
  | followed bout pulled stopping onward ih =>
    obtain ⟨last, there, breaks⟩ := ih ((World.stopping_visit _ _).trans stopping) ends
    refine ⟨last, ?_, breaks⟩
    rw [List.getLast?_cons, there]
    rfl

/-- Where a pull comes to an event the stop flag is not set. -/
theorem going (passage : Passage point moments outcome) {event : Event} {node : Node}
    {traversal : Traversal} {final : Dialogue Host}
    (waits : outcome = .ok (.event event node traversal) final) :
    final.world.stopping = false := by
  induction passage with
  | entered found onward ih => exact ih waits
  | followed bout pulled stopping onward ih => exact ih waits
  | waiting bout pulled other stopping =>
    cases waits
    exact stopping
  | _ => cases waits

end Passage

/-! ### Offers -/

/-- The choice from an offer, if there is one, is the number of a reply. -/
def Offer.Valid (offer : Offer) : Prop := ∀ index, offer.chosen = some index → index < offer.count

/-- An answer leaves the numbers of replies as they are, and the choices valid. -/
theorem Offer.valid_choose {offer answered : Offer} {index : Literal}
    (done : offer.choose index = .ok answered) :
    answered.Valid ∧ answered.count = offer.count := by
  rw [choose] at done
  split at done
  · cases done
  · split at done
    · next named =>
      cases done
      refine ⟨?_, rfl⟩
      rintro _ ⟨⟩
      exact index?_lt named
    · cases done

theorem Offer.valid_chooseIn {offers answered : List Offer} {place : Nat} {index : Literal}
    (done : chooseIn offers place index = .ok answered) (valid : ∀ offer ∈ offers, offer.Valid) :
    (∀ offer ∈ answered, offer.Valid) ∧ answered.map Offer.count = offers.map Offer.count := by
  obtain ⟨offer, choice, there, chosen, rfl⟩ := chooseIn_eq_ok done
  obtain ⟨good, same⟩ := valid_choose chosen
  refine ⟨fun other member => ?_, ?_⟩
  · obtain before | rfl := List.mem_or_eq_of_mem_set member
    · exact valid other before
    · exact good
  · refine List.ext_getElem? fun position => ?_
    rw [List.getElem?_map, List.getElem?_map, List.getElem?_set]
    split
    · next here =>
      obtain ⟨within, -⟩ := List.getElem?_eq_some_iff.1 there
      rw [if_pos within, ← here, there, Option.map_some, Option.map_some, same]
    · rfl

/-- The latest offer counts the replies that a traversal waits for, if it waits for a choice. -/
def Traversal.Offered (offers : List Offer) : Traversal → Prop
  | .offered _ replies _ => (offers.map Offer.count).getLast? = some replies.length
  | _ => True

theorem Offer.valid_offersAfter {offers : List Offer} (valid : ∀ offer ∈ offers, offer.Valid)
    (event : Event) : ∀ offer ∈ Session.offersAfter offers event, offer.Valid := by
  cases event with
  | options texts =>
    intro offer member
    obtain before | here := List.mem_append.1 member
    · exact valid offer before
    · cases List.mem_singleton.1 here
      exact nofun
  | _ => exact valid

/-- Behind an event the latest offer is that of the event. -/
theorem Traversal.Follows.offered {traversal : Traversal} {event : Event}
    (follows : traversal.Follows (.event event)) (offers : List Offer) :
    traversal.Offered (Session.offersAfter offers event) := by
  cases traversal with
  | offered name replies rest =>
    obtain rfl : event = .options (replies.map Reply.text) := Result.event.inj follows
    rw [Offered, Session.offersAfter, List.map_append, List.map_singleton, List.getLast?_concat,
      List.length_map]
  | _ => trivial

/-- A valid choice from the latest offer answers a traversal. -/
theorem Traversal.Offered.answered {traversal : Traversal} {offers : List Offer}
    (offered : traversal.Offered offers) (valid : ∀ offer ∈ offers, offer.Valid)
    (chosen : ∀ offer, offers.getLast? = some offer → offer.chosen ≠ none) :
    traversal.Answered (Offer.latest? offers) := by
  cases traversal with
  | offered name replies rest =>
    rw [Offered, List.getLast?_map] at offered
    obtain ⟨offer, latest, count⟩ := Option.map_eq_some_iff.1 offered
    obtain ⟨index, choice⟩ := Option.ne_none_iff_exists'.1 (chosen offer latest)
    refine ⟨index, ?_, ?_⟩
    · rw [Offer.latest?, latest, Option.bind_some, choice]
    · rw [← count]
      exact valid offer (List.mem_of_getLast? latest) index choice
  | _ => trivial

/-! ### Hosts -/

/-- What is left of the node that a run waits in resolves, and its offers are in order. -/
structure Run.Sound (fits : Text → Nat → Prop) (run : Run) : Prop where
  valid : ∀ offer ∈ run.offers, offer.Valid
  left : ∀ node traversal, run.stage = .inside node traversal →
    traversal.Resolves fits ∧ traversal.Offered run.offers

theorem Run.Sound.choose {fits : Text → Nat → Prop} {run answered : Run} (sound : run.Sound fits)
    {place : Nat} {index : Literal} (done : run.choose place index = .ok answered) :
    answered.Sound fits := by
  rw [Run.choose] at done
  cases chosen : Offer.chooseIn run.offers place index with
  | error fault =>
    rw [chosen] at done
    cases done
  | ok offers =>
    rw [chosen] at done
    cases done
    obtain ⟨valid, counts⟩ := Offer.valid_chooseIn chosen sound.valid
    refine ⟨valid, fun node traversal inside => ?_⟩
    obtain ⟨resolves, offered⟩ := sound.left node traversal inside
    refine ⟨resolves, ?_⟩
    cases traversal with
    | offered name replies rest =>
      show (offers.map Offer.count).getLast? = some replies.length
      rw [counts]
      exact offered
    | _ => trivial

/-- Behind a pull the run is sound again. -/
theorem Passage.sound {base : Dialogue Host} (furnished : base.shelf.Furnished)
    (resolved : base.Resolves) {point : Point Host} {moments : List (Moment Host)}
    {outcome : EStateM.Result Fault (Dialogue Host) Pulled}
    (passage : Passage point moments outcome) (same : base.Same point.dialogue)
    (begins : point.Resolves base) {run : Run}
    (sound : run.Sound (base.shelf.Fits Dialogue.home)) :
    (run.behind outcome).Sound (base.shelf.Fits Dialogue.home) := by
  obtain ⟨pulled, final, rfl⟩ := passage.succeeds furnished resolved same begins
  cases pulled with
  | event event node traversal =>
    refine ⟨Offer.valid_offersAfter sound.valid event, ?_⟩
    rintro _ _ ⟨⟩
    exact ⟨passage.resolves furnished resolved same begins rfl,
      (passage.follows rfl).offered run.offers⟩
  | ended => exact ⟨sound.valid, nofun⟩
  | unfinished => exact sound

/-- A run that is sound can be pulled when the latest offer is answered. -/
theorem Run.Sound.point {base dialogue : Dialogue Host} {run : Run}
    (sound : run.Sound (base.shelf.Fits Dialogue.home))
    (chosen : ∀ offer, run.offers.getLast? = some offer → offer.chosen ≠ none)
    {point : Point Host} (stands : Dialogue.point? run dialogue = some point) :
    point.Resolves base := by
  obtain ⟨stage, offers⟩ := run
  cases stage with
  | unstarted start =>
    cases stands
    trivial
  | inside node traversal =>
    cases stands
    obtain ⟨resolves, offered⟩ := sound.left node traversal rfl
    exact ⟨resolves, offered.answered sound.valid chosen⟩
  | ended => cases stands

namespace Hosting

/-- What an obliging host asks for: it pulls only when it has answered the latest offer, and leaves
the nodes, the libraries and the stop flag alone. -/
def Obliging (hosting : Hosting Host) : Request Host → Prop
  | .errand (.write _ _ stopping) => stopping = id
  | .errand (.provide _ _) => True
  | .errand _ => False
  | .pull _ => ∀ run, hosting.run = some run → ∀ offer, run.offers.getLast? = some offer →
    offer.chosen ≠ none
  | _ => True

/-- The run cannot fail: the dialogue has the nodes and the libraries that were checked, nothing has
failed so far, and if the run was broken off there was a reason. -/
structure Sound (base : Dialogue Host) (hosting : Hosting Host) : Prop where
  same : base.Same hosting.dialogue
  phased : hosting.Phased
  unfailing : ∀ fault, .pulled (.error fault) ∉ hosting.touches
  run : ∀ run, hosting.run = some run → run.Sound (base.shelf.Fits Dialogue.home)
  going : ∀ run, hosting.run = some run → run.stage ≠ .ended →
    hosting.dialogue.world.stopping = false
  breaks : hosting.dialogue.phase = .aborted →
    ∃ last, hosting.moments.getLast? = some last ∧ last.Breaks base.nodes

theorem sound_begun {base dialogue started : Dialogue Host} {start : Text} {run : Run}
    (same : base.Same dialogue) (began : Dialogue.run start dialogue = .ok run started) :
    (begun run started).Sound base := by
  have phased := phased_begun began
  obtain rfl := Dialogue.begun_of_run began
  obtain ⟨rfl, -⟩ := Dialogue.run_eq_ok began
  refine ⟨same, phased, nofun, ?_, fun _ _ _ => rfl, nofun⟩
  rintro _ ⟨⟩
  exact ⟨nofun, nofun⟩

/-- The pulls have not failed if they had not, and the last of them did not. -/
theorem unfailing_touch {touches : List Touch}
    (before : ∀ fault, .pulled (.error fault) ∉ touches) {touch : Touch}
    (other : ∀ fault, touch ≠ .pulled (.error fault)) (fault : Fault) :
    .pulled (.error fault) ∉ touches ++ [touch] := by
  intro member
  obtain there | here := List.mem_append.1 member
  · exact before fault there
  · exact other fault (List.mem_singleton.1 here).symm

theorem Sound.pulled {base : Dialogue Host} (furnished : base.shelf.Furnished)
    (resolved : base.Resolves) {hosting : Hosting Host} (sound : hosting.Sound base) {run : Run}
    {point : Point Host} {moments : List (Moment Host)}
    {outcome : EStateM.Result Fault (Dialogue Host) Pulled} (latest : hosting.run = some run)
    (chosen : ∀ offer, run.offers.getLast? = some offer → offer.chosen ≠ none)
    (stands : Dialogue.point? run hosting.dialogue = some point)
    (passage : Passage point moments outcome)
    (finished : Dialogue.yieldOf outcome ≠ .ok .unfinished) {after : Hosting Host}
    (left : after = { hosting with
      dialogue := Dialogue.leftBy outcome
      run := some (run.behind outcome)
      touches := hosting.touches ++ [.pulled (Dialogue.yieldOf outcome)]
      moments := hosting.moments ++ moments })
    (phased : after.Phased) : after.Sound base := by
  have undisturbed := Dialogue.undisturbed_point stands
  have same : base.Same point.dialogue :=
    ⟨undisturbed.shelf.trans sound.same.1, undisturbed.nodes.trans sound.same.2⟩
  have begins := (sound.run run latest).point chosen stands
  have going : point.dialogue.world.stopping = false := by
    rw [Dialogue.world_point stands]
    refine sound.going run latest fun spent => ?_
    rw [Dialogue.point?, spent] at stands
    cases stands
  have runs : ∀ other, some (run.behind outcome) = some other →
      other.Sound (base.shelf.Fits Dialogue.home) := by
    rintro _ ⟨⟩
    exact passage.sound furnished resolved same begins (sound.run run latest)
  have onward := passage.undisturbed
  have kept : base.Same (Dialogue.leftBy outcome) :=
    ⟨onward.shelf.trans same.1, onward.nodes.trans same.2⟩
  obtain ⟨pulled, final, rfl⟩ := passage.succeeds furnished resolved same begins
  subst left
  cases pulled with
  | event event node traversal =>
    obtain ⟨suspended, -⟩ := passage.phase_event rfl
    have unbroken := passage.going rfl
    refine ⟨kept, phased, unfailing_touch sound.unfailing nofun, runs, fun _ _ _ => unbroken, ?_⟩
    intro aborted
    cases suspended.symm.trans aborted
  | ended =>
    refine ⟨kept, phased, unfailing_touch sound.unfailing nofun, runs, ?_, fun aborted => ?_⟩
    · rintro _ ⟨⟩ ongoing
      exact absurd rfl ongoing
    · obtain ⟨last, there, breaks⟩ := passage.breaks going rfl aborted
      refine ⟨last, ?_, same.2 ▸ breaks⟩
      rw [List.getLast?_append, there, Option.some_or]
  | unfinished => exact absurd rfl finished

/-- What an obliging host asks for keeps the run sound. -/
theorem Step.sound {base : Dialogue Host} (furnished : base.shelf.Furnished)
    (resolved : base.Resolves) {before after : Hosting Host} {request : Request Host}
    (step : Step before request after) (obliging : before.Obliging request)
    (sound : before.Sound base) : after.Sound base := by
  have phased := step.phased sound.phased
  cases step with
  | errand errand =>
    cases errand with
    | write store host stopping =>
      obtain rfl : stopping = id := obliging
      exact ⟨sound.same, phased, sound.unfailing, sound.run, sound.going, sound.breaks⟩
    | provide debugSink errorSink =>
      exact ⟨sound.same, phased, sound.unfailing, sound.run, sound.going, sound.breaks⟩
    | _ => exact obliging.elim
  | begun began => exact sound_begun sound.same began
  | refused => exact sound
  | pulled budget latest stands passage finished =>
    exact sound.pulled furnished resolved latest (obliging _ latest) stands passage finished rfl
      phased
  | spent budget latest spent =>
    exact ⟨sound.same, phased, unfailing_touch sound.unfailing nofun, sound.run, sound.going,
      sound.breaks⟩
  | chosen latest chose =>
    refine ⟨sound.same, phased, sound.unfailing, ?_, ?_, sound.breaks⟩
    · rintro _ ⟨⟩
      exact (sound.run _ latest).choose chose
    · rintro _ ⟨⟩
      rw [Run.stage_choose chose]
      exact sound.going _ latest
  | @closed run node traversal latest waits =>
    refine ⟨sound.same, phased, unfailing_touch sound.unfailing nofun, ?_, ?_, nofun⟩
    · rintro _ ⟨⟩
      exact ⟨(sound.run run latest).valid, nofun⟩
    · rintro _ ⟨⟩ other
      exact absurd rfl other
  | @dropped run latest waitless =>
    refine ⟨sound.same, phased, unfailing_touch sound.unfailing nofun, ?_, ?_, sound.breaks⟩
    · rintro _ ⟨⟩
      exact ⟨(sound.run run latest).valid, nofun⟩
    · rintro _ ⟨⟩ other
      exact absurd rfl other

/-- Nothing failed, and a run that was broken off came to a name that no node has, or made an
assertion that does not hold. -/
structure Unfailing (hosting : Hosting Host) : Prop where
  yields : ∀ fault, .pulled (.error fault) ∉ hosting.touches
  aborted : hosting.dialogue.phase = .aborted →
    (∃ name, hosting.moments.getLast? = some (.missing name) ∧
      hosting.dialogue.nodes.get? name = none) ∨
    ∃ bout called, hosting.moments.getLast? = some (.bout bout) ∧ called ∈ bout.calls ∧
      called.FailsAssertion bout.dialogue.shelf

end Hosting

/-- Scripts whose calls resolve do not fail. Take any dialogue, with any history of deeds of its
host and any variables, in which every call in a node names a function that takes as many operands as it
is given and does not fail itself, and every literal is a scalar. Then for every start and for all
requests of a host that answers what it is offered before it pulls on, no pull fails, and the run is
broken off only at a name that no node has or by an assertion that does not hold. -/
theorem Dialogue.resolved_run_unfailing (store : Store) (host : Host) (debugSink errorSink : Bool)
    (history : List (Deed Host)) {account : Account Host} {started : Dialogue Host} {start : Text}
    {run : Run}
    (made : history.foldl Account.after (.new store host debugSink errorSink) = account)
    (resolved : account.dialogue.Resolves)
    (began : Dialogue.run start account.dialogue = .ok run started)
    (requests : List (Request Host))
    (obliging : Hosting.Heeds Hosting.Obliging requests (.begun run started))
    {hosting : Hosting Host}
    (done : requests.foldlM Hosting.after? (.begun run started) = some hosting) :
    hosting.Unfailing := by
  have furnished : account.dialogue.shelf.Furnished := by
    rw [← made]
    exact (Account.sound_history (Account.sound_new store host debugSink errorSink)
      history).furnished
  obtain ⟨-, sound⟩ := Hosting.holds_behind
    (fun _ obliging sound step => step.sound furnished resolved obliging sound)
    (Hosting.ready_begun began) obliging (Hosting.sound_begun ⟨rfl, rfl⟩ began) done
  refine ⟨sound.unfailing, fun aborted => ?_⟩
  obtain ⟨last, there, breaks⟩ := sound.breaks aborted
  cases last with
  | missing name =>
    refine .inl ⟨name, there, ?_⟩
    rw [sound.same.2]
    exact breaks
  | bout bout =>
    obtain ⟨called, member, fails⟩ := breaks
    exact .inr ⟨bout, called, there, member, fails⟩

/-- A node that offers a reply, in which it calls an operator and a function of the host, and jumps
to a name that no node has. -/
def Account.asking : Account Unit :=
  [.register ring.name 0 ring.implementation,
    .loadNodes (Roster.ofList [("A", ⟨"A",
      [.choice [⟨"Ring?", [.assign "rung"
        (.call "NotEqualTo" [.call "Ring" [], .read "rung"])], none⟩], .jump "B"], []⟩)])
      true].foldl Account.after (.new Roster.empty () true true)

theorem Account.resolves_asking : Account.asking.dialogue.Resolves := by
  have rings : (asking.dialogue.shelf.library Dialogue.home).get? "Ring" = some ring := by cbv
  have unequal : (asking.dialogue.shelf.library Dialogue.home).get? "NotEqualTo" =
      some (Library.standardFunction 0 .notEqualTo) := by cbv
  have first : Dialogue.firstLibrary.get? "NotEqualTo" =
      some (Library.standardFunction 0 .notEqualTo : Function Unit) := by cbv
  have nodes : asking.dialogue.nodes.entries = [⟨"A",
      [.choice [⟨"Ring?", [.assign "rung"
        (.call "NotEqualTo" [.call "Ring" [], .read "rung"])], none⟩], .jump "B"], []⟩] := by
    cbv
  intro node member
  rw [nodes] at member
  cases List.mem_singleton.1 member
  have ring : asking.dialogue.shelf.Fits Dialogue.home "Ring" 0 :=
    ⟨_, rings, rfl, .inr (Function.unfailing_host rfl fun _ _ _ _ _ => ⟨.null, .null, rfl, rfl⟩)⟩
  have notEqual : asking.dialogue.shelf.Fits Dialogue.home "NotEqualTo" 2 :=
    ⟨_, unequal, rfl, .inl (List.mem_of_find?_eq_some first)⟩
  have inReply : Statement.BlockResolves (asking.dialogue.shelf.Fits Dialogue.home)
      [.assign "rung" (.call "NotEqualTo" [.call "Ring" [], .read "rung"])] :=
    ⟨⟨notEqual, ⟨ring, trivial⟩, trivial, trivial⟩, trivial⟩
  exact ⟨⟨⟨by rintro _ ⟨⟩, inReply⟩, trivial⟩, trivial, trivial⟩

theorem Dialogue.resolved_run_unfailing_asking : ∃ run started hosting,
    Dialogue.run "A" Account.asking.dialogue = .ok run started ∧
      [.pull 8, .choose 0 (.int 0), .pull 8].foldlM Hosting.after? (.begun run started) =
        some hosting ∧
      hosting.dialogue.phase = .aborted ∧ hosting.Unfailing := by
  have began : Dialogue.run "A" Account.asking.dialogue =
      .ok { stage := .unstarted "A" } (Account.asking.dialogue.begun "A") := rfl
  have course : ([.pull 8, .choose 0 (.int 0), .pull 8].foldlM Hosting.after?
      (.begun { stage := .unstarted "A" } (Account.asking.dialogue.begun "A"))).map
      (fun hosting => hosting.dialogue.phase) = some .aborted := by
    cbv
  obtain ⟨hosting, done, aborted⟩ := Option.map_eq_some_iff.1 course
  refine ⟨_, _, hosting, began, done, aborted, ?_⟩
  refine resolved_run_unfailing Roster.empty () true true _ (rfl : _ = Account.asking)
    Account.resolves_asking began [.pull 8, .choose 0 (.int 0), .pull 8] ?_ done
  have answered : (((Hosting.begun { stage := .unstarted "A" }
      (Account.asking.dialogue.begun "A")).after? (.pull 8)).bind
        (·.after? (.choose 0 (.int 0)))).map (fun hosting => hosting.run.map Run.offers) =
      some (some [⟨1, some 0⟩]) := by
    cbv
  refine ⟨?_, fun offering led => ⟨trivial, fun chosen onward => ⟨?_, fun _ _ => trivial⟩⟩⟩
  · rintro _ ⟨⟩ _ ⟨⟩
  · intro run latest offer there
    rw [led, Option.bind_some, onward, Option.map_some, latest, Option.map_some] at answered
    rw [Option.some.inj (Option.some.inj answered)] at there
    cases there
    rintro ⟨⟩

end Parley
