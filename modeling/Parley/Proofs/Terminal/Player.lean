/-
This file compares a play with a player. The player has a run of the dialogue and no
terminal: event after event is pulled out of the run, an offer is answered with the first
number of a reply among the integers that are typed, and nothing else is done. What the
play shows, the log and the prompts aside, is what comes to this player, and the play ends
when and as it ends for the player.

The two do not go in step: while the player pulls once, the play may ask any number of
times. They are compared twice. As far as the player comes, the play comes as well; and
since a play takes back nothing that it has shown, whatever it shows on the way is a
beginning of what has come to the player by then.

Of the lines that are typed, a play has read those that its transcript shows.
-/

import Parley.Proofs.Terminal.Transcript

namespace Parley

/-! ### A player -/

/-- What comes to a player. -/
inductive Happening where
  | event (event : Event)
  /-- A number was given that none of so many replies has. -/
  | outOfRange (count : Nat)

/-- How it ends for a player. -/
inductive PlayEnd where
  /-- The run has ended in a phase, at a node. -/
  | ended (phase : Phase) (current : Option Text)
  /-- A pull has failed. -/
  | fault (fault : Fault)
  /-- A choice has been refused. -/
  | refused (fault : Fault)
  /-- There was nothing more to read where an offer was to be answered. -/
  | inputEnded

/-- What has come to a player, and how it has ended if it has. -/
structure Played where
  happenings : List Happening := []
  ending : Option PlayEnd := none

namespace Played

/-- What comes to a player behind what has come before. -/
def behind (earlier : List Happening) (later : Played) : Played :=
  { later with happenings := earlier ++ later.happenings }

theorem behind_nil (played : Played) : played.behind [] = played := rfl

end Played

/-- What is typed where an offer of `count` replies is to be answered: the integers in front of the
first that is the number of a reply, and that number with the lines behind it, unless there is
none. -/
def settle (count : Nat) : List String → List Int × Option (Int × List String)
  | [] => ([], none)
  | line :: rest =>
    match Answer.typed? line with
    | none => settle count rest
    | some number =>
      if 1 ≤ number ∧ number ≤ count then ([], some (number, rest))
      else (number :: (settle count rest).1, (settle count rest).2)

namespace Run

/-- What a player does at an event. An offer is answered with the number that settles it, less one,
since the run counts the replies from zero; any other event asks for nothing. -/
def attend (run : Run) (event : Event) (typed : List String) :
    List Happening × Except PlayEnd (Run × List String) :=
  match event with
  | .options texts =>
    let settled := settle texts.length typed
    (settled.1.map fun _ => .outOfRange texts.length,
      match settled.2 with
      | none => .error .inputEnded
      | some (number, rest) =>
        match run.choose (run.offers.length - 1) (.int (number - 1)) with
        | .ok answered => .ok (answered, rest)
        | .error fault => .error (.refused fault))
  | _ => ([], .ok (run, typed))

/-- What comes to a player in so many pulls. -/
def played (budget : Nat) : Nat → Run → Dialogue Unit → List String → Played
  | 0, _, _, _ => {}
  | pulls + 1, run, dialogue, typed =>
    match Dialogue.pull budget run dialogue with
    | (.error fault, _, _) => { ending := some (.fault fault) }
    | (.ok .ended, _, dialogue) =>
      { ending := some (.ended dialogue.phase dialogue.world.current) }
    | (.ok .unfinished, run, dialogue) => played budget pulls run dialogue typed
    | (.ok (.event event), run, dialogue) =>
      match run.attend event typed with
      | (missed, .error ending) => { happenings := .event event :: missed, ending := some ending }
      | (missed, .ok (run, rest)) =>
        (played budget pulls run dialogue rest).behind (.event event :: missed)

end Run

/-! ### What a terminal shows of it -/

/-- What a terminal shows of a happening. -/
def Happening.shown (commands : Bool) : Happening → List Shown
  | .event yielded => yielded.shown commands
  | .outOfRange count => [.outOfRange count]

namespace PlayEnd

/-- What a terminal shows of an ending. -/
def shown : PlayEnd → List Shown
  | ended phase current => if phase = .aborted then [.stopped current] else []
  | fault cause | refused cause => [.failure cause.message]
  | inputEnded => [.abandoned]

/-- The exit code for an ending. -/
def code : PlayEnd → Nat
  | ended _ _ => 0
  | fault _ | refused _ | inputEnded => 1

/-- No choice is refused, and only faults of the dialogue occur. -/
def Foreseen : PlayEnd → Prop
  | ended _ _ | inputEnded => True
  | fault cause => cause.ofDialogue = true
  | refused _ => False

end PlayEnd

namespace Played

/-- What a terminal shows of all that has come to a player. -/
def shown (commands : Bool) (played : Played) : List Shown :=
  played.happenings.flatMap (Happening.shown commands) ++ (played.ending.map PlayEnd.shown).getD []

/-- The exit code where it has ended for a player; there is no crash. -/
def exit? (played : Played) : Option (Nat × Option Crash) :=
  played.ending.map fun ending => (ending.code, none)

theorem shown_behind (commands : Bool) (earlier : List Happening) (later : Played) :
    (later.behind earlier).shown commands =
      earlier.flatMap (Happening.shown commands) ++ later.shown commands := by
  rw [shown, shown, behind, List.flatMap_append, List.append_assoc]

end Played

/-! ### Steps of a play -/

namespace Play

/-- The exit code and the crash, if there is one, of a play that has ended. -/
def exit? (play : Play) : Option (Nat × Option Crash) :=
  match play.status with
  | .ended code crash => some (code, crash)
  | _ => none

/-- In so many steps a play comes to another, with fewer lines left to be typed. -/
def Leads (budget steps : Nat) (typed : List String) (play : Play) (rest : List String)
    (after : Play) : Prop :=
  ∀ fuel, carryOn budget (fuel + steps) typed play = carryOn budget fuel rest after

variable {budget steps : Nat} {typed rest : List String} {play after : Play}

theorem Leads.trans {further : Nat} {others : List String} {final : Play}
    (leads : Leads budget steps typed play rest after)
    (onward : Leads budget further rest after others final) :
    Leads budget (further + steps) typed play others final := by
  intro fuel
  rw [← Nat.add_assoc, leads, onward]

theorem leads_step (going : play.status = .going) :
    Leads budget 1 typed play typed (play.step budget) := by
  intro fuel
  rw [carryOn.eq_def]
  dsimp only
  rw [going]

theorem leads_line {count : Nat} (asking : play.status = .asking count) (line : String) :
    Leads budget 1 (line :: rest) play rest (play.answer count (some line)) := by
  intro fuel
  rw [carryOn.eq_def]
  dsimp only
  rw [asking]

theorem leads_end {count : Nat} (asking : play.status = .asking count) :
    Leads budget 1 [] play [] play.abandon := by
  intro fuel
  rw [carryOn.eq_def]
  dsimp only
  rw [asking]
  rfl

/-! ### Prompts -/

/-- What is shown where numbers were given that none of `count` replies has. -/
def misses (count : Nat) (missed : List Int) : List Shown := missed.map fun _ => .outOfRange count

theorem flatMap_misses (commands : Bool) (count : Nat) (missed : List Int) :
    (missed.map fun _ => Happening.outOfRange count).flatMap (Happening.shown commands) =
      misses count missed := by
  rw [List.flatMap_map, misses]
  exact List.map_eq_flatMap.symm

namespace Stands

variable {commands : Bool} {run : Run} {dialogue : Dialogue Unit} {seen : List Shown} {count : Nat}

/-- A play that asks for a choice asks until the offer is settled, or until there is nothing more to
read. -/
theorem settled (stands : play.Stands (.asking count) commands run dialogue seen)
    (latest : run.offers.getLast? = some { count }) (budget : Nat) (typed : List String) :
    ∃ steps rest after, Leads budget (steps + 1) typed play rest after ∧
      match (settle count typed).2 with
      | none => after.Ends 1 (seen ++ misses count (settle count typed).1 ++ [.abandoned])
      | some (number, others) => rest = others ∧ ∃ answered,
        run.choose (run.offers.length - 1) (.int (number - 1)) = .ok answered ∧
        after.Stands .going commands answered dialogue
          (seen ++ misses count (settle count typed).1) := by
  induction typed generalizing play seen with
  | nil =>
    have unmissed : seen ++ misses count [] = seen := List.append_nil seen
    refine ⟨0, [], play.abandon, leads_end stands.status, ?_⟩
    dsimp only [settle]
    rw [unmissed]
    exact stands.abandon
  | cons line rest ih =>
    have asked : Leads budget 1 (line :: rest) play rest (play.answer count (some line)) :=
      leads_line stands.status line
    rw [settle]
    cases given : Answer.typed? line with
    | none =>
      obtain ⟨steps, others, after, leads, settled⟩ := ih (stands.answer_none given)
      exact ⟨steps + 1, others, after, asked.trans leads, settled⟩
    | some number =>
      dsimp only
      by_cases within : 1 ≤ number ∧ number ≤ count
      · obtain ⟨answered, chosen⟩ := Run.choose_latest latest within.1 within.2
        have unmissed : seen ++ misses count [] = seen := List.append_nil seen
        rw [if_pos within]
        dsimp only
        rw [unmissed]
        exact ⟨0, rest, _, asked, rfl, answered, chosen, stands.answer_chosen given within chosen⟩
      · obtain ⟨steps, others, after, leads, settled⟩ := ih (stands.answer_missed given within)
        have first (missed : List Int) : seen ++ misses count (number :: missed) =
            seen ++ [.outOfRange count] ++ misses count missed := by
          rw [misses, List.map_cons, List.append_assoc]
          rfl
        rw [if_neg within]
        dsimp only
        rw [first]
        exact ⟨steps + 1, others, after, asked.trans leads, settled⟩

/-- A play that has shown an event goes on to where a player has attended to it. -/
theorem attended (stands : play.Stands .going commands run dialogue seen) {event : Event}
    (legible : event.Legible)
    (latest : ∀ texts, event = .options texts →
      run.offers.getLast? = some { count := texts.length })
    (budget : Nat) (typed : List String) :
    ∃ steps rest after, Leads budget steps typed (play.perform event) rest after ∧
      match run.attend event typed with
      | (missed, .error ending) => ending.Foreseen ∧ after.Ends ending.code
          (seen ++ (.event event :: missed).flatMap (Happening.shown commands) ++ ending.shown)
      | (missed, .ok (answered, others)) => rest = others ∧ after.Stands .going commands answered
          dialogue (seen ++ (.event event :: missed).flatMap (Happening.shown commands)) := by
  by_cases offers : ∃ texts, event = .options texts
  · obtain ⟨texts, rfl⟩ := offers
    have asking := stands.perform_options legible
    obtain ⟨steps, rest, after, leads, settled⟩ := asking.settled (latest texts rfl) budget typed
    refine ⟨steps + 1, rest, after, leads, ?_⟩
    dsimp only [Run.attend]
    generalize settle texts.length typed = settlement at settled
    obtain ⟨missed, answer⟩ := settlement
    cases answer with
    | none =>
      refine ⟨trivial, ?_⟩
      rw [List.flatMap_cons, flatMap_misses, ← List.append_assoc]
      exact settled
    | some answer =>
      obtain ⟨number, others⟩ := answer
      obtain ⟨same, answered, chosen, answers⟩ := settled
      dsimp only
      rw [chosen]
      refine ⟨same, ?_⟩
      rw [List.flatMap_cons, flatMap_misses, ← List.append_assoc]
      exact answers
  · have choiceless : ∀ texts, event ≠ .options texts := fun texts same => offers ⟨texts, same⟩
    have ignored : run.attend event typed = ([], .ok (run, typed)) := by
      cases event with
      | options texts => exact absurd rfl (choiceless texts)
      | _ => rfl
    refine ⟨0, typed, play.perform event, fun _ => rfl, ?_⟩
    rw [ignored]
    dsimp only
    rw [List.flatMap_singleton]
    exact ⟨rfl, stands.perform legible choiceless⟩

end Stands

/-! ### As far as the player comes -/

/-- A play has shown, behind what was seen before, what a terminal shows of all that has come to a
player, and it has ended if and as it has ended for the player. -/
structure Agrees (commands : Bool) (seen : List Shown) (played : Played) (play : Play) : Prop where
  content : play.content = seen ++ played.shown commands
  exit : play.exit? = played.exit?

/-- A play comes to what comes to a player in so many pulls, in no fewer steps unless it has ended
for the player; and if it has, then in a way that is foreseen. -/
def Reaches (budget : Nat) (commands : Bool) (seen : List Shown) (pulls : Nat) (played : Played)
    (typed : List String) (play : Play) : Prop :=
  ∃ fuel, (carryOn budget fuel typed play).Agrees commands seen played ∧
    (played.ending = none → pulls ≤ fuel) ∧
    ∀ ending, played.ending = some ending → ending.Foreseen

variable {commands : Bool} {seen : List Shown} {pulls : Nat}

theorem Ends.reaches {earlier : List Happening} {ending : PlayEnd}
    (ends : after.Ends ending.code
      (seen ++ earlier.flatMap (Happening.shown commands) ++ ending.shown))
    (leads : Leads budget steps typed play rest after) (foreseen : ending.Foreseen) :
    play.Reaches budget commands seen pulls { happenings := earlier, ending := some ending }
      typed := by
  have arrives : carryOn budget steps typed play = after := by
    have reached := leads 0
    rwa [Nat.zero_add] at reached
  refine ⟨steps, ?_, nofun, ?_⟩
  · rw [arrives]
    refine ⟨ends.seen.trans (List.append_assoc _ _ _), ?_⟩
    rw [exit?, ends.status]
    rfl
  · rintro _ ⟨⟩
    exact foreseen

theorem Reaches.behind {earlier : List Happening} {later : Played}
    (reaches : after.Reaches budget commands (seen ++ earlier.flatMap (Happening.shown commands))
      pulls later rest)
    (leads : Leads budget (steps + 1) typed play rest after) :
    play.Reaches budget commands seen (pulls + 1) (later.behind earlier) typed := by
  obtain ⟨fuel, agrees, enough, foreseen⟩ := reaches
  refine ⟨fuel + (steps + 1), ?_, fun goes => ?_, foreseen⟩
  · rw [leads fuel]
    refine ⟨?_, agrees.exit⟩
    rw [agrees.content, Played.shown_behind, List.append_assoc]
  · have before := enough goes
    omega

end Play

/-- An offer that a pull has yielded is the latest of its run. -/
theorem Dialogue.getLast?_offers {budget : Nat} {run onward : Run} {dialogue final : Dialogue Unit}
    {texts : List Text}
    (pulled : pull budget run dialogue = (.ok (.event (.options texts)), onward, final)) :
    onward.offers.getLast? = some { count := texts.length } := by
  rw [pull] at pulled
  split at pulled <;> cases pulled
  rw [Session.offersAfter, List.getLast?_concat]

/-- As far as a player comes, a play comes as well. -/
theorem Play.Stands.reaches {commands : Bool} {run : Run} {dialogue : Dialogue Unit}
    {seen : List Shown} {play : Play} (stands : play.Stands .going commands run dialogue seen)
    (budget pulls : Nat) (typed : List String) :
    play.Reaches budget commands seen pulls (run.played budget pulls dialogue typed) typed := by
  induction pulls generalizing play run dialogue seen typed with
  | zero =>
    refine ⟨0, ⟨stands.seen.trans (List.append_nil _).symm, ?_⟩, fun _ => Nat.le_refl 0, nofun⟩
    show play.exit? = none
    rw [exit?, stands.status]
  | succ pulls ih =>
    rw [Run.played]
    generalize pulled : Dialogue.pull budget run dialogue = outcome
    obtain ⟨result, onward, final⟩ := outcome
    obtain ⟨shown, step, reported, faults, yields⟩ := stands.step pulled
    have leads : Leads budget 1 typed play typed (shown.take result) :=
      step ▸ leads_step stands.status
    cases result with
    | error fault =>
      have legible := faults fault rfl
      have ends := reported.fail legible
      refine Ends.reaches ?_ leads legible.1
      rw [List.flatMap_nil, List.append_nil]
      exact ends
    | ok yielded =>
      cases yielded with
      | ended =>
        refine Ends.reaches ?_ leads trivial
        rw [List.flatMap_nil, List.append_nil]
        exact reported.conclude
      | unfinished =>
        dsimp only
        rw [← (Run.played budget pulls onward final typed).behind_nil]
        refine Reaches.behind ?_ leads
        rw [List.flatMap_nil, List.append_nil]
        exact ih reported typed
      | event event =>
        have legible : event.Legible := yields (.event event) rfl
        obtain ⟨further, rest, after, goes, attended⟩ := reported.attended legible
          (fun texts same => Dialogue.getLast?_offers (same ▸ pulled)) budget typed
        have leads := leads.trans goes
        dsimp only
        generalize onward.attend event typed = answer at attended
        obtain ⟨missed, ending | ⟨answered, others⟩⟩ := answer
        · obtain ⟨foreseen, ends⟩ := attended
          exact Ends.reaches ends leads foreseen
        · obtain ⟨rfl, stands⟩ := attended
          exact Reaches.behind (ih stands rest) leads

/-! ### What has been shown stays -/

namespace Play

/-- A play has shown all that another has shown, in the same order and before anything else. -/
def Extends (play after : Play) : Prop := play.transcript.toList <+: after.transcript.toList

namespace Extends

theorem refl (play : Play) : play.Extends play := List.prefix_refl _

theorem trans {first second third : Play} (onward : first.Extends second)
    (further : second.Extends third) : first.Extends third := List.IsPrefix.trans onward further

theorem of_shows {such : Shown → Prop} {play after : Play} (shows' : play.Shows such after) :
    play.Extends after := by
  obtain ⟨items, same, -⟩ := shows'
  exact ⟨items, same.symm⟩

theorem of_responds {such : Shown → Prop} {play after : Play}
    (responds : play.Responds such after) : play.Extends after := by
  obtain ⟨shown, shows', rfl | ⟨count, rfl⟩⟩ := responds
  · exact of_shows shows'
  · refine (of_shows shows').trans ?_
    obtain ⟨-, same | same⟩ := shown.ask_spec count
    · exact ⟨[], (List.append_nil _).trans same.symm⟩
    · exact ⟨[.prompt], same.symm⟩

theorem answer (play : Play) (count : Nat) (line : Option String) :
    play.Extends (play.answer count line) := by
  cases line with
  | none => exact of_shows (.abandon play)
  | some line =>
    have typed : play.Shows (fun _ => True) (play.display (.typed line)) :=
      .display play trivial fun _ _ => trivial
    exact (of_shows typed).trans (of_responds (.answer count line play))

end Extends

theorem carryOn_of_exit {budget fuel : Nat} {typed : List String} {play : Play}
    (ended : play.exit? ≠ none) : carryOn budget fuel typed play = play := by
  cases fuel with
  | zero => rfl
  | succ fuel =>
    rw [carryOn.eq_def]
    dsimp only
    rw [exit?] at ended
    cases status : play.status with
    | ended code crash => rfl
    | _ =>
      rw [status] at ended
      exact absurd rfl ended

/-- A play that has not ended takes a step, behind which it has shown all that it had shown
before. -/
theorem exists_leads {play : Play} (ongoing : play.exit? = none) (budget : Nat)
    (typed : List String) :
    ∃ rest after, Leads budget 1 typed play rest after ∧ play.Extends after := by
  cases status : play.status with
  | ended code crash =>
    rw [exit?, status] at ongoing
    cases ongoing
  | going => exact ⟨_, _, leads_step status, .of_responds (.step budget play)⟩
  | asking count =>
    cases typed with
    | nil => exact ⟨_, _, leads_end status, .answer play count none⟩
    | cons line rest => exact ⟨_, _, leads_line status line, .answer play count (some line)⟩

theorem Extends.carryOn (budget fuel : Nat) (typed : List String) (play : Play) :
    play.Extends (play.carryOn budget fuel typed) := by
  induction fuel generalizing typed play with
  | zero => exact .refl play
  | succ fuel ih =>
    cases ended : play.exit? with
    | some exit =>
      rw [carryOn_of_exit (by rw [ended]; rintro ⟨⟩)]
      exact .refl play
    | none =>
      obtain ⟨rest, after, leads, further⟩ := exists_leads ended budget typed
      rw [leads fuel]
      exact further.trans (ih rest after)

/-- With more steps a play shows more, and nothing changes where it has ended. -/
theorem carryOn_more (budget fuel more : Nat) (typed : List String) (play : Play) :
    (carryOn budget fuel typed play).Extends (carryOn budget (fuel + more) typed play) ∧
      ((carryOn budget fuel typed play).exit? ≠ none →
        carryOn budget (fuel + more) typed play = carryOn budget fuel typed play) := by
  induction fuel generalizing typed play with
  | zero => exact ⟨.carryOn budget _ typed play, carryOn_of_exit⟩
  | succ fuel ih =>
    cases ended : play.exit? with
    | some exit =>
      have stays (fuel : Nat) : carryOn budget fuel typed play = play :=
        carryOn_of_exit (by rw [ended]; rintro ⟨⟩)
      rw [stays, stays]
      exact ⟨.refl play, fun _ => rfl⟩
    | none =>
      obtain ⟨rest, after, leads, -⟩ := exists_leads ended budget typed
      rw [Nat.add_right_comm, leads, leads]
      exact ih rest after

theorem Extends.content {play after : Play} (extends' : play.Extends after) :
    play.content <+: after.content := List.IsPrefix.filter _ extends'

end Play

/-- Whatever a play shows is a beginning of what has come to a player by then, and where the play
has ended, it has ended for the player. -/
theorem Play.Stands.within {commands : Bool} {run : Run} {dialogue : Dialogue Unit}
    {seen : List Shown} {play : Play} (stands : play.Stands .going commands run dialogue seen)
    (budget fuel : Nat) (typed : List String) :
    ∃ pulls,
      (play.carryOn budget fuel typed).content <+:
        seen ++ (run.played budget pulls dialogue typed).shown commands ∧
      ((play.carryOn budget fuel typed).exit? ≠ none →
        (play.carryOn budget fuel typed).Agrees commands seen
          (run.played budget pulls dialogue typed)) := by
  obtain ⟨reached, agrees, enough, -⟩ := stands.reaches budget fuel typed
  refine ⟨fuel, ?_⟩
  obtain ⟨more, rfl⟩ | ⟨more, same⟩ := (Nat.le_total fuel reached).imp
    Nat.exists_eq_add_of_le Nat.exists_eq_add_of_le
  · obtain ⟨further, same⟩ := carryOn_more budget fuel more typed play
    refine ⟨agrees.content ▸ further.content, fun ended => ?_⟩
    rwa [same ended] at agrees
  · -- The play is there already, or else it has taken no more steps than the player has pulled.
    have there : play.carryOn budget fuel typed = play.carryOn budget reached typed := by
      cases ending : (run.played budget fuel dialogue typed).ending with
      | none =>
        have early := enough ending
        rw [Nat.le_antisymm early (same ▸ Nat.le_add_right _ _)]
      | some ending' =>
        rw [same]
        refine (carryOn_more budget reached more typed play).2 ?_
        rw [agrees.exit, Played.exit?, ending]
        rintro ⟨⟩
    rw [there]
    exact ⟨agrees.content ▸ List.prefix_refl _, fun _ => agrees⟩

/-! ### What has been read -/

namespace Play

/-- A play that has not ended takes a step, behind which every line that has been read stands in the
transcript. -/
theorem exists_leads_reading {play : Play} (ongoing : play.exit? = none) (budget : Nat)
    (typed : List String) :
    ∃ rest after, Leads budget 1 typed play rest after ∧
      Shown.read after.transcript.toList ++ rest = Shown.read play.transcript.toList ++ typed := by
  cases status : play.status with
  | ended code crash =>
    rw [exit?, status] at ongoing
    cases ongoing
  | going =>
    refine ⟨_, _, leads_step status, ?_⟩
    rw [(Responds.step budget play).read_eq fun _ reported => reported.untyped]
  | asking count =>
    cases typed with
    | nil =>
      refine ⟨_, _, leads_end status, ?_⟩
      rw [(Shows.abandon play).read_eq fun _ announced => announced.untyped]
    | cons line rest =>
      refine ⟨_, _, leads_line status line, ?_⟩
      rw [(Responds.answer count line play).read_eq fun _ announced => announced.untyped,
        display_typed status, Shown.read_append, List.append_assoc]
      rfl

/-- Of the lines that are there to be typed, a play that is carried on has read those that its
transcript shows, and would go on with the others. -/
theorem carryOn_reads (budget fuel : Nat) (typed : List String) (play : Play) :
    ∃ rest, Leads budget fuel typed play rest (play.carryOn budget fuel typed) ∧
      Shown.read (play.carryOn budget fuel typed).transcript.toList ++ rest =
        Shown.read play.transcript.toList ++ typed := by
  induction fuel generalizing typed play with
  | zero => exact ⟨typed, fun _ => rfl, rfl⟩
  | succ fuel ih =>
    cases ended : play.exit? with
    | some exit =>
      have stays (fuel : Nat) : play.carryOn budget fuel typed = play :=
        carryOn_of_exit (by rw [ended]; rintro ⟨⟩)
      exact ⟨typed, fun _ => by rw [stays, stays, stays], by rw [stays]⟩
    | none =>
      obtain ⟨others, after, leads, same⟩ := exists_leads_reading ended budget typed
      obtain ⟨rest, onward, reads⟩ := ih others after
      rw [leads fuel]
      exact ⟨rest, leads.trans onward, reads.trans same⟩

end Play

end Parley
