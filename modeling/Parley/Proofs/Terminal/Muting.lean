/-
This file compares a play that shows commands with one that hides them. Taking the
commands out of what a play has shown is a map on plays, and whatever a play does, it does
the same before and behind the map: the setting is read where a command is to be shown and
nowhere else. The one way in which showing a command could matter is that it cannot be
shown, which ends the play; so nothing that comes of the play may hold anything but
characters.

What is seen is the same but for the commands as well, on every console. How an item looks
depends on the item behind it where a prompt is given up, and a command never stands between
the two.

A play that shows commands shows every event that comes of its run, so the commands that
it shows are neither more nor fewer than those of the run.
-/

import Parley.Proofs.Terminal.Printing

namespace Parley

/-! ### The screen, item by item -/

namespace Shown

/-- The items that are no commands. -/
def withoutCommands (items : List Shown) : List Shown := items.filter fun item => !item.isCommand

theorem withoutCommands_append (items further : List Shown) :
    withoutCommands (items ++ further) = withoutCommands items ++ withoutCommands further :=
  List.filter_append ..

theorem withoutCommands_eq_self {items : List Shown}
    (quiet : ∀ item ∈ items, item.isCommand = false) : withoutCommands items = items :=
  List.filter_eq_self.2 fun item member => by rw [quiet item member, Bool.not_false]

theorem withoutCommands_singleton {item : Shown} (other : item.isCommand = false) :
    withoutCommands [item] = [item] := withoutCommands_eq_self (List.forall_mem_singleton.2 other)

theorem withoutCommands_cons {item : Shown} (other : item.isCommand = false)
    (rest : List Shown) : withoutCommands (item :: rest) = item :: withoutCommands rest := by
  rw [withoutCommands, List.filter_cons, other]
  rfl

theorem withoutCommands_cons_command {item : Shown} (command : item.isCommand = true)
    (rest : List Shown) : withoutCommands (item :: rest) = withoutCommands rest := by
  rw [withoutCommands, List.filter_cons, command]
  rfl

/-- The same lines have been read. -/
theorem read_withoutCommands (items : List Shown) : read (withoutCommands items) = read items := by
  rw [read, read, withoutCommands, List.filterMap_filter]
  refine List.filterMap_congr fun item _ => ?_
  split
  · rfl
  · next command =>
    cases item with
    | typed line => exact absurd rfl command
    | _ => rfl

end Shown

namespace Screen

/-- Without the commands, what is seen of the other items is the same. -/
theorem parts_withoutCommands (console : Console) (echo : Bool) {items : List Shown}
    (orderly : Shown.Orderly items) :
    parts console echo (Shown.withoutCommands items) =
      (parts console echo items).filter fun seen => !seen.1.isCommand := by
  obtain ⟨paced, -⟩ := orderly
  induction items with
  | nil => rfl
  | cons item rest ih =>
    obtain ⟨next, paced⟩ := List.isChain_cons.1 paced
    have later := ih paced
    cases command : item.isCommand with
    | true =>
      rw [Shown.withoutCommands_cons_command command, parts, List.filter_cons, command]
      exact later
    | false =>
      have seen : part console echo item (Shown.withoutCommands rest).head? =
          part console echo item rest.head? := by
        by_cases prompt : item = .prompt
        · -- What stands behind a prompt is no command, and stays where it is.
          cases rest with
          | nil => rfl
          | cons first others =>
            rw [Shown.withoutCommands_cons (next first rfl prompt)]
            rfl
        · rw [part_of_ne console echo prompt, part_of_ne console echo prompt]
      rw [Shown.withoutCommands_cons command, parts, parts, List.filter_cons, command, seen, later]
      rfl

end Screen

/-! ### Plays that hide commands -/

/-- Settings with commands shown or hidden. -/
def Settings.withCommands (commands : Bool) (settings : Settings) : Settings :=
  { settings with showCommands := commands }

namespace Play

/-- A play that hides commands, and has shown none of those that it would have shown. -/
def muted (play : Play) : Play :=
  { play with
    settings := play.settings.withCommands false
    transcript := (Shown.withoutCommands play.transcript.toList).toArray }

/-- Any item but a command is shown as well where commands are hidden, as far as it can be. -/
theorem muted_display (play : Play) {item : Shown} (other : item.isCommand = false) :
    (play.display item).muted = play.muted.display item := by
  have begun := Shown.withoutCommands_eq_self fun part member =>
    (item.announced_beginning part member).uncommanding
  rw [display, display]
  have same : play.muted.isOver = play.isOver := rfl
  rw [same]
  split
  · rfl
  · split
    · rw [muted, muted]
      simp only [Array.toList_push, Shown.withoutCommands_append,
        Shown.withoutCommands_singleton other, List.push_toArray]
    · rw [muted, muted]
      simp only [Array.toList_appendList, Shown.withoutCommands_append, begun,
        List.toArray_appendList]

/-- A command that can be shown makes no difference where commands are hidden. -/
theorem muted_display_command (play : Play) {text : Text}
    (showable : (Shown.event (.command text)).isShowable = true) :
    (play.display (.event (.command text))).muted = play.muted := by
  have nothing : Shown.withoutCommands [.event (.command text)] = [] := rfl
  rw [display, showable]
  split
  · rfl
  · rw [if_pos rfl, muted, muted]
    simp only [Array.toList_push, Shown.withoutCommands_append, nothing, List.append_nil]

theorem muted_moveTo (play : Play) (status : PlayStatus) :
    (play.moveTo status).muted = play.muted.moveTo status := by
  have same : play.muted.isOver = play.isOver := rfl
  rw [moveTo, moveTo, same]
  split <;> rfl

theorem muted_showJournal (play : Play) : play.showJournal.muted = play.muted.showJournal := by
  have entries (entries : List Entry) (play : Play) :
      (entries.foldl (fun play entry => play.display (.entry entry)) play).muted =
        entries.foldl (fun play entry => play.display (.entry entry)) play.muted := by
    induction entries generalizing play with
    | nil => rfl
    | cons entry rest ih =>
      rw [List.foldl_cons, List.foldl_cons, ih, muted_display play rfl]
  exact entries _ { play with dialogue := play.dialogue.unreported }

theorem muted_note (play : Play) (note : Note) : (play.note note).muted = play.muted.note note :=
  muted_showJournal { play with dialogue := play.dialogue.changeWorld (·.note note) }

theorem muted_fail (play : Play) (fault : Fault) :
    (play.fail fault).muted = play.muted.fail fault := by
  rw [fail, fail, finish, finish, finish, finish]
  split
  · rw [muted_moveTo, muted_display play rfl]
  · exact muted_moveTo play _

theorem muted_conclude (play : Play) : play.conclude.muted = play.muted.conclude := by
  have noted := muted_note play (.playFinished play.dialogue.phase play.dialogue.world.current)
  unfold conclude
  dsimp only
  have same : play.muted.dialogue = play.dialogue := rfl
  rw [same, ← noted]
  generalize play.note _ = after
  have same : after.muted.dialogue = after.dialogue := rfl
  rw [same, finish, finish, muted_moveTo]
  split
  · rw [muted_display after rfl]
  · rfl

theorem muted_ask (play : Play) (count : Nat) : (play.ask count).muted = play.muted.ask count := by
  rw [ask, ask, muted_moveTo, muted_display play rfl]

/-- What is shown of an event is the same, unless it is a command. -/
theorem muted_perform (play : Play) {event : Event} (legible : event.Legible) :
    (play.perform event).muted = play.muted.perform event := by
  cases event with
  | line text => exact muted_display play rfl
  | command text =>
    have hides : play.muted.perform (.command text) = play.muted := by
      rw [perform]
      exact if_neg Bool.false_ne_true
    rw [hides, perform]
    split
    · exact muted_display_command play legible.isShowable
    · rfl
  | options texts =>
    rw [perform, perform, muted_ask, muted_display play rfl]

/-- What a play makes of what it got from a pull is the same, if that can be shown. -/
theorem muted_take (play : Play) {result : Except Fault Dialogue.Yield}
    (legible : ∀ yielded, result = .ok yielded → yielded.Legible) :
    (play.take result).muted = play.muted.take result := by
  cases result with
  | error fault => exact muted_fail play fault
  | ok yielded =>
    cases yielded with
    | event event => exact muted_perform play (legible _ rfl)
    | ended => exact muted_conclude play
    | unfinished => rfl

theorem muted_abandon (play : Play) : play.abandon.muted = play.muted.abandon := by
  have same : Dialogue.close play.muted.run play.muted.dialogue =
      Dialogue.close play.run play.dialogue := rfl
  rw [abandon, abandon, same]
  obtain ⟨run, dialogue⟩ := Dialogue.close play.run play.dialogue
  dsimp only
  rw [finish, finish, muted_moveTo, muted_display _ rfl, muted_showJournal]
  rfl

/-- An answer is taken in the same way. -/
theorem muted_answer (play : Play) (count : Nat) (line : Option String) :
    (play.answer count line).muted = play.muted.answer count line := by
  cases line with
  | none => exact muted_abandon play
  | some line =>
    unfold answer
    dsimp only
    rw [← muted_display play rfl]
    generalize play.display (.typed line) = after
    have same : after.muted.run = after.run := rfl
    split
    · exact muted_ask after count
    · split
      · rw [muted_ask, muted_display after rfl]
      · split
        · rw [same]
          split
          · exact muted_moveTo _ .going
          · exact muted_fail after _
        · rw [muted_ask, muted_display after rfl]

/-! ### Plays that show commands -/

theorem isOver_fail (play : Play) (fault : Fault) : (play.fail fault).isOver = true := by
  rw [fail]
  split <;> exact isOver_finish _ 1 _

/-- A play shows commands, and its dialogue and what is left of its run can be shown. -/
structure Outspoken (play : Play) : Prop where
  commands : play.settings.showCommands = true
  dialogue : play.dialogue.Legible
  left : play.run.stage.Legible

namespace Outspoken

variable {play : Play} (outspoken : play.Outspoken)

include outspoken

theorem display (item : Shown) : (play.display item).Outspoken := by
  rw [Play.display]
  split
  · exact outspoken
  · split <;> exact ⟨outspoken.commands, outspoken.dialogue, outspoken.left⟩

theorem moveTo (status : PlayStatus) : (play.moveTo status).Outspoken := by
  rw [Play.moveTo]
  split
  · exact outspoken
  · exact ⟨outspoken.commands, outspoken.dialogue, outspoken.left⟩

theorem ask (count : Nat) : (play.ask count).Outspoken := (outspoken.display .prompt).moveTo _

theorem fail (fault : Fault) : (play.fail fault).Outspoken := by
  rw [Play.fail]
  split
  · exact (outspoken.display _).moveTo _
  · exact outspoken.moveTo _

theorem showJournal : play.showJournal.Outspoken :=
  showJournal_keeps (fun _ entry outspoken => outspoken.display (.entry entry))
    ⟨outspoken.commands, outspoken.dialogue.unreported, outspoken.left⟩

/-- A play that shows commands shows every event. -/
theorem perform_eq (event : Event) : play.perform event = play.display (.event event) ∨
    ∃ count, play.perform event = (play.display (.event event)).ask count := by
  cases event with
  | line text => exact .inl rfl
  | command text => exact .inl (if_pos outspoken.commands)
  | options texts => exact .inr ⟨texts.length, rfl⟩

theorem perform (event : Event) : (play.perform event).Outspoken := by
  obtain same | ⟨count, same⟩ := outspoken.perform_eq event
  · rw [same]
    exact outspoken.display _
  · rw [same]
    exact (outspoken.display _).ask count

theorem take {result : Except Fault Dialogue.Yield}
    (ongoing : (play.take result).isOver = false) : (play.take result).Outspoken := by
  cases result with
  | error fault => exact outspoken.fail fault
  | ok yielded =>
    cases yielded with
    | event event => exact outspoken.perform event
    | ended =>
      have ended : play.conclude.isOver = true := isOver_finish _ 0 none
      rw [Play.take, ended] at ongoing
      cases ongoing
    | unfinished => exact outspoken

/-- A play shows commands behind a step as well, and all of it can be shown, unless it has ended. -/
theorem step {budget : Nat} (ongoing : (play.step budget).isOver = false) :
    (play.step budget).Outspoken := by
  obtain ⟨-, -, left, dialogue⟩ :=
    Dialogue.legible_pull budget outspoken.left outspoken.dialogue
  generalize pulled : Dialogue.pull budget play.run play.dialogue = outcome at left dialogue
  obtain ⟨result, run, after⟩ := outcome
  have behind : { play with run, dialogue := after }.Outspoken :=
    ⟨outspoken.commands, dialogue, left⟩
  rw [step_apply pulled] at ongoing ⊢
  exact behind.showJournal.take ongoing

/-- So it does behind an answer. -/
theorem answer {count : Nat} {line : Option String}
    (ongoing : (play.answer count line).isOver = false) :
    (play.answer count line).Outspoken := by
  cases line with
  | none =>
    have ended : play.abandon.isOver = true := isOver_finish _ 1 none
    rw [Play.answer, ended] at ongoing
    cases ongoing
  | some line =>
    have typed := outspoken.display (.typed line)
    unfold Play.answer
    dsimp only
    split
    · exact typed.ask count
    · split
      · exact (typed.display _).ask count
      · split
        · split
          · next run chosen =>
            have left : run.stage.Legible := by
              rw [Run.stage_choose chosen]
              exact typed.left
            have answered : { play.display (.typed line) with run }.Outspoken :=
              ⟨typed.commands, typed.dialogue, left⟩
            exact answered.moveTo .going
          · exact typed.fail _
        · exact (typed.display _).ask count

end Outspoken

/-! ### The events of a play -/

/-- The event that the next step of a play gets from a pull, if it gets one. -/
def pulled? (budget : Nat) (play : Play) : Option Event :=
  match (Dialogue.pull budget play.run play.dialogue).1 with
  | .ok (.event event) => some event
  | _ => none

/-- The events that a play gets when it is carried on. -/
def yields (budget : Nat) : Nat → List String → Play → List Event
  | 0, _, _ => []
  | fuel + 1, typed, play =>
    match play.status, typed with
    | .ended _ _, _ => []
    | .going, _ => (play.pulled? budget).toList ++ yields budget fuel typed (play.step budget)
    | .asking count, [] => yields budget fuel [] (play.answer count none)
    | .asking count, line :: rest => yields budget fuel rest (play.answer count (some line))

namespace Outspoken

variable {play : Play} (outspoken : play.Outspoken)

include outspoken

theorem events_perform (ongoing : play.isOver = false) {event : Event} (legible : event.Legible) :
    Shown.events (play.perform event).transcript.toList =
      Shown.events play.transcript.toList ++ [event] := by
  have shown : Shown.events (play.display (.event event)).transcript.toList =
      Shown.events play.transcript.toList ++ [event] := by
    rw [display_apply ongoing legible.isShowable, Play.showing, Array.toList_append,
      Shown.events_append]
    rfl
  obtain same | ⟨count, same⟩ := outspoken.perform_eq event
  · rw [same, shown]
  · rw [same, events_ask, shown]

/-- A step shows the event that it gets, and no other. -/
theorem events_step (going : play.status = .going) (budget : Nat) :
    Shown.events (play.step budget).transcript.toList =
      Shown.events play.transcript.toList ++ (play.pulled? budget).toList := by
  obtain ⟨-, yields, left, dialogue⟩ :=
    Dialogue.legible_pull budget outspoken.left outspoken.dialogue
  rw [pulled?]
  generalize pulled : Dialogue.pull budget play.run play.dialogue = outcome at yields left dialogue
  obtain ⟨result, run, after⟩ := outcome
  have behind : { play with run, dialogue := after }.Outspoken :=
    ⟨outspoken.commands, dialogue, left⟩
  have goes : { play with run, dialogue := after }.isOver = false := isOver_of_going going
  have ongoing : { play with run, dialogue := after }.showJournal.isOver = false := by
    rw [showJournal_apply goes behind.dialogue.world.journal]
    exact goes
  have journal := (Shows.showJournal { play with run, dialogue := after }).events_eq
  have reported := behind.showJournal
  rw [step_apply pulled]
  generalize { play with run, dialogue := after }.showJournal = noted at ongoing journal reported
  have same : Shown.events noted.transcript.toList = Shown.events play.transcript.toList := journal
  rw [← same]
  cases result with
  | error fault => exact (Shows.fail noted fault).events_eq.trans (List.append_nil _).symm
  | ok yielded =>
    cases yielded with
    | event event => exact reported.events_perform ongoing (yields _ rfl)
    | ended => exact (Shows.conclude noted).events_eq.trans (List.append_nil _).symm
    | unfinished => exact (List.append_nil _).symm

end Outspoken

/-- A play that shows commands shows all the events that it gets. -/
theorem events_carryOn (budget fuel : Nat) (typed : List String) {play : Play}
    (outspoken : play.isOver = false → play.Outspoken) :
    Shown.events (play.carryOn budget fuel typed).transcript.toList =
      Shown.events play.transcript.toList ++ play.yields budget fuel typed := by
  induction fuel generalizing typed play with
  | zero => exact (List.append_nil _).symm
  | succ fuel ih =>
    rw [carryOn.eq_def, yields.eq_def]
    dsimp only
    cases status : play.status with
    | ended code crash => exact (List.append_nil _).symm
    | going =>
      have shows' := outspoken (isOver_of_going status)
      dsimp only
      rw [ih typed fun ongoing => shows'.step ongoing, shows'.events_step status,
        List.append_assoc]
    | asking count =>
      have shows' := outspoken (isOver_of_asking status)
      cases typed with
      | nil =>
        dsimp only
        rw [ih [] fun ongoing => shows'.answer ongoing, answer, (Shows.abandon play).events_eq]
      | cons line rest =>
        dsimp only
        rw [ih rest fun ongoing => shows'.answer ongoing,
          (Responds.answer count line play).events_eq, display_typed status, Shown.events_append]
        exact congrArg (· ++ _) (List.append_nil _)

/-! ### Step by step -/

theorem muted_step {play : Play} (outspoken : play.Outspoken) (budget : Nat) :
    (play.step budget).muted = play.muted.step budget := by
  obtain ⟨-, yields, -⟩ := Dialogue.legible_pull budget outspoken.left outspoken.dialogue
  generalize pulled : Dialogue.pull budget play.run play.dialogue = outcome at yields
  obtain ⟨result, run, dialogue⟩ := outcome
  have same : Dialogue.pull budget play.muted.run play.muted.dialogue = (result, run, dialogue) :=
    pulled
  rw [step_apply pulled, step_apply same, muted_take _ yields, muted_showJournal]
  rfl

/-- A play that hides commands goes in step with one that shows them. -/
theorem muted_carryOn (budget fuel : Nat) (typed : List String) {play : Play}
    (outspoken : play.isOver = false → play.Outspoken) :
    (play.carryOn budget fuel typed).muted = play.muted.carryOn budget fuel typed := by
  induction fuel generalizing typed play with
  | zero => rfl
  | succ fuel ih =>
    have same : play.muted.status = play.status := rfl
    rw [carryOn.eq_def, carryOn.eq_def]
    dsimp only
    rw [same]
    cases status : play.status with
    | ended code crash => rfl
    | going =>
      have shown := outspoken (isOver_of_going status)
      dsimp only
      rw [ih typed fun ongoing => shown.step ongoing, muted_step shown]
    | asking count =>
      have shown := outspoken (isOver_of_asking status)
      cases typed with
      | nil => rw [ih [] fun ongoing => shown.answer ongoing, muted_answer]
      | cons line rest => rw [ih rest fun ongoing => shown.answer ongoing, muted_answer]

end Play

end Parley
