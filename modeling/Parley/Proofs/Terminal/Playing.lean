/-
This file describes what a play does from one line that is typed to the next. Where
everything that comes of the run can be shown, showing is adding to the transcript: what
was noted since the last event, as far as the log filter lets it through, and then the
event. The journal is emptied with each showing, so the dialogue of a play differs in its
journal from one that nobody shows; no run can tell the two apart.

`Stands` says how a play stands to a run of a dialogue that nobody shows. Each step and
each answer is described by what it makes of this.
-/

import Parley.Proofs.Dialogue.Legible
import Parley.Proofs.Dialogue.Reloading
import Parley.Terminal.Command

namespace Parley

/-! ### What is shown -/

/-- Tells whether an item is more than a line of the log and more than what passes between the
terminal and the player until an integer has been typed. -/
def Shown.isContent : Shown → Bool
  | entry _ | prompt | typed _ | refused _ | unreadableSetting _ => false
  | _ => true

theorem Shown.texts_event (event : Event) : (Shown.event event).texts = event.texts := by
  cases event <;> rfl

theorem Event.Legible.isShowable {event : Event} (legible : event.Legible) :
    (Shown.event event).isShowable = true := by
  rw [Shown.isShowable, Shown.texts_event]
  exact List.all_eq_true.2 legible

theorem Entry.Legible.isShowable {entry : Entry} (legible : entry.Legible) :
    (Shown.entry entry).isShowable = true := by
  rw [Shown.isShowable, Shown.texts, List.all_cons, List.all_cons, legible.1, legible.2]
  rfl

/-- What is shown of an event: commands are shown if the settings say so. -/
def Event.shown (commands : Bool) : Event → List Shown
  | command text => if commands then [.event (.command text)] else []
  | event => [.event event]

/-- A dialogue whose journal has been shown. -/
def Dialogue.unreported (dialogue : Dialogue Unit) : Dialogue Unit :=
  { dialogue with world := { dialogue.world with journal := #[] } }

theorem Dialogue.Legible.unreported {dialogue : Dialogue Unit} (legible : dialogue.Legible) :
    dialogue.unreported.Legible :=
  legible.changeWorld ⟨legible.world.current, legible.world.executing,
    fun entry member => absurd member (Array.not_mem_empty entry)⟩

namespace Play

/-- The items of the transcript that are more than the log and the prompts. -/
def content (play : Play) : List Shown := play.transcript.toList.filter Shown.isContent

/-- A play with more items in its transcript. -/
def showing (items : List Shown) (play : Play) : Play :=
  { play with transcript := play.transcript ++ items.toArray }

theorem content_showing (items : List Shown) (play : Play) :
    (play.showing items).content = play.content ++ items.filter Shown.isContent := by
  rw [content, content, showing, Array.toList_append, List.filter_append]

theorem showing_nil (play : Play) : play.showing [] = play := by
  rw [showing, Array.append_empty]

theorem showing_showing (items further : List Shown) (play : Play) :
    (play.showing items).showing further = play.showing (items ++ further) := by
  simp only [showing, Array.append_assoc, List.append_toArray]

theorem filter_entries (entries : List Entry) :
    (entries.map Shown.entry).filter Shown.isContent = [] := by
  rw [List.filter_eq_nil_iff]
  rintro _ member shown
  obtain ⟨entry, -, rfl⟩ := List.mem_map.1 member
  cases shown

theorem display_apply {play : Play} (ongoing : play.isOver = false) {item : Shown}
    (showable : item.isShowable = true) : play.display item = play.showing [item] := by
  rw [display, ongoing, showable, if_neg Bool.false_ne_true, if_pos rfl, showing,
    Array.push_eq_append]

theorem isOver_display {play : Play} (ongoing : play.isOver = false) {item : Shown}
    (showable : item.isShowable = true) : (play.display item).isOver = false := by
  rw [display_apply ongoing showable]
  exact ongoing

theorem moveTo_apply {play : Play} (ongoing : play.isOver = false) (status : PlayStatus) :
    play.moveTo status = { play with status } := by
  rw [moveTo, ongoing, if_neg Bool.false_ne_true]

/-- Entries that can be shown are shown one after the other. -/
theorem displayAll_apply {entries : List Entry} (legible : ∀ entry ∈ entries, entry.Legible)
    (play : Play) (ongoing : play.isOver = false) :
    entries.foldl (fun play entry => play.display (.entry entry)) play =
      play.showing (entries.map .entry) := by
  induction entries generalizing play with
  | nil => exact play.showing_nil.symm
  | cons entry rest ih =>
    obtain ⟨first, behind⟩ := List.forall_mem_cons.1 legible
    rw [List.foldl_cons, display_apply ongoing first.isShowable]
    exact (ih behind (play.showing [.entry entry]) ongoing).trans (play.showing_showing _ _)

/-- The journal is shown as far as the log filter lets it through. -/
theorem showJournal_apply {play : Play} (ongoing : play.isOver = false)
    (legible : ∀ entry ∈ play.dialogue.world.journal, entry.Legible) :
    play.showJournal = { play with dialogue := play.dialogue.unreported }.showing
      ((play.dialogue.world.journal.filter play.levels.showsEntry).toList.map .entry) := by
  refine displayAll_apply (fun entry member => ?_)
    { play with dialogue := play.dialogue.unreported } ongoing
  rw [Array.mem_toList_iff] at member
  exact legible entry (Array.mem_filter.1 member).1

theorem dialogue_showJournal {play : Play} (ongoing : play.isOver = false)
    (legible : ∀ entry ∈ play.dialogue.world.journal, entry.Legible) :
    play.showJournal.dialogue = play.dialogue.unreported := by
  rw [showJournal_apply ongoing legible]
  rfl

end Play

/-! ### How a play stands -/

namespace Play

/-- How a play stands to a run of a dialogue that nobody shows: the play has the run, and its
dialogue differs in the journal at most; all that will come of it can be shown; and of its
transcript `seen` is content. -/
structure Stands (status : PlayStatus) (commands : Bool) (run : Run) (dialogue : Dialogue Unit)
    (seen : List Shown) (play : Play) : Prop where
  status : play.status = status
  commands : play.settings.showCommands = commands
  run : play.run = run
  dialogue : (Pairing.alike World.SameButJournal).Dialogues play.dialogue dialogue
  seen : play.content = seen
  legible : play.dialogue.Legible
  left : play.run.stage.Legible

/-- A play has ended with an exit code, without a crash, and `seen` is the content of its
transcript. -/
structure Ends (code : Nat) (seen : List Shown) (play : Play) : Prop where
  status : play.status = .ended code none
  seen : play.content = seen

theorem isOver_of_going {play : Play} (going : play.status = .going) : play.isOver = false := by
  rw [isOver, going]

theorem isOver_of_asking {play : Play} {count : Nat} (asking : play.status = .asking count) :
    play.isOver = false := by
  rw [isOver, asking]

namespace Stands

variable {status : PlayStatus} {commands : Bool} {run : Run} {dialogue : Dialogue Unit}
  {seen : List Shown} {play : Play}

theorem showing (stands : play.Stands status commands run dialogue seen) (items : List Shown) :
    (play.showing items).Stands status commands run dialogue
      (seen ++ items.filter Shown.isContent) :=
  { stands with seen := by rw [content_showing, stands.seen] }

theorem display (stands : play.Stands status commands run dialogue seen)
    (ongoing : play.isOver = false) (item : Shown) (showable : item.isShowable = true) :
    (play.display item).Stands status commands run dialogue
      (seen ++ [item].filter Shown.isContent) := by
  rw [display_apply ongoing showable]
  exact stands.showing [item]

/-- What is no content can be shown at any time. -/
theorem displayAside (stands : play.Stands status commands run dialogue seen)
    (ongoing : play.isOver = false) (item : Shown) (showable : item.isShowable = true)
    (aside : item.isContent = false) :
    (play.display item).Stands status commands run dialogue seen := by
  have shown := stands.display ongoing item showable
  rwa [List.filter_cons_of_neg (by rw [aside]; exact Bool.false_ne_true), List.filter_nil,
    List.append_nil] at shown

theorem moveTo (stands : play.Stands status commands run dialogue seen)
    (ongoing : play.isOver = false) (other : PlayStatus) :
    (play.moveTo other).Stands other commands run dialogue seen := by
  rw [moveTo_apply ongoing]
  exact { stands with status := rfl }

theorem finish (stands : play.Stands status commands run dialogue seen)
    (ongoing : play.isOver = false) (code : Nat) : (play.finish code none).Ends code seen := by
  have ended := stands.moveTo ongoing (.ended code none)
  exact ⟨ended.status, ended.seen⟩

theorem showJournal (stands : play.Stands status commands run dialogue seen)
    (ongoing : play.isOver = false) :
    play.showJournal.Stands status commands run dialogue seen := by
  rw [showJournal_apply ongoing stands.legible.world.journal]
  have emptied : { play with dialogue := play.dialogue.unreported }.Stands status commands run
      dialogue seen :=
    { stands with
      dialogue := { stands.dialogue with world := { stands.dialogue.world with } }
      legible := stands.legible.unreported }
  have shown := emptied.showing
    ((play.dialogue.world.journal.filter play.levels.showsEntry).toList.map .entry)
  rwa [filter_entries, List.append_nil] at shown

theorem note (stands : play.Stands status commands run dialogue seen)
    (ongoing : play.isOver = false) (note : Note)
    (named : ∀ name ∈ note.names, name.isString = true) :
    (play.note note).Stands status commands run dialogue seen := by
  have noted : { play with dialogue := play.dialogue.changeWorld (·.note note) }.Stands status
      commands run dialogue seen :=
    { stands with
      dialogue := { stands.dialogue with world := { stands.dialogue.world with } }
      legible := stands.legible.note note named }
  exact noted.showJournal ongoing

end Stands

/-! ### Steps -/

/-- What a play makes of what it got from a pull. -/
def take (result : Except Fault Dialogue.Yield) (play : Play) : Play :=
  match result with
  | .error fault => play.fail fault
  | .ok (.event event) => play.perform event
  | .ok .ended => play.conclude
  | .ok .unfinished => play

theorem step_apply {budget : Nat} {play : Play} {result : Except Fault Dialogue.Yield} {run : Run}
    {dialogue : Dialogue Unit}
    (pulled : Dialogue.pull budget play.run play.dialogue = (result, run, dialogue)) :
    play.step budget = { play with run, dialogue }.showJournal.take result := by
  rw [step, pulled]
  rfl

end Play

/-- A pull comes to the same in dialogues that differ in their worlds at most, if no run can tell
the worlds apart. -/
theorem Pairing.Dialogues.pull {worlds : World Unit → World Unit → Prop}
    (indistinct : Indistinct worlds) {one other final' : Dialogue Unit}
    (dialogues : (alike worlds).Dialogues one other) {budget : Nat} {run onward : Run}
    {result : Except Fault Dialogue.Yield}
    (pulled : Dialogue.pull budget run other = (result, onward, final')) :
    ∃ final, Dialogue.pull budget run one = (result, onward, final) ∧
      (alike worlds).Dialogues final final' := by
  have sound := sound_alike indistinct
  have goes := Dialogues.guarded sound
    (dialogues.resume sound budget (Offer.latest? run.offers) (stages_alike run.stage))
  rw [Dialogue.pull] at pulled ⊢
  generalize Dialogue.guarded (Dialogue.resume budget (Offer.latest? run.offers) run.stage) one =
    outcome at goes ⊢
  generalize Dialogue.guarded (Dialogue.resume budget (Offer.latest? run.offers) run.stage) other =
    outcome' at goes pulled
  cases goes with
  | error fault dialogues =>
    cases pulled
    exact ⟨_, rfl, dialogues⟩
  | ok pulls dialogues =>
    cases pulls with
    | ended | unfinished =>
      cases pulled
      exact ⟨_, rfl, dialogues⟩
    | event event nodes left =>
      cases nodes
      cases left
      cases pulled
      exact ⟨_, rfl, dialogues⟩

namespace Play.Stands

variable {status : PlayStatus} {commands : Bool} {run : Run} {dialogue : Dialogue Unit}
  {seen : List Shown} {play : Play}

/-- A step shows what was noted during a pull, and then what the pull came to. -/
theorem step (stands : play.Stands .going commands run dialogue seen) {budget : Nat}
    {result : Except Fault Dialogue.Yield} {onward : Run} {final : Dialogue Unit}
    (pulled : Dialogue.pull budget run dialogue = (result, onward, final)) :
    ∃ shown : Play, play.step budget = shown.take result ∧
      shown.Stands .going commands onward final seen ∧
      (∀ fault, result = .error fault → fault.Legible) ∧
      ∀ yielded, result = .ok yielded → yielded.Legible := by
  obtain ⟨after, done, alike⟩ :=
    stands.dialogue.pull World.SameButJournal.indistinct pulled
  obtain rfl := stands.run
  obtain ⟨faults, yields, left, legible⟩ :=
    Dialogue.legible_pull budget stands.left stands.legible
  rw [done] at faults yields left legible
  have behind : { play with run := onward, dialogue := after }.Stands .going commands onward final
      seen := { stands with run := rfl, dialogue := alike, legible, left }
  exact ⟨_, step_apply done, behind.showJournal (isOver_of_going stands.status), faults, yields⟩

theorem fail (stands : play.Stands .going commands run dialogue seen) {fault : Fault}
    (legible : fault.Legible) :
    (play.fail fault).Ends 1 (seen ++ [.failure fault.message]) := by
  have ongoing := isOver_of_going stands.status
  have showable : (Shown.failure fault.message).isShowable = true := by
    rw [Shown.isShowable, Shown.texts, List.all_cons, legible.2]
    rfl
  have shown := stands.display ongoing _ showable
  rw [Play.fail, if_pos legible.1]
  exact shown.finish (isOver_of_going shown.status) 1

theorem conclude (stands : play.Stands .going commands run dialogue seen) :
    play.conclude.Ends 0
      (seen ++ if dialogue.phase = .aborted then [.stopped dialogue.world.current] else []) := by
  have named : ∀ name ∈ play.dialogue.world.current.toList, name.isString = true :=
    fun name member => stands.legible.world.current name (Option.mem_toList.1 member)
  have noted := stands.note (isOver_of_going stands.status)
    (.playFinished play.dialogue.phase play.dialogue.world.current) named
  have showable : (Shown.stopped play.dialogue.world.current).isShowable = true :=
    List.all_eq_true.2 named
  have concluded : play.conclude =
      let after := play.note (.playFinished play.dialogue.phase play.dialogue.world.current)
      (if after.dialogue.phase = .aborted then after.display (.stopped play.dialogue.world.current)
        else after).finish 0 none := rfl
  rw [concluded]
  generalize play.note (.playFinished play.dialogue.phase play.dialogue.world.current) = after
    at noted
  dsimp only
  rw [noted.dialogue.phase, ← stands.dialogue.world.current]
  split
  · have shown := noted.display (isOver_of_going noted.status) _ showable
    exact shown.finish (isOver_of_going shown.status) 0
  · rw [List.append_nil]
    exact noted.finish (isOver_of_going noted.status) 0

/-- An event that offers nothing is shown, unless it is a command and commands are not shown. -/
theorem perform (stands : play.Stands .going commands run dialogue seen) {event : Event}
    (legible : event.Legible) (choiceless : ∀ texts, event ≠ .options texts) :
    (play.perform event).Stands .going commands run dialogue (seen ++ event.shown commands) := by
  have shown := stands.display (isOver_of_going stands.status) _ legible.isShowable
  cases event with
  | line text => exact shown
  | command text =>
    rw [Play.perform, stands.commands, Event.shown]
    cases commands with
    | false =>
      rw [if_neg Bool.false_ne_true, if_neg Bool.false_ne_true, List.append_nil]
      exact stands
    | true => exact shown
  | options texts => exact absurd rfl (choiceless texts)

theorem ask (stands : play.Stands status commands run dialogue seen)
    (ongoing : play.isOver = false) (count : Nat) :
    (play.ask count).Stands (.asking count) commands run dialogue seen := by
  have asked := stands.displayAside ongoing .prompt rfl rfl
  exact asked.moveTo (isOver_display ongoing rfl) (.asking count)

theorem perform_options (stands : play.Stands .going commands run dialogue seen) {texts : List Text}
    (legible : (Event.options texts).Legible) :
    (play.perform (.options texts)).Stands (.asking texts.length) commands run dialogue
      (seen ++ [.event (.options texts)]) := by
  have shown := stands.display (isOver_of_going stands.status) _ legible.isShowable
  exact shown.ask (isOver_of_going shown.status) texts.length

/-! ### Answers -/

theorem abandon {count : Nat} (stands : play.Stands (.asking count) commands run dialogue seen) :
    play.abandon.Ends 1 (seen ++ [.abandoned]) := by
  have closed : { play with
      run := { play.run with stage := .ended }
      dialogue := (Dialogue.close play.run play.dialogue).2 }.Stands (.asking count) commands
      { play.run with stage := .ended } (Dialogue.close play.run dialogue).2 seen := by
    refine { stands with run := rfl, dialogue := ?_, legible := ?_, left := trivial }
    · rw [Dialogue.close, Dialogue.close]
      cases play.run.stage with
      | inside node traversal =>
        exact stands.dialogue.ended (Pairing.sound_alike World.SameButJournal.indistinct) .completed
      | _ => exact stands.dialogue
    · rw [Dialogue.close]
      cases play.run.stage with
      | inside node traversal => exact stands.legible.ended .completed
      | _ => exact stands.legible
  have reported := closed.showJournal (isOver_of_asking closed.status)
  have shown := reported.display (isOver_of_asking reported.status) .abandoned rfl
  have abandoned : play.abandon = ({ play with
      run := { play.run with stage := .ended }
      dialogue := (Dialogue.close play.run play.dialogue).2 }.showJournal.display
        .abandoned).finish 1 none := by
    rw [Play.abandon, Dialogue.close]
    cases play.run.stage <;> rfl
  rw [abandoned]
  exact shown.finish (isOver_of_asking shown.status) 1

end Play.Stands

/-- The integer that a typed line is, if it is one. -/
def Answer.typed? (line : String) : Option Int :=
  if line = "" then none else (integer line).toOption

/-- The latest offer, if it has not been answered, can be answered with the number of any reply. -/
theorem Run.choose_latest {run : Run} {count : Nat} (latest : run.offers.getLast? = some { count })
    {number : Int} (positive : 1 ≤ number) (within : number ≤ count) :
    ∃ answered, run.choose (run.offers.length - 1) (.int (number - 1)) = .ok answered := by
  rw [List.getLast?_eq_getElem?] at latest
  have named : Offer.index? count (.int (number - 1)) = some (number - 1).toNat :=
    if_pos ⟨by omega, by omega⟩
  rw [Run.choose, Offer.chooseIn, latest]
  dsimp only
  rw [Offer.choose, named]
  exact ⟨_, rfl⟩

namespace Play

/-- A play whose latest offer is answered with the number of a reply, counted from one. -/
def reply (number : Int) (play : Play) : Play :=
  match play.run.choose (play.run.offers.length - 1) (.int (number - 1)) with
  | .ok run => { play with run }.moveTo .going
  | .error fault => play.fail fault

theorem answer_of_typed {play : Play} {count : Nat} {line : String} {number : Int}
    (given : Answer.typed? line = some number) :
    play.answer count (some line) =
      if 1 ≤ number ∧ number ≤ count then (play.display (.typed line)).reply number
      else ((play.display (.typed line)).display (.outOfRange count)).ask count := by
  unfold Answer.typed? at given
  unfold answer
  split at given
  · cases given
  · next there =>
    cases integer : Answer.integer line with
    | error message =>
      rw [integer] at given
      cases given
    | ok named =>
      rw [integer] at given
      obtain rfl : named = number := Option.some.inj given
      dsimp only
      rw [if_neg there, integer]
      rfl

namespace Stands

variable {commands : Bool} {run : Run} {dialogue : Dialogue Unit} {seen : List Shown} {play : Play}
  {count : Nat}

/-- What is typed is no content. -/
theorem typed (stands : play.Stands (.asking count) commands run dialogue seen) (line : String) :
    (play.display (.typed line)).Stands (.asking count) commands run dialogue seen :=
  stands.displayAside (isOver_of_asking stands.status) (.typed line) rfl rfl

/-- A line that is no integer is asked for once more. -/
theorem answer_none (stands : play.Stands (.asking count) commands run dialogue seen)
    {line : String} (other : Answer.typed? line = none) :
    (play.answer count (some line)).Stands (.asking count) commands run dialogue seen := by
  have typed := stands.typed line
  unfold Answer.typed? at other
  unfold Play.answer
  dsimp only
  split
  · exact typed.ask (isOver_of_asking typed.status) count
  · next there =>
    rw [if_neg there] at other
    cases integer : Answer.integer line with
    | ok number =>
      rw [integer] at other
      cases other
    | error message =>
      have refused :=
        typed.displayAside (isOver_of_asking typed.status) (.refused message) rfl rfl
      exact refused.ask (isOver_of_asking refused.status) count

/-- A number that no reply has is complained of. -/
theorem answer_missed (stands : play.Stands (.asking count) commands run dialogue seen)
    {line : String} {number : Int} (given : Answer.typed? line = some number)
    (beyond : ¬ (1 ≤ number ∧ number ≤ count)) :
    (play.answer count (some line)).Stands (.asking count) commands run dialogue
      (seen ++ [.outOfRange count]) := by
  have typed := stands.typed line
  rw [answer_of_typed given, if_neg beyond]
  have missed := typed.display (isOver_of_asking typed.status) (.outOfRange count) rfl
  exact missed.ask (isOver_of_asking missed.status) count

/-- The number of a reply answers the offer, and the play goes on. -/
theorem answer_chosen (stands : play.Stands (.asking count) commands run dialogue seen)
    {line : String} {number : Int} (given : Answer.typed? line = some number)
    (within : 1 ≤ number ∧ number ≤ count) {answered : Run}
    (chosen : run.choose (run.offers.length - 1) (.int (number - 1)) = .ok answered) :
    (play.answer count (some line)).Stands .going commands answered dialogue seen := by
  have typed := stands.typed line
  rw [answer_of_typed given, if_pos within, reply, typed.run, chosen]
  have left : answered.stage.Legible := by
    rw [Run.stage_choose chosen, ← typed.run]
    exact typed.left
  have answers : { play.display (.typed line) with run := answered }.Stands (.asking count) commands
      answered dialogue seen := { typed with run := rfl, left }
  exact answers.moveTo (isOver_of_asking answers.status) .going

end Stands

end Play

end Parley
