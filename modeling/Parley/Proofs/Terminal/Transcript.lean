/-
This file describes how the transcript of a play grows. A step of a run shows what was
noted, an event or the end, and last of all it may ask for a choice; an answer puts the
line that was typed into the transcript, shows what is to be said about it, and may ask
once more. So no command ever stands right behind a prompt, and the command that ends a
run stands nowhere, since no pull yields it.

This holds whether or not the items can be shown and whatever the settings are.
-/

import Mathlib.Data.List.Chain
import Parley.Proofs.Terminal.Playing

namespace Parley

/-! ### The command that ends a run -/

/-- An operation of a dialogue whose answers are fit, wherever it is started. -/
abbrev Operation.Answers {Host Answer : Type} (operation : Operation Host Answer)
    (fit : Answer → Prop) : Prop :=
  Confined (fun _ => True) (fun _ => True) operation fit

/-- A turn that does not yield the command `stop`. -/
def Turn.Unstopped : Turn → Prop
  | .event yielded _ => yielded ≠ .command Dialogue.stopCommand
  | _ => True

/-- A pull that does not come to the command `stop`. -/
def Pulled.Unstopped : Pulled → Prop
  | .event yielded _ _ => yielded ≠ .command Dialogue.stopCommand
  | _ => True

namespace Dialogue

variable {Host : Type}

theorem answers_any {Answer : Type} (operation : Operation Host Answer) :
    operation.Answers fun _ => True := by
  intro dialogue _
  cases operation dialogue <;> exact ⟨trivial, trivial⟩

theorem unstopped_judge (node : Node) (result : Result) (traversal : Traversal)
    (dialogue : Dialogue Host) : (judge node result traversal dialogue).1.Unstopped := by
  rw [judge.eq_def]
  split
  · trivial
  · next other =>
    split
    · trivial
    · cases result with
      | complete next => trivial
      | event yielded =>
        rintro rfl
        exact other rfl

theorem unstopped_takeTurn (node : Node) (chosen : Option Nat) (traversal : Traversal) :
    (takeTurn node chosen traversal : Operation Host Turn).Answers Turn.Unstopped := by
  intro dialogue _
  rw [takeTurn_apply]
  cases (Engine.pull (dialogue.shelf.call home) chosen traversal).during node.name
      dialogue.world with
  | error fault world => exact ⟨trivial, trivial⟩
  | ok pulled world =>
    cases pulled with
    | none => exact ⟨trivial, trivial⟩
    | some pulled => exact ⟨trivial, unstopped_judge node pulled.1 pulled.2 _⟩

theorem unstopped_follow (budget : Nat) (next : Option Text) :
    (follow budget next : Operation Host Pulled).Answers Pulled.Unstopped := by
  induction budget generalizing next with
  | zero =>
    cases next with
    | none =>
      refine Confined.bind (answers_any _) fun _ _ => ?_
      exact Confined.bind (answers_any _) fun _ _ => .pure trivial
    | some name => exact .pure trivial
  | succ budget ih =>
    cases next with
    | none =>
      refine Confined.bind (answers_any _) fun _ _ => ?_
      exact Confined.bind (answers_any _) fun _ _ => .pure trivial
    | some name =>
      refine Confined.bind (answers_any _) fun found _ => ?_
      cases found with
      | none => exact .pure trivial
      | some node =>
        refine Confined.bind (unstopped_takeTurn node none _) fun turn unstopped => ?_
        cases turn with
        | event yielded traversal => exact .pure unstopped
        | ended => exact .pure trivial
        | follow next => exact ih next

theorem unstopped_resume (budget : Nat) (chosen : Option Nat) (stage : Stage) :
    (resume budget chosen stage : Operation Host Pulled).Answers Pulled.Unstopped := by
  cases stage with
  | unstarted start => exact unstopped_follow budget (some start)
  | inside node traversal =>
    refine Confined.bind (answers_any _) fun _ _ => ?_
    refine Confined.bind (unstopped_takeTurn node chosen traversal) fun turn unstopped => ?_
    cases turn with
    | event yielded traversal => exact .pure unstopped
    | ended => exact .pure trivial
    | follow next => exact unstopped_follow budget next
  | ended => exact .pure trivial

/-- No pull yields the command `stop`. -/
theorem pull_ne_stop (budget : Nat) (run : Run) (dialogue : Dialogue Host) :
    (pull budget run dialogue).1 ≠ .ok (.event (.command stopCommand)) := by
  have resumed := unstopped_resume budget (Offer.latest? run.offers) run.stage dialogue trivial
  rw [pull, guarded_apply]
  cases result : resume budget (Offer.latest? run.offers) run.stage dialogue with
  | error fault dialogue => rintro ⟨⟩
  | ok pulled dialogue =>
    rw [result] at resumed
    cases pulled with
    | event yielded node traversal =>
      rintro ⟨⟩
      exact resumed.2 rfl
    | _ => rintro ⟨⟩

end Dialogue

/-! ### Items of a transcript -/

namespace Shown

/-- Tells whether an item is a command. -/
def isCommand : Shown → Bool
  | event (.command _) => true
  | _ => false

/-- The event that an item shows. -/
def event? : Shown → Option Event
  | event yielded => some yielded
  | _ => none

/-- The line that an item shows to have been typed. -/
def typed? : Shown → Option String
  | typed line => some line
  | _ => none

/-- The events that a transcript shows. -/
def events (items : List Shown) : List Event := items.filterMap event?

/-- The lines that have been read by the end of a transcript. -/
def read (items : List Shown) : List String := items.filterMap typed?

/-- What may be shown of itself: no prompt, no line that was typed, and not the command `stop`. -/
structure Reported (item : Shown) : Prop where
  unprompted : item ≠ .prompt
  untyped : item.typed? = none
  unstopped : item ≠ .event (.command Dialogue.stopCommand)

/-- What may be shown at any time: anything but prompts, lines that were typed, and events. -/
structure Announced (item : Shown) : Prop where
  unprompted : item ≠ .prompt
  untyped : item.typed? = none
  uneventful : item.event? = none

theorem Announced.uncommanding {item : Shown} (announced : item.Announced) :
    item.isCommand = false := by
  cases item with
  | event yielded => cases announced.uneventful
  | _ => rfl

theorem Announced.reported {item : Shown} (announced : item.Announced) : item.Reported where
  unprompted := announced.unprompted
  untyped := announced.untyped
  unstopped := by
    rintro rfl
    cases announced.uneventful

theorem Announced.entry (entry : Entry) : (Shown.entry entry).Announced :=
  ⟨by rintro ⟨⟩, rfl, rfl⟩

/-- Where an item cannot be shown, what is seen of it may be shown at any time. -/
theorem announced_beginning (item : Shown) : ∀ part ∈ item.beginning, part.Announced := by
  intro part member
  cases item with
  | event event =>
    cases event with
    | options texts =>
      obtain rfl := List.mem_singleton.1 member
      exact ⟨by rintro ⟨⟩, rfl, rfl⟩
    | _ => cases member
  | _ => cases member

theorem events_append (items further : List Shown) :
    events (items ++ further) = events items ++ events further := List.filterMap_append

theorem events_eq_nil {items : List Shown} (uneventful : ∀ item ∈ items, item.event? = none) :
    events items = [] := List.filterMap_eq_nil_iff.2 uneventful

theorem read_append (items further : List Shown) :
    read (items ++ further) = read items ++ read further := List.filterMap_append

theorem read_eq_nil {items : List Shown} (untyped : ∀ item ∈ items, item.typed? = none) :
    read items = [] := List.filterMap_eq_nil_iff.2 untyped

/-- A transcript in which no command stands right behind a prompt, and the command `stop` stands
nowhere. -/
structure Orderly (items : List Shown) : Prop where
  paced : items.IsChain fun before after => before = .prompt → after.isCommand = false
  unstopped : .event (.command Dialogue.stopCommand) ∉ items

namespace Orderly

variable {items further : List Shown}

theorem of_reported (reported : ∀ item ∈ items, item.Reported) : Orderly items where
  paced := by
    refine (List.pairwise_of_forall_mem_list fun before member after _ prompt => ?_).isChain
    exact absurd prompt (reported before member).unprompted
  unstopped member := (reported _ member).unstopped rfl

/-- Where the last item is no prompt, anything but a prompt may come. -/
theorem append_reported (orderly : Orderly items) (last : items.getLast? ≠ some .prompt)
    (reported : ∀ item ∈ further, item.Reported) : Orderly (items ++ further) where
  paced := by
    refine List.isChain_append.2 ⟨orderly.paced, (of_reported reported).paced, ?_⟩
    rintro before latest _ _ rfl
    exact absurd latest last
  unstopped member := (List.mem_append.1 member).elim orderly.unstopped
    fun later => (of_reported reported).unstopped later

/-- At any time, anything but a command may come. -/
theorem append (orderly : Orderly items) (quiet : ∀ item ∈ further, item.isCommand = false) :
    Orderly (items ++ further) where
  paced := by
    refine List.isChain_append.2 ⟨orderly.paced, List.Pairwise.isChain ?_, ?_⟩
    · exact List.pairwise_of_forall_mem_list fun _ _ after member _ => quiet after member
    · exact fun _ _ after first _ => quiet after (List.mem_of_mem_head? first)
  unstopped member := (List.mem_append.1 member).elim orderly.unstopped
    fun later => Bool.false_ne_true (quiet _ later).symm

end Orderly

end Shown

/-! ### Showing more -/

namespace Play

/-- What holds of a play whose journal is empty, and through every entry that is shown, holds when
the journal has been shown. -/
theorem showJournal_keeps {held : Play → Prop} {play : Play}
    (kept : ∀ play entry, held play → held (play.display (.entry entry)))
    (emptied : held { play with dialogue := play.dialogue.unreported }) :
    held play.showJournal := by
  have entries (entries : List Entry) {play : Play} (holds : held play) :
      held (entries.foldl (fun play entry => play.display (.entry entry)) play) := by
    induction entries generalizing play with
    | nil => exact holds
    | cons entry rest ih => exact ih (kept play entry holds)
  exact entries _ emptied

/-- A play has shown more, and every item that it has shown since is such. -/
def Shows (such : Shown → Prop) (play after : Play) : Prop :=
  ∃ items, after.transcript.toList = play.transcript.toList ++ items ∧ ∀ item ∈ items, such item

namespace Shows

variable {such : Shown → Prop} {play middle after : Play}

theorem refl (play : Play) : play.Shows such play := ⟨[], (List.append_nil _).symm, by rintro _ ⟨⟩⟩

theorem trans (onward : play.Shows such middle) (further : middle.Shows such after) :
    play.Shows such after := by
  obtain ⟨items, first, fits⟩ := onward
  obtain ⟨others, second, fit⟩ := further
  refine ⟨items ++ others, by rw [second, first, List.append_assoc], fun item member => ?_⟩
  exact (List.mem_append.1 member).elim (fits item) (fit item)

theorem reported (shows' : play.Shows Shown.Announced after) :
    play.Shows Shown.Reported after := by
  obtain ⟨items, same, announced⟩ := shows'
  exact ⟨items, same, fun item member => (announced item member).reported⟩

/-- An item is shown, or what can be seen of it, or nothing. -/
theorem display (play : Play) {item : Shown} (fits : such item)
    (cut : ∀ part ∈ item.beginning, such part) : play.Shows such (play.display item) := by
  rw [Play.display]
  split
  · exact .refl play
  · split
    · exact ⟨[item], Array.toList_push .., List.forall_mem_singleton.2 fits⟩
    · exact ⟨item.beginning, Array.toList_appendList .., cut⟩

theorem announce (play : Play) {item : Shown} (announced : item.Announced) :
    play.Shows Shown.Announced (play.display item) :=
  display play announced item.announced_beginning

theorem report (play : Play) {item : Shown} (reported : item.Reported) :
    play.Shows Shown.Reported (play.display item) :=
  display play reported fun part member => (item.announced_beginning part member).reported

theorem moveTo (play : Play) (status : PlayStatus) : play.Shows such (play.moveTo status) := by
  rw [Play.moveTo]
  split <;> exact .refl play

theorem showJournal (play : Play) : play.Shows Shown.Announced play.showJournal :=
  showJournal_keeps (fun after entry shown => shown.trans (announce after (.entry entry)))
    (refl play)

theorem note (play : Play) (note : Note) : play.Shows Shown.Announced (play.note note) :=
  showJournal { play with dialogue := play.dialogue.changeWorld (·.note note) }

theorem fail (play : Play) (fault : Fault) : play.Shows Shown.Announced (play.fail fault) := by
  rw [Play.fail]
  split
  · exact (announce play ⟨by rintro ⟨⟩, rfl, rfl⟩).trans (moveTo _ _)
  · exact moveTo play _

theorem conclude (play : Play) : play.Shows Shown.Announced play.conclude := by
  unfold Play.conclude
  refine (note play (.playFinished play.dialogue.phase play.dialogue.world.current)).trans ?_
  dsimp only
  split
  · exact (announce _ ⟨by rintro ⟨⟩, rfl, rfl⟩).trans (moveTo _ _)
  · exact moveTo _ _

theorem abandon (play : Play) : play.Shows Shown.Announced play.abandon := by
  refine (showJournal { play with
    run := (Dialogue.close play.run play.dialogue).1
    dialogue := (Dialogue.close play.run play.dialogue).2 }).trans ?_
  exact (announce _ ⟨by rintro ⟨⟩, rfl, rfl⟩).trans (moveTo _ _)

/-- Where all that was shown before is such, all that has been shown is. -/
theorem all_of_all (shows' : play.Shows such after)
    (before : ∀ item ∈ play.transcript.toList, such item) :
    ∀ item ∈ after.transcript.toList, such item := by
  obtain ⟨items, same, fits⟩ := shows'
  rw [same]
  exact fun item member => (List.mem_append.1 member).elim (before item) (fits item)

theorem read_eq (untyped : ∀ item, such item → item.typed? = none)
    (shows' : play.Shows such after) :
    Shown.read after.transcript.toList = Shown.read play.transcript.toList := by
  obtain ⟨items, same, fits⟩ := shows'
  have nothing := Shown.read_eq_nil fun item member => untyped item (fits item member)
  rw [same, Shown.read_append, nothing, List.append_nil]

theorem events_eq (shows' : play.Shows Shown.Announced after) :
    Shown.events after.transcript.toList = Shown.events play.transcript.toList := by
  obtain ⟨items, same, announced⟩ := shows'
  have nothing := Shown.events_eq_nil fun item member => (announced item member).uneventful
  rw [same, Shown.events_append, nothing, List.append_nil]

end Shows

/-! ### Asking -/

theorem isOver_finish (play : Play) (code : Nat) (crash : Option Crash) :
    (play.finish code crash).isOver = true := by
  rw [finish, moveTo]
  split
  · assumption
  · rfl

theorem not_going_of_isOver {play : Play} (finished : play.isOver = true) :
    play.status ≠ .going := by
  intro going
  rw [isOver_of_going going] at finished
  cases finished

/-- A play that has asked does not go on of itself, and has shown no more than a prompt. -/
theorem ask_spec (play : Play) (count : Nat) :
    (play.ask count).status ≠ .going ∧
      ((play.ask count).transcript.toList = play.transcript.toList ∨
        (play.ask count).transcript.toList = play.transcript.toList ++ [.prompt]) := by
  cases finished : play.isOver with
  | true =>
    have stays : play.ask count = play := by
      rw [ask, display, if_pos finished, moveTo, if_pos finished]
    rw [stays]
    exact ⟨not_going_of_isOver finished, .inl rfl⟩
  | false =>
    have asks : play.ask count = { play.showing [.prompt] with status := .asking count } := by
      have ongoing : (play.showing [.prompt]).isOver = false := finished
      rw [ask, display_apply finished rfl, moveTo_apply ongoing]
    rw [asks]
    exact ⟨by rintro ⟨⟩, .inr Array.toList_append⟩

theorem events_ask (play : Play) (count : Nat) :
    Shown.events (play.ask count).transcript.toList = Shown.events play.transcript.toList := by
  obtain ⟨-, same | same⟩ := play.ask_spec count
  · rw [same]
  · rw [same, Shown.events_append]
    exact List.append_nil _

/-- A play shows items that are such, and perhaps asks behind them. -/
def Responds (such : Shown → Prop) (play after : Play) : Prop :=
  ∃ shown, play.Shows such shown ∧ (after = shown ∨ ∃ count, after = shown.ask count)

namespace Responds

variable {such : Shown → Prop} {play middle after : Play}

theorem behind (onward : play.Shows such middle) (responds : middle.Responds such after) :
    play.Responds such after := by
  obtain ⟨shown, further, asked⟩ := responds
  exact ⟨shown, onward.trans further, asked⟩

theorem reported (responds : play.Responds Shown.Announced after) :
    play.Responds Shown.Reported after := by
  obtain ⟨shown, shows', asked⟩ := responds
  exact ⟨shown, shows'.reported, asked⟩

theorem of_shows (shows' : play.Shows such after) : play.Responds such after :=
  ⟨after, shows', .inl rfl⟩

theorem of_ask (shows' : play.Shows such middle) (count : Nat) :
    play.Responds such (middle.ask count) := ⟨middle, shows', .inr ⟨count, rfl⟩⟩

/-- What is shown of an event. An offer is asked for last of all. -/
theorem perform (play : Play) {event : Event} (other : event ≠ .command Dialogue.stopCommand) :
    play.Responds Shown.Reported (play.perform event) := by
  have reported : (Shown.event event).Reported := by
    refine ⟨by rintro ⟨⟩, rfl, ?_⟩
    rintro ⟨⟩
    exact other rfl
  cases event with
  | line text => exact of_shows (.report play reported)
  | command text =>
    rw [Play.perform]
    split
    · exact of_shows (.report play reported)
    · exact of_shows (.refl play)
  | options texts => exact of_ask (.report play reported) texts.length

theorem take (play : Play) {result : Except Fault Dialogue.Yield}
    (unstopped : result ≠ .ok (.event (.command Dialogue.stopCommand))) :
    play.Responds Shown.Reported (play.take result) := by
  cases result with
  | error fault => exact of_shows (Shows.fail play fault).reported
  | ok yielded =>
    cases yielded with
    | event event =>
      refine perform play ?_
      rintro rfl
      exact unstopped rfl
    | ended => exact of_shows (Shows.conclude play).reported
    | unfinished => exact of_shows (.refl play)

/-- A step shows no more than may be shown of itself, and may ask behind it. -/
theorem step (budget : Nat) (play : Play) : play.Responds Shown.Reported (play.step budget) := by
  have unstopped := Dialogue.pull_ne_stop budget play.run play.dialogue
  generalize pulled : Dialogue.pull budget play.run play.dialogue = outcome at unstopped
  obtain ⟨result, run, dialogue⟩ := outcome
  rw [step_apply pulled]
  exact behind (Shows.showJournal { play with run, dialogue }).reported (take _ unstopped)

/-- Behind a line that was typed no command is shown, and it may be asked once more. -/
theorem answer (count : Nat) (line : String) (play : Play) :
    (play.display (.typed line)).Responds Shown.Announced (play.answer count (some line)) := by
  unfold Play.answer
  dsimp only
  split
  · exact of_ask (.refl _) count
  · split
    · exact of_ask (.announce _ ⟨by rintro ⟨⟩, rfl, rfl⟩) count
    · split
      · split
        · next run _ =>
          exact of_shows (Shows.moveTo { play.display (.typed line) with run } .going)
        · exact of_shows (.fail _ _)
      · exact of_ask (.announce _ ⟨by rintro ⟨⟩, rfl, rfl⟩) count

theorem read_eq (untyped : ∀ item, such item → item.typed? = none)
    (responds : play.Responds such after) :
    Shown.read after.transcript.toList = Shown.read play.transcript.toList := by
  obtain ⟨shown, shows', rfl | ⟨count, rfl⟩⟩ := responds
  · exact shows'.read_eq untyped
  · rw [← shows'.read_eq untyped]
    obtain ⟨-, same | same⟩ := shown.ask_spec count
    · rw [same]
    · rw [same, Shown.read_append]
      exact List.append_nil _

theorem events_eq (responds : play.Responds Shown.Announced after) :
    Shown.events after.transcript.toList = Shown.events play.transcript.toList := by
  obtain ⟨shown, shows', rfl | ⟨count, rfl⟩⟩ := responds
  · exact shows'.events_eq
  · rw [← shows'.events_eq, events_ask]

end Responds

/-! ### Whole plays -/

/-- What holds of a play through every step and every answer holds wherever it is carried on to. -/
theorem carryOn_keeps {held : Play → Prop} {budget : Nat}
    (steps : ∀ play : Play, play.status = .going → held play → held (play.step budget))
    (answers : ∀ (play : Play) (count : Nat) (line : Option String),
      play.status = .asking count → held play → held (play.answer count line))
    (fuel : Nat) (typed : List String) {play : Play} (holds : held play) :
    held (play.carryOn budget fuel typed) := by
  induction fuel generalizing typed play with
  | zero => exact holds
  | succ fuel ih =>
    rw [carryOn.eq_def]
    dsimp only
    cases status : play.status with
    | ended code crash => exact holds
    | going => exact ih typed (steps play status holds)
    | asking count =>
      cases typed with
      | nil => exact ih [] (answers play count none status holds)
      | cons line rest => exact ih rest (answers play count (some line) status holds)

/-- A play whose transcript is in order, and that waits for a line to be typed or has ended where
the last item is a prompt. -/
structure Orderly (play : Play) : Prop where
  transcript : Shown.Orderly play.transcript.toList
  answered : play.status = .going → play.transcript.toList.getLast? ≠ some .prompt

theorem Responds.orderly {play after : Play} (transcript : Shown.Orderly play.transcript.toList)
    (last : play.transcript.toList.getLast? ≠ some .prompt)
    (responds : play.Responds Shown.Reported after) : after.Orderly := by
  obtain ⟨shown, ⟨items, same, reported⟩, asked⟩ := responds
  have still : Shown.Orderly shown.transcript.toList := by
    rw [same]
    exact transcript.append_reported last reported
  have answered : shown.transcript.toList.getLast? ≠ some .prompt := by
    rw [same, List.getLast?_append]
    cases latest : items.getLast? with
    | none => exact last
    | some item =>
      rintro ⟨⟩
      exact (reported _ (List.mem_of_getLast? latest)).unprompted rfl
  obtain rfl | ⟨count, rfl⟩ := asked
  · exact ⟨still, fun _ => answered⟩
  · obtain ⟨waits, asked⟩ := shown.ask_spec count
    refine ⟨?_, fun going => absurd going waits⟩
    obtain asked | asked := asked
    · rw [asked]
      exact still
    · rw [asked]
      exact still.append (List.forall_mem_singleton.2 rfl)

/-- A line that is typed where it is waited for is in the transcript. -/
theorem display_typed {play : Play} {count : Nat} (asking : play.status = .asking count)
    (line : String) :
    (play.display (.typed line)).transcript.toList = play.transcript.toList ++ [.typed line] := by
  rw [display_apply (isOver_of_asking asking) rfl]
  exact Array.toList_append

namespace Orderly

variable {play : Play} (orderly : play.Orderly)

include orderly

theorem step (going : play.status = .going) (budget : Nat) : (play.step budget).Orderly :=
  (Responds.step budget play).orderly orderly.transcript (orderly.answered going)

theorem answer {count : Nat} (asking : play.status = .asking count) (line : Option String) :
    (play.answer count line).Orderly := by
  cases line with
  | none =>
    have ended : play.abandon.isOver = true := isOver_finish _ 1 none
    obtain ⟨items, same, announced⟩ := Shows.abandon play
    refine ⟨?_, fun going => absurd going (not_going_of_isOver ended)⟩
    rw [Play.answer, same]
    exact orderly.transcript.append fun item member => (announced item member).uncommanding
  | some line =>
    refine (Responds.answer count line play).reported.orderly ?_ ?_
    · rw [display_typed asking]
      exact orderly.transcript.append (List.forall_mem_singleton.2 rfl)
    · rw [display_typed asking, List.getLast?_concat]
      rintro ⟨⟩

theorem carryOn (budget fuel : Nat) (typed : List String) :
    (play.carryOn budget fuel typed).Orderly :=
  carryOn_keeps (fun _ going orderly => orderly.step going budget)
    (fun _ _ line asking orderly => orderly.answer asking line) fuel typed orderly

end Orderly

end Play

end Parley
