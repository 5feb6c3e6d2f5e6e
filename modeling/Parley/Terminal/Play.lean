/-
Playing a dialogue on a terminal. A play shows event after event until the run
asks for a choice; it then waits for a line that is typed, and asks again until
the line is the number of a reply. It ends with the run, at a fault, or when
there is nothing more to read.

A play that waits is a value, so it can be carried on with lines from anywhere.
-/

import Parley.Binding
import Parley.Dialogue.Run
import Parley.Settings.Basic
import Parley.Terminal.Answer
import Parley.Terminal.Screen

namespace Parley

/-- A failure that is no fault of the dialogue and ends the program. -/
inductive Crash where
  | unknownLevel (entry : String × String)
  | settings (faults : SettingFaults)
  | binding (fault : BindingFault)
  | fault (fault : Fault)
  /-- A text that is to be shown holds something that is no character, or the console can make no
  table of what is to be listed. -/
  | unshowable

/-- How a play stands: it goes on, it waits for a choice among a number of replies, or it has ended
with an exit code and perhaps a crash. -/
inductive PlayStatus where
  | going
  | asking (count : Nat)
  | ended (code : Nat) (crash : Option Crash)

/-- A play: the dialogue, its run, and what has been shown so far. -/
structure Play where
  dialogue : Dialogue Unit
  run : Run
  settings : Settings
  levels : LogLevels
  transcript : Array Shown := #[]
  status : PlayStatus := .going

namespace Play

/-- Tells whether a play has ended. -/
def isOver (play : Play) : Bool :=
  match play.status with
  | .ended _ _ => true
  | _ => false

/-- Moves a play on to a status, unless it has ended. -/
def moveTo (play : Play) (status : PlayStatus) : Play :=
  if play.isOver then play else { play with status }

/-- Ends a play. -/
def finish (play : Play) (code : Nat) (crash : Option Crash) : Play :=
  play.moveTo (.ended code crash)

/-- Shows an item, unless the play has ended. What cannot be shown ends it. -/
def display (play : Play) (item : Shown) : Play :=
  if play.isOver then play
  else if item.isShowable then { play with transcript := play.transcript.push item }
  else
    { play with
      transcript := play.transcript ++ item.beginning
      status := .ended 1 (some .unshowable) }

/-- Shows the entries of the journal that the log filter shows, and empties the journal. -/
def showJournal (play : Play) : Play :=
  let world := play.dialogue.world
  let entries := (world.journal.filter play.levels.showsEntry).toList
  let emptied := { play.dialogue with world := { world with journal := #[] } }
  entries.foldl (fun play entry => play.display (.entry entry)) { play with dialogue := emptied }

/-- Makes a note and shows it if the log filter does. -/
def note (play : Play) (note : Note) : Play :=
  ({ play with dialogue := play.dialogue.changeWorld (·.note note) }).showJournal

/-- Ends a play at a fault: a fault of the dialogue is shown, any other crashes the program. -/
def fail (play : Play) (fault : Fault) : Play :=
  if fault.ofDialogue then (play.display (.failure fault.message)).finish 1 none
  else play.finish 1 (some (.fault fault))

/-- Ends a play whose run has ended, and says where if it was broken off. -/
def conclude (play : Play) : Play :=
  let current := play.dialogue.world.current
  let play := play.note (.playFinished play.dialogue.phase current)
  let play := if play.dialogue.phase = .aborted then play.display (.stopped current) else play
  play.finish 0 none

/-- Asks for a choice among a number of replies. -/
def ask (play : Play) (count : Nat) : Play :=
  (play.display .prompt).moveTo (.asking count)

/-- Shows an event; commands are shown if the settings say so. -/
def perform (play : Play) (event : Event) : Play :=
  match event with
  | .line _ => play.display (.event event)
  | .command _ => if play.settings.showCommands then play.display (.event event) else play
  | .options texts => (play.display (.event event)).ask texts.length

/-- Pulls the next event and shows it. -/
def step (budget : Nat) (play : Play) : Play :=
  let (result, run, dialogue) := play.dialogue.pull budget play.run
  let play := ({ play with run, dialogue }).showJournal
  match result with
  | .error fault => play.fail fault
  | .ok (.event event) => play.perform event
  | .ok .ended => play.conclude
  | .ok .unfinished => play

/-- Gives a play up where there is nothing more to read: its run is closed first. -/
def abandon (play : Play) : Play :=
  let (run, dialogue) := play.dialogue.close play.run
  (({ play with run, dialogue }).showJournal.display .abandoned).finish 1 none

/-- Takes a typed line, or the end of the input, where a choice among `count` replies is waited
for. -/
def answer (play : Play) (count : Nat) (line : Option String) : Play :=
  match line with
  | none => play.abandon
  | some line =>
    let play := play.display (.typed line)
    if line = "" then play.ask count
    else
      match Answer.integer line with
      | .error message => (play.display (.refused message)).ask count
      | .ok number =>
        if 1 ≤ number ∧ number ≤ count then
          match play.run.choose (play.run.offers.length - 1) (.int (number - 1)) with
          | .ok run => { play with run }.moveTo .going
          | .error fault => play.fail fault
        else (play.display (.outOfRange count)).ask count

/-- Carries a play on for at most `fuel` steps, with the lines that will be typed. -/
def carryOn (budget : Nat) : Nat → List String → Play → Play
  | 0, _, play => play
  | fuel + 1, typed, play =>
    match play.status, typed with
    | .ended _ _, _ => play
    | .going, _ => carryOn budget fuel typed (play.step budget)
    | .asking count, [] => carryOn budget fuel [] (play.answer count none)
    | .asking count, line :: rest => carryOn budget fuel rest (play.answer count (some line))

end Play

end Parley
