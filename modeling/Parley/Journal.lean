/-
The journal: what a run reports while it goes on. A note is either a record for
the log, which has a level and a source that log filters refer to, or a message
to one of the two sinks that the host provides. Each note is kept with the node
whose body was running when it was made, if one was.
-/

import Parley.Value

namespace Parley

/-- The stages of a dialogue: not started, running between two events, waiting for the host at an
event, ended as the script meant it, or broken off. -/
inductive Phase where
  | idle
  | running
  | suspended
  | completed
  | aborted
  deriving DecidableEq, Repr

/-- The name of a phase. -/
def Phase.name : Phase → String
  | idle => "idle"
  | running => "running"
  | suspended => "suspended"
  | completed => "completed"
  | aborted => "aborted"

/-- The levels of records, the least important first. -/
inductive Level where
  | trace
  | debug
  | info
  | success
  | warning
  | error
  | critical
  deriving DecidableEq, Repr

namespace Level

/-- All levels. -/
def all : List Level := [trace, debug, info, success, warning, error, critical]

/-- The name of a level. -/
def name : Level → String
  | trace => "TRACE"
  | debug => "DEBUG"
  | info => "INFO"
  | success => "SUCCESS"
  | warning => "WARNING"
  | error => "ERROR"
  | critical => "CRITICAL"

/-- The weight of a level. -/
def weight : Level → Nat
  | trace => 5
  | debug => 10
  | info => 20
  | success => 25
  | warning => 30
  | error => 40
  | critical => 50

/-- The level of a name. -/
def ofName? (wanted : String) : Option Level := all.find? fun level => level.name = wanted

end Level

/-- Who reports. -/
inductive Source where
  | loader
  | dialogue
  | engine
  | terminal
  deriving DecidableEq, Repr

/-- The dotted name by which log filters refer to a source. -/
def Source.name : Source → String
  | loader => "spindle.loader"
  | dialogue => "spindle.runtime.dialogue"
  | engine => "spindle.runtime.engine"
  | terminal => "spindle.cli.app"

/-- What is reported. -/
inductive Note where
  | scriptLoaded (nodes : Nat)
  | nodesAdded (added total : Nat)
  | runStarted (start : Text)
  | runFinished (phase : Phase) (node : Option Text)
  | assertFailed (node : Option Text)
  | nodeEntered (name : Text)
  | nodeCompleted (name : Text) (next : Option Text)
  | assigned (name : Text) (value : Value)
  | choiceSkipped
  | optionChosen (index : Nat)
  | playStarted (script start : Text)
  | playFinished (phase : Phase) (node : Option Text)
  | tellLoaded (nodes : Nat)
  | tellRunning (name : Text)
  | tellComplete
  | tellMissing (name : Text)
  deriving DecidableEq

/-- Where a note goes: to the log, or to a sink of the host. -/
inductive Channel where
  | log
  | debugSink
  | errorSink
  deriving DecidableEq, Repr

namespace Note

/-- Where a note goes. -/
def channel : Note → Channel
  | tellLoaded _ | tellRunning _ | tellComplete => .debugSink
  | tellMissing _ => .errorSink
  | _ => .log

/-- Who reports a note. The sinks are called by the dialogue. -/
def source : Note → Source
  | scriptLoaded _ => .loader
  | nodeEntered _ | nodeCompleted _ _ | assigned _ _ | choiceSkipped | optionChosen _ => .engine
  | playStarted _ _ | playFinished _ _ => .terminal
  | _ => .dialogue

/-- The level of a note, were it logged. -/
def level : Note → Level
  | tellMissing _ => .error
  | _ => .debug

/-- A name that may be missing. -/
def nameText (name : Option Text) : Text := name.getD "None"

/-- The wording of a note. -/
def message : Note → Text
  | scriptLoaded nodes => "loader.loaded nodes=" ++ toString nodes
  | nodesAdded added total =>
    "dialogue.load added=" ++ toString added ++ " total=" ++ toString total
  | runStarted start => "dialogue.run start=" ++ start
  | runFinished phase node => "dialogue.finish state=" ++ phase.name ++ " node=" ++ nameText node
  | assertFailed node => "dialogue.assert_failed node=" ++ nameText node
  | nodeEntered name => "engine.node name=" ++ name
  | nodeCompleted name next => "engine.node_complete name=" ++ name ++ " next=" ++ nameText next
  | assigned name value => "engine.assign variable=" ++ name ++ " value=" ++ value.listed
  | choiceSkipped => "engine.choice_skipped reason=no_available_options"
  | optionChosen index => "engine.option_chosen index=" ++ toString index
  | playStarted script start => "play.start script=" ++ script ++ " start=" ++ start
  | playFinished phase node => "play.finish state=" ++ phase.name ++ " node=" ++ nameText node
  | tellLoaded nodes => "Loaded " ++ toString nodes ++ " node(s)"
  | tellRunning name => "Running node " ++ name
  | tellComplete => "Run complete."
  | tellMissing name => "Can't find node " ++ name

end Note

/-- The name shown for the node whose body is running, a dash if none is. -/
def contextName (running : Option Text) : Text := running.getD "-"

/-- A note and the node whose body was running when it was made. -/
structure Entry where
  context : Option Text
  note : Note
  deriving DecidableEq

end Parley
