/-
The command line. `play SCRIPT` plays a script, from the node that `--start` or
`-s` names and with the variables that `--var` binds; `nodes SCRIPT` lists the
nodes of a script. Options may stand before, between and behind other words, and
two dashes end them. `--help` shows a page on a command, or on the program if it
stands before one, whatever else a command line lacks. Anything else is a mistake
in the call.
-/

import Parley.Terminal.Play
import Parley.Text.Split

namespace Parley

/-- What a command line asks for. -/
inductive Command where
  | play (script : String) (start : Option String) (bindings : List String)
  | nodes (script : String)
  | help (topic : HelpTopic)
  | mistaken
  deriving DecidableEq, Repr

/-- The words of a command line, sorted: its plain words, the last start that is given, all
bindings, and whether help is asked for. -/
structure CommandWords where
  plain : List String := []
  start : Option String := none
  bindings : List String := []
  help : Bool := false
  deriving DecidableEq, Repr

namespace CommandWords

/-- Adds a plain word. -/
def addPlain (words : CommandWords) (word : String) : CommandWords :=
  { words with plain := words.plain ++ [word] }

/-- Gives an option its value; none if there is no such option. -/
def give? (words : CommandWords) (option value : String) : Option CommandWords :=
  if option = "--start" ∨ option = "-s" then some { words with start := some value }
  else if option = "--var" then some { words with bindings := words.bindings ++ [value] }
  else none

/-- The option and the value that one word holds, if it holds both: `--start=NAME` or `-sNAME`. -/
def splitOption (word : List Char) : Option (String × String) :=
  match word with
  | '-' :: '-' :: _ =>
    match Text.partition '=' word with
    | (option, some value) => some (String.ofList option, String.ofList value)
    | (_, none) => none
  | '-' :: 's' :: first :: rest => some ("-s", String.ofList (first :: rest))
  | _ => none

/-- Tells whether a word is an option. -/
def isOption (word : List Char) : Bool := word.length > 1 && word.head? == some '-'

/-- Sorts the words of a command line, where options other than that for help are allowed or not. -/
def sort (withOptions : Bool) (words : CommandWords) : List String → Option CommandWords
  | [] => some words
  | "--" :: rest => some (rest.foldl addPlain words)
  | "--help" :: rest => sort withOptions { words with help := true } rest
  | [word] =>
    if isOption word.toList then
      if withOptions then
        (splitOption word.toList).bind fun (option, value) => words.give? option value
      else none
    else some (words.addPlain word)
  | word :: next :: rest =>
    if isOption word.toList then
      if withOptions then
        match splitOption word.toList with
        | some (option, value) =>
          (words.give? option value).bind fun words => sort withOptions words (next :: rest)
        | none => (words.give? word next).bind fun words => sort withOptions words rest
      else none
    else sort withOptions (words.addPlain word) (next :: rest)

end CommandWords

namespace Command

/-- What the words from the name of a command on ask for. -/
def named : List String → Command
  | "play" :: rest =>
    match CommandWords.sort true {} rest with
    | some ⟨_, _, _, true⟩ => .help .play
    | some ⟨[script], start, bindings, false⟩ => .play script start bindings
    | _ => .mistaken
  | "nodes" :: rest =>
    match CommandWords.sort false {} rest with
    | some ⟨_, _, _, true⟩ => .help .nodes
    | some ⟨[script], _, _, false⟩ => .nodes script
    | _ => .mistaken
  | _ => .mistaken

/-- What is left of a command line behind the options in front of the command, with whether help is
asked for there; none if one of them is no option of the program. -/
def behindOptions? (help : Bool) : List String → Option (Bool × List String)
  | "--help" :: rest => behindOptions? true rest
  | "--" :: rest => some (help, rest)
  | word :: rest =>
    if CommandWords.isOption word.toList then none else some (help, word :: rest)
  | [] => some (help, [])

/-- What a command line asks for. Where an option stands in place of the command, behind two dashes,
it is looked at once more for help. -/
def ofWords (words : List String) : Command :=
  match behindOptions? false words with
  | none => .mistaken
  | some (true, _) => .help .program
  | some (false, rest) =>
    match behindOptions? false rest with
    | some (true, _) => .help .program
    | _ => named rest

end Command

/-! ### Carrying out a command -/

/-- What a program is called with: the words, the environment, the files around it, and the console
that it prints on. -/
structure Surroundings where
  words : List String
  environment : List (String × String)
  files : FileReader
  console : Console := .wide

namespace Surroundings

/-- The variable of the environment that holds the log filter. -/
def filterVariable : String := "SPINDLE_LOG_FILTER"

/-- The name of the settings file. -/
def settingsFile : Path := ⟨"", [".env"]⟩

/-- The levels that the log filter of the environment asks for. -/
def levels (surroundings : Surroundings) : Except Crash LogLevels :=
  let filter := (surroundings.environment.lookup filterVariable).getD LogFilter.default
  match (LogFilter.ofString filter).levels with
  | .ok levels => .ok levels
  | .error entry => .error (.unknownLevel entry)

/-- The text of the settings file, empty if there is none. -/
def settingsText (surroundings : Surroundings) : Except Crash (List Char) :=
  match surroundings.files settingsFile with
  | .error _ => .ok []
  | .ok bytes =>
    match Script.textOfBytes bytes with
    | .ok text => .ok text
    | .error fault => .error (.fault (.load fault))

/-- The settings, with the text of the settings file and the start that the command line names. -/
def settings (surroundings : Surroundings) (text : List Char) (start : Option String) :
    Except Crash Settings :=
  let overrides : Ledger String Literal :=
    match start with
    | some name => Roster.empty.insert ("start_node", .string name)
    | none => Roster.empty
  match Settings.load overrides surroundings.environment text with
  | .ok settings => .ok settings
  | .error faults => .error (.settings faults)

/-- Tells whether a path names a file that can be read. -/
def isFile (surroundings : Surroundings) (path : String) : Bool :=
  (surroundings.files (Path.ofString path)).toOption.isSome

end Surroundings

/-- How a command stands: carried out with an exit code, what was shown, and perhaps a crash; or
waiting for the host of a play. -/
inductive Carried where
  | done (code : Nat) (transcript : List Shown) (crash : Option Crash)
  | playing (play : Play)

namespace Command

/-- The exit code for a mistake in the call. -/
def mistake : Carried := .done 2 [] none

/-- The exit code for a crash, with what was shown before it. -/
def crashed (transcript : List Shown) (crash : Crash) : Carried := .done 1 transcript (some crash)

/-- The end with an error that is shown, or with a crash if it cannot be. -/
def showError (message : Text) : Carried :=
  let item := Shown.failure message
  if item.isShowable then .done 1 [item] none else crashed [] .unshowable

/-- Lists the nodes of a script, or crashes if the console can make no table of them. -/
def carryOutNodes (surroundings : Surroundings) (script : String) : Carried :=
  match surroundings.levels with
  | .error crash => crashed [] crash
  | .ok _ =>
    match Script.loadFile surroundings.files (Path.ofString script) with
    | .ok table =>
      if (surroundings.console.nodes? table).isSome then .done 0 [.nodes table] none
      else crashed [] .unshowable
    | .error fault =>
      if fault.kind = .script then showError fault.message
      else crashed [] (.fault (.load fault))

/-- Starts to play a script with a log filter and settings, behind what was shown before. -/
def startPlay (surroundings : Surroundings) (script : String) (bindings : List String)
    (levels : LogLevels) (settings : Settings) (transcript : List Shown) : Carried :=
  match Binding.ofList bindings with
  | .error (.nameless _) => mistake
  | .error fault => crashed transcript (.binding fault)
  | .ok store =>
    let path := Path.ofString script
    let dialogue := Dialogue.new (Binding.toStore store) () true true
    let play : Play :=
      { dialogue, run := { stage := .ended }, settings, levels, transcript := transcript.toArray }
    let play := play.note (.playStarted path.toText settings.startNode)
    let operation : Operation Unit Run := do
      let _ ← Dialogue.loadFile surroundings.files path settings.strictFunctions
      Dialogue.run settings.startNode
    match operation play.dialogue with
    | .ok run dialogue => .playing ({ play with run, dialogue }).showJournal
    | .error fault dialogue => .playing (({ play with dialogue }).showJournal.fail fault)

/-- Starts to play a script. What cannot be read of the settings file is shown first. -/
def carryOutPlay (surroundings : Surroundings) (script : String) (start : Option String)
    (bindings : List String) : Carried :=
  let sources : Except Crash (LogLevels × List Char) := do
    let levels ← surroundings.levels
    let text ← surroundings.settingsText
    return (levels, text)
  match sources with
  | .error crash => crashed [] crash
  | .ok (levels, text) =>
    let transcript := (Dotenv.unreadableLines text).map Shown.unreadableSetting
    match surroundings.settings text start with
    | .error crash => crashed transcript crash
    | .ok settings => startPlay surroundings script bindings levels settings transcript

/-- Carries a command out, a play as far as the first event. -/
def carryOut (surroundings : Surroundings) : Carried :=
  match ofWords surroundings.words with
  | .mistaken => mistake
  | .help topic => .done 0 [.help topic] none
  | .nodes script =>
    if surroundings.isFile script then carryOutNodes surroundings script else mistake
  | .play script start bindings =>
    if surroundings.isFile script then carryOutPlay surroundings script start bindings else mistake

end Command

/-- The lines of an input, as they are typed one after the other. -/
def typedLines (input : String) : List String :=
  let lines := Text.pieces (· = '\n') (Text.joinLineEnds input.toList)
  (if lines.getLast? = some [] then lines.dropLast else lines).map String.ofList

namespace Carried

/-- Carries a play on to its end, for at most `fuel` steps, with an input. -/
def conclude (budget fuel : Nat) (input : String) : Carried → Carried
  | .playing play =>
    let play := play.carryOn budget fuel (typedLines input)
    match play.status with
    | .ended code crash => .done code play.transcript.toList crash
    | _ => .playing play
  | carried => carried

end Carried

end Parley
