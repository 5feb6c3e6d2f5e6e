/-
The program: plays scripts on a terminal and lists the nodes of scripts. It reads
the files that the command line may mean, hands them over with the environment,
and then shows what it is given and passes on what is typed.
-/

import Parley.Terminal.Command

namespace Parley

/-- The most nodes that are entered for one event. -/
def nodeBudget : Nat := 1000000

/-- The bytes of the file at a path, if it can be read. -/
def readIfPresent (path : String) : IO (List (String × List UInt8)) := do
  try
    let bytes ← IO.FS.readBinFile path
    return [((Path.ofString path).toText, bytes.toList)]
  catch _ => return []

/-- The variables of the environment that the program looks at. -/
def environmentNames : List String :=
  [Surroundings.filterVariable, "SPINDLE_START_NODE", "SPINDLE_SHOW_COMMANDS",
    "SPINDLE_STRICT_FUNCTIONS"]

/-- What the program is called with. -/
def surroundings (words : List String) : IO Surroundings := do
  let mut files : List (String × List UInt8) := []
  for path in Surroundings.settingsFile.toText :: words do
    files := files ++ (← readIfPresent path)
  let known := files
  let mut environment : List (String × String) := []
  for name in environmentNames do
    if let some value ← IO.getEnv name then environment := environment ++ [(name, value)]
  let read (path : Path) : Except FileFault (List UInt8) :=
    match known.lookup path.toText with
    | some bytes => .ok bytes
    | none => .error .missing
  return { words, environment, files := read }

/-- The wording of a crash. -/
def Crash.message : Crash → Text
  | unknownLevel entry => LogFilter.unknownLevel entry
  | settings faults =>
    Text.intercalate "; " (faults.map fun fault => fault.1 ++ ": " ++ fault.2.code)
  | binding cause => Binding.faultMessage cause
  | fault cause => cause.message
  | unshowable => "A text cannot be shown"

/-- Ends the program. -/
def conclude (code : Nat) (crash : Option Crash) : IO UInt32 := do
  if let some crash := crash then IO.eprintln (String.ofList crash.message.chars)
  if code = 2 then
    IO.eprintln "usage: play SCRIPT [--start NAME] [--var NAME=VALUE]... | nodes SCRIPT"
  return code.toUInt32

/-- Carries a play on to its end. -/
partial def perform (play : Play) : IO UInt32 := do
  let output ← IO.getStdout
  output.putStr (Screen.render false play.transcript.toList)
  output.flush
  let play := { play with transcript := #[] }
  match play.status with
  | .ended code crash => conclude code crash
  | .going => perform (play.step nodeBudget)
  | .asking count =>
    let line ← (← IO.getStdin).getLine
    if line.isEmpty then perform (play.answer count none)
    else perform (play.answer count (some ((typedLines line).headD "")))

end Parley

open Parley in
/-- Carries out the command line. -/
def main (words : List String) : IO UInt32 := do
  match Command.carryOut (← surroundings words) with
  | .done code transcript crash =>
    IO.print (Screen.render false transcript)
    conclude code crash
  | .playing play => perform play
