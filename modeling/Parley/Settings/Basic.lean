/-
Settings of the terminal host: the node to start at, whether commands are shown,
and whether scripts may call functions that do not exist. Each is taken from the
first of four places that gives it: the call, the environment, the settings
file, and the defaults. Names may be written in any case; in the environment and
in the file they have a common beginning.
-/

import Parley.Literal
import Parley.Settings.Dotenv
import Parley.Text.Utf8

namespace Parley

/-- The settings. -/
structure Settings where
  startNode : Text
  showCommands : Bool
  strictFunctions : Bool
  deriving DecidableEq, Repr

/-- Why the value of a setting is refused. -/
inductive SettingFault where
  | notString
  | tooShort
  | noTruthValue
  | notTruthValue
  deriving DecidableEq, Repr

/-- The code of a fault. -/
def SettingFault.code : SettingFault → String
  | notString => "string_type"
  | tooShort => "string_too_short"
  | noTruthValue => "bool_parsing"
  | notTruthValue => "bool_type"

/-- The settings that were refused, by name. -/
abbrev SettingFaults := List (String × SettingFault)

namespace Settings

/-- The settings if nothing else is given. -/
def default : Settings := ⟨"Start", true, false⟩

/-- What names of settings begin with outside the program. -/
def beginning : String := "spindle_"

/-- A text with the capital letters of ASCII made small. -/
def small (text : String) : String := text.map Char.toLower

/-- The words for true. -/
def trueWords : List String := ["1", "on", "t", "true", "y", "yes"]

/-- The words for false. -/
def falseWords : List String := ["0", "off", "f", "false", "n", "no"]

/-- A text that must not be empty. -/
def name (given : Literal) : Except SettingFault Text :=
  match given with
  | .string text => if text.isEmpty then .error .tooShort else .ok text
  | _ => .error .notString

/-- The size from which on a number is not even looked at for a truth value. -/
def numberBound : Int := Nat.pow 2 63

/-- A truth value: itself, one of the words for it in any case, or the numbers zero and one. -/
def truth (given : Literal) : Except SettingFault Bool :=
  match given with
  | .bool truth => .ok truth
  | .string text =>
    match text.string?.map small with
    | none => .error .noTruthValue
    | some word =>
      if word ∈ trueWords then .ok true
      else if word ∈ falseWords then .ok false
      else .error .noTruthValue
  | .int integer =>
    if integer = 1 then .ok true
    else if integer = 0 then .ok false
    else if -numberBound ≤ integer ∧ integer < numberBound then .error .noTruthValue
    else .error .notTruthValue
  | .float amount =>
    match amount.toInt? with
    | some integer =>
      if integer = 1 then .ok true
      else if integer = 0 then .ok false
      else if -numberBound < integer ∧ integer < numberBound then .error .noTruthValue
      else .error .notTruthValue
    | none => .error .notTruthValue
  | _ => .error .notTruthValue

/-- The names of the settings and their values outside the program, names without their beginning
and in small letters; of names that then are equal the last counts. -/
def outside (named : List (String × Option String)) : Ledger String (Option String) :=
  Roster.ofList (named.map fun entry => (small entry.1, entry.2))

/-- What the call gives for a setting: the first value that is there at all, under its name in any
case. -/
def override? (overrides : Ledger String Literal) (setting : String) : Option Literal :=
  overrides.entries.findSome? fun
    | (_, .null) => none
    | (name, given) => if small name = setting then some given else none

/-- What is given for a setting. -/
def given? (overrides : Ledger String Literal) (environment file : Ledger String (Option String))
    (setting : String) : Option Literal :=
  let outer (place : Ledger String (Option String)) : Option Literal :=
    (place.find? (beginning ++ setting)).join.map fun text => .string text
  (override? overrides setting <|> outer environment) <|> outer file

/-- A setting, from what is given for it or else as a default. -/
def choose {Setting : Type} (read : Literal → Except SettingFault Setting) (default : Setting) :
    Option Literal → Except SettingFault Setting
  | some given => read given
  | none => .ok default

/-- The fault of a setting, if it has one. -/
def faultOf {Setting : Type} (name : String) :
    Except SettingFault Setting → SettingFaults
  | .ok _ => []
  | .error fault => [(name, fault)]

/-- The settings, or all that were refused. -/
def load (overrides : Ledger String Literal) (environment : List (String × String))
    (file : List Char) : Except SettingFaults Settings :=
  let outer := outside (environment.map fun entry => (entry.1, some entry.2))
  let inner := outside (Dotenv.read environment file).entries
  let start := choose name default.startNode (given? overrides outer inner "start_node")
  let commands := choose truth default.showCommands (given? overrides outer inner "show_commands")
  let strict :=
    choose truth default.strictFunctions (given? overrides outer inner "strict_functions")
  match start, commands, strict with
  | .ok startNode, .ok showCommands, .ok strictFunctions =>
    .ok { startNode, showCommands, strictFunctions }
  | _, _, _ =>
    .error (faultOf "start_node" start ++ faultOf "show_commands" commands
      ++ faultOf "strict_functions" strict)

end Settings

end Parley
