/-
Settings files: lines of the form `NAME=VALUE`. A name may follow the word
`export` and may stand between single quotes; a value may stand between quotes
of either kind, where backslashes escape and line ends are allowed, or without
quotes up to a comment or the end of the line. A line that cannot be read is
skipped, and its number can be asked for. Values may refer to earlier names and
to the environment by `${NAME}` or `${NAME:-VALUE}`, the latter with a value for
a name that is not set. A byte order mark in front of all this does not count.
-/

import Parley.Roster
import Parley.Text.Blank

namespace Parley

namespace Dotenv

open Parley.Text

/-- Tells whether a character is a blank within a line. -/
def isInlineBlank (char : Char) : Bool := isBlank char && char ≠ '\n' && char ≠ '\r'

/-- Tells whether a character ends a line. -/
def isLineEnd (char : Char) : Bool := char = '\n' || char = '\r'

/-- Leaves out the word `export` and the blanks behind it. -/
def dropExport (text : List Char) : List Char :=
  let word := "export".toList
  if word.isPrefixOf text then
    match text.drop word.length with
    | blank :: rest => if isInlineBlank blank then rest.dropWhile isInlineBlank else text
    | [] => text
  else text

/-- Tells whether a character may stand in a name without quotes. -/
def isNameChar (char : Char) : Bool := char ≠ '=' && char ≠ '#' && !isBlank char

/-! ### Reading

Each of these readers yields what it read and the text behind it, or the text from where it could
not go on. -/

/-- Reads a name; a comment has none. -/
def name (text : List Char) : Except (List Char) (Option String × List Char) :=
  match text with
  | '#' :: _ => .ok (none, text)
  | '\'' :: rest =>
    match rest.takeWhile (· ≠ '\''), rest.dropWhile (· ≠ '\'') with
    | first :: others, _ :: tail => .ok (some (String.ofList (first :: others)), tail)
    | _, _ => .error text
  | _ =>
    match text.takeWhile isNameChar with
    | [] => .error text
    | chars => .ok (some (String.ofList chars), text.dropWhile isNameChar)

/-- Reads up to the closing quote, the first that no backslash escapes. -/
def quotedPart (quote : Char) : List Char → Option (List Char × List Char)
  | [] => none
  | '\\' :: second :: rest =>
    (quotedPart quote rest).map fun found => ('\\' :: second :: found.1, found.2)
  | char :: rest =>
    if char = quote then some ([], rest)
    else (quotedPart quote rest).map fun found => (char :: found.1, found.2)

/-- What a character behind a backslash stands for between double quotes. -/
def doubleEscape? : Char → Option Char
  | '\\' => some '\\'
  | '\'' => some '\''
  | '"' => some '"'
  | 'a' => some '\x07'
  | 'b' => some '\x08'
  | 'f' => some '\x0c'
  | 'n' => some '\n'
  | 'r' => some '\r'
  | 't' => some '\t'
  | 'v' => some '\x0b'
  | _ => none

/-- What a character behind a backslash stands for between single quotes. -/
def singleEscape? : Char → Option Char
  | '\\' => some '\\'
  | '\'' => some '\''
  | _ => none

/-- Replaces the escapes of a quoted value. -/
def unescape (escape? : Char → Option Char) : List Char → List Char
  | '\\' :: second :: rest =>
    match escape? second with
    | some char => char :: unescape escape? rest
    | none => '\\' :: unescape escape? (second :: rest)
  | char :: rest => char :: unescape escape? rest
  | [] => []

/-- Leaves out a comment: a number sign behind a blank, and all that follows. -/
def dropComment : List Char → List Char
  | [] => []
  | char :: rest =>
    match rest.dropWhile isBlank with
    | '#' :: _ => if isBlank char then [] else char :: dropComment rest
    | _ => char :: dropComment rest

/-- Reads a value, with the blanks in front of it. -/
def value (text : List Char) : Except (List Char) (List Char × List Char) :=
  let start := text.dropWhile isInlineBlank
  let quoted (quote : Char) (escape? : Char → Option Char) (rest : List Char) :
      Except (List Char) (List Char × List Char) :=
    match quotedPart quote rest with
    | some (part, tail) => .ok (unescape escape? part, tail)
    | none => .error start
  match start with
  | '\'' :: rest => quoted '\'' singleEscape? rest
  | '"' :: rest => quoted '"' doubleEscape? rest
  | _ =>
    .ok (trimChars (dropComment (text.takeWhile (! isLineEnd ·))), text.dropWhile (! isLineEnd ·))

/-- Reads an equals sign and the value behind it, if there is one. -/
def assigned (text : List Char) : Except (List Char) (Option (List Char) × List Char) :=
  match text.dropWhile isInlineBlank with
  | '=' :: rest => do
    let (chars, tail) ← value rest
    return (some chars, tail)
  | rest => .ok (none, rest)

/-- Reads the end of a line, with a comment before it if there is one. -/
def lineEnd (text : List Char) : Except (List Char) (List Char) :=
  let behind :=
    match text.dropWhile isInlineBlank with
    | '#' :: rest => rest.dropWhile (! isLineEnd ·)
    | _ => text
  match behind.dropWhile isInlineBlank with
  | [] => .ok []
  | '\r' :: '\n' :: rest => .ok rest
  | char :: rest => if isLineEnd char then .ok rest else .error behind

/-- Reads a line that is not blank. -/
def line (text : List Char) :
    Except (List Char) (Option (String × Option (List Char)) × List Char) := do
  let (name, text) ← name (dropExport text)
  let (value, text) ← assigned text
  let text ← lineEnd text
  return (name.map fun name => (name, value), text)

/-- The text behind the end of the line. -/
def nextLine (text : List Char) : List Char := (text.dropWhile (! isLineEnd ·)).drop 1

/-- What a stretch of a settings file is: a name with the value that it is given, if there is one;
or nothing that can be read, from the line with a number on. -/
inductive Stretch where
  | binding (name : String) (value : Option (List Char))
  | unreadable (line : Nat)
  deriving DecidableEq, Repr

/-- The stretches of a text of at most `fuel` lines that begins on the line with a number. -/
def stretchesFrom (number : Nat) : Nat → List Char → List Stretch
  | 0, _ => []
  | fuel + 1, text =>
    let behind (rest : List Char) : List Stretch :=
      stretchesFrom (number + (text.countP isLineEnd - rest.countP isLineEnd)) fuel rest
    match text.dropWhile isBlank with
    | [] => []
    | start =>
      match line start with
      | .ok (some (name, value), rest) => .binding name value :: behind rest
      | .ok (none, rest) => behind rest
      | .error rest => .unreadable number :: behind (nextLine rest)

/-- The text behind a byte order mark. -/
def dropMark : List Char → List Char
  | '\ufeff' :: rest => rest
  | text => text

/-- The stretches of a text; each takes at least one character. -/
def stretches (text : List Char) : List Stretch := stretchesFrom 1 text.length (dropMark text)

/-- The names and values of a text. -/
def bindings (text : List Char) : List (String × Option (List Char)) :=
  (stretches text).filterMap fun
    | .binding name value => some (name, value)
    | .unreadable _ => none

/-- The numbers of the lines from which on a text cannot be read. -/
def unreadableLines (text : List Char) : List Nat :=
  (stretches text).filterMap fun
    | .binding _ _ => none
    | .unreadable number => some number

/-! ### References -/

/-- Reads a reference behind its dollar sign: its name, and the value for a name that is not set. -/
def reference? (text : List Char) : Option ((List Char × List Char) × List Char) :=
  match text with
  | '\x7b' :: rest =>
    let inName (char : Char) : Bool := char ≠ '\x7d' && char ≠ ':'
    let name := rest.takeWhile inName
    match rest.dropWhile inName with
    | '\x7d' :: tail => some ((name, []), tail)
    | ':' :: '-' :: tail =>
      match tail.dropWhile (· ≠ '\x7d') with
      | _ :: behind => some ((name, tail.takeWhile (· ≠ '\x7d')), behind)
      | [] => none
    | _ => none
  | _ => none

/-- Replaces the references of a value of at most `fuel` characters. -/
def expand (known : Ledger String (Option String)) : Nat → List Char → List Char
  | 0, text => text
  | fuel + 1, text =>
    match text with
    | [] => []
    | '$' :: rest =>
      match reference? rest with
      | some ((name, fallback), tail) =>
        let replaced :=
          match known.find? (String.ofList name) with
          | some (some value) => value.toList
          | some none => []
          | none => fallback
        replaced ++ expand known fuel tail
      | none => '$' :: expand known fuel rest
    | char :: rest => char :: expand known fuel rest

/-- The names of a text and their values, references replaced. Names of the text count over those of
the environment. -/
def read (environment : List (String × String)) (text : List Char) :
    Ledger String (Option String) :=
  let outer : Ledger String (Option String) :=
    Roster.ofList (environment.map fun entry => (entry.1, some entry.2))
  (bindings text).foldl
    (fun found binding =>
      let known := outer.insertAll found.entries
      found.put binding.1
        (binding.2.map fun value => String.ofList (expand known value.length value)))
    Roster.empty

end Dotenv

end Parley
