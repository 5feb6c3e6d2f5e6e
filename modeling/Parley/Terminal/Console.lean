/-
The console that the program prints on. The program says what is printed, in which order
and in which style, and how that looks is the console's own matter: it may break a line
that is wider than it is itself, set colours, and put a picture in the place of a code such
as `:smile:`.

Only in the cells of a table does a console look for marks. They stand in square brackets
and are not printed; a mark sets the style of what is behind it, or takes back what one
before it has set. A console makes no table of cells where a mark takes back what has not
been set, nor of what holds something that is no character.
-/

import Parley.LogFilter
import Parley.Terminal.Table

namespace Parley

/-- The styles that texts are printed in. -/
inductive Style where
  | plain
  | dim
  | bold
  | red
  deriving DecidableEq, Repr

/-- A text without marks: a string that has no opening bracket. -/
def Text.Unmarked (text : Text) : Prop := text.isString = true ∧ .char '[' ∉ text.symbols

/-- A console. -/
structure Console where
  /-- A text in a style, with the end of its last line. -/
  print : Style → Text → String
  /-- The number of a reply, in front of its text. -/
  number : Nat → String
  /-- A line of the log: its level and what it says. -/
  record : Level → Text → String
  /-- A table with a head, if the console can make one of the cells. -/
  table? : List Text → List (List Text) → Option String
  /-- There is a table of cells without marks. -/
  unmarked : ∀ head rows, (∀ row ∈ rows, ∀ cell ∈ row, cell.Unmarked) →
    (table? head rows).isSome = true

namespace Screen

/-- A text line by line, where there is room for all of it. -/
def text (content : Text) : String :=
  String.join ((lines content.chars).map fun line => String.ofList (line ++ ['\n']))

/-- The number of a reply, in front of its text. -/
def number (number : Nat) : String := "  " ++ toString number ++ ". "

/-- A line of the log: the level in a column of its own, further lines of the text below the
first. -/
def record (level : Level) (content : Text) : String :=
  let message := lines content.chars
  let levels := padded 8 level.name :: List.replicate message.length (padded 8 "")
  String.join ((levels.zip message).map fun (level, line) =>
    String.ofList (level.chars ++ ' ' :: line ++ ['\n']))

end Screen

/-- A console that has no styles and room for every line, and takes codes and marks for the
characters that they are written with. -/
def Console.wide : Console where
  print _ content := Screen.text content
  number := Screen.number
  record := Screen.record
  table? head rows :=
    if rows.all (List.all · Text.isString) then
      some (Screen.table (head.map Text.chars) (rows.map (List.map Text.chars)))
    else none
  unmarked head rows unmarked := by
    have strings : rows.all (List.all · Text.isString) = true :=
      List.all_eq_true.2 fun row listed =>
        List.all_eq_true.2 fun cell member => (unmarked row listed cell member).1
    rw [if_pos strings]
    rfl

end Parley
