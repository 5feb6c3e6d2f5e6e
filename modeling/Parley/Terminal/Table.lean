/-
Tables on a terminal. Tables have a heavy frame around their head and a light one
around their rows. A column is as wide as the widest of its cells asks for, and a
cell may have several lines.
-/

import Parley.Terminal.Line

namespace Parley

namespace Screen

open Parley.Text

/-- The strokes of one rule or row of a table: its left end, its filling, its crossings and its
right end. -/
structure Stroke where
  left : String
  fill : Char
  cross : String
  right : String

/-- The rule above the head. -/
def topRule : Stroke := ⟨"┏", '━', "┳", "┓"⟩

/-- The head. -/
def headRow : Stroke := ⟨"┃", ' ', "┃", "┃"⟩

/-- The rule below the head. -/
def headRule : Stroke := ⟨"┡", '━', "╇", "┩"⟩

/-- A row. -/
def bodyRow : Stroke := ⟨"│", ' ', "│", "│"⟩

/-- The rule below the rows. -/
def bottomRule : Stroke := ⟨"└", '─', "┴", "┘"⟩

/-- A rule across columns of given widths. -/
def rule (stroke : Stroke) (widths : List Nat) : String :=
  stroke.left
    ++ stroke.cross.intercalate
      (widths.map fun width => String.ofList (List.replicate (width + 2) stroke.fill))
    ++ stroke.right ++ "\n"

/-- A text with blanks behind it, as many as it lacks to a width. -/
def withBlanks (column : Nat) (text : List Char) : List Char :=
  text ++ List.replicate (column - width text) ' '

/-- A text with blanks behind it, up to a width. A joiner at its end takes the first blank to
itself, so what is still missing then is filled up as well. -/
def filled (column : Nat) (text : List Char) : String :=
  String.ofList (withBlanks column (withBlanks column text))

/-- One line of a row: a text for each column. -/
def rowLine (stroke : Stroke) (widths : List Nat) (texts : List (List Char)) : String :=
  stroke.left
    ++ stroke.cross.intercalate ((widths.zip texts).map fun (column, text) =>
      " " ++ filled column text ++ " ")
    ++ stroke.right ++ "\n"

/-- A row whose cells may have several lines. -/
def row (stroke : Stroke) (widths : List Nat) (cells : List (List Char)) : String :=
  let blocks := (widths.zip cells).map fun (column, cell) => linesWithin column cell
  let height := (blocks.map List.length).foldl Nat.max 1
  String.join ((List.range height).map fun index =>
    rowLine stroke widths (blocks.map fun block => (block[index]?).getD []))

/-- The widths of the columns of a table. -/
def columnWidths (head : List (List Char)) (rows : List (List (List Char))) : List Nat :=
  rows.foldl (fun widths cells => List.zipWith Nat.max widths (cells.map roomFor))
    (head.map roomFor)

/-- A table with a head. -/
def table (head : List (List Char)) (rows : List (List (List Char))) : String :=
  let widths := columnWidths head rows
  rule topRule widths ++ row headRow widths head ++ rule headRule widths
    ++ String.join (rows.map (row bodyRow widths)) ++ rule bottomRule widths

end Screen

end Parley
