/-
Lines of text on a terminal that takes every character for itself: no code in a text
stands for a picture, and no line is broken unless a number of cells is given that it
has to do with. A text is shown line by line; tabs reach to the next multiple of eight
cells, and controls that would move the cursor are left out.

Where there is room for a number of cells only, a line is broken between its words.
Blanks that would stand beyond the room are dropped from the end of a broken line,
and what is still too wide ends in an ellipsis.
-/

import Parley.Text.Blank
import Parley.Text.Split
import Parley.Text.Width

namespace Parley

namespace Screen

open Parley.Text

/-- The distance between tab stops. -/
def tabStop : Nat := 8

/-- Tells whether a character is a control that is left out: bell, backspace, the vertical tab, form
feed and carriage return. -/
def isCursorControl (char : Char) : Bool := char.toNat ∈ [7, 8, 11, 12, 13]

/-- The characters of a text that are shown. -/
def shownChars (content : List Char) : List Char := content.filter (! isCursorControl ·)

/-- Puts the pieces between tabs together. A tab is a blank and as many more as reach the next tab
stop; each piece begins at one. -/
def joinAtTabs : List (List Char) → List Char
  | [] => []
  | [piece] => piece
  | piece :: rest =>
    let upToBlank := piece ++ [' ']
    let beyond := width upToBlank % tabStop
    upToBlank ++ List.replicate ((tabStop - beyond) % tabStop) ' ' ++ joinAtTabs rest

/-- Replaces the tabs of a line. -/
def expandTabs (line : List Char) : List Char := joinAtTabs (pieces (· = '\t') line)

/-- The lines that a text is shown in where there is room for all of it. -/
def lines (content : List Char) : List (List Char) :=
  (pieces (· = '\n') (shownChars content)).map expandTabs

/-! ### Breaking lines -/

/-- The blanks at the front of a text, the word behind them and the blanks behind the word, and the
text from the next word on. -/
def splitWord (text : List Char) : List Char × List Char :=
  let front := text.takeWhile isBlank
  let behindFront := text.dropWhile isBlank
  let word := behindFront.takeWhile (! isBlank ·)
  let behindWord := behindFront.dropWhile (! isBlank ·)
  (front ++ word ++ behindWord.takeWhile isBlank, behindWord.dropWhile isBlank)

/-- The words of a text of at most `fuel` characters, with the blanks around them. -/
def wordsWithin : Nat → List Char → List (List Char)
  | 0, _ => []
  | fuel + 1, text =>
    match splitWord text with
    | ([], _) => []
    | (word, rest) => word :: wordsWithin fuel rest

/-- The words of a text, each with the blanks behind it and the first also with those before it. -/
def words (text : List Char) : List (List Char) := wordsWithin text.length text

/-- Takes the blanks off the end of a text. -/
def dropEndBlanks (text : List Char) : List Char := (text.reverse.dropWhile isBlank).reverse

/-- Breaks a row of words into lines, behind a line that has been begun and takes `taken` cells.
A line ends where the next word does not fit on it; blanks behind a word need no room. -/
def breakBetween (room : Nat) (line : List Char) (taken : Nat) :
    List (List Char) → List (List Char)
  | [] => [line]
  | word :: rest =>
    if taken + width (dropEndBlanks word) ≤ room then
      breakBetween room (line ++ word) (taken + width word) rest
    else if line = [] then breakBetween room word (width word) rest
    else line :: breakBetween room word (width word) rest

/-- Drops blanks from the end of a line as long as it has more characters than there are cells. -/
def dropExcessBlanks (room : Nat) (line : List Char) : List Char :=
  let blanks := line.length - (dropEndBlanks line).length
  line.take (line.length - Nat.min blanks (line.length - room))

/-- Cuts a line that is too wide and marks the cut. -/
def ellipsize (room : Nat) (line : List Char) : List Char :=
  if width line ≤ room then line else crop (room - 1) (clusters line) ++ ['…']

/-- The lines that a text is shown in where there is room for a number of cells. -/
def linesWithin (room : Nat) (content : List Char) : List (List Char) :=
  (lines content).flatMap fun line =>
    (breakBetween room [] 0 (words line)).map fun part =>
      ellipsize room (dropExcessBlanks room part)

/-! ### Measuring -/

/-- Tells whether a character ends a line for the one who measures a text, which are more than
the line feeds at which it is shown in lines. -/
def endsMeasuredLine (char : Char) : Bool :=
  inRanges [(0xA, 0xD), (0x1C, 0x1E), (0x85, 0x85), (0x2028, 0x2029)] char.toNat

/-- The room that a text asks for: that of its widest line, tabs not counted. -/
def roomFor (content : List Char) : Nat :=
  ((pieces endsMeasuredLine (shownChars content)).map width).foldl Nat.max 0

end Screen

end Parley
