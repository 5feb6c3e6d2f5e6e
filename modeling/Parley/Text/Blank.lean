/-
Blank characters: what may surround a number in a text, a name in a binding or
an item in a list of log levels, and what separates the tags of a node.
-/

import Parley.Text.Range

namespace Parley.Text

/-- The blank code points: the white space of Unicode and the four separators of ASCII. -/
def blankRanges : List (Nat × Nat) :=
  [(0x9, 0xD), (0x1C, 0x20), (0x85, 0x85), (0xA0, 0xA0), (0x1680, 0x1680), (0x2000, 0x200A),
    (0x2028, 0x2029), (0x202F, 0x202F), (0x205F, 0x205F), (0x3000, 0x3000)]

/-- Tells whether a character is blank. -/
def isBlank (char : Char) : Bool := inRanges blankRanges char.toNat

/-- Takes the blanks off both ends. -/
def trimChars (text : List Char) : List Char :=
  ((text.dropWhile isBlank).reverse.dropWhile isBlank).reverse

end Parley.Text
