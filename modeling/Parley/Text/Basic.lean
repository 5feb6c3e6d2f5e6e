/-
Texts of the language: what lines say, what strings hold, and what nodes, functions
and the rest are called by. A text is a row of symbols, and two texts are the same if
their symbols are, whether or not they can be shown: a text with half of a surrogate
pair is no string, but it is a name and a value like any other.
-/

import Parley.Text.Symbol

namespace Parley

/-- A text of the language. -/
structure Text where
  symbols : List Text.Symbol
  deriving DecidableEq, Inhabited, Repr

namespace Text

/-- The text of a row of characters. -/
def ofChars (chars : List Char) : Text := ⟨chars.map .char⟩

/-- The text of a string. -/
def ofString (string : String) : Text := ofChars string.toList

/-- Strings are texts. -/
instance : Coe String Text := ⟨ofString⟩

/-- One text behind the other. -/
instance : Append Text := ⟨fun first second => ⟨first.symbols ++ second.symbols⟩⟩

/-- The number of symbols. -/
def length (text : Text) : Nat := text.symbols.length

/-- Tells whether a text has no symbols. -/
def isEmpty (text : Text) : Bool := text.symbols.isEmpty

/-- Texts one behind the other, with a separator between them. -/
def intercalate (separator : Text) (texts : List Text) : Text :=
  ⟨separator.symbols.intercalate (texts.map symbols)⟩

/-- The characters of a text; halves are left out. -/
def chars (text : Text) : List Char := text.symbols.filterMap Symbol.toChar?

/-- The characters of a text that has nothing but characters. -/
def chars? (text : Text) : Option (List Char) := text.symbols.mapM Symbol.toChar?

/-- The string that a text is, if it is one. -/
def string? (text : Text) : Option String := text.chars?.map String.ofList

/-- Tells whether a text is a string. -/
def isString (text : Text) : Bool := text.chars?.isSome

/-- Texts are ordered by the code points of their symbols. -/
instance : LT Text :=
  ⟨fun first second => first.symbols.map Symbol.code < second.symbols.map Symbol.code⟩

instance : DecidableLT Text := fun first second =>
  inferInstanceAs (Decidable (first.symbols.map Symbol.code < second.symbols.map Symbol.code))

theorem symbols_append (first second : Text) :
    (first ++ second).symbols = first.symbols ++ second.symbols := rfl

theorem symbols_ofChars (chars : List Char) : (ofChars chars).symbols = chars.map .char := rfl

theorem chars?_ofChars (chars : List Char) : (ofChars chars).chars? = some chars := by
  induction chars with
  | nil => rfl
  | cons char rest ih =>
    simp only [chars?, symbols_ofChars] at ih
    simp [chars?, symbols_ofChars, ih, Symbol.toChar?]

/-- A string taken as a text is that string. -/
theorem string?_ofString (string : String) : (ofString string).string? = some string := by
  simp [string?, ofString, chars?_ofChars]

/-- Strings that are the same text are the same. -/
theorem ofString_inj {first second : String} :
    ofString first = ofString second ↔ first = second := by
  refine ⟨fun same => ?_, congrArg ofString⟩
  have strings := congrArg string? same
  simpa only [string?_ofString, Option.some.injEq] using strings

end Text

end Parley
