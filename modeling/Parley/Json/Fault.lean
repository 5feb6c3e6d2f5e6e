/-
What can be wrong with the text of a document, and where. Places are counted in
characters from zero; lines end at a line feed only, and lines and columns are
counted from one.
-/

namespace Parley.Json

/-- What is wrong at a place of the text. -/
inductive Cause where
  | value
  | propertyName
  | colon
  | comma
  | unterminated
  | control
  | escape
  | unicodeEscape
  | extra
  | byteOrderMark
  deriving DecidableEq, Repr

/-- Why a text is no document: a wrong place, or an integer of too many digits. -/
inductive Fault where
  | misplaced (cause : Cause) (index : Nat)
  | tooLong (digits : Nat)
  deriving DecidableEq, Repr

/-- The most digits an integer may have. -/
def digitLimit : Nat := 4300

/-- The wording of a cause. -/
def Cause.message : Cause → String
  | value => "Expecting value"
  | propertyName => "Expecting property name enclosed in double quotes"
  | colon => "Expecting ':' delimiter"
  | comma => "Expecting ',' delimiter"
  | unterminated => "Unterminated string starting at"
  | control => "Invalid control character at"
  | escape => "Invalid \\escape"
  | unicodeEscape => "Invalid \\uXXXX escape"
  | extra => "Extra data"
  | byteOrderMark => "Unexpected UTF-8 BOM (decode using utf-8-sig)"

/-- The line of a place, counted from one. -/
def lineOf (text : List Char) (index : Nat) : Nat :=
  (text.take index).count '\n' + 1

/-- The column of a place, counted from one. -/
def columnOf (text : List Char) (index : Nat) : Nat :=
  ((text.take index).reverse.takeWhile (· ≠ '\n')).length + 1

/-- The wording of a fault in a text. -/
def Fault.message (text : List Char) : Fault → String
  | misplaced cause index =>
    cause.message ++ ": line " ++ toString (lineOf text index) ++ " column "
      ++ toString (columnOf text index) ++ " (char " ++ toString index ++ ")"
  | tooLong digits =>
    "Exceeds the limit (" ++ toString digitLimit
      ++ " digits) for integer string conversion: value has " ++ toString digits
      ++ " digits; use sys.set_int_max_str_digits() to increase the limit"

end Parley.Json
