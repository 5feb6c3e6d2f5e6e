/-
Writing documents. Everything outside the printable characters of ASCII is
escaped by its code units, so a written document survives every channel.
-/

import Parley.Double.Text
import Parley.Json.Basic
import Parley.Text.Quoted

namespace Parley.Json

open Parley.Text

/-- A code unit, escaped. -/
def unitEscape (code : Nat) : List Char := '\\' :: 'u' :: hexDigits 4 code

/-- A symbol between double quotes. -/
def writtenSymbol (symbol : Symbol) : List Char :=
  let code := symbol.code
  if code = 0x22 then ['\\', '"']
  else if code = 0x5C then ['\\', '\\']
  else if 0x20 ≤ code ∧ code < 0x7F then [Char.ofNat code]
  else if code < 0x10000 then unitEscape code
  else
    unitEscape (0xD800 + (code - 0x10000) / 0x400) ++ unitEscape (0xDC00 + (code - 0x10000) % 0x400)

/-- A text between double quotes. -/
def writtenText (text : Text) : List Char :=
  '"' :: (text.symbols.flatMap writtenSymbol ++ ['"'])

/-- A floating point number, its infinities and what is no number by name. -/
def writtenFloat : Double → List Char
  | .nan => "NaN".toList
  | .infinite negative => Double.signed negative "Infinity".toList
  | amount => amount.listed

mutual

/-- The text of a document. -/
def written : Json → List Char
  | null => "null".toList
  | bool truth => (if truth then "true" else "false").toList
  | int integer => (toString integer).toList
  | float amount => writtenFloat amount
  | string text => writtenText text
  | array items => '[' :: writtenItems true items
  | object members => '\x7b' :: writtenMembers true members

/-- The items of an array, separated by commas, and its closing bracket. -/
def writtenItems (first : Bool) : List Json → List Char
  | [] => [']']
  | item :: rest => (if first then [] else [',']) ++ written item ++ writtenItems false rest

/-- The members of an object, separated by commas, and its closing brace. -/
def writtenMembers (first : Bool) : List (Text × Json) → List Char
  | [] => ['\x7d']
  | (key, value) :: rest =>
    (if first then [] else [',']) ++ writtenText key ++ ':' :: written value
      ++ writtenMembers false rest

end

/-- The text of a document. -/
def render (document : Json) : String := String.ofList (written document)

end Parley.Json
