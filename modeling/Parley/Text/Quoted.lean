/-
Quoted texts, as messages and listings show them: between single quotes, or
double quotes if the text holds single ones and no double ones; the quote, the
backslash and the usual line controls are escaped by a letter, and everything
else that cannot be printed by its code point.
-/

import Parley.Text.Basic
import Parley.Text.Printable

namespace Parley.Text

/-- A code in hexadecimal digits, filled up to a width. -/
def hexDigits (width code : Nat) : List Char :=
  let digits := Nat.toDigits 16 code
  List.replicate (width - digits.length) '0' ++ digits

/-- The quote around a text. -/
def quoteFor (text : Text) : Char :=
  if .char '\'' ∈ text.symbols ∧ .char '"' ∉ text.symbols then '"' else '\''

/-- A code point by its number: two, four or eight hexadecimal digits. -/
def numberedEscape (code : Nat) : List Char :=
  if code < 0x100 then '\\' :: 'x' :: hexDigits 2 code
  else if code < 0x10000 then '\\' :: 'u' :: hexDigits 4 code
  else '\\' :: 'U' :: hexDigits 8 code

/-- One symbol between quotes. -/
def quotedSymbol (quote : Char) (symbol : Symbol) : List Char :=
  match symbol with
  | .half _ => numberedEscape symbol.code
  | .char char =>
    if char = quote ∨ char = '\\' then ['\\', char]
    else if char = '\n' then ['\\', 'n']
    else if char = '\r' then ['\\', 'r']
    else if char = '\t' then ['\\', 't']
    else if isPrintable char.toNat then [char]
    else numberedEscape char.toNat

/-- A text between quotes. -/
def quoted (text : Text) : String :=
  let quote := quoteFor text
  String.ofList (quote :: (text.symbols.flatMap (quotedSymbol quote) ++ [quote]))

end Parley.Text
