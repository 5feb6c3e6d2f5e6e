/-
Symbols, of which texts are made. A script may escape one half of a surrogate
pair without the other; its text then holds something that is no character. So a
symbol is a character or such a half, and either has a code point of its own.
-/

namespace Parley.Text

/-- A character, or one of the 2048 halves of surrogate pairs. -/
inductive Symbol where
  | char (char : Char)
  | half (index : Fin 2048)
  deriving DecidableEq, Repr

namespace Symbol

/-- The code point of a symbol. -/
def code : Symbol → Nat
  | char letter => letter.toNat
  | half index => 0xD800 + index

/-- The symbol of a code point below 2^16. -/
def ofCode (code : Nat) : Symbol :=
  if surrogate : 0xD800 ≤ code ∧ code < 0xE000 then half ⟨code - 0xD800, by omega⟩
  else char (Char.ofNat code)

/-- The character that a symbol is, if it is one. -/
def toChar? : Symbol → Option Char
  | char letter => some letter
  | half _ => none

/-- The character that the halves of a pair stand for. -/
def joined? (high low : Nat) : Option Char :=
  if 0xD800 ≤ high ∧ high < 0xDC00 ∧ 0xDC00 ≤ low ∧ low < 0xE000 then
    some (Char.ofNat (0x10000 + (high - 0xD800) * 0x400 + (low - 0xDC00)))
  else none

end Symbol

end Parley.Text
