/-
Texts of files. A file holds its text in UTF-8, strictly: no overlong forms, no
surrogates, nothing beyond the last code point. What cannot be decoded is
reported with the bytes of the longest beginning that could still have been
right. Line ends of every kind are then read as line feeds.
-/

namespace Parley.Text

/-- Why bytes are no text. -/
inductive DecodeCause where
  | startByte
  | continuation
  | truncated
  deriving DecidableEq, Repr

/-- The bytes that are no text: the place of the first, the byte there, and their number. -/
structure DecodeFault where
  position : Nat
  byte : UInt8
  count : Nat
  cause : DecodeCause
  deriving DecidableEq, Repr

/-- The wording of a cause. -/
def DecodeCause.message : DecodeCause → String
  | startByte => "invalid start byte"
  | continuation => "invalid continuation byte"
  | truncated => "unexpected end of data"

/-- The wording of a fault: one byte is shown, several are counted. -/
def DecodeFault.message (fault : DecodeFault) : String :=
  let place :=
    if fault.count = 1 then
      let digits := Nat.toDigits 16 fault.byte.toNat
      "byte 0x" ++ String.ofList (List.replicate (2 - digits.length) '0' ++ digits)
        ++ " in position " ++ toString fault.position
    else
      "bytes in position " ++ toString fault.position ++ "-"
        ++ toString (fault.position + fault.count - 1)
  "'utf-8' codec can't decode " ++ place ++ ": " ++ fault.cause.message

/-- Tells whether a byte continues a character. -/
def isContinuation (byte : UInt8) : Bool := 0x80 ≤ byte && byte < 0xC0

/-- Tells whether the second byte may follow the first byte of a longer character: no overlong
forms, no surrogates, nothing beyond the last code point. -/
def mayFollow (first second : UInt8) : Bool :=
  isContinuation second &&
    match first with
    | 0xE0 => 0xA0 ≤ second
    | 0xED => second < 0xA0
    | 0xF0 => 0x90 ≤ second
    | 0xF4 => second < 0x90
    | _ => true

/-- The six bits of a continuation byte. -/
def payload (byte : UInt8) : Nat := byte.toNat % 0x40

/-- Decodes the bytes from a place on, the text before it given last character first. -/
def decodeFrom (before : List Char) (position : Nat) :
    List UInt8 → Except DecodeFault (List Char)
  | [] => .ok before.reverse
  | first :: rest =>
    if first < 0x80 then decodeFrom (Char.ofNat first.toNat :: before) (position + 1) rest
    else if first < 0xC2 ∨ 0xF4 < first then .error ⟨position, first, 1, .startByte⟩
    else
      match rest with
      | [] => .error ⟨position, first, 1, .truncated⟩
      | second :: rest =>
        if !mayFollow first second then .error ⟨position, first, 1, .continuation⟩
        else if first < 0xE0 then
          let code := (first.toNat % 0x20) * 0x40 + payload second
          decodeFrom (Char.ofNat code :: before) (position + 2) rest
        else
          match rest with
          | [] => .error ⟨position, first, 2, .truncated⟩
          | third :: rest =>
            if !isContinuation third then .error ⟨position, first, 2, .continuation⟩
            else if first < 0xF0 then
              let code := ((first.toNat % 0x10) * 0x40 + payload second) * 0x40 + payload third
              decodeFrom (Char.ofNat code :: before) (position + 3) rest
            else
              match rest with
              | [] => .error ⟨position, first, 3, .truncated⟩
              | fourth :: rest =>
                if !isContinuation fourth then .error ⟨position, first, 3, .continuation⟩
                else
                  let code :=
                    (((first.toNat % 0x08) * 0x40 + payload second) * 0x40 + payload third) * 0x40
                      + payload fourth
                  decodeFrom (Char.ofNat code :: before) (position + 4) rest

/-- The text of bytes. -/
def decode (bytes : List UInt8) : Except DecodeFault (List Char) := decodeFrom [] 0 bytes

/-- Reads every line end as a line feed. -/
def joinLineEnds : List Char → List Char
  | '\r' :: '\n' :: rest => '\n' :: joinLineEnds rest
  | '\r' :: rest => '\n' :: joinLineEnds rest
  | char :: rest => char :: joinLineEnds rest
  | [] => []

end Parley.Text
