/-
Reading documents. The reader takes one token after the other and keeps the
arrays and objects that are still open, innermost first, together with what may
come next. So it stops at the first token that cannot be accepted, and what was
wrong there is what it was waiting for.
-/

import Parley.Json.Token
import Parley.Roster

namespace Parley.Json

/-- An array or object that is still open: its items, last first, or its members, with the key
whose value is to come. -/
inductive Frame where
  | array (items : List Json)
  | object (members : List (Text × Json))
  | member (members : List (Text × Json)) (key : Text)

/-- What the reader waits for. -/
inductive Waiting where
  | value
  | firstItem
  | firstKey
  | nextKey
  | colon
  | comma
  | ending (document : Json)

/-- The open frames and what is waited for. -/
structure Reading where
  frames : List Frame
  waiting : Waiting

namespace Reading

/-- Hands a finished document to the innermost open frame. -/
def deliver (frames : List Frame) (document : Json) : Reading :=
  match frames with
  | .array items :: outer => ⟨.array (document :: items) :: outer, .comma⟩
  | .member members key :: outer =>
    ⟨.object (upsert Prod.fst (key, document) members) :: outer, .comma⟩
  | .object members :: outer => ⟨.object members :: outer, .comma⟩
  | [] => ⟨[], .ending document⟩

/-- Takes a token where a value may stand. -/
def takeValue (frames : List Frame) (index : Nat) : Token → Except Fault Reading
  | .scalar document => .ok (deliver frames document)
  | .key text => .ok (deliver frames (.string text))
  | .beginArray => .ok ⟨.array [] :: frames, .firstItem⟩
  | .beginObject => .ok ⟨.object [] :: frames, .firstKey⟩
  | .openString fault => .error fault
  | .longInteger digits => .error (.tooLong digits)
  | _ => .error (.misplaced .value index)

/-- Takes a token where a key must stand. -/
def takeKey (frames : List Frame) (index : Nat) (token : Token) : Except Fault Reading :=
  match token, frames with
  | .key text, .object members :: outer => .ok ⟨.member members text :: outer, .colon⟩
  | .openString fault, _ => .error fault
  | _, _ => .error (.misplaced .propertyName index)

/-- Takes one token. -/
def take (reading : Reading) (located : Located) : Except Fault Reading :=
  match reading.waiting, located.token, reading.frames with
  | .firstItem, .endArray, .array items :: outer => .ok (deliver outer (.array items.reverse))
  | .firstItem, token, frames => takeValue frames located.index token
  | .value, token, frames => takeValue frames located.index token
  | .firstKey, .endObject, .object members :: outer => .ok (deliver outer (.object members))
  | .firstKey, token, frames => takeKey frames located.index token
  | .nextKey, token, frames => takeKey frames located.index token
  | .colon, .colon, frames => .ok ⟨frames, .value⟩
  | .colon, _, _ => .error (.misplaced .colon located.index)
  | .comma, .comma, .array items :: outer => .ok ⟨.array items :: outer, .value⟩
  | .comma, .comma, .object members :: outer => .ok ⟨.object members :: outer, .nextKey⟩
  | .comma, .endArray, .array items :: outer => .ok (deliver outer (.array items.reverse))
  | .comma, .endObject, .object members :: outer => .ok (deliver outer (.object members))
  | .comma, _, _ => .error (.misplaced .comma located.index)
  | .ending document, .ending, _ => .ok ⟨[], .ending document⟩
  | .ending _, _, _ => .error (.misplaced .extra located.index)

/-- Nothing read yet. -/
def start : Reading := ⟨[], .value⟩

/-- The document that was read, if the text was one. -/
def document? (reading : Reading) : Option Json :=
  match reading.waiting with
  | .ending document => some document
  | _ => none

end Reading

/-- The document that a row of tokens is. -/
def ofTokens (tokens : List Located) : Except Fault Json := do
  let reading ← tokens.foldlM Reading.take Reading.start
  match reading.document? with
  | some document => return document
  | none => throw (.misplaced .value 0)

/-- The document that a text is. A text must not begin with a byte order mark. -/
def read (text : List Char) : Except Fault Json :=
  match text with
  | '\uFEFF' :: _ => .error (.misplaced .byteOrderMark 0)
  | _ => ofTokens (tokens 0 text)

end Parley.Json
