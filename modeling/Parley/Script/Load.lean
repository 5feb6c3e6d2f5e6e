/-
Loading scripts: from the text of a script to the table of its nodes. Nodes are
compiled in order, and each is put into the table before the next is looked at,
so the first thing that is wrong with a script is what is reported.
-/

import Parley.File
import Parley.Json.Reader
import Parley.Script.Body
import Parley.Script.Table

namespace Parley

namespace Script

/-- Compiles drafts into a table. -/
def addDrafts (table : NodeTable) : List Draft → Except LoadFault NodeTable
  | [] => .ok table
  | draft :: rest => do
    let node ← Body.node draft
    if table.contains node.name then throw (.duplicate node.name)
    else addDrafts (table.insert node) rest

/-- The table of a document. -/
def ofDocument (document : Json) : Except LoadFault NodeTable :=
  match Draft.ofScript document with
  | .error violations => .error (.misshapen violations)
  | .ok drafts => addDrafts Roster.empty drafts

/-- The table of a text. -/
def ofChars (text : List Char) : Except LoadFault NodeTable :=
  match Json.read text with
  | .error fault => .error (.malformed text fault)
  | .ok document => ofDocument document

/-- The table of a text. -/
def load (text : String) : Except LoadFault NodeTable := ofChars text.toList

/-- The text of a file's bytes: UTF-8 with every line end read as a line feed. -/
def textOfBytes (bytes : List UInt8) : Except LoadFault (List Char) :=
  match Text.decode bytes with
  | .error fault => .error (.undecodable fault)
  | .ok text => .ok (Text.joinLineEnds text)

/-- The table of a file's bytes. -/
def ofBytes (bytes : List UInt8) : Except LoadFault NodeTable := do
  let text ← textOfBytes bytes
  ofChars text

/-- The table of the file at a path. -/
def loadFile (files : FileReader) (path : Path) : Except LoadFault NodeTable :=
  match files path with
  | .error fault => .error (.unreadable path.toText fault)
  | .ok bytes => ofBytes bytes

end Script

end Parley
