/-
Dialogues. A dialogue has nodes, a library, variables and two sinks for
messages to its host. The host loads nodes, starts a run, and pulls one event
after the other out of it; between two events it may do with the dialogue what
it likes. A run goes from node to node along the jumps, and ends when a node
ends without one, at the command `stop`, at a failed assertion, at a name that
no node has, or at a fault.

A run is a value that the host keeps, and holds no more than its place. All else
is in the dialogue, so several runs of one dialogue share its variables, its
visited nodes and its phase.
-/

import Parley.Engine.Session
import Parley.Script.Calls
import Parley.Script.Load

namespace Parley

/-- A dialogue. -/
structure Dialogue (Host : Type) where
  world : World Host
  shelf : Shelf Host
  nodes : NodeTable := Roster.empty
  phase : Phase := .idle
  debugSink : Bool
  errorSink : Bool

/-- An operation on a dialogue that may fail; a failure keeps what was done before it. -/
abbrev Operation (Host : Type) := EStateM Fault (Dialogue Host)

namespace Dialogue

variable {Host : Type}

/-- The node at which a run starts unless the host says otherwise. -/
def defaultStart : Text := "Start"

/-- The command that ends a run. -/
def stopCommand : Text := "stop"

/-- The place of the dialogue's own library. The place before it holds the standard operators as
they were when the dialogue was made, which the inequality refers to. -/
def home : LibraryId := 1

/-- The functions that every dialogue adds to the standard operators. -/
def builtins : List (Function Host) := [⟨"visited", 1, .visited⟩, ⟨"assert", 1, .assertion⟩]

/-- A new dialogue over variables and a host. -/
def new (store : Store) (host : Host) (debugSink errorSink : Bool) : Dialogue Host where
  world := { store, host }
  shelf := ⟨[Library.standard 0,
    (Library.importAll Roster.empty (Library.standard 0)).insertAll builtins]⟩
  debugSink
  errorSink

/-- The library of a dialogue. -/
def library (dialogue : Dialogue Host) : Library Host := dialogue.shelf.library home

/-- Changes the world of a dialogue. -/
def changeWorld (change : World Host → World Host) (dialogue : Dialogue Host) : Dialogue Host :=
  { dialogue with world := change dialogue.world }

/-! ### Setting up -/

/-- Adds a function to the library. -/
def register (name : Text) (arity : Int) (implementation : Implementation Host) :
    Operation Host Unit := do
  let dialogue ← get
  match dialogue.library.register name arity implementation with
  | .error fault => throw fault
  | .ok library => set { dialogue with shelf := dialogue.shelf.replace home library }

/-- Takes a function out of the library. -/
def deregister (name : Text) (dialogue : Dialogue Host) : Dialogue Host :=
  { dialogue with shelf := dialogue.shelf.replace home (dialogue.library.erase name) }

/-- Makes a note. -/
def note (note : Note) : Operation Host Unit := modify (changeWorld (·.note note))

/-- Sends a message to the sink it is meant for, which must be there. -/
def tell (message : Note) : Operation Host Unit := do
  let dialogue ← get
  let present := if message.channel = .errorSink then dialogue.errorSink else dialogue.debugSink
  if present then note message else throw .sinkGone

/-- Fails unless both sinks are there. -/
def requireSinks (activity : Activity) : Operation Host Unit := do
  let dialogue ← get
  if !dialogue.debugSink then throw (.sinkMissing .debug activity)
  else if !dialogue.errorSink then throw (.sinkMissing .error activity)

/-! ### Loading -/

/-- The functions that nodes call and a library lacks, in ascending order. -/
def missingFunctions (library : Library Host) (nodes : List Node) : List Text :=
  (calledFunctions nodes).filter fun name => !library.contains name

/-- Adds nodes, which replace nodes by the names they are given under. If `strict` is set, the
library must have every function they call. The answer is the number of nodes then loaded. -/
def loadNodes (nodes : Ledger Text Node) (strict : Bool) : Operation Host Nat := do
  requireSinks .loading
  let dialogue ← get
  match (if strict then missingFunctions dialogue.library (nodes.entries.map Prod.snd) else []) with
  | first :: _ => throw (.functionNotFound first)
  | [] =>
    match dialogue.nodes.merge nodes with
    | .error name => throw (.load (.duplicate name))
    | .ok table =>
      set { dialogue with nodes := table }
      note (.nodesAdded nodes.size table.size)
      tell (.tellLoaded nodes.size)
      return table.size

/-- Adds the nodes of a script that was read, if it could be read. -/
def loadScript (script : Except LoadFault NodeTable) (strict : Bool) : Operation Host Nat := do
  requireSinks .loading
  match script with
  | .error fault => throw (.load fault)
  | .ok table =>
    note (.scriptLoaded table.size)
    loadNodes table.toLedger strict

/-- Adds the nodes of a script. -/
def loadString (text : String) (strict : Bool) : Operation Host Nat :=
  loadScript (Script.load text) strict

/-- Adds the nodes of a script in a file. -/
def loadFile (files : FileReader) (path : Path) (strict : Bool) : Operation Host Nat :=
  loadScript (Script.loadFile files path) strict

end Dialogue

end Parley
