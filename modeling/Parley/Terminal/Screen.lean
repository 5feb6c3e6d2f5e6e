/-
What the terminal host shows. A transcript is a row of items: the events of the
run, the entries of the journal that the log filter lets through, and what
passes between the program and the person who plays. Each item has a text, which
is printed on a console, and what is on the screen is one text after the other.
-/

import Parley.Engine
import Parley.Script.Table
import Parley.Terminal.Console
import Parley.Terminal.Help

namespace Parley

/-- An item of a transcript. -/
inductive Shown where
  /-- What the run yielded. -/
  | event (event : Event)
  /-- The replies of an offer before one that cannot be shown, and the number of that one. -/
  | cutOff (texts : List Text)
  /-- A line of the log. -/
  | entry (entry : Entry)
  /-- The request for a choice. -/
  | prompt
  /-- What was typed, where no terminal shows it. -/
  | typed (line : String)
  /-- What is wrong with what was typed. -/
  | refused (message : String)
  /-- The choice was not among so many replies. -/
  | outOfRange (count : Nat)
  /-- What went wrong. -/
  | failure (message : Text)
  /-- The run was broken off at a node. -/
  | stopped (node : Option Text)
  /-- There was nothing more to read. -/
  | abandoned
  /-- The nodes of a script. -/
  | nodes (table : NodeTable)
  /-- A help page. -/
  | help (topic : HelpTopic)
  /-- The settings file cannot be read from a line on. -/
  | unreadableSetting (line : Nat)

/-- The cells of a listing of nodes: their names, their tags and the numbers of their statements. -/
def NodeTable.rows (table : NodeTable) : List (List Text) :=
  table.entries.map fun node =>
    [node.name, Text.intercalate " " node.tags, toString node.body.length]

namespace Console

variable (console : Console)

/-- The replies of an offer, numbered from one. -/
def options (texts : List Text) : String :=
  String.join ((texts.zipIdx 1).map fun (content, index) =>
    console.number index ++ console.print .plain content)

/-- An event. -/
def event : Event → String
  | .line content => console.print .plain content
  | .command content => console.print .dim ("<<" ++ content ++ ">>")
  | .options texts => console.options texts

/-- An entry of the journal. -/
def entry (entry : Entry) : String :=
  console.record entry.note.level
    ("[" ++ contextName entry.context ++ "] " ++ entry.note.message)

/-- An error. -/
def failure (message : Text) : String := console.print .red ("error: " ++ message)

/-- The nodes of a script, if the console can make a table of them. -/
def nodes? (table : NodeTable) : Option String :=
  console.table? ["Node", "Tags", "Statements"] table.rows

end Console

namespace Shown

/-- The texts in an item that are printed as they stand and are not the program's own. -/
def texts : Shown → List Text
  | event (.line content) | event (.command content) => [content]
  | event (.options contents) | cutOff contents => contents
  | entry content => [contextName content.context, content.note.message]
  | failure message => [message]
  | stopped node => node.toList
  | prompt | typed _ | refused _ | outOfRange _ | abandoned | nodes _ | help _
  | unreadableSetting _ => []

/-- Tells whether an item can be shown: a terminal shows characters and nothing else. -/
def isShowable (item : Shown) : Bool := item.texts.all Text.isString

/-- What is seen of an item that cannot be shown: of an offer its beginning, of anything else
nothing. -/
def beginning : Shown → List Shown
  | event (.options contents) => [cutOff (contents.takeWhile Text.isString)]
  | _ => []

/-- The text of an item on a console; what is typed is shown only if `echo` is set. -/
def render (console : Console) (echo : Bool) : Shown → String
  | event content => console.event content
  | cutOff contents => console.options contents ++ console.number (contents.length + 1)
  | entry content => console.entry content
  | prompt => "Choose: "
  | typed line => if echo then line ++ "\n" else ""
  | refused message => "Error: " ++ message ++ "\n"
  | outOfRange count => console.failure ("pick a number between 1 and " ++ toString count)
  | failure message => console.failure message
  | stopped node => console.print .bold ("Dialogue stopped at " ++ Note.nameText node ++ ".")
  | abandoned => "Aborted.\n"
  | nodes table => (console.nodes? table).getD ""
  | help topic => Screen.helpPage topic.page
  | unreadableSetting line =>
    "python-dotenv could not parse statement starting at line " ++ toString line ++ "\n"

end Shown

/-- What is on the screen. Where what is typed is shown, the blank behind a prompt that is given up
comes too late to be seen. -/
def Screen.render (echo : Bool) (items : List Shown) (console : Console := .wide) : String :=
  match items with
  | [] => ""
  | .prompt :: .abandoned :: rest =>
    (if echo then "Choose:" else "Choose: ") ++ Shown.abandoned.render console echo
      ++ render echo rest console
  | item :: rest => item.render console echo ++ render echo rest console

end Parley
