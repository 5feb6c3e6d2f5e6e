/-
Help pages. A page says how a command is called and what it does, and lists in
panels what it takes. The rows of a panel are set in columns, two blanks apart.
-/

import Parley.Terminal.Table

namespace Parley

/-- What a help page is about. -/
inductive HelpTopic where
  | program
  | play
  | nodes
  deriving DecidableEq, Repr

/-- A frame with a title around rows of texts. -/
structure Panel where
  title : String
  rows : List (List String)

/-- A help page: how a command is called, what it does, and its panels. -/
structure HelpPage where
  usage : String
  summary : String
  panels : List Panel

namespace Screen

/-- The width of a help page. -/
def pageWidth : Nat := 200

/-- A row of dashes. -/
def dashes (count : Nat) : String := String.ofList (List.replicate count '─')

/-- The width of each column of a panel. -/
def panelColumns (rows : List (List String)) : List Nat :=
  rows.foldl
    (fun widths cells =>
      let next := cells.map fun cell => roomFor cell.toList
      List.zipWith Nat.max (widths ++ List.replicate (next.length - widths.length) 0) next)
    []

/-- A panel as wide as the page. -/
def panel (panel : Panel) : String :=
  let columns := panelColumns panel.rows
  let row (cells : List String) : String :=
    "  ".intercalate ((columns.zip cells).map fun (column, cell) => filled column cell.toList)
  "╭─ " ++ panel.title ++ " " ++ dashes (pageWidth - 5 - roomFor panel.title.toList) ++ "╮\n"
    ++ String.join (panel.rows.map fun cells =>
      "│ " ++ filled (pageWidth - 4) (row cells).toList ++ " │\n")
    ++ "╰" ++ dashes (pageWidth - 2) ++ "╯\n"

/-- A help page. -/
def helpPage (page : HelpPage) : String :=
  "\n Usage: " ++ page.usage ++ "\n\n " ++ page.summary ++ "\n\n"
    ++ String.join (page.panels.map panel) ++ "\n"

end Screen

namespace HelpTopic

/-- The row of an option. Two of its columns are for names that switch an option off, and no option
has such a name. -/
def optionRow (long short kind meaning : String) : List String :=
  [long, short, "", "", kind, meaning]

/-- The option that asks for help, which every command has. -/
def helpRow : List String := optionRow "--help" "" "<bool>" "Show this message and exit."

/-- The panel of the script, which a command cannot do without. -/
def scriptPanel : Panel where
  title := "Arguments"
  rows := [["*", "", "script", "", "", "<file>", "[required]"]]

/-- What a command does. -/
def summary : HelpTopic → String
  | program => "Branching dialogue runner"
  | play => "Play a dialogue script in the terminal."
  | nodes => "List the nodes of a dialogue script."

/-- The page on a topic. -/
def page (topic : HelpTopic) : HelpPage where
  usage :=
    match topic with
    | program => "spindle [OPTIONS] COMMAND [ARGS]..."
    | play => "spindle play [OPTIONS] \x7bscript\x7d"
    | nodes => "spindle nodes [OPTIONS] \x7bscript\x7d"
  summary := topic.summary
  panels :=
    match topic with
    | program =>
      [⟨"Options", [helpRow]⟩,
        ⟨"Commands", [["play", play.summary], ["nodes", nodes.summary]]⟩]
    | play =>
      [scriptPanel,
        ⟨"Options",
          [optionRow "--start" "-s" "<str>" "Node to start from.",
            optionRow "--var" "" "<list[str]>" "Initial variable as NAME=VALUE (repeatable).",
            helpRow]⟩]
    | nodes => [scriptPanel, ⟨"Options", [helpRow]⟩]

end HelpTopic

end Parley
