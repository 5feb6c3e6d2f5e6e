/-
Drafts: the nodes of a document whose shape has been checked, before their
bodies are compiled. A script is an object with a list of nodes or that list
itself; a node has a title of at least one character, and may have tags (a list
of strings, or one string of words) and a body (a list). If a document is
neither of the two, what is wrong with it is reported against both.
-/

import Parley.Script.Offence
import Parley.Text.Blank
import Parley.Text.Split

namespace Parley

/-- A node before its body is compiled. -/
structure Draft where
  title : Text
  tags : List Text
  body : List Json

namespace Draft

/-- The title of a node: a text of at least one character, and of characters only. -/
def checkTitle (document : Json) : Except ShapeFault Text :=
  match document.member? "title" with
  | none => .error .missing
  | some (.string text) =>
    if !text.isString then .error .notCharacters
    else if text.isEmpty then .error .tooShort
    else .ok text
  | some _ => .error .notString

/-- A tag of a node. -/
def checkTag : Json → Except ShapeFault Text
  | .string text => .ok text
  | _ => .error .notString

/-- Tells whether a symbol is a blank. -/
def isBlankSymbol : Text.Symbol → Bool
  | .char char => Text.isBlank char
  | .half _ => false

/-- The tags of a node, before each is checked: one string stands for its words. -/
def rawTags (document : Json) : Except ShapeFault (List Json) :=
  match document.member? "tags" with
  | none => .ok []
  | some (.array items) => .ok items
  | some (.string text) =>
    .ok (((Text.pieces isBlankSymbol text.symbols).filter (! ·.isEmpty)).map fun word =>
      .string ⟨word⟩)
  | some _ => .error .notList

/-- The body of a node. -/
def checkBody (document : Json) : Except ShapeFault (List Json) :=
  match document.member? "body" with
  | none => .ok []
  | some (.array items) => .ok items
  | some _ => .error .notList

/-- What is wrong with the parts of a list, each under its number. -/
def violationsIn (violations : Json → List Violation) (items : List Json) : List Violation :=
  (items.zipIdx).flatMap fun (item, index) =>
    (violations item).map fun violation =>
      { violation with place := .index index :: violation.place }

/-- What is wrong with a checked part, if it is. -/
def violationOf {Checked : Type} (place : List ShapeStep) :
    Except ShapeFault Checked → List Violation
  | .ok _ => []
  | .error fault => [⟨place, fault⟩]

/-- What is wrong with the tags of a node. -/
def tagViolations (document : Json) : List Violation :=
  match rawTags document with
  | .error fault => [⟨[.name "tags"], fault⟩]
  | .ok items =>
    (violationsIn (fun item => violationOf [] (checkTag item)) items).map fun violation =>
      { violation with place := .name "tags" :: violation.place }

/-- What is wrong with a node: its title, then its tags, then its body. -/
def nodeViolations (document : Json) : List Violation :=
  match document with
  | .object _ =>
    violationOf [.name "title"] (checkTitle document) ++ tagViolations document
      ++ violationOf [.name "body"] (checkBody document)
  | _ => [⟨[], .notObject⟩]

/-- The draft of a node, if nothing is wrong with it. -/
def ofNode? (document : Json) : Option Draft :=
  match nodeViolations document, checkTitle document, rawTags document, checkBody document with
  | [], .ok title, .ok tags, .ok body =>
    some ⟨title, tags.filterMap fun tag => (checkTag tag).toOption, body⟩
  | _, _, _, _ => none

/-- What is wrong with a list of nodes. -/
def listViolations (document : Json) : List Violation :=
  match document with
  | .array items => violationsIn nodeViolations items
  | _ => [⟨[], .notList⟩]

/-- The drafts of a list of nodes. -/
def ofList (document : Json) : List Draft :=
  match document with
  | .array items => items.filterMap ofNode?
  | _ => []

/-- Violations under a name. -/
def under (name : String) (violations : List Violation) : List Violation :=
  violations.map fun violation => { violation with place := .name name :: violation.place }

/-- What is wrong with an object that has a list of nodes. -/
def objectViolations (document : Json) : List Violation :=
  match document with
  | .object _ =>
    under "nodes"
      (match document.member? "nodes" with
      | none => [⟨[], .missing⟩]
      | some nodes => listViolations nodes)
  | _ => [⟨[], .notObject⟩]

/-- The drafts of a script. -/
def ofScript (document : Json) : Except (List Violation) (List Draft) :=
  match objectViolations document, listViolations document with
  | [], _ => .ok (((document.member? "nodes").map ofList).getD [])
  | _, [] => .ok (ofList document)
  | first, second => .error (under "ScriptDocument" first ++ under "list[NodeDocument]" second)

end Draft

end Parley
