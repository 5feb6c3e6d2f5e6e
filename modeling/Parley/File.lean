/-
The files a script may be read from: a directory and what lies below it. Above it
lie directories too, of which nothing else is known. Paths are written with
slashes; empty and single-dot parts of a path mean nothing and are left out, a
double dot goes up and is followed from directory to directory.
-/

import Parley.Roster
import Parley.Text.Quoted
import Parley.Text.Split

namespace Parley

/-- What lies under a name. -/
inductive FileContent where
  | bytes (bytes : List UInt8)
  | directory

/-- The directory in which a program runs: what lies under the parts of each path. -/
abbrev Directory := Ledger (List String) FileContent

/-- Why a file cannot be read. -/
inductive FileFault where
  | missing
  | notDirectory
  | isDirectory
  | nameTooLong
  | nulInPath
  deriving DecidableEq, Repr

/-- The wording of a fault, with the number of those that have one. -/
def FileFault.message : FileFault → String
  | missing => "[Errno 2] No such file or directory"
  | notDirectory => "[Errno 20] Not a directory"
  | isDirectory => "[Errno 21] Is a directory"
  | nameTooLong => "[Errno 36] File name too long"
  | nulInPath => "embedded null byte"

/-- A path: the slashes that it begins with and its parts. -/
structure Path where
  root : String
  parts : List String
  deriving DecidableEq, Repr

namespace Path

/-- The slashes that a path begins with: none, one, or two, where three and more count as one. -/
def rootOf : List Char → String
  | '/' :: '/' :: '/' :: _ => "/"
  | '/' :: '/' :: _ => "//"
  | '/' :: _ => "/"
  | _ => ""

/-- The path that a text names. -/
def ofString (text : String) : Path where
  root := rootOf text.toList
  parts := ((Text.pieces (· = '/') text.toList).map String.ofList).filter
    fun part => part ≠ "" ∧ part ≠ "."

/-- The text of a path. -/
def toText (path : Path) : String :=
  match path.root, path.parts with
  | "", [] => "."
  | root, parts => root ++ String.intercalate "/" parts

end Path

/-- A way to read files: the bytes under a path, or why there are none. -/
abbrev FileReader := Path → Except FileFault (List UInt8)

namespace Directory

/-- Tells whether a place is a directory: the top, one that is listed, or one that something lies
in. -/
def isDirectory (directory : Directory) (place : List String) : Bool :=
  place.isEmpty || directory.entries.any fun entry =>
    match entry.2 with
    | .directory => place.isPrefixOf entry.1
    | .bytes _ => place.isPrefixOf entry.1 && place.length < entry.1.length

/-- Tells whether something lies at a place. -/
def holds (directory : Directory) (place : List String) : Bool :=
  directory.isDirectory place || (directory.find? place).isSome

/-- Where a path leads: to a place below the directory, or above it. -/
inductive Goal where
  | below (place : List String)
  | above
  deriving DecidableEq, Repr

/-- The most bytes of one part of a path. -/
def partLimit : Nat := 255

/-- The bytes from which on a path is too long. -/
def pathBound : Nat := 4096

/-- Follows the parts of a path. -/
def follow (directory : Directory) : Goal → List String → Except FileFault Goal
  | goal, [] => .ok goal
  | .above, part :: rest =>
    if part = ".." then follow directory .above rest
    else if partLimit < part.utf8ByteSize then .error .nameTooLong
    else .error .missing
  | .below place, part :: rest =>
    if !directory.isDirectory place then .error .notDirectory
    else if part = ".." then
      follow directory (if place = [] then .above else .below place.dropLast) rest
    else if partLimit < part.utf8ByteSize then .error .nameTooLong
    else if directory.holds (place ++ [part]) then follow directory (.below (place ++ [part])) rest
    else .error .missing

/-- The bytes of the file at a path. A path that begins with a slash leads from the top down. -/
def read (directory : Directory) : FileReader := fun path =>
  if '\x00' ∈ path.toText.toList then .error .nulInPath
  else if pathBound ≤ path.toText.utf8ByteSize then .error .nameTooLong
  else
    match follow directory (if path.root = "" then .below [] else .above) path.parts with
    | .error fault => .error fault
    | .ok .above => .error .isDirectory
    | .ok (.below place) =>
      match directory.find? place with
      | some (.bytes bytes) => .ok bytes
      | _ => .error .isDirectory

end Directory

end Parley
