/-
Log filters: which records of the journal are shown. A filter is a list of items
between commas. A bare item sets the level for everything; `name=level` sets the
level of one source and of all sources below it in the dotted hierarchy;
`name=false` silences them. Later items count over earlier ones of the same
name, and of two names that fit a source the longer one decides.
-/

import Parley.Journal
import Parley.Roster
import Parley.Text.Blank
import Parley.Text.Split
import Parley.Text.Upper

namespace Parley

/-- A filter as it is written: the level for everything, and the levels of sources, where no level
means silence. -/
structure LogFilter where
  level : String
  modules : Ledger String (Option String)

/-- The least weight that is shown for each name, the empty name standing for everything; no weight
means silence. -/
abbrev LogLevels := Ledger String (Option Nat)

namespace LogFilter

/-- The filter that is used if none is given. -/
def default : String := "info"

/-- Nothing but the usual level. -/
def usual : LogFilter := ⟨"INFO", Roster.empty⟩

/-- Tells whether a level is the word for silence, in any case. -/
def isSilence (level : String) : Bool := level.map Char.toLower = "false"

/-- Adds an item, from which the blanks around it have been taken. -/
def add (filter : LogFilter) (item : List Char) : LogFilter :=
  match Text.partition '=' item with
  | (_, none) => { filter with level := Text.upper (String.ofList item) }
  | (name, some level) =>
    let name := String.ofList (Text.trimChars name)
    let level := String.ofList (Text.trimChars level)
    let level := if isSilence level then none else some (Text.upper level)
    { filter with modules := filter.modules.put name level }

/-- The items of a text, without the blanks around them; blank items are left out. -/
def items (text : String) : List (List Char) :=
  ((Text.pieces (· = ',') text.toList).map Text.trimChars).filter (! ·.isEmpty)

/-- The filter of a text. -/
def ofString (text : String) : LogFilter := (items text).foldl add usual

/-- All levels of a filter by name, the one for everything under the empty name; an item without a
name replaces it. -/
def entries (filter : LogFilter) : Ledger String (Option String) :=
  (Roster.empty.insert ("", some filter.level)).insertAll filter.modules.entries

/-- The weight of a level by its name. -/
def weigh (entry : String × Option String) : Except (String × String) (String × Option Nat) :=
  match entry.2 with
  | none => .ok (entry.1, none)
  | some level =>
    match Level.ofName? level with
    | some known => .ok (entry.1, some known.weight)
    | none => .error (entry.1, level)

/-- The weights of a filter, or the first name with a level that does not exist. -/
def levels (filter : LogFilter) : Except (String × String) LogLevels := do
  let weighed ← filter.entries.entries.mapM weigh
  return Roster.ofList weighed

/-- The wording of a level that does not exist. -/
def unknownLevel (entry : String × String) : String :=
  "The filter dict contains a module '" ++ entry.1
    ++ "' associated to a level name which does not exist: '" ++ entry.2 ++ "'"

end LogFilter

namespace LogLevels

/-- A dotted name without its last part; the empty name for a name of one part. -/
def parent (name : List Char) : List Char :=
  ((name.reverse.dropWhile (· ≠ '.')).drop 1).reverse

theorem length_parent_lt {name : List Char} (named : name ≠ []) :
    (parent name).length < name.length := by
  have shorter : (name.reverse.dropWhile (· ≠ '.')).length ≤ name.length := by
    have := (List.dropWhile_sublist (l := name.reverse) (· ≠ '.')).length_le
    simpa using this
  have positive := List.length_pos_iff.2 named
  simp only [parent, List.length_reverse, List.length_drop]
  omega

/-- The entry that decides for a name: its own, else that of the nearest name above it. -/
def deciding? (levels : LogLevels) (name : List Char) : Option (Option Nat) :=
  match levels.find? (String.ofList name) with
  | some level => some level
  | none => if _empty : name = [] then none else deciding? levels (parent name)
termination_by name.length
decreasing_by exact length_parent_lt ‹_›

/-- Tells whether a record of a source is shown, by its weight. -/
def admits (levels : LogLevels) (source : String) (weight : Nat) : Bool :=
  match deciding? levels source.toList with
  | some (some least) => least ≤ weight
  | some none => false
  | none => true

/-- Tells whether a record of a source is shown. -/
def shows (levels : LogLevels) (source : String) (level : Level) : Bool :=
  levels.admits source level.weight

/-- Tells whether an entry of the journal is shown. -/
def showsEntry (levels : LogLevels) (entry : Entry) : Bool :=
  levels.shows entry.note.source.name entry.note.level

end LogLevels

/-- A text filled up with blanks to a width. -/
def padded (width : Nat) (text : Text) : Text :=
  text ++ .ofChars (List.replicate (width - text.length) ' ')

/-- An entry as a line of the log. -/
def Entry.line (entry : Entry) : Text :=
  padded 7 entry.note.level.name ++ " | " ++ padded 12 (contextName entry.context) ++ " | "
    ++ entry.note.source.name ++ " | " ++ entry.note.message

end Parley
