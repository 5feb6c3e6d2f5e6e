/-
A roster is a list in which every name occurs once, in the order in which the
names first came in. Everything this library keeps by name is a roster: the
variables of a store, the functions of a library, the nodes of a table, the
levels of a log filter.

Writing under a name that is already there replaces the entry where it stands;
writing under a new name puts it last; erasing a name and writing it again
moves it to the end. That the names stay distinct is part of the type, so no
reader of a roster has to ask which of two entries counts.
-/

namespace Parley

variable {Entry Name : Type} [DecidableEq Name]

/-! ### Lists written by name -/

/-- Puts `entry` where the entry of the same name stands, or last if there is none. -/
def upsert (name : Entry → Name) (entry : Entry) : List Entry → List Entry
  | [] => [entry]
  | head :: rest =>
    if name head = name entry then entry :: rest else head :: upsert name entry rest

/-- Writing changes the list of names only by a new name at the end. -/
theorem map_upsert (name : Entry → Name) (entry : Entry) (entries : List Entry) :
    (upsert name entry entries).map name =
      if name entry ∈ entries.map name then entries.map name
      else entries.map name ++ [name entry] := by
  induction entries with
  | nil => simp [upsert]
  | cons head rest ih =>
    by_cases same : name head = name entry
    · simp [upsert, same]
    · have other : ¬ name entry = name head := fun equal => same equal.symm
      by_cases present : name entry ∈ rest.map name
      · rw [if_pos present] at ih
        simp [upsert, same, ih, other] at present ⊢
        simpa using present
      · rw [if_neg present] at ih
        simp [upsert, same, ih, other] at present ⊢
        simpa using present

theorem nodup_map_upsert (name : Entry → Name) (entry : Entry) {entries : List Entry}
    (distinct : (entries.map name).Nodup) : ((upsert name entry entries).map name).Nodup := by
  rw [map_upsert]
  split
  · exact distinct
  · next absent =>
    refine List.nodup_append.2 ⟨distinct, by simp, ?_⟩
    intro first inFirst second inSecond equal
    rw [List.mem_singleton] at inSecond
    exact absent (inSecond ▸ equal ▸ inFirst)

/-! ### Rosters -/

/-- Entries with pairwise distinct names, oldest name first. -/
structure Roster (name : Entry → Name) where
  entries : List Entry
  nodup : (entries.map name).Nodup

namespace Roster

variable {name : Entry → Name}

/-- The roster without entries. -/
def empty : Roster name := ⟨[], by simp⟩

instance : Inhabited (Roster name) := ⟨empty⟩

/-- The names, oldest first. -/
def names (roster : Roster name) : List Name := roster.entries.map name

/-- The number of entries. -/
def size (roster : Roster name) : Nat := roster.entries.length

/-- The entry under a name. -/
def get? (roster : Roster name) (wanted : Name) : Option Entry :=
  roster.entries.find? fun entry => name entry = wanted

/-- Tells whether a name has an entry. -/
def contains (roster : Roster name) (wanted : Name) : Bool :=
  roster.entries.any fun entry => name entry = wanted

/-- Writes an entry under its name. -/
def insert (roster : Roster name) (entry : Entry) : Roster name :=
  ⟨upsert name entry roster.entries, nodup_map_upsert name entry roster.nodup⟩

/-- Forgets a name. -/
def erase (roster : Roster name) (unwanted : Name) : Roster name :=
  ⟨roster.entries.filter fun entry => name entry ≠ unwanted,
    List.Nodup.sublist (List.filter_sublist.map name) roster.nodup⟩

/-- Writes the entries of a list one after the other. -/
def insertAll (roster : Roster name) (entries : List Entry) : Roster name :=
  entries.foldl insert roster

/-- The roster that a list of entries leaves; of two entries of one name the later counts. -/
def ofList (entries : List Entry) : Roster name := empty.insertAll entries

end Roster

/-- A roster of named values. -/
abbrev Ledger (Name Value : Type) [DecidableEq Name] :=
  Roster (Prod.fst : Name × Value → Name)

namespace Ledger

variable {Value : Type}

/-- The value under a name. -/
def find? (ledger : Ledger Name Value) (wanted : Name) : Option Value :=
  (Roster.get? ledger wanted).map Prod.snd

/-- Writes a value under a name. -/
def put (ledger : Ledger Name Value) (wanted : Name) (value : Value) : Ledger Name Value :=
  Roster.insert ledger (wanted, value)

end Ledger

end Parley
