/-
Which roster a list of entries leaves. The names come in the order in which they first
occur in the list, and under each of them stands the entry that came latest. So a list
that goes on leaves the union of what its two parts leave.
-/

import Mathlib.Data.List.Induction
import Parley.Proofs.Roster

namespace Parley

variable {Entry Name : Type} [DecidableEq Name] {name : Entry → Name}

namespace Roster

/-- What is written into a roster could have been written into another one first. -/
theorem insertAll_eq_union (roster : Roster name) (written : List Entry) :
    roster.insertAll written = roster.union (ofList written) := by
  induction written using List.reverseRecOn generalizing roster with
  | nil => rfl
  | append_singleton earlier entry ih =>
    have last (start : Roster name) : start.insertAll (earlier ++ [entry]) =
        (start.insertAll earlier).insert entry := by
      rw [insertAll, insertAll, List.foldl_append]
      rfl
    have single (start : Roster name) : start.insert entry = start.union (empty.insert entry) := rfl
    have whole : (ofList (earlier ++ [entry]) : Roster name) = (ofList earlier).insert entry :=
      last empty
    rw [last, ih, single, union_assoc, ← single, whole]

/-- Behind a list the entries of another one count. -/
theorem ofList_append (earlier later : List Entry) :
    (ofList (earlier ++ later) : Roster name) = (ofList earlier).union (ofList later) := by
  rw [← insertAll_eq_union, ofList, ofList, insertAll, insertAll, insertAll, List.foldl_append]

theorem ofList_concat (earlier : List Entry) (entry : Entry) :
    (ofList (earlier ++ [entry]) : Roster name) = (ofList earlier).insert entry :=
  ofList_append earlier [entry]

/-- Under a name stands the latest entry of the list that has it. -/
theorem get?_ofList (entries : List Entry) (wanted : Name) :
    (ofList entries : Roster name).get? wanted =
      (entries.filter fun entry => name entry = wanted).getLast? := by
  induction entries using List.reverseRecOn with
  | nil => rfl
  | append_singleton earlier entry ih =>
    rw [ofList_concat, get?_insert, ih, List.filter_append, List.getLast?_append]
    by_cases same : name entry = wanted
    · rw [if_pos same.symm, List.filter_cons_of_pos (by simpa using same)]
      rfl
    · rw [if_neg fun equal => same equal.symm, List.filter_cons_of_neg (by simpa using same)]
      rfl

/-- The names stand in the order in which they first occur in the list. -/
theorem names_ofList (entries : List Entry) :
    (ofList entries : Roster name).names = (entries.map name).eraseDups := by
  induction entries using List.reverseRecOn with
  | nil => rfl
  | append_singleton earlier entry ih =>
    rw [ofList_concat, names_insert, ih, List.map_append, List.eraseDups_append, List.map_singleton]
    by_cases there : name entry ∈ earlier.map name
    · have removed : [name entry].removeAll (earlier.map name) = [] :=
        List.filter_eq_nil_iff.2 fun other member => by
          rw [List.mem_singleton.1 member]
          simpa using there
      rw [if_pos (List.mem_eraseDups.2 there), removed, List.eraseDups_nil, List.append_nil]
    · have kept : [name entry].removeAll (earlier.map name) = [name entry] :=
        List.filter_eq_self.2 fun other member => by
          rw [List.mem_singleton.1 member]
          simpa using there
      rw [if_neg fun among => there (List.mem_eraseDups.1 among), kept]
      rfl

theorem mem_names_ofList {entries : List Entry} {wanted : Name} :
    wanted ∈ (ofList entries : Roster name).names ↔ wanted ∈ entries.map name := by
  rw [names_ofList, List.mem_eraseDups]

end Roster

namespace Ledger

variable {Value : Type}

theorem get?_eq (ledger : Ledger Name Value) (wanted : Name) :
    Roster.get? ledger wanted = (ledger.find? wanted).map fun value => (wanted, value) := by
  cases found : Roster.get? ledger wanted with
  | none => rw [find?, found, Option.map_none, Option.map_none]
  | some entry =>
    obtain rfl := (Roster.get?_eq_some_iff.1 found).2
    rw [find?, found, Option.map_some, Option.map_some]

/-- Ledgers that list the same names with the same values are the same. -/
theorem eq_of_find? {first second : Ledger Name Value} (names : first.names = second.names)
    (found : ∀ wanted, first.find? wanted = second.find? wanted) : first = second :=
  Roster.eq_of_names names fun wanted => by rw [get?_eq, get?_eq, found]

end Ledger

end Parley
