/-
This file says how tables of nodes are put together. A table is made of a list of nodes
unless a name is repeated, and keeps the order of the list. To merge a table into another
one is an ordered union, in which the nodes that come in count: the merged nodes are put
under the names that they have, so what comes out never has a name twice.

A merge takes its nodes from a ledger, in which a node may stand under any name. The ledger
of a table is not of that kind. It is the table itself, in the form of pairs, and writing
pairs is the same as writing nodes.
-/

import Parley.Proofs.Script.Table

namespace Parley

namespace NodeTable

/-! ### Tables of lists -/

theorem names_insert_append {table : NodeTable} {first : Node} (absent : first.name ∉ table.names)
    (names : List Text) :
    (table.insert first).names ++ names = table.names ++ first.name :: names := by
  rw [Roster.names_insert, if_neg absent, List.append_assoc]
  rfl

theorem extend_of_distinct {table : NodeTable} {nodes : List Node}
    (distinct : (table.names ++ nodes.map Node.name).Nodup) :
    ∃ extended, table.extend nodes = .ok extended := by
  induction nodes generalizing table with
  | nil => exact ⟨table, rfl⟩
  | cons first rest ih =>
    have absent : first.name ∉ table.names := fun there =>
      (List.nodup_append.1 distinct).2.2 _ there _ List.mem_cons_self rfl
    rw [extend, if_neg fun there => absent (Roster.contains_iff.1 there)]
    exact ih (names_insert_append absent _ ▸ distinct)

/-- What is reported is the first name that is repeated. -/
theorem extend_eq_error {table : NodeTable} {nodes : List Node} {name : Text}
    (failed : table.extend nodes = .error name) :
    ∃ before node after, nodes = before ++ node :: after ∧ node.name = name ∧
      (table.names ++ before.map Node.name).Nodup ∧ name ∈ table.names ++ before.map Node.name := by
  induction nodes generalizing table with
  | nil => cases failed
  | cons first rest ih =>
    rw [extend] at failed
    split at failed
    · next there =>
      obtain rfl := Except.error.inj failed
      refine ⟨[], first, rest, rfl, rfl, ?_, List.mem_append_left _ (Roster.contains_iff.1 there)⟩
      exact (List.append_nil table.names).symm ▸ table.nodup
    · next unlisted =>
      have absent : first.name ∉ table.names := fun there =>
        unlisted (Roster.contains_iff.2 there)
      obtain ⟨before, node, after, rfl, named, distinct, there⟩ := ih failed
      rw [names_insert_append absent] at distinct there
      exact ⟨first :: before, node, after, rfl, named, distinct, there⟩

/-- A list of nodes makes a table if no name is repeated in it, and the table keeps its order. -/
theorem ofNodes_eq_ok {nodes : List Node} {table : NodeTable} :
    ofNodes nodes = .ok table ↔ (nodes.map Node.name).Nodup ∧ table.entries = nodes := by
  constructor
  · intro made
    have same : table.entries = nodes := entries_extend made
    exact ⟨same ▸ table.nodup, same⟩
  · rintro ⟨distinct, same⟩
    have fresh : ((Roster.empty : NodeTable).names ++ nodes.map Node.name).Nodup := distinct
    obtain ⟨made, done⟩ := extend_of_distinct fresh
    have entries : made.entries = nodes := entries_extend done
    rw [ofNodes, done, Roster.eq_of_entries (entries.trans same.symm)]

/-- A list of nodes that makes no table repeats a name, and the first that it repeats is
reported. -/
theorem ofNodes_eq_error {nodes : List Node} {name : Text} (failed : ofNodes nodes = .error name) :
    ∃ before node after, nodes = before ++ node :: after ∧ node.name = name ∧
      (before.map Node.name).Nodup ∧ name ∈ before.map Node.name := extend_eq_error failed

/-! ### Tables that are merged -/

/-- The ledger of a table is the table in the form of pairs. -/
theorem entries_toLedger (table : NodeTable) :
    table.toLedger.entries = table.entries.map fun node => (node.name, node) := by
  have agree (node : Node) : (node.name, node).fst = node.name := rfl
  have start : (Roster.empty : Ledger Text Node).entries =
      (Roster.empty : NodeTable).entries.map fun node => (node.name, node) := rfl
  have written := Roster.entries_insertAll_map agree start table.entries
  rw [toLedger, Roster.ofList, written]
  exact congrArg _ (congrArg Roster.entries (Roster.empty_union table))

/-- Tables are merged by an ordered union, and this never fails. -/
theorem merge_toLedger (first second : NodeTable) :
    first.merge second.toLedger = .ok (first.union second) := by
  have written : (first.toLedger.insertAll second.toLedger.entries).entries =
      (first.union second).entries.map fun node => (node.name, node) := by
    rw [entries_toLedger second]
    exact Roster.entries_insertAll_map (fun _ => rfl) (entries_toLedger first) second.entries
  have unpaired : (first.toLedger.insertAll second.toLedger.entries).entries.map Prod.snd =
      (first.union second).entries := by
    rw [written, List.map_map]
    exact List.map_id _
  rw [merge, unpaired]
  exact ofNodes_eq_ok.2 ⟨(first.union second).nodup, rfl⟩

/-! ### The laws of tables -/

/-- What holds of the table of a list of nodes. -/
structure Listed (nodes : List Node) : Prop where
  /-- A list in which no name is repeated makes a table, which keeps its order. -/
  built : ∀ table, ofNodes nodes = .ok table ↔
    (nodes.map Node.name).Nodup ∧ table.entries = nodes
  /-- A list that makes no table repeats a name, and the first that it repeats is reported. -/
  repeats : ∀ name, ofNodes nodes = .error name →
    ∃ before node after, nodes = before ++ node :: after ∧ node.name = name ∧
      (before.map Node.name).Nodup ∧ name ∈ before.map Node.name

theorem listed_of (nodes : List Node) : Listed nodes where
  built _ := ofNodes_eq_ok
  repeats _ := ofNodes_eq_error

/-- What holds of tables that are merged. -/
structure Unites (first second third : NodeTable) : Prop where
  /-- Nodes stand under their own names. -/
  named : ∀ name node, first.get? name = some node → node.name = name
  /-- The nodes that come in are found before those that were there, and new names stand last. -/
  merged : ∃ merged, first.merge second.toLedger = .ok merged ∧
    (∀ name, merged.get? name = (second.get? name).or (first.get? name)) ∧
    merged.names = first.names ++ second.names.filter fun name => name ∉ first.names
  associative :
    ((first.merge second.toLedger).bind fun merged => merged.merge third.toLedger) =
      (second.merge third.toLedger).bind fun merged => first.merge merged.toLedger
  idempotent : first.merge first.toLedger = .ok first
  empty : first.merge (toLedger Roster.empty) = .ok first
  emptyFirst : merge Roster.empty first.toLedger = .ok first

theorem unites (first second third : NodeTable) : Unites first second third where
  named _ _ found := (Roster.get?_eq_some_iff.1 found).2
  merged := ⟨first.union second, merge_toLedger first second, Roster.get?_union first second,
    Roster.names_union first second⟩
  associative := by
    rw [merge_toLedger, merge_toLedger]
    show merge (first.union second) third.toLedger = first.merge (toLedger (second.union third))
    rw [merge_toLedger, merge_toLedger, Roster.union_assoc]
  idempotent := by rw [merge_toLedger, Roster.union_self]
  empty := by rw [merge_toLedger, Roster.union_empty]
  emptyFirst := by rw [merge_toLedger, Roster.empty_union]

/-! ### Tables that are made one after the other -/

/-- A way to make one more table: of a list of nodes, or of two tables that were made before, which
are numbered as they come. -/
inductive Making where
  | list (nodes : List Node)
  | merge (first second : Nat)

/-- The tables that there are when one more was made, if it could be. -/
def more (tables : List NodeTable) : Making → List NodeTable
  | .list nodes =>
    match ofNodes nodes with
    | .ok table => tables ++ [table]
    | .error _ => tables
  | .merge first second =>
    match tables[first]?, tables[second]? with
    | some first, some second =>
      match first.merge second.toLedger with
      | .ok table => tables ++ [table]
      | .error _ => tables
    | _, _ => tables

/-- The tables that were made. -/
def made (makings : List Making) : List NodeTable := makings.foldl more []

/-- To make a table changes none of those that there are. -/
theorem prefix_more (tables : List NodeTable) (making : Making) :
    tables <+: more tables making := by
  cases making with
  | list nodes =>
    rw [more]
    split
    · exact List.prefix_append _ _
    · exact List.prefix_rfl
  | merge first second =>
    rw [more]
    split
    · split
      · exact List.prefix_append _ _
      · exact List.prefix_rfl
    · exact List.prefix_rfl

theorem prefix_made (makings later : List Making) : made makings <+: made (makings ++ later) := by
  rw [made, made, List.foldl_append]
  generalize makings.foldl more [] = tables
  induction later generalizing tables with
  | nil => exact List.prefix_rfl
  | cons making rest ih => exact (prefix_more tables making).trans (ih _)

/-- Of two tables that were made their union is made next. -/
theorem made_merge (makings : List Making) {first second : Nat} {table other : NodeTable}
    (there : (made makings)[first]? = some table)
    (thereToo : (made makings)[second]? = some other) :
    ∃ merged, table.merge other.toLedger = .ok merged ∧
      made (makings ++ [.merge first second]) = made makings ++ [merged] := by
  refine ⟨table.union other, merge_toLedger table other, ?_⟩
  have next : made (makings ++ [.merge first second]) = more (made makings) (.merge first second) :=
    List.foldl_append
  rw [next, more, there, thereToo]
  dsimp only
  rw [merge_toLedger]

example :
    (made [.list [⟨"hall", [], []⟩, ⟨"yard", [], []⟩], .list [⟨"loft", [], []⟩, ⟨"hall", [], []⟩],
        .merge 0 1]).map Roster.names =
      ([["hall", "yard"], ["loft", "hall"], ["hall", "yard", "loft"]] : List (List Text)) := by
  decide

end NodeTable

end Parley
