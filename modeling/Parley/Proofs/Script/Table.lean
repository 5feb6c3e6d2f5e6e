/-
Which nodes a table holds after nodes were merged into it: those that came in, and
those that it held before under other names. And which names a list of called
functions holds: all of them.
-/

import Parley.Proofs.Roster
import Parley.Script.Calls
import Parley.Script.Table

namespace Parley

/-! ### Tables -/

namespace NodeTable

theorem entries_extend {table extended : NodeTable} {nodes : List Node}
    (done : table.extend nodes = .ok extended) : extended.entries = table.entries ++ nodes := by
  induction nodes generalizing table with
  | nil =>
    cases done
    exact (List.append_nil _).symm
  | cons first rest ih =>
    rw [extend] at done
    split at done
    · cases done
    · next absent =>
      rw [ih done, Roster.entries_insert_of_absent (eq_false_of_ne_true absent),
        List.append_assoc]
      rfl

theorem mem_toLedger {table : NodeTable} {name : Text} {node : Node} :
    (name, node) ∈ table.toLedger.entries ↔ node ∈ table.entries ∧ name = node.name := by
  have distinct : ((table.entries.map fun node => (node.name, node)).map Prod.fst).Nodup := by
    rw [List.map_map]
    exact table.nodup
  refine (Roster.mem_insertAll_iff distinct).trans ?_
  constructor
  · rintro (written | ⟨nothing, -⟩)
    · obtain ⟨node, member, ⟨⟩⟩ := List.mem_map.1 written
      exact ⟨member, rfl⟩
    · cases nothing
  · rintro ⟨member, rfl⟩
    exact .inl (List.mem_map.2 ⟨node, member, rfl⟩)

/-- A table with nodes merged into it holds those, and of the nodes it held before the ones under
whose names none has come in. -/
theorem mem_merge_iff {table merged : NodeTable} {nodes : Ledger Text Node} {node : Node}
    (done : table.merge nodes = .ok merged) :
    node ∈ merged.entries ↔ node ∈ nodes.entries.map Prod.snd ∨
      node ∈ table.entries ∧ nodes.contains node.name = false := by
  have listed : merged.entries =
      (table.toLedger.insertAll nodes.entries).entries.map Prod.snd := entries_extend done
  have absent (name : Text) :
      name ∉ nodes.entries.map Prod.fst ↔ nodes.contains name = false := by
    rw [← Bool.not_eq_true]
    exact not_congr Roster.contains_iff.symm
  rw [listed]
  constructor
  · intro member
    obtain ⟨⟨name, node⟩, there, rfl⟩ := List.mem_map.1 member
    obtain written | ⟨before, other⟩ := (Roster.mem_insertAll_iff nodes.nodup).1 there
    · exact .inl (List.mem_map_of_mem written)
    · obtain ⟨kept, rfl⟩ := mem_toLedger.1 before
      exact .inr ⟨kept, (absent _).1 other⟩
  · rintro (written | ⟨before, other⟩)
    · obtain ⟨entry, there, rfl⟩ := List.mem_map.1 written
      exact List.mem_map_of_mem ((Roster.mem_insertAll_iff nodes.nodup).2 (.inl there))
    · exact List.mem_map.2 ⟨(node.name, node), (Roster.mem_insertAll_iff nodes.nodup).2
        (.inr ⟨mem_toLedger.2 ⟨before, rfl⟩, (absent _).2 other⟩), rfl⟩

theorem mem_merge {table merged : NodeTable} {nodes : Ledger Text Node} {node : Node}
    (done : table.merge nodes = .ok merged) (member : node ∈ merged.entries) :
    node ∈ nodes.entries.map Prod.snd ∨ node ∈ table.entries :=
  ((mem_merge_iff done).1 member).imp_right And.left

end NodeTable

/-! ### Called functions -/

theorem mem_insertName {name wanted : Text} {names : List Text}
    (member : wanted = name ∨ wanted ∈ names) : wanted ∈ insertName name names := by
  induction names with
  | nil => simpa [insertName] using member
  | cons first rest ih =>
    rw [insertName]
    split
    · next same =>
      subst same
      obtain rfl | member := member
      · exact List.mem_cons_self
      · exact member
    · split
      · exact List.mem_cons.2 member
      · obtain rfl | member := member
        · exact List.mem_cons_of_mem _ (ih (.inl rfl))
        · obtain rfl | behind := List.mem_cons.1 member
          · exact List.mem_cons_self
          · exact List.mem_cons_of_mem _ (ih (.inr behind))

theorem mem_sortedNames {wanted : Text} {names : List Text} (member : wanted ∈ names) :
    wanted ∈ sortedNames names := by
  induction names with
  | nil => cases member
  | cons first rest ih =>
    refine mem_insertName ?_
    obtain rfl | behind := List.mem_cons.1 member
    · exact .inl rfl
    · exact .inr (ih behind)

theorem mem_calledFunctions {nodes : List Node} {node : Node} {name : Text} (member : node ∈ nodes)
    (called : name ∈ Statement.blockCalls node.body) : name ∈ calledFunctions nodes :=
  mem_sortedNames (List.mem_flatMap.2 ⟨node, member, called⟩)

end Parley
