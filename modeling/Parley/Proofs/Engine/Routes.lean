/-
This file looks at the graph of the jumps in a table. Nodes that are entered one after the
other make a route through it. If no name that can be reached from the start leads back to
itself, a route passes no node twice; it is then not longer than the table, and passes no
more statements that yield an event than there are in the nodes that can be reached.
-/

import Mathlib
import Parley.Proofs.Engine.Parts

namespace Parley

/-- The number of statements that yield an event in some nodes. -/
def yieldsIn (nodes : List Node) : Nat :=
  (nodes.map fun node => Statement.yieldCount node.body).sum

theorem yieldsIn_append (first second : List Node) :
    yieldsIn (first ++ second) = yieldsIn first + yieldsIn second := by
  rw [yieldsIn, List.map_append, List.sum_append]
  rfl

namespace NodeTable

/-- Nodes of a table that can be entered one after the other from a start: the body of each has a
jump to the next. -/
structure Route (table : NodeTable) (start : Text) (route : List Node) : Prop where
  first : ∀ node ∈ route.head?, node.name = start
  present : ∀ node ∈ route, table.get? node.name = some node
  leads : route.IsChain fun one next => table.Leads one.name next.name

/-- No name that can be reached from a start leads back to itself. -/
def AcyclicFrom (table : NodeTable) (start : Text) : Prop :=
  ∀ name, table.Reaches start name → ¬ Relation.TransGen table.Leads name name

/-- Where each jump that can be reached leads to a lower rank, no name leads back to itself. -/
theorem AcyclicFrom.of_rank {table : NodeTable} {start : Text} (rank : Text → Nat)
    (descends : ∀ name target, table.Reaches start name → table.Leads name target →
      rank target < rank name) : table.AcyclicFrom start := by
  intro name reached circle
  have lower {target : Text} (path : Relation.TransGen table.Leads name target) :
      rank target < rank name := by
    induction path with
    | single leads => exact descends _ _ reached leads
    | tail front leads ih =>
      exact (descends _ _ (reached.trans front.to_reflTransGen) leads).trans ih
  exact Nat.lt_irrefl _ (lower circle)

open Classical in
/-- The number of statements that yield an event in the nodes that can be reached from a start. -/
noncomputable def yieldCount (table : NodeTable) (start : Text) : Nat :=
  yieldsIn (table.entries.filter fun node => table.Reaches start node.name)

theorem yieldCount_le_yieldsIn (table : NodeTable) (start : Text) :
    table.yieldCount start ≤ yieldsIn table.entries :=
  (List.filter_sublist.map _).sum_le_sum fun _ _ => Nat.zero_le _

namespace Route

variable {table : NodeTable} {start : Text} {route : List Node}

/-- A route goes on where its last node has a jump to a node that there is. -/
theorem concat (along : table.Route start route) {last next : Node}
    (ends : route.getLast? = some last) (there : table.get? next.name = some next)
    (leads : table.Leads last.name next.name) : table.Route start (route ++ [next]) where
  first node begins := by
    cases route with
    | nil => cases ends
    | cons one rest => exact along.first node begins
  present node member := by
    obtain before | rfl := by simpa using member
    · exact along.present node before
    · exact there
  leads := by
    refine along.leads.append (.singleton next) fun one isLast two isNext => ?_
    rw [ends] at isLast
    cases isLast
    cases isNext
    exact leads

theorem pairwise (along : table.Route start route) :
    route.Pairwise fun one next => Relation.TransGen table.Leads one.name next.name := by
  let onward (one next : Node) : Prop := Relation.TransGen table.Leads one.name next.name
  have chain : route.IsChain onward := along.leads.imp fun _ _ leads => .single leads
  have trans : Trans onward onward onward := ⟨.trans⟩
  exact chain.pairwise

theorem reaches (along : table.Route start route) {node : Node} (member : node ∈ route) :
    table.Reaches start node.name := by
  cases route with
  | nil => cases member
  | cons first rest =>
    rw [← along.first first rfl]
    obtain rfl | behind := List.mem_cons.1 member
    · exact .refl
    · exact ((List.pairwise_cons.1 along.pairwise).1 node behind).to_reflTransGen

theorem nodup (along : table.Route start route) (acyclic : table.AcyclicFrom start) :
    (route.map Node.name).Nodup := by
  refine List.pairwise_map.2 (along.pairwise.imp_of_mem ?_)
  intro one next member _ leads same
  rw [← same] at leads
  exact acyclic one.name (along.reaches member) leads

/-- A route passes some of the nodes that can be reached, each of them once. -/
theorem subperm (along : table.Route start route) (acyclic : table.AcyclicFrom start)
    {nodes : List Node}
    (all : ∀ node ∈ table.entries, table.Reaches start node.name → node ∈ nodes) :
    route.Subperm nodes := by
  have nodup : route.Nodup := .of_map Node.name (along.nodup acyclic)
  refine List.subperm_of_subset nodup fun node member => ?_
  exact all node (List.mem_of_find?_eq_some (along.present node member)) (along.reaches member)

theorem length_le (along : table.Route start route) (acyclic : table.AcyclicFrom start) :
    route.length ≤ table.size :=
  (along.subperm acyclic fun _ member _ => member).length_le

theorem yieldCount_le (along : table.Route start route) (acyclic : table.AcyclicFrom start) :
    yieldsIn route ≤ table.yieldCount start := by
  classical
  obtain ⟨nodes, same, among⟩ := along.subperm acyclic fun node member reached =>
    List.mem_filter.2 ⟨member, decide_eq_true reached⟩
  rw [yieldsIn, ← (same.map _).sum_eq]
  exact (among.map _).sum_le_sum fun _ _ => Nat.zero_le _

end Route

end NodeTable

end Parley
