/-
Tables of nodes. A table lists nodes of distinct names in the order in which
the names came in. Merging nodes into a table replaces nodes by name and puts
new ones last.
-/

import Parley.Roster
import Parley.Script.Statement

namespace Parley

/-- Nodes of distinct names. -/
abbrev NodeTable := Roster Node.name

namespace NodeTable

/-- Adds the nodes of a list to a table; the first name that is already there is an error. -/
def extend (table : NodeTable) : List Node → Except Text NodeTable
  | [] => .ok table
  | node :: rest =>
    if table.contains node.name then .error node.name else extend (table.insert node) rest

/-- The table of a list of nodes, or the first name that is repeated. -/
def ofNodes (nodes : List Node) : Except Text NodeTable := extend Roster.empty nodes

/-- The nodes of a table by their names. -/
def toLedger (table : NodeTable) : Ledger Text Node :=
  Roster.ofList (table.entries.map fun node => (node.name, node))

/-- A table with other nodes in it, which replace nodes by the names they are given under; what
comes out is a table again only if the nodes then have distinct names of their own. -/
def merge (table : NodeTable) (nodes : Ledger Text Node) : Except Text NodeTable :=
  ofNodes ((table.toLedger.insertAll nodes.entries).entries.map Prod.snd)

/-- A table as a listing shows it: the names of its nodes. -/
def listed (table : NodeTable) : String :=
  "NodeTable([" ++ String.intercalate ", " (table.names.map Text.quoted) ++ "])"

end NodeTable

end Parley
