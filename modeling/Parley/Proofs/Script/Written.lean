/-
This file proves that a table can be kept as a text: what is written of its document is
loaded as the table. What cannot be read back from a text is left out by name. These are
integers of too many digits, and high halves of pairs with low halves behind them; whatever
floating point numbers a table has, they come back.
-/

import Parley.Proofs.Json.Writing
import Parley.Proofs.Script.Encoding

namespace Parley

/-! ### Tables that can be written -/

/-- An integer can be read back if it is short, and a text if no halves in it would be joined. -/
def Literal.Writable : Literal → Prop
  | .int integer => integer.natAbs < 10 ^ Json.digitLimit
  | .string text => Json.Unpaired text
  | _ => True

namespace Expression

mutual

/-- The literals and names of an expression can be read back. -/
def Writable : Expression → Prop
  | literal written => written.Writable
  | read name => Json.Unpaired name
  | call function operands => Json.Unpaired function ∧ AllWritable operands
  | foreign => True

/-- The literals and names of expressions can be read back. -/
def AllWritable : List Expression → Prop
  | [] => True
  | first :: rest => Writable first ∧ AllWritable rest

end

end Expression

namespace Statement

mutual

/-- The texts and literals of a statement can be read back. -/
def Writable : Statement → Prop
  | say text | command text => Json.Unpaired text
  | evaluate expression => expression.Writable
  | assign name expression => Json.Unpaired name ∧ expression.Writable
  | branch clauses otherwise => ClausesWritable clauses ∧ BlockWritable otherwise
  | choice replies => RepliesWritable replies
  | jump target => Json.Unpaired target
  | foreign => True

/-- The texts and literals of a block can be read back. -/
def BlockWritable : List Statement → Prop
  | [] => True
  | first :: rest => Writable first ∧ BlockWritable rest

/-- The texts and literals of clauses can be read back. -/
def ClausesWritable : List (Clause Statement) → Prop
  | [] => True
  | ⟨condition, body⟩ :: rest =>
    condition.Writable ∧ BlockWritable body ∧ ClausesWritable rest

/-- The texts and literals of replies can be read back. -/
def RepliesWritable : List (Reply Statement) → Prop
  | [] => True
  | ⟨text, body, condition⟩ :: rest =>
    Json.Unpaired text ∧ (∀ expression, condition = some expression → expression.Writable) ∧
      BlockWritable body ∧ RepliesWritable rest

end

end Statement

/-- The names, tags and bodies of a table can be read back. -/
def NodeTable.Writable (table : NodeTable) : Prop :=
  ∀ node ∈ table.entries, Json.Unpaired node.name ∧ (∀ tag ∈ node.tags, Json.Unpaired tag) ∧
    Statement.BlockWritable node.body

/-! ### Their documents can be written -/

open Json (writable_record)

theorem Literal.writable_encode {written : Literal} (writable : written.Writable) :
    written.encode.Writable := by
  cases written with
  | bool truth => exact .bool truth
  | int integer => exact .int writable
  | float number => exact .float number
  | string text => exact .string writable
  | _ => exact .null

namespace Expression

mutual

theorem writable_encode : ∀ written : Expression, written.Writable → written.encode.Writable
  | literal written, writable => Literal.writable_encode writable
  | read name, unpaired =>
    writable_record ["var"] (by decide) rfl (List.forall_mem_singleton.2 (.string unpaired))
  | call function operands, ⟨named, writable⟩ => by
    have inside := Json.Writable.array (writable_encodeAll operands writable)
    refine writable_record ["call", "args"] (by decide) rfl ?_
    exact List.forall_mem_cons.2 ⟨.string named, List.forall_mem_singleton.2 inside⟩
  | foreign, _ => .null
termination_by structural written => written

theorem writable_encodeAll : ∀ written : List Expression, AllWritable written →
    ∀ document ∈ encodeAll written, document.Writable
  | [], _ => List.forall_mem_nil _
  | first :: rest, writable => List.forall_mem_cons.2
    ⟨writable_encode first writable.1, writable_encodeAll rest writable.2⟩
termination_by structural written => written

end

end Expression

namespace Statement

mutual

theorem writable_encode : ∀ written : Statement, written.Writable → written.encode.Writable
  | say text, unpaired =>
    writable_record ["line"] (by decide) rfl (List.forall_mem_singleton.2 (.string unpaired))
  | command text, unpaired =>
    writable_record ["command"] (by decide) rfl (List.forall_mem_singleton.2 (.string unpaired))
  | evaluate expression, writable => expression.writable_encode writable
  | assign name expression, ⟨named, writable⟩ => by
    refine writable_record ["set", "to"] (by decide) rfl ?_
    exact List.forall_mem_cons.2
      ⟨.string named, List.forall_mem_singleton.2 (expression.writable_encode writable)⟩
  | branch [] otherwise, _ => .null
  | branch (⟨condition, body⟩ :: clauses) otherwise, ⟨⟨tested, inside, further⟩, last⟩ => by
    have first := Json.Writable.array (writable_encodeBlock body inside)
    have others := Json.Writable.array (writable_encodeClauses clauses further)
    have final := Json.Writable.array (writable_encodeBlock otherwise last)
    refine writable_record ["if", "then", "elif", "else"] (by decide) rfl ?_
    simp only [List.forall_mem_cons]
    exact ⟨condition.writable_encode tested, first, others, final, List.forall_mem_nil _⟩
  | choice replies, writable => by
    have offered := Json.Writable.array (writable_encodeReplies replies writable)
    exact writable_record ["options"] (by decide) rfl (List.forall_mem_singleton.2 offered)
  | jump target, unpaired =>
    writable_record ["jump"] (by decide) rfl (List.forall_mem_singleton.2 (.string unpaired))
  | foreign, _ => .null
termination_by structural written => written

theorem writable_encodeBlock : ∀ written : List Statement, BlockWritable written →
    ∀ document ∈ encodeBlock written, document.Writable
  | [], _ => List.forall_mem_nil _
  | first :: rest, writable => List.forall_mem_cons.2
    ⟨writable_encode first writable.1, writable_encodeBlock rest writable.2⟩
termination_by structural written => written

theorem writable_encodeClauses : ∀ written : List (Clause Statement), ClausesWritable written →
    ∀ document ∈ encodeClauses written, document.Writable
  | [], _ => List.forall_mem_nil _
  | ⟨condition, body⟩ :: rest, ⟨tested, inside, further⟩ => by
    have first := Json.Writable.array (writable_encodeBlock body inside)
    refine List.forall_mem_cons.2 ⟨?_, writable_encodeClauses rest further⟩
    refine writable_record ["if", "then"] (by decide) rfl ?_
    exact List.forall_mem_cons.2
      ⟨condition.writable_encode tested, List.forall_mem_singleton.2 first⟩
termination_by structural written => written

theorem writable_encodeReplies : ∀ written : List (Reply Statement), RepliesWritable written →
    ∀ document ∈ encodeReplies written, document.Writable
  | [], _ => List.forall_mem_nil _
  | ⟨text, body, condition⟩ :: rest, ⟨unpaired, tested, inside, further⟩ => by
    have first := Json.Writable.array (writable_encodeBlock body inside)
    refine List.forall_mem_cons.2 ⟨?_, writable_encodeReplies rest further⟩
    cases condition with
    | none =>
      refine writable_record ["text", "body"] (by decide) rfl ?_
      exact List.forall_mem_cons.2 ⟨.string unpaired, List.forall_mem_singleton.2 first⟩
    | some condition =>
      have last := condition.writable_encode (tested condition rfl)
      refine writable_record ["text", "body", "if"] (by decide) rfl ?_
      simp only [encodeCondition, List.forall_mem_cons]
      exact ⟨.string unpaired, first, last, List.forall_mem_nil _⟩
termination_by structural written => written

end

end Statement

/-! ### Tables that are loaded from what was written -/

namespace NodeTable

variable {table : NodeTable}

theorem writable_encode (writable : table.Writable) (shape : Script.Shape) :
    (table.encode shape).Writable := by
  have nodes : Json.Writable (.array (table.entries.map Node.encode)) := by
    refine .array fun document member => ?_
    obtain ⟨node, among, rfl⟩ := List.mem_map.1 member
    obtain ⟨titled, tagged, inside⟩ := writable node among
    have tags : Json.Writable (.array (node.tags.map .string)) := by
      refine .array fun document member => ?_
      obtain ⟨tag, among, rfl⟩ := List.mem_map.1 member
      exact .string (tagged tag among)
    have body := Json.Writable.array (Statement.writable_encodeBlock node.body inside)
    refine writable_record ["title", "tags", "body"] (by decide) rfl ?_
    simp only [List.forall_mem_cons]
    exact ⟨.string titled, tags, body, List.forall_mem_nil _⟩
  cases shape with
  | list => exact nodes
  | object => exact writable_record ["nodes"] (by decide) rfl (List.forall_mem_singleton.2 nodes)

/-- What is written of a table is read as its document. -/
theorem read_render_encode (writable : table.Writable) (shape : Script.Shape) :
    Json.read (table.encode shape).render.toList = .ok (table.encode shape) := by
  rw [Json.render, String.toList_ofList]
  exact (writable_encode writable shape).read

/-- A table of the documented forms is loaded from what is written of it, in both shapes. -/
theorem load_render_encode (documented : table.Documented) (writable : table.Writable)
    (shape : Script.Shape) : Script.load (table.encode shape).render = .ok table := by
  rw [Script.load, Script.ofChars, read_render_encode writable shape]
  exact Script.ofDocument_encode documented shape

end NodeTable

end Parley
