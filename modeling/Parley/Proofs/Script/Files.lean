/-
This file settles that a script is the same in a file as it is as a text. The file is decoded
and its line ends are joined before the script is read, and neither is to be seen in what comes
out: decoding undoes the encoding, and the reader of documents does not see which line ends a
text has.
-/

import Mathlib
import Parley.Proofs.Json.LineEnds
import Parley.Script.Load

namespace Parley.Script

open Parley.Text

/-- What kind of failure it is that a text is no document does not depend on places. -/
theorem kind_malformed (text text' : List Char) {fault fault' : Json.Fault}
    (same : fault.blurred = fault'.blurred) :
    (LoadFault.malformed text fault).kind = (LoadFault.malformed text' fault').kind := by
  cases fault with
  | misplaced cause index =>
    cases fault' with
    | misplaced cause' index' => rfl
    | tooLong digits => cases same
  | tooLong digits =>
    cases fault' with
    | misplaced cause' index' => cases same
    | tooLong digits' => rfl

theorem ofChars_joinLineEnds (text : List Char) :
    (ofChars (joinLineEnds text)).mapError LoadFault.kind =
      (ofChars text).mapError LoadFault.kind := by
  have same := Json.read_joinLineEnds text
  rw [ofChars, ofChars]
  cases joined : Json.read (joinLineEnds text) with
  | error fault =>
    rw [joined] at same
    cases plain : Json.read text with
    | error fault' =>
      rw [plain] at same
      exact congrArg Except.error (kind_malformed _ _ (Except.error.inj same))
    | ok document =>
      rw [plain] at same
      cases same
  | ok document =>
    rw [joined] at same
    cases plain : Json.read text with
    | error fault' =>
      rw [plain] at same
      cases same
    | ok document' =>
      rw [plain] at same
      cases same
      rfl

/-- A script in a file is loaded as its text is. If a file holds a text in UTF-8, whatever line ends
the text has, then the file and the text make the same table, or none for the same kind of
failure. -/
theorem loadFile_like_load {files : FileReader} {path : Path} {text : String}
    (holds : files path = .ok text.toUTF8.data.toList) :
    (∀ table, loadFile files path = .ok table ↔ load text = .ok table) ∧
      ∀ kind, (∃ fault, loadFile files path = .error fault ∧ fault.kind = kind) ↔
        ∃ fault, load text = .error fault ∧ fault.kind = kind := by
  have file : loadFile files path = ofChars (joinLineEnds text.toList) := by
    rw [loadFile, holds]
    dsimp only
    rw [ofBytes, textOfBytes, decode_toUTF8]
    rfl
  have same := ofChars_joinLineEnds text.toList
  rw [file, load]
  generalize ofChars (joinLineEnds text.toList) = joined at same ⊢
  generalize ofChars text.toList = plain at same ⊢
  cases joined with
  | error fault =>
    cases plain with
    | error fault' =>
      have kinds : fault.kind = fault'.kind := Except.error.inj same
      refine ⟨fun table => iff_of_false nofun nofun, fun kind => ⟨?_, ?_⟩⟩
      · rintro ⟨_, ⟨⟩, rfl⟩
        exact ⟨fault', rfl, kinds.symm⟩
      · rintro ⟨_, ⟨⟩, rfl⟩
        exact ⟨fault, rfl, kinds⟩
    | ok table => cases same
  | ok table =>
    cases plain with
    | error fault => cases same
    | ok table' =>
      cases same
      exact ⟨fun _ => Iff.rfl, fun _ => Iff.rfl⟩

/-- A script of one node, in which lines end in three ways. -/
def ferry : String := "[\x7b\"title\":\r\n\"Ferry\",\r\"body\":\n[]\x7d]"

/-- The table of the script. -/
def ferryTable : NodeTable := Roster.ofList [⟨"Ferry", [], []⟩]

/-- A place where nothing lies but the file of the script. -/
def ferryFile : FileReader := fun _ => .ok ferry.toUTF8.data.toList

theorem load_ferry : load ferry = .ok ferryTable := by
  cbv

theorem loadFile_like_load_ferry :
    ferryFile (Path.ofString "ferry.json") = .ok ferry.toUTF8.data.toList ∧
      loadFile ferryFile (Path.ofString "ferry.json") = .ok ferryTable := by
  have held : ferryFile (Path.ofString "ferry.json") = .ok ferry.toUTF8.data.toList := rfl
  obtain ⟨tables, -⟩ := loadFile_like_load held
  exact ⟨held, (tables ferryTable).2 load_ferry⟩

end Parley.Script
