/-
This file settles that a load is made as a whole or not at all. Nodes come to a
dialogue as they are, as the text of a script or as a script in a file, and much can be
wrong with them: there may be no file, no document in it, no script in the document,
a function that the library lacks, or two nodes of one name. Whichever of these is
met, the dialogue is as it was, because the nodes are put in after the last of them.

What a load may do besides is to write to the log, which nobody is told of.
-/

import Parley.Proofs.Dialogue.Chain
import Parley.Proofs.Dialogue.Steps

namespace Parley

variable {Host : Type}

/-! ### Deliveries -/

/-- Nodes as a host hands them to a dialogue. -/
inductive Delivery where
  | plain (nodes : Ledger Text Node)
  | text (script : String)
  | file (files : FileReader) (path : Path)

namespace Delivery

/-- The nodes that are delivered, if they can be read. -/
def read : Delivery → Except LoadFault (Ledger Text Node)
  | .plain nodes => .ok nodes
  | .text script => (Script.load script).map NodeTable.toLedger
  | .file files path => (Script.loadFile files path).map NodeTable.toLedger

/-- Loads what is delivered. -/
def load (strict : Bool) : Delivery → Operation Host Nat
  | .plain nodes => Dialogue.loadNodes nodes strict
  | .text script => Dialogue.loadString script strict
  | .file files path => Dialogue.loadFile files path strict

/-- Nothing is wrong with a delivery: the dialogue can be loaded, the nodes can be read, the library
has every function they call if that is asked for, and the table that they make has no name
twice. -/
structure Accepted (delivery : Delivery) (strict : Bool) (dialogue : Dialogue Host)
    (nodes : Ledger Text Node) (table : NodeTable) : Prop where
  heard : dialogue.Heard
  read : delivery.read = .ok nodes
  stocked : strict = true →
    Dialogue.missingFunctions dialogue.library (nodes.entries.map Prod.snd) = []
  merged : dialogue.nodes.merge nodes = .ok table

end Delivery

namespace Dialogue

/-! ### What loads leave behind -/

/-- Nothing was done but to write to the log. -/
structure Unmoved (before after : Dialogue Host) : Prop where
  rest : ∃ journal, after = { before with world := { before.world with journal } }
  told : ∀ channel, channel ≠ .log → after.world.told channel = before.world.told channel

/-- The nodes were replaced, and the debug sink was told how many came in. -/
structure Replaced (nodes : Ledger Text Node) (table : NodeTable) (before after : Dialogue Host) :
    Prop where
  rest : ∃ journal,
    after = { before with nodes := table, world := { before.world with journal } }
  announced : after.world.told .debugSink =
    before.world.told .debugSink ++ [(Note.tellLoaded nodes.size).message]
  unreproached : after.world.told .errorSink = before.world.told .errorSink

theorem Unmoved.refl (dialogue : Dialogue Host) : dialogue.Unmoved dialogue :=
  ⟨⟨dialogue.world.journal, rfl⟩, fun _ _ => rfl⟩

theorem Unmoved.logged (dialogue : Dialogue Host) {note : Note} (logs : note.channel = .log) :
    dialogue.Unmoved (dialogue.changeWorld (·.note note)) :=
  ⟨⟨_, rfl⟩, fun _ sink => dialogue.world.told_logged sink logs⟩

theorem Unmoved.trans {first second third : Dialogue Host} (onward : first.Unmoved second)
    (further : second.Unmoved third) : first.Unmoved third := by
  obtain ⟨⟨_, rfl⟩, told⟩ := onward
  obtain ⟨⟨journal, rfl⟩, toldFurther⟩ := further
  exact ⟨⟨journal, rfl⟩, fun channel sink => (toldFurther channel sink).trans (told channel sink)⟩

theorem Unmoved.replaced {first second third : Dialogue Host} {nodes : Ledger Text Node}
    {table : NodeTable} (onward : first.Unmoved second)
    (replaced : second.Replaced nodes table third) :
    first.Replaced nodes table third := by
  obtain ⟨⟨_, rfl⟩, told⟩ := onward
  obtain ⟨⟨journal, rfl⟩, announced, unreproached⟩ := replaced
  exact ⟨⟨journal, rfl⟩, announced.trans (by rw [told .debugSink (by rintro ⟨⟩)]),
    unreproached.trans (told .errorSink (by rintro ⟨⟩))⟩

/-- What a load notes when it has put the nodes in. -/
theorem Replaced.noted (dialogue : Dialogue Host) (nodes : Ledger Text Node) (table : NodeTable) :
    dialogue.Replaced nodes table { dialogue with
      nodes := table
      world := (dialogue.world.note (.nodesAdded nodes.size table.size)).note
        (.tellLoaded nodes.size) } where
  rest := ⟨_, rfl⟩
  announced := by
    have announces : (Note.tellLoaded nodes.size).channel = .debugSink := rfl
    rw [World.told_note, if_pos announces, World.told_logged (by rintro ⟨⟩) _ rfl]
  unreproached := by
    rw [World.told_elsewhere .errorSink _ (.tellLoaded nodes.size) (by rintro ⟨⟩),
      World.told_logged (by rintro ⟨⟩) _ rfl]

end Dialogue

/-! ### Loading as a whole -/

namespace Delivery

/-- A load succeeds if nothing is wrong with the delivery, and replaces the nodes then; otherwise it
fails and moves nothing. -/
def Whole (delivery : Delivery) (strict : Bool) (before : Dialogue Host) :
    EStateM.Result Fault (Dialogue Host) Nat → Prop
  | .ok count after => count = after.nodes.size ∧ ∃ nodes,
    delivery.Accepted strict before nodes after.nodes ∧
      before.Replaced nodes after.nodes after
  | .error _ after =>
    (∀ nodes table, ¬ delivery.Accepted strict before nodes table) ∧ before.Unmoved after

theorem whole_nodes (nodes : Ledger Text Node) (strict : Bool) (dialogue : Dialogue Host) :
    Whole (.plain nodes) strict dialogue (Dialogue.loadNodes nodes strict dialogue) := by
  by_cases heard : dialogue.Heard
  · rw [Dialogue.loadNodes_apply nodes strict heard]
    cases missing : (if strict then
        Dialogue.missingFunctions dialogue.library (nodes.entries.map Prod.snd) else []) with
    | cons first rest =>
      refine ⟨fun _ _ accepted => ?_, .refl dialogue⟩
      obtain ⟨-, ⟨⟩, stocked, -⟩ := accepted
      cases strict with
      | false => cases missing
      | true => cases missing.symm.trans (stocked rfl)
    | nil =>
      cases merged : dialogue.nodes.merge nodes with
      | error name =>
        refine ⟨fun _ _ accepted => ?_, .refl dialogue⟩
        obtain ⟨-, ⟨⟩, -, made⟩ := accepted
        cases merged.symm.trans made
      | ok table =>
        refine ⟨rfl, nodes, ⟨heard, rfl, ?_, merged⟩, .noted dialogue nodes table⟩
        rintro rfl
        exact missing
  · rw [Dialogue.loadNodes_unheard nodes strict heard]
    exact ⟨fun _ _ accepted => heard accepted.heard, .refl dialogue⟩

/-- A script is loaded as its nodes are, but for a note that it was read. -/
theorem whole_script {delivery : Delivery} {script : Except LoadFault NodeTable}
    (reads : delivery.read = script.map NodeTable.toLedger) (strict : Bool)
    (dialogue : Dialogue Host) :
    delivery.Whole strict dialogue (Dialogue.loadScript script strict dialogue) := by
  by_cases heard : dialogue.Heard
  · rw [Dialogue.loadScript_apply script strict heard]
    cases script with
    | error fault =>
      refine ⟨fun _ _ accepted => ?_, .refl dialogue⟩
      cases reads.symm.trans accepted.read
    | ok nodes =>
      dsimp only
      have logged := Dialogue.Unmoved.logged dialogue
        (rfl : (Note.scriptLoaded nodes.size).channel = .log)
      have whole := whole_nodes nodes.toLedger strict
        (dialogue.changeWorld (·.note (.scriptLoaded nodes.size)))
      cases loaded : Dialogue.loadNodes nodes.toLedger strict
          (dialogue.changeWorld (·.note (.scriptLoaded nodes.size))) with
      | error fault after =>
        rw [loaded] at whole
        obtain ⟨refused, unmoved⟩ := whole
        refine ⟨fun delivered table accepted => refused delivered table ?_, logged.trans unmoved⟩
        obtain ⟨heard, read, stocked, merged⟩ := accepted
        exact ⟨heard, reads.symm.trans read, stocked, merged⟩
      | ok count after =>
        rw [loaded] at whole
        obtain ⟨counted, _, ⟨heard, ⟨⟩, stocked, merged⟩, replaced⟩ := whole
        exact ⟨counted, nodes.toLedger, ⟨heard, reads, stocked, merged⟩, logged.replaced replaced⟩
  · rw [Dialogue.loadScript_unheard script strict heard]
    exact ⟨fun _ _ accepted => heard accepted.heard, .refl dialogue⟩

theorem whole (delivery : Delivery) (strict : Bool) (dialogue : Dialogue Host) :
    delivery.Whole strict dialogue (delivery.load strict dialogue) := by
  cases delivery with
  | plain nodes => exact whole_nodes nodes strict dialogue
  | text script => exact whole_script rfl strict dialogue
  | file files path => exact whole_script rfl strict dialogue

theorem Accepted.loads {delivery : Delivery} {strict : Bool} {dialogue : Dialogue Host}
    {nodes : Ledger Text Node} {table : NodeTable}
    (accepted : delivery.Accepted strict dialogue nodes table) :
    ∃ after, delivery.load strict dialogue = .ok table.size after := by
  have whole := delivery.whole strict dialogue
  cases loaded : delivery.load strict dialogue with
  | error fault after =>
    rw [loaded] at whole
    exact absurd accepted (whole.1 nodes table)
  | ok count after =>
    rw [loaded] at whole
    obtain ⟨counted, read, again, -⟩ := whole
    obtain rfl := Except.ok.inj (again.read.symm.trans accepted.read)
    have same : after.nodes = table := Except.ok.inj (again.merged.symm.trans accepted.merged)
    exact ⟨after, by rw [counted, same]⟩

end Delivery

namespace Dialogue

/-- What fails leaves a dialogue as it was. Take any dialogue, also one of which a run waits.
Whether nodes, a text or a file are loaded, strictly or not: either the load succeeds, and then
nothing was wrong with what was delivered, nothing but the nodes has changed, and the answer is the
number of nodes in the table that the old ones and the new ones make; or it fails, nothing but the
log has changed, and no sink was told anything. A run that cannot be begun for want of a sink
changes nothing at all. -/
theorem failure_moves_nothing (dialogue : Dialogue Host) (delivery : Delivery) (strict : Bool)
    (start : Text) :
    (match delivery.load strict dialogue with
      | .ok count after => count = after.nodes.size ∧ ∃ nodes,
        delivery.Accepted strict dialogue nodes after.nodes ∧
          dialogue.Replaced nodes after.nodes after
      | .error _ after =>
        (∀ nodes table, ¬ delivery.Accepted strict dialogue nodes table) ∧
          dialogue.Unmoved after) ∧
    (match Dialogue.run start dialogue with
      | .ok _ _ => dialogue.Heard
      | .error fault after => (∃ sink, fault = .sinkMissing sink .running) ∧ after = dialogue) := by
  constructor
  · exact delivery.whole strict dialogue
  · by_cases heard : dialogue.Heard
    · rw [Dialogue.run, bind_apply, requireSinks_heard _ heard]
      exact heard
    · rw [Dialogue.run, bind_apply, requireSinks_unheard _ heard]
      exact ⟨⟨_, rfl⟩, rfl⟩

end Dialogue

end Parley
