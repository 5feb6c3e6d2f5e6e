/-
This file settles what the message of a failed load says about the script. A script that does
not load reports the first of its failures, in the order in which it is written. If that is
an offence in a body, the message starts with a place. The offence is at this place, no
other place of the node is worded like that, and what stands before it can be compiled.

The wording of a place can be read back, step by step: no step is worded as the start of
another, since the number in a step ends at its bracket, and no step starts with the colon
that stands behind the place.
-/

import Parley.Proofs.Script.Cuts

namespace Parley

/-! ### The wording of places -/

/-- A text starts with the wording of a place and a colon. -/
def Text.StartsWith (text : Text) (place : Place) : Prop :=
  ∃ rest : Text, text = place.text ++ ((":" : String) ++ rest : Text)

theorem Offence.startsWith (place : Place) (cause : Offence) :
    (LoadFault.offence place cause).message.StartsWith place := by
  have colon : ∃ rest : Text, cause.message = ((":" : String) ++ rest : Text) := by
    cases cause <;> exact ⟨⟨_⟩, rfl⟩
  obtain ⟨rest, same⟩ := colon
  exact ⟨rest, congrArg (fun wording => (place.text : Text) ++ wording) same⟩

namespace PlaceStep

/-- The symbols of the wording of a step. -/
def symbols (step : PlaceStep) : List Text.Symbol := step.text.toList.map .char

theorem bracket_notMem (index : Nat) :
    Text.Symbol.char ']' ∉ (Nat.toDigits 10 index).map Text.Symbol.char := by
  intro among
  obtain ⟨digit, member, same⟩ := List.mem_map.1 among
  cases same
  cases Nat.isDigit_of_mem_toDigits (by decide) (by decide) member

/-- Two rows that end where an item comes first are the same, and so is what comes behind. -/
theorem append_cons_inj {Item : Type} {stop : Item} {first second rest others : List Item}
    (absent : stop ∉ first) (missing : stop ∉ second)
    (same : first ++ stop :: rest = second ++ stop :: others) : first = second ∧ rest = others := by
  obtain ⟨between, rfl, behind⟩ | ⟨between, rfl, behind⟩ := List.append_eq_append_iff.1 same
  · cases between with
    | nil => exact ⟨(List.append_nil first).symm, (List.cons.inj behind).2⟩
    | cons item row =>
      cases behind
      exact absurd (List.mem_append_right first List.mem_cons_self) missing
  · cases between with
    | nil => exact ⟨List.append_nil second, (List.cons.inj behind).2.symm⟩
    | cons item row =>
      cases behind
      exact absurd (List.mem_append_right second List.mem_cons_self) absent

/-- A number ends at its bracket. -/
theorem digits_inj {first second : Nat} {rest others : List Text.Symbol}
    (same : (Nat.toDigits 10 first).map Text.Symbol.char ++ .char ']' :: rest =
      (Nat.toDigits 10 second).map Text.Symbol.char ++ .char ']' :: others) :
    first = second ∧ rest = others := by
  obtain ⟨digits, behind⟩ := append_cons_inj (bracket_notMem first) (bracket_notMem second) same
  have written := List.map_injective_iff.2 (fun _ _ equal => Text.Symbol.char.inj equal) digits
  refine ⟨Nat.repr_inj.1 ?_, behind⟩
  rw [Nat.repr_eq_ofList_toDigits, Nat.repr_eq_ofList_toDigits, written]

/-- The wording of a step with a number. -/
theorem symbols_bracket (start : String) (index : Nat) (rest : List Text.Symbol) :
    (start ++ toString index ++ "]").toList.map Text.Symbol.char ++ rest =
      start.toList.map Text.Symbol.char ++
        ((Nat.toDigits 10 index).map Text.Symbol.char ++ .char ']' :: rest) := by
  rw [String.toList_append, String.toList_append, Nat.toString_eq_ofList_toDigits,
    String.toList_ofList, List.map_append, List.map_append, List.append_assoc, List.append_assoc]
  rfl

/-- No step is worded as the start of another. -/
theorem symbols_inj {first second : PlaceStep} {rest others : List Text.Symbol}
    (same : first.symbols ++ rest = second.symbols ++ others) : first = second ∧ rest = others := by
  have number {start : String} {index other : Nat}
      (same : (start ++ toString index ++ "]").toList.map Text.Symbol.char ++ rest =
        (start ++ toString other ++ "]").toList.map Text.Symbol.char ++ others) :
      index = other ∧ rest = others := by
    rw [symbols_bracket, symbols_bracket] at same
    exact digits_inj (List.append_cancel_left same)
  cases first with
  | statement index =>
    cases second with
    | statement other => exact (number same).imp_left (congrArg statement)
    | _ => simp [symbols, text] at same
  | clause index =>
    cases second with
    | clause other => exact (number same).imp_left (congrArg clause)
    | _ => simp [symbols, text] at same
  | otherwise =>
    cases second with
    | otherwise => exact ⟨rfl, List.append_cancel_left same⟩
    | _ => simp [symbols, text] at same
  | reply index =>
    cases second with
    | reply other => exact (number same).imp_left (congrArg reply)
    | _ => simp [symbols, text] at same

theorem symbols_ne_colon (step : PlaceStep) (rest others : List Text.Symbol) :
    step.symbols ++ rest ≠ .char ':' :: others := by
  cases step <;> simp [symbols, text]

/-- Steps in front of a colon are read back from their wording. -/
theorem flatMap_symbols_inj {first second : List PlaceStep} {rest others : List Text.Symbol}
    (same : first.flatMap symbols ++ .char ':' :: rest =
      second.flatMap symbols ++ .char ':' :: others) : first = second := by
  induction first generalizing second with
  | nil =>
    cases second with
    | nil => rfl
    | cons step steps =>
      rw [List.flatMap_cons, List.append_assoc] at same
      exact absurd same.symm (symbols_ne_colon step _ _)
  | cons step steps inductionHypothesis =>
    cases second with
    | nil =>
      rw [List.flatMap_cons, List.append_assoc] at same
      exact absurd same (symbols_ne_colon step _ _)
    | cons other row =>
      rw [List.flatMap_cons, List.flatMap_cons, List.append_assoc, List.append_assoc] at same
      obtain ⟨rfl, behind⟩ := symbols_inj same
      rw [inductionHypothesis behind]

end PlaceStep

theorem Place.symbols_text (place : Place) : (place.text : Text).symbols =
    ("node " ++ place.node.quoted : String).toList.map .char ++
      place.steps.flatMap PlaceStep.symbols := by
  rw [Place.text, Text.ofString, Text.symbols_ofChars, String.toList_append, List.map_append,
    String.toList_join, List.flatMap_map, List.map_flatMap]
  rfl

/-- A text starts with one place of a node at most. -/
theorem Text.StartsWith.unique {text : Text} {node : Text} {first second : List PlaceStep}
    (one : text.StartsWith ⟨node, first⟩) (other : text.StartsWith ⟨node, second⟩) :
    first = second := by
  obtain ⟨rest, rfl⟩ := one
  obtain ⟨others, same⟩ := other
  have symbols := congrArg Text.symbols same
  rw [symbols_append, symbols_append, symbols_append, symbols_append, Place.symbols_text,
    Place.symbols_text, List.append_assoc, List.append_assoc] at symbols
  exact PlaceStep.flatMap_symbols_inj (List.append_cancel_left symbols)

/-! ### The first failure of a script -/

namespace Draft

/-- A draft that is cut off before an offence in its body. -/
def cutOff (draft : Draft) (steps : List PlaceStep) (cause : Offence) : Draft :=
  { draft with body := (Part.block draft.body).cut cause steps }

/-- A draft offends at a place: the steps of the place lead to a part of its body that has the
offence itself, and what comes before the offence can be compiled. -/
structure OffendsAt (draft : Draft) (place : Place) (cause : Offence) : Prop where
  node : place.node = draft.title
  held : ∃ part, (Part.block draft.body).at? place.steps = some part ∧ cause ∈ part.offences
  before : ∃ compiled, Body.node (draft.cutOff place.steps cause) = .ok compiled

/-- The first flaw of a draft is where the draft offends. -/
theorem offends_of_head? {draft : Draft} {fault : LoadFault}
    (first : (draft.flaws.map (Flaw.fault ⟨draft.title, []⟩)).head? = some fault) :
    ∃ place cause, fault = .offence place cause ∧ draft.OffendsAt place cause := by
  rw [List.head?_map] at first
  obtain ⟨⟨steps, cause⟩, found, rfl⟩ := Option.map_eq_some_iff.1 first
  have whole : (Part.block draft.body).flaws.head? = some ⟨steps, cause⟩ := found
  refine ⟨⟨draft.title, steps⟩, cause, rfl, rfl, ?_, ?_⟩
  · exact Part.mem_flaws_iff.1 (List.mem_of_mem_head? whole)
  · rw [← flaws_eq_nil_iff]
    exact Json.numbered_eq_nil_iff.2 (Part.sound_cut whole)

end Draft

namespace Script

/-- A script in which a body cannot be compiled or a title comes twice fails to load, for the first
of its failures. What comes before the failure is sound: the nodes before it make a table, and
either the node can be compiled and its title is repeated, or it offends at the place that its
message starts with, and at no other place of the node. -/
theorem load_first_failure {text : String} {document : Json} {drafts : List Draft}
    (read : Json.read text.toList = .ok document) (shaped : Draft.ofScript document = .ok drafts)
    (flawed : (∃ draft ∈ drafts, ∀ node, Body.node draft ≠ .ok node) ∨
      ¬ (drafts.map Draft.title).Nodup) :
    ∃ fault, load text = .error fault ∧ (faults [] drafts).head? = some fault ∧
      ∃ before draft after table, drafts = before ++ draft :: after ∧
        addDrafts Roster.empty before = .ok table ∧
        ((∃ node, Body.node draft = .ok node) ∧ draft.title ∈ before.map Draft.title ∧
            fault = .duplicate draft.title ∨
          ∃ place cause, fault = .offence place cause ∧ draft.OffendsAt place cause ∧
            fault.message.StartsWith place ∧
            ∀ steps, fault.message.StartsWith ⟨draft.title, steps⟩ → steps = place.steps) := by
  have reports : Reports (faults [] drafts) (load text) := by
    rw [load_of_read read, ofDocument, shaped]
    exact reports_addDrafts Roster.empty drafts
  have some : faults [] drafts ≠ [] := by
    intro none
    obtain ⟨compiled, distinct⟩ := (faults_eq_nil_iff List.nodup_nil drafts).1 none
    obtain ⟨draft, among, stuck⟩ | repeated := flawed
    · obtain ⟨node, done⟩ := compiled draft among
      exact stuck node done
    · exact repeated distinct
  obtain ⟨fault, rest, found⟩ := List.exists_cons_of_ne_nil some
  have first : (faults [] drafts).head? = Option.some fault := by rw [found, List.head?_cons]
  obtain ⟨before, draft, after, parted, sound, here⟩ := head?_faults first
  obtain ⟨table, built⟩ := (reports_addDrafts Roster.empty before).eq_nil_iff.1 sound
  refine ⟨fault, reports.head?_iff.1 first, first, before, draft, after, table, parted, built, ?_⟩
  obtain flaw | ⟨whole, repeated, same⟩ := here
  · obtain ⟨place, cause, rfl, offends⟩ := Draft.offends_of_head? flaw
    refine .inr ⟨place, cause, rfl, offends, cause.startsWith place, fun steps other => ?_⟩
    have one := cause.startsWith place
    obtain ⟨node, way⟩ := place
    obtain rfl : node = draft.title := offends.node
    exact other.unique one
  · exact .inl ⟨draft.flaws_eq_nil_iff.1 whole, repeated, same⟩

/-- A script with a jump to no name, in the block of its second statement. -/
def cellarText : String :=
  "[\x7b\"title\": \"Cellar\", \"body\": [\x7b\"line\": \"Dark.\"\x7d, " ++
    "\x7b\"if\": true, \"then\": [\x7b\"jump\": 3\x7d]\x7d]\x7d]"

/-- The jump. -/
def trapdoor : Json := .object [("jump", .int 3)]

/-- The statement around the jump. -/
def cellarBranch : Json := .object [("if", .bool true), ("then", .array [trapdoor])]

/-- The node of the script. -/
def cellar : Draft := ⟨"Cellar", [], [.object [("line", .string "Dark.")], cellarBranch]⟩

/-- The document of the script. -/
def cellarDocument : Json :=
  .array [.object [("title", .string cellar.title), ("body", .array cellar.body)]]

set_option maxRecDepth 20000 in
theorem read_cellarText : Json.read cellarText.toList = .ok cellarDocument := by
  cbv

theorem flaws_cellar : cellar.flaws = [⟨[.statement 1, .statement 0], .statement trapdoor⟩] := by
  have jump : trapdoor.statementFlaws = [⟨[], .statement trapdoor⟩] := by
    rw [Json.statementFlaws_eq]
    rfl
  have block : (Json.array [trapdoor]).blockFlaws = [⟨[.statement 0], .statement trapdoor⟩] := by
    rw [Json.blockFlaws_eq]
    show Flaw.under _ trapdoor.statementFlaws ++ [] = _
    rw [jump]
    rfl
  have form : cellarBranch.statementForm =
    .branch (.bool true) (.array [trapdoor]) (some []) none := rfl
  have branch : cellarBranch.statementFlaws = [⟨[.statement 0], .statement trapdoor⟩] := by
    rw [Json.statementFlaws_eq, form]
    dsimp only
    rw [Json.expressionOffences_eq, block]
    rfl
  have line : (Json.object [("line", .string "Dark.")]).statementFlaws = [] := by
    rw [Json.statementFlaws_eq]
    rfl
  show Flaw.under _ (Json.statementFlaws _) ++ (Flaw.under _ cellarBranch.statementFlaws ++ []) = _
  rw [line, branch]
  rfl

/-- The message of the cellar starts with the place of the jump, where the cellar offends. -/
theorem load_first_failure_cellar : ∃ fault, load cellarText = .error fault ∧
    fault.message.StartsWith ⟨"Cellar", [.statement 1, .statement 0]⟩ ∧
    cellar.OffendsAt ⟨"Cellar", [.statement 1, .statement 0]⟩ (.statement trapdoor) := by
  have stuck (node : Node) : Body.node cellar ≠ .ok node := fun done => by
    have none := cellar.flaws_eq_nil_iff.2 ⟨node, done⟩
    rw [flaws_cellar] at none
    cases none
  have drafts : Draft.ofScript cellarDocument = .ok [cellar] := rfl
  obtain ⟨fault, failed, first, before, draft, after, _, parted, -, here⟩ :=
    load_first_failure read_cellarText drafts (.inl ⟨cellar, List.mem_cons_self, stuck⟩)
  have listed : (faults [] [cellar]).head? = some (.offence ⟨"Cellar",
      [.statement 1, .statement 0]⟩ (.statement trapdoor)) := by
    rw [faults, flaws_cellar]
    rfl
  cases listed.symm.trans first
  obtain ⟨-, -, impossible⟩ | ⟨place, cause, same, offends, starts, -⟩ := here
  · cases impossible
  · cases same
    have among : draft ∈ [cellar] := by
      rw [parted]
      exact List.mem_append_right _ List.mem_cons_self
    obtain rfl := List.mem_singleton.1 among
    exact ⟨_, failed, starts, offends⟩

end Script

end Parley
