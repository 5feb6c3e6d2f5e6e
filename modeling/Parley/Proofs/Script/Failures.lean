/-
This file settles how loading a script fails. Each stage has failures of its own:
the text is no document, the document has not the shape of a script, a body is
offended against, a name comes twice. All of them are failures of the script, which
a host is prepared for, and their messages can be shown; the only other one is that
the text holds an integer which is too long to be read.

Bodies are the long part: whatever the compiler meets in them, it refuses by an
offence at a place. That is kept by each step of the compiler, and is shown along
its recursion.
-/

import Parley.Proofs.Json.Integers
import Parley.Proofs.Script.Image

namespace Parley

/-! ### Texts that are strings -/

namespace Text

@[simp]
theorem isString_ofString (string : String) : (ofString string).isString = true := by
  rw [isString, ofString, chars?_ofChars]
  rfl

theorem isString_eq_all (text : Text) :
    text.isString = text.symbols.all fun symbol => symbol.toChar?.isSome := by
  obtain ⟨symbols⟩ := text
  rw [isString, chars?]
  induction symbols with
  | nil => rfl
  | cons symbol rest ih =>
    rw [List.mapM_cons, List.all_cons, ← ih]
    cases symbol.toChar? with
    | none => rfl
    | some char => cases List.mapM Symbol.toChar? rest <;> rfl

@[simp]
theorem isString_append (first second : Text) :
    (first ++ second).isString = (first.isString && second.isString) := by
  rw [isString_eq_all, isString_eq_all, isString_eq_all, symbols_append, List.all_append]

end Text

/-! ### Bodies -/

/-- If there is a failure, it is an offence, and its message can be shown. -/
def Offends {Compiled : Type} (result : Except LoadFault Compiled) : Prop :=
  ∀ fault, result = .error fault →
    ∃ place cause, fault = .offence place cause ∧ cause.message.isString = true

namespace Offends

variable {Compiled First Second : Type}

theorem ok (compiled : Compiled) : Offends (.ok compiled) := nofun

theorem refuse {place : Place} {cause : Offence} (showable : cause.message.isString = true) :
    Offends (Body.refuse place cause : Except LoadFault Compiled) := by
  rintro _ ⟨⟩
  exact ⟨place, cause, rfl, showable⟩

theorem bind {first : Except LoadFault First} {next : First → Except LoadFault Second}
    (one : Offends first) (other : ∀ answer, Offends (next answer)) :
    Offends (first >>= next) := by
  cases first with
  | error fault =>
    rintro _ ⟨⟩
    exact one fault rfl
  | ok answer => exact other answer

end Offends

theorem Operator.isString_name (operator : Operator) : operator.name.isString = true := by
  cases operator <;> exact Text.isString_ofString _

namespace Body

mutual

theorem offends_expression (place : Place) (document : Json) :
    Offends (expression place document) := by
  rw [expression]
  split
  next => exact .ok _
  next => exact .ok _
  next shown =>
    have smaller := Json.sizeOf_call shown
    exact .bind (offends_expressions place _) fun _ => .ok _
  next => exact .refuse (by simp [Offence.message])
  next name operands shown =>
    split
    next => exact .refuse (by simp [Offence.message])
    next => exact .refuse (by simp [Offence.message])
    next operator items _ _ _ =>
      have smaller := Json.sizeOf_operator shown
      refine .bind (offends_expressions place items) fun operands => ?_
      split
      · exact .ok _
      · exact .refuse (by simp [Offence.message, operator.isString_name])
  next => exact .refuse (by simp [Offence.message])
termination_by 2 * sizeOf document + 1

theorem offends_expressions (place : Place) :
    ∀ documents : List Json, Offends (expressions place documents)
  | [] => by
    rw [expressions]
    exact .ok _
  | document :: rest => by
    rw [expressions]
    exact .bind (offends_expression place document) fun _ =>
      .bind (offends_expressions place rest) fun _ => .ok _
termination_by documents => 2 * sizeOf documents

end

mutual

theorem offends_statement (place : Place) (document : Json) :
    Offends (statement place document) := by
  rw [statement]
  split
  next => exact .ok _
  next => exact .ok _
  next => exact .bind (offends_expression place document) fun _ => .ok _
  next part _ => exact .bind (offends_expression place part) fun _ => .ok _
  next condition body extras otherwise shown =>
    obtain ⟨-, small, few, behind⟩ := Json.sizeOf_branch shown
    refine .bind (offends_expression place condition) fun _ => ?_
    refine .bind (offends_block place body) fun _ => ?_
    split
    next => exact .refuse (by simp [Offence.message])
    next items =>
      have fewer := few items rfl
      refine .bind (offends_clauses place 0 items) fun _ => .bind ?_ fun _ => .ok _
      split
      next => exact .ok _
      next part _ _ =>
        have smaller := behind part rfl
        exact offends_block _ part
  next items shown =>
    have smaller := Json.sizeOf_choice shown
    exact .bind (offends_replies place 0 items) fun _ => .ok _
  next => exact .ok _
  next => exact .refuse (by simp [Offence.message])
termination_by 3 * sizeOf document + 2

theorem offends_block (place : Place) (document : Json) : Offends (block place document) := by
  rw [block]
  split
  next => exact .refuse (by simp [Offence.message])
  next items list =>
    have smaller := Json.sizeOf_items? list
    exact offends_statements place 0 items
termination_by 3 * sizeOf document + 1

theorem offends_statements (place : Place) (index : Nat) :
    ∀ documents : List Json, Offends (statements place index documents)
  | [] => by
    rw [statements]
    exact .ok _
  | document :: rest => by
    rw [statements]
    exact .bind (offends_statement _ document) fun _ =>
      .bind (offends_statements place (index + 1) rest) fun _ => .ok _
termination_by documents => 3 * sizeOf documents

theorem offends_clauses (place : Place) (index : Nat) :
    ∀ documents : List Json, Offends (clauses place index documents)
  | [] => by
    rw [clauses]
    exact .ok _
  | document :: rest => by
    rw [clauses]
    split
    next => exact .refuse (by simp [Offence.message])
    next form found =>
      have smaller := Json.sizeOf_clauseForm? found
      refine .bind (offends_expression _ form.condition) fun _ => ?_
      refine .bind (offends_block _ form.body) fun _ => ?_
      exact .bind (offends_clauses place (index + 1) rest) fun _ => .ok _
termination_by documents => 3 * sizeOf documents

theorem offends_replies (place : Place) (index : Nat) :
    ∀ documents : List Json, Offends (replies place index documents)
  | [] => by
    rw [replies]
    exact .ok _
  | document :: rest => by
    rw [replies]
    split
    next => exact .refuse (by simp [Offence.message])
    next form found =>
      refine .bind ?_ fun _ => .bind ?_ fun _ => .bind ?_ fun _ => ?_
      · split
        next => exact .ok _
        next part given =>
          have smaller := (Json.sizeOf_reply found).1 part given
          exact offends_block _ part
      · split
        next => exact .ok _
        next => exact .refuse (by simp [Offence.message])
        next => exact .ok _
      · split
        next => exact .ok _
        next part given => exact .bind (offends_expression _ part) fun _ => .ok _
      · exact .bind (offends_replies place (index + 1) rest) fun _ => .ok _
termination_by documents => 3 * sizeOf documents

end

/-- A body is refused for an offence, and for nothing else. -/
theorem offends_node (draft : Draft) : Offends (node draft) :=
  .bind (offends_statements ⟨draft.title, []⟩ 0 draft.body) fun _ => .ok _

theorem name_node {draft : Draft} {compiled : Node} (done : node draft = .ok compiled) :
    compiled.name = draft.title := by
  obtain ⟨body, -, returned⟩ := Except.bind_eq_ok_iff.1 done
  cases returned
  rfl

end Body

/-! ### Scripts -/

/-- A failure of the script, with a message that can be shown. -/
def LoadFault.Foreseen (fault : LoadFault) : Prop :=
  fault.kind = .script ∧ fault.message.isString = true

namespace Script

theorem foreseen_addDrafts {table : NodeTable} {drafts : List Draft} {fault : LoadFault}
    (titled : ∀ draft ∈ drafts, draft.title.IsTitle)
    (failed : addDrafts table drafts = .error fault) : fault.Foreseen := by
  induction drafts generalizing table with
  | nil => cases failed
  | cons draft rest ih =>
    rw [addDrafts] at failed
    cases compiled : Body.node draft with
    | error offence =>
      rw [compiled] at failed
      cases failed
      obtain ⟨place, cause, rfl, showable⟩ := Body.offends_node draft fault compiled
      exact ⟨rfl, by simp [LoadFault.message, showable]⟩
    | ok node =>
      have title := (titled draft List.mem_cons_self).1
      rw [← Body.name_node compiled] at title
      rw [compiled] at failed
      replace failed : (if table.contains node.name then throw (.duplicate node.name)
        else addDrafts (table.insert node) rest) = Except.error fault := failed
      split at failed
      · cases failed
        exact ⟨rfl, by simp [LoadFault.message, title]⟩
      · exact ih (fun other member => titled other (List.mem_cons_of_mem _ member)) failed

theorem foreseen_ofDocument {document : Json} {fault : LoadFault}
    (failed : ofDocument document = .error fault) : fault.Foreseen := by
  rw [ofDocument] at failed
  split at failed
  next violations _ =>
    cases failed
    exact ⟨rfl, by simp [LoadFault.message]⟩
  next drafts made =>
    exact foreseen_addDrafts (fun draft => Draft.titled_of_ofScript made) failed

/-- A text fails as a script in a way that is foreseen, or holds an integer that is too long. -/
theorem ofChars_eq_error {text : List Char} {fault : LoadFault}
    (failed : ofChars text = .error fault) :
    fault.Foreseen ∨ ∃ digits, fault = .malformed text (.tooLong digits) := by
  rw [ofChars] at failed
  split at failed
  next cause read =>
    cases failed
    cases cause with
    | misplaced cause index => exact .inl ⟨rfl, by simp [LoadFault.message]⟩
    | tooLong digits => exact .inr ⟨digits, rfl⟩
  next document read => exact .inl (foreseen_ofDocument failed)

theorem ofChars_eq_tooLong {text : List Char} {digits : Nat} :
    ofChars text = .error (.malformed text (.tooLong digits)) ↔
      Json.MeetsInteger text digits := by
  rw [← Json.read_eq_tooLong, ofChars]
  split
  next cause read =>
    rw [read]
    simp
  next document read =>
    rw [read]
    refine iff_of_false (fun failed => ?_) (by rintro ⟨⟩)
    cases (foreseen_ofDocument failed).1

/-- Loading a script fails for the script, but for one thing. The other failure is that of an
integer, and comes up exactly if the reader comes to one that is too long: to a row of digits in the
text that is longer than the limit. -/
theorem load_fails (text : String) :
    (∀ fault, load text = .error fault → fault.kind = .script ∨ fault.kind = .integer) ∧
      ((∃ fault, load text = .error fault ∧ fault.kind = .integer) ↔
        ∃ digits, Json.MeetsInteger text.toList digits) ∧
      ∀ digits, Json.MeetsInteger text.toList digits → Json.digitLimit < digits ∧
        ∃ run, run <:+: text.toList ∧ run.length = digits ∧
          ∀ char ∈ run, Json.isPlainDigit char = true := by
  refine ⟨fun fault failed => ?_, ⟨?_, ?_⟩, fun digits meets => meets.run⟩
  · obtain foreseen | ⟨digits, rfl⟩ := ofChars_eq_error failed
    · exact .inl foreseen.1
    · exact .inr rfl
  · rintro ⟨fault, failed, integer⟩
    obtain foreseen | ⟨digits, rfl⟩ := ofChars_eq_error failed
    · cases integer.symm.trans foreseen.1
    · exact ⟨digits, ofChars_eq_tooLong.1 failed⟩
  · rintro ⟨digits, meets⟩
    exact ⟨_, ofChars_eq_tooLong.2 meets, rfl⟩

/-- A script that is a single long integer does not fail for the script. -/
theorem load_long_integer :
    ∃ fault, load (String.ofList (List.replicate 4301 '1')) = .error fault ∧
      fault.kind ≠ .script := by
  have meets := Json.meetsInteger_replicate (show Json.digitLimit < 4301 by decide)
  refine ⟨.malformed (List.replicate 4301 '1') (.tooLong 4301), ?_, nofun⟩
  rw [load, String.toList_ofList]
  exact ofChars_eq_tooLong.2 meets

end Script

end Parley
