/-
This file says when all that a traversal yields and reports can be shown. A script may
hold texts that are no strings, but a run makes up no text of its own: what it yields
and notes, and what its faults say, is put together from the program's own words, from
names that stand in what is left of the body, and from the name of the node. If these
are strings, everything that comes of them is one.

Values are not asked about. A string that a variable holds may have halves of surrogate
pairs in it, but a note lists values quoted, and they come to light nowhere else.
-/

import Parley.Proofs.Engine.Parts
import Parley.Proofs.Engine.Resolved
import Parley.Proofs.Library
import Parley.Proofs.Script.Failures

namespace Parley

variable {Host Answer First Second : Type}

/-! ### Notes and faults -/

theorem Text.isString_getD {name : Option Text} (named : ∀ text ∈ name, text.isString = true)
    (default : String) : (name.getD default).isString = true := by
  cases name with
  | none => exact isString_ofString default
  | some text => exact named text rfl

/-- The names in a note. -/
def Note.names : Note → List Text
  | runStarted name | nodeEntered name | assigned name _ | tellRunning name | tellMissing name =>
    [name]
  | runFinished _ name | assertFailed name | playFinished _ name => name.toList
  | nodeCompleted name next => name :: next.toList
  | playStarted script start => [script, start]
  | scriptLoaded _ | nodesAdded _ _ | choiceSkipped | optionChosen _ | tellLoaded _
  | tellComplete => []

/-- The wording of a note is a string if the names in it are. -/
theorem Note.isString_message {note : Note} (named : ∀ name ∈ note.names, name.isString = true) :
    note.message.isString = true := by
  have optional {name : Option Text} (named : ∀ text ∈ name.toList, text.isString = true) :
      (nameText name).isString = true :=
    Text.isString_getD (fun text there => named text (Option.mem_toList.2 there)) "None"
  cases note with
  | runFinished phase node => simp [message, optional named]
  | assertFailed node => simp [message, optional named]
  | playFinished phase node => simp [message, optional named]
  | nodeCompleted name next =>
    simp only [names, List.forall_mem_cons] at named
    simp [message, named.1, optional named.2]
  | playStarted script start =>
    simp only [names, List.forall_mem_cons] at named
    simp [message, named.1, named.2.1]
  | _ => simp_all [message, names]

/-- A note and the name that it is kept with can be shown. -/
def Entry.Legible (entry : Entry) : Prop :=
  (contextName entry.context).isString = true ∧ entry.note.message.isString = true

/-- A fault is one of the dialogue, and its message can be shown. -/
def Fault.Legible (fault : Fault) : Prop :=
  fault.ofDialogue = true ∧ fault.message.isString = true

namespace Fault

theorem legible_functionNotFound {name : Text} (named : name.isString = true) :
    (functionNotFound name).Legible := ⟨rfl, by simp [message, named]⟩

theorem legible_arityMismatch {name : Text} (named : name.isString = true)
    (expected actual : Nat) : (arityMismatch name expected actual).Legible :=
  ⟨rfl, by simp [message, named]⟩

theorem legible_notChosen : notChosen.Legible := ⟨rfl, Text.isString_ofString _⟩

end Fault

/-! ### Worlds -/

/-- What a world reports can be shown, and so can the names that it will report. -/
structure World.Legible (world : World Host) : Prop where
  current : ∀ name ∈ world.current, name.isString = true
  executing : ∀ name ∈ world.executing, name.isString = true
  journal : ∀ entry ∈ world.journal, entry.Legible

theorem World.Legible.note {world : World Host} (legible : world.Legible) (note : Note)
    (named : ∀ name ∈ note.names, name.isString = true) : (world.note note).Legible where
  current := legible.current
  executing := legible.executing
  journal entry member := by
    obtain before | rfl := Array.mem_push.1 member
    · exact legible.journal entry before
    · exact ⟨Text.isString_getD legible.executing "-", Note.isString_message named⟩

/-- A computation reports only what can be shown, and fails only by faults that can. -/
abbrev Act.Legible (act : Act Host Answer) (fit : Answer → Prop) : Prop :=
  Confined World.Legible Fault.Legible act fit

theorem Act.legible_note {note : Note} (named : ∀ name ∈ note.names, name.isString = true) :
    (Act.note note : Act Host Unit).Legible fun _ => True :=
  .changing fun _ legible => legible.note note named

/-! ### Functions -/

namespace Shelf

/-- The equality that the inequality asks for fails by its operands at most. -/
theorem legible_equality {shelf : Shelf Host} (furnished : shelf.Furnished) (steps : Nat)
    (operands : List Value) :
    (shelf.callWithin (steps + 1) 0 Operator.equalTo.name operands).Legible fun _ => True := by
  obtain ⟨own, others, furnished⟩ := furnished
  have first : shelf.library 0 = Library.standard 0 := by
    rw [library, furnished, List.getElem?_cons_zero, Option.getD_some]
  rw [callWithin, first, lookup_equalTo]
  dsimp only
  split
  · exact .throw (Fault.legible_arityMismatch (Operator.isString_name .equalTo) _ _)
  · exact .pure trivial

theorem legible_first {shelf : Shelf Host} (furnished : shelf.Furnished)
    {function : Function Host} (first : function ∈ Dialogue.firstLibrary.entries) (steps : Nat)
    (operands : List Value) :
    (perform (shelf.callWithin (steps + 1)) operands function.implementation).Legible
      fun _ => True := by
  obtain builtin | standard := Roster.mem_insertAll first
  · simp only [Dialogue.builtins, List.mem_cons, List.not_mem_nil, or_false] at builtin
    obtain rfl | rfl := builtin
    · exact Confined.bind .get fun _ _ => .pure trivial
    · unfold perform
      dsimp only
      split
      · exact .pure trivial
      · refine Confined.bind .get fun world legible => ?_
        refine Confined.bind (Act.legible_note fun name member => ?_) fun _ _ => ?_
        · exact legible.current name (Option.mem_toList.1 member)
        · exact Confined.bind (.changing fun _ legible => { legible with }) fun _ _ => .pure trivial
  · obtain standard | nothing := Roster.mem_insertAll standard
    · obtain made | nothing := Roster.mem_insertAll standard
      · obtain ⟨operator, -, rfl⟩ := List.mem_map.1 made
        cases operator with
        | notEqualTo =>
          exact Confined.bind (legible_equality furnished steps operands) fun _ _ => .pure trivial
        | _ => exact .pure trivial
      · cases nothing
    · cases nothing

/-- Where there are only the functions that every dialogue starts with, a call by a name that can be
shown reports and fails so that it can be shown. -/
theorem legible_call {shelf : Shelf Host} (furnished : shelf.Furnished) {place : LibraryId}
    (first : shelf.library place = Dialogue.firstLibrary) {name : Text}
    (named : name.isString = true) (operands : List Value) :
    (shelf.call place name operands).Legible fun _ => True := by
  obtain ⟨steps, size⟩ := Nat.exists_eq_add_one_of_ne_zero (Nat.ne_of_gt furnished.size_pos)
  rw [call, callWithin, first, Library.lookup]
  cases found : Dialogue.firstLibrary.get? name with
  | none => exact .throw (Fault.legible_functionNotFound named)
  | some function =>
    obtain ⟨member, rfl⟩ := Roster.get?_eq_some_iff.1 found
    dsimp only
    split
    · exact .throw (Fault.legible_arityMismatch named _ _)
    · rw [size]
      exact legible_first furnished member steps operands

end Shelf

/-! ### Bodies -/

namespace Statement

/-- The texts that stand in a statement itself, not in its blocks, and that come to light when it is
run. -/
def texts : Statement → List Text
  | say text | command text | jump text => [text]
  | assign name _ => [name]
  | choice replies => replies.map Reply.text
  | evaluate _ | branch _ _ | foreign => []

/-- A block resolves, and the texts that stand anywhere in it can be shown. -/
structure BlockLegible (block : List Statement) : Prop where
  texts : ∀ part ∈ blockParts block, ∀ text ∈ part.texts, text.isString = true
  resolves : BlockResolves (fun name _ => name.isString = true) block

theorem BlockLegible.append {first second : List Statement} (legible : BlockLegible first)
    (behind : BlockLegible second) : BlockLegible (first ++ second) where
  texts part member := by
    rw [blockParts_append] at member
    obtain member | member := List.mem_append.1 member
    · exact legible.texts part member
    · exact behind.texts part member
  resolves := legible.resolves.append behind.resolves

theorem BlockLegible.tail {head : Statement} {rest : List Statement}
    (legible : BlockLegible (head :: rest)) : BlockLegible rest where
  texts part member := legible.texts part (List.mem_append_right _ member)
  resolves := legible.resolves.2

/-- The blocks of the first clause of a branch, of the other clauses, and behind the branch. -/
theorem BlockLegible.branch {condition : Expression} {body otherwise rest : List Statement}
    {clauses : List (Clause Statement)}
    (legible : BlockLegible (.branch (⟨condition, body⟩ :: clauses) otherwise :: rest)) :
    condition.Resolves (fun name _ => name.isString = true) ∧ BlockLegible (body ++ rest) ∧
      BlockLegible (.branch clauses otherwise :: rest) := by
  have texts := legible.texts
  obtain ⟨⟨⟨⟨inCondition, inBody⟩, inClauses⟩, inOtherwise⟩, inRest⟩ := legible.resolves
  simp only [blockParts, parts, clauseParts, List.mem_append] at texts
  refine ⟨inCondition, .append ⟨fun part member => ?_, inBody⟩ legible.tail,
    ⟨fun part member => ?_, ⟨inClauses, inOtherwise⟩, inRest⟩⟩
  · exact texts part (.inl (.inl (.inl member)))
  · simp only [blockParts, parts, List.mem_append] at member
    obtain (member | member) | member := member
    · exact texts part (.inl (.inl (.inr member)))
    · exact texts part (.inl (.inr member))
    · exact texts part (.inr member)

end Statement

/-- The text and the block of a reply can be shown, and its condition resolves. -/
structure Reply.Legible (reply : Reply Statement) : Prop where
  text : reply.text.isString = true
  body : Statement.BlockLegible reply.body
  condition : ∀ expression ∈ reply.condition,
    expression.Resolves fun name _ => name.isString = true

theorem Statement.RepliesResolve.condition {fits : Text → Nat → Prop}
    {replies : List (Reply Statement)} (resolve : RepliesResolve fits replies)
    {reply : Reply Statement} (member : reply ∈ replies) :
    ∀ expression ∈ reply.condition, expression.Resolves fits := by
  induction replies with
  | nil => cases member
  | cons first rest ih =>
    obtain ⟨text, body, condition⟩ := first
    cases member with
    | head => exact resolve.1.1
    | tail _ behind => exact ih resolve.2 behind

theorem Statement.BlockLegible.reply {replies : List (Reply Statement)} {rest : List Statement}
    (legible : BlockLegible (.choice replies :: rest)) {reply : Reply Statement}
    (member : reply ∈ replies) : reply.Legible where
  text := legible.texts (.choice replies) List.mem_cons_self _ (List.mem_map_of_mem member)
  body := by
    refine ⟨fun part inBody => ?_, legible.resolves.1.body member⟩
    have inReplies := (blockParts_sublist_replyParts member).subset inBody
    exact legible.texts part (List.mem_append_left _ (List.mem_cons_of_mem _ inReplies))
  condition := legible.resolves.1.condition member

/-- What is left of a traversal, and the name of its node, can be shown. -/
def Traversal.Legible : Traversal → Prop
  | .fresh node => node.name.isString = true ∧ Statement.BlockLegible node.body
  | .within name rest => name.isString = true ∧ Statement.BlockLegible rest
  | .offered name replies rest =>
    name.isString = true ∧ (∀ reply ∈ replies, reply.Legible) ∧ Statement.BlockLegible rest
  | .ended => True

/-- The texts of an event. -/
def Event.texts : Event → List Text
  | line text | command text => [text]
  | options texts => texts

/-- The texts of an event can be shown. -/
def Event.Legible (event : Event) : Prop := ∀ text ∈ event.texts, text.isString = true

/-- An event, or the name of the next node, can be shown. -/
def Result.Legible : Result → Prop
  | .event yielded => yielded.Legible
  | .complete next => ∀ name ∈ next, name.isString = true

/-! ### Pulls -/

namespace Engine

variable {call : Text → List Value → Act Host Value}

theorem legible_valueOf {literal : Literal} (scalar : ∃ value, literal.toValue = .ok value) :
    (Act.valueOf literal : Act Host Value).Legible fun _ => True := by
  obtain ⟨value, scalar⟩ := scalar
  rw [Act.valueOf, scalar]
  exact .pure trivial

mutual

theorem legible_evaluate
    (calls : ∀ name operands, name.isString = true → (call name operands).Legible fun _ => True) :
    ∀ expression : Expression, (expression.Resolves fun name _ => name.isString = true) →
      (evaluate call expression).Legible fun _ => True
  | .literal _, scalar => legible_valueOf scalar
  | .read _, _ => Confined.bind .get fun _ _ => .pure trivial
  | .call function operands, resolves =>
    Confined.bind (legible_evaluateAll calls operands resolves.2) fun values _ =>
      calls function values resolves.1
  | .foreign, resolves => resolves.elim

theorem legible_evaluateAll
    (calls : ∀ name operands, name.isString = true → (call name operands).Legible fun _ => True) :
    ∀ expressions : List Expression,
      Expression.ResolveAll (fun name _ => name.isString = true) expressions →
      (evaluateAll call expressions).Legible fun _ => True
  | [], _ => .pure trivial
  | expression :: rest, resolves =>
    Confined.bind (legible_evaluate calls expression resolves.1) fun _ _ =>
      Confined.bind (legible_evaluateAll calls rest resolves.2) fun _ _ => .pure trivial

end

theorem legible_finish {name : Text} {next : Option Text} (named : name.isString = true)
    (leads : ∀ target ∈ next, target.isString = true) :
    (finish name next : Act Host (Result × Traversal)).Legible fun answer =>
      answer.1.Legible ∧ answer.2.Legible := by
  refine Confined.bind (Act.legible_note fun text member => ?_) fun _ _ => .pure ⟨leads, trivial⟩
  obtain rfl | there := List.mem_cons.1 member
  · exact named
  · exact leads text (Option.mem_toList.1 there)

variable (calls : ∀ name operands, name.isString = true →
  (call name operands).Legible fun _ => True)

include calls

theorem legible_admits {condition : Option Expression}
    (resolves : ∀ expression ∈ condition,
      expression.Resolves fun name _ => name.isString = true) :
    (admits call condition).Legible fun _ => True := by
  cases condition with
  | none => exact .pure trivial
  | some condition =>
    exact Confined.bind (legible_evaluate calls condition (resolves condition rfl)) fun _ _ =>
      .pure trivial

theorem legible_available (replies : List (Reply Statement))
    (legible : ∀ reply ∈ replies, reply.Legible) :
    (available call replies).Legible fun offers => ∀ reply ∈ offers, reply.Legible := by
  induction replies with
  | nil => exact .pure nofun
  | cons reply rest ih =>
    obtain ⟨first, behind⟩ := List.forall_mem_cons.1 legible
    refine Confined.bind (legible_admits calls first.condition) fun admitted _ => ?_
    refine Confined.bind (ih behind) fun others inOthers => .pure ?_
    split
    · exact List.forall_mem_cons.2 ⟨first, inOthers⟩
    · exact inOthers

theorem legible_advance {name : Text} (named : name.isString = true) (statements : List Statement)
    (legible : Statement.BlockLegible statements) :
    (advance call name statements).Legible fun answer => answer.1.Legible ∧ answer.2.Legible := by
  induction statements using advance.induct with
  | case1 =>
    rw [advance]
    exact legible_finish named (by rintro _ ⟨⟩)
  | case2 text rest =>
    rw [advance]
    exact .pure ⟨legible.texts (.say text) List.mem_cons_self, named, legible.tail⟩
  | case3 text rest =>
    rw [advance]
    exact .pure ⟨legible.texts (.command text) List.mem_cons_self, named, legible.tail⟩
  | case4 expression rest ih =>
    rw [advance]
    exact Confined.bind (legible_evaluate calls expression legible.resolves.1) fun _ _ =>
      ih legible.tail
  | case5 target expression rest ih =>
    rw [advance]
    refine Confined.bind (legible_evaluate calls expression legible.resolves.1) fun value _ => ?_
    have noted := legible.texts (.assign target expression) List.mem_cons_self
    refine Confined.bind (Act.legible_note noted) fun _ _ => ?_
    exact Confined.bind (.changing fun _ legible => { legible with }) fun _ _ => ih legible.tail
  | case6 otherwise rest ih =>
    rw [advance]
    refine ih (.append ⟨fun part member => ?_, legible.resolves.1.2⟩ legible.tail)
    exact legible.texts part (List.mem_append_left _ member)
  | case7 condition body clauses otherwise rest inBody inOthers =>
    rw [advance]
    obtain ⟨inCondition, legibleBody, legibleOthers⟩ := legible.branch
    refine Confined.bind (legible_evaluate calls condition inCondition) fun value _ => ?_
    split
    · exact inBody legibleBody
    · exact inOthers legibleOthers
  | case8 replies rest ih =>
    rw [advance]
    refine Confined.bind (legible_available calls replies fun _ => legible.reply)
      fun offers inOffers => ?_
    split
    · exact Confined.bind (Act.legible_note (by rintro _ ⟨⟩)) fun _ _ => ih legible.tail
    · refine .pure ⟨fun text member => ?_, named, inOffers, legible.tail⟩
      obtain ⟨reply, among, rfl⟩ := List.mem_map.1 member
      exact (inOffers reply among).text
  | case9 target tail =>
    rw [advance]
    refine legible_finish named ?_
    rintro _ ⟨⟩
    exact legible.texts (.jump target) List.mem_cons_self target List.mem_cons_self
  | case10 tail => exact legible.resolves.1.elim

/-- What a pull yields, reports and fails by can be shown if what is left of the traversal can, and
then what it leaves can be shown again. -/
theorem legible_pull (chosen : Option Nat) {traversal : Traversal} (legible : traversal.Legible) :
    (pull call chosen traversal).Legible fun pulled =>
      ∀ answer ∈ pulled, answer.1.Legible ∧ answer.2.Legible := by
  have onward {name : Text} {statements : List Statement} (named : name.isString = true)
      (legible : Statement.BlockLegible statements) :
      (do let result ← advance call name statements; return some result : Act Host _).Legible
        fun pulled => ∀ answer ∈ pulled, answer.1.Legible ∧ answer.2.Legible := by
    refine Confined.bind (legible_advance calls named statements legible) fun answer fit =>
      .pure ?_
    rintro _ ⟨⟩
    exact fit
  cases traversal with
  | fresh node =>
    obtain ⟨named, legible⟩ := legible
    refine Confined.bind (Act.legible_note ?_) fun _ _ => onward named legible
    exact List.forall_mem_singleton.2 named
  | within name rest => exact onward legible.1 legible.2
  | offered name replies rest =>
    obtain ⟨named, inReplies, inRest⟩ := legible
    cases chosen with
    | none => exact .throw Fault.legible_notChosen
    | some index =>
      simp only [pull]
      cases found : replies[index]? with
      | none => exact .throw Fault.legible_notChosen
      | some reply =>
        have body := (inReplies reply (List.mem_of_getElem? found)).body
        exact Confined.bind (Act.legible_note nofun) fun _ _ => onward named (body.append inRest)
  | ended => exact .pure nofun

end Engine

end Parley
