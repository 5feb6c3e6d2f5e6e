/-
This file settles what strict loading is for: a run whose nodes were all loaded
strictly misses no function. The check at loading time is made once, against the
library of that moment, while the run may come much later and the host goes on
with the dialogue in between and during the run. What carries the check from one
moment to the other is that a library keeps its names: registering, importing and
loading never take a name away, and taking one away cancels what was checked.

A host is a list of deeds before the run and a list of moves during it.
-/

import Mathlib
import Parley.Proofs.Dialogue.Supply
import Parley.Proofs.Script.Table

namespace Parley

variable {Host : Type}

namespace Dialogue

/-! ### Loading -/

/-- A failed load changes nothing; one that succeeds merges the nodes and says so, and if it was
strict the library has every function they call. -/
theorem loadNodes_spec (nodes : Ledger Text Node) (strict : Bool) (dialogue : Dialogue Host) :
    (∃ fault, loadNodes nodes strict dialogue = .error fault dialogue) ∨
      ∃ table, dialogue.nodes.merge nodes = .ok table ∧
        loadNodes nodes strict dialogue = .ok table.size { dialogue with
          nodes := table
          world := (dialogue.world.note (.nodesAdded nodes.size table.size)).note
            (.tellLoaded nodes.size) } ∧
        (strict = true → ∀ node ∈ nodes.entries.map Prod.snd,
          ∀ name ∈ Statement.blockCalls node.body, dialogue.library.contains name = true) := by
  by_cases heard : dialogue.Heard
  · rw [loadNodes_apply nodes strict heard]
    cases missing : (if strict = true then
        missingFunctions dialogue.library (nodes.entries.map Prod.snd) else []) with
    | cons first rest => exact .inl ⟨_, rfl⟩
    | nil =>
      cases merged : dialogue.nodes.merge nodes with
      | error name => exact .inl ⟨_, rfl⟩
      | ok table =>
        refine .inr ⟨table, rfl, rfl, ?_⟩
        rintro rfl node member name called
        rw [if_pos rfl] at missing
        have absent := List.filter_eq_nil_iff.1 missing name (mem_calledFunctions member called)
        simpa using absent
  · exact .inl ⟨_, loadNodes_unheard nodes strict heard⟩

theorem loadScript_spec (script : Except LoadFault NodeTable) (strict : Bool)
    (dialogue : Dialogue Host) :
    (∃ fault world, loadScript script strict dialogue = .error fault { dialogue with world }) ∨
      ∃ nodes count table world, script = .ok nodes ∧
        loadScript script strict dialogue = .ok count { dialogue with nodes := table, world } ∧
        dialogue.nodes.merge nodes.toLedger = .ok table ∧
        (strict = true → ∀ node ∈ nodes.toLedger.entries.map Prod.snd,
          ∀ name ∈ Statement.blockCalls node.body, dialogue.library.contains name = true) := by
  by_cases heard : dialogue.Heard
  · rw [loadScript_apply script strict heard]
    cases script with
    | error fault => exact .inl ⟨_, dialogue.world, rfl⟩
    | ok nodes =>
      obtain ⟨fault, failed⟩ | ⟨table, merged, done, checked⟩ :=
        loadNodes_spec nodes.toLedger strict
          (dialogue.changeWorld (·.note (.scriptLoaded nodes.size)))
      · exact .inl ⟨fault, _, failed⟩
      · exact .inr ⟨nodes, _, table, _, rfl, done, merged, checked⟩
  · exact .inl ⟨_, dialogue.world, loadScript_unheard script strict heard⟩

end Dialogue

/-! ### Hosts -/

/-- What a host does with a dialogue apart from the run in question. -/
inductive Deed (Host : Type) where
  | loadNodes (nodes : Ledger Text Node) (strict : Bool)
  /-- Loads a script that was read from a text or a file, if it could be read. -/
  | loadScript (script : Except LoadFault NodeTable) (strict : Bool)
  | register (name : Text) (arity : Int) (implementation : Implementation Host)
  | importLibrary (other : Library Host)
  | deregister (name : Text)
  /-- Changes the libraries of its own. -/
  | rearrange (others : List (Library Host))
  /-- Changes anything but the nodes and the libraries, as a pull of another run does. -/
  | besides (world : World Host) (phase : Phase) (debugSink errorSink : Bool)

namespace Deed

/-- Does a deed. -/
def carryOut : Deed Host → Operation Host Unit
  | loadNodes nodes strict => do
    let _ ← Dialogue.loadNodes nodes strict
  | loadScript script strict => do
    let _ ← Dialogue.loadScript script strict
  | register name arity implementation => Dialogue.register name arity implementation
  | importLibrary other => modify fun dialogue =>
    { dialogue with
      shelf := dialogue.shelf.replace Dialogue.home (dialogue.library.importAll other) }
  | deregister name => modify (Dialogue.deregister name)
  | rearrange others => modify fun dialogue =>
    { dialogue with shelf := ⟨dialogue.shelf.libraries.take 2 ++ others⟩ }
  | besides world phase debugSink errorSink => modify fun dialogue =>
    { dialogue with world, phase, debugSink, errorSink }

/-- The nodes that a deed loads. -/
def loaded : Deed Host → List Node
  | loadNodes nodes _ => nodes.entries.map Prod.snd
  | loadScript (.ok nodes) _ => nodes.toLedger.entries.map Prod.snd
  | _ => []

/-- Tells whether a deed loads nothing that is not checked. -/
def strict : Deed Host → Bool
  | loadNodes _ strict => strict
  | loadScript _ strict => strict
  | _ => true

/-- Tells whether a deed takes a function out of a library. -/
def takesAway (library : Library Host) : Deed Host → Bool
  | deregister name => library.contains name
  | _ => false

theorem loaded_of_takesAway {deed : Deed Host} {library : Library Host}
    (takes : deed.takesAway library = true) : deed.loaded = [] := by
  cases deed with
  | deregister name => rfl
  | _ => cases takes

/-- The dialogue after a deed, and whether the deed succeeded. -/
def after (deed : Deed Host) (dialogue : Dialogue Host) : Bool × Dialogue Host :=
  match deed.carryOut dialogue with
  | .ok _ dialogue => (true, dialogue)
  | .error _ dialogue => (false, dialogue)

/-- What a deed does to the functions and the nodes of a dialogue, whether or not it succeeds. -/
structure Effect (deed : Deed Host) (done : Bool) (before after : Dialogue Host) : Prop where
  furnished : after.shelf.Furnished
  /-- No name is lost from the library unless the deed takes it away. -/
  keeps : deed.takesAway before.library = false → ∀ name, before.library.contains name = true →
    after.library.contains name = true
  /-- Nodes come from where they were or from what was loaded. -/
  nodes : ∀ node ∈ after.nodes.entries,
    node ∈ before.nodes.entries ∨ done = true ∧ node ∈ deed.loaded
  /-- What was loaded strictly calls only what the library has. -/
  checked : done = true → deed.strict = true → ∀ node ∈ deed.loaded,
    ∀ name ∈ Statement.blockCalls node.body, before.library.contains name = true

theorem Effect.idle {deed : Deed Host} {before after : Dialogue Host}
    (furnished : before.shelf.Furnished) (shelf : after.shelf = before.shelf)
    (nodes : after.nodes = before.nodes) : deed.Effect false before after where
  furnished := by rwa [shelf]
  keeps _ name there := by rwa [Dialogue.library, shelf]
  nodes node member := .inl (by rwa [nodes] at member)
  checked done := by cases done

theorem Effect.load {deed : Deed Host} {before : Dialogue Host} {nodes : Ledger Text Node}
    {table : NodeTable} {world : World Host} (furnished : before.shelf.Furnished)
    (loads : deed.loaded = nodes.entries.map Prod.snd)
    (merged : before.nodes.merge nodes = .ok table)
    (checked : deed.strict = true → ∀ node ∈ nodes.entries.map Prod.snd,
      ∀ name ∈ Statement.blockCalls node.body, before.library.contains name = true) :
    deed.Effect true before { before with nodes := table, world } where
  furnished := furnished
  keeps _ _ there := there
  nodes node member := by
    rw [loads]
    exact (NodeTable.mem_merge merged member).symm.imp_right fun loaded => ⟨rfl, loaded⟩
  checked _ := by
    rw [loads]
    exact checked

theorem Effect.write {deed : Deed Host} {before : Dialogue Host} {content : Library Host}
    (furnished : before.shelf.Furnished) (loads : deed.loaded = [])
    (keeps : deed.takesAway before.library = false → ∀ name,
      before.library.contains name = true → content.contains name = true) :
    deed.Effect true before
      { before with shelf := before.shelf.replace Dialogue.home content } where
  furnished := (furnished.replace content).1
  keeps stays name there := by
    rw [Dialogue.library, (furnished.replace content).2]
    exact keeps stays name there
  nodes _ member := .inl member
  checked _ _ := by simp [loads]

theorem after_effect (deed : Deed Host) (dialogue : Dialogue Host)
    (furnished : dialogue.shelf.Furnished) :
    deed.Effect (deed.after dialogue).1 dialogue (deed.after dialogue).2 := by
  cases deed with
  | loadNodes nodes strict =>
    rw [after, carryOut, bind_apply]
    obtain ⟨fault, failed⟩ | ⟨table, merged, done, checked⟩ :=
      Dialogue.loadNodes_spec nodes strict dialogue
    · rw [failed]
      exact .idle furnished rfl rfl
    · rw [done]
      exact .load furnished rfl merged checked
  | loadScript script strict =>
    rw [after, carryOut, bind_apply]
    obtain ⟨fault, world, failed⟩ | ⟨nodes, count, table, world, rfl, done, merged, checked⟩ :=
      Dialogue.loadScript_spec script strict dialogue
    · rw [failed]
      exact .idle furnished rfl rfl
    · rw [done]
      exact .load furnished rfl merged checked
  | register name arity implementation =>
    rw [after, carryOut, Dialogue.register, bind_apply, Dialogue.get_apply]
    dsimp only
    rw [Library.register]
    by_cases negative : arity < 0
    · rw [if_pos negative]
      exact .idle furnished rfl rfl
    · rw [if_neg negative]
      exact .write furnished rfl fun _ _ there => Roster.contains_insert _ there
  | importLibrary other =>
    exact .write furnished rfl fun _ name there => Roster.contains_insertAll other.entries there
  | deregister name =>
    exact .write furnished rfl fun stays _ there => Roster.contains_erase stays there
  | rearrange others =>
    obtain ⟨stands, same⟩ := furnished.rearrange others
    refine ⟨stands, fun _ name there => ?_, fun _ member => .inl member, fun _ _ => nofun⟩
    show ((Shelf.mk _).library Dialogue.home).contains name = true
    rw [same]
    exact there
  | besides world phase debugSink errorSink =>
    exact ⟨furnished, fun _ _ there => there, fun _ member => .inl member, fun _ _ => nofun⟩

end Deed

/-! ### Before the run -/

/-- A dialogue, and the nodes that were loaded by a successful strict load since a function was last
taken out of its library. -/
structure Account (Host : Type) where
  dialogue : Dialogue Host
  vouched : List Node := []

namespace Account

/-- A new dialogue, for which nothing is vouched. -/
def new (store : Store) (host : Host) (debugSink errorSink : Bool) : Account Host where
  dialogue := Dialogue.new store host debugSink errorSink

/-- The account after a deed. -/
def after (account : Account Host) (deed : Deed Host) : Account Host where
  dialogue := (deed.after account.dialogue).2
  vouched :=
    (if (deed.after account.dialogue).1 && deed.strict then deed.loaded else []) ++
      if deed.takesAway account.dialogue.library then [] else account.vouched

/-- What is vouched for calls only what the library has. -/
structure Sound (account : Account Host) : Prop where
  furnished : account.dialogue.shelf.Furnished
  vouched : ∀ node ∈ account.vouched, ∀ name ∈ Statement.blockCalls node.body,
    account.dialogue.library.contains name = true

theorem sound_new (store : Store) (host : Host) (debugSink errorSink : Bool) :
    (new store host debugSink errorSink).Sound where
  furnished := ⟨_, _, rfl⟩
  vouched := nofun

theorem Sound.after {account : Account Host} (sound : account.Sound) (deed : Deed Host) :
    (account.after deed).Sound := by
  have effect := deed.after_effect account.dialogue sound.furnished
  refine ⟨effect.furnished, fun node member name called => ?_⟩
  rw [Account.after] at member
  cases takes : deed.takesAway account.dialogue.library with
  | true =>
    rw [Deed.loaded_of_takesAway takes, takes] at member
    simp at member
  | false =>
    refine effect.keeps takes name ?_
    rw [takes] at member
    obtain loaded | before := List.mem_append.1 member
    · split at loaded
      · next both =>
        obtain ⟨done, strict⟩ := Bool.and_eq_true_iff.1 both
        exact effect.checked done strict node loaded name called
      · cases loaded
    · exact sound.vouched node before name called

theorem sound_history {account : Account Host} (sound : account.Sound)
    (history : List (Deed Host)) :
    (history.foldl Account.after account).Sound := by
  induction history generalizing account with
  | nil => exact sound
  | cons deed rest ih => exact ih (sound.after deed)

end Account

/-! ### During the run -/

/-- What a host does while a run goes on. -/
inductive Move (Host : Type) where
  | other (deed : Deed Host)
  | choose (place : Nat) (index : Literal)
  | pull (budget : Nat)
  | close

namespace Move

/-- The run and the dialogue after a move. -/
def after (run : Run) (dialogue : Dialogue Host) : Move Host → Run × Dialogue Host
  | other deed => (run, (deed.after dialogue).2)
  | choose place index =>
    match run.choose place index with
    | .ok answered => (answered, dialogue)
    | .error _ => (run, dialogue)
  | pull budget => (Dialogue.pull budget run dialogue).2
  | close => Dialogue.close run dialogue

/-- What a pull yields. -/
def yield? (run : Run) (dialogue : Dialogue Host) : Move Host → Option (Except Fault Dialogue.Yield)
  | pull budget => some (Dialogue.pull budget run dialogue).1
  | _ => none

/-- What the pulls among the moves yield. -/
def yields : List (Move Host) → Run → Dialogue Host → List (Except Fault Dialogue.Yield)
  | [], _, _ => []
  | move :: rest, run, dialogue =>
    (move.yield? run dialogue).toList ++
      yields rest (move.after run dialogue).1 (move.after run dialogue).2

/-- A move takes no function away and loads nothing that is not checked. Where it is a pull, the
functions of the library are the first ones or miss no function themselves. -/
def Lawful (dialogue : Dialogue Host) : Move Host → Prop
  | other deed => deed.takesAway dialogue.library = false ∧ deed.strict = true
  | pull _ => dialogue.Tame
  | _ => True

/-- Moves are lawful, each where it is made. -/
def Orderly : List (Move Host) → Run → Dialogue Host → Prop
  | [], _, _ => True
  | move :: rest, run, dialogue =>
    move.Lawful dialogue ∧ Orderly rest (move.after run dialogue).1 (move.after run dialogue).2

end Move

/-- A run can go on without missing a function. -/
structure Run.Ready (run : Run) (dialogue : Dialogue Host) : Prop where
  furnished : dialogue.shelf.Furnished
  supplied : dialogue.Supplied
  stocked : ∀ name ∈ run.stage.calls, dialogue.library.contains name = true

theorem Run.stage_choose {run answered : Run} {place : Nat} {index : Literal}
    (done : run.choose place index = .ok answered) : answered.stage = run.stage := by
  rw [Run.choose] at done
  cases chosen : Offer.chooseIn run.offers place index with
  | ok offers =>
    rw [chosen] at done
    cases done
    rfl
  | error fault =>
    rw [chosen] at done
    cases done

theorem Run.Ready.move {run onward : Run} {before after : Dialogue Host}
    (ready : run.Ready before) (shelf : after.shelf = before.shelf)
    (nodes : after.nodes = before.nodes)
    (stocked : ∀ name ∈ onward.stage.calls, before.library.contains name = true) :
    onward.Ready after where
  furnished := by
    rw [shelf]
    exact ready.furnished
  supplied node member name called := by
    rw [Dialogue.library, shelf]
    rw [nodes] at member
    exact ready.supplied node member name called
  stocked name called := by
    rw [Dialogue.library, shelf]
    exact stocked name called

theorem Run.Ready.deed {run : Run} {dialogue : Dialogue Host} (ready : run.Ready dialogue)
    (deed : Deed Host) (stays : deed.takesAway dialogue.library = false)
    (strict : deed.strict = true) : run.Ready (deed.after dialogue).2 := by
  have effect := deed.after_effect dialogue ready.furnished
  refine ⟨effect.furnished, fun node member name called => effect.keeps stays name ?_,
    fun name called => effect.keeps stays name (ready.stocked name called)⟩
  obtain before | ⟨done, loaded⟩ := effect.nodes node member
  · exact ready.supplied node before name called
  · exact effect.checked done strict node loaded name called

theorem Run.Ready.close {run : Run} {dialogue : Dialogue Host} (ready : run.Ready dialogue) :
    (Dialogue.close run dialogue).1.Ready (Dialogue.close run dialogue).2 := by
  obtain ⟨stage, offers⟩ := run
  cases stage with
  | inside node traversal => exact ⟨ready.furnished, ready.supplied, nofun⟩
  | _ => exact ⟨ready.furnished, ready.supplied, nofun⟩

theorem Run.Ready.after {run : Run} {dialogue : Dialogue Host} (ready : run.Ready dialogue)
    {move : Move Host} (lawful : move.Lawful dialogue) :
    (move.after run dialogue).1.Ready (move.after run dialogue).2 := by
  cases move with
  | other deed => exact ready.deed deed lawful.1 lawful.2
  | choose place index =>
    rw [Move.after]
    cases chosen : run.choose place index with
    | ok answered =>
      exact ⟨ready.furnished, ready.supplied, by rw [Run.stage_choose chosen]; exact ready.stocked⟩
    | error fault => exact ready
  | pull budget =>
    obtain ⟨-, stocked, shelf, nodes⟩ :=
      Dialogue.pull_provided ready.furnished lawful ready.supplied budget run ready.stocked
    exact ready.move shelf nodes stocked
  | close => exact ready.close

/-- No pull misses a function. -/
theorem Run.Ready.yields {run : Run} {dialogue : Dialogue Host} (ready : run.Ready dialogue)
    (moves : List (Move Host)) (orderly : Move.Orderly moves run dialogue) (name : Text) :
    .error (.functionNotFound name) ∉ Move.yields moves run dialogue := by
  induction moves generalizing run dialogue with
  | nil => exact List.not_mem_nil
  | cons move rest ih =>
    obtain ⟨lawful, orderly⟩ := orderly
    intro member
    obtain here | behind := List.mem_append.1 member
    · cases move with
      | pull budget =>
        obtain ⟨misses, -⟩ :=
          Dialogue.pull_provided ready.furnished lawful ready.supplied budget run ready.stocked
        exact misses name (List.mem_singleton.1 here).symm
      | _ => cases here
    · exact ih (ready.after lawful) orderly behind

/-- Strict loading is sound. Take any dialogue, with any history of deeds of its host, of which
every node was loaded by a successful strict load since a function was last taken out of its
library. Then for every start and for all moves of the host while the run goes on that take no
function away and load only strictly, no pull misses a function, if the functions of the host miss
none themselves. -/
theorem Dialogue.strict_run_misses_none (store : Store) (host : Host) (debugSink errorSink : Bool)
    (history : List (Deed Host)) {account : Account Host} {started : Dialogue Host} {start : Text}
    {run : Run}
    (made : history.foldl Account.after (.new store host debugSink errorSink) = account)
    (vouched : ∀ node ∈ account.dialogue.nodes.entries, node ∈ account.vouched)
    (began : Dialogue.run start account.dialogue = .ok run started) (moves : List (Move Host))
    (orderly : Move.Orderly moves run started) (name : Text) :
    .error (.functionNotFound name) ∉ Move.yields moves run started := by
  have sound : account.Sound := by
    rw [← made]
    exact Account.sound_history (Account.sound_new store host debugSink errorSink) history
  obtain ⟨rfl, -, world, rfl⟩ := run_eq_ok began
  have ready : Run.Ready { stage := .unstarted start } account.dialogue :=
    ⟨sound.furnished, fun node member => sound.vouched node (vouched node member), nofun⟩
  have onward : Run.Ready { stage := .unstarted start }
      { account.dialogue with world, phase := .running } :=
    ready.move rfl rfl fun _ called => ready.stocked _ called
  exact onward.yields moves orderly name

/-- A function of a host. -/
def ring : Function Unit := ⟨"Ring", 0, .host fun _ _ store host => ⟨.ok .null, store, host⟩⟩

/-- A node that calls the function, loaded strictly when the function was there. -/
def Account.ringing : Account Unit :=
  [.register ring.name 0 ring.implementation,
    .loadNodes (Roster.ofList [("A", ⟨"A", [.evaluate (.call "Ring" []), .say "Hello."], []⟩)])
      true].foldl Account.after (.new Roster.empty () true true)

theorem Dialogue.strict_run_misses_none_ringing :
    ∃ run started, Dialogue.run "A" Account.ringing.dialogue = .ok run started ∧
      .error (.functionNotFound "Ring") ∉ Move.yields [.pull 8] run started := by
  have vouched : ∀ node ∈ Account.ringing.dialogue.nodes.entries,
      node ∈ Account.ringing.vouched := by
    have same : Account.ringing.dialogue.nodes.entries = Account.ringing.vouched := by cbv
    rw [same]
    exact fun _ member => member
  refine ⟨_, _, rfl, strict_run_misses_none Roster.empty () true true _
    (rfl : _ = Account.ringing) vouched rfl [.pull 8] ⟨?_, trivial⟩ _⟩
  intro function member
  have origin : function = ring ∨ function ∈ firstLibrary.entries := Roster.mem_insert member
  obtain rfl | first := origin
  · refine .inr fun operands world fault final counted failed => ?_
    cases failed
  · exact .inl first

end Parley
