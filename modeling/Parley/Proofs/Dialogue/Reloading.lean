/-
This file settles when nodes that are loaded during a run come into effect: at the next
node that the run enters. What is left of the node that a run waits in is in the hands of
the run, and the table is asked for a node only when the node is entered; so a load shows
in nothing that the node has still to yield, in the name that it leads to neither, and in
every node from there on.

The load itself is reported, and a report is all by which the two worlds differ while the
run is in the node. No function can tell such worlds apart.
-/

import Parley.Proofs.Dialogue.Loading
import Parley.Proofs.Dialogue.Pairing

namespace Parley

variable {Host : Type}

/-! ### The rest of a node -/

/-- Two worlds that differ in their journals, and in which body is running, at most. -/
structure World.SameButJournal (one other : World Host) : Prop where
  store : one.store = other.store
  host : one.host = other.host
  visited : one.visited = other.visited
  stopping : one.stopping = other.stopping
  current : one.current = other.current

theorem World.SameButJournal.refl (world : World Host) : world.SameButJournal world :=
  ⟨rfl, rfl, rfl, rfl, rfl⟩

theorem World.SameButJournal.indistinct : Indistinct (@World.SameButJournal Host) where
  store same := same.store
  host same := same.host
  visited same := same.visited
  stopping same := same.stopping
  current same := same.current
  note _ same := { same with }
  write _ same := { same with store := rfl }
  keep _ same := { same with host := rfl }
  stop _ same := { same with stopping := rfl }
  mark _ same := { same with visited := rfl }
  enter _ same := { same with current := rfl }
  execute _ _ same := { same with }

/-- A node is left in the same way, in worlds that are related. -/
inductive Departure.Alike (worlds : World Host → World Host → Prop) :
    Departure Host → Departure Host → Prop
  | waiting : Alike worlds .waiting .waiting
  | fault (fault) : Alike worlds (.fault fault) (.fault fault)
  | complete (next left reactions) {one other} (related : worlds one other) :
    Alike worlds (.complete next left reactions one) (.complete next left reactions other)

/-- In worlds that cannot be told apart a traversal has the same results and is left in the same
way. -/
theorem Indistinct.traverse {worlds : World Host → World Host → Prop}
    (indistinct : Indistinct worlds) (shelf : Shelf Host) (budget : Nat) (name : Text) (left : Nat)
    (reactions : List (Reaction Host)) (chosen : Option Nat) (traversal : Traversal)
    {one other : World Host} (related : worlds one other) :
    let call := shelf.call Dialogue.home
    let leg := Parley.traverse call budget name left reactions (Engine.pull call chosen traversal)
    (leg one).1 = (leg other).1 ∧ Departure.Alike worlds (leg one).2 (leg other).2 := by
  intro call leg
  have agree := indistinct.during related shelf name chosen traversal
  unfold leg
  rw [traverse.eq_def, traverse.eq_def]
  generalize (Engine.pull call chosen traversal).during name one = result at agree ⊢
  generalize (Engine.pull call chosen traversal).during name other = result' at agree ⊢
  cases agree with
  | error fault related => exact ⟨rfl, .fault fault⟩
  | ok answer related =>
    have stopping := indistinct.stopping related
    cases answer with
    | none => exact ⟨rfl, .waiting⟩
    | some pulled =>
      obtain ⟨result, traversal⟩ := pulled
      cases result with
      | complete next =>
        dsimp only
        exact ⟨by rw [stopping], .complete next left reactions related⟩
      | event event =>
        cases reactions with
        | nil =>
          dsimp only
          exact ⟨by rw [stopping], .waiting⟩
        | cons reaction rest =>
          obtain ⟨items, departure⟩ := indistinct.traverse shelf budget name budget rest
            reaction.answer traversal (indistinct.react related reaction)
          dsimp only
          exact ⟨by rw [stopping, items], departure⟩
termination_by reactions.length

namespace Dialogue

/-- What a run that waits in a node has still to come by there, and how it leaves the node. -/
def remainder (budget : Nat) (reactions : List (Reaction Host)) (offers : List Offer) (node : Node)
    (traversal : Traversal) (dialogue : Dialogue Host) : List Item × Departure Host :=
  traverse (dialogue.shelf.call home) budget node.name budget reactions
    (Engine.pull (dialogue.shelf.call home) (Offer.latest? offers) traversal) dialogue.world

/-- A run that waits in a node agrees with what is left of the node, and with the chain from the
name on that the node leads to. -/
theorem agrees_remainder (budget : Nat) (reactions : List (Reaction Host)) {run : Run} {node : Node}
    {traversal : Traversal} (waits : run.stage = .inside node traversal)
    (ongoing : traversal ≠ .ended) {dialogue : Dialogue Host} (heard : dialogue.Heard) :
    Agrees reactions.length (dialogue.world.told .debugSink)
      (chainFrom (dialogue.shelf.call home) budget dialogue.nodes node
        (dialogue.remainder budget reactions run.offers node traversal))
      (course budget reactions run dialogue) := by
  rw [course_eq, waits, resume_inside]
  exact agrees_proceed budget heard budget reactions run.offers node (Offer.latest? run.offers)
    traversal dialogue.world ongoing

/-! ### Loading during a run -/

/-- What becomes of a run that waits in a node where nodes are loaded: of the dialogue, `before` is
as it would be without the load, and `after` is as it is with it. -/
structure Reloaded (budget : Nat) (reactions : List (Reaction Host)) (run : Run) (node : Node)
    (traversal : Traversal) (nodes : Ledger Text Node) (before after : Dialogue Host) : Prop where
  /-- What is still to come of the node is the same. -/
  items : (after.remainder budget reactions run.offers node traversal).1 =
    (before.remainder budget reactions run.offers node traversal).1
  /-- The node is left for the same name, in worlds that differ in their journals at most. -/
  departure : Departure.Alike World.SameButJournal
    (after.remainder budget reactions run.offers node traversal).2
    (before.remainder budget reactions run.offers node traversal).2
  /-- Without the load the run goes on to the nodes of the old table. -/
  without : Agrees reactions.length (before.world.told .debugSink)
    (chainFrom (before.shelf.call home) budget before.nodes node
      (before.remainder budget reactions run.offers node traversal))
    (course budget reactions run before)
  /-- With the load it goes on to the nodes of the merged table. -/
  onward : Agrees reactions.length (after.world.told .debugSink)
    (chainFrom (after.shelf.call home) budget after.nodes node
      (after.remainder budget reactions run.offers node traversal))
    (course budget reactions run after)
  /-- In the merged table there are found the nodes that were loaded, and of the others those under
  whose names none was. -/
  found : ∀ name found, after.nodes.get? name = some found ↔
    (found ∈ nodes.entries.map Prod.snd ∨
      found ∈ before.nodes.entries ∧ nodes.contains found.name = false) ∧ found.name = name
  visited : after.world.visited = before.world.visited

/-- A load during a run takes effect at the next node that the run enters. Take any run that waits
at an event, and let nodes, a text or a file be loaded into the dialogue of that moment. Then for
all later answers and reactions of the host, what the run has still to yield in the node that it
waits in and the name that it leaves the node for are the same as without the load, and every node
that it enters from there on is looked up in the merged table; the visited nodes are not
affected. -/
theorem load_takes_effect_at_entry {spent : Nat} {earlier waiting : Run}
    {moment left before after : Dialogue Host} {event : Event}
    (suspended : pull spent earlier moment = (.ok (.event event), waiting, left))
    {delivery : Delivery} {strict : Bool} {count : Nat}
    (loaded : delivery.load strict before = .ok count after) (offers : List Offer) (budget : Nat)
    (first : Reaction Host) (reactions : List (Reaction Host)) :
    ∃ node traversal nodes, waiting.stage = .inside node traversal ∧ delivery.read = .ok nodes ∧
      before.nodes.merge nodes = .ok after.nodes ∧
      Reloaded budget reactions { waiting with offers } node traversal nodes
        (before.changeWorld first.apply) (after.changeWorld first.apply) := by
  obtain ⟨node, traversal, rfl, follows⟩ := pull_eq_event suspended
  have ongoing : traversal ≠ .ended := follows.ne_ended (by rintro _ ⟨⟩)
  have whole := delivery.whole strict before
  rw [loaded] at whole
  obtain ⟨-, nodes, ⟨heard, read, -, merged⟩, ⟨⟨journal, rest⟩, -, -⟩⟩ := whole
  rw [rest] at merged ⊢
  refine ⟨node, traversal, nodes, rfl, read, merged, ?_⟩
  have same : World.SameButJournal (first.apply { before.world with journal })
      (first.apply before.world) := ⟨rfl, rfl, rfl, rfl, rfl⟩
  have alike := World.SameButJournal.indistinct.traverse before.shelf budget node.name budget
    reactions (Offer.latest? offers) traversal same
  exact {
    items := alike.1
    departure := alike.2
    without := agrees_remainder budget reactions rfl ongoing (by exact heard)
    onward := agrees_remainder budget reactions rfl ongoing (by exact heard)
    found := fun name found =>
      Roster.get?_eq_some_iff.trans (and_congr_left' (NodeTable.mem_merge_iff merged))
    visited := rfl }

/-- A run that waits at its line and is to jump to a node that is not there, and its dialogue. -/
def setOut : Run × Dialogue Unit :=
  (pull 8 { stage := .unstarted "A" } ((solo [.say "Hello.", .jump "B"]).begun "A")).2

/-- The node that is not there. -/
def haven : Node := ⟨"B", [.say "Welcome."], []⟩

/-- The node as it is handed to a dialogue. -/
def havens : Ledger Text Node := Roster.ofList [("B", haven)]

theorem load_takes_effect_at_entry_haven :
    ∃ after node traversal, Delivery.load true (.plain havens) setOut.2 = .ok 2 after ∧
      setOut.2.nodes.get? "B" = none ∧ after.nodes.get? "B" = some haven ∧
      Reloaded 8 [{}] { setOut.1 with offers := [] } node traversal havens
        (setOut.2.changeWorld (Reaction.apply {})) (after.changeWorld (Reaction.apply {})) := by
  have suspended : pull 8 { stage := .unstarted "A" }
      ((solo [.say "Hello.", .jump "B"]).begun "A") =
        (.ok (.event (.line "Hello.")), setOut.1, setOut.2) := by cbv
  have accepted : Delivery.Accepted (.plain havens) true setOut.2 havens
      (Roster.ofList [⟨"A", [.say "Hello.", .jump "B"], []⟩, haven]) :=
    ⟨⟨by cbv, by cbv⟩, rfl, fun _ => by cbv, by cbv⟩
  obtain ⟨after, loaded⟩ := accepted.loads
  obtain ⟨node, traversal, nodes, -, read, -, reloaded⟩ :=
    load_takes_effect_at_entry suspended loaded [] 8 {} [{}]
  cases read
  have found := (reloaded.found "B" haven).2 ⟨.inl List.mem_cons_self, rfl⟩
  exact ⟨after, node, traversal, loaded, by cbv, found, reloaded⟩

end Dialogue

end Parley
