/-
This file settles that a run depends on no node that it cannot come to. Tables that agree
on the names that can be reached from the start may differ everywhere else: nodes may be
added to the one, taken out of it or replaced, and no host can tell from the run.

A node is looked up under a name that is the start or the target of a jump that was run,
and a jump that is run stands in the body of a node that was looked up. So what the
comparison of two runs has to carry along is that all jumps in what is left of a body
lead to names that can be reached. Tags are not looked at, and may differ anywhere.
-/

import Parley.Proofs.Dialogue.Independence
import Parley.Proofs.Engine.Parts

namespace Parley

variable {Host : Type} {past past' : Channel → List Text}

/-! ### What no run looks at -/

/-- A node without its tags. -/
def Node.bare (node : Node) : Node := { node with tags := [] }

/-- A traversal without the tags of a node that it begins with. -/
def Traversal.bare : Traversal → Traversal
  | .fresh node => .fresh node.bare
  | traversal => traversal

/-- A stage without the tags of its node. -/
def Stage.bare : Stage → Stage
  | .inside node traversal => .inside node.bare traversal.bare
  | stage => stage

/-- What is to be seen of a run apart from tags. -/
def View.bare (view : View Host) : View Host :=
  { view with run := view.run.map fun run => { run with stage := run.stage.bare } }

theorem Engine.pull_bare (call : Text → List Value → Act Host Value) (chosen : Option Nat)
    (traversal : Traversal) : pull call chosen traversal.bare = pull call chosen traversal := by
  cases traversal <;> rfl

/-! ### Runs that keep to some names -/

/-- What is left of two bodies is the same apart from tags, and jumps to none but the given
names. -/
def Traversal.Keeps (names : Text → Prop) (one other : Traversal) : Prop :=
  one.bare = other.bare ∧ ∀ target, .jump target ∈ one.parts → names target

/-- The pairing of dialogues that have the same nodes, apart from tags, under the names that can be
reached from a start. -/
def Pairing.reachable (past past' : Channel → List Text) (table : NodeTable) (start : Text) :
    Pairing Host where
  worlds := World.Twin past past'
  tables one other := one = table ∧ ∀ name, table.Reaches start name →
    (table.get? name).map Node.body = (other.get? name).map Node.body
  nodes node node' := Traversal.Keeps (table.Reaches start) (.fresh node) (.fresh node')
  names := table.Reaches start
  going := Traversal.Keeps (table.Reaches start)

theorem Pairing.sound_reachable (past past' : Channel → List Text) (table : NodeTable)
    (start : Text) : (@reachable Host past past' table start).Sound where
  worlds := World.Twin.indistinct
  found := by
    rintro _ other ⟨rfl, agree⟩ name reached
    have body := agree name reached
    cases found : Roster.get? _ name with
    | none =>
      rw [found] at body
      rw [Option.map_eq_none_iff.1 body.symm]
      exact .none
    | some node =>
      rw [found] at body
      obtain ⟨node', found', body⟩ := Option.map_eq_some_iff.1 body.symm
      rw [found']
      refine .some ⟨?_, fun target jumps => reached.tail ⟨node, found, jumps⟩⟩
      have name : node.name = node'.name :=
        (NodeTable.name_of_get? found).trans (NodeTable.name_of_get? found').symm
      rw [Traversal.bare, Traversal.bare, Node.bare, Node.bare, name, body]
  name {node node'} nodes := by
    have bare : node.bare = node'.bare := Traversal.fresh.inj nodes.1
    have name : node.bare.name = node'.bare.name := congrArg Node.name bare
    exact name
  fresh nodes := nodes
  bout := by
    rintro shelf name chosen traversal traversal' one other ⟨same, jumps⟩ related
    have agree := World.Twin.indistinct.during related shelf name chosen traversal
    have alike : Engine.pull (shelf.call Dialogue.home) chosen traversal' =
        Engine.pull (shelf.call Dialogue.home) chosen traversal := by
      rw [← Engine.pull_bare _ _ traversal', ← same, Engine.pull_bare]
    rw [alike]
    generalize (Engine.pull (shelf.call Dialogue.home) chosen traversal).during name other =
      result' at agree ⊢
    cases pulled : (Engine.pull (shelf.call Dialogue.home) chosen traversal).during name one with
    | error fault world =>
      rw [pulled] at agree
      cases agree with
      | error fault related => exact .error fault related
    | ok answer world =>
      rw [pulled] at agree
      obtain ⟨between, done⟩ := Act.during_eq_ok pulled
      cases agree with
      | ok answer related =>
        match answer with
        | none => exact .ok .none related
        | some (.event event, after) =>
          obtain ⟨statement, -, behind⟩ := Engine.takes_pull _ done
          refine .ok (.some (.event event ⟨rfl, fun target jump => jumps target ?_⟩)) related
          exact behind.subset (List.mem_cons_of_mem _ jump)
        | some (.complete next, after) =>
          have takes := Engine.takes_pull _ done
          exact .ok (.some (.complete next fun target same => jumps target (takes target same)))
            related

/-! ### What is seen -/

/-- What is seen of two runs that are compared is the same apart from tags. -/
theorem Pairing.Hostings.view_bare {table : NodeTable} {start : Text} {one other : Hosting Host}
    (hostings : (Pairing.reachable past past' table start).Hostings one other) :
    (one.view past).bare = (other.view past').bare := by
  have world : one.dialogue.world.Twin past past' other.dialogue.world := hostings.dialogue.world
  have run : one.run.map (fun run => { run with stage := run.stage.bare }) =
      other.run.map fun run => { run with stage := run.stage.bare } := by
    obtain ⟨none, none'⟩ | ⟨⟨stage, offers⟩, ⟨stage', offers'⟩, latest, latest', runs⟩ :=
      hostings.runs
    · rw [none, none']
    · obtain rfl : offers = offers' := runs.offers
      have bare : stage.bare = stage'.bare := by
        rw [(Pairing.reachable past past' table start).rest_steady rfl] at runs
        cases runs.stage with
        | unstarted expected => rfl
        | inside nodes left => rw [Stage.bare, Stage.bare, Traversal.fresh.inj nodes.1, left.1]
        | ended => rfl
      rw [latest, latest', Option.map_some, Option.map_some, bare]
  unfold View.bare Hosting.view
  rw [run, hostings.touches, hostings.dialogue.phase, world.store, world.host, world.visited,
    world.stopping, world.current, funext world.news]

/-- Runs are local. In two dialogues with the same libraries, variables and sinks and the same host,
whose nodes have the same bodies under every name that can be reached from a start, or are missing
under that name in both, a run that begins at the start comes to the same, with the same to be seen
after all the same requests that load nothing and begin no other run. -/
theorem Dialogue.seen_local {one other : Dialogue Host} {start : Text}
    (agree : ∀ name, one.nodes.Reaches start name →
      (one.nodes.get? name).map Node.body = (other.nodes.get? name).map Node.body)
    (shelf : one.shelf = other.shelf) (store : one.world.store = other.world.store)
    (host : one.world.host = other.world.host) (debugSink : one.debugSink = other.debugSink)
    (errorSink : one.errorSink = other.errorSink) {requests : List (Request Host)}
    (stays : ∀ request ∈ requests, request.stays = true) :
    (one.seen start requests).map (Option.map View.bare) =
      (other.seen start requests).map (Option.map View.bare) := by
  by_cases heard : one.Heard
  · have heard' : other.Heard := by rwa [Heard, ← debugSink, ← errorSink]
    rw [seen, seen, run_apply start heard, run_apply start heard']
    have kin : World.Kin one.world.told other.world.told one.world other.world := by
      refine ⟨store, host, fun channel => ⟨[], ?_, ?_⟩⟩
      · exact (List.append_nil _).symm
      · exact (List.append_nil _).symm
    have begins : World.Twin one.world.told other.world.told
        { one.world with stopping := false, visited := [], current := some start }
        { other.world with stopping := false, visited := [], current := some start } :=
      { kin with visited := rfl, stopping := rfl, current := rfl }
    have hostings : (Pairing.reachable one.world.told other.world.told one.nodes start).Hostings
        (.begun { stage := .unstarted start } (one.begun start))
        (.begun { stage := .unstarted start } (other.begun start)) := by
      refine ⟨⟨begins.note _, ⟨rfl, agree⟩, shelf, rfl, debugSink, errorSink⟩, ?_, rfl⟩
      exact .some ⟨.unstarted .refl, rfl⟩
    have rest := hostings.requests (Pairing.sound_reachable _ _ _ _) rfl stays
    dsimp only
    generalize requests.foldlM Hosting.after? (.begun _ (one.begun start)) = final at rest ⊢
    generalize requests.foldlM Hosting.after? (.begun _ (other.begun start)) = final' at rest ⊢
    cases rest with
    | none => rfl
    | some hostings => exact congrArg (Except.ok ∘ some) hostings.view_bare
  · have unheard : ¬ other.Heard := by rwa [Heard, ← debugSink, ← errorSink]
    rw [seen, seen, run_unheard start heard, run_unheard start unheard, debugSink]

/-- A line, and a jump to a name that no node has. -/
def departure : List Statement := [.say "Hello.", .jump "C"]

/-- The dialogue of a node that departs, when the node has been given a tag and another node has
come in. -/
def Dialogue.furnished : Dialogue Unit :=
  { solo departure with
    nodes := Roster.ofList [⟨"A", departure, ["old"]⟩, ⟨"B", [.say "Bye.", .jump "A"], []⟩] }

/-- From the node only the name can be reached to which it jumps. -/
theorem Dialogue.reaches_departure {name : Text}
    (reached : (solo departure).nodes.Reaches "A" name) : name = "A" ∨ name = "C" := by
  induction reached with
  | refl => exact .inl rfl
  | tail _ leads was =>
    obtain ⟨node, found, jumps⟩ := leads
    obtain rfl | rfl := was
    · have first : (solo departure).nodes.get? "A" = some ⟨"A", departure, []⟩ := by cbv
      rw [first] at found
      cases found
      exact .inr (by simpa [departure, Statement.blockParts, Statement.parts] using jumps)
    · have missing : (solo departure).nodes.get? "C" = none := by cbv
      rw [missing] at found
      cases found

theorem Dialogue.seen_local_furnished :
    (∀ name, (solo departure).nodes.Reaches "A" name →
      ((solo departure).nodes.get? name).map Node.body =
        (furnished.nodes.get? name).map Node.body) ∧
    ((solo departure).seen "A" [.pull 8, .pull 8]).map (Option.map View.bare) =
      (furnished.seen "A" [.pull 8, .pull 8]).map (Option.map View.bare) := by
  have agree : ∀ name, (solo departure).nodes.Reaches "A" name →
      ((solo departure).nodes.get? name).map Node.body =
        (furnished.nodes.get? name).map Node.body := by
    intro name reached
    obtain rfl | rfl := reaches_departure reached
    · cbv
    · cbv
  have stays : ∀ request ∈ [(.pull 8 : Request Unit), .pull 8], request.stays = true := by
    simp [Request.stays]
  exact ⟨agree, seen_local agree rfl rfl rfl rfl rfl stays⟩

end Parley
