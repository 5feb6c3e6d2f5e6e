/-
This file settles that no run sees in which order its nodes came in. A run looks nodes up
under their names and does nothing else with the table, so tables in which the same is found
under every name make the same runs. That is so behind every load as well, since what is
loaded is put in by name.

Loads make the ordered union of what was loaded. Where no name is in two scripts, the order in
which they are loaded shows in the order of the union only, and so in no run.
-/

import Parley.Proofs.Dialogue.Independence
import Parley.Proofs.Script.Union

namespace Parley

variable {Host : Type} {past past' : Channel → List Text}

/-! ### Tables in which the same is found -/

namespace NodeTable

/-- The same is found under every name. -/
def Like (one other : NodeTable) : Prop := ∀ name, one.get? name = other.get? name

variable {one other : NodeTable}

theorem Like.mem_iff (like : one.Like other) {node : Node} :
    node ∈ one.entries ↔ node ∈ other.entries := by
  have found (table : NodeTable) :
      node ∈ table.entries ↔ table.get? node.name = some node :=
    ⟨fun member => Roster.get?_eq_some_iff.2 ⟨member, rfl⟩,
      fun found => (Roster.get?_eq_some_iff.1 found).1⟩
  rw [found, found, like]

theorem like_of_mem (same : ∀ node, node ∈ one.entries ↔ node ∈ other.entries) :
    one.Like other := by
  intro name
  ext node
  rw [Roster.get?_eq_some_iff, Roster.get?_eq_some_iff, same]

/-- Tables in which the same is found have the same nodes, in some order. -/
theorem Like.perm (like : one.Like other) : one.entries.Perm other.entries :=
  (List.perm_ext_iff_of_nodup (.of_map _ one.nodup) (.of_map _ other.nodup)).2 fun _ => like.mem_iff

theorem Like.size_eq (like : one.Like other) : one.size = other.size := like.perm.length_eq

/-- What a merge makes a table of. -/
def mergedNodes (table : NodeTable) (nodes : Ledger Text Node) : List Node :=
  (table.toLedger.insertAll nodes.entries).entries.map Prod.snd

theorem Like.perm_mergedNodes (like : one.Like other) (nodes : Ledger Text Node) :
    (one.mergedNodes nodes).Perm (other.mergedNodes nodes) := by
  refine List.Perm.map Prod.snd ((List.perm_ext_iff_of_nodup (.of_map _ (Roster.nodup _))
    (.of_map _ (Roster.nodup _))).2 fun entry => ?_)
  rw [Roster.mem_insertAll_iff nodes.nodup, Roster.mem_insertAll_iff nodes.nodup, mem_toLedger,
    mem_toLedger, like.mem_iff]

/-- Whether nodes can be merged into a table, and what is then found, depends on what is found in
the table. -/
theorem Like.merge (like : one.Like other) (nodes : Ledger Text Node) :
    (∃ name name', one.merge nodes = .error name ∧ other.merge nodes = .error name') ∨
      ∃ table table', one.merge nodes = .ok table ∧ other.merge nodes = .ok table' ∧
        table.Like table' := by
  have perm := like.perm_mergedNodes nodes
  have names : ((one.mergedNodes nodes).map Node.name).Nodup ↔
      ((other.mergedNodes nodes).map Node.name).Nodup := (perm.map Node.name).nodup_iff
  by_cases distinct : ((one.mergedNodes nodes).map Node.name).Nodup
  · refine .inr ⟨⟨_, distinct⟩, ⟨_, names.1 distinct⟩, ofNodes_eq_ok.2 ⟨distinct, rfl⟩,
      ofNodes_eq_ok.2 ⟨names.1 distinct, rfl⟩, like_of_mem fun _ => perm.mem_iff⟩
  · have fails (table : NodeTable)
        (twice : ¬ ((table.mergedNodes nodes).map Node.name).Nodup) :
        ∃ name, table.merge nodes = .error name := by
      cases made : table.merge nodes with
      | error name => exact ⟨name, rfl⟩
      | ok merged => exact absurd (ofNodes_eq_ok.1 made).1 twice
    obtain ⟨name, failed⟩ := fails one distinct
    obtain ⟨name', failed'⟩ := fails other (names.not.1 distinct)
    exact .inl ⟨name, name', failed, failed'⟩

end NodeTable

/-! ### Dialogues in which the same is found -/

/-- The pairing of dialogues in which the same node is found under every name. -/
def Pairing.lookups (past past' : Channel → List Text) : Pairing Host where
  worlds := World.Twin past past'
  tables := NodeTable.Like

theorem Pairing.sound_lookups : (@lookups Host past past').Sound where
  worlds := World.Twin.indistinct
  found {table table'} (like : table.Like table') name _ := by
    rw [like name]
    cases table'.get? name with
    | none => exact .none
    | some node => exact .some rfl
  name {node node'} (nodes : node = node') := congrArg Node.name nodes
  fresh {node node'} (nodes : node = node') := congrArg Traversal.fresh nodes
  bout shelf name chosen traversal traversal' one other going related := by
    obtain rfl : traversal = traversal' := going
    exact bout_self World.Twin.indistinct (fun _ _ => rfl) (fun _ => trivial) shelf name chosen
      traversal related

namespace Pairing.Dialogues

variable {one other : Dialogue Host}

theorem heard_iff {pairing : Pairing Host} (dialogues : pairing.Dialogues one other) :
    one.Heard ↔ other.Heard := by
  rw [Dialogue.Heard, Dialogue.Heard, dialogues.debugSink, dialogues.errorSink]

theorem loadNodes (dialogues : (lookups past past').Dialogues one other)
    (nodes : Ledger Text Node) (strict : Bool) :
    (lookups past past').Dialogues (Dialogue.leftBy (Dialogue.loadNodes nodes strict one))
      (Dialogue.leftBy (Dialogue.loadNodes nodes strict other)) := by
  by_cases heard : one.Heard
  · have library : one.library = other.library :=
      congrArg (Shelf.library · Dialogue.home) dialogues.shelf
    rw [Dialogue.loadNodes_apply nodes strict heard,
      Dialogue.loadNodes_apply nodes strict (dialogues.heard_iff.1 heard), library]
    cases (if strict = true then Dialogue.missingFunctions other.library
      (nodes.entries.map Prod.snd) else []) with
    | cons first rest => exact dialogues
    | nil =>
      have like : one.nodes.Like other.nodes := dialogues.nodes
      dsimp only
      obtain ⟨name, name', failed, failed'⟩ | ⟨table, table', merged, merged', alike⟩ :=
        like.merge nodes
      · rw [failed, failed']
        exact dialogues
      · have world : one.world.Twin past past' other.world := dialogues.world
        rw [merged, merged']
        dsimp only [Dialogue.leftBy]
        rw [alike.size_eq]
        exact { dialogues with nodes := alike, world := (world.note _).note _ }
  · rw [Dialogue.loadNodes_unheard nodes strict heard,
      Dialogue.loadNodes_unheard nodes strict (dialogues.heard_iff.not.1 heard)]
    exact dialogues

theorem loadScript (dialogues : (lookups past past').Dialogues one other)
    (script : Except LoadFault NodeTable) (strict : Bool) :
    (lookups past past').Dialogues (Dialogue.leftBy (Dialogue.loadScript script strict one))
      (Dialogue.leftBy (Dialogue.loadScript script strict other)) := by
  by_cases heard : one.Heard
  · rw [Dialogue.loadScript_apply script strict heard,
      Dialogue.loadScript_apply script strict (dialogues.heard_iff.1 heard)]
    cases script with
    | error fault => exact dialogues
    | ok table =>
      have world : one.world.Twin past past' other.world := dialogues.world
      exact (dialogues.changeWorld (world.note _)).loadNodes table.toLedger strict
  · rw [Dialogue.loadScript_unheard script strict heard,
      Dialogue.loadScript_unheard script strict (dialogues.heard_iff.not.1 heard)]
    exact dialogues

theorem begun (dialogues : (lookups past past').Dialogues one other) (start : Text) :
    (lookups past past').Dialogues (one.begun start) (other.begun start) := by
  have world : one.world.Twin past past' other.world := dialogues.world
  have begins : World.Twin past past'
      { one.world with stopping := false, visited := [], current := some start }
      { other.world with stopping := false, visited := [], current := some start } :=
    { world with visited := rfl, stopping := rfl, current := rfl }
  exact { dialogues with phase := rfl, world := begins.note _ }

end Pairing.Dialogues

namespace Pairing.Hostings

variable {one other : Hosting Host}

/-- Every request, also one that loads nodes or begins a run, has the same outcome. -/
theorem request (hostings : (lookups past past').Hostings one other) (request : Request Host) :
    Option.Rel (lookups past past').Hostings (one.after? request) (other.after? request) := by
  have stays {request : Request Host} (stays : request.stays = true) :
      Option.Rel (lookups past past').Hostings (one.after? request) (other.after? request) :=
    hostings.after? sound_lookups rfl stays
  cases request with
  | errand errand =>
    cases errand with
    | loadNodes nodes strict =>
      exact .some { hostings with dialogue := hostings.dialogue.loadNodes nodes strict }
    | loadScript script strict =>
      exact .some { hostings with dialogue := hostings.dialogue.loadScript script strict }
    | arrange shelf => exact stays rfl
    | write store host stopping => exact stays rfl
    | provide debugSink errorSink => exact stays rfl
  | run start =>
    rw [Hosting.after?, Hosting.after?]
    by_cases heard : one.dialogue.Heard
    · rw [Dialogue.run_apply start heard,
        Dialogue.run_apply start (hostings.dialogue.heard_iff.1 heard)]
      exact .some ⟨hostings.dialogue.begun start, .some ⟨.unstarted trivial, rfl⟩, rfl⟩
    · rw [Dialogue.run_unheard start heard,
        Dialogue.run_unheard start (hostings.dialogue.heard_iff.not.1 heard)]
      exact .some hostings
  | pull budget => exact stays rfl
  | choose place index => exact stays rfl
  | close => exact stays rfl

/-- The same is seen in runs that are compared. -/
theorem view (hostings : (lookups past past').Hostings one other) :
    one.view past = other.view past' := by
  have world : one.dialogue.world.Twin past past' other.dialogue.world := hostings.dialogue.world
  have run : one.run = other.run := by
    obtain ⟨none, none'⟩ | ⟨⟨stage, offers⟩, ⟨stage', offers'⟩, latest, latest', runs⟩ :=
      hostings.runs
    · rw [none, none']
    · obtain rfl : offers = offers' := runs.offers
      have same : stage = stage' := by
        rw [(lookups past past').rest_steady rfl] at runs
        cases runs.stage with
        | unstarted expected => rfl
        | inside nodes rest =>
          cases nodes
          cases rest
          rfl
        | ended => rfl
      rw [latest, latest', same]
  unfold Hosting.view
  rw [run, hostings.touches, hostings.dialogue.phase, world.store, world.host, world.visited,
    world.stopping, world.current, funext world.news]

end Pairing.Hostings

/-- Runs look nodes up and do nothing else with them. In two dialogues with the same libraries,
variables and sinks and the same host, in which the same node is found under every name, a run that
begins at the same start comes to the same, with the same to be seen after all the same requests. -/
theorem Dialogue.seen_of_like {one other : Dialogue Host} (like : one.nodes.Like other.nodes)
    (shelf : one.shelf = other.shelf) (store : one.world.store = other.world.store)
    (host : one.world.host = other.world.host) (debugSink : one.debugSink = other.debugSink)
    (errorSink : one.errorSink = other.errorSink) (start : Text)
    (requests : List (Request Host)) : one.seen start requests = other.seen start requests := by
  by_cases heard : one.Heard
  · have heard' : other.Heard := by rwa [Heard, ← debugSink, ← errorSink]
    rw [seen, seen, run_apply start heard, run_apply start heard']
    have begins : World.Twin one.world.told other.world.told
        { one.world with stopping := false, visited := [], current := some start }
        { other.world with stopping := false, visited := [], current := some start } := by
      refine ⟨⟨store, host, fun channel => ⟨[], ?_, ?_⟩⟩, rfl, rfl, rfl⟩
      · exact (List.append_nil _).symm
      · exact (List.append_nil _).symm
    have hostings : (Pairing.lookups one.world.told other.world.told).Hostings
        (.begun { stage := .unstarted start } (one.begun start))
        (.begun { stage := .unstarted start } (other.begun start)) :=
      ⟨⟨begins.note _, like, shelf, rfl, debugSink, errorSink⟩,
        .some ⟨.unstarted trivial, rfl⟩, rfl⟩
    have rest : Option.Rel _ (requests.foldlM Hosting.after? _)
        (requests.foldlM Hosting.after? _) :=
      rel_foldlM (fun request _ _ _ hostings => Pairing.Hostings.request hostings request) hostings
    dsimp only
    generalize requests.foldlM Hosting.after? (.begun _ (one.begun start)) = final at rest ⊢
    generalize requests.foldlM Hosting.after? (.begun _ (other.begun start)) = final' at rest ⊢
    cases rest with
    | none => rfl
    | some hostings => exact congrArg (Except.ok ∘ some) hostings.view
  · have unheard : ¬ other.Heard := by rwa [Heard, ← debugSink, ← errorSink]
    rw [seen, seen, run_unheard start heard, run_unheard start unheard, debugSink]

/-! ### Loads -/

namespace Dialogue

/-- A script that was read, if it could be read, and whether it is to be loaded strictly. -/
abbrev Consignment := Except LoadFault NodeTable × Bool

instance (dialogue : Dialogue Host) : Decidable dialogue.Heard :=
  inferInstanceAs (Decidable (dialogue.debugSink = true ∧ dialogue.errorSink = true))

/-- The nodes that a dialogue takes in when a script is loaded, unless the load fails. -/
def accepted? (dialogue : Dialogue Host) : Consignment → Option NodeTable
  | (.error _, _) => none
  | (.ok table, strict) =>
    if dialogue.Heard ∧
        (if strict then missingFunctions dialogue.library table.entries else []) = [] then
      some table
    else none

/-- The dialogue when scripts were loaded one after the other, each of which may have failed. -/
def behind (dialogue : Dialogue Host) (scripts : List Consignment) : Dialogue Host :=
  scripts.foldl (fun dialogue script => leftBy (loadScript script.1 script.2 dialogue)) dialogue

/-- A load makes the union of the nodes that there were and of those it takes in. -/
theorem nodes_loadScript (script : Consignment) (dialogue : Dialogue Host) :
    (leftBy (loadScript script.1 script.2 dialogue)).nodes =
      (dialogue.accepted? script).elim dialogue.nodes dialogue.nodes.union := by
  obtain ⟨script, strict⟩ := script
  by_cases heard : dialogue.Heard
  · rw [loadScript_apply script strict heard]
    cases script with
    | error fault => rfl
    | ok table =>
      have unpaired : table.toLedger.entries.map Prod.snd = table.entries := by
        rw [NodeTable.entries_toLedger, List.map_map]
        exact List.map_id _
      have noted : (dialogue.changeWorld (·.note (.scriptLoaded table.size))).Heard ∧
          (dialogue.changeWorld (·.note (.scriptLoaded table.size))).library = dialogue.library ∧
          (dialogue.changeWorld (·.note (.scriptLoaded table.size))).nodes.merge table.toLedger =
            .ok (dialogue.nodes.union table) :=
        ⟨heard, rfl, NodeTable.merge_toLedger dialogue.nodes table⟩
      dsimp only
      rw [loadNodes_apply _ _ noted.1, unpaired, noted.2.1, noted.2.2, accepted?]
      cases missing : (if strict = true then missingFunctions dialogue.library table.entries
        else []) with
      | nil =>
        rw [if_pos ⟨heard, rfl⟩]
        rfl
      | cons first rest =>
        rw [if_neg fun both => List.cons_ne_nil _ _ both.2]
        rfl
  · rw [loadScript_unheard script strict heard]
    cases script with
    | error fault => rfl
    | ok table =>
      have refused : dialogue.accepted? (.ok table, strict) = none :=
        if_neg fun both => heard both.1
      rw [refused]
      rfl

/-- What a load does not change. -/
structure Spared (before after : Dialogue Host) : Prop where
  shelf : after.shelf = before.shelf
  store : after.world.store = before.world.store
  host : after.world.host = before.world.host
  debugSink : after.debugSink = before.debugSink
  errorSink : after.errorSink = before.errorSink

theorem spared_loadScript (script : Consignment) (dialogue : Dialogue Host) :
    dialogue.Spared (leftBy (loadScript script.1 script.2 dialogue)) := by
  obtain ⟨table, world, left, journal, rfl, -⟩ := leftBy_loadScript script.1 script.2 dialogue
  rw [left]
  exact ⟨rfl, rfl, rfl, rfl, rfl⟩

theorem Spared.trans {first second third : Dialogue Host} (onward : first.Spared second)
    (further : second.Spared third) : first.Spared third :=
  ⟨further.shelf.trans onward.shelf, further.store.trans onward.store,
    further.host.trans onward.host, further.debugSink.trans onward.debugSink,
    further.errorSink.trans onward.errorSink⟩

theorem spared_behind (scripts : List Consignment) (dialogue : Dialogue Host) :
    dialogue.Spared (dialogue.behind scripts) := by
  induction scripts generalizing dialogue with
  | nil => exact ⟨rfl, rfl, rfl, rfl, rfl⟩
  | cons first rest ih => exact (spared_loadScript first dialogue).trans (ih _)

/-- Whether a load fails does not depend on what was loaded before. -/
theorem Spared.accepted? {before after : Dialogue Host} (spared : before.Spared after)
    (script : Consignment) : after.accepted? script = before.accepted? script := by
  obtain ⟨script, strict⟩ := script
  cases script with
  | error fault => rfl
  | ok table =>
    have library : after.library = before.library := congrArg (Shelf.library · home) spared.shelf
    have heard : after.Heard ↔ before.Heard := by
      rw [Heard, Heard, spared.debugSink, spared.errorSink]
    rw [Dialogue.accepted?, Dialogue.accepted?, library]
    exact if_congr (and_congr_left' heard) rfl rfl

/-- Behind loads there is the union of what was there and of all that was taken in. -/
theorem nodes_behind (scripts : List Consignment) (dialogue : Dialogue Host) :
    (dialogue.behind scripts).nodes =
      (scripts.filterMap dialogue.accepted?).foldl Roster.union dialogue.nodes := by
  induction scripts generalizing dialogue with
  | nil => rfl
  | cons first rest ih =>
    have spared := spared_loadScript first dialogue
    have onward := ih (leftBy (loadScript first.1 first.2 dialogue))
    rw [funext spared.accepted?, nodes_loadScript] at onward
    rw [behind, List.foldl_cons, ← behind, onward, List.filterMap_cons]
    cases dialogue.accepted? first with
    | none => rfl
    | some table => rfl

theorem read_of_accepted? {dialogue : Dialogue Host} {script : Consignment} {table : NodeTable}
    (taken : dialogue.accepted? script = some table) : script.1 = .ok table := by
  obtain ⟨script, strict⟩ := script
  cases script with
  | error fault => cases taken
  | ok read =>
    obtain ⟨-, same⟩ := Option.ite_none_right_eq_some.1 taken
    exact congrArg Except.ok (Option.some.inj same)

/-- Where no name is in two scripts, the same is found whichever is loaded first. -/
theorem like_behind {first second : Consignment} (disjoint : ∀ table table',
      first.1 = .ok table → second.1 = .ok table' → ∀ name ∈ table.names, name ∉ table'.names)
    (dialogue : Dialogue Host) :
    (dialogue.behind [first, second]).nodes.Like (dialogue.behind [second, first]).nodes := by
  intro name
  rw [nodes_behind, nodes_behind]
  simp only [List.filterMap_cons, List.filterMap_nil]
  cases taken : dialogue.accepted? first with
  | none => rfl
  | some table =>
    cases takenToo : dialogue.accepted? second with
    | none => rfl
    | some table' =>
      have apart := disjoint table table' (read_of_accepted? taken) (read_of_accepted? takenToo)
      show ((dialogue.nodes.union table).union table').get? name =
        ((dialogue.nodes.union table').union table).get? name
      rw [Roster.union_assoc, Roster.union_assoc, Roster.get?_union,
        Roster.get?_union_comm apart, Roster.get?_union dialogue.nodes]

/-- What loads do with the nodes of a dialogue. -/
structure LoadsUnite (dialogue : Dialogue Host) : Prop where
  /-- The scripts that were not refused are merged one after the other, and no merge fails. -/
  loaded : ∀ scripts : List Consignment, (scripts.filterMap dialogue.accepted?).foldlM
    (fun table script => table.merge script.toLedger) dialogue.nodes =
      .ok (dialogue.behind scripts).nodes
  /-- Where no name is in two scripts, the order in which they are loaded is not to be found out. -/
  either : ∀ first second : Consignment, (∀ table table', first.1 = .ok table →
      second.1 = .ok table' → ∀ name ∈ table.names, name ∉ table'.names) →
    (∀ name, (dialogue.behind [first, second]).nodes.get? name =
      (dialogue.behind [second, first]).nodes.get? name) ∧
    ∀ start requests, (dialogue.behind [first, second]).seen start requests =
      (dialogue.behind [second, first]).seen start requests

theorem loadsUnite (dialogue : Dialogue Host) : dialogue.LoadsUnite where
  loaded scripts := by
    rw [nodes_behind]
    generalize scripts.filterMap dialogue.accepted? = tables
    generalize dialogue.nodes = table
    induction tables generalizing table with
    | nil => rfl
    | cons first rest ih =>
      rw [List.foldlM_cons, NodeTable.merge_toLedger, List.foldl_cons]
      exact ih (table.union first)
  either first second disjoint := by
    have like := like_behind disjoint dialogue
    have spared := spared_behind [first, second] dialogue
    have spared' := spared_behind [second, first] dialogue
    refine ⟨like, seen_of_like like ?_ ?_ ?_ ?_ ?_⟩
    · rw [spared.shelf, spared'.shelf]
    · rw [spared.store, spared'.store]
    · rw [spared.host, spared'.host]
    · rw [spared.debugSink, spared'.debugSink]
    · rw [spared.errorSink, spared'.errorSink]

/-- Tables of nodes are ordered unions. A list makes a table unless it repeats a name; every table
that is made stays as it is; merging never fails, and is associative and idempotent with the empty
table as unit; and behind any loads a dialogue has the union of what was loaded, where the order of
scripts that have no name in common is not to be found out by any run. -/
theorem tables_unite (dialogue : Dialogue Host) (makings : List NodeTable.Making) :
    (∀ nodes, NodeTable.Listed nodes) ∧
    (∀ later, NodeTable.made makings <+: NodeTable.made (makings ++ later)) ∧
    (∀ first second table other, (NodeTable.made makings)[first]? = some table →
      (NodeTable.made makings)[second]? = some other →
      ∃ merged, table.merge other.toLedger = .ok merged ∧
        NodeTable.made (makings ++ [.merge first second]) = NodeTable.made makings ++ [merged]) ∧
    (∀ first second third, NodeTable.Unites first second third) ∧
    dialogue.LoadsUnite :=
  ⟨NodeTable.listed_of, NodeTable.prefix_made makings,
    fun _ _ _ _ there thereToo => NodeTable.made_merge makings there thereToo,
    NodeTable.unites, dialogue.loadsUnite⟩

end Dialogue

end Parley
