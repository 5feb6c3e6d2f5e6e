/-
This file settles that no run knows of another. A dialogue keeps much of what a run
leaves behind: marks on the nodes, the stop flag, the phase, the current node, and a
journal that only grows. A run that begins writes all of this anew, or never looks
at it, so nothing that it comes to depends on what was there.

Two dialogues are twins if they differ in their journals at most, and there only in
what was written before the runs in question. Beginning a run makes twins of any two
dialogues that have the same nodes, libraries, variables and sinks, and whatever is
requested of twins has the same outcome and leaves twins.
-/

import Parley.Proofs.Dialogue.Pairing

namespace Parley

variable {Host Answer : Type}

/-! ### Twins -/

/-- Two worlds with the same variables and the same host, and with the same told since. -/
structure World.Kin (past past' : Channel → List Text) (one other : World Host) : Prop where
  store : one.store = other.store
  host : one.host = other.host
  told : ∀ channel, ∃ news,
    one.told channel = past channel ++ news ∧ other.told channel = past' channel ++ news

/-- Two worlds that differ in what was told before, and in which body is running, at most. -/
structure World.Twin (past past' : Channel → List Text) (one other : World Host) : Prop
    extends World.Kin past past' one other where
  visited : one.visited = other.visited
  stopping : one.stopping = other.stopping
  current : one.current = other.current

/-- Two dialogues that differ in their worlds and their phases at most. -/
def Dialogue.Kin (past past' : Channel → List Text) (one other : Dialogue Host) : Prop :=
  ∃ world phase, one.world.Kin past past' world ∧ other = { one with world, phase }

/-- Two dialogues that differ in their worlds at most, which are twins. -/
def Dialogue.Twin (past past' : Channel → List Text) (one other : Dialogue Host) : Prop :=
  ∃ world, one.world.Twin past past' world ∧ other = { one with world }

variable {past past' : Channel → List Text}

/-- Kin have been told the same since. -/
theorem World.Kin.news {one other : World Host} (kin : one.Kin past past' other)
    (channel : Channel) :
    (one.told channel).drop (past channel).length =
      (other.told channel).drop (past' channel).length := by
  obtain ⟨news, told, told'⟩ := kin.told channel
  rw [told, told', List.drop_left, List.drop_left]

namespace World.Twin

theorem note {one other : World Host} (twin : one.Twin past past' other) (note : Note) :
    (one.note note).Twin past past' (other.note note) := by
  refine { twin with told := fun channel => ?_ }
  obtain ⟨news, told, told'⟩ := twin.told channel
  refine ⟨news ++ if note.channel = channel then [note.message] else [], ?_, ?_⟩
  · rw [World.told_note, told, List.append_assoc]
  · rw [World.told_note, told', List.append_assoc]

/-- No run can tell twins apart. -/
theorem indistinct : Indistinct (@Twin Host past past') where
  store twin := twin.store
  host twin := twin.host
  visited twin := twin.visited
  stopping twin := twin.stopping
  current twin := twin.current
  note note twin := twin.note note
  write _ twin := { twin with store := rfl }
  keep _ twin := { twin with host := rfl }
  stop _ twin := { twin with stopping := rfl }
  mark _ twin := { twin with visited := rfl }
  enter _ twin := { twin with current := rfl }
  execute _ _ twin := { twin with }

end World.Twin

/-! ### What is done to twins -/

theorem Agree.leftBy {relation : Dialogue Host → Dialogue Host → Prop}
    {result result' : EStateM.Result Fault (Dialogue Host) Answer}
    (agree : Agree relation result result') :
    relation (Dialogue.leftBy result) (Dialogue.leftBy result') := by
  cases agree with
  | ok answer related => exact related
  | error fault related => exact related

namespace Dialogue.Twin

variable {one other : Dialogue Host}

theorem changeWorld (twin : one.Twin past past' other) {change : World Host → World Host}
    (alike : ∀ {world world'}, World.Twin past past' world world' →
      (change world).Twin past past' (change world')) :
    (one.changeWorld change).Twin past past' (other.changeWorld change) := by
  obtain ⟨world, twin, rfl⟩ := twin
  exact ⟨change world, alike twin, rfl⟩

theorem ended (twin : one.Twin past past' other) (phase : Phase) :
    (one.ended phase).Twin past past' (other.ended phase) := by
  obtain ⟨world, twin, rfl⟩ := twin
  have noted := twin.note (.runFinished phase world.current)
  refine ⟨world.note (.runFinished phase world.current), ?_, rfl⟩
  rw [Dialogue.ended, twin.current]
  exact noted

theorem note (twin : one.Twin past past' other) (note : Note) :
    Agree (Twin past past') (Dialogue.note note one) (Dialogue.note note other) :=
  .ok () (twin.changeWorld fun twin => twin.note note)

theorem tell (twin : one.Twin past past' other) (message : Note) :
    Agree (Twin past past') (Dialogue.tell message one) (Dialogue.tell message other) := by
  obtain ⟨world, twin, rfl⟩ := twin
  rw [Dialogue.tell, bind_apply, bind_apply, get_apply, get_apply]
  dsimp only
  generalize (if message.channel = .errorSink then one.errorSink else one.debugSink) = present
  cases present with
  | true => exact note ⟨world, twin, rfl⟩ message
  | false => exact .error .sinkGone ⟨world, twin, rfl⟩

theorem requireSinks (twin : one.Twin past past' other) (activity : Activity) :
    Agree (Twin past past') (Dialogue.requireSinks activity one)
      (Dialogue.requireSinks activity other) := by
  obtain ⟨world, twin, rfl⟩ := twin
  rw [Dialogue.requireSinks, bind_apply, bind_apply, get_apply, get_apply]
  dsimp only
  split
  · exact .error _ ⟨world, twin, rfl⟩
  · split
    · exact .error _ ⟨world, twin, rfl⟩
    · exact .ok () ⟨world, twin, rfl⟩

theorem dialogues (twin : one.Twin past past' other) :
    (Pairing.alike (World.Twin past past')).Dialogues one other := by
  obtain ⟨world, twin, rfl⟩ := twin
  exact Pairing.dialogues_alike twin

theorem of_dialogues (dialogues : (Pairing.alike (World.Twin past past')).Dialogues one other) :
    one.Twin past past' other := by
  obtain ⟨_, _, _, _, _, _⟩ := one
  obtain ⟨world, _, _, _, _, _⟩ := other
  obtain ⟨related, nodes, shelf, phase, debugSink, errorSink⟩ := dialogues
  cases nodes
  cases shelf
  cases phase
  cases debugSink
  cases errorSink
  exact ⟨world, related, rfl⟩

/-- Twins yield the same when they are pulled, and their runs go on the same. -/
theorem pull (twin : one.Twin past past' other) (budget : Nat) (run : Run) :
    ∃ yield onward left left', Dialogue.pull budget run one = (yield, onward, left) ∧
      Dialogue.pull budget run other = (yield, onward, left') ∧ left.Twin past past' left' := by
  have sound : (Pairing.alike (@World.Twin Host past past')).Sound :=
    Pairing.sound_alike World.Twin.indistinct
  have goes := Pairing.Dialogues.guarded sound
    (twin.dialogues.resume sound budget (Offer.latest? run.offers) (Pairing.stages_alike run.stage))
  rw [Dialogue.pull, Dialogue.pull]
  generalize guarded (Dialogue.resume budget (Offer.latest? run.offers) run.stage) one = result
    at goes ⊢
  generalize guarded (Dialogue.resume budget (Offer.latest? run.offers) run.stage) other = result'
    at goes ⊢
  cases goes with
  | error fault related => exact ⟨_, _, _, _, rfl, rfl, of_dialogues related⟩
  | ok pulled related =>
    cases pulled with
    | event event nodes left =>
      cases nodes
      cases left
      exact ⟨_, _, _, _, rfl, rfl, of_dialogues related⟩
    | ended => exact ⟨_, _, _, _, rfl, rfl, of_dialogues related⟩
    | unfinished => exact ⟨_, _, _, _, rfl, rfl, of_dialogues related⟩

theorem loadNodes (twin : one.Twin past past' other) (nodes : Ledger Text Node) (strict : Bool) :
    Agree (Twin past past') (Dialogue.loadNodes nodes strict one)
      (Dialogue.loadNodes nodes strict other) := by
  refine .bind (twin.requireSinks .loading) fun _ one other twin => ?_
  obtain ⟨world, related, rfl⟩ := twin
  have twin : Twin past past' one { one with world } := ⟨world, related, rfl⟩
  rw [bind_apply, bind_apply, get_apply, get_apply]
  dsimp only [library]
  generalize (if strict = true then
    missingFunctions (one.shelf.library home) (nodes.entries.map Prod.snd) else []) = missing
  cases missing with
  | cons first rest => exact .error _ twin
  | nil =>
    dsimp only
    cases one.nodes.merge nodes with
    | error name => exact .error _ twin
    | ok table =>
      have loaded : Twin past past' { one with nodes := table }
          { one with world, nodes := table } := ⟨world, related, rfl⟩
      dsimp only
      rw [bind_apply, bind_apply, set_apply, set_apply]
      refine .bind (loaded.note _) fun _ _ _ twin => ?_
      exact .bind (twin.tell _) fun _ _ _ twin => .ok _ twin

theorem loadScript (twin : one.Twin past past' other) (script : Except LoadFault NodeTable)
    (strict : Bool) :
    Agree (Twin past past') (Dialogue.loadScript script strict one)
      (Dialogue.loadScript script strict other) := by
  rw [Dialogue.loadScript.eq_def]
  refine .bind (twin.requireSinks .loading) fun _ _ _ twin => ?_
  cases script with
  | error fault => exact .error _ twin
  | ok nodes => exact .bind (twin.note _) fun _ _ _ twin => twin.loadNodes nodes.toLedger strict

theorem close (twin : one.Twin past past' other) (run : Run) :
    (Dialogue.close run one).1 = (Dialogue.close run other).1 ∧
      (Dialogue.close run one).2.Twin past past' (Dialogue.close run other).2 := by
  obtain ⟨stage, offers⟩ := run
  cases stage with
  | inside node traversal => exact ⟨rfl, twin.ended .completed⟩
  | _ => exact ⟨rfl, twin⟩

theorem errand (twin : one.Twin past past' other) (errand : Errand Host) :
    (errand.after one).Twin past past' (errand.after other) := by
  cases errand with
  | loadNodes nodes strict => exact (twin.loadNodes nodes strict).leftBy
  | loadScript script strict => exact (twin.loadScript script strict).leftBy
  | arrange shelf =>
    obtain ⟨world, twin, rfl⟩ := twin
    exact ⟨world, twin, rfl⟩
  | write store host stopping =>
    refine twin.changeWorld fun twin => ?_
    exact { twin with
      store := congrArg store twin.store
      host := congrArg host twin.host
      stopping := congrArg stopping twin.stopping }
  | provide debugSink errorSink =>
    obtain ⟨world, twin, rfl⟩ := twin
    exact ⟨world, twin, rfl⟩

theorem kin (twin : one.Twin past past' other) : one.Kin past past' other := by
  obtain ⟨world, twin, rfl⟩ := twin
  exact ⟨world, one.phase, twin.toKin, rfl⟩

end Dialogue.Twin

/-- Where a run begins, kin become twins; if one of them cannot begin it, neither can the other. -/
theorem Dialogue.Kin.run {one other : Dialogue Host} (kin : one.Kin past past' other)
    (start : Text) :
    (∃ fault, Dialogue.run start one = .error fault one ∧
      Dialogue.run start other = .error fault other) ∨
    ∃ run left left', Dialogue.run start one = .ok run left ∧
      Dialogue.run start other = .ok run left' ∧ left.Twin past past' left' := by
  obtain ⟨world, phase, kin, rfl⟩ := kin
  by_cases heard : one.Heard
  · refine .inr ⟨_, _, _, run_apply start heard, run_apply start (by exact heard), ?_⟩
    have begins : World.Twin past past'
        { one.world with stopping := false, visited := [], current := some start }
        { world with stopping := false, visited := [], current := some start } :=
      { kin with visited := rfl, stopping := rfl, current := rfl }
    exact ⟨_, begins.note (.runStarted start), rfl⟩
  · exact .inl ⟨_, run_unheard start heard, run_unheard start (by exact heard)⟩

/-! ### Hosts -/

/-- What is to be seen of a run: what the host got each time, where the run stands, and everything
in the dialogue that a run changes, with what was told since a given moment. -/
structure View (Host : Type) where
  touches : List Touch
  run : Option Run
  phase : Phase
  store : Store
  host : Host
  visited : List Text
  stopping : Bool
  current : Option Text
  told : Channel → List Text

namespace Hosting

/-- What is to be seen of a run, where `past` was told before. -/
def view (past : Channel → List Text) (hosting : Hosting Host) : View Host where
  touches := hosting.touches
  run := hosting.run
  phase := hosting.dialogue.phase
  store := hosting.dialogue.world.store
  host := hosting.dialogue.world.host
  visited := hosting.dialogue.world.visited
  stopping := hosting.dialogue.world.stopping
  current := hosting.dialogue.world.current
  told channel := (hosting.dialogue.world.told channel).drop (past channel).length

/-- Two hosts that did the same with twins. -/
structure Twin (past past' : Channel → List Text) (one other : Hosting Host) : Prop where
  dialogue : one.dialogue.Twin past past' other.dialogue
  run : one.run = other.run
  touches : one.touches = other.touches

theorem Twin.view {one other : Hosting Host} (twin : one.Twin past past' other) :
    one.view past = other.view past' := by
  obtain ⟨world, worlds, same⟩ := twin.dialogue
  unfold Hosting.view
  rw [same, twin.touches, twin.run, worlds.store, worlds.host, worlds.visited, worlds.stopping,
    worlds.current, funext worlds.news]

/-- A request has the same outcome for twins. -/
theorem Twin.after? {one other : Hosting Host} (twin : one.Twin past past' other)
    (request : Request Host) :
    Option.Rel (Twin past past') (one.after? request) (other.after? request) := by
  cases request with
  | errand errand => exact .some { twin with dialogue := twin.dialogue.errand errand }
  | run start =>
    rw [Hosting.after?, Hosting.after?]
    obtain ⟨fault, failed, failed'⟩ | ⟨run, left, left', began, began', related⟩ :=
      twin.dialogue.kin.run start
    · rw [failed, failed']
      exact .some twin
    · rw [began, began']
      exact .some ⟨related, rfl, rfl⟩
  | pull budget =>
    rw [Hosting.after?, Hosting.after?, ← twin.run]
    cases latest : one.run with
    | none => exact .some twin
    | some run =>
      obtain ⟨yield, onward, left, left', pulled, pulled', related⟩ := twin.dialogue.pull budget run
      dsimp only
      rw [pulled, pulled']
      have touched (touch : Touch) : one.touches ++ [touch] = other.touches ++ [touch] :=
        congrArg (· ++ _) twin.touches
      cases yield with
      | error fault => exact .some ⟨related, rfl, touched _⟩
      | ok yield =>
        cases yield with
        | unfinished => exact .none
        | event event => exact .some ⟨related, rfl, touched _⟩
        | ended => exact .some ⟨related, rfl, touched _⟩
  | choose place index =>
    rw [Hosting.after?, Hosting.after?, ← twin.run]
    cases one.run with
    | none => exact .some twin
    | some run =>
      dsimp only
      cases run.choose place index with
      | ok answered => exact .some { twin with run := rfl }
      | error fault => exact .some twin
  | close =>
    rw [Hosting.after?, Hosting.after?, ← twin.run]
    cases one.run with
    | none => exact .some twin
    | some run =>
      obtain ⟨onward, related⟩ := twin.dialogue.close run
      exact .some ⟨related, congrArg some onward, congrArg (· ++ _) twin.touches⟩

theorem Twin.requests {one other : Hosting Host} (twin : one.Twin past past' other)
    (requests : List (Request Host)) :
    Option.Rel (Twin past past') (requests.foldlM Hosting.after? one)
      (requests.foldlM Hosting.after? other) :=
  rel_foldlM (fun request _ _ _ twin => twin.after? request) twin

end Hosting

/-- What is to be seen when a run has begun and the host has made requests, unless the run cannot
begin or a pull goes on for longer than its budget. -/
def Dialogue.seen (start : Text) (requests : List (Request Host)) (dialogue : Dialogue Host) :
    Except Fault (Option (View Host)) :=
  match Dialogue.run start dialogue with
  | .error fault _ => .error fault
  | .ok run started =>
    .ok ((requests.foldlM Hosting.after? (.begun run started)).map
      (Hosting.view dialogue.world.told))

/-- Runs are independent of what became of their dialogue before. In two dialogues with the same
nodes, libraries, variables and sinks and the same host, whatever is marked as visited in them, in
whatever phase they are, and whatever was told and left behind by earlier runs, a run that begins at
the same start comes to the same, with the same to be seen after all the same requests. -/
theorem Dialogue.seen_independent {one other : Dialogue Host} (nodes : one.nodes = other.nodes)
    (shelf : one.shelf = other.shelf) (store : one.world.store = other.world.store)
    (host : one.world.host = other.world.host) (debugSink : one.debugSink = other.debugSink)
    (errorSink : one.errorSink = other.errorSink) (start : Text)
    (requests : List (Request Host)) : one.seen start requests = other.seen start requests := by
  have kin : one.Kin one.world.told other.world.told other := by
    refine ⟨other.world, other.phase, ⟨store, host, fun channel => ⟨[], ?_, ?_⟩⟩, ?_⟩
    · exact (List.append_nil _).symm
    · exact (List.append_nil _).symm
    · rw [nodes, shelf, debugSink, errorSink]
  rw [seen, seen]
  obtain ⟨fault, failed, failed'⟩ | ⟨run, left, left', began, began', related⟩ := kin.run start
  · rw [failed, failed']
  · rw [began, began']
    have twin : (Hosting.begun run left).Twin one.world.told other.world.told (.begun run left') :=
      ⟨related, rfl, rfl⟩
    have rest := twin.requests requests
    dsimp only
    generalize requests.foldlM Hosting.after? (.begun run left) = final at rest ⊢
    generalize requests.foldlM Hosting.after? (.begun run left') = final' at rest ⊢
    cases rest with
    | none => rfl
    | some twin => exact congrArg (Except.ok ∘ some) twin.view

/-- A node that breaks its run off. -/
def Dialogue.broken : Dialogue Unit :=
  solo [.evaluate (.call "assert" [.literal (.bool false)]), .say "Hello."]

/-- The dialogue of the node behind its run. -/
def Dialogue.brokenOff : Dialogue Unit := (pull 8 { stage := .unstarted "A" } broken).2.2

theorem Dialogue.seen_independent_brokenOff :
    brokenOff.phase = .aborted ∧ brokenOff.world.stopping = true ∧
      broken.seen "A" [.pull 8, .close] = brokenOff.seen "A" [.pull 8, .close] := by
  have nodes : broken.nodes = brokenOff.nodes := by cbv
  have shelf : broken.shelf = brokenOff.shelf := by cbv
  have store : broken.world.store = brokenOff.world.store := by cbv
  have debugSink : broken.debugSink = brokenOff.debugSink := by cbv
  have errorSink : broken.errorSink = brokenOff.errorSink := by cbv
  refine ⟨by cbv, by cbv, ?_⟩
  exact seen_independent nodes shelf store rfl debugSink errorSink "A" [.pull 8, .close]

end Parley
