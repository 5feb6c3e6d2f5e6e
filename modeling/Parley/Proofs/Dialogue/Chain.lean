/-
This file tells a run as a chain of traversals. The engine traverses the node that
the run starts at, then the node its last result names, and so on; nothing in the
chain knows of the command `stop`, of the stop flag or of the end of a run. A run
is the chain, cut before the first item that ends it.

A chain is an account of a host as well: its reactions are handed out one after
each event, and a pull enters no more nodes than its budget allows. The invariant
that carries the comparison is that going on from a place in a run agrees with
what is left of the chain at that place.
-/

import Parley.Proofs.Dialogue.Course
import Parley.Proofs.Engine.Frame

namespace Parley

variable {Host : Type}

/-! ### Messages -/

/-- The messages that a sink was sent, the earliest first. -/
def World.told (channel : Channel) (world : World Host) : List Text :=
  (world.journal.toList.filter fun entry => entry.note.channel = channel).map (·.note.message)

theorem World.told_note (channel : Channel) (world : World Host) (note : Note) :
    (world.note note).told channel =
      world.told channel ++ if note.channel = channel then [note.message] else [] := by
  by_cases same : note.channel = channel
  · simp [told, World.note, same]
  · simp [told, World.note, same]

/-- A channel is not told what goes elsewhere. -/
theorem World.told_elsewhere (channel : Channel) (world : World Host) (note : Note)
    (elsewhere : note.channel ≠ channel) : (world.note note).told channel = world.told channel := by
  rw [told_note, if_neg elsewhere, List.append_nil]

/-- No sink is told what is logged. -/
theorem World.told_logged {channel : Channel} (sink : channel ≠ .log) (world : World Host)
    {note : Note} (logs : note.channel = .log) :
    (world.note note).told channel = world.told channel :=
  world.told_elsewhere channel note fun same => sink (same.symm.trans logs)

theorem World.told_visit (channel : Channel) (world : World Host) (name : Text) :
    (world.visit name).told channel = world.told channel := by
  rw [visit]
  split
  · rfl
  · rfl

/-- The body of a node sends no messages. -/
theorem Ordinary.told {channel : Channel} (sink : channel ≠ .log) :
    Ordinary fun before after : World Host => after.told channel = before.told channel where
  refl _ := rfl
  trans first second := second.trans first
  log world _ logs := world.told_logged sink logs
  write _ _ _ := rfl
  stop _ := rfl

/-- A pull sends no messages, whether or not it fails. -/
theorem told_during_pull (channel : Channel) (sink : channel ≠ .log) (shelf : Shelf Host)
    (name : Text) (chosen : Option Nat) (traversal : Traversal) (world : World Host) :
    (((Engine.pull (shelf.call Dialogue.home) chosen traversal).during name).after world).told
        channel = world.told channel := by
  have kept := Engine.keeps_pull (Ordinary.told sink)
    (fun function operands => shelf.keeps_call (Ordinary.told sink) Dialogue.home function operands)
    chosen traversal { world with executing := some name }
  rw [Act.after] at kept ⊢
  rw [Act.during]
  cases result : Engine.pull (shelf.call Dialogue.home) chosen traversal
      { world with executing := some name } with
  | ok pulled after =>
    rw [result] at kept
    exact kept
  | error fault after =>
    rw [result] at kept
    exact kept

/-! ### Chains -/

/-- What a chain comes by: a name, a result with the stop flag as it stood then, a name that no node
has, a fault, or the end of a budget. -/
inductive Item where
  | reached (name : Text)
  | yielded (result : Result) (stopping : Bool)
  | missing (name : Text)
  | failed (fault : Fault)
  | exhausted

/-- How a traversal is left: at an event after which the host pulls no more, at a fault, or
complete, with the nodes that the pull under way may still enter, the reactions still to come and
the world. -/
inductive Departure (Host : Type) where
  | waiting
  | fault (fault : Fault)
  | complete (next : Option Text) (left : Nat) (reactions : List (Reaction Host))
    (world : World Host)

section

variable (call : Text → List Value → Act Host Value) (budget : Nat)

/-- The results of a traversal from a pull on that `act` carries out, and how it is left. -/
def traverse (name : Text) (left : Nat) (reactions : List (Reaction Host))
    (act : Act Host (Option (Result × Traversal))) (world : World Host) :
    List Item × Departure Host :=
  match act.during name world with
  | .error fault _ => ([], .fault fault)
  | .ok none _ => ([], .waiting)
  | .ok (some (.complete next, _)) world =>
    ([.yielded (.complete next) world.stopping], .complete next left reactions world)
  | .ok (some (.event event, traversal)) world =>
    match reactions with
    | [] => ([.yielded (.event event) world.stopping], .waiting)
    | reaction :: rest =>
      let (items, departure) := traverse name budget rest
        (Engine.pull call reaction.answer traversal) (reaction.apply world)
      (.yielded (.event event) world.stopping :: items, departure)
termination_by structural reactions

/-- A traversal is left with fewer reactions than it began with, or within its first pull. -/
theorem traverse_complete {name : Text} {left : Nat} {reactions : List (Reaction Host)}
    {act : Act Host (Option (Result × Traversal))} {world : World Host} {items : List Item}
    {next : Option Text} {remaining : Nat} {rest : List (Reaction Host)} {final : World Host}
    (done : traverse call budget name left reactions act world =
      (items, .complete next remaining rest final)) :
    rest.length < reactions.length ∨ rest = reactions ∧ remaining = left := by
  fun_induction traverse call budget name left reactions act world generalizing items with
  | case1 => simp at done
  | case2 => cases done
  | case3 =>
    cases done
    exact .inr ⟨rfl, rfl⟩
  | case4 => cases done
  | case5 left act world event traversal after pulled reaction tail others departure onward ih =>
    obtain ⟨-, rfl⟩ := Prod.mk.inj done
    obtain shorter | ⟨rfl, -⟩ := ih onward
    · exact .inl (Nat.lt_succ_of_lt shorter)
    · exact .inl (Nat.lt_succ_self _)

variable (nodes : NodeTable)

/-- The chain from a name on, where the pull under way may enter `left` more nodes. -/
def chain (left : Nat) (reactions : List (Reaction Host)) (name : Text) (world : World Host) :
    List Item :=
  match left with
  | 0 => [.exhausted]
  | left + 1 =>
    .reached name ::
      match nodes.get? name with
      | none => [.missing name]
      | some node =>
        match departed : traverse call budget node.name left reactions
          (Engine.pull call none (.fresh node)) (world.reach name) with
        | (items, .waiting) => items
        | (items, .fault fault) => items ++ [.failed fault]
        | (items, .complete none _ _ _) => items
        | (items, .complete (some next) left reactions world) =>
          items ++ chain left reactions next (world.visit node.name)
termination_by (reactions.length, left)
decreasing_by
  obtain shorter | ⟨rfl, rfl⟩ := traverse_complete call budget departed
  · exact Prod.Lex.left _ _ shorter
  · exact Prod.Lex.right _ (Nat.lt_succ_self _)

/-- The chain from a traversal on: its results, and what its departure leads to. -/
def chainFrom (node : Node) (leg : List Item × Departure Host) : List Item :=
  leg.1 ++
    match leg.2 with
    | .waiting => []
    | .fault fault => [.failed fault]
    | .complete none _ _ _ => []
    | .complete (some next) left reactions world =>
      chain call budget nodes left reactions next (world.visit node.name)

theorem chain_succ (left : Nat) (reactions : List (Reaction Host)) (name : Text)
    (world : World Host) :
    chain call budget nodes (left + 1) reactions name world =
      .reached name ::
        match nodes.get? name with
        | none => [.missing name]
        | some node =>
          chainFrom call budget nodes node (traverse call budget node.name left reactions
            (Engine.pull call none (.fresh node)) (world.reach name)) := by
  rw [chain]
  cases nodes.get? name with
  | none => rfl
  | some node =>
    dsimp only
    split
    next left => simp [chainFrom, left]
    next left => simp [chainFrom, left]
    next left => simp [chainFrom, left]
    next left => simp [chainFrom, left]

theorem chainFrom_failed (node : Node) (left : Nat) (reactions : List (Reaction Host))
    {act : Act Host (Option (Result × Traversal))} {world final : World Host} {fault : Fault}
    (failed : act.during node.name world = .error fault final) :
    chainFrom call budget nodes node (traverse call budget node.name left reactions act world) =
      [.failed fault] := by
  rw [traverse.eq_def, failed]
  rfl

/-- The chain from a result on is the chain from the next pull on. -/
theorem chainFrom_yielded (node : Node) (left : Nat) (reactions : List (Reaction Host))
    {act : Act Host (Option (Result × Traversal))} {world final : World Host} {result : Result}
    {traversal : Traversal}
    (pulled : act.during node.name world = .ok (some (result, traversal)) final) :
    chainFrom call budget nodes node (traverse call budget node.name left reactions act world) =
      .yielded result final.stopping ::
        match result, reactions with
        | .complete none, _ => []
        | .complete (some next), reactions =>
          chain call budget nodes left reactions next (final.visit node.name)
        | .event _, [] => []
        | .event _, reaction :: rest =>
          chainFrom call budget nodes node (traverse call budget node.name budget rest
            (Engine.pull call reaction.answer traversal) (reaction.apply final)) := by
  rw [traverse.eq_def, pulled]
  match result, reactions with
  | .complete none, _ => rfl
  | .complete (some next), _ => rfl
  | .event event, [] => rfl
  | .event event, reaction :: rest => rfl

end

/-! ### Cutting a chain -/

/-- How a run ends: at the command `stop`, broken off by the stop flag, at a name that no node has,
at a node that names no other, or at a fault. The budget of a pull may end before. -/
inductive Ending where
  | stopped
  | broken
  | missing
  | completed
  | failed (fault : Fault)
  | exhausted

/-- The ending that an item of a chain stands for, if it ends the run. The command `stop` comes
before the stop flag, and the stop flag before all that a result may be. -/
def Item.ending? : Item → Option Ending
  | .reached _ => none
  | .yielded result stopping =>
    if result = .event (.command Dialogue.stopCommand) then some .stopped
    else if stopping then some .broken
    else
      match result with
      | .complete none => some .completed
      | _ => none
  | .missing _ => some .missing
  | .failed fault => some (.failed fault)
  | .exhausted => some .exhausted

theorem Item.ending?_broken {result : Result}
    (other : result ≠ .event (.command Dialogue.stopCommand)) :
    (Item.yielded result true).ending? = some .broken := by
  rw [Item.ending?.eq_def]
  dsimp only
  rw [if_neg other, if_pos rfl]

theorem Item.ending?_event {event : Event}
    (other : Result.event event ≠ .event (.command Dialogue.stopCommand)) :
    (Item.yielded (.event event) false).ending? = none := by
  rw [Item.ending?.eq_def]
  dsimp only
  rw [if_neg other, if_neg nofun]

/-- The event that an item hands to the host. -/
def Item.event? : Item → Option Event
  | .yielded (.event event) _ => some event
  | _ => none

/-- The name that an item reaches. -/
def Item.name? : Item → Option Text
  | .reached name => some name
  | _ => none

/-- The phase of a dialogue at the end of a run. -/
def Ending.phase : Ending → Phase
  | .stopped | .completed => .completed
  | .broken | .missing | .failed _ => .aborted
  | .exhausted => .running

/-- What the host gets from the pull that meets the end of a run. -/
def Ending.yield : Ending → Except Fault Dialogue.Yield
  | .failed fault => .error fault
  | .exhausted => .ok .unfinished
  | _ => .ok .ended

/-- The yields of the pulls from the one on that meets the end of a run, each with the phase that it
leaves, where `later` more pulls follow. -/
def Ending.yields (later : Nat) : Ending → List (Except Fault Dialogue.Yield × Phase)
  | .exhausted => [(.ok .unfinished, .running)]
  | ending => (ending.yield, ending.phase) :: List.replicate later (.ok .ended, ending.phase)

/-- The last message to the debug sink, which a run is sent off with where its last node names no
other. -/
def Ending.farewell : Ending → List Text
  | .completed => ["Run complete."]
  | _ => []

namespace Chain

/-- The items before the first that ends the run. -/
def cut (items : List Item) : List Item := items.takeWhile fun item => item.ending?.isNone

/-- The ending of the first item that ends the run. -/
def ending? (items : List Item) : Option Ending := items.findSome? Item.ending?

/-- The events before the end of the run. -/
def events (items : List Item) : List Event := (cut items).filterMap Item.event?

/-- The names reached before the end of the run. -/
def names (items : List Item) : List Text := (cut items).filterMap Item.name?

/-- The yields of a first pull and `later` more, each with the phase that it leaves: the events
before the end of the run, and from there on what its ending says. -/
def yields (later : Nat) (items : List Item) : List (Except Fault Dialogue.Yield × Phase) :=
  (events items).map (fun event => (.ok (.event event), .suspended)) ++
    match ending? items with
    | none => []
    | some ending => ending.yields (later - (events items).length)

/-- The messages to the debug sink: one for every name that was reached, and one more where the last
node names no other. -/
def messages (items : List Item) : List Text :=
  (names items).map (fun name => ("Running node " ++ name : Text)) ++
    match ending? items with
    | none => []
    | some ending => ending.farewell

variable {item : Item} {ending : Ending} (items : List Item)

theorem cut_pass (pass : item.ending? = none) : cut (item :: items) = item :: cut items := by
  simp [cut, pass]

theorem cut_end (ends : item.ending? = some ending) : cut (item :: items) = [] := by
  simp [cut, ends]

theorem ending?_pass (pass : item.ending? = none) : ending? (item :: items) = ending? items := by
  simp [ending?, pass]

theorem ending?_end (ends : item.ending? = some ending) :
    ending? (item :: items) = some ending := by
  simp [ending?, ends]

theorem yields_event (later : Nat) {event : Event} (pass : item.ending? = none)
    (shown : item.event? = some event) :
    yields later (item :: items) =
      (.ok (.event event), .suspended) :: yields (later - 1) items := by
  have one : events (item :: items) = event :: events items := by
    rw [events, cut_pass items pass, List.filterMap_cons_some shown, events]
  rw [yields, yields, one, ending?_pass items pass, List.length_cons, Nat.sub_sub,
    Nat.add_comm 1]
  rfl

theorem yields_pass (later : Nat) (pass : item.ending? = none) (silent : item.event? = none) :
    yields later (item :: items) = yields later items := by
  simp [yields, events, cut_pass items pass, ending?_pass items pass, silent]

theorem yields_end (later : Nat) (ends : item.ending? = some ending) :
    yields later (item :: items) = ending.yields later := by
  simp [yields, events, cut_end items ends, ending?_end items ends]

theorem messages_reached (name : Text) :
    messages (.reached name :: items) = ("Running node " ++ name) :: messages items := by
  have pass : (Item.reached name).ending? = none := rfl
  simp [messages, names, cut_pass items pass, ending?_pass items pass, Item.name?]

theorem messages_pass (pass : item.ending? = none) (nameless : item.name? = none) :
    messages (item :: items) = messages items := by
  simp [messages, names, cut_pass items pass, ending?_pass items pass, nameless]

theorem messages_end (ends : item.ending? = some ending) :
    messages (item :: items) = ending.farewell := by
  simp [messages, names, cut_end items ends, ending?_end items ends]

end Chain

/-! ### A run is its chain, cut -/

namespace Dialogue

/-- A course of a first pull and `later` more agrees with a chain: the yields are those of the chain
that is cut, and the debug sink was sent the messages of the chain behind those it was sent
before. -/
structure Agrees (later : Nat) (told : List Text) (items : List Item) (course : List (Sight Host)) :
    Prop where
  yields : course.map (fun sight => (sight.1, sight.2.phase)) = Chain.yields later items
  told : course.getLast?.map (fun sight => sight.2.world.told .debugSink) =
    some (told ++ Chain.messages items)

theorem map_afterwards (reactions : List (Reaction Host)) (dialogue : Dialogue Host) :
    (afterwards reactions dialogue).map (fun sight => (sight.1, sight.2.phase)) =
      List.replicate reactions.length (.ok .ended, dialogue.phase) := by
  induction reactions generalizing dialogue with
  | nil => rfl
  | cons reaction rest ih =>
    rw [afterwards, List.map_cons, ih, List.length_cons, List.replicate_succ]
    rfl

theorem told_afterwards (channel : Channel) (reactions : List (Reaction Host))
    (yield : Except Fault Yield) (dialogue : Dialogue Host) :
    (((yield, dialogue) :: afterwards reactions dialogue).getLast?).map
        (fun sight => sight.2.world.told channel) =
      some (dialogue.world.told channel) := by
  induction reactions generalizing dialogue yield with
  | nil => rfl
  | cons reaction rest ih =>
    rw [afterwards, List.getLast?_cons_cons, ih]
    rfl

namespace Agrees

variable {later : Nat} {told : List Text} {items : List Item} {course : List (Sight Host)}
  {item : Item}

theorem reached {name : Text}
    (agrees : Agrees later (told ++ ["Running node " ++ name]) items course) :
    Agrees later told (.reached name :: items) course where
  yields := agrees.yields.trans (Chain.yields_pass items later rfl rfl).symm
  told := by
    rw [agrees.told, Chain.messages_reached, List.append_assoc]
    rfl

theorem pass {result : Result} {stopping : Bool}
    (silent : (Item.yielded result stopping).event? = none)
    (pass : (Item.yielded result stopping).ending? = none)
    (agrees : Agrees later told items course) :
    Agrees later told (.yielded result stopping :: items) course where
  yields := agrees.yields.trans (Chain.yields_pass items later pass silent).symm
  told := by rw [agrees.told, Chain.messages_pass items pass rfl]

theorem event {event : Event} {stopping : Bool} {dialogue : Dialogue Host}
    (suspended : dialogue.phase = .suspended)
    (pass : (Item.yielded (.event event) stopping).ending? = none)
    (agrees : Agrees later told items course) :
    Agrees (later + 1) told (.yielded (.event event) stopping :: items)
      ((.ok (.event event), dialogue) :: course) where
  yields := by
    rw [Chain.yields_event items _ pass rfl, Nat.add_sub_cancel, ← agrees.yields, List.map_cons,
      suspended]
  told := by
    rw [Chain.messages_pass items pass rfl, ← agrees.told]
    cases course with
    | nil =>
      have none := agrees.told
      cases none
    | cons sight rest => rw [List.getLast?_cons_cons]

theorem waiting {event : Event} {stopping : Bool} (dialogue : Dialogue Host)
    (suspended : dialogue.phase = .suspended)
    (pass : (Item.yielded (.event event) stopping).ending? = none) :
    Agrees 0 (dialogue.world.told .debugSink) [.yielded (.event event) stopping]
      [(.ok (.event event), dialogue)] where
  yields := by
    rw [Chain.yields_event [] 0 pass rfl, List.map_singleton, suspended]
    rfl
  told := by
    rw [Chain.messages_pass [] pass rfl]
    exact congrArg some (List.append_nil _).symm

theorem ends (ending : Ending) {reactions : List (Reaction Host)} {dialogue : Dialogue Host}
    (ends : item.ending? = some ending) (final : ending ≠ .exhausted)
    (phase : dialogue.phase = ending.phase)
    (said : dialogue.world.told .debugSink = told ++ ending.farewell) :
    Agrees reactions.length told (item :: items)
      ((ending.yield, dialogue) :: afterwards reactions dialogue) where
  yields := by
    rw [Chain.yields_end items _ ends, List.map_cons, map_afterwards, phase]
    cases ending with
    | exhausted => exact absurd rfl final
    | _ => rfl
  told := by rw [told_afterwards, said, Chain.messages_end items ends]

theorem exhausted (dialogue : Dialogue Host) (running : dialogue.phase = .running) :
    Agrees later (dialogue.world.told .debugSink) [.exhausted] [(.ok .unfinished, dialogue)] where
  yields := by
    rw [Chain.yields_end [] later rfl, List.map_singleton, running]
    rfl
  told := by
    rw [Chain.messages_end [] rfl]
    exact congrArg some (List.append_nil _).symm

end Agrees

theorem told_ended (phase : Phase) (dialogue : Dialogue Host) :
    (dialogue.ended phase).world.told .debugSink = dialogue.world.told .debugSink :=
  dialogue.world.told_elsewhere .debugSink (.runFinished phase dialogue.world.current) nofun

section

variable (budget : Nat) {base : Dialogue Host} (heard : base.Heard)

include heard

mutual

/-- Going on with the node of a name agrees with the chain from that name on. -/
theorem agrees_follow (left : Nat) (reactions : List (Reaction Host)) (offers : List Offer)
    (name : Text) (world : World Host) :
    Agrees reactions.length (world.told .debugSink)
      (chain (base.shelf.call home) budget base.nodes left reactions name world)
      (courseAfter budget offers reactions
        (follow left (some name) { base with world, phase := .running })) := by
  cases left with
  | zero =>
    rw [chain]
    exact Agrees.exhausted { base with world, phase := .running } rfl
  | succ left =>
    have told : (world.reach name).told .debugSink =
        world.told .debugSink ++ ["Running node " ++ name] := World.told_note _ _ _
    rw [chain_succ, follow_some left name (by exact heard)]
    apply Agrees.reached
    rw [← told]
    dsimp only
    cases base.nodes.get? name with
    | none =>
      refine Agrees.ends .missing rfl nofun rfl ?_
      rw [told_ended]
      exact World.told_note _ _ _
    | some node =>
      exact agrees_proceed left reactions offers node none (.fresh node) (world.reach name) nofun
termination_by (reactions.length, left, 0)

/-- Going on inside a node agrees with the chain from there on. -/
theorem agrees_proceed (left : Nat) (reactions : List (Reaction Host)) (offers : List Offer)
    (node : Node) (chosen : Option Nat) (traversal : Traversal) (world : World Host)
    (ongoing : traversal ≠ .ended) :
    Agrees reactions.length (world.told .debugSink)
      (chainFrom (base.shelf.call home) budget base.nodes node
        (traverse (base.shelf.call home) budget node.name left reactions
          (Engine.pull (base.shelf.call home) chosen traversal) world))
      (courseAfter budget offers reactions
        (proceed left node chosen traversal { base with world, phase := .running })) := by
  have quiet := told_during_pull .debugSink nofun base.shelf node.name chosen
    traversal world
  rw [Act.after] at quiet
  rw [proceed_apply]
  dsimp only
  cases pulled : (Engine.pull (base.shelf.call home) chosen traversal).during node.name world with
  | error fault final =>
    rw [pulled] at quiet
    rw [chainFrom_failed _ _ _ _ _ _ pulled]
    refine Agrees.ends (.failed fault) rfl nofun rfl ?_
    rw [told_ended, ← quiet]
    exact (List.append_nil _).symm
  | ok answer final =>
    rw [pulled] at quiet
    match answer with
    | none =>
      obtain ⟨_, nothing⟩ := Act.during_eq_ok pulled
      exact absurd (Engine.pull_eq_none _ nothing) ongoing
    | some (result, onward) =>
      rw [chainFrom_yielded _ _ _ _ _ _ pulled, ← quiet]
      dsimp only
      by_cases stop : result = .event (.command stopCommand)
      · rw [if_pos stop]
        refine Agrees.ends .stopped (if_pos stop) nofun rfl ?_
        rw [told_ended]
        exact (List.append_nil _).symm
      · rw [if_neg stop]
        by_cases stopping : final.stopping = true
        · rw [if_pos stopping]
          refine Agrees.ends .broken ?_ nofun rfl ?_
          · rw [stopping]
            exact Item.ending?_broken stop
          · rw [told_ended]
            exact (List.append_nil _).symm
        · rw [if_neg stopping, eq_false_of_ne_true stopping]
          match result with
          | .complete none =>
            dsimp only
            rw [follow_none left (by exact heard)]
            refine Agrees.ends .completed rfl nofun rfl ?_
            rw [told_ended, ← World.told_visit .debugSink final node.name]
            exact World.told_note _ _ _
          | .complete (some next) =>
            refine Agrees.pass rfl rfl ?_
            rw [← World.told_visit .debugSink final node.name]
            exact agrees_follow left reactions offers next (final.visit node.name)
          | .event event =>
            have pass := Item.ending?_event stop
            cases reactions with
            | nil =>
              exact Agrees.waiting { base with world := final, phase := .suspended } rfl pass
            | cons reaction rest =>
              obtain ⟨_, yielded⟩ := Act.during_eq_ok pulled
              have follows := Engine.follows_pull _ yielded
              refine Agrees.event rfl pass ?_
              dsimp only
              rw [Run.respond_eq, course_eq, resume_inside, proceed_answered _ _ _ follows]
              exact agrees_proceed budget rest _ node reaction.answer onward
                (reaction.apply final) (follows.ne_ended nofun)
termination_by (reactions.length, left, 1)

end

end

/-- A run is its chain, cut. From the first pull of a run that was begun, for every host and every
number of pulls, each pull yields what the chain of traversals from the start has at its place
before the first item that ends the run, and leaves the dialogue in the phase that belongs to it;
the messages to the debug sink since the beginning are those of the chain. -/
theorem course_run {start : Text} {dialogue started : Dialogue Host} {run : Run}
    (began : Dialogue.run start dialogue = .ok run started) (budget : Nat) (first : Reaction Host)
    (reactions : List (Reaction Host)) :
    let items := chain (started.shelf.call home) budget started.nodes budget reactions start
      (first.apply started.world)
    let sights := course budget reactions run (started.changeWorld first.apply)
    sights.map (fun sight => (sight.1, sight.2.phase)) = Chain.yields reactions.length items ∧
      sights.getLast?.map (fun sight => sight.2.world.told .debugSink) =
        some (started.world.told .debugSink ++ Chain.messages items) := by
  obtain ⟨rfl, heard, world, rfl⟩ := run_eq_ok began
  have agrees := agrees_follow budget heard budget reactions [] start (first.apply world)
  dsimp only
  rw [course_eq]
  exact ⟨agrees.yields, agrees.told⟩

/-- A dialogue of one node. -/
def solo (body : List Statement) : Dialogue Unit :=
  { new Roster.empty () true true with nodes := Roster.ofList [⟨"A", body, []⟩] }

/-- A run of a single line yields the line, and is complete behind it. -/
theorem course_run_solo :
    ∃ run started, Dialogue.run "A" (solo [.say "Hello."]) = .ok run started ∧
      (course 8 [{}, {}] run started).map (fun sight => (sight.1, sight.2.phase)) =
        [(.ok (.event (.line "Hello.")), .suspended), (.ok .ended, .completed),
          (.ok .ended, .completed)] ∧
      (course 8 [{}, {}] run started).getLast?.map
          (fun sight => sight.2.world.told .debugSink) =
        some [("Running node A" : Text), "Run complete."] := by
  obtain ⟨yields, told⟩ :=
    course_run (rfl : Dialogue.run "A" (solo [.say "Hello."]) = .ok _ _) 8 {} [{}, {}]
  rw [chain_succ] at yields told
  refine ⟨_, _, rfl, yields.trans ?_, told.trans ?_⟩
  · cbv
  · cbv

/-- The command `stop` completes a run that a failed assertion would have broken off. -/
example :
    (pull 8 { stage := .unstarted "A" }
      (solo [.evaluate (.call "assert" [.literal (.bool false)]), .command "stop"])).2.2.phase =
      .completed := by
  cbv

end Dialogue

end Parley
