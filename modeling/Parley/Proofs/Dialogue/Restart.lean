/-
This file settles what a run that was replaced can still do to the run that has taken
its place. A host that begins a run again may hold on to the earlier one, which waits at
an event, and give it up at any later time. The phase of the dialogue is then written as
if the earlier run were the only one.

No run reads the phase, and a pull that finds anything to do writes it. So what the
earlier run wrote is to be seen until the next such pull and at no other time, and in
nothing but the phase.
-/

import Parley.Proofs.Dialogue.Pairing

namespace Parley

variable {Host : Type}

/-! ### Pulls and the phase -/

namespace Dialogue

/-- What a run comes to when it goes on does not depend on the phase, and unless it goes on for
longer than its budget, neither does what it leaves behind. -/
def Phaseless (operation : Operation Host Pulled) (dialogue : Dialogue Host) (phase : Phase) :
    Prop :=
  (∃ left left', guarded operation dialogue = .ok .unfinished left ∧
    guarded operation { dialogue with phase } = .ok .unfinished left') ∨
  guarded operation { dialogue with phase } = guarded operation dialogue

theorem phaseless_proceed {dialogue : Dialogue Host} {phase : Phase} {budget : Nat}
    (onward : ∀ world next, Phaseless (follow budget next) { dialogue with world } phase)
    (node : Node) (chosen : Option Nat) {traversal : Traversal} (ongoing : traversal ≠ .ended) :
    Phaseless (proceed budget node chosen traversal) dialogue phase := by
  rw [Phaseless, guarded_apply, guarded_apply, proceed_apply, proceed_apply]
  dsimp only
  cases pulled : (Engine.pull (dialogue.shelf.call home) chosen traversal).during node.name
      dialogue.world with
  | error fault world => exact .inr rfl
  | ok answer world =>
    cases answer with
    | none =>
      obtain ⟨between, nothing⟩ := Act.during_eq_ok pulled
      exact absurd (Engine.pull_eq_none _ nothing) ongoing
    | some answer =>
      dsimp only
      by_cases stop : answer.1 = .event (.command stopCommand)
      · rw [if_pos stop, if_pos stop]
        exact .inr rfl
      · rw [if_neg stop, if_neg stop]
        by_cases stopping : world.stopping = true
        · rw [if_pos stopping, if_pos stopping]
          exact .inr rfl
        · rw [if_neg stopping, if_neg stopping]
          obtain ⟨result, onwards⟩ := answer
          cases result with
          | event event => exact .inr rfl
          | complete next => exact onward (world.visit node.name) next

theorem phaseless_follow {dialogue : Dialogue Host} (heard : dialogue.Heard) (phase : Phase)
    (budget : Nat) (next : Option Text) : Phaseless (follow budget next) dialogue phase := by
  induction budget generalizing next dialogue with
  | zero =>
    cases next with
    | none =>
      rw [Phaseless, guarded_apply, guarded_apply, follow_none 0 heard,
        follow_none 0 (by exact heard)]
      exact .inr rfl
    | some name => exact .inl ⟨_, _, rfl, rfl⟩
  | succ budget ih =>
    cases next with
    | none =>
      rw [Phaseless, guarded_apply, guarded_apply, follow_none _ heard,
        follow_none _ (by exact heard)]
      exact .inr rfl
    | some name =>
      rw [Phaseless, guarded_apply, guarded_apply, follow_some budget name heard,
        follow_some budget name (by exact heard)]
      cases dialogue.nodes.get? name with
      | none => exact .inr rfl
      | some node =>
        have entered : Phaseless (proceed budget node none (.fresh node))
            (dialogue.changeWorld (·.reach name)) phase :=
          phaseless_proceed (fun world next => ih (by exact heard) next) node none (by rintro ⟨⟩)
        exact entered

/-- Unless the run is over, a pull that ends within its budget leaves a phase of its own. -/
theorem phaseless_resume {dialogue : Dialogue Host} (heard : dialogue.Heard) (phase : Phase)
    (budget : Nat) (chosen : Option Nat) {stage : Stage} (goesOn : stage ≠ .ended) :
    Phaseless (resume budget chosen stage) dialogue phase := by
  cases stage with
  | unstarted start => exact phaseless_follow heard phase budget (some start)
  | inside node traversal => exact .inr rfl
  | ended => exact absurd rfl goesOn

end Dialogue

theorem Accord.unfinished {pairing : Pairing Host}
    {states : Dialogue Host → Dialogue Host → Prop} {left' : Dialogue Host}
    {outcome : EStateM.Result Fault (Dialogue Host) Pulled}
    (accord : Accord pairing.Pulls states outcome (.ok .unfinished left')) :
    ∃ left, outcome = .ok .unfinished left := by
  cases accord with
  | ok pulls related =>
    cases pulls
    exact ⟨_, rfl⟩

namespace Hosting

/-! ### Requests and the phase -/

/-- A host whose dialogue is in another phase. -/
def inPhase (phase : Phase) (hosting : Hosting Host) : Hosting Host :=
  { hosting with dialogue := { hosting.dialogue with phase } }

/-- The run that was begun last is not over. -/
def GoesOn (hosting : Hosting Host) : Prop := ∃ run, hosting.run = some run ∧ run.stage ≠ .ended

/-- A host that gives up some other run than the one it began last. -/
def discard (discarded : Run) (hosting : Hosting Host) : Hosting Host :=
  { hosting with dialogue := (Dialogue.close discarded hosting.dialogue).2 }

/-- A request that neither writes the phase nor looks at it. -/
def Idle (hosting : Hosting Host) : Request Host → Prop
  | .errand made => made.loads = false
  | .choose _ _ => True
  | .pull _ => ¬ hosting.GoesOn
  | .run _ | .close => False

/-- What an idle request leads to, in every phase. -/
structure Passes (hosting : Hosting Host) (request : Request Host) (next : Hosting Host) :
    Prop where
  led : ∀ phase, (hosting.inPhase phase).after? request = some (next.inPhase phase)
  phase : next.dialogue.phase = hosting.dialogue.phase
  goesOn : next.GoesOn ↔ hosting.GoesOn

theorem Passes.after? {hosting next : Hosting Host} {request : Request Host}
    (passes : hosting.Passes request next) : hosting.after? request = some next := by
  have same : next.inPhase hosting.dialogue.phase = next := by
    rw [← passes.phase]
    rfl
  rw [← same]
  exact passes.led hosting.dialogue.phase

theorem Idle.passes {hosting : Hosting Host} {request : Request Host}
    (idle : hosting.Idle request) : ∃ next, hosting.Passes request next := by
  cases request with
  | errand made =>
    refine ⟨{ hosting with dialogue := made.after hosting.dialogue }, ?_, ?_, Iff.rfl⟩
    · intro phase
      cases made with
      | loadNodes nodes strict => cases idle
      | loadScript script strict => cases idle
      | _ => rfl
    · exact (made.spares hosting.dialogue).phase
  | run start => cases idle
  | close => cases idle
  | choose place index =>
    obtain ⟨dialogue, run, touches, moments, told⟩ := hosting
    cases run with
    | none => exact ⟨_, fun _ => rfl, rfl, Iff.rfl⟩
    | some run =>
      cases chose : run.choose place index with
      | ok answered =>
        refine ⟨⟨dialogue, some answered, touches, moments, told⟩, fun phase => ?_, rfl, ?_⟩
        · simp only [inPhase, after?, chose]
        · simp only [GoesOn, Option.some.injEq, exists_eq_left', Run.stage_choose chose]
      | error fault =>
        refine ⟨⟨dialogue, some run, touches, moments, told⟩, fun phase => ?_, rfl, Iff.rfl⟩
        simp only [inPhase, after?, chose]
  | pull budget =>
    obtain ⟨dialogue, run, touches, moments, told⟩ := hosting
    cases run with
    | none => exact ⟨_, fun _ => rfl, rfl, Iff.rfl⟩
    | some run =>
      have spent : run.stage = .ended :=
        Classical.byContradiction fun goesOn => idle ⟨run, rfl, goesOn⟩
      refine ⟨⟨dialogue, some run, touches ++ [.pulled (.ok .ended)], moments, told⟩,
        fun phase => ?_, rfl, Iff.rfl⟩
      have nothing (dialogue : Dialogue Host) : Dialogue.moments budget run dialogue = [] := by
        rw [Dialogue.moments, spent]
      simp only [inPhase, after?, Dialogue.pull_spent budget spent, nothing, List.append_nil]

/-! ### A phase that was written over -/

/-- Two hosts that did the same, where the phase of the one dialogue has been written over and is to
be told from the other in nothing else but the log. -/
structure Disturbed (alone disturbed : Hosting Host) : Prop where
  same : ∃ phase, (Pairing.alike World.SameButLog).Hostings alone (disturbed.inPhase phase)
  phase : disturbed.dialogue.phase = .completed
  ready : disturbed.Ready

/-- An idle request leaves the phase as it was written. -/
theorem Disturbed.idle {alone disturbed : Hosting Host} (differ : alone.Disturbed disturbed)
    {request : Request Host} (idle : disturbed.Idle request) :
    Option.Rel (fun alone next => alone.Disturbed next ∧ (next.GoesOn ↔ disturbed.GoesOn))
      (alone.after? request) (disturbed.after? request) := by
  obtain ⟨next, passes⟩ := idle.passes
  obtain ⟨phase, same⟩ := differ.same
  have stays : request.stays = true := by
    cases request with
    | errand made =>
      have keeps : made.loads = false := idle
      rw [Request.stays, keeps]
      rfl
    | run start => cases idle
    | _ => rfl
  have onward := same.after? (Pairing.sound_alike World.SameButLog.indistinct) rfl stays
  rw [passes.led phase] at onward
  rw [passes.after?]
  generalize alone.after? request = outcome at onward ⊢
  cases onward with
  | some same =>
    exact .some ⟨⟨⟨phase, same⟩, passes.phase.trans differ.phase,
      (differ.ready.step passes.after?).ready differ.ready⟩, passes.goesOn⟩

theorem after?_unfinished {hosting : Hosting Host} {run : Run} {budget : Nat}
    {left : Dialogue Host} (latest : hosting.run = some run)
    (unfinished : Dialogue.guarded
      (Dialogue.resume budget (Offer.latest? run.offers) run.stage) hosting.dialogue =
        .ok .unfinished left) : hosting.after? (.pull budget) = none := by
  rw [after?, latest]
  dsimp only
  rw [Dialogue.pull, unfinished]

/-- A pull of a run that goes on makes up for what was written. -/
theorem Disturbed.pull {alone disturbed : Hosting Host} (differ : alone.Disturbed disturbed)
    (goesOn : disturbed.GoesOn) (budget : Nat) :
    Option.Rel (Pairing.alike World.SameButLog).Hostings (alone.after? (.pull budget))
      (disturbed.after? (.pull budget)) := by
  obtain ⟨phase, same⟩ := differ.same
  obtain ⟨run, latest, goesOn⟩ := goesOn
  have latest' : alone.run = some run := same.run_eq.trans latest
  have sound : (Pairing.alike (@World.SameButLog Host)).Sound :=
    Pairing.sound_alike World.SameButLog.indistinct
  have goes : Accord _ _ (Dialogue.guarded
        (Dialogue.resume budget (Offer.latest? run.offers) run.stage) alone.dialogue)
      (Dialogue.guarded (Dialogue.resume budget (Offer.latest? run.offers) run.stage)
        { disturbed.dialogue with phase }) :=
    Pairing.Dialogues.guarded sound
      (same.dialogue.resume sound budget _ (Pairing.stages_alike run.stage))
  obtain ⟨left, left', unfinished, unfinished'⟩ | same' :=
    Dialogue.phaseless_resume (differ.ready.heard run latest) phase budget
      (Offer.latest? run.offers) goesOn
  · rw [after?_unfinished latest unfinished]
    rw [unfinished'] at goes
    obtain ⟨left, unfinished⟩ := goes.unfinished
    rw [after?_unfinished latest' unfinished]
    exact .none
  · refine Pairing.Hostings.pulled latest' latest rfl same.touches ?_
    rw [← same']
    exact goes

/-- What the host sees of a run that another run may have disturbed: the same as without the other
run, but for the phase, which is the one that the other run has written until the run has been
pulled. -/
structure Undisturbed (pulled : Prop) (alone disturbed : Hosting Host) : Prop where
  run : disturbed.run = alone.run
  touches : disturbed.touches = alone.touches
  world : alone.dialogue.world.SameButLog disturbed.dialogue.world
  phase : pulled → disturbed.dialogue.phase = alone.dialogue.phase
  meanwhile : ¬ pulled → disturbed.dialogue.phase = .completed

/-- Where nothing is disturbed any more, nothing will be. -/
theorem undisturbed_requests {alone disturbed : Hosting Host}
    (same : (Pairing.alike World.SameButLog).Hostings alone disturbed)
    {requests : List (Request Host)} (stays : ∀ request ∈ requests, request.stays = true)
    {pulled : Prop} (was : pulled) :
    Option.Rel (Undisturbed pulled) (requests.foldlM after? alone)
      (requests.foldlM after? disturbed) := by
  have sound : (Pairing.alike (@World.SameButLog Host)).Sound :=
    Pairing.sound_alike World.SameButLog.indistinct
  refine rel_mono (same.requests sound rfl stays) fun alone disturbed same => ?_
  exact ⟨same.run_eq.symm, same.touches.symm, same.dialogue.world,
    fun _ => same.dialogue.phase.symm, fun never => absurd was never⟩

theorem Disturbed.requests {alone disturbed : Hosting Host} (differ : alone.Disturbed disturbed)
    {requests : List (Request Host)}
    (keeps : ∀ request ∈ requests, request.stays = true ∧ request ≠ .close) :
    Option.Rel (Undisturbed (disturbed.GoesOn ∧ ∃ budget, .pull budget ∈ requests))
      (requests.foldlM after? alone) (requests.foldlM after? disturbed) := by
  induction requests generalizing alone disturbed with
  | nil =>
    obtain ⟨phase, same⟩ := differ.same
    exact .some ⟨same.run_eq.symm, same.touches.symm, same.dialogue.world,
      fun pulled => by simpa using pulled.2, fun _ => differ.phase⟩
  | cons request rest ih =>
    have keepsRest : ∀ request ∈ rest, request.stays = true ∧ request ≠ .close :=
      fun request member => keeps request (List.mem_cons_of_mem _ member)
    rw [List.foldlM_cons, List.foldlM_cons]
    by_cases pulls : disturbed.GoesOn ∧ ∃ budget, request = .pull budget
    · obtain ⟨goesOn, budget, rfl⟩ := pulls
      have first := differ.pull goesOn budget
      generalize alone.after? (.pull budget) = next at first ⊢
      generalize disturbed.after? (.pull budget) = next' at first ⊢
      cases first with
      | none => exact .none
      | some same =>
        exact undisturbed_requests same (fun request member => (keepsRest request member).1)
          ⟨goesOn, budget, List.mem_cons_self⟩
    · have idle : disturbed.Idle request := by
        obtain ⟨stays, stands⟩ := keeps request List.mem_cons_self
        cases request with
        | errand made =>
          have loadless : made.loads = false := by simpa [Request.stays] using stays
          exact loadless
        | run start => cases stays
        | pull budget => exact fun goesOn => pulls ⟨goesOn, budget, rfl⟩
        | choose place index => trivial
        | close => exact absurd rfl stands
      have first := differ.idle idle
      generalize alone.after? request = next at first ⊢
      generalize disturbed.after? request = next' at first ⊢
      cases first with
      | none => exact .none
      | @some _ next' differ =>
        obtain ⟨differ, goesOn⟩ := differ
        -- The request in front was not the pull that makes up for the phase.
        have later : (next'.GoesOn ∧ ∃ budget, .pull budget ∈ rest) ↔
            (disturbed.GoesOn ∧ ∃ budget, .pull budget ∈ request :: rest) := by
          rw [goesOn]
          refine and_congr_right fun goesOn => exists_congr fun budget => ?_
          rw [List.mem_cons, or_iff_right]
          rintro rfl
          exact pulls ⟨goesOn, budget, rfl⟩
        rw [← propext later]
        exact ih differ keepsRest

/-- Giving up a run that waits writes the phase and the log, and nothing else. -/
theorem Ready.disturbed {hosting : Hosting Host} (ready : hosting.Ready) {discarded : Run}
    {node : Node} {traversal : Traversal} (waits : discarded.stage = .inside node traversal) :
    hosting.Disturbed (hosting.discard discarded) := by
  have closed : (Dialogue.close discarded hosting.dialogue).2 =
      hosting.dialogue.ended .completed := by
    rw [Dialogue.close, waits]
    rfl
  rw [discard, closed]
  have logged : hosting.dialogue.world.SameButLog
      (hosting.dialogue.world.note (.runFinished .completed hosting.dialogue.world.current)) :=
    World.SameButLog.logged (.refl _) rfl
  exact ⟨⟨hosting.dialogue.phase, Pairing.hostings_alike logged⟩, rfl, ready.heard, ready.ongoing⟩

/-- A run that was replaced disturbs nothing but the phase. Let a run have begun, whatever the
dialogue, and let the host give up, at any time after that, another run that waits at an event, such
as the one that was going on before. Then all that is pulled out of the run from there on, where it
stands, and everything that it changes, with what the sinks are told, is the same as without the
other run. The phase is `completed` until the run is pulled, unless it is over, and the same from
then on. -/
theorem discarded_run_disturbs_only_phase {dialogue started : Dialogue Host} {start : Text}
    {run discarded : Run} {node : Node} {traversal : Traversal}
    (waits : discarded.stage = .inside node traversal)
    (began : Dialogue.run start dialogue = .ok run started) (before : List (Request Host))
    {hosting : Hosting Host} (reached : before.foldlM after? (.begun run started) = some hosting)
    {requests : List (Request Host)}
    (keeps : ∀ request ∈ requests, request.stays = true ∧ request ≠ .close) :
    Option.Rel (Undisturbed (hosting.GoesOn ∧ ∃ budget, .pull budget ∈ requests))
      (requests.foldlM after? hosting)
      (requests.foldlM after? (hosting.discard discarded)) := by
  have ready := ready_behind (ready_begun began) reached
  have rest := (ready.disturbed waits).requests keeps
  exact rest

end Hosting

/-- A run that waits at its only line, and its dialogue. -/
def Dialogue.greeted : Run × Dialogue Unit :=
  (pull 8 { stage := .unstarted "A" } ((solo [.say "Hello."]).begun "A")).2

/-- The dialogue when the host has begun a run again. -/
def Hosting.greetedAgain : Hosting Unit :=
  .begun { stage := .unstarted "A" } (Dialogue.greeted.2.begun "A")

theorem Hosting.discarded_run_disturbs_only_phase_greeted :
    greetedAgain.GoesOn ∧
      Option.Rel (Undisturbed True) ([Request.pull 8].foldlM after? greetedAgain)
        ([Request.pull 8].foldlM after? (greetedAgain.discard Dialogue.greeted.1)) := by
  have goesOn : greetedAgain.GoesOn := ⟨_, rfl, nofun⟩
  have began : Dialogue.run "A" Dialogue.greeted.2 =
      .ok { stage := .unstarted "A" } greetedAgain.dialogue := by cbv
  have keeps : ∀ request ∈ [(.pull 8 : Request Unit)],
      request.stays = true ∧ request ≠ .close := by
    simp [Request.stays]
  have waits : Dialogue.greeted.1.stage =
      .inside ⟨"A", [.say "Hello."], []⟩ (.within "A" []) := by cbv
  have reached : [].foldlM after? (begun { stage := .unstarted "A" } greetedAgain.dialogue) =
      some greetedAgain := rfl
  have rest := discarded_run_disturbs_only_phase waits began [] reached keeps
  have pulled : greetedAgain.GoesOn ∧ ∃ budget, .pull budget ∈ [(.pull 8 : Request Unit)] :=
    ⟨goesOn, 8, List.mem_cons_self⟩
  rw [eq_true pulled] at rest
  exact ⟨goesOn, rest⟩

/-- A run that waits, when it is given up late, completes the dialogue of the run that has taken its
place. -/
theorem Hosting.completed_by_discarded_run :
    Dialogue.greeted.2.phase = .suspended ∧
      Dialogue.run "A" Dialogue.greeted.2 =
        .ok { stage := .unstarted "A" } greetedAgain.dialogue ∧
      greetedAgain.dialogue.phase = .running ∧
      (greetedAgain.discard Dialogue.greeted.1).dialogue.phase = .completed := by
  refine ⟨by cbv, by cbv, by cbv, by cbv⟩

end Parley
