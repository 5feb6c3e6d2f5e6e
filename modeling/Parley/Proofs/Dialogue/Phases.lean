/-
This file settles the phases of a dialogue. The phase is written where a run
begins, where a pull goes on, where it comes to an event and where a run ends; the
host sees none of this but what it did with the run itself. So the phase is read
off the touches of the run: nothing done yet, the last pull came to an event, or
something has ended the run.

What the invariant compares is the place of the run, which says what a pull or
giving up can still do, with the touches, and both with the phase.
-/

import Parley.Proofs.Dialogue.Hosting

namespace Parley

variable {Host : Type}

/-! ### Touches and complaints -/

/-- What the host did has left the run waiting at an event. -/
def Touch.Waits (touch : Touch) : Prop := ∃ event, touch = .pulled (.ok (.event event))

/-- What the error sink is told when a run has gone through moments: which name was missing, if it
ended at one. -/
def complaints (moments : List (Moment Host)) : List Text :=
  match moments.getLast? with
  | some (.missing name) => [(Note.tellMissing name).message]
  | _ => []

/-- Behind moments without a complaint only later ones count. -/
theorem complaints_append {before : List (Moment Host)} (none : complaints before = [])
    (moments : List (Moment Host)) : complaints (before ++ moments) = complaints moments := by
  cases moments with
  | nil => rw [List.append_nil, none, complaints, List.getLast?_nil]
  | cons moment rest =>
    have last : (before ++ moment :: rest).getLast? = (moment :: rest).getLast? := by
      rw [List.getLast?_append, List.getLast?_cons, Option.some_or]
    rw [complaints, complaints, last]

theorem complaints_cons (bout : Bout Host) (moments : List (Moment Host)) :
    complaints (.bout bout :: moments) = complaints moments :=
  complaints_append (show complaints [.bout bout] = [] from rfl) moments

theorem Dialogue.told_errorSink_ended (phase : Phase) (dialogue : Dialogue Host) :
    (dialogue.ended phase).world.told .errorSink = dialogue.world.told .errorSink :=
  dialogue.world.told_elsewhere .errorSink (.runFinished phase dialogue.world.current) nofun

theorem World.told_errorSink_reach (name : Text) (world : World Host) :
    (world.reach name).told .errorSink = world.told .errorSink :=
  World.told_elsewhere .errorSink { world with current := some name } (.tellRunning name) nofun

/-! ### Passages -/

namespace Passage

open Dialogue

variable {point : Point Host} {moments : List (Moment Host)}
  {outcome : EStateM.Result Fault (Dialogue Host) Pulled}

/-- Bodies run in the running phase only. -/
theorem running (passage : Passage point moments outcome)
    (begins : point.dialogue.phase = .running) {bout : Bout Host}
    (member : .bout bout ∈ moments) : bout.dialogue.phase = .running := by
  induction passage with
  | completed | exhausted => cases member
  | missing absent => simp at member
  | entered found onward ih => exact ih begins member
  | followed first pulled stopping onward ih =>
    obtain same | behind := List.mem_cons.1 member
    · cases same
      exact begins
    · exact ih begins behind
  | failed only | stopped only | broken only | waiting only =>
    cases List.mem_singleton.1 member
    exact begins

/-- A pull tells the error sink which name was missing, and nothing else. -/
theorem told_errorSink (passage : Passage point moments outcome) :
    (leftBy outcome).world.told .errorSink =
      point.dialogue.world.told .errorSink ++ complaints moments := by
  induction passage with
  | completed dialogue =>
    refine (told_errorSink_ended _ _).trans ?_
    refine (World.told_elsewhere .errorSink _ .tellComplete nofun).trans ?_
    exact (List.append_nil _).symm
  | exhausted name dialogue => exact (List.append_nil _).symm
  | @missing name dialogue absent =>
    refine (told_errorSink_ended _ _).trans ?_
    refine (World.told_note .errorSink _ (.tellMissing name)).trans ?_
    exact congrArg (· ++ _) (World.told_errorSink_reach name dialogue.world)
  | entered found onward ih =>
    exact ih.trans (congrArg (· ++ _) (World.told_errorSink_reach _ _))
  | failed bout pulled =>
    have left := bout.told_left .errorSink nofun
    rw [Bout.left_of_error pulled] at left
    exact ((told_errorSink_ended _ _).trans left).trans (List.append_nil _).symm
  | stopped bout pulled | broken bout pulled =>
    have left := bout.told_left .errorSink nofun
    rw [Bout.left_of_ok pulled] at left
    exact ((told_errorSink_ended _ _).trans left).trans (List.append_nil _).symm
  | waiting bout pulled =>
    have left := bout.told_left .errorSink nofun
    rw [Bout.left_of_ok pulled] at left
    exact left.trans (List.append_nil _).symm
  | followed bout pulled stopping onward ih =>
    have left := bout.told_left .errorSink nofun
    rw [Bout.left_of_ok pulled] at left
    rw [complaints_cons]
    exact ih.trans (congrArg (· ++ _) ((World.told_visit _ _ _).trans left))

theorem phase_event (passage : Passage point moments outcome) {event : Event} {node : Node}
    {traversal : Traversal} {final : Dialogue Host}
    (waits : outcome = .ok (.event event node traversal) final) :
    final.phase = .suspended ∧ complaints moments = [] := by
  induction passage with
  | completed | exhausted | missing | failed | stopped | broken => cases waits
  | entered found onward ih => exact ih waits
  | waiting bout pulled =>
    cases waits
    exact ⟨rfl, rfl⟩
  | followed bout pulled stopping onward ih =>
    obtain ⟨phase, none⟩ := ih waits
    exact ⟨phase, (complaints_cons _ _).trans none⟩

theorem phase_ended (passage : Passage point moments outcome) {final : Dialogue Host}
    (ends : outcome = .ok .ended final) : final.phase = .completed ∨ final.phase = .aborted := by
  induction passage with
  | exhausted | failed | waiting => cases ends
  | entered found onward ih => exact ih ends
  | followed bout pulled stopping onward ih => exact ih ends
  | completed | stopped =>
    cases ends
    exact .inl rfl
  | missing | broken =>
    cases ends
    exact .inr rfl

theorem phase_error (passage : Passage point moments outcome) {fault : Fault}
    {final : Dialogue Host} (fails : outcome = .error fault final) : final.phase = .aborted := by
  induction passage with
  | failed bout pulled =>
    cases fails
    rfl
  | entered found onward ih => exact ih fails
  | followed bout pulled stopping onward ih => exact ih fails
  | _ => cases fails

end Passage

/-! ### Places -/

/-- How a run that is over can be told from its touches: the last of them left nothing to wait for.
A run that was given up before it was pulled leaves the phase as it was. -/
structure Touch.Spent (touches : List Touch) (phase : Phase) : Prop where
  last : ∃ touch, touches.getLast? = some touch ∧ ¬ touch.Waits
  dropped : touches.head? = some .closed → phase = .running
  ended : touches.head? ≠ some .closed → phase = .completed ∨ phase = .aborted
  raised : ∀ fault, touches.getLast? = some (.pulled (.error fault)) → phase = .aborted

/-- What waited each time was not given up. -/
theorem Touch.closed_not_mem {touches : List Touch} (waits : ∀ touch ∈ touches, touch.Waits) :
    .closed ∉ touches := by
  intro member
  obtain ⟨event, same⟩ := waits .closed member
  cases same

/-- What the host did with a run first stays the first. -/
theorem Touch.head_append {touches : List Touch} (begun : touches ≠ []) (touch : Touch) :
    (touches ++ [touch]).head? = touches.head? := by
  cases touches with
  | nil => exact absurd rfl begun
  | cons first rest => rfl

/-- What the host does after the end of a run changes nothing, if it neither fails nor comes to an
event. -/
theorem Touch.Spent.after {touches : List Touch} {phase : Phase}
    (spent : Touch.Spent touches phase) {touch : Touch} (waitless : ¬ touch.Waits)
    (raiseless : ∀ fault, touch ≠ .pulled (.error fault)) :
    Touch.Spent (touches ++ [touch]) phase := by
  have begun : touches ≠ [] := by
    rintro rfl
    obtain ⟨_, ⟨⟩, -⟩ := spent.last
  refine ⟨⟨touch, List.getLast?_concat, waitless⟩, ?_, ?_, fun fault last => ?_⟩
  · rw [head_append begun]
    exact spent.dropped
  · rw [head_append begun]
    exact spent.ended
  · rw [List.getLast?_concat] at last
    exact absurd (Option.some.inj last) (raiseless fault)

theorem Touch.Spent.settled {touches : List Touch} {phase : Phase}
    (spent : Touch.Spent touches phase) : phase ≠ .idle ∧ phase ≠ .suspended := by
  by_cases dropped : touches.head? = some .closed
  · rw [spent.dropped dropped]
    exact ⟨nofun, nofun⟩
  · obtain phase | phase := spent.ended dropped
    · rw [phase]
      exact ⟨nofun, nofun⟩
    · rw [phase]
      exact ⟨nofun, nofun⟩

theorem Touch.spent_closed {touches : List Touch} (begun : touches ≠ [])
    (waits : ∀ touch ∈ touches, touch.Waits) : Touch.Spent (touches ++ [.closed]) .completed := by
  refine ⟨⟨.closed, List.getLast?_concat, nofun⟩, fun dropped => ?_, fun _ => .inl rfl,
    fun fault last => ?_⟩
  · rw [head_append begun] at dropped
    exact absurd (List.mem_of_head? dropped) (closed_not_mem waits)
  · rw [List.getLast?_concat] at last
    cases last

theorem Touch.getLast_waits {touches : List Touch} (begun : touches ≠ [])
    (waits : ∀ touch ∈ touches, touch.Waits) :
    ∃ event, touches.getLast? = some (.pulled (.ok (.event event))) := by
  obtain ⟨event, same⟩ := waits _ (List.getLast_mem begun)
  exact ⟨event, by rw [List.getLast?_eq_some_getLast begun, same]⟩

/-- The place of a run fits what the host did with it, what was complained of and the phase. -/
def Stage.Fits (touches : List Touch) (complaints : List Text) (phase : Phase) : Stage → Prop
  | .unstarted _ => touches = [] ∧ complaints = [] ∧ phase = .running
  | .inside _ _ =>
    (touches ≠ [] ∧ ∀ touch ∈ touches, touch.Waits) ∧ complaints = [] ∧ phase = .suspended
  | .ended => Touch.Spent touches phase

/-- A run that can go on has waited each time, and nothing was complained of. -/
theorem Stage.Fits.ongoing {run : Run} {dialogue : Dialogue Host} {point : Point Host}
    {touches : List Touch} {complaints : List Text} {phase : Phase}
    (fits : run.stage.Fits touches complaints phase)
    (stands : Dialogue.point? run dialogue = some point) :
    (∀ touch ∈ touches, touch.Waits) ∧ complaints = [] := by
  obtain ⟨stage, offers⟩ := run
  cases stage with
  | unstarted start =>
    obtain ⟨rfl, none, -⟩ := fits
    exact ⟨List.forall_mem_nil _, none⟩
  | inside node traversal =>
    obtain ⟨⟨-, waits⟩, none, -⟩ := fits
    exact ⟨waits, none⟩
  | ended => cases stands

/-- Behind a pull the place of the run fits again. -/
theorem Passage.fits {run : Run} {dialogue : Dialogue Host} {point : Point Host}
    {before moments : List (Moment Host)} {outcome : EStateM.Result Fault (Dialogue Host) Pulled}
    {touches : List Touch}
    (fits : run.stage.Fits touches (complaints before) dialogue.phase)
    (stands : Dialogue.point? run dialogue = some point) (passage : Passage point moments outcome)
    (finished : Dialogue.yieldOf outcome ≠ .ok .unfinished) :
    (run.behind outcome).stage.Fits (touches ++ [.pulled (Dialogue.yieldOf outcome)])
      (complaints (before ++ moments)) (Dialogue.leftBy outcome).phase := by
  have waited := fits.ongoing stands
  have opens (yield : Except Fault Dialogue.Yield) :
      (touches ++ [Touch.pulled yield]).head? ≠ some .closed := by
    -- The run was pulled now, and all there was before it were pulls.
    intro dropped
    obtain before | here := List.mem_append.1 (List.mem_of_head? dropped)
    · exact Touch.closed_not_mem waited.1 before
    · cases List.mem_singleton.1 here
  rw [complaints_append waited.2]
  cases outcome with
  | error fault final =>
    have phase := passage.phase_error rfl
    refine ⟨⟨_, List.getLast?_concat, nofun⟩, fun dropped => absurd dropped (opens _),
      fun _ => .inr phase, fun _ _ => phase⟩
  | ok pulled final =>
    cases pulled with
    | event event node traversal =>
      obtain ⟨phase, none⟩ := passage.phase_event rfl
      refine ⟨⟨by simp, fun touch member => ?_⟩, none, phase⟩
      obtain before | here := List.mem_append.1 member
      · exact waited.1 touch before
      · exact ⟨event, List.mem_singleton.1 here⟩
    | ended =>
      have phase := passage.phase_ended rfl
      refine ⟨⟨_, List.getLast?_concat, nofun⟩, fun dropped => absurd dropped (opens _),
        fun _ => phase, fun fault last => ?_⟩
      rw [List.getLast?_concat] at last
      cases last
    | unfinished => exact absurd rfl finished

/-! ### Hosts -/

namespace Hosting

/-- The phase is right: before there is a run, for the place of the run, and in every bout; and so
are the complaints. -/
structure Phased (hosting : Hosting Host) : Prop where
  idle : hosting.run = none → hosting.dialogue.phase = .idle ∧ hosting.touches = []
  stage : ∀ run, hosting.run = some run →
    run.stage.Fits hosting.touches (complaints hosting.moments) hosting.dialogue.phase
  running : ∀ bout, .bout bout ∈ hosting.moments → bout.dialogue.phase = .running
  told : hosting.dialogue.world.told .errorSink = hosting.told ++ complaints hosting.moments

theorem phased_new (store : Store) (host : Host) (debugSink errorSink : Bool) :
    (new store host debugSink errorSink).Phased where
  idle _ := ⟨rfl, rfl⟩
  stage := nofun
  running _ member := absurd member List.not_mem_nil
  told := rfl

theorem phased_begun {start : Text} {dialogue started : Dialogue Host} {run : Run}
    (began : Dialogue.run start dialogue = .ok run started) : (begun run started).Phased := by
  obtain ⟨rfl, -, world, rfl⟩ := Dialogue.run_eq_ok began
  refine ⟨nofun, ?_, fun _ member => absurd member List.not_mem_nil, (List.append_nil _).symm⟩
  rintro _ ⟨⟩
  exact ⟨rfl, rfl, rfl⟩

theorem Phased.running_upcoming {hosting : Hosting Host} (phased : hosting.Phased) {run : Run}
    {point : Point Host} {moments : List (Moment Host)}
    {outcome : EStateM.Result Fault (Dialogue Host) Pulled} (latest : hosting.run = some run)
    (stands : Dialogue.point? run hosting.dialogue = some point)
    (passage : Passage point moments outcome) {bout : Bout Host}
    (member : .bout bout ∈ hosting.moments ++ moments) : bout.dialogue.phase = .running := by
  obtain before | upcoming := List.mem_append.1 member
  · exact phased.running bout before
  · refine passage.running ?_ upcoming
    have fits := phased.stage run latest
    obtain ⟨stage, offers⟩ := run
    cases stage with
    | unstarted start =>
      cases stands
      exact fits.2.2
    | inside node traversal =>
      cases stands
      rfl
    | ended => cases stands

/-- A request keeps the phase right. -/
theorem Step.phased {before after : Hosting Host} {request : Request Host}
    (step : Step before request after) (phased : before.Phased) : after.Phased := by
  cases step with
  | errand errand =>
    have spares := errand.spares before.dialogue
    refine ⟨fun none => ?_, fun run latest => ?_, phased.running, spares.told.trans phased.told⟩
    · exact ⟨spares.phase.trans (phased.idle none).1, (phased.idle none).2⟩
    · rw [spares.phase]
      exact phased.stage run latest
  | begun began => exact phased_begun began
  | refused => exact phased
  | pulled budget latest stands passage finished =>
    have fits := phased.stage _ latest
    obtain ⟨-, none⟩ := fits.ongoing stands
    refine ⟨nofun, ?_, fun bout => phased.running_upcoming latest stands passage, ?_⟩
    · rintro _ ⟨⟩
      exact Passage.fits fits stands passage finished
    · have told := passage.told_errorSink
      rw [Dialogue.world_point stands, phased.told, none, List.append_nil] at told
      rw [complaints_append none]
      exact told
  | spent budget latest spent =>
    refine ⟨?_, fun run same => ?_, phased.running, phased.told⟩
    · rw [latest]
      exact nofun
    · obtain rfl := Option.some.inj (latest.symm.trans same)
      have fits := phased.stage _ latest
      rw [spent] at fits ⊢
      exact Touch.Spent.after fits nofun nofun
  | chosen latest chose =>
    refine ⟨nofun, ?_, phased.running, phased.told⟩
    rintro _ ⟨⟩
    rw [Run.stage_choose chose]
    exact phased.stage _ latest
  | @closed run node traversal latest waits =>
    refine ⟨nofun, ?_, phased.running,
      (Dialogue.told_errorSink_ended .completed before.dialogue).trans phased.told⟩
    rintro _ ⟨⟩
    have fits := phased.stage run latest
    rw [waits] at fits
    obtain ⟨⟨begun, waits⟩, -, -⟩ := fits
    exact Touch.spent_closed begun waits
  | @dropped run latest waitless =>
    refine ⟨nofun, ?_, phased.running, phased.told⟩
    rintro _ ⟨⟩
    have fits := phased.stage run latest
    cases stage : run.stage with
    | unstarted start =>
      rw [stage] at fits
      obtain ⟨untouched, -, phase⟩ := fits
      rw [untouched]
      exact ⟨⟨.closed, rfl, nofun⟩, fun _ => phase, fun other => absurd rfl other, nofun⟩
    | inside node traversal => exact absurd stage (waitless node traversal)
    | ended =>
      rw [stage] at fits
      exact Touch.Spent.after fits nofun nofun

/-- How the phase of a dialogue, and what the error sink was told, follow from what the host did
with the run that was begun last. -/
structure Regular (hosting : Hosting Host) (upcoming : List (Moment Host)) : Prop where
  /-- The dialogue is idle until a run has begun. -/
  idle : hosting.dialogue.phase = .idle ↔ hosting.run = none
  /-- A run that was not pulled yet is running, even if it was given up. -/
  running : hosting.run ≠ none →
    hosting.touches = [] ∨ hosting.touches.head? = some .closed →
    hosting.dialogue.phase = .running
  /-- So is every run while a function is called by a body. -/
  executing : ∀ bout, .bout bout ∈ hosting.moments ++ upcoming → ∀ called ∈ bout.calls,
    (bout.dialogueAt called).phase = .running
  /-- A run is suspended where the last that was done with it was a pull that came to an event. -/
  suspended : hosting.dialogue.phase = .suspended ↔
    ∃ event, hosting.touches.getLast? = some (.pulled (.ok (.event event)))
  /-- A pull that ends a run leaves it completed or aborted. -/
  ended : hosting.touches.getLast? = some (.pulled (.ok .ended)) →
    hosting.touches.head? ≠ some .closed →
    hosting.dialogue.phase = .completed ∨ hosting.dialogue.phase = .aborted
  /-- A pull that fails leaves it aborted. -/
  raised : ∀ fault, hosting.touches.getLast? = some (.pulled (.error fault)) →
    hosting.dialogue.phase = .aborted
  /-- Giving a suspended run up completes it; giving any other run up changes nothing. -/
  closing : ∀ run, hosting.run = some run → (Dialogue.close run hosting.dialogue).2 =
    if hosting.dialogue.phase = .suspended then hosting.dialogue.ended .completed
    else hosting.dialogue
  /-- Behind the end of a run every pull yields nothing and changes nothing. -/
  spent : ∀ run, hosting.run = some run → (∃ touch ∈ hosting.touches, ¬ touch.Waits) →
    ∀ budget, Dialogue.pull budget run hosting.dialogue = (.ok .ended, run, hosting.dialogue)
  /-- Since the run began the error sink was told once which name was missing, if the run has ended
  at one, and was told nothing otherwise. -/
  complaints : hosting.dialogue.world.told .errorSink =
    hosting.told ++ complaints hosting.moments

section

variable {hosting : Hosting Host} (phased : hosting.Phased) {upcoming : List (Moment Host)}
  (running : ∀ bout, .bout bout ∈ hosting.moments ++ upcoming → bout.dialogue.phase = .running)

include phased running

theorem Phased.regular_unbegun (latest : hosting.run = none) : hosting.Regular upcoming := by
  obtain ⟨phase, untouched⟩ := phased.idle latest
  exact {
    idle := iff_of_true phase latest
    running := fun begun => absurd latest begun
    executing := fun bout member _ _ => running bout member
    suspended := by
      rw [phase, untouched]
      exact iff_of_false nofun nofun
    ended := by
      rw [untouched]
      exact nofun
    raised := by
      rw [untouched]
      exact nofun
    closing := by
      rw [latest]
      exact nofun
    spent := by
      rw [latest]
      exact nofun
    complaints := phased.told }

variable {run : Run} (latest : hosting.run = some run)

include latest

theorem Phased.regular_unstarted {start : Text} (stage : run.stage = .unstarted start) :
    hosting.Regular upcoming := by
  obtain ⟨untouched, -, phase⟩ : hosting.touches = [] ∧ _ ∧ hosting.dialogue.phase = .running := by
    have fits := phased.stage run latest
    rwa [stage] at fits
  exact {
    idle := by
      rw [phase, latest]
      exact iff_of_false nofun nofun
    running := fun _ _ => phase
    executing := fun bout member _ _ => running bout member
    suspended := by
      rw [phase, untouched]
      exact iff_of_false nofun nofun
    ended := by
      rw [untouched]
      exact nofun
    raised := by
      rw [untouched]
      exact nofun
    closing := by
      intro other same
      obtain rfl := Option.some.inj (latest.symm.trans same)
      rw [phase, Dialogue.close, stage]
      rfl
    spent := by
      rw [untouched]
      exact nofun
    complaints := phased.told }

theorem Phased.regular_inside {node : Node} {traversal : Traversal}
    (stage : run.stage = .inside node traversal) : hosting.Regular upcoming := by
  obtain ⟨⟨begun, waits⟩, -, phase⟩ :
      (hosting.touches ≠ [] ∧ ∀ touch ∈ hosting.touches, touch.Waits) ∧ _ ∧
        hosting.dialogue.phase = .suspended := by
    have fits := phased.stage run latest
    rwa [stage] at fits
  obtain ⟨event, last⟩ := Touch.getLast_waits begun waits
  exact {
    idle := by
      rw [phase, latest]
      exact iff_of_false nofun nofun
    running := by
      rintro - (untouched | dropped)
      · exact absurd untouched begun
      · exact absurd (List.mem_of_head? dropped) (Touch.closed_not_mem waits)
    executing := fun bout member _ _ => running bout member
    suspended := iff_of_true phase ⟨event, last⟩
    ended := by
      rw [last]
      exact nofun
    raised := by
      rw [last]
      exact nofun
    closing := by
      intro other same
      obtain rfl := Option.some.inj (latest.symm.trans same)
      rw [if_pos phase, Dialogue.close, stage]
      rfl
    spent := by
      rintro _ - ⟨touch, member, waitless⟩
      exact absurd (waits touch member) waitless
    complaints := phased.told }

theorem Phased.regular_ended (stage : run.stage = .ended) : hosting.Regular upcoming := by
  have spent : Touch.Spent hosting.touches hosting.dialogue.phase := by
    have fits := phased.stage run latest
    rwa [stage] at fits
  obtain ⟨final, last, waitless⟩ := spent.last
  exact {
    idle := by
      rw [latest]
      exact iff_of_false spent.settled.1 nofun
    running := by
      rintro - (untouched | dropped)
      · rw [untouched] at last
        cases last
      · exact spent.dropped dropped
    executing := fun bout member _ _ => running bout member
    suspended := by
      refine iff_of_false spent.settled.2 ?_
      rintro ⟨event, waits⟩
      obtain rfl := Option.some.inj (last.symm.trans waits)
      exact waitless ⟨event, rfl⟩
    ended := fun _ => spent.ended
    raised := spent.raised
    closing := by
      intro other same
      obtain rfl := Option.some.inj (latest.symm.trans same)
      rw [if_neg spent.settled.2, Dialogue.close, stage]
    spent := by
      intro other same _ budget
      obtain rfl := Option.some.inj (latest.symm.trans same)
      exact Dialogue.pull_spent budget stage hosting.dialogue
    complaints := phased.told }

omit latest

/-- The phase fits a run that was begun, and what can be done with the run fits the phase. -/
theorem Phased.regular : hosting.Regular upcoming := by
  cases latest : hosting.run with
  | none => exact phased.regular_unbegun running latest
  | some run =>
    cases stage : run.stage with
    | unstarted start => exact phased.regular_unstarted running latest stage
    | inside node traversal => exact phased.regular_inside running latest stage
    | ended => exact phased.regular_ended running latest stage

end

/-- The phases of a dialogue. Whatever the host requests of a new dialogue, its phase is the one
that follows from what was done with the run that was begun last, and the error sink hears of
nothing but a name that is missing. -/
theorem phases_regular (store : Store) (host : Host) (debugSink errorSink : Bool)
    (requests : List (Request Host)) {hosting : Hosting Host}
    (done : requests.foldlM after? (new store host debugSink errorSink) = some hosting)
    (budget : Nat) : hosting.Regular (hosting.upcoming budget) := by
  obtain ⟨ready, phased⟩ := holds_behind (fun _ _ phased step => step.phased phased)
    (ready_new store host debugSink errorSink) (heeds_any requests _)
    (phased_new store host debugSink errorSink) done
  refine phased.regular fun bout member => ?_
  obtain nothing | ⟨run, point, outcome, latest, stands, passage⟩ := ready.upcoming budget
  · rw [nothing, List.append_nil] at member
    exact phased.running bout member
  · exact phased.running_upcoming latest stands passage member

/-- A host that gives a new dialogue sinks and a node which jumps to a name that no node has, runs
it to the end, and gives it up then. -/
def stray : List (Request Unit) :=
  [.errand (.provide true true),
    .errand (.loadNodes (Roster.ofList [("A", ⟨"A", [.say "Hello.", .jump "B"], []⟩)]) false),
    .run "A", .pull 8, .pull 8, .close]

theorem phases_regular_stray : ∃ hosting,
    stray.foldlM after? (new Roster.empty () false false) = some hosting ∧
      hosting.dialogue.phase = .aborted ∧
      hosting.dialogue.world.told .errorSink = [("Can't find node B" : Text)] ∧
      ∀ run, hosting.run = some run →
        Dialogue.pull 8 run hosting.dialogue = (.ok .ended, run, hosting.dialogue) := by
  have course : (stray.foldlM after? (new Roster.empty () false false)).map (fun hosting =>
      (hosting.dialogue.phase, hosting.told ++ complaints hosting.moments,
        hosting.touches.drop 2)) =
      some (.aborted, [("Can't find node B" : Text)], [.closed]) := by
    cbv
  obtain ⟨hosting, done, seen⟩ := Option.map_eq_some_iff.1 course
  obtain ⟨phase, complained, closed⟩ := by simpa using seen
  have regular := phases_regular _ _ _ _ stray done 8
  refine ⟨hosting, done, phase, regular.complaints.trans complained, fun run latest => ?_⟩
  refine regular.spent run latest ⟨.closed, ?_, ?_⟩ 8
  · refine List.mem_of_mem_drop (?_ : .closed ∈ hosting.touches.drop 2)
    rw [closed]
    exact List.mem_singleton_self _
  · rintro ⟨_, ⟨⟩⟩

end Hosting

end Parley
