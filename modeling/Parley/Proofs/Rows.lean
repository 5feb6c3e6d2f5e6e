/-
What a row of steps gives of which each may fail. It gives one result for each step if
none fails, and else it fails as the first step does that fails.
-/

import Mathlib.Data.List.Forall2

namespace Parley

variable {Item Result Failure : Type} {step : Item → Except Failure Result} {items : List Item}

/-- A row of steps succeeds if all of them do. -/
theorem mapM_eq_ok_iff {results : List Result} :
    items.mapM step = .ok results ↔
      List.Forall₂ (fun item result => step item = .ok result) items results := by
  induction items generalizing results with
  | nil =>
    rw [List.mapM_nil, List.forall₂_nil_left_iff]
    exact Except.ok.injEq [] results ▸ eq_comm
  | cons item rest ih =>
    rw [List.mapM_cons, List.forall₂_cons_left_iff]
    constructor
    · intro done
      cases first : step item with
      | error failure =>
        rw [first] at done
        cases done
      | ok result =>
        cases others : rest.mapM step with
        | error failure =>
          rw [first, others] at done
          cases done
        | ok results =>
          rw [first, others] at done
          cases done
          exact ⟨result, results, rfl, ih.1 others, rfl⟩
    · rintro ⟨result, results, first, others, rfl⟩
      rw [first, ih.2 others]
      rfl

/-- A row of steps fails as the first one that does. -/
theorem mapM_eq_error_iff {failure : Failure} :
    items.mapM step = .error failure ↔ ∃ before item behind, items = before ++ item :: behind ∧
      (∀ earlier ∈ before, ∃ result, step earlier = .ok result) ∧ step item = .error failure := by
  induction items with
  | nil =>
    refine iff_of_false (by rintro ⟨⟩) ?_
    rintro ⟨before, item, behind, cut, -⟩
    cases before <;> cases cut
  | cons first rest ih =>
    rw [List.mapM_cons]
    cases done : step first with
    | error fault =>
      constructor
      · rintro ⟨⟩
        exact ⟨[], first, rest, rfl, List.forall_mem_nil _, done⟩
      · rintro ⟨before, item, behind, cut, earlier, fails⟩
        cases before with
        | nil =>
          cases cut
          cases done.symm.trans fails
          rfl
        | cons head before =>
          cases cut
          obtain ⟨result, succeeds⟩ := earlier _ List.mem_cons_self
          cases done.symm.trans succeeds
    | ok result =>
      have onward : (do
          let result ← (Except.ok result : Except Failure Result)
          let results ← rest.mapM step
          pure (result :: results)) = .error failure ↔ rest.mapM step = .error failure := by
        cases rest.mapM step with
        | error fault => exact Iff.rfl
        | ok results => exact iff_of_false (by rintro ⟨⟩) (by rintro ⟨⟩)
      rw [onward, ih]
      constructor
      · rintro ⟨before, item, behind, rfl, earlier, fails⟩
        exact ⟨first :: before, item, behind, rfl,
          List.forall_mem_cons.2 ⟨⟨result, done⟩, earlier⟩, fails⟩
      · rintro ⟨before, item, behind, cut, earlier, fails⟩
        cases before with
        | nil =>
          cases cut
          cases done.symm.trans fails
        | cons head before =>
          cases cut
          exact ⟨before, item, behind, rfl, (List.forall_mem_cons.1 earlier).2, fails⟩

/-- What holds at the start and is kept by each step holds behind a row of them. -/
theorem foldlM_keeps {State Item Failure : Type} {step : State → Item → Except Failure State}
    {keeps : State → Prop} {items : List Item}
    (each : ∀ item ∈ items, ∀ before after, keeps before → step before item = .ok after →
      keeps after)
    {start final : State} (starts : keeps start) (done : items.foldlM step start = .ok final) :
    keeps final := by
  induction items generalizing start with
  | nil =>
    cases done
    exact starts
  | cons item rest ih =>
    obtain ⟨here, others⟩ := List.forall_mem_cons.1 each
    rw [List.foldlM_cons] at done
    cases stepped : step start item with
    | error failure =>
      rw [stepped] at done
      cases done
    | ok middle =>
      rw [stepped] at done
      exact ih others (here start middle starts stepped) done

end Parley
