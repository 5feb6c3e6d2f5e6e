/-
This file says what libraries hold when a host has edited them, any number of times. A
look-up finds what was put under its name last, unless the name was taken out since. And a
library lists its names in the order in which they came in; a name that was taken out comes
in anew, and one that is written over stays where it is.

Both are read off the edits alone, by looking back from the latest to the first. A name that
comes in with an import comes in with the other names of its source, in their order. So the
moment at which a name came in is a row of numbers: the time of the edit, and behind it the
place of the name among those that came in by that edit, which for an import is the moment
at which it had come into the source.
-/

import Mathlib.Data.List.Nodup
import Parley.Proofs.Inequality

namespace Parley

variable {Host : Type}

/-! ### Looking back -/

namespace Edit

/-- Tells whether an edit makes a library. -/
def makes : Edit Host → Bool
  | make _ => true
  | _ => false

/-- The library that an edit writes to, unless it makes one. -/
def place? : Edit Host → Option LibraryId
  | make _ => none
  | register place _ _ _ | deregister place _ | importAll place _ => some place

/-- The number of libraries that edits have made. -/
def made (past : List (Edit Host)) : Nat := past.countP makes

/-- The names that a library is made with, in order. -/
def stock (standard : Bool) : List Text := if standard then Operator.all.map Operator.name else []

/-- The function that was put under a name of a library last, unless the name was taken out since.
The edits are given with the latest first. -/
def latest? : List (Edit Host) → LibraryId → Text → Option (Function Host)
  | [], _, _ => none
  | make standard :: past, place, wanted =>
    if place = made past then
      if standard then (Operator.ofName? wanted).map (Library.standardFunction place) else none
    else latest? past place wanted
  | register into name arity implementation :: past, place, wanted =>
    if into = place ∧ place < made past ∧ name = wanted ∧ 0 ≤ arity then
      some ⟨name, arity.toNat, implementation⟩
    else latest? past place wanted
  | deregister into name :: past, place, wanted =>
    if into = place ∧ name = wanted then none else latest? past place wanted
  | importAll into source :: past, place, wanted =>
    if into = place ∧ place < made past then
      (latest? past source wanted).or (latest? past place wanted)
    else latest? past place wanted

/-- The moment at which a name came into a library, if it has not been taken out since: the first
that it came in after it was taken out last. The edits are given with the latest first. -/
def since? : List (Edit Host) → LibraryId → Text → Option (List Nat)
  | [], _, _ => none
  | make standard :: past, place, wanted =>
    if place = made past then
      if wanted ∈ stock standard then some [past.length, (stock standard).idxOf wanted] else none
    else since? past place wanted
  | register into name arity _ :: past, place, wanted =>
    if into = place ∧ place < made past ∧ name = wanted ∧ 0 ≤ arity then
      (since? past place wanted).or (some [past.length])
    else since? past place wanted
  | deregister into name :: past, place, wanted =>
    if into = place ∧ name = wanted then none else since? past place wanted
  | importAll into source :: past, place, wanted =>
    if into = place ∧ place < made past then
      (since? past place wanted).or ((since? past source wanted).map (past.length :: ·))
    else since? past place wanted

/-- One name came into a library before another. Moments are compared number by number. -/
def Before (past : List (Edit Host)) (place : LibraryId) (first second : Text) : Prop :=
  ∃ moment later, since? past place first = some moment ∧ since? past place second = some later ∧
    moment < later

/-- A name came in at some moment exactly if something was put under it. -/
theorem isSome_since? (past : List (Edit Host)) (place : LibraryId) (wanted : Text) :
    (since? past place wanted).isSome = (latest? past place wanted).isSome := by
  induction past generalizing place with
  | nil => rfl
  | cons edit past ih =>
    cases edit with
    | make standard =>
      rw [since?, latest?]
      split
      · cases standard with
        | false => rfl
        | true =>
          have listed : wanted ∈ stock true ↔ (Operator.ofName? wanted).isSome := by
            simp [stock, Operator.ofName?, List.find?_isSome]
          by_cases there : wanted ∈ stock true
          · rw [if_pos there, if_pos rfl, Option.isSome_map, listed.1 there, Option.isSome_some]
          · rw [if_neg there, if_pos rfl, Option.isSome_map,
              eq_false_of_ne_true fun some => there (listed.2 some), Option.isSome_none]
      · exact ih place
    | register into name arity implementation =>
      rw [since?, latest?]
      split
      · rw [Option.isSome_or, Option.isSome_some, Bool.or_true, Option.isSome_some]
      · exact ih place
    | deregister into name =>
      rw [since?, latest?]
      split
      · rfl
      · exact ih place
    | importAll into source =>
      rw [since?, latest?]
      split
      · rw [Option.isSome_or, Option.isSome_or, Option.isSome_map, ih place, ih source,
          Bool.or_comm]
      · exact ih place

/-- A name came in earlier than now. -/
theorem since?_lt {past : List (Edit Host)} {place : LibraryId} {wanted : Text}
    {moment : List Nat} (came : since? past place wanted = some moment) (more : List Nat) :
    moment < past.length :: more := by
  induction past generalizing place moment more with
  | nil => cases came
  | cons edit past ih =>
    have before {place : LibraryId} {moment : List Nat}
        (came : since? past place wanted = some moment) :
        moment < (edit :: past).length :: more := by
      have earlier := ih came []
      cases moment with
      | nil => exact List.nil_lt_cons _ _
      | cons time rest =>
        refine List.cons_lt_cons_iff.2 (.inl ?_)
        obtain sooner | ⟨same, -⟩ := List.cons_lt_cons_iff.1 earlier
        · exact Nat.lt_succ_of_lt sooner
        · exact same ▸ Nat.lt_succ_self _
    have now (rest : List Nat) : past.length :: rest < (edit :: past).length :: more :=
      List.cons_lt_cons_iff.2 (.inl (Nat.lt_succ_self _))
    cases edit with
    | make standard =>
      rw [since?] at came
      split at came
      · split at came
        · cases came
          exact now _
        · cases came
      · exact before came
    | register into name arity implementation =>
      rw [since?] at came
      split at came
      · obtain there | ⟨-, ⟨⟩⟩ := Option.or_eq_some_iff.1 came
        · exact before there
        · exact now _
      · exact before came
    | deregister into name =>
      rw [since?] at came
      split at came
      · cases came
      · exact before came
    | importAll into source =>
      rw [since?] at came
      split at came
      · obtain there | ⟨-, came⟩ := Option.or_eq_some_iff.1 came
        · exact before there
        · obtain ⟨_, -, rfl⟩ := Option.map_eq_some_iff.1 came
          exact now _
      · exact before came

end Edit

/-! ### What an edit does to a library -/

namespace Library

/-- An import is a union. -/
theorem importAll_eq (library other : Library Host) :
    library.importAll other = library.union other := rfl

theorem nodup_stock : (Operator.all.map Operator.name).Nodup := by decide

theorem names_standardFunction (home : LibraryId) :
    (Operator.all.map (standardFunction home : Operator → Function Host)).map Function.name =
      Operator.all.map Operator.name :=
  List.map_map

theorem names_standard (home : LibraryId) :
    (standard home : Library Host).names = Operator.all.map Operator.name := by
  have distinct : ((Operator.all.map (standardFunction home : Operator → Function Host)).map
      Function.name).Nodup := by
    rw [names_standardFunction]
    exact nodup_stock
  have written := Roster.names_insertAll (Roster.empty : Library Host) distinct
  rw [names_standardFunction] at written
  rw [standard, Roster.ofList, written]
  exact List.filter_eq_self.2 fun other _ => by simp [Roster.names, Roster.empty]

theorem get?_standard (home : LibraryId) (wanted : Text) :
    (standard home : Library Host).get? wanted =
      (Operator.ofName? wanted).map (standardFunction home) := by
  have distinct : ((Operator.all.map (standardFunction home : Operator → Function Host)).map
      Function.name).Nodup := by
    rw [names_standardFunction]
    exact nodup_stock
  rw [standard, Roster.ofList, Roster.get?_insertAll _ distinct, List.find?_map]
  exact Option.or_none

end Library

namespace Shelf

theorem library_replace (shelf : Shelf Host) (place other : LibraryId) (content : Library Host) :
    (shelf.replace place content).library other =
      if place = other ∧ other < shelf.libraries.length then content else shelf.library other := by
  rw [library, replace, List.getElem?_set]
  by_cases same : place = other
  · subst same
    by_cases there : place < shelf.libraries.length
    · rw [if_pos rfl, if_pos there, if_pos ⟨rfl, there⟩, Option.getD_some]
    · rw [if_pos rfl, if_neg there, if_neg fun both => there both.2, library,
        List.getElem?_eq_none (Nat.le_of_not_lt there)]
  · rw [if_neg same, if_neg fun both => same both.1, library]

theorem library_make (shelf : Shelf Host) (standard : Bool) (place : LibraryId) :
    (shelf.edit (.make standard)).library place =
      if place = shelf.libraries.length then
        if standard then Library.standard place else Roster.empty
      else shelf.library place := by
  rw [library, edit]
  dsimp only
  by_cases before : place < shelf.libraries.length
  · rw [List.getElem?_append_left before, if_neg (Nat.ne_of_lt before), library]
  · rw [List.getElem?_append_right (Nat.le_of_not_lt before)]
    by_cases last : place = shelf.libraries.length
    · rw [last, Nat.sub_self, List.getElem?_cons_zero, Option.getD_some, if_pos rfl]
    · have beyond : 0 < place - shelf.libraries.length :=
        Nat.sub_pos_of_lt (Nat.lt_of_le_of_ne (Nat.le_of_not_lt before) (Ne.symm last))
      rw [if_neg last, library, List.getElem?_eq_none (Nat.le_of_not_lt before),
        List.getElem?_eq_none (Nat.succ_le_of_lt beyond)]

theorem library_register (shelf : Shelf Host) (into : LibraryId) (name : Text) (arity : Int)
    (implementation : Implementation Host) (place : LibraryId) :
    (shelf.edit (.register into name arity implementation)).library place =
      if into = place ∧ place < shelf.libraries.length ∧ 0 ≤ arity then
        (shelf.library place).insert ⟨name, arity.toNat, implementation⟩
      else shelf.library place := by
  rw [edit, Library.register]
  by_cases negative : arity < 0
  · rw [if_pos negative, if_neg fun all => absurd all.2.2 (Int.not_le.2 negative)]
  · have counted : 0 ≤ arity := Int.not_lt.1 negative
    rw [if_neg negative]
    dsimp only
    rw [library_replace]
    by_cases same : into = place
    · simp only [same, counted, and_true]
    · rw [if_neg fun both => same both.1, if_neg fun all => same all.1]

theorem library_deregister (shelf : Shelf Host) (into : LibraryId) (name : Text)
    (place : LibraryId) :
    (shelf.edit (.deregister into name)).library place =
      if into = place then (shelf.library place).erase name else shelf.library place := by
  rw [edit, library_replace]
  by_cases same : into = place
  · subst same
    by_cases there : into < shelf.libraries.length
    · rw [if_pos ⟨rfl, there⟩, if_pos rfl]
    · -- There is no such library, and nothing is forgotten.
      rw [if_neg fun both => there both.2, if_pos rfl, library,
        List.getElem?_eq_none (Nat.le_of_not_lt there)]
      rfl
  · rw [if_neg fun both => same both.1, if_neg same]

theorem library_importAll (shelf : Shelf Host) (into source place : LibraryId) :
    (shelf.edit (.importAll into source)).library place =
      if into = place ∧ place < shelf.libraries.length then
        (shelf.library place).union (shelf.library source)
      else shelf.library place := by
  rw [edit, library_replace, Library.importAll_eq]
  by_cases same : into = place
  · rw [same]
  · rw [if_neg fun both => same both.1, if_neg fun both => same both.1]

theorem edited_cons (edit : Edit Host) (past : List (Edit Host)) :
    edited (edit :: past).reverse = (edited past.reverse).edit edit := by
  rw [edited, List.reverse_cons, List.foldl_append]
  rfl

theorem length_edit (shelf : Shelf Host) (edit : Edit Host) :
    (shelf.edit edit).libraries.length =
      shelf.libraries.length + if edit.makes then 1 else 0 := by
  cases edit with
  | make standard => exact List.length_append
  | register into name arity implementation =>
    rw [Shelf.edit, Library.register]
    by_cases negative : arity < 0
    · rw [if_pos negative]
      rfl
    · rw [if_neg negative]
      exact List.length_set
  | deregister into name => exact List.length_set
  | importAll into source => exact List.length_set

theorem length_edited (past : List (Edit Host)) :
    (edited past.reverse).libraries.length = Edit.made past := by
  induction past with
  | nil => rfl
  | cons edit past ih => rw [edited_cons, length_edit, ih, Edit.made, Edit.made, List.countP_cons]

/-! ### What libraries hold -/

/-- A look-up finds what was put under its name last. -/
theorem get?_edited (past : List (Edit Host)) (place : LibraryId) (wanted : Text) :
    ((edited past.reverse).library place).get? wanted = Edit.latest? past place wanted := by
  induction past generalizing place with
  | nil => rfl
  | cons edit past ih =>
    rw [edited_cons]
    cases edit with
    | make standard =>
      rw [library_make, length_edited, Edit.latest?]
      split
      · cases standard with
        | false => rfl
        | true => exact Library.get?_standard place wanted
      · exact ih place
    | register into name arity implementation =>
      rw [library_register, length_edited, Edit.latest?]
      by_cases written : into = place ∧ place < Edit.made past ∧ 0 ≤ arity
      · obtain ⟨here, there, counted⟩ := written
        rw [if_pos ⟨here, there, counted⟩, Roster.get?_insert, ih place]
        by_cases same : wanted = name
        · rw [if_pos same, if_pos ⟨here, there, same.symm, counted⟩]
        · rw [if_neg same, if_neg fun all => same all.2.2.1.symm]
      · rw [if_neg written, if_neg fun all => written ⟨all.1, all.2.1, all.2.2.2⟩]
        exact ih place
    | deregister into name =>
      rw [library_deregister, Edit.latest?]
      by_cases here : into = place
      · rw [if_pos here, Roster.get?_erase, ih place]
        exact if_congr ⟨fun same => ⟨here, same.symm⟩, fun both => both.2.symm⟩ rfl rfl
      · rw [if_neg here, if_neg fun both => here both.1]
        exact ih place
    | importAll into source =>
      rw [library_importAll, length_edited, Edit.latest?]
      split
      · rw [Roster.get?_union, ih source, ih place]
      · exact ih place

/-- A name is listed exactly if it came in at some moment. -/
theorem mem_names_edited (past : List (Edit Host)) (place : LibraryId) (wanted : Text) :
    wanted ∈ ((edited past.reverse).library place).names ↔
      (Edit.since? past place wanted).isSome := by
  rw [Edit.isSome_since?, ← get?_edited, Option.isSome_iff_ne_none, Ne, Roster.get?_eq_none_iff,
    Decidable.not_not]

theorem since?_of_absent {past : List (Edit Host)} {place : LibraryId} {wanted : Text}
    (absent : wanted ∉ ((edited past.reverse).library place).names) :
    Edit.since? past place wanted = none := by
  rw [mem_names_edited, Bool.not_eq_true, Option.isSome_eq_false_iff, Option.isNone_iff_eq_none]
    at absent
  exact absent

/-! ### The order of the names -/

/-- Every library lists its names in the order in which they came in. -/
def InOrder (past : List (Edit Host)) : Prop :=
  ∀ place, ((edited past.reverse).library place).names.Pairwise (Edit.Before past place)

/-- A library stays in order where all names came in when they did. -/
theorem InOrder.unmoved {past : List (Edit Host)} (ordered : InOrder past) {edit : Edit Host}
    {place : LibraryId}
    (same : ∀ wanted, Edit.since? (edit :: past) place wanted = Edit.since? past place wanted) :
    ((edited past.reverse).library place).names.Pairwise (Edit.Before (edit :: past) place) := by
  refine (ordered place).imp fun before => ?_
  simpa only [Edit.Before, same] using before

/-- A library stays in order where names come in behind those that were there. -/
theorem InOrder.append {past : List (Edit Host)} (ordered : InOrder past) {edit : Edit Host}
    {place : LibraryId} {new : List Text}
    (kept : ∀ wanted moment, Edit.since? past place wanted = some moment →
      Edit.since? (edit :: past) place wanted = some moment)
    (behind : ∀ wanted ∈ new, ∃ rest,
      Edit.since? (edit :: past) place wanted = some (past.length :: rest))
    (among : new.Pairwise (Edit.Before (edit :: past) place)) :
    (((edited past.reverse).library place).names ++ new).Pairwise
      (Edit.Before (edit :: past) place) := by
  refine List.pairwise_append.2 ⟨?_, among, ?_⟩
  · refine (ordered place).imp ?_
    rintro first second ⟨moment, later, came, cameLater, sooner⟩
    exact ⟨moment, later, kept _ _ came, kept _ _ cameLater, sooner⟩
  · intro first there second isNew
    obtain ⟨moment, came⟩ :=
      Option.isSome_iff_exists.1 ((mem_names_edited past place first).1 there)
    obtain ⟨rest, comes⟩ := behind second isNew
    exact ⟨moment, _, kept _ _ came, comes, Edit.since?_lt came rest⟩

theorem InOrder.make {past : List (Edit Host)} (ordered : InOrder past) (standard : Bool) :
    InOrder (.make standard :: past) := by
  intro place
  rw [edited_cons, library_make, length_edited]
  split
  · next last =>
    have names : (if standard then Library.standard place else Roster.empty : Library Host).names =
        Edit.stock standard := by
      cases standard with
      | false => rfl
      | true => exact Library.names_standard place
    have distinct : (Edit.stock standard).Nodup := by
      cases standard with
      | false => exact List.nodup_nil
      | true => exact Library.nodup_stock
    have came (index : Nat) (inside : index < (Edit.stock standard).length) :
        Edit.since? (.make standard :: past) place (Edit.stock standard)[index] =
          some [past.length, index] := by
      rw [Edit.since?, if_pos last, if_pos (List.getElem_mem inside),
        distinct.idxOf_getElem index inside]
    rw [names, List.pairwise_iff_getElem]
    intro first second inside insideToo sooner
    refine ⟨_, _, came first inside, came second insideToo, ?_⟩
    simpa [List.cons_lt_cons_iff] using sooner
  · next other => exact ordered.unmoved fun wanted => by rw [Edit.since?, if_neg other]

theorem InOrder.register {past : List (Edit Host)} (ordered : InOrder past) (into : LibraryId)
    (name : Text) (arity : Int) (implementation : Implementation Host) :
    InOrder (.register into name arity implementation :: past) := by
  intro place
  rw [edited_cons, library_register, length_edited]
  split
  · next written =>
    have came (wanted : Text) : Edit.since? (.register into name arity implementation :: past)
        place wanted = if name = wanted then
          (Edit.since? past place wanted).or (some [past.length])
        else Edit.since? past place wanted := by
      rw [Edit.since?]
      exact if_congr ⟨fun all => all.2.2.1, fun same =>
        ⟨written.1, written.2.1, same, written.2.2⟩⟩ rfl rfl
    have kept (wanted : Text) (moment : List Nat)
        (there : Edit.since? past place wanted = some moment) :
        Edit.since? (.register into name arity implementation :: past) place wanted =
          some moment := by
      rw [came, there, Option.some_or, ite_self]
    rw [Roster.names_insert]
    split
    · simpa only [List.append_nil] using
        ordered.append kept (fun _ isNew => by cases isNew) List.Pairwise.nil
    · next absent =>
      refine ordered.append kept (fun wanted isNew => ⟨[], ?_⟩) (List.pairwise_singleton _ _)
      cases List.mem_singleton.1 isNew
      rw [came, if_pos rfl, since?_of_absent absent, Option.none_or]
  · next refused =>
    exact ordered.unmoved fun wanted => by
      rw [Edit.since?, if_neg fun all => refused ⟨all.1, all.2.1, all.2.2.2⟩]

theorem InOrder.deregister {past : List (Edit Host)} (ordered : InOrder past) (into : LibraryId)
    (name : Text) : InOrder (.deregister into name :: past) := by
  intro place
  rw [edited_cons, library_deregister]
  split
  · next here =>
    have came (wanted : Text) (other : wanted ≠ name) :
        Edit.since? (.deregister into name :: past) place wanted =
          Edit.since? past place wanted := by
      rw [Edit.since?, if_neg fun both => other both.2.symm]
    rw [Roster.names_erase]
    refine ((ordered place).filter _).imp_of_mem ?_
    rintro first second isFirst isSecond before
    have other : first ≠ name := by simpa using (List.mem_filter.1 isFirst).2
    have otherToo : second ≠ name := by simpa using (List.mem_filter.1 isSecond).2
    rw [Edit.Before, came first other, came second otherToo]
    exact before
  · next elsewhere =>
    exact ordered.unmoved fun wanted => by rw [Edit.since?, if_neg fun both => elsewhere both.1]

theorem InOrder.importAll {past : List (Edit Host)} (ordered : InOrder past)
    (into source : LibraryId) : InOrder (.importAll into source :: past) := by
  intro place
  rw [edited_cons, library_importAll, length_edited]
  split
  · next written =>
    have came (wanted : Text) : Edit.since? (.importAll into source :: past) place wanted =
        (Edit.since? past place wanted).or
          ((Edit.since? past source wanted).map (past.length :: ·)) := by
      rw [Edit.since?, if_pos written]
    have new {wanted : Text} (isNew : wanted ∈
        ((edited past.reverse).library source).names.filter
          fun other => other ∉ ((edited past.reverse).library place).names) :
        Edit.since? (.importAll into source :: past) place wanted =
          (Edit.since? past source wanted).map (past.length :: ·) := by
      have absent := (List.mem_filter.1 isNew).2
      rw [came, since?_of_absent (by simpa using absent), Option.none_or]
    rw [Roster.names_union]
    refine ordered.append (fun wanted moment there => ?_) (fun wanted isNew => ?_) ?_
    · rw [came, there, Option.some_or]
    · obtain ⟨moment, there⟩ := Option.isSome_iff_exists.1
        ((mem_names_edited past source wanted).1 (List.mem_filter.1 isNew).1)
      exact ⟨moment, by rw [new isNew, there, Option.map_some]⟩
    · refine ((ordered source).filter _).imp_of_mem ?_
      rintro first second isFirst isSecond ⟨moment, later, cameFirst, cameSecond, sooner⟩
      refine ⟨past.length :: moment, past.length :: later, ?_, ?_,
        List.cons_lt_cons_iff.2 (.inr ⟨rfl, sooner⟩)⟩
      · rw [new isFirst, cameFirst, Option.map_some]
      · rw [new isSecond, cameSecond, Option.map_some]
  · next unwritten =>
    exact ordered.unmoved fun wanted => by rw [Edit.since?, if_neg unwritten]

theorem inOrder (past : List (Edit Host)) : InOrder past := by
  induction past with
  | nil => exact fun _ => List.Pairwise.nil
  | cons edit past ih =>
    cases edit with
    | make standard => exact ih.make standard
    | register into name arity implementation => exact ih.register into name arity implementation
    | deregister into name => exact ih.deregister into name
    | importAll into source => exact ih.importAll into source

-- A name that is taken out and comes back stands behind the one that stayed.
example :
    ((edited [.make false, .make false, .register 0 "knock" 0 .visited,
        .register 0 "ring" 0 .visited, .importAll 1 0, .deregister 1 "knock", .importAll 1 0,
        .importAll 1 1] : Shelf Unit).library 1).names = ["ring", "knock"] := by
  decide

/-! ### Where entries come from -/

/-- What stands in a library was made with some library, or was registered, under its name and with
the number of its operands. -/
theorem origin {past : List (Edit Host)} {place : LibraryId} {wanted : Text}
    {function : Function Host} (last : Edit.latest? past place wanted = some function) :
    (∃ home operator, function = Library.standardFunction home operator) ∨
      ∃ into, .register into function.name function.arity function.implementation ∈ past := by
  induction past generalizing place wanted with
  | nil => cases last
  | cons edit past ih =>
    have before {place : LibraryId} (last : Edit.latest? past place wanted = some function) :
        (∃ home operator, function = Library.standardFunction home operator) ∨
          ∃ into, .register into function.name function.arity function.implementation ∈
            edit :: past :=
      (ih last).imp_right fun ⟨into, there⟩ => ⟨into, List.mem_cons_of_mem _ there⟩
    cases edit with
    | make standard =>
      rw [Edit.latest?] at last
      split at last
      · split at last
        · obtain ⟨operator, -, rfl⟩ := Option.map_eq_some_iff.1 last
          exact .inl ⟨place, operator, rfl⟩
        · cases last
      · exact before last
    | register into name arity implementation =>
      rw [Edit.latest?] at last
      split at last
      · next written =>
        cases last
        refine .inr ⟨into, ?_⟩
        rw [Int.toNat_of_nonneg written.2.2.2]
        exact List.mem_cons_self
      · exact before last
    | deregister into name =>
      rw [Edit.latest?] at last
      split at last
      · cases last
      · exact before last
    | importAll into source =>
      rw [Edit.latest?] at last
      split at last
      · obtain brought | ⟨-, there⟩ := Option.or_eq_some_iff.1 last
        · exact before brought
        · exact before there
      · exact before last

end Shelf

/-! ### Libraries after any edits -/

namespace Library

/-- What a library holds after edits, which are given with the latest first. -/
structure Records (library : Library Host) (place : LibraryId) (past : List (Edit Host)) :
    Prop where
  distinct : library.names.Nodup
  /-- Entries stand under their own names. -/
  named : ∀ wanted function, library.lookup wanted = .ok function → function.name = wanted
  /-- What was registered had the number of operands that it has, and so not a negative one. -/
  counted : ∀ function ∈ library.entries,
    (∃ home operator, function = standardFunction home operator) ∨
      ∃ into, .register into function.name function.arity function.implementation ∈ past
  /-- A look-up finds what was put under the name last, or fails. -/
  found : ∀ wanted, library.lookup wanted =
    match Edit.latest? past place wanted with
    | some function => .ok function
    | none => .error (.functionNotFound wanted)
  /-- The names are those that have come in and were not taken out since. -/
  listed : ∀ wanted, wanted ∈ library.names ↔ (Edit.since? past place wanted).isSome
  ordered : library.names.Pairwise (Edit.Before past place)

/-- The laws of imports. -/
structure Unites (first second third : Library Host) : Prop where
  /-- What is imported is found before what was there. -/
  found : ∀ wanted, (first.importAll second).lookup wanted =
    (second.lookup wanted <|> first.lookup wanted)
  /-- The new names stand behind those that were there. -/
  listed : (first.importAll second).names =
    first.names ++ second.names.filter fun name => name ∉ first.names
  associative : (first.importAll second).importAll third = first.importAll (second.importAll third)
  idempotent : (first.importAll second).importAll second = first.importAll second
  itself : first.importAll first = first

theorem unites (first second third : Library Host) : Unites first second third where
  found wanted := by
    rw [lookup, lookup, lookup, importAll_eq, Roster.get?_union]
    cases second.get? wanted with
    | some function => rfl
    | none => rfl
  listed := Roster.names_union first second
  associative := Roster.union_assoc first second third
  idempotent := by
    rw [importAll_eq, importAll_eq, Roster.union_assoc, Roster.union_self]
  itself := Roster.union_self first

end Library

namespace Shelf

theorem records (past : List (Edit Host)) (place : LibraryId) :
    ((edited past.reverse).library place).Records place past where
  distinct := Roster.nodup _
  named wanted function found := by
    rw [Library.lookup] at found
    split at found
    · next there =>
      cases found
      exact (Roster.get?_eq_some_iff.1 there).2
    · cases found
  counted function member := by
    have there := Roster.get?_eq_some_iff.2 ⟨member, rfl⟩
    rw [get?_edited] at there
    exact origin there
  found wanted := by
    rw [← get?_edited past place wanted]
    rfl
  listed := mem_names_edited past place
  ordered := inOrder past place

/-- An edit changes no library but the one that it writes to. -/
theorem library_edit_other {shelf : Shelf Host} {edit : Edit Host} {place : LibraryId}
    (there : place < shelf.libraries.length) (other : edit.place? ≠ some place) :
    (shelf.edit edit).library place = shelf.library place := by
  cases edit with
  | make standard => rw [library_make, if_neg (Nat.ne_of_lt there)]
  | register into name arity implementation =>
    rw [library_register, if_neg fun all => other (congrArg some all.1)]
  | deregister into name => rw [library_deregister, if_neg fun same => other (congrArg some same)]
  | importAll into source =>
    rw [library_importAll, if_neg fun both => other (congrArg some both.1)]

theorem library_edits_other {shelf : Shelf Host} {edits : List (Edit Host)} {place : LibraryId}
    (there : place < shelf.libraries.length) (others : ∀ edit ∈ edits, edit.place? ≠ some place) :
    (edits.foldl edit shelf).library place = shelf.library place := by
  induction edits generalizing shelf with
  | nil => rfl
  | cons first rest ih =>
    obtain ⟨other, others⟩ := List.forall_mem_cons.1 others
    have still : place < (shelf.edit first).libraries.length := by
      rw [length_edit]
      exact Nat.lt_add_right _ there
    rw [List.foldl_cons, ih still others, library_edit_other there other]

/-- What edits lead to, which are given with the latest first, and what edits do from there on. -/
structure WellKept (shelf : Shelf Host) (past : List (Edit Host)) : Prop where
  records : ∀ place, (shelf.library place).Records place past
  /-- A negative number of operands is refused, and nothing is changed. -/
  refused : ∀ place name arity implementation, arity < 0 →
    (shelf.library place).register name arity implementation =
        .error (.negativeArity name arity) ∧
      shelf.edit (.register place name arity implementation) = shelf
  /-- A name that is written over stays where it is. -/
  overwritten : ∀ place name arity implementation, name ∈ (shelf.library place).names →
    ((shelf.edit (.register place name arity implementation)).library place).names =
      (shelf.library place).names
  /-- An import changes nothing but the library that receives it. -/
  imported : ∀ into source place, into ≠ place →
    (shelf.edit (.importAll into source)).library place = shelf.library place
  /-- What was imported stays, whatever becomes of other libraries, of the source among them. -/
  kept : ∀ into source (later : List (Edit Host)), into < Edit.made past →
    (∀ edit ∈ later, edit.place? ≠ some into) →
    (later.foldl Shelf.edit (shelf.edit (.importAll into source))).library into =
      (shelf.library into).importAll (shelf.library source)
  unites : ∀ first second third,
    (shelf.library first).Unites (shelf.library second) (shelf.library third)
  /-- To import one library after another is to import them united. -/
  chained : ∀ into middle source, into ≠ middle → into ≠ source → middle < Edit.made past →
    ((shelf.edit (.importAll into middle)).edit (.importAll into source)).library into =
      ((shelf.edit (.importAll middle source)).edit (.importAll into middle)).library into
  /-- To import a library again changes nothing. -/
  again : ∀ into source, (shelf.edit (.importAll into source)).edit (.importAll into source) =
    shelf.edit (.importAll into source)

theorem edit_negative (shelf : Shelf Host) (place : LibraryId) (name : Text) {arity : Int}
    (negative : arity < 0) (implementation : Implementation Host) :
    (shelf.library place).register name arity implementation =
        .error (.negativeArity name arity) ∧
      shelf.edit (.register place name arity implementation) = shelf := by
  have refused : (shelf.library place).register name arity implementation =
      .error (.negativeArity name arity) := if_pos negative
  refine ⟨refused, ?_⟩
  rw [edit, refused]

theorem names_register (shelf : Shelf Host) (place : LibraryId) {name : Text} (arity : Int)
    (implementation : Implementation Host) (there : name ∈ (shelf.library place).names) :
    ((shelf.edit (.register place name arity implementation)).library place).names =
      (shelf.library place).names := by
  rw [library_register]
  split
  · rw [Roster.names_insert, if_pos there]
  · rfl

/-- Shelves with the same libraries are the same. -/
theorem eq_of_library {first second : Shelf Host}
    (length : first.libraries.length = second.libraries.length)
    (same : ∀ place, first.library place = second.library place) : first = second := by
  refine congrArg Shelf.mk (List.ext_getElem length fun place inside insideToo => ?_)
  have there := same place
  rw [library, library, List.getElem?_eq_getElem inside, List.getElem?_eq_getElem insideToo]
    at there
  exact there

theorem importAll_again (shelf : Shelf Host) (into source : LibraryId) :
    (shelf.edit (.importAll into source)).edit (.importAll into source) =
      shelf.edit (.importAll into source) := by
  have length : (shelf.edit (.importAll into source)).libraries.length =
      shelf.libraries.length := List.length_set
  refine eq_of_library List.length_set fun place => ?_
  rw [library_importAll (shelf.edit _), length]
  split
  · next written =>
    -- The source is the same as before, or it is the receiving library itself.
    rw [library_importAll, if_pos written, library_importAll]
    split
    · next itself => rw [← itself.1.symm.trans written.1, Roster.union_self, Roster.union_self]
    · rw [Roster.union_assoc, Roster.union_self]
  · rfl

theorem importAll_chained (shelf : Shelf Host) {into middle source : LibraryId}
    (apart : into ≠ middle) (apartToo : into ≠ source) (there : middle < shelf.libraries.length) :
    ((shelf.edit (.importAll into middle)).edit (.importAll into source)).library into =
      ((shelf.edit (.importAll middle source)).edit (.importAll into middle)).library into := by
  have length (place other : LibraryId) : (shelf.edit (.importAll place other)).libraries.length =
      shelf.libraries.length := List.length_set
  have unwritten : (shelf.edit (.importAll into middle)).library source = shelf.library source := by
    rw [library_importAll, if_neg fun both => apartToo both.1]
  have received : (shelf.edit (.importAll middle source)).library into = shelf.library into := by
    rw [library_importAll, if_neg fun both => apart both.1.symm]
  have united : (shelf.edit (.importAll middle source)).library middle =
      (shelf.library middle).union (shelf.library source) := by
    rw [library_importAll, if_pos ⟨rfl, there⟩]
  rw [library_importAll (shelf.edit _), library_importAll (shelf.edit _), length, length,
    unwritten, received, united, library_importAll]
  split
  · exact Roster.union_assoc _ _ _
  · rfl

/-- Whatever edits were made, every library holds under its own name what was put there last, lists
the names in the order in which they came in, and takes in other libraries as an ordered union. -/
theorem edited_wellKept (edits : List (Edit Host)) : (edited edits).WellKept edits.reverse := by
  have made : (edited edits).libraries.length = Edit.made edits.reverse := by
    rw [← length_edited, List.reverse_reverse]
  refine ⟨fun place => ?_, fun place name arity implementation negative => ?_,
    fun place name arity implementation there => ?_, fun into source place other => ?_,
    fun into source later there others => ?_, fun first second third => ?_,
    fun into middle source apart apartToo there => ?_, fun into source => ?_⟩
  · simpa only [List.reverse_reverse] using records edits.reverse place
  · exact edit_negative _ place name negative implementation
  · exact names_register _ place arity implementation there
  · rw [library_importAll, if_neg fun both => other both.1]
  · have still : into < ((edited edits).edit (.importAll into source)).libraries.length := by
      rw [length_edit, made]
      exact Nat.lt_add_right _ there
    rw [library_edits_other still others, library_importAll, made, if_pos ⟨rfl, there⟩]
    rfl
  · exact Library.unites _ _ _
  · exact importAll_chained _ apart apartToo (made ▸ there)
  · exact importAll_again _ into source

end Shelf

end Parley
