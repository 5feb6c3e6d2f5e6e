/-
Which entries a roster holds after it was written to: the entries written and
those that were there before, no others, and no name is lost by writing. An entry
under a new name stands behind the others.
-/

import Parley.Roster

namespace Parley

variable {Entry Name : Type} [DecidableEq Name] {name : Entry → Name}

theorem mem_upsert {entry written : Entry} {entries : List Entry}
    (member : entry ∈ upsert name written entries) : entry = written ∨ entry ∈ entries := by
  induction entries with
  | nil => exact .inl (List.mem_singleton.1 member)
  | cons head rest ih =>
    rw [upsert] at member
    split at member
    · obtain rfl | behind := List.mem_cons.1 member
      · exact .inl rfl
      · exact .inr (List.mem_cons_of_mem _ behind)
    · obtain rfl | behind := List.mem_cons.1 member
      · exact .inr List.mem_cons_self
      · exact (ih behind).imp_right (List.mem_cons_of_mem _)

/-- Writing replaces the entry of the same name and no other. -/
theorem mem_upsert_iff {entry written : Entry} {entries : List Entry}
    (distinct : (entries.map name).Nodup) :
    entry ∈ upsert name written entries ↔
      entry = written ∨ entry ∈ entries ∧ name entry ≠ name written := by
  induction entries with
  | nil => simp [upsert]
  | cons head rest ih =>
    obtain ⟨fresh, distinct⟩ := List.nodup_cons.1 distinct
    rw [upsert]
    by_cases same : name head = name written
    · -- The head is the entry that goes, and no entry behind it has its name.
      have others : entry ∈ rest → name entry ≠ name written := fun member taken =>
        fresh (List.mem_map.2 ⟨entry, member, taken.trans same.symm⟩)
      rw [if_pos same, List.mem_cons, List.mem_cons]
      constructor
      · exact Or.imp_right fun member => ⟨.inr member, others member⟩
      · rintro (rfl | ⟨rfl | member, other⟩)
        · exact .inl rfl
        · exact absurd same other
        · exact .inr member
    · rw [if_neg same, List.mem_cons, List.mem_cons, ih distinct]
      constructor
      · rintro (rfl | rfl | ⟨member, other⟩)
        · exact .inr ⟨.inl rfl, same⟩
        · exact .inl rfl
        · exact .inr ⟨.inr member, other⟩
      · rintro (rfl | ⟨rfl | member, other⟩)
        · exact .inr (.inl rfl)
        · exact .inl rfl
        · exact .inr (.inr ⟨member, other⟩)

theorem upsert_of_absent {written : Entry} {entries : List Entry}
    (absent : name written ∉ entries.map name) :
    upsert name written entries = entries ++ [written] := by
  induction entries with
  | nil => rfl
  | cons head rest ih =>
    rw [List.map_cons, List.mem_cons, not_or] at absent
    rw [upsert, if_neg fun same => absent.1 same.symm, ih absent.2, List.cons_append]

/-- Entries that are brought into another form under the same names are written the same. -/
theorem upsert_map {Form : Type} {form : Entry → Form} {other : Form → Name}
    (agree : ∀ entry, other (form entry) = name entry) (written : Entry) (entries : List Entry) :
    upsert other (form written) (entries.map form) = (upsert name written entries).map form := by
  induction entries with
  | nil => rfl
  | cons head rest ih =>
    rw [List.map_cons, upsert, upsert, agree, agree]
    split
    · rfl
    · rw [ih, List.map_cons]

theorem find?_of_mem {entry : Entry} {entries : List Entry} (distinct : (entries.map name).Nodup)
    (member : entry ∈ entries) :
    entries.find? (fun other => name other = name entry) = some entry := by
  induction entries with
  | nil => cases member
  | cons head rest ih =>
    obtain ⟨fresh, distinct⟩ := List.nodup_cons.1 distinct
    obtain rfl | behind := List.mem_cons.1 member
    · exact List.find?_cons_of_pos (by simp)
    · have other : name head ≠ name entry := fun same =>
        fresh (List.mem_map.2 ⟨entry, behind, same.symm⟩)
      rw [List.find?_cons_of_neg (by simpa using other)]
      exact ih distinct behind

namespace Roster

omit [DecidableEq Name] in
/-- Rosters with the same entries are the same. -/
theorem eq_of_entries {first second : Roster name} (same : first.entries = second.entries) :
    first = second := by
  cases first
  cases second
  cases same
  rfl

instance [DecidableEq Entry] : DecidableEq (Roster name) := fun first second =>
  decidable_of_iff (first.entries = second.entries) ⟨eq_of_entries, congrArg entries⟩

theorem mem_insert {roster : Roster name} {entry written : Entry}
    (member : entry ∈ (roster.insert written).entries) : entry = written ∨ entry ∈ roster.entries :=
  mem_upsert member

theorem mem_insertAll {roster : Roster name} {entry : Entry} {written : List Entry}
    (member : entry ∈ (roster.insertAll written).entries) :
    entry ∈ written ∨ entry ∈ roster.entries := by
  induction written generalizing roster with
  | nil => exact .inr member
  | cons first rest ih =>
    obtain behind | before := ih member
    · exact .inl (List.mem_cons_of_mem _ behind)
    · obtain rfl | before := mem_insert before
      · exact .inl List.mem_cons_self
      · exact .inr before

/-- The entries that are written stay, and so do those under whose names none is written. -/
theorem mem_insertAll_iff {roster : Roster name} {entry : Entry} {written : List Entry}
    (distinct : (written.map name).Nodup) :
    entry ∈ (roster.insertAll written).entries ↔
      entry ∈ written ∨ entry ∈ roster.entries ∧ name entry ∉ written.map name := by
  induction written generalizing roster with
  | nil => simp [insertAll]
  | cons first rest ih =>
    obtain ⟨fresh, distinct⟩ := List.nodup_cons.1 distinct
    have step : entry ∈ (roster.insertAll (first :: rest)).entries ↔ entry ∈ rest ∨
        (entry = first ∨ entry ∈ roster.entries ∧ name entry ≠ name first) ∧
          name entry ∉ rest.map name :=
      (ih distinct).trans (or_congr_right (and_congr_left' (mem_upsert_iff roster.nodup)))
    rw [step, List.mem_cons, List.map_cons, List.mem_cons, not_or]
    constructor
    · rintro (behind | ⟨rfl | ⟨member, other⟩, absent⟩)
      · exact .inl (.inr behind)
      · exact .inl (.inl rfl)
      · exact .inr ⟨member, other, absent⟩
    · rintro ((rfl | behind) | ⟨member, other, absent⟩)
      · exact .inr ⟨.inl rfl, fresh⟩
      · exact .inl behind
      · exact .inr ⟨.inr ⟨member, other⟩, absent⟩

/-- What is found under a name is the entry of that name. -/
theorem get?_eq_some_iff {roster : Roster name} {wanted : Name} {entry : Entry} :
    roster.get? wanted = some entry ↔ entry ∈ roster.entries ∧ name entry = wanted := by
  constructor
  · intro found
    exact ⟨List.mem_of_find?_eq_some found, by simpa using List.find?_some found⟩
  · rintro ⟨member, rfl⟩
    exact find?_of_mem roster.nodup member

theorem contains_iff {roster : Roster name} {wanted : Name} :
    roster.contains wanted = true ↔ wanted ∈ roster.names := by
  simp [contains, names]

theorem entries_insert_of_absent {roster : Roster name} {written : Entry}
    (absent : roster.contains (name written) = false) :
    (roster.insert written).entries = roster.entries ++ [written] := by
  refine upsert_of_absent fun there => ?_
  rw [contains_iff.2 there] at absent
  cases absent

theorem contains_insert {roster : Roster name} {wanted : Name} (written : Entry)
    (there : roster.contains wanted = true) : (roster.insert written).contains wanted = true := by
  rw [contains_iff] at there ⊢
  rw [names, insert, map_upsert]
  split
  · exact there
  · exact List.mem_append_left _ there

theorem contains_insertAll {roster : Roster name} {wanted : Name} (written : List Entry)
    (there : roster.contains wanted = true) :
    (roster.insertAll written).contains wanted = true := by
  induction written generalizing roster with
  | nil => exact there
  | cons first rest ih => exact ih (contains_insert first there)

/-- Forgetting a name that is not there loses no name. -/
theorem contains_erase {roster : Roster name} {wanted unwanted : Name}
    (absent : roster.contains unwanted = false) (there : roster.contains wanted = true) :
    (roster.erase unwanted).contains wanted = true := by
  obtain ⟨entry, member, same⟩ := List.any_eq_true.1 there
  refine List.any_eq_true.2 ⟨entry, List.mem_filter.2 ⟨member, ?_⟩, same⟩
  have other := List.any_eq_false.1 absent entry member
  simpa using other

/-- A name that is there has an entry of that name. -/
theorem get?_of_contains {roster : Roster name} {wanted : Name}
    (there : roster.contains wanted = true) :
    ∃ entry ∈ roster.entries, roster.get? wanted = some entry := by
  obtain ⟨entry, member, same⟩ := List.any_eq_true.1 there
  cases found : roster.get? wanted with
  | none => exact absurd same (List.find?_eq_none.1 found entry member)
  | some entry => exact ⟨entry, List.mem_of_find?_eq_some found, rfl⟩

/-- What was written is found under its name, and nothing else is found otherwise than before. -/
theorem get?_insert (roster : Roster name) (written : Entry) (wanted : Name) :
    (roster.insert written).get? wanted =
      if wanted = name written then some written else roster.get? wanted := by
  ext entry
  have among : entry ∈ (roster.insert written).entries ↔
      entry = written ∨ entry ∈ roster.entries ∧ name entry ≠ name written :=
    mem_upsert_iff roster.nodup
  rw [get?_eq_some_iff, among]
  by_cases same : wanted = name written
  · subst same
    rw [if_pos rfl, Option.some.injEq]
    constructor
    · rintro ⟨rfl | ⟨-, other⟩, named⟩
      · rfl
      · exact absurd named other
    · rintro rfl
      exact ⟨.inl rfl, rfl⟩
  · rw [if_neg same, get?_eq_some_iff]
    constructor
    · rintro ⟨rfl | ⟨member, -⟩, rfl⟩
      · exact absurd rfl same
      · exact ⟨member, rfl⟩
    · rintro ⟨member, rfl⟩
      exact ⟨.inr ⟨member, same⟩, rfl⟩

theorem names_erase (roster : Roster name) (unwanted : Name) :
    (roster.erase unwanted).names = roster.names.filter (· ≠ unwanted) := by
  rw [names, names, List.filter_map]
  rfl

/-- What was forgotten is not found, and nothing else is found otherwise than before. -/
theorem get?_erase (roster : Roster name) (unwanted wanted : Name) :
    (roster.erase unwanted).get? wanted =
      if wanted = unwanted then none else roster.get? wanted := by
  ext entry
  have among : entry ∈ (roster.erase unwanted).entries ↔
      entry ∈ roster.entries ∧ name entry ≠ unwanted := by
    simp [erase]
  rw [get?_eq_some_iff, among]
  split
  · next same =>
    refine iff_of_false ?_ nofun
    rintro ⟨⟨-, other⟩, named⟩
    exact other (named.trans same)
  · next other =>
    rw [get?_eq_some_iff]
    constructor
    · exact fun found => ⟨found.1.1, found.2⟩
    · rintro ⟨member, rfl⟩
      exact ⟨⟨member, other⟩, rfl⟩

/-! ### Rosters written into rosters -/

theorem names_insert (roster : Roster name) (written : Entry) :
    (roster.insert written).names =
      if name written ∈ roster.names then roster.names else roster.names ++ [name written] :=
  map_upsert name written roster.entries

/-- The names that are written stand behind those that were there, as far as they are new. -/
theorem names_insertAll (roster : Roster name) {written : List Entry}
    (distinct : (written.map name).Nodup) :
    (roster.insertAll written).names =
      roster.names ++ (written.map name).filter fun other => other ∉ roster.names := by
  induction written generalizing roster with
  | nil => exact (List.append_nil _).symm
  | cons first rest ih =>
    obtain ⟨fresh, distinct⟩ := List.nodup_cons.1 distinct
    have onward : (roster.insertAll (first :: rest)).names = (roster.insert first).names ++
        (rest.map name).filter fun other => other ∉ (roster.insert first).names :=
      ih (roster.insert first) distinct
    rw [onward, names_insert, List.map_cons]
    by_cases there : name first ∈ roster.names
    · rw [if_pos there, List.filter_cons_of_neg (by simpa using there)]
    · rw [if_neg there, List.filter_cons_of_pos (by simpa using there), List.append_assoc]
      refine congrArg (roster.names ++ name first :: ·) ?_
      -- The first name is new as well, but it is not written a second time.
      refine List.filter_congr fun other member => ?_
      have apart : other ≠ name first := fun same => fresh (same ▸ member)
      simp [apart]

/-- What is written is found before what was there. -/
theorem get?_insertAll (roster : Roster name) {written : List Entry}
    (distinct : (written.map name).Nodup) (wanted : Name) :
    (roster.insertAll written).get? wanted =
      (written.find? fun entry => name entry = wanted).or (roster.get? wanted) := by
  induction written generalizing roster with
  | nil => rfl
  | cons first rest ih =>
    obtain ⟨fresh, distinct⟩ := List.nodup_cons.1 distinct
    have onward : (roster.insertAll (first :: rest)).get? wanted =
        (rest.find? fun entry => name entry = wanted).or ((roster.insert first).get? wanted) :=
      ih (roster.insert first) distinct
    rw [onward, get?_insert, List.find?_cons]
    by_cases same : name first = wanted
    · have absent : (rest.find? fun entry => name entry = wanted) = none := by
        refine List.find?_eq_none.2 fun entry member => ?_
        simpa using fun taken : name entry = wanted =>
          fresh (List.mem_map.2 ⟨entry, member, taken.trans same.symm⟩)
      simp [absent, same]
    · have other : wanted ≠ name first := fun equal => same equal.symm
      simp [same, other]

/-- Entries that are brought into another form under the same names make the same roster. -/
theorem entries_insertAll_map {Form : Type} {form : Entry → Form} {other : Form → Name}
    (agree : ∀ entry, other (form entry) = name entry) {first : Roster other} {second : Roster name}
    (same : first.entries = second.entries.map form) (written : List Entry) :
    (first.insertAll (written.map form)).entries = (second.insertAll written).entries.map form := by
  induction written generalizing first second with
  | nil => exact same
  | cons head rest ih =>
    have step : (first.insert (form head)).entries = (second.insert head).entries.map form := by
      show upsert other (form head) first.entries = _
      rw [same]
      exact upsert_map agree head second.entries
    exact ih step

theorem get?_eq_none_iff {roster : Roster name} {wanted : Name} :
    roster.get? wanted = none ↔ wanted ∉ roster.names := by
  simp [get?, names]

/-- The entries are those that are found under the names, in the order of the names. -/
theorem map_get?_names (roster : Roster name) :
    roster.names.map roster.get? = roster.entries.map some := by
  rw [names, List.map_map]
  exact List.map_congr_left fun entry member => find?_of_mem roster.nodup member

/-- Rosters that list the same names, and in which the same is found under each of them, are the
same. -/
theorem eq_of_names {first second : Roster name} (names : first.names = second.names)
    (found : ∀ wanted, first.get? wanted = second.get? wanted) : first = second := by
  have same : first.entries.map some = second.entries.map some := by
    rw [← map_get?_names, ← map_get?_names, names, funext found]
  exact eq_of_entries ((List.map_inj_right fun _ _ => Option.some.inj).1 same)

/-- A roster with all entries of another one written into it. -/
def union (first second : Roster name) : Roster name := first.insertAll second.entries

/-- In a union the second roster is looked at before the first. -/
theorem get?_union (first second : Roster name) (wanted : Name) :
    (first.union second).get? wanted = (second.get? wanted).or (first.get? wanted) :=
  get?_insertAll first second.nodup wanted

/-- A union lists the names of the first roster, and behind them the new ones of the second. -/
theorem names_union (first second : Roster name) :
    (first.union second).names =
      first.names ++ second.names.filter fun other => other ∉ first.names :=
  names_insertAll first second.nodup

theorem union_assoc (first second third : Roster name) :
    (first.union second).union third = first.union (second.union third) := by
  refine eq_of_names ?_ fun wanted => ?_
  · rw [names_union, names_union, names_union, names_union, List.filter_append,
      List.filter_filter, List.append_assoc]
    congr 2
    refine List.filter_congr fun other _ => ?_
    by_cases inFirst : other ∈ first.names
    · simp [inFirst]
    · by_cases inSecond : other ∈ second.names
      · simp [inFirst, inSecond]
      · simp [inFirst, inSecond]
  · rw [get?_union, get?_union, get?_union, get?_union, Option.or_assoc]

theorem union_self (roster : Roster name) : roster.union roster = roster := by
  refine eq_of_names ?_ fun wanted => ?_
  · rw [names_union, List.filter_eq_nil_iff.2 fun other member => by simpa using member,
      List.append_nil]
  · rw [get?_union, Option.or_self]

theorem union_empty (roster : Roster name) : roster.union empty = roster := rfl

theorem empty_union (roster : Roster name) : empty.union roster = roster := by
  refine eq_of_names ?_ fun wanted => ?_
  · rw [names_union]
    exact List.filter_eq_self.2 fun other _ => by simp [names, empty]
  · rw [get?_union]
    exact Option.or_none

/-- Where no name is in both rosters, the order of a union does not show in what is found. -/
theorem get?_union_comm {first second : Roster name}
    (disjoint : ∀ wanted ∈ first.names, wanted ∉ second.names) (wanted : Name) :
    (first.union second).get? wanted = (second.union first).get? wanted := by
  rw [get?_union, get?_union]
  by_cases there : wanted ∈ first.names
  · rw [get?_eq_none_iff.2 (disjoint wanted there), Option.none_or, Option.or_none]
  · rw [get?_eq_none_iff.2 there, Option.none_or, Option.or_none]

end Roster

namespace Ledger

variable {Value : Type}

theorem find?_put_self (ledger : Ledger Name Value) (written : Name) (value : Value) :
    (ledger.put written value).find? written = some value := by
  rw [find?, put, Roster.get?_insert, if_pos rfl]
  rfl

theorem find?_put_other (ledger : Ledger Name Value) {wanted written : Name}
    (other : wanted ≠ written) (value : Value) :
    (ledger.put written value).find? wanted = ledger.find? wanted := by
  rw [find?, put, Roster.get?_insert, if_neg other]
  rfl

end Ledger

end Parley
