/-
This file settles how log filters are put together. A filter is what its items leave, one
after the other: the level is that of the last bare item, and each source has the level of
the last item that names it. So a filter that goes on behind a comma is the filter before
the comma with the one behind it written over it; only the usual level is not written over
anything, since it stands for no item.

What an item is about is all that ties it to other items. Two rows of items leave the same
levels if, for everything that an item can be about, they hold the same items about it in
the same order.
-/

import Parley.LogFilter
import Parley.Proofs.Roster.Latest
import Parley.Proofs.Text.Split

namespace Parley

namespace LogFilter

open Parley.Text

/-! ### Items -/

/-- The source that an item is about; none if the item is bare. -/
def subject? (item : List Char) : Option String :=
  match partition '=' item with
  | (_, none) => none
  | (name, some _) => some (String.ofList (trimChars name))

/-- The level that an item sets; none if it silences a source. -/
def setting (item : List Char) : Option String :=
  match partition '=' item with
  | (_, none) => some (upper (String.ofList item))
  | (_, some level) =>
    let level := String.ofList (trimChars level)
    if isSilence level then none else some (upper level)

/-- The items of a row that are about something: about a source, or about everything. -/
def about (subject : Option String) (items : List (List Char)) : List (List Char) :=
  items.filter fun item => subject? item = subject

/-- What the items of a row say of sources. -/
def namings (items : List (List Char)) : List (String × Option String) :=
  items.filterMap fun item => (subject? item).map fun name => (name, setting item)

theorem add_of_bare {item : List Char} (bare : subject? item = none) (filter : LogFilter) :
    filter.add item = { filter with level := (setting item).getD filter.level } := by
  obtain ⟨-, cut⟩ | ⟨name, rest, -, -, cut⟩ := partition_cases '=' item
  · rw [add, setting, cut]
    rfl
  · rw [subject?, cut] at bare
    cases bare

theorem add_of_naming {item : List Char} {name : String} (naming : subject? item = some name)
    (filter : LogFilter) :
    filter.add item = { filter with modules := filter.modules.put name (setting item) } := by
  obtain ⟨-, cut⟩ | ⟨name, rest, -, -, cut⟩ := partition_cases '=' item
  · rw [subject?, cut] at naming
    cases naming
  · rw [subject?, cut] at naming
    cases naming
    rw [add, setting, cut]

/-- The level that a row of items sets for everything, if it sets one. -/
def global? (items : List (List Char)) : Option String :=
  (about none items).getLast?.bind setting

theorem isSome_setting {item : List Char} (bare : subject? item = none) :
    (setting item).isSome = true := by
  obtain ⟨-, cut⟩ | ⟨name, rest, -, -, cut⟩ := partition_cases '=' item
  · rw [setting, cut]
    rfl
  · rw [subject?, cut] at bare
    cases bare

/-- The last bare item of a row sets a level. -/
theorem exists_setting_of_last {items : List (List Char)} {item : List Char}
    (last : (about none items).getLast? = some item) : ∃ level, setting item = some level := by
  have bare := (List.mem_filter.1 (List.mem_of_getLast? last)).2
  exact Option.isSome_iff_exists.1 (isSome_setting (of_decide_eq_true bare))

/-- A row of items sets the level of its last bare item, and writes what it says of sources. -/
theorem foldl_add (items : List (List Char)) (filter : LogFilter) :
    items.foldl add filter =
      ⟨(global? items).getD filter.level, filter.modules.insertAll (namings items)⟩ := by
  induction items generalizing filter with
  | nil => rfl
  | cons item rest ih =>
    rw [List.foldl_cons, ih, global?, global?, about, about, namings, namings]
    cases subject : subject? item with
    | none =>
      obtain ⟨level, set⟩ := Option.isSome_iff_exists.1 (isSome_setting subject)
      rw [add_of_bare subject, List.filter_cons_of_pos (by simpa using subject),
        List.filterMap_cons_none (by rw [subject]; rfl), List.getLast?_cons, set]
      cases last : (rest.filter fun item => subject? item = none).getLast? with
      | none =>
        rw [Option.getD_none, Option.bind_some, set]
        rfl
      | some latest =>
        obtain ⟨level, set⟩ := exists_setting_of_last last
        simp only [Option.bind_some, Option.getD_some, set]
    | some name =>
      rw [add_of_naming subject, List.filter_cons_of_neg (by simp [subject]),
        List.filterMap_cons_some (by rw [subject]; rfl)]
      rfl

/-- A filter by its items. -/
theorem ofString_eq (text : String) :
    ofString text =
      ⟨(global? (items text)).getD usual.level, Roster.ofList (namings (items text))⟩ :=
  foldl_add (items text) usual

/-! ### Items of texts -/

/-- Tells whether a text has anything but blanks. -/
def isFilled (text : List Char) : Bool := text.any fun char => ! isBlank char

theorem isFilled_eq (text : List Char) : isFilled text = ! (trimChars text).isEmpty := by
  rw [Bool.eq_iff_iff, Bool.not_eq_true', List.isEmpty_eq_false_iff, Ne, trimChars_eq_nil_iff,
    isFilled, List.any_eq_true, Blank]
  push Not
  simp only [Bool.not_eq_true', Bool.not_eq_true]

/-- What stands between commas is an item, unless it is blank. -/
theorem items_of_part {part : String} (whole : ',' ∉ part.toList) :
    items part = if isFilled part.toList then [trimChars part.toList] else [] := by
  have single : pieces (· = ',') part.toList = [part.toList] :=
    pieces_of_absent fun char member => decide_eq_false fun same => whole (same ▸ member)
  rw [items, single, List.map_singleton]
  split
  · next filled => exact List.filter_cons_of_pos (isFilled_eq _ ▸ filled)
  · next blank => exact List.filter_cons_of_neg (isFilled_eq _ ▸ blank)

theorem items_append (first second : String) :
    items (first ++ "," ++ second) = items first ++ items second := by
  have text : (first ++ "," ++ second).toList = first.toList ++ ',' :: second.toList := by
    rw [String.toList_append, String.toList_append, List.append_assoc]
    rfl
  rw [items, items, items, text, pieces_append (by decide), List.map_append, List.filter_append]

/-- Texts one behind the other, with commas between them. -/
def joined (parts : List String) : String := ",".intercalate parts

theorem joined_cons (part next : String) (rest : List String) :
    joined (part :: next :: rest) = part ++ "," ++ joined (next :: rest) := by
  rw [← String.toList_inj, joined, joined, String.toList_intercalate, String.toList_append,
    String.toList_append, String.toList_intercalate]
  exact List.intercalate_cons_cons

theorem items_joined (parts : List String) : items (joined parts) = parts.flatMap items := by
  induction parts with
  | nil => rfl
  | cons part rest ih =>
    cases rest with
    | nil =>
      have alone : joined [part] = part := by
        rw [← String.toList_inj, joined, String.toList_intercalate]
        exact List.intercalate_singleton
      rw [alone, List.flatMap_singleton]
    | cons next rest =>
      rw [joined_cons, items_append, ih]
      rfl

theorem items_of_blank {part : String} (blank : isFilled part.toList = false) :
    items part = [] := by
  have whole : ',' ∉ part.toList := fun member =>
    absurd (List.any_eq_false.1 blank ',' member) (by decide)
  rw [items_of_part whole, blank, if_neg Bool.false_ne_true]

/-- Blank items leave nothing. -/
theorem items_filled (parts : List String) :
    items (joined (parts.filter fun part => isFilled part.toList)) = items (joined parts) := by
  rw [items_joined, items_joined]
  induction parts with
  | nil => rfl
  | cons part rest ih =>
    cases filled : isFilled part.toList with
    | true => rw [List.filter_cons, filled, if_pos rfl, List.flatMap_cons, List.flatMap_cons, ih]
    | false =>
      rw [List.filter_cons, filled, if_neg Bool.false_ne_true, List.flatMap_cons,
        items_of_blank filled, ih]
      rfl

/-! ### One filter behind another -/

theorem global?_append (first second : List (List Char)) :
    global? (first ++ second) = (global? second).or (global? first) := by
  rw [global?, global?, global?, about, List.filter_append, List.getLast?_append]
  cases last : (second.filter fun item => subject? item = none).getLast? with
  | none =>
    rw [about, last]
    rfl
  | some latest =>
    obtain ⟨level, set⟩ := exists_setting_of_last last
    simp only [about, last, Option.some_or, Option.bind_some, set]

/-- Tells whether a text has an item that is not blank and has no `=`. -/
def setsLevel (text : String) : Bool :=
  (pieces (· = ',') text.toList).any fun part => isFilled part && ! part.contains '='

/-- An item is bare if what stands between the commas has no `=`. -/
theorem subject?_eq_none_iff {part : List Char} :
    subject? (trimChars part) = none ↔ '=' ∉ part := by
  obtain ⟨before, after, first, last, whole⟩ := exists_trimmed part
  have solid {text : List Char} (blank : Blank text) : '=' ∉ text := fun member =>
    absurd (blank '=' member) (by decide)
  have inside : '=' ∈ part ↔ '=' ∈ trimChars part := by
    conv_lhs => rw [whole]
    simp [solid first, solid last]
  rw [inside]
  obtain ⟨absent, cut⟩ | ⟨name, rest, -, cut, parted⟩ := partition_cases '=' (trimChars part)
  · rw [subject?, cut]
    exact iff_of_true rfl absent
  · rw [subject?, parted, cut]
    exact iff_of_false (Option.some_ne_none _) fun absent => absent (by simp)

theorem isSome_global?_iff (text : String) : (global? (items text)).isSome = setsLevel text := by
  have bare (item : List Char) : item ∈ about none (items text) ↔
      ∃ part ∈ pieces (· = ',') text.toList, isFilled part = true ∧ '=' ∉ part ∧
        trimChars part = item := by
    rw [about, List.mem_filter, items, List.mem_filter, List.mem_map]
    constructor
    · rintro ⟨⟨⟨part, member, rfl⟩, filled⟩, bare⟩
      exact ⟨part, member, isFilled_eq part ▸ filled,
        subject?_eq_none_iff.1 (of_decide_eq_true bare), rfl⟩
    · rintro ⟨part, member, filled, bare, rfl⟩
      exact ⟨⟨⟨part, member, rfl⟩, isFilled_eq part ▸ filled⟩,
        decide_eq_true (subject?_eq_none_iff.2 bare)⟩
  rw [Bool.eq_iff_iff, setsLevel, List.any_eq_true, global?]
  cases last : (about none (items text)).getLast? with
  | none =>
    refine iff_of_false (by rintro ⟨⟩) ?_
    rintro ⟨part, member, sets⟩
    rw [Bool.and_eq_true, Bool.not_eq_true', List.contains_eq_mem, decide_eq_false_iff_not] at sets
    have there := (bare _).2 ⟨part, member, sets.1, sets.2, rfl⟩
    rw [List.getLast?_eq_none_iff.1 last] at there
    cases there
  | some latest =>
    have member := List.mem_of_getLast? last
    refine iff_of_true (isSome_setting (of_decide_eq_true (List.mem_filter.1 member).2)) ?_
    obtain ⟨part, there, filled, naked, -⟩ := (bare latest).1 member
    refine ⟨part, there, ?_⟩
    rw [filled, List.contains_eq_mem, decide_eq_false naked]
    rfl

theorem namings_append (first second : List (List Char)) :
    namings (first ++ second) = namings first ++ namings second :=
  List.filterMap_append

/-- The levels of sources are those of both filters, the second written over the first. -/
theorem modules_append (first second : String) :
    (ofString (first ++ "," ++ second)).modules =
      Roster.union (ofString first).modules (ofString second).modules := by
  rw [ofString_eq, ofString_eq, ofString_eq, items_append, namings_append, Roster.ofList_append]

theorem level_append (first second : String) :
    (ofString (first ++ "," ++ second)).level =
      if setsLevel second then (ofString second).level else (ofString first).level := by
  rw [ofString_eq, ofString_eq, ofString_eq, items_append, global?_append, ← isSome_global?_iff]
  cases global? (items second) <;> rfl

/-! ### Items in another order -/

/-- Tells whether an item, with blanks around it perhaps, is about a subject. A blank one is about
nothing. -/
def isAbout (subject : Option String) (part : String) : Bool :=
  isFilled part.toList && subject? (trimChars part.toList) = subject

theorem about_joined (subject : Option String) {parts : List String}
    (whole : ∀ part ∈ parts, ',' ∉ part.toList) :
    about subject (items (joined parts)) =
      (parts.filter (isAbout subject)).map fun part => trimChars part.toList := by
  rw [items_joined]
  induction parts with
  | nil => rfl
  | cons part rest ih =>
    obtain ⟨here, behind⟩ := List.forall_mem_cons.1 whole
    have split : about subject ((part :: rest).flatMap items) =
        about subject (items part) ++ about subject (rest.flatMap items) := List.filter_append _ _
    rw [split, ih behind, items_of_part here, List.filter_cons, isAbout, about]
    cases isFilled part.toList with
    | false => rfl
    | true =>
      by_cases same : subject? (trimChars part.toList) = subject
      · simp [same]
      · simp [same]

/-- What is said of a source is what the items about it say. -/
theorem filter_namings (items : List (List Char)) (name : String) :
    (namings items).filter (fun naming => naming.1 = name) =
      (about (some name) items).map fun item => (name, setting item) := by
  induction items with
  | nil => rfl
  | cons item rest ih =>
    rw [namings, about] at *
    cases subject : subject? item with
    | none => simpa [subject] using ih
    | some other =>
      by_cases same : other = name
      · subst same
        simpa [subject] using ih
      · simpa [subject, same] using ih

theorem find?_modules (text name : String) :
    (ofString text).modules.find? name = (about (some name) (items text)).getLast?.map setting := by
  rw [ofString_eq, Ledger.find?, Roster.get?_ofList, filter_namings, List.getLast?_map,
    Option.map_map]
  rfl

theorem mem_names_modules {text name : String} :
    name ∈ (ofString text).modules.names ↔ about (some name) (items text) ≠ [] := by
  rw [ofString_eq, Roster.mem_names_ofList, namings, List.map_filterMap, List.mem_filterMap, Ne,
    about, List.filter_eq_nil_iff]
  simp

/-- Filters with the same items about everything that they can be about, in the same order, have the
same levels. -/
theorem levels_eq_of_about {first second : String}
    (same : ∀ subject, about subject (items first) = about subject (items second)) :
    (ofString first).level = (ofString second).level ∧
      (ofString first).modules.names.Perm (ofString second).modules.names ∧
      ∀ name, (ofString first).modules.find? name = (ofString second).modules.find? name := by
  refine ⟨?_, ?_, fun name => ?_⟩
  · rw [ofString_eq, ofString_eq, global?, global?, same]
  · refine (List.perm_ext_iff_of_nodup (ofString first).modules.nodup
      (ofString second).modules.nodup).2 fun name => ?_
    exact mem_names_modules.trans (same (some name) ▸ mem_names_modules.symm)
  · rw [find?_modules, find?_modules, same]

/-- A filter behind a comma is written over the filter before it: the levels of sources count that
come last, each source keeps the place where it was first named, and the level for everything is
that of the second filter if this sets one. Blank items do not matter, and neither does the order
of items about different things, but for the order of the names. -/
theorem ofString_composes :
    (∀ first second : String,
      (ofString (first ++ "," ++ second)).modules.names = (ofString first).modules.names ++
        (ofString second).modules.names.filter (· ∉ (ofString first).modules.names) ∧
      (∀ name, (ofString (first ++ "," ++ second)).modules.find? name =
        ((ofString second).modules.find? name).or ((ofString first).modules.find? name)) ∧
      (ofString (first ++ "," ++ second)).level =
        if setsLevel second then (ofString second).level else (ofString first).level) ∧
      (∀ parts : List String, ofString (joined parts) =
        ofString (joined (parts.filter fun part => isFilled part.toList))) ∧
      ∀ parts others : List String, (∀ part ∈ parts ++ others, ',' ∉ part.toList) →
        (∀ subject, parts.filter (isAbout subject) = others.filter (isAbout subject)) →
        (ofString (joined parts)).level = (ofString (joined others)).level ∧
          (ofString (joined parts)).modules.names.Perm (ofString (joined others)).modules.names ∧
          ∀ name, (ofString (joined parts)).modules.find? name =
            (ofString (joined others)).modules.find? name := by
  refine ⟨fun first second => ⟨?_, fun name => ?_, level_append first second⟩, fun parts => ?_,
    fun parts others whole same => levels_eq_of_about fun subject => ?_⟩
  · rw [modules_append, Roster.names_union]
  · rw [modules_append, Ledger.find?, Roster.get?_union, Option.map_or]
    rfl
  · rw [ofString_eq, ofString_eq, items_filled]
  · obtain ⟨first, second⟩ := List.forall_mem_append.1 whole
    rw [about_joined subject first, about_joined subject second, same]

theorem ofString_composes_rearranged :
    (∀ part ∈ ["info", "a = debug", " ", "b=false", "a=trace"] ++
      ["b=false", "a = debug", "a=trace", "info"], ',' ∉ part.toList) ∧
    (∀ subject, ["info", "a = debug", " ", "b=false", "a=trace"].filter (isAbout subject) =
      ["b=false", "a = debug", "a=trace", "info"].filter (isAbout subject)) ∧
    (ofString (joined ["info", "a = debug", " ", "b=false", "a=trace"])).level =
      (ofString (joined ["b=false", "a = debug", "a=trace", "info"])).level ∧
    (ofString (joined ["info", "a = debug", " ", "b=false", "a=trace"])).modules.names.Perm
      (ofString (joined ["b=false", "a = debug", "a=trace", "info"])).modules.names ∧
    ∀ name,
      (ofString (joined ["info", "a = debug", " ", "b=false", "a=trace"])).modules.find? name =
        (ofString (joined ["b=false", "a = debug", "a=trace", "info"])).modules.find? name := by
  have whole : ∀ part ∈ ["info", "a = debug", " ", "b=false", "a=trace"] ++
      ["b=false", "a = debug", "a=trace", "info"], ',' ∉ part.toList := by decide
  have same (subject : Option String) :
      ["info", "a = debug", " ", "b=false", "a=trace"].filter (isAbout subject) =
        ["b=false", "a = debug", "a=trace", "info"].filter (isAbout subject) := by
    have global : isAbout subject "info" = decide (none = subject) := rfl
    have blank : isAbout subject " " = false := rfl
    have first : isAbout subject "a = debug" = decide (some "a" = subject) := rfl
    have again : isAbout subject "a=trace" = decide (some "a" = subject) := rfl
    have second : isAbout subject "b=false" = decide (some "b" = subject) := rfl
    simp only [List.filter_cons, global, blank, first, again, second]
    obtain rfl | other := eq_or_ne subject none
    · rfl
    · obtain rfl | named := eq_or_ne subject (some "a")
      · rfl
      · simp [other.symm, named.symm]
  exact ⟨whole, same, ofString_composes.2.2 _ _ whole same⟩

end LogFilter

end Parley
