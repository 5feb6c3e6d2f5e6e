/-
This file settles which records a log filter shows. One item of the filter decides for
each source: the last one about the longest name above the source, else the last one with
an empty name, else the last bare one. A record is shown if that item has a level which is
not above the record's own.

The names above a source are the source and the names above its parent. So the walk that
looks the source up, and then each parent, meets the longest name that has an item first.
An item that is added can change what is shown of sources under its name and of no others.
-/

import Parley.Proofs.LogFilter.Composition
import Parley.Proofs.Rows

namespace Parley

namespace LogFilter

open Parley.Text

/-! ### Names above a source -/

/-- A name is above a source if the source is this name, or goes on behind it with a dot. -/
def Above (name source : List Char) : Prop := name = source ∨ name ++ ['.'] <+: source

/-- A name of several parts is its parent, a dot, and a last part without dots. -/
theorem parent_cases (name : List Char) :
    '.' ∉ name ∧ LogLevels.parent name = [] ∨
      ∃ last, '.' ∉ last ∧ name = LogLevels.parent name ++ '.' :: last := by
  by_cases dotted : '.' ∈ name
  · obtain ⟨last, front, backward, absent⟩ :=
      List.eq_append_cons_of_mem (List.mem_reverse.2 dotted)
    have before : ∀ char ∈ last, decide (char ≠ '.') = true := fun char member =>
      decide_eq_true fun same => absent (same ▸ member)
    have parent : LogLevels.parent name = front.reverse := by
      rw [LogLevels.parent, backward, List.dropWhile_append_of_pos before,
        List.dropWhile_cons_of_neg (by simp), List.drop_one, List.tail_cons]
    refine .inr ⟨last.reverse, fun member => absent (List.mem_reverse.1 member), ?_⟩
    rw [parent, ← List.reverse_reverse name, backward, List.reverse_append, List.reverse_cons,
      List.append_assoc, List.singleton_append]
  · refine .inl ⟨dotted, ?_⟩
    have none : name.reverse.dropWhile (· ≠ '.') = [] :=
      List.dropWhile_eq_nil_iff.2 fun char member =>
        decide_eq_true fun same => dotted (same ▸ List.mem_reverse.1 member)
    rw [LogLevels.parent, none]
    rfl

/-- The names above a source are the source and the names above its parent. -/
theorem above_iff {name : List Char} (named : name ≠ []) (source : List Char) :
    Above name source ↔ name = source ∨ Above name (LogLevels.parent source) := by
  obtain ⟨single, parent⟩ | ⟨last, absent, whole⟩ := parent_cases source
  · have dotted {longer : List Char} (above : name ++ ['.'] <+: longer) : '.' ∈ longer :=
      above.subset (by simp)
    have nothing : ¬ name ++ ['.'] <+: source := fun above => single (dotted above)
    have less : ¬ name ++ ['.'] <+: [] := fun above => List.not_mem_nil (dotted above)
    rw [parent, Above, Above, or_iff_left nothing, or_iff_left less, or_iff_left named]
  · generalize LogLevels.parent source = parent at whole
    subst whole
    refine or_congr_right ⟨?_, ?_⟩
    · intro above
      obtain shorter | longer := Nat.lt_or_ge name.length parent.length
      · exact .inr (List.prefix_of_prefix_length_le above (List.prefix_append _ _) (by simpa))
      · -- The dot behind the name is not in the last part, so it is the one before it.
        obtain ⟨beyond, rfl⟩ : parent <+: name :=
          List.prefix_of_prefix_length_le (List.prefix_append _ _)
            ((List.prefix_append _ _).trans above) longer
        rw [List.append_assoc, List.prefix_append_right_inj] at above
        cases beyond with
        | nil => exact .inl (List.append_nil parent)
        | cons char rest =>
          have inside : '.' ∈ last :=
            (List.cons_prefix_cons.1 above).2.subset (List.mem_append_right _ List.mem_cons_self)
          exact absurd inside absent
    · rintro (rfl | above)
      · exact (List.prefix_append_right_inj name).2 (by simp)
      · exact above.trans (List.prefix_append _ _)

theorem Above.isPrefix {name source : List Char} (above : Above name source) : name <+: source := by
  obtain rfl | above := above
  · exact List.prefix_rfl
  · exact (List.prefix_append _ _).trans above

/-! ### The item that decides -/

/-- The items of a row about a source. -/
def naming (name : List Char) (items : List (List Char)) : List (List Char) :=
  about (some (String.ofList name)) items

/-- No item is about a name above the source. -/
def Unnamed (items : List (List Char)) (source : List Char) : Prop :=
  ∀ name, name ≠ [] → Above name source → naming name items = []

/-- The item of a row that decides for a source: the last one about the longest name above it; else
the last one with an empty name; else the last bare one. If there is none of them, no item
decides. -/
inductive Decides (items : List (List Char)) (source : List Char) : Option (List Char) → Prop
  | named {name item : List Char} (above : Above name source) (filled : name ≠ [])
      (last : (naming name items).getLast? = some item)
      (longest : ∀ other, Above other source → name.length < other.length →
        naming other items = []) : Decides items source (some item)
  | nameless {item : List Char} (clear : Unnamed items source)
      (last : (naming [] items).getLast? = some item) : Decides items source (some item)
  | bare {item : List Char} (clear : Unnamed items source) (absent : naming [] items = [])
      (last : (about none items).getLast? = some item) : Decides items source (some item)
  | usual (clear : Unnamed items source) (absent : naming [] items = [])
      (bare : about none items = []) : Decides items source none

/-- What a row of items leaves under a name: the last item about it; under the empty name, if no
item is about this, the last bare item, or the usual level. -/
def held? (items : List (List Char)) (name : List Char) : Option (Option (List Char)) :=
  match (naming name items).getLast? with
  | some item => some (some item)
  | none => if name = [] then some (about none items).getLast? else none

section

variable {items : List (List Char)} {source : List Char} {choice : Option (List Char)}

/-- What is held under the name of a source decides for it, and nothing else does. -/
theorem decides_iff_of_held {held : Option (List Char)} (found : held? items source = some held) :
    Decides items source choice ↔ choice = held := by
  rw [held?] at found
  cases last : (naming source items).getLast? with
  | some item =>
    rw [last] at found
    cases found
    have there : naming source items ≠ [] := by
      intro absent
      rw [absent] at last
      cases last
    have clear (clear : Unnamed items source) : source = [] :=
      by_contra fun filled => there (clear source filled (.inl rfl))
    constructor
    · rintro (⟨above, -, decided, longest⟩ | ⟨apart, decided⟩ | ⟨apart, absent, -⟩ |
        ⟨apart, absent, -⟩)
      · obtain shorter | same := Nat.lt_or_eq_of_le above.isPrefix.length_le
        · exact absurd (longest source (.inl rfl) shorter) there
        · rw [above.isPrefix.eq_of_length same] at decided
          exact decided.symm.trans last
      · rw [clear apart] at last
        exact decided.symm.trans last
      all_goals exact absurd (clear apart ▸ absent) there
    · rintro rfl
      by_cases filled : source = []
      · subst filled
        exact .nameless (fun name filled above =>
          absurd (List.prefix_nil.1 above.isPrefix) filled) last
      · exact .named (.inl rfl) filled last fun other within longer =>
          absurd within.isPrefix.length_le (Nat.not_le.2 longer)
  | none =>
    rw [last] at found
    have absent := List.getLast?_eq_none_iff.1 last
    obtain ⟨rfl, ⟨⟩⟩ := Option.ite_none_right_eq_some.1 found
    have clear : Unnamed items [] := fun name filled above =>
      absurd (List.prefix_nil.1 above.isPrefix) filled
    constructor
    · rintro (⟨above, filled, -⟩ | ⟨-, last⟩ | ⟨-, -, last⟩ | ⟨-, -, bare⟩)
      · exact absurd (List.prefix_nil.1 above.isPrefix) filled
      · rw [absent] at last
        cases last
      · exact last.symm
      · rw [bare]
        rfl
    · rintro rfl
      cases last : (about none items).getLast? with
      | some item => exact .bare clear absent last
      | none => exact .usual clear absent (List.getLast?_eq_none_iff.1 last)

/-- A source that nothing is held under is decided for as its parent is. -/
theorem decides_iff_of_not_held (silent : held? items source = none) :
    Decides items source choice ↔ Decides items (LogLevels.parent source) choice := by
  have absent : naming source items = [] := by
    rw [held?] at silent
    cases last : (naming source items).getLast? with
    | some item =>
      rw [last] at silent
      cases silent
    | none => exact List.getLast?_eq_none_iff.1 last
  have clear : Unnamed items source ↔ Unnamed items (LogLevels.parent source) := by
    refine forall₂_congr fun name filled => ?_
    rw [above_iff filled, or_imp, and_iff_right]
    rintro rfl
    exact absent
  have filled {name other : List Char} (longer : name.length < other.length) : other ≠ [] :=
    List.ne_nil_of_length_pos (Nat.zero_lt_of_lt longer)
  constructor
  · rintro (⟨above, named, last, longest⟩ | ⟨apart, last⟩ | ⟨apart, nameless, last⟩ |
      ⟨apart, nameless, bare⟩)
    · obtain rfl | higher := (above_iff named source).1 above
      · rw [absent] at last
        cases last
      · refine .named higher named last fun other within longer => longest other ?_ longer
        exact (above_iff (filled longer) source).2 (.inr within)
    · exact .nameless (clear.1 apart) last
    · exact .bare (clear.1 apart) nameless last
    · exact .usual (clear.1 apart) nameless bare
  · rintro (⟨above, named, last, longest⟩ | ⟨apart, last⟩ | ⟨apart, nameless, last⟩ |
      ⟨apart, nameless, bare⟩)
    · have above := (above_iff named source).2 (.inr above)
      refine .named above named last fun other within longer => ?_
      obtain rfl | higher := (above_iff (filled longer) source).1 within
      · exact absent
      · exact longest other higher longer
    · exact .nameless (clear.2 apart) last
    · exact .bare (clear.2 apart) nameless last
    · exact .usual (clear.2 apart) nameless bare

/-- Items about other things do not matter for a source. -/
theorem Decides.congr {others : List (List Char)} (decides : Decides items source choice)
    (same : ∀ name, name = [] ∨ Above name source → naming name items = naming name others)
    (bare : about none items = about none others) : Decides others source choice := by
  have clear (apart : Unnamed items source) : Unnamed others source := fun name filled above =>
    (same name (.inr above)).symm.trans (apart name filled above)
  obtain ⟨above, filled, last, longest⟩ | ⟨apart, last⟩ | ⟨apart, absent, last⟩ |
    ⟨apart, absent, none⟩ := decides
  · exact .named above filled (same _ (.inr above) ▸ last) fun other within longer =>
      (same other (.inr within)).symm.trans (longest other within longer)
  · exact .nameless (clear apart) (same [] (.inl rfl) ▸ last)
  · exact .bare (clear apart) (same [] (.inl rfl) ▸ absent) (bare ▸ last)
  · exact .usual (clear apart) (same [] (.inl rfl) ▸ absent) (bare ▸ none)

end

/-! ### Levels by name -/

/-- The level of an item, or the usual one where no item decides; none is silence. -/
def levelOf : Option (List Char) → Option String
  | none => some usual.level
  | some item => setting item

/-- The level of an item lets records of a weight pass. -/
def Passes (choice : Option (List Char)) (weight : Nat) : Prop :=
  ∃ level known, levelOf choice = some level ∧ Level.ofName? level = some known ∧
    known.weight ≤ weight

/-- The level is none, or it exists. -/
def IsKnown (level : Option String) : Prop :=
  ∀ name, level = some name → (Level.ofName? name).isSome = true

/-- The weight of a level; silence has none. -/
def weight? (level : Option String) : Option Nat :=
  level.bind fun name => (Level.ofName? name).map Level.weight

theorem weigh_eq_ok_iff {entry : String × Option String} {weighed : String × Option Nat} :
    weigh entry = .ok weighed ↔ IsKnown entry.2 ∧ weighed = (entry.1, weight? entry.2) := by
  obtain ⟨name, level⟩ := entry
  cases level with
  | none =>
    have known : IsKnown none := by rintro name ⟨⟩
    rw [and_iff_right known, weigh, Except.ok.injEq, eq_comm]
    rfl
  | some level =>
    rw [weigh, IsKnown, weight?, Option.bind_some]
    cases found : Level.ofName? level with
    | none => simp [found]
    | some known => simp only [Except.ok.injEq, found, Option.some.injEq, forall_eq',
        Option.isSome_some, true_and, Option.map_some, eq_comm]

/-- The levels of a row of entries have weights if they exist. -/
theorem mapM_weigh_eq_ok_iff {entries : List (String × Option String)}
    {weighed : List (String × Option Nat)} :
    entries.mapM weigh = .ok weighed ↔
      (∀ entry ∈ entries, IsKnown entry.2) ∧
        weighed = entries.map fun entry => (entry.1, weight? entry.2) := by
  rw [mapM_eq_ok_iff]
  simp only [weigh_eq_ok_iff]
  rw [List.forall₂_and_left, eq_comm, ← List.forall₂_eq_eq_eq, List.forall₂_map_left_iff]
  simp only [eq_comm]

/-- A filter can be used if its levels exist, and then their weights stand in their places. -/
theorem levels_eq_ok_iff {filter : LogFilter} {levels : LogLevels} :
    filter.levels = .ok levels ↔
      (∀ entry ∈ filter.entries.entries, IsKnown entry.2) ∧
        levels.entries = filter.entries.entries.map fun entry => (entry.1, weight? entry.2) := by
  have written : (Roster.ofList (filter.entries.entries.map fun entry =>
      (entry.1, weight? entry.2)) : LogLevels).entries =
        (Roster.empty.union filter.entries).entries.map fun entry => (entry.1, weight? entry.2) :=
    Roster.entries_insertAll_map (fun entry => rfl) rfl _
  rw [Roster.empty_union] at written
  rw [LogFilter.levels]
  constructor
  · intro usable
    cases done : filter.entries.entries.mapM weigh with
    | error fault =>
      rw [done] at usable
      cases usable
    | ok weighed =>
      rw [done] at usable
      cases usable
      obtain ⟨known, rfl⟩ := mapM_weigh_eq_ok_iff.1 done
      exact ⟨known, written⟩
  · rintro ⟨known, same⟩
    rw [mapM_weigh_eq_ok_iff.2 ⟨known, rfl⟩]
    exact congrArg Except.ok (Roster.eq_of_entries (written.trans same.symm))

/-- What a filter holds under a name is the level of what its items leave there. -/
theorem find?_entries (text : String) (name : List Char) :
    (ofString text).entries.find? (String.ofList name) =
      (held? (items text) name).map levelOf := by
  have united : (ofString text).entries =
      (Roster.empty.insert ("", some (ofString text).level)).union (ofString text).modules := rfl
  have level : some (ofString text).level = levelOf (about none (items text)).getLast? := by
    rw [ofString_eq, global?]
    cases last : (about none (items text)).getLast? with
    | none => rfl
    | some item =>
      obtain ⟨level, set⟩ := exists_setting_of_last last
      exact (congrArg (fun level => some (level.getD usual.level)) set).trans set.symm
  rw [united, Ledger.find?, Roster.get?_union, Option.map_or, Roster.get?_insert, level, held?]
  change ((ofString text).modules.find? (String.ofList name)).or _ = _
  rw [find?_modules, naming]
  cases (about (some (String.ofList name)) (items text)).getLast? with
  | some item => rfl
  | none =>
    rw [Option.map_none, Option.none_or]
    by_cases nameless : name = []
    · rw [nameless]
      rfl
    · have filled : String.ofList name ≠ "" := fun same =>
        nameless (String.ofList_inj.1 (same.trans String.ofList_nil.symm))
      rw [if_neg filled, if_neg nameless]
      rfl

/-- An item counts if it is the last one about a name, or the last bare one where no item has an
empty name. -/
def Counts (items : List (List Char)) (item : List Char) : Prop :=
  (∃ name, (naming name items).getLast? = some item) ∨
    naming [] items = [] ∧ (about none items).getLast? = some item

/-- The levels exist that are set by items of a row which count. -/
def Known (items : List (List Char)) : Prop :=
  ∀ item, Counts items item → IsKnown (setting item)

theorem known_iff_held {items : List (List Char)} :
    Known items ↔ ∀ name held, held? items name = some held → IsKnown (levelOf held) := by
  constructor
  · intro known name held found
    rw [held?] at found
    cases last : (naming name items).getLast? with
    | some item =>
      rw [last] at found
      cases found
      exact known item (.inl ⟨name, last⟩)
    | none =>
      rw [last] at found
      obtain ⟨rfl, ⟨⟩⟩ := Option.ite_none_right_eq_some.1 found
      cases bare : (about none items).getLast? with
      | none =>
        rintro _ ⟨⟩
        rfl
      | some item => exact known item (.inr ⟨List.getLast?_eq_none_iff.1 last, bare⟩)
  · rintro known item (⟨name, last⟩ | ⟨absent, last⟩)
    · refine known name (some item) ?_
      rw [held?, last]
    · refine known [] (some item) ?_
      rw [held?, absent, last]
      rfl

/-- A filter can be used just if the levels exist that count in it. -/
theorem known_iff (text : String) :
    Known (items text) ↔ ∃ levels, (ofString text).levels = .ok levels := by
  rw [known_iff_held]
  constructor
  · intro known
    have weighed : (((ofString text).entries.entries.map fun entry =>
        (entry.1, weight? entry.2)).map Prod.fst).Nodup := by
      rw [List.map_map]
      exact (ofString text).entries.nodup
    refine ⟨⟨_, weighed⟩, levels_eq_ok_iff.2 ⟨fun entry member => ?_, rfl⟩⟩
    have found : (ofString text).entries.find? entry.1 = some entry.2 := by
      rw [Ledger.find?, Roster.get?_eq_some_iff.2 ⟨member, rfl⟩]
      rfl
    rw [← String.ofList_toList (s := entry.1), find?_entries] at found
    obtain ⟨held, there, same⟩ := Option.map_eq_some_iff.1 found
    rw [← same]
    exact known entry.1.toList held there
  · rintro ⟨levels, usable⟩ name held found
    have there : (ofString text).entries.find? (String.ofList name) = some (levelOf held) := by
      rw [find?_entries, found]
      rfl
    obtain ⟨entry, member, same⟩ := Option.map_eq_some_iff.1 there
    rw [← same]
    exact (levels_eq_ok_iff.1 usable).1 entry (Roster.get?_eq_some_iff.1 member).1

variable {text : String} {levels : LogLevels}

/-- Of a filter that can be used the weights stand where the levels stood. -/
theorem find?_levels (usable : (ofString text).levels = .ok levels) (name : List Char) :
    levels.find? (String.ofList name) =
      (held? (items text) name).map fun held => weight? (levelOf held) := by
  have same := (levels_eq_ok_iff.1 usable).2
  have weighed (wanted : String) :
      levels.find? wanted = ((ofString text).entries.find? wanted).map weight? := by
    rw [Ledger.find?, Roster.get?, same, List.find?_map, Option.map_map, Ledger.find?, Roster.get?,
      Option.map_map]
    rfl
  rw [weighed, find?_entries, Option.map_map]
  rfl

/-! ### What is shown -/

theorem held?_nil_ne_none (items : List (List Char)) : held? items [] ≠ none := by
  rw [held?]
  cases (naming [] items).getLast? with
  | some item => exact Option.some_ne_none _
  | none => exact Option.some_ne_none _

theorem exists_decides (items : List (List Char)) (source : List Char) :
    ∃ choice, Decides items source choice := by
  cases found : held? items source with
  | some held => exact ⟨held, (decides_iff_of_held found).2 rfl⟩
  | none =>
    have filled : source ≠ [] := by
      rintro rfl
      exact held?_nil_ne_none items found
    obtain ⟨choice, decides⟩ := exists_decides items (LogLevels.parent source)
    exact ⟨choice, (decides_iff_of_not_held found).2 decides⟩
termination_by source.length
decreasing_by exact LogLevels.length_parent_lt filled

/-- The walk from a source to its parents ends at the item that decides for the source. -/
theorem deciding?_of_decides (usable : (ofString text).levels = .ok levels) {source : List Char}
    {choice : Option (List Char)} (decides : Decides (items text) source choice) :
    levels.deciding? source = some (weight? (levelOf choice)) := by
  induction source using LogLevels.deciding?.induct levels with
  | case1 source level found =>
    rw [LogLevels.deciding?, found]
    rw [find?_levels usable] at found
    obtain ⟨held, there, rfl⟩ := Option.map_eq_some_iff.1 found
    rw [(decides_iff_of_held there).1 decides]
  | case2 absent =>
    rw [find?_levels usable] at absent
    exact absurd (Option.map_eq_none_iff.1 absent) (held?_nil_ne_none _)
  | case3 source absent filled ih =>
    rw [LogLevels.deciding?, absent]
    rw [find?_levels usable] at absent
    have silent := Option.map_eq_none_iff.1 absent
    exact (dif_neg filled).trans (ih ((decides_iff_of_not_held silent).1 decides))

theorem admits_iff_of_decides (usable : (ofString text).levels = .ok levels) {source : String}
    {choice : Option (List Char)} (decides : Decides (items text) source.toList choice)
    (weight : Nat) : levels.admits source weight = true ↔ Passes choice weight := by
  rw [LogLevels.admits, deciding?_of_decides usable decides, Passes]
  cases levelOf choice with
  | none => simp [weight?]
  | some level =>
    cases found : Level.ofName? level with
    | none => simp [weight?, found]
    | some known => simp [weight?, found]

/-- An item with a sign in it is about the name before the first sign. -/
theorem subject?_naming {name : List Char} (plain : '=' ∉ name) (level : List Char) :
    subject? (trimChars (name ++ '=' :: level)) = some (String.ofList (trimChars name)) := by
  obtain ⟨before, after, first, last, whole⟩ := exists_trimmed (name ++ '=' :: level)
  have solid {text : List Char} (blank : Blank text) : '=' ∉ text := fun member =>
    absurd (blank '=' member) (by decide)
  obtain ⟨absent, -⟩ | ⟨inner, rest, bare, cut, parted⟩ :=
    partition_cases '=' (trimChars (name ++ '=' :: level))
  · have nowhere : '=' ∉ before ++ (trimChars (name ++ '=' :: level) ++ after) := by
      simp [solid first, solid last, absent]
    exact absurd (whole ▸ List.mem_append_right _ List.mem_cons_self) nowhere
  · have outer : '=' ∉ before ++ inner := by simp [solid first, bare]
    have again : name ++ '=' :: level = before ++ inner ++ '=' :: (rest ++ after) := by
      rw [whole, cut, List.append_assoc, List.append_assoc, List.cons_append]
    have named : name = before ++ inner := by
      have parts := partition_append plain level
      rw [again, partition_append outer] at parts
      exact (congrArg Prod.fst parts).symm
    have trimmed := trimChars_surrounded first (List.forall_mem_nil _) inner
    rw [List.append_nil, ← named] at trimmed
    rw [subject?, parted, trimmed]

/-- An item that names a source, added to a filter, is about this name and about nothing else. -/
theorem about_items_naming {name level : String} (whole : ',' ∉ name.toList ∧ ',' ∉ level.toList)
    (plain : '=' ∉ name.toList) {subject : Option String}
    (other : subject ≠ some (String.ofList (trimChars name.toList))) (text : String) :
    about subject (items (text ++ "," ++ (name ++ "=" ++ level))) = about subject (items text) := by
  have part : (name ++ "=" ++ level).toList = name.toList ++ '=' :: level.toList := by
    rw [String.toList_append, String.toList_append, List.append_assoc]
    rfl
  have single : ',' ∉ (name ++ "=" ++ level).toList := by
    rw [part]
    simp [whole.1, whole.2]
  have nothing : about subject (items (name ++ "=" ++ level)) = [] := by
    rw [items_of_part single, about, List.filter_eq_nil_iff]
    split
    · intro item member
      rw [List.mem_singleton.1 member, part, subject?_naming plain]
      simpa using fun same => other same.symm
    · exact fun item member => absurd member List.not_mem_nil
  rw [items_append, about, List.filter_append]
  exact (congrArg (_ ++ ·) nothing).trans (List.append_nil _)

/-- One item of a filter decides for each source, and a record of the source is shown just if the
item has a level that is not above the weight of the record. An item that is added for a name
changes this only for the source of the name and for those below it. -/
theorem admits_iff_passes :
    (∀ text, Known (items text) ↔ ∃ levels, (ofString text).levels = .ok levels) ∧
      ∀ text levels, (ofString text).levels = .ok levels →
        (∀ source : String, (∃ choice, Decides (items text) source.toList choice) ∧
          ∀ choice, Decides (items text) source.toList choice →
            ∀ weight, levels.admits source weight = true ↔ Passes choice weight) ∧
        ∀ (name level : String) later, ',' ∉ name.toList ∧ ',' ∉ level.toList →
          '=' ∉ name.toList → isFilled name.toList = true →
          (ofString (text ++ "," ++ (name ++ "=" ++ level))).levels = .ok later →
            ∀ source : String, ¬ Above (trimChars name.toList) source.toList →
              ∀ weight, later.admits source weight = levels.admits source weight := by
  refine ⟨known_iff, fun text levels usable => ⟨fun source => ⟨exists_decides _ _,
    fun choice decides => admits_iff_of_decides usable decides⟩, ?_⟩⟩
  intro name level later whole plain filled usable' source apart weight
  obtain ⟨choice, decides⟩ := exists_decides (items text) source.toList
  have decides' : Decides (items (text ++ "," ++ (name ++ "=" ++ level))) source.toList choice := by
    refine decides.congr (fun other among => (about_items_naming whole plain ?_ text).symm)
      (about_items_naming whole plain (Option.some_ne_none _).symm text).symm
    intro same
    have named : other = trimChars name.toList := String.ofList_inj.1 (Option.some.inj same)
    obtain rfl | above := among
    · rw [isFilled_eq, ← named] at filled
      cases filled
    · exact apart (named ▸ above)
  rw [Bool.eq_iff_iff, admits_iff_of_decides usable decides,
    admits_iff_of_decides usable' decides']

theorem admits_iff_passes_below :
    ∃ levels later, (ofString "warning, a.b = debug,a=false").levels = .ok levels ∧
      (',' ∉ "a.b.c".toList ∧ ',' ∉ "trace".toList) ∧ '=' ∉ "a.b.c".toList ∧
      isFilled "a.b.c".toList = true ∧
      (ofString ("warning, a.b = debug,a=false" ++ "," ++ ("a.b.c" ++ "=" ++ "trace"))).levels =
        .ok later ∧
      Decides (items "warning, a.b = debug,a=false") "a.b.c".toList (some "a.b = debug".toList) ∧
      (∀ weight, levels.admits "a.b.c" weight = true ↔
        Passes (some "a.b = debug".toList) weight) ∧
      ¬ Above (trimChars "a.b.c".toList) "a.b.cd".toList ∧
      ∀ weight, later.admits "a.b.cd" weight = levels.admits "a.b.cd" weight := by
  have usable (text : String) (works : (ofString text).levels.isOk = true) :
      ∃ levels, (ofString text).levels = .ok levels := by
    cases found : (ofString text).levels with
    | ok levels => exact ⟨levels, rfl⟩
    | error fault =>
      rw [found] at works
      cases works
  obtain ⟨levels, before⟩ := usable "warning, a.b = debug,a=false" (by cbv)
  obtain ⟨later, behind⟩ := usable
    ("warning, a.b = debug,a=false" ++ "," ++ ("a.b.c" ++ "=" ++ "trace")) (by cbv)
  have decides : Decides (items "warning, a.b = debug,a=false") "a.b.c".toList
      (some "a.b = debug".toList) := by
    have silent : held? (items "warning, a.b = debug,a=false") "a.b.c".toList = none := by decide
    have held : held? (items "warning, a.b = debug,a=false") (LogLevels.parent "a.b.c".toList) =
        some (some "a.b = debug".toList) := by decide
    exact (decides_iff_of_not_held silent).2 ((decides_iff_of_held held).2 rfl)
  have apart : ¬ Above (trimChars "a.b.c".toList) "a.b.cd".toList := by
    rw [Above]
    decide
  obtain ⟨shown, kept⟩ := admits_iff_passes.2 _ levels before
  exact ⟨levels, later, before, ⟨by decide, by decide⟩, by decide, by decide, behind, decides,
    (shown "a.b.c").2 _ decides, apart,
    kept "a.b.c" "trace" later ⟨by decide, by decide⟩ (by decide) (by decide) behind "a.b.cd" apart⟩

end LogFilter

end Parley
