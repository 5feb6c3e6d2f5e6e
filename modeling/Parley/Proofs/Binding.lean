/-
This file settles what bindings bind. An item binds the name before its first sign, without
the blanks around it. What stands behind the sign is taken as the scalar document that it
is, and else as the text itself.

There are two ways in which an item binds nothing: it has no name, or the reader of
documents comes to an integer that is too long. The items are gone through in order, so the
first of these decides; and if there is none, the last item of a name counts.
-/

import Parley.Binding
import Parley.Proofs.Json.Integers
import Parley.Proofs.Json.Scalars
import Parley.Proofs.Roster.Latest
import Parley.Proofs.Rows
import Parley.Proofs.Text.Split

namespace Parley

namespace Binding

open Parley.Text

/-! ### Values -/

/-- What the text of a value stands for: the integer in it is too long, it is a scalar document, or
it is none and stands for itself. -/
inductive Means (value : List Char) : Except BindingFault Literal → Prop
  | tooLong {digits : Nat} (meets : Json.MeetsInteger value digits) :
      Means value (.error (.tooLong digits))
  | scalar {document : Json} {literal : Literal} (denotes : Json.Denotes value document)
      (isLiteral : scalar? document = some literal) : Means value (.ok literal)
  | text (short : ∀ digits, ¬ Json.MeetsInteger value digits)
      (none : ∀ document, ¬ Json.Denotes value document) :
      Means value (.ok (.string (.ofChars value)))

theorem isScalar_iff (document : Json) :
    document.isScalar = true ↔ ∃ literal, scalar? document = some literal := by
  cases document with
  | array items => exact iff_of_false Bool.false_ne_true (by rintro ⟨_, ⟨⟩⟩)
  | object members => exact iff_of_false Bool.false_ne_true (by rintro ⟨_, ⟨⟩⟩)
  | _ => exact iff_of_true rfl ⟨_, rfl⟩

/-- The text of a value stands for what it is taken as. -/
theorem means_literal (value : List Char) : Means value (literal value) := by
  rw [literal]
  cases done : Json.read value with
  | ok document =>
    cases plain : scalar? document with
    | some literal =>
      dsimp only
      rw [plain]
      have scalar := (isScalar_iff document).2 ⟨literal, plain⟩
      exact .scalar (Json.read_eq_scalar_iff.1 ⟨done, scalar⟩) plain
    | none =>
      dsimp only
      rw [plain]
      refine .text (fun digits meets => ?_) fun other denotes => ?_
      · cases done.symm.trans (Json.read_eq_tooLong.2 meets)
      · obtain ⟨read, scalar⟩ := Json.read_eq_scalar_iff.2 denotes
        cases done.symm.trans read
        obtain ⟨literal, some⟩ := (isScalar_iff document).1 scalar
        cases plain.symm.trans some
  | error fault =>
    cases fault with
    | tooLong digits => exact .tooLong (Json.read_eq_tooLong.1 done)
    | misplaced cause index =>
      refine .text (fun digits meets => ?_) fun other denotes => ?_
      · cases done.symm.trans (Json.read_eq_tooLong.2 meets)
      · cases done.symm.trans denotes.read

theorem Means.unique {value : List Char} {first second : Except BindingFault Literal}
    (means : Means value first) (also : Means value second) : first = second := by
  cases means with
  | tooLong meets =>
    have read := Json.read_eq_tooLong.2 meets
    cases also with
    | tooLong others =>
      cases read.symm.trans (Json.read_eq_tooLong.2 others)
      rfl
    | scalar denotes => cases read.symm.trans denotes.read
    | text short => exact absurd meets (short _)
  | scalar denotes plain =>
    cases also with
    | tooLong meets => cases denotes.read.symm.trans (Json.read_eq_tooLong.2 meets)
    | scalar others too =>
      cases denotes.read.symm.trans others.read
      cases plain.symm.trans too
      rfl
    | text _ none => exact absurd denotes (none _)
  | text short none =>
    cases also with
    | tooLong meets => exact absurd meets (short _)
    | scalar denotes => exact absurd denotes (none _)
    | text => rfl

/-- The text of a value stands for what it is taken as, and for nothing else. -/
theorem literal_eq_iff {value : List Char} {result : Except BindingFault Literal} :
    literal value = result ↔ Means value result :=
  ⟨fun same => same ▸ means_literal value, fun means => (means_literal value).unique means⟩

/-! ### Items -/

/-- What an item binds: nothing if it has no sign, or nothing but blanks before its first one; else
the name before the first sign to what stands behind it. -/
inductive Binds (item : String) : Except BindingFault (Text × Literal) → Prop
  | unmarked (absent : '=' ∉ item.toList) : Binds item (.error (.nameless item))
  | unnamed {name value : List Char} (cut : item.toList = name ++ '=' :: value)
      (first : '=' ∉ name) (blank : Blank name) : Binds item (.error (.nameless item))
  | named {name value : List Char} {result : Except BindingFault Literal}
      (cut : item.toList = name ++ '=' :: value) (first : '=' ∉ name) (filled : ¬ Blank name)
      (means : Means value result) :
      Binds item (result.map fun literal => (.ofChars (trimChars name), literal))

theorem ofString_of_cut {item : String} {name value : List Char}
    (cut : item.toList = name ++ '=' :: value) (first : '=' ∉ name) :
    ofString item = if trimChars name = [] then .error (.nameless item)
      else (literal value).map fun literal => (.ofChars (trimChars name), literal) := by
  rw [ofString, cut, partition_append first]
  dsimp only
  cases trimChars name with
  | nil => rfl
  | cons head rest => rfl

/-- An item binds what it is read as. -/
theorem ofString_eq_iff {item : String} {result : Except BindingFault (Text × Literal)} :
    ofString item = result ↔ Binds item result := by
  constructor
  · rintro rfl
    obtain ⟨absent, cut⟩ | ⟨name, value, first, whole, -⟩ := partition_cases '=' item.toList
    · rw [ofString, cut]
      exact .unmarked absent
    · rw [ofString_of_cut whole first]
      split
      · next none => exact .unnamed whole first (trimChars_eq_nil_iff.1 none)
      · next filled =>
        have filled (blank : Blank name) : False := filled (trimChars_eq_nil_iff.2 blank)
        exact .named whole first filled (means_literal value)
  · rintro (absent | ⟨cut, first, blank⟩ | ⟨cut, first, filled, means⟩)
    · rw [ofString, partition_of_absent absent]
    · rw [ofString_of_cut cut first, if_pos (trimChars_eq_nil_iff.2 blank)]
    · rw [ofString_of_cut cut first, if_neg fun none => filled (trimChars_eq_nil_iff.1 none),
        literal_eq_iff.2 means]

/-! ### Rows of items -/

/-- The first item counts that binds nothing. -/
theorem ofList_eq_error_iff {items : List String} {fault : BindingFault} :
    ofList items = .error fault ↔ ∃ before item behind, items = before ++ item :: behind ∧
      (∀ earlier ∈ before, ∃ binding, Binds earlier (.ok binding)) ∧
        Binds item (.error fault) := by
  have first : items.mapM ofString = .error fault ↔ ofList items = .error fault := by
    rw [ofList]
    cases items.mapM ofString with
    | error other =>
      constructor
      · rintro ⟨⟩
        rfl
      · rintro ⟨⟩
        rfl
    | ok bindings => exact iff_of_false (by rintro ⟨⟩) (by rintro ⟨⟩)
  rw [← first, mapM_eq_error_iff]
  simp only [ofString_eq_iff]

/-- If every item binds a name, the names are those that are bound, in the order in which they
first come, and each is bound as its last item has it. -/
theorem ofList_eq_ok_iff {items : List String} {ledger : Ledger Text Literal} :
    ofList items = .ok ledger ↔ ∃ bindings,
      List.Forall₂ (fun item binding => Binds item (.ok binding)) items bindings ∧
        ledger.names = (bindings.map Prod.fst).eraseDups ∧
        ∀ name, ledger.find? name =
          (bindings.filter fun binding => binding.1 = name).getLast?.map Prod.snd := by
  have read (bindings : List (Text × Literal)) : items.mapM ofString = .ok bindings ↔
      List.Forall₂ (fun item binding => Binds item (.ok binding)) items bindings := by
    rw [mapM_eq_ok_iff]
    simp only [ofString_eq_iff]
  have latest (bindings : List (Text × Literal)) (name : Text) :
      Ledger.find? (Roster.ofList bindings) name =
        (bindings.filter fun binding => binding.1 = name).getLast?.map Prod.snd := by
    rw [Ledger.find?, Roster.get?_ofList]
  constructor
  · intro done
    rw [ofList] at done
    cases each : items.mapM ofString with
    | error fault =>
      rw [each] at done
      cases done
    | ok bindings =>
      rw [each] at done
      cases done
      exact ⟨bindings, (read bindings).1 each, Roster.names_ofList bindings, latest bindings⟩
  · rintro ⟨bindings, each, names, found⟩
    rw [ofList, (read bindings).2 each]
    refine congrArg Except.ok (Ledger.eq_of_find? ?_ fun name => ?_)
    · exact (Roster.names_ofList bindings).trans names.symm
    · exact (latest bindings name).trans (found name).symm

/-! ### Values that are encoded -/

/-- The item of a name and a written value binds the name to a literal. -/
def BoundTo (name : String) (value : List Char) (literal : Literal) : Prop :=
  ofString (name ++ "=" ++ String.ofList value) = .ok (.ofChars (trimChars name.toList), literal)

theorem toList_item (name : String) (value : List Char) :
    (name ++ "=" ++ String.ofList value).toList = name.toList ++ '=' :: value := by
  have behind : (String.ofList value).toList = value := String.toList_ofList
  rw [String.toList_append, String.toList_append, List.append_assoc, behind]
  rfl

theorem boundTo_of_denotes {name : String} (plain : '=' ∉ name.toList)
    (filled : ¬ Blank name.toList) {value : List Char} {document : Json} {literal : Literal}
    (denotes : Json.Denotes value document) (isLiteral : scalar? document = some literal) :
    BoundTo name value literal := by
  exact ofString_eq_iff.2 (.named (toList_item name value) plain filled (.scalar denotes isLiteral))

theorem Binds.run {item : String} {digits : Nat} (binds : Binds item (.error (.tooLong digits))) :
    Json.digitLimit < digits ∧ ∃ run, run <:+: item.toList ∧ run.length = digits ∧
      ∀ char ∈ run, Json.isPlainDigit char = true := by
  generalize same : Except.error (BindingFault.tooLong digits) = result at binds
  cases binds with
  | unmarked => cases same
  | unnamed => cases same
  | @named name value result cut first filled means =>
    cases means with
    | scalar => cases same
    | text => cases same
    | tooLong meets =>
      cases same
      obtain ⟨long, run, inside, length, plain⟩ := meets.run
      refine ⟨long, run, ?_, length, plain⟩
      rw [cut]
      exact inside.trans ((List.suffix_cons '=' value).trans (List.suffix_append name _)).isInfix

/-- A row of items fails as the first one that binds nothing, and else binds each name as the last
item that has it. An item binds nothing if it has no name, or if the reader of documents comes to an
integer in its value that is longer than the limit. A value is the scalar document that its text is,
or the text itself; so a name is bound to any text, to any integer within the limit, to truth values
and to nothing by an item with the value encoded. -/
theorem ofList_binds (items : List String) (item : String) :
    (∀ result, ofString item = result ↔ Binds item result) ∧
      (∀ fault, ofList items = .error fault ↔
        ∃ before bad behind, items = before ++ bad :: behind ∧
          (∀ earlier ∈ before, ∃ binding, Binds earlier (.ok binding)) ∧
            Binds bad (.error fault)) ∧
      (∀ ledger, ofList items = .ok ledger ↔ ∃ bindings,
        List.Forall₂ (fun item binding => Binds item (.ok binding)) items bindings ∧
          ledger.names = (bindings.map Prod.fst).eraseDups ∧
          ∀ name, ledger.find? name =
            (bindings.filter fun binding => binding.1 = name).getLast?.map Prod.snd) ∧
      (∀ digits, Binds item (.error (.tooLong digits)) →
        Json.digitLimit < digits ∧ ∃ run, run <:+: item.toList ∧ run.length = digits ∧
          ∀ char ∈ run, Json.isPlainDigit char = true) ∧
      ∀ name : String, '=' ∉ name.toList → ¬ Blank name.toList →
        (∀ text : Text, BoundTo name (Json.encoded (.string text))
          (.string ⟨Json.joinHalves text.symbols⟩)) ∧
        (∀ string : String, BoundTo name (Json.encoded (.string string)) (.string string)) ∧
        (∀ integer : Int, integer.natAbs < 10 ^ Json.digitLimit →
          BoundTo name (Json.encoded (.int integer)) (.int integer)) ∧
        (∀ truth, BoundTo name (Json.encoded (.bool truth)) (.bool truth)) ∧
        BoundTo name (Json.encoded .null) .null := by
  refine ⟨fun _ => ofString_eq_iff, fun _ => ofList_eq_error_iff, fun _ => ofList_eq_ok_iff,
    fun _ => Binds.run, fun name plain filled => ⟨fun text => ?_, fun string => ?_,
      fun integer short => ?_, fun truth => ?_, ?_⟩⟩
  · exact boundTo_of_denotes plain filled (Json.denotes_encoded_string text) rfl
  · have denotes := Json.denotes_encoded_string (Text.ofString string)
    rw [Text.ofString, Json.joinHalves_ofChars] at denotes
    exact boundTo_of_denotes plain filled denotes rfl
  · exact boundTo_of_denotes plain filled (Json.denotes_encoded_int short) rfl
  · exact boundTo_of_denotes plain filled (Json.denotes_encoded_bool truth) rfl
  · exact boundTo_of_denotes plain filled Json.denotes_encoded_null rfl

theorem ofList_binds_padded :
    '=' ∉ " gold ".toList ∧ ¬ Blank " gold ".toList ∧
      BoundTo " gold " (Json.encoded (.string "a\n=\"b\"")) (.string "a\n=\"b\"") := by
  have plain : '=' ∉ " gold ".toList := by decide
  have filled : ¬ Blank " gold ".toList := fun blank => absurd (blank 'g' (by decide)) (by decide)
  obtain ⟨-, -, -, -, bound⟩ := ofList_binds [" gold =3"] " gold =3"
  exact ⟨plain, filled, (bound " gold " plain filled).2.1 "a\n=\"b\""⟩

/-- A row whose only item has a name fails for the integer in its value. -/
theorem ofList_long_integer :
    ∃ fault, ofList ["a" ++ "=" ++ String.ofList (List.replicate 4301 '1')] = .error fault ∧
      ∀ item, fault ≠ .nameless item := by
  have filled : ¬ Blank "a".toList := fun blank => absurd (blank 'a' (by decide)) (by decide)
  have meets := Json.meetsInteger_replicate (show Json.digitLimit < 4301 by decide)
  have binds := Binds.named (toList_item "a" _) (by decide) filled (.tooLong meets)
  refine ⟨.tooLong 4301, ofList_eq_error_iff.2 ⟨[], _, [], rfl, List.forall_mem_nil _, binds⟩, ?_⟩
  rintro item ⟨⟩

end Binding

end Parley
