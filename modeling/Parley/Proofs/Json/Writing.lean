/-
This file proves that what is written of a document is read as the document. There are two
things that cannot be read back: an integer of too many digits, and a high half of a pair
with a low half behind it, since these are joined. And an object has each key once when it
has been read. All other documents come back, whatever floating point numbers are in them,
and they are all that a text can be read as.

The reader is followed through the text. Where a value may stand it takes what is written
of a document, hands the document to what is open, and goes on with what comes behind; all
that is asked of this is that it does not go on like a number. Arrays and objects are taken
item by item, with the items that have been taken already as a parameter.
-/

import Parley.Proofs.Json.Scalars

namespace Parley.Json

open Parley.Text

/-! ### Documents that can be written -/

/-- A text in which no high half of a pair has a low half behind it. -/
def Unpaired (text : Text) : Prop := joinHalves text.symbols = text.symbols

instance : DecidablePred Unpaired := fun _ => inferInstanceAs (Decidable (_ = _))

/-- A document that can be written and read back. -/
inductive Writable : Json → Prop
  | null : Writable .null
  | bool (truth : Bool) : Writable (.bool truth)
  | int {integer : Int} (short : integer.natAbs < 10 ^ digitLimit) : Writable (.int integer)
  | float (amount : Double) : Writable (.float amount)
  | string {text : Text} (unpaired : Unpaired text) : Writable (.string text)
  | array {items : List Json} (each : ∀ item ∈ items, Writable item) : Writable (.array items)
  | object {members : List (Text × Json)} (distinct : (members.map Prod.fst).Nodup)
      (keys : ∀ member ∈ members, Unpaired member.1)
      (each : ∀ member ∈ members, Writable member.2) : Writable (.object members)

/-- An object with known keys can be written if its values can. -/
theorem writable_record (keys : List Text) (known : keys.Nodup ∧ ∀ key ∈ keys, Unpaired key)
    {members : List (Text × Json)} (named : members.map Prod.fst = keys)
    (each : ∀ member ∈ members, Writable member.2) : Writable (.object members) := by
  subst named
  exact .object known.1 (fun member inside => known.2 _ (List.mem_map_of_mem inside)) each

/-! ### Numbers that are written -/

/-- A number without its sign that has a point or an exponent. -/
inductive Fractional : List Char → Prop
  | parts {whole fraction digits power : List Char} {exponent : Int} (written : Whole whole)
      (behind : Fraction fraction digits) (scaled : Power power exponent)
      (real : ¬ (fraction = [] ∧ power = [])) : Fractional (whole ++ (fraction ++ power))

/-- Digits on both sides of a point. -/
theorem Fractional.pointed {whole digits : List Char} (written : Whole whole) (some : Digits digits) :
    Fractional (whole ++ '.' :: digits) := by
  have parts := Fractional.parts written (.pointed some) .absent (by rintro ⟨⟨⟩, -⟩)
  rwa [List.append_nil] at parts

theorem isPlainDigit_zeros (count : Nat) :
    ∀ char ∈ List.replicate count '0', isPlainDigit char = true := by
  intro char member
  rw [List.eq_of_mem_replicate member]
  rfl

/-- Digits stay digits with zeros in front. -/
theorem Digits.padded {digits : List Char} (some : Digits digits) (count : Nat) :
    Digits (List.replicate count '0' ++ digits) :=
  ⟨List.append_ne_nil_of_right_ne_nil _ some.1,
    List.forall_mem_append.2 ⟨isPlainDigit_zeros count, some.2⟩⟩

theorem power_exponentText (exponent : Int) :
    ∃ value, Power (Double.exponentText exponent) value := by
  have padded := Digits.padded (whole_toDigits exponent.natAbs).all
  have marks : 'e' = 'e' ∨ 'e' = 'E' := .inl rfl
  rw [Double.exponentText]
  by_cases below : exponent < 0
  · rw [if_pos below]
    exact ⟨_, .marked marks .minus (padded _)⟩
  · rw [if_neg below]
    exact ⟨_, .marked marks .plus (padded _)⟩

/-- A positive decimal has a point or an exponent in each layout. -/
theorem fractional_decimalText {decimal : Decimal} (positive : 0 < decimal.digits) :
    Fractional (Double.decimalText decimal) := by
  obtain ⟨first, rest, same, plain, leading, others⟩ := toDigits_positive positive
  unfold Double.decimalText
  rw [same]
  dsimp only
  split
  · obtain ⟨value, scaled⟩ :=
      power_exponentText (decimal.exponent + ((first :: rest).length : Int) - 1)
    have single : Whole [first] := .digits plain leading (List.forall_mem_nil _)
    cases rest with
    | nil => exact .parts single .absent scaled fun none => by cases none.2
    | cons second rest =>
      exact .parts single (.pointed ⟨List.cons_ne_nil _ _, others⟩) scaled (by rintro ⟨⟨⟩, -⟩)
  · split
    · exact .pointed .zero
        (Digits.padded ⟨List.cons_ne_nil _ _, List.forall_mem_cons.2 ⟨plain, others⟩⟩ _)
    · split
      · exact .pointed (.digits plain leading (List.forall_mem_append.2
          ⟨others, isPlainDigit_zeros _⟩)) ⟨List.cons_ne_nil _ _, isPlainDigit_zeros 1⟩
      · -- The point stands among the digits, for the exponent is negative and the lead is not.
        have inside : (decimal.exponent + ((first :: rest).length : Int) - 1).toNat <
            rest.length := by
          have longer : (first :: rest).length = rest.length + 1 := List.length_cons
          omega
        generalize (decimal.exponent + ((first :: rest).length : Int) - 1).toNat = place at inside
        refine .pointed (.digits plain leading ?_) ⟨?_, ?_⟩
        · exact fun char member => others char (List.mem_of_mem_take member)
        · exact fun none => Nat.not_le.2 inside (List.drop_eq_nil_iff.1 none)
        · exact fun char member => others char (List.mem_of_mem_drop member)

/-- A number that shows a decimal is of the grammar, and denotes the number nearest to it. -/
theorem unquoted_of_shows {text : List Char} {decimal : Decimal} (fractional : Fractional text)
    (shows : Double.Shows text decimal.value) (negative : Bool) :
    Unquoted (Double.signed negative text) (.float (decimal.toDouble negative)) := by
  cases fractional with
  | parts written behind scaled real =>
    obtain ⟨numeral, shown, -, value⟩ := shows false
    have parts := numeral_of_parts written behind scaled
    rw [List.append_assoc] at parts
    obtain rfl := Option.some.inj (parts.symm.trans shown.read)
    rw [signed_eq_minus, ← Decimal.toDouble_congr negative value]
    exact .float negative written behind scaled real

/-- A decimal that is read as a positive number has digits. -/
theorem digits_shortest_pos {units : Nat} (fits : Double.Fits units) (some : units ≠ 0) :
    0 < (Double.shortest units).digits := by
  have read := Double.toDouble_shortest fits
  generalize Double.shortest units = decimal at read
  refine Nat.pos_of_ne_zero fun none => some ?_
  rw [Decimal.toDouble, if_pos none] at read
  exact (Option.some.inj (congrArg Double.size? read)).symm

/-- What is written of a floating point number is of the grammar, and denotes the number. -/
theorem unquoted_writtenFloat (amount : Double) : Unquoted (writtenFloat amount) (.float amount) := by
  cases amount with
  | nan => exact .word (by simp [words, writtenFloat])
  | infinite negative =>
    cases negative <;> exact .word (by simp [words, writtenFloat, Double.signed])
  | finite negative units fits =>
    cases units with
    | zero =>
      have digits : Digits ['0'] := ⟨List.cons_ne_nil _ _, isPlainDigit_zeros 1⟩
      have shows : Double.Shows "0.0".toList (Decimal.value ⟨0, -1⟩) :=
        Double.shows_positional ⟨List.cons_ne_nil _ _, isDigit_zeros 1⟩ (isDigit_zeros 1)
          (digitsValue_zeros 2) rfl
      exact unquoted_of_shows (.pointed .zero digits) shows negative
    | succ count =>
      have denoted := unquoted_of_shows
        (fractional_decimalText (digits_shortest_pos fits (Nat.succ_ne_zero count)))
        (Double.shows_decimalText _) negative
      rwa [Decimal.toDouble_signed (Double.toDouble_shortest fits)] at denoted

/-! ### The reader on what is written -/

variable {text tail : List Char} {before after : Reading}

/-- With a tail behind a text the reader takes the text from one reading to another one. -/
def Reaches (text tail : List Char) (before after : Reading) : Prop :=
  ∀ index, ∃ next, (tokens index (text ++ tail)).foldlM Reading.take before =
    (tokens next tail).foldlM Reading.take after

theorem Reaches.append {rest : List Char} {middle : Reading}
    (front : Reaches text (rest ++ tail) before middle) (back : Reaches rest tail middle after) :
    Reaches (text ++ rest) tail before after := by
  intro index
  obtain ⟨place, taken⟩ := front index
  obtain ⟨next, takenToo⟩ := back place
  refine ⟨next, ?_⟩
  rw [List.append_assoc, taken, takenToo]

theorem reaches_token (cut : ∀ index, ∃ token next,
    tokens index (text ++ tail) = ⟨index, token⟩ :: tokens next tail ∧
      before.take ⟨index, token⟩ = .ok after) : Reaches text tail before after := by
  intro index
  obtain ⟨token, next, cut, taken⟩ := cut index
  refine ⟨next, ?_⟩
  rw [cut, List.foldlM_cons, taken]
  rfl

theorem reaches_mark {mark : Char} {token : Token} (marks : markToken? mark = some token)
    (taken : ∀ index, before.take ⟨index, token⟩ = .ok after) :
    Reaches [mark] tail before after := by
  refine reaches_token fun index => ⟨token, index + 1, ?_, taken index⟩
  rw [markToken?.eq_def] at marks
  split at marks <;> cases marks <;> exact tokens_plain rfl (by decide)

/-- In an object a key is taken, behind a comma unless it is the first one. -/
theorem reaches_key {key : Text} (unpaired : Unpaired key) (members : List (Text × Json))
    (outer : List Frame) (first : Bool) :
    Reaches ((if first then [] else [',']) ++ writtenText key) tail
      ⟨.object members :: outer, if first then .firstKey else .comma⟩
      ⟨.member members key :: outer, .colon⟩ := by
  have named {waiting : Waiting} (starts : waiting = .firstKey ∨ waiting = .nextKey) :
      Reaches (writtenText key) tail ⟨.object members :: outer, waiting⟩
        ⟨.member members key :: outer, .colon⟩ := by
    refine reaches_token fun index => ?_
    obtain ⟨next, cut⟩ := tokens_quoted (spelling_written key.symbols) index tail
    rw [joinHalves_codeUnits, unpaired] at cut
    refine ⟨.key key, next, cut, ?_⟩
    obtain rfl | rfl := starts <;> rfl
  cases first with
  | true => exact named (.inl rfl)
  | false =>
    have comma : Reaches [','] (writtenText key ++ tail) ⟨.object members :: outer, .comma⟩
        ⟨.object members :: outer, .nextKey⟩ := reaches_mark rfl fun _ => rfl
    exact comma.append (named (.inr rfl))

/-- Where a value may stand, the reader takes what is written of a document as the document, and
hands it to what is open. -/
def Taken (document : Json) : Prop :=
  ∀ ⦃waiting : Waiting⦄, waiting = .value ∨ waiting = .firstItem → ∀ (frames : List Frame)
    ⦃tail : List Char⦄, Apart tail →
      Reaches (written document) tail ⟨frames, waiting⟩ (Reading.deliver frames document)

theorem Scalar.taken {document : Json} (scalar : Scalar text document)
    (same : written document = text) : Taken document := by
  intro waiting starts frames tail apart
  refine reaches_token fun index => ?_
  rw [same]
  obtain ⟨token, next, cut, isDocument⟩ := scalar.tokens apart index
  exact ⟨token, next, cut, Reading.take_document starts isDocument frames index⟩

theorem apart_cons {head : Char} (other : isPlainDigit head = false ∧ head ≠ '.' ∧ head ≠ 'e' ∧
    head ≠ 'E') (rest : List Char) : Apart (head :: rest) := by
  rintro _ ⟨⟩
  exact other

/-- Behind an item comes a comma or a bracket. -/
theorem apart_items (items : List Json) (tail : List Char) :
    Apart (writtenItems false items ++ tail) := by
  cases items with
  | nil => exact apart_cons (by decide) _
  | cons item rest => exact apart_cons (by decide) _

/-- Behind a member comes a comma or a brace. -/
theorem apart_members (members : List (Text × Json)) (tail : List Char) :
    Apart (writtenMembers false members ++ tail) := by
  cases members with
  | nil => exact apart_cons (by decide) _
  | cons member rest => exact apart_cons (by decide) _

/-- Inside of an array the items that are written come behind those that have been taken. -/
theorem reaches_items {items : List Json} (each : ∀ item ∈ items, Taken item) (first : Bool)
    (past : List Json) (outer : List Frame) :
    Reaches (writtenItems first items) tail
      ⟨.array past :: outer, if first then .firstItem else .comma⟩
      (Reading.deliver outer (.array (past.reverse ++ items))) := by
  induction items generalizing first past with
  | nil =>
    rw [List.append_nil]
    cases first <;> exact reaches_mark rfl fun _ => rfl
  | cons item rest ih =>
    obtain ⟨head, others⟩ := List.forall_mem_cons.1 each
    have later := ih others false (item :: past)
    rw [List.reverse_cons, List.append_assoc] at later
    rw [writtenItems]
    cases first with
    | true => exact (head (.inr rfl) _ (apart_items rest tail)).append later
    | false =>
      have comma : Reaches [','] (written item ++ (writtenItems false rest ++ tail))
          ⟨.array past :: outer, .comma⟩ ⟨.array past :: outer, .value⟩ :=
        reaches_mark rfl fun _ => rfl
      exact (comma.append (head (.inl rfl) _ (apart_items rest tail))).append later

/-- Inside of an object the members that are written come behind those that have been taken. -/
theorem reaches_members {members : List (Text × Json)}
    (keys : ∀ member ∈ members, Unpaired member.1) (each : ∀ member ∈ members, Taken member.2)
    (first : Bool) {past : List (Text × Json)} (outer : List Frame)
    (distinct : ((past ++ members).map Prod.fst).Nodup) :
    Reaches (writtenMembers first members) tail
      ⟨.object past :: outer, if first then .firstKey else .comma⟩
      (Reading.deliver outer (.object (past ++ members))) := by
  induction members generalizing first past with
  | nil =>
    rw [List.append_nil]
    cases first <;> exact reaches_mark rfl fun _ => rfl
  | cons member rest ih =>
    obtain ⟨key, value⟩ := member
    obtain ⟨unpaired, keys⟩ := List.forall_mem_cons.1 keys
    obtain ⟨head, others⟩ := List.forall_mem_cons.1 each
    have fresh : key ∉ past.map Prod.fst := by
      rw [List.map_append, List.nodup_append] at distinct
      exact fun there => distinct.2.2 key there key List.mem_cons_self rfl
    rw [List.append_cons] at distinct ⊢
    have later := ih keys others false distinct
    have placed : Reading.deliver (.member past key :: outer) value =
        ⟨.object (past ++ [(key, value)]) :: outer, .comma⟩ := by
      rw [Reading.deliver, upsert_of_absent fresh]
    have valued := head (.inl rfl) (.member past key :: outer) (apart_members rest tail)
    rw [placed] at valued
    have colon : Reaches [':'] (written value ++ (writtenMembers false rest ++ tail))
        ⟨.member past key :: outer, .colon⟩ ⟨.member past key :: outer, .value⟩ :=
      reaches_mark rfl fun _ => rfl
    rw [writtenMembers]
    exact ((reaches_key unpaired past outer first).append (colon.append valued)).append later

theorem Writable.taken {document : Json} (writable : Writable document) : Taken document := by
  induction writable with
  | null => exact Scalar.taken (.unquoted (.word List.mem_cons_self)) written.eq_1
  | bool truth =>
    exact Scalar.taken (.unquoted (.word (by cases truth <;> simp [words]))) (written.eq_2 truth)
  | int short => exact Scalar.taken (.unquoted (unquoted_toString short)) (written.eq_3 _)
  | float amount =>
    exact Scalar.taken (.unquoted (unquoted_writtenFloat amount)) (written.eq_4 amount)
  | @string text unpaired =>
    have scalar := Scalar.string (spelling_written text.symbols)
    rw [joinHalves_codeUnits, unpaired] at scalar
    exact scalar.taken (written.eq_5 text)
  | @array items each ih =>
    intro waiting starts frames tail apart
    rw [written]
    have opens : Reaches ['['] (writtenItems true items ++ tail) ⟨frames, waiting⟩
        ⟨.array [] :: frames, .firstItem⟩ := by
      refine reaches_mark rfl fun _ => ?_
      obtain rfl | rfl := starts <;> rfl
    exact opens.append (reaches_items ih true [] frames)
  | @object members distinct keys each ih =>
    intro waiting starts frames tail apart
    rw [written]
    have opens : Reaches ['\x7b'] (writtenMembers true members ++ tail) ⟨frames, waiting⟩
        ⟨.object [] :: frames, .firstKey⟩ := by
      refine reaches_mark rfl fun _ => ?_
      obtain rfl | rfl := starts <;> rfl
    exact opens.append (reaches_members keys ih true frames distinct)

/-! ### Documents that are read -/

/-- What is written of a document is read as the document. -/
theorem Writable.read {document : Json} (writable : Writable document) :
    Json.read (written document) = .ok document := by
  have ending : Apart [] := by rintro _ ⟨⟩
  obtain ⟨next, taken⟩ := writable.taken (.inl rfl) [] ending 0
  rw [List.append_nil, tokens] at taken
  exact read_eq_ok_iff.2 ⟨_, taken, rfl⟩

theorem digitsValue_lt {digits : List Char} (all : ∀ char ∈ digits, isPlainDigit char = true) :
    digitsValue digits < 10 ^ digits.length := by
  induction digits using List.reverseRecOn with
  | nil => exact Nat.one_pos
  | append_singleton rest last ih =>
    obtain ⟨others, here⟩ := List.forall_mem_append.1 all
    have digit : last.isDigit = true := here last List.mem_cons_self
    have most := (Char.isDigit_iff_toNat.1 digit).2
    have value : digitsValue [last] = last.toNat - '0'.toNat := by
      rw [digitsValue, List.foldl_cons, List.foldl_nil, digitValue?_of_isDigit digit]
      exact Nat.zero_add _
    have before := ih others
    rw [digitsValue_append, List.length_singleton, pow_one, value, List.length_append,
      List.length_singleton, Nat.pow_succ]
    have nine : '9'.toNat = '0'.toNat + 9 := rfl
    omega

theorem Unquoted.writable {document : Json} (unquoted : Unquoted text document) :
    Writable document := by
  cases unquoted with
  | word known =>
    simp only [words, List.mem_cons, Prod.mk.injEq, List.not_mem_nil, or_false] at known
    obtain ⟨-, rfl⟩ | ⟨-, rfl⟩ | ⟨-, rfl⟩ | ⟨-, rfl⟩ | ⟨-, rfl⟩ | ⟨-, rfl⟩ := known
    · exact .null
    · exact .bool true
    · exact .bool false
    all_goals exact .float _
  | @int whole negative written short =>
    refine .int ?_
    have size := (digitsValue_lt written.all.2).trans_le (Nat.pow_le_pow_right (by decide) short)
    split
    · rwa [Int.natAbs_neg]
    · exact size
  | float => exact .float _

/-- What a text is read as can be written. -/
theorem writable_of_read {document : Json} (done : Json.read text = .ok document) :
    Writable document := by
  have inherited : Inherited Writable Unpaired :=
    ⟨fun _ => .string, fun _ => .array, fun _ members =>
      .object members.distinct members.keys members.each⟩
  refine inherited.of_read (fun char rest => ?_) (fun symbols => joinHalves_joinHalves symbols) done
  have inner := inner_plainToken char rest
  cases begins : plainToken char rest with
  | mk token more =>
    rw [begins] at inner
    cases token with
    | scalar document =>
      obtain ⟨_, unquoted, -⟩ := unquoted_of_plainToken begins
      exact unquoted.writable
    | key text => exact inner.elim
    | _ => trivial

/-- The documents that can be written are those that texts are read as. -/
theorem writable_iff_read {document : Json} :
    Writable document ↔ ∃ text, Json.read text = .ok document :=
  ⟨fun writable => ⟨_, writable.read⟩, fun ⟨_, done⟩ => writable_of_read done⟩

end Parley.Json
