/-
This file settles which texts are scalar documents: a word, a number or a string with gaps
around it. What is read and has no parts is of the grammar, and what is of the grammar is
read as the document that it denotes.

The token that a text begins with decides. After it the reader has its document, and nothing
but gaps may follow; and once a bracket or a brace has been opened, the document that comes
out at the end has parts.

Texts, integers of not too many digits, truth values and nothing can be encoded, and what
encodes them denotes them.
-/

import Parley.Proofs.Json.Keys
import Parley.Proofs.Json.Numbers
import Parley.Proofs.Json.Strings

namespace Parley.Json

open Parley.Text

/-! ### Texts that are scalar documents -/

/-- A text without gaps around it that is a scalar document. -/
inductive Scalar : List Char → Json → Prop
  | unquoted {inner : List Char} {document : Json} (written : Unquoted inner document) :
      Scalar inner document
  | string {spelled : List Char} {symbols : List Symbol} (written : Spelling spelled symbols) :
      Scalar ('"' :: (spelled ++ ['"'])) (.string ⟨joinHalves symbols⟩)

/-- A text is a scalar document with gaps around it. -/
def Denotes (text : List Char) (document : Json) : Prop :=
  ∃ before inner after, Gaps before ∧ Gaps after ∧ text = before ++ (inner ++ after) ∧
    Scalar inner document

theorem tokens_gaps {before : List Char} (gaps : Gaps before) (index : Nat) (rest : List Char) :
    ∃ next, tokens index (before ++ rest) = tokens next rest := by
  induction before generalizing index with
  | nil => exact ⟨index, rfl⟩
  | cons char before ih =>
    obtain ⟨gap, gaps⟩ := List.forall_mem_cons.1 gaps
    obtain ⟨next, same⟩ := ih gaps (index + 1)
    exact ⟨next, (tokens_gap gap _).trans same⟩

theorem tokens_end {text : List Char} (gaps : Gaps text) (index : Nat) :
    ∃ next, tokens index text = [⟨next, .ending⟩] := by
  obtain ⟨next, same⟩ := tokens_gaps gaps index []
  rw [List.append_nil] at same
  exact ⟨next, same.trans (tokens.eq_1 next)⟩

/-- A text is nothing but gaps, or something else comes behind them. -/
theorem gaps_cases (text : List Char) :
    Gaps text ∨ ∃ before char rest, Gaps before ∧ isGap char = false ∧
      text = before ++ char :: rest := by
  induction text with
  | nil => exact .inl (List.forall_mem_nil _)
  | cons head tail ih =>
    cases gap : isGap head with
    | false => exact .inr ⟨[], head, tail, List.forall_mem_nil _, gap, rfl⟩
    | true =>
      obtain gaps | ⟨before, char, rest, gaps, solid, rfl⟩ := ih
      · exact .inl (List.forall_mem_cons.2 ⟨gap, gaps⟩)
      · exact .inr ⟨head :: before, char, rest, List.forall_mem_cons.2 ⟨gap, gaps⟩, solid, rfl⟩

/-- A text is read as a document if the reader takes all its tokens and ends with the document. -/
theorem read_eq_ok_iff {text : List Char} {document : Json} :
    read text = .ok document ↔ ∃ reading,
      (tokens 0 text).foldlM Reading.take Reading.start = .ok reading ∧
        reading.document? = some document := by
  have taken : ofTokens (tokens 0 text) = .ok document ↔ ∃ reading,
      (tokens 0 text).foldlM Reading.take Reading.start = .ok reading ∧
        reading.document? = some document := by
    rw [ofTokens]
    cases (tokens 0 text).foldlM Reading.take Reading.start with
    | error fault =>
      refine iff_of_false (by rintro ⟨⟩) ?_
      rintro ⟨_, ⟨⟩, -⟩
    | ok reading =>
      dsimp only [bind, Except.bind]
      cases ended : reading.document? with
      | none =>
        refine iff_of_false (by rintro ⟨⟩) ?_
        rintro ⟨_, ⟨⟩, some⟩
        cases ended.symm.trans some
      | some document =>
        constructor
        · rintro ⟨⟩
          exact ⟨reading, rfl, ended⟩
        · rintro ⟨_, ⟨⟩, some⟩
          cases ended.symm.trans some
          rfl
  rw [← taken, read.eq_def]
  split
  · next rest =>
    refine iff_of_false (by rintro ⟨⟩) ?_
    rw [tokens_plain rfl (by decide), plainToken_byteOrderMark]
    rintro ⟨⟩
  · rfl

/-- The document of a token that is one. -/
def Token.document? : Token → Option Json
  | .scalar document => some document
  | .key text => some (.string text)
  | _ => none

/-- A spelling between quotes is the token of what it spells, with the halves joined. -/
theorem tokens_quoted {spelled : List Char} {symbols : List Symbol}
    (written : Spelling spelled symbols) (index : Nat) (tail : List Char) :
    ∃ next, tokens index ('"' :: (spelled ++ ['"']) ++ tail) =
      ⟨index, .key ⟨joinHalves symbols⟩⟩ :: tokens next tail := by
  obtain ⟨place, scanned⟩ := written.scanString index (index + 1) tail
  have found : content (scanString index (index + 1) (spelled ++ '"' :: tail)) =
      some (symbols, tail) := congrArg content scanned
  obtain ⟨next, cut⟩ := tokens_string found
  refine ⟨next, ?_⟩
  rw [← cut, List.cons_append, List.append_assoc]
  rfl

/-- A document with something else behind it is the token of the document. -/
theorem Scalar.tokens {inner tail : List Char} {document : Json} (scalar : Scalar inner document)
    (apart : Apart tail) (index : Nat) :
    ∃ token next, Json.tokens index (inner ++ tail) = ⟨index, token⟩ :: Json.tokens next tail ∧
      token.document? = some document := by
  cases scalar with
  | unquoted written =>
    obtain ⟨char, rest, rfl, gap, quote, begins⟩ := written.begins apart
    refine ⟨.scalar document, index + 1 + rest.length, ?_, rfl⟩
    rw [List.cons_append, tokens_plain gap quote, begins, List.drop_left]
  | string written =>
    obtain ⟨next, cut⟩ := tokens_quoted written index tail
    exact ⟨_, next, cut, rfl⟩

/-- Where a value may stand, the token of a document hands the document to what is open. -/
theorem Reading.take_document {waiting : Waiting} (starts : waiting = .value ∨ waiting = .firstItem)
    {token : Token} {document : Json} (isDocument : token.document? = some document)
    (frames : List Frame) (index : Nat) :
    Reading.take ⟨frames, waiting⟩ ⟨index, token⟩ = .ok (deliver frames document) := by
  cases token with
  | scalar document =>
    cases isDocument
    obtain rfl | rfl := starts <;> rfl
  | key text =>
    cases isDocument
    obtain rfl | rfl := starts <;> rfl
  | _ => cases isDocument

/-- What is of the grammar is read as the document that it denotes. -/
theorem Denotes.read {text : List Char} {document : Json} (denotes : Denotes text document) :
    Json.read text = .ok document := by
  obtain ⟨before, inner, after, front, back, rfl, scalar⟩ := denotes
  obtain ⟨index, same⟩ := tokens_gaps front 0 (inner ++ after)
  obtain ⟨token, next, cut, isDocument⟩ := scalar.tokens back.apart index
  obtain ⟨last, ending⟩ := tokens_end back next
  refine read_eq_ok_iff.2 ⟨⟨[], .ending document⟩, ?_, rfl⟩
  rw [same, cut, ending, List.foldlM_cons, Reading.start,
    Reading.take_document (.inl rfl) isDocument]
  rfl

/-! ### What is read -/

/-- A token that is cut from a text which begins with neither a gap nor a quote. -/
def Token.Inner : Token → Prop
  | .key _ | .ending => False
  | _ => True

theorem inner_mark (char : Char) : ((markToken? char).getD .unknown).Inner := by
  rw [markToken?.eq_def]
  split <;> trivial

theorem inner_numberToken (negative : Bool) (whole fraction power : List Char) :
    (numberToken negative whole fraction power).Inner := by
  rw [numberToken]
  split
  · split <;> trivial
  · split <;> trivial

theorem inner_plainToken (char : Char) (rest : List Char) : (plainToken char rest).1.Inner := by
  have number {negative : Bool} {text : List Char} {found : Token × Nat}
      (scanned : scanNumber negative text = some found) : found.1.Inner := by
    rw [scanNumber] at scanned
    dsimp only at scanned
    split at scanned
    · cases scanned
    · cases scanned
      exact inner_numberToken _ _ _ _
  rw [plainToken]
  split
  · trivial
  · dsimp only
    split
    · next found scanned =>
      by_cases negative : char = '-'
      · rw [if_pos negative] at scanned
        exact number scanned
      · rw [if_neg negative] at scanned
        obtain ⟨whole, took, rfl⟩ := Option.map_eq_some_iff.1 scanned
        have inner := number took
        exact inner
    · exact inner_mark char

/-- Before its end a text falls into tokens that are no end. -/
theorem exists_token {char : Char} (gap : isGap char = false) (index : Nat) (rest : List Char) :
    ∃ token behind, tokens index (char :: rest) = ⟨index, token⟩ :: behind ∧ token ≠ .ending := by
  by_cases quote : char = '"'
  · subst quote
    cases scanned : content (scanString index (index + 1) rest) with
    | none =>
      obtain ⟨cause, place, cut⟩ := tokens_openString scanned
      exact ⟨_, _, cut, by rintro ⟨⟩⟩
    | some string =>
      obtain ⟨next, cut⟩ := tokens_string scanned
      exact ⟨_, _, cut, by rintro ⟨⟩⟩
  · refine ⟨_, _, tokens_plain gap quote, fun ends => ?_⟩
    have inner := inner_plainToken char rest
    rw [ends] at inner
    exact inner

/-- Behind its document the reader takes nothing but gaps. -/
theorem gaps_of_ending {text : List Char} {index : Nat} {document : Json} {final : Reading}
    (taken : (tokens index text).foldlM Reading.take ⟨[], .ending document⟩ = .ok final) :
    Gaps text ∧ final = ⟨[], .ending document⟩ := by
  obtain gaps | ⟨before, char, rest, gaps, solid, rfl⟩ := gaps_cases text
  · obtain ⟨next, cut⟩ := tokens_end gaps index
    rw [cut] at taken
    cases taken
    exact ⟨gaps, rfl⟩
  · obtain ⟨next, same⟩ := tokens_gaps gaps index (char :: rest)
    obtain ⟨token, behind, cut, goesOn⟩ := exists_token solid next rest
    rw [same, cut, List.foldlM_cons] at taken
    cases token with
    | ending => exact absurd rfl goesOn
    | _ => cases taken

/-- Something is open, or the document that was read has parts. -/
def Reading.Nested (reading : Reading) : Prop :=
  match reading.waiting with
  | .ending document => document.isScalar = false
  | _ => reading.frames ≠ []

namespace Reading

variable {frames : List Frame}

/-- A document with parts, or inside of an open frame, is handed on to what is open or ends the
text. -/
theorem nested_deliver {document : Json} (inside : frames ≠ [] ∨ document.isScalar = false) :
    (deliver frames document).Nested := by
  cases frames with
  | nil => exact inside.resolve_left (fun some => some rfl)
  | cons frame outer =>
    cases frame with
    | array items => exact List.cons_ne_nil _ _
    | object members => exact List.cons_ne_nil _ _
    | member members key => exact List.cons_ne_nil _ _

theorem nested_takeValue (inside : frames ≠ []) {index : Nat} {token : Token} {after : Reading}
    (taken : takeValue frames index token = .ok after) : after.Nested := by
  cases token with
  | scalar document =>
    cases taken
    exact nested_deliver (.inl inside)
  | key text =>
    cases taken
    exact nested_deliver (.inl inside)
  | beginArray =>
    cases taken
    exact List.cons_ne_nil _ _
  | beginObject =>
    cases taken
    exact List.cons_ne_nil _ _
  | _ => cases taken

theorem nested_takeKey {index : Nat} {token : Token} {after : Reading}
    (taken : takeKey frames index token = .ok after) : after.Nested := by
  rw [takeKey.eq_def] at taken
  split at taken
  · cases taken
    exact List.cons_ne_nil _ _
  · cases taken
  · cases taken

/-- What is open stays so until a document with parts is closed. -/
theorem Nested.take {reading after : Reading} (nested : reading.Nested) {located : Located}
    (taken : reading.take located = .ok after) : after.Nested := by
  obtain ⟨frames, waiting⟩ := reading
  obtain ⟨index, token⟩ := located
  rw [Reading.take.eq_def] at taken
  dsimp only at taken
  split at taken
  next items outer =>
    cases taken
    exact nested_deliver (.inr rfl)
  next => exact nested_takeValue nested taken
  next => exact nested_takeValue nested taken
  next members outer =>
    cases taken
    exact nested_deliver (.inr rfl)
  next => exact nested_takeKey taken
  next => exact nested_takeKey taken
  next =>
    cases taken
    exact nested
  next => cases taken
  next items outer =>
    cases taken
    exact List.cons_ne_nil _ _
  next members outer =>
    cases taken
    exact List.cons_ne_nil _ _
  next items outer =>
    cases taken
    exact nested_deliver (.inr rfl)
  next members outer =>
    cases taken
    exact nested_deliver (.inr rfl)
  next => cases taken
  next document =>
    cases taken
    exact nested
  next => cases taken

theorem Nested.foldlM {reading final : Reading} (nested : reading.Nested) {located : List Located}
    (taken : located.foldlM Reading.take reading = .ok final) : final.Nested :=
  foldlM_keeps (fun _ _ _ _ nested stepped => nested.take stepped) nested taken

end Reading

/-- What is read and has no parts is of the grammar. -/
theorem denotes_of_read {text : List Char} {document : Json} (done : read text = .ok document)
    (scalar : document.isScalar = true) : Denotes text document := by
  obtain ⟨final, taken, ended⟩ := read_eq_ok_iff.1 done
  have apart (nested : final.Nested) : False := by
    obtain ⟨frames, waiting⟩ := final
    cases waiting with
    | ending last =>
      cases ended
      exact absurd (scalar.symm.trans nested) (by decide)
    | _ => cases ended
  obtain gaps | ⟨before, char, rest, gaps, solid, rfl⟩ := gaps_cases text
  · obtain ⟨next, cut⟩ := tokens_end gaps 0
    rw [cut] at taken
    cases taken
  · obtain ⟨index, same⟩ := tokens_gaps gaps 0 (char :: rest)
    rw [same] at taken
    by_cases quote : char = '"'
    · subst quote
      cases scanned : scanString index (index + 1) rest with
      | error fault =>
        have found : content (scanString index (index + 1) rest) = none := congrArg content scanned
        obtain ⟨cause, place, cut⟩ := tokens_openString found
        rw [cut] at taken
        cases taken
      | ok string =>
        obtain ⟨symbols, next, tail⟩ := string
        have found : content (scanString index (index + 1) rest) = some (symbols, tail) :=
          congrArg content scanned
        obtain ⟨next, cut⟩ := tokens_string found
        obtain ⟨spelled, written, rfl⟩ := exists_spelling_of_scanString scanned
        rw [cut, List.foldlM_cons] at taken
        obtain ⟨gaps', rfl⟩ := gaps_of_ending taken
        cases ended
        refine ⟨before, _, tail, gaps, gaps', ?_, .string written⟩
        rw [List.cons_append, List.append_assoc]
        rfl
    · rw [tokens_plain solid quote, List.foldlM_cons] at taken
      cases begins : plainToken char rest with
      | mk token more =>
        rw [begins] at taken
        cases token with
        | scalar first =>
          obtain ⟨gaps', rfl⟩ := gaps_of_ending taken
          cases ended
          obtain ⟨inner, written, cut⟩ := unquoted_of_plainToken begins
          refine ⟨before, char :: inner, rest.drop more, gaps, gaps', ?_, .unquoted written⟩
          rw [List.cons_append, ← cut]
        | beginArray =>
          have nested : (⟨[.array []], .firstItem⟩ : Reading).Nested := List.cons_ne_nil _ _
          exact (apart (nested.foldlM taken)).elim
        | beginObject =>
          have nested : (⟨[.object []], .firstKey⟩ : Reading).Nested := List.cons_ne_nil _ _
          exact (apart (nested.foldlM taken)).elim
        | key text =>
          have inner := inner_plainToken char rest
          rw [begins] at inner
          exact inner.elim
        | _ => cases taken

theorem Scalar.isScalar {inner : List Char} {document : Json} (scalar : Scalar inner document) :
    document.isScalar = true := by
  cases scalar with
  | unquoted written =>
    cases written with
    | word known =>
      have all : ∀ word ∈ words, word.2.isScalar = true := by decide
      exact all _ known
    | int => rfl
    | float => rfl
  | string => rfl

/-- The documents without parts that are read are those of the grammar. -/
theorem read_eq_scalar_iff {text : List Char} {document : Json} :
    read text = .ok document ∧ document.isScalar = true ↔ Denotes text document := by
  constructor
  · rintro ⟨done, scalar⟩
    exact denotes_of_read done scalar
  · intro denotes
    obtain ⟨before, inner, after, -, -, -, scalar⟩ := id denotes
    exact ⟨denotes.read, scalar.isScalar⟩

/-! ### Scalars that are encoded -/

/-- A scalar document as it is encoded: strings as texts are, all others as they are written. -/
def encoded : Json → List Char
  | .string text => encodedText text
  | document => written document

theorem Scalar.denotes {text : List Char} {document : Json} (scalar : Scalar text document) :
    Denotes text document :=
  ⟨[], text, [], List.forall_mem_nil _, List.forall_mem_nil _, (List.append_nil text).symm, scalar⟩

/-- The digits of a positive number do not begin with a zero. -/
theorem toDigits_positive {number : Nat} (positive : 0 < number) :
    ∃ first rest, Nat.toDigits 10 number = first :: rest ∧ isPlainDigit first = true ∧
      first ≠ '0' ∧ ∀ char ∈ rest, isPlainDigit char = true := by
  have digit : ∀ value : Fin 10, isPlainDigit value.val.digitChar = true ∧
      (value.val ≠ 0 → value.val.digitChar ≠ '0') := by decide
  induction number using Nat.strongRecOn with
  | ind number ih =>
    by_cases small : number < 10
    · obtain ⟨plain, leading⟩ := digit ⟨number, small⟩
      exact ⟨_, [], Nat.toDigits_of_lt_base small, plain, leading (Nat.ne_of_gt positive),
        List.forall_mem_nil _⟩
    · obtain ⟨first, rest, front, plain, leading, all⟩ :=
        ih (number / 10) (by omega) (by omega)
      have last := (digit ⟨number % 10, Nat.mod_lt _ (by decide)⟩).1
      refine ⟨first, rest ++ [(number % 10).digitChar], ?_, plain, leading, ?_⟩
      · rw [Nat.toDigits_of_base_le (by decide) (Nat.not_lt.1 small), front, List.cons_append]
      · exact List.forall_mem_append.2 ⟨all, List.forall_mem_singleton.2 last⟩

theorem whole_toDigits (number : Nat) : Whole (Nat.toDigits 10 number) := by
  obtain rfl | positive := Nat.eq_zero_or_pos number
  · exact .zero
  · obtain ⟨first, rest, digits, plain, leading, all⟩ := toDigits_positive positive
    rw [digits]
    exact .digits plain leading all

theorem signed_eq_minus (negative : Bool) (text : List Char) :
    Double.signed negative text = minus negative ++ text := by
  rw [Double.signed, minus]
  split <;> rfl

/-- An integer with no more digits than the limit is of the grammar. -/
theorem unquoted_toString {integer : Int} (short : integer.natAbs < 10 ^ digitLimit) :
    Unquoted (toString integer).toList (.int integer) := by
  have digits : (Nat.toDigits 10 integer.natAbs).length ≤ digitLimit :=
    (Nat.length_toDigits_le_iff (by decide) (by decide)).2 short
  have written := Unquoted.int (decide (integer < 0)) (whole_toDigits _) digits
  have value : (if decide (integer < 0) then -((integer.natAbs : Nat) : Int) else integer.natAbs) =
      integer := by
    split
    · next below =>
      have below := of_decide_eq_true below
      omega
    · next above =>
      have above := of_decide_eq_false (Bool.eq_false_iff.2 above)
      omega
  rw [digitsValue_toDigits, value] at written
  rw [Double.toList_toString, signed_eq_minus]
  exact written

/-- An integer with no more digits than the limit is encoded as a document that denotes it. -/
theorem denotes_encoded_int {integer : Int} (short : integer.natAbs < 10 ^ digitLimit) :
    Denotes (encoded (.int integer)) (.int integer) := by
  rw [encoded, written]
  · exact (Scalar.unquoted (unquoted_toString short)).denotes
  · rintro _ ⟨⟩

theorem denotes_encoded_null : Denotes (encoded .null) .null := by
  have known : (encoded .null, Json.null) ∈ words := by simp [words, encoded, written]
  exact (Scalar.unquoted (.word known)).denotes

theorem denotes_encoded_bool (truth : Bool) : Denotes (encoded (.bool truth)) (.bool truth) := by
  have known : (encoded (.bool truth), Json.bool truth) ∈ words := by
    cases truth <;> simp [words, encoded, written]
  exact (Scalar.unquoted (.word known)).denotes

/-- A text is encoded as a document that denotes it, with its halves joined. -/
theorem denotes_encoded_string (text : Text) :
    Denotes (encoded (.string text)) (.string ⟨joinHalves text.symbols⟩) := by
  have scalar := Scalar.string (spelling_encoded text.symbols)
  rw [joinHalves_codeUnits] at scalar
  exact scalar.denotes

end Parley.Json
