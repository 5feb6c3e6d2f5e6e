/-
This file settles when the reader comes to an integer that is too long. All other
errors of the reader name a place of the text; this one does not, and it comes up
where the value of a number is wanted, however the text goes on behind it. So it is
the one token that is looked for: a text falls into tokens, and the reader refuses
the text for a long integer if it has accepted all tokens before, and waits for a
value. Such a token is a row of digits in the text, longer than the limit.
-/

import Parley.Json.Reader

namespace Parley.Json

/-! ### Tokens -/

/-- What a token that the reader may refuse says about the text it was cut from: an open string has
a place, and an integer that is too long is a row of so many digits. -/
def Token.Fair (text : List Char) : Token → Prop
  | .openString fault => ∃ cause index, fault = .misplaced cause index
  | .longInteger digits => digitLimit < digits ∧
    ∃ run, run <:+: text ∧ run.length = digits ∧ ∀ char ∈ run, isPlainDigit char = true
  | _ => True

theorem Token.Fair.suffix {text tail : List Char} {token : Token} (fair : token.Fair tail)
    (suffix : tail <:+ text) : token.Fair text := by
  cases token with
  | openString fault => exact fair
  | longInteger digits =>
    obtain ⟨long, run, inside, length, plain⟩ := fair
    exact ⟨long, run, inside.trans suffix.isInfix, length, plain⟩
  | _ => trivial

/-- A string ends where a text goes on, or it is open and has a place. -/
theorem scanString_spec (start index : Nat) (text : List Char) :
    match scanString start index text with
    | .ok (_, _, tail) => tail <:+ text
    | .error fault => ∃ cause place, fault = .misplaced cause place := by
  fun_induction scanString start index text with
  | case1 index => exact ⟨_, _, rfl⟩
  | case2 index rest => exact List.suffix_cons _ _
  | case3 index => exact ⟨_, _, rfl⟩
  | case4 index a b c d e rest code unit ih =>
    cases inner : scanString start (index + 6) (e :: rest) with
    | error fault =>
      rw [inner] at ih
      exact ih
    | ok scanned =>
      rw [inner] at ih
      exact ih.trans (List.suffix_append ['\\', 'u', a, b, c, d] (e :: rest))
  | case5 => exact ⟨_, _, rfl⟩
  | case6 => exact ⟨_, _, rfl⟩
  | case7 index letter rest char _ letterFound _ ih =>
    cases inner : scanString start (index + 2) rest with
    | error fault =>
      rw [inner] at ih
      exact ih
    | ok scanned =>
      rw [inner] at ih
      exact ih.trans (List.suffix_append ['\\', letter] rest)
  | case8 => exact ⟨_, _, rfl⟩
  | case9 => exact ⟨_, _, rfl⟩
  | case10 index char rest _ _ _ _ _ _ ih =>
    cases inner : scanString start (index + 1) rest with
    | error fault =>
      rw [inner] at ih
      exact ih
    | ok scanned =>
      rw [inner] at ih
      exact ih.trans (List.suffix_cons char rest)

/-- The whole part of a number is made of digits that the text begins with. -/
theorem splitWhole_spec (text : List Char) :
    (splitWhole text).1 <+: text ∧ ∀ char ∈ (splitWhole text).1, isPlainDigit char = true := by
  rw [splitWhole.eq_def]
  split
  · next rest =>
    refine ⟨⟨rest, rfl⟩, fun char member => ?_⟩
    obtain rfl := List.mem_singleton.1 member
    rfl
  · refine ⟨List.takeWhile_prefix _, fun char member => ?_⟩
    exact List.all_eq_true.1 List.all_takeWhile char member

theorem fair_scanNumber {negative : Bool} {text : List Char} {token : Token} {length : Nat}
    (found : scanNumber negative text = some (token, length)) : token.Fair text := by
  obtain ⟨begins, plain⟩ := splitWhole_spec text
  rw [scanNumber] at found
  dsimp only at found
  split at found
  · cases found
  · cases found
    rw [numberToken]
    split
    · split
      · next long => exact ⟨long, _, begins.isInfix, rfl, plain⟩
      · trivial
    · split <;> trivial

theorem fair_mark (text : List Char) (char : Char) :
    ((markToken? char).getD .unknown).Fair text := by
  rw [markToken?.eq_def]
  split <;> trivial

theorem fair_plainToken (char : Char) (rest : List Char) :
    (plainToken char rest).1.Fair (char :: rest) := by
  rw [plainToken]
  split
  · trivial
  · dsimp only
    by_cases minus : char = '-'
    · rw [if_pos minus]
      cases found : scanNumber true rest with
      | none => exact fair_mark _ char
      | some number => exact (fair_scanNumber found).suffix (List.suffix_cons char rest)
    · rw [if_neg minus]
      cases found : scanNumber false (char :: rest) with
      | none => exact fair_mark _ char
      | some number => exact fair_scanNumber found

/-- All tokens of a text are fair. -/
theorem fair_tokens (index : Nat) (text : List Char) :
    ∀ located ∈ tokens index text, located.token.Fair text := by
  fun_induction tokens index text with
  | case1 index =>
    intro located member
    obtain rfl := List.mem_singleton.1 member
    trivial
  | case2 index char rest gap ih =>
    exact fun located member => (ih located member).suffix (List.suffix_cons char rest)
  | case3 index rest symbols next tail found gap ih =>
    intro located member
    have scanned := scanString_spec index (index + 1) rest
    rw [found] at scanned
    obtain rfl | behind := List.mem_cons.1 member
    · trivial
    · exact (ih located behind).suffix (scanned.trans (List.suffix_cons '"' rest))
  | case4 index rest fault found gap =>
    intro located member
    have scanned := scanString_spec index (index + 1) rest
    rw [found] at scanned
    obtain rfl := List.mem_singleton.1 member
    exact scanned
  | case5 index char rest gap quote token more found ih =>
    intro located member
    obtain rfl | behind := List.mem_cons.1 member
    · have fair := fair_plainToken char rest
      rw [found] at fair
      exact fair
    · exact (ih located behind).suffix
        ((List.drop_suffix more rest).trans (List.suffix_cons char rest))

/-! ### The reader -/

/-- The reader waits for a value. -/
def Reading.WantsValue (reading : Reading) : Prop :=
  reading.waiting = .value ∨ reading.waiting = .firstItem

section

variable {text : List Char} {token : Token}

theorem Reading.takeValue_eq_tooLong {frames : List Frame} {index digits : Nat}
    (fair : token.Fair text) :
    takeValue frames index token = .error (.tooLong digits) ↔ token = .longInteger digits := by
  cases token with
  | openString fault =>
    obtain ⟨cause, place, rfl⟩ := fair
    simp [takeValue]
  | longInteger many => simp [takeValue]
  | _ => simp [takeValue]

theorem Reading.takeKey_ne_tooLong {frames : List Frame} {index digits : Nat}
    (fair : token.Fair text) : takeKey frames index token ≠ .error (.tooLong digits) := by
  rw [takeKey.eq_def]
  split
  · nofun
  · obtain ⟨cause, place, rfl⟩ := fair
    nofun
  · nofun

/-- A token is refused for a long integer if it is one and a value is wanted. -/
theorem Reading.take_eq_tooLong {reading : Reading} {index digits : Nat}
    (fair : token.Fair text) :
    reading.take ⟨index, token⟩ = .error (.tooLong digits) ↔
      token = .longInteger digits ∧ reading.WantsValue := by
  obtain ⟨frames, waiting⟩ := reading
  -- Where no value is wanted a refusal has a place.
  have elsewhere {waiting : Waiting} {taken : Except Fault Reading}
      (other : taken ≠ .error (.tooLong digits)) (value : waiting ≠ .value)
      (item : waiting ≠ .firstItem) :
      taken = .error (.tooLong digits) ↔
        token = .longInteger digits ∧ (Reading.mk frames waiting).WantsValue :=
    iff_of_false other fun both => both.2.elim value item
  rw [take.eq_def]
  dsimp only
  split
  next => exact iff_of_false nofun nofun
  next => exact (takeValue_eq_tooLong fair).trans (and_iff_left (.inr rfl)).symm
  next => exact (takeValue_eq_tooLong fair).trans (and_iff_left (.inl rfl)).symm
  next => exact elsewhere nofun nofun nofun
  next => exact elsewhere (takeKey_ne_tooLong fair) nofun nofun
  next => exact elsewhere (takeKey_ne_tooLong fair) nofun nofun
  all_goals exact elsewhere nofun nofun nofun

end

/-- Steps fail where one of them does, behind steps that do not. -/
theorem foldlM_eq_error {State Item Failure : Type} {step : State → Item → Except Failure State}
    {items : List Item} {start : State} {failure : Failure} :
    items.foldlM step start = .error failure ↔ ∃ before item behind state,
      items = before ++ item :: behind ∧ before.foldlM step start = .ok state ∧
        step state item = .error failure := by
  induction items generalizing start with
  | nil =>
    refine iff_of_false nofun ?_
    rintro ⟨before, item, behind, state, cut, -⟩
    cases before <;> cases cut
  | cons first rest ih =>
    rw [List.foldlM_cons]
    cases stepped : step start first with
    | error fault =>
      constructor
      · intro same
        cases same
        exact ⟨[], first, rest, start, rfl, rfl, stepped⟩
      · rintro ⟨before, item, behind, state, cut, led, fails⟩
        cases before with
        | nil =>
          cases cut
          cases led
          exact stepped.symm.trans fails
        | cons earlier before =>
          cases cut
          rw [List.foldlM_cons, stepped] at led
          cases led
    | ok state =>
      refine Iff.trans ih ?_
      constructor
      · rintro ⟨before, item, behind, final, rfl, led, fails⟩
        refine ⟨first :: before, item, behind, final, rfl, ?_, fails⟩
        rw [List.foldlM_cons, stepped]
        exact led
      · rintro ⟨before, item, behind, final, cut, led, fails⟩
        cases before with
        | nil =>
          cases cut
          cases led
          cases stepped.symm.trans fails
        | cons earlier before =>
          cases cut
          rw [List.foldlM_cons, stepped] at led
          exact ⟨before, item, behind, final, rfl, led, fails⟩

/-- The reader comes to an integer of so many digits, which are too many. -/
def MeetsInteger (text : List Char) (digits : Nat) : Prop :=
  ∃ before located behind reading, tokens 0 text = before ++ located :: behind ∧
    located.token = .longInteger digits ∧
    before.foldlM Reading.take Reading.start = .ok reading ∧ reading.WantsValue

/-- What begins with a byte order mark begins with a token that the reader refuses. -/
theorem plainToken_byteOrderMark (rest : List Char) :
    plainToken '\uFEFF' rest = (.unknown, 0) := rfl

theorem tokens_plain {index : Nat} {char : Char} {rest : List Char} (gap : isGap char = false)
    (quote : char ≠ '"') : tokens index (char :: rest) =
      ⟨index, (plainToken char rest).1⟩ ::
        tokens (index + 1 + (plainToken char rest).2) (rest.drop (plainToken char rest).2) := by
  rw [tokens, gap, if_neg Bool.false_ne_true, if_neg quote]

theorem not_meetsInteger_byteOrderMark (rest : List Char) (digits : Nat) :
    ¬ MeetsInteger ('\uFEFF' :: rest) digits := by
  rintro ⟨before, located, behind, reading, cut, long, accepted, -⟩
  rw [tokens_plain rfl (by decide), plainToken_byteOrderMark] at cut
  cases before with
  | nil =>
    cases cut
    cases long
  | cons first before =>
    obtain ⟨rfl, -⟩ := List.cons.inj cut
    cases accepted

theorem ofTokens_eq_tooLong {located : List Located} {digits : Nat} :
    ofTokens located = .error (.tooLong digits) ↔
      located.foldlM Reading.take Reading.start = .error (.tooLong digits) := by
  rw [ofTokens]
  cases located.foldlM Reading.take Reading.start with
  | error fault =>
    constructor
    · intro same
      cases same
      rfl
    · intro same
      cases same
      rfl
  | ok reading =>
    refine iff_of_false ?_ (by rintro ⟨⟩)
    dsimp only [bind, Except.bind]
    cases reading.document? with
    | none => rintro ⟨⟩
    | some document => rintro ⟨⟩

/-- A text is refused for a long integer exactly if the reader comes to one. -/
theorem read_eq_tooLong {text : List Char} {digits : Nat} :
    read text = .error (.tooLong digits) ↔ MeetsInteger text digits := by
  rw [read.eq_def]
  split
  next rest => exact iff_of_false nofun (not_meetsInteger_byteOrderMark rest digits)
  next =>
    rw [ofTokens_eq_tooLong, foldlM_eq_error]
    refine exists_congr fun before => exists_congr fun located => exists_congr fun behind =>
      exists_congr fun reading => and_congr_right fun cut => ?_
    have fair := fair_tokens 0 text located (cut ▸ List.mem_append_right _ List.mem_cons_self)
    rw [Reading.take_eq_tooLong fair, and_left_comm]

/-- An integer that the reader comes to is a row of digits of the text, more than the limit. -/
theorem MeetsInteger.run {text : List Char} {digits : Nat} (meets : MeetsInteger text digits) :
    digitLimit < digits ∧
      ∃ run, run <:+: text ∧ run.length = digits ∧ ∀ char ∈ run, isPlainDigit char = true := by
  obtain ⟨before, located, behind, reading, cut, long, -⟩ := meets
  have fair := fair_tokens 0 text located (cut ▸ List.mem_append_right _ List.mem_cons_self)
  rw [long] at fair
  exact fair

/-- A text that is nothing but a long row of ones is an integer that is too long. -/
theorem plainToken_replicate {count : Nat} (long : digitLimit < count + 1) :
    plainToken '1' (List.replicate count '1') = (.longInteger (count + 1), count) := by
  have whole : splitWhole (List.replicate (count + 1) '1') =
      (List.replicate (count + 1) '1', []) := by
    rw [splitWhole.eq_def]
    split
    next same => cases same
    next =>
      rw [List.takeWhile_replicate, List.dropWhile_replicate]
      rfl
  have token : numberToken false (List.replicate (count + 1) '1') [] [] =
      .longInteger (count + 1) := by
    rw [numberToken, if_pos ⟨rfl, rfl⟩, List.length_replicate, if_pos long]
  have scanned : scanNumber false ('1' :: List.replicate count '1') =
      some (.longInteger (count + 1), count + 1) := by
    rw [← List.replicate_succ, scanNumber, whole]
    dsimp only [splitPoint, splitPower]
    rw [if_neg (by rw [List.replicate_succ]; exact List.cons_ne_nil _ _), token,
      List.length_replicate]
    rfl
  have noWord : (words.find? fun word => word.1.isPrefixOf ('1' :: List.replicate count '1')) =
      none := rfl
  rw [plainToken, noWord, scanned]
  rfl

theorem meetsInteger_replicate {count : Nat} (long : digitLimit < count) :
    MeetsInteger (List.replicate count '1') count := by
  obtain ⟨count, rfl⟩ := Nat.exists_eq_add_one_of_ne_zero (Nat.ne_zero_of_lt long)
  have cut : tokens 0 ('1' :: List.replicate count '1') = _ := tokens_plain rfl (by decide)
  rw [plainToken_replicate long, ← List.replicate_succ] at cut
  exact ⟨[], _, _, .start, cut, rfl, rfl, .inl rfl⟩

end Parley.Json
