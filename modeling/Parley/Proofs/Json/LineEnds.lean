/-
This file settles that the reader of documents does not see which line ends a text has. A line
end between tokens is a gap of whatever kind it is, none can stand inside a number or a word,
and inside a string every one of them is refused. So a text and the text with its line ends
joined fall into the same tokens, at other places, and are the same document or none.

What is wrong with a text that is no document may have another place, or be found to be wrong
otherwise; that an integer was too long is found in both or in neither.
-/

import Parley.Proofs.Json.Integers
import Parley.Proofs.Text.Utf8

namespace Parley.Json

open Parley.Text

/-! ### Numbers -/

theorem steady_digits :
    Steady fun text => (text.takeWhile isPlainDigit, text.dropWhile isPlainDigit) :=
  steady_span rfl rfl

theorem splitWhole_other {char : Char} (other : char ≠ '0') (rest : List Char) :
    splitWhole (char :: rest) =
      ((char :: rest).takeWhile isPlainDigit, (char :: rest).dropWhile isPlainDigit) := by
  rw [splitWhole.eq_def]
  split
  · next same => exact absurd (List.cons.inj same).1 other
  · rfl

theorem steady_splitWhole : Steady splitWhole := by
  refine steady_of rfl (fun _ => rfl) (fun _ => rfl) (fun char rest => ?_)
    (fun char rest plain => ?_) (fun char rest plain => ?_)
  · by_cases zero : char = '0'
    · subst zero
      rfl
    · rw [splitWhole_other zero]
      exact steady_digits.whole _
  · by_cases zero : char = '0'
    · subst zero
      exact fun member => plain (List.mem_singleton.1 member).symm
    · rw [splitWhole_other zero]
      exact steady_digits.plain _
  · by_cases zero : char = '0'
    · subst zero
      rfl
    · rw [splitWhole_other zero, splitWhole_other zero]
      have joined := steady_digits.joined (char :: rest)
      rwa [joinLineEnds_cons plain] at joined

theorem splitPoint_point (rest : List Char) :
    splitPoint ('.' :: rest) =
      if rest.takeWhile isPlainDigit = [] then ([], '.' :: rest)
      else ('.' :: rest.takeWhile isPlainDigit, rest.dropWhile isPlainDigit) := by
  rw [splitPoint]
  cases rest.takeWhile isPlainDigit with
  | nil => rfl
  | cons digit digits => rfl

theorem splitPoint_other {char : Char} (other : char ≠ '.') (rest : List Char) :
    splitPoint (char :: rest) = ([], char :: rest) := by
  rw [splitPoint.eq_def]
  split
  · next same => exact absurd (List.cons.inj same).1 other
  · rfl

theorem steady_splitPoint : Steady splitPoint := by
  refine steady_of rfl (fun _ => rfl) (fun _ => rfl) (fun char rest => ?_)
    (fun char rest plain => ?_) (fun char rest plain => ?_)
  · by_cases point : char = '.'
    · rw [point, splitPoint_point]
      split
      · rfl
      · exact congrArg (List.cons '.') (steady_digits.whole rest)
    · rw [splitPoint_other point, List.nil_append]
  · by_cases point : char = '.'
    · rw [point, splitPoint_point]
      split
      · exact List.not_mem_nil
      · exact List.not_mem_cons_of_ne_of_not_mem (by decide) (steady_digits.plain rest)
    · rw [splitPoint_other point]
      exact List.not_mem_nil
  · by_cases point : char = '.'
    · obtain ⟨taken, dropped⟩ := Prod.mk.inj (steady_digits.joined rest)
      rw [point, splitPoint_point, splitPoint_point, taken, dropped]
      split
      · rw [joinLineEnds_cons (by decide)]
      · rfl
    · rw [splitPoint_other point, splitPoint_other point, joinLineEnds_cons plain]

theorem splitMark_other {char : Char} (plus : char ≠ '+') (minus : char ≠ '-') (rest : List Char) :
    splitMark (char :: rest) = ([], char :: rest) := by
  rw [splitMark.eq_def]
  split
  · next same => exact absurd (List.cons.inj same).1 plus
  · next same => exact absurd (List.cons.inj same).1 minus
  · rfl

theorem steady_splitMark : Steady splitMark := by
  refine steady_of rfl (fun _ => rfl) (fun _ => rfl) (fun char rest => ?_)
    (fun char rest plain => ?_) (fun char rest plain => ?_)
  · by_cases plus : char = '+'
    · rw [plus]
      rfl
    · by_cases minus : char = '-'
      · rw [minus]
        rfl
      · rw [splitMark_other plus minus, List.nil_append]
  · by_cases plus : char = '+'
    · rw [plus]
      exact List.not_mem_cons_of_ne_of_not_mem (by decide) List.not_mem_nil
    · by_cases minus : char = '-'
      · rw [minus]
        exact List.not_mem_cons_of_ne_of_not_mem (by decide) List.not_mem_nil
      · rw [splitMark_other plus minus]
        exact List.not_mem_nil
  · by_cases plus : char = '+'
    · rw [plus]
      rfl
    · by_cases minus : char = '-'
      · rw [minus]
        rfl
      · rw [splitMark_other plus minus, splitMark_other plus minus, joinLineEnds_cons plain]

theorem splitPower_cons (mark : Char) (rest : List Char) :
    splitPower (mark :: rest) =
      if (splitMark rest).2.takeWhile isPlainDigit = [] ∨ ¬ (mark = 'e' ∨ mark = 'E') then
        ([], mark :: rest)
      else
        (mark :: ((splitMark rest).1 ++ (splitMark rest).2.takeWhile isPlainDigit),
          (splitMark rest).2.dropWhile isPlainDigit) := by
  rw [splitPower]
  dsimp only
  cases (splitMark rest).2.takeWhile isPlainDigit with
  | nil => rfl
  | cons digit digits =>
    dsimp only
    by_cases power : mark = 'e' ∨ mark = 'E'
    · rw [if_pos power, if_neg]
      simp [power]
    · rw [if_neg power, if_pos (.inr power)]

theorem steady_splitPower : Steady splitPower := by
  have lineEnd {mark : Char} (ends : mark = '\n' ∨ mark = '\r') (rest : List Char) :
      splitPower (mark :: rest) = ([], mark :: rest) := by
    rw [splitPower_cons]
    refine if_pos (.inr ?_)
    rintro (rfl | rfl) <;> revert ends <;> decide
  refine steady_of rfl (lineEnd (.inl rfl)) (lineEnd (.inr rfl)) (fun mark rest => ?_)
    (fun mark rest plain => ?_) (fun mark rest plain => ?_)
  · rw [splitPower_cons]
    split
    · rfl
    · show mark :: ((splitMark rest).1 ++ _ ++ _) = _
      rw [List.append_assoc, steady_digits.whole (splitMark rest).2, steady_splitMark.whole]
  · rw [splitPower_cons]
    split
    · exact List.not_mem_nil
    · refine List.not_mem_cons_of_ne_of_not_mem (Ne.symm plain) fun member => ?_
      obtain sign | digit := List.mem_append.1 member
      · exact steady_splitMark.plain rest sign
      · exact steady_digits.plain _ digit
  · obtain ⟨taken, dropped⟩ := Prod.mk.inj (steady_digits.joined (splitMark rest).2)
    rw [splitPower_cons, splitPower_cons, steady_splitMark.joined rest]
    dsimp only
    rw [taken, dropped]
    split
    · rw [joinLineEnds_cons plain]
    · rfl

/-- The same number is found when line ends are joined. -/
theorem scanNumber_joinLineEnds (negative : Bool) (text : List Char) :
    scanNumber negative (joinLineEnds text) = scanNumber negative text := by
  rw [scanNumber, scanNumber]
  dsimp only
  rw [steady_splitWhole.joined, steady_splitPoint.joined, steady_splitPower.joined]

/-- A number takes up some part of a text, in which there are no carriage returns. -/
theorem scanNumber_plain {negative : Bool} {text : List Char} {token : Token} {length : Nat}
    (found : scanNumber negative text = some (token, length)) :
    0 < length ∧ '\r' ∉ text.take length := by
  rw [scanNumber] at found
  dsimp only at found
  split at found
  · cases found
  · next present =>
    obtain ⟨-, rfl⟩ := Prod.mk.inj (Option.some.inj found)
    have whole := steady_splitWhole.whole text
    have fraction := steady_splitPoint.whole (splitWhole text).2
    have power := steady_splitPower.whole (splitPoint (splitWhole text).2).2
    have plainWhole := steady_splitWhole.plain text
    have plainFraction := steady_splitPoint.plain (splitWhole text).2
    have plainPower := steady_splitPower.plain (splitPoint (splitWhole text).2).2
    generalize splitPower (splitPoint (splitWhole text).2).2 = third at power plainPower ⊢
    generalize splitPoint (splitWhole text).2 = second at fraction power plainFraction ⊢
    generalize splitWhole text = first at present whole fraction plainWhole ⊢
    constructor
    · exact Nat.add_pos_left (Nat.add_pos_left (List.length_pos_iff.2 present) _) _
    · have cut : text = first.1 ++ second.1 ++ third.1 ++ third.2 := by
        rw [List.append_assoc, power, List.append_assoc, fraction, whole]
      have length : first.1.length + second.1.length + third.1.length =
          (first.1 ++ second.1 ++ third.1).length := by
        rw [List.length_append, List.length_append]
      rw [length, cut, List.take_left, List.mem_append, List.mem_append]
      rintro ((member | member) | member)
      · exact plainWhole member
      · exact plainFraction member
      · exact plainPower member

/-! ### Tokens -/

theorem words_plain {word : List Char × Json} (member : word ∈ words) :
    '\n' ∉ word.1 ∧ '\r' ∉ word.1 := by
  simp only [words, List.mem_cons, List.not_mem_nil, or_false] at member
  obtain rfl | rfl | rfl | rfl | rfl | rfl := member <;> decide

theorem find?_words_joinLineEnds (text : List Char) :
    (words.find? fun word => word.1.isPrefixOf (joinLineEnds text)) =
      words.find? fun word => word.1.isPrefixOf text := by
  rw [← List.head?_filter, ← List.head?_filter]
  refine congrArg List.head? (List.filter_congr fun word member => ?_)
  exact isPrefixOf_joinLineEnds (words_plain member).1 (words_plain member).2 text

/-- The same token is found when line ends are joined behind its first character. -/
theorem plainToken_joinLineEnds {char : Char} (plain : char ≠ '\r') (rest : List Char) :
    plainToken char (joinLineEnds rest) = plainToken char rest := by
  rw [plainToken, plainToken, ← joinLineEnds_cons plain, find?_words_joinLineEnds,
    scanNumber_joinLineEnds, scanNumber_joinLineEnds]

theorem not_mem_take_of_cons {char ends : Char} {rest : List Char} {count : Nat}
    (absent : ends ∉ (char :: rest).take count) : ends ∉ rest.take (count - 1) := by
  cases count with
  | zero => exact List.not_mem_nil
  | succ count => exact fun member => absent (List.mem_cons_of_mem _ member)

/-- A token that is not a string takes up a part of the text in which there are no carriage
returns. -/
theorem plainToken_plain (char : Char) (rest : List Char) :
    '\r' ∉ rest.take (plainToken char rest).2 := by
  rw [plainToken]
  split
  · next word document found =>
    have begins : word.isPrefixOf (char :: rest) = true := by simpa using List.find?_some found
    obtain ⟨tail, cut⟩ := List.isPrefixOf_iff_prefix.1 begins
    have plain : '\r' ∉ word := (words_plain (List.mem_of_find?_eq_some found)).2
    have short : '\r' ∉ (char :: rest).take word.length := by
      rw [← cut, List.take_left]
      exact plain
    exact not_mem_take_of_cons short
  · next missing =>
    dsimp only
    by_cases minus : char = '-'
    · rw [if_pos minus]
      cases found : scanNumber true rest with
      | none => exact List.not_mem_nil
      | some number => exact (scanNumber_plain found).2
    · rw [if_neg minus]
      cases found : scanNumber false (char :: rest) with
      | none => exact List.not_mem_nil
      | some number =>
        exact not_mem_take_of_cons (scanNumber_plain found).2

/-! ### Strings -/

/-- The symbols of a string and the text behind it, if it has an end. -/
def content (scanned : Except Fault (List Symbol × Nat × List Char)) :
    Option (List Symbol × List Char) :=
  match scanned with
  | .ok (symbols, _, tail) => some (symbols, tail)
  | .error _ => none

theorem content_bind (scanned : Except Fault (List Symbol × Nat × List Char)) (symbol : Symbol) :
    content (do
      let (symbols, next, tail) ← scanned
      return (symbol :: symbols, next, tail)) =
      (content scanned).map fun found => (symbol :: found.1, found.2) := by
  cases scanned with
  | error fault => rfl
  | ok found => rfl

theorem content_plain {start index : Nat} {char : Char} (quote : char ≠ '"') (escape : char ≠ '\\')
    (rest : List Char) :
    content (scanString start index (char :: rest)) =
      if char.toNat < 0x20 then none
      else (content (scanString start (index + 1) rest)).map fun found =>
        (.char char :: found.1, found.2) := by
  rw [scanString]
  · split
    · rfl
    · exact content_bind _ _
  · exact quote
  · rintro rfl
    exact absurd rfl escape
  · rintro a b c d e rest rfl
    exact absurd rfl escape
  · rintro rest rfl
    exact absurd rfl escape
  · rintro letter rest rfl
    exact absurd rfl escape

theorem content_escape {start index : Nat} {letter : Char} (unicode : letter ≠ 'u')
    (rest : List Char) :
    content (scanString start index ('\\' :: letter :: rest)) =
      (escaped? letter).bind fun char =>
        (content (scanString start (index + 2) rest)).map fun found =>
          (.char char :: found.1, found.2) := by
  rw [scanString]
  · cases escaped? letter with
    | none => rfl
    | some char => exact content_bind _ _
  · rintro a b c d e rest rfl
    exact absurd rfl unicode
  · rintro rfl
    exact absurd rfl unicode

theorem content_unicode (start index : Nat) (a b c d e : Char) (rest : List Char) :
    content (scanString start index ('\\' :: 'u' :: a :: b :: c :: d :: e :: rest)) =
      (unit? a b c d).bind fun code =>
        (content (scanString start (index + 6) (e :: rest))).map fun found =>
          (Symbol.ofCode code :: found.1, found.2) := by
  rw [scanString]
  cases unit? a b c d with
  | none => rfl
  | some code => exact content_bind _ _

/-- What follows the letter of such an escape is refused unless it begins with four hexadecimal
digits and goes on. -/
theorem content_unicode_other {start index : Nat} {rest : List Char}
    (other : ∀ a b c d e tail, rest = a :: b :: c :: d :: e :: tail → unit? a b c d = none) :
    content (scanString start index ('\\' :: 'u' :: rest)) = none := by
  match rest, other with
  | a :: b :: c :: d :: e :: tail, other =>
    rw [content_unicode, other a b c d e tail rfl]
    rfl
  | [], _ => rfl
  | [_], _ => rfl
  | [_, _], _ => rfl
  | [_, _, _], _ => rfl
  | [_, _, _, _], _ => rfl

theorem hexValue?_plain {char : Char} {value : Nat} (found : hexValue? char = some value) :
    char ≠ '\n' ∧ char ≠ '\r' := by
  constructor
  · rintro rfl
    cases found
  · rintro rfl
    cases found

theorem unit?_plain {a b c d : Char} {code : Nat} (found : unit? a b c d = some code) :
    (a ≠ '\n' ∧ a ≠ '\r') ∧ (b ≠ '\n' ∧ b ≠ '\r') ∧ (c ≠ '\n' ∧ c ≠ '\r') ∧
      d ≠ '\n' ∧ d ≠ '\r' := by
  rw [unit?] at found
  obtain ⟨_, first, found⟩ := Option.bind_eq_some_iff.1 found
  obtain ⟨_, second, found⟩ := Option.bind_eq_some_iff.1 found
  obtain ⟨_, third, found⟩ := Option.bind_eq_some_iff.1 found
  obtain ⟨_, fourth, found⟩ := Option.bind_eq_some_iff.1 found
  exact ⟨hexValue?_plain first, hexValue?_plain second, hexValue?_plain third,
    hexValue?_plain fourth⟩

/-- Joining line ends makes no escape good. -/
theorem unit?_joinLineEnds {rest : List Char}
    (other : ∀ a b c d e tail, rest = a :: b :: c :: d :: e :: tail → unit? a b c d = none)
    (a b c d e : Char) (tail : List Char)
    (same : joinLineEnds rest = a :: b :: c :: d :: e :: tail) : unit? a b c d = none := by
  cases found : unit? a b c d with
  | none => rfl
  | some code =>
    obtain ⟨plainA, plainB, plainC, plainD⟩ := unit?_plain found
    obtain ⟨_, rfl, behindA⟩ := joinLineEnds_eq_cons plainA.1 same
    obtain ⟨_, rfl, behindB⟩ := joinLineEnds_eq_cons plainB.1 behindA
    obtain ⟨_, rfl, behindC⟩ := joinLineEnds_eq_cons plainC.1 behindB
    obtain ⟨rest, rfl, behindD⟩ := joinLineEnds_eq_cons plainD.1 behindC
    cases rest with
    | nil => cases behindD
    | cons first rest => exact found.symm.trans (other a b c d first rest rfl)

/-- A string has the same symbols when line ends are joined, or has no end in either text. -/
theorem content_joinLineEnds (start start' index index' : Nat) (text : List Char) :
    content (scanString start' index' (joinLineEnds text)) =
      (content (scanString start index text)).map fun found =>
        (found.1, joinLineEnds found.2) := by
  fun_induction scanString start index text generalizing index' with
  | case1 index => rfl
  | case2 index rest =>
    rw [joinLineEnds_cons (by decide)]
    rfl
  | case3 index => rfl
  | case4 index a b c d e rest code unit ih =>
    obtain ⟨plainA, plainB, plainC, plainD⟩ := unit?_plain unit
    have behind := ih (index' + 6)
    rw [joinLineEnds_cons (by decide), joinLineEnds_cons (by decide), joinLineEnds_cons plainA.2,
      joinLineEnds_cons plainB.2, joinLineEnds_cons plainC.2, joinLineEnds_cons plainD.2,
      content_bind]
    obtain ⟨first, tail, joined⟩ := joinLineEnds_cons_ne_nil e rest
    rw [joined] at behind ⊢
    rw [content_unicode, unit, behind, Option.bind_some, Option.map_map, Option.map_map]
    rfl
  | case5 index a b c d e rest unit =>
    rw [joinLineEnds_cons (by decide), joinLineEnds_cons (by decide)]
    refine content_unicode_other (unit?_joinLineEnds ?_)
    rintro a b c d e tail ⟨⟩
    exact unit
  | case6 index rest short =>
    rw [joinLineEnds_cons (by decide), joinLineEnds_cons (by decide)]
    exact content_unicode_other (unit?_joinLineEnds fun a b c d e tail same =>
      (short a b c d e tail same).elim)
  | case7 index letter rest _ unicode char stands ih =>
    have plain : letter ≠ '\r' := by
      rintro rfl
      cases stands
    rw [joinLineEnds_cons (by decide), joinLineEnds_cons plain, content_escape unicode, stands,
      ih (index' + 2), content_bind, Option.bind_some, Option.map_map, Option.map_map]
    rfl
  | case8 index letter rest _ unicode nothing =>
    rw [joinLineEnds_cons (by decide)]
    by_cases ends : letter = '\r'
    · subst ends
      obtain ⟨tail, -, joined⟩ := joinLineEnds_return rest
      rw [joined, content_escape (by decide)]
      rfl
    · rw [joinLineEnds_cons ends, content_escape unicode, nothing]
      rfl
  | case9 index char rest quote alone _ _ escape control =>
    by_cases ends : char = '\r'
    · subst ends
      obtain ⟨tail, -, joined⟩ := joinLineEnds_return rest
      rw [joined, content_plain (by decide) (by decide)]
      rfl
    · have other : char ≠ '\\' := by
        rintro rfl
        exact absurd control (by decide)
      rw [joinLineEnds_cons ends, content_plain quote other, if_pos control]
      rfl
  | case10 index char rest quote alone _ _ escape plain ih =>
    have ends : char ≠ '\r' := by
      rintro rfl
      exact plain (by decide)
    have other : char ≠ '\\' := by
      rintro rfl
      cases rest with
      | nil => exact alone rfl rfl
      | cons letter rest => exact escape letter rest rfl rfl
    rw [joinLineEnds_cons ends, content_plain quote other, if_neg plain, ih (index' + 1),
      content_bind, Option.map_map, Option.map_map]
    rfl

/-! ### Rows of tokens -/

/-- A fault without its place. -/
def Fault.blurred : Fault → Fault
  | misplaced _ _ => misplaced .value 0
  | tooLong digits => tooLong digits

theorem Fault.blurred_blurred (fault : Fault) : fault.blurred.blurred = fault.blurred := by
  cases fault <;> rfl

/-- A token without the place of what is wrong with it. -/
def Token.blurred : Token → Token
  | openString fault => openString fault.blurred
  | token => token

/-- A token without any place. -/
def Located.blurred (located : Located) : Located := ⟨0, located.token.blurred⟩

theorem tokens_gap {index : Nat} {char : Char} (gap : isGap char = true) (rest : List Char) :
    tokens index (char :: rest) = tokens (index + 1) rest := by
  rw [tokens, if_pos gap]

theorem tokens_string {index : Nat} {rest tail : List Char} {symbols : List Symbol}
    (found : content (scanString index (index + 1) rest) = some (symbols, tail)) :
    ∃ next, tokens index ('"' :: rest) =
      ⟨index, .key ⟨joinHalves symbols⟩⟩ :: tokens next tail := by
  cases scanned : scanString index (index + 1) rest with
  | error fault =>
    rw [scanned] at found
    cases found
  | ok string =>
    obtain ⟨_, next, _⟩ := string
    rw [scanned] at found
    cases found
    refine ⟨next, ?_⟩
    rw [tokens, if_neg (by decide), if_pos rfl]
    split
    · next same =>
      cases same.symm.trans scanned
      rfl
    · next same => cases same.symm.trans scanned

theorem tokens_openString {index : Nat} {rest : List Char}
    (found : content (scanString index (index + 1) rest) = none) :
    ∃ cause place,
      tokens index ('"' :: rest) = [⟨index, .openString (.misplaced cause place)⟩] := by
  have spec := scanString_spec index (index + 1) rest
  cases scanned : scanString index (index + 1) rest with
  | ok string =>
    rw [scanned] at found
    cases found
  | error fault =>
    rw [scanned] at spec
    obtain ⟨cause, place, rfl⟩ := spec
    refine ⟨cause, place, ?_⟩
    rw [tokens, if_neg (by decide), if_pos rfl]
    split
    · next same => cases same.symm.trans scanned
    · next same =>
      cases same.symm.trans scanned
      rfl

/-- A text falls into the same tokens when line ends are joined. -/
theorem tokens_joinLineEnds (index index' : Nat) (text : List Char) :
    (tokens index' (joinLineEnds text)).map Located.blurred =
      (tokens index text).map Located.blurred := by
  fun_induction tokens index text generalizing index' with
  | case1 index =>
    rw [joinLineEnds, tokens]
    rfl
  | case2 index char rest gap ih =>
    by_cases ends : char = '\r'
    · subst ends
      obtain ⟨tail, either, joined⟩ := joinLineEnds_return rest
      rw [joined, tokens_gap rfl]
      obtain rfl | rfl := either
      · exact ih (index' + 1)
      · -- The line feed that is left out is a gap of its own.
        have behind := ih index'
        rwa [joinLineEnds_cons (by decide), tokens_gap rfl] at behind
    · rw [joinLineEnds_cons ends, tokens_gap gap]
      exact ih (index' + 1)
  | case3 index rest symbols next tail found gap ih =>
    have string := content_joinLineEnds index index' (index + 1) (index' + 1) rest
    rw [found] at string
    obtain ⟨next', same⟩ := tokens_string string
    rw [joinLineEnds_cons (by decide), same, List.map_cons, List.map_cons, ih next']
    rfl
  | case4 index rest fault found gap =>
    have string := content_joinLineEnds index index' (index + 1) (index' + 1) rest
    have spec := scanString_spec index (index + 1) rest
    rw [found] at string spec
    obtain ⟨cause, place, rfl⟩ := spec
    obtain ⟨cause', place', same⟩ := tokens_openString string
    rw [joinLineEnds_cons (by decide), same]
    rfl
  | case5 index char rest gap quote token more found ih =>
    have plain : char ≠ '\r' := by
      rintro rfl
      exact gap rfl
    have clear := plainToken_plain char rest
    have same := plainToken_joinLineEnds plain rest
    rw [found] at clear same
    rw [joinLineEnds_cons plain, tokens_plain (eq_false_of_ne_true gap) quote, same,
      drop_joinLineEnds clear, List.map_cons, List.map_cons, ih]
    rfl

/-! ### The reader -/

theorem mapError_bind {First Second Failure Failure' : Type} (change : Failure → Failure')
    (first : Except Failure First) (next : First → Except Failure Second) :
    (first >>= next).mapError change =
      first.mapError change >>= fun answer => (next answer).mapError change := by
  cases first <;> rfl

namespace Reading

theorem takeValue_blurred (frames : List Frame) (index : Nat) (token : Token) :
    (takeValue frames 0 token.blurred).mapError Fault.blurred =
      (takeValue frames index token).mapError Fault.blurred := by
  cases token with
  | openString fault => exact congrArg Except.error fault.blurred_blurred
  | _ => rfl

theorem takeKey_blurred (frames : List Frame) (index : Nat) (token : Token) :
    (takeKey frames 0 token.blurred).mapError Fault.blurred =
      (takeKey frames index token).mapError Fault.blurred := by
  cases token with
  | openString fault => exact congrArg Except.error fault.blurred_blurred
  | key text =>
    match frames with
    | [] | .array _ :: _ | .member _ _ :: _ | .object _ :: _ => rfl
  | _ => rfl

/-- What a reader does with a token does not depend on places, but for those in its faults. -/
theorem take_blurred (reading : Reading) (located : Located) :
    (reading.take located.blurred).mapError Fault.blurred =
      (reading.take located).mapError Fault.blurred := by
  obtain ⟨frames, waiting⟩ := reading
  obtain ⟨index, token⟩ := located
  cases waiting with
  | value => exact takeValue_blurred frames index token
  | firstItem =>
    cases token with
    | endArray =>
      match frames with
      | [] | .array _ :: _ | .member _ _ :: _ | .object _ :: _ => rfl
    | openString fault => exact congrArg Except.error fault.blurred_blurred
    | _ => rfl
  | firstKey =>
    cases token with
    | endObject | key text =>
      match frames with
      | [] | .array _ :: _ | .member _ _ :: _ | .object _ :: _ => rfl
    | openString fault => exact congrArg Except.error fault.blurred_blurred
    | _ => rfl
  | nextKey => exact takeKey_blurred frames index token
  | colon =>
    cases token with
    | _ => rfl
  | comma =>
    cases token with
    | comma | endArray | endObject =>
      match frames with
      | [] | .array _ :: _ | .member _ _ :: _ | .object _ :: _ => rfl
    | _ => rfl
  | ending document =>
    cases token with
    | _ => rfl

theorem foldlM_take_blurred (located : List Located) (reading : Reading) :
    ((located.map Located.blurred).foldlM take reading).mapError Fault.blurred =
      (located.foldlM take reading).mapError Fault.blurred := by
  induction located generalizing reading with
  | nil => rfl
  | cons first rest ih =>
    rw [List.map_cons, List.foldlM_cons, List.foldlM_cons, mapError_bind, mapError_bind,
      take_blurred, funext ih]

end Reading

theorem ofTokens_blurred (located : List Located) :
    (ofTokens (located.map Located.blurred)).mapError Fault.blurred =
      (ofTokens located).mapError Fault.blurred := by
  rw [ofTokens, ofTokens, mapError_bind, mapError_bind, Reading.foldlM_take_blurred]

theorem read_unmarked {text : List Char} (unmarked : ∀ rest, text ≠ '\uFEFF' :: rest) :
    read text = ofTokens (tokens 0 text) := by
  rw [read]
  exact unmarked

/-- A text is the same document when line ends are joined, or it is none in either form, and then
an integer was too long in both or in neither. -/
theorem read_joinLineEnds (text : List Char) :
    (read (joinLineEnds text)).mapError Fault.blurred = (read text).mapError Fault.blurred := by
  by_cases marked : ∃ rest, text = '\uFEFF' :: rest
  · obtain ⟨rest, rfl⟩ := marked
    rw [joinLineEnds_cons (by decide)]
    rfl
  · have unmarked (rest : List Char) : text ≠ '\uFEFF' :: rest := fun same => marked ⟨rest, same⟩
    have unmarkedStill (rest : List Char) : joinLineEnds text ≠ '\uFEFF' :: rest := by
      intro same
      obtain ⟨tail, rfl, -⟩ := joinLineEnds_eq_cons (by decide) same
      exact unmarked tail rfl
    rw [read_unmarked unmarked, read_unmarked unmarkedStill, ← ofTokens_blurred,
      tokens_joinLineEnds 0 0 text, ofTokens_blurred]

end Parley.Json
