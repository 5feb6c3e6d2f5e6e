/-
This file settles what a row of values adds up to. Addition looks at the kinds of its
two operands and at nothing else, so the sum of a row changes its nature once: up to
the first string numbers are added, and from there on texts are joined. There is no
way back, since a sum that has become a string stays one.

What stands before the first string is taken as a text when the string is reached. If
two values or more stand there, it is the text of the number that they have come to.
A single value has not been added to anything yet, and keeps its own text, which need
not be the text of its number.
-/

import Parley.Proofs.Provenance

namespace Parley

variable {Host : Type}

namespace Text

theorem append_empty (text : Text) : text ++ ("" : Text) = text :=
  congrArg mk (List.append_nil text.symbols)

theorem append_assoc (first second third : Text) :
    first ++ second ++ third = first ++ (second ++ third) :=
  congrArg mk (List.append_assoc first.symbols second.symbols third.symbols)

end Text

/-! ### Rows of values -/

namespace Value

/-- The sum of the numbers of values, from left to right. -/
def total (first : Value) (rest : List Value) : Double :=
  rest.foldl (fun sum value => sum.add value.toNumber) first.toNumber

/-- The texts of values, one behind the other. -/
def joined (values : List Value) : Text :=
  values.foldr (fun value rest => value.toText ++ rest) ""

/-- The text of the values in front of the first string. -/
def opening : List Value → Text
  | [] => ""
  | [value] => value.toText
  | first :: second :: rest => (number (total first (second :: rest))).toText

/-- What numbers have come to is taken as their opening. -/
theorem toText_foldl (first : Value) (rest : List Value) :
    (if rest = [] then first else number (total first rest)).toText = opening (first :: rest) := by
  cases rest with
  | nil => rfl
  | cons second rest => rfl

end Value

namespace Operator

theorem sum_of_numbers {left right : Value} (first : left.isString = false)
    (second : right.isString = false) :
    sum left right = .number (left.toNumber.add right.toNumber) := by
  rw [sum, first, second]
  rfl

theorem sum_of_string {left right : Value} (string : left.isString = true ∨ right.isString = true) :
    sum left right = .string (left.toText ++ right.toText) := by
  rw [sum, if_pos (Bool.or_eq_true_iff.2 string)]

/-- As long as there is no string, numbers are added. -/
theorem foldl_sum_of_numbers {first : Value} {rest : List Value} (number : first.isString = false)
    (numbers : ∀ value ∈ rest, value.isString = false) :
    rest.foldl sum first = if rest = [] then first else .number (Value.total first rest) := by
  induction rest generalizing first with
  | nil => rfl
  | cons second rest ih =>
    obtain ⟨next, numbers⟩ := List.forall_mem_cons.1 numbers
    rw [List.foldl_cons, sum_of_numbers number next, ih rfl numbers, if_neg (List.cons_ne_nil _ _)]
    split
    · next last =>
      rw [last]
      rfl
    · rfl

/-- Behind a string texts are joined. -/
theorem foldl_sum_of_string (text : Text) (rest : List Value) :
    rest.foldl sum (.string text) = .string (text ++ Value.joined rest) := by
  induction rest generalizing text with
  | nil => exact congrArg Value.string (Text.append_empty text).symm
  | cons second rest ih =>
    rw [List.foldl_cons, sum_of_string (.inl rfl), ih, Text.append_assoc]
    rfl

/-- The first string turns the numbers before it into the beginning of a text. -/
theorem foldl_sum_at_string {first second string : Value} {rest before after : List Value}
    (parts : first :: second :: rest = before ++ string :: after)
    (numbers : ∀ value ∈ before, value.isString = false) (found : string.isString = true) :
    (second :: rest).foldl sum first =
      .string (Value.opening before ++ Value.joined (string :: after)) := by
  cases before with
  | nil =>
    obtain ⟨rfl, rfl⟩ := List.cons.inj parts
    rw [List.foldl_cons, sum_of_string (.inl found), foldl_sum_of_string, Text.append_assoc]
    rfl
  | cons front before =>
    obtain ⟨rfl, others⟩ := List.cons.inj parts
    have behind : second :: rest = before ++ string :: after := others
    obtain ⟨number, numbers⟩ := List.forall_mem_cons.1 numbers
    rw [behind, List.foldl_append, foldl_sum_of_numbers number numbers, List.foldl_cons,
      sum_of_string (.inr found), foldl_sum_of_string, Text.append_assoc, Value.toText_foldl]
    rfl

end Operator

/-! ### Additions of a library -/

namespace Shelf

/-- Adds up values with what a library adds by, from left to right. -/
def addUp (shelf : Shelf Host) (place : LibraryId) (first : Value) (rest : List Value) :
    Act Host Value :=
  rest.foldlM (fun sum next => shelf.call place Operator.add.name [sum, next]) first

theorem get?_standard_add (home : LibraryId) :
    (Library.standard home : Library Host).get? Operator.add.name =
      some (Library.standardFunction home .add) := by
  rw [Library.get?_standard]
  rfl

/-- The standard addition yields the sum of its operands, and does nothing else. -/
theorem call_add {shelf : Shelf Host} {place home : LibraryId}
    (standard : (shelf.library place).get? Operator.add.name =
      (Library.standard home).get? Operator.add.name) (left right : Value) (world : World Host) :
    shelf.call place Operator.add.name [left, right] world =
      .ok (Operator.sum left right) world := by
  rw [call, callWithin, Library.lookup, standard, get?_standard_add]
  rfl

theorem addUp_apply {shelf : Shelf Host} {place home : LibraryId}
    (standard : (shelf.library place).get? Operator.add.name =
      (Library.standard home).get? Operator.add.name) (first : Value) (rest : List Value)
    (world : World Host) :
    shelf.addUp place first rest world = .ok (rest.foldl Operator.sum first) world := by
  induction rest generalizing first with
  | nil => rfl
  | cons second rest ih =>
    rw [addUp, List.foldlM_cons, bind_apply, call_add standard]
    exact ih (Operator.sum first second)

/-- Two values or more are added up without a failure, by any library that adds as the standard
operators do. If there is no string among them, they come to the number that their numbers add up
to from left to right. Else they come to a string: the texts from the first string on, behind
nothing if it is the first value, behind the text of the first value if it is the second, and behind
the text of the number that the values before it add up to if it is a later one. -/
theorem addUp_numbers_then_texts {shelf : Shelf Host} {place home : LibraryId}
    (standard : (shelf.library place).get? Operator.add.name =
      (Library.standard home).get? Operator.add.name) (first second : Value) (rest : List Value)
    (world : World Host) :
    ∃ sum, shelf.addUp place first (second :: rest) world = .ok sum world ∧
      ((∀ value ∈ first :: second :: rest, value.isString = false) →
        sum = .number (Value.total first (second :: rest))) ∧
      ∀ before string after, first :: second :: rest = before ++ string :: after →
        (∀ value ∈ before, value.isString = false) → string.isString = true →
        sum = .string (Value.opening before ++ Value.joined (string :: after)) := by
  refine ⟨_, addUp_apply standard first (second :: rest) world, fun numbers => ?_,
    fun before string after parts numbers found =>
      Operator.foldl_sum_at_string parts numbers found⟩
  obtain ⟨number, numbers⟩ := List.forall_mem_cons.1 numbers
  rw [Operator.foldl_sum_of_numbers number numbers, if_neg (List.cons_ne_nil _ _)]

/-- Two truths and a null are numbers up to the string behind them. -/
theorem addUp_numbers_then_texts_mixed :
    ((edited [.make true] : Shelf Unit).library 0).get? Operator.add.name =
        (Library.standard 0).get? Operator.add.name ∧
      (edited [.make true]).addUp 0 (.bool true) [.bool true, .null, .string "a", .bool true]
          { store := Roster.empty, host := () } =
        .ok (.string "2atrue") { store := Roster.empty, host := () } := by
  have made : ((edited [.make true] : Shelf Unit).library 0).get? Operator.add.name =
      (Library.standard 0).get? Operator.add.name := rfl
  obtain ⟨sum, added, -, joined⟩ := addUp_numbers_then_texts made (.bool true) (.bool true)
    [.null, .string "a", .bool true] { store := Roster.empty, host := () }
  have text := joined [.bool true, .bool true, .null] (.string "a") [.bool true] rfl
    (by decide) rfl
  have shown : Value.opening [.bool true, .bool true, .null] ++
      Value.joined [.string "a", .bool true] = ("2atrue" : Text) := by
    decide +kernel
  refine ⟨made, ?_⟩
  rw [added, text, shown]

end Shelf

end Parley
