/-
What the cuts of a text are. The pieces between separators are those of its two parts
wherever a separator is taken out, and a text without separators is its only piece. A
mark divides a text at its first place, if it has one.
-/

import Parley.Proofs.Double.Reading
import Parley.Text.Split

namespace Parley.Text

variable {Symbol : Type}

/-! ### Pieces -/

theorem pieces_separator {separates : Symbol → Bool} {mark : Symbol} (marks : separates mark = true)
    (rest : List Symbol) : pieces separates (mark :: rest) = [] :: pieces separates rest := by
  rw [pieces, if_pos marks]

theorem pieces_cons (separates : Symbol → Bool) {symbol : Symbol} (kept : separates symbol = false)
    {rest first : List Symbol} {others : List (List Symbol)}
    (cut : pieces separates rest = first :: others) :
    pieces separates (symbol :: rest) = (symbol :: first) :: others := by
  rw [pieces, kept, if_neg Bool.false_ne_true, cut]

theorem pieces_ne_nil (separates : Symbol → Bool) (text : List Symbol) :
    pieces separates text ≠ [] := by
  cases text with
  | nil => exact List.cons_ne_nil _ _
  | cons symbol rest =>
    rw [pieces]
    split
    · exact List.cons_ne_nil _ _
    · split <;> exact List.cons_ne_nil _ _

/-- A separator cuts a text in two. -/
theorem pieces_append {separates : Symbol → Bool} {mark : Symbol} (marks : separates mark = true)
    (first second : List Symbol) :
    pieces separates (first ++ mark :: second) =
      pieces separates first ++ pieces separates second := by
  induction first with
  | nil =>
    rw [List.nil_append, pieces_separator marks]
    rfl
  | cons symbol rest ih =>
    obtain ⟨piece, others, cut⟩ := List.exists_cons_of_ne_nil (pieces_ne_nil separates rest)
    rw [cut, List.cons_append] at ih
    cases separated : separates symbol with
    | true =>
      rw [List.cons_append, pieces_separator separated, pieces_separator separated, ih, cut]
      rfl
    | false =>
      rw [List.cons_append, pieces_cons separates separated ih, pieces_cons separates separated cut]
      rfl

theorem pieces_of_absent {separates : Symbol → Bool} {text : List Symbol}
    (absent : ∀ symbol ∈ text, separates symbol = false) : pieces separates text = [text] := by
  induction text with
  | nil => rfl
  | cons symbol rest ih =>
    obtain ⟨here, behind⟩ := List.forall_mem_cons.1 absent
    exact pieces_cons separates here (ih behind)

/-! ### Two parts -/

variable {mark : Char} {text : List Char}

theorem partition_of_absent (absent : mark ∉ text) : partition mark text = (text, none) := by
  have none : text.dropWhile (· ≠ mark) = [] := List.dropWhile_eq_nil_iff.2 fun char member =>
    decide_eq_true fun same => absent (same ▸ member)
  rw [partition, none]

theorem partition_append {name : List Char} (absent : mark ∉ name) (rest : List Char) :
    partition mark (name ++ mark :: rest) = (name, some rest) := by
  have before : ∀ char ∈ name, decide (char ≠ mark) = true := fun char member =>
    decide_eq_true fun same => absent (same ▸ member)
  rw [partition, List.dropWhile_append_of_pos before, List.takeWhile_append_of_pos before,
    List.dropWhile_cons_of_neg (by simp), List.takeWhile_cons_of_neg (by simp), List.append_nil]

/-- A mark stands nowhere in a text, or it divides the text at its first place. -/
theorem partition_cases (mark : Char) (text : List Char) :
    mark ∉ text ∧ partition mark text = (text, none) ∨
      ∃ name rest, mark ∉ name ∧ text = name ++ mark :: rest ∧
        partition mark text = (name, some rest) := by
  by_cases there : mark ∈ text
  · obtain ⟨name, rest, rfl, absent⟩ := List.eq_append_cons_of_mem there
    exact .inr ⟨name, rest, absent, rfl, partition_append absent rest⟩
  · exact .inl ⟨there, partition_of_absent there⟩

/-! ### Blank texts -/

/-- Of a text nothing is left without the blanks at its ends exactly if it is blank. -/
theorem trimChars_eq_nil_iff : trimChars text = [] ↔ Blank text := by
  constructor
  · intro none
    obtain ⟨before, after, first, last, whole⟩ := exists_trimmed text
    rw [none, List.nil_append] at whole
    rw [whole]
    exact List.forall_mem_append.2 ⟨first, last⟩
  · intro blank
    have trimmed := trimChars_surrounded (List.forall_mem_nil _) blank []
    exact trimmed

end Parley.Text
