/-
Cutting a text at its separators. A text with n separators has n + 1 pieces,
some of them perhaps empty, and none of the pieces holds a separator.
-/

namespace Parley.Text

variable {Symbol : Type}

/-- The pieces between the symbols that separate, in order. -/
def pieces (separates : Symbol → Bool) : List Symbol → List (List Symbol)
  | [] => [[]]
  | symbol :: rest =>
    if separates symbol then [] :: pieces separates rest
    else
      match pieces separates rest with
      | [] => [[symbol]]
      | first :: others => (symbol :: first) :: others

/-- The text before the first `mark` and, if there is one, the text after it. -/
def partition (mark : Char) (text : List Char) : List Char × Option (List Char) :=
  match text.dropWhile (· ≠ mark) with
  | [] => (text, none)
  | _ :: rest => (text.takeWhile (· ≠ mark), some rest)

end Parley.Text
