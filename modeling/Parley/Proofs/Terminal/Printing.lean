/-
This file says what is printed for a player, in the words of the console alone: each text
in the style that it has, replies numbered from one, what is said of a number that no reply
has, and how it has ended. What a terminal shows of all that has come to a player looks
exactly so, whatever the console makes of the texts.

What is on a screen is put together from what is seen of the items of a transcript. How an
item looks depends on the item behind it where a prompt is given up, and nowhere else; so
what is seen of the rest is the same with and without the log and the prompts between.
-/

import Parley.Proofs.Terminal.Player

namespace Parley

/-! ### The screen, item by item -/

namespace Screen

variable (console : Console) (echo : Bool)

/-- What is seen of an item with another one, if any, behind it: a prompt that is given up may lose
its blank. -/
def part : Shown → Option Shown → String
  | .prompt, some .abandoned => if echo then "Choose:" else "Choose: "
  | item, _ => item.render console echo

/-- The items of a transcript, each with what is seen of it. -/
def parts : List Shown → List (Shown × String)
  | [] => []
  | item :: rest => (item, part console echo item rest.head?) :: parts rest

theorem part_of_ne {item : Shown} (other : item ≠ .prompt) (next : Option Shown) :
    part console echo item next = item.render console echo := by
  cases item with
  | prompt => exact absurd rfl other
  | _ => rfl

/-- The screen is made of what is seen of the items. -/
theorem join_parts (items : List Shown) :
    String.join ((parts console echo items).map Prod.snd) = render echo items console := by
  induction items using Screen.render.induct with
  | case1 => rfl
  | case2 rest ih =>
    have behind : part console echo .abandoned rest.head? = Shown.abandoned.render console echo :=
      rfl
    rw [parts, parts, behind, List.map_cons, List.map_cons, String.join_cons, String.join_cons, ih,
      render, String.append_assoc]
    rfl
  | case3 item rest other ih =>
    have seen : part console echo item rest.head? = item.render console echo := by
      cases item with
      | prompt =>
        cases rest with
        | nil => rfl
        | cons next rest =>
          cases next with
          | abandoned => exact (other rest rfl rfl).elim
          | _ => rfl
      | _ => rfl
    rw [parts, List.map_cons, String.join_cons, ih, seen, render]
    exact other

/-- What is seen of a transcript on a console, the log and the prompts aside. -/
def printed (items : List Shown) : String :=
  String.join (((parts console echo items).filter fun seen => seen.1.isContent).map Prod.snd)

/-- Without the log and the prompts, the other items look as they do alone. -/
theorem printed_eq (items : List Shown) :
    printed console echo items =
      String.join ((items.filter Shown.isContent).map (Shown.render console echo)) := by
  rw [printed]
  congr 1
  induction items with
  | nil => rfl
  | cons item rest ih =>
    rw [parts, List.filter_cons, List.filter_cons]
    dsimp only
    split
    · next content =>
      have seen : part console echo item rest.head? = item.render console echo := by
        refine part_of_ne console echo ?_ _
        rintro rfl
        cases content
      rw [List.map_cons, List.map_cons, ih, seen]
    · exact ih

end Screen

/-! ### What is printed for a player -/

namespace Console

variable (console : Console)

/-- What is printed of replies, the first of which has a number. -/
def replies : Nat → List Text → String
  | _, [] => ""
  | number, text :: rest =>
    console.number number ++ console.print .plain text ++ replies (number + 1) rest

theorem replies_eq (number : Nat) (texts : List Text) :
    console.replies number texts =
      String.join ((texts.zipIdx number).map fun (content, index) =>
        console.number index ++ console.print .plain content) := by
  induction texts generalizing number with
  | nil => rfl
  | cons text rest ih => rw [replies, ih, List.zipIdx_cons, List.map_cons, String.join_cons]

end Console

/-- What is printed of a happening. -/
def Happening.printed (console : Console) (commands : Bool) : Happening → String
  | .event (.line text) => console.print .plain text
  | .event (.command text) => if commands then console.print .dim ("<<" ++ text ++ ">>") else ""
  | .event (.options texts) => console.replies 1 texts
  | .outOfRange count =>
    console.print .red ("error: pick a number between 1 and " ++ toString count)

/-- What is printed of an ending: at which node the run was broken off if it was, which failure
there was, or that there was nothing more to read. -/
def PlayEnd.printed (console : Console) : PlayEnd → String
  | .ended .aborted current =>
    console.print .bold ("Dialogue stopped at " ++ Note.nameText current ++ ".")
  | .ended _ _ => ""
  | .fault cause | .refused cause => console.print .red ("error: " ++ cause.message)
  | .inputEnded => "Aborted.\n"

/-- What is printed of all that has come to a player. -/
def Played.printed (console : Console) (commands : Bool) (played : Played) : String :=
  String.join (played.happenings.map (Happening.printed console commands)) ++
    (played.ending.map (PlayEnd.printed console)).getD ""

variable (console : Console) (echo commands : Bool)

theorem Happening.join_shown (happening : Happening) :
    String.join ((happening.shown commands).map (Shown.render console echo)) =
      happening.printed console commands := by
  have alone (item : Shown) :
      String.join ([item].map (Shown.render console echo)) = item.render console echo :=
    String.empty_append
  cases happening with
  | outOfRange count => exact alone (.outOfRange count)
  | event event =>
    cases event with
    | line text => exact alone (.event (.line text))
    | command text =>
      cases commands with
      | true => exact alone (.event (.command text))
      | false => rfl
    | options texts =>
      rw [printed, Console.replies_eq]
      exact alone (.event (.options texts))

theorem PlayEnd.join_shown (ending : PlayEnd) :
    String.join (ending.shown.map (Shown.render console echo)) = ending.printed console := by
  cases ending with
  | ended phase current =>
    cases phase with
    | aborted => exact String.empty_append
    | _ => rfl
  | _ => exact String.empty_append

/-- What a terminal shows of all that has come to a player looks as it is to be printed. -/
theorem Played.join_shown (played : Played) :
    String.join ((played.shown commands).map (Shown.render console echo)) =
      played.printed console commands := by
  obtain ⟨happenings, ending⟩ := played
  have before : String.join ((happenings.flatMap (Happening.shown commands)).map
      (Shown.render console echo)) =
        String.join (happenings.map (Happening.printed console commands)) := by
    induction happenings with
    | nil => rfl
    | cons happening rest ih =>
      rw [List.flatMap_cons, List.map_append, String.join_append, ih, Happening.join_shown,
        List.map_cons, String.join_cons]
  have last : String.join (((ending.map PlayEnd.shown).getD []).map (Shown.render console echo)) =
      (ending.map (PlayEnd.printed console)).getD "" := by
    cases ending with
    | none => rfl
    | some ending => exact PlayEnd.join_shown console echo ending
  rw [shown, printed, List.map_append, String.join_append, before, last]

example : Played.printed .wide true
    { happenings := [.event (.command "knock"), .event (.options ["In", "Out"]), .outOfRange 2]
      ending := some (.ended .aborted (some "Gate")) } =
    "<<knock>>\n  1. In\n  2. Out\nerror: pick a number between 1 and 2\n"
      ++ "Dialogue stopped at Gate.\n" := by cbv

end Parley
