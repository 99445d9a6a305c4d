/-!
# Lines of a text

A line end is a line feed, with the carriage return right before it if there is one; it belongs to
the line that it ends.  `lines` gives the lines without their ends.  A text that ends in a line
end has no empty line after it, and a carriage return without a line feed is part of its line.
-/

namespace Colloquy.Text

/-- A list cut after each occurrence of an element; nothing is lost (`flatten_cutAfter`). -/
def cutAfter {α : Type} [DecidableEq α] (stop : α) : List α → List (List α)
  | [] => []
  | a :: as =>
    if a = stop then [a] :: cutAfter stop as
    else match cutAfter stop as with
      | [] => [[a]]
      | piece :: pieces => (a :: piece) :: pieces

/-- The pieces joined are the list. -/
theorem flatten_cutAfter {α : Type} [DecidableEq α] (stop : α) (as : List α) :
    (cutAfter stop as).flatten = as := by
  induction as with
  | nil => rfl
  | cons a as ih =>
    rw [cutAfter]
    split
    · simp [ih]
    · split
      · next h => simp [h] at ih; simp [← ih]
      · next h => simp [h] at ih; simp [ih]

/-- A piece without its line end, which is made of a line feed and perhaps a carriage return. -/
def withoutLineEnd {α : Type} [DecidableEq α] (feed ret : α) (piece : List α) : List α :=
  match piece.reverse with
  | [] => []
  | [a] => if a = feed then [] else piece
  | a :: b :: rest =>
    if a = feed then if b = ret then rest.reverse else (b :: rest).reverse else piece

/-- The lines of a text, without their line ends. -/
def lines (s : String) : List String :=
  (cutAfter '\n' s.toList).map fun piece => String.ofList (withoutLineEnd '\n' '\r' piece)

/-- Texts joined by line feeds. -/
def joinLines (parts : List String) : String :=
  "\n".intercalate parts

end Colloquy.Text
