import ArithmeticGame.Text.Front
/-!
# Display width

How many columns of a terminal a text takes. A text that is too wide is shown from its end.
-/
namespace ArithmeticGame.Text

/-- The columns of a text that has been measured, and its front. -/
structure Measure where
  columns : Nat
  front : Front
deriving DecidableEq

namespace Measure

def empty : Measure := ⟨0, .empty⟩

/-- The measure of the text with a character put before it. -/
def put (c : Char) (m : Measure) : Measure :=
  let (added, front) := m.front.put c
  ⟨(m.columns + added).toNat, front⟩

def ofText (text : List Char) : Measure := text.foldr put empty

end Measure

def width (text : List Char) : Nat := (Measure.ofText text).columns

/-- Takes characters from the end of a text, given last one first, as long as what is taken fits in
`room` columns. -/
def takeFitting (room : Nat) (taken : List Char) (m : Measure) : List Char → List Char
  | [] => taken
  | c :: before =>
    if (m.put c).columns ≤ room then takeFitting room (c :: taken) (m.put c) before else taken

/-- The text if it fits in `room` columns, otherwise the end of it that does. -/
def fittingEnd (room : Nat) (text : List Char) : List Char :=
  if width text ≤ room then text else takeFitting room [] .empty text.reverse

end ArithmeticGame.Text
