import ArithmeticGame.Screen.Basic
/-!
# Screens on a terminal

A screen as the text that draws it: the cursor is sent to the start of each row, and every change of
style is announced before the character that has it.
-/
namespace ArithmeticGame

def Colour.code : Colour → Nat
  | red => 31
  | green => 32
  | yellow => 33
  | magenta => 35
  | cyan => 36
  | darkGray => 90

namespace Style

/-- The numbers that select a style, after the one that undoes all others. -/
def codes (s : Style) : List Nat :=
  0 :: (s.colour.map Colour.code).toList ++
    [(s.bold, 1), (s.dim, 2), (s.italic, 3), (s.slowBlink, 5), (s.crossedOut, 9)].filterMap
      fun (held, code) => if held then some code else none

def selection (s : Style) : String := "\x1b[" ++ ";".intercalate (s.codes.map toString) ++ "m"

end Style

namespace Screen

/-- Draws cells from the cursor on, `current` being the style in force, and leaves the plain one. -/
def paintCells (current : Style) : List Cell → String
  | [] => Style.plain.selection
  | cell :: cells =>
    (if cell.style = current then "" else cell.style.selection) ++
      cell.char.toString ++ paintCells cell.style cells

def paint (screen : Screen) : String :=
  String.join ((screen.rows.zipIdx 1).map fun (cells, row) =>
    "\x1b[" ++ toString row ++ ";1H" ++ paintCells .plain cells)

/-- Turns to a second page of the terminal and hides its cursor. -/
def enter : String := "\x1b[?1049h\x1b[?25l"

/-- Undoes `enter`. -/
def leave : String := "\x1b[?25h\x1b[?1049l"

end Screen
end ArithmeticGame
