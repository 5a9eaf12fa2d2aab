import ArithmeticGame.Screen.Style
/-!
# Screens

A screen is a grid of cells. Lines of styled text are centred in their room on a row of it, and cut
where they are too long.
-/
namespace ArithmeticGame

/-- A piece of text in one style. -/
structure Span where
  text : List Char
  style : Style
deriving DecidableEq

structure Cell where
  char : Char
  style : Style
deriving DecidableEq

namespace Cell

def blank : Cell := ⟨' ', .plain⟩

end Cell

namespace Span

def ofString (text : String) (style : Style) : Span := ⟨text.toList, style⟩

/-- Three columns between two pieces of a line. -/
def gap : Span := ofString "   " .plain

def cells (span : Span) : List Cell := span.text.map fun c => ⟨c, span.style⟩

end Span

/-- A line on a row, centred in `room` columns from column `left` on. -/
structure PlacedLine where
  row : Nat
  left : Nat
  room : Nat
  spans : List Span
deriving DecidableEq

namespace PlacedLine

/-- The cells of a line, as far as there is room for them. -/
def cells (line : PlacedLine) : List Cell := (line.spans.flatMap Span.cells).take line.room

def start (line : PlacedLine) : Nat := line.left + line.room / 2 - line.cells.length / 2

/-- The row of a screen with the line on it. -/
def fill (line : PlacedLine) (width : Nat) : List Cell :=
  (List.replicate line.start Cell.blank ++ line.cells ++
    List.replicate (width - line.start - line.cells.length) Cell.blank).take width

/-- Lines one below the other, in the middle of the height. -/
def centred (width height : Nat) (lines : List (List Span)) : List PlacedLine :=
  (lines.zipIdx ((height - lines.length) / 2)).map fun (spans, row) =>
    { row, left := 0, room := width, spans }

end PlacedLine

/-- The rows of cells, from the top. -/
structure Screen where
  rows : List (List Cell)
deriving DecidableEq

/-- A stretch of equally styled cells on one row. -/
structure StyledRun where
  row : Nat
  column : Nat
  length : Nat
  style : Style
deriving DecidableEq

namespace Screen

/-- The screen that shows some lines and is blank elsewhere. -/
def ofLines (width height : Nat) (lines : List PlacedLine) : Screen :=
  ⟨(List.range height).map fun row =>
    match lines.find? fun line => line.row == row with
    | some line => line.fill width
    | none => List.replicate width Cell.blank⟩

/-- The text of a row without the blanks at its end. -/
def rowText (cells : List Cell) : List Char :=
  ((cells.map Cell.char).reverse.dropWhile (· == ' ')).reverse

/-- The runs of a row from a column on, each as long as it can be. -/
def runsFrom (row column : Nat) : List Cell → List StyledRun
  | [] => []
  | cell :: cells =>
    match runsFrom row (column + 1) cells with
    | [] => [⟨row, column, 1, cell.style⟩]
    | run :: runs =>
      if run.style = cell.style then { run with column, length := run.length + 1 } :: runs
      else ⟨row, column, 1, cell.style⟩ :: run :: runs

def styledRuns (screen : Screen) : List StyledRun :=
  (screen.rows.zipIdx.flatMap fun (cells, row) => runsFrom row 0 cells).filter
    fun run => run.style != .plain

end Screen
end ArithmeticGame
