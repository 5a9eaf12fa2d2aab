/-!
# Styles of characters

Colours and emphasis of a character on a terminal.
-/
namespace ArithmeticGame

inductive Colour where
  | cyan
  | green
  | red
  | yellow
  | magenta
  | darkGray
deriving DecidableEq

def Colour.name : Colour → String
  | cyan => "Cyan"
  | green => "Green"
  | red => "Red"
  | yellow => "Yellow"
  | magenta => "Magenta"
  | darkGray => "DarkGray"

structure Style where
  colour : Option Colour := none
  bold : Bool := false
  dim : Bool := false
  italic : Bool := false
  slowBlink : Bool := false
  crossedOut : Bool := false
deriving DecidableEq

namespace Style

def plain : Style := {}

def emphasis (s : Style) : List String :=
  [(s.bold, "BOLD"), (s.dim, "DIM"), (s.italic, "ITALIC"), (s.slowBlink, "SLOW_BLINK"),
    (s.crossedOut, "CROSSED_OUT")].filterMap fun (held, name) => if held then some name else none

end Style
end ArithmeticGame
