/-!
# Keys

What a keyboard reports: which key, with which others held down, and whether it went down, repeats
or came up.
-/
namespace ArithmeticGame

inductive KeyCode where
  | enter
  | escape
  | tab
  | backTab
  | backspace
  | delete
  | insert
  | left
  | right
  | up
  | down
  | home
  | endOfLine
  | pageUp
  | pageDown
  | function (number : Nat)
  | char (c : Char)
  /-- A key of some other kind, such as one for locks or media. -/
  | other (number : Nat)
deriving DecidableEq

inductive KeyKind where
  | press
  | repeated
  | release
deriving DecidableEq

structure Key where
  code : KeyCode
  control : Bool
  shift : Bool
  alt : Bool
  kind : KeyKind
deriving DecidableEq

namespace Key

def press (code : KeyCode) : Key :=
  { code, control := false, shift := false, alt := false, kind := .press }

/-- The key that quits in every phase. -/
def interrupt : Key := { press (.char 'c') with control := true }

end Key
end ArithmeticGame
