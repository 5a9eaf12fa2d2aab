import ArithmeticGame.Session.Basic
import ArithmeticGame.Text.Unseen
/-!
# The text of a session

A session on one line, for logs: where the game stands, without its rules, pool and generator. What
the player is composing stands between double quotes, with escapes for all that would not be seen on
a screen: blanks other than the space, controls, marks that need a character before them, and
characters with no picture.
-/
namespace ArithmeticGame

namespace Text

def escape (c : Char) : List Char :=
  if c = '"' then ['\\', '"']
  else if c = '\\' then ['\\', '\\']
  else if c = '\n' then ['\\', 'n']
  else if c = '\r' then ['\\', 'r']
  else if c = '\t' then ['\\', 't']
  else if c = '\x00' then ['\\', '0']
  else if isSeen c then [c]
  else '\\' :: 'u' :: '\x7b' :: Nat.toDigits 16 c.toNat ++ ['\x7d']

def quoted (text : List Char) : String :=
  String.ofList ('"' :: text.flatMap escape ++ ['"'])

end Text

def Session.logText (s : Session) : String :=
  let targets := ", ".intercalate (s.targets.map fun target => toString target.toInt)
  "GameSession \x7b phase: " ++ s.phase.name ++ ", round_index: " ++ toString s.round ++
    ", targets: [" ++ targets ++ "], seconds_remaining: " ++ toString s.seconds.toNat ++
    ", correct_count: " ++ toString s.correct ++ ", input: " ++ Text.quoted s.input ++ ", .. \x7d"

end ArithmeticGame
