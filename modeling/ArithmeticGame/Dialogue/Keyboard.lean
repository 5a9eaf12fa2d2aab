import ArithmeticGame.Dialogue.Key
/-!
# Keys from a terminal

A terminal sends most keys as one character, and some as a sequence that starts with the escape
character. The escape key is that character with nothing behind it. Keys without a meaning in the
game are passed over.
-/
namespace ArithmeticGame.Keyboard

def escapeChar : Char := '\x1b'

def single? (c : Char) : Option Key :=
  if c = '\n' ∨ c = '\r' then some (.press .enter)
  else if c = '\t' then some (.press .tab)
  else if c = '\x08' ∨ c = '\x7f' then some (.press .backspace)
  else if c = '\x03' then some .interrupt
  else if ' ' ≤ c ∧ c ≤ '~' then some (.press (.char c))
  else none

/-- The key that a sequence stands for, without the escape character. -/
def sequence? (text : List Char) : Option Key :=
  if text = ['[', '3', '~'] then some (.press .delete)
  else if text = ['O', 'Q'] ∨ text = ['[', '1', '2', '~'] then some (.press (.function 2))
  else none

/-- Takes a character, `held` being what has come of a sequence behind its escape character. -/
def push (held : Option (List Char)) (c : Char) : Option (List Char) × List Key :=
  match held with
  | none => if c = escapeChar then (some [], []) else (none, (single? c).toList)
  | some [] =>
    if c = escapeChar then (some [], [.press .escape])
    else if c = '[' ∨ c = 'O' then (some [c], [])
    else (none, .press .escape :: (single? c).toList)
  | some seen =>
    if '@' ≤ c ∧ c ≤ '~' then (none, (sequence? (seen ++ [c])).toList)
    else (some (seen ++ [c]), [])

def pushAll (held : Option (List Char)) : List Char → Option (List Char) × List Key
  | [] => (held, [])
  | c :: cs =>
    let (held, keys) := push held c
    let (held, rest) := pushAll held cs
    (held, keys ++ rest)

/-- The keys that are meant if nothing follows for a while, with what is then held. -/
def flush : Option (List Char) → Option (List Char) × List Key
  | some [] => (none, [.press .escape])
  | held => (held, [])

end ArithmeticGame.Keyboard
