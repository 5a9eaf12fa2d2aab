import ArithmeticGame.Random.Stream
/-!
# Uniform draws

A word of the stream is stretched over a range by a product of double width. Words whose product
ends above a zone are passed over, so that equally many words lead to each result.
-/
namespace ArithmeticGame

inductive WordSize where
  | bits32
  | bits64
deriving DecidableEq

namespace WordSize

def bits : WordSize → Nat
  | bits32 => 32
  | bits64 => 64

def words : WordSize → Nat
  | bits32 => UInt32.size
  | bits64 => UInt64.size

/-- How many zero bits stand before the first one bit of `n` in a word. -/
def leadingZeros (size : WordSize) (n : Nat) : Nat := size.bits - (n.log2 + 1)

/-- The last product end that is accepted in a draw below `n`. -/
def zone (size : WordSize) (n : Nat) : Nat := (n <<< size.leadingZeros n) - 1

/-- Whether a draw below `n` accepts the word. -/
def accepts (size : WordSize) (n word : Nat) : Bool := word * n % size.words ≤ size.zone n

/-- What an accepted word gives in a draw below `n`. -/
def select (size : WordSize) (n word : Nat) : Nat := word * n / size.words

end WordSize

namespace Generator

def next (size : WordSize) (g : Generator) : Nat × Generator :=
  match size with
  | .bits32 => let (word, g) := g.next32; (word.toNat, g)
  | .bits64 => let (word, g) := g.next64; (word.toNat, g)

/-- Looks at up to `limit` words for one that is accepted; the word after them is taken as it is. -/
def search (size : WordSize) (n : Nat) : Nat → Generator → Nat × Generator
  | 0, g => let (word, g) := g.next size; (size.select n word, g)
  | limit + 1, g =>
    let (word, g) := g.next size
    if size.accepts n word then (size.select n word, g) else search size n limit g

/-- The words after which the block counter, and with it the stream, starts again. -/
def period : Nat := 16 * UInt64.size

/-- A uniform draw below `n`. The search ends only after every word the key can give. -/
def below (size : WordSize) (n : Nat) (g : Generator) : Nat × Generator :=
  g.search size n period

end Generator
end ArithmeticGame
