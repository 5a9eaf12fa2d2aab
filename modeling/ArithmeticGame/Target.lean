import ArithmeticGame.Random.Uniform
/-!
# Targets

Where the targets of a game come from: a given list, uniform draws from a range, or a rule that the
caller brings along.
-/
namespace ArithmeticGame

inductive TargetSource where
  | listed (targets : List Int64)
  | range (low high : Int64) (low_le_high : low ≤ high)
  | custom (rule : Nat → Generator → List Int64 × Generator)

namespace TargetSource

/-- The range between two bounds, given in either order. -/
def between (a b : Int64) : TargetSource :=
  if h : a ≤ b then range a b h
  else range b a ((Int64.le_total a b).resolve_left h)

def default : TargetSource := between 10 999

/-- One target from `low` to `high`. The range of all words takes a word as it is. -/
def draw (low high : Int64) (g : Generator) : Int64 × Generator :=
  let span := (high.toInt - low.toInt + 1).toNat
  if span = UInt64.size then
    let (word, g) := g.next64
    (Int64.ofInt word.toNat, g)
  else
    let (offset, g) := g.below .bits64 span
    (Int64.ofInt (low.toInt + offset), g)

def drawMany (low high : Int64) : Nat → Generator → List Int64 × Generator
  | 0, g => ([], g)
  | count + 1, g =>
    let (target, g) := draw low high g
    let (rest, g) := drawMany low high count g
    (target :: rest, g)

/-- The targets for a number of rounds; a given list may be shorter, and a rule may give any. -/
def supply (source : TargetSource) (count : Nat) (g : Generator) : List Int64 × Generator :=
  match source with
  | listed targets => (targets.take count, g)
  | range low high _ => drawMany low high count g
  | custom rule => rule count g

end TargetSource
end ArithmeticGame
