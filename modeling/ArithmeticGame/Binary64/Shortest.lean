import ArithmeticGame.Binary64.Basic
/-!
# Shortest decimal text

The decimal with the fewest digits that still reads back as the same floating point value, written
out in full without an exponent.
-/
namespace ArithmeticGame.Binary64

/-- The numbers that read back as one value, all over one denominator. -/
structure Interval where
  low : Nat
  value : Nat
  high : Nat
  denominator : Nat
  /-- Whether the two ends read back as the value too. -/
  closed : Bool

/-- The interval around `mantissa * 2 ^ exponent`, scaled by `10 ^ 324`. -/
def Interval.around (mantissa : Nat) (exponent : Int) : Interval :=
  let unit := Nat.pow 10 324 <<< (exponent + 1074).toNat
  let below := if mantissa = leadingBit && exponent != -1074 then 1 else 2
  { low := (4 * mantissa - below) * unit
    value := 4 * mantissa * unit
    high := (4 * mantissa + 2) * unit
    denominator := 1 <<< 1076
    closed := mantissa % 2 == 0 }

/-- Whether `count` steps of a grid lie in the interval. -/
def Interval.holds (i : Interval) (step count : Nat) : Bool :=
  let point := count * step * i.denominator
  if i.closed then i.low ≤ point && point ≤ i.high else i.low < point && point < i.high

/-- The grid point of the interval nearest to its value, the upper one of two. -/
def Interval.nearest? (i : Interval) (step : Nat) : Option Nat :=
  let size := step * i.denominator
  let count := i.value / size
  match i.holds step count, i.holds step (count + 1) with
  | true, true => some (if 2 * (i.value % size) < size then count else count + 1)
  | true, false => some count
  | false, true => some (count + 1)
  | false, false => none

/-- The point on the coarsest grid `10 ^ n` that has one in the interval, and its `n`. The interval
of any value is wider than a step of the grid of ones. -/
def Interval.coarsest (i : Interval) : Nat → Nat × Nat
  | 0 => ((i.nearest? 1).getD 0, 0)
  | n + 1 => match i.nearest? (Nat.pow 10 (n + 1)) with
    | some count => (count, n + 1)
    | none => coarsest i n

/-- The digits of `count * 10 ^ (n - 324)` without an exponent. -/
def positional (count n : Nat) : List Char :=
  let digits := Nat.toDigits 10 count
  if 324 ≤ n then digits ++ List.replicate (n - 324) '0'
  else
    let places := 324 - n
    let padded := List.replicate (places + 1 - digits.length) '0' ++ digits
    padded.take (padded.length - places) ++ '.' :: padded.drop (padded.length - places)

def shortest (x : Float) : String :=
  match parts x with
  | .nan => "NaN"
  | .infinite negative => if negative then "-inf" else "inf"
  | .finite negative mantissa exponent =>
    let size := if mantissa = 0 then ['0'] else
      let (count, n) := (Interval.around mantissa exponent).coarsest 633
      positional count n
    String.ofList (if negative then '-' :: size else size)

end ArithmeticGame.Binary64
