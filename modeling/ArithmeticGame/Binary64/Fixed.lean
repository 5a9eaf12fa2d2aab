import ArithmeticGame.Binary64.Basic
/-!
# Text with fixed decimal places

The exact value rounded to a number of decimal places, a tie going to the even neighbour. The sign
stays on a value that rounds to zero.
-/
namespace ArithmeticGame.Binary64

/-- The quotient rounded to the nearest natural number, a tie to the even one. -/
def roundDiv (num den : Nat) : Nat :=
  let below := num / den
  let twice := 2 * (num % den)
  if twice < den || (twice == den && below % 2 == 0) then below else below + 1

/-- The natural number nearest to `mantissa * 2 ^ exponent * 10 ^ places`. -/
def scaled (places mantissa : Nat) (exponent : Int) : Nat :=
  roundDiv ((mantissa * Nat.pow 10 places) <<< exponent.toNat) (1 <<< (-exponent).toNat)

def fixed (places : Nat) (x : Float) : String :=
  match parts x with
  | .nan => "NaN"
  | .infinite negative => if negative then "-inf" else "inf"
  | .finite negative mantissa exponent =>
    let n := scaled places mantissa exponent
    let fraction := Nat.toDigits 10 (n % Nat.pow 10 places)
    let sign := if negative then ['-'] else []
    String.ofList (sign ++ Nat.toDigits 10 (n / Nat.pow 10 places) ++ '.' ::
      (List.replicate (places - fraction.length) '0' ++ fraction))

end ArithmeticGame.Binary64
