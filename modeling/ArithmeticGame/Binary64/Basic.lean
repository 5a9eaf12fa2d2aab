/-!
# Binary floating point values

What the 64 bits of a `Float` stand for, in exact arithmetic: a sign and a natural number times a
power of two, an infinity, or no number at all.
-/
namespace ArithmeticGame.Binary64

/-- What a floating point value stands for. -/
inductive Parts where
  | nan
  | infinite (negative : Bool)
  /-- The number `mantissa * 2 ^ exponent`, negated if `negative`. -/
  | finite (negative : Bool) (mantissa : Nat) (exponent : Int)
deriving DecidableEq

/-- The bit in front of a fraction, which stands for `2 ^ 52` and is not stored. -/
def leadingBit : Nat := 1 <<< 52

/-- The value of a bit pattern: one sign bit, eleven of exponent, fifty-two of fraction. -/
def Parts.ofBits (bits : UInt64) : Parts :=
  let negative : Bool := bits.toNat >>> 63 == 1
  let exponent : Nat := (bits.toNat >>> 52) % 2048
  let fraction : Nat := bits.toNat % leadingBit
  if exponent = 2047 then
    if fraction = 0 then .infinite negative else .nan
  else if exponent = 0 then .finite negative fraction (-1074)
  else .finite negative (leadingBit + fraction) (exponent - 1075)

def parts (x : Float) : Parts := Parts.ofBits x.toBits

def Parts.toInt? : Parts → Option Int
  | .finite negative mantissa exponent =>
    let sign (n : Nat) : Int := if negative then -n else n
    if 0 ≤ exponent then some (sign (mantissa <<< exponent.toNat))
    else if mantissa % (1 <<< (-exponent).toNat) = 0 then
      some (sign (mantissa >>> (-exponent).toNat))
    else none
  | _ => none

/-- The integer that a floating point value equals, if there is one. -/
def toInt? (x : Float) : Option Int := (parts x).toInt?

/-- The floating point value nearest to a signed word. -/
def ofInt64 (n : Int64) : Float :=
  if n < 0 then -(UInt64.ofNat n.toInt.natAbs).toFloat else (UInt64.ofNat n.toInt.natAbs).toFloat

end ArithmeticGame.Binary64
