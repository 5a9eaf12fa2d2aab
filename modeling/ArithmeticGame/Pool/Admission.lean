import ArithmeticGame.Expr.Lexer
import ArithmeticGame.Pool.Basic
/-!
# Which numbers an expression may use

Every number of an expression has to be in the pool, to stand in it only once and to be available
still. Checking changes nothing.
-/
namespace ArithmeticGame.Pool

/-- The pool number that a value is, if it is one and is not among those seen before. -/
def identify (p : Pool) (seen : List Nat) (x : Float) : Except PoolFault Nat :=
  match Binary64.toInt? x with
  | none => .error (.fractional x)
  | some n =>
    if n < 1 ∨ p.size < n then .error (.outside x p.size)
    else if n.toNat ∈ seen then .error (.repeated n.toNat)
    else .ok n.toNat

/-- Checks the values one by one, `seen` being the pool numbers of those before. -/
def identifyAll (p : Pool) : List Nat → List Float → Except PoolFault (List Nat)
  | _, [] => .ok []
  | seen, x :: xs => do
    let value ← p.identify seen x
    let rest ← p.identifyAll (value :: seen) xs
    .ok (value :: rest)

/-- The pool numbers that the values are, in order, if they may all be used. -/
def accept (p : Pool) (xs : List Float) : Except PoolFault (List Nat) := do
  if xs.isEmpty then .error .noNumbers
  else
    let used ← p.identifyAll [] xs
    match used.find? fun value => p.state? value != some .available with
    | some value => .error (.taken value)
    | none => .ok used

def acceptText (p : Pool) (text : List Char) : Except PoolFault (List Nat) :=
  match Token.ofText text with
  | .ok tokens => p.accept ((Token.numbers tokens).map UInt64.toFloat)
  | .error fault => .error (.unreadable fault)

end ArithmeticGame.Pool
