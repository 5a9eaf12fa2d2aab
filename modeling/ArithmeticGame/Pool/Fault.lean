import ArithmeticGame.Binary64.Shortest
import ArithmeticGame.Expr.Fault
/-!
# Faults against the pool

Why an expression may not use its numbers, or none can be removed, and how the player is told.
-/
namespace ArithmeticGame

inductive PoolFault where
  | unreadable (fault : ExprFault)
  | noNumbers
  | fractional (value : Float)
  | outside (value : Float) (size : Nat)
  | repeated (value : Nat)
  | taken (value : Nat)
  | exhausted
deriving DecidableEq

def PoolFault.message : PoolFault → String
  | unreadable fault => fault.message
  | noNumbers => "use at least one number from the pool"
  | fractional value => Binary64.shortest value ++ " is not a whole number"
  | outside value size =>
    Binary64.shortest value ++ " is not in the pool range 1..=" ++ toString size
  | repeated value =>
    toString value ++ " appears more than once; each number can be used only once"
  | taken value => toString value ++ " has already been used or removed"
  | exhausted => "no numbers left to remove"

end ArithmeticGame
