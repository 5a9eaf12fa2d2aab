import ArithmeticGame.Expr.Value
import ArithmeticGame.Pool.Fault
/-!
# Notices

What the player is told after an operation, by its cause.
-/
namespace ArithmeticGame

inductive Notice where
  | noRounds
  | notStarted
  | advanceFirst
  | gameOver
  | noRoundInPlay
  | refused (fault : PoolFault)
  | solved (form : List Char) (target : Int64)
  | missed (form : List Char) (value : Float) (target : Int64) (penalty : UInt32)
  | timeUp
  | removalOutsideRound
  | removed (value : Nat) (bonus : Int32)
  | allCleared
  | ended
deriving DecidableEq

namespace Notice

def signed (n : Int) : String := if n < 0 then toString n else "+" ++ toString n

def text : Notice → String
  | noRounds => "No rounds to play"
  | notStarted => "The game has not started"
  | advanceFirst => "Advance to the next round first"
  | gameOver => "The game is over"
  | noRoundInPlay => "No round in play"
  | refused fault => fault.message
  | solved form target => "Correct! " ++ String.ofList form ++ " = " ++ toString target.toInt
  | missed form value target penalty =>
    String.ofList form ++ " = " ++ Expr.valueText value ++ ", not " ++ toString target.toInt ++
      " (-" ++ toString penalty.toNat ++ "s)"
  | timeUp => "Time's up!"
  | removalOutsideRound => "Numbers can only be removed during a round"
  | removed value bonus =>
    "Removed " ++ toString value ++ " (" ++ signed bonus.toInt ++ "s)"
  | allCleared => "All rounds cleared!"
  | ended => "Game ended"

end Notice
end ArithmeticGame
