import ArithmeticGame.Pool.Admission
import ArithmeticGame.Session.Basic
import ArithmeticGame.Session.Clock
/-!
# Answers

An answer passes a series of checks before it is held against the target. A failed check costs
nothing; a wrong value costs time; a right one uses up its numbers.
-/
namespace ArithmeticGame

/-- An answer that may be held against the target. -/
structure Answer where
  target : Int64
  /-- The pool numbers it uses, in order. -/
  used : List Nat
  value : Float

/-- Whether the value is within a billionth of the target. -/
def Answer.hits (a : Answer) : Bool := (a.value - Binary64.ofInt64 a.target).abs ≤ 1e-9

namespace Session

/-- The answer that a text gives, or the first reason why it gives none. -/
def check (s : Session) (text : List Char) : Except Notice Answer :=
  match s.phase, s.target? with
  | .solved, _ => .error .advanceFirst
  | .setup, _ => .error .notStarted
  | .finished, _ => .error .gameOver
  | .playing, none => .error .noRoundInPlay
  | .playing, some target =>
    if text.all Text.isBlank then .error (.refused (.unreadable .empty))
    else match s.pool.acceptText text with
      | .error fault => .error (.refused fault)
      | .ok used => match Expr.value text with
        | .error fault => .error (.refused (.unreadable fault))
        | .ok value => .ok { target, used, value }

/-- The session after a right answer; the clock stands until the next round. -/
def solve (s : Session) (text : List Char) (a : Answer) : Session × Report :=
  let (pool, changed) := s.pool.use a.used
  { s with pool, correct := s.correct + 1, input := [], phase := .solved }.report .hit
    (some (.solved (Expr.fullForm text) a.target)) changed

/-- The session after a wrong answer, which costs the penalty. -/
def miss (s : Session) (text : List Char) (a : Answer) : Session × Report :=
  { s with seconds := Clock.spend s.seconds s.rules.penalty, input := [] }.finishIfOut.report
    (.miss a.value)
    (some (.missed (Expr.fullForm text) a.value a.target s.rules.penalty)) []

def submit (s : Session) (text : List Char) : Session × Report :=
  match s.check text with
  | .error notice => s.report .refused (some notice) []
  | .ok a => if a.hits then s.solve text a else s.miss text a

end Session
end ArithmeticGame
