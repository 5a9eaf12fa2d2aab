import ArithmeticGame.Proofs.Expr.Order
import ArithmeticGame.Proofs.Expr.Scan
import ArithmeticGame.Proofs.Pool.Rules
import ArithmeticGame.Proofs.Session.Run
/-!
# What an answer changes

An answer that keeps the rules of the pool and has a value is held against the target. The numbers
that it pays with are read from the text, and its value comes from the postfix order, but these are
the same numbers; a right answer uses up every one of them and nothing else, a wrong one costs the
penalty.
-/
namespace ArithmeticGame

namespace Session

variable {s : Session} {text : List Char} {target : Int64} {used : List Nat} {v : Float}

theorem check_eq_ok (hp : s.phase = .playing) (htarget : s.target? = some target)
    (hrules : s.pool.acceptText text = .ok used) (hv : Expr.value text = .ok v) :
    s.check text = .ok ⟨target, used, v⟩ := by
  have hall : text.all Text.isBlank ≠ true := by
    intro hall
    have ht := Token.ofText_of_blank (List.all_eq_true.1 hall)
    simp [Expr.value, ht, bind, Except.bind] at hv
  simp only [check, hp, htarget, if_neg hall, hrules, hv]

end Session
end ArithmeticGame
