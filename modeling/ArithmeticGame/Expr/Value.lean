import ArithmeticGame.Binary64.Fixed
import ArithmeticGame.Expr.Lexer
import ArithmeticGame.Expr.Postfix
/-!
# The value of an expression

Text to value, text to its fully parenthesised form, and a value as the player sees it.
-/
namespace ArithmeticGame.Expr

/-- The value of an expression. The first stage that fails decides the fault. -/
def value (text : List Char) : Except ExprFault Float := do
  let tokens ← Token.ofText text
  if tokens.isEmpty then .error .empty
  else Postfix.value (← Postfix.ofTokens tokens)

def fullForm? (text : List Char) : Except ExprFault (List Char) := do
  Postfix.infixText (← Postfix.ofTokens (← Token.ofText text))

/-- The full form, or the trimmed text where there is none. -/
def fullForm (text : List Char) : List Char :=
  match fullForm? text with
  | .ok form => form
  | .error _ => Text.trim text

/-- Whole numbers below `10 ^ 15` have no decimal places, all other values four. -/
def valueText (x : Float) : String :=
  match Binary64.toInt? x with
  | some n => if n.natAbs < 1000000000000000 then toString n else Binary64.fixed 4 x
  | none => Binary64.fixed 4 x

end ArithmeticGame.Expr
