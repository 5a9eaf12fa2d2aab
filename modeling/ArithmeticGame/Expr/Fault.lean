import ArithmeticGame.Expr.Operator
/-!
# Faults of an expression

Why a text is not an expression with a value, and how the player is told.
-/
namespace ArithmeticGame

inductive ExprFault where
  | badCharacter (char : Char) (position : Nat)
  | largeNumber (position : Nat)
  | noLeftOperand (op : Operator)
  | empty
  | unbalanced
  | malformed
  | notFinite
deriving DecidableEq

def ExprFault.message : ExprFault → String
  | badCharacter char position =>
    "invalid character '" ++ char.toString ++ "' at position " ++ toString position
  | largeNumber position =>
    "number starting at position " ++ toString position ++ " is too large"
  | noLeftOperand op =>
    "'" ++ op.symbol.toString ++
      "' must sit between two operands; signed numbers are not supported"
  | empty => "enter an expression first"
  | unbalanced => "mismatched parentheses"
  | malformed => "malformed expression"
  | notFinite => "the expression does not produce a finite number"

end ArithmeticGame
