import ArithmeticGame.Expr.Operator
/-!
# Tokens

The words of an expression: numbers below `2 ^ 64`, operators and parentheses.
-/
namespace ArithmeticGame

inductive Token where
  | number (value : UInt64)
  | operator (op : Operator)
  | opening
  | closing
deriving DecidableEq

namespace Token

/-- The text of a token, numbers in decimal without leading zeros. -/
def text : Token → List Char
  | number value => Nat.toDigits 10 value.toNat
  | operator op => [op.symbol]
  | opening => ['(']
  | closing => [')']

def numbers : List Token → List UInt64
  | [] => []
  | number value :: ts => value :: numbers ts
  | _ :: ts => numbers ts

/-- The token that a single character is, numbers apart. -/
def ofChar? (c : Char) : Option Token :=
  if c = '(' then some opening
  else if c = ')' then some closing
  else (Operator.ofChar? c).map operator

end Token
end ArithmeticGame
