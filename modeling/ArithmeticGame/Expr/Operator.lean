/-!
# Operators

The four binary operators of the game, how tightly they bind and what they compute.
-/
namespace ArithmeticGame

inductive Operator where
  | add
  | sub
  | mul
  | div
deriving DecidableEq

namespace Operator

def ofChar? : Char → Option Operator
  | '+' => some add
  | '-' => some sub
  | '*' => some mul
  | '/' => some div
  | _ => none

def symbol : Operator → Char
  | add => '+'
  | sub => '-'
  | mul => '*'
  | div => '/'

/-- The operator with the greater precedence binds its operands first. -/
def precedence : Operator → Nat
  | add | sub => 1
  | mul | div => 2

def apply : Operator → Float → Float → Float
  | add, a, b => a + b
  | sub, a, b => a - b
  | mul, a, b => a * b
  | div, a, b => a / b

@[simp] theorem ofChar?_symbol (op : Operator) : ofChar? op.symbol = some op := by
  cases op <;> rfl

end Operator
end ArithmeticGame
