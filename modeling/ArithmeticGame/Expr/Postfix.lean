import ArithmeticGame.Expr.Fault
import ArithmeticGame.Expr.Token
/-!
# Postfix order

Operators move behind their operands by way of a stack of those still waiting. A postfix sequence
is then run on a stack of operands, whatever the operands are.
-/
namespace ArithmeticGame

/-- What waits on the stack for its right operand or for its closing parenthesis. -/
inductive Waiting where
  | operator (op : Operator)
  | opening
deriving DecidableEq

/-- The postfix order of the tokens read so far: the output, latest first, and what waits, innermost
first. -/
structure Shunting where
  output : List Token
  waiting : List Waiting

namespace Shunting

/-- Sends to the output the operators on top that bind at least as tightly as `op`. -/
def release (op : Operator) : List Token → List Waiting → Shunting
  | output, .operator top :: waiting =>
    if top.precedence < op.precedence then ⟨output, .operator top :: waiting⟩
    else release op (.operator top :: output) waiting
  | output, waiting => ⟨output, waiting⟩

/-- Sends to the output the operators above the innermost parenthesis, and drops that. -/
def close : List Token → List Waiting → Except ExprFault Shunting
  | output, .operator top :: waiting => close (.operator top :: output) waiting
  | output, .opening :: waiting => .ok ⟨output, waiting⟩
  | _, [] => .error .unbalanced

def push (s : Shunting) : Token → Except ExprFault Shunting
  | .number value => .ok { s with output := .number value :: s.output }
  | .operator op =>
    let released := release op s.output s.waiting
    .ok { released with waiting := .operator op :: released.waiting }
  | .opening => .ok { s with waiting := .opening :: s.waiting }
  | .closing => close s.output s.waiting

/-- Sends to the output all that still waits, unless a parenthesis was left open. -/
def finish : List Token → List Waiting → Except ExprFault (List Token)
  | output, [] => .ok output.reverse
  | output, .operator top :: waiting => finish (.operator top :: output) waiting
  | _, .opening :: _ => .error .unbalanced

end Shunting

namespace Postfix

/-- The tokens in postfix order, without parentheses. -/
def ofTokens (tokens : List Token) : Except ExprFault (List Token) := do
  let s ← tokens.foldlM Shunting.push ⟨[], []⟩
  Shunting.finish s.output s.waiting

/-- Runs a postfix sequence on a stack of operands, topmost first; exactly one has to remain. -/
def run {α : Type} (number : UInt64 → α) (combine : Operator → α → α → Except ExprFault α) :
    List α → List Token → Except ExprFault α
  | [x], [] => .ok x
  | _, [] => .error .malformed
  | stack, .number value :: ts => run number combine (number value :: stack) ts
  | b :: a :: stack, .operator op :: ts => do run number combine ((← combine op a b) :: stack) ts
  | _, _ :: _ => .error .malformed

def text : List Token → List Char
  | [] => []
  | [t] => t.text
  | t :: ts => t.text ++ ' ' :: text ts

/-- The value of a postfix sequence, every intermediate result being finite. -/
def value (tokens : List Token) : Except ExprFault Float :=
  run UInt64.toFloat (fun op a b =>
    let result := op.apply a b
    if result.isFinite then .ok result else .error .notFinite) [] tokens

/-- The infix text of a postfix sequence, with parentheses around every operation. -/
def infixText (tokens : List Token) : Except ExprFault (List Char) :=
  run (fun n => (Token.number n).text) (fun op a b =>
    .ok ('(' :: a ++ ' ' :: op.symbol :: ' ' :: b ++ [')'])) [] tokens

end Postfix
end ArithmeticGame
