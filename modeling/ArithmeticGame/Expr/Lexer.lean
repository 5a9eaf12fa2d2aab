import ArithmeticGame.Expr.Fault
import ArithmeticGame.Expr.Token
import ArithmeticGame.Text.Class
/-!
# Reading tokens

Blanks are dropped before anything else, so they may stand inside a number too. Positions count
the characters of the text as it was given.
-/
namespace ArithmeticGame

/-- A run of digits that is being read: where it started and its value so far. -/
structure DigitRun where
  start : Nat
  value : Nat

namespace DigitRun

def push (run : DigitRun) (c : Char) : Except ExprFault DigitRun :=
  let value := 10 * run.value + (c.toNat - '0'.toNat)
  if value < UInt64.size then .ok { run with value } else .error (.largeNumber run.start)

def token (run : DigitRun) : Token := .number (UInt64.ofNat run.value)

end DigitRun

namespace Token

/-- Reads tokens from characters with their positions, `run` being the digits just before them. -/
def scan : Option DigitRun → List (Char × Nat) → Except ExprFault (List Token)
  | run, [] => .ok (run.map DigitRun.token).toList
  | run, (c, position) :: cs =>
    if c.isDigit then do
      scan (some (← (run.getD ⟨position, 0⟩).push c)) cs
    else match ofChar? c with
      | some token => do
        let rest ← scan none cs
        .ok ((run.map DigitRun.token).toList ++ token :: rest)
      | none => .error (.badCharacter c position)

/-- Whether an operator may follow: only after a number or a closing parenthesis. -/
def endsOperand : Option Token → Bool
  | some (number _) | some closing => true
  | _ => false

@[simp] theorem endsOperand_none : endsOperand none = false := rfl

@[simp] theorem endsOperand_number (value : UInt64) : endsOperand (some (number value)) = true :=
  rfl

@[simp] theorem endsOperand_operator (op : Operator) : endsOperand (some (operator op)) = false :=
  rfl

@[simp] theorem endsOperand_opening : endsOperand (some opening) = false := rfl

@[simp] theorem endsOperand_closing : endsOperand (some closing) = true := rfl

/-- The first operator with no operand on its left, `before` being the token in front. -/
def firstUnary? : Option Token → List Token → Option Operator
  | _, [] => none
  | before, operator op :: ts =>
    if endsOperand before then firstUnary? (some (operator op)) ts else some op
  | _, t :: ts => firstUnary? (some t) ts

/-- The tokens of a text. Bad characters and numbers are reported before misplaced operators. -/
def ofText (text : List Char) : Except ExprFault (List Token) := do
  let tokens ← scan none (text.zipIdx.filter fun (c, _) => !Text.isBlank c)
  match firstUnary? none tokens with
  | some op => .error (.noLeftOperand op)
  | none => .ok tokens

end Token
end ArithmeticGame
