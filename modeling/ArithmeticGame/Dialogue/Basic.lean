import ArithmeticGame.Dialogue.Key
import ArithmeticGame.Session.Operation
/-!
# The game at the keyboard

A session together with what the player was told last. Each phase gives some keys a meaning; all
others do nothing.
-/
namespace ArithmeticGame

structure Dialogue where
  session : Session
  notice : Option Notice
  /-- The outcome that the notice belongs to. -/
  outcome : Option Outcome

/-- What a key asks for. -/
inductive Command where
  | quit
  | nothing
  | operate (operation : Operation)
deriving DecidableEq

/-- Whether the loop that feeds the game goes on after a key. -/
inductive Flow where
  | proceed
  | quit
deriving DecidableEq

def isTypable (c : Char) : Bool :=
  c.isDigit || c == '+' || c == '-' || c == '*' || c == '/' || c == '(' || c == ')' || c == ' '

namespace Command

def ofCode (phase : Phase) (code : KeyCode) : Command :=
  match phase with
  | .setup =>
    match code with
    | .enter | .char ' ' => operate .start
    | .escape | .char 'q' => quit
    | _ => nothing
  | .playing =>
    match code with
    | .enter => operate .submitTyped
    | .escape => operate .abandon
    | .char '?' | .function 2 => operate .removeNumber
    | .backspace => operate .backspace
    | .delete => operate .clear
    | .char c => if isTypable c then operate (.push c) else nothing
    | _ => nothing
  | .solved =>
    match code with
    | .enter | .tab | .char ' ' => operate .advance
    | .escape => operate .abandon
    | _ => nothing
  | .finished =>
    match code with
    | .char 'r' => operate .restart
    | .escape | .char 'q' => quit
    | _ => nothing

/-- What a key with its circumstances asks for; only keys going down count. -/
def ofKey (phase : Phase) (key : Key) : Command :=
  if key.kind ≠ .press then nothing
  else if key.control ∧ key.code = .char 'c' then quit
  else ofCode phase key.code

end Command

namespace Dialogue

def ofSession (session : Session) : Dialogue := { session, notice := none, outcome := none }

/-- Tells the player about an operation, unless nothing came of it. -/
def tell (dialogue : Dialogue) (report : Report) : Dialogue :=
  if report.outcome = .nothing ∧ report.notice = none then dialogue
  else { dialogue with notice := report.notice, outcome := some report.outcome }

def operate (dialogue : Dialogue) (operation : Operation) : Dialogue :=
  match dialogue.session.apply operation with
  | (session, some report) => { dialogue with session }.tell report
  | (session, none) => { dialogue with session }

def takeTick (dialogue : Dialogue) : Dialogue := dialogue.operate .tick

def takeKey (dialogue : Dialogue) (key : Key) : Dialogue × Flow :=
  match Command.ofKey dialogue.session.phase key with
  | .quit => (dialogue, .quit)
  | .nothing => (dialogue, .proceed)
  | .operate operation => (dialogue.operate operation, .proceed)

end Dialogue
end ArithmeticGame
