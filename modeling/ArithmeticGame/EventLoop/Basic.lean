import ArithmeticGame.Dialogue.Basic
import ArithmeticGame.EventLoop.Inbox
/-!
# The event loop

The loop draws the game, waits for an event and hands it on, until a key quits. The inbox ticks
during a wait just when the session's clock runs, and does not tick in the end.
-/
namespace ArithmeticGame

def Dialogue.take (dialogue : Dialogue) : Event → Dialogue × Flow
  | .tick => (dialogue.takeTick, .proceed)
  | .key key => dialogue.takeKey key
  | .resize | .idle => (dialogue, .proceed)

namespace EventLoop

/-- What is left when the loop has ended: the game as it was drawn last, the game and the inbox. -/
structure Ending where
  drawn : Dialogue
  dialogue : Dialogue
  inbox : Inbox

/-- One turn: the next event, of an inbox that ticks just when the clock runs, is handed on. -/
def turn (dialogue : Dialogue) (inbox : Inbox) (due : Bool) : (Dialogue × Flow) × Inbox :=
  let (event, inbox) := (inbox.setTicking dialogue.session.clockRuns).next due
  (dialogue.take event, inbox)

/-- The loop over a list that tells for each wait whether a tick is due, if a key quits in that
time. -/
def turns (dialogue : Dialogue) (inbox : Inbox) : List Bool → Option Ending
  | [] => none
  | due :: dues =>
    match turn dialogue inbox due with
    | ((next, .quit), inbox) => some { drawn := dialogue, dialogue := next, inbox }
    | ((next, .proceed), inbox) => turns next inbox dues

/-- The loop from an inbox that ticks to one that does not. -/
def run (dialogue : Dialogue) (inbox : Inbox) (dues : List Bool) : Option Ending :=
  (turns dialogue inbox.startTicking dues).map fun ending =>
    { ending with inbox := ending.inbox.stopTicking }

end EventLoop
end ArithmeticGame
