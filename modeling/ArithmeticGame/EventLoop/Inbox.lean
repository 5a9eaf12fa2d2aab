import ArithmeticGame.Dialogue.Key
/-!
# Events and ticks

Queued events and the ticks of the clock come one at a time from one place, so that a tick never
falls into the handling of a key. Ticks come only while the inbox is ticking, and one that is due
goes ahead of the queue.
-/
namespace ArithmeticGame

inductive Event where
  | key (key : Key)
  | resize
  /-- A second has passed on a ticking inbox. -/
  | tick
  /-- Nothing has happened on an inbox that was not ticking. -/
  | idle
deriving DecidableEq

structure Inbox where
  /-- The events sent and not yet taken, the first sent first. -/
  queue : List Event
  /-- Whether the sender still exists. -/
  connected : Bool
  ticking : Bool
deriving DecidableEq

namespace Inbox

def empty : Inbox := { queue := [], connected := true, ticking := false }

def send? (i : Inbox) (event : Event) : Option Inbox :=
  if i.connected then some { i with queue := i.queue ++ [event] } else none

/-- Drops the sender; what it has sent stays queued. -/
def detach (i : Inbox) : Inbox := { i with connected := false }

def setTicking (i : Inbox) (ticking : Bool) : Inbox := { i with ticking }

def startTicking (i : Inbox) : Inbox := i.setTicking true

def stopTicking (i : Inbox) : Inbox := i.setTicking false

/-- What comes when nothing is taken from the queue. -/
def generated (i : Inbox) : Event := if i.ticking then .tick else .idle

/-- Waits for the next event. `due` tells whether the tick of a ticking inbox is due already. -/
def next (i : Inbox) (due : Bool) : Event × Inbox :=
  match i.queue with
  | event :: rest => if i.ticking && due then (.tick, i) else (event, { i with queue := rest })
  | [] => (i.generated, i)

/-- Uses the inbox while it ticks; whatever was done with it, it does not tick afterwards. -/
def whileTicking {α : Type} (i : Inbox) (use : Inbox → α × Inbox) : α × Inbox :=
  let (result, i) := use i.startTicking
  (result, i.stopTicking)

end Inbox
end ArithmeticGame
