import ArithmeticGame.Session.Answer
/-!
# Operations on a session

Everything that can happen to a session, each operation deciding by the phase whether it applies.
One that does not apply leaves the session as it is.
-/
namespace ArithmeticGame

namespace Session

def start (s : Session) : Session × Report :=
  if s.phase ≠ .setup then s.unchanged
  else if s.targets.isEmpty then { s with phase := .finished }.report .done (some .noRounds) []
  else { s with input := [], phase := .playing }.report .done none []

/-- Adds a character to the input, and tells whether it did. -/
def push (s : Session) (c : Char) : Session × Bool :=
  if s.phase = .playing then ({ s with input := s.input ++ [c] }, true) else (s, false)

/-- Drops the last character of the input, and tells whether there was one. -/
def backspace (s : Session) : Session × Bool :=
  if s.phase = .playing then ({ s with input := s.input.dropLast }, !s.input.isEmpty)
  else (s, false)

def clear (s : Session) : Session :=
  if s.phase = .playing then { s with input := [] } else s

def submitTyped (s : Session) : Session × Report := s.submit s.input

def tick (s : Session) : Session × Report :=
  if s.phase ≠ .playing then s.unchanged
  else
    let s := { s with seconds := Clock.spend s.seconds 1 }
    if s.seconds = 0 then s.finish.report .done (some .timeUp) [] else s.unchanged

/-- Removes a number by chance in exchange for the bonus. -/
def removeNumber (s : Session) : Session × Report :=
  if s.phase ≠ .playing then s.report .refused (some .removalOutsideRound) []
  else match s.pool.discard s.generator with
    | .error fault => s.report .done (some (.refused fault)) []
    | .ok (value, pool, generator) =>
      let bonus := s.rules.removalBonus
      { s with pool, generator, seconds := Clock.credit s.seconds bonus }.finishIfOut.report
        (.removed value) (some (.removed value bonus)) [value]

/-- Moves on from a solved round, to the end of the game after the last one. -/
def advance (s : Session) : Session × Report :=
  if s.phase ≠ .solved then s.unchanged
  else if s.round + 1 < s.targets.length then
    { s with round := s.round + 1, input := [], phase := .playing }.report .done none []
  else s.finish.report .done (some .allCleared) []

/-- Ends a game that is under way. -/
def abandon (s : Session) : Session × Report :=
  if s.phase = .playing ∨ s.phase = .solved then
    s.finish.report .done (some .ended) []
  else s.unchanged

/-- Sets up a new game on the same rules after the end of one. -/
def restart (s : Session) : Session × Report :=
  if s.phase ≠ .finished then s.unchanged
  else
    let (targets, generator) := s.source.supply s.rules.rounds s.generator
    { s with
      pool := .full s.rules.poolSize
      targets
      generator
      round := 0
      seconds := s.rules.timeBudget
      correct := 0
      input := []
      phase := .setup }.report .done none []

end Session

inductive Operation where
  | start
  | push (c : Char)
  | backspace
  | clear
  | submit (text : List Char)
  | submitTyped
  | tick
  | removeNumber
  | advance
  | abandon
  | restart
deriving DecidableEq

namespace Session

/-- The session after an operation, with its report unless it only edits the input. -/
def apply (s : Session) : Operation → Session × Option Report
  | .start => let (s, report) := s.start; (s, some report)
  | .push c => ((s.push c).1, none)
  | .backspace => (s.backspace.1, none)
  | .clear => (s.clear, none)
  | .submit text => let (s, report) := s.submit text; (s, some report)
  | .submitTyped => let (s, report) := s.submitTyped; (s, some report)
  | .tick => let (s, report) := s.tick; (s, some report)
  | .removeNumber => let (s, report) := s.removeNumber; (s, some report)
  | .advance => let (s, report) := s.advance; (s, some report)
  | .abandon => let (s, report) := s.abandon; (s, some report)
  | .restart => let (s, report) := s.restart; (s, some report)

def run (s : Session) (operations : List Operation) : Session :=
  operations.foldl (fun s operation => (s.apply operation).1) s

end Session
end ArithmeticGame
