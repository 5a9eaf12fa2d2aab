import ArithmeticGame.Award
import ArithmeticGame.Session.Notice
import ArithmeticGame.Settings.Basic
import ArithmeticGame.Target
/-!
# Sessions

The state of one game from its setup to its end, with all that a new game on the same rules needs.
-/
namespace ArithmeticGame

structure Rules where
  timeBudget : UInt32
  penalty : UInt32
  removalBonus : Int32
  rounds : Nat
  poolSize : Nat
  awardTable : AwardTable
deriving DecidableEq

def Rules.ofSettings (settings : Settings) : Rules :=
  { timeBudget := settings.timeBudget
    penalty := settings.penalty
    removalBonus := settings.removalBonus
    rounds := settings.rounds.toNat
    poolSize := settings.poolSize.toNat
    awardTable := .default }

inductive Phase where
  | setup
  | playing
  /-- A round has been solved; the clock stands until the player moves on. -/
  | solved
  | finished
deriving DecidableEq

def Phase.name : Phase → String
  | setup => "Setup"
  | playing => "Playing"
  | solved => "AwaitingRoundAdvance"
  | finished => "Over"

inductive Outcome where
  | hit
  | miss (value : Float)
  | refused
  | removed (value : Nat)
  | done
  | nothing
deriving DecidableEq

structure Session where
  rules : Rules
  source : TargetSource
  generator : Generator
  pool : Pool
  targets : List Int64
  /-- The index of the current round. -/
  round : Nat
  seconds : UInt32
  correct : Nat
  /-- The expression that the player is composing. -/
  input : List Char
  phase : Phase

/-- What an operation did, and where the session stands after it. -/
structure Report where
  outcome : Outcome
  notice : Option Notice
  phase : Phase
  seconds : UInt32
  correct : Nat
  /-- The pool numbers that changed their state. -/
  changed : List Nat
deriving DecidableEq

structure Summary where
  correct : Nat
  played : Nat
  rounds : Nat
  score : Nat
  seconds : UInt32
deriving DecidableEq

namespace Session

/-- A session in setup. Its targets are the first draws from the generator. -/
def ofRules (rules : Rules) (source : TargetSource) (generator : Generator) : Session :=
  let (targets, generator) := source.supply rules.rounds generator
  { rules
    source
    generator
    pool := .full rules.poolSize
    targets
    round := 0
    seconds := rules.timeBudget
    correct := 0
    input := []
    phase := .setup }

def ofSettings (settings : Settings) (seed : UInt64) : Session :=
  ofRules (.ofSettings settings) (.between settings.targetMin settings.targetMax) (.ofSeed seed)

def target? (s : Session) : Option Int64 := s.targets[s.round]?

/-- The clock runs only while a round is played. -/
def clockRuns (s : Session) : Bool := s.phase == .playing

def score (s : Session) : Nat := s.rules.awardTable.score s.correct

def summary (s : Session) : Summary :=
  { correct := s.correct
    played := if s.phase = .setup then 0 else min (s.round + 1) s.targets.length
    rounds := s.targets.length
    score := s.score
    seconds := s.seconds }

/-- The session with the report of an operation that led to it. -/
def report (s : Session) (outcome : Outcome) (notice : Option Notice) (changed : List Nat) :
    Session × Report :=
  (s, { outcome, notice, phase := s.phase, seconds := s.seconds, correct := s.correct, changed })

def unchanged (s : Session) : Session × Report := s.report .nothing none []

/-- The game over, with whatever was being composed dropped. -/
def finish (s : Session) : Session := { s with phase := .finished, input := [] }

def finishIfOut (s : Session) : Session := if s.seconds = 0 then s.finish else s

end Session
end ArithmeticGame
