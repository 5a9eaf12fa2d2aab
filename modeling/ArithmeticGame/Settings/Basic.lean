import ArithmeticGame.Pool.Basic
/-!
# Settings

The seven numbers that shape a game, their defaults, and which combinations make a game that can be
played.
-/
namespace ArithmeticGame

structure Settings where
  timeBudget : UInt32
  penalty : UInt32
  /-- Seconds that a removal adds to the clock; a negative number takes them away. -/
  removalBonus : Int32
  rounds : UInt64
  poolSize : UInt64
  targetMin : Int64
  targetMax : Int64
deriving DecidableEq

inductive Setting where
  | timeBudget
  | penalty
  | removalBonus
  | rounds
  | poolSize
  | targetMin
  | targetMax
deriving DecidableEq

namespace Setting

/-- All settings, in the order in which they are written. -/
def all : List Setting :=
  [timeBudget, penalty, removalBonus, rounds, poolSize, targetMin, targetMax]

def name : Setting → String
  | timeBudget => "time_budget_secs"
  | penalty => "penalty_secs"
  | removalBonus => "removal_bonus_secs"
  | rounds => "rounds"
  | poolSize => "pool_size"
  | targetMin => "target_min"
  | targetMax => "target_max"

def fits : Setting → Int → Bool
  | timeBudget, n | penalty, n => 0 ≤ n && n < UInt32.size
  | removalBonus, n => Int32.minValue.toInt ≤ n && n ≤ Int32.maxValue.toInt
  | rounds, n | poolSize, n => 0 ≤ n && n < UInt64.size
  | targetMin, n | targetMax, n => Int64.minValue.toInt ≤ n && n ≤ Int64.maxValue.toInt

end Setting

/-- Why a game cannot be played with some settings. -/
inductive SettingsFault where
  | noTime
  | noRounds
  | poolSize
  | emptyTargets (low high : Int64)
deriving DecidableEq

def SettingsFault.message : SettingsFault → String
  | noTime => "invalid setting: time budget must be at least 1 second"
  | noRounds => "invalid setting: at least one round is required"
  | poolSize =>
    "invalid setting: pool size must be between 1 and " ++ toString Pool.defaultSize
  | emptyTargets low high =>
    "invalid setting: target range " ++ toString low.toInt ++ "..=" ++ toString high.toInt ++
      " is empty"

namespace Settings

def default : Settings :=
  { timeBudget := 300
    penalty := 20
    removalBonus := 10
    rounds := 40
    poolSize := UInt64.ofNat Pool.defaultSize
    targetMin := 10
    targetMax := 999 }

def get (s : Settings) : Setting → Int
  | .timeBudget => s.timeBudget.toNat
  | .penalty => s.penalty.toNat
  | .removalBonus => s.removalBonus.toInt
  | .rounds => s.rounds.toNat
  | .poolSize => s.poolSize.toNat
  | .targetMin => s.targetMin.toInt
  | .targetMax => s.targetMax.toInt

/-- The settings with one of them changed to a number that fits it. -/
def put (s : Settings) : Setting → Int → Settings
  | .timeBudget, n => { s with timeBudget := UInt32.ofInt n }
  | .penalty, n => { s with penalty := UInt32.ofInt n }
  | .removalBonus, n => { s with removalBonus := Int32.ofInt n }
  | .rounds, n => { s with rounds := UInt64.ofInt n }
  | .poolSize, n => { s with poolSize := UInt64.ofInt n }
  | .targetMin, n => { s with targetMin := Int64.ofInt n }
  | .targetMax, n => { s with targetMax := Int64.ofInt n }

/-- Accepts the settings of a game that can be played; the first fault decides otherwise. -/
def check (s : Settings) : Except SettingsFault Unit :=
  if s.timeBudget = 0 then .error .noTime
  else if s.rounds = 0 then .error .noRounds
  else if s.poolSize.toNat = 0 ∨ Pool.defaultSize < s.poolSize.toNat then .error .poolSize
  else if s.targetMax < s.targetMin then .error (.emptyTargets s.targetMin s.targetMax)
  else .ok ()

end Settings
end ArithmeticGame
