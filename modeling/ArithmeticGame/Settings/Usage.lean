import ArithmeticGame.Settings.CommandLine
/-!
# Help on the command line

The options one by one, and what the player is told when the arguments give no game.
-/
namespace ArithmeticGame

def Switch.summary : Switch → String
  | setting .timeBudget => "seconds on the clock at the start of a game"
  | setting .penalty => "seconds lost for a wrong answer"
  | setting .removalBonus =>
    "seconds gained when removing a random pool number (negative to lose time)"
  | setting .rounds => "number of targets per game"
  | setting .poolSize => "highest number in the pool (1-100)"
  | setting .targetMin => "smallest possible target"
  | setting .targetMax => "largest possible target"
  | seed => "seed for a reproducible game"
  | logFile => "write logs here instead of the default state directory"
  | saveSettings => "store the effective settings as the new defaults"
  | verbose => "log more (-v info, -vv debug, -vvv trace)"
  | help => "print help"
  | version => "print version"

/-- The names of an option and whether a value follows. -/
def Switch.form (switch : Switch) : String :=
  (match switch.short? with
    | some letter => "-" ++ letter.toString ++ ", --"
    | none => "    --") ++ switch.long ++ (if switch.takesValue then " <VALUE>" else "")

def CommandLine.helpText : String :=
  "A terminal arithmetic game: combine numbers from a shrinking pool with + - * / and " ++
    "parentheses to hit each target before the countdown expires.\n\n" ++
    "Usage: reckon [OPTIONS]\n\nOptions:" ++
    String.join (Switch.all.map fun switch =>
      "\n  " ++ switch.form ++ "".pushn ' ' (26 - switch.form.length) ++ switch.summary)

def UsageFault.message : UsageFault → String
  | unknownArgument => "an argument is no option of the game"
  | noValue => "an option is without its value"
  | badNumber => "a value is not a number in the range of its option"
  | givenTwice => "an option is given more than once"
  | unexpectedValue => "an option that takes no value has one"
  | help => CommandLine.helpText
  | version => "reckon 0.1.0"

/-- Whether the arguments ask for a text rather than fail. -/
def UsageFault.isRequest : UsageFault → Bool
  | help | version => true
  | unknownArgument | noValue | badNumber | givenTwice | unexpectedValue => false

end ArithmeticGame
