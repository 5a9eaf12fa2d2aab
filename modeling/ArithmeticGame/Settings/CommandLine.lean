import ArithmeticGame.Settings.Basic
/-!
# The command line

Options that change settings for one game, and a few that concern the program. Arguments are read
from left to right and the first fault decides; a value in an argument of its own is looked at only
when the next option or the end is reached.
-/
namespace ArithmeticGame

/-- What the options of a command line say. -/
structure CommandLine where
  /-- The settings given, in order. -/
  settings : List (Setting × Int)
  seed : Option UInt64
  saveSettings : Bool
  logFile : Option String
  /-- How often more of a log was asked for, up to 255. -/
  verbosity : Nat
deriving DecidableEq

/-- Why the arguments are not a command line, or what they ask for instead of a game. -/
inductive UsageFault where
  | unknownArgument
  | noValue
  | badNumber
  | givenTwice
  | unexpectedValue
  | help
  | version
deriving DecidableEq

inductive LogLevel where
  | warn
  | info
  | debug
  | trace
deriving DecidableEq

def LogLevel.name : LogLevel → String
  | warn => "warn"
  | info => "info"
  | debug => "debug"
  | trace => "trace"

/-- Whether a log of this level holds messages of another. -/
def LogLevel.includes (level message : LogLevel) : Bool :=
  let rank : LogLevel → Nat
    | warn => 0
    | info => 1
    | debug => 2
    | trace => 3
  rank message ≤ rank level

/-- The options by what they set. -/
inductive Switch where
  | setting (setting : Setting)
  | seed
  | logFile
  | saveSettings
  | verbose
  | help
  | version
deriving DecidableEq

namespace Switch

def all : List Switch :=
  Setting.all.map setting ++ [seed, logFile, saveSettings, verbose, help, version]

def long : Switch → String
  | setting .timeBudget => "seconds"
  | setting .penalty => "penalty"
  | setting .removalBonus => "bonus"
  | setting .rounds => "rounds"
  | setting .poolSize => "pool-size"
  | setting .targetMin => "target-min"
  | setting .targetMax => "target-max"
  | seed => "seed"
  | logFile => "log-file"
  | saveSettings => "save-config"
  | verbose => "verbose"
  | help => "help"
  | version => "version"

def short? : Switch → Option Char
  | setting .timeBudget => some 's'
  | setting .rounds => some 'r'
  | setting .poolSize => some 'p'
  | verbose => some 'v'
  | help => some 'h'
  | version => some 'V'
  | _ => none

def takesValue : Switch → Bool
  | setting _ | seed | logFile => true
  | saveSettings | verbose | help | version => false

/-- Whether an argument that starts with a dash is taken as the value. -/
def takesDashes : Switch → Bool
  | setting .removalBonus | setting .targetMin | setting .targetMax => true
  | _ => false

def ofLong? (name : List Char) : Option Switch := all.find? fun s => s.long.toList == name

def ofShort? (letter : Char) : Option Switch := all.find? fun s => s.short? == some letter

end Switch

/-- The integer that a text is: ASCII digits, after a plus or, where `signed`, a minus. -/
def integerOfText? (signed : Bool) (text : List Char) : Option Int :=
  let (negative, digits) := match text with
    | '+' :: digits => (false, digits)
    | '-' :: digits => if signed then (true, digits) else (false, text)
    | _ => (false, text)
  if digits.isEmpty || !digits.all Char.isDigit then none
  else
    let n : Int := Nat.ofDigitChars 10 digits 0
    some (if negative then -n else n)

/-- Whether the numbers of a setting are read with a sign before they are held against its range. -/
def Setting.isSigned : Setting → Bool
  | rounds | poolSize => false
  | timeBudget | penalty | removalBonus | targetMin | targetMax => true

namespace CommandLine

def empty : CommandLine :=
  { settings := [], seed := none, saveSettings := false, logFile := none, verbosity := 0 }

/-- The settings with those of the command line in their place. -/
def overlay (line : CommandLine) (s : Settings) : Settings :=
  line.settings.foldl (fun s (setting, n) => s.put setting n) s

def logLevel (line : CommandLine) : LogLevel :=
  match line.verbosity with
  | 0 => .warn
  | 1 => .info
  | 2 => .debug
  | _ => .trace

/-- The command line with the value of an option, which has to be a number unless it is a path. -/
def withValue (line : CommandLine) (switch : Switch) (text : List Char) :
    Except UsageFault CommandLine :=
  match switch with
  | .setting setting => match integerOfText? setting.isSigned text with
    | some n =>
      if setting.fits n then .ok { line with settings := line.settings ++ [(setting, n)] }
      else .error .badNumber
    | none => .error .badNumber
  | .seed => match integerOfText? false text with
    | some n => if n < UInt64.size then .ok { line with seed := some (UInt64.ofInt n) }
      else .error .badNumber
    | none => .error .badNumber
  | .logFile => if text.isEmpty then .error .noValue
    else .ok { line with logFile := some (String.ofList text) }
  | _ => .ok line

def withFlag (line : CommandLine) : Switch → Except UsageFault CommandLine
  | .saveSettings => .ok { line with saveSettings := true }
  | .verbose => .ok { line with verbosity := min (line.verbosity + 1) 255 }
  | .help => .error .help
  | .version => .error .version
  | _ => .ok line

/-- Where the reading of the arguments stands. -/
structure Progress where
  line : CommandLine
  /-- The options that may not come again. -/
  given : List Switch
  /-- The option in front, and its value if that has been met. -/
  pending : Option (Switch × Option (List Char))
  /-- Whether the arguments that follow cannot be options. -/
  optionsEnded : Bool

namespace Progress

/-- Notes that an option was given, which may be done once for each. -/
def note (p : Progress) (switch : Switch) : Except UsageFault Progress :=
  if switch ∈ p.given then .error .givenTwice else .ok { p with given := switch :: p.given }

def giveValue (p : Progress) (switch : Switch) (text : List Char) : Except UsageFault Progress := do
  let p ← p.note switch
  .ok { p with line := ← p.line.withValue switch text }

/-- Looks at the option in front, which has to have its value by now. -/
def settle (p : Progress) : Except UsageFault Progress :=
  match p.pending with
  | none => .ok p
  | some (_, none) => .error .noValue
  | some (switch, some text) => { p with pending := none }.giveValue switch text

def giveFlag (p : Progress) (switch : Switch) : Except UsageFault Progress := do
  let p ← p.settle
  let p ← if switch = .saveSettings then p.note switch else .ok p
  .ok { p with line := ← p.line.withFlag switch }

/-- Meets an option that takes a value, with that value if it is in the same argument. -/
def meet (p : Progress) (switch : Switch) (attached : Option (List Char)) :
    Except UsageFault Progress := do
  let p ← p.settle
  match attached with
  | some text => p.giveValue switch text
  | none => .ok { p with pending := some (switch, none) }

def readLong (p : Progress) (text : List Char) : Except UsageFault Progress :=
  let name := text.takeWhile (· != '=')
  let attached := (text.dropWhile (· != '=')).tail?
  match Switch.ofLong? name with
  | none => .error .unknownArgument
  | some switch =>
    if switch.takesValue then p.meet switch attached
    else if attached.isSome then .error .unexpectedValue
    else p.giveFlag switch

/-- Reads the letters that follow one dash; what follows the letter of an option with a value is
the value. -/
def readShort (p : Progress) : List Char → Except UsageFault Progress
  | [] => .ok p
  | letter :: rest => match Switch.ofShort? letter with
    | none => .error .unknownArgument
    | some switch =>
      if switch.takesValue then
        p.meet switch (match rest with
          | [] => none
          | '=' :: text => some text
          | text => some text)
      else do readShort (← p.giveFlag switch) rest

/-- Reads an argument as the value of the option in front, or as one out of place. -/
def readValue (p : Progress) (text : List Char) : Except UsageFault Progress :=
  match p.pending with
  | some (switch, none) => .ok { p with pending := some (switch, some text) }
  | _ => .error .unknownArgument

/-- Whether the option in front waits for a value that may start with a dash. -/
def awaitsDashes (p : Progress) : Bool :=
  match p.pending with
  | some (switch, none) => switch.takesDashes
  | _ => false

def read (p : Progress) (argument : List Char) : Except UsageFault Progress :=
  if p.optionsEnded then .error .unknownArgument
  else if p.awaitsDashes then p.readValue argument
  else match argument with
    | ['-', '-'] => .ok { p with optionsEnded := true }
    | '-' :: '-' :: text => p.readLong text
    | '-' :: letter :: letters => p.readShort (letter :: letters)
    | _ => p.readValue argument

end Progress

def ofArguments (arguments : List String) : Except UsageFault CommandLine := do
  let start : Progress := { line := empty, given := [], pending := none, optionsEnded := false }
  let p ← arguments.foldlM (fun p argument => p.read argument.toList) start
  .ok (← p.settle).line

end CommandLine
end ArithmeticGame
