/-!
# Where files are kept

The paths of the settings file and of the log, from the directories that the environment names. A
directory of the environment counts only if its path is absolute.
-/
namespace ArithmeticGame

/-- The directories that are known of the player's environment. -/
structure Environment where
  /-- The value of `HOME`. -/
  home : Option String
  /-- The value of `XDG_CONFIG_HOME`. -/
  configHome : Option String
  /-- The value of `XDG_DATA_HOME`. -/
  dataHome : Option String
  /-- The home directory of the account, for want of a named one. -/
  account : Option String

def joinPath (directory path : String) : String :=
  match directory.toList.getLast? with
  | none => path
  | some '/' => directory ++ path
  | some _ => directory ++ "/" ++ path

/-- The directory that a path leads into, if it names one. -/
def parent? (path : String) : Option String :=
  match path.toList.reverse.dropWhile (· != '/') with
  | [] => none
  | ['/'] => some "/"
  | _ :: above => some (String.ofList above.reverse)

def isAbsolute (path : String) : Bool := path.toList.head? == some '/'

namespace Environment

/-- The home directory. An empty path is none. -/
def home? (env : Environment) : Option String :=
  match env.home with
  | some home => if home.isEmpty then env.account else some home
  | none => env.account

/-- The player's directory for the game: inside `named` if that is absolute, otherwise inside
`path` of the home directory. -/
def gameDirectory? (env : Environment) (named : Option String) (path : String) : Option String :=
  env.home?.map fun home =>
    joinPath ((named.filter isAbsolute).getD (joinPath home path)) "reckon"

def settingsPath (env : Environment) : String :=
  match env.gameDirectory? env.configHome ".config" with
  | some directory => joinPath directory "config.json"
  | none => "reckon_config.json"

def logPath (env : Environment) : String :=
  match env.home with
  | some home => joinPath home ".local/state/reckon/reckon.log"
  | none => match env.gameDirectory? env.dataHome ".local/share" with
    | some directory => joinPath directory "reckon.log"
    | none => "reckon.log"

end Environment
end ArithmeticGame
