import ArithmeticGame.Settings.Format
/-!
# The settings file

What stands at the path of the settings file, and how settings are loaded from it and saved to it.
Loading never fails: whatever gives no settings counts as the defaults.
-/
namespace ArithmeticGame

/-- What stands at a path. -/
inductive FileState where
  | absent
  | directory
  | file (content : List UInt8)
deriving DecidableEq

inductive SaveFault where
  | invalid (fault : SettingsFault)
  | io
deriving DecidableEq

/-- What an attempt to save settings came to, with what stands at the path after it. -/
inductive Saved where
  | ok (after : FileState)
  | error {after : FileState} (fault : SaveFault)
deriving DecidableEq

def Saved.after : Saved → FileState
  | .ok after => after
  | @error after _ => after

namespace FileState

def content? : FileState → Option (List UInt8)
  | file content => some content
  | absent | directory => none

/-- The path after an attempt to write to it; a directory stays one. -/
def write (content : List UInt8) : FileState → FileState
  | directory => directory
  | absent | file _ => file content

def makeDirectory : FileState → FileState
  | absent => directory
  | state => state

def delete : FileState → FileState
  | file _ => absent
  | state => state

/-- The settings that stand at the path, if it holds any. -/
def load? (state : FileState) : Option Settings := do
  (Settings.ofBytes (← state.content?)).toOption

def load (state : FileState) : Settings := state.load?.getD .default

/-- Saves settings that a game can be played with. -/
def save (s : Settings) (state : FileState) : Saved :=
  match s.check with
  | .error fault => @Saved.error state (.invalid fault)
  | .ok () => match state with
    | directory => @Saved.error directory .io
    | absent | file _ => .ok (file s.bytes)

end FileState
end ArithmeticGame
