import ArithmeticGame.Json.Text
import ArithmeticGame.Json.Value
import ArithmeticGame.Settings.Basic
/-!
# Settings in a file

Settings are written as an object with one member a line. An object or an array is read back;
settings that it leaves out keep their defaults, and unknown members are passed over.
-/
namespace ArithmeticGame

inductive FormatFault where
  | format
  | invalid (fault : SettingsFault)
deriving DecidableEq

namespace Settings

/-- All settings with their numbers, in the order in which they are written. -/
def members (s : Settings) : List (Setting × Int) :=
  Setting.all.map fun setting => (setting, s.get setting)

def memberText : Setting × Int → List Char
  | (setting, n) => "  \"".toList ++ setting.name.toList ++ "\": ".toList ++ (toString n).toList

/-- Members on lines of their own, a comma after each but the last. -/
def memberLines : List (Setting × Int) → List Char
  | [] => []
  | [member] => memberText member
  | member :: members => memberText member ++ ',' :: '\n' :: memberLines members

def objectText (members : List (Setting × Int)) : List Char :=
  '\x7b' :: '\n' :: memberLines members ++ ['\n', '\x7d']

def bytes (s : Settings) : List UInt8 := Json.bytes (objectText s.members)

/-- The settings with one of them read from a value, which has to be an integer that fits. -/
def read? (s : Settings) (setting : Setting) (value : Json.Value) : Option Settings := do
  let n ← value.integer?
  if setting.fits n then some (s.put setting n) else none

/-- Reads the members of an object, `seen` being the settings that earlier ones gave. -/
def readMembers? (s : Settings) : List Setting → List (List UInt8 × Json.Value) → Option Settings
  | _, [] => some s
  | seen, (key, value) :: members => do
    let name ← Json.text? key
    match Setting.all.find? fun setting => setting.name == name with
    | none => readMembers? s seen members
    | some setting =>
      if setting ∈ seen then none
      else readMembers? (← s.read? setting value) (setting :: seen) members

/-- Reads the items of an array as the settings in their order. -/
def readItems? (s : Settings) : List Setting → List Json.Value → Option Settings
  | _, [] => some s
  | [], _ :: _ => none
  | setting :: settings, value :: values => do readItems? (← s.read? setting value) settings values

def ofJson? : Json.Value → Option Settings
  | .object members => Settings.default.readMembers? [] members
  | .array items => Settings.default.readItems? Setting.all items
  | _ => none

/-- The settings that a text gives, if a game can be played with them. -/
def ofBytes (text : List UInt8) : Except FormatFault Settings :=
  match (Json.Value.ofBytes text).bind ofJson? with
  | none => .error .format
  | some s => match s.check with
    | .error fault => .error (.invalid fault)
    | .ok () => .ok s

end Settings
end ArithmeticGame
