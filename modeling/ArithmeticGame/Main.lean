import ArithmeticGame.Dialogue.Keyboard
import ArithmeticGame.EventLoop.Basic
import ArithmeticGame.Screen.Terminal
import ArithmeticGame.Screen.View
import ArithmeticGame.Session.Printer
import ArithmeticGame.Settings.Location
import ArithmeticGame.Settings.Store
import ArithmeticGame.Settings.Usage
/-!
# The program

Reads the command line and the settings file, and plays one game after the other on the terminal.
All that is decided here is when to read, to draw and to wait.
-/
namespace ArithmeticGame.Program

def environment : IO Environment := do
  return {
    home := ← IO.getEnv "HOME"
    configHome := ← IO.getEnv "XDG_CONFIG_HOME"
    dataHome := ← IO.getEnv "XDG_DATA_HOME"
    account := none }

/-- What stands at a path; whatever cannot be read as a file counts as a directory. -/
def fileState (path : String) : IO FileState := do
  try return .file (← IO.FS.readBinFile path).toList
  catch
    | .noFileOrDirectory .. => return .absent
    | _ => return .directory

def makeParent (path : String) : IO Unit := do
  if let some directory := parent? path then
    IO.FS.createDirAll directory

def log (line : CommandLine) (level : LogLevel) (text : String) : IO Unit := do
  if line.logLevel.includes level then
    try
      let path := line.logFile.getD (← environment).logPath
      makeParent path
      (← IO.FS.Handle.mk path .append).putStrLn (level.name ++ ": " ++ text)
    catch e => IO.eprintln ("logging disabled: " ++ toString e)

def save (path : String) (settings : Settings) (state : FileState) : IO Bool := do
  match state.save settings with
  | .error _ => return false
  | .ok state =>
    try
      makeParent path
      IO.FS.writeBinFile path ⟨(state.content?.getD []).toArray⟩
      return true
    catch _ => return false

def seed (line : CommandLine) : IO UInt64 := do
  match line.seed with
  | some seed => return seed
  | none => return (← IO.getRandomBytes 8).foldl (fun n b => 256 * n + b.toUInt64) 0

/-- Plays until a key quits or no more keys can come. A key is read only when all before it have
been handled. -/
def play (dialogue : Dialogue) : IO Dialogue := do
  let input ← IO.getStdin
  let output ← IO.getStdout
  let mut dialogue := dialogue
  let mut inbox := Inbox.empty
  let mut held := none
  let mut reading : Option (Task (Except IO.Error ByteArray)) := none
  let mut deadline : Option Nat := none
  output.putStr (dialogue.screen 80 24).paint
  output.flush
  repeat
    let now ← IO.monoMsNow
    deadline := if dialogue.session.clockRuns then some (deadline.getD (now + 1000)) else none
    let due := deadline.any (· ≤ now)
    if !inbox.queue.isEmpty || due then
      let ((next, control), after) := EventLoop.turn dialogue inbox due
      dialogue := next
      inbox := after
      if due then deadline := deadline.map (· + 1000)
      output.putStr (dialogue.screen 80 24).paint
      output.flush
      if control = .quit then break
    else match reading with
      | none => reading ← some <$> IO.asTask (input.read 1) .dedicated
      | some task =>
        let mut keys := []
        if ← IO.hasFinished task then
          reading := none
          let bytes ← IO.ofExcept task.get
          if bytes.isEmpty then break
          (held, keys) := Keyboard.pushAll held (bytes.toList.map Char.ofUInt8)
        else IO.sleep 10
        -- No sequence has a meaning outside a round, and no read may be under way at the end.
        if !dialogue.session.clockRuns || (reading.isSome && !(← IO.hasFinished task)) then
          let (after, meant) := Keyboard.flush held
          held := after
          keys := keys ++ meant
        inbox := { inbox with queue := keys.map .key }
  return dialogue

/-- Plays on the terminal with the settings of the file and the command line. -/
def run (line : CommandLine) : IO UInt32 := do
  let path := (← environment).settingsPath
  let state ← fileState path
  if state ≠ .absent ∧ state.load? = none then
    log line .warn "ignoring config file"
  let settings := line.overlay state.load
  if let .error fault := settings.check then
    IO.eprintln ("error: " ++ fault.message)
    return 2
  if line.saveSettings then
    if ← save path settings state then log line .info "saved config"
    else
      IO.eprintln "error: the settings cannot be saved"
      return 1
  if !(← (← IO.getStdin).isTty) then
    IO.eprintln "error: stdin must be a tty"
    return 2
  let output ← IO.getStdout
  output.putStr Screen.enter
  let dialogue ← play (.ofSession (.ofSettings settings (← seed line)))
  output.putStr Screen.leave
  output.flush
  log line .info dialogue.session.logText
  return 0

end ArithmeticGame.Program

open ArithmeticGame in
def main (arguments : List String) : IO UInt32 := do
  match CommandLine.ofArguments arguments with
  | .ok line => Program.run line
  | .error fault =>
    if fault.isRequest then
      IO.println fault.message
      return 0
    else
      IO.eprintln ("error: " ++ fault.message)
      return 2
