import ResourceBrowser.App
import ResourceBrowser.Key.Press
import ResourceBrowser.Options
import ResourceBrowser.Table.NativeEngine

/-!
# The program

Shows a simulated cluster on standard output, one frame after the other, and reads keys from
standard input. Every line names keys, such as `j`, `Enter` or `Ctrl-w`, and a line without keys
lets some time pass.
-/

namespace ResourceBrowser

attribute [local instance] Table.nativeEngine

/-- The size of the frames. -/
def frameWidth : UInt16 := 120

/-- The number of lines of the frames. -/
def frameHeight : UInt16 := 30

/-- The time of the machine. -/
def currentMoment : IO Moment := return { nanos := ← IO.monoNanosNow }

/-- What is found at the path of the configuration. -/
def findConfig (path : String) : IO Config.File := do
  match ← (IO.FS.readBinFile path).toBaseIO with
  | .ok bytes => return .content bytes
  | .error (.noFileOrDirectory ..) => return .missing
  | .error e => return .unreadable (toString e)

/-- Writes the files that the application has asked for. -/
def writeFiles (a : App) : IO App := do
  for (path, text) in a.files do
    IO.FS.createDirAll a.config.dumpDir
    IO.FS.writeFile path text
  return { a with files := [] }

/-- Shows a frame. -/
def showFrame (f : Screen.Frame) : IO Unit := do
  for y in List.range frameHeight.toNat do
    IO.println (f.canvas.rowText y)

/-- The application after a line of keys. -/
def App.onLine? (a : App) (line : String) (m : Moment) : Option App := do
  let keys := (Text.splitAll ' ' (Text.trimChars line.toList)).filterMap fun word =>
    Key.Press.read? (.ofList word)
  let a ← if keys.isEmpty then a.onTick? m
    else keys.foldlM (fun a key => if a.done then some a else a.onKey? key m) a
  some (a.settle m)

/-- Reports why the program ends. -/
def failWith (message : String) : IO UInt32 := do
  IO.eprintln ("Error: " ++ message)
  return 1

/-- Shows frames and reads keys until the application or the input ends, or a number is too
large. -/
partial def interact (input : IO.FS.Stream) (next : Option App) : IO UInt32 := do
  let some a := next | failWith "arithmetic overflow"
  let a ← writeFiles a
  let some frame := (a.scene none).draw? a.screen frameWidth frameHeight
    | failWith "arithmetic overflow"
  showFrame frame
  if a.done then return 0
  let line ← input.getLine
  if line.isEmpty then return 0
  interact input ({ a with screen := frame.state }.onLine? line (← currentMoment))

/-- Runs the program. -/
def runWith (args : List String) : IO UInt32 := do
  match Options.read {} args with
  | .error e => failWith e.message
  | .ok options =>
    match Config.load (← findConfig options.config) with
    | .error e => failWith (e.message options.config)
    | .ok config =>
      let m ← currentMoment
      match options.cluster m.nanos with
      | .error e => failWith e.message
      | .ok cluster =>
        interact (← IO.getStdin) ((App.start cluster (options.override config)).reload? m)

end ResourceBrowser

/-- The program. -/
def main (args : List String) : IO UInt32 := ResourceBrowser.runWith args
