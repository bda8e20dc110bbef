import Telemetry.Command.Program
import Telemetry.Text.Time
import Std.Time.DateTime.Timestamp

/-!
# The outer layer

What surrounds the program: the command line and the environment, the configuration folder,
the clocks, and the streams that it writes to. Everything is decided by
`Invocation.parse` and `Invocation.perform`.
-/

namespace Telemetry.Command

/-- What is found under the name of the configuration file in the folder of a path. -/
def lookForConfig (path : String) : IO Config.Entry := do
  let file := (← IO.currentDir) / Config.filePath path
  if ← file.isDir then return .folder
  else if ← file.pathExists then return .file (← IO.FS.readFile file)
  else return .nothing

/-- What is found in the place of the configuration folder. -/
def lookForFolder (path : String) : IO Config.Folder := do
  if !Config.canBePath path then return .blocked
  let mut place := (← IO.currentDir) / path
  if ← place.isDir then return .present (← lookForConfig path)
  if ← place.pathExists then return .taken
  while !(← place.pathExists) do
    match place.parent with
    | some parent => place := parent
    | none => return .missing
  return if ← place.isDir then .missing else .blocked

/-- Writes a configuration folder. -/
def saveFolder (path : String) : Config.Folder → IO Unit
  | .present (.file text) => do
    let here ← IO.currentDir
    IO.FS.createDirAll (here / path)
    IO.FS.writeFile (here / Config.filePath path) text
  | _ => return

/-- The time of the clock, in microseconds since 1970. -/
def microsecondsNow : IO Nat := do
  return (← Std.Time.Timestamp.now).toNanosecondsSinceUnixEpoch.val.toNat / 1000

/-- A seed that differs from run to run. -/
def freshSeed : IO UInt64 := do
  return (← IO.getRandomBytes 8).foldl (fun n b => n * 256 + b.toUInt64) 0

/-- Where the program runs. -/
def siteNow : IO Site := do
  return {
    directory := (← IO.currentDir).toString
    attended := ← (← IO.getStdout).isTty
    logRules := ← IO.getEnv "RUST_LOG" }

/-- What the environment says about settings. -/
def environmentNow : IO Environment := do
  let values ← Environment.variables.filterMapM fun name => do
    return (← IO.getEnv name).map (name, ·)
  return .ofVariables (Dict.ofList values).get?

/-- Runs a command line, as far as what it writes and saves. -/
def perform (words : List String) : IO Outcome := do
  match Invocation.parse (← environmentNow) words with
  | .error halt => return halt.outcome
  | .ok i =>
    let outcome := i.perform (← siteNow) (← lookForFolder i.folder) (← freshSeed)
    try
      if let some saved := outcome.saved then saveFolder i.folder saved
      return outcome
    catch _ =>
      return .notSaved i.folder ⟨.cannotWrite, .file (Config.filePath i.folder), none⟩

end Telemetry.Command

/-- Runs the program, and gives its exit code. -/
def main (words : List String) : IO UInt32 := do
  let start ← IO.monoNanosNow
  let outcome ← Telemetry.Command.perform words
  for complaint in outcome.complaints do
    (← IO.getStderr).putStrLn complaint
  let stdout ← IO.getStdout
  for output in outcome.output do
    let time := Telemetry.Text.instant (← Telemetry.Command.microsecondsNow)
    let elapsed := Telemetry.Text.span ((← IO.monoNanosNow) - start)
    stdout.putStr (output.render outcome.layout time elapsed)
  stdout.flush
  return outcome.exitCode.toUInt32
