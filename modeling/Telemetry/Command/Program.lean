import Telemetry.Command.Arguments
import Telemetry.Config.Description
import Telemetry.Config.Folder
import Telemetry.Launch
import Telemetry.Log.Filter
import Telemetry.Log.Line
import Telemetry.Simulation.Run

/-!
# The program

What an invocation does is a function of where it runs and of what is found in the place of
the configuration folder. Its result says what is written, in order, and what is saved
(`Outcome`). Only the times in it are left open, as nobody knows them before it is written.

Until the log is set up, a failure is told on the error stream; after that it is logged.
-/

namespace Telemetry.Command

open Config (Folder Settings)

/-- Where a program runs. -/
structure Site where
  /-- The working directory. -/
  directory : String
  /-- Whether somebody sees the output at a terminal. -/
  attended : Bool := false
  /-- The rules for the log that the environment has, if any. -/
  logRules : Option String := none
  deriving DecidableEq, Repr

/-- Something that a program writes. -/
inductive Output
  | text (content : String)
  | record (record : Log.Record)
  /-- The record of a simulation that has come to its end, which tells how long it took. -/
  | finished (summary : Simulation.Summary)
  deriving DecidableEq, Repr

/-- What a program has done. -/
structure Outcome where
  exitCode : Nat := 0
  output : List Output := []
  /-- The lines on the error stream. -/
  complaints : List String := []
  /-- What the configuration folder has become. -/
  saved : Option Folder := none
  /-- How log records are laid out. -/
  layout : Log.Layout := .plain
  deriving DecidableEq, Repr

/-- The record of a simulation that took some time. -/
def finishedRecord (summary : Simulation.Summary) (elapsed : String) : Log.Record :=
  ⟨.info, Simulation.source, "simulation finished",
    [("batches", .count summary.batches), ("events", .count summary.events),
      ("pending", .count summary.pending), ("elapsed", .shown elapsed)]⟩

/-- What is written of an output at a time. -/
def Output.render (layout : Log.Layout) (time elapsed : String) : Output → String
  | .text content => content
  | .record r => r.line layout time ++ "\n"
  | .finished summary => (finishedRecord summary elapsed).line layout time ++ "\n"

/-- A line as output. -/
def Output.line (content : String) : Output := .text (content ++ "\n")

/-- A failure before the log is set up. -/
def Outcome.failed (failure : Log.Failure) : Outcome :=
  { exitCode := 1, complaints := ["error: " ++ failure.text] }

/-- A configuration error as a failure, with what is wrong with the value. -/
def failureOf (e : Config.Error) : Log.Failure :=
  ⟨e.message, e.fault.toList.map (·.message)⟩

/-- What is done where a first configuration cannot be saved. -/
def Outcome.notSaved (path : String) (e : Config.Error) : Outcome :=
  .failed ⟨"could not initialize config in '" ++ path ++ "'", [e.message]⟩

/-- Writes a first configuration, unless there is one. -/
def initConfig (path : String) (folder : Folder) : Outcome :=
  if folder.hasConfig then
    { output := [.line ("There is already a config in '" ++ path ++ "'")] }
  else match folder.save path {} with
    | .ok saved =>
      { output := [.line ("Created new config in '" ++ path ++ "'")], saved := some saved }
    | .error e => .notSaved path e

/-- The settings in force and the path of the folder they come from, which is empty if they come
from none: those of the folder, if it has any, under those of the command line. -/
def settingsInForce (i : Invocation) (site : Site) (folder : Folder) :
    Except Config.Error (Settings × String) := do
  let path := if folder.hasConfig then Config.resolvePath site.directory i.folder else ""
  let settings ← if folder.hasConfig then folder.load path else .ok {}
  match settings.override i.overrides with
  | (settings, none) => .ok (settings, path)
  | (_, some e) => .error e

/-- Shows settings. -/
def showConfig (format : ShowFormat) (settings : Settings) (path : String) : Outcome :=
  let text := match format with
    | .yaml => Yaml.render settings.toJson
    | .debug => (settings.description path).indented ++ "\n"
  { output := [.text text] }

/-- The layout of the log. -/
def layoutOf (format : Config.LogFormat) (attended : Bool) : Log.Layout :=
  match format with
  | .auto => if attended then .coloured else .plain
  | .pretty => .coloured
  | .simplified => .plain
  | .json => .json

/-- Which records are shown, if that can be found out. -/
def filterOf? (level : Log.Level) : Option String → Option Log.Filter
  | none => some (.standard level)
  | some rules => Log.Filter.parse? rules

/-- What is written of a journal: the lines of the batches that were sent, and the log. -/
def journalOutput (filter : Log.Filter) :
    List (Events.Note Simulation.Event) → List Output :=
  List.filterMap fun
    | .record r => if filter.shows r then some (.record r) else none
    | note => (Simulation.lineOf? note).map .line

/-- The record of a failure that ends the program. -/
def failureRecord (message : String) : Log.Record := ⟨.error, "harvest_log::utils", message, []⟩

/-- A simulation after its start has been logged: what is noted on the way, and how it ends. -/
def runSimulation (settings : Settings) (options : Simulation.Options) (seed : UInt64) :
    List (Events.Note Simulation.Event) × Except String Simulation.Summary :=
  match Launch.connectMetrics settings {} with
  | .error e => ([], .error e.message)
  | .ok reporting =>
    let connected := reporting.logged.reverse.map Events.Note.record
    match Simulation.simulate settings options seed Simulation.oneByOne with
    | .error e => (connected, .error e.message)
    | .ok report => (connected ++ report.journal, .ok report.summary)

/-- What is done where reading the rules for the log comes to an end too early. -/
def Outcome.noFilter (complaints : List String) : Outcome :=
  { exitCode := 101
    complaints := complaints ++ ["", "a part of a rule would be cut inside a character"] }

/-- Runs a simulation. Its failures are logged, unless the settings are turned down before
there is a log. -/
def simulate (site : Site) (settings : Settings) (path : String) (options : Simulation.Options)
    (seed : UInt64) : Outcome :=
  match Launch.check settings with
  | .error refusal => .failed ⟨refusal.message, []⟩
  | .ok _ =>
    let complaints := (site.logRules.map Log.Filter.complaints).getD []
    match filterOf? settings.logging.level site.logRules with
    | none => .noFilter complaints
    | some filter =>
      let shown (r : Log.Record) (output : Output) : List Output :=
        if filter.shows r then [output] else []
      let (notes, ending) := runSimulation settings options seed
      let (exitCode, last) := match ending with
        | .ok summary => (0, shown (finishedRecord summary "") (.finished summary))
        | .error message => (1, shown (failureRecord message) (.record (failureRecord message)))
      { exitCode := exitCode
        output :=
          journalOutput filter ((Launch.summary settings path).map .record ++ notes) ++ last
        complaints := complaints
        layout := layoutOf settings.logging.format site.attended }

/-- **What an invocation does.** The seed is for a simulation that is given none. -/
def Invocation.perform (i : Invocation) (site : Site) (folder : Folder) (seed : UInt64) :
    Outcome :=
  match i.action with
  | .initConfig => initConfig i.folder folder
  | .showConfig format =>
    match settingsInForce i site folder with
    | .error e => .failed (failureOf e)
    | .ok (settings, path) => showConfig format settings path
  | .simulate options given =>
    match settingsInForce i site folder with
    | .error e => .failed (failureOf e)
    | .ok (settings, path) => simulate site settings path options (given.getD seed)

/-- The text on how to call the program. -/
def usageText : String :=
  "Usage: harvest [OPTIONS] <COMMAND>

Commands:
  config init    Initialize a new config folder
  config show    Show the entire config
  simulate       Run a load simulation against the engine

Options:
  -c, --config <CONFIG>              The path to the config folder [default: .harvest]
      --log-level <LOG_LEVEL>        The log level
      --statsd <STATSD>              Hostname and port of the statsd server
      --max-samples-stored <EVENTS>  Global reservoir capacity per application
      --report-period <SECS>         Interval between harvests in seconds
  -h, --help                         Print help
  -V, --version                      Print version"

/-- What is done where no command is run. -/
def Halt.outcome : Halt → Outcome
  | .usage => { exitCode := 2, complaints := [usageText] }
  | .help => { output := [.line usageText] }
  | .version => { output := [.line "harvest 0.4.0"] }

end Telemetry.Command
