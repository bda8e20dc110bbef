import Telemetry.Config.Override
import Telemetry.Dict
import Telemetry.Double.Reader
import Telemetry.Simulation.Load

/-!
# The command line

A command line names a command by one or two words, with options before, between and after
them. Each word has its own level: options of the settings may stand at any level, those of a
command only after it, and none twice at the same level. Where an option is given at several
levels the innermost counts; the environment comes after the command line, and the default
after the environment (`Levels.value?`).

The first word that is wrong, or that asks for help, ends the reading. The value of the last
option in front of a word of a command is looked at only after the words behind it; so they may
ask for help whatever it is.
-/

namespace Telemetry.Command

/-- An option. Every option takes a value. -/
structure Flag where
  long : String
  short : Option Char := none
  /-- Whether a text can be its value. -/
  accepts : String → Bool := fun _ => true

/-- Whether a text is a number of 64 bits. -/
def isNatural (text : String) : Bool := (Text.natural? text).isSome

/-- Whether a text is a double. -/
def isDouble (text : String) : Bool := (Double.parse? text).isSome

/-- The options that stand for settings. -/
def settingFlags : List Flag :=
  [⟨"config", some 'c', (· ≠ "")⟩, ⟨"log-level", none, fun _ => true⟩,
    ⟨"statsd", none, fun _ => true⟩, ⟨"max-samples-stored", none, fun _ => true⟩,
    ⟨"report-period", none, fun _ => true⟩]

/-- How a configuration is shown. -/
inductive ShowFormat
  | yaml
  | debug
  deriving DecidableEq, Repr

/-- The format of a name. -/
def ShowFormat.ofName? : String → Option ShowFormat
  | "yaml" => some .yaml
  | "debug" => some .debug
  | _ => none

/-- A place in a command line: after none of the words of a command, or after some. -/
inductive Place
  | top
  | config
  | configInit
  | configShow
  | simulate
  deriving DecidableEq, Repr

/-- The options that may stand in a place. -/
def Place.flags : Place → List Flag
  | .configShow => settingFlags ++ [⟨"format", some 'f', fun t => (ShowFormat.ofName? t).isSome⟩]
  | .simulate => settingFlags ++
    [⟨"apps", none, isNatural⟩, ⟨"producers", none, isNatural⟩, ⟨"cycles", none, isNatural⟩,
      ⟨"events-per-cycle", none, isNatural⟩, ⟨"synthetic-ratio", none, isDouble⟩,
      ⟨"fail-rate", none, isDouble⟩, ⟨"seed", none, isNatural⟩]
  | _ => settingFlags

/-- Why no command is run. -/
inductive Halt
  /-- The command line cannot be understood. -/
  | usage
  /-- It asks for help. -/
  | help
  /-- It asks for the version. -/
  | version
  deriving DecidableEq, Repr

/-- What a word is in its place. -/
inductive Word
  /-- No option. -/
  | plain
  | halt (reason : Halt)
  /-- An option, whose value may be part of the word. -/
  | flag (flag : Flag) (value : Option String)

/-- Whether a word looks like an option; a single dash does not. -/
def isDashed (word : String) : Bool := word.startsWith "-" && word ≠ "-"

/-- A word that starts with two dashes, without them: a name, or name and value around an
equals sign. -/
def longWord (here : Place) (cs : List Char) : Word :=
  let name := String.ofList (cs.takeWhile (· ≠ '='))
  let value := match cs.dropWhile (· ≠ '=') with
    | [] => none
    | _ :: value => some (String.ofList value)
  if name = "help" && value.isNone then .halt .help
  else if name = "version" && value.isNone && here = .top then .halt .version
  else match here.flags.find? (·.long = name) with
    | some f => .flag f value
    | none => .halt .usage

/-- A word that starts with one dash, without it: a letter, and perhaps the value. -/
def shortWord (here : Place) (c : Char) (cs : List Char) : Word :=
  if c = 'h' then .halt .help
  else if c = 'V' && here = .top then .halt .version
  else match here.flags.find? (·.short = some c), cs with
    | some f, [] => .flag f none
    | some f, '=' :: value => .flag f (some (String.ofList value))
    | some f, value => .flag f (some (String.ofList value))
    | none, _ => .halt .usage

/-- What a word is. -/
def classify (here : Place) (word : String) : Word :=
  match word.toList with
  | '-' :: '-' :: cs => longWord here cs
  | '-' :: c :: cs => shortWord here c cs
  | _ => .plain

/-- Adds the value of an option to those given in the same place. -/
def giveValue (given : Dict String) (f : Flag) (value : String) : Except Halt (Dict String) :=
  if f.accepts value && !given.contains f.long then .ok (given.insert f.long value)
  else .error .usage

/-- The options given in a place. A value that is a word of its own is not looked at before the
next option of the same place, or the end of all that follows: until then it is the `latest`. -/
structure Given where
  values : Dict String := .empty
  latest : Option (Flag × String) := none

/-- The values by the names of the options, with the latest. -/
def Given.settle (given : Given) : Except Halt (Dict String) :=
  match given.latest with
  | none => .ok given.values
  | some (f, value) => giveValue given.values f value

/-- **Reads the options in a place**: what is given, and the words from the first one on that is
no option. Two dashes end a command line. -/
def readFlags (here : Place) (given : Given) : List String → Except Halt (Given × List String)
  | [] => .ok (given, [])
  | ["--"] => .ok (given, [])
  | "--" :: _ => .error .usage
  | word :: rest =>
    match classify here word with
    | .plain => .ok (given, word :: rest)
    | .halt reason => do
      let _ ← given.settle
      .error reason
    | .flag f (some value) => do
      readFlags here { values := ← giveValue (← given.settle) f value } rest
    | .flag f none =>
      match rest with
      | [] => .error .usage
      | value :: rest =>
        if isDashed value then .error .usage
        else do readFlags here ⟨← given.settle, some (f, value)⟩ rest

/-- Reads the options after the last word of a command. -/
def readLast (here : Place) (words : List String) : Except Halt (Dict String) := do
  match ← readFlags here {} words with
  | (given, []) => given.settle
  | (_, _ :: _) => .error .usage

/-- What the environment says about settings. -/
structure Environment where
  folder : Option String := none
  logLevel : Option String := none
  statsd : Option String := none
  deriving DecidableEq, Repr, Inhabited

/-- The variables that say it. -/
def Environment.variables : List String :=
  ["HARVEST_CONFIG_PATH", "HARVEST_LOG_LEVEL", "HARVEST_STATSD_ADDR"]

/-- The environment of the values of the variables. -/
def Environment.ofVariables (value? : String → Option String) : Environment where
  folder := value? "HARVEST_CONFIG_PATH"
  logLevel := value? "HARVEST_LOG_LEVEL"
  statsd := value? "HARVEST_STATSD_ADDR"

/-- The values given at the levels of a command line, innermost first. -/
abbrev Levels := List (Dict String)

/-- The value of an option. -/
def Levels.value? (levels : Levels) (name : String) : Option String :=
  levels.findSome? (·.get? name)

/-- What to do. -/
inductive Action
  | initConfig
  | showConfig (format : ShowFormat)
  /-- Without a seed, one is drawn. -/
  | simulate (options : Simulation.Options) (seed : Option UInt64)

/-- A command with the settings to run it with. -/
structure Invocation where
  folder : String := ".harvest"
  overrides : Config.Overrides := {}
  action : Action

/-- The options of a simulation. -/
def simulationOptions (given : Dict String) : Simulation.Options :=
  let standard : Simulation.Options := {}
  let number (name : String) (otherwise : Nat) : Nat :=
    ((given.get? name).bind Text.natural?).getD otherwise
  let share (name : String) (otherwise : Float) : Float :=
    ((given.get? name).bind Double.parse?).getD otherwise
  { apps := number "apps" standard.apps
    producers := number "producers" standard.producers
    cycles := number "cycles" standard.cycles
    eventsPerCycle := number "events-per-cycle" standard.eventsPerCycle
    syntheticRatio := share "synthetic-ratio" standard.syntheticRatio
    failRate := share "fail-rate" standard.failRate }

/-- The invocation of an action. A folder without a name cannot come from the environment
either, unless no level looks there. -/
def invoke (env : Environment) (levels : Levels) (action : Action) : Except Halt Invocation :=
  if env.folder = some "" ∧ ¬ levels.all (·.contains "config") then .error .usage
  else .ok {
    folder := ((levels.value? "config").or env.folder).getD ".harvest"
    overrides := {
      logLevel := (levels.value? "log-level").or env.logLevel
      statsd := (levels.value? "statsd").or env.statsd
      maxSamplesStored := levels.value? "max-samples-stored"
      reportPeriod := levels.value? "report-period" }
    action := action }

/-- What words after `help` ask for: help about a command, if they name one. -/
def helpAbout (commands : List (List String)) (words : List String) : Halt :=
  if commands.any (words.isPrefixOf ·) then .help else .usage

/-- Reads a command about the configuration, after its first word. -/
def parseConfig (env : Environment) (outer : Given) (words : List String) :
    Except Halt Invocation := do
  let (middle, words) ← readFlags .config {} words
  match words with
  | "init" :: words =>
    let inner ← readLast .configInit words
    invoke env [inner, ← middle.settle, ← outer.settle] .initConfig
  | "show" :: words =>
    let inner ← readLast .configShow words
    invoke env [inner, ← middle.settle, ← outer.settle]
      (.showConfig (((inner.get? "format").bind ShowFormat.ofName?).getD .yaml))
  | "help" :: words => .error (helpAbout [["init"], ["show"], ["help"]] words)
  | _ => .error .usage

/-- **Reads a command line.** -/
def Invocation.parse (env : Environment) (words : List String) : Except Halt Invocation := do
  let (outer, words) ← readFlags .top {} words
  match words with
  | "config" :: words => parseConfig env outer words
  | "simulate" :: words =>
    let inner ← readLast .simulate words
    let seed := ((inner.get? "seed").bind Text.natural?).map Nat.toUInt64
    invoke env [inner, ← outer.settle] (.simulate (simulationOptions inner) seed)
  | "help" :: words =>
    .error (helpAbout [["config", "init"], ["config", "show"], ["config", "help"], ["simulate"],
      ["help"]] words)
  | _ => .error .usage

end Telemetry.Command
