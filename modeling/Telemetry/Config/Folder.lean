import Telemetry.Config.Encode
import Telemetry.Config.FromYaml
import Telemetry.Text.Split
import Telemetry.Yaml.Printer

/-!
# The configuration folder

A configuration is a file of a fixed name in a folder. What can be done with a folder depends
on what is found in its place and under that name (`Folder`): settings are loaded from the
file, and a first file with a section of event settings is saved in a folder that is made if
need be.
-/

namespace Telemetry.Config

/-- What a path leads to, seen from a folder: a path from the root stands for itself. -/
def resolvePath (folder name : String) : String :=
  if name.startsWith "/" ∨ folder.isEmpty then name
  else if folder.endsWith "/" then folder ++ name
  else folder ++ "/" ++ name

/-- The path of the configuration file in a folder. -/
def filePath (folder : String) : String := resolvePath folder "config.yml"

/-- The most bytes that a name in a path can have. -/
def maxNameBytes : Nat := 255

/-- The most bytes that a path can have. -/
def maxPathBytes : Nat := 4095

/-- Whether anything can be found or made under a path. -/
def canBePath (path : String) : Bool :=
  !path.contains '\x00' && path.utf8ByteSize ≤ maxPathBytes &&
    (Text.parts '/' path).all (·.utf8ByteSize ≤ maxNameBytes)

/-- What is found under the name of the configuration file. -/
inductive Entry
  | nothing
  /-- A folder, which can be opened but not read. -/
  | folder
  | file (text : String)
  deriving DecidableEq, Repr

/-- What is found in the place of the configuration folder. -/
inductive Folder
  /-- Nothing, and the folder can be made. -/
  | missing
  /-- Nothing, and something stands in the way of making it. -/
  | blocked
  /-- Something that is no folder. -/
  | taken
  | present (entry : Entry)
  deriving DecidableEq, Repr

namespace Folder

/-- Whether there is something under the name of the configuration file. -/
def hasConfig : Folder → Bool
  | .present .nothing => false
  | .present _ => true
  | _ => false

/-- **Loads the settings of a folder.** -/
def load (path : String) : Folder → Except Error Settings
  | .present (.file text) => Settings.ofYaml (filePath path) text
  | .present .folder => .error { kind := .badYaml, origin := .file (filePath path) }
  | _ => .error { kind := .cannotOpen, origin := .file (filePath path) }

/-- **Saves event settings in a folder**: what the folder is then. -/
def save (path : String) (s : EventSettings) : Folder → Except Error Folder
  | .blocked => .error { kind := .cannotOpen, origin := .file path }
  | .taken => .error { kind := .cannotWrite, origin := .file (filePath path) }
  | .present .folder => .error { kind := .cannotWrite, origin := .file (filePath path) }
  | _ => .ok (.present (.file (Yaml.render s.toSection ++ "\n")))

end Folder

end Telemetry.Config
