import Orchestration.Disk.Basic
import Orchestration.Project.Config
import Orchestration.Yaml.Source

/-!
# Reading configurations

* `ProjectConfig.ofText` — a configuration from its text, with its rules checked;
* `configDir` — the directory that a configuration file lies in;
* `ProjectConfig.load` — a configuration from its file.
-/

namespace Orchestration

/-- Why a text is no configuration. -/
def ConfigFault.ofDocument : Yaml.DocumentFault → ConfigFault
  | .malformed => .notADocument
  | .undecodable e => .undecodable e.message

/-- The directory that a configuration file lies in. -/
def configDir (path : String) : String :=
  match parentPath? path with
  | some dir => if dir.isEmpty then "." else dir
  | none => "."

namespace ProjectConfig

/-- The configuration that a text describes, for a project in a directory. -/
def ofText (rootDir text : String) : Except ConfigFault ProjectConfig := do
  let c ← (Yaml.decodeDocument (read rootDir) text).mapError ConfigFault.ofDocument
  c.validate
  return c

/-- The text of a configuration file. -/
def readText (d : Disk) (cwd : Place) (path : String) : Except ConfigFault String :=
  match d.read cwd path with
  | .error fault => .error (.unreadable path fault)
  | .ok t =>
    match t.strict? with
    | .ok text => .ok text
    | .error _ => .error (.unreadable path (.described "stream did not contain valid UTF-8"))

/-- The configuration in a file. -/
def load (d : Disk) (cwd : Place) (path : String) : Except ConfigFault ProjectConfig := do
  ofText (configDir path) (← readText d cwd path)

end ProjectConfig

end Orchestration
