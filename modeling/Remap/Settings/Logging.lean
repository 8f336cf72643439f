import Remap.Log.Severity
import Remap.Path
import Remap.Settings.Check

/-!
# Settings of the log

From which severity on events are logged, and to which outputs. The destination of an output is a
standard stream or a file, whose path must be absolute once its home component is expanded. No user
has a name with a null character in it.

`Homes` gives the home directory of a user, a path that neither is empty nor starts with a tilde; the
empty name is the user who runs the program.
-/

namespace Remap

abbrev Homes := String → Option String

inductive LogFormat where
  | json
  | console
deriving Repr, DecidableEq

def LogFormat.choices : List (String × LogFormat) := [("json", .json), ("console", .console)]

def LogFormat.name : LogFormat → String
  | json => "json"
  | console => "console"

/-- Where an output goes: to a standard stream, or to a file with an absolute path. -/
inductive Destination where
  | stderr
  | stdout
  | file (path : Path)
deriving Repr, DecidableEq

namespace Destination

def display : Destination → String
  | stderr => "stderr"
  | stdout => "stdout"
  | file path => path.display

def check (homes : Homes) (value : Value) : Check Destination := do
  match ← Check.text value with
  | "stderr" => return stderr
  | "stdout" => return stdout
  | text =>
    let given := Path.ofText text
    if given.homeUser?.any (·.contains '\x00') then Check.refuse .nullInUser value
    else match given.expandHome homes with
    | none => throw (.unknownHome (given.components.headD ""))
    | some path =>
      if path.isAbsolute then return file path
      else Check.refuse (.relativeDestination text) value

end Destination

def Severity.choices : List (String × Severity) := Severity.all.map fun s => (s.name, s)

/-- One place that events are written to; without a level of its own it has that of the log. -/
structure LogOutput where
  format : LogFormat := .console
  destination : Destination := .stderr
  level : Option Severity := none
deriving Repr, DecidableEq

namespace LogOutput

def ofValue (homes : Homes) (value : Value) : Check LogOutput := do
  let entries ← Check.group "LogOutputConfig" value
  let (format, destination, level) ←
    Check.both (Check.setting entries "format" LogFormat.console (Check.choice LogFormat.choices))
      (Check.both (Check.setting entries "destination" .stderr (Destination.check homes))
        (Check.setting entries "level" none (Check.optionalChoice Severity.choices)))
  return { format, destination, level }

def toValue (output : LogOutput) : Value :=
  .record [("format", .str output.format.name), ("destination", .str output.destination.display),
    ("level", match output.level with | some level => .str level.name | none => .null)]

end LogOutput

structure LogSettings where
  level : Severity := .info
  outputs : List LogOutput := [{}]
deriving Repr, DecidableEq

namespace LogSettings

def ofValue (homes : Homes) (value : Value) : Check LogSettings := do
  let entries ← Check.group "LoggingConfig" value
  let (level, outputs) ←
    Check.both (Check.setting entries "level" .info (Check.choice Severity.choices))
      (Check.setting entries "outputs" [{}] (Check.items (LogOutput.ofValue homes)))
  return { level, outputs }

def toValue (settings : LogSettings) : Value :=
  .record [("level", .str settings.level.name),
    ("outputs", .list (settings.outputs.map LogOutput.toValue))]

end LogSettings

end Remap
