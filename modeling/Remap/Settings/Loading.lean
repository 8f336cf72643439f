import Remap.Fault
import Remap.Settings.Basic
import Remap.Settings.Environment
import Remap.Settings.Layers
import Remap.Yaml.Document

/-!
# Loading settings

Settings files are YAML texts whose root is a mapping; a root that stands for nothing, such as null
or an empty list, is an empty mapping, and a file that is not there is one too. `Settings.load` lays
the files, the environment and the arguments over each other, checks the result, and checks once
more what the settings are written as.

What a user is expected to mend is a fault. Errors of other kinds, such as a file that is no UTF-8
text, are no faults; nor is a refused value whose text cannot be shown, because of an integer with too
many digits in it.
-/

namespace Remap

/-! ## Files -/

inductive FileError where
  /-- There is a directory in the place of the file. -/
  | directory
  /-- The bytes are no UTF-8 text. -/
  | encoding
  | yaml (error : Yaml.Error)
  /-- The root is something else than a mapping. -/
  | root
deriving Repr, DecidableEq

/-- The entries of a settings file, given what is found in its place. -/
def readSettings : Path.Content → Except FileError (List (Scalar × Value))
  | .nothing => return []
  | .directory => throw .directory
  | .file bytes => do
    let some text := Text.decode? bytes | throw .encoding
    let value ← (Yaml.read text).mapError .yaml
    match value.opened with
    | .table entries => return entries
    | opened => if opened.isTrivial then return [] else throw .root

/-- The part that one layer plays for a field of settings: its value, the field, and whether the
layer has a value for it. A null counts as none. -/
def layerField (entries : List (Scalar × Value)) (field : String) : Value × String × Bool :=
  let value := (entries.lookup (.str field)).getD .null
  (value, field, !value.isNull)

/-! ## Loading -/

inductive LoadError where
  | missing (path : Path)
  | file (path : String) (error : FileError)
  /-- The files hold tables that contain themselves along the same keys. -/
  | endless
  | environment (error : Environment.BadVariable)
  /-- A key of the merged layers that is no text. -/
  | key (key : Scalar)
  | refused (refusal : Refusal)
  /-- The refusal of a value that holds an integer with too many digits to be shown. -/
  | unwritable
  /-- The refusal of what settings are written as, though the settings have been checked. -/
  | written (refusal : Refusal)
deriving Repr, DecidableEq

namespace LoadError

/-- The error for a refusal, of whose issues the first is to be shown. -/
def ofRefusal : Refusal → LoadError
  | .issues first more =>
    if first.input.holdsLongInteger then unwritable else refused (.issues first more)
  | refusal => refused refusal

/-- The fault of an error that a user is expected to mend. -/
def fault? : LoadError → Option Fault
  | missing path => some (.settingsMissing path.display)
  | file path .root => some (.settingsUnreadable path "top level must be a mapping")
  | file path (.yaml .malformed) => some (.settingsUnreadable path "not a YAML document")
  | refused (.issues first _) =>
    some (.settingsInvalid first.field first.input first.cause.message)
  | _ => none

end LoadError

/-- A settings file named by the caller. -/
structure NamedFile where
  path : Path
  content : Path.Content

/-- Where settings are loaded from. -/
structure SettingsSources where
  commonPath : String
  common : Path.Content := .nothing
  projectPath : String
  project : Path.Content := .nothing
  /-- A file that takes the place of that of the project. -/
  named : Option NamedFile := none
  environment : Environment.Variables := []
  arguments : List (String × Value) := []

namespace Settings

/-- The settings that merged layers hold, whose keys must be texts and name settings. -/
def ofMerged (homes : Homes) (entries : List (Scalar × Value)) : Except LoadError Settings := do
  let named ← entries.mapM fun
    | (.str name, value) => .ok (name, value)
    | (key, _) => .error (.key key)
  (ofKnownEntries homes named).mapError .ofRefusal

/-- Arguments as entries. The name of a group of settings may have any casing; of several spellings
of one name the first counts. -/
def argumentEntries (arguments : List (String × Value)) : List (Scalar × Value) :=
  let groups := groupNames.filterMap fun group =>
    (arguments.find? fun (name, _) => Text.lowercase name = group).map fun (_, value) =>
      (.str group, value)
  let others := arguments.filter fun (name, _) => !groupNames.contains (Text.lowercase name)
  groups ++ others.map fun (name, value) => (.str name, value)

/-- A file that the caller names must be there. -/
def findNamed (sources : SettingsSources) : Except LoadError Unit :=
  match sources.named with
  | some ⟨path, .nothing⟩ => .error (.missing path)
  | _ => .ok ()

/-- The entries of the file of the project, or of the one named in its place. -/
def readProject (sources : SettingsSources) : Except LoadError (List (Scalar × Value)) :=
  match sources.named with
  | some ⟨path, content⟩ => (readSettings content).mapError (.file path.display)
  | none => (readSettings sources.project).mapError (.file sources.projectPath)

/-- The entries of a project's file opened along those of the file for all projects. -/
def openProject (common project : List (Scalar × Value)) :
    Except LoadError (List (Scalar × Value)) :=
  match Value.openEntries? common project with
  | some opened => .ok opened
  | none => .error .endless

def readLayers (sources : SettingsSources) : Except LoadError Layers := do
  findNamed sources
  let common ← (readSettings sources.common).mapError (.file sources.commonPath)
  let project ← openProject common (← readProject sources)
  let environment ← (Environment.read sources.environment).mapError .environment
  return { common, project, environment, arguments := argumentEntries sources.arguments }

/-- Checks what settings are written as. -/
def recheck (homes : Homes) (settings : Settings) : Except LoadError Settings :=
  (ofValue homes settings.toValue).mapError .written

def load (homes : Homes) (sources : SettingsSources) : Except LoadError Settings := do
  recheck homes (← ofMerged homes (← readLayers sources).merged)

end Settings

end Remap
