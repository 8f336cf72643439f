import Remap.Json.Reader
import Remap.Text.Affix
import Remap.Text.Lowercase
import Remap.Text.Split
import Remap.Value.Merge

/-!
# Settings in the environment

Variables whose names start with `COVMAP__` set groups of settings, in any casing. `COVMAP__LOGGING`
holds a whole group as JSON; `COVMAP__LOGGING__LEVEL` holds one setting as text and wins over the
same setting in the group. Further parts of a name, each after two underscores, lead into the value
of a setting. Settings that are lists or tables are given as JSON, unless nothing at all is given.
-/

namespace Remap.Environment

/-- Names and values of variables. -/
abbrev Variables := List (String × String)

/-- A variable that should hold JSON and does not. -/
structure BadVariable where
  name : String
deriving Repr, DecidableEq

/-- A group of settings: its name, those of its settings, and which of them are given as JSON. -/
structure Group where
  name : String
  settings : List String
  structured : List String

def groups : List Group :=
  [⟨"logging", ["level", "outputs"], ["outputs"]⟩,
    ⟨"parser", ["enabled", "extensions"], ["extensions"]⟩]

def lead : String := "covmap__"

/-- Variables by their names in small letters. -/
def caseless (vars : Variables) : Variables :=
  Assoc.ofList (vars.map fun (name, text) => (Text.lowercase name, text))

/-! ## Single settings -/

/-- Sets the value at `last` within the tables at `keys`. Where something else than a table is in
the way nothing is set. -/
def put (entries : List (Scalar × Value)) (last : String) (value : Value) :
    List String → List (Scalar × Value)
  | [] => Assoc.put entries (.str last) value
  | key :: keys => match entries.lookup (.str key) with
    | some (.table inner) => Assoc.put entries (.str key) (.table (put inner last value keys))
    | some _ => entries
    | none => Assoc.put entries (.str key) (.table (put [] last value keys))

/-- The names that lead from a group to the value of a variable, if it is in the group. -/
def pathIn? (group : Group) (name : String) : Option (List String) :=
  (Text.after? (lead ++ group.name ++ "__").toList name.toList).map fun path =>
    (Text.splitOnDouble '_' path).map String.ofList

/-- The value of a variable whose text stands for the setting at a path. -/
def settingValue (group : Group) (path : List String) (name text : String) :
    Except BadVariable Value :=
  if group.structured.any (path = [·]) && text ≠ "" then
    (Json.parse text.toList).mapError fun _ => ⟨name⟩
  else .ok (.str text)

/-- The settings of a group that have variables of their own. -/
def singleSettings (vars : Variables) (group : Group) : Except BadVariable (List (Scalar × Value)) :=
  vars.foldlM (fun entries (name, text) => do
    let some path := pathIn? group name | return entries
    let value ← settingValue group path name text
    return put entries (path.getLast?.getD "") value path.dropLast) []

/-! ## Groups -/

/-- Entries under the names of settings, whatever their casing was. -/
def nameSettings (group : Group) (entries : List (Scalar × Value)) : List (Scalar × Value) :=
  Assoc.ofList (entries.map fun (key, value) => match key with
    | .str name =>
      let small := Text.lowercase name
      (.str (if group.settings.contains small then small else name), value)
    | key => (key, value))

/-- A group, if the environment holds any of it. A group given as null is not given, and takes its
single settings with it. -/
def groupValue (vars : Variables) (group : Group) : Except BadVariable (Option Value) := do
  match vars.lookup (lead ++ group.name) with
  | none =>
    let single ← singleSettings vars group
    return if single.isEmpty then none else some (.table (nameSettings group single))
  | some text => match Json.parse text.toList with
    | .error _ => throw ⟨lead ++ group.name⟩
    | .ok (.table entries) =>
      let single ← singleSettings vars group
      return some (.table (nameSettings group (Value.overlayEntries entries single)))
    | .ok value => return if value.isNull then none else some value

/-- All that the environment sets. -/
def read (vars : Variables) : Except BadVariable (List (Scalar × Value)) := do
  let vars := caseless vars
  let values ← groups.mapM (groupValue vars)
  return (groups.zip values).filterMap fun (group, value) =>
    value.map fun value => (.str group.name, value)

end Remap.Environment
