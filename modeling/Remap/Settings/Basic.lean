import Remap.Settings.Extensions
import Remap.Settings.Logging

/-!
# Settings

What can be set: where and how events are logged, and which files are parsed by which grammar.
Settings are read from a value with `Settings.ofValue`, which checks every member and takes the
default of each that is missing, and are written back with `Settings.toValue`. Keys that name no
setting are passed over.
-/

namespace Remap

structure ParserSettings where
  enabled : Bool := true
  extensions : Extensions := .default
deriving Repr, DecidableEq

namespace ParserSettings

def checkExtensions (value : Value) : Check Extensions := do
  match Extensions.normalise (← Check.texts value) with
  | .ok extensions => return extensions
  | .error unknown => Check.refuse (.unknownGrammar unknown.grammar unknown.extension) value

def ofValue (value : Value) : Check ParserSettings := do
  let entries ← Check.group "ParserConfig" value
  let (enabled, extensions) ←
    Check.both (Check.setting entries "enabled" true Check.flag)
      (Check.setting entries "extensions" Extensions.default checkExtensions)
  return { enabled, extensions }

def toValue (settings : ParserSettings) : Value :=
  .record [("enabled", .bool settings.enabled),
    ("extensions", .record (settings.extensions.map fun (extension, grammar) =>
      (extension, .str grammar)))]

/-- The name of the grammar that parses a file, if it is to be parsed at all. -/
def grammarFor (settings : ParserSettings) (path : Path) : Option String :=
  if settings.enabled then settings.extensions.grammarFor path else none

end ParserSettings

structure Settings where
  logging : LogSettings := {}
  parser : ParserSettings := {}
deriving Repr, DecidableEq

namespace Settings

/-- The names of the groups of settings. -/
def groupNames : List String := ["logging", "parser"]

/-- The settings that entries hold, with defaults for what they do not. -/
def ofEntries (homes : Homes) (entries : List (Scalar × Value)) : Check Settings :=
  (Check.both (Check.setting entries "logging" {} (LogSettings.ofValue homes))
    (Check.setting entries "parser" {} ParserSettings.ofValue)).map
      fun (logging, parser) => { logging, parser }

def ofValue (homes : Homes) (value : Value) : Check Settings := do
  ofEntries homes (← Check.group "CovmapConfig" value)

/-- The same where every entry must be a setting. -/
def ofKnownEntries (homes : Homes) (entries : List (String × Value)) : Check Settings :=
  let unexpected := Check.all (entries.filterMap fun (name, value) =>
    if groupNames.contains name then none
    else some ((Check.refuse .unexpected value : Check Unit).under (.key name)))
  (Check.both (ofEntries homes (entries.map fun (name, value) => (.str name, value)))
    unexpected).map Prod.fst

def toValue (settings : Settings) : Value :=
  .record [("logging", settings.logging.toValue), ("parser", settings.parser.toValue)]

end Settings

end Remap
