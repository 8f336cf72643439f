import Remap.Value.Order

/-!
# Faults

A fault is a failure that a caller is meant to handle: it has a code, a message, and details to
act on. Codes from 2001 concern settings, from 3001 sources, from 4001 source maps.
-/

namespace Remap

inductive FaultCode where
  | settingsUnreadable
  | settingsInvalid
  | settingsMissing
  | sourceFlawed
  | languageUnsupported
  | mapUndecodable
  | mapMissing
deriving Repr, DecidableEq

namespace FaultCode

def all : List FaultCode :=
  [settingsUnreadable, settingsInvalid, settingsMissing, sourceFlawed, languageUnsupported,
    mapUndecodable, mapMissing]

def number : FaultCode → Nat
  | settingsUnreadable => 2001
  | settingsInvalid => 2002
  | settingsMissing => 2003
  | sourceFlawed => 3001
  | languageUnsupported => 3002
  | mapUndecodable => 4001
  | mapMissing => 4002

def name : FaultCode → String
  | settingsUnreadable => "CONFIG_PARSE_ERROR"
  | settingsInvalid => "CONFIG_INVALID_VALUE"
  | settingsMissing => "CONFIG_FILE_NOT_FOUND"
  | sourceFlawed => "SOURCE_SYNTAX_ERROR"
  | languageUnsupported => "SOURCE_UNSUPPORTED_LANGUAGE"
  | mapUndecodable => "SOURCE_MAP_DECODE_ERROR"
  | mapMissing => "SOURCE_MAP_NOT_FOUND"

/-- The code with a number, which may be given as any value that is the same. -/
def ofNumber? (n : Value) : Option FaultCode := all.find? fun code => Value.int code.number == n

theorem ofNumber?_number (code : FaultCode) : ofNumber? (.int code.number) = some code := by
  cases code <;> decide

end FaultCode

/-- What a fault is about; a fault of no particular subject is general. -/
inductive FaultSubject where
  | general
  | settings
  | source
  | sourceMap
deriving Repr, DecidableEq

/-- What a fault was made with is kept as it was given: the message is as a rule a text, and the
details are a table. -/
structure Fault where
  subject : FaultSubject
  code : FaultCode
  message : Value
  retryable : Value := .bool false
  details : Value := .table []
deriving Repr

namespace Fault

/-- One line for people: number, name and message. -/
def display (fault : Fault) : String :=
  s!"[{fault.code.number}] {fault.code.name}: {fault.message.display}"

/-- The fault as a table for other programs. -/
def toValue (fault : Fault) : Value :=
  .record [("code", .int fault.code.number), ("error", .str fault.code.name),
    ("message", fault.message), ("retryable", fault.retryable), ("details", fault.details)]

def settingsUnreadable (path reason : Value) : Fault where
  subject := .settings
  code := .settingsUnreadable
  message := .str s!"Failed to parse config at {path.display}: {reason.display}"
  details := .record [("path", path), ("reason", reason)]

def settingsInvalid (field value reason : Value) : Fault where
  subject := .settings
  code := .settingsInvalid
  message := .str s!"Invalid value for '{field.display}': {reason.display}"
  details := .record [("field", field), ("value", .str value.display), ("reason", reason)]

def settingsMissing (path : Value) : Fault where
  subject := .settings
  code := .settingsMissing
  message := .str s!"Config file not found: {path.display}"
  details := .record [("path", path)]

def sourceFlawed (language line column : Value) : Fault where
  subject := .source
  code := .sourceFlawed
  message :=
    .str s!"Syntax error in {language.display} source at {line.display}:{column.display}"
  details := .record [("language", language), ("line", line), ("column", column)]

def languageUnsupported (language : Value) : Fault where
  subject := .source
  code := .languageUnsupported
  message := .str s!"Language not available: {language.display}"
  details := .record [("language", language)]

def mapUndecodable (reason : Value) : Fault where
  subject := .sourceMap
  code := .mapUndecodable
  message := .str s!"Failed to decode source map: {reason.display}"
  details := .record [("reason", reason)]

def mapMissing (path : Value) : Fault where
  subject := .sourceMap
  code := .mapMissing
  message := .str s!"Source map not found: {path.display}"
  details := .record [("path", path)]

/-- The fault with a code for what it is about, if that is the number of things it takes. -/
def ofCode? : FaultCode → List Value → Option Fault
  | .settingsUnreadable, [path, reason] => some (settingsUnreadable path reason)
  | .settingsInvalid, [field, value, reason] => some (settingsInvalid field value reason)
  | .settingsMissing, [path] => some (settingsMissing path)
  | .sourceFlawed, [language, line, column] => some (sourceFlawed language line column)
  | .languageUnsupported, [language] => some (languageUnsupported language)
  | .mapUndecodable, [reason] => some (mapUndecodable reason)
  | .mapMissing, [path] => some (mapMissing path)
  | _, _ => none

end Fault

end Remap
