import Remap.Log.Record

/-!
# Lines of a log

How a record is written to an output: as a JSON object, or as a text for people, in which the
fields follow the event in the order of their keys. Event, severity and time have places of their
own, so fields that are called like them are left out. Two further fields that name a logger stand in
brackets, and those that tell of an error and of the way to it follow on lines of their own.
-/

namespace Remap.Record

/-- Names of fields that are never written. -/
def hiddenNames : List String := ["event", "level", "timestamp", "_record", "_from_structlog"]

/-- The fields of a record that are written as such. -/
def ownFields (record : Record) : List (String × Value) :=
  record.fields.filter fun (key, _) => !hiddenNames.contains key

/-- The record as an object, without its time. -/
def toValue (record : Record) : Value :=
  .record (record.ownFields ++ (record.event.map fun event => ("event", event)).toList ++
    [("level", .str record.severity.label)])

/-! ## Text for people -/

/-- Whether a text has to be quoted to be told from what is around it. -/
def needsQuotes (text : String) : Bool :=
  text.toList.any [' ', '\t', '\r', '\n', '=', '"', '\x27'].contains

def fieldText : Value → String
  | .scalar (.str text) => if needsQuotes text then Text.quote text else text
  | value => value.quoted

/-- Names of fields that stand in brackets after the event. -/
def loggerNames : List String := ["logger", "logger_name"]

/-- The field with the way to an error. -/
def stackField : String := "stack"

/-- The field with the text of an error. -/
def errorField : String := "exception"

/-- The field that says whether there is an error. -/
def errorFlagField : String := "exc_info"

/-- The text of a field, if it is given and not null. -/
def noteText? (record : Record) (field : String) : Option String :=
  (record.ownFields.lookup field).bind fun value =>
    if value.isNull then none else some value.display

def hasErrorFlag (record : Record) : Bool :=
  (record.ownFields.lookup errorFlagField).any fun value => !value.isTrivial

/-- The fields that are written with their names, in the order of those. -/
def namedFields (record : Record) : List (String × Value) :=
  let apart := loggerNames ++ [stackField, errorField, errorFlagField]
  (record.ownFields.filter fun (key, _) => !apart.contains key).mergeSort fun a b => a.1 ≤ b.1

/-- The first line: time, severity, event and fields. -/
def headline (time : String) (record : Record) : String :=
  let loggers := loggerNames.filterMap fun name =>
    (record.ownFields.lookup name).map fun value => "[" ++ value.display ++ "]"
  let fields := record.namedFields.map fun (key, value) => key ++ "=" ++ fieldText value
  let event := (record.event.map Value.display).toList
  let parts := [time, "[" ++ record.severity.label ++ "]"] ++ event ++ loggers ++ fields
  let line := " ".intercalate (parts.filter (!·.isEmpty))
  String.ofList (line.toList.reverse.dropWhile (· = ' ')).reverse

/-- A line between the way to an error and the error. -/
def rule : String := String.ofList (List.replicate 79 '=')

/-- What follows the first line: the way to an error, and the text of the error. -/
def notes (record : Record) : String :=
  let error? := record.noteText? errorField
  let stack := match record.noteText? stackField with
    | some stack =>
      "\n" ++ stack ++
        (if record.hasErrorFlag || error?.isSome then "\n\n" ++ rule ++ "\n" else "")
    | none => ""
  stack ++ (match error? with | some error => "\n" ++ error | none => "")

/-- The record as a text for people, of one line or more. -/
def consoleText (time : String) (record : Record) : String :=
  record.headline time ++ record.notes

end Remap.Record
