import Remap.Log.Record

/-!
# Calls

What a caller asks to be logged: the name of a method, an event and fields. Methods are called like
severities, and some severities have a second name; one more method logs an error and says that
there is one. Names that the call itself needs are taken and cannot name fields.
-/

namespace Remap

structure LogCall where
  method : String
  event : Value
  fields : List (String × Value) := []

inductive CallError where
  /-- There is no method of that name. -/
  | unknownMethod
  /-- The arguments do not fit the method. -/
  | arguments
deriving Repr, DecidableEq

namespace LogCall

/-- Second names of severities. -/
def aliases : List (String × Severity) :=
  [("warn", .warning), ("fatal", .critical), ("msg", .info), ("exception", .error)]

def severity? (method : String) : Option Severity :=
  (Severity.ofLabel? method).or (aliases.lookup method)

/-- The fields of a call; the method for errors says that there is one, unless a field does. -/
def allFields (call : LogCall) : List (String × Value) :=
  if call.method = "exception" && (call.fields.lookup "exc_info").isNone then
    call.fields ++ [("exc_info", .bool true)]
  else call.fields

def hasField (call : LogCall) (name : String) : Bool := (call.fields.lookup name).isSome

/-- The record of a call in a log of a level, if it reaches that level. An event that is null is no
event. -/
def record? (level : Severity) (call : LogCall) : Except CallError (Option Record) := do
  if call.method = "log" then throw .arguments
  let some severity := severity? call.method | throw .unknownMethod
  if call.hasField "event" || call.hasField "self" then throw .arguments
  if severity.rank < level.rank then return none
  if call.hasField "method_name" then throw .arguments
  return some
    ⟨if call.event.isNull then none else some call.event, severity, call.allFields⟩

end LogCall

end Remap
