import Remap.Log.Event
import Remap.Log.Severity

/-!
# Records

A record is an event as it is written: what happened, as a rule a name, then a severity and fields.
While a source file is bound every record names it, unless the event brings a field of that name or
the bound name is empty.
-/

namespace Remap

structure Record where
  /-- What happened; a record may leave it out. -/
  event : Option Value
  severity : Severity
  fields : List (String × Value)
deriving Repr

/-- The file that is being worked on, if one is bound. -/
abbrev BoundFile := Option String

namespace Record

/-- The field that names the bound file. -/
def fileField : String := "source_file"

/-- Adds the bound file to a record that does not name one. -/
def withFile (bound : BoundFile) (record : Record) : Record :=
  match bound with
  | none => record
  | some file =>
    if file.isEmpty || (record.fields.lookup fileField).isSome then record
    else { record with fields := record.fields ++ [(fileField, .str file)] }

end Record

def Event.record (event : Event) : Record := ⟨some (.str event.name), .debug, event.fields⟩

end Remap
