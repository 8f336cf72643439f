import Remap.Line
import Remap.Value.Order

/-!
# Report nodes

The parts of a coverage report that this library makes: the extent of a line, and the entry of a
function. An entry gives one extent twice, as that of the declaration and that of the body.

What a function is recorded with is kept as it was given, so that lines, columns and counts are
values, as a rule numbers.
-/

namespace Remap

/-- A place in a report: a line from one, a column from zero. -/
structure ReportPlace where
  line : Value
  column : Value
deriving Repr

structure ReportExtent where
  start : ReportPlace
  stop : ReportPlace
deriving Repr

/-- The extent of a line without its line end. -/
def Line.extent (line : Line) : ReportExtent :=
  ⟨⟨.int line.number, .int 0⟩, ⟨.int line.number, .int line.length⟩⟩

/-- A function that was executed: its name, its extent in the original text, how often it ran, and
its offsets in the generated text. -/
structure FunctionRecord where
  name : Value
  startLine : Value
  startColumn : Value
  endLine : Value
  endColumn : Value
  count : Value
  absoluteStart : Value
  absoluteEnd : Value
deriving Repr

/-- The entry of a function in a report. -/
structure FunctionEntry where
  name : Value
  declaration : ReportExtent
  body : ReportExtent
  line : Value
deriving Repr

namespace FunctionRecord

def entry (record : FunctionRecord) : FunctionEntry :=
  let extent : ReportExtent :=
    ⟨⟨record.startLine, record.startColumn⟩, ⟨record.endLine, record.endColumn⟩⟩
  { name := record.name, declaration := extent, body := extent, line := record.startLine }

/-- What a record holds, in the order of its parts. -/
def parts (record : FunctionRecord) : List Value :=
  [record.name, record.startLine, record.startColumn, record.endLine, record.endColumn,
    record.count, record.absoluteStart, record.absoluteEnd]

/-- Records are the same when their parts are. -/
instance : BEq FunctionRecord := ⟨fun a b => a.parts == b.parts⟩

/-- The names of the parts. -/
def partNames : List String :=
  ["name", "start_line", "start_col", "end_line", "end_col", "count", "absolute_start_col",
    "absolute_end_col"]

/-- The record of named parts, of which none may be missing and none unknown. -/
def ofParts? (given : List (String × Value)) : Option FunctionRecord := do
  if !given.all fun (name, _) => partNames.contains name then none
  let part (name : String) : Option Value := given.lookup name
  return {
    name := ← part "name", startLine := ← part "start_line", startColumn := ← part "start_col"
    endLine := ← part "end_line", endColumn := ← part "end_col", count := ← part "count"
    absoluteStart := ← part "absolute_start_col", absoluteEnd := ← part "absolute_end_col" }

end FunctionRecord

end Remap
