import Remap.Line
import Remap.Log.Event
import Remap.Map.Position

/-!
# Ranges in original texts

A range of generated text includes its start and excludes its end. A source map only knows points,
each of which starts a stretch of text, so the two bounds are mapped differently:

* the start is the original position of the point at or before it, or else at or after it;
* the end is where the stretch that holds the last character stops in the original text. That is
  the next original point to the right of the one that starts the stretch, if it lies on the same
  original line, and otherwise the end of that line, written as an infinite column.

`SourceMap` lookups always give finite columns. Another lookup may not, and a column that has to
be an integer and is not one is an error.
-/

namespace Remap

/-- A range of an original text. -/
structure MappedRange (σ : Type) where
  source : σ
  startLine : Int
  startColumn : Int
  endLine : Int
  endColumn : Option Column
deriving Repr, DecidableEq

/-- A column that has to be an integer. -/
inductive ColumnError where
  | infinite
  | missing
deriving Repr, DecidableEq

def wholeColumn : Option Column → Except ColumnError Int
  | some (.finite n) => .ok n
  | some (.infinite _) => .error .infinite
  | none => .error .missing

variable {σ : Type}

namespace Lookup

/-- The position of the nearest point at or before a point, or else at or after it. -/
def nearestOriginal (lookup : Lookup σ) (line column : Int) : OriginalPosition σ :=
  let before := lookup.original line column .atOrBefore
  if before.line.isNone then lookup.original line column .atOrAfter else before

/-- The end of the line that a position lies on. -/
def lineEnd (position : Located σ) : Located σ :=
  { source := position.source, line := position.line, column := some (.infinite false) }

/-- Where a generated range that stops before `column` stops in the original text. -/
def originalEnd (lookup : Lookup σ) (line column : Int) : Except ColumnError (Option (Located σ)) := do
  let some before := (lookup.nearestOriginal line (max (column - 1) 0)).located? | return none
  match before.source, before.column with
  | some source, some beforeColumn =>
    let beforeColumn ← wholeColumn (some beforeColumn)
    let next := lookup.generated source before.line (beforeColumn + 1) .atOrAfter
    match next.line, next.column with
    | some nextLine, some nextColumn =>
      match (lookup.original nextLine nextColumn .atOrBefore).located? with
      | some after => return some (if after.line = before.line then after else lineEnd before)
      | none => return some (lineEnd before)
    | _, _ => return some (lineEnd before)
  | _, _ => return none

end Lookup

/-- The lines that a range overlaps. An empty range overlaps the line that holds its start. -/
def overlapping (lines : List Line) (start stop : Int) : List Line :=
  let last := max (stop - 1) start
  lines.filter fun line => line.start ≤ last && start < line.stop

/-- The end of a range whose bounds have been mapped. When they are one point, it is the column
before the next point on the last line instead, if there is such a point. -/
def uncollapsed? (lookup : Lookup σ) (line column : Int) (first last : Located σ) :
    Option (Located σ) :=
  if first.line = last.line ∧ first.column = last.column then do
    let after ← (lookup.original line column .atOrAfter).located?
    let afterColumn ← after.column
    return { source := last.source, line := after.line, column := some afterColumn.pred }
  else some last

/-- The original range of `[start, stop)`, or why there is none. -/
def originalRange [BEq σ] (lines : List Line) (lookup : Lookup σ) (start stop : Int) :
    Except ColumnError (Except Unresolved (MappedRange σ)) := do
  let selected := overlapping lines start stop
  match selected.head?, selected.getLast? with
  | some firstLine, some lastLine =>
    let column := stop - lastLine.start
    let first := lookup.nearestOriginal firstLine.number (max 0 (start - firstLine.start))
    match ← lookup.originalEnd lastLine.number column, first.located? with
    | some last, some first =>
      match first.source, last.source with
      | some source, some lastSource =>
        if source != lastSource then return .error .crossSource
        match uncollapsed? lookup lastLine.number column first last with
        | none => return .error .collapsed
        | some last =>
          let startColumn ← wholeColumn first.column
          return .ok { source, startLine := first.line, startColumn, endLine := last.line,
                       endColumn := last.column }
      | _, _ => return .error .noSource
    | _, _ => return .error .unmapped
  | _, _ => return .error .noLines

/-- The original range of `[start, stop)`, if there is one. That there is none is reported. -/
def mapRange [BEq σ] (lines : List Line) (lookup : Lookup σ) (start stop : Int) :
    Logged (Except ColumnError (Option (MappedRange σ))) :=
  match originalRange lines lookup start stop with
  | .error error => ⟨.error error, []⟩
  | .ok (.error reason) => ⟨.ok none, [.rangeUnresolved reason start stop]⟩
  | .ok (.ok range) => ⟨.ok (some range), []⟩

end Remap
