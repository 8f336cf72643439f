import Remap.Text.Newline

/-!
# Lines

A line is a stretch of a text up to and including its line end. Its offsets count characters from
the start of the text, so that each line stops where the next one starts.
-/

namespace Remap

/-- One line of a text. `stop` is exclusive and takes in the line end, `contentStop` leaves it out.
Lines count from one. An ignored line is excluded from coverage. -/
structure Line where
  number : Int
  start : Int
  stop : Int
  contentStop : Int
  ignored : Bool := false
deriving Repr, DecidableEq

/-- The length of the line end: `\r\n`, `\n`, or none on the last line. -/
def lineEndLength (text : List Char) : Nat :=
  match text.reverse with
  | '\n' :: '\r' :: _ => 2
  | '\n' :: _ => 1
  | _ => 0

namespace Line

/-- The line with this text, line end included, that starts at an offset. -/
def ofText (number start : Int) (text : List Char) : Line :=
  let stop := start + text.length
  { number, start, stop, contentStop := stop - lineEndLength text }

/-- The length without the line end. -/
def length (line : Line) : Int := line.contentStop - line.start

end Line

end Remap
