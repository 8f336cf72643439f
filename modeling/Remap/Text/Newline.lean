/-!
# Line ends

Files come with `\n`, `\r\n` or a lone `\r` at the end of a line; reading a file turns each of
them into `\n`. Inside the program only `\n` ends a line.
-/

namespace Remap.Text

/-- Every `\r\n` and every other `\r` becomes `\n`. -/
def unifyLineEnds : List Char → List Char
  | '\r' :: '\n' :: rest => '\n' :: unifyLineEnds rest
  | '\r' :: rest => '\n' :: unifyLineEnds rest
  | c :: rest => c :: unifyLineEnds rest
  | [] => []

/-- The lines of a text, each with its `\n`; what follows the last `\n` is a line too, even when
it is empty. -/
def splitLines : List Char → List (List Char)
  | [] => [[]]
  | c :: rest =>
    if c = '\n' then [c] :: splitLines rest
    else match splitLines rest with
      | line :: lines => (c :: line) :: lines
      | [] => [[c]]

/-- Splitting loses nothing. -/
theorem flatten_splitLines (text : List Char) : (splitLines text).flatten = text := by
  induction text with
  | nil => rfl
  | cons c rest ih =>
    simp only [splitLines]
    split
    · simp [ih]
    · split
      · next line lines h => simpa [h] using ih
      · next h => simpa [h] using ih

end Remap.Text
