import Remap.Number.Digits
import Remap.Text.Affix
import Remap.Text.Blank
import Remap.Text.Word

/-!
# Directives on a line

A comment on a line of its own can exclude that line and some lines after it, and a comment among
code can exclude its own line:

* `/* c8 ignore next 3 */`, with nothing but punctuation around it, excludes the line and the next
  three; without a number, the line and the next one;
* `// c8 ignore next 3`, with nothing but blanks around it, does the same;
* `/* c8 ignore next */` anywhere excludes its own line only.

The first form that fits decides. A number too long to read is refused.
-/

namespace Remap

inductive LineDirective where
  /-- Alone on its line: the line and this many lines after it. -/
  | run (count : Nat)
  /-- Among code: the line itself. -/
  | inline
deriving Repr, DecidableEq

namespace LineDirective

/-- The digits, if any, of a block comment that has its line to itself. The first word character
of the line must be the one after the comment's opening. -/
def blockDigits? (text : List Char) : Option (List Char) := do
  let lead := text.takeWhile fun c => !Text.isWord c
  let body := text.dropWhile fun c => !Text.isWord c
  if !Text.endsWith "/* ".toList lead then none
  let rest ← Text.after? "c8 ignore next ".toList body
  let digits := rest.takeWhile Char.isDigit
  let close := (rest.dropWhile Char.isDigit).dropWhile (· = ' ')
  let tail ← Text.after? "*/".toList close
  if tail.all fun c => !Text.isWord c then some digits else none

/-- The digits, if any, of a line comment that has its line to itself. -/
def commentDigits? (text : List Char) : Option (List Char) := do
  let rest ← Text.after? "// c8 ignore next".toList (text.dropWhile Text.isBlank)
  if rest.all Text.isBlank then some []
  else match rest with
    | ' ' :: count =>
      let digits := count.takeWhile Char.isDigit
      let tail := count.dropWhile Char.isDigit
      if !digits.isEmpty && tail.all Text.isBlank then some digits else none
    | _ => none

/-- The number of lines that digits ask for: one when there are none. -/
def count (digits : List Char) : Except DigitLimit Nat :=
  if digits.isEmpty then .ok 1 else Digits.toNat? digits

/-- The directive on a line with this text. -/
def ofText (text : List Char) : Except DigitLimit (Option LineDirective) :=
  match (blockDigits? text).or (commentDigits? text) with
  | some digits => (count digits).map fun n => some (run n)
  | none =>
    .ok (if Text.holds "/* c8 ignore next */".toList text then some inline else none)

end LineDirective

end Remap
