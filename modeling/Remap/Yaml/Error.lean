import Remap.Number.Digits
import Remap.Text.Quoted
import Remap.Value.Calendar

/-!
# Errors of YAML texts

A text is malformed when it is not one document of the YAML kinds known here. A document that is
well formed may still hold a scalar that its kind cannot read; most of the other errors say which.

Some tokens have the right form and still cannot be read. The pass over the text halts there, and
whatever comes later does not count, not even a character that no text may hold if it is far enough
behind. Half of a pair of codes is one of these halts: there is no such character here, though some
programs let one stand for itself.
-/

namespace Remap.Yaml

/-- Why the pass over a text halts at a token whose form is in order. -/
inductive Halt where
  /-- A version with too many digits. -/
  | digits (refusal : DigitLimit)
  /-- An escape with the code of no character. -/
  | characterCode (code : Nat)
  /-- An escape with the code of half of a pair, which is no character by itself. -/
  | halfPair (code : Nat)
deriving Repr, DecidableEq

def Halt.message? : Halt → Option String
  | digits refusal => some refusal.message
  | characterCode _ => some "chr() arg not in range(0x110000)"
  | halfPair _ => none

inductive Error where
  | malformed
  /-- A halt for which the first `seen` characters of the text have been looked at. -/
  | halt (reason : Halt) (seen : Nat)
  /-- A numeral with too many digits. -/
  | digits (refusal : DigitLimit)
  /-- Not an integer in a base. -/
  | integer (base : Nat) (text : List Char)
  /-- Not a decimal number. -/
  | decimal (text : List Char)
  /-- A number in base sixty with so many places that the first has no finite value. -/
  | places
  /-- A number without any character. -/
  | noNumeral
  /-- Not a word for a truth value. -/
  | flag (word : String)
  /-- Not in the form of a date or time. -/
  | timestampForm
  | calendar (error : CalendarError)
  /-- A table in the place of a text. -/
  | kind
  /-- The same, where the value under its default key leads back to the table. -/
  | circle
deriving Repr, DecidableEq

/-- The message of an error that has one. -/
def Error.message? : Error → Option String
  | halt reason _ => reason.message?
  | digits refusal => some refusal.message
  | integer base text =>
    let shown := String.ofList ((Text.quoted text).take 200)
    some s!"invalid literal for int() with base {base}: {shown}"
  | decimal text =>
    some ("could not convert string to float: " ++ String.ofList (Text.quoted text))
  | noNumeral => some "string index out of range"
  | flag word => some (Text.quote word)
  | calendar error => some error.message
  | malformed | places | timestampForm | kind | circle => none

/-- Whether an error is about half of a pair. -/
def Error.isHalfPair : Error → Bool
  | halt (.halfPair _) _ => true
  | _ => false

end Remap.Yaml
