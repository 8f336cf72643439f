import Remap.Text.Affix
import Remap.Text.Split
import Remap.Yaml.Scalar.Moment
import Remap.Yaml.Tag

/-!
# Forms of scalars

A plain scalar without a tag has the kind that its form tells: truth values are words in three
casings, numbers start with a digit, sign or point, dates have two dashes. `Tag.ofForm` puts the
forms together; what has none of them is a text. A line feed at the end of a scalar does not count
for its form, and a sign of the layout alone has a form that no kind goes with.
-/

namespace Remap.Yaml

namespace Form

def isDigit_ (c : Char) : Bool := c.isDigit || c = '_'

/-- The text after a sign, if it has one. -/
def unsigned : List Char → List Char
  | '-' :: rest | '+' :: rest => rest
  | text => text

/-- A digit and more digits, with underscores between them. -/
def isGrouped : List Char → Bool
  | c :: rest => c.isDigit && rest.all isDigit_
  | [] => false

/-- A minute or second: one digit, or two up to 59. -/
def isSixtieth : List Char → Bool
  | [c] => c.isDigit
  | [a, b] => '0' ≤ a && a ≤ '5' && b.isDigit
  | _ => false

/-- Groups of digits between colons, of which there is at least one. -/
def isSexagesimal (text : List Char) : Bool :=
  match Text.splitOn ':' text with
  | first :: next :: more => isGrouped first && (next :: more).all isSixtieth
  | _ => false

def isInteger (text : List Char) : Bool :=
  match unsigned text with
  | '0' :: 'b' :: digits => !digits.isEmpty && digits.all ['0', '1', '_'].contains
  | '0' :: 'x' :: digits => !digits.isEmpty && digits.all fun c => Digits.isHex c || c = '_'
  | '0' :: digits => digits.all fun c => ('0' ≤ c && c ≤ '7') || c = '_'
  | body => isGrouped body || isSexagesimal body

/-- Digits behind a point, and perhaps an exponent with a sign. -/
def isFraction (text : List Char) : Bool :=
  match text.dropWhile isDigit_ with
  | [] => true
  | e :: sign :: digits =>
    (e = 'e' || e = 'E') && (sign = '-' || sign = '+') && !digits.isEmpty &&
      digits.all Char.isDigit
  | _ => false

def isDecimal (text : List Char) : Bool :=
  let body := unsigned text
  let whole := body.takeWhile (· ≠ '.')
  match body.dropWhile (· ≠ '.') with
  | [] => false
  | _ :: fraction =>
    (isGrouped whole && isFraction fraction) ||
    (isSexagesimal whole && fraction.all isDigit_) ||
    (whole.isEmpty && [['i', 'n', 'f'], ['I', 'n', 'f'], ['I', 'N', 'F']].contains fraction) ||
    (text.head? = some '.' &&
      ((fraction.head?.any Char.isDigit && isFraction fraction) ||
        [['n', 'a', 'n'], ['N', 'a', 'N'], ['N', 'A', 'N']].contains fraction))

/-- A word written small, with a capital, or in capitals. -/
def isCased (word : String) (text : List Char) : Bool :=
  let small := word.toList
  let capital := match small with
    | c :: rest => c.toUpper :: rest
    | [] => []
  [small, capital, small.map Char.toUpper].contains text

def isFlag (text : List Char) : Bool :=
  ["yes", "no", "true", "false", "on", "off"].any (isCased · text)

def isNull (text : List Char) : Bool := text.isEmpty || text = ['~'] || isCased "null" text

/-- The text without a line feed at its end, if there is something else in it. -/
def body (text : List Char) : List Char :=
  if Text.endsWith ['\n'] text && 1 < text.length then text.dropLast else text

end Form

/-- The kind of a scalar that has no tag to tell it. -/
def Tag.ofForm (text : List Char) : Tag :=
  let text := Form.body text
  if Form.isFlag text then flag
  else if Form.isDecimal text then decimal
  else if Form.isInteger text then integer
  else if text = ['<', '<'] then merge
  else if Form.isNull text then null
  else if (Moment.ofText? text).any (·.isExplicit) then timestamp
  else if text = ['='] then default
  else if [['!'], ['&'], ['*']].contains text then unknown
  else Tag.text

end Remap.Yaml
