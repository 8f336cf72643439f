import Remap.Number.Binary64
import Remap.Number.Digits
import Remap.Text.Blank
import Remap.Text.DecimalDigit

/-!
# Number literals

Texts read as numbers, more freely than the forms that mark a number: blanks may stand around it,
its digits may be of any script, and an integer may name its base. Of the controls of ASCII only
those that move the carriage are blanks here.
-/

namespace Remap.Literal

/-- Whether a character may stand around a literal. -/
def isMargin (c : Char) : Bool := Text.isBlank c && !(0x1C ≤ c.toNat && c.toNat ≤ 0x1F)

/-- The text of a literal without the blanks around it, its digits in ASCII. -/
def plainDigits (text : List Char) : List Char :=
  (((text.map Text.asciiDigit).dropWhile isMargin).reverse.dropWhile isMargin).reverse

/-- Whether a number is negative, and what follows its sign. -/
def splitSign : List Char → Bool × List Char
  | '-' :: rest => (true, rest)
  | '+' :: rest => (false, rest)
  | text => (false, text)

def isDigitOf (base : Nat) (c : Char) : Bool := Digits.isHex c && Digits.value c < base

/-- The letter that names a base after a zero. -/
def baseLetter? : Nat → Option Char
  | 2 => some 'b'
  | 8 => some 'o'
  | 16 => some 'x'
  | _ => none

/-- The digits of a literal after the mark of its base, if it has one. -/
def afterMark (base : Nat) : List Char → List Char
  | '0' :: letter :: rest =>
    if baseLetter? base = some letter.toLower then rest else '0' :: letter :: rest
  | text => text

/-- The integer that a text stands for in a base, if it stands for one. Only decimal literals are
limited in length. -/
def integer? (base : Nat) (text : List Char) : Except DigitLimit (Option Int) := do
  let (negative, body) := splitSign (plainDigits text)
  let digits := afterMark base body
  let valid := digits.takeWhile (isDigitOf base)
  let n ← if base = 10 then Digits.toNat? valid else pure (Digits.toNat base valid)
  if valid.isEmpty || valid.length < digits.length then return none
  return some (if negative then -n else n)

/-- The power of ten of an exponent, which may be missing. -/
def exponent? : List Char → Option Int
  | [] => some 0
  | e :: rest =>
    let (negative, digits) := splitSign rest
    if e.toLower = 'e' && !digits.isEmpty && digits.all Char.isDigit then
      let n : Int := Digits.toNat 10 digits
      some (if negative then -n else n)
    else none

/-- The number without sign that a text stands for, if it stands for one. -/
def magnitude? (negative : Bool) (text : List Char) : Option Binary64 :=
  let word := String.ofList (text.map Char.toLower)
  if word = "inf" || word = "infinity" then some (.infinite negative)
  else if word = "nan" then some .nan
  else
    let whole := text.takeWhile Char.isDigit
    let (fraction, rest) := match text.dropWhile Char.isDigit with
      | '.' :: rest => (rest.takeWhile Char.isDigit, rest.dropWhile Char.isDigit)
      | rest => ([], rest)
    let digits := whole ++ fraction
    if digits.isEmpty then none
    else (exponent? rest).map fun power =>
      .ofDecimal negative (Digits.toNat 10 digits) (power - fraction.length)

def decimal? (text : List Char) : Option Binary64 :=
  let (negative, body) := splitSign (plainDigits text)
  magnitude? negative body

end Remap.Literal
