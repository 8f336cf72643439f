import Remap.Number.Digits
import Remap.Value.Basic

/-!
# Reading JSON text

A recursive descent over the characters of a JSON text. A text that is not JSON is refused with
the cause and the place of the first character that cannot be continued.

Beyond the standard, `NaN`, `Infinity` and `-Infinity` are numbers. Of two equal keys the later
value counts, at the place of the earlier. A numeral without fraction and exponent is an integer
of any size within the limit for digit strings.
-/

namespace Remap.Json

/-- Why a text is not JSON. -/
inductive Cause where
  | value
  | propertyName
  | colon
  | comma
  | unterminatedString
  | controlCharacter
  | escape
  | unicodeEscape
  | trailingData
  | byteOrderMark
deriving Repr, DecidableEq

/-- A place in a text: lines and columns count from one, the offset from zero. -/
structure Place where
  offset : Nat := 0
  line : Nat := 1
  column : Nat := 1
deriving Repr, DecidableEq

inductive Error where
  | malformed (cause : Cause) (place : Place)
  | digits (refusal : DigitLimit)
deriving Repr, DecidableEq

def Cause.message : Cause → String
  | value => "Expecting value"
  | propertyName => "Expecting property name enclosed in double quotes"
  | colon => "Expecting ':' delimiter"
  | comma => "Expecting ',' delimiter"
  | unterminatedString => "Unterminated string starting at"
  | controlCharacter => "Invalid control character at"
  | escape => "Invalid \\escape"
  | unicodeEscape => "Invalid \\uXXXX escape"
  | trailingData => "Extra data"
  | byteOrderMark => "Unexpected UTF-8 BOM (decode using utf-8-sig)"

def Error.message : Error → String
  | malformed cause place =>
    s!"{cause.message}: line {place.line} column {place.column} (char {place.offset})"
  | digits refusal => refusal.message

/-- The place after a character. -/
def Place.advance (place : Place) (c : Char) : Place :=
  if c = '\n' then ⟨place.offset + 1, place.line + 1, 1⟩
  else ⟨place.offset + 1, place.line, place.column + 1⟩

/-- The text still to read, and the place of its first character. -/
structure Cursor where
  rest : List Char
  place : Place
deriving Repr

namespace Cursor

def skip (c : Cursor) (n : Nat) : Cursor := ⟨c.rest.drop n, (c.rest.take n).foldl .advance c.place⟩

def skipSpace (c : Cursor) : Cursor :=
  c.skip (c.rest.takeWhile fun ch => ch = ' ' || ch = '\t' || ch = '\n' || ch = '\r').length

def fail (c : Cursor) (cause : Cause) : Except Error α := .error (.malformed cause c.place)

end Cursor

/-! ## Strings -/

/-- Four hexadecimal digits. -/
def hex4? (digits : List Char) : Option Nat :=
  if digits.length = 4 && digits.all Digits.isHex then some (Digits.toNat 16 digits) else none

def isHighSurrogate (code : Nat) : Bool := 0xD800 ≤ code && code < 0xDC00
def isLowSurrogate (code : Nat) : Bool := 0xDC00 ≤ code && code < 0xE000

/-- The character of a code; a surrogate without its partner becomes the replacement character. -/
def charOf (code : Nat) : Char :=
  if 0xD800 ≤ code && code < 0xE000 then '\ufffd' else Char.ofNat code

def simpleEscape? : Char → Option Char
  | '"' => some '"'
  | '\\' => some '\\'
  | '/' => some '/'
  | 'b' => some '\x08'
  | 'f' => some '\x0c'
  | 'n' => some '\n'
  | 'r' => some '\r'
  | 't' => some '\t'
  | _ => none

/-- A character given by its code, and how many characters its digits and those of a second half
take; the cursor stands at the `u` of the escape. A character must follow the digits. -/
def unicodeEscape (c : Cursor) : Except Error (Char × Nat) :=
  let digits := c.rest.drop 1
  let after := digits.drop 4
  match hex4? (digits.take 4) with
  | none => c.fail .unicodeEscape
  | some code =>
    if after.isEmpty then c.fail .unicodeEscape
    else if isHighSurrogate code && !(after.drop 6).isEmpty && after.take 2 == ['\\', 'u'] then
      match hex4? ((after.drop 2).take 4) with
      | none => (c.skip 6).fail .unicodeEscape
      | some low =>
        if isLowSurrogate low then
          .ok (Char.ofNat (0x10000 + (code - 0xD800) * 0x400 + (low - 0xDC00)), 10)
        else .ok (charOf code, 4)
    else .ok (charOf code, 4)

/-- The rest of a string that opened at `start`; `read` holds its characters so far, last first. -/
def stringBody (start : Place) : Nat → List Char → Cursor → Except Error (String × Cursor)
  | 0, _, _ => .error (.malformed .unterminatedString start)
  | fuel + 1, read, c =>
    match c.rest with
    | [] => .error (.malformed .unterminatedString start)
    | '"' :: _ => .ok (String.ofList read.reverse, c.skip 1)
    | '\\' :: rest => match rest with
      | [] => .error (.malformed .unterminatedString start)
      | 'u' :: _ => do
        let (ch, length) ← unicodeEscape (c.skip 1)
        stringBody start fuel (ch :: read) (c.skip (2 + length))
      | e :: _ => match simpleEscape? e with
        | some ch => stringBody start fuel (ch :: read) (c.skip 2)
        | none => c.fail .escape
    | ch :: _ =>
      if ch.toNat < 0x20 then c.fail .controlCharacter
      else stringBody start fuel (ch :: read) (c.skip 1)

/-- A string whose opening quote is the next character; fuel above the length of the text is
enough. -/
def string (fuel : Nat) (c : Cursor) : Except Error (String × Cursor) :=
  stringBody c.place fuel [] (c.skip 1)

/-! ## Numbers -/

/-- The exponent part of a numeral, if it is complete: its value and its length. -/
def exponent? : List Char → Option (Int × Nat)
  | e :: rest =>
    if e = 'e' || e = 'E' then
      let (negative, digits, signs) := match rest with
        | '-' :: more => (true, more, 1)
        | '+' :: more => (false, more, 1)
        | more => (false, more, 0)
      let digits := digits.takeWhile Char.isDigit
      if digits.isEmpty then none
      else
        let n : Int := Digits.toNat 10 digits
        some (if negative then -n else n, 1 + signs + digits.length)
    else none
  | [] => none

/-- A numeral: its value and the text after it. -/
def number (c : Cursor) : Except Error (Scalar × Cursor) :=
  let (negative, unsigned) := match c.rest with
    | '-' :: rest => (true, rest)
    | rest => (false, rest)
  let whole := match unsigned with
    | '0' :: _ => ['0']
    | digits => digits.takeWhile Char.isDigit
  if whole.isEmpty then c.fail .value
  else
    let afterWhole := unsigned.drop whole.length
    let fraction := match afterWhole with
      | '.' :: more => more.takeWhile Char.isDigit
      | _ => []
    let pointed := if fraction.isEmpty then 0 else 1 + fraction.length
    let exponent := exponent? (afterWhole.drop pointed)
    let length := (if negative then 1 else 0) + whole.length + pointed +
      (exponent.map (·.2)).getD 0
    if fraction.isEmpty && exponent.isNone then
      match Digits.toNat? whole with
      | .ok n => .ok (.int (if negative then -(n : Int) else n), c.skip length)
      | .error refusal => .error (.digits refusal)
    else
      let power := (exponent.map (·.1)).getD 0 - fraction.length
      let x := Binary64.ofDecimal negative (Digits.toNat 10 (whole ++ fraction)) power
      .ok (.float x, c.skip length)

/-! ## Values -/

/-- Words that stand for a scalar. -/
def constants : List (String × Scalar) :=
  [("null", .null), ("true", .bool true), ("false", .bool false), ("NaN", .float .nan),
    ("Infinity", .float (.infinite false)), ("-Infinity", .float (.infinite true))]

def constant? (c : Cursor) : Option (Scalar × Cursor) :=
  constants.findSome? fun (word, s) =>
    if word.toList.isPrefixOf c.rest then some (s, c.skip word.length) else none

mutual

def value : Nat → Cursor → Except Error (Value × Cursor)
  | 0, c => c.fail .value
  | fuel + 1, c =>
    match c.rest with
    | '"' :: _ => do
      let (s, c) ← string fuel c
      return (.str s, c)
    | '[' :: _ =>
      let inside := (c.skip 1).skipSpace
      match inside.rest with
      | ']' :: _ => .ok (.list [], inside.skip 1)
      | _ => items fuel [] inside
    | '\x7b' :: _ =>
      let inside := (c.skip 1).skipSpace
      match inside.rest with
      | '\x7d' :: _ => .ok (.table [], inside.skip 1)
      | _ => members fuel [] inside
    | _ => match constant? c with
      | some (s, c) => .ok (.scalar s, c)
      | none => do
        let (s, c) ← number c
        return (.scalar s, c)

/-- The items of a list from one on; `read` holds those before, last first. -/
def items : Nat → List Value → Cursor → Except Error (Value × Cursor)
  | 0, _, c => c.fail .value
  | fuel + 1, read, c => do
    let (item, c) ← value fuel c
    let c := c.skipSpace
    match c.rest with
    | ']' :: _ => return (.list (item :: read).reverse, c.skip 1)
    | ',' :: _ => items fuel (item :: read) (c.skip 1).skipSpace
    | _ => c.fail .comma

/-- The members of a table from one on. -/
def members : Nat → List (Scalar × Value) → Cursor → Except Error (Value × Cursor)
  | 0, _, c => c.fail .value
  | fuel + 1, read, c => do
    match c.rest with
    | '"' :: _ =>
      let (key, c) ← string fuel c
      let c := c.skipSpace
      match c.rest with
      | ':' :: _ =>
        let (v, c) ← value fuel (c.skip 1).skipSpace
        let read := Assoc.put read (.str key) v
        let c := c.skipSpace
        match c.rest with
        | '\x7d' :: _ => return (.table read, c.skip 1)
        | ',' :: _ => members fuel read (c.skip 1).skipSpace
        | _ => c.fail .comma
      | _ => c.fail .colon
    | _ => c.fail .propertyName

end

/-- The value of a JSON text. -/
def parse (text : List Char) : Except Error Value := do
  let start : Cursor := ⟨text, {}⟩
  if text.head? = some '\ufeff' then start.fail .byteOrderMark
  let (v, c) ← value (2 * text.length + 2) start.skipSpace
  let c := c.skipSpace
  if c.rest.isEmpty then return v else c.fail .trailingData

end Remap.Json
