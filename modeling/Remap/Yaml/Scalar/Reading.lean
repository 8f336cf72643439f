import Remap.Number.Literal
import Remap.Text.Base64
import Remap.Text.Lowercase
import Remap.Text.Split
import Remap.Yaml.Error
import Remap.Yaml.Scalar.Moment
import Remap.Yaml.Tag

/-!
# Reading scalars

What the text of a scalar stands for, given its kind. The kind may be told by the form of the text
or by a tag; with a tag the text can be anything, and each kind has its own way to refuse it.
-/

namespace Remap.Yaml.Reading

/-- The words for truth values, in any casing. -/
def flag (text : List Char) : Except Error Scalar :=
  let word := Text.lowercase (String.ofList text)
  if ["yes", "true", "on"].contains word then .ok (.bool true)
  else if ["no", "false", "off"].contains word then .ok (.bool false)
  else .error (.flag word)

/-- A number without underscores, its sign apart. -/
def splitNumeral (text : List Char) : Except Error (Bool × List Char) :=
  match text.filter (· ≠ '_') with
  | [] => .error .noNumeral
  | text => .ok (Literal.splitSign text)

def integerIn (base : Nat) (text : List Char) : Except Error Int := do
  match ← (Literal.integer? base text).mapError .digits with
  | some n => return n
  | none => throw (.integer base text)

/-- Digits with a value of sixty times that of the next ones. -/
def sexagesimal (parts : List Int) : Int := parts.foldl (fun n part => 60 * n + part) 0

/-- A leading zero stands for base eight, unless a letter after it names another base. -/
def integerBody (text : List Char) : Except Error Int :=
  match text with
  | [] => .error .noNumeral
  | ['0'] => .ok 0
  | '0' :: 'b' :: rest => integerIn 2 rest
  | '0' :: 'x' :: rest => integerIn 16 rest
  | '0' :: _ => integerIn 8 text
  | _ =>
    if text.contains ':' then ((Text.splitOn ':' text).mapM (integerIn 10)).map sexagesimal
    else integerIn 10 text

def integer (text : List Char) : Except Error Scalar := do
  let (negative, body) ← splitNumeral text
  let n ← integerBody body
  return .int (if negative then -n else n)

def decimalIn (text : List Char) : Except Error Binary64 :=
  match Literal.decimal? text with
  | some x => .ok x
  | none => .error (.decimal text)

/-- The last part counts once, each before it sixty times as much as the next. -/
def sexagesimalDecimal (parts : List Binary64) : Except Error Binary64 := do
  let (sum, _) ← parts.reverse.foldlM (fun (sum, unit) part => do
    let weight := Binary64.ofInt unit
    if weight = .infinite false then throw .places
    return (Binary64.add sum (part.mul weight), 60 * unit)) (Binary64.zero, (1 : Int))
  return sum

def decimal (text : List Char) : Except Error Scalar := do
  let (negative, body) ← splitNumeral (Text.lower (text.filter (· ≠ '_')))
  let x ←
    if body = ".inf".toList then pure (.infinite false)
    else if body = ".nan".toList then return .float .nan
    else if body.contains ':' then
      sexagesimalDecimal (← (Text.splitOn ':' body).mapM decimalIn)
    else decimalIn body
  return .float (if negative then x.neg else x)

def timestamp (text : List Char) : Except Error Scalar :=
  match Moment.ofText? text with
  | some moment => moment.read.mapError .calendar
  | none => .error .timestampForm

def binary (text : List Char) : Except Error Scalar :=
  if !text.all (·.toNat < 0x80) then .error .malformed
  else match Base64.decode? text with
    | some bytes => .ok (.bytes bytes)
    | none => .error .malformed

/-- The scalar of a kind with a text. Kinds that are not for scalars read none. -/
def scalar (tag : Tag) (text : List Char) : Except Error Scalar :=
  match tag with
  | .text => .ok (.str (String.ofList text))
  | .flag => flag text
  | .integer => integer text
  | .decimal => decimal text
  | .null => .ok .null
  | .binary => binary text
  | .timestamp => timestamp text
  | _ => .error .malformed

end Remap.Yaml.Reading
