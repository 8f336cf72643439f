import Remap.Value.Basic

/-!
# Writing JSON text

The compact JSON text of a value, on one line of ASCII. A character outside ASCII is written by
its code, or by two codes if it takes more than four hexadecimal digits. A key that is not a
string is written as the text of the scalar in JSON; numbers that JSON lacks have the spellings
that the reader takes. For a value that contains itself there is no JSON text, and null stands for
it.
-/

namespace Remap.Json

/-- A code of at most four hexadecimal digits. -/
def codeEscape (code : Nat) : List Char := '\\' :: 'u' :: Text.hexDigits 4 code

def escaped (c : Char) : List Char :=
  if c = '"' || c = '\\' then ['\\', c]
  else if c = '\n' then ['\\', 'n']
  else if c = '\r' then ['\\', 'r']
  else if c = '\t' then ['\\', 't']
  else if 0x20 ≤ c.toNat && c.toNat < 0x7F then [c]
  else if c.toNat < 0x10000 then codeEscape c.toNat
  else
    let code := c.toNat - 0x10000
    codeEscape (0xD800 + code / 0x400) ++ codeEscape (0xDC00 + code % 0x400)

def writeString (s : String) : String :=
  String.ofList ('"' :: s.toList.flatMap escaped ++ ['"'])

def writeFloat : Binary64 → String
  | .nan => "NaN"
  | .infinite negative => if negative then "-Infinity" else "Infinity"
  | x => x.display

/-- The JSON text of a scalar that is not a string. -/
def bare : Scalar → String
  | .null => "null"
  | .bool b => if b then "true" else "false"
  | .int n => toString n
  | .float x => writeFloat x
  | s => s.display

def writeScalar : Scalar → String
  | .str s => writeString s
  | .bytes b => writeString (Scalar.bytes b).display
  | .date d => writeString d.display
  | .timestamp t => writeString t.display
  | s => bare s

def writeKey : Scalar → String
  | .str s => writeString s
  | s => writeString (bare s)

mutual

/-- The JSON text of a value. -/
def write : Value → String
  | .scalar s => writeScalar s
  | .list items => "[" ++ writeItems items ++ "]"
  | .pair a b => "[" ++ write a ++ "," ++ write b ++ "]"
  | .set members => "[" ++ ",".intercalate (members.map writeScalar) ++ "]"
  | .table entries => "\x7b" ++ writeEntries entries ++ "\x7d"
  | .cyclic _ _ | .part _ => bare .null

def writeItems : List Value → String
  | [] => ""
  | [item] => write item
  | item :: rest => write item ++ "," ++ writeItems rest

def writeEntries : List (Scalar × Value) → String
  | [] => ""
  | [(key, value)] => writeKey key ++ ":" ++ write value
  | (key, value) :: rest => writeKey key ++ ":" ++ write value ++ "," ++ writeEntries rest

end

end Remap.Json
