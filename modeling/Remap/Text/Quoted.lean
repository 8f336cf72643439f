import Remap.Text.Printable

/-!
# Quoted text

A text between quotes, on one line of printable characters. The quote is `'`, unless the text
holds that one and no `"`. The backslash, the quote and everything not printable is escaped, with
the shortest of the three hexadecimal forms.
-/

namespace Remap.Text

/-- A number in lower-case hexadecimal digits, with at least `width` of them. -/
def hexDigits (width n : Nat) : List Char :=
  let digits := Nat.toDigits 16 n
  List.replicate (width - digits.length) '0' ++ digits

def quoteFor (text : List Char) : Char :=
  if text.contains '\x27' && !text.contains '"' then '"' else '\x27'

def escapeChar (quote c : Char) : List Char :=
  if c = '\\' || c = quote then ['\\', c]
  else if c = '\n' then ['\\', 'n']
  else if c = '\r' then ['\\', 'r']
  else if c = '\t' then ['\\', 't']
  else if isPrintable c then [c]
  else if c.toNat < 0x100 then '\\' :: 'x' :: hexDigits 2 c.toNat
  else if c.toNat < 0x10000 then '\\' :: 'u' :: hexDigits 4 c.toNat
  else '\\' :: 'U' :: hexDigits 8 c.toNat

def quoted (text : List Char) : List Char :=
  let quote := quoteFor text
  quote :: text.flatMap (escapeChar quote) ++ [quote]

def quote (text : String) : String := String.ofList (quoted text.toList)

/-- The same for bytes, which are printable from the space to the tilde. -/
def quoteBytes (bytes : List UInt8) : String :=
  let text := bytes.map fun b => Char.ofNat b.toNat
  let quote := quoteFor text
  let escape (c : Char) : List Char :=
    if c.toNat < 0x7F then escapeChar quote c else '\\' :: 'x' :: hexDigits 2 c.toNat
  String.ofList ('b' :: quote :: text.flatMap escape ++ [quote])

end Remap.Text
