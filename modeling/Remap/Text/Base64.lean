/-!
# Base 64

Digits from 0 to 63 as characters, and bytes written with them, four digits for three bytes.
-/

namespace Remap.Base64

/-- The value of a character of the alphabet. -/
def value? (c : Char) : Option Nat :=
  if c.isUpper then some (c.toNat - 'A'.toNat)
  else if c.isLower then some (c.toNat - 'a'.toNat + 26)
  else if c.isDigit then some (c.toNat - '0'.toNat + 52)
  else if c = '+' then some 62
  else if c = '/' then some 63
  else none

/-- The character of the alphabet for a value below 64. -/
def charOf (n : Nat) : Char :=
  if n < 26 then Char.ofNat ('A'.toNat + n)
  else if n < 52 then Char.ofNat ('a'.toNat + (n - 26))
  else if n < 62 then Char.ofNat ('0'.toNat + (n - 52))
  else if n = 62 then '+'
  else '/'

/-- The bytes of digits, of which `group` came first in a group of four. Characters that are no
digits do not count. A group that is cut short has to be filled up with `=`, and ends the text. -/
def decodeFrom (group : List Nat) (fills : Nat) : List Char → Option (List UInt8)
  | [] => if group.isEmpty then some [] else none
  | c :: rest =>
    if c = '=' then
      if group.length < 2 then decodeFrom group fills rest
      else if 4 ≤ group.length + fills + 1 then some []
      else decodeFrom group (fills + 1) rest
    else match value? c, group with
      | none, _ => decodeFrom group fills rest
      | some d, [] => decodeFrom [d] 0 rest
      | some d, [a] => (decodeFrom [a, d] 0 rest).map (UInt8.ofNat (4 * a + d / 16) :: ·)
      | some d, [a, b] =>
        (decodeFrom [a, b, d] 0 rest).map (UInt8.ofNat (16 * (b % 16) + d / 4) :: ·)
      | some d, _ :: _ :: last :: _ =>
        (decodeFrom [] 0 rest).map (UInt8.ofNat (64 * (last % 4) + d) :: ·)

/-- The bytes that a text stands for. -/
def decode? (text : List Char) : Option (List UInt8) := decodeFrom [] 0 text

end Remap.Base64
