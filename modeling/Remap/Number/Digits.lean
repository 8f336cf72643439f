/-!
# Digit strings

Reading a natural number from decimal digits. A numeral of more than 4300 digits is refused
whatever its value, leading zeros included; the refusal carries the number of digits. Nor is a number
of more digits written.
-/

namespace Remap

/-- A numeral with more digits than are read. -/
structure DigitLimit where
  digits : Nat
deriving Repr, DecidableEq

def DigitLimit.allowed : Nat := 4300

def DigitLimit.message (refusal : DigitLimit) : String :=
  s!"Exceeds the limit ({allowed} digits) for integer string conversion: value has " ++
    s!"{refusal.digits} digits; use sys.set_int_max_str_digits() to increase the limit"

/-- Why a number of more digits is not written. -/
def DigitLimit.unwritten : String :=
  s!"Exceeds the limit ({allowed} digits) for integer string conversion; " ++
    "use sys.set_int_max_str_digits() to increase the limit"

namespace Digits

/-- The value of a digit of any base up to sixteen. -/
def value (c : Char) : Nat :=
  if c.isDigit then c.toNat - '0'.toNat
  else if 'a' ≤ c && c ≤ 'f' then c.toNat - 'a'.toNat + 10
  else if 'A' ≤ c && c ≤ 'F' then c.toNat - 'A'.toNat + 10
  else 0

def isHex (c : Char) : Bool := c.isDigit || ('a' ≤ c && c ≤ 'f') || ('A' ≤ c && c ≤ 'F')

/-- The number that digits stand for in a base, most significant first. -/
def toNat (base : Nat) (digits : List Char) : Nat :=
  digits.foldl (fun n c => base * n + value c) 0

theorem toNat_append_singleton (base : Nat) (digits : List Char) (c : Char) :
    toNat base (digits ++ [c]) = base * toNat base digits + value c := by
  simp [toNat]

/-- A decimal numeral, within the limit. -/
def toNat? (digits : List Char) : Except DigitLimit Nat :=
  if digits.length ≤ DigitLimit.allowed then .ok (toNat 10 digits) else .error ⟨digits.length⟩

end Digits

end Remap
