import Remap.Text.Base64

/-!
# Variable-length quantities

Signed integers of any size as base-64 text. A digit carries five bits, the lowest first, and a
sixth that says whether more follow; the lowest bit of the number is its sign. Consecutive numbers
need no separator, so a text is read as a list of numbers.

Characters outside the alphabet are read as a digit of all ones with more to follow, as long as
their code is in the alphabet's range; beyond it they are refused.
-/

namespace Remap.Vlq

inductive Error where
  /-- A character whose code lies beyond the alphabet. -/
  | digit
  /-- The text ends inside a number. -/
  | unfinished
deriving Repr, DecidableEq

def digit (c : Char) : Except Error Nat :=
  match Base64.value? c with
  | some n => .ok n
  | none => if c.toNat ≤ 'z'.toNat then .ok 63 else .error .digit

/-- A number from its unsigned form: the lowest bit is the sign. -/
def signed (n : Nat) : Int := if n % 2 = 1 then -(n / 2 : Nat) else (n / 2 : Nat)

/-- Reads numbers; `current` is what has been read of the first and `weight` the place value of
its next digit. -/
def readFrom (current weight : Nat) : List Char → Except Error (List Int)
  | [] => if weight = 1 then .ok [] else .error .unfinished
  | c :: rest => do
    let d ← digit c
    let current := current + d % 32 * weight
    if 32 ≤ d then readFrom current (32 * weight) rest
    else return signed current :: (← readFrom 0 1 rest)

/-- The numbers of a text. -/
def read (text : List Char) : Except Error (List Int) := readFrom 0 1 text

/-! ## Writing -/

def unsigned (n : Int) : Nat := if n < 0 then 2 * n.natAbs + 1 else 2 * n.natAbs

def writeNat (n : Nat) : List Char :=
  if n < 32 then [Base64.charOf n] else Base64.charOf (32 + n % 32) :: writeNat (n / 32)

/-- The text of numbers. -/
def write (numbers : List Int) : List Char := numbers.flatMap fun n => writeNat (unsigned n)

end Remap.Vlq
