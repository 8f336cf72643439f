/-!
# Double-precision numbers

A double is a natural mantissa times a power of two. Everything here is exact arithmetic on
naturals: `ofRatio` rounds a quotient to the nearest double, ties to the even mantissa, and
`shortest` finds the fewest decimal digits that read back as the same double.

`shortest` needs no search beyond the two neighbours of the value on each decimal grid: if any
point of a grid rounds to the double, one of the neighbours does.
-/

namespace Remap

/-- A double: `mantissa * 2 ^ exponent` with a sign, an infinity, or not a number. A finite double
made by `ofRatio` has a mantissa below `2 ^ 53`, and at least `2 ^ 52` unless the exponent is the
least one. -/
inductive Binary64 where
  | finite (negative : Bool) (mantissa : Nat) (exponent : Int)
  | infinite (negative : Bool)
  | nan
deriving Repr, DecidableEq

namespace Binary64

/-- The least exponent of a double. -/
def leastExponent : Int := -1074

def zero : Binary64 := finite false 0 leastExponent

/-- `numerator / denominator * 2 ^ (-exponent)`, as a fraction of naturals. -/
def scale (numerator denominator : Nat) (exponent : Int) : Nat × Nat :=
  if exponent < 0 then (numerator * Nat.pow 2 (-exponent).toNat, denominator)
  else (numerator, denominator * Nat.pow 2 exponent.toNat)

/-- The nearest natural to a fraction; a tie goes to the even one. -/
def roundHalfEven (numerator denominator : Nat) : Nat :=
  let quotient := numerator / denominator
  let twice := 2 * (numerator % denominator)
  if twice < denominator || (twice == denominator && quotient % 2 == 0) then quotient
  else quotient + 1

/-- The exponent at which a positive fraction has a mantissa of 53 bits. -/
def exponentFor (numerator denominator : Nat) : Int :=
  let guess : Int := numerator.log2 - denominator.log2 - 52
  let (n, d) := scale numerator denominator guess
  let exact := if n / d < Nat.pow 2 52 then guess - 1 else guess
  max exact leastExponent

/-- The double nearest to a fraction. -/
def ofRatio (negative : Bool) (numerator denominator : Nat) : Binary64 :=
  if numerator = 0 then finite negative 0 leastExponent
  else
    let exponent := exponentFor numerator denominator
    let (n, d) := scale numerator denominator exponent
    let rounded := roundHalfEven n d
    let (mantissa, exponent) :=
      if rounded = Nat.pow 2 53 then (Nat.pow 2 52, exponent + 1) else (rounded, exponent)
    if exponent > 971 then infinite negative else finite negative mantissa exponent

/-- The double nearest to `digits * 10 ^ power`. Powers far outside the range of doubles are
decided by the number of digits alone. -/
def ofDecimal (negative : Bool) (digits : Nat) (power : Int) : Binary64 :=
  if digits = 0 then finite negative 0 leastExponent
  else
    let magnitude := power + (Nat.toDigits 10 digits).length
    if magnitude > 400 then infinite negative
    else if magnitude < -400 then finite negative 0 leastExponent
    else if power < 0 then ofRatio negative digits (Nat.pow 10 (-power).toNat)
    else ofRatio negative (digits * Nat.pow 10 power.toNat) 1

def ofInt (n : Int) : Binary64 := ofRatio (n < 0) n.natAbs 1

/-- The signed numerator and the denominator of a finite double. -/
def toRatio? : Binary64 → Option (Int × Nat)
  | finite negative mantissa exponent =>
    let (n, d) := scale mantissa 1 (-exponent)
    some (if negative then -(n : Int) else n, d)
  | _ => none

def add (x y : Binary64) : Binary64 :=
  match x.toRatio?, y.toRatio? with
  | some (a, b), some (c, d) =>
    let sum := a * d + c * b
    ofRatio (sum < 0) sum.natAbs (b * d)
  | _, _ => match x, y with
    | nan, _ | _, nan => nan
    | infinite s, infinite t => if s = t then infinite s else nan
    | infinite s, _ | _, infinite s => infinite s
    | _, _ => nan

def mul (x y : Binary64) : Binary64 :=
  match x, y with
  | nan, _ | _, nan => nan
  | finite s m _, infinite t | infinite t, finite s m _ =>
    if m = 0 then nan else infinite (s != t)
  | infinite s, infinite t => infinite (s != t)
  | finite s _ _, finite t _ _ => match x.toRatio?, y.toRatio? with
    | some (a, b), some (c, d) => ofRatio (s != t) (a * c).natAbs (b * d)
    | _, _ => nan

def neg : Binary64 → Binary64
  | finite s m e => finite (!s) m e
  | infinite s => infinite (!s)
  | nan => nan

/-- The integer that a double equals, if there is one. -/
def toInt? (x : Binary64) : Option Int :=
  match x.toRatio? with
  | some (n, d) => if n % d = 0 then some (n / d) else none
  | none => none

/-! ## Shortest decimals -/

/-- Digits and a power of ten: the value is `digits * 10 ^ power`. -/
structure Decimal where
  digits : Nat
  power : Int
deriving Repr, DecidableEq

/-- The reals that round to a positive double lie between these two fractions over one common
denominator; the middle component is the double itself. The ends belong to the interval exactly
when the mantissa is even. -/
structure Interval where
  low : Nat
  value : Nat
  high : Nat
  denominator : Nat
  closed : Bool
deriving Repr

def interval (mantissa : Nat) (exponent : Int) : Interval :=
  let below := if mantissa = Nat.pow 2 52 ∧ exponent > leastExponent then 1 else 2
  let (unit, denominator) := scale 1 4 (-exponent)
  ⟨(4 * mantissa - below) * unit, 4 * mantissa * unit, (4 * mantissa + 2) * unit, denominator,
    mantissa % 2 == 0⟩

/-- The same interval in units of a power of ten. -/
def Interval.inUnits (i : Interval) (power : Int) : Interval :=
  if power < 0 then
    let f := Nat.pow 10 (-power).toNat
    ⟨i.low * f, i.value * f, i.high * f, i.denominator, i.closed⟩
  else { i with denominator := i.denominator * Nat.pow 10 power.toNat }

def Interval.holds (i : Interval) (n : Nat) : Bool :=
  let scaled := n * i.denominator
  if i.closed then i.low ≤ scaled && scaled ≤ i.high else i.low < scaled && scaled < i.high

/-- The nearer of the two naturals around the value that lie in the interval, if one does. -/
def Interval.nearest? (i : Interval) : Option Nat :=
  let floor := i.value / i.denominator
  let rest := i.value % i.denominator
  match i.holds floor, i.holds (floor + 1) with
  | true, true =>
    let twice := 2 * rest
    some (if twice < i.denominator || (twice == i.denominator && floor % 2 == 0) then floor
      else floor + 1)
  | true, false => some floor
  | false, true => some (floor + 1)
  | false, false => none

/-- The number of digits before the point of a fraction: the least `k` with the fraction below
`10 ^ k`. It is found by counting down from an estimate that is never too small. -/
def pointPosition (numerator denominator : Nat) : Int :=
  let bits : Int := (numerator.log2 : Int) - denominator.log2 + 1
  let start : Int := bits * 30103 / 100000 + 2
  let below (k : Int) : Bool :=
    if k < 0 then numerator * Nat.pow 10 (-k).toNat < denominator
    else numerator < denominator * Nat.pow 10 k.toNat
  (List.range 6).foldl (fun k _ => if below (k - 1) then k - 1 else k) start

/-- Removes factors of ten from the digits. -/
def Decimal.stripZeros (d : Decimal) : Nat → Decimal
  | 0 => d
  | n + 1 =>
    if d.digits % 10 = 0 && d.digits != 0 then
      Decimal.stripZeros ⟨d.digits / 10, d.power + 1⟩ n
    else d

/-- The fewest digits that read back as `mantissa * 2 ^ exponent`, the nearest such. -/
def shortest (mantissa : Nat) (exponent : Int) : Decimal :=
  let i := interval mantissa exponent
  let position := pointPosition i.value i.denominator
  let candidates := (List.range 17).filterMap fun (n : Nat) =>
    let power := position - (n + 1)
    ((i.inUnits power).nearest?).map fun digits => (⟨digits, power⟩ : Decimal)
  match candidates with
  | d :: _ => d.stripZeros 18
  | [] => ⟨mantissa, exponent⟩

/-- How doubles are written: digits stay positional while the first of them stands from four places
behind the point to sixteen before it, whole numbers keep a zero behind the point, and exponents
have a sign and at least two digits. -/
def display : Binary64 → String
  | nan => "nan"
  | infinite negative => if negative then "-inf" else "inf"
  | finite negative mantissa exponent =>
    let sign := if negative then "-" else ""
    if mantissa = 0 then sign ++ "0.0"
    else
      let d := shortest mantissa exponent
      let digits := Nat.toDigits 10 d.digits
      let point : Int := d.power + digits.length
      let zeros (n : Int) : List Char := List.replicate n.toNat '0'
      let text : List Char :=
        if -4 < point && point ≤ 16 then
          if point ≤ 0 then '0' :: '.' :: zeros (-point) ++ digits
          else if d.power ≥ 0 then digits ++ zeros d.power ++ ['.', '0']
          else digits.take point.toNat ++ '.' :: digits.drop point.toNat
        else
          let exponent := point - 1
          let places := Nat.toDigits 10 exponent.natAbs
          let fraction := match digits.drop 1 with
            | [] => []
            | more => '.' :: more
          digits.take 1 ++ fraction ++ 'e' :: (if exponent < 0 then '-' else '+') ::
            List.replicate (2 - places.length) '0' ++ places
      sign ++ String.ofList text

end Binary64

end Remap
