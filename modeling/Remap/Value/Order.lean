import Remap.Value.Basic

/-!
# Equality and order of values

Two values are the same when they hold the same things, numbers and truth values being compared as
numbers and tables without regard to the order of their entries. Numbers have an order, texts have
one, and lists are ordered by their first items that differ; other values that are not the same have
no order.
-/

namespace Remap

namespace Scalar

/-- A number as a fraction; over zero it is an infinity. -/
def fraction? : Scalar → Option (Int × Nat)
  | bool b => some (if b then 1 else 0, 1)
  | int n => some (n, 1)
  | float (.infinite negative) => some (if negative then -1 else 1, 0)
  | float x => x.toRatio?
  | _ => none

/-- The order of two scalars, if they have one. What is not a number at all has no place among the
numbers, though it may be compared with them. -/
def order? (a b : Scalar) : Option Ordering :=
  if a == b then some .eq
  else match a, b with
    | str s, str t => some (compare s t)
    | float .nan, b => if b.fraction?.isSome then some .eq else none
    | a, float .nan => if a.fraction?.isSome then some .eq else none
    | a, b => do
      let (n, d) ← a.fraction?
      let (m, e) ← b.fraction?
      return (compare (n * e) (m * d)).then (compare n m)

end Scalar

namespace Value

mutual

/-- Whether two values hold the same things. -/
def same : Value → Value → Bool
  | scalar a, scalar b => a == b
  | list items, list others => sameItems items others
  | pair a b, pair c d => a.same c && b.same d
  | set members, set others =>
    members.length == others.length && members.all fun s => others.any (s == ·)
  | table entries, table others => entries.length == others.length && sameEntries entries others
  | _, _ => false

def sameItems : List Value → List Value → Bool
  | [], [] => true
  | a :: rest, b :: others => a.same b && sameItems rest others
  | _, _ => false

def sameEntries : List (Scalar × Value) → List (Scalar × Value) → Bool
  | [], _ => true
  | (key, value) :: rest, others =>
    (match others.lookup key with
      | some other => value.same other
      | none => false) && sameEntries rest others

end

instance : BEq Value := ⟨same⟩

mutual

/-- The order of two values, if they have one. -/
def order? : Value → Value → Option Ordering
  | scalar a, scalar b => a.order? b
  | list items, list others => orderItems? items others
  | a, b => if a == b then some .eq else none

def orderItems? : List Value → List Value → Option Ordering
  | [], [] => some .eq
  | [], _ :: _ => some .lt
  | _ :: _, [] => some .gt
  | a :: rest, b :: others => if a == b then orderItems? rest others else a.order? b

end

/-- The order of values; those that have none count as equal. -/
instance : Ord Value := ⟨fun a b => (a.order? b).getD .eq⟩

end Value

end Remap
