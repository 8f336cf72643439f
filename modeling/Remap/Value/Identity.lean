import Remap.Value.Basic

/-!
# Identity of values

Two values are identical when they are written alike: other than for `Value.same` a truth value is
no number, and the order of entries counts.
-/

namespace Remap.Value

mutual

def identical : Value → Value → Bool
  | scalar s, scalar t => s = t
  | list items, list others => identicalItems items others
  | pair a b, pair c d => a.identical c && b.identical d
  | set members, set others => members = others
  | table entries, table others => identicalEntries entries others
  | cyclic parts i, cyclic others j => identicalItems parts others && i = j
  | part i, part j => i = j
  | _, _ => false

def identicalItems : List Value → List Value → Bool
  | [], [] => true
  | first :: rest, other :: others => first.identical other && identicalItems rest others
  | _, _ => false

def identicalEntries : List (Scalar × Value) → List (Scalar × Value) → Bool
  | [], [] => true
  | (key, first) :: rest, (k, other) :: others =>
    key = k && first.identical other && identicalEntries rest others
  | _, _ => false

end

mutual

theorem identical_iff : ∀ {v w : Value}, v.identical w ↔ v = w
  | scalar s, w => by cases w <;> simp [identical]
  | list items, w => by cases w <;> simp [identical, identicalItems_iff]
  | pair a b, w => by cases w <;> simp [identical, identical_iff]
  | set members, w => by cases w <;> simp [identical]
  | table entries, w => by cases w <;> simp [identical, identicalEntries_iff]
  | cyclic parts i, w => by cases w <;> simp [identical, identicalItems_iff]
  | part i, w => by cases w <;> simp [identical]

theorem identicalItems_iff :
    ∀ {items others : List Value}, identicalItems items others ↔ items = others
  | [], others => by cases others <;> simp [identicalItems]
  | first :: rest, others => by
    cases others <;> simp [identicalItems, identical_iff, identicalItems_iff]

theorem identicalEntries_iff :
    ∀ {entries others : List (Scalar × Value)}, identicalEntries entries others ↔ entries = others
  | [], others => by cases others <;> simp [identicalEntries]
  | (key, first) :: rest, others => by
    cases others <;> simp [identicalEntries, identical_iff, identicalEntries_iff, Prod.ext_iff]

end

instance : DecidableEq Value := fun _ _ => decidable_of_iff _ identical_iff

end Remap.Value
