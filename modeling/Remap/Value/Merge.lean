import Remap.Value.Basic

/-!
# Merging tables

One table laid over another, key by key: where both hold a table the two are merged in turn,
elsewhere the upper value replaces the lower one, whatever it was. The keys of the lower table
keep their places and new keys follow.

`Value.overlay` goes along the upper value. An upper value that contains itself is first opened by
`Value.openedAlong?` wherever both values have tables; every other value it leaves as it is. Two
values that contain themselves along the same keys have no end of such places and cannot be merged.
-/

namespace Remap.Value

mutual

/-- The value `upper` laid over `lower`. -/
def overlay (lower : Value) : Value → Value
  | table upper => match lower.opened with
    | table entries => table (overlayEntries entries upper)
    | _ => table upper
  | upper => upper

/-- The entries of `upper` laid over those of `lower`. -/
def overlayEntries (lower : List (Scalar × Value)) : List (Scalar × Value) → List (Scalar × Value)
  | [] => lower
  | (key, upper) :: rest =>
    let merged := match lower.lookup key with
      | some old => old.overlay upper
      | none => upper
    overlayEntries (Assoc.put lower key merged) rest

end

/-! ## Opening -/

mutual

/-- How many tables there are in a value. -/
def tableCount : Value → Nat
  | list items => tablesAmong items
  | pair a b => a.tableCount + b.tableCount
  | table entries => tablesUnder entries + 1
  | cyclic parts _ => tablesAmong parts
  | _ => 0

def tablesAmong : List Value → Nat
  | [] => 0
  | first :: rest => first.tableCount + tablesAmong rest

def tablesUnder : List (Scalar × Value) → Nat
  | [] => 0
  | (_, first) :: rest => first.tableCount + tablesUnder rest

end

/-- The entries of `upper`, each opened along that of `lower` with its key. -/
def openEntriesBy? (opened? : Value → Value → Option Value) (lower upper : List (Scalar × Value)) :
    Option (List (Scalar × Value)) :=
  upper.mapM fun (key, value) => match lower.lookup key with
    | some old => (opened? old value).map (key, ·)
    | none => some (key, value)

/-- The value `upper` with its tables in sight wherever both values have tables, unless one comes
through more tables than `steps` on the way to one of these. -/
def openedWithin? (steps : Nat) (lower upper : Value) : Option Value :=
  match lower.opened, upper.opened with
  | table entries, table inner => match steps with
    | 0 => none
    | steps + 1 => (openEntriesBy? (openedWithin? steps) entries inner).map table
  | _, _ => some upper

/-- The value `upper` with its tables in sight wherever both values have tables. A way through more
pairs of tables than there are comes through one pair twice, and so has no end. -/
def openedAlong? (lower upper : Value) : Option Value :=
  openedWithin? (lower.tableCount * upper.tableCount) lower upper

/-- The entries of `upper` with their tables in sight wherever both tables have tables. -/
def openEntries? (lower upper : List (Scalar × Value)) : Option (List (Scalar × Value)) :=
  openEntriesBy? openedAlong? lower upper

end Remap.Value
