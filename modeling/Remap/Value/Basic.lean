import Remap.Assoc
import Remap.Number.Binary64
import Remap.Number.Digits
import Remap.Text.Quoted
import Remap.Value.Calendar

/-!
# Values of documents

What a settings file, an environment variable or a source map document holds before it is checked
for its meaning: scalars, lists, and tables in the order they were written. Keys of a table are
scalars; two keys are the same when they are equal, numbers and truth values being compared as
numbers.

A list or table may contain itself. Such a value is one of several parts that refer to each other;
`Value.opened` shows its outermost layer, whose members are values of their own again.

`Value.display` is the text of a value as messages show it: a string by itself stands bare, inside
a list or table it is quoted. Where a value comes up inside itself three dots stand for it.
-/

namespace Remap

inductive Scalar where
  | null
  | bool (b : Bool)
  | int (n : Int)
  | float (x : Binary64)
  | str (s : String)
  | bytes (bytes : List UInt8)
  | date (d : Date)
  | timestamp (t : Timestamp)
deriving Repr, DecidableEq

namespace Scalar

/-- What decides whether two keys are the same: numbers that are whole count as integers, and
timestamps that tell their offset as points of time. -/
inductive Key where
  | plain (s : Scalar)
  | instant (microseconds : Int)
deriving DecidableEq

def key : Scalar → Key
  | bool b => .plain (int (if b then 1 else 0))
  | float x => match x.toInt? with
    | some n => .plain (int n)
    | none => .plain (float x)
  | timestamp t => match t.instant? with
    | some microseconds => .instant microseconds
    | none => .plain (timestamp t)
  | s => .plain s

instance : BEq Scalar := ⟨fun a b => decide (a.key = b.key)⟩

theorem beq_iff {a b : Scalar} : (a == b) = true ↔ a.key = b.key := decide_eq_true_iff

instance : EquivBEq Scalar where
  rfl := beq_iff.2 rfl
  symm h := beq_iff.2 (beq_iff.1 h).symm
  trans h h' := beq_iff.2 ((beq_iff.1 h).trans (beq_iff.1 h'))

/-- A scalar as it appears inside a list or table. -/
def quoted : Scalar → String
  | null => "None"
  | bool b => if b then "True" else "False"
  | int n => toString n
  | float x => x.display
  | str s => Text.quote s
  | bytes b => Text.quoteBytes b
  | date d => d.quoted
  | timestamp t => t.quoted

/-- Whether a scalar is an integer with more digits than are written. -/
def isLongInteger : Scalar → Bool
  | int n => Nat.pow 10 DigitLimit.allowed ≤ n.natAbs
  | _ => false

/-- A scalar as it appears by itself. -/
def display : Scalar → String
  | str s => s
  | date d => d.display
  | timestamp t => t.display
  | s => s.quoted

end Scalar

inductive Value where
  | scalar (s : Scalar)
  | list (items : List Value)
  | pair (first second : Value)
  | set (members : List Scalar)
  | table (entries : List (Scalar × Value))
  /-- One of several lists and tables that may contain each other. -/
  | cyclic (parts : List Value) (index : Nat)
  /-- Within such parts, the one at an index. -/
  | part (index : Nat)
deriving Repr

namespace Value

def null : Value := scalar .null
def bool (b : Bool) : Value := scalar (.bool b)
def int (n : Int) : Value := scalar (.int n)
def str (s : String) : Value := scalar (.str s)

instance : Coe String Value := ⟨str⟩

/-- A table whose keys are strings. -/
def record (entries : List (String × Value)) : Value :=
  table (entries.map fun (k, v) => (.str k, v))

/-- A member of one of `parts` as a value of its own. -/
def outside (parts : List Value) : Value → Value
  | part i => cyclic parts i
  | pair a b => pair (outside parts a) (outside parts b)
  | v => v

/-- The same value with its outermost layer in sight. -/
def opened : Value → Value
  | cyclic parts i => match parts[i]? with
    | some (list items) => list (items.map (outside parts))
    | some (table entries) => table (entries.map fun (k, v) => (k, outside parts v))
    | some v => v
    | none => null
  | v => v

def isNull : Value → Bool
  | scalar .null => true
  | _ => false

def isTable (v : Value) : Bool :=
  match v.opened with
  | table _ => true
  | _ => false

/-- The value at a string key of a table. -/
def get? (v : Value) (key : String) : Option Value :=
  match v.opened with
  | table entries => entries.lookup (.str key)
  | _ => none

/-- The values that stand for nothing given: null, false, zero, and whatever is empty. -/
def isTrivial : Value → Bool
  | scalar s => match s with
    | .null => true
    | .bool b => !b
    | .int n => n == 0
    | .float (.finite _ mantissa _) => mantissa == 0
    | .str s => s.isEmpty
    | .bytes b => b.isEmpty
    | _ => false
  | list items => items.isEmpty
  | set members => members.isEmpty
  | table entries => entries.isEmpty
  | pair _ _ | cyclic _ _ | part _ => false

/-! ## Text of a value -/

/-- What stands for a value inside itself. -/
def ellipsis : Value → String
  | list _ => "[...]"
  | table _ => "\x7b...\x7d"
  | _ => "..."

/-- A part that values refer to: what stands for it inside itself, and its text, given the texts of
the parts that it refers to in turn. -/
structure PartText where
  ellipsis : String
  text : (Nat → String) → String

/-- The text of the part at an index, outside of the parts in `inside`. Each step leads into one more
part, so that steps beyond the number of parts are not needed. -/
def partText (parts : List PartText) : Nat → List Nat → Nat → String
  | 0, _, _ => ""
  | steps + 1, inside, i => match parts[i]? with
    | some found =>
      if inside.contains i then found.ellipsis else found.text (partText parts steps (i :: inside))
    | none => ""

mutual

/-- A value as it appears inside a list or table, given the texts of the parts around it. -/
def quotedIn : Value → (Nat → String) → String
  | scalar s, _ => s.quoted
  | list items, around => "[" ++ quotedItems items around ++ "]"
  | pair a b, around => "(" ++ a.quotedIn around ++ ", " ++ b.quotedIn around ++ ")"
  | set [], _ => "set()"
  | set members, _ => "\x7b" ++ ", ".intercalate (members.map Scalar.quoted) ++ "\x7d"
  | table entries, around => "\x7b" ++ quotedEntries entries around ++ "\x7d"
  | cyclic parts i, _ => partText (partTexts parts) (parts.length + 1) [] i
  | part i, around => around i

def quotedItems : List Value → (Nat → String) → String
  | [], _ => ""
  | [item], around => item.quotedIn around
  | item :: rest, around => item.quotedIn around ++ ", " ++ quotedItems rest around

def quotedEntries : List (Scalar × Value) → (Nat → String) → String
  | [], _ => ""
  | [(key, value)], around => key.quoted ++ ": " ++ value.quotedIn around
  | (key, value) :: rest, around =>
    key.quoted ++ ": " ++ value.quotedIn around ++ ", " ++ quotedEntries rest around

def partTexts : List Value → List PartText
  | [] => []
  | first :: rest => ⟨first.ellipsis, first.quotedIn⟩ :: partTexts rest

end

/-- A value as it appears inside a list or table. -/
def quoted (v : Value) : String := v.quotedIn fun _ => ""

/-- A value as it appears by itself. -/
def display : Value → String
  | scalar s => s.display
  | v => v.quoted

/-! ## Values without a text -/

/-- Whether the part at an index holds something, given what holds of each part when it is known
which of the parts it refers to do. -/
def partHolds (parts : List ((Nat → Bool) → Bool)) : Nat → List Nat → Nat → Bool
  | 0, _, _ => false
  | steps + 1, inside, i => match parts[i]? with
    | some found => !inside.contains i && found (partHolds parts steps (i :: inside))
    | none => false

mutual

/-- Whether a value holds an integer with more digits than are written, given which of the parts
around it do. -/
def holdsLongIn : Value → (Nat → Bool) → Bool
  | scalar s, _ => s.isLongInteger
  | list items, around => anyHoldsLong items around
  | pair a b, around => a.holdsLongIn around || b.holdsLongIn around
  | set members, _ => members.any Scalar.isLongInteger
  | table entries, around => entryHoldsLong entries around
  | cyclic parts i, _ => partHolds (partHoldings parts) (parts.length + 1) [] i
  | part i, around => around i

def anyHoldsLong : List Value → (Nat → Bool) → Bool
  | [], _ => false
  | item :: rest, around => item.holdsLongIn around || anyHoldsLong rest around

def entryHoldsLong : List (Scalar × Value) → (Nat → Bool) → Bool
  | [], _ => false
  | (key, value) :: rest, around =>
    key.isLongInteger || value.holdsLongIn around || entryHoldsLong rest around

def partHoldings : List Value → List ((Nat → Bool) → Bool)
  | [] => []
  | first :: rest => first.holdsLongIn :: partHoldings rest

end

/-- Whether a value holds an integer with more digits than are written. -/
def holdsLongInteger (v : Value) : Bool := v.holdsLongIn fun _ => false

end Value

end Remap
