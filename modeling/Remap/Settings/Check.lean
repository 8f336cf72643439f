import Remap.Assoc
import Remap.Settings.Issue
import Remap.Text.Bytes

/-!
# Checks

How a value is read as a setting. A check gives what the value stands for, or refuses it with all
its issues: `Check.both` and `Check.all` look at every part even after one has failed.

Texts stand for truth values, and bytes for texts; nothing else is converted. Of a value that
contains itself only the layers that a check asks for are looked at.
-/

namespace Remap

/-- The outcome of a check. -/
abbrev Check (α : Type) := Except Refusal α

namespace Check

def refuse (cause : IssueCause) (input : Value) : Check α :=
  .error (.issues ⟨[], cause, input⟩ [])

/-- The check of a value from that of its part at `step`. -/
def under (step : Step) (check : Check α) : Check α := check.mapError (Refusal.under step)

/-- Both outcomes, or all that is wrong with either. -/
def both (left : Check α) (right : Check β) : Check (α × β) :=
  match left, right with
  | .ok a, .ok b => .ok (a, b)
  | .ok _, .error refusal => .error refusal
  | .error refusal, .ok _ => .error refusal
  | .error refusal, .error other => .error (refusal.and other)

/-- All outcomes, or all that is wrong with any. -/
def all : List (Check α) → Check (List α)
  | [] => .ok []
  | check :: rest => (both check (all rest)).map fun (a, more) => a :: more

/-! ## Single values -/

/-- A text, also one given as the bytes that encode it. -/
def text (value : Value) : Check String :=
  match value with
  | .scalar (.str s) => .ok s
  | .scalar (.bytes bytes) => match Text.decode? ⟨bytes.toArray⟩ with
    | some decoded => .ok (String.ofList decoded)
    | none => refuse .undecodableText value
  | _ => refuse .notText value

/-- The words for a truth value, in any case. -/
def flagOfWord? (word : String) : Option Bool :=
  let word := String.ofList (word.toList.map Char.toLower)
  if ["1", "true", "t", "yes", "y", "on"].contains word then some true
  else if ["0", "false", "f", "no", "n", "off"].contains word then some false
  else none

def flagOfNumber? : Int → Option Bool
  | 0 => some false
  | 1 => some true
  | _ => none

/-- Half the number of integers of 64 bits. -/
def wordBound : Int := Nat.pow 2 63

/-- Whether an integer is one of 64 bits. -/
def isWord (n : Int) : Bool := -wordBound ≤ n && n < wordBound

/-- A truth value, or a word or number that stands for one. A number beyond 64 bits is not even looked
at. -/
def flag (value : Value) : Check Bool :=
  let found (flag? : Option Bool) : Check Bool := match flag? with
    | some b => .ok b
    | none => refuse .unreadableFlag value
  match value with
  | .scalar (.bool b) => .ok b
  | .scalar (.str s) => found (flagOfWord? s)
  | .scalar (.bytes bytes) =>
    found ((Text.decode? ⟨bytes.toArray⟩).bind fun word => flagOfWord? (String.ofList word))
  | .scalar (.int n) => if isWord n then found (flagOfNumber? n) else refuse .notFlag value
  | .scalar (.float x) => match x.toInt? with
    | some n =>
      if isWord n && n ≠ -wordBound then found (flagOfNumber? n) else refuse .notFlag value
    | none => refuse .notFlag value
  | _ => refuse .notFlag value

/-- One of several things that have names. -/
def choice (choices : List (String × α)) (value : Value) : Check α :=
  let chosen := match value with
    | .scalar (.str s) => choices.lookup s
    | _ => none
  match chosen with
  | some a => .ok a
  | none => refuse (.notOneOf (choices.map Prod.fst)) value

/-- A choice that may be left open by giving null. -/
def optionalChoice (choices : List (String × α)) (value : Value) : Check (Option α) :=
  if value.isNull then .ok none else (choice choices value).map some

/-! ## Groups -/

/-- A list whose items pass a check. -/
def items (check : Value → Check α) (value : Value) : Check (List α) :=
  let each (values : List Value) : Check (List α) :=
    all (values.mapIdx fun i item => (check item).under (.item i))
  match value.opened with
  | .list values => each values
  | .pair a b => each [a, b]
  | .set members => each (members.map .scalar)
  | _ => refuse .notList value

/-- The step to a key, as issues name it; a truth value is named by its number. -/
def keyStep : Scalar → Step
  | .str name => .key name
  | .bool b => .key (if b then "1" else "0")
  | key => .key key.quoted

/-- A table of texts. Of two keys with the same text the later counts. -/
def texts (value : Value) : Check (List (String × String)) :=
  match value.opened with
  | .table entries =>
    let checked := all (entries.map fun (key, entry) =>
      both ((text (.scalar key)).under (.key "[key]") |>.under (keyStep key))
        ((text entry).under (keyStep key)))
    checked.map Assoc.ofList
  | _ => refuse .notTable value

/-- The entries of a group of settings. -/
def group (name : String) (value : Value) : Check (List (Scalar × Value)) :=
  match value.opened with
  | .table entries => .ok entries
  | _ => refuse (.notGroup name) value

/-- A setting of a group, or its default if the group does not hold it. -/
def setting (entries : List (Scalar × Value)) (name : String) (default : α)
    (check : Value → Check α) : Check α :=
  match entries.lookup (.str name) with
  | some value => (check value).under (.key name)
  | none => .ok default

end Check

end Remap
