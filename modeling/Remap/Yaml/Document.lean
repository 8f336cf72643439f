import Remap.Text.Newline
import Remap.Yaml.Composition
import Remap.Yaml.Layout
import Remap.Yaml.Meaning

/-!
# Values of documents

`Yaml.read` goes from a text over its tokens, its nodes and what they stand for to the value of its
root; a text without a document stands for null.

A collection whose items have values has a value as well. The collections that have none in the end
are those that lead back to themselves: together they are the parts of a cyclic value.

A text is read in pieces as the pass over it goes on, and each piece is refused as a whole for a
character that no text may hold.
-/

namespace Remap.Yaml

/-- Values of collections by their numbers, as far as they are known. -/
abbrev Known := Array (Option Value)

def Meaning.value? (value? : Nat → Option Value) : Meaning → Option Value
  | scalar s => some (.scalar s)
  | collection id => value? id

/-- The value of a collection, if all of its items have values. -/
def Collection.value? (value? : Nat → Option Value) : Collection → Option Value
  | list items => (items.mapM (Meaning.value? value?)).map .list
  | pairs items => (items.mapM fun ((a, b) : Meaning × Meaning) => do
      return Value.pair (← a.value? value?) (← b.value? value?)).map .list
  | set members => some (.set members)
  | table entries => (entries.mapM fun ((key, item) : Scalar × Meaning) =>
      (item.value? value?).map fun v => (key, v)).map .table

namespace Construction

/-- Adds the values of collections whose items have values, from the last collection to the first. -/
def learn (c : Construction) (known : Known) : Known :=
  (List.range known.size).reverse.foldl (fun known id =>
    match known[id]?.join, c.collections[id]?.join with
    | none, some collection =>
      known.setIfInBounds id (collection.value? fun item => known[item]?.join)
    | _, _ => known) known

/-- The collections without a value. -/
def unknown (c : Construction) (known : Known) : List Nat :=
  (List.range known.size).filter fun id =>
    known[id]?.join.isNone && (c.collections[id]?.join).isSome

/-- The values that follow from known ones. Each round but the last finds one at least. -/
def learnAll (c : Construction) : Nat → Known → Known
  | 0, known => known
  | rounds + 1, known =>
    let more := c.learn known
    if (c.unknown more).length = (c.unknown known).length then more else c.learnAll rounds more

/-- The value of the root. -/
def value (c : Construction) : Value :=
  let known := c.learnAll c.collections.size (c.collections.map fun _ => none)
  let cyclic := c.unknown known
  let part (id : Nat) : Value := (known[id]?.join).getD (.part (cyclic.idxOf id))
  match c.root with
  | .scalar s => .scalar s
  | .collection id => match known[id]?.join with
    | some value => value
    | none =>
      let parts := cyclic.filterMap fun id =>
        (c.collections[id]?.join).bind (Collection.value? fun item => some (part item))
      .cyclic parts (cyclic.idxOf id)

end Construction

/-- The length of a piece; two of them are read at first. -/
def pieceLength : Nat := 4096

/-- How many characters have been read when the first `seen` ones have been looked at, if the text is
that long. -/
def readBy (seen : Nat) : Nat :=
  max (2 * pieceLength) ((seen + pieceLength - 1) / pieceLength * pieceLength)

/-- The part of a text that has been read when the pass over it ends. What is malformed stays so
whatever is read behind it, and apart from that only a halt comes before the end of the text. -/
def partRead (text : List Char) : Except Error (Option Composition) → List Char
  | .error (.halt _ seen) => text.take (readBy seen)
  | _ => text

/-- The value of the document in a text. -/
def read (text : List Char) : Except Error Value := do
  let text := Text.unifyLineEnds text
  let (tokens, error) := Token.ofText text
  let composed := Composition.ofTokens? tokens error
  if !(partRead text composed).all isAllowed then throw .malformed
  let some composition ← composed | return .null
  return (← Construction.ofGraph composition.graph composition.root).value

end Remap.Yaml
