import Remap.Assoc
import Remap.Value.Basic
import Remap.Yaml.Merging
import Remap.Yaml.Scalar.Reading

/-!
# What nodes stand for

A scalar node stands for a scalar, which is read when the node is first met. A collection node
stands for the collection of its number, whose items are collected later: collections are taken in
the order in which they were met, so that every node is met before anything that lies deeper than
it. When several nodes cannot be read the error of the first in this order counts.

Each node is met once, whichever of its places comes first. A mapping is flattened when its entries
are collected; what is done to its keys then shows in all of their places that are met later.
-/

namespace Remap.Yaml

/-- What a node stands for: a scalar, or the collection with the number of the node. -/
inductive Meaning where
  | scalar (s : Scalar)
  | collection (id : Nat)
deriving Repr

/-- The items of a collection. -/
inductive Collection where
  | list (items : List Meaning)
  | pairs (items : List (Meaning × Meaning))
  | set (members : List Scalar)
  | table (entries : List (Scalar × Meaning))
deriving Repr

def Tag.isCollection (tag : Tag) : Bool :=
  [sequence, mapping, set, orderedMapping, pairs].contains tag

/-- The work on a graph. -/
structure Collecting where
  graph : Graph
  /-- What the nodes stand for that have been met. -/
  met : Array (Option Meaning)
  /-- The items of the collections that have been taken. -/
  collections : Array (Option Collection)
  /-- Collections that have been met but not taken, the first one first. -/
  waiting : List Nat := []
  /-- Collections met after those, the last one first. -/
  later : List Nat := []

abbrev Collect := StateT Collecting (Except Error)

namespace Collect

/-- The scalar that a node stands for. The time in a mapping is not looked for under its default
key, though the mapping must have one. -/
def readScalar (graph : Graph) (id : Nat) : Except Error Scalar := do
  let text ← graph.text id
  if graph.tag id = .timestamp && graph.isMapping id then throw .kind
  Reading.scalar (graph.tag id) text

/-- What a node stands for. -/
def meet (id : Nat) : Collect Meaning := do
  if let some (some meaning) := (← get).met[id]? then return meaning
  let graph := (← get).graph
  if (graph.tag id).isCollection then
    modify fun c =>
      { c with met := c.met.setIfInBounds id (some (.collection id)), later := id :: c.later }
    return .collection id
  else
    let s ← readScalar graph id
    modify fun c => { c with met := c.met.setIfInBounds id (some (.scalar s)) }
    return .scalar s

/-- The key that a node stands for; only a scalar is one. -/
def meetKey (id : Nat) : Collect Scalar := do
  let .scalar s ← meet id | throw .malformed
  return s

def items (id : Nat) : Collect (List Meaning) := do
  let .sequence items := ((← get).graph.node id).content | throw .malformed
  items.mapM meet

/-- The entries of a mapping after it has been flattened; there are `merges` merge keys at most. -/
def entries (merges id : Nat) : Collect (List (Scalar × Meaning)) := do
  if !(← get).graph.isMapping id then throw .malformed
  let graph ← modifyGet fun c => (c.graph, { c with graph := #[] })
  let graph ← Graph.flattenFrom merges [] id graph
  let flattened := graph.entries id
  modify fun c => { c with graph }
  let entries ← flattened.mapM fun (key, value) => do
    let key ← meetKey key
    return (key, ← meet value)
  return Assoc.ofList entries

/-- The items of a sequence of mappings that have one entry each. -/
def pairs (id : Nat) : Collect (List (Meaning × Meaning)) := do
  let .sequence items := ((← get).graph.node id).content | throw .malformed
  items.mapM fun item => do
    let [(key, value)] := (← get).graph.entries item | throw .malformed
    let key ← meet key
    return (key, ← meet value)

/-- Takes a collection. -/
def take (merges id : Nat) : Collect Unit := do
  let collection ← match (← get).graph.tag id with
    | .sequence => Collection.list <$> items id
    | .mapping => Collection.table <$> entries merges id
    | .set => (fun entries => Collection.set (entries.map Prod.fst)) <$> entries merges id
    | _ => Collection.pairs <$> pairs id
  modify fun c => { c with collections := c.collections.setIfInBounds id (some collection) }

/-- Takes the collections that wait, and those that are met meanwhile. -/
def takeAll (merges : Nat) : Nat → Collect Unit
  | 0 => throw .malformed
  | rounds + 1 => do
    let progress ← get
    match progress.waiting, progress.later with
    | id :: waiting, _ =>
      modify fun c => { c with waiting }
      take merges id
      takeAll merges rounds
    | [], [] => return
    | [], later =>
      modify fun c => { c with waiting := later.reverse, later := [] }
      takeAll merges rounds

/-- What the root of a graph stands for. Each collection is taken once, and as often at most those
that were met later take their turn. -/
def root (id : Nat) : Collect Meaning := do
  let graph := (← get).graph
  let meaning ← meet id
  takeAll graph.mergeCount (2 * graph.size + 2)
  return meaning

end Collect

/-- What a root stands for, and the collections that it reaches by their numbers. -/
structure Construction where
  root : Meaning
  collections : Array (Option Collection)

def Construction.ofGraph (graph : Graph) (root : Nat) : Except Error Construction := do
  let (meaning, collecting) ← (Collect.root root).run
    { graph, met := graph.map fun _ => none, collections := graph.map fun _ => none }
  return ⟨meaning, collecting.collections⟩

end Remap.Yaml
