import Remap.Yaml.Node

/-!
# Merge keys

A mapping may hold, under merge keys, mappings or sequences of mappings. Flattening a mapping puts
the entries of those in front of its own entries, where the own ones win over them, and takes the
merge keys away; the merged mappings are flattened as well. Of the mappings of a sequence the first
comes last and so wins over the others. A default key is a text like any other once its mapping has
been flattened.

Each round of flattening takes a merge key away and none is ever added, so that a mapping may be
merged into itself: what is left of it by then is merged.
-/

namespace Remap.Yaml.Graph

/-- The value under the first merge key of some entries, and the other entries. -/
def takeMerge? (graph : Graph) : List (Nat × Nat) → Option (Nat × List (Nat × Nat))
  | [] => none
  | (key, value) :: rest =>
    if graph.tag key = .merge then some (value, rest)
    else (graph.takeMerge? rest).map fun (merged, others) => (merged, (key, value) :: others)

/-- The mappings that are merged for the value of a merge key. -/
def mergeSources (graph : Graph) (value : Nat) : Except Error (List Nat) :=
  match (graph.node value).content with
  | .mapping _ => .ok [value]
  | .sequence items => if items.all graph.isMapping then .ok items else .error .malformed
  | .scalar _ => .error .malformed

/-- Makes texts of the default keys of some entries. -/
def nameDefaults (graph : Graph) (entries : List (Nat × Nat)) : Graph :=
  entries.foldl (fun graph (key, _) =>
    if graph.tag key = .default then graph.setTag key .text else graph) graph

/-- Flattens a mapping, of which `merged` has been merged before. -/
def flattenFrom : Nat → List (Nat × Nat) → Nat → Graph → Except Error Graph
  | rounds, merged, id, graph =>
    let entries := graph.entries id
    match rounds, graph.takeMerge? entries with
    | rounds + 1, some (value, others) => do
      let graph := graph.setContent id (.mapping others)
      let sources ← graph.mergeSources value
      let (graph, more) ← sources.foldlM (fun (graph, more) source => do
        let graph ← flattenFrom rounds [] source graph
        return (graph, graph.entries source ++ more)) (graph, [])
      flattenFrom rounds (merged ++ more) id graph
    | _, _ => .ok ((graph.nameDefaults entries).setContent id (.mapping (merged ++ entries)))

/-- How many merge keys there are. -/
def mergeCount (graph : Graph) : Nat :=
  graph.foldl (fun count node => match node.content with
    | .mapping entries => count + entries.countP fun (key, _) => graph.tag key = .merge
    | _ => count) 0

end Remap.Yaml.Graph
