import Remap.Yaml.Node
import Remap.Yaml.Scalar.Form
import Remap.Yaml.Token

/-!
# From tokens to nodes

The graph of a document is read from its tokens by recursive descent. Blocks and flow collections
differ only in what separates their items; an item that is missing is an empty scalar. A node can be
referred to as soon as it has started, and no two nodes have the same anchor.

A text whose tokens break off with an error is read as far as they go: what is wrong with the tokens
before the error counts first.
-/

namespace Remap.Yaml

/-! ## Tags of nodes -/

/-- Handles and the beginnings of URIs that they stand for. -/
abbrev Handles := List (String × String)

def Handles.default : Handles := [("!", "!"), ("!!", Tag.coreUri)]

/-- What may stand in front of the content of a node. A tag is given by its URI; the URI `!` leaves
the kind to the form of the node, even of a scalar that is not plain. -/
structure Properties where
  anchor : Option String := none
  uri : Option String := none

namespace Properties

def isNone (p : Properties) : Bool := p.anchor.isNone && p.uri.isNone

def scalarTag (p : Properties) (plain : Bool) (text : List Char) : Tag :=
  match p.uri with
  | none => if plain then .ofForm text else .text
  | some uri => if uri = "!" then .ofForm text else .ofUri uri

/-- The tag of a collection whose kind is `usual` unless a tag says otherwise. -/
def collectionTag (p : Properties) (usual : Tag) : Tag :=
  match p.uri with
  | none => usual
  | some uri => if uri = "!" then usual else .ofUri uri

end Properties

/-! ## Reading nodes -/

/-- The tokens still to be read, the nodes and the anchors so far. -/
structure Progress where
  tokens : List Token
  /-- The error that comes after the tokens, if it is not the end of the text. -/
  error : Option Error
  anchors : List (String × Nat) := []
  graph : Graph := #[]

abbrev Compose := StateT Progress (Except Error)

namespace Compose

/-- The token that comes next; none at the end of the text. -/
def peek : Compose (Option Token) := do
  let progress ← get
  match progress.tokens, progress.error with
  | token :: _, _ => return some token
  | [], some error => throw error
  | [], none => return none

def advance : Compose Unit := modify fun p => { p with tokens := p.tokens.drop 1 }

/-- Reads a token if it comes next. -/
def accept (token : Token) : Compose Bool := do
  if (← peek) ≠ some token then return false
  advance
  return true

def expect (token : Token) : Compose Unit := do
  if !(← accept token) then throw .malformed

/-- Whether one of some tokens comes next. -/
def comes (tokens : List Token) : Compose Bool := do
  return (← peek).any tokens.contains

/-! ### Directives -/

/-- Checks a directive in front of a document after those in `before`. -/
def checkDirective (before : List Directive) : Directive → Compose Unit
  | .version major _ =>
    let isVersion : Directive → Bool := fun | .version _ _ => true | _ => false
    if before.any isVersion || major ≠ 1 then throw .malformed else pure ()
  | .tag handle _ =>
    let declares : Directive → Bool := fun | .tag other _ => other = handle | _ => false
    if before.any declares then throw .malformed else pure ()
  | .unknown => pure ()

/-- The directives that come next, after those in `before`. -/
def directives : Nat → List Directive → Compose (List Directive)
  | 0, before => return before
  | rounds + 1, before => do
    let some (.directive directive) ← peek | return before
    advance
    checkDirective before directive
    directives rounds (before ++ [directive])

/-- The handles that directives declare, with the default ones. -/
def handlesOf (directives : List Directive) : Handles :=
  (directives.filterMap fun
    | .tag handle expansion => some (handle, expansion)
    | _ => none) ++ Handles.default

/-! ### Properties -/

def expandTag (handles : Handles) : Option String → String → Compose String
  | none, suffix => return suffix
  | some handle, suffix => match handles.lookup handle with
    | some expansion => return expansion ++ suffix
    | none => throw .malformed

def anchor? : Compose (Option String) := do
  let some (.anchor name) ← peek | return none
  advance
  return some name

def tag? : Compose (Option (Option String × String)) := do
  let some (.tag handle suffix) ← peek | return none
  advance
  return some (handle, suffix)

/-- An anchor and a tag, in either order. -/
def properties (handles : Handles) : Compose Properties := do
  let before ← anchor?
  let tag ← tag?
  let after ← if before.isNone && tag.isSome then anchor? else pure none
  let uri ← tag.mapM fun (handle, suffix) => expandTag handles handle suffix
  return { anchor := before.or after, uri }

/-! ### Nodes -/

/-- A new node. Its anchor, if it has one, refers to it from here on. -/
def start (anchor : Option String) (node : Node) : Compose Nat := do
  if let some name := anchor then
    if ((← get).anchors.lookup name).isSome then throw .malformed
  modifyGet fun p =>
    let id := p.graph.size
    let anchors := match anchor with
      | some name => (name, id) :: p.anchors
      | none => p.anchors
    (id, { p with anchors, graph := p.graph.push node })

/-- Gives a node its content. -/
def finish (id : Nat) (content : Content) : Compose Unit :=
  modify fun p => { p with graph := p.graph.setContent id content }

def empty : Compose Nat := start none .empty

/-- A collection with properties, whose items are read after it has started. -/
def collection (p : Properties) (usual : Tag) (content : Compose Content) : Compose Nat := do
  let id ← start p.anchor ⟨p.collectionTag usual, .scalar []⟩
  finish id (← content)
  return id

def sequence (p : Properties) (items : Compose (List Nat)) : Compose Nat :=
  collection p .sequence (Content.sequence <$> items)

def mapping (p : Properties) (entries : Compose (List (Nat × Nat))) : Compose Nat :=
  collection p .mapping (Content.mapping <$> entries)

/-- The node with an anchor. -/
def referenced (name : String) : Compose Nat := do
  match (← get).anchors.lookup name with
  | some id => return id
  | none => throw .malformed

/-- The node that `compose` reads, or an empty one where one of `ends` comes next. -/
def orEmpty (ends : List Token) (compose : Compose Nat) : Compose Nat := do
  if ← comes ends then empty else compose

/-- The value after a key, if there is the sign of one. -/
def valueOrEmpty (compose : Compose Nat) : Compose Nat := do
  if ← accept .value then compose else empty

mutual

/-- A node. Blocks may start where `block` holds, also one of entries that are not indented where
`entries` holds. -/
def node (handles : Handles) (block entries : Bool) : Nat → Compose Nat
  | 0 => throw .malformed
  | rounds + 1 => do
    if let some (.reference name) ← peek then
      advance
      return ← referenced name
    content handles (← properties handles) block entries rounds

def content (handles : Handles) (p : Properties) (block entries : Bool) : Nat → Compose Nat
  | 0 => throw .malformed
  | rounds + 1 => do
    match ← peek, block, entries with
    | some .blockEntry, _, true => sequence p (looseItems handles rounds)
    | some (.scalar plain text), _, _ =>
      advance
      start p.anchor ⟨p.scalarTag plain text.toList, .scalar text.toList⟩
    | some .flowSequence, _, _ => sequence p (do advance; flowItems handles true rounds)
    | some .flowMapping, _, _ => mapping p (do advance; flowEntries handles true rounds)
    | some .blockSequence, true, _ => sequence p (do advance; blockItems handles rounds)
    | some .blockMapping, true, _ => mapping p (do advance; blockEntries handles rounds)
    | _, _, _ =>
      if p.isNone then throw .malformed
      start p.anchor ⟨p.scalarTag true [], .scalar []⟩

def blockItems (handles : Handles) : Nat → Compose (List Nat)
  | 0 => throw .malformed
  | rounds + 1 => do
    if ← accept .blockEntry then
      let item ← orEmpty [.blockEntry, .blockEnd] (node handles true false rounds)
      return item :: (← blockItems handles rounds)
    expect .blockEnd
    return []

/-- The entries of a sequence that is indented no further than the mapping it is in. -/
def looseItems (handles : Handles) : Nat → Compose (List Nat)
  | 0 => throw .malformed
  | rounds + 1 => do
    if ← accept .blockEntry then
      let item ←
        orEmpty [.blockEntry, .key, .value, .blockEnd] (node handles true false rounds)
      return item :: (← looseItems handles rounds)
    return []

def blockEntries (handles : Handles) : Nat → Compose (List (Nat × Nat))
  | 0 => throw .malformed
  | rounds + 1 => do
    let part := orEmpty [.key, .value, .blockEnd] (node handles true true rounds)
    if ← accept .key then
      let key ← part
      let value ← valueOrEmpty part
      return (key, value) :: (← blockEntries handles rounds)
    expect .blockEnd
    return []

/-- The rest of a flow sequence; before all items but the first there is a comma, and one more may
follow the last. An item with a key is a mapping of that single entry. -/
def flowItems (handles : Handles) (first : Bool) : Nat → Compose (List Nat)
  | 0 => throw .malformed
  | rounds + 1 => do
    if ← accept .flowSequenceEnd then return []
    if !first then expect .flowEntry
    let flow := node handles false false rounds
    if ← accept .key then
      let item ← mapping {} do
        let key ← orEmpty [.value, .flowEntry, .flowSequenceEnd] flow
        let value ← valueOrEmpty (orEmpty [.flowEntry, .flowSequenceEnd] flow)
        return [(key, value)]
      return item :: (← flowItems handles false rounds)
    if ← accept .flowSequenceEnd then return []
    let item ← flow
    return item :: (← flowItems handles false rounds)

/-- The rest of a flow mapping. An item without the sign of a key is a key without value. -/
def flowEntries (handles : Handles) (first : Bool) : Nat → Compose (List (Nat × Nat))
  | 0 => throw .malformed
  | rounds + 1 => do
    if ← accept .flowMappingEnd then return []
    if !first then expect .flowEntry
    let flow := node handles false false rounds
    if ← accept .key then
      let key ← orEmpty [.value, .flowEntry, .flowMappingEnd] flow
      let value ← valueOrEmpty (orEmpty [.flowEntry, .flowMappingEnd] flow)
      return (key, value) :: (← flowEntries handles false rounds)
    if ← accept .flowMappingEnd then return []
    let key ← flow
    let value ← empty
    return (key, value) :: (← flowEntries handles false rounds)

end

/-! ### Documents -/

/-- The root of a document that starts with directives or its sign. -/
def explicitRoot (rounds : Nat) : Compose Nat := do
  let handles := handlesOf (← directives rounds [])
  expect .documentStart
  match ← peek with
  | none | some (.directive _) | some .documentStart | some .documentEnd => empty
  | some _ => node handles true false rounds

/-- The end of the only document: nothing but end markers is left. -/
def finishDocument : Nat → Compose Unit
  | 0 => throw .malformed
  | rounds + 1 => do
    if ← accept .documentEnd then finishDocument rounds
    else if (← peek).isSome then
      let _ ← directives rounds []
      let _ ← peek
      throw .malformed

/-- The root of the only document. A text of nothing but blanks and comments holds no document. -/
def document : Compose (Option Nat) := do
  let rounds := 3 * (← get).tokens.length + 3
  match ← peek with
  | none => return none
  | some (.directive _) | some .documentStart =>
    let root ← explicitRoot rounds
    finishDocument rounds
    return some root
  | some _ =>
    let root ← node Handles.default true false rounds
    finishDocument rounds
    return some root

end Compose

/-- A document: its nodes and its root. -/
structure Composition where
  graph : Graph
  root : Nat

/-- The document that tokens make up, if there is one. -/
def Composition.ofTokens? (tokens : List Token) (error : Option Error) :
    Except Error (Option Composition) := do
  let (root, progress) ← Compose.document.run { tokens, error }
  return root.map fun root => ⟨progress.graph, root⟩

end Remap.Yaml
