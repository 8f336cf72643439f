import Remap.Yaml.Property
import Remap.Yaml.Scalar.Block
import Remap.Yaml.Scalar.Plain
import Remap.Yaml.Scalar.Quoted

/-!
# From layout to tokens

A pass over the text from token to token. It keeps the columns of the open blocks: a token further
to the left closes the blocks it is left of, and a first key or entry further to the right opens
one.

A key without `?` is only known for one when its `:` is reached. So each token that may be a key is
a candidate, one for each open flow collection and one for the block around them. When the `:`
comes, on the same line and within 1024 characters, the tokens that mark a key are put in front of
the candidate. A candidate at the column of its block must become a key.

When the pass meets an error, the tokens before it count up to the first that may still turn out to
be a key.
-/

namespace Remap.Yaml

/-- A token that may turn out to be a key. -/
structure Candidate where
  /-- How many tokens are in front of it. -/
  place : Nat
  spot : Spot
  required : Bool
deriving Repr

structure Layout where
  rest : Spots
  /-- The tokens read so far, the last one first. -/
  tokens : List Token := []
  count : Nat := 0
  /-- The columns of the open blocks, the innermost first. -/
  blocks : List Nat := []
  keyAllowed : Bool := true
  /-- The candidates of the open flow collections, the innermost first. -/
  flows : List (Option Candidate) := []
  /-- The candidate outside of all flow collections. -/
  outer : Option Candidate := none

namespace Layout

def inFlow (l : Layout) : Bool := !l.flows.isEmpty

/-- The column of the innermost block; outside of all blocks there is one column less than any. -/
def indent (l : Layout) : Int :=
  match l.blocks with
  | [] => -1
  | column :: _ => column

def push (l : Layout) (token : Token) : Layout :=
  { l with tokens := token :: l.tokens, count := l.count + 1 }

/-- Puts a token behind the first `place` tokens. -/
def insertAt (l : Layout) (place : Nat) (token : Token) : Layout :=
  let newer := l.count - place
  { l with
    tokens := l.tokens.take newer ++ token :: l.tokens.drop newer
    count := l.count + 1 }

/-! ## Candidates -/

/-- Gives up a candidate, which must not be one that had to become a key. -/
def dropCandidate : Option Candidate → Except Error (Option Candidate)
  | some candidate => if candidate.required then .error .malformed else .ok none
  | none => .ok none

def candidate (l : Layout) : Option Candidate :=
  match l.flows with
  | candidate :: _ => candidate
  | [] => l.outer

def setCandidate (l : Layout) (candidate : Option Candidate) : Layout :=
  match l.flows with
  | _ :: flows => { l with flows := candidate :: flows }
  | [] => { l with outer := candidate }

def forget (l : Layout) : Except Error Layout := do
  return l.setCandidate (← dropCandidate l.candidate)

/-- Makes the next token a candidate, if a key may stand there. -/
def save (l : Layout) (spot : Spot) : Except Error Layout := do
  if l.keyAllowed then
    let l ← l.forget
    return l.setCandidate (some ⟨l.count, spot, !l.inFlow && l.indent = spot.column⟩)
  else return l

/-- Gives up the candidates that are too far back. -/
def dropStale (l : Layout) (spot : Spot) : Except Error Layout := do
  let check : Option Candidate → Except Error (Option Candidate)
    | some candidate =>
      if candidate.spot.line ≠ spot.line || candidate.spot.offset + 1024 < spot.offset then
        dropCandidate (some candidate)
      else .ok (some candidate)
    | none => .ok none
  return { l with flows := ← l.flows.mapM check, outer := ← check l.outer }

/-! ## Blocks -/

/-- Closes the blocks to the right of a column. Inside a flow collection the layout is free. -/
def closeBlocks (l : Layout) (column : Int) : Layout :=
  if l.inFlow then l
  else
    let closed := l.blocks.takeWhile fun (block : Nat) => column < block
    { l with
      blocks := l.blocks.drop closed.length
      tokens := List.replicate closed.length .blockEnd ++ l.tokens
      count := l.count + closed.length }

/-- Whether a key or entry at a column opens a block. -/
def opensBlock (l : Layout) (column : Nat) : Bool := !l.inFlow && l.indent < column

def openBlock (l : Layout) (column : Nat) : Layout := { l with blocks := column :: l.blocks }

/-! ## Tokens -/

/-- Ends the blocks and candidates before a directive or a document marker. -/
def endDocument (l : Layout) : Except Error Layout := do
  return { ← (l.closeBlocks (-1)).forget with keyAllowed := false }

def readDirectiveLine (l : Layout) (rest : Spots) : Except Error Layout := do
  let l ← l.endDocument
  let (token, rest) ← readDirective rest
  return { l.push token with rest }

def readMarker (l : Layout) (token : Token) : Except Error Layout := do
  let l ← l.endDocument
  return { l.push token with rest := l.rest.drop 3 }

def openFlow (l : Layout) (spot : Spot) (token : Token) (rest : Spots) : Except Error Layout := do
  let l ← l.save spot
  return { l.push token with flows := none :: l.flows, keyAllowed := true, rest }

def closeFlow (l : Layout) (token : Token) (rest : Spots) : Except Error Layout := do
  match l.flows with
  | [] => throw .malformed
  | _ :: flows => return { l.push token with flows, keyAllowed := false, rest }

def readFlowEntry (l : Layout) (rest : Spots) : Except Error Layout := do
  return { (← l.forget).push .flowEntry with keyAllowed := true, rest }

/-- An entry or a key that has its own sign, at the start of a block or within one. -/
def startItem (l : Layout) (spot : Spot) (block : Token) : Except Error Layout := do
  if !l.inFlow && !l.keyAllowed then throw .malformed
  return if l.opensBlock spot.column then (l.openBlock spot.column).push block else l

def readBlockEntry (l : Layout) (spot : Spot) (rest : Spots) : Except Error Layout := do
  let l ← (← l.startItem spot .blockSequence).forget
  return { l.push .blockEntry with keyAllowed := true, rest }

def readKey (l : Layout) (spot : Spot) (rest : Spots) : Except Error Layout := do
  let l ← (← l.startItem spot .blockMapping).forget
  return { l.push .key with keyAllowed := !l.inFlow, rest }

/-- A `:`, which makes a key of the candidate in front of it or belongs to a key with a sign. -/
def readValue (l : Layout) (spot : Spot) (rest : Spots) : Except Error Layout := do
  match l.candidate with
  | some candidate =>
    let l := (l.setCandidate none).insertAt candidate.place .key
    let l := if l.opensBlock candidate.spot.column then
        (l.openBlock candidate.spot.column).insertAt candidate.place .blockMapping
      else l
    return { l.push .value with keyAllowed := false, rest }
  | none =>
    let l ← (← l.startItem spot .blockMapping).forget
    return { l.push .value with keyAllowed := !l.inFlow, rest }

/-- A token that may be a key, made from what `read` finds. -/
def readCandidate (l : Layout) (spot : Spot) (read : Except Error (Token × Spots)) :
    Except Error Layout := do
  let l ← l.save spot
  let (token, rest) ← read
  return { l.push token with keyAllowed := false, rest }

def readQuoted (l : Layout) (spot : Spot) (rest : Spots) : Except Error Layout :=
  l.readCandidate spot ((QuotedScalar.read spot.char rest).map fun (text, rest) =>
    (.scalar false (String.ofList text), rest))

def readBlockScalar (l : Layout) (folded : Bool) (rest : Spots) : Except Error Layout := do
  let l ← l.forget
  let (text, rest) ← BlockScalar.read folded l.indent rest
  return { l.push (.scalar false (String.ofList text)) with keyAllowed := true, rest }

def readPlain (l : Layout) (spot : Spot) : Except Error Layout := do
  let l ← l.save spot
  let scalar := PlainScalar.read l.inFlow l.indent l.rest
  return { l.push (.scalar true (String.ofList scalar.text)) with
    keyAllowed := scalar.endsLine, rest := scalar.rest }

/-- Whether a plain scalar may start with the character `c` that `rest` follows. -/
def startsPlain (inFlow : Bool) (c : Char) (rest : Spots) : Bool :=
  (!isBlank c && !"-?:,[]\x7b\x7d#&*!|>'\"%@\x60".toList.contains c) ||
    (!rest.atBlank && (c = '-' || (!inFlow && (c = '?' || c = ':'))))

/-- Goes over blanks, comments and line breaks. A line break outside of flow collections allows a
key. -/
def skipBlanks (inFlow : Bool) (inComment keyAllowed : Bool) : Spots → Bool × Spots
  | [] => (keyAllowed, [])
  | s :: rest =>
    if isBreak s.char then skipBlanks inFlow false (keyAllowed || !inFlow) rest
    else if inComment || s.char = ' ' then skipBlanks inFlow inComment keyAllowed rest
    else if s.char = '#' then skipBlanks inFlow true keyAllowed rest
    else (keyAllowed, s :: rest)

/-- Reads the token that starts at `spot`. -/
def readToken (l : Layout) (spot : Spot) (rest : Spots) : Except Error Layout := do
  let l := (← l.dropStale spot).closeBlocks spot.column
  let here := spot :: rest
  let name (token : String → Token) : Except Error (Token × Spots) :=
    (readAnchorName rest).map fun (name, rest) => (token name, rest)
  if spot.column = 0 && spot.char = '%' then l.readDirectiveLine rest
  else if spot.column = 0 && Spots.atMarker '-' here then l.readMarker .documentStart
  else if spot.column = 0 && Spots.atMarker '.' here then l.readMarker .documentEnd
  else match spot.char with
    | '[' => l.openFlow spot .flowSequence rest
    | '\x7b' => l.openFlow spot .flowMapping rest
    | ']' => l.closeFlow .flowSequenceEnd rest
    | '\x7d' => l.closeFlow .flowMappingEnd rest
    | ',' => l.readFlowEntry rest
    | '*' => l.readCandidate spot (name .reference)
    | '&' => l.readCandidate spot (name .anchor)
    | '!' => l.readCandidate spot (readTag here)
    | '\x27' | '"' => l.readQuoted spot rest
    | c =>
      if c = '-' && rest.atBlank then l.readBlockEntry spot rest
      else if c = '?' && (l.inFlow || rest.atBlank) then l.readKey spot rest
      else if c = ':' && (l.inFlow || rest.atBlank) then l.readValue spot rest
      else if c = '|' && !l.inFlow then l.readBlockScalar false rest
      else if c = '>' && !l.inFlow then l.readBlockScalar true rest
      else if startsPlain l.inFlow c rest then l.readPlain spot
      else throw .malformed

/-- How many tokens are in front of the first that may still turn out to be a key. -/
def settled (l : Layout) : Nat :=
  let places := (l.outer :: l.flows).filterMap fun candidate => candidate.map Candidate.place
  places.foldl min l.count

/-- The tokens that count when an error comes next. -/
def brokenOff (l : Layout) (error : Error) : List Token × Option Error :=
  match l.rest with
  | [] => (l.tokens.reverse, some error)
  | spot :: _ => match l.dropStale spot with
    | .ok l => (l.tokens.reverse.take l.settled, some error)
    | .error required => ([], some required)

/-- Reads all tokens, up to an error if there is one. Each round reads at least one character. -/
def readAll : Nat → Layout → List Token × Option Error
  | 0, l => l.brokenOff .malformed
  | rounds + 1, l =>
    let (keyAllowed, rest) := skipBlanks l.inFlow false l.keyAllowed l.rest
    match rest with
    | [] => match l.endDocument with
      | .ok l => (l.tokens.reverse, none)
      | .error error => l.brokenOff error
    | spot :: after => match { l with keyAllowed, rest }.readToken spot after with
      | .ok l => readAll rounds l
      | .error error => l.brokenOff error

end Layout

/-- The tokens of a text, and the error that ends them if it is not the end of the text. -/
def Token.ofText (text : List Char) : List Token × Option Error :=
  Layout.readAll (text.length + 1) { rest := Spots.layout text }

end Remap.Yaml
