import Remap.Yaml.Spot

/-!
# Plain scalars

A scalar without quotes: words with gaps between them. A gap is a run of spaces or a line break
with the empty lines and spaces after it. The scalar ends before a comment, before `: `, before a
document marker, at a line that is not indented further than the block it is in, and inside a flow
collection at each of the collection's own signs.
-/

namespace Remap.Yaml

/-- A scalar that was read, and what follows it. -/
structure PlainScalar where
  text : List Char
  /-- Whether the blanks after the last word go over to another line. -/
  endsLine : Bool
  rest : Spots

namespace PlainScalar

def flowSigns : List Char := [',', '[', ']', '\x7b', '\x7d']

/-- Whether a word ends before the character `c` that `rest` follows. -/
def endsWord (inFlow : Bool) (c : Char) (rest : Spots) : Bool :=
  isBlank c ||
  (c = ':' && (Spots.atBlank rest || (inFlow && rest.head?.any (flowSigns.contains ·.char)))) ||
  (inFlow && (c = '?' || flowSigns.contains c))

def word (inFlow : Bool) : Spots → List Char × Spots
  | [] => ([], [])
  | s :: rest =>
    if endsWord inFlow s.char rest then ([], s :: rest)
    else
      let (more, rest) := word inFlow rest
      (s.char :: more, rest)

/-- The breaks of empty lines, up to the next word. A document marker takes them back. -/
def breaks : Spots → Option (List Char) × Spots
  | [] => (some [], [])
  | s :: rest =>
    if s.char = ' ' then breaks rest
    else match lineBreak? s.char with
      | some c =>
        if Spots.atDocument rest then (none, rest)
        else
          let (more, rest) := breaks rest
          (more.map (c :: ·), rest)
      | none => (some [], s :: rest)

/-- The gap after a word; it is empty where no further word can follow. -/
def gap (text : Spots) : PlainScalar :=
  let spaces := Spots.chars (text.takeWhile (·.char = ' '))
  match text.skipSpaces with
  | [] => ⟨spaces, false, []⟩
  | s :: rest => match lineBreak? s.char with
    | none => ⟨spaces, false, s :: rest⟩
    | some c =>
      if Spots.atDocument rest then ⟨[], true, rest⟩
      else match breaks rest with
        | (some more, rest) => ⟨foldBreaks c more, true, rest⟩
        | (none, rest) => ⟨[], true, rest⟩

/-- Whether the scalar goes on here after a gap, in a block indented by `indent`. -/
def goesOn (inFlow : Bool) (indent : Int) : Spots → Bool
  | [] => false
  | s :: rest =>
    s.char ≠ '#' && (inFlow || indent < s.column) && !endsWord inFlow s.char rest

/-- The scalar from a word on. Each round reads a word and a gap, so there are fewer rounds than
characters. -/
def readFrom (inFlow : Bool) (indent : Int) : Nat → Spots → PlainScalar
  | 0, text => ⟨[], false, text⟩
  | rounds + 1, text =>
    let (first, rest) := word inFlow text
    let after := gap rest
    if after.text.isEmpty || !goesOn inFlow indent after.rest then { after with text := first }
    else
      let more := readFrom inFlow indent rounds after.rest
      { more with text := first ++ after.text ++ more.text }

def read (inFlow : Bool) (indent : Int) (text : Spots) : PlainScalar :=
  readFrom inFlow indent text.length text

end PlainScalar

end Remap.Yaml
