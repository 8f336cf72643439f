import Remap.Yaml.Spot

/-!
# Block scalars

A scalar of whole lines, indented below its sign: `|` keeps the lines as they are, `>` folds those
that start with no blank. The header may give the indentation, which is otherwise that of the first
line that is not empty, and what becomes of the line breaks at the end.
-/

namespace Remap.Yaml

/-- What becomes of the breaks at the end: one stays, none, or all. -/
inductive Chomping where
  | clip
  | strip
  | keep
deriving Repr, DecidableEq

def Chomping.ofSign? : Char → Option Chomping
  | '+' => some .keep
  | '-' => some .strip
  | _ => none

namespace BlockScalar

/-- An indentation given in the header is a digit, but not zero. -/
def increment (text : Spots) : Except Error (Option Nat × Spots) :=
  match text with
  | [] => .ok (none, [])
  | s :: rest =>
    if !s.char.isDigit then .ok (none, s :: rest)
    else if s.char = '0' then .error .malformed
    else .ok (some (Digits.value s.char), rest)

def chomping (text : Spots) : Option Chomping × Spots :=
  match text with
  | [] => (none, [])
  | s :: rest => match Chomping.ofSign? s.char with
    | some chomping => (some chomping, rest)
    | none => (none, s :: rest)

/-- The two indicators of a header, in either order. -/
def header (text : Spots) : Except Error (Chomping × Option Nat × Spots) := do
  let (before, text) := chomping text
  let (increment, text) ← increment text
  let (after, text) := if before.isNone && increment.isSome then chomping text else (none, text)
  if !text.atSpace then throw .malformed
  return ((before.or after).getD .clip, increment, ← text.endLine)

/-- The breaks of leading empty lines and the widest indentation among them and the first other
line. -/
def indentation : Spots → List Char × Nat × Spots
  | [] => ([], 0, [])
  | s :: rest =>
    if s.char = ' ' then
      let (breaks, widest, rest) := indentation rest
      (breaks, max (s.column + 1) widest, rest)
    else match lineBreak? s.char with
      | some c =>
        let (breaks, widest, rest) := indentation rest
        (c :: breaks, widest, rest)
      | none => ([], 0, s :: rest)

/-- The breaks of empty lines, and the indentation of the line after them. -/
def breaks (indent : Nat) : Spots → List Char × Spots
  | [] => ([], [])
  | s :: rest =>
    if s.char = ' ' && s.column < indent then breaks indent rest
    else match lineBreak? s.char with
      | some c =>
        let (more, rest) := breaks indent rest
        (c :: more, rest)
      | none => ([], s :: rest)

/-- The lines of a scalar, without what ends the last one and the empty lines after it. -/
structure Lines where
  text : List Char
  lastBreak : List Char
  emptyLines : List Char
  rest : Spots

/-- Whether a line of the scalar starts here. -/
def atLine (indent : Nat) (text : Spots) : Bool := text.head?.any (·.column = indent)

def startsWithBlank (text : Spots) : Bool := text.head?.any fun s => s.char = ' ' || s.char = '\t'

/-- The lines of a scalar after the breaks `before`. -/
def lines (folded : Bool) (indent : Nat) : Nat → List Char → Spots → Lines
  | 0, before, text => ⟨[], [], before, text⟩
  | rounds + 1, before, text =>
    if !atLine indent text then ⟨[], [], before, text⟩
    else
      let line := Spots.chars (text.takeWhile (!isBreak ·.char))
      let (lastBreak, rest) := match text.dropWhile (!isBreak ·.char) with
        | [] => ([], [])
        | s :: rest => ((lineBreak? s.char).toList, rest)
      let (after, rest) := breaks indent rest
      if !atLine indent rest then ⟨before ++ line, lastBreak, after, rest⟩
      else
        let folds := folded && lastBreak = ['\n'] && !startsWithBlank text && !startsWithBlank rest
        let joint := if !folds then lastBreak else if after.isEmpty then [' '] else []
        let more := lines folded indent rounds after rest
        { more with text := before ++ line ++ joint ++ more.text }

/-- The scalar and what follows it, in a block indented by `outer`; the sign has been read. -/
def read (folded : Bool) (outer : Int) (text : Spots) : Except Error (List Char × Spots) := do
  let (chomping, increment, text) ← header text
  let least := max (outer + 1).toNat 1
  let (before, indent, rest) := match increment with
    | some n =>
      let indent := least + n - 1
      let (before, rest) := breaks indent text
      (before, indent, rest)
    | none =>
      let (before, widest, rest) := indentation text
      (before, max least widest, rest)
  let body := lines folded indent text.length before rest
  let tail := match chomping with
    | .strip => []
    | .clip => body.lastBreak
    | .keep => body.lastBreak ++ body.emptyLines
  return (body.text ++ tail, body.rest)

end BlockScalar

end Remap.Yaml
