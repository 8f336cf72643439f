import Remap.Text.Bytes
import Remap.Yaml.Spot
import Remap.Yaml.Token

/-!
# Anchors, tags and directives

The parts of a text that are about its nodes: names that nodes are called by, tags that say what a
node is, and the directives in front of a document.
-/

namespace Remap.Yaml

/-! ## Names -/

def isNameChar (c : Char) : Bool := c.isAlphanum || c = '-' || c = '_'

def takeName (text : Spots) : List Char × Spots :=
  (Spots.chars (text.takeWhile (isNameChar ·.char)), text.dropWhile (isNameChar ·.char))

/-- The name of an anchor or of a reference to one; its sign has been read. -/
def readAnchorName (text : Spots) : Except Error (String × Spots) :=
  let (name, rest) := takeName text
  let ends := rest.atBlank ||
    rest.head?.any fun s => ['?', ':', ',', ']', '\x7d', '%', '@', '\x60'].contains s.char
  if name.isEmpty || !ends then .error .malformed else .ok (String.ofList name, rest)

/-! ## Tags -/

/-- The bytes of `%` escapes in a row. -/
def readEscapedBytes : Nat → Spots → Except Error (List UInt8 × Spots)
  | rounds + 1, sign :: a :: b :: rest => do
    if sign.char ≠ '%' then return ([], sign :: a :: b :: rest)
    if !Digits.isHex a.char || !Digits.isHex b.char then throw .malformed
    let (more, rest) ← readEscapedBytes rounds rest
    return (UInt8.ofNat (Digits.toNat 16 [a.char, b.char]) :: more, rest)
  | _, text => if text.startsWith '%' then .error .malformed else .ok ([], text)

def isUriChar (c : Char) : Bool := c.isAlphanum || "-;/?:@&=+$,_.!~*'()[]".toList.contains c

def readUriFrom : Nat → Spots → Except Error (List Char × Spots)
  | 0, text => .ok ([], text)
  | _ + 1, [] => .ok ([], [])
  | rounds + 1, s :: rest => do
    if s.char = '%' then
      let (bytes, rest) ← readEscapedBytes rest.length (s :: rest)
      let some piece := Text.decode? ⟨bytes.toArray⟩ | throw .malformed
      let (more, rest) ← readUriFrom rounds rest
      return (piece ++ more, rest)
    else if isUriChar s.char then
      let (more, rest) ← readUriFrom rounds rest
      return (s.char :: more, rest)
    else return ([], s :: rest)

/-- A URI, or a part of one, which is not empty. -/
def readUri (text : Spots) : Except Error (String × Spots) := do
  let (uri, rest) ← readUriFrom (text.length + 1) text
  if uri.isEmpty then throw .malformed
  return (String.ofList uri, rest)

/-- A handle: `!`, or a name between two of them. -/
def readHandle (text : Spots) : Except Error (String × Spots) := do
  if !text.startsWith '!' then throw .malformed
  let rest := text.drop 1
  if Spots.startsWith rest ' ' then return ("!", rest)
  let (name, rest) := takeName rest
  if !Spots.startsWith rest '!' then throw .malformed
  return (String.ofList ('!' :: name ++ ['!']), rest.drop 1)

/-- A tag; its first character, `!`, is still there. -/
def readTag (text : Spots) : Except Error (Token × Spots) := do
  let body := text.drop 1
  let (tag, rest) ←
    if Spots.startsWith body '<' then do
      let (uri, rest) ← readUri (body.drop 1)
      if !rest.startsWith '>' then throw .malformed
      pure (Token.tag none uri, rest.drop 1)
    else if Spots.atBlank body then pure (Token.tag none "!", body)
    else do
      let named := (body.takeWhile fun s => s.char ≠ ' ' && !isBreak s.char).any (·.char = '!')
      let (handle, rest) ← if named then readHandle text else pure ("!", body)
      let (suffix, rest) ← readUri rest
      pure (Token.tag (some handle) suffix, rest)
  if !Spots.atSpace rest then throw .malformed
  return (tag, rest)

/-! ## Directives -/

/-- A number. To find its end the character behind it has been looked at. -/
def readNumber (text : Spots) : Except Error (Nat × Spots) :=
  match text.takeWhile (·.char.isDigit) with
  | [] => .error .malformed
  | first :: more => do
    let digits := Spots.chars (first :: more)
    let n ← (Digits.toNat? digits).mapError fun refusal =>
      .halt (.digits refusal) (first.offset + digits.length + 1)
    return (n, text.dropWhile (·.char.isDigit))

def readVersion (text : Spots) : Except Error (Directive × Spots) := do
  let (major, rest) ← readNumber text.skipSpaces
  if !rest.startsWith '.' then throw .malformed
  let (minor, rest) ← readNumber (rest.drop 1)
  if !rest.atSpace then throw .malformed
  return (.version major minor, rest)

def readTagDirective (text : Spots) : Except Error (Directive × Spots) := do
  let (handle, rest) ← readHandle text.skipSpaces
  if !rest.startsWith ' ' then throw .malformed
  let (expansion, rest) ← readUri rest.skipSpaces
  if !rest.atSpace then throw .malformed
  return (.tag handle expansion, rest)

/-- A directive and the rest of its line; its sign, `%`, has been read. -/
def readDirective (text : Spots) : Except Error (Token × Spots) := do
  let (name, rest) := takeName text
  if name.isEmpty || !rest.atSpace then throw .malformed
  let (directive, rest) ←
    if name = "YAML".toList then readVersion rest
    else if name = "TAG".toList then readTagDirective rest
    else pure (.unknown, rest.dropWhile (!isBreak ·.char))
  return (.directive directive, ← rest.endLine)

end Remap.Yaml
