import Remap.Fault
import Remap.Json.Reader
import Remap.Map.Mapping
import Remap.Map.Vlq
import Remap.Path
import Remap.Text.Bytes
import Remap.Text.Newline

/-!
# Source map documents

A source map is delivered as a JSON document: a list of sources, a list of names, and one string
of mappings. In that string semicolons end generated lines and commas separate segments; a segment
is one, four or five numbers relative to those before it. The generated column starts anew on each
line, the other coordinates carry on over lines. A segment of one number says that the generated
text from there on has no original.

Reading fails in two ways. A document that breaks the format is rejected with the reason, which is
a fault. Bytes that are no text, and a document whose values are of the wrong kind, whose sources have
no order, or that leads to a negative coordinate, fail outside the format.
-/

namespace Remap

/-- Why a document is rejected. -/
inductive Rejection where
  | json (error : Json.Error)
  | notTable
  /-- The document is written out before it is read, which an integer may be too long for. -/
  | longInteger
  | missing (key : String)
  | digit
  | unfinished
  | sourceIndex (segment : String) (index : Int) (count : Nat)
  | nameIndex (segment : String) (index : Int) (count : Nat)
  | short (segment : String) (numbers : List Int)
  /-- The sources are a table, which has no value at an index. -/
  | sourceKey (index : Int)
deriving Repr, DecidableEq

inductive DecodeError where
  | rejected (reason : Rejection)
  | missingFile (path : String)
  | notText
  /-- A value of the wrong kind where a list or a string is needed. -/
  | wrongKind
  /-- The mappings are not a string. -/
  | noMappingText
  /-- A coordinate is negative. -/
  | negative
deriving Repr, DecidableEq

namespace Rejection

/-- A message that mentions numbers, unless one has more digits than are written. -/
def mentioning (numbers : List Int) (message : String) : String :=
  if numbers.any fun n => (Scalar.int n).isLongInteger then DigitLimit.unwritten else message

def message : Rejection → String
  | json error => error.message
  | notTable => "source map must be a JSON object"
  | longInteger => DigitLimit.unwritten
  | missing key => "'" ++ key ++ "'"
  | digit => "list index out of range"
  | unfinished => "leftover cur/shift in vlq decode"
  | sourceIndex segment index count => mentioning [index]
    s!"Segment {segment} references source {index}; there are {count} sources"
  | nameIndex segment index count => mentioning [index]
    s!"Segment {segment} references name {index}; there are {count} names"
  | short segment numbers => mentioning numbers <|
    s!"Invalid segment {segment}, parsed as " ++ (Value.list (numbers.map Value.int)).quoted
  | sourceKey index => toString index

end Rejection

/-- What a caller is told, where the error is one that a caller is meant to handle. -/
def DecodeError.fault? : DecodeError → Option Fault
  | rejected reason => some (.mapUndecodable reason.message)
  | missingFile path => some (.mapMissing path)
  | notText | wrongKind | noMappingText | negative => none

/-- A document as it is handed over: as a text, encoded, or already read as a value. -/
inductive Payload where
  | text (text : List Char)
  | bytes (bytes : ByteArray)
  | document (document : Value)

namespace Document

/-- The texts of the names: the items of a list, the characters of a string, the keys of a
table. -/
def names : Value → Except DecodeError (List String)
  | .list items => .ok (items.map Value.display)
  | .scalar (.str s) => .ok (s.toList.map fun c => String.ofList [c])
  | .table entries => .ok (entries.map fun entry => entry.1.display)
  | _ => .error .wrongKind

/-- What a document may give as its sources. -/
def sourceItems : Value → Except DecodeError (List Value)
  | .list items => .ok items
  | .scalar (.str s) => .ok (s.toList.map fun c => .str (String.ofList [c]))
  | .table entries => .ok (entries.map fun entry => .scalar entry.1)
  | _ => .error .wrongKind

/-- The sources below a root; without a root they stay as they are. -/
def rooted (root sources : Value) : Except DecodeError Value :=
  if root.isNull then .ok sources
  else do
    let items ← sourceItems sources
    let joined ← items.mapM fun item => match root, item with
      | .scalar (.str directory), .scalar (.str source) =>
        .ok (Value.str (Path.joinText directory source))
      | _, _ => .error .wrongKind
    return .list joined

/-- The parts of a document that mappings are read from. Sources may be values of any kind. -/
structure Parts where
  sources : Value
  names : List String
  mappings : String

/-- The source at an index that a segment refers to; null stands for no source. -/
def Parts.source (parts : Parts) (segment : String) (index : Int) :
    Except DecodeError (Option Value) := do
  let count ← match parts.sources with
    | .list items => pure items.length
    | .scalar (.str s) => pure s.length
    | .table entries => pure entries.length
    | _ => throw .wrongKind
  if index < 0 || (count : Int) ≤ index then
    throw (.rejected (.sourceIndex segment index count))
  match parts.sources with
  | .table _ => throw (.rejected (.sourceKey index))
  | sources => match (← sourceItems sources)[index.toNat]? with
    | some source => return if source.isNull then none else some source
    | none => throw .wrongKind

def Parts.name (parts : Parts) (segment : String) (index : Int) : Except DecodeError String :=
  if index < 0 then .error (.rejected (.nameIndex segment index parts.names.length))
  else match parts.names[index.toNat]? with
    | some name => .ok name
    | none => .error (.rejected (.nameIndex segment index parts.names.length))

/-- The coordinates that segments are relative to. -/
structure Running where
  column : Int := 0
  source : Int := 0
  line : Int := 0
  originalColumn : Int := 0
  name : Int := 0
deriving Repr, DecidableEq

def Running.hasNegative (r : Running) : Bool := r.column < 0 || r.line < 0 || r.originalColumn < 0

/-- The mapping of a segment with these numbers, and the coordinates after it. -/
def place (parts : Parts) (generatedLine : Int) (segment : String) (numbers : List Int)
    (r : Running) : Except DecodeError (Mapping Value × Running) := do
  let (source, name, r) ← match numbers with
    | [] => pure (none, none, r)
    | [column] => pure (none, none, { r with column := r.column + column })
    | column :: sourceStep :: more =>
      let r := { r with column := r.column + column, source := r.source + sourceStep }
      let source ← parts.source segment r.source
      match more with
      | line :: originalColumn :: more =>
        let r := { r with line := r.line + line,
                          originalColumn := r.originalColumn + originalColumn }
        match more with
        | [] => pure (source, none, r)
        | nameStep :: _ =>
          let r := { r with name := r.name + nameStep }
          let name ← parts.name segment r.name
          pure (source, some name, r)
      | _ => throw (.rejected (.short segment numbers))
  if r.hasNegative then throw .negative
  let mapping : Mapping Value :=
    { generatedLine, generatedColumn := r.column, source
      originalLine := source.map fun _ => r.line + 1
      originalColumn := source.map fun _ => r.originalColumn, name }
  return (mapping, r)

/-- The mappings of the segments of one generated line. -/
def placeSegments (parts : Parts) (generatedLine : Int) :
    List (List Char) → Running → Except DecodeError (List (Mapping Value) × Running)
  | [], r => .ok ([], r)
  | segment :: rest, r =>
    if segment.isEmpty then placeSegments parts generatedLine rest r
    else do
      let numbers ← match Vlq.read segment with
        | .ok numbers => pure numbers
        | .error .digit => throw (.rejected .digit)
        | .error .unfinished => throw (.rejected .unfinished)
      let (mapping, r) ← place parts generatedLine (String.ofList segment) numbers r
      let (mappings, r) ← placeSegments parts generatedLine rest r
      return (mapping :: mappings, r)

/-- The mappings of generated lines, the first of which has this number. -/
def placeLines (parts : Parts) (generatedLine : Int) :
    List (List Char) → Running → Except DecodeError (List (Mapping Value))
  | [], _ => .ok []
  | line :: rest, r => do
    let (mappings, r) ←
      placeSegments parts generatedLine (Text.splitOn ',' line) { r with column := 0 }
    return mappings ++ (← placeLines parts (generatedLine + 1) rest r)

def parts (document : Value) : Except DecodeError Parts := do
  let some sources := document.get? "sources" | throw (.rejected (.missing "sources"))
  let names ← names ((document.get? "names").getD (.list []))
  let some mappings := document.get? "mappings" | throw (.rejected (.missing "mappings"))
  let .scalar (.str mappings) := mappings | throw .noMappingText
  let sources ← rooted ((document.get? "sourceRoot").getD .null) sources
  return { sources, names, mappings }

/-- The mappings of a document, line by line and segment by segment. -/
def mappings (document : Value) : Except DecodeError (List (Mapping Value)) :=
  if document.isTable then do
    if document.holdsLongInteger then throw (.rejected .longInteger)
    let parts ← parts document
    placeLines parts 1 (Text.splitOn ';' parts.mappings.toList) {}
  else .error (.rejected .notTable)

/-- The text of a document without the line that guards it against being run as a script. -/
def withoutGuard (text : List Char) : List Char :=
  if Text.startsWith [')', ']', '}'] text then (text.dropWhile (· ≠ '\n')).drop 1 else text

/-- The document in a text. -/
def readText (text : List Char) : Except DecodeError Value :=
  match Json.parse (withoutGuard text) with
  | .ok document => .ok document
  | .error error => .error (.rejected (.json error))

/-- The document that is handed over. -/
def read : Payload → Except DecodeError Value
  | .text text => readText text
  | .bytes bytes => match Text.decode? bytes with
    | some text => readText text
    | none => .error .notText
  | .document document => .ok document

end Document

namespace SourceMap

/-- The source map of a document that has already been read as a value. -/
def ofDocument (document : Value) : Except DecodeError (SourceMap Value) := do
  match ofMappings? (← Document.mappings document) with
  | some map => return map
  | none => throw .wrongKind

/-- The source map of a document as it is handed over. -/
def ofPayload (payload : Payload) : Except DecodeError (SourceMap Value) := do
  ofDocument (← Document.read payload)

/-- The source map in a file, given what is found at its path. -/
def ofFile (path : String) (content : Path.Content) : Except DecodeError (SourceMap Value) :=
  match content with
  | .nothing | .directory => .error (.missingFile (Path.ofText path).display)
  | .file bytes => match Text.decode? bytes with
    | some text => ofPayload (.text (Text.unifyLineEnds text))
    | none => .error .notText

end SourceMap

end Remap
