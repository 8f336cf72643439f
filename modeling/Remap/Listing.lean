import Remap.Directive.LineDirective
import Remap.Directive.Resolution
import Remap.Line
import Remap.Map.Range
import Remap.Search
import Remap.Syntax.Grammar

/-!
# Listings

A listing is a source text made addressable: its lines with their offsets, which of them are
ignored, and the segments that directives exclude. Building it trims the blanks at the end of the
text, splits it into lines, applies the directives on lines, and, when a language is given, parses
the text and resolves the directives on constructs. All later questions are reads.

Lines are ignored for either of two reasons: a directive on a line covers them (`Line.indexAll`),
or one segment holds all of them (`Line.ignoreIn`).
-/

namespace Remap

/-! ## Lines -/

namespace Line

/-- The lines with these texts, numbered from `number` and laid out from `start`. A directive on a
line is looked for unless an earlier one still covers `pending` lines from here on. -/
def indexAll (number start : Int) (pending : Nat) : List (List Char) → Except DigitLimit (List Line)
  | [] => .ok []
  | text :: rest => do
    let (ignored, pending) ← match pending with
      | pending + 1 => pure (true, pending)
      | 0 => match ← LineDirective.ofText text with
        | some (.run count) => pure (true, count)
        | some .inline => pure (true, 0)
        | none => pure (false, 0)
    let line := { ofText number start text with ignored }
    return line :: (← indexAll (number + 1) (start + text.length) pending rest)

/-- Marks a line as ignored if one of the segments holds all of it. -/
def ignoreIn (segments : List Segment) (line : Line) : Line :=
  { line with ignored := line.ignored || segments.any (·.covers line.start line.stop) }

end Line

/-- The length of the first line if it names an interpreter, up to its line feed. -/
def shebangLength (text : List Char) : Nat :=
  if Text.startsWith ['#', '!'] text then (text.takeWhile (· ≠ '\n')).length else 0

/-! ## Listings -/

structure Listing where
  /-- The length of the text without the blanks at its end. -/
  eof : Int
  shebangLength : Int
  /-- The length of what the runtime puts in front of the text, less the shebang line. -/
  wrapperLength : Int
  lines : Array Line
  segments : List Segment
deriving Repr, DecidableEq

inductive ListingError where
  | count (refusal : DigitLimit)
  | unsupportedLanguage (name : String)
  /-- The parser is not looked for, since the name of its library cannot be one. -/
  | library (error : Grammar.LibraryError)
  | resolution (error : ResolutionError)
deriving Repr, DecidableEq

/-- A language whose parser is not there is not supported. -/
def ListingError.ofLibrary (language : String) : Grammar.LibraryError → ListingError
  | .unavailable => unsupportedLanguage language
  | error => library error

/-- A parser: the syntax tree of a text in the language of a grammar. -/
abbrev Parse := Grammar → List Char → SyntaxTree

/-- A line number that a listing does not have. -/
structure LineRangeError where
  number : Int
  count : Nat
deriving Repr, DecidableEq

def LineRangeError.message (error : LineRangeError) : String :=
  s!"line {error.number} out of range 1..{error.count}"

namespace Listing

/-- The segments of a text in a language, none without a language. -/
def findSegments (parse : Parse) (text : List Char) (language : Option String) :
    Logged (Except ListingError (List Segment)) :=
  match language with
  | none => ⟨.ok [], []⟩
  | some name => match Grammar.named? name with
    | none => ⟨.error (.unsupportedLanguage name), []⟩
    | some grammar => match grammar.load with
      | .error error => ⟨.error (.ofLibrary grammar.name error), []⟩
      | .ok () =>
        let resolved := resolveSegments grammar text (parse grammar text)
        ⟨resolved.value.mapError .resolution, resolved.events⟩

/-- In a registered language the segments are those that directives resolve to. -/
theorem findSegments_of_named? {name : String} {grammar : Grammar} (parse : Parse)
    (text : List Char) (h : Grammar.named? name = some grammar) :
    findSegments parse text (some name) =
      let resolved := resolveSegments grammar text (parse grammar text)
      ⟨resolved.value.mapError .resolution, resolved.events⟩ := by
  simp only [findSegments, h, Grammar.load_of_named? h]

/-- The listing of a trimmed text with these lines and segments. -/
def assemble (text : List Char) (wrapperLength : Int) (lines : List Line)
    (segments : List Segment) : Listing where
  eof := text.length
  shebangLength := Remap.shebangLength text
  wrapperLength := wrapperLength - Remap.shebangLength text
  lines := (lines.map (Line.ignoreIn segments)).toArray
  segments := segments

/-- What is reported about a finished listing. -/
def summary (listing : Listing) (language : Option String) : Event :=
  .sourceIndexed listing.lines.size (listing.lines.toList.countP Line.ignored)
    listing.segments.length language

/-- The listing of a source text. -/
def build (parse : Parse) (source : List Char) (wrapperLength : Int) (language : Option String) :
    Logged (Except ListingError Listing) :=
  let text := Text.trimEnd source
  match Line.indexAll 1 0 0 (Text.splitLines text) with
  | .error refusal => ⟨.error (.count refusal), []⟩
  | .ok lines =>
    let found := findSegments parse text language
    match found.value with
    | .error error => ⟨.error error, found.events⟩
    | .ok segments =>
      let listing := assemble text wrapperLength lines segments
      ⟨.ok listing, found.events ++ [listing.summary language]⟩

/-! ## Reads -/

/-- The line that holds an offset; the end of the text belongs to the last line. -/
def lineAt? (listing : Listing) (offset : Int) : Option Line :=
  if offset < 0 || listing.eof < offset then none
  else listing.lines[partitionPoint listing.lines (fun line => line.start ≤ offset) - 1]?

/-- The line with a number. -/
def line (listing : Listing) (number : Int) : Except LineRangeError Line :=
  if 1 ≤ number then
    match listing.lines[(number - 1).toNat]? with
    | some line => .ok line
    | none => .error ⟨number, listing.lines.size⟩
  else .error ⟨number, listing.lines.size⟩

/-- Whether there is a line with this number and it is ignored. -/
def isIgnored (listing : Listing) (number : Int) : Bool :=
  match listing.line number with
  | .ok line => line.ignored
  | .error _ => false

def isOffsetIgnored (listing : Listing) (offset : Int) : Bool :=
  listing.segments.any (·.holds offset)

def startOfLine (listing : Listing) (number : Int) : Except LineRangeError Int :=
  (listing.line number).map Line.start

def endOfLine (listing : Listing) (number : Int) : Except LineRangeError Int :=
  (listing.line number).map Line.stop

/-- The offset of a column of a line, kept within the line. Lines before the first count as the
first, and behind the last there is only the end of the text. -/
def offsetOf (listing : Listing) (line : Int) (column : Column) : Int :=
  match listing.lines[(max line 1 - 1).toNat]? with
  | some record => match column with
    | .finite n => max record.start (min (record.start + n) record.stop)
    | .infinite false => max record.start record.stop
    | .infinite true => record.start
  | none => listing.eof

/-- The offsets of the bounds of a mapped range, where this text is the original one. -/
def offsetsOf (listing : Listing) (range : MappedRange σ) : Except ColumnError (Int × Int) :=
  let start := listing.offsetOf range.startLine (.finite range.startColumn)
  match range.endColumn with
  | some column => .ok (start, listing.offsetOf range.endLine column)
  | none =>
    if (listing.lines.size : Int) < range.endLine then .ok (start, listing.eof)
    else .error .missing

/-- The original range of a range of the text. -/
def mapRange [BEq σ] (listing : Listing) (lookup : Lookup σ) (start stop : Int) :
    Logged (Except ColumnError (Option (MappedRange σ))) :=
  Remap.mapRange listing.lines.toList lookup start stop

end Listing

end Remap
