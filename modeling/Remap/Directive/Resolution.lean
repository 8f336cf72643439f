import Remap.Directive.Target
import Remap.Fault
import Remap.Log.Event
import Remap.Text.Bytes

/-!
# Segments from directives

Each comment of a syntax tree that holds a directive is resolved into a segment of the text, or
passed over because no construct follows it or, for `rest`, because no block encloses it. The
tree counts in bytes and the text in characters, so every offset is converted; the end of a
segment then moves past line feeds, semicolons and closing braces that follow directly.

A tree with an error is refused as a whole. So is a tree whose offsets do not fit the text, but
what was resolved before the misfit is still reported.
-/

namespace Remap

inductive ResolutionError where
  /-- The parser met an error at this line and column. -/
  | flawed (language : String) (line column : Nat)
  /-- The bytes of a comment start or stop inside a character. -/
  | splitCharacter
  /-- A byte offset lies outside the text. -/
  | outsideText
deriving Repr, DecidableEq

/-- What a caller is told, where the error is one that a caller is meant to handle. -/
def ResolutionError.fault? : ResolutionError → Option Fault
  | flawed language line column => some (.sourceFlawed (.str language) (.int line) (.int column))
  | splitCharacter | outsideText => none

/-- What became of one directive. Offsets count characters. -/
inductive Resolution where
  | resolved (directive : RangeDirective) (segment : Segment)
  | withoutTarget (directive : RangeDirective) (offset : Nat)
  | withoutBlock (directive : RangeDirective) (offset : Nat)
deriving Repr, DecidableEq

namespace Resolution

def event : Resolution → Event
  | resolved directive segment => .segmentResolved directive segment
  | withoutTarget directive offset => .directiveWithoutTarget directive offset
  | withoutBlock directive offset => .directiveWithoutBlock directive offset

def segment? : Resolution → Option Segment
  | resolved _ segment => some segment
  | _ => none

end Resolution

/-! ## Offsets -/

def isTerminator (c : Char) : Bool := c = '\n' || c = ';' || c = '}'

/-- The end of the run of terminators that starts at an offset, or the offset itself. -/
def widen (text : List Char) (stop : Nat) : Nat :=
  stop + ((text.drop stop).takeWhile isTerminator).length

/-- The same for any integer: a negative offset counts from the end of the text, and a run that
reaches the end from there goes on at its start. There is nothing before the start. -/
def widenFrom? (text : List Char) (stop : Int) : Option Int :=
  if 0 ≤ stop then some (widen text stop.toNat)
  else if stop < -(text.length : Int) then none
  else
    let tail := text.drop (text.length + stop).toNat
    let run := (tail.takeWhile isTerminator).length
    some (if run = tail.length then widen text 0 else stop + run)

/-- The character offset of a byte offset. In a text of single bytes they are the same, and no
bound is checked. -/
def charOffset? (text : List Char) (offset : Nat) : Option Nat :=
  if text.length = Text.byteSize text then some offset else Text.charIndex? text offset

def charOffset (text : List Char) (offset : Nat) : Except ResolutionError Nat :=
  match charOffset? text offset with
  | some index => .ok index
  | none => .error .outsideText

/-! ## Resolution -/

/-- The segment of the text that a range of bytes becomes. -/
def ByteSpan.segment (text : List Char) (range : ByteSpan) : Except ResolutionError Segment := do
  let start ← charOffset text range.start
  let stop ← charOffset text range.stop
  return ⟨start, widen text stop⟩

/-- What becomes of a comment, if it holds a directive. -/
def resolveComment (grammar : Grammar) (text : List Char) (root comment : Node) :
    Except ResolutionError (Option Resolution) := do
  let some body := Text.cut? text comment.start comment.stop | throw .splitCharacter
  let some directive := RangeDirective.ofComment? body | return none
  match root.target? grammar ⟨comment.start, comment.stop⟩ with
  | none => return some (.withoutTarget directive (← charOffset text comment.start))
  | some target => match target.range? grammar directive with
    | none => return some (.withoutBlock directive (← charOffset text comment.start))
    | some range => return some (.resolved directive (← range.segment text))

/-- The resolutions of comments in order, up to the first that fails, and its failure. -/
def resolveComments (grammar : Grammar) (text : List Char) (root : Node) :
    List Node → List Resolution × Option ResolutionError
  | [] => ([], none)
  | comment :: rest => match resolveComment grammar text root comment with
    | .error failure => ([], some failure)
    | .ok outcome =>
      let (later, failure) := resolveComments grammar text root rest
      (outcome.toList ++ later, failure)

/-- The segments that the directives of a text exclude, in the order of the comments. -/
def resolveSegments (grammar : Grammar) (text : List Char) (tree : SyntaxTree) :
    Logged (Except ResolutionError (List Segment)) :=
  if tree.hasError then
    let (line, column) := tree.errorPlace
    ⟨.error (.flawed grammar.name line column), []⟩
  else
    let (resolutions, failure) :=
      resolveComments grammar text tree.root (tree.root.comments grammar)
    let value := match failure with
      | some failure => .error failure
      | none => .ok (resolutions.filterMap Resolution.segment?)
    ⟨value, resolutions.map Resolution.event⟩

end Remap
