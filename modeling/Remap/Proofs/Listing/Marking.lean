import Remap.Proofs.Chain
import Remap.Proofs.Listing.Lines

/-!
# Lines that segments hold

A listing in a language is the listing of the same text without one, with the lines
ignored as well that one segment holds from start to end (`IsMarked`). A segment takes
no mark away and touches nothing but the mark, so the segments may come one after
another and in any order (`Line.ignoreEach`), and a line that one of them holds has all
its offsets in it.

The lines of both listings are indexed alike; what a language adds is the segments that
are found in the text. So a listing in a language is there just when the one without is
and the directives on constructs can be resolved (`build_language_eq_ok_iff`).
-/

namespace Remap

/-! ## Marks -/

/-- Whether a segment holds all of a line. -/
def Segment.HoldsLine (segment : Segment) (line : Line) : Prop :=
  segment.start ≤ line.start ∧ line.stop ≤ segment.stop

theorem Segment.covers_iff_holdsLine {segment : Segment} {line : Line} :
    segment.covers line.start line.stop ↔ segment.HoldsLine line := by
  simp only [covers, HoldsLine, Bool.and_eq_true, decide_eq_true_eq]

/-- Offsets of a line lie in a segment that holds it. -/
theorem Segment.HoldsLine.holds {segment : Segment} {line : Line} (h : segment.HoldsLine line)
    {offset : Int} (hoffset : line.Holds offset) : segment.holds offset := by
  obtain ⟨hstart, hstop⟩ := h
  obtain ⟨hlo, hhi⟩ := hoffset
  simp only [Segment.holds, Bool.and_eq_true, decide_eq_true_eq]
  omega

namespace Line

/-- The lines after each of some segments has marked those that it holds, one segment after
another. -/
def ignoreEach (segments : List Segment) (lines : List Line) : List Line :=
  segments.foldl (fun lines segment => lines.map (ignoreIn [segment])) lines

/-- A line is another one that some segments may have marked. -/
structure IsMarked (line own : Line) (segments : List Segment) : Prop where
  frame : { line with ignored := own.ignored } = own
  ignored_iff : line.ignored ↔ own.ignored ∨ ∃ segment ∈ segments, segment.HoldsLine line

theorem isMarked_ignoreIn (segments : List Segment) (line : Line) :
    (ignoreIn segments line).IsMarked line segments where
  frame := rfl
  ignored_iff := by
    simp only [ignoreIn, Bool.or_eq_true, List.any_eq_true, Segment.covers_iff_holdsLine]
    exact Iff.rfl

theorem ignoreIn_nil (line : Line) : ignoreIn [] line = line := by
  rw [ignoreIn, List.any_nil, Bool.or_false]

theorem ignoreIn_ignoreIn (segment : Segment) (segments : List Segment) (line : Line) :
    ignoreIn segments (ignoreIn [segment] line) = ignoreIn (segment :: segments) line := by
  simp only [ignoreIn, List.any_cons, List.any_nil, Bool.or_false, Bool.or_assoc]

/-- One segment after another marks what all of them together do. -/
theorem ignoreEach_eq_map (segments : List Segment) (lines : List Line) :
    ignoreEach segments lines = lines.map (ignoreIn segments) := by
  induction segments generalizing lines with
  | nil => exact (List.map_id'' ignoreIn_nil lines).symm
  | cons segment segments ih =>
      have hstep : ignoreEach (segment :: segments) lines =
          ignoreEach segments (lines.map (ignoreIn [segment])) := rfl
      rw [hstep, ih, List.map_map]
      exact List.map_congr_left fun line _ => ignoreIn_ignoreIn segment segments line

/-- The order of segments makes no difference to a line. -/
theorem ignoreIn_perm {segments segments' : List Segment} (h : segments.Perm segments')
    (line : Line) : ignoreIn segments line = ignoreIn segments' line := by
  rw [ignoreIn, ignoreIn, h.any_eq]

end Line

/-! ## Listings -/

namespace Listing

/-- A listing is another one without segments, with its segments' marks added. -/
structure IsMarked (marked plain : Listing) : Prop where
  segments_eq : plain.segments = []
  frame : { marked with lines := plain.lines, segments := plain.segments } = plain
  size_eq : marked.lines.size = plain.lines.size
  isMarked : ∀ (i : Nat) line own, marked.lines[i]? = some line → plain.lines[i]? = some own →
    line.IsMarked own marked.segments
  isIgnored_iff : ∀ number, marked.isIgnored number ↔ plain.isIgnored number ∨
    ∃ line, marked.line number = .ok line ∧ ∃ segment ∈ marked.segments, segment.HoldsLine line
  eq_ignoreEach : ∀ segments, segments.Perm marked.segments →
    marked.lines.toList = Line.ignoreEach segments plain.lines.toList
  isOffsetIgnored : ∀ line ∈ marked.lines.toList, ∀ segment ∈ marked.segments,
    segment.HoldsLine line → ∀ offset, line.Holds offset → marked.isOffsetIgnored offset

variable {text : List Char} {wrapperLength : Int} {lines : List Line} {segments : List Segment}

theorem getElem?_assemble (i : Nat) :
    (assemble text wrapperLength lines segments).lines[i]? =
      lines[i]?.map (Line.ignoreIn segments) := by
  rw [assemble, List.getElem?_toArray, List.getElem?_map]

theorem size_assemble : (assemble text wrapperLength lines segments).lines.size = lines.length := by
  rw [assemble, List.size_toArray, List.length_map]

theorem lines_assemble_nil :
    (assemble text wrapperLength lines []).lines.toList = lines := by
  rw [assemble, List.map_id'' Line.ignoreIn_nil]

theorem lines_assemble_eq_ignoreEach {segments' : List Segment} (h : segments'.Perm segments) :
    (assemble text wrapperLength lines segments).lines.toList =
      Line.ignoreEach segments' (assemble text wrapperLength lines []).lines.toList := by
  rw [lines_assemble_nil, Line.ignoreEach_eq_map, assemble]
  exact List.map_congr_left fun line _ => (Line.ignoreIn_perm h line).symm

theorem line_assemble (number : Int) :
    (assemble text wrapperLength lines segments).line number =
      ((assemble text wrapperLength lines []).line number).map (Line.ignoreIn segments) := by
  simp only [line, getElem?_assemble, size_assemble]
  split
  · cases lines[(number - 1).toNat]? with
    | none => rfl
    | some own => simp [Line.ignoreIn_nil, Except.map]
  · rfl

theorem isMarked_assemble :
    (assemble text wrapperLength lines segments).IsMarked
      (assemble text wrapperLength lines []) where
  segments_eq := rfl
  frame := rfl
  size_eq := by rw [size_assemble, size_assemble]
  isMarked i line own hline hown := by
    rw [getElem?_assemble] at hline hown
    obtain ⟨bare, hbare, rfl⟩ := Option.map_eq_some_iff.mp hline
    rw [hbare, Option.map_some, Line.ignoreIn_nil] at hown
    cases hown
    exact Line.isMarked_ignoreIn segments own
  isIgnored_iff number := by
    rw [isIgnored, isIgnored, line_assemble number]
    cases (assemble text wrapperLength lines []).line number with
    | error refused => simp [Except.map]
    | ok own =>
        simp only [Except.map, Except.ok.injEq, exists_eq_left']
        exact (Line.isMarked_ignoreIn segments own).ignored_iff
  eq_ignoreEach _ := lines_assemble_eq_ignoreEach
  isOffsetIgnored line _ segment hsegment hholds offset hoffset :=
    List.any_eq_true.mpr ⟨segment, hsegment, hholds.holds hoffset⟩

theorem findSegments_some_eq_ok_iff {parse : Parse} {name : String} :
    (findSegments parse text (some name)).value = .ok segments ↔
      ∃ grammar, Grammar.named? name = some grammar ∧
        (resolveSegments grammar text (parse grammar text)).value = .ok segments := by
  cases hgrammar : Grammar.named? name with
  | none => simp [findSegments, hgrammar]
  | some grammar => simp [findSegments_of_named? parse text hgrammar, mapError_eq_ok_iff]

/-- What is marked is put together anew from the lines without marks. -/
theorem eq_assemble_of_isMarked {marked : Listing}
    (h : marked.IsMarked (assemble text wrapperLength lines [])) :
    marked = assemble text wrapperLength lines marked.segments := by
  have hlines := h.eq_ignoreEach marked.segments (List.Perm.refl _)
  rw [lines_assemble_nil, Line.ignoreEach_eq_map] at hlines
  have harray : marked.lines = (lines.map (Line.ignoreIn marked.segments)).toArray := by
    rw [← hlines, Array.toArray_toList]
  have hframe := h.frame
  obtain ⟨eof, shebang, wrapper, own, found⟩ := marked
  simp only [assemble, Listing.mk.injEq] at hframe harray ⊢
  exact ⟨hframe.1, hframe.2.1, hframe.2.2.1, harray, trivial⟩

/-- A listing in a language is the listing without one, with the segments that resolve from the
text and the marks of the lines that one of them holds. -/
theorem build_language_eq_ok_iff (parse : Parse) (source : List Char) (wrapperLength : Int)
    (name : String) (marked : Listing) :
    (build parse source wrapperLength (some name)).value = .ok marked ↔
      ∃ plain grammar, (build parse source wrapperLength none).value = .ok plain ∧
        Grammar.named? name = some grammar ∧
        (resolveSegments grammar (Text.trimEnd source)
          (parse grammar (Text.trimEnd source))).value = .ok marked.segments ∧
        marked.IsMarked plain := by
  rw [build_eq_ok_iff]
  constructor
  · rintro ⟨lines, segments, hlines, hsegments, rfl⟩
    obtain ⟨grammar, hgrammar, hresolved⟩ := findSegments_some_eq_ok_iff.mp hsegments
    exact ⟨assemble (Text.trimEnd source) wrapperLength lines [], grammar,
      build_eq_ok_iff.mpr ⟨lines, [], hlines, rfl, rfl⟩, hgrammar, hresolved, isMarked_assemble⟩
  · rintro ⟨plain, grammar, hplain, hgrammar, hresolved, hmarked⟩
    obtain ⟨lines, segments, hlines, hnone, rfl⟩ := build_eq_ok_iff.mp hplain
    cases hnone
    exact ⟨lines, marked.segments, hlines,
      findSegments_some_eq_ok_iff.mpr ⟨grammar, hgrammar, hresolved⟩,
      eq_assemble_of_isMarked hmarked⟩

/-- A line with a directive of its own, and a construct with one. -/
def bothDirectives : List Char :=
  "// c8 ignore next 0\na();\n// t8 ignore next\nb();\nc();".toList

def bothDirectivesTree : SyntaxTree where
  root :=
    ⟨"program", 0, 52, true, false, 0, 0, [
      ⟨"comment", 0, 19, true, false, 0, 0, []⟩,
      ⟨"expression_statement", 20, 24, true, false, 1, 0, []⟩,
      ⟨"comment", 25, 42, true, false, 2, 0, []⟩,
      ⟨"expression_statement", 43, 47, true, false, 3, 0, []⟩,
      ⟨"expression_statement", 48, 52, true, false, 4, 0, []⟩]⟩
  hasError := false

example :
    (build (fun _ _ => bothDirectivesTree) bothDirectives 0 (some "javascript")).value.toOption.map
      (fun listing => (listing.segments, listing.lines.map Line.ignored)) =
        some ([⟨24, 48⟩], #[true, false, true, true, false]) := by
  decide +kernel

end Listing

end Remap
