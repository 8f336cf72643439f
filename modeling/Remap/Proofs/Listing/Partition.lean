import Remap.Proofs.Listing.Lines

/-!
# Lines partition a text

The lines of a listing cut its text into slices that follow one another without
gaps, from the first character to the last (`IsPartition`). Each slice is a
content without line feeds and the line end behind it, which only the last line
lacks. `isPartition_of_build` says so of every text that a listing is built from,
which is the source without the blanks at its end.

The argument goes line by line: what stands at an index of the lines is laid out
from the piece of the text at that index (`LaidOut.eq_ofText`), and each piece is a
content and a line end (`Text.exists_content`).
-/

namespace Remap

/-! ## Trimmed texts -/

namespace Text

/-- Whether a text is a source without the blanks at its end. -/
def IsTrimmed (source text : List Char) : Prop :=
  ∃ blanks, source = text ++ blanks ∧ (∀ c ∈ blanks, isBlank c) ∧
    ∀ c ∈ text.getLast?, ¬ isBlank c

theorem isTrimmed_trimEnd (source : List Char) : IsTrimmed source (trimEnd source) := by
  refine ⟨(source.reverse.takeWhile isBlank).reverse, ?_, ?_, ?_⟩
  · rw [trimEnd, ← List.reverse_append, List.takeWhile_append_dropWhile, List.reverse_reverse]
  · intro c hc
    exact List.all_eq_true.mp List.all_takeWhile c (List.mem_reverse.mp hc)
  · intro c hc
    rw [trimEnd, List.getLast?_reverse] at hc
    have hnot := List.head?_dropWhile_not isBlank source.reverse
    rw [Option.mem_def.mp hc] at hnot
    simpa using hnot

theorem mem_of_mem_trimEnd {text : List Char} {c : Char} (h : c ∈ trimEnd text) : c ∈ text := by
  obtain ⟨blanks, htext, -⟩ := isTrimmed_trimEnd text
  rw [htext]
  exact List.mem_append_left _ h

/-! ## Slices and pieces -/

/-- The characters of a text from one offset up to another. -/
def slice (text : List Char) (start stop : Int) : List Char :=
  (text.take stop.toNat).drop start.toNat

theorem slice_append (before piece after : List Char) :
    slice (before ++ (piece ++ after)) before.length (before.length + piece.length) = piece := by
  have hstop : ((before.length : Int) + piece.length).toNat = (before ++ piece).length := by
    rw [List.length_append]
    omega
  rw [slice, hstop, Int.toNat_natCast, ← List.append_assoc, List.take_left, List.drop_left]

/-- All pieces of a text but the last end in a line feed, and none holds another. -/
theorem exists_splitLines (text : List Char) :
    ∃ pieces last, splitLines text = pieces ++ [last] ∧
      (∀ piece ∈ pieces, ∃ content, piece = content ++ ['\n'] ∧ '\n' ∉ content) ∧
      '\n' ∉ last := by
  induction text with
  | nil => exact ⟨[], [], rfl, by simp, by simp⟩
  | cons c rest ih =>
      obtain ⟨pieces, last, hsplit, hpieces, hlast⟩ := ih
      by_cases hc : c = '\n'
      · refine ⟨[c] :: pieces, last, by simp [splitLines, hc, hsplit], ?_, hlast⟩
        intro piece hpiece
        rcases List.mem_cons.mp hpiece with rfl | hpiece
        · exact ⟨[], by simp [hc], by simp⟩
        · exact hpieces piece hpiece
      · have hne : ¬ '\n' = c := fun h => hc h.symm
        cases pieces with
        | nil =>
            exact ⟨[], c :: last, by simp [splitLines, hc, hsplit], by simp, by simp [hne, hlast]⟩
        | cons first pieces =>
            refine ⟨(c :: first) :: pieces, last, by simp [splitLines, hc, hsplit], ?_, hlast⟩
            intro piece hpiece
            rcases List.mem_cons.mp hpiece with rfl | hpiece
            · obtain ⟨content, rfl, hcontent⟩ := hpieces first List.mem_cons_self
              exact ⟨c :: content, rfl, by simp [hne, hcontent]⟩
            · exact hpieces piece (List.mem_cons_of_mem _ hpiece)

/-- The line end of a piece that ends in a line feed. -/
def lineFeed (piece : List Char) : List Char :=
  if ['\r', '\n'] <:+ piece then ['\r', '\n'] else ['\n']

theorem lineEndLength_of_not_mem {piece : List Char} (h : '\n' ∉ piece) :
    lineEndLength piece = 0 := by
  rw [← List.mem_reverse] at h
  unfold lineEndLength
  split
  · next hreverse => simp [hreverse] at h
  · next hreverse => simp [hreverse] at h
  · rfl

theorem lineEndLength_append_lineFeed {content : List Char} :
    lineEndLength (content ++ ['\n']) = (lineFeed (content ++ ['\n'])).length := by
  unfold lineEndLength lineFeed
  rw [List.reverse_append, List.reverse_singleton, List.singleton_append]
  cases hreverse : content.reverse with
  | nil => simp [List.reverse_eq_nil_iff.mp hreverse, List.suffix_cons_iff]
  | cons c body =>
      have hcontent : content = body.reverse ++ [c] := by
        rw [← List.reverse_reverse content, hreverse, List.reverse_cons]
      have hsuffix : ['\r', '\n'] <:+ content ++ ['\n'] ↔ c = '\r' := by
        rw [hcontent, List.append_assoc]
        constructor
        · rintro ⟨front, hfront⟩
          have := (List.append_inj' hfront rfl).2
          simpa [eq_comm] using this
        · rintro rfl
          exact ⟨body.reverse, rfl⟩
      by_cases hc : c = '\r'
      · rw [if_pos (hsuffix.mpr hc), hc]
        rfl
      · rw [if_neg (fun h => hc (hsuffix.mp h))]
        split
        · next heq => exact absurd (List.cons.inj (List.cons.inj heq).2).1 hc
        · rfl
        · next hnot => exact absurd rfl (hnot (c :: body))

theorem exists_append_lineFeed {content : List Char} (h : '\n' ∉ content) :
    ∃ body, content ++ ['\n'] = body ++ lineFeed (content ++ ['\n']) ∧ '\n' ∉ body := by
  unfold lineFeed
  split
  · next hsuffix =>
      obtain ⟨body, hbody⟩ := hsuffix
      have hcontent : body ++ ['\r'] = content := by
        rw [← List.append_cancel_right_eq _ ['\n'], ← hbody, List.append_assoc]
        rfl
      exact ⟨body, hbody.symm, fun hmem => h (hcontent ▸ List.mem_append_left _ hmem)⟩
  · exact ⟨content, rfl, h⟩

/-- The piece at an index is a content and, unless it is the last, a line end. -/
theorem exists_content {text piece : List Char} {i : Nat} (h : (splitLines text)[i]? = some piece) :
    ∃ content ending, piece = content ++ ending ∧ lineEndLength piece = ending.length ∧
      '\n' ∉ content ∧
      ending = if i + 1 < (splitLines text).length then lineFeed piece else [] := by
  obtain ⟨pieces, last, hsplit, hpieces, hlast⟩ := exists_splitLines text
  rw [hsplit] at h ⊢
  rw [List.length_append, List.length_singleton]
  by_cases hi : i < pieces.length
  · rw [List.getElem?_append_left hi] at h
    obtain ⟨content, rfl, hcontent⟩ := hpieces piece (List.mem_of_getElem? h)
    obtain ⟨body, hbody, hnot⟩ := exists_append_lineFeed hcontent
    rw [if_pos (by omega)]
    exact ⟨body, _, hbody, lineEndLength_append_lineFeed, hnot, rfl⟩
  · obtain ⟨hlt, hget⟩ := List.getElem?_eq_some_iff.mp h
    rw [List.length_append, List.length_singleton] at hlt
    have hpiece : last = piece := by
      rw [← hget, List.getElem_append_right (by omega), List.getElem_singleton]
    rw [if_neg (by omega), ← hpiece]
    exact ⟨last, [], (List.append_nil _).symm, lineEndLength_of_not_mem hlast, hlast, rfl⟩

end Text

/-! ## Lines and pieces -/

namespace LaidOut

variable {number start : Int} {lines : List Line} {texts : List (List Char)}

theorem length_eq (h : LaidOut number start lines texts) : lines.length = texts.length := by
  induction h with
  | nil => rfl
  | cons _ _ ih => rw [List.length_cons, List.length_cons, ih]

/-- What stands at an index is laid out from the text at that index, behind all texts
before it. -/
theorem eq_ofText (h : LaidOut number start lines texts) {i : Nat} {line : Line}
    (hline : lines[i]? = some line) :
    ∃ text, texts[i]? = some text ∧ { line with ignored := false } =
      Line.ofText (number + i) (start + (texts.take i).flatten.length) text := by
  induction h generalizing i with
  | nil => cases hline
  | @cons number start first text lines texts hfirst _ ih =>
      cases i with
      | zero =>
          cases hline
          refine ⟨text, rfl, ?_⟩
          rw [hfirst]
          simp
      | succ i =>
          obtain ⟨own, hown, hofText⟩ := ih hline
          refine ⟨own, hown, ?_⟩
          rw [hofText, List.take_succ_cons, List.flatten_cons, List.length_append]
          congr 1 <;> omega

end LaidOut

namespace Line

/-- The characters of a line, line end included. -/
def chars (text : List Char) (line : Line) : List Char := Text.slice text line.start line.stop

/-- The characters of a line before its line end. -/
def content (text : List Char) (line : Line) : List Char :=
  Text.slice text line.start line.contentStop

/-- The characters of the line end of a line. -/
def ending (text : List Char) (line : Line) : List Char :=
  Text.slice text line.contentStop line.stop

theorem mem_of_mem_ending {line : Line} {text : List Char} {c : Char}
    (h : c ∈ line.ending text) : c ∈ text :=
  List.mem_of_mem_take (List.mem_of_mem_drop h)

/-- A line takes up a content and a line end in a text, behind some first characters. -/
structure TakesUp (line : Line) (text before content ending after : List Char) : Prop where
  text_eq : text = before ++ (content ++ (ending ++ after))
  start_eq : line.start = before.length
  contentStop_eq : line.contentStop = before.length + content.length
  stop_eq : line.stop = before.length + content.length + ending.length

namespace TakesUp

variable {line : Line} {text before content ending after : List Char}

theorem chars_eq (h : line.TakesUp text before content ending after) :
    line.chars text = content ++ ending := by
  have := Text.slice_append before (content ++ ending) after
  rw [List.append_assoc, List.length_append, Int.natCast_add, ← Int.add_assoc] at this
  rw [Line.chars, h.start_eq, h.stop_eq, h.text_eq, this]

theorem content_eq (h : line.TakesUp text before content ending after) :
    line.content text = content := by
  rw [Line.content, h.start_eq, h.contentStop_eq, h.text_eq, Text.slice_append]

theorem ending_eq (h : line.TakesUp text before content ending after) :
    line.ending text = ending := by
  have := Text.slice_append (before ++ content) ending after
  rw [List.append_assoc, List.length_append, Int.natCast_add] at this
  rw [Line.ending, h.contentStop_eq, h.stop_eq, h.text_eq, this]

end TakesUp

end Line

/-- Lines that partition a text. -/
structure IsPartition (text : List Char) (lines : List Line) : Prop where
  ne_nil : lines ≠ []
  number_eq : ∀ (i : Nat) line, lines[i]? = some line → line.number = i + 1
  start_first : ∀ line, lines[0]? = some line → line.start = 0
  stop_eq_start : ∀ (i : Nat) a b, lines[i]? = some a → lines[i + 1]? = some b → a.stop = b.start
  stop_last : ∀ line ∈ lines.getLast?, line.stop = text.length
  chars_flatten : lines.flatMap (Line.chars text) = text
  length_eq : text = [] → lines.length = 1
  start_lt_stop : text ≠ [] → ∀ line ∈ lines, line.start < line.stop
  start_le_contentStop : ∀ line ∈ lines, line.start ≤ line.contentStop
  contentStop_le_stop : ∀ line ∈ lines, line.contentStop ≤ line.stop
  newline_not_mem : ∀ line ∈ lines, '\n' ∉ line.content text
  ending_eq : ∀ (i : Nat) line, lines[i]? = some line → line.ending text =
    if i + 1 < lines.length then
      if ['\r', '\n'] <:+ line.chars text then ['\r', '\n'] else ['\n']
    else []

/-- Where pieces of a text are laid out, each line takes up its piece. -/
theorem LaidOut.exists_takesUp {text : List Char} {lines : List Line}
    (h : LaidOut 1 0 lines (Text.splitLines text)) {i : Nat} {line : Line}
    (hline : lines[i]? = some line) :
    ∃ before content ending after, line.TakesUp text before content ending after ∧
      (Text.splitLines text)[i]? = some (content ++ ending) ∧
      before = ((Text.splitLines text).take i).flatten ∧ '\n' ∉ content ∧
      ending = if i + 1 < lines.length then Text.lineFeed (content ++ ending) else [] := by
  obtain ⟨piece, hpiece, hofText⟩ := h.eq_ofText hline
  obtain ⟨content, ending, rfl, hlength, hcontent, hending⟩ := Text.exists_content hpiece
  rw [← h.length_eq] at hending
  have hstart := congrArg Line.start hofText
  have hstop := congrArg Line.stop hofText
  have hcontentStop := congrArg Line.contentStop hofText
  simp only [Line.ofText, hlength, List.length_append] at hstart hstop hcontentStop
  refine ⟨_, content, ending, ((Text.splitLines text).drop (i + 1)).flatten, ?_, hpiece, rfl,
    hcontent, hending⟩
  refine ⟨?_, by omega, by omega, by omega⟩
  obtain ⟨hi, hget⟩ := List.getElem?_eq_some_iff.mp hpiece
  calc text = (Text.splitLines text).flatten := (Text.flatten_splitLines text).symm
    _ = ((Text.splitLines text).take i ++
          (content ++ ending) :: (Text.splitLines text).drop (i + 1)).flatten := by
        rw [← hget, List.getElem_cons_drop, List.take_append_drop]
    _ = _ := by simp

namespace LaidOut

variable {text : List Char} {lines : List Line}

theorem exists_takesUp_of_mem (h : LaidOut 1 0 lines (Text.splitLines text)) {line : Line}
    (hline : line ∈ lines) :
    ∃ before content ending after, line.TakesUp text before content ending after ∧
      '\n' ∉ content := by
  obtain ⟨i, hi⟩ := List.mem_iff_getElem?.mp hline
  obtain ⟨before, content, ending, after, htakes, -, -, hcontent, -⟩ := h.exists_takesUp hi
  exact ⟨before, content, ending, after, htakes, hcontent⟩

/-- The slices of the lines are the pieces of the text. -/
theorem map_chars (h : LaidOut 1 0 lines (Text.splitLines text)) :
    lines.map (Line.chars text) = Text.splitLines text := by
  refine List.ext_getElem? fun i => ?_
  rw [List.getElem?_map]
  cases hline : lines[i]? with
  | none =>
      have hlength := List.getElem?_eq_none_iff.mp hline
      rw [Option.map_none, List.getElem?_eq_none (h.length_eq ▸ hlength)]
  | some line =>
      obtain ⟨before, content, ending, after, htakes, hpiece, -⟩ := h.exists_takesUp hline
      rw [Option.map_some, htakes.chars_eq, hpiece]

theorem start_eq (h : LaidOut 1 0 lines (Text.splitLines text)) {i : Nat} {line : Line}
    (hline : lines[i]? = some line) :
    line.start = ((Text.splitLines text).take i).flatten.length := by
  obtain ⟨before, content, ending, after, htakes, -, rfl, -⟩ := h.exists_takesUp hline
  exact htakes.start_eq

theorem stop_eq (h : LaidOut 1 0 lines (Text.splitLines text)) {i : Nat} {line : Line}
    (hline : lines[i]? = some line) :
    line.stop = ((Text.splitLines text).take (i + 1)).flatten.length := by
  obtain ⟨before, content, ending, after, htakes, hpiece, rfl, -⟩ := h.exists_takesUp hline
  rw [htakes.stop_eq, List.take_add_one, hpiece]
  simp only [Option.toList_some, List.flatten_append, List.flatten_singleton, List.length_append]
  omega

/-- Lines laid out from the pieces of a text partition it. -/
theorem isPartition (h : LaidOut 1 0 lines (Text.splitLines text))
    (hlast : text.getLast? ≠ some '\n') : IsPartition text lines where
  ne_nil := by
    obtain ⟨pieces, last, hsplit, -⟩ := Text.exists_splitLines text
    have hlength := h.length_eq
    rw [hsplit, List.length_append, List.length_singleton] at hlength
    exact List.ne_nil_of_length_eq_add_one hlength
  number_eq i line hline := by
    obtain ⟨piece, -, hofText⟩ := h.eq_ofText hline
    have hnumber : line.number = 1 + i := congrArg Line.number hofText
    omega
  start_first line hline := h.start_eq hline
  stop_eq_start i a b ha hb := by rw [h.stop_eq ha, h.start_eq hb]
  stop_last line hline := by
    rw [Option.mem_def, List.getLast?_eq_getElem?] at hline
    have hpos := List.length_pos_of_mem (List.mem_of_getElem? hline)
    rw [h.stop_eq hline, Nat.sub_add_cancel hpos, h.length_eq, List.take_length,
      Text.flatten_splitLines]
  chars_flatten := by
    rw [List.flatMap_def, h.map_chars, Text.flatten_splitLines]
  length_eq hempty := by rw [h.length_eq, hempty]; rfl
  start_lt_stop hne line hline :=
    h.start_lt_stop (Text.ne_nil_of_mem_splitLines hne hlast) hline
  start_le_contentStop line hline := by
    obtain ⟨before, content, ending, after, htakes, -⟩ := h.exists_takesUp_of_mem hline
    rw [htakes.start_eq, htakes.contentStop_eq]
    omega
  contentStop_le_stop line hline := by
    obtain ⟨before, content, ending, after, htakes, -⟩ := h.exists_takesUp_of_mem hline
    rw [htakes.contentStop_eq, htakes.stop_eq]
    omega
  newline_not_mem line hline := by
    obtain ⟨before, content, ending, after, htakes, hcontent⟩ := h.exists_takesUp_of_mem hline
    rw [htakes.content_eq]
    exact hcontent
  ending_eq i line hline := by
    obtain ⟨before, content, ending, after, htakes, -, -, -, hending⟩ := h.exists_takesUp hline
    rw [htakes.ending_eq, htakes.chars_eq]
    exact hending

end LaidOut

/-! ## Listings -/

/-- Lines are indexed where each directive on a line has a number that can be read. -/
theorem Line.exists_indexAll {texts : List (List Char)}
    (h : ∀ text ∈ texts, ∃ directive?, LineDirective.ofText text = .ok directive?)
    (number start : Int) (pending : Nat) :
    ∃ lines, indexAll number start pending texts = .ok lines := by
  induction texts generalizing number start pending with
  | nil => exact ⟨[], rfl⟩
  | cons text texts ih =>
      have hcoverage : ∃ covered, coverage pending text = .ok covered := by
        cases pending with
        | succ pending => exact ⟨_, rfl⟩
        | zero =>
            obtain ⟨directive?, hdirective⟩ := h text List.mem_cons_self
            exact ⟨_, by rw [coverage, hdirective]; rfl⟩
      obtain ⟨covered, hcovered⟩ := hcoverage
      obtain ⟨lines, hlines⟩ := ih (fun own hown => h own (List.mem_cons_of_mem _ hown))
        (number + 1) (start + text.length) covered.2
      exact ⟨_, by rw [indexAll_of_coverage hcovered, hlines]; rfl⟩

namespace Listing

/-- The lines of each listing partition the source without the blanks at its end. Without
a language there is a listing of each source, as long as the numbers in directives on
lines can be read. -/
theorem lines_partition (source : List Char) :
    Text.IsTrimmed source (Text.trimEnd source) ∧
      (∀ parse wrapperLength language listing,
        (build parse source wrapperLength language).value = .ok listing →
          IsPartition (Text.trimEnd source) listing.lines.toList ∧
            listing.eof = (Text.trimEnd source).length) ∧
      ((∀ line ∈ Text.splitLines (Text.trimEnd source),
          ∃ directive?, LineDirective.ofText line = .ok directive?) →
        ∀ parse wrapperLength, ∃ listing,
          (build parse source wrapperLength none).value = .ok listing) := by
  refine ⟨Text.isTrimmed_trimEnd source, ?_, ?_⟩
  · intro parse wrapperLength language listing hbuild
    have hlists := lists_of_build hbuild
    exact ⟨hlists.laidOut.isPartition (Text.getLast?_trimEnd source), hlists.eof_eq⟩
  · intro hread parse wrapperLength
    obtain ⟨lines, hlines⟩ := Line.exists_indexAll hread 1 0 0
    exact ⟨_, by rw [build, hlines]; rfl⟩

/-- Line ends of both kinds, an empty line, a carriage return within a line and blanks at
the end. -/
theorem lines_partition_mixedEnds :
    ∃ listing, (build (fun _ _ => ⟨default, false⟩) "a\r\n\nb\rc\n ".toList 0 none).value =
        .ok listing ∧
      IsPartition "a\r\n\nb\rc".toList listing.lines.toList ∧
      listing.lines.toList.map (fun line => (line.start, line.contentStop, line.stop)) =
        [(0, 1, 3), (3, 3, 4), (4, 7, 7)] := by
  have htrim : Text.trimEnd "a\r\n\nb\rc\n ".toList = "a\r\n\nb\rc".toList := by decide
  have hdirectives : (Text.splitLines "a\r\n\nb\rc".toList).map LineDirective.ofText =
      [.ok none, .ok none, .ok none] := rfl
  obtain ⟨-, hpartition, hexists⟩ := lines_partition "a\r\n\nb\rc\n ".toList
  rw [htrim] at hpartition hexists
  obtain ⟨listing, hlisting⟩ := hexists
    (fun line hline => by
      have hmem := List.mem_map_of_mem (f := LineDirective.ofText) hline
      rw [hdirectives] at hmem
      exact ⟨none, by simpa using hmem⟩)
    (fun _ _ => ⟨default, false⟩) 0
  refine ⟨listing, hlisting, (hpartition _ _ _ _ hlisting).1, ?_⟩
  have hvalue : (build (fun _ _ => ⟨default, false⟩) "a\r\n\nb\rc\n ".toList 0 none).value =
      .ok ⟨7, 0, 0, #[⟨1, 0, 3, 1, false⟩, ⟨2, 3, 4, 3, false⟩, ⟨3, 4, 7, 7, false⟩], []⟩ := rfl
  cases hvalue.symm.trans hlisting
  rfl

end Listing

end Remap
