import Remap.Proofs.Chain
import Remap.Proofs.Directive.LineForms
import Remap.Proofs.Listing.Partition
import Remap.Proofs.Source

/-!
# Shebang lines

Where a text starts with `#!`, its shebang is all that stands before the first line
feed. The first line ends there too, but its line end takes in a carriage return that
stands in front of the line feed, which the shebang does not leave out. So the two have
one length just when the line does not end in both, and otherwise the shebang is the
longer by one (`Listing.shebangLength_eq_length_iff`). A file has no carriage return
once it is read, so that for loaded listings the lengths always agree
(`SourceFile.shebangLength_of_load`).

The first line takes up a content without line feeds and one of three line ends
(`LaidOut.exists_first`), and the run of characters before a line feed is measured in
each case.
-/

namespace Remap

namespace Text

theorem takeWhile_ne_newline {run rest : List Char} (hrun : '\n' ∉ run)
    (hrest : ∀ c ∈ rest.head?, c = '\n') : (run ++ rest).takeWhile (· ≠ '\n') = run := by
  refine takeWhile_append_of_head? (fun c hc => ?_) (fun c hc => ?_)
  · have : c ≠ '\n' := fun h => hrun (h ▸ hc)
    simpa using this
  · simp [hrest c hc]

theorem startsWith_iff_isPrefix {lead text : List Char} : startsWith lead text ↔ lead <+: text := by
  rw [startsWith_iff]
  exact exists_congr fun rest => eq_comm

end Text

/-! ## The first line -/

namespace LaidOut

variable {text : List Char} {lines : List Line}

/-- The first line takes up a content, and a line end unless this is all of the text. -/
theorem exists_first (h : LaidOut 1 0 lines (Text.splitLines text))
    (hlast : text.getLast? ≠ some '\n') :
    ∃ first content ending after, lines[0]? = some first ∧
      first.TakesUp text [] content ending after ∧ '\n' ∉ content ∧
      (ending = [] ∧ after = [] ∨ ending = ['\n'] ∨ ending = ['\r', '\n']) := by
  have hpartition := h.isPartition hlast
  obtain ⟨first, rest, rfl⟩ := List.exists_cons_of_ne_nil hpartition.ne_nil
  obtain ⟨before, content, ending, after, htakes, -, rfl, hcontent, hending⟩ :=
    h.exists_takesUp (i := 0) rfl
  refine ⟨first, content, ending, after, rfl, htakes, hcontent, ?_⟩
  by_cases hmore : 0 + 1 < (first :: rest).length
  · rw [if_pos hmore, Text.lineFeed] at hending
    split at hending
    · exact Or.inr (Or.inr hending)
    · exact Or.inr (Or.inl hending)
  · rw [if_neg hmore] at hending
    -- The only line goes on to the end of the text.
    obtain rfl : rest = [] := List.eq_nil_of_length_eq_zero (by simpa using hmore)
    have hstop := hpartition.stop_last first rfl
    rw [htakes.stop_eq, htakes.text_eq, hending] at hstop
    refine Or.inl ⟨hending, List.eq_nil_of_length_eq_zero ?_⟩
    simp only [List.take_zero, List.flatten_nil, List.nil_append, List.length_append,
      List.length_nil] at hstop
    omega

/-- Before the first line feed stands the content of the first line, and the carriage return of
its line end. -/
theorem exists_length_takeWhile (h : LaidOut 1 0 lines (Text.splitLines text))
    (hlast : text.getLast? ≠ some '\n') :
    ∃ first, lines[0]? = some first ∧ ((text.takeWhile (· ≠ '\n')).length : Int) =
      first.length + if first.ending text = ['\r', '\n'] then 1 else 0 := by
  obtain ⟨first, content, ending, after, hfirst, htakes, hcontent, hcases⟩ := h.exists_first hlast
  have hlength : first.length = content.length := by
    rw [Line.length, htakes.contentStop_eq, htakes.start_eq]
    omega
  refine ⟨first, hfirst, ?_⟩
  rw [htakes.ending_eq, hlength, htakes.text_eq, List.nil_append]
  rcases hcases with ⟨rfl, rfl⟩ | rfl | rfl
  · rw [Text.takeWhile_ne_newline hcontent (by simp)]
    rfl
  · rw [Text.takeWhile_ne_newline hcontent (by simp)]
    rfl
  · have hreturn : '\n' ∉ content ++ ['\r'] := by simpa using hcontent
    have hsplit : content ++ (['\r', '\n'] ++ after) = content ++ ['\r'] ++ '\n' :: after := by simp
    rw [hsplit, Text.takeWhile_ne_newline hreturn (by simp), if_pos rfl, List.length_append]
    rfl

end LaidOut

/-! ## Listings -/

namespace Listing

variable {parse : Parse} {source : List Char} {wrapperLength : Int} {language : Option String}
  {listing : Listing}

/-- A listing takes the length of the shebang from that of the wrapper. The shebang is as long as
the content of the first line and the carriage return of its line end. -/
theorem exists_shebangLength_of_build
    (h : (build parse source wrapperLength language).value = .ok listing) :
    listing.wrapperLength + listing.shebangLength = wrapperLength ∧
      ∃ first, listing.lines[0]? = some first ∧ listing.shebangLength =
        if ['#', '!'] <+: Text.trimEnd source then
          first.length + if first.ending (Text.trimEnd source) = ['\r', '\n'] then 1 else 0
        else 0 := by
  obtain ⟨first, hfirst, hlength⟩ :=
    (lists_of_build h).laidOut.exists_length_takeWhile (Text.getLast?_trimEnd source)
  obtain ⟨lines, segments, -, -, rfl⟩ := build_eq_ok_iff.mp h
  refine ⟨Int.sub_add_cancel _ _, first, by simpa using hfirst, ?_⟩
  rw [← hlength, assemble, Remap.shebangLength]
  by_cases hshebang : ['#', '!'] <+: Text.trimEnd source
  · rw [if_pos hshebang, if_pos (Text.startsWith_iff_isPrefix.mpr hshebang)]
  · rw [if_neg hshebang, if_neg (mt Text.startsWith_iff_isPrefix.mp hshebang)]
    rfl

/-- A shebang is as long as the first line just when this does not end in a carriage return and a
line feed, and longer by one where it does. Without `#!` at its start a text has no shebang. -/
theorem shebangLength_eq_length_iff
    (h : (build parse source wrapperLength language).value = .ok listing) :
    listing.wrapperLength + listing.shebangLength = wrapperLength ∧
      (¬ ['#', '!'] <+: Text.trimEnd source → listing.shebangLength = 0) ∧
      ∃ first, listing.lines[0]? = some first ∧ (['#', '!'] <+: Text.trimEnd source →
        (listing.shebangLength = first.length ↔
            first.ending (Text.trimEnd source) ≠ ['\r', '\n']) ∧
          (first.ending (Text.trimEnd source) = ['\r', '\n'] →
            listing.shebangLength = first.length + 1)) := by
  obtain ⟨hwrapper, first, hfirst, hlength⟩ := exists_shebangLength_of_build h
  refine ⟨hwrapper, fun hnone => by rw [hlength, if_neg hnone], first, hfirst, fun hshebang => ?_⟩
  rw [if_pos hshebang] at hlength
  by_cases hending : first.ending (Text.trimEnd source) = ['\r', '\n']
  · rw [if_pos hending] at hlength
    refine ⟨iff_of_false ?_ (not_not_intro hending), fun _ => hlength⟩
    omega
  · rw [if_neg hending, Int.add_zero] at hlength
    exact ⟨iff_of_true hlength hending, fun h => absurd h hending⟩

/-- A shebang with a carriage return within, ahead of a line that ends in two characters. -/
def innerReturn : List Char := "#!a\rb\nc\r\nd \r\n".toList

theorem shebangLength_eq_length_iff_innerReturn :
    ∃ listing first, (build (fun _ _ => ⟨default, false⟩) innerReturn 62 none).value =
        .ok listing ∧ listing.lines[0]? = some first ∧
      listing.shebangLength = first.length ∧ first.length = 5 ∧ listing.wrapperLength = 57 := by
  have hbuild : (build (fun _ _ => ⟨default, false⟩) innerReturn 62 none).value =
      .ok ⟨10, 5, 57, #[⟨1, 0, 6, 5, false⟩, ⟨2, 6, 9, 7, false⟩, ⟨3, 9, 10, 10, false⟩], []⟩ :=
    rfl
  obtain ⟨-, -, first, hfirst, hlength⟩ := shebangLength_eq_length_iff hbuild
  cases hfirst
  obtain ⟨hiff, -⟩ := hlength (by decide)
  exact ⟨_, _, hbuild, rfl, hiff.mpr (by decide), rfl, rfl⟩

/-- A shebang on a line that ends in two characters. -/
def outerReturn : List Char := "#!/usr/bin/env node\r\nfoo();".toList

theorem shebangLength_ne_length_outerReturn :
    ∃ listing first, (build (fun _ _ => ⟨default, false⟩) outerReturn 62 none).value =
        .ok listing ∧ ['#', '!'] <+: Text.trimEnd outerReturn ∧
      listing.lines[0]? = some first ∧ first.length = 19 ∧ listing.shebangLength = 20 ∧
      listing.shebangLength ≠ first.length :=
  ⟨⟨27, 20, 42, #[⟨1, 0, 21, 19, false⟩, ⟨2, 21, 27, 27, false⟩], []⟩, _, rfl, by decide, rfl, rfl,
    rfl, by decide⟩

end Listing

/-! ## Files -/

/-- The shebang of a file is as long as the first line. -/
theorem SourceFile.shebangLength_of_load {file : SourceFile} {parse : Parse} {settings : Settings}
    {wrapperLength : Int} {session : Session} {listing : Listing}
    (h : (file.load parse settings wrapperLength session).1 = .ok listing) :
    listing.wrapperLength + listing.shebangLength = wrapperLength ∧
      ∃ text first, file.Reads (.ok text) ∧ listing.lines[0]? = some first ∧
        listing.shebangLength =
          if ['#', '!'] <+: Text.trimEnd text then first.length else 0 := by
  have hread := file.reads_text
  have hbuild : (file.build parse settings wrapperLength).value = .ok listing := h
  rw [SourceFile.build] at hbuild
  cases htext : file.text with
  | error error => simp [htext] at hbuild
  | ok text =>
      rw [htext] at hbuild hread
      obtain ⟨hwrapper, first, hfirst, hlength⟩ :=
        Listing.exists_shebangLength_of_build (mapError_eq_ok_iff.mp hbuild)
      refine ⟨hwrapper, text, first, hread, hfirst, ?_⟩
      have hending : first.ending (Text.trimEnd text) ≠ ['\r', '\n'] := by
        intro hending
        have hmem : '\r' ∈ first.ending (Text.trimEnd text) := hending ▸ List.mem_cons_self
        cases hread with
        | text _ _ hunified =>
            exact hunified.return_not_mem (Text.mem_of_mem_trimEnd (Line.mem_of_mem_ending hmem))
      rw [hlength, if_neg hending, Int.add_zero]

end Remap
