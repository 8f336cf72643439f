import Remap.Proofs.Listing.Addressing

/-!
# The lines that a range selects

A range selects the lines that start at or before its last offset (`lastOffset`) and
stop behind its start. Lines lie one after another, so those that start early enough
are the first ones and those that stop late enough are the last ones: what is selected
is a run of lines (`LaidOut.overlapping_isInfix`).

In a listing the run goes from the line that `lineAt?` finds at the start of the range
to the line that it finds at the last offset, each brought within the text, and nothing
is selected when the range lies before or behind the text (`overlapping_isRun_of_build`).
-/

namespace Remap

/-! ## Runs of lines -/

/-- What holds of an element once it holds of a later one holds of the first elements. -/
theorem filter_isPrefix_of_pairwise {α : Type} {p : α → Bool} {xs : List α}
    (h : xs.Pairwise fun a b => p b → p a) : xs.filter p <+: xs := by
  induction h with
  | nil => exact List.nil_prefix
  | @cons a xs ha _ ih =>
      by_cases hp : p a
      · rw [List.filter_cons_of_pos hp]
        exact List.cons_prefix_cons.mpr ⟨rfl, ih⟩
      · have hnone : (a :: xs).filter p = [] := by
          rw [List.filter_cons_of_neg hp, List.filter_eq_nil_iff]
          exact fun b hb hpb => hp (ha b hb hpb)
        rw [hnone]
        exact List.nil_prefix

/-- What goes on holding once it holds of an element holds of the last elements. -/
theorem filter_isSuffix_of_pairwise {α : Type} {p : α → Bool} {xs : List α}
    (h : xs.Pairwise fun a b => p a → p b) : xs.filter p <:+ xs := by
  induction h with
  | nil => exact List.nil_suffix
  | @cons a xs ha _ ih =>
      by_cases hp : p a
      · have hall : (a :: xs).filter p = a :: xs := by
          rw [List.filter_cons_of_pos hp, List.filter_eq_self.mpr fun b hb => ha b hb hp]
        exact hall.symm ▸ List.suffix_rfl
      · rw [List.filter_cons_of_neg hp]
        exact ih.trans (List.suffix_cons a xs)

namespace LaidOut

variable {number origin start stop : Int} {lines : List Line} {texts : List (List Char)}

/-- The lines that a range selects follow one another without a gap. -/
theorem overlapping_isInfix (h : LaidOut number origin lines texts) (start stop : Int) :
    overlapping lines start stop <:+: lines := by
  have hordered : lines.Pairwise fun a b => a.start ≤ b.start ∧ a.stop ≤ b.stop := by
    refine List.Pairwise.imp_of_mem (fun ha hb hab => ?_) h.pairwise
    have := h.bounds ha
    have := h.bounds hb
    omega
  have hlate : (lines.filter fun line => start < line.stop) <:+ lines := by
    refine filter_isSuffix_of_pairwise (hordered.imp fun hab ha => ?_)
    rw [decide_eq_true_eq] at ha ⊢
    exact Int.lt_of_lt_of_le ha hab.2
  have hearly : overlapping lines start stop <+: lines.filter fun line => start < line.stop := by
    rw [overlapping, ← List.filter_filter]
    refine filter_isPrefix_of_pairwise ((hordered.sublist List.filter_sublist).imp fun hab hb => ?_)
    rw [decide_eq_true_eq] at hb ⊢
    exact Int.le_trans hab.1 hb
  exact hearly.isInfix.trans hlate.isInfix

end LaidOut

/-- Whether lines are a run of all lines, from one line to another, both included. -/
structure IsRun (lines : List Line) (first last : Line) (run : List Line) : Prop where
  isInfix : run <:+: lines
  head?_eq : run.head? = some first
  getLast?_eq : run.getLast? = some last
  increasing : run.Pairwise fun a b => a.number < b.number

namespace Listing

namespace Lists

variable {listing : Listing} {text : List Char} {start stop : Int} {line first last : Line}

/-- Where there are two lines none is empty. -/
theorem start_lt_stop_of_number_lt (h : listing.Lists text) (hlast : text.getLast? ≠ some '\n')
    {a b : Line} (ha : a ∈ listing.lines.toList) (hb : b ∈ listing.lines.toList)
    (hlt : a.number < b.number) : a.start < a.stop ∧ b.start < b.stop := by
  have hne : text ≠ [] := by
    intro hempty
    obtain ⟨only, honly⟩ :=
      List.length_eq_one_iff.mp ((h.laidOut.isPartition hlast).length_eq hempty)
    rw [honly, List.mem_singleton] at ha hb
    rw [ha, hb] at hlt
    exact Int.lt_irrefl _ hlt
  exact ⟨h.start_lt_stop hne hlast ha, h.start_lt_stop hne hlast hb⟩

/-- An offset that belongs to a line lies in it, or both end where the text does. -/
theorem bounds_of_isLineAt (h : listing.Lists text) (hlast : text.getLast? ≠ some '\n')
    {offset : Int} (hline : listing.IsLineAt offset line) :
    line.start ≤ offset ∧
      (offset < line.stop ∨ offset = listing.eof ∧ line.stop = listing.eof) := by
  obtain ⟨hmem, ⟨hlo, hhi⟩ | ⟨rfl, hback⟩⟩ := hline
  · exact ⟨hlo, Or.inl hhi⟩
  · have := h.bounds hmem
    have hstop := h.stop_of_back? hlast hback
    exact ⟨by omega, Or.inr ⟨rfl, hstop⟩⟩

/-- The lines that a range selects start with the line at its start. -/
theorem head?_overlapping (h : listing.Lists text) (htrimmed : text.getLast? ≠ some '\n')
    (hstart : start < listing.eof) (hlast : 0 ≤ lastOffset start stop)
    (hfirst : listing.IsLineAt (max start 0) first) :
    (overlapping listing.lines.toList start stop).head? = some first := by
  have hle := le_lastOffset start stop
  obtain ⟨hlo, hhi⟩ := h.bounds_of_isLineAt htrimmed hfirst
  refine head?_overlapping_of_forall h.laidOut
    (mem_overlapping_iff.mpr ⟨hfirst.1, by omega, by omega⟩) ?_
  intro l hl hlt
  -- Where the range starts before the text there is no line before the first.
  have hbefore := h.laidOut.stop_le_start hl hfirst.1 hlt
  have hbounds := h.bounds hl
  have := h.start_lt_stop_of_number_lt htrimmed hl hfirst.1 hlt
  omega

/-- The lines that a range selects end with the line at its last offset. -/
theorem getLast?_overlapping (h : listing.Lists text) (htrimmed : text.getLast? ≠ some '\n')
    (hstart : start < listing.eof)
    (hlast : listing.IsLineAt (min (lastOffset start stop) listing.eof) last) :
    (overlapping listing.lines.toList start stop).getLast? = some last := by
  have hle := le_lastOffset start stop
  obtain ⟨hlo, hhi⟩ := h.bounds_of_isLineAt htrimmed hlast
  refine getLast?_overlapping_of_forall h.laidOut
    (mem_overlapping_iff.mpr ⟨hlast.1, by omega, by omega⟩) ?_
  intro l hl hlt
  -- Where the range stops behind the text there is no line behind the last.
  have hbehind := h.laidOut.stop_le_start hlast.1 hl hlt
  have hbounds := h.bounds hl
  have := h.start_lt_stop_of_number_lt htrimmed hlast.1 hl hlt
  omega

end Lists

/-- A range selects no line when it lies before or behind the text. Else it selects the run
of lines from the one at its start to the one at its last offset. -/
theorem overlapping_isRun_of_build {parse : Parse} {source : List Char} {wrapperLength : Int}
    {language : Option String} {listing : Listing}
    (h : (build parse source wrapperLength language).value = .ok listing) (start stop : Int) :
    (overlapping listing.lines.toList start stop = [] ↔
        listing.eof ≤ start ∨ lastOffset start stop < 0) ∧
      (¬ (listing.eof ≤ start ∨ lastOffset start stop < 0) →
        ∃ first last, listing.lineAt? (max start 0) = some first ∧
          listing.lineAt? (min (lastOffset start stop) listing.eof) = some last ∧
          IsRun listing.lines.toList first last (overlapping listing.lines.toList start stop)) := by
  have hl := lists_of_build h
  have htrimmed := Text.getLast?_trimEnd source
  have hrun (hwithin : ¬ (listing.eof ≤ start ∨ lastOffset start stop < 0)) :
      ∃ first last, listing.lineAt? (max start 0) = some first ∧
        listing.lineAt? (min (lastOffset start stop) listing.eof) = some last ∧
        IsRun listing.lines.toList first last (overlapping listing.lines.toList start stop) := by
    rw [not_or, Int.not_le, Int.not_lt] at hwithin
    obtain ⟨hstart, hlast⟩ := hwithin
    have heof : 0 ≤ listing.eof := by
      rw [hl.eof_eq]
      omega
    obtain ⟨first, hfirst⟩ := Option.ne_none_iff_exists'.mp
      (mt hl.lineAt?_eq_none_iff.mp (by omega : ¬ (max start 0 < 0 ∨ listing.eof < max start 0)))
    obtain ⟨last, hend⟩ := Option.ne_none_iff_exists'.mp
      (mt hl.lineAt?_eq_none_iff.mp (by omega : ¬ (min (lastOffset start stop) listing.eof < 0 ∨
        listing.eof < min (lastOffset start stop) listing.eof)))
    refine ⟨first, last, hfirst, hend, ?_⟩
    exact {
      isInfix := hl.laidOut.overlapping_isInfix start stop
      head?_eq := hl.head?_overlapping htrimmed hstart hlast
        (hl.lineAt?_eq_some_iff_isLineAt.mp hfirst)
      getLast?_eq := hl.getLast?_overlapping htrimmed hstart
        (hl.lineAt?_eq_some_iff_isLineAt.mp hend)
      increasing := pairwise_overlapping hl.laidOut start stop }
  refine ⟨⟨fun hnone => Classical.byContradiction fun hwithin => ?_, fun hout => ?_⟩, hrun⟩
  · obtain ⟨first, last, -, -, hisRun⟩ := hrun hwithin
    have hhead := hisRun.head?_eq
    rw [hnone] at hhead
    cases hhead
  · refine List.eq_nil_iff_forall_not_mem.mpr fun line hline => ?_
    obtain ⟨hmem, hearly, hlate⟩ := mem_overlapping_iff.mp hline
    have := hl.bounds hmem
    omega

/-- A range that starts before the text and ends on its second line, and ranges that lie
before and behind the text. -/
theorem overlapping_isRun_of_build_threeLines :
    ∃ listing, (build (fun _ _ => ⟨default, false⟩) "ab\r\n\nc \n".toList 0 none).value =
        .ok listing ∧
      IsRun listing.lines.toList ⟨1, 0, 4, 2, false⟩ ⟨2, 4, 5, 4, false⟩
        (overlapping listing.lines.toList (-3) 5) ∧
      overlapping listing.lines.toList (-3) (-1) = [] ∧
      overlapping listing.lines.toList 6 2 = [] := by
  have hbuild : (build (fun _ _ => ⟨default, false⟩) "ab\r\n\nc \n".toList 0 none).value =
      .ok ⟨6, 0, 0, #[⟨1, 0, 4, 2, false⟩, ⟨2, 4, 5, 4, false⟩, ⟨3, 5, 6, 6, false⟩], []⟩ := rfl
  refine ⟨_, hbuild, ?_, ?_, ?_⟩
  · obtain ⟨first, last, hfirst, hlast, hrun⟩ :=
      (overlapping_isRun_of_build hbuild (-3) 5).2 (by decide)
    cases hfirst.symm.trans (by decide : _ = some (⟨1, 0, 4, 2, false⟩ : Line))
    cases hlast.symm.trans (by decide : _ = some (⟨2, 4, 5, 4, false⟩ : Line))
    exact hrun
  · exact (overlapping_isRun_of_build hbuild (-3) (-1)).1.mpr (by decide)
  · exact (overlapping_isRun_of_build hbuild 6 2).1.mpr (by decide)

end Listing

end Remap
