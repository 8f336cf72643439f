import Remap.Proofs.Map.Identity
import Remap.Proofs.Map.Stretch

/-!
# Maps that keep the order of a text

Mappings keep the order of each source when of two mappings from it the later one in
the generated text is not the earlier one in the source (`IsOrderPreserving`). Mappings
without a source and from other sources may stand between them.

The bounds of a range lie under two mappings, and a later bound under no earlier
mapping, so bounds of one source are in the order of the generated text. Hence a range
never runs backwards, nor are its bounds one point (`mapRange_start_lt_end`), and a
range within another stays within it (`mapRange_nested`).
-/

namespace Remap

open Mapping SourceMap Std

variable {σ : Type}

/-- Mappings with whole original points and distinct generated points, which are in the
same order within each source. -/
structure IsOrderPreserving (mappings : List (Mapping σ)) : Prop where
  anchored : ∀ m ∈ mappings, m.isAnchored
  distinct : Distinct mappings
  monotone : ∀ a ∈ mappings, ∀ b ∈ mappings, a.source.isSome → a.source = b.source →
    (a.compareGeneratedPoint b).isLE → (a.compareOriginalPlace b).isLE

section

variable [Ord σ] [SourceName σ] {mappings : List (Mapping σ)}

/-- Over points in order lie original points in order. -/
theorem IsOrderPreserving.le_of_isOver (h : IsOrderPreserving mappings) {m n : Mapping σ}
    {line line' column column' : Int} (hm : IsOver mappings line column m)
    (hn : IsOver mappings line' column' n) {source : σ} {l l' c c' : Int}
    (hmstarts : m.StartsAt source l c) (hnstarts : n.StartsAt source l' c')
    (hle : line < line' ∨ line = line' ∧ column ≤ column') : l < l' ∨ l = l' ∧ c ≤ c' := by
  have hsource : m.source = n.source := hmstarts.source_eq.trans hnstarts.source_eq.symm
  have horiginal := h.monotone m hm.mem n hn.mem (Option.isSome_of_eq_some hmstarts.source_eq)
    hsource (hm.isLE_compareGeneratedPoint hn hle)
  exact (hmstarts.isLE_compareOriginalPlace_iff hnstarts).mp horiginal

end

/-- Points on two lines are in order when the lines are, or the columns on one line. -/
theorem Line.point_le {a b : Line} {column column' : Int} (h : a = b ∨ a.number < b.number)
    (hcolumn : a = b → column ≤ column') :
    a.number < b.number ∨ a.number = b.number ∧ column ≤ column' := by
  rcases h with rfl | hlt
  · exact Or.inr ⟨rfl, hcolumn rfl⟩
  · exact Or.inl hlt

/-! ## Bounds -/

namespace IsBoundedBy

variable [Ord σ] [TransOrd σ] [SourceName σ] [BEq σ]
  {mappings : List (Mapping σ)} {lines : List Line} {number origin : Int}
  {texts : List (List Char)} {start stop start' stop' : Int} {source : σ}
  {firstLine lastLine firstLine' lastLine' : Line} {first last first' last' : Located σ}

theorem exists_isOver_first (h : IsOrderPreserving mappings)
    (hby : IsBoundedBy lines (ofMappings mappings).lookup start stop source firstLine lastLine
      first last) :
    ∃ m column, IsOver mappings firstLine.number (max 0 (start - firstLine.start)) m ∧
      m.StartsAt source first.line column ∧ first.column = some (.finite column) := by
  obtain ⟨m, own, column, hover, hstarts, hsource, hcolumn⟩ :=
    exists_isOver_of_nearestOriginal h.anchored h.distinct hby.first_eq
  obtain rfl : own = source := Option.some.inj (hsource.symm.trans hby.first_source)
  exact ⟨m, column, hover, hstarts, hcolumn⟩

/-- A range within another starts no earlier. -/
theorem first_le_first (h : IsOrderPreserving mappings) (hl : LaidOut number origin lines texts)
    (hby : IsBoundedBy lines (ofMappings mappings).lookup start stop source firstLine lastLine
      first last)
    (hby' : IsBoundedBy lines (ofMappings mappings).lookup start' stop' source firstLine' lastLine'
      first' last')
    (hstart : start ≤ start') (hlt : start' < stop') (hstop : stop' ≤ stop) {n n' : Int}
    (hn : first.column = some (.finite n)) (hn' : first'.column = some (.finite n')) :
    (comparePlaces first.line n first'.line n').isLE := by
  obtain ⟨m, c, hm, hmstarts, hfirst⟩ := hby.exists_isOver_first h
  obtain ⟨m', c', hm', hmstarts', hfirst'⟩ := hby'.exists_isOver_first h
  have hwithin : firstLine' ∈ overlapping lines start stop :=
    overlapping_subset hstart hlt hstop (List.mem_of_head? hby'.firstLine_eq)
  have hpoints : firstLine.number < firstLine'.number ∨ firstLine.number = firstLine'.number ∧
      max 0 (start - firstLine.start) ≤ max 0 (start' - firstLine'.start) := by
    refine Line.point_le (eq_or_lt_of_head?_overlapping hl hby.firstLine_eq hwithin) ?_
    rintro rfl
    omega
  rw [hn] at hfirst
  rw [hn'] at hfirst'
  cases hfirst
  cases hfirst'
  have hle := h.le_of_isOver hm hm' hmstarts hmstarts' hpoints
  exact isLE_comparePlaces_iff.mpr (hle.imp id fun hle => ⟨hle.1, Int.isLE_compare.mpr hle.2⟩)

variable [LawfulBEq σ] [LawfulEqOrd σ]

theorem exists_isOver_last (h : IsOrderPreserving mappings)
    (hby : IsBoundedBy lines (ofMappings mappings).lookup start stop source firstLine lastLine
      first last) :
    ∃ m n column, IsOver mappings lastLine.number (max (stop - lastLine.start - 1) 0) m ∧
      m.StartsAt source last.line n ∧ last.column = some column ∧
      IsStretchEnd mappings source last.line n column := by
  obtain ⟨m, own, n, column, hover, hstarts, hsource, hcolumn, hend⟩ :=
    exists_isOver_of_originalEnd h.anchored h.distinct hby.last_eq
  obtain rfl : own = source := Option.some.inj (hsource.symm.trans hby.last_source)
  exact ⟨m, n, column, hover, hstarts, hcolumn, hend⟩

/-- The bounds of a range are in order, and apart. -/
theorem first_lt_last (h : IsOrderPreserving mappings) (hl : LaidOut number origin lines texts)
    (hby : IsBoundedBy lines (ofMappings mappings).lookup start stop source firstLine lastLine
      first last) (hlt : start < stop) :
    ∃ n column, first.column = some (.finite n) ∧ last.column = some column ∧
      comparePlaces first.line n last.line column = .lt := by
  obtain ⟨m, n, hm, hmstarts, hfirst⟩ := hby.exists_isOver_first h
  obtain ⟨m', n', column, hm', hmstarts', hlast, hend⟩ := hby.exists_isOver_last h
  have hpoints : firstLine.number < lastLine.number ∨ firstLine.number = lastLine.number ∧
      max 0 (start - firstLine.start) ≤ max (stop - lastLine.start - 1) 0 := by
    refine Line.point_le (eq_or_lt_of_head?_overlapping hl hby.firstLine_eq
      (List.mem_of_getLast? hby.lastLine_eq)) ?_
    rintro rfl
    omega
  refine ⟨n, column, hfirst, hlast, comparePlaces_eq_lt_iff.mpr ?_⟩
  rcases h.le_of_isOver hm hm' hmstarts hmstarts' hpoints with hline | ⟨hline, hcolumn⟩
  · exact Or.inl hline
  · -- The stretch of the last mapping stops behind its start, and that is not before the first.
    refine Or.inr ⟨hline, TransCmp.lt_of_isLE_of_lt ?_ hend.compare_eq_lt⟩
    exact Int.isLE_compare.mpr hcolumn

theorem not_collapses (h : IsOrderPreserving mappings) (hl : LaidOut number origin lines texts)
    (hlt : start < stop) : ¬ Collapses lines (ofMappings mappings).lookup start stop := by
  rintro ⟨source, firstLine, lastLine, first, last, hby, hline, hcolumn⟩
  obtain ⟨n, column, hfirst, hlast, hapart⟩ := hby.first_lt_last h hl hlt
  rw [hfirst, hlast] at hcolumn
  rw [hline, Option.some.inj hcolumn, comparePlaces_eq_lt_iff] at hapart
  rcases hapart with hapart | ⟨-, hapart⟩
  · exact absurd hapart (Int.lt_irrefl _)
  · cases hapart.symm.trans ReflCmp.compare_self

/-- A range within another stops no later. -/
theorem last_le_last (h : IsOrderPreserving mappings) (hl : LaidOut number origin lines texts)
    (hby : IsBoundedBy lines (ofMappings mappings).lookup start stop source firstLine lastLine
      first last)
    (hby' : IsBoundedBy lines (ofMappings mappings).lookup start' stop' source firstLine' lastLine'
      first' last')
    (hstart : start ≤ start') (hlt : start' < stop') (hstop : stop' ≤ stop) :
    ∃ column column', last.column = some column ∧ last'.column = some column' ∧
      (comparePlaces last'.line column' last.line column).isLE := by
  obtain ⟨m, n, column, hm, hmstarts, hlast, hend⟩ := hby.exists_isOver_last h
  obtain ⟨m', n', column', hm', hmstarts', hlast', hend'⟩ := hby'.exists_isOver_last h
  have hwithin : lastLine' ∈ overlapping lines start stop :=
    overlapping_subset hstart hlt hstop (List.mem_of_getLast? hby'.lastLine_eq)
  have hpoints : lastLine'.number < lastLine.number ∨ lastLine'.number = lastLine.number ∧
      max (stop' - lastLine'.start - 1) 0 ≤ max (stop - lastLine.start - 1) 0 := by
    refine Line.point_le (eq_or_lt_of_getLast?_overlapping hl hby.lastLine_eq hwithin) ?_
    rintro rfl
    omega
  refine ⟨column, column', hlast, hlast', isLE_comparePlaces_iff.mpr ?_⟩
  rcases h.le_of_isOver hm' hm hmstarts' hmstarts hpoints with hline | ⟨hline, hcolumn⟩
  · exact Or.inl hline
  · rw [hline] at hend' ⊢
    exact Or.inr ⟨rfl, hend'.isLE_compare hend hcolumn⟩

end IsBoundedBy

/-! ## Mapped ranges -/

/-- By a map that keeps the order of each source a range is mapped to one that starts before
it ends, and for none is an end taken from elsewhere because its bounds are one point. -/
theorem mapRange_start_lt_end {parse : Parse} {code : List Char} {wrapperLength : Int}
    {language : Option String} {listing : Listing}
    (hbuild : (Listing.build parse code wrapperLength language).value = .ok listing)
    {mappings : List (Mapping String)} (h : IsOrderPreserving mappings) :
    ∃ map, ofMappings? mappings = some map ∧ ∀ start stop, start < stop →
      ¬ Collapses listing.lines.toList map.lookup start stop ∧
      originalRange listing.lines.toList map.lookup start stop ≠ .ok (.error .collapsed) ∧
      ∀ range, (listing.mapRange map.lookup start stop).value = .ok (some range) →
        ∃ column, range.endColumn = some column ∧
          comparePlaces range.startLine range.startColumn range.endLine column = .lt := by
  have hl := (Listing.lists_of_build hbuild).laidOut
  refine ⟨_, ofMappings?_of_anchored h.anchored, fun start stop hlt => ?_⟩
  have hapart := IsBoundedBy.not_collapses h hl hlt
  refine ⟨hapart, fun hrange => hapart (collapses_of_originalRange hrange), fun range hrange => ?_⟩
  obtain ⟨firstLine, lastLine, first, last, bound, hby⟩ :=
    originalRange_eq_ok_iff.mp (mapRange_value_eq_some_iff.mp hrange)
  obtain ⟨n, column, hfirst, hlast, horder⟩ := hby.isBoundedBy.first_lt_last h hl hlt
  rw [hby.first_column] at hfirst
  cases hfirst
  obtain rfl := hby.bound_eq_last hapart
  rw [← hby.first_line, ← hby.bound_line]
  exact ⟨column, hby.bound_column ▸ hlast, horder⟩

/-- Points of two sources, the order of one kept, and a stretch without a source. -/
def mixedSources : List (Mapping String) :=
  [⟨1, 0, some "a.js", some 1, some 0, none⟩, ⟨1, 1, none, none, none, none⟩,
    ⟨1, 2, some "b.js", some 9, some 0, none⟩, ⟨2, 0, some "a.js", some 1, some 4, none⟩,
    ⟨2, 1, some "a.js", some 1, some 4, none⟩]

theorem isOrderPreserving_mixedSources : IsOrderPreserving mixedSources :=
  ⟨by decide, by decide, by decide⟩

theorem build_twoLines :
    (Listing.build (fun _ _ => ⟨default, false⟩) "ab\ncd".toList 0 none).value = .ok twoLines := by
  decide

theorem mapRange_mixedSources :
    (twoLines.mapRange (ofMappings mixedSources).lookup 0 1).value =
        .ok (some ⟨"a.js", 1, 0, 1, some (.finite 4)⟩) ∧
      (twoLines.mapRange (ofMappings mixedSources).lookup 0 5).value =
        .ok (some ⟨"a.js", 1, 0, 1, some (.infinite false)⟩) := by
  rw [lookup_ofMappings]
  decide

theorem mapRange_start_lt_end_mixedSources :
    (Listing.build (fun _ _ => ⟨default, false⟩) "ab\ncd".toList 0 none).value = .ok twoLines ∧
      ∃ map, ofMappings? mixedSources = some map ∧
        ¬ Collapses twoLines.lines.toList map.lookup 0 1 ∧ ∃ range column,
          (twoLines.mapRange map.lookup 0 1).value = .ok (some range) ∧
          range.endColumn = some column ∧
          comparePlaces range.startLine range.startColumn range.endLine column = .lt := by
  obtain ⟨map, hmap, hall⟩ := mapRange_start_lt_end build_twoLines isOrderPreserving_mixedSources
  obtain rfl := eq_ofMappings_of_ofMappings? hmap
  obtain ⟨hapart, -, horder⟩ := hall 0 1 (by decide)
  obtain ⟨column, hcolumn, hlt⟩ := horder _ mapRange_mixedSources.1
  exact ⟨build_twoLines, _, hmap, hapart, _, column, mapRange_mixedSources.1, hcolumn, hlt⟩

/-- By a map that keeps the order of each source a range within another is mapped to a range
within the other, if both are mapped to one source. -/
theorem mapRange_nested {parse : Parse} {code : List Char} {wrapperLength : Int}
    {language : Option String} {listing : Listing}
    (hbuild : (Listing.build parse code wrapperLength language).value = .ok listing)
    {mappings : List (Mapping String)} (h : IsOrderPreserving mappings) :
    ∃ map, ofMappings? mappings = some map ∧
      ∀ start start' stop' stop, start ≤ start' → start' < stop' → stop' ≤ stop →
        ∀ outer inner, (listing.mapRange map.lookup start stop).value = .ok (some outer) →
          (listing.mapRange map.lookup start' stop').value = .ok (some inner) →
          outer.source = inner.source →
            (comparePlaces outer.startLine outer.startColumn inner.startLine
              inner.startColumn).isLE ∧
            ∃ column column', outer.endColumn = some column ∧ inner.endColumn = some column' ∧
              (comparePlaces inner.endLine column' outer.endLine column).isLE := by
  have hl := (Listing.lists_of_build hbuild).laidOut
  refine ⟨_, ofMappings?_of_anchored h.anchored, ?_⟩
  intro start start' stop' stop hstart hlt hstop outer inner houter hinner hsource
  obtain ⟨firstLine, lastLine, first, last, bound, hby⟩ :=
    originalRange_eq_ok_iff.mp (mapRange_value_eq_some_iff.mp houter)
  obtain ⟨firstLine', lastLine', first', last', bound', hby'⟩ :=
    originalRange_eq_ok_iff.mp (mapRange_value_eq_some_iff.mp hinner)
  obtain rfl := hby.bound_eq_last (IsBoundedBy.not_collapses h hl (by omega))
  obtain rfl := hby'.bound_eq_last (IsBoundedBy.not_collapses h hl hlt)
  have hbounds := hby.isBoundedBy
  rw [hsource] at hbounds
  rw [← hby.first_line, ← hby'.first_line, ← hby.bound_line, ← hby'.bound_line,
    ← hby.bound_column, ← hby'.bound_column]
  exact ⟨hbounds.first_le_first h hl hby'.isBoundedBy hstart hlt hstop hby.first_column
      hby'.first_column,
    hbounds.last_le_last h hl hby'.isBoundedBy hstart hlt hstop⟩

theorem mapRange_nested_mixedSources :
    (Listing.build (fun _ _ => ⟨default, false⟩) "ab\ncd".toList 0 none).value = .ok twoLines ∧
      ∃ map, ofMappings? mixedSources = some map ∧ ∃ outer inner,
        (twoLines.mapRange map.lookup 0 5).value = .ok (some outer) ∧
        (twoLines.mapRange map.lookup 0 1).value = .ok (some inner) ∧
        ∃ column column', outer.endColumn = some column ∧ inner.endColumn = some column' ∧
          (comparePlaces inner.endLine column' outer.endLine column).isLE := by
  obtain ⟨map, hmap, hall⟩ := mapRange_nested build_twoLines isOrderPreserving_mixedSources
  obtain rfl := eq_ofMappings_of_ofMappings? hmap
  obtain ⟨hinner, houter⟩ := mapRange_mixedSources
  obtain ⟨-, hstop⟩ := hall 0 0 1 5 (by decide) (by decide) (by decide) _ _ houter hinner rfl
  exact ⟨build_twoLines, _, hmap, _, _, houter, hinner, hstop⟩

end Remap
