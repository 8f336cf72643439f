import Remap.Proofs.Map.Range
import Remap.Proofs.Map.Scan

/-!
# Where the bounds of a mapped range come from

A lookup only answers with original points of mappings, so both bounds of a
mapped range start out as such points. The sources of these two are compared.
When both are one point the end is taken from a third position instead, the one
behind the generated range, and only the line and the column of that position
are used. Its source is not compared, so the end may lie on a line and a column
of another text. `mapRange_ends_in_source_iff` says exactly when it does not.
-/

namespace Remap

variable {σ : Type}

/-! ## Points -/

/-- Whether some mapping has this original point. -/
def HasPoint (mappings : List (Mapping σ)) (source : σ) (line column : Int) : Prop :=
  ∃ m ∈ mappings, m.source = some source ∧ m.originalLine = some line ∧
    m.originalColumn = some column

/-- Whether a range of a source may stop at this line and column: at a point of the
source, one column before it, or at the end of a line that has one. -/
def IsStop (mappings : List (Mapping σ)) (source : σ) (line : Int) : Option Column → Prop
  | some (.finite n) => HasPoint mappings source line n ∨ HasPoint mappings source line (n + 1)
  | some (.infinite false) => ∃ n, HasPoint mappings source line n
  | some (.infinite true) => False
  | none => False

instance [DecidableEq σ] (mappings : List (Mapping σ)) (source : σ) (line column : Int) :
    Decidable (HasPoint mappings source line column) :=
  inferInstanceAs <| Decidable <| ∃ m ∈ mappings, m.source = some source ∧
    m.originalLine = some line ∧ m.originalColumn = some column

variable {mappings : List (Mapping σ)}

/-- One column before `n` there is a stop when a point lies there or at `n`. -/
theorem isStop_pred_iff {source : σ} {line n : Int} :
    IsStop mappings source line (some (Column.finite n).pred) ↔
      HasPoint mappings source line (n - 1) ∨ HasPoint mappings source line n := by
  simp [IsStop, Column.pred]

theorem exists_point_of_mem (h : ∀ m ∈ mappings, m.isAnchored) {m : Mapping σ}
    (hm : m ∈ mappings) {position : Located σ}
    (hposition : m.originalPosition.located? = some position) :
    ∃ source n, position.source = some source ∧ position.column = some (.finite n) ∧
      HasPoint mappings source position.line n := by
  cases hsource : m.source with
  | none => simp [Mapping.originalPosition, hsource, OriginalPosition.located?] at hposition
  | some source =>
      obtain ⟨line, n, hline, hn⟩ :=
        Mapping.exists_point_of_anchored (h m hm) (by rw [hsource]; rfl)
      simp only [Mapping.originalPosition, hsource, OriginalPosition.located?, hline, hn,
        Option.map_some, Option.some.injEq] at hposition
      subst hposition
      exact ⟨source, n, rfl, rfl, m, hm, hsource, hline, hn⟩

namespace SourceMap

variable [Ord σ] [SourceName σ]

/-- What a lookup along the generated text locates is a point of its source. -/
theorem exists_point_of_original (h : ∀ m ∈ mappings, m.isAnchored) {line : Int}
    {column : Column} {bias : Bias} {position : Located σ}
    (hposition : ((ofMappings mappings).originalFor line column bias).located? = some position) :
    ∃ source n, position.source = some source ∧ position.column = some (.finite n) ∧
      HasPoint mappings source position.line n := by
  simp only [originalFor] at hposition
  split at hposition
  · next m hm =>
      have hmem : m ∈ mappings := by
        simpa [ofMappings] using mem_of_nearest?_eq_some hm
      split at hposition
      · exact exists_point_of_mem h hmem hposition
      · cases hposition
  · cases hposition

variable [BEq σ]

theorem exists_point_of_nearestOriginal (h : ∀ m ∈ mappings, m.isAnchored) {line column : Int}
    {position : Located σ}
    (hposition : ((ofMappings mappings).lookup.nearestOriginal line column).located? =
      some position) :
    ∃ source n, position.source = some source ∧ position.column = some (.finite n) ∧
      HasPoint mappings source position.line n := by
  simp only [Lookup.nearestOriginal] at hposition
  split at hposition
  · exact exists_point_of_original h hposition
  · exact exists_point_of_original h hposition

/-- The end that a generated range has in the original text is a point of its source, or the
end of a line that has one. -/
theorem exists_point_of_originalEnd (h : ∀ m ∈ mappings, m.isAnchored) {line column : Int}
    {last : Located σ}
    (hlast : (ofMappings mappings).lookup.originalEnd line column = .ok (some last)) :
    ∃ source n, last.source = some source ∧ HasPoint mappings source last.line n ∧
      (last.column = some (.finite n) ∨ last.column = some (.infinite false)) := by
  cases hbefore : ((ofMappings mappings).lookup.nearestOriginal line
      (max (column - 1) 0)).located? with
  | none => simp [Lookup.originalEnd_of_not_located hbefore] at hlast
  | some before =>
      obtain ⟨source, n, hsource, hn, hpoint⟩ := exists_point_of_nearestOriginal h hbefore
      rw [Lookup.originalEnd_of_located hbefore hsource hn] at hlast
      cases hlast
      rcases Lookup.stretchEnd_cases (ofMappings mappings).lookup before source n with
        hend | ⟨nextLine, nextColumn, hafter⟩
      · rw [hend]
        exact ⟨source, n, hsource, hpoint, Or.inr rfl⟩
      · obtain ⟨own, k, hown, hk, hpoint⟩ := exists_point_of_original h hafter
        exact ⟨own, k, hown, hpoint, Or.inl hk⟩

theorem isStop_of_originalEnd (h : ∀ m ∈ mappings, m.isAnchored) {line column : Int}
    {last : Located σ} {source : σ}
    (hlast : (ofMappings mappings).lookup.originalEnd line column = .ok (some last))
    (hsource : last.source = some source) : IsStop mappings source last.line last.column := by
  obtain ⟨own, n, hown, hpoint, hcolumn | hcolumn⟩ := exists_point_of_originalEnd h hlast
  · cases hown.symm.trans hsource
    rw [hcolumn]
    exact Or.inl hpoint
  · cases hown.symm.trans hsource
    rw [hcolumn]
    exact ⟨n, hpoint⟩

/-! ## The bounds of a mapped range -/

variable [LawfulBEq σ]

/-- A mapped range starts at a point of its source. It also stops at one, unless
both bounds are one point and the position behind them is of another source, and
the source has no point there by chance. -/
theorem mapRange_ends_in_source_iff {mappings : List (Mapping σ)}
    (h : ∀ m ∈ mappings, m.isAnchored) {map : SourceMap σ} (hmap : ofMappings? mappings = some map)
    {lines : List Line} {start stop : Int} {range : MappedRange σ}
    (hrange : (mapRange lines map.lookup start stop).value = .ok (some range)) :
    HasPoint mappings range.source range.startLine range.startColumn ∧
      (IsStop mappings range.source range.endLine range.endColumn ↔
        ∀ after ∈ collapsedBefore? lines map.lookup start stop,
          after.source = some range.source ∨ ∃ n, after.column = some (.finite n) ∧
            (HasPoint mappings range.source after.line (n - 1) ∨
              HasPoint mappings range.source after.line n)) := by
  obtain rfl := eq_ofMappings_of_ofMappings? hmap
  obtain ⟨firstLine, lastLine, first, last, bound, hby⟩ :=
    originalRange_eq_ok_iff.mp (mapRange_value_eq_some_iff.mp hrange)
  constructor
  · obtain ⟨source, n, hsource, hcolumn, hpoint⟩ := exists_point_of_nearestOriginal h hby.first_eq
    rw [hby.first_source] at hsource
    rw [hby.first_column] at hcolumn
    cases hsource
    cases hcolumn
    exact hby.first_line ▸ hpoint
  · rw [hby.collapsedBefore?_eq]
    have hbound := hby.bound_eq
    simp only [uncollapsed?] at hbound
    split
    · next hsame =>
        rw [if_pos hsame] at hbound
        cases hafter : ((ofMappings mappings).lookup.original lastLine.number
            (stop - lastLine.start : Int) .atOrAfter).located? with
        | none => simp [hafter] at hbound
        | some after =>
            obtain ⟨source, n, hsource, hcolumn, hpoint⟩ := exists_point_of_original h hafter
            rw [hafter, Option.bind_eq_bind, Option.bind_some, hcolumn] at hbound
            cases hbound
            rw [← hby.bound_line, ← hby.bound_column, isStop_pred_iff]
            constructor
            · intro hnear _ heq
              cases heq
              exact Or.inr ⟨n, hcolumn, hnear⟩
            · intro hall
              rcases hall after rfl with hown | ⟨k, hk, hnear⟩
              · cases hsource.symm.trans hown
                exact Or.inr hpoint
              · cases hcolumn.symm.trans hk
                exact hnear
    · next hdiffer =>
        rw [if_neg hdiffer] at hbound
        cases hbound
        refine iff_of_true ?_ (by simp)
        rw [← hby.bound_line, ← hby.bound_column]
        exact isStop_of_originalEnd h hby.last_eq hby.last_source

/-- One line of ten characters. -/
def oneLine : List Line := [⟨1, 0, 10, 10, false⟩]

/-- Two stretches of one text, the second from further left, and a stretch of another
text behind them. -/
def twoTexts : List (Mapping String) :=
  [⟨1, 0, some "x.js", some 1, some 5, none⟩, ⟨1, 3, some "x.js", some 1, some 0, none⟩,
    ⟨1, 6, some "y.js", some 7, some 9, none⟩]

/-- The same, with all stretches from one text. -/
def oneText : List (Mapping String) :=
  twoTexts.map fun m => { m with source := some "x.js" }

theorem mapRange_ends_in_source_oneText :
    (∀ m ∈ oneText, m.isAnchored) ∧ ∃ map, ofMappings? oneText = some map ∧
      (mapRange oneLine map.lookup 0 5).value = .ok (some ⟨"x.js", 1, 5, 7, some (.finite 8)⟩) ∧
      IsStop oneText "x.js" 7 (some (.finite 8)) := by
  have hanchored : ∀ m ∈ oneText, m.isAnchored := by decide
  have hmap := ofMappings?_of_anchored hanchored
  have hrange : (mapRange oneLine (ofMappings oneText).lookup 0 5).value =
      .ok (some ⟨"x.js", 1, 5, 7, some (.finite 8)⟩) := by
    rw [lookup_ofMappings]
    decide
  refine ⟨hanchored, _, hmap, hrange, ?_⟩
  refine (mapRange_ends_in_source_iff hanchored hmap hrange).2.mpr fun after hafter => Or.inl ?_
  rw [lookup_ofMappings] at hafter
  revert after
  decide

/-- A range of one text that stops on a line and a column of another. -/
theorem mapRange_across_twoTexts :
    (∀ m ∈ twoTexts, m.isAnchored) ∧ ∃ map, ofMappings? twoTexts = some map ∧
      (mapRange oneLine map.lookup 0 5).value = .ok (some ⟨"x.js", 1, 5, 7, some (.finite 8)⟩) ∧
      ¬ IsStop twoTexts "x.js" 7 (some (.finite 8)) := by
  have hanchored : ∀ m ∈ twoTexts, m.isAnchored := by decide
  refine ⟨hanchored, _, ofMappings?_of_anchored hanchored, ?_, ?_⟩
  · rw [lookup_ofMappings]
    decide
  · change ¬ (HasPoint twoTexts "x.js" 7 8 ∨ HasPoint twoTexts "x.js" 7 (8 + 1))
    decide

end SourceMap

end Remap
