import Remap.Listing
import Remap.Proofs.Map.Provenance

/-!
# Columns of a mapped range

Where the original columns of mappings count from zero, so does the column that a
mapped range starts at, and as a rule the column that it ends at, for both are columns
of mappings. But when both bounds are one point, the end is one column before another
mapping, and that may be the first of its line. Then the range ends at column -1
(`mapRange_endColumn_iff`).
-/

namespace Remap

/-- Whether a column counts from zero or is the end of its line. -/
def Column.IsOnLine : Column → Prop
  | .finite n => 0 ≤ n
  | .infinite negative => negative = false

theorem Column.isOnLine_pred_iff {n : Int} (h : 0 ≤ n) :
    (Column.finite n).pred.IsOnLine ↔ n ≠ 0 := by
  simp only [pred, IsOnLine]
  omega

/-- Whether the original columns of mappings count from zero. -/
def HaveColumns {σ : Type} (mappings : List (Mapping σ)) : Prop :=
  ∀ m ∈ mappings, ∀ n ∈ m.originalColumn, 0 ≤ n

instance {σ : Type} (mappings : List (Mapping σ)) : Decidable (HaveColumns mappings) :=
  inferInstanceAs (Decidable (∀ m ∈ mappings, ∀ n ∈ m.originalColumn, 0 ≤ n))

theorem HaveColumns.nonneg {σ : Type} {mappings : List (Mapping σ)} (h : HaveColumns mappings)
    {source : σ} {line n : Int} (hpoint : HasPoint mappings source line n) : 0 ≤ n := by
  obtain ⟨m, hm, -, -, hn⟩ := hpoint
  exact h m hm n hn

namespace SourceMap

/-- The column that a mapped range starts at counts from zero. So does the column that it ends
at, or it is the end of the line, unless both bounds are one point and the position behind the
range is at the start of a line. Then the range ends at column -1. -/
theorem mapRange_endColumn_iff {σ : Type} [Ord σ] [SourceName σ] [BEq σ] [LawfulBEq σ]
    {mappings : List (Mapping σ)} (h : ∀ m ∈ mappings, m.isAnchored)
    (hcolumns : HaveColumns mappings) {map : SourceMap σ}
    (hmap : ofMappings? mappings = some map) {lines : List Line} {start stop : Int}
    {range : MappedRange σ}
    (hrange : (mapRange lines map.lookup start stop).value = .ok (some range)) :
    0 ≤ range.startColumn ∧ ∃ column, range.endColumn = some column ∧
      (column.IsOnLine ↔ ∀ after ∈ collapsedBefore? lines map.lookup start stop,
        after.column ≠ some (.finite 0)) ∧
      (¬ column.IsOnLine → column = .finite (-1)) := by
  obtain rfl := eq_ofMappings_of_ofMappings? hmap
  obtain ⟨firstLine, lastLine, first, last, bound, hby⟩ :=
    originalRange_eq_ok_iff.mp (mapRange_value_eq_some_iff.mp hrange)
  constructor
  · obtain ⟨source, n, -, hn, hpoint⟩ := exists_point_of_nearestOriginal h hby.first_eq
    cases hby.first_column.symm.trans hn
    exact hcolumns.nonneg hpoint
  · rw [← hby.bound_column]
    rcases hby.bound_cases with ⟨after, column, hcollapsed, hafter, hcolumn, -, hbound⟩ |
      ⟨hapart, rfl⟩
    · obtain ⟨source, n, -, hn, hpoint⟩ := exists_point_of_original h hafter
      cases hcolumn.symm.trans hn
      have hnonneg := hcolumns.nonneg hpoint
      refine ⟨_, hbound, ?_, fun hout => ?_⟩
      · rw [Column.isOnLine_pred_iff hnonneg, hcollapsed]
        constructor
        · intro hne own hown
          cases hown
          rw [hcolumn]
          intro hzero
          cases hzero
          exact hne rfl
        · intro hall hzero
          exact hall after rfl (hzero ▸ hcolumn)
      · rw [Column.isOnLine_pred_iff hnonneg, not_not] at hout
        rw [hout]
        rfl
    · obtain ⟨source, n, -, hpoint, hcolumn | hcolumn⟩ := exists_point_of_originalEnd h hby.last_eq
      · have honLine : (Column.finite n).IsOnLine := hcolumns.nonneg hpoint
        refine ⟨_, hcolumn, iff_of_true honLine ?_, fun hout => absurd honLine hout⟩
        rw [hapart]
        rintro after hafter
        cases hafter
      · have honLine : (Column.infinite false).IsOnLine := rfl
        refine ⟨_, hcolumn, iff_of_true honLine ?_, fun hout => absurd honLine hout⟩
        rw [hapart]
        rintro after hafter
        cases hafter

/-- Both bounds are one point, and the position behind the range is further right. -/
theorem mapRange_endColumn_iff_oneText :
    (∀ m ∈ oneText, m.isAnchored) ∧ HaveColumns oneText ∧
      ∃ map, ofMappings? oneText = some map ∧
        (mapRange oneLine map.lookup 0 5).value =
          .ok (some ⟨"x.js", 1, 5, 7, some (.finite 8)⟩) ∧
        (Column.finite 8).IsOnLine := by
  have hanchored : ∀ m ∈ oneText, m.isAnchored := by decide
  have hcolumns : HaveColumns oneText := by decide
  have hmap := ofMappings?_of_anchored hanchored
  have hrange : (mapRange oneLine (ofMappings oneText).lookup 0 5).value =
      .ok (some ⟨"x.js", 1, 5, 7, some (.finite 8)⟩) := by
    rw [lookup_ofMappings]
    decide
  obtain ⟨-, column, hcolumn, honLine, -⟩ :=
    mapRange_endColumn_iff hanchored hcolumns hmap hrange
  cases hcolumn
  refine ⟨hanchored, hcolumns, _, hmap, hrange, honLine.mpr ?_⟩
  rw [lookup_ofMappings]
  decide

/-- Two stretches of one line, the second from further left, and behind them the start of
another line. -/
def lineStartBehind : List (Mapping String) :=
  [⟨1, 0, some "x.js", some 1, some 5, none⟩, ⟨1, 3, some "x.js", some 1, some 0, none⟩,
    ⟨1, 6, some "x.js", some 2, some 0, none⟩]

/-- A range that ends one column before the start of a line. -/
theorem mapRange_before_lineStart :
    (∀ m ∈ lineStartBehind, m.isAnchored ∧ 0 ≤ m.generatedColumn) ∧
      HaveColumns lineStartBehind ∧
      ∃ map listing, ofMappings? lineStartBehind = some map ∧
        (Listing.build (fun _ _ => ⟨default, false⟩) "abcdefghij".toList 0 none).value =
          .ok listing ∧
        (listing.mapRange map.lookup 0 5).value =
          .ok (some ⟨"x.js", 1, 5, 2, some (.finite (-1))⟩) ∧
        ¬ (Column.finite (-1)).IsOnLine := by
  have hanchored : ∀ m ∈ lineStartBehind, m.isAnchored := by decide
  have hbuild : (Listing.build (fun _ _ => ⟨default, false⟩) "abcdefghij".toList 0 none).value =
      .ok ⟨10, 0, 0, #[⟨1, 0, 10, 10, false⟩], []⟩ := rfl
  refine ⟨by decide, by decide, _, _, ofMappings?_of_anchored hanchored, hbuild, ?_, ?_⟩
  · rw [lookup_ofMappings]
    decide
  · change ¬ (0 : Int) ≤ -1
    decide

end SourceMap

end Remap
