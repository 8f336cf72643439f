import Mathlib.Data.List.Pairwise
import Mathlib.Order.Bounds.Basic
import Remap.Proofs.Map.Provenance

/-!
# Stretches of text

A mapping starts a stretch of generated text and a stretch of an original text. A
bound of a range is taken from the mapping that its line and column are under
(`Mapping.IsOver`): the last mapping of the line up to there if that has a source, and
else the first from there on. As the point moves to the right along a line, or to a
later line, so does the mapping (`IsOver.isLE_compareGeneratedPoint`).

Where no two mappings share a generated point, a stretch of original text stops where
one expects (`IsStretchEnd`): at the next point of its source on the line, and at the
end of the line when there is none. Then a bound of a range is told by the mapping that
it is taken from (`exists_isOver_of_nearestOriginal`, `exists_isOver_of_originalEnd`).
Where a generated range ends is told at once, by the stretch that its last character is
under (`originalEnd_eq_end_of_stretch`).
-/

namespace Remap

open Std

variable {σ : Type}

/-! ## Places -/

/-- The order of places in a text, by line and then by column. -/
def comparePlaces (line : Int) (column : Column) (line' : Int) (column' : Column) : Ordering :=
  (compare line line').then (compare column column')

theorem isLE_comparePlaces_iff {line line' : Int} {column column' : Column} :
    (comparePlaces line column line' column').isLE ↔
      line < line' ∨ line = line' ∧ (compare column column').isLE := by
  rw [comparePlaces, Ordering.isLE_then_iff_or, Int.compare_eq_lt,
    LawfulEqOrd.compare_eq_iff_eq]

theorem comparePlaces_eq_lt_iff {line line' : Int} {column column' : Column} :
    comparePlaces line column line' column' = .lt ↔
      line < line' ∨ line = line' ∧ compare column column' = .lt := by
  rw [comparePlaces, Ordering.then_eq_lt, Int.compare_eq_lt, LawfulEqOrd.compare_eq_iff_eq]

namespace Mapping

/-- Whether a mapping has this original point. -/
structure StartsAt (m : Mapping σ) (source : σ) (line column : Int) : Prop where
  source_eq : m.source = some source
  line_eq : m.originalLine = some line
  column_eq : m.originalColumn = some column

/-- Whether no two mappings have one generated point. -/
def Distinct (mappings : List (Mapping σ)) : Prop :=
  mappings.Pairwise fun a b => a.compareGeneratedPoint b ≠ .eq

instance (mappings : List (Mapping σ)) : Decidable (Distinct mappings) :=
  inferInstanceAs (Decidable (mappings.Pairwise fun a b => a.compareGeneratedPoint b ≠ .eq))

theorem Distinct.eq_of_compareGeneratedPoint {mappings : List (Mapping σ)} (h : Distinct mappings)
    {a b : Mapping σ} (ha : a ∈ mappings) (hb : b ∈ mappings)
    (heq : a.compareGeneratedPoint b = .eq) : a = b := by
  by_contra hne
  have hsymm : Symm fun a b : Mapping σ => a.compareGeneratedPoint b ≠ .eq :=
    ⟨fun a b hab hba => hab (OrientedCmp.eq_symm hba)⟩
  exact h.forall ha hb hne heq

theorem isLE_compareGeneratedPoint_iff {a b : Mapping σ} :
    (a.compareGeneratedPoint b).isLE ↔ a.generatedLine < b.generatedLine ∨
      a.generatedLine = b.generatedLine ∧ a.generatedColumn ≤ b.generatedColumn := by
  rw [compareGeneratedPoint, Ordering.isLE_then_iff_or, Int.compare_eq_lt,
    LawfulEqOrd.compare_eq_iff_eq, Int.isLE_compare]

theorem StartsAt.isLE_compareOriginalPlace_iff {a b : Mapping σ} {source : σ}
    {line column line' column' : Int} (ha : a.StartsAt source line column)
    (hb : b.StartsAt source line' column') :
    (a.compareOriginalPlace b).isLE ↔ line < line' ∨ line = line' ∧ column ≤ column' := by
  rw [compareOriginalPlace, ha.line_eq, ha.column_eq, hb.line_eq, hb.column_eq,
    Ordering.isLE_then_iff_or, Option.getD_some, Option.getD_some, Option.getD_some,
    Option.getD_some, Int.compare_eq_lt, LawfulEqOrd.compare_eq_iff_eq, Int.isLE_compare]

theorem exists_startsAt {m : Mapping σ} (h : m.isAnchored) {source : σ}
    (hsource : m.source = some source) : ∃ line column, m.StartsAt source line column := by
  obtain ⟨line, column, hline, hcolumn⟩ :=
    exists_point_of_anchored h (Option.isSome_of_eq_some hsource)
  exact ⟨line, column, hsource, hline, hcolumn⟩

theorem StartsAt.originalPosition_eq {m : Mapping σ} {source : σ} {line column : Int}
    (h : m.StartsAt source line column) :
    m.originalPosition = ⟨some source, some line, some (.finite column), m.name⟩ := by
  rw [originalPosition, h.source_eq, h.line_eq, h.column_eq]
  rfl

theorem originalPosition_of_source_eq_none {m : Mapping σ} (h : m.source = none) :
    m.originalPosition = {} := by
  rw [originalPosition, h]

theorem exists_startsAt_of_located {m : Mapping σ} (h : m.isAnchored) {position : Located σ}
    (hposition : m.originalPosition.located? = some position) :
    ∃ source column, m.StartsAt source position.line column ∧
      position.source = some source ∧ position.column = some (.finite column) := by
  cases hsource : m.source with
  | none =>
      rw [originalPosition_of_source_eq_none hsource] at hposition
      cases hposition
  | some source =>
      obtain ⟨line, column, hstarts⟩ := exists_startsAt h hsource
      rw [hstarts.originalPosition_eq] at hposition
      cases hposition
      exact ⟨source, column, hstarts, rfl, rfl⟩

/-! ## The mapping over a point -/

section

variable [Ord σ] [SourceName σ]

/-- Where points are distinct a lookup comes upon one mapping only. -/
theorem IsNearestOnLine.eq {mappings : List (Mapping σ)} (h : Distinct mappings) {line : Int}
    {column : Column} {bias : Bias} {m n : Mapping σ}
    (hm : IsNearestOnLine mappings line column bias m)
    (hn : IsNearestOnLine mappings line column bias n) : m = n := by
  refine h.eq_of_compareGeneratedPoint hm.mem hn.mem (compareGeneratedPoint_eq_iff.mpr ⟨?_, ?_⟩)
  · rw [hm.line_eq, hn.line_eq]
  · have hmn := hm.nearest n hn.mem hn.line_eq hn.admits
    have hnm := hn.nearest m hm.mem hm.line_eq hm.admits
    cases bias with
    | atOrBefore =>
        exact Int.le_antisymm (Bias.admits_compare_atOrBefore.mp hnm)
          (Bias.admits_compare_atOrBefore.mp hmn)
    | atOrAfter =>
        exact Int.le_antisymm (Bias.admits_compare_atOrAfter.mp hmn)
          (Bias.admits_compare_atOrAfter.mp hnm)

/-- The mapping that a bound at a line and column is taken from. -/
inductive IsOver (mappings : List (Mapping σ)) (line column : Int) (m : Mapping σ) : Prop
  | before : IsNearestOnLine mappings line (.finite column) .atOrBefore m → m.source.isSome →
      IsOver mappings line column m
  | after : (∀ n, IsNearestOnLine mappings line (.finite column) .atOrBefore n → n.source = none) →
      IsNearestOnLine mappings line (.finite column) .atOrAfter m → IsOver mappings line column m

namespace IsOver

variable {mappings : List (Mapping σ)} {m n : Mapping σ} {line line' column column' : Int}

theorem mem (h : IsOver mappings line column m) : m ∈ mappings := by
  cases h with
  | before hm _ => exact hm.mem
  | after _ hm => exact hm.mem

theorem line_eq (h : IsOver mappings line column m) : m.generatedLine = line := by
  cases h with
  | before hm _ => exact hm.line_eq
  | after _ hm => exact hm.line_eq

/-- To the right on a line the mapping does not move to the left. -/
theorem generatedColumn_le (hm : IsOver mappings line column m)
    (hn : IsOver mappings line column' n) (hle : column ≤ column') :
    m.generatedColumn ≤ n.generatedColumn := by
  cases hn with
  | before hn hsource =>
      have hncolumn := Bias.admits_compare_atOrBefore.mp hn.admits
      cases hm with
      | before hm _ =>
          have hmcolumn := Bias.admits_compare_atOrBefore.mp hm.admits
          have hnear := hn.nearest m hm.mem hm.line_eq
            (Bias.admits_compare_atOrBefore.mpr (Int.le_trans hmcolumn hle))
          exact Bias.admits_compare_atOrBefore.mp hnear
      | after hnone hm =>
          rcases Int.lt_or_le n.generatedColumn column with hlt | hge
          · -- Then `n` would be the last mapping up to `column` as well, and have no source.
            have hlast : IsNearestOnLine mappings line (.finite column) .atOrBefore n := {
              mem := hn.mem
              line_eq := hn.line_eq
              admits := Bias.admits_compare_atOrBefore.mpr (Int.le_of_lt hlt)
              nearest := fun k hk hkline hkcolumn =>
                hn.nearest k hk hkline (Bias.admits_compare_atOrBefore.mpr
                  (Int.le_trans (Bias.admits_compare_atOrBefore.mp hkcolumn) hle))
              first := hn.first }
            rw [hnone n hlast] at hsource
            cases hsource
          · have hnear := hm.nearest n hn.mem hn.line_eq (Bias.admits_compare_atOrAfter.mpr hge)
            exact Bias.admits_compare_atOrAfter.mp hnear
  | after hnone hn =>
      have hncolumn := Bias.admits_compare_atOrAfter.mp hn.admits
      cases hm with
      | before hm _ =>
          have hmcolumn := Bias.admits_compare_atOrBefore.mp hm.admits
          exact Int.le_trans hmcolumn (Int.le_trans hle hncolumn)
      | after _ hm =>
          have hnear := hm.nearest n hn.mem hn.line_eq
            (Bias.admits_compare_atOrAfter.mpr (Int.le_trans hle hncolumn))
          exact Bias.admits_compare_atOrAfter.mp hnear

/-- A later point is under no earlier mapping. -/
theorem isLE_compareGeneratedPoint (hm : IsOver mappings line column m)
    (hn : IsOver mappings line' column' n) (hle : line < line' ∨ line = line' ∧ column ≤ column') :
    (m.compareGeneratedPoint n).isLE := by
  rw [isLE_compareGeneratedPoint_iff, hm.line_eq, hn.line_eq]
  rcases hle with hlt | ⟨rfl, hle⟩
  · exact Or.inl hlt
  · exact Or.inr ⟨rfl, hm.generatedColumn_le hn hle⟩

end IsOver

end

end Mapping

/-! ## Where a stretch stops -/

/-- Where a stretch of an original text stops that starts at a line and column: at the next
point of the source on the line, or at the end of a line that has none. -/
def IsStretchEnd (mappings : List (Mapping σ)) (source : σ) (line column : Int) : Column → Prop
  | .finite n => IsLeast {n | column < n ∧ HasPoint mappings source line n} n
  | .infinite false => ∀ n, HasPoint mappings source line n → n ≤ column
  | .infinite true => False

namespace IsStretchEnd

variable {mappings : List (Mapping σ)} {source : σ} {line column column' : Int}
  {stop stop' : Column}

theorem compare_eq_lt (h : IsStretchEnd mappings source line column stop) :
    compare (Column.finite column) stop = .lt := by
  match stop, h with
  | .finite n, h => exact Int.compare_eq_lt.mpr h.1.1
  | .infinite false, _ => rfl

/-- A stretch that starts further right on a line stops no earlier. -/
theorem isLE_compare (h : IsStretchEnd mappings source line column stop)
    (h' : IsStretchEnd mappings source line column' stop') (hle : column ≤ column') :
    (compare stop stop').isLE := by
  cases stop with
  | finite n =>
      rcases stop' with n' | (_ | _)
      · exact Int.isLE_compare.mpr (h.2 ⟨Int.lt_of_le_of_lt hle h'.1.1, h'.1.2⟩)
      · rfl
      · exact h'.elim
  | infinite negative =>
      cases negative with
      | true => exact h.elim
      | false =>
          rcases stop' with n' | (_ | _)
          · have hlast := h n' h'.1.2
            have hbehind := h'.1.1
            omega
          · rfl
          · exact h'.elim

end IsStretchEnd

/-! ## What bounds are taken from -/

theorem eq_of_located {position : OriginalPosition σ} {found : Located σ}
    (h : position.located? = some found) :
    position = ⟨found.source, some found.line, found.column, found.name⟩ := by
  obtain ⟨line, hline, rfl⟩ := Option.map_eq_some_iff.mp h
  rw [← hline]

theorem Lookup.nearestOriginal_of_not_found {lookup : Lookup σ} {line column : Int}
    (h : lookup.original line column .atOrBefore = {}) :
    lookup.nearestOriginal line column = lookup.original line column .atOrAfter := by
  simp only [nearestOriginal, h]
  rfl

theorem Lookup.nearestOriginal_of_found {lookup : Lookup σ} {line column l : Int}
    (h : (lookup.original line column .atOrBefore).line = some l) :
    lookup.nearestOriginal line column = lookup.original line column .atOrBefore := by
  simp only [nearestOriginal, h]
  rfl

namespace SourceMap

open Mapping

variable [Ord σ] [TransOrd σ] [SourceName σ] {mappings : List (Mapping σ)}

/-- A lookup at the generated point of a mapping comes upon it. -/
theorem originalFor_generatedPoint (hdistinct : Distinct mappings) {m : Mapping σ}
    (hm : m ∈ mappings) :
    (ofMappings mappings).originalFor m.generatedLine (.finite m.generatedColumn) .atOrBefore =
      m.originalPosition := by
  have hself : Bias.atOrBefore.admits (compare m.generatedColumn m.generatedColumn) :=
    Bias.admits_compare_atOrBefore.mpr (Int.le_refl _)
  rcases originalFor_ofMappings_cases mappings m.generatedLine (.finite m.generatedColumn)
      .atOrBefore with ⟨n, hn, hanswer⟩ | ⟨-, hnone⟩
  · have hle := Bias.admits_compare_atOrBefore.mp (hn.nearest m hm rfl hself)
    have hge := Bias.admits_compare_atOrBefore.mp hn.admits
    have heq : n = m := hdistinct.eq_of_compareGeneratedPoint hn.mem hm <|
      compareGeneratedPoint_eq_iff.mpr ⟨hn.line_eq, Int.le_antisymm hge hle⟩
    rw [hanswer, heq]
  · exact absurd hself (hnone m hm rfl)

variable [BEq σ]

omit [TransOrd σ] in
@[simp]
theorem lookup_original (map : SourceMap σ) : map.lookup.original = map.originalFor :=
  rfl

/-- The start of a range is the original point of the mapping over its generated start. -/
theorem exists_isOver_of_nearestOriginal (hanchored : ∀ m ∈ mappings, m.isAnchored)
    (hdistinct : Distinct mappings) {line column : Int} {first : Located σ}
    (hfirst : ((ofMappings mappings).lookup.nearestOriginal line column).located? = some first) :
    ∃ m source n, IsOver mappings line column m ∧ m.StartsAt source first.line n ∧
      first.source = some source ∧ first.column = some (.finite n) := by
  -- A lookup to the right counts when what lies to the left has no source.
  have hafter (hnone : ∀ n, IsNearestOnLine mappings line (.finite column) .atOrBefore n →
      n.source = none)
      (hbefore : (ofMappings mappings).originalFor line (.finite column) .atOrBefore = {}) :
      ∃ m source n, IsOver mappings line column m ∧ m.StartsAt source first.line n ∧
        first.source = some source ∧ first.column = some (.finite n) := by
    rw [Lookup.nearestOriginal_of_not_found hbefore, lookup_original] at hfirst
    rcases originalFor_ofMappings_cases mappings line (.finite column) .atOrAfter with
      ⟨m, hm, hanswer⟩ | ⟨hanswer, -⟩
    · rw [hanswer] at hfirst
      obtain ⟨source, n, hstarts⟩ := exists_startsAt_of_located (hanchored m hm.mem) hfirst
      exact ⟨m, source, n, .after hnone hm, hstarts⟩
    · rw [hanswer] at hfirst
      cases hfirst
  rcases originalFor_ofMappings_cases mappings line (.finite column) .atOrBefore with
    ⟨m, hm, hanswer⟩ | ⟨hanswer, hnone⟩
  · cases hsource : m.source with
    | none =>
        rw [originalPosition_of_source_eq_none hsource] at hanswer
        exact hafter (fun n hn => hn.eq hdistinct hm ▸ hsource) hanswer
    | some source =>
        obtain ⟨l, n, hstarts⟩ := exists_startsAt (hanchored m hm.mem) hsource
        rw [hstarts.originalPosition_eq] at hanswer
        have hline := congrArg OriginalPosition.line hanswer
        rw [Lookup.nearestOriginal_of_found hline, lookup_original, hanswer] at hfirst
        cases hfirst
        exact ⟨m, source, n, .before hm (Option.isSome_of_eq_some hsource), hstarts, rfl, rfl⟩
  · exact hafter (fun n hn => absurd hn.admits (hnone n hn.mem hn.line_eq)) hanswer

variable [LawfulBEq σ] [LawfulEqOrd σ]

theorem isStretchEnd_stretchEnd (hanchored : ∀ m ∈ mappings, m.isAnchored)
    (hdistinct : Distinct mappings) {before : Located σ} {source : σ}
    (hsource : before.source = some source) (column : Int) :
    ∃ name stop, (ofMappings mappings).lookup.stretchEnd before source column =
        ⟨some source, before.line, some stop, name⟩ ∧
      IsStretchEnd mappings source before.line column stop := by
  rcases generatedFor_ofMappings_cases mappings source before.line (column + 1) .atOrAfter with
    ⟨m, hm, hanswer⟩ | ⟨hanswer, hnone⟩
  · obtain ⟨line, n, hstarts⟩ := exists_startsAt (hanchored m hm.mem) hm.source_eq
    have hplace := (admits_compareToPlace_atOrAfter hstarts.line_eq hstarts.column_eq).mp hm.admits
    have hback := congrArg OriginalPosition.located? (originalFor_generatedPoint hdistinct hm.mem)
    rw [hstarts.originalPosition_eq] at hback
    -- The point found is the least behind the column, also when it lies on a later line.
    have hleast {k : Int} (hk : HasPoint mappings source before.line k) (hlt : column < k) :
        line < before.line ∨ line = before.line ∧ n ≤ k := by
      obtain ⟨o, ho, hosource, holine, hocolumn⟩ := hk
      have hostarts : o.StartsAt source before.line k := ⟨hosource, holine, hocolumn⟩
      have hnear := hm.nearest o ho hosource <|
        (admits_compareToPlace_atOrAfter holine hocolumn).mpr (Or.inr ⟨rfl, hlt⟩)
      rw [Bias.admits, OrientedCmp.isGE_iff_isLE] at hnear
      exact (hstarts.isLE_compareOriginalPlace_iff hostarts).mp hnear
    by_cases hline : line = before.line
    · refine ⟨m.name, .finite n, ?_, ⟨⟨by omega, m, hm.mem, hstarts.source_eq, ?_⟩, ?_⟩⟩
      · rw [Lookup.stretchEnd_of_located hanswer hback]
        exact (if_pos hline).trans (by rw [hline])
      · exact ⟨hline ▸ hstarts.line_eq, hstarts.column_eq⟩
      · rintro k ⟨hlt, hk⟩
        have := hleast hk hlt
        omega
    · refine ⟨none, .infinite false, ?_, fun k hk => ?_⟩
      · rw [Lookup.stretchEnd_of_located hanswer hback]
        exact (if_neg hline).trans (by rw [Lookup.lineEnd, hsource])
      · by_contra hlt
        have := hleast hk (by omega)
        omega
  · refine ⟨none, .infinite false, ?_, fun k hk => ?_⟩
    · rw [Lookup.stretchEnd_of_not_found hanswer, Lookup.lineEnd, hsource]
    · obtain ⟨o, ho, hosource, holine, hocolumn⟩ := hk
      have hfar := hnone o ho hosource
      rw [admits_compareToPlace_atOrAfter holine hocolumn] at hfar
      omega

/-- The end of a range is where the stretch stops of the mapping over its last character. -/
theorem exists_isOver_of_originalEnd (hanchored : ∀ m ∈ mappings, m.isAnchored)
    (hdistinct : Distinct mappings) {line column : Int} {last : Located σ}
    (hlast : (ofMappings mappings).lookup.originalEnd line column = .ok (some last)) :
    ∃ m source n stop, IsOver mappings line (max (column - 1) 0) m ∧
      m.StartsAt source last.line n ∧ last.source = some source ∧ last.column = some stop ∧
      IsStretchEnd mappings source last.line n stop := by
  cases hbefore : ((ofMappings mappings).lookup.nearestOriginal line
      (max (column - 1) 0)).located? with
  | none =>
      rw [Lookup.originalEnd_of_not_located hbefore] at hlast
      cases hlast
  | some before =>
      obtain ⟨m, source, n, hover, hstarts, hsource, hcolumn⟩ :=
        exists_isOver_of_nearestOriginal hanchored hdistinct hbefore
      obtain ⟨name, stop, hstretch, hstop⟩ :=
        isStretchEnd_stretchEnd hanchored hdistinct hsource n
      rw [Lookup.originalEnd_of_located hbefore hsource hcolumn, hstretch] at hlast
      cases hlast
      exact ⟨m, source, n, stop, hover, hstarts, rfl, rfl, hstop⟩

/-! ## The end of a generated range -/

omit [BEq σ] [LawfulBEq σ] [LawfulEqOrd σ] in
/-- A lookup that answers without a line has found nothing. -/
theorem originalFor_eq_empty (hanchored : ∀ m ∈ mappings, m.isAnchored) {line : Int}
    {column : Column} {bias : Bias}
    (hnone : ((ofMappings mappings).originalFor line column bias).located? = none) :
    (ofMappings mappings).originalFor line column bias = {} := by
  rcases originalFor_ofMappings_cases mappings line column bias with
    ⟨m, hm, hanswer⟩ | ⟨hanswer, -⟩
  · cases hsource : m.source with
    | none => rw [hanswer, originalPosition_of_source_eq_none hsource]
    | some source =>
        obtain ⟨l, n, hstarts⟩ := exists_startsAt (hanchored m hm.mem) hsource
        rw [hanswer, hstarts.originalPosition_eq] at hnone
        cases hnone
  · exact hanswer

omit [LawfulBEq σ] [LawfulEqOrd σ] in
theorem nearestOriginal_eq_empty_iff (hanchored : ∀ m ∈ mappings, m.isAnchored)
    {line column : Int} :
    (ofMappings mappings).lookup.nearestOriginal line column = {} ↔
      ((ofMappings mappings).lookup.nearestOriginal line column).located? = none := by
  constructor
  · intro hempty
    rw [hempty]
    rfl
  · intro hnone
    cases hline : ((ofMappings mappings).originalFor line (.finite column) .atOrBefore).line with
    | none =>
        have hbefore := originalFor_eq_empty hanchored (congrArg (Option.map _) hline)
        rw [Lookup.nearestOriginal_of_not_found hbefore] at hnone ⊢
        exact originalFor_eq_empty hanchored hnone
    | some l =>
        rw [Lookup.nearestOriginal_of_found hline] at hnone ⊢
        exact originalFor_eq_empty hanchored hnone

/-- A generated range stops in the original text where the stretch does that its last
character is under: at the next point of the source on the line of that stretch, or at the
end of the line when there is none. It stops nowhere exactly when that character is under
no stretch of an original text. -/
theorem originalEnd_eq_end_of_stretch {mappings : List (Mapping String)}
    (hanchored : ∀ m ∈ mappings, m.isAnchored) (hdistinct : Distinct mappings) :
    ∃ map, ofMappings? mappings = some map ∧
      (∀ source line, map.canPlace source line = true) ∧ ∀ line column,
        (map.lookup.originalEnd line column = .ok none ↔
          map.lookup.nearestOriginal line (max (column - 1) 0) = {}) ∧
        (map.lookup.nearestOriginal line (max (column - 1) 0) ≠ {} →
          ∃ source l n name stop name',
            map.lookup.nearestOriginal line (max (column - 1) 0) =
              ⟨some source, some l, some (.finite n), name⟩ ∧
            map.lookup.originalEnd line column = .ok (some ⟨some source, l, some stop, name'⟩) ∧
            IsStretchEnd mappings source l n stop) := by
  refine ⟨_, ofMappings?_of_anchored hanchored, canPlace_of_anchored hanchored, ?_⟩
  intro line column
  cases hbefore : ((ofMappings mappings).lookup.nearestOriginal line
      (max (column - 1) 0)).located? with
  | none =>
      have hempty := (nearestOriginal_eq_empty_iff hanchored).mpr hbefore
      refine ⟨iff_of_true (Lookup.originalEnd_of_not_located hbefore) hempty, ?_⟩
      intro hfound
      exact absurd hempty hfound
  | some before =>
      obtain ⟨m, source, n, -, -, hsource, hcolumn⟩ :=
        exists_isOver_of_nearestOriginal hanchored hdistinct hbefore
      obtain ⟨name', stop, hstretch, hstop⟩ := isStretchEnd_stretchEnd hanchored hdistinct hsource n
      have hend := Lookup.originalEnd_of_located hbefore hsource hcolumn
      rw [hstretch] at hend
      have hfound :
          (ofMappings mappings).lookup.nearestOriginal line (max (column - 1) 0) ≠ {} := by
        intro hempty
        rw [nearestOriginal_eq_empty_iff hanchored, hbefore] at hempty
        cases hempty
      refine ⟨iff_of_false ?_ hfound, fun _ => ?_⟩
      · intro hnone
        rw [hend] at hnone
        cases hnone
      · have hposition := eq_of_located hbefore
        rw [hsource, hcolumn] at hposition
        exact ⟨source, before.line, n, before.name, stop, name', hposition, hend, hstop⟩

/-- Two stretches of one text on one line, the later one from further left, and one that no
text is behind. -/
def turnedStretches : List (Mapping String) :=
  [⟨1, 0, some "x.js", some 1, some 5, none⟩, ⟨1, 3, some "x.js", some 1, some 0, some "f"⟩,
    ⟨1, 6, none, none, none, none⟩, ⟨2, 0, some "y.js", some 1, some 2, none⟩]

theorem originalEnd_eq_end_of_stretch_turnedStretches :
    (∀ m ∈ turnedStretches, m.isAnchored) ∧ Distinct turnedStretches ∧
      ∃ map, ofMappings? turnedStretches = some map ∧
        (∃ stop name, map.lookup.originalEnd 1 5 = .ok (some ⟨some "x.js", 1, some stop, name⟩) ∧
          IsStretchEnd turnedStretches "x.js" 1 0 stop) ∧
        (∃ stop name, map.lookup.originalEnd 1 2 = .ok (some ⟨some "x.js", 1, some stop, name⟩) ∧
          IsStretchEnd turnedStretches "x.js" 1 5 stop) ∧
        map.lookup.originalEnd 1 9 = .ok none := by
  have hanchored : ∀ m ∈ turnedStretches, m.isAnchored := by decide
  have hdistinct : Distinct turnedStretches := by decide
  obtain ⟨map, hmap, -, hall⟩ := originalEnd_eq_end_of_stretch hanchored hdistinct
  obtain rfl := eq_ofMappings_of_ofMappings? hmap
  rw [lookup_ofMappings] at hall
  refine ⟨hanchored, hdistinct, _, hmap, ?_⟩
  rw [lookup_ofMappings]
  refine ⟨?_, ?_, (hall 1 9).1.mpr (by decide)⟩
  · obtain ⟨source, l, n, name, stop, name', hstart, hstop⟩ := (hall 1 5).2 (by decide)
    cases hstart.symm.trans (show _ = (⟨some "x.js", some 1, some (.finite 0), some "f"⟩ :
      OriginalPosition String) by decide)
    exact ⟨stop, name', hstop⟩
  · obtain ⟨source, l, n, name, stop, name', hstart, hstop⟩ := (hall 1 2).2 (by decide)
    cases hstart.symm.trans (show _ = (⟨some "x.js", some 1, some (.finite 5), none⟩ :
      OriginalPosition String) by decide)
    exact ⟨stop, name', hstop⟩

end SourceMap

end Remap
