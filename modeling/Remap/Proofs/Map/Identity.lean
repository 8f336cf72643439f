import Mathlib.Order.Bounds.Basic
import Remap.Proofs.Listing.Lines
import Remap.Proofs.Map.Range
import Remap.Proofs.Map.Scan

/-!
# Ranges mapped by the identity

A source map may relate offsets of a text to themselves, written as a line and a
column on both sides. It needs to know the start of each line and any further
offsets. Mapping a range by it and taking the bounds back to offsets then widens
the range to the known offsets around it: down to the nearest at or before its
start, and up to the nearest at or behind its end, though not past the line that
holds its last character (`mapRange_identity`). When all offsets are known the
range comes back as it was.
-/

namespace Remap

open SourceMap

variable {σ : Type}

/-- Whether a mapping relates an offset on a line to itself, with a source on the
original side. -/
structure Mapping.IsIdentityAt (m : Mapping σ) (source : σ) (line : Line) (offset : Int) :
    Prop where
  generatedLine : m.generatedLine = line.number
  generatedColumn : m.generatedColumn = offset - line.start
  source : m.source = some source
  originalLine : m.originalLine = some line.number
  originalColumn : m.originalColumn = some (offset - line.start)

/-- Mappings that relate the offsets of a set, and no others, to themselves. -/
structure IsIdentity (listing : Listing) (source : σ) (offsets : Set Int)
    (mappings : List (Mapping σ)) : Prop where
  within : ∀ t ∈ offsets, 0 ≤ t ∧ t < listing.eof
  starts : ∀ line ∈ listing.lines, line.start ∈ offsets
  of_mem : ∀ m ∈ mappings, ∃ t ∈ offsets, ∃ line, listing.lineAt? t = some line ∧
    m.IsIdentityAt source line t
  exists_mem : ∀ t ∈ offsets, ∃ line, listing.lineAt? t = some line ∧
    ∃ m ∈ mappings, m.IsIdentityAt source line t

/-- The nearest of the known offsets at or behind an offset, on the line of the
character before it; the end of that line when it has none. -/
def Listing.IsNextStop (listing : Listing) (offsets : Set Int) (stop next : Int) : Prop :=
  ∃ line, listing.lineAt? (stop - 1) = some line ∧
    (IsLeast {t ∈ offsets | stop ≤ t ∧ listing.lineAt? t = some line} next ∨
      (∀ t ∈ offsets, stop ≤ t → listing.lineAt? t ≠ some line) ∧ next = line.stop)

namespace IsIdentity

variable {listing : Listing} {text : List Char} {source : σ} {offsets : Set Int}
  {mappings : List (Mapping σ)} {line : Line} {offset : Int}

theorem anchored (h : IsIdentity listing source offsets mappings) :
    ∀ m ∈ mappings, m.isAnchored := by
  intro m hm
  obtain ⟨t, -, line, -, hid⟩ := h.of_mem m hm
  simp [Mapping.isAnchored, hid.originalLine, hid.originalColumn]

theorem exists_of_mem (h : IsIdentity listing source offsets mappings) (hl : listing.Lists text)
    {m : Mapping σ} (hm : m ∈ mappings) :
    ∃ t ∈ offsets, ∃ line ∈ listing.lines.toList, line.Holds t ∧ m.IsIdentityAt source line t := by
  obtain ⟨t, ht, line, hline, hid⟩ := h.of_mem m hm
  obtain ⟨hlo, hhi⟩ := h.within t ht
  obtain ⟨hmem, hholds⟩ := (hl.lineAt?_eq_some_iff hlo hhi).mp hline
  exact ⟨t, ht, line, hmem, hholds, hid⟩

theorem exists_of_holds (h : IsIdentity listing source offsets mappings)
    (hl : listing.Lists text) {t : Int} (ht : t ∈ offsets) (hline : line ∈ listing.lines.toList)
    (hholds : line.Holds t) : ∃ m ∈ mappings, m.IsIdentityAt source line t := by
  obtain ⟨own, hown, m, hm, hid⟩ := h.exists_mem t ht
  obtain rfl : line = own :=
    Option.some.inj ((hl.lineAt?_eq_some_of_holds hline hholds).symm.trans hown)
  exact ⟨m, hm, hid⟩

theorem exists_of_offset (h : IsIdentity listing source offsets mappings)
    (hl : listing.Lists text) {t : Int} (ht : t ∈ offsets) :
    ∃ line ∈ listing.lines.toList, line.Holds t ∧
      ∃ m ∈ mappings, m.IsIdentityAt source line t := by
  obtain ⟨hlo, hhi⟩ := h.within t ht
  obtain ⟨line, hline, hholds⟩ := hl.exists_holds hlo hhi
  exact ⟨line, hline, hholds, h.exists_of_holds hl ht hline hholds⟩

variable [Ord σ] [Std.TransOrd σ] [SourceName σ]

/-- A lookup along the generated text goes down to the nearest known offset. -/
theorem original_of_holds (h : IsIdentity listing source offsets mappings)
    (hl : listing.Lists text) (hline : line ∈ listing.lines.toList) (hholds : line.Holds offset) :
    ∃ t name, IsGreatest {t ∈ offsets | t ≤ offset} t ∧ line.Holds t ∧
      (ofMappings mappings).originalFor line.number (.finite (offset - line.start)) .atOrBefore =
        ⟨some source, some line.number, some (.finite (t - line.start)), name⟩ := by
  obtain ⟨hlo, hhi⟩ := hholds
  have hstart : line.start ∈ offsets := h.starts line (Array.mem_toList_iff.mp hline)
  rcases originalFor_ofMappings_cases mappings line.number (.finite (offset - line.start))
      .atOrBefore with ⟨m, hm, hanswer⟩ | ⟨-, hnone⟩
  · obtain ⟨t, ht, own, hown, hholds, hid⟩ := h.exists_of_mem hl hm.mem
    obtain rfl : own = line :=
      hl.laidOut.eq_of_number_eq hown hline (hid.generatedLine.symm.trans hm.line_eq)
    have hle : m.generatedColumn ≤ offset - own.start :=
      Bias.admits_compare_atOrBefore.mp hm.admits
    rw [hid.generatedColumn] at hle
    refine ⟨t, m.name, ⟨⟨ht, by omega⟩, ?_⟩, hholds, ?_⟩
    · rintro u ⟨hu, huoffset⟩
      by_cases hustart : own.start ≤ u
      · obtain ⟨n, hn, hnid⟩ := h.exists_of_holds hl hu hline ⟨hustart, by omega⟩
        have hcolumn : n.generatedColumn ≤ m.generatedColumn := by
          refine Bias.admits_compare_atOrBefore.mp (hm.nearest n hn hnid.generatedLine ?_)
          refine Bias.admits_compare_atOrBefore.mpr ?_
          rw [hnid.generatedColumn]
          omega
        rw [hnid.generatedColumn, hid.generatedColumn] at hcolumn
        omega
      · have := hholds.1
        omega
    · rw [hanswer, Mapping.originalPosition, hid.source, hid.originalLine, hid.originalColumn]
      rfl
  · obtain ⟨n, hn, hnid⟩ := h.exists_of_holds hl hstart hline ⟨by omega, by omega⟩
    refine absurd (Bias.admits_compare_atOrBefore.mpr ?_) (hnone n hn hnid.generatedLine)
    rw [hnid.generatedColumn]
    omega

variable [BEq σ] [LawfulBEq σ] [Std.LawfulEqOrd σ]

/-- A lookup in the original text goes up to the nearest known offset, on whichever
line that is. -/
theorem generated_of_le_stop (h : IsIdentity listing source offsets mappings)
    (hl : listing.Lists text) (hline : line ∈ listing.lines.toList)
    (hoffset : line.start ≤ offset ∧ offset ≤ line.stop) :
    (∃ u next, IsLeast {u ∈ offsets | offset ≤ u} u ∧ next ∈ listing.lines.toList ∧
        next.Holds u ∧ (ofMappings mappings).generatedFor source line.number
          (offset - line.start) .atOrAfter = ⟨some next.number, some (.finite (u - next.start))⟩) ∨
      ((ofMappings mappings).generatedFor source line.number (offset - line.start) .atOrAfter =
        {} ∧ ∀ u ∈ offsets, ¬ offset ≤ u) := by
  -- A mapping lies at or behind the point when its offset does.
  have hadmits {m : Mapping σ} {t : Int} {own : Line} (hid : m.IsIdentityAt source own t)
      (hown : own ∈ listing.lines.toList) (hholds : own.Holds t) :
      Bias.atOrAfter.admits (m.compareToPlace line.number (offset - line.start)) ↔ offset ≤ t := by
    rw [Mapping.admits_compareToPlace_atOrAfter hid.originalLine hid.originalColumn]
    exact hl.laidOut.le_iff hline hown hoffset hholds
  rcases generatedFor_ofMappings_cases mappings source line.number (offset - line.start)
      .atOrAfter with ⟨m, hm, hanswer⟩ | ⟨hanswer, hnone⟩
  · obtain ⟨u, hu, next, hnext, hholds, hid⟩ := h.exists_of_mem hl hm.mem
    refine Or.inl ⟨u, next, ⟨⟨hu, (hadmits hid hnext hholds).mp hm.admits⟩, ?_⟩, hnext, hholds, ?_⟩
    · rintro v ⟨hv, hle⟩
      obtain ⟨own, hown, hownholds, n, hn, hnid⟩ := h.exists_of_offset hl hv
      have hnear := hm.nearest n hn hnid.source ((hadmits hnid hown hownholds).mpr hle)
      have hplace : n.compareOriginalPlace m =
          n.compareToPlace next.number (u - next.start) := by
        rw [Mapping.compareOriginalPlace, hid.originalLine, hid.originalColumn]
        rfl
      rw [hplace, Mapping.admits_compareToPlace_atOrAfter hnid.originalLine hnid.originalColumn]
        at hnear
      exact (hl.laidOut.le_iff hnext hown ⟨hholds.1, Int.le_of_lt hholds.2⟩ hownholds).mp hnear
    · rw [hanswer, Mapping.generatedPosition, hid.generatedLine, hid.generatedColumn]
  · refine Or.inr ⟨hanswer, fun u hu hle => ?_⟩
    obtain ⟨own, hown, hholds, n, hn, hnid⟩ := h.exists_of_offset hl hu
    exact hnone n hn hnid.source ((hadmits hnid hown hholds).mpr hle)

omit [Std.LawfulEqOrd σ] [LawfulBEq σ] in
theorem nearestOriginal_of_holds (h : IsIdentity listing source offsets mappings)
    (hl : listing.Lists text) (hline : line ∈ listing.lines.toList) (hholds : line.Holds offset) :
    ∃ t name, IsGreatest {t ∈ offsets | t ≤ offset} t ∧ line.Holds t ∧
      ((ofMappings mappings).lookup.nearestOriginal line.number (offset - line.start)).located? =
        some ⟨some source, line.number, some (.finite (t - line.start)), name⟩ := by
  obtain ⟨t, name, hgreatest, htholds, hanswer⟩ := h.original_of_holds hl hline hholds
  refine ⟨t, name, hgreatest, htholds, ?_⟩
  simp only [Lookup.nearestOriginal, lookup, hanswer]
  rfl

/-- The end of a range goes up to the nearest known offset on its last line, and
else to the end of that line. -/
theorem originalEnd_of_holds (h : IsIdentity listing source offsets mappings)
    (hl : listing.Lists text) (hline : line ∈ listing.lines.toList) {stop : Int}
    (hholds : line.Holds (stop - 1)) :
    ∃ column name next, (ofMappings mappings).lookup.originalEnd line.number (stop - line.start) =
        .ok (some ⟨some source, line.number, some column, name⟩) ∧
      listing.offsetOf line.number column = next ∧ listing.IsNextStop offsets stop next ∧
      ∀ n, column = .finite n → stop ≤ line.start + n := by
  have hstop := hl.lineAt?_eq_some_of_holds hline hholds
  obtain ⟨t, name, ⟨⟨-, hle⟩, hgreatest⟩, htholds, hbefore⟩ :=
    h.nearestOriginal_of_holds hl hline hholds
  -- Known offsets behind `t` are those from `stop` on.
  have hbehind {u : Int} (hu : u ∈ offsets) : t + 1 ≤ u ↔ stop ≤ u := by
    constructor
    · intro hlt
      by_contra hlate
      have := hgreatest ⟨hu, by omega⟩
      omega
    · omega
  have hend : (ofMappings mappings).lookup.originalEnd line.number (stop - line.start) =
      .ok (some ((ofMappings mappings).lookup.stretchEnd
        ⟨some source, line.number, some (.finite (t - line.start)), name⟩ source
        (t - line.start))) := by
    refine Lookup.originalEnd_of_located ?_ rfl rfl
    have : max (stop - line.start - 1) 0 = stop - 1 - line.start := by
      have := hholds.1
      omega
    rw [this, hbefore]
  rw [hend]
  have hcolumn : t - line.start + 1 = t + 1 - line.start := by omega
  have hlineEnd (hnone : ∀ u ∈ offsets, stop ≤ u → ¬ line.Holds u) :
      listing.IsNextStop offsets stop line.stop := by
    refine ⟨line, hstop, Or.inr ⟨fun u hu hle hfound => hnone u hu hle ?_, rfl⟩⟩
    obtain ⟨hlo, hhi⟩ := h.within u hu
    exact ((hl.lineAt?_eq_some_iff hlo hhi).mp hfound).2
  have hnextOffset : line.start ≤ t + 1 ∧ t + 1 ≤ line.stop := by
    obtain ⟨hlo, hhi⟩ := htholds
    omega
  rcases h.generated_of_le_stop hl hline hnextOffset with
    ⟨u, next, ⟨⟨hu, hbehindu⟩, hleast⟩, hnext, huholds, hanswer⟩ | ⟨hanswer, hnone⟩
  · obtain ⟨v, name', ⟨⟨-, hvle⟩, hvgreatest⟩, -, hafter⟩ := h.original_of_holds hl hnext huholds
    -- The point found is one that is known, so it is its own nearest.
    obtain rfl : v = u := le_antisymm hvle (hvgreatest ⟨hu, le_rfl⟩)
    have hgenerated : (ofMappings mappings).generatedFor source line.number
        (t - line.start + 1) .atOrAfter = ⟨some next.number, some (.finite (v - next.start))⟩ := by
      rw [hcolumn, hanswer]
    rw [Lookup.stretchEnd_of_located hgenerated (congrArg OriginalPosition.located? hafter)]
    by_cases hsame : next = line
    · subst hsame
      have hv := hl.lineAt?_eq_some_of_holds hnext huholds
      refine ⟨.finite (v - next.start), name', v, by rw [if_pos rfl],
        hl.offsetOf_sub_start hnext huholds.1 (Int.le_of_lt huholds.2), ?_, ?_⟩
      · refine ⟨next, hstop, Or.inl ⟨⟨hu, (hbehind hu).mp hbehindu, hv⟩, ?_⟩⟩
        rintro w ⟨hw, hle, -⟩
        exact hleast ⟨hw, (hbehind hw).mpr hle⟩
      · rintro n ⟨⟩
        have := (hbehind hu).mp hbehindu
        omega
    · have hnumber : ¬ next.number = line.number := fun heq =>
        hsame (hl.laidOut.eq_of_number_eq hnext hline heq)
      refine ⟨.infinite false, none, line.stop, by rw [if_neg hnumber]; rfl,
        hl.offsetOf_infinite hline, ?_, by simp⟩
      refine hlineEnd fun w hw hle hholds => hsame ?_
      have hvw := hleast ⟨hw, (hbehind hw).mpr hle⟩
      have hvholds : line.Holds v := ⟨by have := htholds.1; omega, by have := hholds.2; omega⟩
      exact hl.laidOut.eq_of_holds hnext hline huholds hvholds
  · rw [Lookup.stretchEnd_of_not_found (by rw [hcolumn]; exact hanswer)]
    refine ⟨.infinite false, none, line.stop, rfl, hl.offsetOf_infinite hline, ?_, by simp⟩
    exact hlineEnd fun u hu hle _ => hnone u hu ((hbehind hu).mpr hle)

end IsIdentity

/-- Where all offsets are known the nearest is the offset itself. -/
theorem Listing.IsNextStop.eq_of_all {listing : Listing} {text : List Char} {offsets : Set Int}
    {stop next : Int} (h : listing.IsNextStop offsets stop next) (hl : listing.Lists text)
    (hall : offsets = {t | 0 ≤ t ∧ t < listing.eof}) (hlo : 0 < stop) (hhi : stop ≤ listing.eof) :
    next = stop := by
  obtain ⟨line, hline, hnext⟩ := h
  obtain ⟨hmem, hholds⟩ := (hl.lineAt?_eq_some_iff (by omega) (by omega)).mp hline
  have hbounds := hl.bounds hmem
  rcases Int.lt_or_le stop line.stop with hlt | hge
  · have hstop : stop ∈ offsets := by
      rw [hall]
      exact ⟨by omega, by omega⟩
    have hfound : listing.lineAt? stop = some line :=
      hl.lineAt?_eq_some_of_holds hmem ⟨by have := hholds.1; omega, hlt⟩
    rcases hnext with ⟨⟨-, hle, -⟩, hleast⟩ | ⟨hnone, -⟩
    · exact le_antisymm (hleast ⟨hstop, le_rfl, hfound⟩) hle
    · exact absurd hfound (hnone stop hstop le_rfl)
  · have heq : stop = line.stop := by
      have := hholds.2
      omega
    rcases hnext with ⟨⟨hmem', hle, hfound⟩, -⟩ | ⟨-, hnext⟩
    · rw [hall] at hmem'
      have := ((hl.lineAt?_eq_some_iff hmem'.1 hmem'.2).mp hfound).2.2
      omega
    · rw [hnext, heq]

/-- Mapped by the identity, a range of a text widens to the known offsets around it. -/
theorem mapRange_identity {parse : Parse} {code : List Char} {wrapperLength : Int}
    {language : Option String} {listing : Listing}
    (hbuild : (Listing.build parse code wrapperLength language).value = .ok listing)
    {source : String} {offsets : Set Int} {mappings : List (Mapping String)}
    (h : IsIdentity listing source offsets mappings) :
    ∃ map, ofMappings? mappings = some map ∧
      ∀ start stop, 0 ≤ start → start < stop → stop ≤ listing.eof →
        ∃ range first next,
          (listing.mapRange map.lookup start stop).value = .ok (some range) ∧
          listing.offsetsOf range = .ok (first, next) ∧
          IsGreatest {t ∈ offsets | t ≤ start} first ∧
          listing.IsNextStop offsets stop next ∧
          (offsets = {t | 0 ≤ t ∧ t < listing.eof} → first = start ∧ next = stop) := by
  have hl := Listing.lists_of_build hbuild
  refine ⟨_, ofMappings?_of_anchored h.anchored, fun start stop hlo hlt hhi => ?_⟩
  obtain ⟨firstLine, hfirstLine, hstart⟩ := hl.exists_holds hlo (by omega)
  obtain ⟨lastLine, hlastLine, hstop⟩ : ∃ line ∈ listing.lines.toList, line.Holds (stop - 1) :=
    hl.exists_holds (by omega) (by omega)
  obtain ⟨first, name, hfirst, hfirstHolds, hbefore⟩ :=
    h.nearestOriginal_of_holds hl hfirstLine hstart
  obtain ⟨column, name', next, hend, hnext, hnextStop, hfinite⟩ :=
    h.originalEnd_of_holds hl hlastLine hstop
  -- The bounds are not one point, since the end lies behind the start.
  have hapart : ¬ (firstLine.number = lastLine.number ∧
      some (Column.finite (first - firstLine.start)) = some column) := by
    rintro ⟨hnumber, hcolumn⟩
    obtain rfl := hl.laidOut.eq_of_number_eq hfirstLine hlastLine hnumber
    have := hfinite _ (Option.some.inj hcolumn).symm
    have := hfirst.1.2
    omega
  have hby : IsMappedBy listing.lines.toList (ofMappings mappings).lookup start stop
      ⟨source, firstLine.number, first - firstLine.start, lastLine.number, some column⟩
      firstLine lastLine
      ⟨some source, firstLine.number, some (.finite (first - firstLine.start)), name⟩
      ⟨some source, lastLine.number, some column, name'⟩
      ⟨some source, lastLine.number, some column, name'⟩ := {
    firstLine_eq := head?_overlapping hl.laidOut hfirstLine hstart
    lastLine_eq := getLast?_overlapping hl.laidOut hlastLine hlt hstop
    first_eq := by rw [Int.max_eq_right (by have := hstart.1; omega), hbefore]
    last_eq := hend
    bound_eq := if_neg hapart
    first_source := rfl
    last_source := rfl
    first_line := rfl
    first_column := rfl
    bound_line := rfl
    bound_column := rfl }
  have hrange := mapRange_value_eq_some_iff.mpr (originalRange_eq_ok_iff.mpr ⟨_, _, _, _, _, hby⟩)
  refine ⟨_, first, next, hrange, ?_, hfirst, hnextStop, fun hall => ⟨?_, ?_⟩⟩
  · simp only [Listing.offsetsOf, hnext,
      hl.offsetOf_sub_start hfirstLine hfirstHolds.1 (Int.le_of_lt hfirstHolds.2)]
  · refine le_antisymm hfirst.1.2 (hfirst.2 ⟨?_, le_rfl⟩)
    rw [hall]
    exact ⟨hlo, by omega⟩
  · exact hnextStop.eq_of_all hl hall (by omega) hhi

/-- The listing of two lines of text. -/
def twoLines : Listing :=
  ⟨5, 0, 0, #[⟨1, 0, 3, 2, false⟩, ⟨2, 3, 5, 5, false⟩], []⟩

/-- Of the offsets of two lines the starts and one more. -/
def someOffsets : List (Mapping String) :=
  [⟨1, 0, some "a.js", some 1, some 0, none⟩, ⟨2, 0, some "a.js", some 2, some 0, none⟩,
    ⟨2, 1, some "a.js", some 2, some 1, none⟩]

theorem isIdentity_someOffsets : IsIdentity twoLines "a.js" {0, 3, 4} someOffsets where
  within := by rintro t (rfl | rfl | rfl) <;> decide
  starts := by
    rintro line hline
    simp only [twoLines, List.mem_toArray, List.mem_cons, List.not_mem_nil, or_false] at hline
    rcases hline with rfl | rfl <;> simp
  of_mem := by
    rintro m hm
    simp only [someOffsets, List.mem_cons, List.not_mem_nil, or_false] at hm
    rcases hm with rfl | rfl | rfl
    · exact ⟨0, by simp, ⟨1, 0, 3, 2, false⟩, by decide, rfl, rfl, rfl, rfl, rfl⟩
    · exact ⟨3, by simp, ⟨2, 3, 5, 5, false⟩, by decide, rfl, rfl, rfl, rfl, rfl⟩
    · exact ⟨4, by simp, ⟨2, 3, 5, 5, false⟩, by decide, rfl, rfl, rfl, rfl, rfl⟩
  exists_mem := by
    rintro t (rfl | rfl | rfl)
    · exact ⟨⟨1, 0, 3, 2, false⟩, by decide, _, List.mem_cons_self, rfl, rfl, rfl, rfl, rfl⟩
    · exact ⟨⟨2, 3, 5, 5, false⟩, by decide, _, List.mem_cons_of_mem _ List.mem_cons_self,
        rfl, rfl, rfl, rfl, rfl⟩
    · exact ⟨⟨2, 3, 5, 5, false⟩, by decide, _,
        List.mem_cons_of_mem _ (List.mem_cons_of_mem _ List.mem_cons_self),
        rfl, rfl, rfl, rfl, rfl⟩

/-- The start goes down to the start of the first line, the end up to the end of it. -/
theorem mapRange_identity_someOffsets :
    (Listing.build (fun _ _ => ⟨default, false⟩) "ab\ncd".toList 0 none).value =
        .ok twoLines ∧
      ∃ map, ofMappings? someOffsets = some map ∧ ∃ range next,
        (twoLines.mapRange map.lookup 1 2).value = .ok (some range) ∧
        twoLines.offsetsOf range = .ok (0, next) ∧
        twoLines.IsNextStop {0, 3, 4} 2 next := by
  have hbuild : (Listing.build (fun _ _ => ⟨default, false⟩)
      "ab\ncd".toList 0 none).value = .ok twoLines := by
    decide
  obtain ⟨map, hmap, hall⟩ := mapRange_identity hbuild isIdentity_someOffsets
  obtain ⟨range, first, next, hrange, hoffsets, hfirst, hnext, -⟩ :=
    hall 1 2 (by decide) (by decide) (by decide)
  have hzero : IsGreatest {t ∈ ({0, 3, 4} : Set Int) | t ≤ 1} 0 := by
    refine ⟨by simp, ?_⟩
    rintro t ⟨rfl | rfl | rfl, hle⟩
    · exact le_rfl
    · exact absurd hle (by decide)
    · exact absurd hle (by decide)
  rw [hfirst.unique hzero] at hoffsets
  exact ⟨hbuild, map, hmap, range, next, hrange, hoffsets, hnext⟩

end Remap
