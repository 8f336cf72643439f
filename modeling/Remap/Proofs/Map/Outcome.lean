import Remap.Proofs.Map.Provenance

/-!
# What comes of a range

Where each mapping with a source has a whole original point, each position that a
lookup answers has a source and a column. So there is nothing that mapping a range
could fail at (`originalRange_cases`), whatever the lines are and wherever the range
lies.

Either the range is mapped, and nothing is reported, or it is not, and that is reported
once, with one of four reasons that is true of it (`mapRange_accounts`). That a position
has no source is never the reason.
-/

namespace Remap

namespace SourceMap

section

variable {σ : Type} [Ord σ] [SourceName σ] [BEq σ] {mappings : List (Mapping σ)}

theorem originalEnd_ne_error (h : ∀ m ∈ mappings, m.isAnchored) (line column : Int)
    (error : ColumnError) :
    (ofMappings mappings).lookup.originalEnd line column ≠ .error error := by
  cases hbefore : ((ofMappings mappings).lookup.nearestOriginal line
      (max (column - 1) 0)).located? with
  | none =>
      rw [Lookup.originalEnd_of_not_located hbefore]
      intro hfails
      cases hfails
  | some before =>
      obtain ⟨source, n, hsource, hn, -⟩ := exists_point_of_nearestOriginal h hbefore
      rw [Lookup.originalEnd_of_located hbefore hsource hn]
      intro hfails
      cases hfails

/-- Both bounds of a range have a source. -/
theorem exists_source_of_hasBounds (h : ∀ m ∈ mappings, m.isAnchored) {lines : List Line}
    {start stop : Int} {firstLine lastLine : Line} {first last : Located σ}
    (hbounds : HasBounds lines (ofMappings mappings).lookup start stop firstLine lastLine first
      last) :
    (∃ source, first.source = some source) ∧ ∃ source, last.source = some source := by
  obtain ⟨source, -, hsource, -⟩ := exists_point_of_nearestOriginal h hbounds.first_eq
  obtain ⟨lastSource, -, hlastSource, -⟩ := exists_point_of_originalEnd h hbounds.last_eq
  exact ⟨⟨source, hsource⟩, lastSource, hlastSource⟩

/-- A range is mapped, or there is a true reason why not. -/
theorem originalRange_cases [LawfulBEq σ] (h : ∀ m ∈ mappings, m.isAnchored) (lines : List Line)
    (start stop : Int) :
    (∃ range, originalRange lines (ofMappings mappings).lookup start stop = .ok (.ok range)) ∨
      ∃ reason, originalRange lines (ofMappings mappings).lookup start stop =
          .ok (.error reason) ∧
        IsUnresolved lines (ofMappings mappings).lookup start stop reason ∧
        reason ≠ .noSource := by
  have houtcome := isOutcome_originalRange lines (ofMappings mappings).lookup start stop
  generalize originalRange lines (ofMappings mappings).lookup start stop = result at houtcome ⊢
  cases houtcome with
  | endFails _ hfails => exact absurd hfails (originalEnd_ne_error h _ _ _)
  | startFails hbounds hfails =>
      obtain ⟨-, n, -, hn, -⟩ := exists_point_of_nearestOriginal h hbounds.first_eq
      rw [hn] at hfails
      cases hfails
  | unresolved hreason =>
      refine Or.inr ⟨_, rfl, hreason, ?_⟩
      rintro rfl
      cases hreason with
      | noSource hbounds hnone =>
          obtain ⟨⟨source, hsource⟩, lastSource, hlastSource⟩ :=
            exists_source_of_hasBounds h hbounds
          rcases hnone with hnone | hnone
          · cases hsource.symm.trans hnone
          · cases hlastSource.symm.trans hnone
  | mapped hby => exact Or.inl ⟨_, rfl⟩

end

/-- No range makes mapping it fail. It is mapped without a report, or not mapped with one
report of a reason, which is true of the range and is not the lack of a source. -/
theorem mapRange_accounts {mappings : List (Mapping String)} (h : ∀ m ∈ mappings, m.isAnchored) :
    ∃ map, ofMappings? mappings = some map ∧
      (∀ source line, map.canPlace source line = true) ∧
      ∀ lines start stop, ∃ range?,
        (mapRange lines map.lookup start stop).value = .ok range? ∧
        (range? = none ↔
          ∃ reason ∈ [Unresolved.noLines, .unmapped, .crossSource, .collapsed],
            (mapRange lines map.lookup start stop).events =
              [.rangeUnresolved reason start stop]) ∧
        (range?.isSome → (mapRange lines map.lookup start stop).events = []) ∧
        ∀ reason, .rangeUnresolved reason start stop ∈
            (mapRange lines map.lookup start stop).events →
          IsUnresolved lines map.lookup start stop reason := by
  refine ⟨_, ofMappings?_of_anchored h, canPlace_of_anchored h, fun lines start stop => ?_⟩
  rcases originalRange_cases h lines start stop with
    ⟨range, hrange⟩ | ⟨reason, hrange, hreason, hne⟩
  · have hmapped : mapRange lines (ofMappings mappings).lookup start stop =
        ⟨.ok (some range), []⟩ := by
      rw [mapRange, hrange]
    rw [hmapped]
    refine ⟨some range, rfl, iff_of_false (Option.some_ne_none range) ?_, fun _ => rfl, ?_⟩
    · rintro ⟨reason, -, hevents⟩
      cases hevents
    · intro reason hevent
      cases hevent
  · have hunmapped : mapRange lines (ofMappings mappings).lookup start stop =
        ⟨.ok none, [.rangeUnresolved reason start stop]⟩ := by
      rw [mapRange, hrange]
    rw [hunmapped]
    refine ⟨none, rfl, iff_of_true rfl ⟨reason, ?_, rfl⟩, ?_, ?_⟩
    · cases reason with
      | noSource => exact absurd rfl hne
      | _ => decide
    · intro hsome
      cases hsome
    · intro own hevent
      cases List.mem_singleton.mp hevent
      exact hreason

/-- Three lines of ten characters. -/
def unevenLines : List Line :=
  [⟨1, 0, 10, 9, false⟩, ⟨2, 10, 20, 19, false⟩, ⟨3, 20, 30, 30, false⟩]

/-- Two stretches of one text on the first line, the second from further left, no original on
the second line, and stretches of two texts on the third. -/
def unevenMappings : List (Mapping String) :=
  [⟨1, 0, some "x.js", some 1, some 5, none⟩, ⟨1, 3, some "x.js", some 1, some 0, none⟩,
    ⟨2, 4, none, none, none, none⟩, ⟨3, 0, some "x.js", some 4, some 0, none⟩,
    ⟨3, 2, some "y.js", some 7, some 9, none⟩]

/-- A range that is mapped, and one for each reason not to map it. -/
theorem mapRange_accounts_unevenLines :
    (∀ m ∈ unevenMappings, m.isAnchored) ∧ ∃ map, ofMappings? unevenMappings = some map ∧
      (mapRange unevenLines map.lookup 20 21).value =
        .ok (some ⟨"x.js", 4, 0, 4, some (.infinite false)⟩) ∧
      (mapRange unevenLines map.lookup 20 21).events = [] ∧
      IsUnresolved unevenLines map.lookup 30 (-7) .noLines ∧
      IsUnresolved unevenLines map.lookup 12 15 .unmapped ∧
      IsUnresolved unevenLines map.lookup 20 25 .crossSource ∧
      IsUnresolved unevenLines map.lookup 0 5 .collapsed := by
  have hanchored : ∀ m ∈ unevenMappings, m.isAnchored := by decide
  obtain ⟨map, hmap, -, hall⟩ := mapRange_accounts hanchored
  obtain rfl := eq_ofMappings_of_ofMappings? hmap
  have hvalue : (mapRange unevenLines (ofMappings unevenMappings).lookup 20 21).value =
      .ok (some ⟨"x.js", 4, 0, 4, some (.infinite false)⟩) := by
    rw [lookup_ofMappings]
    decide
  refine ⟨hanchored, _, hmap, hvalue, ?_, ?_, ?_, ?_, ?_⟩
  · obtain ⟨range?, hrange, -, hnone, -⟩ := hall unevenLines 20 21
    cases hrange.symm.trans hvalue
    exact hnone rfl
  · obtain ⟨-, -, -, -, hreason⟩ := hall unevenLines 30 (-7)
    exact hreason _ (by rw [lookup_ofMappings]; decide)
  · obtain ⟨-, -, -, -, hreason⟩ := hall unevenLines 12 15
    exact hreason _ (by rw [lookup_ofMappings]; decide)
  · obtain ⟨-, -, -, -, hreason⟩ := hall unevenLines 20 25
    exact hreason _ (by rw [lookup_ofMappings]; decide)
  · obtain ⟨-, -, -, -, hreason⟩ := hall unevenLines 0 5
    exact hreason _ (by rw [lookup_ofMappings]; decide)

end SourceMap

end Remap
