import Remap.Map.Range

/-!
# How a range is mapped

`originalRange` goes through a chain of lookups, any of which may end it. This
file takes the chain apart once: `IsOutcome` lists all that can come of a range
(`isOutcome_originalRange`). A mapped range rests on what `IsMappedBy` lists, and
is the answer exactly when it does (`originalRange_eq_ok_iff`); a reason for not
mapping a range says what `IsUnresolved` lists. The end of a stretch of original
text is a function of the point that starts it (`Lookup.stretchEnd`).
-/

namespace Remap

variable {σ : Type}

namespace Lookup

/-- Where the stretch of original text stops that starts at a column of a source. -/
def stretchEnd (lookup : Lookup σ) (before : Located σ) (source : σ) (column : Int) : Located σ :=
  let next := lookup.generated source before.line (column + 1) .atOrAfter
  match next.line, next.column with
  | some nextLine, some nextColumn =>
    match (lookup.original nextLine nextColumn .atOrBefore).located? with
    | some after => if after.line = before.line then after else lineEnd before
    | none => lineEnd before
  | _, _ => lineEnd before

theorem stretchEnd_of_located {lookup : Lookup σ} {before after : Located σ} {source : σ}
    {n nextLine : Int} {nextColumn : Column}
    (hnext : lookup.generated source before.line (n + 1) .atOrAfter = ⟨nextLine, nextColumn⟩)
    (hafter : (lookup.original nextLine nextColumn .atOrBefore).located? = some after) :
    lookup.stretchEnd before source n =
      if after.line = before.line then after else lineEnd before := by
  simp only [stretchEnd, hnext, hafter]

theorem stretchEnd_of_not_found {lookup : Lookup σ} {before : Located σ} {source : σ} {n : Int}
    (hnext : lookup.generated source before.line (n + 1) .atOrAfter = {}) :
    lookup.stretchEnd before source n = lineEnd before := by
  simp only [stretchEnd, hnext]

/-- A stretch stops at the end of its line or at a position that a lookup answers. -/
theorem stretchEnd_cases (lookup : Lookup σ) (before : Located σ) (source : σ) (n : Int) :
    lookup.stretchEnd before source n = lineEnd before ∨ ∃ line column,
      (lookup.original line column .atOrBefore).located? =
        some (lookup.stretchEnd before source n) := by
  simp only [stretchEnd]
  split
  · next line column _ _ =>
      split
      · next after hafter =>
          by_cases hline : after.line = before.line
          · rw [if_pos hline]
            exact Or.inr ⟨line, column, hafter⟩
          · rw [if_neg hline]
            exact Or.inl rfl
      · exact Or.inl rfl
  · exact Or.inl rfl

theorem originalEnd_of_located {lookup : Lookup σ} {line column : Int} {before : Located σ}
    {source : σ} {n : Int}
    (hbefore : (lookup.nearestOriginal line (max (column - 1) 0)).located? = some before)
    (hsource : before.source = some source) (hcolumn : before.column = some (.finite n)) :
    lookup.originalEnd line column = .ok (some (lookup.stretchEnd before source n)) := by
  simp only [originalEnd, hbefore, hsource, hcolumn, wholeColumn, stretchEnd, bind, Except.bind,
    pure, Except.pure]
  -- Both sides ask the same lookups in the same order.
  cases (lookup.generated source before.line (n + 1) .atOrAfter).line with
  | none => rfl
  | some nextLine =>
      cases (lookup.generated source before.line (n + 1) .atOrAfter).column with
      | none => rfl
      | some nextColumn =>
          dsimp only
          cases (lookup.original nextLine nextColumn .atOrBefore).located? <;> rfl

theorem originalEnd_of_not_located {lookup : Lookup σ} {line column : Int}
    (h : (lookup.nearestOriginal line (max (column - 1) 0)).located? = none) :
    lookup.originalEnd line column = .ok none := by
  simp only [originalEnd, h]
  rfl

end Lookup

/-- What a mapped range rests on: the lines at its ends, the positions of its
bounds, and the position that its end is taken from. -/
structure IsMappedBy (lines : List Line) (lookup : Lookup σ) (start stop : Int)
    (range : MappedRange σ) (firstLine lastLine : Line) (first last bound : Located σ) : Prop where
  firstLine_eq : (overlapping lines start stop).head? = some firstLine
  lastLine_eq : (overlapping lines start stop).getLast? = some lastLine
  first_eq : (lookup.nearestOriginal firstLine.number (max 0 (start - firstLine.start))).located? =
    some first
  last_eq : lookup.originalEnd lastLine.number (stop - lastLine.start) = .ok (some last)
  bound_eq : uncollapsed? lookup lastLine.number (stop - lastLine.start) first last = some bound
  first_source : first.source = some range.source
  last_source : last.source = some range.source
  first_line : first.line = range.startLine
  first_column : first.column = some (.finite range.startColumn)
  bound_line : bound.line = range.endLine
  bound_column : bound.column = range.endColumn

/-- The bounds of a range, in lines at its ends, when they are positions of one source. -/
structure IsBoundedBy (lines : List Line) (lookup : Lookup σ) (start stop : Int) (source : σ)
    (firstLine lastLine : Line) (first last : Located σ) : Prop where
  firstLine_eq : (overlapping lines start stop).head? = some firstLine
  lastLine_eq : (overlapping lines start stop).getLast? = some lastLine
  first_eq : (lookup.nearestOriginal firstLine.number (max 0 (start - firstLine.start))).located? =
    some first
  last_eq : lookup.originalEnd lastLine.number (stop - lastLine.start) = .ok (some last)
  first_source : first.source = some source
  last_source : last.source = some source

theorem wholeColumn_eq_ok_iff {column : Option Column} {n : Int} :
    wholeColumn column = .ok n ↔ column = some (.finite n) := by
  cases column with
  | none => simp [wholeColumn]
  | some column => cases column <;> simp [wholeColumn]

/-! ## Outcomes -/

/-- The lines at the ends of a range, and the positions of its bounds in them. -/
structure HasBounds (lines : List Line) (lookup : Lookup σ) (start stop : Int)
    (firstLine lastLine : Line) (first last : Located σ) : Prop where
  firstLine_eq : (overlapping lines start stop).head? = some firstLine
  lastLine_eq : (overlapping lines start stop).getLast? = some lastLine
  first_eq : (lookup.nearestOriginal firstLine.number (max 0 (start - firstLine.start))).located? =
    some first
  last_eq : lookup.originalEnd lastLine.number (stop - lastLine.start) = .ok (some last)

/-- What each reason for not mapping a range says of the range. -/
inductive IsUnresolved (lines : List Line) (lookup : Lookup σ) (start stop : Int) :
    Unresolved → Prop
  | noLines : overlapping lines start stop = [] → IsUnresolved lines lookup start stop .noLines
  | unmapped {firstLine lastLine : Line} :
      (overlapping lines start stop).head? = some firstLine →
      (overlapping lines start stop).getLast? = some lastLine →
      (lookup.nearestOriginal firstLine.number
          (max 0 (start - firstLine.start))).located? = none ∨
        lookup.originalEnd lastLine.number (stop - lastLine.start) = .ok none →
      IsUnresolved lines lookup start stop .unmapped
  | noSource {firstLine lastLine : Line} {first last : Located σ} :
      HasBounds lines lookup start stop firstLine lastLine first last →
      first.source = none ∨ last.source = none →
      IsUnresolved lines lookup start stop .noSource
  | crossSource {firstLine lastLine : Line} {first last : Located σ} {source lastSource : σ} :
      HasBounds lines lookup start stop firstLine lastLine first last →
      first.source = some source → last.source = some lastSource → source ≠ lastSource →
      IsUnresolved lines lookup start stop .crossSource
  | collapsed {source : σ} {firstLine lastLine : Line} {first last : Located σ} :
      IsBoundedBy lines lookup start stop source firstLine lastLine first last →
      first.line = last.line ∧ first.column = last.column →
      uncollapsed? lookup lastLine.number (stop - lastLine.start) first last = none →
      IsUnresolved lines lookup start stop .collapsed

/-- All that can come of a range, and what it rests on. -/
inductive IsOutcome (lines : List Line) (lookup : Lookup σ) (start stop : Int) :
    Except ColumnError (Except Unresolved (MappedRange σ)) → Prop
  | endFails {lastLine : Line} {error : ColumnError} :
      (overlapping lines start stop).getLast? = some lastLine →
      lookup.originalEnd lastLine.number (stop - lastLine.start) = .error error →
      IsOutcome lines lookup start stop (.error error)
  | startFails {firstLine lastLine : Line} {first last : Located σ} {error : ColumnError} :
      HasBounds lines lookup start stop firstLine lastLine first last →
      wholeColumn first.column = .error error → IsOutcome lines lookup start stop (.error error)
  | unresolved {reason : Unresolved} : IsUnresolved lines lookup start stop reason →
      IsOutcome lines lookup start stop (.ok (.error reason))
  | mapped {range : MappedRange σ} {firstLine lastLine : Line} {first last bound : Located σ} :
      IsMappedBy lines lookup start stop range firstLine lastLine first last bound →
      IsOutcome lines lookup start stop (.ok (.ok range))

theorem HasBounds.isOutcome_originalRange [BEq σ] [LawfulBEq σ] {lines : List Line}
    {lookup : Lookup σ} {start stop : Int} {firstLine lastLine : Line} {first last : Located σ}
    (h : HasBounds lines lookup start stop firstLine lastLine first last) :
    IsOutcome lines lookup start stop (originalRange lines lookup start stop) := by
  simp only [originalRange, h.firstLine_eq, h.lastLine_eq, h.first_eq, h.last_eq, bind, Except.bind,
    pure, Except.pure]
  cases hsource : first.source with
  | none => exact .unresolved (.noSource h (Or.inl hsource))
  | some source =>
      cases hlastSource : last.source with
      | none => exact .unresolved (.noSource h (Or.inr hlastSource))
      | some lastSource =>
          dsimp only
          split
          · next hne =>
              exact .unresolved (.crossSource h hsource hlastSource (by simpa using hne))
          · next heq =>
              obtain rfl : source = lastSource := by simpa using heq
              have hby : IsBoundedBy lines lookup start stop source firstLine lastLine first last :=
                ⟨h.firstLine_eq, h.lastLine_eq, h.first_eq, h.last_eq, hsource, hlastSource⟩
              cases hbound : uncollapsed? lookup lastLine.number (stop - lastLine.start) first
                  last with
              | none =>
                  refine .unresolved (.collapsed hby ?_ hbound)
                  refine Classical.byContradiction fun hdiffer => ?_
                  rw [uncollapsed?, if_neg hdiffer] at hbound
                  cases hbound
              | some bound =>
                  cases hcolumn : wholeColumn first.column with
                  | error error => exact .startFails h hcolumn
                  | ok n =>
                      exact .mapped ⟨h.firstLine_eq, h.lastLine_eq, h.first_eq, h.last_eq, hbound,
                        hsource, hlastSource, rfl, wholeColumn_eq_ok_iff.mp hcolumn, rfl, rfl⟩

theorem isOutcome_originalRange [BEq σ] [LawfulBEq σ] (lines : List Line) (lookup : Lookup σ)
    (start stop : Int) :
    IsOutcome lines lookup start stop (originalRange lines lookup start stop) := by
  cases hfirstLine : (overlapping lines start stop).head? with
  | none =>
      simp only [originalRange, hfirstLine]
      exact .unresolved (.noLines (List.head?_eq_none_iff.mp hfirstLine))
  | some firstLine =>
      cases hlastLine : (overlapping lines start stop).getLast? with
      | none =>
          simp only [originalRange, hfirstLine, hlastLine]
          exact .unresolved (.noLines (List.getLast?_eq_none_iff.mp hlastLine))
      | some lastLine =>
          cases hlast : lookup.originalEnd lastLine.number (stop - lastLine.start) with
          | error error =>
              simp only [originalRange, hfirstLine, hlastLine, hlast]
              exact .endFails hlastLine hlast
          | ok last? =>
              cases hfirst : (lookup.nearestOriginal firstLine.number
                  (max 0 (start - firstLine.start))).located? with
              | none =>
                  simp only [originalRange, hfirstLine, hlastLine, hlast, hfirst, bind, Except.bind]
                  exact .unresolved (.unmapped hfirstLine hlastLine (Or.inl hfirst))
              | some first =>
                  cases last? with
                  | none =>
                      simp only [originalRange, hfirstLine, hlastLine, hlast, bind, Except.bind]
                      exact .unresolved (.unmapped hfirstLine hlastLine (Or.inr hlast))
                  | some last =>
                      have hbounds :
                          HasBounds lines lookup start stop firstLine lastLine first last :=
                        ⟨hfirstLine, hlastLine, hfirst, hlast⟩
                      exact hbounds.isOutcome_originalRange

theorem originalRange_eq_ok_iff [BEq σ] [LawfulBEq σ] {lines : List Line} {lookup : Lookup σ}
    {start stop : Int} {range : MappedRange σ} :
    originalRange lines lookup start stop = .ok (.ok range) ↔
      ∃ firstLine lastLine first last bound,
        IsMappedBy lines lookup start stop range firstLine lastLine first last bound := by
  constructor
  · intro h
    have houtcome := isOutcome_originalRange lines lookup start stop
    rw [h] at houtcome
    cases houtcome with
    | mapped hby => exact ⟨_, _, _, _, _, hby⟩
  · rintro ⟨firstLine, lastLine, first, last, bound, h⟩
    simp only [originalRange, h.firstLine_eq, h.lastLine_eq, h.last_eq, h.first_eq, h.first_source,
      h.last_source, h.bound_eq, h.first_column, h.first_line, h.bound_line, h.bound_column, bind,
      Except.bind, pure, Except.pure, wholeColumn, bne_self_eq_false]
    rfl

/-- The reason that is given for not mapping a range is true of it. -/
theorem isUnresolved_of_originalRange [BEq σ] [LawfulBEq σ] {lines : List Line}
    {lookup : Lookup σ} {start stop : Int} {reason : Unresolved}
    (h : originalRange lines lookup start stop = .ok (.error reason)) :
    IsUnresolved lines lookup start stop reason := by
  have houtcome := isOutcome_originalRange lines lookup start stop
  rw [h] at houtcome
  cases houtcome with
  | unresolved hreason => exact hreason

theorem mapRange_value_eq_some_iff [BEq σ] {lines : List Line} {lookup : Lookup σ}
    {start stop : Int} {range : MappedRange σ} :
    (mapRange lines lookup start stop).value = .ok (some range) ↔
      originalRange lines lookup start stop = .ok (.ok range) := by
  simp only [mapRange]
  split
  · next hrange => simp [hrange]
  · next hrange => simp [hrange]
  · next hrange => simp [hrange]

/-! ## Ranges whose bounds are one point -/

/-- The position that a range ends before when both of its bounds are one point. -/
def collapsedBefore? (lines : List Line) (lookup : Lookup σ) (start stop : Int) :
    Option (Located σ) := do
  let firstLine ← (overlapping lines start stop).head?
  let lastLine ← (overlapping lines start stop).getLast?
  let first ←
    (lookup.nearestOriginal firstLine.number (max 0 (start - firstLine.start))).located?
  let .ok (some last) := lookup.originalEnd lastLine.number (stop - lastLine.start) | none
  if first.line = last.line ∧ first.column = last.column then
    (lookup.original lastLine.number (stop - lastLine.start : Int) .atOrAfter).located?
  else none

theorem IsMappedBy.collapsedBefore?_eq {lines : List Line} {lookup : Lookup σ}
    {start stop : Int} {range : MappedRange σ} {firstLine lastLine : Line}
    {first last bound : Located σ}
    (h : IsMappedBy lines lookup start stop range firstLine lastLine first last bound) :
    collapsedBefore? lines lookup start stop =
      if first.line = last.line ∧ first.column = last.column then
        (lookup.original lastLine.number (stop - lastLine.start : Int) .atOrAfter).located?
      else none := by
  simp [collapsedBefore?, h.firstLine_eq, h.lastLine_eq, h.first_eq, h.last_eq]

/-- A mapped range stops one column before the position behind it when its bounds are one
point, and otherwise at its second bound. -/
theorem IsMappedBy.bound_cases {lines : List Line} {lookup : Lookup σ} {start stop : Int}
    {range : MappedRange σ} {firstLine lastLine : Line} {first last bound : Located σ}
    (h : IsMappedBy lines lookup start stop range firstLine lastLine first last bound) :
    (∃ after column, collapsedBefore? lines lookup start stop = some after ∧
        (lookup.original lastLine.number (stop - lastLine.start : Int) .atOrAfter).located? =
          some after ∧
        after.column = some column ∧ bound.line = after.line ∧
        bound.column = some column.pred) ∨
      (collapsedBefore? lines lookup start stop = none ∧ bound = last) := by
  have hbound := h.bound_eq
  rw [h.collapsedBefore?_eq]
  by_cases hsame : first.line = last.line ∧ first.column = last.column
  · rw [uncollapsed?, if_pos hsame] at hbound
    obtain ⟨after, hafter, hbound⟩ := Option.bind_eq_some_iff.mp hbound
    obtain ⟨column, hcolumn, hbound⟩ := Option.bind_eq_some_iff.mp hbound
    cases hbound
    rw [if_pos hsame]
    exact Or.inl ⟨after, column, hafter, hafter, hcolumn, rfl, rfl⟩
  · rw [uncollapsed?, if_neg hsame] at hbound
    rw [if_neg hsame]
    exact Or.inr ⟨rfl, (Option.some.inj hbound).symm⟩

/-- Whether the bounds of a range are one point, so that its end has to be taken from elsewhere. -/
def Collapses (lines : List Line) (lookup : Lookup σ) (start stop : Int) : Prop :=
  ∃ source firstLine lastLine first last,
    IsBoundedBy lines lookup start stop source firstLine lastLine first last ∧
      first.line = last.line ∧ first.column = last.column

theorem IsMappedBy.isBoundedBy {lines : List Line} {lookup : Lookup σ} {start stop : Int}
    {range : MappedRange σ} {firstLine lastLine : Line} {first last bound : Located σ}
    (h : IsMappedBy lines lookup start stop range firstLine lastLine first last bound) :
    IsBoundedBy lines lookup start stop range.source firstLine lastLine first last :=
  ⟨h.firstLine_eq, h.lastLine_eq, h.first_eq, h.last_eq, h.first_source, h.last_source⟩

/-- A range whose bounds differ stops at the second. -/
theorem IsMappedBy.bound_eq_last {lines : List Line} {lookup : Lookup σ} {start stop : Int}
    {range : MappedRange σ} {firstLine lastLine : Line} {first last bound : Located σ}
    (h : IsMappedBy lines lookup start stop range firstLine lastLine first last bound)
    (hapart : ¬ Collapses lines lookup start stop) : bound = last := by
  have hdiffer : ¬ (first.line = last.line ∧ first.column = last.column) := fun hsame =>
    hapart ⟨_, _, _, _, _, h.isBoundedBy, hsame⟩
  have hbound := h.bound_eq
  rw [uncollapsed?, if_neg hdiffer] at hbound
  exact (Option.some.inj hbound).symm

/-- Only where both bounds are one point is a range refused for that. -/
theorem collapses_of_originalRange [BEq σ] [LawfulBEq σ] {lines : List Line} {lookup : Lookup σ}
    {start stop : Int} (h : originalRange lines lookup start stop = .ok (.error .collapsed)) :
    Collapses lines lookup start stop := by
  cases isUnresolved_of_originalRange h with
  | collapsed hby hsame _ => exact ⟨_, _, _, _, _, hby, hsame⟩

end Remap
