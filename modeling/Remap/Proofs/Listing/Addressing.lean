import Remap.Proofs.Listing.Partition

/-!
# Offsets and places

A place in a text is an offset, or a line and a column on it. `lineAt?` takes an
offset to its line, `offsetOf` takes a line and a column to their offset, and on the
places that a text has the two undo each other (`IsAddressed`). Columns that a line
does not have count as its start or its end, so that the offset never falls as the
place moves on.

The end of the text is the one offset that no line holds. It belongs to the last
line (`IsLineAt`), which is why that line has one column more than it has characters.
-/

namespace Remap

namespace Listing

/-- Whether an offset belongs to a line: the line holds it, or it is the end of the
text and the line the last one. -/
def IsLineAt (listing : Listing) (offset : Int) (line : Line) : Prop :=
  line ∈ listing.lines.toList ∧
    (line.Holds offset ∨ offset = listing.eof ∧ listing.lines.back? = some line)

/-- Offsets and places of a text are in accord. -/
structure IsAddressed (listing : Listing) : Prop where
  lineAt?_eq_none : ∀ offset,
    listing.lineAt? offset = none ↔ offset < 0 ∨ listing.eof < offset
  lineAt?_eq_some : ∀ offset line,
    listing.lineAt? offset = some line ↔ listing.IsLineAt offset line
  offsetOf_lineAt : ∀ offset line, listing.lineAt? offset = some line →
    listing.offsetOf line.number (.finite (offset - line.start)) = offset
  lineAt_offsetOf : ∀ line ∈ listing.lines.toList, ∀ column, 0 ≤ column →
    (column < line.stop - line.start ∨
      listing.lines.back? = some line ∧ column ≤ line.stop - line.start) →
    listing.lineAt? (listing.offsetOf line.number (.finite column)) = some line ∧
      listing.offsetOf line.number (.finite column) - line.start = column
  offsetOf_bounds : ∀ line column,
    0 ≤ listing.offsetOf line column ∧ listing.offsetOf line column ≤ listing.eof
  offsetOf_mono : ∀ line line' column column', 1 ≤ line →
    (line < line' ∨ line = line' ∧ (compare column column').isLE) →
    listing.offsetOf line column ≤ listing.offsetOf line' column'
  offsetOf_behind : ∀ line column, (listing.lines.size : Int) < line →
    listing.offsetOf line column = listing.eof
  offsetOf_before : ∀ line column, line < 1 →
    listing.offsetOf line column = listing.offsetOf 1 column

/-! ## Columns of one line -/

section

variable {listing : Listing} {line : Int} {record : Line}

theorem bounds_offsetOf_of_record (h : listing.lines[(max line 1 - 1).toNat]? = some record)
    (hle : record.start ≤ record.stop) (column : Column) :
    record.start ≤ listing.offsetOf line column ∧
      listing.offsetOf line column ≤ record.stop := by
  unfold offsetOf
  rw [h]
  rcases column with n | (_ | _) <;> dsimp only <;> omega

/-- Along a line the offset does not fall. -/
theorem offsetOf_le_of_record (h : listing.lines[(max line 1 - 1).toNat]? = some record)
    (hle : record.start ≤ record.stop) {column column' : Column}
    (hcolumn : (compare column column').isLE) :
    listing.offsetOf line column ≤ listing.offsetOf line column' := by
  cases column with
  | finite n =>
      cases column' with
      | finite n' =>
          have : n ≤ n' := Int.isLE_compare.mp hcolumn
          simp only [offsetOf, h]
          omega
      | infinite negative =>
          cases negative with
          | false =>
              simp only [offsetOf, h]
              omega
          | true => exact absurd hcolumn Bool.false_ne_true
  | infinite negative =>
      cases negative with
      | true =>
          have hstart : listing.offsetOf line (.infinite true) = record.start := by
            simp only [offsetOf, h]
          rw [hstart]
          exact (bounds_offsetOf_of_record h hle column').1
      | false =>
          rcases column' with n' | (_ | _)
          · exact absurd hcolumn Bool.false_ne_true
          · exact Int.le_refl _
          · exact absurd hcolumn Bool.false_ne_true

theorem offsetOf_of_none (h : listing.lines[(max line 1 - 1).toNat]? = none) (column : Column) :
    listing.offsetOf line column = listing.eof := by
  unfold offsetOf
  rw [h]

end

namespace Lists

variable {listing : Listing} {text : List Char} {line : Line} {offset : Int}

theorem exists_back? (h : listing.Lists text) : ∃ line, listing.lines.back? = some line := by
  obtain ⟨pieces, last, hsplit, -⟩ := Text.exists_splitLines text
  have hlength := h.laidOut.length_eq
  rw [hsplit, List.length_append, List.length_singleton, Array.length_toList] at hlength
  exact ⟨listing.lines[listing.lines.size - 1], Array.getElem?_eq_getElem (by omega)⟩

theorem stop_of_back? (h : listing.Lists text) (hlast : text.getLast? ≠ some '\n')
    (hline : listing.lines.back? = some line) : line.stop = listing.eof := by
  rw [h.eof_eq]
  refine (h.laidOut.isPartition hlast).stop_last line ?_
  rw [Option.mem_def, ← hline, ← Array.getLast?_toList]

/-- The end of the text belongs to the last line. -/
theorem lineAt?_eof (h : listing.Lists text) :
    listing.lineAt? listing.eof = listing.lines.back? := by
  have hall : ∀ line ∈ listing.lines, decide (line.start ≤ listing.eof) = true := by
    intro line hline
    have := h.bounds (Array.mem_toList_iff.mpr hline)
    exact decide_eq_true (by omega)
  have hlo : 0 ≤ listing.eof := by
    rw [h.eof_eq]
    omega
  rw [lineAt?, if_neg (by simpa using hlo), partitionPoint_eq_size hall]
  rfl

theorem lineAt?_eq_none_iff (h : listing.Lists text) :
    listing.lineAt? offset = none ↔ offset < 0 ∨ listing.eof < offset := by
  constructor
  · intro hnone
    by_cases hout : offset < 0 ∨ listing.eof < offset
    · exact hout
    · rw [not_or, Int.not_lt, Int.not_lt] at hout
      rcases Int.lt_or_eq_of_le hout.2 with hlt | rfl
      · obtain ⟨line, hline, hholds⟩ := h.exists_holds hout.1 hlt
        rw [h.lineAt?_eq_some_of_holds hline hholds] at hnone
        cases hnone
      · obtain ⟨line, hline⟩ := h.exists_back?
        rw [h.lineAt?_eof, hline] at hnone
        cases hnone
  · intro hout
    rw [lineAt?, if_pos (by simpa using hout)]

theorem lineAt?_eq_some_iff_isLineAt (h : listing.Lists text) :
    listing.lineAt? offset = some line ↔ listing.IsLineAt offset line := by
  constructor
  · intro hfound
    have hwithin : ¬ (offset < 0 ∨ listing.eof < offset) := by
      rw [← h.lineAt?_eq_none_iff, hfound]
      exact Option.some_ne_none line
    rw [not_or, Int.not_lt, Int.not_lt] at hwithin
    rcases Int.lt_or_eq_of_le hwithin.2 with hlt | rfl
    · obtain ⟨hline, hholds⟩ := (h.lineAt?_eq_some_iff hwithin.1 hlt).mp hfound
      exact ⟨hline, Or.inl hholds⟩
    · rw [h.lineAt?_eof] at hfound
      exact ⟨Array.mem_toList_iff.mpr (Array.mem_of_back? hfound), Or.inr ⟨rfl, hfound⟩⟩
  · rintro ⟨hline, hholds | ⟨rfl, hlast⟩⟩
    · exact h.lineAt?_eq_some_of_holds hline hholds
    · rw [h.lineAt?_eof, hlast]

/-- A column that a line has leads to an offset that belongs to it. -/
theorem lineAt?_add_column (h : listing.Lists text) (hlast : text.getLast? ≠ some '\n')
    (hline : line ∈ listing.lines.toList) {column : Int} (hlo : 0 ≤ column)
    (hhi : column < line.stop - line.start ∨
      listing.lines.back? = some line ∧ column ≤ line.stop - line.start) :
    listing.lineAt? (line.start + column) = some line := by
  refine h.lineAt?_eq_some_iff_isLineAt.mpr ⟨hline, ?_⟩
  by_cases hlt : column < line.stop - line.start
  · exact Or.inl ⟨by omega, by omega⟩
  · obtain ⟨hback, hle⟩ := hhi.resolve_left hlt
    have := h.stop_of_back? hlast hback
    exact Or.inr ⟨by omega, hback⟩

theorem offsetOf_bounds (h : listing.Lists text) (number : Int) (column : Column) :
    0 ≤ listing.offsetOf number column ∧ listing.offsetOf number column ≤ listing.eof := by
  cases hrecord : listing.lines[(max number 1 - 1).toNat]? with
  | none =>
      rw [offsetOf_of_none hrecord, h.eof_eq]
      omega
  | some record =>
      have hbounds := h.bounds (Array.mem_toList_iff.mpr (Array.mem_of_getElem? hrecord))
      have := bounds_offsetOf_of_record hrecord hbounds.2.2.1 column
      omega

/-- Along a text the offset does not fall. -/
theorem offsetOf_mono (h : listing.Lists text) {number number' : Int} {column column' : Column}
    (hone : 1 ≤ number)
    (hle : number < number' ∨ number = number' ∧ (compare column column').isLE) :
    listing.offsetOf number column ≤ listing.offsetOf number' column' := by
  cases hrecord' : listing.lines[(max number' 1 - 1).toNat]? with
  | none =>
      rw [offsetOf_of_none hrecord']
      exact (h.offsetOf_bounds number column).2
  | some record' =>
      have hbounds' := h.bounds (Array.mem_toList_iff.mpr (Array.mem_of_getElem? hrecord'))
      rcases hle with hlt | ⟨rfl, hcolumn⟩
      · obtain ⟨hi', rfl⟩ := Array.getElem?_eq_some_iff.mp hrecord'
        have hi : (max number 1 - 1).toNat < listing.lines.size := by omega
        have hrecord := Array.getElem?_eq_getElem hi
        have hbounds := h.bounds (Array.mem_toList_iff.mpr (Array.getElem_mem hi))
        -- The line of the first place stops before the line of the second starts.
        have hapart := (List.pairwise_iff_getElem.mp h.laidOut.pairwise _ _ hi hi' (by omega)).2
        simp only [Array.getElem_toList] at hapart
        have := bounds_offsetOf_of_record hrecord hbounds.2.2.1 column
        have := bounds_offsetOf_of_record hrecord' hbounds'.2.2.1 column'
        omega
      · exact offsetOf_le_of_record hrecord' hbounds'.2.2.1 hcolumn

end Lists

/-- Offsets and places of each text are in accord. -/
theorem isAddressed_of_build {parse : Parse} {source : List Char} {wrapperLength : Int}
    {language : Option String} {listing : Listing}
    (h : (build parse source wrapperLength language).value = .ok listing) :
    listing.IsAddressed := by
  have hl := lists_of_build h
  refine {
    lineAt?_eq_none := fun offset => hl.lineAt?_eq_none_iff
    lineAt?_eq_some := fun offset line => hl.lineAt?_eq_some_iff_isLineAt
    offsetOf_lineAt := ?_
    lineAt_offsetOf := ?_
    offsetOf_bounds := hl.offsetOf_bounds
    offsetOf_mono := fun _ _ _ _ => hl.offsetOf_mono
    offsetOf_behind := ?_
    offsetOf_before := ?_ }
  · intro offset line hfound
    obtain ⟨hline, hholds | ⟨rfl, hback⟩⟩ := hl.lineAt?_eq_some_iff_isLineAt.mp hfound
    · exact hl.offsetOf_sub_start hline hholds.1 (Int.le_of_lt hholds.2)
    · have := hl.bounds hline
      have hstop := hl.stop_of_back? (Text.getLast?_trimEnd source) hback
      exact hl.offsetOf_sub_start hline (by omega) (by omega)
  · intro line hline column hlo hhi
    have hcolumn : line.start + column - line.start = column := by omega
    have hoffset : listing.offsetOf line.number (.finite column) = line.start + column := by
      have hback := hl.offsetOf_sub_start hline (by omega : line.start ≤ line.start + column)
        (by omega)
      rwa [hcolumn] at hback
    rw [hoffset]
    exact ⟨hl.lineAt?_add_column (Text.getLast?_trimEnd source) hline hlo hhi, hcolumn⟩
  · intro line column hlt
    exact offsetOf_of_none (Array.getElem?_eq_none (by omega)) column
  · intro line column hlt
    unfold offsetOf
    rw [Int.max_eq_right (by omega : line ≤ 1), Int.max_self]

/-- Two lines, the end of the text, a column too many, and a line too many. -/
theorem isAddressed_of_build_twoLines :
    ∃ listing, (build (fun _ _ => ⟨default, false⟩) "ab\r\nc \n".toList 0 none).value =
        .ok listing ∧
      listing.IsAddressed ∧ (listing.lineAt? 5).map Line.number = some 2 ∧
      listing.offsetOf 1 (.finite 9) = 4 ∧ listing.offsetOf 3 (.finite 0) = 5 := by
  have hbuild : (build (fun _ _ => ⟨default, false⟩) "ab\r\nc \n".toList 0 none).value =
      .ok ⟨5, 0, 0, #[⟨1, 0, 4, 2, false⟩, ⟨2, 4, 5, 5, false⟩], []⟩ := rfl
  exact ⟨_, hbuild, isAddressed_of_build hbuild, by decide, by decide, by decide⟩

end Listing

end Remap
