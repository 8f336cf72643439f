import Remap.Map.Mapping

/-!
# The orders of columns and mappings

All comparisons of mappings are lexicographic chains over lines, columns and
sources, so each is transitive and total as soon as the sources are compared
that way. `Mapping.compareGenerated` compares generated points first and breaks
ties by the original side, `Mapping.compareOriginal` the other way round.
-/

namespace Remap

open Std

namespace Column

instance : TransOrd Column where
  eq_swap {a b} := by
    cases a with
    | finite a =>
        cases b with
        | finite b => exact OrientedOrd.eq_swap (α := Int)
        | infinite negative => cases negative <;> rfl
    | infinite a =>
        cases b with
        | finite b => cases a <;> rfl
        | infinite b => cases a <;> cases b <;> rfl
  isLE_trans {a b c} hab hbc := by
    rcases a with a | (_ | _) <;> rcases b with b | (_ | _) <;> rcases c with c | (_ | _) <;>
      first
        | exact TransOrd.isLE_trans (α := Int) hab hbc
        | rfl
        | exact absurd hab Bool.false_ne_true
        | exact absurd hbc Bool.false_ne_true

instance : LawfulEqOrd Column where
  eq_of_compare {a b} h := by
    cases a with
    | finite a =>
        cases b with
        | finite b => rw [LawfulEqOrd.eq_of_compare (α := Int) h]
        | infinite negative => cases negative <;> cases h
    | infinite a =>
        cases b with
        | finite b => cases a <;> cases h
        | infinite b => cases a <;> cases b <;> first | rfl | cases h

end Column

namespace Mapping

variable {σ : Type}

instance : TransCmp (compareGeneratedPoint (σ := σ)) :=
  inferInstanceAs (TransCmp (compareLex (compareOn generatedLine) (compareOn generatedColumn)))

theorem compareGeneratedPoint_eq_iff {a b : Mapping σ} :
    a.compareGeneratedPoint b = .eq ↔
      a.generatedLine = b.generatedLine ∧ a.generatedColumn = b.generatedColumn := by
  simp [compareGeneratedPoint]

/-- By line and column in the original text, whichever text that is. -/
def compareOriginalPlace (a b : Mapping σ) : Ordering :=
  (compare (a.originalLine.getD 0) (b.originalLine.getD 0)).then <|
  compare (a.originalColumn.getD 0) (b.originalColumn.getD 0)

/-- Where a mapping lies relative to a line and column of its original text. -/
def compareToPlace (m : Mapping σ) (line column : Int) : Ordering :=
  (compare (m.originalLine.getD 0) line).then <| compare (m.originalColumn.getD 0) column

instance : TransCmp (compareOriginalPlace (σ := σ)) :=
  inferInstanceAs (TransCmp (compareLex (compareOn fun m : Mapping σ => m.originalLine.getD 0)
    (compareOn fun m => m.originalColumn.getD 0)))

theorem compareOriginalPlace_eq_iff {a b : Mapping σ} :
    a.compareOriginalPlace b = .eq ↔
      a.originalLine.getD 0 = b.originalLine.getD 0 ∧
        a.originalColumn.getD 0 = b.originalColumn.getD 0 := by
  simp [compareOriginalPlace]

section

variable [Ord σ] [SourceName σ]

/-- By all that breaks ties along the generated text. -/
def compareOriginalSide (a b : Mapping σ) : Ordering :=
  (compare a.standing b.standing).then (a.compareOriginalPlace b)

theorem compareGenerated_eq (a b : Mapping σ) :
    a.compareGenerated b = (a.compareGeneratedPoint b).then (a.compareOriginalSide b) := by
  simp only [compareGenerated, compareGeneratedPoint, compareOriginalSide, compareOriginalPlace,
    Ordering.then_assoc]

variable [TransOrd σ]

instance : TransCmp (compareOriginalSide (σ := σ)) :=
  inferInstanceAs (TransCmp (compareLex (compareOn standing) compareOriginalPlace))

instance : TransCmp (compareOriginalPoint (σ := σ)) :=
  inferInstanceAs (TransCmp (compareLex (compareOn sourceOrNone) compareOriginalPlace))

end

end Mapping

end Remap
