/-!
# Prefixes, suffixes and pieces of a text

`after?` is the elimination form of a known prefix: it gives what follows it.
-/

namespace Remap.Text

/-- What follows `lead` in a text that starts with it. -/
def after? : List Char → List Char → Option (List Char)
  | [], text => some text
  | _ :: _, [] => none
  | p :: lead, c :: text => if p = c then after? lead text else none

theorem after?_eq_some_iff {lead text rest : List Char} :
    after? lead text = some rest ↔ text = lead ++ rest := by
  induction lead generalizing text with
  | nil => simp [after?, eq_comm]
  | cons p lead ih =>
    cases text with
    | nil => simp [after?]
    | cons c text =>
      simp only [after?, List.cons_append, List.cons.injEq]
      split
      · next h => simp [ih, h]
      · next h => simp [Ne.symm h]

def startsWith (lead text : List Char) : Bool := (after? lead text).isSome

def endsWith (tail text : List Char) : Bool := (after? tail.reverse text.reverse).isSome

/-- Whether a text holds a piece anywhere. -/
def holds (piece : List Char) : List Char → Bool
  | [] => piece.isEmpty
  | c :: rest => startsWith piece (c :: rest) || holds piece rest

theorem startsWith_iff {lead text : List Char} : startsWith lead text ↔ ∃ rest, text = lead ++ rest := by
  simp [startsWith, Option.isSome_iff_exists, after?_eq_some_iff]

theorem endsWith_iff {tail text : List Char} :
    endsWith tail text ↔ ∃ front, text = front ++ tail := by
  simp only [endsWith, Option.isSome_iff_exists, after?_eq_some_iff]
  constructor
  · rintro ⟨front, h⟩
    refine ⟨front.reverse, ?_⟩
    rw [← List.reverse_reverse text, h, List.reverse_append, List.reverse_reverse]
  · rintro ⟨front, rfl⟩
    exact ⟨front.reverse, List.reverse_append⟩

theorem holds_iff {piece text : List Char} :
    holds piece text ↔ ∃ before after, text = before ++ piece ++ after := by
  induction text with
  | nil =>
    simp only [holds, List.isEmpty_iff]
    constructor
    · rintro rfl
      exact ⟨[], [], rfl⟩
    · rintro ⟨before, after, h⟩
      have h := h.symm
      simp only [List.append_eq_nil_iff] at h
      exact h.1.2
  | cons c rest ih =>
    simp only [holds, Bool.or_eq_true, startsWith_iff, ih]
    constructor
    · rintro (⟨after, h⟩ | ⟨before, after, h⟩)
      · exact ⟨[], after, by simpa using h⟩
      · exact ⟨c :: before, after, by simp [h]⟩
    · rintro ⟨before, after, h⟩
      cases before with
      | nil => exact .inl ⟨after, by simpa using h⟩
      | cons d before =>
        simp only [List.cons_append, List.cons.injEq] at h
        exact .inr ⟨before, after, h.2⟩

end Remap.Text
