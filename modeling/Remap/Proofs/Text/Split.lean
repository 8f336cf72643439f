import Remap.Text.Split

/-!
# Pieces between separators

No piece of a split text holds the separator (`not_mem_of_mem_splitOn`). Pieces that do not
are found again when they are put together with separators between them
(`splitOn_intercalate`); only no pieces at all come to the same text as one empty piece.
-/

namespace Remap.Text

theorem not_mem_of_mem_splitOn {separator : Char} {text : List Char} :
    ∀ piece ∈ splitOn separator text, separator ∉ piece := by
  induction text with
  | nil => simp [splitOn]
  | cons c rest ih =>
      intro piece hpiece
      unfold splitOn at hpiece
      split at hpiece
      · rcases List.mem_cons.mp hpiece with rfl | hpiece
        · exact List.not_mem_nil
        · exact ih piece hpiece
      · next hc =>
          split at hpiece
          · next first pieces hsplit =>
              rw [hsplit] at ih
              rcases List.mem_cons.mp hpiece with rfl | hpiece
              · have hfirst := ih first List.mem_cons_self
                simp [Ne.symm hc, hfirst]
              · exact ih piece (List.mem_cons_of_mem _ hpiece)
          · rw [List.mem_singleton] at hpiece
            subst hpiece
            simpa using Ne.symm hc

theorem splitOn_of_not_mem {separator : Char} {piece : List Char} (h : separator ∉ piece) :
    splitOn separator piece = [piece] := by
  induction piece with
  | nil => rfl
  | cons c piece ih =>
      obtain ⟨hc, hpiece⟩ := not_or.mp (mt List.mem_cons.mpr h)
      rw [splitOn, if_neg (Ne.symm hc), ih hpiece]

theorem splitOn_append {separator : Char} {piece : List Char} (h : separator ∉ piece)
    (rest : List Char) :
    splitOn separator (piece ++ separator :: rest) =
      piece :: splitOn separator rest := by
  induction piece with
  | nil => rw [List.nil_append, splitOn, if_pos rfl]
  | cons c piece ih =>
      obtain ⟨hc, hpiece⟩ := not_or.mp (mt List.mem_cons.mpr h)
      rw [List.cons_append, splitOn, if_neg (Ne.symm hc), ih hpiece]

/-- Pieces that do not hold the separator are found again; no pieces are taken for an empty
one. -/
theorem splitOn_intercalate {separator : Char} {pieces : List (List Char)}
    (h : ∀ piece ∈ pieces, separator ∉ piece) :
    splitOn separator ([separator].intercalate pieces) =
      if pieces = [] then [[]] else pieces := by
  induction pieces with
  | nil => rfl
  | cons piece pieces ih =>
      have hpiece := h piece List.mem_cons_self
      have hrest := ih fun own hown => h own (List.mem_cons_of_mem _ hown)
      cases pieces with
      | nil =>
          rw [List.intercalate_singleton, splitOn_of_not_mem hpiece]
          rfl
      | cons next pieces =>
          rw [List.intercalate_cons_cons, List.append_assoc, List.singleton_append,
            splitOn_append hpiece, hrest]
          rfl

theorem mem_intercalate {separator c : Char} {pieces : List (List Char)}
    (h : c ∈ [separator].intercalate pieces) : c = separator ∨ ∃ piece ∈ pieces, c ∈ piece := by
  induction pieces with
  | nil => cases h
  | cons piece pieces ih =>
      cases pieces with
      | nil =>
          rw [List.intercalate_singleton] at h
          exact Or.inr ⟨piece, List.mem_cons_self, h⟩
      | cons next pieces =>
          rw [List.intercalate_cons_cons, List.append_assoc, List.singleton_append] at h
          rcases List.mem_append.mp h with h | h
          · exact Or.inr ⟨piece, List.mem_cons_self, h⟩
          · rcases List.mem_cons.mp h with h | h
            · exact Or.inl h
            · rcases ih h with h | ⟨own, hown, hc⟩
              · exact Or.inl h
              · exact Or.inr ⟨own, List.mem_cons_of_mem _ hown, hc⟩

end Remap.Text
