import Remap.Directive.Resolution

/-!
# Offsets in bytes and in characters

A byte offset falls between two characters of a text when some first characters
have that many bytes, and then it marks the index that is their number
(`Text.Marks`). There both conversions are exact: the offset becomes the index,
and the text between two such offsets can be cut out. The order of offsets is the
order of indices.
-/

namespace Remap.Text

/-! ## Sizes -/

theorem byteSize_cons (c : Char) (text : List Char) :
    byteSize (c :: text) = c.utf8Size + byteSize text := rfl

theorem byteSize_append (a b : List Char) : byteSize (a ++ b) = byteSize a + byteSize b := by
  induction a with
  | nil => exact (Nat.zero_add _).symm
  | cons c a ih =>
      rw [List.cons_append, byteSize_cons, byteSize_cons, ih]
      omega

theorem length_le_byteSize (text : List Char) : text.length ≤ byteSize text := by
  induction text with
  | nil => exact Nat.le_refl 0
  | cons c text ih =>
      have := c.utf8Size_pos
      rw [byteSize_cons, List.length_cons]
      omega

/-- Of a text of single bytes each beginning is one too. -/
theorem byteSize_eq_length_of_append {a b : List Char}
    (h : (a ++ b).length = byteSize (a ++ b)) : byteSize a = a.length := by
  rw [byteSize_append, List.length_append] at h
  have := length_le_byteSize a
  have := length_le_byteSize b
  omega

/-! ## Marks -/

/-- Whether a byte offset lies just before the character with an index, or at the
end of the text. -/
def Marks (text : List Char) (offset index : Nat) : Prop :=
  ∃ before after, text = before ++ after ∧ byteSize before = offset ∧ before.length = index

variable {text : List Char} {offset offset' index index' : Nat}

theorem Marks.le_length (h : Marks text offset index) : index ≤ text.length := by
  obtain ⟨before, after, rfl, -, rfl⟩ := h
  simp

/-- In a text of single bytes each offset marks itself. -/
theorem marks_self (hsingle : text.length = byteSize text) (h : offset ≤ text.length) :
    Marks text offset offset := by
  rw [← List.take_append_drop offset text] at hsingle
  have hlength : (text.take offset).length = offset := List.length_take_of_le h
  refine ⟨text.take offset, text.drop offset, (List.take_append_drop offset text).symm, ?_, hlength⟩
  rw [byteSize_eq_length_of_append hsingle, hlength]

/-- A later index is marked by a later offset. -/
theorem Marks.lt_of_lt (h : Marks text offset index) (h' : Marks text offset' index')
    (hlt : index < index') : offset < offset' := by
  obtain ⟨before, after, rfl, rfl, rfl⟩ := h
  obtain ⟨before', after', htext, rfl, rfl⟩ := h'
  rcases List.append_eq_append_iff.mp htext with ⟨between, rfl, -⟩ | ⟨between, rfl, -⟩
  · rw [List.length_append] at hlt
    have := length_le_byteSize between
    rw [byteSize_append]
    omega
  · rw [List.length_append] at hlt
    omega

theorem Marks.index_le_of_le (h : Marks text offset index) (h' : Marks text offset' index')
    (hle : offset ≤ offset') : index ≤ index' := by
  refine Nat.le_of_not_lt fun hlt => ?_
  have := h'.lt_of_lt h hlt
  omega

/-! ## Conversions -/

theorem charIndex?_append (before after : List Char) :
    charIndex? (before ++ after) (byteSize before) = some before.length := by
  induction before with
  | nil =>
      cases after with
      | nil => rfl
      | cons c after => simp [charIndex?, byteSize, c.utf8Size_pos]
  | cons c before ih =>
      rw [List.cons_append, charIndex?, byteSize_cons, if_neg (by omega), Nat.add_sub_cancel_left,
        ih]
      rfl

theorem splitAtByte?_append (before after : List Char) :
    splitAtByte? (before ++ after) (byteSize before) = some (before, after) := by
  induction before with
  | nil => cases after <;> simp [splitAtByte?, byteSize]
  | cons c before ih =>
      have := c.utf8Size_pos
      rw [List.cons_append, splitAtByte?, byteSize_cons, if_neg (by omega), if_neg (by omega),
        Nat.add_sub_cancel_left, ih]
      rfl

/-- A piece is cut out of a text by its bytes. -/
theorem cut?_append (before piece after : List Char) :
    cut? (before ++ (piece ++ after)) (byteSize before) (byteSize before + byteSize piece) =
      some piece := by
  cases piece with
  | nil => exact if_pos (by simp [byteSize])
  | cons c piece =>
      have hpos : 0 < byteSize (c :: piece) := by
        have := c.utf8Size_pos
        rw [byteSize_cons]
        omega
      rw [cut?, if_neg, splitAtByte?_append, Nat.add_sub_cancel_left]
      · simp only [Option.bind_eq_bind, Option.bind_some, splitAtByte?_append]
        rfl
      · simp only [byteSize_append, Bool.or_eq_true, decide_eq_true_eq]
        omega

/-- Between two marks, in whichever order, the text can be cut out. -/
theorem exists_cut?_of_marks (h : Marks text offset index) (h' : Marks text offset' index') :
    ∃ piece, cut? text offset offset' = some piece := by
  obtain ⟨before, after, rfl, rfl, rfl⟩ := h
  obtain ⟨before', after', htext, rfl, rfl⟩ := h'
  rw [cut?]
  split
  · exact ⟨[], rfl⟩
  · next hnonempty =>
      simp only [Bool.or_eq_true, decide_eq_true_eq, not_or, Nat.not_le] at hnonempty
      rcases List.append_eq_append_iff.mp htext with ⟨between, rfl, rfl⟩ | ⟨between, rfl, -⟩
      · rw [splitAtByte?_append, byteSize_append, Nat.add_sub_cancel_left]
        exact ⟨between, by simp [splitAtByte?_append]⟩
      · rw [byteSize_append] at hnonempty
        omega

end Remap.Text

namespace Remap

open Text

theorem charOffset?_of_marks {text : List Char} {offset index : Nat}
    (h : Marks text offset index) : charOffset? text offset = some index := by
  obtain ⟨before, after, rfl, rfl, rfl⟩ := h
  rw [charOffset?]
  split
  · next hsingle => rw [byteSize_eq_length_of_append hsingle]
  · exact charIndex?_append before after

theorem charOffset_of_marks {text : List Char} {offset index : Nat} (h : Marks text offset index) :
    charOffset text offset = .ok index := by
  rw [charOffset, charOffset?_of_marks h]

/-! ## Widening -/

section

variable {text : List Char} {i j : Nat}

theorem le_widen (text : List Char) (i : Nat) : i ≤ widen text i := by
  simp [widen]

theorem widen_le_length (h : i ≤ text.length) : widen text i ≤ text.length := by
  have := (List.takeWhile_prefix (l := text.drop i) isTerminator).length_le
  rw [List.length_drop] at this
  simp only [widen]
  omega

/-- Between an end and the widened end there are terminators only. -/
theorem isTerminator_of_lt_widen (hi : i ≤ j) (hj : j < widen text i) :
    ∃ c, text[j]? = some c ∧ isTerminator c := by
  obtain ⟨k, rfl⟩ := Nat.exists_eq_add_of_le hi
  rw [widen, Nat.add_lt_add_iff_left] at hj
  have hprefix := List.takeWhile_prefix (l := text.drop i) isTerminator
  refine ⟨_, ?_, List.all_eq_true.mp List.all_takeWhile _ (List.getElem_mem hj)⟩
  rw [← List.getElem?_drop, hprefix.getElem hj, List.getElem?_eq_getElem]

/-- The widened end is the end of the text, or something else stands there. -/
theorem widen_eq_length_or (h : i ≤ text.length) :
    widen text i = text.length ∨ ∃ c, text[widen text i]? = some c ∧ ¬ isTerminator c := by
  have hsplit := List.takeWhile_append_dropWhile (p := isTerminator) (l := text.drop i)
  cases hrest : (text.drop i).dropWhile isTerminator with
  | nil =>
      have hlength := congrArg List.length hsplit
      rw [hrest, List.append_nil, List.length_drop] at hlength
      simp only [widen]
      omega
  | cons c rest =>
      refine Or.inr ⟨c, ?_, ?_⟩
      · rw [hrest] at hsplit
        rw [widen, ← List.getElem?_drop]
        generalize (text.drop i).takeWhile isTerminator = run at hsplit ⊢
        rw [← hsplit]
        simp
      · have := List.head?_dropWhile_not isTerminator (text.drop i)
        rw [hrest] at this
        simpa using this

theorem widen_mono (h : i ≤ j) : widen text i ≤ widen text j := by
  refine Nat.le_of_not_lt fun hlt => ?_
  -- What stops the later widening would have stopped the earlier one.
  have hle := le_widen text j
  obtain ⟨c, hc, hterminator⟩ := isTerminator_of_lt_widen (Nat.le_trans h hle) hlt
  obtain ⟨hlength, -⟩ := List.getElem?_eq_some_iff.mp hc
  rcases widen_eq_length_or (Nat.le_of_lt (Nat.lt_of_le_of_lt hle hlength)) with
    hend | ⟨other, hother, hnot⟩
  · omega
  · cases hc.symm.trans hother
    exact hnot hterminator

end

end Remap
