import Mathlib.Order.Bounds.Basic
import Remap.Proofs.Text.Offsets

/-!
# Characters of an encoded text

Each byte of an encoded text belongs to one of its characters (`Text.BelongsTo`).
A table with an entry for each byte says to which (`Text.indexTable`), and a walk
through the text finds that entry without a table (`Text.getElem?_indexTable`).

A text with as many bytes as characters needs neither, since each of its offsets is
taken as it is. `charOffset?_eq_charIndex?` says that this is what the walk finds
too, so byte offsets translate exactly on both routes (`translatesBytes_charOffset`).
-/

namespace Remap

namespace Text

variable {text : List Char} {offset index : Nat}

/-! ## Sizes -/

theorem size_utf8Encode (text : List Char) : text.utf8Encode.size = byteSize text := by
  induction text with
  | nil => rfl
  | cons c text ih =>
      rw [List.utf8Encode_cons, ByteArray.size_append, ih, List.utf8Encode_singleton,
        List.size_toByteArray, String.length_utf8EncodeChar, byteSize_cons]

theorem byteSize_le_of_prefix {a b : List Char} (h : a <+: b) : byteSize a ≤ byteSize b := by
  obtain ⟨rest, rfl⟩ := h
  rw [byteSize_append]
  exact Nat.le_add_right _ _

/-- The first characters of a text, up to any of them, mark the index behind them. -/
theorem marks_take (h : index ≤ text.length) :
    Marks text (byteSize (text.take index)) index :=
  ⟨text.take index, text.drop index, (List.take_append_drop index text).symm, rfl,
    List.length_take_of_le h⟩

/-! ## The character of a byte -/

/-- Whether the byte at an offset of the encoded text belongs to the character at an
index. -/
def BelongsTo (text : List Char) (offset index : Nat) : Prop :=
  ∃ before c after, text = before ++ c :: after ∧ before.length = index ∧
    before.utf8Encode.size ≤ offset ∧ offset < (before ++ [c]).utf8Encode.size

/-- The walk through a text ends at the character that the byte belongs to. -/
theorem exists_charIndex? (h : offset < byteSize text) :
    ∃ index, charIndex? text offset = some index ∧ BelongsTo text offset index := by
  induction text generalizing offset with
  | nil => exact absurd h (Nat.not_lt_zero offset)
  | cons c text ih =>
      rw [byteSize_cons] at h
      rw [charIndex?]
      by_cases hc : offset < c.utf8Size
      · refine ⟨0, if_pos hc, [], c, text, rfl, rfl, Nat.zero_le offset, ?_⟩
        rw [size_utf8Encode]
        exact hc
      · have hrest : offset - c.utf8Size < byteSize text := by omega
        obtain ⟨index, hindex, before, d, after, rfl, rfl, hlo, hhi⟩ := ih hrest
        refine ⟨before.length + 1, ?_, c :: before, d, after, rfl, rfl, ?_, ?_⟩
        · rw [if_neg hc, hindex]
          rfl
        · rw [size_utf8Encode] at hlo ⊢
          rw [byteSize_cons]
          omega
        · rw [size_utf8Encode] at hhi ⊢
          rw [List.cons_append, byteSize_cons]
          omega

/-- Whether an index is the greatest whose character starts at or before an offset, where
the end of a text counts as the start of one more. -/
def IsLastStart (text : List Char) (offset index : Nat) : Prop :=
  IsGreatest {i | i ≤ text.length ∧ (text.take i).utf8Encode.size ≤ offset} index

theorem BelongsTo.isLastStart (h : BelongsTo text offset index) :
    IsLastStart text offset index := by
  obtain ⟨before, c, after, rfl, rfl, hlo, hhi⟩ := h
  constructor
  · refine ⟨by simp, ?_⟩
    rwa [List.take_left]
  · rintro i ⟨-, hi⟩
    refine Nat.le_of_not_lt fun hlt => ?_
    -- Otherwise the whole character would stop at or before the offset.
    have hprefix : before ++ [c] <+: (before ++ c :: after).take i := by
      refine List.prefix_take_iff.mpr ⟨⟨after, by simp⟩, ?_⟩
      rw [List.length_append, List.length_singleton]
      exact hlt
    have hle := byteSize_le_of_prefix hprefix
    rw [size_utf8Encode] at hi hhi
    omega

theorem isLastStart_length (text : List Char) :
    IsLastStart text text.utf8Encode.size text.length := by
  refine ⟨⟨Nat.le_refl _, ?_⟩, fun i hi => hi.1⟩
  rw [List.take_length]

/-- Later offsets have no earlier last starts. -/
theorem IsLastStart.le {offset' index' : Nat} (h : IsLastStart text offset index)
    (h' : IsLastStart text offset' index') (hle : offset ≤ offset') : index ≤ index' :=
  h.mono h' fun _ hi => ⟨hi.1, Nat.le_trans hi.2 hle⟩

/-! ## The table -/

/-- For each byte of a text the index of its character, where the first has the index
`start`, and behind the last byte the index behind the last character. -/
def indexTable (start : Nat) : List Char → List Nat
  | [] => [start]
  | c :: rest =>
    List.replicate (String.utf8EncodeChar c).length start ++ indexTable (start + 1) rest

theorem getElem?_indexTable (text : List Char) (start offset : Nat) :
    (indexTable start text)[offset]? = (charIndex? text offset).map (start + ·) := by
  induction text generalizing start offset with
  | nil =>
      rw [indexTable, charIndex?]
      cases offset <;> rfl
  | cons c text ih =>
      rw [indexTable, charIndex?, List.getElem?_append, List.length_replicate,
        String.length_utf8EncodeChar]
      by_cases hc : offset < c.utf8Size
      · rw [if_pos hc, if_pos hc, List.getElem?_replicate, if_pos hc]
        rfl
      · rw [if_neg hc, if_neg hc, ih, Option.map_map]
        congr 1
        funext i
        exact Nat.add_right_comm start 1 i

/-- Characters of one, two, three and four bytes. -/
example : indexTable 0 "aé€😀".toList = [0, 1, 1, 2, 2, 2, 3, 3, 3, 3, 4] := by
  decide

end Text

open Text

/-! ## Translations -/

/-- Both routes agree: where offsets are taken as they are, the walk finds the same. -/
theorem charOffset?_eq_charIndex? {text : List Char} {offset : Nat} (h : offset ≤ byteSize text) :
    charOffset? text offset = charIndex? text offset := by
  rw [charOffset?]
  split
  · next hsingle =>
      obtain ⟨before, after, rfl, rfl, hlength⟩ := marks_self hsingle (hsingle ▸ h)
      rw [charIndex?_append, hlength]
  · rfl

/-- An offset within the encoded text has an index, which the walk finds. -/
theorem exists_charOffset {text : List Char} {offset : Nat} (h : offset ≤ text.utf8Encode.size) :
    ∃ index, charOffset text offset = .ok index ∧ charIndex? text offset = some index ∧
      IsLastStart text offset index := by
  rw [size_utf8Encode] at h
  rw [charOffset, charOffset?_eq_charIndex? h]
  rcases Nat.lt_or_eq_of_le h with hlt | rfl
  · obtain ⟨index, hindex, hbyte⟩ := exists_charIndex? hlt
    rw [hindex]
    exact ⟨index, rfl, rfl, hbyte.isLastStart⟩
  · have hstop := charIndex?_append text []
    rw [List.append_nil] at hstop
    rw [hstop, ← size_utf8Encode]
    exact ⟨text.length, rfl, rfl, isLastStart_length text⟩

/-- A translation of the byte offsets of a text into indices of its characters is
exact. -/
structure TranslatesBytes (text : List Char) (translate : Nat → Except ResolutionError Nat) :
    Prop where
  byte : ∀ offset < text.utf8Encode.size, ∃ index, translate offset = .ok index ∧
    BelongsTo text offset index
  stop : translate text.utf8Encode.size = .ok text.length
  greatest : ∀ offset ≤ text.utf8Encode.size, ∃ index, translate offset = .ok index ∧
    IsLastStart text offset index
  inverse : ∀ index ≤ text.length, translate (text.take index).utf8Encode.size = .ok index
  monotone : ∀ offset offset' index index', offset ≤ offset' → offset' ≤ text.utf8Encode.size →
    translate offset = .ok index → translate offset' = .ok index' → index ≤ index'
  listed : ∀ offset ≤ text.utf8Encode.size, ∃ index, translate offset = .ok index ∧
    (indexTable 0 text)[offset]? = some index
  shortcut : text.length = text.utf8Encode.size → ∀ offset ≤ text.utf8Encode.size,
    translate offset = .ok offset ∧ (indexTable 0 text)[offset]? = some offset

/-- Byte offsets of each text translate exactly. -/
theorem translatesBytes_charOffset (text : List Char) :
    TranslatesBytes text (charOffset text) := by
  have hinverse (index : Nat) (h : index ≤ text.length) :
      charOffset text (text.take index).utf8Encode.size = .ok index := by
    rw [size_utf8Encode]
    exact charOffset_of_marks (marks_take h)
  have hlisted (offset : Nat) (h : offset ≤ text.utf8Encode.size) :
      ∃ index, charOffset text offset = .ok index ∧
        (indexTable 0 text)[offset]? = some index := by
    obtain ⟨index, hoffset, hindex, -⟩ := exists_charOffset h
    refine ⟨index, hoffset, ?_⟩
    rw [getElem?_indexTable, hindex, Option.map_some, Nat.zero_add]
  refine {
    byte := ?_
    stop := ?_
    greatest := ?_
    inverse := hinverse
    monotone := ?_
    listed := hlisted
    shortcut := ?_ }
  · intro offset h
    obtain ⟨index, hoffset, hindex, -⟩ := exists_charOffset (Nat.le_of_lt h)
    rw [size_utf8Encode] at h
    obtain ⟨own, hown, hbyte⟩ := exists_charIndex? h
    rw [hindex] at hown
    cases hown
    exact ⟨index, hoffset, hbyte⟩
  · have := hinverse text.length (Nat.le_refl _)
    rwa [List.take_length] at this
  · intro offset h
    obtain ⟨index, hoffset, -, hlast⟩ := exists_charOffset h
    exact ⟨index, hoffset, hlast⟩
  · intro offset offset' index index' hle h' hindex hindex'
    obtain ⟨own, hown, -, hlast⟩ := exists_charOffset (Nat.le_trans hle h')
    obtain ⟨own', hown', -, hlast'⟩ := exists_charOffset h'
    cases hown.symm.trans hindex
    cases hown'.symm.trans hindex'
    exact hlast.le hlast' hle
  · intro hsingle offset h
    have hself : charOffset text offset = .ok offset := by
      rw [size_utf8Encode] at hsingle
      rw [charOffset, charOffset?, if_pos hsingle]
    obtain ⟨index, hindex, hentry⟩ := hlisted offset h
    cases hself.symm.trans hindex
    exact ⟨hself, hentry⟩

end Remap
