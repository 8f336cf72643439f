import Remap.Directive.LineDirective

/-!
# The forms of directives on a line

A directive that has its line to itself is a block comment among characters that
belong to no word (`IsBlock`) or a line comment among blanks (`IsComment`). No text has
both forms, and each form fixes the digits of the count, so reading a directive comes
down to finding which form a text has (`ofText_of_isWhole`, `ofText_of_not_isWhole`).

Both readers cut a text into runs of characters of one kind. A run ends where a
character of another kind stands, which is all that has to be known to find the cuts
again (`takeWhile_append_of_head?`).
-/

namespace Remap

namespace Text

/-! ## Runs of characters -/

theorem takeWhile_append_of_head? {p : Char → Bool} {run rest : List Char}
    (hrun : ∀ c ∈ run, p c) (hrest : ∀ c ∈ rest.head?, ¬ p c) :
    (run ++ rest).takeWhile p = run := by
  rw [List.takeWhile_append_of_pos hrun]
  cases rest with
  | nil => rw [List.takeWhile_nil, List.append_nil]
  | cons c rest => rw [List.takeWhile_cons_of_neg (hrest c rfl), List.append_nil]

theorem dropWhile_append_of_head? {p : Char → Bool} {run rest : List Char}
    (hrun : ∀ c ∈ run, p c) (hrest : ∀ c ∈ rest.head?, ¬ p c) :
    (run ++ rest).dropWhile p = rest := by
  rw [List.dropWhile_append_of_pos hrun]
  cases rest with
  | nil => rfl
  | cons c rest => rw [List.dropWhile_cons_of_neg (hrest c rfl)]

theorem not_isBlank_of_isDigit {c : Char} (h : c.isDigit) : ¬ isBlank c := by
  have hrange : 48 ≤ c.toNat ∧ c.toNat ≤ 57 := by
    simpa [Char.isDigit, UInt32.le_iff_toNat_le] using h
  simp only [isBlank, CodeRanges.contains, blankRanges, List.any_cons, List.any_nil,
    Bool.or_eq_true, Bool.and_eq_true, decide_eq_true_eq, Bool.false_eq_true, or_false]
  intro hblank
  omega

end Text

namespace LineDirective

/-! ## Block comments -/

/-- A block comment with a directive, among characters of no word. -/
structure IsBlock (text digits : List Char) : Prop where
  exists_parts : ∃ lead spaces tail,
    text = lead ++ ("/* ".toList ++ ("c8 ignore next ".toList ++
      (digits ++ (spaces ++ ("*/".toList ++ tail))))) ∧
    (∀ c ∈ lead, ¬ Text.isWord c) ∧ (∀ c ∈ spaces, c = ' ') ∧ ∀ c ∈ tail, ¬ Text.isWord c
  isDigit : ∀ c ∈ digits, c.isDigit

theorem blockDigits?_eq (text : List Char) :
    blockDigits? text =
      if Text.endsWith "/* ".toList (text.takeWhile fun c => !Text.isWord c) then
        (Text.after? "c8 ignore next ".toList (text.dropWhile fun c => !Text.isWord c)).bind
          fun rest => (Text.after? "*/".toList
            ((rest.dropWhile Char.isDigit).dropWhile (· = ' '))).bind fun tail =>
              if tail.all fun c => !Text.isWord c then some (rest.takeWhile Char.isDigit) else none
      else none := by
  unfold blockDigits?
  dsimp only
  cases Text.endsWith "/* ".toList (text.takeWhile fun c => !Text.isWord c) <;> rfl

theorem isBlock_of_blockDigits? {text digits : List Char} (h : blockDigits? text = some digits) :
    IsBlock text digits := by
  rw [blockDigits?_eq] at h
  split at h
  · next hends =>
      obtain ⟨lead, hlead⟩ := Text.endsWith_iff.mp hends
      obtain ⟨rest, hrest, h⟩ := Option.bind_eq_some_iff.mp h
      obtain ⟨tail, htail, h⟩ := Option.bind_eq_some_iff.mp h
      rw [Text.after?_eq_some_iff] at hrest htail
      split at h
      · next hall =>
          cases h
          refine ⟨⟨lead, (rest.dropWhile Char.isDigit).takeWhile (· = ' '), tail, ?_, ?_, ?_, ?_⟩,
            List.all_eq_true.mp List.all_takeWhile⟩
          · rw [← htail, List.takeWhile_append_dropWhile, List.takeWhile_append_dropWhile,
              ← hrest, ← List.append_assoc, ← hlead, List.takeWhile_append_dropWhile]
          · intro c hc
            have hall := List.all_eq_true.mp (List.all_takeWhile (l := text))
              c (hlead ▸ List.mem_append_left _ hc)
            simpa using hall
          · intro c hc
            simpa using List.all_eq_true.mp List.all_takeWhile c hc
          · intro c hc
            simpa using List.all_eq_true.mp hall c hc
      · cases h
  · cases h

theorem blockDigits?_of_isBlock {text digits : List Char} (h : IsBlock text digits) :
    blockDigits? text = some digits := by
  obtain ⟨⟨lead, spaces, tail, rfl, hlead, hspaces, htail⟩, hdigits⟩ := h
  have hopening : ∀ c ∈ lead ++ "/* ".toList, (!Text.isWord c) = true := by
    intro c hc
    rcases List.mem_append.mp hc with hc | hc
    · simpa using hlead c hc
    · exact List.all_eq_true.mp (show "/* ".toList.all (!Text.isWord ·) = true from rfl) c hc
  have hword : ∀ c ∈ ("c8 ignore next ".toList ++
      (digits ++ (spaces ++ ("*/".toList ++ tail)))).head?, ¬ (!Text.isWord c) = true := by
    rintro c ⟨⟩
    decide
  have hstar : ∀ c ∈ ("*/".toList ++ tail).head?, ¬ decide (c = ' ') = true := by
    rintro c ⟨⟩
    decide
  have hdigitsEnd : ∀ c ∈ (spaces ++ ("*/".toList ++ tail)).head?, ¬ c.isDigit := by
    intro c hc
    cases spaces with
    | nil =>
        cases hc
        decide
    | cons space spaces =>
        cases hc
        rw [hspaces c List.mem_cons_self]
        decide
  rw [blockDigits?_eq, ← List.append_assoc, Text.takeWhile_append_of_head? hopening hword,
    Text.dropWhile_append_of_head? hopening hword, if_pos (Text.endsWith_iff.mpr ⟨lead, rfl⟩),
    Text.after?_eq_some_iff.mpr rfl, Option.bind_some,
    Text.takeWhile_append_of_head? hdigits hdigitsEnd,
    Text.dropWhile_append_of_head? hdigits hdigitsEnd,
    Text.dropWhile_append_of_head? (fun c hc => decide_eq_true (hspaces c hc)) hstar,
    Text.after?_eq_some_iff.mpr rfl, Option.bind_some, if_pos]
  exact List.all_eq_true.mpr fun c hc => by simpa using htail c hc

/-! ## Line comments -/

/-- A line comment with a directive, among blanks. -/
structure IsComment (text digits : List Char) : Prop where
  exists_parts : ∃ lead tail,
    text = lead ++ ("// c8 ignore next".toList ++
      ((if digits = [] then [] else ' ' :: digits) ++ tail)) ∧
    (∀ c ∈ lead, Text.isBlank c) ∧ ∀ c ∈ tail, Text.isBlank c
  isDigit : ∀ c ∈ digits, c.isDigit

theorem isComment_of_commentDigits? {text digits : List Char}
    (h : commentDigits? text = some digits) : IsComment text digits := by
  obtain ⟨rest, hrest, h⟩ := Option.bind_eq_some_iff.mp h
  have hlead : ∀ c ∈ text.takeWhile Text.isBlank, Text.isBlank c :=
    List.all_eq_true.mp List.all_takeWhile
  rw [Text.after?_eq_some_iff] at hrest
  have htext : text = text.takeWhile Text.isBlank ++ ("// c8 ignore next".toList ++ rest) := by
    rw [← hrest, List.takeWhile_append_dropWhile]
  split at h
  · next hall =>
      cases h
      exact ⟨⟨_, rest, htext, hlead, List.all_eq_true.mp hall⟩, by simp⟩
  · split at h
    · next _ count _ =>
        dsimp only at h
        split at h
        · next hcount =>
            cases h
            simp only [Bool.and_eq_true, Bool.not_eq_true', List.isEmpty_eq_false_iff] at hcount
            refine ⟨⟨_, count.dropWhile Char.isDigit, ?_, hlead,
              List.all_eq_true.mp hcount.2⟩, List.all_eq_true.mp List.all_takeWhile⟩
            rw [if_neg hcount.1, List.cons_append, List.takeWhile_append_dropWhile]
            exact htext
        · cases h
    · cases h

theorem commentDigits?_of_isComment {text digits : List Char} (h : IsComment text digits) :
    commentDigits? text = some digits := by
  obtain ⟨⟨lead, tail, rfl, hlead, htail⟩, hdigits⟩ := h
  have hslash : ∀ c ∈ ("// c8 ignore next".toList ++
      ((if digits = [] then [] else ' ' :: digits) ++ tail)).head?, ¬ Text.isBlank c := by
    rintro c ⟨⟩
    decide
  unfold commentDigits?
  rw [Text.dropWhile_append_of_head? hlead hslash, Text.after?_eq_some_iff.mpr rfl]
  by_cases hnone : digits = []
  · rw [if_pos hnone, hnone]
    exact if_pos (List.all_eq_true.mpr htail)
  · obtain ⟨digit, hdigit⟩ := List.exists_mem_of_ne_nil _ hnone
    have hblank : ¬ (' ' :: digits ++ tail).all Text.isBlank = true := fun hall =>
      Text.not_isBlank_of_isDigit (hdigits digit hdigit) (List.all_eq_true.mp hall digit
        (List.mem_append_left _ (List.mem_cons_of_mem _ hdigit)))
    have htailEnd : ∀ c ∈ tail.head?, ¬ c.isDigit := fun c hc hdigit =>
      Text.not_isBlank_of_isDigit hdigit (htail c (List.mem_of_head? hc))
    rw [if_neg hnone]
    refine (if_neg hblank).trans ?_
    simp only [List.cons_append]
    rw [Text.takeWhile_append_of_head? hdigits htailEnd,
      Text.dropWhile_append_of_head? hdigits htailEnd, if_pos]
    simpa [hnone] using htail

/-- No text has both forms. -/
theorem not_isComment_of_isBlock {text digits digits' : List Char} (h : IsBlock text digits) :
    ¬ IsComment text digits' := by
  rintro ⟨⟨blanks, tail', heq, hblanks, -⟩, -⟩
  obtain ⟨⟨lead, spaces, tail, rfl, hlead, -⟩, -⟩ := h
  have hblock : "/* ".toList = ['/', '*', ' '] := rfl
  have hcomment : "// c8 ignore next".toList = '/' :: '/' :: ' ' :: 'c' :: "8 ignore next".toList :=
    rfl
  rw [hblock, hcomment] at heq
  simp only [List.cons_append, List.nil_append] at heq
  rcases List.append_eq_append_iff.mp heq with ⟨between, rfl, hbetween⟩ | ⟨between, rfl, hbetween⟩
  · -- The block comment starts among the blanks, or where the line comment does.
    rcases between with _ | ⟨c, between⟩
    · simp at hbetween
    · simp only [List.cons_append, List.cons.injEq] at hbetween
      rw [← hbetween.1] at hblanks
      exact absurd (hblanks '/' (by simp)) (by decide)
  · -- It starts at one of the first three characters of the line comment, or behind a word.
    rcases between with _ | ⟨c, _ | ⟨d, _ | ⟨e, _ | ⟨f, between⟩⟩⟩⟩
    · simp at hbetween
    · simp at hbetween
    · simp at hbetween
    · simp at hbetween
    · simp only [List.cons_append, List.cons.injEq] at hbetween
      rw [← hbetween.2.2.2.1] at hlead
      exact absurd (by decide) (hlead 'c' (by simp))

/-! ## Directives with a line to themselves -/

/-- A directive that has its line to itself, with the digits of its count. -/
def IsWhole (text digits : List Char) : Prop := IsBlock text digits ∨ IsComment text digits

/-- The count that digits stand for. -/
def countOf (digits : List Char) : Nat := if digits = [] then 1 else Digits.toNat 10 digits

/-- A directive among code. -/
def IsInline (text : List Char) : Prop :=
  ∃ before after, text = before ++ "/* c8 ignore next */".toList ++ after

theorem digits?_eq_some_iff {text digits : List Char} :
    (blockDigits? text).or (commentDigits? text) = some digits ↔ IsWhole text digits := by
  rw [Option.or_eq_some_iff]
  constructor
  · rintro (hblock | ⟨-, hcomment⟩)
    · exact Or.inl (isBlock_of_blockDigits? hblock)
    · exact Or.inr (isComment_of_commentDigits? hcomment)
  · rintro (hblock | hcomment)
    · exact Or.inl (blockDigits?_of_isBlock hblock)
    · refine Or.inr ⟨?_, commentDigits?_of_isComment hcomment⟩
      refine Option.eq_none_iff_forall_ne_some.mpr fun own hown => ?_
      exact not_isComment_of_isBlock (isBlock_of_blockDigits? hown) hcomment

theorem IsWhole.digits_eq {text digits digits' : List Char} (h : IsWhole text digits)
    (h' : IsWhole text digits') : digits = digits' :=
  Option.some.inj ((digits?_eq_some_iff.mpr h).symm.trans (digits?_eq_some_iff.mpr h'))

theorem ofText_of_isWhole {text digits : List Char} (h : IsWhole text digits)
    (hlength : digits.length ≤ DigitLimit.allowed) :
    ofText text = .ok (some (run (countOf digits))) := by
  have hcount : count digits = .ok (countOf digits) := by
    cases digits with
    | nil => rfl
    | cons digit digits => exact if_pos hlength
  rw [ofText, digits?_eq_some_iff.mpr h]
  simp only [hcount]
  rfl

theorem ofText_of_isWhole_of_lt {text digits : List Char} (h : IsWhole text digits)
    (hlength : DigitLimit.allowed < digits.length) : ofText text = .error ⟨digits.length⟩ := by
  have hcount : count digits = .error ⟨digits.length⟩ := by
    cases digits with
    | nil => exact absurd hlength (Nat.not_lt_zero _)
    | cons digit digits => exact if_neg (Nat.not_le.mpr hlength)
  rw [ofText, digits?_eq_some_iff.mpr h]
  simp only [hcount]
  rfl

theorem ofText_of_not_isWhole {text : List Char} (h : ∀ digits, ¬ IsWhole text digits) :
    ∃ directive?, ofText text = .ok directive? ∧
      ((directive? = some inline ∧ IsInline text) ∨ (directive? = none ∧ ¬ IsInline text)) := by
  have hnone : (blockDigits? text).or (commentDigits? text) = none :=
    Option.eq_none_iff_forall_ne_some.mpr fun digits hdigits =>
      h digits (digits?_eq_some_iff.mp hdigits)
  rw [ofText, hnone]
  by_cases hinline : Text.holds "/* c8 ignore next */".toList text
  · exact ⟨_, rfl, Or.inl ⟨if_pos hinline, Text.holds_iff.mp hinline⟩⟩
  · exact ⟨_, rfl, Or.inr ⟨if_neg hinline, fun h => hinline (Text.holds_iff.mpr h)⟩⟩

end LineDirective

end Remap
