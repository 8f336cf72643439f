import Mathlib.Data.List.Induction
import Mathlib.Data.Nat.Digits.Defs
import Remap.Proofs.Listing.Runs

/-!
# The counts of directives on lines

On a line that no run takes in, the directive is the one that the form of its text
names, and a form fixes the digits of its count. So whatever way a search for the form
goes, it comes to the same digits (`IsFinding.eq`), and the count is their value.

A count of too many digits is not read (`IsUnread`), and its line refuses the whole
text. Only lines are asked that no run before them takes in: indexing is an induction
over the lines with the counter of pending lines for invariant, which ends at the first
unread count or at the last line (`exists_indexAll_or_isFirstUnread`).
-/

namespace Remap

open LineDirective

/-! ## Searches for a form -/

namespace LineDirective

/-- What a search for a form in a text may come to: the digits of one way to read the text
in that form, or nothing where there is no such way. -/
structure IsFinding (form : List Char → List Char → Prop) (text : List Char)
    (found? : Option (List Char)) : Prop where
  form_of_some : ∀ digits, found? = some digits → form text digits
  not_form_of_none : found? = none → ∀ digits, ¬ form text digits

/-- Where the form fixes the digits all searches agree. -/
theorem IsFinding.eq {form : List Char → List Char → Prop} {text : List Char}
    {a b : Option (List Char)} (ha : IsFinding form text a) (hb : IsFinding form text b)
    (hunique : ∀ digits digits', form text digits → form text digits' → digits = digits') :
    a = b := by
  cases a with
  | none =>
      cases b with
      | none => rfl
      | some digits => exact absurd (hb.form_of_some digits rfl) (ha.not_form_of_none rfl digits)
  | some digits =>
      have hdigits := ha.form_of_some digits rfl
      cases b with
      | none => exact absurd hdigits (hb.not_form_of_none rfl digits)
      | some digits' => rw [hunique digits digits' hdigits (hb.form_of_some digits' rfl)]

theorem isFinding_blockDigits? (text : List Char) : IsFinding IsBlock text (blockDigits? text) where
  form_of_some _ := isBlock_of_blockDigits?
  not_form_of_none hnone _ hblock := by
    rw [blockDigits?_of_isBlock hblock] at hnone
    cases hnone

theorem isFinding_commentDigits? (text : List Char) :
    IsFinding IsComment text (commentDigits? text) where
  form_of_some _ := isComment_of_commentDigits?
  not_form_of_none hnone _ hcomment := by
    rw [commentDigits?_of_isComment hcomment] at hnone
    cases hnone

theorem IsWhole.isDigit {text digits : List Char} (h : IsWhole text digits) :
    ∀ c ∈ digits, c.isDigit := by
  rcases h with hblock | hcomment
  · exact hblock.isDigit
  · exact hcomment.isDigit

/-- Decimal digits are read by their place. -/
theorem toNat_eq_ofDigits {digits : List Char} (h : ∀ c ∈ digits, c.isDigit) :
    Digits.toNat 10 digits =
      Nat.ofDigits 10 (digits.reverse.map fun c => c.toNat - '0'.toNat) := by
  induction digits using List.reverseRec with
  | nil => rfl
  | append_singleton digits c ih =>
      have hc : Digits.value c = c.toNat - '0'.toNat := if_pos (h c (by simp))
      rw [Digits.toNat_append_singleton, ih fun d hd => h d (List.mem_append_left _ hd), hc,
        List.reverse_concat, List.map_cons, Nat.ofDigits_cons, Nat.add_comm]

end LineDirective

/-- A line that no run takes in is ignored with as many lines after it as a directive
alone on it asks for, or by itself when there is a directive among its code. The forms
of directives exclude each other and fix the digits, so that each search for them comes
to the same. -/
theorem Line.coverage_of_forms {text : List Char}
    (hcount : ∀ digits, IsWhole text digits → digits.length ≤ DigitLimit.allowed) :
    ∃ ignored n, Line.coverage 0 text = .ok (ignored, n) ∧
      (∀ digits, IsWhole text digits → ignored = true ∧
        n = if digits = [] then 1
          else Nat.ofDigits 10 (digits.reverse.map fun c => c.toNat - '0'.toNat)) ∧
      ((∀ digits, ¬ IsWhole text digits) → n = 0 ∧ (ignored = true ↔ IsInline text)) ∧
      (∀ digits digits', IsBlock text digits → ¬ IsComment text digits') ∧
      (∀ digits digits', IsWhole text digits → IsWhole text digits' → digits = digits') ∧
      ∀ block? comment?, IsFinding IsBlock text block? → IsFinding IsComment text comment? →
        blockDigits? text = block? ∧ commentDigits? text = comment? := by
  have hexclude : ∀ digits digits', IsBlock text digits → ¬ IsComment text digits' :=
    fun _ _ => not_isComment_of_isBlock
  have hunique : ∀ digits digits', IsWhole text digits → IsWhole text digits' →
      digits = digits' := fun _ _ => IsWhole.digits_eq
  have hsearch : ∀ block? comment?, IsFinding IsBlock text block? →
      IsFinding IsComment text comment? →
        blockDigits? text = block? ∧ commentDigits? text = comment? := by
    intro block? comment? hblock hcomment
    refine ⟨(isFinding_blockDigits? text).eq hblock fun d d' hd hd' => ?_,
      (isFinding_commentDigits? text).eq hcomment fun d d' hd hd' => ?_⟩
    · exact hunique d d' (Or.inl hd) (Or.inl hd')
    · exact hunique d d' (Or.inr hd) (Or.inr hd')
  by_cases hwhole : ∃ digits, IsWhole text digits
  · obtain ⟨digits, hwhole⟩ := hwhole
    refine ⟨true, countOf digits, ?_, ?_, ?_, hexclude, hunique, hsearch⟩
    · rw [Line.coverage, ofText_of_isWhole hwhole (hcount digits hwhole)]
      rfl
    · intro own hown
      obtain rfl := hwhole.digits_eq hown
      rw [countOf, toNat_eq_ofDigits hwhole.isDigit]
      exact ⟨rfl, rfl⟩
    · exact fun hnone => absurd hwhole (hnone digits)
  · have hnone : ∀ digits, ¬ IsWhole text digits := fun digits hdigits => hwhole ⟨digits, hdigits⟩
    obtain ⟨directive?, hread, ⟨rfl, hinline⟩ | ⟨rfl, hinline⟩⟩ := ofText_of_not_isWhole hnone
    · refine ⟨true, 0, by rw [Line.coverage, hread]; rfl, ?_, ?_, hexclude, hunique, hsearch⟩
      · exact fun digits hdigits => absurd hdigits (hnone digits)
      · exact fun _ => ⟨rfl, iff_of_true rfl hinline⟩
    · refine ⟨false, 0, by rw [Line.coverage, hread]; rfl, ?_, ?_, hexclude, hunique, hsearch⟩
      · exact fun digits hdigits => absurd hdigits (hnone digits)
      · exact fun _ => ⟨rfl, iff_of_false Bool.false_ne_true hinline⟩

/-- A block comment whose lead overlaps its opening, behind characters that are no word, with
a count that starts with a zero. -/
def overlappingLead : List Char := "– /* /* c8 ignore next 042  */ ;\r\n".toList

theorem Line.coverage_of_forms_overlappingLead :
    (∀ digits, IsWhole overlappingLead digits → digits.length ≤ DigitLimit.allowed) ∧
      Line.coverage 0 overlappingLead = .ok (true, 42) := by
  have hfound : (blockDigits? overlappingLead).or (commentDigits? overlappingLead) =
      some ['0', '4', '2'] := by
    decide +kernel
  have hwhole := digits?_eq_some_iff.mp hfound
  have hcount : ∀ digits, IsWhole overlappingLead digits → digits.length ≤ DigitLimit.allowed := by
    intro digits hdigits
    obtain rfl := hwhole.digits_eq hdigits
    decide
  obtain ⟨ignored, n, hcoverage, hrun, -⟩ := Line.coverage_of_forms hcount
  obtain ⟨rfl, rfl⟩ := hrun _ hwhole
  exact ⟨hcount, hcoverage⟩

/-! ## Counts that are not read -/

/-- Whether a directive on the line at an index counts and has more digits than are read. -/
structure IsUnread (texts : List (List Char)) (i : Nat) (digits : List Char) : Prop where
  isActive : IsActive texts i
  isWhole : ∃ text, texts[i]? = some text ∧ IsWhole text digits
  allowed_lt : DigitLimit.allowed < digits.length

/-- Whether the line at `j` is the first from the one at `i` on with such a directive. -/
structure IsFirstUnread (texts : List (List Char)) (i j : Nat) (digits : List Char) : Prop where
  le : i ≤ j
  isUnread : IsUnread texts j digits
  not_isUnread : ∀ d, i ≤ d → d < j → ∀ own, ¬ IsUnread texts d own

section

variable {texts : List (List Char)} {i j k p : Nat} {text digits digits' : List Char}

theorem hasReadableCounts_iff :
    HasReadableCounts texts ↔ ∀ i digits, ¬ IsUnread texts i digits := by
  constructor
  · rintro h i digits ⟨hactive, ⟨text, htext, hwhole⟩, hlt⟩
    exact absurd (h i text digits hactive htext hwhole) (Nat.not_le.mpr hlt)
  · intro h i text digits hactive htext hwhole
    exact Nat.le_of_not_lt fun hlt => h i digits ⟨hactive, ⟨text, htext, hwhole⟩, hlt⟩

theorem IsUnread.digits_eq (h : IsUnread texts i digits) (h' : IsUnread texts i digits') :
    digits = digits' := by
  obtain ⟨-, ⟨text, htext, hwhole⟩, -⟩ := h
  obtain ⟨-, ⟨text', htext', hwhole'⟩, -⟩ := h'
  obtain rfl : text = text' := Option.some.inj (htext.symm.trans htext')
  exact hwhole.digits_eq hwhole'

theorem IsFirstUnread.digits_eq (h : IsFirstUnread texts i j digits)
    (h' : IsFirstUnread texts i k digits') : digits = digits' := by
  rcases Nat.lt_trichotomy j k with hlt | rfl | hlt
  · exact absurd h.isUnread (h'.not_isUnread j h.le hlt digits)
  · exact h.isUnread.digits_eq h'.isUnread
  · exact absurd h'.isUnread (h.not_isUnread k h'.le hlt digits')

/-- One line is read, and keeps the meaning of the counter, or refuses the text. -/
theorem exists_coverage_or_isUnread (htext : texts[i]? = some text)
    (hpending : IsPending texts i p) :
    (∃ covered, Line.coverage p text = .ok covered ∧ IsPending texts (i + 1) covered.2 ∧
        ∀ digits, ¬ IsUnread texts i digits) ∨
      ∃ digits, IsUnread texts i digits ∧ Line.coverage p text = .error ⟨digits.length⟩ := by
  by_cases hunread : ∃ digits, IsUnread texts i digits
  · obtain ⟨digits, hunread⟩ := hunread
    refine Or.inr ⟨digits, hunread, ?_⟩
    obtain ⟨hactive, ⟨own, hown, hwhole⟩, hlt⟩ := hunread
    obtain rfl : text = own := Option.some.inj (htext.symm.trans hown)
    cases p with
    | succ p => exact absurd hpending.isCovered (isActive_iff_not_isCovered.mp hactive)
    | zero =>
        rw [Line.coverage, ofText_of_isWhole_of_lt hwhole hlt]
        rfl
  · have hread : ∀ digits, ¬ IsUnread texts i digits := fun digits h => hunread ⟨digits, h⟩
    obtain ⟨covered, hcovered, -, hnext⟩ :=
      exists_coverage_of_isPending htext hpending fun hactive digits hwhole =>
        Nat.le_of_not_lt fun hlt => hread digits ⟨hactive, ⟨text, htext, hwhole⟩, hlt⟩
    exact Or.inl ⟨covered, hcovered, hnext, hread⟩

/-- Lines are indexed from any one on, or the first unread count refuses them. -/
theorem exists_indexAll_or_isFirstUnread {rest : List (List Char)} (number start : Int)
    (hrest : texts.drop i = rest) (hpending : IsPending texts i p) :
    ((∃ lines, Line.indexAll number start p rest = .ok lines) ∧
        ∀ j, i ≤ j → ∀ digits, ¬ IsUnread texts j digits) ∨
      ∃ j digits, IsFirstUnread texts i j digits ∧
        Line.indexAll number start p rest = .error ⟨digits.length⟩ := by
  induction rest generalizing i p number start with
  | nil =>
      refine Or.inl ⟨⟨[], rfl⟩, ?_⟩
      rintro j hj digits ⟨-, ⟨text, htext, -⟩, -⟩
      obtain ⟨hlt, -⟩ := List.getElem?_eq_some_iff.mp htext
      have := List.drop_eq_nil_iff.mp hrest
      omega
  | cons text rest ih =>
      have htext : texts[i]? = some text := by
        rw [← List.head?_drop, hrest, List.head?_cons]
      have htail : texts.drop (i + 1) = rest := by
        rw [← List.tail_drop, hrest, List.tail_cons]
      rcases exists_coverage_or_isUnread htext hpending with
        ⟨covered, hcovered, hnext, hread⟩ | ⟨digits, hunread, hrefused⟩
      · -- What holds from the next line on holds from this one on too.
        have hfrom : ∀ d, i ≤ d → d = i ∨ i + 1 ≤ d := fun d hd => by omega
        rcases ih (number + 1) (start + text.length) htail hnext with
          ⟨⟨lines, hlines⟩, hlater⟩ | ⟨j, digits, hfirst, hrefused⟩
        · refine Or.inl ⟨⟨_, by rw [Line.indexAll_of_coverage hcovered, hlines]; rfl⟩,
            fun j hj => ?_⟩
          rcases hfrom j hj with rfl | hj
          · exact hread
          · exact hlater j hj
        · refine Or.inr ⟨j, digits, ⟨by have := hfirst.le; omega, hfirst.isUnread, ?_⟩, ?_⟩
          · intro d hd hlt
            rcases hfrom d hd with rfl | hd
            · exact hread
            · exact hfirst.not_isUnread d hd hlt
          · rw [Line.indexAll_of_coverage hcovered, hrefused]
            rfl
      · refine Or.inr ⟨i, digits, ⟨Nat.le_refl i, hunread, fun d hd hlt => by omega⟩, ?_⟩
        rw [Line.indexAll_cons, hrefused]
        rfl

end

/-! ## Texts of one line -/

/-- A line comment with nothing around it, for a text of its own. -/
theorem isFirstUnread_of_digits {digits : List Char} (hdigits : ∀ c ∈ digits, c.isDigit)
    (hlt : DigitLimit.allowed < digits.length) :
    IsFirstUnread (Text.linesOf ("// c8 ignore next ".toList ++ digits)) 0 0 digits := by
  have hne : digits ≠ [] := List.ne_nil_of_length_pos (Nat.lt_of_le_of_lt (Nat.zero_le _) hlt)
  have hlast : ∀ c ∈ ("// c8 ignore next ".toList ++ digits).getLast?, ¬ Text.isBlank c := by
    rw [List.getLast?_append, List.getLast?_eq_some_getLast hne, Option.some_or]
    rintro c ⟨⟩
    exact Text.not_isBlank_of_isDigit (hdigits _ (List.getLast_mem hne))
  have hbreak : '\n' ∉ "// c8 ignore next ".toList ++ digits := by
    rw [List.mem_append]
    rintro (hmem | hmem)
    · exact absurd hmem (by decide)
    · exact absurd (hdigits '\n' hmem) (by decide)
  have hwhole : IsWhole ("// c8 ignore next ".toList ++ digits) digits := by
    refine Or.inr ⟨⟨[], [], ?_, by simp, by simp⟩, hdigits⟩
    rw [if_neg hne, List.append_nil]
    rfl
  have htexts : Text.linesOf ("// c8 ignore next ".toList ++ digits) =
      ["// c8 ignore next ".toList ++ digits] := by
    rw [Text.linesOf, Text.trimEnd_eq_self hlast, Text.splitLines_of_not_mem hbreak]
  refine ⟨Nat.le_refl 0, ⟨(isPending_zero _).isActive, ⟨_, ?_, hwhole⟩, hlt⟩, ?_⟩
  · rw [htexts, List.getElem?_cons_zero]
  · exact fun d _ hd => absurd hd (Nat.not_lt_zero d)

/-! ## Listings -/

namespace Listing

variable {source : List Char}

/-- The first unread count refuses the text before anything is reported. -/
theorem build_of_isFirstUnread (parse : Parse) (wrapperLength : Int) (language : Option String)
    {i : Nat} {digits : List Char} (h : IsFirstUnread (Text.linesOf source) 0 i digits) :
    build parse source wrapperLength language = ⟨.error (.count ⟨digits.length⟩), []⟩ := by
  rcases exists_indexAll_or_isFirstUnread 1 0 rfl (isPending_zero (Text.linesOf source)) with
    ⟨-, hread⟩ | ⟨j, own, hfirst, hrefused⟩
  · exact absurd h.isUnread (hread i h.le digits)
  · have hindex : Line.indexAll 1 0 0 (Text.splitLines (Text.trimEnd source)) =
        .error ⟨own.length⟩ := hrefused
    rw [build, hindex, h.digits_eq hfirst]

/-- Without a language a text has a listing just when the counts of directives on active
lines can be read. Otherwise the first that cannot refuses it. -/
theorem exists_build_iff_hasReadableCounts (parse : Parse) (source : List Char)
    (wrapperLength : Int) :
    ((∃ listing, (build parse source wrapperLength none).value = .ok listing) ↔
        HasReadableCounts (Text.linesOf source)) ∧
      ∀ refused, (build parse source wrapperLength none).value = .error refused ↔
        ∃ i digits, IsFirstUnread (Text.linesOf source) 0 i digits ∧
          refused = .count ⟨digits.length⟩ := by
  rcases exists_indexAll_or_isFirstUnread 1 0 rfl (isPending_zero (Text.linesOf source)) with
    ⟨-, hread⟩ | ⟨i, digits, hfirst, -⟩
  · have hreadable : HasReadableCounts (Text.linesOf source) :=
      hasReadableCounts_iff.mpr fun i => hread i (Nat.zero_le i)
    obtain ⟨listing, hbuild, -⟩ := exists_build_of_hasReadableCounts parse wrapperLength hreadable
    refine ⟨iff_of_true ⟨listing, hbuild⟩ hreadable, fun refused => iff_of_false ?_ ?_⟩
    · rw [hbuild]
      exact nofun
    · rintro ⟨i, digits, hfirst, -⟩
      exact hread i (Nat.zero_le i) digits hfirst.isUnread
  · rw [build_of_isFirstUnread parse wrapperLength none hfirst]
    refine ⟨iff_of_false ?_ ?_, fun refused => ⟨?_, ?_⟩⟩
    · rintro ⟨listing, hbuild⟩
      cases hbuild
    · exact fun hreadable => hasReadableCounts_iff.mp hreadable i digits hfirst.isUnread
    · rintro ⟨⟩
      exact ⟨i, digits, hfirst, rfl⟩
    · rintro ⟨j, own, hown, rfl⟩
      rw [hfirst.digits_eq hown]

/-- A line comment with one digit more than are read. -/
def longCount : List Char :=
  "// c8 ignore next ".toList ++ List.replicate (DigitLimit.allowed + 1) '1'

theorem not_exists_build_longCount :
    ¬ ∃ listing, (build (fun _ _ => ⟨default, false⟩) longCount 0 none).value = .ok listing := by
  have hdigits : ∀ c ∈ List.replicate (DigitLimit.allowed + 1) '1', c.isDigit := by
    intro c hc
    rw [List.eq_of_mem_replicate hc]
    decide
  have hlt : DigitLimit.allowed < (List.replicate (DigitLimit.allowed + 1) '1').length := by
    rw [List.length_replicate]
    exact Nat.lt_succ_self _
  have hfirst : IsFirstUnread (Text.linesOf longCount) 0 0 _ := isFirstUnread_of_digits hdigits hlt
  rintro ⟨listing, hbuild⟩
  rw [build_of_isFirstUnread _ _ _ hfirst] at hbuild
  cases hbuild

end Listing

end Remap
