import Remap.Proofs.Directive.LineForms
import Remap.Proofs.Text.Offsets

/-!
# The forms of directives on a construct

A comment is written in one of three ways: to the end of the line, between delimiters,
or, where it has no opening delimiter, plainly. `IsBody` says what each leaves of the
text when its delimiters are taken off, and every text has exactly one body
(`isBody_iff`). A directive is named in a body that opens with it, behind blanks, when
a blank or nothing comes behind it (`IsNamedIn`). The directive of a comment is the one
that is named in its body.

The delimiters go first, so that a keyword may stand right before a closing one, while
a closing delimiter at the end of a line comment is a part of its last word.
-/

namespace Remap

open Text

namespace RangeDirective

/-! ## Bodies of comments -/

/-- What the text of a comment is without its delimiters. -/
inductive IsBody : List Char → List Char → Prop
  | line (body : List Char) : IsBody ("//".toList ++ body) body
  | block (body : List Char) : IsBody ("/*".toList ++ (body ++ "*/".toList)) body
  /-- The two delimiters share a character. -/
  | overlapping : IsBody "/*/".toList []
  /-- The closing delimiter is missing. -/
  | unclosed {body : List Char} :
      ¬ "*/".toList <:+ "/*".toList ++ body → IsBody ("/*".toList ++ body) body
  | plain {text : List Char} :
      ¬ "//".toList <+: text → ¬ "/*".toList <+: text → IsBody text text

/-- A block comment is closed behind its body or within its opening delimiter. -/
theorem isClosed_iff {rest : List Char} :
    "*/".toList <:+ "/*".toList ++ rest ↔
      rest = "/".toList ∨ ∃ body, rest = body ++ "*/".toList := by
  constructor
  · rintro ⟨front, hfront⟩
    rcases List.append_eq_append_iff.mp hfront with ⟨between, hopening, hclosing⟩ | ⟨body, -, hrest⟩
    · -- What both delimiters take part in is nothing, the star, or all of both.
      rcases between with _ | ⟨c, _ | ⟨d, between⟩⟩
      · exact Or.inr ⟨[], hclosing.symm⟩
      · exact Or.inl (List.cons.inj hclosing).2.symm
      · cases front with
        | nil =>
            have hslash : '/' = c := (List.cons.inj hopening).1
            have hstar : '*' = c := (List.cons.inj hclosing).1
            exact absurd (hslash.trans hstar.symm) (by decide)
        | cons a front =>
            have hlength := congrArg List.length hopening
            simp at hlength
            omega
    · exact Or.inr ⟨body, hrest⟩
  · rintro (rfl | ⟨body, rfl⟩)
    · exact ⟨"/".toList, rfl⟩
    · exact ⟨"/*".toList ++ body, List.append_assoc _ _ _⟩

theorem commentBody_of_isClosed {rest : List Char} (h : "*/".toList <:+ "/*".toList ++ rest) :
    commentBody ("/*".toList ++ rest) = rest.take (rest.length - 2) := by
  obtain ⟨front, hfront⟩ := h
  refine (if_pos (endsWith_iff.mpr ⟨front, hfront.symm⟩)).trans ?_
  rw [List.drop_take]
  rfl

theorem commentBody_of_not_isClosed {rest : List Char}
    (h : ¬ "*/".toList <:+ "/*".toList ++ rest) : commentBody ("/*".toList ++ rest) = rest := by
  refine if_neg fun hends => h ?_
  obtain ⟨front, hfront⟩ := endsWith_iff.mp hends
  exact ⟨front, hfront.symm⟩

theorem commentBody_plain {text : List Char} (hline : ¬ "//".toList <+: text)
    (hblock : ¬ "/*".toList <+: text) : commentBody text = text := by
  unfold commentBody
  split
  · next body => exact absurd ⟨body, rfl⟩ hline
  · next body => exact absurd ⟨body, rfl⟩ hblock
  · rfl

theorem commentBody_of_isBody {text body : List Char} (h : IsBody text body) :
    commentBody text = body := by
  cases h with
  | line => rfl
  | block =>
      rw [commentBody_of_isClosed (isClosed_iff.mpr (Or.inr ⟨body, rfl⟩)), List.length_append]
      exact List.take_left
  | overlapping => decide
  | unclosed hclosed => exact commentBody_of_not_isClosed hclosed
  | plain hline hblock => exact commentBody_plain hline hblock

theorem isBody_commentBody (text : List Char) : IsBody text (commentBody text) := by
  by_cases hline : "//".toList <+: text
  · obtain ⟨body, rfl⟩ := hline
    exact .line body
  · by_cases hblock : "/*".toList <+: text
    · obtain ⟨rest, rfl⟩ := hblock
      by_cases hclosed : "*/".toList <:+ "/*".toList ++ rest
      · rcases isClosed_iff.mp hclosed with rfl | ⟨body, rfl⟩
        · exact .overlapping
        · rw [commentBody_of_isBody (.block body)]
          exact .block body
      · rw [commentBody_of_not_isClosed hclosed]
        exact .unclosed hclosed
    · rw [commentBody_plain hline hblock]
      exact .plain hline hblock

/-- Every text has one body. -/
theorem isBody_iff {text body : List Char} : IsBody text body ↔ commentBody text = body :=
  ⟨commentBody_of_isBody, fun h => h ▸ isBody_commentBody text⟩

/-! ## Directives in bodies -/

/-- Whether a body opens with a directive, as a word of its own behind blanks. -/
def IsNamedIn (directive : RangeDirective) (body : List Char) : Prop :=
  ∃ blanks rest, body = blanks ++ ("t8 ignore ".toList ++ (directive.keyword.toList ++ rest)) ∧
    (∀ c ∈ blanks, isBlank c) ∧ ∀ c ∈ rest.head?, isBlank c

theorem not_isBlank_of_mem_keyword (directive : RangeDirective) :
    ∀ c ∈ directive.keyword.toList, (!isBlank c) = true := by
  rw [← List.all_eq_true]
  cases directive <;> decide

/-- The directive that a word stands for. -/
def ofWord? (word : List Char) : Option RangeDirective :=
  if word = next.keyword.toList then some next
  else if word = rest.keyword.toList then some rest
  else none

theorem ofWord?_eq_some_iff {word : List Char} {directive : RangeDirective} :
    ofWord? word = some directive ↔ word = directive.keyword.toList := by
  constructor
  · intro h
    simp only [ofWord?] at h
    split at h
    · next hword =>
        cases h
        exact hword
    · split at h
      · next hword =>
          cases h
          exact hword
      · cases h
  · rintro rfl
    cases directive <;> rfl

theorem ofComment?_eq (text : List Char) :
    ofComment? text =
      (after? "t8 ignore ".toList ((commentBody text).dropWhile isBlank)).bind fun rest =>
        ofWord? (rest.takeWhile fun c => !isBlank c) := rfl

theorem isNamedIn_of_ofComment? {text : List Char} {directive : RangeDirective}
    (h : ofComment? text = some directive) : directive.IsNamedIn (commentBody text) := by
  rw [ofComment?_eq] at h
  obtain ⟨rest, hrest, hword⟩ := Option.bind_eq_some_iff.mp h
  rw [after?_eq_some_iff] at hrest
  rw [ofWord?_eq_some_iff] at hword
  refine ⟨(commentBody text).takeWhile isBlank, rest.dropWhile fun c => !isBlank c, ?_, ?_, ?_⟩
  · rw [← hword, List.takeWhile_append_dropWhile, ← hrest, List.takeWhile_append_dropWhile]
  · exact List.all_eq_true.mp List.all_takeWhile
  · intro c hc
    have hstop := List.head?_dropWhile_not (fun c => !isBlank c) rest
    rw [Option.mem_def.mp hc] at hstop
    simpa using hstop

theorem ofComment?_of_isNamedIn {text : List Char} {directive : RangeDirective}
    (h : directive.IsNamedIn (commentBody text)) : ofComment? text = some directive := by
  obtain ⟨blanks, rest, hbody, hblanks, hrest⟩ := h
  have hstart : ∀ c ∈ ("t8 ignore ".toList ++ (directive.keyword.toList ++ rest)).head?,
      ¬ isBlank c := by
    rintro c ⟨⟩
    decide
  have hend : ∀ c ∈ rest.head?, ¬ (!isBlank c) = true := by
    intro c hc
    simpa using hrest c hc
  rw [ofComment?_eq, hbody, dropWhile_append_of_head? hblanks hstart,
    after?_eq_some_iff.mpr rfl, Option.bind_some,
    takeWhile_append_of_head? (not_isBlank_of_mem_keyword directive) hend]
  exact ofWord?_eq_some_iff.mpr rfl

theorem exists_isNamedIn_iff {text : List Char} {directive : RangeDirective} :
    (∃ body, IsBody text body ∧ directive.IsNamedIn body) ↔ ofComment? text = some directive := by
  simp only [isBody_iff, exists_eq_left']
  exact ⟨ofComment?_of_isNamedIn, isNamedIn_of_ofComment?⟩

/-- Every text has one body, and the directive of a comment is the one that is named in
its body, if one is. The text is found again among the bytes of any source around it. -/
theorem ofComment?_eq_some_iff_isNamedIn (text : List Char) :
    (∃ body, IsBody text body ∧ ∀ other, IsBody text other → other = body) ∧
      (∀ directive, ofComment? text = some directive ↔
        ∃ body, IsBody text body ∧ directive.IsNamedIn body) ∧
      (ofComment? text = none ↔
        ∀ body (directive : RangeDirective), IsBody text body → ¬ directive.IsNamedIn body) ∧
      ∀ before after, cut? (before ++ (text ++ after)) (byteSize before)
        (byteSize before + byteSize text) = some text := by
  refine ⟨⟨commentBody text, isBody_commentBody text, fun other hother => ?_⟩,
    fun directive => exists_isNamedIn_iff.symm, ?_, fun before after =>
      cut?_append before text after⟩
  · exact (isBody_iff.mp hother).symm
  · rw [Option.eq_none_iff_forall_ne_some]
    constructor
    · intro hnone body directive hbody hnamed
      exact hnone directive (exists_isNamedIn_iff.mp ⟨body, hbody, hnamed⟩)
    · intro hnone directive hsome
      obtain ⟨body, hbody, hnamed⟩ := exists_isNamedIn_iff.mpr hsome
      exact hnone body directive hbody hnamed

example : ofComment? "/* t8 ignore next*/".toList = some next := by decide

example : ofComment? "// t8 ignore next*/".toList = none := by decide

end RangeDirective

end Remap
