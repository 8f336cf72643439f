import Remap.Proofs.Directive.LineForms
import Remap.Proofs.Listing.Partition

/-!
# Runs of ignored lines

A directive that has its line to itself starts a run: its own line and as many lines
after it as it asks for. Directives within a run are not looked for. So a line is active
when no active line before it starts a run that takes it in (`IsActive`), and the
ignored lines are those within the runs of active lines and the active lines with a
directive of their own (`IsIgnored`).

Indexing counts down the lines that a run still takes in. What the counter stands for at
a line is which lines from there on the runs before it take in (`IsPending`); one line
keeps this (`exists_coverage_of_isPending`), and so do all (`exists_indexAll_of_isPending`).
-/

namespace Remap

open LineDirective

/-- The texts of the lines that a source is indexed by. -/
def Text.linesOf (source : List Char) : List (List Char) := splitLines (trimEnd source)

/-- Whether the line at an index has to itself a directive for this many lines after it. -/
def CarriesRun (texts : List (List Char)) (i n : Nat) : Prop :=
  ∃ text digits, texts[i]? = some text ∧ IsWhole text digits ∧ n = countOf digits

/-- Whether the line at an index has a directive among its code. -/
def CarriesInline (texts : List (List Char)) (i : Nat) : Prop :=
  ∃ text, texts[i]? = some text ∧ IsInline text

/-- Whether directives on the line at an index count: no run of an active line before
takes it in. -/
def IsActive (texts : List (List Char)) (i : Nat) : Prop :=
  ∀ d < i, IsActive texts d → ∀ n, CarriesRun texts d n → ¬ i ≤ d + n
termination_by i

/-- Whether the run of an active line before a bound takes in the line at an index. -/
def IsCovered (texts : List (List Char)) (bound i : Nat) : Prop :=
  ∃ d < bound, IsActive texts d ∧ ∃ n, CarriesRun texts d n ∧ i ≤ d + n

/-- Whether directives exclude the line at an index. -/
def IsIgnored (texts : List (List Char)) (i : Nat) : Prop :=
  IsCovered texts i i ∨ IsActive texts i ∧ ((∃ n, CarriesRun texts i n) ∨ CarriesInline texts i)

section

variable {texts texts' : List (List Char)} {i j p : Nat}

theorem isActive_iff_not_isCovered : IsActive texts i ↔ ¬ IsCovered texts i i := by
  rw [IsActive]
  constructor
  · rintro h ⟨d, hd, hactive, n, hcarries, hle⟩
    exact h d hd hactive n hcarries hle
  · intro h d hd hactive n hcarries hle
    exact h ⟨d, hd, hactive, n, hcarries, hle⟩

theorem not_isActive_iff : ¬ IsActive texts i ↔ IsCovered texts i i := by
  rw [isActive_iff_not_isCovered, Classical.not_not]

theorem isCovered_succ_iff :
    IsCovered texts (i + 1) j ↔
      IsCovered texts i j ∨ IsActive texts i ∧ ∃ n, CarriesRun texts i n ∧ j ≤ i + n := by
  constructor
  · rintro ⟨d, hd, hrun⟩
    rcases Nat.lt_succ_iff_lt_or_eq.mp hd with hlt | rfl
    · exact Or.inl ⟨d, hlt, hrun⟩
    · exact Or.inr hrun
  · rintro (⟨d, hd, hrun⟩ | hrun)
    · exact ⟨d, Nat.lt_succ_of_lt hd, hrun⟩
    · exact ⟨i, Nat.lt_succ_self i, hrun⟩

/-! ## The counter of pending lines -/

/-- Whether a number of lines from an index on are those that runs before it take in. -/
def IsPending (texts : List (List Char)) (i p : Nat) : Prop :=
  ∀ j, i ≤ j → (j < i + p ↔ IsCovered texts i j)

theorem isPending_zero (texts : List (List Char)) : IsPending texts 0 0 := by
  intro j hj
  constructor
  · intro hlt
    omega
  · rintro ⟨d, hd, -⟩
    exact absurd hd (Nat.not_lt_zero d)

theorem IsPending.isActive (h : IsPending texts i 0) : IsActive texts i := by
  rw [isActive_iff_not_isCovered, ← h i (Nat.le_refl i)]
  omega

theorem IsPending.isCovered (h : IsPending texts i (p + 1)) : IsCovered texts i i :=
  (h i (Nat.le_refl i)).mp (by omega)

/-- Within a run the counter goes down by one. -/
theorem IsPending.pred (h : IsPending texts i (p + 1)) : IsPending texts (i + 1) p := by
  have hinactive : ¬ IsActive texts i := not_isActive_iff.mpr h.isCovered
  intro j hj
  rw [isCovered_succ_iff, ← h j (by omega)]
  constructor
  · intro hlt
    exact Or.inl (by omega)
  · rintro (hlt | ⟨hactive, -⟩)
    · omega
    · exact absurd hactive hinactive

/-- A directive that counts starts the counter. -/
theorem IsPending.start (h : IsPending texts i 0) {n : Nat} (hcarries : CarriesRun texts i n) :
    IsPending texts (i + 1) n := by
  intro j hj
  rw [isCovered_succ_iff, ← h j (by omega)]
  constructor
  · intro hlt
    exact Or.inr ⟨h.isActive, n, hcarries, by omega⟩
  · rintro (hlt | ⟨-, n', hcarries', hle⟩)
    · omega
    · obtain ⟨text, digits, htext, hwhole, rfl⟩ := hcarries
      obtain ⟨text', digits', htext', hwhole', rfl⟩ := hcarries'
      obtain rfl : text = text' := Option.some.inj (htext.symm.trans htext')
      rw [hwhole'.digits_eq hwhole] at hle
      omega

/-- Without a directive that starts a run the counter stays at zero. -/
theorem IsPending.stay (h : IsPending texts i 0) (hnone : ∀ n, ¬ CarriesRun texts i n) :
    IsPending texts (i + 1) 0 := by
  intro j hj
  rw [isCovered_succ_iff, ← h j (by omega)]
  constructor
  · intro hlt
    omega
  · rintro (hlt | ⟨-, n, hcarries, -⟩)
    · omega
    · exact absurd hcarries (hnone n)

/-- Counts of directives on active lines can be read. -/
def HasReadableCounts (texts : List (List Char)) : Prop :=
  ∀ i text digits, IsActive texts i → texts[i]? = some text → IsWhole text digits →
    digits.length ≤ DigitLimit.allowed

theorem exists_coverage_of_isPending {text : List Char} (htext : texts[i]? = some text)
    (hpending : IsPending texts i p)
    (hcount : IsActive texts i → ∀ digits, IsWhole text digits →
      digits.length ≤ DigitLimit.allowed) :
    ∃ covered, Line.coverage p text = .ok covered ∧ (covered.1 = true ↔ IsIgnored texts i) ∧
      IsPending texts (i + 1) covered.2 := by
  cases p with
  | succ p => exact ⟨(true, p), rfl, by simp [IsIgnored, hpending.isCovered], hpending.pred⟩
  | zero =>
      have hactive := hpending.isActive
      have hbare : ¬ IsCovered texts i i := isActive_iff_not_isCovered.mp hactive
      by_cases hwhole : ∃ digits, IsWhole text digits
      · obtain ⟨digits, hwhole⟩ := hwhole
        have hcarries : CarriesRun texts i (countOf digits) := ⟨text, digits, htext, hwhole, rfl⟩
        refine ⟨(true, countOf digits), ?_, ?_, hpending.start hcarries⟩
        · rw [Line.coverage, ofText_of_isWhole hwhole (hcount hactive digits hwhole)]
          rfl
        · exact iff_of_true rfl (Or.inr ⟨hactive, Or.inl ⟨_, hcarries⟩⟩)
      · have hnone : ∀ n, ¬ CarriesRun texts i n := by
          rintro n ⟨own, digits, hown, hdigits, -⟩
          obtain rfl : text = own := Option.some.inj (htext.symm.trans hown)
          exact hwhole ⟨digits, hdigits⟩
        have hinline : IsIgnored texts i ↔ IsInline text := by
          constructor
          · rintro (hcovered | ⟨-, ⟨n, hcarries⟩ | ⟨own, hown, hinline⟩⟩)
            · exact absurd hcovered hbare
            · exact absurd hcarries (hnone n)
            · obtain rfl : text = own := Option.some.inj (htext.symm.trans hown)
              exact hinline
          · intro hinline
            exact Or.inr ⟨hactive, Or.inr ⟨text, htext, hinline⟩⟩
        obtain ⟨directive?, hread, ⟨rfl, hyes⟩ | ⟨rfl, hno⟩⟩ :=
          ofText_of_not_isWhole fun digits hdigits => hwhole ⟨digits, hdigits⟩
        · refine ⟨(true, 0), by rw [Line.coverage, hread]; rfl, ?_, hpending.stay hnone⟩
          exact iff_of_true rfl (hinline.mpr hyes)
        · refine ⟨(false, 0), by rw [Line.coverage, hread]; rfl, ?_, hpending.stay hnone⟩
          exact iff_of_false Bool.false_ne_true fun hignored => hno (hinline.mp hignored)

/-- Indexing finds the ignored lines, from any line on. -/
theorem exists_indexAll_of_isPending (hcounts : HasReadableCounts texts) {rest : List (List Char)}
    (number start : Int) (hrest : texts.drop i = rest) (hpending : IsPending texts i p) :
    ∃ lines, Line.indexAll number start p rest = .ok lines ∧
      ∀ (k : Nat) line, lines[k]? = some line → (line.ignored ↔ IsIgnored texts (i + k)) := by
  induction rest generalizing i p number start with
  | nil => exact ⟨[], rfl, fun k line hline => by cases hline⟩
  | cons text rest ih =>
      have htext : texts[i]? = some text := by
        rw [← List.head?_drop, hrest, List.head?_cons]
      have htail : texts.drop (i + 1) = rest := by
        rw [← List.tail_drop, hrest, List.tail_cons]
      obtain ⟨covered, hcovered, hfirst, hnext⟩ :=
        exists_coverage_of_isPending htext hpending fun hactive digits =>
          hcounts i text digits hactive htext
      obtain ⟨lines, hlines, hall⟩ := ih (number + 1) (start + text.length) htail hnext
      refine ⟨{ Line.ofText number start text with ignored := covered.1 } :: lines, ?_, ?_⟩
      · rw [Line.indexAll_of_coverage hcovered, hlines]
        rfl
      · intro k line hline
        cases k with
        | zero =>
            cases hline
            exact hfirst
        | succ k =>
            rw [Nat.add_succ, ← Nat.succ_add]
            exact hall k line hline

/-! ## Directives that do not count -/

theorem carriesRun_congr (h : texts'[i]? = texts[i]?) (n : Nat) :
    CarriesRun texts' i n ↔ CarriesRun texts i n := by
  unfold CarriesRun
  rw [h]

theorem carriesInline_congr (h : texts'[i]? = texts[i]?) :
    CarriesInline texts' i ↔ CarriesInline texts i := by
  unfold CarriesInline
  rw [h]

/-- Texts that differ on inactive lines only have the same active lines. -/
theorem isActive_congr (h : ∀ i, IsActive texts i → texts'[i]? = texts[i]?) (i : Nat) :
    IsActive texts' i ↔ IsActive texts i := by
  induction i using Nat.strongRecOn with
  | ind i ih =>
      rw [IsActive, IsActive]
      refine forall₂_congr fun d hd => ?_
      rw [ih d hd]
      refine imp_congr_right fun hactive => ?_
      simp only [carriesRun_congr (h d hactive)]

theorem isIgnored_congr (h : ∀ i, IsActive texts i → texts'[i]? = texts[i]?) (i : Nat) :
    IsIgnored texts' i ↔ IsIgnored texts i := by
  have hcovered : IsCovered texts' i i ↔ IsCovered texts i i := by
    rw [← not_isActive_iff, ← not_isActive_iff, isActive_congr h i]
  unfold IsIgnored
  rw [hcovered, isActive_congr h i]
  refine or_congr_right (and_congr_right fun hactive => ?_)
  simp only [carriesRun_congr (h i hactive), carriesInline_congr (h i hactive)]

end

/-! ## Listings -/

namespace Listing

/-- Without a language the lines are ignored that directives on lines exclude. -/
theorem exists_build_of_hasReadableCounts (parse : Parse) (wrapperLength : Int)
    {source : List Char} (hcounts : HasReadableCounts (Text.linesOf source)) :
    ∃ listing, (build parse source wrapperLength none).value = .ok listing ∧
      listing.lines.size = (Text.linesOf source).length ∧
      ∀ (i : Nat) line, listing.lines[i]? = some line →
        (line.ignored ↔ IsIgnored (Text.linesOf source) i) := by
  obtain ⟨lines, hlines, hall⟩ :=
    exists_indexAll_of_isPending hcounts 1 0 rfl (isPending_zero (Text.linesOf source))
  refine ⟨assemble (Text.trimEnd source) wrapperLength lines [], ?_, ?_, ?_⟩
  · have hindex : Line.indexAll 1 0 0 (Text.splitLines (Text.trimEnd source)) = .ok lines := hlines
    rw [build, hindex]
    rfl
  · have hlaidOut := laidOut_of_indexAll hlines
    rw [assemble, List.size_toArray, List.length_map, hlaidOut.length_eq, List.drop_zero]
  · intro i line hline
    simp only [assemble, List.getElem?_toArray, List.getElem?_map] at hline
    obtain ⟨own, hown, rfl⟩ := Option.map_eq_some_iff.mp hline
    rw [← Nat.zero_add i, ← hall i own hown, Line.ignoreIn, List.any_nil, Bool.or_false]

/-- Without a language a line is ignored when it lies in the run of an active line, or is active and
has a directive. A run goes no further than the last line, and directives within a run have
no effect. -/
theorem ignores_runs (parse : Parse) (wrapperLength : Int) {source : List Char}
    (hcounts : ∀ text ∈ Text.linesOf source, ∀ digits, IsWhole text digits →
      digits.length ≤ DigitLimit.allowed) :
    ∃ listing, (build parse source wrapperLength none).value = .ok listing ∧
      listing.lines.size = (Text.linesOf source).length ∧
      (∀ (i : Nat) line, listing.lines[i]? = some line →
        (line.ignored ↔ IsIgnored (Text.linesOf source) i)) ∧
      (∀ d n, IsActive (Text.linesOf source) d → CarriesRun (Text.linesOf source) d n →
        listing.lines.size ≤ d + n + 1 → ∀ line ∈ listing.lines.toList.drop d, line.ignored) ∧
      ∀ other, (Text.linesOf other).length = (Text.linesOf source).length →
        (∀ i, IsActive (Text.linesOf source) i →
          (Text.linesOf other)[i]? = (Text.linesOf source)[i]?) →
        ∃ listing', (build parse other wrapperLength none).value = .ok listing' ∧
          listing'.lines.toList.map Line.ignored = listing.lines.toList.map Line.ignored := by
  have hreadable : HasReadableCounts (Text.linesOf source) := fun i text digits _ htext =>
    hcounts text (List.mem_of_getElem? htext) digits
  obtain ⟨listing, hbuild, hsize, hall⟩ :=
    exists_build_of_hasReadableCounts parse wrapperLength hreadable
  refine ⟨listing, hbuild, hsize, hall, ?_, ?_⟩
  · intro d n hactive hcarries hle line hline
    obtain ⟨k, hk⟩ := List.mem_iff_getElem?.mp hline
    rw [List.getElem?_drop, Array.getElem?_toList] at hk
    have hlt : d + k < listing.lines.size := (Array.getElem?_eq_some_iff.mp hk).1
    refine (hall (d + k) line hk).mpr ?_
    cases k with
    | zero => exact Or.inr ⟨hactive, Or.inl ⟨n, hcarries⟩⟩
    | succ k => exact Or.inl ⟨d, by omega, hactive, n, hcarries, by omega⟩
  · intro other hlength hsame
    have hreadable' : HasReadableCounts (Text.linesOf other) := by
      intro i text digits hactive htext
      have hactive' := (isActive_congr hsame i).mp hactive
      rw [hsame i hactive'] at htext
      exact hreadable i text digits hactive' htext
    obtain ⟨listing', hbuild', hsize', hall'⟩ :=
      exists_build_of_hasReadableCounts parse wrapperLength hreadable'
    refine ⟨listing', hbuild', List.ext_getElem ?_ fun i hi hi' => ?_⟩
    · simp only [List.length_map, Array.length_toList, hsize, hsize', hlength]
    · rw [List.length_map, Array.length_toList] at hi hi'
      rw [List.getElem_map, List.getElem_map, Array.getElem_toList, Array.getElem_toList,
        Bool.eq_iff_iff, hall' i _ (Array.getElem?_eq_getElem hi),
        hall i _ (Array.getElem?_eq_getElem hi'), isIgnored_congr hsame i]

/-- A directive within a run, one among code behind it, a run of no lines, and a run longer
than the text. -/
def overlappingRuns : List Char :=
  ("/* c8 ignore next 2 */\n// c8 ignore next 9\nf()\ng() /* c8 ignore next */\n" ++
    "// c8 ignore next 0\nh()\n/* c8 ignore next 99 */\nend\n").toList

theorem ignores_runs_overlappingRuns :
    (∀ text ∈ Text.linesOf overlappingRuns, ∀ digits, IsWhole text digits →
      digits.length ≤ DigitLimit.allowed) ∧
    ∃ listing,
      (build (fun _ _ => ⟨default, false⟩) overlappingRuns 0 none).value = .ok listing ∧
      listing.lines.map Line.ignored = #[true, true, true, true, true, false, true, true] ∧
      ¬ IsIgnored (Text.linesOf overlappingRuns) 5 ∧
      IsIgnored (Text.linesOf overlappingRuns) 7 := by
  have hdigits : (Text.linesOf overlappingRuns).map
      (fun text => (blockDigits? text).or (commentDigits? text)) =
        [some ['2'], some ['9'], none, none, some ['0'], none, some ['9', '9'], none] := by
    decide +kernel
  have hcounts : ∀ text ∈ Text.linesOf overlappingRuns, ∀ digits, IsWhole text digits →
      digits.length ≤ DigitLimit.allowed := by
    intro text htext digits hwhole
    have hmem := List.mem_map_of_mem
      (f := fun text => (blockDigits? text).or (commentDigits? text)) htext
    rw [hdigits, digits?_eq_some_iff.mpr hwhole] at hmem
    have hshort : digits.length ≤ 2 := by
      simp only [List.mem_cons, Option.some.injEq, List.not_mem_nil, reduceCtorEq, or_false,
        false_or] at hmem
      rcases hmem with rfl | rfl | rfl | rfl <;> decide
    exact Nat.le_trans hshort (by decide)
  have hflags : ((build (fun _ _ => ⟨default, false⟩) overlappingRuns 0 none).value.toOption.map
      fun listing => listing.lines.map Line.ignored) =
        some #[true, true, true, true, true, false, true, true] := by
    decide +kernel
  obtain ⟨listing, hbuild, -, hall, -⟩ := ignores_runs (fun _ _ => ⟨default, false⟩) 0 hcounts
  rw [hbuild] at hflags
  have hlines : listing.lines.map Line.ignored =
      #[true, true, true, true, true, false, true, true] := Option.some.inj hflags
  have hflag (i : Nat) : listing.lines[i]?.map Line.ignored =
      #[true, true, true, true, true, false, true, true][i]? := by
    rw [← Array.getElem?_map, hlines]
  obtain ⟨shown, hshown, hfalse⟩ := Option.map_eq_some_iff.mp (hflag 5)
  obtain ⟨hidden, hhidden, htrue⟩ := Option.map_eq_some_iff.mp (hflag 7)
  refine ⟨hcounts, listing, hbuild, hlines, fun hignored => ?_, (hall 7 hidden hhidden).mp htrue⟩
  exact Bool.false_ne_true (hfalse.symm.trans ((hall 5 shown hshown).mpr hignored))

end Listing

end Remap
