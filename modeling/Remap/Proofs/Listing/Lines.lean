import Remap.Listing
import Remap.Proofs.Search

/-!
# How lines lie in a text

The lines of a listing are numbered from one and laid out one after another from
the start of its text to the end (`LaidOut`). So each offset of the text lies in
one line (`Line.Holds`), which `lineAt?` finds, and lines are in order both by
number and by offset. A range overlaps the lines from the one that holds its
first offset to the one that holds its last.
-/

namespace Remap

/-! ## The texts of lines -/

namespace Text

/-- Only behind a line end at the end of a text is there an empty line. -/
theorem ne_nil_of_mem_splitLines {text : List Char} (hne : text ≠ [])
    (hlast : text.getLast? ≠ some '\n') : ∀ line ∈ splitLines text, line ≠ [] := by
  induction text with
  | nil => exact absurd rfl hne
  | cons c rest ih =>
      have hrest (h : rest ≠ []) : ∀ line ∈ splitLines rest, line ≠ [] := by
        refine ih h ?_
        rwa [List.getLast?_cons, List.getLast?_eq_some_getLast h, Option.getD_some,
          ← List.getLast?_eq_some_getLast h] at hlast
      intro line hline
      simp only [splitLines] at hline
      split at hline
      · next hc =>
          rcases List.mem_cons.mp hline with rfl | hline
          · simp
          · refine hrest (fun h => hlast ?_) line hline
            rw [h, hc, List.getLast?_singleton]
      · split at hline
        · next first lines hsplit =>
            rcases List.mem_cons.mp hline with rfl | hmem
            · simp
            · refine hrest (fun h => ?_) line (hsplit ▸ List.mem_cons_of_mem _ hmem)
              rw [h] at hsplit
              cases hsplit
              exact absurd hmem List.not_mem_nil
        · rw [List.mem_singleton.mp hline]
          simp

theorem getLast?_trimEnd (text : List Char) : (trimEnd text).getLast? ≠ some '\n' := by
  intro h
  simp only [trimEnd, List.getLast?_reverse] at h
  have := List.head?_dropWhile_not isBlank text.reverse
  rw [h] at this
  exact absurd this (by decide)

theorem trimEnd_eq_self {text : List Char} (h : ∀ c ∈ text.getLast?, ¬ isBlank c) :
    trimEnd text = text := by
  rw [trimEnd]
  cases hreverse : text.reverse with
  | nil => exact (List.reverse_eq_nil_iff.mp hreverse).symm
  | cons c rest =>
      have hlast : text.getLast? = some c := by
        rw [← List.head?_reverse, hreverse, List.head?_cons]
      rw [List.dropWhile_cons_of_neg (h c hlast), ← hreverse, List.reverse_reverse]

theorem splitLines_of_not_mem {text : List Char} (h : '\n' ∉ text) : splitLines text = [text] := by
  induction text with
  | nil => rfl
  | cons c rest ih =>
      obtain ⟨hc, hrest⟩ := not_or.mp (mt List.mem_cons.mpr h)
      rw [splitLines, if_neg (Ne.symm hc), ih hrest]

end Text

/-! ## Lines one after another -/

/-- Lines with these texts, numbered and laid out one after another from a number
and an offset. -/
inductive LaidOut : Int → Int → List Line → List (List Char) → Prop
  | nil (number start : Int) : LaidOut number start [] []
  | cons {number start : Int} {line : Line} {text : List Char} {lines : List Line}
      {texts : List (List Char)} :
      { line with ignored := false } = Line.ofText number start text →
      LaidOut (number + 1) (start + text.length) lines texts →
      LaidOut number start (line :: lines) (text :: texts)

/-- Whether a line is ignored, and how many lines behind it an earlier directive
still covers. -/
def Line.coverage (pending : Nat) (text : List Char) : Except DigitLimit (Bool × Nat) :=
  match pending with
  | pending + 1 => .ok (true, pending)
  | 0 => (LineDirective.ofText text).map fun
    | some (.run count) => (true, count)
    | some .inline => (true, 0)
    | none => (false, 0)

theorem Line.indexAll_cons (number start : Int) (pending : Nat) (text : List Char)
    (texts : List (List Char)) :
    indexAll number start pending (text :: texts) = (do
      let (ignored, pending) ← coverage pending text
      let lines ← indexAll (number + 1) (start + text.length) pending texts
      return { ofText number start text with ignored } :: lines) := by
  cases pending with
  | succ pending => rfl
  | zero =>
      simp only [indexAll, coverage]
      cases LineDirective.ofText text with
      | error refusal => rfl
      | ok directive? =>
          cases directive? with
          | none => rfl
          | some directive => cases directive <;> rfl

/-- Behind a line that is read the others are indexed with what is then pending. -/
theorem Line.indexAll_of_coverage {pending : Nat} {text : List Char} {covered : Bool × Nat}
    (h : coverage pending text = .ok covered) (number start : Int) (texts : List (List Char)) :
    indexAll number start pending (text :: texts) =
      (indexAll (number + 1) (start + text.length) covered.2 texts).map
        ({ ofText number start text with ignored := covered.1 } :: ·) := by
  rw [indexAll_cons, h]
  dsimp only [bind, Except.bind]
  cases indexAll (number + 1) (start + text.length) covered.2 texts <;> rfl

theorem laidOut_of_indexAll {texts : List (List Char)} {number start : Int} {pending : Nat}
    {lines : List Line} (h : Line.indexAll number start pending texts = .ok lines) :
    LaidOut number start lines texts := by
  induction texts generalizing number start pending lines with
  | nil =>
      cases h
      exact .nil number start
  | cons text texts ih =>
      cases hcoverage : Line.coverage pending text with
      | error refusal => simp [Line.indexAll_cons, hcoverage, bind, Except.bind] at h
      | ok covered =>
          rw [Line.indexAll_of_coverage hcoverage] at h
          cases hrest : Line.indexAll (number + 1) (start + text.length) covered.2 texts with
          | error refusal => simp [hrest, Except.map] at h
          | ok rest =>
              rw [hrest] at h
              cases h
              exact .cons rfl (ih hrest)

namespace LaidOut

variable {number start : Int} {lines : List Line} {texts : List (List Char)}

theorem map_ignoreIn (segments : List Segment) (h : LaidOut number start lines texts) :
    LaidOut number start (lines.map (Line.ignoreIn segments)) texts := by
  induction h with
  | nil => exact .nil _ _
  | cons hline _ ih => exact .cons hline ih

theorem bounds (h : LaidOut number start lines texts) {line : Line} (hline : line ∈ lines) :
    number ≤ line.number ∧ start ≤ line.start ∧ line.start ≤ line.stop ∧
      line.stop ≤ start + texts.flatten.length := by
  induction h with
  | nil => cases hline
  | @cons number start first text lines texts hfirst _ ih =>
      have hnumber : first.number = number := congrArg Line.number hfirst
      have hstart : first.start = start := congrArg Line.start hfirst
      have hstop : first.stop = start + text.length := congrArg Line.stop hfirst
      simp only [List.flatten_cons, List.length_append]
      rcases List.mem_cons.mp hline with rfl | hline
      · omega
      · have := ih hline
        omega

/-- Lines are in order by number and by offset. -/
theorem pairwise (h : LaidOut number start lines texts) :
    lines.Pairwise fun a b => a.number < b.number ∧ a.stop ≤ b.start := by
  induction h with
  | nil => exact List.Pairwise.nil
  | @cons number start first text lines texts hfirst hrest ih =>
      refine List.Pairwise.cons (fun line hline => ?_) ih
      have hnumber : first.number = number := congrArg Line.number hfirst
      have hstop : first.stop = start + text.length := congrArg Line.stop hfirst
      have := hrest.bounds hline
      omega

/-- A line stands where its number says. -/
theorem getElem?_number (h : LaidOut number start lines texts) {line : Line}
    (hline : line ∈ lines) : lines[(line.number - number).toNat]? = some line := by
  induction h with
  | nil => cases hline
  | @cons number start first text lines texts hfirst hrest ih =>
      have hnumber : first.number = number := congrArg Line.number hfirst
      rcases List.mem_cons.mp hline with rfl | hline
      · simp [hnumber]
      · have hle := (hrest.bounds hline).1
        have : (line.number - number).toNat = (line.number - (number + 1)).toNat + 1 := by omega
        rw [this, List.getElem?_cons_succ]
        exact ih hline

theorem start_lt_stop (h : LaidOut number start lines texts) (hne : ∀ text ∈ texts, text ≠ [])
    {line : Line} (hline : line ∈ lines) : line.start < line.stop := by
  induction h with
  | nil => cases hline
  | @cons number start first text lines texts hfirst _ ih =>
      have hstart : first.start = start := congrArg Line.start hfirst
      have hstop : first.stop = start + text.length := congrArg Line.stop hfirst
      rcases List.mem_cons.mp hline with rfl | hline
      · have := List.length_pos_iff.mpr (hne text List.mem_cons_self)
        omega
      · exact ih (fun text htext => hne text (List.mem_cons_of_mem _ htext)) hline

end LaidOut

/-! ## Offsets in lines -/

/-- Whether an offset lies in a line. -/
def Line.Holds (line : Line) (offset : Int) : Prop :=
  line.start ≤ offset ∧ offset < line.stop

namespace LaidOut

variable {number start : Int} {lines : List Line} {texts : List (List Char)}

theorem exists_holds (h : LaidOut number start lines texts) {offset : Int}
    (hstart : start ≤ offset) (hstop : offset < start + texts.flatten.length) :
    ∃ line ∈ lines, line.Holds offset := by
  induction h with
  | nil => simp at hstop; omega
  | @cons number start first text lines texts hfirst _ ih =>
      have hfirstStart : first.start = start := congrArg Line.start hfirst
      have hfirstStop : first.stop = start + text.length := congrArg Line.stop hfirst
      simp only [List.flatten_cons, List.length_append] at hstop
      by_cases hlt : offset < start + text.length
      · exact ⟨first, List.mem_cons_self, by omega, by omega⟩
      · obtain ⟨line, hline, hholds⟩ := ih (by omega) (by omega)
        exact ⟨line, List.mem_cons_of_mem _ hline, hholds⟩

/-- Lines split around any one of them into lines before and lines behind it. -/
theorem exists_append (h : LaidOut number start lines texts) {line : Line} (hline : line ∈ lines) :
    ∃ before after, lines = before ++ line :: after ∧ (∀ l ∈ before, l.stop ≤ line.start) ∧
      ∀ l ∈ after, line.stop ≤ l.start := by
  obtain ⟨before, after, rfl⟩ := List.append_of_mem hline
  obtain ⟨-, hafter, hbefore⟩ := List.pairwise_append.mp h.pairwise
  refine ⟨before, after, rfl, fun l hl => ?_, fun l hl => ?_⟩
  · exact (hbefore l hl line List.mem_cons_self).2
  · exact ((List.pairwise_cons.mp hafter).1 l hl).2

theorem eq_of_holds (h : LaidOut number start lines texts) {a b : Line} (ha : a ∈ lines)
    (hb : b ∈ lines) {offset : Int} (hoffset : a.Holds offset) (hoffset' : b.Holds offset) :
    a = b := by
  obtain ⟨before, after, rfl, hbefore, hafter⟩ := h.exists_append ha
  obtain ⟨hlo, hhi⟩ := hoffset
  obtain ⟨hlo', hhi'⟩ := hoffset'
  rcases List.mem_append.mp hb with hb | hb
  · have := hbefore b hb
    omega
  · rcases List.mem_cons.mp hb with rfl | hb
    · rfl
    · have := hafter b hb
      omega

theorem eq_of_number_eq (h : LaidOut number start lines texts) {a b : Line} (ha : a ∈ lines)
    (hb : b ∈ lines) (heq : a.number = b.number) : a = b := by
  have hfind := h.getElem?_number ha
  rw [heq, h.getElem?_number hb] at hfind
  exact (Option.some.inj hfind).symm

/-- A line with a smaller number comes before. -/
theorem stop_le_start (h : LaidOut number start lines texts) {a b : Line} (ha : a ∈ lines)
    (hb : b ∈ lines) (hlt : a.number < b.number) : a.stop ≤ b.start := by
  obtain ⟨before, after, rfl⟩ := List.append_of_mem hb
  obtain ⟨-, hafter, hbefore⟩ := List.pairwise_append.mp h.pairwise
  rcases List.mem_append.mp ha with ha | ha
  · exact (hbefore a ha b List.mem_cons_self).2
  · rcases List.mem_cons.mp ha with rfl | ha
    · omega
    · have := ((List.pairwise_cons.mp hafter).1 a ha).1
      omega

/-- Number and column, taken in this order, are in the order of offsets. -/
theorem le_iff (h : LaidOut number start lines texts) {a b : Line} (ha : a ∈ lines) (hb : b ∈ lines)
    {i j : Int} (hi : a.start ≤ i ∧ i ≤ a.stop) (hj : b.Holds j) :
    (a.number < b.number ∨ b.number = a.number ∧ i - a.start ≤ j - b.start) ↔ i ≤ j := by
  obtain ⟨hlo, hhi⟩ := hj
  rcases Int.lt_trichotomy a.number b.number with hlt | heq | hgt
  · have := h.stop_le_start ha hb hlt
    omega
  · obtain rfl := h.eq_of_number_eq ha hb heq
    omega
  · have := h.stop_le_start hb ha hgt
    omega

end LaidOut

/-! ## The lines of a range -/

/-- The last offset of a range. An empty range has its start for it. -/
def lastOffset (start stop : Int) : Int := max (stop - 1) start

theorem le_lastOffset (start stop : Int) : start ≤ lastOffset start stop :=
  Int.le_max_right _ _

section

variable {number origin : Int} {lines : List Line} {texts : List (List Char)}
  {start stop : Int} {line : Line}

theorem mem_overlapping_iff : line ∈ overlapping lines start stop ↔
    line ∈ lines ∧ line.start ≤ lastOffset start stop ∧ start < line.stop := by
  simp only [overlapping, lastOffset, List.mem_filter, Bool.and_eq_true, decide_eq_true_eq]

/-- A range overlaps the lines that a range within it overlaps. -/
theorem overlapping_subset {start' stop' : Int} (hstart : start ≤ start') (hlt : start' < stop')
    (hstop : stop' ≤ stop) : overlapping lines start' stop' ⊆ overlapping lines start stop := by
  intro line hline
  obtain ⟨hmem, hearly, hlate⟩ := mem_overlapping_iff.mp hline
  refine mem_overlapping_iff.mpr ⟨hmem, ?_, Int.lt_of_le_of_lt hstart hlate⟩
  simp only [lastOffset] at hearly ⊢
  omega

theorem pairwise_overlapping (h : LaidOut number origin lines texts) (start stop : Int) :
    (overlapping lines start stop).Pairwise fun a b => a.number < b.number :=
  (h.pairwise.imp And.left).filter _

theorem eq_or_lt_of_head?_overlapping (h : LaidOut number origin lines texts) {first : Line}
    (hfirst : (overlapping lines start stop).head? = some first)
    (hline : line ∈ overlapping lines start stop) : first = line ∨ first.number < line.number := by
  obtain ⟨rest, hrest⟩ := List.head?_eq_some_iff.mp hfirst
  have hpairwise := pairwise_overlapping h start stop
  rw [hrest] at hline hpairwise
  rcases List.mem_cons.mp hline with rfl | hline
  · exact Or.inl rfl
  · exact Or.inr ((List.pairwise_cons.mp hpairwise).1 line hline)

theorem eq_or_lt_of_getLast?_overlapping (h : LaidOut number origin lines texts) {last : Line}
    (hlast : (overlapping lines start stop).getLast? = some last)
    (hline : line ∈ overlapping lines start stop) : line = last ∨ line.number < last.number := by
  obtain ⟨front, hfront⟩ := List.getLast?_eq_some_iff.mp hlast
  have hpairwise := pairwise_overlapping h start stop
  rw [hfront] at hline hpairwise
  obtain ⟨-, -, hbefore⟩ := List.pairwise_append.mp hpairwise
  rcases List.mem_append.mp hline with hline | hline
  · exact Or.inr (hbefore line hline last List.mem_cons_self)
  · exact Or.inl (List.mem_singleton.mp hline)

/-- An overlapped line is the first when those before it stop before the range. -/
theorem head?_overlapping_of_forall (h : LaidOut number origin lines texts)
    (hline : line ∈ overlapping lines start stop)
    (hbefore : ∀ l ∈ lines, l.number < line.number → l.stop ≤ start) :
    (overlapping lines start stop).head? = some line := by
  obtain ⟨first, hfirst⟩ := Option.ne_none_iff_exists'.mp
    (mt List.head?_eq_none_iff.mp (List.ne_nil_of_mem hline))
  rcases eq_or_lt_of_head?_overlapping h hfirst hline with rfl | hlt
  · exact hfirst
  · obtain ⟨hmem, -, hlate⟩ := mem_overlapping_iff.mp (List.mem_of_head? hfirst)
    exact absurd hlate (Int.not_lt.mpr (hbefore first hmem hlt))

/-- An overlapped line is the last when those behind it start behind the range. -/
theorem getLast?_overlapping_of_forall (h : LaidOut number origin lines texts)
    (hline : line ∈ overlapping lines start stop)
    (hbehind : ∀ l ∈ lines, line.number < l.number → lastOffset start stop < l.start) :
    (overlapping lines start stop).getLast? = some line := by
  obtain ⟨last, hlast⟩ := Option.ne_none_iff_exists'.mp
    (mt List.getLast?_eq_none_iff.mp (List.ne_nil_of_mem hline))
  rcases eq_or_lt_of_getLast?_overlapping h hlast hline with rfl | hlt
  · exact hlast
  · obtain ⟨hmem, hearly, -⟩ := mem_overlapping_iff.mp (List.mem_of_getLast? hlast)
    exact absurd hearly (Int.not_le.mpr (hbehind last hmem hlt))

/-- The first line that a range overlaps holds its start. -/
theorem head?_overlapping (h : LaidOut number origin lines texts) (hline : line ∈ lines)
    (hstart : line.Holds start) : (overlapping lines start stop).head? = some line := by
  obtain ⟨hlo, hhi⟩ := hstart
  have hearly := Int.le_trans hlo (le_lastOffset start stop)
  refine head?_overlapping_of_forall h (mem_overlapping_iff.mpr ⟨hline, hearly, hhi⟩) ?_
  intro l hl hlt
  exact Int.le_trans (h.stop_le_start hl hline hlt) hlo

/-- The last line that a range overlaps holds its last offset. -/
theorem getLast?_overlapping (h : LaidOut number origin lines texts) (hline : line ∈ lines)
    (hlt : start < stop) (hstop : line.Holds (stop - 1)) :
    (overlapping lines start stop).getLast? = some line := by
  obtain ⟨hlo, hhi⟩ := hstop
  have hlast : lastOffset start stop = stop - 1 := Int.max_eq_left (by omega)
  refine getLast?_overlapping_of_forall h (mem_overlapping_iff.mpr ⟨hline, by omega, by omega⟩) ?_
  intro l hl hbehind
  have := h.stop_le_start hline hl hbehind
  omega

end

/-! ## Listings -/

namespace Listing

/-- A listing lays out the lines of a text. -/
structure Lists (listing : Listing) (text : List Char) : Prop where
  eof_eq : listing.eof = text.length
  laidOut : LaidOut 1 0 listing.lines.toList (Text.splitLines text)

/-- A listing is put together from the lines of a text and the segments that are found in it. -/
theorem build_eq_ok_iff {parse : Parse} {source : List Char} {wrapperLength : Int}
    {language : Option String} {listing : Listing} :
    (build parse source wrapperLength language).value = .ok listing ↔
      ∃ lines segments, Line.indexAll 1 0 0 (Text.splitLines (Text.trimEnd source)) = .ok lines ∧
        (findSegments parse (Text.trimEnd source) language).value = .ok segments ∧
        listing = assemble (Text.trimEnd source) wrapperLength lines segments := by
  simp only [build]
  cases Line.indexAll 1 0 0 (Text.splitLines (Text.trimEnd source)) with
  | error refusal => simp
  | ok lines =>
      cases (findSegments parse (Text.trimEnd source) language).value with
      | error error => simp
      | ok segments => simp [eq_comm]

theorem lists_of_build {parse : Parse} {source : List Char} {wrapperLength : Int}
    {language : Option String} {listing : Listing}
    (h : (build parse source wrapperLength language).value = .ok listing) :
    listing.Lists (Text.trimEnd source) := by
  obtain ⟨lines, segments, hlines, -, rfl⟩ := build_eq_ok_iff.mp h
  refine ⟨rfl, ?_⟩
  simpa [assemble] using (laidOut_of_indexAll hlines).map_ignoreIn segments

namespace Lists

variable {listing : Listing} {text : List Char} {line : Line} {offset : Int}

theorem exists_holds (h : listing.Lists text) (hlo : 0 ≤ offset) (hhi : offset < listing.eof) :
    ∃ line ∈ listing.lines.toList, line.Holds offset := by
  refine h.laidOut.exists_holds hlo ?_
  rw [Text.flatten_splitLines, Int.zero_add, ← h.eof_eq]
  exact hhi

/-- Lines lie within the text. -/
theorem bounds (h : listing.Lists text) (hline : line ∈ listing.lines.toList) :
    1 ≤ line.number ∧ 0 ≤ line.start ∧ line.start ≤ line.stop ∧ line.stop ≤ listing.eof := by
  have := h.laidOut.bounds hline
  rwa [Text.flatten_splitLines, Int.zero_add, ← h.eof_eq] at this

/-- Only the line of an empty text is empty. -/
theorem start_lt_stop (h : listing.Lists text) (hne : text ≠ [])
    (hlast : text.getLast? ≠ some '\n') (hline : line ∈ listing.lines.toList) :
    line.start < line.stop :=
  h.laidOut.start_lt_stop (Text.ne_nil_of_mem_splitLines hne hlast) hline

/-- The search by offset finds the line that holds it. -/
theorem lineAt?_eq_some_of_holds (h : listing.Lists text) (hline : line ∈ listing.lines.toList)
    (hoffset : line.Holds offset) : listing.lineAt? offset = some line := by
  have hsorted : listing.lines.toList.Pairwise fun a b => a.start ≤ b.start := by
    refine List.Pairwise.imp_of_mem (fun ha hb hab => ?_) h.laidOut.pairwise
    have := h.bounds ha
    omega
  have hp : Partitioned listing.lines fun l => decide (l.start ≤ offset) :=
    partitioned_of_pairwise hsorted fun a b hab hb => by
      simp only [decide_eq_true_eq] at hb ⊢
      omega
  obtain ⟨hlo, hhi⟩ := hoffset
  have hbounds := h.bounds hline
  obtain ⟨i, hi, rfl⟩ := List.mem_iff_getElem.mp hline
  rw [Array.getElem_toList] at hlo hhi hbounds ⊢
  rw [Array.length_toList] at hi
  rw [lineAt?, if_neg (by simp; omega)]
  cases hpoint : partitionPoint listing.lines fun l => decide (l.start ≤ offset) with
  | zero =>
      have := forall_not_of_partitionPoint_eq_zero hp hpoint _ (Array.getElem_mem hi)
      simp at this
      omega
  | succ n =>
      obtain ⟨last, hlast, hle, hlater⟩ := exists_getElem?_of_partitionPoint hp hpoint
      obtain ⟨hn, rfl⟩ := Array.getElem?_eq_some_iff.mp hlast
      rcases Nat.lt_or_eq_of_le (hlater i hi (by simpa using hlo)) with hlt | rfl
      · -- A line behind the one that holds the offset starts behind it.
        have := (List.pairwise_iff_getElem.mp h.laidOut.pairwise i n hi hn hlt).2
        simp only [Array.getElem_toList, decide_eq_true_eq] at this hle
        omega
      · simp [hlast]

theorem lineAt?_eq_some_iff (h : listing.Lists text) (hlo : 0 ≤ offset)
    (hhi : offset < listing.eof) :
    listing.lineAt? offset = some line ↔ line ∈ listing.lines.toList ∧ line.Holds offset := by
  constructor
  · intro hfound
    obtain ⟨own, hown, hholds⟩ := h.exists_holds hlo hhi
    rw [h.lineAt?_eq_some_of_holds hown hholds] at hfound
    cases hfound
    exact ⟨hown, hholds⟩
  · rintro ⟨hline, hholds⟩
    exact h.lineAt?_eq_some_of_holds hline hholds

theorem getElem?_number (h : listing.Lists text) (hline : line ∈ listing.lines.toList) :
    listing.lines[(max line.number 1 - 1).toNat]? = some line := by
  have hnumber := (h.bounds hline).1
  rw [Int.max_eq_left hnumber, ← Array.getElem?_toList]
  exact h.laidOut.getElem?_number hline

/-- Back from a column of a line to the offset. -/
theorem offsetOf_sub_start (h : listing.Lists text) (hline : line ∈ listing.lines.toList)
    (hlo : line.start ≤ offset) (hhi : offset ≤ line.stop) :
    listing.offsetOf line.number (.finite (offset - line.start)) = offset := by
  simp only [offsetOf, h.getElem?_number hline]
  omega

theorem offsetOf_infinite (h : listing.Lists text) (hline : line ∈ listing.lines.toList) :
    listing.offsetOf line.number (.infinite false) = line.stop := by
  have := h.bounds hline
  simp only [offsetOf, h.getElem?_number hline]
  omega

end Lists

/-- In the listing of a text that is not blank no line is empty. -/
theorem start_lt_stop_of_build {parse : Parse} {source : List Char} {wrapperLength : Int}
    {language : Option String} {listing : Listing}
    (h : (build parse source wrapperLength language).value = .ok listing)
    (hne : Text.trimEnd source ≠ []) {line : Line} (hline : line ∈ listing.lines.toList) :
    line.start < line.stop :=
  (lists_of_build h).start_lt_stop hne (Text.getLast?_trimEnd source) hline

end Listing

end Remap
