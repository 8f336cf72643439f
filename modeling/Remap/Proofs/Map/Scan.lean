import Remap.Proofs.Map.Nearest
import Remap.Proofs.Map.Order

/-!
# Lookups by going through all mappings

What the lookups of a source map answer, without sortings and searches. A lookup
along the generated text goes through the mappings on one line, a lookup in an
original text through the mappings from one source; each keeps those on the side
of the point that the bias says, of these the ones nearest to the point, and of
these the first.

`originalFor_ofMappings` and `generatedFor_ofMappings` say that the binary
searches over all mappings answer the same. That needs an order of the sources
in which only a source itself ties with it.
-/

namespace Remap

open Std

namespace Mapping

variable {σ : Type} [Ord σ] [SourceName σ]

/-- The original position of the nearest mapping on a generated line; of several
nearest, the first by source, line and column. -/
def originalByScan (mappings : List (Mapping σ)) (line : Int) (column : Column) (bias : Bias) :
    OriginalPosition σ :=
  let onLine := mappings.filter (·.generatedLine = line)
  let nearest := nearestTo (compareOn generatedColumn)
    (fun m => compare (m.generatedColumn : Column) column) bias onLine
  match earliest? compareOriginalSide nearest with
  | some m => m.originalPosition
  | none => {}

/-- The generated position of the nearest mapping from a source; of several
nearest, the first along the generated text. -/
def generatedByScan [BEq σ] (mappings : List (Mapping σ)) (source : σ) (line column : Int)
    (bias : Bias) : GeneratedPosition :=
  let fromSource := mappings.filter (·.source == some source)
  let nearest := nearestTo compareOriginalPlace (·.compareToPlace line column) bias fromSource
  match earliest? compareGeneratedPoint nearest with
  | some m => m.generatedPosition
  | none => {}

/-- Both lookups by going through all mappings. -/
def scanLookup [BEq σ] (mappings : List (Mapping σ)) : Lookup σ :=
  ⟨originalByScan mappings, generatedByScan mappings⟩

/-! ## Points lie in keeping with the orders -/

omit [Ord σ] [SourceName σ] in
theorem places_generated (line : Int) (column : Column) :
    Places (compareGeneratedPoint (σ := σ)) (·.compareToGenerated line column) := by
  let _ : Ord (Int × Column) := lexOrd
  exact Places.of_key (fun m : Mapping σ => (m.generatedLine, (m.generatedColumn : Column)))
    (line, column)

theorem places_original [TransOrd σ] (source : σ) (line column : Int) :
    Places (compareOriginalPoint (σ := σ)) (·.compareToOriginal source line column) := by
  let _ : Ord (Int × Int) := lexOrd
  let _ : Ord (σ × Int × Int) := lexOrd
  exact Places.of_key
    (fun m : Mapping σ => (m.sourceOrNone, m.originalLine.getD 0, m.originalColumn.getD 0))
    (source, line, column)

omit [Ord σ] in
theorem sourceOrNone_eq_iff {m : Mapping σ} (h : m.source.isSome) (source : σ) :
    m.sourceOrNone = source ↔ m.source = some source := by
  obtain ⟨own, hown⟩ := Option.isSome_iff_exists.mp h
  simp [sourceOrNone, hown]

end Mapping

namespace SourceMap

open Mapping

variable {σ : Type} [Ord σ] [TransOrd σ] [SourceName σ]

/-! ## The searches are scans -/

theorem originalFor_ofMappings (mappings : List (Mapping σ)) (line : Int) (column : Column)
    (bias : Bias) :
    (ofMappings mappings).originalFor line column bias =
      originalByScan mappings line column bias := by
  have hline (m : Mapping σ) :
      (compare m.generatedLine line).isEq = decide (m.generatedLine = line) := by
    rw [Bool.eq_iff_iff, Ordering.isEq_iff_eq_eq, LawfulEqOrd.compare_eq_iff_eq, decide_eq_true_eq]
  have hsearch :
      (nearest? (ofMappings mappings).byGenerated compareGeneratedPoint
        (·.compareToGenerated line column) bias).filter (fun m => m.generatedLine = line) =
      earliest? compareOriginalSide (nearestTo (compareOn generatedColumn)
        (fun m => compare (m.generatedColumn : Column) column) bias
        (mappings.filter (·.generatedLine = line))) := by
    have h := filter_nearest?_mergeSort (compareOn generatedLine) (compareOn generatedColumn)
      compareOriginalSide
      (places_generated (σ := σ) line column) (fun x y h => TransCmp.congr_right h) bias mappings
    simp only [hline] at h
    simp only [ofMappings, compareGenerated_eq]
    exact h
  simp only [originalFor, originalByScan, ← hsearch]
  cases nearest? (ofMappings mappings).byGenerated compareGeneratedPoint
    (·.compareToGenerated line column) bias with
  | none => rfl
  | some m => by_cases hm : m.generatedLine = line <;> simp [hm, Option.filter_some]

variable [BEq σ] [LawfulBEq σ] [LawfulEqOrd σ]

theorem generatedFor_ofMappings (mappings : List (Mapping σ)) (source : σ) (line column : Int)
    (bias : Bias) :
    (ofMappings mappings).generatedFor source line column bias =
      generatedByScan mappings source line column bias := by
  have hsource (m : Mapping σ) (hm : m.source.isSome) :
      (compare m.sourceOrNone source).isEq = (m.source == some source) := by
    rw [Bool.eq_iff_iff, Ordering.isEq_iff_eq_eq, LawfulEqOrd.compare_eq_iff_eq, beq_iff_eq]
    exact sourceOrNone_eq_iff hm source
  have hfrom : (mappings.filter (·.source.isSome)).filter
      (fun m => (compare m.sourceOrNone source).isEq) =
        mappings.filter (·.source == some source) := by
    rw [List.filter_filter]
    refine List.filter_congr fun m _ => ?_
    cases hm : m.source.isSome with
    | true => simp [hsource m hm]
    | false => simp_all
  have hsearch :
      (nearest? (ofMappings mappings).byOriginal compareOriginalPoint
        (·.compareToOriginal source line column) bias).filter
          (fun m => (compare m.sourceOrNone source).isEq) =
      earliest? compareGeneratedPoint (nearestTo compareOriginalPlace
        (·.compareToPlace line column) bias (mappings.filter (·.source == some source))) := by
    rw [← hfrom]
    exact filter_nearest?_mergeSort (compareOn sourceOrNone) compareOriginalPlace
      compareGeneratedPoint
      (places_original source line column) (fun x y h => TransCmp.congr_right h) bias
      (mappings.filter (·.source.isSome))
  simp only [generatedFor, generatedByScan, ← hsearch]
  cases hm : nearest? (ofMappings mappings).byOriginal compareOriginalPoint
    (·.compareToOriginal source line column) bias with
  | none => rfl
  | some m =>
      have hmem : m ∈ (ofMappings mappings).byOriginal := mem_of_nearest?_eq_some hm
      have hsome : m.source.isSome := by
        simp only [ofMappings, List.mem_toArray, List.mem_mergeSort, List.mem_filter] at hmem
        exact hmem.2
      rw [Option.filter_some, hsource m hsome]
      by_cases heq : m.source == some source <;> simp [heq]

theorem lookup_ofMappings (mappings : List (Mapping σ)) :
    (ofMappings mappings).lookup = scanLookup mappings := by
  simp only [lookup, scanLookup, Lookup.mk.injEq]
  exact ⟨funext₃ (originalFor_ofMappings mappings),
    funext fun source => funext₃ (generatedFor_ofMappings mappings source)⟩

end SourceMap

/-! ## Mappings with whole original points

A source map of texts is only made from mappings whose original points have an
order, and only asked for points that have one among them. Where every mapping
with a source has a whole original point neither can fail. -/

theorem Mapping.exists_point_of_anchored {σ : Type} {m : Mapping σ} (h : m.isAnchored)
    (hsome : m.source.isSome) :
    ∃ line column, m.originalLine = some line ∧ m.originalColumn = some column := by
  obtain ⟨source, hsource⟩ := Option.isSome_iff_exists.mp hsome
  simp only [isAnchored, hsource, Option.isNone_some, Bool.false_or, Bool.and_eq_true,
    Option.isSome_iff_exists] at h
  obtain ⟨⟨line, hline⟩, column, hcolumn⟩ := h
  exact ⟨line, column, hline, hcolumn⟩

namespace SourceName

variable {σ : Type} [BEq σ]

/-- Equal elements need not be the same here. -/
theorem mem_of_mem_eraseDups {a : σ} {l : List σ} (h : a ∈ l.eraseDups) : a ∈ l := by
  induction hn : l.length using Nat.strongRecOn generalizing l with
  | ind n ih =>
      cases l with
      | nil => exact h
      | cons b l =>
          rw [List.eraseDups_cons, List.mem_cons] at h
          rcases h with rfl | h
          · exact List.mem_cons_self
          · have hlt : (l.filter fun c => !c == b).length < n :=
              hn ▸ Nat.lt_succ_of_le (List.length_filter_le _ l)
            exact List.mem_cons_of_mem _ (List.mem_filter.mp (ih _ hlt h rfl)).1

theorem allHaveOrder_of_forall [SourceName σ] {sources : List σ}
    (h : ∀ a ∈ sources, ∀ b ∈ sources, haveOrder a b = true) : allHaveOrder sources = true :=
  List.all_eq_true.mpr fun a ha => List.all_eq_true.mpr fun b hb =>
    h a (mem_of_mem_eraseDups ha) b (mem_of_mem_eraseDups hb)

end SourceName

namespace SourceMap

open Mapping

section

variable {σ : Type} [Ord σ] [SourceName σ] [BEq σ]

/-- Whole original points whose sources all have an order among each other have one. -/
theorem ofMappings?_of_haveOrder {mappings : List (Mapping σ)} (h : ∀ m ∈ mappings, m.isAnchored)
    (hstanding : SourceName.allHaveOrder (mappings.map standing) = true)
    (hsource : SourceName.allHaveOrder (mappings.filterMap Mapping.source) = true) :
    ofMappings? mappings = some (ofMappings mappings) := by
  have hgenerated : hasGeneratedOrder mappings = true := by
    rw [hasGeneratedOrder, hstanding, Bool.true_or]
  have horiginal : hasOriginalOrder (mappings.filter (·.source.isSome)) = true := by
    have hall : (mappings.filter (·.source.isSome)).all isAnchored = true :=
      List.all_eq_true.mpr fun m hm => h m (List.mem_filter.mp hm).1
    have hsources : (mappings.filter (·.source.isSome)).filterMap Mapping.source =
        mappings.filterMap Mapping.source := by
      rw [List.filterMap_filter]
      congr 1
      funext m
      cases m.source <;> rfl
    rw [hasOriginalOrder, hsources, hsource, hall, Bool.true_or, Bool.true_and]
  rw [ofMappings?, hgenerated, horiginal, Bool.true_and, if_pos rfl]

end

theorem haveOrder_texts (a b : String) :
    SourceName.haveOrder (Value.str a) (Value.str b) = true := by
  simp only [SourceName.haveOrder, Value.str, Value.order?, Scalar.order?]
  split <;> rfl

/-- Values that are texts have an order, and a missing one stands as a text as well. -/
theorem ofMappings?_of_texts {mappings : List (Mapping Value)} (h : ∀ m ∈ mappings, m.isAnchored)
    (htexts : ∀ m ∈ mappings, ∀ source, m.source = some source → ∃ s : String, source = .str s) :
    ofMappings? mappings = some (ofMappings mappings) := by
  have hstanding (m) (hm : m ∈ mappings) : ∃ s : String, m.standing = .str s := by
    unfold standing SourceName.standing
    cases hsource : m.source with
    | none => exact ⟨"", rfl⟩
    | some source =>
        obtain ⟨s, rfl⟩ := htexts m hm source hsource
        by_cases hempty : (Value.str s).isTrivial
        · exact ⟨"", if_pos hempty⟩
        · exact ⟨s, if_neg hempty⟩
  refine ofMappings?_of_haveOrder h ?_ ?_
  · refine SourceName.allHaveOrder_of_forall fun a ha b hb => ?_
    obtain ⟨m, hm, rfl⟩ := List.mem_map.mp ha
    obtain ⟨n, hn, rfl⟩ := List.mem_map.mp hb
    obtain ⟨s, hs⟩ := hstanding m hm
    obtain ⟨t, ht⟩ := hstanding n hn
    rw [hs, ht]
    exact haveOrder_texts s t
  · refine SourceName.allHaveOrder_of_forall fun a ha b hb => ?_
    obtain ⟨m, hm, ha⟩ := List.mem_filterMap.mp ha
    obtain ⟨n, hn, hb⟩ := List.mem_filterMap.mp hb
    obtain ⟨s, rfl⟩ := htexts m hm a ha
    obtain ⟨t, rfl⟩ := htexts n hn b hb
    exact haveOrder_texts s t

theorem ofMappings?_of_anchored {mappings : List (Mapping String)}
    (h : ∀ m ∈ mappings, m.isAnchored) : ofMappings? mappings = some (ofMappings mappings) :=
  ofMappings?_of_haveOrder h (SourceName.allHaveOrder_string _) (SourceName.allHaveOrder_string _)

theorem eq_ofMappings_of_ofMappings? {σ : Type} [Ord σ] [SourceName σ] [BEq σ]
    {mappings : List (Mapping σ)} {map : SourceMap σ} (h : ofMappings? mappings = some map) :
    map = ofMappings mappings := by
  simp only [ofMappings?] at h
  split at h
  · exact (Option.some.inj h).symm
  · cases h

theorem canPlace_of_anchored {mappings : List (Mapping String)}
    (h : ∀ m ∈ mappings, m.isAnchored) (source : String) (line : Int) :
    (ofMappings mappings).canPlace source line = true := by
  refine Array.all_eq_true_iff_forall_mem.mpr fun m hm => ?_
  simp only [ofMappings, List.mem_toArray, List.mem_mergeSort, List.mem_filter] at hm
  obtain ⟨l, c, hl, hc⟩ := exists_point_of_anchored (h m hm.1) hm.2
  simp [SourceName.haveOrder, hl, hc]

/-- The source map of mappings with whole original points exists, and each of its
lookups is a scan of the mappings. -/
theorem lookups_eq_scan {mappings : List (Mapping String)} (h : ∀ m ∈ mappings, m.isAnchored) :
    ∃ map, ofMappings? mappings = some map ∧
      (∀ line column bias,
        map.originalFor line column bias = originalByScan mappings line column bias) ∧
      ∀ source line column bias, map.generatedFor? source line column bias =
        some (generatedByScan mappings source line column bias) := by
  refine ⟨_, ofMappings?_of_anchored h, originalFor_ofMappings mappings, ?_⟩
  intro source line column bias
  rw [generatedFor?, if_pos (canPlace_of_anchored h source line), generatedFor_ofMappings]

/-- Two mappings at one generated point, two with one original point, and one
without a source. -/
def tiedMappings : List (Mapping String) :=
  [⟨1, 4, some "b.js", some 2, some 0, none⟩, ⟨2, 0, some "a.js", some 1, some 3, none⟩,
    ⟨1, 2, none, none, none, none⟩, ⟨1, 4, some "a.js", some 1, some 3, some "f"⟩]

theorem lookups_eq_scan_tiedMappings :
    (∀ m ∈ tiedMappings, m.isAnchored) ∧ ∃ map, ofMappings? tiedMappings = some map ∧
      map.originalFor 1 (.finite 9) .atOrBefore =
        ⟨some "a.js", some 1, some (.finite 3), some "f"⟩ ∧
      map.originalFor 1 (.finite 1) .atOrAfter = {} ∧
      map.generatedFor? "a.js" 1 0 .atOrAfter = some ⟨some 1, some (.finite 4)⟩ ∧
      map.generatedFor? "b.js" 1 9 .atOrBefore = some {} := by
  have hanchored : ∀ m ∈ tiedMappings, m.isAnchored := by decide
  obtain ⟨map, hmap, horiginal, hgenerated⟩ := lookups_eq_scan hanchored
  exact ⟨hanchored, map, hmap, (horiginal ..).trans (by decide), (horiginal ..).trans (by decide),
    (hgenerated ..).trans (by decide), (hgenerated ..).trans (by decide)⟩

end SourceMap

/-! ## What a lookup answers -/

theorem Bias.admits_compare_atOrBefore {a b : Int} : atOrBefore.admits (compare a b) ↔ a ≤ b :=
  isLE_compare

theorem Bias.admits_compare_atOrAfter {a b : Int} : atOrAfter.admits (compare a b) ↔ b ≤ a :=
  isGE_compare

namespace Mapping

theorem admits_compareToPlace_atOrAfter {σ : Type} {m : Mapping σ} {ownLine ownColumn : Int}
    (hline : m.originalLine = some ownLine) (hcolumn : m.originalColumn = some ownColumn)
    {line column : Int} :
    Bias.atOrAfter.admits (m.compareToPlace line column) ↔
      line < ownLine ∨ ownLine = line ∧ column ≤ ownColumn := by
  simp only [compareToPlace, hline, hcolumn, Option.getD_some, Bias.admits_then,
    Bias.admits_compare_atOrAfter, ne_eq, LawfulEqOrd.compare_eq_iff_eq]
  omega

variable {σ : Type} [Ord σ] [SourceName σ]

/-- The mapping that a lookup along the generated text comes upon. -/
structure IsNearestOnLine (mappings : List (Mapping σ)) (line : Int) (column : Column)
    (bias : Bias) (m : Mapping σ) : Prop where
  mem : m ∈ mappings
  line_eq : m.generatedLine = line
  admits : bias.admits (compare (m.generatedColumn : Column) column)
  nearest : ∀ n ∈ mappings, n.generatedLine = line →
    bias.admits (compare (n.generatedColumn : Column) column) →
      bias.admits (compare n.generatedColumn m.generatedColumn)
  first : ∀ n ∈ mappings, n.compareGeneratedPoint m = .eq → (m.compareOriginalSide n).isLE

/-- The mapping that a lookup in an original text comes upon. -/
structure IsNearestInSource (mappings : List (Mapping σ)) (source : σ) (line column : Int)
    (bias : Bias) (m : Mapping σ) : Prop where
  mem : m ∈ mappings
  source_eq : m.source = some source
  admits : bias.admits (m.compareToPlace line column)
  nearest : ∀ n ∈ mappings, n.source = some source → bias.admits (n.compareToPlace line column) →
    bias.admits (n.compareOriginalPlace m)
  first : ∀ n ∈ mappings, n.source = some source → n.compareOriginalPlace m = .eq →
    (m.compareGeneratedPoint n).isLE

end Mapping

namespace SourceMap

open Mapping

variable {σ : Type} [Ord σ] [TransOrd σ] [SourceName σ]

/-- A lookup along the generated text answers for the nearest mapping on the line,
or nothing where the line has no mapping on that side. -/
theorem originalFor_ofMappings_cases (mappings : List (Mapping σ)) (line : Int) (column : Column)
    (bias : Bias) :
    (∃ m, IsNearestOnLine mappings line column bias m ∧
        (ofMappings mappings).originalFor line column bias = m.originalPosition) ∨
      ((ofMappings mappings).originalFor line column bias = {} ∧ ∀ n ∈ mappings,
        n.generatedLine = line → ¬ bias.admits (compare (n.generatedColumn : Column) column)) := by
  rw [originalFor_ofMappings, originalByScan]
  rcases earliest?_nearestTo (compareOn generatedColumn) compareOriginalSide
      (fun m : Mapping σ => compare (m.generatedColumn : Column) column) bias
      (mappings.filter (·.generatedLine = line)) with
    ⟨m, hm, hfound, hadmits, hnearest, hfirst⟩ | ⟨hfound, hnone⟩
  · obtain ⟨hmem, hline⟩ := List.mem_filter.mp hm
    rw [decide_eq_true_eq] at hline
    have hon (n : Mapping σ) (hn : n ∈ mappings) (hnline : n.generatedLine = line) :
        n ∈ mappings.filter (·.generatedLine = line) :=
      List.mem_filter.mpr ⟨hn, decide_eq_true hnline⟩
    refine Or.inl ⟨m, ⟨hmem, hline, hadmits, fun n hn hnline => hnearest n (hon n hn hnline), ?_⟩,
      by rw [hfound]⟩
    intro n hn heq
    obtain ⟨hnline, hncolumn⟩ := compareGeneratedPoint_eq_iff.mp heq
    refine hfirst n (hon n hn (hnline.trans hline)) (by rw [hncolumn]; exact hadmits) ?_
    exact LawfulEqOrd.compare_eq_iff_eq.mpr hncolumn
  · refine Or.inr ⟨by rw [hfound], fun n hn hnline => hnone n ?_⟩
    exact List.mem_filter.mpr ⟨hn, decide_eq_true hnline⟩

variable [BEq σ] [LawfulBEq σ] [LawfulEqOrd σ]

/-- A lookup in an original text answers for the nearest mapping from it, or
nothing where it has no mapping on that side. -/
theorem generatedFor_ofMappings_cases (mappings : List (Mapping σ)) (source : σ)
    (line column : Int) (bias : Bias) :
    (∃ m, IsNearestInSource mappings source line column bias m ∧
        (ofMappings mappings).generatedFor source line column bias = m.generatedPosition) ∨
      ((ofMappings mappings).generatedFor source line column bias = {} ∧ ∀ n ∈ mappings,
        n.source = some source → ¬ bias.admits (n.compareToPlace line column)) := by
  rw [generatedFor_ofMappings, generatedByScan]
  rcases earliest?_nearestTo compareOriginalPlace compareGeneratedPoint
      (fun m : Mapping σ => m.compareToPlace line column) bias
      (mappings.filter (·.source == some source)) with
    ⟨m, hm, hfound, hadmits, hnearest, hfirst⟩ | ⟨hfound, hnone⟩
  · obtain ⟨hmem, hsource⟩ := List.mem_filter.mp hm
    have hfrom (n : Mapping σ) (hn : n ∈ mappings) (hnsource : n.source = some source) :
        n ∈ mappings.filter (·.source == some source) :=
      List.mem_filter.mpr ⟨hn, beq_iff_eq.mpr hnsource⟩
    refine Or.inl ⟨m, ⟨hmem, beq_iff_eq.mp hsource, hadmits,
      fun n hn hnsource => hnearest n (hfrom n hn hnsource), ?_⟩, by rw [hfound]⟩
    intro n hn hnsource heq
    obtain ⟨hline, hcolumn⟩ := compareOriginalPlace_eq_iff.mp heq
    refine hfirst n (hfrom n hn hnsource) ?_ heq
    rw [compareToPlace, hline, hcolumn]
    exact hadmits
  · refine Or.inr ⟨by rw [hfound], fun n hn hnsource => hnone n ?_⟩
    exact List.mem_filter.mpr ⟨hn, beq_iff_eq.mpr hnsource⟩

end SourceMap

end Remap
