import Remap.Map.Document
import Remap.Proofs.Map.Quantities
import Remap.Proofs.Map.Scan
import Remap.Proofs.Text.Split

/-!
# Written documents read back

The mappings of a document are written as differences: each number of a segment is what
its coordinate has moved since it was last written, the generated column since the start
of its line. Reading adds the differences up again, so that it comes to the coordinates
that were written, of any size and on any line (`place_numbers`, `placeSegments_segments`,
`placeLines_lineTexts`).

A segment without an original point leaves the other coordinates as they are and shows
none of them: its mapping is the same whatever came before it (`Point.mapping`).
-/

namespace Remap

namespace Document

/-! ## Points and how they are written -/

/-- An original point in a document: the source and the name by their indices, and the line
counted from zero. -/
structure Origin where
  source : Nat
  line : Nat
  column : Nat
  name : Option Nat
deriving Repr, DecidableEq

/-- A point of a generated line, with the original point that it comes from. -/
structure Point where
  column : Nat
  origin : Option Origin
deriving Repr, DecidableEq

namespace Point

/-- Whether the source and the name of a point are there. -/
def InRange (point : Point) (sources names : List String) : Prop :=
  ∀ origin ∈ point.origin, origin.source < sources.length ∧
    ∀ name ∈ origin.name, name < names.length

instance (point : Point) (sources names : List String) :
    Decidable (point.InRange sources names) :=
  inferInstanceAs <| Decidable <| ∀ origin ∈ point.origin, origin.source < sources.length ∧
    ∀ name ∈ origin.name, name < names.length

/-- The coordinates behind a point. -/
def after (point : Point) (r : Running) : Running :=
  match point.origin with
  | none => { r with column := point.column }
  | some origin => ⟨point.column, origin.source, origin.line, origin.column,
      match origin.name with
      | none => r.name
      | some name => name⟩

/-- The numbers of the segment of a point: what each coordinate moves by. -/
def numbers (point : Point) (r : Running) : List Int :=
  match point.origin with
  | none => [point.column - r.column]
  | some origin => [point.column - r.column, origin.source - r.source, origin.line - r.line,
      origin.column - r.originalColumn] ++
      match origin.name with
      | none => []
      | some name => [name - r.name]

/-- The mapping that a point on a generated line stands for, lines counted from zero. -/
def mapping (sources names : List String) (line : Nat) (point : Point) : Mapping Value where
  generatedLine := line + 1
  generatedColumn := point.column
  source := point.origin.bind fun origin => sources[origin.source]?.map Value.str
  originalLine := point.origin.map fun origin => (origin.line : Int) + 1
  originalColumn := point.origin.map fun origin => (origin.column : Int)
  name := point.origin.bind fun origin => origin.name.bind fun name => names[name]?

end Point

/-- The segments of the points of a generated line. -/
def segments : List Point → Running → List (List Char)
  | [], _ => []
  | point :: rest, r => Vlq.write (point.numbers r) :: segments rest (point.after r)

/-- The coordinates behind some points. -/
def behind (points : List Point) (r : Running) : Running :=
  points.foldl (fun r point => point.after r) r

/-- The texts of generated lines. -/
def lineTexts : List (List Point) → Running → List (List Char)
  | [], _ => []
  | points :: rest, r =>
    [','].intercalate (segments points { r with column := 0 }) ::
      lineTexts rest (behind points { r with column := 0 })

/-- The text of the mappings of generated lines. -/
def mappingText (lines : List (List Point)) : String :=
  String.ofList ([';'].intercalate (lineTexts lines {}))

/-- Whether a document holds some sources, names and generated lines. It may leave out the
names where there are none, and have other entries besides. -/
structure Holds (document : Value) (sources names : List String) (lines : List (List Point)) :
    Prop where
  isTable : document.isTable = true
  writable : document.holdsLongInteger = false
  sources_eq : document.get? "sources" = some (.list (sources.map Value.str))
  names_eq : (document.get? "names").getD (.list []) = .list (names.map Value.str)
  mappings_eq : document.get? "mappings" = some (.str (mappingText lines))
  root_eq : document.get? "sourceRoot" = none

/-- The document of some sources, names and generated lines. -/
def write (sources names : List String) (lines : List (List Point)) : Value :=
  .record [("version", .int 3), ("sources", .list (sources.map Value.str)),
    ("names", .list (names.map Value.str)), ("mappings", .str (mappingText lines))]

theorem isLongInteger_of_digit {n : Int} (h : n.natAbs < 10) :
    (Scalar.int n).isLongInteger = false := by
  have hlimit : DigitLimit.allowed ≠ 0 := by decide
  unfold Scalar.isLongInteger
  generalize DigitLimit.allowed = limit at hlimit
  exact decide_eq_false (Nat.not_le_of_lt (Nat.lt_of_lt_of_le h (Nat.le_self_pow hlimit 10)))

theorem anyHoldsLong_texts (texts : List String) (around : Nat → Bool) :
    Value.anyHoldsLong (texts.map Value.str) around = false := by
  induction texts with
  | nil => rfl
  | cons text texts ih =>
      rw [List.map_cons, Value.anyHoldsLong, ih]
      rfl

theorem holds_write (sources names : List String) (lines : List (List Point)) :
    Holds (write sources names lines) sources names lines where
  isTable := rfl
  writable := by
    simp only [write, Value.record, Value.holdsLongInteger, Value.holdsLongIn, List.map_cons,
      List.map_nil, Value.entryHoldsLong, anyHoldsLong_texts, Value.int, Value.str,
      isLongInteger_of_digit (show (3 : Int).natAbs < 10 by decide)]
    rfl
  sources_eq := rfl
  names_eq := rfl
  mappings_eq := rfl
  root_eq := rfl

/-- The mappings of generated lines, the first of which has this number. -/
def mappingsFrom (sources names : List String) (line : Nat) (lines : List (List Point)) :
    List (Mapping Value) :=
  (lines.zipIdx line).flatMap fun entry => entry.1.map (Point.mapping sources names entry.2)

/-! ## Segments -/

/-- The coordinates that are never written below zero. -/
def Running.IsNonnegative (r : Running) : Prop := 0 ≤ r.line ∧ 0 ≤ r.originalColumn

theorem isNonnegative_after (point : Point) {r : Running} (h : r.IsNonnegative) :
    (point.after r).IsNonnegative ∧ (point.after r).hasNegative = false := by
  obtain ⟨hline, hcolumn⟩ := h
  unfold Running.IsNonnegative Running.hasNegative Point.after
  cases point.origin with
  | none => simp [hline, hcolumn]
  | some origin => simp

section

variable {sources names : List String} {parts : Parts}

theorem parts_source {index : Nat} (hsources : parts.sources = .list (sources.map Value.str))
    (h : index < sources.length) (segment : String) :
    parts.source segment index = .ok (sources[index]?.map Value.str) := by
  simp [Parts.source, hsources, sourceItems, h, bind, Except.bind, pure, Except.pure,
    Value.isNull, Value.str]

theorem parts_name {index : Nat} (hnames : parts.names = names) (h : index < names.length)
    (segment : String) :
    ∃ name, parts.name segment index = .ok name ∧ names[index]? = some name := by
  refine ⟨names[index], ?_, List.getElem?_eq_getElem h⟩
  have hrange : ¬ (index : Int) < 0 := by omega
  simp [Parts.name, hnames, hrange, h]

/-- A segment stands for the point that it was written for. -/
theorem place_numbers (hsources : parts.sources = .list (sources.map Value.str))
    (hnames : parts.names = names) {point : Point} (hpoint : point.InRange sources names)
    {r : Running} (hr : r.IsNonnegative) (line : Nat) (segment : String) :
    place parts (line + 1) segment (point.numbers r) r =
      .ok (point.mapping sources names line, point.after r) := by
  obtain ⟨column, origin⟩ := point
  have hnegative := (isNonnegative_after ⟨column, origin⟩ hr).2
  have hmoved (old new : Int) : old + (new - old) = new := by omega
  cases origin with
  | none =>
      simp only [Point.after] at hnegative
      simp only [place, Point.numbers, Point.after, Point.mapping, hmoved, hnegative, bind,
        Except.bind, pure, Except.pure]
      rfl
  | some origin =>
      obtain ⟨source, originLine, originColumn, name⟩ := origin
      obtain ⟨hsource, hname⟩ := hpoint _ rfl
      have hfound : sources[source]? = some sources[source] := List.getElem?_eq_getElem hsource
      simp only [Point.after] at hnegative
      cases name with
      | none =>
          simp only [place, Point.numbers, Point.after, Point.mapping, hmoved, hnegative,
            parts_source hsources hsource, hfound, bind, Except.bind, pure, Except.pure,
            List.append_nil, Option.bind_some, Option.map_some]
          rfl
      | some name =>
          obtain ⟨text, hread, htext⟩ := parts_name hnames (hname name rfl) segment
          simp only [place, Point.numbers, Point.after, Point.mapping, hmoved, hnegative,
            parts_source hsources hsource, hfound, hread, htext, bind, Except.bind, pure,
            Except.pure, List.cons_append, List.nil_append, Option.bind_some, Option.map_some]
          rfl

/-! ## Lines -/

/-- The segments of a line stand for its points. -/
theorem placeSegments_segments (hsources : parts.sources = .list (sources.map Value.str))
    (hnames : parts.names = names) (line : Nat) {points : List Point}
    (hpoints : ∀ point ∈ points, point.InRange sources names) {r : Running}
    (hr : r.IsNonnegative) :
    (behind points r).IsNonnegative ∧
      placeSegments parts (line + 1) (segments points r) r =
        .ok (points.map (Point.mapping sources names line), behind points r) := by
  induction points generalizing r with
  | nil => exact ⟨hr, rfl⟩
  | cons point points ih =>
      obtain ⟨hbehind, hrest⟩ := ih (fun own hown => hpoints own (List.mem_cons_of_mem _ hown))
        (isNonnegative_after point hr).1
      refine ⟨hbehind, ?_⟩
      have hne : point.numbers r ≠ [] := by
        unfold Point.numbers
        cases point.origin <;> simp
      have hfirst := place_numbers hsources hnames (hpoints point List.mem_cons_self) hr line
        (String.ofList (Vlq.write (point.numbers r)))
      have hempty : (Vlq.write (point.numbers r)).isEmpty = false :=
        List.isEmpty_eq_false_iff.mpr (Vlq.write_ne_nil hne)
      rw [segments, placeSegments, hempty]
      simp only [Vlq.read_write, hfirst, hrest, bind, Except.bind, pure, Except.pure,
        Bool.false_eq_true, if_false]
      rfl

theorem ne_separator_of_mem_segments {points : List Point} {r : Running} {segment : List Char}
    (hsegment : segment ∈ segments points r) {c : Char} (hc : c ∈ segment) : c ≠ ',' ∧ c ≠ ';' := by
  induction points generalizing r with
  | nil => cases hsegment
  | cons point points ih =>
      rcases List.mem_cons.mp hsegment with rfl | hsegment
      · exact Vlq.ne_separator_of_mem_write hc
      · exact ih hsegment

theorem semicolon_not_mem_lineTexts {lines : List (List Point)} {r : Running} :
    ∀ text ∈ lineTexts lines r, ';' ∉ text := by
  intro text htext hmem
  induction lines generalizing r with
  | nil => cases htext
  | cons points lines ih =>
      rcases List.mem_cons.mp htext with rfl | htext
      · rcases Text.mem_intercalate hmem with heq | ⟨segment, hsegment, hc⟩
        · exact absurd heq (by decide)
        · exact (ne_separator_of_mem_segments hsegment hc).2 rfl
      · exact ih htext

/-- A line that is split at its commas gives the segments that it was put together from. -/
theorem placeSegments_splitOn (line : Int) (points : List Point) (r : Running) :
    placeSegments parts line (Text.splitOn ',' ([','].intercalate (segments points r))) r =
      placeSegments parts line (segments points r) r := by
  have hcommas : ∀ segment ∈ segments points r, ',' ∉ segment := fun segment hsegment hc =>
    (ne_separator_of_mem_segments hsegment hc).1 rfl
  rw [Text.splitOn_intercalate hcommas]
  split
  · next hnone =>
      rw [hnone]
      rfl
  · rfl

/-- The texts of lines stand for their points. -/
theorem placeLines_lineTexts (hsources : parts.sources = .list (sources.map Value.str))
    (hnames : parts.names = names) (line : Nat) {lines : List (List Point)}
    (hlines : ∀ points ∈ lines, ∀ point ∈ points, point.InRange sources names) {r : Running}
    (hr : r.IsNonnegative) :
    placeLines parts (line + 1) (lineTexts lines r) r =
      .ok (mappingsFrom sources names line lines) := by
  induction lines generalizing line r with
  | nil => rfl
  | cons points lines ih =>
      obtain ⟨hbehind, hfirst⟩ := placeSegments_segments (r := { r with column := 0 }) hsources
        hnames line (hlines points List.mem_cons_self) hr
      have hrest := ih (line + 1) (fun own hown => hlines own (List.mem_cons_of_mem _ hown)) hbehind
      rw [Int.natCast_add, Int.natCast_one] at hrest
      rw [lineTexts, placeLines, placeSegments_splitOn, hfirst]
      simp only [hrest, bind, Except.bind, pure, Except.pure]
      rw [mappingsFrom, mappingsFrom, List.zipIdx_cons, List.flatMap_cons]

end

variable {document : Value} {sources names : List String} {lines : List (List Point)}

theorem Holds.parts_eq (h : Holds document sources names lines) :
    parts document = .ok ⟨.list (sources.map Value.str), names, mappingText lines⟩ := by
  have hnames : Document.names (.list (names.map Value.str)) = .ok names := by
    rw [Document.names, List.map_map]
    exact congrArg Except.ok (List.map_id names)
  simp only [parts, h.sources_eq, h.names_eq, h.mappings_eq, h.root_eq, hnames, Value.str,
    bind, Except.bind, pure, Except.pure]
  rfl

/-- A document has the mappings of the points that it holds. -/
theorem Holds.mappings_eq_ok (h : Holds document sources names lines)
    (hlines : ∀ points ∈ lines, ∀ point ∈ points, point.InRange sources names) :
    mappings document = .ok (mappingsFrom sources names 0 lines) := by
  have hplaced : placeLines ⟨.list (sources.map Value.str), names, mappingText lines⟩ 1
      (lineTexts lines {}) {} = .ok (mappingsFrom sources names 0 lines) :=
    placeLines_lineTexts rfl rfl 0 hlines ⟨Int.le_refl 0, Int.le_refl 0⟩
  rw [mappings, if_pos h.isTable, h.parts_eq]
  simp only [h.writable, Bool.false_eq_true, if_false, bind, Except.bind, mappingText,
    String.toList_ofList]
  rw [Text.splitOn_intercalate semicolon_not_mem_lineTexts]
  by_cases hnone : lineTexts lines {} = []
  · rw [hnone] at hplaced
    rw [if_pos hnone, ← hplaced]
    rfl
  · rw [if_neg hnone]
    exact hplaced

/-! ## Source maps -/

theorem exists_point_of_mem_mappingsFrom {m : Mapping Value} {line : Nat}
    (h : m ∈ mappingsFrom sources names line lines) :
    ∃ point number, m = Point.mapping sources names number point := by
  obtain ⟨⟨points, number⟩, -, hm⟩ := List.mem_flatMap.mp h
  obtain ⟨point, -, rfl⟩ := List.mem_map.mp hm
  exact ⟨point, number, rfl⟩

theorem isAnchored_mapping (sources names : List String) (line : Nat) (point : Point) :
    (point.mapping sources names line).isAnchored = true := by
  unfold Point.mapping Mapping.isAnchored
  cases point.origin <;> simp

theorem exists_text_of_mapping {line : Nat} {point : Point} {source : Value}
    (h : (point.mapping sources names line).source = some source) :
    ∃ s : String, source = .str s := by
  simp only [Point.mapping, Option.bind_eq_some_iff, Option.map_eq_some_iff] at h
  obtain ⟨origin, -, s, -, rfl⟩ := h
  exact ⟨s, rfl⟩

end Document

namespace SourceMap

open Document

variable {document : Value} {sources names : List String} {lines : List (List Point)}

theorem ofMappings?_mappingsFrom (sources names : List String) (lines : List (List Point)) :
    ofMappings? (mappingsFrom sources names 0 lines) =
      some (ofMappings (mappingsFrom sources names 0 lines)) := by
  refine ofMappings?_of_texts ?_ ?_
  · intro m hm
    obtain ⟨point, number, rfl⟩ := exists_point_of_mem_mappingsFrom hm
    exact isAnchored_mapping ..
  · intro m hm source hsource
    obtain ⟨point, number, rfl⟩ := exists_point_of_mem_mappingsFrom hm
    exact exists_text_of_mapping hsource

/-- The source map of a document has one mapping for each point that the document holds. -/
theorem exists_ofPayload_of_holds {payload : Payload} (hread : read payload = .ok document)
    (h : Holds document sources names lines)
    (hlines : ∀ points ∈ lines, ∀ point ∈ points, point.InRange sources names) :
    ∃ map, ofPayload payload = .ok map ∧
      map.byGenerated.toList.Perm (mappingsFrom sources names 0 lines) ∧
      map.byOriginal.toList.Perm
        ((mappingsFrom sources names 0 lines).filter (·.source.isSome)) := by
  refine ⟨ofMappings (mappingsFrom sources names 0 lines), ?_, ?_, ?_⟩
  · simp only [ofPayload, hread, ofDocument, h.mappings_eq_ok hlines,
      ofMappings?_mappingsFrom, bind, Except.bind, pure, Except.pure]
  · exact List.mergeSort_perm ..
  · exact List.mergeSort_perm ..

/-- Points with and without a name and an original point, and a line without points. The
last line goes back in the generated line and ahead in the first source. -/
def threeLines : List (List Point) :=
  [[⟨0, some ⟨0, 0, 0, none⟩⟩, ⟨4, some ⟨1, 7, 2, some 0⟩⟩, ⟨9, none⟩], [],
    [⟨30, none⟩, ⟨1, some ⟨0, 2, 40, none⟩⟩]]

theorem exists_ofPayload_of_holds_threeLines :
    mappingText threeLines = "AAAA,ICOEA,K;;8B,7BDLsC" ∧
      (∀ points ∈ threeLines, ∀ point ∈ points, point.InRange ["a.js", "b.js"] ["f"]) ∧
      ∃ map, ofPayload (.document (write ["a.js", "b.js"] ["f"] threeLines)) = .ok map ∧
        map.byGenerated.toList.Perm
          [⟨1, 0, some "a.js", some 1, some 0, none⟩, ⟨1, 4, some "b.js", some 8, some 2, some "f"⟩,
            ⟨1, 9, none, none, none, none⟩, ⟨3, 30, none, none, none, none⟩,
            ⟨3, 1, some "a.js", some 3, some 40, none⟩] ∧
        map.byOriginal.size = 3 := by
  have hrange : ∀ points ∈ threeLines, ∀ point ∈ points, point.InRange ["a.js", "b.js"] ["f"] := by
    decide
  have hread : read (.document (write ["a.js", "b.js"] ["f"] threeLines)) =
      .ok (write ["a.js", "b.js"] ["f"] threeLines) := rfl
  obtain ⟨map, hmap, hgenerated, horiginal⟩ :=
    exists_ofPayload_of_holds hread (holds_write ["a.js", "b.js"] ["f"] threeLines) hrange
  exact ⟨by decide +kernel, hrange, map, hmap, hgenerated, horiginal.length_eq⟩

end SourceMap

end Remap
