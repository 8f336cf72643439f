import Remap.Map.Document

/-!
# Segments by themselves

The segments of a document are read with coordinates that run along. Each can also be
read by itself: its coordinates are the totals of what it and the segments before it
move them by, the generated column over its own line only (`coordinates`). Reading all
segments is reading each behind those before it (`placeLines_eq_placeFrom`), so that it
goes wrong exactly with the first segment that does not fit there (`placeFrom_eq_error_iff`).

A segment by itself goes wrong in three ways. It may refer to sources that cannot be
counted; it may not be whole or not refer to what is there, for which it is rejected; or it
may be in order and still lead to a negative coordinate.
-/

namespace Remap.Document

/-- A segment on a generated line. -/
structure Segment where
  line : Int
  text : List Char
deriving Repr, DecidableEq

/-- The segments among the texts between the commas of a line, of which some may be empty. -/
def segmentsOn (line : Int) (texts : List (List Char)) : List Segment :=
  (texts.filter fun text => !text.isEmpty).map fun text => ⟨line, text⟩

/-- The segments of generated lines, the first of which has this number. -/
def segmentsFrom (line : Int) : List (List Char) → List Segment
  | [] => []
  | text :: rest => segmentsOn line (Text.splitOn ',' text) ++ segmentsFrom (line + 1) rest

/-- The numbers of a segment; there are none where it cannot be read. -/
def Segment.numbers (s : Segment) : List Int :=
  match Vlq.read s.text with
  | .ok numbers => numbers
  | .error _ => []

/-! ## Coordinates -/

/-- The coordinates after a segment of these numbers. -/
def Running.advance (r : Running) (numbers : List Int) : Running where
  column := r.column + numbers.getD 0 0
  source := r.source + numbers.getD 1 0
  line := r.line + numbers.getD 2 0
  originalColumn := r.originalColumn + numbers.getD 3 0
  name := r.name + numbers.getD 4 0

/-- How far segments move a coordinate in all. -/
def moved (segments : List Segment) (i : Nat) : Int :=
  segments.foldl (fun total s => total + s.numbers.getD i 0) 0

/-- The coordinates on a line behind some segments. -/
def coordinates (segments : List Segment) (line : Int) : Running where
  column := moved (segments.filter (·.line = line)) 0
  source := moved segments 1
  line := moved segments 2
  originalColumn := moved segments 3
  name := moved segments 4

theorem moved_append_singleton (segments : List Segment) (s : Segment) (i : Nat) :
    moved (segments ++ [s]) i = moved segments i + s.numbers.getD i 0 := by
  rw [moved, List.foldl_append]
  rfl

/-- One segment more moves the coordinates by its own numbers. -/
theorem coordinates_append_singleton (before : List Segment) (s : Segment) :
    coordinates (before ++ [s]) s.line = (coordinates before s.line).advance s.numbers := by
  have hline : (before ++ [s]).filter (·.line = s.line) =
      before.filter (·.line = s.line) ++ [s] := by
    rw [List.filter_append, List.filter_cons, if_pos (decide_eq_true rfl), List.filter_nil]
  simp only [coordinates, Running.advance, hline, moved_append_singleton]

/-- A line starts at its first column; the other coordinates carry on. -/
theorem coordinates_of_lt {before : List Segment} {line other : Int}
    (h : ∀ s ∈ before, s.line < line) :
    coordinates before line = { coordinates before other with column := 0 } := by
  have hnone : before.filter (·.line = line) = [] := by
    refine List.filter_eq_nil_iff.mpr fun s hs => ?_
    have := h s hs
    simp only [decide_eq_true_eq]
    omega
  rw [coordinates, hnone]
  rfl

/-! ## What segments refer to -/

/-- Whether a value has items that can be counted: it is a list, a text or a table. -/
inductive IsCollection : Value → Prop
  | list (items : List Value) : IsCollection (.list items)
  | text (s : String) : IsCollection (.scalar (.str s))
  | table (entries : List (Scalar × Value)) : IsCollection (.table entries)

/-- Whether a value has these items, each at its index. -/
inductive HasItems : Value → List Value → Prop
  | list (items : List Value) : HasItems (.list items) items
  | text (s : String) :
      HasItems (.scalar (.str s)) (s.toList.map fun c => .str (String.ofList [c]))

/-- Whether there is a source at an index. -/
def Parts.HasSource (parts : Parts) (index : Int) : Prop :=
  ∃ items, HasItems parts.sources items ∧ 0 ≤ index ∧ index < items.length

/-- Whether there is a name at an index. -/
def Parts.HasName (parts : Parts) (index : Int) : Prop :=
  0 ≤ index ∧ index < parts.names.length

namespace Parts

variable {parts : Parts}

theorem source_list (items : List Value) (names : List String) (mappings text : String)
    (index : Int) :
    source ⟨.list items, names, mappings⟩ text index =
      if h : 0 ≤ index ∧ index < items.length then
        .ok (if items[index.toNat].isNull then none else some items[index.toNat])
      else .error (.rejected (.sourceIndex text index items.length)) := by
  simp only [source, sourceItems, bind, Except.bind, pure, Except.pure]
  by_cases hrange : 0 ≤ index ∧ index < items.length
  · have hin : (decide (index < 0) || decide ((items.length : Int) ≤ index)) = false := by
      simp only [Bool.or_eq_false_iff, decide_eq_false_iff_not]
      omega
    rw [hin, dif_pos hrange, List.getElem?_eq_getElem (by omega)]
    rfl
  · have hout : (decide (index < 0) || decide ((items.length : Int) ≤ index)) = true := by
      simp only [Bool.or_eq_true, decide_eq_true_eq]
      omega
    rw [hout, dif_neg hrange]
    rfl

/-- A text of sources is a list of its characters. -/
theorem source_text (s : String) (names : List String) (mappings text : String) (index : Int) :
    source ⟨.scalar (.str s), names, mappings⟩ text index =
      source ⟨.list (s.toList.map fun c => .str (String.ofList [c])), names, mappings⟩ text
        index := by
  simp only [source, sourceItems, List.length_map, String.length_toList]

theorem source_of_hasSource {index : Int} (h : parts.HasSource index) (text : String) :
    ∃ source, parts.source text index = .ok source := by
  obtain ⟨sources, names, mappings⟩ := parts
  obtain ⟨items, hitems, hrange⟩ := h
  cases hitems with
  | list items =>
      rw [source_list, dif_pos hrange]
      exact ⟨_, rfl⟩
  | text s =>
      rw [source_text, source_list, dif_pos hrange]
      exact ⟨_, rfl⟩

theorem source_of_not_hasSource {index : Int} (hsources : IsCollection parts.sources)
    (h : ¬ parts.HasSource index) (text : String) :
    ∃ reason, parts.source text index = .error (.rejected reason) := by
  obtain ⟨sources, names, mappings⟩ := parts
  cases hsources with
  | list items =>
      rw [source_list, dif_neg fun hrange => h ⟨_, .list items, hrange⟩]
      exact ⟨_, rfl⟩
  | text s =>
      rw [source_text, source_list, dif_neg fun hrange => h ⟨_, .text s, hrange⟩]
      exact ⟨_, rfl⟩
  | table entries =>
      simp only [source, bind, Except.bind, pure, Except.pure]
      split
      · exact ⟨_, rfl⟩
      · exact ⟨_, rfl⟩

theorem source_of_not_isCollection (h : ¬ IsCollection parts.sources) (text : String)
    (index : Int) : parts.source text index = .error .wrongKind := by
  obtain ⟨sources, names, mappings⟩ := parts
  match sources with
  | .list items => exact absurd (.list items) h
  | .table entries => exact absurd (.table entries) h
  | .scalar (.str s) => exact absurd (.text s) h
  | .scalar .null | .scalar (.bool _) | .scalar (.int _) | .scalar (.float _)
  | .scalar (.bytes _) | .scalar (.date _) | .scalar (.timestamp _) => rfl
  | .pair _ _ | .set _ | .cyclic _ _ | .part _ => rfl

theorem name_of_hasName {index : Int} (h : parts.HasName index) (text : String) :
    ∃ name, parts.name text index = .ok name := by
  obtain ⟨hlow, hhigh⟩ := h
  have hfound : parts.names[index.toNat]? = some parts.names[index.toNat] :=
    List.getElem?_eq_getElem (by omega)
  exact ⟨_, by rw [name, if_neg (Int.not_lt.mpr hlow), hfound]⟩

theorem name_of_not_hasName {index : Int} (h : ¬ parts.HasName index) (text : String) :
    ∃ reason, parts.name text index = .error (.rejected reason) := by
  unfold name
  by_cases hlow : index < 0
  · exact ⟨_, if_pos hlow⟩
  · have hhigh : ¬ index < parts.names.length := fun hhigh => h ⟨Int.not_lt.mp hlow, hhigh⟩
    have hnone : parts.names[index.toNat]? = none := List.getElem?_eq_none (by omega)
    exact ⟨_, by rw [if_neg hlow, hnone]⟩

end Parts

/-! ## Placing by numbers -/

/-- Whether the numbers of a segment that leads to these coordinates are whole, and refer to
a source and a name that are there. -/
structure Refers (parts : Parts) (numbers : List Int) (r : Running) : Prop where
  whole : numbers.length ≠ 2 ∧ numbers.length ≠ 3
  source : 2 ≤ numbers.length → parts.HasSource r.source
  name : 5 ≤ numbers.length → parts.HasName r.name

variable {parts : Parts}

/-- Whether the source of a mapping, if it has one, is among the sources and comes with a
whole original point. -/
structure Parts.Gives (parts : Parts) (m : Mapping Value) : Prop where
  anchored : m.isAnchored = true
  source : ∀ source, m.source = some source →
    ∃ text index, parts.source text index = .ok (some source)

theorem Parts.gives_of_source {text : String} {index : Int} {source : Option Value}
    (h : parts.source text index = .ok source) (line column originalLine originalColumn : Int)
    (name : Option String) :
    parts.Gives ⟨line, column, source, source.map fun _ => originalLine,
      source.map fun _ => originalColumn, name⟩ where
  anchored := by cases source <;> rfl
  source own hown := ⟨text, index, hown ▸ h⟩

theorem place_of_refers {numbers : List Int} {r : Running}
    (h : Refers parts numbers (r.advance numbers)) (line : Int) (text : String) :
    ∃ m, parts.Gives m ∧ place parts line text numbers r =
      if (r.advance numbers).hasNegative then .error .negative
      else .ok (m, r.advance numbers) := by
  obtain ⟨hwhole, hsource, hname⟩ := h
  match numbers with
  | [] | [column] =>
      simp only [place, Running.advance, List.getD_cons_zero, List.getD_cons_succ,
        List.getD_nil, Int.add_zero, bind, Except.bind, pure, Except.pure]
      refine ⟨_, ?_, by split <;> rfl⟩
      exact ⟨rfl, fun source hsource => by cases hsource⟩
  | [_, _] => exact absurd rfl hwhole.1
  | [_, _, _] => exact absurd rfl hwhole.2
  | [a, b, c, d] =>
      obtain ⟨source, hsource⟩ := Parts.source_of_hasSource (hsource (by simp)) text
      simp only [Running.advance, List.getD_cons_zero, List.getD_cons_succ] at hsource
      simp only [place, Running.advance, List.getD_cons_zero, List.getD_cons_succ,
        List.getD_nil, Int.add_zero, hsource, bind, Except.bind, pure, Except.pure]
      refine ⟨_, ?_, by split <;> rfl⟩
      exact Parts.gives_of_source hsource ..
  | a :: b :: c :: d :: e :: more =>
      obtain ⟨source, hsource⟩ := Parts.source_of_hasSource (hsource (by simp)) text
      obtain ⟨name, hname⟩ := Parts.name_of_hasName (hname (by simp)) text
      simp only [Running.advance, List.getD_cons_zero, List.getD_cons_succ] at hsource hname
      simp only [place, Running.advance, List.getD_cons_zero, List.getD_cons_succ,
        hsource, hname, bind, Except.bind, pure, Except.pure]
      refine ⟨_, ?_, by split <;> rfl⟩
      exact Parts.gives_of_source hsource ..

theorem place_of_not_isCollection {numbers : List Int} (hcount : 2 ≤ numbers.length)
    (h : ¬ IsCollection parts.sources) (line : Int) (text : String) (r : Running) :
    place parts line text numbers r = .error .wrongKind := by
  match numbers with
  | a :: b :: more =>
      rw [place]
      simp only [Parts.source_of_not_isCollection h, bind, Except.bind]

theorem place_of_not_refers {numbers : List Int} {r : Running}
    (hsources : 2 ≤ numbers.length → IsCollection parts.sources)
    (h : ¬ Refers parts numbers (r.advance numbers)) (line : Int) (text : String) :
    ∃ reason, place parts line text numbers r = .error (.rejected reason) := by
  match numbers with
  | [] | [_] => exact absurd ⟨by simp, by simp, by simp⟩ h
  | a :: b :: more =>
      by_cases hsource : parts.HasSource (r.source + b)
      · obtain ⟨source, hread⟩ := Parts.source_of_hasSource hsource text
        match more with
        | [] | [_] =>
            simp only [place, hread, bind, Except.bind]
            exact ⟨_, rfl⟩
        | [c, d] => exact absurd ⟨by simp, fun _ => hsource, by simp⟩ h
        | c :: d :: e :: more =>
            have hname : ¬ parts.HasName (r.name + e) := fun hname =>
              h ⟨by simp, fun _ => hsource, fun _ => hname⟩
            obtain ⟨reason, hrejected⟩ := Parts.name_of_not_hasName hname text
            simp only [place, hread, hrejected, bind, Except.bind]
            exact ⟨_, rfl⟩
      · obtain ⟨reason, hrejected⟩ :=
          Parts.source_of_not_hasSource (hsources (by simp)) hsource text
        simp only [place, hrejected, bind, Except.bind]
        exact ⟨_, rfl⟩

/-- A segment that goes through leaves the coordinates moved by its numbers. -/
theorem place_eq_ok_or_error (parts : Parts) (numbers : List Int) (r : Running) (line : Int)
    (text : String) :
    (∃ m, parts.Gives m ∧ place parts line text numbers r = .ok (m, r.advance numbers)) ∨
      ∃ error, place parts line text numbers r = .error error := by
  by_cases h : Refers parts numbers (r.advance numbers)
  · obtain ⟨m, hgives, hplace⟩ := place_of_refers h line text
    rw [hplace]
    split
    · exact Or.inr ⟨_, rfl⟩
    · exact Or.inl ⟨m, hgives, rfl⟩
  · by_cases hsources : 2 ≤ numbers.length → IsCollection parts.sources
    · obtain ⟨reason, hplace⟩ := place_of_not_refers hsources h line text
      exact Or.inr ⟨_, hplace⟩
    · obtain ⟨hcount, hnone⟩ := Classical.not_imp.mp hsources
      exact Or.inr ⟨_, place_of_not_isCollection hcount hnone line text r⟩

/-! ## Reading segment by segment -/

/-- The mapping of a segment behind others. -/
def Segment.place (parts : Parts) (before : List Segment) (s : Segment) :
    Except DecodeError (Mapping Value) := do
  let numbers ← match Vlq.read s.text with
    | .ok numbers => pure numbers
    | .error .digit => throw (.rejected .digit)
    | .error .unfinished => throw (.rejected .unfinished)
  let (mapping, _) ←
    Document.place parts s.line (String.ofList s.text) numbers (coordinates before s.line)
  return mapping

/-- The mappings of segments behind others. -/
def placeFrom (parts : Parts) (before : List Segment) :
    List Segment → Except DecodeError (List (Mapping Value))
  | [] => .ok []
  | s :: rest => do
    let mapping ← s.place parts before
    return mapping :: (← placeFrom parts (before ++ [s]) rest)

theorem placeFrom_append (before first rest : List Segment) :
    placeFrom parts before (first ++ rest) = do
      let mappings ← placeFrom parts before first
      return mappings ++ (← placeFrom parts (before ++ first) rest) := by
  induction first generalizing before with
  | nil =>
      rw [List.nil_append, List.append_nil]
      simp only [placeFrom, bind, Except.bind, pure, Except.pure, List.nil_append]
      cases placeFrom parts before rest <;> rfl
  | cons s first ih =>
      have hbehind : before ++ s :: first = before ++ [s] ++ first := by
        rw [List.append_assoc, List.singleton_append]
      simp only [List.cons_append, placeFrom, ih, hbehind, bind, Except.bind, pure, Except.pure]
      cases s.place parts before with
      | error => rfl
      | ok m =>
          cases placeFrom parts (before ++ [s]) first with
          | error => rfl
          | ok ms => cases placeFrom parts (before ++ [s] ++ first) rest <;> rfl

theorem segmentsOn_cons (line : Int) (text : List Char) (texts : List (List Char)) :
    segmentsOn line (text :: texts) =
      if text.isEmpty then segmentsOn line texts else ⟨line, text⟩ :: segmentsOn line texts := by
  unfold segmentsOn
  cases text <;> rfl

/-- The coordinates that run along a line are the totals of the segments so far. -/
theorem placeSegments_eq_placeFrom (line : Int) (texts : List (List Char))
    (before : List Segment) :
    placeSegments parts line texts (coordinates before line) =
      (placeFrom parts before (segmentsOn line texts)).map fun mappings =>
        (mappings, coordinates (before ++ segmentsOn line texts) line) := by
  induction texts generalizing before with
  | nil =>
      rw [placeSegments, segmentsOn, List.filter_nil, List.map_nil, List.append_nil]
      rfl
  | cons text texts ih =>
      rw [placeSegments, segmentsOn_cons]
      by_cases hempty : text.isEmpty
      · rw [if_pos hempty, if_pos hempty, ih]
      · rw [if_neg hempty, if_neg hempty, placeFrom, Segment.place]
        have hnext := ih (before ++ [⟨line, text⟩])
        rw [coordinates_append_singleton, List.append_assoc, List.singleton_append] at hnext
        cases hread : Vlq.read text with
        | error error => cases error <;> rfl
        | ok numbers =>
            have hnumbers : (Segment.mk line text).numbers = numbers := by
              rw [Segment.numbers, hread]
            rw [hnumbers] at hnext
            rcases place_eq_ok_or_error parts numbers (coordinates before line) line
              (String.ofList text) with ⟨m, -, hplace⟩ | ⟨error, hplace⟩
            · simp only [hplace, hnext, bind, Except.bind, pure, Except.pure, Except.map]
              cases placeFrom parts (before ++ [⟨line, text⟩]) (segmentsOn line texts) <;> rfl
            · simp only [hplace, bind, Except.bind, pure, Except.pure, Except.map]

theorem line_eq_of_mem_segmentsOn {line : Int} {texts : List (List Char)} {s : Segment}
    (h : s ∈ segmentsOn line texts) : s.line = line := by
  obtain ⟨text, -, rfl⟩ := List.mem_map.mp h
  rfl

/-- Reading a document line by line is reading its segments one behind the other. -/
theorem placeLines_eq_placeFrom (line : Int) (texts : List (List Char)) {before : List Segment}
    (hbefore : ∀ s ∈ before, s.line < line) (other : Int) :
    placeLines parts line texts (coordinates before other) =
      placeFrom parts before (segmentsFrom line texts) := by
  induction texts generalizing line before other with
  | nil => rfl
  | cons text texts ih =>
      have hline : ∀ s ∈ before ++ segmentsOn line (Text.splitOn ',' text), s.line < line + 1 := by
        intro s hs
        rcases List.mem_append.mp hs with hs | hs
        · have := hbefore s hs
          omega
        · have := line_eq_of_mem_segmentsOn hs
          omega
      rw [placeLines, ← coordinates_of_lt hbefore, placeSegments_eq_placeFrom, segmentsFrom,
        placeFrom_append]
      cases placeFrom parts before (segmentsOn line (Text.splitOn ',' text)) with
      | error => rfl
      | ok mappings =>
          simp only [Except.map, bind, Except.bind, ih (line + 1) hline line]

/-! ## The first segment that goes wrong -/

/-- Whether a segment behind others can be read, is whole, and refers to what is there. -/
structure Segment.IsInOrder (parts : Parts) (before : List Segment) (s : Segment) : Prop where
  readable : ∃ numbers, Vlq.read s.text = .ok numbers
  refers : Refers parts s.numbers (coordinates (before ++ [s]) s.line)

/-- Whether no coordinate is negative behind a segment, which is in order. -/
structure Segment.Fits (parts : Parts) (before : List Segment) (s : Segment) : Prop extends
    s.IsInOrder parts before where
  nonnegative : (coordinates (before ++ [s]) s.line).hasNegative = false

/-- How a segment goes wrong without being rejected. -/
inductive Segment.FailsOutside (parts : Parts) (before : List Segment) (s : Segment) :
    DecodeError → Prop
  | sources : 2 ≤ s.numbers.length → ¬ IsCollection parts.sources →
      FailsOutside parts before s .wrongKind
  | negative : s.IsInOrder parts before →
      (coordinates (before ++ [s]) s.line).hasNegative = true →
      FailsOutside parts before s .negative

/-- Whether each of some segments fits behind those before it. -/
def AllFit (parts : Parts) (before segments : List Segment) : Prop :=
  ∀ first s rest, segments = first ++ s :: rest → s.Fits parts (before ++ first)

namespace Segment

variable {before : List Segment} {s : Segment}

theorem place_of_read {numbers : List Int} (h : Vlq.read s.text = .ok numbers) :
    s.place parts before = (Document.place parts s.line (String.ofList s.text) s.numbers
      (coordinates before s.line)).map (·.1) := by
  have hnumbers : s.numbers = numbers := by rw [Segment.numbers, h]
  rw [place, h, hnumbers]
  rfl

theorem exists_read_of_numbers_ne_nil (h : s.numbers ≠ []) :
    ∃ numbers, Vlq.read s.text = .ok numbers := by
  unfold numbers at h
  split at h
  · next numbers hread => exact ⟨numbers, hread⟩
  · exact absurd rfl h

theorem place_of_isInOrder (h : s.IsInOrder parts before) :
    ∃ m, parts.Gives m ∧ s.place parts before =
      if (coordinates (before ++ [s]) s.line).hasNegative then .error .negative else .ok m := by
  obtain ⟨⟨numbers, hread⟩, hrefers⟩ := h
  rw [coordinates_append_singleton] at hrefers ⊢
  obtain ⟨m, hgives, hplace⟩ := place_of_refers hrefers s.line (String.ofList s.text)
  refine ⟨m, hgives, ?_⟩
  rw [place_of_read hread, hplace]
  split <;> rfl

theorem exists_place_of_fits (h : s.Fits parts before) :
    ∃ m, parts.Gives m ∧ s.place parts before = .ok m := by
  obtain ⟨m, hgives, hplace⟩ := place_of_isInOrder h.toIsInOrder
  rw [h.nonnegative] at hplace
  exact ⟨m, hgives, hplace⟩

theorem place_of_failsOutside {error : DecodeError} (h : s.FailsOutside parts before error) :
    s.place parts before = .error error := by
  cases h with
  | sources hcount hsources =>
      have hne : s.numbers ≠ [] := List.ne_nil_of_length_pos (by omega)
      obtain ⟨numbers, hread⟩ := exists_read_of_numbers_ne_nil hne
      rw [place_of_read hread, place_of_not_isCollection hcount hsources]
      rfl
  | negative horder hnegative =>
      obtain ⟨m, -, hplace⟩ := place_of_isInOrder horder
      rw [hplace, if_pos hnegative]

/-- A segment that neither fits nor fails outside is rejected. -/
theorem place_cases (parts : Parts) (before : List Segment) (s : Segment) :
    s.Fits parts before ∨ (∃ error, s.FailsOutside parts before error) ∨
      ∃ reason, s.place parts before = .error (.rejected reason) := by
  cases hread : Vlq.read s.text with
  | error error =>
      refine Or.inr (Or.inr ?_)
      rw [place, hread]
      cases error with
      | digit => exact ⟨_, rfl⟩
      | unfinished => exact ⟨_, rfl⟩
  | ok numbers =>
      by_cases hrefers : Refers parts s.numbers (coordinates (before ++ [s]) s.line)
      · have horder : s.IsInOrder parts before := ⟨⟨numbers, hread⟩, hrefers⟩
        cases hnegative : (coordinates (before ++ [s]) s.line).hasNegative with
        | false => exact Or.inl ⟨horder, hnegative⟩
        | true => exact Or.inr (Or.inl ⟨_, .negative horder hnegative⟩)
      · by_cases hsources : 2 ≤ s.numbers.length → IsCollection parts.sources
        · rw [coordinates_append_singleton] at hrefers
          obtain ⟨reason, hplace⟩ :=
            place_of_not_refers hsources hrefers s.line (String.ofList s.text)
          refine Or.inr (Or.inr ⟨reason, ?_⟩)
          rw [place_of_read hread, hplace]
          rfl
        · obtain ⟨hcount, hnone⟩ := Classical.not_imp.mp hsources
          exact Or.inr (Or.inl ⟨_, .sources hcount hnone⟩)

theorem fits_of_place {m : Mapping Value} (h : s.place parts before = .ok m) :
    s.Fits parts before ∧ parts.Gives m := by
  rcases place_cases parts before s with hfits | ⟨error, hfails⟩ | ⟨reason, hrejected⟩
  · obtain ⟨own, hgives, hplace⟩ := exists_place_of_fits hfits
    cases hplace.symm.trans h
    exact ⟨hfits, hgives⟩
  · cases (place_of_failsOutside hfails).symm.trans h
  · cases hrejected.symm.trans h

theorem FailsOutside.fault?_eq_none {error : DecodeError} (h : s.FailsOutside parts before error) :
    error.fault? = none := by
  cases h <;> rfl

end Segment

theorem placeFrom_cons_eq_ok {before rest : List Segment} {s : Segment}
    {mappings : List (Mapping Value)} (h : placeFrom parts before (s :: rest) = .ok mappings) :
    ∃ m others, s.place parts before = .ok m ∧
      placeFrom parts (before ++ [s]) rest = .ok others ∧ mappings = m :: others := by
  rw [placeFrom] at h
  cases hplace : s.place parts before with
  | error error => simp [hplace, bind, Except.bind] at h
  | ok m =>
      cases hrest : placeFrom parts (before ++ [s]) rest with
      | error error => simp [hplace, hrest, bind, Except.bind] at h
      | ok others =>
          simp only [hplace, hrest, bind, Except.bind, pure, Except.pure] at h
          cases h
          exact ⟨m, others, rfl, rfl, rfl⟩

theorem gives_of_placeFrom {before segments : List Segment} {mappings : List (Mapping Value)}
    (h : placeFrom parts before segments = .ok mappings) : ∀ m ∈ mappings, parts.Gives m := by
  induction segments generalizing before mappings with
  | nil =>
      cases h
      exact List.forall_mem_nil _
  | cons s rest ih =>
      obtain ⟨first, others, hplace, hrest, rfl⟩ := placeFrom_cons_eq_ok h
      intro m hm
      rcases List.mem_cons.mp hm with rfl | hm
      · exact (Segment.fits_of_place hplace).2
      · exact ih hrest m hm

theorem allFit_cons {before rest : List Segment} {s : Segment} :
    AllFit parts before (s :: rest) ↔ s.Fits parts before ∧ AllFit parts (before ++ [s]) rest := by
  constructor
  · intro h
    refine ⟨List.append_nil before ▸ h [] s rest rfl, fun first t after hrest => ?_⟩
    rw [List.append_assoc, List.singleton_append]
    exact h (s :: first) t after (hrest ▸ rfl)
  · rintro ⟨hfits, hrest⟩ first t after heq
    rcases List.cons_eq_append_iff.mp heq with ⟨rfl, hcons⟩ | ⟨tail, rfl, htail⟩
    · obtain ⟨rfl, -⟩ := List.cons.inj hcons
      exact (List.append_nil before).symm ▸ hfits
    · have := hrest tail t after htail
      rwa [List.append_assoc, List.singleton_append] at this

theorem allFit_nil (parts : Parts) (before : List Segment) : AllFit parts before [] := by
  intro first s rest h
  cases first <;> cases h

theorem placeFrom_cons_eq_error_iff {before rest : List Segment} {s : Segment}
    {error : DecodeError} :
    placeFrom parts before (s :: rest) = .error error ↔ s.place parts before = .error error ∨
      s.Fits parts before ∧ placeFrom parts (before ++ [s]) rest = .error error := by
  rw [placeFrom]
  constructor
  · intro h
    cases hplace : s.place parts before with
    | error other =>
        rw [hplace] at h
        cases h
        exact Or.inl rfl
    | ok m =>
        refine Or.inr ⟨(Segment.fits_of_place hplace).1, ?_⟩
        cases hrest : placeFrom parts (before ++ [s]) rest with
        | error other =>
            rw [hplace, hrest] at h
            cases h
            rfl
        | ok others =>
            rw [hplace, hrest] at h
            cases h
  · rintro (hplace | ⟨hfits, hrest⟩)
    · rw [hplace]
      rfl
    · obtain ⟨m, -, hplace⟩ := Segment.exists_place_of_fits hfits
      rw [hplace, hrest]
      rfl

/-- Reading fails with what the first segment that does not fit fails with. -/
theorem placeFrom_eq_error_iff {before segments : List Segment} {error : DecodeError} :
    placeFrom parts before segments = .error error ↔
      ∃ first s rest, segments = first ++ s :: rest ∧ AllFit parts before first ∧
        s.place parts (before ++ first) = .error error := by
  induction segments generalizing before with
  | nil =>
      constructor
      · intro h
        cases h
      · rintro ⟨first, s, rest, h, -⟩
        cases first <;> cases h
  | cons s rest ih =>
      have hbehind (first : List Segment) : before ++ [s] ++ first = before ++ s :: first := by
        rw [List.append_assoc, List.singleton_append]
      rw [placeFrom_cons_eq_error_iff, ih]
      constructor
      · rintro (hplace | ⟨hfits, first, t, after, rfl, hfirst, ht⟩)
        · exact ⟨[], s, rest, rfl, allFit_nil parts before, (List.append_nil before).symm ▸ hplace⟩
        · exact ⟨s :: first, t, after, rfl, allFit_cons.mpr ⟨hfits, hfirst⟩, hbehind first ▸ ht⟩
      · rintro ⟨first, t, after, heq, hfirst, ht⟩
        rcases List.cons_eq_append_iff.mp heq with ⟨rfl, hcons⟩ | ⟨tail, rfl, htail⟩
        · obtain ⟨rfl, rfl⟩ := List.cons.inj hcons
          exact Or.inl (List.append_nil before ▸ ht)
        · obtain ⟨hfits, htailFit⟩ := allFit_cons.mp hfirst
          exact Or.inr ⟨hfits, tail, t, after, htail, htailFit, (hbehind tail).symm ▸ ht⟩

end Remap.Document
