import Remap.Proofs.Map.Scan
import Remap.Proofs.Map.Segments

/-!
# How reading a source map fails

A payload that cannot be decoded is a fault, which callers handle
(`SourceMap.IsHandled`). Some payloads fail outside of this: bytes that are no text, and
documents with a value of the wrong kind, sources without an order, or a segment that
leads to a negative coordinate. `Payload.FailsOutside` says which these are and
`SourceMap.isHandled_ofPayload_iff` that there are no others. Nothing is said of the stack of the
program that reads a document: one that is nested deeper than the stack allows fails for this,
whatever it holds.

Reading stops at the first thing that goes wrong, so each way to fail outside says that
nothing before it has been rejected.
-/

namespace Remap

namespace Document

/-! ## The parts of a document -/

def IsText (value : Value) : Prop := ∃ text : String, value = .scalar (.str text)

/-- Whether a value lists these members: the items of a list or text, the keys of a table. -/
inductive Lists : Value → List Value → Prop
  | items {value : Value} {items : List Value} : HasItems value items → Lists value items
  | keys (entries : List (Scalar × Value)) :
      Lists (.table entries) (entries.map fun entry => .scalar entry.1)

/-- The names of a document, none where it has no entry for them. -/
def givenNames (document : Value) : Value := (document.get? "names").getD (.list [])

/-- The root of the sources of a document, null where it has no entry for it. -/
def givenRoot (document : Value) : Value := (document.get? "sourceRoot").getD .null

/-- How some sources cannot be put below a root. -/
inductive Unrootable (root sources : Value) : Prop
  | sources : ¬ IsCollection sources → Unrootable root sources
  | member {members : List Value} {member : Value} : Lists sources members → member ∈ members →
      ¬ (IsText root ∧ IsText member) → Unrootable root sources

/-- How the parts of a document go wrong without it being rejected. -/
inductive PartsFail (document : Value) : DecodeError → Prop
  | names {sources : Value} : document.get? "sources" = some sources →
      ¬ IsCollection (givenNames document) → PartsFail document .wrongKind
  | mappings {sources mappings : Value} : document.get? "sources" = some sources →
      IsCollection (givenNames document) → document.get? "mappings" = some mappings →
      ¬ IsText mappings → PartsFail document .noMappingText
  | root {sources mappings : Value} : document.get? "sources" = some sources →
      IsCollection (givenNames document) → document.get? "mappings" = some mappings →
      IsText mappings → (givenRoot document).isNull = false →
      Unrootable (givenRoot document) sources → PartsFail document .wrongKind

theorem sourceItems_of_lists {value : Value} {members : List Value} (h : Lists value members) :
    sourceItems value = .ok members := by
  rcases h with ⟨items | s⟩ | entries <;> rfl

theorem exists_lists_of_isCollection {value : Value} (h : IsCollection value) :
    ∃ members, Lists value members := by
  cases h with
  | list items => exact ⟨_, .items (.list items)⟩
  | text s => exact ⟨_, .items (.text s)⟩
  | table entries => exact ⟨_, .keys entries⟩

theorem sourceItems_of_not_isCollection {value : Value} (h : ¬ IsCollection value) :
    sourceItems value = .error .wrongKind := by
  unfold sourceItems
  split
  · exact absurd (.list _) h
  · exact absurd (.text _) h
  · exact absurd (.table _) h
  · rfl

theorem names_of_not_isCollection {value : Value} (h : ¬ IsCollection value) :
    names value = .error .wrongKind := by
  unfold names
  split
  · exact absurd (.list _) h
  · exact absurd (.text _) h
  · exact absurd (.table _) h
  · rfl

theorem exists_names_of_isCollection {value : Value} (h : IsCollection value) :
    ∃ texts, names value = .ok texts := by
  cases h with
  | list | text | table => exact ⟨_, rfl⟩

/-- A source below a root. -/
def joined (root source : Value) : Except DecodeError Value :=
  match root, source with
  | .scalar (.str directory), .scalar (.str source) =>
    .ok (Value.str (Path.joinText directory source))
  | _, _ => .error .wrongKind

theorem rooted_eq {root : Value} (h : root.isNull = false) (sources : Value) :
    rooted root sources = do
      let items ← sourceItems sources
      let sources ← items.mapM (joined root)
      return .list sources := by
  rw [rooted, h]
  rfl

theorem joined_of_not_isText {root source : Value} (h : ¬ (IsText root ∧ IsText source)) :
    joined root source = .error .wrongKind := by
  unfold joined
  split
  · next directory text => exact absurd ⟨⟨directory, rfl⟩, text, rfl⟩ h
  · rfl

theorem exists_joined_of_isText {root source : Value} (h : IsText root ∧ IsText source) :
    ∃ value, joined root source = .ok value ∧ IsText value := by
  obtain ⟨⟨directory, rfl⟩, text, rfl⟩ := h
  exact ⟨_, rfl, Path.joinText directory text, rfl⟩

/-- Sources below a root are texts, where all of them and the root are. -/
theorem mapM_joined_cases (root : Value) (items : List Value) :
    (∃ values, items.mapM (joined root) = .ok values ∧
      (∀ item ∈ items, IsText root ∧ IsText item) ∧ ∀ value ∈ values, IsText value) ∨
    items.mapM (joined root) = .error .wrongKind ∧
      ∃ item ∈ items, ¬ (IsText root ∧ IsText item) := by
  induction items with
  | nil => exact Or.inl ⟨[], rfl, List.forall_mem_nil _, List.forall_mem_nil _⟩
  | cons first items ih =>
      rw [List.mapM_cons]
      by_cases htexts : IsText root ∧ IsText first
      · obtain ⟨value, hvalue, htext⟩ := exists_joined_of_isText htexts
        rcases ih with ⟨values, hvalues, hitems, hall⟩ | ⟨herror, item, hitem, hnone⟩
        · rw [hvalue, hvalues]
          exact Or.inl ⟨value :: values, rfl, List.forall_mem_cons.mpr ⟨htexts, hitems⟩,
            List.forall_mem_cons.mpr ⟨htext, hall⟩⟩
        · rw [hvalue, herror]
          exact Or.inr ⟨rfl, item, List.mem_cons_of_mem _ hitem, hnone⟩
      · rw [joined_of_not_isText htexts]
        exact Or.inr ⟨rfl, first, List.mem_cons_self, htexts⟩

theorem rooted_of_unrootable {root sources : Value} (hroot : root.isNull = false)
    (h : Unrootable root sources) : rooted root sources = .error .wrongKind := by
  rw [rooted_eq hroot]
  cases h with
  | sources hsources =>
      rw [sourceItems_of_not_isCollection hsources]
      rfl
  | member hlists hmember htexts =>
      rw [sourceItems_of_lists hlists]
      rcases mapM_joined_cases root _ with ⟨values, -, hall, -⟩ | ⟨herror, -⟩
      · exact absurd (hall _ hmember) htexts
      · simp only [bind, Except.bind, herror]

theorem unrootable_of_rooted {root sources : Value} {error : DecodeError}
    (h : rooted root sources = .error error) :
    error = .wrongKind ∧ root.isNull = false ∧ Unrootable root sources := by
  cases hroot : root.isNull with
  | true =>
      rw [rooted, hroot] at h
      cases h
  | false =>
      rw [rooted_eq hroot] at h
      by_cases hsources : IsCollection sources
      · obtain ⟨members, hlists⟩ := exists_lists_of_isCollection hsources
        rw [sourceItems_of_lists hlists] at h
        rcases mapM_joined_cases root members with
          ⟨values, hvalues, -⟩ | ⟨herror, member, hmember, htexts⟩
        · simp only [bind, Except.bind, hvalues] at h
          cases h
        · simp only [bind, Except.bind, herror] at h
          cases h
          exact ⟨rfl, rfl, .member hlists hmember htexts⟩
      · rw [sourceItems_of_not_isCollection hsources] at h
        cases h
        exact ⟨rfl, rfl, .sources hsources⟩

theorem parts_of_partsFail {document : Value} {error : DecodeError}
    (h : PartsFail document error) : parts document = .error error := by
  cases h with
  | names hsources hnames =>
      have hnone : names ((document.get? "names").getD (.list [])) = .error .wrongKind :=
        names_of_not_isCollection hnames
      simp only [parts, hsources, hnone, bind, Except.bind]
  | mappings hsources hnames hmappings htext =>
      obtain ⟨texts, hread⟩ := exists_names_of_isCollection hnames
      rw [givenNames] at hread
      simp only [parts, hsources, hread, hmappings, bind, Except.bind]
      split
      · next s => exact absurd ⟨s, rfl⟩ htext
      · rfl
  | root hsources hnames hmappings htext hroot hunrootable =>
      obtain ⟨texts, hread⟩ := exists_names_of_isCollection hnames
      obtain ⟨text, rfl⟩ := htext
      have hrooted := rooted_of_unrootable hroot hunrootable
      rw [givenNames] at hread
      rw [givenRoot] at hrooted
      simp only [parts, hsources, hread, hmappings, hrooted, bind, Except.bind]

/-- A document whose parts go wrong is rejected or has parts that fail. -/
theorem rejected_or_partsFail {document : Value} {error : DecodeError}
    (h : parts document = .error error) :
    (∃ reason, error = .rejected reason) ∨ PartsFail document error := by
  unfold parts at h
  cases hsources : document.get? "sources" with
  | none =>
      simp only [hsources] at h
      cases h
      exact Or.inl ⟨_, rfl⟩
  | some sources =>
      by_cases hnames : IsCollection (givenNames document)
      · obtain ⟨texts, hread⟩ := exists_names_of_isCollection hnames
        rw [givenNames] at hread
        simp only [hsources, hread, bind, Except.bind] at h
        cases hmappings : document.get? "mappings" with
        | none =>
            simp only [hmappings] at h
            cases h
            exact Or.inl ⟨_, rfl⟩
        | some mappings =>
            simp only [hmappings] at h
            refine Or.inr ?_
            split at h
            · next text =>
                split at h
                · next other hrooted =>
                  cases h
                  obtain ⟨rfl, hroot, hunrootable⟩ := unrootable_of_rooted hrooted
                  exact .root hsources hnames hmappings ⟨text, rfl⟩ hroot hunrootable
                · cases h
            · next hno =>
                cases h
                exact .mappings hsources hnames hmappings fun ⟨text, htext⟩ => hno text htext
      · have hnone := names_of_not_isCollection hnames
        rw [givenNames] at hnone
        simp only [hsources, hnone, bind, Except.bind] at h
        cases h
        exact Or.inr (.names hsources hnames)

/-! ## Documents -/

/-- Whether a document is a table that can be written out, as is done before it is read. -/
structure IsRecord (document : Value) : Prop where
  isTable : document.isTable = true
  writable : document.holdsLongInteger = false

/-- How a document fails without being rejected. -/
inductive FailsOutside (document : Value) : DecodeError → Prop
  | parts {error : DecodeError} : IsRecord document → PartsFail document error →
      FailsOutside document error
  | segment {parts : Parts} {first rest : List Segment} {s : Segment} {error : DecodeError} :
      IsRecord document → Document.parts document = .ok parts →
      segmentsFrom 1 (Text.splitOn ';' parts.mappings.toList) = first ++ s :: rest →
      AllFit parts [] first → s.FailsOutside parts first error → FailsOutside document error
  | order {mappings : List (Mapping Value)} : Document.mappings document = .ok mappings →
      SourceMap.hasGeneratedOrder mappings = false ∨
        SourceMap.hasOriginalOrder (mappings.filter (·.source.isSome)) = false →
      FailsOutside document .wrongKind

theorem PartsFail.fault?_eq_none {document : Value} {error : DecodeError}
    (h : PartsFail document error) : error.fault? = none := by
  cases h <;> rfl

theorem FailsOutside.fault?_eq_none {document : Value} {error : DecodeError}
    (h : FailsOutside document error) : error.fault? = none := by
  cases h with
  | parts _ hparts => exact hparts.fault?_eq_none
  | segment _ _ _ _ hs => exact hs.fault?_eq_none
  | order => rfl

theorem mappings_of_isRecord {document : Value} (h : IsRecord document) :
    mappings document = (parts document).bind fun parts =>
      placeFrom parts [] (segmentsFrom 1 (Text.splitOn ';' parts.mappings.toList)) := by
  rw [mappings, if_pos h.isTable]
  simp only [h.writable, Bool.false_eq_true, if_false, bind, Except.bind]
  cases parts document with
  | error => rfl
  | ok parts => exact placeLines_eq_placeFrom 1 _ (List.forall_mem_nil _) 1

theorem mappings_of_not_isRecord {document : Value} (h : ¬ IsRecord document) :
    ∃ reason, mappings document = .error (.rejected reason) := by
  unfold mappings
  by_cases htable : document.isTable
  · have hlong : document.holdsLongInteger = true := by
      cases hlong : document.holdsLongInteger with
      | false => exact absurd ⟨htable, hlong⟩ h
      | true => rfl
    rw [if_pos htable, hlong]
    exact ⟨_, rfl⟩
  · exact ⟨_, if_neg htable⟩

end Document

open Document

theorem SourceMap.ofMappings?_eq_none_iff {mappings : List (Mapping Value)} :
    ofMappings? mappings = none ↔ hasGeneratedOrder mappings = false ∨
      hasOriginalOrder (mappings.filter (·.source.isSome)) = false := by
  unfold ofMappings?
  cases hasGeneratedOrder mappings <;>
    cases hasOriginalOrder (mappings.filter (·.source.isSome)) <;> simp

theorem SourceMap.ofDocument_of_failsOutside {document : Value} {error : DecodeError}
    (h : FailsOutside document error) : ofDocument document = .error error := by
  unfold ofDocument
  cases h with
  | parts hrecord hparts =>
      rw [mappings_of_isRecord hrecord, parts_of_partsFail hparts]
      rfl
  | segment hrecord hparts hsegments hfirst hs =>
      rename_i parts first rest s
      have hplaced : placeFrom parts [] (first ++ s :: rest) = .error error :=
        placeFrom_eq_error_iff.mpr ⟨first, s, rest, rfl, hfirst, Segment.place_of_failsOutside hs⟩
      rw [mappings_of_isRecord hrecord, hparts]
      simp only [bind, Except.bind, hsegments, hplaced]
  | order hmappings horder =>
      simp only [hmappings, ofMappings?_eq_none_iff.mpr horder, bind, Except.bind]
      rfl

theorem SourceMap.rejected_or_failsOutside {document : Value} {error : DecodeError}
    (h : ofDocument document = .error error) :
    (∃ reason, error = .rejected reason) ∨ FailsOutside document error := by
  unfold ofDocument at h
  cases hmappings : mappings document with
  | ok ms =>
      simp only [hmappings, bind, Except.bind] at h
      split at h
      · cases h
      · next hnone =>
          cases h
          exact Or.inr (.order hmappings (ofMappings?_eq_none_iff.mp hnone))
  | error other =>
      simp only [hmappings, bind, Except.bind] at h
      cases h
      by_cases hrecord : IsRecord document
      · rw [mappings_of_isRecord hrecord] at hmappings
        cases hparts : parts document with
        | error own =>
            rw [hparts] at hmappings
            cases hmappings
            rcases rejected_or_partsFail hparts with hrejected | hfails
            · exact Or.inl hrejected
            · exact Or.inr (.parts hrecord hfails)
        | ok parts =>
            rw [hparts] at hmappings
            obtain ⟨first, s, rest, hsegments, hfirst, hs⟩ := placeFrom_eq_error_iff.mp hmappings
            rw [List.nil_append] at hs
            rcases Segment.place_cases parts first s with hfits | ⟨own, hfails⟩ | ⟨reason, hown⟩
            · obtain ⟨m, -, hm⟩ := Segment.exists_place_of_fits hfits
              cases hm.symm.trans hs
            · cases (Segment.place_of_failsOutside hfails).symm.trans hs
              exact Or.inr (.segment hrecord hparts hsegments hfirst hfails)
            · cases hown.symm.trans hs
              exact Or.inl ⟨reason, rfl⟩
      · obtain ⟨reason, hrejected⟩ := mappings_of_not_isRecord hrecord
        cases hrejected.symm.trans hmappings
        exact Or.inl ⟨reason, rfl⟩

/-! ## Documents of the prescribed kinds -/

namespace Document

def IsTextList (value : Value) : Prop := ∃ items, value = .list items ∧ ∀ item ∈ items, IsText item

/-- Whether the values of a document are of the kinds that the format prescribes. -/
structure HasKinds (document : Value) : Prop where
  sources : ∀ sources, document.get? "sources" = some sources → IsTextList sources
  names : IsCollection (givenNames document)
  mappings : ∀ mappings, document.get? "mappings" = some mappings → IsText mappings
  root : (givenRoot document).isNull = false → IsText (givenRoot document)

theorem exists_rooted_of_parts {document : Value} {given : Parts}
    (h : parts document = .ok given) :
    ∃ sources, document.get? "sources" = some sources ∧
      rooted (givenRoot document) sources = .ok given.sources := by
  unfold parts at h
  simp only [bind, Except.bind, pure, Except.pure] at h
  split at h
  · next sources hsources =>
      refine ⟨sources, hsources, ?_⟩
      split at h
      · cases h
      · split at h
        · split at h
          · split at h
            · cases h
            · next rooted hrooted =>
                cases h
                exact hrooted
          · cases h
        · cases h
  · cases h

theorem IsTextList.rooted {root sources value : Value} (hsources : IsTextList sources)
    (h : rooted root sources = .ok value) : IsTextList value := by
  cases hroot : root.isNull with
  | true =>
      rw [Document.rooted, hroot] at h
      exact Except.ok.inj h ▸ hsources
  | false =>
      obtain ⟨items, rfl, -⟩ := hsources
      rw [rooted_eq hroot] at h
      rcases mapM_joined_cases root items with ⟨values, hvalues, -, hall⟩ | ⟨herror, -⟩
      · simp only [sourceItems, hvalues, bind, Except.bind, pure, Except.pure] at h
        exact ⟨values, (Except.ok.inj h).symm, hall⟩
      · simp only [sourceItems, herror, bind, Except.bind] at h
        cases h

theorem isText_of_source {given : Parts} (hsources : IsTextList given.sources) {text : String}
    {index : Int} {source : Value} (h : given.source text index = .ok (some source)) :
    IsText source := by
  obtain ⟨sources, names, mappings⟩ := given
  obtain ⟨items, rfl, hall⟩ := hsources
  rw [Parts.source_list] at h
  by_cases hrange : 0 ≤ index ∧ index < items.length
  · rw [dif_pos hrange] at h
    have hin : index.toNat < items.length := by omega
    obtain ⟨s, hs⟩ := hall _ (List.getElem_mem hin)
    rw [hs] at h
    cases h
    exact ⟨s, rfl⟩
  · rw [dif_neg hrange] at h
    cases h

theorem gives_of_mappings {document : Value} {ms : List (Mapping Value)}
    (h : mappings document = .ok ms) :
    ∃ given, parts document = .ok given ∧ ∀ m ∈ ms, given.Gives m := by
  by_cases hrecord : IsRecord document
  · rw [mappings_of_isRecord hrecord] at h
    cases hparts : parts document with
    | error error =>
        rw [hparts] at h
        cases h
    | ok given =>
        rw [hparts] at h
        exact ⟨given, rfl, gives_of_placeFrom h⟩
  · obtain ⟨reason, hrejected⟩ := mappings_of_not_isRecord hrecord
    cases hrejected.symm.trans h

/-- A document of the prescribed kinds only fails outside where a coordinate is negative. -/
theorem HasKinds.eq_negative {document : Value} (hkinds : HasKinds document) {error : DecodeError}
    (h : FailsOutside document error) : error = .negative := by
  have hsources {given : Parts} (hparts : parts document = .ok given) :
      IsTextList given.sources := by
    obtain ⟨sources, hsources, hrooted⟩ := exists_rooted_of_parts hparts
    exact (hkinds.sources sources hsources).rooted hrooted
  cases h with
  | parts _ hparts =>
      cases hparts with
      | names _ hnames => exact absurd hkinds.names hnames
      | mappings _ _ hmappings htext => exact absurd (hkinds.mappings _ hmappings) htext
      | root hgiven _ _ _ hroot hunrootable =>
          obtain ⟨items, rfl, hall⟩ := hkinds.sources _ hgiven
          cases hunrootable with
          | sources hnone => exact absurd (.list _) hnone
          | member hlists hmember htexts =>
              cases (sourceItems_of_lists hlists).symm.trans rfl
              exact absurd ⟨hkinds.root hroot, hall _ hmember⟩ htexts
  | segment _ hparts _ _ hs =>
      obtain ⟨items, hitems, -⟩ := hsources hparts
      cases hs with
      | sources _ hnone => exact absurd (hitems ▸ .list _) hnone
      | negative => rfl
  | order hmappings hnone =>
      obtain ⟨given, hparts, hgives⟩ := gives_of_mappings hmappings
      have hsome := SourceMap.ofMappings?_of_texts (fun m hm => (hgives m hm).anchored)
        fun m hm source hsource => by
          obtain ⟨text, index, hread⟩ := (hgives m hm).source source hsource
          exact isText_of_source (hsources hparts) hread
      cases hsome.symm.trans (SourceMap.ofMappings?_eq_none_iff.mpr hnone)

end Document

/-! ## Payloads -/

/-- How a payload fails without being rejected. -/
inductive Payload.FailsOutside : Payload → DecodeError → Prop
  | encoding {bytes : ByteArray} : ¬ bytes.IsValidUTF8 → FailsOutside (.bytes bytes) .notText
  | document {payload : Payload} {document : Value} {error : DecodeError} :
      Document.read payload = .ok document → Document.FailsOutside document error →
      FailsOutside payload error

namespace SourceMap

/-- Whether reading gives a source map, or a fault that says that the payload cannot be decoded. -/
def IsHandled (result : Except DecodeError (SourceMap Value)) : Prop :=
  (∃ map, result = .ok map) ∨ ∃ error fault, result = .error error ∧ error.fault? = some fault ∧
    fault.subject = .sourceMap ∧ fault.code = .mapUndecodable

theorem rejected_or_not_isValidUTF8 {payload : Payload} {error : DecodeError}
    (h : Document.read payload = .error error) :
    (∃ reason, error = .rejected reason) ∨
      ∃ bytes, payload = .bytes bytes ∧ ¬ bytes.IsValidUTF8 ∧ error = .notText := by
  have htext {text : List Char} (h : readText text = .error error) :
      ∃ reason, error = .rejected reason := by
    unfold readText at h
    split at h
    · cases h
    · cases h
      exact ⟨_, rfl⟩
  cases payload with
  | text text => exact Or.inl (htext h)
  | document document => cases h
  | bytes bytes =>
      by_cases hvalid : bytes.IsValidUTF8
      · rw [Document.read, Text.decode?, String.fromUTF8?, dif_pos hvalid] at h
        exact Or.inl (htext h)
      · rw [Document.read, Text.decode?_of_not_isValidUTF8 hvalid] at h
        cases h
        exact Or.inr ⟨bytes, rfl, hvalid, rfl⟩

theorem rejected_or_failsOutside_of_ofPayload {payload : Payload} {error : DecodeError}
    (h : ofPayload payload = .error error) :
    (∃ reason, error = .rejected reason) ∨ payload.FailsOutside error := by
  unfold ofPayload at h
  cases hread : Document.read payload with
  | error other =>
      rw [hread] at h
      cases h
      rcases rejected_or_not_isValidUTF8 hread with hrejected | ⟨bytes, rfl, hvalid, rfl⟩
      · exact Or.inl hrejected
      · exact Or.inr (.encoding hvalid)
  | ok document =>
      rw [hread] at h
      rcases rejected_or_failsOutside h with hrejected | hfails
      · exact Or.inl hrejected
      · exact Or.inr (.document hread hfails)

theorem ofPayload_of_failsOutside {payload : Payload} {error : DecodeError}
    (h : payload.FailsOutside error) :
    ofPayload payload = .error error ∧ error.fault? = none := by
  unfold ofPayload
  cases h with
  | encoding hvalid =>
      rw [Document.read, Text.decode?_of_not_isValidUTF8 hvalid]
      exact ⟨rfl, rfl⟩
  | document hread hfails =>
      rw [hread]
      exact ⟨ofDocument_of_failsOutside hfails, hfails.fault?_eq_none⟩

theorem not_isHandled_of_failsOutside {payload : Payload} {error : DecodeError}
    (h : payload.FailsOutside error) : ¬ IsHandled (ofPayload payload) := by
  obtain ⟨herror, hnone⟩ := ofPayload_of_failsOutside h
  rintro (⟨map, hmap⟩ | ⟨other, fault, hother, hfault, -⟩)
  · cases hmap.symm.trans herror
  · cases hother.symm.trans herror
    cases hnone.symm.trans hfault

theorem failsOutside_iff {payload : Payload} {error : DecodeError} :
    payload.FailsOutside error ↔ ofPayload payload = .error error ∧ error.fault? = none := by
  refine ⟨ofPayload_of_failsOutside, ?_⟩
  rintro ⟨herror, hnone⟩
  rcases rejected_or_failsOutside_of_ofPayload herror with ⟨reason, rfl⟩ | hfails
  · cases hnone
  · exact hfails

example : ofPayload (.document (.record [("sources", .list []), ("mappings", "D")])) =
    .error .negative := rfl

end SourceMap

end Remap
