import Remap.Proofs.Settings.Section
import Remap.Proofs.Yaml.Keyed

/-!
# Layers that are read

No table of a layer has two equal keys, and the tables of a layer that is laid over others show
their entries: JSON values contain no others in turn, and the file of a project is opened along
the file for all projects (`Layers.isSectioned_of_readLayers`).
-/

namespace Remap

/-- Whether a value, if it is a table, shows its entries, under distinct keys. -/
def Value.ShowsEntries (v : Value) : Prop :=
  v.isTable → ∃ entries, v = table entries ∧ Assoc.Distinct entries

/-! ## The environment -/

namespace Json

theorem opened_eq_of_items {fuel : Nat} {read : List Value} {c c' : Cursor} {v : Value}
    (h : items fuel read c = .ok (v, c')) : v.opened = v := by
  induction fuel generalizing read c with
  | zero => cases h
  | succ fuel ih =>
      rw [items] at h
      obtain ⟨⟨item, after⟩, -, h⟩ := bind_eq_ok_iff.mp h
      dsimp only at h
      split at h
      · cases h
        rfl
      · exact ih h
      · cases h

theorem opened_eq_of_members {fuel : Nat} {read : List (Scalar × Value)} {c c' : Cursor} {v : Value}
    (h : members fuel read c = .ok (v, c')) : v.opened = v := by
  induction fuel generalizing read c with
  | zero => cases h
  | succ fuel ih =>
      rw [members] at h
      split at h
      · obtain ⟨⟨key, afterKey⟩, -, h⟩ := bind_eq_ok_iff.mp h
        dsimp only at h
        split at h
        · obtain ⟨⟨own, after⟩, -, h⟩ := bind_eq_ok_iff.mp h
          dsimp only at h
          split at h
          · cases h
            rfl
          · exact ih h
          · cases h
        · cases h
      · cases h

theorem opened_eq_of_value {fuel : Nat} {c c' : Cursor} {v : Value}
    (h : value fuel c = .ok (v, c')) : v.opened = v := by
  cases fuel with
  | zero => cases h
  | succ fuel =>
      rw [value] at h
      split at h
      · obtain ⟨⟨s, after⟩, -, h⟩ := bind_eq_ok_iff.mp h
        cases h
        rfl
      · dsimp only at h
        split at h
        · cases h
          rfl
        · exact opened_eq_of_items h
      · dsimp only at h
        split at h
        · cases h
          rfl
        · exact opened_eq_of_members h
      · split at h
        · cases h
          rfl
        · obtain ⟨⟨s, after⟩, -, h⟩ := bind_eq_ok_iff.mp h
          cases h
          rfl

/-- No value of a JSON text contains itself. -/
theorem opened_eq_of_parse {text : List Char} {v : Value} (h : parse text = .ok v) :
    v.opened = v := by
  unfold parse at h
  dsimp only at h
  split at h
  · cases h
  · obtain ⟨⟨own, after⟩, hown, h⟩ := bind_eq_ok_iff.mp h
    dsimp only at h
    split at h
    · cases h
      exact opened_eq_of_value hown
    · cases h

end Json

namespace Environment

theorem showsEntries_of_groupValue {vars : Variables} {group : Group} {v : Value}
    (h : groupValue vars group = .ok (some v)) : v.ShowsEntries := by
  intro htable
  unfold groupValue at h
  split at h
  · obtain ⟨single, -, h⟩ := bind_eq_ok_iff.mp h
    split at h
    · cases h
    · cases h
      exact ⟨_, rfl, Assoc.distinct_ofList _⟩
  · split at h
    · cases h
    · obtain ⟨single, -, h⟩ := bind_eq_ok_iff.mp h
      cases h
      exact ⟨_, rfl, Assoc.distinct_ofList _⟩
    · next value hother hparse =>
        split at h
        · cases h
        · cases h
          obtain ⟨entries, hentries⟩ := Value.isTable_iff.mp htable
          rw [Json.opened_eq_of_parse hparse] at hentries
          exact absurd hentries (hother entries)

theorem exists_of_read {vars : Variables} {entries : List (Scalar × Value)}
    (h : read vars = .ok entries) :
    ∃ logging parser : Option Value,
      (∀ v ∈ logging, v.ShowsEntries) ∧ (∀ v ∈ parser, v.ShowsEntries) ∧
      entries = (logging.map fun v => ((.str "logging", v) : Scalar × Value)).toList ++
        (parser.map fun v => (.str "parser", v)).toList := by
  obtain ⟨values, hvalues, h⟩ := bind_eq_ok_iff.mp h
  cases h
  rw [groups, List.mapM_cons] at hvalues
  obtain ⟨logging, hlogging, hvalues⟩ := bind_eq_ok_iff.mp hvalues
  obtain ⟨others, hothers, hvalues⟩ := bind_eq_ok_iff.mp hvalues
  cases hvalues
  rw [List.mapM_cons] at hothers
  obtain ⟨parser, hparser, hothers⟩ := bind_eq_ok_iff.mp hothers
  cases hothers
  refine ⟨logging, parser, ?_, ?_, ?_⟩
  · rintro v rfl
    exact showsEntries_of_groupValue hlogging
  · rintro v rfl
    exact showsEntries_of_groupValue hparser
  · cases logging <;> cases parser <;> rfl

theorem distinct_of_read {vars : Variables} {entries : List (Scalar × Value)}
    (h : read vars = .ok entries) : Assoc.Distinct entries := by
  obtain ⟨logging, parser, -, -, rfl⟩ := exists_of_read h
  have hnames : ((.str "parser" : Scalar) == .str "logging") = false := by decide
  cases logging <;> cases parser <;> simp [Assoc.Distinct, hnames]

theorem showsEntries_of_mem_read {vars : Variables} {entries : List (Scalar × Value)}
    (h : read vars = .ok entries) : ∀ entry ∈ entries, entry.2.ShowsEntries := by
  obtain ⟨logging, parser, hlogging, hparser, rfl⟩ := exists_of_read h
  intro entry hentry
  rcases List.mem_append.mp hentry with hentry | hentry
  · obtain ⟨v, hv, rfl⟩ := Option.map_eq_some_iff.mp (Option.mem_toList.mp hentry)
    exact hlogging v hv
  · obtain ⟨v, hv, rfl⟩ := Option.map_eq_some_iff.mp (Option.mem_toList.mp hentry)
    exact hparser v hv

end Environment

/-! ## Arguments -/

/-- Whether arguments have distinct names, and those that are tables show their entries. -/
structure SettingsSources.HasPlainArguments (sources : SettingsSources) : Prop where
  distinct : Assoc.Distinct sources.arguments
  showsEntries : ∀ argument ∈ sources.arguments, argument.2.ShowsEntries

namespace Settings

theorem lowercase_groupName : ∀ group ∈ groupNames, Text.lowercase group = group := by
  decide +kernel

theorem distinct_argumentEntries {arguments : List (String × Value)}
    (h : Assoc.Distinct arguments) : Assoc.Distinct (argumentEntries arguments) := by
  unfold argumentEntries
  refine List.pairwise_append.mpr ⟨?_, ?_, ?_⟩
  · have hnames : groupNames.Pairwise fun a b => a ≠ b := by decide
    refine List.pairwise_filterMap.mpr (hnames.imp fun hne entry hentry other hother => ?_)
    obtain ⟨_, -, rfl⟩ := Option.map_eq_some_iff.mp hentry
    obtain ⟨_, -, rfl⟩ := Option.map_eq_some_iff.mp hother
    exact Bool.eq_false_iff.mpr fun heq => hne (Scalar.str.inj (Scalar.str_beq_iff.mp heq))
  · refine List.pairwise_map.mpr ((h.filter _).imp fun hne => ?_)
    refine Bool.eq_false_iff.mpr fun heq => ?_
    rw [Scalar.str.inj (Scalar.str_beq_iff.mp heq), beq_self_eq_true] at hne
    cases hne
  · intro entry hentry other hother
    obtain ⟨group, hgroup, hfound⟩ := List.mem_filterMap.mp hentry
    obtain ⟨_, -, rfl⟩ := Option.map_eq_some_iff.mp hfound
    obtain ⟨⟨name, value⟩, hname, rfl⟩ := List.mem_map.mp hother
    refine Bool.eq_false_iff.mpr fun heq => ?_
    obtain rfl : group = name := Scalar.str.inj (Scalar.str_beq_iff.mp heq)
    have hnot := (List.mem_filter.mp hname).2
    simp [lowercase_groupName group hgroup, hgroup] at hnot

theorem exists_of_mem_argumentEntries {arguments : List (String × Value)}
    {entry : Scalar × Value} (h : entry ∈ argumentEntries arguments) :
    ∃ argument ∈ arguments, argument.2 = entry.2 := by
  rcases List.mem_append.mp h with h | h
  · obtain ⟨group, -, hfound⟩ := List.mem_filterMap.mp h
    obtain ⟨argument, hargument, rfl⟩ := Option.map_eq_some_iff.mp hfound
    exact ⟨argument, List.mem_of_find?_eq_some hargument, rfl⟩
  · obtain ⟨argument, hargument, rfl⟩ := List.mem_map.mp h
    exact ⟨argument, (List.mem_filter.mp hargument).1, rfl⟩

end Settings

/-! ## Files -/

/-- Whether entries have distinct keys, and so have all tables in them. -/
def AreKeyed (entries : List (Scalar × Value)) : Prop :=
  Assoc.Distinct entries ∧ ∀ entry ∈ entries, entry.2.Keyed

theorem areKeyed_nil : AreKeyed [] :=
  ⟨List.Pairwise.nil, fun _ h => by cases h⟩

theorem areKeyed_of_readSettings {content : Path.Content} {entries : List (Scalar × Value)}
    (h : readSettings content = .ok entries) : AreKeyed entries := by
  cases content with
  | nothing =>
      cases h
      exact areKeyed_nil
  | directory => cases h
  | file bytes =>
      unfold readSettings at h
      dsimp only at h
      split at h
      · obtain ⟨value, hvalue, h⟩ := bind_eq_ok_iff.mp h
        have hkeyed := Yaml.keyed_of_read (mapError_eq_ok_iff.mp hvalue)
        split at h
        · next hopened =>
            cases h
            exact hkeyed.of_opened hopened
        · split at h
          · cases h
            exact areKeyed_nil
          · cases h
      · cases h

theorem distinct_of_openEntries {lower given opened : List (Scalar × Value)}
    (h : Value.openEntries? lower given = some opened) (hgiven : Assoc.Distinct given) :
    Assoc.Distinct opened :=
  Assoc.distinct_of_map_fst_eq (Value.map_fst_of_openEntriesBy h) hgiven

/-- Where the file for all projects has a section, that of the project shows its entries. -/
theorem showsSection_of_openEntries {lower given opened : List (Scalar × Value)}
    (h : Value.openEntries? lower given = some opened) (hgiven : AreKeyed given) {group : String}
    (hlower : IsSectioned group lower) (hopened : ∀ part ∈ opened.lookup (.str group), part.isTable)
    (hsome : (lower.lookup (.str group)).isSome) : ShowsSection group opened := by
  intro part hpart
  obtain ⟨old, hold⟩ := Option.isSome_iff_exists.mp hsome
  obtain ⟨entry, hentry, hopens⟩ := Value.exists_of_openEntries h hpart
  rw [Value.OpensAt, hold] at hopens
  obtain ⟨entries, inner, hinner, rfl, hkeys⟩ :=
    Value.exists_of_openedAlong hopens (hlower.isTable old hold) (hopened part hpart)
  have hdistinct := ((hgiven.2 entry hentry).of_opened hinner).1
  exact ⟨entries, rfl, Assoc.distinct_of_map_fst_eq hkeys hdistinct⟩

/-! ## All layers -/

namespace Layers

/-- The layers from the highest to the lowest. -/
def all (layers : Layers) : List (List (Scalar × Value)) :=
  [layers.arguments, layers.environment, layers.project, layers.common]

/-- Whether the section of a group is a table in each layer that has one, and shows its entries
where it is laid over another. -/
structure IsSectioned (layers : Layers) (group : String) : Prop where
  isSectioned : ∀ layer ∈ layers.all, Remap.IsSectioned group layer
  arguments : ShowsSection group layers.arguments
  environment : ShowsSection group layers.environment
  project : (layers.common.lookup (.str group)).isSome → ShowsSection group layers.project

end Layers

namespace Settings

theorem areKeyed_of_readProject {sources : SettingsSources} {entries : List (Scalar × Value)}
    (h : readProject sources = .ok entries) : AreKeyed entries := by
  unfold readProject at h
  split at h
  · exact areKeyed_of_readSettings (mapError_eq_ok_iff.mp h)
  · exact areKeyed_of_readSettings (mapError_eq_ok_iff.mp h)

theorem openEntries_of_openProject {common given opened : List (Scalar × Value)}
    (h : openProject common given = .ok opened) :
    Value.openEntries? common given = some opened := by
  unfold openProject at h
  split at h
  · next hopened =>
      cases h
      exact hopened
  · cases h

theorem showsSection_of_showsEntries {entries : List (Scalar × Value)} {group : String}
    (hentries : ∀ entry ∈ entries, entry.2.ShowsEntries)
    (htables : ∀ part ∈ entries.lookup (.str group), part.isTable) :
    ShowsSection group entries := by
  intro part hpart
  obtain ⟨key, hmem⟩ := Assoc.exists_mem_of_lookup hpart
  exact hentries _ hmem (htables part hpart)

/-- Layers are sectioned whose sections are tables. -/
theorem isSectioned_of_readLayers {sources : SettingsSources} {layers : Layers}
    (h : readLayers sources = .ok layers) (harguments : sources.HasPlainArguments) {group : String}
    (htables : ∀ layer ∈ layers.all, ∀ part ∈ layer.lookup (.str group), part.isTable) :
    layers.IsSectioned group := by
  obtain ⟨_, -, h⟩ := bind_eq_ok_iff.mp h
  obtain ⟨common, hcommon, h⟩ := bind_eq_ok_iff.mp h
  obtain ⟨given, hgiven, h⟩ := bind_eq_ok_iff.mp h
  obtain ⟨project, hproject, h⟩ := bind_eq_ok_iff.mp h
  obtain ⟨environment, henvironment, h⟩ := bind_eq_ok_iff.mp h
  cases h
  simp only [Layers.all, List.forall_mem_cons] at htables
  obtain ⟨hargumentTables, henvironmentTables, hprojectTables, hcommonTables, -⟩ := htables
  have hcommon := areKeyed_of_readSettings (mapError_eq_ok_iff.mp hcommon)
  have hgiven := areKeyed_of_readProject hgiven
  have hopened := openEntries_of_openProject hproject
  have henvironment := mapError_eq_ok_iff.mp henvironment
  have hcommonSection : IsSectioned group common := ⟨hcommon.1, hcommonTables⟩
  refine ⟨?_, ?_, ?_, ?_⟩
  · simp only [Layers.all, List.forall_mem_cons]
    refine ⟨⟨distinct_argumentEntries harguments.distinct, hargumentTables⟩,
      ⟨Environment.distinct_of_read henvironment, henvironmentTables⟩,
      ⟨distinct_of_openEntries hopened hgiven.1, hprojectTables⟩, hcommonSection, ?_⟩
    intro layer hlayer
    cases hlayer
  · refine showsSection_of_showsEntries (fun entry hentry => ?_) hargumentTables
    obtain ⟨argument, hargument, heq⟩ := exists_of_mem_argumentEntries hentry
    rw [← heq]
    exact harguments.showsEntries argument hargument
  · exact showsSection_of_showsEntries (Environment.showsEntries_of_mem_read henvironment)
      henvironmentTables
  · exact showsSection_of_openEntries hopened hgiven hcommonSection hprojectTables

end Settings

end Remap
