import Remap.Proofs.Settings.Section
import Remap.Proofs.Settings.Written

/-!
# Layers of extensions in several spellings

One extension can be spelled in several ways, in large letters or without its dot. Layers are
merged by what is written and brought into normal form afterwards, where the last spelling of
an extension counts (`Extensions.lookup_normalise`). A merged layer holds the spellings of the
lower layer first, in their order, and then those that only the higher one has, so that the
spelling that decides (`Extensions.decisive?`) need not be the last one of the higher layer, nor
one of it at all. Just where both have the same grammar the higher layer counts
(`Extensions.overrides_iff_decisive`), which is so wherever no layer spells an extension in two
ways.
-/

namespace Remap

namespace Extensions

variable {lower higher given : List (String × String)} {extension : String}

/-- Extensions as a file of settings holds them. -/
def written (given : List (String × String)) : Value :=
  .record (given.map fun (extension, grammar) => (extension, .str grammar))

/-- The entries that spell an extension, which is in normal form. -/
def spellings (given : List (String × String)) (extension : String) : List (String × String) :=
  given.filter fun entry => extension == normalExtension entry.1

/-! ## Normal forms -/

/-- Of several spellings of an extension the last one counts. -/
theorem lookup_normalise {extensions : Extensions} (h : normalise given = .ok extensions)
    (extension : String) :
    extensions.lookup extension = (spellings given extension).getLast?.map Prod.snd := by
  unfold normalise at h
  split at h
  · cases h
  · cases h
    rw [Assoc.lookup_ofList, List.filter_map, List.getLast?_map, Option.map_map]
    rfl

theorem normalise_of_registered (h : ∀ entry ∈ given, (Grammar.named? entry.2).isSome) :
    ∃ extensions, normalise given = .ok extensions := by
  have hnone : given.find? (fun (_, grammar) => (Grammar.named? grammar).isNone) = none := by
    refine List.find?_eq_none.mpr fun entry hentry => ?_
    simpa [Option.isSome_iff_ne_none] using h entry hentry
  exact ⟨_, by rw [normalise, hnone]⟩

theorem exists_checkExtensions_written (hdistinct : Assoc.Distinct given)
    (h : ∀ entry ∈ given, (Grammar.named? entry.2).isSome) :
    ∃ extensions, ParserSettings.checkExtensions (written given) = .ok extensions ∧
      ∀ extension,
        extensions.lookup extension = (spellings given extension).getLast?.map Prod.snd := by
  obtain ⟨extensions, hnormal⟩ := normalise_of_registered h
  refine ⟨extensions, bind_eq_ok_iff.mpr ⟨given, ?_, ?_⟩, lookup_normalise hnormal⟩
  · rw [written, Check.texts_record, Assoc.ofList_of_distinct hdistinct]
  · rw [hnormal]
    rfl

/-! ## Merged extensions -/

/-- An entry of the lower layer with the grammar that the higher one gives its spelling. -/
def overwritten (higher : List (String × String)) (entry : String × String) : String × String :=
  (entry.1, (higher.lookup entry.1).getD entry.2)

/-- The entries whose spellings only the higher layer has. -/
def added (lower higher : List (String × String)) : List (String × String) :=
  higher.filter fun entry => (lower.lookup entry.1).isNone

/-- What is written in one layer laid over another. -/
def laid (lower higher : List (String × String)) : List (String × String) :=
  lower.map (overwritten higher) ++ added lower higher

/-- The entry that decides which grammar an extension has in merged layers. -/
def decisive? (lower higher : List (String × String)) (extension : String) :
    Option (String × String) :=
  (spellings (added lower higher) extension).getLast?.or
    ((spellings lower extension).getLast?.map (overwritten higher))

theorem getLast?_spellings_laid (lower higher : List (String × String)) (extension : String) :
    (spellings (laid lower higher) extension).getLast? = decisive? lower higher extension := by
  rw [laid, spellings, List.filter_append, List.getLast?_append, List.filter_map,
    List.getLast?_map]
  rfl

/-- An entry of extensions as a file of settings holds it. -/
def writtenEntry (entry : String × String) : Scalar × Value := (.str entry.1, .str entry.2)

theorem written_eq (given : List (String × String)) :
    written given = .table (given.map writtenEntry) := by
  rw [written, Value.record, List.map_map]
  rfl

theorem str_beq_str (a b : String) : ((.str a : Scalar) == .str b) = (a == b) := by
  rw [Bool.eq_iff_iff, Scalar.str_beq_iff, beq_iff_eq]
  constructor
  · intro h
    exact (Scalar.str.inj h).symm
  · rintro rfl
    rfl

theorem lookup_writtenEntry (given : List (String × String)) (extension : String) :
    (given.map writtenEntry).lookup (.str extension) =
      (given.lookup extension).map fun grammar => .str grammar := by
  induction given with
  | nil => rfl
  | cons entry rest ih =>
      rw [List.map_cons, List.lookup_cons, List.lookup_cons, writtenEntry, str_beq_str, ih]
      cases extension == entry.1 <;> rfl

theorem distinct_writtenEntry (h : Assoc.Distinct given) :
    Assoc.Distinct (given.map writtenEntry) := by
  refine List.pairwise_map.mpr (h.imp fun {a b} hne => ?_)
  rw [writtenEntry, writtenEntry, str_beq_str]
  exact hne

theorem overlay_written (hlower : Assoc.Distinct lower) (hhigher : Assoc.Distinct higher) :
    (written lower).overlay (written higher) = written (laid lower higher) := by
  have hunder : Value.laidUnder (higher.map writtenEntry) ∘ writtenEntry =
      writtenEntry ∘ overwritten higher := by
    funext entry
    rw [Function.comp_apply, Value.laidUnder, writtenEntry, lookup_writtenEntry,
      Function.comp_apply, overwritten]
    cases higher.lookup entry.1 <;> rfl
  have hnew : (fun entry : Scalar × Value => ((lower.map writtenEntry).lookup entry.1).isNone) ∘
      writtenEntry = fun entry => (lower.lookup entry.1).isNone := by
    funext entry
    rw [Function.comp_apply, writtenEntry, lookup_writtenEntry, Option.isNone_map]
  rw [written_eq, written_eq, written_eq, Value.overlay_table rfl,
    Value.overlayEntries_eq_append (distinct_writtenEntry hlower) (distinct_writtenEntry hhigher),
    laid, List.map_append, List.map_map, List.map_map, List.filter_map, hnew, hunder]
  rfl

theorem distinct_laid (hlower : Assoc.Distinct lower) (hhigher : Assoc.Distinct higher) :
    Assoc.Distinct (laid lower higher) := by
  refine List.pairwise_append.mpr ⟨List.pairwise_map.mpr hlower, hhigher.filter _, ?_⟩
  intro a ha b hb
  obtain ⟨own, hown, rfl⟩ := List.mem_map.mp ha
  obtain ⟨-, hnew⟩ := List.mem_filter.mp hb
  refine beq_eq_false_iff_ne.mpr fun heq => ?_
  rw [heq, overwritten, Assoc.lookup_of_mem hlower hown] at hnew
  cases hnew

theorem registered_laid (h : ∀ entry ∈ lower ++ higher, (Grammar.named? entry.2).isSome) :
    ∀ entry ∈ laid lower higher, (Grammar.named? entry.2).isSome := by
  intro entry hentry
  rcases List.mem_append.mp hentry with hentry | hentry
  · obtain ⟨own, hown, rfl⟩ := List.mem_map.mp hentry
    rw [overwritten]
    cases hgrammar : higher.lookup own.1 with
    | none => exact h own (List.mem_append_left _ hown)
    | some grammar =>
        obtain ⟨key, hkey⟩ := Assoc.exists_mem_of_lookup hgrammar
        exact h (key, grammar) (List.mem_append_right _ hkey)
  · exact h entry (List.mem_append_right _ (List.mem_filter.mp hentry).1)

/-! ## The spelling that decides -/

theorem spellings_added (lower higher : List (String × String)) (extension : String) :
    spellings (added lower higher) extension =
      (spellings higher extension).filter fun entry => (lower.lookup entry.1).isNone := by
  rw [spellings, added, List.filter_filter, spellings, List.filter_filter]
  exact List.filter_congr fun entry _ => Bool.and_comm _ _

theorem mem_spellings_iff {entry : String × String} :
    entry ∈ spellings given extension ↔
      entry ∈ given ∧ normalExtension entry.1 = extension := by
  rw [spellings, List.mem_filter, beq_iff_eq, eq_comm (a := extension)]

/-- Where the higher layer does not spell an extension the lower one is left as it is. -/
theorem decisive?_of_spellings_eq_nil (h : spellings higher extension = []) :
    decisive? lower higher extension = (spellings lower extension).getLast? := by
  have hkept : ∀ entry ∈ (spellings lower extension).getLast?,
      overwritten higher entry = entry := by
    intro entry hentry
    have hspells := (mem_spellings_iff.mp (List.mem_of_getLast? hentry)).2
    have hnone : higher.lookup entry.1 = none := by
      refine List.lookup_eq_none_iff.mpr fun own hown => ?_
      rw [bne, Bool.not_eq_true']
      refine beq_eq_false_iff_ne.mpr fun heq => ?_
      have hmem : own ∈ spellings higher extension :=
        mem_spellings_iff.mpr ⟨hown, by rw [← heq]; exact hspells⟩
      rw [h] at hmem
      cases hmem
    rw [overwritten, hnone, Option.getD_none]
  rw [decisive?, spellings_added, h]
  cases hlast : (spellings lower extension).getLast? with
  | none => rfl
  | some entry => exact congrArg some (hkept entry hlast)

/-- Where no layer spells an extension in two ways the spelling of the higher layer decides. -/
theorem decisive?_of_spelledOnce (hhigher : Assoc.Distinct higher) {last : String × String}
    (hlast : spellings higher extension = [last])
    (hlower : (spellings lower extension).length ≤ 1) :
    decisive? lower higher extension = some last := by
  obtain ⟨hmem, hspells⟩ := mem_spellings_iff.mp (hlast ▸ List.mem_singleton_self last)
  rw [decisive?, spellings_added, hlast]
  cases hold : lower.lookup last.1 with
  | none => simp [hold]
  | some old =>
      have hown : (last.1, old) ∈ spellings lower extension := by
        obtain ⟨front, behind, hentries, -⟩ := List.lookup_eq_some_iff.mp hold
        exact mem_spellings_iff.mpr ⟨hentries ▸ by simp, hspells⟩
      obtain ⟨own, hsingle⟩ := List.length_eq_one_iff.mp
        (Nat.le_antisymm hlower (List.length_pos_of_mem hown))
      rw [hsingle] at hown ⊢
      obtain rfl := List.mem_singleton.mp hown
      simp [hold, overwritten, Assoc.lookup_of_mem hhigher hmem]

/-! ## Layers -/

/-- Laid over another layer, extensions are accepted with each grammar where its last spelling
stands in what is merged. They have the grammars of the higher layer, and those of the lower one
where it has none, just where the last spelling in the higher layer has the grammar of the one
that decides; so wherever no layer spells the extension in two ways. -/
theorem overrides_iff_decisive (hlower : Assoc.Distinct lower) (hhigher : Assoc.Distinct higher)
    (hregistered : ∀ entry ∈ lower ++ higher, (Grammar.named? entry.2).isSome) :
    ∃ below above merged : Extensions,
      ParserSettings.checkExtensions (written lower) = .ok below ∧
      ParserSettings.checkExtensions (written higher) = .ok above ∧
      ParserSettings.checkExtensions ((written lower).overlay (written higher)) = .ok merged ∧
      ∀ extension,
        merged.lookup extension = (decisive? lower higher extension).map Prod.snd ∧
        (merged.lookup extension = (above.lookup extension).or (below.lookup extension) ↔
          ∀ last ∈ (spellings higher extension).getLast?,
            ∃ own ∈ decisive? lower higher extension, own.2 = last.2) ∧
        ((spellings lower extension).length ≤ 1 → (spellings higher extension).length ≤ 1 →
          merged.lookup extension = (above.lookup extension).or (below.lookup extension)) := by
  obtain ⟨below, hbelow, hlookupBelow⟩ := exists_checkExtensions_written hlower
    fun entry hentry => hregistered entry (List.mem_append_left _ hentry)
  obtain ⟨above, habove, hlookupAbove⟩ := exists_checkExtensions_written hhigher
    fun entry hentry => hregistered entry (List.mem_append_right _ hentry)
  obtain ⟨merged, hmerged, hlookup⟩ := exists_checkExtensions_written
    (distinct_laid hlower hhigher) (registered_laid hregistered)
  rw [← overlay_written hlower hhigher] at hmerged
  refine ⟨below, above, merged, hbelow, habove, hmerged, fun extension => ?_⟩
  have hdecisive : merged.lookup extension = (decisive? lower higher extension).map Prod.snd := by
    rw [hlookup, getLast?_spellings_laid]
  have hiff : merged.lookup extension = (above.lookup extension).or (below.lookup extension) ↔
      ∀ last ∈ (spellings higher extension).getLast?,
        ∃ own ∈ decisive? lower higher extension, own.2 = last.2 := by
    rw [hdecisive, hlookupAbove, hlookupBelow]
    cases hlast : (spellings higher extension).getLast? with
    | none =>
        rw [decisive?_of_spellings_eq_nil (List.getLast?_eq_none_iff.mp hlast)]
        simp
    | some last =>
        simp [Option.map_eq_some_iff]
  refine ⟨hdecisive, hiff, fun honce honce' => hiff.mpr fun last hlast => ?_⟩
  have hmem := List.mem_of_getLast? hlast
  obtain ⟨own, hsingle⟩ := List.length_eq_one_iff.mp
    (Nat.le_antisymm honce' (List.length_pos_of_mem hmem))
  rw [hsingle] at hlast
  cases hlast
  exact ⟨_, decisive?_of_spelledOnce hhigher hsingle honce, rfl⟩

/-- Layers that spell two extensions differently, and one of them in two ways in the higher one. -/
def respelledLower : List (String × String) := [("JS", "javascript"), ("ts", "typescript")]

def respelledHigher : List (String × String) :=
  [(".js", "tsx"), (".TS", "tsx"), ("ts", "typescript")]

theorem overrides_iff_decisive_respelled :
    ∃ below above merged : Extensions,
      ParserSettings.checkExtensions (written respelledLower) = .ok below ∧
        ParserSettings.checkExtensions (written respelledHigher) = .ok above ∧
        ParserSettings.checkExtensions
          ((written respelledLower).overlay (written respelledHigher)) = .ok merged ∧
        merged.lookup ".js" = (above.lookup ".js").or (below.lookup ".js") ∧
        merged.lookup ".js" = some "tsx" ∧
        merged.lookup ".ts" ≠ (above.lookup ".ts").or (below.lookup ".ts") ∧
        merged.lookup ".ts" = some "tsx" := by
  have hlower : Assoc.Distinct respelledLower := by
    unfold Assoc.Distinct
    decide
  have hhigher : Assoc.Distinct respelledHigher := by
    unfold Assoc.Distinct
    decide
  obtain ⟨below, above, merged, hbelow, habove, hmerged, hlookup⟩ :=
    overrides_iff_decisive hlower hhigher (by decide +kernel)
  have hjs : decisive? respelledLower respelledHigher ".js" = some (".js", "tsx") := by
    decide +kernel
  have hts : decisive? respelledLower respelledHigher ".ts" = some (".TS", "tsx") := by
    decide +kernel
  have hlast : (spellings respelledHigher ".ts").getLast? = some ("ts", "typescript") := by
    decide +kernel
  obtain ⟨hjsLookup, -, honce⟩ := hlookup ".js"
  obtain ⟨htsLookup, htsIff, -⟩ := hlookup ".ts"
  rw [hjs] at hjsLookup
  rw [hts] at htsLookup
  refine ⟨below, above, merged, hbelow, habove, hmerged,
    honce (by decide +kernel) (by decide +kernel), hjsLookup, fun heq => ?_, htsLookup⟩
  obtain ⟨own, hown, hgrammar⟩ := htsIff.mp heq _ hlast
  rw [hts] at hown
  cases hown
  exact absurd hgrammar (by decide)

end Extensions

namespace Settings

/-- Files of which the lower one spells an extension in two ways. -/
def twiceSpelled (project : String) : SettingsSources where
  commonPath := "config.yaml"
  common := .file "parser:\n  extensions:\n    .js: javascript\n    JS: typescript\n".toUTF8
  projectPath := ".covmap.yaml"
  project := .file project.toUTF8

/-- The grammar that a higher layer gives to an extension does not count where the lower layer
spells the extension once more behind. -/
theorem load_twiceSpelled :
    let homes : Homes := fun _ => none
    let lower := [(".js", "javascript"), ("JS", "typescript")]
    let higher := [(".js", "tsx")]
    ParserSettings.checkExtensions (Extensions.written lower) = .ok [(".js", "typescript")] ∧
      ParserSettings.checkExtensions (Extensions.written higher) = .ok [(".js", "tsx")] ∧
      ParserSettings.checkExtensions
          ((Extensions.written lower).overlay (Extensions.written higher)) =
        .ok [(".js", "typescript")] ∧
      load homes (twiceSpelled "parser:\n  extensions:\n    .js: tsx\n") =
        .ok { parser := { extensions := [(".js", "typescript")] } } := by
  decide +kernel

end Settings

end Remap
