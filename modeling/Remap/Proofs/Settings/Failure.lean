import Remap.Proofs.Settings.Section
import Remap.Proofs.Settings.Written

/-!
# How loading settings fails

What users are expected to mend is a fault (`Settings.IsHandled`). Some files fail outside of
this: a scalar or a version that cannot be read, tables that contain themselves along the same
keys, a key that is no text, a destination below the home of a user nobody knows, and a value
with too long an integer to be shown. `Settings.FailsOutside` says which these are, and
`Settings.isHandled_load_iff` that there are no others, with two things left out. Texts that
escape half of a pair of codes are set apart (`Settings.MeetsHalfPair`), since what becomes of such
a half depends on what is done with it later. And nothing is said of the stack of the program that
reads a text: one that is nested deeper than the stack allows fails for this, whatever it holds.

A home that is not known stands above all other issues, wherever it comes up
(`Check.FailsForHome`); of the issues only the first is shown, where the members of a set come in
the order of the text.
-/

namespace Remap

/-- The members of a list, of a pair or of a set. -/
def Value.members (v : Value) : List Value :=
  match v.opened with
  | list values => values
  | pair a b => [a, b]
  | set members => members.map .scalar
  | _ => []

/-! ## Unknown homes -/

namespace Check

variable {α β : Type}

/-- Whether a check is refused because a home is not known. -/
def FailsForHome (check : Check α) : Prop := ∃ user, check = .error (.unknownHome user)

theorem not_failsForHome_ok (a : α) : ¬ FailsForHome (.ok a) := by
  rintro ⟨user, h⟩
  cases h

theorem not_failsForHome_refuse (cause : IssueCause) (input : Value) :
    ¬ FailsForHome (refuse cause input : Check α) := by
  rintro ⟨user, h⟩
  cases h

theorem failsForHome_map {check : Check α} {f : α → β} :
    FailsForHome (check.map f) ↔ FailsForHome check := by
  cases check with
  | ok a => exact iff_of_false (not_failsForHome_ok _) (not_failsForHome_ok _)
  | error refusal => simp [FailsForHome, Except.map]

theorem failsForHome_under {step : Step} {check : Check α} :
    FailsForHome (check.under step) ↔ FailsForHome check := by
  cases check with
  | ok a => exact iff_of_false (not_failsForHome_ok _) (not_failsForHome_ok _)
  | error refusal => cases refusal <;> simp [FailsForHome, under, Refusal.under]

theorem failsForHome_both {left : Check α} {right : Check β} :
    FailsForHome (both left right) ↔ FailsForHome left ∨ FailsForHome right := by
  cases left with
  | ok a =>
      cases right <;> simp [FailsForHome, both]
  | error refusal =>
      cases right with
      | ok b => simp [FailsForHome, both]
      | error other => cases refusal <;> cases other <;> simp [FailsForHome, both, Refusal.and]

theorem failsForHome_all {checks : List (Check α)} :
    FailsForHome (all checks) ↔ ∃ check ∈ checks, FailsForHome check := by
  induction checks with
  | nil => simp [all, not_failsForHome_ok]
  | cons check rest ih => simp [all, failsForHome_map, failsForHome_both, ih]

theorem failsForHome_bind {check : Check α} {next : α → Check β} :
    FailsForHome (check >>= next) ↔
      FailsForHome check ∨ ∃ a, check = .ok a ∧ FailsForHome (next a) := by
  cases check with
  | ok a => simp [FailsForHome, bind, Except.bind]
  | error refusal => simp [FailsForHome, bind, Except.bind]

theorem failsForHome_setting {entries : List (Scalar × Value)} {name : String} {default : α}
    {check : Value → Check α} :
    FailsForHome (setting entries name default check) ↔
      ∃ value, entries.lookup (.str name) = some value ∧ FailsForHome (check value) := by
  unfold setting
  split
  · next value hvalue => simp [failsForHome_under, hvalue]
  · next hnone => simp [not_failsForHome_ok, hnone]

theorem failsForHome_each {check : Value → Check α} {values : List Value} :
    FailsForHome (all (values.mapIdx fun i item => (check item).under (.item i))) ↔
      ∃ item ∈ values, FailsForHome (check item) := by
  rw [failsForHome_all]
  constructor
  · rintro ⟨_, hmem, hfails⟩
    obtain ⟨i, hi, rfl⟩ := List.mem_mapIdx.mp hmem
    exact ⟨values[i], List.getElem_mem hi, failsForHome_under.mp hfails⟩
  · rintro ⟨item, hmem, hfails⟩
    obtain ⟨i, hi, rfl⟩ := List.getElem_of_mem hmem
    exact ⟨_, List.mem_mapIdx.mpr ⟨i, hi, rfl⟩, failsForHome_under.mpr hfails⟩

theorem failsForHome_items {check : Value → Check α} {value : Value} :
    FailsForHome (items check value) ↔ ∃ item ∈ value.members, FailsForHome (check item) := by
  unfold items Value.members
  cases value.opened with
  | list values => exact failsForHome_each
  | pair a b => exact failsForHome_each
  | set members => exact failsForHome_each
  | _ => simp [not_failsForHome_refuse]

theorem not_failsForHome_text (value : Value) : ¬ FailsForHome (text value) := by
  unfold text
  split
  · exact not_failsForHome_ok _
  · split
    · exact not_failsForHome_ok _
    · exact not_failsForHome_refuse _ _
  · exact not_failsForHome_refuse _ _

theorem not_failsForHome_choice (choices : List (String × α)) (value : Value) :
    ¬ FailsForHome (choice choices value) := by
  unfold choice
  dsimp only
  split
  · exact not_failsForHome_ok _
  · exact not_failsForHome_refuse _ _

theorem not_failsForHome_optionalChoice (choices : List (String × α)) (value : Value) :
    ¬ FailsForHome (optionalChoice choices value) := by
  unfold optionalChoice
  split
  · exact not_failsForHome_ok _
  · rw [failsForHome_map]
    exact not_failsForHome_choice choices value

theorem not_failsForHome_read (flag? : Option Bool) (value : Value) :
    ¬ FailsForHome (match flag? with
      | some b => .ok b
      | none => refuse .unreadableFlag value : Check Bool) := by
  cases flag? with
  | some b => exact not_failsForHome_ok b
  | none => exact not_failsForHome_refuse _ _

theorem not_failsForHome_flag (value : Value) : ¬ FailsForHome (flag value) := by
  have hfound (flag? : Option Bool) := not_failsForHome_read flag? value
  unfold flag
  dsimp only
  split
  · exact not_failsForHome_ok _
  · exact hfound _
  · exact hfound _
  · split
    · exact hfound _
    · exact not_failsForHome_refuse _ _
  · split
    · split
      · exact hfound _
      · exact not_failsForHome_refuse _ _
    · exact not_failsForHome_refuse _ _
  · exact not_failsForHome_refuse _ _

theorem not_failsForHome_texts (value : Value) : ¬ FailsForHome (texts value) := by
  unfold texts
  split
  · dsimp only
    rw [failsForHome_map, failsForHome_all]
    rintro ⟨_, hmem, hfails⟩
    obtain ⟨⟨key, entry⟩, -, rfl⟩ := List.mem_map.mp hmem
    simp only [failsForHome_both, failsForHome_under] at hfails
    rcases hfails with hfails | hfails <;> exact not_failsForHome_text _ hfails
  · exact not_failsForHome_refuse _ _

theorem failsForHome_group {name : String} {value : Value}
    {next : List (Scalar × Value) → Check α} :
    FailsForHome (group name value >>= next) ↔
      ∃ entries, value.opened = .table entries ∧ FailsForHome (next entries) := by
  rw [failsForHome_bind]
  unfold group
  split
  · next entries hentries => simp [not_failsForHome_ok, hentries]
  · next hother =>
      refine iff_of_false ?_ fun ⟨entries, hentries, _⟩ => hother entries hentries
      rintro (h | ⟨entries, h, -⟩)
      · exact not_failsForHome_refuse _ _ h
      · cases h

end Check

/-! ## Homes of destinations -/

/-- Whether a value is a text for a path below the home of a user nobody knows, though there
might be one. -/
def NamesUnknownHome (homes : Homes) (destination : Value) : Prop :=
  ∃ text, Check.text destination = .ok text ∧ ∃ user, (Path.ofText text).homeUser? = some user ∧
    '\x00' ∉ user ∧ homes (String.ofList user) = none

theorem Destination.failsForHome_check_iff {homes : Homes} {value : Value} :
    Check.FailsForHome (check homes value) ↔ NamesUnknownHome homes value := by
  unfold check
  rw [Check.failsForHome_bind]
  constructor
  · rintro (h | ⟨text, htext, h⟩)
    · exact absurd h (Check.not_failsForHome_text value)
    · refine ⟨text, htext, ?_⟩
      split at h
      · exact absurd h (Check.not_failsForHome_ok _)
      · exact absurd h (Check.not_failsForHome_ok _)
      · dsimp only at h
        split at h
        · exact absurd h (Check.not_failsForHome_refuse _ _)
        · next hnull =>
            split at h
            · next hnone =>
                obtain ⟨user, huser, hhome⟩ := Path.expandHome_eq_none_iff.mp hnone
                rw [huser, Option.any_some] at hnull
                exact ⟨user, huser, by simpa using hnull, hhome⟩
            · split at h
              · exact absurd h (Check.not_failsForHome_ok _)
              · exact absurd h (Check.not_failsForHome_refuse _ _)
  · rintro ⟨text, htext, user, huser, hnull, hhome⟩
    refine Or.inr ⟨text, htext, ?_⟩
    split
    · cases huser
    · cases huser
    · dsimp only
      rw [huser, Option.any_some, if_neg (by simpa using hnull),
        Path.expandHome_eq_none_iff.mpr ⟨user, huser, hhome⟩]
      exact ⟨_, rfl⟩

theorem Value.get?_eq_some_iff {v found : Value} {name : String} :
    v.get? name = some found ↔
      ∃ entries, v.opened = table entries ∧ entries.lookup (.str name) = some found := by
  unfold get?
  cases v.opened <;> simp

theorem LogOutput.failsForHome_members_iff {homes : Homes} {entries : List (Scalar × Value)} :
    Check.FailsForHome (do
      let (format, destination, level) ←
        Check.both (Check.setting entries "format" LogFormat.console
            (Check.choice LogFormat.choices))
          (Check.both (Check.setting entries "destination" .stderr (Destination.check homes))
            (Check.setting entries "level" none (Check.optionalChoice Severity.choices)))
      return ({ format, destination, level } : LogOutput)) ↔
    ∃ destination, entries.lookup (.str "destination") = some destination ∧
      NamesUnknownHome homes destination := by
  simp [Check.failsForHome_bind, Check.failsForHome_both, Check.failsForHome_setting,
    Check.not_failsForHome_choice, Check.not_failsForHome_optionalChoice,
    Destination.failsForHome_check_iff, pure, Except.pure, Check.not_failsForHome_ok]

theorem LogOutput.failsForHome_ofValue_iff {homes : Homes} {value : Value} :
    Check.FailsForHome (ofValue homes value) ↔
      ∃ destination, value.get? "destination" = some destination ∧
        NamesUnknownHome homes destination := by
  unfold ofValue
  simp only [Check.failsForHome_group, failsForHome_members_iff, Value.get?_eq_some_iff]
  grind

/-- Whether an output in a list is written below the home of a user nobody knows. -/
def OutputsNameUnknownHome (homes : Homes) (outputs : Value) : Prop :=
  ∃ output ∈ outputs.members, ∃ destination, output.get? "destination" = some destination ∧
    NamesUnknownHome homes destination

theorem LogSettings.failsForHome_members_iff {homes : Homes} {entries : List (Scalar × Value)} :
    Check.FailsForHome (do
      let (level, outputs) ←
        Check.both (Check.setting entries "level" .info (Check.choice Severity.choices))
          (Check.setting entries "outputs" [{}] (Check.items (LogOutput.ofValue homes)))
      return ({ level, outputs } : LogSettings)) ↔
    ∃ outputs, entries.lookup (.str "outputs") = some outputs ∧
      OutputsNameUnknownHome homes outputs := by
  simp [Check.failsForHome_bind, Check.failsForHome_both, Check.failsForHome_setting,
    Check.not_failsForHome_choice, Check.failsForHome_items, LogOutput.failsForHome_ofValue_iff,
    OutputsNameUnknownHome, pure, Except.pure, Check.not_failsForHome_ok]

theorem LogSettings.failsForHome_ofValue_iff {homes : Homes} {value : Value} :
    Check.FailsForHome (ofValue homes value) ↔
      ∃ outputs, value.get? "outputs" = some outputs ∧ OutputsNameUnknownHome homes outputs := by
  unfold ofValue
  simp only [Check.failsForHome_group, failsForHome_members_iff, Value.get?_eq_some_iff]
  grind

theorem ParserSettings.not_failsForHome_ofValue (value : Value) :
    ¬ Check.FailsForHome (ofValue value) := by
  have hextensions (given : Value) : ¬ Check.FailsForHome (checkExtensions given) := by
    unfold checkExtensions
    rw [Check.failsForHome_bind]
    rintro (h | ⟨texts, -, h⟩)
    · exact Check.not_failsForHome_texts given h
    · split at h
      · exact Check.not_failsForHome_ok _ h
      · exact Check.not_failsForHome_refuse _ _ h
  unfold ofValue
  rw [Check.failsForHome_group]
  simp [Check.failsForHome_bind, Check.failsForHome_both, Check.failsForHome_setting,
    Check.not_failsForHome_flag, hextensions, pure, Except.pure, Check.not_failsForHome_ok]

namespace Settings

theorem not_failsForHome_unexpected (entries : List (String × Value)) :
    ¬ Check.FailsForHome (unexpected entries) := by
  unfold unexpected
  rw [Check.failsForHome_all]
  rintro ⟨check, hmem, hfails⟩
  obtain ⟨⟨name, value⟩, -, hcheck⟩ := List.mem_filterMap.mp hmem
  dsimp only at hcheck
  split at hcheck
  · cases hcheck
  · cases hcheck
    exact Check.not_failsForHome_refuse _ _ (Check.failsForHome_under.mp hfails)

theorem failsForHome_ofEntries_iff {homes : Homes} {entries : List (Scalar × Value)} :
    Check.FailsForHome (ofEntries homes entries) ↔
      ∃ outputs, settingAt? entries "logging" "outputs" = some outputs ∧
        OutputsNameUnknownHome homes outputs := by
  unfold ofEntries settingAt?
  simp only [Check.failsForHome_map, Check.failsForHome_both, Check.failsForHome_setting,
    LogSettings.failsForHome_ofValue_iff, ParserSettings.not_failsForHome_ofValue,
    Option.bind_eq_some_iff]
  grind

/-! ## Merged entries -/

/-- Whether settings are loaded, or fail for what a file holds in a way that users can mend. -/
def IsHandled (result : Except LoadError Settings) : Prop :=
  match result with
  | .ok _ => True
  | .error error => ∃ fault, error.fault? = some fault ∧
      (fault.code = .settingsUnreadable ∨ fault.code = .settingsInvalid)

instance : DecidablePred IsHandled
  | .ok _ => .isTrue trivial
  | .error error => match hfault : error.fault? with
    | some fault =>
      decidable_of_iff (fault.code = .settingsUnreadable ∨ fault.code = .settingsInvalid)
        (by simp [IsHandled, hfault])
    | none => .isFalse (by simp [IsHandled, hfault])

/-- How entries fail to be settings without a fault. -/
inductive MergedFail (homes : Homes) (merged : List (Scalar × Value)) : Prop
  | key {entry : Scalar × Value} : entry ∈ merged → (∀ name, entry.1 ≠ .str name) →
      MergedFail homes merged
  | home {named : List (String × Value)} {outputs : Value} :
      merged = named.map (fun (name, value) => (.str name, value)) →
      settingAt? merged "logging" "outputs" = some outputs →
      OutputsNameUnknownHome homes outputs → MergedFail homes merged
  | integer {named : List (String × Value)} {first : Issue} {more : List Issue} :
      merged = named.map (fun (name, value) => (.str name, value)) →
      ofKnownEntries homes named = .error (.issues first more) → first.input.holdsLongInteger →
      MergedFail homes merged

theorem exists_key_of_mapM_namedEntry {entries : List (Scalar × Value)} {error : LoadError}
    (h : entries.mapM namedEntry = .error error) :
    ∃ entry ∈ entries, error = .key entry.1 ∧ ∀ name, entry.1 ≠ .str name := by
  induction entries with
  | nil => cases h
  | cons entry rest ih =>
      rw [List.mapM_cons] at h
      cases hentry : namedEntry entry with
      | error own =>
          rw [hentry] at h
          cases h
          refine ⟨entry, List.mem_cons_self, ?_⟩
          unfold namedEntry at hentry
          split at hentry
          · cases hentry
          · next key value hkey =>
              cases hentry
              exact ⟨rfl, fun name heq => hkey name heq⟩
      | ok own =>
          rw [hentry] at h
          cases hrest : rest.mapM namedEntry with
          | error behind =>
              rw [hrest] at h
              cases h
              obtain ⟨found, hmem, hfound⟩ := ih hrest
              exact ⟨found, List.mem_cons_of_mem _ hmem, hfound⟩
          | ok others =>
              rw [hrest] at h
              cases h

theorem mapM_namedEntry_map (named : List (String × Value)) :
    (named.map fun (name, value) => ((.str name, value) : Scalar × Value)).mapM namedEntry =
      .ok named := by
  induction named with
  | nil => rfl
  | cons entry rest ih =>
      rw [List.map_cons, List.mapM_cons, ih]
      rfl

theorem failsForHome_ofKnownEntries_iff {homes : Homes} {named : List (String × Value)} :
    Check.FailsForHome (ofKnownEntries homes named) ↔
      ∃ outputs, settingAt? (named.map fun (name, value) => (.str name, value))
        "logging" "outputs" = some outputs ∧ OutputsNameUnknownHome homes outputs := by
  have hknown : ofKnownEntries homes named =
      (Check.both (ofEntries homes (named.map fun (name, value) => (.str name, value)))
        (unexpected named)).map Prod.fst := rfl
  rw [hknown, Check.failsForHome_map, Check.failsForHome_both,
    or_iff_left (not_failsForHome_unexpected named), failsForHome_ofEntries_iff]

theorem isHandled_mapError_iff {checked : Check Settings} :
    IsHandled (checked.mapError .ofRefusal) ↔ ¬ Check.FailsForHome checked ∧
      ¬ ∃ first more, checked = .error (.issues first more) ∧ first.input.holdsLongInteger := by
  cases checked with
  | ok settings => simp [IsHandled, Check.not_failsForHome_ok]
  | error refusal =>
      cases refusal with
      | unknownHome user =>
          simp [IsHandled, LoadError.ofRefusal, LoadError.fault?, Check.FailsForHome]
      | issues first more =>
          by_cases hlong : first.input.holdsLongInteger
          · simp [IsHandled, LoadError.ofRefusal, LoadError.fault?, hlong]
          · simp [IsHandled, LoadError.ofRefusal, LoadError.fault?, Check.FailsForHome, hlong,
              Fault.settingsInvalid]

/-- Entries whose keys are texts fail without a fault for a home or for a long integer. -/
theorem mergedFail_map_iff {homes : Homes} {named : List (String × Value)} :
    MergedFail homes (named.map fun (name, value) => (.str name, value)) ↔
      Check.FailsForHome (ofKnownEntries homes named) ∨
        ∃ first more, ofKnownEntries homes named = .error (.issues first more) ∧
          first.input.holdsLongInteger := by
  rw [failsForHome_ofKnownEntries_iff]
  constructor
  · rintro (⟨hmem, hkey⟩ | ⟨-, houtputs, hhome⟩ | ⟨hothers, hrefused, hlong⟩)
    · obtain ⟨⟨name, value⟩, -, rfl⟩ := List.mem_map.mp hmem
      exact absurd rfl (hkey name)
    · exact Or.inl ⟨_, houtputs, hhome⟩
    · have hsame := congrArg (·.mapM namedEntry) hothers
      simp only [mapM_namedEntry_map] at hsame
      cases hsame
      exact Or.inr ⟨_, _, hrefused, hlong⟩
  · rintro (⟨outputs, houtputs, hhome⟩ | ⟨first, more, hrefused, hlong⟩)
    · exact .home rfl houtputs hhome
    · exact .integer rfl hrefused hlong

theorem isHandled_ofMerged_iff {homes : Homes} {merged : List (Scalar × Value)} :
    IsHandled (ofMerged homes merged) ↔ ¬ MergedFail homes merged := by
  have hofMerged : ofMerged homes merged = (do
      let named ← merged.mapM namedEntry
      (ofKnownEntries homes named).mapError .ofRefusal) := rfl
  rw [hofMerged]
  cases hnamed : merged.mapM namedEntry with
  | error error =>
      obtain ⟨entry, hmem, rfl, hkey⟩ := exists_key_of_mapM_namedEntry hnamed
      refine iff_of_false ?_ (not_not_intro (.key hmem hkey))
      rintro ⟨fault, hfault, -⟩
      cases hfault
  | ok named =>
      show IsHandled ((ofKnownEntries homes named).mapError LoadError.ofRefusal) ↔ _
      rw [isHandled_mapError_iff, ← not_or, ← map_of_mapM_namedEntry hnamed, mergedFail_map_iff]

/-! ## Two files -/

/-- Settings from the texts of two files and from nothing else. -/
def ofTexts (commonPath projectPath common project : String) : SettingsSources where
  commonPath := commonPath
  common := .file common.toUTF8
  projectPath := projectPath
  project := .file project.toUTF8

/-- Whether the text of a file is YAML up to an escape for half of a pair, and nothing before it
keeps the text from being read so far. -/
def MeetsHalfPair (text : String) : Prop :=
  ∃ error, Yaml.read text.toList = .error error ∧ error.isHalfPair

instance : DecidablePred MeetsHalfPair := fun text =>
  match h : Yaml.read text.toList with
  | .ok _ => .isFalse (by simp [MeetsHalfPair, h])
  | .error error => decidable_of_iff (error.isHalfPair = true) (by simp [MeetsHalfPair, h])

/-- Whether the text of a file is YAML by its form, but with a scalar or a version that cannot be
read. -/
def IsUnreadable (text : String) : Prop :=
  ∃ error, Yaml.read text.toList = .error error ∧ error ≠ .malformed ∧ ¬ error.isHalfPair

/-- How two texts fail to be settings without a fault. -/
inductive FailsOutside (homes : Homes) (common project : String) : Prop
  | common : IsUnreadable common → FailsOutside homes common project
  | project {lower : List (Scalar × Value)} : readSettings (.file common.toUTF8) = .ok lower →
      IsUnreadable project → FailsOutside homes common project
  | endless {lower given : List (Scalar × Value)} :
      readSettings (.file common.toUTF8) = .ok lower →
      readSettings (.file project.toUTF8) = .ok given → Value.openEntries? lower given = none →
      FailsOutside homes common project
  | merged {lower given upper : List (Scalar × Value)} :
      readSettings (.file common.toUTF8) = .ok lower →
      readSettings (.file project.toUTF8) = .ok given →
      Value.openEntries? lower given = some upper →
      MergedFail homes (Value.overlayEntries lower upper) → FailsOutside homes common project

theorem readSettings_toUTF8 (text : String) :
    readSettings (.file text.toUTF8) = (do
      let value ← (Yaml.read text.toList).mapError FileError.yaml
      match value.opened with
      | .table entries => return entries
      | opened => if opened.isTrivial then return [] else throw .root) := by
  unfold readSettings
  dsimp only
  split
  · next chars hchars =>
      cases (Text.decode?_toUTF8 text).symm.trans hchars
      rfl
  · next hnone => exact absurd (Text.decode?_toUTF8 text) (hnone _)

theorem readSettings_of_error {text : String} {error : Yaml.Error}
    (h : Yaml.read text.toList = .error error) :
    readSettings (.file text.toUTF8) = .error (.yaml error) := by
  rw [readSettings_toUTF8, h]
  rfl

theorem error_of_readSettings {text : String} {error : FileError}
    (h : readSettings (.file text.toUTF8) = .error error) :
    error = .root ∨ ∃ own, error = .yaml own ∧ Yaml.read text.toList = .error own := by
  rw [readSettings_toUTF8] at h
  cases hread : Yaml.read text.toList with
  | error own =>
      rw [hread] at h
      cases h
      exact Or.inr ⟨own, rfl, rfl⟩
  | ok value =>
      rw [hread] at h
      simp only [mapError_ok, bind, Except.bind] at h
      split at h
      · cases h
      · split at h
        · cases h
        · cases h
          exact Or.inl rfl

theorem isHandled_file_iff {path : String} {error : FileError} :
    IsHandled (.error (.file path error)) ↔ error = .root ∨ error = .yaml .malformed := by
  cases error with
  | yaml own => cases own <;> simp [IsHandled, LoadError.fault?, Fault.settingsUnreadable]
  | _ => simp [IsHandled, LoadError.fault?, Fault.settingsUnreadable]

theorem isHandled_of_readSettings {path text : String} {error : FileError}
    (hwhole : ¬ MeetsHalfPair text) (h : readSettings (.file text.toUTF8) = .error error) :
    IsHandled (.error (.file path error)) ↔ ¬ IsUnreadable text := by
  rw [isHandled_file_iff]
  constructor
  · rintro hfault ⟨own, hown, hne, -⟩
    rw [readSettings_of_error hown] at h
    cases h
    rcases hfault with hfault | hfault
    · cases hfault
    · exact hne (FileError.yaml.inj hfault)
  · intro hreadable
    rcases error_of_readSettings h with rfl | ⟨own, rfl, hown⟩
    · exact Or.inl rfl
    · refine Or.inr (congrArg FileError.yaml ?_)
      exact Decidable.byContradiction fun hne =>
        hreadable ⟨own, hown, hne, fun hhalf => hwhole ⟨own, hown, hhalf⟩⟩

theorem not_isUnreadable_of_readSettings {text : String} {entries : List (Scalar × Value)}
    (h : readSettings (.file text.toUTF8) = .ok entries) : ¬ IsUnreadable text := by
  rintro ⟨own, hown, -⟩
  rw [readSettings_of_error hown] at h
  cases h

theorem load_ofTexts (homes : Homes) (commonPath projectPath common project : String) :
    load homes (ofTexts commonPath projectPath common project) = (do
      let lower ← (readSettings (.file common.toUTF8)).mapError (.file commonPath)
      let given ← (readSettings (.file project.toUTF8)).mapError (.file projectPath)
      let upper ← openProject lower given
      ofMerged homes (Value.overlayEntries lower upper)) := by
  have hlayers : readLayers (ofTexts commonPath projectPath common project) = (do
      let lower ← (readSettings (.file common.toUTF8)).mapError (.file commonPath)
      let given ← (readSettings (.file project.toUTF8)).mapError (.file projectPath)
      let upper ← openProject lower given
      return { common := lower, project := upper, environment := [], arguments := [] }) := rfl
  rw [load_eq, hlayers]
  simp only [bind_assoc, pure_bind]
  rfl

/-- A text with an escape for no character and, some lines below, a character that no text may
hold. -/
def escapeAbove (lines : Nat) : List Char :=
  "\"\\U00110000\"".toList ++ List.replicate lines '\n' ++ ['\x01']

theorem read_escapeAbove :
    Yaml.read (escapeAbove 8180) = .error (.halt (.characterCode 0x110000) 11) := by
  decide +kernel

end Settings

end Remap
