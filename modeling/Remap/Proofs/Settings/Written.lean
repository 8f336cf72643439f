import Remap.Proofs.Path
import Remap.Proofs.Settings.Check
import Remap.Proofs.Text.Lowercase
import Remap.Settings.Loading

/-!
# Written settings read back

Settings that were read are in normal form (`Settings.IsNormal`): their extensions are in small
letters, dotted and distinct, and the paths of their outputs absolute. What settings in normal
form are written as is read as the same settings again (`Settings.ofValue_toValue`), so that to
check settings a second time changes nothing and refuses nothing: what is loaded is what the
merged layers hold (`Settings.load_eq`).
-/

namespace Remap

/-! ## Extensions -/

theorem normalExtension_of_dotted {extension : String}
    (hlower : Text.lowercase extension = extension)
    (hdot : Text.startsWith ['.'] extension.toList) : normalExtension extension = extension := by
  simp only [normalExtension, hlower, hdot, if_true]

theorem normalExtension_normalExtension (extension : String) :
    normalExtension (normalExtension extension) = normalExtension extension := by
  by_cases hdot : Text.startsWith ['.'] (Text.lowercase extension).toList
  · have hnormal : normalExtension extension = Text.lowercase extension := by
      simp only [normalExtension, hdot, if_true]
    rw [hnormal]
    exact normalExtension_of_dotted (Text.lowercase_lowercase extension) hdot
  · have hnormal : normalExtension extension = "." ++ Text.lowercase extension := by
      simp only [normalExtension, hdot, Bool.false_eq_true, if_false]
    rw [hnormal]
    refine normalExtension_of_dotted (Text.lowercase_of_isLower ?_) ?_
    · intro c hc
      rw [String.toList_append, List.mem_append] at hc
      rcases hc with hc | hc
      · obtain rfl : c = '.' := by simpa using hc
        decide +kernel
      · exact Text.isLower_of_mem_lowercase c hc
    · exact Text.startsWith_iff.mpr ⟨_, String.toList_append⟩

namespace Extensions

/-- Whether extensions are in small letters, with their dots, no two the same, and all of
their grammars registered. -/
structure IsNormal (extensions : Extensions) : Prop where
  distinct : Assoc.Distinct extensions
  normal : ∀ entry ∈ extensions, normalExtension entry.1 = entry.1
  registered : ∀ entry ∈ extensions, (Grammar.named? entry.2).isSome

theorem isNormal_default : IsNormal default where
  distinct := by
    unfold Assoc.Distinct
    decide
  normal := by decide +kernel
  registered := by decide

theorem exists_of_mem_normalised {given : List (String × String)} {entry : String × String}
    (h : entry ∈ Assoc.ofList (given.map fun (extension, grammar) =>
      (normalExtension extension, grammar))) :
    ∃ old ∈ given, (normalExtension old.1, old.2) = entry :=
  List.mem_map.mp (Assoc.mem_of_mem_ofList h)

theorem isNormal_of_normalise {given : List (String × String)} {extensions : Extensions}
    (h : normalise given = .ok extensions) : extensions.IsNormal := by
  unfold normalise at h
  split at h
  · cases h
  · next hregistered =>
      cases h
      refine ⟨Assoc.distinct_ofList _, ?_, ?_⟩
      · intro entry hentry
        obtain ⟨⟨extension, grammar⟩, -, rfl⟩ := exists_of_mem_normalised hentry
        dsimp only
        rw [normalExtension_normalExtension]
      · intro entry hentry
        obtain ⟨old, hold, rfl⟩ := exists_of_mem_normalised hentry
        simpa [Option.isSome_iff_ne_none] using List.find?_eq_none.mp hregistered old hold

theorem IsNormal.map_normalExtension {extensions : Extensions} (h : extensions.IsNormal) :
    (extensions.map fun (extension, grammar) => (normalExtension extension, grammar)) =
      extensions := by
  refine (List.map_congr_left ?_).trans (List.map_id extensions)
  rintro ⟨extension, grammar⟩ hentry
  dsimp only
  rw [h.normal _ hentry, id]

theorem IsNormal.find?_unregistered {extensions : Extensions} (h : extensions.IsNormal) :
    extensions.find? (fun (_, grammar) => (Grammar.named? grammar).isNone) = none := by
  refine List.find?_eq_none.mpr fun entry hentry => ?_
  simpa [Option.isSome_iff_ne_none] using h.registered entry hentry

theorem IsNormal.normalise_eq {extensions : Extensions} (h : extensions.IsNormal) :
    normalise extensions = .ok extensions := by
  rw [normalise, h.find?_unregistered, h.map_normalExtension]
  exact congrArg Except.ok (Assoc.ofList_of_distinct h.distinct)

end Extensions

namespace ParserSettings

theorem isNormal_of_checkExtensions {value : Value} {extensions : Extensions}
    (h : checkExtensions value = .ok extensions) : extensions.IsNormal := by
  obtain ⟨given, -, h⟩ := bind_eq_ok_iff.mp h
  split at h
  · next hnormal =>
      cases h
      exact Extensions.isNormal_of_normalise hnormal
  · cases h

theorem checkExtensions_record {extensions : Extensions} (h : extensions.IsNormal) :
    checkExtensions (.record (extensions.map fun (extension, grammar) =>
      (extension, .str grammar))) = .ok extensions := by
  refine bind_eq_ok_iff.mpr ⟨extensions, ?_, ?_⟩
  · rw [Check.texts_record, Assoc.ofList_of_distinct h.distinct]
  · rw [h.normalise_eq]
    rfl

theorem isNormal_of_ofValue {value : Value} {settings : ParserSettings}
    (h : ofValue value = .ok settings) : settings.extensions.IsNormal := by
  obtain ⟨entries, -, h⟩ := bind_eq_ok_iff.mp h
  obtain ⟨⟨enabled, extensions⟩, hboth, h⟩ := bind_eq_ok_iff.mp h
  cases h
  rcases Check.exists_of_setting (Check.both_eq_ok_iff.mp hboth).2 with heq | ⟨given, hgiven⟩
  · obtain rfl : extensions = Extensions.default := heq
    exact Extensions.isNormal_default
  · exact isNormal_of_checkExtensions hgiven

theorem ofValue_toValue {settings : ParserSettings} (h : settings.extensions.IsNormal) :
    ofValue settings.toValue = .ok settings := by
  refine bind_eq_ok_iff.mpr ⟨_, rfl, bind_eq_ok_iff.mpr
    ⟨(settings.enabled, settings.extensions), Check.both_eq_ok_iff.mpr ⟨?_, ?_⟩, rfl⟩⟩
  · rw [Check.setting_of_lookup rfl]
    rfl
  · rw [Check.setting_of_lookup rfl, checkExtensions_record h]
    rfl

end ParserSettings

/-! ## Outputs -/

namespace Destination

/-- Whether a destination that is a file has an absolute path in normal form. -/
def IsNormal (destination : Destination) : Prop :=
  ∀ path, destination = file path → path.IsNormal ∧ path.isAbsolute

theorem isNormal_of_check {homes : Homes} {value : Value} {destination : Destination}
    (h : check homes value = .ok destination) : destination.IsNormal := by
  obtain ⟨text, -, h⟩ := bind_eq_ok_iff.mp h
  intro path hpath
  subst hpath
  split at h
  · cases h
  · cases h
  · dsimp only at h
    split at h
    · cases h
    · split at h
      · cases h
      · next expanded hexpand =>
          split at h
          · next habsolute =>
              cases h
              exact ⟨(Path.isNormal_ofText text).of_expandHome hexpand, habsolute⟩
          · cases h

theorem check_display (homes : Homes) {destination : Destination} (h : destination.IsNormal) :
    check homes (.str destination.display) = .ok destination := by
  cases destination with
  | stderr => rfl
  | stdout => rfl
  | file path =>
      obtain ⟨hnormal, habsolute⟩ := h path rfl
      refine bind_eq_ok_iff.mpr ⟨path.display, rfl, ?_⟩
      have hread := Path.ofText_display hnormal
      split
      · next hname =>
          rw [hname] at hread
          subst hread
          cases habsolute
      · next hname =>
          rw [hname] at hread
          subst hread
          cases habsolute
      · dsimp only
        rw [hread, Path.homeUser?_of_isAbsolute habsolute,
          Path.expandHome_of_isAbsolute homes habsolute]
        exact if_pos habsolute

end Destination

namespace LogOutput

theorem isNormal_of_ofValue {homes : Homes} {value : Value} {output : LogOutput}
    (h : ofValue homes value = .ok output) : output.destination.IsNormal := by
  obtain ⟨entries, -, h⟩ := bind_eq_ok_iff.mp h
  obtain ⟨⟨format, destination, level⟩, hboth, h⟩ := bind_eq_ok_iff.mp h
  cases h
  have hdestination := (Check.both_eq_ok_iff.mp (Check.both_eq_ok_iff.mp hboth).2).1
  rcases Check.exists_of_setting hdestination with heq | ⟨given, hgiven⟩
  · intro path hpath
    cases heq.symm.trans hpath
  · exact Destination.isNormal_of_check hgiven

theorem choice_name (format : LogFormat) :
    Check.choice LogFormat.choices (.str format.name) = .ok format := by
  cases format <;> rfl

theorem ofValue_toValue (homes : Homes) {output : LogOutput} (h : output.destination.IsNormal) :
    ofValue homes output.toValue = .ok output := by
  refine bind_eq_ok_iff.mpr ⟨_, rfl, bind_eq_ok_iff.mpr
    ⟨(output.format, output.destination, output.level), Check.both_eq_ok_iff.mpr
      ⟨?_, Check.both_eq_ok_iff.mpr ⟨?_, ?_⟩⟩, rfl⟩⟩
  · rw [Check.setting_of_lookup rfl, choice_name]
    rfl
  · rw [Check.setting_of_lookup rfl, Destination.check_display homes h]
    rfl
  · rw [Check.setting_of_lookup rfl]
    cases output.level with
    | none => rfl
    | some level => cases level <;> rfl

end LogOutput

namespace LogSettings

theorem isNormal_of_ofValue {homes : Homes} {value : Value} {settings : LogSettings}
    (h : ofValue homes value = .ok settings) :
    ∀ output ∈ settings.outputs, output.destination.IsNormal := by
  obtain ⟨entries, -, h⟩ := bind_eq_ok_iff.mp h
  obtain ⟨⟨level, outputs⟩, hboth, h⟩ := bind_eq_ok_iff.mp h
  cases h
  intro output houtput
  rcases Check.exists_of_setting (Check.both_eq_ok_iff.mp hboth).2 with heq | ⟨given, hgiven⟩
  · dsimp only at heq houtput
    rw [heq, List.mem_singleton] at houtput
    subst houtput
    intro path hpath
    cases hpath
  · obtain ⟨item, hitem⟩ := Check.exists_of_items hgiven output houtput
    exact LogOutput.isNormal_of_ofValue hitem

theorem ofValue_toValue (homes : Homes) {settings : LogSettings}
    (h : ∀ output ∈ settings.outputs, output.destination.IsNormal) :
    ofValue homes settings.toValue = .ok settings := by
  refine bind_eq_ok_iff.mpr ⟨_, rfl, bind_eq_ok_iff.mpr
    ⟨(settings.level, settings.outputs), Check.both_eq_ok_iff.mpr ⟨?_, ?_⟩, rfl⟩⟩
  · rw [Check.setting_of_lookup rfl]
    cases settings.level <;> rfl
  · rw [Check.setting_of_lookup rfl,
      Check.items_list fun output houtput => LogOutput.ofValue_toValue homes (h output houtput)]
    rfl

end LogSettings

/-! ## Settings -/

namespace Settings

/-- Whether the extensions and the destinations of settings are in normal form. -/
structure IsNormal (settings : Settings) : Prop where
  outputs : ∀ output ∈ settings.logging.outputs, output.destination.IsNormal
  extensions : settings.parser.extensions.IsNormal

theorem isNormal_default : ({} : Settings).IsNormal where
  outputs := by
    intro output houtput path hpath
    rw [List.mem_singleton.mp houtput] at hpath
    cases hpath
  extensions := Extensions.isNormal_default

theorem isNormal_of_ofEntries {homes : Homes} {entries : List (Scalar × Value)}
    {settings : Settings} (h : ofEntries homes entries = .ok settings) : settings.IsNormal := by
  obtain ⟨⟨logging, parser⟩, hboth, rfl⟩ := map_eq_ok_iff.mp h
  obtain ⟨hlogging, hparser⟩ := Check.both_eq_ok_iff.mp hboth
  constructor
  · rcases Check.exists_of_setting hlogging with heq | ⟨given, hgiven⟩
    · obtain rfl : logging = {} := heq
      exact isNormal_default.outputs
    · exact LogSettings.isNormal_of_ofValue hgiven
  · rcases Check.exists_of_setting hparser with heq | ⟨given, hgiven⟩
    · obtain rfl : parser = {} := heq
      exact isNormal_default.extensions
    · exact ParserSettings.isNormal_of_ofValue hgiven

theorem isNormal_of_ofMerged {homes : Homes} {entries : List (Scalar × Value)}
    {settings : Settings} (h : ofMerged homes entries = .ok settings) : settings.IsNormal := by
  obtain ⟨named, -, h⟩ := bind_eq_ok_iff.mp h
  obtain ⟨found, hboth, rfl⟩ := map_eq_ok_iff.mp (mapError_eq_ok_iff.mp h)
  exact isNormal_of_ofEntries (Check.both_eq_ok_iff.mp hboth).1

theorem ofValue_toValue (homes : Homes) {settings : Settings} (h : settings.IsNormal) :
    ofValue homes settings.toValue = .ok settings := by
  refine bind_eq_ok_iff.mpr ⟨_, rfl, map_eq_ok_iff.mpr
    ⟨(settings.logging, settings.parser), Check.both_eq_ok_iff.mpr ⟨?_, ?_⟩, rfl⟩⟩
  · rw [Check.setting_of_lookup rfl, LogSettings.ofValue_toValue homes h.outputs]
    rfl
  · rw [Check.setting_of_lookup rfl, ParserSettings.ofValue_toValue h.extensions]
    rfl

/-- Settings that were read from entries pass the check of what they are written as. -/
theorem recheck_of_ofMerged {homes : Homes} {entries : List (Scalar × Value)}
    {settings : Settings} (h : ofMerged homes entries = .ok settings) :
    recheck homes settings = .ok settings := by
  rw [recheck, ofValue_toValue homes (isNormal_of_ofMerged h), mapError_ok]

theorem load_eq (homes : Homes) (sources : SettingsSources) :
    load homes sources = (do ofMerged homes (← readLayers sources).merged) := by
  rw [load]
  cases readLayers sources with
  | error error => rfl
  | ok layers =>
      show ofMerged homes layers.merged >>= recheck homes = ofMerged homes layers.merged
      cases h : ofMerged homes layers.merged with
      | error error => rfl
      | ok settings => exact recheck_of_ofMerged h

/-- Settings that layers were read as are read again from what they are written as. So are
the parts that are brought into normal form: extensions, with their order, and
destinations. -/
theorem ofValue_toValue_of_merged (homes : Homes) :
    (∀ (layers : Layers) (settings : Settings), ofMerged homes layers.merged = .ok settings →
      ofValue homes settings.toValue = .ok settings) ∧
    (∀ (value : Value) (extensions : Extensions),
      ParserSettings.checkExtensions value = .ok extensions →
        Extensions.normalise extensions = .ok extensions ∧
        ParserSettings.checkExtensions (.record (extensions.map fun (extension, grammar) =>
          (extension, .str grammar))) = .ok extensions) ∧
    ∀ (value : Value) (destination : Destination), Destination.check homes value = .ok destination →
      destination.IsNormal ∧
        Destination.check homes (.str destination.display) = .ok destination := by
  refine ⟨?_, ?_, ?_⟩
  · intro layers settings h
    exact ofValue_toValue homes (isNormal_of_ofMerged h)
  · intro value extensions h
    have hnormal := ParserSettings.isNormal_of_checkExtensions h
    exact ⟨hnormal.normalise_eq, ParserSettings.checkExtensions_record hnormal⟩
  · intro value destination h
    have hnormal := Destination.isNormal_of_check h
    exact ⟨hnormal, Destination.check_display homes hnormal⟩

def someHomes : Homes := fun user => if user.isEmpty then some "/home//me/" else none

/-- Layers with an output below a home and with extensions of which two come to be the same. -/
def unevenLayers : Layers where
  common := [(.str "logging", .record [("outputs", .list
    [.record [("destination", .str "~/./logs//a.log")], .record [("level", .str "ERROR")]])])]
  project := [(.str "parser", .record [("extensions", .record
    [("JS", .str "tsx"), (".ΑΣ", .str "typescript"), ("İ", .str "javascript")])])]
  environment := [(.str "parser", .record [("extensions", .record [(".js", .str "javascript")])])]

def evenSettings : Settings where
  logging := { outputs := [{ destination := .file ⟨1, ["home", "me", "logs", "a.log"]⟩ },
    { level := some .error }] }
  parser := { extensions :=
    [(".js", "javascript"), (".ας", "typescript"), (".i\u0307", "javascript")] }

theorem ofValue_toValue_of_merged_unevenLayers :
    ofMerged someHomes unevenLayers.merged = .ok evenSettings ∧
      ofValue someHomes evenSettings.toValue = .ok evenSettings ∧
      Extensions.normalise evenSettings.parser.extensions = .ok evenSettings.parser.extensions ∧
      Destination.check someHomes (.str "~//a.log/.") = .ok (.file ⟨1, ["home", "me", "a.log"]⟩) ∧
      Destination.check someHomes (.str "/home/me/a.log") =
        .ok (.file ⟨1, ["home", "me", "a.log"]⟩) := by
  obtain ⟨hlayers, hextensions, hdestination⟩ := ofValue_toValue_of_merged someHomes
  have hread : ofMerged someHomes unevenLayers.merged = .ok evenSettings := by
    decide +kernel
  have hchecked : ParserSettings.checkExtensions (.record
      [("JS", .str "javascript"), (".ΑΣ", .str "typescript"), ("İ", .str "javascript")]) =
        .ok evenSettings.parser.extensions := by
    decide +kernel
  have hfile : Destination.check someHomes (.str "~//a.log/.") =
      .ok (.file ⟨1, ["home", "me", "a.log"]⟩) := by
    decide +kernel
  have hdisplay : (Destination.file ⟨1, ["home", "me", "a.log"]⟩).display = "/home/me/a.log" := by
    decide +kernel
  refine ⟨hread, hlayers _ _ hread, (hextensions _ _ hchecked).1, hfile, ?_⟩
  rw [← hdisplay]
  exact (hdestination _ _ hfile).2

end Settings

end Remap
