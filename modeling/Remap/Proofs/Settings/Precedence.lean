import Remap.Proofs.Settings.Layers
import Remap.Proofs.Settings.Written

/-!
# Precedence of layers

Of the values that layers hold for a setting the highest counts, unless it is a table and so is
one below it, which come to a table again (`Resolves`). A setting that stands for itself - the
level of the log, its outputs, and whether files are parsed - is no table: where the highest
value counts nothing can be told of those below it, and where tables are merged nothing is
loaded (`Settings.load_of_highest`).
-/

namespace Remap

/-! ## Values of several layers -/

/-- Whether the first of some values is a table and so is another. -/
def Merges : List Value → Prop
  | [] => False
  | value :: rest => value.isTable ∧ ∃ other ∈ rest, other.isTable

instance : DecidablePred Merges
  | [] => inferInstanceAs (Decidable False)
  | value :: rest => inferInstanceAs (Decidable (value.isTable ∧ ∃ other ∈ rest, other.isTable))

/-- Whether a value can come of values, the highest of which is the first: it is the first one,
or one merged from tables. -/
structure Resolves (values : List Value) (found : Option Value) : Prop where
  eq_head? : ¬ Merges values → found = values.head?
  isTable : Merges values → ∃ value, found = some value ∧ value.isTable

theorem resolves_toList (found : Option Value) : Resolves found.toList found := by
  cases found with
  | none => exact ⟨fun _ => rfl, fun h => h.elim⟩
  | some value => exact ⟨fun _ => rfl, fun ⟨_, _, h, _⟩ => absurd h List.not_mem_nil⟩

theorem Resolves.append {values others : List Value} {upper lower : Option Value}
    (hupper : Resolves values upper) (hlower : Resolves others lower) :
    Resolves (values ++ others) (Value.overlay? lower upper) := by
  cases values with
  | nil =>
      rw [hupper.eq_head? id, List.head?_nil, Value.overlay?_none_right]
      exact hlower
  | cons value rest =>
      by_cases htable : value.isTable
      · -- However many tables are merged above, a table is laid over what is below.
        have hfound : ∃ found, upper = some found ∧ found.isTable := by
          by_cases hmerges : Merges (value :: rest)
          · exact hupper.isTable hmerges
          · exact ⟨value, hupper.eq_head? hmerges, htable⟩
        obtain ⟨found, rfl, hfound⟩ := hfound
        constructor
        · intro hmerges
          have hother (other : Value) (hmem : other ∈ rest ++ others) : ¬ other.isTable :=
            fun hother => hmerges ⟨htable, other, hmem, hother⟩
          have habove : ¬ Merges (value :: rest) := fun ⟨_, other, hmem, h⟩ =>
            hother other (List.mem_append_left _ hmem) h
          obtain rfl : found = value := Option.some.inj (hupper.eq_head? habove)
          cases others with
          | nil =>
              rw [hlower.eq_head? id]
              rfl
          | cons next behind =>
              have hnext := hother next (List.mem_append_right _ List.mem_cons_self)
              rw [hlower.eq_head? fun h => hnext h.1]
              exact congrArg some (Value.overlay_of_lower_not_isTable hnext found)
        · intro _
          cases lower with
          | none => exact ⟨found, rfl, hfound⟩
          | some old => exact ⟨_, rfl, Value.isTable_overlay old hfound⟩
      · have hvalue : upper = some value := hupper.eq_head? fun h => htable h.1
        refine ⟨fun _ => ?_, fun h => absurd h.1 htable⟩
        rw [hvalue]
        cases lower with
        | none => rfl
        | some old => exact congrArg some (Value.overlay_of_not_isTable old htable)

/-! ## Merged layers -/

namespace Layers

/-- The values that layers hold for a setting, from the highest to the lowest. -/
def values (layers : Layers) (group name : String) : List Value :=
  layers.all.flatMap fun layer => (settingAt? layer group name).toList

section

variable {layers : Layers} {group : String} (h : layers.IsSectioned group)

include h

theorem IsSectioned.merged : Remap.IsSectioned group layers.merged := by
  have hall := h.isSectioned
  refine IsSectioned.overlayEntries (IsSectioned.overlayEntries ?_ ?_)
    (IsSectioned.overlayEntries ?_ ?_)
  all_goals exact hall _ (by simp [all])

theorem IsSectioned.settingAt?_merged (name : String) :
    settingAt? layers.merged group name =
      Value.overlay?
        (Value.overlay? (settingAt? layers.common group name)
          (settingAt? layers.project group name))
        (Value.overlay? (settingAt? layers.environment group name)
          (settingAt? layers.arguments group name)) := by
  have harguments := h.isSectioned layers.arguments (by simp [all])
  have henvironment := h.isSectioned layers.environment (by simp [all])
  have hproject := h.isSectioned layers.project (by simp [all])
  have hcommon := h.isSectioned layers.common (by simp [all])
  rw [Layers.merged, files, settingAt?_overlayEntries (hcommon.overlayEntries hproject)
      (henvironment.overlayEntries harguments).distinct
      fun _ => h.environment.overlayEntries h.arguments harguments.distinct,
    settingAt?_overlayEntries hcommon hproject.distinct h.project,
    settingAt?_overlayEntries henvironment harguments.distinct fun _ => h.arguments]

theorem IsSectioned.resolves (name : String) :
    Resolves (layers.values group name) (settingAt? layers.merged group name) := by
  have hvalues : layers.values group name =
      ((settingAt? layers.arguments group name).toList ++
        (settingAt? layers.environment group name).toList) ++
      ((settingAt? layers.project group name).toList ++
        (settingAt? layers.common group name).toList) := by
    simp [values, all]
  rw [h.settingAt?_merged, hvalues]
  exact ((resolves_toList _).append (resolves_toList _)).append
    ((resolves_toList _).append (resolves_toList _))

end

/-! ## Layers that differ in one setting -/

/-- Whether layers are the same apart from what they hold for one setting. -/
structure AgreeApart (layers others : Layers) (group name : String) : Prop where
  without_eq : layers.all.map (Assoc.without · (.str group)) =
    others.all.map (Assoc.without · (.str group))
  settingAt?_eq : ∀ other, other ≠ name →
    layers.all.map (settingAt? · group other) = others.all.map (settingAt? · group other)

theorem AgreeApart.without_merged {layers others : Layers} {group name : String}
    (h : layers.AgreeApart others group name) :
    Assoc.without layers.merged (.str group) = Assoc.without others.merged (.str group) := by
  have heq := h.without_eq
  simp only [all, List.map_cons, List.map_nil, List.cons.injEq, and_true] at heq
  obtain ⟨harguments, henvironment, hproject, hcommon⟩ := heq
  simp only [merged, files, Value.without_overlayEntries, harguments, henvironment, hproject,
    hcommon]

end Layers

/-! ## Settings that are no tables -/

/-- Whether a value stands for `a`, or `a` is the default where there is no value. -/
def ReadsAs {α : Type} (check : Value → Check α) (default : α) (found : Option Value) (a : α) :
    Prop :=
  match found with
  | some value => check value = .ok a
  | none => a = default

theorem readsAs_of_settingAt {α : Type} {entries : List (Scalar × Value)} {group name : String}
    {default a : α} {check : Value → Check α}
    (h : Check.settingAt entries group name default check = .ok a) :
    ReadsAs check default (settingAt? entries group name) a := by
  cases hfound : settingAt? entries group name with
  | some value =>
      rw [Check.settingAt, hfound] at h
      exact Check.under_eq_ok_iff.mp h
  | none =>
      rw [Check.settingAt, hfound] at h
      exact (Except.ok.inj h).symm

theorem Check.choice_ne_ok_of_isTable {α : Type} (choices : List (String × α)) {v : Value}
    (h : v.isTable) (a : α) : choice choices v ≠ .ok a := by
  cases v with
  | scalar s => cases h
  | _ =>
      intro hchoice
      cases hchoice

theorem Check.items_ne_ok_of_isTable {α : Type} (check : Value → Check α) {v : Value}
    (h : v.isTable) (found : List α) : items check v ≠ .ok found := by
  obtain ⟨entries, hentries⟩ := Value.isTable_iff.mp h
  intro hitems
  rw [items, hentries] at hitems
  cases hitems

theorem Check.flag_ne_ok_of_isTable {v : Value} (h : v.isTable) (b : Bool) : flag v ≠ .ok b := by
  cases v with
  | scalar s => cases h
  | _ =>
      intro hflag
      cases hflag

/-- A setting whose value is taken as a whole. -/
inductive Leaf where
  | level
  | outputs
  | enabled
deriving Repr, DecidableEq

namespace Leaf

def group : Leaf → String
  | level | outputs => "logging"
  | enabled => "parser"

def name : Leaf → String
  | level => "level"
  | outputs => "outputs"
  | enabled => "enabled"

theorem group_mem (leaf : Leaf) : leaf.group ∈ Settings.groupNames := by
  cases leaf <;> decide

/-- Whether settings have what a value stands for, or the default where there is no value. -/
def IsRead (homes : Homes) (settings : Settings) (found : Option Value) : Leaf → Prop
  | level => ReadsAs (Check.choice Severity.choices) .info found settings.logging.level
  | outputs => ReadsAs (Check.items (LogOutput.ofValue homes)) [{}] found settings.logging.outputs
  | enabled => ReadsAs Check.flag true found settings.parser.enabled

theorem isRead_of_ofMerged {homes : Homes} {entries : List (Scalar × Value)} {settings : Settings}
    (leaf : Leaf) (hsection : IsSectioned leaf.group entries)
    (h : Settings.ofMerged homes entries = .ok settings) :
    leaf.IsRead homes settings (settingAt? entries leaf.group leaf.name) := by
  obtain ⟨⟨logging, parser⟩, hboth, rfl⟩ := map_eq_ok_iff.mp (Settings.ofEntries_of_ofMerged h)
  obtain ⟨hlogging, hparser⟩ := Check.both_eq_ok_iff.mp hboth
  cases leaf with
  | level =>
      rw [LogSettings.setting_eq homes hsection, Check.under_eq_ok_iff] at hlogging
      obtain ⟨found, hfound, heq⟩ := map_eq_ok_iff.mp hlogging
      obtain rfl : _ = logging := heq
      exact readsAs_of_settingAt (Check.both_eq_ok_iff.mp hfound).1
  | outputs =>
      rw [LogSettings.setting_eq homes hsection, Check.under_eq_ok_iff] at hlogging
      obtain ⟨found, hfound, heq⟩ := map_eq_ok_iff.mp hlogging
      obtain rfl : _ = logging := heq
      exact readsAs_of_settingAt (Check.both_eq_ok_iff.mp hfound).2
  | enabled =>
      rw [ParserSettings.setting_eq hsection, Check.under_eq_ok_iff] at hparser
      obtain ⟨found, hfound, heq⟩ := map_eq_ok_iff.mp hparser
      obtain rfl : _ = parser := heq
      exact readsAs_of_settingAt (Check.both_eq_ok_iff.mp hfound).1

theorem not_isTable_of_isRead {homes : Homes} {settings : Settings} {leaf : Leaf} {value : Value}
    (h : leaf.IsRead homes settings (some value)) : ¬ value.isTable := by
  intro htable
  cases leaf with
  | level => exact Check.choice_ne_ok_of_isTable _ htable _ h
  | outputs => exact Check.items_ne_ok_of_isTable _ htable _ h
  | enabled => exact Check.flag_ne_ok_of_isTable htable _ h

end Leaf

namespace Settings

theorem load_of_readLayers {homes : Homes} {sources : SettingsSources} {layers : Layers}
    (h : readLayers sources = .ok layers) : load homes sources = ofMerged homes layers.merged := by
  rw [load_eq, h]
  rfl

/-- The value that counts for a setting is the highest that the layers hold for it, or a table
that is merged from several; nothing is loaded with such a table. Layers that differ in lower
values only are loaded alike. -/
theorem load_of_highest (homes : Homes) (leaf : Leaf) {sources : SettingsSources} {layers : Layers}
    (hlayers : readLayers sources = .ok layers) (harguments : sources.HasPlainArguments)
    (htables : ∀ layer ∈ layers.all, ∀ part ∈ layer.lookup (.str leaf.group), part.isTable) :
    Resolves (layers.values leaf.group leaf.name)
      (settingAt? layers.merged leaf.group leaf.name) ∧
    (∀ settings, load homes sources = .ok settings →
      ¬ Merges (layers.values leaf.group leaf.name) ∧
      leaf.IsRead homes settings (layers.values leaf.group leaf.name).head?) ∧
    ∀ (others : SettingsSources) (otherLayers : Layers), readLayers others = .ok otherLayers →
      others.HasPlainArguments →
      (∀ layer ∈ otherLayers.all, ∀ part ∈ layer.lookup (.str leaf.group), part.isTable) →
      layers.AgreeApart otherLayers leaf.group leaf.name →
      (layers.values leaf.group leaf.name).head? =
        (otherLayers.values leaf.group leaf.name).head? →
      ¬ Merges (layers.values leaf.group leaf.name) →
      ¬ Merges (otherLayers.values leaf.group leaf.name) →
      load homes sources = load homes others := by
  have hsectioned := isSectioned_of_readLayers hlayers harguments htables
  have hresolves := hsectioned.resolves leaf.name
  refine ⟨hresolves, ?_, ?_⟩
  · intro settings hload
    rw [load_of_readLayers hlayers] at hload
    have hread := leaf.isRead_of_ofMerged hsectioned.merged hload
    have hmerges : ¬ Merges (layers.values leaf.group leaf.name) := by
      intro hmerges
      obtain ⟨value, hvalue, htable⟩ := hresolves.isTable hmerges
      rw [hvalue] at hread
      exact Leaf.not_isTable_of_isRead hread htable
    rw [hresolves.eq_head? hmerges] at hread
    exact ⟨hmerges, hread⟩
  · intro others otherLayers hotherLayers hotherArguments hotherTables hagree hhead hmerges
      hotherMerges
    have hotherSectioned := isSectioned_of_readLayers hotherLayers hotherArguments hotherTables
    have hotherResolves := hotherSectioned.resolves leaf.name
    rw [load_of_readLayers hlayers, load_of_readLayers hotherLayers]
    refine ofMerged_congr homes leaf.group_mem hsectioned.merged hotherSectioned.merged
      hagree.without_merged fun name => ?_
    by_cases hname : name = leaf.name
    · rw [hname, hresolves.eq_head? hmerges, hotherResolves.eq_head? hotherMerges, hhead]
    · have heq := hagree.settingAt?_eq name hname
      simp only [Layers.all, List.map_cons, List.map_nil, List.cons.injEq, and_true] at heq
      obtain ⟨harguments, henvironment, hproject, hcommon⟩ := heq
      rw [hsectioned.settingAt?_merged, hotherSectioned.settingAt?_merged, harguments,
        henvironment, hproject, hcommon]

/-- Sources that hold a level of the log in all files and in the environment. -/
def levelledSources (common : String) : SettingsSources where
  commonPath := "config.yaml"
  common := .file common.toUTF8
  projectPath := ".covmap.yaml"
  project := .file "logging:\n  level: ERROR\n".toUTF8
  environment := [("COVMAP__LOGGING__LEVEL", "DEBUG")]
  arguments := [("logging", .record [("outputs", .list [])])]

def levelledLayers (level : Value) : Layers where
  common := [(.str "logging", .record [("level", level)])]
  project := [(.str "logging", .record [("level", .str "ERROR")])]
  environment := [(.str "logging", .record [("level", .str "DEBUG")])]
  arguments := [(.str "logging", .record [("outputs", .list [])])]

theorem hasPlainArguments_levelledSources (common : String) :
    (levelledSources common).HasPlainArguments where
  distinct := List.pairwise_singleton _ _
  showsEntries := by
    intro argument hargument _
    obtain rfl := List.mem_singleton.mp hargument
    exact ⟨_, rfl, List.pairwise_singleton _ _⟩

theorem agreeApart_levelledLayers (level other : Value) :
    (levelledLayers level).AgreeApart (levelledLayers other) "logging" "level" where
  without_eq := rfl
  settingAt?_eq := by
    intro name hname
    have hkey : ((.str name : Scalar) == .str "level") = false :=
      Bool.eq_false_iff.mpr fun heq => hname (Scalar.str.inj (Scalar.str_beq_iff.mp heq)).symm
    have hnone (v : Value) :
        settingAt? [(.str "logging", .record [("level", v)])] "logging" name = none := by
      show List.lookup (Scalar.str name) [(.str "level", v)] = none
      rw [List.lookup_cons, hkey]
      rfl
    simp only [Layers.all, levelledLayers, List.map_cons, hnone]

theorem load_of_highest_levelledSources :
    let homes : Homes := fun _ => none
    let tabled := levelledSources "logging:\n  level: \x7bloud: 1\x7d\n"
    settingAt? (levelledLayers (.record [("loud", .int 1)])).merged "logging" "level" =
        some (.str "DEBUG") ∧
      load homes tabled = .ok { logging := { level := .debug, outputs := [] } } ∧
      load homes tabled = load homes (levelledSources "logging:\n  level: ERROR\n") := by
  intro homes tabled
  have hread : readLayers tabled = .ok (levelledLayers (.record [("loud", .int 1)])) := by
    decide +kernel
  have hother : readLayers (levelledSources "logging:\n  level: ERROR\n") =
      .ok (levelledLayers (.str "ERROR")) := by
    decide +kernel
  have hload : load homes tabled = .ok { logging := { level := .debug, outputs := [] } } := by
    decide +kernel
  obtain ⟨hresolves, hsettings, halike⟩ := load_of_highest homes .level hread
    (hasPlainArguments_levelledSources _) (by decide +kernel)
  obtain ⟨hmerges, -⟩ := hsettings _ hload
  refine ⟨?_, hload, ?_⟩
  · have hhead : (levelledLayers (.record [("loud", .int 1)])).values "logging" "level" =
        [.str "DEBUG", .str "ERROR", .record [("loud", .int 1)]] := by
      decide +kernel
    exact (hresolves.eq_head? hmerges).trans (congrArg List.head? hhead)
  · exact halike _ _ hother (hasPlainArguments_levelledSources _) (by decide +kernel)
      (agreeApart_levelledLayers _ _) (by decide +kernel) hmerges (by decide +kernel)

/-- Sources that hold a table for the level of the log in the file of the project. -/
def tabledSources (common : String) : SettingsSources where
  commonPath := "config.yaml"
  common := .file common.toUTF8
  projectPath := ".covmap.yaml"
  project := .file "logging:\n  level: \x7bb: 2\x7d\n".toUTF8

/-- The issue of a level of the log. -/
def levelIssue (level : Value) : Issue where
  place := [.key "logging", .key "level"]
  cause := .notOneOf (Severity.choices.map Prod.fst)
  input := level

/-- The highest value for a setting does not count where it is a table and so is a lower one. -/
theorem load_of_tables :
    let homes : Homes := fun _ => none
    let own : Value := .record [("b", .int 2)]
    let merged : Value := .record [("a", .int 1), ("b", .int 2)]
    let both := tabledSources "logging:\n  level: \x7ba: 1\x7d\n"
    (readLayers both).map (fun layers => (layers.values "logging" "level").head?) =
        .ok (some own) ∧
      (readLayers both).map (fun layers => settingAt? layers.merged "logging" "level") =
        .ok (some merged) ∧
      load homes both = .error (.refused (.issues (levelIssue merged) [])) ∧
      (readLayers (tabledSources "")).map (fun layers =>
        (layers.values "logging" "level").head?) = .ok (some own) ∧
      load homes (tabledSources "") = .error (.refused (.issues (levelIssue own) [])) := by
  decide +kernel

end Settings

end Remap
