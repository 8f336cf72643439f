import Remap.Proofs.Settings.Check
import Remap.Proofs.Value.Merge
import Remap.Settings.Loading

/-!
# Sections of settings

A group of settings has a section in each layer that sets any of it. Merged layers hold for a
setting what comes of the values that the layers hold for it (`settingAt?_overlayEntries`),
and a group is read from nothing but the values of its settings, whether the layers have a
section for it or not (`LogSettings.setting_eq`, `ParserSettings.setting_eq`).
-/

namespace Remap

/-- No key is the same as a text but the text itself. -/
theorem Scalar.str_beq_iff {text : String} {other : Scalar} :
    (str text == other) = true ↔ other = str text := by
  rw [beq_iff]
  constructor
  · intro h
    cases other with
    | float x =>
        simp only [key] at h
        split at h <;> cases h
    | timestamp t =>
        simp only [key] at h
        split at h <;> cases h
    | str other =>
        cases h
        rfl
    | _ => cases h
  · rintro rfl
    rfl

/-- The value that entries hold for a setting of a group. -/
def settingAt? (entries : List (Scalar × Value)) (group name : String) : Option Value :=
  (entries.lookup (.str group)).bind (·.get? name)

/-- Whether entries are a table and the section of a group in it, if there is one, is too. -/
structure IsSectioned (group : String) (entries : List (Scalar × Value)) : Prop where
  distinct : Assoc.Distinct entries
  isTable : ∀ part ∈ entries.lookup (.str group), part.isTable

/-- Whether the section of a group, if there is one, is a table with its entries in sight. -/
def ShowsSection (group : String) (entries : List (Scalar × Value)) : Prop :=
  ∀ part ∈ entries.lookup (.str group), ∃ inner, part = .table inner ∧ Assoc.Distinct inner

theorem Value.get?_of_opened {v : Value} {entries : List (Scalar × Value)}
    (h : v.opened = table entries) (name : String) : v.get? name = entries.lookup (.str name) := by
  rw [get?, h]

section Merging

variable {group : String} {lower upper : List (Scalar × Value)}

theorem IsSectioned.overlayEntries (hlower : IsSectioned group lower)
    (hupper : IsSectioned group upper) : IsSectioned group (Value.overlayEntries lower upper) where
  distinct := Value.distinct_overlayEntries hlower.distinct upper
  isTable := by
    intro part hpart
    rw [Value.lookup_overlayEntries hupper.distinct, Option.mem_def] at hpart
    cases hupperPart : upper.lookup (.str group) with
    | none =>
        rw [hupperPart, Value.overlay?_none_right] at hpart
        exact hlower.isTable part hpart
    | some own =>
        have hown := hupper.isTable own hupperPart
        cases hlowerPart : lower.lookup (.str group) with
        | none =>
            rw [hupperPart, hlowerPart, Value.overlay?_none_left] at hpart
            cases hpart
            exact hown
        | some old =>
            rw [hupperPart, hlowerPart, Value.overlay?_some_some] at hpart
            cases hpart
            exact Value.isTable_overlay old hown

theorem ShowsSection.overlayEntries (hlower : ShowsSection group lower)
    (hupper : ShowsSection group upper) (hdistinct : Assoc.Distinct upper) :
    ShowsSection group (Value.overlayEntries lower upper) := by
  intro part hpart
  rw [Value.lookup_overlayEntries hdistinct, Option.mem_def] at hpart
  cases hupperPart : upper.lookup (.str group) with
  | none =>
      rw [hupperPart, Value.overlay?_none_right] at hpart
      exact hlower part hpart
  | some own =>
      cases hlowerPart : lower.lookup (.str group) with
      | none =>
          rw [hupperPart, hlowerPart, Value.overlay?_none_left] at hpart
          cases hpart
          exact hupper part hupperPart
      | some old =>
          obtain ⟨entries, rfl, hentries⟩ := hlower old hlowerPart
          obtain ⟨inner, rfl, -⟩ := hupper own hupperPart
          rw [hupperPart, hlowerPart, Value.overlay?_some_some, Value.overlay_table rfl] at hpart
          cases hpart
          exact ⟨_, rfl, Value.distinct_overlayEntries hentries inner⟩

/-- The section of the upper layer must be in sight where the lower one has a section. -/
theorem settingAt?_overlayEntries (hlower : IsSectioned group lower)
    (hdistinct : Assoc.Distinct upper)
    (hupper : (lower.lookup (.str group)).isSome → ShowsSection group upper) (name : String) :
    settingAt? (Value.overlayEntries lower upper) group name =
      Value.overlay? (settingAt? lower group name) (settingAt? upper group name) := by
  unfold settingAt?
  rw [Value.lookup_overlayEntries hdistinct]
  cases hlowerPart : lower.lookup (.str group) with
  | none => rfl
  | some old =>
      cases hupperPart : upper.lookup (.str group) with
      | none => exact (Value.overlay?_none_right _).symm
      | some own =>
          obtain ⟨entries, hentries⟩ := Value.isTable_iff.mp (hlower.isTable old hlowerPart)
          obtain ⟨inner, rfl, hinner⟩ := hupper (by rw [hlowerPart]; rfl) own hupperPart
          rw [Value.overlay?_some_some, Value.overlay_table hentries]
          exact (Value.lookup_overlayEntries hinner entries (.str name)).trans
            (by rw [← Value.get?_of_opened hentries]; rfl)

end Merging

/-! ## Reading a group -/

variable {α : Type}

/-- The check of the value that entries hold for a setting, or its default. -/
def Check.settingAt (entries : List (Scalar × Value)) (group name : String) (default : α)
    (check : Value → Check α) : Check α :=
  match settingAt? entries group name with
  | some value => (check value).under (.key name)
  | none => .ok default

theorem Check.settingAt_of_table {entries inner : List (Scalar × Value)} {group : String}
    {part : Value} (hpart : entries.lookup (.str group) = some part)
    (hinner : part.opened = .table inner) (name : String) (default : α) (check : Value → Check α) :
    settingAt entries group name default check = setting inner name default check := by
  rw [settingAt, settingAt?, hpart, Option.bind_some, Value.get?_of_opened hinner]
  rfl

theorem Check.settingAt_of_none {entries : List (Scalar × Value)} {group : String}
    (h : entries.lookup (.str group) = none) (name : String) (default : α)
    (check : Value → Check α) : settingAt entries group name default check = .ok default := by
  rw [settingAt, settingAt?, h]
  rfl

theorem Check.group_of_opened {name : String} {part : Value} {inner : List (Scalar × Value)}
    (h : part.opened = .table inner) : group name part = .ok inner := by
  rw [group, h]

theorem LogSettings.setting_eq (homes : Homes) {entries : List (Scalar × Value)}
    (h : IsSectioned "logging" entries) :
    Check.setting entries "logging" {} (ofValue homes) =
      Check.under (.key "logging")
        ((Check.both
          (Check.settingAt entries "logging" "level" .info (Check.choice Severity.choices))
          (Check.settingAt entries "logging" "outputs" [{}]
            (Check.items (LogOutput.ofValue homes)))).map
              fun (level, outputs) => { level, outputs }) := by
  rw [Check.setting]
  split
  · next part hpart =>
      obtain ⟨inner, hinner⟩ := Value.isTable_iff.mp (h.isTable part hpart)
      rw [Check.settingAt_of_table hpart hinner, Check.settingAt_of_table hpart hinner, ofValue,
        Check.group_of_opened hinner]
      rfl
  · next hnone =>
      rw [Check.settingAt_of_none hnone, Check.settingAt_of_none hnone]
      rfl

theorem ParserSettings.setting_eq {entries : List (Scalar × Value)}
    (h : IsSectioned "parser" entries) :
    Check.setting entries "parser" {} ofValue =
      Check.under (.key "parser")
        ((Check.both (Check.settingAt entries "parser" "enabled" true Check.flag)
          (Check.settingAt entries "parser" "extensions" Extensions.default checkExtensions)).map
            fun (enabled, extensions) => { enabled, extensions }) := by
  rw [Check.setting]
  split
  · next part hpart =>
      obtain ⟨inner, hinner⟩ := Value.isTable_iff.mp (h.isTable part hpart)
      rw [Check.settingAt_of_table hpart hinner, Check.settingAt_of_table hpart hinner, ofValue,
        Check.group_of_opened hinner]
      rfl
  · next hnone =>
      rw [Check.settingAt_of_none hnone, Check.settingAt_of_none hnone]
      rfl

/-! ## Reading merged entries -/

namespace Settings

/-- The name and the value of an entry, whose key must be a text. -/
def namedEntry : Scalar × Value → Except LoadError (String × Value)
  | (.str name, value) => .ok (name, value)
  | (key, _) => .error (.key key)

/-- The check that entries name groups of settings. -/
def unexpected (entries : List (String × Value)) : Check (List Unit) :=
  Check.all (entries.filterMap fun (name, value) =>
    if groupNames.contains name then none
    else some (Check.under (.key name) (Check.refuse .unexpected value)))

theorem unexpected_filter {group : String} (hgroup : group ∈ groupNames)
    (entries : List (String × Value)) :
    unexpected (entries.filter fun entry => !(entry.1 == group)) = unexpected entries := by
  unfold unexpected
  congr 1
  induction entries with
  | nil => rfl
  | cons entry rest ih =>
      by_cases hname : entry.1 = group
      · rw [List.filter_cons_of_neg (by simp [hname]), ih,
          List.filterMap_cons_none (by simp [hname, hgroup])]
      · rw [List.filter_cons_of_pos (by simp [hname]), List.filterMap_cons, List.filterMap_cons, ih]

theorem mapM_namedEntry_without (entries : List (Scalar × Value)) (group : String) :
    (Assoc.without entries (.str group)).mapM namedEntry =
      (entries.mapM namedEntry).map (·.filter fun entry => !(entry.1 == group)) := by
  induction entries with
  | nil => rfl
  | cons entry rest ih =>
      obtain ⟨key, value⟩ := entry
      by_cases hkey : (.str group : Scalar) == key
      · obtain rfl := Scalar.str_beq_iff.mp hkey
        have hcons : Assoc.without ((.str group, value) :: rest) (.str group) =
            Assoc.without rest (.str group) := by
          simp [Assoc.without]
        rw [hcons, ih, List.mapM_cons]
        cases rest.mapM namedEntry with
        | error e => rfl
        | ok named => simp [namedEntry, bind, Except.bind, pure, Except.pure, Except.map]
      · have hcons : Assoc.without ((key, value) :: rest) (.str group) =
            (key, value) :: Assoc.without rest (.str group) := by
          simp [Assoc.without, hkey]
        rw [hcons, List.mapM_cons, List.mapM_cons, ih]
        cases hentry : namedEntry (key, value) with
        | error e => rfl
        | ok own =>
            have hown : own.1 ≠ group := by
              unfold namedEntry at hentry
              split at hentry
              · next heq =>
                  cases heq
                  cases hentry
                  simpa [Scalar.str_beq_iff] using hkey
              · cases hentry
            cases rest.mapM namedEntry with
            | error e => rfl
            | ok named => simp [hown, bind, Except.bind, pure, Except.pure, Except.map]

theorem map_of_mapM_namedEntry {entries : List (Scalar × Value)} {named : List (String × Value)}
    (h : entries.mapM namedEntry = .ok named) :
    named.map (fun (name, value) => (.str name, value)) = entries := by
  induction entries generalizing named with
  | nil =>
      cases h
      rfl
  | cons entry rest ih =>
      rw [List.mapM_cons] at h
      obtain ⟨own, hown, h⟩ := bind_eq_ok_iff.mp h
      obtain ⟨others, hothers, h⟩ := bind_eq_ok_iff.mp h
      cases h
      rw [List.map_cons, ih hothers]
      congr 1
      unfold namedEntry at hown
      split at hown <;> cases hown
      rfl

/-- What entries hold outside of a group matters by itself. -/
theorem ofMerged_eq (homes : Homes) (entries : List (Scalar × Value)) {group : String}
    (hgroup : group ∈ groupNames) :
    ofMerged homes entries = (do
      let others ← (Assoc.without entries (.str group)).mapM namedEntry
      ((Check.both (ofEntries homes entries) (unexpected others)).map Prod.fst).mapError
        .ofRefusal) := by
  have hofMerged : ofMerged homes entries = (do
      let named ← entries.mapM namedEntry
      (ofKnownEntries homes named).mapError .ofRefusal) := rfl
  rw [hofMerged, mapM_namedEntry_without]
  cases hnamed : entries.mapM namedEntry with
  | error e => rfl
  | ok named =>
      have hknown : ofKnownEntries homes named =
          (Check.both (ofEntries homes (named.map fun (name, value) => (.str name, value)))
            (unexpected named)).map Prod.fst := rfl
      show (ofKnownEntries homes named).mapError LoadError.ofRefusal = _
      rw [hknown, map_of_mapM_namedEntry hnamed, ← unexpected_filter hgroup]
      rfl

theorem ofEntries_of_ofMerged {homes : Homes} {entries : List (Scalar × Value)}
    {settings : Settings} (h : ofMerged homes entries = .ok settings) :
    ofEntries homes entries = .ok settings := by
  obtain ⟨named, hnamed, h⟩ := bind_eq_ok_iff.mp h
  obtain ⟨found, hboth, rfl⟩ := map_eq_ok_iff.mp (mapError_eq_ok_iff.mp h)
  rw [map_of_mapM_namedEntry hnamed] at hboth
  exact (Check.both_eq_ok_iff.mp hboth).1

theorem settingAt_congr {α : Type} {entries others : List (Scalar × Value)} {group name : String}
    (h : settingAt? entries group name = settingAt? others group name) (default : α)
    (check : Value → Check α) :
    Check.settingAt entries group name default check =
      Check.settingAt others group name default check := by
  rw [Check.settingAt, Check.settingAt, h]

theorem setting_congr {α : Type} {entries others : List (Scalar × Value)} {group name : String}
    (h : Assoc.without entries (.str group) = Assoc.without others (.str group))
    (hname : group ≠ name) (default : α) (check : Value → Check α) :
    Check.setting entries name default check = Check.setting others name default check := by
  have hkey : ((.str group : Scalar) == .str name) = false := by
    refine Bool.eq_false_iff.mpr fun heq => ?_
    cases Scalar.str_beq_iff.mp heq
    exact hname rfl
  rw [Check.setting, Check.setting, ← Assoc.lookup_without entries hkey, h,
    Assoc.lookup_without others hkey]

/-- What is read from entries depends on nothing in the section of a group but the values of its
settings. -/
theorem ofMerged_congr (homes : Homes) {entries others : List (Scalar × Value)} {group : String}
    (hgroup : group ∈ groupNames) (hentries : IsSectioned group entries)
    (hothers : IsSectioned group others)
    (hwithout : Assoc.without entries (.str group) = Assoc.without others (.str group))
    (hsettings : ∀ name, settingAt? entries group name = settingAt? others group name) :
    ofMerged homes entries = ofMerged homes others := by
  have hread : ofEntries homes entries = ofEntries homes others := by
    unfold ofEntries
    simp only [groupNames, List.mem_cons, List.not_mem_nil, or_false] at hgroup
    rcases hgroup with rfl | rfl
    · rw [LogSettings.setting_eq homes hentries, LogSettings.setting_eq homes hothers,
        settingAt_congr (hsettings "level"), settingAt_congr (hsettings "outputs"),
        setting_congr hwithout (by decide)]
    · rw [ParserSettings.setting_eq hentries, ParserSettings.setting_eq hothers,
        settingAt_congr (hsettings "enabled"), settingAt_congr (hsettings "extensions"),
        setting_congr hwithout (by decide)]
  rw [ofMerged_eq homes entries hgroup, ofMerged_eq homes others hgroup, hwithout, hread]

end Settings

end Remap
