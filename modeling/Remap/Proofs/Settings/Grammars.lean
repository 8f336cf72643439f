import Remap.Proofs.Settings.Spellings
import Remap.Proofs.Source

/-!
# Grammars chosen by extension

Parser settings name a grammar for a path by its suffix. The extensions of the settings were
brought into normal form when they were checked, the suffix is only when it is looked up. Said of
the extensions as they were given, what is named is the grammar of the last of them that is for
the path (`Extensions.Selects`), whatever the case of either and with or without a dot.

Every grammar that is named is a registered one, so that no file is refused for its language
(`ParserSettings.grammarFor_selects`).
-/

namespace Remap

/-! ## Suffixes -/

namespace Path

variable {path : Path} {ending : List Char}

/-- Whether the final component of a path has an ending behind its last dot, and something
before it. -/
structure HasEnding (path : Path) (ending : List Char) : Prop where
  exists_front : ∃ front, front ≠ [] ∧ path.name.toList = front ++ '.' :: ending
  ne_nil : ending ≠ []
  dot_not_mem : '.' ∉ ending

theorem HasEnding.suffix_eq (h : path.HasEnding ending) :
    path.suffix = String.ofList ('.' :: ending) := by
  obtain ⟨front, hfront, hname⟩ := h.exists_front
  have hreversed : path.name.toList.reverse = ending.reverse ++ '.' :: front.reverse := by
    rw [hname, List.reverse_append, List.reverse_cons, List.append_assoc, List.singleton_append]
  have htail : (path.name.toList.reverse).takeWhile (· ≠ '.') = ending.reverse := by
    rw [hreversed, List.takeWhile_append_of_pos, List.takeWhile_cons_of_neg (by simp),
      List.append_nil]
    intro c hc
    refine decide_eq_true ?_
    rintro rfl
    exact h.dot_not_mem (List.mem_reverse.mp hc)
  have hrest : path.name.toList.reverse.drop ending.reverse.length = '.' :: front.reverse := by
    rw [hreversed, List.drop_left]
  obtain ⟨c, cs, hending⟩ := List.exists_cons_of_ne_nil (mt List.reverse_eq_nil_iff.mp h.ne_nil)
  obtain ⟨d, ds, hbefore⟩ := List.exists_cons_of_ne_nil (mt List.reverse_eq_nil_iff.mp hfront)
  have hsuffix : path.suffix = String.ofList ('.' :: (c :: cs).reverse) := by
    rw [suffix, htail, hrest, hending, hbefore]
    rfl
  rw [hsuffix, ← hending, List.reverse_reverse]

theorem suffix_eq_empty_or (path : Path) :
    path.suffix = "" ∨ ∃ ending, path.HasEnding ending := by
  unfold suffix
  dsimp only
  split
  · next c cs d ds htail hrest =>
      have hreversed : path.name.toList.reverse = (c :: cs) ++ '.' :: d :: ds := by
        rw [← hrest, ← htail]
        exact (List.prefix_iff_eq_append.mp (List.takeWhile_prefix _)).symm
      have hname : path.name.toList = (d :: ds).reverse ++ '.' :: (c :: cs).reverse := by
        rw [← List.reverse_reverse path.name.toList, hreversed, List.reverse_append,
          List.reverse_cons, List.append_assoc, List.singleton_append]
      refine Or.inr ⟨(c :: cs).reverse, ⟨(d :: ds).reverse, by simp, hname⟩, by simp, ?_⟩
      intro hdot
      rw [List.mem_reverse, ← htail] at hdot
      exact absurd (List.all_eq_true.mp List.all_takeWhile _ hdot) (by decide)
  · exact Or.inl rfl

end Path

/-! ## The entry that counts -/

theorem normalExtension_ne_empty (extension : String) : normalExtension extension ≠ "" := by
  intro h
  have hnone : (normalExtension extension).toList = [] := by
    rw [h]
    rfl
  unfold normalExtension at hnone
  dsimp only at hnone
  split at hnone
  · next hdot =>
      obtain ⟨rest, hrest⟩ := Text.startsWith_iff.mp hdot
      rw [hrest] at hnone
      cases hnone
  · rw [String.toList_append] at hnone
    cases hnone

namespace Extensions

variable {given : List (String × String)} {extensions : Extensions} {path : Path}
  {grammar? : Option String}

/-- Whether an extension is for a path: in small letters and with its dot, it is what the suffix of
the path is in small letters. -/
def IsFor (extension : String) (path : Path) : Prop :=
  ∃ ending, path.HasEnding ending ∧
    normalExtension extension = Text.lowercase (String.ofList ('.' :: ending))

/-- Which grammar given extensions have for a path: that of the last of them that is for it. -/
inductive Selects (given : List (String × String)) (path : Path) : Option String → Prop
  | last {front behind : List (String × String)} {extension grammar : String} :
      given = front ++ (extension, grammar) :: behind → IsFor extension path →
      (∀ later ∈ behind, ¬ IsFor later.1 path) → Selects given path (some grammar)
  | none : (∀ entry ∈ given, ¬ IsFor entry.1 path) → Selects given path none

theorem isFor_iff {extension : String} :
    IsFor extension path ↔ normalExtension extension = Text.lowercase path.suffix := by
  constructor
  · rintro ⟨ending, hending, h⟩
    rw [h, hending.suffix_eq]
  · intro h
    rcases path.suffix_eq_empty_or with hnone | ⟨ending, hending⟩
    · rw [hnone] at h
      exact absurd h (normalExtension_ne_empty extension)
    · rw [hending.suffix_eq] at h
      exact ⟨ending, hending, h⟩

theorem getLast?_spellings_eq_some_iff {extension : String} {entry : String × String} :
    (spellings given extension).getLast? = some entry ↔
      ∃ front behind, given = front ++ entry :: behind ∧ normalExtension entry.1 = extension ∧
        ∀ later ∈ behind, normalExtension later.1 ≠ extension := by
  rw [spellings, List.getLast?_filter, List.find?_eq_some_iff_append]
  constructor
  · rintro ⟨hentry, behind, front, hreversed, hbehind⟩
    refine ⟨front.reverse, behind.reverse, ?_, (beq_iff_eq.mp hentry).symm, ?_⟩
    · rw [← List.reverse_reverse given, hreversed, List.reverse_append, List.reverse_cons,
        List.append_assoc, List.singleton_append]
    · rintro later hlater rfl
      have hne := hbehind later (List.mem_reverse.mp hlater)
      rw [BEq.rfl] at hne
      cases hne
  · rintro ⟨front, behind, rfl, hentry, hbehind⟩
    refine ⟨beq_iff_eq.mpr hentry.symm, behind.reverse, front.reverse, by simp, ?_⟩
    intro later hlater
    rw [Bool.not_eq_true', beq_eq_false_iff_ne]
    exact (hbehind later (List.mem_reverse.mp hlater)).symm

/-- The lookup of a suffix finds the entry that counts for the path. -/
theorem selects_iff (h : normalise given = .ok extensions) :
    Selects given path grammar? ↔ extensions.grammarFor path = grammar? := by
  rw [grammarFor, lookup_normalise h]
  constructor
  · rintro (⟨hgiven, hfor, hbehind⟩ | hnone)
    · rw [getLast?_spellings_eq_some_iff.mpr ⟨_, _, hgiven, isFor_iff.mp hfor,
        fun later hlater => mt isFor_iff.mpr (hbehind later hlater)⟩]
      rfl
    · have hspellings : spellings given (Text.lowercase path.suffix) = [] := by
        refine List.eq_nil_iff_forall_not_mem.mpr fun entry hentry => ?_
        obtain ⟨hmem, hspells⟩ := mem_spellings_iff.mp hentry
        exact hnone entry hmem (isFor_iff.mpr hspells)
      rw [hspellings]
      rfl
  · rintro rfl
    cases hlast : (spellings given (Text.lowercase path.suffix)).getLast? with
    | none =>
        refine .none fun entry hentry hfor => ?_
        have hmem := mem_spellings_iff.mpr ⟨hentry, isFor_iff.mp hfor⟩
        rw [List.getLast?_eq_none_iff.mp hlast] at hmem
        cases hmem
    | some entry =>
        obtain ⟨front, behind, hgiven, hspells, hbehind⟩ :=
          getLast?_spellings_eq_some_iff.mp hlast
        exact .last hgiven (isFor_iff.mpr hspells) fun later hlater =>
          mt isFor_iff.mp (hbehind later hlater)

end Extensions

/-! ## Extensions of settings -/

namespace Check

theorem opened_of_group {name : String} {value : Value} {entries : List (Scalar × Value)}
    (h : group name value = .ok entries) : value.opened = .table entries := by
  unfold group at h
  split at h
  · next hopened =>
      cases h
      exact hopened
  · cases h

/-- Whether the keys and values of a table stand for these texts. -/
def AreTexts (members : List (Scalar × Value)) (written : List (String × String)) : Prop :=
  List.Forall₂ (fun (key, value) own => text (.scalar key) = .ok own.1 ∧ text value = .ok own.2)
    members written

theorem exists_of_texts {value : Value} {found : List (String × String)}
    (h : texts value = .ok found) :
    ∃ members written, value.opened = .table members ∧ AreTexts members written ∧
      found = Assoc.ofList written := by
  unfold texts at h
  split at h
  · next members hopened =>
      obtain ⟨written, hwritten, rfl⟩ := map_eq_ok_iff.mp h
      refine ⟨members, written, hopened, ?_, rfl⟩
      rw [all_eq_ok_iff, ← List.forall₂_eq_eq_eq, List.forall₂_map_left_iff,
        List.forall₂_map_right_iff] at hwritten
      refine hwritten.imp ?_
      rintro ⟨key, entry⟩ own hown
      obtain ⟨hkey, hentry⟩ := both_eq_ok_iff.mp hown
      exact ⟨under_eq_ok_iff.mp (under_eq_ok_iff.mp hkey), under_eq_ok_iff.mp hentry⟩
  · cases h

end Check

namespace ParserSettings

/-- Which extensions a value gives to parser settings: the texts of its table of extensions, or
without one those by default. -/
inductive Gives (value : Value) : List (String × String) → Prop
  | byDefault {entries : List (Scalar × Value)} : value.opened = .table entries →
      entries.lookup (.str "extensions") = none → Gives value Extensions.default
  | table {entries members : List (Scalar × Value)} {extensions : Value}
      {written : List (String × String)} : value.opened = .table entries →
      entries.lookup (.str "extensions") = some extensions → extensions.opened = .table members →
      Check.AreTexts members written → Gives value (Assoc.ofList written)

theorem exists_gives_of_ofValue {value : Value} {settings : ParserSettings}
    (h : ofValue value = .ok settings) :
    ∃ given, Gives value given ∧ Extensions.normalise given = .ok settings.extensions := by
  obtain ⟨entries, hgroup, h⟩ := bind_eq_ok_iff.mp h
  obtain ⟨⟨enabled, extensions⟩, hboth, h⟩ := bind_eq_ok_iff.mp h
  cases h
  have hopened := Check.opened_of_group hgroup
  have hextensions := (Check.both_eq_ok_iff.mp hboth).2
  unfold Check.setting at hextensions
  split at hextensions
  · next given hlookup =>
      obtain ⟨found, hfound, h⟩ := bind_eq_ok_iff.mp (Check.under_eq_ok_iff.mp hextensions)
      obtain ⟨members, written, hmembers, hwritten, rfl⟩ := Check.exists_of_texts hfound
      refine ⟨_, .table hopened hlookup hmembers hwritten, ?_⟩
      split at h
      · next hnormal =>
          cases h
          exact hnormal
      · cases h
  · next hlookup =>
      cases hextensions
      exact ⟨_, .byDefault hopened hlookup, Extensions.isNormal_default.normalise_eq⟩

/-- Every grammar that is named for a path is registered. -/
theorem isSome_named? {settings : ParserSettings} (h : settings.extensions.IsNormal) {path : Path}
    {name : String} (hname : settings.grammarFor path = some name) :
    (Grammar.named? name).isSome := by
  unfold grammarFor at hname
  split at hname
  · obtain ⟨extension, hentry⟩ := Assoc.exists_mem_of_lookup hname
    exact h.registered _ hentry
  · cases hname

end ParserSettings

/-! ## Listings -/

namespace Listing

variable {parse : Parse} {source : List Char} {wrapperLength : Int} {language : Option String}
  {name : String}

theorem named?_of_findSegments
    (h : (findSegments parse source language).value = .error (.unsupportedLanguage name)) :
    language = some name ∧ Grammar.named? name = none := by
  cases language with
  | none => cases h
  | some given =>
      cases hgrammar : Grammar.named? given with
      | none =>
          rw [findSegments, hgrammar] at h
          cases h
          exact ⟨rfl, hgrammar⟩
      | some grammar =>
          rw [findSegments_of_named? parse source hgrammar] at h
          obtain ⟨own, -, hown⟩ := mapError_eq_error_iff.mp h
          cases hown

/-- A language is refused only where no grammar of its name is registered. -/
theorem named?_of_build
    (h : (build parse source wrapperLength language).value = .error (.unsupportedLanguage name)) :
    language = some name ∧ Grammar.named? name = none := by
  unfold build at h
  dsimp only at h
  split at h
  · cases h
  · split at h
    · next hfound =>
        cases h
        exact named?_of_findSegments hfound
    · cases h

end Listing

/-- No file is refused for its language where all grammars of the settings are registered. -/
theorem SourceFile.not_unsupportedLanguage {settings : Settings}
    (h : settings.parser.extensions.IsNormal) (parse : Parse) (wrapperLength : Int)
    (file : SourceFile) (session : Session) (name : String) :
    (file.load parse settings wrapperLength session).1 ≠
      .error (.listing (.unsupportedLanguage name)) := by
  intro hload
  rw [load, build] at hload
  dsimp only at hload
  split at hload
  · next error htext =>
      have hreads := file.reads_text
      rw [htext, Except.error.inj hload] at hreads
      cases hreads
  · obtain ⟨own, hbuilt, hown⟩ := mapError_eq_error_iff.mp hload
    cases hown
    obtain ⟨hname, hnone⟩ := Listing.named?_of_build hbuilt
    have hsome := ParserSettings.isSome_named? h hname
    rw [hnone] at hsome
    cases hsome

namespace Settings

/-- Whether settings have been checked, given as a value or loaded from their sources. -/
def IsChecked (homes : Homes) (settings : Settings) : Prop :=
  (∃ value, ofValue homes value = .ok settings) ∨ ∃ sources, load homes sources = .ok settings

theorem IsChecked.isNormal {homes : Homes} {settings : Settings} (h : settings.IsChecked homes) :
    settings.IsNormal := by
  rcases h with ⟨value, h⟩ | ⟨sources, h⟩
  · obtain ⟨entries, -, h⟩ := bind_eq_ok_iff.mp h
    exact isNormal_of_ofEntries h
  · rw [load_eq] at h
    obtain ⟨layers, -, h⟩ := bind_eq_ok_iff.mp h
    exact isNormal_of_ofMerged h

end Settings

/-- Parser settings that were checked name for a path the grammar that the extensions they were
given select for it, if parsing is enabled, and else none. What they name is registered, so that
no file that is read with checked settings is refused for its language. -/
theorem ParserSettings.grammarFor_selects :
    (∀ value settings, ofValue value = .ok settings →
      ∃ given, Gives value given ∧ ∀ path,
        (∀ grammar?, settings.grammarFor path = grammar? ↔
          if settings.enabled then Extensions.Selects given path grammar? else grammar? = none) ∧
        ∀ name ∈ settings.grammarFor path, (Grammar.named? name).isSome) ∧
    ∀ homes settings, Settings.IsChecked homes settings →
      ∀ parse wrapperLength file session name,
        (SourceFile.load parse settings wrapperLength file session).1 ≠
          .error (.listing (.unsupportedLanguage name)) := by
  refine ⟨?_, ?_⟩
  · intro value settings h
    obtain ⟨given, hgives, hnormal⟩ := exists_gives_of_ofValue h
    refine ⟨given, hgives, fun path => ⟨fun grammar? => ?_, fun name hname => ?_⟩⟩
    · unfold grammarFor
      split
      · exact (Extensions.selects_iff hnormal).symm
      · exact eq_comm
    · exact isSome_named? (isNormal_of_ofValue h) hname
  · intro homes settings h parse wrapperLength file session name
    exact SourceFile.not_unsupportedLanguage h.isNormal.extensions parse wrapperLength file session
      name

/-- Parser settings with three spellings, of which two come to the same. -/
def respelled : Value :=
  .record [("extensions", .record [("JS", .str "typescript"), (".Js", .str "tsx"),
    ("ts", .str "typescript")])]

theorem ParserSettings.grammarFor_selects_respelled :
    (∃ settings given, ofValue respelled = .ok settings ∧ Gives respelled given ∧
      Extensions.Selects given (.ofText "lib/a.min.jS/") (some "tsx") ∧
      Extensions.Selects given (.ofText "lib/.js") none) ∧
    (SourceFile.load (fun _ _ => ⟨default, false⟩) { parser := { extensions := [(".js", "tsx")] } } 0
        ⟨.ofText "a.js", .file "a".toUTF8⟩ { settings := {} }).1 ≠
      .error (.listing (.unsupportedLanguage "tsx")) := by
  obtain ⟨hselects, hlisted⟩ := grammarFor_selects
  refine ⟨?_, ?_⟩
  · have hsettings : ofValue respelled =
        .ok { extensions := [(".js", "tsx"), (".ts", "typescript")] } := by
      decide +kernel
    obtain ⟨given, hgives, hpaths⟩ := hselects _ _ hsettings
    have hsuffixed := ((hpaths (.ofText "lib/a.min.jS/")).1 (some "tsx")).mp (by decide +kernel)
    have hdotted := ((hpaths (.ofText "lib/.js")).1 none).mp (by decide +kernel)
    exact ⟨_, given, hsettings, hgives, hsuffixed, hdotted⟩
  · have hvalue : Settings.ofValue (fun _ => none) (.record [("parser",
        .record [("extensions", .record [("JS", .str "tsx")])])]) =
          .ok { parser := { extensions := [(".js", "tsx")] } } := by
      decide +kernel
    exact hlisted _ _ (.inl ⟨_, hvalue⟩) _ _ _ _ _

end Remap
