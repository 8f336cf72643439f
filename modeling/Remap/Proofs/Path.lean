import Remap.Path
import Remap.Proofs.Text.Split

/-!
# Paths in normal form

A text is read as a path in normal form (`Path.isNormal_ofText`), and a home that takes the
place of a first component leaves it so (`Path.IsNormal.of_expandHome`). What a path in normal
form is written as is read as the same path again (`Path.ofText_display`), and is never empty.
-/

namespace Remap

namespace Text

theorem splitOn_replicate_append (separator : Char) (n : Nat) (rest : List Char) :
    splitOn separator (List.replicate n separator ++ rest) =
      List.replicate n [] ++ splitOn separator rest := by
  induction n with
  | zero => rfl
  | succ n ih =>
      rw [List.replicate_succ, List.replicate_succ, List.cons_append, List.cons_append, splitOn,
        if_pos rfl, ih]

end Text

namespace Path

/-- Whether a path has at most two slashes for its root and none in its components, of which
no one is empty or a single dot. -/
structure IsNormal (path : Path) : Prop where
  root_le : path.root ≤ 2
  name_ne : ∀ name ∈ path.components, name.toList ≠ [] ∧ name.toList ≠ ['.']
  slash_not_mem : ∀ name ∈ path.components, '/' ∉ name.toList

theorem isNormal_ofText (text : String) : (ofText text).IsNormal where
  root_le := by
    unfold ofText
    dsimp only
    split <;> omega
  name_ne := by
    intro name hname
    obtain ⟨piece, hpiece, rfl⟩ := List.mem_map.mp hname
    rw [String.toList_ofList]
    simpa using (List.mem_filter.mp hpiece).2
  slash_not_mem := by
    intro name hname
    obtain ⟨piece, hpiece, rfl⟩ := List.mem_map.mp hname
    rw [String.toList_ofList]
    exact Text.not_mem_of_mem_splitOn piece (List.mem_filter.mp hpiece).1

theorem IsNormal.of_expandHome {home : String → Option String} {path expanded : Path}
    (h : path.IsNormal) (hexpand : path.expandHome home = some expanded) : expanded.IsNormal := by
  unfold expandHome at hexpand
  split at hexpand
  · next first rest _ hcomponents =>
      split at hexpand
      · next user _ =>
          obtain ⟨base, -, hbase⟩ := Option.bind_eq_some_iff.mp hexpand
          cases hbase
          have hnormal := isNormal_ofText base
          have hrest {name : String} (hname : name ∈ rest) : name ∈ path.components := by
            rw [hcomponents]
            exact List.mem_cons_of_mem _ hname
          refine ⟨hnormal.root_le, ?_, ?_⟩
          · intro name hname
            rcases List.mem_append.mp hname with hname | hname
            · exact hnormal.name_ne name hname
            · exact h.name_ne name (hrest hname)
          · intro name hname
            rcases List.mem_append.mp hname with hname | hname
            · exact hnormal.slash_not_mem name hname
            · exact h.slash_not_mem name (hrest hname)
      · cases hexpand
        exact h
  · cases hexpand
    exact h

/-- A path with a root has no home component. -/
theorem homeUser?_of_isAbsolute {path : Path} (h : path.isAbsolute) : path.homeUser? = none := by
  unfold homeUser?
  split
  · next hroot _ =>
      rw [isAbsolute, hroot] at h
      cases h
  · rfl

theorem expandHome_of_isAbsolute (home : String → Option String) {path : Path}
    (h : path.isAbsolute) : path.expandHome home = some path := by
  unfold expandHome
  split
  · next hroot _ =>
      rw [isAbsolute, hroot] at h
      cases h
  · rfl

theorem expandHome_eq_none_iff {home : String → Option String} {path : Path} :
    path.expandHome home = none ↔
      ∃ user, path.homeUser? = some user ∧ home (String.ofList user) = none := by
  unfold expandHome homeUser?
  split
  · split
    · next user _ => cases hhome : home (String.ofList user) <;> simp [hhome]
    · simp
  · simp

/-- The text of a path, with or without components. -/
theorem toList_display {path : Path} (h : ¬ (path.root = 0 ∧ path.components = [])) :
    path.display.toList = List.replicate path.root '/' ++
      ['/'].intercalate (path.components.map String.toList) := by
  have hdot : ¬ (path.root = 0 && path.components.isEmpty) = true := by
    simpa using h
  rw [display, if_neg hdot, String.toList_append, String.toList_ofList,
    String.toList_intercalate]
  rfl

/-- Names put together do not start with a slash. -/
theorem takeWhile_intercalate {names : List String} (hempty : ∀ name ∈ names, name.toList ≠ [])
    (hslash : ∀ name ∈ names, '/' ∉ name.toList) :
    (['/'].intercalate (names.map String.toList)).takeWhile (· = '/') = [] := by
  cases names with
  | nil => rfl
  | cons name rest =>
      cases hname : name.toList with
      | nil => exact absurd hname (hempty name List.mem_cons_self)
      | cons c chars =>
          have hc : c ≠ '/' := by
            rintro rfl
            exact hslash name List.mem_cons_self (hname ▸ List.mem_cons_self)
          cases rest <;> simp [hname, hc]

theorem ofText_display {path : Path} (h : path.IsNormal) : ofText path.display = path := by
  by_cases hdot : path.root = 0 ∧ path.components = []
  · obtain ⟨root, components⟩ := path
    obtain ⟨rfl, rfl⟩ := hdot
    decide
  · have hroot : (path.display.toList.takeWhile (· = '/')).length = path.root := by
      rw [toList_display hdot, List.takeWhile_append_of_pos (by simp),
        takeWhile_intercalate (fun name hname => (h.name_ne name hname).1) h.slash_not_mem]
      simp
    have hkept : (path.components.map String.toList).filter
        (fun piece => piece ≠ [] && piece ≠ ['.']) = path.components.map String.toList := by
      refine List.filter_eq_self.mpr fun piece hpiece => ?_
      obtain ⟨name, hname, rfl⟩ := List.mem_map.mp hpiece
      simpa using h.name_ne name hname
    have hpieces : (Text.splitOn '/' path.display.toList).filter
        (fun piece => piece ≠ [] && piece ≠ ['.']) = path.components.map String.toList := by
      rw [toList_display hdot, Text.splitOn_replicate_append, List.filter_append,
        Text.splitOn_intercalate (by simpa using h.slash_not_mem)]
      split
      · next hnone => simp [hnone]
      · simpa using hkept
    have hle := h.root_le
    obtain ⟨root, components⟩ := path
    unfold ofText
    dsimp only at hroot hpieces hle ⊢
    rw [hroot, hpieces, List.map_map]
    congr 1
    · split <;> omega
    · simp

theorem hasNull_iff {path : Path} :
    path.hasNull ↔ ∃ name ∈ path.components, '\x00' ∈ name.toList := by
  simp only [hasNull, List.any_eq_true, String.contains_char_eq, decide_eq_true_eq]

theorem IsNormal.display_ne_empty {path : Path} (h : path.IsNormal) : path.display ≠ "" := by
  intro hempty
  have hpath := ofText_display h
  rw [hempty] at hpath
  rw [← hpath] at hempty
  exact absurd hempty (by decide)

end Path

end Remap
