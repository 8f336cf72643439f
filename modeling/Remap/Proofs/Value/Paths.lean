import Remap.Proofs.Value.Merge
import Remap.Value.Identity

/-!
# Merged tables along paths

A path of keys leads from a table through the tables in it (`Value.at?`). One table laid
over another is told by what the two hold along each path (`MergedAlong`): the upper value
counts, tables on both sides are united, and a value of the upper table that is no table
hides what the lower one holds behind it (`Hides`). One step goes from a table to what it
holds under a key (`lookup_overlayEntries`), the rest is an induction on the path.

Tables that are nested (`Nested`) need no opening. Laid over itself such a table is itself.
-/

namespace Remap.Value

/-! ## Paths -/

/-- The value under a key of a table. -/
def member? (v : Value) (key : Scalar) : Option Value :=
  match v.opened with
  | table entries => entries.lookup key
  | _ => none

/-- The value at the end of a path of keys. -/
def at? : Value → List Scalar → Option Value
  | v, [] => some v
  | v, key :: path => (v.member? key).bind (·.at? path)

/-- Whether another value than a table stands on a path before its end. -/
def Hides (v : Value) (path : List Scalar) : Prop :=
  ∃ front own, front <+: path ∧ front ≠ path ∧ v.at? front = some own ∧ ¬ own.isTable

theorem member?_of_opened {v : Value} {entries : List (Scalar × Value)}
    (h : v.opened = table entries) (key : Scalar) : v.member? key = entries.lookup key := by
  rw [member?, h]

theorem member?_eq_none {v : Value} (h : ¬ v.isTable) (key : Scalar) : v.member? key = none := by
  unfold member?
  split
  · next entries hentries => exact absurd (isTable_iff.mpr ⟨entries, hentries⟩) h
  · rfl

theorem at?_cons (v : Value) (key : Scalar) (path : List Scalar) :
    v.at? (key :: path) = (v.member? key).bind (·.at? path) := rfl

theorem not_hides_nil (v : Value) : ¬ v.Hides [] := by
  rintro ⟨front, own, hfront, hne, -⟩
  exact hne (List.prefix_nil.mp hfront)

theorem hides_cons {v : Value} {key : Scalar} {path : List Scalar} :
    v.Hides (key :: path) ↔
      ¬ v.isTable ∨ ∃ inner, v.member? key = some inner ∧ inner.Hides path := by
  constructor
  · rintro ⟨front, own, hfront, hne, hown, htable⟩
    cases front with
    | nil =>
        cases hown
        exact .inl htable
    | cons first front =>
        obtain ⟨rfl, hrest⟩ := List.cons_prefix_cons.mp hfront
        obtain ⟨inner, hinner, hown⟩ := Option.bind_eq_some_iff.mp hown
        exact .inr ⟨inner, hinner, front, own, hrest, fun h => hne (congrArg _ h), hown, htable⟩
  · rintro (htable | ⟨inner, hinner, front, own, hfront, hne, hown, htable⟩)
    · exact ⟨[], v, List.nil_prefix, List.cons_ne_nil _ _ |>.symm, rfl, htable⟩
    · refine ⟨key :: front, own, List.cons_prefix_cons.mpr ⟨rfl, hfront⟩, ?_, ?_, htable⟩
      · exact fun h => hne (List.cons.inj h).2
      · rw [at?_cons, hinner]
        exact hown

instance decidableHides : (v : Value) → (path : List Scalar) → Decidable (v.Hides path)
  | v, [] => .isFalse (not_hides_nil v)
  | v, key :: path =>
    match h : v.member? key with
    | none => decidable_of_iff (¬ v.isTable) (by rw [hides_cons, h]; simp)
    | some inner =>
      have := decidableHides inner path
      decidable_of_iff (¬ v.isTable ∨ inner.Hides path) (by rw [hides_cons, h]; simp)

/-- Behind a value that is no table there is nothing. -/
theorem at?_eq_none_of_hides {v : Value} {path : List Scalar} (h : v.Hides path) :
    v.at? path = none := by
  induction path generalizing v with
  | nil => exact absurd h (not_hides_nil v)
  | cons key path ih =>
      rw [at?_cons]
      rcases hides_cons.mp h with htable | ⟨inner, hinner, hhides⟩
      · rw [member?_eq_none htable, Option.bind_none]
      · rw [hinner, Option.bind_some, ih hhides]

/-! ## Nested tables -/

/-- Whether a value is another than a table, or a table that shows its entries, has no two
equal keys, and holds nested values only. -/
inductive Nested : Value → Prop
  | leaf {v : Value} : ¬ v.isTable → Nested v
  | table {entries : List (Scalar × Value)} : Assoc.Distinct entries →
      (∀ entry ∈ entries, Nested entry.2) → Nested (.table entries)

theorem nested_table_iff {entries : List (Scalar × Value)} :
    Nested (.table entries) ↔ Assoc.Distinct entries ∧ ∀ entry ∈ entries, Nested entry.2 := by
  constructor
  · intro h
    cases h with
    | leaf hleaf => exact absurd rfl hleaf
    | table hdistinct hentries => exact ⟨hdistinct, hentries⟩
  · rintro ⟨hdistinct, hentries⟩
    exact .table hdistinct hentries

mutual

instance decidableNested : (v : Value) → Decidable v.Nested
  | table entries =>
    have := decidableAllNested entries
    have : Decidable (Assoc.Distinct entries) := List.instDecidablePairwise entries
    decidable_of_iff _ nested_table_iff.symm
  | cyclic parts index =>
    decidable_of_iff (¬ (cyclic parts index).isTable) ⟨.leaf, fun h => by cases h; assumption⟩
  | scalar _ | list _ | pair _ _ | set _ | part _ => .isTrue (.leaf Bool.false_ne_true)

def decidableAllNested :
    (entries : List (Scalar × Value)) → Decidable (∀ entry ∈ entries, Nested entry.2)
  | [] => .isTrue fun _ h => absurd h List.not_mem_nil
  | (key, v) :: rest =>
    have := decidableNested v
    have := decidableAllNested rest
    decidable_of_iff (v.Nested ∧ ∀ entry ∈ rest, Nested entry.2) (by simp)

end

theorem Nested.of_lookup {entries : List (Scalar × Value)} (h : Nested (.table entries))
    {key : Scalar} {v : Value} (hlookup : entries.lookup key = some v) : v.Nested := by
  obtain ⟨own, hown⟩ := Assoc.exists_mem_of_lookup hlookup
  exact (nested_table_iff.mp h).2 _ hown

/-! ## Values of merged tables -/

/-- Unless both are tables the upper value replaces the lower one. -/
theorem overlay_of_not_tables {lower upper : Value} (h : ¬ (upper.isTable ∧ lower.isTable)) :
    lower.overlay upper = upper := by
  by_cases hupper : upper.isTable
  · exact overlay_of_lower_not_isTable (fun hlower => h ⟨hupper, hlower⟩) upper
  · exact overlay_of_not_isTable lower hupper

section

variable {lower upper : Value} {path : List Scalar}

/-- Where the upper value hides nothing, both values count at the end of a path. -/
theorem at?_overlay (hupper : upper.Nested) (h : ¬ upper.Hides path) :
    (lower.overlay upper).at? path = overlay? (lower.at? path) (upper.at? path) := by
  induction path generalizing lower upper with
  | nil => rfl
  | cons key path ih =>
      rw [hides_cons, not_or, Decidable.not_not] at h
      obtain ⟨htable, hbelow⟩ := h
      cases hupper with
      | leaf hleaf => exact absurd htable hleaf
      | @table entries hdistinct hentries =>
          by_cases hlower : lower.isTable
          · obtain ⟨inner, hinner⟩ := isTable_iff.mp hlower
            rw [overlay_table hinner, at?_cons, at?_cons, at?_cons, member?_of_opened rfl,
              member?_of_opened hinner, member?_of_opened rfl, lookup_overlayEntries hdistinct]
            cases hown : entries.lookup key with
            | none => simp
            | some own =>
                cases inner.lookup key with
                | none => simp
                | some old =>
                    have hnested := Nested.of_lookup (.table hdistinct hentries) hown
                    exact ih hnested fun hhides => hbelow ⟨own, hown, hhides⟩
          · rw [overlay_of_lower_not_isTable hlower, at?_cons lower, member?_eq_none hlower,
              Option.bind_none, overlay?_none_left]

/-- Where it does, there is nothing at the end of the path. -/
theorem at?_overlay_of_hides (hupper : upper.Nested) (h : upper.Hides path) :
    (lower.overlay upper).at? path = none := by
  induction path generalizing lower upper with
  | nil => exact absurd h (not_hides_nil upper)
  | cons key path ih =>
      by_cases hboth : upper.isTable ∧ lower.isTable
      · obtain ⟨htable, hlower⟩ := hboth
        obtain ⟨inner, hinner⟩ := isTable_iff.mp hlower
        cases hupper with
        | leaf hleaf => exact absurd htable hleaf
        | @table entries hdistinct hentries =>
            obtain ⟨own, hown, hhides⟩ :=
              (hides_cons.mp h).resolve_left (Decidable.not_not.mpr htable)
            have hlookup : entries.lookup key = some own := hown
            have hnested := Nested.of_lookup (.table hdistinct hentries) hlookup
            rw [overlay_table hinner, at?_cons, member?_of_opened rfl,
              lookup_overlayEntries hdistinct, hlookup]
            cases inner.lookup key with
            | none => exact at?_eq_none_of_hides hhides
            | some old => exact ih hnested hhides
      · rw [overlay_of_not_tables hboth]
        exact at?_eq_none_of_hides h

end

/-! ## Tables over themselves -/

theorem Nested.overlay_self {v : Value} (h : v.Nested) : v.overlay v = v := by
  induction h with
  | leaf hleaf => exact overlay_of_not_isTable _ hleaf
  | @table entries hdistinct _ ih =>
      have hunder : ∀ entry ∈ entries, laidUnder entries entry = entry := by
        intro entry hentry
        rw [laidUnder_of_lookup (Assoc.lookup_of_mem hdistinct hentry), ih entry hentry]
      have hnew : entries.filter (fun entry => (entries.lookup entry.1).isNone) = [] := by
        refine List.filter_eq_nil_iff.mpr fun entry hentry => ?_
        rw [Assoc.lookup_of_mem hdistinct hentry]
        simp
      rw [overlay_table rfl, overlayEntries_eq_append hdistinct hdistinct, hnew, List.append_nil,
        List.map_congr_left hunder, List.map_id']

theorem overlayEntries_nil_left {entries : List (Scalar × Value)} (h : Assoc.Distinct entries) :
    overlayEntries [] entries = entries := by
  rw [overlayEntries_eq_append List.Pairwise.nil h]
  exact List.filter_eq_self.mpr fun _ _ => rfl

/-! ## Opening of nested tables -/

theorem tableCount_le_tablesUnder {entries : List (Scalar × Value)} {entry : Scalar × Value}
    (h : entry ∈ entries) : entry.2.tableCount ≤ tablesUnder entries := by
  induction entries with
  | nil => cases h
  | cons first rest ih =>
      rw [tablesUnder]
      rcases List.mem_cons.mp h with rfl | h
      · exact Nat.le_add_right _ _
      · exact Nat.le_trans (ih h) (Nat.le_add_left _ _)

theorem tableCount_le_tablesAmong {items : List Value} {v : Value} (h : v ∈ items) :
    v.tableCount ≤ tablesAmong items := by
  induction items with
  | nil => cases h
  | cons first rest ih =>
      rw [tablesAmong]
      rcases List.mem_cons.mp h with rfl | h
      · exact Nat.le_add_right _ _
      · exact Nat.le_trans (ih h) (Nat.le_add_left _ _)

theorem tableCount_pos {v : Value} (h : v.isTable) : 0 < v.tableCount := by
  obtain ⟨entries, hentries⟩ := isTable_iff.mp h
  cases v with
  | table own => exact Nat.succ_pos _
  | cyclic parts index =>
      rw [opened] at hentries
      split at hentries
      · cases hentries
      · next own hown =>
          have hle := tableCount_le_tablesAmong (List.mem_of_getElem? hown)
          exact Nat.lt_of_lt_of_le (Nat.succ_pos _) hle
      · next own _ hother _ => exact absurd hentries (hother entries)
      · cases hentries
  | _ => cases hentries

theorem openEntriesBy_eq_self {opened? : Value → Value → Option Value}
    {lower upper : List (Scalar × Value)}
    (h : ∀ entry ∈ upper, ∀ old, opened? old entry.2 = some entry.2) :
    openEntriesBy? opened? lower upper = some upper := by
  refine mapM_eq_some_self fun entry hentry => ?_
  obtain ⟨key, own⟩ := entry
  dsimp only
  split
  · next old _ => rw [h _ hentry old, Option.map_some]
  · rfl

/-- Nested values are open as they are. -/
theorem Nested.openedWithin_eq {v : Value} (h : v.Nested) (lower : Value) {steps : Nat}
    (hsteps : lower.isTable → v.tableCount ≤ steps) : openedWithin? steps lower v = some v := by
  induction h generalizing lower steps with
  | leaf hleaf =>
      unfold openedWithin?
      split
      · next entries inner _ hinner => exact absurd (isTable_iff.mpr ⟨inner, hinner⟩) hleaf
      · rfl
  | @table inner _ _ ih =>
      unfold openedWithin?
      split
      · next entries own hentries hown =>
          cases hown
          have hcount := hsteps (isTable_iff.mpr ⟨entries, hentries⟩)
          cases steps with
          | zero => exact absurd hcount (Nat.not_succ_le_zero _)
          | succ steps =>
              have hopened : openEntriesBy? (openedWithin? steps) entries inner = some inner := by
                refine openEntriesBy_eq_self fun entry hentry old => ?_
                have hle := tableCount_le_tablesUnder hentry
                exact ih entry hentry old fun _ => Nat.le_trans hle (Nat.le_of_succ_le_succ hcount)
              dsimp only
              rw [hopened, Option.map_some]
      · rfl

theorem Nested.openedAlong_eq {v : Value} (h : v.Nested) (lower : Value) :
    openedAlong? lower v = some v :=
  h.openedWithin_eq lower fun hlower => Nat.le_mul_of_pos_left _ (tableCount_pos hlower)

theorem openEntries_eq {upper : List (Scalar × Value)} (h : Nested (.table upper))
    (lower : List (Scalar × Value)) : openEntries? lower upper = some upper :=
  openEntriesBy_eq_self fun entry hentry old =>
    ((nested_table_iff.mp h).2 entry hentry).openedAlong_eq old

/-! ## Merged tables -/

/-- What a table laid over another comes to along a path. -/
structure MergedAlong (lower upper merged : Value) (path : List Scalar) : Prop where
  replaced : ∀ own, upper.at? path = some own →
    ¬ (own.isTable ∧ ∃ old, lower.at? path = some old ∧ old.isTable) → merged.at? path = some own
  united : ∀ old own, lower.at? path = some old → upper.at? path = some own → old.isTable →
    own.isTable → ∃ both, merged.at? path = some both ∧ both.isTable ∧
      ∀ key, (both.member? key).isSome ↔ (old.member? key).isSome ∨ (own.member? key).isSome
  hidden : upper.at? path = none → upper.Hides path → merged.at? path = none
  kept : upper.at? path = none → ¬ upper.Hides path → merged.at? path = lower.at? path

theorem not_hides_of_at? {v own : Value} {path : List Scalar} (h : v.at? path = some own) :
    ¬ v.Hides path := by
  intro hhides
  cases h.symm.trans (at?_eq_none_of_hides hhides)

/-- The keys of united tables are those of either. -/
theorem member?_overlay {lower upper : Value} (hlower : lower.isTable) (hupper : upper.isTable)
    (hnested : upper.Nested) (key : Scalar) :
    (lower.overlay upper).member? key = overlay? (lower.member? key) (upper.member? key) := by
  obtain ⟨inner, hinner⟩ := isTable_iff.mp hlower
  cases hnested with
  | leaf hleaf => exact absurd hupper hleaf
  | @table entries hdistinct _ =>
      rw [overlay_table hinner, member?_of_opened rfl, member?_of_opened hinner,
        member?_of_opened rfl, lookup_overlayEntries hdistinct]

theorem Nested.of_at? {v own : Value} (h : v.Nested) {path : List Scalar}
    (hown : v.at? path = some own) : own.Nested := by
  induction path generalizing v with
  | nil =>
      cases hown
      exact h
  | cons key path ih =>
      obtain ⟨inner, hinner, hbelow⟩ := Option.bind_eq_some_iff.mp hown
      refine ih ?_ hbelow
      cases h with
      | leaf hleaf => cases hinner.symm.trans (member?_eq_none hleaf key)
      | table hdistinct hentries => exact Nested.of_lookup (.table hdistinct hentries) hinner

theorem isSome_overlay? {lower upper : Option Value} :
    (overlay? lower upper).isSome ↔ lower.isSome ∨ upper.isSome := by
  cases lower <;> cases upper <;> simp

theorem Nested.mergedAlong {upper : Value} (h : upper.Nested) (lower : Value)
    (path : List Scalar) : MergedAlong lower upper (lower.overlay upper) path where
  replaced own hown hnot := by
    rw [at?_overlay h (not_hides_of_at? hown), hown]
    cases hold : lower.at? path with
    | none => rfl
    | some old =>
        exact congrArg some (overlay_of_not_tables fun hboth => hnot ⟨hboth.1, old, hold, hboth.2⟩)
  united old own hold hown hlower hupper := by
    refine ⟨old.overlay own, ?_, isTable_overlay old hupper, fun key => ?_⟩
    · rw [at?_overlay h (not_hides_of_at? hown), hold, hown, overlay?_some_some]
    · rw [member?_overlay hlower hupper (h.of_at? hown), isSome_overlay?]
  hidden _ hhides := at?_overlay_of_hides h hhides
  kept hnone hhides := by
    rw [at?_overlay h hhides, hnone, overlay?_none_right]

/-- A nested table laid over another is told by what both hold along each path, and is open
for it as it is. A table over itself is itself, and an empty one changes nothing. -/
theorem mergedAlong_overlayEntries {lower upper : List (Scalar × Value)}
    (hlower : Nested (.table lower)) (hupper : Nested (.table upper)) :
    openEntries? lower upper = some upper ∧
      (∀ path, MergedAlong (table lower) (table upper)
        (table (overlayEntries lower upper)) path) ∧
      overlayEntries lower lower = lower ∧ overlayEntries [] upper = upper ∧
      overlayEntries lower [] = lower := by
  have hempty := overlayEntries_nil_left (nested_table_iff.mp hupper).1
  refine ⟨openEntries_eq hupper lower, ?_, ?_, hempty, rfl⟩
  · intro path
    have hmerged := hupper.mergedAlong (table lower) path
    rw [overlay_table rfl] at hmerged
    exact hmerged
  · have hself := hlower.overlay_self
    rw [overlay_table rfl] at hself
    exact Value.table.inj hself

/-- Tables of which each holds a table where the other one holds something else. -/
def crossedLower : List (Scalar × Value) :=
  [(.str "a", .record [("x", .int 1), ("y", .record [("z", .int 2)])]), (.int 3, .str "b"),
    (.str "c", .record [("k", .list [])])]

def crossedUpper : List (Scalar × Value) :=
  [(.str "c", .record [("m", .null)]),
    (.str "a", .record [("y", .int 5), ("x", .record [("w", .int 1)])]), (.str "d", .int 4)]

/-- A table hides what the lower one holds behind the value that it replaces, and the other way
round; tables under one key are united. -/
theorem mergedAlong_overlayEntries_crossed :
    let merged := overlayEntries crossedLower crossedUpper
    merged = [(.str "a", .record [("x", .record [("w", .int 1)]), ("y", .int 5)]),
        (.int 3, .str "b"), (.str "c", .record [("k", .list []), ("m", .null)]),
        (.str "d", .int 4)] ∧
      (table merged).at? [.str "a", .str "x", .str "w"] = some (.int 1) ∧
      (table merged).at? [.str "a", .str "y", .str "z"] = none ∧
      (table merged).at? [.str "c", .str "k"] = some (.list []) ∧
      overlayEntries crossedLower crossedLower = crossedLower := by
  intro merged
  have hlower : Nested (.table crossedLower) := by decide
  have hupper : Nested (.table crossedUpper) := by decide
  obtain ⟨-, hpaths, hself, -, -⟩ := mergedAlong_overlayEntries hlower hupper
  refine ⟨by decide +kernel, ?_, ?_, ?_, hself⟩
  · exact (hpaths _).replaced _ rfl (by decide)
  · exact (hpaths _).hidden rfl (by decide)
  · exact (hpaths _).kept rfl (by decide)

end Remap.Value
