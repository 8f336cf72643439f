import Remap.Proofs.Chain
import Remap.Value.Merge

/-!
# Laws of merging

What is under a key of merged tables depends on what each of them holds there, and on nothing
else (`lookup_overlayEntries`): the upper value if there is one, merged with the lower one where
both are tables. The entries under other keys are merged as if those under the key were not
there (`without_overlayEntries`).

An upper value that is opened along a lower one has its table in sight wherever the lower one is
a table too (`exists_of_openedAlong`).
-/

namespace Remap.Value

/-- What comes of the values of two layers, either of which may hold none. -/
def overlay? : Option Value → Option Value → Option Value
  | none, upper => upper
  | some lower, none => some lower
  | some lower, some upper => some (lower.overlay upper)

@[simp] theorem overlay?_none_left (upper : Option Value) : overlay? none upper = upper := rfl

@[simp] theorem overlay?_none_right (lower : Option Value) : overlay? lower none = lower := by
  cases lower <;> rfl

@[simp] theorem overlay?_some_some (lower upper : Value) :
    overlay? (some lower) (some upper) = some (lower.overlay upper) := rfl

theorem isTable_iff {v : Value} : v.isTable ↔ ∃ entries, v.opened = table entries := by
  unfold isTable
  cases v.opened <;> simp

theorem overlay_of_not_isTable (lower : Value) {upper : Value} (h : ¬ upper.isTable) :
    lower.overlay upper = upper := by
  cases upper with
  | table entries => exact absurd rfl h
  | _ => rfl

theorem overlay_of_lower_not_isTable {lower : Value} (h : ¬ lower.isTable) (upper : Value) :
    lower.overlay upper = upper := by
  cases upper with
  | table entries =>
      rw [overlay]
      split
      · next inner hopened => exact absurd (isTable_iff.mpr ⟨inner, hopened⟩) h
      · rfl
  | _ => rfl

theorem overlay_table {lower : Value} {entries : List (Scalar × Value)}
    (h : lower.opened = table entries) (upper : List (Scalar × Value)) :
    lower.overlay (table upper) = table (overlayEntries entries upper) := by
  rw [overlay, h]

theorem isTable_overlay (lower : Value) {upper : Value} (h : upper.isTable) :
    (lower.overlay upper).isTable := by
  cases upper with
  | table entries =>
      rw [overlay]
      split <;> rfl
  | _ => exact h

/-! ## Keys of merged tables -/

theorem lookup_overlayEntries {upper : List (Scalar × Value)} (h : Assoc.Distinct upper)
    (lower : List (Scalar × Value)) (key : Scalar) :
    (overlayEntries lower upper).lookup key = overlay? (lower.lookup key) (upper.lookup key) := by
  induction upper generalizing lower with
  | nil => simp [overlayEntries]
  | cons entry rest ih =>
      obtain ⟨own, value⟩ := entry
      obtain ⟨hown, hrest⟩ := List.pairwise_cons.mp h
      rw [overlayEntries, ih hrest, List.lookup_cons]
      by_cases hkey : key == own
      · -- The key does not come up again behind.
        have hbehind : rest.lookup key = none := by
          refine List.lookup_eq_none_iff.mpr fun other hother => ?_
          rw [bne, BEq.congr_left hkey, BEq.comm, hown other hother]
          rfl
        rw [Assoc.lookup_congr _ hkey, Assoc.lookup_put_self, hbehind, overlay?_none_right, hkey,
          Assoc.lookup_congr lower hkey]
        cases lower.lookup own <;> rfl
      · have hkey := Bool.eq_false_iff.mpr hkey
        rw [Assoc.lookup_put_of_ne _ _ hkey, hkey]

theorem distinct_overlayEntries {lower : List (Scalar × Value)} (h : Assoc.Distinct lower)
    (upper : List (Scalar × Value)) : Assoc.Distinct (overlayEntries lower upper) := by
  induction upper generalizing lower with
  | nil => exact h
  | cons entry rest ih =>
      rw [overlayEntries]
      exact ih (Assoc.distinct_put h _ _)

theorem without_overlayEntries (lower upper : List (Scalar × Value)) (key : Scalar) :
    Assoc.without (overlayEntries lower upper) key =
      overlayEntries (Assoc.without lower key) (Assoc.without upper key) := by
  induction upper generalizing lower with
  | nil => rfl
  | cons entry rest ih =>
      obtain ⟨own, value⟩ := entry
      rw [overlayEntries, ih]
      by_cases hkey : key == own
      · have hcons : Assoc.without ((own, value) :: rest) key = Assoc.without rest key := by
          simp [Assoc.without, hkey]
        rw [Assoc.without_put_of_beq _ _ hkey, hcons]
      · have hkey := Bool.eq_false_iff.mpr hkey
        have hcons : Assoc.without ((own, value) :: rest) key =
            (own, value) :: Assoc.without rest key := by
          simp [Assoc.without, hkey]
        rw [Assoc.without_put_of_ne _ _ hkey, hcons, overlayEntries,
          Assoc.lookup_without lower hkey]

/-! ## Order of merged tables -/

/-- What becomes of an entry when a table is laid over it. -/
def laidUnder (upper : List (Scalar × Value)) (entry : Scalar × Value) : Scalar × Value :=
  (entry.1, match upper.lookup entry.1 with
    | some own => entry.2.overlay own
    | none => entry.2)

theorem laidUnder_of_lookup {upper : List (Scalar × Value)} {entry : Scalar × Value} {own : Value}
    (h : upper.lookup entry.1 = some own) :
    laidUnder upper entry = (entry.1, entry.2.overlay own) := by
  rw [laidUnder, h]

theorem laidUnder_of_lookup_eq_none {upper : List (Scalar × Value)} {entry : Scalar × Value}
    (h : upper.lookup entry.1 = none) : laidUnder upper entry = entry := by
  rw [laidUnder, h]

section

variable {lower rest : List (Scalar × Value)} {key : Scalar} {own : Value}

theorem laidUnder_cons_of_ne {entry : Scalar × Value} (h : (entry.1 == key) = false) :
    laidUnder ((key, own) :: rest) entry = laidUnder rest entry := by
  rw [laidUnder, List.lookup_cons, h]
  rfl

/-- The key of the first entry does not come up again behind it. -/
theorem lookup_eq_none_of_distinct (h : Assoc.Distinct ((key, own) :: rest)) {other : Scalar}
    (hother : other == key) : rest.lookup other = none := by
  refine List.lookup_eq_none_iff.mpr fun entry hentry => ?_
  rw [bne, BEq.congr_left hother, BEq.comm, (List.pairwise_cons.mp h).1 entry hentry]
  rfl

/-- Laying on a key that is not there leaves what is there as it is. -/
theorem map_laidUnder_of_new (h : ∀ entry ∈ lower, (key == entry.1) = false) :
    lower.map (laidUnder ((key, own) :: rest)) = lower.map (laidUnder rest) :=
  List.map_congr_left fun entry hentry =>
    laidUnder_cons_of_ne (by rw [BEq.comm]; exact h entry hentry)

/-- Laying on a key that is there is writing what becomes of its value. -/
theorem map_laidUnder_put (hlower : Assoc.Distinct lower)
    (hupper : Assoc.Distinct ((key, own) :: rest)) {old : Value}
    (hold : lower.lookup key = some old) :
    (Assoc.put lower key (old.overlay own)).map (laidUnder rest) =
      lower.map (laidUnder ((key, own) :: rest)) := by
  rw [Assoc.put_of_lookup hlower hold, List.map_map]
  refine List.map_congr_left fun entry hentry => ?_
  rw [Function.comp_apply]
  by_cases hkey : entry.1 == key
  · have hvalue : some entry.2 = some old := by
      rw [← Assoc.lookup_of_mem hlower hentry, ← hold, Assoc.lookup_congr lower hkey]
    cases hvalue
    have hlaid : ((key, own) :: rest).lookup entry.1 = some own := by
      rw [List.lookup_cons, hkey]
    rw [BEq.comm, if_pos hkey, laidUnder_of_lookup hlaid]
    exact laidUnder_of_lookup_eq_none (lookup_eq_none_of_distinct hupper hkey)
  · rw [BEq.comm, if_neg hkey, laidUnder_cons_of_ne (Bool.eq_false_iff.mpr hkey)]

end

/-- Merged tables hold the keys of the lower one in their order, and then those that only the
upper one has. -/
theorem overlayEntries_eq_append {lower upper : List (Scalar × Value)}
    (hlower : Assoc.Distinct lower) (hupper : Assoc.Distinct upper) :
    overlayEntries lower upper = lower.map (laidUnder upper) ++
      upper.filter fun entry => (lower.lookup entry.1).isNone := by
  induction upper generalizing lower with
  | nil => exact (List.append_nil _).trans (List.map_id' lower) |>.symm
  | cons first rest ih =>
      obtain ⟨key, own⟩ := first
      obtain ⟨hfirst, hrest⟩ := List.pairwise_cons.mp hupper
      have hfilter (merged : Value) : (rest.filter fun entry =>
          ((Assoc.put lower key merged).lookup entry.1).isNone) =
            rest.filter fun entry => (lower.lookup entry.1).isNone :=
        List.filter_congr fun entry hentry => by
          rw [Assoc.lookup_put_of_ne lower merged (hfirst entry hentry)]
      rw [overlayEntries, ih (Assoc.distinct_put hlower _ _) hrest, hfilter, List.filter_cons]
      cases hold : lower.lookup key with
      | none =>
          have hnew : ∀ entry ∈ lower, (key == entry.1) = false := fun entry hentry => by
            simpa [bne] using List.lookup_eq_none_iff.mp hold entry hentry
          have hown : laidUnder rest (key, own) = (key, own) :=
            laidUnder_of_lookup_eq_none (lookup_eq_none_of_distinct hupper BEq.rfl)
          rw [Assoc.put_of_forall_ne hnew, List.map_append, List.map_singleton, hown,
            map_laidUnder_of_new hnew, List.append_assoc]
          rfl
      | some old =>
          rw [map_laidUnder_put hlower hupper hold]
          rfl

/-! ## Opening -/

/-- Whether `upper` is `value` opened along what is under a key, if anything is. -/
def OpensAt (lower : List (Scalar × Value)) (key : Scalar) (value upper : Value) : Prop :=
  match lower.lookup key with
  | some old => openedAlong? old value = some upper
  | none => value = upper

theorem exists_of_openEntries {lower given opened : List (Scalar × Value)}
    (h : openEntries? lower given = some opened) {key : Scalar} {upper : Value}
    (hupper : opened.lookup key = some upper) :
    ∃ entry ∈ given, OpensAt lower key entry.2 upper := by
  unfold openEntries? openEntriesBy? at h
  induction given generalizing opened with
  | nil =>
      cases h
      cases hupper
  | cons entry rest ih =>
      obtain ⟨own, value⟩ := entry
      rw [List.mapM_cons] at h
      obtain ⟨first, hfirst, h⟩ := Option.bind_eq_some_iff.mp h
      obtain ⟨others, hothers, h⟩ := Option.bind_eq_some_iff.mp h
      cases h
      have hbehind (hlookup : others.lookup key = some upper) :
          ∃ entry ∈ (own, value) :: rest, OpensAt lower key entry.2 upper := by
        obtain ⟨found, hfound, hopens⟩ := ih hothers hlookup
        exact ⟨found, List.mem_cons_of_mem _ hfound, hopens⟩
      dsimp only at hfirst
      rw [List.lookup_cons] at hupper
      split at hfirst
      · next old hold =>
          obtain ⟨openedValue, hopened, heq⟩ := Option.map_eq_some_iff.mp hfirst
          cases heq
          split at hupper
          · next hkey =>
              cases hupper
              refine ⟨(own, value), List.mem_cons_self, ?_⟩
              rw [OpensAt, Assoc.lookup_congr lower hkey, hold]
              exact hopened
          · exact hbehind hupper
      · next hnone =>
          cases hfirst
          split at hupper
          · next hkey =>
              cases hupper
              refine ⟨(own, value), List.mem_cons_self, ?_⟩
              rw [OpensAt, Assoc.lookup_congr lower hkey, hnone]
          · exact hbehind hupper

theorem map_fst_of_openEntriesBy {opened? : Value → Value → Option Value}
    {lower given opened : List (Scalar × Value)}
    (h : openEntriesBy? opened? lower given = some opened) :
    given.map Prod.fst = opened.map Prod.fst := by
  refine map_fst_of_mapM (fun entry mapped hmapped => ?_) h
  dsimp only at hmapped
  split at hmapped
  · obtain ⟨own, -, rfl⟩ := Option.map_eq_some_iff.mp hmapped
    rfl
  · cases hmapped
    rfl

/-- A value that is opened along a table shows its table, if it is one, with the keys it had. -/
theorem exists_of_openedAlong {old value upper : Value} (h : openedAlong? old value = some upper)
    (hold : old.isTable) (hupper : upper.isTable) :
    ∃ entries inner, value.opened = table inner ∧ upper = table entries ∧
      inner.map Prod.fst = entries.map Prod.fst := by
  obtain ⟨entries, hentries⟩ := isTable_iff.mp hold
  unfold openedAlong? openedWithin? at h
  split at h
  · next inner _ hinner =>
      split at h
      · cases h
      · obtain ⟨opened, hopened, heq⟩ := Option.map_eq_some_iff.mp h
        cases heq
        exact ⟨_, _, hinner, rfl, map_fst_of_openEntriesBy hopened⟩
  · next hneither =>
      cases h
      obtain ⟨inner, hinner⟩ := isTable_iff.mp hupper
      exact absurd hinner (hneither entries inner hentries)

end Remap.Value
