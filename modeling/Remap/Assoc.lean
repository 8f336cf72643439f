/-!
# Tables in order of insertion

A table is a list of entries without two equal keys. Writing to a key that is present keeps its
place, and the key as it was first written; a new key goes to the end. Looking up is
`List.lookup`; `lookup_put_self` and `lookup_put_of_ne` say what a write does to it.

A list of entries without two equal keys is the table of its own entries
(`ofList_of_distinct`).
-/

namespace Remap.Assoc

variable {κ : Type u} {β : Type v} [BEq κ]

def put : List (κ × β) → κ → β → List (κ × β)
  | [], k, v => [(k, v)]
  | (key, old) :: rest, k, v =>
    if k == key then (key, v) :: rest else (key, old) :: put rest k v

/-- The table that holds the last value written to each key. -/
def ofList (entries : List (κ × β)) : List (κ × β) :=
  entries.foldl (fun table entry => put table entry.1 entry.2) []

theorem lookup_put_self [ReflBEq κ] (entries : List (κ × β)) (k : κ) (v : β) :
    (put entries k v).lookup k = some v := by
  induction entries with
  | nil => simp [put]
  | cons entry rest ih =>
    obtain ⟨key, old⟩ := entry
    simp only [put]
    split
    · next h => simp [List.lookup_cons, h]
    · next h => simp [List.lookup_cons, Bool.eq_false_iff.2 h, ih]

theorem lookup_put_of_ne [EquivBEq κ] (entries : List (κ × β)) {k other : κ} (v : β)
    (h : (other == k) = false) : (put entries k v).lookup other = entries.lookup other := by
  induction entries with
  | nil => simp [put, List.lookup_cons, h]
  | cons entry rest ih =>
    obtain ⟨key, old⟩ := entry
    simp only [put]
    split
    · next hk =>
      have : (other == key) = false := by rw [← BEq.congr_right hk]; exact h
      simp [List.lookup_cons, this]
    · simp only [List.lookup_cons]
      split
      · rfl
      · exact ih

theorem lookup_congr [EquivBEq κ] (entries : List (κ × β)) {k k' : κ} (h : k == k') :
    entries.lookup k = entries.lookup k' := by
  induction entries with
  | nil => rfl
  | cons entry rest ih =>
    obtain ⟨key, value⟩ := entry
    simp only [List.lookup_cons, BEq.congr_left h, ih]

theorem exists_mem_of_lookup {entries : List (κ × β)} {k : κ} {v : β}
    (h : entries.lookup k = some v) : ∃ key, (key, v) ∈ entries := by
  induction entries with
  | nil => cases h
  | cons entry rest ih =>
    obtain ⟨key, value⟩ := entry
    rw [List.lookup_cons] at h
    split at h
    · cases h
      exact ⟨key, List.mem_cons_self⟩
    · obtain ⟨own, hown⟩ := ih h
      exact ⟨own, List.mem_cons_of_mem _ hown⟩

/-- The last entry with a key is the one that a table of entries holds under it. -/
theorem lookup_ofList [EquivBEq κ] (entries : List (κ × β)) (k : κ) :
    (ofList entries).lookup k = (entries.filter (k == ·.1)).getLast?.map Prod.snd := by
  suffices hfold : ∀ table : List (κ × β),
      (entries.foldl (fun table entry => put table entry.1 entry.2) table).lookup k =
        ((entries.filter (k == ·.1)).getLast?.map Prod.snd).or (table.lookup k) by
    rw [ofList, hfold, List.lookup_nil, Option.or_none]
  intro table
  induction entries generalizing table with
  | nil => rfl
  | cons entry rest ih =>
    rw [List.foldl_cons, ih]
    by_cases hkey : k == entry.1
    · rw [List.filter_cons, if_pos hkey, List.getLast?_cons, lookup_congr _ hkey, lookup_put_self]
      cases (rest.filter (k == ·.1)).getLast? <;> rfl
    · rw [List.filter_cons, if_neg hkey, lookup_put_of_ne _ _ (Bool.eq_false_iff.mpr hkey)]

/-! ## Entries without one key -/

/-- The entries under other keys than `k`. -/
def without (entries : List (κ × β)) (k : κ) : List (κ × β) :=
  entries.filter fun entry => !(k == entry.1)

theorem lookup_without [EquivBEq κ] (entries : List (κ × β)) {k other : κ}
    (h : (k == other) = false) : (without entries k).lookup other = entries.lookup other := by
  induction entries with
  | nil => rfl
  | cons entry rest ih =>
    obtain ⟨key, value⟩ := entry
    by_cases hkey : k == key
    · have hother : (other == key) = false := by
        rw [← BEq.congr_right hkey, BEq.comm]
        exact h
      simpa [without, List.lookup_cons, hkey, hother] using ih
    · simp only [without, List.filter_cons, Bool.eq_false_iff.mpr hkey, Bool.not_false, if_true,
        List.lookup_cons]
      split
      · rfl
      · exact ih

theorem without_put_of_beq [EquivBEq κ] (entries : List (κ × β)) {k other : κ} (v : β)
    (h : k == other) : without (put entries other v) k = without entries k := by
  induction entries with
  | nil => simp [put, without, h]
  | cons entry rest ih =>
    obtain ⟨key, old⟩ := entry
    by_cases hother : other == key
    · have hkey : k == key := by
        rw [← BEq.congr_right hother]
        exact h
      simp [put, without, hkey, hother]
    · by_cases hkey : k == key
      · simpa [put, without, hkey, hother] using ih
      · simpa [put, without, hkey, hother] using ih

theorem without_put_of_ne [EquivBEq κ] (entries : List (κ × β)) {k other : κ} (v : β)
    (h : (k == other) = false) :
    without (put entries other v) k = put (without entries k) other v := by
  induction entries with
  | nil => simp [put, without, h]
  | cons entry rest ih =>
    obtain ⟨key, old⟩ := entry
    by_cases hother : other == key
    · have hkey : (k == key) = false := by
        rw [← BEq.congr_right hother]
        exact h
      simp [put, without, hkey, hother]
    · by_cases hkey : k == key
      · simpa [put, without, hkey, hother] using ih
      · simpa [put, without, hkey, hother] using ih

/-! ## Distinct keys -/

/-- Whether no two entries have equal keys. -/
def Distinct (entries : List (κ × β)) : Prop :=
  entries.Pairwise fun a b => (b.1 == a.1) = false

theorem put_of_forall_ne {entries : List (κ × β)} {k : κ}
    (h : ∀ entry ∈ entries, (k == entry.1) = false) (v : β) :
    put entries k v = entries ++ [(k, v)] := by
  induction entries with
  | nil => rfl
  | cons entry rest ih =>
    obtain ⟨hentry, hrest⟩ := List.forall_mem_cons.mp h
    simp [put, hentry, ih hrest]

theorem lookup_of_mem [EquivBEq κ] {entries : List (κ × β)} (h : Distinct entries)
    {entry : κ × β} (hentry : entry ∈ entries) : entries.lookup entry.1 = some entry.2 := by
  induction entries with
  | nil => cases hentry
  | cons first rest ih =>
    obtain ⟨hfirst, hrest⟩ := List.pairwise_cons.mp h
    rcases List.mem_cons.mp hentry with rfl | hentry
    · rw [List.lookup_cons, BEq.rfl]
    · rw [List.lookup_cons, hfirst entry hentry]
      exact ih hrest hentry

/-- A write under a key that is present replaces its value where it stands. -/
theorem put_of_lookup [EquivBEq κ] {entries : List (κ × β)} (h : Distinct entries) {k : κ}
    {old : β} (hold : entries.lookup k = some old) (v : β) :
    put entries k v = entries.map fun entry => if k == entry.1 then (entry.1, v) else entry := by
  induction entries with
  | nil => cases hold
  | cons first rest ih =>
    obtain ⟨hfirst, hrest⟩ := List.pairwise_cons.mp h
    by_cases hkey : k == first.1
    · have hbehind :
          rest.map (fun entry => if k == entry.1 then (entry.1, v) else entry) = rest := by
        refine (List.map_congr_left fun entry hentry => ?_).trans (List.map_id rest)
        have hne : (k == entry.1) = false := by
          rw [BEq.congr_left hkey, BEq.comm]
          exact hfirst entry hentry
        rw [hne]
        rfl
      rw [List.map_cons, hbehind, put, if_pos hkey, if_pos hkey]
    · rw [List.lookup_cons, Bool.eq_false_iff.mpr hkey] at hold
      rw [List.map_cons, ← ih hrest hold, put, if_neg hkey, if_neg hkey]

theorem ofList_of_distinct {entries : List (κ × β)} (h : Distinct entries) :
    ofList entries = entries := by
  suffices hfold : ∀ table : List (κ × β), Distinct (table ++ entries) →
      entries.foldl (fun table entry => put table entry.1 entry.2) table = table ++ entries from
    hfold [] h
  intro table htable
  induction entries generalizing table with
  | nil => simp
  | cons entry rest ih =>
    have hnew : ∀ old ∈ table, (entry.1 == old.1) = false := fun old hold =>
      (List.pairwise_append.mp htable).2.2 old hold entry List.mem_cons_self
    rw [List.append_cons] at htable ⊢
    rw [List.foldl_cons, put_of_forall_ne hnew]
    exact ih (List.pairwise_cons.mp h).2 _ htable

theorem mem_put [LawfulBEq κ] {entries : List (κ × β)} {k : κ} {v : β} {entry : κ × β}
    (h : entry ∈ put entries k v) : entry = (k, v) ∨ entry ∈ entries := by
  induction entries with
  | nil => simpa [put] using h
  | cons first rest ih =>
    obtain ⟨key, old⟩ := first
    simp only [put] at h
    split at h
    · next heq =>
      obtain rfl := eq_of_beq heq
      rcases List.mem_cons.mp h with rfl | h
      · exact .inl rfl
      · exact .inr (List.mem_cons_of_mem _ h)
    · rcases List.mem_cons.mp h with rfl | h
      · exact .inr List.mem_cons_self
      · exact (ih h).imp_right (List.mem_cons_of_mem _)

/-- A write brings no key with it but its own. -/
theorem key_of_mem_put {entries : List (κ × β)} {k : κ} {v : β} {entry : κ × β}
    (h : entry ∈ put entries k v) : entry.1 = k ∨ ∃ old ∈ entries, old.1 = entry.1 := by
  induction entries with
  | nil => exact .inl (congrArg Prod.fst (List.mem_singleton.mp h))
  | cons first rest ih =>
    obtain ⟨key, old⟩ := first
    simp only [put] at h
    split at h
    · rcases List.mem_cons.mp h with rfl | h
      · exact .inr ⟨_, List.mem_cons_self, rfl⟩
      · exact .inr ⟨entry, List.mem_cons_of_mem _ h, rfl⟩
    · rcases List.mem_cons.mp h with rfl | h
      · exact .inr ⟨_, List.mem_cons_self, rfl⟩
      · exact (ih h).imp_right fun ⟨old, hold, heq⟩ => ⟨old, List.mem_cons_of_mem _ hold, heq⟩

theorem distinct_put {entries : List (κ × β)} (h : Distinct entries) (k : κ) (v : β) :
    Distinct (put entries k v) := by
  induction entries with
  | nil => exact List.pairwise_singleton _ _
  | cons first rest ih =>
    obtain ⟨key, old⟩ := first
    obtain ⟨hfirst, hrest⟩ := List.pairwise_cons.mp h
    simp only [put]
    split
    · exact List.pairwise_cons.mpr ⟨hfirst, hrest⟩
    · next hne =>
      refine List.pairwise_cons.mpr ⟨fun entry hentry => ?_, ih hrest⟩
      rcases key_of_mem_put hentry with heq | ⟨old, hold, heq⟩
      · rw [heq]
        exact Bool.eq_false_iff.mpr hne
      · rw [← heq]
        exact hfirst old hold

theorem distinct_ofList (entries : List (κ × β)) : Distinct (ofList entries) := by
  suffices hfold : ∀ table : List (κ × β), Distinct table →
      Distinct (entries.foldl (fun table entry => put table entry.1 entry.2) table) from
    hfold [] List.Pairwise.nil
  intro table htable
  induction entries generalizing table with
  | nil => exact htable
  | cons entry rest ih => exact ih _ (distinct_put htable entry.1 entry.2)

theorem mem_of_mem_ofList [LawfulBEq κ] {entries : List (κ × β)} {entry : κ × β}
    (h : entry ∈ ofList entries) : entry ∈ entries := by
  suffices hfold : ∀ table : List (κ × β),
      entry ∈ entries.foldl (fun table entry => put table entry.1 entry.2) table →
        entry ∈ table ∨ entry ∈ entries from
    (hfold [] h).resolve_left List.not_mem_nil
  intro table htable
  clear h
  induction entries generalizing table with
  | nil => exact .inl htable
  | cons first rest ih =>
    rcases ih _ htable with hmem | hmem
    · rcases mem_put hmem with rfl | hmem
      · exact .inr List.mem_cons_self
      · exact .inl hmem
    · exact .inr (List.mem_cons_of_mem _ hmem)

end Remap.Assoc
