import Remap.Proofs.Chain
import Remap.Settings.Check

/-!
# Laws of checks

When several checks succeed together: `Check.both` when either does, `Check.all` when each does.
What a group or a list then consists of has passed the checks of its members
(`exists_of_setting`, `exists_of_items`).
-/

namespace Remap

variable {α β : Type}

namespace Check

theorem under_eq_ok_iff {step : Step} {check : Check α} {a : α} :
    check.under step = .ok a ↔ check = .ok a :=
  mapError_eq_ok_iff

theorem both_eq_ok_iff {left : Check α} {right : Check β} {found : α × β} :
    both left right = .ok found ↔ left = .ok found.1 ∧ right = .ok found.2 := by
  cases left <;> cases right <;> simp [both, Prod.ext_iff]

theorem all_map_ok (found : List α) : all (found.map .ok) = .ok found := by
  induction found with
  | nil => rfl
  | cons a rest ih =>
      rw [List.map_cons, all, ih]
      rfl

theorem all_eq_ok_iff {checks : List (Check α)} {found : List α} :
    all checks = .ok found ↔ checks = found.map .ok := by
  constructor
  · intro h
    induction checks generalizing found with
    | nil =>
        cases h
        rfl
    | cons check rest ih =>
        rw [all] at h
        cases hboth : both check (all rest) with
        | error refusal =>
            rw [hboth] at h
            cases h
        | ok pair =>
            rw [hboth] at h
            cases h
            obtain ⟨hcheck, hrest⟩ := both_eq_ok_iff.mp hboth
            rw [List.map_cons, hcheck, ih hrest]
  · rintro rfl
    exact all_map_ok found

/-! ## Members -/

theorem setting_of_lookup {entries : List (Scalar × Value)} {name : String} {value : Value}
    (h : entries.lookup (.str name) = some value) (default : α) (check : Value → Check α) :
    setting entries name default check = (check value).under (.key name) := by
  rw [setting, h]

theorem exists_of_setting {entries : List (Scalar × Value)} {name : String} {default a : α}
    {check : Value → Check α} (h : setting entries name default check = .ok a) :
    a = default ∨ ∃ value, check value = .ok a := by
  unfold setting at h
  split at h
  · next value _ => exact .inr ⟨value, under_eq_ok_iff.mp h⟩
  · cases h
    exact .inl rfl

theorem exists_of_items {check : Value → Check α} {value : Value} {found : List α}
    (h : items check value = .ok found) : ∀ a ∈ found, ∃ item, check item = .ok a := by
  have hall {values : List Value}
      (hvalues : all (values.mapIdx fun i item => (check item).under (.item i)) = .ok found) :
      ∀ a ∈ found, ∃ item, check item = .ok a := by
    intro a ha
    rw [all_eq_ok_iff] at hvalues
    have hmem : (.ok a : Check α) ∈ found.map .ok := List.mem_map.mpr ⟨a, ha, rfl⟩
    rw [← hvalues] at hmem
    obtain ⟨i, _, hitem⟩ := List.mem_mapIdx.mp hmem
    exact ⟨_, under_eq_ok_iff.mp hitem⟩
  unfold items at h
  split at h
  · exact hall h
  · exact hall h
  · exact hall h
  · cases h

theorem items_list {check : Value → Check α} {write : α → Value} {found : List α}
    (h : ∀ a ∈ found, check (write a) = .ok a) :
    items check (.list (found.map write)) = .ok found := by
  refine all_eq_ok_iff.mpr (List.ext_getElem (by simp) fun i _ _ => ?_)
  simp [h, under]

theorem texts_record (entries : List (String × String)) :
    texts (.record (entries.map fun (key, entry) => (key, .str entry))) =
      .ok (Assoc.ofList entries) := by
  have hall : all (entries.map fun (key, entry) =>
      both ((text (.str key)).under (.key "[key]") |>.under (.key key))
        ((text (.str entry)).under (.key key))) = .ok entries := by
    rw [all_eq_ok_iff]
    rfl
  simp only [texts, Value.record, Value.opened, List.map_map]
  exact congrArg (Except.map Assoc.ofList) hall

end Check

end Remap
