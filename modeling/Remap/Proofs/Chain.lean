/-!
# Chains of steps

When a chain of steps succeeds each of them does (`bind_eq_ok_iff`), and when a step is taken for
each member of a list it succeeds for each (`exists_of_mem_of_mapM`).
-/

namespace Remap

variable {α β : Type}

instance decidableEqExcept {ε : Type} [DecidableEq ε] [DecidableEq α] : DecidableEq (Except ε α)
  | .ok a, .ok b => decidable_of_iff (a = b) (by simp)
  | .error e, .error e' => decidable_of_iff (e = e') (by simp)
  | .ok _, .error _ | .error _, .ok _ => .isFalse (by simp)

theorem bind_eq_ok_iff {ε : Type} {first : Except ε α} {next : α → Except ε β} {b : β} :
    (first >>= next) = .ok b ↔ ∃ a, first = .ok a ∧ next a = .ok b := by
  cases first with
  | ok a =>
      constructor
      · intro h
        exact ⟨a, rfl, h⟩
      · rintro ⟨_, hfirst, h⟩
        cases hfirst
        exact h
  | error e =>
      constructor
      · intro h
        cases h
      · rintro ⟨_, hfirst, -⟩
        cases hfirst

theorem map_eq_ok_iff {ε : Type} {first : Except ε α} {f : α → β} {b : β} :
    first.map f = .ok b ↔ ∃ a, first = .ok a ∧ f a = b := by
  cases first <;> simp [Except.map]

@[simp] theorem mapError_ok {ε ε' : Type} (f : ε → ε') (a : α) :
    (.ok a : Except ε α).mapError f = .ok a := rfl

@[simp] theorem mapError_error {ε ε' : Type} (f : ε → ε') (e : ε) :
    (.error e : Except ε α).mapError f = .error (f e) := rfl

theorem mapError_eq_ok_iff {ε ε' : Type} {first : Except ε α} {f : ε → ε'} {a : α} :
    first.mapError f = .ok a ↔ first = .ok a := by
  cases first <;> simp

theorem mapError_eq_error_iff {ε ε' : Type} {first : Except ε α} {f : ε → ε'} {e' : ε'} :
    first.mapError f = .error e' ↔ ∃ e, first = .error e ∧ f e = e' := by
  cases first <;> simp

/-! ## One step for each member -/

theorem exists_of_mem_of_mapM {f : α → Option β} {list : List α} {found : List β}
    (h : list.mapM f = some found) : ∀ b ∈ found, ∃ a ∈ list, f a = some b := by
  induction list generalizing found with
  | nil =>
      cases h
      intro b hb
      cases hb
  | cons a rest ih =>
      rw [List.mapM_cons] at h
      obtain ⟨first, hfirst, h⟩ := Option.bind_eq_some_iff.mp h
      obtain ⟨others, hothers, h⟩ := Option.bind_eq_some_iff.mp h
      cases h
      intro b hb
      rcases List.mem_cons.mp hb with rfl | hb
      · exact ⟨a, List.mem_cons_self, hfirst⟩
      · obtain ⟨own, hown, heq⟩ := ih hothers b hb
        exact ⟨own, List.mem_cons_of_mem _ hown, heq⟩

theorem mapM_eq_some_self {f : α → Option α} {list : List α} (h : ∀ a ∈ list, f a = some a) :
    list.mapM f = some list := by
  induction list with
  | nil => rfl
  | cons a rest ih =>
      rw [List.mapM_cons, h a List.mem_cons_self, ih fun b hb => h b (List.mem_cons_of_mem _ hb)]
      rfl

/-- Entries keep their keys when their values are mapped. -/
theorem map_fst_of_mapM {κ : Type} {f : κ × α → Option (κ × β)}
    (hf : ∀ entry mapped, f entry = some mapped → mapped.1 = entry.1) {entries : List (κ × α)}
    {found : List (κ × β)} (h : entries.mapM f = some found) :
    entries.map Prod.fst = found.map Prod.fst := by
  induction entries generalizing found with
  | nil =>
      cases h
      rfl
  | cons entry rest ih =>
      rw [List.mapM_cons] at h
      obtain ⟨first, hfirst, h⟩ := Option.bind_eq_some_iff.mp h
      obtain ⟨others, hothers, h⟩ := Option.bind_eq_some_iff.mp h
      cases h
      rw [List.map_cons, List.map_cons, ih hothers, hf entry first hfirst]

end Remap
