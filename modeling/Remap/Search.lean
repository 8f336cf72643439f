/-!
# Binary search

`partitionPoint xs p` is the length of the longest prefix on which `p` holds, provided that `p`
never holds again once it has failed. It halves an interval of candidates, so it looks at
logarithmically many elements. `lt_partitionPoint_iff` pins it down: below it `p` holds, from it
on `p` fails.
-/

namespace Remap

variable {α : Type u}

/-- Narrows `[low, high)` to the first index where `p` fails; `steps` bounds the halvings. -/
def narrow (xs : Array α) (p : α → Bool) : Nat → Nat → Nat → Nat
  | 0, low, _ => low
  | steps + 1, low, high =>
    let middle := (low + high) / 2
    match xs[middle]? with
    | some x =>
      if high ≤ low then low
      else if p x then narrow xs p steps (middle + 1) high
      else narrow xs p steps low middle
    | none => low

def partitionPoint (xs : Array α) (p : α → Bool) : Nat :=
  narrow xs p (xs.size.log2 + 1) 0 xs.size

/-- Once `p` has failed it does not hold again. -/
def Partitioned (xs : Array α) (p : α → Bool) : Prop :=
  ∀ i j (hi : i < xs.size) (hj : j < xs.size), i ≤ j → p xs[j] = true → p xs[i] = true

/-- What narrowing keeps: `p` holds before `low` and fails from `high` on. -/
def Brackets (xs : Array α) (p : α → Bool) (low high : Nat) : Prop :=
  low ≤ high ∧ high ≤ xs.size ∧ (∀ i (h : i < xs.size), i < low → p xs[i] = true) ∧
    (∀ i (h : i < xs.size), high ≤ i → p xs[i] = false)

theorem brackets_narrow {xs : Array α} {p : α → Bool} (hp : Partitioned xs p)
    (steps low high : Nat) (h : Brackets xs p low high) (hs : high - low < Nat.pow 2 steps) :
    Brackets xs p (narrow xs p steps low high) (narrow xs p steps low high) := by
  induction steps generalizing low high with
  | zero =>
    have : high = low := by
      have := h.1
      have : high - low < 1 := hs
      omega
    subst this
    exact h
  | succ steps ih =>
    obtain ⟨hle, hsize, hbelow, habove⟩ := h
    have hpow : Nat.pow 2 (steps + 1) = Nat.pow 2 steps * 2 := rfl
    rw [hpow] at hs
    simp only [narrow]
    split
    · next x hx =>
      obtain ⟨hm, rfl⟩ := Array.getElem?_eq_some_iff.1 hx
      split
      · have : high = low := by omega
        subst this
        exact ⟨hle, hsize, hbelow, habove⟩
      · split
        · next hpx =>
          refine ih _ _ ⟨by omega, hsize, fun i hi hlt => ?_, habove⟩ (by omega)
          exact hp i _ hi hm (by omega) hpx
        · next hpx =>
          refine ih _ _ ⟨by omega, by omega, hbelow, fun i hi hle' => ?_⟩ (by omega)
          exact Bool.eq_false_iff.2 fun hpi => hpx (hp _ i hm hi hle' hpi)
    · next hx =>
      have hm := Array.getElem?_eq_none_iff.1 hx
      have : high = low := by omega
      subst this
      exact ⟨hle, hsize, hbelow, habove⟩

theorem brackets_partitionPoint {xs : Array α} {p : α → Bool} (hp : Partitioned xs p) :
    Brackets xs p (partitionPoint xs p) (partitionPoint xs p) :=
  brackets_narrow hp _ _ _
    ⟨Nat.zero_le _, Nat.le_refl _, fun _ _ h => absurd h (Nat.not_lt_zero _),
      fun _ hi hle => absurd hi (Nat.not_lt_of_le hle)⟩
    (by rw [Nat.sub_zero]; exact Nat.lt_log2_self)

theorem partitionPoint_le_size {xs : Array α} {p : α → Bool} (hp : Partitioned xs p) :
    partitionPoint xs p ≤ xs.size := (brackets_partitionPoint hp).2.1

/-- Below the partition point the predicate holds, from it on it fails. -/
theorem lt_partitionPoint_iff {xs : Array α} {p : α → Bool} (hp : Partitioned xs p) {i : Nat}
    (hi : i < xs.size) : i < partitionPoint xs p ↔ p xs[i] = true := by
  obtain ⟨_, _, hbelow, habove⟩ := brackets_partitionPoint hp
  refine ⟨hbelow i hi, fun h => ?_⟩
  by_cases hlt : i < partitionPoint xs p
  · exact hlt
  · rw [habove i hi (by omega)] at h
    cases h

end Remap
