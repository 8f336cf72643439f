import Remap.Search

/-!
# What stands at a partition point

Where a predicate fails for good along an array, the element at the partition
point is the first one to fail it, and the element just before it the last one
to satisfy it. Along a sorted array a predicate that passes from an element to
those before it fails for good (`partitioned_of_pairwise`).
-/

namespace Remap

variable {α : Type u}

/-- Past a partition point stands the first element to fail the predicate. -/
theorem getElem?_partitionPoint {xs : Array α} {p : α → Bool} (hp : Partitioned xs p) :
    xs[partitionPoint xs p]? = xs.toList.find? fun x => !p x := by
  by_cases hlt : partitionPoint xs p < xs.size
  · rw [Array.getElem?_eq_getElem hlt, eq_comm, List.find?_eq_some_iff_getElem]
    have hfail : ¬ p xs[partitionPoint xs p] = true := fun h =>
      absurd ((lt_partitionPoint_iff hp hlt).mpr h) (Nat.lt_irrefl _)
    refine ⟨by simpa using hfail, _, by simpa using hlt, by simp, fun i hi => ?_⟩
    have := (lt_partitionPoint_iff hp (Nat.lt_trans hi hlt)).mp hi
    simpa using this
  · rw [Array.getElem?_eq_none (Nat.le_of_not_lt hlt), eq_comm, List.find?_eq_none]
    intro x hx
    obtain ⟨i, hi, rfl⟩ := Array.mem_iff_getElem.mp (Array.mem_toList_iff.mp hx)
    have := (lt_partitionPoint_iff hp hi).mp (by omega)
    simpa using this

theorem forall_not_of_partitionPoint_eq_zero {xs : Array α} {p : α → Bool}
    (hp : Partitioned xs p) (h : partitionPoint xs p = 0) : ∀ x ∈ xs, ¬ p x = true := by
  intro x hx hpx
  obtain ⟨i, hi, rfl⟩ := Array.mem_iff_getElem.mp hx
  have := (lt_partitionPoint_iff hp hi).mpr hpx
  omega

theorem partitionPoint_eq_size {xs : Array α} {p : α → Bool} (h : ∀ x ∈ xs, p x) :
    partitionPoint xs p = xs.size := by
  have hp : Partitioned xs p := fun i _ hi _ _ _ => h _ (Array.getElem_mem hi)
  refine Nat.le_antisymm (partitionPoint_le_size hp) (Nat.le_of_not_lt fun hlt => ?_)
  have := (lt_partitionPoint_iff hp hlt).mpr (h _ (Array.getElem_mem hlt))
  exact absurd this (Nat.lt_irrefl _)

/-- Just before a partition point stands the last element to satisfy the
predicate. -/
theorem exists_getElem?_of_partitionPoint {xs : Array α} {p : α → Bool} (hp : Partitioned xs p)
    {n : Nat} (h : partitionPoint xs p = n + 1) :
    ∃ last, xs[n]? = some last ∧ p last = true ∧
      ∀ i (hi : i < xs.size), p xs[i] = true → i ≤ n := by
  have hn : n < xs.size := by
    have := partitionPoint_le_size hp
    omega
  refine ⟨xs[n], Array.getElem?_eq_getElem hn, (lt_partitionPoint_iff hp hn).mp (by omega), ?_⟩
  intro i hi hpi
  have := (lt_partitionPoint_iff hp hi).mpr hpi
  omega

/-- Along a sorted array a predicate that passes down holds up to some point and
then no more. -/
theorem partitioned_of_pairwise {r : α → α → Prop} {xs : Array α} {p : α → Bool}
    (hxs : xs.toList.Pairwise r) (hp : ∀ a b, r a b → p b → p a) : Partitioned xs p := by
  intro i j hi hj hij hpj
  rcases Nat.lt_or_eq_of_le hij with hlt | rfl
  · exact hp _ _ (List.pairwise_iff_getElem.mp hxs i j hi hj hlt) hpj
  · exact hpj

end Remap
