import Mathlib.Data.List.Find
import Remap.Map.Mapping
import Remap.Proofs.Search

/-!
# The nearest element, by binary search and by going through all

`nearest?` halves a stably sorted array. This file ties it to a scan of the
list that was sorted: `nearestTo` keeps the elements on the side of the point
that the bias says and, of these, the ones as near to it as any; `earliest?`
takes the first of them that no other comes before. `nearest?_mergeSort` says
that the two agree.

Two facts carry it. Where a predicate fails for good along a sorted array, the
partition point is the first element that fails it (`getElem?_partitionPoint`);
and the first element of a stably sorted list to satisfy a predicate is the
earliest of all that satisfy it (`find?_mergeSort`). What ties along the order
is then told apart by the tie breaks alone (`earliest?_then`).
-/

namespace Remap

open Std

variable {α : Type u}

/-! ## Scans -/

/-- Whether something that compares so to a point lies on the side that the
bias says. -/
def Bias.admits : Bias → Ordering → Bool
  | .atOrBefore, o => o.isLE
  | .atOrAfter, o => o.isGE

/-- The elements on one side of a point that are as near to it as any other
there. `place` puts an element before, at or after the point. -/
def nearestTo (order : α → α → Ordering) (place : α → Ordering) (bias : Bias)
    (xs : List α) : List α :=
  let onSide := xs.filter fun x => bias.admits (place x)
  onSide.filter fun x => onSide.all fun y => bias.admits (order y x)

/-- The first of the elements that no other comes before. -/
def earliest? (order : α → α → Ordering) (xs : List α) : Option α :=
  xs.find? fun x => xs.all fun y => (order x y).isLE

theorem mem_nearestTo {order : α → α → Ordering} {place : α → Ordering} {bias : Bias}
    {xs : List α} {x : α} :
    x ∈ nearestTo order place bias xs ↔
      (x ∈ xs ∧ bias.admits (place x)) ∧
        ∀ y ∈ xs, bias.admits (place y) → bias.admits (order y x) := by
  simp only [nearestTo, List.mem_filter, List.all_eq_true, and_imp]

@[simp] theorem earliest?_nil (order : α → α → Ordering) : earliest? order [] = none := rfl

theorem earliest?_eq_some {order : α → α → Ordering} {xs : List α} {x : α}
    (h : earliest? order xs = some x) : x ∈ xs ∧ ∀ y ∈ xs, (order x y).isLE := by
  have hall := List.find?_some h
  exact ⟨List.mem_of_find?_eq_some h, fun y hy => List.all_eq_true.mp hall y hy⟩

/-! ## The earliest element -/

section

variable {order : α → α → Ordering} [TransCmp order]

theorem isLE_total (a b : α) : (order a b).isLE || (order b a).isLE := by
  cases h : order a b with
  | lt => rfl
  | eq => rfl
  | gt => simp [OrientedCmp.lt_of_gt h]

theorem pairwise_mergeSort_isLE (order : α → α → Ordering) [TransCmp order] (xs : List α) :
    (xs.mergeSort fun a b => (order a b).isLE).Pairwise fun a b => (order a b).isLE :=
  List.pairwise_mergeSort (fun _ _ _ => TransCmp.isLE_trans) isLE_total xs

theorem earliest?_cons_of_isLE {xs : List α} {a : α} (h : ∀ y ∈ xs, (order a y).isLE) :
    earliest? order (a :: xs) = some a := by
  rw [earliest?, List.find?_cons_of_pos]
  exact List.all_eq_true.mpr (List.forall_mem_cons.mpr ⟨ReflCmp.isLE_rfl, h⟩)

/-- An element that must stand behind the earliest changes nothing. -/
theorem earliest?_cons_of_gt {xs : List α} {a b : α} (hb : earliest? order xs = some b)
    (hab : order a b = .gt) : earliest? order (a :: xs) = some b := by
  have hmem := (earliest?_eq_some hb).1
  obtain ⟨hall, as, bs, hxs, has⟩ := List.find?_eq_some_iff_append.mp hb
  rw [List.all_eq_true] at hall
  rw [earliest?, List.find?_cons_of_neg, List.find?_eq_some_iff_append]
  · refine ⟨List.all_eq_true.mpr (List.forall_mem_cons.mpr ⟨?_, hall⟩), as, bs, hxs, ?_⟩
    · simp [OrientedCmp.lt_of_gt hab]
    · intro x hx
      have := has x hx
      simp_all
  · intro h
    have := List.all_eq_true.mp h b (List.mem_cons_of_mem _ hmem)
    simp [hab] at this

/-- Among some elements there is an earliest. -/
theorem exists_earliest? (order : α → α → Ordering) [TransCmp order] {xs : List α}
    (h : xs ≠ []) : ∃ x, earliest? order xs = some x := by
  induction xs with
  | nil => exact absurd rfl h
  | cons a xs ih =>
      by_cases hmin : ∀ y ∈ xs, (order a y).isLE
      · exact ⟨a, earliest?_cons_of_isLE hmin⟩
      · simp only [not_forall] at hmin
        obtain ⟨y, hy, hay⟩ := hmin
        obtain ⟨b, hb⟩ := ih (List.ne_nil_of_mem hy)
        refine ⟨b, earliest?_cons_of_gt hb ?_⟩
        have hgt : order a y = .gt := by simpa using hay
        exact OrientedCmp.gt_of_lt
          (TransCmp.lt_of_isLE_of_lt ((earliest?_eq_some hb).2 y hy) (OrientedCmp.lt_of_gt hgt))

/-- Where some element lies on the side of the point, some are nearest. -/
theorem nearestTo_ne_nil (order : α → α → Ordering) [TransCmp order] {place : α → Ordering}
    {bias : Bias} {xs : List α} {z : α} (hz : z ∈ xs) (hside : bias.admits (place z)) :
    nearestTo order place bias xs ≠ [] := by
  have hne : (xs.filter fun x => bias.admits (place x)) ≠ [] :=
    List.ne_nil_of_mem (List.mem_filter.mpr ⟨hz, hside⟩)
  suffices h : ∃ x ∈ xs.filter fun x => bias.admits (place x),
      ∀ y ∈ xs.filter fun x => bias.admits (place x), bias.admits (order y x) by
    obtain ⟨x, hx, hall⟩ := h
    exact List.ne_nil_of_mem (List.mem_filter.mpr ⟨hx, List.all_eq_true.mpr hall⟩)
  cases bias with
  | atOrBefore =>
      obtain ⟨x, hx⟩ := exists_earliest? (fun a b => order b a) hne
      exact ⟨x, earliest?_eq_some hx⟩
  | atOrAfter =>
      obtain ⟨x, hx⟩ := exists_earliest? order hne
      obtain ⟨hmem, hall⟩ := earliest?_eq_some hx
      exact ⟨x, hmem, fun y hy => OrientedCmp.isGE_of_isLE (hall y hy)⟩

/-- What a scan for the first of the nearest finds: an element on the side of the
point that none there is nearer than and that no other so near comes before; or
nothing, where no element lies on that side. -/
theorem earliest?_nearestTo (order tie : α → α → Ordering) [TransCmp order] [TransCmp tie]
    (place : α → Ordering)
    (bias : Bias) (xs : List α) :
    (∃ x ∈ xs, earliest? tie (nearestTo order place bias xs) = some x ∧ bias.admits (place x) ∧
        (∀ y ∈ xs, bias.admits (place y) → bias.admits (order y x)) ∧
        ∀ y ∈ xs, bias.admits (place y) → order y x = .eq → (tie x y).isLE) ∨
      (earliest? tie (nearestTo order place bias xs) = none ∧
        ∀ y ∈ xs, ¬ bias.admits (place y)) := by
  by_cases h : ∃ z ∈ xs, bias.admits (place z)
  · obtain ⟨z, hz, hside⟩ := h
    obtain ⟨x, hx⟩ := exists_earliest? tie (nearestTo_ne_nil order hz hside)
    obtain ⟨hmem, hfirst⟩ := earliest?_eq_some hx
    obtain ⟨⟨hxmem, hxside⟩, hnearest⟩ := mem_nearestTo.mp hmem
    refine Or.inl ⟨x, hxmem, hx, hxside, hnearest, fun y hy hyside heq => ?_⟩
    refine hfirst y (mem_nearestTo.mpr ⟨⟨hy, hyside⟩, fun w hw hwside => ?_⟩)
    rw [TransCmp.congr_right heq]
    exact hnearest w hw hwside
  · have hnone : ∀ y ∈ xs, ¬ bias.admits (place y) := fun y hy hside => h ⟨y, hy, hside⟩
    refine Or.inr ⟨?_, hnone⟩
    rw [nearestTo, List.filter_eq_nil_iff.mpr hnone]
    rfl

/-- The first element of a stably sorted list to satisfy a predicate. -/
theorem find?_mergeSort (p : α → Bool) (xs : List α) :
    (xs.mergeSort fun a b => (order a b).isLE).find? p = earliest? order (xs.filter p) := by
  induction xs with
  | nil => simp [earliest?]
  | cons a xs ih =>
      -- Sorting puts `a` between what must stand before it and all the rest.
      have htrans : ∀ a b c, (order a b).isLE → (order b c).isLE → (order a c).isLE :=
        fun _ _ _ => TransCmp.isLE_trans
      obtain ⟨before, after, hcons, hxs, hbefore⟩ := List.mergeSort_cons htrans isLE_total a xs
      have hsorted := pairwise_mergeSort_isLE order (a :: xs)
      rw [hcons] at hsorted ⊢
      rw [hxs] at ih
      cases hpa : p a with
      | false =>
          rw [List.filter_cons_of_neg (by simp [hpa]), ← ih]
          simp [hpa]
      | true =>
          rw [List.filter_cons_of_pos hpa]
          cases hfind : before.find? p with
          | some b =>
              have hlt : order a b = .gt := by
                simpa using hbefore b (List.mem_of_find?_eq_some hfind)
              rw [List.find?_append, hfind] at ih ⊢
              exact (earliest?_cons_of_gt ih.symm hlt).symm
          | none =>
              have hmin : ∀ y ∈ xs.filter p, (order a y).isLE := by
                intro y hy
                obtain ⟨hy, hpy⟩ := List.mem_filter.mp hy
                have hmem : y ∈ before ++ after := hxs ▸ List.mem_mergeSort.mpr hy
                rcases List.mem_append.mp hmem with h | h
                · exact absurd hpy (List.find?_eq_none.mp hfind y h)
                · exact (List.pairwise_cons.mp (List.pairwise_append.mp hsorted).2.1).1 y h
              rw [List.find?_append, hfind, List.find?_cons_of_pos hpa,
                earliest?_cons_of_isLE hmin]
              rfl

/-! ## Ties -/

/-- Of elements that tie breaks tell apart, the earliest is the one that the tie
breaks put first among those that the order alone puts first. -/
theorem earliest?_then (tie : α → α → Ordering) (xs : List α) :
    earliest? (fun a b => (order a b).then (tie a b)) xs =
      earliest? tie (xs.filter fun x => xs.all fun y => (order x y).isLE) := by
  simp only [earliest?, List.find?_filter]
  refine List.find?_congr fun x hx => ?_
  rw [Bool.eq_iff_iff]
  simp only [List.all_eq_true, decide_eq_true_eq, List.mem_filter, and_imp]
  constructor
  · intro h
    have hmin : ∀ y ∈ xs, (order x y).isLE := fun y hy =>
      Ordering.isLE_left_of_isLE_then (h y hy)
    refine ⟨hmin, fun y hy hymin => ?_⟩
    have heq : order x y = .eq := OrientedCmp.isLE_antisymm (hmin y hy) (hymin x hx)
    simpa [heq] using h y hy
  · rintro ⟨hmin, htie⟩ y hy
    rcases Ordering.isLE_iff_eq_lt_or_eq_eq.mp (hmin y hy) with hlt | heq
    · simp [hlt]
    · rw [heq]
      refine htie y hy fun z hz => ?_
      exact TransCmp.isLE_trans (by simp [OrientedCmp.eq_symm heq]) (hmin z hz)

/-- How elements lie relative to a point, in keeping with their order. -/
structure Places (order : α → α → Ordering) (place : α → Ordering) : Prop where
  isLE_of_isLE : ∀ {a b}, (order a b).isLE → (place b).isLE → (place a).isLE
  isLT_of_isLE : ∀ {a b}, (order a b).isLE → (place b).isLT → (place a).isLT

/-- Elements that are ordered by a key lie in keeping with it relative to any
key. -/
theorem Places.of_key {κ : Type v} [Ord κ] [TransOrd κ] (key : α → κ) (point : κ) :
    Places (fun a b => compare (key a) (key b)) (fun a => compare (key a) point) where
  isLE_of_isLE := TransCmp.isLE_trans
  isLT_of_isLE h hlt := by
    rw [Ordering.isLT_iff_eq_lt] at hlt ⊢
    exact TransCmp.lt_of_isLE_of_lt h hlt

/-! ## The binary search -/

instance transCmp_then {tie : α → α → Ordering} [TransCmp tie] :
    TransCmp fun a b => (order a b).then (tie a b) :=
  inferInstanceAs (TransCmp (compareLex order tie))

omit [TransCmp order] in
theorem mem_of_nearest?_eq_some {sorted : Array α} {place : α → Ordering} {bias : Bias} {x : α}
    (h : nearest? sorted order place bias = some x) : x ∈ sorted := by
  cases bias with
  | atOrAfter => exact Array.mem_of_getElem? h
  | atOrBefore =>
      simp only [nearest?] at h
      split at h
      · cases h
      · obtain ⟨last, -, hx⟩ := Option.bind_eq_some_iff.mp h
        exact Array.mem_of_getElem? hx

/-- The nearest at or before a point tie with any one of them. -/
theorem nearestTo_atOrBefore {place : α → Ordering} (hplace : Places order place) {xs : List α}
    {last : α} (hmem : last ∈ xs) (hlast : (place last).isLE)
    (hmax : ∀ x ∈ xs, (place x).isLE → (order x last).isLE) :
    nearestTo order place .atOrBefore xs =
      (xs.filter fun x => (order x last).isGE).filter fun x =>
        (xs.filter fun x => (order x last).isGE).all fun y => (order x y).isLE := by
  simp only [nearestTo, List.filter_filter]
  refine List.filter_congr fun x hx => ?_
  rw [Bool.eq_iff_iff]
  simp only [Bias.admits, List.all_eq_true, Bool.and_eq_true, List.mem_filter, and_imp]
  constructor
  · rintro ⟨hgreatest, hle⟩
    have heq : order x last = .eq :=
      OrientedCmp.isLE_antisymm (hmax x hx hle) (hgreatest last hmem hlast)
    refine ⟨fun y hy hge => ?_, by simp [heq]⟩
    exact TransCmp.isLE_trans (by simp [heq]) (OrientedCmp.isLE_of_isGE hge)
  · rintro ⟨hleast, hge⟩
    have hle : (order x last).isLE := hleast last hmem (by simp [ReflCmp.compare_self])
    refine ⟨fun y hy hyle => ?_, hplace.isLE_of_isLE hle hlast⟩
    exact TransCmp.isLE_trans (hmax y hy hyle) (OrientedCmp.isLE_of_isGE hge)

/-- In a list sorted by an order and tie breaks, the binary search finds what a
scan of the unsorted list finds. -/
theorem nearest?_mergeSort {tie : α → α → Ordering} [TransCmp tie] {place : α → Ordering}
    (hplace : Places order place) (bias : Bias) (xs : List α) :
    nearest? (xs.mergeSort fun a b => ((order a b).then (tie a b)).isLE).toArray order place bias =
      earliest? tie (nearestTo order place bias xs) := by
  have hsorted := pairwise_mergeSort_isLE (fun a b => (order a b).then (tie a b)) xs
  have hcut : ∀ q : α → Bool, (∀ a b, (order a b).isLE → q b → q a) →
      Partitioned (xs.mergeSort fun a b => ((order a b).then (tie a b)).isLE).toArray q :=
    fun q hq => partitioned_of_pairwise hsorted fun a b hab =>
      hq a b (Ordering.isLE_left_of_isLE_then hab)
  cases bias with
  | atOrAfter =>
      rw [nearest?, getElem?_partitionPoint (hcut _ fun _ _ => hplace.isLT_of_isLE),
        find?_mergeSort, earliest?_then]
      congr 1
      simp only [nearestTo, Bias.admits, Ordering.not_isLT_eq_isGE]
      simp only [@OrientedCmp.isGE_eq_isLE _ order]
  | atOrBefore =>
      have hle := hcut (fun x => (place x).isLE) fun _ _ => hplace.isLE_of_isLE
      simp only [nearest?]
      split
      · next hzero =>
          have hnone : ∀ x ∈ xs, ¬ (place x).isLE := fun x hx =>
            forall_not_of_partitionPoint_eq_zero hle hzero x (by simpa using hx)
          simp only [nearestTo, Bias.admits]
          rw [List.filter_eq_nil_iff.mpr hnone]
          rfl
      · next n hn =>
          obtain ⟨last, hget, hlast, hmax⟩ := exists_getElem?_of_partitionPoint hle hn
          obtain ⟨hsize, rfl⟩ := Array.getElem?_eq_some_iff.mp hget
          have hmem := List.mem_mergeSort.mp (Array.mem_def.mp (Array.getElem_mem hsize))
          rw [hget, Option.bind_eq_bind, Option.bind_some,
            getElem?_partitionPoint (hcut _ fun _ _ => ?_), find?_mergeSort, earliest?_then,
            nearestTo_atOrBefore hplace hmem hlast]
          · simp only [Ordering.not_isLT_eq_isGE]
          · intro x hx hxle
            have hx : x ∈ xs.mergeSort fun a b => ((order a b).then (tie a b)).isLE :=
              List.mem_mergeSort.mpr hx
            obtain ⟨i, hi, rfl⟩ := List.mem_iff_getElem.mp hx
            rcases Nat.lt_or_eq_of_le (hmax i (by simpa using hi) hxle) with hlt | rfl
            · exact Ordering.isLE_left_of_isLE_then
                (List.pairwise_iff_getElem.mp hsorted i n hi hsize hlt)
            · exact ReflCmp.isLE_rfl
          · simp only [Ordering.isLT_iff_eq_lt]
            exact fun hab hlt => TransCmp.lt_of_isLE_of_lt hab hlt

end

/-! ## Lookups within a part -/

theorem Bias.admits_then (bias : Bias) (o o' : Ordering) :
    bias.admits (o.then o') ↔ (o ≠ .eq ∧ bias.admits o) ∨ (o = .eq ∧ bias.admits o') := by
  cases bias <;> cases o <;> simp [admits]

section

variable {part order tie : α → α → Ordering} {partPlace place : α → Ordering}

/-- When some element of the part that holds the point lies on the side of the
point, then the nearest of all are the nearest of that part. -/
theorem nearestTo_then [OrientedCmp part]
    (hpart : ∀ x y, partPlace x = .eq → part y x = partPlace y) {bias : Bias} {xs : List α}
    (h : ∃ z ∈ xs, partPlace z = .eq ∧ bias.admits (place z)) :
    nearestTo (fun a b => (part a b).then (order a b)) (fun a => (partPlace a).then (place a))
        bias xs =
      nearestTo order place bias (xs.filter fun x => (partPlace x).isEq) := by
  obtain ⟨z, hz, hzpart, hzplace⟩ := h
  simp only [nearestTo, List.filter_filter]
  refine List.filter_congr fun x hx => ?_
  rw [Bool.eq_iff_iff]
  simp only [List.all_eq_true, Bool.and_eq_true, List.mem_filter, and_imp,
    Bias.admits_then, Ordering.isEq_iff_eq_eq]
  constructor
  · rintro ⟨hnearest, hside⟩
    have hx' : partPlace x = .eq := by
      -- Otherwise `x` would lie farther from the point than `z` does.
      have hzx := hnearest z hz (Or.inr ⟨hzpart, hzplace⟩)
      have hswap : part z x = (part x z).swap := OrientedCmp.eq_swap
      rw [hswap, hpart z x hzpart] at hzx
      cases bias <;> cases hp : partPlace x <;> simp_all [Bias.admits]
    simp only [hx', ne_eq, not_true_eq_false, false_and, true_and, false_or] at hside
    refine ⟨fun y hy hyplace hypart => ?_, hside, hx'⟩
    simpa [hpart x y hx', hypart] using hnearest y hy (Or.inr ⟨hypart, hyplace⟩)
  · rintro ⟨hnearest, hside, hx'⟩
    refine ⟨fun y hy hyside => ?_, Or.inr ⟨hx', hside⟩⟩
    rw [hpart x y hx']
    exact hyside.imp id fun ⟨hypart, hyplace⟩ => ⟨hypart, hnearest y hy hyplace hypart⟩

/-- The binary search over all elements, when its answer counts only in the part
that holds the point, is a scan of that part. -/
theorem filter_nearest?_mergeSort (part order tie : α → α → Ordering) [TransCmp part]
    [TransCmp order] [TransCmp tie]
    (hplace : Places (fun a b => (part a b).then (order a b))
      fun a => (partPlace a).then (place a))
    (hpart : ∀ x y, partPlace x = .eq → part y x = partPlace y) (bias : Bias) (xs : List α) :
    (nearest? (xs.mergeSort fun a b => (((part a b).then (order a b)).then (tie a b)).isLE).toArray
        (fun a b => (part a b).then (order a b)) (fun a => (partPlace a).then (place a))
        bias).filter (fun x => (partPlace x).isEq) =
      earliest? tie (nearestTo order place bias (xs.filter fun x => (partPlace x).isEq)) := by
  rw [nearest?_mergeSort hplace]
  by_cases h : ∃ z ∈ xs, partPlace z = .eq ∧ bias.admits (place z)
  · rw [nearestTo_then hpart h]
    cases hx : earliest? tie _ with
    | none => rfl
    | some x =>
        have hmem := (mem_nearestTo.mp (earliest?_eq_some hx).1).1.1
        exact Option.filter_some_pos (List.mem_filter.mp hmem).2
  · -- Nothing in the part lies on the side of the point.
    have hnone : ∀ x, x ∈ xs → partPlace x = .eq → ¬ bias.admits (place x) := fun x hx hp hs =>
      h ⟨x, hx, hp, hs⟩
    have hnil : nearestTo order place bias (xs.filter fun x => (partPlace x).isEq) = [] := by
      refine List.eq_nil_iff_forall_not_mem.mpr fun x hx => ?_
      obtain ⟨⟨hmem, hside⟩, -⟩ := mem_nearestTo.mp hx
      obtain ⟨hmem, heq⟩ := List.mem_filter.mp hmem
      exact hnone x hmem (by simpa using heq) hside
    rw [hnil, earliest?_nil, Option.filter_eq_none_iff]
    intro x hx heq
    obtain ⟨⟨hmem, hside⟩, -⟩ := mem_nearestTo.mp (earliest?_eq_some hx).1
    rw [Ordering.isEq_iff_eq_eq] at heq
    rw [heq] at hside
    exact hnone x hmem heq hside

end

end Remap
