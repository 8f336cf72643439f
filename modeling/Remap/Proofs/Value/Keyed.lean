import Remap.Proofs.Chain
import Remap.Value.Basic

/-!
# Tables with distinct keys

A value is keyed if no table in it has two equal keys (`Value.Keyed`). This stays so for the
members of a value when it is opened (`Value.Keyed.of_opened`).
-/

namespace Remap

theorem Assoc.distinct_of_map_fst_eq {κ α β : Type} [BEq κ] {entries : List (κ × α)}
    {others : List (κ × β)} (h : entries.map Prod.fst = others.map Prod.fst)
    (hdistinct : Distinct entries) : Distinct others := by
  have hkeys : (entries.map Prod.fst).Pairwise fun a b => (b == a) = false :=
    List.pairwise_map.mpr hdistinct
  rw [h] at hkeys
  exact List.pairwise_map.mp hkeys

namespace Value

/-- Whether no table in a value has two equal keys. -/
inductive Keyed : Value → Prop
  | scalar (s : Scalar) : Keyed (.scalar s)
  | list {items : List Value} : (∀ item ∈ items, Keyed item) → Keyed (.list items)
  | pair {first second : Value} : Keyed first → Keyed second → Keyed (.pair first second)
  | set (members : List Scalar) : Keyed (.set members)
  | table {entries : List (Scalar × Value)} : Assoc.Distinct entries →
      (∀ entry ∈ entries, Keyed entry.2) → Keyed (.table entries)
  | cyclic {parts : List Value} (index : Nat) : (∀ part ∈ parts, Keyed part) →
      Keyed (.cyclic parts index)
  | part (index : Nat) : Keyed (.part index)

theorem Keyed.outside {parts : List Value} (hparts : ∀ part ∈ parts, Keyed part) {v : Value}
    (h : Keyed v) : Keyed (v.outside parts) := by
  induction h with
  | pair _ _ ihFirst ihSecond => exact .pair ihFirst ihSecond
  | part index => exact .cyclic index hparts
  | _ => constructor <;> assumption

theorem Keyed.opened {v : Value} (h : Keyed v) : Keyed v.opened := by
  cases h with
  | @cyclic parts index hparts =>
      rw [Value.opened]
      cases hpart : parts[index]? with
      | none => exact .scalar .null
      | some own =>
          have hown := hparts own (List.mem_of_getElem? hpart)
          cases hown with
          | list hitems =>
              refine .list fun item hitem => ?_
              obtain ⟨inner, hinner, rfl⟩ := List.mem_map.mp hitem
              exact (hitems inner hinner).outside hparts
          | table hdistinct hentries =>
              refine .table (Assoc.distinct_of_map_fst_eq ?_ hdistinct) fun entry hentry => ?_
              · rw [List.map_map]
                rfl
              · obtain ⟨⟨key, inner⟩, hinner, rfl⟩ := List.mem_map.mp hentry
                exact (hentries _ hinner).outside hparts
          | _ => constructor <;> assumption
  | _ => constructor <;> assumption

theorem Keyed.of_opened {v : Value} {entries : List (Scalar × Value)} (h : Keyed v)
    (hopened : v.opened = Value.table entries) :
    Assoc.Distinct entries ∧ ∀ entry ∈ entries, Keyed entry.2 := by
  have hkeyed := h.opened
  rw [hopened] at hkeyed
  cases hkeyed with
  | table hdistinct hentries => exact ⟨hdistinct, hentries⟩

end Value

end Remap
