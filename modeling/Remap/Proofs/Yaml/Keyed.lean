import Remap.Proofs.Value.Keyed
import Remap.Yaml.Document

/-!
# Tables of documents

Of two equal keys of a mapping one counts, so that no table of a document has two
(`Yaml.keyed_of_read`). The collections of a graph are keyed when they are taken
(`Collect.yields_take`), nothing else changes them, and their values keep their keys.
-/

namespace Remap.Yaml

/-- Whether a collection, if it is a table, has no two equal keys. -/
def Collection.IsKeyed (collection : Collection) : Prop :=
  ∀ entries, collection = table entries → Assoc.Distinct entries

/-- Whether all collections that have been taken are keyed. -/
def AreKeyed (collections : Array (Option Collection)) : Prop :=
  ∀ (id : Nat) (collection : Collection), collections[id]? = some (some collection) →
    collection.IsKeyed

theorem AreKeyed.set {collections : Array (Option Collection)} (h : AreKeyed collections)
    {collection : Collection} (hkeyed : collection.IsKeyed) (id : Nat) :
    AreKeyed (collections.setIfInBounds id (some collection)) := by
  intro other found hfound
  rw [Array.getElem?_setIfInBounds] at hfound
  split at hfound
  · split at hfound
    · cases hfound
      exact hkeyed
    · cases hfound
  · exact h other found hfound

namespace Collect

variable {α β : Type}

/-- Whether all that an action can give has a property, and the collections stay keyed. -/
def Yields (P : α → Prop) (action : Collect α) : Prop :=
  ∀ c a c', action c = .ok (a, c') → AreKeyed c.collections → P a ∧ AreKeyed c'.collections

theorem yields_pure {P : α → Prop} {a : α} (h : P a) : Yields P (pure a : Collect α) := by
  intro c found c' hrun hkeyed
  cases hrun
  exact ⟨h, hkeyed⟩

theorem yields_throw (P : α → Prop) (error : Error) : Yields P (throw error : Collect α) := by
  intro c found c' hrun
  cases hrun

theorem yields_bind {P : α → Prop} {Q : β → Prop} {first : Collect α} {next : α → Collect β}
    (hfirst : Yields P first) (hnext : ∀ a, P a → Yields Q (next a)) :
    Yields Q (first >>= next) := by
  intro c b c' hrun hkeyed
  cases hstep : first c with
  | error error =>
      simp only [bind, StateT.bind, hstep, Except.bind] at hrun
      cases hrun
  | ok step =>
      obtain ⟨a, between⟩ := step
      simp only [bind, StateT.bind, hstep, Except.bind] at hrun
      obtain ⟨ha, hbetween⟩ := hfirst c a between hstep hkeyed
      exact hnext a ha between b c' hrun hbetween

theorem yields_get : Yields (fun _ => True) (get : Collect Collecting) := by
  intro c found c' hrun hkeyed
  cases hrun
  exact ⟨trivial, hkeyed⟩

theorem yields_modifyGet {f : Collecting → α × Collecting}
    (h : ∀ c, AreKeyed c.collections → AreKeyed (f c).2.collections) :
    Yields (fun _ => True) (modifyGet f : Collect α) := by
  intro c found c' hrun hkeyed
  obtain ⟨rfl, rfl⟩ : (f c).1 = found ∧ (f c).2 = c' := Prod.mk.inj (Except.ok.inj hrun)
  exact ⟨trivial, h c hkeyed⟩

theorem yields_modify {f : Collecting → Collecting}
    (h : ∀ c, AreKeyed c.collections → AreKeyed (f c).collections) :
    Yields (fun _ => True) (modify f : Collect Unit) :=
  yields_modifyGet h

theorem yields_lift (result : Except Error α) :
    Yields (fun _ => True) (liftM result : Collect α) := by
  intro c found c' hrun hkeyed
  cases result with
  | error error => cases hrun
  | ok a =>
      cases hrun
      exact ⟨trivial, hkeyed⟩

theorem yields_map {P : α → Prop} {Q : β → Prop} {action : Collect α} {f : α → β}
    (h : Yields P action) (hf : ∀ a, P a → Q (f a)) : Yields Q (f <$> action) := by
  rw [map_eq_pure_bind]
  exact yields_bind h fun a ha => yields_pure (hf a ha)

theorem yields_mapM {f : α → Collect β} (h : ∀ a, Yields (fun _ => True) (f a)) (list : List α) :
    Yields (fun _ => True) (list.mapM f) := by
  induction list with
  | nil => exact yields_pure trivial
  | cons a rest ih =>
      rw [List.mapM_cons]
      exact yields_bind (h a) fun _ _ => yields_bind ih fun _ _ => yields_pure trivial

/-! ## Taking collections -/

theorem yields_meet (id : Nat) : Yields (fun _ => True) (meet id) := by
  unfold meet
  refine yields_bind yields_get fun progress _ => ?_
  split
  · exact yields_pure trivial
  · refine yields_bind yields_get fun _ _ => ?_
    dsimp only
    split
    · exact yields_bind (yields_modify fun _ hkeyed => hkeyed) fun _ _ => yields_pure trivial
    · refine yields_bind (yields_lift _) fun s _ => ?_
      exact yields_bind (yields_modify fun _ hkeyed => hkeyed) fun _ _ => yields_pure trivial

theorem yields_meetKey (id : Nat) : Yields (fun _ => True) (meetKey id) := by
  unfold meetKey
  refine yields_bind (yields_meet id) fun meaning _ => ?_
  split
  · exact yields_pure trivial
  · exact yields_throw _ _

theorem yields_items (id : Nat) : Yields (fun _ => True) (items id) := by
  unfold items
  refine yields_bind yields_get fun _ _ => ?_
  split
  · exact yields_mapM yields_meet _
  · exact yields_throw _ _

theorem yields_pairs (id : Nat) : Yields (fun _ => True) (pairs id) := by
  unfold pairs
  refine yields_bind yields_get fun _ _ => ?_
  split
  · refine yields_mapM (fun item => yields_bind yields_get fun _ _ => ?_) _
    split
    · exact yields_bind (yields_meet _) fun _ _ =>
        yields_bind (yields_meet _) fun _ _ => yields_pure trivial
    · exact yields_throw _ _
  · exact yields_throw _ _

theorem yields_flattened (merges id : Nat) : Yields Assoc.Distinct (do
    let graph ← modifyGet fun c => (c.graph, { c with graph := #[] })
    let graph ← liftM (Graph.flattenFrom merges [] id graph)
    let flattened := graph.entries id
    modify fun c => { c with graph }
    let entries ← flattened.mapM fun (key, value) => do
      let key ← meetKey key
      return (key, ← meet value)
    return Assoc.ofList entries : Collect (List (Scalar × Meaning))) := by
  refine yields_bind (yields_modifyGet fun _ hkeyed => hkeyed) fun _ _ => ?_
  refine yields_bind (yields_lift _) fun graph _ => ?_
  refine yields_bind (yields_modify fun _ hkeyed => hkeyed) fun _ _ => ?_
  refine yields_bind (yields_mapM (fun entry => ?_) _) fun _ _ =>
    yields_pure (Assoc.distinct_ofList _)
  exact yields_bind (yields_meetKey _) fun _ _ =>
    yields_bind (yields_meet _) fun _ _ => yields_pure trivial

theorem yields_entries (merges id : Nat) : Yields Assoc.Distinct (entries merges id) := by
  unfold entries
  refine yields_bind yields_get fun _ _ => ?_
  have hflattened := yields_flattened merges id
  split
  · exact yields_bind (yields_throw (fun _ => True) _) fun _ _ => hflattened
  · exact hflattened

theorem yields_take (merges id : Nat) : Yields (fun _ => True) (take merges id) := by
  have hstore {action : Collect Collection} (h : Yields Collection.IsKeyed action) :
      Yields (fun _ => True) (do
        let collection ← action
        modify fun c =>
          { c with collections := c.collections.setIfInBounds id (some collection) }) :=
    yields_bind h fun _ hkeyed => yields_modify fun _ hall => hall.set hkeyed id
  unfold take
  refine yields_bind yields_get fun _ _ => ?_
  split
  · exact hstore (yields_map (yields_items id) fun _ _ _ h => by cases h)
  · exact hstore (yields_map (yields_entries merges id) fun _ hdistinct _ h => by
      cases h
      exact hdistinct)
  · exact hstore (yields_map (yields_entries merges id) fun _ _ _ h => by cases h)
  · exact hstore (yields_map (yields_pairs id) fun _ _ _ h => by cases h)

theorem yields_takeAll (merges rounds : Nat) : Yields (fun _ => True) (takeAll merges rounds) := by
  induction rounds with
  | zero => exact yields_throw _ _
  | succ rounds ih =>
      unfold takeAll
      refine yields_bind yields_get fun _ _ => ?_
      split
      · refine yields_bind (yields_modify fun _ hkeyed => hkeyed) fun _ _ => ?_
        exact yields_bind (yields_take merges _) fun _ _ => ih
      · exact yields_pure trivial
      · exact yields_bind (yields_modify fun _ hkeyed => hkeyed) fun _ _ => ih

theorem yields_root (id : Nat) : Yields (fun _ => True) (root id) := by
  unfold root
  refine yields_bind yields_get fun _ _ => ?_
  refine yields_bind (yields_meet id) fun _ _ => ?_
  exact yields_bind (yields_takeAll _ _) fun _ _ => yields_pure trivial

end Collect

theorem Construction.areKeyed_of_ofGraph {graph : Graph} {root : Nat} {c : Construction}
    (h : Construction.ofGraph graph root = .ok c) : AreKeyed c.collections := by
  unfold Construction.ofGraph at h
  cases hrun : (Collect.root root).run
      { graph, met := graph.map fun _ => none, collections := graph.map fun _ => none } with
  | error error =>
      rw [hrun] at h
      cases h
  | ok result =>
      obtain ⟨meaning, collecting⟩ := result
      rw [hrun] at h
      cases h
      refine (Collect.yields_root root _ _ _ hrun ?_).2
      intro id collection hfound
      simp at hfound

/-! ## Values of collections -/

theorem Collection.keyed_of_value? {value? : Nat → Option Value}
    (hvalue? : ∀ id v, value? id = some v → v.Keyed) {collection : Collection}
    (hkeyed : collection.IsKeyed) {v : Value} (h : collection.value? value? = some v) :
    v.Keyed := by
  have hmeaning {meaning : Meaning} {own : Value} (hown : meaning.value? value? = some own) :
      own.Keyed := by
    cases meaning with
    | scalar s =>
        cases hown
        exact .scalar s
    | collection id => exact hvalue? id own hown
  cases collection with
  | list items =>
      obtain ⟨values, hvalues, rfl⟩ := Option.map_eq_some_iff.mp h
      refine .list fun item hitem => ?_
      obtain ⟨meaning, -, hown⟩ := exists_of_mem_of_mapM hvalues item hitem
      exact hmeaning hown
  | pairs items =>
      obtain ⟨values, hvalues, rfl⟩ := Option.map_eq_some_iff.mp h
      refine .list fun item hitem => ?_
      obtain ⟨⟨a, b⟩, -, hown⟩ := exists_of_mem_of_mapM hvalues item hitem
      obtain ⟨first, hfirst, hown⟩ := Option.bind_eq_some_iff.mp hown
      obtain ⟨second, hsecond, hown⟩ := Option.bind_eq_some_iff.mp hown
      cases hown
      exact .pair (hmeaning hfirst) (hmeaning hsecond)
  | set members =>
      cases h
      exact .set members
  | table entries =>
      obtain ⟨values, hvalues, rfl⟩ := Option.map_eq_some_iff.mp h
      have hkeys := map_fst_of_mapM (fun entry mapped hmapped => by
        obtain ⟨own, -, rfl⟩ := Option.map_eq_some_iff.mp hmapped
        rfl) hvalues
      refine .table (Assoc.distinct_of_map_fst_eq hkeys (hkeyed entries rfl)) fun entry hentry => ?_
      obtain ⟨⟨key, meaning⟩, -, hmapped⟩ := exists_of_mem_of_mapM hvalues entry hentry
      obtain ⟨own, hown, rfl⟩ := Option.map_eq_some_iff.mp hmapped
      exact hmeaning hown

namespace Construction

/-- Whether all known values are keyed. -/
def KnownKeyed (known : Known) : Prop :=
  ∀ (id : Nat) (v : Value), known[id]?.join = some v → v.Keyed

variable {c : Construction} (h : AreKeyed c.collections)

include h

theorem knownKeyed_learn {known : Known} (hknown : KnownKeyed known) :
    KnownKeyed (c.learn known) := by
  unfold learn
  generalize (List.range known.size).reverse = ids
  induction ids generalizing known with
  | nil => exact hknown
  | cons id rest ih =>
      rw [List.foldl_cons]
      refine ih ?_
      split
      · next collection _ hcollection =>
          intro other v hv
          rw [Array.getElem?_setIfInBounds] at hv
          split at hv
          · split at hv
            · exact Collection.keyed_of_value? hknown
                (h id collection (Option.join_eq_some_iff.mp hcollection)) hv
            · cases hv
          · exact hknown other v hv
      · exact hknown

theorem knownKeyed_learnAll {known : Known} (hknown : KnownKeyed known) (rounds : Nat) :
    KnownKeyed (c.learnAll rounds known) := by
  induction rounds generalizing known with
  | zero => exact hknown
  | succ rounds ih =>
      rw [learnAll]
      split
      · exact knownKeyed_learn h hknown
      · exact ih (knownKeyed_learn h hknown)

theorem keyed_value : c.value.Keyed := by
  have hnothing : KnownKeyed (c.collections.map fun _ => none) := by
    intro id v hv
    rw [Array.getElem?_map] at hv
    cases hfound : c.collections[id]? <;> simp [hfound] at hv
  have hlearned := knownKeyed_learnAll h hnothing c.collections.size
  unfold value
  dsimp only
  split
  · next s _ => exact .scalar s
  · next id _ =>
      split
      · next v hv => exact hlearned id v hv
      · refine .cyclic _ fun part hpart => ?_
        obtain ⟨own, -, hown⟩ := List.mem_filterMap.mp hpart
        obtain ⟨collection, hcollection, hvalue⟩ := Option.bind_eq_some_iff.mp hown
        refine Collection.keyed_of_value? (fun item v hv => ?_)
          (h own collection (Option.join_eq_some_iff.mp hcollection)) hvalue
        cases hv
        cases hitem :
          (c.learnAll c.collections.size (c.collections.map fun _ => none))[item]?.join with
        | none => exact .part _
        | some known => exact hlearned item known hitem

end Construction

theorem keyed_of_read {text : List Char} {v : Value} (h : read text = .ok v) : v.Keyed := by
  unfold read at h
  dsimp only at h
  split at h
  · cases h
  · obtain ⟨composition?, -, h⟩ := bind_eq_ok_iff.mp h
    split at h
    · obtain ⟨c, hc, h⟩ := bind_eq_ok_iff.mp h
      cases h
      exact Construction.keyed_value (Construction.areKeyed_of_ofGraph hc)
    · cases h
      exact .scalar .null

end Remap.Yaml
