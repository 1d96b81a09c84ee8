import GraphSchema.Graph.Registry
import Mathlib.Data.List.Nodup

/-! Registries in which every entity stands under its own id. -/
namespace GraphSchema
namespace Registry
variable {α : Type} {r : Registry α} {key : String} {a : α} {idOf : α → String}

theorem has_iff : r.has key = true ↔ key ∈ r.keys := by
  rw [has, get?, List.lookup_isSome_iff, keys, List.mem_map]
  exact exists_congr fun e => and_congr_right fun _ => by rw [beq_iff_eq, eq_comm]

theorem has_eq_false_of_nodup {keys : List String} (h : (r.keys ++ key :: keys).Nodup) :
    r.has key = false := by
  rw [Bool.eq_false_iff, ne_eq, has_iff]
  intro hmem
  exact (List.nodup_append.mp h).2.2 key hmem key (List.mem_cons_self ..) rfl

theorem mem_of_get? (h : r.get? key = some a) : (key, a) ∈ r := by
  obtain ⟨before, after, rfl, -⟩ := List.lookup_eq_some_iff.mp h
  simp

theorem mem_entities_of_get? (h : r.get? key = some a) : a ∈ r.entities :=
  List.mem_map.mpr ⟨(key, a), mem_of_get? h, rfl⟩

theorem exists_get?_of_has (h : r.has key = true) : ∃ a, r.get? key = some a :=
  Option.isSome_iff_exists.mp h

/-- Where keys are distinct, the key of an entry says whether the entry is kept. -/
theorem mem_keys_filter (h : r.keys.Nodup) {keep : String × α → Bool} {e : String × α}
    (he : e ∈ r) : e.1 ∈ keys (r.filter keep) ↔ keep e = true := by
  constructor
  · intro hmem
    obtain ⟨f, hf, hsame⟩ := List.mem_map.mp hmem
    obtain ⟨hf, hkeep⟩ := List.mem_filter.mp hf
    rw [← List.inj_on_of_nodup_map h hf he hsame]
    exact hkeep
  · intro hkeep
    exact List.mem_map_of_mem (List.mem_filter.mpr ⟨he, hkeep⟩)

/-- Every entity stands under its own id, and no two of them under one. -/
structure Keyed (idOf : α → String) (r : Registry α) : Prop where
  own : ∀ e ∈ r, e.1 = idOf e.2
  distinct : r.keys.Nodup

@[simp] theorem keyed_nil : Keyed idOf ([] : Registry α) := ⟨by simp, List.nodup_nil⟩

theorem Keyed.map_ids (h : r.Keyed idOf) : r.entities.map idOf = r.keys := by
  rw [entities, List.map_map]
  apply List.map_congr_left
  intro e he
  exact (h.own e he).symm

/-- The entities, in order, make up the registry. -/
theorem Keyed.eq_map (h : r.Keyed idOf) : r.entities.map (fun a => (idOf a, a)) = r := by
  rw [entities, List.map_map]
  refine (List.map_congr_left fun e he => ?_).trans r.map_id
  exact Prod.ext (h.own e he).symm rfl

theorem Keyed.nodup_ids (h : r.Keyed idOf) : (r.entities.map idOf).Nodup :=
  h.map_ids ▸ h.distinct

/-- The look-up finds every entity by its own id. -/
theorem Keyed.get?_own (h : r.Keyed idOf) (ha : a ∈ r.entities) :
    r.get? (idOf a) = some a := by
  obtain ⟨e, he, rfl⟩ := List.mem_map.mp ha
  obtain ⟨before, after, rfl⟩ := List.append_of_mem he
  have hown : e.1 = idOf e.2 := h.own e he
  refine List.lookup_eq_some_iff.mpr ⟨before, after, by simp [← hown], ?_⟩
  intro p hp
  have hd := h.distinct
  simp only [keys, List.map_append, List.map_cons, List.nodup_append, List.mem_cons] at hd
  have hne := hd.2.2 p.1 (List.mem_map_of_mem hp) e.1 (Or.inl rfl)
  simpa [← hown] using Ne.symm hne

theorem Keyed.add (h : r.Keyed idOf) (fresh : r.has (idOf a) = false) :
    (r.add (idOf a) a).Keyed idOf := by
  constructor
  · intro e he
    rcases List.mem_append.mp he with he | he
    · exact h.own e he
    · rw [List.mem_singleton.mp he]
  · have hnew : idOf a ∉ r.keys := fun hm => by simp [has_iff.mpr hm] at fresh
    rw [keys_add, List.nodup_append]
    refine ⟨h.distinct, List.nodup_singleton _, ?_⟩
    intro k hk l hl hkl
    exact hnew (List.mem_singleton.mp hl ▸ hkl ▸ hk)

theorem Keyed.replace (h : r.Keyed idOf) (same : idOf a = key) :
    (r.replace key a).Keyed idOf := by
  constructor
  · intro e he
    obtain ⟨old, hold, rfl⟩ := List.mem_map.mp he
    split
    · exact same.symm
    · exact h.own old hold
  · rw [keys_replace]
    exact h.distinct

theorem Keyed.filter (h : r.Keyed idOf) (keep : String × α → Bool) :
    Keyed idOf (List.filter keep r) := by
  constructor
  · intro e he
    exact h.own e (List.mem_of_mem_filter he)
  · exact h.distinct.sublist (List.filter_sublist.map _)

theorem Keyed.remove (h : r.Keyed idOf) (key : String) : (r.remove key).Keyed idOf :=
  h.filter _

@[simp] theorem has_add : (r.add key a).has key = true := by
  rw [has_iff, keys_add]
  exact List.mem_append_right _ (List.mem_singleton.mpr rfl)

theorem remove_add (h : r.has key = false) : (r.add key a).remove key = r := by
  have hold : r.filter (fun e => e.1 ≠ key) = r := by
    refine List.filter_eq_self.mpr fun e he => decide_eq_true ?_
    rintro rfl
    exact Bool.false_ne_true (h.symm.trans (has_iff.mpr (List.mem_map_of_mem he)))
  rw [remove, add, List.filter_append, hold]
  simp

@[simp] theorem mem_entities_add {b : α} : b ∈ (r.add key a).entities ↔ b ∈ r.entities ∨ b = a := by
  simp [add, entities]

theorem mem_entities_replace {b : α} (h : b ∈ (r.replace key a).entities) :
    b ∈ r.entities ∨ b = a := by
  obtain ⟨e, he, rfl⟩ := List.mem_map.mp h
  obtain ⟨old, hold, rfl⟩ := List.mem_map.mp he
  split
  · exact .inr rfl
  · exact .inl (List.mem_map_of_mem hold)

@[simp] theorem entities_filter (keep : α → Bool) :
    entities (List.filter (fun e => keep e.2) r) = r.entities.filter keep := by
  rw [entities, entities, List.filter_map]
  rfl

theorem entities_remove_subset : (r.remove key).entities ⊆ r.entities :=
  (List.filter_sublist.map _).subset

end Registry
end GraphSchema
