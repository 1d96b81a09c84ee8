import GraphSchema.Proofs.Graph.Integrity

/-! Removals undo additions. Nodes may be removed in any order, an edge that is added and removed
leaves the store as it was, and a new node takes with it whatever edges have been added at it. -/
namespace GraphSchema

theorem Registry.remove_comm {α : Type} (r : Registry α) (a b : String) :
    (r.remove a).remove b = (r.remove b).remove a := by
  rw [remove, remove, remove, remove, List.filter_comm]

namespace Store
variable {s t : Store} {n : Node} {e : Edge}

/-- What is left when a node goes, and with it the edges that touch it. -/
def without (s : Store) (id : String) : Store :=
  ⟨s.nodes.remove id, s.edges.filter fun e => !touches id e.2⟩

theorem without_comm (s : Store) (a b : String) :
    (s.without a).without b = (s.without b).without a := by
  simp only [without, Registry.remove_comm, List.filter_comm]

theorem perform_removeNode {id : String} (h : id ∈ s.nodes.keys) :
    s.perform (.removeNode (.text id)) = .ok (s.without id) :=
  (Effect.removeNode (Registry.has_iff.mpr h)).perform

def removals (ids : List String) : List Edit := ids.map fun id => .removeNode (.text id)

/-- Distinct nodes that are there can be removed one after the other. -/
theorem performAll_removals {ids : List String} (hids : ids.Nodup)
    (hin : ∀ id ∈ ids, id ∈ s.nodes.keys) :
    (s.performAll (removals ids)).2 = .ok (ids.foldl without s) := by
  induction ids generalizing s with
  | nil => rfl
  | cons a ids ih =>
    obtain ⟨ha, hids⟩ := List.nodup_cons.mp hids
    have hrest : ∀ id ∈ ids, id ∈ (s.without a).nodes.keys := by
      intro id hid
      have hne : id ≠ a := fun h => ha (h ▸ hid)
      have hkeys : (s.without a).nodes.keys = s.nodes.keys.filter (· ≠ a) :=
        Registry.keys_remove ..
      rw [hkeys]
      exact List.mem_filter.mpr ⟨hin id (List.mem_cons_of_mem _ hid), decide_eq_true hne⟩
    have hfirst := perform_removeNode (hin a (List.mem_cons_self ..))
    rw [removals, List.map_cons, performAll, hfirst]
    exact ih hids hrest

/-- In whatever order nodes are removed, the same store is left. -/
theorem removals_perm {ids others : List String} (hperm : ids.Perm others) (hids : ids.Nodup)
    (hin : ∀ id ∈ ids, id ∈ s.nodes.keys) :
    ∃ t, (s.performAll (removals ids)).2 = .ok t ∧ (s.performAll (removals others)).2 = .ok t := by
  have hothers : ∀ id ∈ others, id ∈ s.nodes.keys := fun id hid => hin id (hperm.mem_iff.mpr hid)
  have hsame : others.foldl without s = ids.foldl without s :=
    (hperm.foldl_eq' (fun a _ b _ u => without_comm u a b) s).symm
  refine ⟨ids.foldl without s, performAll_removals hids hin, ?_⟩
  rw [performAll_removals (hperm.nodup_iff.mp hids) hothers, hsame]

theorem removeEdge_of_addEdge (h : s.addEdge e = .ok t) : t.removeEdge e.id = .ok s := by
  obtain ⟨fresh, rfl⟩ := registerEdge_eq_ok.mp (addEdge_eq_ok.mp h).2.2
  refine removeEdge_eq_ok.mpr ⟨Registry.has_add, ?_⟩
  rw [Registry.remove_add fresh]

/-- A store with one more node, whose other edges are those that were there. -/
structure Grafted (s : Store) (n : Node) (t : Store) : Prop where
  nodes : t.nodes = s.nodes.add n.id n
  edges : t.edges.filter (fun e => !touches n.id e.2) = s.edges

theorem Linked.grafted (hl : s.Linked) (h : s.addNode n = .ok t) : Grafted s n t := by
  obtain ⟨fresh, rfl⟩ := addNode_eq_ok.mp h
  refine ⟨rfl, List.filter_eq_self.mpr fun e he => ?_⟩
  obtain ⟨hstart, hfinish⟩ := hl.untouched fresh (List.mem_map_of_mem he)
  simp [touches, hstart, hfinish]

theorem Grafted.step {x : Edit} {u : Store} (hx : ∃ e, x = .addEdge e ∧ touches n.id e = true)
    (heffect : Effect t x u) (h : Grafted s n t) : Grafted s n u := by
  obtain ⟨e, rfl, htouches⟩ := hx
  cases heffect with
  | addEdge _ _ _ =>
    refine ⟨h.nodes, ?_⟩
    rw [← h.edges, Registry.add, List.filter_append]
    simp [htouches]

theorem Grafted.removeNode (h : Grafted s n t) (fresh : s.nodes.has n.id = false) :
    t.removeNode n.id = .ok s := by
  refine removeNode_eq_ok.mpr ⟨?_, ?_⟩
  · rw [h.nodes]
    exact Registry.has_add
  · rw [h.nodes, h.edges, Registry.remove_add fresh]

/-- Two nodes may be removed in either order. Removing an edge right after it has been added restores
the store. So does removing a node after it has been added to a store whose edges are linked and any
edges have been added at it, refused ones included. -/
theorem removal_undoes :
    (∀ (s : Store) (a b : String), a ≠ b → a ∈ s.nodes.keys → b ∈ s.nodes.keys →
      ∃ t, (s.performAll [.removeNode (.text a), .removeNode (.text b)]).2 = .ok t ∧
        (s.performAll [.removeNode (.text b), .removeNode (.text a)]).2 = .ok t) ∧
    (∀ (s t : Store) (e : Edge), s.perform (.addEdge e) = .ok t →
      t.perform (.removeEdge (.text e.id)) = .ok s) ∧
    ∀ (s t : Store) (n : Node) (es : List Edge), s.Linked → s.perform (.addNode n) = .ok t →
      (∀ e ∈ es, e.startId = n.id ∨ e.endId = n.id) →
      (t.afterAll (es.map .addEdge)).perform (.removeNode (.text n.id)) = .ok s := by
  refine ⟨?_, fun s t e h => removeEdge_of_addEdge h, ?_⟩
  · intro s a b hne ha hb
    have hids : [a, b].Nodup := List.nodup_cons.mpr ⟨by simpa using hne, List.nodup_singleton b⟩
    have hin : ∀ id ∈ [a, b], id ∈ s.nodes.keys :=
      List.forall_mem_cons.mpr ⟨ha, List.forall_mem_singleton.mpr hb⟩
    exact removals_perm (List.Perm.swap b a []) hids hin
  · intro s t n es hl h htouch
    have hgrafted : Grafted s n (t.afterAll (es.map .addEdge)) := by
      refine afterAll_keeps Grafted.step ?_ (hl.grafted h)
      intro x hx
      obtain ⟨e, he, rfl⟩ := List.mem_map.mp hx
      exact ⟨e, rfl, by simpa [touches] using htouch e he⟩
    exact hgrafted.removeNode (addNode_eq_ok.mp h).1

def visits : Edge := { id := "visits", label := "visits", startId := "p", endId := "c" }

def bakery : Node := { id := "s", label := "bakery" }

/-- Two edges at the bakery, one of them a loop, and one to a node that is not there. -/
def bakeryEdges : List Edge := [
  { id := "owns", label := "owns", startId := "p", endId := "s" },
  { id := "feeds", label := "feeds", startId := "s", endId := "s" },
  { id := "near", label := "near", startId := "s", endId := "park" }]

theorem removal_undoes_town :
    town.Linked ∧
      (∃ t, (town.performAll [.removeNode (.text "p"), .removeNode (.text "c")]).2 = .ok t ∧
        (town.performAll [.removeNode (.text "c"), .removeNode (.text "p")]).2 = .ok t) ∧
      (∃ t, town.perform (.addEdge visits) = .ok t ∧
        t.perform (.removeEdge (.text "visits")) = .ok town) ∧
      ∃ t, town.perform (.addNode bakery) = .ok t ∧
        (t.afterAll (bakeryEdges.map .addEdge)).edges.keys = ["knows", "lives", "owns", "feeds"] ∧
        (t.afterAll (bakeryEdges.map .addEdge)).perform (.removeNode (.text "s")) = .ok town := by
  have hlinked : town.Linked := origin_town.sound.linked
  have hvisits : town.perform (.addEdge visits) = .ok _ := rfl
  have hbakery : town.perform (.addNode bakery) = .ok _ := rfl
  have htouch : ∀ e ∈ bakeryEdges, e.startId = bakery.id ∨ e.endId = bakery.id := by decide
  exact ⟨hlinked, removal_undoes.1 town "p" "c" (by decide) (by decide) (by decide),
    ⟨_, hvisits, removal_undoes.2.1 _ _ _ hvisits⟩, _, hbakery, by decide,
    removal_undoes.2.2 _ _ _ _ hlinked hbakery htouch⟩

end Store
end GraphSchema
