import GraphSchema.Proofs.Graph.Effect
import GraphSchema.Proofs.Schema.Resolution

/-! Referential integrity: ids are distinct and every edge joins two nodes of its store, after any
run of edits. Every edge of such a store resolves, so that generation finds no endpoint missing. -/
namespace GraphSchema
namespace Store

/-- Every node and every edge stands under its own id, and no id stands twice. -/
structure Keyed (s : Store) : Prop where
  nodes : s.nodes.Keyed Node.id
  edges : s.edges.Keyed Edge.id

/-- Both ends of every edge are ids of registered nodes. -/
def Linked (s : Store) : Prop :=
  ∀ e ∈ s.allEdges, e.startId ∈ s.nodes.keys ∧ e.endId ∈ s.nodes.keys

structure Sound (s : Store) : Prop extends s.Keyed where
  linked : s.Linked

/-- No two nodes and no two edges have the same id. -/
structure Distinct (s : Store) : Prop where
  nodes : (s.allNodes.map Node.id).Nodup
  edges : (s.allEdges.map Edge.id).Nodup

theorem Keyed.distinct {s : Store} (h : s.Keyed) : s.Distinct :=
  ⟨h.nodes.nodup_ids, h.edges.nodup_ids⟩

@[simp] theorem keyed_empty : empty.Keyed := ⟨Registry.keyed_nil, Registry.keyed_nil⟩

@[simp] theorem linked_empty : empty.Linked := fun _ he => absurd he List.not_mem_nil

section Changes
variable {s t : Store} (hs : s.Keyed)
include hs

theorem Keyed.nodes_replaced {id : String} {n m : Node} (found : s.getNode? id = some n)
    (same : m.id = n.id) : Keyed { s with nodes := s.nodes.replace id m } :=
  ⟨hs.nodes.replace (same.trans (hs.nodes.own _ (Registry.mem_of_get? found)).symm), hs.edges⟩

theorem Keyed.edges_replaced {id : String} {e f : Edge} (found : s.getEdge? id = some e)
    (same : f.id = e.id) : Keyed { s with edges := s.edges.replace id f } :=
  ⟨hs.nodes, hs.edges.replace (same.trans (hs.edges.own _ (Registry.mem_of_get? found)).symm)⟩

theorem Keyed.of_addNode {n : Node} (h : s.addNode n = .ok t) : t.Keyed := by
  obtain ⟨fresh, rfl⟩ := addNode_eq_ok.mp h
  exact ⟨hs.nodes.add fresh, hs.edges⟩

theorem Keyed.of_insertEdge {strict : Bool} {e : Edge}
    (h : Load.insertEdge strict s e = .ok t) : t.Keyed := by
  obtain ⟨fresh, rfl⟩ := registerEdge_eq_ok.mp (Load.registerEdge_of_insertEdge h)
  exact ⟨hs.nodes, hs.edges.add fresh⟩

end Changes

section Links
variable {s t : Store} (hs : s.Linked)
include hs

/-- The edges of a linked store do not touch a node that is not there. -/
theorem Linked.untouched {id : String} (hid : s.nodes.has id = false) {e : Edge}
    (he : e ∈ s.allEdges) : e.startId ≠ id ∧ e.endId ≠ id := by
  have hne {other : String} (hother : other ∈ s.nodes.keys) : other ≠ id := by
    rintro rfl
    exact Bool.false_ne_true (hid.symm.trans (Registry.has_iff.mpr hother))
  exact ⟨hne (hs e he).1, hne (hs e he).2⟩

theorem Linked.of_addNode {n : Node} (h : s.addNode n = .ok t) : t.Linked := by
  obtain ⟨-, rfl⟩ := addNode_eq_ok.mp h
  intro e he
  rw [Registry.keys_add]
  exact ⟨List.mem_append_left _ (hs e he).1, List.mem_append_left _ (hs e he).2⟩

theorem Linked.of_addEdge {e : Edge} (h : s.addEdge e = .ok t) : t.Linked := by
  obtain ⟨start, finish, h⟩ := addEdge_eq_ok.mp h
  obtain ⟨-, rfl⟩ := registerEdge_eq_ok.mp h
  intro f hf
  rcases Registry.mem_entities_add.mp hf with hf | rfl
  · exact hs f hf
  · exact ⟨Registry.has_iff.mp start, Registry.has_iff.mp finish⟩

/-- Removing a node takes every edge with it that touches the node on either side. -/
theorem Linked.node_removed (id : String) :
    Linked ⟨s.nodes.remove id, s.edges.filter fun e => !touches id e.2⟩ := by
  intro e he
  have hkeep : e ∈ s.allEdges.filter fun e => !touches id e :=
    (Registry.entities_filter (r := s.edges) fun e => !touches id e) ▸ he
  obtain ⟨hmem, hfree⟩ := List.mem_filter.mp hkeep
  simp only [touches, Bool.not_eq_true', Bool.or_eq_false_iff, decide_eq_false_iff_not] at hfree
  rw [Registry.keys_remove]
  exact ⟨List.mem_filter.mpr ⟨(hs e hmem).1, decide_eq_true hfree.1⟩,
    List.mem_filter.mpr ⟨(hs e hmem).2, decide_eq_true hfree.2⟩⟩

theorem Linked.nodes_replaced (id : String) (m : Node) :
    Linked { s with nodes := s.nodes.replace id m } := by
  intro e he
  rw [Registry.keys_replace]
  exact hs e he

theorem Linked.edges_replaced {id : String} {e f : Edge} (found : s.getEdge? id = some e)
    (start : f.startId = e.startId) (finish : f.endId = e.endId) :
    Linked { s with edges := s.edges.replace id f } := by
  intro g hg
  rcases Registry.mem_entities_replace hg with hg | rfl
  · exact hs g hg
  · rw [start, finish]
    exact hs e (Registry.mem_entities_of_get? found)

end Links
end Store

section Steps
variable {s t : Store} {e : Edit}

theorem Effect.keyed (h : Effect s e t) (hs : s.Keyed) : t.Keyed := by
  cases h with
  | addNode fresh => exact ⟨hs.nodes.add fresh, hs.edges⟩
  | addEdge _ _ fresh => exact ⟨hs.nodes, hs.edges.add fresh⟩
  | removeNode _ => exact ⟨hs.nodes.remove _, hs.edges.filter _⟩
  | removeEdge _ => exact ⟨hs.nodes, hs.edges.remove _⟩
  | labelNode found _ => exact hs.nodes_replaced found rfl
  | labelEdge found _ => exact hs.edges_replaced found rfl
  | fillNode found _ => exact hs.nodes_replaced found rfl
  | fillEdge found _ => exact hs.edges_replaced found rfl
  | clear => exact Store.keyed_empty

theorem Effect.linked (h : Effect s e t) (hs : s.Linked) : t.Linked := by
  cases h with
  | addNode fresh => exact hs.of_addNode (Effect.addNode fresh).perform
  | addEdge start finish fresh => exact hs.of_addEdge (Effect.addEdge start finish fresh).perform
  | removeNode _ => exact hs.node_removed _
  | removeEdge _ => exact fun f hf => hs f (Registry.entities_remove_subset hf)
  | labelNode _ _ => exact hs.nodes_replaced _ _
  | labelEdge found _ => exact hs.edges_replaced found rfl rfl
  | fillNode _ _ => exact hs.nodes_replaced _ _
  | fillEdge found _ => exact hs.edges_replaced found rfl rfl
  | clear => exact Store.linked_empty

theorem Effect.sound (h : Effect s e t) (hs : s.Sound) : t.Sound :=
  ⟨h.keyed hs.toKeyed, h.linked hs.linked⟩

end Steps

namespace Store

/-- The stores that loads and edits reach, whether or not their edges are linked. -/
inductive Reached : Store → Prop where
  | empty : Reached Store.empty
  | loaded {strict : Bool} {used : Nat} {v : Value} {s : Store}
      (h : (Load.document strict used v).outcome = .ok s) : Reached s
  | edited {s : Store} (h : Reached s) (e : Edit) : Reached (s.after e)

theorem Reached.keyed {s : Store} (h : Reached s) : s.Keyed := by
  induction h with
  | empty => exact keyed_empty
  | loaded h =>
    exact Load.document_keeps (fun _ _ h hs => Keyed.of_addNode hs h)
      (fun _ _ h hs => Keyed.of_insertEdge hs h) keyed_empty h
  | edited _ _ ih => exact after_keeps (fun (_ : True) => Effect.keyed) trivial ih

theorem Reached.distinct {s : Store} (h : Reached s) : s.Distinct := h.keyed.distinct

/-- The stores from which a run starts: empty, built from nodes and edges, or loaded strictly. -/
inductive Origin : Store → Prop where
  | empty : Origin Store.empty
  | built {nodes : List Node} {edges : List Edge} {s : Store}
      (h : (Store.empty.performAll (construction nodes edges)).2 = .ok s) : Origin s
  | loaded {used : Nat} {v : Value} {s : Store}
      (h : (Load.document true used v).outcome = .ok s) : Origin s

theorem Origin.sound {s : Store} (h : Origin s) : s.Sound := by
  have hempty : Store.empty.Sound := ⟨keyed_empty, linked_empty⟩
  cases h with
  | empty => exact hempty
  | built h => exact performAll_keeps (fun (_ : True) => Effect.sound) (fun _ _ => trivial) hempty h
  | loaded h =>
    refine Load.document_keeps ?_ ?_ hempty h
    · exact fun _ _ h hs => ⟨hs.toKeyed.of_addNode h, hs.linked.of_addNode h⟩
    · exact fun _ _ h hs => ⟨hs.toKeyed.of_insertEdge h, hs.linked.of_addEdge h⟩

theorem Linked.resolveAll {s : Store} (h : s.Linked) :
    s.provider.resolveAll s.allEdges = .ok s.links := by
  apply resolveAll_of_link?
  intro e he
  obtain ⟨start, hstart⟩ := Registry.exists_get?_of_has (Registry.has_iff.mpr (h e he).1)
  obtain ⟨finish, hfinish⟩ := Registry.exists_get?_of_has (Registry.has_iff.mpr (h e he).2)
  exact ⟨⟨e, start, finish⟩, link?_eq_some.mpr ⟨rfl, hstart, hfinish⟩⟩

/-- After any run from such a store, refused edits included, the ids are distinct and every edge
joins two nodes of the store. So all edges resolve, and generation names no missing endpoint. -/
theorem integrity_of_run {s : Store} (h : Origin s) (es : List Edit) :
    (s.afterAll es).Sound ∧
      (∃ links, (s.afterAll es).provider.resolveAll (s.afterAll es).allEdges = .ok links) ∧
      ∀ (d : Diagnosis) (edgeId nodeId : String) (role : Role),
        (d.generate (s.afterAll es).provider).outcome ≠
          .error (.missingEndpoint edgeId nodeId role) := by
  have hsound : (s.afterAll es).Sound :=
    afterAll_keeps (fun (_ : True) => Effect.sound) (fun _ _ => trivial) h.sound
  have hl := hsound.linked.resolveAll
  refine ⟨hsound, ⟨_, hl⟩, ?_⟩
  intro d edgeId nodeId role hgen
  rcases Diagnosis.generate_eq_error hl (outgoing_eq hl) hgen with ⟨_, h⟩ | ⟨_, h⟩ <;> simp at h

/-- A person who knows herself and lives in a city. -/
def town : Store where
  nodes := [
    ("p", { id := "p", label := "person", properties := [
      { key := "name", description := .text "full name", isRequired := .bool true },
      { key := "born", type := .text "Datetime", isAutoGenerated := .bool true }] }),
    ("c", { id := "c", label := "big city" })]
  edges := [
    ("knows", { id := "knows", label := "knows", startId := "p", endId := "p" }),
    ("lives", { id := "lives", label := "livesIn", startId := "p", endId := "c", properties := [
      { key := "years", type := .text "Int", limitMin := .int 0 }] })]

theorem origin_town : Origin town := by
  apply Origin.built
  show (empty.performAll (construction town.allNodes town.allEdges)).2 = .ok town
  rfl

/-- The city is removed with the edge that ends there, and an edge to it is refused. -/
theorem integrity_of_town :
    Origin town ∧
      let s := town.afterAll [.removeNode (.text "c"),
        .addEdge { id := "again", label := "livesIn", startId := "p", endId := "c" }]
      s.Sound ∧ (∃ links, s.provider.resolveAll s.allEdges = .ok links) ∧
        ∀ (d : Diagnosis) (edgeId nodeId : String) (role : Role),
          (d.generate s.provider).outcome ≠ .error (.missingEndpoint edgeId nodeId role) :=
  ⟨origin_town, integrity_of_run origin_town _⟩

end Store
end GraphSchema
