import GraphSchema.Proofs.Schema.Resolution
import Mathlib.Data.Set.Function

/-! A graph under other ids. Whatever is looked up by id is found as before, if ids that differ are
not made the same. -/
namespace GraphSchema

/-- New ids for nodes and for edges. -/
structure Renaming where
  node : String → String
  edge : String → String

def Node.renamed (r : Renaming) (n : Node) : Node := { n with id := r.node n.id }

def Edge.renamed (r : Renaming) (e : Edge) : Edge :=
  { e with id := r.edge e.id, startId := r.node e.startId, endId := r.node e.endId }

def Link.renamed (r : Renaming) (l : Link) : Link :=
  ⟨l.edge.renamed r, l.start.renamed r, l.finish.renamed r⟩

namespace Registry
variable {α β : Type} {f : String → String} {g : α → β} {r : Registry α} {key : String}

/-- Other keys, and other entities under them, in the same order. -/
def renamed (f : String → String) (g : α → β) (r : Registry α) : Registry β :=
  r.map fun e => (f e.1, g e.2)

@[simp] theorem entities_renamed : (r.renamed f g).entities = r.entities.map g := by
  simp [renamed, entities]

/-- The new key finds what the old key finds, unless another key has become the same. -/
theorem get?_renamed (h : ∀ k ∈ r.keys, f k = f key → k = key) :
    (r.renamed f g).get? (f key) = (r.get? key).map g := by
  induction r with
  | nil => rfl
  | cons e r ih =>
    obtain ⟨k, a⟩ := e
    obtain ⟨hhead, htail⟩ := List.forall_mem_cons.mp h
    have hrest := ih htail
    simp only [renamed, get?] at hrest
    simp only [renamed, get?, List.map_cons, List.lookup_cons]
    by_cases hk : key = k
    · simp [hk]
    · have hne : f key ≠ f k := fun heq => hk (hhead heq.symm).symm
      simp only [beq_false_of_ne hk, beq_false_of_ne hne]
      exact hrest

end Registry

namespace Store

def renamed (r : Renaming) (s : Store) : Store where
  nodes := s.nodes.renamed r.node (Node.renamed r)
  edges := s.edges.renamed r.edge (Edge.renamed r)

/-- All ids of nodes that occur in a store, also those that edges name and no node has. -/
def nodeIds (s : Store) : List String :=
  s.nodes.keys ++ s.allNodes.map Node.id ++ s.allEdges.flatMap fun e => [e.startId, e.endId]

def edgeIds (s : Store) : List String := s.edges.keys ++ s.allEdges.map Edge.id

section Occurring
variable {s : Store} {n : Node} {e : Edge} {id : String}

theorem mem_nodeIds_of_key (h : id ∈ s.nodes.keys) : id ∈ s.nodeIds :=
  List.mem_append_left _ (List.mem_append_left _ h)

theorem mem_nodeIds_of_node (h : n ∈ s.allNodes) : n.id ∈ s.nodeIds :=
  List.mem_append_left _ (List.mem_append_right _ (List.mem_map_of_mem h))

theorem mem_nodeIds_of_edge (h : e ∈ s.allEdges) : e.startId ∈ s.nodeIds ∧ e.endId ∈ s.nodeIds :=
  ⟨List.mem_append_right _ (List.mem_flatMap.mpr ⟨e, h, List.mem_cons_self ..⟩),
    List.mem_append_right _
      (List.mem_flatMap.mpr ⟨e, h, List.mem_cons_of_mem _ (List.mem_cons_self ..)⟩)⟩

theorem mem_edgeIds_of_edge (h : e ∈ s.allEdges) : e.id ∈ s.edgeIds :=
  List.mem_append_right _ (List.mem_map_of_mem h)

end Occurring
end Store

/-- Ids of a store that differ have new ids that differ. -/
structure Renaming.Faithful (r : Renaming) (s : Store) : Prop where
  node : Set.InjOn r.node {i | i ∈ s.nodeIds}
  edge : Set.InjOn r.edge {i | i ∈ s.edgeIds}

theorem Renaming.faithful_of_injective {r : Renaming} (hnode : Function.Injective r.node)
    (hedge : Function.Injective r.edge) (s : Store) : r.Faithful s :=
  ⟨hnode.injOn, hedge.injOn⟩

namespace Store
open Provider
variable {s : Store} {r : Renaming}

@[simp] theorem allNodes_renamed : (s.renamed r).allNodes = s.allNodes.map (Node.renamed r) :=
  Registry.entities_renamed

@[simp] theorem allEdges_renamed : (s.renamed r).allEdges = s.allEdges.map (Edge.renamed r) :=
  Registry.entities_renamed

section Faithful
variable (h : r.Faithful s)
include h

theorem getNode?_renamed {id : String} (hid : id ∈ s.nodeIds) :
    (s.renamed r).getNode? (r.node id) = (s.getNode? id).map (Node.renamed r) :=
  Registry.get?_renamed fun _ hk heq => h.node (mem_nodeIds_of_key hk) hid heq

theorem has_node_renamed {id : String} (hid : id ∈ s.nodeIds) :
    (s.renamed r).nodes.has (r.node id) = s.nodes.has id := by
  have hget : (s.renamed r).nodes.get? (r.node id) = (s.nodes.get? id).map (Node.renamed r) :=
    getNode?_renamed h hid
  rw [Registry.has, Registry.has, hget, Option.isSome_map]

theorem link?_renamed {e : Edge} (he : e ∈ s.allEdges) :
    (s.renamed r).link? (e.renamed r) = (s.link? e).map (Link.renamed r) := by
  obtain ⟨hstart, hfinish⟩ := mem_nodeIds_of_edge he
  have hs : (s.renamed r).getNode? (e.renamed r).startId =
      (s.getNode? e.startId).map (Node.renamed r) := getNode?_renamed h hstart
  have hf : (s.renamed r).getNode? (e.renamed r).endId =
      (s.getNode? e.endId).map (Node.renamed r) := getNode?_renamed h hfinish
  rw [link?, link?, hs, hf]
  cases s.getNode? e.startId <;> cases s.getNode? e.endId <;> rfl

theorem links_renamed : (s.renamed r).links = s.links.map (Link.renamed r) := by
  rw [links, links, allEdges_renamed, List.filterMap_map, List.map_filterMap]
  exact List.filterMap_congr fun e he => link?_renamed h he

theorem startingAt_renamed {id : String} (hid : id ∈ s.nodeIds) :
    (s.renamed r).startingAt (r.node id) = (s.startingAt id).map (Edge.renamed r) := by
  rw [startingAt, startingAt, allEdges_renamed, List.filter_map]
  refine congrArg (List.map _) (List.filter_congr fun e he => ?_)
  have hsame : r.node e.startId = r.node id ↔ e.startId = id :=
    ⟨h.node (mem_nodeIds_of_edge he).1 hid, congrArg r.node⟩
  exact decide_eq_decide.mpr hsame

theorem lastWithId_renamed {links : List Link} {e : Edge} (he : e ∈ s.allEdges)
    (hlinks : ∀ l ∈ links, l.edge ∈ s.allEdges) :
    lastWithId (links.map (Link.renamed r)) (e.renamed r).id =
      (lastWithId links e.id).map (Link.renamed r) := by
  rw [lastWithId, lastWithId, ← List.map_reverse, List.find?_map, ← List.head?_filter,
    ← List.head?_filter]
  refine congrArg (fun ls => (List.head? ls).map _) (List.filter_congr fun l hl => ?_)
  have hsame : r.edge l.edge.id = r.edge e.id ↔ l.edge.id = e.id :=
    ⟨h.edge (mem_edgeIds_of_edge (hlinks l (List.mem_reverse.mp hl))) (mem_edgeIds_of_edge he),
      congrArg r.edge⟩
  exact decide_eq_decide.mpr hsame

theorem knownFrom_renamed {id : String} (hid : id ∈ s.nodeIds) :
    (s.renamed r).knownFrom (s.renamed r).links (r.node id) =
      (s.knownFrom s.links id).map (Link.renamed r) := by
  rw [knownFrom, knownFrom, startingAt_renamed h hid, links_renamed h, List.filterMap_map,
    List.map_filterMap]
  refine List.filterMap_congr fun e he => ?_
  exact lastWithId_renamed h (List.mem_of_mem_filter he) fun l hl => edge_mem_of_mem_links hl

end Faithful
end Store
end GraphSchema
