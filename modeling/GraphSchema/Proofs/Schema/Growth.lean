import GraphSchema.Proofs.Graph.Loading
import GraphSchema.Proofs.Graph.Undoing
import GraphSchema.Proofs.Schema.Provenance

/-! A document grows with its graph: what a node or an edge adds to a store adds its own lines to the
document and leaves all others in their order. -/
namespace GraphSchema

/-- A node or an edge that is added to a store. -/
inductive Addition where
  | node (n : Node)
  | edge (e : Edge)

namespace Addition

def addTo (s : Store) : Addition → Except StoreError Store
  | node n => s.addNode n
  | edge e => s.addEdge e

def removeFrom (s : Store) : Addition → Except StoreError Store
  | node n => s.removeNode n.id
  | edge e => s.removeEdge e.id

def properties : Addition → List Property
  | node n => n.properties
  | edge e => e.properties

/-- Whether lines of this source are made from the addition. -/
def owns : Addition → Source → Bool
  | node n, s => s.node? = some n.id
  | edge e, s => s.edge? = some e.id

end Addition

/-- All that is made from a link: the field in its start node, the edge type, the connection type and
the two mutations. -/
def Link.sourced (l : Link) : List Sourced :=
  Source.ascribe (.connectionField l.start.id l.edge.id) l.field.lines ++ l.edgeSourced ++
    l.connectionSourced ++
    Source.ascribe (.edgeMutation l.start.id l.edge.id) (l.mutationFields.flatMap FieldDecl.lines)

/-- The lines made from an addition, in the order of the document. -/
def Store.sourcedOf (s : Store) : Addition → List Sourced
  | .node n => n.typesSourced [] ++ n.querySourced ++ n.mutationsSourced []
  | .edge e => (s.link? e).toList.flatMap Link.sourced

/-- `after` is `before` with the lines `new` put in, and `own` tells the new lines from the others.
-/
structure Grown (own : Source → Bool) (before after new : List Sourced) : Prop where
  kept : after.filter (fun x => !own x.source) = before
  added : after.filter (fun x => own x.source) = new

section Growing
variable {own : Source → Bool} {before before' after after' new new' ls ms : List Sourced}

theorem Grown.append (h : Grown own before after new) (h' : Grown own before' after' new') :
    Grown own (before ++ before') (after ++ after') (new ++ new') :=
  ⟨by rw [List.filter_append, h.kept, h'.kept], by rw [List.filter_append, h.added, h'.added]⟩

theorem grown_old (h : ∀ x ∈ ls, own x.source = false) : Grown own ls ls [] := by
  refine ⟨List.filter_eq_self.mpr fun x hx => ?_, List.filter_eq_nil_iff.mpr fun x hx => ?_⟩
  · rw [h x hx, Bool.not_false]
  · rw [h x hx]
    exact Bool.false_ne_true

theorem grown_new (h : ∀ x ∈ ls, own x.source = true) : Grown own [] ls ls := by
  refine ⟨List.filter_eq_nil_iff.mpr fun x hx => ?_, List.filter_eq_self.mpr h⟩
  rw [h x hx]
  exact Bool.false_ne_true

theorem grown_ascribe_old {s : Source} (h : own s = false) (texts : List String) :
    Grown own (s.ascribe texts) (s.ascribe texts) [] :=
  grown_old fun x hx => by
    obtain ⟨_, _, rfl⟩ := List.mem_map.mp hx
    exact h

theorem grown_ascribe_new {s : Source} (h : own s = true) (texts : List String) :
    Grown own [] (s.ascribe texts) (s.ascribe texts) :=
  grown_new fun x hx => by
    obtain ⟨_, _, rfl⟩ := List.mem_map.mp hx
    exact h

theorem Grown.flatMap {α : Type} {as : List α} {f g k : α → List Sourced}
    (h : ∀ a ∈ as, Grown own (f a) (g a) (k a)) :
    Grown own (as.flatMap f) (as.flatMap g) (as.flatMap k) := by
  induction as with
  | nil => exact ⟨rfl, rfl⟩
  | cons a as ih =>
    obtain ⟨ha, has⟩ := List.forall_mem_cons.mp h
    exact ha.append (ih has)

theorem grown_flatMap_old {α : Type} {as : List α} {f : α → List Sourced}
    (h : ∀ a ∈ as, Grown own (f a) (f a) []) : Grown own (as.flatMap f) (as.flatMap f) [] := by
  have hall := Grown.flatMap h
  rwa [List.flatMap_eq_nil_iff.mpr fun _ _ => rfl] at hall

theorem grown_flatMap_new {α : Type} {as : List α} {f : α → List Sourced}
    (h : ∀ a ∈ as, Grown own [] (f a) (f a)) : Grown own [] (as.flatMap f) (as.flatMap f) := by
  have hall := Grown.flatMap h
  rwa [List.flatMap_eq_nil_iff.mpr fun _ _ => rfl] at hall

/-- What is made from a list to which one more item comes. -/
theorem grown_flatMap_concat {α : Type} {as : List α} {a : α} {f : α → List Sourced}
    (hold : ∀ b ∈ as, Grown own (f b) (f b) []) (hnew : Grown own [] (f a) (f a)) :
    Grown own (as.flatMap f) ((as ++ [a]).flatMap f) (f a) := by
  have hall := (grown_flatMap_old hold).append hnew
  rwa [List.append_nil, List.nil_append, ← List.flatMap_singleton f a, ← List.flatMap_append,
    List.flatMap_singleton f a] at hall

end Growing

section Parts
variable {own : Source → Bool} {n : Node} {out more : List Link}

/-- The types of a node to which links are added. -/
theorem grown_types (hobject : own (.object n.id) = false) (hinput : own (.input n.id) = false)
    (hold : ∀ l ∈ out, own (.connectionField n.id l.edge.id) = false)
    (hnew : ∀ l ∈ more, own (.connectionField n.id l.edge.id) = true) :
    Grown own (n.typesSourced out) (n.typesSourced (out ++ more))
      (more.flatMap fun l => Source.ascribe (.connectionField n.id l.edge.id) l.field.lines) := by
  have hfields := (grown_flatMap_old fun l hl => grown_ascribe_old (hold l hl) l.field.lines).append
    (grown_flatMap_new fun l hl => grown_ascribe_new (hnew l hl) l.field.lines)
  rw [← List.flatMap_append, List.append_nil] at hfields
  have hall := (((grown_ascribe_old hobject
    ((n.objectDeclaration []).heading.text :: n.properties.flatMap (·.field.lines))).append
      hfields).append (grown_ascribe_old hobject ["\x7d"])).append
        (grown_ascribe_old hinput n.inputDeclaration.lines)
  rwa [List.nil_append, List.nil_append, List.append_nil, List.append_nil] at hall

/-- The mutations of a node to which links are added. -/
theorem grown_mutations (hnode : own (.mutation n.id) = false)
    (hold : ∀ l ∈ out, own (.edgeMutation n.id l.edge.id) = false)
    (hnew : ∀ l ∈ more, own (.edgeMutation n.id l.edge.id) = true) :
    Grown own (n.mutationsSourced out) (n.mutationsSourced (out ++ more))
      (more.flatMap fun l => Source.ascribe (.edgeMutation n.id l.edge.id)
        (l.mutationFields.flatMap FieldDecl.lines)) := by
  have hfields := (grown_flatMap_old fun l hl => grown_ascribe_old (hold l hl)
    (l.mutationFields.flatMap FieldDecl.lines)).append
      (grown_flatMap_new fun l hl => grown_ascribe_new (hnew l hl)
        (l.mutationFields.flatMap FieldDecl.lines))
  rw [← List.flatMap_append, List.append_nil] at hfields
  exact (grown_ascribe_old hnode ((n.mutationFields []).flatMap FieldDecl.lines)).append hfields

theorem grown_types_old (hobject : own (.object n.id) = false) (hinput : own (.input n.id) = false)
    (hlinks : ∀ l ∈ out, own (.connectionField n.id l.edge.id) = false) :
    Grown own (n.typesSourced out) (n.typesSourced out) [] := by
  have hall := grown_types hobject hinput hlinks fun l hl => absurd hl List.not_mem_nil
  rwa [List.append_nil] at hall

theorem grown_mutations_old (hnode : own (.mutation n.id) = false)
    (hlinks : ∀ l ∈ out, own (.edgeMutation n.id l.edge.id) = false) :
    Grown own (n.mutationsSourced out) (n.mutationsSourced out) [] := by
  have hall := grown_mutations hnode hlinks fun l hl => absurd hl List.not_mem_nil
  rwa [List.append_nil] at hall

theorem grown_types_new (hobject : own (.object n.id) = true) (hinput : own (.input n.id) = true) :
    Grown own [] (n.typesSourced []) (n.typesSourced []) := by
  have hfields : Grown own [] [] [] := ⟨rfl, rfl⟩
  exact (((grown_ascribe_new hobject
    ((n.objectDeclaration []).heading.text :: n.properties.flatMap (·.field.lines))).append
      hfields).append (grown_ascribe_new hobject ["\x7d"])).append
        (grown_ascribe_new hinput n.inputDeclaration.lines)

theorem grown_mutations_new (hnode : own (.mutation n.id) = true) :
    Grown own [] (n.mutationsSourced []) (n.mutationsSourced []) := by
  have hall := grown_ascribe_new hnode ((n.mutationFields []).flatMap FieldDecl.lines)
  rwa [← List.append_nil (Source.ascribe _ _)] at hall

end Parts

/-- What is made for the one node with an id. -/
theorem flatMap_own {α : Type} {nodes : List Node} (hids : (nodes.map Node.id).Nodup) {n : Node}
    (hn : n ∈ nodes) (f : Node → List α) :
    nodes.flatMap (fun m => if n.id = m.id then f m else []) = f n := by
  induction nodes with
  | nil => exact absurd hn List.not_mem_nil
  | cons m ms ih =>
    obtain ⟨hm, hms⟩ := List.nodup_cons.mp hids
    rw [List.flatMap_cons]
    rcases List.mem_cons.mp hn with rfl | hn
    · have hrest : ms.flatMap (fun m => if n.id = m.id then f m else []) = [] := by
        refine List.flatMap_eq_nil_iff.mpr fun m hmem => if_neg fun heq => hm ?_
        exact heq ▸ List.mem_map_of_mem hmem
      rw [if_pos rfl, hrest, List.append_nil]
    · have hne : n.id ≠ m.id := fun heq => hm (heq ▸ List.mem_map_of_mem hn)
      rw [if_neg hne, List.nil_append, ih hms hn]

namespace Store
variable {s t : Store} {d : Diagnosis} {g : Generated}

/-- A document has grown where its parts have; the fixed lines do not change. -/
theorem grown_sourced {own : Source → Bool} {types edges connections queries mutations : List Sourced}
    (hfixed : own .fixed = false)
    (htypes : Grown own (s.allNodes.flatMap fun n => n.typesSourced (s.knownFrom s.links n.id))
      (t.allNodes.flatMap fun n => n.typesSourced (t.knownFrom t.links n.id)) types)
    (hedges : Grown own (s.links.flatMap Link.edgeSourced) (t.links.flatMap Link.edgeSourced) edges)
    (hconnections : Grown own (s.links.flatMap Link.connectionSourced)
      (t.links.flatMap Link.connectionSourced) connections)
    (hqueries : Grown own (s.allNodes.flatMap Node.querySourced)
      (t.allNodes.flatMap Node.querySourced) queries)
    (hmutations : Grown own
      (s.allNodes.flatMap fun n => n.mutationsSourced (s.knownFrom s.links n.id))
      (t.allNodes.flatMap fun n => n.mutationsSourced (t.knownFrom t.links n.id)) mutations) :
    Grown own s.sourced t.sourced (types ++ edges ++ connections ++ queries ++ mutations) := by
  have hall : Grown own s.sourced t.sourced
      ([] ++ types ++ edges ++ connections ++ [] ++ queries ++ [] ++ mutations ++ []) :=
    ((((((((grown_ascribe_old hfixed _).append htypes).append hedges).append hconnections).append
      (grown_ascribe_old hfixed _)).append hqueries).append (grown_ascribe_old hfixed _)).append
        hmutations).append (grown_ascribe_old hfixed _)
  simpa only [List.nil_append, List.append_nil] using hall

section Edges
variable {e : Edge} {l : Link}

/-- What a link adds for the node at its start. -/
theorem flatMap_start {α : Type} (hs : s.Keyed) {id : String}
    (hstart : s.getNode? id = some l.start) (f : Node → Link → List α) :
    s.allNodes.flatMap (fun n => (if id = n.id then [l] else []).flatMap (f n)) =
      f l.start l := by
  have hid : id = l.start.id := hs.nodes.own _ (Registry.mem_of_get? hstart)
  have hall : s.allNodes.flatMap (fun n => (if id = n.id then [l] else []).flatMap (f n)) =
      s.allNodes.flatMap fun n => if l.start.id = n.id then f n l else [] := by
    refine List.flatMap_congr fun n _ => ?_
    rw [hid]
    split
    next => exact List.flatMap_singleton ..
    next => rfl
  rw [hall]
  exact flatMap_own hs.distinct.nodes (Registry.mem_entities_of_get? hstart) fun n => f n l

/-- An edge that a store has accepted, and its link. -/
structure Linking (s t : Store) (e : Edge) (l : Link) : Prop where
  accepted : s.addEdge e = .ok t
  found : t.link? e = some l
  links : t.links = s.links ++ [l]

theorem exists_linking (h : s.addEdge e = .ok t) : ∃ l, Linking s t e l := by
  obtain ⟨hstart, hfinish, hregister⟩ := addEdge_eq_ok.mp h
  obtain ⟨-, rfl⟩ := registerEdge_eq_ok.mp hregister
  obtain ⟨start, hstart⟩ := Registry.exists_get?_of_has hstart
  obtain ⟨finish, hfinish⟩ := Registry.exists_get?_of_has hfinish
  have hlink : s.link? e = some ⟨e, start, finish⟩ := link?_eq_some.mpr ⟨rfl, hstart, hfinish⟩
  refine ⟨_, h, hlink, ?_⟩
  have hedges : Store.allEdges { s with edges := s.edges.add e.id e } = s.allEdges ++ [e] := by
    simp [allEdges, Registry.add, Registry.entities]
  rw [links, hedges, List.filterMap_append]
  exact congrArg (s.links ++ ·) (List.filterMap_cons_some hlink)

namespace Linking
variable (h : Linking s t e l)
include h

theorem edge : l.edge = e := (link?_eq_some.mp h.found).1

theorem nodes : t.nodes = s.nodes := by
  obtain ⟨-, rfl⟩ := registerEdge_eq_ok.mp (addEdge_eq_ok.mp h.accepted).2.2
  rfl

theorem allNodes : t.allNodes = s.allNodes := congrArg Registry.entities h.nodes

theorem start : s.getNode? e.startId = some l.start := by
  rw [← (link?_eq_some.mp h.found).2.1, getNode?, getNode?, h.nodes]

theorem ne (hs : s.Keyed) {m : Link} (hm : m ∈ s.links) : m.edge.id ≠ e.id := by
  obtain ⟨fresh, -⟩ := registerEdge_eq_ok.mp (addEdge_eq_ok.mp h.accepted).2.2
  have hkey : m.edge.id ∈ s.edges.keys :=
    hs.edges.map_ids ▸ List.mem_map_of_mem (edge_mem_of_mem_links hm)
  intro heq
  rw [heq, ← Registry.has_iff, fresh] at hkey
  exact Bool.false_ne_true hkey

/-- The new link is the last of those that start at its node. -/
theorem knownFrom (hs : s.Sound) (id : String) :
    t.knownFrom t.links id = s.knownFrom s.links id ++ if e.startId = id then [l] else [] := by
  have hinsert : Load.insertEdge true s e = .ok t := h.accepted
  have ht : t.Sound := ⟨hs.toKeyed.of_insertEdge hinsert, hs.linked.of_addEdge h.accepted⟩
  rw [knownFrom_eq_filter ht.linked.resolveAll ht.toKeyed.distinct.edges,
    knownFrom_eq_filter hs.linked.resolveAll hs.toKeyed.distinct.edges, h.links,
    List.filter_append, List.filter_singleton, h.edge]
  by_cases hid : e.startId = id <;> simp [hid]

section Owning
variable {source : String → Source} (hedge? : ∀ id, (source id).edge? = some id)
include hedge?

theorem not_owns (hs : s.Keyed) {m : Link} (hm : m ∈ s.links) :
    (Addition.edge e).owns (source m.edge.id) = false := by
  simp [Addition.owns, hedge?, h.ne hs hm]

theorem owns {m : Link} {id : String} (hm : m ∈ if e.startId = id then [l] else []) :
    (Addition.edge e).owns (source m.edge.id) = true := by
  split at hm
  next =>
    obtain rfl := List.mem_singleton.mp hm
    simp [Addition.owns, hedge?, h.edge]
  next => exact absurd hm List.not_mem_nil

variable (source) in
/-- Lines made for each link. -/
theorem grown_links (hs : s.Keyed) (f : Link → List String) :
    Grown (Addition.edge e).owns (s.links.flatMap fun m => (source m.edge.id).ascribe (f m))
      (t.links.flatMap fun m => (source m.edge.id).ascribe (f m))
      ((source l.edge.id).ascribe (f l)) := by
  have hnew : (Addition.edge e).owns (source l.edge.id) = true := by
    simp [Addition.owns, hedge?, h.edge]
  rw [h.links]
  exact grown_flatMap_concat (fun m hm => grown_ascribe_old (h.not_owns hedge? hs hm) _)
    (grown_ascribe_new hnew _)

end Owning

theorem grown_types (hs : s.Sound) :
    Grown (Addition.edge e).owns
      (s.allNodes.flatMap fun n => n.typesSourced (s.knownFrom s.links n.id))
      (t.allNodes.flatMap fun n => n.typesSourced (t.knownFrom t.links n.id))
      (Source.ascribe (.connectionField l.start.id l.edge.id) l.field.lines) := by
  rw [h.allNodes, funext (h.knownFrom hs), ← flatMap_start hs.toKeyed h.start fun n m =>
    Source.ascribe (.connectionField n.id m.edge.id) m.field.lines]
  exact Grown.flatMap fun n _ => GraphSchema.grown_types rfl rfl
    (fun m hm => h.not_owns (fun _ => rfl) hs.toKeyed (mem_of_mem_knownFrom hm))
    fun m hm => h.owns (fun _ => rfl) hm

theorem grown_mutations (hs : s.Sound) :
    Grown (Addition.edge e).owns
      (s.allNodes.flatMap fun n => n.mutationsSourced (s.knownFrom s.links n.id))
      (t.allNodes.flatMap fun n => n.mutationsSourced (t.knownFrom t.links n.id))
      (Source.ascribe (.edgeMutation l.start.id l.edge.id)
        (l.mutationFields.flatMap FieldDecl.lines)) := by
  rw [h.allNodes, funext (h.knownFrom hs), ← flatMap_start hs.toKeyed h.start fun n m =>
    Source.ascribe (.edgeMutation n.id m.edge.id) (m.mutationFields.flatMap FieldDecl.lines)]
  exact Grown.flatMap fun n _ => GraphSchema.grown_mutations rfl
    (fun m hm => h.not_owns (fun _ => rfl) hs.toKeyed (mem_of_mem_knownFrom hm))
    fun m hm => h.owns (fun _ => rfl) hm

end Linking

theorem grown_addEdge (hs : s.Sound) (h : s.addEdge e = .ok t) :
    Grown (Addition.edge e).owns s.sourced t.sourced (t.sourcedOf (.edge e)) := by
  obtain ⟨l, hl⟩ := exists_linking h
  have hedges := hl.grown_links .edgeType (fun _ => rfl) hs.toKeyed
    (·.edgeDeclaration.lines)
  have hconnections := hl.grown_links .connectionType (fun _ => rfl) hs.toKeyed
    (·.connectionDeclaration.lines)
  have hqueries : Grown (Addition.edge e).owns (s.allNodes.flatMap Node.querySourced)
      (t.allNodes.flatMap Node.querySourced) [] := by
    rw [hl.allNodes]
    exact grown_flatMap_old fun n _ => grown_ascribe_old rfl _
  have hlines : t.sourcedOf (.edge e) = l.sourced := by
    rw [sourcedOf, hl.found]
    exact List.flatMap_singleton _ _
  rw [hlines, Link.sourced, ← List.append_nil (_ ++ l.connectionSourced)]
  exact grown_sourced rfl (hl.grown_types hs) hedges hconnections hqueries (hl.grown_mutations hs)

end Edges

section Nodes
variable {n : Node}

theorem getNode?_addNode (h : s.addNode n = .ok t) {id : String} (hid : s.nodes.has id = true) :
    t.getNode? id = s.getNode? id := by
  obtain ⟨-, rfl⟩ := addNode_eq_ok.mp h
  obtain ⟨m, hm⟩ := Registry.exists_get?_of_has hid
  have hfound : s.nodes.lookup id = some m := hm
  rw [getNode?, getNode?, Registry.get?, Registry.get?, Registry.add, List.lookup_append, hfound]
  rfl

theorem links_addNode (hl : s.Linked) (h : s.addNode n = .ok t) : t.links = s.links := by
  rw [links, links, allEdges_of_addNode h]
  refine List.filterMap_congr fun e he => ?_
  obtain ⟨hstart, hfinish⟩ := hl e he
  rw [link?, link?, getNode?_addNode h (Registry.has_iff.mpr hstart),
    getNode?_addNode h (Registry.has_iff.mpr hfinish)]

theorem knownFrom_fresh (hl : s.Linked) {id : String} (hid : s.nodes.has id = false) :
    s.knownFrom s.links id = [] := by
  have hstarting : s.startingAt id = [] := by
    refine List.filter_eq_nil_iff.mpr fun e he => ?_
    simp [(hl.untouched hid he).1]
  rw [knownFrom, hstarting]
  rfl

section Adding
variable (hs : s.Sound) (h : s.addNode n = .ok t)
include hs h

theorem ne_of_node_addNode {m : Node} (hm : m ∈ s.allNodes) : m.id ≠ n.id := by
  obtain ⟨fresh, -⟩ := addNode_eq_ok.mp h
  have hkey : m.id ∈ s.nodes.keys := hs.nodes.map_ids ▸ List.mem_map_of_mem hm
  intro heq
  rw [heq, ← Registry.has_iff, fresh] at hkey
  exact Bool.false_ne_true hkey

theorem not_owns_addNode {source : String → Source} (hnode? : ∀ id, (source id).node? = some id)
    {m : Node} (hm : m ∈ s.allNodes) : (Addition.node n).owns (source m.id) = false := by
  simp [Addition.owns, hnode?, ne_of_node_addNode hs h hm]

/-- Lines made for each node and its links, of which the new node has none. -/
theorem grown_nodes {f : Node → List Link → List Sourced}
    (hold : ∀ m ∈ s.allNodes, ∀ ls, Grown (Addition.node n).owns (f m ls) (f m ls) [])
    (hnew : Grown (Addition.node n).owns [] (f n []) (f n [])) :
    Grown (Addition.node n).owns (s.allNodes.flatMap fun m => f m (s.knownFrom s.links m.id))
      (t.allNodes.flatMap fun m => f m (t.knownFrom t.links m.id)) (f n []) := by
  have hnodes : t.allNodes = s.allNodes ++ [n] := by
    obtain ⟨-, rfl⟩ := addNode_eq_ok.mp h
    simp [allNodes, Registry.add, Registry.entities]
  have hknown : t.knownFrom t.links = s.knownFrom s.links := by
    funext id
    rw [knownFrom, knownFrom, startingAt, startingAt, allEdges_of_addNode h,
      links_addNode hs.linked h]
  have hnone : s.knownFrom s.links n.id = [] := knownFrom_fresh hs.linked (addNode_eq_ok.mp h).1
  rw [hnodes, hknown, ← hnone]
  rw [← hnone] at hnew
  exact grown_flatMap_concat (fun m hm => hold m hm _) hnew

theorem grown_addNode :
    Grown (Addition.node n).owns s.sourced t.sourced (t.sourcedOf (.node n)) := by
  have hnew (source : String → Source) (hnode? : ∀ id, (source id).node? = some id) :
      (Addition.node n).owns (source n.id) = true := by
    simp [Addition.owns, hnode?]
  have htypes := grown_nodes hs h (f := Node.typesSourced)
    (fun m hm _ => grown_types_old (not_owns_addNode hs h (fun _ => rfl) hm)
      (not_owns_addNode hs h (fun _ => rfl) hm) fun _ _ => rfl)
    (grown_types_new (hnew .object fun _ => rfl) (hnew .input fun _ => rfl))
  have hmutations := grown_nodes hs h (f := Node.mutationsSourced)
    (fun m hm _ => grown_mutations_old (not_owns_addNode hs h (fun _ => rfl) hm) fun _ _ => rfl)
    (grown_mutations_new (hnew .mutation fun _ => rfl))
  have hqueries := grown_nodes hs h (f := fun m _ => m.querySourced)
    (fun m hm _ => grown_ascribe_old (not_owns_addNode hs h (fun _ => rfl) hm) _)
    (grown_ascribe_new (hnew .query fun _ => rfl) _)
  have hedges (f : Link → List Sourced)
      (hf : ∀ l, Grown (Addition.node n).owns (f l) (f l) []) :
      Grown (Addition.node n).owns (s.links.flatMap f) (t.links.flatMap f) [] := by
    rw [links_addNode hs.linked h]
    exact grown_flatMap_old fun l _ => hf l
  have hall := grown_sourced rfl htypes
    (hedges Link.edgeSourced fun _ => grown_ascribe_old rfl _)
    (hedges Link.connectionSourced fun _ => grown_ascribe_old rfl _) hqueries hmutations
  rwa [List.append_nil, List.append_nil] at hall

end Adding

end Nodes

section Removal

theorem removeFrom_of_addTo (hl : s.Linked) {a : Addition} (h : a.addTo s = .ok t) :
    a.removeFrom t = .ok s := by
  cases a with
  | node n => exact (hl.grafted h).removeNode (addNode_eq_ok.mp h).1
  | edge e => exact removeEdge_of_addEdge h

theorem grown_addTo (hs : s.Sound) {a : Addition} (h : a.addTo s = .ok t) :
    Grown a.owns s.sourced t.sourced (t.sourcedOf a) := by
  cases a with
  | node n => exact grown_addNode hs h
  | edge e => exact grown_addEdge hs h

theorem linked_addTo (hl : s.Linked) {a : Addition} (h : a.addTo s = .ok t) : t.Linked := by
  cases a with
  | node n => exact hl.of_addNode h
  | edge e => exact hl.of_addEdge h

theorem mem_properties_addTo {a : Addition} (h : a.addTo s = .ok t) {p : Property} :
    p ∈ t.properties ↔ p ∈ s.properties ∨ p ∈ a.properties := by
  cases a with
  | node n =>
    obtain ⟨-, rfl⟩ := addNode_eq_ok.mp h
    simp only [properties, allNodes, allEdges, Registry.add, Registry.entities, List.map_append,
      List.map_cons, List.map_nil, List.flatMap_append, List.flatMap_cons, List.flatMap_nil,
      List.append_nil, List.mem_append]
    exact or_right_comm
  | edge e =>
    obtain ⟨-, rfl⟩ := registerEdge_eq_ok.mp (addEdge_eq_ok.mp h).2.2
    simp only [properties, allNodes, allEdges, Registry.add, Registry.entities, List.map_append,
      List.map_cons, List.map_nil, List.flatMap_append, List.flatMap_cons, List.flatMap_nil,
      List.append_nil, List.mem_append]
    exact or_assoc.symm

/-- What a store accepts grows its document by the lines made from it, unless a value of it cannot be
written, and taking it out again gives the store back. Loads and edits reach no store that is not
keyed. -/
theorem generate_addTo (hs : s.Keyed) (hpolicy : d.collisions ≠ .error)
    (hg : (d.generate s.provider).outcome = .ok g) {a : Addition}
    (ha : ∀ p ∈ a.properties, p.scalar?.isSome) (h : a.addTo s = .ok t) :
    ((∃ g', (d.generate t.provider).outcome = .ok g') ↔ ∀ p ∈ a.properties, p.beyond? = none) ∧
    (∀ g', (d.generate t.provider).outcome = .ok g' →
      Text.solidLines g.document.toList = s.sourced.flatMap Sourced.lines ∧
      Text.solidLines g'.document.toList = t.sourced.flatMap Sourced.lines ∧
      Grown a.owns s.sourced t.sourced (t.sourcedOf a)) ∧
    a.removeFrom t = .ok s := by
  obtain ⟨hl, hdeclarable⟩ := linked_of_generate hg
  refine ⟨⟨?_, fun hvalues => ?_⟩, fun g' hg' => ?_, removeFrom_of_addTo hl h⟩
  · rintro ⟨g', hg'⟩ p hp
    exact ((linked_of_generate hg').2 p ((mem_properties_addTo h).mpr (.inr hp))).values
  · have hall : ∀ p ∈ t.properties, p.Declarable := fun p hp =>
      ((mem_properties_addTo h).mp hp).elim (hdeclarable p) fun hp => ⟨ha p hp, hvalues p hp⟩
    exact exists_generate_of_linked (linked_addTo hl h) hall hpolicy
  · exact ⟨solidLines_document hg, solidLines_document hg', grown_addTo ⟨hs, hl⟩ h⟩

/-- In a store that loads and edits reach the lines of an addition are put between those that are
there. -/
theorem Reached.grown_document {g' : Generated} (hs : s.Reached)
    (hg : (d.generate s.provider).outcome = .ok g) {a : Addition} (h : a.addTo s = .ok t)
    (hg' : (d.generate t.provider).outcome = .ok g') :
    Text.solidLines g.document.toList = s.sourced.flatMap Sourced.lines ∧
      Text.solidLines g'.document.toList = t.sourced.flatMap Sourced.lines ∧
      Grown a.owns s.sourced t.sourced (t.sourcedOf a) :=
  ⟨solidLines_document hg, solidLines_document hg',
    grown_addTo ⟨hs.keyed, (linked_of_generate hg).1⟩ h⟩

end Removal

/-- A second edge of a person of the town. -/
def move : Edge := { id := "moves", label := "moves to", startId := "p", endId := "c" }

/-- The person gets a field, and the edge two types and two mutations. -/
theorem generate_addTo_town :
    ∃ g t, (Diagnosis.generate {} town.provider).outcome = .ok g ∧
      (Addition.edge move).addTo town = .ok t ∧
      ((∃ g', (Diagnosis.generate {} t.provider).outcome = .ok g') ↔
        ∀ p ∈ (Addition.edge move).properties, p.beyond? = none) ∧
      (∀ g', (Diagnosis.generate {} t.provider).outcome = .ok g' →
        Text.solidLines g.document.toList = town.sourced.flatMap Sourced.lines ∧
        Text.solidLines g'.document.toList = t.sourced.flatMap Sourced.lines ∧
        Grown (Addition.edge move).owns town.sourced t.sourced (t.sourcedOf (.edge move))) ∧
      (Addition.edge move).removeFrom t = .ok town := by
  have hsound := origin_town.sound
  have hpolicy : ({} : Diagnosis).collisions ≠ .error := by decide
  have hdeclarable : ∀ p ∈ town.properties, p.Declarable := by decide
  have hempty : ∀ p ∈ (Addition.edge move).properties, p.scalar?.isSome := by decide
  obtain ⟨g, hg⟩ := exists_generate_of_linked hsound.linked hdeclarable hpolicy
  have hadd : (Addition.edge move).addTo town = .ok _ := rfl
  exact ⟨g, _, hg, hadd, generate_addTo hsound.toKeyed hpolicy hg hempty hadd⟩

end Store
end GraphSchema
