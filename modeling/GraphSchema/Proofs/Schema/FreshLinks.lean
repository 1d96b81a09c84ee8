import GraphSchema.Proofs.Graph.History

/-! The table of outgoing links is made from the links that are there already. It is the table, or
the failure, that resolving every edge anew gives, whatever provides the graph, as long as an id
stands for one edge. The table of a store holds each of its links once. -/
namespace GraphSchema
namespace Provider
variable {p : Provider} {links : List Link} {e : Edge} {l : Link} {o : Outgoing}

/-- All edges that generation is given: those of the whole graph and those that start at its nodes.
-/
def givenEdges (p : Provider) : List Edge :=
  p.edges ++ p.nodes.flatMap fun n => p.startingAt n.id

/-- Of the edges that are given, no two differ under one id. -/
def Unambiguous (p : Provider) : Prop :=
  ∀ e ∈ p.givenEdges, ∀ f ∈ p.givenEdges, e.id = f.id → e = f

/-- The links that start at the node with an id, each resolved anew. -/
def linksAfresh (p : Provider) (id : String) : Except GenerationError (List Link) :=
  eachOk p.resolve (p.startingAt id)

/-- The table of outgoing links made without any link that was resolved before. -/
def outgoingAfresh (p : Provider) : Except GenerationError Outgoing :=
  eachOk (fun n => (p.linksAfresh n.id).map (n.id, ·)) p.nodes

theorem resolve_of_mem_links (h : p.resolveAll p.edges = .ok links) (hl : l ∈ links) :
    p.resolve l.edge = .ok l := by
  have hmem : .ok l ∈ p.edges.map p.resolve := by
    rw [eachOk_eq_ok.mp h]
    exact List.mem_map_of_mem hl
  obtain ⟨e, -, he⟩ := List.mem_map.mp hmem
  rw [(resolve_eq_ok.mp he).1]
  exact he

/-- A link under the id of an edge is the link of that edge. -/
theorem resolveKnown_eq (hu : p.Unambiguous) (h : p.resolveAll p.edges = .ok links)
    (he : e ∈ p.givenEdges) : p.resolveKnown links e = p.resolve e := by
  rw [resolveKnown]
  cases hlast : lastWithId links e.id with
  | none => rfl
  | some l =>
    have hl : l ∈ links := mem_of_lastWithId hlast
    have hid : l.edge.id = e.id := by simpa using List.find?_some hlast
    have hedge : l.edge ∈ p.edges := by
      rw [← resolveAll_edges h]
      exact List.mem_map_of_mem hl
    have hsame : l.edge = e := hu _ (List.mem_append_left _ hedge) _ he hid
    rw [← hsame, resolve_of_mem_links h hl]

theorem outgoing_eq_afresh (hu : p.Unambiguous) (h : p.resolveAll p.edges = .ok links) :
    p.outgoing links = p.outgoingAfresh := by
  apply eachOk_congr
  intro n hn
  have hknown : eachOk (p.resolveKnown links) (p.startingAt n.id) = p.linksAfresh n.id := by
    apply eachOk_congr
    intro e he
    exact resolveKnown_eq hu h (List.mem_append_right _ (List.mem_flatMap.mpr ⟨n, hn, he⟩))
  rw [hknown]

/-- A table made anew has for every node, also for one whose id comes again, the links that start
there. -/
theorem linksAfresh_of_mem (h : p.outgoingAfresh = .ok o) {n : Node} (hn : n ∈ p.nodes) :
    p.linksAfresh n.id = .ok (o.of n) := by
  let found (id : String) : List Link := (p.linksAfresh id).toOption.getD []
  have hstep (m : Node) (entry : String × List Link) :
      (p.linksAfresh m.id).map (m.id, ·) = .ok entry ↔
        p.linksAfresh m.id = .ok (found m.id) ∧ entry = (m.id, found m.id) := by
    rw [map_eq_ok]
    cases hm : p.linksAfresh m.id with
    | error x => simp
    | ok ls => simp [found, hm, Except.toOption, eq_comm]
  obtain ⟨hok, rfl⟩ := (eachOk_eq_ok_map hstep).mp h
  rw [hok n hn, Outgoing.of_map hn]

end Provider

namespace Store
open Provider
variable {s : Store} {links : List Link}

/-- The links of a store, cut by the nodes at which they start, fall into parts without rest or
overlap. -/
theorem perm_links_from (hs : s.Keyed) (h : s.provider.resolveAll s.allEdges = .ok links) :
    (s.allNodes.flatMap fun n => links.filter fun l => l.edge.startId = n.id).Perm links := by
  have hstart : ∀ l ∈ links, l.edge.startId ∈ s.allNodes.map Node.id := by
    intro l hl
    have hnode : s.getNode? l.edge.startId = some l.start :=
      (resolve_eq_ok.mp (resolve_of_mem_links h hl)).2.1
    have hids : s.allNodes.map Node.id = s.nodes.keys := hs.nodes.map_ids
    rw [hids]
    exact List.mem_map_of_mem (Registry.mem_of_get? hnode)
  have hperm := perm_of_keys hs.nodes.nodup_ids hstart
  rwa [List.flatMap_map] at hperm

end Store

/-- Once all edges have been resolved, the table made from their links is the table that resolving
every outgoing edge anew gives, or fails as that does, for edges that are not among all edges and
for nodes whose id comes again as well. For a store in which every entity stands under its own id,
as in all that loads and edits reach, the table gives each node the links that start there in the
order of the edges, and each link stands in it once. -/
theorem outgoing_afresh :
    (∀ (p : Provider) (links : List Link), p.Unambiguous → p.resolveAll p.edges = .ok links →
      p.outgoing links = p.outgoingAfresh ∧
        ∀ o, p.outgoing links = .ok o → ∀ n ∈ p.nodes, p.linksAfresh n.id = .ok (o.of n)) ∧
    ∀ (s : Store) (links : List Link), s.Keyed → s.provider.resolveAll s.allEdges = .ok links →
      ∃ o, s.provider.outgoing links = .ok o ∧ o.map (·.1) = s.allNodes.map Node.id ∧
        (∀ n ∈ s.allNodes, o.of n = links.filter fun l => l.edge.startId = n.id) ∧
        links.map Link.edge = s.allEdges ∧ (o.flatMap (·.2)).Perm links ∧
        (links.map fun l => l.edge.id).Nodup := by
  constructor
  · intro p links hu h
    have hafresh := Provider.outgoing_eq_afresh hu h
    exact ⟨hafresh, fun o ho n hn => Provider.linksAfresh_of_mem (hafresh ▸ ho) hn⟩
  · intro s links hs h
    have hfrom (id : String) := Store.knownFrom_eq_filter h hs.distinct.edges id
    have hedges : links.map Link.edge = s.allEdges := Provider.resolveAll_edges h
    refine ⟨_, Store.outgoing_eq h, ?_, ?_, hedges, ?_, ?_⟩
    · rw [List.map_map]
      rfl
    · intro n hn
      rw [Outgoing.of_map hn, hfrom]
    · rw [List.flatMap_map]
      simp only [hfrom]
      exact Store.perm_links_from hs h
    · have hids := hs.distinct.edges
      rw [← hedges, List.map_map] at hids
      exact hids

def Provider.ann : Node := { id := "a", label := "ann" }
def Provider.bea : Node := { id := "b", label := "bea" }
def Provider.knows : Edge := { id := "k", label := "knows", startId := "a", endId := "b" }
def Provider.likes : Edge := { id := "l", label := "likes", startId := "a", endId := "b" }

/-- Ann is listed twice, and one of the edges that start at her is not listed. -/
def Provider.couple : Provider where
  nodes := [ann, bea, ann]
  edges := [knows]
  node? := fun id => if id = "a" then some ann else if id = "b" then some bea else none
  startingAt := fun id => if id = "a" then [knows, likes] else []

theorem Provider.unambiguous_couple : couple.Unambiguous := by
  have hgiven : couple.givenEdges = [knows, knows, likes, knows, likes] := rfl
  have heither : ∀ e ∈ couple.givenEdges, e = knows ∨ e = likes := by
    rw [hgiven]
    simp
  intro e he f hf hid
  rcases heither e he with rfl | rfl
  · rcases heither f hf with rfl | rfl
    · rfl
    · exact absurd hid (by decide)
  · rcases heither f hf with rfl | rfl
    · exact absurd hid (by decide)
    · rfl

/-- The link that was resolved before serves twice, and the edge that is not listed is resolved for
each of the two entries. -/
theorem outgoing_afresh_couple :
    let known : List Link := [⟨Provider.knows, Provider.ann, Provider.bea⟩]
    let both : List Link := known ++ [⟨Provider.likes, Provider.ann, Provider.bea⟩]
    Provider.couple.Unambiguous ∧
      Provider.couple.resolveAll Provider.couple.edges = .ok known ∧
      Provider.couple.outgoing known = .ok [("a", both), ("b", []), ("a", both)] ∧
      Provider.couple.outgoing known = Provider.couple.outgoingAfresh ∧
      Store.town.Keyed ∧
      Store.town.provider.resolveAll Store.town.allEdges = .ok Store.town.links ∧
      ∃ o, Store.town.provider.outgoing Store.town.links = .ok o ∧
        (o.flatMap (·.2)).Perm Store.town.links := by
  intro known both
  have hknown : Provider.couple.resolveAll Provider.couple.edges = .ok known := rfl
  have hkeyed : Store.town.Keyed := Store.origin_town.sound.toKeyed
  have htown := Store.origin_town.sound.linked.resolveAll
  have hcouple := outgoing_afresh.1 _ _ Provider.unambiguous_couple hknown
  obtain ⟨o, ho, -, -, -, hperm, -⟩ := outgoing_afresh.2 _ _ hkeyed htown
  exact ⟨Provider.unambiguous_couple, hknown, rfl, hcouple.1, hkeyed, htown, o, ho, hperm⟩

end GraphSchema
