import GraphSchema.Proofs.Graph.Integrity
import GraphSchema.Proofs.Graph.Renaming
import GraphSchema.Proofs.Schema.Outcome
import GraphSchema.Proofs.Text.Capitals

/-! Repeated names that no report tells: fields of edge types, and arguments of mutations. The
reports look neither at the properties of edges nor at arguments. -/
namespace GraphSchema

section Bare

/-- An edge without its properties. -/
def Edge.bare (e : Edge) : Edge := { e with properties := [] }

def Link.bare (l : Link) : Link := { l with edge := l.edge.bare }

def Store.bare (s : Store) : Store := { s with edges := s.edges.renamed id Edge.bare }

theorem Outgoing.of_bare (outgoing : Outgoing) (n : Node) :
    Outgoing.of (Registry.renamed id (List.map Link.bare) outgoing) n =
      (outgoing.of n).map Link.bare := by
  have hlookup : (Registry.renamed id (List.map Link.bare) outgoing).lookup n.id =
      (outgoing.lookup n.id).map (List.map Link.bare) := Registry.get?_renamed fun _ _ h => h
  rw [Outgoing.of, Outgoing.of, hlookup]
  cases outgoing.lookup n.id <;> rfl

/-- What is claimed is claimed by labels and ids, and by the properties of nodes. -/
theorem namingCollisions_bare (nodes : List Node) (links : List Link) (outgoing : Outgoing) :
    namingCollisions nodes (links.map Link.bare)
        (Registry.renamed id (List.map Link.bare) outgoing) =
      namingCollisions nodes links outgoing := by
  have htypes : typeBearings nodes (links.map Link.bare) = typeBearings nodes links := by
    rw [typeBearings, typeBearings, List.flatMap_map]
    rfl
  have hfields (n : Node) (ls : List Link) :
      fieldBearings n (ls.map Link.bare) = fieldBearings n ls := by
    rw [fieldBearings, fieldBearings, List.map_map]
    rfl
  simp only [namingCollisions, htypes, Outgoing.of_bare, hfields]

namespace Store
open Provider
variable (s : Store)

theorem allEdges_bare : s.bare.allEdges = s.allEdges.map Edge.bare := Registry.entities_renamed

theorem links_bare : s.bare.links = s.links.map Link.bare := by
  have hlink (e : Edge) : s.bare.link? e.bare = (s.link? e).map Link.bare := by
    have hnode (id : String) : s.bare.getNode? id = s.getNode? id := rfl
    have hstart : e.bare.startId = e.startId := rfl
    have hfinish : e.bare.endId = e.endId := rfl
    rw [link?, link?, hnode, hnode, hstart, hfinish]
    cases s.getNode? e.startId <;> cases s.getNode? e.endId <;> rfl
  rw [links, links, allEdges_bare, List.filterMap_map, List.map_filterMap]
  exact List.filterMap_congr fun e _ => hlink e

theorem knownFrom_bare (links : List Link) (id : String) :
    s.bare.knownFrom (links.map Link.bare) id = (s.knownFrom links id).map Link.bare := by
  have hlast (e : Edge) : lastWithId (links.map Link.bare) e.bare.id =
      (lastWithId links e.id).map Link.bare := by
    rw [lastWithId, lastWithId, ← List.map_reverse, List.find?_map]
    rfl
  have hstarting : s.bare.startingAt id = (s.startingAt id).map Edge.bare := by
    rw [startingAt, startingAt, allEdges_bare, List.filter_map]
    rfl
  rw [knownFrom, knownFrom, hstarting, List.filterMap_map, List.map_filterMap]
  exact List.filterMap_congr fun e _ => hlast e

/-- The report is the same whatever properties the edges have. -/
theorem collisions_bare : s.bare.collisions = s.collisions := by
  -- A link is found by the id of its edge, which loses only its properties.
  have houtgoing : s.bare.outgoing = Registry.renamed id (List.map Link.bare) s.outgoing := by
    have hnodes : s.bare.allNodes = s.allNodes := rfl
    rw [outgoing, outgoing, hnodes, Registry.renamed, List.map_map]
    refine List.map_congr_left fun n _ => ?_
    rw [links_bare, knownFrom_bare]
    rfl
  rw [collisions, links_bare, houtgoing]
  exact namingCollisions_bare s.allNodes s.links s.outgoing

end Store
end Bare

/-- A field of an edge type stands twice where two properties have one key, or where one has the key
of the field that is always there. -/
theorem Link.nodup_edgeFields_iff (l : Link) : l.edgeDeclaration.fieldNames.Nodup ↔
    (l.edge.properties.map Property.key).Nodup ∧ ∀ p ∈ l.edge.properties, p.key ≠ "node" := by
  have hnames : l.edgeDeclaration.fieldNames = "node" :: l.edge.properties.map Property.key := by
    simp [edgeDeclaration, Declaration.fieldNames, Declaration.fields, Property.field,
      Function.comp_def]
  rw [hnames, List.nodup_cons, List.mem_map, and_comm]
  simp only [not_exists, not_and, ne_eq]

section Arguments

/-- No type is named like the argument for the id. -/
theorem Node.nodup_arguments {n : Node} {f : FieldDecl} (hf : f ∈ n.mutationFields []) :
    (f.arguments.map Argument.name).Nodup := by
  have hid : n.typeName ≠ "id" := Node.typeName_ne_of_small rfl rfl
  simp only [Node.mutationFields, List.flatMap_nil, List.append_nil, List.mem_cons,
    List.not_mem_nil, or_false] at hf
  rcases hf with rfl | rfl | rfl
  · exact List.nodup_singleton _
  · exact List.nodup_cons.mpr ⟨fun hmem => hid (List.mem_singleton.mp hmem), List.nodup_singleton _⟩
  · exact List.nodup_singleton _

theorem Link.nodup_arguments_iff {l : Link} {f : FieldDecl} (hf : f ∈ l.mutationFields) :
    (f.arguments.map Argument.name).Nodup ↔ l.finish.typeName ≠ l.start.typeName ++ "Id" := by
  obtain ⟨verb, -, rfl⟩ := List.mem_map.mp hf
  change [l.start.typeName ++ "Id", l.finish.typeName].Nodup ↔ _
  rw [List.nodup_cons, List.mem_singleton, and_iff_left (List.nodup_singleton _)]
  exact ne_comm

end Arguments

namespace Store
variable {s : Store} {links : List Link}

/-- The links that start at each node, and the outline that every document prints. -/
theorem outgoing_and_document (hlinks : s.provider.resolveAll s.allEdges = .ok links) :
    links = s.links ∧ s.provider.outgoing links = .ok s.outgoing ∧
      ∀ (d : Diagnosis) (g : Generated), (d.generate s.provider).outcome = .ok g →
        g.document = (Outline.of s.allNodes links s.outgoing.of).text := by
  obtain rfl := eq_links_of_resolveAll hlinks
  refine ⟨rfl, outgoing_eq hlinks, fun d g hg => ?_⟩
  have houtline : s.outline = Outline.of s.allNodes s.links s.outgoing.of :=
    Outline.of_congr fun n hn => (Outgoing.of_map hn).symm
  rw [(generate_outline hg).2.2, houtline]

/-- The report on names is that of the same graph without properties on its edges. The fields of an
edge type are distinct exactly if the keys of the edge's properties are and none of them is "node",
whether or not the report is empty. -/
theorem edgeFields_nodup_iff (hlinks : s.provider.resolveAll s.allEdges = .ok links) :
    ∃ outgoing, s.provider.outgoing links = .ok outgoing ∧
      namingCollisions s.allNodes links outgoing = s.bare.collisions ∧
      (∀ l ∈ links, l.edgeDeclaration.fieldNames.Nodup ↔
        (l.edge.properties.map Property.key).Nodup ∧ ∀ p ∈ l.edge.properties, p.key ≠ "node") ∧
      ∀ (d : Diagnosis) (g : Generated), (d.generate s.provider).outcome = .ok g →
        g.document = (Outline.of s.allNodes links outgoing.of).text := by
  obtain ⟨rfl, houtgoing, hdocument⟩ := outgoing_and_document hlinks
  exact ⟨s.outgoing, houtgoing, s.collisions_bare.symm, fun l _ => l.nodup_edgeFields_iff,
    hdocument⟩

/-- Persons who know each other, each acquaintance with a property named like the fixed field. -/
def acquaintances : Value := .object [
  ("nodes", .list [.object [("id", .text "p"), ("label", .text "person")]]),
  ("edges", .list [.object [("id", .text "k"), ("label", .text "knows"),
    ("startNodeID", .text "p"), ("endNodeID", .text "p"),
    ("properties", .list [.object [("key", .text "node"), ("type", .text "Datetime")]])]])]

theorem edgeFields_acquaintances :
    ∃ s, (Load.document true 0 acquaintances).outcome = .ok s ∧
      s.provider.resolveAll s.allEdges = .ok s.links ∧
      ∃ outgoing, s.provider.outgoing s.links = .ok outgoing ∧
        namingCollisions s.allNodes s.links outgoing = s.bare.collisions ∧
        (∀ l ∈ s.links, l.edgeDeclaration.fieldNames.Nodup ↔
          (l.edge.properties.map Property.key).Nodup ∧ ∀ p ∈ l.edge.properties, p.key ≠ "node") ∧
        ∀ (d : Diagnosis) (g : Generated), (d.generate s.provider).outcome = .ok g →
          g.document = (Outline.of s.allNodes s.links outgoing.of).text := by
  have hload : (Load.document true 0 acquaintances).outcome = .ok _ := rfl
  have hlinks := (Origin.loaded hload).sound.linked.resolveAll
  exact ⟨_, hload, hlinks, edgeFields_nodup_iff hlinks⟩

/-- The report of the acquaintances is empty, and their type has two fields of one name. -/
theorem edgeFields_repeated :
    ∃ s links outgoing, (Load.document true 0 acquaintances).outcome = .ok s ∧
      s.provider.resolveAll s.allEdges = .ok links ∧ s.provider.outgoing links = .ok outgoing ∧
      namingCollisions s.allNodes links outgoing = [] ∧
      (∃ g, (Diagnosis.generate { collisions := .error } s.provider).outcome = .ok g) ∧
      ∃ l ∈ links, l.edgeDeclaration.fieldNames = ["node", "node"] := by
  refine ⟨_, _, _, rfl, rfl, rfl, ?_, ⟨_, rfl⟩, _, List.mem_singleton.mpr rfl, ?_⟩
  · decide +kernel
  · decide

/-- The arguments of a mutation are distinct, unless the mutation adds or removes an edge whose end
has the name of its start with "Id" behind it. -/
theorem arguments_nodup_iff (hlinks : s.provider.resolveAll s.allEdges = .ok links) :
    ∃ outgoing, s.provider.outgoing links = .ok outgoing ∧
      (∀ f ∈ (mutationDeclaration s.allNodes outgoing.of).fields,
        (f.arguments.map Argument.name).Nodup ↔ ∀ l ∈ links, f ∈ l.mutationFields →
          l.finish.typeName ≠ l.start.typeName ++ "Id") ∧
      ∀ (d : Diagnosis) (g : Generated), (d.generate s.provider).outcome = .ok g →
        g.document = (Outline.of s.allNodes links outgoing.of).text := by
  obtain ⟨rfl, houtgoing, hdocument⟩ := outgoing_and_document hlinks
  refine ⟨s.outgoing, houtgoing, fun f hf => ⟨?_, ?_⟩, hdocument⟩
  · exact fun hnodup l _ hmem => (Link.nodup_arguments_iff hmem).mp hnodup
  · intro hapart
    obtain ⟨n, hn, hf | ⟨l, hl, hf⟩⟩ := mem_fields_mutationDeclaration.mp hf
    · exact Node.nodup_arguments hf
    · rw [outgoing_of hlinks houtgoing hn] at hl
      exact (Link.nodup_arguments_iff hf).mpr (hapart l (mem_of_mem_knownFrom hl) hf)

/-- A user who has a user id, both of them nodes. -/
def accounts : Value := .object [
  ("nodes", .list [.object [("id", .text "u"), ("label", .text "user")],
    .object [("id", .text "i"), ("label", .text "userId")]]),
  ("edges", .list [.object [("id", .text "h"), ("label", .text "has"),
    ("startNodeID", .text "u"), ("endNodeID", .text "i")]])]

theorem arguments_accounts :
    ∃ s, (Load.document true 0 accounts).outcome = .ok s ∧
      s.provider.resolveAll s.allEdges = .ok s.links ∧
      ∃ outgoing, s.provider.outgoing s.links = .ok outgoing ∧
        (∀ f ∈ (mutationDeclaration s.allNodes outgoing.of).fields,
          (f.arguments.map Argument.name).Nodup ↔ ∀ l ∈ s.links, f ∈ l.mutationFields →
            l.finish.typeName ≠ l.start.typeName ++ "Id") ∧
        ∀ (d : Diagnosis) (g : Generated), (d.generate s.provider).outcome = .ok g →
          g.document = (Outline.of s.allNodes s.links outgoing.of).text := by
  have hload : (Load.document true 0 accounts).outcome = .ok _ := rfl
  have hlinks := (Origin.loaded hload).sound.linked.resolveAll
  exact ⟨_, hload, hlinks, arguments_nodup_iff hlinks⟩

/-- Both reports on the accounts are empty, and adding a user id takes one argument twice. -/
theorem arguments_repeated :
    ∃ s links outgoing, (Load.document true 0 accounts).outcome = .ok s ∧
      s.provider.resolveAll s.allEdges = .ok links ∧ s.provider.outgoing links = .ok outgoing ∧
      namingCollisions s.allNodes links outgoing = [] ∧ invalidIdentifiers s.allNodes links = [] ∧
      (∃ g, (Diagnosis.generate { collisions := .error } s.provider).outcome = .ok g) ∧
      ∃ f ∈ (mutationDeclaration s.allNodes outgoing.of).fields,
        f.name = "addUserHasUserId" ∧ f.arguments.map Argument.name = ["UserId", "UserId"] := by
  refine ⟨_, _, _, rfl, rfl, rfl, ?_, ?_, ⟨_, rfl⟩, ?_⟩
  · decide +kernel
  · decide +kernel
  · decide +kernel

end Store
end GraphSchema
