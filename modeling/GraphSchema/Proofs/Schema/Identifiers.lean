import GraphSchema.Proofs.Graph.Validated
import GraphSchema.Proofs.Schema.DistinctNames
import GraphSchema.Proofs.Text.Identifiers

/-! The report of names that are no identifiers. It has one message for each of the names that it
looks at, and if it is empty, the names that it does not look at are identifiers as well. -/
namespace GraphSchema

section Report

/-- What is told of a name: nothing if it is an identifier. -/
def complaint (kind name owner : String) : List String :=
  if IsIdentifier name then []
  else [kind ++ " '" ++ name ++ "' from " ++ owner ++ " is not a valid identifier"]

theorem complaint_eq_nil {kind name owner : String} :
    complaint kind name owner = [] ↔ IsIdentifier name := by simp [complaint]

theorem NameUse.toList_problem {u : NameUse} (h : Sealed u.name) :
    u.problem.toList = complaint u.kind u.name u.owner := by
  have hexact : Text.passesAsIdentifier u.name.toList = Text.isIdentifier u.name.toList :=
    Text.passesAsIdentifier_eq h
  by_cases hname : IsIdentifier u.name
  · rw [problem, if_pos (hexact.trans hname), complaint, if_pos hname]
    rfl
  · rw [problem, if_neg fun hpasses => hname (hexact.symm.trans hpasses), complaint, if_neg hname]
    rfl

variable {nodes : List Node} {links : List Link}

theorem sealed_of_mem_nameUses (hlabels : ∀ l ∈ links, ValidLabel l.edge.label) {u : NameUse}
    (hu : u ∈ nameUses nodes links) : Sealed u.name := by
  simp only [nameUses, List.mem_append, List.mem_flatMap, List.mem_cons, List.not_mem_nil,
    or_false] at hu
  rcases hu with ⟨n, -, rfl | rfl⟩ | ⟨l, hl, rfl | rfl⟩
  · exact sealed_of_solid n.solid_typeName
  · exact sealed_append (by decide) (by decide)
  · exact sealed_of_solid l.solid_edgeName
  · exact (hlabels l hl).sealed

/-- Nodes come first, each with its type before its query; then edges, each with its type before its
label. -/
theorem invalidIdentifiers_eq (hlabels : ∀ l ∈ links, ValidLabel l.edge.label) :
    invalidIdentifiers nodes links =
      nodes.flatMap (fun n => complaint "type" n.typeName n.owner ++
        complaint "query field" n.queryName n.owner) ++
      links.flatMap fun l => complaint "type" l.edgeName l.owner ++
        complaint "connection field" l.edge.label l.owner := by
  calc invalidIdentifiers nodes links
      = (nameUses nodes links).flatMap fun u => u.problem.toList :=
        List.filterMap_eq_flatMap_toList ..
    _ = (nameUses nodes links).flatMap fun u => complaint u.kind u.name u.owner :=
        List.flatMap_congr fun u hu => NameUse.toList_problem (sealed_of_mem_nameUses hlabels hu)
    _ = _ := by
        simp only [nameUses, List.flatMap_append, List.flatMap_assoc, List.flatMap_cons,
          List.flatMap_nil, List.append_nil]

/-- The names that an empty report vouches for. -/
structure Vouched (nodes : List Node) (links : List Link) : Prop where
  node : ∀ n ∈ nodes, IsIdentifier n.typeName ∧ IsIdentifier n.queryName
  link : ∀ l ∈ links, IsIdentifier l.edgeName ∧ IsIdentifier l.edge.label

theorem vouched_iff (hlabels : ∀ l ∈ links, ValidLabel l.edge.label) :
    invalidIdentifiers nodes links = [] ↔ Vouched nodes links := by
  rw [invalidIdentifiers_eq hlabels]
  simp only [List.append_eq_nil_iff, List.flatMap_eq_nil_iff, complaint_eq_nil]
  exact ⟨fun h => ⟨h.1, h.2⟩, fun h => ⟨h.node, h.link⟩⟩

end Report

/-- A field and its arguments have identifiers for names. -/
def FieldDecl.Named (f : FieldDecl) : Prop :=
  IsIdentifier f.name ∧ ∀ a ∈ f.arguments, IsIdentifier a.name

instance : DecidablePred FieldDecl.Named := fun _ => inferInstanceAs (Decidable (_ ∧ _))

theorem FieldDecl.named_bare {name : String} {type : TypeRef} (h : IsIdentifier name) :
    ({ name, type } : FieldDecl).Named :=
  ⟨h, fun _ ha => absurd ha List.not_mem_nil⟩

namespace Declaration
variable {d : Declaration} {name : String}

/-- The names that a declaration introduces: its own, those of its fields and of their arguments. -/
def identifiers (d : Declaration) : List String :=
  d.heading.name?.toList ++ d.fields.flatMap fun f => f.name :: f.arguments.map Argument.name

def Named (d : Declaration) : Prop :=
  (∀ name ∈ d.heading.name?.toList, IsIdentifier name) ∧ ∀ f ∈ d.fields, f.Named

instance : DecidablePred Named := fun _ => inferInstanceAs (Decidable (_ ∧ _))

theorem named_iff : d.Named ↔ ∀ name ∈ d.identifiers, IsIdentifier name := by
  simp only [Named, identifiers, List.forall_mem_append, List.forall_mem_flatMap,
    List.forall_mem_cons, List.forall_mem_map, FieldDecl.Named]

theorem named_of_fields (hheading : d.heading.name? = some name) (hname : IsIdentifier name)
    (hfields : ∀ f ∈ d.fields, f.Named) : d.Named := by
  refine ⟨?_, hfields⟩
  rw [hheading]
  exact List.forall_mem_singleton.mpr hname

end Declaration

def Outline.identifiers (o : Outline) : List String :=
  o.declarations.flatMap Declaration.identifiers

/-- The key has passed the check for keys. -/
def Property.KeyChecked (p : Property) : Prop := ∃ v, Check.key v = .ok p.key

theorem named_properties {ps : List Property} (h : ∀ p ∈ ps, p.KeyChecked) :
    ∀ f ∈ ps.map Property.field, f.Named := by
  refine List.forall_mem_map.mpr fun p hp => ?_
  obtain ⟨v, hv⟩ := h p hp
  exact ⟨Check.identifier_of_key hv, fun _ ha => absurd ha List.not_mem_nil⟩

namespace Outline
variable {nodes : List Node} {links : List Link} {outgoing : Node → List Link}

section Vouched
variable (h : Vouched nodes links)
include h

theorem named_objectDeclaration {n : Node} (hn : n ∈ nodes)
    (hkeys : ∀ p ∈ n.properties, p.KeyChecked) {ls : List Link} (hls : ls ⊆ links) :
    (n.objectDeclaration ls).Named := by
  refine Declaration.named_of_fields rfl (h.node n hn).1 ?_
  simp only [Node.objectDeclaration, Declaration.fields, List.flatten_cons, List.flatten_nil,
    List.append_nil, List.forall_mem_append]
  refine ⟨named_properties hkeys, List.forall_mem_map.mpr fun l hl => ?_⟩
  exact FieldDecl.named_bare (h.link l (hls hl)).2

theorem named_inputDeclaration {n : Node} (hn : n ∈ nodes)
    (hkeys : ∀ p ∈ n.properties, p.KeyChecked) : n.inputDeclaration.Named := by
  refine Declaration.named_of_fields rfl ((h.node n hn).1.append (by decide)) ?_
  simp only [Node.inputDeclaration, Declaration.fields, List.flatten_cons, List.flatten_nil,
    List.append_nil]
  exact named_properties fun p hp => hkeys p (List.mem_of_mem_filter hp)

theorem named_edgeDeclaration {l : Link} (hl : l ∈ links)
    (hkeys : ∀ p ∈ l.edge.properties, p.KeyChecked) : l.edgeDeclaration.Named := by
  refine Declaration.named_of_fields rfl (h.link l hl).1 ?_
  simp only [Link.edgeDeclaration, Declaration.fields, List.flatten_cons, List.flatten_nil,
    List.append_nil, List.forall_mem_cons]
  exact ⟨FieldDecl.named_bare (by decide), named_properties hkeys⟩

/-- The name of the connection has the base of the edge's name, which is checked. -/
theorem named_connectionDeclaration {l : Link} (hl : l ∈ links) :
    l.connectionDeclaration.Named := by
  have hnames : ∀ name ∈ ["nodes", "edges", "pageInfo", "totalCount"], IsIdentifier name := by
    decide
  refine Declaration.named_of_fields rfl ((h.link l hl).1.exchange (by decide)) ?_
  simp only [Link.connectionDeclaration, Declaration.fields, List.flatten_cons, List.flatten_nil,
    List.append_nil, List.forall_mem_cons]
  exact ⟨FieldDecl.named_bare (hnames "nodes" (by decide)),
    FieldDecl.named_bare (hnames "edges" (by decide)),
    FieldDecl.named_bare (hnames "pageInfo" (by decide)),
    FieldDecl.named_bare (hnames "totalCount" (by decide)), fun _ hf => absurd hf List.not_mem_nil⟩

theorem named_queryDeclaration : (queryDeclaration nodes).Named := by
  have hfixed : nodesQuery.Named := by decide
  refine Declaration.named_of_fields rfl (by decide) ?_
  simp only [queryDeclaration, Declaration.fields, List.flatten_cons, List.flatten_nil,
    List.append_nil, List.forall_mem_cons, List.forall_mem_map]
  exact ⟨hfixed, fun n hn => ⟨(h.node n hn).2, List.forall_mem_singleton.mpr (by decide)⟩⟩

theorem named_nodeMutation {n : Node} (hn : n ∈ nodes) : ∀ f ∈ n.mutationFields [], f.Named := by
  have hself : IsIdentifier n.typeName := (h.node n hn).1
  have hid : IsIdentifier "id" := by decide
  have hverb : ∀ verb ∈ verbs, IsIdentifier (verb ++ n.typeName) := by
    have hall : ∀ verb ∈ verbs, IsIdentifier verb := by decide
    exact fun verb hv => (hall verb hv).append hself.extends
  simp only [Node.mutationFields, List.flatMap_nil, List.append_nil, List.forall_mem_cons]
  refine ⟨⟨hverb _ (by decide), ?_⟩, ⟨hverb _ (by decide), ?_⟩, ⟨hverb _ (by decide), ?_⟩, ?_⟩
  · exact List.forall_mem_singleton.mpr hself
  · exact List.forall_mem_cons.mpr ⟨hself, List.forall_mem_singleton.mpr hid⟩
  · exact List.forall_mem_singleton.mpr hid
  · exact fun _ hf => absurd hf List.not_mem_nil

theorem named_linkMutation {l : Link} (hl : l ∈ links) (hstart : l.start ∈ nodes)
    (hfinish : l.finish ∈ nodes) : ∀ f ∈ l.mutationFields, f.Named := by
  -- The base is the front of the name of the edge type, which the report looks at.
  have hbase : Extends l.baseName := (extends_append.mp (h.link l hl).1.extends).1
  have hverb : ∀ verb ∈ ["add", "remove"], IsIdentifier verb := by decide
  refine List.forall_mem_map.mpr fun verb hv => ⟨(hverb verb hv).append hbase, ?_⟩
  refine List.forall_mem_cons.mpr ⟨?_, List.forall_mem_singleton.mpr (h.node _ hfinish).1⟩
  exact (h.node _ hstart).1.append (by decide)

/-- If the names that the report looks at and the keys of properties are identifiers, every
declaration introduces identifiers only. -/
theorem named_declarations (hnodes : ∀ n ∈ nodes, ∀ p ∈ n.properties, p.KeyChecked)
    (hlinks : ∀ l ∈ links, ∀ p ∈ l.edge.properties, p.KeyChecked)
    (hends : ∀ l ∈ links, l.start ∈ nodes ∧ l.finish ∈ nodes)
    (houtgoing : ∀ n ∈ nodes, outgoing n ⊆ links) :
    ∀ d ∈ (of nodes links outgoing).declarations, d.Named := by
  have hfixed : ∀ d ∈ fixedDeclarations ++ [rootDeclaration], d.Named := by decide
  intro d hd
  cases mem_declarations_iff.mp hd with
  | fixed hd => exact hfixed d (List.mem_append_left _ hd)
  | @object n hn => exact named_objectDeclaration h hn (hnodes n hn) (houtgoing n hn)
  | @input n hn => exact named_inputDeclaration h hn (hnodes n hn)
  | @edge l hl => exact named_edgeDeclaration h hl (hlinks l hl)
  | connection hl => exact named_connectionDeclaration h hl
  | query => exact named_queryDeclaration h
  | mutation =>
    refine Declaration.named_of_fields rfl (by decide) fun f hf => ?_
    obtain ⟨n, hn, hf | ⟨l, hl, hf⟩⟩ := mem_fields_mutationDeclaration.mp hf
    · exact named_nodeMutation h hn f hf
    · have hmem := houtgoing n hn hl
      exact named_linkMutation h hmem (hends l hmem).1 (hends l hmem).2 f hf
  | root => exact hfixed _ (by simp)

/-- Names that are referred to are declared, or scalars. -/
theorem isIdentifier_of_mem (hnodes : ∀ n ∈ nodes, ∀ p ∈ n.properties, p.KeyChecked)
    (hlinks : ∀ l ∈ links, ∀ p ∈ l.edge.properties, p.KeyChecked)
    (hends : ∀ l ∈ links, l.start ∈ nodes ∧ l.finish ∈ nodes)
    (houtgoing : ∀ n ∈ nodes, outgoing n ⊆ links) {name : String}
    (hname : name ∈ (of nodes links outgoing).identifiers ++ (of nodes links outgoing).references) :
    IsIdentifier name := by
  have hnamed := named_declarations h hnodes hlinks hends houtgoing
  rcases List.mem_append.mp hname with hown | hused
  · obtain ⟨d, hd, hown⟩ := List.mem_flatMap.mp hown
    exact Declaration.named_iff.mp (hnamed d hd) name hown
  · have hscalars : ∀ name ∈ scalarNames, IsIdentifier name := by decide
    rcases knows_of_mem_references (fun l hl => (hends l hl).1) (fun l hl => (hends l hl).2)
      houtgoing hused with hscalar | hdeclared
    · exact hscalars name hscalar
    · obtain ⟨d, hd, hheading⟩ := List.mem_filterMap.mp hdeclared
      exact (hnamed d hd).1 name (Option.mem_toList.mpr hheading)

end Vouched
end Outline

/-- The report has one message for each type, query, edge type and edge label that is no identifier,
and no other. And if it is empty for the nodes and links of a store, then all names of the document
are identifiers: those of types, inputs, fields and arguments, and those of the types referred to. -/
theorem invalidIdentifiers_exact {nodes : List Node} {links : List Link}
    (hlabels : ∀ l ∈ links, ValidLabel l.edge.label)
    (hnodes : ∀ n ∈ nodes, ∀ p ∈ n.properties, p.KeyChecked)
    (hlinks : ∀ l ∈ links, ∀ p ∈ l.edge.properties, p.KeyChecked) :
    invalidIdentifiers nodes links =
        nodes.flatMap (fun n => complaint "type" n.typeName n.owner ++
          complaint "query field" n.queryName n.owner) ++
        links.flatMap (fun l => complaint "type" l.edgeName l.owner ++
          complaint "connection field" l.edge.label l.owner) ∧
      ∀ s : Store, s.allNodes = nodes → s.provider.resolveAll s.allEdges = .ok links →
        invalidIdentifiers nodes links = [] →
          (∀ name ∈ s.outline.identifiers ++ s.outline.references, IsIdentifier name) ∧
            ∀ (d : Diagnosis) (g : Generated), (d.generate s.provider).outcome = .ok g →
              g.document = s.outline.text := by
  refine ⟨invalidIdentifiers_eq hlabels, ?_⟩
  rintro s rfl hresolved hclean
  obtain rfl := Store.eq_links_of_resolveAll hresolved
  constructor
  · intro name hname
    exact Outline.isIdentifier_of_mem ((vouched_iff hlabels).mp hclean) hnodes hlinks
      (fun _ => Store.ends_mem_of_mem_links) (fun _ _ _ => Store.mem_of_mem_knownFrom) hname
  · intro d g hg
    exact (Store.generate_outline hg).2.2

namespace Store

/-- A person who works at a company. -/
def office : Store where
  nodes := [
    ("p", { id := "p", label := "person", properties := [{ key := "name" }] }),
    ("c", { id := "c", label := "company" })]
  edges := [
    ("w", { id := "w", label := "worksAt", startId := "p", endId := "c", properties := [
      { key := "since", type := .text "Datetime" }] })]

theorem invalidIdentifiers_office :
    (∀ l ∈ office.links, ValidLabel l.edge.label) ∧
      (∀ n ∈ office.allNodes, ∀ p ∈ n.properties, p.KeyChecked) ∧
      (∀ l ∈ office.links, ∀ p ∈ l.edge.properties, p.KeyChecked) ∧
      office.provider.resolveAll office.allEdges = .ok office.links ∧
      invalidIdentifiers office.allNodes office.links = [] ∧
      ∀ name ∈ office.outline.identifiers ++ office.outline.references, IsIdentifier name := by
  have hlabels : ∀ l ∈ office.links, ValidLabel l.edge.label := by
    unfold ValidLabel
    decide
  have hnodes : ∀ n ∈ office.allNodes, ∀ p ∈ n.properties, Check.key (.text p.key) = .ok p.key := by
    decide
  have hlinks : ∀ l ∈ office.links, ∀ p ∈ l.edge.properties,
      Check.key (.text p.key) = .ok p.key := by decide
  have hchecked : ∀ n ∈ office.allNodes, ∀ p ∈ n.properties, p.KeyChecked :=
    fun n hn p hp => ⟨_, hnodes n hn p hp⟩
  have hlinked : ∀ l ∈ office.links, ∀ p ∈ l.edge.properties, p.KeyChecked :=
    fun l hl p hp => ⟨_, hlinks l hl p hp⟩
  have hresolved : office.provider.resolveAll office.allEdges = .ok office.links := rfl
  have hclean : invalidIdentifiers office.allNodes office.links = [] := by decide +kernel
  exact ⟨hlabels, hchecked, hlinked, hresolved, hclean,
    ((invalidIdentifiers_exact hlabels hchecked hlinked).2 office rfl hresolved hclean).1⟩

end Store
end GraphSchema
