import GraphSchema.Proofs.Schema.Reading

/-! The blocks of a document are those of the model: for valid entities whose texts are single
lines, a document is read back as the declarations of its nodes and edges. -/
namespace GraphSchema
open Text

section Writing

theorem unbroken_of_solid {s : String} (h : Solid s) : Unbroken s.toList := unbroken_of_not_blank h

section Parts
variable {P : Char → Prop}

/-- The marks that stand between the names of a field. -/
def marks : List Char := "[]!:(), ".toList

/-- What holds of the marks and of every character of the parts holds of the joined parts. -/
theorem forall_mem_intercalate {sep : String} {ss : List String} (hsep : ∀ c ∈ sep.toList, P c)
    (h : ∀ s ∈ ss, ∀ c ∈ s.toList, P c) : ∀ c ∈ (sep.intercalate ss).toList, P c := by
  induction ss with
  | nil => exact fun _ hc => absurd hc List.not_mem_nil
  | cons s ss ih =>
    obtain ⟨hs, hss⟩ := List.forall_mem_cons.mp h
    cases ss with
    | nil => exact hs
    | cons t ts =>
      rw [String.intercalate_cons_cons]
      simp only [String.toList_append, List.forall_mem_append]
      exact ⟨⟨hs, hsep⟩, ih hss⟩

variable (hmarks : ∀ c ∈ marks, P c)
include hmarks

theorem TypeRef.forall_mem_text {t : TypeRef} (h : ∀ c ∈ t.name.toList, P c) :
    ∀ c ∈ t.text.toList, P c := by
  induction t with
  | named name => exact h
  | list item ih =>
    simp only [text, String.toList_append, List.forall_mem_append]
    exact ⟨⟨List.forall_mem_singleton.mpr (hmarks '[' (by decide)), ih h⟩,
      List.forall_mem_singleton.mpr (hmarks ']' (by decide))⟩
  | required type ih =>
    simp only [text, String.toList_append, List.forall_mem_append]
    exact ⟨ih h, List.forall_mem_singleton.mpr (hmarks '!' (by decide))⟩

theorem Argument.forall_mem_text {a : Argument} (hname : ∀ c ∈ a.name.toList, P c)
    (hgap : ∀ c ∈ a.gap.toList, P c) (htype : ∀ c ∈ a.type.name.toList, P c) :
    ∀ c ∈ a.text.toList, P c := by
  simp only [text, String.toList_append, List.forall_mem_append]
  exact ⟨⟨⟨hname, List.forall_mem_singleton.mpr (hmarks ':' (by decide))⟩, hgap⟩,
    TypeRef.forall_mem_text hmarks htype⟩

theorem FieldDecl.forall_mem_text {f : FieldDecl} (hname : ∀ c ∈ f.name.toList, P c)
    (harguments : ∀ a ∈ f.arguments, ∀ c ∈ a.text.toList, P c)
    (htype : ∀ c ∈ f.type.name.toList, P c) : ∀ c ∈ f.text.toList, P c := by
  have hcomma : ∀ c ∈ ", ".toList, P c := fun c hc =>
    hmarks c ((show ", ".toList ⊆ marks by decide) hc)
  have hcolon : ∀ c ∈ ": ".toList, P c := fun c hc =>
    hmarks c ((show ": ".toList ⊆ marks by decide) hc)
  have hsignature : ∀ c ∈ f.signature.toList, P c := by
    unfold signature
    split
    next => exact fun _ hc => absurd hc List.not_mem_nil
    next =>
      simp only [String.toList_append, List.forall_mem_append]
      exact ⟨⟨List.forall_mem_singleton.mpr (hmarks '(' (by decide)),
        forall_mem_intercalate hcomma (List.forall_mem_map.mpr harguments)⟩,
        List.forall_mem_singleton.mpr (hmarks ')' (by decide))⟩
  simp only [text, String.toList_append, List.forall_mem_append]
  exact ⟨⟨⟨hname, hsignature⟩, hcolon⟩, TypeRef.forall_mem_text hmarks htype⟩

end Parts

theorem unbroken_marks : Unbroken marks := by decide

theorem Argument.unbroken_text {a : Argument} (hname : Unbroken a.name.toList)
    (hgap : Unbroken a.gap.toList) (htype : Unbroken a.type.name.toList) :
    Unbroken a.text.toList := forall_mem_text unbroken_marks hname hgap htype

theorem FieldDecl.unbroken_text {f : FieldDecl} (hname : Unbroken f.name.toList)
    (harguments : ∀ a ∈ f.arguments, Unbroken a.text.toList)
    (htype : Unbroken f.type.name.toList) : Unbroken f.text.toList :=
  forall_mem_text unbroken_marks hname harguments htype

/-- A field without a remark, made of unbroken parts. -/
theorem FieldDecl.clean_of_parts {f : FieldDecl} (hremark : f.remark = none)
    (hname : Unbroken f.name.toList) (harguments : ∀ a ∈ f.arguments, Unbroken a.text.toList)
    (htype : Unbroken f.type.name.toList) : f.Clean :=
  ⟨unbroken_text hname harguments htype, fun r hr => by simp [hremark] at hr⟩

theorem FieldDecl.clean_bare {name : String} {type : TypeRef} (hname : Unbroken name.toList)
    (htype : Unbroken type.name.toList) : Clean { name, type } :=
  clean_of_parts rfl hname (fun _ ha => absurd ha List.not_mem_nil) htype

end Writing

/-- The texts that a user writes into a property hold no line break. -/
structure Property.OneLine (p : Property) : Prop where
  description : p.description.OneLine
  defaultValue : p.defaultValue.OneLine

structure Node.OneLine (n : Node) : Prop where
  label : Unbroken n.label.toList
  properties : ∀ p ∈ n.properties, p.OneLine

structure Edge.OneLine (e : Edge) : Prop where
  label : Unbroken e.label.toList
  properties : ∀ p ∈ e.properties, p.OneLine

structure Store.OneLine (s : Store) : Prop where
  nodes : ∀ n ∈ s.allNodes, n.OneLine
  edges : ∀ e ∈ s.allEdges, e.OneLine

namespace Property
variable {p : Property}

theorem unbroken_remark {title : String} {v : Value} (htitle : Unbroken title.toList)
    (hv : v.OneLine) : Unbroken (remark title v).toList := by
  have hmarks : Unbroken "; ".toList ∧ Unbroken ": ".toList := by decide
  unfold remark
  split
  next =>
    simp only [String.toList_append, unbroken_append]
    exact ⟨⟨⟨hmarks.1, htitle⟩, hmarks.2⟩, hv.shown⟩
  next => exact unbroken_nil

theorem oneLine_of_isLimit {v : Value} (h : v.IsLimit) : v.OneLine := by
  cases v <;> trivial

theorem unbroken_commentFor (hvalid : p.Valid) (hline : p.OneLine) (s : Scalar) :
    Unbroken (p.commentFor s).toList := by
  have hwords : ∀ w ∈ ["#", "default"], Unbroken w.toList := by decide
  have hunit : ∀ w ∈ ["min", "max"], Unbroken (w ++ if s.isText then " length" else "").toList := by
    cases s.isText <;> decide
  have hdescription :
      Unbroken (if p.description.counts then p.description.toText else "").toList := by
    split
    next => exact hline.description.toText
    next => exact unbroken_nil
  unfold commentFor
  simp only [String.toList_append, unbroken_append]
  exact ⟨⟨⟨⟨hwords "#" (by decide), hdescription⟩,
    unbroken_remark (hwords "default" (by decide)) hline.defaultValue⟩,
    unbroken_remark (hunit "min" (by decide)) (oneLine_of_isLimit hvalid.limitMin)⟩,
    unbroken_remark (hunit "max" (by decide)) (oneLine_of_isLimit hvalid.limitMax)⟩

theorem unbroken_field_text (hvalid : p.Valid) : Unbroken p.field.text.toList := by
  have hscalar (s : Scalar) : Unbroken s.name.toList := by
    cases s <;> decide
  have hname : p.field.type.name = (p.scalar?.getD .string).name := by
    cases hr : p.isRequired.counts <;> simp [field, TypeRef.name, hr]
  have htype : Unbroken p.field.type.name.toList := by
    rw [hname]
    exact hscalar _
  exact FieldDecl.unbroken_text (unbroken_of_isIdentifier hvalid.key)
    (fun _ ha => absurd ha List.not_mem_nil) htype

theorem clean_field (hvalid : p.Valid) (hline : p.OneLine) : p.field.Clean := by
  constructor
  case text => exact unbroken_field_text hvalid
  case remark =>
    intro r hr
    obtain rfl := Option.some.inj hr
    refine ⟨unbroken_commentFor hvalid hline _, '#', ?_, by decide⟩
    simp [commentFor]

end Property

section Declarations
variable {n : Node} {l : Link} {outgoing : List Link}

theorem Node.clean_properties (hvalid : n.Valid) (hline : n.OneLine) :
    ∀ f ∈ n.properties.map Property.field, f.Clean :=
  List.forall_mem_map.mpr fun p hp =>
    p.clean_field (hvalid.properties p hp) (hline.properties p hp)

theorem Link.clean_properties (hvalid : l.edge.Valid) (hline : l.edge.OneLine) :
    ∀ f ∈ l.edge.properties.map Property.field, f.Clean :=
  List.forall_mem_map.mpr fun p hp =>
    p.clean_field (hvalid.properties p hp) (hline.properties p hp)

theorem Link.clean_field (hline : l.edge.OneLine) : l.field.Clean :=
  FieldDecl.clean_bare hline.label (unbroken_of_solid l.solid_connectionName)

theorem Node.clean_queryDecl (hline : n.OneLine) : n.queryDecl.Clean := by
  have hplural : Unbroken "s".toList := by decide
  refine FieldDecl.clean_of_parts rfl ?_ ?_ (unbroken_of_solid n.solid_typeName)
  · rw [Node.queryDecl, Node.queryName, String.toList_append, unbroken_append]
    exact ⟨hline.label, hplural⟩
  · intro a ha
    obtain rfl := List.mem_singleton.mp ha
    decide

theorem Link.clean_mutationFields (l : Link) : ∀ f ∈ l.mutationFields, f.Clean := by
  have hverbs : ∀ verb ∈ ["add", "remove"], Unbroken verb.toList := by decide
  have hwords : ∀ w ∈ ["Id", " ", "ID"], Unbroken w.toList := by decide
  intro f hf
  obtain ⟨verb, hverb, rfl⟩ := List.mem_map.mp hf
  refine FieldDecl.clean_of_parts rfl ?_ ?_ (unbroken_of_solid l.solid_connectionName)
  · rw [String.toList_append, unbroken_append]
    exact ⟨hverbs verb hverb, unbroken_of_solid l.solid_baseName⟩
  · simp only [List.forall_mem_cons]
    refine ⟨?_, ?_, fun _ ha => absurd ha List.not_mem_nil⟩
    · refine Argument.unbroken_text ?_ (hwords " " (by decide)) (hwords "ID" (by decide))
      rw [String.toList_append, unbroken_append]
      exact ⟨unbroken_of_solid l.start.solid_typeName, hwords "Id" (by decide)⟩
    · exact Argument.unbroken_text (unbroken_of_solid l.finish.solid_typeName)
        (hwords " " (by decide)) (hwords "ID" (by decide))

theorem Node.clean_mutationFields (n : Node) (outgoing : List Link) :
    ∀ f ∈ n.mutationFields outgoing, f.Clean := by
  have hwords : ∀ w ∈ ["create", "update", "delete", "id", " ", "ID"], Unbroken w.toList := by
    decide
  have hname : Unbroken n.typeName.toList := unbroken_of_solid n.solid_typeName
  have hself : Unbroken (Argument.text ⟨n.typeName, " ", .named n.inputName⟩).toList :=
    Argument.unbroken_text hname (hwords " " (by decide)) (unbroken_of_solid n.solid_inputName)
  have hid : Unbroken (Argument.text ⟨"id", " ", .required (.named "ID")⟩).toList :=
    Argument.unbroken_text (hwords "id" (by decide)) (hwords " " (by decide))
      (hwords "ID" (by decide))
  have hverb {verb : String} (h : Unbroken verb.toList) :
      Unbroken (verb ++ n.typeName).toList := by
    rw [String.toList_append, unbroken_append]
    exact ⟨h, hname⟩
  intro f hf
  rcases List.mem_append.mp hf with hf | hf
  · simp only [List.mem_cons, List.not_mem_nil, or_false] at hf
    rcases hf with rfl | rfl | rfl
    · exact FieldDecl.clean_of_parts rfl (hverb (hwords "create" (by decide)))
        (List.forall_mem_singleton.mpr hself) hname
    · exact FieldDecl.clean_of_parts rfl (hverb (hwords "update" (by decide)))
        (List.forall_mem_cons.mpr ⟨hself, List.forall_mem_singleton.mpr hid⟩) hname
    · exact FieldDecl.clean_of_parts rfl (hverb (hwords "delete" (by decide)))
        (List.forall_mem_singleton.mpr hid) hname
  · obtain ⟨l, -, hf⟩ := List.mem_flatMap.mp hf
    exact l.clean_mutationFields f hf

end Declarations

namespace Outline
variable {nodes : List Node} {links : List Link} {outgoing : Node → List Link}

/-- A declaration with one group of fields and no remark. -/
theorem clean_of_group {d : Declaration} {g : List FieldDecl} (hremarks : d.remarks = [])
    (hheading : d.heading.Plain) (hgroups : d.groups = [g]) (h : ∀ f ∈ g, f.Clean) : d.Clean where
  remarks := by simp [hremarks]
  heading := hheading
  fields := by simpa [Declaration.fields, hgroups] using h
  groups := Or.inl (by simp [hgroups])

theorem clean_fixed : ∀ d ∈ fixedDeclarations ++ [rootDeclaration], d.Clean := by
  have hshape : ∀ d ∈ fixedDeclarations ++ [rootDeclaration], d.remarks = [] ∧
      d.groups.length ≤ 1 ∧ ∀ f ∈ d.fields, f.remark = none ∧ Unbroken f.text.toList := by decide
  have hheading : ∀ d ∈ fixedDeclarations ++ [rootDeclaration], d.heading.Plain := by decide
  intro d hd
  obtain ⟨hremarks, hgroups, hfields⟩ := hshape d hd
  exact {
    remarks := by simp [hremarks]
    heading := hheading d hd
    fields := fun f hf =>
      ⟨(hfields f hf).2, fun r hr => by simp [(hfields f hf).1] at hr⟩
    groups := Or.inl hgroups }

/-- The name of a valid node ends in a character that is not blank, and so does the remark. -/
theorem clean_inputDeclaration {n : Node} (hvalid : n.Valid) (hline : n.OneLine)
    (hheading : n.inputDeclaration.heading.Plain) : n.inputDeclaration.Clean where
  remarks := by
    have hfor : Unbroken "#input for ".toList := by decide
    have hname := Node.typeName_ne_nil hvalid.label.exists_solid
    refine List.forall_mem_singleton.mpr ⟨?_, ?_, trimRight_eq_self ?_⟩
    · rw [String.toList_append, unbroken_append]
      exact ⟨hfor, unbroken_of_solid n.solid_typeName⟩
    · simp
    · intro c hc
      rw [String.toList_append, List.getLast?_append_of_ne_nil _ hname] at hc
      exact n.solid_typeName c (List.mem_of_getLast? hc)
  heading := hheading
  fields := by
    intro f hf
    obtain ⟨p, hp, rfl⟩ : ∃ p ∈ n.inputProperties, p.field = f := by
      simpa [Node.inputDeclaration, Declaration.fields] using hf
    exact n.clean_properties hvalid hline _ (List.mem_map_of_mem (List.mem_of_mem_filter hp))
  groups := Or.inl (by simp [Node.inputDeclaration])

theorem clean_connectionDeclaration {l : Link} (hheading : l.connectionDeclaration.heading.Plain) :
    l.connectionDeclaration.Clean := by
  have hwords : ∀ w ∈ ["nodes", "edges", "pageInfo", "PageInfo", "totalCount", "Int"],
      Unbroken w.toList := by decide
  refine clean_of_group rfl hheading rfl ?_
  simp only [List.forall_mem_cons]
  exact ⟨FieldDecl.clean_bare (hwords "nodes" (by decide))
      (unbroken_of_solid l.start.solid_typeName),
    FieldDecl.clean_bare (hwords "edges" (by decide)) (unbroken_of_solid l.solid_edgeName),
    FieldDecl.clean_bare (hwords "pageInfo" (by decide)) (hwords "PageInfo" (by decide)),
    FieldDecl.clean_bare (hwords "totalCount" (by decide)) (hwords "Int" (by decide)),
    fun _ hf => absurd hf List.not_mem_nil⟩

theorem clean_edgeDeclaration {l : Link} (hvalid : l.edge.Valid) (hline : l.edge.OneLine)
    (hheading : l.edgeDeclaration.heading.Plain) : l.edgeDeclaration.Clean := by
  have hnode : Unbroken "node".toList := by decide
  refine clean_of_group rfl hheading rfl (List.forall_mem_cons.mpr ⟨?_, ?_⟩)
  · exact FieldDecl.clean_bare hnode (unbroken_of_solid l.finish.solid_typeName)
  · exact l.clean_properties hvalid hline

theorem clean_queryDeclaration (h : ∀ n ∈ nodes, n.OneLine)
    (hheading : (queryDeclaration nodes).heading.Plain) : (queryDeclaration nodes).Clean where
  remarks := List.forall_mem_singleton.mpr
    ⟨by decide, by simp, by decide⟩
  heading := hheading
  fields := by
    have hnodes : nodesQuery.Clean :=
      ⟨by decide, fun _ hr => absurd hr (Option.not_mem_none _)⟩
    intro f hf
    have hmem : f = nodesQuery ∨ ∃ n ∈ nodes, n.queryDecl = f := by
      simpa [queryDeclaration, Declaration.fields] using hf
    rcases hmem with rfl | ⟨n, hn, rfl⟩
    · exact hnodes
    · exact n.clean_queryDecl (h n hn)
  groups := Or.inl (by simp [queryDeclaration])

theorem clean_mutationDeclaration (hheading : (mutationDeclaration nodes outgoing).heading.Plain) :
    (mutationDeclaration nodes outgoing).Clean where
  remarks := fun _ hr => absurd hr List.not_mem_nil
  heading := hheading
  fields := by
    intro f hf
    obtain ⟨g, hg, hf⟩ := List.mem_flatten.mp hf
    obtain ⟨n, -, rfl⟩ := List.mem_map.mp hg
    exact n.clean_mutationFields _ f hf
  groups := Or.inr fun g hg => by
    obtain ⟨n, -, rfl⟩ := List.mem_map.mp hg
    simp [Node.mutationFields]

/-- Valid entities whose texts are single lines make clean declarations. -/
theorem clean_declarations (hnodes : ∀ n ∈ nodes, n.Valid ∧ n.OneLine)
    (hlinks : ∀ l ∈ links, l.edge.Valid ∧ l.edge.OneLine)
    (houtgoing : ∀ n ∈ nodes, outgoing n ⊆ links) :
    ∀ d ∈ (of nodes links outgoing).declarations, d.Clean := by
  intro d hd
  have hheading := plain_headings d hd
  cases mem_declarations_iff.mp hd with
  | fixed hd => exact clean_fixed d (List.mem_append_left _ hd)
  | @object n hn =>
    refine clean_of_group rfl hheading rfl (List.forall_mem_append.mpr ⟨?_, ?_⟩)
    · exact n.clean_properties (hnodes n hn).1 (hnodes n hn).2
    · exact List.forall_mem_map.mpr fun l hl => l.clean_field (hlinks l (houtgoing n hn hl)).2
  | input hn => exact clean_inputDeclaration (hnodes _ hn).1 (hnodes _ hn).2 hheading
  | edge hl => exact clean_edgeDeclaration (hlinks _ hl).1 (hlinks _ hl).2 hheading
  | connection hl => exact clean_connectionDeclaration hheading
  | query => exact clean_queryDeclaration (fun n hn => (hnodes n hn).2) hheading
  | mutation => exact clean_mutationDeclaration hheading
  | root => exact clean_fixed _ (by simp)

end Outline

namespace Store
variable {s : Store} {d : Diagnosis} {g : Generated}

/-- What the lines of a document are, where every edge is an edge of the node that it starts at. -/
def blocks (s : Store) : List Item :=
  [Item.line []].intercalate
    (scalarLines.map (fun l => .line l.toList) ::
      (Outline.of s.allNodes s.links fun n =>
        s.links.filter fun l => l.edge.startId = n.id).declarations.map Declaration.items)

theorem readItems_document (hids : (s.allEdges.map Edge.id).Nodup) (hvalid : s.Valid)
    (hlines : s.OneLine) (h : (d.generate s.provider).outcome = .ok g) :
    readItems none (splitLines g.document.toList) = s.blocks := by
  obtain ⟨hlinks, -, htext⟩ := generate_outline h
  have houtline : s.outline = Outline.of s.allNodes s.links fun n =>
      s.links.filter fun l => l.edge.startId = n.id :=
    Outline.of_congr fun n _ => knownFrom_eq_filter hlinks hids n.id
  rw [htext, houtline]
  exact Outline.readItems_text (Outline.clean_declarations
    (fun n hn => ⟨hvalid.nodes n hn, hlines.nodes n hn⟩)
    (fun l hl => ⟨hvalid.edges _ (edge_mem_of_mem_links hl),
      hlines.edges _ (edge_mem_of_mem_links hl)⟩)
    fun _ _ => List.filter_subset_self _)

/-- The document of a store of valid entities whose texts are single lines, read line by line: first
the scalars, then, an empty line between two of them, the fixed declarations, for each node its type
and its input, for each edge its type, for each edge its connection, the queries, the mutations and
the schema. The body of each block has the lines of its fields and no others. Ids are distinct in
every store that loads and edits reach. -/
theorem document_declares (hids : (s.allEdges.map Edge.id).Nodup) (hvalid : s.Valid)
    (hlines : s.OneLine) (h : (d.generate s.provider).outcome = .ok g) :
    ∃ links : List Link, links.map Link.edge = s.allEdges ∧
      (∀ l ∈ links, s.getNode? l.edge.startId = some l.start ∧
        s.getNode? l.edge.endId = some l.finish) ∧
      readItems none (splitLines g.document.toList) = [Item.line []].intercalate
        (scalarLines.map (fun l => .line l.toList) ::
          (Outline.of s.allNodes links fun n =>
            links.filter fun l => l.edge.startId = n.id).declarations.map Declaration.items) := by
  obtain ⟨hlinks, -, -⟩ := generate_outline h
  refine ⟨s.links, Provider.resolveAll_edges hlinks, fun l hl => ?_,
    readItems_document hids hvalid hlines h⟩
  obtain ⟨e, -, he⟩ := List.mem_filterMap.mp hl
  obtain ⟨rfl, hends⟩ := link?_eq_some.mp he
  exact hends

/-- The ids of a store that loads and edits reach are distinct. -/
theorem Reached.readItems_document (hs : s.Reached) (hvalid : s.Valid) (hlines : s.OneLine)
    (h : (d.generate s.provider).outcome = .ok g) :
    readItems none (splitLines g.document.toList) = s.blocks :=
  Store.readItems_document hs.distinct.edges hvalid hlines h

theorem valid_town : town.Valid := by
  have hlabel : ∀ label ∈ ["person", "big city", "knows", "livesIn"], ValidLabel label := by
    unfold ValidLabel
    decide
  have hkey : ∀ key ∈ ["name", "born", "years"], isIdentifier key.toList = true := by decide
  have hnone : ∀ p ∈ ([] : List Property), p.Valid := fun _ hp => absurd hp List.not_mem_nil
  constructor
  · refine List.forall_mem_cons.mpr ⟨⟨hlabel _ (by decide), ?_⟩,
      List.forall_mem_singleton.mpr ⟨hlabel _ (by decide), hnone⟩⟩
    refine List.forall_mem_cons.mpr ⟨?_, List.forall_mem_singleton.mpr ?_⟩
    · exact ⟨hkey _ (by decide), rfl, ⟨_, rfl⟩, ⟨_, rfl⟩, ⟨_, rfl⟩, trivial, trivial⟩
    · exact ⟨hkey _ (by decide), rfl, ⟨_, rfl⟩, ⟨_, rfl⟩, ⟨_, rfl⟩, trivial, trivial⟩
  · refine List.forall_mem_cons.mpr ⟨⟨hlabel _ (by decide), hnone⟩,
      List.forall_mem_singleton.mpr ⟨hlabel _ (by decide), ?_⟩⟩
    refine List.forall_mem_singleton.mpr ?_
    exact ⟨hkey _ (by decide), rfl, ⟨_, rfl⟩, ⟨_, rfl⟩, ⟨_, rfl⟩, trivial, trivial⟩

theorem oneLine_town : town.OneLine := by
  have hunbroken : ∀ t ∈ ["person", "big city", "knows", "livesIn", "full name", ""],
      Unbroken t.toList := by decide
  have hnone : ∀ p ∈ ([] : List Property), p.OneLine := fun _ hp => absurd hp List.not_mem_nil
  constructor
  · refine List.forall_mem_cons.mpr ⟨⟨hunbroken _ (by decide), ?_⟩,
      List.forall_mem_singleton.mpr ⟨hunbroken _ (by decide), hnone⟩⟩
    exact List.forall_mem_cons.mpr ⟨⟨hunbroken "full name" (by decide), trivial⟩,
      List.forall_mem_singleton.mpr ⟨hunbroken "" (by decide), trivial⟩⟩
  · refine List.forall_mem_cons.mpr ⟨⟨hunbroken _ (by decide), hnone⟩,
      List.forall_mem_singleton.mpr ⟨hunbroken _ (by decide), ?_⟩⟩
    exact List.forall_mem_singleton.mpr ⟨hunbroken "" (by decide), trivial⟩

/-- The town is read back. -/
theorem document_declares_town :
    ∃ g, (Diagnosis.generate {} town.provider).outcome = .ok g ∧
      ∃ links : List Link, links.map Link.edge = town.allEdges ∧
        (∀ l ∈ links, town.getNode? l.edge.startId = some l.start ∧
          town.getNode? l.edge.endId = some l.finish) ∧
        readItems none (splitLines g.document.toList) = [Item.line []].intercalate
          (scalarLines.map (fun l => .line l.toList) ::
            (Outline.of town.allNodes links fun n =>
              links.filter fun l => l.edge.startId = n.id).declarations.map
                Declaration.items) := by
  have hdeclarable : AllDeclarable town.allNodes town.links := by
    unfold AllDeclarable
    decide
  obtain ⟨g, hg⟩ := exists_generate (d := {}) origin_town.sound.linked.resolveAll hdeclarable
    (by decide)
  have hids := origin_town.sound.toKeyed.distinct
  exact ⟨g, hg, document_declares hids.edges valid_town oneLine_town hg⟩

end Store
end GraphSchema
