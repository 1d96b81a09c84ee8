import GraphSchema.Proofs.Graph.Integrity
import GraphSchema.Proofs.Schema.Printing
import GraphSchema.Proofs.Text.Names

/-! Every type that a document mentions is a scalar of the grammar or is declared in the same
document, under a line that reads as its heading. -/
namespace GraphSchema

/-- Scalars of the grammar, and those that every document declares. -/
def scalarNames : List String := builtInScalars ++ declaredScalars

theorem Scalar.name_known (s : Scalar) : s.name ∈ scalarNames ∨ s.name = "GeoPoint" := by
  cases s <;> decide

namespace Outline
variable {nodes : List Node} {links : List Link} {outgoing : Node → List Link} {name : String}

/-- A scalar, or the name of a declaration. -/
def Knows (o : Outline) (name : String) : Prop := name ∈ scalarNames ∨ name ∈ o.names

section Known

theorem knows_fixed
    (h : name ∈ scalarNames ∨ name ∈ fixedDeclarations.filterMap (·.heading.name?)) :
    (of nodes links outgoing).Knows name := by
  rw [Knows, names_of, List.mem_append]
  exact h.imp_right Or.inl

theorem knows_typeName {n : Node} (hn : n ∈ nodes) :
    (of nodes links outgoing).Knows n.typeName := by
  have hmem : n.typeName ∈ nodes.flatMap fun n => [n.typeName, n.inputName] :=
    List.mem_flatMap.mpr ⟨n, hn, List.mem_cons_self ..⟩
  rw [Knows, names_of]
  simp [hmem]

theorem knows_inputName {n : Node} (hn : n ∈ nodes) :
    (of nodes links outgoing).Knows n.inputName := by
  have hmem : n.inputName ∈ nodes.flatMap fun n => [n.typeName, n.inputName] :=
    List.mem_flatMap.mpr ⟨n, hn, List.mem_cons_of_mem _ (List.mem_cons_self ..)⟩
  rw [Knows, names_of]
  simp [hmem]

theorem knows_edgeName {l : Link} (hl : l ∈ links) :
    (of nodes links outgoing).Knows l.edgeName := by
  have hmem : l.edgeName ∈ links.map Link.edgeName := List.mem_map_of_mem hl
  rw [Knows, names_of]
  simp [hmem]

theorem knows_connectionName {l : Link} (hl : l ∈ links) :
    (of nodes links outgoing).Knows l.connectionName := by
  have hmem : l.connectionName ∈ links.map Link.connectionName := List.mem_map_of_mem hl
  rw [Knows, names_of]
  simp [hmem]

theorem knows_property {p : Property} (h : name ∈ p.field.references) :
    (of nodes links outgoing).Knows name := by
  have hname : name = (p.scalar?.getD .string).name := by
    cases hr : p.isRequired.counts <;>
      simpa [Property.field, FieldDecl.references, TypeRef.name, hr] using h
  rw [hname]
  refine knows_fixed ((Scalar.name_known _).imp_right fun hpoint => ?_)
  rw [hpoint]
  decide

end Known

section Closed
variable (hstart : ∀ l ∈ links, l.start ∈ nodes) (hfinish : ∀ l ∈ links, l.finish ∈ nodes)
  (houtgoing : ∀ n ∈ nodes, outgoing n ⊆ links)

theorem knows_of_objectDeclaration {n : Node} (hlinks : outgoing n ⊆ links)
    (h : name ∈ (n.objectDeclaration (outgoing n)).references) :
    (of nodes links outgoing).Knows name := by
  simp only [Node.objectDeclaration, Declaration.references, Declaration.fields, Heading.base?,
    Option.toList_some, List.flatten_cons, List.flatten_nil, List.append_nil, List.flatMap_append,
    List.flatMap_map, List.mem_append, List.mem_singleton, List.mem_flatMap] at h
  rcases h with rfl | ⟨p, -, hp⟩ | ⟨l, hl, hname⟩
  · exact knows_fixed (by decide)
  · exact knows_property hp
  · obtain rfl : name = l.connectionName := List.mem_singleton.mp hname
    exact knows_connectionName (hlinks hl)

theorem knows_of_inputDeclaration {n : Node} (h : name ∈ n.inputDeclaration.references) :
    (of nodes links outgoing).Knows name := by
  simp only [Node.inputDeclaration, Declaration.references, Declaration.fields, Heading.base?,
    Option.toList_none, List.flatten_cons, List.flatten_nil, List.append_nil, List.flatMap_map,
    List.nil_append, List.mem_flatMap] at h
  obtain ⟨p, -, hp⟩ := h
  exact knows_property hp

include hfinish in
theorem knows_of_edgeDeclaration {l : Link} (hl : l ∈ links)
    (h : name ∈ l.edgeDeclaration.references) : (of nodes links outgoing).Knows name := by
  simp only [Link.edgeDeclaration, Declaration.references, Declaration.fields, Heading.base?,
    Option.toList_some, List.flatten_cons, List.flatten_nil, List.append_nil, List.flatMap_cons,
    List.flatMap_map, List.mem_append, List.mem_singleton, List.mem_flatMap] at h
  rcases h with rfl | hname | ⟨p, -, hp⟩
  · exact knows_fixed (by decide)
  · obtain rfl : name = l.finish.typeName := List.mem_singleton.mp hname
    exact knows_typeName (hfinish l hl)
  · exact knows_property hp

include hstart in
theorem knows_of_connectionDeclaration {l : Link} (hl : l ∈ links)
    (h : name ∈ l.connectionDeclaration.references) : (of nodes links outgoing).Knows name := by
  have hrefs : l.connectionDeclaration.references =
      ["Connection", l.start.typeName, l.edgeName, "PageInfo", "Int"] := rfl
  simp only [hrefs, List.mem_cons, List.not_mem_nil, or_false] at h
  rcases h with rfl | rfl | rfl | rfl | rfl
  · exact knows_fixed (by decide)
  · exact knows_typeName (hstart l hl)
  · exact knows_edgeName hl
  · exact knows_fixed (by decide)
  · exact knows_fixed (by decide)

theorem knows_of_queryDeclaration (h : name ∈ (queryDeclaration nodes).references) :
    (of nodes links outgoing).Knows name := by
  simp only [queryDeclaration, Declaration.references, Declaration.fields, Heading.base?,
    Option.toList_none, List.flatten_cons, List.flatten_nil, List.append_nil, List.flatMap_cons,
    List.flatMap_map, List.nil_append, List.mem_append, List.mem_flatMap] at h
  rcases h with hfixed | ⟨n, hn, hname⟩
  · have hnames : nodesQuery.references = ["ID", "Node"] := rfl
    rw [hnames] at hfixed
    simp only [List.mem_cons, List.not_mem_nil, or_false] at hfixed
    rcases hfixed with rfl | rfl
    · exact knows_fixed (by decide)
    · exact knows_fixed (by decide)
  · have hnames : n.queryDecl.references = ["ID", n.typeName] := rfl
    simp only [hnames, List.mem_cons, List.not_mem_nil, or_false] at hname
    rcases hname with rfl | rfl
    · exact knows_fixed (by decide)
    · exact knows_typeName hn

theorem knows_of_linkMutation {l : Link} (hl : l ∈ links)
    (h : name ∈ l.mutationFields.flatMap FieldDecl.references) :
    (of nodes links outgoing).Knows name := by
  have hnames : l.mutationFields.flatMap FieldDecl.references =
      ["ID", "ID", l.connectionName, "ID", "ID", l.connectionName] := rfl
  have hname : name = "ID" ∨ name = l.connectionName := by
    rw [hnames] at h
    simpa [or_left_comm] using h
  rcases hname with rfl | rfl
  · exact knows_fixed (by decide)
  · exact knows_connectionName hl

theorem knows_of_nodeMutation {n : Node} (hn : n ∈ nodes) (hlinks : outgoing n ⊆ links)
    (h : name ∈ (n.mutationFields (outgoing n)).flatMap FieldDecl.references) :
    (of nodes links outgoing).Knows name := by
  rw [Node.mutationFields, List.flatMap_append, List.flatMap_assoc, List.mem_append,
    List.mem_flatMap (l := outgoing n)] at h
  rcases h with hown | ⟨l, hl, hname⟩
  · have hname : name = n.inputName ∨ name = n.typeName ∨ name = "ID" := by
      change name ∈ [n.inputName, n.typeName, n.inputName, "ID", n.typeName, "ID", n.typeName]
        at hown
      simp only [List.mem_cons, List.not_mem_nil, or_false] at hown
      grind
    rcases hname with rfl | rfl | rfl
    · exact knows_inputName hn
    · exact knows_typeName hn
    · exact knows_fixed (by decide)
  · exact knows_of_linkMutation (hlinks hl) hname

include houtgoing in
theorem knows_of_mutationDeclaration
    (h : name ∈ (mutationDeclaration nodes outgoing).references) :
    (of nodes links outgoing).Knows name := by
  simp only [mutationDeclaration, Declaration.references, Declaration.fields, Heading.base?,
    Option.toList_none, List.nil_append, ← List.flatMap_def, List.flatMap_assoc,
    List.mem_flatMap (l := nodes)] at h
  obtain ⟨n, hn, hname⟩ := h
  exact knows_of_nodeMutation hn (houtgoing n hn) hname

include hstart hfinish houtgoing in
/-- If links run between the nodes and the outgoing ones are among them, the outline is closed. -/
theorem knows_of_mem_references (h : name ∈ (of nodes links outgoing).references) :
    (of nodes links outgoing).Knows name := by
  obtain ⟨d, hd, hname⟩ := List.mem_flatMap.mp h
  cases mem_declarations_iff.mp hd with
  | fixed hd =>
    have hfixed : ∀ d ∈ fixedDeclarations, ∀ name ∈ d.references,
        name ∈ scalarNames ∨ name ∈ fixedDeclarations.filterMap (·.heading.name?) := by decide
    exact knows_fixed (hfixed d hd name hname)
  | object hn => exact knows_of_objectDeclaration (houtgoing _ hn) hname
  | input hn => exact knows_of_inputDeclaration hname
  | edge hl => exact knows_of_edgeDeclaration hfinish hl hname
  | connection hl => exact knows_of_connectionDeclaration hstart hl hname
  | query => exact knows_of_queryDeclaration hname
  | mutation => exact knows_of_mutationDeclaration houtgoing hname
  | root =>
    have hname : name = "Query" ∨ name = "Mutation" := by
      simpa [Declaration.references, rootDeclaration, Declaration.fields, Heading.base?,
        FieldDecl.references, TypeRef.name] using hname
    rw [Knows, names_of]
    simp [hname]

end Closed

end Outline

namespace Text

/-- The name in a line that opens a type, an input or an interface. -/
def headedName? (line : List Char) : Option String :=
  if line.getLast? = some '\x7b' then
    (["type ", "input ", "interface "].find? fun w => w.toList.isPrefixOf line).map fun word =>
      String.ofList ((line.drop word.length).takeWhile (· ≠ ' '))
  else none

/-- The name in a line that declares a scalar. -/
def scalarName? (line : List Char) : Option String :=
  if "scalar ".toList.isPrefixOf line then some (String.ofList (line.drop 7)) else none

theorem takeWhile_solid {name : String} (hname : Solid name) (rest : List Char) :
    (name.toList ++ ' ' :: rest).takeWhile (· ≠ ' ') = name.toList := by
  have hpos : ∀ c ∈ name.toList, decide (c ≠ ' ') = true := by
    intro c hc
    have hblank := hname c hc
    rw [decide_eq_true_eq]
    rintro rfl
    exact absurd hblank (by decide)
  rw [List.takeWhile_append_of_pos hpos]
  simp

theorem headedName?_eq {word name : String} (hword : word ∈ ["type ", "input ", "interface "])
    (hname : Solid name) (rest : List Char) :
    headedName? (word.toList ++ (name.toList ++ ' ' :: rest) ++ ['\x7b']) = some name := by
  have hfind : ["type ", "input ", "interface "].find? (fun w => w.toList.isPrefixOf
      (word.toList ++ (name.toList ++ ' ' :: (rest ++ ['\x7b'])))) = some word := by
    simp only [List.mem_cons, List.not_mem_nil, or_false] at hword
    rcases hword with rfl | rfl | rfl <;> rfl
  have hdrop (cs : List Char) : (word.toList ++ cs).drop word.length = cs := by
    rw [← String.length_toList]
    exact List.drop_left
  unfold headedName?
  rw [if_pos List.getLast?_concat]
  simp only [List.append_assoc, List.cons_append]
  rw [hfind, Option.map_some, hdrop, takeWhile_solid hname, String.ofList_toList]

end Text

/-- The names that a document declares, read off the lines of its text. -/
def declaredTypes (document : String) : List String :=
  (Text.splitLines document.toList).filterMap Text.headedName?

def scalarsIn (document : String) : List String :=
  (Text.splitLines document.toList).filterMap Text.scalarName?

namespace Heading
variable {h : Heading} {name : String}

/-- No name in the heading holds a blank. -/
def Plain (h : Heading) : Prop := ∀ name ∈ h.name?.toList ++ h.base?.toList, Solid name

instance : DecidablePred Plain :=
  fun h => List.decidableBAll Solid (h.name?.toList ++ h.base?.toList)

theorem toList_text (hh : h.Plain) (hname : h.name? = some name) :
    ∃ word ∈ ["type ", "input ", "interface "], ∃ rest, Text.Unbroken rest ∧
      h.text.toList = word.toList ++ (name.toList ++ ' ' :: rest) ++ ['\x7b'] := by
  cases h with
  | type n base =>
    obtain rfl := Option.some.inj hname
    refine ⟨"type ", by decide, ?_⟩
    cases base with
    | none => exact ⟨[], Text.unbroken_nil, by simp [text]⟩
    | some b =>
      have hbase : Text.Unbroken b.toList :=
        Text.unbroken_of_not_blank (hh b (by simp [base?, name?]))
      refine ⟨"implements ".toList ++ b.toList ++ [' '], ?_, by simp [text]⟩
      rw [Text.unbroken_append, Text.unbroken_append]
      exact ⟨⟨by decide, hbase⟩, by decide⟩
  | input n =>
    obtain rfl := Option.some.inj hname
    exact ⟨"input ", by decide, [], Text.unbroken_nil, by simp [text]⟩
  | interface n =>
    obtain rfl := Option.some.inj hname
    exact ⟨"interface ", by decide, [], Text.unbroken_nil, by simp [text]⟩
  | schema => simp [name?] at hname

theorem eq_schema_of_name? (hname : h.name? = none) : h = .schema := by
  cases h <;> simp_all [name?]

theorem Plain.unbroken_text (hh : h.Plain) : Text.Unbroken h.text.toList := by
  cases hname : h.name? with
  | none =>
    obtain rfl := eq_schema_of_name? hname
    decide
  | some name =>
    have hwords : ∀ w ∈ ["type ", "input ", "interface "], Text.Unbroken w.toList := by decide
    have hspace : Text.isLineBreak ' ' = false := by decide
    have hbrace : Text.isLineBreak '\x7b' = false := by decide
    have hsolid : Solid name := hh name (by simp [hname])
    obtain ⟨word, hword, rest, hrest, htext⟩ := toList_text hh hname
    rw [htext]
    simp only [Text.unbroken_append, Text.unbroken_cons]
    exact ⟨⟨hwords word hword, Text.unbroken_of_not_blank hsolid, hspace, hrest⟩, hbrace,
      Text.unbroken_nil⟩

theorem Plain.trimRight_text (hh : h.Plain) :
    Text.trimRight Text.isBlank h.text.toList = h.text.toList := by
  cases hname : h.name? with
  | none =>
    obtain rfl := eq_schema_of_name? hname
    decide
  | some name =>
    obtain ⟨word, hword, rest, hrest, htext⟩ := toList_text hh hname
    rw [htext]
    exact Text.trimRight_append_singleton (by decide) _

/-- A heading among the raw lines is read back from the document. -/
theorem mem_declaredTypes {o : Outline} (hh : h.Plain) (hname : h.name? = some name)
    (hraw : h.text ∈ o.rawLines) : name ∈ declaredTypes o.text := by
  obtain ⟨word, hword, rest, hrest, htext⟩ := toList_text hh hname
  have hne : h.text ≠ "" := by
    rintro hempty
    simp [hempty] at htext
  have hline := Outline.mem_splitLines_text hraw hh.unbroken_text hh.trimRight_text hne
  refine List.mem_filterMap.mpr ⟨_, hline, ?_⟩
  rw [htext]
  exact Text.headedName?_eq hword (hh name (by simp [hname])) rest

end Heading

theorem mem_scalarsIn {name : String} (h : name ∈ declaredScalars) (o : Outline) :
    name ∈ scalarsIn o.text := by
  have hscalars : ∀ name ∈ declaredScalars, Text.Unbroken ("scalar " ++ name).toList ∧
      Text.trimRight Text.isBlank ("scalar " ++ name).toList = ("scalar " ++ name).toList ∧
      "scalar " ++ name ≠ "" ∧ Text.scalarName? ("scalar " ++ name).toList = some name := by decide
  have hraw : "scalar " ++ name ∈ o.rawLines :=
    List.mem_append_left _ (mem_spaced (List.mem_cons_self ..) (List.mem_map_of_mem h))
  obtain ⟨hbroken, hend, hne, hread⟩ := hscalars name h
  exact List.mem_filterMap.mpr ⟨_, Outline.mem_splitLines_text hraw hbroken hend hne, hread⟩

namespace Outline
variable {nodes : List Node} {links : List Link} {outgoing : Node → List Link} {name : String}

theorem plain_headings : ∀ d ∈ (of nodes links outgoing).declarations, d.heading.Plain := by
  have hfixed : ∀ d ∈ fixedDeclarations ++ [rootDeclaration], d.heading.Plain := by decide
  have hnode : Solid "Node" := by decide
  have hedge : Solid "Edge" := by decide
  have hconnection : Solid "Connection" := by decide
  have htypes : ∀ name ∈ ["Query", "Mutation"], (Heading.type name).Plain := by decide
  intro d hd
  cases mem_declarations_iff.mp hd with
  | fixed hd => exact hfixed d (List.mem_append_left _ hd)
  | @object n _ =>
    exact List.forall_mem_cons.mpr ⟨n.solid_typeName, List.forall_mem_singleton.mpr hnode⟩
  | @input n _ => exact List.forall_mem_singleton.mpr n.solid_inputName
  | @edge l _ =>
    exact List.forall_mem_cons.mpr ⟨l.solid_edgeName, List.forall_mem_singleton.mpr hedge⟩
  | @connection l _ =>
    exact List.forall_mem_cons.mpr
      ⟨l.solid_connectionName, List.forall_mem_singleton.mpr hconnection⟩
  | query => exact htypes "Query" (by decide)
  | mutation => exact htypes "Mutation" (by decide)
  | root => exact hfixed _ (by simp)

theorem mem_declaredTypes_of_mem_names (h : name ∈ (of nodes links outgoing).names) :
    name ∈ declaredTypes (of nodes links outgoing).text := by
  obtain ⟨d, hd, hname⟩ := List.mem_filterMap.mp h
  have hline : d.heading.text ∈ d.lines := by simp [Declaration.lines]
  exact Heading.mem_declaredTypes (plain_headings d hd) hname (mem_rawLines hd hline)

end Outline

namespace Store
variable {s : Store} {d : Diagnosis} {g : Generated}

/-- Every type that the document mentions is a scalar of the grammar, or the document has a line
that declares it under the same name. -/
theorem references_declared (h : (d.generate s.provider).outcome = .ok g) :
    g.document = s.outline.text ∧ ∀ name ∈ s.outline.references,
      name ∈ builtInScalars ∨ name ∈ scalarsIn g.document ∨ name ∈ declaredTypes g.document := by
  obtain ⟨hlinks, -, htext⟩ := generate_outline h
  have hends : ∀ l ∈ s.links, l.start ∈ s.allNodes ∧ l.finish ∈ s.allNodes := by
    intro l hl
    obtain ⟨e, -, he⟩ := List.mem_filterMap.mp hl
    obtain ⟨-, hstart, hfinish⟩ := link?_eq_some.mp he
    exact ⟨Registry.mem_entities_of_get? hstart, Registry.mem_entities_of_get? hfinish⟩
  refine ⟨htext, fun name hname => ?_⟩
  have hknown : s.outline.Knows name :=
    Outline.knows_of_mem_references (fun l hl => (hends l hl).1) (fun l hl => (hends l hl).2)
      (fun _ _ _ hl => mem_of_mem_knownFrom hl) hname
  rw [htext]
  rcases hknown with hscalar | htype
  · exact (List.mem_append.mp hscalar).imp_right fun h => Or.inl (mem_scalarsIn h _)
  · exact Or.inr (Or.inr (Outline.mem_declaredTypes_of_mem_names htype))

/-- The document of a person, a city and two edges. -/
theorem references_declared_town :
    ∃ g, (Diagnosis.generate {} town.provider).outcome = .ok g ∧
      g.document = town.outline.text ∧ ∀ name ∈ town.outline.references,
        name ∈ builtInScalars ∨ name ∈ scalarsIn g.document ∨
          name ∈ declaredTypes g.document := by
  have hdeclarable : AllDeclarable town.allNodes town.links := by
    unfold AllDeclarable
    decide
  obtain ⟨g, hg⟩ := exists_generate (d := {}) origin_town.sound.linked.resolveAll hdeclarable
    (by decide)
  exact ⟨g, hg, references_declared hg⟩

end Store
end GraphSchema
