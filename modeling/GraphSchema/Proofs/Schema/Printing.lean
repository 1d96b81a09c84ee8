import GraphSchema.Proofs.Schema.Outline
import GraphSchema.Proofs.Schema.Resolution
import GraphSchema.Proofs.Text.Collapse

/-! Generation prints an outline: every fragment of the document is the text of a declaration. -/
namespace GraphSchema

section Joining
variable {ls ms : List String} {gs : List (List String)}

theorem joined_append (hl : ls ≠ []) (hm : ms ≠ []) :
    joined (ls ++ ms) = joined ls ++ "\n" ++ joined ms :=
  String.intercalate_append_of_ne_nil hl hm

theorem joined_cons (l : String) (h : ls ≠ []) : joined (l :: ls) = l ++ "\n" ++ joined ls :=
  String.intercalate_cons_of_ne_nil h

theorem toList_joined (ls : List String) :
    (joined ls).toList = Text.joinLines (ls.map String.toList) := by
  induction ls with
  | nil => rfl
  | cons l ls ih =>
    cases ls with
    | nil => rfl
    | cons m ms =>
      rw [joined_cons l (List.cons_ne_nil m ms), String.toList_append, String.toList_append, ih]
      exact List.append_assoc ..

theorem spaced_cons (g : List String) (h : gs ≠ []) : spaced (g :: gs) = g ++ "" :: spaced gs := by
  cases gs with
  | nil => exact absurd rfl h
  | cons => rfl

theorem spaced_ne_nil (h : ∀ g ∈ gs, g ≠ []) : spaced gs ≠ [] := by
  cases gs with
  | nil => exact List.cons_ne_nil _ _
  | cons g gs =>
    have hg : g ≠ [] := h g (List.mem_cons_self ..)
    cases gs with
    | nil => exact hg
    | cons => exact List.append_ne_nil_of_left_ne_nil hg _

theorem mem_spaced {g : List String} {l : String} (hg : g ∈ gs) (hl : l ∈ g) : l ∈ spaced gs := by
  induction gs with
  | nil => exact absurd hg List.not_mem_nil
  | cons k ks ih =>
    cases ks with
    | nil => exact List.mem_singleton.mp hg ▸ hl
    | cons m ms =>
      rcases List.mem_cons.mp hg with rfl | hg
      · exact List.mem_append_left _ hl
      · exact List.mem_append_right _ (List.mem_cons_of_mem _ (ih hg))

theorem mem_of_mem_spaced {l : String} (hl : l ∈ spaced gs) : l = "" ∨ ∃ g ∈ gs, l ∈ g := by
  induction gs with
  | nil => exact Or.inl (List.mem_singleton.mp hl)
  | cons g gs ih =>
    cases gs with
    | nil => exact Or.inr ⟨g, List.mem_cons_self .., hl⟩
    | cons k ks =>
      rcases List.mem_append.mp hl with hl | hl
      · exact Or.inr ⟨g, List.mem_cons_self .., hl⟩
      · rcases List.mem_cons.mp hl with rfl | hl
        · exact Or.inl rfl
        · exact (ih hl).imp_right fun ⟨m, hm, hl⟩ => ⟨m, List.mem_cons_of_mem _ hm, hl⟩

theorem spaced_append_last (gs : List (List String)) (g : List String) (l : String) :
    spaced (gs ++ [g ++ [l]]) = spaced (gs ++ [g]) ++ [l] := by
  induction gs with
  | nil => rfl
  | cons k ks ih =>
    rw [List.cons_append, List.cons_append, spaced_cons k (by simp), spaced_cons k (by simp), ih]
    simp

/-- Texts with an empty line between two of them are their lines, spaced. -/
theorem joined_spaced (h : ∀ g ∈ gs, g ≠ []) :
    joined (spaced gs) = "\n\n".intercalate (gs.map joined) := by
  induction gs with
  | nil => rfl
  | cons g gs ih =>
    cases gs with
    | nil => rfl
    | cons k ks =>
      obtain ⟨hg, hks⟩ := List.forall_mem_cons.mp h
      calc joined (spaced (g :: k :: ks))
          = joined g ++ "\n" ++ joined ("" :: spaced (k :: ks)) :=
            joined_append hg (List.cons_ne_nil _ _)
        _ = joined g ++ "\n\n" ++ joined (spaced (k :: ks)) := by
          have htwo : "\n\n" = "\n" ++ "\n" := rfl
          rw [joined_cons "" (spaced_ne_nil hks), htwo]
          simp only [String.empty_append, String.append_assoc]
        _ = joined g ++ "\n\n" ++ "\n\n".intercalate ((k :: ks).map joined) := by rw [ih hks]
        _ = "\n\n".intercalate ((g :: k :: ks).map joined) :=
          (String.intercalate_cons_of_ne_nil (List.cons_ne_nil _ _)).symm

/-- Texts that are pairs of texts, joined by the same separator. -/
theorem intercalate_pairs {α : Type} {sep : String} {as : List α} {f g : α → String}
    {rest : List String} (h : rest ≠ []) :
    sep.intercalate (as.map (fun a => f a ++ sep ++ g a) ++ rest) =
      sep.intercalate (as.flatMap (fun a => [f a, g a]) ++ rest) := by
  induction as with
  | nil => rfl
  | cons a as ih =>
    rw [List.map_cons, List.cons_append, List.flatMap_cons, List.append_assoc,
      String.intercalate_cons_of_ne_nil (by simp [h]), ih, List.cons_append, List.cons_append,
      List.nil_append, String.intercalate_cons_cons,
      String.intercalate_cons_of_ne_nil (by simp [h])]
    simp only [String.append_assoc]

end Joining

section Fields
variable {p : Property} {ps : List Property} {ls : List String}

theorem FieldDecl.lines_of_no_remark {f : FieldDecl} (h : f.remark = none) :
    f.lines = [indent ++ f.text] := by
  rw [FieldDecl.lines, h]
  rfl

theorem Property.field_text {s : Scalar} (h : p.scalar? = some s) :
    p.field.text = p.declarationFor s := by
  cases hr : p.isRequired.counts <;>
    simp [Property.field, FieldDecl.text, FieldDecl.signature, TypeRef.text,
      Property.declarationFor, h, hr, String.append_assoc]

theorem Property.field_lines {s : Scalar} (h : p.scalar? = some s) :
    p.field.lines = p.linesFor indent s := by
  rw [FieldDecl.lines, Property.field_text h]
  simp [Property.field, Property.linesFor, h]

/-- The type of a property is a scalar, and the values of its comment can be written. -/
structure Property.Declarable (p : Property) : Prop where
  type : p.scalar?.isSome
  values : p.beyond? = none

theorem Property.declarable_iff : p.Declarable ↔ p.scalar?.isSome ∧ p.beyond? = none :=
  ⟨fun h => ⟨h.type, h.values⟩, fun h => ⟨h.1, h.2⟩⟩

instance : DecidablePred Property.Declarable := fun _ =>
  decidable_of_iff _ Property.declarable_iff.symm

theorem Property.described_eq_ok {s : Scalar} :
    p.described = .ok s ↔ p.scalar? = some s ∧ p.beyond? = none := by
  unfold Property.described Property.scalar
  cases p.scalar? with
  | none => cases p.type.beyond? <;> simp
  | some t => cases p.beyond? <;> simp

theorem Property.lines_eq_ok :
    p.lines indent = .ok ls ↔ p.Declarable ∧ ls = p.field.lines := by
  rw [Property.lines, map_eq_ok]
  constructor
  · rintro ⟨s, hs, rfl⟩
    obtain ⟨htype, hvalues⟩ := Property.described_eq_ok.mp hs
    exact ⟨⟨Option.isSome_of_eq_some htype, hvalues⟩, (Property.field_lines htype).symm⟩
  · rintro ⟨⟨htype, hvalues⟩, rfl⟩
    obtain ⟨s, hs⟩ := Option.isSome_iff_exists.mp htype
    exact ⟨s, Property.described_eq_ok.mpr ⟨hs, hvalues⟩, (Property.field_lines hs).symm⟩

/-- Properties are printed when each can be declared, and then as their fields. -/
theorem propertyLines_eq_ok :
    propertyLines ps = .ok ls ↔
      (∀ p ∈ ps, p.Declarable) ∧ ls = ps.flatMap (·.field.lines) := by
  induction ps generalizing ls with
  | nil => exact ⟨fun h => ⟨by simp, (Except.ok.inj h).symm⟩, fun h => congrArg _ h.2.symm⟩
  | cons p ps ih =>
    unfold propertyLines
    rw [List.forall_mem_cons, List.flatMap_cons]
    split
    next u hu =>
      have hno : ¬p.Declarable := fun h =>
        ne_ok_of_eq_error hu (Property.lines_eq_ok.mpr ⟨h, rfl⟩)
      simp [hno]
    next ms hms =>
      obtain ⟨hp, rfl⟩ := Property.lines_eq_ok.mp hms
      split
      next u hu =>
        have hno : ¬∀ q ∈ ps, q.Declarable := fun h =>
          ne_ok_of_eq_error hu (ih.mpr ⟨h, rfl⟩)
        simp only [reduceCtorEq, hno, and_false, false_and]
      next more hmore =>
        obtain ⟨hps, rfl⟩ := ih.mp hmore
        rw [Except.ok.injEq]
        exact ⟨fun h => ⟨⟨hp, hps⟩, h.symm⟩, fun h => h.2.symm⟩

theorem map_propertyLines_eq_ok {f : List String → List String} :
    (propertyLines ps).map f = .ok ls ↔
      (∀ p ∈ ps, p.Declarable) ∧ ls = f (ps.flatMap (·.field.lines)) := by
  rw [map_eq_ok]
  constructor
  · rintro ⟨ms, hms, rfl⟩
    obtain ⟨hps, rfl⟩ := propertyLines_eq_ok.mp hms
    exact ⟨hps, rfl⟩
  · rintro ⟨hps, rfl⟩
    exact ⟨_, propertyLines_eq_ok.mpr ⟨hps, rfl⟩, rfl⟩

end Fields

section Fragments
variable {n : Node} {l : Link} {ls : List String} {outgoing : List Link} {text : String}

theorem Link.field_lines (l : Link) : l.field.lines = [l.connectionField] := by
  rw [FieldDecl.lines_of_no_remark rfl, Link.connectionField]
  simp [Link.field, FieldDecl.text, FieldDecl.signature, TypeRef.text, String.append_assoc]

theorem Heading.text_implements (name base : String) :
    (Heading.type name (some base)).text =
      "type " ++ name ++ (" implements " ++ base ++ " \x7b") := by
  simp [Heading.text, String.append_assoc]

theorem Node.typeLines_eq_ok :
    n.typeLines outgoing = .ok ls ↔
      (∀ p ∈ n.properties, p.Declarable) ∧ ls = (n.objectDeclaration outgoing).lines := by
  have hlines : (n.objectDeclaration outgoing).lines = n.typeHeader ::
      n.properties.flatMap (·.field.lines) ++ outgoing.map Link.connectionField ++ ["\x7d"] := by
    simp only [Node.objectDeclaration, Declaration.lines, Declaration.body, spaced,
      Heading.text_implements, List.map_cons, List.map_nil, List.flatMap_append, List.flatMap_map,
      Link.field_lines, List.nil_append, List.cons_append, ← List.map_eq_flatMap]
    rfl
  rw [hlines, Node.typeLines, map_propertyLines_eq_ok]

theorem Node.inputLines_eq_ok :
    n.inputLines = .ok ls ↔
      (∀ p ∈ n.inputProperties, p.Declarable) ∧ ls = n.inputDeclaration.lines := by
  have hlines : n.inputDeclaration.lines = ["#input for " ++ n.typeName,
      "input " ++ n.inputName ++ " \x7b"] ++ n.inputProperties.flatMap (·.field.lines) ++
        ["\x7d"] := by
    simp only [Node.inputDeclaration, Declaration.lines, Declaration.body, spaced,
      List.map_cons, List.map_nil, List.flatMap_map]
    rfl
  rw [hlines, Node.inputLines, map_propertyLines_eq_ok]

theorem Link.edgeLines_eq_ok :
    l.edgeLines = .ok ls ↔
      (∀ p ∈ l.edge.properties, p.Declarable) ∧ ls = l.edgeDeclaration.lines := by
  have hlines : l.edgeDeclaration.lines = ["type " ++ l.edgeName ++ " implements Edge \x7b",
      indent ++ "node: " ++ l.finish.typeName] ++ l.edge.properties.flatMap (·.field.lines) ++
        ["\x7d"] := by
    simp only [Link.edgeDeclaration, Declaration.lines, Declaration.body, spaced,
      List.map_cons, List.map_nil, List.flatMap_cons, List.flatMap_map]
    rw [FieldDecl.lines_of_no_remark rfl]
    simp [FieldDecl.text, FieldDecl.signature, TypeRef.text, Heading.text, String.append_assoc]
  rw [hlines, Link.edgeLines, map_propertyLines_eq_ok]

theorem Node.fragment_eq_ok :
    n.fragment outgoing = .ok text ↔
      (∀ p ∈ n.properties, p.Declarable) ∧
        text = (n.objectDeclaration outgoing).text ++ "\n\n" ++ n.inputDeclaration.text := by
  have hinput (h : ∀ p ∈ n.properties, p.Declarable) :
      n.inputLines = .ok n.inputDeclaration.lines :=
    Node.inputLines_eq_ok.mpr ⟨fun p hp => h p (List.mem_of_mem_filter hp), rfl⟩
  unfold Node.fragment
  split
  next u hu =>
    have hno : ¬∀ p ∈ n.properties, p.Declarable := fun h =>
      ne_ok_of_eq_error hu (Node.typeLines_eq_ok.mpr ⟨h, rfl⟩)
    simp only [reduceCtorEq, hno, false_and]
  next object hobject =>
    obtain ⟨hps, rfl⟩ := Node.typeLines_eq_ok.mp hobject
    rw [hinput hps, Except.ok.injEq]
    exact ⟨fun h => ⟨hps, h.symm⟩, fun h => h.2.symm⟩

theorem Link.edgeFragment_eq_ok :
    l.edgeFragment = .ok text ↔
      (∀ p ∈ l.edge.properties, p.Declarable) ∧ text = l.edgeDeclaration.text := by
  rw [Link.edgeFragment, map_eq_ok]
  constructor
  · rintro ⟨ls, hls, rfl⟩
    obtain ⟨hps, rfl⟩ := Link.edgeLines_eq_ok.mp hls
    exact ⟨hps, rfl⟩
  · rintro ⟨hps, rfl⟩
    exact ⟨_, Link.edgeLines_eq_ok.mpr ⟨hps, rfl⟩, rfl⟩

theorem Link.connectionFragment_eq (l : Link) :
    l.connectionFragment = l.connectionDeclaration.text := by
  have hlines : l.connectionDeclaration.lines = l.connectionLines := by
    simp [Link.connectionDeclaration, Declaration.lines, Declaration.body, spaced, Heading.text,
      FieldDecl.lines_of_no_remark, FieldDecl.text, FieldDecl.signature, TypeRef.text,
      Link.connectionLines, String.append_assoc]
    simp only [← String.append_assoc, String.reduceAppend, and_self]
  rw [Declaration.text, hlines, Link.connectionFragment]

theorem Node.queryDecl_lines (n : Node) : n.queryDecl.lines = [n.queryField] := by
  rw [FieldDecl.lines_of_no_remark rfl]
  simp [Node.queryDecl, FieldDecl.text, FieldDecl.signature, Argument.text, TypeRef.text,
    Node.queryField, String.append_assoc]
  simp only [← String.append_assoc, String.reduceAppend]

theorem queryType_eq (nodes : List Node) : queryType nodes = (queryDeclaration nodes).text := by
  have hlines : (queryDeclaration nodes).lines =
      ["# the schema allows the following query:", "type Query \x7b",
        indent ++ "nodes(id:[ID]): [Node]"] ++ nodes.map Node.queryField ++ ["\x7d"] := by
    simp only [queryDeclaration, Declaration.lines, Declaration.body, spaced, List.map_cons,
      List.map_nil, List.flatMap_cons, List.flatMap_map, Node.queryDecl_lines,
      ← List.map_eq_flatMap]
    rfl
  rw [Declaration.text, hlines, queryType]

theorem Link.mutationFields_lines (l : Link) :
    l.mutationFields.flatMap FieldDecl.lines = l.mutations.map (indent ++ ·) := by
  simp [Link.mutationFields, FieldDecl.lines_of_no_remark, FieldDecl.text, FieldDecl.signature,
    Argument.text, TypeRef.text, Link.mutations, Link.signature, String.intercalate_cons_cons,
    String.append_assoc]

theorem Node.mutationFields_lines (n : Node) (outgoing : List Link) :
    (n.mutationFields outgoing).flatMap FieldDecl.lines = n.mutationLines outgoing := by
  have hlinks : (outgoing.flatMap Link.mutationFields).flatMap FieldDecl.lines =
      (outgoing.flatMap Link.mutations).map (indent ++ ·) := by
    rw [List.flatMap_assoc, List.map_flatMap]
    exact List.flatMap_congr fun l _ => l.mutationFields_lines
  rw [Node.mutationFields, List.flatMap_append, hlinks, Node.mutationLines, Node.mutations,
    List.map_append]
  simp [FieldDecl.lines_of_no_remark, FieldDecl.text, FieldDecl.signature,
    Argument.text, TypeRef.text, String.intercalate_cons_cons, String.append_assoc]

theorem Node.mutationLines_ne_nil (n : Node) (outgoing : List Link) :
    n.mutationLines outgoing ≠ [] := by
  simp [Node.mutationLines, Node.mutations]

theorem mutationType_eq (nodes : List Node) (o : Outgoing) :
    mutationType nodes o = (mutationDeclaration nodes o.of).text := by
  have hbody : (mutationDeclaration nodes o.of).body =
      spaced (nodes.map fun n => n.mutationLines (o.of n)) := by
    rw [Declaration.body, mutationDeclaration, List.map_map]
    exact congrArg spaced (List.map_congr_left fun n _ => n.mutationFields_lines (o.of n))
  have hgroups : ∀ g ∈ nodes.map fun n => n.mutationLines (o.of n), g ≠ [] := by
    intro g hg
    obtain ⟨n, -, rfl⟩ := List.mem_map.mp hg
    exact n.mutationLines_ne_nil _
  have hlines : (mutationDeclaration nodes o.of).lines =
      "type Mutation \x7b" :: (spaced (nodes.map fun n => n.mutationLines (o.of n)) ++ ["\x7d"]) :=
    congrArg (fun body => "type Mutation \x7b" :: (body ++ ["\x7d"])) hbody
  have hopen : "type Mutation \x7b\n" = "type Mutation \x7b" ++ "\n" := by decide
  have hclose : "\n\x7d" = "\n" ++ joined ["\x7d"] := by decide
  rw [Declaration.text, hlines, joined_cons _ (by simp),
    joined_append (spaced_ne_nil hgroups) (by simp), joined_spaced hgroups, List.map_map]
  unfold mutationType
  rw [hopen, hclose]
  simp only [String.append_assoc, Function.comp_def]

end Fragments

theorem Declaration.lines_ne_nil (d : Declaration) : d.lines ≠ [] := by
  simp [Declaration.lines]

namespace Outline

/-- The lines with which every document begins. -/
def fixedLines : List String := spaced (scalarLines :: fixedDeclarations.map Declaration.lines)

theorem boilerplate_eq : boilerplate = joined (fixedLines ++ [""]) := by
  simp [boilerplate, fixedLines, spaced, scalarLines, declaredScalars, fixedDeclarations,
    geoPointFields, Declaration.lines, Declaration.body, Heading.text, FieldDecl.lines,
    FieldDecl.text, FieldDecl.signature, TypeRef.text, indent]

theorem schemaBlock_eq : schemaBlock = joined (rootDeclaration.lines ++ [""]) := by decide

/-- The parts of the document, those at both ends with a line feed behind them. -/
def parts (o : Outline) : List (List String) :=
  (fixedLines ++ [""]) :: o.generated.map Declaration.lines ++ [rootDeclaration.lines ++ [""]]

theorem text_eq (o : Outline) : o.text = collapseBlankLines (joined (spaced o.parts)) := by
  have hne : ∀ g ∈ o.parts, g ≠ [] := by
    intro g hg
    simp only [parts, List.mem_append, List.mem_cons, List.mem_map, List.not_mem_nil,
      or_false] at hg
    rcases hg with (rfl | ⟨d, -, rfl⟩) | rfl
    · simp
    · exact d.lines_ne_nil
    · simp
  have hparts : o.parts.map joined = boilerplate :: o.generated.map Declaration.text ++
      [schemaBlock] := by
    rw [boilerplate_eq, schemaBlock_eq]
    simp [parts, Declaration.text, Function.comp_def]
  have hgenerated : o.generated.map Declaration.text ++ [schemaBlock] =
      o.nodes.flatMap (fun d => [d.1.text, d.2.text]) ++
        (o.edges.map Declaration.text ++ (o.connections.map Declaration.text ++
          [o.query.text, o.mutation.text, schemaBlock])) := by
    simp [generated, List.map_flatMap]
  rw [text, assemble, joined_spaced hne, hparts]
  simp only [List.cons_append, List.nil_append, List.append_assoc]
  rw [String.intercalate_cons_of_ne_nil (by simp), intercalate_pairs (by simp),
    String.intercalate_cons_of_ne_nil (by simp), hgenerated]

theorem of_congr {nodes : List Node} {links : List Link} {f g : Node → List Link}
    (h : ∀ n ∈ nodes, f n = g n) : of nodes links f = of nodes links g := by
  have hnodes : nodes.map (fun n => (n.objectDeclaration (f n), n.inputDeclaration)) =
      nodes.map fun n => (n.objectDeclaration (g n), n.inputDeclaration) :=
    List.map_congr_left fun n hn => by rw [h n hn]
  have hmutation : mutationDeclaration nodes f = mutationDeclaration nodes g := by
    rw [mutationDeclaration, mutationDeclaration]
    congr 1
    exact List.map_congr_left fun n hn => by rw [h n hn]
  rw [of, of, hnodes, hmutation]

/-- The lines of the document before blank ones are collapsed. -/
def rawLines (o : Outline) : List String :=
  fixedLines ++ "" :: "" :: spaced (o.generated.map Declaration.lines ++ [rootDeclaration.lines])

theorem toList_text (o : Outline) :
    o.text.toList = Text.collapse (Text.endLines (o.rawLines.map String.toList)) := by
  have hspaced : spaced o.parts = o.rawLines ++ [""] := by
    have hlast := spaced_append_last (o.generated.map Declaration.lines) rootDeclaration.lines ""
    rw [parts, List.cons_append, spaced_cons _ (by simp), hlast, rawLines]
    simp only [List.append_assoc, List.cons_append, List.nil_append]
  rw [text_eq, collapseBlankLines, String.toList_ofList, toList_joined, hspaced, List.map_append]
  exact congrArg Text.collapse ((Text.joinLines_append_singleton _ _).trans (List.append_nil _))

theorem rawLines_ends (o : Outline) : ∃ ls, o.rawLines = "scalar Datetime" :: ls ++ ["\x7d"] := by
  rw [rawLines, Declaration.lines, spaced_append_last]
  have hfixed : fixedLines = "scalar Datetime" :: fixedLines.tail := by
    simp [fixedLines, spaced, scalarLines, declaredScalars, fixedDeclarations]
  rw [hfixed]
  exact ⟨fixedLines.tail ++ "" :: "" :: spaced (o.generated.map Declaration.lines ++
    [rootDeclaration.remarks ++ rootDeclaration.heading.text :: rootDeclaration.body]), by simp⟩

/-- The lines of a document: what its raw lines break into, trimmed and squeezed. -/
theorem splitLines_text (o : Outline) :
    Text.splitLines o.text.toList =
      Text.squeeze ((o.rawLines.flatMap fun l => Text.splitLines (l.toList ++ ['\n'])).map
        (Text.trimRight Text.isBlank)) := by
  obtain ⟨ls, hls⟩ := o.rawLines_ends
  have hfirst : (Text.splitLines ("scalar Datetime".toList ++ ['\n'])).map
      (Text.trimRight Text.isBlank) = ["scalar Datetime".toList] := by decide
  have hlast : (Text.splitLines ("\x7d".toList ++ ['\n'])).map
      (Text.trimRight Text.isBlank) = ["\x7d".toList] := by decide
  have hsplit : Text.splitLines (Text.endLines (o.rawLines.map String.toList)) =
      o.rawLines.flatMap fun l => Text.splitLines (l.toList ++ ['\n']) := by
    rw [Text.splitLines_endLines_flatMap, List.flatMap_map]
  have hends : (Text.splitLines (Text.endLines (o.rawLines.map String.toList))).map
      (Text.trimRight Text.isBlank) = ('s' :: "calar Datetime".toList) ::
        (ls.flatMap fun l => Text.splitLines (l.toList ++ ['\n'])).map
          (Text.trimRight Text.isBlank) ++ ["\x7d".toList] := by
    rw [hsplit, hls]
    simp only [List.flatMap_append, List.flatMap_cons, List.flatMap_nil, List.map_append, hfirst,
      hlast, List.append_nil]
    rfl
  rw [toList_text, ← hsplit]
  exact Text.splitLines_collapse (by decide) (by decide) hends

/-- A raw line that neither breaks nor is trimmed is a line of the document. -/
theorem mem_splitLines_text {o : Outline} {l : String} (hl : l ∈ o.rawLines)
    (hbroken : Text.Unbroken l.toList)
    (hend : Text.trimRight Text.isBlank l.toList = l.toList) (hne : l ≠ "") :
    l.toList ∈ Text.splitLines o.text.toList := by
  have hchars : l.toList ≠ [] := by simpa using hne
  rw [splitLines_text, Text.mem_squeeze hchars, List.mem_map]
  refine ⟨l.toList, List.mem_flatMap.mpr ⟨l, hl, ?_⟩, hend⟩
  rw [Text.splitLines_line hbroken]
  exact List.mem_cons_self ..

theorem mem_rawLines {o : Outline} {d : Declaration} (hd : d ∈ o.declarations) {l : String}
    (hl : l ∈ d.lines) : l ∈ o.rawLines := by
  rw [declarations, List.mem_append, List.mem_append, List.mem_singleton] at hd
  rcases hd with (hd | hd) | rfl
  · exact List.mem_append_left _
      (mem_spaced (List.mem_cons_of_mem _ (List.mem_map_of_mem hd)) hl)
  · exact List.mem_append_right _ (List.mem_cons_of_mem _ (List.mem_cons_of_mem _
      (mem_spaced (List.mem_append_left _ (List.mem_map_of_mem hd)) hl)))
  · exact List.mem_append_right _ (List.mem_cons_of_mem _ (List.mem_cons_of_mem _
      (mem_spaced (List.mem_append_right _ (List.mem_singleton.mpr rfl)) hl)))

end Outline

section Documents
variable {p : Provider} {links : List Link} {outgoing : Outgoing} {document : String}

/-- Every property of the nodes and edges can be declared. -/
def AllDeclarable (nodes : List Node) (links : List Link) : Prop :=
  (∀ n ∈ nodes, ∀ q ∈ n.properties, q.Declarable) ∧
    ∀ l ∈ links, ∀ q ∈ l.edge.properties, q.Declarable

theorem render_eq_ok :
    (render p links outgoing).outcome = .ok document ↔
      AllDeclarable p.nodes links ∧
        document = (Outline.of p.nodes links outgoing.of).text := by
  have hnodes {texts : List String} :
      Provider.eachOk (fun n => n.fragment (outgoing.of n)) p.nodes = .ok texts ↔
        (∀ n ∈ p.nodes, ∀ q ∈ n.properties, q.Declarable) ∧ texts = p.nodes.map fun n =>
          (n.objectDeclaration (outgoing.of n)).text ++ "\n\n" ++ n.inputDeclaration.text :=
    Provider.eachOk_eq_ok_map fun _ _ => Node.fragment_eq_ok
  have hedges {texts : List String} :
      Provider.eachOk Link.edgeFragment links = .ok texts ↔
        (∀ l ∈ links, ∀ q ∈ l.edge.properties, q.Declarable) ∧
          texts = links.map fun l => l.edgeDeclaration.text :=
    Provider.eachOk_eq_ok_map fun _ _ => Link.edgeFragment_eq_ok
  unfold render AllDeclarable
  split
  next u hu =>
    have hno : ¬∀ n ∈ p.nodes, ∀ q ∈ n.properties, q.Declarable := fun h =>
      ne_ok_of_eq_error hu (hnodes.mpr ⟨h, rfl⟩)
    simp only [reduceCtorEq, hno, false_and]
  next nodeTexts hprinted =>
    obtain ⟨hn, rfl⟩ := hnodes.mp hprinted
    split
    next u hu =>
      have hno : ¬∀ l ∈ links, ∀ q ∈ l.edge.properties, q.Declarable := fun h =>
        ne_ok_of_eq_error hu (hedges.mpr ⟨h, rfl⟩)
      simp only [reduceCtorEq, hno, and_false, false_and]
    next edgeTexts hprinted =>
      obtain ⟨he, rfl⟩ := hedges.mp hprinted
      have htext : (Outline.of p.nodes links outgoing.of).text =
          assemble (p.nodes.map fun n =>
              (n.objectDeclaration (outgoing.of n)).text ++ "\n\n" ++ n.inputDeclaration.text)
            (links.map fun l => l.edgeDeclaration.text) (links.map Link.connectionFragment)
            (queryType p.nodes) (mutationType p.nodes outgoing) := by
        rw [queryType_eq, mutationType_eq, funext Link.connectionFragment_eq]
        simp only [Outline.of, Outline.text, List.map_map, Function.comp_def]
      rw [htext, Except.ok.injEq]
      exact ⟨fun h => ⟨⟨hn, he⟩, h.symm⟩, fun h => h.2.symm⟩

end Documents

namespace Store

variable {s : Store} {d : Diagnosis} {g : Generated}

/-- What generation declares for a store whose edges all resolve. -/
def outline (s : Store) : Outline := .of s.allNodes s.links fun n => s.knownFrom s.links n.id

/-- A document that is generated is the text of the outline. -/
theorem generate_outline (h : (d.generate s.provider).outcome = .ok g) :
    s.provider.resolveAll s.allEdges = .ok s.links ∧ AllDeclarable s.allNodes s.links ∧
      g.document = s.outline.text := by
  obtain ⟨plan, document, hplan, hrender, rfl⟩ := Diagnosis.generate_eq_ok.mp h
  obtain ⟨hlinks, houtgoing, -⟩ := Diagnosis.plan_eq_ok.mp hplan
  have hown : plan.links = s.links := eq_links_of_resolveAll hlinks
  obtain ⟨hdeclarable, htext⟩ := render_eq_ok.mp hrender
  rw [hown] at hlinks houtgoing hdeclarable htext
  have hof : Outline.of s.allNodes s.links plan.outgoing.of = s.outline :=
    Outline.of_congr fun n hn => outgoing_of hlinks houtgoing hn
  exact ⟨hlinks, hdeclarable, htext.trans (congrArg Outline.text hof)⟩

/-- Generation succeeds where every edge resolves, every property can be declared and collisions are
not forbidden. -/
theorem exists_generate (hlinks : s.provider.resolveAll s.allEdges = .ok s.links)
    (hdeclarable : AllDeclarable s.allNodes s.links) (hpolicy : d.collisions ≠ .error) :
    ∃ g, (d.generate s.provider).outcome = .ok g := by
  have houtgoing := outgoing_eq hlinks
  obtain ⟨warnings, hwarnings⟩ := d.warnings_eq_ok fun h => absurd h hpolicy
  have hplan : d.plan s.provider = .ok ⟨s.links, _, warnings⟩ :=
    Diagnosis.plan_eq_ok.mpr ⟨hlinks, houtgoing, hwarnings⟩
  exact ⟨_, Diagnosis.generate_eq_ok.mpr
    ⟨_, _, hplan, render_eq_ok.mpr ⟨hdeclarable, rfl⟩, rfl⟩⟩

end Store
end GraphSchema
