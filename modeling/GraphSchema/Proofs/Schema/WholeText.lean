import GraphSchema.Proofs.Schema.Blocks
import GraphSchema.Proofs.Schema.Outcome
import GraphSchema.Proofs.Text.Whole

/-! A document can be written in UTF-8 if and only if the labels of its graph, and the texts that its
properties show, are whole. -/
namespace GraphSchema
open Text

/-- A text on its own stands for itself; in every other value halves are escaped. -/
def Value.Whole : Value → Prop
  | text s => Text.Whole s.toList
  | _ => True

instance : DecidablePred Value.Whole
  | .text s => inferInstanceAs (Decidable (Text.Whole s.toList))
  | .null | .bool _ | .int _ | .float _ | .list _ | .object _ => .isTrue trivial

/-- The texts that a user writes into a property are whole. -/
structure Property.Whole (p : Property) : Prop where
  description : p.description.Whole
  defaultValue : p.defaultValue.Whole

/-- The values of a property can be written as text, and the text in UTF-8. -/
structure Property.Writable (p : Property) : Prop where
  limits : p.beyond? = none
  whole : p.Whole

structure Node.Whole (n : Node) : Prop where
  label : Text.Whole n.label.toList
  properties : ∀ p ∈ n.properties, p.Whole

structure Edge.Whole (e : Edge) : Prop where
  label : Text.Whole e.label.toList
  properties : ∀ p ∈ e.properties, p.Whole

structure Store.Whole (s : Store) : Prop where
  nodes : ∀ n ∈ s.allNodes, n.Whole
  edges : ∀ e ∈ s.allEdges, e.Whole

/-- The labels of a store are whole. -/
structure Store.Labelled (s : Store) : Prop where
  nodes : ∀ n ∈ s.allNodes, Text.Whole n.label.toList
  edges : ∀ e ∈ s.allEdges, Text.Whole e.label.toList

theorem Store.whole_iff {s : Store} : s.Whole ↔ s.Labelled ∧ ∀ p ∈ s.properties, p.Whole := by
  have hproperties : (∀ p ∈ s.properties, p.Whole) ↔
      (∀ n ∈ s.allNodes, ∀ p ∈ n.properties, p.Whole) ∧
        ∀ e ∈ s.allEdges, ∀ p ∈ e.properties, p.Whole := by
    rw [Store.properties, List.forall_mem_append, List.forall_mem_flatMap, List.forall_mem_flatMap]
  rw [hproperties]
  constructor
  · exact fun h => ⟨⟨fun n hn => (h.nodes n hn).label, fun e he => (h.edges e he).label⟩,
      fun n hn => (h.nodes n hn).properties, fun e he => (h.edges e he).properties⟩
  · rintro ⟨hlabels, hnodes, hedges⟩
    exact ⟨fun n hn => ⟨hlabels.nodes n hn, hnodes n hn⟩,
      fun e he => ⟨hlabels.edges e he, hedges e he⟩⟩

namespace Value
variable {v : Value}

@[simp] theorem whole_toText : Text.Whole v.toText.toList ↔ v.Whole := by
  rcases toText_cases v with ⟨s, rfl, hs⟩ | hprintable
  · rw [hs, Value.Whole]
  · cases v with
    | text s => rfl
    | _ => exact iff_of_true hprintable.whole trivial

@[simp] theorem whole_shown : Text.Whole v.shown.toList ↔ v.Whole := by
  rcases shown_cases v with ⟨s, rfl, hs⟩ | hprintable
  · rw [hs, Value.Whole]
  · cases v with
    | text s => rfl
    | _ => exact iff_of_true hprintable.whole trivial

theorem whole_of_not_counts (h : v.counts = false) : v.Whole := by
  cases v with
  | text s =>
    obtain rfl : s = "" := by simpa [counts] using h
    exact whole_nil
  | _ => trivial

theorem whole_of_not_isSet (h : v.isSet = false) : v.Whole := by
  cases v with
  | text s =>
    obtain rfl : s = "" := by simpa [isSet] using h
    exact whole_nil
  | _ => trivial

theorem whole_counted : Text.Whole (if v.counts then v.toText else "").toList ↔ v.Whole := by
  split
  next => exact whole_toText
  next h => exact iff_of_true whole_nil (whole_of_not_counts (by simpa using h))

theorem whole_remark {title : String} (htitle : Text.Whole title.toList) :
    Text.Whole (Property.remark title v).toList ↔ v.Whole := by
  have hmarks : Text.Whole "; ".toList ∧ Text.Whole ": ".toList := by decide
  unfold Property.remark
  split
  next =>
    simp only [String.toList_append, whole_append, hmarks, htitle, true_and]
    exact whole_shown
  next h => exact iff_of_true whole_nil (whole_of_not_isSet (by simpa using h))

theorem whole_of_isLimit (h : v.IsLimit) : v.Whole := by
  cases v <;> trivial

end Value

section Names

@[simp] theorem Node.whole_typeName {n : Node} :
    Text.Whole n.typeName.toList ↔ Text.Whole n.label.toList := Label.whole_identifier

@[simp] theorem Node.whole_inputName {n : Node} :
    Text.Whole n.inputName.toList ↔ Text.Whole n.label.toList := by
  have hsuffix : Text.Whole "Input".toList := by decide
  rw [inputName, String.toList_append, whole_append, n.whole_typeName, and_iff_left hsuffix]

namespace Link
variable {l : Link}

/-- The labels of which the names of a link are made are whole. -/
def Labelled (l : Link) : Prop :=
  (Text.Whole l.start.label.toList ∧ Text.Whole l.edge.label.toList) ∧
    Text.Whole l.finish.label.toList

@[simp] theorem whole_baseName : Text.Whole l.baseName.toList ↔ l.Labelled := by
  simp [baseName, Labelled, and_assoc]

@[simp] theorem whole_edgeName : Text.Whole l.edgeName.toList ↔ l.Labelled := by
  have hsuffix : Text.Whole "Edge".toList := by decide
  rw [edgeName, String.toList_append, whole_append, whole_baseName, and_iff_left hsuffix]

@[simp] theorem whole_connectionName : Text.Whole l.connectionName.toList ↔ l.Labelled := by
  have hsuffix : Text.Whole "Connection".toList := by decide
  rw [connectionName, String.toList_append, whole_append, whole_baseName, and_iff_left hsuffix]

end Link
end Names

section Lines

/-- Lines that are whole. -/
def WholeLines (ls : List String) : Prop := ∀ l ∈ ls, Text.Whole l.toList

instance : DecidablePred WholeLines :=
  fun ls => List.decidableBAll (fun l : String => Text.Whole l.toList) ls

@[simp] theorem wholeLines_append {ls ms : List String} :
    WholeLines (ls ++ ms) ↔ WholeLines ls ∧ WholeLines ms := List.forall_mem_append

@[simp] theorem wholeLines_cons {l : String} {ls : List String} :
    WholeLines (l :: ls) ↔ Text.Whole l.toList ∧ WholeLines ls := List.forall_mem_cons

@[simp] theorem wholeLines_nil : WholeLines [] := fun _ h => absurd h List.not_mem_nil

theorem wholeLines_spaced {gs : List (List String)} :
    WholeLines (spaced gs) ↔ ∀ g ∈ gs, WholeLines g := by
  constructor
  · exact fun h g hg l hl => h l (mem_spaced hg hl)
  · intro h l hl
    rcases mem_of_mem_spaced hl with rfl | ⟨g, hg, hl⟩
    · exact whole_nil
    · exact h g hg l hl

theorem whole_endLines {ls : List String} :
    Text.Whole (endLines (ls.map String.toList)) ↔ WholeLines ls := by
  have hfeed : Text.isHalf '\n' = false := by decide
  induction ls with
  | nil => exact iff_of_true whole_nil wholeLines_nil
  | cons l ls ih =>
    rw [List.map_cons, endLines_cons, Text.whole_append, Text.whole_cons, wholeLines_cons,
      and_iff_right hfeed]
    exact and_congr_right fun _ => ih

/-- The text of an outline is whole if and only if the lines of its declarations are. -/
theorem Outline.whole_text {o : Outline} :
    Text.Whole o.text.toList ↔ ∀ d ∈ o.declarations, WholeLines d.lines := by
  have hscalars : WholeLines scalarLines := by decide
  have hempty : Text.Whole "".toList := whole_nil
  rw [o.toList_text, whole_collapse, whole_endLines, rawLines, wholeLines_append, wholeLines_cons,
    wholeLines_cons, fixedLines, wholeLines_spaced, wholeLines_spaced, List.forall_mem_cons,
    and_iff_right hscalars, and_iff_right hempty, and_iff_right hempty]
  simp only [declarations, List.forall_mem_append, List.forall_mem_map, List.forall_mem_singleton,
    and_assoc]

theorem whole_marks : Text.Whole marks := by decide

theorem FieldDecl.whole_lines {f : FieldDecl} :
    WholeLines f.lines ↔ (∀ r ∈ f.remark, Text.Whole r.toList) ∧ Text.Whole f.text.toList := by
  have hindent : Text.Whole indent.toList := by decide
  simp only [lines, WholeLines, List.forall_mem_map, List.forall_mem_append,
    List.forall_mem_singleton, Option.mem_toList, String.toList_append, whole_append, hindent,
    true_and, Option.mem_def]

theorem Heading.whole_text {h : Heading} :
    Text.Whole h.text.toList ↔ WholeLines (h.name?.toList ++ h.base?.toList) := by
  have hwords : ∀ w ∈ ["type ", "input ", "interface ", " implements ", " \x7b", "schema \x7b"],
      Text.Whole w.toList := by decide
  simp only [List.forall_mem_cons] at hwords
  rcases h with ⟨name, _ | base⟩ | name | name | _ <;>
    simp only [text, name?, base?, Option.toList_some, Option.toList_none, List.cons_append,
      List.nil_append, List.append_nil, wholeLines_cons, wholeLines_nil, String.toList_append,
      whole_append, hwords, and_true, true_and]

theorem Declaration.whole_lines {d : Declaration} :
    WholeLines d.lines ↔ WholeLines d.remarks ∧ Text.Whole d.heading.text.toList ∧
      ∀ f ∈ d.fields, WholeLines f.lines := by
  have hbrace : WholeLines ["\x7d"] := by decide
  have hbody : WholeLines d.body ↔ ∀ f ∈ d.fields, WholeLines f.lines := by
    rw [body, wholeLines_spaced, List.forall_mem_map, fields]
    constructor
    · intro h f hf l hl
      obtain ⟨g, hg, hfg⟩ := List.mem_flatten.mp hf
      exact h g hg l (List.mem_flatMap.mpr ⟨f, hfg, hl⟩)
    · intro h g hg l hl
      obtain ⟨f, hf, hl⟩ := List.mem_flatMap.mp hl
      exact h f (List.mem_flatten.mpr ⟨g, hg, hf⟩) l hl
  rw [lines, wholeLines_append, wholeLines_append, wholeLines_cons, hbody, and_iff_left hbrace]

theorem Declaration.whole_lines_of_bare {d : Declaration} (hremarks : d.remarks = []) :
    WholeLines d.lines ↔ Text.Whole d.heading.text.toList ∧ ∀ f ∈ d.fields, WholeLines f.lines := by
  rw [whole_lines, hremarks, and_iff_right wholeLines_nil]

end Lines

section Declarations
variable {p : Property} {n : Node} {l : Link} {nodes : List Node} {links : List Link}
  {outgoing : Node → List Link}

theorem Property.whole_commentFor (hvalid : p.Valid) (s : Scalar) :
    Text.Whole (p.commentFor s).toList ↔ p.Whole := by
  have hwords : ∀ w ∈ ["#", "default"], Text.Whole w.toList := by decide
  have hunit : ∀ w ∈ ["min", "max"],
      Text.Whole (w ++ if s.isText then " length" else "").toList := by
    cases s.isText <;> decide
  have hmin : Text.Whole (remark ("min" ++ if s.isText then " length" else "") p.limitMin).toList :=
    (Value.whole_remark (hunit "min" (by decide))).mpr (Value.whole_of_isLimit hvalid.limitMin)
  have hmax : Text.Whole (remark ("max" ++ if s.isText then " length" else "") p.limitMax).toList :=
    (Value.whole_remark (hunit "max" (by decide))).mpr (Value.whole_of_isLimit hvalid.limitMax)
  rw [commentFor, String.toList_append, whole_append, and_iff_left hmax, String.toList_append,
    whole_append, and_iff_left hmin, String.toList_append, whole_append, String.toList_append,
    whole_append, and_iff_right (hwords "#" (by decide)), Value.whole_counted,
    Value.whole_remark (hwords "default" (by decide))]
  exact ⟨fun h => ⟨h.1, h.2⟩, fun h => ⟨h.description, h.defaultValue⟩⟩

theorem Property.whole_lines (hvalid : p.Valid) : WholeLines p.field.lines ↔ p.Whole := by
  have hscalar (s : Scalar) : Text.Whole s.name.toList := by
    cases s <;> decide
  have htype : Text.Whole p.field.type.name.toList := by
    cases hr : p.isRequired.counts <;> simp [field, TypeRef.name, hr, hscalar]
  have htext : Text.Whole p.field.text.toList :=
    FieldDecl.forall_mem_text whole_marks (printable_of_isIdentifier hvalid.key).whole
      (fun _ ha => absurd ha List.not_mem_nil) htype
  have hremark : p.field.remark = some (p.commentFor (p.scalar?.getD .string)) := rfl
  rw [FieldDecl.whole_lines, and_iff_left htext, hremark,
    ← whole_commentFor hvalid (p.scalar?.getD .string)]
  simp only [Option.mem_some_iff, forall_eq']

/-- A field without a remark, made of whole parts. -/
theorem FieldDecl.whole_of_parts {f : FieldDecl} (hremark : f.remark = none)
    (hname : Text.Whole f.name.toList) (harguments : ∀ a ∈ f.arguments, Text.Whole a.text.toList)
    (htype : Text.Whole f.type.name.toList) : WholeLines f.lines :=
  whole_lines.mpr ⟨fun r hr => by simp [hremark] at hr,
    forall_mem_text whole_marks hname harguments htype⟩

theorem FieldDecl.whole_bare {name : String} {type : TypeRef} (hname : Text.Whole name.toList)
    (htype : Text.Whole type.name.toList) : WholeLines (lines { name, type }) :=
  whole_of_parts rfl hname (fun _ ha => absurd ha List.not_mem_nil) htype

theorem Argument.whole_required {name : String} (hname : Text.Whole name.toList) :
    Text.Whole (Argument.text ⟨name, " ", .required (.named "ID")⟩).toList := by
  have hwords : ∀ w ∈ [" ", "ID"], Text.Whole w.toList := by decide
  exact Argument.forall_mem_text whole_marks hname (hwords " " (by decide)) (hwords "ID" (by decide))

namespace Link

theorem whole_mutationFields (h : l.Labelled) : ∀ f ∈ l.mutationFields, WholeLines f.lines := by
  have hwords : ∀ w ∈ ["add", "remove", "Id"], Text.Whole w.toList := by decide
  have hverbs : ∀ verb ∈ ["add", "remove"], Text.Whole (verb ++ l.baseName).toList := by
    intro verb hverb
    rw [String.toList_append, whole_append]
    exact ⟨hwords verb (List.mem_of_mem_take (i := 2) hverb), whole_baseName.mpr h⟩
  intro f hf
  obtain ⟨verb, hverb, rfl⟩ := List.mem_map.mp hf
  refine FieldDecl.whole_of_parts rfl (hverbs verb hverb) ?_ (whole_connectionName.mpr h)
  refine List.forall_mem_cons.mpr ⟨Argument.whole_required ?_,
    List.forall_mem_singleton.mpr (Argument.whole_required (Node.whole_typeName.mpr h.2))⟩
  rw [String.toList_append, whole_append]
  exact ⟨Node.whole_typeName.mpr h.1.1, hwords "Id" (by decide)⟩

theorem whole_edgeDeclaration (hvalid : l.edge.Valid) :
    WholeLines l.edgeDeclaration.lines ↔ l.Labelled ∧ ∀ p ∈ l.edge.properties, p.Whole := by
  have hnode : Text.Whole "node".toList := by decide
  have hbase : WholeLines ["Edge"] := by decide
  have hheading : Text.Whole l.edgeDeclaration.heading.text.toList ↔ l.Labelled := by
    rw [Heading.whole_text, ← whole_edgeName]
    exact List.forall_mem_cons.trans (and_iff_left hbase)
  have hproperties : (∀ f ∈ l.edge.properties.map Property.field, WholeLines f.lines) ↔
      ∀ p ∈ l.edge.properties, p.Whole := by
    rw [List.forall_mem_map]
    exact forall₂_congr fun p hp => p.whole_lines (hvalid.properties p hp)
  rw [Declaration.whole_lines_of_bare rfl, hheading]
  refine and_congr_right fun hlabelled => ?_
  have hfields : l.edgeDeclaration.fields =
      { name := "node", type := .named l.finish.typeName } :: l.edge.properties.map Property.field :=
    List.append_nil _
  rw [hfields, List.forall_mem_cons, hproperties, and_iff_right]
  exact FieldDecl.whole_bare hnode (Node.whole_typeName.mpr hlabelled.2)

theorem whole_connectionDeclaration (h : l.Labelled) : WholeLines l.connectionDeclaration.lines := by
  have hwords : ∀ w ∈ ["nodes", "edges", "pageInfo", "PageInfo", "totalCount", "Int"],
      Text.Whole w.toList := by decide
  have hbase : WholeLines ["Connection"] := by decide
  refine (Declaration.whole_lines_of_bare rfl).mpr ⟨?_, ?_⟩
  · exact Heading.whole_text.mpr (List.forall_mem_cons.mpr ⟨whole_connectionName.mpr h, hbase⟩)
  · simp only [connectionDeclaration, Declaration.fields, List.flatten_cons, List.flatten_nil,
      List.append_nil, List.forall_mem_cons]
    exact ⟨FieldDecl.whole_bare (hwords "nodes" (by decide)) (Node.whole_typeName.mpr h.1.1),
      FieldDecl.whole_bare (hwords "edges" (by decide)) (whole_edgeName.mpr h),
      FieldDecl.whole_bare (hwords "pageInfo" (by decide)) (hwords "PageInfo" (by decide)),
      FieldDecl.whole_bare (hwords "totalCount" (by decide)) (hwords "Int" (by decide)),
      fun _ hf => absurd hf List.not_mem_nil⟩

end Link

namespace Node

/-- The fields of the links that start at a node do not matter if these have whole labels. -/
theorem whole_objectDeclaration (hvalid : n.Valid) (hlinks : ∀ l ∈ links, l.Labelled) :
    WholeLines (n.objectDeclaration links).lines ↔ n.Whole := by
  have hbase : WholeLines ["Node"] := by decide
  have hheading : Text.Whole (n.objectDeclaration links).heading.text.toList ↔
      Text.Whole n.label.toList := by
    rw [Heading.whole_text, ← whole_typeName]
    exact List.forall_mem_cons.trans (and_iff_left hbase)
  have hproperties : (∀ f ∈ n.properties.map Property.field, WholeLines f.lines) ↔
      ∀ p ∈ n.properties, p.Whole := by
    rw [List.forall_mem_map]
    exact forall₂_congr fun p hp => p.whole_lines (hvalid.properties p hp)
  have hfields : (n.objectDeclaration links).fields =
      n.properties.map Property.field ++ links.map Link.field := List.append_nil _
  have hown : ∀ f ∈ links.map Link.field, WholeLines f.lines :=
    List.forall_mem_map.mpr fun l hl =>
      FieldDecl.whole_bare (hlinks l hl).1.2 (Link.whole_connectionName.mpr (hlinks l hl))
  rw [Declaration.whole_lines_of_bare rfl, hheading, hfields, List.forall_mem_append, hproperties,
    and_iff_left hown]
  exact ⟨fun h => ⟨h.1, h.2⟩, fun h => ⟨h.label, h.properties⟩⟩

theorem whole_inputDeclaration (hvalid : n.Valid) (h : n.Whole) :
    WholeLines n.inputDeclaration.lines := by
  have hfor : Text.Whole "#input for ".toList := by decide
  refine Declaration.whole_lines.mpr ⟨List.forall_mem_singleton.mpr ?_, ?_, ?_⟩
  · rw [String.toList_append, whole_append]
    exact ⟨hfor, whole_typeName.mpr h.label⟩
  · exact Heading.whole_text.mpr (List.forall_mem_singleton.mpr (whole_inputName.mpr h.label))
  · simp only [inputDeclaration, Declaration.fields, List.flatten_cons, List.flatten_nil,
      List.append_nil, List.forall_mem_map]
    intro p hp
    have hp := List.mem_of_mem_filter hp
    exact (p.whole_lines (hvalid.properties p hp)).mpr (h.properties p hp)

theorem whole_queryDecl (h : n.Whole) : WholeLines n.queryDecl.lines := by
  have hplural : Text.Whole "s".toList := by decide
  refine FieldDecl.whole_of_parts rfl ?_ ?_ (whole_typeName.mpr h.label)
  · rw [queryDecl, queryName, String.toList_append, whole_append]
    exact ⟨h.label, hplural⟩
  · intro a ha
    obtain rfl := List.mem_singleton.mp ha
    decide

theorem whole_mutationFields (h : n.Whole) (hlinks : ∀ l ∈ links, l.Labelled) :
    ∀ f ∈ n.mutationFields links, WholeLines f.lines := by
  have hname : Text.Whole n.typeName.toList := whole_typeName.mpr h.label
  have hverbs : ∀ verb ∈ ["create", "update", "delete"], Text.Whole (verb ++ n.typeName).toList := by
    have hwords : ∀ verb ∈ ["create", "update", "delete"], Text.Whole verb.toList := by decide
    intro verb hverb
    rw [String.toList_append, whole_append]
    exact ⟨hwords verb hverb, hname⟩
  have hgap : Text.Whole " ".toList := by decide
  have hself : Text.Whole (Argument.text ⟨n.typeName, " ", .named n.inputName⟩).toList :=
    Argument.forall_mem_text whole_marks hname hgap (whole_inputName.mpr h.label)
  have hid : Text.Whole (Argument.text ⟨"id", " ", .required (.named "ID")⟩).toList :=
    Argument.whole_required (by decide)
  intro f hf
  rcases List.mem_append.mp hf with hf | hf
  · simp only [List.mem_cons, List.not_mem_nil, or_false] at hf
    rcases hf with rfl | rfl | rfl
    · exact FieldDecl.whole_of_parts rfl (hverbs _ (by decide))
        (List.forall_mem_singleton.mpr hself) hname
    · exact FieldDecl.whole_of_parts rfl (hverbs _ (by decide))
        (List.forall_mem_cons.mpr ⟨hself, List.forall_mem_singleton.mpr hid⟩) hname
    · exact FieldDecl.whole_of_parts rfl (hverbs _ (by decide))
        (List.forall_mem_singleton.mpr hid) hname
  · obtain ⟨l, hl, hf⟩ := List.mem_flatMap.mp hf
    exact l.whole_mutationFields (hlinks l hl) f hf

end Node

theorem whole_queryDeclaration (h : ∀ n ∈ nodes, n.Whole) :
    WholeLines (queryDeclaration nodes).lines := by
  have hremark : WholeLines ["# the schema allows the following query:"] := by decide
  have hheading : Text.Whole (Heading.type "Query").text.toList := by decide
  have hnodes : WholeLines nodesQuery.lines := by decide
  refine Declaration.whole_lines.mpr ⟨hremark, hheading, ?_⟩
  simp only [queryDeclaration, Declaration.fields, List.flatten_cons, List.flatten_nil,
    List.append_nil, List.forall_mem_cons, List.forall_mem_map]
  exact ⟨hnodes, fun n hn => n.whole_queryDecl (h n hn)⟩

theorem whole_mutationDeclaration (h : ∀ n ∈ nodes, n.Whole)
    (hlinks : ∀ n ∈ nodes, ∀ l ∈ outgoing n, l.Labelled) :
    WholeLines (mutationDeclaration nodes outgoing).lines := by
  have hheading : Text.Whole (Heading.type "Mutation").text.toList := by decide
  refine (Declaration.whole_lines_of_bare rfl).mpr ⟨hheading, fun f hf => ?_⟩
  obtain ⟨g, hg, hf⟩ := List.mem_flatten.mp hf
  obtain ⟨n, hn, rfl⟩ := List.mem_map.mp hg
  exact n.whole_mutationFields (h n hn) (hlinks n hn) f hf

end Declarations

namespace Store
variable {s : Store}

theorem Labelled.link (h : s.Labelled) {l : Link} (hl : l ∈ s.links) : l.Labelled := by
  obtain ⟨hstart, hfinish⟩ := ends_mem_of_mem_links hl
  exact ⟨⟨h.nodes _ hstart, h.edges _ (edge_mem_of_mem_links hl)⟩, h.nodes _ hfinish⟩

/-- The document of valid entities can be written in UTF-8 if and only if their labels, and the texts
that their properties show, are whole. -/
theorem whole_text_iff (hvalid : s.Valid) (hedges : s.links.map Link.edge = s.allEdges) :
    Text.Whole s.outline.text.toList ↔ s.Whole := by
  have hlink (l : Link) (hl : l ∈ s.links) : l.edge.Valid :=
    hvalid.edges _ (edge_mem_of_mem_links hl)
  have hfixed : ∀ d ∈ fixedDeclarations, WholeLines d.lines := by decide
  rw [Outline.whole_text]
  constructor
  · intro h
    have hdeclares {d : Declaration} (hd : Outline.Declares s.allNodes s.links
        (fun n => s.knownFrom s.links n.id) d) : WholeLines d.lines :=
      h d (Outline.mem_declarations_iff.mpr hd)
    have hlabelled (l : Link) (hl : l ∈ s.links) :=
      (l.whole_edgeDeclaration (hlink l hl)).mp (hdeclares (.edge hl))
    constructor
    · intro n hn
      exact (n.whole_objectDeclaration (hvalid.nodes n hn) fun l hl =>
        (hlabelled l (mem_of_mem_knownFrom hl)).1).mp (hdeclares (.object hn))
    · intro e he
      rw [← hedges] at he
      obtain ⟨l, hl, rfl⟩ := List.mem_map.mp he
      exact ⟨(hlabelled l hl).1.1.2, (hlabelled l hl).2⟩
  · intro h d hd
    have hlabelled := (whole_iff.mp h).1
    cases Outline.mem_declarations_iff.mp hd with
    | fixed hd => exact hfixed d hd
    | @object n hn =>
      exact (n.whole_objectDeclaration (hvalid.nodes n hn) fun l hl =>
        hlabelled.link (mem_of_mem_knownFrom hl)).mpr (h.nodes n hn)
    | @input n hn => exact n.whole_inputDeclaration (hvalid.nodes n hn) (h.nodes n hn)
    | @edge l hl =>
      exact (l.whole_edgeDeclaration (hlink l hl)).mpr
        ⟨hlabelled.link hl, (h.edges _ (edge_mem_of_mem_links hl)).properties⟩
    | @connection l hl => exact l.whole_connectionDeclaration (hlabelled.link hl)
    | query => exact whole_queryDeclaration h.nodes
    | mutation =>
      exact whole_mutationDeclaration h.nodes fun n _ l hl => hlabelled.link (mem_of_mem_knownFrom hl)
    | root => decide

end Store
end GraphSchema
