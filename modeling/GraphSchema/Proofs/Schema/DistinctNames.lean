import GraphSchema.Proofs.Graph.Integrity
import GraphSchema.Proofs.Schema.Collisions
import GraphSchema.Proofs.Schema.References
import Mathlib.Data.List.Perm.Basic

/-! Under an empty report no name is declared twice: neither a type, nor a query, nor a mutation,
nor a field of a node. -/
namespace GraphSchema

section Verbs

/-- What the names of mutations begin with. -/
def verbs : List String := ["create", "update", "delete", "add", "remove"]

/-- Verbs differ in their first letters, so that a mutation has one verb and one subject. -/
theorem verb_append_inj {v w x y : String} (hv : v ∈ verbs) (hw : w ∈ verbs)
    (h : v ++ x = w ++ y) : v = w ∧ x = y := by
  have hhead : v.toList.head? = w.toList.head? := by
    have hne : ∀ u ∈ verbs, u.toList ≠ [] := by decide
    have hlist := congrArg (fun s => s.toList.head?) h
    simpa [String.toList_append, List.head?_append_of_ne_nil _ (hne v hv),
      List.head?_append_of_ne_nil _ (hne w hw)] using hlist
  have hfirst : ∀ u ∈ verbs, ∀ z ∈ verbs, u.toList.head? = z.toList.head? → u = z := by decide
  obtain rfl := hfirst v hv w hw hhead
  exact ⟨rfl, String.append_right_inj _ |>.mp h⟩

end Verbs

section Mutations
variable {nodes : List Node} {links : List Link} {outgoing : Node → List Link}

/-- The verbs and subjects of the mutations of a node. -/
def subjects (n : Node) (outgoing : List Link) : List (String × String) :=
  [("create", n.typeName), ("update", n.typeName), ("delete", n.typeName)] ++
    outgoing.flatMap fun l => [("add", l.baseName), ("remove", l.baseName)]

theorem mem_subjects {n : Node} {ls : List Link} {p : String × String} :
    p ∈ subjects n ls ↔ (p.1 ∈ ["create", "update", "delete"] ∧ p.2 = n.typeName) ∨
      (p.1 ∈ ["add", "remove"] ∧ ∃ l ∈ ls, p.2 = l.baseName) := by
  obtain ⟨verb, subject⟩ := p
  simp only [subjects, List.mem_append, List.mem_flatMap, List.mem_cons, List.not_mem_nil,
    or_false, Prod.mk.injEq]
  grind

theorem fieldNames_mutationDeclaration (nodes : List Node) (outgoing : Node → List Link) :
    (mutationDeclaration nodes outgoing).fieldNames =
      (nodes.flatMap fun n => subjects n (outgoing n)).map fun p => p.1 ++ p.2 := by
  have hnode (n : Node) (ls : List Link) :
      (n.mutationFields ls).map FieldDecl.name = (subjects n ls).map fun p => p.1 ++ p.2 := by
    rw [Node.mutationFields, subjects, List.map_append, List.map_append, List.map_flatMap,
      List.map_flatMap]
    rfl
  rw [Declaration.fieldNames, Declaration.fields, mutationDeclaration, ← List.flatMap_def,
    List.map_flatMap, List.map_flatMap]
  exact List.flatMap_congr fun n _ => hnode n (outgoing n)

theorem nodup_subjects {n : Node} {ls : List Link} (h : (ls.map Link.baseName).Nodup) :
    (subjects n ls).Nodup := by
  have hlinks : (ls.flatMap fun l => [("add", l.baseName), ("remove", l.baseName)]).Nodup := by
    rw [List.nodup_flatMap]
    refine ⟨fun l _ => by simp, (List.pairwise_map.mp h).imp fun hne => ?_⟩
    intro p hp hq
    simp only [List.mem_cons, List.not_mem_nil, or_false] at hp hq
    rcases hp with rfl | rfl <;> simp [hne] at hq
  refine List.Nodup.append (by simp) hlinks fun p hp hq => ?_
  have hverb : p.1 ∈ ["create", "update", "delete"] := by
    simp only [List.mem_cons, List.not_mem_nil, or_false] at hp
    rcases hp with rfl | rfl | rfl <;> simp
  obtain ⟨l, -, hl⟩ := List.mem_flatMap.mp hq
  simp only [List.mem_cons, List.not_mem_nil, or_false] at hl
  rcases hl with rfl | rfl <;> simp at hverb

/-- Types, ids and bases that are distinct give distinct mutations: each link is among the outgoing
ones of one node only. -/
theorem nodup_mutations (htypes : (nodes.map Node.typeName).Nodup)
    (hids : (nodes.map Node.id).Nodup) (hbases : (links.map Link.baseName).Nodup)
    (houtgoing : ∀ n ∈ nodes, outgoing n = links.filter fun l => l.edge.startId = n.id) :
    (mutationDeclaration nodes outgoing).fieldNames.Nodup := by
  have hverbs : ∀ p ∈ nodes.flatMap fun n => subjects n (outgoing n), p.1 ∈ verbs := by
    intro p hp
    obtain ⟨n, -, hp⟩ := List.mem_flatMap.mp hp
    rcases mem_subjects.mp hp with ⟨hverb, -⟩ | ⟨hverb, -⟩
    · exact List.mem_append_left ["add", "remove"] hverb
    · exact List.mem_append_right ["create", "update", "delete"] hverb
  have hpairs : (nodes.flatMap fun n => subjects n (outgoing n)).Nodup := by
    rw [List.nodup_flatMap]
    constructor
    · intro n hn
      apply nodup_subjects
      rw [houtgoing n hn]
      exact hbases.sublist (List.filter_sublist.map _)
    · refine ((List.pairwise_map.mp htypes).and (List.pairwise_map.mp hids)).imp_of_mem ?_
      rintro n m hn hm ⟨htype, hid⟩ p hp hq
      have hapart : ∀ v ∈ ["create", "update", "delete"], v ∉ ["add", "remove"] := by decide
      rcases mem_subjects.mp hp with ⟨hverb, hown⟩ | ⟨hverb, l, hl, hown⟩
      · rcases mem_subjects.mp hq with ⟨-, hother⟩ | ⟨hlink, -⟩
        · exact htype (hown.symm.trans hother)
        · exact hapart _ hverb hlink
      · rcases mem_subjects.mp hq with ⟨hnode, -⟩ | ⟨-, k, hk, hother⟩
        · exact hapart _ hnode hverb
        · rw [houtgoing n hn, List.mem_filter, decide_eq_true_eq] at hl
          rw [houtgoing m hm, List.mem_filter, decide_eq_true_eq] at hk
          have hsame : l = k :=
            List.inj_on_of_nodup_map hbases hl.1 hk.1 (hown.symm.trans hother)
          exact hid (by rw [← hl.2, hsame, hk.2])
  rw [fieldNames_mutationDeclaration]
  refine hpairs.map_on fun p hp q hq h => ?_
  exact Prod.ext_iff.mpr (verb_append_inj (hverbs p hp) (hverbs q hq) h)

end Mutations

theorem nodup_map_of_flatMap {α : Type} {as : List α} {f g : α → String}
    (h : (as.flatMap fun a => [f a, g a]).Nodup) : (as.map f).Nodup :=
  ((List.map_append_flatMap_perm as f fun a => [g a]).nodup_iff.mpr h).of_append_left

section Types
variable {nodes : List Node} {links : List Link} {outgoing : Outgoing}

theorem names_typeBearings (nodes : List Node) (links : List Link) :
    (typeBearings nodes links).map (·.1) =
      nodes.flatMap (fun n => [n.typeName, n.inputName]) ++
        links.flatMap fun l => [l.edgeName, l.connectionName] := by
  rw [typeBearings, List.map_append, List.map_flatMap, List.map_flatMap]
  rfl

/-- What an outline declares: the fixed names, and those whose bearers are reported. -/
theorem names_perm (nodes : List Node) (links : List Link) (f : Node → List Link) :
    (scalarNames ++ (Outline.of nodes links f).names).Perm
      (reservedNames ++ (typeBearings nodes links).map (·.1)) := by
  have hfixed : (scalarNames ++ fixedDeclarations.filterMap (·.heading.name?) ++
      ["Query", "Mutation"]).Perm reservedNames := by decide
  have hlinks : (links.map Link.edgeName ++ links.map Link.connectionName).Perm
      (links.flatMap fun l => [l.edgeName, l.connectionName]) := by
    rw [List.map_eq_flatMap (f := Link.connectionName)]
    exact List.map_append_flatMap_perm ..
  rw [Outline.names_of, names_typeBearings]
  refine List.Perm.trans ?_ (hfixed.append (hlinks.append_left _))
  simp only [List.append_assoc]
  refine List.Perm.append_left _ (List.Perm.append_left _ ?_)
  simp only [← List.append_assoc]
  exact List.perm_append_comm

theorem nodup_names (h : namingCollisions nodes links outgoing = []) (f : Node → List Link) :
    (scalarNames ++ (Outline.of nodes links f).names).Nodup := by
  rw [(names_perm nodes links f).nodup_iff]
  refine List.Nodup.append (by decide) (nodup_typeBearings h) fun name hfixed hgenerated => ?_
  exact not_reserved h hgenerated hfixed

end Types

/-- No two names of one kind are the same: not among the scalars and types, not among the queries,
not among the mutations, and not among the fields of either declaration of a node. -/
structure Outline.Distinct (o : Outline) : Prop where
  types : (scalarNames ++ o.names).Nodup
  queries : o.query.fieldNames.Nodup
  mutations : o.mutation.fieldNames.Nodup
  fields : ∀ d ∈ o.nodes, d.1.fieldNames.Nodup ∧ d.2.fieldNames.Nodup

section Fields
variable {nodes : List Node} {links : List Link} {outgoing : Outgoing}
  (h : namingCollisions nodes links outgoing = [])
include h

theorem nodup_queries : (queryDeclaration nodes).fieldNames.Nodup := by
  have hnames : (queryDeclaration nodes).fieldNames =
      "nodes" :: (queryBearings nodes).map (·.1) := by
    simp [queryDeclaration, Declaration.fieldNames, Declaration.fields, queryBearings, nodesQuery,
      Node.queryDecl, Function.comp_def]
  rw [hnames]
  exact nodup_queryBearings h

theorem nodup_fields {n : Node} (hn : n ∈ nodes) :
    (n.objectDeclaration (outgoing.of n)).fieldNames.Nodup ∧
      n.inputDeclaration.fieldNames.Nodup := by
  have hobject : (n.objectDeclaration (outgoing.of n)).fieldNames =
      (fieldBearings n (outgoing.of n)).map (·.1) := by
    simp [Node.objectDeclaration, Declaration.fieldNames, Declaration.fields, fieldBearings,
      Property.field, Link.field, Function.comp_def]
  have hinput : n.inputDeclaration.fieldNames = n.inputProperties.map Property.key := by
    simp [Node.inputDeclaration, Declaration.fieldNames, Declaration.fields, Property.field,
      Function.comp_def]
  have hfields := nodup_fieldBearings h hn
  refine ⟨hobject ▸ hfields, ?_⟩
  have hkeys : (n.properties.map Property.key).Nodup := by
    refine hfields.sublist ?_
    rw [fieldBearings, List.map_append, List.map_map]
    exact List.sublist_append_left ..
  rw [hinput]
  exact hkeys.sublist (List.filter_sublist.map _)

/-- Distinct ids and an empty report make an outline without repeated names. -/
theorem distinct_of_clean (hids : (nodes.map Node.id).Nodup)
    (houtgoing : ∀ n ∈ nodes, outgoing.of n = links.filter fun l => l.edge.startId = n.id) :
    (Outline.of nodes links outgoing.of).Distinct := by
  have hnames := nodup_typeBearings h
  rw [names_typeBearings] at hnames
  have htypes : (nodes.map Node.typeName).Nodup := nodup_map_of_flatMap hnames.of_append_left
  have hbases : (links.map Link.baseName).Nodup := by
    apply List.Nodup.of_map (· ++ "Edge")
    rw [List.map_map]
    exact nodup_map_of_flatMap hnames.of_append_right
  exact {
    types := nodup_names h _
    queries := nodup_queries h
    mutations := nodup_mutations htypes hids hbases houtgoing
    fields := fun d hd => by
      obtain ⟨n, hn, rfl⟩ := List.mem_map.mp hd
      exact nodup_fields h hn }

end Fields

namespace Store
variable {s : Store} {links : List Link}

theorem exists_outgoing (hedges : (s.allEdges.map Edge.id).Nodup)
    (hlinks : s.provider.resolveAll s.allEdges = .ok links) :
    ∃ outgoing, s.provider.outgoing links = .ok outgoing ∧
      ∀ n ∈ s.allNodes, outgoing.of n = links.filter fun l => l.edge.startId = n.id := by
  refine ⟨_, outgoing_eq hlinks, fun n hn => ?_⟩
  rw [outgoing_of hlinks (outgoing_eq hlinks) hn]
  exact knownFrom_eq_filter hlinks hedges n.id

/-- A document prints the outline, and where collisions are forbidden the report was empty. -/
theorem clean_of_generate {outgoing : Outgoing} {d : Diagnosis} {g : Generated}
    (hlinks : s.provider.resolveAll s.allEdges = .ok links)
    (houtgoing : s.provider.outgoing links = .ok outgoing)
    (hg : (d.generate s.provider).outcome = .ok g) :
    g.document = (Outline.of s.allNodes links outgoing.of).text ∧
      (d.collisions = .error → namingCollisions s.allNodes links outgoing = []) := by
  obtain ⟨plan, document, hplan, hrender, rfl⟩ := Diagnosis.generate_eq_ok.mp hg
  obtain ⟨hsame, hown, hwarnings⟩ := Diagnosis.plan_eq_ok.mp hplan
  obtain rfl : links = plan.links := Except.ok.inj (hlinks.symm.trans hsame)
  obtain rfl : outgoing = plan.outgoing := Except.ok.inj (houtgoing.symm.trans hown)
  exact ⟨(render_eq_ok.mp hrender).2, Diagnosis.clean_of_warnings hwarnings⟩

/-- For a store whose edges all resolve: if the report on names is empty, no name occurs twice in
the outline that every generated document prints; and where collisions are forbidden, a document is
generated under an empty report only. Ids are distinct in every store that loads and edits reach. -/
theorem distinct_names (hids : s.Distinct)
    (hlinks : s.provider.resolveAll s.allEdges = .ok links) :
    ∃ outgoing, s.provider.outgoing links = .ok outgoing ∧
      (namingCollisions s.allNodes links outgoing = [] →
        (Outline.of s.allNodes links outgoing.of).Distinct) ∧
      ∀ (d : Diagnosis) (g : Generated), (d.generate s.provider).outcome = .ok g →
        g.document = (Outline.of s.allNodes links outgoing.of).text ∧
          (d.collisions = .error → namingCollisions s.allNodes links outgoing = []) := by
  obtain ⟨outgoing, houtgoing, hof⟩ := exists_outgoing hids.edges hlinks
  exact ⟨outgoing, houtgoing, fun hclean => distinct_of_clean hclean hids.nodes hof,
    fun _ _ hg => clean_of_generate hlinks houtgoing hg⟩

/-- Where collisions are forbidden, every document of a store that loads and edits reach has distinct
names. -/
theorem Reached.distinct_outline {d : Diagnosis} {g : Generated} (hs : s.Reached)
    (hforbidden : d.collisions = .error) (hg : (d.generate s.provider).outcome = .ok g) :
    s.outline.Distinct ∧ g.document = s.outline.text := by
  obtain ⟨hlinks, -, htext⟩ := generate_outline hg
  obtain ⟨outgoing, houtgoing, hof⟩ := exists_outgoing hs.distinct.edges hlinks
  have hclean := (clean_of_generate hlinks houtgoing hg).2 hforbidden
  have houtline : Outline.of s.allNodes s.links outgoing.of = s.outline :=
    Outline.of_congr fun n hn => outgoing_of hlinks houtgoing hn
  exact ⟨houtline ▸ distinct_of_clean hclean hs.distinct.nodes hof, htext⟩

/-- The town has an empty report. -/
theorem distinct_names_town :
    town.Distinct ∧ town.provider.resolveAll town.allEdges = .ok town.links ∧
      ∃ outgoing, town.provider.outgoing town.links = .ok outgoing ∧
        namingCollisions town.allNodes town.links outgoing = [] ∧
          (Outline.of town.allNodes town.links outgoing.of).Distinct := by
  have hids : town.Distinct := origin_town.sound.toKeyed.distinct
  have hlinks := origin_town.sound.linked.resolveAll
  obtain ⟨outgoing, houtgoing, hdistinct, -⟩ := distinct_names hids hlinks
  have hclean : namingCollisions town.allNodes town.links outgoing = [] := by
    obtain rfl := Except.ok.inj ((outgoing_eq hlinks).symm.trans houtgoing)
    decide +kernel
  exact ⟨hids, hlinks, outgoing, houtgoing, hclean, hdistinct hclean⟩

end Store
end GraphSchema
