import GraphSchema.Proofs.Graph.Integrity
import GraphSchema.Proofs.Graph.Renaming
import GraphSchema.Proofs.Schema.Outcome
import Mathlib.Data.List.Forall2

/-! Ids never reach the document. Under other ids generation ends in the same way, with the same
document or with the same fault of the same entity; only the texts that name an entity by its id
differ. -/
namespace GraphSchema

/-- What may bear a name in a diagnostic. -/
inductive Bearer where
  | node (n : Node)
  | link (l : Link)
  | property (key : String)
  | builtIn

namespace Bearer

def text : Bearer → String
  | node n => n.owner
  | link l => l.owner
  | property key => "property '" ++ key ++ "'"
  | builtIn => "the built-in 'nodes' query"

def renamed (r : Renaming) : Bearer → Bearer
  | node n => node (n.renamed r)
  | link l => link (l.renamed r)
  | b => b

end Bearer

/-- What a diagnostic says of a name and the entities that bear it. -/
inductive Finding where
  | shadow (name : String) (first : Bearer)
  | shared (kind name : String) (bearers : List Bearer)
  | sharedField (name type : String) (bearers : List Bearer)
  | invalid (kind name : String) (bearer : Bearer)

namespace Finding

def text : Finding → String
  | shadow name first => "type '" ++ name ++ "' from " ++ first.text ++ " shadows a built-in type"
  | shared kind name bearers =>
    kind ++ " '" ++ name ++ "' is generated by " ++ listed (bearers.map Bearer.text)
  | sharedField name type bearers =>
    "field '" ++ name ++ "' of type '" ++ type ++ "' is declared by " ++
      listed (bearers.map Bearer.text)
  | invalid kind name bearer =>
    kind ++ " '" ++ name ++ "' from " ++ bearer.text ++ " is not a valid identifier"

def renamed (r : Renaming) : Finding → Finding
  | shadow name first => shadow name (first.renamed r)
  | shared kind name bearers => shared kind name (bearers.map (Bearer.renamed r))
  | sharedField name type bearers => sharedField name type (bearers.map (Bearer.renamed r))
  | invalid kind name bearer => invalid kind name (bearer.renamed r)

end Finding

/-- Two messages that say the same of the same entities, each under its own ids. -/
def Renaming.Alike (r : Renaming) (m m' : String) : Prop :=
  ∃ f : Finding, m = f.text ∧ m' = (f.renamed r).text

section Tables
open List
variable {r : Renaming}

/-- A name with who bears it. -/
structure Claim where
  name : String
  bearer : Bearer

def Claim.bearing (c : Claim) : Bearing := (c.name, c.bearer.text)

def Claim.renamed (r : Renaming) (c : Claim) : Claim := ⟨c.name, c.bearer.renamed r⟩

/-- Two groups of the same name, whose owners are the same entities under their own ids. -/
def Tallied (r : Renaming) (g g' : Owners) : Prop :=
  g'.1 = g.1 ∧ ∃ b bs, g.2 = (b :: bs).map Bearer.text ∧
    g'.2 = ((b :: bs).map (Bearer.renamed r)).map Bearer.text

theorem tallied_addBearing {gs gs' : List Owners} (h : Forall₂ (Tallied r) gs gs') (c : Claim) :
    Forall₂ (Tallied r) (addBearing gs c.bearing) (addBearing gs' (c.renamed r).bearing) := by
  induction h with
  | nil => exact .cons ⟨rfl, c.bearer, [], rfl, rfl⟩ .nil
  | @cons g g' gs gs' hg hgs ih =>
    obtain ⟨hname, b, bs, howners, howners'⟩ := hg
    have hclaim : (c.renamed r).bearing.1 = c.bearing.1 := rfl
    unfold addBearing
    rw [hname, hclaim]
    by_cases hc : g.1 = c.bearing.1
    · rw [if_pos hc, if_pos hc]
      refine .cons ⟨rfl, b, bs ++ [c.bearer], ?_, ?_⟩ hgs
      · simp [howners, Claim.bearing]
      · simp [howners', Claim.bearing, Claim.renamed]
    · rw [if_neg hc, if_neg hc]
      exact .cons ⟨hname, b, bs, howners, howners'⟩ ih

theorem tallied_grouped (cs : List Claim) :
    Forall₂ (Tallied r) (grouped (cs.map Claim.bearing))
      (grouped (cs.map fun c => (c.renamed r).bearing)) := by
  have hfold {gs gs' : List Owners} (h : Forall₂ (Tallied r) gs gs') :
      Forall₂ (Tallied r) ((cs.map Claim.bearing).foldl addBearing gs)
        ((cs.map fun c => (c.renamed r).bearing).foldl addBearing gs') := by
    induction cs generalizing gs gs' with
    | nil => exact h
    | cons c cs ih => exact ih (tallied_addBearing h c)
  exact hfold .nil

theorem tallied_withBuiltIn {gs gs' : List Owners} (h : Forall₂ (Tallied r) gs gs') :
    Forall₂ (Tallied r) (withBuiltIn gs) (withBuiltIn gs') := by
  induction h with
  | nil => exact .cons ⟨rfl, .builtIn, [], rfl, rfl⟩ .nil
  | @cons g g' gs gs' hg hgs ih =>
    obtain ⟨hname, b, bs, howners, howners'⟩ := hg
    unfold withBuiltIn
    rw [hname]
    by_cases hc : g.1 = "nodes"
    · rw [if_pos hc, if_pos hc, howners, howners']
      exact .cons ⟨rfl, .builtIn, b :: bs, rfl, rfl⟩ hgs
    · rw [if_neg hc, if_neg hc]
      exact .cons ⟨hname, b, bs, howners, howners'⟩ ih

section Messages
variable {g g' : Owners}

theorem alike_typeCollision (h : Tallied r g g') :
    Option.Rel r.Alike (typeCollision g) (typeCollision g') := by
  obtain ⟨hname, b, bs, howners, howners'⟩ := h
  unfold typeCollision
  rw [hname, howners, howners']
  split
  next => exact .some ⟨.shadow g.1 b, rfl, rfl⟩
  next =>
    simp only [List.length_map]
    split
    next => exact .some ⟨.shared "type" g.1 (b :: bs), rfl, rfl⟩
    next => exact .none

theorem alike_queryCollision (h : Tallied r g g') :
    Option.Rel r.Alike (queryCollision g) (queryCollision g') := by
  obtain ⟨hname, b, bs, howners, howners'⟩ := h
  unfold queryCollision
  rw [hname, howners, howners']
  simp only [List.length_map]
  split
  next => exact .some ⟨.shared "query field" g.1 (b :: bs), rfl, rfl⟩
  next => exact .none

theorem alike_fieldCollision (n : Node) (h : Tallied r g g') :
    Option.Rel r.Alike (fieldCollision n g) (fieldCollision (n.renamed r) g') := by
  obtain ⟨hname, b, bs, howners, howners'⟩ := h
  unfold fieldCollision
  rw [hname, howners, howners']
  simp only [List.length_map]
  split
  next => exact .some ⟨.sharedField g.1 n.typeName (b :: bs), rfl, rfl⟩
  next => exact .none

theorem alike_problem (kind name : String) (b : Bearer) :
    Option.Rel r.Alike (NameUse.problem ⟨kind, name, b.text⟩)
      (NameUse.problem ⟨kind, name, (b.renamed r).text⟩) := by
  unfold NameUse.problem
  split
  next => exact .none
  next => exact .some ⟨.invalid kind name b, rfl, rfl⟩

end Messages

section Reports
variable {nodes : List Node} {links : List Link} {outgoing outgoing' : Outgoing}

def typeClaims (nodes : List Node) (links : List Link) : List Claim :=
  nodes.flatMap (fun n => [⟨n.typeName, .node n⟩, ⟨n.inputName, .node n⟩]) ++
    links.flatMap fun l => [⟨l.edgeName, .link l⟩, ⟨l.connectionName, .link l⟩]

def queryClaims (nodes : List Node) : List Claim := nodes.map fun n => ⟨n.queryName, .node n⟩

def fieldClaims (n : Node) (outgoing : List Link) : List Claim :=
  n.properties.map (fun p => ⟨p.key, .property p.key⟩) ++
    outgoing.map fun l => ⟨l.edge.label, .link l⟩

/-- The names that have to be identifiers, each with its kind. -/
def kindClaims (nodes : List Node) (links : List Link) : List (String × Claim) :=
  nodes.flatMap (fun n =>
    [("type", ⟨n.typeName, .node n⟩), ("query field", ⟨n.queryName, .node n⟩)]) ++
    links.flatMap fun l =>
      [("type", ⟨l.edgeName, .link l⟩), ("connection field", ⟨l.edge.label, .link l⟩)]

theorem typeBearings_eq : typeBearings nodes links = (typeClaims nodes links).map Claim.bearing := by
  rw [typeBearings, typeClaims, List.map_append, List.map_flatMap, List.map_flatMap]
  rfl

theorem typeBearings_renamed :
    typeBearings (nodes.map (Node.renamed r)) (links.map (Link.renamed r)) =
      (typeClaims nodes links).map fun c => (c.renamed r).bearing := by
  rw [typeBearings, typeClaims, List.map_append, List.map_flatMap, List.map_flatMap,
    List.flatMap_map, List.flatMap_map]
  rfl

theorem fieldBearings_eq (n : Node) (ls : List Link) :
    fieldBearings n ls = (fieldClaims n ls).map Claim.bearing := by
  rw [fieldBearings, fieldClaims, List.map_append, List.map_map, List.map_map]
  rfl

theorem fieldBearings_renamed (n : Node) (ls : List Link) :
    fieldBearings (n.renamed r) (ls.map (Link.renamed r)) =
      (fieldClaims n ls).map fun c => (c.renamed r).bearing := by
  rw [fieldBearings, fieldClaims, List.map_append, List.map_map, List.map_map, List.map_map]
  rfl

theorem alike_namingCollisions
    (houtgoing : ∀ n ∈ nodes, outgoing'.of (n.renamed r) = (outgoing.of n).map (Link.renamed r)) :
    Forall₂ r.Alike (namingCollisions nodes links outgoing)
      (namingCollisions (nodes.map (Node.renamed r)) (links.map (Link.renamed r)) outgoing') := by
  have hqueries : queryBearings nodes = (queryClaims nodes).map Claim.bearing := by
    rw [queryClaims, List.map_map]
    rfl
  have hqueries' : queryBearings (nodes.map (Node.renamed r)) =
      (queryClaims nodes).map fun c => (c.renamed r).bearing := by
    rw [queryBearings, queryClaims, List.map_map, List.map_map]
    rfl
  unfold namingCollisions
  refine rel_append (rel_append ?_ ?_) ?_
  · rw [typeBearings_eq, typeBearings_renamed]
    exact rel_filterMap (R := Tallied r) (fun _ _ h => alike_typeCollision h) (tallied_grouped _)
  · rw [hqueries, hqueries']
    exact rel_filterMap (R := Tallied r) (fun _ _ h => alike_queryCollision h)
      (tallied_withBuiltIn (tallied_grouped _))
  · rw [List.flatMap_map, List.flatMap_def, List.flatMap_def]
    refine rel_flatten (forall₂_map_left_iff.mpr (forall₂_map_right_iff.mpr
      (forall₂_same.mpr fun n hn => ?_)))
    rw [houtgoing n hn, fieldBearings_eq, fieldBearings_renamed]
    exact rel_filterMap (R := Tallied r) (fun _ _ h => alike_fieldCollision n h)
      (tallied_grouped _)

/-- A claim with the kind of its name. -/
def Claim.use (kind : String) (c : Claim) : NameUse := ⟨kind, c.name, c.bearer.text⟩

theorem nameUses_eq (nodes : List Node) (links : List Link) :
    nameUses nodes links = (kindClaims nodes links).map fun c => c.2.use c.1 := by
  rw [nameUses, kindClaims, List.map_append, List.map_flatMap, List.map_flatMap]
  rfl

theorem nameUses_renamed (nodes : List Node) (links : List Link) :
    nameUses (nodes.map (Node.renamed r)) (links.map (Link.renamed r)) =
      (kindClaims nodes links).map fun c => (c.2.renamed r).use c.1 := by
  rw [nameUses, kindClaims, List.map_append, List.map_flatMap, List.map_flatMap,
    List.flatMap_map, List.flatMap_map]
  rfl

theorem alike_invalidIdentifiers (nodes : List Node) (links : List Link) :
    Forall₂ r.Alike (invalidIdentifiers nodes links)
      (invalidIdentifiers (nodes.map (Node.renamed r)) (links.map (Link.renamed r))) := by
  rw [invalidIdentifiers, invalidIdentifiers, nameUses_eq, nameUses_renamed]
  refine rel_filterMap (R := fun u u' => ∃ kind name b, u = Claim.use kind ⟨name, b⟩ ∧
    u' = Claim.use kind ⟨name, b.renamed r⟩) ?_ ?_
  · rintro _ _ ⟨kind, name, b, rfl, rfl⟩
    exact alike_problem kind name b
  · exact forall₂_map_left_iff.mpr (forall₂_map_right_iff.mpr
      (forall₂_same.mpr fun c _ => ⟨c.1, c.2.name, c.2.bearer, rfl, rfl⟩))

end Reports
end Tables

/-- Two ends of generation, for a graph and for the same graph under other ids. -/
inductive Renaming.SameEnd (r : Renaming) :
    Except GenerationError Generated → Except GenerationError Generated → Prop where
  | missing (edgeId nodeId : String) (role : Role) :
    SameEnd r (.error (.missingEndpoint edgeId nodeId role))
      (.error (.missingEndpoint (r.edge edgeId) (r.node nodeId) role))
  | collisions {ms ms' : List String} (h : List.Forall₂ r.Alike ms ms') :
    SameEnd r (.error (.collisions ms)) (.error (.collisions ms'))
  | field (e : FieldError) : SameEnd r (.error (.field e)) (.error (.field e))
  | generated (document : String) (nodes edges : Nat) {ws ws' : List String}
      (h : List.Forall₂ r.Alike ws ws') :
    SameEnd r (.ok ⟨document, nodes, edges, ws⟩) (.ok ⟨document, nodes, edges, ws'⟩)

def Gap.renamed (r : Renaming) (g : Gap) : Gap := ⟨r.edge g.edgeId, r.node g.nodeId, g.role⟩

/-- Declarations are made of labels and properties. -/
theorem Outline.of_renamed {r : Renaming} {nodes : List Node} {links : List Link}
    {outgoing outgoing' : Node → List Link}
    (h : ∀ n ∈ nodes, outgoing' (n.renamed r) = (outgoing n).map (Link.renamed r)) :
    of (nodes.map (Node.renamed r)) (links.map (Link.renamed r)) outgoing' =
      of nodes links outgoing := by
  have hobject : ∀ n ∈ nodes, (n.renamed r).objectDeclaration (outgoing' (n.renamed r)) =
      n.objectDeclaration (outgoing n) := by
    intro n hn
    rw [h n hn, Node.objectDeclaration, Node.objectDeclaration, List.map_map]
    rfl
  have hmutations : ∀ n ∈ nodes, (n.renamed r).mutationFields (outgoing' (n.renamed r)) =
      n.mutationFields (outgoing n) := by
    intro n hn
    rw [h n hn, Node.mutationFields, Node.mutationFields, List.flatMap_map]
    rfl
  unfold of
  congr 1
  · rw [List.map_map]
    exact List.map_congr_left fun n hn => Prod.ext (hobject n hn) rfl
  · rw [List.map_map]
    rfl
  · rw [List.map_map]
    rfl
  · rw [queryDeclaration, queryDeclaration, List.map_map]
    rfl
  · rw [mutationDeclaration, mutationDeclaration, List.map_map]
    congr 1
    exact List.map_congr_left hmutations

namespace Store
variable {s : Store} {r : Renaming}

theorem properties_renamed : (s.renamed r).properties = s.properties := by
  rw [properties, properties, allNodes_renamed, allEdges_renamed, List.flatMap_map,
    List.flatMap_map]
  rfl

section Faithful
variable (h : r.Faithful s)
include h

theorem gap?_renamed {e : Edge} (he : e ∈ s.allEdges) :
    (s.renamed r).gap? (e.renamed r) = (s.gap? e).map (Gap.renamed r) := by
  obtain ⟨hstart, hfinish⟩ := mem_nodeIds_of_edge he
  have hs : (s.renamed r).nodes.has (e.renamed r).startId = s.nodes.has e.startId :=
    has_node_renamed h hstart
  have hf : (s.renamed r).nodes.has (e.renamed r).endId = s.nodes.has e.endId :=
    has_node_renamed h hfinish
  rw [gap?, gap?, hs, hf]
  cases s.nodes.has e.startId <;> cases s.nodes.has e.endId <;> rfl

theorem firstGap?_renamed : (s.renamed r).firstGap? = s.firstGap?.map (Gap.renamed r) := by
  have hgaps : ∀ es : List Edge, (∀ e ∈ es, e ∈ s.allEdges) →
      (es.map (Edge.renamed r)).findSome? (s.renamed r).gap? =
        (es.findSome? s.gap?).map (Gap.renamed r) := by
    intro es hes
    induction es with
    | nil => rfl
    | cons e es ih =>
      obtain ⟨he, hes⟩ := List.forall_mem_cons.mp hes
      rw [List.map_cons, List.findSome?_cons, List.findSome?_cons, gap?_renamed h he]
      cases s.gap? e with
      | some g => rfl
      | none => exact ih hes
  rw [firstGap?, firstGap?, allEdges_renamed]
  exact hgaps _ fun _ he => he

theorem knownFrom_node_renamed {n : Node} (hn : n ∈ s.allNodes) :
    (s.renamed r).knownFrom (s.renamed r).links (n.renamed r).id =
      (s.knownFrom s.links n.id).map (Link.renamed r) :=
  knownFrom_renamed h (mem_nodeIds_of_node hn)

theorem outline_renamed : (s.renamed r).outline = s.outline := by
  rw [outline, outline, allNodes_renamed, links_renamed h]
  refine Outline.of_renamed fun n hn => ?_
  rw [← links_renamed h]
  exact knownFrom_node_renamed h hn

theorem alike_collisions : List.Forall₂ r.Alike s.collisions (s.renamed r).collisions := by
  rw [collisions, collisions, allNodes_renamed, links_renamed h]
  refine alike_namingCollisions fun n hn => ?_
  have hmem : n.renamed r ∈ (s.renamed r).allNodes := by
    rw [allNodes_renamed]
    exact List.mem_map_of_mem hn
  rw [outgoing, outgoing, Outgoing.of_map hmem, Outgoing.of_map hn]
  exact knownFrom_node_renamed h hn

theorem alike_warnings (d : Diagnosis) :
    List.Forall₂ r.Alike (s.warnings d) ((s.renamed r).warnings d) := by
  unfold warnings
  refine List.rel_append ?_ ?_
  · split
    next => exact .nil
    next => exact alike_collisions h
  · rw [allNodes_renamed, links_renamed h]
    split
    next => exact alike_invalidIdentifiers ..
    next => exact .nil

end Faithful

/-- Under other ids, whatever they are as long as ids that differ stay apart, generation has the same
end: the same document, or the same fault of the same entity. -/
theorem generate_renamed (h : r.Faithful s) (d : Diagnosis) :
    r.SameEnd (d.generate s.provider).outcome (d.generate (s.renamed r).provider).outcome := by
  have hcollisions := alike_collisions h
  have hnil : (s.renamed r).collisions = [] ↔ s.collisions = [] := by
    rw [← List.length_eq_zero_iff, ← List.length_eq_zero_iff, hcollisions.length_eq]
  rw [generate_eq, generate_eq, firstGap?_renamed h, properties_renamed, outline_renamed h,
    allNodes_renamed, allEdges_renamed, List.length_map, List.length_map]
  cases s.firstGap? with
  | some g => exact .missing g.edgeId g.nodeId g.role
  | none =>
    simp only [Option.map_none, ne_eq, hnil]
    split
    next => exact .collisions hcollisions
    next =>
      cases firstFault? s.properties with
      | some e => exact .field e
      | none => exact .generated _ _ _ (alike_warnings h d)

/-- The ids of nodes and those of edges, each with a mark in front. -/
def marked : Renaming := ⟨("node:" ++ ·), ("edge:" ++ ·)⟩

theorem generate_renamed_town :
    marked.Faithful town ∧ (town.renamed marked).nodes.keys = ["node:p", "node:c"] ∧
      marked.SameEnd (Diagnosis.generate {} town.provider).outcome
        (Diagnosis.generate {} (town.renamed marked).provider).outcome := by
  have hfaithful : marked.Faithful town :=
    Renaming.faithful_of_injective (fun _ _ h => (String.append_right_inj _).mp h)
      (fun _ _ h => (String.append_right_inj _).mp h) town
  exact ⟨hfaithful, by decide, generate_renamed hfaithful {}⟩

end Store
end GraphSchema
