import GraphSchema.Proofs.Graph.Validated
import GraphSchema.Proofs.Schema.DistinctNames

/-! Which types the fields of inputs have. The type of a property is a scalar, which may stand in an
input, or the object type of a place, which may not and has an input type declared beside it. -/
namespace GraphSchema

namespace Heading

/-- The name of an input type. -/
def inputName? : Heading → Option String
  | input name => some name
  | _ => none

/-- The name of a type of results: an object type or an interface. -/
def outputName? : Heading → Option String
  | type name _ => some name
  | interface name => some name
  | _ => none

theorem name?_of_outputName? {h : Heading} {name : String} (ho : h.outputName? = some name) :
    h.name? = some name := by
  cases h <;> simp_all [outputName?, name?]

end Heading

namespace Outline

def inputNames (o : Outline) : List String := o.declarations.filterMap (·.heading.inputName?)

def outputNames (o : Outline) : List String := o.declarations.filterMap (·.heading.outputName?)

/-- A type that the field of an input may have: a scalar or an input type, and no type of results. -/
structure Insertable (o : Outline) (name : String) : Prop where
  input : name ∈ scalarNames ∨ name ∈ o.inputNames
  notOutput : name ∉ o.outputNames

theorem outputNames_subset (o : Outline) : o.outputNames ⊆ o.names := by
  intro name hname
  obtain ⟨d, hd, ho⟩ := List.mem_filterMap.mp hname
  exact List.mem_filterMap.mpr ⟨d, hd, Heading.name?_of_outputName? ho⟩

end Outline

namespace Property
variable {p : Property} {s : Scalar}

theorem name_field_type (hs : p.scalar? = some s) : p.field.type.name = s.name := by
  cases hr : p.isRequired.counts <;> simp [field, TypeRef.name, hr, hs]

theorem scalar?_eq_geoPoint : p.scalar? = some .geoPoint ↔ p.type = .text "GeoPoint" := by
  constructor
  · exact type_of_scalar?
  · intro h
    rw [scalar?, h]
    rfl

theorem type_eq_geoPoint_iff (h : p.scalar?.isSome) :
    p.field.type.name = "GeoPoint" ↔ p.type = .text "GeoPoint" := by
  obtain ⟨s, hs⟩ := Option.isSome_iff_exists.mp h
  have hgeo : s.name = "GeoPoint" ↔ s = .geoPoint := by cases s <;> decide
  rw [name_field_type hs, ← scalar?_eq_geoPoint, hs, Option.some.injEq, hgeo]

/-- All types of properties but one are scalars. -/
theorem scalar_or_geoPoint (h : p.scalar?.isSome) :
    p.field.type.name ∈ scalarNames ∨ p.field.type.name = "GeoPoint" := by
  obtain ⟨s, hs⟩ := Option.isSome_iff_exists.mp h
  rw [name_field_type hs]
  exact s.name_known

end Property

namespace Outline
variable {nodes : List Node} {links : List Link} {outgoing : Node → List Link}

/-- Inputs are made from nodes, but for the fixed one. -/
theorem fields_of_input {d : Declaration} (hd : d ∈ (of nodes links outgoing).declarations)
    (hinput : d.heading.inputName?.isSome) :
    d.fields = geoPointFields ∨
      ∃ n ∈ nodes, d.fields = n.inputProperties.map Property.field := by
  have hfixed : ∀ d ∈ fixedDeclarations, d.heading.inputName?.isSome →
      d.fields = geoPointFields := by decide
  cases mem_declarations_iff.mp hd with
  | fixed hd => exact .inl (hfixed d hd hinput)
  | @input n hn => exact .inr ⟨n, hn, List.append_nil _⟩
  | object | edge | connection | query | mutation | root =>
    exact absurd hinput Bool.false_ne_true

theorem geoPoint_not_insertable : ¬(of nodes links outgoing).Insertable "GeoPoint" := by
  have hfixed : "GeoPoint" ∈ fixedDeclarations.filterMap (·.heading.outputName?) := by decide
  intro h
  apply h.notOutput
  rw [outputNames, declarations, List.filterMap_append, List.filterMap_append]
  exact List.mem_append_left _ (List.mem_append_left _ hfixed)

section Clean
variable {table : Outgoing} (hclean : namingCollisions nodes links table = [])
include hclean

/-- Under an empty report no type of results is named like a scalar. -/
theorem insertable_of_scalar {name : String} (h : name ∈ scalarNames) :
    (of nodes links outgoing).Insertable name :=
  ⟨.inl h, fun ho => List.disjoint_of_nodup_append (nodup_names hclean outgoing) h
    (outputNames_subset _ ho)⟩

theorem insertable_iff (hscalars : ∀ n ∈ nodes, ∀ p ∈ n.properties, p.scalar?.isSome)
    {d : Declaration} (hd : d ∈ (of nodes links outgoing).declarations)
    (hinput : d.heading.inputName?.isSome) {f : FieldDecl} (hf : f ∈ d.fields) :
    (of nodes links outgoing).Insertable f.type.name ↔ f.type.name ≠ "GeoPoint" := by
  constructor
  · rintro h heq
    exact geoPoint_not_insertable (heq ▸ h)
  · intro hne
    apply insertable_of_scalar hclean
    rcases fields_of_input hd hinput with hfields | ⟨n, hn, hfields⟩
    · have hfloat : ∀ f ∈ geoPointFields, f.type.name ∈ scalarNames := by decide
      exact hfloat f (hfields ▸ hf)
    · obtain ⟨p, hp, rfl⟩ := List.mem_map.mp (hfields ▸ hf)
      have hscalar := hscalars n hn p (List.mem_of_mem_filter hp)
      exact (Property.scalar_or_geoPoint hscalar).resolve_right hne

end Clean
end Outline

namespace Store
variable {s : Store} {d : Diagnosis} {g : Generated}

/-- The fields of inputs have types that may stand there, but for those of type "GeoPoint". So all of
them do exactly if every property of that type is filled in by the system. -/
theorem insertable_inputs_iff (hclean : s.collisions = [])
    (h : (d.generate s.provider).outcome = .ok g) :
    g.document = s.outline.text ∧
      (∀ decl ∈ s.outline.declarations, decl.heading.inputName?.isSome → ∀ f ∈ decl.fields,
        (s.outline.Insertable f.type.name ↔ f.type.name ≠ "GeoPoint")) ∧
      ((∀ decl ∈ s.outline.declarations, decl.heading.inputName?.isSome → ∀ f ∈ decl.fields,
          s.outline.Insertable f.type.name) ↔
        ∀ n ∈ s.allNodes, ∀ p ∈ n.properties, p.type = .text "GeoPoint" →
          p.isAutoGenerated.counts = true) := by
  obtain ⟨-, hdeclarable, htext⟩ := generate_outline h
  have hscalars : ∀ n ∈ s.allNodes, ∀ p ∈ n.properties, p.scalar?.isSome :=
    fun n hn p hp => (hdeclarable.1 n hn p hp).type
  have hfield : ∀ decl ∈ s.outline.declarations, decl.heading.inputName?.isSome →
      ∀ f ∈ decl.fields, (s.outline.Insertable f.type.name ↔ f.type.name ≠ "GeoPoint") :=
    fun _ hd hinput _ hf => Outline.insertable_iff hclean hscalars hd hinput hf
  refine ⟨htext, hfield, ⟨?_, ?_⟩⟩
  · intro hall n hn p hp htype
    by_contra hauto
    -- A place that the system does not fill in is a field of its node's input.
    have hdecl : n.inputDeclaration ∈ s.outline.declarations :=
      Outline.mem_declarations_iff.mpr (.input hn)
    have hmem : p.field ∈ n.inputDeclaration.fields := by
      have hinput : p ∈ n.inputProperties := List.mem_filter.mpr ⟨hp, by simpa using hauto⟩
      simpa [Node.inputDeclaration, Declaration.fields] using ⟨p, hinput, rfl⟩
    have hgeo := (Property.type_eq_geoPoint_iff (hscalars n hn p hp)).mpr htype
    exact (hfield _ hdecl rfl _ hmem).mp (hall _ hdecl rfl _ hmem) hgeo
  · intro hauto decl hd hinput f hf
    refine (hfield decl hd hinput f hf).mpr fun hgeo => ?_
    rcases Outline.fields_of_input hd hinput with hfields | ⟨n, hn, hfields⟩
    · have hfloat : ∀ f ∈ geoPointFields, f.type.name ≠ "GeoPoint" := by decide
      exact hfloat f (hfields ▸ hf) hgeo
    · obtain ⟨p, hp, rfl⟩ := List.mem_map.mp (hfields ▸ hf)
      obtain ⟨hp, hfilled⟩ := List.mem_filter.mp hp
      have htype := (Property.type_eq_geoPoint_iff (hscalars n hn p hp)).mp hgeo
      rw [hauto n hn p hp htype] at hfilled
      exact absurd hfilled (by decide)

/-- A shop with the place where it stands. -/
def shop : Value := .object [
  ("nodes", .list [.object [("id", .text "s"), ("label", .text "shop"),
    ("properties", .list [.object [("key", .text "place"), ("type", .text "GeoPoint")]])]])]

theorem insertable_inputs_shop :
    ∃ s g, (Load.document true 0 shop).outcome = .ok s ∧ s.collisions = [] ∧
      (Diagnosis.generate {} s.provider).outcome = .ok g ∧ g.document = s.outline.text ∧
      (∀ decl ∈ s.outline.declarations, decl.heading.inputName?.isSome → ∀ f ∈ decl.fields,
        (s.outline.Insertable f.type.name ↔ f.type.name ≠ "GeoPoint")) ∧
      ((∀ decl ∈ s.outline.declarations, decl.heading.inputName?.isSome → ∀ f ∈ decl.fields,
          s.outline.Insertable f.type.name) ↔
        ∀ n ∈ s.allNodes, ∀ p ∈ n.properties, p.type = .text "GeoPoint" →
          p.isAutoGenerated.counts = true) := by
  have hload : (Load.document true 0 shop).outcome = .ok (Load.document true 0 shop).store := rfl
  have hclean : (Load.document true 0 shop).store.collisions = [] := by decide +kernel
  have hgenerate : (Diagnosis.generate {} (Load.document true 0 shop).store.provider).outcome =
      .ok _ := rfl
  exact ⟨_, _, hload, hclean, hgenerate, insertable_inputs_iff hclean hgenerate⟩

/-- The input of the shop has a field of an object type. -/
theorem input_of_object_type :
    ∃ s g, (Load.document true 0 shop).outcome = .ok s ∧ s.collisions = [] ∧
      (Diagnosis.generate {} s.provider).outcome = .ok g ∧ g.document = s.outline.text ∧
      ∃ decl ∈ s.outline.declarations, decl.heading = .input "ShopInput" ∧
        ∃ f ∈ decl.fields, f.text = "place: GeoPoint" ∧ "GeoPoint" ∈ s.outline.outputNames := by
  have hgenerate : (Diagnosis.generate {} (Load.document true 0 shop).store.provider).outcome =
      .ok _ := rfl
  refine ⟨_, _, rfl, ?_, hgenerate, (generate_outline hgenerate).2.2, ?_⟩
  · decide +kernel
  · decide +kernel

end Store
end GraphSchema
