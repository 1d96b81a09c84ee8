import GraphSchema.Proofs.Graph.Validity
import GraphSchema.Proofs.Schema.Outcome

/-! Graphs made of validated parts only. However they are edited, their labels, keys, types and
limits are as checks leave them, so that generation never meets a type that is no scalar. -/
namespace GraphSchema

/-- A property that was checked as a whole, and whose fields may have been set since, each to a
checked value. -/
inductive Property.Validated : Property → Prop where
  | checked {v : Value} {p : Property} (h : Property.check v = .ok p) : Validated p
  | assigned {p q : Property} {field : String} {v : Value} (h : Validated p)
      (set : p.assign field v = .ok q) : Validated q

/-- A node that was checked as a whole; since then its fields may have been set to checked values and
its properties replaced by validated ones. -/
inductive Node.Validated : Node → Prop where
  | checked {used : Nat} {v : Value} {n : Node} (h : Node.check used v = .ok n) : Validated n
  | assigned {n m : Node} {field : String} {v : Value} (h : Validated n)
      (set : n.assign field v = .ok m) : Validated m
  | filled {n : Node} {ps : List Property} (h : Validated n) (hps : ∀ p ∈ ps, p.Validated) :
      Validated { n with properties := ps }

inductive Edge.Validated : Edge → Prop where
  | checked {used : Nat} {v : Value} {e : Edge} (h : Edge.check used v = .ok e) : Validated e
  | assigned {e f : Edge} {field : String} {v : Value} (h : Validated e)
      (set : e.assign field v = .ok f) : Validated f
  | filled {e : Edge} {ps : List Property} (h : Validated e) (hps : ∀ p ∈ ps, p.Validated) :
      Validated { e with properties := ps }

section Assigning
variable {v : Value} {field : String}

theorem Check.otherAttribute_eq_ok {α : Type} {a b : α} (h : Check.otherAttribute a field = .ok b) :
    b = a := by
  unfold Check.otherAttribute at h
  split at h
  next => exact (Except.ok.inj h).symm
  next => simp [Checked.fault] at h

theorem Property.Valid.of_assign {p q : Property} (hp : p.Valid) (h : p.assign field v = .ok q) :
    q.Valid := by
  have h := Checked.within_eq_ok.mp h
  split at h
  next =>
    obtain ⟨k, hk, rfl⟩ := map_eq_ok.mp h
    exact { hp with key := Check.identifier_of_key hk }
  next =>
    obtain ⟨t, ht, rfl⟩ := map_eq_ok.mp h
    exact { hp with type := Check.scalar_of_scalarName ht }
  next =>
    obtain ⟨d, hd, rfl⟩ := map_eq_ok.mp h
    exact { hp with description := Check.text_of_description hd }
  next =>
    obtain ⟨b, hb, rfl⟩ := map_eq_ok.mp h
    exact { hp with isRequired := Property.bool_of_flag hb }
  next =>
    obtain ⟨b, hb, rfl⟩ := map_eq_ok.mp h
    exact { hp with isAutoGenerated := Property.bool_of_flag hb }
  next =>
    obtain rfl := Except.ok.inj h
    exact { hp with }
  next =>
    obtain ⟨n, hn, rfl⟩ := map_eq_ok.mp h
    exact { hp with limitMin := Check.isLimit_of_limit hn }
  next =>
    obtain ⟨n, hn, rfl⟩ := map_eq_ok.mp h
    exact { hp with limitMax := Check.isLimit_of_limit hn }
  next =>
    rw [Check.otherAttribute_eq_ok h]
    exact hp

theorem Node.Valid.of_assign {n m : Node} (hn : n.Valid) (h : n.assign field v = .ok m) :
    m.Valid := by
  have h := Checked.within_eq_ok.mp h
  split at h
  next =>
    obtain ⟨i, -, rfl⟩ := map_eq_ok.mp h
    exact ⟨hn.label, hn.properties⟩
  next =>
    obtain ⟨l, hl, rfl⟩ := map_eq_ok.mp h
    exact ⟨Check.valid_of_label hl, hn.properties⟩
  next =>
    obtain ⟨ps, hps, rfl⟩ := map_eq_ok.mp h
    exact ⟨hn.label, valid_of_checkProperties hps⟩
  next =>
    rw [Check.otherAttribute_eq_ok h]
    exact hn

theorem Edge.Valid.of_assign {e f : Edge} (he : e.Valid) (h : e.assign field v = .ok f) :
    f.Valid := by
  have h := Checked.within_eq_ok.mp h
  split at h
  next =>
    obtain ⟨i, -, rfl⟩ := map_eq_ok.mp h
    exact ⟨he.label, he.properties⟩
  next =>
    obtain ⟨l, hl, rfl⟩ := map_eq_ok.mp h
    exact ⟨Check.valid_of_label hl, he.properties⟩
  next =>
    obtain ⟨i, -, rfl⟩ := map_eq_ok.mp h
    exact ⟨he.label, he.properties⟩
  next =>
    obtain ⟨i, -, rfl⟩ := map_eq_ok.mp h
    exact ⟨he.label, he.properties⟩
  next =>
    obtain ⟨ps, hps, rfl⟩ := map_eq_ok.mp h
    exact ⟨he.label, valid_of_checkProperties hps⟩
  next =>
    rw [Check.otherAttribute_eq_ok h]
    exact he

end Assigning

/-- A description is a text, and every text can be written. -/
theorem Property.Valid.exists_beyond {p : Property} (h : p.Valid)
    {limit : WritingLimit} (hlimit : p.beyond? = some limit) :
    ∃ v ∈ [p.defaultValue, p.limitMin, p.limitMax], v.beyond? = some limit := by
  obtain ⟨t, ht⟩ := h.description
  have htext : (Value.text t).beyond? = none := rfl
  rw [Property.beyond?, ht, List.findSome?_cons, htext] at hlimit
  exact List.exists_of_findSome?_eq_some hlimit

theorem Property.Validated.valid {p : Property} (h : p.Validated) : p.Valid := by
  induction h with
  | checked h => exact Property.valid_of_check h
  | assigned _ set ih => exact ih.of_assign set

theorem Node.Validated.valid {n : Node} (h : n.Validated) : n.Valid := by
  induction h with
  | checked h => exact Node.valid_of_check h
  | assigned _ set ih => exact ih.of_assign set
  | filled _ hps ih => exact ⟨ih.label, fun p hp => (hps p hp).valid⟩

theorem Edge.Validated.valid {e : Edge} (h : e.Validated) : e.Valid := by
  induction h with
  | checked h => exact Edge.valid_of_check h
  | assigned _ set ih => exact ih.of_assign set
  | filled _ hps ih => exact ⟨ih.label, fun p hp => (hps p hp).valid⟩

/-- What is handed over as it is, is validated; raw values and labels may be anything. -/
def Draft.Validated : Draft → Prop
  | .property p => p.Validated
  | .value _ => True

def Drafts.Validated : Drafts → Prop
  | .drafts ds => ∀ d ∈ ds, d.Validated
  | .value _ => True

def Edit.Validated : Edit → Prop
  | .addNode n => n.Validated
  | .addEdge e => e.Validated
  | .setNodeProperties _ ds => ds.Validated
  | .setEdgeProperties _ ds => ds.Validated
  | _ => True

theorem Drafts.Validated.valid {ds : Drafts} (h : ds.Validated) : ds.Valid := by
  cases ds with
  | value v => trivial
  | drafts ds =>
    intro d hd
    cases d with
    | property p => exact (h _ hd).valid
    | value v => trivial

theorem Edit.Validated.valid {e : Edit} (h : e.Validated) : e.Valid := by
  cases e with
  | addNode n => exact Node.Validated.valid h
  | addEdge e => exact Edge.Validated.valid h
  | setNodeProperties id ds => exact Drafts.Validated.valid h
  | setEdgeProperties id ds => exact Drafts.Validated.valid h
  | _ => trivial

namespace Store
variable {s : Store}

/-- The stores that were loaded from a document, strictly or not, or built from validated parts. -/
inductive Furnished : Store → Prop where
  | loaded {strict : Bool} {used : Nat} {v : Value} {s : Store}
      (h : (Load.document strict used v).outcome = .ok s) : Furnished s
  | built {nodes : List Node} {edges : List Edge} {s : Store} (hnodes : ∀ n ∈ nodes, n.Validated)
      (hedges : ∀ e ∈ edges, e.Validated)
      (h : (empty.performAll (construction nodes edges)).2 = .ok s) : Furnished s

theorem Furnished.valid (h : s.Furnished) : s.Valid := by
  cases h with
  | loaded h => exact valid_of_document h
  | @built nodes edges _ hnodes hedges h =>
    refine performAll_keeps Effect.valid ?_ valid_empty h
    intro e he
    rcases List.mem_append.mp he with he | he
    · obtain ⟨n, hn, rfl⟩ := List.mem_map.mp he
      exact (hnodes n hn).valid
    · obtain ⟨f, hf, rfl⟩ := List.mem_map.mp he
      exact (hedges f hf).valid

theorem Valid.of_mem_properties (h : s.Valid) {p : Property} (hp : p ∈ s.properties) : p.Valid := by
  rcases List.mem_append.mp hp with hp | hp
  · obtain ⟨n, hn, hp⟩ := List.mem_flatMap.mp hp
    exact (h.nodes n hn).properties p hp
  · obtain ⟨e, he, hp⟩ := List.mem_flatMap.mp hp
    exact (h.edges e he).properties p hp

/-- With scalar types only, generation is stopped by endpoints, collisions, and values that cannot be
written. -/
theorem generate_error_of_scalars {d : Diagnosis} {x : GenerationError}
    (hscalars : ∀ p ∈ s.properties, p.scalar?.isSome)
    (h : (d.generate s.provider).outcome = .error x) :
    (∃ g : Gap, x = g.error) ∨ d.collisions = .error ∧ x = .collisions s.collisions ∨
      ∃ p ∈ s.properties, ∃ limit, p.beyond? = some limit ∧ x = .field (.beyond limit) := by
  have hends : s.Ends d (.error x) := ends_iff.mpr h
  cases hends with
  | @missing before after e g place first gap => exact .inl ⟨g, rfl⟩
  | collisions whole policy found => exact .inr (.inl ⟨policy, rfl⟩)
  | @unsupported before after p whole allowed place first type told =>
    have hp : p ∈ s.properties := place ▸ List.mem_append_right _ List.mem_cons_self
    have hsome := hscalars p hp
    simp [type] at hsome
  | @beyond before after p limit whole allowed place first exceeds =>
    have hp : p ∈ s.properties := place ▸ List.mem_append_right _ List.mem_cons_self
    rcases exceeds with ⟨type, -⟩ | ⟨-, hlimit⟩
    · have hsome := hscalars p hp
      simp [type] at hsome
    · exact .inr (.inr ⟨p, hp, limit, hlimit, rfl⟩)

/-- Whatever is done to a store of validated parts, refused edits included: labels are not empty and
have no blank at either end, keys are identifiers, types are names of scalars, limits are absent or
numbers. So generation can fail on a missing endpoint, on forbidden collisions, or on a default or a
limit that has too many digits or lies too deep to be written as text, and on nothing else. -/
theorem checked_of_run (h : s.Furnished) (es : List Edit) (hes : ∀ e ∈ es, e.Validated) :
    (∀ n ∈ (s.afterAll es).allNodes, ValidLabel n.label) ∧
      (∀ e ∈ (s.afterAll es).allEdges, ValidLabel e.label) ∧
      (∀ p ∈ (s.afterAll es).properties, Text.isIdentifier p.key.toList = true ∧
        (∃ t : Scalar, p.type = .text t.name) ∧ p.limitMin.IsLimit ∧ p.limitMax.IsLimit) ∧
      ∀ (d : Diagnosis) (x : GenerationError),
        (d.generate (s.afterAll es).provider).outcome = .error x →
          (∃ edgeId nodeId role, x = .missingEndpoint edgeId nodeId role) ∨
            (d.collisions = .error ∧ ∃ messages, x = .collisions messages) ∨
            ∃ p ∈ (s.afterAll es).properties, ∃ limit,
              (∃ v ∈ [p.defaultValue, p.limitMin, p.limitMax], v.beyond? = some limit) ∧
                x = .field (.beyond limit) := by
  have hvalid : (s.afterAll es).Valid := valid_of_run (fun e he => (hes e he).valid) h.valid
  have hproperty {p : Property} (hp : p ∈ (s.afterAll es).properties) : p.Valid :=
    hvalid.of_mem_properties hp
  refine ⟨fun n hn => (hvalid.nodes n hn).label, fun e he => (hvalid.edges e he).label, ?_, ?_⟩
  · intro p hp
    obtain ⟨t, ht⟩ := (hproperty hp).exists_scalar
    exact ⟨(hproperty hp).key, ⟨t, Property.type_of_scalar? ht⟩, (hproperty hp).limitMin,
      (hproperty hp).limitMax⟩
  · intro d x hx
    rcases generate_error_of_scalars (fun p hp => (hproperty hp).type) hx with
      ⟨g, rfl⟩ | ⟨policy, rfl⟩ | ⟨p, hp, limit, hlimit, rfl⟩
    · exact .inl ⟨g.edgeId, g.nodeId, g.role, rfl⟩
    · exact .inr (.inl ⟨policy, _, rfl⟩)
    · exact .inr (.inr ⟨p, hp, limit, (hproperty hp).exists_beyond hlimit, rfl⟩)

/-- A person whose home is not there, with blanks around label and key. -/
def sketch : Value := .object [
  ("nodes", .list [.object [("id", .text "p"), ("label", .text " person "),
    ("properties", .list [.object [("key", .text " name\n")]])]]),
  ("edges", .list [.object [("id", .text "lives"), ("label", .text "livesIn"),
    ("startNodeID", .text "p"), ("endNodeID", .text "c")]])]

/-- The first edit is refused, the others are not. -/
def sketchEdits : List Edit := [
  .setNodeLabel (.text "p") (.text " "),
  .setNodeLabel (.text "p") (.int 7),
  .setNodeProperties (.text "p") (.drafts [.property { key := "age", type := .text "Int" },
    .value (.object [("key", .text "born "), ("type", .text "Datetime"), ("limitMin", .text "")])]),
  .addNode { id := "c", label := "city" }]

theorem checked_of_sketch :
    ∃ s, (Load.document false 0 sketch).outcome = .ok s ∧ (∀ e ∈ sketchEdits, e.Validated) ∧
      (∀ n ∈ (s.afterAll sketchEdits).allNodes, ValidLabel n.label) ∧
      (∀ e ∈ (s.afterAll sketchEdits).allEdges, ValidLabel e.label) ∧
      (∀ p ∈ (s.afterAll sketchEdits).properties, Text.isIdentifier p.key.toList = true ∧
        (∃ t : Scalar, p.type = .text t.name) ∧ p.limitMin.IsLimit ∧ p.limitMax.IsLimit) ∧
      ∀ (d : Diagnosis) (x : GenerationError),
        (d.generate (s.afterAll sketchEdits).provider).outcome = .error x →
          (∃ edgeId nodeId role, x = .missingEndpoint edgeId nodeId role) ∨
            (d.collisions = .error ∧ ∃ messages, x = .collisions messages) ∨
            ∃ p ∈ (s.afterAll sketchEdits).properties, ∃ limit,
              (∃ v ∈ [p.defaultValue, p.limitMin, p.limitMax], v.beyond? = some limit) ∧
                x = .field (.beyond limit) := by
  have hload : (Load.document false 0 sketch).outcome = .ok _ := rfl
  have hproperty : Property.check (.object [("key", .text "age"), ("type", .text "Int")]) =
      .ok { key := "age", type := .text "Int" } := rfl
  have hnode : Node.check 0 (.object [("id", .text "c"), ("label", .text "city")]) =
      .ok { id := "c", label := "city" } := rfl
  have hdrafts : Drafts.Validated (.drafts [.property { key := "age", type := .text "Int" },
      .value (.object [("key", .text "born "), ("type", .text "Datetime"),
        ("limitMin", .text "")])]) :=
    List.forall_mem_cons.mpr ⟨.checked hproperty, List.forall_mem_singleton.mpr trivial⟩
  have hedits : ∀ e ∈ sketchEdits, e.Validated :=
    List.forall_mem_cons.mpr ⟨trivial, List.forall_mem_cons.mpr ⟨trivial, List.forall_mem_cons.mpr
      ⟨hdrafts, List.forall_mem_singleton.mpr (.checked hnode)⟩⟩⟩
  exact ⟨_, hload, hedits, checked_of_run (.loaded hload) sketchEdits hedits⟩

/-- The document of a property whose default stands inside more lists than can be written. -/
def burrow : Value := .object [("nodes", .list [.object [("id", .text "w"),
  ("label", .text "warren"), ("properties", .list [.object [("key", .text "plan"),
    ("defaultValue", .nested 987)]])]])]

/-- The checks accept every default, and generation fails on this one. -/
theorem generate_burrow :
    ∃ s x, (Load.document true 0 burrow).outcome = .ok s ∧
      (Diagnosis.generate {} s.provider).outcome = .error x ∧
      (∀ edgeId nodeId role, x ≠ .missingEndpoint edgeId nodeId role) ∧
      ∀ messages, x ≠ .collisions messages :=
  ⟨warren, _, rfl, outcome_warren {}, by simp, by simp⟩

end Store
end GraphSchema
