import GraphSchema.Proofs.Graph.FieldNames

/-! Documents in another spelling. A document loads alike with its fields under their first or their
second names, and with or without names of no field; only the places of faults show the difference.
The checks of an object ask for fields and nothing else, so what holds of the fields of an object
carries over to its check, and from there to the lists of a document. -/
namespace GraphSchema

section Places
variable (g : String → String)

/-- Steps, faults and refusals with other names of fields. -/
def Step.relabel : Step → Step
  | .field name => .field (g name)
  | .index i => .index i

def Fault.relabel (f : Fault) : Fault := ⟨f.place.map (Step.relabel g), f.cause⟩

def Refusal.relabel (r : Refusal) : Refusal := ⟨r.model, r.faults.map (Fault.relabel g)⟩

def LoadError.relabel : LoadError → LoadError
  | .refused r => .refused (r.relabel g)
  | e => e

def Checked.relabel {α : Type} (c : Checked α) : Checked α :=
  c.mapError (List.map (Fault.relabel g))

end Places

namespace Checked
variable {g : String → String} {α β : Type} {check : Value → Checked α} {default : α}
  {f : FieldName} {a b : Members} {alike : Value → Value → Prop}

@[simp] theorem relabel_andAlso (c : Checked (α → β)) (d : Checked α) :
    (andAlso c d).relabel g = andAlso (c.relabel g) (d.relabel g) := by
  cases c <;> cases d <;> simp [andAlso, relabel, Except.mapError]

@[simp] theorem relabel_within (s : Step) (c : Checked α) :
    (within s c).relabel g = within (s.relabel g) (c.relabel g) := by
  cases c <;> simp [within, relabel, Except.mapError, Fault.relabel]

theorem relabel_required (h : f.Agree g alike a b)
    (hcheck : ∀ v w, alike v w → (check v).relabel g = (check w).relabel g) :
    (f.required check a).relabel g = (f.required check b).relabel g := by
  rcases h.cases with ⟨ha, hb⟩ | ⟨m, n, ha, hb, hname, hvalue⟩
  · simp [FieldName.required, ha, hb]
  · simp [FieldName.required, ha, hb, Step.relabel, hname, hcheck _ _ hvalue]

theorem relabel_optional (h : f.Agree g alike a b)
    (hcheck : ∀ v w, alike v w → (check v).relabel g = (check w).relabel g) :
    (f.optional default check a).relabel g = (f.optional default check b).relabel g := by
  rcases h.cases with ⟨ha, hb⟩ | ⟨m, n, ha, hb, hname, hvalue⟩
  · simp [FieldName.optional, ha, hb]
  · simp [FieldName.optional, ha, hb, Step.relabel, hname, hcheck _ _ hvalue]

theorem relabel_each {vs ws : List Value} {start : Nat}
    (h : List.Forall₂ (fun v w => (check v).relabel g = (check w).relabel g) vs ws) :
    (each check start vs).relabel g = (each check start ws).relabel g := by
  induction h generalizing start with
  | nil => rfl
  | cons hhead _ ih => simp [each, hhead, ih]

theorem relabel_cases {c d : Checked α} (h : c.relabel g = d.relabel g) :
    (∃ a, c = .ok a ∧ d = .ok a) ∨ ∃ fs gs, c = .error fs ∧ d = .error gs ∧
      fs.map (Fault.relabel g) = gs.map (Fault.relabel g) := by
  cases c <;> cases d <;> simp_all [relabel, Except.mapError]

end Checked

def Property.fields : List FieldName :=
  [keyField, typeField, descriptionField, isRequiredField, isAutoGeneratedField,
    defaultValueField, limitMinField, limitMaxField]

def Node.fields : List FieldName := [idField, labelField, propertiesField]

def Edge.fields : List FieldName := [idField, labelField, startIdField, endIdField, propertiesField]

/-- The fields of each kind of object that stands in a document. -/
def objectFields : List (List FieldName) := [Property.fields, Node.fields, Edge.fields]

/-- The first name of a field that is given under its second one. -/
def firstName (name : String) : String :=
  match objectFields.flatten.find? (·.alias? = some name) with
  | some f => f.name
  | none => name

section Rewriting

/-- The parts of an object that may change inside, by name, each with how it may change. -/
abbrev Parts := List (String × (Value → Value → Prop))

def Parts.Allow (parts : Parts) (name : String) (v w : Value) : Prop :=
  v = w ∨ ∃ alike, (name, alike) ∈ parts ∧ alike v w

/-- The same names in the same order, with values that have changed in the given parts only. -/
def Revalued (parts : Parts) : Members → Members → Prop :=
  List.Forall₂ fun m n => n.1 = m.1 ∧ parts.Allow m.1 m.2 n.2

/-- A value stays as it is, or it is an object with changes inside its parts and then of its
names. -/
inductive ObjectRewritten (step : Members → Members → Prop) (parts : Parts) : Value → Value → Prop
  | same (v : Value) : ObjectRewritten step parts v v
  | object {a b c : Members} (values : Revalued parts a b) (names : step b c) :
    ObjectRewritten step parts (.object a) (.object c)

inductive ListRewritten (alike : Value → Value → Prop) : Value → Value → Prop
  | same (v : Value) : ListRewritten alike v v
  | list {vs ws : List Value} (items : List.Forall₂ alike vs ws) :
    ListRewritten alike (.list vs) (.list ws)

variable (step : List FieldName → Members → Members → Prop)

/-- The names of a property's object change; its values, a default value too, stay as they are. -/
def Property.Rewritten : Value → Value → Prop := ObjectRewritten (step Property.fields) []

def entityParts : Parts := [("properties", ListRewritten (Property.Rewritten step))]

def Node.Rewritten : Value → Value → Prop := ObjectRewritten (step Node.fields) (entityParts step)

def Edge.Rewritten : Value → Value → Prop := ObjectRewritten (step Edge.fields) (entityParts step)

def listParts : Parts :=
  [("nodes", ListRewritten (Node.Rewritten step)), ("edges", ListRewritten (Edge.Rewritten step))]

/-- The names in the objects of nodes, edges and properties change, each object on its own. -/
def Load.Rewritten : Value → Value → Prop := ObjectRewritten Eq (listParts step)

/-- Every field is given alike before and after the step, under names that `g` does not tell
apart. -/
def Keeps (g : String → String) : Prop :=
  ∀ fs ∈ objectFields, ∀ a b, step fs a b → ∀ f ∈ fs, f.Agree g Eq a b

end Rewriting

section Checks
variable {g : String → String} {step : List FieldName → Members → Members → Prop} {f : FieldName}
  {fs : List FieldName} {a b c : Members} {v w : Value} {parts : Parts}
  {alike : Value → Value → Prop}

theorem Revalued.lookup (h : Revalued parts a b) (name : String) :
    Option.Rel (parts.Allow name) (a.lookup name) (b.lookup name) := by
  induction h with
  | nil => exact .none
  | @cons m n a b hhead _ ih =>
    obtain ⟨key, v⟩ := m
    obtain ⟨key', w⟩ := n
    obtain ⟨rfl, hvalue⟩ := hhead
    by_cases hkey : name = key'
    · subst hkey
      simpa using Option.Rel.some hvalue
    · have hne : (name == key') = false := by simpa using hkey
      simpa [List.lookup_cons, hne] using ih

/-- A field is alike if its values may change no more than that. -/
theorem Revalued.agree (h : Revalued parts a b) (hself : ∀ v, alike v v)
    (hparts : ∀ n ∈ f.names, ∀ change, (n, change) ∈ parts → change = alike) :
    f.Agree id alike a b := by
  have hallow {n : String} (hn : n ∈ f.names) {v w : Value} : parts.Allow n v w → alike v w := by
    rintro (rfl | ⟨change, hmem, hchange⟩)
    · exact hself v
    · exact hparts n hn change hmem ▸ hchange
  have hfirst := h.lookup f.name
  have hname : f.name ∈ f.names := List.mem_cons_self ..
  unfold FieldName.Agree FieldName.find?
  cases halias : f.alias? with
  | none =>
    revert hfirst
    generalize a.lookup f.name = x, b.lookup f.name = y
    rintro (hvalue | _)
    · exact .some ⟨rfl, hallow hname hvalue⟩
    · exact .none
  | some second =>
    have hsecond := h.lookup second
    have hmem : second ∈ f.names := by simp [FieldName.names, halias]
    simp only [Option.bind_some]
    revert hfirst hsecond
    generalize a.lookup f.name = x, b.lookup f.name = y, a.lookup second = x',
      b.lookup second = y'
    rintro (hvalue | _) (hvalue' | _)
    · exact .some ⟨rfl, hallow hmem hvalue'⟩
    · exact .some ⟨rfl, hallow hname hvalue⟩
    · exact .some ⟨rfl, hallow hmem hvalue'⟩
    · exact .none

theorem Property.relabel_check (hstep : Keeps step g) (h : Property.Rewritten step v w) :
    (Property.check v).relabel g = (Property.check w).relabel g := by
  cases h with
  | same => rfl
  | @object a b c values names =>
    have hagree {f : FieldName} (hf : f ∈ fields) : f.Agree g Eq a c :=
      (values.agree (fun _ => rfl) (by simp)).trans
        (hstep fields (by simp [objectFields]) _ _ names f hf)
    have hoptional {default : Value} {check : Value → Checked Value} (f : FieldName)
        (hf : f ∈ fields) :
        (f.optional default check a).relabel g = (f.optional default check c).relabel g :=
      Checked.relabel_optional (hagree hf) fun _ _ h => by rw [h]
    have hkey : (keyField.required Check.key a).relabel g =
        (keyField.required Check.key c).relabel g :=
      Checked.relabel_required (hagree (by decide)) fun _ _ h => by rw [h]
    simp only [Property.check, Checked.relabel_andAlso]
    rw [hkey, hoptional typeField (by decide), hoptional descriptionField (by decide),
      hoptional isRequiredField (by decide), hoptional isAutoGeneratedField (by decide),
      hoptional defaultValueField (by decide), hoptional limitMinField (by decide),
      hoptional limitMaxField (by decide)]

theorem relabel_checkProperties (hstep : Keeps step g)
    (h : ListRewritten (Property.Rewritten step) v w) :
    (checkProperties v).relabel g = (checkProperties w).relabel g := by
  cases h with
  | same => rfl
  | list items => exact Checked.relabel_each (items.imp fun _ _ => Property.relabel_check hstep)

/-- The fields of a node or an edge are given alike, the properties up to changes in them. -/
theorem agree_entity (values : Revalued (entityParts step) a b)
    (hnames : ∀ f ∈ fs, f.Agree g Eq b c) :
    (∀ f ∈ fs, "properties" ∉ f.names → f.Agree g Eq a c) ∧
      (propertiesField ∈ fs →
        propertiesField.Agree g (ListRewritten (Property.Rewritten step)) a c) := by
  constructor
  · intro f hf hother
    refine FieldName.Agree.trans (values.agree (fun _ => rfl) ?_) (hnames f hf)
    intro n hn change hmem
    obtain ⟨rfl, -⟩ := Prod.mk.inj (List.mem_singleton.mp hmem)
    exact absurd hn hother
  · intro hf
    refine FieldName.Agree.trans (values.agree .same ?_) (hnames _ hf)
    intro n _ change hmem
    exact (Prod.mk.inj (List.mem_singleton.mp hmem)).2

theorem idsAfter_of_agree (h : idField.Agree g alike a b) (used : Nat) :
    idsAfter used (.object a) = idsAfter used (.object b) := by
  rcases h.cases with ⟨ha, hb⟩ | ⟨m, n, ha, hb, -⟩ <;>
    simp only [idsAfter, ha, hb, Option.isNone_none, Option.isNone_some]

theorem Node.relabel_check (hstep : Keeps step g) (used : Nat) (h : Node.Rewritten step v w) :
    (Node.check used v).relabel g = (Node.check used w).relabel g ∧
      idsAfter used v = idsAfter used w := by
  cases h with
  | same => exact ⟨rfl, rfl⟩
  | @object a b c values names =>
    obtain ⟨hplain, hproperties⟩ :=
      agree_entity values (hstep fields (by simp [objectFields]) _ _ names)
    have hid := hplain idField (by decide) (by decide)
    refine ⟨?_, idsAfter_of_agree hid used⟩
    simp only [Node.check, Checked.relabel_andAlso]
    rw [Checked.relabel_optional hid fun _ _ h => by rw [h],
      Checked.relabel_required (hplain labelField (by decide) (by decide)) fun _ _ h => by rw [h],
      Checked.relabel_optional (hproperties (by decide)) fun _ _ => relabel_checkProperties hstep]

theorem Edge.relabel_check (hstep : Keeps step g) (used : Nat) (h : Edge.Rewritten step v w) :
    (Edge.check used v).relabel g = (Edge.check used w).relabel g ∧
      idsAfter used v = idsAfter used w := by
  cases h with
  | same => exact ⟨rfl, rfl⟩
  | @object a b c values names =>
    obtain ⟨hplain, hproperties⟩ :=
      agree_entity values (hstep fields (by simp [objectFields]) _ _ names)
    have hid := hplain idField (by decide) (by decide)
    refine ⟨?_, idsAfter_of_agree hid used⟩
    simp only [Edge.check, Checked.relabel_andAlso]
    rw [Checked.relabel_optional hid fun _ _ h => by rw [h],
      Checked.relabel_required (hplain labelField (by decide) (by decide)) fun _ _ h => by rw [h],
      Checked.relabel_required (hplain startIdField (by decide) (by decide)) fun _ _ h => by rw [h],
      Checked.relabel_required (hplain endIdField (by decide) (by decide)) fun _ _ h => by rw [h],
      Checked.relabel_optional (hproperties (by decide)) fun _ _ => relabel_checkProperties hstep]

end Checks

namespace Load
variable {g : String → String} {step : List FieldName → Members → Members → Prop} {l m : Load}
  {v w : Value} {vs ws : List Value} {take : Load → Value → Load} {alike : Value → Value → Prop}

def relabel (g : String → String) (l : Load) : Load :=
  { l with failure := l.failure.map (LoadError.relabel g) }

/-- Loads that differ in the places of faults only are the same until they stop. -/
theorem relabel_cases (h : l.relabel g = m.relabel g) :
    (l.failure = none ∧ l = m) ∨ (l.failure.isSome ∧ m.failure.isSome) := by
  obtain ⟨store, used, events, failure⟩ := l
  obtain ⟨store', used', events', failure'⟩ := m
  cases failure <;> cases failure' <;> simp_all [relabel]

theorem breaksOff_relabel (g : String → String) (fs : List Fault) :
    Fault.breaksOff (fs.map (Fault.relabel g)) = Fault.breaksOff fs := by
  rw [Fault.breaksOff, List.any_map]
  rfl

theorem relabel_ofFaults {model : Model} {fs fs' : List Fault}
    (h : fs.map (Fault.relabel g) = fs'.map (Fault.relabel g)) (l : Load) :
    (l.fail (.ofFaults model fs)).relabel g = (l.fail (.ofFaults model fs')).relabel g := by
  have hbreaks : Fault.breaksOff fs = Fault.breaksOff fs' := by
    rw [← breaksOff_relabel g fs, h, breaksOff_relabel]
  rw [LoadError.ofFaults, LoadError.ofFaults, hbreaks]
  split
  next => rfl
  next => simp [relabel, fail, LoadError.relabel, Refusal.relabel, h]

theorem relabel_takeNode (hstep : Keeps step g) (hl : l.relabel g = m.relabel g)
    (h : Node.Rewritten step v w) : (l.takeNode v).relabel g = (m.takeNode w).relabel g := by
  rcases relabel_cases hl with ⟨hrunning, rfl⟩ | ⟨hstopped, hstopped'⟩
  · obtain ⟨hcheck, hids⟩ := Node.relabel_check hstep l.used h
    rcases Checked.relabel_cases hcheck with ⟨n, hv, hw⟩ | ⟨fs, fs', hv, hw, hfaults⟩
    · simp only [takeNode, hrunning, hv, hw, hids]
    · simp only [takeNode, hrunning, hv, hw, hids]
      exact relabel_ofFaults hfaults _
  · rw [takeNode, if_pos hstopped, takeNode, if_pos hstopped', hl]

theorem relabel_takeEdge (hstep : Keeps step g) (strict : Bool) (hl : l.relabel g = m.relabel g)
    (h : Edge.Rewritten step v w) :
    (l.takeEdge strict v).relabel g = (m.takeEdge strict w).relabel g := by
  rcases relabel_cases hl with ⟨hrunning, rfl⟩ | ⟨hstopped, hstopped'⟩
  · obtain ⟨hcheck, hids⟩ := Edge.relabel_check hstep l.used h
    rcases Checked.relabel_cases hcheck with ⟨n, hv, hw⟩ | ⟨fs, fs', hv, hw, hfaults⟩
    · simp only [takeEdge, hrunning, hv, hw, hids]
    · simp only [takeEdge, hrunning, hv, hw, hids]
      exact relabel_ofFaults hfaults _
  · rw [takeEdge_stopped hstopped, takeEdge_stopped hstopped', hl]

section All
variable (htake : ∀ (l m : Load) (v w : Value), l.relabel g = m.relabel g → alike v w →
  (take l v).relabel g = (take m w).relabel g)
include htake

theorem relabel_foldl (hl : l.relabel g = m.relabel g) (h : List.Forall₂ alike vs ws) :
    (vs.foldl take l).relabel g = (ws.foldl take m).relabel g := by
  induction h generalizing l m with
  | nil => exact hl
  | cons hhead _ ih => exact ih (htake _ _ _ _ hl hhead)

theorem relabel_takeAll (hl : l.relabel g = m.relabel g) (h : ListRewritten alike v w) :
    (takeAll take v l).relabel g = (takeAll take w m).relabel g := by
  rcases relabel_cases hl with ⟨hrunning, rfl⟩ | ⟨hstopped, hstopped'⟩
  · cases h with
    | same => rfl
    | list items =>
      rw [takeAll_parts hrunning (parts_list _), takeAll_parts hrunning (parts_list _)]
      exact relabel_foldl htake rfl items
  · rw [takeAll, if_pos hstopped, takeAll, if_pos hstopped', hl]

end All

/-- What stands in a document where a list should. -/
theorem rewritten_lookup {parts : Parts} {a b : Members} {name : String} (h : Revalued parts a b)
    (hparts : ∀ change, (name, change) ∈ parts → change = ListRewritten alike) :
    ListRewritten alike ((a.lookup name).getD .null) ((b.lookup name).getD .null) := by
  have hlookup := h.lookup name
  revert hlookup
  generalize a.lookup name = x, b.lookup name = y
  rintro (hvalue | _)
  · rcases hvalue with rfl | ⟨change, hmem, hchange⟩
    · exact .same _
    · exact hparts change hmem ▸ hchange
  · exact .same _

theorem relabel_document (hstep : Keeps step g) (strict : Bool) (used : Nat)
    (h : Rewritten step v w) :
    (document strict used v).relabel g = (document strict used w).relabel g := by
  cases h with
  | same => rfl
  | @object a b c values names =>
    subst names
    have hnodes : ListRewritten (Node.Rewritten step) ((a.lookup "nodes").getD .null)
        ((b.lookup "nodes").getD .null) := rewritten_lookup values (by simp [listParts])
    have hedges : ListRewritten (Edge.Rewritten step) ((a.lookup "edges").getD .null)
        ((b.lookup "edges").getD .null) := rewritten_lookup values (by simp [listParts])
    have hload : (takeAll (takeEdge strict) ((a.lookup "edges").getD .null)
          (takeAll takeNode ((a.lookup "nodes").getD .null) { used })).relabel g =
        (takeAll (takeEdge strict) ((b.lookup "edges").getD .null)
          (takeAll takeNode ((b.lookup "nodes").getD .null) { used })).relabel g :=
      relabel_takeAll (fun _ _ _ _ => relabel_takeEdge hstep strict)
        (relabel_takeAll (fun _ _ _ _ => relabel_takeNode hstep) rfl hnodes) hedges
    unfold document
    dsimp only
    rcases relabel_cases hload with ⟨-, hsame⟩ | ⟨hstopped, hstopped'⟩
    · rw [hsame]
    · rw [if_pos hstopped, if_pos hstopped', hload]

@[simp] theorem relabel_id (l : Load) : l.relabel id = l := by
  have hstep : Step.relabel id = id := by
    funext s
    cases s <;> rfl
  have hfault : Fault.relabel id = id := by
    funext f
    simp [Fault.relabel, hstep]
  have herror : LoadError.relabel id = id := by
    funext e
    cases e <;> simp [LoadError.relabel, Refusal.relabel, hfault]
  simp [relabel, herror]

/-- What a load that differs in the places of faults only has in common with the other one. -/
theorem of_relabel (h : l.relabel g = m.relabel g) :
    (∀ s, l.outcome = .ok s ↔ m.outcome = .ok s) ∧
      (∀ x, l.outcome = .error x → ∃ y, m.outcome = .error y ∧ y.relabel g = x.relabel g) ∧
      l.store = m.store ∧ l.events = m.events := by
  obtain ⟨store, used, events, failure⟩ := l
  obtain ⟨store', used', events', failure'⟩ := m
  cases failure <;> cases failure' <;> simp_all [relabel, outcome]

theorem apart_objectFields : ∀ fs ∈ objectFields, FieldName.Apart fs := by decide

theorem keeps_respelled : Keeps Respelled firstName := by
  have hnames : ∀ fs ∈ objectFields, ∀ f ∈ fs, ∀ n ∈ f.names, firstName n = f.name := by decide
  intro fs hfs a b h f hf
  exact h.agree (apart_objectFields fs hfs) (hnames fs hfs) hf

theorem keeps_pruned : Keeps Pruned id := by
  have hnames : ∀ fs ∈ objectFields, ∀ f ∈ fs, f.alias? ≠ some f.name := by decide
  intro fs hfs a b h f hf
  unfold FieldName.Agree
  rw [h.find?_eq (apart_objectFields fs hfs) (hnames fs hfs) hf]
  cases f.find? a with
  | none => exact .none
  | some m => exact .some ⟨rfl, rfl⟩

/-- A document in which each field stands under one name loads as it does when second names of
fields are exchanged for first ones in its nodes, edges and properties, and other names come in or
go: there is the same store or, after the same entities, an error of the same kind and with the same
causes in the same order, at places that differ in the names of fields only. Where a field stands
under both names, all is as without the first one. -/
theorem document_respelled (strict : Bool) (used : Nat) (v w : Value) :
    (Rewritten Respelled v w →
      (∀ s, (document strict used v).outcome = .ok s ↔ (document strict used w).outcome = .ok s) ∧
      (∀ x, (document strict used v).outcome = .error x →
        ∃ y, (document strict used w).outcome = .error y ∧
          y.relabel firstName = x.relabel firstName) ∧
      (document strict used v).store = (document strict used w).store ∧
      (document strict used v).events = (document strict used w).events) ∧
    (Rewritten Pruned v w → document strict used v = document strict used w) := by
  constructor
  · intro h
    exact of_relabel (relabel_document keeps_respelled strict used h)
  · intro h
    have hsame := relabel_document keeps_pruned strict used h
    rwa [relabel_id, relabel_id] at hsame

/-- A person with one property who has one edge to herself. -/
def person (property edge : Members) : Value := .object [
  ("nodes", .list [.object [("id", .text "p"), ("label", .text "person"),
    ("properties", .list [.object property])]]),
  ("edges", .list [.object edge])]

def age : Members := [("key", .text "age"), ("isRequired", .bool true)]

def knows : Members :=
  [("label", .text "knows"), ("startNodeID", .text "p"), ("endNodeID", .text "p")]

def ageRespelled : Members := [("key", .text "age"), ("is_required", .bool true)]

def knowsRespelled : Members := [("label", .text "knows"), ("start_node_id", .text "p"),
  ("width", .int 2), ("endNodeID", .text "p")]

/-- The start is given twice, and the one that counts is the one that exists. -/
def knowsTwice : Members := [("label", .text "knows"), ("start_node_id", .text "q"),
  ("startNodeID", .text "p"), ("endNodeID", .text "p")]

theorem document_respelled_person :
    ∃ s, (document true 0 (person age knows)).outcome = .ok s ∧
      (document true 0 (person ageRespelled knowsRespelled)).outcome = .ok s ∧
      document true 0 (person age knowsTwice) = document true 0 (person age knows) := by
  have hload : (document true 0 (person age knows)).outcome = .ok _ := rfl
  have hself (parts : Parts) (a : Members) : Revalued parts a a :=
    List.forall₂_same.mpr fun _ _ => ⟨rfl, .inl rfl⟩
  have hage : Property.Rewritten Respelled (.object age) (.object ageRespelled) := by
    refine .object (hself _ _) ⟨by decide, .kept _ ?_⟩
    exact .exchanged (f := Property.isRequiredField) _ (by decide) rfl .nil
  have hknows : Edge.Rewritten Respelled (.object knows) (.object knowsRespelled) := by
    refine .object (hself _ _) ⟨by decide, .kept _ ?_⟩
    refine .exchanged (f := Edge.startIdField) _ (by decide) rfl ?_
    exact .added _ (by decide) (.kept _ .nil)
  have hrespelled :
      Rewritten Respelled (person age knows) (person ageRespelled knowsRespelled) := by
    refine .object ?_ rfl
    refine .cons ⟨rfl, .inr ⟨_, .head _, .list (.cons ?_ .nil)⟩⟩
      (.cons ⟨rfl, .inr ⟨_, .tail _ (.head _), .list (.cons hknows .nil)⟩⟩ .nil)
    refine .object ?_ ⟨by decide, .kept _ (.kept _ (.kept _ .nil))⟩
    exact .cons ⟨rfl, .inl rfl⟩ (.cons ⟨rfl, .inl rfl⟩
      (.cons ⟨rfl, .inr ⟨_, .head _, .list (.cons hage .nil)⟩⟩ .nil))
  have hpruned : Rewritten Pruned (person age knowsTwice) (person age knows) := by
    refine .object ?_ rfl
    refine .cons ⟨rfl, .inl rfl⟩
      (.cons ⟨rfl, .inr ⟨_, .tail _ (.head _), .list (.cons ?_ .nil)⟩⟩ .nil)
    exact .object (hself _ _) ⟨["start_node_id"], by decide, rfl⟩
  obtain ⟨hok, -⟩ := (document_respelled true 0 _ _).1 hrespelled
  exact ⟨_, hload, (hok _).mp hload, (document_respelled true 0 _ _).2 hpruned⟩

end Load

end GraphSchema
