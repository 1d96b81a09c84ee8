import GraphSchema.Proofs.Graph.Effect
import GraphSchema.Proofs.Graph.Faults
import GraphSchema.Proofs.Text.Lines

/-! What checks guarantee of the properties, nodes and edges that pass them. -/
namespace GraphSchema

/-- A limit is absent or a number. -/
def Value.IsLimit : Value → Prop
  | .null | .int _ | .float _ => True
  | _ => False

structure Property.Valid (p : Property) : Prop where
  key : Text.isIdentifier p.key.toList = true
  type : p.scalar?.isSome
  description : ∃ t, p.description = .text t
  isRequired : ∃ b, p.isRequired = .bool b
  isAutoGenerated : ∃ b, p.isAutoGenerated = .bool b
  limitMin : p.limitMin.IsLimit
  limitMax : p.limitMax.IsLimit

theorem Property.type_of_scalar? {p : Property} {s : Scalar} (h : p.scalar? = some s) :
    p.type = .text s.name := by
  unfold Property.scalar? Scalar.ofValue? at h
  split at h
  next name hname => rw [hname, Scalar.ofName?_eq_some.mp h]
  next => simp at h

theorem Property.Valid.exists_scalar {p : Property} (h : p.Valid) :
    ∃ s : Scalar, p.scalar? = some s := Option.isSome_iff_exists.mp h.type

/-- A label is not empty, and no blank stands at either end of it. -/
def ValidLabel (label : String) : Prop :=
  label ≠ "" ∧ Text.trim Text.isBlank label.toList = label.toList

theorem ValidLabel.exists_solid {label : String} (h : ValidLabel label) :
    ∃ c ∈ label.toList, Text.isBlank c = false := by
  obtain ⟨hne, htrim⟩ := h
  have hchars : label.toList ≠ [] := by simpa using hne
  obtain ⟨c, hc⟩ : ∃ c, label.toList.getLast? = some c :=
    ⟨_, List.getLast?_eq_some_getLast hchars⟩
  have hend : c ∈ (Text.trim Text.isBlank label.toList).getLast? := by
    rw [htrim]
    exact hc
  exact ⟨c, List.mem_of_getLast? hc, Text.trimRight_getLast? hend⟩

structure Node.Valid (n : Node) : Prop where
  label : ValidLabel n.label
  properties : ∀ p ∈ n.properties, p.Valid

structure Edge.Valid (e : Edge) : Prop where
  label : ValidLabel e.label
  properties : ∀ p ∈ e.properties, p.Valid

section Fields
variable {α : Type} {f : FieldName} {check : Value → Checked α} {default a : α}
  {fields : List (String × Value)}

theorem FieldName.checked_of_required (h : f.required check fields = .ok a) :
    ∃ found ∈ fields, check found.2 = .ok a := by
  unfold FieldName.required at h
  split at h
  next hfound => exact ⟨_, FieldName.mem_of_find? hfound, Checked.within_eq_ok.mp h⟩
  next => simp [Checked.fault, Checked.within] at h

theorem FieldName.checked_of_optional (h : f.optional default check fields = .ok a) :
    a = default ∨ ∃ found ∈ fields, check found.2 = .ok a := by
  unfold FieldName.optional at h
  split at h
  next hfound => exact .inr ⟨_, FieldName.mem_of_find? hfound, Checked.within_eq_ok.mp h⟩
  next => exact .inl (Except.ok.inj h).symm

/-- An optional field has what its default and every checked value have. -/
@[elab_as_elim]
theorem FieldName.optional_elim {P : α → Prop} (h : f.optional default check fields = .ok a)
    (hdefault : P default) (hcheck : ∀ {v b}, check v = .ok b → P b) : P a := by
  rcases checked_of_optional h with rfl | ⟨_, -, hfound⟩
  · exact hdefault
  · exact hcheck hfound

end Fields

/-- A list passes a check if and only if its items do, each by itself. -/
theorem Checked.each_eq_ok {α β : Type} {check : α → Checked β} {start : Nat} {as : List α}
    {bs : List β} :
    Checked.each check start as = .ok bs ↔ List.Forall₂ (fun a b => check a = .ok b) as bs := by
  induction as generalizing start bs with
  | nil => simp [Checked.each, eq_comm]
  | cons a as ih =>
    constructor
    · intro h
      obtain ⟨_, cs, hfirst, hrest, rfl⟩ := Checked.andAlso_eq_ok.mp h
      obtain ⟨_, c, hcons, ha, rfl⟩ := Checked.andAlso_eq_ok.mp hfirst
      obtain rfl := Except.ok.inj hcons
      exact .cons (Checked.within_eq_ok.mp ha) (ih.mp hrest)
    · intro h
      obtain ⟨b, cs, ha, hrest, rfl⟩ := List.forall₂_cons_left_iff.mp h
      have hfirst : Checked.andAlso (.ok List.cons) (Checked.within (.index start) (check a)) =
          .ok (List.cons b) :=
        Checked.andAlso_eq_ok.mpr ⟨_, b, rfl, Checked.within_eq_ok.mpr ha, rfl⟩
      exact Checked.andAlso_eq_ok.mpr ⟨_, cs, hfirst, ih.mpr hrest, rfl⟩

theorem Checked.checked_of_each {α β : Type} {check : α → Checked β} {start : Nat} {as : List α}
    {bs : List β} (h : Checked.each check start as = .ok bs) :
    ∀ b ∈ bs, ∃ a ∈ as, check a = .ok b := by
  intro b hb
  obtain ⟨i, hi, rfl⟩ := List.getElem_of_mem hb
  have hall := List.forall₂_iff_get.mp (Checked.each_eq_ok.mp h)
  have hi' : i < as.length := hall.1 ▸ hi
  exact ⟨as[i], List.getElem_mem hi', hall.2 i hi' hi⟩

namespace Check
variable {v w : Value} {s : String}

/-- A key has been trimmed, so that no line feed is left behind its identifier. -/
theorem identifier_of_key (h : key v = .ok s) : Text.isIdentifier s.toList = true := by
  unfold key at h
  split at h
  next => simp at h
  next t _ =>
    dsimp only at h
    split at h
    next hpasses =>
      obtain rfl := Except.ok.inj h
      rw [String.toList_ofList] at hpasses ⊢
      unfold Text.passesAsIdentifier at hpasses
      split at hpasses
      next hlast =>
        have hblank := Text.trimRight_getLast? (Option.mem_def.mpr hlast)
        exact absurd hblank (by decide)
      next => exact hpasses
    next => simp [Checked.fault] at h

theorem isLimit_of_limit (h : limit v = .ok w) : w.IsLimit := by
  have hok {x : Value} (h : (.ok x : Checked Value) = .ok w) (hx : x.IsLimit) : w.IsLimit :=
    Except.ok.inj h ▸ hx
  have hnumber {cause : Cause} {t : String} (h : number cause t = .ok w) : w.IsLimit := by
    unfold number at h
    split at h
    next => exact hok h trivial
    next => simp [bothFaults] at h
  unfold limit at h
  split at h
  next => exact hok h trivial
  next => exact hok h trivial
  next => exact hok h trivial
  next => exact hok h trivial
  next =>
    split at h
    next => exact hok h trivial
    next =>
      split at h
      next => exact hok h trivial
      next => exact hnumber h
      next => exact hnumber h
  next => simp [bothFaults] at h

theorem scalar_of_scalarName (h : scalarName v = .ok w) : (Scalar.ofValue? w).isSome := by
  unfold scalarName at h
  split at h
  next s _ =>
    obtain rfl := Except.ok.inj h
    rw [Scalar.ofValue?, Scalar.ofName?_name]
    rfl
  next => simp [Checked.fault] at h

theorem text_of_description (h : description v = .ok w) : ∃ t, w = .text t := by
  unfold description at h
  split at h
  next => exact ⟨"", (Except.ok.inj h).symm⟩
  next =>
    obtain ⟨t, -, rfl⟩ := map_eq_ok.mp h
    exact ⟨t, rfl⟩

theorem valid_of_label {model : Model} (h : label model v = .ok s) : ValidLabel s := by
  unfold label at h
  split at h
  next => simp at h
  next t _ =>
    split at h
    next => simp [Checked.fault] at h
    next hne =>
      obtain rfl := Except.ok.inj h
      unfold ValidLabel
      rw [String.toList_ofList]
      exact ⟨by simpa using hne, Text.trim_trim ..⟩

end Check

theorem Property.bool_of_flag {v w : Value} (h : flag v = .ok w) : ∃ b, w = .bool b := by
  obtain ⟨b, -, rfl⟩ := map_eq_ok.mp h
  exact ⟨b, rfl⟩

theorem Property.valid_of_check {v : Value} {p : Property} (h : Property.check v = .ok p) :
    p.Valid := by
  unfold Property.check at h
  split at h
  next fields =>
    obtain ⟨_, max, h₁, hmax, rfl⟩ := Checked.andAlso_eq_ok.mp h
    obtain ⟨_, min, h₂, hmin, rfl⟩ := Checked.andAlso_eq_ok.mp h₁
    obtain ⟨_, defaultValue, h₃, -, rfl⟩ := Checked.andAlso_eq_ok.mp h₂
    obtain ⟨_, auto, h₄, hauto, rfl⟩ := Checked.andAlso_eq_ok.mp h₃
    obtain ⟨_, required, h₅, hrequired, rfl⟩ := Checked.andAlso_eq_ok.mp h₄
    obtain ⟨_, description, h₆, hdescription, rfl⟩ := Checked.andAlso_eq_ok.mp h₅
    obtain ⟨_, type, h₇, htype, rfl⟩ := Checked.andAlso_eq_ok.mp h₆
    obtain ⟨_, key, h₈, hkey, rfl⟩ := Checked.andAlso_eq_ok.mp h₇
    obtain rfl := Except.ok.inj h₈
    constructor
    case key =>
      obtain ⟨_, -, hv⟩ := FieldName.checked_of_required hkey
      exact Check.identifier_of_key hv
    case type => exact FieldName.optional_elim htype rfl Check.scalar_of_scalarName
    case description =>
      exact FieldName.optional_elim hdescription ⟨"", rfl⟩ Check.text_of_description
    case isRequired => exact FieldName.optional_elim hrequired ⟨false, rfl⟩ bool_of_flag
    case isAutoGenerated => exact FieldName.optional_elim hauto ⟨false, rfl⟩ bool_of_flag
    case limitMin => exact FieldName.optional_elim hmin trivial Check.isLimit_of_limit
    case limitMax => exact FieldName.optional_elim hmax trivial Check.isLimit_of_limit
  next => simp [Checked.fault] at h

/-- A property that is handed over as it is has to be valid; a value is checked. -/
def Draft.Valid : Draft → Prop
  | .property p => p.Valid
  | .value _ => True

def Drafts.Valid : Drafts → Prop
  | .drafts ds => ∀ d ∈ ds, d.Valid
  | .value _ => True

theorem Draft.Valid.of_check {d : Draft} {p : Property} (hd : d.Valid) (h : d.check = .ok p) :
    p.Valid := by
  cases d with
  | property q =>
    obtain rfl := Except.ok.inj h
    exact hd
  | value v => exact Property.valid_of_check h

theorem Drafts.Valid.of_check {ds : Drafts} {ps : List Property} (hds : ds.Valid)
    (h : ds.check = .ok ps) : ∀ p ∈ ps, p.Valid := by
  unfold Drafts.check at h
  intro p hp
  split at h
  next ds =>
    obtain ⟨d, hd, hcheck⟩ := Checked.checked_of_each h p hp
    exact (hds d hd).of_check hcheck
  next vs =>
    obtain ⟨v, -, hcheck⟩ := Checked.checked_of_each h p hp
    exact Property.valid_of_check hcheck
  next => simp [Checked.fault] at h

section Entities
variable {used : Nat} {v : Value} {fields : List (String × Value)} {ps : List Property}

theorem valid_of_checkProperties (h : checkProperties v = .ok ps) : ∀ p ∈ ps, p.Valid :=
  Drafts.Valid.of_check (show (Drafts.value v).Valid from trivial) h

theorem valid_of_properties
    (h : propertiesField.optional [] checkProperties fields = .ok ps) : ∀ p ∈ ps, p.Valid :=
  FieldName.optional_elim h (fun _ hp => absurd hp List.not_mem_nil) valid_of_checkProperties

theorem Node.valid_of_check {n : Node} (h : Node.check used v = .ok n) : n.Valid := by
  unfold Node.check at h
  split at h
  next =>
    obtain ⟨_, ps, h₁, hps, rfl⟩ := Checked.andAlso_eq_ok.mp h
    obtain ⟨_, label, h₂, hlabel, rfl⟩ := Checked.andAlso_eq_ok.mp h₁
    obtain ⟨_, id, h₃, -, rfl⟩ := Checked.andAlso_eq_ok.mp h₂
    obtain rfl := Except.ok.inj h₃
    obtain ⟨_, -, hv⟩ := FieldName.checked_of_required hlabel
    exact ⟨Check.valid_of_label hv, valid_of_properties hps⟩
  next => simp [Checked.fault] at h

theorem Edge.valid_of_check {e : Edge} (h : Edge.check used v = .ok e) : e.Valid := by
  unfold Edge.check at h
  split at h
  next =>
    obtain ⟨_, ps, h₁, hps, rfl⟩ := Checked.andAlso_eq_ok.mp h
    obtain ⟨_, finish, h₂, -, rfl⟩ := Checked.andAlso_eq_ok.mp h₁
    obtain ⟨_, start, h₃, -, rfl⟩ := Checked.andAlso_eq_ok.mp h₂
    obtain ⟨_, label, h₄, hlabel, rfl⟩ := Checked.andAlso_eq_ok.mp h₃
    obtain ⟨_, id, h₅, -, rfl⟩ := Checked.andAlso_eq_ok.mp h₄
    obtain rfl := Except.ok.inj h₅
    obtain ⟨_, -, hv⟩ := FieldName.checked_of_required hlabel
    exact ⟨Check.valid_of_label hv, valid_of_properties hps⟩
  next => simp [Checked.fault] at h

end Entities

/-- All entities are as checks leave them. -/
structure Store.Valid (s : Store) : Prop where
  nodes : ∀ n ∈ s.allNodes, n.Valid
  edges : ∀ e ∈ s.allEdges, e.Valid

/-- What an edit adds as it is, is valid. -/
def Edit.Valid : Edit → Prop
  | .addNode n => n.Valid
  | .addEdge e => e.Valid
  | .setNodeProperties _ ds => ds.Valid
  | .setEdgeProperties _ ds => ds.Valid
  | _ => True

theorem Store.valid_empty : empty.Valid :=
  ⟨fun _ hn => absurd hn List.not_mem_nil, fun _ he => absurd he List.not_mem_nil⟩

namespace Store
variable {s t : Store} (hs : s.Valid)
include hs

theorem Valid.node_added {n : Node} (hn : n.Valid) :
    Valid { s with nodes := s.nodes.add n.id n } := by
  refine ⟨fun m hm => ?_, hs.edges⟩
  rcases Registry.mem_entities_add.mp hm with hm | rfl
  · exact hs.nodes m hm
  · exact hn

theorem Valid.edge_added {e : Edge} (he : e.Valid) :
    Valid { s with edges := s.edges.add e.id e } := by
  refine ⟨hs.nodes, fun f hf => ?_⟩
  rcases Registry.mem_entities_add.mp hf with hf | rfl
  · exact hs.edges f hf
  · exact he

theorem Valid.node_replaced {id : String} {n : Node} (hn : n.Valid) :
    Valid { s with nodes := s.nodes.replace id n } := by
  refine ⟨fun m hm => ?_, hs.edges⟩
  rcases Registry.mem_entities_replace hm with hm | rfl
  · exact hs.nodes m hm
  · exact hn

theorem Valid.edge_replaced {id : String} {e : Edge} (he : e.Valid) :
    Valid { s with edges := s.edges.replace id e } := by
  refine ⟨hs.nodes, fun f hf => ?_⟩
  rcases Registry.mem_entities_replace hf with hf | rfl
  · exact hs.edges f hf
  · exact he

end Store

theorem Effect.valid {s t : Store} {e : Edit} (he : e.Valid) (h : Effect s e t) (hs : s.Valid) :
    t.Valid := by
  cases h with
  | addNode _ => exact hs.node_added he
  | addEdge _ _ _ => exact hs.edge_added he
  | @removeNode id _ =>
    refine ⟨fun n hn => hs.nodes n (Registry.entities_remove_subset hn), fun e he => ?_⟩
    have hkeep : e ∈ s.allEdges.filter fun e => !Store.touches id e :=
      (Registry.entities_filter (r := s.edges) fun e => !Store.touches id e) ▸ he
    exact hs.edges e (List.mem_of_mem_filter hkeep)
  | removeEdge _ => exact ⟨hs.nodes, fun e he => hs.edges e (Registry.entities_remove_subset he)⟩
  | labelNode found checked =>
    have hn := hs.nodes _ (Registry.mem_entities_of_get? found)
    exact hs.node_replaced ⟨Check.valid_of_label checked, hn.properties⟩
  | labelEdge found checked =>
    have he := hs.edges _ (Registry.mem_entities_of_get? found)
    exact hs.edge_replaced ⟨Check.valid_of_label checked, he.properties⟩
  | fillNode found checked =>
    have hn := hs.nodes _ (Registry.mem_entities_of_get? found)
    exact hs.node_replaced ⟨hn.label, Drafts.Valid.of_check he checked⟩
  | fillEdge found checked =>
    have hold := hs.edges _ (Registry.mem_entities_of_get? found)
    exact hs.edge_replaced ⟨hold.label, Drafts.Valid.of_check he checked⟩
  | clear => exact Store.valid_empty

namespace Store
variable {s : Store}

/-- A loaded store is valid, however its edges were taken. -/
theorem valid_of_document {strict : Bool} {used : Nat} {v : Value}
    (h : (Load.document strict used v).outcome = .ok s) : s.Valid := by
  refine Load.document_keeps ?_ ?_ valid_empty h
  · intro used v n s t _ hcheck hadd hs
    obtain ⟨-, rfl⟩ := addNode_eq_ok.mp hadd
    exact hs.node_added (Node.valid_of_check hcheck)
  · intro used v e s t _ hcheck hinsert hs
    obtain ⟨-, rfl⟩ := registerEdge_eq_ok.mp (Load.registerEdge_of_insertEdge hinsert)
    exact hs.edge_added (Edge.valid_of_check hcheck)

/-- Edits that add nothing but valid entities keep a store valid. -/
theorem valid_of_run {es : List Edit} (hes : ∀ e ∈ es, e.Valid) (hs : s.Valid) :
    (s.afterAll es).Valid :=
  afterAll_keeps Effect.valid hes hs

end Store
end GraphSchema
